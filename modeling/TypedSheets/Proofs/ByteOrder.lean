/-!
# The order of texts

Texts are compared character by character, by code points. This is the order of the bytes that
encode them in UTF-8 (`lt_iff_bytes_lt`): the encodings of two characters part at a byte that is
lower for the lower character (`below_utf8EncodeChar`), so that what follows does not matter.
-/

namespace TypedSheets.Text

/-- The bytes that encode a text in UTF-8. -/
def bytes (s : String) : List UInt8 :=
  s.toByteArray.data.toList

theorem bytes_eq_flatMap (s : String) : bytes s = s.toList.flatMap String.utf8EncodeChar := by
  rw [bytes, ← String.utf8Encode_toList, List.utf8Encode, List.data_toByteArray]

/-- The first list of bytes is lower than the second, whatever follows. -/
def Below (xs ys : List UInt8) : Prop :=
  ∀ rest rest', xs ++ rest < ys ++ rest'

theorem below_ofNat {m n : Nat} {xs ys : List UInt8} (hm : m < 256) (hn : n < 256) (hle : m ≤ n)
    (h : m = n → Below xs ys) : Below (UInt8.ofNat m :: xs) (UInt8.ofNat n :: ys) := by
  intro rest rest'
  rw [List.cons_append, List.cons_append, List.cons_lt_cons_iff]
  rcases Nat.lt_or_eq_of_le hle with hlt | rfl
  · refine .inl (UInt8.lt_iff_toNat_lt.mpr ?_)
    rwa [UInt8.toNat_ofNat_of_lt' hm, UInt8.toNat_ofNat_of_lt' hn]
  · exact .inr ⟨rfl, h rfl rest rest'⟩

theorem below_ofNat_of_lt {m n : Nat} {xs ys : List UInt8} (hm : m < 256) (hn : n < 256)
    (hlt : m < n) : Below (UInt8.ofNat m :: xs) (UInt8.ofNat n :: ys) :=
  below_ofNat hm hn (Nat.le_of_lt hlt) fun heq => absurd heq (Nat.ne_of_lt hlt)

/-- The encodings of two characters part at some byte: at the first one if they differ in length,
and where the digits of the code points do if not. -/
theorem below_utf8EncodeChar {c d : Char} (h : c < d) :
    Below (String.utf8EncodeChar c) (String.utf8EncodeChar d) := by
  have hlt : c.val.toNat < d.val.toNat := h
  have hbound : d.val.toNat < 0x110000 := by
    have hvalid := d.valid
    simp only [UInt32.isValidChar, Nat.isValidChar] at hvalid
    omega
  unfold String.utf8EncodeChar
  generalize c.val.toNat = m at hlt
  generalize d.val.toNat = n at hlt hbound
  dsimp only
  split
  · repeat' split
    all_goals exact below_ofNat_of_lt (by omega) (by omega) (by omega)
  split
  · rw [if_neg (by omega)]
    split
    · refine below_ofNat (by omega) (by omega) (by omega) fun _ => ?_
      exact below_ofNat_of_lt (by omega) (by omega) (by omega)
    · split <;> exact below_ofNat_of_lt (by omega) (by omega) (by omega)
  split
  · rw [if_neg (by omega), if_neg (by omega)]
    split
    · refine below_ofNat (by omega) (by omega) (by omega) fun _ => ?_
      refine below_ofNat (by omega) (by omega) (by omega) fun _ => ?_
      exact below_ofNat_of_lt (by omega) (by omega) (by omega)
    · exact below_ofNat_of_lt (by omega) (by omega) (by omega)
  · rw [if_neg (by omega), if_neg (by omega), if_neg (by omega)]
    refine below_ofNat (by omega) (by omega) (by omega) fun _ => ?_
    refine below_ofNat (by omega) (by omega) (by omega) fun _ => ?_
    refine below_ofNat (by omega) (by omega) (by omega) fun _ => ?_
    exact below_ofNat_of_lt (by omega) (by omega) (by omega)

theorem flatMap_utf8EncodeChar_lt {s t : List Char} (h : s < t) :
    s.flatMap String.utf8EncodeChar < t.flatMap String.utf8EncodeChar := by
  induction h with
  | nil =>
    rename_i c rest
    obtain ⟨b, bs, hb⟩ := List.exists_cons_of_ne_nil (@String.utf8EncodeChar_ne_nil c)
    rw [List.flatMap_cons, hb]
    exact List.nil_lt_cons _ _
  | rel hlt =>
    rw [List.flatMap_cons, List.flatMap_cons]
    exact below_utf8EncodeChar hlt _ _
  | cons _ ih =>
    rw [List.flatMap_cons, List.flatMap_cons]
    exact List.append_left_lt ih

/-- A text comes before another just when its bytes do. -/
theorem lt_iff_bytes_lt {s t : String} : s < t ↔ bytes s < bytes t := by
  have hmono : ∀ {s t : String}, s < t → bytes s < bytes t := fun h => by
    rw [bytes_eq_flatMap, bytes_eq_flatMap]
    exact flatMap_utf8EncodeChar_lt h
  refine ⟨hmono, fun h => String.not_le.mp fun hle => ?_⟩
  by_cases heq : t = s
  · exact List.lt_irrefl _ (heq ▸ h)
  · have hlt : t < s := String.not_le.mp fun hge => heq (String.le_antisymm hle hge)
    exact List.lt_asymm h (hmono hlt)

theorem le_iff_bytes_le {s t : String} : s ≤ t ↔ bytes s ≤ bytes t :=
  not_congr lt_iff_bytes_lt

/-! ## Sorting by texts -/

variable {α : Type} (key : α → String)

theorem notBefore_iff {s t : String} : decide (¬t < s) = true ↔ s ≤ t :=
  decide_eq_true_iff

theorem notBefore_trans (a b c : α) (hab : decide (¬key b < key a) = true)
    (hbc : decide (¬key c < key b) = true) : decide (¬key c < key a) = true :=
  notBefore_iff.mpr (String.le_trans (notBefore_iff.mp hab) (notBefore_iff.mp hbc))

theorem notBefore_total (a b : α) :
    (decide (¬key b < key a) || decide (¬key a < key b)) = true := by
  rw [Bool.or_eq_true, notBefore_iff, notBefore_iff]
  exact String.le_total (key a) (key b)

end TypedSheets.Text
