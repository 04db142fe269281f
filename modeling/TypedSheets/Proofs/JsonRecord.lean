import Mathlib.Data.List.Forall2
import TypedSheets.Proofs.JsonText
import TypedSheets.Workbook.Container

/-!
# Records in JSON documents

A record is given by an object, which may have further members (`Json.HasFields`), or by an array of
its fields in their order (`Json.Gives`). A record that is read has each field once at most. What is
said of all parts of a document is said of the items of an array and of the members of an object.
-/

namespace TypedSheets

/-! ## Lists that are read item by item -/

/-- Items that are read as others one by one are read as a list of these. -/
theorem mapM_of_forall₂ {α β : Type} {R : β → α → Prop} {f : α → Option β}
    {ys : List β} {xs : List α} (h : List.Forall₂ R ys xs)
    (hf : ∀ y, ∀ x ∈ xs, R y x → f x = some y) : xs.mapM f = some ys := by
  induction h with
  | nil => rfl
  | @cons y x ys xs hyx hrest ih =>
    obtain ⟨hfirst, hothers⟩ : f x = some y ∧ ∀ y, ∀ x ∈ xs, R y x → f x = some y :=
      ⟨hf y x List.mem_cons_self hyx, fun y x hx => hf y x (List.mem_cons_of_mem _ hx)⟩
    simp [hfirst, ih hothers]

/-- In a list that is read, each item is read as the one in its place. -/
theorem getElem?_of_mapM {α β : Type} {f : α → Option β} {x : α} :
    ∀ {xs : List α} {ys : List β} {i : Nat},
    xs.mapM f = some ys → xs[i]? = some x → ∃ y, ys[i]? = some y ∧ f x = some y
  | [], _, _, _, hx => nomatch hx
  | first :: xs, ys, i, h, hx => by
    simp only [List.mapM_cons, Option.bind_eq_bind, Option.bind_eq_some_iff] at h
    obtain ⟨y, hy, others, hothers, hys⟩ := h
    obtain rfl := Option.some.inj hys
    cases i with
    | zero => exact ⟨y, rfl, Option.some.inj hx ▸ hy⟩
    | succ i =>
      rw [List.getElem?_cons_succ] at hx ⊢
      exact getElem?_of_mapM hothers hx

theorem exists_of_mapM {α β : Type} {f : α → Option β} {xs : List α} {ys : List β}
    (h : xs.mapM f = some ys) : ∀ x ∈ xs, ∃ y, f x = some y := by
  intro x hx
  obtain ⟨i, hi⟩ := List.mem_iff_getElem?.mp hx
  obtain ⟨y, -, hy⟩ := getElem?_of_mapM h hi
  exact ⟨y, hy⟩

theorem eq_singleton_of_mem {α : Type} {xs : List α} {x : α} (h : xs.length ≤ 1)
    (hx : x ∈ xs) : xs = [x] := by
  obtain ⟨y, rfl⟩ := List.length_eq_one_iff.mp (Nat.le_antisymm h (List.length_pos_of_mem hx))
  rw [List.mem_singleton.mp hx]

theorem exists_forall₂ {α β : Type} {R : α → β → Prop} {P : β → Prop} :
    ∀ {xs : List α},
    (∀ x ∈ xs, ∃ y, R x y ∧ P y) → ∃ ys, List.Forall₂ R xs ys ∧ ∀ y ∈ ys, P y
  | [], _ => ⟨[], .nil, nofun⟩
  | x :: xs, h => by
    obtain ⟨⟨y, hxy, hy⟩, hrest⟩ := List.forall_mem_cons.mp h
    obtain ⟨ys, hys, hall⟩ := exists_forall₂ hrest
    exact ⟨y :: ys, .cons hxy hys, List.forall_mem_cons.mpr ⟨hy, hall⟩⟩

namespace Json

/-! ## Objects with further members -/

/-- The members with a name among the documented ones are the given fields, in any order. -/
def HasFields (members : List (String × Json)) (documented : List String)
    (fields : List (String × Json)) : Prop :=
  (members.filter fun m => documented.contains m.1).Perm fields

theorem HasFields.valuesOf_eq {members fields : List (String × Json)} {documented : List String}
    (h : HasFields members documented fields) (key : String) (hkey : key ∈ documented)
    (hfield : (valuesOf fields key).length ≤ 1) : valuesOf members key = valuesOf fields key := by
  have hfilter : members.filter (·.1 == key) =
      (members.filter fun m => documented.contains m.1).filter (·.1 == key) := by
    rw [List.filter_filter]
    refine List.filter_congr fun m _ => ?_
    cases hm : m.1 == key with
    | false => simp
    | true => simp [beq_iff_eq.mp hm, hkey]
  have hperm : (valuesOf members key).Perm (valuesOf fields key) := by
    rw [valuesOf, hfilter]
    exact (h.filter _).map _
  cases hvalues : valuesOf fields key with
  | nil => exact (hvalues ▸ hperm).eq_nil
  | cons v rest =>
    rw [eq_singleton_of_mem hfield (hvalues ▸ List.mem_cons_self)] at hperm
    rw [List.perm_singleton.mp hperm, ← hvalues,
      eq_singleton_of_mem hfield (hvalues ▸ List.mem_cons_self)]

theorem HasFields.mem {members fields : List (String × Json)} {documented : List String}
    {m : String × Json} (h : HasFields members documented fields) (hm : m ∈ fields) :
    m ∈ members :=
  (List.mem_filter.mp (h.mem_iff.mpr hm)).1

/-! ## Fields of a record -/

variable {members : List (String × Json)} {key : String} {v : Json}

theorem str?_eq_some_iff {text : String} : v.str? = some text ↔ v = .string text := by
  cases v <;> simp [str?]

theorem record?_object (fields : List String)
    (h : ∀ key ∈ fields, (valuesOf members key).length ≤ 1) :
    record? fields (.object members) = some fun key => (valuesOf members key).head? :=
  if_pos (List.all_eq_true.mpr fun key hkey => decide_eq_true (h key hkey))

/-- The fields of an object that is a record are given once at most. -/
theorem length_le_of_record? {fields : List String} {field : String → Option Json}
    (h : record? fields (.object members) = some field) :
    (∀ key ∈ fields, (valuesOf members key).length ≤ 1) ∧
      field = fun key => (valuesOf members key).head? := by
  obtain ⟨hall, hfield⟩ := Option.ite_none_right_eq_some.mp h
  exact ⟨fun key hkey => of_decide_eq_true (List.all_eq_true.mp hall key hkey),
    (Option.some.inj hfield).symm⟩

theorem valuesOf_eq_singleton (h : (valuesOf members key).length ≤ 1)
    (hhead : (valuesOf members key).head? = some v) : valuesOf members key = [v] :=
  eq_singleton_of_mem h (List.mem_of_head? hhead)

/-- The value is given for a field of a record, by the member of that name or by the item in its
place. -/
inductive Gives (fields : List String) (key : String) (v : Json) : Json → Prop
  | member {members : List (String × Json)} (mem : (key, v) ∈ members) :
      Gives fields key v (.object members)
  | item {items : List Json} (mem : (key, v) ∈ fields.zip items) :
      Gives fields key v (.array items)

theorem find?_zip {α : Type} {v : α} : ∀ {keys : List String} {items : List α},
    keys.Nodup → (key, v) ∈ keys.zip items →
      (keys.zip items).find? (·.1 == key) = some (key, v)
  | [], _, _, hmem => by simp at hmem
  | _ :: _, [], _, hmem => by simp at hmem
  | first :: keys, item :: items, hnodup, hmem => by
    obtain ⟨hfirst, hnodup⟩ := List.nodup_cons.mp hnodup
    rw [List.zip_cons_cons] at hmem ⊢
    rcases List.mem_cons.mp hmem with heq | hmem
    · rw [← heq, List.find?_cons_of_pos (by simp)]
    · have hne : first ≠ key := fun h => hfirst (h ▸ (List.of_mem_zip hmem).1)
      rw [List.find?_cons_of_neg (by simpa using hne), find?_zip hnodup hmem]

/-- A record that is read gives each of its fields one value. -/
theorem record?_of_gives {fields : List String} {j : Json} {field : String → Option Json}
    (h : j.record? fields = some field) (hfields : fields.Nodup) (hkey : key ∈ fields)
    (hgives : Gives fields key v j) : field key = some v := by
  cases hgives with
  | @member members hmem =>
    obtain ⟨hlength, rfl⟩ := length_le_of_record? h
    have hv : v ∈ valuesOf members key :=
      List.mem_map.mpr ⟨_, List.mem_filter.mpr ⟨hmem, by simp⟩, rfl⟩
    simp only [eq_singleton_of_mem (hlength key hkey) hv, List.head?_cons]
  | @item items hmem =>
    obtain ⟨-, hfield⟩ := Option.ite_none_right_eq_some.mp h
    obtain rfl := Option.some.inj hfield
    simp only [find?_zip hfields hmem, Option.map_some]

/-! ## All parts of a document -/

variable {p : Numeral → Bool} {items : List Json} {k : Nat}

theorem soundList_iff : soundList p items = true ↔ ∀ j ∈ items, j.sound p = true := by
  induction items with
  | nil => simp [soundList]
  | cons j items ih => simp [soundList, ih]

theorem soundMembers_iff :
    soundMembers p members = true ↔ ∀ m ∈ members, m.2.sound p = true := by
  induction members with
  | nil => simp [soundMembers]
  | cons m members ih => rw [soundMembers, Bool.and_eq_true, ih, List.forall_mem_cons]

theorem depthList_le_iff : depthList items ≤ k ↔ ∀ j ∈ items, j.depth ≤ k := by
  induction items with
  | nil => simp [depthList]
  | cons j items ih => rw [depthList, Nat.max_le, ih, List.forall_mem_cons]

theorem depthMembers_le_iff :
    depthMembers members ≤ k ↔ ∀ m ∈ members, m.2.depth ≤ k := by
  induction members with
  | nil => simp [depthMembers]
  | cons m members ih => rw [depthMembers, Nat.max_le, ih, List.forall_mem_cons]

/-- All of the document can be read, and its text as well, and it has no more levels than `k`. -/
structure IsReadable (read : NumberReading) (k : Nat) (j : Json) : Prop where
  inRange : j.sound (Numeral.inRange read) = true
  isPlain : j.sound Numeral.isPlain = true
  depth_le : j.depth ≤ k

namespace IsReadable

variable {read : NumberReading}

theorem leaf {j : Json} (hsound : ∀ p, j.sound p = true) (hdepth : j.depth = 0) :
    j.IsReadable read k :=
  ⟨hsound _, hsound _, hdepth ▸ Nat.zero_le k⟩

theorem array (h : ∀ j ∈ items, j.IsReadable read k) :
    (Json.array items).IsReadable read (k + 1) where
  inRange := soundList_iff.mpr fun j hj => (h j hj).inRange
  isPlain := soundList_iff.mpr fun j hj => (h j hj).isPlain
  depth_le := Nat.succ_le_succ (depthList_le_iff.mpr fun j hj => (h j hj).depth_le)

theorem object (h : ∀ m ∈ members, m.2.IsReadable read k) :
    (Json.object members).IsReadable read (k + 1) where
  inRange := soundMembers_iff.mpr fun m hm => (h m hm).inRange
  isPlain := soundMembers_iff.mpr fun m hm => (h m hm).isPlain
  depth_le := Nat.succ_le_succ (depthMembers_le_iff.mpr fun m hm => (h m hm).depth_le)

theorem of_array (h : (Json.array items).IsReadable read (k + 1)) :
    ∀ j ∈ items, j.IsReadable read k :=
  fun j hj => ⟨soundList_iff.mp h.inRange j hj, soundList_iff.mp h.isPlain j hj,
    depthList_le_iff.mp (Nat.le_of_succ_le_succ h.depth_le) j hj⟩

theorem of_object (h : (Json.object members).IsReadable read (k + 1)) :
    ∀ m ∈ members, m.2.IsReadable read k :=
  fun m hm => ⟨soundMembers_iff.mp h.inRange m hm, soundMembers_iff.mp h.isPlain m hm,
    depthMembers_le_iff.mp (Nat.le_of_succ_le_succ h.depth_le) m hm⟩

/-- What is given for a field of a record is one level less deep than the record. -/
theorem of_gives {fields : List String} {j : Json} (h : j.IsReadable read (k + 1))
    (hgives : Gives fields key v j) : v.IsReadable read k := by
  cases hgives with
  | member mem => exact h.of_object _ mem
  | item mem => exact h.of_array _ (List.of_mem_zip mem).2

end IsReadable

end Json

end TypedSheets
