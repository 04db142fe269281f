import TypedSheets.Json.Printer
import TypedSheets.Json.Reader

/-!
# Reading a written document back

A document is read back from its text as it was written, if its numerals consist of digits and no
string of it is garbled (`Json.parse?_pretty`). Each reader is shown to take what was written for it
from the front of a text and to leave the rest; what follows a number has to end it
(`Json.EndsNumber`). As many steps as the written part has characters are enough.
-/

namespace TypedSheets

/-- Whether what is written after the point are digits. -/
def Numeral.isPlain (n : Numeral) : Bool :=
  n.fraction.all Char.isDigit

namespace Json

open Text

/-- No part of a number begins here. -/
def EndsNumber (s : List Char) : Prop :=
  ∀ c ∈ s.head?, c.isDigit = false ∧ c ≠ '.' ∧ c ≠ 'e' ∧ c ≠ 'E'

theorem endsNumber_cons {c : Char} (s : List Char) (h : c ∈ [',', '\n', ']', '\x7d']) :
    EndsNumber (c :: s) := by
  intro d hd
  obtain rfl : c = d := by simpa using hd
  simp only [List.mem_cons, List.not_mem_nil, or_false] at h
  rcases h with rfl | rfl | rfl | rfl <;> decide

/-! ## Numbers -/

theorem readDigits?_append {ds rest : List Char} (hne : ds ≠ [])
    (hds : ∀ c ∈ ds, c.isDigit = true) (hrest : ∀ c ∈ rest.head?, c.isDigit = false) :
    readDigits? (ds ++ rest) = some (ds, rest) := by
  have htake : rest.takeWhile Char.isDigit = [] := by
    cases rest with
    | nil => rfl
    | cons c rest => rw [List.takeWhile_cons_of_neg (by simp [hrest c (by simp)])]
  have hdrop : rest.dropWhile Char.isDigit = rest := by
    cases rest with
    | nil => rfl
    | cons c rest => rw [List.dropWhile_cons_of_neg (by simp [hrest c (by simp)])]
  rw [readDigits?, List.takeWhile_append_of_pos hds, List.dropWhile_append_of_pos hds, htake, hdrop,
    List.append_nil]
  cases ds with
  | nil => exact absurd rfl hne
  | cons c ds => rfl

theorem isDigit_of_mem_toDigits {n : Nat} : ∀ c ∈ Nat.toDigits 10 n, c.isDigit = true :=
  fun _ => Nat.isDigit_of_mem_toDigits (by decide) (by decide)

theorem digitsValue_toDigits (n : Nat) : digitsValue 0 (Nat.toDigits 10 n) = n :=
  Nat.ofDigitChars_ten_toDigits

/-- A positive number is not written with a zero in front. -/
theorem toDigits_eq_cons {n : Nat} (hn : 0 < n) :
    ∃ c ds, Nat.toDigits 10 n = c :: ds ∧ c ≠ '0' := by
  induction n using Nat.strongRecOn with
  | _ n ih =>
    rcases Nat.lt_or_ge n 10 with hlt | hge
    · have hdigit : ∀ n < 10, 0 < n → n.digitChar ≠ '0' := by decide
      exact ⟨_, [], Nat.toDigits_of_lt_base hlt, hdigit n hlt hn⟩
    · obtain ⟨c, ds, hds, hc⟩ := ih (n / 10) (by omega) (by omega)
      refine ⟨c, ds ++ [(n % 10).digitChar], ?_, hc⟩
      rw [Nat.toDigits_of_base_le (by decide) hge, hds, List.cons_append]

theorem readWhole?_toDigits (n : Nat) {rest : List Char}
    (hrest : ∀ c ∈ rest.head?, c.isDigit = false) :
    readWhole? (Nat.toDigits 10 n ++ rest) = some (n, rest) := by
  rcases Nat.eq_zero_or_pos n with rfl | hn
  · cases rest with
    | nil => rfl
    | cons c rest => simp [readWhole?, hrest c (by simp)]
  · have hdigits := readDigits?_append Nat.toDigits_ne_nil (@isDigit_of_mem_toDigits n) hrest
    obtain ⟨c, ds, hds, hc⟩ := toDigits_eq_cons hn
    rw [readWhole?, hdigits, Option.map_some]
    · simp only [digitsValue_toDigits]
    · intro rest' h
      rw [hds, List.cons_append] at h
      exact hc (List.cons.inj h).1

/-- The exponent as it is written. -/
def exponentChars : Option Int → List Char
  | none => []
  | some e => 'e' :: (if e < 0 then '-' else '+') :: Nat.toDigits 10 e.natAbs

/-- The point and what is written after it. -/
def fractionChars (ds : List Char) : List Char :=
  if ds = [] then [] else '.' :: ds

theorem chars_eq (n : Numeral) : n.chars = (if n.negative then ['-'] else []) ++
    (Nat.toDigits 10 n.whole ++ (fractionChars n.fraction ++ exponentChars n.exponent)) := by
  obtain ⟨negative, whole, fraction, exponent⟩ := n
  cases exponent <;> simp [Numeral.chars, fractionChars, exponentChars]

theorem readExponent?_exponentChars (e : Option Int) {rest : List Char} (hrest : EndsNumber rest) :
    readExponent? (exponentChars e ++ rest) = some (e, rest) := by
  have hdigit : ∀ c ∈ rest.head?, c.isDigit = false := fun c hc => (hrest c hc).1
  cases e with
  | none =>
    cases rest with
    | nil => rfl
    | cons c rest =>
      obtain ⟨-, -, he, hE⟩ := hrest c (by simp)
      simp [exponentChars, readExponent?, he, hE]
  | some e =>
    have hdigits :=
      readDigits?_append Nat.toDigits_ne_nil (@isDigit_of_mem_toDigits e.natAbs) hdigit
    by_cases hneg : e < 0
    · simp only [exponentChars, hneg, if_true, List.cons_append, readExponent?, true_or, readSign,
        hdigits, Option.map_some, digitsValue_toDigits]
      congr 3
      omega
    · simp only [exponentChars, hneg, if_false, List.cons_append, readExponent?, true_or, if_true,
        readSign, hdigits, Option.map_some, digitsValue_toDigits, Bool.false_eq_true]
      congr 3
      omega

theorem head?_exponentChars (e : Option Int) {rest : List Char} (hrest : EndsNumber rest) :
    ∀ c ∈ (exponentChars e ++ rest).head?, c.isDigit = false ∧ c ≠ '.' := by
  cases e with
  | none => exact fun c hc => ⟨(hrest c hc).1, (hrest c hc).2.1⟩
  | some e =>
    intro c hc
    obtain rfl : 'e' = c := by simpa [exponentChars] using hc
    decide

theorem readFraction?_fractionChars {ds rest : List Char} (hds : ∀ c ∈ ds, c.isDigit = true)
    (hrest : ∀ c ∈ rest.head?, c.isDigit = false ∧ c ≠ '.') :
    readFraction? (fractionChars ds ++ rest) = some (ds, rest) := by
  cases ds with
  | nil =>
    cases rest with
    | nil => rfl
    | cons c rest => simp [fractionChars, readFraction?, (hrest c (by simp)).2]
  | cons d ds =>
    exact readDigits?_append (List.cons_ne_nil d ds) hds fun c hc => (hrest c hc).1

/-- A number is read back from its digits. -/
theorem readNumeral?_chars {n : Numeral} (h : n.isPlain = true) {rest : List Char}
    (hrest : EndsNumber rest) : readNumeral? (n.chars ++ rest) = some (n, rest) := by
  have hexponent := readExponent?_exponentChars n.exponent hrest
  have hfraction := readFraction?_fractionChars (List.all_eq_true.mp h)
    (head?_exponentChars n.exponent hrest)
  have hwhole : readWhole? (Nat.toDigits 10 n.whole ++
      (fractionChars n.fraction ++ (exponentChars n.exponent ++ rest))) =
        some (n.whole, fractionChars n.fraction ++ (exponentChars n.exponent ++ rest)) := by
    refine readWhole?_toDigits _ fun c hc => ?_
    unfold fractionChars at hc
    split at hc
    · exact (head?_exponentChars n.exponent hrest c hc).1
    · obtain rfl : '.' = c := by simpa using hc
      decide
  obtain ⟨negative, whole, fraction, exponent⟩ := n
  simp only at hexponent hfraction hwhole
  rw [chars_eq]
  cases negative with
  | true =>
    simp only [readNumeral?, if_true, List.cons_append, List.nil_append, List.append_assoc, hwhole,
      hfraction, hexponent, Option.bind_eq_bind, Option.bind_some, Option.pure_def]
  | false =>
    obtain ⟨c, ds, hds⟩ :=
      List.exists_cons_of_ne_nil (Nat.toDigits_ne_nil : Nat.toDigits 10 whole ≠ [])
    have hc : c.isDigit = true := isDigit_of_mem_toDigits c (hds ▸ List.mem_cons_self)
    simp only [readNumeral?, Bool.false_eq_true, if_false, List.nil_append, List.append_assoc]
    split
    · next heq =>
      rw [hds, List.cons_append] at heq
      obtain rfl : c = '-' := (List.cons.inj heq).1
      exact absurd hc (by decide)
    · simp only [hwhole, hfraction, hexponent, Option.bind_eq_bind, Option.bind_some,
        Option.pure_def]

/-! ## Strings -/

theorem readUnits?_escaped {c e : Char} (he : e ≠ 'u') (hc : escaped? e = some c)
    (s : List Char) :
    readUnits? ('\\' :: e :: s) = (readUnits? s).map fun (units, rest) =>
      (.char c :: units, rest) := by
  rw [readUnits?, hc]
  · cases readUnits? s <;> rfl
  · intro a b c d rest h
    exact absurd h (by simp [he])

theorem readUnits?_hex4 {c : Char} (hc : c.toNat < 0xD800) (s : List Char) :
    readUnits? ('\\' :: 'u' :: (hex4 c.toNat ++ s)) =
      (readUnits? s).map fun (units, rest) => (.char c :: units, rest) := by
  have hunit : CodeUnit.ofNat c.toNat = .char c := by
    rw [CodeUnit.ofNat, if_neg (by omega), Char.ofNat_toNat]
  simp only [hex4, List.cons_append, List.nil_append, readUnits?]
  rw [hex4?_hex4 (by omega)]
  cases readUnits? s with
  | none => rfl
  | some read =>
    simp only [Option.bind_eq_bind, Option.bind_some, hunit, Option.map_some, Option.pure_def]

theorem readUnits?_plain {c : Char} (hquote : c ≠ '"') (hslash : c ≠ '\\')
    (hcontrol : ¬c.toNat < 0x20) (s : List Char) :
    readUnits? (c :: s) = (readUnits? s).map fun (units, rest) => (.char c :: units, rest) := by
  rw [readUnits?, if_neg hcontrol]
  · cases readUnits? s <;> rfl
  all_goals simp [hquote, hslash]

/-- A character is read back from the way it is written in a string. -/
theorem readUnits?_escape (c : Char) (s : List Char) : readUnits? (escape c ++ s) =
    (readUnits? s).map fun (units, rest) => (.char c :: units, rest) := by
  by_cases hescaped : c ∈ ['"', '\\', '\x08', '\x0c', '\n', '\r', '\t']
  · simp only [List.mem_cons, List.not_mem_nil, or_false] at hescaped
    rcases hescaped with rfl | rfl | rfl | rfl | rfl | rfl | rfl <;>
      exact readUnits?_escaped (by decide) (by decide) s
  · simp only [List.mem_cons, List.not_mem_nil, or_false, not_or] at hescaped
    obtain ⟨hquote, hslash, hb, hf, hn, hr, ht⟩ := hescaped
    simp only [escape, hquote, hslash, hb, hf, hn, hr, ht, if_false]
    by_cases hcontrol : c.toNat < 0x20
    · rw [if_pos hcontrol, List.cons_append, List.cons_append]
      exact readUnits?_hex4 (by omega) s
    · rw [if_neg hcontrol, List.singleton_append]
      exact readUnits?_plain hquote hslash hcontrol s

theorem readUnits?_flatMap_escape (rest : List Char) : ∀ s : List Char,
    readUnits? (s.flatMap escape ++ '"' :: rest) = some (s.map .char, rest)
  | [] => by simp [readUnits?]
  | c :: s => by
    rw [List.flatMap_cons, List.append_assoc, readUnits?_escape, readUnits?_flatMap_escape rest s]
    rfl

theorem text?_map_char : ∀ s : List Char, text? (s.map .char) = some s
  | [] => rfl
  | c :: s => by rw [List.map_cons, text?, text?_map_char s]; rfl

/-! ## Documents -/

theorem skipBlanks_cons {c : Char} (h : isBlank c = false) (s : List Char) :
    skipBlanks (c :: s) = c :: s := by
  rw [skipBlanks, List.dropWhile_cons_of_neg (by simp [h])]

theorem skipBlanks_newline (level : Nat) (s : List Char) :
    skipBlanks (newline level ++ s) = skipBlanks s := by
  refine List.dropWhile_append_of_pos fun c hc => ?_
  rcases List.mem_cons.mp hc with rfl | hc
  · rfl
  · rw [List.eq_of_mem_replicate hc]
    rfl

theorem length_newline (level : Nat) : (newline level).length = 2 * level + 1 := by
  simp [newline]

theorem readValue?_newline (steps level : Nat) (s : List Char) :
    readValue? steps (newline level ++ s) = readValue? steps s := by
  cases steps with
  | zero => rfl
  | succ steps => rw [readValue?, readValue?, skipBlanks_newline]

theorem readMembers?_newline (steps level : Nat) (s : List Char) :
    readMembers? steps (newline level ++ s) = readMembers? steps s := by
  cases steps with
  | zero => rfl
  | succ steps => rw [readMembers?, readMembers?, skipBlanks_newline]

/-- A number begins with a minus sign or with a digit. -/
theorem exists_chars (n : Numeral) :
    ∃ c s, n.chars = c :: s ∧ ∀ d : Char, d ≠ '-' → d.isDigit = false → c ≠ d := by
  rw [chars_eq]
  cases n.negative with
  | true => exact ⟨'-', _, rfl, fun d hd _ => Ne.symm hd⟩
  | false =>
    obtain ⟨c, ds, hds⟩ :=
      List.exists_cons_of_ne_nil (Nat.toDigits_ne_nil : Nat.toDigits 10 n.whole ≠ [])
    have hc : c.isDigit = true := isDigit_of_mem_toDigits c (hds ▸ List.mem_cons_self)
    refine ⟨c, ds ++ (fractionChars n.fraction ++ exponentChars n.exponent), by simp [hds], ?_⟩
    rintro d - hd rfl
    exact Bool.false_ne_true (hd.symm.trans hc)

/-- A document begins with a character that is no blank and closes no array. -/
theorem exists_prettyAt (level : Nat) (j : Json) :
    ∃ c s, j.prettyAt level = c :: s ∧ isBlank c = false ∧ c ≠ ']' := by
  match j with
  | .null => exact ⟨'n', _, rfl, rfl, by decide⟩
  | .bool true => exact ⟨'t', _, rfl, rfl, by decide⟩
  | .bool false => exact ⟨'f', _, rfl, rfl, by decide⟩
  | .string s => exact ⟨'"', _, rfl, rfl, by decide⟩
  | .garbled => exact ⟨'"', _, rfl, rfl, by decide⟩
  | .array [] => exact ⟨'[', _, rfl, rfl, by decide⟩
  | .array (_ :: _) => exact ⟨'[', _, rfl, rfl, by decide⟩
  | .object [] => exact ⟨'\x7b', _, rfl, rfl, by decide⟩
  | .object (_ :: _) => exact ⟨'\x7b', _, rfl, rfl, by decide⟩
  | .number n =>
    obtain ⟨c, s, hchars, hc⟩ := exists_chars n
    refine ⟨c, s, hchars, ?_, hc ']' (by decide) (by decide)⟩
    simp [isBlank, hc ' ' (by decide) (by decide), hc '\n' (by decide) (by decide),
      hc '\t' (by decide) (by decide), hc '\r' (by decide) (by decide)]

theorem readValue?_chars {n : Numeral} (h : n.isPlain = true) (steps : Nat) {rest : List Char}
    (hrest : EndsNumber rest) :
    readValue? (steps + 1) (n.chars ++ rest) = some (.number n, rest) := by
  have hread := readNumeral?_chars h hrest
  obtain ⟨c, s, hchars, hc⟩ := exists_chars n
  obtain ⟨c', s', hpretty, hblank, -⟩ := exists_prettyAt 0 (.number n)
  obtain ⟨rfl, rfl⟩ : c = c' ∧ s = s' := by simpa using hchars.symm.trans hpretty
  rw [hchars, List.cons_append] at hread ⊢
  rw [readValue?, skipBlanks_cons hblank]
  split
  case h_7 => rw [hread, Option.map_some]
  -- no other document begins like a number
  all_goals
    next heq => exact absurd (List.cons.inj heq).1 (hc _ (by decide) (by decide))

theorem readValue?_quote (s : String) (steps : Nat) (rest : List Char) :
    readValue? (steps + 1) (quote s.toList ++ rest) = some (.string s, rest) := by
  rw [quote, List.cons_append, List.append_assoc, List.singleton_append, readValue?,
    skipBlanks_cons (by decide)]
  simp only [readUnits?_flatMap_escape, text?_map_char, Option.bind_eq_bind, Option.bind_some,
    Option.pure_def, String.ofList_toList]

theorem prettyItems_cons (level : Nat) (j : Json) (items : List Json) :
    prettyItems level (j :: items) =
    newline level ++
      (j.prettyAt level ++ if items = [] then [] else ',' :: prettyItems level items) := by
  cases items <;> simp [prettyItems]

theorem prettyMembers_cons (level : Nat) (key : String) (j : Json)
    (members : List (String × Json)) :
    prettyMembers level ((key, j) :: members) = newline level ++ (quote key.toList ++ ':' :: ' ' ::
      (j.prettyAt level ++ if members = [] then [] else ',' :: prettyMembers level members)) := by
  cases members <;> simp [prettyMembers]

theorem skipBlanks_prettyItems (level : Nat) (j : Json) (items : List Json) (rest : List Char) :
    ∃ c s, skipBlanks (prettyItems level (j :: items) ++ rest) = c :: s ∧ c ≠ ']' := by
  obtain ⟨c, s, hpretty, hblank, hc⟩ := exists_prettyAt level j
  rw [prettyItems_cons, List.append_assoc, skipBlanks_newline, hpretty, List.append_assoc,
    List.cons_append, skipBlanks_cons hblank]
  exact ⟨c, _, rfl, hc⟩

theorem skipBlanks_prettyMembers (level : Nat) (m : String × Json)
    (members : List (String × Json)) (rest : List Char) :
    ∃ s, skipBlanks (prettyMembers level (m :: members) ++ rest) = '"' :: s := by
  obtain ⟨key, j⟩ := m
  rw [prettyMembers_cons, List.append_assoc, skipBlanks_newline, quote, List.append_assoc,
    List.cons_append, skipBlanks_cons (by decide)]
  exact ⟨_, rfl⟩

/-- What stands in an array or object above is closed by a bracket on a line of its own. -/
theorem endsNumber_newline (level : Nat) (s : List Char) : EndsNumber (newline level ++ s) :=
  endsNumber_cons _ (by simp)

theorem mapM_id_map_some {α : Type} : ∀ xs : List α, (xs.map some).mapM id = some xs
  | [] => rfl
  | x :: xs => by simp [mapM_id_map_some xs]

/-- A blank before a document is passed over. -/
theorem readValue?_space (steps : Nat) (s : List Char) :
    readValue? steps (' ' :: s) = readValue? steps s := by
  cases steps with
  | zero => rfl
  | succ steps => rfl

/-- An array with items is read item by item, up to the bracket that closes it. -/
theorem readValue?_array (steps level : Nat) (j : Json) (items : List Json) (rest : List Char) :
    readValue? (steps + 1) ((Json.array (j :: items)).prettyAt level ++ rest) =
      (readItems? steps
        (prettyItems (level + 1) (j :: items) ++ (newline level ++ ']' :: rest))).map
        fun (items, rest) => (.array items, rest) := by
  have hpretty : (Json.array (j :: items)).prettyAt level ++ rest =
      '[' :: (prettyItems (level + 1) (j :: items) ++ (newline level ++ ']' :: rest)) := by
    simp [prettyAt]
  obtain ⟨c, s, hskip, hc⟩ :=
    skipBlanks_prettyItems (level + 1) j items (newline level ++ ']' :: rest)
  rw [hpretty, readValue?, skipBlanks_cons (by decide)]
  simp only [hskip]
  split
  · next heq => exact absurd (List.cons.inj heq).1 hc
  · rfl

theorem readValue?_object (steps level : Nat) (m : String × Json) (members : List (String × Json))
    (rest : List Char) :
    readValue? (steps + 1) ((Json.object (m :: members)).prettyAt level ++ rest) =
      (readMembers? steps
        (prettyMembers (level + 1) (m :: members) ++ (newline level ++ '\x7d' :: rest))).map
        fun (members, rest) =>
          match members.mapM id with
          | some members => (.object members, rest)
          | none => (.garbled, rest) := by
  have hpretty : (Json.object (m :: members)).prettyAt level ++ rest =
      '\x7b' :: (prettyMembers (level + 1) (m :: members) ++
        (newline level ++ '\x7d' :: rest)) := by
    simp [prettyAt]
  obtain ⟨s, hskip⟩ :=
    skipBlanks_prettyMembers (level + 1) m members (newline level ++ '\x7d' :: rest)
  rw [hpretty, readValue?, skipBlanks_cons (by decide)]
  simp only [hskip]
  rfl

mutual

theorem readValue?_prettyAt : ∀ (j : Json) (level steps : Nat) (rest : List Char),
    j.sound Numeral.isPlain = true → (j.prettyAt level).length ≤ steps → EndsNumber rest →
      readValue? steps (j.prettyAt level ++ rest) = some (j, rest) := by
  intro j level steps rest hsound hsteps hrest
  obtain ⟨c, s, hhead, -⟩ := exists_prettyAt level j
  obtain ⟨steps, rfl⟩ : ∃ n, steps = n + 1 :=
    Nat.exists_eq_succ_of_ne_zero (by rintro rfl; simp [hhead] at hsteps)
  match j with
  | .null => rfl
  | .bool true => rfl
  | .bool false => rfl
  | .number n => exact readValue?_chars hsound steps hrest
  | .string s => exact readValue?_quote s steps rest
  | .array [] => rfl
  | .object [] => rfl
  | .array (j :: items) =>
    have hlength : (prettyItems (level + 1) (j :: items)).length ≤ steps := by
      simp only [prettyAt, List.length_append, List.length_cons] at hsteps
      omega
    rw [readValue?_array, readItems?_prettyItems (j :: items) (level + 1) steps level rest
      (List.cons_ne_nil j items) hsound hlength, Option.map_some]
  | .object (m :: members) =>
    have hlength : (prettyMembers (level + 1) (m :: members)).length ≤ steps := by
      simp only [prettyAt, List.length_append, List.length_cons] at hsteps
      omega
    rw [readValue?_object, readMembers?_prettyMembers (m :: members) (level + 1) steps level rest
      (List.cons_ne_nil m members) hsound hlength]
    simp only [Option.map_some, mapM_id_map_some]

theorem readItems?_prettyItems :
    ∀ (items : List Json) (level steps above : Nat) (rest : List Char),
    items ≠ [] → soundList Numeral.isPlain items = true →
      (prettyItems level items).length ≤ steps →
      readItems? steps (prettyItems level items ++ (newline above ++ ']' :: rest)) =
        some (items, rest)
  | [], _, _, _, _, hne, _, _ => absurd rfl hne
  | [j], level, steps, above, rest, _, hsound, hsteps => by
    simp only [prettyItems_cons, if_true, List.append_nil, List.length_append, length_newline]
      at hsteps
    obtain ⟨steps, rfl⟩ : ∃ n, steps = n + 1 := Nat.exists_eq_succ_of_ne_zero (by omega)
    simp only [soundList, Bool.and_true] at hsound
    have hitem := readValue?_prettyAt j level steps (newline above ++ ']' :: rest) hsound
      (by omega) (endsNumber_newline _ _)
    rw [prettyItems_cons, if_pos rfl, List.append_nil, List.append_assoc, readItems?,
      readValue?_newline, hitem]
    simp only [Option.bind_eq_bind, Option.bind_some, skipBlanks_newline]
    rw [skipBlanks_cons (by decide)]
    rfl
  | j :: k :: items, level, steps, above, rest, _, hsound, hsteps => by
    rw [prettyItems_cons, if_neg (List.cons_ne_nil k items)] at hsteps ⊢
    simp only [List.length_append, List.length_cons, length_newline] at hsteps
    obtain ⟨steps, rfl⟩ : ∃ n, steps = n + 1 := Nat.exists_eq_succ_of_ne_zero (by omega)
    obtain ⟨hj, hitems⟩ := Bool.and_eq_true_iff.mp hsound
    have hitem := readValue?_prettyAt j level steps
      (',' :: (prettyItems level (k :: items) ++ (newline above ++ ']' :: rest))) hj
      (by omega) (endsNumber_cons _ (by simp))
    have hrest :=
      readItems?_prettyItems (k :: items) level steps above rest (List.cons_ne_nil k items)
      hitems (by omega)
    rw [List.append_assoc, List.append_assoc, List.cons_append, readItems?,
      readValue?_newline, hitem]
    simp only [Option.bind_eq_bind, Option.bind_some]
    rw [skipBlanks_cons (by decide)]
    simp only [hrest, Option.bind_some, Option.pure_def]

theorem readMembers?_prettyMembers : ∀ (members : List (String × Json)) (level steps above : Nat)
    (rest : List Char), members ≠ [] → soundMembers Numeral.isPlain members = true →
      (prettyMembers level members).length ≤ steps →
        readMembers? steps (prettyMembers level members ++ (newline above ++ '\x7d' :: rest)) =
          some (members.map some, rest)
  | [], _, _, _, _, hne, _, _ => absurd rfl hne
  | [(key, j)], level, steps, above, rest, _, hsound, hsteps => by
    simp only [prettyMembers_cons, if_true, List.append_nil, List.length_append, List.length_cons,
      length_newline] at hsteps
    obtain ⟨steps, rfl⟩ : ∃ n, steps = n + 1 := Nat.exists_eq_succ_of_ne_zero (by omega)
    simp only [soundMembers, Bool.and_true] at hsound
    have hvalue := readValue?_prettyAt j level steps (newline above ++ '\x7d' :: rest) hsound
      (by omega) (endsNumber_newline _ _)
    rw [prettyMembers_cons, if_pos rfl, List.append_nil, List.append_assoc,
      readMembers?_newline, quote]
    simp only [List.append_assoc, List.cons_append, List.nil_append]
    rw [readMembers?, skipBlanks_cons (by decide)]
    simp only [readUnits?_flatMap_escape, text?_map_char, Option.bind_eq_bind, Option.bind_some]
    rw [skipBlanks_cons (by decide)]
    simp only [readValue?_space, hvalue, Option.bind_some, skipBlanks_newline, Option.map_some,
      String.ofList_toList]
    rw [skipBlanks_cons (by decide)]
    rfl
  | (key, j) :: m :: members, level, steps, above, rest, _, hsound, hsteps => by
    rw [prettyMembers_cons, if_neg (List.cons_ne_nil m members)] at hsteps ⊢
    simp only [List.length_append, List.length_cons, length_newline] at hsteps
    obtain ⟨steps, rfl⟩ : ∃ n, steps = n + 1 := Nat.exists_eq_succ_of_ne_zero (by omega)
    obtain ⟨hj, hmembers⟩ := Bool.and_eq_true_iff.mp hsound
    have hvalue := readValue?_prettyAt j level steps
      (',' :: (prettyMembers level (m :: members) ++ (newline above ++ '\x7d' :: rest))) hj
      (by omega) (endsNumber_cons _ (by simp))
    have hrest := readMembers?_prettyMembers (m :: members) level steps above rest
      (List.cons_ne_nil m members) hmembers (by omega)
    rw [List.append_assoc, readMembers?_newline, quote]
    simp only [List.append_assoc, List.cons_append, List.nil_append]
    rw [readMembers?, skipBlanks_cons (by decide)]
    simp only [readUnits?_flatMap_escape, text?_map_char, Option.bind_eq_bind, Option.bind_some]
    rw [skipBlanks_cons (by decide)]
    simp only [readValue?_space, hvalue, Option.bind_some, Option.map_some, String.ofList_toList]
    rw [skipBlanks_cons (by decide)]
    simp only [hrest, Option.bind_some, Option.pure_def, List.map_cons]

end

/-- A document is what its text is read as, if its numerals are digits and no string of it is
garbled. -/
theorem parse?_pretty {j : Json} (h : j.sound Numeral.isPlain = true) :
    parse? j.pretty = some j := by
  have hread :=
    readValue?_prettyAt j 0 (2 * (j.prettyAt 0).length + 2) [] h (by omega) (by simp [EndsNumber])
  rw [List.append_nil] at hread
  simp only [parse?, pretty, String.toList_ofList, hread]
  rfl

end Json

end TypedSheets
