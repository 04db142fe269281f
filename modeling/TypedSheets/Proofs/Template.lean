import Mathlib.Data.List.Find
import TypedSheets.Proofs.Split
import TypedSheets.Text.Template

/-!
# Filling a template piece by piece

A template is filled piece by piece: text without a hash sign stays (`fill_text`), and a placeholder
gives way to its value (`fill_key`). The value is not looked at again. Two texts are filled on their
own unless a placeholder stands across the boundary between them (`fill_append`), as it does not
where the second begins with a character that no placeholder has (`fill_append_cons`).
-/

namespace TypedSheets.Text

/-! ## Characters -/

section

variable {subs : List (List Char × List Char)}

@[simp] theorem fill_nil : fill subs [] = [] := by
  rw [fill]
  rfl

/-- At a hash sign, the first placeholder of the list that begins there counts. -/
theorem fill_hash (rest : List Char) : fill subs ('#' :: rest) =
    match subs.find? fun sub => sub.1.isPrefixOf ('#' :: rest) with
    | some (key, value) => value ++ fill subs (rest.drop (key.length - 1))
    | none => '#' :: fill subs rest := by
  have hhash : ¬decide ('#' ≠ '#') = true := by decide
  have hdrop : ('#' :: rest).dropWhile (· ≠ '#') = '#' :: rest :=
    List.dropWhile_cons_of_neg hhash
  rw [fill]
  split
  · next h => rw [hdrop] at h; contradiction
  · next hash after h =>
    obtain ⟨rfl, rfl⟩ : '#' = hash ∧ rest = after := by rwa [hdrop, List.cons.injEq] at h
    have htake : ('#' :: rest).takeWhile (· ≠ '#') = [] := List.takeWhile_cons_of_neg hhash
    rw [htake]
    rfl

/-- What stands before the next hash sign is copied. -/
theorem fill_eq_append (s : List Char) :
    fill subs s = s.takeWhile (· ≠ '#') ++ fill subs (s.dropWhile (· ≠ '#')) := by
  match hrest : s.dropWhile (· ≠ '#') with
  | [] =>
    have hcut := s.takeWhile_append_dropWhile (p := (· ≠ '#'))
    rw [fill]
    split
    · rw [fill_nil, ← hrest, hcut]
    · next h => rw [hrest] at h; contradiction
  | c :: rest =>
    obtain ⟨rfl, -⟩ := eq_append_of_dropWhile_ne hrest
    rw [fill_hash, fill]
    split
    · next h => rw [hrest] at h; contradiction
    · next hash after h =>
      obtain ⟨rfl, rfl⟩ : '#' = hash ∧ rest = after := by rwa [hrest, List.cons.injEq] at h
      rfl

theorem fill_cons {c : Char} (hc : c ≠ '#') (rest : List Char) :
    fill subs (c :: rest) = c :: fill subs rest := by
  have htext : decide (c ≠ '#') = true := decide_eq_true hc
  have htake : (c :: rest).takeWhile (· ≠ '#') = c :: rest.takeWhile (· ≠ '#') :=
    List.takeWhile_cons_of_pos htext
  have hdrop : (c :: rest).dropWhile (· ≠ '#') = rest.dropWhile (· ≠ '#') :=
    List.dropWhile_cons_of_pos htext
  rw [fill_eq_append (c :: rest), fill_eq_append rest, htake, hdrop, List.cons_append]

theorem fill_text (rest : List Char) : ∀ {s : List Char}, '#' ∉ s →
    fill subs (s ++ rest) = s ++ fill subs rest
  | [], _ => rfl
  | c :: s, h => by
    obtain ⟨hc, hs⟩ := not_or.mp (mt List.mem_cons.mpr h)
    rw [List.cons_append, fill_cons (Ne.symm hc), fill_text rest hs]
    rfl

/-- Where a placeholder is the first of all that begin there, its value stands in its place. -/
theorem fill_key {key value rest : List Char}
    (h : (subs.find? fun sub => sub.1.isPrefixOf ('#' :: (key ++ rest))) =
      some ('#' :: key, value)) :
    fill subs ('#' :: (key ++ rest)) = value ++ fill subs rest := by
  rw [fill_hash, h]
  dsimp only
  rw [List.length_cons, Nat.add_sub_cancel, List.drop_left]

/-- A word stands across the boundary between two texts. -/
def Straddles (word s t : List Char) : Prop :=
  ∃ i < word.length, 0 < i ∧ word.take i <:+ s ∧ word.drop i <+: t

instance (word s t : List Char) : Decidable (Straddles word s t) :=
  inferInstanceAs
    (Decidable (∃ i < word.length, 0 < i ∧ word.take i <:+ s ∧ word.drop i <+: t))

theorem Straddles.of_suffix {word s s' t : List Char} (h : Straddles word s t) (hs : s <:+ s') :
    Straddles word s' t := by
  obtain ⟨i, hi, hpos, hstart, hrest⟩ := h
  exact ⟨i, hi, hpos, hstart.trans hs, hrest⟩

/-- If a word does not go on behind a text, the text shows whether the word begins there. -/
theorem isPrefixOf_append {word s t : List Char} (hs : s ≠ []) (h : ¬Straddles word s t) :
    word.isPrefixOf (s ++ t) = word.isPrefixOf s := by
  rw [Bool.eq_iff_iff, List.isPrefixOf_iff_prefix, List.isPrefixOf_iff_prefix]
  refine ⟨fun hword => ?_, fun hword => hword.trans (List.prefix_append s t)⟩
  rcases List.prefix_or_prefix_of_prefix hword (List.prefix_append s t) with hle | ⟨rest, rfl⟩
  · exact hle
  · have hrest : rest = [] := by
      refine of_not_not fun hne => h ⟨s.length, ?_, List.length_pos_iff.mpr hs, ?_, ?_⟩
      · rw [List.length_append]
        exact Nat.lt_add_of_pos_right (List.length_pos_iff.mpr hne)
      · exact ⟨[], List.take_left⟩
      · rw [List.drop_left]
        exact (List.prefix_append_right_inj s).mp hword
    exact ⟨[], by rw [hrest, List.append_nil, List.append_nil]⟩

/-- Two texts are filled on their own, if no placeholder stands across the boundary between them. -/
theorem fill_append : ∀ {s t : List Char},
    (∀ sub ∈ subs, sub.1.head? = some '#' → ¬Straddles sub.1 s t) →
      fill subs (s ++ t) = fill subs s ++ fill subs t
  | [], t, _ => by rw [fill_nil]; rfl
  | c :: s, t, h => by
    by_cases hc : c = '#'
    · subst hc
      have hfind : (subs.find? fun sub => sub.1.isPrefixOf ('#' :: (s ++ t))) =
          subs.find? fun sub => sub.1.isPrefixOf ('#' :: s) := by
        refine List.find?_congr fun sub hsub => ?_
        match hkey : sub.1 with
        | [] => rfl
        | d :: key =>
          by_cases hd : d = '#'
          · exact isPrefixOf_append (s := '#' :: s) (List.cons_ne_nil _ _)
              (hkey ▸ h sub hsub (by rw [hkey, hd]; rfl))
          · rw [List.isPrefixOf, List.isPrefixOf, beq_false_of_ne hd, Bool.false_and,
              Bool.false_and]
      rw [List.cons_append, fill_hash, fill_hash, hfind]
      split
      · next key value hsome =>
        have hkey : key.length ≤ ('#' :: s).length :=
          (List.isPrefixOf_iff_prefix.mp (List.find?_some hsome :)).length_le
        have hrest :=
          fill_append (s := s.drop (key.length - 1)) (t := t) fun sub hsub hhash hcross =>
          h sub hsub hhash
            (hcross.of_suffix ((List.drop_suffix _ s).trans (List.suffix_cons '#' s)))
        rw [List.drop_append_of_le_length (Nat.sub_le_of_le_add hkey), hrest, List.append_assoc]
      · have hrest := fill_append (s := s) (t := t) fun sub hsub hhash hcross =>
          h sub hsub hhash (hcross.of_suffix (List.suffix_cons '#' s))
        rw [hrest, List.cons_append]
    · have hrest := fill_append (s := s) (t := t) fun sub hsub hhash hcross =>
        h sub hsub hhash (hcross.of_suffix (List.suffix_cons c s))
      rw [List.cons_append, fill_cons hc, fill_cons hc, hrest, List.cons_append]
termination_by s => s.length
decreasing_by all_goals grind

/-- A character that no placeholder has divides a text. -/
theorem fill_append_cons {c : Char} (hkeys : ∀ sub ∈ subs, c ∉ sub.1) (hc : c ≠ '#')
    (s rest : List Char) : fill subs (s ++ c :: rest) = fill subs s ++ c :: fill subs rest := by
  rw [fill_append, fill_cons hc]
  rintro sub hsub - ⟨i, hi, -, -, hafter⟩
  rw [List.drop_eq_getElem_cons hi, List.cons_prefix_cons] at hafter
  exact hkeys sub hsub (hafter.1 ▸ List.getElem_mem hi)

/-- A text stays as it is if no placeholder stands in it. -/
theorem fill_eq_self (hkeys : ∀ sub ∈ subs, sub.1 ≠ []) : ∀ {s : List Char},
    (∀ sub ∈ subs, sub.1.head? = some '#' → ¬sub.1 <:+: s) → fill subs s = s
  | [], _ => fill_nil
  | c :: s, h => by
    have hrest : fill subs s = s := fill_eq_self hkeys fun sub hsub hhash hinside =>
      h sub hsub hhash (hinside.trans (List.suffix_cons c s).isInfix)
    by_cases hc : c = '#'
    · subst hc
      have hfind : (subs.find? fun sub => sub.1.isPrefixOf ('#' :: s)) = none := by
        rw [List.find?_eq_none]
        intro sub hsub hprefix
        have hprefix := List.isPrefixOf_iff_prefix.mp hprefix
        obtain ⟨d, key, hkey⟩ := List.exists_cons_of_ne_nil (hkeys sub hsub)
        have hd : d = '#' := (List.cons_prefix_cons.mp (hkey ▸ hprefix)).1
        exact h sub hsub (by rw [hkey, hd]; rfl) hprefix.isInfix
      rw [fill_hash, hfind, hrest]
    · rw [fill_cons hc, hrest]

end

/-! ## Strings -/

section

variable {subs : List (String × String)} {key value before : String}

/-- A placeholder gives way to a value wherever it stands. -/
def Fills (subs : List (String × String)) (key value : String) : Prop :=
  ∀ rest, fill (subs.map fun (key, value) => (key.toList, value.toList)) (key.toList ++ rest) =
    value.toList ++ fill (subs.map fun (key, value) => (key.toList, value.toList)) rest

theorem toList_fillString (template : String) : (fillString subs template).toList =
    fill (subs.map fun (key, value) => (key.toList, value.toList)) template.toList := by
  rw [fillString, onChars, String.toList_ofList]

theorem fillString_empty : fillString subs "" = "" := by
  rw [← String.toList_inj, toList_fillString]
  exact fill_nil

theorem fillString_append (hbefore : '#' ∉ before.toList) (after : String) :
    fillString subs (before ++ after) = before ++ fillString subs after := by
  rw [← String.toList_inj]
  simp only [toList_fillString, String.toList_append]
  exact fill_text _ hbefore

theorem fillString_text (h : '#' ∉ before.toList) : fillString subs before = before := by
  have happend := @fillString_append subs before h ""
  rwa [fillString_empty, String.append_empty] at happend

/-- A text stays as it is if no placeholder stands in it. -/
theorem fillString_eq_self {template : String}
    (h : ∀ key ∈ subs.map Prod.fst, key ≠ "" ∧ ¬key.toList <:+: template.toList) :
    fillString subs template = template := by
  rw [List.forall_mem_map] at h
  rw [← String.toList_inj, toList_fillString]
  refine fill_eq_self (List.forall_mem_map.mpr fun sub hsub hkey => ?_)
    (List.forall_mem_map.mpr fun sub hsub _ => (h sub hsub).2)
  exact (h sub hsub).1 (String.toList_eq_nil_iff.mp hkey)

theorem Fills.fillString_append (h : Fills subs key value) (after : String) :
    fillString subs (key ++ after) = value ++ fillString subs after := by
  rw [← String.toList_inj]
  simp only [toList_fillString, String.toList_append]
  exact h _

theorem Fills.fillString_eq (h : Fills subs key value) : fillString subs key = value := by
  have happend := h.fillString_append ""
  rwa [fillString_empty, String.append_empty, String.append_empty] at happend

end

end TypedSheets.Text
