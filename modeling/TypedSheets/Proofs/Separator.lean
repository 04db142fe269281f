import TypedSheets.Proofs.Lowercase
import TypedSheets.Proofs.Split
import TypedSheets.Schema.TypeCell

/-!
# Texts with separators

Lower-casing looks at the text around a capital sigma, but not across a separator (`Separates`):
bars and commas are no letters, and are not passed over in the search for one. So the pieces between
separators can be lower-cased one by one (`Separates.lowercase_append`), and a type cell brought to
its normal form piece by piece (`Separates.splitOn_normal`).
-/

namespace TypedSheets.Text

/-- The character is written as itself, no other is lower-cased to it, and a search for a letter
ends at it. -/
structure Separates (sep : Char) : Prop where
  isLower : IsLower sep
  notBlank : isBlank sep = false
  notCased : isCased sep = false
  notIgnorable : isCaseIgnorable sep = false
  eq_of_lowerLetter : ∀ c, lowerLetter c = sep → c = sep
  ne_of_special : sep ∉ ['i', '\u0307', 'ς', 'σ']

/-- If no capital letter is mapped to a character, only the character itself is lower-cased to
it. -/
theorem eq_of_lowerLetter_eq {sep c : Char}
    (hmisses : (lowerRuns.all (·.misses ⟨sep.toNat, sep.toNat, 1, 0⟩)) = true)
    (h : lowerLetter c = sep) : c = sep := by
  rcases lowerLetter_cases c with ⟨heq, -⟩ | ⟨r, hr, hcovers, himage⟩
  · exact heq.symm.trans h
  · have hnot :=
      CaseRun.not_covers_image (lowerRuns_isSound r hr) (List.all_eq_true.mp hmisses r hr) hcovers
    simp [← himage, h, CaseRun.covers] at hnot

/-- The bars and commas of type cells are separators. -/
theorem separates {sep : Char} (h : sep = '|' ∨ sep = ',') : Separates sep := by
  have hmisses : (lowerRuns.all (·.misses ⟨sep.toNat, sep.toNat, 1, 0⟩)) = true := by
    rcases h with rfl | rfl <;> decide +kernel
  rcases h with rfl | rfl <;>
    exact {
      isLower := ⟨by decide, by decide, by decide +kernel⟩
      notBlank := by decide
      notCased := by decide +kernel
      notIgnorable := by decide +kernel
      eq_of_lowerLetter := fun _ => eq_of_lowerLetter_eq hmisses
      ne_of_special := by decide }

theorem meetsCased_cons (c : Char) (s : List Char) :
    meetsCased (c :: s) = if isCaseIgnorable c then meetsCased s else isCased c := by
  by_cases hc : isCaseIgnorable c = true <;> simp [meetsCased, hc]

namespace Separates

variable {sep : Char} (h : Separates sep)

include h

theorem meetsCased_append (s rest : List Char) : meetsCased (s ++ sep :: rest) = meetsCased s := by
  induction s with
  | nil => simp [meetsCased, h.notCased, h.notIgnorable]
  | cons c s ih => rw [List.cons_append, meetsCased_cons, meetsCased_cons, ih]

/-- What stands beyond a separator after a letter does not count. -/
theorem lowerAt_append_right (before s rest : List Char) (c : Char) :
    lowerAt before c (s ++ sep :: rest) = lowerAt before c s := by
  simp only [lowerAt, h.meetsCased_append]

/-- What stands beyond a separator before a letter does not count. -/
theorem lowerAt_append_left (before rest s : List Char) (c : Char) :
    lowerAt (before ++ sep :: rest) c s = lowerAt before c s := by
  simp only [lowerAt, h.meetsCased_append]

theorem lowercaseAfter_append_left (rest : List Char) : ∀ (before s : List Char),
    lowercaseAfter (before ++ sep :: rest) s = lowercaseAfter before s
  | _, [] => rfl
  | before, c :: s => by
    rw [lowercaseAfter, lowercaseAfter, h.lowerAt_append_left, ← List.cons_append,
      lowercaseAfter_append_left rest (c :: before) s]

theorem lowercaseAfter_append (rest : List Char) : ∀ (before s : List Char),
    lowercaseAfter before (s ++ sep :: rest) = lowercaseAfter before s ++ sep :: lowercase rest
  | before, [] => by
    have hrest : lowercaseAfter (sep :: before) rest = lowercase rest :=
      h.lowercaseAfter_append_left before [] rest
    rw [List.nil_append, lowercaseAfter.eq_2, h.isLower.lowerAt_eq, hrest]
    rfl
  | before, c :: s => by
    rw [List.cons_append, lowercaseAfter, lowercaseAfter, h.lowerAt_append_right,
      lowercaseAfter_append rest (c :: before) s, List.append_assoc]

/-- Lower-casing begins anew after a separator. -/
theorem lowercase_append (s rest : List Char) :
    lowercase (s ++ sep :: rest) = lowercase s ++ sep :: lowercase rest :=
  h.lowercaseAfter_append rest [] s

theorem not_mem_lowercase {s : List Char} (hs : sep ∉ s) : sep ∉ lowercase s := by
  intro hmem
  obtain ⟨c, hc, hspecial | ⟨-, hlower⟩⟩ := mem_lowercaseAfter hmem
  · exact h.ne_of_special hspecial
  · exact hs (h.eq_of_lowerLetter c hlower.symm ▸ hc)

end Separates

section

variable {sep : Char} {f : List Char → List Char}
  (happend : ∀ s rest, f (s ++ sep :: rest) = f s ++ sep :: f rest)

include happend

theorem intercalate_map : ∀ {pieces : List (List Char)}, pieces ≠ [] →
    [sep].intercalate (pieces.map f) = f ([sep].intercalate pieces)
  | [piece], _ => by simp
  | piece :: next :: pieces, _ => by
    have ih := intercalate_map (List.cons_ne_nil next pieces)
    rw [List.map_cons] at ih
    rw [List.map_cons, List.map_cons, List.intercalate_cons_cons, List.intercalate_cons_cons, ih,
      List.append_assoc, List.append_assoc]
    exact (happend _ _).symm

/-- A function on texts that begins anew after a separator, and makes none, is applied piece by
piece. -/
theorem splitOn_map (hmem : ∀ s, sep ∉ s → sep ∉ f s) (s : List Char) :
    splitOn sep (f s) = (splitOn sep s).map f := by
  have hpieces : ∀ piece ∈ (splitOn sep s).map f, sep ∉ piece := by
    intro piece hpiece
    obtain ⟨part, hpart, rfl⟩ := List.mem_map.mp hpiece
    exact hmem part (not_mem_of_mem_splitOn hpart)
  have hne : (splitOn sep s).map f ≠ [] := by simp [splitOn_ne_nil]
  rw [← List.splitOn_intercalate sep hpieces hne, intercalate_map happend (splitOn_ne_nil sep s),
    intercalate_splitOn, splitOn_eq]

end

/-- The normal form of a type cell is taken piece by piece. -/
theorem Separates.splitOn_normal {sep : Char} (h : Separates sep) (s : List Char) :
    splitOn sep (ColumnType.normal s) = (splitOn sep s).map ColumnType.normal := by
  refine splitOn_map (fun s rest => ?_) (fun s hs => ?_) s
  · rw [ColumnType.normal, squeeze, List.filter_append,
      List.filter_cons_of_pos (by simp [h.notBlank]), h.lowercase_append]
    rfl
  · exact h.not_mem_lowercase fun hmem => hs (List.mem_filter.mp hmem).1

end TypedSheets.Text
