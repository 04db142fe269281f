import Mathlib.Data.List.TakeWhile
import TypedSheets.Text.Split

/-!
# Pieces

`splitOn` is the splitting of lists that the library has (`splitOn_eq`), whose lemmas then hold of
it.
-/

namespace TypedSheets.Text

theorem splitOn_eq (sep : Char) : ∀ s : List Char, splitOn sep s = s.splitOn sep
  | [] => rfl
  | c :: rest => by
    rw [splitOn, List.splitOn_cons_eq_if_modifyHead, splitOn_eq sep rest]
    by_cases h : c = sep
    · simp [h]
    · rw [if_neg h, if_neg (by simpa using h)]
      cases hrest : rest.splitOn sep with
      | nil => exact absurd hrest (List.splitOn_ne_nil sep rest)
      | cons piece pieces => rfl

theorem splitOn_of_not_mem {sep : Char} {s : List Char} (h : sep ∉ s) : splitOn sep s = [s] := by
  rw [splitOn_eq, List.splitOn_eq_singleton h]

/-- A text is cut at each separator in it, wherever else it is cut. -/
theorem splitOn_append_cons (sep : Char) (s rest : List Char) :
    splitOn sep (s ++ sep :: rest) = splitOn sep s ++ splitOn sep rest := by
  rw [splitOn_eq, splitOn_eq, splitOn_eq, List.splitOn_append_cons_self]

/-- Joining the pieces gives the text back. -/
theorem intercalate_splitOn (sep : Char) (s : List Char) :
    [sep].intercalate (splitOn sep s) = s := by
  rw [splitOn_eq, List.intercalate_splitOn]

theorem mem_intercalate {c : Char} {sep : List Char} : ∀ {pieces : List (List Char)},
    c ∈ sep.intercalate pieces → c ∈ sep ∨ ∃ piece ∈ pieces, c ∈ piece
  | [piece], h => .inr ⟨piece, List.mem_cons_self, by simpa using h⟩
  | piece :: next :: rest, h => by
    rw [List.intercalate_cons_cons, List.mem_append, List.mem_append] at h
    rcases h with (h | h) | h
    · exact .inr ⟨piece, List.mem_cons_self, h⟩
    · exact .inl h
    · rcases mem_intercalate h with h | ⟨other, hother, h⟩
      · exact .inl h
      · exact .inr ⟨other, List.mem_cons_of_mem _ hother, h⟩

theorem mem_intercalate_of_mem {c : Char} {sep piece : List Char} (hc : c ∈ piece) :
    ∀ {pieces : List (List Char)}, piece ∈ pieces → c ∈ sep.intercalate pieces
  | [_], h => by
    obtain rfl := List.mem_singleton.mp h
    simpa using hc
  | _ :: next :: rest, h => by
    rw [List.intercalate_cons_cons, List.mem_append]
    rcases List.mem_cons.mp h with rfl | h
    · exact .inl (List.mem_append_left _ hc)
    · exact .inr (mem_intercalate_of_mem hc h)

/-- Pieces without the separator are what their join is split into. -/
theorem splitOn_intercalate {sep : Char} {pieces : List (List Char)}
    (h : ∀ piece ∈ pieces, sep ∉ piece) (hne : pieces ≠ []) :
    splitOn sep ([sep].intercalate pieces) = pieces := by
  rw [splitOn_eq, List.splitOn_intercalate sep h hne]

/-- The first piece ends at the first separator. -/
theorem exists_splitOn_eq_cons (sep : Char) (s : List Char) :
    ∃ pieces, splitOn sep s = s.takeWhile (· ≠ sep) :: pieces := by
  induction s with
  | nil => exact ⟨[], rfl⟩
  | cons c rest ih =>
    obtain ⟨pieces, hpieces⟩ := ih
    by_cases hc : c = sep
    · exact ⟨splitOn sep rest, by simp [splitOn, hc]⟩
    · exact ⟨pieces, by simp [splitOn, hc, hpieces]⟩

theorem takeWhile_ne_eq_self_iff {sep : Char} {s : List Char} :
    s.takeWhile (· ≠ sep) = s ↔ sep ∉ s := by
  simp only [List.takeWhile_eq_self_iff, decide_eq_true_eq]
  exact ⟨fun h hmem => h sep hmem rfl, fun h c hc heq => h (heq ▸ hc)⟩

/-- What is taken up to a separator does not depend on what follows it. -/
theorem takeWhile_ne_append_cons {sep : Char} (rest : List Char) : ∀ s : List Char,
    (s ++ sep :: rest).takeWhile (· ≠ sep) = s.takeWhile (· ≠ sep)
  | [] => by simp
  | c :: s => by
    by_cases h : c = sep
    · simp [h]
    · simp only [List.cons_append, List.takeWhile_cons, decide_eq_true_eq, ne_eq, h,
        not_false_eq_true, if_true]
      exact congrArg (c :: ·) (takeWhile_ne_append_cons rest s)

/-- What stands before a separator, or before the end, is what is taken up to it. -/
theorem takeWhile_ne_append {sep : Char} {s rest : List Char} (hs : sep ∉ s)
    (hrest : rest.takeWhile (· ≠ sep) = []) : (s ++ rest).takeWhile (· ≠ sep) = s := by
  have hall : ∀ c ∈ s, decide (c ≠ sep) = true :=
    fun c hc => decide_eq_true fun heq => hs (heq ▸ hc)
  rw [List.takeWhile_append_of_pos hall, hrest, List.append_nil]

theorem not_mem_takeWhile_ne (sep : Char) (s : List Char) : sep ∉ s.takeWhile (· ≠ sep) :=
  fun hmem => absurd (List.mem_takeWhile_imp hmem) (by simp)

/-- A text with a separator is cut at the first. -/
theorem eq_append_of_dropWhile_ne {sep c : Char} {s rest : List Char}
    (h : s.dropWhile (· ≠ sep) = c :: rest) :
    c = sep ∧ s = s.takeWhile (· ≠ sep) ++ c :: rest := by
  refine ⟨?_, ?_⟩
  · have hhead := List.head?_dropWhile_not (· ≠ sep) s
    rw [h] at hhead
    simpa using hhead
  · have hcut := s.takeWhile_append_dropWhile (p := (· ≠ sep))
    rw [h] at hcut
    exact hcut.symm

theorem dropWhile_ne_append_cons {sep : Char} (rest : List Char) {s : List Char} (hs : sep ∉ s) :
    (s ++ sep :: rest).dropWhile (· ≠ sep) = sep :: rest := by
  have hall : ∀ c ∈ s, decide (c ≠ sep) = true :=
    fun c hc => decide_eq_true fun heq => hs (heq ▸ hc)
  have hsep : ¬decide (sep ≠ sep) = true := by simp
  rw [List.dropWhile_append_of_pos hall]
  exact List.dropWhile_cons_of_neg hsep

theorem mem_of_mem_splitOn {sep c : Char} {s piece : List Char} (h : piece ∈ splitOn sep s)
    (hc : c ∈ piece) : c ∈ s :=
  intercalate_splitOn sep s ▸ mem_intercalate_of_mem hc h

/-- No piece has the separator in it. -/
theorem not_mem_of_mem_splitOn {sep : Char} : ∀ {s piece : List Char},
    piece ∈ splitOn sep s → sep ∉ piece
  | [], piece, h => by
    obtain rfl := List.mem_singleton.mp h
    simp
  | c :: rest, piece, h => by
    rw [splitOn] at h
    split at h
    · rcases List.mem_cons.mp h with rfl | h
      · simp
      · exact not_mem_of_mem_splitOn h
    · next hc =>
      split at h
      · next hnil => exact absurd hnil (splitOn_ne_nil sep rest)
      · next first pieces hrest =>
        rcases List.mem_cons.mp h with rfl | h
        · have hfirst := not_mem_of_mem_splitOn (hrest ▸ List.mem_cons_self)
          simp [Ne.symm hc, hfirst]
        · exact not_mem_of_mem_splitOn (hrest ▸ List.mem_cons_of_mem _ h)

end TypedSheets.Text
