import Mathlib.Data.List.TakeWhile
import TypedSheets.Proofs.Agreement

/-!
# Column names in a header

A header that is accepted holds strings up to its first blank cell or its end, and its names are
these strings without the blank characters around them, in lower case (`Sheet.headerNames_eq_ok`).
No text becomes empty by lower-casing, so that a name is empty just when its cell is blank to the
eye (`columnName_eq_empty_iff`).
-/

namespace TypedSheets

open Text

/-- Nothing but blank characters is written in a text. -/
def Text.AllBlank (text : String) : Prop :=
  ∀ c ∈ text.toList, isBlank c = true

theorem Text.trim_eq_nil_iff {s : List Char} : trim s = [] ↔ ∀ c ∈ s, isBlank c = true := by
  rw [trim, trimEnd, List.reverse_eq_nil_iff, List.dropWhile_eq_nil_iff]
  simp only [List.mem_reverse]
  constructor
  · intro h c hc
    rw [← List.takeWhile_append_dropWhile (p := isBlank) (l := s)] at hc
    rcases List.mem_append.mp hc with hc | hc
    · exact List.mem_takeWhile_imp hc
    · exact h c hc
  · intro h c hc
    exact h c ((List.dropWhile_sublist isBlank).subset hc)

theorem Text.lowerAt_ne_nil (before after : List Char) (c : Char) :
    lowerAt before c after ≠ [] := by
  unfold lowerAt
  split
  · exact List.cons_ne_nil _ _
  · split <;> exact List.cons_ne_nil _ _

theorem Text.lowercase_eq_nil_iff {s : List Char} : lowercase s = [] ↔ s = [] := by
  cases s with
  | nil => exact iff_of_true rfl rfl
  | cons c rest =>
    refine iff_of_false (fun h => ?_) (List.cons_ne_nil c rest)
    exact lowerAt_ne_nil [] rest c (List.append_eq_nil_iff.mp h).1

theorem columnName_eq_empty_iff {cell : String} : columnName cell = "" ↔ AllBlank cell := by
  rw [columnName, onChars, String.ofList_eq_empty_iff, lowercase_eq_nil_iff, trim_eq_nil_iff]
  rfl

/-- A header that is accepted ends at its first cell, or goes on after a string that gives a new
name. -/
theorem headerNamesFrom_cons_eq_ok {cell : Cell} {rest : Row} {i : Nat} {seen names : List String}
    (h : headerNamesFrom i seen (cell :: rest) = .ok names) :
    (cell = .blank ∧ names = []) ∨ ∃ s others, cell = .string s ∧ columnName s ∉ seen ∧
      headerNamesFrom (i + 1) (columnName s :: seen) rest = .ok others ∧
        names = columnName s :: others := by
  cases cell with
  | blank => exact .inl ⟨rfl, by simpa [headerNamesFrom, eq_comm] using h⟩
  | string s =>
    simp only [headerNamesFrom] at h
    split at h
    · cases h
    · next hnew =>
      obtain ⟨others, hothers, rfl⟩ := map_eq_ok_iff.mp h
      exact .inr ⟨s, others, rfl, hnew, hothers, rfl⟩
  | _ => simp [headerNamesFrom] at h

theorem texts_of_headerNamesFrom : ∀ {row : Row} {i : Nat} {seen names : List String},
    headerNamesFrom i seen row = .ok names → ∃ texts : List String,
      row.takeWhile (· ≠ .blank) = texts.map .string ∧ names = texts.map columnName
  | [], i, seen, names, h => by
    obtain rfl : [] = names := by simpa [headerNamesFrom] using h
    exact ⟨[], rfl, rfl⟩
  | cell :: rest, i, seen, names, h => by
    rcases headerNamesFrom_cons_eq_ok h with ⟨rfl, rfl⟩ | ⟨s, others, rfl, -, hothers, rfl⟩
    · exact ⟨[], rfl, rfl⟩
    · obtain ⟨texts, htexts, rfl⟩ := texts_of_headerNamesFrom hothers
      refine ⟨s :: texts, ?_, rfl⟩
      rw [List.takeWhile_cons_of_pos (by simp), htexts, List.map_cons]

/-- The names in a header come from the strings before its first blank cell. -/
theorem Sheet.headerNames_eq_ok {sheet : Sheet} {names : List String}
    (h : sheet.headerNames = .ok names) : ∃ texts : List String,
      ((sheet.row? 0).getD []).takeWhile (· ≠ .blank) = texts.map .string ∧
        names = texts.map columnName := by
  unfold headerNames at h
  split at h
  · next hrow =>
    obtain rfl := Except.ok.inj h
    exact ⟨[], by simp [hrow], rfl⟩
  · next header hrow =>
    rw [hrow]
    exact texts_of_headerNamesFrom h

end TypedSheets
