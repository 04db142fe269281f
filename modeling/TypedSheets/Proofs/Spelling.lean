import Mathlib.Data.List.Basic
import TypedSheets.Proofs.QuotedList
import TypedSheets.Proofs.Separator
import TypedSheets.Proofs.TypeCell
import TypedSheets.Record.Coercion

/-!
# Spellings of an enumeration

A type cell spells the values of an enumeration in any letter case and with blank characters
anywhere. The values themselves have no blanks and are in lower case, while from a text in a column
only the blanks at its two ends are dropped. So a text spells a value if it has no blanks inside
(`Text.Unbroken`) and has the value as its normal form
(`ColumnType.IsDeclared.coerceEnum_eq_ok_iff`). Of the spellings in the type cell those with blanks
inside do not spell their values.

Main statement: `ColumnType.coerce_spelling`.
-/

namespace TypedSheets

open Text

/-! ## Blanks inside a text -/

namespace Text

theorem squeeze_dropWhile_isBlank : ∀ s : List Char, squeeze (s.dropWhile isBlank) = squeeze s
  | [] => rfl
  | c :: s => by
    cases hc : isBlank c with
    | true =>
      rw [List.dropWhile_cons_of_pos hc, squeeze_dropWhile_isBlank s, squeeze, squeeze,
        List.filter_cons_of_neg (by simp [hc])]
    | false => rw [List.dropWhile_cons_of_neg (by simp [hc])]

/-- The blanks at the ends of a text are among its blanks. -/
theorem squeeze_trim (s : List Char) : squeeze (trim s) = squeeze s := by
  have hend : ∀ t : List Char, squeeze (trimEnd t) = squeeze t := fun t => by
    rw [trimEnd, squeeze, List.filter_reverse]
    change (squeeze (t.reverse.dropWhile isBlank)).reverse = squeeze t
    rw [squeeze_dropWhile_isBlank, squeeze, List.filter_reverse, List.reverse_reverse, squeeze]
  rw [trim, hend, trimStart, squeeze_dropWhile_isBlank]

theorem squeeze_eq_self_iff {s : List Char} : squeeze s = s ↔ ∀ c ∈ s, isBlank c = false := by
  simp [squeeze, List.filter_eq_self]

/-- A text has no blanks between its first character that is none and the last. -/
def Unbroken (s : List Char) : Prop :=
  ∀ c ∈ trim s, isBlank c = false

instance (s : List Char) : Decidable (Unbroken s) :=
  decidable_of_iff ((trim s).all (!isBlank ·) = true) (by simp [Unbroken])

theorem not_isBlank_of_mem_normal {s : List Char} {c : Char} (h : c ∈ ColumnType.normal s) :
    isBlank c = false :=
  squeeze_eq_self_iff.mp (ColumnType.squeeze_normal s) c h

/-- Dropping the blanks at the two ends is enough if there are no others. -/
theorem lowercase_trim_of_unbroken {s : List Char} (h : Unbroken s) :
    lowercase (trim s) = ColumnType.normal s := by
  rw [ColumnType.normal, ← squeeze_trim, squeeze_eq_self_iff.mpr h]

theorem lowercase_trim_eq_iff {s t : List Char} :
    lowercase (trim s) = ColumnType.normal t ↔
      Unbroken s ∧ ColumnType.normal s = ColumnType.normal t := by
  constructor
  · intro h
    have hunbroken : Unbroken s := by
      intro c hc
      rw [Bool.eq_false_iff]
      intro hblank
      -- a blank in the middle would still be there in lower case
      have hmem := mem_lowercase_of_isLower (isLower_of_isBlank hblank) hc
      rw [not_isBlank_of_mem_normal (h ▸ hmem)] at hblank
      exact absurd hblank Bool.false_ne_true
    exact ⟨hunbroken, (lowercase_trim_of_unbroken hunbroken).symm.trans h⟩
  · rintro ⟨hunbroken, h⟩
    exact (lowercase_trim_of_unbroken hunbroken).trans h

end Text

/-! ## The values that a type cell lists -/

namespace ColumnType

/-- The values of a declared enumeration are the pieces that the type cell has between commas, in
normal form. -/
theorem domain_of_parse {raw : String} {domain : List String} (h : parse raw = .ok (.enum domain)) :
    ∃ tag list, splitOn '|' raw.toList = [tag, list] ∧
      domain = (splitOn ',' list).map fun piece => String.ofList (normal piece) := by
  rcases parsePieces_eq_ok h with ⟨-, hnone⟩ | ⟨values, _, hpieces, hdomain, heq⟩
  · cases hnone
  obtain rfl := ColumnType.enum.inj heq
  rw [(separates (.inl rfl)).splitOn_normal] at hpieces
  obtain ⟨tag, rest, hraw, -, hrest⟩ := List.map_eq_cons_iff.mp hpieces
  obtain ⟨list, none, rfl, rfl, hnone⟩ := List.map_eq_cons_iff.mp hrest
  obtain rfl := List.map_eq_nil_iff.mp hnone
  refine ⟨tag, list, hraw, ?_⟩
  rw [(parseDomain_eq_ok hdomain).1, (separates (.inr rfl)).splitOn_normal, List.map_map]
  rfl

theorem IsDeclared.exists_normal {domain : List String} (hdeclared : IsDeclared (.enum domain))
    {label : String} (h : label ∈ domain) : ∃ piece, label = String.ofList (normal piece) := by
  obtain ⟨raw, hraw⟩ := hdeclared
  obtain ⟨-, list, -, rfl⟩ := domain_of_parse hraw
  obtain ⟨piece, -, rfl⟩ := List.mem_map.mp h
  exact ⟨piece, rfl⟩

end ColumnType

/-! ## Texts in a column -/

section

variable {domain : List String} {text : String}

/-- A value of an enumeration without repetitions is found at its position. -/
theorem coerceEnum_eq_ok_iff {i : Nat} {label : String} (hnodup : domain.Nodup)
    (hlabel : domain[i]? = some label) :
    coerceEnum domain text = .ok (.enum i label) ↔
      onChars (fun s => lowercase (trim s)) text = label := by
  constructor
  · intro h
    simp only [coerceEnum] at h
    split at h
    · next j hfind =>
      obtain ⟨hj, hwanted, -⟩ := List.findIdx?_eq_some_iff_getElem.mp hfind
      obtain ⟨rfl, -⟩ := Value.enum.inj (Except.ok.inj h)
      rw [← beq_iff_eq.mp hwanted]
      exact Option.some.inj ((List.getElem?_eq_getElem hj).symm.trans hlabel)
    · cases h
  · intro h
    simp only [coerceEnum, h, findIdx?_eq_some_of_nodup hnodup hlabel]
    rw [List.getD_eq_getElem?_getD, hlabel, Option.getD_some]

theorem coerceEnum_eq_error_iff :
    coerceEnum domain text = .error (.domain text domain) ↔
      onChars (fun s => lowercase (trim s)) text ∉ domain := by
  simp only [coerceEnum]
  split
  · next i hfind =>
    obtain ⟨hi, hwanted, -⟩ := List.findIdx?_eq_some_iff_getElem.mp hfind
    have hmem := List.getElem_mem hi
    rw [beq_iff_eq.mp hwanted] at hmem
    exact iff_of_false (by simp) (not_not_intro hmem)
  · next hfind =>
    refine iff_of_true rfl fun hmem => ?_
    simpa using List.findIdx?_eq_none_iff.mp hfind _ hmem

end

/-- The cell is a string, or a formula whose stored result is one. -/
def Cell.HoldsText (cell : Cell) (text : String) : Prop :=
  cell = .string text ∨ ∃ formula, cell = .formula formula (some (.string text))

theorem Cell.HoldsText.coerce_eq {cell : Cell} {text : String} (h : cell.HoldsText text)
    (domain : List String) : Cell.coerce (.enum domain) (some cell) = coerceEnum domain text := by
  rcases h with rfl | ⟨formula, rfl⟩ <;> rfl

namespace ColumnType

section

variable {domain : List String} (hdeclared : IsDeclared (.enum domain))

include hdeclared

/-- A text spells a value of a declared enumeration if it has no blanks inside and the value is its
normal form. -/
theorem IsDeclared.coerceEnum_eq_ok_iff {i : Nat} {label text : String}
    (hlabel : domain[i]? = some label) :
    coerceEnum domain text = .ok (.enum i label) ↔
      Unbroken text.toList ∧ String.ofList (normal text.toList) = label := by
  obtain ⟨piece, rfl⟩ := hdeclared.exists_normal (List.mem_of_getElem? hlabel)
  rw [TypedSheets.coerceEnum_eq_ok_iff (hdeclared.nodup_domain rfl) hlabel, onChars,
    String.ofList_inj, String.ofList_inj, lowercase_trim_eq_iff]

/-- A text with blanks inside spells no value of a declared enumeration. -/
theorem IsDeclared.coerceEnum_of_not_unbroken {text : String} (hbroken : ¬Unbroken text.toList) :
    coerceEnum domain text = .error (.domain text domain) := by
  rw [coerceEnum_eq_error_iff]
  intro hmem
  obtain ⟨piece, hpiece⟩ := hdeclared.exists_normal hmem
  exact hbroken (lowercase_trim_eq_iff.mp (String.ofList_inj.mp hpiece)).1

end

/-- Of the spellings that a type cell lists, the `i`-th spells the `i`-th value of the enumeration
in a column if it has no blanks inside, and none otherwise. -/
theorem coerce_spelling {raw : String} {domain : List String} (h : parse raw = .ok (.enum domain)) :
    ∃ tag list, splitOn '|' raw.toList = [tag, list] ∧
      (splitOn ',' list).length = domain.length ∧
      ∀ (i : Nat) (spelling : List Char) (label : String),
        (splitOn ',' list)[i]? = some spelling → domain[i]? = some label →
          label = String.ofList (normal spelling) ∧
          ∀ cell : Cell, cell.HoldsText (String.ofList spelling) →
            (Unbroken spelling → Cell.coerce (.enum domain) (some cell) = .ok (.enum i label)) ∧
            (¬Unbroken spelling → Cell.coerce (.enum domain) (some cell) =
              .error (.domain (String.ofList spelling) domain)) := by
  have hdeclared : IsDeclared (.enum domain) := ⟨raw, h⟩
  obtain ⟨tag, list, hraw, hdomain⟩ := domain_of_parse h
  refine ⟨tag, list, hraw, by simp [hdomain], fun i spelling label hspelling hlabel => ?_⟩
  have hnormal : label = String.ofList (normal spelling) := by
    rw [hdomain, List.getElem?_map, hspelling] at hlabel
    exact (Option.some.inj hlabel).symm
  refine ⟨hnormal, fun cell hcell => ⟨fun hunbroken => ?_, fun hbroken => ?_⟩⟩
  · rw [hcell.coerce_eq, hdeclared.coerceEnum_eq_ok_iff hlabel, String.toList_ofList]
    exact ⟨hunbroken, hnormal.symm⟩
  · rw [hcell.coerce_eq, hdeclared.coerceEnum_of_not_unbroken (by rwa [String.toList_ofList])]

/-- The stored result of a formula spells the second of two values, and a text spells none as it has
a blank inside. -/
theorem coerce_red :
    parse "Enum | Light Blue , RED" = .ok (.enum ["lightblue", "red"]) ∧
      Cell.coerce (.enum ["lightblue", "red"]) (some (.formula "=A1" (some (.string " RED")))) =
        .ok (.enum 1 "red") ∧
      Cell.coerce (.enum ["lightblue", "red"]) (some (.string " Light Blue ")) =
        .error (.domain " Light Blue " ["lightblue", "red"]) := by
  have hparse : parse "Enum | Light Blue , RED" = .ok (.enum ["lightblue", "red"]) := by
    decide +kernel
  obtain ⟨tag, list, hraw, -, hspelling⟩ := coerce_spelling hparse
  have hpieces : splitOn '|' "Enum | Light Blue , RED".toList =
      ["Enum ".toList, " Light Blue , RED".toList] := by decide +kernel
  obtain ⟨rfl, rfl⟩ : "Enum ".toList = tag ∧ " Light Blue , RED".toList = list := by
    simpa only [List.cons.injEq, and_true] using hpieces.symm.trans hraw
  obtain ⟨-, hred⟩ := hspelling 1 " RED".toList "red" (by decide +kernel) rfl
  obtain ⟨-, hblue⟩ := hspelling 0 " Light Blue ".toList "lightblue" (by decide +kernel) rfl
  exact ⟨hparse, (hred _ (.inr ⟨"=A1", rfl⟩)).1 (by decide +kernel),
    (hblue _ (.inl rfl)).2 (by decide +kernel)⟩

/-- Not every spelling that a type cell lists spells its value: one with a blank inside does not. -/
theorem not_coerce_every_spelling :
    ¬∀ (raw : String) (domain : List String) (tag list : List Char),
      parse raw = .ok (.enum domain) →
      splitOn '|' raw.toList = [tag, list] →
        ∀ (i : Nat) (spelling : List Char) (label : String),
          (splitOn ',' list)[i]? = some spelling → domain[i]? = some label →
          Cell.coerce (.enum domain) (some (.string (String.ofList spelling))) =
            .ok (.enum i label) := by
  intro h
  have hblue := h "enum|light blue,red" ["lightblue", "red"] "enum".toList "light blue,red".toList
    (by decide +kernel) (by decide +kernel) 0 "light blue".toList "lightblue"
      (by decide +kernel) rfl
  exact absurd hblue (by decide +kernel)

end ColumnType

end TypedSheets
