import Mathlib.Data.List.Basic
import TypedSheets.Proofs.Compilation
import TypedSheets.Proofs.Loading

/-!
# Sheets without a header in a load

A sheet without a header declares nothing (`Sheet.isEmpty`), but a load does not look at headers:
the rows below the place of the schema rows are loaded from such a sheet as from any other. Leaving
out the sheets without a header changes what a load returns just as far as their rows go
(`Loader.loadWorkbook_dropEmpty`).
-/

namespace TypedSheets

/-- Whether a sheet has no header. -/
def Sheet.isEmpty (sheet : Sheet) : Bool :=
  match sheet.schema with
  | .ok .empty => true
  | _ => false

theorem Sheet.isEmpty_eq_true_iff {sheet : Sheet} :
    sheet.isEmpty = true ↔ sheet.schema = .ok .empty := by
  unfold isEmpty
  split <;> simp_all

/-- The workbook without its sheets that have no header. -/
def Workbook.dropEmpty (w : Workbook) : Workbook :=
  ⟨w.sheets.filter (!·.isEmpty)⟩

theorem keptRows_dropEmpty (w : Workbook) :
    keptRows w.dropEmpty.sheets = (keptRows w.sheets).filter fun (sheet, _) => !sheet.isEmpty := by
  rw [keptRows, keptRows, Workbook.dropEmpty, List.filter_flatMap]
  induction w.sheets with
  | nil => rfl
  | cons sheet sheets ih =>
    rw [List.flatMap_cons, ← ih, List.filter_map]
    cases hempty : sheet.isEmpty <;> simp [hempty, Function.comp_def]

/-- A statement on the kept rows of the sheets that are left out. -/
theorem forall_keptRows_isEmpty (w : Workbook) (p : Sheet → Nat × Row → Prop) :
    (∀ row ∈ keptRows w.sheets, (!row.1.isEmpty) = false → p row.1 row.2) ↔
      ∀ sheet ∈ w.sheets, sheet.schema = .ok .empty →
        ∀ row ∈ sheet.keptRows, p sheet row := by
  simp only [Bool.not_eq_false', Sheet.isEmpty_eq_true_iff]
  constructor
  · intro h sheet hsheet hschema row hrow
    exact h (sheet, row) (mem_keptRows.mpr ⟨hsheet, hrow⟩) hschema
  · rintro h ⟨sheet, row⟩ hmem hschema
    obtain ⟨hsheet, hrow⟩ := mem_keptRows.mp hmem
    exact h sheet hsheet hschema row hrow

namespace Loader

variable (l : Loader) (w : Workbook)

/-- Leaving out the sheets without a header leaves a load as it is if they keep no rows. A load that
goes through returns the same without them just when none of their rows can be loaded. A load that
stops does so at the same row without them, or had stopped at a row of theirs. -/
theorem loadWorkbook_dropEmpty :
    ((∀ sheet ∈ w.sheets, sheet.schema = .ok .empty → sheet.keptRows = []) →
        l.loadWorkbook w.dropEmpty = l.loadWorkbook w) ∧
      (∀ records, (l.loadWorkbook w).result = .ok records →
        ((l.loadWorkbook w.dropEmpty).result = .ok records ↔
          ∀ sheet ∈ w.sheets, sheet.schema = .ok .empty →
            ∀ row ∈ sheet.keptRows, ∃ e, l.loadRow sheet row = .error e)) ∧
      ∀ e, (l.loadWorkbook w).result = .error e →
        (l.loadWorkbook w.dropEmpty).result = .error e ∨
          ∃ sheet ∈ w.sheets, sheet.schema = .ok .empty ∧
            ∃ row ∈ sheet.keptRows, l.loadRow sheet row = .error e := by
  simp only [loadWorkbook, loadSheets_eq_collect, keptRows_dropEmpty]
  refine ⟨fun hempty => ?_, fun records hrecords => ?_, fun e he => ?_⟩
  · have hnone : ∀ row ∈ keptRows w.sheets, (!row.1.isEmpty) = false → False := by
      refine (forall_keptRows_isEmpty w fun _ _ => False).mpr fun sheet hsheet hschema row hrow =>
        ?_
      rw [hempty sheet hsheet hschema] at hrow
      exact List.not_mem_nil hrow
    rw [List.filter_eq_self.mpr fun row hrow => Bool.of_not_eq_false (hnone row hrow)]
  · rw [Policy.collect_filter_eq_ok_iff l.policy hrecords]
    exact forall_keptRows_isEmpty w fun sheet row => ∃ e, l.loadRow sheet row = .error e
  · refine (Policy.collect_filter_eq_error l.policy he).imp_right ?_
    rintro ⟨⟨sheet, row⟩, hmem, hempty, hrow⟩
    obtain ⟨hsheet, hkept⟩ := mem_keptRows.mp hmem
    exact ⟨sheet, hsheet, Sheet.isEmpty_eq_true_iff.mp (by simpa using hempty), row,
      hkept, hrow⟩

/-! ## Notes below a blank header -/

/-- A sheet of two records, and one without a header that has the given cells below. -/
def withNotes (body : List (Option Row)) : Workbook := ⟨[
  ⟨"Items", [some [.string "sold"], some [.string "bool"], some [.boolean true],
    some [.boolean false]]⟩,
  ⟨"Notes", [some [.blank, .string "note"], some [.string "checked"]] ++ body⟩]⟩

/-- A loader for a column of truth values. -/
def soldLoader (policy : Policy) : Loader :=
  ⟨⟨"Entity_Items", [⟨"sold", .bool⟩]⟩, "Items.json", policy⟩

/-- The records of the first sheet. -/
def soldRecords : List Record :=
  [⟨["sold"], [.bool true]⟩, ⟨["sold"], [.bool false]⟩]

/-- The error of a note where a truth value should be. -/
def noteError : LoadError :=
  ⟨"Items.json", .cell ⟨"Notes", ⟨2, 0⟩, "sold"⟩ (.kind .bool "string")⟩

/-- Notes that are no rows, rows that are dropped, and rows that stop a load. -/
theorem loadWorkbook_withNotes :
    (soldLoader .abort).loadWorkbook (withNotes []).dropEmpty =
        (soldLoader .abort).loadWorkbook (withNotes []) ∧
      ((soldLoader .skipRow).loadWorkbook (withNotes [some [.string "a"]])).result =
        .ok soldRecords ∧
      ((soldLoader .skipRow).loadWorkbook (withNotes [some [.string "a"]]).dropEmpty).result =
        .ok soldRecords ∧
      ((soldLoader .abort).loadWorkbook (withNotes [some [.string "a"]])).result =
        .error noteError ∧
      ∃ sheet ∈ (withNotes [some [.string "a"]]).sheets, sheet.schema = .ok .empty ∧
        ∃ row ∈ sheet.keptRows, (soldLoader .abort).loadRow sheet row = .error noteError := by
  have hskipped : ((soldLoader .skipRow).loadWorkbook (withNotes [some [.string "a"]])).result =
      .ok soldRecords := by decide +kernel
  have hnotes : ∀ sheet ∈ (withNotes [some [.string "a"]]).sheets, sheet.schema = .ok .empty →
      ∀ row ∈ sheet.keptRows, ((soldLoader .skipRow).loadRow sheet row).toOption = none := by
    decide +kernel
  have haborted : ((soldLoader .abort).loadWorkbook (withNotes [some [.string "a"]])).result =
      .error noteError := by decide +kernel
  have hothers :
      ((soldLoader .abort).loadWorkbook (withNotes [some [.string "a"]]).dropEmpty).result ≠
      .error noteError := by decide +kernel
  refine ⟨(loadWorkbook_dropEmpty (soldLoader .abort) (withNotes [])).1 (by decide +kernel),
    hskipped, ?_,
    haborted, ((loadWorkbook_dropEmpty (soldLoader .abort) _).2.2 _ haborted).resolve_left
      hothers⟩
  refine ((loadWorkbook_dropEmpty (soldLoader .skipRow) _).2.1 _ hskipped).mpr ?_
  exact fun sheet hsheet hschema row hrow =>
    toOption_eq_none_iff.mp (hnotes sheet hsheet hschema row hrow)

/-- A workbook compiles whose sheet without a header adds a record to those of its other sheet. -/
theorem loads_sheet_without_header :
    (Compilation.run "Items.json" "Entity_Items" (withNotes [some [.boolean true]])).success =
      true ∧
      (Compilation.run "Items.json" "Entity_Items" (withNotes [some [.boolean true]])).schema =
        some (soldLoader .abort).schema ∧
      ((soldLoader .abort).loadWorkbook (withNotes [some [.boolean true]]).dropEmpty).result =
        .ok soldRecords ∧
      ((soldLoader .abort).loadWorkbook (withNotes [some [.boolean true]])).result =
        .ok (soldRecords ++ [⟨["sold"], [.bool true]⟩]) :=
  ⟨rfl, rfl, rfl, rfl⟩

end Loader

end TypedSheets
