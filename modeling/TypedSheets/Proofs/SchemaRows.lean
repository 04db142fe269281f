import Mathlib.Data.List.Forall2
import TypedSheets.Declaration.Compile
import TypedSheets.Descriptor.Basic
import TypedSheets.Proofs.Header
import TypedSheets.Proofs.Verdicts

/-!
# The rows that a schema is read from

What is compiled from a sheet depends on its name, on the cells of its header up to the first blank
one, and on the cells below these (`Sheet.SameSchemaRows`). Cells right of them and all further rows
are data: workbooks that differ in nothing else are compiled alike, need a compilation alike, and
declare the same.

Main statement: `Workbook.SameSchemaRows.compile_eq`.
-/

namespace TypedSheets

/-- The cells of a header: those before its first blank one. -/
def headerCells (row : Row) : Row :=
  row.takeWhile (· ≠ .blank)

/-- The first `n` cells of a row, those right of its end being blank. -/
def firstCells (n : Nat) (row : Row) : Row :=
  (List.range n).map fun i => (row[i]?).getD .blank

/-- The number of cells in the header of a sheet. -/
def Sheet.width (sheet : Sheet) : Nat :=
  (headerCells ((sheet.row? 0).getD [])).length

/-- The sheets have the same name, the same header or none, and the same cells below it or no second
row. -/
structure Sheet.SameSchemaRows (sheet other : Sheet) : Prop where
  name : sheet.name = other.name
  header : (sheet.row? 0).map headerCells = (other.row? 0).map headerCells
  types : (sheet.row? 1).map (firstCells sheet.width) = (other.row? 1).map (firstCells sheet.width)

/-- The workbooks have as many sheets, and those in the same place have the same schema rows. -/
def Workbook.SameSchemaRows (w v : Workbook) : Prop :=
  List.Forall₂ Sheet.SameSchemaRows w.sheets v.sheets

/-! ## What is read of a row -/

theorem headerNamesFrom_headerCells : ∀ (row : Row) (i : Nat) (seen : List String),
    headerNamesFrom i seen (headerCells row) = headerNamesFrom i seen row
  | [], i, seen => rfl
  | cell :: rest, i, seen => by
    cases cell with
    | blank => rfl
    | string s =>
      have hcells : headerCells (.string s :: rest) = .string s :: headerCells rest := rfl
      rw [hcells, headerNamesFrom, headerNamesFrom, headerNamesFrom_headerCells rest]
    | _ => rfl

/-- A header is read up to its first blank cell. -/
theorem headerNames_congr {row other : Row} (h : headerCells row = headerCells other) :
    headerNames row = headerNames other :=
  calc headerNames row
      = headerNames (headerCells row) := (headerNamesFrom_headerCells row 0 []).symm
    _ = headerNames (headerCells other) := by rw [h]
    _ = headerNames other := headerNamesFrom_headerCells other 0 []

theorem length_headerNames {row : Row} {names : List String} (h : headerNames row = .ok names) :
    names.length = (headerCells row).length := by
  obtain ⟨texts, hcells, rfl⟩ := texts_of_headerNamesFrom h
  rw [headerCells, hcells, List.length_map, List.length_map]

theorem typeOfCell_getD (location : Location) (cell : Option Cell) :
    typeOfCell location (some (cell.getD .blank)) = typeOfCell location cell := by
  cases cell <;> rfl

theorem typeColumnsFrom_congr {types others : Row} : ∀ {names : List String} {i : Nat},
    firstCells (i + names.length) types = firstCells (i + names.length) others →
      typeColumnsFrom types i names = typeColumnsFrom others i names
  | [], i, _ => rfl
  | name :: rest, i, h => by
    have hcell : (types[i]?).getD .blank = (others[i]?).getD .blank :=
      List.map_inj_left.mp h i (by simp)
    have htype : typeOfCell ⟨1, i⟩ types[i]? = typeOfCell ⟨1, i⟩ others[i]? := by
      rw [← typeOfCell_getD, hcell, typeOfCell_getD]
    have hrest : typeColumnsFrom types (i + 1) rest = typeColumnsFrom others (i + 1) rest :=
      typeColumnsFrom_congr (by rwa [Nat.add_right_comm, Nat.add_assoc])
    rw [typeColumnsFrom, typeColumnsFrom, htype, hrest]

/-- Types are read below the names. -/
theorem typeColumns_congr {types others : Option Row} {names : List String}
    (h : types.map (firstCells names.length) = others.map (firstCells names.length)) :
    typeColumns types names = typeColumns others names := by
  cases types with
  | none =>
    obtain rfl : others = none := Option.map_eq_none_iff.mp h.symm
    rfl
  | some row =>
    obtain ⟨other, rfl, hcells⟩ := Option.map_eq_some_iff.mp h.symm
    exact typeColumnsFrom_congr (by rw [Nat.zero_add, hcells])

/-! ## What is read of a sheet -/

/-- A sheet is read through the names in its header and the types below these. -/
theorem Agreement.readSheet_congr (a : Agreement) {sheet other : Sheet}
    (header : sheet.headerNames = other.headerNames)
    (types : ∀ names, sheet.headerNames = .ok names →
      typeColumns (sheet.row? 1) names = typeColumns (other.row? 1) names) :
    a.readSheet sheet = a.readSheet other := by
  have hgiven : sheet.givenNames? = other.givenNames? := by
    rw [Sheet.givenNames?, Sheet.givenNames?, header]
  cases hnames : sheet.givenNames? with
  | none =>
    rw [a.readSheet_of_not_given hnames, a.readSheet_of_not_given (hgiven ▸ hnames), header]
  | some names =>
    have htypes := types names (Sheet.givenNames?_eq_some_iff.mp hnames).1
    rw [readSheet_of_given hnames, readSheet_of_given (hgiven ▸ hnames)]
    simp only [readTypes, htypes]

namespace Sheet.SameSchemaRows

variable {sheet other : Sheet} (h : sheet.SameSchemaRows other)
include h

theorem headerNames_eq : sheet.headerNames = other.headerNames := by
  have hheader := h.header
  unfold headerNames
  cases hrow : sheet.row? 0 with
  | none =>
    rw [hrow] at hheader
    rw [Option.map_eq_none_iff.mp hheader.symm]
  | some row =>
    rw [hrow] at hheader
    obtain ⟨row', hother, hcells⟩ := Option.map_eq_some_iff.mp hheader.symm
    rw [hother]
    exact headerNames_congr hcells.symm

theorem typeColumns_eq {names : List String} (hnames : sheet.headerNames = .ok names) :
    typeColumns (sheet.row? 1) names = typeColumns (other.row? 1) names := by
  have hwidth : names.length = sheet.width := by
    unfold Sheet.headerNames at hnames
    unfold width
    cases hrow : sheet.row? 0 with
    | none =>
      obtain rfl : [] = names := by simpa [hrow] using hnames
      rfl
    | some row => exact length_headerNames (by simpa [hrow] using hnames)
  exact typeColumns_congr (hwidth ▸ h.types)

theorem readSheet_eq (a : Agreement) : a.readSheet sheet = a.readSheet other :=
  a.readSheet_congr h.headerNames_eq fun _ => h.typeColumns_eq

end Sheet.SameSchemaRows

/-! ## What is read of a workbook -/

theorem Agreement.after_congr {sheets others : List Sheet}
    (h : List.Forall₂ Sheet.SameSchemaRows sheets others) :
    ∀ a : Agreement, a.after sheets = a.after others ∧
      a.verdicts sheets = a.verdicts others := by
  induction h with
  | nil => exact fun a => ⟨rfl, rfl⟩
  | cons hsheet _ ih =>
    intro a
    rw [after_cons, after_cons, verdicts_cons, verdicts_cons, hsheet.readSheet_eq a]
    exact ⟨(ih _).1, congrArg _ (ih _).2⟩

theorem rejectionsOf_congr (source : String) {sheets others : List Sheet}
    (h : List.Forall₂ Sheet.SameSchemaRows sheets others) :
    ∀ faults, rejectionsOf source sheets faults = rejectionsOf source others faults := by
  unfold rejectionsOf
  induction h with
  | nil => exact fun faults => rfl
  | @cons sheet other rest rest' hsheet _ ih =>
    intro faults
    cases faults with
    | nil => rfl
    | cons fault? faults =>
      simp only [List.zip_cons_cons, List.filterMap_cons, hsheet.name, ih faults]

namespace Workbook.SameSchemaRows

variable {w v : Workbook} (h : w.SameSchemaRows v)
include h

theorem run_eq (source entity : String) :
    Compilation.run source entity w = Compilation.run source entity v := by
  obtain ⟨hafter, hverdicts⟩ := Agreement.after_congr h Agreement.fresh
  have hrejections : (Compilation.run source entity w).rejections =
      (Compilation.run source entity v).rejections := by
    rw [Compilation.rejections_run, Compilation.rejections_run, faults, faults, hverdicts]
    exact rejectionsOf_congr source h _
  have hschema : (Compilation.run source entity w).schema =
      (Compilation.run source entity v).schema := by
    rw [Compilation.schema_run, Compilation.schema_run, hrejections, hafter]
  have hsheets : w.sheets.length = v.sheets.length := h.length_eq
  exact Compilation.mk.injEq .. |>.mpr ⟨rfl, rfl, hsheets, hschema, hrejections⟩

theorem needsCompile_eq (existing : Option Descriptor) :
    needsCompile existing w = needsCompile existing v := by
  have hcurrent : ∀ d : Descriptor, d.isCurrent w = d.isCurrent v := fun d => by
    obtain ⟨sheets⟩ := w
    obtain ⟨others⟩ := v
    cases h with
    | nil => rfl
    | cons hfirst _ => simp only [Descriptor.isCurrent, hfirst.readSheet_eq]
  cases existing with
  | none => rfl
  | some d => rw [needsCompile, needsCompile, hcurrent]

/-- Workbooks with the same schema rows have the same report, need a compilation alike, whatever
their last compilation was, and from any registry give the same declaration or error, and the same
registry. -/
theorem compile_eq :
    (∀ source entity, Compilation.run source entity w = Compilation.run source entity v) ∧
      (∀ existing, needsCompile existing w = needsCompile existing v) ∧
      ∀ (g : Generator) registry source entity,
        g.compile registry source entity w = g.compile registry source entity v := by
  refine ⟨h.run_eq, h.needsCompile_eq, fun g registry source entity => ?_⟩
  unfold Generator.compile
  rw [h.run_eq source entity]

end Workbook.SameSchemaRows

namespace Workbook

/-- A workbook with a sheet of records and one that lacks its types. -/
def beforeEdit : Workbook := ⟨[
  ⟨"Items", [some [.string "id", .string "kind"], some [.string "int", .string "enum|red,green"],
    some [.string "1", .string "red"]]⟩,
  ⟨"More", [some [.string "id", .string "kind"]]⟩]⟩

/-- The same workbook with other records, and with notes right of the header and of its types. -/
def afterEdit : Workbook := ⟨[
  ⟨"Items", [some [.string "id", .string "kind", .blank, .string "note"],
    some [.string "int", .string "enum|red,green", .boolean true, .unknown], none,
    some [.string "2", .string "green"], some [.string "3"]]⟩,
  ⟨"More", [some [.string "id", .string "kind", .blank, .string "id"], none,
    some [.string "4"]]⟩]⟩

theorem compile_afterEdit : beforeEdit.SameSchemaRows afterEdit ∧
    (Compilation.run "Items.json" "Items" afterEdit).rejections =
      [⟨"Items.json", "More", ⟨.missingTypeRow, none⟩⟩] := by
  have hsame : beforeEdit.SameSchemaRows afterEdit :=
    .cons ⟨rfl, by decide, by decide⟩ (.cons ⟨rfl, by decide, by decide⟩ .nil)
  refine ⟨hsame, ?_⟩
  rw [← hsame.compile_eq.1]
  decide +kernel

end Workbook

end TypedSheets
