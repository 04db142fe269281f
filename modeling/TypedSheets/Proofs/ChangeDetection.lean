import TypedSheets.Descriptor.Basic
import TypedSheets.Proofs.Compilation
import TypedSheets.Proofs.TypeCell

/-!
# Detecting changes

A descriptor is compared with the first sheet of a workbook as text. `Descriptor.isCurrent_iff` says
what sheet it is current for, and `Descriptor.toSchema_eq_ok` what schema a descriptor gives that
consists of the names and written types of declared columns. As written types determine types,
comparing text decides whether columns are equal.

Main statement: `needsCompile_exact`.
-/

namespace TypedSheets

open Text

/-! ## Declared columns -/

theorem typeOfCell_eq_ok_iff {location : Location} {cell : Option Cell} {type : ColumnType} :
    typeOfCell location cell = .ok type ↔
      ∃ text, cell = some (.string text) ∧ ColumnType.parse text = .ok type := by
  rcases cell with _ | cell
  · simp [typeOfCell]
  · cases cell <;> simp [typeOfCell, mapError_eq_ok_iff]

theorem isDeclared_of_typeColumnsFrom (types : Row) :
    ∀ (i : Nat) (names : List String) {cols : List Column},
      typeColumnsFrom types i names = .ok cols → ∀ c ∈ cols, c.type.IsDeclared
  | i, [], cols, h => by
    obtain rfl : [] = cols := by simpa [typeColumnsFrom] using h
    simp
  | i, name :: rest, cols, h => by
    obtain ⟨type, others, htype, hothers, rfl⟩ := typeColumnsFrom_cons_eq_ok h
    obtain ⟨text, -, hparse⟩ := typeOfCell_eq_ok_iff.mp htype
    exact List.forall_mem_cons.mpr ⟨⟨text, hparse⟩,
      isDeclared_of_typeColumnsFrom types (i + 1) rest hothers⟩

/-- The types of the columns that a sheet declares stand in type cells. -/
theorem Sheet.isDeclared_of_schema {sheet : Sheet} {cols : List Column}
    (h : sheet.schema = .ok (.columns cols)) : ∀ c ∈ cols, c.type.IsDeclared := by
  obtain ⟨-, -, htypes⟩ := Sheet.schema_eq_columns_iff.mp h
  cases hrow : sheet.row? 1 with
  | none => simp [typeColumns, hrow] at htypes
  | some row =>
    simp only [typeColumns, hrow] at htypes
    exact isDeclared_of_typeColumnsFrom row 0 _ htypes

theorem Compilation.isDeclared_of_schema {source entity : String} {w : Workbook} {s : TableSchema}
    (h : (run source entity w).schema = some s) : ∀ c ∈ s.columns, c.type.IsDeclared := by
  obtain ⟨-, ⟨sheet, -, hsheet⟩, -⟩ := (schema_eq_some_iff source entity w).mp h
  exact sheet.isDeclared_of_schema hsheet

/-- Columns with declared types are determined by their names and written types. -/
theorem columns_eq_of_texts :
    ∀ {cols others : List Column}, (∀ c ∈ cols, c.type.IsDeclared) →
    (∀ c ∈ others, c.type.IsDeclared) → cols.map (·.name) = others.map (·.name) →
      cols.map (·.type.canonical) = others.map (·.type.canonical) → cols = others
  | [], [], _, _, _, _ => rfl
  | [], _ :: _, _, _, h, _ => nomatch h
  | _ :: _, [], _, _, h, _ => nomatch h
  | ⟨name, type⟩ :: cols, ⟨name', type'⟩ :: others, hc, ho, hn, ht => by
    simp only [List.map_cons, List.cons.injEq] at hn ht
    obtain ⟨hc, hcs⟩ := List.forall_mem_cons.mp hc
    obtain ⟨ho, hos⟩ := List.forall_mem_cons.mp ho
    obtain rfl : type = type' := hc.eq_of_canonical_eq ho ht.1
    rw [hn.1, columns_eq_of_texts hcs hos hn.2 ht.2]

namespace Descriptor

variable {d : Descriptor} {cols : List Column}

/-! ## Reading descriptors -/

theorem columns_zip : ∀ {cols : List Column}, (∀ c ∈ cols, c.type.IsDeclared) →
    columns ((cols.map (·.name)).zip (cols.map (·.type.canonical))) = .ok cols
  | [], _ => rfl
  | c :: cols, h => by
    obtain ⟨hc, hcols⟩ := List.forall_mem_cons.mp h
    simp only [List.map_cons, List.zip_cons_cons, columns, hc.parse_canonical, columns_zip hcols,
      Except.map]

/-- The names and written types of declared columns give just these columns, if they form a valid
schema. -/
theorem toSchema_eq (hnames : d.names = cols.map (·.name))
    (htypes : d.types = cols.map (·.type.canonical)) (hcols : ∀ c ∈ cols, c.type.IsDeclared) :
    d.toSchema = match (TableSchema.mk d.entity cols).validate with
      | .error e => .error (.structural e)
      | .ok () => .ok ⟨d.entity, cols⟩ := by
  have hlengths : ¬d.names.length ≠ d.types.length := by simp [hnames, htypes]
  have hcolumns : columns (d.names.zip d.types) = .ok cols := by
    rw [hnames, htypes, columns_zip hcols]
  cases hvalidate : (TableSchema.mk d.entity cols).validate with
  | error e => simp only [toSchema, if_neg hlengths, hcolumns, hvalidate]
  | ok u => simp only [toSchema, if_neg hlengths, hcolumns, hvalidate]

theorem columns_of_toSchema (hnames : d.names = cols.map (·.name))
    (htypes : d.types = cols.map (·.type.canonical)) (hcols : ∀ c ∈ cols, c.type.IsDeclared)
    {s : TableSchema} (h : d.toSchema = .ok s) : s.columns = cols := by
  rw [toSchema_eq hnames htypes hcols] at h
  split at h
  · cases h
  · rw [← Except.ok.inj h]

/-! ## Comparing descriptors -/

theorem describes_ofColumns (d : Descriptor) (cols : List Column) :
    d.describes (.ofColumns cols) = true ↔
      d.names = cols.map (·.name) ∧ d.types = cols.map (·.type.canonical) := by
  simp only [describes, Agreement.ofColumns, Bool.and_eq_true, beq_iff_eq, List.map_map,
    Function.comp_def]
  exact and_congr eq_comm eq_comm

/-- A descriptor is current for a workbook whose first sheet, read on its own, declares the names
and the types written in it. An empty first sheet declares nothing, so no descriptor is current for
it. -/
theorem isCurrent_iff (d : Descriptor) (w : Workbook) :
    d.isCurrent w = true ↔ ∃ first cols, w.sheets.head? = some first ∧
      first.schema = .ok (.columns cols) ∧ d.names = cols.map (·.name) ∧
        d.types = cols.map (·.type.canonical) := by
  unfold isCurrent
  cases hsheets : w.sheets with
  | nil => simp
  | cons first rest =>
    have hhead : (first :: rest).head? = some first := rfl
    simp only [hhead, Option.some.injEq, exists_and_left, exists_eq_left']
    cases hschema : first.schema with
    | error e =>
      obtain ⟨e', he⟩ := Agreement.readSheet_of_error hschema .fresh
      rw [show Agreement.fresh.readSheet first = (_, .error e') from Prod.ext rfl he]
      simp
    | ok declared =>
      cases declared with
      | empty =>
        rw [Agreement.readSheet_of_empty hschema]
        simp [describes, Agreement.fresh]
      | columns cols =>
        rw [Agreement.fresh_readSheet_of_columns hschema]
        simp [describes_ofColumns]

end Descriptor

/-! ## Workbooks -/

theorem needsCompile_eq_false_iff (d : Descriptor) (w : Workbook) :
    needsCompile (some d) w = false ↔ ∃ first cols, w.sheets.head? = some first ∧
      first.schema = .ok (.columns cols) ∧ d.names = cols.map (·.name) ∧
        d.types = cols.map (·.type.canonical) := by
  rw [← Descriptor.isCurrent_iff]
  simp [needsCompile]

/-- The descriptor of declared columns is current just for workbooks whose first sheet declares
them. -/
theorem needsCompile_ofSchema {s : TableSchema} (hs : ∀ c ∈ s.columns, c.type.IsDeclared)
    (w : Workbook) : needsCompile (some (.ofSchema s)) w = false ↔
      ∃ first, w.sheets.head? = some first ∧ first.schema = .ok (.columns s.columns) := by
  rw [needsCompile_eq_false_iff]
  constructor
  · rintro ⟨first, cols, hfirst, hschema, hnames, htypes⟩
    obtain rfl := columns_eq_of_texts hs (first.isDeclared_of_schema hschema) hnames htypes
    exact ⟨first, hfirst, hschema⟩
  · rintro ⟨first, hfirst, hschema⟩
    exact ⟨first, s.columns, hfirst, hschema, rfl, rfl⟩

/-- A workbook does not have to be compiled again just when its first sheet, read on its own,
declares the columns of the schema compiled before; if the workbook itself compiles and that sheet
is not empty, when the two schemas have equal columns. Whatever descriptor is current gives the
columns of the first sheet, if it gives a schema at all. -/
theorem needsCompile_exact (w : Workbook) :
    (∀ (v : Workbook) (source entity : String) (s : TableSchema),
      (Compilation.run source entity v).schema = some s →
        (needsCompile (some (.ofSchema s)) w = false ↔
          ∃ first, w.sheets.head? = some first ∧ first.schema = .ok (.columns s.columns)) ∧
        ∀ (source' entity' : String) (t : TableSchema) (first : Sheet),
          (Compilation.run source' entity' w).schema = some t → w.sheets.head? = some first →
            first.schema ≠ .ok .empty →
              (needsCompile (some (.ofSchema s)) w = false ↔ t.columns = s.columns)) ∧
      ∀ (d : Descriptor) (s : TableSchema), needsCompile (some d) w = false →
        d.toSchema = .ok s →
        ∃ first, w.sheets.head? = some first ∧ first.schema = .ok (.columns s.columns) := by
  refine ⟨fun v source entity s hs => ?_, fun d s hd hs => ?_⟩
  · have hiff := needsCompile_ofSchema (Compilation.isDeclared_of_schema hs) w
    refine ⟨hiff, fun source' entity' t first ht hfirst hne => ?_⟩
    obtain ⟨-, -, hall⟩ := (Compilation.schema_eq_some_iff source' entity' w).mp ht
    have hschema : first.schema = .ok (.columns t.columns) :=
      (hall first (List.mem_of_mem_head? hfirst)).resolve_left hne
    rw [hiff]
    constructor
    · rintro ⟨other, hother, h⟩
      obtain rfl := Option.some.inj (hfirst.symm.trans hother)
      exact SheetSchema.columns.inj (Except.ok.inj (hschema.symm.trans h))
    · exact fun h => ⟨first, hfirst, h ▸ hschema⟩
  · obtain ⟨first, cols, hfirst, hschema, hnames, htypes⟩ :=
      (needsCompile_eq_false_iff d w).mp hd
    obtain rfl :=
      Descriptor.columns_of_toSchema hnames htypes (first.isDeclared_of_schema hschema) hs
    exact ⟨first, hfirst, hschema⟩

/-- A workbook of three sheets that write the same column types differently is current under its own
schema. -/
theorem needsCompile_threeSheets :
    (Compilation.run "Test.json" "Entity_Test" Compilation.threeSheets).schema =
        some ⟨"Entity_Test", [⟨"id", .int⟩, ⟨"kind", .enum ["red", "green"]⟩]⟩ ∧
      needsCompile (some ⟨"Entity_Test", ["id", "kind"], ["int", "enum|red,green"]⟩)
        Compilation.threeSheets = false ∧
      ∃ first, Compilation.threeSheets.sheets.head? = some first ∧
        first.schema = .ok (.columns [⟨"id", .int⟩, ⟨"kind", .enum ["red", "green"]⟩]) := by
  have hschema : (Compilation.run "Test.json" "Entity_Test" Compilation.threeSheets).schema =
      some ⟨"Entity_Test", [⟨"id", .int⟩, ⟨"kind", .enum ["red", "green"]⟩]⟩ := rfl
  have hcurrent := ((needsCompile_exact Compilation.threeSheets).1 _ _ _ _ hschema).1.mpr
    ⟨_, rfl, rfl⟩
  exact ⟨hschema, hcurrent, (needsCompile_exact Compilation.threeSheets).2 _
    ⟨"Entity_Test", [⟨"id", .int⟩, ⟨"kind", .enum ["red", "green"]⟩]⟩ hcurrent rfl⟩

end TypedSheets
