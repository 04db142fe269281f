import TypedSheets.Proofs.RowScan

/-!
# Where a load stops

The cells of the kept rows of a workbook have an order: by sheet, then by row, then by column
(`CellIndex.Before`). A load that a fault stops fails at the first of them that does not coerce, and
tells what is wrong with it by the kind of the fault (`Cell.isDomain_iff_of_coerce`). There is at
most one such cell (`TableSchema.FirstFaultIn.unique`), so that a load that has one fails there.

Main statement: `Loader.stops_at_first_fault`.
-/

namespace TypedSheets

/-! ## Cells of a workbook in order -/

/-- A place in a workbook, counted from zero. -/
structure CellIndex where
  sheet : Nat
  row : Nat
  column : Nat

/-- Cells are gone through sheet by sheet, row by row and column by column. -/
def CellIndex.Before (p q : CellIndex) : Prop :=
  p.sheet < q.sheet ∨ p.sheet = q.sheet ∧
    (p.row < q.row ∨ p.row = q.row ∧ p.column < q.column)

theorem CellIndex.before_or_eq_or_before (p q : CellIndex) :
    p.Before q ∨ p = q ∨ q.Before p := by
  obtain ⟨k, i, j⟩ := p
  obtain ⟨k', i', j'⟩ := q
  simp only [Before, CellIndex.mk.injEq]
  omega

namespace TableSchema

/-- The cell at a place is read: its row is one that a load keeps, its column one of the schema. -/
structure Reads (s : TableSchema) (w : Workbook) (p : CellIndex) (sheet : Sheet) (row : Row)
    (c : Column) : Prop where
  inWorkbook : w.sheets[p.sheet]? = some sheet
  kept : sheet.Keeps p.row row
  inSchema : s.columns[p.column]? = some c

/-- Of the cells that are read, the one at a place is the first that does not coerce. -/
structure FirstFaultIn (s : TableSchema) (w : Workbook) (p : CellIndex) (sheet : Sheet) (row : Row)
    (c : Column) (fault : CellFault) : Prop extends s.Reads w p sheet row c where
  coerce : Cell.coerce c.type row[p.column]? = .error fault
  before : ∀ q sheet' row' c', q.Before p → s.Reads w q sheet' row' c' →
    ∃ value, Cell.coerce c'.type row'[q.column]? = .ok value

variable {s : TableSchema} {w : Workbook} {p q : CellIndex} {sheet sheet' : Sheet} {row row' : Row}
  {c c' : Column} {fault fault' : CellFault}

/-- A place has but one cell. -/
theorem Reads.unique (h : s.Reads w p sheet row c) (h' : s.Reads w p sheet' row' c') :
    sheet = sheet' ∧ row = row' ∧ c = c' := by
  obtain rfl := Option.some.inj (h.inWorkbook.symm.trans h'.inWorkbook)
  exact ⟨rfl, Option.some.inj (h.kept.slot.symm.trans h'.kept.slot),
    Option.some.inj (h.inSchema.symm.trans h'.inSchema)⟩

theorem FirstFaultIn.not_before (h : s.FirstFaultIn w p sheet row c fault)
    (h' : s.FirstFaultIn w q sheet' row' c' fault') : ¬p.Before q := by
  intro hbefore
  obtain ⟨value, hvalue⟩ := h'.before p sheet row c hbefore h.toReads
  cases hvalue.symm.trans h.coerce

/-- A workbook has at most one first fault. -/
theorem FirstFaultIn.unique (h : s.FirstFaultIn w p sheet row c fault)
    (h' : s.FirstFaultIn w q sheet' row' c' fault') :
    p = q ∧ sheet = sheet' ∧ row = row' ∧ c = c' ∧ fault = fault' := by
  obtain rfl : p = q := by
    rcases p.before_or_eq_or_before q with hbefore | heq | hbefore
    · exact absurd hbefore (h.not_before h')
    · exact heq
    · exact absurd hbefore (h'.not_before h)
  obtain ⟨rfl, rfl, rfl⟩ := h.toReads.unique h'.toReads
  exact ⟨rfl, rfl, rfl, rfl, Except.error.inj (h.coerce.symm.trans h'.coerce)⟩

end TableSchema

/-! ## Kinds of faults -/

theorem coerceInt_eq_error {x : Binary64} {fault : CellFault} (h : coerceInt x = .error fault) :
    fault = .intRange x := by
  unfold coerceInt at h
  dsimp only at h
  split at h <;> cases h
  rfl

/-- A literal that does not coerce is a text outside an enumeration if it is a text where one of an
enumeration should be, and of a wrong kind or size otherwise. -/
theorem Literal.isDomain_iff_of_coerce {l : Literal} {type : ColumnType} {fault : CellFault}
    (h : l.coerce type = .error fault) :
    (∃ text values, fault = .domain text values) ↔
      type.tag = .enum ∧ ∃ text, l = .text text := by
  cases type with
  | enum domain =>
    cases l with
    | text s =>
      simp only [coerce, coerceEnum] at h
      split at h
      · cases h
      · obtain rfl := Except.error.inj h
        simp [ColumnType.tag]
    | _ => obtain rfl := Except.error.inj h; simp
  | int =>
    cases l with
    | numeric x =>
      obtain rfl := coerceInt_eq_error (map_eq_error_iff.mp h)
      simp [ColumnType.tag]
    | _ => obtain rfl := Except.error.inj h; simp [ColumnType.tag]
  | _ => cases l <;> cases h <;> simp [ColumnType.tag]

/-- The cell holds a text in a column of an enumeration. -/
def Cell.IsSpelling (type : ColumnType) (cell : Option Cell) : Prop :=
  type.tag = .enum ∧ ∃ text, cell.bind Cell.literal? = some (.text text)

theorem Cell.isDomain_iff_of_coerce {type : ColumnType} {cell : Option Cell} {fault : CellFault}
    (h : Cell.coerce type cell = .error fault) :
    (∃ text values, fault = .domain text values) ↔ Cell.IsSpelling type cell := by
  unfold Cell.coerce at h
  split at h
  · cases h
  · next l hliteral =>
    rw [Literal.isDomain_iff_of_coerce h, IsSpelling, hliteral]
    simp

/-- The code of the error at a cell tells whether a text is outside an enumeration. -/
theorem LoadError.code_of_coerce {type : ColumnType} {cell : Option Cell} {fault : CellFault}
    (h : Cell.coerce type cell = .error fault) (source : String) (position : CellPosition) :
    (Cell.IsSpelling type cell →
      (LoadError.mk source (.cell position fault)).code = "TBLC_LOAD_ENUM_DOMAIN") ∧
      (¬Cell.IsSpelling type cell →
        (LoadError.mk source (.cell position fault)).code = "TBLC_LOAD_COERCION") := by
  rw [← Cell.isDomain_iff_of_coerce h]
  cases fault <;> simp [code, LoadFault.code]

/-! ## Where a load stops -/

namespace Loader

/-- A load that stops does so in the first sheet that cannot be loaded. -/
theorem loadSheets_eq_error_iff {α : Type} {l : Loader}
    {load : Sheet → Nat × Row → Except LoadError α} {e : LoadError} :
    ∀ {sheets : List Sheet}, (l.loadSheets load sheets).result = .error e ↔
      ∃ earlier sheet later, sheets = earlier ++ sheet :: later ∧
        (∀ s ∈ earlier, ∃ items, (l.policy.collect (load s) s.keptRows).result =
          .ok items) ∧
        (l.policy.collect (load sheet) sheet.keptRows).result = .error e
  | [] => by simp [loadSheets]
  | sheet :: sheets => by
    have ih := @loadSheets_eq_error_iff α l load e sheets
    rw [loadSheets]
    dsimp only
    cases hfirst : (l.policy.collect (load sheet) sheet.keptRows).result with
    | error e' =>
      constructor
      · intro h
        obtain rfl := Except.error.inj h
        exact ⟨[], sheet, sheets, rfl, by simp, hfirst⟩
      · rintro ⟨_ | ⟨first, earlier⟩, stopped, later, hsheets, hearlier, hstopped⟩
        · obtain ⟨rfl, -⟩ := List.cons.inj hsheets
          rw [Except.error.inj (hfirst.symm.trans hstopped)]
        · obtain ⟨rfl, -⟩ := List.cons.inj hsheets
          obtain ⟨items, hitems⟩ := hearlier sheet List.mem_cons_self
          cases hfirst.symm.trans hitems
    | ok items =>
      rw [map_eq_error_iff, ih]
      constructor
      · rintro ⟨earlier, stopped, later, rfl, hearlier, hstopped⟩
        exact ⟨sheet :: earlier, stopped, later, rfl,
          List.forall_mem_cons.mpr ⟨⟨items, hfirst⟩, hearlier⟩, hstopped⟩
      · rintro ⟨_ | ⟨first, earlier⟩, stopped, later, hsheets, hearlier, hstopped⟩
        · obtain ⟨rfl, -⟩ := List.cons.inj hsheets
          cases hfirst.symm.trans hstopped
        · obtain ⟨-, rfl⟩ := List.cons.inj hsheets
          exact ⟨earlier, stopped, later, rfl, (List.forall_mem_cons.mp hearlier).2, hstopped⟩

/-- In a list in ascending order, what is smaller than an item comes before it. -/
theorem mem_before_of_lt {rows before after : List (Nat × Row)} {row row' : Nat × Row}
    (hordered : rows.Pairwise (·.1 < ·.1)) (hrows : rows = before ++ row :: after)
    (hmem : row' ∈ rows) (hlt : row'.1 < row.1) : row' ∈ before := by
  subst hrows
  have hlater := (List.pairwise_cons.mp (List.pairwise_append.mp hordered).2.1).1
  rcases List.mem_append.mp hmem with hmem | hmem
  · exact hmem
  rcases List.mem_cons.mp hmem with rfl | hmem
  · exact absurd hlt (Nat.lt_irrefl _)
  · exact absurd hlt (Nat.lt_asymm (hlater row' hmem))

variable {schema : TableSchema} {source : String} {w : Workbook}

/-- The cells before the one where a load stops coerce. -/
theorem firstFaultIn_of_error {e : LoadError}
    (h : ((mk schema source .abort).loadWorkbook w).result = .error e) :
    ∃ p sheet row c fault, schema.FirstFaultIn w p sheet row c fault ∧
      e = ⟨source, .cell ⟨sheet.name, ⟨p.row, p.column⟩, c.name⟩ fault⟩ := by
  obtain ⟨earlier, sheet, later, hsheets, hearlier, hsheet⟩ := loadSheets_eq_error_iff.mp h
  obtain ⟨-, before, ⟨i, row⟩, after, hrows, hbefore, hrow⟩ :=
    (Policy.collect_eq_error_iff _).mp hsheet
  obtain ⟨j, c, fault, hfault, rfl⟩ := loadRow_eq_error_iff.mp hrow
  have hmem : (i, row) ∈ sheet.keptRows := by simp [hrows]
  have hkept : sheet.Keeps i row := (sheet.keptRows_keeps.mem_iff i row).mp hmem
  refine ⟨⟨earlier.length, i, j⟩, sheet, row, c, fault,
    ⟨⟨by simp [hsheets], hkept, hfault.column⟩, hfault.coerce, ?_⟩, rfl⟩
  rintro ⟨k', i', j'⟩ sheet' row' c' hlt ⟨hsheet', hkept', hc'⟩
  have hmem' := (sheet'.keptRows_keeps.mem_iff i' row').mpr hkept'
  dsimp only [CellIndex.Before] at hlt hsheet' hc' ⊢
  rcases hlt with hlt | ⟨rfl, hlt | ⟨rfl, hlt⟩⟩
  · -- an earlier sheet has been loaded
    rw [hsheets, List.getElem?_append_left hlt] at hsheet'
    obtain ⟨items, hitems⟩ := hearlier sheet' (List.mem_of_getElem? hsheet')
    have hcoerces := ((loadSheet_abort_eq_ok_iff sheet' schema source).mp hitems).2 _ hmem'
    exact TableSchema.coerces_eq_true_iff.mp hcoerces j' c' hc'
  · -- an earlier row of the same sheet has been loaded
    obtain rfl : sheet = sheet' := by simpa [hsheets] using hsheet'
    have hload := hbefore _ (mem_before_of_lt sheet.keptRows_keeps.ordered hrows hmem' hlt)
    exact TableSchema.coerces_eq_true_iff.mp (coerces_iff_loadRow.mpr hload) j' c' hc'
  · -- an earlier column of the same row has coerced
    obtain rfl : sheet = sheet' := by simpa [hsheets] using hsheet'
    obtain rfl := Option.some.inj (hkept.slot.symm.trans hkept'.slot)
    exact hfault.before j' hlt c' hc'

/-- A load stops if there is a fault, at the first one: the error names the sheet, the row and the
column of the first cell that does not coerce, and says what is wrong with it. -/
theorem stops_at_first_fault {e : LoadError} :
    ((mk schema source .abort).loadWorkbook w).result = .error e ↔
      ∃ p sheet row c fault, schema.FirstFaultIn w p sheet row c fault ∧
        e = ⟨source, .cell ⟨sheet.name, ⟨p.row, p.column⟩, c.name⟩ fault⟩ ∧
        2 ≤ p.row ∧ p.row < sheet.rows.length ∧ p.column < schema.columns.length ∧
        (Cell.IsSpelling c.type row[p.column]? → e.code = "TBLC_LOAD_ENUM_DOMAIN") ∧
        (¬Cell.IsSpelling c.type row[p.column]? → e.code = "TBLC_LOAD_COERCION") := by
  constructor
  · intro h
    obtain ⟨p, sheet, row, c, fault, hfault, rfl⟩ := firstFaultIn_of_error h
    exact ⟨p, sheet, row, c, fault, hfault, rfl, hfault.kept.below, hfault.kept.lt_length,
      (List.getElem?_eq_some_iff.mp hfault.inSchema).1,
      LoadError.code_of_coerce hfault.coerce source _⟩
  · rintro ⟨p, sheet, row, c, fault, hfault, rfl, -⟩
    cases h : ((mk schema source .abort).loadWorkbook w).result with
    | ok items =>
      obtain ⟨list, hlist⟩ := ((loadWorkbook_abort_eq_ok_iff schema source).mp h).2 sheet
        (List.mem_of_getElem? hfault.inWorkbook)
      have hmem := (sheet.keptRows_keeps.mem_iff p.row row).mpr hfault.kept
      have hcoerces := ((loadSheet_abort_eq_ok_iff sheet schema source).mp hlist).2 _ hmem
      obtain ⟨value, hvalue⟩ :=
        TableSchema.coerces_eq_true_iff.mp hcoerces p.column c hfault.inSchema
      cases hvalue.symm.trans hfault.coerce
    | error e =>
      obtain ⟨q, sheet', row', c', fault', hfault', rfl⟩ := firstFaultIn_of_error h
      obtain ⟨rfl, rfl, rfl, rfl, rfl⟩ := hfault.unique hfault'
      rfl

/-- A schema with a truth value and an enumeration. -/
def colorSchema : TableSchema :=
  ⟨"Entity_Paints", [⟨"sold", .bool⟩, ⟨"color", .enum ["red", "green"]⟩]⟩

/-- Two sheets of which the second has a color that is not declared, below a comment that would not
load. -/
def paints : Workbook := ⟨[
  ⟨"Old", [some [], some [], some [.boolean true, .string "Red"], none, some [.string "no"]]⟩,
  ⟨"New", [some [], some [], some [.string "#", .boolean false],
    some [.boolean true, .string "purple"], some [.string "no"]]⟩]⟩

/-- The error of the color that is not declared. -/
def purpleError : LoadError :=
  ⟨"Paints.json", .cell ⟨"New", ⟨3, 1⟩, "color"⟩ (.domain "purple" ["red", "green"])⟩

/-- The load stops at the color, which is the first fault. -/
theorem stops_at_purple :
    ((mk colorSchema "Paints.json" .abort).loadWorkbook paints).result = .error purpleError ∧
    purpleError.code = "TBLC_LOAD_ENUM_DOMAIN" ∧ ∃ p sheet row c fault,
      colorSchema.FirstFaultIn paints p sheet row c fault ∧ sheet.name = "New" ∧ p.row = 3 ∧
        p.column = 1 := by
  have hload : ((mk colorSchema "Paints.json" .abort).loadWorkbook paints).result =
      .error purpleError := by
    decide +kernel
  obtain ⟨p, sheet, row, c, fault, hfault, he, -⟩ := stops_at_first_fault.mp hload
  simp only [purpleError, LoadError.mk.injEq, LoadFault.cell.injEq, CellPosition.mk.injEq,
    Location.mk.injEq] at he
  obtain ⟨-, ⟨hsheet, ⟨hrow, hcolumn⟩, -⟩, -⟩ := he
  exact ⟨hload, rfl, p, sheet, row, c, fault, hfault, hsheet.symm, hrow.symm, hcolumn.symm⟩

end Loader

end TypedSheets
