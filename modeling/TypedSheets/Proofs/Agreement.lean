import TypedSheets.Proofs.Results
import TypedSheets.Schema.Sheet

/-!
# Reading a sheet under an agreement

A sheet is read under an agreement, of which it may fix the names or the types even if it is
rejected afterwards. `Agreement.Reads` lists all that reading a sheet can do, and
`Sheet.schema_eq_columns_iff` says what a sheet declares that is read on its own. From both follows
how the two are related: an empty sheet is accepted everywhere (`Agreement.readSheet_of_empty`), a
sheet that is rejected on its own is rejected everywhere (`Agreement.readSheet_of_error`), and under
an agreement that is complete a sheet has to declare the same columns
(`Agreement.ofColumns_readSheet`).
-/

namespace TypedSheets

/-- The names in the header of a sheet; none if it has no header. -/
def Sheet.headerNames (sheet : Sheet) : Except SheetFault (List String) :=
  match sheet.row? 0 with
  | none => .ok []
  | some header => TypedSheets.headerNames header

/-- The column of the first name has the type in its cell, and the others come after it. -/
theorem typeColumnsFrom_cons_eq_ok {types : Row} {i : Nat} {name : String} {rest : List String}
    {cols : List Column} (h : typeColumnsFrom types i (name :: rest) = .ok cols) :
    ∃ type others, typeOfCell ⟨1, i⟩ types[i]? = .ok type ∧
      typeColumnsFrom types (i + 1) rest = .ok others ∧ cols = ⟨name, type⟩ :: others := by
  rw [typeColumnsFrom] at h
  cases htype : typeOfCell ⟨1, i⟩ types[i]? with
  | error e => simp [htype] at h
  | ok type =>
    rw [htype] at h
    obtain ⟨others, hothers, rfl⟩ := map_eq_ok_iff.mp h
    exact ⟨type, others, rfl, hothers, rfl⟩

theorem names_of_typeColumnsFrom (types : Row) :
    ∀ (i : Nat) (names : List String) {cols : List Column},
      typeColumnsFrom types i names = .ok cols → cols.map (·.name) = names
  | i, [], cols, h => by
    obtain rfl : [] = cols := by simpa [typeColumnsFrom] using h
    rfl
  | i, name :: rest, cols, h => by
    obtain ⟨type, others, -, hothers, rfl⟩ := typeColumnsFrom_cons_eq_ok h
    rw [List.map_cons, names_of_typeColumnsFrom types (i + 1) rest hothers]

/-- A type row yields a column for every name, in order. -/
theorem names_of_typeColumns {types : Option Row} {names : List String} {cols : List Column}
    (h : typeColumns types names = .ok cols) : cols.map (·.name) = names := by
  cases types with
  | none => simp [typeColumns] at h
  | some row => exact names_of_typeColumnsFrom row 0 names h

namespace Agreement

/-- The agreement of sheets that declare the given columns. -/
def ofColumns (cols : List Column) : Agreement :=
  ⟨some (cols.map (·.name)), some (cols.map (·.type))⟩

/-- What is fixed, if anything, are the given names. -/
def AdmitsNames (a : Agreement) (names : List String) : Prop :=
  ∀ expected, a.names = some expected → expected = names

/-- What is fixed, if anything, are the given types. -/
def AdmitsTypes (a : Agreement) (types : List ColumnType) : Prop :=
  ∀ expected, a.types = some expected → expected = types

/-- All that reading a sheet under the agreement `a` can do: the agreement afterwards, and the
verdict. -/
inductive Reads (a : Agreement) (sheet : Sheet) :
    Agreement → Except SheetFault SheetSchema → Prop
  | empty (header : sheet.headerNames = .ok []) : Reads a sheet a (.ok .empty)
  | badHeader {e : SheetFault} (header : sheet.headerNames = .error e) : Reads a sheet a (.error e)
  | otherNames {names expected : List String} (header : sheet.headerNames = .ok names)
      (nonempty : names ≠ []) (fixed : a.names = some expected) (differ : expected ≠ names) :
      Reads a sheet a (.error ⟨.headerMismatch expected names, none⟩)
  | badTypes {names : List String} {e : SheetFault} (header : sheet.headerNames = .ok names)
      (nonempty : names ≠ []) (admits : a.AdmitsNames names)
      (types : typeColumns (sheet.row? 1) names = .error e) :
      Reads a sheet { a with names := some names } (.error e)
  | otherTypes {cols : List Column} {expected : List ColumnType}
      (header : sheet.headerNames = .ok (cols.map (·.name))) (nonempty : cols ≠ [])
      (admits : a.AdmitsNames (cols.map (·.name)))
      (types : typeColumns (sheet.row? 1) (cols.map (·.name)) = .ok cols)
      (fixed : a.types = some expected) (differ : expected ≠ cols.map (·.type)) :
      Reads a sheet { a with names := some (cols.map (·.name)) }
        (.error ⟨.typeMismatch expected (cols.map (·.type)), none⟩)
  | columns {cols : List Column} (header : sheet.headerNames = .ok (cols.map (·.name)))
      (nonempty : cols ≠ []) (admitsNames : a.AdmitsNames (cols.map (·.name)))
      (types : typeColumns (sheet.row? 1) (cols.map (·.name)) = .ok cols)
      (admitsTypes : a.AdmitsTypes (cols.map (·.type))) :
      Reads a sheet (ofColumns cols) (.ok (.columns cols))

theorem fixNames_eq_ok {a a' : Agreement} {names : List String} (h : a.fixNames names = .ok a') :
    a.AdmitsNames names ∧ a' = { a with names := some names } := by
  unfold fixNames at h
  split at h
  · next hn =>
    obtain rfl := Except.ok.inj h
    exact ⟨fun expected he => by simp [hn] at he, rfl⟩
  · next expected hn =>
    split at h
    · next he =>
      obtain rfl := Except.ok.inj h
      subst he
      exact ⟨fun other ho => by simpa [hn, eq_comm] using ho, by rw [← hn]⟩
    · cases h

theorem fixNames_eq_error {a : Agreement} {names : List String} {e : SheetFault}
    (h : a.fixNames names = .error e) :
    ∃ expected, a.names = some expected ∧ expected ≠ names ∧
      e = ⟨.headerMismatch expected names, none⟩ := by
  unfold fixNames at h
  split at h
  · cases h
  · next expected hn =>
    split at h
    · cases h
    · next he => exact ⟨expected, hn, he, (Except.error.inj h).symm⟩

theorem fixTypes_eq_ok {a a' : Agreement} {types : List ColumnType}
    (h : a.fixTypes types = .ok a') :
    a.AdmitsTypes types ∧ a' = { a with types := some types } := by
  unfold fixTypes at h
  split at h
  · next hn =>
    obtain rfl := Except.ok.inj h
    exact ⟨fun expected he => by simp [hn] at he, rfl⟩
  · next expected hn =>
    split at h
    · next he =>
      obtain rfl := Except.ok.inj h
      subst he
      exact ⟨fun other ho => by simpa [hn, eq_comm] using ho, by rw [← hn]⟩
    · cases h

theorem fixTypes_eq_error {a : Agreement} {types : List ColumnType} {e : SheetFault}
    (h : a.fixTypes types = .error e) :
    ∃ expected, a.types = some expected ∧ expected ≠ types ∧
      e = ⟨.typeMismatch expected types, none⟩ := by
  unfold fixTypes at h
  split at h
  · cases h
  · next expected hn =>
    split at h
    · cases h
    · next he => exact ⟨expected, hn, he, (Except.error.inj h).symm⟩

/-- Reading below a header that gives names. -/
theorem readTypes_reads {a : Agreement} {sheet : Sheet} {names : List String}
    (header : sheet.headerNames = .ok names) (nonempty : names ≠ [])
    (admits : a.AdmitsNames names) {b : Agreement} (hb : b = { a with names := some names }) :
    a.Reads sheet (b.readTypes (sheet.row? 1) names).1
      ((b.readTypes (sheet.row? 1) names).2.map .columns) := by
  unfold readTypes
  cases htypes : typeColumns (sheet.row? 1) names with
  | error e =>
    subst hb
    exact .badTypes header nonempty admits htypes
  | ok cols =>
    obtain rfl := names_of_typeColumns htypes
    have hcols : cols ≠ [] := by simpa using nonempty
    dsimp only
    cases hfix : b.fixTypes (cols.map (·.type)) with
    | error e =>
      obtain ⟨expected, hfixed, hne, rfl⟩ := fixTypes_eq_error hfix
      subst hb
      exact .otherTypes header hcols admits htypes hfixed hne
    | ok c =>
      obtain ⟨hadmits, rfl⟩ := fixTypes_eq_ok hfix
      subst hb
      exact .columns header hcols admits htypes hadmits

theorem readSheet_reads (a : Agreement) (sheet : Sheet) :
    a.Reads sheet (a.readSheet sheet).1 (a.readSheet sheet).2 := by
  unfold readSheet
  cases hrow : sheet.row? 0 with
  | none => exact .empty (by simp [Sheet.headerNames, hrow])
  | some row =>
    have hheader : sheet.headerNames = headerNames row := by simp [Sheet.headerNames, hrow]
    dsimp only [readHeader]
    cases hnames : headerNames row with
    | error e => exact .badHeader (hheader.trans hnames)
    | ok names =>
      cases names with
      | nil => exact .empty (hheader.trans hnames)
      | cons name rest =>
        dsimp only
        cases hfix : a.fixNames (name :: rest) with
        | error e =>
          obtain ⟨expected, hfixed, hne, rfl⟩ := fixNames_eq_error hfix
          exact .otherNames (hheader.trans hnames) (by simp) hfixed hne
        | ok b =>
          obtain ⟨hadmits, hb⟩ := fixNames_eq_ok hfix
          have h := readTypes_reads (hheader.trans hnames) (by simp) hadmits hb
          dsimp only
          cases htypes : b.readTypes (sheet.row? 1) (name :: rest) with
          | mk c result => cases result <;> simpa [htypes, Except.map] using h

variable {a b : Agreement} {sheet : Sheet} {result : Except SheetFault SheetSchema}

namespace Reads

/-- A sheet without a header is accepted, and changes nothing. -/
theorem of_empty (h : a.Reads sheet b result) (header : sheet.headerNames = .ok []) :
    b = a ∧ result = .ok .empty := by
  have hnil : ∀ {names : List String}, sheet.headerNames = .ok names → names = [] :=
    fun h => Except.ok.inj (h.symm.trans header)
  cases h with
  | empty => exact ⟨rfl, rfl⟩
  | badHeader h => cases h.symm.trans header
  | otherNames h nonempty => exact absurd (hnil h) nonempty
  | badTypes h nonempty => exact absurd (hnil h) nonempty
  | otherTypes h nonempty => exact absurd (List.map_eq_nil_iff.mp (hnil h)) nonempty
  | columns h nonempty => exact absurd (List.map_eq_nil_iff.mp (hnil h)) nonempty

/-- A sheet with a header and types for it is accepted if the agreement admits its columns, which
the agreement then holds, and rejected if not. -/
theorem of_columns {cols : List Column} (h : a.Reads sheet b result)
    (header : sheet.headerNames = .ok (cols.map (·.name))) (nonempty : cols ≠ [])
    (types : typeColumns (sheet.row? 1) (cols.map (·.name)) = .ok cols) :
    (a.AdmitsNames (cols.map (·.name)) ∧ a.AdmitsTypes (cols.map (·.type)) ∧
        b = ofColumns cols ∧ result = .ok (.columns cols)) ∨
      (¬(a.AdmitsNames (cols.map (·.name)) ∧ a.AdmitsTypes (cols.map (·.type))) ∧
        ∃ e, result = .error e) := by
  have hnames : ∀ {names : List String}, sheet.headerNames = .ok names →
      cols.map (·.name) = names :=
    fun h => Except.ok.inj (header.symm.trans h)
  have hcols : ∀ {others : List Column}, sheet.headerNames = .ok (others.map (·.name)) →
      typeColumns (sheet.row? 1) (others.map (·.name)) = .ok others → cols = others :=
    fun h h' => Except.ok.inj (types.symm.trans (hnames h ▸ h'))
  cases h with
  | empty h => exact absurd (List.map_eq_nil_iff.mp (hnames h)) nonempty
  | badHeader h => cases h.symm.trans header
  | otherNames h _ fixed differ =>
    obtain rfl := hnames h
    exact .inr ⟨fun hadmits => differ (hadmits.1 _ fixed), _, rfl⟩
  | badTypes h _ _ h' =>
    obtain rfl := hnames h
    cases h'.symm.trans types
  | otherTypes h _ _ h' fixed differ =>
    obtain rfl := hcols h h'
    exact .inr ⟨fun hadmits => differ (hadmits.2 _ fixed), _, rfl⟩
  | columns h _ admitsNames h' admitsTypes =>
    obtain rfl := hcols h h'
    exact .inl ⟨admitsNames, admitsTypes, rfl, rfl⟩

end Reads

theorem fresh_admits (cols : List Column) :
    fresh.AdmitsNames (cols.map (·.name)) ∧ fresh.AdmitsTypes (cols.map (·.type)) :=
  ⟨fun _ h => (nomatch h), fun _ h => (nomatch h)⟩

theorem eq_of_map_name_type : ∀ (cols others : List Column),
    cols.map (·.name) = others.map (·.name) → cols.map (·.type) = others.map (·.type) →
      cols = others
  | [], [], _, _ => rfl
  | [], _ :: _, h, _ => nomatch h
  | _ :: _, [], h, _ => nomatch h
  | c :: cols, d :: others, hn, ht => by
    obtain ⟨hname, hn⟩ := List.cons.inj hn
    obtain ⟨htype, ht⟩ := List.cons.inj ht
    rw [eq_of_map_name_type cols others hn ht, show c = d by cases c; cases d; simp_all]

/-- Columns that are fixed admit no others. -/
theorem ofColumns_admits_iff {cols others : List Column} :
    ((ofColumns cols).AdmitsNames (others.map (·.name)) ∧
      (ofColumns cols).AdmitsTypes (others.map (·.type))) ↔ cols = others := by
  constructor
  · rintro ⟨hn, ht⟩
    exact eq_of_map_name_type _ _ (hn _ rfl) (ht _ rfl)
  · rintro rfl
    exact ⟨fun _ h => (Option.some.inj h).symm, fun _ h => (Option.some.inj h).symm⟩

end Agreement

namespace Sheet

theorem reads_schema (sheet : Sheet) :
    ∃ b, Agreement.fresh.Reads sheet b sheet.schema :=
  ⟨_, Agreement.fresh.readSheet_reads sheet⟩

theorem schema_eq_empty_iff {sheet : Sheet} :
    sheet.schema = .ok .empty ↔ sheet.headerNames = .ok [] := by
  obtain ⟨b, hreads⟩ := sheet.reads_schema
  constructor
  · intro h
    rw [h] at hreads
    cases hreads with
    | empty header => exact header
  · exact fun header => (hreads.of_empty header).2

theorem schema_eq_columns_iff {sheet : Sheet} {cols : List Column} :
    sheet.schema = .ok (.columns cols) ↔
      sheet.headerNames = .ok (cols.map (·.name)) ∧ cols ≠ [] ∧
        typeColumns (sheet.row? 1) (cols.map (·.name)) = .ok cols := by
  obtain ⟨b, hreads⟩ := sheet.reads_schema
  constructor
  · intro h
    rw [h] at hreads
    cases hreads with
    | columns header nonempty _ types _ => exact ⟨header, nonempty, types⟩
  · rintro ⟨header, nonempty, types⟩
    rcases hreads.of_columns header nonempty types with ⟨-, -, -, h⟩ | ⟨hadmits, -⟩
    · exact h
    · exact absurd (Agreement.fresh_admits cols) hadmits

end Sheet

namespace Agreement

variable {sheet : Sheet} {cols : List Column}

theorem readSheet_of_empty (h : sheet.schema = .ok .empty) (a : Agreement) :
    a.readSheet sheet = (a, .ok .empty) := by
  obtain ⟨hb, hresult⟩ := (a.readSheet_reads sheet).of_empty (Sheet.schema_eq_empty_iff.mp h)
  exact Prod.ext hb hresult

/-- The first sheet to declare columns fixes them. -/
theorem fresh_readSheet_of_columns (h : sheet.schema = .ok (.columns cols)) :
    fresh.readSheet sheet = (ofColumns cols, .ok (.columns cols)) := by
  obtain ⟨header, nonempty, types⟩ := Sheet.schema_eq_columns_iff.mp h
  rcases (fresh.readSheet_reads sheet).of_columns header nonempty types with
    ⟨-, -, hb, hresult⟩ | ⟨hadmits, -⟩
  · exact Prod.ext hb hresult
  · exact absurd (fresh_admits cols) hadmits

theorem readSheet_of_error {e : SheetFault} (h : sheet.schema = .error e) (a : Agreement) :
    ∃ e', (a.readSheet sheet).2 = .error e' := by
  have hreads := a.readSheet_reads sheet
  generalize (a.readSheet sheet).1 = b at hreads
  cases hresult : (a.readSheet sheet).2 with
  | error e' => exact ⟨e', rfl⟩
  | ok declared =>
    rw [hresult] at hreads
    cases hreads with
    | empty header => cases h.symm.trans (Sheet.schema_eq_empty_iff.mpr header)
    | columns header nonempty _ types _ =>
      cases h.symm.trans (Sheet.schema_eq_columns_iff.mpr ⟨header, nonempty, types⟩)

/-- Once columns are fixed, a sheet is accepted if it is empty or declares just them, and nothing is
changed by it. -/
theorem ofColumns_readSheet (cols : List Column) (sheet : Sheet) :
    ((sheet.schema = .ok .empty ∨ sheet.schema = .ok (.columns cols)) ∧
        ((ofColumns cols).readSheet sheet).1 = ofColumns cols ∧
        ∃ declared, ((ofColumns cols).readSheet sheet).2 = .ok declared) ∨
      (¬(sheet.schema = .ok .empty ∨ sheet.schema = .ok (.columns cols)) ∧
        ∃ e, ((ofColumns cols).readSheet sheet).2 = .error e) := by
  cases h : sheet.schema with
  | error e => exact .inr ⟨by simp, readSheet_of_error h _⟩
  | ok declared =>
    cases declared with
    | empty =>
      rw [readSheet_of_empty h]
      exact .inl ⟨.inl rfl, rfl, _, rfl⟩
    | columns others =>
      obtain ⟨header, nonempty, types⟩ := Sheet.schema_eq_columns_iff.mp h
      rcases ((ofColumns cols).readSheet_reads sheet).of_columns header nonempty types with
        ⟨hn, ht, hb, hresult⟩ | ⟨hadmits, herror⟩
      · obtain rfl := ofColumns_admits_iff.mp ⟨hn, ht⟩
        exact .inl ⟨.inr rfl, hb, _, hresult⟩
      · rw [ofColumns_admits_iff] at hadmits
        exact .inr ⟨by simpa [eq_comm] using hadmits, herror⟩

theorem schema?_ofColumns (cols : List Column) (entity : String) :
    (ofColumns cols).schema? entity = some ⟨entity, cols⟩ := by
  have hzip : List.zipWith Column.mk (cols.map (·.name)) (cols.map (·.type)) = cols := by
    induction cols with
    | nil => rfl
    | cons c cols ih => rw [List.map_cons, List.map_cons, List.zipWith_cons_cons, ih]
  simp [schema?, ofColumns, hzip]

end Agreement

end TypedSheets
