import TypedSheets.Proofs.ChangeDetection
import TypedSheets.Proofs.SchemaRows

/-!
# What a sheet is read as

What is wrong with a cell of the header (`HeaderFault`) or of the type row (`TypeFault`) is said
here cell by cell, and what a sheet is read as on its own by the first faults of the two rows
(`Sheet.ReadsAs`): a fault in the header comes before one in the type row, and of the faults in a
row the leftmost is reported, with its place. The two rows are read as their cells say
(`Sheet.headerNames_eq_error_iff`, `typeColumns_eq_error_iff`, `typeColumns_eq_ok_iff`).

Main statement: `Sheet.schema_eq_iff_readsAs`.
-/

namespace TypedSheets

/-- The first position at which there is a fault, and the fault there. -/
structure FirstAt {F : Type} (Fault : Nat → F → Prop) (i : Nat) (fault : F) : Prop where
  here : Fault i fault
  before : ∀ j < i, ∀ other, ¬Fault j other

theorem FirstAt.unique {F : Type} {Fault : Nat → F → Prop} {i j : Nat} {fault other : F}
    (h : FirstAt Fault i fault) (h' : FirstAt Fault j other)
    (hunique : ∀ k f g, Fault k f → Fault k g → f = g) : i = j ∧ fault = other := by
  obtain rfl : i = j := by
    rcases Nat.lt_trichotomy i j with hlt | heq | hlt
    · exact absurd h.here (h'.before i hlt fault)
    · exact heq
    · exact absurd h'.here (h.before j hlt other)
  exact ⟨rfl, hunique i fault other h.here h'.here⟩

/-! ## Cells of the header -/

/-- What is wrong with the `i`-th cell of a header: it holds no string, or one with the name of an
earlier cell. -/
inductive HeaderFault (header : Row) (i : Nat) : SheetFaultCause → Prop
  | notString {cell : Cell} (here : header[i]? = some cell)
      (noString : ∀ text, cell ≠ .string text) :
    HeaderFault header i (.unknownHeaderCell cell.kind)
  | repeated {text other : String} {j : Nat} (here : header[i]? = some (.string text))
      (earlier : j < i)
      (there : header[j]? = some (.string other)) (sameName : columnName other = columnName text) :
    HeaderFault header i (.duplicateField (columnName text))

theorem HeaderFault.unique {header : Row} {i : Nat} {cause other : SheetFaultCause}
    (h : HeaderFault header i cause) (h' : HeaderFault header i other) : cause = other := by
  cases h with
  | notString here noString =>
    cases h' with
    | notString here' => rw [Option.some.inj (here.symm.trans here')]
    | repeated here' => exact absurd (Option.some.inj (here.symm.trans here')) (noString _)
  | repeated here =>
    cases h' with
    | notString here' noString =>
      exact absurd (Option.some.inj (here'.symm.trans here)) (noString _)
    | repeated here' =>
      obtain rfl := Cell.string.inj (Option.some.inj (here.symm.trans here'))
      rfl

/-- One of the cells gives the name. -/
def GivesName (cells : Row) (name : String) : Prop :=
  ∃ text, Cell.string text ∈ cells ∧ columnName text = name

theorem givesName_concat {cells : Row} {text name : String} :
    GivesName (cells ++ [.string text]) name ↔
      name = columnName text ∨ GivesName cells name := by
  simp only [GivesName, List.mem_append, List.mem_singleton, Cell.string.injEq, or_and_right,
    exists_or, exists_eq_left]
  rw [or_comm, eq_comm]

section

variable {before rest : Row} {text : String} {cause : SheetFaultCause}

theorem HeaderFault.lt_length {i : Nat} (h : HeaderFault before i cause) : i < before.length := by
  cases h with
  | notString here => exact (List.getElem?_eq_some_iff.mp here).1
  | repeated here => exact (List.getElem?_eq_some_iff.mp here).1

/-- A string is at fault if an earlier cell gives its name. -/
theorem headerFault_string_iff :
    HeaderFault (before ++ .string text :: rest) before.length cause ↔
    GivesName before (columnName text) ∧ cause = .duplicateField (columnName text) := by
  have hhere : (before ++ Cell.string text :: rest)[before.length]? = some (.string text) := by simp
  constructor
  · intro h
    cases h with
    | notString here noString =>
      exact absurd (Option.some.inj (hhere.symm.trans here)).symm (noString text)
    | repeated here earlier there sameName =>
      obtain rfl := Cell.string.inj (Option.some.inj (here.symm.trans hhere))
      rw [List.getElem?_append_left earlier] at there
      exact ⟨⟨_, List.mem_of_getElem? there, sameName⟩, rfl⟩
  · rintro ⟨⟨other, hother, hname⟩, rfl⟩
    obtain ⟨j, hj, hthere⟩ := List.mem_iff_getElem.mp hother
    exact .repeated hhere hj
      (by rw [List.getElem?_append_left hj, List.getElem?_eq_getElem hj, hthere]) hname

end

/-- Reading on from the cells `before`, of which none is at fault and which give the names `seen`:
the names are accepted if no cell is at fault, and the first that is stops it. -/
theorem headerNamesFrom_scan : ∀ {rest before : Row} {seen : List String}, .blank ∉ rest →
    (∀ name, name ∈ seen ↔ GivesName before name) →
      (∀ i < before.length, ∀ cause, ¬HeaderFault (before ++ rest) i cause) →
        (∃ names, headerNamesFrom before.length seen rest = .ok names ∧
            ∀ i cause, ¬HeaderFault (before ++ rest) i cause) ∨
          ∃ i cause, headerNamesFrom before.length seen rest =
            .error ⟨cause, some ⟨0, i⟩⟩ ∧
            FirstAt (HeaderFault (before ++ rest)) i cause
  | [], before, seen, _, _, hsound => by
    refine .inl ⟨[], rfl, fun i cause hfault => hsound i ?_ cause hfault⟩
    simpa using hfault.lt_length
  | cell :: rest, before, seen, hblank, hseen, hsound => by
    obtain ⟨hcell, hrest⟩ := not_or.mp (mt List.mem_cons.mpr hblank)
    cases cell with
    | blank => exact absurd rfl hcell
    | string text =>
      rw [headerNamesFrom]
      by_cases hmem : columnName text ∈ seen
      · have hfault : HeaderFault (before ++ .string text :: rest) before.length _ :=
          headerFault_string_iff.mpr ⟨(hseen _).mp hmem, rfl⟩
        exact .inr ⟨before.length, _, by simp [hmem], hfault, hsound⟩
      · -- the cell is not at fault, and one of those before
        have hsound' : ∀ i < (before ++ [Cell.string text]).length, ∀ cause,
            ¬HeaderFault ((before ++ [.string text]) ++ rest) i cause := by
          rw [List.append_assoc, List.singleton_append, List.length_append, List.length_singleton]
          intro i hi cause hfault
          rcases Nat.lt_succ_iff_lt_or_eq.mp hi with hlt | rfl
          · exact hsound i hlt cause hfault
          · exact hmem ((hseen _).mpr (headerFault_string_iff.mp hfault).1)
        have hseen' : ∀ name, name ∈ columnName text :: seen ↔
            GivesName (before ++ [.string text]) name :=
          fun name => by rw [List.mem_cons, givesName_concat, hseen]
        have ih := headerNamesFrom_scan hrest hseen' hsound'
        rw [List.append_assoc, List.singleton_append, List.length_append, List.length_singleton]
          at ih
        rw [if_neg hmem]
        rcases ih with ⟨names, hnames, hall⟩ | ⟨i, cause, herror, hfirst⟩
        · exact .inl ⟨columnName text :: names, by rw [hnames]; rfl, hall⟩
        · exact .inr ⟨i, cause, by rw [herror]; rfl, hfirst⟩
    | _ => exact .inr ⟨before.length, _, rfl, .notString (by simp) (by simp), hsound⟩

namespace Sheet

variable {sheet : Sheet}

/-- The cells of the header of a sheet; none if it has no first row. -/
def header (sheet : Sheet) : Row :=
  headerCells ((sheet.row? 0).getD [])

/-- The sheet has no first row, or nothing stands in the first cell of it. -/
def HasNoHeader (sheet : Sheet) : Prop :=
  ∀ row cell, sheet.row? 0 = some row → row[0]? = some cell → cell = .blank

theorem header_eq_nil_iff : sheet.header = [] ↔ sheet.HasNoHeader := by
  unfold header HasNoHeader headerCells
  rcases sheet.row? 0 with _ | _ | ⟨cell, rest⟩
  · simp
  · exact iff_of_true rfl fun row cell hrow hcell => by simp [← Option.some.inj hrow] at hcell
  · have hfirst : (∀ (row : Row) (first : Cell), some (cell :: rest) = some row →
        row[0]? = some first →
        first = .blank) ↔ cell = .blank :=
      ⟨fun h => h _ cell rfl rfl, fun h row first hrow hfirst => by
        obtain rfl := Option.some.inj hrow
        exact (Option.some.inj hfirst).symm.trans h⟩
    rw [hfirst]
    by_cases hcell : cell = .blank <;> simp [hcell]

theorem headerNames_eq_header : sheet.headerNames = TypedSheets.headerNames sheet.header := by
  unfold headerNames header
  rcases sheet.row? 0 with _ | row
  · rfl
  · exact (headerNamesFrom_headerCells row 0 []).symm

theorem headerNames_scan (sheet : Sheet) :
    (∃ names, sheet.headerNames = .ok names ∧ ∀ i cause,
      ¬HeaderFault sheet.header i cause) ∨
      ∃ i cause, sheet.headerNames = .error ⟨cause, some ⟨0, i⟩⟩ ∧
        FirstAt (HeaderFault sheet.header) i cause := by
  have hblank : .blank ∉ sheet.header := fun h => by simpa using List.mem_takeWhile_imp h
  rw [headerNames_eq_header]
  exact @headerNamesFrom_scan sheet.header [] [] hblank (by simp [GivesName]) (by simp)

theorem headerNames_eq_error_iff {fault : SheetFault} : sheet.headerNames = .error fault ↔
    ∃ i cause, FirstAt (HeaderFault sheet.header) i cause ∧
      fault = ⟨cause, some ⟨0, i⟩⟩ := by
  rcases sheet.headerNames_scan with ⟨names, hnames, hsound⟩ | ⟨i, cause, herror, hfirst⟩
  · rw [hnames]
    refine iff_of_false (by simp) ?_
    rintro ⟨i, cause, hfirst, -⟩
    exact hsound i cause hfirst.here
  · rw [herror]
    constructor
    · intro h
      exact ⟨i, cause, hfirst, (Except.error.inj h).symm⟩
    · rintro ⟨j, other, hother, rfl⟩
      obtain ⟨rfl, rfl⟩ := hfirst.unique hother fun _ _ _ => HeaderFault.unique
      rfl

/-- No cell of the header is at fault. -/
def HasSoundHeader (sheet : Sheet) : Prop :=
  ∀ i cause, ¬HeaderFault sheet.header i cause

theorem texts_inj {texts others : List String} (h : texts.map Cell.string = others.map .string) :
    texts = others :=
  List.map_injective_iff.mpr (fun _ _ => Cell.string.inj) h

theorem headerNames_eq_ok_iff {names : List String} : sheet.headerNames = .ok names ↔
    sheet.HasSoundHeader ∧
      ∃ texts : List String, sheet.header = texts.map .string ∧
        names = texts.map columnName := by
  constructor
  · intro h
    rcases sheet.headerNames_scan with ⟨-, -, hsound⟩ | ⟨i, cause, herror, -⟩
    · exact ⟨hsound, headerNames_eq_ok h⟩
    · cases h.symm.trans herror
  · rintro ⟨hsound, texts, hcells, rfl⟩
    rcases sheet.headerNames_scan with ⟨names, hnames, -⟩ | ⟨i, cause, -, hfirst⟩
    · obtain ⟨others, hothers, rfl⟩ := headerNames_eq_ok hnames
      rwa [texts_inj (hcells.symm.trans hothers)]
    · exact absurd hfirst.here (hsound i cause)

theorem headerNames_of_sound (h : sheet.HasSoundHeader) :
    ∃ names, sheet.headerNames = .ok names ∧ names.length = sheet.header.length := by
  rcases sheet.headerNames_scan with ⟨names, hnames, -⟩ | ⟨i, cause, -, hfirst⟩
  · obtain ⟨-, texts, hcells, rfl⟩ := headerNames_eq_ok_iff.mp hnames
    exact ⟨_, hnames, by rw [hcells, List.length_map, List.length_map]⟩
  · exact absurd hfirst.here (h i cause)

theorem hasNoHeader_iff {names : List String} (h : sheet.headerNames = .ok names) :
    sheet.HasNoHeader ↔ names = [] := by
  obtain ⟨-, texts, hcells, rfl⟩ := headerNames_eq_ok_iff.mp h
  rw [← header_eq_nil_iff, hcells, List.map_eq_nil_iff, List.map_eq_nil_iff]

end Sheet

/-! ## Cells of the type row -/

/-- What is wrong with the `i`-th cell of a type row: nothing stands there, no string, or no
type. -/
inductive TypeFault (types : Row) (i : Nat) : SheetFaultCause → Prop
  | missing (here : types[i]? = none ∨ types[i]? = some .blank) : TypeFault types i .missingType
  | notString {cell : Cell} (here : types[i]? = some cell) (notBlank : cell ≠ .blank)
      (noString : ∀ text, cell ≠ .string text) :
    TypeFault types i (.unsupportedType ("<" ++ cell.kind ++ " cell>"))
  | unsupported {text type : String} (here : types[i]? = some (.string text))
      (parse : ColumnType.parse text = .error (.unsupported type)) :
    TypeFault types i (.unsupportedType type)
  | illFormed {text : String} {fault : EnumFault} (here : types[i]? = some (.string text))
      (parse : ColumnType.parse text = .error (.illFormedEnum fault)) :
    TypeFault types i (.illFormedEnum fault)

/-- The `i`-th cell of a type row declares the type. -/
def DeclaresType (types : Row) (i : Nat) (type : ColumnType) : Prop :=
  ∃ text, types[i]? = some (.string text) ∧ ColumnType.parse text = .ok type

theorem typeOfCell_eq_error_iff {types : Row} {i : Nat} {location : Location} {fault : SheetFault} :
    typeOfCell location types[i]? = .error fault ↔
      ∃ cause, TypeFault types i cause ∧ fault = ⟨cause, some location⟩ := by
  constructor
  · intro h
    unfold typeOfCell at h
    split at h
    · next here =>
      obtain rfl := Except.error.inj h
      exact ⟨_, .missing (.inl here), rfl⟩
    · next here =>
      obtain rfl := Except.error.inj h
      exact ⟨_, .missing (.inr here), rfl⟩
    · next text here =>
      obtain ⟨e, hparse, rfl⟩ := mapError_eq_error_iff.mp h
      cases e with
      | unsupported type => exact ⟨_, .unsupported here hparse, rfl⟩
      | illFormedEnum fault => exact ⟨_, .illFormed here hparse, rfl⟩
    · next cell notBlank noString here =>
      obtain rfl := Except.error.inj h
      exact ⟨_, .notString here (fun hblank => notBlank hblank) fun text htext =>
        noString text htext, rfl⟩
  · rintro ⟨cause, hfault, rfl⟩
    cases hfault with
    | missing here => rcases here with here | here <;> rw [here] <;> rfl
    | @notString cell here notBlank noString =>
      rw [here]
      cases cell with
      | blank => exact absurd rfl notBlank
      | string text => exact absurd rfl (noString text)
      | _ => rfl
    | unsupported here parse =>
      rw [here, typeOfCell, parse]
      rfl
    | illFormed here parse =>
      rw [here, typeOfCell, parse]
      rfl

theorem TypeFault.unique {types : Row} {i : Nat} {cause other : SheetFaultCause}
    (h : TypeFault types i cause) (h' : TypeFault types i other) : cause = other := by
  have hcell : typeOfCell ⟨1, i⟩ types[i]? = .error ⟨cause, some ⟨1, i⟩⟩ :=
    typeOfCell_eq_error_iff.mpr ⟨cause, h, rfl⟩
  have hcell' : typeOfCell ⟨1, i⟩ types[i]? = .error ⟨other, some ⟨1, i⟩⟩ :=
    typeOfCell_eq_error_iff.mpr ⟨other, h', rfl⟩
  exact (SheetFault.mk.inj (Except.error.inj (hcell.symm.trans hcell'))).1

/-- The types below names are refused at the first cell that is at fault. -/
theorem typeColumnsFrom_eq_error_iff {types : Row} {fault : SheetFault} :
    ∀ {names : List String} {i : Nat},
    typeColumnsFrom types i names = .error fault ↔
      ∃ k cause, k < names.length ∧ FirstAt (fun k => TypeFault types (i + k)) k cause ∧
        fault = ⟨cause, some ⟨1, i + k⟩⟩
  | [], i => by simp [typeColumnsFrom]
  | name :: rest, i => by
    rw [typeColumnsFrom]
    cases htype : typeOfCell ⟨1, i⟩ types[i]? with
    | error e =>
      obtain ⟨cause, hfault, rfl⟩ := typeOfCell_eq_error_iff.mp htype
      constructor
      · intro h
        obtain rfl := Except.error.inj h
        exact ⟨0, cause, Nat.succ_pos _,
          ⟨hfault, fun j hj => absurd hj (Nat.not_lt_zero j)⟩, rfl⟩
      · rintro ⟨k, other, -, hfirst, rfl⟩
        cases k with
        | zero => rw [TypeFault.unique hfault hfirst.here]; rfl
        | succ k => exact absurd hfault (hfirst.before 0 (Nat.succ_pos k) cause)
    | ok type =>
      obtain hsound : ∀ cause, ¬TypeFault types i cause := by
        intro cause hfault
        cases htype.symm.trans (typeOfCell_eq_error_iff.mpr ⟨cause, hfault, rfl⟩)
      rw [map_eq_error_iff, typeColumnsFrom_eq_error_iff]
      simp only [Nat.add_assoc, Nat.add_comm 1]
      constructor
      · rintro ⟨k, cause, hk, ⟨hhere, hbefore⟩, rfl⟩
        refine ⟨k + 1, cause, Nat.succ_lt_succ hk, ⟨hhere, fun j hj => ?_⟩, rfl⟩
        cases j with
        | zero => exact hsound
        | succ j => exact hbefore j (Nat.lt_of_succ_lt_succ hj)
      · rintro ⟨k, cause, hk, ⟨hhere, hbefore⟩, rfl⟩
        cases k with
        | zero => exact absurd hhere (hsound cause)
        | succ k =>
          exact ⟨k, cause, Nat.lt_of_succ_lt_succ hk,
            ⟨hhere, fun j hj => hbefore (j + 1) (Nat.succ_lt_succ hj)⟩, rfl⟩

/-- The columns below names are these names, each with the type that its cell declares. -/
theorem typeColumnsFrom_eq_ok_iff {types : Row} :
    ∀ {names : List String} {cols : List Column} {i : Nat},
    typeColumnsFrom types i names = .ok cols ↔
      cols.map (·.name) = names ∧ ∀ k c, cols[k]? = some c →
        DeclaresType types (i + k) c.type
  | [], cols, i => by
    rw [typeColumnsFrom, Except.ok.injEq, List.map_eq_nil_iff, eq_comm]
    exact (and_iff_left_of_imp (by rintro rfl; simp)).symm
  | name :: rest, cols, i => by
    constructor
    · intro h
      obtain ⟨type, others, htype, hothers, rfl⟩ := typeColumnsFrom_cons_eq_ok h
      obtain ⟨rfl, hdeclares⟩ := typeColumnsFrom_eq_ok_iff.mp hothers
      refine ⟨rfl, fun k c hc => ?_⟩
      cases k with
      | zero =>
        obtain rfl := Option.some.inj hc
        exact typeOfCell_eq_ok_iff.mp htype
      | succ k =>
        rw [← Nat.add_assoc, Nat.add_right_comm]
        exact hdeclares k c hc
    · rintro ⟨hnames, hdeclares⟩
      obtain ⟨c, others, rfl, rfl, hrest⟩ := List.map_eq_cons_iff.mp hnames
      have htype : typeOfCell ⟨1, i⟩ types[i]? = .ok c.type :=
        typeOfCell_eq_ok_iff.mpr (hdeclares 0 c rfl)
      have hothers : typeColumnsFrom types (i + 1) rest = .ok others :=
        typeColumnsFrom_eq_ok_iff.mpr ⟨hrest, fun k d hd => by
          rw [Nat.add_right_comm, Nat.add_assoc]
          exact hdeclares (k + 1) d hd⟩
      rw [typeColumnsFrom, htype, hothers]
      rfl

theorem typeColumns_eq_error_iff {types : Row} {names : List String} {fault : SheetFault} :
    typeColumns (some types) names = .error fault ↔
      ∃ i cause, i < names.length ∧ FirstAt (TypeFault types) i cause ∧
        fault = ⟨cause, some ⟨1, i⟩⟩ := by
  have h := @typeColumnsFrom_eq_error_iff types fault names 0
  simp only [Nat.zero_add] at h
  exact h

theorem typeColumns_eq_ok_iff {types : Row} {names : List String} {cols : List Column} :
    typeColumns (some types) names = .ok cols ↔
      cols.map (·.name) = names ∧ ∀ i c, cols[i]? = some c →
        DeclaresType types i c.type := by
  have h := @typeColumnsFrom_eq_ok_iff types names cols 0
  simp only [Nat.zero_add] at h
  exact h

/-! ## Both rows -/

namespace Sheet

variable {sheet : Sheet} {result : Except SheetFault SheetSchema}

/-- What a sheet is read as that is read on its own. -/
inductive ReadsAs (sheet : Sheet) : Except SheetFault SheetSchema → Prop
  | empty (header : sheet.HasNoHeader) : ReadsAs sheet (.ok .empty)
  | badHeader {i : Nat} {cause : SheetFaultCause}
      (first : FirstAt (HeaderFault sheet.header) i cause) :
    ReadsAs sheet (.error ⟨cause, some ⟨0, i⟩⟩)
  | noTypeRow (header : ¬sheet.HasNoHeader) (sound : sheet.HasSoundHeader)
      (row : sheet.row? 1 = none) :
    ReadsAs sheet (.error ⟨.missingTypeRow, none⟩)
  | badType {types : Row} {i : Nat} {cause : SheetFaultCause} (sound : sheet.HasSoundHeader)
      (row : sheet.row? 1 = some types) (below : i < sheet.header.length)
      (first : FirstAt (TypeFault types) i cause) :
    ReadsAs sheet (.error ⟨cause, some ⟨1, i⟩⟩)
  | columns {types : Row} {texts : List String} {cols : List Column} (header : ¬sheet.HasNoHeader)
      (sound : sheet.HasSoundHeader) (row : sheet.row? 1 = some types)
      (cells : sheet.header = texts.map .string) (names : cols.map (·.name) = texts.map columnName)
      (declared : ∀ i c, cols[i]? = some c → DeclaresType types i c.type) :
    ReadsAs sheet (.ok (.columns cols))

theorem schema_of_badHeader {fault : SheetFault} (h : sheet.headerNames = .error fault) :
    sheet.schema = .error fault := by
  have hgiven : sheet.givenNames? = none := by rw [givenNames?, h]
  rw [schema, Agreement.readSheet_of_not_given _ hgiven, h]
  rfl

/-- Below a header that gives names, the types decide. -/
theorem schema_of_names {names : List String} (h : sheet.headerNames = .ok names)
    (hne : names ≠ []) : sheet.schema = (typeColumns (sheet.row? 1) names).map .columns := by
  have hgiven : sheet.givenNames? = some names := givenNames?_eq_some_iff.mpr ⟨h, hne⟩
  rw [schema, Agreement.readSheet_of_given hgiven]
  cases htypes : typeColumns (sheet.row? 1) names <;>
    simp [Agreement.fixNames, Agreement.fresh, Agreement.readTypes, Agreement.fixTypes, htypes,
      Except.map]

theorem readsAs_schema (sheet : Sheet) : sheet.ReadsAs sheet.schema := by
  cases hnames : sheet.headerNames with
  | error fault =>
    obtain ⟨i, cause, hfirst, rfl⟩ := headerNames_eq_error_iff.mp hnames
    rw [schema_of_badHeader hnames]
    exact .badHeader hfirst
  | ok names =>
    by_cases hnil : names = []
    · rw [schema_eq_empty_iff.mpr (hnil ▸ hnames)]
      exact .empty ((hasNoHeader_iff hnames).mpr hnil)
    · have hheader : ¬sheet.HasNoHeader := mt (hasNoHeader_iff hnames).mp hnil
      obtain ⟨hsound, texts, hcells, hcolumns⟩ := headerNames_eq_ok_iff.mp hnames
      rw [schema_of_names hnames hnil]
      cases hrow : sheet.row? 1 with
      | none => exact .noTypeRow hheader hsound hrow
      | some types =>
        cases htypes : typeColumns (some types) names with
        | error fault =>
          obtain ⟨i, cause, hbelow, hfirst, rfl⟩ := typeColumns_eq_error_iff.mp htypes
          exact .badType hsound hrow (by simpa [hcells, hcolumns] using hbelow) hfirst
        | ok cols =>
          obtain ⟨rfl, hdeclared⟩ := typeColumns_eq_ok_iff.mp htypes
          exact .columns hheader hsound hrow hcells hcolumns hdeclared

theorem ReadsAs.schema_eq (h : sheet.ReadsAs result) : sheet.schema = result := by
  cases h with
  | empty header =>
    have hsound : sheet.HasSoundHeader := fun i cause hfault => by
      simpa [header_eq_nil_iff.mpr header] using hfault.lt_length
    obtain ⟨names, hnames, -⟩ := headerNames_of_sound hsound
    obtain rfl := (hasNoHeader_iff hnames).mp header
    exact schema_eq_empty_iff.mpr hnames
  | badHeader first =>
    exact schema_of_badHeader (headerNames_eq_error_iff.mpr ⟨_, _, first, rfl⟩)
  | noTypeRow header sound row =>
    obtain ⟨names, hnames, -⟩ := headerNames_of_sound sound
    rw [schema_of_names hnames (mt (hasNoHeader_iff hnames).mpr header), row]
    rfl
  | badType sound row below first =>
    obtain ⟨names, hnames, hlength⟩ := headerNames_of_sound sound
    rw [← hlength] at below
    rw [schema_of_names hnames (List.ne_nil_of_length_pos (Nat.zero_lt_of_lt below)), row,
      typeColumns_eq_error_iff.mpr ⟨_, _, below, first, rfl⟩]
    rfl
  | @columns types texts cols header sound row cells names declared =>
    have hnames : sheet.headerNames = .ok (cols.map (·.name)) :=
      headerNames_eq_ok_iff.mpr ⟨sound, texts, cells, names⟩
    rw [schema_of_names hnames (mt (hasNoHeader_iff hnames).mpr header), row,
      typeColumns_eq_ok_iff.mpr ⟨rfl, declared⟩]
    rfl

/-- A sheet is read as its two schema rows say, and as nothing else: empty if nothing stands in its
first cell; else rejected at the leftmost cell of the header that is at fault, or without a place if
it has no second row, or at the leftmost cell below the header that is at fault; else with a column
for every cell of the header. -/
theorem schema_eq_iff_readsAs (sheet : Sheet) (result : Except SheetFault SheetSchema) :
    sheet.schema = result ↔ sheet.ReadsAs result := by
  constructor
  · rintro rfl
    exact sheet.readsAs_schema
  · exact fun h => h.schema_eq

/-- The header ends at its blank cell, and below the second of the cells before that there is no
type. -/
example : schema ⟨"Items", [some [.string "id", .string " Kind ", .blank, .string "id"],
    some [.string "int"]]⟩ = .error ⟨.missingType, some ⟨1, 1⟩⟩ :=
  rfl

end Sheet

end TypedSheets
