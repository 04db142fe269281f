import TypedSheets.Proofs.Validity

/-!
# Verdicts on sheets read in order

Sheets that are read one after the other leave an agreement (`Agreement.after`) and get a verdict
each (`Agreement.verdicts`). The names that they fix are those of the first sheet whose header gives
any (`Agreement.names_after`), whether that sheet is accepted or not, and the types are those of the
first sheet that is accepted with columns (`Agreement.types_after`). As such a sheet has to have the
names that are fixed, the agreement then holds just its columns (`Agreement.after_of_columns`). A
compilation reports the verdicts of rejection (`Compilation.rejections_run`).

Main statement: `Agreement.first_columns_hold`.
-/

namespace TypedSheets

/-- The names that a header gives, if it can be read and is not empty. -/
def Sheet.givenNames? (sheet : Sheet) : Option (List String) :=
  match sheet.headerNames with
  | .error _ => none
  | .ok names => if names = [] then none else some names

theorem Sheet.givenNames?_eq_some_iff {sheet : Sheet} {names : List String} :
    sheet.givenNames? = some names ↔ sheet.headerNames = .ok names ∧ names ≠ [] := by
  unfold givenNames?
  cases sheet.headerNames with
  | error e => simp
  | ok others =>
    by_cases hempty : others = []
    · simp +contextual [hempty, eq_comm]
    · simp only [if_neg hempty, Option.some.injEq, Except.ok.injEq]
      exact ⟨fun h => ⟨h, h ▸ hempty⟩, fun h => h.1⟩

/-- The columns of a sheet that is accepted and not empty. -/
def declared? : Except SheetFault SheetSchema → Option (List Column)
  | .ok (.columns cols) => some cols
  | _ => none

theorem declared?_eq_some_iff {verdict : Except SheetFault SheetSchema} {cols : List Column} :
    declared? verdict = some cols ↔ verdict = .ok (.columns cols) := by
  unfold declared?
  split
  · simp
  · next hnot => exact iff_of_false (by simp) fun h => hnot cols h

namespace Agreement

/-- The agreement after some sheets have been read. -/
def after (a : Agreement) (sheets : List Sheet) : Agreement :=
  sheets.foldl (fun b sheet => (b.readSheet sheet).1) a

/-- The verdicts on sheets that are read one after the other. -/
def verdicts (a : Agreement) : List Sheet → List (Except SheetFault SheetSchema)
  | [] => []
  | sheet :: rest => (a.readSheet sheet).2 :: (a.readSheet sheet).1.verdicts rest

variable (a : Agreement) (sheet : Sheet) (sheets more : List Sheet)

@[simp] theorem after_cons : a.after (sheet :: sheets) = (a.readSheet sheet).1.after sheets := rfl

@[simp] theorem after_append : a.after (sheets ++ more) = (a.after sheets).after more :=
  List.foldl_append

@[simp] theorem verdicts_cons :
    a.verdicts (sheet :: sheets) = (a.readSheet sheet).2 :: (a.readSheet sheet).1.verdicts sheets :=
  rfl

@[simp] theorem length_verdicts : (a.verdicts sheets).length = sheets.length := by
  induction sheets generalizing a with
  | nil => rfl
  | cons sheet rest ih => rw [verdicts_cons, List.length_cons, List.length_cons, ih]

theorem verdicts_append :
    a.verdicts (sheets ++ more) = a.verdicts sheets ++ (a.after sheets).verdicts more := by
  induction sheets generalizing a with
  | nil => rfl
  | cons sheet rest ih => rw [List.cons_append, verdicts_cons, ih, verdicts_cons, after_cons,
      List.cons_append]

/-! ## Sheets that give names, and sheets that do not -/

section Given

variable {a : Agreement} {sheet : Sheet} {names : List String}

/-- A sheet that gives no names is judged alike under all agreements, and changes none. -/
theorem readSheet_of_not_given (a : Agreement) (h : sheet.givenNames? = none) :
    a.readSheet sheet = (a, sheet.headerNames.map fun _ => .empty) := by
  have hgiven : ∀ {given}, sheet.headerNames = .ok given → given ≠ [] → False :=
    fun hok hne => Option.some_ne_none _
      ((Sheet.givenNames?_eq_some_iff.mpr ⟨hok, hne⟩).symm.trans h)
  have hreads := a.readSheet_reads sheet
  generalize a.readSheet sheet = result at hreads
  obtain ⟨b, verdict⟩ := result
  cases hreads with
  | empty header => rw [header]; rfl
  | badHeader header => rw [header]; rfl
  | otherNames header nonempty => exact (hgiven header nonempty).elim
  | badTypes header nonempty => exact (hgiven header nonempty).elim
  | otherTypes header nonempty => exact (hgiven header (by simpa using nonempty)).elim
  | columns header nonempty => exact (hgiven header (by simpa using nonempty)).elim

/-- A sheet that gives names has them compared first, and then its types. -/
theorem readSheet_of_given (h : sheet.givenNames? = some names) :
    a.readSheet sheet =
      match a.fixNames names with
      | .error e => (a, .error e)
      | .ok b =>
        match b.readTypes (sheet.row? 1) names with
        | (c, .error e) => (c, .error e)
        | (c, .ok cols) => (c, .ok (.columns cols)) := by
  obtain ⟨header, hne⟩ := Sheet.givenNames?_eq_some_iff.mp h
  obtain ⟨name, rest, rfl⟩ := List.exists_cons_of_ne_nil hne
  unfold Sheet.headerNames at header
  cases hrow : sheet.row? 0 with
  | none => simp [hrow] at header
  | some row =>
    have hnames : headerNames row = .ok (name :: rest) := by simpa [hrow] using header
    simp only [readSheet, readHeader, hrow, hnames]
    cases a.fixNames (name :: rest) <;> rfl

end Given

/-! ## What one sheet fixes -/

variable {a sheet} {b : Agreement} {verdict : Except SheetFault SheetSchema}

theorem AdmitsNames.eq_or {names : List String} (h : a.AdmitsNames names) :
    some names = a.names.or (some names) := by
  cases hnames : a.names with
  | none => rfl
  | some expected => rw [h expected hnames, Option.some_or]

theorem AdmitsTypes.eq_or {types : List ColumnType} (h : a.AdmitsTypes types) :
    some types = a.types.or (some types) := by
  cases htypes : a.types with
  | none => rfl
  | some expected => rw [h expected htypes, Option.some_or]

theorem givenNames?_of_columns {cols : List Column}
    (header : sheet.headerNames = .ok (cols.map (·.name))) (nonempty : cols ≠ []) :
    sheet.givenNames? = some (cols.map (·.name)) :=
  Sheet.givenNames?_eq_some_iff.mpr ⟨header, by simpa using nonempty⟩

/-- Names that are not fixed yet become those that the header gives, even if the sheet is
rejected. -/
theorem Reads.names_eq (h : a.Reads sheet b verdict) : b.names = a.names.or sheet.givenNames? := by
  cases h with
  | empty header => simp [Sheet.givenNames?, header]
  | badHeader header => simp [Sheet.givenNames?, header]
  | otherNames header nonempty fixed => simp [fixed]
  | badTypes header nonempty admits =>
    rw [Sheet.givenNames?_eq_some_iff.mpr ⟨header, nonempty⟩]
    exact admits.eq_or
  | otherTypes header nonempty admits =>
    rw [givenNames?_of_columns header nonempty]
    exact admits.eq_or
  | columns header nonempty admits =>
    rw [givenNames?_of_columns header nonempty]
    exact admits.eq_or

/-- Types that are not fixed yet become those of the sheet, if it is accepted. -/
theorem Reads.types_eq (h : a.Reads sheet b verdict) :
    b.types = a.types.or ((declared? verdict).map fun cols => cols.map (·.type)) := by
  cases h with
  | columns header nonempty admitsNames types admitsTypes => exact admitsTypes.eq_or
  | _ => simp [declared?]

theorem eq_of_names_of_types (hnames : b.names = a.names) (htypes : b.types = a.types) : b = a := by
  cases a
  cases b
  exact congrArg₂ mk hnames htypes

theorem Reads.eq_ofColumns {cols : List Column} (h : a.Reads sheet b (.ok (.columns cols))) :
    b = ofColumns cols ∧ sheet.schema = .ok (.columns cols) := by
  cases h with
  | columns header nonempty _ types =>
    exact ⟨rfl, Sheet.schema_eq_columns_iff.mpr ⟨header, nonempty, types⟩⟩

/-! ## What sheets fix -/

variable (a)

/-- The names that are fixed are those that the first header gives. -/
theorem names_after : (a.after sheets).names = a.names.or (sheets.findSome? Sheet.givenNames?) := by
  induction sheets generalizing a with
  | nil => simp [after]
  | cons sheet rest ih =>
    rw [after_cons, ih, (a.readSheet_reads sheet).names_eq, List.findSome?_cons]
    cases sheet.givenNames? <;> simp

/-- The types that are fixed are those of the first sheet that is accepted with columns. -/
theorem types_after : (a.after sheets).types =
    a.types.or (((a.verdicts sheets).findSome? declared?).map fun cols => cols.map (·.type)) := by
  induction sheets generalizing a with
  | nil => simp [after, verdicts]
  | cons sheet rest ih =>
    rw [after_cons, ih, (a.readSheet_reads sheet).types_eq, verdicts_cons, List.findSome?_cons]
    cases declared? (a.readSheet sheet).2 <;> simp

/-- Columns that are fixed stay. -/
theorem ofColumns_after (cols : List Column) : (ofColumns cols).after sheets = ofColumns cols := by
  refine eq_of_names_of_types ?_ ?_
  · rw [names_after]
    rfl
  · rw [types_after]
    rfl

variable {sheets} {cols : List Column}

/-- Once a sheet is accepted with columns, just these are fixed. The sheet declares them on its
own. -/
theorem after_of_columns (h : .ok (.columns cols) ∈ a.verdicts sheets) :
    a.after sheets = ofColumns cols ∧ ∃ sheet ∈ sheets,
      sheet.schema = .ok (.columns cols) := by
  induction sheets generalizing a with
  | nil => cases h
  | cons sheet rest ih =>
    rw [after_cons]
    rcases List.mem_cons.mp h with hhead | hrest
    · have hreads := a.readSheet_reads sheet
      rw [← hhead] at hreads
      obtain ⟨hb, hschema⟩ := hreads.eq_ofColumns
      rw [hb, ofColumns_after]
      exact ⟨rfl, sheet, List.mem_cons_self, hschema⟩
    · obtain ⟨hafter, t, ht, hschema⟩ := ih _ hrest
      exact ⟨hafter, t, List.mem_cons_of_mem sheet ht, hschema⟩

theorem ofColumns_inj {others : List Column} (h : ofColumns cols = ofColumns others) :
    cols = others := by
  obtain ⟨hnames, htypes⟩ := Agreement.mk.inj h
  exact eq_of_map_name_type cols others (Option.some.inj hnames) (Option.some.inj htypes)

/-! ## Sheets read from a fresh start -/

variable (sheets)

/-- What is fixed stays fixed. -/
theorem after_append_stays :
    (∀ names, (a.after sheets).names = some names →
      (a.after (sheets ++ more)).names = some names) ∧
      ∀ types, (a.after sheets).types = some types →
        (a.after (sheets ++ more)).types = some types := by
  rw [after_append]
  refine ⟨fun names h => ?_, fun types h => ?_⟩
  · rw [names_after, h, Option.some_or]
  · rw [types_after, h, Option.some_or]

variable {sheets}

/-- Names that are fixed stand in a header. -/
theorem nodup_of_names {names : List String} (h : (fresh.after sheets).names = some names) :
    names.Nodup ∧ names ≠ [] := by
  rw [names_after] at h
  obtain ⟨sheet, -, hgiven⟩ := List.exists_of_findSome?_eq_some h
  obtain ⟨hheader, hnonempty⟩ := Sheet.givenNames?_eq_some_iff.mp hgiven
  exact ⟨sheet.nodup_headerNames hheader, hnonempty⟩

/-- Types that are fixed are those of a sheet that was accepted with columns. -/
theorem exists_columns_of_types {types : List ColumnType}
    (h : (fresh.after sheets).types = some types) :
    ∃ cols, .ok (.columns cols) ∈ fresh.verdicts sheets ∧ types = cols.map (·.type) := by
  rw [types_after] at h
  obtain ⟨cols, hcols, rfl⟩ := Option.map_eq_some_iff.mp h
  obtain ⟨verdict, hmem, hverdict⟩ := List.exists_of_findSome?_eq_some hcols
  exact ⟨cols, declared?_eq_some_iff.mp hverdict ▸ hmem, rfl⟩

/-- Types that are fixed belong to names, and no enumeration among them lacks values or repeats
one. -/
theorem sound_of_types {types : List ColumnType} (h : (fresh.after sheets).types = some types) :
    (∃ names, (fresh.after sheets).names = some names ∧ names.length = types.length) ∧
      ∀ type ∈ types, ∀ domain, type.domain? = some domain →
        domain ≠ [] ∧ domain.Nodup := by
  obtain ⟨cols, hcols, rfl⟩ := exists_columns_of_types h
  obtain ⟨hafter, sheet, -, hschema⟩ := after_of_columns fresh hcols
  refine ⟨⟨cols.map (·.name), by rw [hafter]; rfl, by simp⟩,
    fun type htype domain hdomain => ?_⟩
  obtain ⟨c, hc, rfl⟩ := List.mem_map.mp htype
  have hdeclared : c.type.IsDeclared := sheet.isDeclared_of_schema hschema c hc
  exact ⟨fun hempty => hdeclared.domain_ne_nil (hempty ▸ hdomain),
    hdeclared.nodup_domain hdomain⟩

/-- Sheets that give no names fix nothing. -/
theorem after_eq_fresh (h : sheets.findSome? Sheet.givenNames? = none) :
    fresh.after sheets = fresh := by
  have hnames : (fresh.after sheets).names = none := (names_after fresh sheets).trans h
  refine eq_of_names_of_types hnames ?_
  cases htypes : (fresh.after sheets).types with
  | none => rfl
  | some types =>
    obtain ⟨⟨names, hsome, -⟩, -⟩ := sound_of_types htypes
    cases hsome.symm.trans hnames

theorem isComplete_after_iff : (fresh.after sheets).isComplete = true ↔
    ∃ cols, .ok (.columns cols) ∈ fresh.verdicts sheets := by
  constructor
  · intro hcomplete
    obtain ⟨-, htypes⟩ := Bool.and_eq_true_iff.mp hcomplete
    obtain ⟨types, htypes⟩ := Option.isSome_iff_exists.mp htypes
    obtain ⟨cols, hcols, -⟩ := exists_columns_of_types htypes
    exact ⟨cols, hcols⟩
  · rintro ⟨cols, hcols⟩
    rw [(after_of_columns fresh hcols).1]
    rfl

/-- When sheets are read one after the other, what is fixed stays fixed. Names that are fixed are
not none at all and differ, and types are fixed only for names, one for each, with different values
in every enumeration. Both are fixed just when a sheet was accepted with columns. The schema then
has the columns of this sheet, as has every other sheet accepted with columns. -/
theorem first_columns_hold (sheets : List Sheet) :
    let a := fresh.after sheets
    (∀ more,
      (∀ names, a.names = some names → (fresh.after (sheets ++ more)).names = some names) ∧
        ∀ types, a.types = some types → (fresh.after (sheets ++ more)).types = some types) ∧
      (∀ names, a.names = some names → names.Nodup ∧ names ≠ []) ∧
      (∀ types, a.types = some types →
        (∃ names, a.names = some names ∧ names.length = types.length) ∧
          ∀ type ∈ types, ∀ domain, type.domain? = some domain →
            domain ≠ [] ∧ domain.Nodup) ∧
      (a.isComplete = true ↔ ∃ cols, .ok (.columns cols) ∈ fresh.verdicts sheets) ∧
      ∀ cols, .ok (.columns cols) ∈ fresh.verdicts sheets →
        (∀ entity, a.schema? entity = some ⟨entity, cols⟩) ∧
          ∀ others, .ok (.columns others) ∈ fresh.verdicts sheets → others = cols := by
  intro a
  refine ⟨fun more => fresh.after_append_stays sheets more, fun names => nodup_of_names,
    fun types => sound_of_types, isComplete_after_iff, fun cols h => ?_⟩
  have hafter : a = ofColumns cols := (after_of_columns fresh h).1
  refine ⟨fun entity => hafter ▸ schema?_ofColumns cols entity, fun others hothers => ?_⟩
  exact ofColumns_inj ((after_of_columns fresh hothers).1.symm.trans hafter)

/-- Five sheets, of which the first has names but no type for the second of them, the second is
empty, the fourth has other types than the third, and the fifth other names. -/
def fiveSheets : List Sheet := [
  ⟨"One", [some [.string "id", .string "kind"], some [.string "int"]]⟩,
  ⟨"Two", [some [.blank, .string "x"]]⟩,
  ⟨"Three", [some [.string " Id ", .string "Kind"],
    some [.string "INT", .string "enum|Red,green"]]⟩,
  ⟨"Four", [some [.string "id", .string "kind"],
    some [.string "int", .string "enum|green,red"]]⟩,
  ⟨"Five", [some [.string "id"], some [.string "int"]]⟩]

/-- The names of the first sheet are fixed though it is rejected, and the third sheet adds the
types. -/
theorem schema?_fiveSheets :
    (fresh.after (fiveSheets.take 1)).names = some ["id", "kind"] ∧
      (fresh.after fiveSheets).names = some ["id", "kind"] ∧
      .ok (.columns [⟨"id", .int⟩, ⟨"kind", .enum ["red", "green"]⟩]) ∈
        fresh.verdicts fiveSheets ∧
      (fresh.after fiveSheets).schema? "Entity_Test" =
        some ⟨"Entity_Test", [⟨"id", .int⟩, ⟨"kind", .enum ["red", "green"]⟩]⟩ := by
  have hnames : (fresh.after (fiveSheets.take 1)).names = some ["id", "kind"] := by decide +kernel
  have hcols : .ok (.columns [⟨"id", .int⟩, ⟨"kind", .enum ["red", "green"]⟩]) ∈
      fresh.verdicts fiveSheets := by decide +kernel
  have hstays := ((first_columns_hold (fiveSheets.take 1)).1 (fiveSheets.drop 1)).1 _ hnames
  obtain ⟨-, -, -, -, hschema⟩ := first_columns_hold fiveSheets
  exact ⟨hnames, hstays, hcols, (hschema _ hcols).1 _⟩

end Agreement

/-! ## What a compilation reports -/

/-- What a sheet is rejected for. -/
def fault? : Except SheetFault SheetSchema → Option SheetFault
  | .ok _ => none
  | .error fault => some fault

theorem fault?_eq_some_iff {verdict : Except SheetFault SheetSchema} {fault : SheetFault} :
    fault? verdict = some fault ↔ verdict = .error fault := by
  cases verdict <;> simp [fault?]

/-- What a compilation rejects each sheet for, `none` standing for a sheet that is accepted. -/
def Workbook.faults (w : Workbook) : List (Option SheetFault) :=
  (Agreement.fresh.verdicts w.sheets).map fault?

/-- The rejections among sheets with what each is rejected for. -/
def rejectionsOf (source : String) (sheets : List Sheet) (faults : List (Option SheetFault)) :
    List Rejection :=
  (sheets.zip faults).filterMap fun (sheet, fault?) => fault?.map (⟨source, sheet.name, ·⟩)

theorem Agreement.readSheets_eq (a : Agreement) (source : String) (sheets : List Sheet) :
    (a.readSheets sheets).1 = a.after sheets ∧
      (a.readSheets sheets).2.map
        (fun (sheet, fault) => (⟨source, sheet.name, fault⟩ : Rejection)) =
        rejectionsOf source sheets ((a.verdicts sheets).map fault?) := by
  induction sheets generalizing a with
  | nil => exact ⟨rfl, rfl⟩
  | cons sheet rest ih =>
    rw [readSheets, verdicts_cons, after_cons]
    have ih := ih (a.readSheet sheet).1
    unfold rejectionsOf at ih ⊢
    generalize a.readSheet sheet = result at ih
    obtain ⟨b, _ | _⟩ := result <;> simp [fault?, ih]

namespace Compilation

variable (source entity : String) (w : Workbook)

/-- A compilation reports just the faults of the sheets, in order. -/
theorem rejections_run : (run source entity w).rejections = rejectionsOf source w.sheets w.faults :=
  (Agreement.readSheets_eq Agreement.fresh source w.sheets).2

/-- Without a rejection, the schema is what the sheets have fixed. -/
theorem schema_run : (run source entity w).schema =
    if (run source entity w).rejections = [] then (Agreement.fresh.after w.sheets).schema? entity
    else none := by
  rw [← (Agreement.readSheets_eq Agreement.fresh source w.sheets).1]
  simp [run]

end Compilation

theorem rejectionsOf_append (source : String) {sheets more : List Sheet}
    {faults others : List (Option SheetFault)} (h : sheets.length = faults.length) :
    rejectionsOf source (sheets ++ more) (faults ++ others) =
      rejectionsOf source sheets faults ++ rejectionsOf source more others := by
  unfold rejectionsOf
  rw [List.zip_append h, List.filterMap_append]

end TypedSheets
