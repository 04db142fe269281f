import TypedSheets.Proofs.ChangeDetection
import TypedSheets.Proofs.Header

/-!
# Valid schemas

A schema is valid if its names differ and are not empty, and its enumerations have values
(`TableSchema.validate_eq_ok_iff`). The names in a header differ and a declared enumeration has
values, so a compiled schema is valid if no name is empty (`Compilation.validate_of_schema`). Its
descriptor then gives it back (`Compilation.toSchema_ofSchema`). A header cell with nothing but
blank characters in it does not end the header: it gives an empty name, with which the schema
compiles but is not valid (`Compilation.invalid_spaceHeader`).

Main statement: `Compilation.validate_or_emptyName`.
-/

namespace TypedSheets

open Text

namespace TableSchema

theorem validateColumns_eq_ok : ∀ {cols : List Column} {seen : List String},
    validateColumns seen cols = .ok () ↔
      (∀ c ∈ cols, c.name ≠ "" ∧ c.type.domain? ≠ some []) ∧
        (cols.map (·.name)).Nodup ∧
        ∀ name ∈ cols.map (·.name), name ∉ seen
  | [], seen => by simp [validateColumns]
  | c :: cols, seen => by
    have hseen : (∀ name ∈ cols.map (·.name), name ∉ c.name :: seen) ↔
        c.name ∉ cols.map (·.name) ∧ ∀ name ∈ cols.map (·.name), name ∉ seen := by
      simp only [List.mem_cons, not_or]
      exact ⟨fun h => ⟨fun hc => (h _ hc).1 rfl, fun name hname => (h name hname).2⟩,
        fun h name hname => ⟨fun heq => h.1 (heq ▸ hname), h.2 name hname⟩⟩
    have hrest := @validateColumns_eq_ok cols (c.name :: seen)
    rw [hseen] at hrest
    rw [List.map_cons, List.nodup_cons, List.forall_mem_cons, List.forall_mem_cons, validateColumns]
    by_cases hempty : c.name = ""
    · simp [hempty]
    by_cases hmem : c.name ∈ seen
    · simp [hempty, hmem]
    by_cases hdomain : c.type.domain? = some []
    · simp [hempty, hmem, hdomain]
    rw [if_neg hempty, if_neg hmem, if_neg hdomain, hrest]
    grind

/-- A schema is valid if its names differ and are not empty and its enumerations have values. -/
theorem validate_eq_ok_iff {s : TableSchema} : s.validate = .ok () ↔
    (∀ c ∈ s.columns, c.name ≠ "" ∧ c.type.domain? ≠ some []) ∧ s.names.Nodup := by
  rw [validate, validateColumns_eq_ok]
  simp [names]

theorem validateColumns_eq_emptyName : ∀ {cols : List Column} {seen : List String},
    (cols.map (·.name)).Nodup → (∀ name ∈ cols.map (·.name), name ∉ seen) →
      (∀ c ∈ cols, c.type.domain? ≠ some []) → "" ∈ cols.map (·.name) →
        validateColumns seen cols = .error .emptyName
  | [], seen, _, _, _, hempty => nomatch hempty
  | c :: cols, seen, hnodup, hseen, hdomain, hempty => by
    obtain ⟨hc, hnodup⟩ := List.nodup_cons.mp hnodup
    obtain ⟨hcseen, hseen⟩ := List.forall_mem_cons.mp hseen
    obtain ⟨hcdomain, hdomain⟩ := List.forall_mem_cons.mp hdomain
    rw [validateColumns]
    by_cases hname : c.name = ""
    · rw [if_pos hname]
    · rw [if_neg hname, if_neg hcseen, if_neg hcdomain]
      refine validateColumns_eq_emptyName hnodup (fun name hmem => ?_) hdomain ?_
      · rintro (_ | ⟨_, h⟩)
        · exact hc hmem
        · exact hseen name hmem h
      · exact (List.mem_cons.mp hempty).resolve_left (Ne.symm hname)

/-- An empty name is the only thing wrong with a schema whose names differ and whose enumerations
have values. -/
theorem validate_eq_emptyName {s : TableSchema} (hnodup : s.names.Nodup)
    (hdomain : ∀ c ∈ s.columns, c.type.domain? ≠ some []) (hempty : "" ∈ s.names) :
    s.validate = .error .emptyName :=
  validateColumns_eq_emptyName hnodup (fun _ _ h => nomatch h) hdomain hempty

end TableSchema

/-! ## Compiled schemas -/

theorem nodup_of_headerNamesFrom : ∀ {row : Row} {i : Nat} {seen names : List String},
    headerNamesFrom i seen row = .ok names → names.Nodup ∧ ∀ name ∈ names, name ∉ seen
  | [], i, seen, names, h => by
    obtain rfl : [] = names := by simpa [headerNamesFrom] using h
    simp
  | cell :: rest, i, seen, names, h => by
    rcases headerNamesFrom_cons_eq_ok h with ⟨-, rfl⟩ | ⟨s, others, -, hnew, hothers, rfl⟩
    · simp
    · obtain ⟨hnodup, hfresh⟩ := nodup_of_headerNamesFrom hothers
      have hself : columnName s ∉ others := fun hmem => hfresh _ hmem List.mem_cons_self
      refine ⟨List.nodup_cons.mpr ⟨hself, hnodup⟩, List.forall_mem_cons.mpr ⟨hnew, ?_⟩⟩
      exact fun name hname hseen => hfresh name hname (List.mem_cons_of_mem _ hseen)

/-- The names in the header of a sheet differ. -/
theorem Sheet.nodup_headerNames {sheet : Sheet} {names : List String}
    (h : sheet.headerNames = .ok names) : names.Nodup := by
  unfold headerNames at h
  split at h
  · rw [← Except.ok.inj h]
    exact List.nodup_nil
  · exact (nodup_of_headerNamesFrom h).1

namespace Compilation

variable {source entity : String} {w : Workbook} {s : TableSchema}

/-- A compiled schema is valid, if no name in the header is empty. -/
theorem validate_of_schema (h : (run source entity w).schema = some s)
    (hnames : ∀ c ∈ s.columns, c.name ≠ "") : s.validate = .ok () := by
  obtain ⟨-, ⟨sheet, -, hsheet⟩, -⟩ := (schema_eq_some_iff source entity w).mp h
  obtain ⟨hheader, -, -⟩ := Sheet.schema_eq_columns_iff.mp hsheet
  have hdeclared := isDeclared_of_schema h
  exact TableSchema.validate_eq_ok_iff.mpr
    ⟨fun c hc => ⟨hnames c hc, (hdeclared c hc).domain_ne_nil⟩,
      sheet.nodup_headerNames hheader⟩

/-- The descriptor of a compiled schema gives the schema back, if it is valid. -/
theorem toSchema_ofSchema (h : (run source entity w).schema = some s)
    (hvalid : s.validate = .ok ()) : (Descriptor.ofSchema s).toSchema = .ok s := by
  have hcolumns : (TableSchema.mk (Descriptor.ofSchema s).entity s.columns).validate = .ok () :=
    hvalid
  rw [Descriptor.toSchema_eq rfl rfl (isDeclared_of_schema h), hcolumns]
  rfl

/-- The names of a compiled schema stand in the header of a sheet and differ, and its enumerations
have values. If something is written in every cell of the header the schema is valid, and its
descriptor gives it back. If not, a name is empty, and the schema and its descriptor are both
refused for that. -/
theorem validate_or_emptyName (h : (run source entity w).schema = some s) :
    ∃ sheet ∈ w.sheets, ∃ texts : List String,
      ((sheet.row? 0).getD []).takeWhile (· ≠ .blank) = texts.map .string ∧
        s.names = texts.map columnName ∧ s.names.Nodup ∧
          (∀ c ∈ s.columns, c.type.domain? ≠ some []) ∧
            ((∀ text ∈ texts, ¬AllBlank text) →
              s.validate = .ok () ∧ (Descriptor.ofSchema s).toSchema = .ok s) ∧
            ((∃ text ∈ texts, AllBlank text) → s.validate = .error .emptyName ∧
              (Descriptor.ofSchema s).toSchema = .error (.structural .emptyName)) := by
  obtain ⟨-, ⟨sheet, hmem, hsheet⟩, -⟩ := (schema_eq_some_iff source entity w).mp h
  obtain ⟨hheader, -, -⟩ := Sheet.schema_eq_columns_iff.mp hsheet
  obtain ⟨texts, htexts, hnames⟩ := sheet.headerNames_eq_ok hheader
  have hnodup : s.names.Nodup := sheet.nodup_headerNames hheader
  have hdomain : ∀ c ∈ s.columns, c.type.domain? ≠ some [] :=
    fun c hc => (isDeclared_of_schema h c hc).domain_ne_nil
  have hempty : "" ∈ s.names ↔ ∃ text ∈ texts, AllBlank text := by
    rw [TableSchema.names, hnames, List.mem_map]
    simp only [columnName_eq_empty_iff]
  refine ⟨sheet, hmem, texts, htexts, hnames, hnodup, hdomain, fun hwritten => ?_,
    fun hblank => ?_⟩
  · have hvalid := validate_of_schema h fun c hc hname => by
      obtain ⟨text, htext, hblank⟩ := hempty.mp (List.mem_map.mpr ⟨c, hc, hname⟩)
      exact hwritten text htext hblank
    exact ⟨hvalid, toSchema_ofSchema h hvalid⟩
  · have hinvalid := TableSchema.validate_eq_emptyName hnodup hdomain (hempty.mpr hblank)
    have hcolumns : (TableSchema.mk (Descriptor.ofSchema s).entity s.columns).validate =
        .error .emptyName := hinvalid
    refine ⟨hinvalid, ?_⟩
    rw [Descriptor.toSchema_eq rfl rfl (isDeclared_of_schema h), hcolumns]

theorem validate_threeSheets :
    (run "Test.json" "Entity_Test" threeSheets).schema =
        some ⟨"Entity_Test", [⟨"id", .int⟩, ⟨"kind", .enum ["red", "green"]⟩]⟩ ∧
      (TableSchema.mk "Entity_Test" [⟨"id", .int⟩,
        ⟨"kind", .enum ["red", "green"]⟩]).validate = .ok () ∧
      (Descriptor.mk "Entity_Test" ["id", "kind"] ["int", "enum|red,green"]).toSchema =
        .ok ⟨"Entity_Test", [⟨"id", .int⟩, ⟨"kind", .enum ["red", "green"]⟩]⟩ := by
  have hschema : (run "Test.json" "Entity_Test" threeSheets).schema =
      some ⟨"Entity_Test", [⟨"id", .int⟩, ⟨"kind", .enum ["red", "green"]⟩]⟩ := rfl
  obtain ⟨sheet, -, texts, -, hnames, -, -, hvalid, -⟩ := validate_or_emptyName hschema
  have hwritten : ∀ text ∈ texts, ¬AllBlank text := by
    intro text htext hblank
    have hempty : "" ∈ texts.map columnName :=
      List.mem_map.mpr ⟨text, htext, columnName_eq_empty_iff.mpr hblank⟩
    rw [← hnames] at hempty
    exact absurd hempty (by decide)
  exact ⟨hschema, hvalid hwritten⟩

/-- A sheet with a space in the last cell of its header. -/
def spaceHeader : Workbook := ⟨[
  ⟨"One", [some [.string "id", .string " "], some [.string "int", .string "int"]]⟩]⟩

/-- A workbook compiles to a schema that is not valid. -/
theorem invalid_spaceHeader :
    (run "Test.json" "Entity_Test" spaceHeader).success = true ∧
      (run "Test.json" "Entity_Test" spaceHeader).schema =
        some ⟨"Entity_Test", [⟨"id", .int⟩, ⟨"", .int⟩]⟩ ∧
      (TableSchema.mk "Entity_Test" [⟨"id", .int⟩, ⟨"", .int⟩]).validate =
        .error .emptyName ∧
      (Descriptor.ofSchema ⟨"Entity_Test", [⟨"id", .int⟩, ⟨"", .int⟩]⟩).toSchema =
        .error (.structural .emptyName) :=
  ⟨rfl, rfl, rfl, rfl⟩

end Compilation

end TypedSheets
