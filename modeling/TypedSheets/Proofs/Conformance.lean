import TypedSheets.Proofs.FirstFault
import TypedSheets.Proofs.Validity

/-!
# Records conform to their schema

`Value.HasType` are the values that a column of a type can hold: of an enumeration, those that carry
the spelling declared at their position. A cell that coerces gives such a value, and so does a blank
one if an enumeration has a first value (`Cell.hasType_of_coerce`). A record has one for each
column, under the name of the column if the names differ (`TableSchema.Yields.conforms`).

Main statement: `Loader.conforms_of_load`.
-/

namespace TypedSheets

/-- A value is one of a type. -/
inductive Value.HasType : Value → ColumnType → Prop
  | int (n : Int64) : HasType (.int n) .int
  | bool (b : Bool) : HasType (.bool b) .bool
  | float (x : Binary64) : HasType (.float x) .float
  | string (s : String) : HasType (.string s) .string
  | enum {domain : List String} {ordinal : Nat} {label : String}
      (h : domain[ordinal]? = some label) : HasType (.enum ordinal label) (.enum domain)

theorem Value.HasType.tag_eq {v : Value} {type : ColumnType} (h : v.HasType type) :
    v.tag = type.tag := by
  cases h <;> rfl

/-- A value of an enumeration is the declared one at its position. -/
theorem Value.HasType.exists_domain {ordinal : Nat} {label : String} {type : ColumnType}
    (h : (Value.enum ordinal label).HasType type) :
    ∃ domain, type = .enum domain ∧ ordinal < domain.length ∧
      domain[ordinal]? = some label := by
  cases h with
  | enum hlabel => exact ⟨_, rfl, (List.getElem?_eq_some_iff.mp hlabel).1, hlabel⟩

/-! ## Cells -/

theorem Value.hasType_zero {type : ColumnType} (hdomain : type.domain? ≠ some []) :
    (zero type).HasType type := by
  cases type with
  | int => exact .int 0
  | bool => exact .bool false
  | float => exact .float Binary64.zero
  | string => exact .string ""
  | enum domain =>
    cases domain with
    | nil => exact absurd rfl hdomain
    | cons first rest => exact .enum rfl

theorem hasType_of_coerceEnum {domain : List String} {text : String} {v : Value}
    (h : coerceEnum domain text = .ok v) : v.HasType (.enum domain) := by
  simp only [coerceEnum] at h
  split at h
  · next i hfind =>
    obtain rfl := Except.ok.inj h
    obtain ⟨hi, -⟩ := List.findIdx?_eq_some_iff_getElem.mp hfind
    exact .enum (by simp [List.getD_eq_getElem?_getD, List.getElem?_eq_getElem hi])
  · cases h

theorem Literal.hasType_of_coerce {l : Literal} {type : ColumnType} {v : Value}
    (h : l.coerce type = .ok v) : v.HasType type := by
  cases type with
  | int =>
    cases l with
    | numeric x =>
      obtain ⟨n, -, rfl⟩ := map_eq_ok_iff.mp h
      exact .int n
    | _ => cases h
  | bool =>
    cases l with
    | boolean b => exact Except.ok.inj h ▸ .bool b
    | _ => cases h
  | float =>
    cases l with
    | numeric x => exact Except.ok.inj h ▸ .float x
    | _ => cases h
  | string =>
    cases l with
    | text s => exact Except.ok.inj h ▸ .string s
    | _ => cases h
  | enum domain =>
    cases l with
    | text s => exact hasType_of_coerceEnum h
    | _ => cases h

/-- A cell that coerces gives a value of the type. -/
theorem Cell.hasType_of_coerce {type : ColumnType} {cell : Option Cell} {v : Value}
    (hdomain : type.domain? ≠ some []) (h : Cell.coerce type cell = .ok v) : v.HasType type := by
  unfold Cell.coerce at h
  split at h
  · exact Except.ok.inj h ▸ Value.hasType_zero hdomain
  · exact Literal.hasType_of_coerce h

/-! ## Records -/

/-- A record has a value of its type for each column, and gives it under the name of the column. -/
structure Record.Conforms (s : TableSchema) (r : Record) : Prop where
  length_eq : r.values.length = s.columns.length
  tag_eq : ∀ (i : Nat) (c : Column) v, s.columns[i]? = some c → r.values[i]? = some v →
    v.tag = c.type.tag
  label : ∀ (i : Nat) (c : Column) ordinal label, s.columns[i]? = some c →
    r.values[i]? = some (.enum ordinal label) →
      ∃ domain, c.type = .enum domain ∧ ordinal < domain.length ∧
        domain[ordinal]? = some label
  get? : ∀ (i : Nat) (c : Column), s.columns[i]? = some c →
    s.position? c.name = some i ∧ r.get? c.name = r.values[i]?

namespace TableSchema

variable {s : TableSchema}

/-- A column is found by its name where that is searched for among the names. -/
theorem position?_eq_findIdx? (name : String) :
    s.position? name = s.names.findIdx? (· == name) := by
  rw [names, List.findIdx?_map]
  rfl

/-- Where names differ, a column is found by its name. -/
theorem position?_eq_some (hnodup : s.names.Nodup) {i : Nat} {c : Column}
    (hcolumn : s.columns[i]? = some c) : s.position? c.name = some i := by
  rw [position?_eq_findIdx?]
  exact findIdx?_eq_some_of_nodup hnodup (by simp [names, hcolumn])

theorem get?_eq_bind {r : Record} (hnames : r.names = s.names) (name : String) :
    r.get? name = (s.position? name).bind fun i => r.values[i]? := by
  rw [Record.get?, hnames, position?_eq_findIdx?]

theorem Yields.conforms {row : Row} {r : Record} (h : s.Yields row r)
    (hvalid : s.validate = .ok ()) : r.Conforms s := by
  obtain ⟨hcolumns, hnodup⟩ := validate_eq_ok_iff.mp hvalid
  have htype : ∀ (i : Nat) (c : Column) v, s.columns[i]? = some c → r.values[i]? = some v →
      v.HasType c.type := by
    intro i c v hcolumn hv
    obtain ⟨value, hvalue, hcoerce⟩ := h.value hcolumn
    obtain rfl := Option.some.inj (hvalue.symm.trans hv)
    exact Cell.hasType_of_coerce (hcolumns c (List.mem_of_getElem? hcolumn)).2 hcoerce
  refine ⟨h.length_eq, fun i c v hcolumn hv => (htype i c v hcolumn hv).tag_eq,
    fun i c ordinal label hcolumn hv => (htype i c _ hcolumn hv).exists_domain,
    fun i c hcolumn => ?_⟩
  have hposition := position?_eq_some hnodup hcolumn
  exact ⟨hposition, by rw [get?_eq_bind h.names, hposition, Option.bind_some]⟩

end TableSchema

namespace Loader

/-- Every record that a load returns conforms to the schema, if the schema is valid. -/
theorem conforms_of_load {schema : TableSchema} (hvalid : schema.validate = .ok ())
    {source : String} {policy : Policy} {w : Workbook} {records : List Record}
    (h : ((mk schema source policy).loadWorkbook w).result = .ok records) :
    ∀ r ∈ records, r.Conforms schema := by
  intro r hr
  rw [loadWorkbook, loadSheets_eq_collect, Policy.collect_eq_ok_iff] at h
  obtain ⟨rfl, -⟩ := h
  obtain ⟨⟨sheet, row⟩, -, hload⟩ := List.mem_filterMap.mp hr
  have hyields : schema.Yields row.2 r := loadRow_eq_ok_iff.mp (toOption_eq_some_iff.mp hload)
  exact hyields.conforms hvalid

/-- An unknown cell, an absent one, and a row that is dropped for its color. -/
def shades : Workbook := ⟨[⟨"New", [some [], some [], some [.unknown, .string " GREEN "],
  some [.formula "=TRUE()" (some (.boolean true))], some [.boolean false, .string "purple"]]⟩]⟩

/-- The records of the two rows that load. -/
def shadeRecords : List Record := [
  ⟨["sold", "color"], [.bool false, .enum 1 "green"]⟩,
  ⟨["sold", "color"], [.bool true, .enum 0 "red"]⟩]

/-- The spelled color and the first one, which stands for the absent cell, are declared at their
positions. -/
theorem conforms_shades : colorSchema.validate = .ok () ∧
    ((mk colorSchema "Paints.json" .skipRow).loadWorkbook shades).result = .ok shadeRecords ∧
    ∀ r ∈ shadeRecords, r.Conforms colorSchema := by
  have hvalid : colorSchema.validate = .ok () := by decide +kernel
  have hload : ((mk colorSchema "Paints.json" .skipRow).loadWorkbook shades).result =
      .ok shadeRecords := by
    decide +kernel
  exact ⟨hvalid, hload, conforms_of_load hvalid hload⟩

end Loader

end TypedSheets
