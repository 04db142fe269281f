import TypedSheets.Schema.ColumnType
import TypedSheets.Json.Record
import TypedSheets.Json.Printer

/-!
# Table schemas

A `TableSchema` names an entity and lists its columns in order. `validate` checks what a schema has
to satisfy to be read back from a declaration: names that are not empty and differ, and enumerations
with values. A schema is written as JSON by `toJson` and read by `ofJson?`, which does not validate
it.
-/

namespace TypedSheets

/-- A named column of a type. -/
structure Column where
  name : String
  type : ColumnType
  deriving DecidableEq, Repr

/-- The columns of an entity. -/
structure TableSchema where
  entity : String
  columns : List Column
  deriving DecidableEq, Repr

/-- Why a schema cannot be read back from a declaration. -/
inductive StructureFault
  | emptyName
  | duplicate (name : String)
  | emptyDomain (name : String)
  deriving DecidableEq, Repr

/-- The fault in words. -/
def StructureFault.message : StructureFault → String
  | .emptyName => "Column names must not be empty"
  | .duplicate name => s!"Duplicate column '{name}'"
  | .emptyDomain name => s!"Enum column '{name}' has an empty domain"

namespace TableSchema

/-- The names of the columns. -/
def names (s : TableSchema) : List String :=
  s.columns.map (·.name)

/-- The written forms of the column types. -/
def types (s : TableSchema) : List String :=
  s.columns.map (·.type.canonical)

/-- The position of the first column with a name. -/
def position? (s : TableSchema) (name : String) : Option Nat :=
  s.columns.findIdx? (·.name == name)

/-- The first column with a name. -/
def column? (s : TableSchema) (name : String) : Option Column :=
  s.columns.find? (·.name == name)

/-- Checks columns from left to right, `seen` being the names before. -/
def validateColumns (seen : List String) : List Column → Except StructureFault Unit
  | [] => .ok ()
  | c :: rest =>
    if c.name = "" then .error .emptyName
    else if c.name ∈ seen then .error (.duplicate c.name)
    else if c.type.domain? = some [] then .error (.emptyDomain c.name)
    else validateColumns (c.name :: seen) rest

/-- Checks that names are there and differ, and that enumerations have values. -/
def validate (s : TableSchema) : Except StructureFault Unit :=
  validateColumns [] s.columns

end TableSchema

/-! ## JSON -/

/-- A type as members of a column's object. -/
def ColumnType.members (t : ColumnType) : List (String × Json) :=
  let tag := ("type", .string t.tag.name)
  match t.domain? with
  | none => [tag]
  | some domain => [tag, ("domain", Json.ofStrings domain)]

/-- The tag that a document names, by its name or by its position. -/
def TypeTag.ofJson? : Json → Option TypeTag
  | .string name => ofName? name
  | .number n =>
    if n.negative ∨ n.fraction ≠ [] ∨ n.exponent ≠ none then none else all[n.whole]?
  | _ => none

/-- The type that an object names. Only what the type needs counts. -/
def ColumnType.ofMembers? (members : List (String × Json)) : Option ColumnType := do
  let typeField ← Json.record? ["type"] (.object members)
  match ← TypeTag.ofJson? (← typeField "type") with
  | .int => return .int
  | .bool => return .bool
  | .float => return .float
  | .string => return .string
  | .enum =>
    let domainField ← Json.record? ["domain"] (.object members)
    let values ← (← domainField "domain").array?
    return .enum (← values.mapM Json.str?)

namespace Column

/-- The column as an object. -/
def toJson (c : Column) : Json :=
  .object (("name", .string c.name) :: c.type.members)

/-- The column that an object stands for. -/
def ofJson? : Json → Option Column
  | .object members => do
    let field ← Json.record? ["name"] (.object members)
    let name ← (← field "name").str?
    return ⟨name, ← ColumnType.ofMembers? members⟩
  | _ => none

end Column

namespace TableSchema

/-- The schema as an object. -/
def toJson (s : TableSchema) : Json :=
  .object [("entity_name", .string s.entity), ("columns", .array (s.columns.map Column.toJson))]

/-- The schema that a document stands for. It is not validated. -/
def ofJson? (j : Json) : Option TableSchema := do
  let field ← j.record? ["entity_name", "columns"]
  let entity ← (← field "entity_name").str?
  let columns ← (← field "columns").array?
  return ⟨entity, ← columns.mapM Column.ofJson?⟩

end TableSchema

end TypedSheets
