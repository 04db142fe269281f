import TypedSheets.Schema.Sheet

/-!
# Descriptors

A `Descriptor` is what a generated declaration says about its schema: the entity, the names of its
fields and the written forms of their types. It is made from a schema (`ofSchema`), gives the schema
back (`toSchema`), and is compared with a workbook to find out whether the declaration is still
current (`isCurrent`).
-/

namespace TypedSheets

/-- What a declaration says about its schema. -/
structure Descriptor where
  entity : String
  names : List String
  types : List String
  deriving DecidableEq, Repr

/-- Why a descriptor gives no schema. -/
inductive DescriptorFault
  | lengths (entity : String) (names types : Nat)
  | field (name : String) (error : TypeCellError)
  | structural (fault : StructureFault)
  deriving DecidableEq, Repr

/-- The fault in words. -/
def DescriptorFault.message : DescriptorFault → String
  | .lengths entity names types =>
    "Descriptor for " ++ entity ++ " has " ++ toString names ++ " names but " ++ toString types ++
      " types"
  | .field name error => "Descriptor field '" ++ name ++ "': " ++ error.message
  | .structural fault => fault.message

namespace Descriptor

/-- The descriptor of a schema. -/
def ofSchema (s : TableSchema) : Descriptor :=
  ⟨s.entity, s.names, s.types⟩

/-- Columns from names and written types, of which there are equally many. -/
def columns : List (String × String) → Except DescriptorFault (List Column)
  | [] => .ok []
  | (name, type) :: rest =>
    match ColumnType.parse type with
    | .error e => .error (.field name e)
    | .ok type => (columns rest).map (⟨name, type⟩ :: ·)

/-- The schema that a descriptor describes. -/
def toSchema (d : Descriptor) : Except DescriptorFault TableSchema :=
  if d.names.length ≠ d.types.length then
    .error (.lengths d.entity d.names.length d.types.length)
  else
    match columns (d.names.zip d.types) with
    | .error e => .error e
    | .ok columns =>
      let schema : TableSchema := ⟨d.entity, columns⟩
      match schema.validate with
      | .error e => .error (.structural e)
      | .ok () => .ok schema

/-- Whether an agreement has fixed just the names and types of a descriptor. -/
def describes (d : Descriptor) (a : Agreement) : Bool :=
  match a.names, a.types with
  | some names, some types => names == d.names && types.map ColumnType.canonical == d.types
  | _, _ => false

/-- Whether a descriptor still describes a workbook, going by the first sheet alone. -/
def isCurrent (d : Descriptor) (workbook : Workbook) : Bool :=
  match workbook.sheets with
  | [] => false
  | first :: _ =>
    match Agreement.fresh.readSheet first with
    | (_, .error _) => false
    | (a, .ok _) => d.describes a

end Descriptor

/-- Whether a workbook has to be compiled, given the descriptor of its last compilation, if any. -/
def needsCompile (existing : Option Descriptor) (workbook : Workbook) : Bool :=
  match existing with
  | none => true
  | some d => !d.isCurrent workbook

end TypedSheets
