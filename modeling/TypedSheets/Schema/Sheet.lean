import TypedSheets.Schema.Rejection
import TypedSheets.Schema.Table

/-!
# The schema of a sheet

The first row of a sheet is its header: names up to the first blank cell (`headerNames`). The second
row has a type below every name (`typeColumns`). A sheet without a name in its header is empty and
declares nothing.

The sheets of a workbook have to agree. `Agreement` holds the names and the types that the sheets
before have fixed: the first sheet to give them fixes them, and every later one has to give the
same. `readSheet` reads a sheet under an agreement; whatever was fixed stays fixed when the sheet is
rejected.
-/

namespace TypedSheets

open Text

/-- A header cell's text as a column name. -/
def columnName (cell : String) : String :=
  onChars (fun s => lowercase (trim s)) cell

/-- The names in a header from position `i` on, `seen` being those before. -/
def headerNamesFrom (i : Nat) (seen : List String) : Row → Except SheetFault (List String)
  | [] => .ok []
  | .blank :: _ => .ok []
  | .string s :: rest =>
    let name := columnName s
    if name ∈ seen then .error ⟨.duplicateField name, some ⟨0, i⟩⟩
    else (headerNamesFrom (i + 1) (name :: seen) rest).map (name :: ·)
  | cell :: _ => .error ⟨.unknownHeaderCell cell.kind, some ⟨0, i⟩⟩

/-- The names in a header. -/
def headerNames (header : Row) : Except SheetFault (List String) :=
  headerNamesFrom 0 [] header

/-- The type that a cell of the type row declares. -/
def typeOfCell (location : Location) : Option Cell → Except SheetFault ColumnType
  | none | some .blank => .error ⟨.missingType, some location⟩
  | some (.string s) => (ColumnType.parse s).mapError (SheetFault.ofTypeCell · location)
  | some cell => .error ⟨.unsupportedType ("<" ++ cell.kind ++ " cell>"), some location⟩

/-- The columns with the given names from position `i` on, typed by the type row. -/
def typeColumnsFrom (types : Row) (i : Nat) : List String → Except SheetFault (List Column)
  | [] => .ok []
  | name :: rest =>
    match typeOfCell ⟨1, i⟩ types[i]? with
    | .error e => .error e
    | .ok type => (typeColumnsFrom types (i + 1) rest).map (⟨name, type⟩ :: ·)

/-- The columns with the given names, typed by the type row. -/
def typeColumns (types : Option Row) (names : List String) : Except SheetFault (List Column) :=
  match types with
  | none => .error ⟨.missingTypeRow, none⟩
  | some row => typeColumnsFrom row 0 names

/-- What a sheet declares. -/
inductive SheetSchema
  | empty
  | columns (columns : List Column)
  deriving DecidableEq, Repr

/-- The names and types that sheets have fixed. -/
structure Agreement where
  names : Option (List String) := none
  types : Option (List ColumnType) := none
  deriving DecidableEq, Repr

namespace Agreement

/-- Nothing is fixed yet. -/
def fresh : Agreement := {}

/-- Whether both names and types are fixed. -/
def isComplete (a : Agreement) : Bool :=
  a.names.isSome && a.types.isSome

/-- The schema that is fixed, once it has both names and types. -/
def schema? (a : Agreement) (entity : String) : Option TableSchema :=
  match a.names, a.types with
  | some names, some types => some ⟨entity, List.zipWith Column.mk names types⟩
  | _, _ => none

/-- Fixes names, or compares them with those that are fixed. -/
def fixNames (a : Agreement) (names : List String) : Except SheetFault Agreement :=
  match a.names with
  | none => .ok { a with names := some names }
  | some expected =>
    if expected = names then .ok a else .error ⟨.headerMismatch expected names, none⟩

/-- Fixes types, or compares them with those that are fixed. -/
def fixTypes (a : Agreement) (types : List ColumnType) : Except SheetFault Agreement :=
  match a.types with
  | none => .ok { a with types := some types }
  | some expected =>
    if expected = types then .ok a else .error ⟨.typeMismatch expected types, none⟩

/-- Reads a header. A header without names fixes nothing. -/
def readHeader (a : Agreement) (header : Row) : Agreement × Except SheetFault (List String) :=
  match headerNames header with
  | .error e => (a, .error e)
  | .ok [] => (a, .ok [])
  | .ok names =>
    match a.fixNames names with
    | .error e => (a, .error e)
    | .ok a => (a, .ok names)

/-- Reads a type row below the given names. -/
def readTypes (a : Agreement) (types : Option Row) (names : List String) :
    Agreement × Except SheetFault (List Column) :=
  match typeColumns types names with
  | .error e => (a, .error e)
  | .ok columns =>
    match a.fixTypes (columns.map (·.type)) with
    | .error e => (a, .error e)
    | .ok a => (a, .ok columns)

/-- Reads the two schema rows of a sheet. -/
def readSheet (a : Agreement) (sheet : Sheet) : Agreement × Except SheetFault SheetSchema :=
  match sheet.row? 0 with
  | none => (a, .ok .empty)
  | some header =>
    match a.readHeader header with
    | (a, .error e) => (a, .error e)
    | (a, .ok []) => (a, .ok .empty)
    | (a, .ok names) =>
      match a.readTypes (sheet.row? 1) names with
      | (a, .error e) => (a, .error e)
      | (a, .ok columns) => (a, .ok (.columns columns))

end Agreement

/-- The schema of a sheet read on its own. -/
def Sheet.schema (sheet : Sheet) : Except SheetFault SheetSchema :=
  (Agreement.fresh.readSheet sheet).2

end TypedSheets
