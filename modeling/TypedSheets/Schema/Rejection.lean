import TypedSheets.Schema.TypeCell
import TypedSheets.Workbook.Basic

/-!
# Why a sheet is rejected

A `SheetFault` is what is wrong with the two schema rows of a sheet, with the place of the cell
where one cell is to blame. A `Rejection` is a fault together with the source and the sheet it was
found in.
-/

namespace TypedSheets

/-- What is wrong with the schema rows of a sheet. -/
inductive SheetFaultCause
  /-- A header cell that is neither a string nor blank. -/
  | unknownHeaderCell (kind : String)
  | unsupportedType (type : String)
  | illFormedEnum (fault : EnumFault)
  /-- A header cell has nothing below it. -/
  | missingType
  /-- There is no type row. -/
  | missingTypeRow
  | headerMismatch (expected actual : List String)
  | typeMismatch (expected actual : List ColumnType)
  | duplicateField (name : String)
  deriving DecidableEq, Repr

namespace SheetFaultCause

/-- The code of a fault. -/
def code : SheetFaultCause → String
  | unknownHeaderCell _ => "TBLC_UNKNOWN_HEADER_CELL"
  | unsupportedType _ => "TBLC_UNSUPPORTED_TYPE"
  | illFormedEnum _ => "TBLC_ILL_FORMED_ENUM"
  | missingType | missingTypeRow => "TBLC_MISSING_TYPE_DEFINITION"
  | headerMismatch _ _ => "TBLC_HEADER_MISMATCH"
  | typeMismatch _ _ => "TBLC_TYPE_MISMATCH"
  | duplicateField _ => "TBLC_DUPLICATE_FIELD"

/-- What is said when sheets disagree. -/
def mismatch (what : String) (expected actual : List String) : String :=
  what ++ " in different sheets should be identical: expected [" ++ ", ".intercalate expected ++
    "], got [" ++ ", ".intercalate actual ++ "]"

/-- The fault in words. -/
def message : SheetFaultCause → String
  | unknownHeaderCell kind => s!"Field name should be a string, found {kind} cell"
  | unsupportedType type => s!"Type '{type}' is unsupported"
  | illFormedEnum fault => "Ill-formed enum definition: " ++ fault.message
  | missingType => "Missing type definition for column"
  | missingTypeRow => "Missing type definitions"
  | headerMismatch expected actual => mismatch "Field names" expected actual
  | typeMismatch expected actual =>
    mismatch "Type definitions" (expected.map ColumnType.canonical)
      (actual.map ColumnType.canonical)
  | duplicateField name => s!"Field '{name}' is declared more than once"

end SheetFaultCause

/-- A fault with its place, where one cell is to blame. -/
structure SheetFault where
  cause : SheetFaultCause
  location : Option Location
  deriving DecidableEq, Repr

/-- The fault of a type cell at a place. -/
def SheetFault.ofTypeCell (e : TypeCellError) (location : Location) : SheetFault :=
  match e with
  | .unsupported type => ⟨.unsupportedType type, some location⟩
  | .illFormedEnum fault => ⟨.illFormedEnum fault, some location⟩

/-- A fault with the source and the sheet in which it was found. -/
structure Rejection where
  source : String
  sheet : String
  fault : SheetFault
  deriving DecidableEq, Repr

namespace Rejection

/-- The code of the fault. -/
def code (r : Rejection) : String :=
  r.fault.cause.code

/-- The fault in words. -/
def message (r : Rejection) : String :=
  r.fault.cause.message

/-- The place in a message, if there is one. -/
def locationText : Option Location → String
  | none => ""
  | some l => " (" ++ l.text ++ ")"

/-- The rejection as a message of its own. -/
def text (r : Rejection) : String :=
  "[REJECT] " ++ r.code ++ ": " ++ r.source ++ "/" ++ r.sheet ++ locationText r.fault.location ++
    ": " ++ r.message

end Rejection

end TypedSheets
