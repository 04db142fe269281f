import TypedSheets.Schema.ColumnType
import TypedSheets.Text.Blank
import TypedSheets.Text.Lowercase
import TypedSheets.Text.Split

/-!
# Type cells

A type cell is a tag, for an enumeration followed by a bar and its values between commas. Blank
characters and letter case do not count: `normal` removes both. `ColumnType.parse` reads a type cell
and says why it is none (`TypeCellError`).
-/

namespace TypedSheets

open Text

/-- What is wrong with the values of an enumeration. -/
inductive EnumFault
  | extraSeparator
  | missingList
  | emptyList
  | emptyValue
  | repeatedValue (value : String)
  deriving DecidableEq, Repr

/-- The fault in words. -/
def EnumFault.message : EnumFault → String
  | .extraSeparator => "more than one '|' separator"
  | .missingList => "missing value list"
  | .emptyList => "empty value list"
  | .emptyValue => "empty value in list"
  | .repeatedValue value => s!"repeated value '{value}'"

/-- Why a cell declares no type. -/
inductive TypeCellError
  | unsupported (type : String)
  | illFormedEnum (fault : EnumFault)
  deriving DecidableEq, Repr

/-- The error in words. -/
def TypeCellError.message : TypeCellError → String
  | .unsupported type => s!"type '{type}' is unsupported"
  | .illFormedEnum fault => "ill-formed enum: " ++ fault.message

namespace ColumnType

/-- A type cell without blank characters, in lower case. -/
def normal (cell : List Char) : List Char :=
  lowercase (squeeze cell)

/-- Checks the values of an enumeration from left to right, `seen` being those before. -/
def checkValues (seen : List String) : List String → Except EnumFault Unit
  | [] => .ok ()
  | value :: rest =>
    if value = "" then .error .emptyValue
    else if value ∈ seen then .error (.repeatedValue value)
    else checkValues (value :: seen) rest

/-- The values of an enumeration as a type cell lists them. -/
def parseDomain (list : List Char) : Except EnumFault (List String) :=
  if list = [] then .error .emptyList
  else
    let values := (splitOn ',' list).map String.ofList
    (checkValues [] values).map fun _ => values

/-- The values of an enumeration, from what follows each bar. -/
def parseEnum : List (List Char) → Except EnumFault (List String)
  | [] => .error .missingList
  | [list] => parseDomain list
  | _ => .error .extraSeparator

/-- Reads a normal type cell, cut at its bars. -/
def parsePieces (normal : String) : List (List Char) → Except TypeCellError ColumnType
  | [] => .error (.unsupported "")
  | tag :: lists =>
    match TypeTag.ofName? (String.ofList tag) with
    | none => .error (.unsupported (String.ofList tag))
    | some .enum => ((parseEnum lists).map .enum).mapError .illFormedEnum
    | some tag =>
      if lists ≠ [] then .error (.unsupported normal)
      else match tag with
        | .int => .ok .int
        | .bool => .ok .bool
        | .float => .ok .float
        | _ => .ok .string

/-- The type that a type cell declares. -/
def parse (cell : String) : Except TypeCellError ColumnType :=
  let normal := normal cell.toList
  parsePieces (String.ofList normal) (splitOn '|' normal)

end ColumnType

end TypedSheets
