import TypedSheets.Binary64.Integer
import TypedSheets.Record.Value
import TypedSheets.Workbook.Basic
import TypedSheets.Text.Blank
import TypedSheets.Text.Lowercase

/-!
# Coercing cells

`Cell.coerce` turns a cell into a value of a column type. Of a formula the stored result counts.
What is blank, absent or unknown becomes the zero value of the type; otherwise the kind of the cell
has to fit the type: a number in an integer column is rounded to the nearest integer, a string in a
column of an enumeration has to spell one of its values.
-/

namespace TypedSheets

open Text

/-- Why a cell does not fit a column. -/
inductive CellFault
  /-- A number outside the range of integers. -/
  | intRange (x : Binary64)
  /-- A cell of a kind that the type does not hold. -/
  | kind (type : TypeTag) (found : String)
  /-- A string that spells no value of an enumeration. -/
  | domain (text : String) (values : List String)
  deriving DecidableEq, Repr

/-- The fault in words. -/
def CellFault.message : CellFault → String
  | .intRange x => x.display ++ " does not fit in an int field"
  | .kind type found => type.name ++ " field cannot hold a " ++ found ++ " cell"
  | .domain text values => "'" ++ text ++ "' is not one of [" ++ ", ".intercalate values ++ "]"

/-- What a cell holds once formulas are resolved. -/
inductive Literal
  | text (s : String)
  | boolean (b : Bool)
  | numeric (x : Binary64)
  deriving DecidableEq, Repr

/-- The kind of a literal as messages name it. -/
def Literal.kind : Literal → String
  | .text _ => "string"
  | .boolean _ => "boolean"
  | .numeric _ => "numeric"

/-- The literal that a cell stands for, if it stands for any. -/
def Cell.literal? : Cell → Option Literal
  | .blank | .unknown => none
  | .string s => some (.text s)
  | .boolean b => some (.boolean b)
  | .numeric x => some (.numeric x)
  | .formula _ (some (.string s)) => some (.text s)
  | .formula _ (some (.boolean b)) => some (.boolean b)
  | .formula _ (some (.numeric x)) => some (.numeric x)
  | .formula _ (some .error) | .formula _ none => none

/-- The nearest integer of 64 bits, ties going to the even one. -/
def coerceInt (x : Binary64) : Except CellFault Int64 :=
  let rounded := x.roundEven
  -- the largest integer of 64 bits is rounded to 2 ^ 63 here, which is itself out of range
  if !rounded.isFinite || rounded.lt (.ofInt Int64.minValue.toInt) ||
      (Binary64.ofInt Int64.maxValue.toInt).le rounded then
    .error (.intRange x)
  else .ok rounded.toInt64

/-- The value of an enumeration that a text spells, in any letter case and with blanks around it. -/
def coerceEnum (domain : List String) (text : String) : Except CellFault Value :=
  let wanted := onChars (fun s => lowercase (trim s)) text
  match domain.findIdx? (· == wanted) with
  | some i => .ok (.enum i (domain.getD i ""))
  | none => .error (.domain text domain)

/-- The value of a literal in a column of a type. -/
def Literal.coerce (l : Literal) (type : ColumnType) : Except CellFault Value :=
  match type, l with
  | .string, .text s => .ok (.string s)
  | .bool, .boolean b => .ok (.bool b)
  | .float, .numeric x => .ok (.float x)
  | .int, .numeric x => (coerceInt x).map .int
  | .enum domain, .text s => coerceEnum domain s
  | type, l => .error (.kind type.tag l.kind)

/-- The value of a column in a row whose cell there may be absent. -/
def Cell.coerce (type : ColumnType) (cell : Option Cell) : Except CellFault Value :=
  match cell.bind Cell.literal? with
  | none => .ok (Value.zero type)
  | some l => l.coerce type

end TypedSheets
