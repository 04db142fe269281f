import TypedSheets.Schema.Table
import TypedSheets.Binary64.Text

/-!
# Values and records

A `Value` is what a field of a record holds, a `Record` a value for every column of a schema with
the names of the columns. A record is written as a JSON object with its fields in order of the
columns, an enumeration by its label.
-/

namespace TypedSheets

/-- What a field of a record holds. -/
inductive Value
  | int (n : Int64)
  | bool (b : Bool)
  | float (x : Binary64)
  | string (s : String)
  /-- A value of an enumeration: its position there and its spelling. -/
  | enum (ordinal : Nat) (label : String)
  deriving DecidableEq, Repr

namespace Value

/-- The kind of column that a value is for. -/
def tag : Value → TypeTag
  | .int _ => .int
  | .bool _ => .bool
  | .float _ => .float
  | .string _ => .string
  | .enum _ _ => .enum

/-- The value of a field whose cell is blank. -/
def zero : ColumnType → Value
  | .int => .int 0
  | .bool => .bool false
  | .float => .float Binary64.zero
  | .string => .string ""
  | .enum domain => .enum 0 (domain.headD "")

/-- The integer that a value is. -/
def int? : Value → Option Int64
  | .int n => some n
  | _ => none

/-- The truth value that a value is. -/
def bool? : Value → Option Bool
  | .bool b => some b
  | _ => none

/-- The floating-point number that a value is. -/
def float? : Value → Option Binary64
  | .float x => some x
  | _ => none

/-- The string that a value is. -/
def string? : Value → Option String
  | .string s => some s
  | _ => none

/-- The position of a value in its enumeration. -/
def ordinal? : Value → Option Nat
  | .enum ordinal _ => some ordinal
  | _ => none

/-- The spelling of a value in its enumeration. -/
def label? : Value → Option String
  | .enum _ label => some label
  | _ => none

/-- The value in a message. -/
def display : Value → String
  | .int n => toString n.toInt
  | .bool b => if b then "true" else "false"
  | .float x => x.display
  | .string s => s
  | .enum _ label => label

/-- The value in a file of records. -/
def toJson : Value → Json
  | .int n => .number (Numeral.ofInt n.toInt)
  | .bool b => .bool b
  | .float x => x.toJson
  | .string s => .string s
  | .enum _ label => .string label

end Value

/-- A value for every column of a schema. -/
structure Record where
  names : List String
  values : List Value
  deriving DecidableEq, Repr

namespace Record

/-- The fields in order of the columns. -/
def fields (r : Record) : List (String × Value) :=
  r.names.zip r.values

/-- The value of the first column with a name. -/
def get? (r : Record) (name : String) : Option Value :=
  (r.names.findIdx? (· == name)).bind fun i => r.values[i]?

/-- The record in a file of records. -/
def toJson (r : Record) : Json :=
  .object (r.fields.map fun (name, value) => (name, value.toJson))

end Record

end TypedSheets
