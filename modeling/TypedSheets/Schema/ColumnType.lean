/-!
# Column types

A column holds integers, truth values, floating-point numbers, strings or one of the values of an
enumeration, whose order is the declared one. `canonical` is the written form of a type.
-/

namespace TypedSheets

/-- The kind of a column type. -/
inductive TypeTag
  | int
  | bool
  | float
  | string
  | enum
  deriving DecidableEq, Repr

namespace TypeTag

/-- The tags there are. -/
def all : List TypeTag := [.int, .bool, .float, .string, .enum]

/-- The word for a tag. -/
def name : TypeTag → String
  | .int => "int"
  | .bool => "bool"
  | .float => "float"
  | .string => "string"
  | .enum => "enum"

/-- The tag that a word stands for. -/
def ofName? (name : String) : Option TypeTag :=
  all.find? (·.name == name)

end TypeTag

/-- What the cells of a column hold. -/
inductive ColumnType
  | int
  | bool
  | float
  | string
  | enum (domain : List String)
  deriving DecidableEq, Repr

namespace ColumnType

/-- The kind of a type. -/
def tag : ColumnType → TypeTag
  | .int => .int
  | .bool => .bool
  | .float => .float
  | .string => .string
  | .enum _ => .enum

/-- The values of an enumeration. -/
def domain? : ColumnType → Option (List String)
  | .enum domain => some domain
  | _ => none

/-- The written form of a type: its tag, for an enumeration with its values. -/
def canonical : ColumnType → String
  | .enum domain => "enum|" ++ ",".intercalate domain
  | t => t.tag.name

end ColumnType

end TypedSheets
