import TypedSheets.Record.Coercion
import TypedSheets.Descriptor.Basic

/-!
# Load errors

A load fails at a cell that does not fit its column, at a cell whose value an entity does not take,
or because there is no schema for the entity.
-/

namespace TypedSheets

/-- A cell that a load error points at. -/
structure CellPosition where
  sheet : String
  location : Location
  column : String
  deriving DecidableEq, Repr

/-- What makes a load fail. -/
inductive LoadFault
  | cell (position : CellPosition) (fault : CellFault)
  /-- An entity does not take the value of a column. -/
  | member (position : CellPosition) (reason : String)
  | noSchema (entity : String)
  | badDescriptor (fault : DescriptorFault)
  deriving DecidableEq, Repr

/-- A fault with the source in which it was found. -/
structure LoadError where
  source : String
  fault : LoadFault
  deriving DecidableEq, Repr

namespace LoadFault

/-- The code of a fault. -/
def code : LoadFault → String
  | .cell _ (.domain _ _) => "TBLC_LOAD_ENUM_DOMAIN"
  | .cell _ _ | .member _ _ => "TBLC_LOAD_COERCION"
  | .noSchema _ | .badDescriptor _ => "TBLC_LOAD_SCHEMA_UNAVAILABLE"

/-- The fault in words. -/
def message : LoadFault → String
  | .cell _ fault => fault.message
  | .member _ reason => reason
  | .noSchema entity => "No compiled schema for entity " ++ entity
  | .badDescriptor fault => fault.message

/-- The cell at fault, if it is one. -/
def position? : LoadFault → Option CellPosition
  | .cell position _ | .member position _ => some position
  | .noSchema _ | .badDescriptor _ => none

end LoadFault

namespace CellPosition

/-- The position in a message. -/
def text (p : CellPosition) : String :=
  "/" ++ p.sheet ++ " (" ++ p.location.text ++ ") field '" ++ p.column ++ "'"

end CellPosition

namespace LoadError

/-- The code of the fault. -/
def code (e : LoadError) : String :=
  e.fault.code

/-- The fault in words. -/
def message (e : LoadError) : String :=
  e.fault.message

/-- The error as a message of its own. -/
def text (e : LoadError) : String :=
  "[FATAL] " ++ e.code ++ ": " ++ e.source ++ ((e.fault.position?.map CellPosition.text).getD "") ++
    ": " ++ e.message

end LoadError

end TypedSheets
