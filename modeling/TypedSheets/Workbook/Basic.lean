import TypedSheets.Binary64.Basic

/-!
# Workbooks

A `Workbook` is a list of sheets, a `Sheet` a name and row slots, and a row the list of its cells. A
row slot may be empty, and there are no cells right of the end of a row: both are absent, which is
not the same as blank.
-/

namespace TypedSheets

/-- The stored result of a formula. -/
inductive CachedResult
  | string (s : String)
  | boolean (b : Bool)
  | numeric (x : Binary64)
  | error
  deriving DecidableEq, Repr

/-- What a cell holds. -/
inductive Cell
  | blank
  | string (s : String)
  | boolean (b : Bool)
  | numeric (x : Binary64)
  | formula (text : String) (cached : Option CachedResult)
  | unknown
  deriving DecidableEq, Repr

/-- The kind of a cell as messages name it. -/
def Cell.kind : Cell → String
  | .blank => "blank"
  | .string _ => "string"
  | .boolean _ => "boolean"
  | .numeric _ => "numeric"
  | .formula _ _ => "formula"
  | .unknown => "unknown"

/-- The cells of a row from left to right. -/
abbrev Row := List Cell

/-- A name with row slots, some of which may be empty. -/
structure Sheet where
  name : String
  rows : List (Option Row)
  deriving DecidableEq, Repr

/-- The row in slot `i`, unless it is absent. -/
def Sheet.row? (sheet : Sheet) (i : Nat) : Option Row :=
  (sheet.rows[i]?).join

/-- The sheets of a document in order. -/
structure Workbook where
  sheets : List Sheet
  deriving DecidableEq, Repr

/-- A place in a sheet, counted from zero. -/
structure Location where
  row : Nat
  column : Nat
  deriving DecidableEq, Repr

/-- A place as messages give it, counted from one. -/
def Location.text (l : Location) : String :=
  "row " ++ toString (l.row + 1) ++ ", column " ++ toString (l.column + 1)

end TypedSheets
