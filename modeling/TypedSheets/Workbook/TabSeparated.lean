import TypedSheets.Workbook.Basic
import TypedSheets.Binary64.Rounding
import TypedSheets.Json.Basic
import TypedSheets.Text.Split

/-!
# Tab-separated text

A text of lines with fields between tabs is a workbook of one sheet. A field that spells a natural
number below `2 ^ 32` is numeric, an empty one blank, every other one a string.
-/

namespace TypedSheets

/-- The number that a field spells, a plus sign in front allowed. -/
def fieldNumber? (field : List Char) : Option Nat :=
  let ds := match field with
    | '+' :: ds => ds
    | ds => ds
  if ds ≠ [] ∧ ds.all Char.isDigit ∧
    digitsValue 0 ds < UInt32.size then some (digitsValue 0 ds) else none

/-- The cell for a field. -/
def Cell.ofField (field : List Char) : Cell :=
  match fieldNumber? field with
  | some n => .numeric (Binary64.ofInt n)
  | none => if field = [] then .blank else .string (String.ofList field)

/-- The workbook that a text of lines is. -/
def Workbook.ofTabSeparated (text : String) : Workbook :=
  let rows := (Text.splitOn '\n' text.toList).map fun line =>
    some ((Text.splitOn '\t' line).map Cell.ofField)
  ⟨[⟨"Tsv", rows⟩]⟩

end TypedSheets
