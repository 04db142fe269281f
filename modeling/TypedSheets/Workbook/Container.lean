import TypedSheets.Workbook.Basic
import TypedSheets.Binary64.Reading
import TypedSheets.Json.Reader
import TypedSheets.Json.Printer
import TypedSheets.Json.Record

/-!
# The JSON container

A workbook is stored as a JSON document: `Workbook.ofJson?` reads it. Sheets are records with a
`name` and `rows`, an absent row is null and a blank cell is null. A cell that is an object is a
formula, with a `cached` result or without, or else has an `error` and is of unknown kind. How the
numerals of a document are read as numbers is a parameter (`NumberReading`); `Workbook.parse?` reads
them as `Binary64.ofNumeral?` does.
-/

namespace TypedSheets

/-- How deep a cell may be nested: a document is read to a depth of 127, and five levels enclose a
cell. -/
def cellDepth : Nat := 122

/-- How the numerals of a document are read as numbers. What is too large is not read. -/
abbrev NumberReading := Numeral → Option Binary64

variable (read : NumberReading)

/-- Whether a numeral is read as a number. -/
def Numeral.inRange (n : Numeral) : Bool :=
  (read n).isSome

namespace CachedResult

/-- The stored result that a document stands for. -/
def ofJson? : Json → Option CachedResult
  | .bool b => some (.boolean b)
  | .number n => (read n).map .numeric
  | .string s => some (.string s)
  | .object members => do
    let field ← Json.record? ["error"] (.object members)
    let _ ← (← field "error").str?
    return .error
  | _ => none

/-- The result that a formula has when `cached` is given with the formula or left out. -/
def ofField? : Option Json → Option (Option CachedResult)
  | none => some none
  | some .null => some none
  | some j => (ofJson? read j).map some

end CachedResult

namespace Cell

/-- The formula that an object with the field `formula` stands for. -/
def formulaOf? (members : List (String × Json)) : Option Cell := do
  let field ← Json.record? ["formula", "cached"] (.object members)
  let text ← (← field "formula").str?
  let cached ← CachedResult.ofField? read (field "cached")
  return .formula text cached

/-- The cell of unknown kind that an object with the field `error` stands for. -/
def unknownOf? (members : List (String × Json)) : Option Cell := do
  let field ← Json.record? ["error"] (.object members)
  let _ ← (← field "error").str?
  return .unknown

/-- The cell that a document stands for. All of an object has to be sound, what is passed over in it
included. -/
def ofJson? : Json → Option Cell
  | .null => some .blank
  | .bool b => some (.boolean b)
  | .number n => (read n).map .numeric
  | .string s => some (.string s)
  | .object members =>
    if (Json.object members).sound (Numeral.inRange read) ∧
      (Json.object members).depth ≤ cellDepth
    then (formulaOf? read members).or (unknownOf? members)
    else none
  | _ => none

end Cell

/-- The row slot that a document stands for. -/
def rowOfJson? : Json → Option (Option Row)
  | .null => some none
  | .array items => (items.mapM (Cell.ofJson? read)).map some
  | _ => none

/-- The sheet that a document stands for. It has no rows if `rows` is left out. -/
def Sheet.ofJson? (j : Json) : Option Sheet := do
  let field ← j.record? ["name", "rows"]
  let name ← (← field "name").str?
  let rows ← match field "rows" with
    | none => some []
    | some rows => rows.array?
  return ⟨name, ← rows.mapM (rowOfJson? read)⟩

/-- The workbook that a document stands for. -/
def Workbook.ofJson? (j : Json) : Option Workbook := do
  let field ← j.record? ["sheets"]
  let sheets ← (← field "sheets").array?
  return ⟨← sheets.mapM (Sheet.ofJson? read)⟩

/-- The workbook that a text stores, with numbers read in the given way. -/
def Workbook.parseBy? (text : String) : Option Workbook :=
  (Json.parse? text).bind (Workbook.ofJson? read)

/-- The workbook that a text stores. -/
def Workbook.parse? (text : String) : Option Workbook :=
  parseBy? Binary64.ofNumeral? text

end TypedSheets
