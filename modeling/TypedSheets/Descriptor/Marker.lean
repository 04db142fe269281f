import TypedSheets.Descriptor.Basic
import TypedSheets.Text.QuotedList
import TypedSheets.Text.Split

/-!
# Marker lines

A declaration carries its descriptor in three marker lines, one each for the entity, the names and
the types of its fields. `markerValue?` finds what follows a marker on its line, and
`Descriptor.extract?` reads the three lines of a text.
-/

namespace TypedSheets

open Text

namespace Marker

/-- Stands before the name of the entity. -/
def entity : String := "tablec:entity"

/-- Stands before the quoted names of the fields. -/
def names : String := "tablec:fieldnames"

/-- Stands before the quoted types of the fields. -/
def types : String := "tablec:fieldtypes"

end Marker

/-- What follows a marker on a line, unless the marker is only the beginning of a longer word. -/
def valueOnLine? (marker line : List Char) : Option (List Char) :=
  match after? marker line with
  | some [] => some []
  | some (c :: rest) => if isBlank c then some (trim (c :: rest)) else none
  | none => none

/-- What follows a marker on the first line that has it. -/
def markerValue? (marker text : String) : Option String :=
  ((lines text.toList).findSome? (valueOnLine? marker.toList)).map String.ofList

/-- The descriptor in the marker lines of a text. -/
def Descriptor.extract? (text : String) : Option Descriptor := do
  let entity ← markerValue? Marker.entity text
  let names ← unquoteStrings? (← markerValue? Marker.names text)
  let types ← unquoteStrings? (← markerValue? Marker.types text)
  if entity = "" ∨ names.length ≠ types.length then none
  else return ⟨entity, names, types⟩

end TypedSheets
