import TypedSheets.Json.Basic

/-!
# Records in JSON

A record with named fields is written as an object with a member for every field, or as an array of
the fields' values in order. `Json.record?` looks the fields up in either: a field given twice is an
error, as is an array with more items than there are fields; a member that is no field is passed
over, and a field may be missing. `Json.variant?` reads one of several names, written as a string or
as an object whose one member is the name with null.
-/

namespace TypedSheets.Json

/-- The values given for a field, in order. -/
def valuesOf (members : List (String × Json)) (field : String) : List Json :=
  (members.filter (·.1 == field)).map (·.2)

/-- The value of every field of a record, for those that are given. -/
def record? (fields : List String) : Json → Option (String → Option Json)
  | .object members =>
    if fields.all fun field => (valuesOf members field).length ≤ 1 then
      some fun field => (valuesOf members field).head?
    else none
  | .array items =>
    if items.length ≤ fields.length then
      some fun field => ((fields.zip items).find? (·.1 == field)).map (·.2)
    else none
  | _ => none

/-- The name that a document gives, out of several. -/
def variant? : Json → Option String
  | .string s => some s
  | .object [(name, .null)] => some name
  | _ => none

end TypedSheets.Json
