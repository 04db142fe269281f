import TypedSheets.Text.Blank

/-!
# Templates

A template is a text with placeholders, which start with a hash sign. `fill` goes from one hash sign
to the next and puts a value in the place of a placeholder that begins there, so that a value is
never searched for placeholders. Where several placeholders begin at one position, the first in the
list is meant; a hash sign that begins none stays.
-/

namespace TypedSheets.Text

/-- Puts the values of placeholders in their place. -/
def fill (subs : List (List Char × List Char)) (template : List Char) : List Char :=
  match h : template.dropWhile (· ≠ '#') with
  | [] => template
  | hash :: rest =>
    have : rest.length < template.length := length_lt_of_dropWhile h
    template.takeWhile (· ≠ '#') ++
      match subs.find? fun sub => sub.1.isPrefixOf (hash :: rest) with
      -- the hash sign is the first character of the placeholder
      | some (key, value) => value ++ fill subs (rest.drop (key.length - 1))
      | none => hash :: fill subs rest
termination_by template.length
decreasing_by
  · rw [List.length_drop]
    omega
  · assumption

/-- `fill` on strings. -/
def fillString (subs : List (String × String)) (template : String) : String :=
  onChars (fill (subs.map fun (key, value) => (key.toList, value.toList))) template

end TypedSheets.Text
