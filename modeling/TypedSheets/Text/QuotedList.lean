import TypedSheets.Text.Blank

/-!
# Lists of quoted items

A list of texts is written with every item in double quotes and a comma and a blank between two
items (`quoteList`). `unquoteList?` reads such a list item by item, with any blank characters around
the commas; there is no way to write a double quote inside an item.
-/

namespace TypedSheets.Text

/-- An item in double quotes. -/
def inQuotes (item : List Char) : List Char :=
  '"' :: (item ++ ['"'])

/-- The items in double quotes, with a comma and a blank between them. -/
def quoteList : List (List Char) → List Char
  | [] => []
  | [item] => inQuotes item
  | item :: next :: rest => inQuotes item ++ ',' :: ' ' :: quoteList (next :: rest)

/-- An item in double quotes at the start of a text, with what follows it. -/
def readQuoted? : List Char → Option (List Char × List Char)
  | '"' :: body =>
    match body.dropWhile (· ≠ '"') with
    | [] => none
    | _ :: rest => some (body.takeWhile (· ≠ '"'), rest)
  | _ => none

theorem length_lt_of_readQuoted? {s item rest : List Char} (h : readQuoted? s = some (item, rest)) :
    rest.length < s.length := by
  unfold readQuoted? at h
  split at h
  · next body =>
    split at h
    · contradiction
    · next hbody =>
      obtain ⟨-, rfl⟩ : _ ∧ _ := by simpa using h
      exact Nat.lt_succ_of_lt (length_lt_of_dropWhile hbody)
  · contradiction

/-- Reads a list of one item at least. -/
def unquoteItems? (s : List Char) : Option (List (List Char)) :=
  match h : readQuoted? s with
  | none => none
  | some (item, rest) =>
    match h' : trimStart rest with
    | [] => some [item]
    | ',' :: after =>
      have : (trimStart after).length < s.length :=
        Nat.lt_of_le_of_lt (List.dropWhile_suffix isBlank).length_le
          (Nat.lt_trans (length_lt_of_dropWhile h') (length_lt_of_readQuoted? h))
      (unquoteItems? (trimStart after)).map (item :: ·)
    | _ => none
termination_by s.length

/-- The items of a written list; a blank text is the empty list. -/
def unquoteList? (s : List Char) : Option (List (List Char)) :=
  match trim s with
  | [] => some []
  | c :: rest => unquoteItems? (c :: rest)

/-- `quoteList` on strings. -/
def quoteStrings (items : List String) : String :=
  String.ofList (quoteList (items.map String.toList))

/-- `unquoteList?` on strings. -/
def unquoteStrings? (s : String) : Option (List String) :=
  (unquoteList? s.toList).map fun items => items.map String.ofList

end TypedSheets.Text
