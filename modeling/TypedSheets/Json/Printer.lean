import TypedSheets.Json.Basic
import TypedSheets.Text.Hex

/-!
# Writing JSON

`compact` writes a document without blanks, `pretty` one item or member a line under an indentation
of two blanks. `sorted` puts the members of every object in order of their keys, of a repeated key
the last member.
-/

namespace TypedSheets

/-- The characters of a numeral; an exponent has its sign. -/
def Numeral.chars (n : Numeral) : List Char :=
  let sign := if n.negative then ['-'] else []
  let fraction := if n.fraction = [] then [] else '.' :: n.fraction
  let exponent := match n.exponent with
    | none => []
    | some e => 'e' :: (if e < 0 then '-' else '+') :: Nat.toDigits 10 e.natAbs
  sign ++ Nat.toDigits 10 n.whole ++ fraction ++ exponent

namespace Json

open TypedSheets.Text

/-- A character inside a string: quote, backslash and control characters are escaped. -/
def escape (c : Char) : List Char :=
  if c = '"' then ['\\', '"']
  else if c = '\\' then ['\\', '\\']
  else if c = '\x08' then ['\\', 'b']
  else if c = '\x0c' then ['\\', 'f']
  else if c = '\n' then ['\\', 'n']
  else if c = '\r' then ['\\', 'r']
  else if c = '\t' then ['\\', 't']
  else if c.toNat < 0x20 then '\\' :: 'u' :: hex4 c.toNat
  else [c]

/-- A text between quotes. -/
def quote (s : List Char) : List Char :=
  '"' :: (s.flatMap escape ++ ['"'])

mutual

/-- A document without blanks. -/
def compact : Json → List Char
  | .null => ['n', 'u', 'l', 'l']
  | .bool true => ['t', 'r', 'u', 'e']
  | .bool false => ['f', 'a', 'l', 's', 'e']
  | .number n => n.chars
  | .string s => quote s.toList
  | .garbled => '"' :: '\\' :: 'u' :: (hex4 0xD800 ++ ['"'])
  | .array items => '[' :: compactItems items
  | .object members => '\x7b' :: compactMembers members

/-- The items of an array, commas between them, and the closing bracket. -/
def compactItems : List Json → List Char
  | [] => [']']
  | [j] => j.compact ++ [']']
  | j :: k :: rest => j.compact ++ ',' :: compactItems (k :: rest)

/-- The members of an object, commas between them, and the closing brace. -/
def compactMembers : List (String × Json) → List Char
  | [] => ['\x7d']
  | [(key, j)] => quote key.toList ++ ':' :: (j.compact ++ ['\x7d'])
  | (key, j) :: m :: rest =>
    quote key.toList ++ ':' :: (j.compact ++ ',' :: compactMembers (m :: rest))

end

/-- A line feed and the indentation of a level. -/
def newline (level : Nat) : List Char :=
  '\n' :: List.replicate (2 * level) ' '

mutual

/-- A document that stands at a level of indentation. -/
def prettyAt (level : Nat) : Json → List Char
  | .array [] => ['[', ']']
  | .array (j :: rest) => '[' :: prettyItems (level + 1) (j :: rest) ++ newline level ++ [']']
  | .object [] => ['\x7b', '\x7d']
  | .object (m :: rest) =>
    '\x7b' :: prettyMembers (level + 1) (m :: rest) ++ newline level ++ ['\x7d']
  | j => j.compact

/-- The items of an array, each on a line of its own. -/
def prettyItems (level : Nat) : List Json → List Char
  | [] => []
  | [j] => newline level ++ j.prettyAt level
  | j :: k :: rest => newline level ++ j.prettyAt level ++ ',' :: prettyItems level (k :: rest)

/-- The members of an object, each on a line of its own. -/
def prettyMembers (level : Nat) : List (String × Json) → List Char
  | [] => []
  | [(key, j)] => newline level ++ quote key.toList ++ ':' :: ' ' :: j.prettyAt level
  | (key, j) :: m :: rest =>
    newline level ++ quote key.toList ++ ':' :: ' ' :: j.prettyAt level ++
      ',' :: prettyMembers level (m :: rest)

end

/-- The document on one line. -/
def render (j : Json) : String :=
  String.ofList j.compact

/-- The document over several lines. -/
def pretty (j : Json) : String :=
  String.ofList (j.prettyAt 0)

/-- Puts a member into members in order of their keys, in place of one with its key. -/
def insertSorted (key : String) (j : Json) : List (String × Json) → List (String × Json)
  | [] => [(key, j)]
  | (k, i) :: rest =>
    if key = k then (key, j) :: rest
    else if key < k then (key, j) :: (k, i) :: rest
    else (k, i) :: insertSorted key j rest

mutual

/-- The document with the members of every object in order of their keys. -/
def sorted : Json → Json
  | .array items => .array (sortedItems items)
  | .object members => .object (sortedMembers [] members)
  | j => j

/-- The items of an array, each sorted. -/
def sortedItems : List Json → List Json
  | [] => []
  | j :: rest => j.sorted :: sortedItems rest

/-- Puts members, each sorted, into those that are in order already. -/
def sortedMembers (done : List (String × Json)) : List (String × Json) → List (String × Json)
  | [] => done
  | (key, j) :: rest => sortedMembers (insertSorted key j.sorted done) rest

end

/-- An array of strings. -/
def ofStrings (items : List String) : Json :=
  .array (items.map .string)

/-- A natural number. -/
def ofNat (n : Nat) : Json :=
  .number (Numeral.ofInt n)

end Json

end TypedSheets
