import TypedSheets.Json.Basic
import TypedSheets.Text.Hex

/-!
# Reading JSON

`Json.parse?` reads a text as one document, strictly: no comma too many, no leading zero, no raw
control character in a string, nothing after the document but blanks. Every reader takes the
characters that are left and returns what it read with those that are then left; the readers that
call each other count down a number of steps, which the length of the text bounds.
-/

namespace TypedSheets.Json

open TypedSheets.Text

/-- The blanks of a document, fewer than those of Unicode. -/
def isBlank (c : Char) : Bool :=
  c == ' ' || c == '\n' || c == '\t' || c == '\r'

/-- The text from its first character on that is no blank. -/
def skipBlanks (s : List Char) : List Char :=
  s.dropWhile isBlank

/-- What follows `word` in a text that starts with it. -/
def expect? (word : List Char) (s : List Char) : Option (List Char) :=
  if word.isPrefixOf s then some (s.drop word.length) else none

/-! ## Numbers -/

/-- One digit at least, as many as there are. -/
def readDigits? (s : List Char) : Option (List Char × List Char) :=
  match s.takeWhile Char.isDigit with
  | [] => none
  | ds => some (ds, s.dropWhile Char.isDigit)

/-- Digits without a zero in front, unless it is the only one. -/
def readWhole? (s : List Char) : Option (Nat × List Char) :=
  match s with
  | '0' :: rest =>
    match rest with
    | c :: _ => if c.isDigit then none else some (0, rest)
    | [] => some (0, rest)
  | _ => (readDigits? s).map fun (ds, rest) => (digitsValue 0 ds, rest)

/-- The digits after a point, if there is a point. -/
def readFraction? (s : List Char) : Option (List Char × List Char) :=
  match s with
  | '.' :: rest => readDigits? rest
  | _ => some ([], s)

/-- The sign of an exponent, and whether it is a minus. -/
def readSign (s : List Char) : Bool × List Char :=
  match s with
  | '-' :: rest => (true, rest)
  | '+' :: rest => (false, rest)
  | _ => (false, s)

/-- The exponent, if there is one. -/
def readExponent? (s : List Char) : Option (Option Int × List Char) :=
  match s with
  | e :: rest =>
    if e = 'e' ∨ e = 'E' then
      let (negative, rest) := readSign rest
      (readDigits? rest).map fun (ds, rest) =>
        let n : Int := digitsValue 0 ds
        (some (if negative then -n else n), rest)
    else some (none, s)
  | [] => some (none, s)

/-- A number, as it is written. -/
def readNumeral? (s : List Char) : Option (Numeral × List Char) := do
  let (negative, s) := match s with
    | '-' :: rest => (true, rest)
    | _ => (false, s)
  let (whole, s) ← readWhole? s
  let (fraction, s) ← readFraction? s
  let (exponent, s) ← readExponent? s
  return (⟨negative, whole, fraction, exponent⟩, s)

/-! ## Strings -/

/-- What a string holds: characters, and halves of surrogate pairs spelled by escapes. -/
inductive CodeUnit
  | char (c : Char)
  | half (n : Nat)

/-- What the escape of a code unit stands for. -/
def CodeUnit.ofNat (n : Nat) : CodeUnit :=
  if 0xD800 ≤ n ∧ n < 0xE000 then .half n else .char (Char.ofNat n)

/-- The character that a backslash and `c` spell. -/
def escaped? (c : Char) : Option Char :=
  if c = '"' ∨ c = '\\' ∨ c = '/' then some c
  else if c = 'b' then some '\x08'
  else if c = 'f' then some '\x0c'
  else if c = 'n' then some '\n'
  else if c = 'r' then some '\r'
  else if c = 't' then some '\t'
  else none

/-- The rest of a string after its opening quote. -/
def readUnits? : List Char → Option (List CodeUnit × List Char)
  | [] => none
  | '"' :: rest => some ([], rest)
  | '\\' :: 'u' :: a :: b :: c :: d :: rest => do
    let n ← hex4? a b c d
    let (units, rest) ← readUnits? rest
    return (.ofNat n :: units, rest)
  | '\\' :: e :: rest => do
    let c ← escaped? e
    let (units, rest) ← readUnits? rest
    return (.char c :: units, rest)
  | c :: rest =>
    if c.toNat < 0x20 then none
    else do
      let (units, rest) ← readUnits? rest
      return (.char c :: units, rest)

/-- The text of a string, or none if a half of a pair stands without the other. -/
def text? : List CodeUnit → Option (List Char)
  | [] => some []
  | .char c :: rest => (text? rest).map (c :: ·)
  | .half a :: .half b :: rest =>
    if a < 0xDC00 ∧ 0xDC00 ≤ b then
      (text? rest).map (Char.ofNat (0x10000 + (a - 0xD800) * 0x400 + (b - 0xDC00)) :: ·)
    else none
  | .half _ :: _ => none

/-! ## Documents -/

mutual

/-- A document, after blanks. -/
def readValue? : Nat → List Char → Option (Json × List Char)
  | 0, _ => none
  | steps + 1, s =>
    match skipBlanks s with
    | '"' :: rest => do
      let (units, rest) ← readUnits? rest
      match text? units with
      | some text => return (.string (String.ofList text), rest)
      | none => return (.garbled, rest)
    | '[' :: rest =>
      match skipBlanks rest with
      | ']' :: rest => some (.array [], rest)
      | _ => (readItems? steps rest).map fun (items, rest) => (.array items, rest)
    | '{' :: rest =>
      match skipBlanks rest with
      | '}' :: rest => some (.object [], rest)
      | _ => (readMembers? steps rest).map fun (members, rest) =>
        match members.mapM id with
        | some members => (.object members, rest)
        | none => (.garbled, rest)
    | 'n' :: rest => (expect? ['u', 'l', 'l'] rest).map (.null, ·)
    | 't' :: rest => (expect? ['r', 'u', 'e'] rest).map (.bool true, ·)
    | 'f' :: rest => (expect? ['a', 'l', 's', 'e'] rest).map (.bool false, ·)
    | rest => (readNumeral? rest).map fun (n, rest) => (.number n, rest)

/-- The items of an array up to its closing bracket. -/
def readItems? : Nat → List Char → Option (List Json × List Char)
  | 0, _ => none
  | steps + 1, s => do
    let (item, s) ← readValue? steps s
    match skipBlanks s with
    | ',' :: rest =>
      let (items, rest) ← readItems? steps rest
      return (item :: items, rest)
    | ']' :: rest => return ([item], rest)
    | _ => none

/-- The members of an object up to its closing brace, none in place of one with a garbled key. -/
def readMembers? : Nat → List Char → Option (List (Option (String × Json)) × List Char)
  | 0, _ => none
  | steps + 1, s =>
    match skipBlanks s with
    | '"' :: rest => do
      let (units, rest) ← readUnits? rest
      match skipBlanks rest with
      | ':' :: rest =>
        let (value, rest) ← readValue? steps rest
        let member := (text? units).map fun key => (String.ofList key, value)
        match skipBlanks rest with
        | ',' :: rest =>
          let (members, rest) ← readMembers? steps rest
          return (member :: members, rest)
        | '}' :: rest => return ([member], rest)
        | _ => none
      | _ => none
    | _ => none

end

/-- What is said of a text that is not a document, or not one of the shape asked for. -/
def faultText : String := "the text is no such document"

/-- The document that a text is. -/
def parse? (text : String) : Option Json :=
  let s := text.toList
  match readValue? (2 * s.length + 2) s with
  | some (j, rest) => if skipBlanks rest = [] then some j else none
  | none => none

end TypedSheets.Json
