import TypedSheets.Text.CaseData

/-!
# Lower case

`lowercase` is the full lower-case mapping of a text. Every character is mapped on its own
(`lowerLetter`), but for two: the dotted capital `İ` becomes two characters, and the capital sigma
becomes a final `ς` at the end of a word, that is, where a letter with case comes before it and
none after it, characters that are case-ignorable being passed over.
-/

namespace TypedSheets.Text

/-- A letter with case, in the sense of the Unicode property `Cased`. -/
def isCased (c : Char) : Bool :=
  casedIntervals.any fun (first, last) => first ≤ c.toNat && c.toNat ≤ last

/-- A character to pass over in the search for a letter with case, by the Unicode property
`Case_Ignorable`. -/
def isCaseIgnorable (c : Char) : Bool :=
  caseIgnorableIntervals.any fun (first, last) => first ≤ c.toNat && c.toNat ≤ last

/-- The lower-case form of a letter whose lower-case form is one letter. -/
def lowerLetter (c : Char) : Char :=
  match lowerRuns.find? (·.covers c.toNat) with
  | some run => Char.ofNat (run.image c.toNat)
  | none => c

/-- Whether the first character that is not case-ignorable is a letter with case. -/
def meetsCased (s : List Char) : Bool :=
  match s.dropWhile isCaseIgnorable with
  | [] => false
  | c :: _ => isCased c

/-- The lower-case form of `c`, read between `before` (backwards) and `after`. -/
def lowerAt (before : List Char) (c : Char) (after : List Char) : List Char :=
  if c = 'İ' then ['i', '\u0307']
  else if c = 'Σ' then [if meetsCased before && !meetsCased after then 'ς' else 'σ']
  else [lowerLetter c]

/-- Lower-cases a text that stands after the text `before`, given backwards. -/
def lowercaseAfter (before : List Char) : List Char → List Char
  | [] => []
  | c :: rest => lowerAt before c rest ++ lowercaseAfter (c :: before) rest

/-- The lower-case form of a text. -/
def lowercase (s : List Char) : List Char :=
  lowercaseAfter [] s

end TypedSheets.Text
