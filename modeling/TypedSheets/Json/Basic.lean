/-!
# JSON documents

A `Json` is a document as it is written: an object keeps its members in order, repeated keys
included, and a number keeps its digits (`Numeral`), so that its reader decides what number it is. A
string may spell half of a surrogate pair, which stands for no text: such a string, and an object
with such a key, is `garbled`, fit only to be passed over.
-/

namespace TypedSheets

/-- A number as it is written: an integer part, the digits after the point (none without a point)
and an exponent. -/
structure Numeral where
  negative : Bool
  whole : Nat
  fraction : List Char := []
  exponent : Option Int := none
  deriving DecidableEq, Repr

/-- A document as it is written. -/
inductive Json
  | null
  | bool (b : Bool)
  | number (n : Numeral)
  | string (s : String)
  | garbled
  | array (items : List Json)
  | object (members : List (String × Json))
  deriving Repr

/-- The natural number that a list of decimal digits spells, after `start`. -/
def digitsValue (start : Nat) (ds : List Char) : Nat :=
  ds.foldl (fun n c => 10 * n + (c.toNat - '0'.toNat)) start

namespace Numeral

/-- The numeral of an integer. -/
def ofInt (n : Int) : Numeral :=
  { negative := n < 0, whole := n.natAbs }

end Numeral

namespace Json

/-- The text of a string. -/
def str? : Json → Option String
  | .string s => some s
  | _ => none

/-- The truth value that a document is. -/
def bool? : Json → Option Bool
  | .bool b => some b
  | _ => none

/-- The items of an array. -/
def array? : Json → Option (List Json)
  | .array items => some items
  | _ => none

mutual

/-- The number of arrays and objects that enclose the innermost part of a document. -/
def depth : Json → Nat
  | .array items => depthList items + 1
  | .object members => depthMembers members + 1
  | _ => 0

/-- The greatest depth among documents. -/
def depthList : List Json → Nat
  | [] => 0
  | j :: rest => max j.depth (depthList rest)

/-- The greatest depth among the values of members. -/
def depthMembers : List (String × Json) → Nat
  | [] => 0
  | (_, j) :: rest => max j.depth (depthMembers rest)

end

mutual

/-- Whether every number of a document satisfies `p` and no part of it is garbled. -/
def sound (p : Numeral → Bool) : Json → Bool
  | .number n => p n
  | .garbled => false
  | .array items => soundList p items
  | .object members => soundMembers p members
  | _ => true

/-- Whether all of some documents are sound. -/
def soundList (p : Numeral → Bool) : List Json → Bool
  | [] => true
  | j :: rest => j.sound p && soundList p rest

/-- Whether the values of all members are sound. -/
def soundMembers (p : Numeral → Bool) : List (String × Json) → Bool
  | [] => true
  | (_, j) :: rest => j.sound p && soundMembers p rest

end

end Json

end TypedSheets
