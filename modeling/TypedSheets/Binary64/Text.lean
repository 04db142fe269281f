import TypedSheets.Binary64.Shortest
import TypedSheets.Json.Basic

/-!
# Written floating-point numbers

The two ways a floating-point number is written. `display` is for messages: the shortest digits with
a point where it belongs and never an exponent. `numeral?` is the number of a JSON document: always
with a point or an exponent, the latter outside a middle range of sizes; a number that is not finite
has no numeral.
-/

namespace TypedSheets.Binary64

/-- So many zeros. -/
def zeros (n : Nat) : List Char :=
  List.replicate n '0'

/-- Digits around a point that stands after the `point`-th of them, both sides filled up with
zeros. -/
def positional (d : Digits) : List Char × List Char :=
  let p := d.point.toNat
  if 0 < d.point then
    (d.digits.take p ++ zeros (p - d.digits.length), d.digits.drop p)
  else (['0'], zeros (-d.point).toNat ++ d.digits)

/-- The number in a message. -/
def display (x : Binary64) : String :=
  if x.isNaN then "NaN"
  else
    let sign := if x.isNegative then "-" else ""
    if !x.isFinite then sign ++ "inf"
    else if x.magnitude.significand = 0 then sign ++ "0"
    else
      let (whole, fraction) := positional (shortest .up x.magnitude)
      sign ++ String.ofList (if fraction = [] then whole else whole ++ '.' :: fraction)

/-- Numbers `0.d₁d₂… · 10 ^ p` with `p` in this range are written without an exponent. -/
def isPositional (p : Int) : Bool :=
  -5 < p && p ≤ 16

/-- The numeral of a number in a JSON document. -/
def numeral? (x : Binary64) : Option Numeral :=
  if !x.isFinite then none
  else
    let magnitude := x.magnitude
    if magnitude.significand = 0 then
      some { negative := x.isNegative, whole := 0, fraction := ['0'] }
    else
      let d := shortest .toEven magnitude
      if isPositional d.point then
        let (whole, fraction) := positional d
        some {
          negative := x.isNegative
          whole := digitsValue 0 whole
          fraction := if fraction = [] then ['0'] else fraction }
      else
        some {
          negative := x.isNegative
          whole := digitsValue 0 (d.digits.take 1)
          fraction := d.digits.drop 1
          exponent := some (d.point - 1) }

/-- The number in a JSON document; what is not finite is written as null. -/
def toJson (x : Binary64) : Json :=
  match x.numeral? with
  | some n => .number n
  | none => .null

end TypedSheets.Binary64
