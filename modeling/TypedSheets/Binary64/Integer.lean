import TypedSheets.Binary64.Rounding

/-!
# Integers among floating-point numbers

`roundEven` rounds a floating-point number to one that is an integer, and `toInt64` turns it into a
signed integer of 64 bits, which holds at the ends of the range. `lt` and `le` compare
floating-point numbers: the two zeros are equal, and a NaN compares with nothing.
-/

namespace TypedSheets.Binary64

/-- The nearest integer, of two equally near the even one, with the sign kept. What is not finite
stays. -/
def roundEven (x : Binary64) : Binary64 :=
  if x.isFinite then (ofDecimal? x.isNegative x.magnitude.round 0).getD x else x

/-- The number of steps from zero to a magnitude, each to the next floating-point number. -/
def steps (x : Binary64) : Nat :=
  x.exponentField * Nat.pow 2 52 + x.fractionField

/-- The place of a number in the order, with both zeros at zero. -/
def rank (x : Binary64) : Int :=
  if x.isNegative then -x.steps else x.steps

/-- Whether a number is less than another. -/
def lt (x y : Binary64) : Bool :=
  !x.isNaN && !y.isNaN && x.rank < y.rank

/-- Whether a number is less than another or equal to it. -/
def le (x y : Binary64) : Bool :=
  !x.isNaN && !y.isNaN && x.rank ≤ y.rank

/-- The number without its fraction, or the end of the range beyond which it lies; zero for a NaN.
The magnitude of an infinity lies beyond both. -/
def toInt64 (x : Binary64) : Int64 :=
  if x.isNaN then 0
  else
    let whole : Int := x.magnitude.truncate
    let n := if x.isNegative then -whole else whole
    Int64.ofInt (max Int64.minValue.toInt (min n Int64.maxValue.toInt))

end TypedSheets.Binary64
