import TypedSheets.Binary64.Basic

/-!
# Rounding to the nearest

`roundDiv n d` is the integer nearest to `n / d`, a tie going to the even neighbour. With it a
magnitude is rounded to an integer (`Magnitude.round`), and a quotient of natural numbers to a
floating-point number (`Binary64.ofRatio?`), so that products, quotients and decimal numbers
`m · 10 ^ e` are too (`Binary64.mul?`, `Binary64.div?`, `Binary64.ofDecimal?`).
-/

namespace TypedSheets

/-- The integer nearest to `n / d`, of two equally near the even one. -/
def roundDiv (n d : Nat) : Nat :=
  let q := n / d
  let r := n % d
  if d < 2 * r ∨ (d = 2 * r ∧ q % 2 = 1) then q + 1 else q

/-- Numerator and denominator of `m · b ^ e`. -/
def scaled (b m : Nat) (e : Int) : Nat × Nat :=
  if 0 ≤ e then (m * Nat.pow b e.toNat, 1) else (m, Nat.pow b (-e).toNat)

/-- Numerator and denominator of a magnitude. -/
def Magnitude.ratio (m : Magnitude) : Nat × Nat :=
  scaled 2 m.significand m.exponent

/-- The integer nearest to a magnitude, of two equally near the even one. -/
def Magnitude.round (m : Magnitude) : Nat :=
  let (num, den) := m.ratio
  roundDiv num den

/-- A magnitude without its fraction. -/
def Magnitude.truncate (m : Magnitude) : Nat :=
  let (num, den) := m.ratio
  num / den

namespace Binary64

/-- The exponent of the least significant bit when the positive number `num / den` is written with
53 bits, or the least exponent there is. -/
def lastBitExponent (num den : Nat) : Int :=
  let q := (num.log2 : Int) - den.log2 - 53
  let (n, d) := scaled 2 num (-q)
  let q := if Nat.pow 2 53 * (den * d) ≤ n then q + 1 else q
  max q (-1074)

/-- The bits of the magnitude nearest to `num / den`. -/
def nearestMagnitude (num den : Nat) : Nat :=
  let q := lastBitExponent num den
  let (n, d) := scaled 2 num (-q)
  packMagnitude (roundDiv n (den * d)) q

/-- The floating-point number nearest to `± num / den`, or none if that would be an infinity. -/
def ofRatio? (negative : Bool) (num den : Nat) : Option Binary64 :=
  if num = 0 then some (ofSign negative 0)
  else
    let bits := nearestMagnitude num den
    if bits < 2047 * Nat.pow 2 52 then some (ofSign negative bits) else none

/-- The product of two finite numbers, or none if that would be an infinity. -/
def mul? (x y : Binary64) : Option Binary64 :=
  let (a, b) := x.magnitude.ratio
  let (c, d) := y.magnitude.ratio
  ofRatio? (x.isNegative != y.isNegative) (a * c) (b * d)

/-- The quotient of two finite numbers, of which the second is not zero, or none if that would be an
infinity. -/
def div? (x y : Binary64) : Option Binary64 :=
  let (a, b) := x.magnitude.ratio
  let (c, d) := y.magnitude.ratio
  ofRatio? (x.isNegative != y.isNegative) (a * d) (b * c)

/-- The number of decimal digits of a natural number. -/
def digitCount (n : Nat) : Nat :=
  (Nat.toDigits 10 n).length

/-- The floating-point number nearest to `± m · 10 ^ e`, or none if that would be an infinity. The
exponent is looked at first, since a power of ten far outside the range of the format decides the
answer. -/
def ofDecimal? (negative : Bool) (m : Nat) (e : Int) : Option Binary64 :=
  let place := digitCount m + e
  if m = 0 ∨ place < -330 then some (ofSign negative 0)
  else if 320 < place then none
  else
    let (num, den) := scaled 10 m e
    ofRatio? negative num den

/-- The floating-point number nearest to an integer of moderate size. -/
def ofInt (n : Int) : Binary64 :=
  (ofDecimal? (n < 0) n.natAbs 0).getD zero

end Binary64

end TypedSheets
