/-!
# Binary floating-point numbers

A `Binary64` is a floating-point number of 64 bits, given by its bits. The bits are a sign, eleven
bits of exponent and 52 bits of fraction. A finite number is a sign and a magnitude `m · 2 ^ q`
(`Magnitude`), in which `m < 2 ^ 53`; there is one magnitude for every finite number, and
`ofMagnitude` packs it again.
-/

namespace TypedSheets

/-- A floating-point number of 64 bits, by its bits. -/
structure Binary64 where
  bits : UInt64
  deriving DecidableEq, Repr

/-- The number `significand · 2 ^ exponent`. -/
structure Magnitude where
  significand : Nat
  exponent : Int
  deriving DecidableEq, Repr

namespace Binary64

/-- The bits of a number as a natural number. -/
def word (x : Binary64) : Nat :=
  x.bits.toNat

/-- Whether the sign is set, as it is for negative zero. -/
def isNegative (x : Binary64) : Bool :=
  Nat.pow 2 63 ≤ x.word

/-- The eleven bits of the exponent. -/
def exponentField (x : Binary64) : Nat :=
  x.word / Nat.pow 2 52 % Nat.pow 2 11

/-- The 52 bits of the fraction. -/
def fractionField (x : Binary64) : Nat :=
  x.word % Nat.pow 2 52

/-- Whether the number is neither an infinity nor a NaN. -/
def isFinite (x : Binary64) : Bool :=
  x.exponentField != 2047

/-- Whether the bits stand for no number. -/
def isNaN (x : Binary64) : Bool :=
  x.exponentField == 2047 && x.fractionField != 0

/-- The magnitude that the fields stand for when the number is finite. -/
def magnitude (x : Binary64) : Magnitude :=
  if x.exponentField = 0 then ⟨x.fractionField, -1074⟩
  else ⟨Nat.pow 2 52 + x.fractionField, x.exponentField - 1075⟩

/-- The bits of the magnitude `s · 2 ^ q` with `s ≤ 2 ^ 53` and `-1074 ≤ q`, where
`2 ^ 52 ≤ s` unless `q = -1074`. -/
def packMagnitude (s : Nat) (q : Int) : Nat :=
  (q + 1074).toNat * Nat.pow 2 52 + s

/-- The number with a sign and the bits of a magnitude. -/
def ofSign (negative : Bool) (magnitude : Nat) : Binary64 :=
  ⟨UInt64.ofNat (if negative then Nat.pow 2 63 + magnitude else magnitude)⟩

/-- Positive zero. -/
def zero : Binary64 :=
  ⟨0⟩

end Binary64

end TypedSheets
