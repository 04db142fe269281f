import TypedSheets.Binary64.Rounding
import TypedSheets.Json.Basic

/-!
# Reading numerals

A numeral is read in two steps. Its digits are taken into a significand of 64 bits as long as they
fit, and what remains of the numeral is a power of ten (`Numeral.significand`, `Numeral.power`). The
significand is then rounded to a floating-point number, and that is multiplied or divided by powers
of ten (`Binary64.scale?`), each step rounding again. An integer of 64 bits is read as the nearest
number (`Proofs.WrittenInteger`). Other numerals may be read as a neighbour of the nearest number,
and some just below the largest one are too large to be read.
-/

namespace TypedSheets

namespace Numeral

/-- Takes digits into a significand up to the first one with which it would not fit 64 bits. The
digits from there on are left. -/
def takeDigits (significand : Nat) : List Char → Nat × List Char
  | [] => (significand, [])
  | c :: rest =>
    let next := digitsValue significand [c]
    if next < UInt64.size then takeDigits next rest else (significand, c :: rest)

/-- The integer part as far as it fits 64 bits, and the digits of it that are left. -/
def takeWhole (n : Numeral) : Nat × List Char :=
  takeDigits 0 (Nat.toDigits 10 n.whole)

/-- The digits after the point are taken too as long as they fit, also when some before it are
left. -/
def takeFraction (n : Numeral) : Nat × List Char :=
  takeDigits n.takeWhole.1 n.fraction

/-- The natural number of 64 bits that the numeral is read by. -/
def significand (n : Numeral) : Nat :=
  n.takeFraction.1

/-- The power of ten that belongs to the significand: each digit left before the point raises it,
and each digit taken after the point lowers it. -/
def power (n : Numeral) : Int :=
  n.exponent.getD 0 + n.takeWhole.2.length - (n.fraction.length - n.takeFraction.2.length)

end Numeral

namespace Binary64

/-- The power of ten nearest to `10 ^ n`, where `n` is at most 308. -/
def powerOfTen (n : Nat) : Binary64 :=
  (ofDecimal? false 1 n).getD zero

/-- Divides a number by `10 ^ 308` so many times, unless it is zero before, and then by `10 ^ n`. -/
def divide? (x : Binary64) (n : Nat) : Nat → Option Binary64
  | 0 => x.div? (powerOfTen n)
  | times + 1 =>
    if x = zero then some x
    else (x.div? (powerOfTen 308)).bind fun y => y.divide? n times

/-- A number that is not negative times `10 ^ e`, or none if that would be an infinity. A power
below `10 ^ -308` takes more than one division. -/
def scale? (x : Binary64) (e : Int) : Option Binary64 :=
  if e = 0 ∨ x = zero then some x
  else if 308 < e then none
  else if 0 < e then x.mul? (powerOfTen e.toNat)
  else
    let n := (-e).toNat - 1
    x.divide? (n % 308 + 1) (n / 308)

/-- The number that a numeral is read as; none if it is too large. -/
def ofNumeral? (n : Numeral) : Option Binary64 :=
  ((ofInt n.significand).scale? n.power).map fun x => ofSign n.negative x.word

end Binary64

end TypedSheets
