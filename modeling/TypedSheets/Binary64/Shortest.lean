import TypedSheets.Binary64.Rounding

/-!
# Shortest decimal digits

The digits of a floating-point number are the shortest decimal number that reads back as it. The
numbers that read back as a magnitude `m · 2 ^ q` form an interval around it (`Interval`), whose
ends belong to it when `m` is even. For one digit, two digits and so on, the two neighbours of the
magnitude among the decimals with so many digits are tested; the first count with a hit wins, and of
two hits the nearer. A tie is left to the caller (`Tie`).
-/

namespace TypedSheets

/-- Which of two equally near decimals is taken. -/
inductive Tie
  | toEven
  | up
  deriving DecidableEq, Repr

/-- A decimal number `0.d₁d₂… · 10 ^ point`, by its digits, the last of which is not zero. -/
structure Digits where
  digits : List Char
  point : Int
  deriving DecidableEq, Repr

namespace Binary64

/-- The numbers that round to a magnitude, all three over one denominator. -/
structure Interval where
  low : Nat
  value : Nat
  high : Nat
  den : Nat
  closed : Bool

/-- The interval of a magnitude. Below a power of two the neighbour is half as far. -/
def interval (m : Magnitude) : Interval :=
  let s := m.significand
  let below := if s = Nat.pow 2 52 ∧ -1074 < m.exponent then 1 else 2
  let (unit, den) := scaled 2 1 (m.exponent - 2)
  ⟨(4 * s - below) * unit, 4 * s * unit, (4 * s + 2) * unit, den, s % 2 == 0⟩

/-- Whether the decimal `d · 10 ^ k` lies in the interval. -/
def Interval.holds (i : Interval) (d : Nat) (k : Int) : Bool :=
  let (num, den) := scaled 10 d k
  let x := num * i.den
  let low := i.low * den
  let high := i.high * den
  if i.closed then low ≤ x && x ≤ high else low < x && x < high

/-- The power of ten just above the value of the interval. -/
def Interval.point (i : Interval) : Int :=
  if i.den ≤ i.value then digitCount (i.value / i.den)
  else 1 - digitCount ((i.den + i.value - 1) / i.value - 1)

/-- The decimal with `n` digits in the interval that is nearest to its value. -/
def Interval.nearest? (i : Interval) (tie : Tie) (n : Nat) : Option (Nat × Int) :=
  let k := i.point - n
  let (num, den) := scaled 10 i.value (-k)
  let den := den * i.den
  let d := num / den
  let r := 2 * (num % den)
  match i.holds d k, i.holds (d + 1) k with
  | true, true =>
    let up := den < r || (den == r && (tie == .up || d % 2 == 1))
    some (if up then d + 1 else d, k)
  | true, false => some (d, k)
  | false, true => some (d + 1, k)
  | false, false => none

/-- The digits of `d · 10 ^ k` without the zeros at their end. -/
def Digits.ofDecimal (d : Nat) (k : Int) : Digits :=
  let all := Nat.toDigits 10 d
  ⟨(all.reverse.dropWhile (· == '0')).reverse, k + all.length⟩

/-- The shortest digits of a magnitude that is not zero. Seventeen are always enough. -/
def shortest (tie : Tie) (m : Magnitude) : Digits :=
  let i := interval m
  let found := (List.range 17).findSome? fun n => i.nearest? tie (n + 1)
  let (d, k) := found.getD (0, 0)
  Digits.ofDecimal d k

end Binary64

end TypedSheets
