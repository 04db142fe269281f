import TypedSheets.Proofs.BinaryValue
import TypedSheets.Proofs.Nearest
import TypedSheets.Record.Coercion

/-!
# Integers from floating-point numbers

`Binary64.roundEven` gives the nearest integer to a finite number, again as a number
(`Binary64.roundEven_spec`): either the number was an integer already, or it is small enough for its
neighbours to be numbers. Between the least and the largest integer of 64 bits nothing is lost on
the way to `Int64` (`Binary64.toInt_toInt64`), and `coerceInt` lets exactly this range pass
(`coerceInt_of_isNearestEven`): its upper bound is `2 ^ 63`, since the largest integer is not a
number. So coercion is rounding within the range, an error outside of it, and keeps the order
(`coerceInt_rounds`).
-/

namespace TypedSheets

namespace Magnitude

variable {m : Magnitude}

theorem isNearestEven_round (m : Magnitude) : IsNearestEven m.value m.round := by
  have hden := scaled_pos two_pos m.significand m.exponent
  have hvalue := scaled_eq two_pos m.significand m.exponent
  have hnearest := isNearestEven_roundDiv (scaled 2 m.significand m.exponent).1 hden
  rwa [hvalue, Nat.cast_ofNat] at hnearest

theorem truncate_eq {k : Nat} (h : m.value = k) : m.truncate = k := by
  have hden := scaled_pos two_pos m.significand m.exponent
  have hvalue := scaled_eq two_pos m.significand m.exponent
  rw [Nat.cast_ofNat, show (m.significand : ℚ) * 2 ^ m.exponent = k from h,
    div_eq_iff (Nat.cast_ne_zero.mpr hden.ne')] at hvalue
  have hnum : (scaled 2 m.significand m.exponent).1 =
      k * (scaled 2 m.significand m.exponent).2 := by
    exact_mod_cast hvalue
  unfold truncate ratio
  dsimp only
  rw [hnum, Nat.mul_div_cancel k hden]

end Magnitude

namespace Binary64

variable {x : Binary64} {n : ℤ}

/-- The nearest integer to a finite number is a number. -/
theorem exists_round (h : x.isFinite = true) : ∃ y : Binary64, y.isFinite = true ∧
    y.isNegative = x.isNegative ∧ y.magnitude.value = x.magnitude.round := by
  obtain hq | hq := le_or_gt 0 x.magnitude.exponent
  · refine ⟨x, h, rfl, ?_⟩
    obtain ⟨k, hk⟩ := Int.eq_ofNat_of_zero_le hq
    have hround : x.magnitude.round = x.magnitude.significand * 2 ^ k := by
      unfold Magnitude.round Magnitude.ratio scaled
      rw [if_pos hq, hk]
      simpa using roundDiv_mul (x.magnitude.significand * 2 ^ k) Nat.one_pos
    rw [Magnitude.value, hround, hk, zpow_natCast]
    push_cast
    rfl
  · refine exists_natCast x.isNegative ?_
    have hlt := x.significand_lt
    have hdiv := Nat.div_le_self x.magnitude.significand (Nat.pow 2 (-x.magnitude.exponent).toNat)
    unfold Magnitude.round Magnitude.ratio scaled roundDiv
    rw [if_neg (not_le.mpr hq)]
    dsimp only
    split <;> omega

theorem roundEven_spec (h : x.isFinite = true) : ∃ n : ℤ, IsNearestEven x.value n ∧
    x.roundEven.isFinite = true ∧ x.roundEven.value = n := by
  obtain ⟨y, hfinite, hsign, hvalue⟩ := exists_round h
  have hround : x.roundEven = y := by
    have hdecimal : ofDecimal? y.isNegative x.magnitude.round 0 = some y :=
      ofDecimal?_eq hfinite (by rw [zpow_zero, mul_one]; exact hvalue.symm)
    rw [roundEven, if_pos h, ← hsign, hdecimal, Option.getD_some]
  have hnearest := x.magnitude.isNearestEven_round
  refine ⟨if x.isNegative then -x.magnitude.round else x.magnitude.round, ?_,
    hround ▸ hfinite, ?_⟩
  · unfold value
    split
    · exact hnearest.neg
    · exact hnearest
  · rw [hround, value_of_natCast hvalue, hsign]

theorem roundEven_of_not_isFinite (h : x.isFinite = false) : x.roundEven = x := by
  simp [roundEven, h]

/-- An integer within the range is what its number is turned into. -/
theorem toInt_toInt64 (hfinite : x.isFinite = true) (h : x.value = n) (hlow : -2 ^ 63 ≤ n)
    (hhigh : n ≤ 2 ^ 63 - 1) : x.toInt64.toInt = n := by
  have hmagnitude : x.magnitude.value = n.natAbs := by
    rw [← abs_value, h, Nat.cast_natAbs, Int.cast_abs]
  have hsigned : (if x.isNegative then -(n.natAbs : ℤ) else n.natAbs) = n :=
    Int.cast_injective ((value_of_natCast hmagnitude).symm.trans h)
  have hmin : Int64.minValue.toInt = -2 ^ 63 := rfl
  have hmax : Int64.maxValue.toInt = 2 ^ 63 - 1 := rfl
  unfold toInt64
  rw [if_neg (by simp [isNaN_of_isFinite hfinite]), Magnitude.truncate_eq hmagnitude]
  dsimp only
  rw [hsigned, hmin, hmax, min_eq_left hhigh, max_eq_right hlow]
  exact Int64.toInt_ofInt_of_le (by simpa using hlow) (by omega)

theorem ofInt_minValue : (ofInt Int64.minValue.toInt).isFinite = true ∧
    (ofInt Int64.minValue.toInt).value = -2 ^ 63 := by
  have hword : ofInt Int64.minValue.toInt = ⟨0xC3E0000000000000⟩ := by decide +kernel
  have hsign : isNegative ⟨0xC3E0000000000000⟩ = true := by decide +kernel
  have hmagnitude : magnitude ⟨0xC3E0000000000000⟩ = ⟨2 ^ 52, 11⟩ := by decide +kernel
  rw [hword]
  refine ⟨by decide +kernel, ?_⟩
  rw [value, if_pos hsign, hmagnitude, Magnitude.value]
  norm_num

/-- The largest integer of 64 bits is rounded up. -/
theorem ofInt_maxValue : (ofInt Int64.maxValue.toInt).isFinite = true ∧
    (ofInt Int64.maxValue.toInt).value = 2 ^ 63 := by
  have hword : ofInt Int64.maxValue.toInt = ⟨0x43E0000000000000⟩ := by decide +kernel
  have hsign : ¬isNegative ⟨0x43E0000000000000⟩ = true := by decide +kernel
  have hmagnitude : magnitude ⟨0x43E0000000000000⟩ = ⟨2 ^ 52, 11⟩ := by decide +kernel
  rw [hword]
  refine ⟨by decide +kernel, ?_⟩
  rw [value, if_neg hsign, hmagnitude, Magnitude.value]
  norm_num

end Binary64

variable {x y : Binary64} {n : ℤ} {j k : Int64}

theorem coerceInt_of_not_isFinite (h : x.isFinite = false) :
    coerceInt x = .error (.intRange x) := by
  simp [coerceInt, Binary64.roundEven_of_not_isFinite h, h]

theorem coerceInt_of_isNearestEven (hfinite : x.isFinite = true) (h : IsNearestEven x.value n) :
    coerceInt x =
      if -2 ^ 63 ≤ n ∧ n ≤ 2 ^ 63 - 1 then .ok (Int64.ofInt n) else .error (.intRange x) := by
  obtain ⟨n', hn', hrounded, hvalue⟩ := Binary64.roundEven_spec hfinite
  obtain rfl := hn'.unique h
  have hnan := Binary64.isNaN_of_isFinite hrounded
  obtain ⟨hminFinite, hmin⟩ := Binary64.ofInt_minValue
  obtain ⟨hmaxFinite, hmax⟩ := Binary64.ofInt_maxValue
  have hlow : x.roundEven.lt (.ofInt Int64.minValue.toInt) = true ↔ n' < -2 ^ 63 := by
    rw [Binary64.lt_iff hnan (Binary64.isNaN_of_isFinite hminFinite), hmin, hvalue]
    exact_mod_cast Iff.rfl
  have hhigh : (Binary64.ofInt Int64.maxValue.toInt).le x.roundEven = true ↔ 2 ^ 63 ≤ n' := by
    rw [Binary64.le_iff (Binary64.isNaN_of_isFinite hmaxFinite) hnan, hmax, hvalue]
    exact_mod_cast Iff.rfl
  unfold coerceInt
  dsimp only
  split
  · next hout =>
    rw [hrounded, Bool.not_true, Bool.false_or, Bool.or_eq_true, hlow, hhigh] at hout
    rw [if_neg (by omega)]
  · next hin =>
    rw [hrounded, Bool.not_true, Bool.false_or, Bool.or_eq_true, hlow, hhigh] at hin
    have hrange : -2 ^ 63 ≤ n' ∧ n' ≤ 2 ^ 63 - 1 := by omega
    rw [if_pos hrange, ← Binary64.toInt_toInt64 hrounded hvalue hrange.1 hrange.2,
      Int64.ofInt_toInt]

theorem coerceInt_eq_ok_iff : coerceInt x = .ok k ↔ x.isFinite = true ∧
    ∃ n : ℤ, IsNearestEven x.value n ∧ -2 ^ 63 ≤ n ∧ n ≤ 2 ^ 63 - 1 ∧
      k.toInt = n := by
  cases hfinite : x.isFinite with
  | false =>
    rw [coerceInt_of_not_isFinite hfinite]
    simp
  | true =>
    obtain ⟨n, hn, -, -⟩ := Binary64.roundEven_spec hfinite
    rw [coerceInt_of_isNearestEven hfinite hn]
    constructor
    · intro hok
      split at hok
      · next hrange =>
        obtain rfl : Int64.ofInt n = k := Except.ok.inj hok
        exact ⟨rfl, n, hn, hrange.1, hrange.2,
          Int64.toInt_ofInt_of_le (by simpa using hrange.1) (by omega)⟩
      · exact nomatch hok
    · rintro ⟨-, n', hn', hlow, hhigh, hk⟩
      obtain rfl := hn.unique hn'
      rw [if_pos ⟨hlow, hhigh⟩, ← hk, Int64.ofInt_toInt]

theorem coerceInt_eq_error_iff : coerceInt x = .error (.intRange x) ↔
    ¬(x.isFinite = true ∧ ∃ n : ℤ, IsNearestEven x.value n ∧ -2 ^ 63 ≤ n ∧
      n ≤ 2 ^ 63 - 1) := by
  cases hfinite : x.isFinite with
  | false => simp [coerceInt_of_not_isFinite hfinite]
  | true =>
    obtain ⟨n, hn, -, -⟩ := Binary64.roundEven_spec hfinite
    rw [coerceInt_of_isNearestEven hfinite hn]
    constructor
    · rintro herror ⟨-, n', hn', hrange⟩
      obtain rfl := hn.unique hn'
      rw [if_pos hrange] at herror
      exact nomatch herror
    · intro hout
      rw [if_neg fun hrange => hout ⟨rfl, n, hn, hrange⟩]

theorem coerceInt_mono (hle : x.le y = true) (hx : coerceInt x = .ok j) (hy : coerceInt y = .ok k) :
    j ≤ k := by
  obtain ⟨hxfinite, n, hn, -, -, hj⟩ := coerceInt_eq_ok_iff.mp hx
  obtain ⟨hyfinite, n', hn', -, -, hk⟩ := coerceInt_eq_ok_iff.mp hy
  rw [Binary64.le_iff (Binary64.isNaN_of_isFinite hxfinite) (Binary64.isNaN_of_isFinite hyfinite)]
    at hle
  rw [Int64.le_iff_toInt_le, hj, hk]
  exact hn.mono hn' hle

/-- A number is coerced to `k` exactly if `k` is the nearest integer to it, of two equally near the
even one, and lies within 64 bits; every other number, one that is not finite among them, is a
coercion error. On the numbers that are coerced this keeps the order. -/
theorem coerceInt_rounds (x : Binary64) :
    (∀ k : Int64, coerceInt x = .ok k ↔ x.isFinite = true ∧
      ∃ n : ℤ, IsNearestEven x.value n ∧ -2 ^ 63 ≤ n ∧ n ≤ 2 ^ 63 - 1 ∧ k.toInt = n) ∧
    (coerceInt x = .error (.intRange x) ↔
      ¬(x.isFinite = true ∧
        ∃ n : ℤ, IsNearestEven x.value n ∧ -2 ^ 63 ≤ n ∧ n ≤ 2 ^ 63 - 1)) ∧
    ∀ (y : Binary64) (j k : Int64), x.le y = true → coerceInt x = .ok j → coerceInt y = .ok k →
      j ≤ k :=
  ⟨fun _ => coerceInt_eq_ok_iff, coerceInt_eq_error_iff, fun _ _ _ => coerceInt_mono⟩

/-- Two and a half and three and a half, each with the even neighbour. -/
theorem coerceInt_halves :
    coerceInt ⟨0x4004000000000000⟩ = .ok 2 ∧ coerceInt ⟨0x400C000000000000⟩ = .ok 4 ∧
    (2 : Int64) ≤ 4 := by
  have hlow : coerceInt ⟨0x4004000000000000⟩ = .ok 2 := by decide +kernel
  have hhigh : coerceInt ⟨0x400C000000000000⟩ = .ok 4 := by decide +kernel
  obtain ⟨-, -, hmono⟩ := coerceInt_rounds ⟨0x4004000000000000⟩
  exact ⟨hlow, hhigh, hmono ⟨0x400C000000000000⟩ 2 4 (by decide +kernel) hlow hhigh⟩

end TypedSheets
