import Mathlib.Algebra.Order.Field.Power
import Mathlib.Data.Rat.Cast.Order
import Mathlib.Tactic.FieldSimp
import Mathlib.Tactic.Linarith
import Mathlib.Tactic.NormNum
import TypedSheets.Binary64.Rounding

/-!
# Decimals that are floating-point numbers

A decimal number that is a floating-point number exactly is rounded to this number
(`Binary64.ofDecimal?_eq`): its last bit is looked for where the number has it
(`Binary64.lastBitExponent_eq`), so that nothing is cut off.

Quotients of natural numbers are compared as rational numbers.
-/

namespace TypedSheets

theorem scaled_pos {b : Nat} (hb : 0 < b) (m : Nat) (e : Int) : 0 < (scaled b m e).2 := by
  unfold scaled
  split
  · exact Nat.one_pos
  · exact Nat.pow_pos hb

/-- `scaled` gives the quotient `m · b ^ e`. -/
theorem scaled_eq {b : Nat} (hb : 0 < b) (m : Nat) (e : Int) :
    ((scaled b m e).1 : ℚ) / (scaled b m e).2 = m * (b : ℚ) ^ e := by
  have hb' : (b : ℚ) ≠ 0 := Nat.cast_ne_zero.mpr hb.ne'
  unfold scaled
  split
  · next he =>
    obtain ⟨k, rfl⟩ := Int.eq_ofNat_of_zero_le he
    simp
  · next he =>
    obtain ⟨k, hk⟩ := Int.eq_ofNat_of_zero_le (Int.neg_nonneg.mpr (Int.le_of_not_le he))
    obtain rfl : e = -(k : Int) := by omega
    simp [div_eq_mul_inv]

theorem roundDiv_mul (s : Nat) {d : Nat} (hd : 0 < d) : roundDiv (s * d) d = s := by
  have hq : s * d / d = s := Nat.mul_div_cancel s hd
  have hr : s * d % d = 0 := Nat.mul_mod_left s d
  rw [roundDiv, hq, hr]
  rw [if_neg (by omega)]

namespace Binary64

/-- The quotient of two natural numbers lies around the power of two with the difference of their
logarithms. -/
theorem quotient_bounds {num den : Nat} (hnum : num ≠ 0) (hden : den ≠ 0) :
    (2 : ℚ) ^ ((num.log2 : Int) - den.log2 - 1) < (num : ℚ) / den ∧
      (num : ℚ) / den < (2 : ℚ) ^ ((num.log2 : Int) - den.log2 + 1) := by
  have hden' : (0 : ℚ) < den := Nat.cast_pos.mpr (Nat.pos_of_ne_zero hden)
  have hnumLow : (2 : ℚ) ^ (num.log2 : Int) ≤ num := by exact_mod_cast Nat.log2_self_le hnum
  have hnumHigh : (num : ℚ) < 2 ^ ((num.log2 : Int) + 1) := by
    exact_mod_cast @Nat.lt_log2_self num
  have hdenLow : (2 : ℚ) ^ (den.log2 : Int) ≤ den := by exact_mod_cast Nat.log2_self_le hden
  have hdenHigh : (den : ℚ) < 2 ^ ((den.log2 : Int) + 1) := by
    exact_mod_cast @Nat.lt_log2_self den
  constructor
  · rw [lt_div_iff₀ hden']
    calc (2 : ℚ) ^ ((num.log2 : Int) - den.log2 - 1) * den
        < 2 ^ ((num.log2 : Int) - den.log2 - 1) * 2 ^ ((den.log2 : Int) + 1) := by gcongr
      _ = 2 ^ (num.log2 : Int) := by rw [← zpow_add₀ two_ne_zero]; congr 1; omega
      _ ≤ num := hnumLow
  · rw [div_lt_iff₀ hden']
    calc (num : ℚ) < 2 ^ ((num.log2 : Int) + 1) := hnumHigh
      _ = 2 ^ ((num.log2 : Int) - den.log2 + 1) * 2 ^ (den.log2 : Int) := by
        rw [← zpow_add₀ two_ne_zero]; congr 1; omega
      _ ≤ 2 ^ ((num.log2 : Int) - den.log2 + 1) * den := by gcongr

/-- The number has 53 bits from the place `q` on, or fewer if there is no lower place. -/
structure FitsAt (s : Nat) (q : Int) : Prop where
  pos : 0 < s
  lt : s < 2 ^ 53
  le : -1074 ≤ q
  normal : 2 ^ 52 ≤ s ∨ q = -1074

variable {num den s : Nat} {q : Int}

theorem FitsAt.bounds (h : FitsAt s q) :
    (s : ℚ) * 2 ^ q < 2 ^ (53 + q) ∧ ((2 : ℚ) ^ (52 + q) ≤ s * 2 ^ q ∨ q = -1074) := by
  have hlt : (s : ℚ) < 2 ^ (53 : Int) := by exact_mod_cast h.lt
  rw [zpow_add₀ two_ne_zero, zpow_add₀ two_ne_zero]
  refine ⟨by gcongr, h.normal.imp_left fun hnormal => ?_⟩
  have hle : (2 : ℚ) ^ (52 : Int) ≤ s := by exact_mod_cast hnormal
  gcongr

/-- From its last bit on a quotient has 53 bits, or fewer if there is no lower place. -/
theorem lastBitExponent_bounds (hnum : num ≠ 0) (hden : den ≠ 0) :
    -1074 ≤ lastBitExponent num den ∧ (num : ℚ) / den < 2 ^ (53 + lastBitExponent num den) ∧
      ((2 : ℚ) ^ (52 + lastBitExponent num den) ≤ num / den ∨
        lastBitExponent num den = -1074) := by
  obtain ⟨hlow, hhigh⟩ := quotient_bounds hnum hden
  have hden' : (0 : ℚ) < den := Nat.cast_pos.mpr (Nat.pos_of_ne_zero hden)
  unfold lastBitExponent
  dsimp only
  rw [show (num.log2 : Int) - den.log2 - 1 = 52 + ((num.log2 : Int) - den.log2 - 53) by omega]
    at hlow
  rw [show (num.log2 : Int) - den.log2 + 1 = 54 + ((num.log2 : Int) - den.log2 - 53) by omega]
    at hhigh
  generalize (num.log2 : Int) - den.log2 - 53 = q₀ at hlow hhigh
  -- whether more than 53 bits are needed from this place on
  have htest : Nat.pow 2 53 * (den * (scaled 2 num (-q₀)).2) ≤ (scaled 2 num (-q₀)).1 ↔
      (2 : ℚ) ^ (53 + q₀) ≤ (num : ℚ) / den := by
    have hscaled := scaled_eq two_pos num (-q₀)
    have hpos : (0 : ℚ) < (scaled 2 num (-q₀)).2 :=
      Nat.cast_pos.mpr (scaled_pos two_pos num (-q₀))
    have hcast : ((Nat.pow 2 53 * (den * (scaled 2 num (-q₀)).2) : ℕ) : ℚ) =
        2 ^ (53 : Int) * den * (scaled 2 num (-q₀)).2 := by
      push_cast [Nat.pow_eq]
      rw [mul_assoc]
    rw [← Nat.cast_le (α := ℚ), hcast, ← le_div_iff₀ hpos, hscaled, Nat.cast_ofNat,
      zpow_neg, ← div_eq_mul_inv, le_div_iff₀ (zpow_pos two_pos q₀), le_div_iff₀ hden',
      zpow_add₀ two_ne_zero, mul_right_comm]
  simp only [htest]
  generalize hq : (if (2 : ℚ) ^ (53 + q₀) ≤ (num : ℚ) / den then q₀ + 1 else q₀) = q
  have hbounds : (2 : ℚ) ^ (52 + q) ≤ num / den ∧ (num : ℚ) / den < 2 ^ (53 + q) := by
    rw [← hq]
    split
    · next hmore =>
      rw [show 52 + (q₀ + 1) = 53 + q₀ by omega, show 53 + (q₀ + 1) = 54 + q₀ by omega]
      exact ⟨hmore, hhigh⟩
    · next hfew => exact ⟨hlow.le, not_le.mp hfew⟩
  refine ⟨le_max_right _ _, ?_, ?_⟩
  · refine hbounds.2.trans_le (zpow_le_zpow_right₀ one_le_two ?_)
    have := le_max_left q (-1074)
    omega
  · rcases max_choice q (-1074) with hmax | hmax
    · rw [hmax]
      exact .inl hbounds.1
    · exact .inr hmax

/-- There is one place from which on a quotient has 53 bits. -/
theorem lastBitExponent_eq (hnum : num ≠ 0) (hden : den ≠ 0) (hfits : FitsAt s q)
    (h : (num : ℚ) / den = s * 2 ^ q) : lastBitExponent num den = q := by
  obtain ⟨hle, hupper, hnormal⟩ := lastBitExponent_bounds hnum hden
  obtain ⟨hupper', hnormal'⟩ := hfits.bounds
  rw [← h] at hupper' hnormal'
  have hle' := hfits.le
  refine le_antisymm ?_ ?_
  · rcases hnormal with hlow | heq
    · have hlt := (zpow_lt_zpow_iff_right₀ one_lt_two).mp (hlow.trans_lt hupper')
      omega
    · omega
  · rcases hnormal' with hlow | heq
    · have hlt := (zpow_lt_zpow_iff_right₀ one_lt_two).mp (hlow.trans_lt hupper)
      omega
    · omega

theorem nearestMagnitude_eq (hnum : num ≠ 0) (hden : den ≠ 0) (hfits : FitsAt s q)
    (h : (num : ℚ) / den = s * 2 ^ q) : nearestMagnitude num den = packMagnitude s q := by
  have hden' : (den : ℚ) ≠ 0 := Nat.cast_ne_zero.mpr hden
  have hscaled := scaled_eq two_pos num (-q)
  have hpos := scaled_pos two_pos num (-q)
  have hpos' : ((scaled 2 num (-q)).2 : ℚ) ≠ 0 := Nat.cast_ne_zero.mpr hpos.ne'
  have hexact : (scaled 2 num (-q)).1 = s * (den * (scaled 2 num (-q)).2) := by
    rw [← Nat.cast_inj (R := ℚ)]
    push_cast
    rw [div_eq_iff hpos'] at hscaled
    rw [div_eq_iff hden'] at h
    rw [hscaled, h, Nat.cast_ofNat, zpow_neg]
    field_simp
  unfold nearestMagnitude
  dsimp only
  rw [lastBitExponent_eq hnum hden hfits h, hexact,
    roundDiv_mul s (Nat.mul_pos (Nat.pos_of_ne_zero hden) hpos)]

/-! ## Numbers that are exact -/

theorem fields_word (x : Binary64) : x.exponentField < 2048 ∧ x.fractionField < 2 ^ 52 ∧
    x.word = (if x.isNegative then 2 ^ 63 else 0) + x.exponentField * 2 ^ 52 + x.fractionField := by
  have hword : x.word < 2 ^ 64 := x.bits.toNat_lt
  unfold exponentField fractionField isNegative
  simp only [Nat.pow_eq, decide_eq_true_eq]
  refine ⟨by omega, by omega, ?_⟩
  split <;> omega

theorem packMagnitude_magnitude (x : Binary64) :
    packMagnitude x.magnitude.significand x.magnitude.exponent =
      x.exponentField * 2 ^ 52 + x.fractionField := by
  unfold packMagnitude magnitude
  split <;> simp only [Nat.pow_eq] <;> omega

/-- A number is put together again from its sign and the bits of its magnitude. -/
theorem ofSign_fields (x : Binary64) :
    ofSign x.isNegative (x.exponentField * 2 ^ 52 + x.fractionField) = x := by
  obtain ⟨-, -, hword⟩ := x.fields_word
  have hbits : UInt64.ofNat x.word = x.bits := UInt64.ofNat_toNat
  rw [ofSign, Binary64.mk.injEq, ← hbits, hword]
  congr 1
  cases x.isNegative
  · simp
  · simp [Nat.pow_eq, Nat.add_assoc]

theorem fitsAt_magnitude {x : Binary64} (hs : x.magnitude.significand ≠ 0) :
    FitsAt x.magnitude.significand x.magnitude.exponent := by
  obtain ⟨-, hfraction, -⟩ := x.fields_word
  unfold magnitude at hs ⊢
  simp only [Nat.pow_eq] at hs ⊢
  split
  · next hzero =>
    rw [if_pos hzero] at hs
    dsimp only at hs ⊢
    exact ⟨by omega, by omega, Int.le_refl _, .inr rfl⟩
  · dsimp only
    exact ⟨by omega, by omega, by omega, .inl (Nat.le_add_right _ _)⟩

theorem exponent_le {x : Binary64} (h : x.isFinite = true) : x.magnitude.exponent ≤ 971 := by
  obtain ⟨hexponent, -, -⟩ := x.fields_word
  have hne : x.exponentField ≠ 2047 := by simpa [isFinite] using h
  unfold magnitude
  split <;> dsimp only <;> omega

/-- A finite number is no less than the least positive one and no more than the largest. -/
theorem magnitude_bounds {x : Binary64} (h : x.isFinite = true)
    (hs : x.magnitude.significand ≠ 0) :
    (10 : ℚ) ^ (-330 : Int) < x.magnitude.significand * 2 ^ x.magnitude.exponent ∧
      x.magnitude.significand * 2 ^ x.magnitude.exponent < (10 : ℚ) ^ (319 : Int) := by
  have hfits := fitsAt_magnitude hs
  have hone : (1 : ℚ) ≤ x.magnitude.significand := by exact_mod_cast hfits.pos
  have hleast : (10 : ℚ) ^ (-330 : Int) < 2 ^ (-1074 : Int) := by
    have hpow : 2 ^ 1074 < 10 ^ 330 := by decide +kernel
    rw [zpow_neg, zpow_neg, inv_lt_inv₀ (zpow_pos (by norm_num) _) (zpow_pos two_pos _)]
    exact_mod_cast hpow
  have hlargest : (2 : ℚ) ^ (1024 : Int) < 10 ^ (319 : Int) := by
    have hpow : 2 ^ 1024 < 10 ^ 319 := by decide +kernel
    exact_mod_cast hpow
  constructor
  · calc (10 : ℚ) ^ (-330 : Int) < 2 ^ (-1074 : Int) := hleast
      _ ≤ 2 ^ x.magnitude.exponent := zpow_le_zpow_right₀ one_le_two hfits.le
      _ ≤ x.magnitude.significand * 2 ^ x.magnitude.exponent :=
        le_mul_of_one_le_left (by positivity) hone
  · calc
      x.magnitude.significand * 2 ^ x.magnitude.exponent
        < (2 : ℚ) ^ (53 + x.magnitude.exponent) := hfits.bounds.1
      _ ≤ 2 ^ (1024 : Int) := zpow_le_zpow_right₀ one_le_two (by have := exponent_le h; omega)
      _ < 10 ^ (319 : Int) := hlargest

/-- The number of digits bounds a number. -/
theorem digitCount_bounds {m : Nat} (hm : m ≠ 0) :
    (10 : ℚ) ^ ((digitCount m : Int) - 1) ≤ m ∧ (m : ℚ) < 10 ^ (digitCount m : Int) := by
  have hcount : 0 < digitCount m := Nat.length_toDigits_pos
  obtain ⟨k, hk⟩ := Nat.exists_eq_add_of_lt hcount
  have hle : 10 ^ k ≤ m := by
    refine Nat.le_of_not_lt fun hlt => ?_
    cases k with
    | zero => omega
    | succ k =>
      have hlength : digitCount m ≤ k + 1 :=
        (Nat.length_toDigits_le_iff (by decide) (Nat.succ_pos k)).mpr hlt
      omega
  have hlt : m < 10 ^ digitCount m :=
    (Nat.length_toDigits_le_iff (by decide) hcount).mp (Nat.le_refl _)
  have hplace : (digitCount m : Int) - 1 = k := by omega
  rw [hplace]
  exact ⟨by exact_mod_cast hle, by exact_mod_cast hlt⟩

/-- A decimal number that is a floating-point number is rounded to this number. -/
theorem ofDecimal?_eq {x : Binary64} (hfinite : x.isFinite = true) {m : Nat} {e : Int}
    (h : (m : ℚ) * 10 ^ e = x.magnitude.significand * 2 ^ x.magnitude.exponent) :
    ofDecimal? x.isNegative m e = some x := by
  have hbits : packMagnitude x.magnitude.significand x.magnitude.exponent <
      2047 * Nat.pow 2 52 := by
    obtain ⟨-, hfraction, -⟩ := x.fields_word
    have hne : x.exponentField ≠ 2047 := by simpa [isFinite] using hfinite
    have hexponent := x.fields_word.1
    rw [packMagnitude_magnitude, Nat.pow_eq]
    omega
  have hten : (10 : ℚ) ^ e ≠ 0 := zpow_ne_zero e (by norm_num)
  unfold ofDecimal?
  by_cases hs : x.magnitude.significand = 0
  · have hm : m = 0 := by
      rw [hs, Nat.cast_zero, zero_mul, mul_eq_zero, or_iff_left hten] at h
      exact_mod_cast h
    have hfields : x.exponentField * 2 ^ 52 + x.fractionField = 0 := by
      unfold magnitude at hs
      simp only [Nat.pow_eq] at hs
      split at hs <;> dsimp only at hs <;> omega
    rw [if_pos (.inl hm), ← hfields, ofSign_fields]
  · have hm : m ≠ 0 := by
      rintro rfl
      rw [Nat.cast_zero, zero_mul, eq_comm, mul_eq_zero, Nat.cast_eq_zero] at h
      exact h.elim hs (zpow_ne_zero _ two_ne_zero)
    obtain ⟨hlow, hhigh⟩ := digitCount_bounds hm
    obtain ⟨hleast, hlargest⟩ := magnitude_bounds hfinite hs
    -- the first digit stands where it does in the number
    have hfirst : (10 : ℚ) ^ (digitCount m + e - 1) ≤ m * 10 ^ e := by
      rw [show (digitCount m : Int) + e - 1 =
        (digitCount m - 1) + e by omega, zpow_add₀ (by norm_num)]
      gcongr
    have hbefore : (m : ℚ) * 10 ^ e < 10 ^ (digitCount m + e) := by
      rw [zpow_add₀ (by norm_num)]
      gcongr
    have hplace : ¬(digitCount m : Int) + e < -330 := by
      have hlt := (zpow_lt_zpow_iff_right₀ (by norm_num)).mp ((h ▸ hleast).trans hbefore)
      omega
    have hplace' : ¬320 < (digitCount m : Int) + e := by
      have hlt := (zpow_lt_zpow_iff_right₀ (by norm_num)).mp (hfirst.trans_lt (h ▸ hlargest))
      omega
    have hden := (scaled_pos (by decide : 0 < 10) m e).ne'
    have hvalue : ((scaled 10 m e).1 : ℚ) / (scaled 10 m e).2 =
        x.magnitude.significand * 2 ^ x.magnitude.exponent := by
      rw [scaled_eq (by decide), ← h, Nat.cast_ofNat]
    have hnum : (scaled 10 m e).1 ≠ 0 := by
      intro hzero
      rw [hzero, Nat.cast_zero, zero_div] at hvalue
      exact absurd (hvalue ▸ hleast) (not_lt.mpr (zpow_pos (by norm_num) _).le)
    rw [if_neg (not_or.mpr ⟨hm, hplace⟩), if_neg hplace']
    simp only [ofRatio?, if_neg hnum, nearestMagnitude_eq hnum hden (fitsAt_magnitude hs) hvalue]
    rw [if_pos hbits, packMagnitude_magnitude, ofSign_fields]

end Binary64

end TypedSheets
