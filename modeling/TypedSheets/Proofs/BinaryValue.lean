import TypedSheets.Binary64.Integer
import TypedSheets.Proofs.ExactDecimal

/-!
# The value of a floating-point number

A finite floating-point number has a rational value (`Binary64.value`), and comparing numbers is
comparing their values (`Binary64.lt_iff`, `Binary64.le_iff`). Every magnitude of at most 53 bits
from some place on is that of a number (`Binary64.magnitude_ofSign`), so that there is a number for
every integer up to `2 ^ 53` (`Binary64.exists_natCast`).
-/

namespace TypedSheets

/-- The magnitude as a rational number. -/
def Magnitude.value (m : Magnitude) : ℚ :=
  m.significand * 2 ^ m.exponent

theorem Magnitude.value_nonneg (m : Magnitude) : 0 ≤ m.value :=
  mul_nonneg m.significand.cast_nonneg (zpow_nonneg zero_le_two _)

namespace Binary64

/-- The rational number that a finite number stands for. -/
def value (x : Binary64) : ℚ :=
  if x.isNegative then -x.magnitude.value else x.magnitude.value

variable {x y : Binary64} {s : Nat} {q : Int}

theorem abs_value (x : Binary64) : |x.value| = x.magnitude.value := by
  unfold value
  split
  · rw [abs_neg, abs_of_nonneg x.magnitude.value_nonneg]
  · exact abs_of_nonneg x.magnitude.value_nonneg

/-- A number whose magnitude is a natural number is an integer. -/
theorem value_of_natCast {k : Nat} (h : x.magnitude.value = k) :
    x.value = (if x.isNegative then -(k : ℤ) else k : ℤ) := by
  rw [value, h]
  split
  · rw [Int.cast_neg, Int.cast_natCast]
  · rw [Int.cast_natCast]

theorem isNaN_of_isFinite (h : x.isFinite = true) : x.isNaN = false := by
  have hne : x.exponentField ≠ 2047 := by simpa [isFinite] using h
  simp [isNaN, hne]

theorem significand_lt (x : Binary64) : x.magnitude.significand < 2 ^ 53 := by
  obtain ⟨-, hfraction, -⟩ := x.fields_word
  unfold magnitude
  split <;> simp only [Nat.pow_eq] <;> omega

/-! ## Numbers from their fields -/

theorem fields_ofSign (negative : Bool) {m : Nat} (h : m < 2 ^ 63) :
    (ofSign negative m).isNegative = negative ∧ (ofSign negative m).exponentField = m / 2 ^ 52 ∧
      (ofSign negative m).fractionField = m % 2 ^ 52 := by
  have hword : (ofSign negative m).word = if negative then 2 ^ 63 + m else m := by
    refine UInt64.toNat_ofNat_of_lt' ?_
    rw [Nat.pow_eq]
    split <;> simp only [UInt64.size] <;> omega
  unfold isNegative exponentField fractionField
  rw [hword]
  simp only [Nat.pow_eq]
  cases negative
  · rw [if_neg Bool.false_ne_true, decide_eq_false_iff_not]
    omega
  · rw [if_pos rfl, decide_eq_true_eq]
    omega

/-- Every magnitude of the format, below an infinity, is that of a number. -/
theorem magnitude_ofSign (negative : Bool) (hs : s < 2 ^ 53) (hle : -1074 ≤ q) (hq : q ≤ 971)
    (hnormal : 2 ^ 52 ≤ s ∨ q = -1074) :
    (ofSign negative (packMagnitude s q)).isFinite = true ∧
      (ofSign negative (packMagnitude s q)).isNegative = negative ∧
      (ofSign negative (packMagnitude s q)).magnitude = ⟨s, q⟩ := by
  obtain ⟨k, hk⟩ := Int.eq_ofNat_of_zero_le (show 0 ≤ q + 1074 by omega)
  obtain rfl : q = k - 1074 := by omega
  have hpack : packMagnitude s (k - 1074) = k * 2 ^ 52 + s := by simp [packMagnitude]
  rw [hpack]
  obtain ⟨hsign, hexponent, hfraction⟩ :=
    fields_ofSign negative (show k * 2 ^ 52 + s < 2 ^ 63 by omega)
  refine ⟨?_, hsign, ?_⟩
  · have hne : (ofSign negative (k * 2 ^ 52 + s)).exponentField ≠ 2047 := by omega
    simpa [isFinite] using hne
  · unfold magnitude
    simp only [hexponent, hfraction, Nat.pow_eq]
    split <;> rw [Magnitude.mk.injEq] <;> omega

/-- Every magnitude that is rounded to 53 bits from a place on is that of a number. -/
theorem value_ofSign (negative : Bool) (hs : s ≤ 2 ^ 53) (hle : -1074 ≤ q)
    (hnormal : 2 ^ 52 ≤ s ∨ q = -1074) (hbits : packMagnitude s q < 2047 * Nat.pow 2 52) :
    (ofSign negative (packMagnitude s q)).isFinite = true ∧
      (ofSign negative (packMagnitude s q)).isNegative = negative ∧
      (ofSign negative (packMagnitude s q)).magnitude.value = s * 2 ^ q ∧
      (Even s → Even (ofSign negative (packMagnitude s q)).magnitude.significand) := by
  unfold packMagnitude at hbits
  rw [Nat.pow_eq] at hbits
  obtain hlt | rfl := hs.lt_or_eq
  · obtain ⟨hfinite, hsign, hmagnitude⟩ := magnitude_ofSign negative hlt hle (by omega) hnormal
    rw [hmagnitude]
    exact ⟨hfinite, hsign, rfl, id⟩
  · -- the carry makes it the first magnitude of the next place
    have hcarry : packMagnitude (2 ^ 53) q = packMagnitude (2 ^ 52) (q + 1) := by
      unfold packMagnitude
      rw [Nat.pow_eq]
      omega
    obtain ⟨hfinite, hsign, hmagnitude⟩ :=
      magnitude_ofSign negative (show 2 ^ 52 < 2 ^ 53 by decide) (show -1074 ≤ q + 1 by omega)
        (by omega)
        (.inl le_rfl)
    rw [hcarry, hmagnitude]
    refine ⟨hfinite, hsign, ?_, fun _ => Nat.even_pow.mpr ⟨even_two, by decide⟩⟩
    rw [Magnitude.value, zpow_add_one₀ two_ne_zero, mul_comm ((2 : ℚ) ^ q), ← mul_assoc]
    norm_num

/-- A natural number of at most 53 bits, moved up to have 53 of them. -/
theorem fitsAt_shift {n : Nat} (hpos : 0 < n) (hlt : n < 2 ^ 53) :
    FitsAt (n * 2 ^ (52 - n.log2)) (-(52 - n.log2 : ℕ)) := by
  have hlog : n.log2 < 53 := (Nat.log2_lt hpos.ne').mpr hlt
  have hlow : 2 ^ n.log2 ≤ n := Nat.log2_self_le hpos.ne'
  have hhigh : n < 2 ^ (n.log2 + 1) := Nat.lt_log2_self
  refine ⟨Nat.mul_pos hpos (Nat.two_pow_pos _), ?_, by omega, .inl ?_⟩
  · calc n * 2 ^ (52 - n.log2) < 2 ^ (n.log2 + 1) * 2 ^ (52 - n.log2) := by gcongr
      _ = 2 ^ 53 := by rw [← pow_add]; congr 1; omega
  · calc 2 ^ 52 = 2 ^ n.log2 * 2 ^ (52 - n.log2) := by rw [← pow_add]; congr 1; omega
      _ ≤ n * 2 ^ (52 - n.log2) := by gcongr

/-- There is a number of either sign for every integer of at most 53 bits, and for the next one. -/
theorem exists_natCast (negative : Bool) {n : Nat} (h : n ≤ 2 ^ 53) :
    ∃ y : Binary64, y.isFinite = true ∧ y.isNegative = negative ∧ y.magnitude.value = n := by
  obtain ⟨s, q, hs, hq, hnormal, hbits, hvalue⟩ : ∃ s q, s ≤ 2 ^ 53 ∧ -1074 ≤ q ∧
      (2 ^ 52 ≤ s ∨ q = -1074) ∧
      packMagnitude s q < 2047 * Nat.pow 2 52 ∧ (s : ℚ) * 2 ^ q = n := by
    obtain rfl | hpos := n.eq_zero_or_pos
    · exact ⟨0, -1074, by decide, le_rfl, .inr rfl, by decide, by simp⟩
    obtain rfl | hlt := h.eq_or_lt
    · exact ⟨2 ^ 53, 0, le_rfl, by decide, .inl (by decide), by decide, by simp⟩
    obtain ⟨-, hslt, hq, hnormal⟩ := fitsAt_shift hpos hlt
    refine ⟨_, _, hslt.le, hq, hnormal, ?_, ?_⟩
    · unfold packMagnitude
      rw [Nat.pow_eq]
      omega
    · rw [zpow_neg, zpow_natCast]
      push_cast
      field_simp
  obtain ⟨hfinite, hsign, hmagnitude, -⟩ := value_ofSign negative hs hq hnormal hbits
  exact ⟨_, hfinite, hsign, hmagnitude.trans hvalue⟩

/-! ## Comparison -/

theorem magnitude_eq_of_steps (h : x.steps = y.steps) : x.magnitude = y.magnitude := by
  obtain ⟨-, hx, -⟩ := x.fields_word
  obtain ⟨-, hy, -⟩ := y.fields_word
  unfold steps at h
  rw [Nat.pow_eq] at h
  have hexponent : x.exponentField = y.exponentField := by omega
  have hfraction : x.fractionField = y.fractionField := by omega
  unfold magnitude
  rw [hexponent, hfraction]

theorem value_eq_zero_iff : x.magnitude.value = 0 ↔ x.steps = 0 := by
  have hsignificand : x.magnitude.significand = 0 ↔ x.steps = 0 := by
    unfold magnitude steps
    rw [Nat.pow_eq]
    split <;> dsimp only <;> omega
  rw [← hsignificand, Magnitude.value, mul_eq_zero, or_iff_left (zpow_ne_zero _ two_ne_zero),
    Nat.cast_eq_zero]

theorem value_lt_of_steps (h : x.steps < y.steps) : x.magnitude.value < y.magnitude.value := by
  have hypos : 0 < y.magnitude.value :=
    y.magnitude.value_nonneg.lt_of_ne fun hzero => by
      rw [value_eq_zero_iff.mp hzero.symm] at h
      exact absurd h (Nat.not_lt_zero _)
  obtain hx | hx := eq_or_ne x.magnitude.significand 0
  · rwa [Magnitude.value, hx, Nat.cast_zero, zero_mul]
  have hy : y.magnitude.significand ≠ 0 := by
    intro hzero
    rw [Magnitude.value, hzero, Nat.cast_zero, zero_mul] at hypos
    exact hypos.false
  have hxfits := fitsAt_magnitude hx
  have hyfits := fitsAt_magnitude hy
  rw [steps, steps, Nat.pow_eq, ← packMagnitude_magnitude, ← packMagnitude_magnitude] at h
  unfold Magnitude.value
  generalize x.magnitude.significand = s, x.magnitude.exponent = q at h hxfits
  generalize y.magnitude.significand = s', y.magnitude.exponent = q' at h hyfits
  obtain ⟨hupper, -⟩ := hxfits.bounds
  obtain ⟨-, hlower⟩ := hyfits.bounds
  obtain ⟨-, hs, hq, hnormal⟩ := hxfits
  obtain ⟨-, hs', hq', hnormal'⟩ := hyfits
  unfold packMagnitude at h
  rw [Nat.pow_eq] at h
  have hle : q ≤ q' := by omega
  obtain hlt | rfl := hle.lt_or_eq
  · -- the second number has all its bits where the first one ends
    calc (s : ℚ) * 2 ^ q < 2 ^ (53 + q) := hupper
      _ ≤ 2 ^ (52 + q') := zpow_le_zpow_right₀ one_le_two (by omega)
      _ ≤ s' * 2 ^ q' := hlower.resolve_right (by omega)
  · have hlt : s < s' := by omega
    gcongr

theorem value_le_iff : x.magnitude.value ≤ y.magnitude.value ↔ x.steps ≤ y.steps := by
  refine ⟨fun h => not_lt.mp fun hlt => (value_lt_of_steps hlt).not_ge h, fun h => ?_⟩
  obtain hlt | heq := h.lt_or_eq
  · exact (value_lt_of_steps hlt).le
  · rw [magnitude_eq_of_steps heq]

theorem rank_le_iff : x.rank ≤ y.rank ↔ x.value ≤ y.value := by
  have hx := x.magnitude.value_nonneg
  have hy := y.magnitude.value_nonneg
  unfold rank value
  split <;> split
  · rw [neg_le_neg_iff, neg_le_neg_iff, value_le_iff, Int.ofNat_le]
  · exact iff_of_true (by omega) (by linarith)
  · -- only when both are zero
    have hzero : (x.steps : Int) ≤ -y.steps ↔ x.steps = 0 ∧ y.steps = 0 := by omega
    rw [hzero, ← value_eq_zero_iff, ← value_eq_zero_iff]
    constructor
    · rintro ⟨hx, hy⟩
      rw [hx, hy, neg_zero]
    · intro h
      constructor <;> linarith
  · rw [value_le_iff, Int.ofNat_le]

/-- Numbers are in the order of their values; an infinity lies where the next number would. -/
theorem le_iff (hx : x.isNaN = false) (hy : y.isNaN = false) :
    x.le y = true ↔ x.value ≤ y.value := by
  simp [le, hx, hy, rank_le_iff]

theorem lt_iff (hx : x.isNaN = false) (hy : y.isNaN = false) :
    x.lt y = true ↔ x.value < y.value := by
  rw [← not_le, ← rank_le_iff]
  simp [lt, hx, hy]

end Binary64

end TypedSheets
