import TypedSheets.Proofs.BinaryValue
import TypedSheets.Proofs.Nearest

/-!
# Decimals are read as the nearest number

`Binary64.IsNearest x v` says that no finite number is nearer to `v` than `x`, and that the
significand of `x` is even if another is as near. A decimal number is read as the nearest
floating-point number (`Binary64.isNearest_of_ofDecimal?`). The reader rounds on the grid of the
multiples of `2 ^ q` for the last bit `q` of the decimal number. Every floating-point number with
its last bit there or higher is on this grid, and the others are below the least grid point with 53
bits (`Binary64.isNearest_of_grid`).
-/

namespace TypedSheets.Binary64

/-- No finite number is nearer to a rational number, and if one of another value is as near, the
significand of this one is even. -/
structure IsNearest (x : Binary64) (v : ℚ) : Prop where
  finite : x.isFinite = true
  nearest : ∀ y : Binary64, y.isFinite = true → |v - x.value| ≤ |v - y.value|
  even : ∀ y : Binary64, y.isFinite = true → y.value ≠ x.value →
    |v - x.value| = |v - y.value| →
    Even x.magnitude.significand

variable {x y : Binary64} {s : Nat} {q n : ℤ} {v : ℚ}

/-! ## Grids -/

/-- A number is a multiple of every power of two up to its last bit. -/
theorem exists_multiple (h : q ≤ y.magnitude.exponent) : ∃ k : ℤ, y.value = k * 2 ^ q := by
  obtain ⟨d, hd⟩ := Int.eq_ofNat_of_zero_le (sub_nonneg.mpr h)
  have hvalue : y.magnitude.value = (y.magnitude.significand * 2 ^ d : ℕ) * 2 ^ q := by
    rw [Magnitude.value,
      show y.magnitude.exponent = d + q by omega, zpow_add₀ two_ne_zero, zpow_natCast]
    push_cast
    ring
  unfold value
  split
  · refine ⟨-(y.magnitude.significand * 2 ^ d : ℕ), ?_⟩
    rw [hvalue]
    push_cast
    ring
  · exact ⟨(y.magnitude.significand * 2 ^ d : ℕ), by rw [hvalue, Int.cast_natCast]⟩

theorem abs_value_lt (y : Binary64) : |y.value| < 2 ^ (53 + y.magnitude.exponent) := by
  have hlt : (y.magnitude.significand : ℚ) < 2 ^ (53 : ℤ) := by exact_mod_cast y.significand_lt
  rw [abs_value, Magnitude.value, zpow_add₀ two_ne_zero]
  gcongr

theorem le_exponent (y : Binary64) : -1074 ≤ y.magnitude.exponent := by
  unfold magnitude
  split <;> dsimp only <;> omega

theorem abs_sub_mul (v : ℚ) (n q : ℤ) : |v - n * 2 ^ q| = |v / 2 ^ q - n| * 2 ^ q := by
  have hpos : (0 : ℚ) < 2 ^ q := zpow_pos two_pos q
  rw [← abs_of_pos hpos, ← abs_mul, abs_of_pos hpos, sub_mul, div_mul_cancel₀ v hpos.ne']

/-- A number on a grid is nearest if its multiple is, and what is below the grid is small. -/
theorem isNearest_of_grid (hfinite : x.isFinite = true) (hx : x.value = n * 2 ^ q)
    (h : IsNearestEven (v / 2 ^ q) n) (hlow : (2 : ℚ) ^ (52 + q) ≤ |v| ∨ q = -1074)
    (heven : Even n → Even x.magnitude.significand) : x.IsNearest v := by
  have hpos : (0 : ℚ) < 2 ^ q := zpow_pos two_pos q
  have hgrid : ∀ k : ℤ, |v - x.value| ≤ |v - k * 2 ^ q| := fun k => by
    rw [hx, abs_sub_mul, abs_sub_mul]
    exact mul_le_mul_of_nonneg_right (h.nearest k) hpos.le
  have hbelow : ∀ y : Binary64, ¬q ≤ y.magnitude.exponent →
      |v - x.value| < |v - y.value| := by
    intro y hy
    have hlow' := hlow.resolve_right (by have := y.le_exponent; omega)
    have hsmall : |y.value| < 2 ^ (52 + q) :=
      y.abs_value_lt.trans_le (zpow_le_zpow_right₀ one_le_two (by omega))
    -- the least grid point with 53 bits lies between the two numbers
    have hbetween : |v - x.value| ≤ |v| - 2 ^ (52 + q) := by
      have hpow : ((2 ^ 52 : ℤ) : ℚ) * 2 ^ q = 2 ^ (52 + q) := by
        rw [zpow_add₀ two_ne_zero]
        norm_num
      obtain hv | hv := le_total 0 v
      · rw [abs_of_nonneg hv] at hlow' ⊢
        rw [← abs_of_nonneg (sub_nonneg.mpr hlow'), ← hpow]
        exact hgrid (2 ^ 52)
      · rw [abs_of_nonpos hv] at hlow' ⊢
        have hmirror : v - (-2 ^ 52 : ℤ) * 2 ^ q = -(-v - 2 ^ (52 + q)) := by
          rw [← hpow]
          push_cast
          ring
        rw [← abs_of_nonneg (sub_nonneg.mpr hlow'), ← abs_neg (-v - 2 ^ (52 + q)), ← hmirror]
        exact hgrid (-2 ^ 52)
    calc |v - x.value| ≤ |v| - 2 ^ (52 + q) := hbetween
      _ < |v| - |y.value| := by linarith
      _ ≤ |v - y.value| := abs_sub_abs_le_abs_sub v y.value
  refine ⟨hfinite, fun y _ => ?_, fun y _ hne htie => ?_⟩
  · by_cases hy : q ≤ y.magnitude.exponent
    · obtain ⟨k, hk⟩ := exists_multiple hy
      rw [hk]
      exact hgrid k
    · exact (hbelow y hy).le
  · by_cases hy : q ≤ y.magnitude.exponent
    · obtain ⟨k, hk⟩ := exists_multiple hy
      rw [hk, hx, abs_sub_mul, abs_sub_mul] at htie
      refine heven (h.even k ?_ (mul_right_cancel₀ hpos.ne' htie))
      rintro rfl
      exact hne (hk.trans hx.symm)
    · exact absurd htie (hbelow y hy).ne

/-- A magnitude that is rounded on the grid of its last bit makes the nearest number of either
sign. -/
theorem isNearest_ofSign (negative : Bool) (hs : s ≤ 2 ^ 53) (hle : -1074 ≤ q)
    (hnormal : 2 ^ 52 ≤ s ∨ q = -1074) (hbits : packMagnitude s q < 2047 * Nat.pow 2 52)
    (h : IsNearestEven (v / 2 ^ q) s) (hlow : (2 : ℚ) ^ (52 + q) ≤ v ∨ q = -1074) :
    (ofSign negative (packMagnitude s q)).IsNearest (if negative then -v else v) := by
  obtain ⟨hfinite, hsign, hmagnitude, heven⟩ := value_ofSign negative hs hle hnormal hbits
  have habs := hlow.imp_left fun hv => hv.trans (le_abs_self v)
  have heven' := (Int.even_coe_nat s).mp
  cases negative with
  | true =>
    refine isNearest_of_grid hfinite (n := -s) (q := q) ?_ ?_ ?_ ?_
    · rw [value, if_pos hsign, hmagnitude]
      push_cast
      ring
    · rw [if_pos rfl, neg_div]
      exact h.neg
    · rwa [if_pos rfl, abs_neg]
    · rw [even_neg]
      exact fun hs => heven (heven' hs)
  | false =>
    refine isNearest_of_grid hfinite (n := s) (q := q) ?_ h habs fun hs => heven (heven' hs)
    rw [value, hsign, if_neg Bool.false_ne_true, hmagnitude, Int.cast_natCast]

variable {num den m : Nat} {e : ℤ}

/-- The bits of a quotient are those of its multiple of the last bit, rounded. -/
theorem nearestMagnitude_spec (hnum : num ≠ 0) (hden : den ≠ 0) :
    ∃ s, nearestMagnitude num den = packMagnitude s (lastBitExponent num den) ∧ s ≤ 2 ^ 53 ∧
      (2 ^ 52 ≤ s ∨ lastBitExponent num den = -1074) ∧
      IsNearestEven ((num : ℚ) / den / 2 ^ lastBitExponent num den) s := by
  obtain ⟨-, hupper, hlower⟩ := lastBitExponent_bounds hnum hden
  unfold nearestMagnitude
  dsimp only
  generalize lastBitExponent num den = q at hupper hlower ⊢
  have hpos : (0 : ℚ) < 2 ^ q := zpow_pos two_pos q
  have hscaled := scaled_eq two_pos num (-q)
  have hscaledPos := scaled_pos two_pos num (-q)
  generalize scaled 2 num (-q) = r at hscaled hscaledPos ⊢
  have hnearest : IsNearestEven ((num : ℚ) / den / 2 ^ q) (roundDiv r.1 (den * r.2) : ℕ) := by
    have hquotient : (num : ℚ) / den / 2 ^ q = r.1 / (den * r.2 : ℕ) := by
      rw [Nat.cast_mul, mul_comm (den : ℚ), ← div_div, hscaled, Nat.cast_ofNat, zpow_neg]
      field_simp
    rw [hquotient]
    exact isNearestEven_roundDiv r.1 (Nat.mul_pos (Nat.pos_of_ne_zero hden) hscaledPos)
  refine ⟨_, rfl, ?_, hlower.imp_left fun hlow => ?_, hnearest⟩
  -- the bounds of the quotient are on the grid
  · have hle : (num : ℚ) / den / 2 ^ q ≤ (2 ^ 53 : ℤ) := by
      rw [div_le_iff₀ hpos]
      refine hupper.le.trans_eq ?_
      rw [zpow_add₀ two_ne_zero]
      norm_num
    exact_mod_cast hnearest.mono (isNearestEven_intCast (2 ^ 53)) hle
  · have hle : (2 ^ 52 : ℤ) ≤ (num : ℚ) / den / 2 ^ q := by
      rw [le_div_iff₀ hpos]
      refine le_trans (Eq.le ?_) hlow
      rw [zpow_add₀ two_ne_zero]
      norm_num
    exact_mod_cast (isNearestEven_intCast (2 ^ 52)).mono hnearest hle

/-- The bits of a quotient make the nearest number of either sign. -/
theorem isNearest_nearestMagnitude (negative : Bool) (hnum : num ≠ 0) (hden : den ≠ 0)
    (hbits : nearestMagnitude num den < 2047 * Nat.pow 2 52) :
    (ofSign negative (nearestMagnitude num den)).IsNearest
      (if negative then -((num : ℚ) / den) else (num : ℚ) / den) := by
  obtain ⟨hle, -, hlower⟩ := lastBitExponent_bounds hnum hden
  obtain ⟨s, hpack, hs, hnormal, hnearest⟩ := nearestMagnitude_spec hnum hden
  rw [hpack] at hbits ⊢
  exact isNearest_ofSign negative hs hle hnormal hbits hnearest hlower

/-- A quotient is rounded to the nearest floating-point number. -/
theorem isNearest_of_ofRatio? {negative : Bool} (hden : den ≠ 0)
    (h : ofRatio? negative num den = some x) :
    x.IsNearest (if negative then -((num : ℚ) / den) else (num : ℚ) / den) := by
  unfold ofRatio? at h
  dsimp only at h
  obtain rfl | hnum := eq_or_ne num 0
  · rw [if_pos rfl] at h
    obtain rfl := Option.some.inj h
    rw [Nat.cast_zero, zero_div]
    exact isNearest_ofSign (s := 0) (q := -1074) negative (by decide) le_rfl (.inr rfl) (by decide)
      (by rw [zero_div]; exact isNearestEven_intCast 0) (.inr rfl)
  · rw [if_neg hnum] at h
    obtain ⟨hbits, hx⟩ := Option.ite_none_right_eq_some.mp h
    exact Option.some.inj hx ▸ isNearest_nearestMagnitude negative hnum hden hbits

/-- The bits of a quotient of moderate size are not those of an infinity. -/
theorem nearestMagnitude_lt (hnum : num ≠ 0) (hden : den ≠ 0)
    (h : (num : ℚ) / den < 2 ^ (1023 : ℤ)) :
    nearestMagnitude num den < 2047 * Nat.pow 2 52 := by
  obtain ⟨-, -, hlower⟩ := lastBitExponent_bounds hnum hden
  obtain ⟨s, hpack, hs, -, -⟩ := nearestMagnitude_spec hnum hden
  have hq : lastBitExponent num den ≤ 970 := by
    obtain hlow | heq := hlower
    · have hlt := (zpow_lt_zpow_iff_right₀ one_lt_two).mp (hlow.trans_lt h)
      omega
    · omega
  rw [hpack, packMagnitude, Nat.pow_eq]
  omega

/-- A decimal number below half of the least positive number is nearest to zero. -/
theorem isNearestEven_zero (h : m = 0 ∨ (digitCount m : ℤ) + e < -330) :
    IsNearestEven ((m : ℚ) * 10 ^ e / 2 ^ (-1074 : ℤ)) 0 := by
  refine isNearestEven_iff.mpr ⟨?_, fun _ => Even.zero⟩
  have hnonneg : 0 ≤ (m : ℚ) * 10 ^ e := by positivity
  rw [Int.cast_zero, sub_zero, abs_of_nonneg (div_nonneg hnonneg (zpow_nonneg zero_le_two _)),
    div_le_iff₀ (zpow_pos two_pos _)]
  obtain rfl | hm := eq_or_ne m 0
  · rw [Nat.cast_zero, zero_mul]
    positivity
  have hplace := h.resolve_left hm
  have hhalf : (10 : ℚ) ^ (-331 : ℤ) < 1 / 2 * 2 ^ (-1074 : ℤ) := by
    have hpow : 2 * 2 ^ 1074 < 10 ^ 331 := by decide +kernel
    rw [zpow_neg, zpow_neg, one_div, ← mul_inv, inv_lt_inv₀ (by positivity) (by positivity)]
    exact_mod_cast hpow
  calc (m : ℚ) * 10 ^ e ≤ 10 ^ (digitCount m : ℤ) * 10 ^ e := by
        gcongr
        exact (digitCount_bounds hm).2.le
    _ = 10 ^ ((digitCount m : ℤ) + e) := (zpow_add₀ (by norm_num) _ _).symm
    _ ≤ 10 ^ (-331 : ℤ) := zpow_le_zpow_right₀ (by norm_num) (by omega)
    _ ≤ 1 / 2 * 2 ^ (-1074 : ℤ) := hhalf.le

/-- A decimal number is rounded to the nearest floating-point number. -/
theorem isNearest_of_ofDecimal? {negative : Bool} (h : ofDecimal? negative m e = some x) :
    x.IsNearest (if negative then -((m : ℚ) * 10 ^ e) else m * 10 ^ e) := by
  unfold ofDecimal? at h
  dsimp only at h
  by_cases hsmall : m = 0 ∨ (digitCount m : ℤ) + e < -330
  · rw [if_pos hsmall] at h
    obtain rfl := Option.some.inj h
    exact isNearest_ofSign (s := 0) (q := -1074) negative (by decide) le_rfl (.inr rfl) (by decide)
      (isNearestEven_zero hsmall) (.inr rfl)
  · obtain ⟨hm, -⟩ := not_or.mp hsmall
    rw [if_neg hsmall] at h
    obtain ⟨-, h⟩ := Option.ite_none_left_eq_some.mp h
    have hnearest := isNearest_of_ofRatio? (scaled_pos (show 0 < 10 by decide) m e).ne' h
    rwa [scaled_eq (show 0 < 10 by decide), Nat.cast_ofNat] at hnearest

/-- An integer of moderate size is read. -/
theorem exists_ofDecimal? (negative : Bool) {m : Nat} (h : m ≤ 2 ^ 63) :
    ∃ x, ofDecimal? negative m 0 = some x := by
  obtain rfl | hm := eq_or_ne m 0
  · exact ⟨_, rfl⟩
  have hplace : digitCount m ≤ 20 := by
    refine (Nat.length_toDigits_le_iff (by decide) (by decide)).mpr ?_
    omega
  have hscaled : scaled 10 m 0 = (m, 1) := by simp [scaled]
  have hbits : nearestMagnitude m 1 < 2047 * Nat.pow 2 52 := by
    refine nearestMagnitude_lt hm one_ne_zero ?_
    rw [Nat.cast_one, div_one]
    calc (m : ℚ) ≤ 2 ^ (63 : ℤ) := by exact_mod_cast h
      _ < 2 ^ (1023 : ℤ) := zpow_lt_zpow_right₀ one_lt_two (by decide)
  refine ⟨ofSign negative (nearestMagnitude m 1), ?_⟩
  unfold ofDecimal?
  rw [if_neg (by omega), if_neg (by omega), hscaled]
  exact (if_neg hm).trans (if_pos hbits)

/-- A decimal number of either sign is rounded like the one without a sign. -/
theorem ofDecimal?_eq_map (negative : Bool) (m : Nat) (e : ℤ) :
    ofDecimal? negative m e = (ofDecimal? false m e).map fun x => ofSign negative x.word := by
  have hword : ∀ {k : Nat}, k < 2 ^ 64 → (ofSign false k).word = k := fun {k} hk =>
    UInt64.toNat_ofNat_of_lt' hk
  unfold ofDecimal? ofRatio?
  dsimp only
  split
  · rw [Option.map_some, hword (by decide)]
  split
  · rfl
  split
  · rw [Option.map_some, hword (by decide)]
  split
  · next hbits =>
    rw [Option.map_some, hword (hbits.trans (by decide))]
  · rfl

end TypedSheets.Binary64
