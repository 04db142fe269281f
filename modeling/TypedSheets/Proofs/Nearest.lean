import Mathlib.Algebra.Order.Ring.Abs
import Mathlib.Algebra.Ring.Int.Parity
import Mathlib.Data.Rat.Cast.Order
import Mathlib.Tactic.FieldSimp
import Mathlib.Tactic.Linarith
import Mathlib.Tactic.NormNum
import Mathlib.Tactic.Ring
import TypedSheets.Binary64.Rounding

/-!
# The nearest integer

`IsNearestEven v n` says that no integer is nearer to `v` than `n`, and that `n` is even if another
is as near. Such an integer is within one half of `v` (`isNearestEven_iff`); there is only one, and
it grows with `v` (`IsNearestEven.mono`). For a quotient of natural numbers it is `roundDiv`
(`isNearestEven_roundDiv`).
-/

namespace TypedSheets

/-- No integer is nearer to a number, and if another is as near, this one is even. -/
structure IsNearestEven (v : ℚ) (n : ℤ) : Prop where
  nearest : ∀ m : ℤ, |v - n| ≤ |v - m|
  even : ∀ m : ℤ, m ≠ n → |v - n| = |v - m| → Even n

variable {v w : ℚ} {m n : ℤ}

theorem half_le_abs_sub (h : |v - n| ≤ 1 / 2) (hne : m ≠ n) : 1 / 2 ≤ |v - m| := by
  have hone : (1 : ℚ) ≤ |(m : ℚ) - n| := by
    have habs := Int.one_le_abs (sub_ne_zero.mpr hne)
    exact_mod_cast habs
  have htriangle := abs_sub_le (m : ℚ) v n
  rw [abs_sub_comm (m : ℚ) v] at htriangle
  linarith

theorem isNearestEven_iff :
    IsNearestEven v n ↔ |v - n| ≤ 1 / 2 ∧ (|v - n| = 1 / 2 → Even n) := by
  constructor
  · rintro ⟨hnearest, heven⟩
    have hhalf : |v - n| ≤ 1 / 2 := by
      -- else one of the two neighbours is nearer
      have hup := hnearest (n + 1)
      have hdown := hnearest (n - 1)
      push_cast at hup hdown
      grind
    refine ⟨hhalf, fun htie => ?_⟩
    rcases abs_choice (v - n) with hv | hv
    · refine heven (n + 1) (by simp) ?_
      have hv' : v - (n + 1 : ℤ) = -(1 / 2) := by push_cast; linarith
      rw [hv', abs_neg, htie, abs_of_nonneg (by norm_num)]
    · refine heven (n - 1) (by simp) ?_
      have hv' : v - (n - 1 : ℤ) = 1 / 2 := by push_cast; linarith
      rw [hv', htie, abs_of_nonneg (by norm_num)]
  · rintro ⟨hhalf, heven⟩
    refine ⟨fun m => ?_, fun m hne htie => heven ?_⟩
    · by_cases hne : m = n
      · rw [hne]
      · exact hhalf.trans (half_le_abs_sub hhalf hne)
    · exact le_antisymm hhalf (htie ▸ half_le_abs_sub hhalf hne)

theorem IsNearestEven.mono (hv : IsNearestEven v n) (hw : IsNearestEven w m) (h : v ≤ w) :
    n ≤ m := by
  obtain ⟨hn, hnEven⟩ := isNearestEven_iff.mp hv
  obtain ⟨hm, hmEven⟩ := isNearestEven_iff.mp hw
  by_contra! hlt
  have hle : (m : ℚ) + 1 ≤ n := by exact_mod_cast hlt
  have hn' := abs_le.mp hn
  have hm' := abs_le.mp hm
  -- both are ties, between neighbours of which only one is even
  have hnTie : |v - n| = 1 / 2 := le_antisymm hn (le_abs.mpr (.inr (by linarith)))
  have hmTie : |w - m| = 1 / 2 := le_antisymm hm (le_abs.mpr (.inl (by linarith)))
  have heq : n = m + 1 := by
    have hle' : (n : ℚ) ≤ m + 1 := by linarith
    exact le_antisymm (by exact_mod_cast hle') hlt
  have hodd := (hmEven hmTie).add_one
  exact (Int.not_even_iff_odd.mpr hodd) (heq ▸ hnEven hnTie)

theorem IsNearestEven.unique (hn : IsNearestEven v n) (hm : IsNearestEven v m) : n = m :=
  le_antisymm (hn.mono hm le_rfl) (hm.mono hn le_rfl)

theorem IsNearestEven.neg (h : IsNearestEven v n) : IsNearestEven (-v) (-n) := by
  rw [isNearestEven_iff] at h ⊢
  have habs : |-v - (-n : ℤ)| = |v - n| := by
    rw [← abs_neg]
    congr 1
    push_cast
    ring
  rwa [habs, even_neg]

theorem isNearestEven_intCast (n : ℤ) : IsNearestEven n n :=
  isNearestEven_iff.mpr ⟨by simp, by simp⟩

theorem isNearestEven_roundDiv (num : Nat) {den : Nat} (hden : 0 < den) :
    IsNearestEven ((num : ℚ) / den) (roundDiv num den : ℕ) := by
  have hden' : (0 : ℚ) < den := Nat.cast_pos.mpr hden
  have hlt : num % den < den := Nat.mod_lt num hden
  have hnum : (num : ℚ) = den * (num / den : ℕ) + (num % den : ℕ) := by
    exact_mod_cast (Nat.div_add_mod num den).symm
  rw [isNearestEven_iff]
  unfold roundDiv
  dsimp only
  generalize num / den = q at hnum
  generalize num % den = r at hlt hnum
  split
  · next hup =>
    have hdiff : (num : ℚ) / den - ((q + 1 : ℕ) : ℤ) = -((den - r) / den) := by
      rw [hnum]
      push_cast
      field_simp
      ring
    have hle : (r : ℚ) ≤ den := by exact_mod_cast hlt.le
    have hhalf : (den : ℚ) ≤ 2 * r := by
      have : den ≤ 2 * r := by omega
      exact_mod_cast this
    rw [hdiff, abs_neg, abs_of_nonneg (div_nonneg (sub_nonneg.mpr hle) hden'.le),
      div_le_div_iff₀ hden' two_pos, div_eq_div_iff hden'.ne' two_ne_zero]
    refine ⟨by linarith, fun htie => ?_⟩
    have htie' : den = 2 * r := by
      have : (den : ℚ) = 2 * r := by linarith
      exact_mod_cast this
    rw [Int.even_coe_nat, Nat.even_iff]
    omega
  · next hdown =>
    have hdiff : (num : ℚ) / den - ((q : ℕ) : ℤ) = r / den := by
      rw [hnum]
      push_cast
      field_simp
      ring
    have hhalf : 2 * (r : ℚ) ≤ den := by
      have : 2 * r ≤ den := by omega
      exact_mod_cast this
    rw [hdiff, abs_of_nonneg (div_nonneg r.cast_nonneg hden'.le), div_le_div_iff₀ hden' two_pos,
      div_eq_div_iff hden'.ne' two_ne_zero]
    refine ⟨by linarith, fun htie => ?_⟩
    have htie' : den = 2 * r := by
      have : (den : ℚ) = 2 * r := by linarith
      exact_mod_cast this
    rw [Int.even_coe_nat, Nat.even_iff]
    omega

end TypedSheets
