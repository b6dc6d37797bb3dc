import Mathlib.Algebra.Order.Field.Power
import Mathlib.Data.Rat.Floor
import Mathlib.Tactic.GCongr
import Mathlib.Tactic.Linarith
import Mathlib.Tactic.NormNum
import Mathlib.Tactic.Positivity
import Mathlib.Tactic.Ring
import Playbook.Proofs.Number

/-!
# Rounding errors

A floating-point number is a rational number, its `magnitude`. Rounding a quotient of naturals to
the nearest floating-point number changes it by one part in `2 ^ 53` at most (`ofRatio_near`), as
long as the quotient is far from the ends of the range: the power of two of such a quotient gives it
a mantissa of exactly 53 bits (`exponentOf_spec`), and the mantissa is rounded by half a unit
(`abs_roundDiv_sub_le`).
-/

namespace Playbook.Number

variable {num den : Nat}

/-- A rounded quotient is within half a unit of the quotient. -/
theorem abs_roundDiv_sub_le (hd : 0 < den) : |(roundDiv num den : ℚ) - num / den| ≤ 1 / 2 := by
  obtain ⟨low, high⟩ := @roundDiv_bounds num den hd
  have low' : 2 * (num : ℚ) ≤ (2 * roundDiv num den + 1) * den := by exact_mod_cast low
  have high' : 2 * roundDiv num den * (den : ℚ) ≤ 2 * num + den := by exact_mod_cast high
  have hd' : (0 : ℚ) < den := by exact_mod_cast hd
  have quotient : (num / den : ℚ) * den = num := div_mul_cancel₀ _ hd'.ne'
  have product := sub_mul (roundDiv num den : ℚ) (num / den) den
  rw [abs_le]
  constructor
  · refine le_of_mul_le_mul_right ?_ hd'
    linarith
  · refine le_of_mul_le_mul_right ?_ hd'
    linarith

/-- The logarithms of two naturals tell their quotient to a factor of two. -/
theorem log2_quotient (hn : 0 < num) (hd : 0 < den) :
    (2 : ℚ) ^ ((num.log2 : ℤ) - den.log2 - 1) < num / den ∧
      (num / den : ℚ) < 2 ^ ((num.log2 : ℤ) - den.log2 + 1) := by
  have bounds {n : Nat} (h : 0 < n) : (2 : ℚ) ^ n.log2 ≤ n ∧ (n : ℚ) < 2 ^ (n.log2 + 1) :=
    ⟨by exact_mod_cast Nat.log2_self_le h.ne', by exact_mod_cast Nat.lt_log2_self⟩
  obtain ⟨numLow, numHigh⟩ := bounds hn
  obtain ⟨denLow, denHigh⟩ := bounds hd
  have hd' : (0 : ℚ) < den := by exact_mod_cast hd
  constructor
  · rw [lt_div_iff₀ hd']
    calc (2 : ℚ) ^ ((num.log2 : ℤ) - den.log2 - 1) * den
        < 2 ^ ((num.log2 : ℤ) - den.log2 - 1) * 2 ^ (den.log2 + 1) := by gcongr
      _ = 2 ^ num.log2 := by
        rw [← zpow_natCast, ← zpow_add₀ two_ne_zero, ← zpow_natCast]
        congr 1
        push_cast
        ring
      _ ≤ num := numLow
  · rw [div_lt_iff₀ hd']
    calc (num : ℚ) < 2 ^ (num.log2 + 1) := numHigh
      _ = 2 ^ ((num.log2 : ℤ) - den.log2 + 1) * 2 ^ den.log2 := by
        rw [← zpow_natCast, ← zpow_natCast, ← zpow_add₀ two_ne_zero]
        congr 1
        push_cast
        ring
      _ ≤ 2 ^ ((num.log2 : ℤ) - den.log2 + 1) * den := by gcongr

namespace Binary64

/-- The rational number that a mantissa and an exponent denote. -/
def magnitude (m : Nat) (e : Int) : ℚ := m * 2 ^ e

private theorem cast_pow_toNat {e : Int} (h : 0 ≤ e) : ((Nat.pow 2 e.toNat : Nat) : ℚ) = 2 ^ e := by
  rw [Nat.pow_eq, Nat.cast_pow, Nat.cast_ofNat, ← zpow_natCast, Int.toNat_of_nonneg h]

/-- The quotient of naturals for a mantissa and an exponent is what they denote. -/
theorem ratio_div (m : Nat) (e : Int) :
    ((ratio m e).1 : ℚ) / (ratio m e).2 = magnitude m e := by
  rw [ratio, magnitude]
  split
  · next h =>
    push_cast
    rw [cast_pow_toNat h, div_one]
  · next h => rw [cast_pow_toNat (by omega), zpow_neg, div_inv_eq_mul]

/-- The integer part of a number that is not negative is the greatest integer up to it. -/
theorem trunc_finite (m : Nat) (e : Int) : (finite false m e).trunc = ⌊magnitude m e⌋ := by
  rw [← ratio_div, Rat.floor_natCast_div_natCast]
  rfl

/-- A quotient is rounded to the same magnitude whatever its sign. -/
theorem ofRatio_signs (num den : Nat) :
    (∃ m e, ∀ negative, ofRatio negative num den = .finite negative m e) ∨
      ∀ negative, ofRatio negative num den = .infinite negative := by
  unfold ofRatio
  split
  · exact .inl ⟨_, _, fun _ ↦ rfl⟩
  · dsimp only
    split
    all_goals
      split
      · exact .inl ⟨_, _, fun _ ↦ rfl⟩
      · exact .inr fun _ ↦ rfl

/-- The integer part of a number has the same magnitude whatever the sign. -/
theorem natAbs_trunc_finite (negative : Bool) (m : Nat) (e : Int) :
    (finite negative m e).trunc.natAbs = (ratio m e).1 / (ratio m e).2 := by
  cases negative with
  | false => rfl
  | true => exact Int.natAbs_neg _

/-- The denominator of a scaled quotient is positive if that of the quotient is. -/
theorem scaleDown_pos (hd : 0 < den) (e : Int) : 0 < (scaleDown num den e).2 := by
  unfold scaleDown
  split
  · exact Nat.mul_pos hd (Nat.pow_pos (by decide))
  · exact hd

/-- A quotient is scaled down by dividing it by a power of two. -/
theorem scaleDown_div (num den : Nat) (e : Int) :
    ((scaleDown num den e).1 : ℚ) / (scaleDown num den e).2 = num / den / 2 ^ e := by
  unfold scaleDown
  split
  · next h =>
    push_cast
    rw [cast_pow_toNat h, div_div]
  · next h =>
    push_cast
    rw [cast_pow_toNat (by omega), zpow_neg, div_eq_mul_inv _ ((2 : ℚ) ^ e), mul_div_right_comm]

/-- A quotient is far from the ends of what floating-point numbers can denote. -/
structure InRange (x : ℚ) : Prop where
  low : 2 ^ (-200 : ℤ) ≤ x
  high : x ≤ 2 ^ (200 : ℤ)

/-- The power of two of a quotient in range gives it a mantissa of 53 bits. -/
theorem exponentOf_spec (hn : 0 < num) (hd : 0 < den) (range : InRange (num / den)) :
    exponentOf num den < maxExponent ∧ (2 : ℚ) ^ 52 ≤ num / den / 2 ^ exponentOf num den ∧
      (num / den / 2 ^ exponentOf num den : ℚ) < 2 ^ 53 := by
  obtain ⟨low, high⟩ := log2_quotient hn hd
  have above : (-200 : ℤ) < (num.log2 : ℤ) - den.log2 + 1 :=
    (zpow_lt_zpow_iff_right₀ one_lt_two).mp (range.low.trans_lt high)
  have below : (num.log2 : ℤ) - den.log2 - 1 < (200 : ℤ) :=
    (zpow_lt_zpow_iff_right₀ one_lt_two).mp (low.trans_le range.high)
  set e : ℤ := (num.log2 : ℤ) - den.log2 - 53 with he
  have fits : (scaleDown num den e).1 < mantissaLimit * (scaleDown num den e).2 ↔
      (num / den / 2 ^ e : ℚ) < 2 ^ 53 := by
    have pos : (0 : ℚ) < (scaleDown num den e).2 := by exact_mod_cast scaleDown_pos hd e
    rw [← scaleDown_div, div_lt_iff₀ pos, mantissaLimit, ← Nat.cast_lt (α := ℚ)]
    push_cast
    norm_num
  have pos : (0 : ℚ) < 2 ^ e := by positivity
  have power (k : ℤ) : (2 : ℚ) ^ (e + k) = 2 ^ e * 2 ^ k := zpow_add₀ two_ne_zero e k
  have low' : (2 : ℚ) ^ 52 < num / den / 2 ^ e := by
    rw [lt_div_iff₀ pos, mul_comm]
    rwa [show (num.log2 : ℤ) - den.log2 - 1 = e + 52 by omega, power] at low
  have high' : (num / den / 2 ^ e : ℚ) < 2 ^ 54 := by
    rw [div_lt_iff₀ pos, mul_comm]
    rwa [show (num.log2 : ℤ) - den.log2 + 1 = e + 54 by omega, power] at high
  -- The logarithms leave two powers of two; the least exponent is far below both.
  by_cases h : (num / den / 2 ^ e : ℚ) < 2 ^ 53
  · have same : exponentOf num den = e := by
      simp only [exponentOf, ← he, if_pos (fits.mpr h), minExponent]
      omega
    rw [same, maxExponent]
    exact ⟨by omega, low'.le, h⟩
  · have next : exponentOf num den = e + 1 := by
      simp only [exponentOf, ← he, if_neg (mt fits.mp h), minExponent]
      omega
    rw [next, maxExponent, power, ← div_div]
    refine ⟨by omega, ?_, ?_⟩
    · linarith
    · linarith

/-- The number nearest to a quotient in range differs from it by one part in `2 ^ 53` at most. -/
theorem ofRatio_near (hn : 0 < num) (hd : 0 < den) (range : InRange (num / den)) (s : Bool) :
    ∃ m e, ofRatio s num den = .finite s m e ∧
      |magnitude m e - num / den| ≤ num / den / 2 ^ 53 := by
  obtain ⟨upper, low, -⟩ := exponentOf_spec hn hd range
  set e := exponentOf num den with he
  set k := roundDiv (scaleDown num den e).1 (scaleDown num den e).2 with hk
  have close : |magnitude k e - num / den| ≤ num / den / 2 ^ 53 := by
    have pos : (0 : ℚ) < 2 ^ e := by positivity
    have near : |(k : ℚ) - num / den / 2 ^ e| ≤ 1 / 2 := by
      rw [← scaleDown_div]
      exact abs_roundDiv_sub_le (scaleDown_pos hd e)
    have scaled : magnitude k e - num / den = (k - num / den / 2 ^ e) * 2 ^ e := by
      rw [magnitude, sub_mul, div_mul_cancel₀ _ pos.ne']
    have unit : (2 : ℚ) ^ 52 * 2 ^ e ≤ num / den := (le_div_iff₀ pos).mp low
    rw [scaled, abs_mul, abs_of_pos pos]
    calc |(k : ℚ) - num / den / 2 ^ e| * 2 ^ e ≤ 1 / 2 * 2 ^ e := by gcongr
      _ = 2 ^ 52 * 2 ^ e / 2 ^ 53 := by ring
      _ ≤ num / den / 2 ^ 53 := by gcongr
  by_cases carry : k = mantissaLimit
  · -- A mantissa that was rounded up to 54 bits is halved, and denotes the same number.
    have same : magnitude (mantissaLimit / 2) (e + 1) = magnitude k e := by
      rw [carry, magnitude, magnitude, zpow_add₀ two_ne_zero, mantissaLimit]
      norm_num
      ring
    have fits : e + 1 ≤ maxExponent := Int.add_one_le_of_lt upper
    refine ⟨mantissaLimit / 2, e + 1, ?_, same ▸ close⟩
    simp only [ofRatio, hn.ne', ← he, ← hk, carry, fits, if_true, if_false]
  · refine ⟨k, e, ?_, close⟩
    simp only [ofRatio, hn.ne', ← he, ← hk, carry, upper.le, if_true, if_false]

end Binary64

end Playbook.Number
