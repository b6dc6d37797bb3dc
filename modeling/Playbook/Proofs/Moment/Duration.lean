import Mathlib.Tactic.Linarith
import Mathlib.Tactic.NormNum
import Mathlib.Tactic.Positivity
import Mathlib.Tactic.Ring
import Playbook.Moment
import Playbook.Proofs.Number.Rounding

/-!
# Lengths of time

The length of a time in whole milliseconds is found by rounding twice, so it is close to the time
(`wholeMillis_le`, `lt_wholeMillis`). In less than `2 ^ 51` microseconds it is the time with the
rest dropped, except that a whole number of milliseconds may be shown as one less
(`wholeMillis_of_short`). However far apart two moments are, and whichever is the later, the number
of milliseconds stays small (`natAbs_millisUntil_lt`).
-/

namespace Playbook.Moment

/-! ### Microseconds -/

/-- All moments lie within the first ten thousand years. -/
theorem toMicros_lt (m : Moment) : m.toMicros < 2 ^ 59 := by
  have years : daysBeforeYear m.year ≤ 3660000 := by
    unfold daysBeforeYear
    dsimp only
    omega
  have months : daysBeforeMonth m.year m.month ≤ 335 := by
    have table : ∀ month : Fin 13, ([0, 0, 31, 59, 90, 120, 151, 181, 212, 243, 273, 304, 334].getD
        month 0 : Nat) ≤ 334 := by decide
    have := table m.month
    unfold daysBeforeMonth
    dsimp only
    split <;> omega
  unfold toMicros days dayMicros microsPerDay
  omega

/-- No two moments are further apart. -/
theorem microsUntil_lt (m n : Moment) : m.microsUntil n < 2 ^ 59 := by
  have := toMicros_lt n
  unfold microsUntil
  omega

/-! ### Milliseconds -/

open Number Number.Binary64

-- Rounding by one part in `2 ^ 53` twice changes a number by less than one part in `2 ^ 51`.
private theorem near_of_near {x y z : ℚ} (pos : 0 < x) (first : |y - x| ≤ x / 2 ^ 53)
    (second : |z - y * 1000| ≤ y * 1000 / 2 ^ 53) : |z - x * 1000| ≤ x * 1000 / 2 ^ 51 := by
  rw [abs_le] at *
  constructor
  · linarith
  · linarith

/-- Whole milliseconds are the integer part of a number that differs from the thousandth of the
microseconds by less than one part in `2 ^ 51`. -/
theorem wholeMillis_near {u : Nat} (pos : 0 < u) (small : u < 2 ^ 59) :
    ∃ z : ℚ, wholeMillis u = ⌊z⌋ ∧ |z - (u / 1000 : ℚ)| ≤ u / 1000 / 2 ^ 51 := by
  have least : (1 : ℚ) ≤ u := by exact_mod_cast pos
  have greatest : (u : ℚ) ≤ 2 ^ 59 := by exact_mod_cast small.le
  have inRange {x : ℚ} (low : 1 / 10 ^ 8 ≤ x) (high : x ≤ 2 ^ 61) : InRange x :=
    ⟨le_trans (by norm_num) low, high.trans (by norm_num)⟩
  obtain ⟨m, e, seconds, near⟩ := @ofRatio_near u 1000000 pos (by decide)
    (inRange (by push_cast; linarith) (by push_cast; linarith)) false
  push_cast at near
  have close := abs_le.mp near
  have product : (((ratio m e).1 * 1000 : Nat) : ℚ) / (ratio m e).2 = magnitude m e * 1000 := by
    push_cast
    rw [mul_div_right_comm, ratio_div]
  have positive : 0 < (ratio m e).1 := by
    rw [Nat.pos_iff_ne_zero, ne_eq, ratio_eq_zero]
    rintro rfl
    simp only [magnitude, Nat.cast_zero, zero_mul] at close
    linarith
  have range : InRange (((ratio m e).1 * 1000 : Nat) / (ratio m e).2) := by
    rw [product]
    exact inRange (by linarith) (by linarith)
  obtain ⟨m', e', millis, near'⟩ :=
    ofRatio_near (Nat.mul_pos positive (by decide)) (ratio_pos m e) range false
  rw [product] at near'
  refine ⟨magnitude m' e', ?_, ?_⟩
  · have sign : decide ((u : Int) < 0) = false := by simp
    rw [wholeMillis, sign, Int.natAbs_natCast, seconds, mulNat, ← trunc_finite, ← millis]
  · rw [show (u : ℚ) / 1000 = u / 1000000 * 1000 by ring]
    exact near_of_near (by positivity) near near'

section

variable {u : Int} (elapsed : 0 ≤ u) (small : u < 2 ^ 59)

include elapsed small

/-- Whole milliseconds are not much more than the microseconds that they stand for. -/
theorem wholeMillis_le : 2 ^ 51 * (1000 * wholeMillis u) ≤ (2 ^ 51 + 1) * u := by
  lift u to Nat using elapsed
  obtain rfl | pos := Nat.eq_zero_or_pos u
  · exact (by decide +kernel)
  · obtain ⟨z, floor, near⟩ := wholeMillis_near pos (by exact_mod_cast small)
    have below : ((wholeMillis u : Int) : ℚ) ≤ z := floor ▸ Int.floor_le z
    have close := (abs_le.mp near).2
    have : (2 : ℚ) ^ 51 * (1000 * (wholeMillis u : Int)) ≤ (2 ^ 51 + 1) * u := by linarith
    exact_mod_cast this

/-- Whole milliseconds are little more than one short of the microseconds that they stand for. -/
theorem lt_wholeMillis : (2 ^ 51 - 1) * u < 2 ^ 51 * (1000 * (wholeMillis u + 1)) := by
  lift u to Nat using elapsed
  obtain rfl | pos := Nat.eq_zero_or_pos u
  · exact (by decide +kernel)
  · obtain ⟨z, floor, near⟩ := wholeMillis_near pos (by exact_mod_cast small)
    have above : z < ((wholeMillis u : Int) : ℚ) + 1 := floor ▸ Int.lt_floor_add_one z
    have close := (abs_le.mp near).1
    have : ((2 : ℚ) ^ 51 - 1) * u < 2 ^ 51 * (1000 * ((wholeMillis u : Int) + 1)) := by linarith
    exact_mod_cast this

end

/-- In less than `2 ^ 51` microseconds, some seventy years, the rounding errors do not add up to a
microsecond: the rest is dropped, but a whole number of milliseconds may lose one of them. -/
theorem wholeMillis_of_short {u : Int} (elapsed : 0 ≤ u) (short : u < 2 ^ 51) :
    1000 * wholeMillis u ≤ u ∧ u ≤ 1000 * (wholeMillis u + 1) := by
  have low := wholeMillis_le elapsed (by omega)
  have high := lt_wholeMillis elapsed (by omega)
  omega

/-- There are as many whole milliseconds in a time that runs backwards. -/
theorem natAbs_wholeMillis (u : Int) : (wholeMillis u).natAbs = (wholeMillis u.natAbs).natAbs := by
  unfold wholeMillis
  rw [Int.natAbs_natCast]
  rcases ofRatio_signs u.natAbs 1000000 with ⟨m, e, seconds⟩ | seconds
  · rw [seconds, seconds, mulNat, mulNat]
    rcases ofRatio_signs ((ratio m e).1 * 1000) (ratio m e).2 with ⟨m', e', millis⟩ | millis
    · rw [millis, millis, natAbs_trunc_finite, natAbs_trunc_finite]
    · rw [millis, millis]
      rfl
  · rw [seconds, seconds]
    rfl

/-- No two moments are as much as `2 ^ 59` milliseconds apart. -/
theorem natAbs_millisUntil_lt (m n : Moment) : (m.millisUntil n).natAbs < 2 ^ 59 := by
  have small : ((m.microsUntil n).natAbs : Int) < 2 ^ 59 := by
    have forth := microsUntil_lt m n
    have back := microsUntil_lt n m
    unfold microsUntil at *
    omega
  have low := wholeMillis_le (Int.natCast_nonneg _) small
  have high := lt_wholeMillis (Int.natCast_nonneg _) small
  rw [millisUntil, natAbs_wholeMillis]
  omega

end Playbook.Moment
