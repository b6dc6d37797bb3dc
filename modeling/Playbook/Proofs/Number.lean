import Playbook.Number.Basic

/-!
# Integers among numbers

A floating-point number may be an integer too: it has no fractional part exactly if it equals one
(`isIntegral_iff`), and then it is below zero exactly if that integer is. A negative zero is no
number below zero.
-/

namespace Playbook

namespace Number

open Binary64 (ratio)

variable {n : Number} {s : Bool} {m : Nat} {e k : Int}

/-- A ratio has no zero below it. -/
theorem ratio_pos (m : Nat) (e : Int) : 0 < (ratio m e).2 := by
  unfold ratio
  split
  · exact Nat.one_pos
  · exact Nat.pow_pos (by decide)

/-- A ratio is zero if its mantissa is. -/
theorem ratio_eq_zero : (ratio m e).1 = 0 ↔ m = 0 := by
  unfold ratio
  split
  · have : 0 < Nat.pow 2 e.toNat := Nat.pow_pos (by decide)
    simp only [Nat.mul_eq_zero]
    omega
  · rfl

/-- A finite floating-point number is an integer if its magnitude and sign are those of it. -/
theorem equal_finite_int : (Number.real (.finite s m e)).equal (.int k) = true ↔
    k.natAbs * (ratio m e).2 = (ratio m e).1 ∧ (decide (k < 0) = s ∨ m = 0) := by
  have : (Number.real (.finite s m e)).equal (.int k) =
      (k.natAbs * (ratio m e).2 == (ratio m e).1 && (decide (k < 0) == s || m == 0)) := rfl
  simp [this]

/-- A number without a fractional part is an integer. -/
theorem isIntegral_iff : n.isIntegral = true ↔ ∃ k : Int, n.equal (.int k) = true := by
  cases n with
  | int k => simp [isIntegral, equal]
  | real x =>
    cases x with
    | infinite s => exact ⟨nofun, fun ⟨_, h⟩ ↦ nomatch h⟩
    | nan => exact ⟨nofun, fun ⟨_, h⟩ ↦ nomatch h⟩
    | finite s m e =>
      simp only [equal_finite_int]
      constructor
      · intro h
        have whole : (ratio m e).1 % (ratio m e).2 = 0 := by
          simpa [isIntegral, Binary64.isIntegral] using h
        have product := Nat.div_mul_cancel (Nat.dvd_of_mod_eq_zero whole)
        have zero : (ratio m e).1 / (ratio m e).2 = 0 → m = 0 := by
          intro h
          rw [h, Nat.zero_mul] at product
          exact ratio_eq_zero.mp product.symm
        generalize (ratio m e).1 / (ratio m e).2 = q at product zero
        cases s with
        | false => exact ⟨q, by simpa using product, by simp⟩
        | true =>
          refine ⟨-q, by simpa using product, ?_⟩
          by_cases h : q = 0
          · exact .inr (zero h)
          · left
            simp
            omega
      · rintro ⟨k, whole, -⟩
        simp [isIntegral, Binary64.isIntegral, ← whole]

/-- A number that is an integer is below zero if the integer is. -/
theorem isNegative_of_equal (h : n.equal (.int k) = true) : n.isNegative = decide (k < 0) := by
  cases n with
  | int j =>
    have : j = k := by simpa [equal] using h
    simp [isNegative, this]
  | real x =>
    cases x with
    | infinite s => cases h
    | nan => cases h
    | finite s m e =>
      obtain ⟨whole, sign⟩ := equal_finite_int.mp h
      by_cases zero : m = 0
      · have none : k = 0 := by
          rw [ratio_eq_zero.mpr zero, Nat.mul_eq_zero] at whole
          have := ratio_pos m e
          omega
        simp [isNegative, Binary64.isNegative, zero, none]
      · have := sign.resolve_right zero
        simp [isNegative, Binary64.isNegative, zero, this]

/-- The numbers without a fractional part that are not below zero are the naturals. -/
theorem isCount_iff :
    n.isIntegral = true ∧ n.isNegative = false ↔ ∃ k : Nat, n.equal (.int k) = true := by
  constructor
  · rintro ⟨whole, positive⟩
    obtain ⟨k, h⟩ := isIntegral_iff.mp whole
    rw [isNegative_of_equal h, decide_eq_false_iff_not, Int.not_lt] at positive
    exact ⟨k.toNat, by rwa [Int.toNat_of_nonneg positive]⟩
  · rintro ⟨k, h⟩
    exact ⟨isIntegral_iff.mpr ⟨k, h⟩, by simp [isNegative_of_equal h]⟩

end Number

end Playbook
