import Mathlib.Algebra.Group.Nat.Defs
import Playbook.Moment

/-!
# Texts of moments

The numbers in the text of a moment are padded to a fixed width (`length_padded`) and can be read
off their digits (`padded_inj`). So the ISO form of a moment tells the moment (`iso_inj`).
-/

namespace Playbook.Moment

private theorem ofDigitChars_padded (width n : Nat) :
    Nat.ofDigitChars 10 (padded width n).toList 0 = n := by
  simp only [padded, String.toList_ofList, Nat.ofDigitChars_append,
    Nat.ofDigitChars_replicate_zero, Nat.mul_zero, Nat.ofDigitChars_ten_toDigits]

/-- A number can be read off its digits. -/
theorem padded_inj {width m n : Nat} (h : (padded width m).toList = (padded width n).toList) :
    m = n := by
  rw [← ofDigitChars_padded width m, h, ofDigitChars_padded]

/-- A number that is not too great takes just the digits that it is given. -/
theorem length_padded {width n : Nat} (h : n < 10 ^ width) (hw : 0 < width) :
    (padded width n).toList.length = width := by
  have digits := (Nat.length_toDigits_le_iff (by decide : 1 < 10) hw).mpr h
  simp only [padded, String.toList_ofList, List.length_append, List.length_replicate]
  omega

/-- Two moments with one ISO form are the same. -/
theorem iso_injective {m n : Moment} (h : m.iso = n.iso) : m = n := by
  have four {a b : Nat} (ha : a < 10000) (hb : b < 10000) :
      (padded 4 a).toList.length = (padded 4 b).toList.length := by
    rw [length_padded ha (by decide), length_padded hb (by decide)]
  have two {a b : Nat} (ha : a < 100) (hb : b < 100) :
      (padded 2 a).toList.length = (padded 2 b).toList.length := by
    rw [length_padded ha (by decide), length_padded hb (by decide)]
  replace h := congrArg String.toList h
  simp only [iso, String.toList_append, List.append_assoc] at h
  obtain ⟨year, h⟩ := List.append_inj h (four (by omega) (by omega))
  obtain ⟨-, h⟩ := List.append_inj h rfl
  obtain ⟨month, h⟩ := List.append_inj h (two (by omega) (by omega))
  obtain ⟨-, h⟩ := List.append_inj h rfl
  obtain ⟨day, h⟩ := List.append_inj h (two (by omega) (by omega))
  obtain ⟨-, h⟩ := List.append_inj h rfl
  obtain ⟨hour, h⟩ := List.append_inj h (two (by omega) (by omega))
  obtain ⟨-, h⟩ := List.append_inj h rfl
  obtain ⟨minute, h⟩ := List.append_inj h (two (by omega) (by omega))
  obtain ⟨-, h⟩ := List.append_inj h rfl
  obtain ⟨second, h⟩ := List.append_inj h (two (by omega) (by omega))
  -- Only the microseconds may be missing, and they are where there are none.
  have micro : m.micro.val = n.micro.val := by
    by_cases hm : m.micro.val = 0 <;> by_cases hn : n.micro.val = 0
    · rw [hm, hn]
    · simp [hm, hn] at h
    · simp [hm, hn] at h
    · simp only [hm, hn, if_false, String.toList_append] at h
      exact padded_inj (List.append_cancel_left h)
  cases m
  cases n
  simp only [mk.injEq, Fin.ext_iff]
  exact ⟨padded_inj year, padded_inj month, padded_inj day, padded_inj hour, padded_inj minute,
    padded_inj second, micro⟩

/-- The ISO form tells the moment. -/
theorem iso_inj {m n : Moment} : m.iso = n.iso ↔ m = n :=
  ⟨iso_injective, congrArg iso⟩

end Playbook.Moment
