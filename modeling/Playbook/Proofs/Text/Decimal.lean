import Mathlib.Data.List.Induction
import Mathlib.Data.Nat.Digits.Defs
import Playbook.Text.Digit

/-!
# Decimal numbers

A text denotes a number just if all its characters are decimal digits, whatever scripts they are
from (`isSome_decimalValue?`), and then it is the number of these digits in base ten
(`SpellDigits.decimalValue?`). So a numeral that is no decimal digit keeps a text from denoting one
(`decimalValue?_eq_none`).
-/

namespace Playbook.Text

variable {cs : List Char} {ds : List Nat}

/-- The characters are decimal digits of these values. -/
def SpellDigits (cs : List Char) (ds : List Nat) : Prop :=
  cs.map digitValue? = ds.map some

/-- Whether digits are spelled is told character by character. -/
instance (cs : List Char) (ds : List Nat) : Decidable (SpellDigits cs ds) :=
  inferInstanceAs (Decidable (cs.map digitValue? = ds.map some))

/-- A text is as long as the digits that it spells. -/
theorem SpellDigits.length_eq (h : SpellDigits cs ds) : cs.length = ds.length := by
  simpa using congrArg List.length h

/-- What spells digits holds nothing but decimal digits. -/
theorem SpellDigits.isDigit (h : SpellDigits cs ds) : ∀ c ∈ cs, isDigit c = true := by
  intro c hc
  obtain ⟨d, -, value⟩ := List.mem_map.mp (h ▸ List.mem_map_of_mem hc)
  rw [Text.isDigit, ← value, Option.isSome_some]

/-- One more digit makes ten times the number and the value of the digit. -/
theorem decimalValue?_concat (cs : List Char) (c : Char) :
    decimalValue? (cs ++ [c]) =
      (decimalValue? cs).bind fun n ↦ (digitValue? c).map (10 * n + ·) := by
  rw [decimalValue?, List.foldl_append]
  rfl

/-- A text that spells digits denotes the number that they are in base ten, the last one first. -/
theorem SpellDigits.decimalValue? (h : SpellDigits cs ds) :
    decimalValue? cs = some (Nat.ofDigits 10 ds.reverse) := by
  induction cs using List.reverseRecOn generalizing ds with
  | nil =>
    rw [List.map_eq_nil_iff.mp h.symm]
    rfl
  | append_singleton cs c ih =>
    rw [SpellDigits, List.map_append] at h
    obtain ⟨front, last, rfl, spelled, lastSpelled⟩ := List.map_eq_append_iff.mp h.symm
    obtain ⟨d, rfl, value⟩ := List.map_eq_singleton_iff.mp lastSpelled
    have whole : Nat.ofDigits 10 (front ++ [d]).reverse =
        10 * Nat.ofDigits 10 front.reverse + d := by
      rw [List.reverse_concat, Nat.ofDigits_cons, Nat.add_comm]
    rw [decimalValue?_concat, ih spelled.symm, whole, Option.bind_some, ← value, Option.map_some]

/-- A text denotes a number just if it holds nothing but decimal digits. -/
theorem isSome_decimalValue? (cs : List Char) : (decimalValue? cs).isSome = cs.all isDigit := by
  induction cs using List.reverseRecOn with
  | nil => rfl
  | append_singleton cs c ih =>
    rw [decimalValue?_concat, List.all_append, ← ih, List.all_cons, List.all_nil, Bool.and_true,
      isDigit]
    cases decimalValue? cs with
    | none => rfl
    | some n => rw [Option.bind_some, Option.isSome_map, Option.isSome_some, Bool.true_and]

/-- A character that is no decimal digit keeps a text from denoting a number. -/
theorem decimalValue?_eq_none {c : Char} (hc : c ∈ cs) (h : isDigit c = false) :
    decimalValue? cs = none := by
  have notAll : cs.all isDigit = false := List.all_eq_false.mpr ⟨c, hc, Bool.eq_false_iff.mp h⟩
  rw [← isSome_decimalValue?] at notAll
  exact Option.not_isSome_iff_eq_none.mp (Bool.eq_false_iff.mp notAll)

end Playbook.Text
