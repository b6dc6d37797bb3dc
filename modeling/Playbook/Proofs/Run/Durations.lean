import Mathlib.Algebra.BigOperators.Ring.List
import Mathlib.Algebra.Order.BigOperators.Group.List
import Playbook.Proofs.Moment.Duration
import Playbook.Proofs.Run.Sequence

/-!
# Durations

The steps of a case follow each other within the case, so their times add up to no more than the
time of the case (`CaseResult.sum_micros_le`). Their durations in whole milliseconds may add up to
one more than that of the case, since the rounding of a duration may cost it a millisecond; so they
do by one at most (`Crew.runCases_durations`), and in a case of less than seventy years only if the
case took a whole number of milliseconds.
-/

namespace Playbook

open Script

variable {σ : Type}

/-- The microseconds that a step took. -/
def StepResult.micros (r : StepResult) : Int := r.startedAt.microsUntil r.finishedAt

/-- The microseconds that a case took. -/
def CaseResult.micros (r : CaseResult) : Int := r.startedAt.microsUntil r.finishedAt

namespace CaseResult

variable {r : CaseResult}

private theorem sum_micros_le_of_ordered {start finish : Moment} {steps : List StepResult}
    (ordered : (start :: steps.flatMap StepResult.moments ++ [finish]).Pairwise (· ≤ ·)) :
    (∀ s ∈ steps, 0 ≤ s.micros) ∧ (steps.map StepResult.micros).sum ≤ start.microsUntil finish := by
  induction steps generalizing start with
  | nil =>
    have le : start ≤ finish := by simpa using ordered
    have le' : start.toMicros ≤ finish.toMicros := le
    refine ⟨nofun, ?_⟩
    simpa [Moment.microsUntil] using le'
  | cons s steps ih =>
    have shape : start :: (s :: steps).flatMap StepResult.moments ++ [finish] =
        start :: s.startedAt :: (s.finishedAt :: steps.flatMap StepResult.moments ++ [finish]) := by
      simp [StepResult.moments]
    rw [shape] at ordered
    obtain ⟨begun, ordered⟩ := List.pairwise_cons.mp ordered
    obtain ⟨ended, ordered⟩ := List.pairwise_cons.mp ordered
    obtain ⟨positive, sum⟩ := ih ordered
    have waits : start.toMicros ≤ s.startedAt.toMicros := begun _ List.mem_cons_self
    have takes : s.startedAt.toMicros ≤ s.finishedAt.toMicros := ended _ List.mem_cons_self
    unfold Moment.microsUntil at sum
    refine ⟨List.forall_mem_cons.mpr ⟨?_, positive⟩, ?_⟩
    · unfold StepResult.micros Moment.microsUntil
      omega
    · rw [List.map_cons, List.sum_cons, StepResult.micros]
      unfold Moment.microsUntil
      omega

/-- The steps of a case take no more time than the case. -/
theorem sum_micros_le (ordered : r.moments.Pairwise (· ≤ ·)) :
    (∀ s ∈ r.steps, 0 ≤ s.micros) ∧ (r.steps.map StepResult.micros).sum ≤ r.micros :=
  sum_micros_le_of_ordered ordered

/-- Steps that take time make it a case that takes time. -/
theorem micros_nonneg (ordered : r.moments.Pairwise (· ≤ ·)) : 0 ≤ r.micros := by
  obtain ⟨positive, sum⟩ := sum_micros_le ordered
  have : 0 ≤ (r.steps.map StepResult.micros).sum := by
    apply List.sum_nonneg
    intro u hu
    obtain ⟨s, hs, rfl⟩ := List.mem_map.mp hu
    exact positive s hs
  omega

/-- The durations of the steps add up to one millisecond more than that of the case at most. -/
theorem sum_millis_le (ordered : r.moments.Pairwise (· ≤ ·)) :
    (r.steps.map StepResult.millis).sum ≤ r.millis + 1 := by
  obtain ⟨positive, sum⟩ := sum_micros_le ordered
  have few : 2 ^ 51 * (1000 * (r.steps.map StepResult.millis).sum) ≤
      (2 ^ 51 + 1) * (r.steps.map StepResult.micros).sum := by
    rw [← List.sum_map_mul_left, ← List.sum_map_mul_left, ← List.sum_map_mul_left]
    exact List.sum_le_sum fun s hs ↦
      Moment.wholeMillis_le (positive s hs) (Moment.microsUntil_lt _ _)
  have many : (2 ^ 51 - 1) * r.micros < 2 ^ 51 * (1000 * (r.millis + 1)) :=
    Moment.lt_wholeMillis (micros_nonneg ordered) (Moment.microsUntil_lt _ _)
  have short : r.micros < 2 ^ 59 := Moment.microsUntil_lt _ _
  omega

/-- In a case of less than seventy years, the durations of the steps add up to no more whole
milliseconds than the case took. -/
theorem thousand_sum_millis_le (ordered : r.moments.Pairwise (· ≤ ·)) (short : r.micros < 2 ^ 51) :
    1000 * (r.steps.map StepResult.millis).sum ≤ r.micros := by
  obtain ⟨positive, sum⟩ := sum_micros_le ordered
  refine le_trans ?_ sum
  rw [← List.sum_map_mul_left]
  apply List.sum_le_sum
  intro s hs
  have within : s.micros ≤ (r.steps.map StepResult.micros).sum :=
    List.single_le_sum (fun u hu ↦ by
      obtain ⟨s', hs', rfl⟩ := List.mem_map.mp hu
      exact positive s' hs') _ (List.mem_map_of_mem hs)
  exact (Moment.wholeMillis_of_short (positive s hs) (by omega)).1

end CaseResult

/-! ### The durations of a run -/

namespace Crew

/-- Reported durations add up, but for a millisecond. If the clock never goes back, the durations of
the steps of a case add up to one millisecond more than the duration of the case at most, whatever
its steps and however it ends. In a case of less than seventy years they add up to no more than the
whole milliseconds that the case took, and these are its duration unless it took a whole number of
them, which may be shown as one less. -/
theorem runCases_durations (crew : Crew σ) (sink : Option (ResultSink σ))
    (teardown : Option (Play σ Unit)) (cases : List Case) (s : Stage σ)
    (forward : crew.NeverGoesBack sink teardown s.world) :
    ∀ r ∈ (crew.runCases sink teardown cases s).1,
      (r.steps.map StepResult.millis).sum ≤ r.millis + 1 ∧
        (r.micros < 2 ^ 51 →
          (r.steps.map StepResult.millis).sum ≤ r.micros / 1000 ∧
            (r.millis = r.micros / 1000 ∨ r.micros = 1000 * (r.millis + 1))) := by
  intro r hr
  have told := (told_runInTurn forward cases [] (.nothing s)).ordered
  have ordered : r.moments.Pairwise (· ≤ ·) := (List.pairwise_flatMap.mp told).1 r hr
  refine ⟨CaseResult.sum_millis_le ordered, fun short ↦ ?_⟩
  have sum := CaseResult.thousand_sum_millis_le ordered short
  obtain ⟨low, high⟩ : 1000 * r.millis ≤ r.micros ∧ r.micros ≤ 1000 * (r.millis + 1) :=
    Moment.wholeMillis_of_short (CaseResult.micros_nonneg ordered) short
  omega

end Crew

/-! ### A case that is shown as too short -/

/-- Three moments: the second comes a second after the first, the third a millisecond later. -/
def chime : Nat → Moment
  | 0 => dawn 0
  | 1 => { dawn 0 with second := ⟨9, by decide⟩ }
  | _ => { dawn 1000 with second := ⟨9, by decide⟩ }

/-- A crew whose actions each last until the next of these moments. -/
def chimingCrew : Crew Nat :=
  { perform := fun _ _ s => .ok () { s with world := s.world + 1 }
    clock := fun w => (chime w, w)
    conditions := {} }

/-- A case with a step of a second and a step of a millisecond. -/
def chimingCases : List Case := [⟨"Chimes", [.action "Wait" [], .action "Wait" []]⟩]

private theorem chime_le {m n : Nat} (h : m ≤ n) : chime m ≤ chime n := by
  have second : (chime 0).toMicros ≤ (chime 1).toMicros := by decide
  have third : (chime 1).toMicros ≤ (chime 2).toMicros := by decide
  match m, n with
  | 0, 0 | 1, 1 | _ + 2, _ + 2 => exact Nat.le_refl _
  | 0, 1 => exact second
  | 0, _ + 2 => exact second.trans third
  | 1, _ + 2 => exact third
  | 1, 0 | _ + 2, 0 | _ + 2, 1 => omega

private theorem chimingCrew_neverGoesBack (start : Nat) :
    chimingCrew.NeverGoesBack none none start := by
  have later (w w' : Nat) (le : w ≤ w') :
      (chimingCrew.clock w).1 ≤ (chimingCrew.clock w').1 := chime_le le
  refine Crew.neverGoesBack_of_grows id (fun w w' next ↦ ?_) later start
  cases next with
  | read => exact Nat.le_refl _
  | performed => exact Nat.le_succ _
  | asked known => cases known
  | recorded given => cases given
  | tornDown given => cases given

/-- A case of 1001 milliseconds is shown with 1000, and its steps with 1000 and with 1. -/
theorem durations_of_chimes :
    let results := (chimingCrew.runCases none none chimingCases { world := 0 }).1
    chimingCrew.NeverGoesBack none none 0 ∧
      results.map (fun r => (r.micros, r.millis, r.steps.map StepResult.millis)) =
        [(1001000, 1000, [1000, 1])] ∧
      ∀ r ∈ results,
        (r.steps.map StepResult.millis).sum ≤ r.millis + 1 ∧
          (r.micros < 2 ^ 51 →
            (r.steps.map StepResult.millis).sum ≤ r.micros / 1000 ∧
              (r.millis = r.micros / 1000 ∨ r.micros = 1000 * (r.millis + 1))) := by
  intro results
  refine ⟨chimingCrew_neverGoesBack 0, by decide +kernel, ?_⟩
  exact chimingCrew.runCases_durations none none chimingCases { world := 0 }
    (chimingCrew_neverGoesBack 0)

/-- The durations of the steps of a case may add up to more than the duration of the case. -/
theorem steps_outlast_case :
    ¬ ∀ (crew : Crew Nat) (sink : Option (ResultSink Nat)) (teardown : Option (Play Nat Unit))
        (cases : List Case) (s : Stage Nat), crew.NeverGoesBack sink teardown s.world →
      ∀ r ∈ (crew.runCases sink teardown cases s).1,
        (r.steps.map StepResult.millis).sum ≤ r.millis := by
  intro adds
  have within := adds chimingCrew none none chimingCases { world := 0 }
    (chimingCrew_neverGoesBack 0)
  revert within
  decide +kernel

end Playbook
