import Playbook.Proofs.Run.Looping
import Playbook.Proofs.Script.Header

/-!
# Splitting loops

A loop whose header lists items is as good as two loops with the same body one after the other, the
first over the first items and the second over the remaining ones (`runStep_loop_append`). Nobody
can tell them apart: both are the same computation, with a performer that fails or writes variables
as with any other one, so also where the first loop fails the second one is not begun.
-/

namespace Playbook

open Script

variable {σ : Type}

/-- The items of two lists are taken in turn as those of the first and then those of the second. -/
theorem Walking.forItems_append (body : String → Walking σ Unit) (xs ys : List String) :
    forItems body (xs ++ ys) = (do forItems body xs; forItems body ys) := by
  induction xs with
  | nil => rfl
  | cons x xs ih => rw [List.cons_append, forItems, forItems, ih, bind_assoc]

namespace Crew

variable (crew : Crew σ)

private theorem runSteps_cons (item : Option String) (s : Step) (rest : List Step) :
    crew.runSteps item (s :: rest) = (do crew.runStep item s; crew.runSteps item rest) := rfl

private theorem runSteps_singleton (item : Option String) (s : Step) :
    crew.runSteps item [s] = crew.runStep item s :=
  bind_pure_unit

/-- The pass of a loop for an item. -/
def pass (name : String) (body : List Step) (i : String) : Walking σ Unit := do
  Walking.ofRoutine (Routine.bindVariable name (.text i))
  crew.runSteps (some i) body

section

variable {h : LoopHeader} (hn : IsLoopName h.name) (hi : ∀ item ∈ h.items, IsListable item)

include hn hi

/-- A written header is read on every stage as it was meant, and nothing else happens. -/
theorem loopHeader_written : loopHeader h.written = (pure h : Walking σ LoopHeader) := by
  funext w
  apply loopHeader_of_some
  rw [Environment.substitute_eq_self _ (LoopHeader.noBrace_written hn hi),
    LoopHeader.ofText?_written hn hi]

/-- A loop with a written header makes a pass for each of its items. -/
theorem runStep_written (body : List Step) (item : Option String) :
    crew.runStep item (.loop h.written body) =
      Walking.forItems (crew.pass h.name body) h.items := by
  rw [runStep, Step.loop, walkStep, Option.getD_some, loopHeader_written hn hi, pure_bind]
  rfl

end

/-- A loop over items does exactly what two loops with its body do one after the other, the first
over some items from the start and the second over the remaining ones: whatever the body holds, and
whatever performer, predicates and clock do, they are asked the same in the same order, and results,
variables and failure are the same. -/
theorem runStep_loop_append {name : String} (hn : IsLoopName name) {xs ys : List String}
    (hxs : ∀ item ∈ xs, IsListable item) (hys : ∀ item ∈ ys, IsListable item) (body : List Step)
    (item : Option String) :
    crew.runStep item (.loop (LoopHeader.written ⟨name, xs ++ ys⟩) body) =
      crew.runSteps item
        [.loop (LoopHeader.written ⟨name, xs⟩) body,
          .loop (LoopHeader.written ⟨name, ys⟩) body] := by
  rw [runSteps_cons, runSteps_singleton,
    crew.runStep_written (h := ⟨name, xs ++ ys⟩) hn (List.forall_mem_append.mpr ⟨hxs, hys⟩),
    crew.runStep_written (h := ⟨name, xs⟩) hn hxs, crew.runStep_written (h := ⟨name, ys⟩) hn hys]
  exact Walking.forItems_append _ xs ys

/-- A loop over a blank item, one with brackets and one with a line end is split before its last
item. -/
theorem loop_split_before_last :
    let body := [Step.action "Say" [], .loop "y in [d]" [.action "Ask" []]]
    IsLoopName "x y" ∧ (∀ item ∈ ["", "a] [b"], IsListable item) ∧
      (∀ item ∈ ["c\nd"], IsListable item) ∧
      (idleCrew {}).runStep none
          (.loop "x y in [\"\", \"a] [b\", \"c\nd\"]" body) =
        (idleCrew {}).runSteps none
          [.loop "x y in [\"\", \"a] [b\"]" body, .loop "x y in [\"c\nd\"]" body] := by
  intro body
  have named : IsLoopName "x y" := by decide +kernel
  have first : ∀ item ∈ ["", "a] [b"], IsListable item := by decide +kernel
  have second : ∀ item ∈ ["c\nd"], IsListable item := by decide +kernel
  exact ⟨named, first, second, runStep_loop_append _ named first second body none⟩

end Crew

end Playbook
