import Playbook.Proofs.Run.Contract
import Playbook.Run.Interpreter

/-!
# Performing an action

An action is performed between two readings of the clock, and one step result tells of it, whether
the performer goes through (`performAction_of_ok`) or fails (`performAction_of_error`). Testing a
condition and reading a loop header leave the step results as they are.
-/

namespace Playbook

open Script

variable {σ : Type}

namespace Stage

/-- The time on a clock. -/
def time (clock : Clock σ) (s : Stage σ) : Moment := (clock s.world).1

/-- The stage after a clock was read. -/
def ticked (clock : Clock σ) (s : Stage σ) : Stage σ := { s with world := (clock s.world).2 }

/-- The stage with one more entry in its log. -/
def logged (level : Level) (source : Source) (text : String) (s : Stage σ) : Stage σ :=
  { s with log := s.log ++ [⟨level, source, text⟩] }

/-- The stage with a variable bound. -/
def bound (name : String) (v : Value) (s : Stage σ) : Stage σ :=
  { s with environment := s.environment.set name v }

end Stage

/-- The action that a template stands for. -/
def Environment.actionOf (e : Environment) (text : Option String) : String :=
  e.substitute (text.getD "")

/-- The parameters that are handed over for the parameters of a step. -/
def Environment.parametersOf (e : Environment) (parameters : List (Option String)) :
    List String :=
  parameters.map fun p => e.substitute (p.getD "")

/-- What every predicate keeps, and reports keep, evaluating a condition keeps. -/
theorem Registry.keeps_evaluate {inv : Stage σ → Prop} {broken : Failure → Stage σ → Prop}
    {r : Registry σ} (predicates : ∀ p ∈ r.entries, ∀ argument, Keeps inv broken (p.2 argument))
    (reports : ∀ s, inv s → ∀ level source text, inv (s.logged level source text))
    (condition : String) : Keeps inv broken (r.evaluate condition) := by
  have report : ∀ level source text, Keeps inv broken (Play.report level source text) :=
    fun level source text s h ↦ reports s h level source text
  unfold Registry.evaluate
  dsimp only
  split
  · next argument p h =>
    obtain ⟨q, hq, found⟩ := Option.map_eq_some_iff.mp h
    obtain ⟨rfl, rfl⟩ := Prod.mk.inj found
    exact .bind (predicates q (List.mem_of_find?_eq_some hq) _) fun _ ↦
      .bind (report _ _ _) fun _ ↦ .pure _
  · exact .bind (report _ _ _) fun _ ↦ .pure true

/-- The predicates that are always known all test the title of the page. -/
theorem Registry.eq_of_mem_standard {p : List Char × Predicate σ}
    (h : p ∈ (Registry.standard : Registry σ).entries) : p.2 = pageTitleContains := by
  simp only [Registry.standard, Registry.register, List.nil_append, List.cons_append,
    List.mem_cons, List.not_mem_nil, or_false] at h
  obtain rfl | rfl := h
  · rfl
  · rfl

namespace Walking

variable {α : Type} {p : Play σ α} {w : Walk σ} {s : Stage σ}

private theorem ofRoutine_attempt_of_ok {a : α} (h : p w.stage = .ok a s) :
    ofRoutine (Routine.attempt p) w = .ok (.ok a) { w with stage := s } := by
  simp only [ofRoutine, Routine.attempt, h]

private theorem ofRoutine_attempt_of_error {e : Failure} (h : p w.stage = .error e s) :
    ofRoutine (Routine.attempt p) w = .ok (.error e) { w with stage := s } := by
  simp only [ofRoutine, Routine.attempt, h]

/-- Where a play goes through, so does the walk, on the stage that the play leaves. -/
theorem ofPlay_of_ok {a : α} (h : p w.stage = .ok a s) :
    ofPlay p w = .ok a { w with stage := s } := by
  simp only [ofPlay, h]

/-- Where a play fails, so does the walk, on the stage that the play leaves. -/
theorem ofPlay_of_error {e : Failure} (h : p w.stage = .error e s) :
    ofPlay p w = .error e { w with stage := s } := by
  simp only [ofPlay, h]

/-- What a play keeps of the stage, it keeps in a walk. -/
theorem keeps_ofPlay {inv : Stage σ → Prop} {broken : Failure → Stage σ → Prop}
    (h : Keeps inv broken p) :
    Keeps (fun w ↦ inv w.stage) (fun e w ↦ broken e w.stage) (ofPlay p) := by
  intro w hw
  cases hp : p w.stage with
  | ok a s =>
    rw [ofPlay_of_ok hp]
    exact h.of_ok hw hp
  | error e s =>
    rw [ofPlay_of_error hp]
    exact h.of_error hw hp

/-- A walk that goes through ends without a failure. -/
theorem ending_of_ok {walk : Walking σ Unit} {w' : Walk σ} (h : walk w = .ok () w') :
    walk.ending w = (none, w') := by
  simp only [ending, h]

/-- A walk that fails ends with its failure. -/
theorem ending_of_error {walk : Walking σ Unit} {w' : Walk σ} {e : Failure}
    (h : walk w = .error e w') : walk.ending w = (some e, w') := by
  simp only [ending, h]

/-- What a walk keeps holds where it ends, and it leaves `broken` where it ends with a failure. -/
theorem ending_of_keeps {inv : Walk σ → Prop} {broken : Failure → Walk σ → Prop}
    {walk : Walking σ Unit} (h : Keeps inv broken walk) (hw : inv w) :
    match walk.ending w with
    | (none, w') => inv w'
    | (some e, w') => broken e w' := by
  cases hr : walk w with
  | ok _ w' =>
    rw [ending_of_ok hr]
    exact h.of_ok hw hr
  | error e w' =>
    rw [ending_of_error hr]
    exact h.of_error hw hr

/-- What a walk leaves, whether it goes through or fails, holds where it ends. -/
theorem leaves_ending {inv broken : Walk σ → Prop} {walk : Walking σ Unit}
    (h : Keeps inv (fun _ ↦ broken) walk) (weaker : ∀ {w}, inv w → broken w) (hw : inv w) :
    broken (walk.ending w).2 := by
  have ended := ending_of_keeps h hw
  generalize walk.ending w = ending at ended ⊢
  obtain ⟨none | e, w'⟩ := ending
  · exact weaker ended
  · exact ended

end Walking

/-- The walk that a case starts with. -/
def Walk.opened (clock : Clock σ) (name : String) (s : Stage σ) : Walk σ :=
  { stage := (openCase clock name s).2 }

/-- The parts of a run of a case: it is opened, walked and closed. -/
theorem runWalk_eq (clock : Clock σ) (name : String) (walk : Walking σ Unit) (s : Stage σ) :
    runWalk clock name walk s =
      let ending := walk.ending (.opened clock name s)
      closeCase clock name (openCase clock name s).1 ending.1 ending.2 ending.2.stage := rfl

/-- A case that ends tells when it ends, and only the clock is read. -/
theorem closeCase_spec (clock : Clock σ) (name : String) (startedAt : Moment)
    (failure : Option Failure) (w : Walk σ) (s : Stage σ) :
    let ended := closeCase clock name startedAt failure w s
    ended.1.startedAt = startedAt ∧ ended.1.finishedAt = s.time clock ∧
      ended.1.steps = w.steps ∧ ended.2.world = (s.ticked clock).world := by
  cases failure with
  | none => exact ⟨rfl, rfl, rfl, rfl⟩
  | some e => exact ⟨rfl, rfl, rfl, rfl⟩

namespace Crew

private theorem mapM_substitute (parameters : List (Option String)) :
    (parameters.mapM fun p => Routine.substitute (p.getD "")) =
      (fun s : Stage σ ↦ (s.environment.parametersOf parameters, s) :
        Routine σ (List String)) := by
  induction parameters with
  | nil => rfl
  | cons p rest ih =>
    rw [List.mapM_cons, ih]
    rfl

variable (crew : Crew σ) (text : Option String) (parameters : List (Option String)) (w : Walk σ)

/-- What becomes of a step when it is handed to the performer. -/
def handOver : EStateM.Result Failure (Stage σ) Unit :=
  crew.perform (w.stage.environment.actionOf text) (w.stage.environment.parametersOf parameters)
    (w.stage.ticked crew.clock)

/-- The result of a step whose performance ended on a stage, with a failure or without. -/
def stepResult (s : Stage σ) (failure : Option Failure) : StepResult :=
  { number := w.steps.length + 1
    action := w.stage.environment.actionOf text
    parameters := w.stage.environment.parametersOf parameters
    status := if failure.isSome then Status.failed else Status.passed
    startedAt := w.stage.time crew.clock
    finishedAt := s.time crew.clock
    error := failure.map Failure.message
    screenshot := failure.bind Failure.screenshot?
    video := failure.bind Failure.video? }

/-- The walk after a step whose performance ended on a stage. -/
def afterStep (s : Stage σ) (failure : Option Failure) : Walk σ :=
  let verb := if failure.isSome then " failed" else ""
  { stage := (s.ticked crew.clock).logged (if failure.isSome then .warning else .info) .runner
      (stepLine (w.steps.length + 1) verb (w.stage.environment.actionOf text)
        (w.stage.environment.parametersOf parameters))
    steps := w.steps ++ [crew.stepResult text parameters w s failure]
    status := if failure.isSome then Status.failed else w.status }

variable {crew text parameters w}

private theorem performAction_eq :
    crew.performAction text parameters w =
      match crew.handOver text parameters w with
      | .ok () s => .ok () (crew.afterStep text parameters w s none)
      | .error e s => .error e (crew.afterStep text parameters w s (some e)) := by
  unfold performAction
  rw [mapM_substitute]
  refine (bind_of_ok _ (t := w) rfl).trans ?_
  refine (bind_of_ok _ (t := w) rfl).trans ?_
  refine (bind_of_ok _ (t := w) rfl).trans ?_
  refine (bind_of_ok _ (t := { w with stage := w.stage.ticked crew.clock }) rfl).trans ?_
  cases h : crew.handOver text parameters w with
  | ok a s => exact bind_of_ok _ (Walking.ofRoutine_attempt_of_ok h)
  | error e s => exact bind_of_ok _ (Walking.ofRoutine_attempt_of_error h)

/-- An action that goes through leaves its result, and the walk goes on. -/
theorem performAction_of_ok {s : Stage σ} (h : crew.handOver text parameters w = .ok () s) :
    crew.performAction text parameters w = .ok () (crew.afterStep text parameters w s none) := by
  rw [performAction_eq, h]

/-- An action that fails leaves its result, too, and its failure ends the walk. -/
theorem performAction_of_error {s : Stage σ} {e : Failure}
    (h : crew.handOver text parameters w = .error e s) :
    crew.performAction text parameters w =
      .error e (crew.afterStep text parameters w s (some e)) := by
  rw [performAction_eq, h]

/-- A condition is evaluated with its references substituted. -/
theorem conditionHolds_eq (crew : Crew σ) (condition : String) (w : Walk σ) :
    crew.conditionHolds condition w =
      Walking.ofPlay (crew.conditions.evaluate (w.stage.environment.substitute condition)) w :=
  rfl

/-- What every predicate keeps, and reports keep, a condition keeps. -/
theorem keeps_conditionHolds {crew : Crew σ} {inv : Stage σ → Prop}
    {broken : Failure → Stage σ → Prop}
    (predicates : ∀ p ∈ crew.conditions.entries, ∀ argument, Keeps inv broken (p.2 argument))
    (reports : ∀ s, inv s → ∀ level source text, inv (s.logged level source text))
    (condition : String) :
    Keeps (fun w ↦ inv w.stage) (fun e w ↦ broken e w.stage) (crew.conditionHolds condition) := by
  intro w hw
  rw [conditionHolds_eq]
  exact Walking.keeps_ofPlay (Registry.keeps_evaluate predicates reports _) w hw

/-- A header that can be read once its references are substituted is read, and nothing else
happens. -/
theorem loopHeader_of_some {header : String} {w : Walk σ} {h : LoopHeader}
    (hh : LoopHeader.ofText? (w.stage.environment.substitute header) = some h) :
    loopHeader header w = .ok h w := by
  unfold loopHeader
  refine (bind_of_ok _ (t := w) rfl).trans ?_
  rw [LoopHeader.parse, hh]
  rfl

/-- A header that cannot be read ends the walk where it is. -/
theorem loopHeader_of_none {header : String} {w : Walk σ}
    (hh : LoopHeader.ofText? (w.stage.environment.substitute header) = none) :
    loopHeader header w =
      .error (.invalidLoop (w.stage.environment.substitute header)) w := by
  unfold loopHeader
  refine (bind_of_ok _ (t := w) rfl).trans ?_
  rw [LoopHeader.parse, hh]
  rfl

end Crew

end Playbook
