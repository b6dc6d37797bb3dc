import Playbook.Condition
import Playbook.Run.Result
import Playbook.Script.LoopHeader
import Playbook.Script.Step

/-!
# Running steps

The interpreter walks a step tree. Actions are substituted and handed to a performer, and every
hand-over leaves a step result; conditionals run their body or the first branch that holds; loops
bind their variable to each item and run their body with that item as the only parameter of its
direct children. The first failure ends the walk.
-/

namespace Playbook

/-- Performs actions. -/
abbrev Performer (σ : Type) := (action : String) → (parameters : List String) → Play σ Unit

/-- What the interpreter works with. -/
structure Crew (σ : Type) where
  perform : Performer σ
  clock : Clock σ
  conditions : Registry σ

/-- A stage together with the case result that grows on it. -/
structure Walk (σ : Type) where
  stage : Stage σ
  steps : List StepResult := []
  status : Status := Status.passed

/-- A computation that walks steps. -/
abbrev Walking (σ : Type) := EStateM Failure (Walk σ)

namespace Walking

variable {σ : Type}

/-- A play on the stage of a walk. -/
def ofPlay {α : Type} (p : Play σ α) : Walking σ α := fun w =>
  match p w.stage with
  | .ok a stage => .ok a { w with stage := stage }
  | .error e stage => .error e { w with stage := stage }

/-- A routine on the stage of a walk. -/
def ofRoutine {α : Type} (r : Routine σ α) : Walking σ α := fun w =>
  match r w.stage with
  | (a, stage) => .ok a { w with stage := stage }

/-- Record a step; a failed step makes the case fail. -/
def record (r : StepResult) : Walking σ Unit :=
  modify fun w =>
    { w with
      steps := w.steps ++ [r]
      status := if r.status = Status.failed then Status.failed else w.status }

/-- Do something for every item in turn. -/
def forItems (body : String → Walking σ Unit) : List String → Walking σ Unit
  | [] => pure ()
  | item :: rest => do
    body item
    forItems body rest

end Walking

/-! ### A walk as a case -/

section

variable {σ : Type}

/-- How a walk ends: its failure, if it fails, and what it leaves. -/
def Walking.ending (walk : Walking σ Unit) (w : Walk σ) : Option Failure × Walk σ :=
  match walk w with
  | .ok () w => (none, w)
  | .error e w => (some e, w)

/-- Start a test case: report it and read the clock. -/
def openCase (clock : Clock σ) (name : String) : Routine σ Moment := do
  Routine.report .info .runner ("Test: " ++ name)
  let startedAt ← Routine.readClock clock
  let _ ← Routine.readClock clock
  return startedAt

/-- End a test case after its walk: report how it ended, read the clock and tell the result. -/
def closeCase (clock : Clock σ) (name : String) (startedAt : Moment) (failure : Option Failure)
    (walk : Walk σ) : Routine σ CaseResult := do
  match failure with
  | none => Routine.report .info .runner ("Test \"" ++ name ++ "\" passed")
  | some e => Routine.report .error .runner ("Test \"" ++ name ++ "\" failed: " ++ e.message)
  let finishedAt ← Routine.readClock clock
  return {
    name
    status := if failure.isSome then Status.failed else walk.status
    startedAt, finishedAt
    steps := walk.steps
    error := failure.map Failure.message }

/-- Run a walk as a test case, to its result. A failure of the walk ends the case. -/
def runWalk (clock : Clock σ) (name : String) (walk : Walking σ Unit) : Routine σ CaseResult := do
  let startedAt ← openCase clock name
  let (failure, w) := walk.ending { stage := ← get }
  set w.stage
  closeCase clock name startedAt failure w

end

namespace Crew

open Script

variable {σ : Type}

/-- The line of the log about a step. -/
def stepLine (number : Nat) (verb action : String) (parameters : List String) : String :=
  "Step " ++ toString number ++ verb ++ ": " ++ action ++ showParameters parameters

/-- Hand an action to the performer and record what became of it. -/
def performAction (crew : Crew σ) (text : Option String) (parameters : List (Option String)) :
    Walking σ Unit := do
  let parameters ← Walking.ofRoutine (parameters.mapM fun p => Routine.substitute (p.getD ""))
  let action ← Walking.ofRoutine (Routine.substitute (text.getD ""))
  let number := (← get).steps.length + 1
  let startedAt ← Walking.ofRoutine (Routine.readClock crew.clock)
  let outcome ← Walking.ofRoutine (Routine.attempt (crew.perform action parameters))
  let finishedAt ← Walking.ofRoutine (Routine.readClock crew.clock)
  match outcome with
  | .ok () =>
    Walking.record
      { number, action, parameters, status := Status.passed, startedAt, finishedAt }
    Walking.ofRoutine (Routine.report .info .runner (stepLine number "" action parameters))
  | .error e =>
    Walking.record
      { number, action, parameters, status := Status.failed, startedAt, finishedAt
        error := some e.message, screenshot := e.screenshot?, video := e.video? }
    Walking.ofRoutine
      (Routine.report .warning .runner (stepLine number " failed" action parameters))
    throw e

/-- Whether a condition holds once its references are substituted. -/
def conditionHolds (crew : Crew σ) (condition : String) : Walking σ Bool := do
  let condition ← Walking.ofRoutine (Routine.substitute condition)
  Walking.ofPlay (crew.conditions.evaluate condition)

/-- The variable and items of a loop, its header's references substituted. -/
def loopHeader (header : String) : Walking σ LoopHeader := do
  let expression ← Walking.ofRoutine (Routine.substitute header)
  match LoopHeader.parse expression with
  | .ok h => return h
  | .error e => throw e

/-- What becomes of a step that is no action, conditional or loop: a branch is run from its
conditional and closers only shape a tree, so by themselves they do nothing. -/
def stray : StepKind → Walking σ Unit
  | .other tag => throw (.unknownStep tag)
  | _ => pure ()

mutual

/-- Run a step, given what becomes of a stray one. Inside a loop, `item` replaces the parameters of
the loop's direct children. -/
def walkStep (crew : Crew σ) (stray : StepKind → Walking σ Unit) (item : Option String) :
    Step → Walking σ Unit
  | ⟨.action, text, parameters, _⟩ =>
    crew.performAction text (match item with
      | some i => [some i]
      | none => parameters)
  | ⟨.ifBlock, text, _, children⟩ => do
    if ← crew.conditionHolds (text.getD "") then walkBody crew stray children
    else walkBranches crew stray children
  | ⟨.loop, text, _, children⟩ => do
    let header ← loopHeader (text.getD "")
    Walking.forItems (fun i => do
      Walking.ofRoutine (Routine.bindVariable header.name (.text i))
      walkSteps crew stray (some i) children) header.items
  | ⟨kind, _, _, _⟩ => stray kind

/-- Run steps in order. -/
def walkSteps (crew : Crew σ) (stray : StepKind → Walking σ Unit) (item : Option String) :
    List Step → Walking σ Unit
  | [] => pure ()
  | s :: rest => do
    walkStep crew stray item s
    walkSteps crew stray item rest

/-- Run the children of a conditional that are no branches. -/
def walkBody (crew : Crew σ) (stray : StepKind → Walking σ Unit) : List Step → Walking σ Unit
  | [] => pure ()
  | s :: rest =>
    if s.isBranch then walkBody crew stray rest
    else do
      walkStep crew stray none s
      walkBody crew stray rest

/-- Run the first branch among the children of a conditional whose condition holds, or that has
none. -/
def walkBranches (crew : Crew σ) (stray : StepKind → Walking σ Unit) :
    List Step → Walking σ Unit
  | [] => pure ()
  | ⟨.elseBranch, none, _, children⟩ :: _ => walkSteps crew stray none children
  | ⟨.elseBranch, some condition, _, children⟩ :: rest => do
    if ← crew.conditionHolds condition then walkSteps crew stray none children
    else walkBranches crew stray rest
  | _ :: rest => walkBranches crew stray rest

end

/-- Run a step, the parameters replaced by an item if there is one. -/
def runStep (crew : Crew σ) (item : Option String) (s : Step) : Walking σ Unit :=
  crew.walkStep stray item s

/-- Run steps in order, the parameters of each replaced by an item if there is one. -/
def runSteps (crew : Crew σ) (item : Option String) (steps : List Step) : Walking σ Unit :=
  crew.walkSteps stray item steps

/-- Run a test case to its result. Failures end the case and not the run. -/
def runCase (crew : Crew σ) (c : Case) : Routine σ CaseResult :=
  runWalk crew.clock c.name (crew.runSteps none c.steps)

end Crew

end Playbook
