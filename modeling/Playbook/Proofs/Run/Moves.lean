import Playbook.Proofs.Run.Contract
import Playbook.Run.Interpreter

/-!
# The moves of a walk

A walk over a tree is made of five moves: an action is performed, a condition is tested, the header
of a loop is read, its variable is bound to an item, and a stray step is met. The tree decides
which move comes next; what a move does is left open here. So walks with different moves can be
compared: if a relation holds between their moves and sequencing keeps it, it holds between the
walks of every tree (`related_walkStep`), and the walk of the interpreter is the one with the
interpreter's moves (`walkStep_eq_moves`).
-/

namespace Playbook

namespace Script

/-- A property of a step may be proved from the property of its children. -/
theorem Step.induction {P : Step → Prop}
    (step : ∀ kind text parameters children, (∀ s ∈ children, P s) →
      P ⟨kind, text, parameters, children⟩) : ∀ s, P s
  | ⟨kind, text, parameters, children⟩ =>
    step kind text parameters children fun s _ ↦ Step.induction step s

/-- A conditional reaches through its branches, so the property of their children may be used,
too. -/
theorem Step.branchInduction {P : Step → Prop}
    (step : ∀ kind text parameters children, (∀ s ∈ children, P s) →
      (∀ s ∈ children, ∀ c ∈ s.children, P c) → P ⟨kind, text, parameters, children⟩)
    (s : Step) : P s := by
  suffices h : P s ∧ ∀ c ∈ s.children, P c from h.1
  induction s using Step.induction with
  | step kind text parameters children ih =>
    have hs := fun s h ↦ (ih s h).1
    exact ⟨step kind text parameters children hs fun s h ↦ (ih s h).2, hs⟩

end Script

open Script

/-- The moves that a walk is made of. -/
structure Moves (σ : Type) where
  act : Option String → List (Option String) → Walking σ Unit
  test : String → Walking σ Bool
  readHeader : String → Walking σ LoopHeader
  bindItem : String → String → Walking σ Unit
  stray : StepKind → Walking σ Unit

variable {σ τ : Type}

/-- The interpreter's moves, given what becomes of a stray step. -/
def Crew.moves (crew : Crew σ) (stray : StepKind → Walking σ Unit) : Moves σ :=
  { act := crew.performAction
    test := crew.conditionHolds
    readHeader := Crew.loopHeader
    bindItem := fun name item => Walking.ofRoutine (Routine.bindVariable name (.text item))
    stray }

namespace Moves

mutual

/-- Walk a step; inside a loop, `item` replaces the parameters of the loop's direct children. -/
def walkStep (moves : Moves σ) (item : Option String) : Step → Walking σ Unit
  | ⟨.action, text, parameters, _⟩ =>
    moves.act text (match item with
      | some i => [some i]
      | none => parameters)
  | ⟨.ifBlock, text, _, children⟩ => do
    if ← moves.test (text.getD "") then walkBody moves children
    else walkBranches moves children
  | ⟨.loop, text, _, children⟩ => do
    let header ← moves.readHeader (text.getD "")
    Walking.forItems (fun i => do
      moves.bindItem header.name i
      walkSteps moves (some i) children) header.items
  | ⟨kind, _, _, _⟩ => moves.stray kind

/-- Walk steps in order. -/
def walkSteps (moves : Moves σ) (item : Option String) : List Step → Walking σ Unit
  | [] => pure ()
  | s :: rest => do
    walkStep moves item s
    walkSteps moves item rest

/-- Walk the children of a conditional that are no branches. -/
def walkBody (moves : Moves σ) : List Step → Walking σ Unit
  | [] => pure ()
  | s :: rest =>
    if s.isBranch then walkBody moves rest
    else do
      walkStep moves none s
      walkBody moves rest

/-- Walk the first branch among the children of a conditional whose condition holds, or that has
none. -/
def walkBranches (moves : Moves σ) : List Step → Walking σ Unit
  | [] => pure ()
  | ⟨.elseBranch, none, _, children⟩ :: _ => walkSteps moves none children
  | ⟨.elseBranch, some condition, _, children⟩ :: rest => do
    if ← moves.test condition then walkSteps moves none children
    else walkBranches moves rest
  | _ :: rest => walkBranches moves rest

end

/-- A relation between computations that sequencing keeps. -/
structure Sequential (R : {α : Type} → Walking σ α → Walking τ α → Prop) : Prop where
  pure : ∀ {α : Type} (a : α), R (Pure.pure a) (Pure.pure a)
  bind : ∀ {α β : Type} {x : Walking σ α} {y : Walking τ α} {f : α → Walking σ β}
    {g : α → Walking τ β}, R x y → (∀ a, R (f a) (g a)) → R (x >>= f) (y >>= g)

/-- Moves that are related one by one. -/
structure Related (R : {α : Type} → Walking σ α → Walking τ α → Prop) (moves : Moves σ)
    (moves' : Moves τ) : Prop where
  act : ∀ text parameters, R (moves.act text parameters) (moves'.act text parameters)
  test : ∀ condition, R (moves.test condition) (moves'.test condition)
  readHeader : ∀ header, R (moves.readHeader header) (moves'.readHeader header)
  bindItem : ∀ name item, R (moves.bindItem name item) (moves'.bindItem name item)
  stray : ∀ kind, R (moves.stray kind) (moves'.stray kind)

section

variable {R : {α : Type} → Walking σ α → Walking τ α → Prop} {moves : Moves σ} {moves' : Moves τ}

private theorem related_forItems (seq : Sequential R) {body : String → Walking σ Unit}
    {body' : String → Walking τ Unit} (h : ∀ i, R (body i) (body' i)) (items : List String) :
    R (Walking.forItems body items) (Walking.forItems body' items) := by
  induction items with
  | nil => exact seq.pure ()
  | cons i items ih => exact seq.bind (h i) fun _ ↦ ih

private theorem related_walkSteps_of (seq : Sequential R) {steps : List Step}
    (h : ∀ s ∈ steps, ∀ item, R (moves.walkStep item s) (moves'.walkStep item s))
    (item : Option String) : R (moves.walkSteps item steps) (moves'.walkSteps item steps) := by
  induction steps with
  | nil => exact seq.pure ()
  | cons s steps ih =>
    obtain ⟨hs, hss⟩ := List.forall_mem_cons.mp h
    rw [walkSteps, walkSteps]
    exact seq.bind (hs item) fun _ ↦ ih hss

private theorem related_walkBody (seq : Sequential R) {steps : List Step}
    (h : ∀ s ∈ steps, ∀ item, R (moves.walkStep item s) (moves'.walkStep item s)) :
    R (moves.walkBody steps) (moves'.walkBody steps) := by
  induction steps with
  | nil => exact seq.pure ()
  | cons s steps ih =>
    obtain ⟨hs, hss⟩ := List.forall_mem_cons.mp h
    rw [walkBody, walkBody]
    split
    · exact ih hss
    · exact seq.bind (hs none) fun _ ↦ ih hss

private theorem related_walkBranches (seq : Sequential R) (related : Related R moves moves')
    {steps : List Step}
    (h : ∀ s ∈ steps, ∀ c ∈ s.children, ∀ item,
      R (moves.walkStep item c) (moves'.walkStep item c)) :
    R (moves.walkBranches steps) (moves'.walkBranches steps) := by
  induction steps with
  | nil => exact seq.pure ()
  | cons s steps ih =>
    obtain ⟨hs, hss⟩ := List.forall_mem_cons.mp h
    rcases s with ⟨kind, text, parameters, children⟩
    cases kind with
    | elseBranch =>
      cases text with
      | none => exact related_walkSteps_of seq hs none
      | some condition =>
        rw [walkBranches, walkBranches]
        refine seq.bind (related.test condition) fun holds ↦ ?_
        cases holds with
        | true => exact related_walkSteps_of seq hs none
        | false => exact ih hss
    | _ => exact ih hss

/-- Walks of a tree are related when their moves are. -/
theorem related_walkStep (seq : Sequential R) (related : Related R moves moves')
    (item : Option String) (s : Step) : R (moves.walkStep item s) (moves'.walkStep item s) := by
  induction s using Step.branchInduction generalizing item with
  | step kind text parameters children ih ihBelow =>
    cases kind with
    | action => exact related.act _ _
    | ifBlock =>
      rw [walkStep, walkStep]
      refine seq.bind (related.test _) fun holds ↦ ?_
      cases holds with
      | true => exact related_walkBody seq fun s hs ↦ ih s hs
      | false => exact related_walkBranches seq related ihBelow
    | loop =>
      rw [walkStep, walkStep]
      refine seq.bind (related.readHeader _) fun header ↦ ?_
      refine related_forItems seq (fun i ↦ ?_) header.items
      exact seq.bind (related.bindItem _ i) fun _ ↦ related_walkSteps_of seq ih (some i)
    | _ => exact related.stray _

/-- Walks of steps are related when their moves are. -/
theorem related_walkSteps (seq : Sequential R) (related : Related R moves moves')
    (item : Option String) (steps : List Step) :
    R (moves.walkSteps item steps) (moves'.walkSteps item steps) :=
  related_walkSteps_of seq (fun s _ item ↦ related_walkStep seq related item s) item

end

/-- Moves that keep `inv` when they go through and leave `broken` when they fail. -/
def Keep (moves : Moves σ) (inv : Walk σ → Prop) (broken : Failure → Walk σ → Prop) : Prop :=
  Related (fun x (_ : Walking σ _) ↦ Keeps inv broken x) moves moves

/-- What every move keeps, every walk keeps. -/
theorem keeps_walkSteps {moves : Moves σ} {inv : Walk σ → Prop}
    {broken : Failure → Walk σ → Prop} (h : moves.Keep inv broken) (item : Option String)
    (steps : List Step) : Keeps inv broken (moves.walkSteps item steps) := by
  refine related_walkSteps (R := fun x _ ↦ Keeps inv broken x) ?_ h item steps
  exact { pure := fun a ↦ .pure a, bind := fun hx hf ↦ .bind hx hf }

end Moves

/-! ### The interpreter's walk -/

mutual

/-- The interpreter's walk of a step is the walk by the interpreter's moves. -/
theorem Crew.walkStep_eq_moves (crew : Crew σ) (stray : StepKind → Walking σ Unit)
    (item : Option String) :
    ∀ s, crew.walkStep stray item s = (crew.moves stray).walkStep item s
  | ⟨.action, _, _, _⟩ | ⟨.elseBranch, _, _, _⟩ | ⟨.endIf, _, _, _⟩ | ⟨.endLoop, _, _, _⟩
  | ⟨.other _, _, _, _⟩ => rfl
  | ⟨.ifBlock, text, _, children⟩ => by
    rw [Crew.walkStep, Moves.walkStep, crew.walkBody_eq_moves stray children,
      crew.walkBranches_eq_moves stray children]
    rfl
  | ⟨.loop, text, _, children⟩ => by
    rw [Crew.walkStep, Moves.walkStep]
    simp only [crew.walkSteps_eq_moves stray _ children]
    rfl

/-- The interpreter's walk of steps is the walk by the interpreter's moves. -/
theorem Crew.walkSteps_eq_moves (crew : Crew σ) (stray : StepKind → Walking σ Unit)
    (item : Option String) :
    ∀ steps, crew.walkSteps stray item steps = (crew.moves stray).walkSteps item steps
  | [] => rfl
  | s :: rest => by
    rw [Crew.walkSteps, Moves.walkSteps, crew.walkStep_eq_moves stray item s,
      crew.walkSteps_eq_moves stray item rest]

/-- The interpreter's walk of a conditional's body is the walk by the interpreter's moves. -/
theorem Crew.walkBody_eq_moves (crew : Crew σ) (stray : StepKind → Walking σ Unit) :
    ∀ steps, crew.walkBody stray steps = (crew.moves stray).walkBody steps
  | [] => rfl
  | s :: rest => by
    rw [Crew.walkBody, Moves.walkBody, crew.walkStep_eq_moves stray none s,
      crew.walkBody_eq_moves stray rest]

/-- The interpreter's choice among branches is the choice by the interpreter's moves. -/
theorem Crew.walkBranches_eq_moves (crew : Crew σ) (stray : StepKind → Walking σ Unit) :
    ∀ steps, crew.walkBranches stray steps = (crew.moves stray).walkBranches steps
  | [] => rfl
  | ⟨.elseBranch, none, _, children⟩ :: _ => crew.walkSteps_eq_moves stray none children
  | ⟨.elseBranch, some _, _, children⟩ :: rest => by
    rw [Crew.walkBranches, Moves.walkBranches, crew.walkSteps_eq_moves stray none children,
      crew.walkBranches_eq_moves stray rest]
    rfl
  | ⟨.action, _, _, _⟩ :: rest | ⟨.ifBlock, _, _, _⟩ :: rest | ⟨.loop, _, _, _⟩ :: rest
  | ⟨.endIf, _, _, _⟩ :: rest | ⟨.endLoop, _, _, _⟩ :: rest | ⟨.other _, _, _, _⟩ :: rest =>
    crew.walkBranches_eq_moves stray rest

end

end Playbook
