import Playbook.Script.Step

/-!
# The grammar of blocks

The kinds of the steps of a test case, in the order of its lines, are read as a word over
`Block ::= action | if Block* (else Block*)* endif | loop Block* endloop`. `Blocks` is the
language `Block*` and `Viable` its beginnings. `awaited?` runs a stack of closers over a sequence
of kinds: it decides both (`viable_iff`, `blocks_iff`).
-/

namespace Playbook.Script

/-- The words of `Block*`, block after block. -/
inductive Blocks : List StepKind → Prop
  | nil : Blocks []
  | action {rest : List StepKind} : Blocks rest → Blocks (.action :: rest)
  | ifBlock {body rest : List StepKind} {branches : List (List StepKind)} :
      Blocks body → (∀ b ∈ branches, Blocks b) → Blocks rest →
      Blocks (.ifBlock :: (body ++ branches.flatMap (.elseBranch :: ·) ++ .endIf :: rest))
  | loop {body rest : List StepKind} :
      Blocks body → Blocks rest → Blocks (.loop :: (body ++ .endLoop :: rest))

/-- A sequence of kinds that some word of `Block*` begins with. -/
def Viable (kinds : List StepKind) : Prop :=
  ∃ tail, Blocks (kinds ++ tail)

/-- A step that closes a block. -/
inductive Closer where
  | endIf
  | endLoop
  deriving DecidableEq, Repr

namespace Closer

/-- The kind of a closer. -/
def kind : Closer → StepKind
  | endIf => .endIf
  | endLoop => .endLoop

/-- A closer as a step. -/
def step : Closer → Step
  | endIf => .endIf
  | endLoop => .endLoop

/-- A closer's step has its kind. -/
@[simp] theorem kind_step (k : Closer) : k.step.kind = k.kind := by
  cases k <;> rfl

end Closer

/-- The closers that open blocks await, innermost first, after one more step; none when the step
cannot stand there. -/
def await? : List Closer → StepKind → Option (List Closer)
  | closers, .action => some closers
  | closers, .ifBlock => some (.endIf :: closers)
  | closers, .loop => some (.endLoop :: closers)
  | .endIf :: closers, .elseBranch => some (.endIf :: closers)
  | .endIf :: closers, .endIf => some closers
  | .endLoop :: closers, .endLoop => some closers
  | _, _ => none

/-- The closers that open blocks await, innermost first, after a sequence of steps. -/
def awaited? (closers : List Closer) (kinds : List StepKind) : Option (List Closer) :=
  kinds.foldlM await? closers

/-- The first step is taken before the others. -/
theorem awaited?_cons (closers : List Closer) (k : StepKind) (kinds : List StepKind) :
    awaited? closers (k :: kinds) = (await? closers k).bind (awaited? · kinds) := rfl

/-- Sequences are taken one after the other. -/
theorem awaited?_append (closers : List Closer) (xs ys : List StepKind) :
    awaited? closers (xs ++ ys) = (awaited? closers xs).bind (awaited? · ys) := by
  simp only [awaited?, List.foldlM_append]
  rfl

private theorem awaited?_branches {branches : List (List StepKind)}
    (h : ∀ b ∈ branches, ∀ closers, awaited? closers b = some closers) (closers : List Closer) :
    awaited? (.endIf :: closers) (branches.flatMap (.elseBranch :: ·)) =
      some (.endIf :: closers) := by
  induction branches with
  | nil => rfl
  | cons b branches ih =>
    have hb := h b (by simp) (.endIf :: closers)
    rw [List.flatMap_cons, List.cons_append, awaited?_cons]
    simp only [await?, Option.bind_some]
    rw [awaited?_append, hb, Option.bind_some]
    exact ih fun b' h' ↦ h b' (by simp [h'])

/-- A word leaves the open blocks as they were. -/
theorem awaited?_of_blocks {kinds : List StepKind} (h : Blocks kinds) (closers : List Closer) :
    awaited? closers kinds = some closers := by
  induction h generalizing closers with
  | nil => rfl
  | action _ ih => exact ih closers
  | ifBlock _ _ _ ihBody ihBranches ihRest =>
    rw [awaited?_cons]
    simp only [await?, Option.bind_some]
    rw [List.append_assoc, awaited?_append, ihBody, Option.bind_some, awaited?_append,
      awaited?_branches ihBranches, Option.bind_some]
    exact ihRest closers
  | loop _ _ ihBody ihRest =>
    rw [awaited?_cons]
    simp only [await?, Option.bind_some]
    rw [awaited?_append, ihBody, Option.bind_some]
    exact ihRest closers

/-- A sequence completes open blocks, innermost first: each gets the rest of its body, and a
conditional more branches, before its closer; blocks follow the outermost. -/
def Completes : List Closer → List StepKind → Prop
  | [], kinds => Blocks kinds
  | .endIf :: closers, kinds =>
    ∃ (body : List StepKind) (branches : List (List StepKind)) (rest : List StepKind),
      Blocks body ∧ (∀ b ∈ branches, Blocks b) ∧ Completes closers rest ∧
      kinds = body ++ branches.flatMap (.elseBranch :: ·) ++ .endIf :: rest
  | .endLoop :: closers, kinds =>
    ∃ body rest, Blocks body ∧ Completes closers rest ∧ kinds = body ++ .endLoop :: rest

/-- The closers alone complete the blocks that await them. -/
theorem completes_closers (closers : List Closer) :
    Completes closers (closers.map Closer.kind) := by
  induction closers with
  | nil => exact Blocks.nil
  | cons k closers ih =>
    cases k with
    | endIf => exact ⟨[], [], _, .nil, by simp, ih, rfl⟩
    | endLoop => exact ⟨[], _, .nil, ih, rfl⟩

private theorem completes_action {closers : List Closer} {kinds : List StepKind}
    (h : Completes closers kinds) : Completes closers (.action :: kinds) := by
  match closers, h with
  | [], h => exact Blocks.action h
  | .endIf :: _, ⟨body, branches, rest, hb, hbs, hr, he⟩ =>
    exact ⟨.action :: body, branches, rest, .action hb, hbs, hr, by rw [he]; rfl⟩
  | .endLoop :: _, ⟨body, rest, hb, hr, he⟩ =>
    exact ⟨.action :: body, rest, .action hb, hr, by rw [he]; rfl⟩

private theorem completes_ifBlock {closers : List Closer} {kinds : List StepKind}
    (h : Completes (.endIf :: closers) kinds) : Completes closers (.ifBlock :: kinds) := by
  obtain ⟨body, branches, rest, hb, hbs, hr, rfl⟩ := h
  match closers, hr with
  | [], hr => exact Blocks.ifBlock hb hbs hr
  | .endIf :: _, ⟨body', branches', rest', hb', hbs', hr', he⟩ =>
    exact ⟨_, branches', rest', .ifBlock hb hbs hb', hbs', hr', by simp [he]⟩
  | .endLoop :: _, ⟨body', rest', hb', hr', he⟩ =>
    exact ⟨_, rest', .ifBlock hb hbs hb', hr', by simp [he]⟩

private theorem completes_loop {closers : List Closer} {kinds : List StepKind}
    (h : Completes (.endLoop :: closers) kinds) : Completes closers (.loop :: kinds) := by
  obtain ⟨body, rest, hb, hr, rfl⟩ := h
  match closers, hr with
  | [], hr => exact Blocks.loop hb hr
  | .endIf :: _, ⟨body', branches', rest', hb', hbs', hr', he⟩ =>
    exact ⟨_, branches', rest', .loop hb hb', hbs', hr', by simp [he]⟩
  | .endLoop :: _, ⟨body', rest', hb', hr', he⟩ =>
    exact ⟨_, rest', .loop hb hb', hr', by simp [he]⟩

private theorem completes_elseBranch {closers : List Closer} {kinds : List StepKind}
    (h : Completes (.endIf :: closers) kinds) :
    Completes (.endIf :: closers) (.elseBranch :: kinds) := by
  obtain ⟨body, branches, rest, hb, hbs, hr, rfl⟩ := h
  refine ⟨[], body :: branches, rest, .nil, ?_, hr, by simp⟩
  intro b hmem
  rcases List.mem_cons.mp hmem with rfl | hmem
  · exact hb
  · exact hbs b hmem

/-- What completes the blocks open after a step, with the step before it, completes the blocks
open before. -/
theorem completes_of_await? {closers closers' : List Closer} {k : StepKind}
    {kinds : List StepKind} (ha : await? closers k = some closers')
    (h : Completes closers' kinds) : Completes closers (k :: kinds) := by
  unfold await? at ha
  split at ha
  · cases ha; exact completes_action h
  · cases ha; exact completes_ifBlock h
  · cases ha; exact completes_loop h
  · cases ha; exact completes_elseBranch h
  · cases ha; exact ⟨[], [], kinds, .nil, by simp, h, rfl⟩
  · cases ha; exact ⟨[], kinds, .nil, h, rfl⟩
  · cases ha

/-- What completes the blocks open after a sequence, with the sequence before it, completes the
blocks open before. -/
theorem completes_append {closers closers' : List Closer} {xs ys : List StepKind}
    (ha : awaited? closers xs = some closers') (h : Completes closers' ys) :
    Completes closers (xs ++ ys) := by
  induction xs generalizing closers with
  | nil =>
    cases ha
    exact h
  | cons k xs ih =>
    rw [awaited?_cons, Option.bind_eq_some_iff] at ha
    obtain ⟨between, hk, hxs⟩ := ha
    exact completes_of_await? hk (ih hxs)

/-- The awaited closers complete a sequence to a word. -/
theorem blocks_append_awaited {kinds : List StepKind} {closers : List Closer}
    (h : awaited? [] kinds = some closers) : Blocks (kinds ++ closers.map Closer.kind) :=
  completes_append h (completes_closers closers)

/-- The words are the sequences after which no closer is awaited. -/
theorem blocks_iff {kinds : List StepKind} : Blocks kinds ↔ awaited? [] kinds = some [] := by
  constructor
  · intro h
    exact awaited?_of_blocks h []
  · intro h
    simpa using blocks_append_awaited h

/-- The beginnings of words are the sequences of which each step can stand where it stands. -/
theorem viable_iff {kinds : List StepKind} :
    Viable kinds ↔ ∃ closers, awaited? [] kinds = some closers := by
  constructor
  · rintro ⟨tail, h⟩
    have h := awaited?_of_blocks h []
    rw [awaited?_append, Option.bind_eq_some_iff] at h
    obtain ⟨closers, hk, _⟩ := h
    exact ⟨closers, hk⟩
  · rintro ⟨closers, h⟩
    exact ⟨_, blocks_append_awaited h⟩

end Playbook.Script
