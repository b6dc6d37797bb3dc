import Mathlib.Data.List.Forall2
import Playbook.Proofs.Run.Journal

/-!
# Stopping at the first failure

A case ends with the first failure of its walk. `FailFast` says how a case's result tells of it:
one step result for every turn of the performer, all passed but the last, and nothing tried once a
turn has failed. Every move of a walk keeps the books in this order or stops the walk
(`keep_inOrder`), so every case does (`runCase_failFast`).
-/

namespace Playbook

open Script

variable {σ α : Type}

/-- A step result tells of a turn of the performer. -/
structure StepResult.TellsOf (r : StepResult) (turn : Turn) : Prop where
  action : r.action = turn.action
  parameters : r.parameters = turn.parameters
  status : r.status = if turn.failure.isSome then Status.failed else Status.passed
  error : r.error = turn.failure.map Failure.message

/-- The result of a case tells of the case's events and of the failure that ended its walk, if one
did. -/
structure FailFast (failure : Option Failure) (events : List Event) (r : CaseResult) : Prop where
  /-- Every step result tells of the performer's turn at the same place. -/
  told : List.Forall₂ StepResult.TellsOf r.steps (turns events)
  numbered : r.steps.map StepResult.number = (List.range' 1 r.steps.length).map Int.ofNat
  passedBefore : ∀ step ∈ r.steps.dropLast, step.status = Status.passed
  /-- Nothing is performed, tested, read or bound after a turn that failed. -/
  halted : ∀ before turn after, events = before ++ .performed turn :: after →
    turn.failure.isSome → after = []
  status : r.status = if failure.isSome then Status.failed else Status.passed
  error : r.error = failure.map Failure.message
  ofFailed : ∀ last, r.steps.getLast? = some last → last.status = Status.failed →
    r.error = last.error ∧ r.passedSteps + 1 = r.steps.length ∧ r.firstFailure? = some last
  ofPassed : (∀ last, r.steps.getLast? = some last → last.status ≠ Status.failed) →
    r.passedSteps = r.steps.length ∧ r.firstFailure? = none

/-! ### Books -/

/-- Step results tell of the turns among events, and they are numbered from one. -/
structure Books (steps : List StepResult) (events : List Event) : Prop where
  told : List.Forall₂ StepResult.TellsOf steps (turns events)
  numbered : steps.map StepResult.number = (List.range' 1 steps.length).map Int.ofNat

/-- No turn among events failed. -/
def WentThrough (events : List Event) : Prop := ∀ turn ∈ turns events, turn.failure = none

/-- A walk that goes on: its books are in order and every turn went through. -/
structure InOrder (w : Walk (Watched σ)) : Prop where
  books : Books w.steps w.journal
  wentThrough : WentThrough w.journal
  status : w.status = Status.passed

/-- A walk that a failure has ended, between two turns or in the last one. -/
inductive Stopped (e : Failure) (w : Walk (Watched σ)) : Prop
  | betweenTurns (books : Books w.steps w.journal) (wentThrough : WentThrough w.journal)
  | inTurn (before : List Event) (earlier : List StepResult) (turn : Turn) (last : StepResult)
      (journal : w.journal = before ++ [.performed turn]) (steps : w.steps = earlier ++ [last])
      (books : Books earlier before) (wentThrough : WentThrough before)
      (tells : last.TellsOf turn) (number : last.number = earlier.length + 1)
      (failed : turn.failure = some e)

namespace Books

variable {steps : List StepResult} {events : List Event}

/-- An event that is no turn leaves no step result. -/
theorem append_event (h : Books steps events) {e : Event} (he : e.turn? = none) :
    Books steps (events ++ [e]) := by
  have : turns [e] = [] := by simp [turns, he]
  exact ⟨by simpa [this] using h.told, h.numbered⟩

/-- A turn leaves one step result. -/
theorem append_turn (h : Books steps events) {r : StepResult} {turn : Turn} (hr : r.TellsOf turn)
    (hn : r.number = steps.length + 1) : Books (steps ++ [r]) (events ++ [.performed turn]) := by
  constructor
  · rw [turns_append]
    exact List.rel_append h.told (.cons hr .nil)
  · have : (r.number : Int) = Int.ofNat (1 + steps.length) := by
      rw [hn, Int.ofNat_eq_natCast]
      omega
    simp [List.range'_1_concat, h.numbered, this]

/-- Where every turn went through, every step passed. -/
theorem passed (h : Books steps events) (hw : WentThrough events) :
    ∀ r ∈ steps, r.status = Status.passed := by
  obtain ⟨told, -⟩ := h
  unfold WentThrough at hw
  generalize turns events = turns at told hw
  induction told with
  | nil => simp
  | cons hr _ ih =>
    obtain ⟨ht, hts⟩ := List.forall_mem_cons.mp hw
    refine List.forall_mem_cons.mpr ⟨?_, ih hts⟩
    rw [hr.status, ht]
    rfl

end Books

private theorem WentThrough.append_event {events : List Event} (h : WentThrough events) {e : Event}
    (he : e.turn? = none) : WentThrough (events ++ [e]) := by
  have : turns [e] = [] := by simp [turns, he]
  simpa [WentThrough, this] using h

private theorem WentThrough.append_turn {events : List Event} (h : WentThrough events) {turn : Turn}
    (ht : turn.failure = none) : WentThrough (events ++ [.performed turn]) := by
  have : turns [.performed turn] = [turn] := rfl
  simp only [WentThrough, turns_append, this, List.mem_append, List.mem_singleton]
  rintro t (hm | rfl)
  · exact h t hm
  · exact ht

/-- A turn that failed is not among events that went through. -/
theorem WentThrough.not_mem {events : List Event} (h : WentThrough events) {turn : Turn}
    (ht : turn.failure.isSome) : Event.performed turn ∉ events := by
  intro hm
  have : turn ∈ turns events := List.mem_filterMap.mpr ⟨_, hm, rfl⟩
  simp [h turn this] at ht

/-! ### What a move leaves -/

namespace Crew

variable (crew : Crew σ)

/-- A step result tells of the turn it is made from. -/
theorem tellsOf_stepResult (text : Option String) (parameters : List (Option String))
    (w : Walk σ) (s : Stage σ) (failure : Option Failure) :
    (crew.stepResult text parameters w s failure).TellsOf (w.turn text parameters failure) :=
  ⟨rfl, rfl, rfl, rfl⟩

private theorem keeps_performAction (text : Option String) (parameters : List (Option String)) :
    Keeps InOrder Stopped (crew.watched.performAction text parameters) := by
  intro w hw
  cases h : crew.handOver text parameters w.plain with
  | ok _ s =>
    rw [crew.watched_performAction_of_ok h]
    exact
      { books := hw.books.append_turn (crew.tellsOf_stepResult text parameters w.plain s none) rfl
        wentThrough := hw.wentThrough.append_turn rfl
        status := hw.status }
  | error e s =>
    rw [crew.watched_performAction_of_error h]
    exact .inTurn w.journal w.steps _ _ rfl rfl hw.books hw.wentThrough
      (crew.tellsOf_stepResult text parameters w.plain s (some e)) rfl rfl

/-- Every move keeps the books in order or stops the walk. -/
theorem keep_inOrder : crew.watchedMoves.Keep InOrder Stopped :=
  crew.keep_watchedMoves crew.keeps_performAction
    (fun _ _ _ he hw ↦
      ⟨hw.books.append_event he, hw.wentThrough.append_event he, hw.status⟩)
    (fun same hw ↦
      ⟨same.steps ▸ same.journal ▸ hw.books, same.journal ▸ hw.wentThrough,
        same.status.trans hw.status⟩)
    fun _ _ hw ↦ .betweenTurns hw.books hw.wentThrough

/-- The failure that ends the walk of a case, if one does. -/
def failureOf (c : Case) (s : Stage σ) : Option Failure :=
  ((crew.runSteps none c.steps).ending (.opened crew.clock c.name s)).1

end Crew

/-! ### What a case leaves -/

private theorem FailFast.of_wentThrough {failure : Option Failure} {events : List Event}
    {r : CaseResult} (books : Books r.steps events) (wentThrough : WentThrough events)
    (status : r.status = if failure.isSome then Status.failed else Status.passed)
    (error : r.error = failure.map Failure.message) : FailFast failure events r := by
  have passed := books.passed wentThrough
  have notFailed : ∀ step ∈ r.steps, step.status ≠ Status.failed := fun step h ↦ by
    rw [passed step h]
    decide
  exact
    { told := books.told
      numbered := books.numbered
      passedBefore := fun step h ↦ passed step (List.dropLast_subset _ h)
      halted := fun before turn after h ht ↦
        absurd (h ▸ List.mem_append_cons_self) (wentThrough.not_mem ht)
      status, error
      ofFailed := fun last hl hf ↦ absurd hf (notFailed last (List.mem_of_getLast? hl))
      ofPassed := fun _ ↦
        ⟨by simpa [CaseResult.passedSteps, List.countP_eq_length] using passed,
          by simpa [CaseResult.firstFailure?] using notFailed⟩ }

private theorem FailFast.of_inTurn {e : Failure} {before : List Event} {turn : Turn}
    {earlier : List StepResult} {last : StepResult} {r : CaseResult}
    (steps : r.steps = earlier ++ [last]) (books : Books earlier before)
    (wentThrough : WentThrough before) (tells : last.TellsOf turn)
    (number : last.number = earlier.length + 1) (failed : turn.failure = some e)
    (status : r.status = Status.failed) (error : r.error = some e.message) :
    FailFast (some e) (before ++ [.performed turn]) r := by
  have passed := books.passed wentThrough
  have lastFailed : last.status = Status.failed := by rw [tells.status, failed]; rfl
  have lastError : last.error = some e.message := by rw [tells.error, failed]; rfl
  have all := books.append_turn tells number
  rw [← steps] at all
  exact
    { told := all.told
      numbered := all.numbered
      passedBefore := by simpa [steps] using passed
      halted := fun before' turn' after h ht ↦ by
        obtain rfl | ⟨after, x, rfl⟩ := List.eq_nil_or_concat after
        · rfl
        · rw [List.concat_eq_append, ← List.cons_append, ← List.append_assoc] at h
          obtain ⟨rfl, -⟩ := List.append_inj' h rfl
          exact absurd List.mem_append_cons_self (wentThrough.not_mem ht)
      status, error
      ofFailed := fun last' hl _ ↦ by
        obtain rfl : last = last' := by simpa [steps] using hl
        refine ⟨error.trans lastError.symm, ?_, ?_⟩
        · have : earlier.countP (·.status == Status.passed) = earlier.length := by
            simpa [List.countP_eq_length] using passed
          have : (Status.failed == Status.passed) = false := by decide
          simp_all [CaseResult.passedSteps]
        · have : earlier.find? (·.status == Status.failed) = none := by
            simp only [List.find?_eq_none, beq_iff_eq]
            intro r hr
            rw [passed r hr]
            decide
          simp [CaseResult.firstFailure?, steps, this, lastFailed]
      ofPassed := fun h ↦ absurd lastFailed (h last (by simp [steps])) }

namespace Crew

variable (crew : Crew σ)

private theorem failFast_of_inOrder {w : Walk (Watched σ)} (h : InOrder w) (name : String)
    (startedAt : Moment) :
    let closed := closeCase crew.watched.clock name startedAt none w w.stage
    FailFast none closed.2.journal closed.1 :=
  .of_wentThrough h.books h.wentThrough h.status rfl

private theorem failFast_of_stopped {e : Failure} {w : Walk (Watched σ)} (h : Stopped e w)
    (name : String) (startedAt : Moment) :
    let closed := closeCase crew.watched.clock name startedAt (some e) w w.stage
    FailFast (some e) closed.2.journal closed.1 := by
  cases h with
  | betweenTurns books wentThrough => exact .of_wentThrough books wentThrough rfl rfl
  | inTurn before earlier turn last journal steps books wentThrough tells number failed =>
    have := FailFast.of_inTurn (r := (closeCase crew.watched.clock name startedAt (some e) w
      w.stage).1) steps books wentThrough tells number failed rfl rfl
    rwa [← journal] at this

/-- A result tells of what happened in its case. -/
theorem failFast_watchCase (c : Case) (s : Stage σ) :
    FailFast (crew.failureOf c s) (crew.watchCase c (s.watched [])).2.journal
      (crew.watchCase c (s.watched [])).1 := by
  let start := Walk.opened crew.watched.clock c.name (s.watched [])
  have started : InOrder start := ⟨⟨.nil, rfl⟩, fun _ h ↦ absurd h List.not_mem_nil, rfl⟩
  have walked := Walking.ending_of_keeps
    (Moves.keeps_walkSteps crew.keep_inOrder none c.steps) started
  have failure : crew.failureOf c s =
      ((crew.watchedMoves.walkSteps none c.steps).ending start).1 :=
    ((crew.agree_runSteps_watched none c.steps).ending start.isPlain).1
  rw [watchCase, runWalk_eq, failure]
  dsimp only
  generalize (crew.watchedMoves.walkSteps none c.steps).ending start = ended at walked ⊢
  obtain ⟨none | e, w⟩ := ended
  · exact crew.failFast_of_inOrder walked c.name _
  · exact crew.failFast_of_stopped walked c.name _

/-- A case keeps its books however it goes: with every tree, every performer, every predicate and
every environment it comes to a result, and the result tells of what happened. -/
theorem runCase_failFast (c : Case) (s : Stage σ) :
    let watched := crew.watchCase c (s.watched [])
    crew.runCase c s = (watched.1, watched.2.plain) ∧
      FailFast (crew.failureOf c s) watched.2.journal watched.1 := by
  have same := crew.agree_runCase_watched c s (s.watched []) rfl
  exact ⟨Prod.ext same.1 same.2, crew.failFast_watchCase c s⟩

end Crew

end Playbook
