import Playbook.Proofs.Run.Simulation

/-!
# The journal of a run

To say what happens in a run and in which order, the run is watched: its world gets a journal
beside it, and the performer's turns, the conditions tested, the loop headers read, the items
bound, the results recorded and the teardowns are noted there. Nobody in the world sees the
journal, and a watched run is the run with notes taken: without its journal it is the run itself
(`agree_runCase_watched`, `agree_runInTurn_watched`).
-/

namespace Playbook

open Script

/-- A turn of the performer: the variables it was taken under, what was handed over, and the
failure it ended with, if it failed. -/
structure Turn where
  environment : Environment
  action : String
  parameters : List String
  failure : Option Failure

/-- What is noted in a journal. -/
inductive Event where
  | performed (turn : Turn)
  | tested (condition : String)
  | headerRead (header : String)
  | bound (name item : String)
  | recorded (result : CaseResult)
  | tornDown

/-- The performer's turn that an event is. -/
def Event.turn? : Event → Option Turn
  | .performed turn => some turn
  | _ => none

/-- The performer's turns among events, in order. -/
def turns (events : List Event) : List Turn := events.filterMap Event.turn?

/-- The turns among more events follow those among the first ones. -/
@[simp] theorem turns_append (events more : List Event) :
    turns (events ++ more) = turns events ++ turns more :=
  List.filterMap_append

/-- An event of a walk, and not of what follows the walk. -/
def Event.OfWalk : Event → Prop
  | .recorded _ | .tornDown => False
  | _ => True

/-- A world with a journal beside it. -/
structure Watched (σ : Type) where
  world : σ
  journal : List Event

variable {σ α : Type}

namespace Stage

/-- The stage with a journal beside its world. -/
def watched (journal : List Event) (s : Stage σ) : Stage (Watched σ) :=
  ⟨s.environment, s.log, ⟨s.world, journal⟩⟩

/-- The stage without the journal. -/
def plain (s : Stage (Watched σ)) : Stage σ := ⟨s.environment, s.log, s.world.world⟩

/-- The journal of a watched stage. -/
def journal (s : Stage (Watched σ)) : List Event := s.world.journal

@[simp] private theorem journal_watched (journal : List Event) (s : Stage σ) :
    (s.watched journal).journal = journal := rfl

end Stage

/-- The walk without the journal. -/
def Walk.plain (w : Walk (Watched σ)) : Walk σ := ⟨w.stage.plain, w.steps, w.status⟩

/-- The walk with a journal. -/
def Walk.watched (journal : List Event) (w : Walk σ) : Walk (Watched σ) :=
  ⟨w.stage.watched journal, w.steps, w.status⟩

/-- The turn that a step is handed over for, with the failure it ends with. -/
def Walk.turn (w : Walk σ) (text : Option String) (parameters : List (Option String))
    (failure : Option Failure) : Turn :=
  ⟨w.stage.environment, w.stage.environment.actionOf text,
    w.stage.environment.parametersOf parameters, failure⟩

/-- The journal of a watched walk. -/
def Walk.journal (w : Walk (Watched σ)) : List Event := w.stage.journal

/-! ### Watching -/

/-- A play in a watched world, with what is noted once it is over. -/
def Play.watched (note : Stage σ → Option Failure → List Event) (p : Play σ α) :
    Play (Watched σ) α := fun s =>
  match p s.plain with
  | .ok a t => .ok a (t.watched (s.journal ++ note s.plain none))
  | .error e t => .error e (t.watched (s.journal ++ note s.plain (some e)))

/-- Where a play goes through, it does so in a watched world, and that is noted. -/
theorem Play.watched_of_ok (note : Stage σ → Option Failure → List Event) {p : Play σ α}
    {s : Stage (Watched σ)} {a : α} {t : Stage σ} (h : p s.plain = .ok a t) :
    p.watched note s = .ok a (t.watched (s.journal ++ note s.plain none)) := by
  simp only [Play.watched, h]

/-- Where a play fails, it does so in a watched world, and that is noted. -/
theorem Play.watched_of_error (note : Stage σ → Option Failure → List Event) {p : Play σ α}
    {s : Stage (Watched σ)} {e : Failure} {t : Stage σ} (h : p s.plain = .error e t) :
    p.watched note s = .error e (t.watched (s.journal ++ note s.plain (some e))) := by
  simp only [Play.watched, h]

/-- The walk with one more event in its journal. -/
def Walk.noted (e : Event) (w : Walk (Watched σ)) : Walk (Watched σ) :=
  w.plain.watched (w.journal ++ [e])

/-- Note an event of a walk. -/
def Walking.note (e : Event) : Walking (Watched σ) Unit := modify (Walk.noted e)

/-- What is noted of a turn once it is over. -/
def noteTurn (action : String) (parameters : List String) (s : Stage σ)
    (failure : Option Failure) : List Event :=
  [.performed ⟨s.environment, action, parameters, failure⟩]

/-- The performer, its turns noted. -/
def Performer.watched (perform : Performer σ) : Performer (Watched σ) :=
  fun action parameters => (perform action parameters).watched (noteTurn action parameters)

/-- The recorder, what it is handed noted. -/
def ResultSink.watched (record : ResultSink σ) : ResultSink (Watched σ) := fun result =>
  (record result).watched fun _ _ => [.recorded result]

/-- The teardown, its runs noted. -/
def watchedTeardown (teardown : Play σ Unit) : Play (Watched σ) Unit :=
  teardown.watched fun _ _ => [.tornDown]

namespace Crew

/-- The crew in a watched world, the performer's turns noted. -/
def watched (crew : Crew σ) : Crew (Watched σ) :=
  { perform := crew.perform.watched
    clock := fun w => ((crew.clock w.world).1, { w with world := (crew.clock w.world).2 })
    conditions := ⟨crew.conditions.entries.map fun p =>
      (p.1, fun argument => (p.2 argument).watched fun _ _ => [])⟩ }

/-- The interpreter's moves in a watched world, every move noted. -/
def watchedMoves (crew : Crew σ) : Moves (Watched σ) :=
  { act := crew.watched.performAction
    test := fun condition => do
      Walking.note (.tested condition)
      crew.watched.conditionHolds condition
    readHeader := fun header => do
      Walking.note (.headerRead header)
      loopHeader header
    bindItem := fun name item => do
      Walking.note (.bound name item)
      Walking.ofRoutine (Routine.bindVariable name (.text item))
    stray := stray }

/-- Run a test case and take notes. -/
def watchCase (crew : Crew σ) (c : Case) : Routine (Watched σ) CaseResult :=
  runWalk crew.watched.clock c.name (crew.watchedMoves.walkSteps none c.steps)

/-- Run test cases in order, with recorder and teardown, and take notes. -/
def watchInTurn (crew : Crew σ) (sink : ResultSink σ) (teardown : Play σ Unit)
    (cases : List Case) : Keeping (Watched σ) (List CaseResult) :=
  runInTurn crew.watchCase (some sink.watched) (some (watchedTeardown teardown)) cases

end Crew

/-! ### Forgetting the journal -/

/-- A stage is another one without its journal. -/
def IsPlain (s : Stage σ) (t : Stage (Watched σ)) : Prop := s = t.plain

/-- A walk without its journal is plain. -/
theorem Walk.isPlain (w : Walk (Watched σ)) : Walk.Related IsPlain w.plain w := ⟨rfl, rfl, rfl⟩

/-- The plain walk of a watched one is the one without its journal. -/
theorem Walk.eq_plain {w : Walk σ} {v : Walk (Watched σ)} (h : Walk.Related IsPlain w v) :
    w = v.plain := by
  obtain ⟨stage, steps, status⟩ := w
  obtain ⟨rfl, rfl, rfl⟩ : stage = v.stage.plain ∧ steps = v.steps ∧ status = v.status :=
    ⟨h.stage, h.steps, h.status⟩
  rfl

/-- Watching a play does not change it. -/
theorem agree_watched (note : Stage σ → Option Failure → List Event) (p : Play σ α) :
    Agree IsPlain p (p.watched note) := by
  rintro _ t rfl
  cases h : p t.plain with
  | ok a s => exact .inl ⟨a, s, _, rfl, Play.watched_of_ok note h, rfl⟩
  | error e s => exact .inr ⟨e, s, _, rfl, Play.watched_of_error note h, rfl⟩

private theorem keepsReports_isPlain : KeepsReports (IsPlain (σ := σ)) := by
  rintro _ t rfl level source text
  rfl

private theorem agree_note {x : Walking σ α} {y : Walking (Watched σ) α}
    (h : Agree (Walk.Related IsPlain) x y) (e : Event) :
    Agree (Walk.Related IsPlain) x (do Walking.note e; y) :=
  fun w v hw ↦ h w (v.noted e) ⟨hw.stage, hw.steps, hw.status⟩

namespace Crew

variable (crew : Crew σ)

/-- A watched crew does the same as without a journal. -/
theorem simulates_watched : Simulates IsPlain crew crew.watched where
  environment h := congrArg Stage.environment h
  logged := keepsReports_isPlain
  bound := by
    rintro _ t rfl name v
    rfl
  time := by
    rintro _ t rfl
    rfl
  ticked := by
    rintro _ t rfl
    rfl
  perform action parameters := agree_watched _ _
  conditions := by
    refine List.forall₂_map_right_iff.mpr (List.forall₂_same.mpr fun p _ ↦ ?_)
    exact ⟨rfl, fun argument ↦ agree_watched (fun _ _ ↦ []) (p.2 argument)⟩

/-- Taking notes changes no move. -/
theorem related_watchedMoves :
    Moves.Related (fun x y ↦ Agree (Walk.Related IsPlain) x y) (crew.moves stray)
      crew.watchedMoves where
  act := crew.simulates_watched.agree_performAction
  test condition := agree_note (crew.simulates_watched.agree_conditionHolds condition) _
  readHeader header := agree_note (crew.simulates_watched.agree_loopHeader header) _
  bindItem name item := agree_note (crew.simulates_watched.agree_bindItem name item) _
  stray := Simulates.agree_stray IsPlain

/-- Taking notes does not change the walk of a step. -/
theorem agree_runStep_watched (item : Option String) (s : Step) :
    Agree (Walk.Related IsPlain) (crew.runStep item s) (crew.watchedMoves.walkStep item s) := by
  unfold runStep
  rw [walkStep_eq_moves]
  exact Moves.related_walkStep (Agree.sequential _) crew.related_watchedMoves item s

/-- A step that goes through with notes taken goes through without. -/
theorem runStep_of_watched {item : Option String} {s : Step} {w w' : Walk (Watched σ)}
    (h : crew.watchedMoves.walkStep item s w = .ok () w') :
    crew.runStep item s w.plain = .ok () w'.plain := by
  obtain ⟨_, v, v', hv, hv', same⟩ | ⟨_, v, v', hv, hv', same⟩ :=
    crew.agree_runStep_watched item s w.plain w w.isPlain
  · cases h.symm.trans hv'
    rw [hv, Walk.eq_plain same]
  · cases h.symm.trans hv'

/-- A step ends without a journal as it ends with one. -/
theorem ending_runStep (item : Option String) (s : Step) (w : Walk (Watched σ)) :
    let ending := (crew.watchedMoves.walkStep item s).ending w
    (crew.runStep item s).ending w.plain = (ending.1, ending.2.plain) := by
  obtain ⟨_, v, v', hv, hv', same⟩ | ⟨_, v, v', hv, hv', same⟩ :=
    crew.agree_runStep_watched item s w.plain w w.isPlain
  · rw [Walking.ending_of_ok hv, Walking.ending_of_ok hv', Walk.eq_plain same]
  · rw [Walking.ending_of_error hv, Walking.ending_of_error hv', Walk.eq_plain same]

/-- Taking notes does not change a walk. -/
theorem agree_runSteps_watched (item : Option String) (steps : List Step) :
    Agree (Walk.Related IsPlain) (crew.runSteps item steps)
      (crew.watchedMoves.walkSteps item steps) := by
  unfold runSteps
  rw [walkSteps_eq_moves]
  exact Moves.related_walkSteps (Agree.sequential _) crew.related_watchedMoves item steps

/-- Taking notes does not change a case. -/
theorem agree_runCase_watched (c : Case) :
    RoutinesAgree IsPlain (crew.runCase c) (crew.watchCase c) :=
  crew.simulates_watched.agree_runWalk (crew.agree_runSteps_watched none c.steps) c.name

/-- Taking notes does not change a run of cases. -/
theorem agree_runInTurn_watched (sink : ResultSink σ) (teardown : Play σ Unit)
    (cases : List Case) (kept : List CaseResult) :
    RoutinesAgree IsPlain (runInTurn crew.runCase (some sink) (some teardown) cases kept)
      (crew.watchInTurn sink teardown cases kept) :=
  agree_runInTurn crew.agree_runCase_watched
    (agree_recordResult keepsReports_isPlain fun _ ↦ agree_watched _ _)
    (agree_tearDown keepsReports_isPlain (agree_watched _ _)) cases kept

end Crew

/-! ### What is noted -/

/-- Two walks with the same journal, the same step results and the same status. -/
structure SameBooks (w w' : Walk (Watched σ)) : Prop where
  journal : w'.journal = w.journal
  steps : w'.steps = w.steps
  status : w'.status = w.status

/-- A computation in which nothing is noted or recorded. -/
def Silent (x : Walking (Watched σ) α) : Prop :=
  ∀ w, Keeps (SameBooks w) (fun _ ↦ SameBooks w) x

namespace Crew

variable (crew : Crew σ)

private theorem keeps_journal_watched (p : Play σ α) (j : List Event) :
    Keeps (fun s ↦ s.journal = j) (fun _ s ↦ s.journal = j) (p.watched fun _ _ ↦ []) := by
  intro s hs
  cases h : p s.plain with
  | ok a t => simpa [Play.watched_of_ok _ h] using hs
  | error e t => simpa [Play.watched_of_error _ h] using hs

private theorem keeps_journal_evaluate (condition : String) (j : List Event) :
    Keeps (fun s ↦ s.journal = j) (fun _ s ↦ s.journal = j)
      (crew.watched.conditions.evaluate condition) := by
  refine Registry.keeps_evaluate ?_ (fun _ h _ _ _ ↦ h) condition
  intro p hp argument
  obtain ⟨q, -, rfl⟩ := List.mem_map.mp hp
  exact keeps_journal_watched (q.2 argument) j

/-- Evaluating a condition is silent. -/
theorem silent_conditionHolds (condition : String) :
    Silent (crew.watched.conditionHolds condition) := by
  intro w w' h
  have kept := crew.keeps_journal_evaluate (w'.stage.environment.substitute condition) w.journal
    w'.stage h.journal
  rw [conditionHolds_eq]
  cases he : crew.watched.conditions.evaluate (w'.stage.environment.substitute condition)
      w'.stage with
  | ok a s =>
    rw [he] at kept
    rw [Walking.ofPlay_of_ok he]
    exact ⟨kept, h.steps, h.status⟩
  | error e s =>
    rw [he] at kept
    rw [Walking.ofPlay_of_error he]
    exact ⟨kept, h.steps, h.status⟩

/-- Reading a header is silent. -/
theorem silent_loopHeader (header : String) : Silent (loopHeader (σ := Watched σ) header) := by
  intro w w' h
  cases hh : LoopHeader.ofText? (w'.stage.environment.substitute header) with
  | some _ =>
    rw [loopHeader_of_some hh]
    exact h
  | none =>
    rw [loopHeader_of_none hh]
    exact h

/-- A watched action that goes through is noted. -/
theorem watched_performAction_of_ok {text : Option String} {parameters : List (Option String)}
    {w : Walk (Watched σ)} {s : Stage σ} (h : crew.handOver text parameters w.plain = .ok () s) :
    crew.watched.performAction text parameters w =
      .ok () ((crew.afterStep text parameters w.plain s none).watched
        (w.journal ++ [.performed (w.turn text parameters none)])) := by
  refine performAction_of_ok (s := s.watched (w.journal ++ _)) ?_
  exact Play.watched_of_ok (s := w.stage.ticked crew.watched.clock) (noteTurn _ _) h

/-- A watched action that fails is noted, too. -/
theorem watched_performAction_of_error {text : Option String} {parameters : List (Option String)}
    {w : Walk (Watched σ)} {s : Stage σ} {e : Failure}
    (h : crew.handOver text parameters w.plain = .error e s) :
    crew.watched.performAction text parameters w =
      .error e ((crew.afterStep text parameters w.plain s (some e)).watched
        (w.journal ++ [.performed (w.turn text parameters (some e))])) := by
  refine performAction_of_error (s := s.watched (w.journal ++ _)) ?_
  exact Play.watched_of_error (s := w.stage.ticked crew.watched.clock) (noteTurn _ _) h

/-- The performer takes exactly one turn for an action, with the action and the parameters that the
variables make of it. -/
theorem turns_performAction (text : Option String) (parameters : List (Option String))
    (w : Walk (Watched σ)) :
    let ending := (crew.watched.performAction text parameters).ending w
    turns ending.2.journal = turns w.journal ++ [w.plain.turn text parameters ending.1] := by
  cases h : crew.handOver text parameters w.plain with
  | ok a s =>
    rw [Walking.ending_of_ok (crew.watched_performAction_of_ok h)]
    exact turns_append ..
  | error e s =>
    rw [Walking.ending_of_error (crew.watched_performAction_of_error h)]
    exact turns_append ..

/-- Binding an item is silent. -/
theorem silent_bindItem (name item : String) :
    Silent (Walking.ofRoutine (σ := Watched σ) (Routine.bindVariable name (.text item))) :=
  fun _ _ h ↦ SameBooks.mk h.journal h.steps h.status

/-- A stray step is silent. -/
theorem silent_stray (kind : StepKind) : Silent (stray (σ := Watched σ) kind) := by
  intro w w' h
  cases kind <;> exact h

section

variable {inv : Walk (Watched σ) → Prop} {broken : Failure → Walk (Watched σ) → Prop}

private theorem keeps_of_silent (silent : ∀ {w w'}, SameBooks w w' → inv w → inv w')
    (stopped : ∀ e {w}, inv w → broken e w) {x : Walking (Watched σ) α} (h : Silent x) :
    Keeps inv broken x := by
  intro w hw
  have hx := h w w ⟨rfl, rfl, rfl⟩
  split
  · next hr =>
    rw [hr] at hx
    exact silent hx hw
  · next e _ hr =>
    rw [hr] at hx
    exact stopped e (silent hx hw)

private theorem keeps_note (noted : ∀ e {w}, e.OfWalk → e.turn? = none → inv w → inv (w.noted e))
    (silent : ∀ {w w'}, SameBooks w w' → inv w → inv w') (stopped : ∀ e {w}, inv w → broken e w)
    {e : Event} (ofWalk : e.OfWalk) (noTurn : e.turn? = none) {x : Walking (Watched σ) α}
    (h : Silent x) : Keeps inv broken (do Walking.note e; x) := by
  have note : Keeps inv broken (Walking.note e) := fun _ hw ↦ noted e ofWalk noTurn hw
  exact .bind note fun _ ↦ keeps_of_silent silent stopped h

/-- Every move keeps what actions keep and what may be noted. -/
theorem keep_watchedMoves
    (act : ∀ text parameters, Keeps inv broken (crew.watched.performAction text parameters))
    (noted : ∀ e {w}, e.OfWalk → e.turn? = none → inv w → inv (w.noted e))
    (silent : ∀ {w w'}, SameBooks w w' → inv w → inv w')
    (stopped : ∀ e {w}, inv w → broken e w) : crew.watchedMoves.Keep inv broken where
  act := act
  test condition :=
    keeps_note noted silent stopped (e := .tested condition) trivial rfl
      (crew.silent_conditionHolds condition)
  readHeader header :=
    keeps_note noted silent stopped (e := .headerRead header) trivial rfl
      (silent_loopHeader header)
  bindItem name item :=
    keeps_note noted silent stopped (e := .bound name item) trivial rfl
      (silent_bindItem name item)
  stray kind := keeps_of_silent silent stopped (silent_stray kind)

end

end Crew

end Playbook
