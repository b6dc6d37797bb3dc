import Mathlib.Data.List.Forall2
import Playbook.Proofs.Run.Moves
import Playbook.Proofs.Run.Performing
import Playbook.Run.Cases

/-!
# Simulation

Two crews may work in different worlds and still do the same. If performing, the clock and the
predicates agree on related stages and leave them related (`Crew.Simulates`), then the moves of
both crews agree (`Simulates.related_moves`), and a case comes to the same result with both
(`Simulates.agree_runCase`). Runs of cases agree where cases, recorders and teardowns do
(`agree_runInTurn`).
-/

namespace Playbook

open Script

variable {σ τ S T α β : Type}

/-- From related states, two computations go through with the same answer or fail with the same
failure, and they leave related states. -/
def Agree (rel : S → T → Prop) (x : EStateM Failure S α) (y : EStateM Failure T α) : Prop :=
  ∀ s t, rel s t →
    (∃ a s' t', x s = .ok a s' ∧ y t = .ok a t' ∧ rel s' t') ∨
    (∃ e s' t', x s = .error e s' ∧ y t = .error e t' ∧ rel s' t')

/-- From related stages, two routines give the same answer and leave related stages. -/
def RoutinesAgree (rel : S → T → Prop) (r : StateM S α) (r' : StateM T α) : Prop :=
  ∀ s t, rel s t → (r s).1 = (r' t).1 ∧ rel (r s).2 (r' t).2

namespace Agree

variable {rel : S → T → Prop}

/-- Two computations agree that do nothing but give the same answer. -/
theorem pure (a : α) :
    Agree rel (Pure.pure a : EStateM Failure S α) (Pure.pure a : EStateM Failure T α) :=
  fun s t h ↦ .inl ⟨a, s, t, rfl, rfl, h⟩

/-- Two computations agree that fail with the same failure. -/
theorem throw (e : Failure) :
    Agree rel (MonadExcept.throw e : EStateM Failure S α)
      (MonadExcept.throw e : EStateM Failure T α) :=
  fun s t h ↦ .inr ⟨e, s, t, rfl, rfl, h⟩

/-- Sequences agree whose parts agree. -/
theorem bind {x : EStateM Failure S α} {y : EStateM Failure T α} {f : α → EStateM Failure S β}
    {g : α → EStateM Failure T β} (h : Agree rel x y) (hf : ∀ a, Agree rel (f a) (g a)) :
    Agree rel (x >>= f) (y >>= g) := by
  intro s t hs
  obtain ⟨a, s', t', hx, hy, h'⟩ | ⟨e, s', t', hx, hy, h'⟩ := h s t hs
  · rw [bind_of_ok f hx, bind_of_ok g hy]
    exact hf a s' t' h'
  · rw [bind_of_error f hx, bind_of_error g hy]
    exact .inr ⟨e, s', t', rfl, rfl, h'⟩

/-- To agree is kept by sequences. -/
theorem sequential (rel : Walk σ → Walk τ → Prop) :
    Moves.Sequential fun x y ↦ Agree rel x y :=
  { pure, bind }

end Agree

/-- Walks on related stages, with the same step results and status. -/
structure Walk.Related (rel : Stage σ → Stage τ → Prop) (w : Walk σ) (v : Walk τ) : Prop where
  stage : rel w.stage v.stage
  steps : w.steps = v.steps
  status : w.status = v.status

/-- Walks that agree end alike. -/
theorem Agree.ending {rel : Stage σ → Stage τ → Prop} {x : Walking σ Unit} {y : Walking τ Unit}
    (h : Agree (Walk.Related rel) x y) {w : Walk σ} {v : Walk τ} (hw : Walk.Related rel w v) :
    (x.ending w).1 = (y.ending v).1 ∧ Walk.Related rel (x.ending w).2 (y.ending v).2 := by
  obtain ⟨_, w', v', hx, hy, h'⟩ | ⟨e, w', v', hx, hy, h'⟩ := h w v hw
  · rw [Walking.ending_of_ok hx, Walking.ending_of_ok hy]
    exact ⟨rfl, h'⟩
  · rw [Walking.ending_of_error hx, Walking.ending_of_error hy]
    exact ⟨rfl, h'⟩

/-- Stages that stay related whatever is reported on both. -/
def KeepsReports (rel : Stage σ → Stage τ → Prop) : Prop :=
  ∀ ⦃s t⦄, rel s t → ∀ level source text,
    rel (s.logged level source text) (t.logged level source text)

/-- Two crews that do the same on related stages. -/
structure Crew.Simulates (rel : Stage σ → Stage τ → Prop) (crew : Crew σ) (crew' : Crew τ) :
    Prop where
  environment : ∀ {s t}, rel s t → s.environment = t.environment
  logged : KeepsReports rel
  bound : ∀ {s t}, rel s t → ∀ name v, rel (s.bound name v) (t.bound name v)
  time : ∀ {s t}, rel s t → s.time crew.clock = t.time crew'.clock
  ticked : ∀ {s t}, rel s t → rel (s.ticked crew.clock) (t.ticked crew'.clock)
  perform : ∀ action parameters,
    Agree rel (crew.perform action parameters) (crew'.perform action parameters)
  conditions : List.Forall₂
    (fun p q ↦ p.1 = q.1 ∧ ∀ argument, Agree rel (p.2 argument) (q.2 argument))
    crew.conditions.entries crew'.conditions.entries

namespace Crew.Simulates

variable {rel : Stage σ → Stage τ → Prop} {crew : Crew σ} {crew' : Crew τ}

/-! ### The moves -/

private theorem find?_eq (sim : Simulates rel crew crew') (condition : String) :
    (crew.conditions.find? condition = none ∧ crew'.conditions.find? condition = none) ∨
    ∃ argument p q, crew.conditions.find? condition = some (argument, p) ∧
      crew'.conditions.find? condition = some (argument, q) ∧
      ∀ argument, Agree rel (p argument) (q argument) := by
  simp only [Registry.find?]
  have h := sim.conditions
  generalize crew.conditions.entries = entries at h
  generalize crew'.conditions.entries = entries' at h
  induction h with
  | nil => exact .inl ⟨rfl, rfl⟩
  | @cons p q _ _ hpq _ ih =>
    simp only [List.find?_cons, ← hpq.1]
    cases p.1.isPrefixOf (Text.lowercase condition).toList with
    | false => exact ih
    | true => exact .inr ⟨_, p.2, q.2, rfl, by simp only [Option.map_some, hpq.1], hpq.2⟩

private theorem agree_report (sim : Simulates rel crew crew') (level : Level) (source : Source)
    (text : String) : Agree rel (Play.report level source text) (Play.report level source text) :=
  fun _ _ h ↦ .inl ⟨_, _, _, rfl, rfl, sim.logged h level source text⟩

private theorem agree_evaluate (sim : Simulates rel crew crew') (condition : String) :
    Agree rel (crew.conditions.evaluate condition) (crew'.conditions.evaluate condition) := by
  unfold Registry.evaluate
  obtain ⟨hf, hf'⟩ | ⟨argument, p, q, hf, hf', hpq⟩ := sim.find?_eq (Text.strip condition)
  · simp only [hf, hf']
    exact .bind (sim.agree_report _ _ _) fun _ ↦ .pure true
  · simp only [hf, hf']
    exact .bind (hpq argument) fun _ ↦ .bind (sim.agree_report _ _ _) fun _ ↦ .pure _

private theorem related_afterStep (sim : Simulates rel crew crew') {w : Walk σ} {v : Walk τ}
    (hw : Walk.Related rel w v) {s : Stage σ} {t : Stage τ} (hs : rel s t) (text : Option String)
    (parameters : List (Option String)) (failure : Option Failure) :
    Walk.Related rel (crew.afterStep text parameters w s failure)
      (crew'.afterStep text parameters v t failure) := by
  obtain ⟨stage, steps, status⟩ := hw
  have environment := sim.environment stage
  constructor
  · simp only [afterStep, steps, environment]
    exact sim.logged (sim.ticked hs) _ _ _
  · simp only [afterStep, stepResult, steps, environment, sim.time stage, sim.time hs]
  · simp only [afterStep, status]

/-- An action does the same with both crews. -/
theorem agree_performAction (sim : Simulates rel crew crew') (text : Option String)
    (parameters : List (Option String)) :
    Agree (Walk.Related rel) (crew.performAction text parameters)
      (crew'.performAction text parameters) := by
  intro w v hw
  have perform := sim.perform (w.stage.environment.actionOf text)
    (w.stage.environment.parametersOf parameters) _ _ (sim.ticked hw.stage)
  have environment := sim.environment hw.stage
  obtain ⟨a, s, t, hs, ht, h⟩ | ⟨e, s, t, hs, ht, h⟩ := perform
  · rw [environment] at ht
    exact .inl ⟨(), _, _, performAction_of_ok hs, performAction_of_ok ht,
      sim.related_afterStep hw h text parameters none⟩
  · rw [environment] at ht
    exact .inr ⟨e, _, _, performAction_of_error hs, performAction_of_error ht,
      sim.related_afterStep hw h text parameters (some e)⟩

/-- A condition does the same with both crews. -/
theorem agree_conditionHolds (sim : Simulates rel crew crew') (condition : String) :
    Agree (Walk.Related rel) (crew.conditionHolds condition) (crew'.conditionHolds condition) := by
  intro w v hw
  have evaluate := sim.agree_evaluate (w.stage.environment.substitute condition) _ _ hw.stage
  rw [conditionHolds_eq, conditionHolds_eq, ← sim.environment hw.stage]
  obtain ⟨a, s, t, hs, ht, h⟩ | ⟨e, s, t, hs, ht, h⟩ := evaluate
  · exact .inl ⟨a, _, _, Walking.ofPlay_of_ok hs, Walking.ofPlay_of_ok ht, h, hw.steps, hw.status⟩
  · exact .inr ⟨e, _, _, Walking.ofPlay_of_error hs, Walking.ofPlay_of_error ht, h, hw.steps,
      hw.status⟩

/-- A header is read the same with both crews. -/
theorem agree_loopHeader (sim : Simulates rel crew crew') (header : String) :
    Agree (Walk.Related rel) (loopHeader header) (loopHeader header) := by
  intro w v hw
  have environment := sim.environment hw.stage
  cases h : LoopHeader.ofText? (w.stage.environment.substitute header) with
  | some found =>
    exact .inl ⟨found, w, v, loopHeader_of_some h, loopHeader_of_some (environment ▸ h), hw⟩
  | none =>
    refine .inr ⟨_, w, v, loopHeader_of_none h, ?_, hw⟩
    rw [environment] at h ⊢
    exact loopHeader_of_none h

/-- Binding an item does the same with both crews. -/
theorem agree_bindItem (sim : Simulates rel crew crew') (name item : String) :
    Agree (Walk.Related rel) (Walking.ofRoutine (Routine.bindVariable name (.text item)))
      (Walking.ofRoutine (Routine.bindVariable name (.text item))) :=
  fun _ _ hw ↦ .inl ⟨(), _, _, rfl, rfl, sim.bound hw.stage name _, hw.steps, hw.status⟩

/-- A stray step does the same with both crews. -/
theorem agree_stray (rel : Stage σ → Stage τ → Prop) (kind : StepKind) :
    Agree (Walk.Related rel) (stray kind) (stray kind) := by
  cases kind with
  | other tag => exact .throw _
  | _ => exact .pure ()

/-- Every move does the same with both crews. -/
theorem related_moves (sim : Simulates rel crew crew') :
    Moves.Related (fun x y ↦ Agree (Walk.Related rel) x y) (crew.moves stray)
      (crew'.moves stray) where
  act := sim.agree_performAction
  test := sim.agree_conditionHolds
  readHeader := sim.agree_loopHeader
  bindItem := sim.agree_bindItem
  stray := agree_stray rel

/-! ### Cases -/

private theorem agree_openCase (sim : Simulates rel crew crew') (name : String) :
    RoutinesAgree rel (openCase crew.clock name) (openCase crew'.clock name) := by
  intro s t h
  have h := sim.logged h .info .runner ("Test: " ++ name)
  exact ⟨sim.time h, sim.ticked (sim.ticked h)⟩

private theorem agree_closeCase (sim : Simulates rel crew crew') (name : String)
    (startedAt : Moment) (failure : Option Failure) {w : Walk σ} {v : Walk τ}
    (hw : Walk.Related rel w v) :
    RoutinesAgree rel (closeCase crew.clock name startedAt failure w)
      (closeCase crew'.clock name startedAt failure v) := by
  intro s t h
  cases failure with
  | none =>
    have h := sim.logged h .info .runner ("Test \"" ++ name ++ "\" passed")
    exact ⟨CaseResult.mk.injEq .. ▸ ⟨rfl, hw.status, rfl, sim.time h, hw.steps, rfl⟩,
      sim.ticked h⟩
  | some e =>
    have h := sim.logged h .error .runner ("Test \"" ++ name ++ "\" failed: " ++ e.message)
    exact ⟨CaseResult.mk.injEq .. ▸ ⟨rfl, rfl, rfl, sim.time h, hw.steps, rfl⟩, sim.ticked h⟩

/-- Walks that agree make cases that do. -/
theorem agree_runWalk (sim : Simulates rel crew crew') {x : Walking σ Unit} {y : Walking τ Unit}
    (h : Agree (Walk.Related rel) x y) (name : String) :
    RoutinesAgree rel (runWalk crew.clock name x) (runWalk crew'.clock name y) := by
  intro s t hs
  have opened := sim.agree_openCase name s t hs
  have ended := h.ending (w := .opened crew.clock name s)
    (v := .opened crew'.clock name t) ⟨opened.2, rfl, rfl⟩
  rw [runWalk_eq, runWalk_eq, opened.1]
  dsimp only
  rw [ended.1]
  exact sim.agree_closeCase name _ _ ended.2 _ _ ended.2.stage

/-- A case comes to the same result with both crews. -/
theorem agree_runCase (sim : Simulates rel crew crew') (c : Case) :
    RoutinesAgree rel (crew.runCase c) (crew'.runCase c) := by
  refine sim.agree_runWalk ?_ c.name
  unfold runSteps
  rw [walkSteps_eq_moves, walkSteps_eq_moves]
  exact Moves.related_walkSteps (Agree.sequential _) sim.related_moves none c.steps

end Crew.Simulates

/-! ### Runs of cases -/

namespace Keeping

variable {x : Keeping σ α} {f : α → Keeping σ β} {y : Routine σ Unit}
  {kept kept' : List CaseResult} {s t : Stage σ} {a : α} {e : Failure}

/-- What comes next goes on with what was kept. -/
theorem bind_of_ok (h : x kept s = ((.ok a, kept'), t)) : (x >>= f) kept s = f a kept' t := by
  simp only [bind, ExceptT.bind, ExceptT.mk, StateT.bind]
  rw [h]
  rfl

/-- A failure is the end of it. -/
theorem bind_of_error (h : x kept s = ((.error e, kept'), t)) :
    (x >>= f) kept s = ((.error e, kept'), t) := by
  simp only [bind, ExceptT.bind, ExceptT.mk, StateT.bind]
  rw [h]
  rfl

/-- What is made of a result changes nothing else. -/
theorem map_eq (g : α → β) :
    (do return g (← x) : Keeping σ β) kept s =
      (((x kept s).1.1.map g, (x kept s).1.2), (x kept s).2) := by
  rcases h : x kept s with ⟨⟨e | a, kept'⟩, t⟩
  · exact bind_of_error h
  · exact bind_of_ok h

/-- What is done in any case is done where all went through. -/
theorem finally_of_ok (h : x kept s = ((.ok a, kept'), t)) :
    (try x finally y : Keeping σ α) kept s = ((.ok a, kept'), (y t).2) := by
  simp only [tryFinally, tryFinally', bind, ExceptT.mk, StateT.bind, Functor.map, ExceptT.map]
  rw [h]
  rfl

/-- What is done in any case is done after a failure. -/
theorem finally_of_error (h : x kept s = ((.error e, kept'), t)) :
    (try x finally y : Keeping σ α) kept s = ((.error e, kept'), (y t).2) := by
  simp only [tryFinally, tryFinally', bind, ExceptT.mk, StateT.bind, Functor.map, ExceptT.map]
  rw [h]
  rfl

end Keeping

section

variable {run : Case → Routine σ CaseResult} {sink : Option (ResultSink σ)}
  {teardown : Option (Play σ Unit)} {c : Case} {s t : Stage σ} {e : Failure}

/-- The result of a case is kept, whatever becomes of its record. -/
theorem runAndRecord_eq (kept : List CaseResult) :
    runAndRecord run sink c kept s =
      let ran := run c s
      let recorded := recordResult sink c ran.1 ran.2
      ((recorded.1.map fun _ ↦ ran.1, kept ++ [ran.1]), recorded.2) := by
  have recorded : runAndRecord run sink c kept s =
      (do
        MonadExcept.ofExcept (recordResult sink c (run c s).1 (run c s).2).1
        return (run c s).1 : Keeping σ CaseResult)
      (kept ++ [(run c s).1]) (recordResult sink c (run c s).1 (run c s).2).2 := rfl
  rw [recorded]
  dsimp only
  rcases recordResult sink c (run c s).1 (run c s).2 with ⟨e | _, t⟩
  · rfl
  · rfl

/-- A run of cases is a run of the first, its record and teardown, and a run of the others. -/
theorem runInTurn_cons_of_ok (rest : List Case) (kept : List CaseResult)
    (recorded : recordResult sink c (run c s).1 (run c s).2 = (.ok (), t)) :
    runInTurn run sink teardown (c :: rest) kept s =
      let more := runInTurn run sink teardown rest (kept ++ [(run c s).1])
        (tearDown teardown c t).2
      ((more.1.1.map ((run c s).1 :: ·), more.1.2), more.2) := by
  have ran : runAndRecord run sink c kept s = ((.ok (run c s).1, kept ++ [(run c s).1]), t) := by
    rw [runAndRecord_eq]
    dsimp only
    rw [recorded]
    rfl
  exact (Keeping.bind_of_ok (Keeping.finally_of_ok ran)).trans (Keeping.map_eq _)

/-- A record that fails for good ends the run, once the case is torn down. -/
theorem runInTurn_cons_of_error (rest : List Case) (kept : List CaseResult)
    (recorded : recordResult sink c (run c s).1 (run c s).2 = (.error e, t)) :
    runInTurn run sink teardown (c :: rest) kept s =
      ((.error e, kept ++ [(run c s).1]), (tearDown teardown c t).2) := by
  have ran : runAndRecord run sink c kept s = ((.error e, kept ++ [(run c s).1]), t) := by
    rw [runAndRecord_eq]
    dsimp only
    rw [recorded]
    rfl
  exact Keeping.bind_of_error (Keeping.finally_of_error ran)

/-- A run of cases that goes through has gone through the first and through the others. -/
theorem exists_of_runInTurn_cons_ok {rest : List Case} {kept kept' results : List CaseResult}
    (h : runInTurn run sink teardown (c :: rest) kept s = ((.ok results, kept'), t)) :
    ∃ u more, recordResult sink c (run c s).1 (run c s).2 = (.ok (), u) ∧
      runInTurn run sink teardown rest (kept ++ [(run c s).1]) (tearDown teardown c u).2 =
        ((.ok more, kept'), t) ∧
      results = (run c s).1 :: more := by
  rcases recorded : recordResult sink c (run c s).1 (run c s).2 with ⟨e | _, u⟩
  · rw [runInTurn_cons_of_error _ _ recorded] at h
    cases h
  · rw [runInTurn_cons_of_ok _ _ recorded] at h
    rcases later : runInTurn run sink teardown rest (kept ++ [(run c s).1])
      (tearDown teardown c u).2 with ⟨⟨e | more, _⟩, _⟩
    · rw [later] at h
      cases h
    · rw [later] at h
      cases h
      exact ⟨u, more, rfl, later, rfl⟩

end

section

variable {sink : ResultSink σ} {teardown : Play σ Unit} {c : Case} {r : CaseResult} {s t : Stage σ}
  {e : Failure}

/-- A record that goes through is silent. -/
theorem recordResult_of_ok (h : sink r s = .ok () t) :
    recordResult (some sink) c r s = (.ok (), t) := by
  simp only [recordResult, bind, StateT.bind, Routine.attempt, h]
  rfl

/-- A record that the disk refuses is reported. -/
theorem recordResult_of_refused (h : sink r s = .error e t) (refused : e.isDiskFault = true) :
    recordResult (some sink) c r s =
      (.ok (), t.logged .error .runner
        ("Could not record result of \"" ++ c.name ++ "\": " ++ e.message)) := by
  simp only [recordResult, bind, StateT.bind, Routine.attempt, h, refused, if_true]
  rfl

/-- Any other failure of a record is handed out. -/
theorem recordResult_of_failed (h : sink r s = .error e t) (failed : ¬e.isDiskFault = true) :
    recordResult (some sink) c r s = (.error e, t) := by
  simp only [recordResult, bind, StateT.bind, Routine.attempt, h, failed]
  rfl

/-- A teardown that goes through is silent. -/
theorem tearDown_of_ok (h : teardown s = .ok () t) : tearDown (some teardown) c s = ((), t) := by
  simp only [tearDown, bind, StateT.bind, Routine.attempt, h]
  rfl

/-- A failed teardown is reported. -/
theorem tearDown_of_error (h : teardown s = .error e t) :
    tearDown (some teardown) c s =
      ((), t.logged .error .commandLine
        ("Teardown after \"" ++ c.name ++ "\" failed: " ++ e.message)) := by
  simp only [tearDown, bind, StateT.bind, Routine.attempt, h]
  rfl

end

/-- Runs of cases agree where cases, recorders and teardowns do. -/
theorem agree_runInTurn {rel : Stage σ → Stage τ → Prop} {run : Case → Routine σ CaseResult}
    {run' : Case → Routine τ CaseResult} {sink : Option (ResultSink σ)}
    {sink' : Option (ResultSink τ)} {teardown : Option (Play σ Unit)}
    {teardown' : Option (Play τ Unit)} (ran : ∀ c, RoutinesAgree rel (run c) (run' c))
    (recorded : ∀ c r, RoutinesAgree rel (recordResult sink c r) (recordResult sink' c r))
    (tornDown : ∀ c, RoutinesAgree rel (tearDown teardown c) (tearDown teardown' c))
    (cases : List Case) (kept : List CaseResult) :
    RoutinesAgree rel (runInTurn run sink teardown cases kept)
      (runInTurn run' sink' teardown' cases kept) := by
  induction cases generalizing kept with
  | nil => exact fun _ _ h ↦ ⟨rfl, h⟩
  | cons c cases ih =>
    intro s t h
    have first := ran c s t h
    have record := recorded c (run' c t).1 _ _ first.2
    rcases went : recordResult sink c (run c s).1 (run c s).2 with ⟨outcome, s'⟩
    rcases went' : recordResult sink' c (run' c t).1 (run' c t).2 with ⟨outcome', t'⟩
    rw [went', ← first.1, went] at record
    obtain ⟨rfl, related⟩ : outcome = outcome' ∧ rel s' t' := record
    have torn := (tornDown c _ _ related).2
    cases outcome with
    | error e =>
      rw [runInTurn_cons_of_error _ _ went, runInTurn_cons_of_error _ _ went', first.1]
      exact ⟨rfl, torn⟩
    | ok _ =>
      have rest := ih (kept ++ [(run' c t).1]) _ _ torn
      rw [runInTurn_cons_of_ok _ _ went, runInTurn_cons_of_ok _ _ went', first.1]
      dsimp only
      rw [rest.1]
      exact ⟨rfl, rest.2⟩

/-- Recorders that agree are reported on alike. -/
theorem agree_recordResult {rel : Stage σ → Stage τ → Prop} (logged : KeepsReports rel)
    {sink : ResultSink σ} {sink' : ResultSink τ} (h : ∀ r, Agree rel (sink r) (sink' r)) (c : Case)
    (r : CaseResult) :
    RoutinesAgree rel (recordResult (some sink) c r) (recordResult (some sink') c r) := by
  intro s t hs
  obtain ⟨_, s', t', hx, hy, h'⟩ | ⟨e, s', t', hx, hy, h'⟩ := h r s t hs
  · rw [recordResult_of_ok hx, recordResult_of_ok hy]
    exact ⟨rfl, h'⟩
  · by_cases refused : e.isDiskFault = true
    · rw [recordResult_of_refused hx refused, recordResult_of_refused hy refused]
      exact ⟨rfl, logged h' _ _ _⟩
    · rw [recordResult_of_failed hx refused, recordResult_of_failed hy refused]
      exact ⟨rfl, h'⟩

/-- A recorder that fails only where the disk refuses something. -/
def ResultSink.OnlyDiskFaults (sink : ResultSink σ) : Prop :=
  ∀ r s e t, sink r s = .error e t → e.isDiskFault = true

/-- What the disk refuses of a record is reported, and the run goes on. -/
theorem ResultSink.OnlyDiskFaults.exists_recordResult {sink : ResultSink σ}
    (h : sink.OnlyDiskFaults) (c : Case) (r : CaseResult) (s : Stage σ) :
    ∃ t, recordResult (some sink) c r s = (.ok (), t) := by
  cases hr : sink r s with
  | ok _ t => exact ⟨t, recordResult_of_ok hr⟩
  | error e t => exact ⟨_, recordResult_of_refused hr (h r s e t hr)⟩

/-- A run goes through where every record does, and it has kept what it comes to. -/
theorem exists_runInTurn_ok {sink : Option (ResultSink σ)}
    (recorded : ∀ c r s, ∃ t, recordResult sink c r s = (.ok (), t))
    (run : Case → Routine σ CaseResult) (teardown : Option (Play σ Unit)) (cases : List Case)
    (kept : List CaseResult) (s : Stage σ) :
    ∃ results, (runInTurn run sink teardown cases kept s).1 = (.ok results, kept ++ results) := by
  induction cases generalizing kept s with
  | nil => exact ⟨[], congrArg (Prod.mk _) (List.append_nil kept).symm⟩
  | cons c cases ih =>
    obtain ⟨t, went⟩ := recorded c (run c s).1 (run c s).2
    obtain ⟨results, more⟩ := ih (kept ++ [(run c s).1]) (tearDown teardown c t).2
    refine ⟨(run c s).1 :: results, ?_⟩
    rw [runInTurn_cons_of_ok _ _ went]
    dsimp only
    rw [more, List.append_assoc, List.singleton_append]
    rfl

/-- All cases are run to their results exactly where the run goes through. -/
theorem Crew.runAll_eq_ok_iff {crew : Crew σ} {sink : Option (ResultSink σ)}
    {teardown : Option (Play σ Unit)} {cases : List Case} {s t : Stage σ}
    {results : List CaseResult} :
    crew.runAll sink teardown cases s = .ok results t ↔
      ∃ kept, runInTurn crew.runCase sink teardown cases [] s = ((.ok results, kept), t) := by
  rcases h : runInTurn crew.runCase sink teardown cases [] s with ⟨⟨outcome, kept⟩, u⟩
  have toPlay : ((runInTurn crew.runCase sink teardown cases).run.run []).toPlay s =
      .ok (outcome, kept) u := by
    simp only [Routine.toPlay, ExceptT.run, StateT.run, h]
  have ran : crew.runAll sink teardown cases s =
      (MonadExcept.ofExcept outcome : Play σ (List CaseResult)) u := bind_of_ok _ toPlay
  rw [ran]
  cases outcome with
  | error e =>
    constructor
    · intro went
      cases went
    · rintro ⟨_, went⟩
      cases went
  | ok results' =>
    constructor
    · intro went
      cases went
      exact ⟨kept, rfl⟩
    · rintro ⟨_, went⟩
      cases went
      rfl

/-- Teardowns that agree are reported on alike. -/
theorem agree_tearDown {rel : Stage σ → Stage τ → Prop} (logged : KeepsReports rel)
    {teardown : Play σ Unit} {teardown' : Play τ Unit} (h : Agree rel teardown teardown')
    (c : Case) :
    RoutinesAgree rel (tearDown (some teardown) c) (tearDown (some teardown') c) := by
  intro s t hs
  obtain ⟨_, s', t', hx, hy, h'⟩ | ⟨e, s', t', hx, hy, h'⟩ := h s t hs
  · rw [tearDown_of_ok hx, tearDown_of_ok hy]
    exact ⟨rfl, h'⟩
  · rw [tearDown_of_error hx, tearDown_of_error hy]
    exact ⟨rfl, logged h' _ _ _⟩

end Playbook
