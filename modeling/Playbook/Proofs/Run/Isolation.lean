import Playbook.Proofs.Run.FailFast

/-!
# Cases apart from their reports

The disk may refuse a recorder and a teardown may fail, and neither changes what the cases come to.
The crew works within a part of the world that recorder and teardown leave as it is; then a run comes
to the results of the same run without them, every result is kept, and the run's journal tells of
one case after another: what happened in the case, its record, its teardown
(`runInTurn_isolated`).
-/

namespace Playbook

open Script

variable {σ τ α : Type}

/-- Stages with the same variables and the same view of their worlds. Their logs may differ. -/
structure Alike (view : σ → τ) (s t : Stage σ) : Prop where
  environment : s.environment = t.environment
  world : view s.world = view t.world

/-- A play that leaves the variables and what is in view as they are, however it ends. -/
def Play.Spares (view : σ → τ) (p : Play σ α) : Prop :=
  ∀ s, Keeps (fun t ↦ Alike view t s) (fun _ t ↦ Alike view t s) p

/-- A crew that neither looks beyond the variables and what is in view nor at the log. -/
structure Crew.WorksWithin (view : σ → τ) (crew : Crew σ) : Prop where
  perform : ∀ action parameters,
    Agree (Alike view) (crew.perform action parameters) (crew.perform action parameters)
  conditions : ∀ p ∈ crew.conditions.entries, ∀ argument,
    Agree (Alike view) (p.2 argument) (p.2 argument)
  time : ∀ w v, view w = view v → (crew.clock w).1 = (crew.clock v).1
  ticked : ∀ w v, view w = view v → view (crew.clock w).2 = view (crew.clock v).2

/-- A run of cases as its journal tells it: what happened in the first case, its record, its
teardown, and then the other cases. -/
inductive Crew.Unfolds (crew : Crew σ) : List Case → List CaseResult → List Event → Prop
  | done : Unfolds crew [] [] []
  | next {c : Case} {s : Stage σ} {walked : List Event} {cases : List Case}
      {results : List CaseResult} {events : List Event} (ofWalk : ∀ e ∈ walked, e.OfWalk)
      (told : FailFast (crew.failureOf c s) walked (crew.runCase c s).1)
      (later : Unfolds crew cases results events) :
      Unfolds crew (c :: cases) ((crew.runCase c s).1 :: results)
        (walked ++ .recorded (crew.runCase c s).1 :: .tornDown :: events)

/-! ### Without recorder and teardown -/

section

variable {view : σ → τ}

private theorem keepsReports_alike : KeepsReports (Alike view) :=
  fun _ _ h _ _ _ ↦ ⟨h.environment, h.world⟩

/-- A crew does the same on stages that it cannot tell apart. -/
theorem Crew.WorksWithin.simulates {crew : Crew σ} (h : crew.WorksWithin view) :
    Crew.Simulates (Alike view) crew crew where
  environment h := h.environment
  logged := keepsReports_alike
  bound alike name v := ⟨congrArg (·.set name v) alike.environment, alike.world⟩
  time alike := h.time _ _ alike.world
  ticked alike := ⟨alike.environment, h.ticked _ _ alike.world⟩
  perform := h.perform
  conditions := List.forall₂_same.mpr fun p hp ↦ ⟨rfl, h.conditions p hp⟩

private theorem agree_recordResult_none {sink : ResultSink σ} (refused : sink.OnlyDiskFaults)
    (h : ∀ r, (sink r).Spares view) (c : Case) (r : CaseResult) :
    RoutinesAgree (Alike view) (recordResult (some sink) c r) (recordResult none c r) := by
  intro s t alike
  have spared := h r t s alike
  cases hr : sink r s with
  | ok _ s' =>
    rw [hr] at spared
    rw [recordResult_of_ok hr]
    exact ⟨rfl, spared⟩
  | error e s' =>
    rw [hr] at spared
    rw [recordResult_of_refused hr (refused r s e s' hr)]
    exact ⟨rfl, spared.environment, spared.world⟩

-- A teardown that spares the crew's part of the world could as well not be there.
private theorem agree_tearDown_none {teardown : Play σ Unit} (h : teardown.Spares view)
    (c : Case) : RoutinesAgree (Alike view) (tearDown (some teardown) c) (tearDown none c) := by
  intro s t alike
  have spared := h t s alike
  cases hr : teardown s with
  | ok _ s' =>
    rw [hr] at spared
    rw [tearDown_of_ok hr]
    exact ⟨rfl, spared⟩
  | error e s' =>
    rw [hr] at spared
    rw [tearDown_of_error hr]
    exact ⟨rfl, spared.environment, spared.world⟩

end

/-! ### The journal of a run -/

/-- The same stage, with events noted before. -/
def Continues (before : List Event) (s t : Stage (Watched σ)) : Prop :=
  s.plain = t.plain ∧ t.journal = before ++ s.journal

namespace Crew

variable (crew : Crew σ) (before : List Event)

private theorem agree_watched_continued (note : Stage σ → Option Failure → List Event)
    (p : Play σ α) : Agree (Continues before) (p.watched note) (p.watched note) := by
  rintro s t ⟨plain, journal⟩
  cases h : p s.plain with
  | ok a u =>
    refine .inl ⟨a, _, _, Play.watched_of_ok note h, Play.watched_of_ok note (plain ▸ h), rfl, ?_⟩
    simp [plain, journal]
  | error e u =>
    refine .inr ⟨e, _, _, Play.watched_of_error note h, Play.watched_of_error note (plain ▸ h),
      rfl, ?_⟩
    simp [plain, journal]

private theorem simulates_continued :
    Simulates (Continues before) crew.watched crew.watched where
  environment h := congrArg (Stage.environment (σ := σ)) h.1
  logged _ _ h level source text := ⟨congrArg (Stage.logged level source text) h.1, h.2⟩
  bound h name v := ⟨congrArg (Stage.bound name v) h.1, h.2⟩
  time h := congrArg (Stage.time crew.clock) h.1
  ticked h := ⟨congrArg (Stage.ticked crew.clock) h.1, h.2⟩
  perform action parameters := agree_watched_continued before _ _
  conditions := by
    refine List.forall₂_same.mpr fun p hp ↦ ⟨rfl, fun argument ↦ ?_⟩
    obtain ⟨q, -, rfl⟩ := List.mem_map.mp hp
    exact agree_watched_continued before (fun _ _ ↦ []) (q.2 argument)

private theorem agree_note_continued {x : Walking (Watched σ) α}
    (h : Agree (Walk.Related (Continues before)) x x) (e : Event) :
    Agree (Walk.Related (Continues before)) (do Walking.note e; x) (do Walking.note e; x) := by
  have note : Agree (Walk.Related (Continues before)) (Walking.note (σ := σ) e)
      (Walking.note (σ := σ) e) := by
    intro w v hw
    have journal : v.journal ++ [e] = before ++ (w.journal ++ [e]) := by
      rw [← List.append_assoc]
      exact congrArg (· ++ [e]) hw.stage.2
    exact .inl ⟨(), w.noted e, v.noted e, rfl, rfl, ⟨hw.stage.1, journal⟩, hw.steps, hw.status⟩
  exact .bind note fun _ ↦ h

private theorem agree_watchCase_continued (c : Case) :
    RoutinesAgree (Continues before) (crew.watchCase c) (crew.watchCase c) := by
  have sim := crew.simulates_continued before
  have moves : Moves.Related (fun x y ↦ Agree (Walk.Related (Continues before)) x y)
      crew.watchedMoves crew.watchedMoves :=
    { act := sim.agree_performAction
      test := fun condition ↦
        agree_note_continued before (sim.agree_conditionHolds condition) (.tested condition)
      readHeader := fun header ↦
        agree_note_continued before (sim.agree_loopHeader header) (.headerRead header)
      bindItem := fun name item ↦
        agree_note_continued before (sim.agree_bindItem name item) (.bound name item)
      stray := Simulates.agree_stray _ }
  exact sim.agree_runWalk (Moves.related_walkSteps (Agree.sequential _) moves none c.steps) c.name

/-- Only events of its walk are noted in a case. -/
theorem ofWalk_watchCase (c : Case) (s : Stage σ) :
    ∀ e ∈ (crew.watchCase c (s.watched [])).2.journal, e.OfWalk := by
  have keep : crew.watchedMoves.Keep (fun w ↦ ∀ e ∈ w.journal, e.OfWalk)
      (fun _ w ↦ ∀ e ∈ w.journal, e.OfWalk) := by
    have noted : ∀ (e : Event) (w : Walk (Watched σ)), e.OfWalk → (∀ e ∈ w.journal, e.OfWalk) →
        ∀ e' ∈ w.journal ++ [e], e'.OfWalk := by
      intro e w he hw e' he'
      rcases List.mem_append.mp he' with h | h
      · exact hw e' h
      · exact List.mem_singleton.mp h ▸ he
    refine crew.keep_watchedMoves (fun text parameters w hw ↦ ?_)
      (fun e w he _ hw ↦ noted e w he hw) (fun same hw ↦ same.journal ▸ hw) fun _ _ hw ↦ hw
    cases h : crew.handOver text parameters w.plain with
    | ok _ s =>
      rw [crew.watched_performAction_of_ok h]
      exact noted _ w trivial hw
    | error e s =>
      rw [crew.watched_performAction_of_error h]
      exact noted _ w trivial hw
  have ended := Walking.leaves_ending (Moves.keeps_walkSteps keep none c.steps) id
    (w := .opened crew.watched.clock c.name (s.watched [])) fun _ h ↦ absurd h List.not_mem_nil
  rw [watchCase, runWalk_eq]
  dsimp only
  generalize (crew.watchedMoves.walkSteps none c.steps).ending _ = ending at ended ⊢
  obtain ⟨none | e, w⟩ := ending
  · exact ended
  · exact ended

private theorem journal_recordResult (sink : ResultSink σ) (c : Case) (r : CaseResult)
    (s : Stage (Watched σ)) :
    (recordResult (some sink.watched) c r s).2.journal = s.journal ++ [.recorded r] := by
  cases h : sink r s.plain with
  | ok _ t => rw [recordResult_of_ok (Play.watched_of_ok _ h)]; rfl
  | error e t =>
    by_cases refused : e.isDiskFault = true
    · rw [recordResult_of_refused (Play.watched_of_error _ h) refused]; rfl
    · rw [recordResult_of_failed (Play.watched_of_error _ h) refused]; rfl

private theorem journal_tearDown (teardown : Play σ Unit) (c : Case) (s : Stage (Watched σ)) :
    (tearDown (some (watchedTeardown teardown)) c s).2.journal = s.journal ++ [.tornDown] := by
  unfold watchedTeardown
  cases h : teardown s.plain with
  | ok _ t => rw [tearDown_of_ok (Play.watched_of_ok _ h)]; rfl
  | error e t => rw [tearDown_of_error (Play.watched_of_error _ h)]; rfl

/-- The journal of a run that goes through tells of its cases one after another. -/
theorem unfolds_watchInTurn (sink : ResultSink σ) (teardown : Play σ Unit) (cases : List Case)
    (kept : List CaseResult) (s : Stage (Watched σ)) {results kept' : List CaseResult}
    {t : Stage (Watched σ)}
    (went : crew.watchInTurn sink teardown cases kept s = ((.ok results, kept'), t)) :
    ∃ events, t.journal = s.journal ++ events ∧ crew.Unfolds cases results events := by
  induction cases generalizing kept s results with
  | nil =>
    cases went
    exact ⟨[], (List.append_nil _).symm, .done⟩
  | cons c cases ih =>
    have alone := crew.agree_runCase_watched c s.plain (s.plain.watched []) rfl
    have ran := crew.agree_watchCase_continued s.journal c (s.plain.watched []) s
      ⟨rfl, (List.append_nil _).symm⟩
    have result : (crew.runCase c s.plain).1 = (crew.watchCase c s).1 := alone.1.trans ran.1
    obtain ⟨u, more, recorded, later, rfl⟩ := exists_of_runInTurn_cons_ok went
    have noted := journal_recordResult sink c (crew.watchCase c s).1 (crew.watchCase c s).2
    rw [recorded] at noted
    obtain ⟨events, journal, unfolds⟩ := ih _ _ later
    have told := crew.failFast_watchCase c s.plain
    rw [← alone.1] at told
    have next := Unfolds.next (crew.ofWalk_watchCase c s.plain) told unfolds
    rw [result] at next
    refine ⟨_, journal.trans ?_, next⟩
    rw [journal_tearDown, noted, ran.2.2]
    simp only [List.append_assoc, List.cons_append, List.nil_append]

/-- What a run comes to does not depend on what becomes of its reports. However often the disk
refuses the recorder and the teardown fails, the run goes through, and the results are those of the
run without them, one a case and in order; all are kept; and each is recorded once its case has
ended, and the case torn down after that, before anything happens in the next one. -/
theorem runInTurn_isolated (view : σ → τ) (within : crew.WorksWithin view) (sink : ResultSink σ)
    (refused : sink.OnlyDiskFaults) (recording : ∀ r, (sink r).Spares view) (teardown : Play σ Unit)
    (tearing : teardown.Spares view) (cases : List Case) (s : Stage σ) :
    let alone := (crew.runCases none none cases s).1
    let run := runInTurn crew.runCase (some sink) (some teardown) cases [] s
    let watched := crew.watchInTurn sink teardown cases [] (s.watched [])
    crew.runAll (some sink) (some teardown) cases s = .ok alone run.2 ∧
      (crew.runCases (some sink) (some teardown) cases s).1 = alone ∧
      run.1 = (.ok alone, alone) ∧ run = (watched.1, watched.2.plain) ∧
      crew.Unfolds cases alone watched.2.journal := by
  intro alone run watched
  obtain ⟨results, went⟩ := exists_runInTurn_ok refused.exists_recordResult crew.runCase
    (some teardown) cases [] s
  have went : run.1 = (.ok results, results) := went
  have same : run.1 = (runInTurn crew.runCase none none cases [] s).1 :=
    (agree_runInTurn within.simulates.agree_runCase (agree_recordResult_none refused recording)
      (agree_tearDown_none tearing) cases [] s s ⟨rfl, rfl⟩).1
  obtain rfl : results = alone := congrArg Prod.snd (went.symm.trans same)
  have plain := crew.agree_runInTurn_watched sink teardown cases [] s (s.watched []) rfl
  have told : watched = ((.ok alone, alone), watched.2) := Prod.ext (plain.1.symm.trans went) rfl
  obtain ⟨events, journal, unfolds⟩ :=
    crew.unfolds_watchInTurn sink teardown cases [] (s.watched []) told
  have kept : run.1.2 = alone := by rw [went]
  refine ⟨runAll_eq_ok_iff.mpr ⟨_, Prod.ext went rfl⟩, kept, went, Prod.ext plain.1 plain.2, ?_⟩
  rw [journal]
  exact unfolds

end Crew

/-! ### A run whose reports all fail -/

/-- A world that counts the turns of the performer and the reports that failed. -/
structure Tally where
  turns : Nat := 0
  reports : Nat := 0

/-- A crew that counts its turns and stumbles over some actions. -/
def stumblingCrew : Crew Tally :=
  { perform := fun action _ s =>
      let counted := { s with world := { s.world with turns := s.world.turns + 1 } }
      if action = "Stumble" then .error (.fault ⟨.browser, "Fell over"⟩) counted
      else .ok () counted
    clock := fun w => (default, w)
    conditions := {} }

/-- A report that fails but counts as tried. -/
def failingReport (kind : FaultKind) : Play Tally Unit := do
  modify fun s => { s with world := { s.world with reports := s.world.reports + 1 } }
  throw (.fault ⟨kind, "Out of order"⟩)

private theorem stumblingCrew_worksWithin : stumblingCrew.WorksWithin Tally.turns where
  perform action parameters := by
    rintro s t ⟨environment, world⟩
    have counted := congrArg (· + 1) world
    by_cases h : action = "Stumble"
    · exact .inr ⟨_, _, _, if_pos h, if_pos h, environment, counted⟩
    · exact .inl ⟨(), _, _, if_neg h, if_neg h, environment, counted⟩
  conditions p hp := absurd hp List.not_mem_nil
  time _ _ _ := rfl
  ticked _ _ h := h

private theorem failingReport_onlyDiskFaults (kind : DiskFaultKind) :
    ResultSink.OnlyDiskFaults fun _ ↦ failingReport (.disk kind) := by
  rintro _ s _ _ ⟨⟩
  rfl

private theorem failingReport_spares (kind : FaultKind) :
    (failingReport kind).Spares Tally.turns :=
  fun _ _ h ↦ ⟨h.environment, h.world⟩

/-- Two cases, one of which stumbles, come to the same results when every record is refused and
every teardown fails. -/
theorem isolated_of_failing_reports :
    let cases : List Case :=
      [⟨"First", [.action "Walk" [], .action "Stumble" []]⟩, ⟨"Second", [.action "Walk" []]⟩]
    let refused : ResultSink Tally := fun _ => failingReport (.disk .general)
    let failed := failingReport .runtime
    let alone := (stumblingCrew.runCases none none cases ⟨.empty, [], {}⟩).1
    stumblingCrew.WorksWithin Tally.turns ∧ refused.OnlyDiskFaults ∧
      (∀ r, (refused r).Spares Tally.turns) ∧ failed.Spares Tally.turns ∧
      alone.map (fun r => (r.name, r.status)) =
        [("First", Status.failed), ("Second", Status.passed)] ∧
      (runInTurn stumblingCrew.runCase (some refused) (some failed) cases []
        ⟨.empty, [], {}⟩).1 = (.ok alone, alone) := by
  intro cases refused failed alone
  have isolated := stumblingCrew.runInTurn_isolated Tally.turns stumblingCrew_worksWithin refused
    (failingReport_onlyDiskFaults _) (fun _ ↦ failingReport_spares _) failed
    (failingReport_spares _) cases ⟨.empty, [], {}⟩
  exact ⟨stumblingCrew_worksWithin, failingReport_onlyDiskFaults _, fun _ ↦ failingReport_spares _,
    failingReport_spares _, by decide +kernel, isolated.2.2.1⟩

end Playbook
