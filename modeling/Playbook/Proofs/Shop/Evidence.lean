import Playbook.Proofs.Browser.Time
import Playbook.Proofs.Browser.Videos
import Playbook.Proofs.Shop.OneBrowser

/-!
# Evidence of failures

A failed step names its screenshot and its video by a moment while it was performed (`Rig.Dates`),
and a session saves one video at most. So if the clock never goes back, evidence of different cases
is kept apart, but for what happens within a second (`runCases_evidenceApart`). Names tell the
second and no more: of two cases that fail within a second, the evidence of one takes the place of
the other's (`evidence_overwritten`).
-/

namespace Playbook

open Browser Script

variable {β : Type}

/-- Two steps name the same screenshot or the same video. -/
def StepResult.SharesArtifact (x y : StepResult) : Prop :=
  (∃ text, x.screenshot = some text ∧ y.screenshot = some text) ∨
    ∃ text, x.video = some text ∧ y.video = some text

/-- The video is that of a failed step. -/
def CaseResult.ShowsFailure (r : CaseResult) (path : Path) : Prop :=
  ∃ x ∈ r.steps, x.status = Status.failed ∧ x.video = some path.text

/-- From `start` on, whatever goes wrong with calls, no artifacts are named. -/
def Outside.NamesNoArtifacts (o : Outside β) (start : β) : Prop :=
  ∀ b, o.Leads start b → ∀ c m, (o.answer c b).1 = .error m →
    m.failure.screenshot? = none ∧ m.failure.video? = none

namespace Rig

variable {rig : Rig β}

/-! ### Artifacts of a step -/

/-- Screenshot and video, as far as there are any, are named by a moment. -/
structure NamedBy (rig : Rig β) (m : Moment) (screenshot video : Option String) : Prop where
  screenshot : ∀ text ∈ screenshot, text = (rig.screenshotPath m).text
  video : ∀ text ∈ video, text = (rig.failureVideoPath m).text

/-- Where there are no artifacts, a moment names all of them. -/
theorem NamedBy.none (rig : Rig β) (m : Moment) : rig.NamedBy m none none :=
  ⟨nofun, nofun⟩

/-- The artifacts of a step are named by a moment while it was performed. -/
def Dates (rig : Rig β) (x : StepResult) : Prop :=
  ∃ m : Moment, x.startedAt.toMicros ≤ m.toMicros ∧ m.toMicros ≤ x.finishedAt.toMicros ∧
    rig.NamedBy m x.screenshot x.video

/-- Steps that name the same artifact follow each other within a second. -/
theorem sameSecond_of_sharesArtifact {x y : StepResult} (hx : rig.Dates x) (hy : rig.Dates y)
    (before : x.finishedAt.toMicros ≤ y.startedAt.toMicros) (shares : x.SharesArtifact y) :
    x.finishedAt.SameSecond y.startedAt := by
  obtain ⟨m, -, hm, ofX⟩ := hx
  obtain ⟨n, hn, -, ofY⟩ := hy
  have same : m.SameSecond n := by
    obtain ⟨text, ht, ht'⟩ | ⟨text, ht, ht'⟩ := shares
    · exact sameSecond_of_screenshotPath <|
        (ofX.screenshot text ht).symm.trans (ofY.screenshot text ht')
    · exact sameSecond_of_failureVideoPath <|
        (ofX.video text ht).symm.trans (ofY.video text ht')
  exact same.between hm before hn

/-! ### Performing -/

section

variable {start : β} {t : Nat} {before : List Exchange} {s s' : Stage (Bench β)}

/-- A session in use: no video was saved, and none is reserved. -/
structure Ready (rig : Rig β) (start : β) (t : Nat) (before : List Exchange)
    (s : Stage (Bench β)) : Prop where
  since : rig.Since start t s
  unsaved : Unsaved before s
  unreserved : s.world.opened.reservedVideo = none

/-- An action failed: what its failure names is named by a moment, and if a video is reserved, the
failure names it. -/
structure FailedAt (rig : Rig β) (start : β) (before : List Exchange) (m : Moment) (e : Failure)
    (s : Stage (Bench β)) : Prop where
  since : rig.Since start m.toMicros s
  unsaved : Unsaved before s
  named : rig.NamedBy m e.screenshot? e.video?
  reserved : ∀ path ∈ s.world.opened.reservedVideo, e.video? = some path.text

/-- An action failed at `t` or later. -/
def FailedSince (rig : Rig β) (start : β) (before : List Exchange) (t : Nat) (e : Failure)
    (s : Stage (Bench β)) : Prop :=
  ∃ m : Moment, t ≤ m.toMicros ∧ rig.FailedAt start before m e s

private theorem Ready.failedSince {m : Moment} (h : rig.Ready start m.toMicros before s)
    {e : Failure} (he : e.screenshot? = none ∧ e.video? = none) :
    rig.FailedSince start before m.toMicros e s := by
  refine ⟨m, Nat.le_refl _, h.since, h.unsaved, ?_, ?_⟩
  · rw [he.1, he.2]
    exact .none rig m
  · rw [h.unreserved]
    exact nofun

private theorem sparesUse_ready (rig : Rig β) (start : β) (t : Nat) (before : List Exchange) :
    rig.SparesUse (rig.Ready start t before) where
  called c hc := call_keeps fun h _ ↦
    ⟨h.since.of_leads (.single (.answered c _)), h.unsaved.call hc rfl, h.unreserved⟩
  ticked h := ⟨h.since.of_leads (.single (.read _)), h.unsaved.of_eq rfl, h.unreserved⟩
  logged h _ _ _ := ⟨h.since.of_leads .refl, h.unsaved.of_eq rfl, h.unreserved⟩
  opened h _ same := ⟨h.since.of_leads .refl, h.unsaved.of_eq rfl, same.trans h.unreserved⟩
  directories _ := onDisk_keeps
    (fun h _ ↦ ⟨h.since.of_leads .refl, h.unsaved.of_eq rfl, h.unreserved⟩) _

private theorem keeps_directories (rig : Rig β) (start : β) (m : Moment) (before : List Exchange)
    (p : Path) :
    Keeps (rig.Ready start m.toMicros before) (rig.FailedSince start before m.toMicros)
      (onDisk (Disk.ensureDirectories p)) := by
  refine ((sparesUse_ready rig start m.toMicros before).directories p).failing ?_
  intro s e t failed h
  obtain ⟨f, rfl⟩ := exists_fault_of_onDisk failed
  exact h.failedSince ⟨rfl, rfl⟩

private theorem keeps_call_evidence (plain : rig.outside.NamesNoArtifacts start) (m : Moment)
    (before : List Exchange) (c : Call) (hc : c.endsSession = false) :
    Keeps (rig.Ready start m.toMicros before) (rig.FailedSince start before m.toMicros)
      (rig.call c) := by
  intro s ready
  have called := (sparesUse_ready rig start m.toMicros before).called c hc
  cases answer : rig.call c s with
  | ok _ t => exact called.of_ok ready answer
  | error e t =>
    obtain ⟨mishap, answered, rfl⟩ := exists_mishap_of_call answer
    exact (called.of_error ready answer).failedSince (plain _ ready.since.led _ _ answered)

private theorem ensures_reserveFailureVideo (rig : Rig β) (start : β) (t : Nat)
    (before : List Exchange) (m : Moment) (broken : Failure → Stage (Bench β) → Prop) :
    Ensures (rig.Ready start t before) (rig.reserveFailureVideo (some m.stamp))
      (fun taken s ↦ rig.Since start t s ∧ Unsaved before s ∧
        (∀ path ∈ s.world.opened.reservedVideo, taken = some path.text) ∧
          ∀ text ∈ taken, text = (rig.failureVideoPath m).text) broken := by
  have unreserved : ∀ s, rig.Ready start t before s → rig.Since start t s ∧ Unsaved before s ∧
      (∀ path ∈ s.world.opened.reservedVideo, (none : Option String) = some path.text) ∧
        ∀ text ∈ (none : Option String), text = (rig.failureVideoPath m).text := by
    refine fun s h ↦ ⟨h.since, h.unsaved, ?_, nofun⟩
    rw [h.unreserved]
    exact nofun
  have looked : Ensures (rig.Ready start t before) opened
      (fun o s ↦ rig.Ready start t before s ∧ o.reservedVideo = none) broken :=
    fun s h ↦ ⟨h, h.unreserved⟩
  have reserved : Ensures (rig.Ready start t before)
      (modifyOpened fun o ↦ { o with reservedVideo := some (rig.failureVideoPath m) })
      (fun _ s ↦ rig.Since start t s ∧ Unsaved before s ∧
        s.world.opened.reservedVideo = some (rig.failureVideoPath m)) broken :=
    fun s h ↦ ⟨h.since.of_leads .refl, h.unsaved.of_eq rfl, rfl⟩
  unfold reserveFailureVideo
  refine looked.bind fun o ↦ .of_and fun none ↦ ?_
  dsimp only
  rw [none, stampOr_stamp, pure_bind]
  split
  · exact .pure _ unreserved
  · refine reserved.bind fun _ ↦ .pure _ ?_
    rintro s ⟨since, unsaved, taken⟩
    refine ⟨since, unsaved, fun path h ↦ ?_, fun _ h ↦ (Option.mem_some_iff.mp h).symm⟩
    rw [taken, Option.mem_some_iff] at h
    exact congrArg (fun reserved ↦ some reserved.text) h

private theorem ensures_failAction (forward : rig.outside.NeverGoesBack start) (t : Nat)
    (before : List Exchange) (action : String) (cause : ActionCause) :
    Keeps (rig.Ready start t before) (rig.FailedSince start before t)
      (Shop.failAction rig action cause) := by
  have reported (level : Level) (source : Source) (text : String) :
      Keeps (rig.Ready start t before) (rig.FailedSince start before t)
        (Play.report level source text) :=
    fun _ h ↦ (sparesUse_ready rig start t before).logged h _ _ _
  have read : Ensures (rig.Ready start t before) rig.now
      (fun m s ↦ rig.Ready start m.toMicros before s ∧ t ≤ m.toMicros)
      (rig.FailedSince start before t) :=
    fun s h ↦ ⟨⟨h.since.read forward, h.unsaved.of_eq rfl, h.unreserved⟩, h.since.le_time⟩
  refine .bind (reported _ _ _) fun _ ↦ read.bind fun m ↦ .of_and fun later ↦ ?_
  have captured := (sparesUse_ready rig start m.toMicros before).captureScreenshot_named
    (keeps_directories rig start m before) m
  refine .weaken (.bind captured fun screenshot ↦ .of_and fun named ↦ ?_ :
      Ensures _ _ _ (rig.FailedSince start before m.toMicros))
    (fun _ h ↦ h) (fun _ _ h ↦ h) ?_
  · refine .bind (ensures_reserveFailureVideo rig start m.toMicros before m _) fun video ↦ ?_
    rintro s ⟨since, unsaved, reserved, namedVideo⟩
    exact ⟨m, Nat.le_refl _, since, unsaved, ⟨named, namedVideo⟩, reserved⟩
  · rintro e s ⟨n, hn, failed⟩
    exact ⟨n, Nat.le_trans later hn, failed⟩

/-- Performing an action keeps a session in use, and fails with artifacts that are named by a moment
since it began. -/
theorem keeps_perform_evidence (plain : rig.outside.NamesNoArtifacts start)
    (forward : rig.outside.NeverGoesBack start) (m : Moment) (before : List Exchange)
    (action : String) (parameters : List String) :
    Keeps (rig.Ready start m.toMicros before) (rig.FailedSince start before m.toMicros)
      (Shop.perform rig action parameters) := by
  have spared := sparesUse_ready rig start m.toMicros before
  have bound : ∀ {s}, rig.Ready start m.toMicros before s → ∀ name v,
      rig.Ready start m.toMicros before (s.bound name v) :=
    fun h _ _ ↦ ⟨h.since.of_leads .refl, h.unsaved.of_eq rfl, h.unreserved⟩
  have started := start_keeps (keeps_call_evidence plain m before) spared.logged spared.opened
    (keeps_directories rig start m before)
  have performed (page : Page) := spared.performText page action parameters
    fun name _ _ h v ↦ bound h name v
  refine .bind started fun page ↦ .bind (.attempt (performed page)) fun outcome ↦ ?_
  cases outcome with
  | error e => exact ensures_failAction forward m.toMicros before action (Shop.causeOf e)
  | ok _ =>
    refine .bind spared.pageTitle fun title ↦ ?_
    cases title with
    | none => exact .pure ()
    | some title => exact fun _ h ↦ bound h _ _

/-! ### A case -/

/-- A walk that began at `t` or later: its steps are performed one after another, each dates its
artifacts, and if a video is reserved, a failed step names it. -/
structure OnTime (rig : Rig β) (start : β) (t : Nat) (before : List Exchange)
    (w : Walk (Bench β)) : Prop where
  since : rig.Since start t w.stage
  unsaved : Unsaved before w.stage
  steps : ∀ x ∈ w.steps, rig.Dates x ∧ t ≤ x.startedAt.toMicros ∧
    rig.Since start x.finishedAt.toMicros w.stage
  reserved : ∀ path ∈ w.stage.world.opened.reservedVideo,
    ∃ x ∈ w.steps, x.status = Status.failed ∧ x.video = some path.text

/-- A walk that nothing failed in. -/
def Going (rig : Rig β) (start : β) (t : Nat) (before : List Exchange) (w : Walk (Bench β)) :
    Prop :=
  rig.OnTime start t before w ∧ w.stage.world.opened.reservedVideo = none

private theorem OnTime.idles {w : Walk (Bench β)} (h : rig.OnTime start t before w)
    (idles : rig.Idles w.stage s) : rig.OnTime start t before { w with stage := s } where
  since := h.since.of_leads idles.time
  unsaved := h.unsaved.of_eq idles.exchanges
  steps x hx := by
    obtain ⟨dates, started, since⟩ := h.steps x hx
    exact ⟨dates, started, since.of_leads idles.time⟩
  reserved := by
    rw [idles.opened]
    exact h.reserved

private theorem Going.idles {w : Walk (Bench β)} (h : rig.Going start t before w)
    (idles : rig.Idles w.stage s) : rig.Going start t before { w with stage := s } :=
  ⟨h.1.idles idles, (congrArg Opened.reservedVideo idles.opened).trans h.2⟩

private theorem OnTime.afterStep {conditions : Registry (Bench β)} {text : Option String}
    {parameters : List (Option String)} {w : Walk (Bench β)} {m : Moment}
    {failure : Option Failure} (forward : rig.outside.NeverGoesBack start)
    (h : rig.OnTime start t before w)
    (later : (w.stage.time rig.clock).toMicros ≤ m.toMicros)
    (since : rig.Since start m.toMicros s) (unsaved : Unsaved before s)
    (named : rig.NamedBy m (failure.bind Failure.screenshot?) (failure.bind Failure.video?))
    (reserved : ∀ path ∈ s.world.opened.reservedVideo,
      failure.isSome ∧ failure.bind Failure.video? = some path.text) :
    rig.OnTime start t before
      ((Shop.crew rig conditions).afterStep text parameters w s failure) := by
  have ended : rig.Since start (s.time rig.clock).toMicros (s.ticked rig.clock) :=
    since.read forward
  have past {t : Nat} (old : rig.Since start t w.stage) : t ≤ (s.time rig.clock).toMicros :=
    Nat.le_trans old.le_time (Nat.le_trans later since.le_time)
  constructor
  · exact (ended.mono (past h.since)).of_leads .refl
  · exact unsaved.of_eq rfl
  · intro x hx
    obtain old | new := List.mem_append.mp hx
    · obtain ⟨dates, started, done⟩ := h.steps x old
      exact ⟨dates, started, (ended.mono (past done)).of_leads .refl⟩
    · rw [List.mem_singleton.mp new]
      exact ⟨⟨m, later, since.le_time, named⟩, h.since.le_time, ended.of_leads .refl⟩
  · intro path taken
    obtain ⟨failed, video⟩ := reserved path taken
    refine ⟨_, List.mem_append_right _ List.mem_cons_self, ?_, video⟩
    simp only [Crew.stepResult, failed, if_true]

variable {conditions : Registry (Bench β)}

private theorem keeps_performAction_evidence (plain : rig.outside.NamesNoArtifacts start)
    (forward : rig.outside.NeverGoesBack start) (text : Option String)
    (parameters : List (Option String)) :
    Keeps (rig.Going start t before) (fun _ ↦ rig.OnTime start t before)
      ((Shop.crew rig conditions).performAction text parameters) := by
  rintro w ⟨h, free⟩
  let m := w.stage.time rig.clock
  have ready : rig.Ready start m.toMicros before (w.stage.ticked rig.clock) :=
    ⟨h.since.read forward, h.unsaved.of_eq rfl, free⟩
  have performed := keeps_perform_evidence plain forward m before
    (w.stage.environment.actionOf text) (w.stage.environment.parametersOf parameters)
  cases hr : (Shop.crew rig conditions).handOver text parameters w with
  | ok _ s =>
    rw [Crew.performAction_of_ok hr]
    have after := performed.of_ok ready hr
    refine ⟨h.afterStep forward (Nat.le_refl _) after.since after.unsaved (.none rig m) ?_,
      after.unreserved⟩
    rw [after.unreserved]
    exact nofun
  | error e s =>
    rw [Crew.performAction_of_error hr]
    obtain ⟨n, later, failed⟩ := performed.of_error ready hr
    exact h.afterStep forward later failed.since failed.unsaved failed.named
      fun path taken ↦ ⟨rfl, failed.reserved path taken⟩

private theorem keeps_conditionHolds_evidence {crew : Crew (Bench β)}
    (tested : ∀ p ∈ crew.conditions.entries, ∀ argument, rig.LeavesSession (p.2 argument))
    (condition : String) :
    Keeps (rig.Going start t before) (fun _ ↦ rig.OnTime start t before)
      (crew.conditionHolds condition) := by
  intro w h
  have evaluated := Registry.keeps_evaluate (fun p hp argument ↦ tested p hp argument w.stage)
    (fun s h _ _ _ ↦ ⟨h.time, h.exchanges, h.opened⟩) (w.stage.environment.substitute condition)
  rw [Crew.conditionHolds_eq]
  cases he : crew.conditions.evaluate (w.stage.environment.substitute condition) w.stage with
  | ok a s =>
    rw [Walking.ofPlay_of_ok he]
    exact h.idles (evaluated.of_ok (.refl _) he)
  | error e s =>
    rw [Walking.ofPlay_of_error he]
    exact (h.idles (evaluated.of_error (.refl _) he)).1

private theorem keep_moves_evidence
    (tested : ∀ p ∈ conditions.entries, ∀ argument, rig.LeavesSession (p.2 argument))
    (plain : rig.outside.NamesNoArtifacts start) (forward : rig.outside.NeverGoesBack start) :
    ((Shop.crew rig conditions).moves Crew.stray).Keep (rig.Going start t before)
      fun _ ↦ rig.OnTime start t before where
  act := keeps_performAction_evidence plain forward
  test := keeps_conditionHolds_evidence tested
  readHeader := loopHeader_keeps fun h ↦ h.1
  bindItem _ _ _ h := h.idles ⟨.refl, rfl, rfl⟩
  stray := stray_keeps fun h ↦ h.1

/-- The steps of a case date their artifacts and lie within the case, which began at `t` or
later. -/
structure Timely (rig : Rig β) (t : Nat) (r : CaseResult) : Prop where
  started : t ≤ r.startedAt.toMicros
  finished : r.startedAt.toMicros ≤ r.finishedAt.toMicros
  steps : ∀ x ∈ r.steps, rig.Dates x ∧ r.startedAt.toMicros ≤ x.startedAt.toMicros ∧
    x.finishedAt.toMicros ≤ r.finishedAt.toMicros

/-- Steps of a case and of a later one that name the same artifact follow each other within a
second. -/
theorem Timely.sameSecond {r r' : CaseResult} (h : rig.Timely t r)
    (h' : rig.Timely r.finishedAt.toMicros r') :
    ∀ x ∈ r.steps, ∀ y ∈ r'.steps, x.SharesArtifact y →
      x.finishedAt.SameSecond y.startedAt := by
  intro x hx y hy shares
  obtain ⟨dates, -, done⟩ := h.steps x hx
  obtain ⟨dates', began, -⟩ := h'.steps y hy
  have before := Nat.le_trans done (Nat.le_trans h'.started began)
  exact sameSecond_of_sharesArtifact dates dates' before shares

private theorem onTime_ending
    (tested : ∀ p ∈ conditions.entries, ∀ argument, rig.LeavesSession (p.2 argument))
    (plain : rig.outside.NamesNoArtifacts start) (forward : rig.outside.NeverGoesBack start)
    (c : Case) (since : rig.Since start t s) (free : s.world.opened.reservedVideo = none) :
    rig.OnTime start (s.time rig.clock).toMicros s.world.exchanges
      (((Shop.crew rig conditions).runSteps none c.steps).ending
        (.opened rig.clock c.name s)).2 := by
  let m := s.time rig.clock
  have opened : rig.Going start m.toMicros s.world.exchanges (.opened rig.clock c.name s) := by
    refine ⟨⟨(since.read forward).of_leads (.single (.read _)), (Unsaved.here s).of_eq rfl, nofun,
      ?_⟩, free⟩
    change ∀ path ∈ s.world.opened.reservedVideo, _
    rw [free]
    exact nofun
  have walked : Keeps (rig.Going start m.toMicros s.world.exchanges)
      (fun _ ↦ rig.OnTime start m.toMicros s.world.exchanges)
      ((Shop.crew rig conditions).runSteps none c.steps) := by
    rw [Crew.runSteps, Crew.walkSteps_eq_moves]
    exact Moves.keeps_walkSteps (keep_moves_evidence tested plain forward) none c.steps
  exact Walking.leaves_ending walked (fun h ↦ h.1) opened

/-- A case tells of its steps in time, saves no video, and if it leaves one reserved, that shows a
failure. -/
theorem timely_runCase
    (tested : ∀ p ∈ conditions.entries, ∀ argument, rig.LeavesSession (p.2 argument))
    (plain : rig.outside.NamesNoArtifacts start) (forward : rig.outside.NeverGoesBack start)
    (c : Case) (since : rig.Since start t s) (free : s.world.opened.reservedVideo = none) :
    let ran := (Shop.crew rig conditions).runCase c s
    rig.Timely t ran.1 ∧ rig.Since start ran.1.finishedAt.toMicros ran.2 ∧
      Unsaved s.world.exchanges ran.2 ∧
      ∀ path ∈ ran.2.world.opened.reservedVideo, ran.1.ShowsFailure path := by
  intro ran
  let m := s.time rig.clock
  have h := onTime_ending tested plain forward c since free
  have eq : ran = _ := runWalk_eq rig.clock c.name _ s
  dsimp only at eq
  generalize ((Shop.crew rig conditions).runSteps none c.steps).ending _ = ending at h eq
  obtain ⟨startedAt, finishedAt, steps, world⟩ : ran.1.startedAt = m ∧
      ran.1.finishedAt = ending.2.stage.time rig.clock ∧ ran.1.steps = ending.2.steps ∧
      ran.2.world = (ending.2.stage.ticked rig.clock).world :=
    eq ▸ closeCase_spec rig.clock c.name m ending.1 ending.2 ending.2.stage
  refine ⟨⟨?_, ?_, ?_⟩, ?_, h.unsaved.of_eq ?_, ?_⟩
  · rw [startedAt]
    exact since.le_time
  · rw [startedAt, finishedAt]
    exact h.since.le_time
  · rw [startedAt, finishedAt, steps]
    intro x hx
    obtain ⟨dates, began, done⟩ := h.steps x hx
    exact ⟨dates, began, done.le_time⟩
  · rw [finishedAt]
    refine (h.since.read forward).of_leads ?_
    rw [world]
  · rw [world]
    rfl
  · unfold CaseResult.ShowsFailure
    rw [world, steps]
    exact h.reserved

end

/-! ### Closing -/

section

variable {start : β} {t : Nat} {s : Stage (Bench β)}

/-- A video that was saved after a case: if all are saved, it is named by a moment between the end
of the case and what comes after, and otherwise it shows a failure of the case. -/
def SavedFor (rig : Rig β) (start : β) (left : Stage (Bench β)) (r : CaseResult) (path : Path) :
    Prop :=
  if rig.settings.videos.recording = .all then
    ∃ m : Moment, r.finishedAt.toMicros ≤ m.toMicros ∧ rig.Since start m.toMicros left ∧
      path = rig.videoPath m
  else r.ShowsFailure path

private theorem savedFor_of_close (forward : rig.outside.NeverGoesBack start) {r : CaseResult}
    (since : rig.Since start r.finishedAt.toMicros s)
    (reserved : ∀ path ∈ s.world.opened.reservedVideo, r.ShowsFailure path) :
    ∃ shut, (rig.close s).2.world.exchanges = s.world.exchanges ++ shut ∧
      (savedVideos shut).length ≤ 1 ∧
      ∀ path ∈ savedVideos shut, rig.SavedFor start (rig.close s).2 r path := by
  obtain ⟨shut, exchanges, one, saved⟩ := rig.saved_of_close s
  refine ⟨shut, exchanges, one, fun path hp ↦ ?_⟩
  have place := saved path hp
  unfold SavedFor
  split
  · next all =>
    rw [if_pos all] at place
    obtain ⟨named, target, closed⟩ := place
    refine ⟨s.time rig.clock, since.le_time, ?_, named⟩
    rw [closed]
    exact (rig.spares_since start _).closeOpened target (since.read forward)
  · next all =>
    rw [if_neg all] at place
    exact reserved path place

variable {conditions : Registry (Bench β)}

-- A case with its record and teardown: its steps are told in time, and one video is saved at most,
-- which is that of the case.
private theorem evidence_of_case
    (tested : ∀ p ∈ conditions.entries, ∀ argument, rig.LeavesSession (p.2 argument))
    {sink : Option (ResultSink (Bench β))}
    (recorded : ∀ record ∈ sink, ∀ result, rig.LeavesSession (record result))
    (plain : rig.outside.NamesNoArtifacts start) (forward : rig.outside.NeverGoesBack start)
    (c : Case) (since : rig.Since start t s) (closed : s.world.opened = {}) :
    let ran := (Shop.crew rig conditions).runCase c s
    let left := (tearDown (some rig.close.toPlay) c (recordResult sink c ran.1 ran.2).2).2
    rig.Timely t ran.1 ∧ rig.Since start ran.1.finishedAt.toMicros left ∧
      ∃ made, left.world.exchanges = s.world.exchanges ++ made ∧ (savedVideos made).length ≤ 1 ∧
        ∀ path ∈ savedVideos made, rig.SavedFor start left ran.1 path := by
  intro ran left
  have free : s.world.opened.reservedVideo = none := by rw [closed]
  obtain ⟨timely, ended, ⟨made, exchanges, none⟩, reserved⟩ :=
    timely_runCase tested plain forward c since free
  have idles : rig.Idles ran.2 (recordResult sink c ran.1 ran.2).2 :=
    recordResult_keeps (fun record hr result ↦ recorded record hr result ran.2)
      (fun h _ _ _ ↦ ⟨h.time, h.exchanges, h.opened⟩) c ran.1 (.refl ran.2)
  have since' := ended.of_leads idles.time
  obtain ⟨shut, exchanges', one, saved⟩ :=
    savedFor_of_close forward since' (idles.opened ▸ reserved)
  have videos : savedVideos (made ++ shut) = savedVideos shut := by
    rw [savedVideos, List.filterMap_append, ← savedVideos, none]
    rfl
  refine ⟨timely, (rig.spares_since start _).close.of_ok since' rfl, made ++ shut, ?_, ?_⟩
  · rw [← List.append_assoc, ← exchanges, ← idles.exchanges]
    exact exchanges'
  · rw [videos]
    exact ⟨one, saved⟩

private theorem since_runInTurn
    (tested : ∀ p ∈ conditions.entries, ∀ argument, rig.LeavesSession (p.2 argument))
    {sink : Option (ResultSink (Bench β))}
    (recorded : ∀ record ∈ sink, ∀ result, rig.LeavesSession (record result)) (cases : List Case)
    (kept : List CaseResult) (since : rig.Since start t s) :
    rig.Since start t (runInTurn (Shop.crew rig conditions).runCase sink
      (some rig.close.toPlay) cases kept s).2 := by
  have spared := rig.spares_since start t
  have maintained := spared.maintains (fun h _ _ ↦ h.of_leads .refl)
    fun p hp argument ↦ (tested p hp argument).keeps_since
  refine runInTurn_keeps (fun c _ h ↦ maintained.runCase c h) (fun c result _ h ↦ ?_)
    (fun c _ h ↦ ?_) cases kept since
  · exact recordResult_keeps (fun record hr result ↦ (recorded record hr result).keeps_since)
      spared.logged c result h
  · refine tearDown_keeps (fun play hp ↦ ?_) spared.logged c h
    rw [← Option.some.inj hp]
    exact spared.close

/-- The stage after the first cases of a run. -/
private abbrev stageAfter (rig : Rig β) (conditions : Registry (Bench β))
    (sink : Option (ResultSink (Bench β))) (cases : List Case) (s : Stage (Bench β)) (k : Nat) :
    Stage (Bench β) :=
  (runInTurn (Shop.crew rig conditions).runCase sink (some rig.close.toPlay) (cases.take k) [] s).2

/-- The videos that are saved for a case. -/
private abbrev savedIn (rig : Rig β) (conditions : Registry (Bench β))
    (sink : Option (ResultSink (Bench β))) (cases : List Case) (s : Stage (Bench β)) (k : Nat) :
    List Path :=
  let calls (k : Nat) := (rig.stageAfter conditions sink cases s k).world.exchanges
  savedVideos ((calls (k + 1)).drop (calls k).length)

private theorem evidence_of_getElem?
    (tested : ∀ p ∈ conditions.entries, ∀ argument, rig.LeavesSession (p.2 argument))
    {sink : Option (ResultSink (Bench β))}
    (recorded : ∀ record ∈ sink, ∀ result, rig.LeavesSession (record result))
    (plain : rig.outside.NamesNoArtifacts start) (forward : rig.outside.NeverGoesBack start)
    (closed : s.world.opened = {}) {cases : List Case} {k : Nat} {c : Case}
    (hc : cases[k]? = some c) {results kept : List CaseResult} {u : Stage (Bench β)}
    (went : runInTurn (Shop.crew rig conditions).runCase sink (some rig.close.toPlay)
      (cases.take k) [] s = ((.ok results, kept), u)) (since : rig.Since start t u) :
    let r := ((Shop.crew rig conditions).runCase c u).1
    let left := rig.stageAfter conditions sink cases s (k + 1)
    rig.Timely t r ∧ rig.Since start r.finishedAt.toMicros left ∧
      (rig.savedIn conditions sink cases s k).length ≤ 1 ∧
      ∀ path ∈ rig.savedIn conditions sink cases s k, rig.SavedFor start left r path := by
  intro r left
  have untouched := Shop.closed_runInTurn rig (Shop.crew rig conditions).runCase sink
    (cases.take k) [] closed
  rw [went] at untouched
  obtain ⟨timely, ended, made, exchanges, saved⟩ :=
    evidence_of_case tested recorded plain forward c since untouched
  have last := runInTurn_take_succ_of_ok hc went
  rw [← last] at ended exchanges saved
  refine ⟨timely, ended, ?_⟩
  unfold savedIn stageAfter
  dsimp only
  rw [went, exchanges, List.drop_left]
  exact saved

private theorem length_savedIn_le
    (tested : ∀ p ∈ conditions.entries, ∀ argument, rig.LeavesSession (p.2 argument))
    {sink : Option (ResultSink (Bench β))}
    (recorded : ∀ record ∈ sink, ∀ result, rig.LeavesSession (record result))
    (plain : rig.outside.NamesNoArtifacts s.world.outside)
    (forward : rig.outside.NeverGoesBack s.world.outside) (closed : s.world.opened = {})
    {cases : List Case} {k : Nat} (hk : k < cases.length) :
    (rig.savedIn conditions sink cases s k).length ≤ 1 := by
  have since := since_runInTurn tested recorded (cases.take k) [] (.here s)
  rcases went : runInTurn (Shop.crew rig conditions).runCase sink (some rig.close.toPlay)
    (cases.take k) [] s with ⟨⟨_ | _, _⟩, u⟩
  · have same : rig.stageAfter conditions sink cases s (k + 1) =
        rig.stageAfter conditions sink cases s k :=
      congrArg Prod.snd ((runInTurn_take_succ_of_error went).trans went.symm)
    have none : rig.savedIn conditions sink cases s k = [] := by
      unfold savedIn
      dsimp only
      rw [same, List.drop_length]
      rfl
    rw [none]
    exact Nat.zero_le 1
  · rw [went] at since
    exact (evidence_of_getElem? tested recorded plain forward closed
      (List.getElem?_eq_getElem hk) went since).2.2.1

-- What is known of the time after a case is known before each of those that come later.
private theorem since_of_before
    (tested : ∀ p ∈ conditions.entries, ∀ argument, rig.LeavesSession (p.2 argument))
    {sink : Option (ResultSink (Bench β))}
    (recorded : ∀ record ∈ sink, ∀ result, rig.LeavesSession (record result))
    {cases : List Case} {k l : Nat} (before : k < l) {results kept : List CaseResult}
    {u : Stage (Bench β)}
    (went : runInTurn (Shop.crew rig conditions).runCase sink (some rig.close.toPlay)
      (cases.take l) [] s = ((.ok results, kept), u))
    (since : rig.Since start t (rig.stageAfter conditions sink cases s (k + 1))) :
    rig.Since start t u := by
  have first : (cases.take l).take (k + 1) = cases.take (k + 1) := by
    rw [List.take_take, Nat.min_eq_left before]
  unfold stageAfter at since
  rw [← first] at since
  have kept := runInTurn_append_keeps
    (fun cases kept _ h ↦ since_runInTurn tested recorded cases kept h)
    ((cases.take l).drop (k + 1)) since
  rwa [List.take_append_drop, went] at kept

end

end Rig

namespace Shop

/-- Evidence of different cases of a run is kept apart, but for what happens within a second. If the
clock never goes back, steps of two cases name the same screenshot or the same video only if the
first ends and the second starts in the same second. One video is saved for a case at most, and two
cases have their videos saved under the same path only if failed steps of theirs follow each other
in the same second, or, if all videos are saved, if the second case lies within one second. -/
theorem runCases_evidenceApart (rig : Rig β) (conditions : Registry (Bench β))
    (tested : ∀ p ∈ conditions.entries, ∀ argument, rig.LeavesSession (p.2 argument))
    (sink : Option (ResultSink (Bench β)))
    (recorded : ∀ record ∈ sink, ∀ result, rig.LeavesSession (record result))
    (cases : List Case) (s : Stage (Bench β)) (closed : s.world.opened = {})
    (plain : rig.outside.NamesNoArtifacts s.world.outside)
    (forward : rig.outside.NeverGoesBack s.world.outside) :
    let run (cases : List Case) :=
      (crew rig conditions).runCases sink (some rig.close.toPlay) cases s
    let calls (k : Nat) := (run (cases.take k)).2.world.exchanges
    let saved (k : Nat) := savedVideos ((calls (k + 1)).drop (calls k).length)
    (∀ k < cases.length, (saved k).length ≤ 1) ∧
      ∀ k l r r', k < l → (run cases).1[k]? = some r → (run cases).1[l]? = some r' →
        (∀ x ∈ r.steps, ∀ y ∈ r'.steps, x.SharesArtifact y →
          x.finishedAt.SameSecond y.startedAt) ∧
        ∀ path ∈ saved k, path ∈ saved l →
          if rig.settings.videos.recording = .all then r'.startedAt.SameSecond r'.finishedAt
          else ∃ x ∈ r.steps, ∃ y ∈ r'.steps, x.status = Status.failed ∧
            y.status = Status.failed ∧ x.finishedAt.SameSecond y.startedAt := by
  intro run calls saved
  have evidence {k : Nat} {c : Case} (hc : cases[k]? = some c) {t : Nat}
      {results kept : List CaseResult} {u : Stage (Bench β)}
      (went : runInTurn (crew rig conditions).runCase sink (some rig.close.toPlay)
        (cases.take k) [] s = ((.ok results, kept), u)) (since : rig.Since s.world.outside t u) :=
    Rig.evidence_of_getElem? tested recorded plain forward closed hc went since
  refine ⟨fun k hk ↦ Rig.length_savedIn_le tested recorded plain forward closed hk,
    fun k l r r' before hr hr' ↦ ?_⟩
  obtain ⟨own, kept, each⟩ := exists_kept_runInTurn (crew rig conditions).runCase sink
    (some rig.close.toPlay) cases [] s
  have kept : (run cases).1 = own := kept
  rw [kept] at hr hr'
  obtain ⟨c, _, _, u, hc, went, rfl⟩ := each k r hr
  obtain ⟨c', _, _, u', hc', went', rfl⟩ := each l r' hr'
  have start := Rig.since_runInTurn tested recorded (cases.take k) [] (.here s)
  rw [went] at start
  have later {t : Nat} (since : rig.Since s.world.outside t _) :=
    Rig.since_of_before tested recorded before went' since
  obtain ⟨timely, ended, -, shown⟩ := evidence hc went start
  obtain ⟨timely', -, -, shown'⟩ := evidence hc' went' (later ended)
  have apart := timely.sameSecond timely'
  refine ⟨apart, fun path hp hp' ↦ ?_⟩
  have video := shown path hp
  have video' := shown' path hp'
  unfold Rig.SavedFor at video video'
  split
  · next all =>
    rw [if_pos all] at video video'
    obtain ⟨m, -, since, named⟩ := video
    obtain ⟨n, done, -, named'⟩ := video'
    have same := Rig.sameSecond_of_videoPath (congrArg Path.text (named.symm.trans named'))
    have second := (evidence hc' went' (later since)).1
    exact same.between second.started second.finished done
  · next all =>
    rw [if_neg all] at video video'
    obtain ⟨x, hx, failed, names⟩ := video
    obtain ⟨y, hy, failed', names'⟩ := video'
    exact ⟨x, hx, y, hy, failed, failed', apart x hx y hy (.inr ⟨_, names, names'⟩)⟩

/-! ### Failures of one second -/

private theorem still_of_leads {r b : Rehearsal} (free : r.plan.costs = [])
    (exact : r.now.advance 0 = r.now) (h : Rehearsal.outside.Leads r b) :
    b.now = r.now := by
  induction h with
  | refl => rfl
  | tail led next ih =>
    cases next with
    | read => exact ih
    | answered c =>
      refine (Rehearsal.answer_spares _ c).1.trans ?_
      rw [ih, Rehearsal.plan_of_leads led, free]
      exact exact

/-- A rig that takes screenshots and videos of failures. -/
def filmedRig : Rig Rehearsal :=
  { settings := { log := { enabled := false }, videos := { enabled := true } }
    outside := Rehearsal.outside }

/-- A stage on which no call takes time. -/
def filmedStage : Stage (Bench Rehearsal) :=
  { world := { outside := { now :=
    { year := ⟨2024, by decide⟩, month := ⟨2, by decide⟩, day := ⟨5, by decide⟩
      hour := ⟨3, by decide⟩, minute := ⟨4, by decide⟩, second := ⟨5, by decide⟩
      micro := ⟨0, by decide⟩ } } } }

/-- Two cases that each fail to open a page, as it is not said which. -/
def clumsyCases : List Case :=
  [⟨"First", [.action "Open page" []]⟩, ⟨"Second", [.action "Open page" []]⟩]

/-- A run of the first clumsy cases. -/
def clumsyRun (k : Nat) : List CaseResult × Stage (Bench Rehearsal) :=
  (crew filmedRig .standard).runCases (some filmedRig.record) (some filmedRig.close.toPlay)
    (clumsyCases.take k) filmedStage

/-- The videos that are saved for a clumsy case. -/
def clumsyVideos (k : Nat) : List Path :=
  savedVideos ((clumsyRun (k + 1)).2.world.exchanges.drop (clumsyRun k).2.world.exchanges.length)

private theorem clumsyRun_told :
    (clumsyRun 2).1.map (fun r ↦ r.steps.map fun x ↦ (x.status, x.screenshot, x.video)) =
        List.replicate 2 [(Status.failed,
          some "test-results/screenshots/error-step-20240205-030405.png",
          some "test-results/videos/error-test-20240205-030405.webm")] ∧
      ∀ k < 2, clumsyVideos k = [filmedRig.failureVideoPath filmedStage.world.outside.now] := by
  decide +kernel

private theorem exists_step_of_told {told : StepResult → Status × Option String × Option String}
    {results : List CaseResult} {t : Status × Option String × Option String}
    (h : results.map (fun r ↦ r.steps.map told) = List.replicate 2 [t]) :
    ∃ r r' x y, results = [r, r'] ∧ r.steps = [x] ∧ r'.steps = [y] ∧ told x = t ∧ told y = t := by
  obtain ⟨r, rest, rfl, first, others⟩ := List.map_eq_cons_iff.mp h
  obtain ⟨r', rest, rfl, second, none⟩ := List.map_eq_cons_iff.mp others
  obtain ⟨x, hx, tx⟩ := List.map_eq_singleton_iff.mp first
  obtain ⟨y, hy, ty⟩ := List.map_eq_singleton_iff.mp second
  rw [List.map_eq_nil_iff.mp none]
  exact ⟨r, r', x, y, rfl, hx, hy, tx, ty⟩

private theorem still_of_filmedStage {b : Rehearsal}
    (h : Rehearsal.outside.Leads filmedStage.world.outside b) :
    b.now = filmedStage.world.outside.now :=
  still_of_leads rfl (by decide +kernel) h

private theorem neverGoesBack_filmedStage :
    filmedRig.outside.NeverGoesBack filmedStage.world.outside := by
  intro b b' before after
  have now : b.now = _ := still_of_filmedStage before
  have now' : b'.now = _ := still_of_filmedStage ((before.tail (.read b)).trans after)
  exact Nat.le_of_eq (congrArg Moment.toMicros (now.trans now'.symm))

/-- The steps of two cases that fail at the same time have the same evidence, and it is known that
they follow each other within a second. -/
theorem evidenceApart_of_clumsyCases :
    (∀ p ∈ (Registry.standard : Registry (Bench Rehearsal)).entries, ∀ argument,
        filmedRig.LeavesSession (p.2 argument)) ∧
      (∀ record ∈ some filmedRig.record, ∀ result, filmedRig.LeavesSession (record result)) ∧
      filmedStage.world.opened = {} ∧
      filmedRig.outside.NamesNoArtifacts filmedStage.world.outside ∧
      filmedRig.outside.NeverGoesBack filmedStage.world.outside ∧
      ∃ r r' x y, (clumsyRun 2).1 = [r, r'] ∧ x ∈ r.steps ∧ y ∈ r'.steps ∧ x.SharesArtifact y ∧
        x.finishedAt.SameSecond y.startedAt := by
  have tested := Rig.leavesSession_standard filmedRig
  have recorded : ∀ record ∈ some filmedRig.record, ∀ result,
      filmedRig.LeavesSession (record result) := by
    intro record hr result
    cases hr
    exact Rig.leavesSession_record filmedRig result
  have plain : filmedRig.outside.NamesNoArtifacts filmedStage.world.outside := by
    intro b led c m failed
    obtain ⟨f, rfl⟩ := Rehearsal.onlyFaults (fun _ h ↦ absurd h List.not_mem_nil) b led c m
      failed
    exact ⟨rfl, rfl⟩
  obtain ⟨r, r', x, y, ran, hx, hy, tx, ty⟩ := exists_step_of_told clumsyRun_told.1
  obtain ⟨-, apart⟩ := runCases_evidenceApart filmedRig .standard tested _ recorded clumsyCases
    filmedStage rfl plain neverGoesBack_filmedStage
  have mx : x ∈ r.steps := hx ▸ List.mem_cons_self
  have my : y ∈ r'.steps := hy ▸ List.mem_cons_self
  have shares : x.SharesArtifact y :=
    .inl ⟨_, congrArg (·.2.1) tx, congrArg (·.2.1) ty⟩
  have first : (clumsyRun 2).1[0]? = some r := by rw [ran]; rfl
  have second : (clumsyRun 2).1[1]? = some r' := by rw [ran]; rfl
  exact ⟨tested, recorded, rfl, plain, neverGoesBack_filmedStage, r, r', x, y, ran, mx, my, shares,
    (apart 0 1 r r' Nat.zero_lt_one first second).1 x mx y my shares⟩

/-- Two cases that fail within a second name the same screenshot and the same video, and their
sessions save their videos under one path. -/
theorem evidence_overwritten :
    filmedRig.settings.screenshots.enabled = true ∧ filmedRig.settings.videos.enabled = true ∧
      filmedStage.world.opened = {} ∧
      filmedRig.outside.NeverGoesBack filmedStage.world.outside ∧
      (∃ r r' x y, (clumsyRun 2).1 = [r, r'] ∧ x ∈ r.steps ∧ y ∈ r'.steps ∧
        x.status = Status.failed ∧ y.status = Status.failed ∧
        (∃ text, x.screenshot = some text ∧ y.screenshot = some text) ∧
        ∃ text, x.video = some text ∧ y.video = some text) ∧
      ∃ path, path ∈ clumsyVideos 0 ∧ path ∈ clumsyVideos 1 := by
  obtain ⟨told, saved⟩ := clumsyRun_told
  obtain ⟨r, r', x, y, ran, hx, hy, tx, ty⟩ := exists_step_of_told told
  refine ⟨rfl, rfl, rfl, neverGoesBack_filmedStage, ⟨r, r', x, y, ran, hx ▸ List.mem_cons_self,
    hy ▸ List.mem_cons_self, congrArg Prod.fst tx, congrArg Prod.fst ty,
    ⟨_, congrArg (·.2.1) tx, congrArg (·.2.1) ty⟩, _, congrArg (·.2.2) tx, congrArg (·.2.2) ty⟩, ?_⟩
  refine ⟨filmedRig.failureVideoPath filmedStage.world.outside.now, ?_, ?_⟩
  · rw [saved 0 (by decide)]
    exact List.mem_cons_self
  · rw [saved 1 (by decide)]
    exact List.mem_cons_self

end Shop

end Playbook
