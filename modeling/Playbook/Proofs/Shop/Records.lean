import Playbook.Proofs.Disk.Growth
import Playbook.Proofs.Shop.Keeping
import Playbook.Run.Recorder

/-!
# What is recorded of a run

The recorder keeps the results of all cases in the order of the run, and the result log that was
written last holds them all (`recorded_runInTurn`), unless a result is reported that could not be
recorded. What is done between two records leaves the recorder alone and only adds to the disk
(`Undisturbed`), so the file stays as it was written.
-/

namespace Playbook

open Browser Script

variable {β : Type}

/-- The entry tells of a result that could not be recorded. -/
def LogEntry.TellsRefusal (e : LogEntry) : Prop :=
  e.level = .error ∧ e.source = .runner ∧
    "Could not record result of \"".toList <+: e.text.toList

/-- Whether an entry tells of a refusal is told by the start of its text. -/
instance (e : LogEntry) : Decidable e.TellsRefusal :=
  inferInstanceAs (Decidable (_ ∧ _))

namespace Rig

variable {rig : Rig β} {conditions : Registry (Bench β)}

/-! ### Between records -/

/-- Nothing was recorded, files stayed as they were, and the log only grew. -/
structure Undisturbed (s t : Stage (Bench β)) : Prop where
  log : s.log <+: t.log
  recorded : t.world.recorded = s.world.recorded
  lastLog : t.world.lastLog = s.world.lastLog
  disk : s.world.disk.Grows t.world.disk

/-- Where nothing is done, nothing is disturbed. -/
theorem Undisturbed.refl (s : Stage (Bench β)) : Undisturbed s s :=
  ⟨List.prefix_refl _, rfl, rfl, .refl _⟩

private theorem undisturbed_directories (s : Stage (Bench β)) (p : Path) :
    Keeps (Undisturbed s) (fun _ ↦ Undisturbed s) (onDisk (Disk.ensureDirectories p)) := by
  intro t h
  unfold onDisk
  cases made : Disk.ensureDirectories p t.world.disk with
  | ok _ d =>
    exact ⟨h.log, h.recorded, h.lastLog, h.disk.trans ((Disk.adds_ensureDirectories p).of_ok made)⟩
  | error f d =>
    exact ⟨h.log, h.recorded, h.lastLog,
      h.disk.trans ((Disk.adds_ensureDirectories p).of_error made)⟩

/-- Nothing that a rig does for a session disturbs what was recorded. -/
theorem spares_undisturbed (rig : Rig β) (s : Stage (Bench β)) : rig.Spares (Undisturbed s) :=
  .of_called (fun _ ↦ call_keeps fun h _ ↦ ⟨h.log, h.recorded, h.lastLog, h.disk⟩)
    (fun h ↦ ⟨h.log, h.recorded, h.lastLog, h.disk⟩)
    (fun h _ _ _ ↦ ⟨h.log.trans (List.prefix_append _ _), h.recorded, h.lastLog, h.disk⟩)
    (fun h _ ↦ ⟨h.log, h.recorded, h.lastLog, h.disk⟩) (undisturbed_directories s)

private theorem undisturbed_runCase (rig : Rig β) (c : Case) (s : Stage (Bench β)) :
    Undisturbed s ((Shop.crew rig .standard).runCase c s).2 := by
  refine ((spares_undisturbed rig s).maintains (fun h _ _ ↦ ⟨h.log, h.recorded, h.lastLog, h.disk⟩)
    fun p hp argument ↦ ?_).runCase c (.refl s)
  rw [Registry.eq_of_mem_standard hp]
  exact fun _ h ↦ h

private theorem undisturbed_tearDown (rig : Rig β) (c : Case) (s : Stage (Bench β)) :
    Undisturbed s (tearDown (some rig.close.toPlay) c s).2 := by
  refine tearDown_keeps ?_ (spares_undisturbed rig s).logged c (.refl s)
  rintro _ ⟨⟩
  exact (spares_undisturbed rig s).close

/-! ### Recording -/

/-- The result log that was written last holds every result recorded so far. -/
def Logged (b : Bench β) : Prop :=
  ∃ path, b.lastLog = some path ∧ b.disk.readBytes path = .ok (logText b.recorded).toUTF8

/-- What is logged stays logged. -/
theorem Undisturbed.logged {s t : Stage (Bench β)} (h : Undisturbed s t) (logged : Logged s.world) :
    Logged t.world := by
  obtain ⟨path, last, held⟩ := logged
  refine ⟨path, h.lastLog.trans last, ?_⟩
  rw [h.recorded]
  exact h.disk.readBytes held

/-- These results are recorded, and the log only grew. -/
private structure Has (log : Log) (results : List CaseResult) (s : Stage (Bench β)) : Prop where
  log : log <+: s.log
  recorded : s.world.recorded = results

variable {log : Log} {results : List CaseResult}

private theorem has_onDisk (w : Disk.Writing Unit) :
    Keeps (Has log results) (fun _ ↦ (log <+: ·.log)) (onDisk w : Play (Bench β) Unit) := by
  intro s h
  unfold onDisk
  cases w s.world.disk with
  | ok _ d => exact ⟨h.log, h.recorded⟩
  | error f d => exact h.log

private theorem ensures_writeLog (path : Path) :
    Ensures (Has log results) (writeLog path : Play (Bench β) Unit)
      (fun _ s ↦ Has log results s ∧ Logged s.world) (fun _ s ↦ log <+: s.log) := by
  refine .bind (has_onDisk _) fun _ ↦ ?_
  have looked : Ensures (Has log results) (get : Play (Bench β) (Stage (Bench β)))
      (fun now s ↦ s = now ∧ Has log results s) (fun _ s ↦ log <+: s.log) :=
    fun _ h ↦ ⟨rfl, h⟩
  refine looked.bind fun now ↦ ?_
  have written : Ensures (fun s ↦ s = now ∧ Has log results s)
      (onDisk (Disk.writeText path (logText now.world.recorded)) : Play (Bench β) Unit)
      (fun _ s ↦ Has log results s ∧
        s.world.disk.readBytes path = .ok (logText results).toUTF8)
      (fun _ s ↦ log <+: s.log) := by
    rintro s ⟨rfl, h⟩
    rw [h.recorded]
    unfold onDisk
    cases done : Disk.writeText path (logText results) s.world.disk with
    | ok _ d => exact ⟨⟨h.log, h.recorded⟩, Disk.readBytes_of_writeBytes done⟩
    | error f d => exact h.log
  have reported (level : Level) (source : Source) (text : String) :
      Keeps (fun s ↦ Has log results s ∧
          s.world.disk.readBytes path = .ok (logText results).toUTF8)
        (fun _ s ↦ log <+: s.log) (Play.report level source text : Play (Bench β) Unit) :=
    fun s h ↦ ⟨⟨h.1.log.trans (List.prefix_append _ _), h.1.recorded⟩, h.2⟩
  refine .bind written fun _ ↦ Ensures.bind (reported _ _ _) fun _ ↦ ?_
  rintro s ⟨h, held⟩
  exact ⟨⟨h.log, h.recorded⟩, path, rfl, h.recorded ▸ held⟩

/-- Reports keep what is recorded and logged. -/
theorem keeps_reportTiming {P : Stage (Bench β) → Prop}
    (logged : ∀ {s}, P s → ∀ level source text, P (s.logged level source text))
    (result : CaseResult) {broken : Failure → Stage (Bench β) → Prop} :
    Keeps P broken (reportTiming result) := by
  refine .bind (fun _ h ↦ logged h _ _ _) fun _ ↦ ?_
  generalize result.steps = told
  induction told with
  | nil => exact .pure ()
  | cons r told ih => exact .bind (fun _ h ↦ logged h _ _ _) fun _ ↦ ih

private theorem ensures_saveLog (rig : Rig β) :
    Ensures (Has log results) (rig.saveLog none)
      (fun _ s ↦ Has log results s ∧ Logged s.world) (fun _ s ↦ log <+: s.log) := by
  have written (stamp : String) : Ensures (Has log results)
      (do
        writeLog (rig.logPath stamp)
        return rig.logPath stamp : Play (Bench β) Path)
      (fun _ s ↦ Has log results s ∧ Logged s.world) (fun _ s ↦ log <+: s.log) :=
    .bind (ensures_writeLog _) fun _ ↦ .pure _ fun _ h ↦ h
  have looked : Keeps (Has log results) (fun _ s ↦ log <+: s.log) rig.now :=
    fun s h ↦ ⟨h.log, h.recorded⟩
  exact Ensures.bind looked fun now ↦ Ensures.bind (Keeps.pure now.stamp) written

/-- Recording a result adds it to what is recorded, and all of it is logged if logs are written. -/
theorem ensures_record (rig : Rig β) (result : CaseResult) (s : Stage (Bench β)) :
    Ensures (· = s) (rig.record result)
      (fun _ t ↦ s.log <+: t.log ∧ t.world.recorded = s.world.recorded ++ [result] ∧
        (rig.settings.log.enabled → Logged t.world))
      (fun _ t ↦ s.log <+: t.log) := by
  let more := s.world.recorded ++ [result]
  refine .bind ((?_ : Ensures (· = s) _ (fun _ ↦ Has s.log more) _)) fun _ ↦ ?_
  · rintro _ rfl
    exact ⟨List.prefix_refl _, rfl⟩
  · dsimp only
    split
    · refine .bind (ensures_saveLog rig) fun _ ↦ ?_
      refine Ensures.weaken (keeps_reportTiming (P := fun t ↦ Has s.log more t ∧ Logged t.world) ?_
        result) (fun _ h ↦ h) (fun _ t h ↦ ⟨h.1.log, h.1.recorded, fun _ ↦ h.2⟩) fun _ _ h ↦ h
      exact fun h _ _ _ ↦ ⟨⟨h.1.log.trans (List.prefix_append _ _), h.1.recorded⟩, h.2⟩
    · next off =>
      refine Ensures.weaken (keeps_reportTiming (P := Has s.log more) ?_ result) (fun _ h ↦ h)
        (fun _ t h ↦ ⟨h.log, h.recorded, fun on ↦ absurd on off⟩) fun _ _ h ↦ h
      exact fun h _ _ _ ↦ ⟨h.log.trans (List.prefix_append _ _), h.recorded⟩

-- A record with which the run goes on adds the result, and logs it if logs are written, or its
-- refusal is reported.
private theorem recordResult_cases (rig : Rig β) {c : Case} {result : CaseResult}
    {s t : Stage (Bench β)} (went : recordResult (some rig.record) c result s = (.ok (), t)) :
    t.world.recorded = s.world.recorded ++ [result] ∧ (rig.settings.log.enabled → Logged t.world) ∨
      ∃ e ∈ t.log, e.TellsRefusal := by
  have spec := ensures_record rig result s
  cases done : rig.record result s with
  | ok _ u =>
    rw [recordResult_of_ok done] at went
    cases went
    exact .inl (spec.of_ok rfl done).2
  | error f u =>
    by_cases refused : f.isDiskFault = true
    · rw [recordResult_of_refused done refused] at went
      cases went
      refine .inr ⟨_, List.mem_append_right _ List.mem_cons_self, rfl, rfl, ?_⟩
      simp only [String.toList_append, List.append_assoc]
      exact List.prefix_append _ _
    · rw [recordResult_of_failed done refused] at went
      cases went

private theorem log_runInTurn (rig : Rig β) (cases : List Case) (kept : List CaseResult)
    (s : Stage (Bench β)) :
    s.log <+: (runInTurn (Shop.crew rig .standard).runCase (some rig.record)
      (some rig.close.toPlay) cases kept s).2.log := by
  have logged {t : Stage (Bench β)} (h : s.log <+: t.log) (level : Level) (source : Source)
      (text : String) : s.log <+: (t.logged level source text).log :=
    h.trans (List.prefix_append _ _)
  refine runInTurn_keeps (P := fun t ↦ s.log <+: t.log)
    (fun c t h ↦ h.trans (undisturbed_runCase rig c t).log) (fun c result t h ↦ ?_)
    (fun c t h ↦ h.trans (undisturbed_tearDown rig c t).log) cases kept (List.prefix_refl _)
  refine recordResult_keeps (P := fun t ↦ s.log <+: t.log) ?_ logged c result h
  rintro _ ⟨⟩ result u hu
  have spec := ensures_record rig result u
  cases done : rig.record result u with
  | ok _ v => exact hu.trans (spec.of_ok rfl done).1
  | error f v => exact hu.trans (spec.of_error rfl done)

/-- Unless a refusal is reported, the recorder has the result of every case of a run that goes
through, in order, and if logs are written the last one holds them all. -/
theorem recorded_runInTurn (rig : Rig β) (cases : List Case) (kept : List CaseResult)
    {s t : Stage (Bench β)} {results kept' : List CaseResult}
    (went : runInTurn (Shop.crew rig .standard).runCase (some rig.record)
      (some rig.close.toPlay) cases kept s = ((.ok results, kept'), t))
    (unrefused : ∀ e ∈ t.log, ¬e.TellsRefusal) :
    t.world.recorded = s.world.recorded ++ results ∧
      (rig.settings.log.enabled → cases ≠ [] ∨ Logged s.world → Logged t.world) := by
  induction cases generalizing kept s results with
  | nil =>
    cases went
    exact ⟨(List.append_nil _).symm, fun _ h ↦ h.resolve_left fun h ↦ h rfl⟩
  | cons c cases ih =>
    let ran := (Shop.crew rig .standard).runCase c s
    obtain ⟨u, more, recorded, later, rfl⟩ := exists_of_runInTurn_cons_ok went
    let torn := (tearDown (some rig.close.toPlay) c u).2
    have between : Undisturbed u torn := undisturbed_tearDown rig c u
    obtain ⟨has, logged⟩ := ih _ later
    obtain ⟨now, all⟩ | ⟨e, he, refused⟩ := recordResult_cases rig recorded
    · constructor
      · calc t.world.recorded
            = torn.world.recorded ++ more := has
          _ = u.world.recorded ++ more := by rw [between.recorded]
          _ = (ran.2.world.recorded ++ [ran.1]) ++ more := by rw [now]
          _ = s.world.recorded ++ ran.1 :: more := by
            rw [(undisturbed_runCase rig c s).recorded, List.append_assoc]
            rfl
      · exact fun enabled _ ↦ logged enabled (.inr (between.logged (all enabled)))
    · have grown := between.log.trans (log_runInTurn rig cases (kept ++ [ran.1]) torn)
      rw [later] at grown
      exact absurd refused (unrefused e (grown.mem he))

end Rig

end Playbook
