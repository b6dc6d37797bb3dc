import Playbook.Browser.Rehearsal
import Playbook.Proofs.Browser.Artifacts
import Playbook.Proofs.Disk.Location
import Playbook.Proofs.Run.Entries
import Playbook.Proofs.Shop.Records

/-!
# The result log over many records

A recorder writes everything it keeps to a file each time, under a name made of the second, so a
file may be written again and a record may be refused. Nothing that was recorded is lost all the
same (`recordAll_keeps`): a file holds what was recorded up to the call that wrote it last, results
whose own record was refused included, and a refused record leaves every file as it was.
-/

namespace Playbook

namespace Disk

variable {d : Disk} {l : Location}

/-- A path with a name at its end leads to a place of that name. -/
theorem exists_above_of_reach_child {directory : Path} {name : String} (hn : name ≠ "..")
    (h : d.reach (directory.child name) = .ok l) : ∃ above, l = above ++ [name] := by
  obtain ⟨-, located⟩ := reach_ok_iff.mp h
  obtain ⟨above, -, last⟩ := foldlM_step_append.mp (locate_ok_iff.mp located).2
  exact ⟨above, eq_append_of_foldlM_step last (by simpa using hn.symm)⟩

end Disk

namespace Rig

open Browser

variable {β : Type} {rig : Rig β} {s t : Stage (Bench β)} {path : Path}

/-! ### One record -/

/-- The file of the result log at a moment is in the directory of the log. -/
theorem logPath_stamp (rig : Rig β) (m : Moment) :
    rig.logPath m.stamp =
      rig.settings.log.directory.child ("logs-" ++ m.stamp ++ ".json") := by
  have names : Path.MakesNames "logs-" ".json" := by decide
  rw [← Path.named_eq names]
  rfl

/-- Files of the result log with different paths are in different places. -/
theorem apart_of_logPath_ne {m n : Moment} {d : Disk} {l : Location}
    (h : rig.logPath m.stamp ≠ rig.logPath n.stamp) (hm : d.reach (rig.logPath m.stamp) = .ok l) :
    d.reach (rig.logPath n.stamp) ≠ .ok l := by
  have name (m : Moment) : "logs-" ++ m.stamp ++ ".json" ≠ ".." := by
    intro h
    have := congrArg (fun s : String ↦ s.toList.length) h
    simp at this
  intro hn
  apply h
  rw [logPath_stamp] at hm hn ⊢
  rw [logPath_stamp]
  obtain ⟨above, there⟩ := Disk.exists_above_of_reach_child (name m) hm
  obtain ⟨other, same⟩ := Disk.exists_above_of_reach_child (name n) hn
  have names := (List.append_inj' (there.symm.trans same) (by simp)).2
  rw [List.singleton_inj.mp names]

/-- A result was recorded, and everything recorded was written to a file of the result log. -/
structure Saves (rig : Rig β) (result : CaseResult) (s t : Stage (Bench β)) (path : Path) :
    Prop where
  recorded : t.world.recorded = s.world.recorded ++ [result]
  lastLog : t.world.lastLog = some path
  named : ∃ m : Moment, path = rig.logPath m.stamp
  written : ∃ d, s.world.disk.Grows d ∧
    Disk.writeText path (logText t.world.recorded) d = .ok () t.world.disk

/-- A result was recorded, though nothing could be written. -/
structure Refuses (result : CaseResult) (s t : Stage (Bench β)) : Prop where
  recorded : t.world.recorded = s.world.recorded ++ [result]
  lastLog : t.world.lastLog = s.world.lastLog
  disk : s.world.disk.Grows t.world.disk

/-- A record that was refused leaves every file as it was. -/
theorem Refuses.readBytes {result : CaseResult} {content : ByteArray} (h : Refuses result s t)
    (held : s.world.disk.readBytes path = .ok content) :
    t.world.disk.readBytes path = .ok content :=
  h.disk.readBytes held

/-- The file that was written holds everything recorded. -/
theorem Saves.readBytes {result : CaseResult} (h : Saves rig result s t path) :
    t.world.disk.readBytes path = .ok (logText t.world.recorded).toUTF8 := by
  obtain ⟨d, -, written⟩ := h.written
  exact Disk.readBytes_of_writeBytes written

/-- A file that was written holds everything, and every other file of the log what it held. -/
theorem Saves.readBytes_of_ne {result : CaseResult} {m : Moment} {content : ByteArray}
    (h : Saves rig result s t path) (other : rig.logPath m.stamp ≠ path)
    (held : s.world.disk.readBytes (rig.logPath m.stamp) = .ok content) :
    t.world.disk.readBytes (rig.logPath m.stamp) = .ok content := by
  obtain ⟨n, named⟩ := h.named
  obtain ⟨d, grown, written⟩ := h.written
  rw [named] at other written
  apply Disk.readBytes_of_elsewhere written (grown.readBytes held)
  intro l here
  exact apart_of_logPath_ne other here

private theorem ensures_writeLog_saves {result : CaseResult} (m : Moment) :
    Ensures (Refuses result s) (writeLog (rig.logPath m.stamp) : Play (Bench β) Unit)
      (fun _ t ↦ Saves rig result s t (rig.logPath m.stamp)) (fun _ t ↦ Refuses result s t) := by
  have directories : Keeps (Refuses result s) (fun _ t ↦ Refuses result s t)
      (onDisk (Disk.ensureDirectories (rig.logPath m.stamp).parent) : Play (Bench β) Unit) := by
    intro t h
    unfold onDisk
    have adds := Disk.adds_ensureDirectories (rig.logPath m.stamp).parent
    cases made : Disk.ensureDirectories (rig.logPath m.stamp).parent t.world.disk with
    | ok _ d => exact ⟨h.recorded, h.lastLog, h.disk.trans (adds.of_ok made)⟩
    | error f d => exact ⟨h.recorded, h.lastLog, h.disk.trans (adds.of_error made)⟩
  refine .bind directories fun _ ↦ ?_
  have looked : Ensures (Refuses result s) (get : Play (Bench β) (Stage (Bench β)))
      (fun now t ↦ t = now ∧ Refuses result s t) (fun _ t ↦ Refuses result s t) :=
    fun _ h ↦ ⟨rfl, h⟩
  refine looked.bind fun now ↦ ?_
  have written : Ensures (fun t ↦ t = now ∧ Refuses result s t)
      (onDisk (Disk.writeText (rig.logPath m.stamp) (logText now.world.recorded)) :
        Play (Bench β) Unit)
      (fun _ t ↦ t.world.recorded = s.world.recorded ++ [result] ∧
        ∃ d, s.world.disk.Grows d ∧ Disk.writeText (rig.logPath m.stamp)
          (logText t.world.recorded) d = .ok () t.world.disk)
      (fun _ t ↦ Refuses result s t) := by
    rintro t ⟨rfl, h⟩
    unfold onDisk
    cases done : Disk.writeText (rig.logPath m.stamp) (logText t.world.recorded) t.world.disk with
    | ok _ d => exact ⟨h.recorded, t.world.disk, h.disk, done⟩
    | error f d =>
      exact ⟨h.recorded, h.lastLog, h.disk.trans (Disk.grows_of_writeBytes_error done)⟩
  refine written.bind fun _ ↦ ?_
  rintro t ⟨recorded, done⟩
  exact ⟨recorded, rfl, ⟨m, rfl⟩, done⟩

/-- Recording a result keeps it and writes everything kept to a file, or leaves every file as it
was. -/
theorem ensures_record_saves (on : rig.settings.log.enabled = true) (result : CaseResult)
    (s : Stage (Bench β)) :
    Ensures (· = s) (rig.record result) (fun _ t ↦ ∃ path, Saves rig result s t path)
      (fun _ t ↦ Refuses result s t) := by
  refine .bind ((?_ : Ensures (· = s) _ (fun _ ↦ Refuses result s) _)) fun _ ↦ ?_
  · rintro _ rfl
    exact ⟨rfl, rfl, .refl _⟩
  · dsimp only
    rw [if_pos on]
    have looked : Ensures (Refuses result s) rig.now
        (fun _ t ↦ Refuses result s t) (fun _ t ↦ Refuses result s t) :=
      fun t h ↦ ⟨h.recorded, h.lastLog, h.disk⟩
    have saved : Ensures (Refuses result s) (rig.saveLog none)
        (fun _ t ↦ ∃ path, Saves rig result s t path) (fun _ t ↦ Refuses result s t) := by
      refine looked.bind fun now ↦ ?_
      refine (ensures_writeLog_saves now).bind fun _ ↦ ?_
      exact .pure _ fun _ h ↦ ⟨_, h⟩
    refine saved.bind fun _ ↦ ?_
    apply keeps_reportTiming
    rintro t ⟨path, h⟩ _ _ _
    exact ⟨path, h.recorded, h.lastLog, h.named, h.written⟩

/-- Without a log, recording a result only keeps it. -/
theorem ensures_record_off (off : rig.settings.log.enabled = false) (result : CaseResult)
    (s : Stage (Bench β)) :
    Ensures (· = s) (rig.record result)
      (fun _ t ↦ t.world = { s.world with recorded := s.world.recorded ++ [result] })
      (fun _ _ ↦ False) := by
  have kept : Ensures (· = s)
      (modify fun s ↦ { s with world :=
        { s.world with recorded := s.world.recorded ++ [result] } } : Play (Bench β) PUnit)
      (fun _ t ↦ t.world = { s.world with recorded := s.world.recorded ++ [result] })
      (fun _ _ ↦ False) := by
    rintro _ rfl
    rfl
  refine kept.bind fun _ ↦ ?_
  rw [if_neg (by simp [off])]
  exact keeps_reportTiming (fun h _ _ _ ↦ h) result

/-! ### Many records -/

/-- Record results one after another, whatever is refused. For every record it is told which file
of the log is the last one after it, and nothing if it was refused. -/
def recordAll (rig : Rig β) : List CaseResult → Routine (Bench β) (List (Option Path))
  | [] => pure []
  | result :: rest => do
    let file ← match ← Routine.attempt (rig.record result) with
      | .ok () => do pure (← get).world.lastLog
      | .error _ => pure none
    return file :: (← rig.recordAll rest)

variable {result : CaseResult} {results : List CaseResult} {files : List (Option Path)} {i : Nat}

@[simp] private theorem recordAll_nil : rig.recordAll [] s = ([], s) := rfl

private theorem recordAll_cons_of_ok (h : rig.record result s = .ok () t) :
    rig.recordAll (result :: results) s =
      (t.world.lastLog :: (rig.recordAll results t).1, (rig.recordAll results t).2) := by
  have attempted : Routine.attempt (rig.record result) s = (.ok (), t) := by
    simp only [Routine.attempt, h]
  simp only [recordAll, bind, StateT.bind, attempted]
  rfl

private theorem recordAll_cons_of_error {e : Failure} (h : rig.record result s = .error e t) :
    rig.recordAll (result :: results) s =
      (none :: (rig.recordAll results t).1, (rig.recordAll results t).2) := by
  have attempted : Routine.attempt (rig.record result) s = (.error e, t) := by
    simp only [Routine.attempt, h]
  simp only [recordAll, bind, StateT.bind, attempted]
  rfl

/-- The file was written by a record, and by none after it. -/
def LastWrote (files : List (Option Path)) (i : Nat) (path : Path) : Prop :=
  files[i]? = some (some path) ∧ ∀ j, i < j → files[j]? ≠ some (some path)

/-- One record, then the others: a run of records is a step and a shorter run. -/
theorem recordAll_cons (on : rig.settings.log.enabled = true) (result : CaseResult)
    (results : List CaseResult) (s : Stage (Bench β)) :
    ∃ file t, rig.recordAll (result :: results) s =
        (file :: (rig.recordAll results t).1, (rig.recordAll results t).2) ∧
      t.world.recorded = s.world.recorded ++ [result] ∧
      match file with
      | some path => Saves rig result s t path
      | none => Refuses result s t := by
  have spec := ensures_record_saves on result s
  cases done : rig.record result s with
  | ok _ t =>
    obtain ⟨path, saved⟩ := spec.of_ok rfl done
    refine ⟨some path, t, ?_, saved.recorded, saved⟩
    rw [recordAll_cons_of_ok done, saved.lastLog]
  | error e t =>
    have refused := spec.of_error rfl done
    exact ⟨none, t, recordAll_cons_of_error done, refused.recorded, refused⟩

/-- What is recorded is kept, in order. -/
theorem recorded_recordAll (on : rig.settings.log.enabled = true) :
    (rig.recordAll results s).2.world.recorded = s.world.recorded ++ results := by
  induction results generalizing s with
  | nil => simp
  | cons result results ih =>
    obtain ⟨file, t, run, recorded, -⟩ := recordAll_cons on result results s
    rw [run, ih, recorded, List.append_assoc, List.singleton_append]

/-- Each record is told of once. -/
theorem length_recordAll (on : rig.settings.log.enabled = true) :
    (rig.recordAll results s).1.length = results.length := by
  induction results generalizing s with
  | nil => rfl
  | cons result results ih =>
    obtain ⟨file, t, run, -, -⟩ := recordAll_cons on result results s
    rw [run, List.length_cons, List.length_cons, ih]

/-- A file of the log that is not written again stays as it is. -/
theorem readBytes_recordAll (on : rig.settings.log.enabled = true) {m : Moment}
    {content : ByteArray} (held : s.world.disk.readBytes (rig.logPath m.stamp) = .ok content)
    (notAgain : some (rig.logPath m.stamp) ∉ (rig.recordAll results s).1) :
    (rig.recordAll results s).2.world.disk.readBytes (rig.logPath m.stamp) = .ok content := by
  induction results generalizing s with
  | nil => exact held
  | cons result results ih =>
    obtain ⟨file, t, run, -, step⟩ := recordAll_cons on result results s
    rw [run, List.mem_cons, not_or] at notAgain
    rw [run]
    apply ih _ notAgain.2
    cases file with
    | none => exact step.readBytes held
    | some path => exact step.readBytes_of_ne (fun same ↦ notAgain.1 (congrArg some same)) held

/-- Every file of the log holds what was recorded up to the record that wrote it last. -/
theorem readBytes_of_lastWrote (on : rig.settings.log.enabled = true)
    (h : LastWrote (rig.recordAll results s).1 i path) :
    (rig.recordAll results s).2.world.disk.readBytes path =
      .ok (logText (s.world.recorded ++ results.take (i + 1))).toUTF8 := by
  induction results generalizing s i with
  | nil =>
    have := h.1
    simp at this
  | cons result results ih =>
    obtain ⟨file, t, run, recorded, step⟩ := recordAll_cons on result results s
    rw [run] at h ⊢
    obtain ⟨wrote, last⟩ := h
    cases i with
    | zero =>
      simp only [List.getElem?_cons_zero, Option.some.injEq] at wrote
      rw [wrote] at step
      have saved : Saves rig result s t path := step
      obtain ⟨m, named⟩ := saved.named
      have notAgain : some path ∉ (rig.recordAll results t).1 := by
        intro again
        obtain ⟨j, hj⟩ := List.getElem?_of_mem again
        exact last (j + 1) (by omega) hj
      have held := saved.readBytes
      rw [named] at held notAgain ⊢
      rw [readBytes_recordAll on held notAgain, saved.recorded]
      rfl
    | succ i =>
      have later : LastWrote (rig.recordAll results t).1 i path :=
        ⟨wrote, fun j hj ↦ last (j + 1) (by omega)⟩
      rw [ih later, recorded, List.append_assoc]
      rfl

/-- A file that was written was written last by some record. -/
theorem exists_lastWrote (h : some path ∈ files) : ∃ i < files.length, LastWrote files i path := by
  induction files with
  | nil => cases h
  | cons file files ih =>
    by_cases again : some path ∈ files
    · obtain ⟨i, hi, wrote, last⟩ := ih again
      refine ⟨i + 1, by simpa using hi, wrote, fun j hj ↦ ?_⟩
      obtain ⟨k, rfl⟩ : ∃ k, j = k + 1 := ⟨j - 1, by omega⟩
      exact last k (by omega)
    · have first : file = some path := by simpa [again, eq_comm] using h
      refine ⟨0, by simp, by simp [first], fun j hj here ↦ again ?_⟩
      obtain ⟨k, rfl⟩ : ∃ k, j = k + 1 := ⟨j - 1, by omega⟩
      exact List.mem_of_getElem? here

/-- Without a log, nothing is written however many results are recorded. -/
theorem recordAll_off (off : rig.settings.log.enabled = false) :
    (rig.recordAll results s).2.world =
      { s.world with recorded := s.world.recorded ++ results } := by
  induction results generalizing s with
  | nil => simp
  | cons result results ih =>
    have spec := ensures_record_off off result s
    cases done : rig.record result s with
    | error e t => exact (spec.of_error rfl done).elim
    | ok _ t =>
      rw [recordAll_cons_of_ok done, ih, spec.of_ok rfl done, List.append_assoc,
        List.singleton_append]

/-- Whatever the clock shows and whichever attempts to write are refused: everything recorded is
kept in order; a record that goes through leaves a file that holds all of it, and one that is
refused leaves the last file and every other file as they were; and at any time each file of the log
holds what was recorded up to the record that wrote it last, so a file written later holds no less.
Without a log, nothing is written. -/
theorem recordAll_keeps (rig : Rig β) (s : Stage (Bench β)) (results : List CaseResult) :
    let files := (rig.recordAll results s).1
    let t := (rig.recordAll results s).2
    let recorded := s.world.recorded ++ results
    t.world.recorded = recorded ∧
    (rig.settings.log.enabled = true →
      (∀ next, match rig.record next t with
        | .ok () u => ∃ path, u.world.lastLog = some path ∧
            u.world.disk.HoldsResults path (recorded ++ [next])
        | .error _ u => u.world.lastLog = t.world.lastLog ∧ ∀ path content,
            t.world.disk.readBytes path = .ok content →
              u.world.disk.readBytes path = .ok content) ∧
      (∀ path, some path ∈ files → ∃ i < results.length, LastWrote files i path) ∧
      (∀ i path, LastWrote files i path →
        t.world.disk.HoldsResults path (s.world.recorded ++ results.take (i + 1))) ∧
      ∀ i j path path', i ≤ j → LastWrote files i path → LastWrote files j path' →
        ∃ held held', held <+: held' ∧ held' <+: recorded ∧
          t.world.disk.HoldsResults path held ∧ t.world.disk.HoldsResults path' held') ∧
    (rig.settings.log.enabled = false → t.world.disk = s.world.disk) := by
  intro files t recorded
  by_cases on : rig.settings.log.enabled = true
  · have all : t.world.recorded = recorded := recorded_recordAll on
    have held (i : Nat) (path : Path) (wrote : LastWrote files i path) :
        t.world.disk.HoldsResults path (s.world.recorded ++ results.take (i + 1)) :=
      Disk.holdsResults_of_readBytes (readBytes_of_lastWrote on wrote)
    refine ⟨all, fun _ ↦ ⟨fun next ↦ ?_, fun path wrote ↦ ?_, held, ?_⟩, fun off ↦ ?_⟩
    · have spec := ensures_record_saves on next t
      cases done : rig.record next t with
      | ok _ u =>
        obtain ⟨path, saved⟩ := spec.of_ok rfl done
        have written := saved.readBytes
        rw [saved.recorded, all] at written
        exact ⟨path, saved.lastLog, Disk.holdsResults_of_readBytes written⟩
      | error e u =>
        have refused := spec.of_error rfl done
        exact ⟨refused.lastLog, fun _ _ ↦ refused.readBytes⟩
    · rw [← length_recordAll on]
      exact exists_lastWrote wrote
    · intro i j path path' hij first second
      refine ⟨_, _, ?_, ?_, held i path first, held j path' second⟩
      · apply (List.prefix_append_right_inj _).mpr
        exact List.take_prefix_take_left (by omega)
      · apply (List.prefix_append_right_inj _).mpr
        exact List.take_prefix _ _
    · simp [on] at off
  · simp only [Bool.not_eq_true] at on
    have left : t.world = { s.world with recorded := recorded } := recordAll_off on
    refine ⟨by rw [left], fun off ↦ ?_, fun _ ↦ by rw [left]⟩
    simp [on] at off

/-- A rig with a clock that moves on by a second whenever it is read. -/
def ticking : Rig Rehearsal :=
  { settings := {}
    outside :=
      { Rehearsal.outside with now := fun r ↦ (r.now, { r with now := r.now.advance 1000000 }) } }

/-- A quarter past eight on an evening in July. -/
def evening : Moment :=
  { year := ⟨2026, by decide⟩, month := ⟨7, by decide⟩, day := ⟨1, by decide⟩
    hour := ⟨20, by decide⟩, minute := ⟨15, by decide⟩, second := ⟨0, by decide⟩
    micro := ⟨500, by decide⟩ }

/-- A stage with an empty working directory. -/
def eveningStage : Stage (Bench Rehearsal) :=
  { world :=
      { outside := { now := evening }
        disk := { workingDirectory := ["work"], entries := [(["work"], .directory)] } } }

/-- The result of a case without steps. -/
def idleResult : CaseResult :=
  { name := "Idle", status := .passed, startedAt := evening, finishedAt := evening }

/-- The result of a case that fails in its only step. -/
def lostResult : CaseResult :=
  let later := evening.advance 1500
  { name := "Lost", status := .failed, startedAt := evening, finishedAt := later
    steps :=
      [{ number := 1, action := "Open page", parameters := ["cart"], status := .failed
         startedAt := evening, finishedAt := later, error := some "gone" }]
    error := some "gone" }

/-- What is written after the second of the two. -/
def idleAndLost : String :=
  "\n".intercalate
    ["[",
      "  \x7b",
      "    \"testName\": \"Idle\",",
      "    \"steps\": [],",
      "    \"status\": \"passed\",",
      "    \"durationMs\": 0,",
      "    \"startedAt\": \"2026-07-01T20:15:00.000500\",",
      "    \"finishedAt\": \"2026-07-01T20:15:00.000500\",",
      "    \"error\": null",
      "  \x7d,",
      "  \x7b",
      "    \"testName\": \"Lost\",",
      "    \"steps\": [",
      "      \x7b",
      "        \"stepNumber\": 1,",
      "        \"action\": \"Open page\",",
      "        \"parameters\": [",
      "          \"cart\"",
      "        ],",
      "        \"status\": \"failed\",",
      "        \"startedAt\": \"2026-07-01T20:15:00.000500\",",
      "        \"finishedAt\": \"2026-07-01T20:15:00.002000\",",
      "        \"durationMs\": 1,",
      "        \"error\": \"gone\"",
      "      \x7d",
      "    ],",
      "    \"status\": \"failed\",",
      "    \"durationMs\": 1,",
      "    \"startedAt\": \"2026-07-01T20:15:00.000500\",",
      "    \"finishedAt\": \"2026-07-01T20:15:00.002000\",",
      "    \"error\": \"gone\"",
      "  \x7d",
      "]"]

private theorem lastWrote_pair {early late : Path} (apart : early ≠ late) :
    LastWrote [some early, some late] 0 early ∧ LastWrote [some early, some late] 1 late := by
  refine ⟨⟨rfl, fun j hj same ↦ ?_⟩, ⟨rfl, fun j hj same ↦ ?_⟩⟩
  · match j, hj with
    | 1, _ => exact apart (Option.some.inj (Option.some.inj same)).symm
  · match j, hj with
    | j + 2, _ => cases same

/-- Two results that are recorded a second apart leave two files: the earlier one holds the first
of them, the later one both. -/
theorem files_of_two_records :
    let run := ticking.recordAll [idleResult, lostResult] eveningStage
    ∃ early late, run.1 = [some early, some late] ∧ early ≠ late ∧
      run.2.world.disk.HoldsResults early [idleResult] ∧
      run.2.world.disk.HoldsResults late [idleResult, lostResult] ∧
      run.2.world.disk.readBytes late = .ok idleAndLost.toUTF8 ∧
      Json.read idleAndLost = .ok (.list [idleResult.toValue, lostResult.toValue]) := by
  intro run
  obtain ⟨-, on, -⟩ := recordAll_keeps ticking eveningStage [idleResult, lostResult]
  obtain ⟨-, -, held, -⟩ := on rfl
  let early : Path := .ofText "test-results/logs/logs-20260701-201500.json"
  let late : Path := .ofText "test-results/logs/logs-20260701-201501.json"
  have files : run.1 = [some early, some late] := by decide +kernel
  have apart : early ≠ late := by decide +kernel
  obtain ⟨first, second⟩ := lastWrote_pair apart
  rw [← files] at first second
  have one : run.2.world.disk.HoldsResults early [idleResult] := held 0 early first
  have both : run.2.world.disk.HoldsResults late [idleResult, lostResult] := held 1 late second
  refine ⟨early, late, files, apart, one, both, ?_⟩
  obtain ⟨text, bytes, written, reads⟩ := both
  have concrete : text = idleAndLost := by
    rw [written]
    decide +kernel
  have few : ∀ r ∈ [idleResult, lostResult], ∀ s ∈ r.steps, s.number.natAbs ≤ 1 := by decide
  rw [← concrete]
  exact ⟨bytes, reads fun r hr s hs ↦
    (few r hr s hs).trans_lt (Nat.one_lt_pow (by decide) (by decide))⟩

end Rig

end Playbook
