import Playbook.Proofs.CommandLine.Exit
import Playbook.Proofs.Run.Entries
import Playbook.Proofs.Run.Telling
import Playbook.Proofs.Shop.Records

/-!
# What the program tells of a run

The results of a run are told four times: by the result log, by the summary that is printed, by the
report if one is asked for, and by the code that the program ends with. All four tell of the same
results, those of the cases in the order in which they were run (`start_outputs`). Only a report
that is written to the very file of the result log leaves no log (`log_overwritten_by_report`).
-/

namespace Playbook

/-- A run has one result a case. -/
theorem Crew.Unfolds.length_eq {σ : Type} {crew : Crew σ} {cases : List Script.Case}
    {results : List CaseResult} {events : List Event}
    (unfolds : crew.Unfolds cases results events) : results.length = cases.length := by
  induction unfolds with
  | done => rfl
  | next _ _ _ ih => rw [List.length_cons, List.length_cons, ih]

namespace CommandLine

open Browser Rig Script

variable {β : Type} {a : Arguments} {rig : Rig β} {results : List CaseResult}

/-- The report that is asked for. -/
def Arguments.report? (a : Arguments) : Option String := a.report.filter fun p ↦ !p.isEmpty

/-- On the disk, the report that is asked for is in the place of a file. -/
def TakesPlace (a : Arguments) (d : Disk) (path : Path) : Prop :=
  ∃ written l, a.report? = some written ∧ d.reach path = .ok l ∧
    d.reach (.ofText written) = .ok l

/-- What reporting leaves behind when it goes through: nothing but the report, if one is asked for,
and what is told about it. -/
structure Reported (a : Arguments) (results : List CaseResult) (told : String) (b b' : Bench β) :
    Prop where
  lastLog : b'.lastLog = b.lastLog
  files : ∀ path content, b.disk.readBytes path = .ok content →
    b'.disk.readBytes path = .ok content ∨ TakesPlace a b'.disk path
  told : told = match a.report? with
    | some written => "Report: " ++ (Path.ofText written).text ++ "\n"
    | none => ""
  report : ∀ written ∈ a.report?, ∃ generatedAt,
    b'.disk.readBytes (.ofText written) = .ok (Report.render results generatedAt).toUTF8

private theorem reported_of_ok {told : String} {s t : Stage (Bench β)}
    (h : reportOn rig a results s = .ok told t) :
    t.log = s.log ∧ Reported a results told s.world t.world := by
  unfold reportOn at h
  cases asked : a.report? with
  | none =>
    rw [show a.report.filter (fun p => !p.isEmpty) = none from asked] at h
    cases h
    exact ⟨rfl, rfl, fun _ _ held ↦ .inl held, by rw [asked], by rw [asked]; nofun⟩
  | some written =>
    rw [show a.report.filter (fun p => !p.isEmpty) = some written from asked] at h
    obtain ⟨_, t', reported, ended⟩ := exists_of_bind_ok h
    cases ended
    obtain ⟨_, s₁, made, reported⟩ := exists_of_bind_ok reported
    obtain ⟨d, grown, rfl⟩ := exists_of_onDisk_ok made
    obtain ⟨generatedAt, s₂, read, reported⟩ := exists_of_bind_ok reported
    cases read
    obtain ⟨d', put, rfl⟩ := exists_of_onDisk_ok reported
    refine ⟨rfl, rfl, fun path content held ↦ ?_, by rw [asked], ?_⟩
    · have still := ((Disk.adds_ensureDirectories _).of_ok grown).readBytes held
      by_cases apart : ∀ l, d'.reach path = .ok l → d'.reach (.ofText written) ≠ .ok l
      · exact .inl (Disk.readBytes_of_elsewhere put still apart)
      · simp only [not_forall, not_not] at apart
        obtain ⟨l, there, same⟩ := apart
        exact .inr ⟨written, l, asked, there, same⟩
    · rw [asked]
      rintro _ ⟨⟩
      exact ⟨_, Disk.readBytes_of_writeBytes put⟩

/-- The result log that was written last holds the results, unless the report is in its place. -/
def LogTells (a : Arguments) (results : List CaseResult) (left : Bench β) : Prop :=
  ∃ path, left.lastLog = some path ∧
    (left.disk.HoldsResults path results ∨ TakesPlace a left.disk path)

-- Unless a refusal to record is reported, a recorder that had nothing has the results of the cases
-- that were run, and if logs are written the last one holds what it has.
private theorem AllRun.recorded {cases : List Case} {s t : Stage (Bench β)}
    (allRun : AllRun rig cases s t results) (fresh : s.world.recorded = [])
    (unrefused : ∀ e ∈ t.log, ¬e.TellsRefusal) :
    t.world.recorded = results ∧
      (rig.settings.log.enabled → cases ≠ [] → Logged t.world) := by
  obtain ⟨kept, went⟩ := Crew.runAll_eq_ok_iff.mp allRun.run
  obtain ⟨has, logged⟩ := recorded_runInTurn rig cases [] went unrefused
  rw [fresh] at has
  exact ⟨has, fun enabled nonempty ↦ logged enabled (.inl nonempty)⟩

private theorem carryOut_outputs {outside : Outside β} {order : Order} {s : Stage (Bench β)}
    {code : Nat} (fresh : s.world.recorded = []) (nonempty : order.cases ≠ [])
    (ended : (carryOut outside a order s).ending = .exit code)
    (unrefused : ∀ e ∈ (carryOut outside a order s).stage.log, ¬e.TellsRefusal) :
    let o := carryOut outside a order s
    ∃ s' t results told, s'.world = s.world ∧ s'.environment = s.environment ∧
      AllRun { settings := order.settings, outside } order.cases s' t results ∧
      Reported a results told t.world o.stage.world ∧
      o.output = Summary.render results ++ told ∧
      (order.settings.log.enabled → LogTells a results o.stage.world) ∧
      code = if results.all CaseResult.hasPassed then 0 else 1 := by
  intro o
  obtain ⟨s', t, results, told, world, environment, allRun, done, output, code_eq⟩ :=
    carryOut_exit ended
  obtain ⟨log, reported⟩ := reported_of_ok done
  rw [log] at unrefused
  have fresh' : s'.world.recorded = [] := (congrArg Bench.recorded world).trans fresh
  obtain ⟨recorded, logged⟩ := allRun.recorded fresh' unrefused
  refine ⟨s', t, results, told, world, environment, allRun, reported, output, fun enabled ↦ ?_,
    code_eq⟩
  obtain ⟨path, last, held⟩ : Logged t.world := logged enabled nonempty
  rw [recorded] at held
  exact ⟨path, reported.lastLog.trans last,
    (reported.files path _ held).imp_left Disk.holdsResults_of_readBytes⟩

private theorem proceed_of_exit {switches : Settings.Switches} {outside : Outside β}
    {s : Stage (Bench β)} {code : Nat} (ran : code ≠ 2)
    (ended : (proceed switches outside a s).ending = .exit code) :
    ∃ settings scripts parts, Loaded switches s.world.disk a settings scripts parts ∧
      parts.flatten ≠ [] ∧
      proceed switches outside a s =
        carryOut outside a ⟨a.adjust settings, scripts, parts.flatten⟩
          { s with log := s.log ++ (prepare switches s.world.disk a).log } := by
  have something : ¬NothingToRun switches s.world.disk a := by
    intro nothing
    exact ran (Ending.exit.inj ((proceed_of_nothingToRun outside nothing).1.symm.trans ended)).symm
  obtain ⟨settings, scripts, parts, -, -, -, loaded, -⟩ := proceed_exit something ended
  have some : parts.flatten ≠ [] := fun none ↦ something (.empty loaded none)
  exact ⟨settings, scripts, parts, loaded, some, proceed_of_loaded loaded some⟩

private theorem all_hasPassed_iff {results : List CaseResult} :
    results.all CaseResult.hasPassed = true ↔ passedCount results = results.length := by
  rw [passedCount, List.countP_eq_length, List.all_eq_true, hasPassed_eq]

private theorem xor_of_told {status : Status}
    (told : status = Status.passed ∨ status = Status.failed) :
    Xor (status = Status.passed) (status = Status.failed) := by
  obtain rfl | rfl := told
  · exact .inl ⟨rfl, by decide⟩
  · exact .inr ⟨rfl, by decide⟩

private theorem start_told (switches : Settings.Switches) (outside : Outside β)
    (written : List String) (asked : Request.read written = .ok (.run a)) (bench : Bench β)
    (fresh : bench.recorded = []) (code : Nat)
    (ended : (start switches outside written bench).ending = .exit code) (ran : code ≠ 2)
    (unrefused : ∀ e ∈ (start switches outside written bench).stage.log, ¬e.TellsRefusal) :
    let o := start switches outside written bench
    ∃ d settings scripts parts s t results told,
      Loaded switches d a settings scripts parts ∧
      s.world = { bench with disk := d } ∧ s.environment = .empty ∧
      AllRun { settings := a.adjust settings, outside } parts.flatten s t results ∧
      Reported a results told t.world o.stage.world ∧
      o.output = Summary.render results ++ told ∧
      ((a.adjust settings).log.enabled → LogTells a results o.stage.world) ∧
      code = if results.all CaseResult.hasPassed then 0 else 1 := by
  intro o
  cases opened : openLog { world := bench } with
  | error f s =>
    simp only [start, asked, run, opened, Outcome.quieted, reduceCtorEq] at ended
  | ok _ ready =>
    obtain ⟨same, -⟩ := openLog_spec opened
    have world : ready.world = { bench with disk := ready.world.disk } := congrArg Stage.world same
    have went : o = Outcome.quieted a (proceed switches outside a ready) := by
      simp only [o, start, asked, run, opened]
    change o.ending = _ at ended
    change ∀ e ∈ o.stage.log, _ at unrefused
    rw [went] at ended unrefused ⊢
    obtain ⟨settings, scripts, parts, loaded, nonempty, proceeded⟩ := proceed_of_exit ran ended
    change (proceed switches outside a ready).ending = _ at ended
    rw [proceeded] at ended unrefused ⊢
    -- an error is shown whatever is asked for, so no refusal was left out of the log
    have unrefused' : ∀ e ∈ (carryOut outside a ⟨a.adjust settings, scripts, parts.flatten⟩
        { ready with
          log := ready.log ++ (prepare switches ready.world.disk a).log }).stage.log,
        ¬e.TellsRefusal := by
      intro e he refusal
      refine unrefused e (List.mem_filter.mpr ⟨he, ?_⟩) refusal
      rw [LogEntry.isShown, refusal.1]
      exact Bool.or_true a.debug
    obtain ⟨s, t, results, told, kept, environment, allRun, reported, output, logged, code_eq⟩ :=
      carryOut_outputs (by rw [world, fresh]) nonempty ended unrefused'
    exact ⟨ready.world.disk, settings, scripts, parts, s, t, results, told, loaded,
      kept.trans world, by rw [environment, same], allRun, reported, output, logged, code_eq⟩

/-- When cases are run and no refusal to record is reported, what the program tells agrees: the
result log that was written last holds the results of all cases in order, unless the report was
written in its place; the summary tells of every result in turn and how many passed; the report
that is asked for tells of the same; and the code is 0 when as many passed as were run. -/
theorem start_outputs (switches : Settings.Switches) (outside : Outside β) (written : List String)
    (a : Arguments) (asked : Request.read written = .ok (.run a)) (bench : Bench β)
    (fresh : bench.recorded = []) (code : Nat)
    (ended : (start switches outside written bench).ending = .exit code) (ran : code ≠ 2)
    (unrefused : ∀ e ∈ (start switches outside written bench).stage.log, ¬e.TellsRefusal) :
    let o := start switches outside written bench
    ∃ d settings scripts parts s t results told,
      Loaded switches d a settings scripts parts ∧
      s.world = { bench with disk := d } ∧ s.environment = .empty ∧
      AllRun { settings := a.adjust settings, outside } parts.flatten s t results ∧
      results.length = parts.flatten.length ∧
      (∀ r ∈ results, Xor (r.status = Status.passed) (r.status = Status.failed)) ∧
      ((a.adjust settings).log.enabled → LogTells a results o.stage.world) ∧
      (∃ summary, SummaryTells results summary ∧ o.output = summary ++ told) ∧
      (a.report? = none → told = "") ∧
      (∀ path ∈ a.report?, told = "Report: " ++ (Path.ofText path).text ++ "\n" ∧
        ∃ report, ReportTells results report ∧
          o.stage.world.disk.readBytes (.ofText path) = .ok report.toUTF8) ∧
      (code = 0 ↔ passedCount results = results.length) := by
  intro o
  obtain ⟨d, settings, scripts, parts, s, t, results, told, loaded, world, environment, allRun,
    reported, output, logged, code_eq⟩ := start_told switches outside written asked bench fresh
    code ended ran unrefused
  have status := allRun.unfolds.status
  refine ⟨d, settings, scripts, parts, s, t, results, told, loaded, world, environment, allRun,
    allRun.unfolds.length_eq, fun r hr ↦ xor_of_told (status r hr), logged,
    ⟨_, summaryTells_render results, output⟩, fun none ↦ ?_, fun path asked ↦ ⟨?_, ?_⟩, ?_⟩
  · rw [reported.told, none]
  · rw [reported.told, Option.mem_def.mp asked]
  · obtain ⟨generatedAt, held⟩ := reported.report path asked
    exact ⟨_, reportTells_render status generatedAt, held⟩
  · rw [code_eq, ← all_hasPassed_iff]
    by_cases all : results.all CaseResult.hasPassed
    · rw [if_pos all]
      exact ⟨fun _ ↦ all, fun _ ↦ rfl⟩
    · rw [if_neg all]
      exact ⟨nofun, fun h ↦ absurd h all⟩

/-- A bench with a script of two cases, of which the second fails. -/
def mixedScript : Bench Rehearsal :=
  benchWith [("a.feature", "Test: Idle\nTest: Lost\nOpen page\n".toUTF8)]

/-- A command line that asks for a report. -/
def askingForReport : List String := ["--report", "report.md", "a.feature"]

/-- One of two cases fails: the program ends with 1, and everything that it tells agrees on it. -/
theorem outputs_of_mixedScript :
    let a : Arguments := { paths := ["a.feature"], report := some "report.md" }
    let o := start {} Rehearsal.outside askingForReport mixedScript
    Request.read askingForReport = .ok (.run a) ∧ mixedScript.recorded = [] ∧
      o.ending = .exit 1 ∧ (∀ e ∈ o.stage.log, ¬e.TellsRefusal) ∧
      ∃ (settings : Settings) (results : List CaseResult) (summary report : String),
        ((a.adjust settings).log.enabled → LogTells a results o.stage.world) ∧
        SummaryTells results summary ∧ o.output = summary ++ "Report: report.md\n" ∧
        ReportTells results report ∧
        o.stage.world.disk.readBytes (.ofText "report.md") = .ok report.toUTF8 ∧
        passedCount results ≠ results.length := by
  intro a o
  have asked : Request.read askingForReport = .ok (.run a) := by decide +kernel
  have went : o.ending.exitCode? = some 1 ∧ ∀ e ∈ o.stage.log, ¬e.TellsRefusal := by
    decide +kernel
  have ended : o.ending = .exit 1 := Ending.eq_exit went.1
  obtain ⟨_, settings, _, _, _, _, results, told, -, -, -, -, -, -, logged,
    ⟨summary, tells, output⟩, -, reported, code⟩ :=
    start_outputs {} Rehearsal.outside askingForReport a asked mixedScript rfl 1 ended (by decide)
      went.2
  obtain ⟨told_eq, report, reports, held⟩ := reported "report.md" rfl
  have named : told = "Report: report.md\n" := told_eq.trans (by decide)
  refine ⟨asked, rfl, ended, went.2, settings, results, summary, report, logged, tells,
    named ▸ output, reports, held, fun all ↦ ?_⟩
  cases code.mpr all

-- A report is no result log: it starts with a hash, and a log with a bracket.
private theorem render_ne_logText (results results' : List CaseResult) (generatedAt : Moment) :
    Report.render results generatedAt ≠ logText results' := by
  have hash : (Report.render results generatedAt).toList.head? = some '#' := by
    unfold Report.render
    simp [String.toList_append]
  have bracket : (logText results').toList.head? = some '[' := by
    unfold logText Json.indented Json.indentedAt Json.block
    dsimp only
    split
    · rfl
    · simp [String.toList_append]
  intro same
  rw [same, bracket] at hash
  exact absurd hash (by decide)

private theorem exists_lastLog {left : Bench β} {p : Path} {content : ByteArray}
    (last : left.lastLog.isSome)
    (same : (left.lastLog.bind fun path ↦ (left.disk.reach path).toOption) =
      (left.disk.reach p).toOption)
    (held : left.disk.readBytes p = .ok content) :
    ∃ path, left.lastLog = some path ∧ left.disk.readBytes path = .ok content := by
  obtain ⟨path, last⟩ := Option.isSome_iff_exists.mp last
  obtain ⟨l, reached, there⟩ := Disk.readBytes_ok_iff.mp held
  refine ⟨path, last, Disk.readBytes_ok_iff.mpr ⟨l, ?_, there⟩⟩
  rw [last, reached, Option.bind_some] at same
  cases leads : left.disk.reach path with
  | error f =>
    rw [leads] at same
    cases same
  | ok k =>
    rw [leads] at same
    cases same
    rfl

/-- A command line that asks for a report in the file of the result log. -/
def overwriting : List String :=
  ["--report", "test-results/logs/logs-10101-000000.json", "a.feature"]

/-- Asked to write the report to the file of the result log, the program does so: nothing is
refused, and the file that the log was written to holds no log. -/
theorem log_overwritten_by_report :
    let o := start {} Rehearsal.outside overwriting mixedScript
    o.ending = .exit 1 ∧ (∀ e ∈ o.stage.log, ¬e.TellsRefusal) ∧
      ∃ path content, o.stage.world.lastLog = some path ∧
        o.stage.world.disk.readBytes path = .ok content ∧
        ∀ results : List CaseResult,
          content ≠ (Json.indented (.list (results.map CaseResult.toValue))).toUTF8 := by
  intro o
  let name := "test-results/logs/logs-10101-000000.json"
  have asked : Request.read overwriting =
      .ok (.run { paths := ["a.feature"], report := some name }) := by
    decide +kernel
  have went : o.ending.exitCode? = some 1 ∧ (∀ e ∈ o.stage.log, ¬e.TellsRefusal) ∧
      o.stage.world.lastLog.isSome ∧
      (o.stage.world.lastLog.bind fun path ↦ (o.stage.world.disk.reach path).toOption) =
        (o.stage.world.disk.reach (.ofText name)).toOption := by
    decide +kernel
  obtain ⟨ended, unrefused, last, same⟩ := went
  have ended : o.ending = .exit 1 := Ending.eq_exit ended
  obtain ⟨_, _, _, _, _, _, results, _, -, -, -, -, reported, -⟩ :=
    start_told {} Rehearsal.outside overwriting asked mixedScript rfl 1 ended (by decide) unrefused
  obtain ⟨generatedAt, held⟩ := reported.report name rfl
  obtain ⟨path, last, held⟩ := exists_lastLog last same held
  refine ⟨ended, unrefused, path, _, last, held, fun results' h ↦ ?_⟩
  exact render_ne_logText results results' generatedAt (String.toByteArray_inj.mp h)

end CommandLine

end Playbook
