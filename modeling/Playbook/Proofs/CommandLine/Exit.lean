import Playbook.Browser.Rehearsal
import Playbook.Proofs.Browser.Session
import Playbook.Proofs.CommandLine.LogFile
import Playbook.Proofs.Run.Isolation

/-!
# How the program ends

Every script is read before anything is run. When loading ends with an error that the program
reports, or when there is no case, the program ends with 2 and has done nothing; otherwise every
case of every script was run once and in order, and the program ends with 0 when all of them passed
and with 1 when one did not (`start_exit`). What is not reported escapes
(`start_reports_or_escapes`).
-/

namespace Playbook

open Browser Script

/-- Every result of a run tells that its case passed or that it failed. -/
theorem Crew.Unfolds.status {σ : Type} {crew : Crew σ} {cases : List Case}
    {results : List CaseResult} {events : List Event}
    (unfolds : crew.Unfolds cases results events) :
    ∀ r ∈ results, r.status = Status.passed ∨ r.status = Status.failed := by
  induction unfolds with
  | done => nofun
  | next _ told _ ih =>
    refine List.forall_mem_cons.mpr ⟨?_, ih⟩
    rw [told.status]
    split
    · exact .inr rfl
    · exact .inl rfl

namespace CommandLine

variable {β : Type} {switches : Settings.Switches} {outside : Outside β} {a : Arguments}

/-! ### Proceeding -/

/-- Loading ends with an error that the program reports, or there is no case in any script. -/
inductive NothingToRun (switches : Settings.Switches) (d : Disk) (a : Arguments) : Prop
  | refused {e : InputError} (raises : Raises switches d a e) (reported : e.Reported)
  | empty {settings : Settings} {scripts : List Path} {parts : List (List Case)}
      (loaded : Loaded switches d a settings scripts parts) (none : parts.flatten = [])

/-- What is not reported escapes. -/
theorem proceed_of_not_reported {s : Stage (Bench β)} {e : InputError}
    (raises : Raises switches s.world.disk a e) (silent : ¬e.Reported) :
    (proceed switches outside a s).ending = .unusable e := by
  unfold proceed
  simp only [prepare_error.mpr raises, InputError.report?_of_not_reported silent]

/-- When there is nothing to run, the program ends with 2, and nothing is done. -/
theorem proceed_of_nothingToRun (outside : Outside β) {s : Stage (Bench β)}
    (nothing : NothingToRun switches s.world.disk a) :
    (proceed switches outside a s).ending = .exit 2 ∧
      (proceed switches outside a s).stage.world = s.world := by
  cases nothing with
  | refused raises reported =>
    obtain ⟨message, told⟩ := reported.exists_report?
    unfold proceed
    simp only [prepare_error.mpr raises, told]
    exact ⟨rfl, rfl⟩
  | empty loaded none =>
    unfold proceed
    simp only [loaded.prepare_eq, none, List.isEmpty_nil, if_true]
    exact ⟨rfl, rfl⟩

/-- When there is a case, the program runs all cases. -/
theorem proceed_of_loaded {s : Stage (Bench β)} {settings : Settings} {scripts : List Path}
    {parts : List (List Case)} (loaded : Loaded switches s.world.disk a settings scripts parts)
    (some : parts.flatten ≠ []) :
    proceed switches outside a s =
      carryOut outside a ⟨a.adjust settings, scripts, parts.flatten⟩
        { s with log := s.log ++ (prepare switches s.world.disk a).log } := by
  unfold proceed
  simp only [loaded.prepare_eq, List.isEmpty_iff, some, if_false]

/-- Cases were run one after another, on a stage that this led to another stage: once each and in
order, as the journal of the run tells. -/
structure AllRun (rig : Rig β) (cases : List Case) (s t : Stage (Bench β))
    (results : List CaseResult) : Prop where
  run : (Shop.crew rig .standard).runAll (some rig.record) (some rig.close.toPlay) cases s =
    .ok results t
  unfolds : (Shop.crew rig .standard).Unfolds cases results
    ((Shop.crew rig .standard).watchInTurn rig.record rig.close.toPlay cases []
      (s.watched [])).2.journal

/-- A run of cases that goes through runs all of them. -/
theorem allRun_of_runAll {rig : Rig β} {cases : List Case} {s t : Stage (Bench β)}
    {results : List CaseResult}
    (run : (Shop.crew rig .standard).runAll (some rig.record) (some rig.close.toPlay) cases s =
      .ok results t) : AllRun rig cases s t results := by
  refine ⟨run, ?_⟩
  let crew := Shop.crew rig .standard
  obtain ⟨kept, went⟩ := Crew.runAll_eq_ok_iff.mp run
  let watched := crew.watchInTurn rig.record rig.close.toPlay cases [] (s.watched [])
  have same :=
    crew.agree_runInTurn_watched rig.record rig.close.toPlay cases [] s (s.watched []) rfl
  have told : watched = ((.ok results, kept), watched.2) :=
    Prod.ext (same.1.symm.trans (congrArg Prod.fst went)) rfl
  obtain ⟨events, journal, unfolds⟩ :=
    crew.unfolds_watchInTurn rig.record rig.close.toPlay cases [] (s.watched []) told
  have journal : watched.2.journal = events := journal
  rw [journal]
  exact unfolds

private theorem offline_reportOn (rig : Rig β) (a : Arguments) (results : List CaseResult) :
    Rig.Offline (reportOn rig a results) := by
  unfold reportOn
  split
  · exact .pure _
  · refine .bind (.bind (Rig.offline_onDisk _) fun _ ↦ .bind Rig.offline_now fun _ ↦ ?_) fun _ ↦
      .pure _
    exact Rig.offline_onDisk _

/-- Cases that are run to the end are all run, then their results are reported, and the code tells
whether all of them passed. -/
theorem carryOut_exit {order : Order} {s : Stage (Bench β)} {code : Nat}
    (ended : (carryOut outside a order s).ending = .exit code) :
    ∃ s' t results told, s'.world = s.world ∧ s'.environment = s.environment ∧
      AllRun { settings := order.settings, outside } order.cases s' t results ∧
      reportOn { settings := order.settings, outside } a results t =
        .ok told (carryOut outside a order s).stage ∧
      (carryOut outside a order s).output = Summary.render results ++ told ∧
      code = if results.all CaseResult.hasPassed then 0 else 1 := by
  let rig : Rig β := { settings := order.settings, outside }
  let s' : Stage (Bench β) := (Routine.report .info .commandLine
    ("Running " ++ toString order.cases.length ++ " test case(s) from " ++
      toString order.scripts.length ++ " script(s)") s).2
  have started : runOrder rig order s =
      (Shop.crew rig .standard).runAll (some rig.record) (some rig.close.toPlay) order.cases s' :=
    bind_of_ok _ rfl
  unfold carryOut at ended ⊢
  dsimp only at ended ⊢
  split at ended
  next => cases ended
  next results t went =>
    split at ended
    next told stage reported =>
      cases ended
      have ran := allRun_of_runAll (started.symm.trans went)
      exact ⟨s', t, results, told, rfl, rfl, ran, reported, rfl, rfl⟩
    next => cases ended

/-- When the program ends with a code although there is something to run, it has run all cases. -/
theorem proceed_exit {s : Stage (Bench β)} {code : Nat}
    (something : ¬NothingToRun switches s.world.disk a)
    (ended : (proceed switches outside a s).ending = .exit code) :
    ∃ settings scripts parts s' t results,
      Loaded switches s.world.disk a settings scripts parts ∧
        s'.world = s.world ∧ s'.environment = s.environment ∧
        AllRun { settings := a.adjust settings, outside } parts.flatten s' t results ∧
        (proceed switches outside a s).stage.world.exchanges = t.world.exchanges ∧
        code = if results.all CaseResult.hasPassed then 0 else 1 := by
  cases prepared : (prepare switches s.world.disk a).outcome with
  | error e =>
    have raises := prepare_error.mp prepared
    have silent : ¬e.Reported := fun reported ↦ something (.refused raises reported)
    cases (proceed_of_not_reported raises silent).symm.trans ended
  | ok order =>
    obtain ⟨settings, parts, loaded, -, -⟩ := prepare_ok.mp prepared
    have some : parts.flatten ≠ [] := fun none ↦ something (.empty loaded none)
    rw [proceed_of_loaded loaded some] at ended ⊢
    obtain ⟨s', t, results, _, world, environment, allRun, reported, -, told⟩ :=
      carryOut_exit ended
    have exchanges := ((offline_reportOn _ a results _ _).of_ok ⟨rfl, rfl⟩ reported).1
    exact ⟨settings, _, parts, s', t, results, loaded, world, environment, allRun, exchanges, told⟩

private theorem code_iff {crew : Crew (Bench β)} {cases : List Case} {results : List CaseResult}
    {events : List Event} (unfolds : crew.Unfolds cases results events) {code : Nat}
    (told : code = if results.all CaseResult.hasPassed then 0 else 1) :
    code ≠ 2 ∧ (code = 0 ↔ ∀ r ∈ results, r.status = Status.passed) ∧
      (code = 1 ↔ ∃ r ∈ results, r.status = Status.failed) := by
  have passed : results.all CaseResult.hasPassed = true ↔
      ∀ r ∈ results, r.status = Status.passed := by
    simp only [List.all_eq_true, CaseResult.hasPassed, beq_iff_eq]
  by_cases all : ∀ r ∈ results, r.status = Status.passed
  · rw [if_pos (passed.mpr all)] at told
    subst told
    refine ⟨nofun, ⟨fun _ ↦ all, fun _ ↦ rfl⟩, nofun, ?_⟩
    rintro ⟨r, hr, failed⟩
    exact absurd ((all r hr).symm.trans failed) (by decide)
  · rw [if_neg fun h ↦ all (passed.mp h)] at told
    subst told
    refine ⟨nofun, ⟨nofun, fun h ↦ absurd h all⟩, fun _ ↦ ?_, fun _ ↦ rfl⟩
    obtain ⟨r, hr, hp⟩ : ∃ r ∈ results, r.status ≠ Status.passed := by
      simpa only [not_forall, exists_prop] using all
    exact ⟨r, hr, (unfolds.status r hr).resolve_left hp⟩

/-! ### From the command line -/

/-- The program goes on once its log is ready. -/
theorem start_of_openLog (switches : Settings.Switches) (outside : Outside β)
    {written : List String} {bench : Bench β} {ready : Stage (Bench β)}
    (asked : Request.read written = .ok (.run a))
    (opened : openLog { world := bench } = .ok () ready) :
    (start switches outside written bench).ending = (proceed switches outside a ready).ending ∧
      (start switches outside written bench).stage.world =
        (proceed switches outside a ready).stage.world := by
  simp only [start, asked, run, opened]
  exact ⟨rfl, rfl⟩

/-- A bench with files in the working directory. -/
def benchWith (files : List (String × ByteArray)) : Bench Rehearsal :=
  { outside := { now := default }
    disk :=
      { workingDirectory := ["work"]
        entries := (["work"], .directory) :: files.map fun f => (["work", f.1], .file f.2) } }

/-- When the program ends with a code, the code tells what was done. With 2 nothing was: loading
ended with an error that is reported, or there was no case, and everything is as it was once the
program's own log was ready. Otherwise all scripts were read, the cases of all of them were run once
each, script after script and in the order of each script, and the code is 0 when all of them passed
and 1 when one failed. -/
theorem start_exit (switches : Settings.Switches) (outside : Outside β) (written : List String)
    (a : Arguments) (asked : Request.read written = .ok (.run a)) (bench : Bench β) (code : Nat)
    (ended : (start switches outside written bench).ending = .exit code) :
    let left := (start switches outside written bench).stage.world
    ∃ d, LogOnly bench.disk d ∧
      (code = 2 ↔ NothingToRun switches d a) ∧
      (code = 2 → left = { bench with disk := d }) ∧
      (code ≠ 2 → ∃ settings scripts parts s t results,
        Loaded switches d a settings scripts parts ∧
        s.world = { bench with disk := d } ∧ s.environment = .empty ∧
        AllRun { settings := a.adjust settings, outside } parts.flatten s t results ∧
        left.exchanges = t.world.exchanges ∧
        (code = 0 ↔ ∀ r ∈ results, r.status = Status.passed) ∧
        (code = 1 ↔ ∃ r ∈ results, r.status = Status.failed)) := by
  intro left
  cases opened : openLog { world := bench } with
  | error f s =>
    simp only [start, asked, run, opened, Outcome.quieted, reduceCtorEq] at ended
  | ok _ ready =>
    obtain ⟨same, logOnly⟩ := openLog_spec opened
    have world : ready.world = { bench with disk := ready.world.disk } :=
      congrArg Stage.world same
    obtain ⟨went, stayed⟩ := start_of_openLog switches outside asked opened
    rw [went] at ended
    refine ⟨ready.world.disk, logOnly, ?_⟩
    by_cases nothing : NothingToRun switches ready.world.disk a
    · obtain ⟨two, untouched⟩ := proceed_of_nothingToRun outside nothing
      obtain rfl : 2 = code := Ending.exit.inj (two.symm.trans ended)
      exact ⟨⟨fun _ ↦ nothing, fun _ ↦ rfl⟩, fun _ ↦ stayed.trans (untouched.trans world),
        fun h ↦ absurd rfl h⟩
    · obtain ⟨settings, scripts, parts, s, t, results, loaded, kept, environment, allRun,
        calls, told⟩ := proceed_exit nothing ended
      obtain ⟨notTwo, zero, one⟩ := code_iff allRun.unfolds told
      refine ⟨⟨fun two ↦ absurd two notTwo, fun h ↦ absurd h nothing⟩,
        fun two ↦ absurd two notTwo, fun _ ↦ ?_⟩
      refine ⟨settings, scripts, parts, s, t, results, loaded, kept.trans world, ?_, allRun, ?_,
        zero, one⟩
      · rw [environment, same]
      · exact (congrArg Bench.exchanges stayed).trans calls

/-- The code of an ending that has one. -/
def Ending.exitCode? : Ending → Option Nat
  | .exit code => some code
  | _ => none

/-- An ending that has a code is an exit with it. -/
theorem Ending.eq_exit {ending : Ending} {code : Nat} (h : ending.exitCode? = some code) :
    ending = .exit code := by
  cases ending with
  | exit => exact congrArg _ (Option.some.inj h)
  | unusable | failure => cases h

/-- A bench with two scripts of one case each: one step goes through, and one is not given the
address that it needs. -/
def twoScripts : Bench Rehearsal :=
  benchWith
    [("first.feature", "Test: First\nEnter username \"ada\"\n".toUTF8),
      ("second.txt", "Test: Second\nOpen page\n".toUTF8)]

/-- Of two scripts the one that is named first is run first. Its case fails, the case of the other
passes, and the program ends with 1. -/
theorem exit_of_two_scripts :
    let a : Arguments := { paths := ["second.txt", "first.feature"] }
    let o := start {} Rehearsal.outside ["second.txt", "first.feature"] twoScripts
    Request.read ["second.txt", "first.feature"] = .ok (.run a) ∧ o.ending = .exit 1 ∧
      (o.stage.world.recorded.map fun r ↦ (r.name, r.status)) =
        [("Second", Status.failed), ("First", Status.passed)] ∧
      ∃ d settings scripts parts s t results, LogOnly twoScripts.disk d ∧
        Loaded {} d a settings scripts parts ∧
        AllRun { settings := a.adjust settings, outside := Rehearsal.outside } parts.flatten s t
          results ∧
        ∃ r ∈ results, r.status = Status.failed := by
  intro a o
  have asked : Request.read ["second.txt", "first.feature"] = .ok (.run a) := by decide +kernel
  have went : o.ending.exitCode? = some 1 ∧
      (o.stage.world.recorded.map fun r ↦ (r.name, r.status)) =
        [("Second", Status.failed), ("First", Status.passed)] := by
    decide +kernel
  have ended : o.ending = .exit 1 := Ending.eq_exit went.1
  obtain ⟨d, logOnly, -, -, more⟩ := start_exit {} Rehearsal.outside
    ["second.txt", "first.feature"] a asked twoScripts 1 ended
  obtain ⟨settings, scripts, parts, s, t, results, loaded, -, -, allRun, -, -, one⟩ := more nofun
  exact ⟨asked, ended, went.2, d, settings, scripts, parts, s, t, results, logOnly, loaded, allRun,
    one.mp rfl⟩

end CommandLine

end Playbook
