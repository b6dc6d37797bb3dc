import Mathlib.Logic.Relation
import Playbook.Proofs.Run.Lasting

/-!
# Times in sequence

Every time that a run tells is a reading of its clock, and the clock is read in the order in which
things happen. Whatever the crew, the recorder and the teardown do to the world in between
(`Crew.Next`), a clock that never goes back (`Crew.NeverGoesBack`) tells no time before one that was
told: the moments of all results, from the start of the first case to the end of the last, are in
order (`runCases_inSequence`). What carries the proof through a run is `Told`: the moments told so
far are in order, and no reading from now on is before any of them.
-/

namespace Playbook

open Script

variable {σ α : Type}

/-- Moments in the order of time. -/
instance : LE Moment := ⟨fun m n ↦ m.toMicros ≤ n.toMicros⟩

/-- When a step starts and when it finishes. -/
def StepResult.moments (r : StepResult) : List Moment := [r.startedAt, r.finishedAt]

/-- The moments of a case: it starts, its steps start and finish one after another, it finishes. -/
def CaseResult.moments (r : CaseResult) : List Moment :=
  r.startedAt :: r.steps.flatMap StepResult.moments ++ [r.finishedAt]

/-- The moments of the steps that a walk has taken. -/
def Walk.moments (w : Walk σ) : List Moment := w.steps.flatMap StepResult.moments

/-- The stage that a play leaves, however it ends. -/
def Play.left (p : Play σ α) (s : Stage σ) : Stage σ :=
  match p s with
  | .ok _ t | .error _ t => t

/-- What is left by a play holds where it goes through and where it fails. -/
theorem Play.keeps_of_left {P : Stage σ → Prop} {p : Play σ α} (h : ∀ s, P s → P (p.left s)) :
    Keeps P (fun _ ↦ P) p := by
  intro s hs
  have hl := h s hs
  unfold left at hl
  cases hp : p s with
  | ok a t => simpa only [hp] using hl
  | error e t => simpa only [hp] using hl

namespace Crew

variable (crew : Crew σ) (sink : Option (ResultSink σ)) (teardown : Option (Play σ Unit))

/-- What the world of a run comes to next: the clock is read, an action is performed, a predicate is
asked, a result is recorded or a session is torn down, on whatever stage. -/
inductive Next : σ → σ → Prop
  | read (w : σ) : Next w (crew.clock w).2
  | performed (action : String) (parameters : List String) (s : Stage σ) :
      Next s.world ((crew.perform action parameters).left s).world
  | asked {p : List Char × Predicate σ} (known : p ∈ crew.conditions.entries) (argument : String)
      (s : Stage σ) : Next s.world ((p.2 argument).left s).world
  | recorded {record : ResultSink σ} (given : record ∈ sink) (result : CaseResult)
      (s : Stage σ) : Next s.world ((record result).left s).world
  | tornDown {play : Play σ Unit} (given : play ∈ teardown) (s : Stage σ) :
      Next s.world (play.left s).world

/-- What the world of a run may come to. -/
abbrev Leads : σ → σ → Prop := Relation.ReflTransGen (crew.Next sink teardown)

/-- From a world on, the clock never goes back, whatever happens between two readings. -/
def NeverGoesBack (start : σ) : Prop :=
  ∀ w w', crew.Leads sink teardown start w → crew.Leads sink teardown (crew.clock w).2 w' →
    (crew.clock w).1 ≤ (crew.clock w').1

/-- A clock never goes back if what it tells grows with a measure of the world, and nothing that
happens makes the measure less. -/
theorem neverGoesBack_of_grows {crew : Crew σ} {sink : Option (ResultSink σ)}
    {teardown : Option (Play σ Unit)} (f : σ → Nat)
    (grows : ∀ w w', crew.Next sink teardown w w' → f w ≤ f w')
    (later : ∀ w w', f w ≤ f w' → (crew.clock w).1 ≤ (crew.clock w').1) (start : σ) :
    crew.NeverGoesBack sink teardown start := by
  intro w w' _ after
  apply later
  induction after with
  | refl => exact grows _ _ (.read w)
  | tail _ next ih => exact Nat.le_trans ih (grows _ _ next)

/-- Some moments were told, in order, by the time of a stage; no reading of the clock from then on
is before any of them. -/
structure Told (start : σ) (ms : List Moment) (s : Stage σ) : Prop where
  led : crew.Leads sink teardown start s.world
  ordered : ms.Pairwise (· ≤ ·)
  passed : ∀ m ∈ ms, ∀ w, crew.Leads sink teardown s.world w → m ≤ (crew.clock w).1

/-- The moments of a walk were told after some others. -/
def ToldIn (start : σ) (ms : List Moment) (w : Walk σ) : Prop :=
  crew.Told sink teardown start (ms ++ w.moments) w.stage

variable {crew sink teardown} {start : σ} {ms : List Moment} {s t : Stage σ}

namespace Told

/-- Nothing is told where a run starts. -/
theorem nothing (s : Stage σ) : crew.Told sink teardown s.world [] s :=
  ⟨.refl, .nil, nofun⟩

/-- What was told stays told while the world goes on. -/
theorem of_leads (h : crew.Told sink teardown start ms s)
    (leads : crew.Leads sink teardown s.world t.world) : crew.Told sink teardown start ms t :=
  ⟨h.led.trans leads, h.ordered, fun m hm w hw ↦ h.passed m hm w (leads.trans hw)⟩

private theorem of_next (h : crew.Told sink teardown start ms s)
    (next : crew.Next sink teardown s.world t.world) : crew.Told sink teardown start ms t :=
  h.of_leads (.single next)

/-- The variables and the log tell no time. -/
theorem of_world_eq (h : crew.Told sink teardown start ms s) (same : t.world = s.world) :
    crew.Told sink teardown start ms t :=
  h.of_leads (same ▸ .refl)

/-- Time may pass without being told. -/
theorem tick (h : crew.Told sink teardown start ms s) :
    crew.Told sink teardown start ms (s.ticked crew.clock) :=
  h.of_next (.read s.world)

/-- A reading of the clock is told after what was told before. -/
theorem read (h : crew.Told sink teardown start ms s)
    (forward : crew.NeverGoesBack sink teardown start) :
    crew.Told sink teardown start (ms ++ [s.time crew.clock]) (s.ticked crew.clock) := by
  refine ⟨h.tick.led, List.pairwise_append.mpr ⟨h.ordered, List.pairwise_singleton _ _, ?_⟩, ?_⟩
  · intro m hm n hn
    rw [List.mem_singleton.mp hn]
    exact h.passed m hm s.world .refl
  · intro m hm w hw
    obtain hm | hm := List.mem_append.mp hm
    · exact h.tick.passed m hm w hw
    · rw [List.mem_singleton.mp hm]
      exact forward s.world w h.led hw

/-- What a play does to the world takes time, and no more. -/
theorem keeps {p : Play σ α} (next : ∀ s, crew.Next sink teardown s.world (p.left s).world) :
    Keeps (crew.Told sink teardown start ms) (fun _ ↦ crew.Told sink teardown start ms) p :=
  Play.keeps_of_left fun s h ↦ h.of_next (next s)

end Told

/-! ### Through a case -/

private theorem keeps_performAction_told (forward : crew.NeverGoesBack sink teardown start)
    (text : Option String) (parameters : List (Option String)) :
    Keeps (crew.ToldIn sink teardown start ms) (fun _ ↦ crew.ToldIn sink teardown start ms)
      (crew.performAction text parameters) := by
  intro w hw
  have begun := Told.read hw forward
  have performed := Told.keeps (Next.performed (w.stage.environment.actionOf text)
    (w.stage.environment.parametersOf parameters)) _ begun
  have finished {s : Stage σ} (failure : Option Failure)
      (h : crew.Told sink teardown start (ms ++ w.moments ++ [w.stage.time crew.clock]) s) :
      crew.ToldIn sink teardown start ms (crew.afterStep text parameters w s failure) := by
    have told := h.read forward
    have moments : ms ++ (crew.afterStep text parameters w s failure).moments =
        ms ++ w.moments ++ [w.stage.time crew.clock] ++ [s.time crew.clock] := by
      simp [Walk.moments, afterStep, stepResult, StepResult.moments]
    rw [ToldIn, moments]
    exact told.of_world_eq rfl
  cases hr : crew.handOver text parameters w with
  | ok _ s =>
    rw [performAction_of_ok hr]
    rw [handOver] at hr
    rw [hr] at performed
    exact finished none performed
  | error e s =>
    rw [performAction_of_error hr]
    rw [handOver] at hr
    rw [hr] at performed
    exact finished (some e) performed

private theorem keeps_conditionHolds_told (condition : String) :
    Keeps (crew.ToldIn sink teardown start ms) (fun _ ↦ crew.ToldIn sink teardown start ms)
      (crew.conditionHolds condition) := by
  intro w hw
  have keeps : Keeps (crew.Told sink teardown start (ms ++ w.moments))
      (fun _ ↦ crew.Told sink teardown start (ms ++ w.moments))
      (crew.conditions.evaluate (w.stage.environment.substitute condition)) :=
    Registry.keeps_evaluate (fun p known argument ↦ Told.keeps (Next.asked known argument))
      (fun _ h _ _ _ ↦ h.of_world_eq rfl) _
  have evaluated := keeps w.stage hw
  rw [conditionHolds_eq]
  cases he : crew.conditions.evaluate (w.stage.environment.substitute condition) w.stage with
  | ok a s =>
    rw [he] at evaluated
    rw [Walking.ofPlay_of_ok he]
    exact evaluated
  | error e s =>
    rw [he] at evaluated
    rw [Walking.ofPlay_of_error he]
    exact evaluated

private theorem keep_moves_told (forward : crew.NeverGoesBack sink teardown start) :
    (crew.moves stray).Keep (crew.ToldIn sink teardown start ms)
      fun _ ↦ crew.ToldIn sink teardown start ms where
  act := keeps_performAction_told forward
  test := keeps_conditionHolds_told
  readHeader := loopHeader_keeps id
  bindItem _ _ _ h := Told.of_world_eq h rfl
  stray := stray_keeps id

/-- A case tells its moments after those that were told before it, wherever in its tree it ends. -/
theorem told_runCase (forward : crew.NeverGoesBack sink teardown start)
    (h : crew.Told sink teardown start ms s) (c : Case) :
    crew.Told sink teardown start (ms ++ (crew.runCase c s).1.moments) (crew.runCase c s).2 := by
  have opened : crew.ToldIn sink teardown start (ms ++ [s.time crew.clock])
      (Walk.opened crew.clock c.name s) := by
    have told := (h.read forward).tick
    rw [ToldIn, show (Walk.opened crew.clock c.name s).moments = [] from rfl, List.append_nil]
    exact told.of_world_eq rfl
  have walked : Keeps (crew.ToldIn sink teardown start (ms ++ [s.time crew.clock]))
      (fun _ ↦ crew.ToldIn sink teardown start (ms ++ [s.time crew.clock]))
      (crew.runSteps none c.steps) := by
    rw [runSteps, walkSteps_eq_moves]
    exact Moves.keeps_walkSteps (keep_moves_told forward) none c.steps
  have told := Walking.leaves_ending walked id opened
  rw [runCase, runWalk_eq]
  dsimp only
  generalize (crew.runSteps none c.steps).ending _ = ending at told ⊢
  obtain ⟨failure, w⟩ := ending
  obtain ⟨startedAt, finishedAt, steps, world⟩ :=
    closeCase_spec crew.clock c.name (openCase crew.clock c.name s).1 failure w w.stage
  have moments : ms ++ (closeCase crew.clock c.name (openCase crew.clock c.name s).1 failure w
      w.stage).1.moments = ms ++ [s.time crew.clock] ++ w.moments ++ [w.stage.time crew.clock] := by
    have began : (openCase crew.clock c.name s).1 = s.time crew.clock := rfl
    rw [CaseResult.moments, startedAt, finishedAt, steps, began]
    simp [Walk.moments]
  rw [moments]
  exact (Told.read told forward).of_world_eq world

/-! ### From case to case -/

/-- A run tells the moments of its cases one after another. -/
theorem told_runInTurn (forward : crew.NeverGoesBack sink teardown start) (cases : List Case)
    (kept : List CaseResult)
    (h : crew.Told sink teardown start (kept.flatMap CaseResult.moments) s) :
    crew.Told sink teardown start
      ((runInTurn crew.runCase sink teardown cases kept s).1.2.flatMap CaseResult.moments)
      (runInTurn crew.runCase sink teardown cases kept s).2 := by
  induction cases generalizing kept s with
  | nil => exact h
  | cons c cases ih =>
    have told : (kept ++ [(crew.runCase c s).1]).flatMap CaseResult.moments =
        kept.flatMap CaseResult.moments ++ (crew.runCase c s).1.moments := by simp
    have recorded : crew.Told sink teardown start
        ((kept ++ [(crew.runCase c s).1]).flatMap CaseResult.moments)
        (recordResult sink c (crew.runCase c s).1 (crew.runCase c s).2).2 := by
      rw [told]
      exact recordResult_keeps (fun record given result ↦ Told.keeps (Next.recorded given result))
        (fun h _ _ _ ↦ h.of_world_eq rfl) c _ (told_runCase forward h c)
    have tornDown := tearDown_keeps (fun play given ↦ Told.keeps (Next.tornDown given))
      (fun h _ _ _ ↦ h.of_world_eq rfl) c recorded
    rcases went : recordResult sink c (crew.runCase c s).1 (crew.runCase c s).2 with ⟨_ | _, t⟩
    · rw [runInTurn_cons_of_error _ _ went]
      rwa [went] at tornDown
    · rw [runInTurn_cons_of_ok _ _ went]
      rw [went] at tornDown
      exact ih _ tornDown

/-- Recorded times are sequential and nested. If the clock never goes back, the moments of a run are
in order: a case starts no later than its first step, a step finishes no later than the next one
starts, a case finishes no earlier than its last step and no later than the next case starts, also
where steps fail. -/
theorem runCases_inSequence (crew : Crew σ) (sink : Option (ResultSink σ))
    (teardown : Option (Play σ Unit)) (cases : List Case) (s : Stage σ)
    (forward : crew.NeverGoesBack sink teardown s.world) :
    ((crew.runCases sink teardown cases s).1.flatMap CaseResult.moments).Pairwise (· ≤ ·) :=
  (told_runInTurn forward cases [] (.nothing s)).ordered

end Crew

/-! ### A run that takes time -/

/-- The moment some microseconds after the start of a day's work, within its first second. -/
def dawn (micros : Nat) : Moment :=
  { year := ⟨2023, by decide⟩, month := ⟨6, by decide⟩, day := ⟨21, by decide⟩
    hour := ⟨4, by decide⟩, minute := ⟨7, by decide⟩, second := ⟨8, by decide⟩
    micro := ⟨min micros 999999, by omega⟩ }

/-- A crew that ages by a microsecond with every reading of the clock and by ten with every action,
and stumbles over some actions. -/
def agingCrew : Crew Nat :=
  { perform := fun action _ s =>
      let aged := { s with world := s.world + 10 }
      if action = "Stumble" then .error (.fault ⟨.browser, "Fell over"⟩) aged else .ok () aged
    clock := fun w => (dawn w, w + 1)
    conditions := {} }

/-- A report that takes a hundred microseconds and is refused by the disk. -/
def slowReport : Play Nat Unit := fun s =>
  .error (.fault ⟨.disk .general, "Out of order"⟩) { s with world := s.world + 100 }

private theorem dawn_le {m n : Nat} (h : m ≤ n) : dawn m ≤ dawn n := by
  have micro : min m 999999 ≤ min n 999999 := by omega
  exact Nat.add_le_add_left (Nat.add_le_add_left micro _) _

private theorem agingCrew_neverGoesBack (start : Nat) :
    agingCrew.NeverGoesBack (some fun _ => slowReport) (some slowReport) start := by
  have later (w w' : Nat) (le : w ≤ w') : (agingCrew.clock w).1 ≤ (agingCrew.clock w').1 :=
    dawn_le le
  refine Crew.neverGoesBack_of_grows id (fun w w' next ↦ ?_) later start
  cases next with
  | read => exact Nat.le_succ _
  | performed action parameters s =>
    by_cases h : action = "Stumble"
    · simp [agingCrew, Play.left, h]
    · simp [agingCrew, Play.left, h]
  | asked known => cases known
  | recorded given result s =>
    cases given
    exact Nat.le_add_right _ _
  | tornDown given s =>
    cases given
    exact Nat.le_add_right _ _

/-- The times of two cases, the first of which fails inside a conditional, are in order while time
passes in every action, record and teardown. -/
theorem inSequence_of_stumble :
    let cases : List Case :=
      [⟨"First", [.action "Walk" [], .ifBlock "ready" [.action "Stumble" []], .action "Walk" []]⟩,
        ⟨"Second", [.action "Walk" []]⟩]
    let report : ResultSink Nat := fun _ => slowReport
    let results := (agingCrew.runCases (some report) (some slowReport) cases { world := 0 }).1
    agingCrew.NeverGoesBack (some report) (some slowReport) 0 ∧
      (results.flatMap CaseResult.moments).map (·.micro.val) =
        [0, 2, 13, 14, 25, 26, 227, 229, 240, 241] ∧
      (results.flatMap CaseResult.moments).Pairwise (· ≤ ·) := by
  intro cases report results
  refine ⟨agingCrew_neverGoesBack 0, by decide +kernel, ?_⟩
  exact agingCrew.runCases_inSequence (some report) (some slowReport) cases { world := 0 }
    (agingCrew_neverGoesBack 0)

end Playbook
