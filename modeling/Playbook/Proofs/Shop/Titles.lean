import Playbook.Proofs.Run.Lasting
import Playbook.Proofs.Shop.Keeping
import Playbook.Proofs.Shop.OneBrowser

/-!
# The title that a condition sees

A condition about the page title does not ask the browser. It sees a variable, and what is in the
variable is the title that was read after the last action that went through and had a title to
tell, in whichever case that was (`runCases_testsLastTitle`). Closing the session after a case
leaves the variable alone, so a condition may see a title of the case before
(`title_outlives_case`).

To tell what is read and tested, and in which order, notes are taken beside the world of a run.
Without the notes it is the run itself (`agree_notedRun`).
-/

namespace Playbook

open Browser Script

/-- What is noted of titles in a run. -/
inductive TitleNote where
  /-- A test case starts. -/
  | opened
  /-- An action went through, and a title was read after it. -/
  | read (title : String)
  /-- A condition is tested on a title. -/
  | tested (title : String)
  /-- A variable is bound by a loop, or may be by an action. -/
  | named (name : String)
  deriving DecidableEq

/-- The title that was read. -/
def TitleNote.title? : TitleNote → Option String
  | .read title => some title
  | _ => none

/-- The last title that was read, or the empty text if there was none. -/
def lastTitle (notes : List TitleNote) : String :=
  (notes.filterMap TitleNote.title?).getLast?.getD ""

/-- What was noted since the last test case started. -/
def sinceOpened (notes : List TitleNote) : List TitleNote :=
  (notes.reverse.takeWhile (· ≠ .opened)).reverse

/-- As long as nothing else is bound under the name of the title, conditions are tested on what
`title` tells from the notes before. -/
def TestsOn (title : List TitleNote → String) (notes : List TitleNote) : Prop :=
  ∀ before tested after, notes = before ++ .tested tested :: after →
    .named "pageTitle" ∉ before → tested = title before

/-- The title that conditions see. -/
def shownTitle (e : Environment) : String :=
  match e.get? "pageTitle" with
  | some v => if v.holds then v.display else ""
  | none => ""

/-- The title that was bound is seen. -/
theorem shownTitle_set (e : Environment) (title : String) :
    shownTitle (e.set "pageTitle" (.text title)) = title := by
  rw [shownTitle, Environment.get?_set_self]
  change (if (!title.isEmpty) = true then title else "") = title
  cases h : title.isEmpty with
  | true => exact (String.isEmpty_iff.mp h).symm
  | false => rfl

/-- Other variables do not change the title that is seen. -/
theorem shownTitle_set_of_ne (e : Environment) {name : String} (v : Value)
    (h : name ≠ "pageTitle") : shownTitle (e.set name v) = shownTitle e := by
  rw [shownTitle, shownTitle, Environment.get?_set_of_ne e v h.symm]

/-! ### Taking notes -/

/-- A world with notes of titles beside it. -/
structure Noted (σ : Type) where
  world : σ
  notes : List TitleNote

variable {σ α : Type}

namespace Stage

/-- The stage with notes beside its world. -/
def noted (notes : List TitleNote) (s : Stage σ) : Stage (Noted σ) :=
  ⟨s.environment, s.log, ⟨s.world, notes⟩⟩

/-- The stage without its notes. -/
def bare (s : Stage (Noted σ)) : Stage σ := ⟨s.environment, s.log, s.world.world⟩

/-- The notes of a stage. -/
def notes (s : Stage (Noted σ)) : List TitleNote := s.world.notes

end Stage

/-- A play beside whose world there are notes. -/
def Play.besideNotes (p : Play σ α) : Play (Noted σ) α := fun s =>
  match p s.bare with
  | .ok a t => .ok a (t.noted s.notes)
  | .error e t => .error e (t.noted s.notes)

/-- Take notes. -/
def Routine.note (more : List TitleNote) : Routine (Noted σ) Unit :=
  modify fun s => s.bare.noted (s.notes ++ more)

/-- The predicate that tests the title that is seen, which is noted. -/
def notedTitleContains : Predicate (Noted σ) := fun argument => do
  let title := shownTitle (← get).environment
  (Routine.note [.tested title]).toPlay
  return Text.occursIn (argument.toList.filter (· != '"')) title.toList

/-- The registry whose conditions all test the title and note it. -/
def Registry.noting (r : Registry σ) : Registry (Noted σ) :=
  ⟨r.entries.map fun p => (p.1, notedTitleContains)⟩

namespace Crew

variable (crew : Crew (Noted σ))

/-- The moves of a crew, with the variables noted that loops bind. -/
def notingMoves : Moves (Noted σ) :=
  { act := crew.performAction
    test := crew.conditionHolds
    readHeader := loopHeader
    bindItem := fun name item => do
      Walking.ofRoutine (Routine.note [.named name])
      Walking.ofRoutine (Routine.bindVariable name (.text item))
    stray := stray }

/-- Run a test case, with its start and the variables noted that loops bind. -/
def notingCase (c : Case) : Routine (Noted σ) CaseResult := do
  Routine.note [.opened]
  runWalk crew.clock c.name (crew.notingMoves.walkSteps none c.steps)

end Crew

namespace Shop

variable {β : Type}

/-- Perform an action text and note what it may bind and the title read after it. -/
def notedPerform (rig : Rig β) : Performer (Noted (Bench β)) := fun action parameters => do
  (Routine.note ((namesOf action parameters).map .named)).toPlay
  if let some title ← (performReading rig action parameters).besideNotes then
    Play.bindVariable "pageTitle" (.text title)
    (Routine.note [.read title]).toPlay

/-- The crew that takes notes. -/
def notedCrew (rig : Rig β) : Crew (Noted (Bench β)) :=
  { perform := notedPerform rig
    clock := fun w => ((rig.clock w.world).1, { w with world := (rig.clock w.world).2 })
    conditions := (Registry.standard : Registry (Bench β)).noting }

/-- Run test cases in order, each in a session that is closed after it, and take notes. -/
def notedRun (rig : Rig β) (sink : Option (ResultSink (Bench β))) (cases : List Case) :
    Routine (Noted (Bench β)) (List CaseResult) := do
  let (_, kept) ← (runInTurn (notedCrew rig).notingCase
    (sink.map fun record result => (record result).besideNotes)
    (some rig.close.toPlay.besideNotes) cases).run.run []
  return kept

end Shop

/-! ### Forgetting the notes -/

/-- A stage is another one without its notes. -/
def IsBare (s : Stage σ) (t : Stage (Noted σ)) : Prop := s = t.bare

/-- Notes beside the world do not change a play. -/
theorem agree_besideNotes (p : Play σ α) : Agree IsBare p p.besideNotes := by
  rintro _ t rfl
  unfold Play.besideNotes
  cases h : p t.bare with
  | ok a s => exact .inl ⟨a, s, _, rfl, rfl, rfl⟩
  | error e s => exact .inr ⟨e, s, _, rfl, rfl, rfl⟩

private theorem agree_titleNote (more : List TitleNote) {x : Play σ α} {y : Play (Noted σ) α}
    (h : Agree IsBare x y) : Agree IsBare x (do (Routine.note more).toPlay; y) :=
  fun s t hs ↦ h s (t.bare.noted (t.notes ++ more)) hs

private theorem keepsReports_isBare : KeepsReports (IsBare (σ := σ)) := by
  rintro _ t rfl level source text
  rfl

section

variable {crew : Crew σ} {crew' : Crew (Noted σ)}

/-- Noting the variables that loops bind changes no move. -/
theorem related_notingMoves (sim : Crew.Simulates IsBare crew crew') :
    Moves.Related (fun x y ↦ Agree (Walk.Related IsBare) x y) (crew.moves Crew.stray)
      crew'.notingMoves :=
  { sim.related_moves with
    bindItem := fun name item w v hw ↦ sim.agree_bindItem name item w
      { v with stage := v.stage.bare.noted (v.stage.notes ++ [.named name]) }
      ⟨hw.stage, hw.steps, hw.status⟩ }

/-- Without its notes, a case with notes is the case itself. -/
theorem agree_notingCase (sim : Crew.Simulates IsBare crew crew') (c : Case) :
    RoutinesAgree IsBare (crew.runCase c) (crew'.notingCase c) := by
  intro s t hs
  refine sim.agree_runWalk ?_ c.name s (t.bare.noted (t.notes ++ [.opened])) hs
  rw [Crew.runSteps, Crew.walkSteps_eq_moves]
  exact Moves.related_walkSteps (Agree.sequential _) (related_notingMoves sim) none c.steps

end

namespace Shop

variable {β : Type} (rig : Rig β)

/-- Performing and taking notes is performing. -/
theorem agree_notedPerform (action : String) (parameters : List String) :
    Agree IsBare (perform rig action parameters) (notedPerform rig action parameters) := by
  rw [perform_eq]
  refine agree_titleNote _ (.bind (agree_besideNotes _) fun title ↦ ?_)
  cases title with
  | none => exact .pure ()
  | some title =>
    rintro _ t rfl
    exact .inl ⟨(), _, _, rfl, rfl, rfl⟩

/-- The crew that takes notes does the same as the crew that takes none. -/
theorem simulates_notedCrew : Crew.Simulates IsBare (crew rig .standard) (notedCrew rig) where
  environment h := congrArg Stage.environment h
  logged := keepsReports_isBare
  bound := by
    rintro _ t rfl name v
    rfl
  time := by
    rintro _ t rfl
    rfl
  ticked := by
    rintro _ t rfl
    rfl
  perform := agree_notedPerform rig
  conditions := by
    refine List.forall₂_map_right_iff.mpr (List.forall₂_same.mpr fun p hp ↦ ⟨rfl, ?_⟩)
    intro argument
    rw [Registry.eq_of_mem_standard hp]
    rintro _ t rfl
    exact .inl ⟨_, _, _, rfl, rfl, rfl⟩

/-- Without its notes, a run with notes is the run itself. -/
theorem agree_notedRun (sink : Option (ResultSink (Bench β))) (cases : List Case) :
    RoutinesAgree IsBare ((crew rig .standard).runCases sink (some rig.close.toPlay) cases)
      (notedRun rig sink cases) := by
  have recorded (c : Case) (result : CaseResult) :
      RoutinesAgree IsBare (recordResult sink c result)
        (recordResult (sink.map fun record result => (record result).besideNotes) c result) := by
    cases sink with
    | none => exact fun _ _ h ↦ ⟨rfl, h⟩
    | some record =>
      exact agree_recordResult keepsReports_isBare (fun _ ↦ agree_besideNotes _) c result
  have all := agree_runInTurn (agree_notingCase (simulates_notedCrew rig)) recorded
    (agree_tearDown keepsReports_isBare (agree_besideNotes rig.close.toPlay)) cases []
  intro s t hs
  obtain ⟨results, stage⟩ := all s t hs
  exact ⟨congrArg Prod.snd results, stage⟩

end Shop

/-! ### What is tested -/

private theorem lastTitle_append {notes : List TitleNote} {n : TitleNote} (h : n.title? = none) :
    lastTitle (notes ++ [n]) = lastTitle notes := by
  simp only [lastTitle, List.filterMap_append, List.filterMap_cons, h, List.filterMap_nil,
    List.append_nil]

private theorem lastTitle_read (notes : List TitleNote) (title : String) :
    lastTitle (notes ++ [.read title]) = title := by
  simp only [lastTitle, List.filterMap_append, List.filterMap_cons, TitleNote.title?,
    List.filterMap_nil, List.getLast?_concat, Option.getD_some]

-- One more note is in order if it is no test, or a test on what is told from the notes so far.
private theorem TestsOn.note {title : List TitleNote → String} {notes : List TitleNote}
    (h : TestsOn title notes) {n : TitleNote}
    (hn : ∀ tested, n = .tested tested → .named "pageTitle" ∉ notes → tested = title notes) :
    TestsOn title (notes ++ [n]) := by
  intro before tested after heq hclean
  rcases List.eq_nil_or_concat after with rfl | ⟨more, last, rfl⟩
  · obtain ⟨rfl, hl⟩ := List.append_inj' heq rfl
    exact hn tested (List.cons.inj hl).1 hclean
  · rw [List.concat_eq_append, ← List.cons_append, ← List.append_assoc] at heq
    obtain ⟨rfl, _⟩ := List.append_inj' heq rfl
    exact h before tested more rfl hclean

/-- Conditions were tested on the last title, and the next one would be. -/
private structure ShowsLast (s : Stage (Noted σ)) : Prop where
  tests : TestsOn lastTitle s.notes
  shown : .named "pageTitle" ∉ s.notes → shownTitle s.environment = lastTitle s.notes

namespace ShowsLast

variable {s : Stage (Noted σ)}

private theorem note (h : ShowsLast s) {n : TitleNote} (ht : n.title? = none)
    (hn : ∀ tested, n ≠ .tested tested) : ShowsLast (s.bare.noted (s.notes ++ [n])) where
  tests := h.tests.note fun tested he ↦ absurd he (hn tested)
  shown hc := (h.shown fun hm ↦ hc (List.mem_append_left _ hm)).trans (lastTitle_append ht).symm

private theorem test (h : ShowsLast s) :
    ShowsLast (s.bare.noted (s.notes ++ [.tested (shownTitle s.environment)])) where
  tests := h.tests.note fun _ he hc ↦ TitleNote.tested.inj he ▸ h.shown hc
  shown hc := (h.shown fun hm ↦ hc (List.mem_append_left _ hm)).trans (lastTitle_append rfl).symm

private theorem read (h : ShowsLast s) (title : String) :
    ShowsLast ((s.bound "pageTitle" (.text title)).bare.noted (s.notes ++ [.read title])) where
  tests := h.tests.note fun _ he ↦ nomatch he
  shown _ := (shownTitle_set _ _).trans (lastTitle_read _ _).symm

private theorem bound (h : ShowsLast s) {name : String} (hm : .named name ∈ s.notes) (v : Value) :
    ShowsLast (s.bound name v) where
  tests := h.tests
  shown hc := (shownTitle_set_of_ne _ v fun he ↦ hc (he ▸ hm)).trans (h.shown hc)

private theorem of_same (h : ShowsLast s) {t : Stage (Noted σ)} (notes : t.notes = s.notes)
    (environment : t.environment = s.environment) : ShowsLast t := by
  refine ⟨notes ▸ h.tests, fun hc ↦ ?_⟩
  rw [environment, notes]
  exact h.shown (notes ▸ hc)

private theorem named (h : ShowsLast s) (names : List String) :
    ShowsLast (s.bare.noted (s.notes ++ names.map .named)) := by
  induction names using List.reverseRecOn with
  | nil => exact h.of_same (List.append_nil _) rfl
  | append_singleton names name ih =>
    rw [List.map_append, ← List.append_assoc]
    exact ih.note rfl nofun

private theorem eq_of_mem_noting {r : Registry σ} {p : List Char × Predicate (Noted σ)}
    (h : p ∈ r.noting.entries) : p.2 = notedTitleContains := by
  obtain ⟨q, -, rfl⟩ := List.mem_map.mp h
  rfl

private theorem keeps_besideNotes {p : Play σ α}
    (h : ∀ e, Keeps (fun t ↦ t.environment = e) (fun _ t ↦ t.environment = e) p) :
    Keeps (ShowsLast (σ := σ)) (fun _ ↦ ShowsLast) p.besideNotes := by
  intro s hs
  have kept := h s.environment s.bare rfl
  unfold Play.besideNotes
  cases hp : p s.bare with
  | ok a t =>
    rw [hp] at kept
    exact hs.of_same rfl kept
  | error e t =>
    rw [hp] at kept
    exact hs.of_same rfl kept

private theorem notingCase {crew : Crew (Noted σ)} (endures : Endures crew.clock ShowsLast)
    (performed : ∀ action parameters,
      Keeps ShowsLast (fun _ ↦ ShowsLast) (crew.perform action parameters))
    (tested : ∀ p ∈ crew.conditions.entries, ∀ argument,
      Keeps ShowsLast (fun _ ↦ ShowsLast) (p.2 argument)) (c : Case) (h : ShowsLast s) :
    ShowsLast (crew.notingCase c s).2 := by
  have moves : crew.notingMoves.Keep (fun w ↦ ShowsLast w.stage) fun _ w ↦ ShowsLast w.stage :=
    { act := performAction_keeps endures endures performed
      test := Crew.keeps_conditionHolds tested fun _ h ↦ endures.logged h
      readHeader := loopHeader_keeps id
      bindItem := fun name item w h ↦
        (h.named [name]).bound (List.mem_append_right _ List.mem_cons_self) _
      stray := stray_keeps id }
  have opened : ShowsLast (s.bare.noted (s.notes ++ [.opened])) := h.note rfl nofun
  exact runWalk_keeps endures endures id (Moves.keeps_walkSteps moves none c.steps) c.name opened

end ShowsLast

namespace Shop

variable {β : Type} (rig : Rig β)

private theorem endures_showsLast : Endures (notedCrew rig).clock ShowsLast :=
  ⟨fun h ↦ h.of_same rfl rfl, fun h _ _ _ ↦ h.of_same rfl rfl⟩

private theorem spares_showsLast (notes : List TitleNote) :
    rig.Spares fun s ↦ ShowsLast (s.noted notes) :=
  .of_called (fun _ ↦ Rig.call_keeps fun h _ ↦ h.of_same rfl rfl) (fun h ↦ h.of_same rfl rfl)
    (fun h _ _ _ ↦ h.of_same rfl rfl) (fun h _ ↦ h.of_same rfl rfl)
    fun _ ↦ Rig.onDisk_keeps (fun h _ ↦ h.of_same rfl rfl) _

private theorem keeps_notedPerform (action : String) (parameters : List String) :
    Keeps ShowsLast (fun _ ↦ ShowsLast) (notedPerform rig action parameters) := by
  have noted : Ensures ShowsLast (Routine.note ((namesOf action parameters).map .named)).toPlay
      (fun _ (s : Stage (Noted (Bench β))) ↦
        ShowsLast s ∧ ∀ name ∈ namesOf action parameters, .named name ∈ s.notes)
      (fun _ ↦ ShowsLast) :=
    fun s h ↦ ⟨h.named _, fun name hm ↦ List.mem_append_right _ (List.mem_map_of_mem hm)⟩
  have read : Ensures
      (fun s ↦ ShowsLast s ∧ ∀ name ∈ namesOf action parameters, .named name ∈ s.notes)
      (performReading rig action parameters).besideNotes (fun _ ↦ ShowsLast)
      (fun _ ↦ ShowsLast) := by
    rintro s ⟨hs, hm⟩
    have kept := (spares_showsLast rig s.notes).performReading action parameters
      (fun name hn _ ht v ↦ ht.bound (hm name hn) v) s.bare hs
    unfold Play.besideNotes
    cases hp : performReading rig action parameters s.bare with
    | ok a t =>
      rw [hp] at kept
      exact kept
    | error e t =>
      rw [hp] at kept
      exact kept
  refine noted.bind fun _ ↦ read.bind fun title ↦ ?_
  cases title with
  | none => exact fun _ hs ↦ hs
  | some title => exact fun _ hs ↦ hs.read title

private theorem keeps_tests : ∀ p ∈ (notedCrew rig).conditions.entries, ∀ argument,
    Keeps ShowsLast (fun _ ↦ ShowsLast) (p.2 argument) := by
  intro p hp argument
  rw [ShowsLast.eq_of_mem_noting hp]
  exact fun _ h ↦ h.test

/-- In a run whose cases are torn down by closing the session, every condition about the title is
tested on the title that was read after the last action that went through and had one to tell, in
whichever case that was; before the first it is tested on the empty text. -/
theorem runCases_testsLastTitle (sink : Option (ResultSink (Bench β)))
    (spared : ∀ record ∈ sink, ∀ result e,
      Keeps (fun s ↦ s.environment = e) (fun _ s ↦ s.environment = e) (record result))
    (cases : List Case) (s : Stage (Bench β)) (empty : s.environment = .empty) :
    let run := notedRun rig sink cases (s.noted [])
    let plain := (crew rig .standard).runCases sink (some rig.close.toPlay) cases s
    run.1 = plain.1 ∧ run.2.bare = plain.2 ∧ TestsOn lastTitle run.2.notes := by
  obtain ⟨results, stage⟩ := agree_notedRun rig sink cases s (s.noted []) rfl
  refine ⟨results.symm, stage.symm, ?_⟩
  have start : ShowsLast (s.noted []) := by
    refine ⟨?_, fun _ ↦ ?_⟩
    · rintro (_ | ⟨_, _⟩) _ _ ⟨⟩
    · change shownTitle s.environment = _
      rw [empty]
      rfl
  have closed : ∀ e, Keeps (fun t ↦ t.environment = e) (fun _ t ↦ t.environment = e)
      rig.close.toPlay := fun e ↦ (rig.spares_environment e).close
  refine (runInTurn_keeps (P := ShowsLast) ?_ ?_ ?_ cases [] start).tests
  · intro c t ht
    exact ht.notingCase (endures_showsLast rig) (keeps_notedPerform rig) (keeps_tests rig) c
  · intro c result t ht
    refine recordResult_keeps ?_ (endures_showsLast rig).logged c result ht
    intro record hr result
    obtain ⟨inner, hi, rfl⟩ := Option.map_eq_some_iff.mp hr
    exact ShowsLast.keeps_besideNotes (spared inner hi result)
  · intro c t ht
    refine tearDown_keeps ?_ (endures_showsLast rig).logged c ht
    rintro _ ⟨⟩
    exact ShowsLast.keeps_besideNotes closed

/-- Recording a result leaves the variables as they are. -/
theorem record_keeps_environment (result : CaseResult) (e : Environment) :
    Keeps (fun s ↦ s.environment = e) (fun _ s ↦ s.environment = e) (rig.record result) :=
  Rig.record_keeps (fun h ↦ h) (fun h _ _ _ ↦ h) (fun w ↦ Rig.onDisk_keeps (fun h _ ↦ h) w)
    (fun h _ _ ↦ h) result

/-! ### A title that outlives its case -/

/-- A stage on which pages have a title. -/
def titledStage : Stage (Bench Rehearsal) :=
  { world := { outside := { plan := { scene := { title := some "Swag Labs" } }, now := default } } }

/-- A case that opens a page, and one that opens another if the title is the right one. -/
def titledCases : List Case :=
  [⟨"First", [.action "Open page" ["/"]]⟩,
    ⟨"Second", [.ifBlock "page title contains \"Swag\"" [.action "Open page" ["/cart"]]]⟩]

/-- The notes of these cases. -/
def titledNotes : List TitleNote :=
  (notedRun rehearsedRig (some rehearsedRig.record) titledCases (titledStage.noted [])).2.notes

private theorem titledNotes_eq : titledNotes =
    [.opened, .read "Swag Labs", .opened, .tested "Swag Labs", .read "Swag Labs"] := by
  decide +kernel

/-- The condition of the second case is tested on the title that the first one read. -/
theorem testsLastTitle_of_titledCases :
    (∀ record ∈ some rehearsedRig.record, ∀ result e,
        Keeps (fun s ↦ s.environment = e) (fun _ s ↦ s.environment = e) (record result)) ∧
      titledStage.environment = .empty ∧
      titledNotes = [.opened, .read "Swag Labs", .opened, .tested "Swag Labs", .read "Swag Labs"] ∧
      TestsOn lastTitle titledNotes := by
  have spared : ∀ record ∈ some rehearsedRig.record, ∀ result e,
      Keeps (fun s ↦ s.environment = e) (fun _ s ↦ s.environment = e) (record result) := by
    intro record hr
    cases hr
    exact record_keeps_environment rehearsedRig
  exact ⟨spared, rfl, titledNotes_eq,
    (runCases_testsLastTitle rehearsedRig _ spared titledCases titledStage rfl).2.2⟩

/-- No title was read in the second case when its condition is tested, and yet it is tested on
one. -/
theorem title_outlives_case :
    titledStage.environment = .empty ∧ .named "pageTitle" ∉ titledNotes ∧
      ¬TestsOn (fun before ↦ lastTitle (sinceOpened before)) titledNotes := by
  rw [titledNotes_eq]
  refine ⟨rfl, by decide, fun h ↦ ?_⟩
  have tested := h [.opened, .read "Swag Labs", .opened] _ _ rfl (by decide)
  revert tested
  decide

end Shop

end Playbook
