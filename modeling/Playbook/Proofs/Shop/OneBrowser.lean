import Mathlib.Data.List.Induction
import Playbook.Browser.Rehearsal
import Playbook.Proofs.Browser.Closing
import Playbook.Proofs.Run.Lasting
import Playbook.Proofs.Shop.Orderly
import Playbook.Run.Recorder

/-!
# A browser for each case

In a run whose cases are torn down by closing the session, every case has a browser of its own,
whatever the browser refuses and wherever: it is started once at most, everything that was obtained
is closed before the next case begins, and the next case does not touch it
(`runCases_oneBrowser`).
-/

namespace Playbook.Shop

open Browser Rig Script

variable {β : Type} {rig : Rig β} {conditions : Registry (Bench β)} {before : List Exchange}

/-! ### What makes no calls -/

/-- The predicates that are always known make no calls. -/
theorem offline_standard :
    ∀ p ∈ (Registry.standard : Registry (Bench β)).entries, ∀ argument, Offline (p.2 argument) := by
  intro p hp argument
  rw [Registry.eq_of_mem_standard hp]
  exact fun _ _ _ h ↦ h

private theorem offline_writeLog (path : Path) : Offline (writeLog path : Play (Bench β) Unit) := by
  refine .bind (offline_onDisk _) fun _ ↦ .bind (p := get) (fun _ _ _ h ↦ h) fun s ↦ ?_
  exact .bind (offline_onDisk _) fun _ ↦ .bind (offline_report _ _ _) fun _ _ _ _ h ↦ h

private theorem offline_saveLog (stamp : Option String) : Offline (rig.saveLog stamp) := by
  have written (stamp : String) : Offline (β := β) (do
      writeLog (rig.logPath stamp)
      return rig.logPath stamp) :=
    .bind (offline_writeLog _) fun _ ↦ .pure _
  unfold saveLog
  split
  · exact .bind (.pure _) written
  · exact .bind offline_now fun _ ↦ .bind (.pure _) written

/-- Recording a result makes no calls. -/
theorem offline_record (rig : Rig β) (result : CaseResult) : Offline (rig.record result) := by
  have steps (told : List StepResult) : Offline (β := β)
      (told.forM fun s => Play.report .info .recorder (timingLine s)) := by
    induction told with
    | nil => exact .pure ()
    | cons r told ih => exact .bind (offline_report _ _ _) fun _ ↦ ih
  have timing : Offline (β := β) (reportTiming result) :=
    .bind (offline_report _ _ _) fun _ ↦ steps result.steps
  refine .bind (p := modify _) (fun _ _ _ h ↦ h) fun _ ↦ ?_
  dsimp only
  split
  · exact .bind (offline_saveLog none) fun _ ↦ timing
  · exact timing

/-! ### What a case does to a session -/

private theorem upholds_going : (crew rig conditions).Upholds (Going before) where
  ticked h := h
  logged h _ _ _ := h
  bound h _ _ := h

private theorem upholds_brokenOff : (crew rig conditions).Upholds (BrokenOff before) where
  ticked h := h
  logged h _ _ _ := h
  bound h _ _ := h

/-- A crew keeps a session going until it breaks off. -/
theorem maintains_session
    (offline : ∀ p ∈ conditions.entries, ∀ argument, Offline (p.2 argument)) :
    (crew rig conditions).Maintains (Going before) (BrokenOff before) where
  going := upholds_going
  gone := upholds_brokenOff
  weaker := fun ⟨_, opening, _⟩ ↦ opening.brokenOff
  perform := ensures_perform
  conditions p hp argument :=
    .of_exists fun _ ↦ .of_and (ensures_going fun _ ↦ (offline p hp argument).orderly)

private theorem going_of_closed {s : Stage (Bench β)} (closed : s.world.opened = {}) :
    Going s.world.exchanges s :=
  ⟨{}, ⟨[], (List.append_nil _).symm, by rw [closed]; rfl, .nil _⟩, .inl rfl, rfl⟩

private theorem brokenOff_recordResult {sink : Option (ResultSink (Bench β))}
    (offline : ∀ record ∈ sink, ∀ result, Offline (record result)) (c : Case)
    (result : CaseResult) {s : Stage (Bench β)} (h : BrokenOff before s) :
    BrokenOff before (recordResult sink c result s).2 := by
  obtain ⟨made, exchanges, held⟩ := h
  have kept : Stands (before ++ made) s.world.opened.bare (recordResult sink c result s).2 :=
    recordResult_keeps (fun record hr result ↦ offline record hr result _ _)
      (fun h _ _ _ ↦ h) c result ⟨exchanges, rfl⟩
  exact ⟨made, kept.1, kept.2 ▸ held⟩

/-- A case, its record and its teardown begin and end without anything open, and have a browser of
their own. -/
theorem oneBrowser_of_case (rig : Rig β)
    (conditionsOffline : ∀ p ∈ conditions.entries, ∀ argument, Offline (p.2 argument))
    {sink : Option (ResultSink (Bench β))}
    (sinkOffline : ∀ record ∈ sink, ∀ result, Offline (record result)) (c : Case)
    {s : Stage (Bench β)} (closed : s.world.opened = {}) :
    let ran := (crew rig conditions).runCase c s
    let left := (tearDown (some rig.close.toPlay) c (recordResult sink c ran.1 ran.2).2).2.world
    ∃ made, left.exchanges = s.world.exchanges ++ made ∧
      OneBrowser s.world.exchanges.length made ∧ left.opened = {} := by
  intro ran
  have broken : BrokenOff s.world.exchanges ran.2 :=
    (maintains_session conditionsOffline).runCase c (going_of_closed closed)
  have recorded := brokenOff_recordResult sinkOffline c ran.1 broken
  exact oneBrowser_of_close rig recorded

/-! ### What a run of cases does -/

/-- Nothing is open after cases that are torn down by closing the session. -/
theorem closed_runInTurn (rig : Rig β) (run : Case → Routine (Bench β) CaseResult)
    (sink : Option (ResultSink (Bench β))) (cases : List Case) (kept : List CaseResult)
    {s : Stage (Bench β)} (closed : s.world.opened = {}) :
    (runInTurn run sink (some rig.close.toPlay) cases kept s).2.world.opened = {} := by
  induction cases generalizing kept s with
  | nil => exact closed
  | cons c cases ih =>
    rcases recorded : recordResult sink c (run c s).1 (run c s).2 with ⟨_ | _, t⟩
    · rw [runInTurn_cons_of_error _ _ recorded]
      rfl
    · rw [runInTurn_cons_of_ok _ _ recorded]
      exact ih _ rfl

/-- Every case of a run has a browser of its own, whatever the browser refuses. Once a case is over
nothing is open; and among the calls that are made after the cases before it and before the next
one, a driver is started and a browser launched once at most, each is made on something that was
obtained in the same case, and whatever was obtained is closed by a later one. -/
theorem runCases_oneBrowser (rig : Rig β) (conditions : Registry (Bench β))
    (conditionsOffline : ∀ p ∈ conditions.entries, ∀ argument, Offline (p.2 argument))
    (sink : Option (ResultSink (Bench β)))
    (sinkOffline : ∀ record ∈ sink, ∀ result, Offline (record result)) (cases : List Case)
    (s : Stage (Bench β)) (closed : s.world.opened = {}) :
    let after (k : Nat) :=
      ((crew rig conditions).runCases sink (some rig.close.toPlay) (cases.take k) s).2.world
    ∀ k < cases.length, ∃ made, (after (k + 1)).exchanges = (after k).exchanges ++ made ∧
      OneBrowser (after k).exchanges.length made ∧ (after (k + 1)).opened = {} := by
  intro after k hk
  have closed' := closed_runInTurn rig (crew rig conditions).runCase sink (cases.take k) [] closed
  rcases went : runInTurn (crew rig conditions).runCase sink (some rig.close.toPlay)
    (cases.take k) [] s with ⟨⟨_ | _, _⟩, t⟩
  · have last := runInTurn_take_succ_of_error went
    have same : after (k + 1) = after k :=
      (congrArg (·.2.world) last).trans (congrArg (·.2.world) went).symm
    rw [same]
    exact ⟨[], (List.append_nil _).symm, .nil _, closed'⟩
  · rw [went] at closed'
    have before : after k = t.world := congrArg (·.2.world) went
    have last : after (k + 1) = _ := congrArg Stage.world <|
      runInTurn_take_succ_of_ok (List.getElem?_eq_getElem hk) went
    rw [before, last]
    exact oneBrowser_of_case rig conditionsOffline sinkOffline cases[k] closed'

/-! ### A page that cannot be opened -/

/-- A rehearsed rig that writes no result log. -/
def rehearsedRig : Rig Rehearsal :=
  { settings := { log := { enabled := false } }, outside := Rehearsal.outside }

/-- A stage on which the first page cannot be opened. -/
def refusedPage : Stage (Bench Rehearsal) :=
  { world :=
      { outside :=
          { plan :=
              { incidents := [("new_page", .inTurn [some (.fault ⟨.browser, "Target closed"⟩)])] }
            now := default } } }

/-- Two cases that open the menu. -/
def menuCases : List Case :=
  [⟨"First", [.action "Open menu" []]⟩, ⟨"Second", [.action "Open menu" []]⟩]

/-- The world after the first cases that open the menu. -/
def afterMenuCases (k : Nat) : Bench Rehearsal :=
  ((crew rehearsedRig .standard).runCases (some rehearsedRig.record)
    (some rehearsedRig.close.toPlay) (menuCases.take k) refusedPage).2.world

/-- When the first page cannot be opened, what was opened before it is closed all the same, and the
second case has a browser of its own. -/
theorem oneBrowser_of_refused_page :
    (∀ p ∈ (Registry.standard : Registry (Bench Rehearsal)).entries, ∀ argument,
        Offline (p.2 argument)) ∧
      (∀ record ∈ some rehearsedRig.record, ∀ result, Offline (record result)) ∧
      refusedPage.world.opened = {} ∧
      (afterMenuCases 1).exchanges.map (fun x => (x.call.label, x.answered)) =
        [("driver.start", true), ("launch", true), ("new_context", true), ("new_page", false),
          ("context.close", true), ("browser.close", true), ("driver.stop", true)] ∧
      ∃ made, (afterMenuCases 2).exchanges = (afterMenuCases 1).exchanges ++ made ∧
        OneBrowser (afterMenuCases 1).exchanges.length made ∧ (afterMenuCases 2).opened = {} := by
  have recordOffline : ∀ record ∈ some rehearsedRig.record, ∀ result, Offline (record result) := by
    intro record hr result
    cases hr
    exact offline_record rehearsedRig result
  have calls : (afterMenuCases 1).exchanges.map (fun x => (x.call.label, x.answered)) =
      [("driver.start", true), ("launch", true), ("new_context", true), ("new_page", false),
        ("context.close", true), ("browser.close", true), ("driver.stop", true)] := by
    decide +kernel
  have each : ∀ k < menuCases.length, ∃ made,
      (afterMenuCases (k + 1)).exchanges = (afterMenuCases k).exchanges ++ made ∧
        OneBrowser (afterMenuCases k).exchanges.length made ∧
        (afterMenuCases (k + 1)).opened = {} := by
    have own := runCases_oneBrowser rehearsedRig .standard offline_standard
      (some rehearsedRig.record) recordOffline menuCases refusedPage rfl
    unfold afterMenuCases
    exact own
  exact ⟨offline_standard, recordOffline, rfl, calls, each 1 (by decide)⟩

end Playbook.Shop
