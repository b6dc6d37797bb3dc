import Playbook.Browser.Rehearsal
import Playbook.Proofs.Browser.Course
import Playbook.Proofs.Browser.Ledger
import Playbook.Proofs.Shop.Orderly

/-!
# Using a session

A session and the actions performed in it can be used in any order, again after failures, and within
one another; `Usage` is the language of all that. However a session is used, and whatever the
browser refuses, it stays coherent and what is closed is left alone (`run_coherent`). Once it is
closed, all that it obtained was closed, but for what it forgot by opening anew after it had broken
off (`fate_of_close`).
-/

namespace Playbook.Shop

open Browser Rig

variable {β : Type} {rig : Rig β}

/-- What can be done with a session. -/
inductive Usage where
  | skip
  | start
  | close
  | pageTitle
  | captureScreenshot (stamp : Option String)
  | reserveFailureVideo (stamp : Option String)
  | perform (action : String) (parameters : List String)
  /-- One after the other, unless the first fails. -/
  | next (first second : Usage)
  /-- Something that may fail without consequences. -/
  | attempt (body : Usage)
  /-- Something in a session that is opened before and closed afterwards. -/
  | within (body : Usage)
  deriving DecidableEq, Repr

/-- Do with a session what can be done with it. -/
def Usage.play (rig : Rig β) : Usage → Play (Bench β) Unit
  | .skip => pure ()
  | .start => do let _ ← rig.start
  | .close => rig.close.toPlay
  | .pageTitle => do let _ ← rig.pageTitle
  | .captureScreenshot stamp => do let _ ← rig.captureScreenshot stamp
  | .reserveFailureVideo stamp => do let _ ← rig.reserveFailureVideo stamp
  | .perform action parameters => Shop.perform rig action parameters
  | .next first second => do first.play rig; second.play rig
  | .attempt body => do let _ ← (Routine.attempt (body.play rig)).toPlay
  | .within body => rig.within fun _ => body.play rig

/-- A session that nothing was done with yet. -/
def newSession (environment : Environment) (disk : Disk) (outside : β) : Stage (Bench β) :=
  { environment, world := { outside, disk } }

/-- What a session comes to, whether or not its use ends with a failure. -/
def Usage.run (rig : Rig β) (usage : Usage) (s : Stage (Bench β)) : Stage (Bench β) :=
  (Routine.attempt (usage.play rig) s).2

/-- Performing an action stays on course. -/
theorem staysOnCourse_perform (action : String) (parameters : List String) :
    rig.StaysOnCourse (perform rig action parameters) := by
  refine Ensures.bind ensures_start_page fun page ↦ ?_
  exact ensures_orderly fun before o isOpen ↦ orderly_finishAction isOpen action parameters

/-- However a session is used, it stays on course. -/
theorem Usage.staysOnCourse (usage : Usage) : rig.StaysOnCourse (usage.play rig) := by
  have dropped {α : Type} {p : Play (Bench β) α} (h : rig.StaysOnCourse p) :
      rig.StaysOnCourse (do let _ ← p) :=
    .bind h fun _ ↦ .pure ()
  induction usage with
  | skip => exact .pure ()
  | start => exact dropped staysOnCourse_start
  | close => exact staysOnCourse_close
  | pageTitle => exact dropped staysOnCourse_pageTitle
  | captureScreenshot stamp => exact dropped (staysOnCourse_captureScreenshot stamp)
  | reserveFailureVideo stamp => exact dropped (staysOnCourse_reserveFailureVideo stamp)
  | perform action parameters => exact staysOnCourse_perform action parameters
  | next first second ihFirst ihSecond => exact .bind ihFirst fun _ ↦ ihSecond
  | attempt body ih => exact dropped (.attempt ih)
  | within body ih => exact .within fun _ ↦ ih

/-- Whatever was done with a session, it has come to what it can come to. -/
theorem Usage.reached_run (usage : Usage) {s : Stage (Bench β)} (reached : rig.Reached s) :
    rig.Reached (usage.run rig s) := by
  have left := usage.staysOnCourse s reached
  unfold Usage.run Routine.attempt
  cases hp : usage.play rig s with
  | ok a t =>
    rw [hp] at left
    exact left
  | error e t =>
    rw [hp] at left
    exact left

/-- A session that was never used has come to what it can come to. -/
theorem reached_newSession (rig : Rig β) (environment : Environment) (disk : Disk) (outside : β) :
    rig.Reached (newSession environment disk outside) :=
  .new

/-- However a session is used and whatever the browser refuses, what is open was opened in layers,
opening again hands out the open page without doing anything, and no call is made on what was closed
before, but for saving the video of a page right after closing it. -/
theorem Usage.run_coherent (rig : Rig β) (environment : Environment) (disk : Disk) (outside : β)
    (usage : Usage) :
    let s := usage.run rig (newSession environment disk outside)
    s.world.opened.Coherent ∧
      (∀ page, s.world.opened.page = some page → rig.start s = .ok page s) ∧
      QuietOnceClosed (s.world.exchanges.map Exchange.call) := by
  intro s
  have reached : rig.Reached s :=
    usage.reached_run (reached_newSession rig environment disk outside)
  refine ⟨reached.coherent, fun page isOpen ↦ ?_, reached.ledger.quiet⟩
  have pages : s.world.opened.pageObjects = some page := reached.coherent.pageObjects.trans isOpen
  exact (bind_of_ok _ (t := s) rfl).trans (by rw [pages]; rfl)

/-- However a session was used and whatever the browser refused, once it is closed everything that
it obtained was closed, but for what was forgotten, when it was opened anew after it had broken
off. -/
theorem Usage.fate_of_close (rig : Rig β) (environment : Environment) (disk : Disk) (outside : β)
    (usage : Usage) :
    let made := (rig.close (usage.run rig (newSession environment disk outside))).2.world.exchanges
    ∀ r h, Yielded made r h → Disposed made r h ∨ Forgotten made r h := by
  intro made r h yielded
  let used := usage.run rig (newSession environment disk outside)
  have reached : rig.Reached used :=
    usage.reached_run (reached_newSession rig environment disk outside)
  obtain ⟨-, -, -, closed⟩ := rig.close_spec used
  obtain held | gone := reached.close.ledger.fate r h yielded
  · rw [closed] at held
    cases r <;> cases held
  · exact gone

/-! ### A context that cannot be opened -/

/-- A rehearsed rig. -/
def rehearsalRig : Rig Rehearsal := { settings := {}, outside := Rehearsal.outside }

/-- A rehearsal in which the first context cannot be opened. -/
def refusedContext : Rehearsal :=
  { plan := { incidents := [("new_context", .inTurn [some (.fault ⟨.browser, "boom"⟩)])] }
    now := default }

/-- Start a session, and start it again if that fails. -/
def startedAgain : Usage := .next (.attempt .start) .start

/-- The calls of a session that is started again when its first context cannot be opened, once it is
closed. -/
def callsOfStartedAgain : List Exchange :=
  (rehearsalRig.close
    (startedAgain.run rehearsalRig (newSession .empty {} refusedContext))).2.world.exchanges

/-- A driver is handed out twice to a session that is started again. -/
theorem fate_of_startedAgain :
    ∀ h ∈ [0, 3], Yielded callsOfStartedAgain .driver h ∧
      (Disposed callsOfStartedAgain .driver h ∨ Forgotten callsOfStartedAgain .driver h) := by
  have fate := Usage.fate_of_close rehearsalRig .empty {} refusedContext startedAgain .driver
  have first : Yielded callsOfStartedAgain .driver 0 := ⟨.startDriver, rfl, rfl⟩
  have second : Yielded callsOfStartedAgain .driver 3 := ⟨.startDriver, rfl, rfl⟩
  simp only [List.forall_mem_cons, List.not_mem_nil, false_implies, implies_true, and_true]
  exact ⟨⟨first, fate 0 first⟩, ⟨second, fate 3 second⟩⟩

/-- The driver and the browser that a session opened before it was started again stay open for
good. -/
theorem leak_of_startedAgain :
    Yielded callsOfStartedAgain .driver 0 ∧ Yielded callsOfStartedAgain .browser 1 ∧
      Resource.driver.closer 0 ∉ callsOfStartedAgain.map Exchange.call ∧
      Resource.browser.closer 1 ∉ callsOfStartedAgain.map Exchange.call := by
  let told (c : Call) := (c.label, c.target?)
  have driver : told (Resource.driver.closer 0) ∉
      (callsOfStartedAgain.map Exchange.call).map told := by decide +kernel
  have browser : told (Resource.browser.closer 1) ∉
      (callsOfStartedAgain.map Exchange.call).map told := by decide +kernel
  exact ⟨⟨.startDriver, rfl, rfl⟩, ⟨_, rfl, rfl⟩, fun h ↦ driver (List.mem_map_of_mem h),
    fun h ↦ browser (List.mem_map_of_mem h)⟩

end Playbook.Shop
