import Playbook.Proofs.Browser.Time
import Playbook.Proofs.Shop.Usage

/-!
# How performing fails

An action that fails in an open session does so with an action error that tells what was wrong
(`perform_fails_with_action_error`), and the artifacts that are taken then change nothing about it
(`perform_fails_alike`). Neither holds throughout. The directory of the screenshots is made before
anything is tried, and where it cannot be made, that is told instead
(`perform_hides_failure`); a session that cannot be opened tells of it as it is
(`perform_unwrapped`).
-/

namespace Playbook

open Browser

variable {β : Type}

private theorem Ensures.exists_error {S α : Type} {pre : S → Prop} {x : EStateM Failure S α}
    {broken : Failure → S → Prop} (h : Ensures pre x (fun _ _ ↦ False) broken) {s : S}
    (hs : pre s) : ∃ e t, x s = .error e t ∧ broken e t := by
  cases hx : x s with
  | ok a t => exact (h.of_ok hs hx).elim
  | error e t => exact ⟨e, t, rfl, h.of_error hs hx⟩

namespace Rig

variable {rig : Rig β}

/-- The fault that stands in the way of screenshots, where their directory cannot be made. -/
def screenshotRefusal? (rig : Rig β) (d : Disk) : Option Fault :=
  if rig.settings.screenshots.enabled then
    match Disk.ensureDirectories rig.settings.screenshots.directory d with
    | .ok _ _ => none
    | .error f _ => some f
  else none

/-- The rig that takes neither screenshots nor videos. -/
def withoutArtifacts (rig : Rig β) : Rig β :=
  { rig with
    settings :=
      { rig.settings with
        screenshots := { rig.settings.screenshots with enabled := false }
        videos := { rig.settings.videos with enabled := false } } }

/-! ### Taking artifacts -/

section

variable {d : Disk} {broken : Failure → Stage (Bench β) → Prop}

private theorem ensures_screenshotDirectory (enabled : rig.settings.screenshots.enabled = true) :
    Ensures (fun s : Stage (Bench β) ↦ s.world.disk = d)
      (onDisk (Disk.ensureDirectories rig.settings.screenshots.directory))
      (fun _ _ ↦ rig.screenshotRefusal? d = none)
      fun e _ ↦ ∃ f, rig.screenshotRefusal? d = some f ∧ e = .fault f := by
  intro s hs
  unfold onDisk screenshotRefusal?
  rw [hs, if_pos enabled]
  cases Disk.ensureDirectories rig.settings.screenshots.directory d with
  | ok _ _ => rfl
  | error f _ => exact ⟨f, rfl, rfl⟩

private theorem captureScreenshot_free (free : rig.screenshotRefusal? d = none)
    (stamp : Option String) :
    Ensures (fun s ↦ s.world.disk = d) (rig.captureScreenshot stamp) (fun _ _ ↦ True) broken := by
  refine rig.spares_true.captureScreenshot_of_made (fun _ _ ↦ trivial) (fun enabled ↦ ?_) stamp
  refine Ensures.weaken (ensures_screenshotDirectory enabled) (fun _ hs ↦ hs)
    (fun _ _ _ ↦ trivial) ?_
  rintro e s ⟨f, refused, -⟩
  cases free.symm.trans refused

private theorem captureScreenshot_refused {f : Fault} (refused : rig.screenshotRefusal? d = some f)
    (page : Page) (stamp : Option String) :
    Ensures (fun s ↦ s.world.disk = d ∧ s.world.opened.page = some page)
      (rig.captureScreenshot stamp) (fun _ _ ↦ False) fun e _ ↦ e = .fault f := by
  have enabled : rig.settings.screenshots.enabled = true := by
    by_contra off
    rw [screenshotRefusal?, if_neg off] at refused
    cases refused
  have looked : Ensures (fun s ↦ s.world.disk = d ∧ s.world.opened.page = some page)
      opened (fun o (s : Stage (Bench β)) ↦ s.world.disk = d ∧ o.page = some page)
      fun e _ ↦ e = .fault f :=
    fun _ h ↦ h
  refine looked.bind fun o ↦ .of_and fun isOpen ↦ ?_
  rw [isOpen]
  dsimp only
  rw [enabled]
  refine .bind (Ensures.weaken (ensures_screenshotDirectory enabled) (fun _ hs ↦ hs)
    (fun _ _ free ↦ ?_) ?_) fun _ _ gone ↦ gone
  · cases free.symm.trans refused
  · rintro e s ⟨g, refused', rfl⟩
    exact congrArg Failure.fault (Option.some.inj (refused'.symm.trans refused))

private theorem captureScreenshot_withoutArtifacts (P : Stage (Bench β) → Prop)
    (stamp : Option String) :
    Ensures P (rig.withoutArtifacts.captureScreenshot stamp) (fun taken s ↦ P s ∧ taken = none)
      broken := by
  have looked : Keeps P broken opened := fun _ h ↦ h
  refine Ensures.bind looked fun o ↦ ?_
  split
  · exact .pure _ fun _ h ↦ ⟨h, rfl⟩
  · exact .pure _ fun _ h ↦ ⟨h, rfl⟩

private theorem reserveFailureVideo_withoutArtifacts (P : Stage (Bench β) → Prop)
    (stamp : Option String) :
    Ensures P (rig.withoutArtifacts.reserveFailureVideo stamp) (fun taken s ↦ P s ∧ taken = none)
      broken := by
  have looked : Keeps P broken opened := fun _ h ↦ h
  refine Ensures.bind looked fun o ↦ ?_
  dsimp only
  rw [if_pos (by simp [withoutArtifacts])]
  exact .pure _ fun _ h ↦ ⟨h, rfl⟩

end

end Rig

namespace Shop

open Rig

variable {rig : Rig β} {d : Disk}

private theorem failAction_free (free : rig.screenshotRefusal? d = none) (action : String)
    (cause : ActionCause) :
    Ensures (fun s ↦ s.world.disk = d) (failAction rig action cause) (fun _ _ ↦ False)
      fun e _ ↦ ∃ screenshot video, e = .action { cause, screenshot, video } := by
  refine failAction_of_capture (fun h _ _ _ ↦ h) (fun h ↦ h) (fun stamp ↦ ?_) action
  refine .bind (captureScreenshot_free free _) fun screenshot ↦ ?_
  exact .bind (rig.spares_true.reserveFailureVideo _) fun video _ _ ↦ ⟨screenshot, video, rfl⟩

private theorem failAction_refused {f : Fault} (refused : rig.screenshotRefusal? d = some f)
    (page : Page) (action : String) (cause : ActionCause) :
    Ensures (fun s ↦ s.world.disk = d ∧ s.world.opened.page = some page)
      (failAction rig action cause) (fun _ _ ↦ False) fun e _ ↦ e = .fault f := by
  refine failAction_of_capture (fun h _ _ _ ↦ h) (fun h ↦ h) (fun stamp ↦ ?_) action
  exact .bind (captureScreenshot_refused refused page _) fun _ _ h ↦ h.elim

private theorem failAction_withoutArtifacts (rig : Rig β) (action : String) (cause : ActionCause) :
    Ensures (fun _ ↦ True) (failAction rig.withoutArtifacts action cause) (fun _ _ ↦ False)
      fun e _ ↦ e = .action { cause } := by
  refine failAction_of_capture (fun h _ _ _ ↦ h) (fun h ↦ h) (fun stamp ↦ ?_) action
  refine .bind (captureScreenshot_withoutArtifacts _ stamp) fun screenshot ↦ .of_and fun noShot ↦ ?_
  refine .bind (reserveFailureVideo_withoutArtifacts _ stamp) fun video ↦ .of_and fun noVideo ↦ ?_
  rw [noShot, noVideo]
  exact fun _ _ ↦ rfl

private theorem keeps_keepTitle (rig : Rig β) :
    Keeps (fun _ ↦ True) (fun _ _ ↦ False) (keepTitle rig) :=
  rig.spares_true.keepTitle fun _ _ ↦ trivial

private theorem performText_withoutArtifacts (page : Page) (action : String)
    (parameters : List String) :
    performText rig.withoutArtifacts page action parameters =
      performText rig page action parameters :=
  rfl

/-- A stage with a disk and with what is open. -/
private abbrev With (d : Disk) (o : Opened) (s : Stage (Bench β)) : Prop :=
  s.world.disk = d ∧ s.world.opened = o

private theorem keeps_performText (rig : Rig β) (page : Page) (action : String)
    (parameters : List String) (d : Disk) (o : Opened) :
    Keeps (With d o) (fun _ ↦ With d o) (performText rig page action parameters) := by
  have acts : Acts rig page (With d o) (With d o) fun _ ↦ With d o :=
    { called := fun _ _ _ ↦ call_keeps fun h _ ↦ h
      complained := fun _ h ↦ h
      done := fun h ↦ h
      logged := fun h _ _ _ ↦ h }
  exact acts.performText action parameters (fun _ _ h ↦ h) fun _ _ _ h _ ↦ h

/-- Artifacts change no failure of an action in an open session, if their directory can be made: an
action that fails without artifacts fails for the same cause with them. If the directory cannot be
made, that is the failure instead. -/
theorem perform_fails_alike (rig : Rig β) (action : String) (parameters : List String)
    {s : Stage (Bench β)} {page : Page} (isOpen : s.world.opened.page = some page)
    (pages : s.world.opened.pageObjects = some page) :
    match perform rig.withoutArtifacts action parameters s with
    | .ok () t => perform rig action parameters s = .ok () t
    | .error e _ =>
      ∃ error : ActionError, e = .action error ∧ error.screenshot = none ∧ error.video = none ∧
        ∃ e' t, perform rig action parameters s = .error e' t ∧
          match rig.screenshotRefusal? s.world.disk with
          | none => ∃ screenshot video, e' = .action { error with screenshot, video }
          | some f => e' = .fault f := by
  rw [perform_of_start (start_of_open pages), perform_of_start (start_of_open pages),
    performText_withoutArtifacts]
  have kept := keeps_performText rig page action parameters s.world.disk s.world.opened
  cases done : performText rig page action parameters s with
  | ok _ u =>
    have alike : keepTitle rig.withoutArtifacts = keepTitle rig := rfl
    dsimp only
    rw [alike]
    cases kept : keepTitle rig u with
    | ok _ t => rfl
    | error e t => exact ((keeps_keepTitle rig).of_error trivial kept).elim
  | error e u =>
    -- both have done the same so far, and differ in what they do about the failure
    obtain ⟨disk, opened⟩ := kept.of_error ⟨rfl, rfl⟩ done
    obtain ⟨_, t, failed, rfl⟩ :=
      (failAction_withoutArtifacts rig action (causeOf e)).exists_error (s := u) trivial
    dsimp only
    rw [failed]
    refine ⟨_, rfl, rfl, rfl, ?_⟩
    split
    · next free => exact (failAction_free free action (causeOf e)).exists_error disk
    · next f refused =>
      exact (failAction_refused refused page action (causeOf e)).exists_error
        ⟨disk, opened ▸ isOpen⟩

/-- A session that was opened with a disk. -/
def openedOn (disk : Disk) : Stage (Bench Rehearsal) :=
  Usage.start.run rehearsalRig (newSession .empty disk { now := default })

/-- A disk with a file where the directory of the artifacts should be. -/
def blockedDisk : Disk := { entries := [(["test-results"], .file .empty)] }

/-- The fault of making the directory of the screenshots there. -/
def blockedFault : Fault :=
  ⟨.disk .notADirectory, "[Errno 20] Not a directory: 'test-results/screenshots'"⟩

private theorem ofText?_open_page : Action.ofText? "Open page" = some .openPage := by
  decide +kernel

/-- What is missing if it is not said which page to open. -/
abbrev noAddress : ActionCause := .missingParameter 0 "url"

private theorem performText_noAddress (rig : Rig β) (page : Page) (s : Stage (Bench β)) :
    performText rig page "Open page" [] s = .error (.action { cause := noAddress }) s := by
  rw [performText_of_some ofText?_open_page]
  rfl

private theorem perform_noAddress_withoutArtifacts (rig : Rig β) {s : Stage (Bench β)} {page : Page}
    (pages : s.world.opened.pageObjects = some page) :
    ∃ t, perform rig.withoutArtifacts "Open page" [] s =
      .error (.action { cause := noAddress }) t := by
  rw [perform_of_start (start_of_open pages), performText_noAddress]
  obtain ⟨_, t, failed, rfl⟩ :=
    (failAction_withoutArtifacts rig "Open page" noAddress).exists_error (s := s) trivial
  exact ⟨t, failed⟩

/-- With artifacts, a missing address is told as such if the disk is empty. -/
theorem perform_fails_alike_on_empty :
    (openedOn {}).world.opened.page = some ⟨3, false⟩ ∧
      (openedOn {}).world.opened.pageObjects = some ⟨3, false⟩ ∧
      rehearsalRig.screenshotRefusal? (openedOn {}).world.disk = none ∧
      ∃ screenshot video t, perform rehearsalRig "Open page" [] (openedOn {}) =
        .error (.action { cause := noAddress, screenshot, video }) t := by
  have isOpen : (openedOn {}).world.opened.page = some ⟨3, false⟩ := by decide +kernel
  have pages : (openedOn {}).world.opened.pageObjects = some ⟨3, false⟩ := by decide +kernel
  have free : rehearsalRig.screenshotRefusal? (openedOn {}).world.disk = none := by decide +kernel
  refine ⟨isOpen, pages, free, ?_⟩
  generalize openedOn {} = s at isOpen pages free
  have alike := perform_fails_alike rehearsalRig "Open page" [] isOpen pages
  obtain ⟨t, failed⟩ := perform_noAddress_withoutArtifacts rehearsalRig pages
  rw [failed, free] at alike
  obtain ⟨_, same, -, -, e, t', performed, screenshot, video, rfl⟩ := alike
  cases same
  exact ⟨screenshot, video, t', performed⟩

/-- A missing address is told as such without artifacts, and as a fault of the disk with them, if
the directory of the screenshots cannot be made. -/
theorem perform_hides_failure :
    (openedOn blockedDisk).world.opened.page = some ⟨3, false⟩ ∧
      (openedOn blockedDisk).world.opened.pageObjects = some ⟨3, false⟩ ∧
      (∃ t, perform rehearsalRig.withoutArtifacts "Open page" [] (openedOn blockedDisk) =
        .error (.action { cause := noAddress }) t) ∧
      ∃ t, perform rehearsalRig "Open page" [] (openedOn blockedDisk) =
        .error (.fault blockedFault) t := by
  have isOpen : (openedOn blockedDisk).world.opened.page = some ⟨3, false⟩ := by decide +kernel
  have pages : (openedOn blockedDisk).world.opened.pageObjects = some ⟨3, false⟩ := by
    decide +kernel
  have refused : rehearsalRig.screenshotRefusal? (openedOn blockedDisk).world.disk =
      some blockedFault := by decide +kernel
  refine ⟨isOpen, pages, perform_noAddress_withoutArtifacts rehearsalRig pages, ?_⟩
  rw [perform_of_start (start_of_open pages), performText_noAddress]
  obtain ⟨_, t, failed, rfl⟩ :=
    (failAction_refused refused _ "Open page" noAddress).exists_error ⟨rfl, isOpen⟩
  exact ⟨t, failed⟩

/-! ### What is told of a failure -/

/-- What can go wrong with an action that is known, if calls go wrong by faults: a fault, or what
the action finds missing. -/
def FailsKnown : Failure → Prop
  | .fault _ => True
  | .action own => ∀ text, own.cause ≠ .unknownAction text
  | _ => False

private theorem Complaint.failsKnown {e : Failure} (h : Complaint e) : FailsKnown e := by
  cases h with
  | unexpected | unreadable => trivial
  | _ => nofun

section

variable {start : β} (faults : rig.outside.OnlyFaults start)
include faults

private theorem keeps_call_fault (c : Call) :
    Keeps (rig.Since start 0) (fun e _ ↦ ∃ f, e = .fault f) (rig.call c) := by
  intro s since
  have called : Keeps (rig.Since start 0) (fun _ ↦ rig.Since start 0) (rig.call c) :=
    call_keeps fun h _ ↦ h.of_leads (.single (.answered c _))
  cases answer : rig.call c s with
  | ok _ t => exact called.of_ok since answer
  | error e t =>
    obtain ⟨m, answered, rfl⟩ := exists_mishap_of_call answer
    obtain ⟨f, rfl⟩ := faults _ since.led c m answered
    exact ⟨f, rfl⟩

private theorem ensures_start_fault :
    Keeps (rig.Since start 0) (fun e _ ↦ ∃ f, e = .fault f) rig.start := by
  have spared := rig.spares_since start 0
  exact start_keeps (fun c _ ↦ keeps_call_fault faults c) spared.logged spared.opened fun p ↦
    (spared.directories p).failing fun _ _ _ failed _ ↦ exists_fault_of_onDisk failed

private theorem ensures_performText_failure (page : Page) (action : String)
    (parameters : List String) :
    Ensures (rig.Since start 0) (performText rig page action parameters) (fun _ _ ↦ True)
      fun e _ ↦
        if Action.ofText? action = none then e = .action { cause := .unknownAction action }
        else FailsKnown e := by
  unfold performText
  cases known : Action.ofText? action with
  | none => exact fun _ _ ↦ rfl
  | some a =>
    have acts : Acts rig page (rig.Since start 0) (fun _ ↦ True) fun e _ ↦ FailsKnown e :=
      { called := fun c _ _ ↦ Ensures.weaken (keeps_call_fault faults c) (fun _ h ↦ h)
          (fun _ _ h ↦ h) fun _ _ ⟨_, h⟩ ↦ h ▸ trivial
        complained := fun complaint _ ↦ complaint.failsKnown
        done := fun _ ↦ trivial
        logged := fun _ _ _ _ ↦ trivial }
    exact acts.carryOut parameters a fun _ _ _ _ _ ↦ trivial

end

/-- The cause of an action error explains what an action failed with: it is that of its own error,
or it is the fault. A timeout is told as one, and any other fault in its own words, or by its name
if it has none. -/
def Explains (cause : ActionCause) : Failure → Prop
  | .fault f =>
    cause = .wrapped f ∧
      cause.message =
        if f.kind = .timeout then "Timed out waiting for the page: " ++ f.message
        else if f.message.isEmpty then f.kind.name
        else f.message
  | .action own => cause = own.cause
  | _ => False

-- A failure is explained by its cause, which tells of an unknown action just if it is one.
private theorem causeOf_spec {action : String} {e : Failure}
    (h : if Action.ofText? action = none then e = .action { cause := .unknownAction action }
      else FailsKnown e) :
    ((∃ text, causeOf e = .unknownAction text) ↔ Action.ofText? action = none) ∧
      (Action.ofText? action = none → causeOf e = .unknownAction action) ∧
      Explains (causeOf e) e := by
  split at h
  · next unknown =>
    subst h
    exact ⟨⟨fun _ ↦ unknown, fun _ ↦ ⟨action, rfl⟩⟩, fun _ ↦ rfl, rfl⟩
  · next known =>
    cases e with
    | fault f => exact ⟨⟨nofun, fun h ↦ absurd h known⟩, fun h ↦ absurd h known, rfl, rfl⟩
    | action own =>
      refine ⟨⟨?_, fun h ↦ absurd h known⟩, fun h ↦ absurd h known, rfl⟩
      rintro ⟨text, told⟩
      exact absurd told (h text)
    | _ => exact h.elim

/-- If calls go wrong by faults and screenshots have their directory, an action that fails in a
session that opens fails with an action error. It says that the action is unknown just if no rule
fits, and its cause explains what the action failed with. A session that cannot be opened fails with
the fault as it is. -/
theorem perform_fails_with_action_error (rig : Rig β) (action : String) (parameters : List String)
    {s u : Stage (Bench β)} {e : Failure} (faults : rig.outside.OnlyFaults s.world.outside)
    (failed : perform rig action parameters s = .error e u) :
    match rig.start s with
    | .error e' t => e = e' ∧ u = t ∧ ∃ f, e = .fault f
    | .ok page t =>
      rig.screenshotRefusal? t.world.disk = none →
        ∃ (error : ActionError) (own : Failure) (left : Stage (Bench β)),
          e = .action error ∧ performText rig page action parameters t = .error own left ∧
          ((∃ text, error.cause = .unknownAction text) ↔ Action.ofText? action = none) ∧
          (Action.ofText? action = none → error.cause = .unknownAction action) ∧
          Explains error.cause own := by
  have began := ensures_start_fault faults s (.here s)
  cases started : rig.start s with
  | error e' t =>
    rw [started] at began
    rw [perform_of_start_error started] at failed
    cases failed
    exact ⟨rfl, rfl, began⟩
  | ok page t =>
    rw [started] at began
    rw [perform_of_start started] at failed
    intro free
    cases done : performText rig page action parameters t with
    | ok _ left =>
      rw [done] at failed
      exact ((keeps_keepTitle rig).of_error trivial failed).elim
    | error own left =>
      rw [done] at failed
      have kept := (keeps_performText rig page action parameters _ _).of_error ⟨rfl, rfl⟩ done
      obtain ⟨screenshot, video, rfl⟩ :=
        (failAction_free free action (causeOf own)).of_error kept.1 failed
      have tells := (ensures_performText_failure faults page action parameters).of_error began done
      exact ⟨_, own, left, rfl, rfl, causeOf_spec tells⟩

/-- A rehearsal in which the browser cannot be launched at first. -/
def refusedLaunch : Rehearsal :=
  { plan := { incidents := [("launch", .inTurn [some (.fault ⟨.browser, "boom"⟩)])] }
    now := default }

/-- A missing address is told as such, and not as an unknown action. -/
theorem perform_fails_with_missing_parameter :
    rehearsalRig.outside.OnlyFaults (openedOn {}).world.outside ∧
      rehearsalRig.screenshotRefusal? (openedOn {}).world.disk = none ∧
      ∃ e u error, perform rehearsalRig "Open page" [] (openedOn {}) = .error e u ∧
        e = .action error ∧ error.cause = noAddress ∧
        ¬ ∃ text, error.cause = .unknownAction text := by
  have pages : (openedOn {}).world.opened.pageObjects = some ⟨3, false⟩ := by decide +kernel
  have free : rehearsalRig.screenshotRefusal? (openedOn {}).world.disk = none := by decide +kernel
  have unplanned : (openedOn {}).world.outside.plan.incidents.isEmpty = true := by decide +kernel
  have faults : rehearsalRig.outside.OnlyFaults (openedOn {}).world.outside := by
    refine Rehearsal.onlyFaults fun i hi ↦ ?_
    rw [List.isEmpty_iff.mp unplanned] at hi
    cases hi
  obtain ⟨e, u, failed⟩ :
      ∃ e u, perform rehearsalRig "Open page" [] (openedOn {}) = .error e u := by
    rw [perform_of_start (start_of_open pages), performText_noAddress]
    obtain ⟨e, u, failed, -⟩ :=
      (failAction_free free "Open page" noAddress).exists_error rfl
    exact ⟨e, u, failed⟩
  have told := perform_fails_with_action_error rehearsalRig "Open page" [] faults failed
  rw [start_of_open pages] at told
  obtain ⟨error, own, left, told, done, unknown, -, causes⟩ := told free
  cases done.symm.trans (performText_noAddress _ _ _)
  refine ⟨faults, free, e, u, error, failed, told, causes, fun h ↦ ?_⟩
  cases ofText?_open_page.symm.trans (unknown.mp h)

/-- An action fails with a plain fault if the browser cannot be launched. -/
theorem perform_unwrapped :
    rehearsalRig.outside.OnlyFaults refusedLaunch ∧
      rehearsalRig.screenshotRefusal? {} = none ∧
      ∃ u, perform rehearsalRig "Open cart" [] (newSession .empty {} refusedLaunch) =
        .error (.fault ⟨.browser, "boom"⟩) u := by
  have refused : (match rehearsalRig.start (newSession .empty {} refusedLaunch) with
      | .error (.fault f) _ => some f
      | _ => none) = some ⟨.browser, "boom"⟩ := by decide +kernel
  refine ⟨Rehearsal.onlyFaults ?_, by decide +kernel, ?_⟩
  · intro i hi k m met
    cases List.mem_singleton.mp hi
    cases k with
    | zero =>
      cases met
      exact ⟨_, rfl⟩
    | succ k => cases met
  · split at refused
    · next started =>
      cases refused
      exact ⟨_, perform_of_start_error started _ _⟩
    · cases refused

end Shop

end Playbook
