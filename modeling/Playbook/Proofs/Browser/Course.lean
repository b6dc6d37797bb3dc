import Playbook.Proofs.Browser.Reach

/-!
# The course of a session

Whatever is done with a session, and wherever it fails, it only goes to what it can come to
(`Reached`): opening obtains one thing after another (`staysOnCourse_start`), what is done on the
open page only works on what is open (`ensures_orderly`), and closing makes the calls that close
what is open (`staysOnCourse_close`).
-/

namespace Playbook.Rig

open Browser

variable {β α : Type} {rig : Rig β} {P Q : Opened → Prop}

/-- A session has come to what it can come to. -/
def Reached (rig : Rig β) (s : Stage (Bench β)) : Prop :=
  rig.Reaches s.world.opened s.world.exchanges

/-- A session has come to something of which `P` holds. -/
def ReachedWith (rig : Rig β) (P : Opened → Prop) (s : Stage (Bench β)) : Prop :=
  rig.Reached s ∧ P s.world.opened

/-- What a session has come to is told by its exchanges and by what is open. -/
theorem Reached.of_eq {o : Opened} {made : List Exchange} (reaches : rig.Reaches o made)
    {s : Stage (Bench β)} (exchanges : s.world.exchanges = made) (opened : s.world.opened = o) :
    rig.Reached s := by
  unfold Reached
  rwa [exchanges, opened]

/-- From where a session may be, a play leads to where it may be, even if it fails. -/
abbrev StaysOnCourse (rig : Rig β) (p : Play (Bench β) α) : Prop :=
  Keeps rig.Reached (fun _ ↦ rig.Reached) p

/-! ### Opening -/

/-- A call has handed something out that is not yet kept. -/
def Granted (rig : Rig β) (P : Opened → Prop) (c : Call) (handle : Handle)
    (s : Stage (Bench β)) : Prop :=
  ∃ made, s.world.exchanges = made ++ [⟨c, true⟩] ∧ handle = made.length ∧
    rig.Reaches s.world.opened made ∧ P s.world.opened

private theorem ensures_grant {c : Call} (ready : ∀ o, P o → c.Ready o) :
    Ensures (rig.ReachedWith P) (rig.obtain c) (fun r ↦ rig.Granted P c r.1)
      fun _ ↦ rig.Reached := by
  rintro s ⟨reached, hP⟩
  obtain ⟨a, t, hp, he, ho⟩ | ⟨e, t, hp, he, ho⟩ := rig.call_cases c s
  · have granted : rig.obtain c s = .ok (s.world.exchanges.length, a) t :=
      (bind_of_ok _ (t := s) rfl).trans (bind_of_ok _ hp)
    rw [granted]
    exact ⟨s.world.exchanges, he, rfl, ho ▸ reached, ho ▸ hP⟩
  · have refused : rig.obtain c s = .error e t :=
      (bind_of_ok _ (t := s) rfl).trans (bind_of_error _ hp)
    rw [refused]
    exact .of_eq (.refused reached (ready _ hP)) he ho

private theorem ensures_keepGranted {c : Call} {r : Resource} {handle : Handle}
    (recordsVideo : Bool) (ready : ∀ o, P o → c.Ready o) (yields : c.yields? = some r)
    (next : ∀ o, P o → Q (o.obtain handle recordsVideo r))
    {broken : Failure → Stage (Bench β) → Prop} :
    Ensures (rig.Granted P c handle) (modifyOpened fun o => o.obtain handle recordsVideo r)
      (fun _ ↦ rig.ReachedWith Q) broken := by
  rintro s ⟨made, exchanges, rfl, reached, hP⟩
  exact ⟨.of_eq (.obtained reached (ready _ hP) yields recordsVideo) exchanges rfl, next _ hP⟩

private theorem keeps_reachedWith {p : Play (Bench β) α}
    (same : ∀ s, match p s with
      | .ok _ t | .error _ t =>
        t.world.exchanges = s.world.exchanges ∧ t.world.opened = s.world.opened) :
    Keeps (rig.ReachedWith P) (fun _ ↦ rig.Reached) p := by
  intro s h
  have left := same s
  cases hp : p s with
  | ok a t =>
    rw [hp] at left
    exact ⟨.of_eq h.1 left.1 left.2, left.2 ▸ h.2⟩
  | error e t =>
    rw [hp] at left
    exact .of_eq h.1 left.1 left.2

private theorem keeps_onDisk (w : Disk.Writing α) :
    Keeps (rig.ReachedWith P) (fun _ ↦ rig.Reached) (onDisk w) := by
  refine keeps_reachedWith fun s ↦ ?_
  unfold onDisk
  cases w s.world.disk with
  | ok a d => exact ⟨rfl, rfl⟩
  | error f d => exact ⟨rfl, rfl⟩

private theorem keeps_report (level : Level) (source : Source) (text : String) :
    Keeps (rig.ReachedWith P) (fun _ ↦ rig.Reached) (Play.report level source text) :=
  keeps_reachedWith fun _ ↦ ⟨rfl, rfl⟩

private theorem keeps_call {c : Call} {h : Handle} (works : c.WorksOn h)
    (holds : ∀ o, P o → o.Holds h) :
    Keeps (rig.ReachedWith P) (fun _ ↦ rig.Reached) (rig.call c) := by
  rintro s ⟨reached, hP⟩
  obtain ⟨a, t, hp, he, ho⟩ | ⟨e, t, hp, he, ho⟩ := rig.call_cases c s
  · rw [hp]
    exact ⟨.of_eq (.worked reached works (holds _ hP) true) he ho, ho ▸ hP⟩
  · rw [hp]
    exact .of_eq (.worked reached works (holds _ hP) false) he ho

/-- Wherever opening starts from and wherever it fails, a session stays on its course, and it has a
page when opening goes through. -/
theorem ensures_start_page :
    Ensures rig.Reached rig.start (fun page ↦ rig.ReachedWith fun o ↦ o.page = some page)
      fun _ ↦ rig.Reached := by
  have look : Ensures rig.Reached opened
      (fun a s ↦ rig.Reached s ∧ s.world.opened = a) (fun _ ↦ rig.Reached) :=
    fun s h ↦ ⟨h, rfl⟩
  refine .bind look fun a ↦ ?_
  cases ha : a.pageObjects with
  | some page =>
    refine .pure page ?_
    rintro s ⟨reached, rfl⟩
    exact ⟨reached, reached.coherent.pageObjects.symm.trans ha⟩
  | none =>
    have anywhere : ∀ s : Stage (Bench β), rig.Reached s ∧ s.world.opened = a →
        rig.ReachedWith (fun _ ↦ True) s := fun s h ↦ ⟨h.1, trivial⟩
    refine Ensures.weaken ?_ anywhere (fun _ _ h ↦ h) fun _ _ h ↦ h
    dsimp only
    refine .bind (ensures_grant (c := .startDriver) fun _ _ ↦ trivial) ?_
    rintro ⟨driver, -⟩
    refine .bind (ensures_keepGranted (c := .startDriver) (r := .driver)
      (Q := fun o ↦ o.driver = some driver) false (fun _ _ ↦ trivial) rfl fun _ _ ↦ rfl) fun _ ↦ ?_
    refine .bind (ensures_grant fun _ ho ↦ ho) ?_
    rintro ⟨browser, -⟩
    refine .bind (ensures_keepGranted (c := .launch driver _ _) (r := .browser)
      (Q := fun o ↦ o.browser = some browser) false (fun _ ho ↦ ho) rfl fun _ _ ↦ rfl) fun _ ↦ ?_
    refine .optional (keeps_onDisk _) ?_
    refine .bind (ensures_grant fun _ ho ↦ ho) ?_
    rintro ⟨context, -⟩
    refine .bind (ensures_keepGranted (c := .openContext browser _) (r := .context)
      (Q := fun o ↦ o.context = some context) false (fun _ ho ↦ ho) rfl fun _ _ ↦ rfl) fun _ ↦ ?_
    have traces : (Call.startTracing context).WorksOn context := ⟨⟨rfl, fun _ ↦ rfl⟩, rfl⟩
    refine .optional (keeps_call traces fun _ ↦ Opened.holds_context) ?_
    refine .bind (ensures_grant fun _ ho ↦ ho) ?_
    rintro ⟨handle, recordsVideo⟩
    refine .bind (ensures_keepGranted (c := .openPage context) (r := .page)
      (Q := fun o ↦ o.page = some ⟨handle, recordsVideo⟩) recordsVideo (fun _ ho ↦ ho) rfl
      fun _ _ ↦ rfl) fun _ ↦ ?_
    exact .bind (keeps_report _ _ _) fun _ ↦ .pure _ fun _ h ↦ h

/-- Opening stays on course. -/
theorem staysOnCourse_start : rig.StaysOnCourse rig.start :=
  Ensures.weaken ensures_start_page (fun _ h ↦ h) (fun _ _ h ↦ h.1) fun _ _ h ↦ h

/-! ### On the open page -/

private theorem Reaches.worked_all {o : Opened} {made more : List Exchange}
    (reaches : rig.Reaches o made) (works : ∀ x ∈ more, ∃ h, x.call.WorksOn h ∧ o.Holds h) :
    rig.Reaches o (made ++ more) := by
  induction more generalizing made with
  | nil => rwa [List.append_nil]
  | cons x more ih =>
    obtain ⟨⟨h, hx, holds⟩, works⟩ := List.forall_mem_cons.mp works
    rw [List.append_cons]
    exact ih (reaches.worked hx holds x.answered) works

-- Only the reserved video may differ after work on what is open, and then there is a page.
private theorem reached_of_working {s t : Stage (Bench β)} (reached : rig.Reached s)
    (isOpen : s.world.opened.page.isSome)
    (working : Working s.world.exchanges s.world.opened.bare t) : rig.Reached t := by
  obtain ⟨made, exchanges, same, works⟩ := working
  have opened : t.world.opened =
      { s.world.opened with reservedVideo := t.world.opened.reservedVideo } := by
    calc t.world.opened
        = { t.world.opened.bare with reservedVideo := t.world.opened.reservedVideo } := rfl
      _ = _ := by rw [same]; rfl
  exact .of_eq ((Reaches.worked_all reached works).reserved isOpen _) exchanges opened

/-- What is orderly on the open page stays on course. -/
theorem ensures_orderly {page : Page} {p : Play (Bench β) α}
    (orderly : ∀ before o, o.page = some page → Orderly before o p) :
    Ensures (rig.ReachedWith fun o ↦ o.page = some page) p (fun _ ↦ rig.Reached)
      fun _ ↦ rig.Reached := by
  rintro s ⟨reached, isOpen⟩
  have worked := orderly s.world.exchanges s.world.opened.bare isOpen s (Working.nil s)
  have present : s.world.opened.page.isSome := by rw [isOpen]; rfl
  cases hp : p s with
  | ok a t =>
    rw [hp] at worked
    exact reached_of_working reached present worked
  | error e t =>
    rw [hp] at worked
    exact reached_of_working reached present worked

private theorem keeps_onPage {p : Play (Bench β) α} (orderly : ∀ before o, Orderly before o p)
    (idle : ∀ s : Stage (Bench β), s.world.opened.page = none → ∃ a, p s = .ok a s) :
    rig.StaysOnCourse p := by
  intro s reached
  cases hp : s.world.opened.page with
  | none =>
    obtain ⟨a, ha⟩ := idle s hp
    rw [ha]
    exact reached
  | some page => exact ensures_orderly (fun before o _ ↦ orderly before o) s ⟨reached, hp⟩

/-- Asking for the title stays on course. -/
theorem staysOnCourse_pageTitle : rig.StaysOnCourse rig.pageTitle := by
  refine keeps_onPage (fun _ _ ↦ orderly_pageTitle) fun s hp ↦ ⟨none, ?_⟩
  exact (bind_of_ok _ rfl).trans (by rw [hp]; rfl)

/-- Taking a screenshot stays on course. -/
theorem staysOnCourse_captureScreenshot (stamp : Option String) :
    rig.StaysOnCourse (rig.captureScreenshot stamp) := by
  refine keeps_onPage (fun _ _ ↦ orderly_captureScreenshot stamp) fun s hp ↦ ⟨none, ?_⟩
  exact (bind_of_ok _ rfl).trans (by rw [hp]; rfl)

/-- Reserving a video stays on course. -/
theorem staysOnCourse_reserveFailureVideo (stamp : Option String) :
    rig.StaysOnCourse (rig.reserveFailureVideo stamp) := by
  refine keeps_onPage (fun _ _ ↦ orderly_reserveFailureVideo stamp) fun s hp ↦ ⟨none, ?_⟩
  exact (bind_of_ok _ rfl).trans (by rw [hp]; rfl)

/-! ### Closing -/

/-- A session that is closed has come to what it can come to. -/
theorem Reached.close {s : Stage (Bench β)} (reached : rig.Reached s) :
    rig.Reached (rig.close s).2 := by
  obtain ⟨shut, calls, exchanges, opened⟩ := rig.close_spec s
  exact .of_eq (.closed reached _ calls) exchanges opened

/-- Closing stays on course. -/
theorem staysOnCourse_close : rig.StaysOnCourse rig.close.toPlay :=
  fun _ reached ↦ reached.close

/-- Being within a session stays on course if what is done within it does. -/
theorem StaysOnCourse.within {body : Page → Play (Bench β) α}
    (h : ∀ page, rig.StaysOnCourse (body page)) : rig.StaysOnCourse (rig.within body) := by
  refine Ensures.bind ensures_start_page fun page ↦ ?_
  refine Ensures.weaken ?_ (fun _ h ↦ h.1) (fun _ _ h ↦ h) fun _ _ h ↦ h
  refine .bind (Keeps.attempt (h page)) fun outcome ↦ .bind staysOnCourse_close fun _ ↦ ?_
  cases outcome with
  | ok a => exact Keeps.pure a
  | error e => exact fun _ h ↦ h

end Playbook.Rig
