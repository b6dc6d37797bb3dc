import Playbook.Browser.Session
import Playbook.Proofs.Browser.Held

/-!
# What sessions do

A session that goes on is sound (`Opening`), and when it fails it may be left half open, but nothing
that it obtained is lost (`BrokenOff`). Starting opens everything or breaks off (`ensures_start`);
what is done on the open page only works on what is open (`Orderly`) and so keeps the session as it
is.
-/

namespace Playbook

open Browser

variable {β α : Type} {rig : Rig β} {before : List Exchange} {o : Opened}

/-- Since the calls `before`, the session opened `o`, and it is sound. -/
def Opening (before : List Exchange) (o : Opened) (s : Stage (Bench β)) : Prop :=
  ∃ made, s.world.exchanges = before ++ made ∧ s.world.opened.bare = o ∧
    Sound before.length o made

/-- Since the calls `before`, nothing that the session obtained is lost. -/
def BrokenOff (before : List Exchange) (s : Stage (Bench β)) : Prop :=
  ∃ made, s.world.exchanges = before ++ made ∧
    Held before.length s.world.opened.bare made

/-- Either nothing is open or a page is, and the page objects act on it. -/
def Browser.Opened.AllOrNothing (o : Opened) : Prop :=
  (o = {} ∨ o.page.isSome) ∧ o.pageObjects = o.page

/-- Since the calls `before`, the session is sound, and either a page is open or nothing is. -/
def Going (before : List Exchange) (s : Stage (Bench β)) : Prop :=
  ∃ o, Opening before o s ∧ o.AllOrNothing

/-- Since the calls `before`, there was work on what is open, `o`, and it still is. -/
def Working (before : List Exchange) (o : Opened) (s : Stage (Bench β)) : Prop :=
  ∃ made, s.world.exchanges = before ++ made ∧ s.world.opened.bare = o ∧
    ∀ x ∈ made, ∃ h, x.call.WorksOn h ∧ o.Holds h

/-- An opening that goes on may be broken off at any time. -/
theorem Opening.brokenOff {s : Stage (Bench β)} (h : Opening before o s) : BrokenOff before s := by
  obtain ⟨made, exchanges, rfl, sound⟩ := h
  exact ⟨made, exchanges, sound.toHeld⟩

/-- A play that only works on what is open, whether it goes through or fails. -/
abbrev Orderly (before : List Exchange) (o : Opened) (p : Play (Bench β) α) : Prop :=
  Keeps (Working before o) (fun _ ↦ Working before o) p

/-- Where there was no call yet, there was no work yet. -/
theorem Working.nil (s : Stage (Bench β)) :
    Working s.world.exchanges s.world.opened.bare s :=
  ⟨[], (List.append_nil _).symm, rfl, nofun⟩

/-- A call that may be made while `o` is open: it starts nothing that is open already, and it is
made on something open. -/
structure Browser.Call.Fits (o : Opened) (c : Call) : Prop where
  start : c.isStart = true → o.driver = none
  launch : c.isLaunch = true → o.browser = none
  target : ∀ t, c.target? = some t → o.Holds t

private theorem Browser.Call.fits_startDriver (h : o.driver = none) : Call.startDriver.Fits o :=
  ⟨fun _ ↦ h, nofun, nofun⟩

private theorem Browser.Call.fits_launch {driver : Handle} {headless : Bool} {slowMo : Number}
    (hd : o.driver = some driver) (hb : o.browser = none) :
    (Call.launch driver headless slowMo).Fits o :=
  ⟨nofun, fun _ ↦ hb, fun _ ht ↦ Option.some.inj ht ▸ Opened.holds_driver hd⟩

private theorem Browser.Call.fits_openContext {browser : Handle} {videos : Option Path}
    (hb : o.browser = some browser) : (Call.openContext browser videos).Fits o :=
  ⟨nofun, nofun, fun _ ht ↦ Option.some.inj ht ▸ Opened.holds_browser hb⟩

private theorem Browser.Call.fits_openPage {context : Handle} (hc : o.context = some context) :
    (Call.openPage context).Fits o :=
  ⟨nofun, nofun, fun _ ht ↦ Option.some.inj ht ▸ Opened.holds_context hc⟩

namespace Rig

/-- A call is noted, answered or not, and opens nothing by itself. -/
theorem call_cases (rig : Rig β) (c : Call) (s : Stage (Bench β)) :
    (∃ a t, rig.call c s = .ok a t ∧ t.world.exchanges = s.world.exchanges ++ [⟨c, true⟩] ∧
      t.world.opened = s.world.opened) ∨
    (∃ e t, rig.call c s = .error e t ∧ t.world.exchanges = s.world.exchanges ++ [⟨c, false⟩] ∧
      t.world.opened = s.world.opened) := by
  rcases h : rig.outside.answer c s.world.outside with ⟨reply, outside⟩
  cases reply with
  | ok a =>
    refine .inl ⟨a, { s with world := { s.world with outside, exchanges := _ } }, ?_, rfl, rfl⟩
    simp only [call, h]
  | error m =>
    refine .inr ⟨m.failure, { s with world := { s.world with outside, exchanges := _ } }, ?_, rfl,
      rfl⟩
    simp only [call, h]

/-! ### What keeps a session as it is -/

/-- These calls were made, and this is open. -/
def Stands (made : List Exchange) (o : Opened) (s : Stage (Bench β)) : Prop :=
  s.world.exchanges = made ∧ s.world.opened.bare = o

/-- A play that makes no calls and leaves what is open as it is, whether it goes through or
fails. -/
def Offline (p : Play (Bench β) α) : Prop :=
  ∀ made o, Keeps (Stands made o) (fun _ ↦ Stands made o) p

namespace Offline

variable {γ : Type}

/-- What does nothing is done offline. -/
theorem pure (a : α) : Offline (Pure.pure a : Play (Bench β) α) :=
  fun _ _ ↦ .pure a

/-- A sequence is done offline if its parts are. -/
theorem bind {p : Play (Bench β) α} {f : α → Play (Bench β) γ} (hp : Offline p)
    (hf : ∀ a, Offline (f a)) : Offline (p >>= f) :=
  fun made o ↦ .bind (hp made o) fun a ↦ hf a made o

end Offline

/-- Nothing is called to write to the log. -/
theorem offline_report (level : Level) (source : Source) (text : String) :
    Offline (Play.report level source text : Play (Bench β) Unit) :=
  fun _ _ _ h ↦ h

/-- Nothing is called to bind a variable. -/
theorem offline_bindVariable (name : String) (v : Value) :
    Offline (Play.bindVariable name v : Play (Bench β) Unit) :=
  fun _ _ _ h ↦ h

/-- Nothing is called to read the clock. -/
theorem offline_now : Offline rig.now :=
  fun _ _ _ h ↦ h

/-- Nothing is called to work on the disk. -/
theorem offline_onDisk (w : Disk.Writing α) : Offline (onDisk w : Play (Bench β) α) := by
  intro made o s h
  unfold onDisk
  cases w s.world.disk with
  | ok a d => exact h
  | error f d => exact h

/-- Without calls, there is nothing but what there was. -/
theorem Offline.orderly {p : Play (Bench β) α} (h : Offline p) : Orderly before o p := by
  rintro s ⟨made, exchanges, opened, works⟩
  have left := h (before ++ made) o s ⟨exchanges, opened⟩
  cases hp : p s with
  | ok a t =>
    rw [hp] at left
    exact ⟨made, left.1, left.2, works⟩
  | error e t =>
    rw [hp] at left
    exact ⟨made, left.1, left.2, works⟩

/-- A call that works on something open is orderly. -/
theorem orderly_call {c : Call} {h : Handle} (hc : c.WorksOn h) (holds : o.Holds h) :
    Orderly before o (rig.call c) := by
  rintro s ⟨made, exchanges, opened, works⟩
  have more (answered : Bool) : ∀ x ∈ made ++ [⟨c, answered⟩],
      ∃ t, x.call.WorksOn t ∧ o.Holds t := by
    simp only [List.mem_append, List.mem_singleton]
    rintro x (hx | rfl)
    · exact works x hx
    · exact ⟨h, hc, holds⟩
  obtain ⟨a, t, hp, he, ho⟩ | ⟨e, t, hp, he, ho⟩ := rig.call_cases c s
  · rw [hp]
    exact ⟨made ++ [⟨c, true⟩], by rw [he, exchanges, List.append_assoc], ho ▸ opened, more true⟩
  · rw [hp]
    exact ⟨made ++ [⟨c, false⟩], by rw [he, exchanges, List.append_assoc], ho ▸ opened, more false⟩

/-- What is open can be looked at. -/
theorem ensures_opened {broken : Failure → Stage (Bench β) → Prop} :
    Ensures (Working before o) opened (fun a s ↦ Working before o s ∧ a.bare = o) broken := by
  rintro s ⟨made, exchanges, opened, works⟩
  exact ⟨⟨made, exchanges, opened, works⟩, opened⟩

/-- Work on what is open keeps a session sound. -/
theorem keeps_opening {p : Play (Bench β) α} (h : ∀ made, Orderly made o p) :
    Keeps (Opening before o) (fun _ ↦ Opening before o) p := by
  rintro s ⟨made, exchanges, opened, sound⟩
  have worked := h s.world.exchanges s (opened ▸ Working.nil s)
  cases hp : p s with
  | ok a t =>
    rw [hp] at worked
    obtain ⟨more, exchanges', opened', works⟩ := worked
    exact ⟨made ++ more, by rw [exchanges', exchanges, List.append_assoc], opened',
      sound.worked works⟩
  | error e t =>
    rw [hp] at worked
    obtain ⟨more, exchanges', opened', works⟩ := worked
    exact ⟨made ++ more, by rw [exchanges', exchanges, List.append_assoc], opened',
      sound.worked works⟩

/-! ### Starting -/

/-- A call has handed something out that is not yet kept. -/
def Handed (before : List Exchange) (o : Opened) (c : Call) (handle : Handle)
    (s : Stage (Bench β)) : Prop :=
  ∃ made, handle = before.length + made.length ∧
    s.world.exchanges = before ++ (made ++ [⟨c, true⟩]) ∧ s.world.opened.bare = o ∧
    Sound before.length o made

/-- Something is obtained, or the session breaks off. -/
theorem ensures_obtain {c : Call} (fits : c.Fits o) :
    Ensures (Opening before o) (rig.obtain c) (fun r ↦ Handed before o c r.1)
      fun _ ↦ BrokenOff before := by
  rintro s ⟨made, exchanges, opened, sound⟩
  have length : s.world.exchanges.length = before.length + made.length := by
    rw [exchanges, List.length_append]
  obtain ⟨a, t, hp, he, ho⟩ | ⟨e, t, hp, he, ho⟩ := rig.call_cases c s
  · have handed : rig.obtain c s = .ok (s.world.exchanges.length, a) t :=
      (bind_of_ok _ (t := s) rfl).trans (bind_of_ok _ hp)
    rw [handed]
    exact ⟨made, length, by rw [he, exchanges, List.append_assoc], ho ▸ opened, sound⟩
  · have refused : rig.obtain c s = .error e t :=
      (bind_of_ok _ (t := s) rfl).trans (bind_of_error _ hp)
    rw [refused]
    refine ⟨made ++ [⟨c, false⟩], by rw [he, exchanges, List.append_assoc], ?_⟩
    rw [ho, opened]
    refine sound.refused fits.start fits.launch fun t ht ↦ ?_
    obtain ⟨closer, hcl, target⟩ := fits.target t ht
    exact sound.own closer hcl t target

private theorem ensures_keep {c : Call} {handle : Handle} {f : Opened → Opened} (fits : c.Fits o)
    (bare : ∀ a, (f a).bare = f a.bare)
    (closers : ∀ closer, closer ∈ (f o).closers ↔
      closer ∈ o.closers ∨ c.closer? handle = some closer)
    (driver : (f o).driver = none → o.driver = none ∧ c.isStart = false)
    (browser : (f o).browser = none → o.browser = none ∧ c.isLaunch = false)
    {broken : Failure → Stage (Bench β) → Prop} :
    Ensures (Handed before o c handle) (modifyOpened f) (fun _ ↦ Opening before (f o)) broken := by
  rintro s ⟨made, rfl, exchanges, opened, sound⟩
  refine ⟨made ++ [⟨c, true⟩], exchanges, ?_, ?_⟩
  · exact (bare s.world.opened).trans (congrArg f opened)
  · refine sound.obtained fits.start fits.launch (fun t ht ↦ ?_) closers driver browser
    obtain ⟨closer, hcl, target⟩ := fits.target t ht
    exact sound.own closer hcl t target

section

variable {handle : Handle} {broken : Failure → Stage (Bench β) → Prop}

private theorem ensures_keepDriver (hd : o.driver = none) :
    Ensures (Handed before o .startDriver handle)
      (modifyOpened fun o => { o with driver := some handle })
      (fun _ ↦ Opening before { o with driver := some handle }) broken := by
  refine ensures_keep (f := fun o => { o with driver := some handle }) (Call.fits_startDriver hd)
    (fun _ ↦ rfl) (fun closer ↦ ?_) nofun fun hb ↦ ⟨hb, rfl⟩
  simp only [Opened.closers, Call.closer?, hd]
  grind

private theorem ensures_keepBrowser {driver : Handle} {headless : Bool} {slowMo : Number}
    (hd : o.driver = some driver) (hb : o.browser = none) :
    Ensures (Handed before o (.launch driver headless slowMo) handle)
      (modifyOpened fun o => { o with browser := some handle })
      (fun _ ↦ Opening before { o with browser := some handle }) broken := by
  refine ensures_keep (f := fun o => { o with browser := some handle }) (Call.fits_launch hd hb)
    (fun _ ↦ rfl) (fun closer ↦ ?_) (fun hd ↦ ⟨hd, rfl⟩) nofun
  simp only [Opened.closers, Call.closer?, hb]
  grind

private theorem ensures_keepContext {browser : Handle} {videos : Option Path}
    (hb : o.browser = some browser) (hc : o.context = none) :
    Ensures (Handed before o (.openContext browser videos) handle)
      (modifyOpened fun o => { o with context := some handle })
      (fun _ ↦ Opening before { o with context := some handle }) broken := by
  refine ensures_keep (f := fun o => { o with context := some handle }) (Call.fits_openContext hb)
    (fun _ ↦ rfl) (fun closer ↦ ?_) (fun hd ↦ ⟨hd, rfl⟩) fun hb ↦ ⟨hb, rfl⟩
  simp only [Opened.closers, Call.closer?, hc]
  grind

private theorem ensures_keepPage {context : Handle} {recordsVideo : Bool}
    (hc : o.context = some context) (hp : o.page = none) :
    Ensures (Handed before o (.openPage context) handle)
      (modifyOpened fun o =>
        { o with
          page := some ⟨handle, recordsVideo⟩
          pageObjects := some ⟨handle, recordsVideo⟩ })
      (fun _ ↦ Opening before
        { o with
          page := some ⟨handle, recordsVideo⟩
          pageObjects := some ⟨handle, recordsVideo⟩ }) broken := by
  refine ensures_keep
    (f := fun o =>
      { o with
        page := some ⟨handle, recordsVideo⟩
        pageObjects := some ⟨handle, recordsVideo⟩ })
    (Call.fits_openPage hc) (fun _ ↦ rfl) (fun closer ↦ ?_) (fun hd ↦ ⟨hd, rfl⟩)
    fun hb ↦ ⟨hb, rfl⟩
  simp only [Opened.closers, Call.closer?, hp]
  grind

end

private theorem brokenOff_of_orderly {p : Play (Bench β) α} (h : ∀ made, Orderly made o p) :
    Keeps (Opening before o) (fun _ ↦ BrokenOff before) p :=
  Ensures.weaken (keeps_opening h) (fun _ h ↦ h) (fun _ _ h ↦ h) fun _ _ h ↦ h.brokenOff

/-- A session that is kept as it is goes on as before. -/
theorem ensures_going {p : Play (Bench β) α} (h : ∀ made, Orderly made o p)
    (either : o.AllOrNothing) :
    Ensures (Opening before o) p (fun _ ↦ Going before) fun _ ↦ BrokenOff before :=
  Ensures.weaken (keeps_opening h) (fun _ h ↦ h) (fun _ _ h ↦ ⟨o, h, either⟩)
    fun _ _ h ↦ h.brokenOff

/-- Opening everything from nothing leaves a page open, or the session breaks off. -/
theorem ensures_start :
    Ensures (Going before) rig.start
      (fun page s ↦ ∃ o, Opening before o s ∧ o.page = some page ∧ o.pageObjects = some page)
      fun _ ↦ BrokenOff before := by
  have look : Ensures (Going before) opened
      (fun a s ↦ Opening before a.bare s ∧ a.bare.AllOrNothing)
      (fun _ ↦ BrokenOff (β := β) before) := by
    rintro s ⟨o, ⟨made, exchanges, rfl, sound⟩, isOpen⟩
    exact ⟨⟨made, exchanges, rfl, sound⟩, isOpen⟩
  refine .bind look fun a ↦ ?_
  cases ha : a.pageObjects with
  | some page => exact .pure page fun s h ↦ ⟨a.bare, h.1, h.2.2.symm.trans ha, ha⟩
  | none =>
    have nothing : ∀ s : Stage (Bench β), Opening before a.bare s ∧ a.bare.AllOrNothing →
        Opening before {} s := by
      rintro s ⟨h, hn | hn, same⟩
      · exact hn ▸ h
      · rw [show a.bare.page = none from same.symm.trans ha] at hn
        cases hn
    refine Ensures.weaken ?_ nothing (fun _ _ h ↦ h) fun _ _ h ↦ h
    dsimp only
    refine .bind (ensures_obtain (Call.fits_startDriver rfl)) ?_
    rintro ⟨driver, -⟩
    refine .bind (ensures_keepDriver rfl) fun _ ↦ ?_
    refine .bind (ensures_obtain (Call.fits_launch rfl rfl)) ?_
    rintro ⟨browser, -⟩
    refine .bind (ensures_keepBrowser rfl rfl) fun _ ↦ ?_
    refine .optional (brokenOff_of_orderly fun _ ↦ (offline_onDisk _).orderly) ?_
    refine .bind (ensures_obtain (Call.fits_openContext rfl)) ?_
    rintro ⟨context, -⟩
    refine .bind (ensures_keepContext rfl rfl) fun _ ↦ ?_
    have traces : (Call.startTracing context).WorksOn context := ⟨⟨rfl, fun _ ↦ rfl⟩, rfl⟩
    have holds {o : Opened} : Opened.Holds { o with context := some context } context :=
      Opened.holds_context rfl
    refine .optional (brokenOff_of_orderly fun _ ↦ orderly_call traces holds) ?_
    refine .bind (ensures_obtain (Call.fits_openPage rfl)) ?_
    rintro ⟨handle, recordsVideo⟩
    refine .bind (ensures_keepPage rfl rfl) fun _ ↦ ?_
    refine .bind (brokenOff_of_orderly fun _ ↦ (offline_report _ _ _).orderly) fun _ ↦ ?_
    exact .pure _ fun s h ↦ ⟨_, h, rfl, rfl⟩

/-! ### On the open page -/

private theorem orderly_opened {f : Opened → Play (Bench β) α}
    (h : ∀ a : Opened, a.bare = o → Orderly before o (f a)) : Orderly before o (opened >>= f) :=
  Ensures.bind ensures_opened fun a ↦ .of_and (h a)

private theorem orderly_stampOr (given : Option String) :
    Orderly before o (rig.stampOr given) := by
  unfold stampOr
  cases given.filter fun s => !s.isEmpty with
  | some s => exact .pure s
  | none => exact .bind offline_now.orderly fun _ ↦ .pure _

/-- Asking for the title is orderly. -/
theorem orderly_pageTitle : Orderly before o rig.pageTitle := by
  refine orderly_opened fun a ha ↦ ?_
  cases hp : a.page with
  | none => exact .pure none
  | some page =>
    have holds : o.Holds page.handle := Opened.holds_page (ha ▸ hp)
    refine .bind (.attempt (orderly_call ⟨⟨rfl, fun _ ↦ rfl⟩, rfl⟩ holds)) fun outcome ↦ ?_
    cases outcome with
    | ok title => exact .pure title
    | error e => exact .bind (offline_report _ _ _).orderly fun _ ↦ .pure none

/-- Taking a screenshot is orderly. -/
theorem orderly_captureScreenshot (stamp : Option String) :
    Orderly before o (rig.captureScreenshot stamp) := by
  refine orderly_opened fun a ha ↦ ?_
  cases hp : a.page with
  | none => exact .pure none
  | some page =>
    have holds : o.Holds page.handle := Opened.holds_page (ha ▸ hp)
    dsimp only
    split
    · exact .pure none
    · refine .bind (offline_onDisk _).orderly fun _ ↦ .bind (orderly_stampOr stamp) fun stamp ↦ ?_
      refine .bind (.attempt (orderly_call ⟨⟨rfl, fun _ ↦ rfl⟩, rfl⟩ holds)) fun outcome ↦ ?_
      cases outcome with
      | ok _ => exact .bind (offline_report _ _ _).orderly fun _ ↦ .pure _
      | error e => exact .bind (offline_report _ _ _).orderly fun _ ↦ .pure none

/-- Reserving a video is orderly. -/
theorem orderly_reserveFailureVideo (stamp : Option String) :
    Orderly before o (rig.reserveFailureVideo stamp) := by
  refine orderly_opened fun a _ ↦ ?_
  dsimp only
  split
  · exact .pure none
  · split
    · exact .pure _
    · refine .bind (orderly_stampOr stamp) fun stamp ↦ ?_
      have reserves (path : Path) : Orderly before o
          (modifyOpened (β := β) fun o => { o with reservedVideo := some path }) :=
        Offline.orderly fun _ _ _ h ↦ h
      exact .bind (reserves _) fun _ ↦ .pure _

end Rig

end Playbook
