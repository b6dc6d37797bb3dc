import Playbook.Proofs.Browser.Closing

/-!
# What a session can come to

Whatever is done with a session, it changes in a few ways: there is work on what is open, something
is obtained or refused, the name of a video is reserved, everything is closed. `Reaches` says what
can be open after which calls, and all of it was opened in layers (`Reaches.coherent`).
-/

namespace Playbook

open Browser

namespace Browser

/-- What can be obtained from a browser. -/
inductive Resource where
  | driver
  | browser
  | context
  | page
  deriving DecidableEq, Repr

/-- The call that closes a resource. -/
def Resource.closer (h : Handle) : Resource → Call
  | .driver => .stopDriver h
  | .browser => .closeBrowser h
  | .context => .closeContext h
  | .page => .closePage h

/-- A resource is closed by a call on its handle. -/
theorem Resource.target?_closer (r : Resource) (h : Handle) : (r.closer h).target? = some h := by
  cases r <;> rfl

private theorem Resource.isCloser_closer (r : Resource) (h : Handle) :
    (r.closer h).isCloser = true := by
  cases r <;> rfl

/-- What closes nothing is not the call that closes a resource. -/
theorem Resource.closer_ne {c : Call} (noCloser : c.isCloser = false) (r : Resource) (h : Handle) :
    r.closer h ≠ c := by
  rintro rfl
  exact Bool.false_ne_true (noCloser.symm.trans (r.isCloser_closer h))

namespace Call

/-- The resource that a call hands out. -/
def yields? : Call → Option Resource
  | .startDriver => some .driver
  | .launch .. => some .browser
  | .openContext .. => some .context
  | .openPage _ => some .page
  | _ => none

/-- What hands nothing out yields nothing. -/
theorem Uses.yields? {h : Handle} {c : Call} (hc : c.Uses h) : c.yields? = none := by
  cases c with
  | startDriver | launch | openContext | openPage => cases hc.noCloser 0
  | _ => rfl

/-- What yields something closes nothing. -/
theorem isCloser_of_yields? {c : Call} {r : Resource} (h : c.yields? = some r) :
    c.isCloser = false := by
  cases c <;> cases h <;> rfl

/-- A call that hands something out, made on what it needs. -/
def Ready (o : Opened) : Call → Prop
  | .startDriver => True
  | .launch driver _ _ => o.driver = some driver
  | .openContext browser _ => o.browser = some browser
  | .openPage context => o.context = some context
  | _ => False

/-- What hands something out closes nothing. -/
theorem Ready.isCloser {o : Opened} {c : Call} (ready : c.Ready o) : c.isCloser = false := by
  cases c <;> first | rfl | cases ready

end Call

namespace Opened

/-- The handle under which a resource is open. -/
def handle? (o : Opened) : Resource → Option Handle
  | .driver => o.driver
  | .browser => o.browser
  | .context => o.context
  | .page => o.page.map Page.handle

/-- What is open once a resource has been handed out. A new page gets its page objects. -/
def obtain (o : Opened) (h : Handle) (recordsVideo : Bool) : Resource → Opened
  | .driver => { o with driver := some h }
  | .browser => { o with browser := some h }
  | .context => { o with context := some h }
  | .page => { o with page := some ⟨h, recordsVideo⟩, pageObjects := some ⟨h, recordsVideo⟩ }

/-- What was handed out is open under its handle, and everything else is as it was. -/
theorem handle?_obtain (o : Opened) (h : Handle) (recordsVideo : Bool) (r q : Resource) :
    (o.obtain h recordsVideo r).handle? q = if q = r then some h else o.handle? q := by
  cases r <;> cases q <;> rfl

/-- Whatever is open under a handle is a resource. -/
theorem Holds.exists_handle? {o : Opened} {h : Handle} (holds : o.Holds h) :
    ∃ r, o.handle? r = some h := by
  obtain ⟨closer, hc, target⟩ := holds
  simp only [closers, List.mem_append, Option.mem_toList, Option.map_eq_some_iff] at hc
  obtain ((⟨page, hp, rfl⟩ | ⟨context, ho, rfl⟩) | ⟨browser, ho, rfl⟩) | ⟨driver, ho, rfl⟩ := hc
  · exact ⟨.page, by rw [handle?, hp]; exact target⟩
  · exact ⟨.context, ho.trans target⟩
  · exact ⟨.browser, ho.trans target⟩
  · exact ⟨.driver, ho.trans target⟩

/-- What a call that hands something out is made on is open. -/
theorem exists_handle?_of_ready {o : Opened} {c : Call} (ready : c.Ready o) {h : Handle}
    (target : c.target? = some h) : ∃ r, o.handle? r = some h := by
  cases c with
  | startDriver => cases target
  | launch => exact ⟨.driver, ready.trans target⟩
  | openContext => exact ⟨.browser, ready.trans target⟩
  | openPage => exact ⟨.context, ready.trans target⟩
  | _ => cases ready

/-- What is open was opened in layers: a page in a context in a browser of a driver. The page
objects act on the page, and only the video of an open page is reserved. -/
structure Coherent (o : Opened) : Prop where
  pageObjects : o.pageObjects = o.page
  page : o.page.isSome → o.context.isSome ∧ o.browser.isSome ∧ o.driver.isSome
  context : o.context.isSome → o.browser.isSome ∧ o.driver.isSome
  browser : o.browser.isSome → o.driver.isSome
  reserved : o.reservedVideo.isSome → o.page.isSome

/-- One more thing is opened in layers, when it is made on what it needs. -/
theorem Coherent.obtain {o : Opened} (coherent : o.Coherent) {c : Call} {r : Resource}
    (ready : c.Ready o) (yields : c.yields? = some r) {h : Handle} {recordsVideo : Bool} :
    (o.obtain h recordsVideo r).Coherent := by
  obtain ⟨pageObjects, page, context, browser, reserved⟩ := coherent
  cases c with
  | startDriver =>
    cases yields
    exact ⟨pageObjects, fun hp ↦ ⟨(page hp).1, (page hp).2.1, rfl⟩,
      fun hc ↦ ⟨(context hc).1, rfl⟩, fun _ ↦ rfl, reserved⟩
  | launch =>
    cases yields
    have driver : o.driver.isSome := by rw [show o.driver = _ from ready]; rfl
    exact ⟨pageObjects, fun hp ↦ ⟨(page hp).1, rfl, driver⟩, fun _ ↦ ⟨rfl, driver⟩, fun _ ↦ driver,
      reserved⟩
  | openContext =>
    cases yields
    have needed : o.browser.isSome := by rw [show o.browser = _ from ready]; rfl
    exact ⟨pageObjects, fun _ ↦ ⟨rfl, needed, browser needed⟩, fun _ ↦ ⟨needed, browser needed⟩,
      browser, reserved⟩
  | openPage =>
    cases yields
    have needed : o.context.isSome := by rw [show o.context = _ from ready]; rfl
    exact ⟨rfl, fun _ ↦ ⟨needed, context needed⟩, context, browser, fun _ ↦ rfl⟩
  | _ => cases yields

end Opened

end Browser

/-- What can be open in a session after which calls. -/
inductive Rig.Reaches {β : Type} (rig : Rig β) : Opened → List Exchange → Prop
  | new : Reaches rig {} []
  | worked {o : Opened} {made : List Exchange} {c : Call} {h : Handle}
      (earlier : Reaches rig o made) (works : c.WorksOn h) (holds : o.Holds h) (answered : Bool) :
      Reaches rig o (made ++ [⟨c, answered⟩])
  | refused {o : Opened} {made : List Exchange} {c : Call} (earlier : Reaches rig o made)
      (ready : c.Ready o) : Reaches rig o (made ++ [⟨c, false⟩])
  | obtained {o : Opened} {made : List Exchange} {c : Call} {r : Resource}
      (earlier : Reaches rig o made) (ready : c.Ready o) (yields : c.yields? = some r)
      (recordsVideo : Bool) :
      Reaches rig (o.obtain made.length recordsVideo r) (made ++ [⟨c, true⟩])
  | reserved {o : Opened} {made : List Exchange} (earlier : Reaches rig o made)
      (isOpen : o.page.isSome) (path : Option Path) :
      Reaches rig { o with reservedVideo := path } made
  | closed {o : Opened} {made shut : List Exchange} (earlier : Reaches rig o made)
      (target : Option Path) (calls : shut.map Exchange.call = rig.closing target o) :
      Reaches rig {} (made ++ shut)

/-- What can be open was opened in layers. -/
theorem Rig.Reaches.coherent {β : Type} {rig : Rig β} {o : Opened} {made : List Exchange}
    (reaches : rig.Reaches o made) : o.Coherent := by
  induction reaches with
  | new => exact ⟨rfl, nofun, nofun, nofun, nofun⟩
  | worked _ _ _ _ ih => exact ih
  | refused _ _ ih => exact ih
  | obtained _ ready yields _ ih => exact ih.obtain ready yields
  | reserved _ isOpen _ ih => exact { ih with reserved := fun _ ↦ isOpen }
  | closed _ _ _ _ => exact ⟨rfl, nofun, nofun, nofun, nofun⟩

end Playbook
