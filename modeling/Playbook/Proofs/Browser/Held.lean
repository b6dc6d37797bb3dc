import Playbook.Browser.Bench
import Playbook.Proofs.Run.Contract

/-!
# What a session holds

A handle is the place of the call that handed it out among all calls. So a stretch of calls, taken
with the place it starts at, tells by itself what it obtained: `Held` says that all of it is still
open, that no call of the stretch was made on anything older, and that driver and browser were
started once at most. `Sound` adds that what is not open was not started either, as long as nothing
has failed. Closing all that is open completes the stretch to one with a browser of its own
(`Held.oneBrowser`).
-/

namespace Playbook

namespace Browser

namespace Call

/-- The call that starts a driver. -/
def isStart : Call → Bool
  | .startDriver => true
  | _ => false

/-- The call that launches a browser. -/
def isLaunch : Call → Bool
  | .launch .. => true
  | _ => false

/-- The call that closes what a call hands out under a handle. -/
def closer? (h : Handle) : Call → Option Call
  | .startDriver => some (.stopDriver h)
  | .launch .. => some (.closeBrowser h)
  | .openContext .. => some (.closeContext h)
  | .openPage _ => some (.closePage h)
  | _ => none

/-- The call closes something. -/
def isCloser : Call → Bool
  | .closePage _ | .closeContext _ | .closeBrowser _ | .stopDriver _ => true
  | _ => false

/-- A call on something that hands nothing out. -/
structure Uses (h : Handle) (c : Call) : Prop where
  target : c.target? = some h
  noCloser : ∀ k, c.closer? k = none

/-- A call on something that neither hands anything out nor closes anything. -/
structure WorksOn (h : Handle) (c : Call) : Prop extends Uses h c where
  noClosing : c.isCloser = false

private theorem Uses.not_start {h : Handle} {c : Call} (hc : c.Uses h) : c.isStart = false := by
  cases c with
  | startDriver => cases hc.noCloser 0
  | _ => rfl

private theorem Uses.not_launch {h : Handle} {c : Call} (hc : c.Uses h) : c.isLaunch = false := by
  cases c with
  | launch => cases hc.noCloser 0
  | _ => rfl

/-- What closes a thing is called on that thing. -/
theorem target?_closer {h : Handle} {c closer : Call} (hc : c.closer? h = some closer) :
    closer.target? = some h := by
  cases c <;> cases hc <;> rfl

end Call

namespace Opened

/-- What is open, without the reservation of a video. -/
def bare (o : Opened) : Opened := { o with reservedVideo := none }

/-- The calls that close what is open. -/
def closers (o : Opened) : List Call :=
  (o.page.map fun page => .closePage page.handle).toList ++ (o.context.map .closeContext).toList ++
    (o.browser.map .closeBrowser).toList ++ (o.driver.map .stopDriver).toList

/-- Something is open under a handle. -/
def Holds (o : Opened) (h : Handle) : Prop :=
  ∃ closer ∈ o.closers, closer.target? = some h

/-- A page that is open is held. -/
theorem holds_page {o : Opened} {page : Page} (h : o.page = some page) : o.Holds page.handle :=
  ⟨.closePage page.handle, by simp [closers, h], rfl⟩

/-- A context that is open is held. -/
theorem holds_context {o : Opened} {context : Handle} (h : o.context = some context) :
    o.Holds context :=
  ⟨.closeContext context, by simp [closers, h], rfl⟩

/-- A browser that is open is held. -/
theorem holds_browser {o : Opened} {browser : Handle} (h : o.browser = some browser) :
    o.Holds browser :=
  ⟨.closeBrowser browser, by simp [closers, h], rfl⟩

/-- A driver that is open is held. -/
theorem holds_driver {o : Opened} {driver : Handle} (h : o.driver = some driver) :
    o.Holds driver :=
  ⟨.stopDriver driver, by simp [closers, h], rfl⟩

end Opened

/-- How often a call of some kind was tried in a stretch of calls. -/
def tries (kind : Call → Bool) (made : List Exchange) : Nat := made.countP fun x => kind x.call

private theorem tries_append (kind : Call → Bool) (made more : List Exchange) :
    tries kind (made ++ more) = tries kind made + tries kind more :=
  List.countP_append

private theorem tries_eq_zero {kind : Call → Bool} {made : List Exchange}
    (h : ∀ x ∈ made, kind x.call = false) : tries kind made = 0 :=
  List.countP_eq_zero.mpr fun x hx ↦ by simp [h x hx]

private theorem tries_concat_of_not {kind : Call → Bool} {made : List Exchange} {x : Exchange}
    (h : kind x.call = false) : tries kind (made ++ [x]) = tries kind made := by
  rw [tries_append, tries_eq_zero (List.forall_mem_singleton.mpr h), Nat.add_zero]

/-- What is tried only where it was not tried before is tried once at most. -/
theorem tries_concat_le {kind : Call → Bool} {made : List Exchange} {x : Exchange}
    (le : tries kind made ≤ 1) (fresh : kind x.call = true → tries kind made = 0) :
    tries kind (made ++ [x]) ≤ 1 := by
  cases hx : kind x.call with
  | false =>
    rw [tries_concat_of_not hx]
    exact le
  | true =>
    rw [tries_append, fresh hx, Nat.zero_add]
    exact List.countP_le_length

/-- After the calls `made`, the first of which has place `n`, everything that they obtained is
open; they were made on nothing older, and started driver and browser once at most. -/
structure Held (n : Nat) (o : Opened) (made : List Exchange) : Prop where
  starts_le : tries Call.isStart made ≤ 1
  launches_le : tries Call.isLaunch made ≤ 1
  targets : ∀ x ∈ made, ∀ h, x.call.target? = some h → n ≤ h
  held : ∀ before (x : Exchange) after, made = before ++ x :: after → x.answered = true →
    ∀ closer, x.call.closer? (n + before.length) = some closer → closer ∈ o.closers
  own : ∀ closer ∈ o.closers, ∀ h, closer.target? = some h → n ≤ h

/-- A stretch of calls, the first of which has place `n`, with a browser of its own: it starts one
driver and launches one browser at most, it is made on nothing older, and whatever it obtains, it
closes or stops later on. -/
structure OneBrowser (n : Nat) (made : List Exchange) : Prop where
  starts_le : tries Call.isStart made ≤ 1
  launches_le : tries Call.isLaunch made ≤ 1
  targets : ∀ x ∈ made, ∀ h, x.call.target? = some h → n ≤ h
  closed : ∀ before (x : Exchange) after, made = before ++ x :: after → x.answered = true →
    ∀ closer, x.call.closer? (n + before.length) = some closer → ∃ y ∈ after, y.call = closer

/-- Everything obtained is open, and what is not open was not even started. -/
structure Sound (n : Nat) (o : Opened) (made : List Exchange) : Prop extends Held n o made where
  unstarted : o.driver = none → tries Call.isStart made = 0
  unlaunched : o.browser = none → tries Call.isLaunch made = 0

variable {n : Nat} {o o' : Opened} {made : List Exchange}

/-- Before the first call nothing is open. -/
theorem Sound.nil (n : Nat) : Sound n {} [] :=
  { starts_le := Nat.zero_le 1
    launches_le := Nat.zero_le 1
    targets := nofun
    held := fun before _ _ h ↦ absurd h (by simp)
    own := nofun
    unstarted := fun _ ↦ rfl
    unlaunched := fun _ ↦ rfl }

private theorem Held.append (h : Held n o made) {x : Exchange}
    (start : x.call.isStart = true → tries Call.isStart made = 0)
    (launch : x.call.isLaunch = true → tries Call.isLaunch made = 0)
    (target : ∀ t, x.call.target? = some t → n ≤ t)
    (handed : x.answered = true →
      ∀ closer, x.call.closer? (n + made.length) = some closer → closer ∈ o'.closers)
    (kept : ∀ closer ∈ o.closers, closer ∈ o'.closers)
    (own : ∀ closer ∈ o'.closers, ∀ t, closer.target? = some t → n ≤ t) :
    Held n o' (made ++ [x]) where
  starts_le := tries_concat_le h.starts_le start
  launches_le := tries_concat_le h.launches_le launch
  targets := by
    simp only [List.mem_append, List.mem_singleton]
    rintro y (hy | rfl)
    · exact h.targets y hy
    · exact target
  held before y after split answered closer hc := by
    obtain rfl | ⟨after, z, rfl⟩ := List.eq_nil_or_concat after
    · obtain ⟨rfl, hx⟩ := List.append_inj' split rfl
      obtain rfl := List.singleton_inj.mp hx
      exact handed answered closer hc
    · rw [List.concat_eq_append, ← List.cons_append, ← List.append_assoc] at split
      exact kept closer (h.held before y after (List.append_inj' split rfl).1 answered closer hc)
  own := own

/-- No calls have a browser of their own. -/
theorem OneBrowser.nil (n : Nat) : OneBrowser n [] :=
  { starts_le := Nat.zero_le 1
    launches_le := Nat.zero_le 1
    targets := nofun
    closed := fun before _ _ h ↦ absurd h (by simp) }

/-- Once everything that is open is closed, the calls had a browser of their own. -/
theorem Held.oneBrowser (h : Held n o made) {shut : List Exchange}
    (uses : ∀ x ∈ shut, ∃ t, x.call.Uses t ∧ o.Holds t)
    (all : ∀ closer ∈ o.closers, ∃ y ∈ shut, y.call = closer) : OneBrowser n (made ++ shut) where
  starts_le := by
    have none : tries Call.isStart shut = 0 := tries_eq_zero fun x hx ↦ by
      obtain ⟨t, used, -⟩ := uses x hx
      exact used.not_start
    rw [tries_append, none]
    exact h.starts_le
  launches_le := by
    have none : tries Call.isLaunch shut = 0 := tries_eq_zero fun x hx ↦ by
      obtain ⟨t, used, -⟩ := uses x hx
      exact used.not_launch
    rw [tries_append, none]
    exact h.launches_le
  targets x hx t ht := by
    obtain hx | hx := List.mem_append.mp hx
    · exact h.targets x hx t ht
    · obtain ⟨u, used, closer, hcl, target⟩ := uses x hx
      cases ht.symm.trans used.target
      exact h.own closer hcl t target
  closed before x after split answered closer hc := by
    obtain ⟨later, rfl, rest⟩ | ⟨later, rfl, rest⟩ := List.append_eq_append_iff.mp split
    · -- the call is one of those that close something, so it obtained nothing
      obtain ⟨t, used, -⟩ := uses x (rest ▸ List.mem_append_right _ List.mem_cons_self)
      rw [used.noCloser] at hc
      cases hc
    · cases later with
      | nil =>
        obtain rfl : x :: after = shut := rest
        obtain ⟨t, used, -⟩ := uses x List.mem_cons_self
        rw [used.noCloser] at hc
        cases hc
      | cons y later =>
        obtain ⟨rfl, rfl⟩ := List.cons.inj rest
        obtain ⟨y, hy, rfl⟩ := all closer (h.held before x later rfl answered closer hc)
        exact ⟨y, List.mem_append_right _ hy, rfl⟩

namespace Sound

/-- A call that is refused may have been one that starts something. -/
theorem refused (h : Sound n o made) {c : Call} (start : c.isStart = true → o.driver = none)
    (launch : c.isLaunch = true → o.browser = none) (target : ∀ t, c.target? = some t → n ≤ t) :
    Held n o (made ++ [⟨c, false⟩]) :=
  h.toHeld.append (fun hc ↦ h.unstarted (start hc)) (fun hc ↦ h.unlaunched (launch hc)) target
    nofun (fun _ hc ↦ hc) h.own

/-- What a call hands out is open from then on. -/
theorem obtained (h : Sound n o made) {c : Call} (start : c.isStart = true → o.driver = none)
    (launch : c.isLaunch = true → o.browser = none) (target : ∀ t, c.target? = some t → n ≤ t)
    (closers : ∀ closer, closer ∈ o'.closers ↔
      closer ∈ o.closers ∨ c.closer? (n + made.length) = some closer)
    (driver : o'.driver = none → o.driver = none ∧ c.isStart = false)
    (browser : o'.browser = none → o.browser = none ∧ c.isLaunch = false) :
    Sound n o' (made ++ [⟨c, true⟩]) where
  toHeld := by
    refine h.toHeld.append (fun hc ↦ h.unstarted (start hc)) (fun hc ↦ h.unlaunched (launch hc))
      target (fun _ closer hc ↦ (closers closer).mpr (.inr hc))
      (fun closer hc ↦ (closers closer).mpr (.inl hc)) fun closer hc t ht ↦ ?_
    obtain hc | hc := (closers closer).mp hc
    · exact h.own closer hc t ht
    · have : closer.target? = some (n + made.length) := Call.target?_closer hc
      cases ht.symm.trans this
      exact Nat.le_add_right ..
  unstarted hd := by
    obtain ⟨hd, hc⟩ := driver hd
    rw [tries_concat_of_not hc, h.unstarted hd]
  unlaunched hb := by
    obtain ⟨hb, hc⟩ := browser hb
    rw [tries_concat_of_not hc, h.unlaunched hb]

/-- A call on something of one's own that hands nothing out changes nothing that is held. -/
theorem used (h : Sound n o made) {t : Handle} (ht : n ≤ t) {c : Call} (hc : c.Uses t)
    (answered : Bool) : Sound n o (made ++ [⟨c, answered⟩]) where
  toHeld := by
    have target : ∀ k, c.target? = some k → n ≤ k := fun k hk ↦ by
      cases hk.symm.trans hc.target
      exact ht
    exact h.toHeld.append (by simp [hc.not_start]) (by simp [hc.not_launch]) target
      (fun _ closer hcl ↦ by simp [hc.noCloser] at hcl) (fun _ hcl ↦ hcl) h.own
  unstarted hd := by rw [tries_concat_of_not hc.not_start, h.unstarted hd]
  unlaunched hb := by rw [tries_concat_of_not hc.not_launch, h.unlaunched hb]

/-- Work on what is open changes nothing that is held. -/
theorem worked (h : Sound n o made) {more : List Exchange}
    (works : ∀ x ∈ more, ∃ t, x.call.WorksOn t ∧ o.Holds t) : Sound n o (made ++ more) := by
  induction more generalizing made with
  | nil => rwa [List.append_nil]
  | cons x more ih =>
    obtain ⟨⟨t, hx, closer, hcl, target⟩, works⟩ := List.forall_mem_cons.mp works
    rw [List.append_cons]
    exact ih (h.used (h.own closer hcl t target) hx.toUses x.answered) works

end Sound

end Browser

end Playbook
