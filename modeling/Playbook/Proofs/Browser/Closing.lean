import Playbook.Proofs.Browser.Attempts
import Playbook.Proofs.Browser.Session

/-!
# What closing does

Closing makes a fixed list of calls, whatever becomes of each of them (`close_spec`): what is open
is closed, and nothing else is touched. So a session that broke off anywhere is complete once it is
closed (`oneBrowser_of_close`).
-/

namespace Playbook.Rig

open Browser

variable {α β γ : Type} {rig : Rig β}

/-- A routine that makes some calls, answered or not, and leaves what is open as it is. -/
def Makes (calls : List Call) (r : Routine (Bench β) α) : Prop :=
  ∀ s, ∃ made, made.map Exchange.call = calls ∧
    (r s).2.world.exchanges = s.world.exchanges ++ made ∧ (r s).2.world.opened = s.world.opened

namespace Makes

variable {calls more : List Call} {r : Routine (Bench β) α} {f : α → Routine (Bench β) γ}

/-- What leaves the exchanges and what is open as they are makes no call. -/
theorem of_same (h : ∀ s, (r s).2.world.exchanges = s.world.exchanges ∧
    (r s).2.world.opened = s.world.opened) : Makes [] r :=
  fun s ↦ ⟨[], rfl, by rw [(h s).1, List.append_nil], (h s).2⟩

/-- A sequence makes the calls of its parts, one part after the other. -/
theorem bind (h : Makes calls r) (hf : ∀ a, Makes more (f a)) :
    Makes (calls ++ more) (r >>= f) := by
  intro s
  obtain ⟨made, hm, he, ho⟩ := h s
  obtain ⟨made', hm', he', ho'⟩ := hf (r s).1 (r s).2
  refine ⟨made ++ made', by rw [List.map_append, hm, hm'], ?_, ho'.trans ho⟩
  rw [← List.append_assoc, ← he]
  exact he'

/-- What makes no more calls may follow. -/
theorem bind_of_same (h : Makes calls r) (hf : ∀ a, Makes [] (f a)) : Makes calls (r >>= f) :=
  List.append_nil calls ▸ h.bind hf

end Makes

/-- What tries calls makes them. -/
theorem Tries.makes {calls : List Call} {r : Routine (Bench β) α} (h : rig.Tries calls r) :
    Makes calls r := by
  intro s
  let tried := rig.outside.attempts calls s.world.outside
  refine ⟨tried.1.map Attempt.exchange, ?_, ?_, ?_⟩
  · rw [List.map_map]
    exact rig.outside.call_attempts calls _
  · rw [h s]
    rfl
  · rw [h s]
    rfl

/-! ### The stages of closing -/

/-- The calls that close a page and save its video. -/
def pageClosing (target : Option Path) : Option Page → List Call
  | none => []
  | some ⟨handle, recordsVideo⟩ =>
    .closePage handle ::
      match recordsVideo, target with
      | true, some path => [.saveVideo handle path]
      | _, _ => []

/-- The calls that save a trace and close its context. -/
def contextClosing (rig : Rig β) : Option Handle → List Call
  | none => []
  | some context =>
    match rig.settings.browser.tracePath with
    | some path => [.saveTrace context path, .closeContext context]
    | none => [.closeContext context]

/-- The calls that close what is open. -/
def closing (rig : Rig β) (target : Option Path) (o : Opened) : List Call :=
  pageClosing target o.page ++ (rig.contextClosing o.context ++
    ((o.browser.map .closeBrowser).toList ++ (o.driver.map .stopDriver).toList))

private theorem tries_closePage (rig : Rig β) (target : Option Path) (page : Option Page) :
    rig.Tries (pageClosing target page) (rig.closePage target page) := by
  cases page with
  | none => exact .pure ()
  | some page =>
    obtain ⟨handle, recordsVideo⟩ := page
    refine .bind (tries_closingStage (c := .closePage handle) rfl) fun _ ↦ ?_
    cases recordsVideo with
    | false => exact .pure ()
    | true =>
      cases target with
      | none => exact .pure ()
      | some path => exact tries_saveVideo handle path

private theorem tries_closeContext (rig : Rig β) (context : Option Handle) :
    rig.Tries (rig.contextClosing context) (rig.closeContext context) := by
  cases context with
  | none => exact .pure ()
  | some context =>
    have closes : rig.Tries [.closeContext context]
        (do let _ ← rig.closingStage "context close" (.closeContext context)) :=
      .bind (tries_closingStage (c := .closeContext context) rfl) fun _ ↦ .pure ()
    unfold contextClosing closeContext
    cases rig.settings.browser.tracePath with
    | none => exact closes
    | some path =>
      exact .bind (tries_closingStage (c := .saveTrace context path) rfl) fun _ ↦ closes

private theorem tries_closeBrowser (rig : Rig β) (browser : Option Handle) :
    rig.Tries (browser.map Call.closeBrowser).toList (rig.closeBrowser browser) := by
  cases browser with
  | none => exact .pure ()
  | some browser =>
    exact .bind (tries_closingStage (c := .closeBrowser browser) rfl) fun _ ↦ .pure ()

private theorem tries_stopDriver (rig : Rig β) (driver : Option Handle) :
    rig.Tries (driver.map Call.stopDriver).toList (rig.stopDriver driver) := by
  cases driver with
  | none => exact .pure ()
  | some driver =>
    exact .bind (tries_closingStage (c := .stopDriver driver) rfl) fun _ ↦ .pure ()

/-- Everything around a page and the page itself are closed in turn. -/
theorem tries_closing (rig : Rig β) (target : Option Path) (o : Opened) :
    rig.Tries (rig.closing target o) (do
      rig.closePage target o.page
      rig.closeContext o.context
      rig.closeBrowser o.browser
      rig.stopDriver o.driver) :=
  (tries_closePage rig target o.page).bind fun _ ↦
    (tries_closeContext rig o.context).bind fun _ ↦
      (tries_closeBrowser rig o.browser).bind fun _ ↦ tries_stopDriver rig o.driver

private theorem makes_videoTarget (rig : Rig β) : Makes [] rig.videoTarget := by
  have look : Makes [] (get : Routine (Bench β) (Stage (Bench β))) := .of_same fun _ ↦ ⟨rfl, rfl⟩
  refine .bind_of_same look fun s ↦ ?_
  dsimp only
  split
  · exact .of_same fun _ ↦ ⟨rfl, rfl⟩
  · split
    · exact .of_same fun _ ↦ ⟨rfl, rfl⟩
    · exact .of_same fun _ ↦ ⟨rfl, rfl⟩

/-- Close everything that is open, the video of the page to be saved in a given place. -/
def closeOpened (rig : Rig β) (target : Option Path) : Routine (Bench β) Unit := do
  let o := (← get).world.opened
  rig.closePage target o.page
  rig.closeContext o.context
  rig.closeBrowser o.browser
  rig.stopDriver o.driver
  modify fun s => { s with world := { s.world with opened := {} } }

/-- Closing starts with finding the place for the video. -/
theorem close_eq (rig : Rig β) :
    rig.close = (do
      let target ← rig.videoTarget
      rig.closeOpened target) := rfl

/-- Closing makes the calls that close what is open, whatever becomes of them, and leaves nothing
open. -/
theorem close_spec (rig : Rig β) (s : Stage (Bench β)) :
    ∃ shut, shut.map Exchange.call = rig.closing (rig.videoTarget s).1 s.world.opened ∧
      (rig.close s).2.world.exchanges = s.world.exchanges ++ shut ∧
      (rig.close s).2.world.opened = {} := by
  obtain ⟨noCalls, hn, exchanges, opened⟩ := makes_videoTarget rig s
  obtain rfl := List.map_eq_nil_iff.mp hn
  let target := (rig.videoTarget s).1
  let o := (rig.videoTarget s).2.world.opened
  obtain ⟨shut, hs, exchanges', -⟩ := (rig.tries_closing target o).makes (rig.videoTarget s).2
  refine ⟨shut, opened ▸ hs, ?_, rfl⟩
  rw [← List.append_nil s.world.exchanges, ← exchanges]
  exact exchanges'

/-! ### What is closed -/

private theorem mem_closing {target : Option Path} {o : Opened} {c : Call} :
    c ∈ rig.closing target o ↔
      c ∈ pageClosing target o.page ∨ c ∈ rig.contextClosing o.context ∨
        (∃ browser, o.browser = some browser ∧ .closeBrowser browser = c) ∨
        ∃ driver, o.driver = some driver ∧ .stopDriver driver = c := by
  simp only [closing, List.mem_append, Option.mem_toList, Option.map_eq_some_iff]

private theorem mem_closing_of_mem_closers (target : Option Path) {o : Opened} {closer : Call}
    (h : closer ∈ o.closers) : closer ∈ rig.closing target o := by
  rw [mem_closing]
  simp only [Opened.closers, List.mem_append, Option.mem_toList,
    Option.map_eq_some_iff] at h
  obtain ((⟨page, hp, rfl⟩ | ⟨context, hc, rfl⟩) | browser) | driver := h
  · exact .inl (hp ▸ List.mem_cons_self)
  · refine .inr (.inl ?_)
    rw [hc, contextClosing]
    split
    · exact List.mem_cons_of_mem _ List.mem_cons_self
    · exact List.mem_cons_self
  · exact .inr (.inr (.inl browser))
  · exact .inr (.inr (.inr driver))

/-- Closing uses what is open, and obtains nothing. -/
theorem uses_of_mem_closing {target : Option Path} {o : Opened} {c : Call}
    (h : c ∈ rig.closing target o) : ∃ t, c.Uses t ∧ o.Holds t := by
  obtain page | context | ⟨browser, hb, rfl⟩ | ⟨driver, hd, rfl⟩ := mem_closing.mp h
  · cases hp : o.page with
    | none => simp [hp, pageClosing] at page
    | some p =>
      have : c = .closePage p.handle ∨ ∃ path, c = .saveVideo p.handle path := by
        rw [hp] at page
        unfold pageClosing at page
        grind
      obtain rfl | ⟨path, rfl⟩ := this
      · exact ⟨_, ⟨rfl, fun _ ↦ rfl⟩, Opened.holds_page hp⟩
      · exact ⟨_, ⟨rfl, fun _ ↦ rfl⟩, Opened.holds_page hp⟩
  · cases hc : o.context with
    | none => simp [hc, contextClosing] at context
    | some handle =>
      have : c = .closeContext handle ∨ ∃ path, c = .saveTrace handle path := by
        rw [hc] at context
        unfold contextClosing at context
        grind
      obtain rfl | ⟨path, rfl⟩ := this
      · exact ⟨_, ⟨rfl, fun _ ↦ rfl⟩, Opened.holds_context hc⟩
      · exact ⟨_, ⟨rfl, fun _ ↦ rfl⟩, Opened.holds_context hc⟩
  · exact ⟨browser, ⟨rfl, fun _ ↦ rfl⟩, Opened.holds_browser hb⟩
  · exact ⟨driver, ⟨rfl, fun _ ↦ rfl⟩, Opened.holds_driver hd⟩

/-- However a session broke off, the calls since its start had a browser of their own once it is
closed, and nothing is open. -/
theorem oneBrowser_of_close (rig : Rig β) {before : List Exchange} {s : Stage (Bench β)}
    (h : BrokenOff before s) :
    ∃ made, (rig.close s).2.world.exchanges = before ++ made ∧
      OneBrowser before.length made ∧ (rig.close s).2.world.opened = {} := by
  obtain ⟨made, exchanges, held⟩ := h
  obtain ⟨shut, hs, exchanges', opened⟩ := rig.close_spec s
  have ofCall : ∀ c ∈ rig.closing (rig.videoTarget s).1 s.world.opened, ∃ y ∈ shut, y.call = c :=
    fun c hc ↦ List.mem_map.mp (hs ▸ hc)
  refine ⟨made ++ shut, ?_, held.oneBrowser (fun x hx ↦ ?_) fun closer hc ↦ ?_, opened⟩
  · rw [exchanges', exchanges, List.append_assoc]
  · exact uses_of_mem_closing (hs ▸ List.mem_map_of_mem hx)
  · exact ofCall closer (mem_closing_of_mem_closers _ hc)

end Playbook.Rig
