import Playbook.Proofs.Shop.Keeping

/-!
# Where videos are saved

Only closing a session saves a video (`Unsaved.call`), and it saves one at most, in a place that is
named by the moment or was reserved before (`saved_of_close`).
-/

namespace Playbook

open Browser

variable {β : Type}

/-- The path under which a call saves a video. -/
def Browser.Call.savedVideo? : Call → Option Path
  | .saveVideo _ path => some path
  | _ => none

/-- The paths under which calls saved videos. -/
def savedVideos (made : List Exchange) : List Path :=
  made.filterMap (·.call.savedVideo?)

/-- No video was saved since some exchanges. -/
def Unsaved (before : List Exchange) (s : Stage (Bench β)) : Prop :=
  ∃ made, s.world.exchanges = before ++ made ∧ savedVideos made = []

/-- No video was saved since just now. -/
theorem Unsaved.here (s : Stage (Bench β)) : Unsaved s.world.exchanges s :=
  ⟨[], (List.append_nil _).symm, rfl⟩

/-- Whether videos were saved is told by the exchanges. -/
theorem Unsaved.of_eq {before : List Exchange} {s s' : Stage (Bench β)} (h : Unsaved before s)
    (same : s'.world.exchanges = s.world.exchanges) : Unsaved before s' := by
  unfold Unsaved
  rwa [same]

/-- Only calls that end sessions save videos. -/
theorem Unsaved.call {before : List Exchange} {s s' : Stage (Bench β)} {c : Call} {went : Bool}
    (h : Unsaved before s) (hc : c.endsSession = false)
    (same : s'.world.exchanges = s.world.exchanges ++ [⟨c, went⟩]) : Unsaved before s' := by
  obtain ⟨made, exchanges, none⟩ := h
  have unsaved : c.savedVideo? = .none := by
    cases c with
    | saveVideo => cases hc
    | _ => rfl
  refine ⟨made ++ [⟨c, went⟩], by rw [same, exchanges, List.append_assoc], ?_⟩
  rw [savedVideos, List.filterMap_append, ← savedVideos, none]
  simp only [List.filterMap_cons, unsaved, List.filterMap_nil, List.append_nil]

namespace Rig

variable {rig : Rig β} {s : Stage (Bench β)}

/-- The place for the video of an open page: it is named by the moment, if all are saved, and
otherwise it was reserved. -/
theorem videoTarget_eq (rig : Rig β) (s : Stage (Bench β)) :
    rig.videoTarget s =
      if !rig.settings.videos.enabled || s.world.opened.page.isNone then (none, s)
      else if rig.settings.videos.recording = .all then
        (some (rig.videoPath (s.time rig.clock)), s.ticked rig.clock)
      else (s.world.opened.reservedVideo, s) := by
  unfold videoTarget
  simp only [bind, StateT.bind, get, getThe, MonadStateOf.get, StateT.get, pure]
  split
  · rfl
  · split
    · rfl
    · rfl

/-- The calls that close what there is around a page. -/
def closingAround (rig : Rig β) (o : Opened) : List Call :=
  rig.contextClosing o.context ++
    ((o.browser.map .closeBrowser).toList ++ (o.driver.map .stopDriver).toList)

/-- What closes around a page saves no video. -/
theorem savedVideo?_of_mem_closingAround {o : Opened} {c : Call} (h : c ∈ rig.closingAround o) :
    c.savedVideo? = none := by
  simp only [closingAround, List.mem_append, Option.mem_toList, Option.map_eq_some_iff] at h
  obtain context | ⟨browser, -, rfl⟩ | ⟨driver, -, rfl⟩ := h
  · unfold contextClosing at context
    split at context
    · cases context
    · split at context
      · simp only [List.mem_cons, List.not_mem_nil, or_false] at context
        obtain rfl | rfl := context <;> rfl
      · rw [List.mem_singleton.mp context]
        rfl
  · rfl
  · rfl

/-- A context around a page is closed. -/
theorem closeContext_mem_closingAround {o : Opened} {context : Handle}
    (isOpen : o.context = some context) : .closeContext context ∈ rig.closingAround o := by
  unfold closingAround contextClosing
  rw [isOpen]
  refine List.mem_append_left _ ?_
  dsimp only
  split
  · exact List.mem_cons_of_mem _ List.mem_cons_self
  · exact List.mem_cons_self

/-- A page is closed, its video is saved if it records one and there is a place for it, and then
everything around it is closed. -/
theorem closing_of_page {o : Opened} {page : Page} (isOpen : o.page = some page)
    (target : Option Path) :
    rig.closing target o =
      .closePage page.handle ::
        ((target.filter fun _ ↦ page.recordsVideo).toList.map (.saveVideo page.handle) ++
          rig.closingAround o) := by
  unfold closing closingAround
  rw [isOpen]
  obtain ⟨handle, recordsVideo⟩ := page
  cases recordsVideo with
  | false => cases target <;> rfl
  | true => cases target <;> rfl

private theorem savedVideos_shut {target : Option Path} {o : Opened} {shut : List Exchange}
    (h : shut.map Exchange.call = rig.closing target o) :
    (savedVideos shut).Sublist target.toList := by
  have saved : savedVideos shut = (rig.closing target o).filterMap Call.savedVideo? := by
    rw [← h, List.filterMap_map]
    rfl
  have around : (rig.closingAround o).filterMap Call.savedVideo? = [] :=
    List.filterMap_eq_nil_iff.mpr fun _ ↦ savedVideo?_of_mem_closingAround
  rw [saved]
  cases isOpen : o.page with
  | none =>
    unfold closing
    rw [isOpen, ← closingAround, List.filterMap_append, around]
    exact List.nil_sublist _
  | some page =>
    have saving (paths : List Path) :
        (paths.map (Call.saveVideo page.handle)).filterMap Call.savedVideo? = paths := by
      rw [List.filterMap_map]
      exact List.filterMap_some
    rw [closing_of_page isOpen, List.filterMap_cons_none rfl, List.filterMap_append, around,
      List.append_nil, saving, Option.toList_filter]
    exact List.filter_sublist

/-- Closing a session saves one video at most: if all are saved, it is named by the moment, which is
read before anything is closed, and otherwise it was reserved. -/
theorem saved_of_close (rig : Rig β) (s : Stage (Bench β)) :
    ∃ shut, (rig.close s).2.world.exchanges = s.world.exchanges ++ shut ∧
      (savedVideos shut).length ≤ 1 ∧ ∀ path ∈ savedVideos shut,
        if rig.settings.videos.recording = .all then
          path = rig.videoPath (s.time rig.clock) ∧
            ∃ target, (rig.close s).2 = (rig.closeOpened target (s.ticked rig.clock)).2
        else s.world.opened.reservedVideo = some path := by
  obtain ⟨shut, calls, exchanges, -⟩ := rig.close_spec s
  have saved := savedVideos_shut calls
  refine ⟨shut, exchanges, Nat.le_trans saved.length_le Option.length_toList_le, fun path hp ↦ ?_⟩
  have target : (rig.videoTarget s).1 = some path := Option.mem_toList.mp (saved.subset hp)
  have closed : (rig.close s).2 = (rig.closeOpened (rig.videoTarget s).1 (rig.videoTarget s).2).2 :=
    rfl
  have found := rig.videoTarget_eq s
  by_cases idle : (!rig.settings.videos.enabled || s.world.opened.page.isNone) = true
  · rw [found, if_pos idle] at target
    cases target
  rw [if_neg idle] at found
  split
  · next all =>
    rw [if_pos all] at found
    rw [found] at target closed
    exact ⟨(Option.some.inj target).symm, _, closed⟩
  · next all =>
    rw [found, if_neg all] at target
    exact target

end Rig

end Playbook
