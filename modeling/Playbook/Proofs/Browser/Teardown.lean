import Playbook.Proofs.Browser.Launching
import Playbook.Proofs.Browser.Videos

/-!
# Teardown

Closing a session does not fail. It tries the calls that close what is open, one after another and
whatever becomes of each of them, and tells of those that fail (`close_finishes`). So a session may
be closed from wherever it broke off, and then it is as it was before it was started.
-/

namespace Playbook

open Browser

variable {β : Type}

namespace Rig

private theorem videoTarget_same (rig : Rig β) (s : Stage (Bench β)) :
    (rig.videoTarget s).2 = s ∨ (rig.videoTarget s).2 = s.ticked rig.clock := by
  rw [rig.videoTarget_eq s]
  split
  · exact .inl rfl
  · split
    · exact .inr rfl
    · exact .inl rfl

/-- The stage with nothing open. -/
def cleared (s : Stage (Bench β)) : Stage (Bench β) :=
  { s with world := { s.world with opened := {} } }

private theorem close_eq_tried (rig : Rig β) (s : Stage (Bench β)) :
    rig.close s =
      ((), cleared (rig.tried (rig.closing (rig.videoTarget s).1 s.world.opened)
        (rig.videoTarget s).2)) := by
  have opened : (rig.videoTarget s).2.world.opened = s.world.opened := by
    rcases rig.videoTarget_same s with same | same
    · rw [same]
    · rw [same]
      rfl
  have closed := rig.tries_closing (rig.videoTarget s).1 (rig.videoTarget s).2.world.opened
    (rig.videoTarget s).2
  rw [← opened]
  exact congrArg (fun t ↦ ((), cleared t)) closed

private theorem close_of_nothing {rig : Rig β} {s : Stage (Bench β)} (h : s.world.opened = {}) :
    rig.close s = ((), s) := by
  have target : rig.videoTarget s = (none, s) := by
    rw [rig.videoTarget_eq s, h]
    simp
  have noCalls : rig.closing none {} = [] := rfl
  rw [close_eq_tried, target, h, noCalls, tried_nil, cleared, ← h]

/-- The stages of closing, in order. -/
def closingStages : List String :=
  ["page close", "video save", "trace save", "context close", "browser close", "playwright stop"]

-- The calls that close something stand in the order of the stages, at most one for each.
private theorem stageNames_closing (rig : Rig β) (target : Option Path) (o : Opened) :
    ((rig.closing target o).map Call.stageName).Sublist closingStages := by
  have page : ((pageClosing target o.page).map Call.stageName).Sublist
      ["page close", "video save"] := by
    unfold pageClosing
    split
    · exact List.nil_sublist _
    · split
      · exact List.Sublist.refl _
      · exact List.sublist_append_left ["page close"] _
  have context : ((rig.contextClosing o.context).map Call.stageName).Sublist
      ["trace save", "context close"] := by
    unfold contextClosing
    split
    · exact List.nil_sublist _
    · split
      · exact List.Sublist.refl _
      · exact List.sublist_append_right ["trace save"] _
  have browser : ((o.browser.map Call.closeBrowser).toList.map Call.stageName).Sublist
      ["browser close"] := by
    cases o.browser with
    | none => exact List.nil_sublist _
    | some _ => exact List.Sublist.refl _
  have driver : ((o.driver.map Call.stopDriver).toList.map Call.stageName).Sublist
      ["playwright stop"] := by
    cases o.driver with
    | none => exact List.nil_sublist _
    | some _ => exact List.Sublist.refl _
  simp only [closing, List.map_append]
  exact page.append (context.append (browser.append driver))

/-- Closing always goes through, from wherever a session may be and whatever the browser refuses.
The calls that close what is open are tried once each and in the order of the stages, each refusal
is told of in the log as one error, and apart from that only the outside has moved on. Nothing is
open afterwards: closing once more does nothing at all, and starting launches everything anew. -/
theorem close_finishes (rig : Rig β) (s : Stage (Bench β)) :
    let video := rig.videoTarget s
    let due := rig.closing video.1 s.world.opened
    let tried := rig.outside.attempts due video.2.world.outside
    let t : Stage (Bench β) :=
      { s with
        log := s.log ++ tried.1.flatMap Attempt.told
        world :=
          { s.world with
            outside := tried.2
            opened := {}
            exchanges := s.world.exchanges ++ tried.1.map Attempt.exchange } }
    rig.close.toPlay s = .ok () t ∧
      tried.1.map Attempt.call = due ∧ (due.map Call.stageName).Sublist closingStages ∧
      (tried.1.flatMap Attempt.told).countP (·.level == .error) =
        tried.1.countP (·.mishap.isSome) ∧
      rig.close t = ((), t) ∧
      Ensures (· = t) rig.start (fun page ↦ rig.Launched t.world.exchanges page)
        fun _ ↦ rig.LaunchBroken t.world.exchanges := by
  intro video due tried t
  have closed : rig.close s = ((), t) := by
    rw [close_eq_tried]
    rcases rig.videoTarget_same s with same | same
    · simp only [t, tried, due, video, Rig.tried, cleared, same]
    · simp only [t, tried, due, video, Rig.tried, cleared, same]
      rfl
  refine ⟨?_, rig.outside.call_attempts due _, rig.stageNames_closing _ _,
    Attempt.countP_flatMap_told _, close_of_nothing rfl, ?_⟩
  · rw [Routine.toPlay, closed]
  · refine Ensures.weaken (rig.ensures_start_anew t.world.exchanges) ?_ (fun _ _ h ↦ h)
      fun _ _ h ↦ h
    rintro _ rfl
    exact ⟨rfl, rfl⟩

end Rig

end Playbook
