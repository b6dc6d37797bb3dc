import Playbook.Proofs.Browser.Session
import Playbook.Proofs.Shop.Acting

/-!
# Performing keeps a session in order

Everything that can be done on the pages of the shop is work on the open page, so an action keeps a
session as it is, whether it goes through or fails (`orderly_finishAction`). Performing it opens the
session before, if need be, or breaks off while opening it (`ensures_perform`).
-/

namespace Playbook.Shop

open Browser Rig

variable {β : Type} {rig : Rig β} {before : List Exchange} {o : Opened} {page : Page}

/-- Performing an action text on the open page is orderly. -/
theorem orderly_performText (isOpen : o.page = some page) (action : String)
    (parameters : List String) : Orderly before o (performText rig page action parameters) := by
  have acts : Acts rig page (Working before o) (Working before o) fun _ ↦ Working before o :=
    { called := fun _ works _ ↦ orderly_call works (Opened.holds_page isOpen)
      complained := fun _ h ↦ h
      done := fun h ↦ h
      logged := fun h _ _ _ ↦ h }
  exact acts.performText action parameters (fun _ _ h ↦ h) fun _ _ _ h _ ↦ h

/-- Telling of a failed action is orderly. -/
theorem orderly_failAction (action : String) (cause : ActionCause) :
    Orderly before o (failAction rig action cause) := by
  refine .bind (offline_report _ _ _).orderly fun _ ↦ .bind offline_now.orderly fun now ↦ ?_
  refine .bind (orderly_captureScreenshot _) fun screenshot ↦ ?_
  exact .bind (orderly_reserveFailureVideo _) fun video _ h ↦ h

/-- What is done about an action on the open page is orderly. -/
theorem orderly_finishAction (isOpen : o.page = some page) (action : String)
    (parameters : List String) :
    Orderly before o (do
      match ← (Routine.attempt (performText rig page action parameters)).toPlay with
      | .error e => failAction rig action (causeOf e)
      | .ok () =>
        if let some title ← rig.pageTitle then
          Play.bindVariable "pageTitle" (.text title)) := by
  refine .bind (.attempt (orderly_performText isOpen action parameters)) fun outcome ↦ ?_
  cases outcome with
  | error e => exact orderly_failAction _ _
  | ok _ =>
    refine .bind orderly_pageTitle fun title ↦ ?_
    cases title with
    | none => exact .pure ()
    | some title => exact (offline_bindVariable _ _).orderly

/-- Performing an action leaves a session that goes on, or one that broke off. -/
theorem ensures_perform (action : String) (parameters : List String) :
    Keeps (Going before) (fun _ ↦ BrokenOff before) (perform rig action parameters) := by
  refine Ensures.bind ensures_start fun page ↦ .of_exists fun o ↦ .of_and fun isOpen ↦ ?_
  exact ensures_going (fun _ ↦ orderly_finishAction isOpen.1 action parameters)
    ⟨.inr (isOpen.1 ▸ rfl), isOpen.2.trans isOpen.1.symm⟩

end Playbook.Shop
