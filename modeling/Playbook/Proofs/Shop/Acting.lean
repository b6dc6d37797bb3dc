import Playbook.Proofs.Browser.Held
import Playbook.Proofs.Run.Performing
import Playbook.Shop.Performance

/-!
# What an action does

An action makes calls on the open page, finds fault with what it is given or with what the page
shows (`Complaint`), and binds a variable of its own (`Action.names`) only when nothing can go wrong
any more. `Acts` puts down what has to be known of these parts; what an action does as a whole
follows, whichever it is (`Acts.carryOut`), and so for every action text (`Acts.performText`).
-/

namespace Playbook

open Browser

variable {β : Type}

/-- The call is one of those that end a session. -/
def Browser.Call.endsSession : Call → Bool
  | .closePage _ | .saveVideo _ _ | .saveTrace _ _ | .closeContext _ | .closeBrowser _
  | .stopDriver _ => true
  | _ => false

namespace Shop

/-- The names of the variables that an action may bind, given its parameters. -/
def Action.names (parameters : List String) : Action → List String
  | .enterUsername => ["username"]
  | .enterFirstName => ["firstName"]
  | .enterLastName => ["lastName"]
  | .enterPostalCode => ["postalCode"]
  | .rememberPrice => parameters[1]?.toList
  | _ => []

/-- The names of the variables that an action text may bind. -/
def namesOf (action : String) (parameters : List String) : List String :=
  ((Action.ofText? action).map (Action.names parameters)).getD []

/-- An action text that a rule fits means what the rule says. -/
theorem performText_of_some {rig : Rig β} {page : Page} {action : String} {a : Action}
    (known : Action.ofText? action = some a) (parameters : List String) :
    performText rig page action parameters = carryOut rig page parameters a := by
  unfold performText
  rw [known]

/-- A failure that an action comes to by itself: something is missing, or it is not as expected. -/
inductive Complaint : Failure → Prop where
  | missingParameter (index : Nat) (label : String) :
    Complaint (.action { cause := .missingParameter index label })
  | badCount (written : String) : Complaint (.action { cause := .badCount written })
  | usernameMissing : Complaint (.action { cause := .usernameMissing })
  | detailsMissing : Complaint (.action { cause := .detailsMissing })
  | unexpected (message : String) : Complaint (.fault ⟨.assertion, message⟩)
  | unreadable (message : String) : Complaint (.fault ⟨.value, message⟩)

/-- A count that cannot be read is complained of. -/
theorem complaint_of_readCount {written : String} {e : Failure}
    (h : readCount written = .error e) : Complaint e := by
  unfold readCount at h
  dsimp only at h
  split at h
  · cases h
    exact .badCount _
  · split at h
    · cases h
      exact .unreadable _
    · split at h
      · cases h
      · cases h
        exact .unreadable _

/-- What is known of the parts of an action: calls on the open page keep `P` or leave `broken`, a
complaint leaves `broken`, and `Q` holds once nothing is left to do. -/
structure Acts (rig : Rig β) (page : Page) (P Q : Stage (Bench β) → Prop)
    (broken : Failure → Stage (Bench β) → Prop) : Prop where
  called : ∀ c : Call, c.WorksOn page.handle → c.endsSession = false → Keeps P broken (rig.call c)
  complained : ∀ {e s}, Complaint e → P s → broken e s
  done : ∀ {s}, P s → Q s
  logged : ∀ {s}, Q s → ∀ level source text, Q (s.logged level source text)

namespace Acts

variable {rig : Rig β} {page : Page} {P Q : Stage (Bench β) → Prop}
  {broken : Failure → Stage (Bench β) → Prop} {α : Type}

private theorem throws (h : Acts rig page P Q broken) {e : Failure} (complaint : Complaint e)
    {post : α → Stage (Bench β) → Prop} : Ensures P (throw e : Play (Bench β) α) post broken :=
  fun _ hs ↦ h.complained complaint hs

private theorem parameter_bind (h : Acts rig page P Q broken) {parameters : List String}
    {index : Nat} {label : String} {f : String → Play (Bench β) α}
    {post : α → Stage (Bench β) → Prop}
    (hf : ∀ p, parameters[index]? = some p → Ensures P (f p) post broken) :
    Ensures P (parameter parameters index label >>= f) post broken := by
  unfold parameter
  cases given : parameters[index]? with
  | none => exact h.throws (.missingParameter index label)
  | some p => exact hf p given

private theorem heldVariable (name : String) :
    Keeps P broken (heldVariable? name : Play (Bench β) (Option Value)) :=
  fun _ hs ↦ hs

private theorem ends (h : Acts rig page P Q broken) {p : Play (Bench β) Unit}
    (kept : Keeps P broken p) : Ensures P p (fun _ ↦ Q) broken :=
  Ensures.weaken kept (fun _ hs ↦ hs) (fun _ _ hs ↦ h.done hs) fun _ _ hs ↦ hs

/-! ### The pages -/

private theorem click (h : Acts rig page P Q broken) (selector : String) :
    Keeps P broken (click rig page selector) :=
  h.called _ ⟨⟨rfl, fun _ ↦ rfl⟩, rfl⟩ rfl

private theorem fill (h : Acts rig page P Q broken) (selector : String) (v : Value) :
    Keeps P broken (fill rig page selector v) :=
  h.called _ ⟨⟨rfl, fun _ ↦ rfl⟩, rfl⟩ rfl

private theorem textOf (h : Acts rig page P Q broken) (selector : String) :
    Keeps P broken (textOf rig page selector) :=
  .bind (h.called _ ⟨⟨rfl, fun _ ↦ rfl⟩, rfl⟩ rfl) fun _ ↦ .pure _

private theorem requireText (h : Acts rig page P Q broken) (selector expected : String) :
    Keeps P broken (requireText rig page selector expected) := by
  refine .bind (h.textOf selector) fun actual ↦ ?_
  split
  · exact h.throws (.unexpected _)
  · exact .pure _

private theorem requireTextWithin (h : Acts rig page P Q broken) (selector expected : String) :
    Keeps P broken (requireTextWithin rig page selector expected) := by
  refine .bind (h.textOf selector) fun actual ↦ ?_
  split
  · exact h.throws (.unexpected _)
  · exact .pure _

private theorem requireCount (h : Acts rig page P Q broken) (expected : Int) :
    Keeps P broken (requireCount rig page expected) := by
  refine .bind (h.called _ ⟨⟨rfl, fun _ ↦ rfl⟩, rfl⟩ rfl) fun actual ↦ ?_
  split
  · exact h.throws (.unexpected _)
  · exact .pure _

private theorem enterDetails (h : Acts rig page P Q broken)
    (firstName lastName postalCode : Value) :
    Keeps P broken (enterDetails rig page firstName lastName postalCode) :=
  .bind (h.fill _ _) fun _ ↦ .bind (h.fill _ _) fun _ ↦ .bind (h.fill _ _) fun _ ↦ h.click _

private theorem priceOf (h : Acts rig page P Q broken) (product : String) :
    Keeps P broken (priceOf rig page product) :=
  .bind (h.called _ ⟨⟨rfl, fun _ ↦ rfl⟩, rfl⟩ rfl) fun _ ↦ .pure _

/-! ### The actions -/

/-- An action that goes through comes to `Q` if it may bind the variables of its own; one that fails
leaves `broken`, and nothing was bound. -/
theorem carryOut (h : Acts rig page P Q broken) (parameters : List String) (a : Action)
    (bound : ∀ name ∈ a.names parameters, ∀ {s}, P s → ∀ v, Q (s.bound name v)) :
    Ensures P (carryOut rig page parameters a) (fun _ ↦ Q) broken := by
  have binds {name : String} (own : name ∈ a.names parameters) (v : Value) :
      Ensures P (Play.bindVariable name v) (fun _ ↦ Q) broken :=
    fun _ hs ↦ bound name own hs v
  cases a with
  | openPage => exact h.parameter_bind fun url _ ↦ h.ends (h.called _ ⟨⟨rfl, fun _ ↦ rfl⟩, rfl⟩ rfl)
  | enterUsername | enterFirstName | enterLastName | enterPostalCode =>
    exact h.parameter_bind fun _ _ ↦ binds List.mem_cons_self _
  | enterPassword =>
    refine h.parameter_bind fun password _ ↦ .bind (heldVariable _) fun username ↦ ?_
    cases username with
    | some username => exact h.ends (.bind (h.fill _ _) fun _ ↦ h.fill _ _)
    | none => exact h.throws .usernameMissing
  | clickLoginButton =>
    exact h.ends (.bind (h.called _ ⟨⟨rfl, fun _ ↦ rfl⟩, rfl⟩ rfl) fun _ ↦ h.click _)
  | addToCart => exact h.parameter_bind fun product _ ↦ h.ends (h.click _)
  | openCart | proceedToCheckout | finishOrder | openMenu | logout => exact h.ends (h.click _)
  | checkTitle | checkItemInCart | checkItemInOrder | checkOrderFinished =>
    exact h.parameter_bind fun expected _ ↦ h.ends (h.requireText _ _)
  | checkPriceInTotals => exact h.parameter_bind fun text _ ↦ h.ends (h.requireTextWithin _ _)
  | continueCheckout =>
    refine .bind (heldVariable _) fun firstName ↦ .bind (heldVariable _) fun lastName ↦ ?_
    refine .bind (heldVariable _) fun postalCode ↦ ?_
    split
    · exact h.ends (h.enterDetails _ _ _)
    · exact h.throws .detailsMissing
  | rememberPrice =>
    refine h.parameter_bind fun product _ ↦ h.parameter_bind fun name given ↦ ?_
    -- the price is bound last, and telling of it cannot fail
    refine .bind (h.priceOf product) fun price ↦ .bind (binds ?_ _) fun _ ↦ ?_
    · rw [Action.names, given]
      exact List.mem_singleton_self name
    · exact fun _ hs ↦ h.logged hs _ _ _
  | checkItemsCount =>
    refine h.parameter_bind fun written _ ↦ ?_
    split
    · exact h.ends (h.requireCount _)
    · next e refused => exact h.throws (complaint_of_readCount refused)

/-- Performing an action text does what its action does; one that no action is known for fails. -/
theorem performText (h : Acts rig page P Q broken) (action : String) (parameters : List String)
    (unknown : Action.ofText? action = none → ∀ {s}, P s →
      broken (.action { cause := .unknownAction action }) s)
    (bound : ∀ name ∈ namesOf action parameters, ∀ {s}, P s → ∀ v, Q (s.bound name v)) :
    Ensures P (performText rig page action parameters) (fun _ ↦ Q) broken := by
  unfold Shop.performText namesOf at *
  cases known : Action.ofText? action with
  | some a =>
    rw [known] at bound
    exact h.carryOut parameters a bound
  | none => exact fun _ hs ↦ unknown known hs

end Acts

/-! ### Performing an action -/

/-- Keep the title of the open page, if it has one to tell. -/
def keepTitle (rig : Rig β) : Play (Bench β) Unit := do
  if let some title ← rig.pageTitle then
    Play.bindVariable "pageTitle" (.text title)

variable {rig : Rig β} {s t : Stage (Bench β)}

/-- An open session is not opened again. -/
theorem start_of_open {page : Page} (isOpen : s.world.opened.pageObjects = some page) :
    rig.start s = .ok page s := by
  refine (bind_of_ok _ (t := s) rfl).trans ?_
  rw [isOpen]
  rfl

/-- Where a session opens, performing an action text is doing what it means, and then keeping the
title or telling of the failure. -/
theorem perform_of_start {page : Page} (h : rig.start s = .ok page t) (action : String)
    (parameters : List String) :
    perform rig action parameters s =
      match performText rig page action parameters t with
      | .ok () u => keepTitle rig u
      | .error e u => failAction rig action (causeOf e) u := by
  unfold perform
  rw [bind_of_ok _ h]
  cases done : performText rig page action parameters t with
  | ok _ u => exact bind_of_ok _ (toPlay_attempt_of_ok done)
  | error e u => exact bind_of_ok _ (toPlay_attempt_of_error done)

/-- Where a session does not open, nothing is performed. -/
theorem perform_of_start_error {e : Failure} (h : rig.start s = .error e t) (action : String)
    (parameters : List String) : perform rig action parameters s = .error e t :=
  bind_of_error _ h

/-- Telling of a failure does in the end what taking its artifacts does. -/
theorem failAction_of_capture {P : Stage (Bench β) → Prop}
    {broken : Failure → Stage (Bench β) → Prop} {cause : ActionCause}
    (logged : ∀ {s}, P s → ∀ level source text, P (s.logged level source text))
    (ticked : ∀ {s}, P s → P (s.ticked rig.clock))
    (taken : ∀ stamp, Ensures P (do
        let screenshot ← rig.captureScreenshot stamp
        let video ← rig.reserveFailureVideo stamp
        throw (.action { cause, screenshot, video }) : Play (Bench β) Unit)
      (fun _ _ ↦ False) broken)
    (action : String) : Ensures P (failAction rig action cause) (fun _ _ ↦ False) broken := by
  have reported : Keeps P broken
      (Play.report .error .actions ("Action \"" ++ action ++ "\" failed: " ++ cause.message)) :=
    fun _ h ↦ logged h _ _ _
  have read : Keeps P broken rig.now := fun _ h ↦ ticked h
  exact Ensures.bind reported fun _ ↦ .bind read fun m ↦ taken (some m.stamp)

end Shop

end Playbook
