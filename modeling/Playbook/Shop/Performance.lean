import Playbook.Browser.Session
import Playbook.Run.Interpreter
import Playbook.Shop.Action
import Playbook.Shop.Pages
import Playbook.Text.Digit

/-!
# Performing actions

An action text is performed in the browser session, which is opened when it is first needed. What
later actions need (the user name, the customer's details, a remembered price) is kept in
variables, and so is the title of the page after every action that succeeds. Whatever goes wrong
after the session is open becomes an action error that names the artifacts taken.
-/

namespace Playbook.Shop

open Browser

variable {β : Type}

/-- A parameter of an action that must be there. -/
def parameter {σ : Type} (parameters : List String) (index : Nat) (label : String) :
    Play σ String :=
  match parameters[index]? with
  | some p => return p
  | none => throw (.action { cause := .missingParameter index label })

/-- Read an item count. Every character must be a numeral; one that is no decimal digit is found
too late to be told from a fault. -/
def readCount (written : String) : Except Failure Nat :=
  let raw := Text.strip written
  let digits := (raw.toList.takeWhile Text.isDigit).length
  if raw.isEmpty || !raw.toList.all Text.isNumeral then
    .error (.action { cause := .badCount raw })
  else if Number.digitLimit < digits then
    .error (.fault ⟨.value, Number.tooManyDigits digits⟩)
  else
    match Text.decimalValue? raw.toList with
    | some n => .ok n
    | none =>
      .error (.fault ⟨.value,
        "invalid literal for int() with base 10: " ++
          String.ofList ((Text.quoted raw).toList.take 200)⟩)

/-- The value of a variable that must hold. -/
def heldVariable? {σ : Type} (name : String) : Play σ (Option Value) := do
  return ((← get).environment.get? name).filter Value.holds

/-- Do what an action means on the open page. -/
def carryOut (rig : Rig β) (page : Page) (parameters : List String) :
    Action → Play (Bench β) Unit
  | .openPage => do goTo rig page (← parameter parameters 0 "url")
  | .enterUsername => do
    Play.bindVariable "username" (.text (← parameter parameters 0 "username"))
  | .enterPassword => do
    let password ← parameter parameters 0 "password"
    match ← heldVariable? "username" with
    | some username => enterCredentials rig page username (.text password)
    | none => throw (.action { cause := .usernameMissing })
  | .clickLoginButton => pressLogin rig page
  | .checkTitle => do requireTitle rig page (← parameter parameters 0 "title")
  | .addToCart => do addToCart rig page (productKey (← parameter parameters 0 "product"))
  | .openCart => openCart rig page
  | .checkItemInCart => do requireItem rig page (← parameter parameters 0 "product")
  | .proceedToCheckout => checkOut rig page
  | .enterFirstName => do
    Play.bindVariable "firstName" (.text (← parameter parameters 0 "first name"))
  | .enterLastName => do
    Play.bindVariable "lastName" (.text (← parameter parameters 0 "last name"))
  | .enterPostalCode => do
    Play.bindVariable "postalCode" (.text (← parameter parameters 0 "postal code"))
  | .continueCheckout => do
    match ← heldVariable? "firstName", ← heldVariable? "lastName", ← heldVariable? "postalCode" with
    | some firstName, some lastName, some postalCode =>
      enterDetails rig page firstName lastName postalCode
    | _, _, _ => throw (.action { cause := .detailsMissing })
  | .checkItemInOrder => do requireItem rig page (← parameter parameters 0 "product")
  | .checkPriceInTotals => do requireInTotals rig page (← parameter parameters 0 "text")
  | .finishOrder => finishOrder rig page
  | .checkOrderFinished => do requireConfirmation rig page (← parameter parameters 0 "message")
  | .openMenu => openMenu rig page
  | .logout => logOut rig page
  | .rememberPrice => do
    let product ← parameter parameters 0 "product"
    let name ← parameter parameters 1 "variable name"
    let price ← priceOf rig page product
    Play.bindVariable name (.text price)
    Play.report .info .actions ("Remembered " ++ name ++ " = " ++ price)
  | .checkItemsCount => do
    let written ← parameter parameters 0 "count"
    match readCount written with
    | .ok n => requireCount rig page n
    | .error e => throw e

/-- Do what an action text means on the open page. -/
def performText (rig : Rig β) (page : Page) (action : String) (parameters : List String) :
    Play (Bench β) Unit :=
  match Action.ofText? action with
  | some a => carryOut rig page parameters a
  | none => throw (.action { cause := .unknownAction action })

/-- The cause that an action error gives for a failure: its own, if it is one already. -/
def causeOf : Failure → ActionCause
  | .action e => e.cause
  | .fault f => .wrapped f
  | e => .reported e.message

/-- Report the failure of an action and take its artifacts. -/
def failAction (rig : Rig β) (action : String) (cause : ActionCause) : Play (Bench β) Unit := do
  Play.report .error .actions ("Action \"" ++ action ++ "\" failed: " ++ cause.message)
  let stamp := (← rig.now).stamp
  let screenshot ← rig.captureScreenshot (some stamp)
  let video ← rig.reserveFailureVideo (some stamp)
  throw (.action { cause, screenshot, video })

/-- Perform an action text and keep the title of the page it leads to. -/
def perform (rig : Rig β) : Performer (Bench β) := fun action parameters => do
  let page ← rig.start
  match ← (Routine.attempt (performText rig page action parameters)).toPlay with
  | .error e => failAction rig action (causeOf e)
  | .ok () =>
    if let some title ← rig.pageTitle then
      Play.bindVariable "pageTitle" (.text title)

/-- The crew that runs cases in the shop, testing the given conditions. -/
def crew (rig : Rig β) (conditions : Registry (Bench β)) : Crew (Bench β) :=
  { perform := perform rig, clock := rig.clock, conditions }

end Playbook.Shop
