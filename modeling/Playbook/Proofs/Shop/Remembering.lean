import Playbook.Proofs.Environment.References
import Playbook.Proofs.Shop.Binding

/-!
# Remembered prices

A price that is read from the page is bound to a name as the script writes it, and the title of the
page is kept after that (`perform_of_price`). A reference is looked up without the blanks around its
name. So the price can be referred to if its name has no blanks around it, unless it is the name of
the title and the page tells one (`substitute_remembered`).
-/

namespace Playbook.Shop

open Browser

variable {β : Type} {rig : Rig β} {s t u v : Stage (Bench β)} {page : Page}
  {action product name price : String} {more : List String}

/-- The environment in which a price is remembered, with the title that is kept after it. -/
def remembering (e : Environment) (name price : String) (title : Option String) : Environment :=
  match title with
  | some title => (e.set name (.text price)).set "pageTitle" (.text title)
  | none => e.set name (.text price)

/-- Remembering a price comes to what reading it comes to: the price is bound and the title kept, or
the failure told. -/
theorem perform_remember (remembers : Action.ofText? action = some .rememberPrice)
    (started : rig.start s = .ok page t) :
    perform rig action (product :: name :: more) s =
      match priceOf rig page product t with
      | .ok price v => keepTitle rig ((v.bound name (.text price)).logged .info .actions
          ("Remembered " ++ name ++ " = " ++ price))
      | .error e v => failAction rig action (causeOf e) v := by
  have does : carryOut rig page (product :: name :: more) .rememberPrice = (do
      let price ← priceOf rig page product
      Play.bindVariable name (.text price)
      Play.report .info .actions ("Remembered " ++ name ++ " = " ++ price)) := rfl
  rw [perform_of_start started, performText_of_some remembers, does]
  cases priced : priceOf rig page product t with
  | ok price v => rw [bind_of_ok _ priced]; rfl
  | error e v => rw [bind_of_error _ priced]

/-- Once a price is read, remembering it goes through. -/
theorem perform_of_price (remembers : Action.ofText? action = some .rememberPrice)
    (started : rig.start s = .ok page t) (priced : priceOf rig page product t = .ok price v) :
    ∃ u, perform rig action (product :: name :: more) s = .ok () u ∧
      u.environment = remembering v.environment name price (rig.titleOn v) := by
  obtain ⟨u, kept, environment⟩ := keepTitle_eq rig
    ((v.bound name (.text price)).logged .info .actions ("Remembered " ++ name ++ " = " ++ price))
  refine ⟨u, ?_, environment⟩
  rw [perform_remember remembers started, priced]
  exact kept

/-- Remembering a price goes through only once the price is read. -/
theorem price_of_perform (remembers : Action.ofText? action = some .rememberPrice)
    (performed : perform rig action (product :: name :: more) s = .ok () u) :
    ∃ page t v price, rig.start s = .ok page t ∧ priceOf rig page product t = .ok price v ∧
      u.environment = remembering v.environment name price (rig.titleOn v) := by
  cases started : rig.start s with
  | error e t =>
    rw [perform_of_start_error started] at performed
    cases performed
  | ok page t =>
    cases priced : priceOf rig page product t with
    | error e v =>
      rw [perform_remember remembers started, priced] at performed
      have told := (rig.spares_environment v.environment).failAction action (causeOf e)
      exact (told.of_ok rfl performed).elim
    | ok price v =>
      obtain ⟨u', again, environment⟩ := perform_of_price remembers started priced
      rw [performed] at again
      cases again
      exact ⟨page, t, v, price, rfl, priced, environment⟩

/-- A reference to a name without blanks around it finds the price that was remembered under the
name, or the title that took its place. -/
theorem substitute_remembering (e : Environment) (price : String) (title : Option String)
    (body : ∀ c ∈ name.toList, isReferenceChar c) (trimmed : Text.strip name = name) :
    (remembering e name price title).substitute (braced name) =
      (if name = "pageTitle" then title else none).getD price := by
  have alone (e : Environment) (text : String) (bound : e.get? name = some (.text text)) :
      e.substitute (braced name) = text := by
    have looked : e.get? (Text.strip name) = some (.text text) := by rw [trimmed, bound]
    rw [e.substitute_braced_alone body, e.resolve_of_get? looked nofun]
    rfl
  refine alone _ _ ?_
  unfold remembering
  cases title with
  | none => rw [ite_self, Environment.get?_set_self, Option.getD_none]
  | some title =>
    by_cases own : name = "pageTitle"
    · rw [if_pos own, own, Environment.get?_set_self, Option.getD_some]
    · rw [if_neg own, Environment.get?_set_of_ne _ _ own, Environment.get?_set_self,
        Option.getD_none]

/-- Once a price is remembered, a reference to the name it was given finds the price that was read
from the page, if the name has no blanks around it. Only in the place of a price that is given the
name of the title, the title of the page stands if the page tells one. -/
theorem substitute_remembered (remembers : Action.ofText? action = some .rememberPrice)
    (body : ∀ c ∈ name.toList, isReferenceChar c) (trimmed : Text.strip name = name)
    (performed : perform rig action (product :: name :: more) s = .ok () u) :
    ∃ page t v price, rig.start s = .ok page t ∧ priceOf rig page product t = .ok price v ∧
      u.environment.substitute (braced name) =
        (if name = "pageTitle" then rig.titleOn v else none).getD price := by
  obtain ⟨page, t, v, price, started, priced, environment⟩ := price_of_perform remembers performed
  refine ⟨page, t, v, price, started, priced, ?_⟩
  rw [environment, substitute_remembering v.environment price _ body trimmed]

/-! ### A lamp -/

/-- An open session on a page with a title and a lamp. -/
def pricedStage : Stage (Bench Rehearsal) :=
  Usage.start.run rehearsalRig (newSession .empty {}
    { plan := { scene := { title := some "Swag Labs", items := [⟨"Lamp", some "$7"⟩] } }
      now := default })

/-- What is known once the price of the lamp is read: the price, the title of the page, and whether
there is a variable of that name. -/
private def lampReading (s : Stage (Bench Rehearsal)) : Option (String × Option String × Bool) :=
  match priceOf rehearsalRig ⟨3, false⟩ "Lamp" s with
  | .ok price v => some (price, rehearsalRig.titleOn v, (v.environment.get? "price").isSome)
  | .error _ _ => none

private theorem perform_lamp (name : String) :
    ∃ v u, rehearsalRig.start pricedStage = .ok ⟨3, false⟩ pricedStage ∧
      priceOf rehearsalRig ⟨3, false⟩ "Lamp" pricedStage = .ok "$7" v ∧
      v.environment.get? "price" = none ∧
      perform rehearsalRig "Remember product price" ["Lamp", name] pricedStage = .ok () u ∧
      u.environment = remembering v.environment name "$7" (some "Swag Labs") := by
  have pages : pricedStage.world.opened.pageObjects = some ⟨3, false⟩ := rfl
  have reading : lampReading pricedStage = some ("$7", some "Swag Labs", false) := rfl
  generalize pricedStage = s at pages reading
  have started : rehearsalRig.start s = .ok ⟨3, false⟩ s := start_of_open pages
  unfold lampReading at reading
  cases priced : priceOf rehearsalRig ⟨3, false⟩ "Lamp" s with
  | error e v =>
    rw [priced] at reading
    cases reading
  | ok price v =>
    rw [priced] at reading
    obtain ⟨rfl, title, free⟩ : price = "$7" ∧ rehearsalRig.titleOn v = some "Swag Labs" ∧
        (v.environment.get? "price").isSome = false := by simpa using reading
    obtain ⟨u, performed, environment⟩ := perform_of_price ofText?_remember started priced
    exact ⟨v, u, started, rfl, Option.not_isSome_iff_eq_none.mp (Bool.eq_false_iff.mp free),
      performed, title ▸ environment⟩

/-- The price of the lamp is found under its name, although the page tells a title. -/
theorem substitute_lamp_price :
    ∃ u, perform rehearsalRig "Remember product price" ["Lamp", "price"] pricedStage = .ok () u ∧
      u.environment.substitute (braced "price") = "$7" := by
  obtain ⟨v, u, started, priced, -, performed, -⟩ := perform_lamp "price"
  refine ⟨u, performed, ?_⟩
  obtain ⟨page, t, v', price, started', priced', found⟩ := substitute_remembered ofText?_remember
    (List.all_eq_true.mp (by decide)) rfl performed
  rw [started] at started'
  cases started'
  rw [priced] at priced'
  cases priced'
  exact found

/-- A price that is remembered as the title is not found where the page tells its title, and one
whose name has blanks around it is not found at all. -/
theorem lamp_price_not_found :
    ∃ v, rehearsalRig.start pricedStage = .ok ⟨3, false⟩ pricedStage ∧
      priceOf rehearsalRig ⟨3, false⟩ "Lamp" pricedStage = .ok "$7" v ∧
      (∃ u, perform rehearsalRig "Remember product price" ["Lamp", "pageTitle"] pricedStage =
          .ok () u ∧ u.environment.substitute (braced "pageTitle") = "Swag Labs") ∧
      ∃ u, perform rehearsalRig "Remember product price" ["Lamp", " price "] pricedStage =
          .ok () u ∧ u.environment.substitute (braced " price ") = braced " price " := by
  obtain ⟨v, u, started, priced, -, performed, environment⟩ := perform_lamp "pageTitle"
  obtain ⟨v', u', -, -, free, performed', environment'⟩ := perform_lamp " price "
  refine ⟨v, started, priced, ⟨u, performed, ?_⟩, u', performed', ?_⟩
  · have title := substitute_remembering v.environment "$7" (some "Swag Labs")
      (List.all_eq_true.mp (by decide)) (rfl : Text.strip "pageTitle" = "pageTitle")
    rw [environment, title]
    rfl
  · have trimmed : Text.strip " price " = "price" := rfl
    have unbound : u'.environment.get? (Text.strip " price ") = none := by
      rw [environment', trimmed, remembering, Environment.get?_set_of_ne _ _ (by decide),
        Environment.get?_set_of_ne _ _ (by decide), free]
    rw [Environment.substitute_braced_alone _ (List.all_eq_true.mp (by decide)),
      Environment.resolve, unbound]

end Playbook.Shop
