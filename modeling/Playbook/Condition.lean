import Playbook.Stage
import Playbook.Text.Lowercase
import Playbook.Text.Search

/-!
# Conditions

A condition starts with the phrase of a registered predicate, in any letter case; the rest of it is
the predicate's argument. The registry is searched in the order of registration. A condition that
no predicate knows holds, so that a script may use a predicate before there is one.
-/

namespace Playbook

/-- A predicate decides on an argument; it sees the stage it is asked on. -/
abbrev Predicate (σ : Type) := String → Play σ Bool

/-- The predicate that tests the title of the current page: the argument, without double quotes,
occurs in the variable `pageTitle`. -/
def pageTitleContains {σ : Type} : Predicate σ := fun argument => do
  let expected := argument.toList.filter (· != '"')
  let actual := match (← get).environment.get? "pageTitle" with
    | some v => if v.holds then v.display else ""
    | none => ""
  return Text.occursIn expected actual.toList

/-- Predicates by their phrases in lower case, in order of registration. -/
structure Registry (σ : Type) where
  entries : List (List Char × Predicate σ) := []

namespace Registry

variable {σ : Type}

/-- Register a predicate under a phrase. -/
def register (r : Registry σ) (phrase : String) (p : Predicate σ) : Registry σ :=
  ⟨r.entries ++ [((Text.lowercase phrase).toList, p)]⟩

/-- The predicates that are always known. -/
def standard : Registry σ :=
  (({} : Registry σ).register "page title contains " pageTitleContains).register
    "заголовок страницы содержит " pageTitleContains

/-- The first predicate whose phrase starts a condition, and its argument: what is left of the
condition after as many characters as the phrase has. -/
def find? (r : Registry σ) (condition : String) : Option (String × Predicate σ) :=
  let lowered := (Text.lowercase condition).toList
  (r.entries.find? (·.1.isPrefixOf lowered)).map fun (phrase, p) =>
    (String.ofList (Text.trim (condition.toList.drop phrase.length)), p)

/-- Whether a condition holds. -/
def evaluate (r : Registry σ) (condition : String) : Play σ Bool := do
  let text := Text.strip condition
  match r.find? text with
  | some (argument, p) =>
    let holds ← p argument
    Play.report .debug .conditions
      ("Condition " ++ Text.quoted text ++ " -> " ++ (if holds then "True" else "False"))
    return holds
  | none =>
    Play.report .debug .conditions
      ("No predicate registered for condition " ++ Text.quoted text ++ "; treating it as true")
    return true

end Registry

end Playbook
