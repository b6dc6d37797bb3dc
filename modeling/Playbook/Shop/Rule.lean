import Playbook.Text.Lowercase
import Playbook.Text.Search

/-!
# Rules for action texts

A rule selects what an action text means by phrases. A phrase fits when the text starts with its
opening and, if it has a fragment, holds the fragment somewhere, all in any letter case. Rules are
tried in order and the first that fits counts.
-/

namespace Playbook.Shop

/-- How an action text starts, and what else must stand in it. -/
structure Phrase where
  opening : String
  fragment : Option String := none
  deriving DecidableEq, Repr

/-- What the texts that fit one of the phrases mean. -/
structure Rule (α : Type) where
  meaning : α
  phrases : List Phrase
  deriving Repr

/-- The characters of a text in lower case. -/
def lowered (s : String) : List Char := (Text.lowercase s).toList

/-- An action text fits a phrase. -/
def Phrase.fits (p : Phrase) (action : String) : Bool :=
  (lowered p.opening).isPrefixOf (lowered action) &&
    p.fragment.all fun f => Text.occursIn (lowered f) (lowered action)

/-- An action text fits a rule. -/
def Rule.fits {α : Type} (r : Rule α) (action : String) : Bool :=
  r.phrases.any (·.fits action)

/-- What an action text means by the first rule that it fits. -/
def meaning? {α : Type} (rules : List (Rule α)) (action : String) : Option α :=
  (rules.find? (·.fits action)).map (·.meaning)

end Playbook.Shop
