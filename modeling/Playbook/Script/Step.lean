import Playbook.Value.Basic

/-!
# Steps

A script is a list of test cases, a test case a tree of steps. A parsed tree holds actions,
conditionals with their branches, and loops; a tree built by hand may hold anything, also kinds
that nothing is known about, so a step is one node with a kind and the kind decides which of its
other fields count.
-/

namespace Playbook.Script

/-- What a step is. -/
inductive StepKind where
  | action
  | ifBlock
  | elseBranch
  | loop
  | endIf
  | endLoop
  /-- A kind that is not one of the language, by its tag. -/
  | other (tag : Value)
  deriving Repr, Inhabited

namespace StepKind

/-- The tag a kind is written by. -/
def tag : StepKind → Value
  | .action => .text "action"
  | .ifBlock => .text "if"
  | .elseBranch => .text "else"
  | .loop => .text "loop"
  | .endIf => .text "endif"
  | .endLoop => .text "endloop"
  | .other tag => tag

/-- The kind with a tag. -/
def ofTag : Value → StepKind
  | .text "action" => .action
  | .text "if" => .ifBlock
  | .text "else" => .elseBranch
  | .text "loop" => .loop
  | .text "endif" => .endIf
  | .text "endloop" => .endLoop
  | tag => .other tag

/-- Conditionals, branches and loops hold other steps. -/
def isBlock : StepKind → Bool
  | .ifBlock | .elseBranch | .loop => true
  | _ => false

end StepKind

/-- A node of a step tree. The text is the template of an action, the condition of a conditional
or branch (none for a branch that needs none) and the header of a loop. A parameter that is left
open reads as the empty text. -/
structure Step where
  kind : StepKind
  text : Option String := none
  parameters : List (Option String) := []
  children : List Step := []
  deriving Repr, Inhabited

namespace Step

/-- An action: a template and the literals that were taken out of it. -/
def action (template : String) (parameters : List String) : Step :=
  { kind := .action, text := some template, parameters := parameters.map some }

/-- A conditional with its body and branches. -/
def ifBlock (condition : String) (children : List Step) : Step :=
  { kind := .ifBlock, text := some condition, children := children }

/-- A branch of a conditional, with a condition of its own or without. -/
def elseBranch (condition : Option String) (children : List Step) : Step :=
  { kind := .elseBranch, text := condition, children := children }

/-- A loop over the items of its header. -/
def loop (header : String) (children : List Step) : Step :=
  { kind := .loop, text := some header, children := children }

/-- A step that is a branch of a conditional. -/
def isBranch (s : Step) : Bool :=
  match s.kind with
  | .elseBranch => true
  | _ => false

/-- A marker that closes a conditional. -/
def endIf : Step := { kind := .endIf }

/-- A marker that closes a loop. -/
def endLoop : Step := { kind := .endLoop }

mutual

/-- A step as a structured value: parameters belong to actions, children to blocks. -/
def toValue : Step → Value
  | ⟨kind, text, parameters, children⟩ =>
    .object <|
      ("type", kind.tag) ::
      (match text with
        | some t => [("action", .text t)]
        | none => []) ++
      (match kind with
        | .action => [("parameters", .list (parameters.map Value.ofText?))]
        | _ => []) ++
      (if kind.isBlock then [("steps", .list (toValues children))] else [])

/-- Steps as structured values, in order. -/
def toValues : List Step → List Value
  | [] => []
  | s :: rest => toValue s :: toValues rest

end

end Step

/-- A named test case. -/
structure Case where
  name : String
  steps : List Step
  deriving Repr, Inhabited

/-- A test case as a structured value. -/
def Case.toValue (c : Case) : Value :=
  .object [("name", .text c.name), ("steps", .list (Step.toValues c.steps))]

end Playbook.Script
