import Playbook.Proofs.Script.Grammar

/-!
# Well-formed trees and the steps they are written as

`Said` describes a step as one line says it, `Formed` a step of a tree: an action, a conditional
whose branches follow the steps of its body, or a loop. Both take the conditions on templates and
on the texts of blocks as parameters. `Step.written` writes a tree back as steps that lines can
say, each block with its closer.
-/

namespace Playbook.Script

/-- A step as a line says it, without children. -/
inductive Said (leaf : String → List String → Prop) (label : String → Prop) : Step → Prop
  | action {template : String} {parameters : List String} :
      leaf template parameters → Said leaf label (.action template parameters)
  | ifBlock {condition : String} : label condition → Said leaf label (.ifBlock condition [])
  | elseBranch {condition : Option String} :
      (∀ c ∈ condition, label c) → Said leaf label (.elseBranch condition [])
  | loop {header : String} : label header → Said leaf label (.loop header [])
  | closer (k : Closer) : Said leaf label k.step

/-- A branch of a conditional: its condition, if it has one, and its steps. -/
structure Branch where
  condition : Option String
  steps : List Step

/-- A branch as a step. -/
def Branch.step (b : Branch) : Step := .elseBranch b.condition b.steps

/-- A step of a tree that holds no stray branch and no closer: an action, a conditional with the
steps of its body first and its branches after them, or a loop. -/
inductive Formed (leaf : String → List String → Prop) (label : String → Prop) : Step → Prop
  | action {template : String} {parameters : List String} :
      leaf template parameters → Formed leaf label (.action template parameters)
  | ifBlock {condition : String} (body : List Step) (branches : List Branch) :
      label condition → (∀ s ∈ body, Formed leaf label s) →
      (∀ b ∈ branches, ∀ c ∈ b.condition, label c) →
      (∀ b ∈ branches, ∀ s ∈ b.steps, Formed leaf label s) →
      Formed leaf label (.ifBlock condition (body ++ branches.map Branch.step))
  | loop {header : String} {body : List Step} :
      label header → (∀ s ∈ body, Formed leaf label s) → Formed leaf label (.loop header body)

/-- A branch's step is a branch. -/
@[simp] theorem Branch.isBranch_step (b : Branch) : b.step.isBranch = true := rfl

/-- A well-formed step is no branch. -/
theorem Formed.isBranch_eq_false {leaf : String → List String → Prop} {label : String → Prop}
    {s : Step} (h : Formed leaf label s) : s.isBranch = false := by
  cases h <;> rfl

mutual

/-- The steps that a tree is written as: a conditional as its header, its body, each branch and
its closer, a loop as its header, its body and its closer, and everything else as itself. -/
def Step.written : Step → List Step
  | ⟨.ifBlock, text, parameters, children⟩ =>
    ⟨.ifBlock, text, parameters, []⟩ ::
      (writtenOf (!·.isBranch) children ++ writtenOf Step.isBranch children ++ [.endIf])
  | ⟨.elseBranch, text, parameters, children⟩ =>
    ⟨.elseBranch, text, parameters, []⟩ :: writtenOf (fun _ ↦ true) children
  | ⟨.loop, text, parameters, children⟩ =>
    ⟨.loop, text, parameters, []⟩ :: (writtenOf (fun _ ↦ true) children ++ [.endLoop])
  | s => [s]

/-- The steps that the chosen ones among some trees are written as. -/
def writtenOf (chosen : Step → Bool) : List Step → List Step
  | [] => []
  | s :: rest => if chosen s then s.written ++ writtenOf chosen rest else writtenOf chosen rest

end

/-- The chosen trees are written one after the other. -/
theorem writtenOf_eq (chosen : Step → Bool) (steps : List Step) :
    writtenOf chosen steps = (steps.filter chosen).flatMap Step.written := by
  induction steps with
  | nil => rw [writtenOf]; rfl
  | cons s rest ih =>
    rw [writtenOf, List.filter_cons]
    split
    · rw [List.flatMap_cons, ih]
    · exact ih

private theorem writtenOf_all (steps : List Step) :
    writtenOf (fun _ ↦ true) steps = steps.flatMap Step.written := by
  rw [writtenOf_eq, List.filter_eq_self.mpr fun _ _ ↦ rfl]

/-- An action is written as itself. -/
@[simp] theorem written_action (template : String) (parameters : List String) :
    (Step.action template parameters).written = [.action template parameters] := rfl

/-- A branch is written as its header and its steps. -/
theorem written_elseBranch (condition : Option String) (steps : List Step) :
    (Step.elseBranch condition steps).written =
      .elseBranch condition [] :: steps.flatMap Step.written := by
  rw [Step.elseBranch, Step.written, writtenOf_all]
  rfl

/-- A loop is written as its header, its body and its closer. -/
theorem written_loop (header : String) (body : List Step) :
    (Step.loop header body).written =
      .loop header [] :: (body.flatMap Step.written ++ [.endLoop]) := by
  rw [Step.loop, Step.written, writtenOf_all]
  rfl

/-- The steps that the children of a conditional are written as. -/
def writtenInside (children : List Step) : List Step :=
  (children.filter (!·.isBranch)).flatMap Step.written ++
    (children.filter Step.isBranch).flatMap Step.written

/-- A conditional is written as its header, its children and its closer. -/
theorem written_ifBlock (condition : String) (children : List Step) :
    (Step.ifBlock condition children).written =
      .ifBlock condition [] :: (writtenInside children ++ [.endIf]) := by
  rw [Step.ifBlock, Step.written, writtenOf_eq, writtenOf_eq]
  rfl

/-- Steps that are no branches are written in order, and the branches after them. -/
theorem writtenInside_append {body : List Step} (h : ∀ s ∈ body, s.isBranch = false)
    (branches : List Branch) :
    writtenInside (body ++ branches.map Branch.step) =
      body.flatMap Step.written ++ branches.flatMap (·.step.written) := by
  have hb : body.filter (!·.isBranch) = body := by
    apply List.filter_eq_self.mpr
    intro s hs
    rw [h s hs]
    rfl
  have hn : body.filter Step.isBranch = [] := by
    apply List.filter_eq_nil_iff.mpr
    intro s hs
    rw [h s hs]
    exact Bool.false_ne_true
  have hbs : (branches.map Branch.step).filter Step.isBranch = branches.map Branch.step := by
    apply List.filter_eq_self.mpr
    intro s hs
    obtain ⟨b, _, rfl⟩ := List.mem_map.mp hs
    exact b.isBranch_step
  have hbn : (branches.map Branch.step).filter (!·.isBranch) = [] := by
    apply List.filter_eq_nil_iff.mpr
    intro s hs
    obtain ⟨b, _, rfl⟩ := List.mem_map.mp hs
    rw [b.isBranch_step]
    exact Bool.false_ne_true
  rw [writtenInside, List.filter_append, List.filter_append, hb, hn, hbs, hbn, List.append_nil,
    List.nil_append, List.flatMap_map]

/-- Steps that are no branches are written in order. -/
theorem writtenInside_body {body : List Step} (h : ∀ s ∈ body, s.isBranch = false) :
    writtenInside body = body.flatMap Step.written := by
  simpa using writtenInside_append h []

/-- A branch at the end of the children is written after them. -/
theorem writtenInside_concat (children : List Step) (b : Branch) :
    writtenInside (children ++ [b.step]) = writtenInside children ++ b.step.written := by
  simp [writtenInside, List.filter_append, List.filter_cons]

end Playbook.Script
