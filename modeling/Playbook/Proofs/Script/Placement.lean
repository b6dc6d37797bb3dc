import Playbook.Script.Parser
import Playbook.Proofs.Script.Tree

/-!
# Placing steps

What placing one step does to an open test case: to the closers that its open blocks await, to the
steps it is written as so far, and to the shape of its trees. A run over many steps follows by
induction, and closing what is open at the end adds the awaited closers and nothing else.
-/

namespace Playbook.Script

/-! ### Awaited closers -/

namespace Frame

/-- The closer that an open block awaits. -/
def closer : Frame → Closer
  | ifBody .. => .endIf
  | branchBody .. => .endIf
  | loopBody .. => .endLoop

/-- A step in its body leaves a block waiting for its closer. -/
@[simp] theorem closer_push (s : Step) (f : Frame) : (f.push s).closer = f.closer := by
  cases f <;> rfl

/-- The conditional that a new branch belongs to, the branch before it closed, and the new branch
open; a loop stays as it is. -/
def branch (condition : Option String) : Frame → Frame
  | ifBody c steps => branchBody c steps condition []
  | branchBody c children b steps =>
    branchBody c (children ++ [.elseBranch b steps]) condition []
  | loopBody h steps => loopBody h steps

end Frame

namespace OpenCase

/-- The closers that the open blocks await, innermost first. -/
def awaits (c : OpenCase) : List Closer := c.frames.map Frame.closer

/-- A complete step leaves the open blocks as they are. -/
@[simp] theorem awaits_push (c : OpenCase) (s : Step) : (c.push s).awaits = c.awaits := by
  rcases c with ⟨name, steps, _ | ⟨f, frames⟩⟩
  · rfl
  · simp [push, awaits]

/-- A complete step leaves the name. -/
@[simp] theorem name_push (c : OpenCase) (s : Step) : (c.push s).name = c.name := by
  unfold push
  split <;> rfl

/-- Closing a block leaves the name. -/
@[simp] theorem name_closeInnermost (c : OpenCase) : c.closeInnermost.name = c.name := by
  unfold closeInnermost
  split
  · rfl
  · rw [name_push]

/-- Closing the innermost block leaves the others open. -/
@[simp] theorem awaits_closeInnermost (c : OpenCase) :
    c.closeInnermost.awaits = c.awaits.tail := by
  rcases c with ⟨name, steps, _ | ⟨f, frames⟩⟩
  · rfl
  · rw [closeInnermost, awaits_push]
    rfl

section

variable {leaf : String → List String → Prop} {label : String → Prop}

/-- Where a step that a line says can stand, it opens a block, closes the innermost one, opens a
branch of it, or is a complete step in it. -/
inductive Places (leaf : String → List String → Prop) (label : String → Prop) (c : OpenCase) :
    Step → OpenCase → Prop
  | action {template : String} {parameters : List String} : leaf template parameters →
      Places leaf label c (.action template parameters) (c.push (.action template parameters))
  | ifBlock {condition : String} : label condition →
      Places leaf label c (.ifBlock condition [])
        { c with frames := .ifBody condition [] :: c.frames }
  | loop {header : String} : label header →
      Places leaf label c (.loop header []) { c with frames := .loopBody header [] :: c.frames }
  | elseBranch {condition : Option String} {f : Frame} {frames : List Frame} :
      (∀ t ∈ condition, label t) → c.frames = f :: frames → f.closer = .endIf →
      Places leaf label c (.elseBranch condition [])
        { c with frames := f.branch condition :: frames }
  | closer {f : Frame} {frames : List Frame} : c.frames = f :: frames →
      Places leaf label c f.closer.step c.closeInnermost

/-- Why a step cannot stand where closers are awaited. -/
def misplaced : List Closer → Misplaced
  | [] => .noOpenBlock
  | .endIf :: _ => .insideIf
  | .endLoop :: _ => .insideLoop

/-- A step that a line says is placed as `Places` tells, or the open blocks await nothing that it
could be. -/
theorem place_said {s : Step} (hs : Said leaf label s) (c : OpenCase) :
    match c.place s with
    | .ok c' => c.Places leaf label s c'
    | .error cause => await? c.awaits s.kind = none ∧ cause = misplaced c.awaits := by
  cases hs with
  | action h => exact .action h
  | ifBlock h => exact .ifBlock h
  | loop h => exact .loop h
  | elseBranch h =>
    rcases c with ⟨name, steps, _ | ⟨f, frames⟩⟩
    · exact ⟨rfl, rfl⟩
    · cases f with
      | ifBody => exact .elseBranch (f := .ifBody ..) h rfl rfl
      | branchBody => exact .elseBranch (f := .branchBody ..) h rfl rfl
      | loopBody => exact ⟨rfl, rfl⟩
  | closer k =>
    rcases c with ⟨name, steps, _ | ⟨f, frames⟩⟩
    · cases k <;> exact ⟨rfl, rfl⟩
    · cases k <;> cases f
      · exact .closer (f := .ifBody ..) rfl
      · exact .closer (f := .branchBody ..) rfl
      · exact ⟨rfl, rfl⟩
      · exact ⟨rfl, rfl⟩
      · exact ⟨rfl, rfl⟩
      · exact .closer (f := .loopBody ..) rfl

/-- A step that is placed stands where `Places` tells. -/
theorem places_of_place {s : Step} (hs : Said leaf label s) {c c' : OpenCase}
    (h : c.place s = .ok c') : c.Places leaf label s c' := by
  have hp := place_said hs c
  rw [h] at hp
  exact hp

/-- A step that is not placed is not awaited, and the reason is the block around it. -/
theorem await?_of_place_error {s : Step} (hs : Said leaf label s) {c : OpenCase}
    {cause : Misplaced} (h : c.place s = .error cause) :
    await? c.awaits s.kind = none ∧ cause = misplaced c.awaits := by
  have hp := place_said hs c
  rw [h] at hp
  exact hp

/-- A step that is placed leaves the name. -/
theorem Places.name_eq {c c' : OpenCase} {s : Step} (h : c.Places leaf label s c') :
    c'.name = c.name := by
  cases h with
  | action => exact name_push ..
  | ifBlock => rfl
  | loop => rfl
  | elseBranch => rfl
  | closer => exact name_closeInnermost c

/-- What is awaited after a step that is placed. -/
theorem Places.await?_eq {c c' : OpenCase} {s : Step} (h : c.Places leaf label s c') :
    await? c.awaits s.kind = some c'.awaits := by
  cases h with
  | action => rw [awaits_push]; rfl
  | ifBlock => rfl
  | loop => rfl
  | @elseBranch condition f frames _ hf hc =>
    have hb : (f.branch condition).closer = .endIf := by cases f <;> first | rfl | cases hc
    simp only [awaits, hf, List.map_cons, hc, hb]
    rfl
  | @closer f frames hf =>
    rw [awaits_closeInnermost, Closer.kind_step]
    simp only [awaits, hf, List.map_cons, List.tail_cons]
    cases f.closer <;> rfl

end

end OpenCase

/-! ### The steps written so far -/

namespace Frame

/-- The steps that an open block is written as, but for its closer. -/
def written : Frame → List Step
  | ifBody condition steps => .ifBlock condition [] :: steps.flatMap Step.written
  | branchBody condition children b steps =>
    .ifBlock condition [] ::
      (writtenInside children ++ .elseBranch b [] :: steps.flatMap Step.written)
  | loopBody header steps => .loop header [] :: steps.flatMap Step.written

/-- A step in the body of a block is written after those before it. -/
theorem written_push (f : Frame) (s : Step) : (f.push s).written = f.written ++ s.written := by
  cases f <;> simp [push, written]

/-- The trees in an open block are well formed. -/
inductive Formed (leaf : String → List String → Prop) (label : String → Prop) : Frame → Prop
  | ifBody {condition : String} {steps : List Step} :
      label condition → (∀ s ∈ steps, Script.Formed leaf label s) →
      Formed leaf label (.ifBody condition steps)
  | branchBody {condition : String} {body : List Step} {branches : List Branch}
      {b : Option String} {steps : List Step} :
      label condition → (∀ s ∈ body, Script.Formed leaf label s) →
      (∀ b ∈ branches, ∀ c ∈ b.condition, label c) →
      (∀ b ∈ branches, ∀ s ∈ b.steps, Script.Formed leaf label s) →
      (∀ c ∈ b, label c) → (∀ s ∈ steps, Script.Formed leaf label s) →
      Formed leaf label (.branchBody condition (body ++ branches.map Branch.step) b steps)
  | loopBody {header : String} {steps : List Step} :
      label header → (∀ s ∈ steps, Script.Formed leaf label s) →
      Formed leaf label (.loopBody header steps)

section

variable {leaf : String → List String → Prop} {label : String → Prop}

private theorem forall_mem_concat {α : Type} {p : α → Prop} {xs : List α} {x : α}
    (h : ∀ y ∈ xs, p y) (hx : p x) : ∀ y ∈ xs ++ [x], p y :=
  List.forall_mem_append.mpr ⟨h, List.forall_mem_singleton.mpr hx⟩

/-- A well-formed step keeps an open block well formed. -/
theorem Formed.push {f : Frame} {s : Step} (h : f.Formed leaf label)
    (hs : Script.Formed leaf label s) : (f.push s).Formed leaf label := by
  cases h with
  | ifBody hc hb => exact .ifBody hc (forall_mem_concat hb hs)
  | branchBody hc hb hl hbs hcond hst =>
    exact .branchBody hc hb hl hbs hcond (forall_mem_concat hst hs)
  | loopBody hh hb => exact .loopBody hh (forall_mem_concat hb hs)

/-- A well-formed open block closes to a well-formed step. -/
theorem Formed.close {f : Frame} (h : f.Formed leaf label) :
    Script.Formed leaf label f.close := by
  cases h with
  | @ifBody condition steps hc hb =>
    have hf : Script.Formed leaf label (.ifBlock condition (steps ++ [].map Branch.step)) :=
      .ifBlock steps [] hc hb nofun nofun
    rwa [List.map_nil, List.append_nil] at hf
  | @branchBody condition body branches b steps hc hb hl hbs hcond hst =>
    have hf : Script.Formed leaf label
        (.ifBlock condition (body ++ (branches ++ [(⟨b, steps⟩ : Branch)]).map Branch.step)) :=
      .ifBlock body _ hc hb (forall_mem_concat hl hcond) (forall_mem_concat hbs hst)
    rwa [List.map_append, ← List.append_assoc] at hf
  | loopBody hh hb => exact .loop hh hb

/-- A new branch of a well-formed conditional leaves it well formed. -/
theorem Formed.branch {f : Frame} (h : f.Formed leaf label) {condition : Option String}
    (hcond : ∀ c ∈ condition, label c) : (f.branch condition).Formed leaf label := by
  cases h with
  | @ifBody c steps hc hb =>
    have hf : Formed leaf label (.branchBody c (steps ++ [].map Branch.step) condition []) :=
      .branchBody hc hb nofun nofun hcond nofun
    rwa [List.map_nil, List.append_nil] at hf
  | @branchBody c body branches b steps hc hb hl hbs hcond' hst =>
    have hf : Formed leaf label (.branchBody c
        (body ++ (branches ++ [(⟨b, steps⟩ : Branch)]).map Branch.step) condition []) :=
      .branchBody hc hb (forall_mem_concat hl hcond') (forall_mem_concat hbs hst) hcond nofun
    rwa [List.map_append, ← List.append_assoc] at hf
  | loopBody hh hb => exact .loopBody hh hb

/-- A well-formed block that closes is written with its closer at the end. -/
theorem written_close {f : Frame} (h : f.Formed leaf label) :
    f.close.written = f.written ++ [f.closer.step] := by
  cases h with
  | ifBody hc hb =>
    rw [close, written_ifBlock, writtenInside_body fun s hs ↦ (hb s hs).isBranch_eq_false]
    rfl
  | @branchBody condition body branches b steps =>
    rw [close, written_ifBlock, show Step.elseBranch b steps = Branch.step ⟨b, steps⟩ from rfl,
      writtenInside_concat]
    simp only [Branch.step, written_elseBranch, written]
    rfl
  | loopBody hh hb =>
    rw [close, written_loop]
    rfl

/-- A new branch of a well-formed conditional is written after what the conditional holds. -/
theorem written_branch {f : Frame} (h : f.Formed leaf label) (hc : f.closer = .endIf)
    (condition : Option String) :
    (f.branch condition).written = f.written ++ [.elseBranch condition []] := by
  cases h with
  | ifBody _ hb =>
    simp only [branch, written, writtenInside_body fun s hs ↦ (hb s hs).isBranch_eq_false]
    rfl
  | @branchBody c body branches b steps =>
    rw [branch, written, show Step.elseBranch b steps = Branch.step ⟨b, steps⟩ from rfl,
      writtenInside_concat]
    simp only [Branch.step, written_elseBranch, written]
    rfl
  | loopBody => cases hc

end

end Frame

namespace OpenCase

/-- The steps that an open test case is written as, but for the closers that it awaits. -/
def written (c : OpenCase) : List Step :=
  c.steps.flatMap Step.written ++ c.frames.reverse.flatMap Frame.written

/-- A complete step is written after those before it. -/
theorem written_push (c : OpenCase) (s : Step) : (c.push s).written = c.written ++ s.written := by
  rcases c with ⟨name, steps, _ | ⟨f, frames⟩⟩
  · simp [push, written]
  · simp [push, written, Frame.written_push]

/-- The trees of an open test case are well formed. -/
structure Formed (leaf : String → List String → Prop) (label : String → Prop) (c : OpenCase) :
    Prop where
  steps : ∀ s ∈ c.steps, Script.Formed leaf label s
  frames : ∀ f ∈ c.frames, f.Formed leaf label

section

variable {leaf : String → List String → Prop} {label : String → Prop}

/-- A well-formed step keeps an open test case well formed. -/
theorem Formed.push {c : OpenCase} {s : Step} (h : c.Formed leaf label)
    (hs : Script.Formed leaf label s) : (c.push s).Formed leaf label := by
  rcases c with ⟨name, steps, _ | ⟨f, frames⟩⟩
  · exact ⟨List.forall_mem_append.mpr ⟨h.steps, List.forall_mem_singleton.mpr hs⟩, h.frames⟩
  · obtain ⟨hf, hfs⟩ := List.forall_mem_cons.mp h.frames
    exact ⟨h.steps, List.forall_mem_cons.mpr ⟨hf.push hs, hfs⟩⟩

/-- Closing a block keeps an open test case well formed. -/
theorem Formed.closeInnermost {c : OpenCase} (h : c.Formed leaf label) :
    c.closeInnermost.Formed leaf label := by
  rcases c with ⟨name, steps, _ | ⟨f, frames⟩⟩
  · exact h
  · obtain ⟨hf, hfs⟩ := List.forall_mem_cons.mp h.frames
    exact Formed.push ⟨h.steps, hfs⟩ hf.close

/-- Closing a block writes its closer. -/
theorem Formed.written_closeInnermost {c : OpenCase} (h : c.Formed leaf label) {f : Frame}
    {frames : List Frame} (hf : c.frames = f :: frames) :
    c.closeInnermost.written = c.written ++ [f.closer.step] := by
  have hfo : f.Formed leaf label := h.frames f (by simp [hf])
  rw [OpenCase.closeInnermost, hf]
  simp only
  rw [written_push, Frame.written_close hfo]
  simp [written, hf]

/-- Placing a step that a line says keeps an open test case well formed. -/
theorem Formed.of_places {c c' : OpenCase} {s : Step} (h : c.Formed leaf label)
    (hp : c.Places leaf label s c') : c'.Formed leaf label := by
  cases hp with
  | action hl => exact h.push (.action hl)
  | ifBlock hl => exact ⟨h.steps, List.forall_mem_cons.mpr ⟨.ifBody hl (by simp), h.frames⟩⟩
  | loop hl => exact ⟨h.steps, List.forall_mem_cons.mpr ⟨.loopBody hl (by simp), h.frames⟩⟩
  | elseBranch hl hf =>
    have hfs := h.frames
    rw [hf] at hfs
    obtain ⟨hfo, hfs⟩ := List.forall_mem_cons.mp hfs
    exact ⟨h.steps, List.forall_mem_cons.mpr ⟨hfo.branch hl, hfs⟩⟩
  | closer => exact h.closeInnermost

/-- A step that is placed is written after those before it. -/
theorem Formed.written_of_places {c c' : OpenCase} {s : Step} (h : c.Formed leaf label)
    (hp : c.Places leaf label s c') : c'.written = c.written ++ [s] := by
  cases hp with
  | action => rw [written_push, written_action]
  | ifBlock => simp [written, Frame.written]
  | loop => simp [written, Frame.written]
  | @elseBranch condition f frames hl hf hc =>
    have hfo : f.Formed leaf label := h.frames f (by simp [hf])
    simp [written, hf, Frame.written_branch hfo hc]
  | closer hf => exact h.written_closeInnermost hf

end

/-! ### Runs -/

/-- Place steps in turn, up to the first that cannot stand where it stands. -/
def placeAll (c : OpenCase) (steps : List Step) : Except Misplaced OpenCase :=
  steps.foldlM place c

/-- Placing no step changes nothing. -/
@[simp] theorem placeAll_nil (c : OpenCase) : c.placeAll [] = .ok c := rfl

/-- The first step is placed before the others. -/
theorem placeAll_cons (c : OpenCase) (s : Step) (steps : List Step) :
    c.placeAll (s :: steps) = (c.place s).bind (·.placeAll steps) := rfl

/-- Steps are placed one after the other. -/
theorem placeAll_append (c : OpenCase) (xs ys : List Step) :
    c.placeAll (xs ++ ys) = (c.placeAll xs).bind (·.placeAll ys) := by
  simp only [placeAll, List.foldlM_append]
  rfl

/-- A step that is placed is placed before the others. -/
theorem placeAll_cons_of_ok {c c' : OpenCase} {s : Step} (h : c.place s = .ok c')
    (steps : List Step) : c.placeAll (s :: steps) = c'.placeAll steps := by
  rw [placeAll_cons, h]
  rfl

/-- Steps that are placed are placed before the others. -/
theorem placeAll_append_of_ok {c c' : OpenCase} {xs : List Step} (h : c.placeAll xs = .ok c')
    (ys : List Step) : c.placeAll (xs ++ ys) = c'.placeAll ys := by
  rw [placeAll_append, h]
  rfl

section

variable {leaf : String → List String → Prop} {label : String → Prop}

/-- A run over steps that lines say: the shape and the name after it, what is written and what is
awaited. -/
theorem Formed.of_placeAll {steps : List Step} (hs : ∀ s ∈ steps, Said leaf label s)
    {c c' : OpenCase} (h : c.Formed leaf label) (hp : c.placeAll steps = .ok c') :
    c'.Formed leaf label ∧ c'.name = c.name ∧ c'.written = c.written ++ steps ∧
      awaited? c.awaits (steps.map Step.kind) = some c'.awaits := by
  induction steps generalizing c with
  | nil =>
    cases hp
    exact ⟨h, rfl, (List.append_nil _).symm, rfl⟩
  | cons s steps ih =>
    obtain ⟨hs, hss⟩ := List.forall_mem_cons.mp hs
    cases hc : c.place s with
    | error cause =>
      rw [placeAll_cons, hc] at hp
      cases hp
    | ok between =>
      rw [placeAll_cons_of_ok hc] at hp
      have hpl := places_of_place hs hc
      obtain ⟨hf, hn, hw, ha⟩ := ih hss (h.of_places hpl) hp
      refine ⟨hf, hn.trans hpl.name_eq, ?_, ?_⟩
      · rw [hw, h.written_of_places hpl, List.append_assoc]
        rfl
      · rw [List.map_cons, awaited?_cons, hpl.await?_eq]
        exact ha

/-- A run over steps that lines say from the start of a test case. -/
theorem formed_of_placeAll {name : String} {steps : List Step}
    (hs : ∀ s ∈ steps, Said leaf label s) {c : OpenCase} (hp : placeAll { name } steps = .ok c) :
    c.Formed leaf label ∧ c.name = name ∧ c.written = steps ∧
      awaited? [] (steps.map Step.kind) = some c.awaits := by
  have hf : Formed leaf label { name } := ⟨nofun, nofun⟩
  exact hf.of_placeAll hs hp

/-- The closer that is awaited can be placed. -/
theorem place_closer {c : OpenCase} {f : Frame} {frames : List Frame}
    (hf : c.frames = f :: frames) : c.place f.closer.step = .ok c.closeInnermost := by
  rcases c with ⟨name, steps, cframes⟩
  cases hf
  cases f <;> rfl

/-- A test case ends the same when its innermost block closes before. -/
theorem finish_closeInnermost (c : OpenCase) : c.closeInnermost.finish = c.finish := by
  rcases c with ⟨name, steps, _ | ⟨f, _ | ⟨g, frames⟩⟩⟩
  · rfl
  · simp [closeInnermost, push, finish, closeAll]
  · simp [closeInnermost, push, finish, closeAll]

/-- A test case without open blocks ends as it is. -/
theorem finish_of_awaits_eq_nil {c : OpenCase} (h : c.awaits = []) :
    c.finish = ⟨c.name, c.steps⟩ ∧ c.frames = [] := by
  have hf : c.frames = [] := List.map_eq_nil_iff.mp h
  refine ⟨?_, hf⟩
  rw [finish, hf, closeAll]

/-- Placing the awaited closers closes all blocks and ends the test case as it would end. -/
theorem placeAll_awaits {closers : List Closer} {c : OpenCase} (h : c.awaits = closers) :
    ∃ c', c.placeAll (closers.map Closer.step) = .ok c' ∧ c'.awaits = [] ∧
      c'.finish = c.finish := by
  induction closers generalizing c with
  | nil => exact ⟨c, rfl, h, rfl⟩
  | cons k closers ih =>
    -- the awaited closer is the innermost block's, and the test case ends the same without it
    obtain ⟨f, frames, hf, rfl, hfs⟩ := List.map_eq_cons_iff.mp h
    have ha : c.closeInnermost.awaits = closers := by rw [awaits_closeInnermost, h, List.tail_cons]
    obtain ⟨c', hp, hn, he⟩ := ih ha
    refine ⟨c', ?_, hn, he.trans (finish_closeInnermost c)⟩
    rw [List.map_cons, placeAll_cons_of_ok (place_closer hf), hp]

/-- A test case that ends is written with the closers that its open blocks await. -/
theorem Formed.written_finish {c : OpenCase} (h : c.Formed leaf label) :
    c.finish.steps.flatMap Step.written = c.written ++ c.awaits.map Closer.step ∧
      ∀ s ∈ c.finish.steps, Script.Formed leaf label s := by
  generalize hk : c.awaits = closers
  induction closers generalizing c with
  | nil =>
    obtain ⟨he, hf⟩ := finish_of_awaits_eq_nil hk
    rw [he, written, hf]
    exact ⟨by simp, h.steps⟩
  | cons k closers ih =>
    obtain ⟨f, frames, hf, rfl, hfs⟩ := List.map_eq_cons_iff.mp hk
    have ha : c.closeInnermost.awaits = closers := by rw [awaits_closeInnermost, hk, List.tail_cons]
    have hi := ih h.closeInnermost ha
    rw [finish_closeInnermost, h.written_closeInnermost hf, List.append_assoc] at hi
    exact hi

end

end OpenCase

end Playbook.Script
