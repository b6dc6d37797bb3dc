import Playbook.Proofs.Script.Printer
import Playbook.Proofs.Script.Reading

/-!
# Printing and reading back

A well-formed tree is written as steps that lines can say (`said_of_mem_written`), and placing
these puts the tree, complete, where they are placed (`Formed.placeAll_written`). So a script that
is printed from test cases is read to the same test cases (`parse_printScript`).
-/

namespace Playbook.Script

variable {leaf : String → List String → Prop} {label : String → Prop}

/-- A well-formed tree is written as steps that lines can say. -/
theorem said_of_mem_written {s : Step} (h : Formed leaf label s) {t : Step}
    (ht : t ∈ s.written) : Said leaf label t := by
  induction h with
  | action hl =>
    rw [written_action, List.mem_singleton] at ht
    rw [ht]
    exact .action hl
  | ifBlock body branches hc hb hbc _ ihBody ihBranches =>
    rw [written_ifBlock, writtenInside_append fun s hs ↦ (hb s hs).isBranch_eq_false] at ht
    simp only [List.mem_cons, List.mem_append, List.mem_flatMap, List.not_mem_nil,
      or_false] at ht
    rcases ht with rfl | (⟨s, hs, ht⟩ | ⟨b, hbm, ht⟩) | rfl
    · exact .ifBlock hc
    · exact ihBody s hs ht
    · rw [Branch.step, written_elseBranch, List.mem_cons, List.mem_flatMap] at ht
      rcases ht with rfl | ⟨s, hs, ht⟩
      · exact .elseBranch (hbc b hbm)
      · exact ihBranches b hbm s hs ht
    · exact .closer .endIf
  | loop hh _ ih =>
    rw [written_loop] at ht
    simp only [List.mem_cons, List.mem_append, List.mem_flatMap, List.not_mem_nil,
      or_false] at ht
    rcases ht with rfl | ⟨s, hs, ht⟩ | rfl
    · exact .loop hh
    · exact ih s hs ht
    · exact .closer .endLoop

/-! ### Placing a written tree -/

/-- Put complete steps at the end of the steps of an open block. -/
def Frame.extend (steps : List Step) : Frame → Frame
  | ifBody c before => ifBody c (before ++ steps)
  | branchBody c children b before => branchBody c children b (before ++ steps)
  | loopBody h before => loopBody h (before ++ steps)

/-- Steps are put into a block one after the other. -/
theorem Frame.extend_push (s : Step) (steps : List Step) (f : Frame) :
    (f.push s).extend steps = f.extend (s :: steps) := by
  cases f <;> simp [push, extend]

/-- Putting no step into a block changes nothing. -/
@[simp] theorem Frame.extend_nil (f : Frame) : f.extend [] = f := by
  cases f <;> simp [extend]

/-- A conditional whose new branch closes has it as its last child. -/
theorem Frame.close_extend_branch {f : Frame} (hc : f.closer = .endIf) {condition : String}
    {children : List Step} (h : f.close = .ifBlock condition children) (b : Branch) :
    ((f.branch b.condition).extend b.steps).closer = .endIf ∧
      ((f.branch b.condition).extend b.steps).close =
        .ifBlock condition (children ++ [b.step]) := by
  cases f with
  | ifBody c steps =>
    cases h
    exact ⟨rfl, rfl⟩
  | branchBody c before b' steps =>
    cases h
    exact ⟨rfl, rfl⟩
  | loopBody => cases hc

namespace OpenCase

/-- A branch can be placed where a conditional is the innermost open block. -/
theorem place_elseBranch {c : OpenCase} {f : Frame} {frames : List Frame}
    (hf : c.frames = f :: frames) (hc : f.closer = .endIf) (condition : Option String) :
    c.place (.elseBranch condition []) =
      .ok { c with frames := f.branch condition :: frames } := by
  rcases c with ⟨name, steps, cframes⟩
  cases hf
  cases f with
  | ifBody => rfl
  | branchBody => rfl
  | loopBody => cases hc

/-- Trees that are each placed where they are written are placed in a block one after the other. -/
theorem placeAll_flatMap {steps : List Step}
    (h : ∀ s ∈ steps, ∀ c : OpenCase, c.placeAll s.written = .ok (c.push s)) (c : OpenCase)
    (f : Frame) (frames : List Frame) :
    placeAll { c with frames := f :: frames } (steps.flatMap Step.written) =
      .ok { c with frames := f.extend steps :: frames } := by
  induction steps generalizing f with
  | nil => rw [List.flatMap_nil, placeAll_nil, Frame.extend_nil]
  | cons s steps ih =>
    obtain ⟨hs, hss⟩ := List.forall_mem_cons.mp h
    rw [List.flatMap_cons, placeAll_append_of_ok (hs _), ← Frame.extend_push]
    exact ih hss (f.push s)

/-- Trees that are each placed where they are written are placed outside of all blocks one after
the other. -/
theorem placeAll_outermost {steps : List Step}
    (h : ∀ s ∈ steps, ∀ c : OpenCase, c.placeAll s.written = .ok (c.push s)) (name : String)
    (before : List Step) :
    placeAll { name, steps := before } (steps.flatMap Step.written) =
      .ok { name, steps := before ++ steps } := by
  induction steps generalizing before with
  | nil => rw [List.flatMap_nil, placeAll_nil, List.append_nil]
  | cons s steps ih =>
    obtain ⟨hs, hss⟩ := List.forall_mem_cons.mp h
    rw [List.flatMap_cons, placeAll_append_of_ok (hs _), List.append_cons]
    exact ih hss (before ++ [s])

/-- Branches whose trees are each placed where they are written are placed in a conditional one
after the other. -/
theorem placeAll_branches {branches : List Branch}
    (h : ∀ b ∈ branches, ∀ s ∈ b.steps, ∀ c : OpenCase, c.placeAll s.written = .ok (c.push s))
    (c : OpenCase) {f : Frame} (frames : List Frame) (hc : f.closer = .endIf) {condition : String}
    {children : List Step} (hf : f.close = .ifBlock condition children) :
    ∃ f' : Frame, f'.closer = .endIf ∧
      f'.close = .ifBlock condition (children ++ branches.map Branch.step) ∧
      placeAll { c with frames := f :: frames } (branches.flatMap (·.step.written)) =
        .ok { c with frames := f' :: frames } := by
  induction branches generalizing f children with
  | nil => exact ⟨f, hc, by rw [hf, List.map_nil, List.append_nil], rfl⟩
  | cons b branches ih =>
    obtain ⟨hb, hbs⟩ := List.forall_mem_cons.mp h
    -- a branch closes where the next one opens, so the conditional has one more child then
    obtain ⟨hc', hf'⟩ := Frame.close_extend_branch hc hf b
    obtain ⟨f', hfc, hfe, hp⟩ := ih hbs hc' hf'
    refine ⟨f', hfc, by rw [hfe, List.append_assoc]; rfl, ?_⟩
    rw [List.flatMap_cons, Branch.step, written_elseBranch, List.cons_append,
      placeAll_cons_of_ok (place_elseBranch rfl hc _), placeAll_append_of_ok
        (placeAll_flatMap hb c _ frames), hp]

end OpenCase

/-- Placing a well-formed tree as it is written puts it, complete, into the innermost open
block. -/
theorem Formed.placeAll_written {s : Step} (h : Formed leaf label s) (c : OpenCase) :
    c.placeAll s.written = .ok (c.push s) := by
  induction h generalizing c with
  | action => rfl
  | @ifBlock condition body branches _ hb _ _ ihBody ihBranches =>
    have hi : c.place (.ifBlock condition []) =
        .ok { c with frames := .ifBody condition [] :: c.frames } := rfl
    have hbody := OpenCase.placeAll_flatMap ihBody c (.ifBody condition []) c.frames
    have hf : (Frame.extend body (.ifBody condition [])).close = .ifBlock condition body := rfl
    obtain ⟨f, hc, hf', hbranches⟩ := OpenCase.placeAll_branches ihBranches c c.frames rfl hf
    have he : OpenCase.place { c with frames := f :: c.frames } .endIf =
        .ok (c.push (.ifBlock condition (body ++ branches.map Branch.step))) := by
      rw [← hf', show Step.endIf = Closer.endIf.step from rfl, ← hc, OpenCase.place_closer rfl]
      rfl
    rw [written_ifBlock, writtenInside_append fun s hs ↦ (hb s hs).isBranch_eq_false,
      List.append_assoc, OpenCase.placeAll_cons_of_ok hi, OpenCase.placeAll_append_of_ok hbody,
      OpenCase.placeAll_append_of_ok hbranches, OpenCase.placeAll_cons_of_ok he,
      OpenCase.placeAll_nil]
  | @loop header body _ _ ih =>
    have hi : c.place (.loop header []) =
        .ok { c with frames := .loopBody header [] :: c.frames } := rfl
    have hbody := OpenCase.placeAll_flatMap ih c (.loopBody header []) c.frames
    rw [written_loop, OpenCase.placeAll_cons_of_ok hi, OpenCase.placeAll_append_of_ok hbody]
    rfl

/-! ### Printed scripts -/

/-- A test case that can be printed: its name is a trimmed single line and its trees are well
formed, with texts that can stand on a line. -/
structure Case.Printable (c : Case) : Prop where
  trimmed : Text.strip c.name = c.name
  singleLine : Text.SingleLine c.name.toList
  formed : ∀ s ∈ c.steps, Formed PrintableAction PrintableLabel s

namespace Case

/-- The steps that a test case is written as. -/
def written (c : Case) : List Step := c.steps.flatMap Step.written

/-- The lines that a test case is printed as. -/
def lines (c : Case) : List (List Char) := headerLine c.name :: c.written.map Step.line

/-- A printed test case's steps can be said by lines. -/
theorem Printable.said {c : Case} (h : c.Printable) :
    ∀ s ∈ c.written, Said PrintableAction PrintableLabel s := by
  intro s hs
  obtain ⟨t, ht, hs⟩ := List.mem_flatMap.mp hs
  exact said_of_mem_written (h.formed t ht) hs

/-- A test case is printed as single lines. -/
theorem Printable.singleLine_lines {c : Case} (h : c.Printable) :
    ∀ line ∈ c.lines, Text.SingleLine line := by
  unfold lines
  rw [List.forall_mem_cons]
  refine ⟨.append (by decide) h.singleLine, ?_⟩
  intro line hl
  obtain ⟨s, hs, rfl⟩ := List.mem_map.mp hl
  exact singleLine_line (h.said s hs)

/-- Placing the steps that a test case is written as gives the test case. -/
theorem Printable.placeAll_written {c : Case} (h : c.Printable) :
    OpenCase.placeAll { name := c.name } c.written = .ok { name := c.name, steps := c.steps } := by
  apply OpenCase.placeAll_outermost
  intro s hs
  exact (h.formed s hs).placeAll_written

end Case

/-- Test cases printed as a script, each line ended by a line feed. -/
def printScript (cases : List Case) : String :=
  String.ofList (Text.unlines (cases.flatMap Case.lines))

/-- The lines that test cases are printed as are laid out as those test cases. -/
theorem contents_flatMap_lines {cases : List Case} (h : ∀ c ∈ cases, c.Printable) (n : Nat) :
    (Layout.ofLines n (cases.flatMap Case.lines)).lead = [] ∧
      (Layout.ofLines n (cases.flatMap Case.lines)).sections.map Section.content =
        cases.map fun c ↦ (c.name, c.written) := by
  induction cases generalizing n with
  | nil => exact ⟨rfl, rfl⟩
  | cons c cases ih =>
    obtain ⟨hc, hcs⟩ := List.forall_mem_cons.mp h
    have hl : List.Forall₂ (fun raw s ↦ Line.ofChars (Text.trim raw) = .step s)
        (c.written.map Step.line) c.written := by
      rw [List.forall₂_map_left_iff, List.forall₂_same]
      exact fun s hs ↦ ofChars_line (hc.said s hs)
    obtain ⟨hlead, hsections⟩ := Layout.ofLines_steps hl (cases.flatMap Case.lines) (n + 1)
    obtain ⟨hi, his⟩ := ih hcs (n + 1 + (c.written.map Step.line).length)
    rw [hi, List.map_nil, List.append_nil] at hlead
    rw [List.flatMap_cons, Case.lines, List.cons_append, Layout.ofLines, Layout.cons,
      ofChars_headerLine hc.trimmed]
    refine ⟨rfl, ?_⟩
    rw [List.map_cons, List.map_cons, hsections, his, Section.content, Section.steps, hlead]

/-- Reading the lines that test cases are printed as, however they are ended, gives the test cases
back. -/
theorem parse_of_lines {cases : List Case} (h : ∀ c ∈ cases, c.Printable) {text : String}
    (hl : Text.splitLines text.toList = cases.flatMap Case.lines) :
    (parse text).outcome = .ok cases := by
  have hr : readAll (sections text) =
      .ok (cases.map fun c ↦ { name := c.name, steps := c.steps }) := by
    rw [readAll_ok_iff_content, sections, hl, (contents_flatMap_lines h 1).2,
      List.forall₂_map_left_iff, List.forall₂_map_right_iff, List.forall₂_same]
    exact fun c hc ↦ (h c hc).placeAll_written
  have hf : OpenCase.finish ∘ (fun c : Case ↦ { name := c.name, steps := c.steps }) = id := by
    funext c
    exact (OpenCase.finish_of_awaits_eq_nil rfl).1
  rw [outcome_parse_ok_iff]
  refine ⟨_, hr, ?_⟩
  rw [List.map_map, hf, List.map_id]

/-- Reading a script that test cases are printed as gives the test cases back, and so does every
other script with the same lines. -/
theorem parse_printScript (cases : List Case) (h : ∀ c ∈ cases, c.Printable) :
    (parse (printScript cases)).outcome = .ok cases ∧
      ∀ text, Text.splitLines text.toList = cases.flatMap Case.lines →
        (parse text).outcome = .ok cases := by
  refine ⟨?_, fun text hl ↦ parse_of_lines h hl⟩
  apply parse_of_lines h
  rw [printScript, String.toList_ofList]
  apply Text.splitLines_unlines
  intro line hm
  obtain ⟨c, hc, hm⟩ := List.mem_flatMap.mp hm
  exact (h c hc).singleLine_lines line hm

/-- Adjacent placeholders, a stray brace, and parameters that hold a placeholder, a blank or a
keyword, in a branch of a conditional in a loop, and a test case without a name after it. -/
theorem parse_printScript_of_adjacent_literals :
    ∃ cases : List Case,
      cases = [⟨"Cart 2", [.loop "i in 1, 2" [.ifBlock "a" [
        .elseBranch (some "If b") [.action "Add \x7b\x7d\x7b\x7d\x7d" ["1\x7b\x7d", " "]],
        .elseBranch none [.action "Endiffy \x7b\x7d" ["EndIf"]]]]]⟩, ⟨"", []⟩] ∧
      (∀ c ∈ cases, c.Printable) ∧ (parse (printScript cases)).outcome = .ok cases := by
  have hadd : PrintableAction "Add \x7b\x7d\x7b\x7d\x7d" ["1\x7b\x7d", " "] := by
    refine ⟨by decide, by decide, by decide, rfl, rfl, ?_, ⟨by decide, rfl, rfl⟩⟩
    rw [List.forall_mem_cons, List.forall_mem_singleton]
    exact ⟨⟨by decide, by decide, by decide⟩, ⟨by decide, by decide, by decide⟩⟩
  have hend : PrintableAction "Endiffy \x7b\x7d" ["EndIf"] := by
    refine ⟨by decide, by decide, by decide, rfl, rfl, ?_, ⟨by decide, rfl, rfl⟩⟩
    rw [List.forall_mem_singleton]
    exact ⟨by decide, by decide, by decide⟩
  have hif : Formed PrintableAction PrintableLabel (.ifBlock "a" [
      .elseBranch (some "If b") [.action "Add \x7b\x7d\x7b\x7d\x7d" ["1\x7b\x7d", " "]],
      .elseBranch none [.action "Endiffy \x7b\x7d" ["EndIf"]]]) := by
    apply Formed.ifBlock [] [⟨some "If b", [.action "Add \x7b\x7d\x7b\x7d\x7d" ["1\x7b\x7d", " "]]⟩,
      ⟨none, [.action "Endiffy \x7b\x7d" ["EndIf"]]⟩] ⟨by decide, by decide⟩ nofun
    · rw [List.forall_mem_cons, List.forall_mem_singleton]
      refine ⟨?_, nofun⟩
      rintro c ⟨rfl⟩
      exact ⟨by decide, by decide⟩
    · rw [List.forall_mem_cons, List.forall_mem_singleton]
      simp only [List.forall_mem_singleton]
      exact ⟨.action hadd, .action hend⟩
  refine ⟨_, rfl, ?_⟩
  have h : ∀ c ∈ [⟨"Cart 2", [.loop "i in 1, 2" [.ifBlock "a" [
      .elseBranch (some "If b") [.action "Add \x7b\x7d\x7b\x7d\x7d" ["1\x7b\x7d", " "]],
      .elseBranch none [.action "Endiffy \x7b\x7d" ["EndIf"]]]]]⟩, ⟨"", []⟩], Case.Printable c := by
    rw [List.forall_mem_cons, List.forall_mem_singleton]
    refine ⟨⟨by decide, by decide, ?_⟩, ⟨by decide, by decide, nofun⟩⟩
    rw [List.forall_mem_singleton]
    refine .loop ⟨by decide, by decide⟩ ?_
    rw [List.forall_mem_singleton]
    exact hif
  exact ⟨h, (parse_printScript _ h).1⟩

end Playbook.Script
