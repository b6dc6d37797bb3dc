import Playbook.Proofs.Script.Printer
import Playbook.Proofs.Script.Reading

/-!
# Faithfulness

The tree of a test case is written back as the steps of its lines, in order, with the closers that
its open blocks await at the end; the warnings of a script tell how many those are. Putting lines
that say the awaited closers at the end of a test case gives the same trees and takes its warning
away (`parse_faithful`).
-/

namespace Playbook.Script

/-- What is warned of a test case as it stands in a script: how many closers it lacks, if any. -/
def Section.unclosedWarning (s : Section) : Log :=
  match awaited? [] s.kinds with
  | none | some [] => []
  | some closers =>
    [⟨.warning, .script, "Test case " ++ Text.quoted s.name ++ " ends with " ++
      toString closers.length ++ " unclosed block(s); closing them"⟩]

/-- `text'` is `text` with lines that say the closers which the blocks of a test case await, put
after the last line of the test case that says a step; other test cases stand `before` it. -/
def Section.ClosedIn (s : Section) (before : List Section) (text text' : String) : Prop :=
  ∃ above below closing closers,
    Text.splitLines text.toList = above ++ below ∧
      Text.splitLines text'.toList = above ++ closing ++ below ∧
      (Layout.ofLines 1 above).sections = before ++ [s] ∧ (Layout.ofLines 1 below).lead = [] ∧
      awaited? [] s.kinds = some closers ∧
      List.Forall₂ (fun raw s ↦ Line.ofChars (Text.trim raw) = .step s) closing
        (closers.map Closer.step)

/-! ### One test case -/

/-- The lines of a test case say steps. -/
theorem said_steps (s : Section) :
    ∀ t ∈ s.steps, Said (fun _ _ ↦ True) (fun _ ↦ True) t := by
  intro t ht
  obtain ⟨l, _, rfl⟩ := List.mem_map.mp ht
  exact said_ofLine l.text

/-- A test case that is read to its end: its name, what is awaited after it, and what it is written
as. -/
theorem written_of_read {s : Section} {c : OpenCase} (h : s.read = .ok c) :
    c.name = s.name ∧ awaited? [] s.kinds = some c.awaits ∧
      c.finish.steps.flatMap Step.written = s.steps ++ c.awaits.map Closer.step := by
  obtain ⟨hc, hn, hw, ha⟩ :=
    OpenCase.formed_of_placeAll (said_steps s) (OpenCase.read_ok_iff.mp h)
  rw [s.map_kind_steps] at ha
  refine ⟨hn, ha, ?_⟩
  rw [hc.written_finish.1, hw]

/-- A test case that is read to its end is warned of as it stands in the script. -/
theorem unclosedWarning_of_read {s : Section} {c : OpenCase} (h : s.read = .ok c) :
    c.unclosedWarning = s.unclosedWarning := by
  obtain ⟨hn, ha, _⟩ := written_of_read h
  rw [OpenCase.unclosedWarning, Section.unclosedWarning, ha, hn, OpenCase.awaits]
  cases c.frames with
  | nil => rfl
  | cons f frames => simp

/-- Test cases that are read to their ends are warned of as they stand in the script. -/
theorem unclosedWarning_of_readAll {ss : List Section} {cs : List OpenCase}
    (h : readAll ss = .ok cs) :
    cs.flatMap OpenCase.unclosedWarning = ss.flatMap Section.unclosedWarning := by
  induction readAll_ok_iff.mp h with
  | nil => rfl
  | cons hs hss ih =>
    rw [List.flatMap_cons, List.flatMap_cons, unclosedWarning_of_read hs,
      ih (readAll_ok_iff.mpr hss)]

/-! ### Closing a test case by lines -/

/-- Where a test case is closed by lines, it holds the closers in addition and everything else
holds the same. -/
theorem contents_of_closedIn {s : Section} {before after : List Section} {text text' : String}
    (ht : sections text = before ++ s :: after) (h : s.ClosedIn before text text') :
    ∃ s' after', sections text' = before ++ s' :: after' ∧ s'.name = s.name ∧
      (∃ closers, awaited? [] s.kinds = some closers ∧
        s'.steps = s.steps ++ closers.map Closer.step) ∧
      after'.map Section.content = after.map Section.content := by
  obtain ⟨above, below, closing, closers, hl, hl', ha, hb, hk, hc⟩ := h
  -- the lines below the cut have other numbers in the two scripts, and that is all
  have hlead (n : Nat) : (Layout.ofLines n below).lead.map StepLine.step = [] := by
    rw [(Layout.contents_ofLines below n 1).1, hb]
    rfl
  rw [sections, hl, Layout.ofLines_append, Layout.sections_append_of_concat ha] at ht
  obtain ⟨-, hafter⟩ := List.cons.inj (List.append_cancel_left ht)
  obtain ⟨hcl, hcs⟩ := Layout.ofLines_steps hc below (1 + above.length)
  have ht' : sections text' = before ++
      ⟨s.name, s.lines ++ (Layout.ofLines (1 + above.length) (closing ++ below)).lead⟩ ::
        (Layout.ofLines (1 + above.length) (closing ++ below)).sections := by
    rw [sections, hl', List.append_assoc, Layout.ofLines_append,
      Layout.sections_append_of_concat ha]
  refine ⟨_, _, ht', rfl, ⟨closers, hk, ?_⟩, ?_⟩
  · rw [Section.steps, List.map_append, hcl, hlead, List.append_nil]
    rfl
  · rw [hcs, ← hafter]
    exact (Layout.contents_ofLines below _ _).2

/-- A test case that is read to its end is read to the same end with the closers that it lacks, and
then there is nothing to warn of. -/
theorem read_of_closed {s s' : Section} {c : OpenCase} (h : s.read = .ok c)
    (hn : s'.name = s.name) {closers : List Closer} (hk : awaited? [] s.kinds = some closers)
    (hs : s'.steps = s.steps ++ closers.map Closer.step) :
    ∃ c', s'.read = .ok c' ∧ c'.finish = c.finish ∧ c'.unclosedWarning = [] := by
  have ha : c.awaits = closers := Option.some.inj ((written_of_read h).2.1.symm.trans hk)
  obtain ⟨c', hp, hn', he⟩ := OpenCase.placeAll_awaits ha
  refine ⟨c', ?_, he, ?_⟩
  · apply OpenCase.read_ok_iff.mpr
    have hp' : OpenCase.placeAll { name := s.name } s.steps = .ok c := OpenCase.read_ok_iff.mp h
    change OpenCase.placeAll _ s'.steps = _
    rw [hs, hn, OpenCase.placeAll_append_of_ok hp', hp]
  · rw [OpenCase.unclosedWarning, (OpenCase.finish_of_awaits_eq_nil hn').2]
    rfl

/-- Every test case that is read to its end can be closed by lines. -/
theorem exists_closedIn {s : Section} {before after : List Section} {text : String}
    (ht : sections text = before ++ s :: after) {c : OpenCase} (h : s.read = .ok c) :
    ∃ text', s.ClosedIn before text text' := by
  have hk : before.length + 1 ≤ (sections text).length := by
    rw [ht, List.length_append, List.length_cons]
    omega
  obtain ⟨above, below, hl, ha, hb⟩ := Layout.exists_cut (Text.splitLines text.toList) 1 hk
  refine ⟨String.ofList (Text.unlines (above ++ c.awaits.map (·.step.line) ++ below)), above, below,
    c.awaits.map (·.step.line), c.awaits, hl, ?_, ?_, hb 1, (written_of_read h).2.1, ?_⟩
  · rw [String.toList_ofList]
    apply Text.splitLines_unlines
    intro line hm
    rw [List.append_assoc, List.mem_append, List.mem_append] at hm
    rcases hm with hm | hm | hm
    · exact Text.singleLine_of_mem (hl ▸ List.mem_append_left below hm)
    · obtain ⟨k, _, rfl⟩ := List.mem_map.mp hm
      exact singleLine_line (.closer k)
    · exact Text.singleLine_of_mem (hl ▸ List.mem_append_right above hm)
  · rw [ha]
    change (sections text).take (before.length + 1) = before ++ [s]
    rw [ht, List.take_append, List.take_of_length_le (Nat.le_succ _), Nat.add_sub_cancel_left]
    rfl
  · rw [List.forall₂_map_left_iff, List.forall₂_map_right_iff, List.forall₂_same]
    intro k _
    exact ofChars_line (.closer k)

/-! ### Whole scripts -/

/-- Where a test case of a script that is read to its end is closed by lines, the script is read
to the same test cases, and there is nothing to warn of this one. -/
theorem parse_of_closedIn {s : Section} {before after : List Section} {text text' : String}
    (ht : sections text = before ++ s :: after) (h : s.ClosedIn before text text')
    {cs : List OpenCase} (hr : readAll (sections text) = .ok cs) :
    (parse text').outcome = .ok (cs.map OpenCase.finish) ∧
      warnings (parse text').log = (before ++ after).flatMap Section.unclosedWarning := by
  obtain ⟨s', after', ht', hn, ⟨closers, hk, hs⟩, hafter⟩ := contents_of_closedIn ht h
  rw [ht] at hr
  obtain ⟨as, bs, ha, hb, rfl⟩ := readAll_append_iff.mp hr
  cases readAll_ok_iff.mp hb with
  | @cons _ c _ bs hc hbs =>
    obtain ⟨c', hc', hf, hw⟩ := read_of_closed hc hn hk hs
    have hbs := readAll_ok_iff.mpr hbs
    have hr' : readAll (sections text') = .ok (as ++ c' :: bs) := by
      rw [ht']
      apply readAll_append_iff.mpr
      refine ⟨as, c' :: bs, ha, ?_, rfl⟩
      exact readAll_ok_iff.mpr (.cons hc' (readAll_ok_iff.mp ((readAll_ok_congr hafter).mpr hbs)))
    constructor
    · rw [outcome_parse, hr', Except.map, List.map_append, List.map_append, List.map_cons,
        List.map_cons, hf]
    · rw [warnings_parse hr', List.flatMap_append, List.flatMap_append, List.flatMap_cons, hw,
        List.nil_append, unclosedWarning_of_readAll ha, unclosedWarning_of_readAll hbs]

/-- Test cases hold the lines of a script, each in its place. -/
structure Faithful (text : String) (cases : List Case) : Prop where
  /-- Each test case is written back as the steps of its lines, in order, with the closers after
  them that its open blocks await, innermost first. -/
  written : List.Forall₂
    (fun s c ↦ c.name = s.name ∧ ∃ closers, awaited? [] s.kinds = some closers ∧
      Blocks (s.kinds ++ closers.map Closer.kind) ∧
      c.steps.flatMap Step.written = s.steps ++ closers.map Closer.step)
    (sections text) cases
  /-- What is warned of is each test case that lacks closers, with their number. -/
  warned : warnings (parse text).log = (sections text).flatMap Section.unclosedWarning
  /-- Each test case can be closed by lines. -/
  closable : ∀ before s after, sections text = before ++ s :: after →
    ∃ text', s.ClosedIn before text text'
  /-- Wherever a test case is closed by lines, the script is read to the same test cases, and
  there is nothing to warn of this one. -/
  closed : ∀ before s after text', sections text = before ++ s :: after →
    s.ClosedIn before text text' →
    (parse text').outcome = .ok cases ∧
      warnings (parse text').log = (before ++ after).flatMap Section.unclosedWarning

/-- The test cases of a script that is read to its end hold its lines, each in its place. -/
theorem parse_faithful (text : String) (cases : List Case)
    (h : (parse text).outcome = .ok cases) : Faithful text cases := by
  obtain ⟨cs, hr, rfl⟩ := outcome_parse_ok_iff.mp h
  constructor
  · rw [List.forall₂_map_right_iff]
    apply (readAll_ok_iff.mp hr).imp
    intro s c hc
    obtain ⟨hn, ha, hw⟩ := written_of_read hc
    exact ⟨hn, _, ha, blocks_append_awaited ha, hw⟩
  · rw [warnings_parse hr, unclosedWarning_of_readAll hr]
  · intro before s after ht
    rw [ht] at hr
    obtain ⟨_, _, _, hb, _⟩ := readAll_append_iff.mp hr
    cases readAll_ok_iff.mp hb with
    | cons hc _ => exact exists_closedIn ht hc
  · intro before s after text' ht hc
    exact parse_of_closedIn ht hc hr

/-- A test case that ends in a branch inside a loop, and one after it. -/
theorem faithful_of_open_branch :
    (parse "Test: A\nFor each i in L\nIf a\nClick \"x\"\nElse\nTest: B\nClick y").outcome =
        .ok [⟨"A", [.loop "i in L"
          [.ifBlock "a" [.action "Click \x7b\x7d" ["x"], .elseBranch none []]]]⟩,
          ⟨"B", [.action "Click y" []]⟩] ∧
      Faithful "Test: A\nFor each i in L\nIf a\nClick \"x\"\nElse\nTest: B\nClick y"
        [⟨"A", [.loop "i in L"
          [.ifBlock "a" [.action "Click \x7b\x7d" ["x"], .elseBranch none []]]]⟩,
          ⟨"B", [.action "Click y" []]⟩] := by
  have h : (parse "Test: A\nFor each i in L\nIf a\nClick \"x\"\nElse\nTest: B\nClick y").outcome =
      .ok [⟨"A", [.loop "i in L"
        [.ifBlock "a" [.action "Click \x7b\x7d" ["x"], .elseBranch none []]]]⟩,
        ⟨"B", [.action "Click y" []]⟩] := by
    with_unfolding_all rfl
  exact ⟨h, parse_faithful _ _ h⟩

end Playbook.Script
