import Mathlib.Data.List.Forall2
import Playbook.Proofs.Script.Layout
import Playbook.Proofs.Script.Placement
import Playbook.Proofs.Script.Saying

/-!
# Reading test cases

Reading the lines of a test case is placing the steps that they say; it ends at the last line
(`OpenCase.read_ok_iff`) or stops at the first line that cannot stand where it stands
(`OpenCase.read_error_iff`). Test cases are read one after the other, up to the first that is not
read to its end.
-/

namespace Playbook.Script

/-! ### Reading to the end -/

namespace OpenCase

/-- Lines are read to the end when the steps they say can be placed in turn. -/
theorem read_ok_iff {c c' : OpenCase} {ls : List StepLine} :
    c.read ls = .ok c' ↔ c.placeAll (ls.map StepLine.step) = .ok c' := by
  induction ls generalizing c with
  | nil => rw [read, List.map_nil, placeAll_nil, Except.ok.injEq, Except.ok.injEq]
  | cons l ls ih =>
    rw [read, List.map_cons, placeAll_cons]
    cases c.place l.step with
    | error cause =>
      constructor
      · intro h
        cases h
      · intro h
        cases h
    | ok between => exact ih

end OpenCase

/-- Test cases are read to the end when each is. -/
theorem readAll_ok_iff {ss : List Section} {cs : List OpenCase} :
    readAll ss = .ok cs ↔ List.Forall₂ (fun s c ↦ s.read = .ok c) ss cs := by
  induction ss generalizing cs with
  | nil =>
    rw [List.forall₂_nil_left_iff, readAll, Except.ok.injEq]
    exact eq_comm
  | cons s ss ih =>
    constructor
    · intro h
      rw [readAll] at h
      cases hs : s.read with
      | error e =>
        rw [hs] at h
        cases h
      | ok c =>
        cases hr : readAll ss with
        | error e =>
          rw [hs, hr] at h
          cases h
        | ok cs' =>
          rw [hs, hr] at h
          cases h
          exact .cons hs (ih.mp hr)
    · rintro (_ | ⟨hs, hss⟩)
      rw [readAll, hs, ih.mpr hss]
      rfl

/-- A test case that comes out was read to its end. -/
theorem exists_read_of_mem {ss : List Section} {cs : List OpenCase} (h : readAll ss = .ok cs)
    {c : OpenCase} (hc : c ∈ cs) : ∃ s ∈ ss, s.read = .ok c := by
  induction readAll_ok_iff.mp h with
  | nil => cases hc
  | @cons s c' ss cs hs hss ih =>
    rcases List.mem_cons.mp hc with rfl | hc
    · exact ⟨s, List.mem_cons_self, hs⟩
    · obtain ⟨t, ht, hr⟩ := ih (readAll_ok_iff.mpr hss) hc
      exact ⟨t, List.mem_cons_of_mem s ht, hr⟩

/-- Test cases one after the other are read to the end when both parts are. -/
theorem readAll_append_iff {xs ys : List Section} {cs : List OpenCase} :
    readAll (xs ++ ys) = .ok cs ↔
      ∃ as bs, readAll xs = .ok as ∧ readAll ys = .ok bs ∧ cs = as ++ bs := by
  simp only [readAll_ok_iff]
  constructor
  · intro h
    induction xs generalizing cs with
    | nil => exact ⟨[], cs, .nil, h, rfl⟩
    | cons x xs ih =>
      cases h with
      | cons hx h =>
        obtain ⟨as, bs, ha, hb, rfl⟩ := ih h
        exact ⟨_ :: as, bs, .cons hx ha, hb, rfl⟩
  · rintro ⟨as, bs, ha, hb, rfl⟩
    exact List.rel_append ha hb

/-- What a test case holds: its name and the steps of its lines, whatever their numbers. -/
def Section.content (s : Section) : String × List Step := (s.name, s.steps)

/-- Test cases are read to the end when what each holds can be placed in turn. -/
theorem readAll_ok_iff_content {ss : List Section} {cs : List OpenCase} :
    readAll ss = .ok cs ↔
      List.Forall₂ (fun p c ↦ OpenCase.placeAll { name := p.1 } p.2 = .ok c)
        (ss.map Section.content) cs := by
  have hp (s : Section) (c : OpenCase) : s.read = .ok c ↔
      OpenCase.placeAll { name := s.content.1 } s.content.2 = .ok c := OpenCase.read_ok_iff
  rw [readAll_ok_iff, List.forall₂_map_left_iff]
  simp only [hp]

/-- The numbers of lines do not count where all test cases are read to the end. -/
theorem readAll_ok_congr {ss ss' : List Section} {cs : List OpenCase}
    (h : ss.map Section.content = ss'.map Section.content) :
    readAll ss = .ok cs ↔ readAll ss' = .ok cs := by
  rw [readAll_ok_iff_content, readAll_ok_iff_content, h]

/-- Laying out the same lines at other numbers changes the numbers alone. -/
theorem Layout.contents_ofLines (raws : List (List Char)) (m n : Nat) :
    (ofLines m raws).lead.map StepLine.step = (ofLines n raws).lead.map StepLine.step ∧
      (ofLines m raws).sections.map Section.content =
        (ofLines n raws).sections.map Section.content := by
  induction raws generalizing m n with
  | nil => exact ⟨rfl, rfl⟩
  | cons raw raws ih =>
    obtain ⟨hl, hs⟩ := ih (m + 1) (n + 1)
    rw [ofLines, ofLines, cons, cons]
    cases Line.ofChars (Text.trim raw) with
    | silent => exact ⟨hl, hs⟩
    | header name =>
      refine ⟨rfl, ?_⟩
      simp only [List.map_cons, Section.content, Section.steps]
      rw [hl]
      exact congrArg (_ :: ·) hs
    | step s =>
      refine ⟨?_, hs⟩
      simp only [List.map_cons]
      rw [hl]
      rfl

/-- Lines that each say a step belong to what stands before the lines after them. -/
theorem Layout.ofLines_steps {raws : List (List Char)} {steps : List Step}
    (h : List.Forall₂ (fun raw s ↦ Line.ofChars (Text.trim raw) = .step s) raws steps)
    (below : List (List Char)) (n : Nat) :
    (ofLines n (raws ++ below)).lead.map StepLine.step =
        steps ++ (ofLines (n + raws.length) below).lead.map StepLine.step ∧
      (ofLines n (raws ++ below)).sections = (ofLines (n + raws.length) below).sections := by
  induction h generalizing n with
  | nil => exact ⟨rfl, rfl⟩
  | @cons raw s raws steps hs _ ih =>
    obtain ⟨hlead, hsections⟩ := ih (n + 1)
    rw [List.length_cons, Nat.add_comm raws.length, ← Nat.add_assoc]
    rw [List.cons_append, ofLines, cons, hs]
    refine ⟨?_, hsections⟩
    rw [List.map_cons, hlead, StepLine.step, ofLine_of_ofChars hs]
    rfl

/-! ### Where reading stops -/

/-- Reading lines stops at the first that cannot stand where it stands, after the lines above it
are placed. -/
theorem OpenCase.read_error_iff {c : OpenCase} {ls : List StepLine} {e : ParseError} :
    c.read ls = .error e ↔
      ∃ above l below c', ls = above ++ l :: below ∧
        c.placeAll (above.map StepLine.step) = .ok c' ∧ c'.place l.step = .error e.cause ∧
        e.lineNumber = l.number ∧ e.line = l.text := by
  induction ls generalizing c with
  | nil =>
    constructor
    · nofun
    · rintro ⟨above, l, below, _, h, _⟩
      exact absurd h (List.append_ne_nil_of_right_ne_nil above (List.cons_ne_nil l below)).symm
  | cons l ls ih =>
    rw [read]
    constructor
    · intro h
      cases hp : c.place l.step with
      | error cause =>
        rw [hp] at h
        cases h
        exact ⟨[], l, ls, c, rfl, rfl, hp, rfl, rfl⟩
      | ok between =>
        rw [hp] at h
        obtain ⟨above, l', below, c', rfl, ha, he⟩ := ih.mp h
        refine ⟨l :: above, l', below, c', rfl, ?_, he⟩
        rw [List.map_cons, placeAll_cons, hp]
        exact ha
    · rintro ⟨_ | ⟨l', above⟩, l'', below, c', hs, ha, hp, hn, ht⟩
      · cases hs
        cases ha
        rw [hp]
        simp only
        rw [← hn, ← ht]
      · cases hs
        rw [List.map_cons, placeAll_cons] at ha
        cases hq : c.place l.step with
        | error cause =>
          rw [hq] at ha
          cases ha
        | ok between =>
          rw [hq] at ha
          exact ih.mpr ⟨above, l'', below, c', rfl, ha, hp, hn, ht⟩

/-- Reading test cases stops in the first that is not read to its end. -/
theorem readAll_error_iff {ss : List Section} {e : ParseError} :
    readAll ss = .error e ↔
      ∃ before s after, ss = before ++ s :: after ∧ (∀ b ∈ before, ∃ c, b.read = .ok c) ∧
        s.read = .error e := by
  induction ss with
  | nil =>
    constructor
    · nofun
    · rintro ⟨before, s, after, h, _⟩
      exact absurd h (List.append_ne_nil_of_right_ne_nil before (List.cons_ne_nil s after)).symm
  | cons s ss ih =>
    rw [readAll]
    cases hs : s.read with
    | error e' =>
      constructor
      · intro h
        cases h
        exact ⟨[], s, ss, rfl, nofun, hs⟩
      · rintro ⟨_ | ⟨b, before⟩, s', after, he, hb, hr⟩
        · cases he
          rw [hs] at hr
          cases hr
          rfl
        · cases he
          obtain ⟨c, hc⟩ := hb s List.mem_cons_self
          rw [hs] at hc
          cases hc
    | ok c =>
      have hm : (readAll ss).map (c :: ·) = .error e ↔ readAll ss = .error e := by
        cases readAll ss <;> simp [Except.map]
      rw [hm, ih]
      constructor
      · rintro ⟨before, s', after, rfl, hb, hr⟩
        refine ⟨s :: before, s', after, rfl, ?_, hr⟩
        exact List.forall_mem_cons.mpr ⟨⟨c, hs⟩, hb⟩
      · rintro ⟨_ | ⟨b, before⟩, s', after, he, hb, hr⟩
        · cases he
          rw [hs] at hr
          cases hr
        · cases he
          exact ⟨before, s', after, rfl, (List.forall_mem_cons.mp hb).2, hr⟩

end Playbook.Script
