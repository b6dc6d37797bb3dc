import Playbook.Script.Parser

/-!
# The layout of scripts

A script is laid out as the lines that say a step before its first header, then its test cases,
each with the lines that say a step up to the next header. `Layout.ofLines` cuts the lines so, from
the last line to the first and without regard to open blocks; `readAll` then reads each test case
by itself. `outcome_parse` and `warnings_parse` say that a script is read exactly so.
-/

namespace Playbook.Script

/-- A line that says a step, without the blanks at its ends and with its number from one. -/
structure StepLine where
  number : Nat
  text : String
  deriving DecidableEq, Repr

namespace StepLine

/-- The step that a line says. -/
def step (l : StepLine) : Step := Step.ofLine l.text

/-- The kind of the step that a line says. -/
def kind (l : StepLine) : StepKind := l.step.kind

end StepLine

/-- A test case as it stands in a script: the name in its header and the lines that say a step. -/
structure Section where
  name : String
  lines : List StepLine
  deriving DecidableEq, Repr

namespace Section

/-- The steps that the lines say, in order. -/
def steps (s : Section) : List Step := s.lines.map StepLine.step

/-- The kinds of the steps, in order. -/
def kinds (s : Section) : List StepKind := s.lines.map StepLine.kind

/-- The kinds are those of the steps. -/
theorem map_kind_steps (s : Section) : s.steps.map Step.kind = s.kinds := by
  rw [steps, List.map_map]
  rfl

end Section

/-- Lines that say a step before any header, and the test cases after them. -/
structure Layout where
  lead : List StepLine := []
  sections : List Section := []

namespace Layout

/-- Put a line before a layout, given its number and its characters without blanks at the ends. -/
def cons (number : Nat) (cs : List Char) (rest : Layout) : Layout :=
  match Line.ofChars cs with
  | .silent => rest
  | .header name => ⟨[], ⟨name, rest.lead⟩ :: rest.sections⟩
  | .step _ => ⟨⟨number, String.ofList cs⟩ :: rest.lead, rest.sections⟩

/-- The layout of lines that are numbered from a number on. -/
def ofLines (number : Nat) : List (List Char) → Layout
  | [] => {}
  | raw :: rest => cons number (Text.trim raw) (ofLines (number + 1) rest)

/-- All lines that say a step, in order. -/
def lines (l : Layout) : List StepLine :=
  l.lead ++ l.sections.flatMap Section.lines

/-- Put lines after the last line of a layout, whose last test case they go on with. -/
def append (l next : Layout) : Layout :=
  extend l.lead l.sections
where
  /-- Put the lines after some that no test case holds and some test cases. -/
  extend (lead : List StepLine) : List Section → Layout
    | [] => ⟨lead ++ next.lead, next.sections⟩
    | s :: sections =>
      let rest := extend s.lines sections
      ⟨lead, ⟨s.name, rest.lead⟩ :: rest.sections⟩

end Layout

/-- The test cases of a script as they stand in it. -/
def sections (text : String) : List Section :=
  (Layout.ofLines 1 (Text.splitLines text.toList)).sections

/-- Place the steps of lines in turn, up to the first that cannot stand where it stands. -/
def OpenCase.read (c : OpenCase) : List StepLine → Except ParseError OpenCase
  | [] => .ok c
  | l :: rest =>
    match c.place l.step with
    | .ok c => c.read rest
    | .error cause => .error ⟨l.number, l.text, cause⟩

/-- Read a test case up to its last line. -/
def Section.read (s : Section) : Except ParseError OpenCase :=
  OpenCase.read { name := s.name } s.lines

/-- Read test cases, each up to its last line. -/
def readAll : List Section → Except ParseError (List OpenCase)
  | [] => .ok []
  | s :: rest =>
    match s.read with
    | .ok c => (readAll rest).map (c :: ·)
    | .error e => .error e

/-- The entries of a log that warn. -/
def warnings (log : Log) : Log :=
  log.filter (·.level == .warning)

/-- The warnings of two logs are warned one after the other. -/
theorem warnings_append (a b : Log) : warnings (a ++ b) = warnings a ++ warnings b :=
  List.filter_append ..

/-- What is reported of open blocks is a warning. -/
theorem warnings_unclosedWarning (c : OpenCase) :
    warnings c.unclosedWarning = c.unclosedWarning := by
  unfold OpenCase.unclosedWarning
  split <;> rfl

/-- The line that a step line is made of says the step. -/
theorem ofLine_of_ofChars {raw : List Char} {s : Step}
    (h : Line.ofChars (Text.trim raw) = .step s) :
    Step.ofLine (String.ofList (Text.trim raw)) = s := by
  unfold Line.ofChars at h
  split at h
  · cases h
  · split at h
    · cases h
    · cases h
      rw [Step.ofLine, String.toList_ofList, Text.trim_trim]

/-! ### Laying out more lines -/

namespace Layout

private theorem append_cons (number : Nat) (cs : List Char) (l next : Layout) :
    (cons number cs l).append next = cons number cs (l.append next) := by
  unfold cons
  cases Line.ofChars cs with
  | silent => rfl
  | header name => rfl
  | step s =>
    rcases l with ⟨lead, _ | ⟨t, sections⟩⟩
    · rfl
    · rfl

/-- The layout of lines goes on with the layout of the lines after them. -/
theorem ofLines_append (number : Nat) (xs ys : List (List Char)) :
    ofLines number (xs ++ ys) =
      (ofLines number xs).append (ofLines (number + xs.length) ys) := by
  induction xs generalizing number with
  | nil => rfl
  | cons raw xs ih =>
    rw [List.cons_append, ofLines, ofLines, append_cons, ih, List.length_cons,
      Nat.add_right_comm number 1, Nat.add_assoc]

/-- Test cases after a layout without any are the test cases. -/
theorem sections_append_of_nil {l : Layout} (h : l.sections = []) (next : Layout) :
    (l.append next).sections = next.sections := by
  rw [append, h]
  rfl

/-- The lines before the first header after a layout belong to its last test case. -/
theorem sections_append_of_concat {l : Layout} {ss : List Section} {s : Section}
    (h : l.sections = ss ++ [s]) (next : Layout) :
    (l.append next).sections = ss ++ ⟨s.name, s.lines ++ next.lead⟩ :: next.sections := by
  rw [append, h]
  generalize l.lead = lead
  clear h
  induction ss generalizing lead with
  | nil => rfl
  | cons t ss ih =>
    have hl : (append.extend next t.lines (ss ++ [s])).lead = t.lines := by cases ss <;> rfl
    rw [List.cons_append, append.extend]
    simp only
    rw [ih, hl]
    rfl

/-- Without a header there is no test case. -/
theorem sections_eq_nil {raws : List (List Char)}
    (h : ∀ raw ∈ raws, ∀ name, Line.ofChars (Text.trim raw) ≠ .header name) (number : Nat) :
    (ofLines number raws).sections = [] := by
  induction raws generalizing number with
  | nil => rfl
  | cons raw raws ih =>
    obtain ⟨hr, hrs⟩ := List.forall_mem_cons.mp h
    rw [ofLines, cons]
    split
    · exact ih hrs (number + 1)
    · next name hl => exact absurd hl (hr name)
    · exact ih hrs (number + 1)

/-- Lines can be cut where the first test cases of their layout end: the next line that says
something is a header. -/
theorem exists_cut (raws : List (List Char)) (number : Nat) {k : Nat}
    (hk : k ≤ (ofLines number raws).sections.length) :
    ∃ above below, raws = above ++ below ∧
      ofLines number above =
        ⟨(ofLines number raws).lead, (ofLines number raws).sections.take k⟩ ∧
      ∀ n, (ofLines n below).lead = [] := by
  induction raws generalizing number k with
  | nil => exact ⟨[], [], rfl, by rw [ofLines, List.take_nil], fun _ ↦ rfl⟩
  | cons raw raws ih =>
    rw [ofLines, cons] at hk ⊢
    cases hl : Line.ofChars (Text.trim raw) with
    | silent =>
      rw [hl] at hk
      obtain ⟨above, below, rfl, ha, hb⟩ := ih (number + 1) hk
      refine ⟨raw :: above, below, rfl, ?_, hb⟩
      rw [ofLines, cons, hl]
      exact ha
    | step s =>
      rw [hl] at hk
      obtain ⟨above, below, rfl, ha, hb⟩ := ih (number + 1) hk
      refine ⟨raw :: above, below, rfl, ?_, hb⟩
      rw [ofLines, cons, hl, ha]
    | header name =>
      rw [hl] at hk
      cases k with
      | zero =>
        -- no test case is wanted any more, so the cut is above the header
        refine ⟨[], raw :: raws, rfl, rfl, ?_⟩
        intro n
        rw [ofLines, cons, hl]
      | succ k =>
        obtain ⟨above, below, rfl, ha, hb⟩ := ih (number + 1) (Nat.le_of_succ_le_succ hk)
        refine ⟨raw :: above, below, rfl, ?_, hb⟩
        rw [ofLines, cons, hl, ha]
        rfl

/-- Every line of a layout is one of the lines laid out, trimmed, at its number. -/
theorem mem_lines_ofLines {raws : List (List Char)} {number : Nat} {l : StepLine}
    (h : l ∈ (ofLines number raws).lines) :
    ∃ i raw, raws[i]? = some raw ∧ l.number = number + i ∧ l.text = String.ofList (Text.trim raw) ∧
      Line.ofChars (Text.trim raw) = .step l.step := by
  induction raws generalizing number with
  | nil => cases h
  | cons raw raws ih =>
    have hrest (hm : l ∈ (ofLines (number + 1) raws).lines) :
        ∃ i raw', (raw :: raws)[i]? = some raw' ∧ l.number = number + i ∧
          l.text = String.ofList (Text.trim raw') ∧
          Line.ofChars (Text.trim raw') = .step l.step := by
      obtain ⟨i, raw', hi, hn, ht, hs⟩ := ih hm
      exact ⟨i + 1, raw', hi, by omega, ht, hs⟩
    rw [ofLines, cons] at h
    split at h
    · exact hrest h
    · exact hrest h
    · next s hs =>
      rcases List.mem_cons.mp h with rfl | h
      · exact ⟨0, raw, rfl, rfl, rfl, by rw [hs, StepLine.step, ofLine_of_ofChars hs]⟩
      · exact hrest h

end Layout

/-! ### Reading a layout -/

/-- Read the lines of a layout, those before its first header into the open test case. -/
def Layout.read (current : Option OpenCase) (l : Layout) : Except ParseError (List OpenCase) :=
  match current with
  | none => readAll l.sections
  | some c =>
    match c.read l.lead with
    | .ok c => (readAll l.sections).map (c :: ·)
    | .error e => .error e

/-- The test cases of a script that was read to its end, and the warnings about them. -/
private def account : Progress × Option ParseError → Except ParseError (List Case × Log)
  | (_, some e) => .error e
  | (p, none) => .ok (p.closeCase.done, warnings p.closeCase.log)

/-- The test cases read so far and the warnings about them stand before those still to come. -/
private def after (p : Progress) (cs : List OpenCase) : List Case × Log :=
  (p.done ++ cs.map OpenCase.finish, warnings p.log ++ cs.flatMap OpenCase.unclosedWarning)

private theorem after_closeCase (p : Progress) (current : Option OpenCase) :
    after { p.closeCase with current := current } = after p ∘ (p.current.toList ++ ·) := by
  funext cs
  cases hc : p.current with
  | none => simp [after, Progress.closeCase, hc]
  | some c => simp [after, Progress.closeCase, hc, warnings_append, warnings_unclosedWarning]

private theorem after_debug (p : Progress) (current : Option OpenCase) {entry : LogEntry}
    (h : entry.level = .debug) : after ⟨p.done, current, p.log ++ [entry]⟩ = after p := by
  funext cs
  simp [after, warnings, h]

private theorem read_header (current : Option OpenCase) (name : String) (l : Layout) :
    Layout.read current ⟨[], ⟨name, l.lead⟩ :: l.sections⟩ =
      (l.read (some { name := name })).map (current.toList ++ ·) := by
  have h : readAll (⟨name, l.lead⟩ :: l.sections) = l.read (some { name := name }) := rfl
  cases current with
  | none =>
    change readAll (⟨name, l.lead⟩ :: l.sections) = _
    rw [h]
    cases l.read (some { name := name }) <;> rfl
  | some c =>
    change (readAll (⟨name, l.lead⟩ :: l.sections)).map (c :: ·) = _
    rw [h]
    rfl

private theorem account_lines (raws : List (List Char)) (p : Progress) (number : Nat) :
    account (p.lines number raws) =
      ((Layout.ofLines number raws).read p.current).map (after p) := by
  induction raws generalizing p number with
  | nil =>
    have h := congrFun (after_closeCase p none) []
    have he :
        account (p.lines number []) = .ok (after { p.closeCase with current := none } []) := by
      simp [Progress.lines, account, after]
    rw [he, h]
    cases p.current <;> rfl
  | cons raw raws ih =>
    simp only [Progress.lines, Layout.ofLines, Layout.cons, Progress.line]
    cases hl : Line.ofChars (Text.trim raw) with
    | silent => exact ih p (number + 1)
    | header name =>
      simp only
      rw [ih, after_closeCase, read_header]
      cases (Layout.ofLines (number + 1) raws).read (some { name := name }) <;> rfl
    | step s =>
      cases hc : p.current with
      | none =>
        simp only
        rw [ih, after_debug p none rfl]
        rfl
      | some c =>
        simp only [Layout.read, OpenCase.read, StepLine.step, ofLine_of_ofChars hl]
        cases c.place s with
        | error cause => rfl
        | ok c' =>
          simp only
          rw [ih]
          rfl

private theorem account_parse (text : String) :
    account (Progress.lines {} 1 (Text.splitLines text.toList)) =
      (readAll (sections text)).map (after {}) :=
  account_lines _ {} 1

/-- The test cases of a script are those that its sections come to, up to the first error. -/
theorem outcome_parse (text : String) :
    (parse text).outcome = (readAll (sections text)).map (List.map OpenCase.finish) := by
  have h := account_parse text
  unfold parse
  generalize Progress.lines {} 1 (Text.splitLines text.toList) = r at h ⊢
  match r, h with
  | (p, some e), h =>
    cases hr : readAll (sections text) with
    | error e' =>
      rw [hr] at h
      cases h
      rfl
    | ok cs =>
      rw [hr] at h
      cases h
  | (p, none), h =>
    cases hr : readAll (sections text) with
    | error e' =>
      rw [hr] at h
      cases h
    | ok cs =>
      rw [hr] at h
      have h := congrArg Prod.fst (Except.ok.inj h)
      exact congrArg Except.ok h

/-- A script is read to its end when its test cases are, and then has what they come to. -/
theorem outcome_parse_ok_iff {text : String} {cases : List Case} :
    (parse text).outcome = .ok cases ↔
      ∃ cs, readAll (sections text) = .ok cs ∧ cases = cs.map OpenCase.finish := by
  rw [outcome_parse]
  cases readAll (sections text) with
  | error e =>
    constructor
    · intro h
      cases h
    · rintro ⟨cs, h, _⟩
      cases h
  | ok cs =>
    constructor
    · intro h
      cases h
      exact ⟨cs, rfl, rfl⟩
    · rintro ⟨cs', h, rfl⟩
      cases h
      rfl

/-- A script's outcome is an error exactly when reading its test cases is. -/
theorem outcome_parse_error_iff {text : String} {e : ParseError} :
    (parse text).outcome = .error e ↔ readAll (sections text) = .error e := by
  rw [outcome_parse]
  cases readAll (sections text) <;> simp [Except.map]

/-- A script that is read to its end warns of the blocks that its test cases leave open. -/
theorem warnings_parse {text : String} {cs : List OpenCase}
    (hr : readAll (sections text) = .ok cs) :
    warnings (parse text).log = cs.flatMap OpenCase.unclosedWarning := by
  have h := account_parse text
  rw [hr] at h
  unfold parse
  generalize Progress.lines {} 1 (Text.splitLines text.toList) = r at h ⊢
  match r, h with
  | (p, some e), h => cases h
  | (p, none), h => exact congrArg Prod.snd (Except.ok.inj h)

end Playbook.Script
