import Playbook.Proofs.Text.Lines
import Playbook.Run.Report
import Playbook.Text.Split

/-!
# The tables of a report

A report is read line by line: a heading is a line that starts with a hash, the table below it goes
on as long as lines start with a bar, and the cells of a line are what stands between its bars. What
is read are the tables of the run if and only if no text that stands in them holds a bar or a line
end (`outline_render_iff`), since the texts of the run are written as they are. A bar in the name of
a case gives its row a cell too many (`bar_makes_cell`).
-/

namespace Playbook.Report

open Text

/-! ### Reading a report -/

/-- The cells of a line: what stands between its bars. -/
def cells (line : List Char) : List (List Char) :=
  ((splitOn '|' line).drop 1).dropLast

/-- A line belongs to a table. -/
def inTable (line : List Char) : Bool := line.head? == some '|'

/-- A line is a heading. -/
def isHeading (line : List Char) : Bool := line.head? == some '#'

/-- The rows of the table that some lines start with. Its titles and the rule below them are left
out. -/
def tableRows (lines : List (List Char)) : List (List (List Char)) :=
  ((lines.takeWhile inTable).drop 2).map cells

/-- A part of a report: a heading, and the rows of the table below it if there is one. -/
@[ext] structure Part where
  heading : List Char
  rows : List (List (List Char))
  deriving DecidableEq, Repr

/-- The parts of a report. A line stands between a heading and its table. -/
def outline : List (List Char) → List Part
  | [] => []
  | line :: rest =>
    if isHeading line then ⟨line, tableRows (rest.drop 1)⟩ :: outline rest else outline rest

private theorem outline_heading {line : List Char} (h : isHeading line = true)
    (rest : List (List Char)) :
    outline (line :: rest) = ⟨line, tableRows (rest.drop 1)⟩ :: outline rest := by
  rw [outline, if_pos h]

/-- Lines that are no headings are passed over. -/
theorem outline_append {lines : List (List Char)} (h : ∀ line ∈ lines, isHeading line = false)
    (rest : List (List Char)) : outline (lines ++ rest) = outline rest := by
  induction lines with
  | nil => rfl
  | cons line lines ih =>
    rw [List.forall_mem_cons] at h
    rw [List.cons_append, outline, if_neg (by simp [h.1]), ih h.2]

/-- What is read stands in the lines. -/
theorem of_mem_outline {lines : List (List Char)} {part : Part} (h : part ∈ outline lines) :
    part.heading ∈ lines ∧ ∀ row ∈ part.rows, ∃ line ∈ lines, row = cells line := by
  induction lines with
  | nil => cases h
  | cons line lines ih =>
    have later (h : part ∈ outline lines) : part.heading ∈ line :: lines ∧
        ∀ row ∈ part.rows, ∃ l ∈ line :: lines, row = cells l := by
      refine ⟨List.mem_cons_of_mem _ (ih h).1, fun row hr ↦ ?_⟩
      obtain ⟨l, hl, same⟩ := (ih h).2 row hr
      exact ⟨l, List.mem_cons_of_mem _ hl, same⟩
    rw [outline] at h
    split at h
    · cases List.mem_cons.mp h with
      | inr h => exact later h
      | inl h =>
        subst h
        refine ⟨List.mem_cons_self, fun row hr ↦ ?_⟩
        obtain ⟨l, hl, same⟩ := List.mem_map.mp hr
        have below : l ∈ lines :=
          List.mem_of_mem_drop (List.takeWhile_subset _ (List.mem_of_mem_drop hl))
        exact ⟨l, List.mem_cons_of_mem _ below, same.symm⟩
    · exact later h

/-! ### Texts that a cell can hold -/

/-- A text that a cell can hold: it has no bar, and it stays on one line. -/
def Plain (text : String) : Prop := '|' ∉ text.toList ∧ SingleLine text.toList

/-- Whether a cell can hold a text is told by its characters. -/
instance (text : String) : Decidable (Plain text) :=
  inferInstanceAs (Decidable (_ ∧ _))

/-- Two texts are plain together if each is. -/
@[simp] theorem plain_append {a b : String} : Plain (a ++ b) ↔ Plain a ∧ Plain b := by
  rw [Plain, SingleLine, String.toList_append, List.forall_mem_append, List.mem_append, not_or]
  exact and_and_and_comm

/-- Texts are plain together, with plain marks between them, if each is. -/
theorem plain_intercalate {mark : String} (hm : Plain mark) {texts : List String} :
    Plain (mark.intercalate texts) ↔ ∀ text ∈ texts, Plain text := by
  induction texts with
  | nil => simpa using show Plain "" by decide
  | cons text texts ih =>
    cases texts with
    | nil => simp
    | cons next rest => simp [String.intercalate_cons_cons, ih, hm]

private theorem plain_of_isDigit {cs : List Char} (h : ∀ c ∈ cs, c.isDigit = true) :
    Plain (String.ofList cs) := by
  rw [Plain, String.toList_ofList]
  constructor
  · intro bar
    exact absurd (h _ bar) (by decide)
  · intro c hc
    have digit := h c hc
    simp only [Char.isDigit, Bool.and_eq_true, decide_eq_true_eq, UInt32.le_iff_toNat_le] at digit
    have same : c.toNat = c.val.toNat := rfl
    rw [Bool.eq_false_iff, ne_eq, isLineBreak, inRanges_iff]
    simp at digit ⊢
    omega

/-- A count is plain. -/
@[simp] theorem plain_repr_nat (n : Nat) : Plain n.repr := by
  rw [Nat.repr_eq_ofList_toDigits]
  exact plain_of_isDigit fun _ ↦ Nat.isDigit_of_mem_toDigits (by decide) (by decide)

/-- An integer is plain, with its sign. -/
@[simp] theorem plain_repr_int (n : Int) : Plain n.repr := by
  have sign : Plain "-" := by decide
  rw [Int.repr_eq_if]
  split <;> simp [sign]

/-- A duration is plain, with its unit. -/
@[simp] theorem plain_duration (millis : Int) : Plain (duration millis) := by
  have unit : Plain " ms" := by decide
  simp [duration, unit]

/-- A number is written in digits, with zeros before it too. -/
theorem isDigit_of_mem_zeros {n width : Nat} {c : Char}
    (h : c ∈ List.replicate width '0' ++ Nat.toDigits 10 n) : c.isDigit = true := by
  cases List.mem_append.mp h with
  | inl zero => rw [List.eq_of_mem_replicate zero]; rfl
  | inr digit => exact Nat.isDigit_of_mem_toDigits (by decide) (by decide) digit

private theorem plain_pointed (places units : Nat) : Plain (Number.pointed places units) := by
  rw [Number.pointed, String.ofList_append, plain_append]
  constructor
  · exact plain_of_isDigit fun c hc ↦ isDigit_of_mem_zeros (List.mem_of_mem_take hc)
  · split
    · decide
    · rw [← List.singleton_append, String.ofList_append, plain_append]
      refine ⟨by decide, plain_of_isDigit fun c hc ↦ ?_⟩
      exact isDigit_of_mem_zeros (List.mem_of_mem_drop hc)

/-- A number with decimals is plain. -/
theorem plain_fixed (places : Nat) (n : Number.Binary64) : Plain (n.fixed places) := by
  unfold Number.Binary64.fixed
  split
  · have sign : Plain "-" := by decide
    split <;> simp [plain_pointed, sign]
  · split <;> decide
  · decide

/-- A pass rate is plain. -/
@[simp] theorem plain_passRate (passed total : Nat) : Plain (passRate passed total) := by
  unfold passRate
  split
  · decide
  · exact plain_fixed 1 _

/-- What stands between the bars of a single line holds no bar and is a single line. -/
theorem of_mem_cells {line cell : List Char} (single : SingleLine line)
    (h : cell ∈ cells line) : '|' ∉ cell ∧ SingleLine cell := by
  have part : cell ∈ splitOn '|' line := List.mem_of_mem_drop (List.dropLast_subset _ h)
  exact ⟨not_mem_of_mem_splitOn part, fun c hc ↦ single c (subset_of_mem_splitOn part hc)⟩

/-! ### The lines of a report -/

/-- A text as it stands between two bars. -/
def framed (text : String) : List Char := ' ' :: (text.toList ++ [' '])

/-- The line of a table with some cells. -/
def barred (cells : List (List Char)) : List Char := '|' :: cells.flatMap (· ++ ['|'])

/-- The rule below the titles of a table. -/
def rule (titles : List String) : List (List Char) :=
  titles.map fun t ↦ List.replicate (t.length + 2) '-'

/-- The lines of a table. -/
def tableLines (titles : List String) (rows : List (List String)) : List (List Char) :=
  barred (titles.map framed) :: barred (rule titles) :: rows.map fun row ↦ barred (row.map framed)

/-- The lines of a heading and a table. -/
def partLines (heading : String) (titles : List String) (rows : List (List String)) :
    List (List Char) :=
  heading.toList :: [] :: tableLines titles rows

/-- A part as it should be read. -/
def Part.of (heading : String) (rows : List (List String)) : Part :=
  ⟨heading.toList, rows.map (·.map framed)⟩

private theorem plain_of_framed {text : String} (bar : '|' ∉ framed text)
    (single : SingleLine (framed text)) : Plain text := by
  have inside : text.toList ⊆ framed text := by simp [framed]
  exact ⟨fun h ↦ bar (inside h), fun c hc ↦ single c (inside hc)⟩

private theorem bar_notMem_framed {text : String} (h : Plain text) : '|' ∉ framed text := by
  simp [framed, h.1]

private theorem singleLine_framed {text : String} (h : Plain text) : SingleLine (framed text) := by
  have blank : SingleLine [' '] := by decide
  exact SingleLine.append blank (SingleLine.append h.2 blank)

private theorem singleLine_barred {parts : List (List Char)} (h : ∀ part ∈ parts, SingleLine part) :
    SingleLine (barred parts) := by
  rw [barred, SingleLine, List.forall_mem_cons, List.forall_mem_flatMap]
  refine ⟨by decide, fun part hp ↦ ?_⟩
  exact SingleLine.append (h part hp) (by decide)

/-- The cells of a line are read as they were written, when none holds a bar. -/
theorem cells_barred {parts : List (List Char)} (h : ∀ part ∈ parts, '|' ∉ part) :
    cells (barred parts) = parts := by
  have cut : splitOn '|' (parts.flatMap (· ++ ['|'])) = parts ++ [[]] := by
    induction parts with
    | nil => rfl
    | cons part parts ih =>
      rw [List.forall_mem_cons] at h
      rw [List.flatMap_cons, List.append_assoc, List.singleton_append, splitOn_append h.1, ih h.2]
      rfl
  rw [cells, barred, splitOn, if_pos rfl, cut]
  simp

/-- Bars between the parts and a bar at each end. -/
theorem barred_eq_intercalate {parts : List (List Char)} (h : parts ≠ []) :
    barred parts = '|' :: (['|'].intercalate parts ++ ['|']) := by
  induction parts with
  | nil => exact absurd rfl h
  | cons part parts ih =>
    cases parts with
    | nil => simp [barred]
    | cons next rest => simpa [barred, List.intercalate_cons_cons] using ih (List.cons_ne_nil _ _)

private theorem intercalate_framed {texts : List String} (h : texts ≠ []) :
    ['|'].intercalate (texts.map framed) =
      ' ' :: ([' ', '|', ' '].intercalate (texts.map String.toList) ++ [' ']) := by
  induction texts with
  | nil => exact absurd rfl h
  | cons text texts ih =>
    cases texts with
    | nil => simp [framed]
    | cons next rest =>
      have rest := ih (List.cons_ne_nil _ _)
      simp only [List.map_cons] at rest ⊢
      rw [List.intercalate_cons_cons, List.intercalate_cons_cons, rest]
      simp [framed]

private theorem toList_row {texts : List String} (h : texts ≠ []) :
    (row texts).toList = barred (texts.map framed) ++ ['\n'] := by
  rw [barred_eq_intercalate (by simpa using h), intercalate_framed h]
  simp [row, String.toList_intercalate]

private theorem unlines_cons (line : List Char) (lines : List (List Char)) :
    unlines (line :: lines) = line ++ '\n' :: unlines lines := by
  simp [unlines]

private theorem unlines_append (lines more : List (List Char)) :
    unlines (lines ++ more) = unlines lines ++ unlines more :=
  List.flatMap_append

/-- A table with titles is written as its lines. -/
theorem toList_table {titles : List String} {rows : List (List String)} (ht : titles ≠ [])
    (hr : ∀ row ∈ rows, row ≠ []) :
    (table titles rows).toList = unlines (tableLines titles rows) := by
  have ruled : barred (rule titles) = '|' :: ("|".intercalate (titles.map fun t ↦
      String.ofList (List.replicate (t.length + 2) '-'))).toList ++ ['|'] := by
    rw [barred_eq_intercalate (by simpa [rule] using ht), String.toList_intercalate, rule,
      List.map_map]
    simp only [Function.comp_def, String.toList_ofList]
    rfl
  have below : (String.join (rows.map row)).toList =
      unlines (rows.map fun row ↦ barred (row.map framed)) := by
    clear ruled
    induction rows with
    | nil => rfl
    | cons texts rows ih =>
      rw [List.forall_mem_cons] at hr
      rw [List.map_cons, String.join_cons, String.toList_append, toList_row hr.1, ih hr.2,
        List.map_cons, unlines_cons, List.append_assoc, List.singleton_append]
  rw [tableLines, unlines_cons, unlines_cons, ← below, ruled]
  simp [table, toList_row ht]

/-- A heading, an empty line and a table. -/
theorem toList_part {heading : String} {titles : List String} {rows : List (List String)}
    (ht : titles ≠ []) (hr : ∀ row ∈ rows, row ≠ []) :
    (heading ++ "\n\n" ++ table titles rows).toList = unlines (partLines heading titles rows) := by
  rw [partLines, unlines_cons, unlines_cons, ← toList_table ht hr]
  simp

/-- The lines of a heading and a table, if the table has rows. -/
def chapterLines (heading : String) (titles : List String) (rows : List (List String)) :
    List (List Char) :=
  if rows.isEmpty then [] else partLines heading titles rows

/-- A chapter is written as its lines, if it has rows. -/
theorem toList_chapter {title heading : String} {titles : List String} {rows : List (List String)}
    (same : "## " ++ title = heading) (ht : titles ≠ []) (hr : ∀ row ∈ rows, row ≠ []) :
    (chapter title titles rows).toList = unlines (chapterLines heading titles rows) := by
  rw [← same]
  unfold chapter chapterLines
  split
  · rfl
  · exact toList_part ht hr

/-- The heading above the steps of a case. -/
def caseHeading (c : CaseResult) : String := "### " ++ c.name ++ " (" ++ c.status ++ ")"

/-- The lines about the steps of a case. -/
def timingLines (c : CaseResult) : List (List Char) :=
  partLines (caseHeading c) ["#", "Action", "Status", "Duration"] (c.steps.map stepRow)

/-- The timing of a case is written as its lines. -/
theorem toList_timing (c : CaseResult) : (timing c).toList = unlines (timingLines c) := by
  rw [timingLines, ← toList_part (List.cons_ne_nil _ _) (by simp [stepRow]), timing, caseHeading]
  simp

/-- The rows of the summary. -/
def summaryRows (results : List CaseResult) : List (List String) :=
  [["Test cases", toString results.length],
    ["Passed", toString (results.filter CaseResult.hasPassed).length],
    ["Failed", toString (results.filter fun c ↦ !c.hasPassed).length],
    ["Pass rate",
      passRate (results.filter CaseResult.hasPassed).length results.length ++ "%"]]

/-- The rows of the cases that failed. -/
def failedRows (results : List CaseResult) : List (List String) :=
  (results.filter fun c ↦ !c.hasPassed).map failedRow

/-- The rows of the cases that passed. -/
def passedRows (results : List CaseResult) : List (List String) :=
  (results.filter CaseResult.hasPassed).map passedRow

/-- The lines of a report as they are written. -/
def reportLines (results : List CaseResult) (generatedAt : Moment) : List (List Char) :=
  ["# Test run report".toList, [], ("**Generated**: " ++ generatedAt.plain).toList,
    ("**Total duration**: " ++ duration (totalMillis results)).toList, []] ++
  partLines "## Summary" ["Metric", "Value"] (summaryRows results) ++ [[]] ++
  chapterLines "## Failed cases" ["Test", "Duration", "Passed steps", "Failed step", "Error"]
    (failedRows results) ++
  chapterLines "## Passed cases" ["Test", "Duration", "Steps"] (passedRows results) ++
  ["## Step timing".toList] ++ results.flatMap timingLines

/-- A report is its lines, each ended by a line feed. -/
theorem toList_render (results : List CaseResult) (generatedAt : Moment) :
    (render results generatedAt).toList = unlines (reportLines results generatedAt) := by
  have head (moment total : String) :
      unlines ["# Test run report".toList, [], ("**Generated**: " ++ moment).toList,
        ("**Total duration**: " ++ total).toList, []] =
      ("# Test run report\n\n" ++ ("**Generated**: " ++ (moment ++ ("\n" ++
        ("**Total duration**: " ++ (total ++ "\n\n")))))).toList := by
    simp [unlines]
  have timings : (String.join (results.map timing)).toList =
      unlines (results.flatMap timingLines) := by
    induction results with
    | nil => rfl
    | cons c results ih =>
      rw [List.map_cons, String.join_cons, String.toList_append, toList_timing, ih,
        List.flatMap_cons, unlines_append]
  have empty : unlines [[]] = "\n".toList := by decide
  have closing : unlines ["## Step timing".toList] = "## Step timing\n".toList := by decide
  have title : "## Summary" ++ "\n\n" = "## Summary\n\n" := by decide
  have summary : unlines (partLines "## Summary" ["Metric", "Value"] (summaryRows results)) =
      ("## Summary\n\n" ++ table ["Metric", "Value"] (summaryRows results)).toList := by
    rw [← toList_part (List.cons_ne_nil _ _) (by simp [summaryRows]), title]
  have failed : unlines (chapterLines "## Failed cases"
      ["Test", "Duration", "Passed steps", "Failed step", "Error"] (failedRows results)) =
      (chapter "Failed cases" ["Test", "Duration", "Passed steps", "Failed step", "Error"]
        (failedRows results)).toList := by
    symm
    apply toList_chapter (by decide) (List.cons_ne_nil _ _)
    exact List.forall_mem_map.mpr fun c _ ↦ List.cons_ne_nil c.name _
  have passed : unlines (chapterLines "## Passed cases" ["Test", "Duration", "Steps"]
      (passedRows results)) =
      (chapter "Passed cases" ["Test", "Duration", "Steps"] (passedRows results)).toList := by
    symm
    apply toList_chapter (by decide) (List.cons_ne_nil _ _)
    exact List.forall_mem_map.mpr fun c _ ↦ List.cons_ne_nil c.name _
  simp only [reportLines, unlines_append]
  rw [head, empty, closing, summary, failed, passed, ← timings]
  unfold render
  simp only [String.toList_append, List.append_assoc, failedRows, passedRows, summaryRows]

/-! ### What is shown of a case -/

/-- The error that is shown of a case that did not pass. -/
def shownError (c : CaseResult) : Option String :=
  match c.firstFailure? with
  | some s => s.error
  | none => c.error

/-- The texts of a case that are shown can stand in a table. -/
structure Fits (c : CaseResult) : Prop where
  name : Plain c.name
  status : SingleLine c.status.toList
  steps : ∀ s ∈ c.steps, Plain s.action ∧ (∀ p ∈ s.parameters, Plain p) ∧ Plain s.status
  error : c.hasPassed = false → ∀ e ∈ shownError c, Plain e

variable {c : CaseResult}

/-- Parameters that are left out are plain. -/
theorem plain_showParameters {parameters : List String} :
    Plain (showParameters parameters) ↔ ∀ p ∈ parameters, Plain p := by
  have left (p : String) (out : ¬(!p.isEmpty && p != "\x7b\x7d") = true) : Plain p := by
    have : p = "" ∨ p = "\x7b\x7d" := by
      by_cases h : p = "" <;> simp_all
    rcases this with rfl | rfl <;> decide
  have shown : (∀ p ∈ parameters.filter fun p ↦ !p.isEmpty && p != "\x7b\x7d", Plain p) ↔
      ∀ p ∈ parameters, Plain p := by
    refine ⟨fun h p hp ↦ ?_, fun h p hp ↦ h p (List.mem_filter.mp hp).1⟩
    by_cases kept : (!p.isEmpty && p != "\x7b\x7d") = true
    · exact h p (List.mem_filter.mpr ⟨hp, kept⟩)
    · exact left p kept
  rw [← shown, showParameters]
  split
  · next none =>
    rw [List.isEmpty_iff.mp none]
    simpa using show Plain "" by decide
  · rw [plain_append, plain_append, plain_intercalate (by decide)]
    exact ⟨fun h ↦ h.1.2, fun h ↦ ⟨⟨by decide, h⟩, by decide⟩⟩

/-- An action is shown by a plain text if it and its parameters are. -/
theorem plain_shown {s : StepResult} :
    Plain (shown s) ↔ Plain s.action ∧ ∀ p ∈ s.parameters, Plain p := by
  rw [shown, plain_append, plain_showParameters]

private theorem length_stepRow (s : StepResult) : (stepRow s).length = 4 := rfl

private theorem length_passedRow (c : CaseResult) : (passedRow c).length = 3 := rfl

private theorem length_failedRow (c : CaseResult) : (failedRow c).length = 5 := rfl

private theorem plain_stepRow {s : StepResult} :
    (∀ t ∈ stepRow s, Plain t) ↔ Plain (shown s) ∧ Plain s.status := by
  simp [stepRow]

private theorem plain_passedRow : (∀ t ∈ passedRow c, Plain t) ↔ Plain c.name := by
  simp [passedRow]

/-- An error that is empty is shown as none. -/
theorem plain_failedRow :
    (∀ t ∈ failedRow c, Plain t) ↔
      Plain c.name ∧ (∀ s ∈ c.firstFailure?, Plain (shown s)) ∧ ∀ e ∈ shownError c, Plain e := by
  have slash : Plain "/" := by decide
  have colon : Plain ": " := by decide
  have nothing : Plain notApplicable := by decide
  have step : Plain ((c.firstFailure?.map fun s ↦ toString s.number ++ ": " ++ shown s).getD
      notApplicable) ↔ ∀ s ∈ c.firstFailure?, Plain (shown s) := by
    cases c.firstFailure? with
    | none => simp [nothing]
    | some s => simp [colon]
  have error : Plain (((shownError c).filter fun e ↦ !e.isEmpty).getD notApplicable) ↔
      ∀ e ∈ shownError c, Plain e := by
    cases shownError c with
    | none => simp [nothing]
    | some e =>
      by_cases h : e = ""
      · simp [h, Option.filter, nothing, show Plain "" by decide]
      · simp [h, Option.filter]
  have texts : failedRow c = [c.name, duration c.millis,
      toString c.passedSteps ++ "/" ++ toString c.steps.length,
      (c.firstFailure?.map fun s ↦ toString s.number ++ ": " ++ shown s).getD notApplicable,
      ((shownError c).filter fun e ↦ !e.isEmpty).getD notApplicable] := rfl
  rw [texts, ← step, ← error]
  simp [slash]

/-- The rows of cases that fit hold plain texts. -/
theorem Fits.stepRow (h : Fits c) : ∀ row ∈ c.steps.map stepRow, ∀ t ∈ row, Plain t := by
  refine List.forall_mem_map.mpr fun s hs ↦ plain_stepRow.mpr ?_
  obtain ⟨action, parameters, status⟩ := h.steps s hs
  exact ⟨plain_shown.mpr ⟨action, parameters⟩, status⟩

/-- The row of a case that fits and failed holds plain texts. -/
theorem Fits.failedRow (h : Fits c) (failed : c.hasPassed = false) :
    ∀ t ∈ failedRow c, Plain t := by
  refine plain_failedRow.mpr ⟨h.name, fun s hs ↦ ?_, h.error failed⟩
  obtain ⟨action, parameters, -⟩ := h.steps s (List.mem_of_find?_eq_some hs)
  exact plain_shown.mpr ⟨action, parameters⟩

/-- A case whose rows hold plain texts fits. -/
theorem fits_of_rows (heading : SingleLine (caseHeading c).toList)
    (steps : ∀ row ∈ c.steps.map stepRow, ∀ t ∈ row, Plain t)
    (failed : c.hasPassed = false → ∀ t ∈ failedRow c, Plain t)
    (passed : c.hasPassed = true → ∀ t ∈ passedRow c, Plain t) : Fits c where
  name := by
    by_cases h : c.hasPassed = true
    · exact plain_passedRow.mp (passed h)
    · exact (plain_failedRow.mp (failed (by simpa using h))).1
  status := fun ch hc ↦ heading ch (by simp [caseHeading, hc])
  steps := fun s hs ↦ by
    have row := steps (stepRow s) (List.mem_map_of_mem hs)
    rw [plain_stepRow, plain_shown] at row
    exact ⟨row.1.1, row.1.2, row.2⟩
  error := fun h ↦ (plain_failedRow.mp (failed h)).2.2

/-! ### What is read -/

/-- A heading and a table, if the table has rows. -/
def chapterParts (heading : String) (rows : List (List String)) : List Part :=
  if rows.isEmpty then [] else [Part.of heading rows]

/-- The parts of the report of a run. -/
def sections (results : List CaseResult) : List Part :=
  [Part.of "# Test run report" [], Part.of "## Summary" (summaryRows results)] ++
  chapterParts "## Failed cases" (failedRows results) ++
  chapterParts "## Passed cases" (passedRows results) ++ [Part.of "## Step timing" []] ++
  results.map fun c ↦ Part.of (caseHeading c) (c.steps.map stepRow)

/-- What is read from single lines as a part with some texts are plain texts. -/
theorem plain_of_mem_outline {lines : List (List Char)} (single : ∀ line ∈ lines, SingleLine line)
    {heading : String} {rows : List (List String)} (h : Part.of heading rows ∈ outline lines) :
    SingleLine heading.toList ∧ ∀ row ∈ rows, ∀ t ∈ row, Plain t := by
  obtain ⟨title, below⟩ := of_mem_outline h
  refine ⟨single _ title, fun row hr t ht ↦ ?_⟩
  obtain ⟨line, hl, same⟩ := below _ (List.mem_map_of_mem hr)
  have cell : framed t ∈ cells line := same ▸ List.mem_map_of_mem ht
  obtain ⟨bar, whole⟩ := of_mem_cells (single line hl) cell
  exact plain_of_framed bar whole

/-- A chapter with a row is a part. -/
theorem mem_chapterParts {heading : String} {rows : List (List String)} {row : List String}
    (h : row ∈ rows) : Part.of heading rows ∈ chapterParts heading rows := by
  rw [chapterParts, if_neg (by simpa using List.ne_nil_of_mem h)]
  exact List.mem_singleton_self _

/-- If the tables of a run are read from some text, all its cases fit. -/
theorem fits_of_outline_eq {results : List CaseResult} {text : List Char}
    (read : outline (splitLines text) = sections results) : ∀ c ∈ results, Fits c := by
  intro c hc
  have plain (heading : String) (rows : List (List String))
      (h : Part.of heading rows ∈ sections results) :
      SingleLine heading.toList ∧ ∀ row ∈ rows, ∀ t ∈ row, Plain t :=
    plain_of_mem_outline (fun _ ↦ singleLine_of_mem) (read ▸ h)
  have own : Part.of (caseHeading c) (c.steps.map stepRow) ∈ sections results := by
    apply List.mem_append_right
    exact List.mem_map_of_mem hc
  obtain ⟨heading, steps⟩ := plain _ _ own
  refine fits_of_rows heading steps (fun failed ↦ ?_) (fun passed ↦ ?_)
  · have row : failedRow c ∈ failedRows results :=
      List.mem_map_of_mem (List.mem_filter.mpr ⟨hc, by simp [failed]⟩)
    have part : Part.of "## Failed cases" (failedRows results) ∈ sections results := by
      simp only [sections, List.mem_append, mem_chapterParts row, true_or, or_true]
    exact (plain _ _ part).2 _ row
  · have row : passedRow c ∈ passedRows results :=
      List.mem_map_of_mem (List.mem_filter.mpr ⟨hc, passed⟩)
    have part : Part.of "## Passed cases" (passedRows results) ∈ sections results := by
      simp only [sections, List.mem_append, mem_chapterParts row, true_or, or_true]
    exact (plain _ _ part).2 _ row

/-! ### Lines of plain texts -/

/-- A table does not go on in some lines. -/
def Stops (lines : List (List Char)) : Prop := ∀ line ∈ lines.head?, inTable line = false

private theorem tableRows_of_stops {lines : List (List Char)} (h : Stops lines) :
    tableRows lines = [] := by
  cases lines with
  | nil => rfl
  | cons line rest => simp [tableRows, h line rfl]

section Plain

variable {heading : String} {titles : List String} {rows : List (List String)}
  {rest : List (List Char)}

private theorem singleLine_of_mem_partLines (hh : SingleLine heading.toList)
    (ht : ∀ t ∈ titles, Plain t) (hr : ∀ row ∈ rows, ∀ t ∈ row, Plain t) :
    ∀ line ∈ partLines heading titles rows, SingleLine line := by
  have written {texts : List String} (h : ∀ t ∈ texts, Plain t) :
      SingleLine (barred (texts.map framed)) :=
    singleLine_barred (List.forall_mem_map.mpr fun t mem ↦ singleLine_framed (h t mem))
  have ruled : SingleLine (barred (rule titles)) := by
    refine singleLine_barred (List.forall_mem_map.mpr fun t _ c hc ↦ ?_)
    rw [List.eq_of_mem_replicate hc]
    decide
  simp only [partLines, tableLines, List.forall_mem_cons, List.forall_mem_map]
  exact ⟨hh, by decide, written ht, ruled, fun row mem ↦ written (hr row mem)⟩

/-- The rows of a table of plain texts are read as they were written, up to a line that belongs to
no table. -/
theorem tableRows_append (hr : ∀ row ∈ rows, ∀ t ∈ row, Plain t) (stop : Stops rest) :
    tableRows (tableLines titles rows ++ rest) = rows.map (·.map framed) := by
  have behind : rest.takeWhile inTable = [] := by
    cases rest with
    | nil => rfl
    | cons line rest => simp [stop line rfl]
  have all : ∀ line ∈ tableLines titles rows, inTable line = true := by
    simp [tableLines, inTable, barred]
  rw [tableRows, List.takeWhile_append_of_pos all, behind, List.append_nil, tableLines,
    List.drop_succ_cons, List.drop_succ_cons, List.drop_zero, List.map_map]
  refine List.map_congr_left fun row mem ↦ cells_barred ?_
  exact List.forall_mem_map.mpr fun t ht ↦ bar_notMem_framed (hr row mem t ht)

/-- A part is read as it was written. -/
theorem outline_partLines (hh : isHeading heading.toList = true)
    (hr : ∀ row ∈ rows, ∀ t ∈ row, Plain t) (stop : Stops rest) :
    outline (partLines heading titles rows ++ rest) = Part.of heading rows :: outline rest := by
  have below : ∀ line ∈ [] :: tableLines titles rows, isHeading line = false := by
    simp [tableLines, isHeading, barred]
  rw [partLines, List.cons_append, outline_heading hh, outline_append below, List.cons_append,
    List.drop_succ_cons, List.drop_zero, tableRows_append hr stop, Part.of]

private theorem stops_chapterLines (hh : isHeading heading.toList = true) (stop : Stops rest) :
    Stops (chapterLines heading titles rows ++ rest) := by
  unfold chapterLines
  split
  · exact stop
  · have first : heading.toList.head? = some '#' := by simpa [isHeading] using hh
    simp [Stops, partLines, inTable, first]

private theorem outline_chapterLines (hh : isHeading heading.toList = true)
    (hr : ∀ row ∈ rows, ∀ t ∈ row, Plain t) (stop : Stops rest) :
    outline (chapterLines heading titles rows ++ rest) =
      chapterParts heading rows ++ outline rest := by
  unfold chapterLines chapterParts
  split
  · rfl
  · exact outline_partLines hh hr stop

end Plain

/-! ### The report of a run -/

variable {results : List CaseResult}

private theorem plain_of_mem_summaryRows : ∀ row ∈ summaryRows results, ∀ t ∈ row, Plain t := by
  have percent : Plain "%" := by decide
  have titles : Plain "Test cases" ∧ Plain "Passed" ∧ Plain "Failed" ∧ Plain "Pass rate" := by
    decide
  simp [summaryRows, percent, titles]

private theorem plain_of_mem_failedRows (fits : ∀ c ∈ results, Fits c) :
    ∀ row ∈ failedRows results, ∀ t ∈ row, Plain t := by
  refine List.forall_mem_map.mpr fun c hc ↦ ?_
  obtain ⟨mem, failed⟩ := List.mem_filter.mp hc
  exact (fits c mem).failedRow (by simpa using failed)

private theorem plain_of_mem_passedRows (fits : ∀ c ∈ results, Fits c) :
    ∀ row ∈ passedRows results, ∀ t ∈ row, Plain t := by
  refine List.forall_mem_map.mpr fun c hc ↦ plain_passedRow.mpr ?_
  exact (fits c (List.mem_filter.mp hc).1).name

private theorem singleLine_caseHeading (fits : Fits c) : SingleLine (caseHeading c).toList := by
  simp only [caseHeading, String.toList_append]
  apply SingleLine.append _ (by decide)
  apply SingleLine.append _ fits.status
  apply SingleLine.append _ (by decide)
  exact SingleLine.append (by decide) fits.name.2

private theorem plain_moment (m : Moment) : Plain m.plain := by
  have digits (width n : Nat) : Plain (Moment.padded width n) :=
    plain_of_isDigit fun _ ↦ isDigit_of_mem_zeros
  have marks : Plain "-" ∧ Plain " " ∧ Plain ":" := by decide
  simp [Moment.plain, digits, marks]

private theorem singleLine_of_mem_chapterLines {heading : String} {titles : List String}
    {rows : List (List String)} (hh : SingleLine heading.toList)
    (ht : ∀ t ∈ titles, Plain t) (hr : ∀ row ∈ rows, ∀ t ∈ row, Plain t) :
    ∀ line ∈ chapterLines heading titles rows, SingleLine line := by
  unfold chapterLines
  split
  · nofun
  · exact singleLine_of_mem_partLines hh ht hr

/-- The lines of the report of cases that fit are single lines. -/
theorem singleLine_of_mem_reportLines (fits : ∀ c ∈ results, Fits c) (generatedAt : Moment) :
    ∀ line ∈ reportLines results generatedAt, SingleLine line := by
  have dated : Plain ("**Generated**: " ++ generatedAt.plain) := by
    rw [plain_append]
    exact ⟨by decide, plain_moment _⟩
  have lasted : Plain ("**Total duration**: " ++ duration (totalMillis results)) := by
    rw [plain_append]
    exact ⟨by decide, plain_duration _⟩
  have timings : ∀ line ∈ results.flatMap timingLines, SingleLine line := by
    refine List.forall_mem_flatMap.mpr fun c hc ↦ ?_
    exact singleLine_of_mem_partLines (singleLine_caseHeading (fits c hc)) (by decide)
      (fits c hc).stepRow
  simp only [reportLines, List.forall_mem_append, List.forall_mem_cons]
  refine ⟨⟨⟨⟨⟨⟨⟨by decide, by decide, dated.2, lasted.2, by decide, nofun⟩, ?_⟩, by decide, nofun⟩,
    ?_⟩, ?_⟩, by decide, nofun⟩, timings⟩
  · exact singleLine_of_mem_partLines (by decide) (by decide) plain_of_mem_summaryRows
  · exact singleLine_of_mem_chapterLines (by decide) (by decide) (plain_of_mem_failedRows fits)
  · exact singleLine_of_mem_chapterLines (by decide) (by decide) (plain_of_mem_passedRows fits)

private theorem stops_timings : Stops (results.flatMap timingLines) := by
  cases results with
  | nil => nofun
  | cons c results => simp [Stops, timingLines, partLines, caseHeading, inTable]

private theorem outline_timings (fits : ∀ c ∈ results, Fits c) :
    outline (results.flatMap timingLines) =
      results.map fun c ↦ Part.of (caseHeading c) (c.steps.map stepRow) := by
  induction results with
  | nil => rfl
  | cons c results ih =>
    rw [List.forall_mem_cons] at fits
    have hh : isHeading (caseHeading c).toList = true := by simp [isHeading, caseHeading]
    rw [List.flatMap_cons, timingLines, outline_partLines hh fits.1.stepRow stops_timings,
      ih fits.2, List.map_cons]

/-- The parts of the report of cases that fit are those of the run. -/
theorem outline_reportLines (fits : ∀ c ∈ results, Fits c) (generatedAt : Moment) :
    outline (reportLines results generatedAt) = sections results := by
  have opening (dated lasted : String) (rest : List (List Char)) :
      outline (["# Test run report".toList, [], ("**Generated**: " ++ dated).toList,
        ("**Total duration**: " ++ lasted).toList, []] ++ rest) =
      Part.of "# Test run report" [] :: outline rest := by
    have below : Stops (("**Generated**: " ++ dated).toList ::
        ("**Total duration**: " ++ lasted).toList :: [] :: rest) := by simp [Stops, inTable]
    rw [List.cons_append, outline_heading (by decide), outline_append (by simp [isHeading])]
    exact congrArg (Part.mk _ · :: outline rest) (tableRows_of_stops below)
  have space (rest : List (List Char)) : outline ([[]] ++ rest) = outline rest :=
    outline_append (by decide) rest
  have ended : Stops (["## Step timing".toList] ++ results.flatMap timingLines) := by
    simp [Stops, inTable]
  have closing : outline (["## Step timing".toList] ++ results.flatMap timingLines) =
      [Part.of "## Step timing" []] ++
        results.map fun c ↦ Part.of (caseHeading c) (c.steps.map stepRow) := by
    have below : Stops ((results.flatMap timingLines).drop 1) := by
      cases results with
      | nil => nofun
      | cons c results => simp [Stops, timingLines, partLines, inTable]
    rw [List.singleton_append, outline_heading (by decide), tableRows_of_stops below,
      outline_timings fits]
    rfl
  simp only [reportLines, sections, List.append_assoc]
  rw [opening, outline_partLines (by decide) plain_of_mem_summaryRows (by simp [Stops, inTable]),
    space, outline_chapterLines (by decide) (plain_of_mem_failedRows fits)
      (stops_chapterLines (by decide) ended),
    outline_chapterLines (by decide) (plain_of_mem_passedRows fits) ended, closing]
  rfl

/-! ### One line a result -/

/-- The rows below a heading. -/
def rowsUnder (heading : String) (parts : List Part) : List (List (List Char)) :=
  ((parts.find? (·.heading == heading.toList)).map Part.rows).getD []

/-- The parts about the steps of a case. -/
def caseParts (parts : List Part) : List Part :=
  parts.filter fun part ↦ "### ".toList.isPrefixOf part.heading

/-- Every case has one line with five or three cells in the table of the cases that failed or
passed, and a table with one line of four cells for each of its steps. -/
structure Counted (results : List CaseResult) (parts : List Part) : Prop where
  failed : (rowsUnder "## Failed cases" parts).map List.length =
    List.replicate (results.countP fun c ↦ !c.hasPassed) 5
  passed : (rowsUnder "## Passed cases" parts).map List.length =
    List.replicate (results.countP CaseResult.hasPassed) 3
  steps : (caseParts parts).map (·.rows.map List.length) =
    results.map fun c ↦ List.replicate c.steps.length 4

/-- Parts with other headings are passed over. -/
theorem rowsUnder_append {heading : String} {parts : List Part}
    (others : ∀ part ∈ parts, part.heading ≠ heading.toList) (more : List Part) :
    rowsUnder heading (parts ++ more) = rowsUnder heading more := by
  have passedOver : parts.find? (·.heading == heading.toList) = none := by simpa using others
  rw [rowsUnder, List.find?_append, passedOver, Option.none_or, rowsUnder]

/-- The rows of a chapter are found under its title when no other part has it. -/
theorem rowsUnder_chapterParts {heading : String} {rows : List (List String)} {more : List Part}
    (others : ∀ part ∈ more, part.heading ≠ heading.toList) :
    rowsUnder heading (chapterParts heading rows ++ more) = rows.map (·.map framed) := by
  unfold chapterParts
  split
  · next none =>
    have absent := rowsUnder_append others []
    rw [List.append_nil] at absent
    rw [List.nil_append, absent, List.isEmpty_iff.mp none]
    rfl
  · simp [rowsUnder, Part.of]

/-- Rows of one shape have one number of cells. -/
theorem map_length_rows {α : Type} {f : α → List String} {n : Nat} (h : ∀ a, (f a).length = n)
    (xs : List α) :
    ((xs.map f).map (·.map framed)).map List.length = List.replicate xs.length n := by
  simp [List.eq_replicate_iff, h]

private theorem caseParts_append (parts more : List Part) :
    caseParts (parts ++ more) = caseParts parts ++ caseParts more :=
  List.filter_append ..

/-- The tables of the run have the lines and cells that they should have. -/
theorem counted_sections (results : List CaseResult) : Counted results (sections results) where
  failed := by
    have found : rowsUnder "## Failed cases" (sections results) =
        (failedRows results).map (·.map framed) := by
      simp only [sections, List.append_assoc]
      rw [rowsUnder_append (by simp [Part.of]), rowsUnder_chapterParts]
      unfold chapterParts
      split <;> simp [Part.of, caseHeading]
    rw [found, failedRows, map_length_rows length_failedRow, List.countP_eq_length_filter]
  passed := by
    have found : rowsUnder "## Passed cases" (sections results) =
        (passedRows results).map (·.map framed) := by
      simp only [sections, List.append_assoc]
      rw [rowsUnder_append (by simp [Part.of]), rowsUnder_append, rowsUnder_chapterParts]
      · simp [Part.of, caseHeading]
      · unfold chapterParts
        split <;> simp [Part.of]
    rw [found, passedRows, map_length_rows length_passedRow, List.countP_eq_length_filter]
  steps := by
    have failed : caseParts (chapterParts "## Failed cases" (failedRows results)) = [] := by
      unfold chapterParts
      split <;> simp [caseParts, Part.of]
    have passed : caseParts (chapterParts "## Passed cases" (passedRows results)) = [] := by
      unfold chapterParts
      split <;> simp [caseParts, Part.of]
    have own : caseParts (results.map fun c ↦ Part.of (caseHeading c) (c.steps.map stepRow)) =
        results.map fun c ↦ Part.of (caseHeading c) (c.steps.map stepRow) := by
      simp [caseParts, Part.of, caseHeading]
    have first : caseParts [Part.of "# Test run report" [],
        Part.of "## Summary" (summaryRows results)] = [] := by
      simp [caseParts, Part.of]
    have last : caseParts [Part.of "## Step timing" []] = [] := by decide
    simp only [sections, caseParts_append, first, failed, passed, last, own, List.nil_append,
      List.map_map]
    exact List.map_congr_left fun c _ ↦ map_length_rows length_stepRow c.steps

/-- What is read from the report of a run are its tables, line by line and cell by cell, if and
only if every text of the run that stands in a table fits there. -/
theorem outline_render_iff (results : List CaseResult) (generatedAt : Moment) :
    let parts := outline (splitLines (render results generatedAt).toList)
    (parts = sections results ∧ Counted results parts) ↔ ∀ c ∈ results, Fits c := by
  intro parts
  constructor
  · exact fun h ↦ fits_of_outline_eq h.1
  · intro fits
    have read : parts = sections results := by
      show outline (splitLines (render results generatedAt).toList) = sections results
      rw [toList_render, splitLines_unlines (singleLine_of_mem_reportLines fits generatedAt),
        outline_reportLines fits]
    exact ⟨read, read ▸ counted_sections results⟩

/-- A case with a bar in its name. -/
def barredCase : CaseResult :=
  ⟨"Cart | Checkout", Status.failed, .ofMicros 0, .ofMicros 0, [], some "boom"⟩

/-- A case with an error on two lines. -/
def brokenCase : CaseResult :=
  ⟨"Cart", Status.failed, .ofMicros 0, .ofMicros 0, [],
    some "Timeout 30000ms exceeded.\nCall log:"⟩

/-- The row of a case with a bar in its name has a cell too many, and the row of a case with an
error on two lines, which is written on two lines, one too few. -/
theorem bar_makes_cell :
    let parts := outline (splitLines (render [barredCase, brokenCase] (.ofMicros 0)).toList)
    (rowsUnder "## Failed cases" parts).map List.length = [6, 4] ∧
      ¬ Counted [barredCase, brokenCase] parts := by
  rw [toList_render]
  intro parts
  have read : (rowsUnder "## Failed cases" parts).map List.length = [6, 4] := by decide +kernel
  refine ⟨read, fun counted ↦ ?_⟩
  have five := counted.failed
  rw [read] at five
  revert five
  decide

end Playbook.Report
