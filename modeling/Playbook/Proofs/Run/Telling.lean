import Mathlib.Data.List.Forall2
import Playbook.Run.Report
import Playbook.Run.Summary

/-!
# What summaries and reports tell

What a summary and a report tell of the results of a run is spelled out line by line, in the order
of the results (`SummaryTells`, `ReportTells`), and the ones that are rendered tell just that
(`summaryTells_render`, `reportTells_render`).
-/

namespace Playbook

/-- Results come with a count of those that passed. -/
def passedCount (results : List CaseResult) : Nat :=
  results.countP fun r ↦ r.status = Status.passed

/-! ### Summaries -/

/-- The part of a summary about a case: whether it passed, its name, how long it took, how many of
its steps passed, and the first step that failed, if one did. -/
def TellsCase (r : CaseResult) (block : String) : Prop :=
  block = (if r.status = Status.passed then "✓ " else "✗ ") ++ r.name ++ " (" ++
    toString r.millis ++ " ms, " ++
    toString (r.steps.countP fun s ↦ s.status = Status.passed) ++ "/" ++
    toString r.steps.length ++ " steps)\n" ++
    match r.steps.find? fun s ↦ s.status = Status.failed with
    | some s =>
      "    step " ++ toString s.number ++ ": " ++ s.action ++ " -> " ++ s.error.getD "None" ++ "\n"
    | none => ""

/-- A summary tells of every result in turn, and then how many cases passed. -/
def SummaryTells (results : List CaseResult) (summary : String) : Prop :=
  ∃ blocks, List.Forall₂ TellsCase results blocks ∧
    summary = "\n" ++ String.ofList (List.replicate 80 '=') ++ "\nRun finished\n" ++
      String.ofList (List.replicate 80 '=') ++ "\n" ++ String.join blocks ++ "\nPassed: " ++ toString (passedCount results) ++ "/" ++
      toString results.length ++ "\n"

/-- A case passed when its status says so. -/
theorem hasPassed_eq :
    CaseResult.hasPassed = fun r ↦ decide (r.status = Status.passed) := by
  funext r
  exact Bool.beq_eq_decide_eq _ _

private theorem tellsCase_caseLines (r : CaseResult) : TellsCase r (Summary.caseLines r) := by
  unfold TellsCase Summary.caseLines CaseResult.passedSteps CaseResult.firstFailure?
  simp only [hasPassed_eq, decide_eq_true_eq, Bool.beq_eq_decide_eq]
  cases r.steps.find? fun s ↦ decide (s.status = Status.failed) with
  | none => rfl
  | some s => rfl

/-- The summary that is printed tells of the results. -/
theorem summaryTells_render (results : List CaseResult) :
    SummaryTells results (Summary.render results) := by
  refine ⟨results.map Summary.caseLines, ?_, ?_⟩
  · exact List.forall₂_map_right_iff.mpr (List.forall₂_same.mpr fun r _ ↦ tellsCase_caseLines r)
  · rw [passedCount, ← hasPassed_eq]
    rfl

/-! ### Reports -/

/-- What a step did, with its parameters in brackets, but for those that tell nothing. -/
def StepResult.description (s : StepResult) : String :=
  let telling := s.parameters.filter fun p ↦ p ≠ "" ∧ p ≠ "\x7b\x7d"
  s.action ++ if telling = [] then "" else " [" ++ ", ".intercalate telling ++ "]"

/-- A line of a table shows these cells. -/
def ShowsCells (cells : List String) (line : String) : Prop :=
  line = "| " ++ " | ".intercalate cells ++ " |\n"

/-- The line about a case that failed: its name, how long it took, how many of its steps passed, the
first step that failed, and the error of that step, or of the case if no step failed. -/
def TellsFailed (r : CaseResult) (line : String) : Prop :=
  let failure := r.steps.find? fun s ↦ s.status = Status.failed
  ShowsCells
    [r.name, toString r.millis ++ " ms",
      toString (r.steps.countP fun s ↦ s.status = Status.passed) ++ "/" ++ toString r.steps.length,
      match failure with
      | some s => toString s.number ++ ": " ++ s.description
      | none => "N/A",
      match failure.elim r.error StepResult.error with
      | some e => if e = "" then "N/A" else e
      | none => "N/A"]
    line

/-- The line about a case that passed: its name, how long it took, and how many steps it has. -/
def TellsPassed (r : CaseResult) (line : String) : Prop :=
  ShowsCells [r.name, toString r.millis ++ " ms", toString r.steps.length] line

/-- The line about a step: its number, what it did, whether it passed, and how long it took. -/
def TellsStep (s : StepResult) (line : String) : Prop :=
  ShowsCells
    [toString s.number, s.description, s.status,
      toString s.millis ++ " ms"]
    line

/-- The part about the steps of a case has a line for each of them. -/
def TellsSteps (r : CaseResult) (block : String) : Prop :=
  ∃ lines, List.Forall₂ TellsStep r.steps lines ∧
    block = "### " ++ r.name ++ " (" ++ r.status ++ ")\n\n" ++
      "| # | Action | Status | Duration |\n|---|--------|--------|----------|\n" ++
      String.join lines

/-- A report shows how many cases were run, passed and failed, and how long they took together; it
lists those that failed, those that passed, and the steps of all, each in order. A table without
lines is left out. -/
def ReportTells (results : List CaseResult) (report : String) : Prop :=
  ∃ (generatedAt : Moment) (failed passed blocks : List String),
    List.Forall₂ TellsFailed (results.filter fun r ↦ r.status = Status.failed) failed ∧
    List.Forall₂ TellsPassed (results.filter fun r ↦ r.status = Status.passed) passed ∧
    List.Forall₂ TellsSteps results blocks ∧
    report =
      "# Test run report\n\n" ++ "**Generated**: " ++ generatedAt.plain ++ "\n" ++
      "**Total duration**: " ++
        toString ((results.map CaseResult.millis).foldr (· + ·) 0) ++ " ms" ++ "\n\n" ++
      "## Summary\n\n" ++ "| Metric | Value |\n|--------|-------|\n" ++
      "| Test cases | " ++ toString results.length ++ " |\n" ++
      "| Passed | " ++ toString (passedCount results) ++ " |\n" ++
      "| Failed | " ++ toString (results.length - passedCount results) ++ " |\n" ++
      "| Pass rate | " ++ (if results = [] then "0.0" else
        ((Number.Binary64.ofRatio false (passedCount results) results.length).mulNat 100).fixed 1) ++
        "% |\n" ++
      "\n" ++
      (if failed = [] then "" else
        "## Failed cases\n\n" ++ "| Test | Duration | Passed steps | Failed step | Error |\n" ++
          "|------|----------|--------------|-------------|-------|\n" ++ String.join failed) ++
      (if passed = [] then "" else
        "## Passed cases\n\n" ++ "| Test | Duration | Steps |\n" ++
          "|------|----------|-------|\n" ++ String.join passed) ++
      "## Step timing\n" ++ String.join blocks

-- A table is written as its titles and the rule below them, which are told once and for all, and
-- its rows.
private theorem table_eq (header : String) {titles : List String}
    (h : Report.row titles ++ "|" ++
      "|".intercalate (titles.map fun t ↦ String.ofList (List.replicate (t.length + 2) '-')) ++
        "|\n" = header) (rows : List (List String)) :
    Report.table titles rows = header ++ String.join (rows.map Report.row) := by
  rw [← h]
  rfl

private theorem metrics_eq (all passed failed rate : String) :
    Report.table ["Metric", "Value"]
        [["Test cases", all], ["Passed", passed], ["Failed", failed], ["Pass rate", rate ++ "%"]] =
      "| Metric | Value |\n|--------|-------|\n" ++ "| Test cases | " ++ all ++ " |\n" ++
        "| Passed | " ++ passed ++ " |\n" ++ "| Failed | " ++ failed ++ " |\n" ++
        "| Pass rate | " ++ rate ++ "% |\n" := by
  rw [table_eq "| Metric | Value |\n|--------|-------|\n" (by decide +kernel)]
  apply String.toList_inj.mp
  simp [Report.row, String.join]

private theorem chapter_eq (header : String) {heading : String} {titles : List String}
    {results : List CaseResult} {row : CaseResult → List String}
    (h : "## " ++ heading ++ "\n\n" ++ (Report.row titles ++ "|" ++
      "|".intercalate (titles.map fun t ↦ String.ofList (List.replicate (t.length + 2) '-')) ++
        "|\n") = header) :
    Report.chapter heading titles (results.map row) =
      if results.map (fun r ↦ Report.row (row r)) = [] then ""
      else header ++ String.join (results.map fun r ↦ Report.row (row r)) := by
  cases results with
  | nil => rfl
  | cons r results =>
    rw [Report.chapter, table_eq _ rfl, ← h]
    simp [String.append_assoc, Function.comp_def]

private theorem forall₂_map {α : Type} {R : α → String → Prop} {f : α → String} {xs : List α}
    (h : ∀ x, R x (f x)) : List.Forall₂ R xs (xs.map f) :=
  List.forall₂_map_right_iff.mpr (List.forall₂_same.mpr fun x _ ↦ h x)

private theorem getD_filter (error : Option String) :
    (error.filter fun e ↦ !e.isEmpty).getD Report.notApplicable =
      match error with
      | some e => if e = "" then "N/A" else e
      | none => "N/A" := by
  cases error with
  | none => rfl
  | some e =>
    by_cases h : e = ""
    · simp [h, Option.filter, Report.notApplicable]
    · simp [h, Option.filter]

private theorem shown_eq (s : StepResult) : Report.shown s = s.description := by
  have telling : (s.parameters.filter fun p ↦ !p.isEmpty && p != "\x7b\x7d") =
      s.parameters.filter fun p ↦ p ≠ "" ∧ p ≠ "\x7b\x7d" := by
    refine List.filter_congr fun p _ ↦ ?_
    rw [Bool.eq_iff_iff]
    simp
  unfold Report.shown showParameters StepResult.description
  rw [telling]
  simp only [List.isEmpty_iff]

private theorem passRate_eq (results : List CaseResult) :
    Report.passRate (passedCount results) results.length =
      if results = [] then "0.0" else
        ((Number.Binary64.ofRatio false (passedCount results) results.length).mulNat 100).fixed 1 := by
  simp only [Report.passRate, List.length_eq_zero_iff]

private theorem tellsFailed_row (r : CaseResult) :
    TellsFailed r (Report.row (Report.failedRow r)) := by
  unfold TellsFailed ShowsCells Report.row Report.failedRow CaseResult.passedSteps
    CaseResult.firstFailure?
  simp only [Bool.beq_eq_decide_eq]
  cases r.steps.find? fun s ↦ decide (s.status = Status.failed) with
  | none =>
    dsimp only
    rw [getD_filter r.error]
    rfl
  | some s =>
    dsimp only
    rw [getD_filter s.error]
    simp only [Option.map_some, Option.getD_some, Option.elim_some, shown_eq, Report.duration,
      String.append_assoc]

private theorem tellsPassed_row (r : CaseResult) :
    TellsPassed r (Report.row (Report.passedRow r)) := rfl

private theorem tellsStep_row (s : StepResult) : TellsStep s (Report.row (Report.stepRow s)) := by
  rw [TellsStep, ← shown_eq]
  rfl

private theorem tellsSteps_timing (r : CaseResult) : TellsSteps r (Report.timing r) := by
  refine ⟨_, forall₂_map fun s ↦ tellsStep_row s, ?_⟩
  rw [Report.timing, table_eq
    "| # | Action | Status | Duration |\n|---|--------|--------|----------|\n" (by decide +kernel)]
  simp only [List.map_map, Function.comp_def, String.append_assoc]

private theorem totalMillis_eq (results : List CaseResult) :
    Report.totalMillis results = (results.map CaseResult.millis).foldr (· + ·) 0 := by
  induction results with
  | nil => rfl
  | cons r results ih => rw [Report.totalMillis, List.map_cons, List.foldr_cons, ih]

/-- The report of results that each passed or failed tells of them. -/
theorem reportTells_render {results : List CaseResult}
    (told : ∀ r ∈ results, r.status = Status.passed ∨ r.status = Status.failed)
    (generatedAt : Moment) : ReportTells results (Report.render results generatedAt) := by
  have failed : (results.filter fun r ↦ !r.hasPassed) =
      results.filter fun r ↦ r.status = Status.failed := by
    refine List.filter_congr fun r hr ↦ ?_
    rw [hasPassed_eq]
    obtain passed | failed := told r hr
    · simp [passed, Status.passed, Status.failed]
    · simp [failed, Status.passed, Status.failed]
  have passed : (results.filter CaseResult.hasPassed).length = passedCount results := by
    rw [← List.countP_eq_length_filter, hasPassed_eq, passedCount]
  have rest : (results.filter fun r ↦ !r.hasPassed).length =
      results.length - passedCount results := by
    have all := List.length_eq_countP_add_countP CaseResult.hasPassed (l := results)
    have others : results.countP (fun r ↦ decide ¬r.hasPassed = true) =
        (results.filter fun r ↦ !r.hasPassed).length := by
      rw [List.countP_eq_length_filter]
      simp only [Bool.not_eq_true, Bool.decide_eq_false]
    rw [others, List.countP_eq_length_filter, passed] at all
    omega
  refine ⟨generatedAt, _, _, _, forall₂_map fun r ↦ tellsFailed_row r,
    forall₂_map fun r ↦ tellsPassed_row r, forall₂_map fun r ↦ tellsSteps_timing r, ?_⟩
  unfold Report.render
  dsimp only
  rw [passed, rest, failed, totalMillis_eq, hasPassed_eq, passRate_eq, metrics_eq,
    chapter_eq ("## Failed cases\n\n" ++
      "| Test | Duration | Passed steps | Failed step | Error |\n" ++
      "|------|----------|--------------|-------------|-------|\n") (by decide +kernel),
    chapter_eq ("## Passed cases\n\n" ++ "| Test | Duration | Steps |\n" ++
      "|------|----------|-------|\n") (by decide +kernel)]
  simp only [Report.duration, String.append_assoc]

end Playbook
