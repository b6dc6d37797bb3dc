import Playbook.Browser.Bench
import Playbook.Number.Fixed

/-!
# Reports

A report sums up a run for people, in Markdown: counts, a table of the cases that failed, one of
those that passed, and for every case a table of its steps. Every line is written with its line
end; texts from the run stand in the cells as they are.
-/

namespace Playbook.Report

/-- A row of a table. -/
def row (cells : List String) : String := "| " ++ " | ".intercalate cells ++ " |\n"

/-- A table: its titles, the rule below them, and its rows. -/
def table (titles : List String) (rows : List (List String)) : String :=
  let rule := titles.map fun t => String.ofList (List.replicate (t.length + 2) '-')
  row titles ++ "|" ++ "|".intercalate rule ++ "|\n" ++ String.join (rows.map row)

/-- The share of the cases that passed, in per cent with one decimal. -/
def passRate (passed total : Nat) : String :=
  if total = 0 then "0.0"
  else ((Number.Binary64.ofRatio false passed total).mulNat 100).fixed 1

/-- A duration. -/
def duration (millis : Int) : String := toString millis ++ " ms"

/-- An action with its parameters. -/
def shown (s : StepResult) : String := s.action ++ showParameters s.parameters

/-- What is shown where there is nothing to show. -/
def notApplicable : String := "N/A"

/-- The row of a case that failed. -/
def failedRow (c : CaseResult) : List String :=
  let failure := c.firstFailure?
  let error := match failure with
    | some s => s.error
    | none => c.error
  [c.name, duration c.millis, toString c.passedSteps ++ "/" ++ toString c.steps.length,
    (failure.map fun s => toString s.number ++ ": " ++ shown s).getD notApplicable,
    (error.filter fun e => !e.isEmpty).getD notApplicable]

/-- The row of a case that passed. -/
def passedRow (c : CaseResult) : List String :=
  [c.name, duration c.millis, toString c.steps.length]

/-- The row of a step. -/
def stepRow (s : StepResult) : List String :=
  [toString s.number, shown s, s.status, duration s.millis]

/-- A heading and a table, left out when the table would have no rows. -/
def chapter (heading : String) (titles : List String) (rows : List (List String)) : String :=
  if rows.isEmpty then "" else "## " ++ heading ++ "\n\n" ++ table titles rows

/-- The part about the steps of a case. -/
def timing (c : CaseResult) : String :=
  "### " ++ c.name ++ " (" ++ c.status ++ ")\n\n" ++
    table ["#", "Action", "Status", "Duration"] (c.steps.map stepRow)

/-- How long all cases took together. -/
def totalMillis : List CaseResult → Int
  | [] => 0
  | c :: rest => c.millis + totalMillis rest

/-- The report of a run. -/
def render (results : List CaseResult) (generatedAt : Moment) : String :=
  let passed := results.filter CaseResult.hasPassed
  let failed := results.filter fun c => !c.hasPassed
  "# Test run report\n\n" ++
  "**Generated**: " ++ generatedAt.plain ++ "\n" ++
  "**Total duration**: " ++ duration (totalMillis results) ++ "\n\n" ++
  "## Summary\n\n" ++
  table ["Metric", "Value"]
    [["Test cases", toString results.length], ["Passed", toString passed.length],
      ["Failed", toString failed.length],
      ["Pass rate", passRate passed.length results.length ++ "%"]] ++
  "\n" ++
  chapter "Failed cases" ["Test", "Duration", "Passed steps", "Failed step", "Error"]
    (failed.map failedRow) ++
  chapter "Passed cases" ["Test", "Duration", "Steps"] (passed.map passedRow) ++
  "## Step timing\n" ++
  String.join (results.map timing)

end Playbook.Report

namespace Playbook.Rig

variable {β : Type}

/-- Write the report of a run to a file. -/
def writeReport (rig : Rig β) (results : List CaseResult) (path : Path) : Play (Bench β) Unit := do
  onDisk (Disk.ensureDirectories path.parent)
  let generatedAt ← rig.now
  onDisk (Disk.writeText path (Report.render results generatedAt))

end Playbook.Rig
