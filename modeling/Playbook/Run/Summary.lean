import Playbook.Run.Result

/-!
# Summaries

A summary tells on the terminal how a run went: a line for every case, a line for the step it
failed at, and how many cases passed. Every line is written with its line end.
-/

namespace Playbook.Summary

/-- The rule above and below the title. -/
def rule : String := String.ofList (List.replicate 80 '=')

/-- The line of a step that failed. -/
def failureLine (s : StepResult) : String :=
  "    step " ++ toString s.number ++ ": " ++ s.action ++ " -> " ++ s.error.getD "None" ++ "\n"

/-- The lines of a case. -/
def caseLines (c : CaseResult) : String :=
  (if c.hasPassed then "✓ " else "✗ ") ++ c.name ++ " (" ++ toString c.millis ++ " ms, " ++
    toString c.passedSteps ++ "/" ++ toString c.steps.length ++ " steps)\n" ++
    (c.firstFailure?.map failureLine).getD ""

/-- The summary of a run. -/
def render (results : List CaseResult) : String :=
  "\n" ++ rule ++ "\nRun finished\n" ++ rule ++ "\n" ++
    String.join (results.map caseLines) ++
    "\nPassed: " ++ toString (results.countP CaseResult.hasPassed) ++ "/" ++
    toString results.length ++ "\n"

end Playbook.Summary
