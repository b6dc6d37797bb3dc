import Playbook.Moment
import Playbook.Value.Basic

/-!
# Results

What a run leaves behind: one result a test case, one a step performed in it, in the order of
performance. A status is a text; the two that the runner gives are `passed` and `failed`.
-/

namespace Playbook

/-- The outcome of a case or step. -/
abbrev Status := String

namespace Status

/-- Nothing went wrong. -/
def passed : Status := "passed"

/-- Something went wrong. -/
def failed : Status := "failed"

end Status

/-- The record of one action performed. -/
structure StepResult where
  number : Int
  action : String
  parameters : List String
  status : Status
  startedAt : Moment
  finishedAt : Moment
  error : Option String := none
  screenshot : Option String := none
  video : Option String := none
  deriving DecidableEq, Repr

/-- The record of one test case. -/
structure CaseResult where
  name : String
  status : Status
  startedAt : Moment
  finishedAt : Moment
  steps : List StepResult := []
  error : Option String := none
  deriving DecidableEq, Repr

/-- An optional field: left out when there is nothing to write. -/
def optionalField (name : String) : Option String → List (String × Value)
  | some s => [(name, .text s)]
  | none => []

namespace StepResult

/-- How long a step took, in whole milliseconds. -/
def millis (s : StepResult) : Int := s.startedAt.millisUntil s.finishedAt

/-- A step result as a structured value. -/
def toValue (s : StepResult) : Value :=
  .object <|
    [("stepNumber", .int s.number), ("action", .text s.action),
      ("parameters", Value.texts s.parameters), ("status", .text s.status),
      ("startedAt", .text s.startedAt.iso), ("finishedAt", .text s.finishedAt.iso),
      ("durationMs", .int s.millis)] ++
    optionalField "error" s.error ++ optionalField "screenshotPath" s.screenshot ++
    optionalField "videoPath" s.video

end StepResult

namespace CaseResult

/-- How long a case took, in whole milliseconds. -/
def millis (c : CaseResult) : Int := c.startedAt.millisUntil c.finishedAt

/-- The case went through. -/
def hasPassed (c : CaseResult) : Bool := c.status == Status.passed

/-- How many steps went through. -/
def passedSteps (c : CaseResult) : Nat := c.steps.countP (·.status == Status.passed)

/-- The first step that failed. -/
def firstFailure? (c : CaseResult) : Option StepResult :=
  c.steps.find? (·.status == Status.failed)

/-- A case result as a structured value. -/
def toValue (c : CaseResult) : Value :=
  .object
    [("testName", .text c.name), ("steps", .list (c.steps.map StepResult.toValue)),
      ("status", .text c.status), ("durationMs", .int c.millis),
      ("startedAt", .text c.startedAt.iso), ("finishedAt", .text c.finishedAt.iso),
      ("error", Value.ofText? c.error)]

end CaseResult

/-- Parameters as they are shown after an action; empty ones and unfilled placeholders are left
out, and nothing is shown when none is left. -/
def showParameters (parameters : List String) : String :=
  let shown := parameters.filter fun p => !p.isEmpty && p != "\x7b\x7d"
  if shown.isEmpty then "" else " [" ++ ", ".intercalate shown ++ "]"

end Playbook
