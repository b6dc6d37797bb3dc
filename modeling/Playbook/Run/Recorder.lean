import Playbook.Browser.Bench
import Playbook.Json.Writer
import Playbook.Run.Cases
import Playbook.Text.Aligned

/-!
# Recording results

Every result that is recorded is kept, and all that are kept are written to a file of the result
log each time, under a name made of the time, so that a file never holds less than an earlier one.
The log also tells how long the case and its steps took.
-/

namespace Playbook.Rig

variable {β : Type}

/-- The file of the result log with a stamp. -/
def logPath (rig : Rig β) (stamp : String) : Path :=
  rig.settings.log.directory.join (.ofText ("logs-" ++ stamp ++ ".json"))

/-- Recorded results as they are written to a file. -/
def logText (results : List CaseResult) : String :=
  Json.indented (.list (results.map CaseResult.toValue))

/-- Write every result recorded so far to a file. -/
def writeLog (path : Path) : Play (Bench β) Unit := do
  onDisk (Disk.ensureDirectories path.parent)
  onDisk (Disk.writeText path (logText (← get).world.recorded))
  Play.report .info .recorder ("Test logs saved to " ++ path.text)
  modify fun s => { s with world := { s.world with lastLog := some path } }

/-- Write every result recorded so far to the file with a stamp, or with one made of the time. -/
def saveLog (rig : Rig β) (stamp : Option String) : Play (Bench β) Path := do
  let stamp ← match stamp.filter fun s => !s.isEmpty with
    | some s => pure s
    | none => do pure (← rig.now).stamp
  writeLog (rig.logPath stamp)
  return rig.logPath stamp

/-- The line of the log about the time a step took. -/
def timingLine (r : StepResult) : String :=
  "  step " ++ Text.alignRight 3 (toString r.number) ++ " | " ++ Text.alignLeft 8 r.status ++
    " | " ++ Text.alignRight 6 (toString r.millis) ++ " ms | " ++ r.action

/-- Report how long a case and its steps took. -/
def reportTiming (r : CaseResult) : Play (Bench β) Unit := do
  Play.report .info .recorder ("Scenario duration: " ++ toString r.millis ++ " ms")
  r.steps.forM fun s => Play.report .info .recorder (timingLine s)

/-- Record a result. -/
def record (rig : Rig β) : ResultSink (Bench β) := fun result => do
  modify fun s => { s with world := { s.world with recorded := s.world.recorded ++ [result] } }
  if rig.settings.log.enabled then
    let _ ← rig.saveLog none
  reportTiming result

end Playbook.Rig
