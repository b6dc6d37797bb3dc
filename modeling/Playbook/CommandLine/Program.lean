import Playbook.CommandLine.Arguments
import Playbook.Discovery
import Playbook.Run.Recorder
import Playbook.Run.Report
import Playbook.Run.Summary
import Playbook.Settings.File
import Playbook.Shop.Performance

/-!
# The program

The program reads its settings and scripts, runs the cases of all scripts in one session after
another, prints a summary, and writes a report if one is asked for. Nothing is run unless every
script can be read. It ends with 0 when every case passed, with 1 when one did not, and with 2
when there was nothing it could run.
-/

namespace Playbook.CommandLine

open Browser

variable {β : Type}

/-- How the program ends. -/
inductive Ending where
  | exit (code : Nat)
  /-- An input error that the program does not report by itself. -/
  | unusable (error : InputError)
  /-- A failure outside any case. -/
  | failure (error : Failure)

/-- What the program leaves behind. -/
structure Outcome (β : Type) where
  ending : Ending
  /-- What was printed. -/
  output : String := ""
  /-- What was printed as a complaint about the command line. -/
  complaint : String := ""
  stage : Stage (Bench β)

/-- The directory of the program's own log. -/
def logDirectory : Path := .ofText "log"

/-- The file of the program's own log. -/
def logFile (d : Disk) : Path :=
  .ofLocation ((logDirectory.child "keyword_runner.log").resolve d.workingDirectory)

/-- Make the file of the program's own log ready. -/
def openLog : Play (Bench β) Unit := do
  Rig.onDisk (Disk.ensureDirectory logDirectory)
  Rig.onDisk (Disk.ensureFile (logFile (← get).world.disk))

/-- Everything that a run needs. -/
structure Order where
  settings : Settings
  scripts : List Path
  cases : List Script.Case

/-- The cases of script files, in order. -/
def casesInAll (d : Disk) : List Path → Reading (List Script.Case)
  | [] => pure []
  | p :: rest => do
    let cases ← Script.casesIn d p
    return cases ++ (← casesInAll d rest)

/-- The patterns that scripts are searched by. -/
def Arguments.searched (a : Arguments) : List String :=
  if a.patterns.isEmpty then Discovery.standardPatterns else a.patterns

/-- Settings as the arguments change them. -/
def Arguments.adjust (a : Arguments) (s : Settings) : Settings :=
  { s with
    log := { s.log with enabled := s.log.enabled && !a.noLogs }
    browser := { s.browser with headless := s.browser.headless && !a.headed } }

/-- Read settings and scripts. -/
def prepare (switches : Settings.Switches) (d : Disk) (a : Arguments) : Reading Order := do
  let settings ← Settings.load switches d (.ofLocation d.workingDirectory) a.config
  let scripts ← .ofExcept (Discovery.scripts d a.searched a.paths)
  let cases ← casesInAll d scripts
  return { settings := a.adjust settings, scripts, cases }

/-- Write the report that is asked for and tell where it is. -/
def reportOn (rig : Rig β) (a : Arguments) (results : List CaseResult) :
    Play (Bench β) String := do
  match a.report.filter fun p => !p.isEmpty with
  | none => return ""
  | some written =>
    let path := Path.ofText written
    rig.writeReport results path
    return "Report: " ++ path.text ++ "\n"

/-- Run the cases. -/
def runOrder (rig : Rig β) (order : Order) : Play (Bench β) (List CaseResult) := do
  Play.report .info .commandLine
    ("Running " ++ toString order.cases.length ++ " test case(s) from " ++
      toString order.scripts.length ++ " script(s)")
  (Shop.crew rig .standard).runAll (some rig.record) (some rig.close.toPlay) order.cases

/-- Run the cases and tell of their results. -/
def carryOut (outside : Outside β) (a : Arguments) (order : Order) (s : Stage (Bench β)) :
    Outcome β :=
  let rig : Rig β := { settings := order.settings, outside }
  match runOrder rig order s with
  | .error e stage => { ending := .failure e, stage }
  | .ok results s =>
    let summary := Summary.render results
    match reportOn rig a results s with
    | .ok told stage =>
      { ending := .exit (if results.all CaseResult.hasPassed then 0 else 1)
        output := summary ++ told
        stage }
    | .error e stage => { ending := .failure e, output := summary, stage }

/-- End without a run, with a line on the log that says why. -/
def giveUp (reason : String) (s : Stage (Bench β)) : Outcome β :=
  let ((), stage) := Routine.report .error .commandLine reason s
  { ending := .exit 2, stage }

/-- Read the input and run its cases. -/
def proceed (switches : Settings.Switches) (outside : Outside β) (a : Arguments)
    (s : Stage (Bench β)) : Outcome β :=
  let reading := prepare switches s.world.disk a
  let s := { s with log := s.log ++ reading.log }
  match reading.outcome with
  | .ok order =>
    if order.cases.isEmpty then
      giveUp ("No test cases found in " ++ ", ".intercalate a.paths) s
    else carryOut outside a order s
  | .error e =>
    match e.report? with
    | some message => giveUp message s
    | none => { ending := .unusable e, stage := s }

/-- The outcome with debugging entries left out of the log, unless they are asked for. -/
def Outcome.quieted (a : Arguments) (o : Outcome β) : Outcome β :=
  { o with stage := { o.stage with log := o.stage.log.filter (LogEntry.isShown a.debug) } }

/-- Do what arguments ask for. -/
def run (switches : Settings.Switches) (outside : Outside β) (a : Arguments) (bench : Bench β) :
    Outcome β :=
  Outcome.quieted a <|
    match openLog { world := bench } with
    | .ok () s => proceed switches outside a s
    | .error e s => { ending := .failure e, stage := s }

/-- How to write a command line. -/
def usage : String :=
  "usage: [-h] [--config CONFIG] [--pattern PATTERN] [--headed] [--no-logs] [--report REPORT] " ++
    "[--debug] [paths ...]\n"

/-- Do what a command line asks for. -/
def start (switches : Settings.Switches) (outside : Outside β) (written : List String)
    (bench : Bench β) : Outcome β :=
  match Request.read written with
  | .ok (.run a) => run switches outside a bench
  | .ok .help => { ending := .exit 0, output := usage, stage := { world := bench } }
  | .error refusal =>
    { ending := .exit 2
      complaint := usage ++ "error: " ++ refusal.message ++ "\n"
      stage := { world := bench } }

end Playbook.CommandLine
