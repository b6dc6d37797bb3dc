import Playbook.Run.Interpreter

/-!
# Running cases

Cases run one after another on one stage. After each, its result is kept and goes to the recorder,
and the teardown runs. Neither a record that the disk refuses nor a failed teardown keeps the next
case from running; any other failure of the recorder ends the run, once the case is torn down.
-/

namespace Playbook

/-- Keeps case results; it may be refused. -/
abbrev ResultSink (σ : Type) := CaseResult → Play σ Unit

/-- A routine of a runner that keeps the results of its cases. A failure may end it. -/
abbrev Keeping (σ : Type) := ExceptT Failure (StateT (List CaseResult) (Routine σ))

section

open Script

variable {σ : Type}

/-- Hand a result to the recorder. What the disk refuses is reported, any other failure is handed
out. -/
def recordResult (sink : Option (ResultSink σ)) (c : Case) (result : CaseResult) :
    Routine σ (Except Failure Unit) :=
  match sink with
  | none => return .ok ()
  | some record => do
    match ← Routine.attempt (record result) with
    | .ok () => return .ok ()
    | .error e =>
      if e.isDiskFault then
        Routine.report .error .runner
          ("Could not record result of \"" ++ c.name ++ "\": " ++ e.message)
        return .ok ()
      else return .error e

/-- Run the teardown after a case and report its failure. -/
def tearDown (teardown : Option (Play σ Unit)) (c : Case) : Routine σ Unit :=
  match teardown with
  | none => pure ()
  | some play => do
    match ← Routine.attempt play with
    | .ok () => pure ()
    | .error e =>
      Routine.report .error .commandLine
        ("Teardown after \"" ++ c.name ++ "\" failed: " ++ e.message)

/-- Run a case by a given routine, keep its result and record it. -/
def runAndRecord (run : Case → Routine σ CaseResult) (sink : Option (ResultSink σ)) (c : Case) :
    Keeping σ CaseResult := do
  let result ← run c
  modify fun kept => kept ++ [result]
  MonadExcept.ofExcept (← recordResult sink c result)
  return result

/-- Run cases in order to their results, each by a given routine. -/
def runInTurn (run : Case → Routine σ CaseResult) (sink : Option (ResultSink σ))
    (teardown : Option (Play σ Unit)) : List Case → Keeping σ (List CaseResult)
  | [] => return []
  | c :: rest => do
    let result ← try runAndRecord run sink c finally tearDown teardown c
    return result :: (← runInTurn run sink teardown rest)

/-- Run cases in order and keep the result of each that was run. -/
def Crew.runCases (crew : Crew σ) (sink : Option (ResultSink σ)) (teardown : Option (Play σ Unit))
    (cases : List Case) : Routine σ (List CaseResult) := do
  let (_, kept) ← (runInTurn crew.runCase sink teardown cases).run.run []
  return kept

/-- Run cases in order to the results of all of them. -/
def Crew.runAll (crew : Crew σ) (sink : Option (ResultSink σ)) (teardown : Option (Play σ Unit))
    (cases : List Case) : Play σ (List CaseResult) := do
  let (outcome, _) ← ((runInTurn crew.runCase sink teardown cases).run.run []).toPlay
  MonadExcept.ofExcept outcome

end

end Playbook
