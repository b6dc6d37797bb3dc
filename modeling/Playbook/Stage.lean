import Playbook.Environment.Substitute
import Playbook.Failure
import Playbook.Log
import Playbook.Moment

/-!
# Stages, routines and plays

A stage is what a run works on: the variables, the log, and a world that only the run's
collaborators look into. A routine is a computation on a stage that cannot fail; a play may fail,
and what it did to the stage before it failed stays done.
-/

namespace Playbook

/-- The environment of variables, the log and the world of a run. -/
structure Stage (σ : Type) where
  environment : Environment := .empty
  log : Log := []
  world : σ

/-- A computation on a stage that cannot fail. -/
abbrev Routine (σ : Type) := StateM (Stage σ)

/-- A computation on a stage that may fail and keeps what it did. -/
abbrev Play (σ : Type) := EStateM Failure (Stage σ)

/-- A clock: reading it may change the world, as time passes. -/
abbrev Clock (σ : Type) := σ → Moment × σ

namespace Routine

variable {σ : Type}

/-- Put an entry at the end of the log. -/
def report (level : Level) (source : Source) (text : String) : Routine σ Unit :=
  modify fun s => { s with log := s.log ++ [⟨level, source, text⟩] }

/-- Bind a variable. -/
def bindVariable (name : String) (v : Value) : Routine σ Unit :=
  modify fun s => { s with environment := s.environment.set name v }

/-- A text with the values of the bound names it refers to. -/
def substitute (text : String) : Routine σ String := do
  return (← get).environment.substitute text

/-- Read a clock. -/
def readClock (clock : Clock σ) : Routine σ Moment :=
  modifyGet fun s => let (now, world) := clock s.world; (now, { s with world := world })

/-- Run a play and hand out its failure, if it fails. -/
def attempt {α : Type} (p : Play σ α) : Routine σ (Except Failure α) := fun s =>
  match p s with
  | .ok a s => (.ok a, s)
  | .error e s => (.error e, s)

end Routine

/-- A routine is a play that does not fail. -/
def Routine.toPlay {σ α : Type} (r : Routine σ α) : Play σ α := fun s =>
  match r s with
  | (a, s) => .ok a s

namespace Play

variable {σ : Type}

/-- Put an entry at the end of the log. -/
def report (level : Level) (source : Source) (text : String) : Play σ Unit :=
  (Routine.report level source text).toPlay

/-- Bind a variable. -/
def bindVariable (name : String) (v : Value) : Play σ Unit :=
  (Routine.bindVariable name v).toPlay

end Play

end Playbook
