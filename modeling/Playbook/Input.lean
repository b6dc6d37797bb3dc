import Playbook.Disk.Basic
import Playbook.Log
import Playbook.Script.Parser
import Playbook.Settings.Basic

/-!
# Input from the disk

Scripts and configurations are text files. Whatever keeps one of them from being used is an input
error; reading also reports on the log.
-/

namespace Playbook

/-- Why an input cannot be used. -/
inductive InputError where
  /-- The disk does not give it out, or a search pattern is malformed. -/
  | fault (fault : Fault)
  /-- The bytes are no text. -/
  | undecodable
  /-- The text is no script. -/
  | script (error : Script.ParseError)
  /-- The configuration is of no use. -/
  | settings (error : Settings.Error)

namespace InputError

/-- A text that could not be read. -/
def ofReadError : Disk.ReadError → InputError
  | .fault f => .fault f
  | .undecodable => .undecodable

/-- The message of an error that is reported to the user; there is none for the others, which end
the program. -/
def report? : InputError → Option String
  | .fault f => if f.kind = .disk .fileNotFound then some f.message else none
  | .undecodable => none
  | .script e => some e.message
  | .settings .unnameablePath => none
  | .settings e => some e.message

end InputError

/-- What reading an input comes to. -/
structure Reading (α : Type) where
  outcome : Except InputError α
  log : Log := []

namespace Reading

variable {α β : Type}

/-- Go on with what was read. -/
def bind (r : Reading α) (next : α → Reading β) : Reading β :=
  match r.outcome with
  | .ok a =>
    let s := next a
    { outcome := s.outcome, log := r.log ++ s.log }
  | .error e => { outcome := .error e, log := r.log }

/-- What was read so far is gone on with, and its log stands before that of the rest. -/
instance : Monad Reading where
  pure a := { outcome := .ok a }
  bind := bind

/-- An error. -/
def refuse (e : InputError) : Reading α := { outcome := .error e }

/-- What a disk gives out, or its fault. -/
def ofExcept (r : Except Fault α) : Reading α := { outcome := r.mapError .fault }

/-- Put an entry on the log. -/
def report (level : Level) (source : Source) (text : String) : Reading Unit :=
  { outcome := .ok (), log := [⟨level, source, text⟩] }

/-- The text of a file. -/
def text (d : Disk) (p : Path) : Reading String :=
  { outcome := (d.readText p).mapError .ofReadError }

end Reading

/-- The cases of a script file. -/
def Script.casesIn (d : Disk) (p : Path) : Reading (List Script.Case) := do
  if ← .ofExcept (d.occupied p) then
    let parsed := Script.parse (← .text d p)
    { outcome := parsed.outcome.mapError .script, log := parsed.log }
  else .refuse (.fault ⟨.disk .fileNotFound, "Script file not found: " ++ p.text⟩)

end Playbook
