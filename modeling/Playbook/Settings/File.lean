import Playbook.Input
import Playbook.Json.Reader

/-!
# Settings from a file

A configuration file is named, and must then be there, or is looked for in the base directory under
its usual name, and may then be missing.
-/

namespace Playbook.Settings

/-- The usual name of a configuration file. -/
def usualName : String := "config.json"

/-- The settings that a configuration stands for. -/
def ofValue (switches : Switches) (d : Disk) (base : Path) (raw : Value) : Reading Settings :=
  { outcome := (build switches d.workingDirectory base raw).mapError .settings }

/-- The settings that a configuration file stands for. -/
def fromFile (switches : Switches) (d : Disk) (base p : Path) : Reading Settings := do
  match Json.read (← .text d p) with
  | .error ⟨.tooManyDigits digits, _, _, _⟩ =>
    .refuse (.fault ⟨.value, Number.tooManyDigits digits⟩)
  | .error e => .refuse (.settings (.unreadable p e.message))
  | .ok raw =>
    .report .info .settings ("Loaded configuration from " ++ p.text)
    match raw with
    | .object _ => ofValue switches d base raw
    | _ => .refuse (.settings (.noObject p))

/-- The settings of a run, from a named file or the usual one. -/
def load (switches : Switches) (d : Disk) (base : Path) (named : Option String) :
    Reading Settings := do
  match named.filter fun name => !name.isEmpty with
  | some name =>
    let p := Path.ofText name
    if ← .ofExcept (d.occupied p) then fromFile switches d base p
    else .refuse (.fault ⟨.disk .fileNotFound, "Config file not found: " ++ p.text⟩)
  | none =>
    let p := base.child usualName
    if ← .ofExcept (d.occupied p) then fromFile switches d base p
    else ofValue switches d base (.object [])

end Playbook.Settings
