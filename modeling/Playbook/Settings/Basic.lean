import Playbook.Disk.Path
import Playbook.Settings.Schema
import Playbook.Text.Blank
import Playbook.Text.Lowercase

/-!
# Settings

What a run is told about its result log, its artifacts and its browser. Settings are built from a
configuration, which may leave out anything, from two switches in the environment of the process,
and from the directory that relative paths are seen from.
-/

namespace Playbook

namespace Settings

/-- Which tests leave a video. -/
inductive Recording where
  | all
  | failed
  | off
  deriving DecidableEq, Repr

/-- The name of a choice in a configuration. -/
def Recording.name : Recording → String
  | .all => "all"
  | .failed => "failed"
  | .off => "off"

/-- The choice with a name. -/
def Recording.ofName? : String → Option Recording
  | "all" => some .all
  | "failed" => some .failed
  | "off" => some .off
  | _ => none

/-- The log of results. -/
structure ResultLog where
  enabled : Bool := true
  directory : Path := .ofText "test-results/logs"
  deriving DecidableEq, Repr

/-- Screenshots of failures. -/
structure Screenshots where
  enabled : Bool := true
  directory : Path := .ofText "test-results/screenshots"
  deriving DecidableEq, Repr

/-- Videos of tests. -/
structure Videos where
  enabled : Bool := false
  directory : Path := .ofText "test-results/videos"
  recording : Recording := .failed
  deriving DecidableEq, Repr

/-- The browser. -/
structure BrowserOptions where
  headless : Bool := true
  slowMo : Number := .int 50
  tracePath : Option Path := none
  deriving DecidableEq, Repr

/-- Switches in the environment of the process. -/
structure Switches where
  /-- Runs on a build server do not slow the browser down. -/
  ci : Option String := none
  /-- Whether the browser window is hidden. -/
  headless : Option String := none
  deriving DecidableEq, Repr

/-- How a switch is set; one without a visible character is not set. -/
def flag? (s : Option String) : Option Bool := do
  let text := Text.strip (← s)
  if text.isEmpty then none
  else some (["1", "true", "yes", "on"].contains (Text.lowercase text))

/-- Why there are no settings. -/
inductive Error where
  /-- A configuration departs from its shape. -/
  | invalid (violations : List Violation)
  /-- A file is not written in JSON. -/
  | unreadable (path : Path) (detail : String)
  /-- A file holds something else than an object. -/
  | noObject (path : Path)
  /-- A path holds a null character. -/
  | unnameablePath
  deriving Repr

/-- The wording of an error. -/
def Error.message : Error → String
  | .invalid vs => "Invalid configuration: " ++ "; ".intercalate (vs.map Violation.message)
  | .unreadable path detail => "Cannot parse " ++ path.text ++ ": " ++ detail
  | .noObject path => "Configuration in " ++ path.text ++ " must be a JSON object"
  | .unnameablePath => "embedded null byte"

end Settings

/-- The settings of a run. -/
structure Settings where
  log : Settings.ResultLog := {}
  screenshots : Settings.Screenshots := {}
  videos : Settings.Videos := {}
  browser : Settings.BrowserOptions := {}
  deriving DecidableEq, Repr

namespace Settings

/-- A setting of a configuration. -/
def setting? (raw : Value) (sectionName name : String) : Option Value :=
  match raw with
  | .object fields =>
    match Value.field? fields sectionName with
    | some (.object settings) => Value.field? settings name
    | _ => none
  | _ => none

/-- A truth value, or what stands when none is given. -/
def flagOr (standard : Bool) : Option Value → Bool
  | some (.bool b) => b
  | _ => standard

/-- A text, or what stands when none is given. -/
def textOr (standard : String) : Option Value → String
  | some (.text s) => s
  | _ => standard

/-- A number, or what stands when none is given. -/
def numberOr (standard : Number) : Option Value → Number
  | some (.number n) => n
  | _ => standard

/-- A written path seen from a base. -/
def seen (base : Path) (written : String) : Path := base.join (.ofText written)

/-- A written path seen from a base, without double dots. -/
def resolved (workingDirectory : Location) (base : Path) (written : String) : Path :=
  .ofLocation ((seen base written).resolve workingDirectory)

/-- The settings that a conforming configuration stands for, by what its written paths are taken
for. -/
def ofWritten (path : String → Path) (switches : Switches) (raw : Value) : Settings :=
  let directory := fun sectionName name standard =>
    path (textOr standard (setting? raw sectionName name))
  let trace := textOr "" (setting? raw "browser" "tracePath")
  { log :=
      { enabled := flagOr true (setting? raw "logging" "enabled")
        directory := directory "logging" "outputPath" "./test-results/logs" }
    screenshots :=
      { enabled := flagOr true (setting? raw "screenshots" "enabled")
        directory := directory "screenshots" "path" "./test-results/screenshots/" }
    videos :=
      { enabled := flagOr false (setting? raw "videos" "enabled")
        directory := directory "videos" "path" "./test-results/videos/"
        recording :=
          (Recording.ofName? (textOr "" (setting? raw "videos" "recordOn"))).getD .failed }
    browser :=
      { headless :=
          (flag? switches.headless).getD (flagOr true (setting? raw "browser" "headless"))
        slowMo :=
          if flag? switches.ci = some true then .int 0
          else numberOr (.int 50) (setting? raw "browser" "slowMo")
        tracePath := if trace.isEmpty then none else some (path trace) } }

/-- The settings that a conforming configuration stands for. -/
def ofConforming (switches : Switches) (workingDirectory : Location) (base : Path)
    (raw : Value) : Settings :=
  ofWritten (resolved workingDirectory base) switches raw

/-- The paths of settings. -/
def paths (s : Settings) : List Path :=
  [s.log.directory, s.screenshots.directory, s.videos.directory] ++ s.browser.tracePath.toList

/-- The paths of a conforming configuration as they are seen from a base, with their double
dots. -/
def pathsSeen (base : Path) (raw : Value) : List Path := (ofWritten (seen base) {} raw).paths

/-- The settings that a configuration stands for, if it conforms and its paths name something. -/
def build (switches : Switches) (workingDirectory : Location) (base : Path) (raw : Value) :
    Except Error Settings :=
  let vs := violations raw
  if !vs.isEmpty then .error (.invalid vs)
  else if (pathsSeen base raw).all Path.isNameable then
    .ok (ofConforming switches workingDirectory base raw)
  else .error .unnameablePath

end Settings

end Playbook
