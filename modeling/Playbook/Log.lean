/-!
# Log

What a run reports while it goes on: entries with a level, the part of the program that speaks,
and a text. A log is a list of entries, oldest first.
-/

namespace Playbook

/-- How much an entry matters. -/
inductive Level where
  | debug
  | info
  | warning
  | error
  deriving DecidableEq, Repr

/-- The part of the program that an entry comes from. -/
inductive Source where
  | script
  | conditions
  | runner
  | actions
  | session
  | recorder
  | settings
  | commandLine
  deriving DecidableEq, Repr

/-- The name that a level is shown by. -/
def Level.name : Level → String
  | .debug => "DEBUG"
  | .info => "INFO"
  | .warning => "WARNING"
  | .error => "ERROR"

/-- The name that a part of the program is shown by. -/
def Source.name : Source → String
  | .script => "parser"
  | .conditions => "conditions"
  | .runner => "executor"
  | .actions => "actions"
  | .session => "session"
  | .recorder => "recorder"
  | .settings => "config"
  | .commandLine => "cli"

/-- One entry of a log. -/
structure LogEntry where
  level : Level
  source : Source
  text : String
  deriving DecidableEq, Repr

/-- Entries, oldest first. -/
abbrev Log := List LogEntry

/-- An entry is shown unless it is a debugging one and those are off. -/
def LogEntry.isShown (debugging : Bool) (e : LogEntry) : Bool :=
  debugging || e.level != .debug

end Playbook
