import Playbook.Text.Digit
import Playbook.Text.Quoted

/-!
# Arguments

The words of the command line are first told apart: a word is an option, written in full or by a
beginning that fits one option only, or it is plain. A bare double dash makes every later word
plain. Then the options are taken in order. An option with a value has it after an equals sign or
takes the next plain word. The plain words that are left name the scripts; they must stand
together.
-/

namespace Playbook.CommandLine

/-- Options that stand alone. -/
inductive Flag where
  | help
  | headed
  | noLogs
  | debug
  deriving DecidableEq, Repr

/-- Options with a value. -/
inductive Setting where
  | config
  | pattern
  | report
  deriving DecidableEq, Repr

/-- The ways to write a flag. -/
def Flag.name : Flag → String
  | .help => "-h/--help"
  | .headed => "--headed"
  | .noLogs => "--no-logs"
  | .debug => "--debug"

/-- The way to write a setting. -/
def Setting.name : Setting → String
  | .config => "--config"
  | .pattern => "--pattern"
  | .report => "--report"

/-- What a word is. -/
inductive Word where
  | plain (written : String)
  | divider
  | flag (flag : Flag) (value : Option String)
  | setting (setting : Setting) (value : Option String)
  /-- It looks like an option, and is none. -/
  | unknown (written : String)
  deriving DecidableEq, Repr

/-- The options that are written with two dashes. -/
def longOptions : List (String × (Option String → Word)) :=
  [("--help", .flag .help), ("--config", .setting .config), ("--pattern", .setting .pattern),
    ("--headed", .flag .headed), ("--no-logs", .flag .noLogs), ("--report", .setting .report),
    ("--debug", .flag .debug)]

/-- Why the command line is refused. -/
inductive Refusal where
  | ambiguous (written : String) (options : List String)
  | needlessValue (flag : Flag) (value : String)
  | missingValue (setting : Setting)
  | unrecognized (words : List String)
  deriving DecidableEq, Repr

/-- The wording of a refusal. -/
def Refusal.message : Refusal → String
  | .ambiguous written options =>
    "ambiguous option: " ++ written ++ " could match " ++ ", ".intercalate options
  | .needlessValue flag value =>
    "argument " ++ flag.name ++ ": ignored explicit argument " ++ Text.quoted value
  | .missingValue setting => "argument " ++ setting.name ++ ": expected one argument"
  | .unrecognized words => "unrecognized arguments: " ++ " ".intercalate words

namespace Word

/-- A number without its sign: digits, with a point in front of some or all of them. A line feed
at the end does not count. -/
def isNumber (cs : List Char) : Bool :=
  let cs := if cs.getLast? = some '\n' then cs.dropLast else cs
  let whole := cs.takeWhile Text.isDigit
  match cs.drop whole.length with
  | [] => !whole.isEmpty
  | c :: fraction => c == '.' && !fraction.isEmpty && fraction.all Text.isDigit

/-- The value that is attached to the short option for help. Short options may be written
together; as help ends the reading, what follows it need not be one. -/
def attached? : List Char → Option String
  | [] => none
  | 'h' :: rest => attached? rest
  | '=' :: value => some (String.ofList value)
  | '-' :: rest => some (String.ofList ('-' :: rest))
  | _ :: _ => none

/-- The options that a written name stands for: the one of that name, or else all that start
so. -/
def optionsNamed (name : List Char) : List (String × (Option String → Word)) :=
  match longOptions.find? fun o => o.1.toList == name with
  | some o => [o]
  | none => longOptions.filter fun o => name.isPrefixOf o.1.toList

/-- A word that looks like an option and is none. A negative number and a word with a space are
plain. -/
def ofStray (written : String) : Word :=
  if isNumber (written.toList.drop 1) || written.toList.contains ' ' then .plain written
  else .unknown written

/-- What a word is that comes before any bare double dash. -/
def ofText (written : String) : Except Refusal Word :=
  let cs := written.toList
  match cs with
  | '-' :: 'h' :: rest => .ok (.flag .help (attached? rest))
  | '-' :: '-' :: _ =>
    let value := match cs.dropWhile (· != '=') with
      | [] => none
      | _ :: v => some (String.ofList v)
    match optionsNamed (cs.takeWhile (· != '=')) with
    | [] => .ok (ofStray written)
    | [o] => .ok (o.2 value)
    | os => .error (.ambiguous written (os.map (·.1)))
  | '-' :: _ :: _ => .ok (ofStray written)
  | _ => .ok (.plain written)

end Word

/-- The words of a command line. -/
def readWords : List String → Except Refusal (List Word)
  | [] => .ok []
  | written :: rest =>
    if written = "--" then .ok (.divider :: rest.map .plain)
    else do return (← Word.ofText written) :: (← readWords rest)

/-- What a run is asked for. -/
structure Arguments where
  paths : List String := ["features"]
  config : Option String := none
  patterns : List String := []
  headed : Bool := false
  noLogs : Bool := false
  report : Option String := none
  debug : Bool := false
  deriving DecidableEq, Repr

namespace Arguments

/-- The arguments with a flag. -/
def raise (a : Arguments) : Flag → Arguments
  | .help => a
  | .headed => { a with headed := true }
  | .noLogs => { a with noLogs := true }
  | .debug => { a with debug := true }

/-- The arguments with a setting: patterns add up, and of the others the last counts. -/
def set (a : Arguments) (value : String) : Setting → Arguments
  | .config => { a with config := some value }
  | .pattern => { a with patterns := a.patterns ++ [value] }
  | .report => { a with report := some value }

end Arguments

/-- How far the plain words have been read. -/
inductive Phase where
  | ahead
  | within
  | past
  deriving DecidableEq, Repr

/-- What has been read of the words. -/
structure Progress where
  taken : Arguments := {}
  paths : List String := []
  phase : Phase := .ahead
  /-- Words that have no place. -/
  surplus : List String := []
  deriving DecidableEq, Repr

namespace Progress

/-- Go on past an option: the plain words before it were all. -/
def pass (p : Progress) : Progress :=
  { p with phase := if p.phase = .ahead then .ahead else .past }

/-- Go on past a plain word or, with no paths, past the bare double dash. -/
def collect (p : Progress) (paths : List String) (written : String) : Progress :=
  if p.phase = .past then { p with surplus := p.surplus ++ [written] }
  else { p with phase := .within, paths := p.paths ++ paths }

/-- The arguments when all words are read. -/
def finish (p : Progress) : Except Refusal Arguments :=
  if p.surplus.isEmpty then
    .ok (if p.paths.isEmpty then p.taken else { p.taken with paths := p.paths })
  else .error (.unrecognized p.surplus)

end Progress

/-- What a command line asks for. -/
inductive Request where
  | help
  | run (arguments : Arguments)
  deriving DecidableEq, Repr

/-- Read words after what has been read already. -/
def readOn (p : Progress) : List Word → Except Refusal Request
  | [] => p.finish.map .run
  | .plain written :: rest => readOn (p.collect [written] written) rest
  | .divider :: rest => readOn (p.collect [] "--") rest
  | .unknown written :: rest =>
    readOn { p.pass with surplus := p.surplus ++ [written] } rest
  | .flag flag (some value) :: _ => .error (.needlessValue flag value)
  | .flag .help none :: _ => .ok .help
  | .flag flag none :: rest => readOn { p.pass with taken := p.taken.raise flag } rest
  | .setting setting (some value) :: rest =>
    readOn { p.pass with taken := p.taken.set value setting } rest
  | .setting setting none :: .plain value :: rest =>
    readOn { p.pass with taken := p.taken.set value setting } rest
  | .setting setting none :: _ => .error (.missingValue setting)

/-- Read a command line. -/
def Request.read (written : List String) : Except Refusal Request := do
  readOn {} (← readWords written)

end Playbook.CommandLine
