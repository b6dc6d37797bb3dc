import Playbook.Script.Keyword
import Playbook.Script.Literal
import Playbook.Script.Step
import Playbook.Text.Word

/-!
# Script lines

What one line of a script says. A line that starts with a keyword in its full form is a step of
that kind without children; every other line is an action. In a script, blank lines and comments
say nothing, and a header opens a test case.
-/

namespace Playbook.Script

/-- The words after a keyword that needs some: at least one blank and then the rest of the line,
which must not run over a line feed. -/
def wordsAfter? (k : Keyword) (cs : List Char) : Option (List Char) := do
  let cs ← k.drop? cs
  let cs ← dropBlanks? cs
  if cs.isEmpty || cs.contains '\n' then none else some cs

/-- The condition of a line that opens another branch: none when the keyword is the whole line. -/
def branch? (cs : List Char) : Option (Option (List Char)) := do
  let rest ← Keyword.elseWord.drop? cs
  match rest with
  | [] => some none
  | rest =>
    let rest ← dropBlanks? rest
    let condition ← wordsAfter? .ifWord rest
    some (some condition)

/-- A text starts with a keyword that ends a word; what follows it does not matter. -/
def closes (k : Keyword) (cs : List Char) : Bool :=
  match k.drop? cs with
  | none => false
  | some [] => true
  | some (c :: _) => !Text.isWordChar c

/-- The step that a line without blanks at its ends says. -/
def stepOfChars (cs : List Char) : Step :=
  match wordsAfter? .ifWord cs with
  | some condition => .ifBlock (String.ofList condition) []
  | none =>
  match branch? cs with
  | some condition => .elseBranch (condition.map String.ofList) []
  | none =>
  if closes .endIf cs then .endIf else
  match wordsAfter? .forEach cs with
  | some header => .loop (String.ofList header) []
  | none =>
  if closes .endLoop cs then .endLoop else
  let e := extract (String.ofList cs)
  .action e.template e.parameters

/-- The step that a line says. -/
def Step.ofLine (line : String) : Step :=
  stepOfChars (Text.trim line.toList)

/-- The name of the test case that a line opens. -/
def header? (cs : List Char) : Option String :=
  match Keyword.test.drop? cs with
  | some (':' :: name) => some (String.ofList (Text.trim name))
  | _ => none

/-- What a line of a script says, once the blanks at its ends are gone. -/
inductive Line where
  /-- Nothing: a blank line or a comment. -/
  | silent
  /-- The start of a test case. -/
  | header (name : String)
  /-- A step of the open test case. -/
  | step (step : Step)
  deriving Repr, Inhabited

/-- Read a line without blanks at its ends. -/
def Line.ofChars (cs : List Char) : Line :=
  if cs.isEmpty || cs.head? == some '#' then .silent
  else
    match header? cs with
    | some name => .header name
    | none => .step (stepOfChars cs)

end Playbook.Script
