import Playbook.Log
import Playbook.Script.Line
import Playbook.Text.Lines
import Playbook.Text.Quoted

/-!
# Reading scripts

A script is read line by line. The blocks open at a line form a stack of frames, innermost first;
each frame holds the steps read into it so far, and a frame that closes becomes one step of the
frame around it. A branch belongs to its conditional, never to the branch before it: opening one
closes the branch before. Blocks still open where a test case ends are closed there, with a
warning.
-/

namespace Playbook.Script

/-- Why a line cannot stand where it stands. -/
inductive Misplaced where
  /-- A branch or closer, and no block is open. -/
  | noOpenBlock
  /-- A branch or a closer of a conditional, and the innermost open block is a loop. -/
  | insideLoop
  /-- A closer of a loop, and the innermost open block is a conditional. -/
  | insideIf
  deriving DecidableEq, Repr

/-- The wording of a reason; it names the block that the line asks for. -/
def Misplaced.reason : Misplaced → String
  | .noOpenBlock => "no open block to close"
  | .insideLoop => "innermost open block is not if"
  | .insideIf => "innermost open block is not loop"

/-- A line that cannot stand where it stands, with its number from one. -/
structure ParseError where
  lineNumber : Nat
  line : String
  cause : Misplaced
  deriving DecidableEq, Repr

/-- The wording of a parse error. -/
def ParseError.message (e : ParseError) : String :=
  "line " ++ toString e.lineNumber ++ ": " ++ e.cause.reason ++ ": " ++ Text.quoted e.line

/-- An open block with the steps read into it so far. -/
inductive Frame where
  /-- The body of a conditional. -/
  | ifBody (condition : String) (steps : List Step)
  /-- A branch of a conditional, whose earlier children are complete. -/
  | branchBody (condition : String) (children : List Step) (branch : Option String)
      (steps : List Step)
  /-- The body of a loop. -/
  | loopBody (header : String) (steps : List Step)
  deriving Repr, Inhabited

namespace Frame

/-- Put a step at the end of the steps of an open block. -/
def push (s : Step) : Frame → Frame
  | ifBody c steps => ifBody c (steps ++ [s])
  | branchBody c children b steps => branchBody c children b (steps ++ [s])
  | loopBody h steps => loopBody h (steps ++ [s])

/-- The step that a block is once it closes. -/
def close : Frame → Step
  | ifBody c steps => .ifBlock c steps
  | branchBody c children b steps => .ifBlock c (children ++ [.elseBranch b steps])
  | loopBody h steps => .loop h steps

end Frame

/-- A test case being read: the steps complete at its outermost level, and the open blocks,
innermost first. -/
structure OpenCase where
  name : String
  steps : List Step := []
  frames : List Frame := []
  deriving Repr, Inhabited

namespace OpenCase

/-- Put a complete step into the innermost open block. -/
def push (c : OpenCase) (s : Step) : OpenCase :=
  match c.frames with
  | [] => { c with steps := c.steps ++ [s] }
  | f :: rest => { c with frames := f.push s :: rest }

/-- Close the innermost open block, if there is one. -/
def closeInnermost (c : OpenCase) : OpenCase :=
  match c.frames with
  | [] => c
  | f :: rest => { c with frames := rest }.push f.close

/-- Place a step read from a line. -/
def place (c : OpenCase) (s : Step) : Except Misplaced OpenCase :=
  match s.kind, c.frames with
  | .ifBlock, frames => .ok { c with frames := .ifBody (s.text.getD "") [] :: frames }
  | .loop, frames => .ok { c with frames := .loopBody (s.text.getD "") [] :: frames }
  | .elseBranch, [] => .error .noOpenBlock
  | .elseBranch, .loopBody _ _ :: _ => .error .insideLoop
  | .elseBranch, .ifBody condition steps :: rest =>
    .ok { c with frames := .branchBody condition steps s.text [] :: rest }
  | .elseBranch, .branchBody condition children branch steps :: rest =>
    .ok { c with frames :=
      .branchBody condition (children ++ [.elseBranch branch steps]) s.text [] :: rest }
  | .endIf, [] => .error .noOpenBlock
  | .endIf, .loopBody _ _ :: _ => .error .insideLoop
  | .endIf, _ => .ok c.closeInnermost
  | .endLoop, [] => .error .noOpenBlock
  | .endLoop, .loopBody _ _ :: _ => .ok c.closeInnermost
  | .endLoop, _ => .error .insideIf
  | _, _ => .ok (c.push s)

/-- The steps of a test case once open blocks, innermost first, are closed in turn. -/
def closeAll (steps : List Step) : List Frame → List Step
  | [] => steps
  | [f] => steps ++ [f.close]
  | f :: g :: rest => closeAll steps (g.push f.close :: rest)
termination_by frames => frames.length

/-- The test case, its open blocks closed. -/
def finish (c : OpenCase) : Case :=
  ⟨c.name, closeAll c.steps c.frames⟩

/-- What is reported when a test case ends inside blocks. -/
def unclosedWarning (c : OpenCase) : Log :=
  if c.frames.isEmpty then []
  else
    [⟨.warning, .script, "Test case " ++ Text.quoted c.name ++ " ends with " ++
      toString c.frames.length ++ " unclosed block(s); closing them"⟩]

end OpenCase

/-- A script read up to some line. -/
structure Progress where
  done : List Case := []
  current : Option OpenCase := none
  log : Log := []
  deriving Repr, Inhabited

namespace Progress

/-- End the test case being read, if there is one. -/
def closeCase (p : Progress) : Progress :=
  match p.current with
  | none => p
  | some c =>
    { done := p.done ++ [c.finish], current := none, log := p.log ++ c.unclosedWarning }

/-- Read one line, given its number and its characters without blanks at the ends. -/
def line (p : Progress) (number : Nat) (cs : List Char) : Except ParseError Progress :=
  match Line.ofChars cs with
  | .silent => .ok p
  | .header name => .ok { p.closeCase with current := some { name } }
  | .step s =>
    match p.current with
    | none =>
      .ok { p with log := p.log ++ [⟨.debug, .script, "Ignoring line " ++ toString number ++
        " outside of a test case: " ++ String.ofList cs⟩] }
    | some c =>
      match c.place s with
      | .ok c => .ok { p with current := some c }
      | .error cause => .error ⟨number, String.ofList cs, cause⟩

/-- Read lines from a number on, up to the first that cannot stand where it stands. -/
def lines (p : Progress) (number : Nat) : List (List Char) → Progress × Option ParseError
  | [] => (p, none)
  | raw :: rest =>
    match p.line number (Text.trim raw) with
    | .ok p => p.lines (number + 1) rest
    | .error e => (p, some e)

end Progress

/-- What became of a script: its test cases or the first error, and what was reported. -/
structure Parsed where
  outcome : Except ParseError (List Case)
  log : Log

/-- Read a script. -/
def parse (text : String) : Parsed :=
  match Progress.lines {} 1 (Text.splitLines text.toList) with
  | (p, some e) => ⟨.error e, p.log⟩
  | (p, none) => ⟨.ok p.closeCase.done, p.closeCase.log⟩

end Playbook.Script
