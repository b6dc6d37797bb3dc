import Playbook.Value.Display

/-!
# Failures

What can go wrong while a script runs, as causes; `message` words them. A fault comes from outside
the program: from the browser, the file system, a predicate. An action error is the one kind of
failure that an action has: it may wrap a fault, and it may name the artifacts that were taken when
it happened.
-/

namespace Playbook

/-- Kinds of refusal by the file system. -/
inductive DiskFaultKind where
  | general
  | fileExists
  | fileNotFound
  | notADirectory
  | isADirectory
  deriving DecidableEq, Repr

/-- Kinds of fault that come from outside. -/
inductive FaultKind where
  | timeout
  | browser
  | assertion
  | runtime
  | value
  | unsupported
  | disk (kind : DiskFaultKind)
  deriving DecidableEq, Repr

/-- The name of a kind of fault, which stands in for an empty message. -/
def FaultKind.name : FaultKind → String
  | .timeout => "TimeoutError"
  | .browser => "Error"
  | .assertion => "AssertionError"
  | .runtime => "RuntimeError"
  | .value => "ValueError"
  | .unsupported => "NotImplementedError"
  | .disk .general => "OSError"
  | .disk .fileExists => "FileExistsError"
  | .disk .fileNotFound => "FileNotFoundError"
  | .disk .notADirectory => "NotADirectoryError"
  | .disk .isADirectory => "IsADirectoryError"

/-- Whether a kind of fault is a refusal by the file system. -/
def FaultKind.isDisk : FaultKind → Bool
  | .disk _ => true
  | .timeout | .browser | .assertion | .runtime | .value | .unsupported => false

/-- A fault with its message. -/
structure Fault where
  kind : FaultKind
  message : String
  deriving DecidableEq, Repr

/-- Why an action failed. -/
inductive ActionCause where
  /-- The action was given too few parameters; `index` counts from zero. -/
  | missingParameter (index : Nat) (label : String)
  /-- An item count is not written in digits. -/
  | badCount (written : String)
  /-- No rule knows the action. -/
  | unknownAction (action : String)
  /-- The password came before the user name. -/
  | usernameMissing
  /-- Checkout went on before all customer details were entered. -/
  | detailsMissing
  /-- A fault from outside. -/
  | wrapped (fault : Fault)
  /-- A failure that was reported as an action error by the page itself. -/
  | reported (message : String)
  deriving DecidableEq, Repr

/-- The wording of a cause. A fault without a message is named instead. -/
def ActionCause.message : ActionCause → String
  | .missingParameter index label =>
    "Action requires parameter #" ++ toString (index + 1) ++ " (" ++ label ++ ")"
  | .badCount written => "Item count must be a non-negative integer, got '" ++ written ++ "'"
  | .unknownAction action => "Unknown action: " ++ action
  | .usernameMissing => "Username was not entered before the password."
  | .detailsMissing => "Not all customer details were entered before continuing checkout."
  | .wrapped f =>
    if f.kind = .timeout then "Timed out waiting for the page: " ++ f.message
    else if f.message.isEmpty then f.kind.name
    else f.message
  | .reported message => message

/-- The failure of an action, with the artifacts taken when it happened. -/
structure ActionError where
  cause : ActionCause
  screenshot : Option String := none
  video : Option String := none
  deriving DecidableEq, Repr

/-- Whatever ends a step. -/
inductive Failure where
  | fault (fault : Fault)
  | action (error : ActionError)
  /-- A step of a kind that cannot be run. -/
  | unknownStep (tag : Value)
  /-- A loop header that names no variable or lists no items. -/
  | invalidLoop (expression : String)
  deriving Repr

/-- The wording of a failure. -/
def Failure.message : Failure → String
  | .fault f => f.message
  | .action e => e.cause.message
  | .unknownStep tag => "Unknown step type: " ++ tag.display
  | .invalidLoop expression => "Invalid loop expression: " ++ expression

/-- Whether it is the file system that refused something. -/
def Failure.isDiskFault : Failure → Bool
  | .fault f => f.kind.isDisk
  | .action _ | .unknownStep _ | .invalidLoop _ => false

/-- The screenshot that a failure names. -/
def Failure.screenshot? : Failure → Option String
  | .action e => e.screenshot
  | _ => none

/-- The video that a failure names. -/
def Failure.video? : Failure → Option String
  | .action e => e.video
  | _ => none

end Playbook
