import Playbook.Glob.Search
import Playbook.Text.Order

/-!
# Discovery of scripts

Arguments name script files, or directories in which the scripts are searched for. What one
directory contributes is sorted by the parts of its path; what an earlier argument has contributed
is not listed again.
-/

namespace Playbook

/-- Paths in the order of their parts. -/
def Path.le (p q : Path) : Bool := Text.lexicographic Text.order p.parts q.parts != .gt

/-- The members of a list that are not in another, each once, in order. -/
def unlisted (found : List Path) : List Path → List Path
  | [] => []
  | p :: rest =>
    if found.contains p then unlisted found rest else p :: unlisted (found ++ [p]) rest

namespace Discovery

/-- The files below a directory that match a pattern, sorted. -/
def inDirectory (d : Disk) (patterns : List String) (p : Path) : Except Fault (List Path) := do
  let found ← patterns.mapM fun pattern => do
    (← (← Glob.Pattern.ofText pattern).below d p).filterM d.isFile
  return (unlisted [] found.flatten).mergeSort Path.le

/-- What one argument contributes. -/
def candidates (d : Disk) (patterns : List String) (argument : String) :
    Except Fault (List Path) := do
  let p := Path.ofText argument
  if ← d.isFile p then return [p]
  else if ← d.isDirectory p then inDirectory d patterns p
  else throw ⟨.disk .fileNotFound, "Script path not found: " ++ p.text⟩

/-- The scripts that arguments name, after those found already. -/
def scriptsAfter (d : Disk) (patterns : List String) (found : List Path) :
    List String → Except Fault (List Path)
  | [] => .ok found
  | argument :: rest => do
    let more ← candidates d patterns argument
    scriptsAfter d patterns (found ++ unlisted found more) rest

/-- The scripts that arguments name. -/
def scripts (d : Disk) (patterns : List String) (arguments : List String) :
    Except Fault (List Path) :=
  scriptsAfter d patterns [] arguments

/-- The patterns of scripts, unless others are given. -/
def standardPatterns : List String := ["*.feature", "*.txt"]

end Discovery

end Playbook
