import Playbook.Disk.Basic
import Playbook.Glob.NamePattern
import Playbook.Text.Search

/-!
# Searching a directory

A search pattern is a relative path whose parts may be name patterns; two stars as a part stand
for any depth. `Pattern.below` finds what matches anywhere below a directory. Paths are found in
no particular order and may be found more than once.
-/

namespace Playbook.Glob

/-- One part of a search pattern. -/
inductive Selector where
  /-- The directory itself and every directory below it. -/
  | everywhere
  /-- A name that is looked up as it is. -/
  | named (name : String)
  /-- The names that match a pattern. -/
  | like (tokens : List Token)
  /-- A slash at the end: what was found must be a directory. -/
  | here
  deriving DecidableEq, Repr

/-- The selector of a part of a pattern. -/
def Selector.ofPart (part : String) : Except Fault Selector :=
  if part = "**" then .ok .everywhere
  else if Text.occursIn ['*', '*'] part.toList then
    .error ⟨.value, "Invalid pattern: '**' can only be an entire path component"⟩
  else if part.toList.any fun c => c == '*' || c == '?' || c == '[' then
    .ok (.like (tokens part.toList))
  else .ok (.named part)

/-- A pattern for what is below a directory, at any depth. -/
abbrev Pattern := List Selector

/-- Read a pattern. -/
def Pattern.ofText (s : String) : Except Fault Pattern := do
  let p := Path.ofText s
  if p.anchor ≠ .workingDirectory then
    throw ⟨.unsupported, "Non-relative patterns are unsupported"⟩
  let selectors ← p.parts.mapM Selector.ofPart
  return .everywhere :: selectors ++ (if s.toList.getLast? = some '/' then [.here] else [])

/-- A path matches as a part of a pattern: more parts can only follow a directory. -/
def leads (d : Disk) (rest : List Selector) (p : Path) : Except Fault Bool :=
  if rest.isEmpty then d.occupied p else d.isDirectory p

/-- What is below a directory, each entry by the names that lead to it. -/
def descendants (d : Disk) (p : Path) : List (List String × Entry) :=
  match d.locate p with
  | .error _ => []
  | .ok l =>
    d.entries.filterMap fun f =>
      if l.isPrefixOf f.1 && l != f.1 then some (f.1.drop l.length, f.2) else none

/-- The names in a directory. -/
def namesIn (d : Disk) (p : Path) : List String :=
  (descendants d p).filterMap fun f =>
    match f.1 with
    | [name] => some name
    | _ => none

/-- A directory and every directory below it. -/
def directories (d : Disk) (p : Path) : Except Fault (List Path) := do
  let below := ((descendants d p).filter (·.2.isDirectory)).map fun f =>
    { p with parts := p.parts ++ f.1 }
  return p :: (← below.filterM d.isDirectory)

/-- The paths that selectors lead to from a directory. A path that cannot be looked at ends the
search. -/
def select (d : Disk) : List Selector → Path → Except Fault (List Path)
  | [], p => return [p]
  | .here :: _, p => return [p]
  | .everywhere :: rest, p => do
    return (← (← directories d p).mapM (select d rest)).flatten
  | .named name :: rest, p => do
    if ← leads d rest (p.child name) then select d rest (p.child name) else return []
  | .like ts :: rest, p => do
    let matching := (namesIn d p).filter fun name => matchesName ts name.toList
    let found ← (matching.map p.child).filterM (leads d rest)
    return (← found.mapM (select d rest)).flatten

/-- What matches a pattern below a directory. -/
def Pattern.below (pattern : Pattern) (d : Disk) (p : Path) : Except Fault (List Path) := do
  if ← d.isDirectory p then select d pattern p else return []

end Playbook.Glob
