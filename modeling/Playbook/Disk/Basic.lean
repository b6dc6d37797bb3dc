import Playbook.Disk.Path
import Playbook.Failure
import Playbook.Text.Lines

/-!
# Disks

A disk is a tree of directories and files, kept as the list of what is at which location, together
with the working directory. A path is looked up step by step: every name on the way must be a
directory. Making a directory and writing a file may also be refused for reasons of the disk's
own; `refusals` says which attempts are. What was written before a refusal stays.
-/

namespace Playbook

/-- What is at a location. -/
inductive Entry where
  | directory
  | file (content : ByteArray)
  deriving Inhabited

namespace Entry

/-- The entry is a file. -/
def isFile : Entry → Bool
  | file _ => true
  | directory => false

/-- The entry is a directory. -/
def isDirectory : Entry → Bool
  | directory => true
  | file _ => false

/-- Files are the same when their contents are. -/
instance : DecidableEq Entry
  | directory, directory => isTrue rfl
  | directory, file _ => isFalse nofun
  | file _, directory => isFalse nofun
  | file a, file b =>
    if h : a.data = b.data then isTrue (congrArg file (ByteArray.ext h))
    else isFalse fun e => h (congrArg ByteArray.data (Entry.file.inj e))

end Entry

/-- Entries by location; the root is a directory without an entry. -/
structure Disk where
  workingDirectory : Location := []
  entries : List (Location × Entry) := []
  /-- The attempts to write that are refused, counted from zero. -/
  refusals : Nat → Option Fault := fun _ => none
  /-- How many attempts to write there were. -/
  attempts : Nat := 0

namespace Disk

/-- Writing on a disk. -/
abbrev Writing := EStateM Fault Disk

/-- The longest name, in bytes. -/
def nameLimit : Nat := 255

/-- The longest written path, in bytes. -/
def pathLimit : Nat := 4095

/-- The number and the words of a kind of refusal. -/
def refusalText : DiskFaultKind → String
  | .general => "[Errno 36] File name too long"
  | .fileExists => "[Errno 17] File exists"
  | .fileNotFound => "[Errno 2] No such file or directory"
  | .notADirectory => "[Errno 20] Not a directory"
  | .isADirectory => "[Errno 21] Is a directory"

/-- The refusal of a path. -/
def refusal (p : Path) (kind : DiskFaultKind) : Fault :=
  ⟨.disk kind, refusalText kind ++ ": " ++ Text.quoted p.text⟩

/-- What is at a location. -/
def entry? (d : Disk) (l : Location) : Option Entry :=
  if l = [] then some .directory else (d.entries.find? (·.1 == l)).map (·.2)

/-- Put an entry at a location, in place of the one that is there. -/
def putEntry (l : Location) (e : Entry) :
    List (Location × Entry) → List (Location × Entry)
  | [] => [(l, e)]
  | f :: rest => if f.1 == l then (l, e) :: rest else f :: putEntry l e rest

/-- The disk with an entry at a location. -/
def put (d : Disk) (l : Location) (e : Entry) : Disk :=
  { d with entries := putEntry l e d.entries }

/-- One step on the way to a path. -/
def step (d : Disk) (l : Location) (part : String) : Except DiskFaultKind Location :=
  match d.entry? l with
  | none => .error .fileNotFound
  | some (.file _) => .error .notADirectory
  | some .directory =>
    if part.utf8ByteSize ≤ nameLimit then .ok (Path.follow l part) else .error .general

/-- The location of a path; there may be nothing at it yet. -/
def locate (d : Disk) (p : Path) : Except DiskFaultKind Location :=
  if p.text.utf8ByteSize ≤ pathLimit then
    p.parts.foldlM d.step (p.origin d.workingDirectory)
  else .error .general

/-- What is at a path. A path that leads nowhere has nothing; one that is too long is refused. -/
def stat (d : Disk) (p : Path) : Except Fault (Option Entry) :=
  if p.isNameable then
    match d.locate p with
    | .ok l => .ok (d.entry? l)
    | .error .general => .error (refusal p .general)
    | .error _ => .ok none
  else .ok none

/-- There is something at a path. -/
def occupied (d : Disk) (p : Path) : Except Fault Bool := (d.stat p).map Option.isSome

/-- There is a file at a path. -/
def isFile (d : Disk) (p : Path) : Except Fault Bool :=
  (d.stat p).map fun e => e.any Entry.isFile

/-- There is a directory at a path. -/
def isDirectory (d : Disk) (p : Path) : Except Fault Bool :=
  (d.stat p).map fun e => e.any Entry.isDirectory

/-- The location of a path that is to be read or written. -/
def reach (d : Disk) (p : Path) : Except Fault Location :=
  if p.isNameable then (d.locate p).mapError (refusal p)
  else .error ⟨.value, "embedded null byte"⟩

/-- The bytes of a file. -/
def readBytes (d : Disk) (p : Path) : Except Fault ByteArray := do
  match d.entry? (← d.reach p) with
  | some (.file content) => return content
  | some .directory => throw (refusal p .isADirectory)
  | none => throw (refusal p .fileNotFound)

/-- Why a text could not be read. -/
inductive ReadError where
  | fault (fault : Fault)
  /-- The bytes are no text. -/
  | undecodable
  deriving DecidableEq, Repr

/-- The text of a file, every line end a line feed. -/
def readText (d : Disk) (p : Path) : Except ReadError String :=
  match d.readBytes p with
  | .error f => .error (.fault f)
  | .ok bytes =>
    match String.fromUTF8? bytes with
    | some s => .ok (String.ofList (Text.normalizeBreaks s.toList))
    | none => .error .undecodable

/-- Count an attempt to write, which may be refused. -/
def attempt : Writing Unit := fun d =>
  let d' := { d with attempts := d.attempts + 1 }
  match d.refusals d.attempts with
  | some f => .error f d'
  | none => .ok () d'

/-- Make one directory where there is nothing yet. -/
def makeDirectory (p : Path) : Writing Unit := do
  attempt
  let d ← get
  match d.reach p with
  | .error f => throw f
  | .ok l => if (d.entry? l).isSome then throw (refusal p .fileExists) else set (d.put l .directory)

/-- Make one directory unless there is one. -/
def ensureDirectory (p : Path) : Writing Unit := fun d =>
  match makeDirectory p d with
  | .ok () d => .ok () d
  | .error f d =>
    match f.kind with
    | .disk .fileNotFound => .error f d
    | .disk _ =>
      match d.isDirectory p with
      | .ok true => .ok () d
      | .ok false => .error f d
      | .error g => .error g d
    | _ => .error f d

/-- Make a directory and those above it unless they are there. -/
def ensureDirectories (p : Path) : Writing Unit := fun d =>
  match ensureDirectory p d with
  | .ok () d => .ok () d
  | .error f d =>
    if f.kind = .disk .fileNotFound then
      if _nonempty : p.parts = [] then .error f d
      else
        match ensureDirectories p.parent d with
        | .ok () d => ensureDirectory p d
        | .error f d => .error f d
    else .error f d
termination_by p.parts.length
decreasing_by exact Path.length_parent_lt _nonempty

/-- Write a file, in place of what it held. -/
def writeBytes (p : Path) (content : ByteArray) : Writing Unit := do
  attempt
  let d ← get
  match d.reach p with
  | .error f => throw f
  | .ok l =>
    match d.entry? l with
    | some .directory => throw (refusal p .isADirectory)
    | _ => set (d.put l (.file content))

/-- Make an empty file unless there is one. -/
def ensureFile (p : Path) : Writing Unit := do
  attempt
  let d ← get
  match d.reach p with
  | .error f => throw f
  | .ok l =>
    match d.entry? l with
    | none => set (d.put l (.file .empty))
    | some (.file _) => pure ()
    | some .directory => throw (refusal p .isADirectory)

/-- Write a text file. -/
def writeText (p : Path) (content : String) : Writing Unit := writeBytes p content.toUTF8

end Disk

end Playbook
