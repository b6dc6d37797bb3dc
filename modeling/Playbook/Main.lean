import Playbook.Browser.Rehearsal
import Playbook.CommandLine.Program

/-!
# The command line

The program as a command. The working directory, and what the arguments name outside of it, is
read before the run, and what the run changed is written back after it. The browser is a rehearsal
that answers every call at once with an empty page.
-/

namespace Playbook.CommandLine

open Browser

/-- What is at a directory entry and below it, as far as it can be read. A link to a directory is
not followed. -/
partial def entriesFrom (e : IO.FS.DirEntry) : IO (List (Location × Entry)) := do
  let location := (Path.ofText e.path.toString).parts
  try
    match (← e.path.symlinkMetadata).type, (← e.path.metadata).type with
    | .dir, _ =>
      let below ← (← e.path.readDir).toList.mapM entriesFrom
      return (location, .directory) :: below.flatten
    | _, .file => return [(location, .file (← IO.FS.readBinFile e.path))]
    | _, _ => return []
  catch _ => return []

/-- What is at a location and below it. -/
def entriesAt (l : Location) : IO (List (Location × Entry)) :=
  match l.getLast? with
  | none => return []
  | some name => entriesFrom { root := (Path.ofLocation l.dropLast).text, fileName := name }

/-- The directories above a location. -/
def directoriesAbove (l : Location) : List (Location × Entry) :=
  (List.range l.length).tail.map fun n => (l.take n, .directory)

/-- The disk as far as a run with arguments reads it. -/
def readDisk (a : Arguments) : IO Disk := do
  let workingDirectory := (Path.ofText (← IO.currentDir).toString).parts
  let named := a.paths ++ a.config.toList
  let outside := (named.map fun p => (Path.ofText p).resolve workingDirectory).filter
    fun l => !workingDirectory.isPrefixOf l
  let places := workingDirectory :: outside
  let read ← places.mapM entriesAt
  let above := places.flatMap directoriesAbove
  return { workingDirectory, entries := above.eraseDups ++ read.flatten }

/-- Write back what a run has changed. -/
def writeDisk (before after : Disk) : IO Unit :=
  after.entries.forM fun f => do
    if before.entry? f.1 != some f.2 then
      let path := (Path.ofLocation f.1).text
      match f.2 with
      | .directory => IO.FS.createDirAll path
      | .file content => IO.FS.writeBinFile path content

/-- The time of the clock: that of a file just made. -/
def readClock : IO Moment := do
  let (_, path) ← IO.FS.createTempFile
  let made := (← path.metadata).modified
  IO.FS.removeFile path
  let epoch := Moment.daysBeforeYear 1970 * Moment.microsPerDay
  return .ofMicros (epoch + made.sec.toNat * 1000000)

/-- The line of the log that shows an entry. -/
def logLine (e : LogEntry) : String :=
  e.level.name ++ " | " ++ e.source.name ++ " | " ++ e.text

/-- The exit code of an ending, and the complaint of one that has none of its own. -/
def Ending.code : Ending → UInt32 × String
  | .exit code => (code.toUInt32, "")
  | .failure e => (1, e.message ++ "\n")
  | .unusable (.fault f) => (1, f.message ++ "\n")
  | .unusable (.settings e) => (1, e.message ++ "\n")
  | .unusable (.script e) => (1, e.message ++ "\n")
  | .unusable .undecodable => (1, "a file is not written in UTF-8\n")

/-- Run the program on the machine. -/
def command (written : List String) : IO UInt32 := do
  let arguments := match Request.read written with
    | .ok (.run a) => a
    | _ => {}
  let switches : Settings.Switches :=
    { ci := ← IO.getEnv "CI", headless := ← IO.getEnv "KEYWORD_RUNNER_HEADLESS" }
  let disk ← readDisk arguments
  let o := start switches Rehearsal.outside written { outside := { now := ← readClock }, disk }
  writeDisk disk o.stage.world.disk
  let (code, complaint) := o.ending.code
  o.stage.log.forM fun e => IO.eprintln (logLine e)
  IO.eprint (o.complaint ++ complaint)
  IO.print o.output
  return code

end Playbook.CommandLine

/-- Run the command. -/
def main (written : List String) : IO UInt32 := Playbook.CommandLine.command written
