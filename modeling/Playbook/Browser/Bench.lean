import Playbook.Browser.Call
import Playbook.Disk.Basic
import Playbook.Run.Result
import Playbook.Settings.Basic
import Playbook.Stage

/-!
# The bench

The bench is the world of a run with a browser: what is open in the browser, every call that was
made, the disk, and the results recorded so far. Behind it is an outside that answers calls and
keeps the time; nothing is known of it but its answers.
-/

namespace Playbook

open Browser

/-- What answers calls and keeps the time, with a state of its own. -/
structure Outside (β : Type) where
  answer : (c : Call) → β → Except Mishap c.Reply × β
  now : Clock β

namespace Browser

/-- An open page, and whether it records a video. -/
structure Page where
  handle : Handle
  recordsVideo : Bool
  deriving DecidableEq, Repr

/-- What is open in the browser, and the video that a failure has reserved. The page objects, by
which the pages of the shop are used, are known by the page that they act on. -/
structure Opened where
  driver : Option Handle := none
  browser : Option Handle := none
  context : Option Handle := none
  page : Option Page := none
  pageObjects : Option Page := none
  reservedVideo : Option Path := none
  deriving DecidableEq, Repr

end Browser

/-- The world of a run with a browser. -/
structure Bench (β : Type) where
  outside : β
  disk : Disk := {}
  opened : Opened := {}
  exchanges : List Exchange := []
  recorded : List CaseResult := []
  lastLog : Option Path := none

/-- Settings and the outside that a run works with. -/
structure Rig (β : Type) where
  settings : Settings
  outside : Outside β

namespace Rig

variable {β : Type}

/-- Write on the disk; a refusal is a failure, and what was written before it stays. -/
def onDisk {α : Type} (w : Disk.Writing α) : Play (Bench β) α := fun s =>
  match w s.world.disk with
  | .ok a d => .ok a { s with world := { s.world with disk := d } }
  | .error f d => .error (.fault f) { s with world := { s.world with disk := d } }

/-- The clock of the outside. -/
def clock (rig : Rig β) : Clock (Bench β) := fun b =>
  let (now, outside) := rig.outside.now b.outside
  (now, { b with outside := outside })

/-- Read the clock. -/
def now (rig : Rig β) : Play (Bench β) Moment := (Routine.readClock rig.clock).toPlay

/-- Make a call. -/
def call (rig : Rig β) (c : Call) : Play (Bench β) c.Reply := fun s =>
  let b := s.world
  let (reply, outside) := rig.outside.answer c b.outside
  let made := fun answered =>
    { s with world := { b with outside, exchanges := b.exchanges ++ [⟨c, answered⟩] } }
  match reply with
  | .ok a => .ok a (made true)
  | .error m => .error m.failure (made false)

/-- Make a call that hands something out, by its handle. -/
def obtain (rig : Rig β) (c : Call) : Play (Bench β) (Handle × c.Reply) := do
  let handle := (← get).world.exchanges.length
  return (handle, ← rig.call c)

/-- What is open. -/
def opened : Play (Bench β) Opened := do return (← get).world.opened

/-- Change what is open. -/
def modifyOpened (f : Opened → Opened) : Play (Bench β) Unit :=
  modify fun s => { s with world := { s.world with opened := f s.world.opened } }

end Rig

end Playbook
