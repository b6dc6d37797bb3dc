import Playbook.Browser.Bench
import Playbook.Text.Search

/-!
# Rehearsals

A rehearsal stands in for a browser. A plan says what a new page shows and, for calls by their
label, how long they take, what goes wrong with them, and what they change on the page. The clock
stands still but for the time that calls take.
-/

namespace Playbook.Browser

/-- An item of a page, with its price. -/
structure Item where
  text : String
  price : Option String
  deriving DecidableEq, Repr

/-- What a page shows. -/
structure Scene where
  title : Option String := some ""
  texts : List (String × Option String) := []
  counts : List (String × Int) := []
  items : List Item := []
  deriving DecidableEq, Repr

/-- What a call changes on a page: title and items are replaced, texts and counts are added. -/
structure Effect where
  title : Option (Option String) := none
  texts : List (String × Option String) := []
  counts : List (String × Int) := []
  items : Option (List Item) := none
  deriving DecidableEq, Repr

/-- A scene after an effect. -/
def Scene.after (s : Scene) (e : Effect) : Scene :=
  { title := e.title.getD s.title
    texts := e.texts ++ s.texts
    counts := e.counts ++ s.counts
    items := e.items.getD s.items }

/-- What goes wrong with calls of one label. -/
inductive Incident where
  /-- The same mishap every time. -/
  | always (mishap : Mishap)
  /-- A mishap or none for each call in turn, and none afterwards. -/
  | inTurn (mishaps : List (Option Mishap))
  deriving Repr

/-- The mishap of a call after some calls of the same label. -/
def Incident.mishap? (before : Nat) : Incident → Option Mishap
  | .always m => some m
  | .inTurn ms => (ms[before]?).join

/-- How a rehearsal goes. -/
structure Plan where
  scene : Scene := {}
  /-- Microseconds that calls take. -/
  costs : List (String × Int) := []
  incidents : List (String × Incident) := []
  effects : List (String × Effect) := []
  deriving Repr

/-- A rehearsal that is going on. -/
structure Rehearsal where
  plan : Plan := {}
  now : Moment
  /-- The labels of the calls so far. -/
  heard : List String := []
  /-- What the open page shows. -/
  scene : Scene := {}
  /-- The context records videos. -/
  recordsVideo : Bool := false
  deriving Repr

/-- The call acts on a page. -/
def Call.isOnPage : Call → Bool
  | .goto _ _ | .click _ _ | .fill _ _ _ | .awaitVisible _ _ | .readText _ _ | .readTitle _
  | .count _ _ | .readItemText _ _ _ _ | .saveScreenshot _ _ | .closePage _ => true
  | _ => false

namespace Rehearsal

/-- What a page without a fitting item is answered with. -/
def noItem : Mishap := .fault ⟨.timeout, "Timeout 30000ms exceeded."⟩

/-- The answer to a call that nothing goes wrong with. -/
def reply (r : Rehearsal) : (c : Call) → Except Mishap c.Reply
  | .openPage _ => .ok r.recordsVideo
  | .readText _ selector => .ok ((r.scene.texts.lookup selector).getD none)
  | .readTitle _ => .ok r.scene.title
  | .count _ selector => .ok ((r.scene.counts.lookup selector).getD 0)
  | .readItemText _ _ _ containing =>
    match r.scene.items.find? fun i => Text.occursIn containing.toList i.text.toList with
    | some item => .ok item.price
    | none => .error noItem
  | .startDriver => .ok ()
  | .launch _ _ _ => .ok ()
  | .openContext _ _ => .ok ()
  | .startTracing _ => .ok ()
  | .goto _ _ => .ok ()
  | .click _ _ => .ok ()
  | .fill _ _ _ => .ok ()
  | .awaitVisible _ _ => .ok ()
  | .saveScreenshot _ _ => .ok ()
  | .closePage _ => .ok ()
  | .saveVideo _ _ => .ok ()
  | .saveTrace _ _ => .ok ()
  | .closeContext _ => .ok ()
  | .closeBrowser _ => .ok ()
  | .stopDriver _ => .ok ()

/-- The rehearsal after a call that nothing went wrong with. -/
def after (r : Rehearsal) (c : Call) : Rehearsal :=
  match c with
  | .openContext _ videos => { r with recordsVideo := videos.isSome }
  | .openPage _ => { r with scene := r.plan.scene }
  | _ =>
    match c.isOnPage, r.plan.effects.lookup c.label with
    | true, some e => { r with scene := r.scene.after e }
    | _, _ => r

/-- The answer to a call: time passes first, then the call may go wrong. -/
def answer (c : Call) (r : Rehearsal) : Except Mishap c.Reply × Rehearsal :=
  let before := r.heard.count c.label
  let r :=
    { r with
      heard := r.heard ++ [c.label]
      now := r.now.advance ((r.plan.costs.lookup c.label).getD 0) }
  match (r.plan.incidents.lookup c.label).bind (Incident.mishap? before) with
  | some m => (.error m, r)
  | none => ((r.after c).reply c, r.after c)

/-- A rehearsal as the outside of a run. -/
def outside : Outside Rehearsal := { answer, now := fun r => (r.now, r) }

end Rehearsal

end Playbook.Browser
