import Playbook.Browser.Session

/-!
# Attempts

What a session does to close something is to try a call, whatever becomes of it, and to tell of it
in the log. `Outside.attempts` says what becomes of calls that are tried one after another and
`Rig.tried` what they leave; a routine that does nothing else but try calls (`Rig.Tries`) leaves
exactly that.
-/

namespace Playbook

open Browser

variable {α β γ : Type}

/-- What a call that closes something is called in the log. -/
def Browser.Call.stageName : Call → String
  | .closePage _ => "page close"
  | .saveVideo _ _ => "video save"
  | .saveTrace _ _ => "trace save"
  | .closeContext _ => "context close"
  | .closeBrowser _ => "browser close"
  | .stopDriver _ => "playwright stop"
  | c => c.label

/-- A call that was tried, and the mishap if there was one. -/
structure Attempt where
  call : Call
  mishap : Option Mishap

namespace Attempt

/-- An attempt among all exchanges. -/
def exchange (a : Attempt) : Exchange := ⟨a.call, a.mishap.isNone⟩

/-- The error in the log about an attempt that failed. -/
def complaint? (a : Attempt) : Option LogEntry :=
  a.mishap.map fun m =>
    ⟨.error, .session,
      "Session teardown failed at " ++ a.call.stageName ++ ": " ++ m.failure.message⟩

/-- What the log tells of an attempt to close something: an error if it failed, and where a video
was saved. -/
def told (a : Attempt) : Log :=
  match a.complaint?, a.call with
  | some entry, _ => [entry]
  | none, .saveVideo _ path => [⟨.info, .session, "Video saved to " ++ path.text⟩]
  | none, _ => []

private theorem countP_told (a : Attempt) :
    a.told.countP (·.level == .error) = if a.mishap.isSome then 1 else 0 := by
  rcases a with ⟨call, mishap⟩
  cases mishap with
  | some m => rfl
  | none => cases call <;> rfl

/-- The log tells as many errors as attempts failed. -/
theorem countP_flatMap_told (attempts : List Attempt) :
    (attempts.flatMap told).countP (·.level == .error) = attempts.countP (·.mishap.isSome) := by
  induction attempts with
  | nil => rfl
  | cons a attempts ih =>
    simp only [List.flatMap_cons, List.countP_append, countP_told, ih, List.countP_cons]
    omega

end Attempt

namespace Outside

variable (outside : Outside β)

/-- A call that is tried, and what is outside afterwards. -/
def attempt (c : Call) (b : β) : Attempt × β :=
  match outside.answer c b with
  | (.ok _, b) => (⟨c, none⟩, b)
  | (.error m, b) => (⟨c, some m⟩, b)

/-- Calls that are tried one after another, whatever becomes of each of them. -/
def attempts : List Call → β → List Attempt × β
  | [], b => ([], b)
  | c :: rest, b =>
    let first := outside.attempt c b
    let later := attempts rest first.2
    (first.1 :: later.1, later.2)

private theorem call_attempt (c : Call) (b : β) : (outside.attempt c b).1.call = c := by
  unfold attempt
  split
  · rfl
  · rfl

/-- Every call is tried once, in order. -/
theorem call_attempts (calls : List Call) (b : β) :
    (outside.attempts calls b).1.map Attempt.call = calls := by
  induction calls generalizing b with
  | nil => rfl
  | cons c calls ih => simp only [attempts, List.map_cons, call_attempt, ih]

private theorem attempts_append (calls more : List Call) (b : β) :
    outside.attempts (calls ++ more) b =
      ((outside.attempts calls b).1 ++ (outside.attempts more (outside.attempts calls b).2).1,
        (outside.attempts more (outside.attempts calls b).2).2) := by
  induction calls generalizing b with
  | nil => rfl
  | cons c calls ih => simp only [List.cons_append, attempts, ih]

end Outside

namespace Rig

variable {rig : Rig β}

/-- The stage after calls that close things were tried. -/
def tried (rig : Rig β) (calls : List Call) (s : Stage (Bench β)) : Stage (Bench β) :=
  let tried := rig.outside.attempts calls s.world.outside
  { s with
    log := s.log ++ tried.1.flatMap Attempt.told
    world :=
      { s.world with
        outside := tried.2
        exchanges := s.world.exchanges ++ tried.1.map Attempt.exchange } }

/-- Where no call is tried, the stage is as it was. -/
theorem tried_nil (rig : Rig β) (s : Stage (Bench β)) : rig.tried [] s = s := by
  simp [tried, Outside.attempts]

/-- Calls are tried after those that were tried before them. -/
theorem tried_append (rig : Rig β) (calls more : List Call) (s : Stage (Bench β)) :
    rig.tried (calls ++ more) s = rig.tried more (rig.tried calls s) := by
  simp [tried, Outside.attempts_append]

/-- A routine that tries some calls, whatever becomes of them, and does nothing else. -/
def Tries (rig : Rig β) (calls : List Call) (r : Routine (Bench β) α) : Prop :=
  ∀ s, (r s).2 = rig.tried calls s

namespace Tries

variable {calls more : List Call} {r : Routine (Bench β) α} {f : α → Routine (Bench β) γ}

/-- What does nothing tries no call. -/
theorem pure (a : α) : rig.Tries [] (Pure.pure a) := by
  intro s
  rw [tried_nil]
  rfl

/-- A sequence tries the calls of its parts, one part after the other. -/
theorem bind (h : rig.Tries calls r) (hf : ∀ a, rig.Tries more (f a)) :
    rig.Tries (calls ++ more) (r >>= f) := by
  intro s
  rw [tried_append, ← h s]
  exact hf (r s).1 (r s).2

end Tries

/-! ### The stages of closing -/

/-- The stage on which a call was made, and the log tells something of it. -/
private def noted (c : Call) (went : Bool) (outside : β) (told : Log) (s : Stage (Bench β)) :
    Stage (Bench β) :=
  { s with
    log := s.log ++ told
    world := { s.world with outside, exchanges := s.world.exchanges ++ [⟨c, went⟩] } }

section

variable {c : Call} {s : Stage (Bench β)} {b : β}

private theorem tried_of_ok {a : c.Reply} (h : rig.outside.answer c s.world.outside = (.ok a, b)) :
    rig.tried [c] s = noted c true b (Attempt.told ⟨c, none⟩) s := by
  simp only [tried, Outside.attempts, Outside.attempt, h, List.flatMap_singleton]
  rfl

private theorem tried_of_error {m : Mishap}
    (h : rig.outside.answer c s.world.outside = (.error m, b)) :
    rig.tried [c] s = noted c false b (Attempt.told ⟨c, some m⟩) s := by
  simp only [tried, Outside.attempts, Outside.attempt, h, List.flatMap_singleton]
  rfl

private theorem closingStage_of_ok {a : c.Reply}
    (h : rig.outside.answer c s.world.outside = (.ok a, b)) :
    rig.closingStage c.stageName c s = (true, noted c true b [] s) := by
  simp only [closingStage, bind, StateT.bind, Routine.attempt, call, h, noted, List.append_nil]
  rfl

private theorem closingStage_of_error {m : Mishap}
    (h : rig.outside.answer c s.world.outside = (.error m, b)) :
    rig.closingStage c.stageName c s = (false, noted c false b (Attempt.told ⟨c, some m⟩) s) := by
  simp only [closingStage, bind, StateT.bind, Routine.attempt, call, h]
  rfl

end

/-- A stage of closing tries its call. Where the call goes through, only a saved video is told
of. -/
theorem tries_closingStage {c : Call} (h : Attempt.told ⟨c, none⟩ = []) :
    rig.Tries [c] (rig.closingStage c.stageName c) := by
  intro s
  rcases answer : rig.outside.answer c s.world.outside with ⟨_ | _, b⟩
  · rw [closingStage_of_error answer, tried_of_error answer]
  · rw [closingStage_of_ok answer, tried_of_ok answer, h]

/-- Saving a video is told of. -/
theorem tries_saveVideo (page : Handle) (path : Path) :
    rig.Tries [.saveVideo page path] (do
      if ← rig.closingStage (Call.saveVideo page path).stageName (.saveVideo page path) then
        Routine.report .info .session ("Video saved to " ++ path.text)) := by
  intro s
  rcases answer : rig.outside.answer (.saveVideo page path) s.world.outside with ⟨_ | _, b⟩
  · simp only [bind, StateT.bind, closingStage_of_error answer, tried_of_error answer]
    rfl
  · simp only [bind, StateT.bind, closingStage_of_ok answer, tried_of_ok answer, noted,
      List.append_nil]
    rfl

end Rig

end Playbook
