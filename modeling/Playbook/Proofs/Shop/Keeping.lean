import Playbook.Proofs.Browser.Artifacts
import Playbook.Proofs.Browser.Closing
import Playbook.Proofs.Run.Lasting
import Playbook.Proofs.Shop.Acting
import Playbook.Run.Recorder

/-!
# What performing keeps

Performing an action, closing a session and recording a result are made of few things: calls,
looks at the clock, reports, bound variables, changes of what is open, directories made. What all
of these keep, performing keeps, whether it goes through or fails (`Rig.Spares.perform`), and so
does closing (`Rig.Spares.close`).
-/

namespace Playbook

open Browser

variable {β : Type}

namespace Shop

/-- Perform an action text, up to the title of the page that it leads to. -/
def performReading (rig : Rig β) (action : String) (parameters : List String) :
    Play (Bench β) (Option String) := do
  let page ← rig.start
  match ← (Routine.attempt (performText rig page action parameters)).toPlay with
  | .error e =>
    failAction rig action (causeOf e)
    return none
  | .ok () => rig.pageTitle

/-- Performing an action text is performing it up to the title, and then keeping the title. -/
theorem perform_eq (rig : Rig β) (action : String) (parameters : List String) :
    perform rig action parameters = (do
      if let some title ← performReading rig action parameters then
        Play.bindVariable "pageTitle" (.text title)) := by
  unfold perform performReading
  simp only [bind_assoc]
  refine bind_congr fun page ↦ bind_congr fun outcome ↦ ?_
  cases outcome with
  | ok _ => rfl
  | error e =>
    simp only [bind_assoc, pure_bind]
    exact (bind_pure_unit).symm

end Shop

/-- A call leaves a stage on which the outside has answered and one more exchange is noted. -/
theorem Rig.call_keeps {rig : Rig β} {P : Stage (Bench β) → Prop} {c : Call}
    (answered : ∀ {s}, P s → ∀ went : Bool,
      P { s with
          world :=
            { s.world with
              outside := (rig.outside.answer c s.world.outside).2
              exchanges := s.world.exchanges ++ [⟨c, went⟩] } }) :
    Keeps P (fun _ ↦ P) (rig.call c) := by
  intro s hs
  unfold Rig.call
  dsimp only
  cases (rig.outside.answer c s.world.outside).1 with
  | ok a => exact answered hs true
  | error m => exact answered hs false

/-- Whatever is written, and however far it gets, it leaves a stage on which the disk changed. -/
theorem Rig.onDisk_keeps {α : Type} {P : Stage (Bench β) → Prop}
    (written : ∀ {s}, P s → ∀ disk, P { s with world := { s.world with disk } })
    (w : Disk.Writing α) : Keeps P (fun _ ↦ P) (Rig.onDisk w) := by
  intro s hs
  unfold Rig.onDisk
  cases w s.world.disk with
  | ok a disk => exact written hs disk
  | error f disk => exact written hs disk

/-- A call fails with the mishap that it is answered with. -/
theorem Rig.exists_mishap_of_call {rig : Rig β} {c : Call} {s t : Stage (Bench β)} {e : Failure}
    (h : rig.call c s = .error e t) :
    ∃ m, (rig.outside.answer c s.world.outside).1 = .error m ∧ e = m.failure := by
  unfold Rig.call at h
  dsimp only at h
  cases answered : (rig.outside.answer c s.world.outside).1 with
  | ok a =>
    rw [answered] at h
    cases h
  | error m =>
    rw [answered] at h
    cases h
    exact ⟨m, rfl, rfl⟩

/-- Writing on the disk fails with a fault. -/
theorem Rig.exists_fault_of_onDisk {α : Type} {w : Disk.Writing α} {s t : Stage (Bench β)}
    {e : Failure} (h : Rig.onDisk w s = .error e t) : ∃ f, e = .fault f := by
  unfold Rig.onDisk at h
  cases hw : w s.world.disk with
  | ok a d =>
    rw [hw] at h
    cases h
  | error f d =>
    rw [hw] at h
    cases h
    exact ⟨f, rfl⟩

/-- Starting a session keeps, and leaves where it breaks off, what its parts do. -/
theorem Rig.start_keeps {rig : Rig β} {P : Stage (Bench β) → Prop}
    {broken : Failure → Stage (Bench β) → Prop}
    (called : ∀ c : Call, c.endsSession = false → Keeps P broken (rig.call c))
    (logged : ∀ {s}, P s → ∀ level source text, P (s.logged level source text))
    (opened : ∀ {s}, P s → ∀ o : Opened, o.reservedVideo = s.world.opened.reservedVideo →
      P { s with world := { s.world with opened := o } })
    (directories : ∀ p, Keeps P broken (Rig.onDisk (Disk.ensureDirectories p))) :
    Keeps P broken rig.start := by
  have obtain_ (c : Call) (hc : c.endsSession = false) : Keeps P broken (rig.obtain c) :=
    .bind (x := get) (fun _ hs ↦ hs) fun _ ↦ .bind (called c hc) fun _ ↦ .pure _
  have modify_ (f : Opened → Opened) (hf : ∀ o, (f o).reservedVideo = o.reservedVideo) :
      Keeps P broken (Rig.modifyOpened f) :=
    fun _ hs ↦ opened hs _ (hf _)
  have report (level : Level) (source : Source) (text : String) :
      Keeps P broken (Play.report level source text) :=
    fun _ hs ↦ logged hs level source text
  refine .bind (x := Rig.opened) (fun _ hs ↦ hs) fun o ↦ ?_
  cases o.pageObjects with
  | some page => exact .pure page
  | none =>
    refine .bind (obtain_ _ rfl) fun driver ↦ .bind (modify_ _ fun _ ↦ rfl) fun _ ↦ ?_
    refine .bind (obtain_ _ rfl) fun browser ↦ .bind (modify_ _ fun _ ↦ rfl) fun _ ↦ ?_
    refine Ensures.optional (directories _) ?_
    refine .bind (obtain_ _ rfl) fun context ↦ .bind (modify_ _ fun _ ↦ rfl) fun _ ↦ ?_
    refine Ensures.optional (called _ rfl) ?_
    refine .bind (obtain_ _ rfl) fun opened ↦ .bind (modify_ _ fun _ ↦ rfl) fun _ ↦ ?_
    exact .bind (report _ _ _) fun _ ↦ Keeps.pure _

/-- A property of stages that none of the things takes away that a rig does in a session that is
open. -/
structure Rig.SparesCalls (rig : Rig β) (P : Stage (Bench β) → Prop) : Prop where
  called : ∀ c : Call, c.endsSession = false → Keeps P (fun _ ↦ P) (rig.call c)
  ticked : ∀ {s}, P s → P (s.ticked rig.clock)
  logged : ∀ {s}, P s → ∀ level source text, P (s.logged level source text)
  directories : ∀ p, Keeps P (fun _ ↦ P) (Rig.onDisk (Disk.ensureDirectories p))

/-- A property of stages that none of the things takes away that a rig does in a session up to its
end, the reservation of a video apart. -/
structure Rig.SparesUse (rig : Rig β) (P : Stage (Bench β) → Prop) : Prop
    extends rig.SparesCalls P where
  opened : ∀ {s}, P s → ∀ o : Opened, o.reservedVideo = s.world.opened.reservedVideo →
    P { s with world := { s.world with opened := o } }

/-- A property of stages that nothing takes away that a rig does for a session. -/
structure Rig.Spares (rig : Rig β) (P : Stage (Bench β) → Prop) : Prop
    extends rig.SparesUse P where
  reserved : ∀ {s}, P s → ∀ o : Opened, P { s with world := { s.world with opened := o } }
  ended : ∀ c : Call, c.endsSession = true → Keeps P (fun _ ↦ P) (rig.call c)

/-- What all calls and all changes of what is open spare, a session does. -/
theorem Rig.Spares.of_called {rig : Rig β} {P : Stage (Bench β) → Prop}
    (called : ∀ c : Call, Keeps P (fun _ ↦ P) (rig.call c))
    (ticked : ∀ {s}, P s → P (s.ticked rig.clock))
    (logged : ∀ {s}, P s → ∀ level source text, P (s.logged level source text))
    (opened : ∀ {s}, P s → ∀ o : Opened, P { s with world := { s.world with opened := o } })
    (directories : ∀ p, Keeps P (fun _ ↦ P) (Rig.onDisk (Disk.ensureDirectories p))) :
    rig.Spares P where
  called c _ := called c
  ticked := ticked
  logged := logged
  opened hs o _ := opened hs o
  directories := directories
  reserved := opened
  ended c _ := called c

/-- Whatever is done for a session, there is a stage. -/
theorem Rig.spares_true (rig : Rig β) : rig.Spares fun _ ↦ True :=
  .of_called (fun _ ↦ call_keeps fun _ _ ↦ trivial) (fun _ ↦ trivial) (fun _ _ _ _ ↦ trivial)
    (fun _ _ ↦ trivial) fun _ ↦ onDisk_keeps (fun _ _ ↦ trivial) _

/-- Whatever is done for a session, the environment is left alone. -/
theorem Rig.spares_environment (rig : Rig β) (e : Environment) :
    rig.Spares fun s ↦ s.environment = e :=
  .of_called (fun _ ↦ call_keeps fun h _ ↦ h) (fun h ↦ h) (fun h _ _ _ ↦ h) (fun h _ ↦ h)
    fun _ ↦ onDisk_keeps (fun h _ ↦ h) _

namespace Rig.SparesCalls

variable {rig : Rig β} {P : Stage (Bench β) → Prop} {broken : Failure → Stage (Bench β) → Prop}

private theorem report (h : rig.SparesCalls P) (level : Level) (source : Source) (text : String) :
    Keeps P broken (Play.report level source text) :=
  fun _ hs ↦ h.logged hs _ _ _

private theorem look : Keeps P broken Rig.opened :=
  fun _ hs ↦ hs

/-- Reading the title keeps what its parts keep, and does not fail. -/
theorem pageTitle (h : rig.SparesCalls P) : Keeps P broken rig.pageTitle := by
  refine .bind look fun o ↦ ?_
  split
  · exact .pure _
  · refine .bind (.attempt (h.called _ rfl)) fun outcome ↦ ?_
    cases outcome with
    | ok title => exact .pure _
    | error e => exact .bind (h.report _ _ _) fun _ ↦ .pure _

/-- Keeping the title keeps what its parts keep, the title among them, and does not fail. -/
theorem keepTitle (h : rig.SparesCalls P) (bound : ∀ {s}, P s → ∀ v, P (s.bound "pageTitle" v)) :
    Keeps P broken (Shop.keepTitle rig) := by
  refine .bind h.pageTitle fun title ↦ ?_
  cases title with
  | none => exact .pure ()
  | some title => exact fun _ hs ↦ bound hs _

/-- Performing an action on the open page keeps what its parts keep, the variables of the action
among them. -/
theorem performText (h : rig.SparesCalls P) (page : Page) (action : String)
    (parameters : List String)
    (bound : ∀ name ∈ Shop.namesOf action parameters, ∀ {s}, P s → ∀ v, P (s.bound name v)) :
    Keeps P (fun _ ↦ P) (Shop.performText rig page action parameters) := by
  have acts : Shop.Acts rig page P P fun _ ↦ P :=
    { called := fun c _ hc ↦ h.called c hc
      complained := fun _ hs ↦ hs
      done := fun hs ↦ hs
      logged := h.logged }
  exact acts.performText action parameters (fun _ _ hs ↦ hs) bound

/-- Finding a stamp keeps what looking at the clock does. -/
theorem stampOr (h : rig.SparesCalls P) (given : Option String) :
    Keeps P broken (rig.stampOr given) := by
  unfold Rig.stampOr
  split
  · exact .pure _
  · exact .bind (x := rig.now) (fun _ hs ↦ h.ticked hs) fun _ ↦ .pure _

section

variable {ready : Stage (Bench β) → Prop} (weaker : ∀ s, ready s → P s)
  (made : rig.settings.screenshots.enabled = true →
    Ensures ready (Rig.onDisk (Disk.ensureDirectories rig.settings.screenshots.directory))
      (fun _ ↦ P) broken)
include weaker made

private theorem takeScreenshot (h : rig.SparesCalls P) {given : Option String} {N : String → Prop}
    (stamped : Ensures P (rig.stampOr given) (fun stamp s ↦ P s ∧ N stamp) broken) :
    Ensures ready (rig.captureScreenshot given)
      (fun taken s ↦ P s ∧ ∀ text ∈ taken, ∃ stamp, N stamp ∧ text =
        (rig.settings.screenshots.directory.join
          (.ofText ("error-step-" ++ stamp ++ ".png"))).text) broken := by
  refine Ensures.bind look fun o ↦ ?_
  split
  · exact .pure _ fun s hs ↦ ⟨weaker s hs, nofun⟩
  · dsimp only
    split
    · exact .pure _ fun s hs ↦ ⟨weaker s hs, nofun⟩
    · next enabled =>
      have enabled : rig.settings.screenshots.enabled = true := by simpa using enabled
      refine .bind (made enabled) fun _ ↦ .bind stamped fun stamp ↦ .of_and fun named ↦ ?_
      refine .bind (Keeps.attempt (h.called _ rfl)) fun outcome ↦ ?_
      cases outcome with
      | ok _ =>
        refine .bind (h.report _ _ _) fun _ ↦ .pure _ fun _ hs ↦ ⟨hs, fun _ taken ↦ ?_⟩
        exact ⟨stamp, named, (Option.mem_some_iff.mp taken).symm⟩
      | error e => exact .bind (h.report _ _ _) fun _ ↦ .pure _ fun _ hs ↦ ⟨hs, nofun⟩

/-- Taking a screenshot keeps what its parts keep, once its directory is made. -/
theorem captureScreenshot_of_made (h : rig.SparesCalls P) (given : Option String) :
    Ensures ready (rig.captureScreenshot given) (fun _ ↦ P) broken := by
  have stamped : Ensures P (rig.stampOr given) (fun _ s ↦ P s ∧ True) broken :=
    Ensures.weaken (h.stampOr given) (fun _ hs ↦ hs) (fun _ _ hs ↦ ⟨hs, trivial⟩) fun _ _ hs ↦ hs
  exact Ensures.weaken (h.takeScreenshot weaker made stamped) (fun _ hs ↦ hs) (fun _ _ hs ↦ hs.1)
    fun _ _ hs ↦ hs

end

/-- Taking a screenshot keeps what its parts keep. -/
theorem captureScreenshot (h : rig.SparesCalls P)
    (directories : ∀ p, Keeps P broken (Rig.onDisk (Disk.ensureDirectories p)))
    (given : Option String) : Keeps P broken (rig.captureScreenshot given) :=
  h.captureScreenshot_of_made (fun _ hs ↦ hs) (fun _ ↦ directories _) given

/-- A screenshot that is taken at a moment is named by it. -/
theorem captureScreenshot_named (h : rig.SparesCalls P)
    (directories : ∀ p, Keeps P broken (Rig.onDisk (Disk.ensureDirectories p))) (m : Moment) :
    Ensures P (rig.captureScreenshot (some m.stamp))
      (fun taken s ↦ P s ∧ ∀ text ∈ taken, text = (rig.screenshotPath m).text) broken := by
  have path : (rig.screenshotPath m).text = (rig.settings.screenshots.directory.join
      (.ofText ("error-step-" ++ m.stamp ++ ".png"))).text := by
    rw [Rig.screenshotPath, Path.named]
  have stamped : Ensures P (rig.stampOr (some m.stamp)) (fun stamp s ↦ P s ∧ stamp = m.stamp)
      broken := by
    rw [rig.stampOr_stamp]
    exact .pure _ fun _ hs ↦ ⟨hs, rfl⟩
  rw [path]
  -- what the stamp is made of does not matter from here on
  generalize m.stamp = stamp at stamped ⊢
  refine Ensures.weaken (h.takeScreenshot (fun _ hs ↦ hs) (fun _ ↦ directories _) stamped)
    (fun _ hs ↦ hs) ?_ fun _ _ hs ↦ hs
  rintro taken s ⟨hs, named⟩
  refine ⟨hs, fun text taken ↦ ?_⟩
  obtain ⟨stamp, same, named⟩ := named text taken
  rw [named, same]

end Rig.SparesCalls

/-- Starting a session keeps what its parts keep. -/
theorem Rig.SparesUse.start {rig : Rig β} {P : Stage (Bench β) → Prop} (h : rig.SparesUse P) :
    Keeps P (fun _ ↦ P) rig.start :=
  Rig.start_keeps h.called h.logged h.opened h.directories

namespace Rig.Spares

variable {rig : Rig β} {P : Stage (Bench β) → Prop}

/-- Reserving a video keeps what its parts keep, and does not fail. -/
theorem reserveFailureVideo (h : rig.Spares P) {broken : Failure → Stage (Bench β) → Prop}
    (stamp : Option String) : Keeps P broken (rig.reserveFailureVideo stamp) := by
  refine .bind (x := Rig.opened) (fun _ hs ↦ hs) fun o ↦ ?_
  dsimp only
  split
  · exact .pure _
  · split
    · exact .pure _
    · exact .bind (h.stampOr stamp) fun _ ↦ .bind (fun _ hs ↦ h.reserved hs _) fun _ ↦ .pure _

/-- Telling of a failure keeps what its parts keep, and fails. -/
theorem failAction (h : rig.Spares P) (action : String) (cause : ActionCause) :
    Ensures P (Shop.failAction rig action cause) (fun _ _ ↦ False) fun _ ↦ P := by
  refine Shop.failAction_of_capture (P := P) h.logged h.ticked (fun stamp ↦ ?_) action
  refine .bind (h.captureScreenshot h.directories stamp) fun _ ↦ ?_
  exact .bind (h.reserveFailureVideo stamp) fun _ _ hs ↦ hs

/-- Performing an action up to the title keeps what its parts keep, the variables of the action
among them. -/
theorem performReading (h : rig.Spares P) (action : String) (parameters : List String)
    (bound : ∀ name ∈ Shop.namesOf action parameters, ∀ {s}, P s → ∀ v, P (s.bound name v)) :
    Keeps P (fun _ ↦ P) (Shop.performReading rig action parameters) := by
  refine .bind h.start fun page ↦ ?_
  refine .bind (.attempt (h.performText page action parameters bound)) fun outcome ↦ ?_
  cases outcome with
  | ok _ => exact h.pageTitle
  | error e => exact Ensures.bind (h.failAction action _) fun _ _ gone ↦ gone.elim

/-- Performing keeps what its parts keep, all variables among them. -/
theorem perform (h : rig.Spares P) (bound : ∀ {s}, P s → ∀ name v, P (s.bound name v))
    (action : String) (parameters : List String) :
    Keeps P (fun _ ↦ P) (Shop.perform rig action parameters) := by
  rw [Shop.perform_eq]
  refine .bind (h.performReading action parameters fun name _ _ hs v ↦ bound hs name v)
    fun title ↦ ?_
  cases title with
  | none => exact .pure ()
  | some title => exact fun _ hs ↦ bound hs _ _

/-- A crew of the rig keeps through a case what the rig and the predicates keep. -/
theorem maintains (h : rig.Spares P) (bound : ∀ {s}, P s → ∀ name v, P (s.bound name v))
    {conditions : Registry (Bench β)}
    (tested : ∀ p ∈ conditions.entries, ∀ argument, Keeps P (fun _ ↦ P) (p.2 argument)) :
    (Shop.crew rig conditions).Maintains P P where
  going := ⟨h.ticked, h.logged, bound⟩
  gone := ⟨h.ticked, h.logged, bound⟩
  weaker hs := hs
  perform := h.perform bound
  conditions := tested

/-! ### Closing -/

/-- What a routine leaves in place. -/
private abbrev Leaves {α : Type} (P : Stage (Bench β) → Prop) (r : Routine (Bench β) α) : Prop :=
  ∀ s, P s → P (r s).2

private theorem Leaves.bind {α γ : Type} {r : Routine (Bench β) α} {f : α → Routine (Bench β) γ}
    (hr : Leaves P r) (hf : ∀ a, Leaves P (f a)) : Leaves P (r >>= f) :=
  fun s hs ↦ hf _ _ (hr s hs)

private theorem leaves_attempt {α : Type} {p : Play (Bench β) α} (h : Keeps P (fun _ ↦ P) p) :
    Leaves P (Routine.attempt p) := by
  intro s hs
  unfold Routine.attempt
  cases hp : p s with
  | ok a t => exact h.of_ok hs hp
  | error e t => exact h.of_error hs hp

private theorem leaves_videoTarget (h : rig.Spares P) : Leaves P rig.videoTarget := by
  refine .bind (r := get) (fun _ hs ↦ hs) fun s ↦ ?_
  dsimp only
  split
  · exact fun _ hs ↦ hs
  · split
    · exact .bind (r := Routine.readClock rig.clock) (fun _ hs ↦ h.ticked hs) fun _ _ hs ↦ hs
    · exact fun _ hs ↦ hs

private theorem leaves_closingStage (h : rig.Spares P) (name : String) (c : Call) :
    Leaves P (rig.closingStage name c) := by
  have called : Keeps P (fun _ ↦ P) (rig.call c) := by
    cases hc : c.endsSession with
    | true => exact h.ended c hc
    | false => exact h.called c hc
  refine .bind (leaves_attempt called) fun outcome ↦ ?_
  cases outcome with
  | ok _ => exact fun _ hs ↦ hs
  | error e => exact fun _ hs ↦ h.logged hs _ _ _

private theorem leaves_closePage (h : rig.Spares P) (target : Option Path) (page : Option Page) :
    Leaves P (rig.closePage target page) := by
  cases page with
  | none => exact fun _ hs ↦ hs
  | some page =>
    refine .bind (h.leaves_closingStage _ _) fun _ ↦ ?_
    split
    · refine .bind (h.leaves_closingStage _ _) fun saved ↦ ?_
      split
      · exact fun _ hs ↦ h.logged hs _ _ _
      · exact fun _ hs ↦ hs
    · exact fun _ hs ↦ hs

private theorem leaves_closeContext (h : rig.Spares P) (context : Option Handle) :
    Leaves P (rig.closeContext context) := by
  cases context with
  | none => exact fun _ hs ↦ hs
  | some context =>
    have last : Leaves P (do
        let _ ← rig.closingStage "context close" (.closeContext context)) :=
      .bind (h.leaves_closingStage _ _) fun _ _ hs ↦ hs
    unfold closeContext
    dsimp only
    split
    · exact .bind (h.leaves_closingStage _ _) fun _ ↦ last
    · exact last

private theorem leaves_closeOpened (h : rig.Spares P) (target : Option Path) :
    Leaves P (rig.closeOpened target) := by
  have browser (b : Option Handle) : Leaves P (rig.closeBrowser b) := by
    cases b with
    | none => exact fun _ hs ↦ hs
    | some b => exact .bind (h.leaves_closingStage _ _) fun _ _ hs ↦ hs
  have driver (d : Option Handle) : Leaves P (rig.stopDriver d) := by
    cases d with
    | none => exact fun _ hs ↦ hs
    | some d => exact .bind (h.leaves_closingStage _ _) fun _ _ hs ↦ hs
  refine .bind (r := get) (fun _ hs ↦ hs) fun s ↦ ?_
  refine .bind (h.leaves_closePage _ _) fun _ ↦ .bind (h.leaves_closeContext _) fun _ ↦ ?_
  exact .bind (browser _) fun _ ↦ .bind (driver _) fun _ _ hs ↦ h.reserved hs _

/-- Closing what is open keeps what its parts keep. -/
theorem closeOpened (h : rig.Spares P) (target : Option Path) {s : Stage (Bench β)} (hs : P s) :
    P (rig.closeOpened target s).2 :=
  h.leaves_closeOpened target s hs

/-- Closing keeps what its parts keep. -/
theorem close (h : rig.Spares P) : Keeps P (fun _ ↦ P) rig.close.toPlay := by
  have closed : Leaves P rig.close := by
    rw [Rig.close_eq]
    exact .bind h.leaves_videoTarget h.leaves_closeOpened
  exact fun s hs ↦ closed s hs

end Rig.Spares

/-- Recording a result keeps what looking at the clock, reporting, writing on the disk and keeping
the result do. -/
theorem Rig.record_keeps {rig : Rig β} {P : Stage (Bench β) → Prop}
    (ticked : ∀ {s}, P s → P (s.ticked rig.clock))
    (logged : ∀ {s}, P s → ∀ level source text, P (s.logged level source text))
    (written : ∀ w : Disk.Writing Unit, Keeps P (fun _ ↦ P) (Rig.onDisk w))
    (kept : ∀ {s}, P s → ∀ recorded lastLog,
      P { s with world := { s.world with recorded, lastLog } })
    (result : CaseResult) : Keeps P (fun _ ↦ P) (rig.record result) := by
  have report (level : Level) (source : Source) (text : String) :
      Keeps P (fun _ ↦ P) (Play.report level source text) :=
    fun _ hs ↦ logged hs _ _ _
  have saved (stamp : String) : Keeps P (fun _ ↦ P) (do
      Rig.writeLog (rig.logPath stamp)
      return rig.logPath stamp : Play (Bench β) Path) := by
    refine .bind (.bind (written _) fun _ ↦ ?_) fun _ ↦ .pure _
    refine .bind (x := get) (fun _ hs ↦ hs) fun s ↦ ?_
    exact .bind (written _) fun _ ↦ .bind (report _ _ _) fun _ t ht ↦ kept ht t.world.recorded _
  have timed : Keeps P (fun _ ↦ P) (Rig.reportTiming result : Play (Bench β) Unit) := by
    refine .bind (report _ _ _) fun _ ↦ ?_
    induction result.steps with
    | nil => exact .pure ()
    | cons r told ih => exact .bind (report _ _ _) fun _ ↦ ih
  refine .bind (x := modify _) (fun s hs ↦ kept hs _ s.world.lastLog) fun _ ↦ ?_
  dsimp only
  split
  · refine .bind ?_ fun _ ↦ timed
    exact .bind (x := rig.now) (fun _ hs ↦ ticked hs) fun _ ↦ .bind (.pure _) saved
  · exact timed

end Playbook
