import Playbook.Proofs.Run.FailFast

/-!
# Loops

A loop whose body has no inner loop, run by a crew that neither fails nor writes variables, makes
one pass for each item, in order. In a pass the loop's variable is bound to the item, every child
runs in turn, and an action among them is handed the item as its only parameter; afterwards the
variable keeps the last item (`runStep_loop`). An item is a template like any parameter, so the
references in it are substituted when it is handed over.
-/

namespace Playbook

namespace Script

/-- Actions and conditionals with their branches, and no loop at any depth. -/
inductive LoopFree : Step → Prop
  | action (text : Option String) (parameters : List (Option String)) (children : List Step) :
      LoopFree ⟨.action, text, parameters, children⟩
  | ifBlock (text : Option String) (parameters : List (Option String)) {children : List Step}
      (h : ∀ s ∈ children, LoopFree s) : LoopFree ⟨.ifBlock, text, parameters, children⟩
  | elseBranch (text : Option String) (parameters : List (Option String)) {children : List Step}
      (h : ∀ s ∈ children, LoopFree s) : LoopFree ⟨.elseBranch, text, parameters, children⟩

/-- The children of a branch without loops have none. -/
theorem LoopFree.children {s : Step} (h : LoopFree s) (hk : s.kind = .elseBranch) :
    ∀ c ∈ s.children, LoopFree c := by
  cases h with
  | action | ifBlock => cases hk
  | elseBranch _ _ h => exact h

end Script

open Script

variable {σ α β : Type}

/-! ### What may happen in a body -/

mutual

/-- What may happen where a step without loops is run under the variables `e`, as a child of a loop
if there is an item: an action is performed once, with the item or its own parameters, their
references substituted, and a conditional runs its body or one of its branches once its condition
was tested. -/
inductive Happens (e : Environment) : Option String → Step → List Event → Prop
  | action {text : Option String} {parameters : List (Option String)} {children : List Step} :
      Happens e none ⟨.action, text, parameters, children⟩
        [.performed ⟨e, e.actionOf text, e.parametersOf parameters, none⟩]
  | handed {item : String} {text : Option String} {parameters : List (Option String)}
      {children : List Step} :
      Happens e (some item) ⟨.action, text, parameters, children⟩
        [.performed ⟨e, e.actionOf text, [e.substitute item], none⟩]
  | body {item text : Option String} {parameters : List (Option String)} {children : List Step}
      {events : List Event} (h : HappenInTurn e (children.filter fun s => !s.isBranch) events) :
      Happens e item ⟨.ifBlock, text, parameters, children⟩ (.tested (text.getD "") :: events)
  | branch {item text : Option String} {parameters : List (Option String)} {children : List Step}
      {events : List Event} (h : HappensInBranch e children events) :
      Happens e item ⟨.ifBlock, text, parameters, children⟩ (.tested (text.getD "") :: events)
  | strayBranch {item text : Option String} {parameters : List (Option String)}
      {children : List Step} : Happens e item ⟨.elseBranch, text, parameters, children⟩ []

/-- What may happen where steps that are no children of a loop are run in order. -/
inductive HappenInTurn (e : Environment) : List Step → List Event → Prop
  | nil : HappenInTurn e [] []
  | cons {s : Step} {rest : List Step} {events later : List Event} (h : Happens e none s events)
      (hs : HappenInTurn e rest later) : HappenInTurn e (s :: rest) (events ++ later)

/-- What may happen where a branch is looked for among the children of a conditional: the first
branch whose condition holds, or that has none, is run. -/
inductive HappensInBranch (e : Environment) : List Step → List Event → Prop
  | nil : HappensInBranch e [] []
  | skipped {s : Step} {rest : List Step} {events : List Event} (hs : s.isBranch = false)
      (h : HappensInBranch e rest events) : HappensInBranch e (s :: rest) events
  | bare {parameters : List (Option String)} {children rest : List Step} {events : List Event}
      (h : HappenInTurn e children events) :
      HappensInBranch e (⟨.elseBranch, none, parameters, children⟩ :: rest) events
  | taken {condition : String} {parameters : List (Option String)} {children rest : List Step}
      {events : List Event} (h : HappenInTurn e children events) :
      HappensInBranch e (⟨.elseBranch, some condition, parameters, children⟩ :: rest)
        (.tested condition :: events)
  | refused {condition : String} {parameters : List (Option String)} {children rest : List Step}
      {events : List Event} (h : HappensInBranch e rest events) :
      HappensInBranch e (⟨.elseBranch, some condition, parameters, children⟩ :: rest)
        (.tested condition :: events)

end

/-- What happens at a child of a loop in the pass for an item. An action is handed the item, which
is as it is written where it holds no brace. -/
structure Part (e : Environment) (item : String) (child : Step) (events : List Event) : Prop where
  happens : Happens e (some item) child events
  asWritten : child.kind = .action → '\x7b' ∉ item.toList →
    ∀ turn ∈ turns events, turn.parameters = [item]

/-- What happens in the pass of a loop for an item: the item is bound, and each child has its part,
in order. -/
def Pass (e : Environment) (name item : String) (children : List Step) (events : List Event) :
    Prop :=
  ∃ parts, List.Forall₂ (Part e item) children parts ∧ events = .bound name item :: parts.flatten

/-! ### Crews that neither fail nor write variables -/

/-- A play that does not fail and writes no variable. -/
def Play.Quiet (p : Play σ α) : Prop :=
  ∀ e : Environment, Keeps (fun s ↦ s.environment = e) (fun _ _ ↦ False) p

/-- A crew whose performer and predicates neither fail nor write variables. -/
structure Crew.Quiet (crew : Crew σ) : Prop where
  perform : ∀ action parameters, (crew.perform action parameters).Quiet
  conditions : ∀ p ∈ crew.conditions.entries, ∀ argument, (p.2 argument).Quiet

/-- The predicates that are always known neither fail nor write variables. -/
theorem Registry.quiet_standard :
    ∀ p ∈ (Registry.standard : Registry σ).entries, ∀ argument, (p.2 argument).Quiet := by
  intro p hp argument
  rw [Registry.eq_of_mem_standard hp]
  exact fun e s h ↦ h

/-- One walk comes after another one: events were noted between them, and each turn among the
events was recorded. -/
structure Walk.Adds (w w' : Walk (Watched σ)) (events : List Event) : Prop where
  journal : w'.journal = w.journal ++ events
  steps : ∃ told, w'.steps = w.steps ++ told ∧ List.Forall₂ StepResult.TellsOf told (turns events)

namespace Walk.Adds

/-- A walk follows itself, and nothing was noted between. -/
theorem refl (w : Walk (Watched σ)) : w.Adds w [] :=
  ⟨(List.append_nil _).symm, [], (List.append_nil _).symm, .nil⟩

/-- What follows a walk that follows another one adds the events of both. -/
theorem trans {w w' w'' : Walk (Watched σ)} {events later : List Event} (h : w.Adds w' events)
    (h' : w'.Adds w'' later) : w.Adds w'' (events ++ later) := by
  obtain ⟨journal, told, steps, tells⟩ := h
  obtain ⟨journal', told', steps', tells'⟩ := h'
  refine ⟨?_, told ++ told', ?_, ?_⟩
  · rw [journal', journal, List.append_assoc]
  · rw [steps', steps, List.append_assoc]
  · rw [turns_append]
    exact List.rel_append tells tells'

end Walk.Adds

/-- Under the variables `e`, which it leaves as they are, a walk goes through, and `P` holds of its
answer and of what is noted meanwhile. -/
def Tells (e : Environment) (x : Walking (Watched σ) α) (P : α → List Event → Prop) : Prop :=
  ∀ w, w.stage.environment = e →
    ∃ a w' events, x w = .ok a w' ∧ w'.stage.environment = e ∧ w.Adds w' events ∧ P a events

namespace Tells

variable {e : Environment} {P : α → List Event → Prop}

/-- What does nothing goes through, and nothing is noted. -/
theorem pure {a : α} (h : P a []) : Tells e (Pure.pure a : Walking (Watched σ) α) P :=
  fun w he ↦ ⟨a, w, [], rfl, he, .refl w, h⟩

/-- A sequence goes through if its parts do, and the events of its parts are noted in order. -/
theorem bind {x : Walking (Watched σ) α} {f : α → Walking (Watched σ) β}
    {Q : α → β → List Event → Prop} (hx : Tells e x P) (hf : ∀ a, Tells e (f a) (Q a)) :
    Tells e (x >>= f)
      fun b events ↦ ∃ a before after, P a before ∧ Q a b after ∧ events = before ++ after := by
  intro w he
  obtain ⟨a, w', before, hr, he', adds, hp⟩ := hx w he
  obtain ⟨b, w'', after, hr', he'', adds', hq⟩ := hf a w' he'
  exact ⟨b, w'', before ++ after, (bind_of_ok f hr).trans hr', he'', adds.trans adds',
    a, before, after, hp, hq, rfl⟩

/-- Less may be told of what goes through. -/
theorem weaken {x : Walking (Watched σ) α} {P' : α → List Event → Prop} (h : Tells e x P)
    (hp : ∀ a events, P a events → P' a events) : Tells e x P' := by
  intro w he
  obtain ⟨a, w', events, hr, he', adds, ha⟩ := h w he
  exact ⟨a, w', events, hr, he', adds, hp a events ha⟩

end Tells

section

variable {moves : Moves (Watched σ)} {e : Environment}

private theorem tells_walkSteps {steps : List Step}
    (h : ∀ s ∈ steps, Tells e (moves.walkStep none s) fun _ events ↦ Happens e none s events) :
    Tells e (moves.walkSteps none steps) fun _ events ↦ HappenInTurn e steps events := by
  induction steps with
  | nil => exact .pure .nil
  | cons s steps ih =>
    obtain ⟨hs, hss⟩ := List.forall_mem_cons.mp h
    rw [Moves.walkSteps]
    refine (Tells.bind hs fun _ ↦ ih hss).weaken ?_
    rintro _ _ ⟨_, before, after, hb, ha, rfl⟩
    exact .cons hb ha

private theorem tells_walkBody {steps : List Step}
    (h : ∀ s ∈ steps, Tells e (moves.walkStep none s) fun _ events ↦ Happens e none s events) :
    Tells e (moves.walkBody steps) fun _ events ↦
      HappenInTurn e (steps.filter fun s => !s.isBranch) events := by
  induction steps with
  | nil => exact .pure .nil
  | cons s steps ih =>
    obtain ⟨hs, hss⟩ := List.forall_mem_cons.mp h
    rw [Moves.walkBody]
    split
    · next hb =>
      rw [List.filter_cons_of_neg (by simp [hb])]
      exact ih hss
    · next hb =>
      rw [List.filter_cons_of_pos (by simp [hb])]
      refine (Tells.bind hs fun _ ↦ ih hss).weaken ?_
      rintro _ _ ⟨_, before, after, hb, ha, rfl⟩
      exact .cons hb ha

end

namespace Crew

variable {crew : Crew σ} (quiet : crew.Quiet) (e : Environment)

include quiet

/-- An action is performed and recorded. -/
theorem tells_performAction (text : Option String) (parameters : List (Option String)) :
    Tells e (crew.watched.performAction text parameters) fun _ events ↦
      events = [.performed ⟨e, e.actionOf text, e.parametersOf parameters, none⟩] := by
  rintro w rfl
  have performed := quiet.perform (w.stage.environment.actionOf text)
    (w.stage.environment.parametersOf parameters) w.stage.environment
  cases h : crew.handOver text parameters w.plain with
  | ok _ s =>
    have kept : s.environment = w.stage.environment :=
      performed.of_ok (s := w.plain.stage.ticked crew.clock) rfl h
    exact ⟨(), _, _, crew.watched_performAction_of_ok h, kept, ⟨rfl, _, rfl,
      .cons (crew.tellsOf_stepResult text parameters w.plain s none) .nil⟩, rfl⟩
  | error _ s => exact (performed.of_error (s := w.plain.stage.ticked crew.clock) rfl h).elim

/-- A condition is tested, and nothing else is noted. -/
theorem tells_test (condition : String) :
    Tells e (crew.watchedMoves.test condition) fun _ events ↦ events = [.tested condition] := by
  intro w he
  let noted := w.noted (.tested condition)
  have books := crew.silent_conditionHolds condition noted noted ⟨rfl, rfl, rfl⟩
  have kept := keeps_conditionHolds (fun p hp argument ↦ quiet.conditions p hp argument e)
    (fun _ h _ _ _ ↦ h) condition
  obtain ⟨holds, v, w', hv, hw, same⟩ | ⟨_, v, w', hv, hw, same⟩ :=
    crew.simulates_watched.agree_conditionHolds condition noted.plain noted noted.isPlain
  · rw [hw] at books
    have left : v.stage.environment = e := kept.of_ok (s := noted.plain) he hv
    refine ⟨holds, w', [.tested condition], hw, ?_, ⟨books.journal, [], ?_, .nil⟩, rfl⟩
    · rw [← left, same.stage]
      rfl
    · rw [books.steps, List.append_nil]
      rfl
  · exact (kept.of_error (s := noted.plain) he hv).elim

private theorem tells_walkBranches {steps : List Step}
    (h : ∀ s ∈ steps, s.kind = .elseBranch → ∀ c ∈ s.children,
      Tells e (crew.watchedMoves.walkStep none c) fun _ events ↦ Happens e none c events) :
    Tells e (crew.watchedMoves.walkBranches steps) fun _ events ↦
      HappensInBranch e steps events := by
  induction steps with
  | nil => exact .pure .nil
  | cons s steps ih =>
    obtain ⟨hs, hss⟩ := List.forall_mem_cons.mp h
    rcases s with ⟨kind, text, parameters, children⟩
    cases kind with
    | elseBranch =>
      have branch := tells_walkSteps (hs rfl)
      cases text with
      | none => exact branch.weaken fun _ _ happened ↦ .bare happened
      | some condition =>
        rw [Moves.walkBranches]
        refine (Tells.bind (tells_test quiet e condition)
          (Q := fun _ _ events ↦
            HappensInBranch e (⟨.elseBranch, some condition, parameters, children⟩ :: steps)
              (.tested condition :: events)) fun holds ↦ ?_).weaken ?_
        · cases holds with
          | true => exact branch.weaken fun _ _ happened ↦ .taken happened
          | false => exact (ih hss).weaken fun _ _ happened ↦ .refused happened
        · rintro _ _ ⟨_, before, after, rfl, ha, rfl⟩
          exact ha
    | _ => exact (ih hss).weaken fun _ _ happened ↦ .skipped rfl happened

/-- Where a step without loops is run, there happens what may happen. -/
theorem tells_walkStep {s : Step} (loopFree : LoopFree s) (item : Option String) :
    Tells e (crew.watchedMoves.walkStep item s) fun _ events ↦ Happens e item s events := by
  induction s using Step.branchInduction generalizing item with
  | step kind text parameters children ih ihBelow =>
    cases loopFree with
    | action =>
      change Tells e (crew.watched.performAction text _) _
      refine (tells_performAction quiet e text _).weaken ?_
      rintro _ _ rfl
      cases item with
      | none => exact .action
      | some item => exact .handed
    | ifBlock _ _ h =>
      rw [Moves.walkStep]
      refine (Tells.bind (tells_test quiet e _)
        (Q := fun _ _ events ↦ Happens e item ⟨.ifBlock, text, parameters, children⟩
          (.tested (text.getD "") :: events)) fun holds ↦ ?_).weaken ?_
      · cases holds with
        | true =>
          have body := tells_walkBody fun s hs ↦ ih s hs (h s hs) none
          exact body.weaken fun _ _ happened ↦ .body happened
        | false =>
          have branches := tells_walkBranches quiet e fun s hs hk c hc ↦
            ihBelow s hs c hc ((h s hs).children hk c hc) none
          exact branches.weaken fun _ _ happened ↦ .branch happened
      · rintro _ _ ⟨_, before, after, rfl, ha, rfl⟩
        exact ha
    | elseBranch => exact .pure .strayBranch

/-- In a pass, every child of the loop has its part. -/
theorem tells_pass {children : List Step} (loopFree : ∀ s ∈ children, LoopFree s) (item : String) :
    Tells e (crew.watchedMoves.walkSteps (some item) children) fun _ events ↦
      ∃ parts, List.Forall₂ (Part e item) children parts ∧ events = parts.flatten := by
  induction children with
  | nil => exact .pure ⟨[], .nil, rfl⟩
  | cons s children ih =>
    obtain ⟨hs, hss⟩ := List.forall_mem_cons.mp loopFree
    have part : Tells e (crew.watchedMoves.walkStep (some item) s) fun _ events ↦
        Part e item s events := by
      refine (tells_walkStep quiet e hs (some item)).weaken fun _ events happened ↦
        ⟨happened, fun hk plain turn hturn ↦ ?_⟩
      cases happened with
      | handed =>
        rw [List.mem_singleton.mp hturn, e.substitute_eq_self plain]
      | body | branch | strayBranch => cases hk
    rw [Moves.walkSteps]
    refine (Tells.bind part fun _ ↦ ih hss).weaken ?_
    rintro _ _ ⟨_, before, after, hb, ⟨parts, hp, rfl⟩, rfl⟩
    exact ⟨before :: parts, .cons hb hp, rfl⟩

end Crew

/-- Binding a name anew forgets what it was bound to. -/
theorem Value.putField_putField (fields : List (String × Value)) (name : String) (v v' : Value) :
    putField (putField fields name v) name v' = putField fields name v' := by
  induction fields with
  | nil => simp [putField]
  | cons f rest ih =>
    by_cases h : f.1 == name
    · simp [putField, h]
    · simp [putField, h, ih]

/-- Binding a name anew forgets what it was bound to. -/
theorem Environment.set_set (e : Environment) (name : String) (v v' : Value) :
    (e.set name v).set name v' = e.set name v' := by
  unfold Environment.set
  congr 1
  exact Value.putField_putField e.bindings name v v'

/-- The variables after a loop: its variable keeps the last item. -/
def Environment.afterItems (e : Environment) (name : String) (items : List String) : Environment :=
  match items.getLast? with
  | some item => e.set name (.text item)
  | none => e

namespace Crew

variable {crew : Crew σ} (quiet : crew.Quiet)

include quiet

private theorem forItems_passes {children : List Step}
    (loopFree : ∀ s ∈ children, LoopFree s) (name : String) (items : List String)
    (w : Walk (Watched σ)) (e : Environment)
    (base : ∀ v, w.stage.environment.set name v = e.set name v) :
    ∃ w' passes,
      Walking.forItems (fun i => do
        crew.watchedMoves.bindItem name i
        crew.watchedMoves.walkSteps (some i) children) items w = .ok () w' ∧
      w.Adds w' passes.flatten ∧
      List.Forall₂ (fun i events ↦ Pass (e.set name (.text i)) name i children events) items
        passes ∧
      w'.stage.environment = w.stage.environment.afterItems name items := by
  induction items generalizing w with
  | nil => exact ⟨w, [], rfl, .refl w, .nil, rfl⟩
  | cons item items ih =>
    let bound : Walk (Watched σ) :=
      { w.noted (.bound name item) with
        stage := (w.noted (.bound name item)).stage.bound name (.text item) }
    have binds : crew.watchedMoves.bindItem name item w = .ok () bound := rfl
    have adds : w.Adds bound [.bound name item] := ⟨rfl, [], (List.append_nil _).symm, .nil⟩
    obtain ⟨_, w', events, hr, he', adds', parts, happened, rfl⟩ :=
      tells_pass quiet (e.set name (.text item)) loopFree item bound (base _)
    obtain ⟨w'', passes, hr', adds'', passed, he''⟩ := ih w' fun v ↦ by
      rw [he', Environment.set_set]
    refine ⟨w'', (.bound name item :: parts.flatten) :: passes, ?_, ?_, .cons ⟨parts, happened, rfl⟩
      passed, ?_⟩
    · rw [Walking.forItems, bind_of_ok _ ((bind_of_ok _ binds).trans hr)]
      exact hr'
    · exact (adds.trans adds').trans adds''
    · rw [he'', he', Environment.afterItems, Environment.afterItems, List.getLast?_cons]
      cases items.getLast? with
      | none => exact (base _).symm
      | some last => exact (Environment.set_set ..).trans (base _).symm

/-- A loop whose header can be read makes one pass for each item, in order: its variable is bound to
the item during the pass, every child has its part, and an action among them is handed the item and
nothing else, as it is written unless it holds a brace. Actions below a conditional are handed their
own parameters, with what the variables of the pass make of them. Whatever is performed is recorded
as it is performed, at every depth, and the variable keeps the last item. -/
theorem runStep_loop {children : List Step} (loopFree : ∀ s ∈ children, LoopFree s)
    (text : Option String) (parameters : List (Option String)) (item : Option String) (w : Walk σ)
    (header : LoopHeader)
    (read : LoopHeader.ofText? (w.stage.environment.substitute (text.getD "")) = some header) :
    ∃ w' passes,
      crew.watchedMoves.walkStep item ⟨.loop, text, parameters, children⟩ (w.watched []) =
        .ok () w' ∧
      crew.runStep item ⟨.loop, text, parameters, children⟩ w = .ok () w'.plain ∧
      (w.watched []).Adds w' (.headerRead (text.getD "") :: passes.flatten) ∧
      List.Forall₂
        (fun i events ↦
          Pass (w.stage.environment.set header.name (.text i)) header.name i children events)
        header.items passes ∧
      w'.stage.environment = w.stage.environment.afterItems header.name header.items := by
  let noted := (w.watched []).noted (.headerRead (text.getD ""))
  have noting : Walking.note (.headerRead (text.getD "")) (w.watched []) = .ok () noted := rfl
  have reads : crew.watchedMoves.readHeader (text.getD "") (w.watched []) = .ok header noted :=
    (bind_of_ok _ noting).trans (loopHeader_of_some read)
  have adds : (w.watched []).Adds noted [.headerRead (text.getD "")] :=
    ⟨rfl, [], (List.append_nil _).symm, .nil⟩
  obtain ⟨w', passes, hr, adds', passed, he⟩ :=
    forItems_passes quiet loopFree header.name header.items noted w.stage.environment fun _ ↦ rfl
  have walked : crew.watchedMoves.walkStep item ⟨.loop, text, parameters, children⟩
      (w.watched []) = .ok () w' := by
    rw [Moves.walkStep]
    exact (bind_of_ok _ reads).trans hr
  exact ⟨w', passes, walked, crew.runStep_of_watched walked, adds.trans adds', passed, he⟩

end Crew

/-! ### Loops of a crew that does nothing -/

/-- A crew that does nothing but test conditions. -/
def idleCrew (conditions : Registry Unit) : Crew Unit :=
  { perform := fun _ _ => pure ()
    clock := fun w => (default, w)
    conditions }

/-- The start of a walk with nothing bound. -/
def idleStart : Walk Unit := { stage := { world := () } }

private theorem idleCrew_quiet {conditions : Registry Unit}
    (h : ∀ p ∈ conditions.entries, ∀ argument, (p.2 argument).Quiet) :
    (idleCrew conditions).Quiet :=
  ⟨fun _ _ _ ↦ .pure (), h⟩

/-- The parameters of the steps that a walk has recorded, however it ended. -/
def recordedParameters : EStateM.Result Failure (Walk σ) Unit → List (List String)
  | .ok _ w | .error _ w => w.steps.map StepResult.parameters

/-- A loop over two items runs with the predicates that are always known: a child is handed the
item, an action below a conditional its own parameter, and the variable keeps the second item. -/
theorem loop_of_two_items :
    let body := [Step.action "Say" [], .ifBlock "ready" [.action "Ask" ["why \x7bx\x7d"]]]
    (idleCrew .standard).Quiet ∧ (∀ s ∈ body, LoopFree s) ∧
      LoopHeader.ofText? (Environment.empty.substitute "x in [a, b]") =
        some ⟨"x", ["a", "b"]⟩ ∧
      ∃ w', (idleCrew .standard).runStep none ⟨.loop, some "x in [a, b]", [], body⟩ idleStart =
          .ok () w' ∧
        w'.steps.map StepResult.parameters = [["a"], ["why a"], ["b"], ["why b"]] ∧
        w'.stage.environment.get? "x" = some (.text "b") := by
  intro body
  have quiet : (idleCrew .standard).Quiet := idleCrew_quiet Registry.quiet_standard
  have loopFree : ∀ s ∈ body, LoopFree s := by
    simp only [body, List.forall_mem_cons]
    refine ⟨.action _ _ _, .ifBlock _ _ ?_, nofun⟩
    simp only [List.forall_mem_cons]
    exact ⟨.action _ _ _, nofun⟩
  have read : LoopHeader.ofText? (Environment.empty.substitute "x in [a, b]") =
      some ⟨"x", ["a", "b"]⟩ := by decide +kernel
  obtain ⟨w', -, -, runs, -, -, left⟩ :=
    Crew.runStep_loop quiet loopFree (some "x in [a, b]") [] none idleStart _ read
  have recorded : recordedParameters ((idleCrew .standard).runStep none
      ⟨.loop, some "x in [a, b]", [], body⟩ idleStart) =
        [["a"], ["why a"], ["b"], ["why b"]] := by decide +kernel
  rw [runs] at recorded
  refine ⟨quiet, loopFree, read, w'.plain, runs, recorded, ?_⟩
  change w'.stage.environment.get? "x" = _
  rw [left]
  exact Environment.get?_set_self _ _ _

/-- An action in a loop is not always handed the item as it is written in the header. The
references in the item are substituted once more, now that the variable is bound; and below a
conditional an action keeps parameters of its own. -/
theorem item_not_always_handed :
    (idleCrew {}).Quiet ∧
      LoopHeader.ofText? (Environment.empty.substitute "i in [x\x7bi\x7d]") =
        some ⟨"i", ["x\x7bi\x7d"]⟩ ∧
      recordedParameters ((idleCrew {}).runStep none
        (.loop "i in [x\x7bi\x7d]" [.action "Say" []]) idleStart) = [["xx\x7bi\x7d"]] ∧
      LoopHeader.ofText? (Environment.empty.substitute "i in [x]") = some ⟨"i", ["x"]⟩ ∧
      recordedParameters ((idleCrew {}).runStep none
        (.loop "i in [x]" [.ifBlock "" [.action "Say" ["y"]]]) idleStart) = [["y"]] := by
  refine ⟨idleCrew_quiet fun _ h ↦ absurd h List.not_mem_nil, ?_, ?_, ?_, ?_⟩ <;> decide +kernel

end Playbook
