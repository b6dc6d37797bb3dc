import Playbook.Proofs.Run.Looping
import Playbook.Proofs.Script.Tree

/-!
# Branches

A conditional has branches: its own condition with the children that are no branches, and then the
branches among its children, in the order in which they stand there (`branchesOf`). Their conditions
are tested one after another until one holds or there is none to test, and all of them under the
variables as they were before. Only then is anything done, and it is the steps of that one branch
that are walked (`runStep_ifBlock`). So it makes no difference whether the branches of a conditional
stand side by side or each in the bare branch of the one before it (`chain_same_nested`).
-/

namespace Playbook

namespace Script

/-- The branch that a step is. -/
def Step.branch? : Step → Option Branch
  | ⟨.elseBranch, condition, _, children⟩ => some ⟨condition, children⟩
  | _ => none

/-- The branches of a conditional, its own condition and body as the first of them. -/
def branchesOf (text : Option String) (children : List Step) : List Branch :=
  ⟨some (text.getD ""), children.filter fun s => !s.isBranch⟩ :: children.filterMap Step.branch?

private theorem Step.branch?_of_isBranch {s : Step} (h : s.isBranch = false) :
    s.branch? = none := by
  rcases s with ⟨kind, text, parameters, children⟩
  cases kind with
  | elseBranch => cases h
  | _ => rfl

@[simp] private theorem Branch.branch?_step (b : Branch) : b.step.branch? = some b := rfl

/-- A conditional with its branches behind its body has just these branches. -/
theorem branchesOf_append {body : List Step} (h : ∀ s ∈ body, s.isBranch = false)
    (condition : String) (branches : List Branch) :
    branchesOf (some condition) (body ++ branches.map Branch.step) =
      ⟨some condition, body⟩ :: branches := by
  have own : (body ++ branches.map Branch.step).filter (fun s => !s.isBranch) = body := by
    have none : (branches.map Branch.step).filter (fun s => !s.isBranch) = [] := by
      simp [List.filter_map]
    rw [List.filter_append, none, List.append_nil]
    exact List.filter_eq_self.mpr fun s hs ↦ by simp [h s hs]
  have others : (body ++ branches.map Branch.step).filterMap Step.branch? = branches := by
    have none : body.filterMap Step.branch? = [] :=
      List.filterMap_eq_nil_iff.mpr fun s hs ↦ Step.branch?_of_isBranch (h s hs)
    rw [List.filterMap_append, none, List.nil_append, List.filterMap_map]
    exact List.filterMap_some
  rw [branchesOf, own, others]
  rfl

end Script

open Script

variable {σ τ : Type}

namespace Moves

variable (moves : Moves σ)

/-- Walk the first of some branches whose condition holds, or that has none. -/
def walkFirst : List Branch → Walking σ Unit
  | [] => pure ()
  | ⟨none, steps⟩ :: _ => moves.walkSteps none steps
  | ⟨some condition, steps⟩ :: rest => do
    if ← moves.test condition then moves.walkSteps none steps else walkFirst rest

private theorem walkSteps_singleton (item : Option String) (s : Step) :
    moves.walkSteps item [s] = moves.walkStep item s :=
  bind_pure_unit

private theorem walkSteps_append (item : Option String) (steps more : List Step) :
    moves.walkSteps item (steps ++ more) =
      (do moves.walkSteps item steps; moves.walkSteps item more) := by
  induction steps with
  | nil => rfl
  | cons s steps ih => rw [List.cons_append, walkSteps, walkSteps, ih, bind_assoc]

private theorem walkBody_eq (children : List Step) :
    moves.walkBody children = moves.walkSteps none (children.filter fun s => !s.isBranch) := by
  induction children with
  | nil => rfl
  | cons s children ih =>
    rw [walkBody, List.filter_cons]
    cases s.isBranch with
    | true => exact ih
    | false =>
      rw [ih]
      rfl

private theorem walkBranches_eq (children : List Step) :
    moves.walkBranches children = moves.walkFirst (children.filterMap Step.branch?) := by
  induction children with
  | nil => rfl
  | cons s children ih =>
    rcases s with ⟨kind, text, parameters, steps⟩
    cases kind with
    | elseBranch =>
      cases text with
      | none => rfl
      | some condition =>
        rw [walkBranches, ih]
        rfl
    | _ => exact ih

/-- A conditional is walked as the first of its branches whose condition holds, or that has none. -/
theorem walkStep_ifBlock (item text : Option String) (parameters : List (Option String))
    (children : List Step) :
    moves.walkStep item ⟨.ifBlock, text, parameters, children⟩ =
      moves.walkFirst (branchesOf text children) := by
  rw [walkStep, walkBody_eq, walkBranches_eq]
  rfl

end Moves

/-! ### Chains -/

namespace Script

/-- A condition and the steps that are run when it holds. -/
structure Clause where
  condition : String
  steps : List Step

/-- A clause as a branch. -/
def Clause.branch (c : Clause) : Branch := ⟨some c.condition, c.steps⟩

/-- The bare branch at the end of a conditional, if it has one. -/
def bareBranch (last : Option (List Step)) : List Branch :=
  (last.map fun steps => ⟨none, steps⟩).toList

/-- A conditional in which the clauses after the first are branches. -/
def Step.chain (first : Clause) (more : List Clause) (last : Option (List Step)) : Step :=
  .ifBlock first.condition
    (first.steps ++ (more.map Clause.branch ++ bareBranch last).map Branch.step)

/-- A conditional in which every further clause is a conditional in the bare branch of the one
before it. -/
def Step.nested (first : Clause) (more : List Clause) (last : Option (List Step)) : Step :=
  match more with
  | [] => .ifBlock first.condition (first.steps ++ (bareBranch last).map Branch.step)
  | next :: more =>
    .ifBlock first.condition (first.steps ++ [.elseBranch none [Step.nested next more last]])

end Script

namespace Moves

variable (moves : Moves σ)

-- A conditional whose branches follow its body is walked as the first of its own clause and these
-- branches.
private theorem walkStep_clause {c : Clause} (h : ∀ s ∈ c.steps, s.isBranch = false)
    (branches : List Branch) (item : Option String) :
    moves.walkStep item (.ifBlock c.condition (c.steps ++ branches.map Branch.step)) =
      moves.walkFirst (c.branch :: branches) := by
  rw [Step.ifBlock, walkStep_ifBlock, branchesOf_append h]
  rfl

/-- Branches side by side are walked as branches in each other. -/
theorem walkStep_chain {first : Clause} {more : List Clause}
    (h : ∀ c ∈ first :: more, ∀ s ∈ c.steps, s.isBranch = false) (last : Option (List Step))
    (item : Option String) :
    moves.walkStep item (.chain first more last) =
      moves.walkStep item (.nested first more last) := by
  induction more generalizing first item with
  | nil => rfl
  | cons next more ih =>
    obtain ⟨hf, hm⟩ := List.forall_mem_cons.mp h
    -- the bare branch holds one conditional, which by induction is the chain of the clauses left
    have inner : moves.walkSteps none [.nested next more last] =
        moves.walkFirst (next.branch :: (more.map Clause.branch ++ bareBranch last)) := by
      rw [walkSteps_singleton, ← ih hm none]
      exact moves.walkStep_clause (List.forall_mem_cons.mp hm).1 _ none
    have bare : [Step.elseBranch none [.nested next more last]] =
        [Branch.mk none [.nested next more last]].map Branch.step := rfl
    rw [Step.nested, bare, Step.chain, moves.walkStep_clause hf, moves.walkStep_clause hf,
      Clause.branch, walkFirst, walkFirst, walkFirst, inner]
    rfl

private theorem walkStep_loop_congr {s t : Step}
    (h : ∀ item, moves.walkStep item s = moves.walkStep item t) (header : String)
    (before after : List Step) (item : Option String) :
    moves.walkStep item (.loop header (before ++ s :: after)) =
      moves.walkStep item (.loop header (before ++ t :: after)) := by
  have body (i : String) : moves.walkSteps (some i) (before ++ s :: after) =
      moves.walkSteps (some i) (before ++ t :: after) := by
    rw [walkSteps_append, walkSteps_append, walkSteps, walkSteps, h]
  simp only [Step.loop, walkStep, body]

end Moves

/-- Two steps that a crew runs alike, with whatever parameters are handed down to them: what is done
is the same, and so is what is noted of it. -/
structure Crew.RunsAlike (crew : Crew σ) (s t : Step) : Prop where
  run : ∀ item, crew.runStep item s = crew.runStep item t
  watched : ∀ item, crew.watchedMoves.walkStep item s = crew.watchedMoves.walkStep item t

private theorem Crew.RunsAlike.of_moves (crew : Crew σ) {s t : Step}
    (h : ∀ {τ : Type} (moves : Moves τ) item, moves.walkStep item s = moves.walkStep item t) :
    crew.RunsAlike s t where
  run item := by
    unfold Crew.runStep
    rw [Crew.walkStep_eq_moves, Crew.walkStep_eq_moves, h]
  watched item := h crew.watchedMoves item

/-- A conditional with several conditions means the same as conditionals in one another, also as a
child of a loop. Every crew does the same in the same order for both, whatever its performer, its
predicates and its clock do, and comes to the same results, variables and failure. -/
theorem Crew.chain_same_nested (crew : Crew σ) {first : Clause} {more : List Clause}
    (h : ∀ c ∈ first :: more, ∀ s ∈ c.steps, s.isBranch = false) (last : Option (List Step)) :
    crew.RunsAlike (.chain first more last) (.nested first more last) ∧
      ∀ header before after,
        crew.RunsAlike (.loop header (before ++ .chain first more last :: after))
          (.loop header (before ++ .nested first more last :: after)) := by
  constructor
  · exact .of_moves crew fun moves item ↦ moves.walkStep_chain h last item
  · intro header before after
    refine .of_moves crew fun moves item ↦ ?_
    exact moves.walkStep_loop_congr (moves.walkStep_chain h last) header before after item

/-- Two conditions and a bare branch side by side mean the same as one in the other. -/
theorem two_conditions_same_nested :
    let steps := [Step.action "Say" []]
    let more := [Clause.mk "also ready" [.loop "x in [a]" steps]]
    (∀ c ∈ Clause.mk "ready" steps :: more, ∀ s ∈ c.steps, s.isBranch = false) ∧
      (idleCrew .standard).RunsAlike
        (.ifBlock "ready"
          [.action "Say" [], .elseBranch "also ready" [.loop "x in [a]" steps],
            .elseBranch none [.action "Ask" ["why"]]])
        (.ifBlock "ready"
          [.action "Say" [],
            .elseBranch none
              [.ifBlock "also ready"
                [.loop "x in [a]" steps, .elseBranch none [.action "Ask" ["why"]]]]]) := by
  intro steps more
  have noBranches : ∀ c ∈ Clause.mk "ready" steps :: more, ∀ s ∈ c.steps, s.isBranch = false := by
    simp [steps, more, Step.action, Step.loop, Step.isBranch]
  exact ⟨noBranches,
    (Crew.chain_same_nested _ noBranches (some [.action "Ask" ["why"]])).1⟩

/-! ### Which branch is taken -/

/-- What testing the conditions of some branches comes to. -/
inductive Verdict where
  /-- There is a branch to take, and these are its steps. -/
  | taken (steps : List Step)
  /-- No condition holds. -/
  | nothing
  /-- A condition cannot be tested. -/
  | failed (e : Failure)

/-- What is done on a verdict: the steps of the branch that is taken are run, and nothing else. -/
def Verdict.carryOut (run : List Step → Walking σ Unit) : Verdict → Walking σ Unit
  | .taken steps => run steps
  | .nothing => pure ()
  | .failed e => throw e

/-- Branches are passed over: they have conditions, and tested in this order under the variables
`e` none of them holds. -/
inductive Refused (r : Registry σ) (e : Environment) : List Branch → Stage σ → Stage σ → Prop
  | nil {s : Stage σ} : Refused r e [] s s
  | cons {condition : String} {steps : List Step} {rest : List Branch} {s t u : Stage σ}
      (under : s.environment = e) (h : r.evaluate (e.substitute condition) s = .ok false t)
      (hs : Refused r e rest t u) : Refused r e (⟨some condition, steps⟩ :: rest) s u

/-- The first of some branches decides: it has no condition, or its condition, tested under the
variables `e`, holds or cannot be tested. If there is no branch, nothing is left to be taken. -/
inductive Decided (r : Registry σ) (e : Environment) :
    List Branch → Stage σ → Verdict → Stage σ → Prop
  | exhausted {s : Stage σ} : Decided r e [] s .nothing s
  | bare {steps : List Step} {rest : List Branch} {s : Stage σ} :
      Decided r e (⟨none, steps⟩ :: rest) s (.taken steps) s
  | holds {condition : String} {steps : List Step} {rest : List Branch} {s t : Stage σ}
      (under : s.environment = e) (h : r.evaluate (e.substitute condition) s = .ok true t) :
      Decided r e (⟨some condition, steps⟩ :: rest) s (.taken steps) t
  | raises {condition : String} {steps : List Step} {rest : List Branch} {s t : Stage σ}
      {failure : Failure} (under : s.environment = e)
      (h : r.evaluate (e.substitute condition) s = .error failure t) :
      Decided r e (⟨some condition, steps⟩ :: rest) s (.failed failure) t

/-- What is noted where the conditions of branches are tested. -/
def asked (branches : List Branch) : List Event :=
  branches.filterMap fun b => b.condition.map Event.tested

@[simp] private theorem asked_append (branches more : List Branch) :
    asked (branches ++ more) = asked branches ++ asked more :=
  List.filterMap_append

@[simp] private theorem asked_cons (condition : String) (steps : List Step) (rest : List Branch) :
    asked (⟨some condition, steps⟩ :: rest) = .tested condition :: asked rest := rfl

/-- A registry whose predicates write no variables, also where they fail. -/
def Registry.ReadsOnly (r : Registry σ) : Prop :=
  ∀ p ∈ r.entries, ∀ argument (e : Environment),
    Keeps (fun s ↦ s.environment = e) (fun _ s ↦ s.environment = e) (p.2 argument)

/-- The predicates that are always known write no variables. -/
theorem Registry.readsOnly_standard : (Registry.standard : Registry σ).ReadsOnly := by
  intro p hp argument e s hs
  rw [Registry.eq_of_mem_standard hp]
  exact hs

/-- A predicate that writes no variables may be registered, too. -/
theorem Registry.ReadsOnly.register {r : Registry σ} (h : r.ReadsOnly) {p : Predicate σ}
    (hp : ∀ argument (e : Environment),
      Keeps (fun s ↦ s.environment = e) (fun _ s ↦ s.environment = e) (p argument))
    (phrase : String) : (r.register phrase p).ReadsOnly := by
  intro q hq
  rcases List.mem_append.mp hq with hq | hq
  · exact h q hq
  · rw [List.mem_singleton.mp hq]
    exact hp

private theorem Registry.ReadsOnly.evaluate {r : Registry σ} (h : r.ReadsOnly) (condition : String)
    (e : Environment) :
    Keeps (fun s ↦ s.environment = e) (fun _ s ↦ s.environment = e) (r.evaluate condition) :=
  Registry.keeps_evaluate (fun p hp argument ↦ h p hp argument e) (fun _ hs _ _ _ ↦ hs) condition

/-- Branches are passed over until one decides or none is left. -/
theorem exists_decided {r : Registry σ} (h : r.ReadsOnly) (branches : List Branch) {e : Environment}
    {s : Stage σ} (hs : s.environment = e) :
    ∃ refused rest s' verdict t, branches = refused ++ rest ∧ Refused r e refused s s' ∧
      Decided r e rest s' verdict t ∧ t.environment = e := by
  induction branches generalizing s with
  | nil => exact ⟨[], [], s, .nothing, s, rfl, .nil, .exhausted, hs⟩
  | cons b branches ih =>
    rcases b with ⟨_ | condition, steps⟩
    · exact ⟨[], _, s, .taken steps, s, rfl, .nil, .bare, hs⟩
    · cases tested : r.evaluate (e.substitute condition) s with
      | ok holds t =>
        -- the next condition is tested under the same variables, as no predicate writes any
        have kept : t.environment = e := (h.evaluate _ e).of_ok hs tested
        cases holds with
        | true => exact ⟨[], _, s, .taken steps, t, rfl, .nil, .holds hs tested, kept⟩
        | false =>
          obtain ⟨refused, rest, s', verdict, u, rfl, hr, hd, hu⟩ := ih kept
          exact ⟨⟨some condition, steps⟩ :: refused, rest, s', verdict, u, rfl,
            .cons hs tested hr, hd, hu⟩
      | error failure t =>
        exact ⟨[], _, s, .failed failure, t, rfl, .nil, .raises hs tested,
          (h.evaluate _ e).of_error hs tested⟩

/-- Moves that test conditions by a registry: they note what they test and do nothing else. What is
noted may be seen in the walk or not. -/
structure Moves.TestsBy (moves : Moves τ) (r : Registry σ)
    (view : List Event → Walk σ → Walk τ) : Prop where
  ok : ∀ {journal condition w holds t},
    r.evaluate (w.stage.environment.substitute condition) w.stage = .ok holds t →
      moves.test condition (view journal w) =
        .ok holds (view (journal ++ [.tested condition]) { w with stage := t })
  error : ∀ {journal condition w e t},
    r.evaluate (w.stage.environment.substitute condition) w.stage = .error e t →
      moves.test condition (view journal w) =
        .error e (view (journal ++ [.tested condition]) { w with stage := t })

namespace Moves.TestsBy

variable {moves : Moves τ} {r : Registry σ} {view : List Event → Walk σ → Walk τ}
  {e : Environment}

/-- Branches that are refused are passed over. -/
theorem walkFirst_of_refused (tests : moves.TestsBy r view) {refused : List Branch}
    {s t : Stage σ} (h : Refused r e refused s t) (rest : List Branch) (journal : List Event)
    {w : Walk σ} (hw : w.stage = s) :
    moves.walkFirst (refused ++ rest) (view journal w) =
      moves.walkFirst rest (view (journal ++ asked refused) { w with stage := t }) := by
  induction h generalizing journal w with
  | nil =>
    subst hw
    simp [asked]
  | @cons condition steps more s t u under h _ ih =>
    subst hw
    rw [List.cons_append, walkFirst, bind_of_ok _ (tests.ok (under ▸ h)), asked_cons,
      List.append_cons journal _ (asked more)]
    exact ih _ rfl

/-- The branch that decides is taken, and none behind it is looked at. -/
theorem walkFirst_of_decided (tests : moves.TestsBy r view) {rest : List Branch} {s t : Stage σ}
    {verdict : Verdict} (h : Decided r e rest s verdict t) (journal : List Event) {w : Walk σ}
    (hw : w.stage = s) :
    moves.walkFirst rest (view journal w) =
      verdict.carryOut (moves.walkSteps none)
        (view (journal ++ asked (rest.take 1)) { w with stage := t }) := by
  subst hw
  cases h with
  | exhausted | bare =>
    rw [show journal ++ asked _ = journal from List.append_nil _]
    rfl
  | holds under h =>
    rw [walkFirst, bind_of_ok _ (tests.ok (under ▸ h))]
    rfl
  | raises under h =>
    rw [walkFirst, bind_of_error _ (tests.error (under ▸ h))]
    rfl

/-- A conditional does what it is decided to do. -/
theorem walkStep_ifBlock (tests : moves.TestsBy r view) {text : Option String}
    {children : List Step} {refused rest : List Branch} {s s' t : Stage σ} {verdict : Verdict}
    (split : branchesOf text children = refused ++ rest) (hr : Refused r e refused s s')
    (hd : Decided r e rest s' verdict t) (journal : List Event) {w : Walk σ} (hw : w.stage = s)
    (parameters : List (Option String)) (item : Option String) :
    moves.walkStep item ⟨.ifBlock, text, parameters, children⟩ (view journal w) =
      verdict.carryOut (moves.walkSteps none)
        (view (journal ++ asked (refused ++ rest.take 1)) { w with stage := t }) := by
  rw [moves.walkStep_ifBlock, split, tests.walkFirst_of_refused hr rest journal hw,
    tests.walkFirst_of_decided hd _ rfl, asked_append, List.append_assoc]

end Moves.TestsBy

namespace Crew

variable (crew : Crew σ)

private theorem testsBy_moves :
    (crew.moves stray).TestsBy crew.conditions fun _ w ↦ w where
  ok h := Walking.ofPlay_of_ok h
  error h := Walking.ofPlay_of_error h

private theorem watchedMoves_test (condition : String) (w : Walk σ) (journal : List Event) :
    crew.watchedMoves.test condition (w.watched journal) =
      match crew.conditionHolds condition w with
      | .ok holds w' => .ok holds (w'.watched (journal ++ [.tested condition]))
      | .error e w' => .error e (w'.watched (journal ++ [.tested condition])) := by
  let noted := (w.watched journal).noted (.tested condition)
  have books := crew.silent_conditionHolds condition noted noted ⟨rfl, rfl, rfl⟩
  have ends {v : Walk σ} {w' : Walk (Watched σ)} (same : Walk.Related IsPlain v w')
      (left : w'.journal = noted.journal) : w' = v.watched (journal ++ [.tested condition]) := by
    rw [Walk.eq_plain same, show journal ++ [.tested condition] = w'.journal from left.symm]
    rfl
  obtain ⟨holds, v, w', hv, hw, same⟩ | ⟨e, v, w', hv, hw, same⟩ :=
    crew.simulates_watched.agree_conditionHolds condition noted.plain noted noted.isPlain
  · rw [hw] at books
    rw [show crew.conditionHolds condition w = _ from hv]
    exact hw.trans (congrArg _ (ends same books.journal))
  · rw [hw] at books
    rw [show crew.conditionHolds condition w = _ from hv]
    exact hw.trans (congrArg _ (ends same books.journal))

private theorem testsBy_watchedMoves :
    crew.watchedMoves.TestsBy crew.conditions Walk.watched where
  ok h := by
    rw [watchedMoves_test, conditionHolds_eq, Walking.ofPlay_of_ok h]
  error h := by
    rw [watchedMoves_test, conditionHolds_eq, Walking.ofPlay_of_error h]

/-- Of a conditional, exactly one branch is run or none, and which one is settled on the stage where
the conditional starts, whoever performs. Its branches are gone through in order: those passed over
have conditions that do not hold, and then one holds or is bare, none is left, or a predicate fails.
Up to there every condition is tested once, all under the variables as they were at first, and no
other one is tested. The variables are still the same then, and all that follows is that the steps
of the branch taken are run, if there is one. -/
theorem runStep_ifBlock {r : Registry σ} (h : r.ReadsOnly) (text : Option String)
    (children : List Step) (s : Stage σ) :
    ∃ refused rest s' verdict t,
      branchesOf text children = refused ++ rest ∧
      Refused r s.environment refused s s' ∧ Decided r s.environment rest s' verdict t ∧
      t.environment = s.environment ∧
      ∀ crew : Crew σ, crew.conditions = r → ∀ parameters item w, w.stage = s →
        crew.runStep item ⟨.ifBlock, text, parameters, children⟩ w =
            verdict.carryOut (crew.runSteps none) { w with stage := t } ∧
        ∀ journal,
          crew.watchedMoves.walkStep item ⟨.ifBlock, text, parameters, children⟩
              (w.watched journal) =
            verdict.carryOut (crew.watchedMoves.walkSteps none)
              (Walk.watched (journal ++ asked (refused ++ rest.take 1)) { w with stage := t }) := by
  obtain ⟨refused, rest, s', verdict, t, split, hr, hd, kept⟩ :=
    exists_decided h (branchesOf text children) (s := s) rfl
  refine ⟨refused, rest, s', verdict, t, split, hr, hd, kept, ?_⟩
  rintro crew rfl parameters item w hw
  have steps : (crew.moves stray).walkSteps none = crew.runSteps none :=
    funext fun steps ↦ (crew.walkSteps_eq_moves stray none steps).symm
  constructor
  · rw [runStep, walkStep_eq_moves, ← steps]
    exact crew.testsBy_moves.walkStep_ifBlock split hr hd [] hw parameters item
  · intro journal
    exact crew.testsBy_watchedMoves.walkStep_ifBlock split hr hd journal hw parameters item

end Crew

/-- Of a conditional with branches between the steps of its body, the one is taken whose condition
is the first to hold. Behind it stand a bare branch and one whose predicate would fail if it were
asked. -/
theorem second_branch_taken :
    let broken : Predicate Unit := fun _ => throw (.fault ⟨.runtime, "broken"⟩)
    let r := Registry.standard.register "broken " broken
    let children :=
      [Step.action "Say" [], .elseBranch "page title contains Home" [.action "Ask" ["why"]],
        .action "Look" [], .elseBranch none [.action "Wait" []],
        .elseBranch "broken link" [.action "Stop" []]]
    let start : Walk Unit :=
      { stage := { environment := .ofFields [("pageTitle", .text "Home")], world := () } }
    r.ReadsOnly ∧
      (∃ t, r.evaluate "broken link" start.stage = .error (.fault ⟨.runtime, "broken"⟩) t) ∧
      (∃ (verdict : Verdict) (t : Stage Unit), t.environment = start.stage.environment ∧
        (idleCrew r).runStep none (.ifBlock "page title contains Cart" children) start =
          verdict.carryOut ((idleCrew r).runSteps none) { start with stage := t }) ∧
      recordedParameters
        ((idleCrew r).runStep none (.ifBlock "page title contains Cart" children) start) =
          [["why"]] := by
  intro broken r children start
  have readsOnly : r.ReadsOnly := Registry.readsOnly_standard.register (fun _ _ _ hs ↦ hs) _
  obtain ⟨_, _, _, verdict, t, -, -, -, kept, runs⟩ :=
    Crew.runStep_ifBlock readsOnly (some "page title contains Cart") children start.stage
  obtain ⟨run, -⟩ := runs (idleCrew r) rfl [] none start rfl
  exact ⟨readsOnly, ⟨_, rfl⟩, ⟨verdict, t, kept, run⟩, by decide +kernel⟩

end Playbook
