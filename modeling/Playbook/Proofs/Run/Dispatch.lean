import Playbook.Run.Interpreter
import Playbook.Proofs.Script.Shape

/-!
# What parsed trees are run as

In a well-formed tree the interpreter meets actions, conditionals and loops only: whatever would
become of a stray step, a run does not change (`walkStep_congr`). The children of a loop are run as
copies of them, and those are no less well formed (`walkSteps_some`).
-/

namespace Playbook

namespace Crew

open Script

variable {σ : Type}

/-! ### Copies -/

/-- Running a step with an item is running its copy that has the item as its only parameter. -/
theorem walkStep_some (crew : Crew σ) (stray : StepKind → Walking σ Unit) (i : String)
    (s : Step) :
    crew.walkStep stray (some i) s =
      crew.walkStep stray none { s with parameters := [some i] } := by
  rcases s with ⟨kind, text, parameters, children⟩
  cases kind <;> simp only [walkStep]

/-- Running steps with an item is running copies of them. -/
theorem walkSteps_some (crew : Crew σ) (stray : StepKind → Walking σ Unit) (i : String)
    (steps : List Step) :
    crew.walkSteps stray (some i) steps =
      crew.walkSteps stray none (steps.map ({ · with parameters := [some i] })) := by
  induction steps with
  | nil => rfl
  | cons s steps ih =>
    rw [walkSteps, List.map_cons, walkSteps, walkStep_some, ih]

/-! ### Stray steps -/

variable {leaf : String → List String → Prop} {label : String → Prop}

private theorem walkSteps_congr {crew : Crew σ} {f g : StepKind → Walking σ Unit}
    {steps : List Step}
    (h : ∀ s ∈ steps, ∀ item, crew.walkStep f item s = crew.walkStep g item s)
    (item : Option String) : crew.walkSteps f item steps = crew.walkSteps g item steps := by
  induction steps with
  | nil => rfl
  | cons s steps ih =>
    obtain ⟨hs, hss⟩ := List.forall_mem_cons.mp h
    rw [walkSteps, walkSteps, hs, ih hss]

-- What becomes of stray steps does not count in a conditional's body where it does not count for
-- any of its children that is no branch.
private theorem walkBody_congr {crew : Crew σ} {f g : StepKind → Walking σ Unit}
    {children : List Step}
    (h : ∀ s ∈ children, s.isBranch = false → ∀ item,
      crew.walkStep f item s = crew.walkStep g item s) :
    crew.walkBody f children = crew.walkBody g children := by
  induction children with
  | nil => rfl
  | cons s children ih =>
    obtain ⟨hs, hss⟩ := List.forall_mem_cons.mp h
    rw [walkBody, walkBody, ih hss]
    cases hb : s.isBranch with
    | true => rfl
    | false => rw [hs hb]

private theorem walkBranches_append (crew : Crew σ) (f : StepKind → Walking σ Unit)
    {body : List Step} (h : ∀ s ∈ body, s.isBranch = false) (branches : List Step) :
    crew.walkBranches f (body ++ branches) = crew.walkBranches f branches := by
  induction body with
  | nil => rfl
  | cons s body ih =>
    obtain ⟨hs, hss⟩ := List.forall_mem_cons.mp h
    rw [List.cons_append, walkBranches]
    · exact ih hss
    · intro _ _ he
      rw [he] at hs
      cases hs
    · intro _ _ _ he
      rw [he] at hs
      cases hs

private theorem walkBranches_congr {crew : Crew σ} {f g : StepKind → Walking σ Unit}
    {branches : List Branch}
    (h : ∀ b ∈ branches, ∀ s ∈ b.steps, ∀ item,
      crew.walkStep f item s = crew.walkStep g item s) :
    crew.walkBranches f (branches.map Branch.step) =
      crew.walkBranches g (branches.map Branch.step) := by
  induction branches with
  | nil => rfl
  | cons b branches ih =>
    obtain ⟨hb, hbs⟩ := List.forall_mem_cons.mp h
    rcases b with ⟨_ | condition, steps⟩
    · exact walkSteps_congr hb none
    · rw [List.map_cons, Branch.step, Step.elseBranch, walkBranches, walkBranches,
        walkSteps_congr hb, ih hbs]

/-- A well-formed tree is run the same whatever becomes of stray steps, also with an item in place
of its parameters. -/
theorem walkStep_congr (crew : Crew σ) {s : Step} (h : Formed leaf label s)
    (f g : StepKind → Walking σ Unit) (item : Option String) :
    crew.walkStep f item s = crew.walkStep g item s := by
  induction h generalizing item with
  | action _ => rfl
  | ifBlock body branches _ hb _ _ ihBody ihBranches =>
    have hn : ∀ s ∈ body, s.isBranch = false := fun s hs ↦ (hb s hs).isBranch_eq_false
    have hbody : crew.walkBody f (body ++ branches.map Branch.step) =
        crew.walkBody g (body ++ branches.map Branch.step) := by
      apply walkBody_congr
      intro s hs hsn
      rcases List.mem_append.mp hs with hs | hs
      · exact ihBody s hs
      · obtain ⟨b, _, rfl⟩ := List.mem_map.mp hs
        cases hsn
    rw [Step.ifBlock, walkStep, walkStep, hbody, walkBranches_append crew f hn,
      walkBranches_append crew g hn, walkBranches_congr ihBranches]
  | loop _ _ ih =>
    rw [Step.loop, walkStep, walkStep]
    simp only [walkSteps_congr ih]

/-- The trees of a script that is read to its end are well formed, with tidy texts: branches stand
in conditionals only, after their other children, and closers stand nowhere. So when a test case is
run, on whatever stage and with whatever crew, no stray step is met: whatever would become of it,
the run is the same. -/
theorem parse_never_stray (text : String) (cases : List Case)
    (h : (parse text).outcome = .ok cases) :
    ∀ c ∈ cases,
      (∀ s ∈ c.steps, Formed (fun template _ ↦ Text.Tidy template) Text.Tidy s) ∧
        ∀ (σ : Type) (crew : Crew σ) (f : StepKind → Walking σ Unit),
          crew.walkSteps f none c.steps = crew.runSteps none c.steps := by
  intro c hc
  have hf := formed_of_parse h c hc
  refine ⟨hf, ?_⟩
  intro σ crew f
  apply walkSteps_congr
  intro s hs item
  exact walkStep_congr crew (hf s hs) f stray item

/-- A loop that holds a conditional with two branches, one of which holds a loop. -/
theorem never_stray_of_nested_loops :
    ∃ c,
      (parse
        "Test: A\nFor each i in L\nIf a\nElse if b\nFor each j in M\nB 1\nEndLoop\nElse").outcome =
        .ok [c] ∧
      (∀ s ∈ c.steps, Formed (fun template _ ↦ Text.Tidy template) Text.Tidy s) ∧
        ∀ (σ : Type) (crew : Crew σ) (f : StepKind → Walking σ Unit),
          crew.walkSteps f none c.steps = crew.runSteps none c.steps := by
  have h : (parse
      "Test: A\nFor each i in L\nIf a\nElse if b\nFor each j in M\nB 1\nEndLoop\nElse").outcome =
      .ok [⟨"A", [.loop "i in L" [.ifBlock "a"
        [.elseBranch (some "b") [.loop "j in M" [.action "B \x7b\x7d" ["1"]]],
          .elseBranch none []]]]⟩] := by
    with_unfolding_all rfl
  exact ⟨_, h, parse_never_stray _ _ h _ List.mem_cons_self⟩

end Crew

end Playbook
