import Playbook.Proofs.Run.Moves
import Playbook.Proofs.Run.Performing
import Playbook.Proofs.Run.Simulation

/-!
# What lasts through a case

What the performer and the predicates of a crew keep on the stage, its walks keep, and so does a
case from its start to its end (`Maintains.runCase`). A walk ends with its first failure; so all
that has to last through a failure is what is left for the end of the case.
-/

namespace Playbook

open Script

variable {σ : Type}

/-- A property of stages that neither looks at a clock nor reports take away. -/
structure Endures (clock : Clock σ) (P : Stage σ → Prop) : Prop where
  ticked : ∀ {s}, P s → P (s.ticked clock)
  logged : ∀ {s}, P s → ∀ level source text, P (s.logged level source text)

section

variable {crew : Crew σ} {inv broken : Stage σ → Prop}

/-- What the performer keeps, and leaves where it fails, an action does. -/
theorem performAction_keeps (going : Endures crew.clock inv) (gone : Endures crew.clock broken)
    (performed : ∀ action parameters, Keeps inv (fun _ ↦ broken) (crew.perform action parameters))
    (text : Option String) (parameters : List (Option String)) :
    Keeps (fun w ↦ inv w.stage) (fun _ w ↦ broken w.stage)
      (crew.performAction text parameters) := by
  intro w hw
  have done := performed (w.stage.environment.actionOf text)
    (w.stage.environment.parametersOf parameters)
  cases hr : crew.handOver text parameters w with
  | ok _ s =>
    rw [Crew.performAction_of_ok hr]
    exact going.logged (going.ticked (done.of_ok (going.ticked hw) hr)) _ _ _
  | error e s =>
    rw [Crew.performAction_of_error hr]
    exact gone.logged (gone.ticked (done.of_error (going.ticked hw) hr)) _ _ _

/-- Reading a header changes nothing. -/
theorem loopHeader_keeps {inv broken : Walk σ → Prop} (weaker : ∀ {w}, inv w → broken w)
    (header : String) : Keeps inv (fun _ ↦ broken) (Crew.loopHeader header) := by
  intro w hw
  cases hh : LoopHeader.ofText? (w.stage.environment.substitute header) with
  | some _ =>
    rw [Crew.loopHeader_of_some hh]
    exact hw
  | none =>
    rw [Crew.loopHeader_of_none hh]
    exact weaker hw

/-- A stray step changes nothing. -/
theorem stray_keeps {inv broken : Walk σ → Prop} (weaker : ∀ {w}, inv w → broken w)
    (kind : Script.StepKind) : Keeps inv (fun _ ↦ broken) (Crew.stray kind) := by
  intro w hw
  cases kind with
  | other tag => exact weaker hw
  | _ => exact hw

/-- What a walk leaves, whether it goes through or fails, is left at the end of its case. -/
theorem runWalk_keeps {clock : Clock σ} {walk : Walking σ Unit} (going : Endures clock inv)
    (gone : Endures clock broken) (weaker : ∀ {s}, inv s → broken s)
    (walked : Keeps (fun w ↦ inv w.stage) (fun _ w ↦ broken w.stage) walk) (name : String)
    {s : Stage σ} (hs : inv s) : broken (runWalk clock name walk s).2 := by
  have opened : inv (Walk.opened clock name s).stage :=
    going.ticked (going.ticked (going.logged hs _ _ _))
  have closed : ∀ failure (w : Walk σ) moment, broken w.stage →
      broken (closeCase clock name moment failure w w.stage).2 := by
    intro failure w moment hw
    cases failure with
    | none => exact gone.ticked (gone.logged hw _ _ _)
    | some e => exact gone.ticked (gone.logged hw _ _ _)
  rw [runWalk_eq]
  exact closed _ _ _ (Walking.leaves_ending walked weaker opened)

end

namespace Crew

/-- A property of stages that the crew's own work leaves alone: reading the clock, reporting and
binding variables. -/
structure Upholds (crew : Crew σ) (P : Stage σ → Prop) : Prop where
  ticked : ∀ {s}, P s → P (s.ticked crew.clock)
  logged : ∀ {s}, P s → ∀ level source text, P (s.logged level source text)
  bound : ∀ {s}, P s → ∀ name v, P (s.bound name v)

private theorem Upholds.endures {crew : Crew σ} {P : Stage σ → Prop} (h : crew.Upholds P) :
    Endures crew.clock P :=
  ⟨h.ticked, h.logged⟩

/-- What a crew keeps as long as nothing fails, and what is left of it by a failure. -/
structure Maintains (crew : Crew σ) (inv broken : Stage σ → Prop) : Prop where
  going : crew.Upholds inv
  gone : crew.Upholds broken
  weaker : ∀ {s}, inv s → broken s
  perform : ∀ action parameters, Keeps inv (fun _ ↦ broken) (crew.perform action parameters)
  conditions : ∀ p ∈ crew.conditions.entries, ∀ argument,
    Keeps inv (fun _ ↦ broken) (p.2 argument)

namespace Maintains

variable {crew : Crew σ} {inv broken : Stage σ → Prop}

/-- Each move of the crew keeps what its performer and predicates keep. -/
theorem keep_moves (h : crew.Maintains inv broken) :
    (crew.moves stray).Keep (fun w ↦ inv w.stage) fun _ w ↦ broken w.stage where
  act := performAction_keeps h.going.endures h.gone.endures h.perform
  test := keeps_conditionHolds h.conditions fun _ hs ↦ h.going.logged hs
  readHeader := loopHeader_keeps h.weaker
  bindItem _ _ _ hw := h.going.bound hw _ _
  stray := stray_keeps h.weaker

/-- What is left by a failure is left at the end of every case. -/
theorem runCase (h : crew.Maintains inv broken) (c : Case) {s : Stage σ} (hs : inv s) :
    broken (crew.runCase c s).2 := by
  refine runWalk_keeps h.going.endures h.gone.endures h.weaker ?_ c.name hs
  rw [runSteps, walkSteps_eq_moves]
  exact Moves.keeps_walkSteps h.keep_moves none c.steps

end Maintains

end Crew

/-! ### Between cases -/

/-- What records and reports keep, recording a result keeps. -/
theorem recordResult_keeps {P : Stage σ → Prop} {sink : Option (ResultSink σ)}
    (recorded : ∀ record ∈ sink, ∀ result, Keeps P (fun _ ↦ P) (record result))
    (logged : ∀ {s}, P s → ∀ level source text, P (s.logged level source text)) (c : Case)
    (result : CaseResult) {s : Stage σ} (hs : P s) : P (recordResult sink c result s).2 := by
  cases sink with
  | none => exact hs
  | some record =>
    have kept := recorded record rfl result
    cases hr : record result s with
    | ok _ t =>
      rw [recordResult_of_ok hr]
      exact kept.of_ok hs hr
    | error e t =>
      by_cases refused : e.isDiskFault = true
      · rw [recordResult_of_refused hr refused]
        exact logged (kept.of_error hs hr) _ _ _
      · rw [recordResult_of_failed hr refused]
        exact kept.of_error hs hr

/-- What the teardown and reports keep, tearing down keeps. -/
theorem tearDown_keeps {P : Stage σ → Prop} {teardown : Option (Play σ Unit)}
    (tornDown : ∀ play ∈ teardown, Keeps P (fun _ ↦ P) play)
    (logged : ∀ {s}, P s → ∀ level source text, P (s.logged level source text)) (c : Case)
    {s : Stage σ} (hs : P s) : P (tearDown teardown c s).2 := by
  cases teardown with
  | none => exact hs
  | some play =>
    have kept := tornDown play rfl
    cases hr : play s with
    | ok _ t =>
      rw [tearDown_of_ok hr]
      exact kept.of_ok hs hr
    | error e t =>
      rw [tearDown_of_error hr]
      exact logged (kept.of_error hs hr) _ _ _

/-- What every case, record and teardown keeps, a run of cases keeps. -/
theorem runInTurn_keeps {P : Stage σ → Prop} {run : Case → Routine σ CaseResult}
    {sink : Option (ResultSink σ)} {teardown : Option (Play σ Unit)}
    (ran : ∀ c {s}, P s → P (run c s).2)
    (recorded : ∀ c result {s}, P s → P (recordResult sink c result s).2)
    (tornDown : ∀ c {s}, P s → P (tearDown teardown c s).2) (cases : List Case)
    (kept : List CaseResult) {s : Stage σ} (hs : P s) :
    P (runInTurn run sink teardown cases kept s).2 := by
  induction cases generalizing kept s with
  | nil => exact hs
  | cons c cases ih =>
    have left := recorded c (run c s).1 (ran c hs)
    rcases went : recordResult sink c (run c s).1 (run c s).2 with ⟨e | _, t⟩
    · rw [went] at left
      rw [runInTurn_cons_of_error _ _ went]
      exact tornDown c left
    · rw [went] at left
      rw [runInTurn_cons_of_ok _ _ went]
      exact ih _ (tornDown c left)

section

variable {run : Case → Routine σ CaseResult} {sink : Option (ResultSink σ)}
  {teardown : Option (Play σ Unit)} {cases : List Case} {kept kept' results : List CaseResult}
  {s t : Stage σ} {e : Failure}

/-- More cases are run once the others were. -/
theorem runInTurn_append_of_ok (more : List Case)
    (h : runInTurn run sink teardown cases kept s = ((.ok results, kept'), t)) :
    (runInTurn run sink teardown (cases ++ more) kept s).2 =
      (runInTurn run sink teardown more kept' t).2 := by
  induction cases generalizing kept s results with
  | nil =>
    cases h
    rfl
  | cons c cases ih =>
    obtain ⟨u, rest, recorded, later, -⟩ := exists_of_runInTurn_cons_ok h
    rw [List.cons_append, runInTurn_cons_of_ok _ _ recorded]
    exact ih later

/-- A run that was ended does not go on with more cases. -/
theorem runInTurn_append_of_error (more : List Case)
    (h : runInTurn run sink teardown cases kept s = ((.error e, kept'), t)) :
    runInTurn run sink teardown (cases ++ more) kept s = ((.error e, kept'), t) := by
  induction cases generalizing kept s with
  | nil => cases h
  | cons c cases ih =>
    rw [List.cons_append]
    rcases recorded : recordResult sink c (run c s).1 (run c s).2 with ⟨_ | _, u⟩
    · rw [runInTurn_cons_of_error _ _ recorded] at h ⊢
      exact h
    · rw [runInTurn_cons_of_ok _ _ recorded] at h ⊢
      rcases later : runInTurn run sink teardown cases (kept ++ [(run c s).1])
        (tearDown teardown c u).2 with ⟨⟨_ | _, _⟩, _⟩
      · rw [later] at h
        cases h
        rw [ih later]
        rfl
      · rw [later] at h
        cases h

/-- What is there after some cases is there after more of them if a run keeps it. -/
theorem runInTurn_append_keeps {P : Stage σ → Prop}
    (keeps : ∀ cases kept {s}, P s → P (runInTurn run sink teardown cases kept s).2)
    (more : List Case) (h : P (runInTurn run sink teardown cases kept s).2) :
    P (runInTurn run sink teardown (cases ++ more) kept s).2 := by
  rcases went : runInTurn run sink teardown cases kept s with ⟨⟨_ | _, _⟩, t⟩
  · rw [went] at h
    rw [runInTurn_append_of_error more went]
    exact h
  · rw [went] at h
    rw [runInTurn_append_of_ok more went]
    exact keeps more _ h

/-- The stage after one case more is the one after that case, its record and its teardown. -/
theorem runInTurn_take_succ_of_ok {k : Nat} {c : Case} (hc : cases[k]? = some c)
    (h : runInTurn run sink teardown (cases.take k) kept s = ((.ok results, kept'), t)) :
    (runInTurn run sink teardown (cases.take (k + 1)) kept s).2 =
      (tearDown teardown c (recordResult sink c (run c t).1 (run c t).2).2).2 := by
  rw [List.take_add_one, hc, Option.toList_some, runInTurn_append_of_ok _ h]
  rcases recorded : recordResult sink c (run c t).1 (run c t).2 with ⟨_ | _, u⟩
  · rw [runInTurn_cons_of_error _ _ recorded]
  · rw [runInTurn_cons_of_ok _ _ recorded]
    rfl

/-- One case more changes nothing after a run that was ended. -/
theorem runInTurn_take_succ_of_error {k : Nat}
    (h : runInTurn run sink teardown (cases.take k) kept s = ((.error e, kept'), t)) :
    runInTurn run sink teardown (cases.take (k + 1)) kept s = ((.error e, kept'), t) := by
  rw [List.take_add_one, runInTurn_append_of_error _ h]

/-- A run adds results to what was kept, and each is that of its case, run once those before it
were. -/
theorem exists_kept_runInTurn (run : Case → Routine σ CaseResult) (sink : Option (ResultSink σ))
    (teardown : Option (Play σ Unit)) (cases : List Case) (kept : List CaseResult) (s : Stage σ) :
    ∃ own, (runInTurn run sink teardown cases kept s).1.2 = kept ++ own ∧
      ∀ k r, own[k]? = some r → ∃ c results kept' t, cases[k]? = some c ∧
        runInTurn run sink teardown (cases.take k) kept s = ((.ok results, kept'), t) ∧
        r = (run c t).1 := by
  induction cases generalizing kept s with
  | nil => exact ⟨[], (List.append_nil _).symm, nofun⟩
  | cons c cases ih =>
    rcases recorded : recordResult sink c (run c s).1 (run c s).2 with ⟨_ | _, u⟩
    · refine ⟨[(run c s).1], by rw [runInTurn_cons_of_error _ _ recorded], fun k r hr ↦ ?_⟩
      obtain ⟨rfl, rfl⟩ : k = 0 ∧ (run c s).1 = r := by
        simpa using List.getElem?_eq_some_iff.mp hr
      exact ⟨c, [], kept, s, rfl, rfl, rfl⟩
    · obtain ⟨own, all, each⟩ := ih (kept ++ [(run c s).1]) (tearDown teardown c u).2
      refine ⟨(run c s).1 :: own, ?_, fun k r hr ↦ ?_⟩
      · rw [runInTurn_cons_of_ok _ _ recorded]
        exact all.trans (List.append_assoc ..)
      · cases k with
        | zero =>
          cases hr
          exact ⟨c, [], kept, s, rfl, rfl, rfl⟩
        | succ k =>
          obtain ⟨c', results, kept', t, hc, before, same⟩ := each k r hr
          refine ⟨c', (run c s).1 :: results, kept', t, hc, ?_, same⟩
          rw [List.take_succ_cons, runInTurn_cons_of_ok _ _ recorded, before]
          rfl

end

end Playbook
