import Playbook.Proofs.Environment.References
import Playbook.Proofs.Run.Looping
import Playbook.Proofs.Script.Saying
import Playbook.Proofs.Script.Template

/-!
# Variables in action lines

An action line is read before its references are replaced. A reference outside quotes stays in the
template if its name holds no digit, and the performer is handed the line with the value in its
place (`Crew.runStep_mention`). A digit in the name is taken out as a literal, and null counts as
unbound, so neither is replaced (`mention_not_always_replaced`).
-/

namespace Playbook

open Script

/-- A text that reading and substitution leave as it is, wherever it stands in a line: it holds no
opening brace, no double quote and no digit. -/
def Inert (s : String) : Prop :=
  ∀ c ∈ s.toList, c ≠ '\x7b' ∧ c ≠ '"' ∧ Text.isDigit c = false

/-- Whether a text is inert is told by its characters. -/
instance (s : String) : Decidable (Inert s) :=
  List.decidableBAll (fun c ↦ c ≠ '\x7b' ∧ c ≠ '"' ∧ Text.isDigit c = false) s.toList

/-- A name that stays between its braces, and is not quoted. -/
def Bare (n : String) : Prop :=
  ∀ c ∈ n.toList, isReferenceChar c ∧ c ≠ '"'

/-- Whether a name is bare is told by its characters. -/
instance (n : String) : Decidable (Bare n) :=
  List.decidableBAll (fun c ↦ isReferenceChar c ∧ c ≠ '"') n.toList

/-- A line that mentions a name between braces, and is inert around it. -/
structure Mention where
  before : String
  name : String
  after : String
  inert_before : Inert before
  inert_after : Inert after
  bare : Bare name
  starts : ∀ c ∈ before.toList.head?, Text.isBlank c = false
  ends : ∀ c ∈ after.toList.getLast?, Text.isBlank c = false

namespace Mention

variable (m : Mention)

/-- The line as it is written. -/
def line : String := m.before ++ braced m.name ++ m.after

private theorem toList_line :
    m.line.toList = m.before.toList ++ '\x7b' :: (m.name.toList ++ '\x7d' :: m.after.toList) := by
  simp [line, braced]

/-- The line is read without trimming anything. -/
theorem trim_line : Text.trim m.line.toList = m.line.toList := by
  rw [Text.trim_eq_self_iff, toList_line, List.head?_append, List.getLast?_append,
    List.getLast?_cons, List.getLast?_append, List.getLast?_cons]
  constructor
  · intro c hc
    cases first : m.before.toList.head? with
    | none =>
      rw [first] at hc
      cases hc
      rfl
    | some d =>
      rw [first] at hc
      exact m.starts c (first.trans hc)
  · intro c hc
    cases last : m.after.toList.getLast? with
    | none =>
      rw [last] at hc
      cases hc
      rfl
    | some d =>
      rw [last] at hc
      cases hc
      exact m.ends d last

/-- The line holds no double quote. -/
theorem no_quote : '"' ∉ m.line.toList := by
  rw [toList_line]
  intro h
  rcases List.mem_append.mp h with h | h
  · exact (m.inert_before _ h).2.1 rfl
  rcases List.mem_cons.mp h with h | h
  · cases h
  rcases List.mem_append.mp h with h | h
  · exact (m.bare _ h).2 rfl
  rcases List.mem_cons.mp h with h | h
  · cases h
  · exact (m.inert_after _ h).2.1 rfl

/-- The digits of the line are those of the name. -/
theorem noDigit_iff : (∀ c ∈ m.line.toList, Text.isDigit c = false) ↔
    ∀ c ∈ m.name.toList, Text.isDigit c = false := by
  rw [toList_line, List.forall_mem_append, List.forall_mem_cons, List.forall_mem_append,
    List.forall_mem_cons]
  exact ⟨fun h ↦ h.2.2.1, fun h ↦ ⟨fun c hc ↦ (m.inert_before c hc).2.2, by decide, h, by decide,
    fun c hc ↦ (m.inert_after c hc).2.2⟩⟩

/-- The reference in the line is resolved, and the line around it stays. -/
theorem substitute_line (e : Environment) :
    e.substitute m.line = m.before ++ e.resolve m.name ++ m.after := by
  have before : '\x7b' ∉ m.before.toList := fun h ↦ (m.inert_before _ h).1 rfl
  have after : '\x7b' ∉ m.after.toList := fun h ↦ (m.inert_after _ h).1 rfl
  rw [line, String.append_assoc, e.substitute_append (not_leavesOpen before),
    e.substitute_braced fun c hc ↦ (m.bare c hc).1, e.substitute_eq_self before,
    e.substitute_eq_self after, String.append_assoc]

/-- The line with the text of a value in place of the reference is what substitution makes of it,
exactly if the value is not null. -/
theorem substitute_line_iff {e : Environment} {x : Value}
    (bound : e.get? (Text.strip m.name) = some x) :
    e.substitute m.line = m.before ++ x.display ++ m.after ↔ x ≠ .null := by
  rw [m.substitute_line]
  constructor
  · rintro same rfl
    rw [Environment.resolve, bound, String.append_assoc, String.append_assoc] at same
    -- A reference starts with a brace, and the text of null does not.
    have first := congrArg (fun s ↦ (s.toList.drop m.before.toList.length).head?) same
    simp [braced, Value.display, Value.quoted] at first
  · intro present
    rw [e.resolve_of_get? bound present]

end Mention

namespace Crew

variable {σ : Type} (crew : Crew σ)

/-- Run outside a loop, an action line that mentions a bound variable is handed to the performer
once, and the performer alone settles how the step ends. It is handed over with the text of the
value in place of the reference and without parameters exactly if the name holds no digit and the
value is not null. -/
theorem runStep_mention (m : Mention) (action : (Step.ofLine m.line).kind = .action) (w : Walk σ)
    {x : Value} (bound : w.stage.environment.get? (Text.strip m.name) = some x) :
    let ending := (crew.watchedMoves.walkStep none (Step.ofLine m.line)).ending (w.watched [])
    (crew.runStep none (Step.ofLine m.line)).ending w = (ending.1, ending.2.plain) ∧
      (∃ said handed, turns ending.2.journal =
        [⟨w.stage.environment, said, handed, ending.1⟩]) ∧
      (turns ending.2.journal =
          [⟨w.stage.environment, m.before ++ x.display ++ m.after, [], ending.1⟩] ↔
        (∀ c ∈ m.name.toList, Text.isDigit c = false) ∧ x ≠ .null) := by
  intro ending
  refine ⟨crew.ending_runStep none _ (w.watched []), ?_⟩
  have said := ofLine_of_action m.trim_line action
  let read := extract m.line
  have turned : turns ending.2.journal =
      [w.turn (some read.template) (read.parameters.map some) ending.1] := by
    have acted := crew.turns_performAction (some read.template) (read.parameters.map some)
      (w.watched [])
    simp only [ending, said]
    exact acted
  rw [turned]
  refine ⟨⟨_, _, rfl⟩, ?_, ?_⟩
  · intro same
    obtain ⟨-, handed, parameters, -⟩ := Turn.mk.inj (List.singleton_inj.mp same)
    have none : read.parameters = [] :=
      List.map_eq_nil_iff.mp (List.map_eq_nil_iff.mp parameters)
    have noDigit := (parameters_extract_eq_nil_iff m.no_quote).mp none
    rw [template_extract m.trim_line m.no_quote noDigit] at handed
    exact ⟨m.noDigit_iff.mp noDigit, (m.substitute_line_iff bound).mp handed⟩
  · rintro ⟨noDigit, present⟩
    have noDigit := m.noDigit_iff.mpr noDigit
    rw [template_extract m.trim_line m.no_quote noDigit,
      (parameters_extract_eq_nil_iff m.no_quote).mpr noDigit]
    have handed := (m.substitute_line_iff bound).mpr present
    exact congrArg (fun action ↦ [Turn.mk w.stage.environment action [] ending.1]) handed

end Crew

/-! ### Lines that mention a variable -/

/-- The line that opens an item. -/
def Mention.opening (name : String) (bare : Bare name) : Mention where
  before := "Open "
  name := name
  after := " now"
  inert_before := by decide +kernel
  inert_after := by decide +kernel
  bare := bare
  starts := by
    rintro c ⟨⟩
    decide
  ends := by
    rintro c ⟨⟩
    decide

/-- The start of a walk with one name bound. -/
def startWith (name : String) (x : Value) : Walk Unit :=
  { stage := { environment := Environment.empty.set name x, world := () } }

private theorem eq_action {kind : StepKind} (h : (kind matches .action) = true) :
    kind = .action := by
  cases kind <;> first | rfl | cases h

private theorem get?_startWith {name : String} (tidy : Text.strip name = name) (x : Value) :
    (startWith name x).stage.environment.get? (Text.strip name) = some x := by
  rw [tidy]
  exact Environment.get?_set_self ..

/-- What a crew that does nothing is handed for the action line that mentions a variable. -/
def Mention.handed (m : Mention) (w : Walk Unit) : List (String × List String) :=
  let walk := (idleCrew {}).watchedMoves.walkStep none (Step.ofLine m.line)
  let ending := walk.ending (w.watched [])
  (turns ending.2.journal).map fun turn ↦ (turn.action, turn.parameters)

/-- A line that mentions a name without digits is handed over with the value in its place, whatever
the value holds. -/
theorem handed_of_shopItem :
    (Mention.opening "shop item" (by decide)).handed
        (startWith "shop item" (.text "\x7bcart\x7d \"1\"")) =
      [("Open \x7bcart\x7d \"1\" now", [])] := by
  have tidy : Text.strip "shop item" = "shop item" := by decide +kernel
  have bound := get?_startWith tidy (.text "\x7bcart\x7d \"1\"")
  have handed := (idleCrew {}).runStep_mention (.opening "shop item" (by decide))
    (eq_action (by decide +kernel)) (startWith "shop item" _) bound
  have inert : Inert "shop item" := by decide +kernel
  have turned := handed.2.2.mpr ⟨fun c hc ↦ (inert c hc).2.2, nofun⟩
  rw [Mention.handed, turned]
  rfl

/-- A variable is not always used in an action line: a digit in its name is taken out of the line
as a literal, and null is not put in the place of its name. -/
theorem mention_not_always_replaced :
    let m := Mention.opening "item1" (by decide)
    let w := startWith "item1" (.text "cart")
    let m' := Mention.opening "item" (by decide)
    let w' := startWith "item" .null
    (Step.ofLine m.line).kind = .action ∧
      w.stage.environment.get? (Text.strip "item1") = some (.text "cart") ∧
      m.handed w = [("Open \x7bitem\x7b\x7d\x7d now", ["1"])] ∧
      (Step.ofLine m'.line).kind = .action ∧
      w'.stage.environment.get? (Text.strip "item") = some .null ∧
      m'.handed w' = [("Open \x7bitem\x7d now", [])] := by
  intro m w m' w'
  exact ⟨eq_action (by decide +kernel), get?_startWith (by decide +kernel) _, by decide +kernel,
    eq_action (by decide +kernel), get?_startWith (by decide +kernel) _, by decide +kernel⟩

end Playbook
