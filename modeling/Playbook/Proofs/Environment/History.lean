import Mathlib.Data.List.Induction
import Playbook.Proofs.Environment.Operations
import Playbook.Proofs.Value.Equality

/-!
# Environments and their histories

A history tells which names were written and removed, the oldest change first, and nothing about
environments. What a name holds, whether it lacks a value and since when it is bound are told by the
history (`Holds`, `Lacks`, `BoundSince`), and so is what an operation answers and what it adds
(`Ends`). An environment mirrors a history if it has the values that names hold, in the order in
which they were bound (`Mirrors`); operations keep to that one by one (`Mirrors.carryOut`), and so
does every course of them (`carryOutAll_history`).
-/

namespace Playbook.Environment

/-- A change of what a name is bound to. -/
inductive Change where
  | wrote (name : String) (v : Value)
  | removed (name : String)

/-- The name that a change is about. -/
def Change.name : Change → String
  | wrote name _ => name
  | removed name => name

/-- The changes so far, oldest first. -/
abbrev History := List Change

namespace History

variable {h before after : History} {x y : Change} {name other : String} {v : Value} {i j : Nat}

/-- A name holds the value that was last written to it, if it was not removed since. -/
def Holds (h : History) (name : String) (v : Value) : Prop :=
  ∃ before after, h = before ++ .wrote name v :: after ∧ ∀ x ∈ after, x.name ≠ name

/-- A name has no value if it was never written, or was removed since. -/
def Lacks (h : History) (name : String) : Prop :=
  ∀ before v after, h = before ++ .wrote name v :: after → .removed name ∈ after

/-- A name is bound since the first time that it was written after it was last removed. -/
def BoundSince (h : History) (name : String) (i : Nat) : Prop :=
  ∃ before v after, h = before ++ .wrote name v :: after ∧ before.length = i ∧
    Lacks before name ∧ .removed name ∉ after

/-- Both names are bound, the first for longer. -/
def Before (h : History) (name other : String) : Prop :=
  ∃ i j, h.BoundSince name i ∧ h.BoundSince other j ∧ i < j

/-- No name is bound for longer. -/
def Oldest (h : History) (name : String) : Prop :=
  ∃ i, h.BoundSince name i ∧ ∀ other j, h.BoundSince other j → i ≤ j

/-! ### One more change -/

/-- A change of a longer history is the last one or one of those before. -/
theorem concat_eq_append_cons_iff :
    h ++ [x] = before ++ y :: after ↔
      (h = before ∧ x = y ∧ after = []) ∨
        ∃ rest, h = before ++ y :: rest ∧ after = rest ++ [x] := by
  cases after using List.reverseRecOn with
  | nil => simp
  | append_singleton rest z =>
    rw [← List.cons_append, ← List.append_assoc, List.append_singleton_inj]
    constructor
    · rintro ⟨rfl, rfl⟩
      exact .inr ⟨rest, rfl, rfl⟩
    · rintro (⟨-, -, none⟩ | ⟨rest', rfl, last⟩)
      · simp at none
      · obtain ⟨rfl, rfl⟩ := List.append_singleton_inj.mp last
        exact ⟨rfl, rfl⟩

@[simp] private theorem not_holds_nil : ¬ Holds [] name v := by
  rintro ⟨before, after, eq, -⟩
  simp at eq

@[simp] private theorem lacks_nil : Lacks [] name := by
  intro before v after eq
  simp at eq

/-- A name holds what was written last, unless it was removed since. -/
theorem holds_concat :
    Holds (h ++ [x]) name v ↔ x = .wrote name v ∨ x.name ≠ name ∧ h.Holds name v := by
  simp only [Holds, concat_eq_append_cons_iff]
  constructor
  · rintro ⟨before, after, ⟨-, rfl, -⟩ | ⟨rest, rfl, rfl⟩, kept⟩
    · exact .inl rfl
    · exact .inr ⟨kept x (by simp), before, rest, rfl, fun y hy ↦ kept y (by simp [hy])⟩
  · rintro (rfl | ⟨hx, before, rest, rfl, kept⟩)
    · exact ⟨h, [], .inl ⟨rfl, rfl, rfl⟩, by simp⟩
    · refine ⟨before, rest ++ [x], .inr ⟨rest, rfl, rfl⟩, ?_⟩
      rw [List.forall_mem_append, List.forall_mem_singleton]
      exact ⟨kept, hx⟩

/-- A name is lacking if it was just removed, or was lacking before and is not concerned. -/
theorem lacks_concat :
    Lacks (h ++ [x]) name ↔ x = .removed name ∨ x.name ≠ name ∧ h.Lacks name := by
  simp only [Lacks, concat_eq_append_cons_iff]
  constructor
  · intro lacks
    by_cases hx : x = .removed name
    · exact .inl hx
    · refine .inr ⟨?_, fun before v rest eq ↦ ?_⟩
      · cases x with
        | wrote other v =>
          rintro rfl
          exact List.not_mem_nil (lacks h v [] (.inl ⟨rfl, rfl, rfl⟩))
        | removed other => exact fun same ↦ hx (congrArg _ same)
      · have later := lacks before v (rest ++ [x]) (.inr ⟨rest, eq, rfl⟩)
        simpa [Ne.symm hx] using later
  · rintro last before v after (⟨-, rfl, -⟩ | ⟨rest, eq, rfl⟩)
    · simp [Change.name] at last
    · obtain rfl | ⟨-, lacks⟩ := last
      · simp
      · exact List.mem_append_left _ (lacks before v rest eq)

/-- A name is bound since it was, unless it was just removed, or since now if it was lacking and is
written. -/
theorem boundSince_concat :
    BoundSince (h ++ [x]) name i ↔ (x ≠ .removed name ∧ h.BoundSince name i) ∨
      (∃ v, x = .wrote name v) ∧ h.Lacks name ∧ i = h.length := by
  simp only [BoundSince, concat_eq_append_cons_iff]
  constructor
  · rintro ⟨before, v, after, ⟨rfl, rfl, -⟩ | ⟨rest, rfl, rfl⟩, rfl, lacks, kept⟩
    · exact .inr ⟨⟨v, rfl⟩, lacks, rfl⟩
    · simp only [List.mem_append, List.mem_singleton, not_or] at kept
      exact .inl ⟨Ne.symm kept.2, before, v, rest, rfl, rfl, lacks, kept.1⟩
  · rintro (⟨hx, before, v, rest, rfl, rfl, lacks, kept⟩ | ⟨⟨v, rfl⟩, lacks, rfl⟩)
    · refine ⟨before, v, rest ++ [x], .inr ⟨rest, rfl, rfl⟩, rfl, lacks, ?_⟩
      simp [kept, Ne.symm hx]
    · exact ⟨h, v, [], .inl ⟨rfl, rfl, rfl⟩, rfl, lacks, List.not_mem_nil⟩

/-! ### What a history tells of a name -/

/-- A name lacks a value if there is none that it holds. -/
theorem lacks_iff : h.Lacks name ↔ ∀ v, ¬ h.Holds name v := by
  induction h using List.reverseRecOn with
  | nil => simp
  | append_singleton h x ih =>
    simp only [lacks_concat, holds_concat, ih, not_or, not_and]
    cases x with
    | wrote other w =>
      by_cases hn : other = name
      · simp [Change.name, hn]
      · simp [Change.name, hn]
    | removed other =>
      by_cases hn : other = name
      · simp [Change.name, hn]
      · simp [Change.name, hn]

/-- What has a value is bound since some time. -/
theorem Holds.exists_boundSince (held : h.Holds name v) : ∃ i, h.BoundSince name i := by
  induction h using List.reverseRecOn generalizing v with
  | nil => exact absurd held not_holds_nil
  | append_singleton h x ih =>
    simp only [boundSince_concat]
    by_cases fresh : Lacks h name
    · obtain rfl | ⟨-, held⟩ := holds_concat.mp held
      · exact ⟨h.length, .inr ⟨⟨v, rfl⟩, fresh, rfl⟩⟩
      · exact absurd held (lacks_iff.mp fresh v)
    · obtain ⟨w, old⟩ : ∃ w, Holds h name w := by
        simpa only [lacks_iff, not_forall, not_not] using fresh
      obtain ⟨i, since⟩ := ih old
      refine ⟨i, .inl ⟨?_, since⟩⟩
      rintro rfl
      simp [holds_concat, Change.name] at held

/-- A name is bound since a change of the history. -/
theorem BoundSince.lt_length (since : h.BoundSince name i) : i < h.length := by
  obtain ⟨before, v, after, rfl, rfl, -, -⟩ := since
  simp

private theorem BoundSince.exists_holds (since : h.BoundSince name i) : ∃ v, h.Holds name v := by
  obtain ⟨before, v, after, eq, -, -, kept⟩ := since
  have bound : ¬ Lacks h name := fun lacks ↦ kept (lacks before v after eq)
  simpa only [lacks_iff, not_forall, not_not] using bound

/-- A name is bound since one time only. -/
theorem BoundSince.unique (hi : h.BoundSince name i) (hj : h.BoundSince name j) : i = j := by
  induction h using List.reverseRecOn with
  | nil => exact absurd hi.lt_length (by simp)
  | append_singleton h x ih =>
    have bound {i : Nat} (since : BoundSince h name i) : ¬ Lacks h name := by
      obtain ⟨v, held⟩ := since.exists_holds
      exact fun lacks ↦ lacks_iff.mp lacks v held
    obtain ⟨-, hi⟩ | ⟨-, fresh, rfl⟩ := boundSince_concat.mp hi
    · obtain ⟨-, hj⟩ | ⟨-, fresh, -⟩ := boundSince_concat.mp hj
      · exact ih hi hj
      · exact absurd fresh (bound hi)
    · obtain ⟨-, hj⟩ | ⟨-, -, rfl⟩ := boundSince_concat.mp hj
      · exact absurd fresh (bound hj)
      · rfl

/-- Names stay in their order as long as neither is removed. -/
theorem Before.concat (b : h.Before name other) (hn : x ≠ .removed name)
    (ho : x ≠ .removed other) : Before (h ++ [x]) name other := by
  obtain ⟨i, j, hi, hj, lt⟩ := b
  exact ⟨i, j, boundSince_concat.mpr (.inl ⟨hn, hi⟩), boundSince_concat.mpr (.inl ⟨ho, hj⟩), lt⟩

end History

/-! ### Operations -/

/-- The writes of fields, in order. -/
def written (fields : List (String × Value)) : History :=
  fields.map fun f ↦ .wrote f.1 f.2

/-- How an operation ends after a history: what it answers, and what it adds. One that fails adds
nothing. -/
inductive Ends (h : History) : Operation → Answer → History → Prop
  | set (name : String) (v : Value) : Ends h (.set name v) (.ok .nothing) [.wrote name v]
  | assign (name : String) (v : Value) : Ends h (.assign name v) (.ok .nothing) [.wrote name v]
  | delete {name : String} {v : Value} (held : h.Holds name v) :
    Ends h (.delete name) (.ok .nothing) [.removed name]
  | delete_lacking {name : String} (lacks : h.Lacks name) :
    Ends h (.delete name) (.error (.name name)) []
  | pop {name : String} {v : Value} (default : Option Value) (held : h.Holds name v) :
    Ends h (.pop name default) (.ok (.value v)) [.removed name]
  | pop_default {name : String} (v : Value) (lacks : h.Lacks name) :
    Ends h (.pop name (some v)) (.ok (.value v)) []
  | pop_lacking {name : String} (lacks : h.Lacks name) :
    Ends h (.pop name none) (.error (.name name)) []
  | popFirst {name : String} {v : Value} (oldest : h.Oldest name) (held : h.Holds name v) :
    Ends h .popFirst (.ok (.entry name v)) [.removed name]
  | popFirst_lacking (lacks : ∀ name, h.Lacks name) : Ends h .popFirst (.error .everything) []
  | setDefault {name : String} {w : Value} (v : Value) (held : h.Holds name w) :
    Ends h (.setDefault name v) (.ok (.value w)) []
  | setDefault_lacking {name : String} (v : Value) (lacks : h.Lacks name) :
    Ends h (.setDefault name v) (.ok (.value v)) [.wrote name v]
  | update (fields : List (String × Value)) :
    Ends h (.update fields) (.ok .nothing) (written fields)
  | clear {names : List String} (all : ∀ name, name ∈ names ↔ ∃ v, h.Holds name v) :
    Ends h .clear (.ok .nothing) (names.map .removed)

/-- A course of operations from one history to another, with their answers. -/
inductive Course : History → List Operation → List Answer → History → Prop
  | nil (h : History) : Course h [] [] h
  | cons {h added h' : History} {op : Operation} {answer : Answer} {ops : List Operation}
    {answers : List Answer} (ends : Ends h op answer added)
    (course : Course (h ++ added) ops answers h') : Course h (op :: ops) (answer :: answers) h'

/-- An environment gives each name the value that it holds, and lists the names in the order in
which they were bound. -/
structure Mirrors (e : Environment) (h : History) : Prop where
  reads : ∀ name v, e.get? name = some v ↔ h.Holds name v
  listed : e.names.Pairwise h.Before

namespace Mirrors

variable {e : Environment} {h : History} {name : String}

/-- No bindings come of no changes. -/
theorem empty : Mirrors .empty [] where
  reads name v := by simp [get?, Environment.empty, Value.field?_nil]
  listed := List.Pairwise.nil

/-- A name without a value is one that lacks it. -/
theorem lacks_iff (m : e.Mirrors h) : e.get? name = none ↔ h.Lacks name := by
  simp only [History.lacks_iff, Option.eq_none_iff_forall_ne_some, ne_eq, m.reads]

/-- The names are those that hold a value. -/
theorem mem_names_iff (m : e.Mirrors h) : name ∈ e.names ↔ ∃ v, h.Holds name v := by
  simp only [← exists_get?_iff, m.reads]

/-- The first name is the oldest. -/
theorem oldest {rest : List String} (m : e.Mirrors h) (names : e.names = name :: rest) :
    h.Oldest name := by
  obtain ⟨v, held⟩ := m.mem_names_iff.mp (names ▸ List.mem_cons_self)
  obtain ⟨i, since⟩ := held.exists_boundSince
  refine ⟨i, since, fun other j hj ↦ ?_⟩
  have listed := m.mem_names_iff.mpr hj.exists_holds
  rw [names, List.mem_cons] at listed
  obtain rfl | later := listed
  · exact Nat.le_of_eq (since.unique hj)
  · obtain ⟨i', j', hi', hj', lt⟩ := List.rel_of_pairwise_cons (names ▸ m.listed) later
    rw [since.unique hi', hj.unique hj']
    exact Nat.le_of_lt lt

/-! ### One operation -/

/-- Binding a name is a change that writes it. -/
theorem set (m : e.Mirrors h) (name : String) (v : Value) :
    (e.set name v).Mirrors (h ++ [.wrote name v]) where
  reads other w := by
    rw [History.holds_concat, ← m.reads]
    by_cases ho : other = name
    · subst ho
      simp [Change.name]
    · simp [Change.name, get?_set_of_ne e v ho, Ne.symm ho]
  listed := by
    have kept : e.names.Pairwise (History.Before (h ++ [.wrote name v])) :=
      m.listed.imp fun b ↦ b.concat nofun nofun
    rw [names_set]
    split
    · exact kept
    · next absent =>
      -- A new name comes last, since every other one is bound since some place in the history.
      refine List.pairwise_append.mpr ⟨kept, List.pairwise_singleton _ _, fun other ho new hn ↦ ?_⟩
      obtain rfl := List.mem_singleton.mp hn
      obtain ⟨w, held⟩ := m.mem_names_iff.mp ho
      obtain ⟨i, since⟩ := held.exists_boundSince
      have fresh : h.Lacks new := m.lacks_iff.mp (Value.field?_eq_none absent)
      exact ⟨i, h.length, History.boundSince_concat.mpr (.inl ⟨nofun, since⟩),
        History.boundSince_concat.mpr (.inr ⟨⟨v, rfl⟩, fresh, rfl⟩), since.lt_length⟩

/-- Removing a name is a change that removes it. -/
theorem erase (m : e.Mirrors h) (name : String) :
    (e.erase name).Mirrors (h ++ [.removed name]) where
  reads other w := by
    rw [History.holds_concat, ← m.reads]
    by_cases ho : other = name
    · subst ho
      simp [Change.name]
    · simp [Change.name, get?_erase_of_ne ho, Ne.symm ho]
  listed := by
    rw [names_erase]
    refine (m.listed.filter _).imp_of_mem fun ha hb b ↦ ?_
    have kept {a : String} (ha : a ∈ e.names.filter (· != name)) :
        Change.removed name ≠ .removed a := by
      simp only [List.mem_filter, bne_iff_ne] at ha
      exact fun same ↦ ha.2 (Change.removed.inj same).symm
    exact b.concat (kept ha) (kept hb)

/-- Binding several names is one change after another. -/
theorem update (m : e.Mirrors h) (fields : List (String × Value)) :
    (e.update fields).Mirrors (h ++ written fields) := by
  induction fields generalizing e h with
  | nil => simpa [written, Environment.update] using m
  | cons f fields ih => simpa [written, Environment.update] using ih (m.set f.1 f.2)

/-- Nothing is left when the names are removed one after another. -/
theorem clear (m : e.Mirrors h) :
    Mirrors .empty (h ++ e.names.map .removed) := by
  generalize names : e.names = gone
  induction gone generalizing e h with
  | nil =>
    obtain rfl := eq_empty_of_names names
    simpa using m
  | cons name rest ih => simpa using ih (m.erase name) (names_erase_head names)

/-- An operation on an environment ends as the history says, and the environment mirrors the longer
history. -/
theorem carryOut (m : e.Mirrors h) (op : Operation) :
    ∃ added, Ends h op (op.carryOut e).1 added ∧ (op.carryOut e).2.Mirrors (h ++ added) := by
  have same : e.Mirrors (h ++ []) := by simpa using m
  cases op with
  | set name v => exact ⟨_, .set name v, m.set name v⟩
  | assign name v => exact ⟨_, .assign name v, m.set name v⟩
  | delete name =>
    cases found : e.get? name with
    | some v =>
      simp only [Operation.carryOut, delete_of_some found]
      exact ⟨_, .delete ((m.reads name v).mp found), m.erase name⟩
    | none =>
      simp only [Operation.carryOut, delete_of_none found]
      exact ⟨_, .delete_lacking (m.lacks_iff.mp found), same⟩
  | pop name default =>
    cases found : e.get? name with
    | some v =>
      simp only [Operation.carryOut, pop_of_some default found]
      exact ⟨_, .pop default ((m.reads name v).mp found), m.erase name⟩
    | none =>
      cases default with
      | some v =>
        simp only [Operation.carryOut, pop_default_of_none v found]
        exact ⟨_, .pop_default v (m.lacks_iff.mp found), same⟩
      | none =>
        simp only [Operation.carryOut, pop_of_none found]
        exact ⟨_, .pop_lacking (m.lacks_iff.mp found), same⟩
  | popFirst =>
    obtain ⟨empty, none⟩ | ⟨name, rest, v, names, found, first⟩ := e.popFirst_cases
    · simp only [Operation.carryOut, none]
      obtain rfl := eq_empty_of_names empty
      exact ⟨_, .popFirst_lacking fun name ↦ m.lacks_iff.mp rfl, same⟩
    · simp only [Operation.carryOut, first]
      exact ⟨_, .popFirst (m.oldest names) ((m.reads name v).mp found), m.erase name⟩
  | setDefault name v =>
    cases found : e.get? name with
    | some w =>
      simp only [Operation.carryOut, setDefault_of_some v found]
      exact ⟨_, .setDefault v ((m.reads name w).mp found), same⟩
    | none =>
      simp only [Operation.carryOut, setDefault_of_none v found]
      exact ⟨_, .setDefault_lacking v (m.lacks_iff.mp found), m.set name v⟩
  | update fields => exact ⟨_, .update fields, m.update fields⟩
  | clear => exact ⟨_, .clear fun name ↦ m.mem_names_iff, m.clear⟩

/-! ### A course of operations -/

/-- Whatever operations are carried out, their answers follow the course of a history, and the
environment mirrors it in the end. -/
theorem carryOutAll (m : e.Mirrors h) (ops : List Operation) :
    ∃ h', Course h ops (Operation.carryOutAll ops e).1 h' ∧
      (Operation.carryOutAll ops e).2.Mirrors h' := by
  induction ops generalizing e h with
  | nil => exact ⟨h, .nil h, m⟩
  | cons op ops ih =>
    obtain ⟨added, ends, m⟩ := m.carryOut op
    obtain ⟨h', course, m⟩ := ih m
    exact ⟨h', .cons ends course, m⟩

end Mirrors

/-- Binding a name again keeps its place; one that was removed comes back at the end. -/
example : (Operation.carryOutAll
    [.set "a" .null, .set "b" .null, .set "c" .null, .set "a" (.bool true), .delete "b",
      .delete "b", .assign "b" .null] .empty).2.names = ["a", "c", "b"] := by
  decide

end Playbook.Environment
