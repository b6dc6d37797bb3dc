import Playbook.Value.Display

/-!
# The variable environment

An environment binds names to values and lists its names in the order in which they were first
bound since they were last removed: binding a bound name keeps its place (`names_set`), removing
one closes the gap (`names_erase`). No name is listed twice.
-/

namespace Playbook

namespace Value

/-- The names of the fields of an object, in order. -/
def fieldNames (fields : List (String × Value)) : List String := fields.map (·.1)

/-- Putting a field keeps the names, or adds a new one at the end. -/
theorem fieldNames_putField (fields : List (String × Value)) (name : String) (v : Value) :
    fieldNames (putField fields name v) =
      if name ∈ fieldNames fields then fieldNames fields else fieldNames fields ++ [name] := by
  induction fields with
  | nil => simp [putField, fieldNames]
  | cons f rest ih =>
    by_cases h : f.1 = name
    · simp [putField, fieldNames, h]
    · have h' : ¬ name = f.1 := fun e => h e.symm
      simp only [fieldNames] at ih
      by_cases hm : name ∈ rest.map (·.1)
      · simp [putField, fieldNames, h, hm, ih]
      · simp [putField, fieldNames, h, h', hm, ih]

/-- The field just put is found. -/
theorem field?_putField_self (fields : List (String × Value)) (name : String) (v : Value) :
    field? (putField fields name v) name = some v := by
  induction fields with
  | nil => simp [putField, field?]
  | cons f rest ih =>
    by_cases h : f.1 = name
    · simp [putField, field?, h]
    · simpa [putField, field?, h] using ih

/-- Putting a field leaves the others as they are. -/
theorem field?_putField_of_ne (fields : List (String × Value)) {name other : String} (v : Value)
    (h : other ≠ name) : field? (putField fields name v) other = field? fields other := by
  induction fields with
  | nil => simp [putField, field?, Ne.symm h]
  | cons f rest ih =>
    by_cases hf : f.1 = name
    · have : ¬ f.1 = other := fun e => h (e.symm.trans hf)
      simp [putField, field?, hf, Ne.symm h]
    · by_cases ho : f.1 = other
      · subst ho
        simp [putField, field?, h]
      · simpa [putField, field?, hf, ho] using ih

end Value

/-- Bindings in order, no name bound twice. -/
structure Environment where
  bindings : List (String × Value)
  nodup : (Value.fieldNames bindings).Nodup

/-- The absence that an operation met: of a name, or of any binding. -/
inductive Unbound where
  | name (name : String)
  | everything
  deriving DecidableEq, Repr

/-- The wording of an absence: the name, quoted. -/
def Unbound.message : Unbound → String
  | .name n => Text.quoted n
  | .everything => ""

namespace Environment

/-- No bindings. -/
def empty : Environment := ⟨[], List.nodup_nil⟩

/-- By default an environment has no bindings. -/
instance : Inhabited Environment := ⟨empty⟩

/-- The bound names, in order. -/
def names (e : Environment) : List String := Value.fieldNames e.bindings

/-- The count of bound names. -/
def size (e : Environment) : Nat := e.bindings.length

/-- A name is bound, to null or to anything else. -/
def contains (e : Environment) (name : String) : Bool := e.names.contains name

/-- The value of a name. -/
def get? (e : Environment) (name : String) : Option Value := Value.field? e.bindings name

/-- Bind a name. -/
def set (e : Environment) (name : String) (v : Value) : Environment :=
  { bindings := Value.putField e.bindings name v
    nodup := by
      rw [Value.fieldNames_putField]
      split
      · exact e.nodup
      · next h =>
        exact List.nodup_append.mpr ⟨e.nodup, by simp, by
          intro a ha b hb hab
          simp only [List.mem_singleton] at hb
          exact h (hb ▸ hab ▸ ha)⟩ }

/-- Remove a name, if it is bound. -/
def erase (e : Environment) (name : String) : Environment :=
  { bindings := e.bindings.filter (·.1 != name)
    nodup := by
      have h : (Value.fieldNames (e.bindings.filter (·.1 != name))).Sublist
          (Value.fieldNames e.bindings) := List.Sublist.map _ List.filter_sublist
      exact h.nodup e.nodup }

/-- Bind the given names one after another. -/
def update (e : Environment) (fields : List (String × Value)) : Environment :=
  fields.foldl (fun e f => e.set f.1 f.2) e

/-- The environment with the given bindings; the last value of a name counts. -/
def ofFields (fields : List (String × Value)) : Environment := empty.update fields

/-- The value of a name that must be bound. -/
def get (e : Environment) (name : String) : Except Unbound Value :=
  match e.get? name with
  | some v => .ok v
  | none => .error (.name name)

/-- Remove a name that must be bound. -/
def delete (e : Environment) (name : String) : Except Unbound Environment :=
  if e.contains name then .ok (e.erase name) else .error (.name name)

/-- Remove a name and hand out its value, or hand out the default when there is no such name. -/
def pop (e : Environment) (name : String) (default : Option Value) :
    Except Unbound (Value × Environment) :=
  match e.get? name, default with
  | some v, _ => .ok (v, e.erase name)
  | none, some v => .ok (v, e)
  | none, none => .error (.name name)

/-- Remove the oldest binding and hand it out. -/
def popFirst (e : Environment) : Except Unbound ((String × Value) × Environment) :=
  match e.bindings with
  | [] => .error .everything
  | f :: _ => .ok (f, e.erase f.1)

/-- The value of a name, bound to the given value first when it is not bound. -/
def setDefault (e : Environment) (name : String) (v : Value) : Value × Environment :=
  match e.get? name with
  | some w => (w, e)
  | none => (v, e.set name v)

/-- Two environments are equal when they bind the same names to equal values. -/
def equal (e f : Environment) : Bool :=
  (Value.object e.bindings).equal (.object f.bindings)

/-- An environment as text. -/
def quoted (e : Environment) : String :=
  "VariableEnvironment(" ++ (Value.object e.bindings).quoted ++ ")"

/-- Binding a name keeps the names or adds a new one at the end. -/
theorem names_set (e : Environment) (name : String) (v : Value) :
    (e.set name v).names = if name ∈ e.names then e.names else e.names ++ [name] :=
  Value.fieldNames_putField e.bindings name v

/-- Removing a name leaves the others in order. -/
theorem names_erase (e : Environment) (name : String) :
    (e.erase name).names = e.names.filter (· != name) := by
  simp [names, erase, Value.fieldNames, List.filter_map, Function.comp_def]

/-- A name has the value it was bound to. -/
@[simp] theorem get?_set_self (e : Environment) (name : String) (v : Value) :
    (e.set name v).get? name = some v :=
  Value.field?_putField_self e.bindings name v

/-- Binding a name leaves the values of the others. -/
theorem get?_set_of_ne (e : Environment) {name other : String} (v : Value) (h : other ≠ name) :
    (e.set name v).get? other = e.get? other :=
  Value.field?_putField_of_ne e.bindings v h

end Environment

end Playbook
