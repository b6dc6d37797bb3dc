import Playbook.Number.Basic

/-!
# Values

What a variable can hold and what a structured document is made of. An object keeps its fields in
the order of their first appearance; equality of objects does not look at that order.
-/

namespace Playbook

/-- A structured value. -/
inductive Value where
  | null
  | bool (b : Bool)
  | number (n : Number)
  | text (s : String)
  | list (items : List Value)
  | object (fields : List (String × Value))
  deriving Repr, Inhabited

namespace Value

/-- An integer value. -/
def int (n : Int) : Value := .number (.int n)

/-- A text, or null for none. -/
def ofText? : Option String → Value
  | some s => .text s
  | none => .null

/-- A list of texts. -/
def texts (ss : List String) : Value := .list (ss.map .text)

/-- The field of an object under a name. -/
def field? (fields : List (String × Value)) (name : String) : Option Value :=
  (fields.find? fun f => f.1 == name).map (·.2)

/-- Put a field into an object: an existing field keeps its place. -/
def putField (fields : List (String × Value)) (name : String) (v : Value) :
    List (String × Value) :=
  match fields with
  | [] => [(name, v)]
  | f :: rest => if f.1 == name then (name, v) :: rest else f :: putField rest name v

/-- Null, false, zero and what is empty do not hold. -/
def holds : Value → Bool
  | .null => false
  | .bool b => b
  | .number n => !n.isZero
  | .text s => !s.isEmpty
  | .list items => !items.isEmpty
  | .object fields => !fields.isEmpty

/-- A truth value counts as one or zero among numbers. -/
def asNumber? : Value → Option Number
  | .bool b => some (.int (if b then 1 else 0))
  | .number n => some n
  | _ => none

mutual

/-- Equality of values: numbers by what they denote, lists item by item, objects field by field
whatever their order. -/
def equal : Value → Value → Bool
  | .null, .null => true
  | .text s, .text t => s == t
  | .list xs, .list ys => equalItems xs ys
  | .object fs, .object gs => fs.length == gs.length && equalFields fs gs
  | .bool a, w => w.asNumber?.any fun n => (Number.int (if a then 1 else 0)).equal n
  | .number m, w => w.asNumber?.any fun n => m.equal n
  | _, _ => false

/-- Two lists of values agree item by item. -/
def equalItems : List Value → List Value → Bool
  | [], [] => true
  | x :: xs, y :: ys => equal x y && equalItems xs ys
  | _, _ => false

/-- Every field of the first object has an equal one in the second. -/
def equalFields : List (String × Value) → List (String × Value) → Bool
  | [], _ => true
  | (name, v) :: rest, gs =>
    (match field? gs name with
      | some w => equal v w
      | none => false) && equalFields rest gs

end

end Value

end Playbook
