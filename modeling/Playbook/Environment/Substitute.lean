import Playbook.Environment.Basic
import Playbook.Text.Blank

/-!
# Substitution

A text refers to a variable by its name between braces. `segments` cuts a text into references and
the characters between them, independently of what is bound: a reference reaches from a brace to
the next closing one on the same line. `substitute` puts the text of its value in the place of
every reference to a bound name; null counts as unbound, and an unbound reference stays as it is
written.
-/

namespace Playbook

/-- What the cut of a text consists of. -/
inductive Segment where
  /-- A character outside every reference. -/
  | plain (c : Char)
  /-- A reference, without its braces. -/
  | reference (body : List Char)
  deriving DecidableEq, Repr

namespace Segment

/-- The characters that a segment stands for. -/
def written : Segment → List Char
  | plain c => [c]
  | reference body => '\x7b' :: body ++ ['\x7d']

/-- The characters that a segment becomes under a look-up of names. -/
def resolve (lookup : List Char → Option (List Char)) : Segment → List Char
  | plain c => [c]
  | reference body => (lookup (Text.trim body)).getD (written (.reference body))

end Segment

/-- A character that neither closes a reference nor breaks it off. -/
def isReferenceChar (c : Char) : Bool := c != '\x7d' && c != '\n'

/-- The body of a reference whose opening brace has been read, and the text after it. -/
def referenceBody? (cs : List Char) : Option (List Char × List Char) :=
  match cs.dropWhile isReferenceChar with
  | '\x7d' :: after => some (cs.takeWhile isReferenceChar, after)
  | _ => none

/-- The text after a reference is shorter than the text from its body on. -/
theorem referenceBody?_length {cs body after : List Char}
    (h : referenceBody? cs = some (body, after)) : after.length < cs.length := by
  simp only [referenceBody?] at h
  split at h
  · next rest hd =>
    have := (List.dropWhile_suffix (l := cs) isReferenceChar).length_le
    rw [hd] at this
    simp only [Option.some.injEq, Prod.mk.injEq] at h
    rw [← h.2]
    simp only [List.length_cons] at this
    omega
  · cases h

/-- A reference's body, closing brace and the text after it are the text after its opening
brace. -/
theorem referenceBody?_append {cs body after : List Char}
    (h : referenceBody? cs = some (body, after)) : cs = body ++ '\x7d' :: after := by
  simp only [referenceBody?] at h
  split at h
  · next rest hd =>
    simp only [Option.some.injEq, Prod.mk.injEq] at h
    rw [← h.1, ← h.2, ← hd, List.takeWhile_append_dropWhile]
  · cases h

/-- The cut of a text into references and the characters between them. -/
def segments : List Char → List Segment
  | [] => []
  | c :: rest =>
    if c = '\x7b' then
      match _cut : referenceBody? rest with
      | some (body, after) => .reference body :: segments after
      | none => .plain c :: segments rest
    else .plain c :: segments rest
termination_by cs => cs.length
decreasing_by
  · have := referenceBody?_length _cut
    simp only [List.length_cons]
    omega
  · simp
  · simp

/-- The segments of a text are the text. -/
theorem flatMap_written_segments (cs : List Char) :
    (segments cs).flatMap Segment.written = cs := by
  fun_induction segments cs with
  | case1 => rfl
  | case2 rest body after h ih =>
    simp [Segment.written, ih, referenceBody?_append h]
  | case3 rest h ih => simp [Segment.written, ih]
  | case4 c rest hc ih => simp [Segment.written, ih]

/-- The text of a bound name; null counts as unbound. -/
def Environment.text? (e : Environment) (name : List Char) : Option (List Char) :=
  match e.get? (String.ofList name) with
  | none => none
  | some .null => none
  | some v => some v.display.toList

/-- A text with the values of the bound names it refers to. -/
def Environment.substitute (e : Environment) (text : String) : String :=
  String.ofList ((segments text.toList).flatMap (Segment.resolve e.text?))

/-- Substitution acts segment by segment. -/
@[simp] theorem Environment.toList_substitute (e : Environment) (text : String) :
    (e.substitute text).toList = (segments text.toList).flatMap (Segment.resolve e.text?) := by
  simp [Environment.substitute]

/-- A text without an opening brace refers to nothing. -/
theorem segments_eq_map {cs : List Char} (h : '\x7b' ∉ cs) : segments cs = cs.map .plain := by
  induction cs with
  | nil => simp [segments]
  | cons c rest ih =>
    have hc : c ≠ '\x7b' := (List.ne_of_not_mem_cons h).symm
    rw [segments, if_neg hc, ih (List.not_mem_of_not_mem_cons h), List.map_cons]

/-- Substitution leaves a text without references as it is. -/
theorem Environment.substitute_eq_self (e : Environment) {text : String}
    (h : '\x7b' ∉ text.toList) : e.substitute text = text := by
  rw [substitute, segments_eq_map h, List.flatMap_map]
  simp [Segment.resolve]

end Playbook
