import Playbook.Text.Blank
import Playbook.Text.Digit

/-!
# Literals

An action line holds literals: texts between double quotes that are not empty, and runs of decimal
digits. `pieces` cuts a line into literals and single characters between them, from left to right,
so that nothing of the line is lost (`flatMap_written_pieces`). The template of the line has a
placeholder for every literal; the values of the literals are its parameters.
-/

namespace Playbook.Script

/-- What the cut of a line consists of. -/
inductive Piece where
  /-- A character outside every literal. -/
  | plain (c : Char)
  /-- A literal between double quotes. -/
  | quoted (body : List Char)
  /-- A run of decimal digits. -/
  | digits (ds : List Char)
  deriving DecidableEq, Repr

namespace Piece

/-- The characters of the line that a piece stands for. -/
def written : Piece → List Char
  | plain c => [c]
  | quoted body => '"' :: body ++ ['"']
  | digits ds => ds

/-- The value of a literal. -/
def value? : Piece → Option (List Char)
  | plain _ => none
  | quoted body => some body
  | digits ds => some ds

/-- The characters of a piece in the template: a placeholder for a literal. -/
def template : Piece → List Char
  | plain c => [c]
  | quoted _ => ['\x7b', '\x7d']
  | digits _ => ['\x7b', '\x7d']

end Piece

/-- The part of a text before the next double quote and the part from it on. -/
def untilQuote (cs : List Char) : List Char × List Char :=
  (cs.takeWhile (· != '"'), cs.dropWhile (· != '"'))

/-- The part from the next double quote on is not longer than the text. -/
theorem untilQuote_snd_length_le (cs : List Char) : (untilQuote cs).2.length ≤ cs.length :=
  (List.dropWhile_suffix _).length_le

/-- The cut of a line into literals and the characters between them. A double quote that no other
follows, or that another follows at once, opens no literal. -/
def pieces : List Char → List Piece
  | [] => []
  | '"' :: rest =>
    match _cut : untilQuote rest with
    | (b :: body, _ :: after) => .quoted (b :: body) :: pieces after
    | _ => .plain '"' :: pieces rest
  | c :: rest =>
    if Text.isDigit c then
      .digits (c :: rest.takeWhile Text.isDigit) :: pieces (rest.dropWhile Text.isDigit)
    else .plain c :: pieces rest
termination_by cs => cs.length
decreasing_by
  · have := untilQuote_snd_length_le rest
    rw [_cut] at this
    simp only [List.length_cons] at this ⊢
    omega
  · simp
  · have := (List.dropWhile_suffix (l := rest) Text.isDigit).length_le
    simp only [List.length_cons]
    omega
  · simp

/-- The pieces of a line are the line. -/
theorem flatMap_written_pieces (cs : List Char) : (pieces cs).flatMap Piece.written = cs := by
  fun_induction pieces cs with
  | case1 => rfl
  | case2 rest b body q after h ih =>
    have hs : rest = (b :: body) ++ q :: after := by
      have h1 := congrArg Prod.fst h
      have h2 := congrArg Prod.snd h
      simp only [untilQuote] at h1 h2
      rw [← h1, ← h2, List.takeWhile_append_dropWhile]
    have hq : q = '"' := by
      have h2 := congrArg Prod.snd h
      simp only [untilQuote] at h2
      have := List.head?_dropWhile_not (fun c => c != '"') rest
      rw [h2] at this
      simpa using this
    subst hq
    simp [Piece.written, ih, hs]
  | case3 rest h ih => simp [Piece.written, ih]
  | case4 c rest hc hd ih => simp [Piece.written, ih]
  | case5 c rest hc hd ih => simp [Piece.written, ih]

/-- An action line without its literals, and their values in order. -/
structure Extracted where
  template : String
  parameters : List String
  deriving DecidableEq, Repr

/-- Take the literals out of a line. -/
def extract (line : String) : Extracted :=
  let ps := pieces line.toList
  { template := String.ofList (Text.trim (ps.flatMap Piece.template))
    parameters := (ps.filterMap Piece.value?).map String.ofList }

end Playbook.Script
