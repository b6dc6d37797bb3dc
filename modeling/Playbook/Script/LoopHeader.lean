import Playbook.Failure
import Playbook.Script.Keyword
import Playbook.Text.Split

/-!
# Loop headers

A loop header names a variable and lists the items it takes: `name in [item, "item", …]`. The
name ends before the first `in` that a bracket follows; the items reach to the last closing
bracket, commas separate them, and blanks around an item and all double quotes in it are dropped.
-/

namespace Playbook.Script

/-- A loop's variable and the items it takes in turn. -/
structure LoopHeader where
  name : String
  items : List String
  deriving DecidableEq, Repr

/-- The text between an opening bracket at the start and the last closing bracket. -/
def bracketed? : List Char → Option (List Char)
  | '[' :: rest =>
    match rest.reverse.dropWhile (· != ']') with
    | _ :: body => some body.reverse
    | [] => none
  | _ => none

/-- The items' text, when the name of the loop ends where this text starts. -/
def itemsText? (cs : List Char) : Option (List Char) := do
  let cs ← dropBlanks? cs
  let cs ← Keyword.inWord.drop? cs
  let cs ← dropBlanks? cs
  bracketed? cs

/-- The texts of name and items, the name as short as can be. -/
def splitHeader? : List Char → Option (List Char × List Char)
  | [] => none
  | c :: rest =>
    match itemsText? (c :: rest) with
    | some body => some ([], body)
    | none => (splitHeader? rest).map fun (name, body) => (c :: name, body)

/-- The item that a part of the items' text stands for. -/
def itemOf (part : List Char) : String :=
  String.ofList ((Text.trim part).filter (· != '"'))

/-- Read a loop header. -/
def LoopHeader.ofText? (expression : String) : Option LoopHeader := do
  let (name, body) ← splitHeader? (Text.trim expression.toList)
  let name := Text.trim name
  let body := Text.trim body
  if name.isEmpty then none
  else some ⟨String.ofList name, if body.isEmpty then [] else (Text.splitOn ',' body).map itemOf⟩

/-- Read a loop header, or fail with the text that is none. -/
def LoopHeader.parse (expression : String) : Except Failure LoopHeader :=
  match ofText? expression with
  | some h => .ok h
  | none => .error (.invalidLoop expression)

end Playbook.Script
