import Playbook.Value.Basic
import Playbook.Text.Quoted

/-!
# Values as text

A value is shown in two ways: `quoted` tells texts from other values by their quotes and is used
inside lists, objects and messages; `display` shows a text as it is and everything else quoted.
-/

namespace Playbook.Value

mutual

/-- The quoted form of a value. -/
def quoted : Value → String
  | .null => "None"
  | .bool b => if b then "True" else "False"
  | .number n => n.text
  | .text s => Text.quoted s
  | .list items => "[" ++ ", ".intercalate (quotedItems items) ++ "]"
  | .object fields => "\x7b" ++ ", ".intercalate (quotedFields fields) ++ "\x7d"

/-- The quoted forms of the items of a list. -/
def quotedItems : List Value → List String
  | [] => []
  | v :: rest => quoted v :: quotedItems rest

/-- The quoted forms of the fields of an object. -/
def quotedFields : List (String × Value) → List String
  | [] => []
  | (name, v) :: rest => (Text.quoted name ++ ": " ++ quoted v) :: quotedFields rest

end

/-- A text as it is, any other value quoted. -/
def display : Value → String
  | .text s => s
  | v => v.quoted

end Playbook.Value
