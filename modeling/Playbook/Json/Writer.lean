import Playbook.Value.Basic
import Playbook.Text.Quoted

/-!
# Writing JSON

A value is written on one line or, for files that people read, with one item or field a line and
two more spaces for every level. Texts are written as they are but for the quote, the backslash
and control characters.
-/

namespace Playbook.Json

/-- One character inside a JSON text. -/
def escapeChar (c : Char) : List Char :=
  if c = '"' ∨ c = '\\' then ['\\', c]
  else if c = '\n' then ['\\', 'n']
  else if c = '\r' then ['\\', 'r']
  else if c = '\t' then ['\\', 't']
  else if c.toNat = 0x8 then ['\\', 'b']
  else if c.toNat = 0xC then ['\\', 'f']
  else if c.toNat < 0x20 then '\\' :: 'u' :: Text.hexDigits 4 c.toNat
  else [c]

/-- A JSON text. -/
def writeText (s : String) : String :=
  String.ofList ('"' :: s.toList.flatMap escapeChar ++ ['"'])

/-- A JSON number; the values that JSON has no number for have names. -/
def writeNumber : Number → String
  | .real .nan => "NaN"
  | .real (.infinite s) => if s then "-Infinity" else "Infinity"
  | n => n.text

mutual

/-- A value on one line. -/
def compact : Value → String
  | .null => "null"
  | .bool b => if b then "true" else "false"
  | .number n => writeNumber n
  | .text s => writeText s
  | .list items => "[" ++ ",".intercalate (compactItems items) ++ "]"
  | .object fields => "\x7b" ++ ",".intercalate (compactFields fields) ++ "\x7d"

/-- The items of a list, each on one line. -/
def compactItems : List Value → List String
  | [] => []
  | v :: rest => compact v :: compactItems rest

/-- The fields of an object, each on one line. -/
def compactFields : List (String × Value) → List String
  | [] => []
  | (name, v) :: rest => (writeText name ++ ":" ++ compact v) :: compactFields rest

end

/-- Items between brackets, each on a line of its own; brackets around nothing stay together. -/
def block (opening closing : String) (depth : Nat) (items : List String) : String :=
  let margin := fun n => "\n" ++ String.ofList (List.replicate (2 * n) ' ')
  if items.isEmpty then opening ++ closing
  else
    opening ++ margin (depth + 1) ++ ("," ++ margin (depth + 1)).intercalate items ++
      margin depth ++ closing

mutual

/-- A value at a depth, with its parts on lines of their own. -/
def indentedAt (depth : Nat) : Value → String
  | .null => "null"
  | .bool b => if b then "true" else "false"
  | .number n => writeNumber n
  | .text s => writeText s
  | .list items => block "[" "]" depth (indentedItems (depth + 1) items)
  | .object fields => block "\x7b" "\x7d" depth (indentedFields (depth + 1) fields)

/-- The items of a list at a depth. -/
def indentedItems (depth : Nat) : List Value → List String
  | [] => []
  | v :: rest => indentedAt depth v :: indentedItems depth rest

/-- The fields of an object at a depth. -/
def indentedFields (depth : Nat) : List (String × Value) → List String
  | [] => []
  | (name, v) :: rest =>
    (writeText name ++ ": " ++ indentedAt depth v) :: indentedFields depth rest

end

/-- A value with its parts on lines of their own. -/
def indented (v : Value) : String := indentedAt 0 v

end Playbook.Json
