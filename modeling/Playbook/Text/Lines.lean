import Playbook.Text.Blank

/-!
# Lines

A text is cut into lines at every line end. Carriage return and line feed together are one line
end; a line end closes the line before it, so a text that ends with one has no empty last line.
-/

namespace Playbook.Text

/-- Characters that end a line, alone. -/
def isLineBreak (c : Char) : Bool :=
  inRanges [(0xA, 0xD), (0x1C, 0x1E), (0x85, 0x85), (0x2028, 0x2029)] c

/-- The lines of a text, without their line ends. -/
def splitLines : List Char → List (List Char)
  | [] => []
  | '\r' :: '\n' :: rest => [] :: splitLines rest
  | c :: rest =>
    if isLineBreak c then [] :: splitLines rest
    else
      match splitLines rest with
      | [] => [[c]]
      | line :: more => (c :: line) :: more

/-- The lines of a text as texts. -/
def lines (s : String) : List String :=
  (splitLines s.toList).map String.ofList

/-- Text files are read with a line feed for every carriage return, alone or before a line feed. -/
def normalizeBreaks : List Char → List Char
  | [] => []
  | '\r' :: '\n' :: rest => '\n' :: normalizeBreaks rest
  | '\r' :: rest => '\n' :: normalizeBreaks rest
  | c :: rest => c :: normalizeBreaks rest

end Playbook.Text
