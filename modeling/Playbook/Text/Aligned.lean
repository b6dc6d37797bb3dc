/-!
# Aligned texts

A column of a table is filled up with spaces to its width; a text that is wider is not cut.
-/

namespace Playbook.Text

/-- The spaces that a text leaves free in a column. -/
def gap (width : Nat) (s : String) : String :=
  String.ofList (List.replicate (width - s.length) ' ')

/-- A text at the right of a column. -/
def alignRight (width : Nat) (s : String) : String := gap width s ++ s

/-- A text at the left of a column. -/
def alignLeft (width : Nat) (s : String) : String := s ++ gap width s

end Playbook.Text
