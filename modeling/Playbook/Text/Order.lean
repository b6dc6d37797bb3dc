/-!
# Order of texts

Lists are ordered by the first place where they differ, a list before the lists that it starts.
Texts are ordered so by the code points of their characters, and paths by their parts.
-/

namespace Playbook.Text

/-- The order of two lists whose members are ordered. -/
def lexicographic {α : Type} (order : α → α → Ordering) : List α → List α → Ordering
  | [], [] => .eq
  | [], _ :: _ => .lt
  | _ :: _, [] => .gt
  | a :: as, b :: bs =>
    match order a b with
    | .eq => lexicographic order as bs
    | o => o

/-- The order of two characters. -/
def charOrder (a b : Char) : Ordering :=
  if a.toNat < b.toNat then .lt else if b.toNat < a.toNat then .gt else .eq

/-- The order of two texts. -/
def order (a b : String) : Ordering := lexicographic charOrder a.toList b.toList

end Playbook.Text
