import Playbook.Text.Split

/-!
# Paths

A path names a place on a disk: from the root when it is anchored, from the working directory
when it is not. Reading a path drops empty parts and single dots; a double dot stays, because what
it means depends on what is on the disk. `resolve` takes double dots back by name alone.
-/

namespace Playbook

/-- Where a path starts. Two leading slashes are kept apart from one. -/
inductive Anchor where
  | workingDirectory
  | root
  | doubleRoot
  deriving DecidableEq, Repr, Inhabited

/-- The slashes that an anchor is written with. -/
def Anchor.text : Anchor → String
  | .workingDirectory => ""
  | .root => "/"
  | .doubleRoot => "//"

/-- Names from the root down to a place. -/
abbrev Location := List String

/-- An anchor and the names after it. -/
structure Path where
  anchor : Anchor
  parts : List String
  deriving DecidableEq, Repr, Inhabited

namespace Path

/-- The anchor of a written path: two slashes are an anchor of their own, any other count of
leading slashes is one slash. -/
def anchorOf : List Char → Anchor
  | '/' :: '/' :: '/' :: _ => .root
  | '/' :: '/' :: _ => .doubleRoot
  | '/' :: _ => .root
  | _ => .workingDirectory

/-- The parts of a written path. -/
def partsOf (cs : List Char) : List String :=
  ((Text.splitOn '/' cs).filter fun part => !part.isEmpty && part != ['.']).map String.ofList

/-- The path that a text denotes. -/
def ofText (s : String) : Path := ⟨anchorOf s.toList, partsOf s.toList⟩

/-- The path of a location. -/
def ofLocation (l : Location) : Path := ⟨.root, l⟩

/-- A path as text; the path without anchor and parts is a dot. -/
def text (p : Path) : String :=
  if p.anchor = .workingDirectory ∧ p.parts = [] then "."
  else p.anchor.text ++ "/".intercalate p.parts

/-- A path with a null character names nothing. -/
def isNameable (p : Path) : Bool := p.parts.all fun part => !part.toList.contains '\x00'

/-- The path without its last part. -/
def parent (p : Path) : Path := { p with parts := p.parts.dropLast }

/-- A path seen from another: an anchored one stays as it is. -/
def join (base p : Path) : Path :=
  match p.anchor with
  | .workingDirectory => { base with parts := base.parts ++ p.parts }
  | _ => p

/-- A path with a name below it. -/
def child (p : Path) (name : String) : Path := { p with parts := p.parts ++ [name] }

/-- The location that a path starts from. -/
def origin (workingDirectory : Location) (p : Path) : Location :=
  match p.anchor with
  | .workingDirectory => workingDirectory
  | _ => []

/-- One step by name alone: a double dot goes back. -/
def follow (l : Location) (part : String) : Location :=
  if part = ".." then l.dropLast else l ++ [part]

/-- The location of a path by names alone. -/
def resolve (workingDirectory : Location) (p : Path) : Location :=
  p.parts.foldl follow (p.origin workingDirectory)

/-- The path without its last part is shorter, if it has a part. -/
theorem length_parent_lt {p : Path} (h : p.parts ≠ []) :
    p.parent.parts.length < p.parts.length := by
  have := List.length_pos_iff.mpr h
  simp only [parent, List.length_dropLast]
  omega

/-- Joining adds parts. -/
theorem join_of_relative {base p : Path} (h : p.anchor = .workingDirectory) :
    base.join p = { base with parts := base.parts ++ p.parts } := by
  simp [join, h]

/-- An anchored path stays as it is. -/
theorem join_of_anchored {base p : Path} (h : p.anchor ≠ .workingDirectory) :
    base.join p = p := by
  cases ha : p.anchor <;> simp_all [join]

end Path

end Playbook
