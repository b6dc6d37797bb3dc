import Playbook.Text.Range

/-!
# Blanks

White space of every script. `trim` removes it at both ends of a text and is idempotent
(`trim_trim`); a trimmed text neither starts nor ends with a blank.
-/

namespace Playbook.Text

/-- Code points of white space (Unicode 14), the four information separators among them. -/
def blankRanges : List (Nat × Nat) :=
  [(0x9, 0xD), (0x1C, 0x20), (0x85, 0x85), (0xA0, 0xA0), (0x1680, 0x1680), (0x2000, 0x200A),
    (0x2028, 0x2029), (0x202F, 0x202F), (0x205F, 0x205F), (0x3000, 0x3000)]

/-- Blanks separate words and are dropped at the ends of a line. -/
def isBlank (c : Char) : Bool :=
  inRanges blankRanges c

/-- The characters after the leading blanks. -/
def trimLeft (cs : List Char) : List Char :=
  cs.dropWhile isBlank

/-- The characters before the trailing blanks. -/
def trimRight (cs : List Char) : List Char :=
  (cs.reverse.dropWhile isBlank).reverse

/-- The characters between leading and trailing blanks. -/
def trim (cs : List Char) : List Char :=
  trimRight (trimLeft cs)

/-- A text without the blanks at its ends. -/
def strip (s : String) : String :=
  String.ofList (trim s.toList)

/-- Stripping acts on the characters. -/
@[simp] theorem toList_strip (s : String) : (strip s).toList = trim s.toList := by
  simp [strip]

/-- Trimming on the right leaves a first part of the text. -/
theorem trimRight_prefix (cs : List Char) : trimRight cs <+: cs := by
  have h : cs.reverse.dropWhile isBlank <:+ cs.reverse := List.dropWhile_suffix _
  simpa [trimRight] using List.reverse_prefix.mpr h

private theorem dropWhile_idem {α : Type} (p : α → Bool) (xs : List α) :
    (xs.dropWhile p).dropWhile p = xs.dropWhile p := by
  induction xs with
  | nil => rfl
  | cons a xs ih =>
    by_cases h : p a
    · simp [h, ih]
    · simp [h]

/-- A text that starts with no blank still starts with none after trimming on the right. -/
theorem trimLeft_trimRight {cs : List Char} (h : trimLeft cs = cs) :
    trimLeft (trimRight cs) = trimRight cs := by
  cases hr : trimRight cs with
  | nil => rfl
  | cons a rest =>
    obtain ⟨tail, ht⟩ := trimRight_prefix cs
    rw [hr] at ht
    rw [← ht] at h
    by_cases ha : isBlank a
    · have hlen := congrArg List.length h
      simp only [trimLeft, List.cons_append, List.dropWhile_cons, ha, ↓reduceIte,
        List.length_cons] at hlen
      have := (List.dropWhile_suffix (l := rest ++ tail) isBlank).length_le
      omega
    · simp [trimLeft, ha]

/-- Trimming twice is trimming once. -/
theorem trim_trim (cs : List Char) : trim (trim cs) = trim cs := by
  have hl : trimLeft (trimLeft cs) = trimLeft cs := dropWhile_idem isBlank cs
  have hr : ∀ xs, trimRight (trimRight xs) = trimRight xs := fun xs => by
    simp [trimRight, dropWhile_idem]
  simp only [trim]
  rw [trimLeft_trimRight hl, hr]

end Playbook.Text
