import Playbook.Text.Blank

/-!
# Keywords

A keyword has one spelling a language. It is read without regard to letter case, and where a
spelling has several words any blanks may stand between them. `Keyword.drop?` takes a keyword off
the start of a line.
-/

namespace Playbook.Script

/-- Forms of a keyword letter that no shift of case explains: dotted and dotless I, long S, and
the old printing forms of Cyrillic letters. -/
def rareForms : List (Char × List Char) :=
  [('i', ['İ', 'ı']), ('s', ['ſ']), ('в', ['\u1c80']), ('д', ['\u1c81']), ('о', ['\u1c82']),
    ('с', ['\u1c83']), ('т', ['\u1c84', '\u1c85'])]

/-- The capital form of a letter of the keyword alphabets: 32 code points before the small one. -/
def capital (letter : Char) : Char :=
  if ('a' ≤ letter ∧ letter ≤ 'z') ∨ ('а' ≤ letter ∧ letter ≤ 'я') then
    Char.ofNat (letter.toNat - 32)
  else letter

/-- A character reads as a small keyword letter in any of its forms. -/
def sameLetter (letter c : Char) : Bool :=
  c == letter || c == capital letter ||
    (rareForms.find? (·.1 == letter)).any (·.2.contains c)

/-- The rest of a text that starts with a word in any letter case. -/
def dropWord? : List Char → List Char → Option (List Char)
  | [], cs => some cs
  | _ :: _, [] => none
  | w :: ws, c :: cs => if sameLetter w c then dropWord? ws cs else none

/-- The rest of a text after one or more blanks. -/
def dropBlanks? : List Char → Option (List Char)
  | [] => none
  | c :: cs => if Text.isBlank c then some (cs.dropWhile Text.isBlank) else none

/-- The rest of a text that starts with words set apart by blanks. -/
def dropWords? : List (List Char) → List Char → Option (List Char)
  | [], cs => some cs
  | [w], cs => dropWord? w cs
  | w :: ws, cs => do
    let cs ← dropWord? w cs
    let cs ← dropBlanks? cs
    dropWords? ws cs

/-- A keyword: its spellings, each a sequence of words in small letters. -/
structure Keyword where
  spellings : List (List (List Char))
  deriving DecidableEq, Repr

namespace Keyword

/-- The rest of a text that starts with a keyword in any of its spellings. -/
def drop? (k : Keyword) (cs : List Char) : Option (List Char) :=
  k.spellings.findSome? (dropWords? · cs)

/-- Opens a test case, with a colon behind it. -/
def test : Keyword := ⟨[["test".toList], ["тест".toList]]⟩

/-- Opens a conditional block. -/
def ifWord : Keyword := ⟨[["if".toList], ["если".toList]]⟩

/-- Opens another branch of a conditional block. -/
def elseWord : Keyword := ⟨[["else".toList], ["иначе".toList]]⟩

/-- Closes a conditional block. -/
def endIf : Keyword := ⟨[["endif".toList], ["конецесли".toList]]⟩

/-- Opens a loop. -/
def forEach : Keyword := ⟨[["for".toList, "each".toList], ["для".toList, "каждого".toList]]⟩

/-- Closes a loop. -/
def endLoop : Keyword := ⟨[["endloop".toList], ["конеццикла".toList]]⟩

/-- Stands between the name and the items of a loop header. -/
def inWord : Keyword := ⟨[["in".toList], ["в".toList]]⟩

end Keyword

end Playbook.Script
