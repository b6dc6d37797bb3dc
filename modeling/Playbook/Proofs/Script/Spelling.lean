import Mathlib.Data.List.Forall2
import Playbook.Proofs.Text.Trimmed
import Playbook.Script.Keyword

/-!
# Written keywords

A keyword is written in one of its languages, each letter in any of its forms and with blanks
between its words (`Keyword.Written`). No text starts with two keywords of the scripts: the first
words of any two spellings differ at some letter, and there in all forms. So a line that starts
with a written keyword starts with it (`drop?_of_written`) and with no other (`drop?_of_other`),
whatever follows, and nothing but a written keyword is taken off (`exists_written_of_drop?`). A mark
that is neither a blank nor a form of a letter stops a keyword: what stands before it tells what is
taken off (`drop?_append_mark`).
-/

namespace Playbook.Script

/-- Characters spell a word when each is a form of its letter. -/
def Spells (word cs : List Char) : Prop :=
  List.Forall₂ (fun letter c ↦ sameLetter letter c = true) word cs

/-- What sets words apart: blanks, and at least one. -/
def Gap (cs : List Char) : Prop :=
  cs ≠ [] ∧ ∀ c ∈ cs, Text.isBlank c = true

/-- Characters spell words in turn, set apart by blanks. -/
inductive SpellsAll : List (List Char) → List Char → Prop where
  | last {word cs : List Char} (h : Spells word cs) : SpellsAll [word] cs
  | cons {word cs gap rest : List Char} {words : List (List Char)} (h : Spells word cs)
      (hg : Gap gap) (hr : SpellsAll words rest) : SpellsAll (word :: words) (cs ++ (gap ++ rest))

/-- Characters are a way to write a keyword: they spell it in one of its languages. -/
def Keyword.Written (k : Keyword) (cs : List Char) : Prop :=
  ∃ words ∈ k.spellings, SpellsAll words cs

/-- Whether characters spell a word is told by comparing them. -/
instance (word cs : List Char) : Decidable (Spells word cs) :=
  inferInstanceAs (Decidable (List.Forall₂ _ word cs))

/-- Whether characters set words apart is told by each. -/
instance (cs : List Char) : Decidable (Gap cs) :=
  decidable_of_iff (cs ≠ [] ∧ cs.all Text.isBlank) (by rw [Gap, List.all_eq_true])

/-! ### Forms of letters -/

/-- The characters that a letter is read in. -/
def forms (letter : Char) : List Char :=
  letter :: capital letter :: ((rareForms.find? (·.1 == letter)).map Prod.snd).getD []

/-- A character that reads as a letter is one of its forms. -/
theorem mem_forms {letter c : Char} (h : sameLetter letter c = true) : c ∈ forms letter := by
  rw [sameLetter, Bool.or_eq_true, Bool.or_eq_true, beq_iff_eq, beq_iff_eq] at h
  rw [forms, List.mem_cons, List.mem_cons]
  rcases h with (h | h) | h
  · exact .inl h
  · exact .inr (.inl h)
  · refine .inr (.inr ?_)
    obtain ⟨entry, he, hc⟩ := (Option.any_eq_true _ _).mp h
    rw [he]
    exact List.contains_iff_mem.mp hc

/-- Two words differ at some letter in all forms. -/
def clash : List Char → List Char → Bool
  | [], _ => false
  | _ :: _, [] => false
  | letter :: word, letter' :: word' =>
    (forms letter).all (!(forms letter').contains ·) || clash word word'

/-! ### Taking words off a text -/

/-- A word is taken off a text that starts with it. -/
theorem dropWord?_of_spells {word cs : List Char} (h : Spells word cs) (rest : List Char) :
    dropWord? word (cs ++ rest) = some rest := by
  induction h with
  | nil => rfl
  | cons hc _ ih =>
    rw [List.cons_append, dropWord?, if_pos hc]
    exact ih

/-- What is taken off a text as a word spells it. -/
theorem exists_spells_of_dropWord? {word cs rest : List Char} (h : dropWord? word cs = some rest) :
    ∃ spelt, cs = spelt ++ rest ∧ Spells word spelt := by
  induction word generalizing cs with
  | nil =>
    cases h
    exact ⟨[], rfl, .nil⟩
  | cons letter word ih =>
    cases cs with
    | nil => cases h
    | cons c cs =>
      rw [dropWord?] at h
      split at h
      · next hc =>
        obtain ⟨spelt, rfl, hs⟩ := ih h
        exact ⟨c :: spelt, rfl, .cons hc hs⟩
      · cases h

/-- A text that starts with a word does not start with one that clashes with it. -/
theorem dropWord?_of_clash {word word' cs : List Char} (h : Spells word cs)
    (hw : clash word word' = true) (rest : List Char) : dropWord? word' (cs ++ rest) = none := by
  induction h generalizing word' with
  | nil => cases hw
  | @cons letter c word cs hc _ ih =>
    cases word' with
    | nil => cases hw
    | cons letter' word' =>
      rw [List.cons_append, dropWord?]
      split
      · next hc' =>
        rw [clash, Bool.or_eq_true] at hw
        refine ih (hw.resolve_left ?_)
        intro hall
        have hn := List.all_eq_true.mp hall c (mem_forms hc)
        rw [List.contains_iff_mem.mpr (mem_forms hc')] at hn
        cases hn
      · rfl

/-- Blanks are taken off a text that starts with them. -/
theorem dropBlanks?_of_gap {gap rest : List Char} (hg : Gap gap)
    (hr : ∀ c ∈ rest.head?, Text.isBlank c = false) : dropBlanks? (gap ++ rest) = some rest := by
  obtain ⟨hn, hb⟩ := hg
  obtain ⟨b, gap, rfl⟩ := List.exists_cons_of_ne_nil hn
  obtain ⟨hb, hg⟩ := List.forall_mem_cons.mp hb
  rw [List.cons_append, dropBlanks?, if_pos hb, List.dropWhile_append_of_pos hg]
  exact congrArg some (Text.trimLeft_eq_self_iff.mpr hr)

/-- What is taken off a text as blanks is a gap. -/
theorem exists_gap_of_dropBlanks? {cs rest : List Char} (h : dropBlanks? cs = some rest) :
    ∃ gap, cs = gap ++ rest ∧ Gap gap := by
  cases cs with
  | nil => cases h
  | cons c cs =>
    rw [dropBlanks?] at h
    split at h
    · next hc =>
      cases h
      refine ⟨c :: cs.takeWhile Text.isBlank, ?_, List.cons_ne_nil _ _, ?_⟩
      · rw [List.cons_append, List.takeWhile_append_dropWhile]
      · rw [List.forall_mem_cons]
        exact ⟨hc, List.all_eq_true.mp List.all_takeWhile⟩
    · cases h

/-- Words that start with a letter which has no blank form. -/
def Visible (word : List Char) : Prop :=
  word ≠ [] ∧ ∀ letter ∈ word.head?, ∀ c ∈ forms letter, Text.isBlank c = false

/-- Whether a word starts with a visible letter is told by the forms of the letter. -/
instance (word : List Char) : Decidable (Visible word) :=
  decidable_of_iff (word ≠ [] ∧ word.head?.all fun letter ↦ (forms letter).all (!Text.isBlank ·))
    (by simp [Visible, Option.all_eq_true])

private theorem SpellsAll.exists_first {words : List (List Char)} {cs : List Char}
    (h : SpellsAll words cs) :
    ∃ word tail first more, words = word :: tail ∧ cs = first ++ more ∧ Spells word first := by
  cases h with
  | last h => exact ⟨_, [], cs, [], rfl, (List.append_nil cs).symm, h⟩
  | cons h _ _ => exact ⟨_, _, _, _, rfl, rfl, h⟩

/-- Visible words start with no blank. -/
theorem SpellsAll.head_visible {words : List (List Char)} {cs : List Char}
    (h : SpellsAll words cs) (hv : ∀ word ∈ words, Visible word) (rest : List Char) :
    cs ≠ [] ∧ ∀ c ∈ (cs ++ rest).head?, Text.isBlank c = false := by
  obtain ⟨word, tail, first, more, rfl, rfl, hs⟩ := h.exists_first
  obtain ⟨hn, hb⟩ := hv word List.mem_cons_self
  cases hs with
  | nil => exact absurd rfl hn
  | @cons letter c word first hc _ =>
    refine ⟨List.cons_ne_nil _ _, ?_⟩
    intro d hd
    cases hd
    exact hb letter rfl c (mem_forms hc)

/-- Words are taken off a text that starts with them. -/
theorem dropWords?_of_spells {words : List (List Char)} {cs : List Char} (h : SpellsAll words cs)
    (hv : ∀ word ∈ words, Visible word) (rest : List Char) :
    dropWords? words (cs ++ rest) = some rest := by
  induction h with
  | last h => exact dropWord?_of_spells h rest
  | @cons word cs gap more words h hg hr ih =>
    obtain ⟨hw, hws⟩ := List.forall_mem_cons.mp hv
    rw [List.append_assoc, List.append_assoc, dropWords?, dropWord?_of_spells h]
    · change (dropBlanks? (gap ++ (more ++ rest))).bind _ = _
      rw [dropBlanks?_of_gap hg (hr.head_visible hws rest).2]
      exact ih hws
    · rintro rfl
      cases hr

/-- What is taken off a text as words spells them. -/
theorem exists_spellsAll_of_dropWords? {words : List (List Char)} {cs rest : List Char}
    (hn : words ≠ []) (h : dropWords? words cs = some rest) :
    ∃ spelt, cs = spelt ++ rest ∧ SpellsAll words spelt := by
  induction words generalizing cs with
  | nil => exact absurd rfl hn
  | cons word words ih =>
    cases words with
    | nil =>
      obtain ⟨spelt, rfl, hs⟩ := exists_spells_of_dropWord? h
      exact ⟨spelt, rfl, .last hs⟩
    | cons next words =>
      have hn' : next :: words ≠ [] := List.cons_ne_nil next words
      rw [dropWords?] at h
      · obtain ⟨_, hw, hr⟩ := Option.bind_eq_some_iff.mp h
        obtain ⟨_, hb, hl⟩ := Option.bind_eq_some_iff.mp hr
        obtain ⟨spelt, rfl, hs⟩ := exists_spells_of_dropWord? hw
        obtain ⟨gap, rfl, hg⟩ := exists_gap_of_dropBlanks? hb
        obtain ⟨more, rfl, hm⟩ := ih hn' hl
        exact ⟨spelt ++ (gap ++ more), by simp only [List.append_assoc], .cons hs hg hm⟩
      · exact hn'

/-- A text that starts with words does not start with some whose first clashes with theirs. -/
theorem dropWords?_of_clash {words words' : List (List Char)} {cs : List Char}
    (h : SpellsAll words cs)
    (hw : ∀ word ∈ words.head?, ∃ word' ∈ words'.head?, clash word word' = true)
    (rest : List Char) : dropWords? words' (cs ++ rest) = none := by
  obtain ⟨word, tail, first, more, rfl, rfl, hs⟩ := h.exists_first
  obtain ⟨word', hh, hc⟩ := hw word rfl
  obtain ⟨tail', rfl⟩ := List.head?_eq_some_iff.mp hh
  rw [List.append_assoc]
  have hn := dropWord?_of_clash hs hc (more ++ rest)
  cases tail' with
  | nil => exact hn
  | cons next tail' =>
    rw [dropWords?, hn]
    · rfl
    · intro he
      cases he

/-! ### Taking keywords off a line -/

/-- The keywords that a line of a script can start with. -/
def openers : List Keyword :=
  [.test, .ifWord, .elseWord, .endIf, .forEach, .endLoop]

private theorem visible_of_mem {k : Keyword} (hk : k ∈ openers) {words : List (List Char)}
    (hs : words ∈ k.spellings) : ∀ word ∈ words, Visible word := by
  have h : ∀ k ∈ openers, ∀ words ∈ k.spellings, ∀ word ∈ words, Visible word := by
    decide +kernel
  exact h k hk words hs

-- Two spellings of keywords are one, of one keyword, or their first words clash.
private theorem clash_of_mem {k k' : Keyword} (hk : k ∈ openers) (hk' : k' ∈ openers)
    {words words' : List (List Char)} (hs : words ∈ k.spellings) (hs' : words' ∈ k'.spellings) :
    (k = k' ∧ words = words') ∨
      ∀ word ∈ words.head?, ∃ word' ∈ words'.head?, clash word word' = true := by
  have h : ∀ k ∈ openers, ∀ k' ∈ openers, ∀ words ∈ k.spellings, ∀ words' ∈ k'.spellings,
      (k = k' ∧ words = words') ∨
        ∀ word ∈ words.head?, ∃ word' ∈ words'.head?, clash word word' = true := by
    decide +kernel
  exact h k hk k' hk' words hs words' hs'

/-- A written keyword holds something and starts with no blank. -/
theorem Keyword.Written.head {k : Keyword} (hk : k ∈ openers) {cs : List Char} (h : k.Written cs)
    (rest : List Char) : cs ≠ [] ∧ ∀ c ∈ (cs ++ rest).head?, Text.isBlank c = false := by
  obtain ⟨words, hs, hw⟩ := h
  exact hw.head_visible (visible_of_mem hk hs) rest

/-- A keyword is taken off a line that starts with it, however it is written. -/
theorem drop?_of_written {k : Keyword} (hk : k ∈ openers) {cs : List Char} (h : k.Written cs)
    (rest : List Char) : k.drop? (cs ++ rest) = some rest := by
  obtain ⟨words, hs, hw⟩ := h
  have hd := dropWords?_of_spells hw (visible_of_mem hk hs) rest
  cases hr : k.drop? (cs ++ rest) with
  | none =>
    rw [List.findSome?_eq_none_iff.mp hr words hs] at hd
    cases hd
  | some rest' =>
    obtain ⟨words', hs', hd'⟩ := List.exists_of_findSome?_eq_some hr
    rcases clash_of_mem hk hk hs hs' with ⟨_, rfl⟩ | hc
    · rw [← hd', hd]
    · rw [dropWords?_of_clash hw hc] at hd'
      cases hd'

/-- What is taken off a line as a keyword is a way to write it. -/
theorem exists_written_of_drop? {k : Keyword} (hk : [] ∉ k.spellings) {cs rest : List Char}
    (h : k.drop? cs = some rest) : ∃ written, cs = written ++ rest ∧ k.Written written := by
  obtain ⟨words, hs, hd⟩ := List.exists_of_findSome?_eq_some h
  obtain ⟨written, rfl, hw⟩ := exists_spellsAll_of_dropWords? (ne_of_mem_of_not_mem hs hk) hd
  exact ⟨written, rfl, words, hs, hw⟩

/-- A text of which a keyword leaves nothing is a way to write it. -/
theorem written_of_drop? {k : Keyword} (hk : [] ∉ k.spellings) {cs : List Char}
    (h : k.drop? cs = some []) : k.Written cs := by
  obtain ⟨written, rfl, hw⟩ := exists_written_of_drop? hk h
  rwa [List.append_nil]

/-- A line that starts with a keyword starts with no other. -/
theorem drop?_of_other {k k' : Keyword} (hk : k ∈ openers) (hk' : k' ∈ openers) (hn : k ≠ k')
    {cs : List Char} (h : k.Written cs) (rest : List Char) : k'.drop? (cs ++ rest) = none := by
  obtain ⟨words, hs, hw⟩ := h
  refine List.findSome?_eq_none_iff.mpr ?_
  intro words' hs'
  exact dropWords?_of_clash hw
    ((clash_of_mem hk hk' hs hs').resolve_left fun he ↦ hn he.1) rest

/-! ### Up to a mark -/

/-- A mark that no keyword runs over: it is no form of any of its letters. -/
def Keyword.StopsAt (k : Keyword) (mark : Char) : Prop :=
  ∀ words ∈ k.spellings, ∀ word ∈ words, ∀ letter ∈ word, sameLetter letter mark = false

/-- Whether a keyword stops at a mark is told by its letters. -/
instance (k : Keyword) (mark : Char) : Decidable (k.StopsAt mark) :=
  decidable_of_iff
    (k.spellings.all fun words ↦ words.all fun word ↦ word.all (!sameLetter · mark))
    (by simp [Keyword.StopsAt])

section

variable {mark : Char} (rest : List Char)

/-- A word is taken off what stands before a mark that is no form of its letters. -/
theorem dropWord?_append_mark {word : List Char}
    (stops : ∀ letter ∈ word, sameLetter letter mark = false) (cs : List Char) :
    dropWord? word (cs ++ mark :: rest) = (dropWord? word cs).map (· ++ mark :: rest) := by
  induction word generalizing cs with
  | nil => rfl
  | cons letter word ih =>
    obtain ⟨here, later⟩ := List.forall_mem_cons.mp stops
    cases cs with
    | nil =>
      rw [List.nil_append, dropWord?, dropWord?, here, Option.map_none]
      rfl
    | cons c cs =>
      rw [List.cons_append, dropWord?, dropWord?]
      split
      · exact ih later cs
      · rfl

/-- Blanks are taken off what stands before a mark that is none. -/
theorem dropBlanks?_append_mark (visible : Text.isBlank mark = false) (cs : List Char) :
    dropBlanks? (cs ++ mark :: rest) = (dropBlanks? cs).map (· ++ mark :: rest) := by
  cases cs with
  | nil =>
    rw [List.nil_append, dropBlanks?, dropBlanks?, visible, Option.map_none]
    rfl
  | cons c cs =>
    rw [List.cons_append, dropBlanks?, dropBlanks?]
    split
    · rw [Option.map_some, List.dropWhile_append]
      split
      · next all =>
        rw [List.isEmpty_iff.mp all, List.dropWhile_cons_of_neg (by simp [visible])]
        rfl
      · rfl
    · rfl

private theorem dropWords?_append_mark (visible : Text.isBlank mark = false)
    {words : List (List Char)}
    (stops : ∀ word ∈ words, ∀ letter ∈ word, sameLetter letter mark = false) (cs : List Char) :
    dropWords? words (cs ++ mark :: rest) = (dropWords? words cs).map (· ++ mark :: rest) := by
  induction words generalizing cs with
  | nil => rfl
  | cons word words ih =>
    obtain ⟨here, later⟩ := List.forall_mem_cons.mp stops
    cases words with
    | nil => exact dropWord?_append_mark rest here cs
    | cons next words =>
      rw [dropWords?, dropWords?, dropWord?_append_mark rest here]
      · cases dropWord? word cs with
        | none => rfl
        | some afterWord =>
          change (dropBlanks? (afterWord ++ mark :: rest)).bind _ =
            ((dropBlanks? afterWord).bind (dropWords? (next :: words))).map _
          rw [dropBlanks?_append_mark rest visible]
          cases dropBlanks? afterWord with
          | none => rfl
          | some afterBlanks => exact ih later afterBlanks
      · exact List.cons_ne_nil next words
      · exact List.cons_ne_nil next words

/-- A keyword is taken off what stands before a mark that stops it. -/
theorem Keyword.drop?_append_mark (visible : Text.isBlank mark = false) {k : Keyword}
    (stops : k.StopsAt mark) (cs : List Char) :
    k.drop? (cs ++ mark :: rest) = (k.drop? cs).map (· ++ mark :: rest) := by
  obtain ⟨spellings⟩ := k
  induction spellings with
  | nil => rfl
  | cons words spellings ih =>
    obtain ⟨here, later⟩ := List.forall_mem_cons.mp stops
    rw [drop?, drop?, List.findSome?_cons, List.findSome?_cons,
      dropWords?_append_mark rest visible here]
    cases dropWords? words cs with
    | none => exact ih later
    | some _ => rfl

end

end Playbook.Script
