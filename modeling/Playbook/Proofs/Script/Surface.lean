import Playbook.Proofs.Script.Layout
import Playbook.Proofs.Script.Spelling
import Playbook.Proofs.Text.Lines

/-!
# The surface of scripts

What counts of a script are its significant lines: neither blank nor a comment, and without the
blanks at their ends. Two lines are the same on the surface when their keywords are the same
however written, what the keywords need stands behind both, and the rest is the same (`SameLine`).
Scripts whose significant lines are the same in turn are read to the same test cases or stop at
corresponding lines, and warn alike (`same_outcome_of_same_lines`). A keyword without what it
needs is no keyword: the line is an action and its text counts as written
(`incomplete_keyword_counts`).
-/

namespace Playbook.Script

/-! ### Lines that differ in the surface alone -/

/-- What a keyword needs behind it: something that starts with no blank. -/
def Words (cs : List Char) : Prop :=
  cs ≠ [] ∧ ∀ c ∈ cs.head?, Text.isBlank c = false

/-- Whether characters are the words behind a keyword is told by the first of them. -/
instance (cs : List Char) : Decidable (Words cs) :=
  decidable_of_iff (cs ≠ [] ∧ cs.head?.all (!Text.isBlank ·)) (by simp [Words, Option.all_eq_true])

/-- What follows a keyword that ends a word does not go on with the word. -/
def EndsWord (tail : List Char) : Prop :=
  ∀ c ∈ tail.head?, Text.isWordChar c = false

/-- Two lines without the blanks at their ends differ at most in how their keywords are written
and in how many blanks set the words apart. -/
inductive SameLine : List Char → List Char → Prop where
  /-- The lines are the same. -/
  | refl (cs : List Char) : SameLine cs cs
  /-- Both open a test case. -/
  | header {k k' name name' : List Char} (hk : Keyword.test.Written k)
      (hk' : Keyword.test.Written k') (hn : Text.trimLeft name = Text.trimLeft name') :
      SameLine (k ++ ':' :: name) (k' ++ ':' :: name')
  /-- Both open a block, with a condition or a loop header behind the keyword. -/
  | opener {keyword : Keyword} {k k' gap gap' words : List Char}
      (h : keyword = .ifWord ∨ keyword = .forEach) (hk : keyword.Written k)
      (hk' : keyword.Written k') (hg : Gap gap) (hg' : Gap gap') (hw : Words words) :
      SameLine (k ++ (gap ++ words)) (k' ++ (gap' ++ words))
  /-- Both open the branch without a condition. -/
  | otherwise {k k' : List Char} (hk : Keyword.elseWord.Written k)
      (hk' : Keyword.elseWord.Written k') : SameLine k k'
  /-- Both open a branch with a condition. -/
  | branch {k k' gap gap' i i' between between' words : List Char}
      (hk : Keyword.elseWord.Written k) (hk' : Keyword.elseWord.Written k')
      (hg : Gap gap) (hg' : Gap gap')
      (hi : Keyword.ifWord.Written i) (hi' : Keyword.ifWord.Written i')
      (hb : Gap between) (hb' : Gap between') (hw : Words words) :
      SameLine (k ++ (gap ++ (i ++ (between ++ words))))
        (k' ++ (gap' ++ (i' ++ (between' ++ words))))
  /-- Both close a block. -/
  | closer {keyword : Keyword} {k k' tail tail' : List Char}
      (h : keyword = .endIf ∨ keyword = .endLoop) (hk : keyword.Written k)
      (hk' : keyword.Written k') (ht : EndsWord tail) (ht' : EndsWord tail')
      (hr : Text.trimLeft tail = Text.trimLeft tail') : SameLine (k ++ tail) (k' ++ tail')

/-! ### What a line with a written keyword says -/

section Says

variable {k cs gap words : List Char}

private theorem wordsAfter?_of_no_drop? {keyword : Keyword} (h : keyword.drop? cs = none) :
    wordsAfter? keyword cs = none := by
  rw [wordsAfter?, h]
  rfl

private theorem branch?_of_no_drop? (h : Keyword.elseWord.drop? cs = none) : branch? cs = none := by
  rw [branch?, h]
  rfl

private theorem closes_of_no_drop? {keyword : Keyword} (h : keyword.drop? cs = none) :
    closes keyword cs = false := by
  rw [closes, h]

/-- The words behind a written keyword are found. -/
theorem wordsAfter?_of_written {keyword : Keyword} (hm : keyword ∈ openers)
    (hk : keyword.Written k) (hg : Gap gap) (hw : Words words) (hl : '\n' ∉ words) :
    wordsAfter? keyword (k ++ (gap ++ words)) = some words := by
  rw [wordsAfter?, drop?_of_written hm hk]
  change (dropBlanks? (gap ++ words)).bind _ = _
  rw [dropBlanks?_of_gap hg hw.2]
  change (if words.isEmpty || words.contains '\n' then none else some words) = some words
  refine if_neg ?_
  rw [Bool.or_eq_true, List.isEmpty_iff, List.contains_iff_mem]
  rintro (h | h)
  · exact hw.1 h
  · exact hl h

/-- A line with the keyword of a conditional and a condition opens it. -/
theorem stepOfChars_if (hk : Keyword.ifWord.Written k) (hg : Gap gap) (hw : Words words)
    (hl : '\n' ∉ words) :
    stepOfChars (k ++ (gap ++ words)) = .ifBlock (String.ofList words) [] := by
  rw [stepOfChars, wordsAfter?_of_written (by decide) hk hg hw hl]

/-- A line with the keyword of a loop and a header opens it. -/
theorem stepOfChars_forEach (hk : Keyword.forEach.Written k) (hg : Gap gap) (hw : Words words)
    (hl : '\n' ∉ words) :
    stepOfChars (k ++ (gap ++ words)) = .loop (String.ofList words) [] := by
  have ho {keyword : Keyword} (hm : keyword ∈ openers) (hn : Keyword.forEach ≠ keyword) :
      keyword.drop? (k ++ (gap ++ words)) = none :=
    drop?_of_other (by decide) hm hn hk _
  rw [stepOfChars, wordsAfter?_of_no_drop? (ho (by decide) (by decide)),
    branch?_of_no_drop? (ho (by decide) (by decide)),
    closes_of_no_drop? (ho (by decide) (by decide)),
    wordsAfter?_of_written (by decide) hk hg hw hl]
  rfl

/-- A line that is the keyword of a branch opens the branch without a condition. -/
theorem stepOfChars_else (hk : Keyword.elseWord.Written k) :
    stepOfChars k = .elseBranch none [] := by
  have hi : Keyword.ifWord.drop? (k ++ []) = none :=
    drop?_of_other (by decide) (by decide) (by decide) hk []
  have he := drop?_of_written (by decide) hk []
  rw [List.append_nil] at hi he
  have hb : branch? k = some none := by
    rw [branch?, he]
    rfl
  rw [stepOfChars, wordsAfter?_of_no_drop? hi, hb]
  rfl

/-- A line with the keyword of a branch, that of a conditional and a condition opens a branch with
the condition. -/
theorem stepOfChars_elseIf {i between : List Char} (hk : Keyword.elseWord.Written k) (hg : Gap gap)
    (hi : Keyword.ifWord.Written i) (hb : Gap between) (hw : Words words) (hl : '\n' ∉ words) :
    stepOfChars (k ++ (gap ++ (i ++ (between ++ words)))) =
      .elseBranch (some (String.ofList words)) [] := by
  have ho : Keyword.ifWord.drop? (k ++ (gap ++ (i ++ (between ++ words)))) = none :=
    drop?_of_other (by decide) (by decide) (by decide) hk _
  have hb : branch? (k ++ (gap ++ (i ++ (between ++ words)))) = some (some words) := by
    obtain ⟨g, gs, hc⟩ := List.exists_cons_of_ne_nil hg.1
    rw [branch?, drop?_of_written (by decide) hk, hc]
    change (dropBlanks? ((g :: gs) ++ (i ++ (between ++ words)))).bind _ = _
    rw [← hc, dropBlanks?_of_gap hg (hi.head (by decide) _).2]
    change (wordsAfter? .ifWord (i ++ (between ++ words))).bind _ = _
    rw [wordsAfter?_of_written (by decide) hi hb hw hl]
    rfl
  rw [stepOfChars, wordsAfter?_of_no_drop? ho, hb]
  rfl

private theorem closes_of_written {keyword : Keyword} (hm : keyword ∈ openers)
    (hk : keyword.Written k) {tail : List Char} (ht : EndsWord tail) :
    closes keyword (k ++ tail) = true := by
  rw [closes, drop?_of_written hm hk]
  cases tail with
  | nil => rfl
  | cons c tail => exact (Bool.not_eq_true' _).mpr (ht c rfl)

/-- A line with the closer of a conditional closes it, whatever follows the word. -/
theorem stepOfChars_endIf (hk : Keyword.endIf.Written k) {tail : List Char} (ht : EndsWord tail) :
    stepOfChars (k ++ tail) = .endIf := by
  have ho {keyword : Keyword} (hm : keyword ∈ openers) (hn : Keyword.endIf ≠ keyword) :
      keyword.drop? (k ++ tail) = none :=
    drop?_of_other (by decide) hm hn hk _
  rw [stepOfChars, wordsAfter?_of_no_drop? (ho (by decide) (by decide)),
    branch?_of_no_drop? (ho (by decide) (by decide)), closes_of_written (by decide) hk ht]
  rfl

/-- A line with the closer of a loop closes it, whatever follows the word. -/
theorem stepOfChars_endLoop (hk : Keyword.endLoop.Written k) {tail : List Char}
    (ht : EndsWord tail) : stepOfChars (k ++ tail) = .endLoop := by
  have ho {keyword : Keyword} (hm : keyword ∈ openers) (hn : Keyword.endLoop ≠ keyword) :
      keyword.drop? (k ++ tail) = none :=
    drop?_of_other (by decide) hm hn hk _
  rw [stepOfChars, wordsAfter?_of_no_drop? (ho (by decide) (by decide)),
    branch?_of_no_drop? (ho (by decide) (by decide)),
    closes_of_no_drop? (ho (by decide) (by decide)),
    wordsAfter?_of_no_drop? (ho (by decide) (by decide)), closes_of_written (by decide) hk ht]
  rfl

/-- A line with the keyword of a header and a colon is a header. -/
theorem header?_of_written (hk : Keyword.test.Written k) (name : List Char) :
    header? (k ++ ':' :: name) = some (String.ofList (Text.trim name)) := by
  rw [header?, drop?_of_written (by decide) hk]
  rfl

private theorem header?_of_other {keyword : Keyword} (hm : keyword ∈ openers)
    (hn : keyword ≠ .test) (hk : keyword.Written k) (rest : List Char) :
    header? (k ++ rest) = none := by
  rw [header?, drop?_of_other hm (by decide) hn hk]

end Says

/-- Lines that are the same on the surface say the same. -/
theorem SameLine.says {cs cs' : List Char} (h : SameLine cs cs') (hl : '\n' ∉ cs) :
    header? cs = header? cs' ∧ (header? cs = none → stepOfChars cs = stepOfChars cs') := by
  cases h with
  | refl => exact ⟨rfl, fun _ ↦ rfl⟩
  | header hk hk' hn =>
    rw [header?_of_written hk, header?_of_written hk', Text.trim, Text.trim, hn]
    exact ⟨rfl, fun h ↦ absurd h (Option.some_ne_none _)⟩
  | opener h hk hk' hg hg' hw =>
    have hl := fun hm ↦ hl (List.mem_append_right _ (List.mem_append_right _ hm))
    rcases h with rfl | rfl
    · rw [header?_of_other (by decide) (by decide) hk,
        header?_of_other (by decide) (by decide) hk', stepOfChars_if hk hg hw hl,
        stepOfChars_if hk' hg' hw hl]
      exact ⟨rfl, fun _ ↦ rfl⟩
    · rw [header?_of_other (by decide) (by decide) hk,
        header?_of_other (by decide) (by decide) hk', stepOfChars_forEach hk hg hw hl,
        stepOfChars_forEach hk' hg' hw hl]
      exact ⟨rfl, fun _ ↦ rfl⟩
  | otherwise hk hk' =>
    have hn := header?_of_other (by decide) (by decide) hk []
    have hn' := header?_of_other (by decide) (by decide) hk' []
    rw [List.append_nil] at hn hn'
    rw [hn, hn', stepOfChars_else hk, stepOfChars_else hk']
    exact ⟨rfl, fun _ ↦ rfl⟩
  | branch hk hk' hg hg' hi hi' hb hb' hw =>
    have hl := fun hm ↦ hl (List.mem_append_right _ (List.mem_append_right _
      (List.mem_append_right _ (List.mem_append_right _ hm))))
    rw [header?_of_other (by decide) (by decide) hk,
      header?_of_other (by decide) (by decide) hk', stepOfChars_elseIf hk hg hi hb hw hl,
      stepOfChars_elseIf hk' hg' hi' hb' hw hl]
    exact ⟨rfl, fun _ ↦ rfl⟩
  | closer h hk hk' ht ht' _ =>
    rcases h with rfl | rfl
    · rw [header?_of_other (by decide) (by decide) hk,
        header?_of_other (by decide) (by decide) hk', stepOfChars_endIf hk ht,
        stepOfChars_endIf hk' ht']
      exact ⟨rfl, fun _ ↦ rfl⟩
    · rw [header?_of_other (by decide) (by decide) hk,
        header?_of_other (by decide) (by decide) hk', stepOfChars_endLoop hk ht,
        stepOfChars_endLoop hk' ht']
      exact ⟨rfl, fun _ ↦ rfl⟩

/-! ### Significant lines -/

/-- A line of a script with its number from one, without the blanks at its ends. -/
structure NumberedLine where
  number : Nat
  characters : List Char
  deriving DecidableEq, Repr

/-- A line counts when something is left of it that does not start as a comment. -/
def Significant (cs : List Char) : Prop :=
  cs ≠ [] ∧ cs.head? ≠ some '#'

/-- Whether a line counts is told by its first character. -/
instance (cs : List Char) : Decidable (Significant cs) :=
  inferInstanceAs (Decidable (_ ∧ _))

/-- The significant ones of lines that are numbered from a number on. -/
def significantFrom (number : Nat) : List (List Char) → List NumberedLine
  | [] => []
  | raw :: rest =>
    if Significant (Text.trim raw) then
      ⟨number, Text.trim raw⟩ :: significantFrom (number + 1) rest
    else significantFrom (number + 1) rest

/-- The significant lines of a script. -/
def significant (text : String) : List NumberedLine :=
  significantFrom 1 (Text.splitLines text.toList)

private theorem ofChars_of_not_significant {cs : List Char} (h : ¬ Significant cs) :
    Line.ofChars cs = .silent := by
  refine if_pos ?_
  rw [Bool.or_eq_true, List.isEmpty_iff, beq_iff_eq]
  by_contra hn
  rw [not_or] at hn
  exact h hn

/-- A line that counts is a header or says a step. -/
theorem ofChars_of_significant {cs : List Char} (h : Significant cs) :
    Line.ofChars cs =
      match header? cs with
      | some name => .header name
      | none => .step (stepOfChars cs) := by
  refine if_neg ?_
  rw [Bool.or_eq_true, List.isEmpty_iff, beq_iff_eq, not_or]
  exact h

private theorem mem_significantFrom {number : Nat} {raws : List (List Char)} {l : NumberedLine}
    (h : l ∈ significantFrom number raws) :
    Significant l.characters ∧ ∃ raw ∈ raws, l.characters = Text.trim raw := by
  induction raws generalizing number with
  | nil => cases h
  | cons raw raws ih =>
    rw [significantFrom] at h
    split at h
    · next hs =>
      rcases List.mem_cons.mp h with rfl | h
      · exact ⟨hs, raw, List.mem_cons_self, rfl⟩
      · obtain ⟨hs, raw', hm, he⟩ := ih h
        exact ⟨hs, raw', List.mem_cons_of_mem raw hm, he⟩
    · obtain ⟨hs, raw', hm, he⟩ := ih h
      exact ⟨hs, raw', List.mem_cons_of_mem raw hm, he⟩

/-- A significant line counts and holds no line feed. -/
theorem mem_significant {text : String} {l : NumberedLine} (h : l ∈ significant text) :
    Significant l.characters ∧ '\n' ∉ l.characters := by
  obtain ⟨hs, raw, hm, he⟩ := mem_significantFrom h
  refine ⟨hs, ?_⟩
  intro hn
  rw [he] at hn
  cases Text.singleLine_of_mem hm '\n' (Text.mem_of_mem_trim hn)

/-- Significant lines that are the same on the surface say the same. -/
theorem ofChars_of_sameLine {cs cs' : List Char} (h : SameLine cs cs') (hs : Significant cs)
    (hs' : Significant cs') (hl : '\n' ∉ cs) : Line.ofChars cs = Line.ofChars cs' := by
  obtain ⟨hh, hn⟩ := h.says hl
  rw [ofChars_of_significant hs, ofChars_of_significant hs', ← hh]
  cases he : header? cs with
  | some name => rfl
  | none => exact congrArg Line.step (hn he)

namespace Progress

/-- Read significant lines, up to the first that cannot stand where it stands. -/
def read (p : Progress) : List NumberedLine → Progress × Option ParseError
  | [] => (p, none)
  | l :: rest =>
    match p.line l.number l.characters with
    | .ok p => p.read rest
    | .error e => (p, some e)

/-- Reading lines is reading the significant ones. -/
theorem lines_eq_read (p : Progress) (number : Nat) (raws : List (List Char)) :
    p.lines number raws = p.read (significantFrom number raws) := by
  induction raws generalizing p number with
  | nil => rfl
  | cons raw raws ih =>
    rw [lines, significantFrom]
    split_ifs with hs
    · rw [read]
      cases p.line number (Text.trim raw) with
      | ok p => exact ih p (number + 1)
      | error e => rfl
    · rw [line, ofChars_of_not_significant hs]
      exact ih p (number + 1)

/-- Two scripts are read equally far: the same test cases, and the same warnings. -/
def Same (p p' : Progress) : Prop :=
  p.done = p'.done ∧ p.current = p'.current ∧ warnings p.log = warnings p'.log

/-- Ending the test cases being read, the scripts are read equally far. -/
theorem Same.closeCase {p p' : Progress} (h : p.Same p') : p.closeCase.Same p'.closeCase := by
  obtain ⟨hd, hc, hw⟩ := h
  rw [Progress.closeCase, Progress.closeCase, ← hc]
  cases hp : p.current with
  | none => exact ⟨hd, hc, hw⟩
  | some c =>
    refine ⟨congrArg (· ++ _) hd, rfl, ?_⟩
    rw [warnings_append, warnings_append, hw]

/-- Lines that say the same take two scripts equally far, or stop both for the same cause. -/
theorem Same.line {p p' : Progress} (h : p.Same p') {cs cs' : List Char}
    (hl : Line.ofChars cs = Line.ofChars cs') (n n' : Nat) :
    (∃ q q', p.line n cs = .ok q ∧ p'.line n' cs' = .ok q' ∧ q.Same q') ∨
      ∃ cause, p.line n cs = .error ⟨n, String.ofList cs, cause⟩ ∧
        p'.line n' cs' = .error ⟨n', String.ofList cs', cause⟩ := by
  obtain ⟨hd, hc, hw⟩ := h
  rw [Progress.line, Progress.line, ← hl, ← hc]
  cases Line.ofChars cs with
  | silent => exact .inl ⟨p, p', rfl, rfl, hd, hc, hw⟩
  | header name =>
    obtain ⟨hd, _, hw⟩ := Same.closeCase ⟨hd, hc, hw⟩
    exact .inl ⟨_, _, rfl, rfl, hd, rfl, hw⟩
  | step s =>
    cases p.current with
    | none =>
      refine .inl ⟨_, _, rfl, rfl, hd, rfl, ?_⟩
      rw [warnings_append, warnings_append, hw]
      rfl
    | some c =>
      simp only
      cases c.place s with
      | ok c => exact .inl ⟨_, _, rfl, rfl, hd, rfl, hw⟩
      | error cause => exact .inr ⟨cause, rfl, rfl⟩

/-- Lines that say the same in turn take two scripts equally far: to the end of both, or to
corresponding lines that cannot stand there for the same cause. -/
theorem Same.read {p p' : Progress} (h : p.Same p') {ls ls' : List NumberedLine}
    (hl : List.Forall₂
      (fun l l' ↦ Line.ofChars l.characters = Line.ofChars l'.characters) ls ls') :
    ∃ q q', q.Same q' ∧
      ((p.read ls = (q, none) ∧ p'.read ls' = (q', none)) ∨
        ∃ (i : Nat) (l l' : NumberedLine) (cause : Misplaced),
          ls[i]? = some l ∧ ls'[i]? = some l' ∧
          p.read ls = (q, some ⟨l.number, String.ofList l.characters, cause⟩) ∧
          p'.read ls' = (q', some ⟨l'.number, String.ofList l'.characters, cause⟩)) := by
  induction hl generalizing p p' with
  | nil => exact ⟨p, p', h, .inl ⟨rfl, rfl⟩⟩
  | @cons l l' ls ls' he _ ih =>
    rw [Progress.read, Progress.read]
    rcases h.line he l.number l'.number with ⟨q, q', hq, hq', hs⟩ | ⟨cause, hp, hp'⟩
    · obtain ⟨r, r', hr, hread⟩ := ih hs
      refine ⟨r, r', hr, ?_⟩
      rw [hq, hq']
      rcases hread with hread | ⟨i, m, m', cause, hi, hi', hread⟩
      · exact .inl hread
      · exact .inr ⟨i + 1, m, m', cause, hi, hi', hread⟩
    · rw [hp, hp']
      exact ⟨p, p', h, .inr ⟨0, l, l', cause, rfl, rfl, rfl, rfl⟩⟩

end Progress

/-- Scripts whose significant lines are the same on the surface, in turn, are both read to the
same test cases or both stop at corresponding lines for the same cause; and the warnings about
them are the same. -/
theorem same_outcome_of_same_lines {text text' : String}
    (h : List.Forall₂ (fun l l' ↦ SameLine l.characters l'.characters)
      (significant text) (significant text')) :
    ((∃ cases, (parse text).outcome = .ok cases ∧ (parse text').outcome = .ok cases) ∨
      ∃ (i : Nat) (l l' : NumberedLine) (cause : Misplaced),
        (significant text)[i]? = some l ∧ (significant text')[i]? = some l' ∧
        (parse text).outcome = .error ⟨l.number, String.ofList l.characters, cause⟩ ∧
        (parse text').outcome = .error ⟨l'.number, String.ofList l'.characters, cause⟩) ∧
      warnings (parse text).log = warnings (parse text').log := by
  have hl : List.Forall₂ (fun l l' ↦ Line.ofChars l.characters = Line.ofChars l'.characters)
      (significant text) (significant text') := by
    refine List.forall₂_iff_zip.mpr ⟨h.length_eq, ?_⟩
    intro l l' hm
    obtain ⟨hl, hl'⟩ := List.of_mem_zip hm
    obtain ⟨hs, hn⟩ := mem_significant hl
    exact ofChars_of_sameLine (List.forall₂_zip h hm) hs (mem_significant hl').1 hn
  have hs : Progress.Same {} {} := ⟨rfl, rfl, rfl⟩
  obtain ⟨q, q', hq, hr⟩ := hs.read hl
  have hp (t : String) :
      Progress.lines {} 1 (Text.splitLines t.toList) = Progress.read {} (significant t) :=
    Progress.lines_eq_read {} 1 _
  rw [parse, parse, hp text, hp text']
  rcases hr with ⟨hr, hr'⟩ | ⟨i, l, l', cause, hi, hi', hr, hr'⟩
  · obtain ⟨hd, _, hw⟩ := hq.closeCase
    rw [hr, hr']
    exact ⟨.inl ⟨_, rfl, congrArg Except.ok hd.symm⟩, hw⟩
  · rw [hr, hr']
    exact ⟨.inr ⟨i, l, l', cause, hi, hi', rfl, rfl⟩, hq.2.2⟩

/-- A script in English. -/
def lampScript : String :=
  "Test: Lamp\nIf lamp is on\nPress 1\nElse if fog\nElse\nEndIf\nFor each x in 1, 2\nPress 2"

/-- The script with other keywords, blanks, line ends and comments. -/
def lampScriptRestyled : String :=
  "# lamp\r\n\tТЕСТ:Lamp \u2028ЕСЛИ  lamp is on\r\nPress 1\n\nElse\tесли fog\rиначе\x0c" ++
    "  КонецЕсли \n# loop\nДЛЯ \tкаждого  x in 1, 2\n  Press 2\n\n"

/-- Both scripts hold one test case, and warn of its loop alike. -/
theorem same_outcome_of_lampScript :
    (∃ cases, (parse lampScript).outcome = .ok cases ∧
      (parse lampScriptRestyled).outcome = .ok cases) ∧
      warnings (parse lampScript).log = warnings (parse lampScriptRestyled).log := by
  have hs : significant lampScript =
      [⟨1, "Test: Lamp".toList⟩, ⟨2, "If lamp is on".toList⟩, ⟨3, "Press 1".toList⟩,
        ⟨4, "Else if fog".toList⟩, ⟨5, "Else".toList⟩, ⟨6, "EndIf".toList⟩,
        ⟨7, "For each x in 1, 2".toList⟩, ⟨8, "Press 2".toList⟩] := by decide +kernel
  have hr : significant lampScriptRestyled =
      [⟨2, "ТЕСТ:Lamp".toList⟩, ⟨3, "ЕСЛИ  lamp is on".toList⟩, ⟨4, "Press 1".toList⟩,
        ⟨6, "Else\tесли fog".toList⟩, ⟨7, "иначе".toList⟩, ⟨8, "КонецЕсли".toList⟩,
        ⟨10, "ДЛЯ \tкаждого  x in 1, 2".toList⟩, ⟨11, "Press 2".toList⟩] := by decide +kernel
  have ht : Keyword.test.Written "Test".toList := written_of_drop? (by decide) (by decide)
  have ht' : Keyword.test.Written "ТЕСТ".toList := written_of_drop? (by decide) (by decide)
  have hi : Keyword.ifWord.Written "If".toList := written_of_drop? (by decide) (by decide)
  have hi' : Keyword.ifWord.Written "ЕСЛИ".toList := written_of_drop? (by decide) (by decide)
  have he : Keyword.elseWord.Written "Else".toList := written_of_drop? (by decide) (by decide)
  have he' : Keyword.elseWord.Written "иначе".toList := written_of_drop? (by decide) (by decide)
  have hei : Keyword.ifWord.Written "if".toList := written_of_drop? (by decide) (by decide)
  have hei' : Keyword.ifWord.Written "если".toList := written_of_drop? (by decide) (by decide)
  have hc : Keyword.endIf.Written "EndIf".toList := written_of_drop? (by decide) (by decide)
  have hc' : Keyword.endIf.Written "КонецЕсли".toList := written_of_drop? (by decide) (by decide)
  have hf : Keyword.forEach.Written "For each".toList := written_of_drop? (by decide) (by decide)
  have hf' : Keyword.forEach.Written "ДЛЯ \tкаждого".toList :=
    written_of_drop? (by decide) (by decide)
  have header : SameLine "Test: Lamp".toList "ТЕСТ:Lamp".toList := by
    rw [show "Test: Lamp".toList = "Test".toList ++ ':' :: " Lamp".toList by decide,
      show "ТЕСТ:Lamp".toList = "ТЕСТ".toList ++ ':' :: "Lamp".toList by decide]
    exact .header ht ht' (by decide)
  have opener : SameLine "If lamp is on".toList "ЕСЛИ  lamp is on".toList := by
    rw [show "If lamp is on".toList = "If".toList ++ (" ".toList ++ "lamp is on".toList) by decide,
      show "ЕСЛИ  lamp is on".toList = "ЕСЛИ".toList ++ ("  ".toList ++ "lamp is on".toList) by
        decide]
    exact .opener (.inl rfl) hi hi' (by decide) (by decide) (by decide)
  have branch : SameLine "Else if fog".toList "Else\tесли fog".toList := by
    rw [show "Else if fog".toList =
        "Else".toList ++ (" ".toList ++ ("if".toList ++ (" ".toList ++ "fog".toList))) by decide,
      show "Else\tесли fog".toList =
        "Else".toList ++ ("\t".toList ++ ("если".toList ++ (" ".toList ++ "fog".toList))) by decide]
    exact .branch he he (by decide) (by decide) hei hei' (by decide) (by decide) (by decide)
  have otherwise : SameLine "Else".toList "иначе".toList := .otherwise he he'
  have closer : SameLine "EndIf".toList "КонецЕсли".toList := by
    rw [← List.append_nil "EndIf".toList, ← List.append_nil "КонецЕсли".toList]
    exact .closer (.inl rfl) hc hc' nofun nofun rfl
  have loop : SameLine "For each x in 1, 2".toList "ДЛЯ \tкаждого  x in 1, 2".toList := by
    rw [show "For each x in 1, 2".toList =
        "For each".toList ++ (" ".toList ++ "x in 1, 2".toList) by decide,
      show "ДЛЯ \tкаждого  x in 1, 2".toList =
        "ДЛЯ \tкаждого".toList ++ ("  ".toList ++ "x in 1, 2".toList) by decide]
    exact .opener (.inr rfl) hf hf' (by decide) (by decide) (by decide)
  have hl : List.Forall₂ (fun l l' ↦ SameLine l.characters l'.characters)
      (significant lampScript) (significant lampScriptRestyled) := by
    rw [hs, hr]
    exact .cons header (.cons opener (.cons (.refl _) (.cons branch (.cons otherwise
      (.cons closer (.cons loop (.cons (.refl _) .nil)))))))
  obtain ⟨ho, hw⟩ := same_outcome_of_same_lines hl
  refine ⟨ho.resolve_right ?_, hw⟩
  rintro ⟨_, _, _, _, _, _, he, _⟩
  have hk : (parse lampScript).outcome.isOk = true := by decide +kernel
  rw [he] at hk
  cases hk

/-- The words of a branch with a condition, but no condition: the line is an action, so that the
language of the words shows in the test case. -/
theorem incomplete_keyword_counts :
    SpellsAll ["else".toList, "if".toList] "Else if".toList ∧
      SpellsAll ["иначе".toList, "если".toList] "Иначе если".toList ∧
      significant "Test: a\nElse if" = [⟨1, "Test: a".toList⟩, ⟨2, "Else if".toList⟩] ∧
      significant "Test: a\nИначе если" = [⟨1, "Test: a".toList⟩, ⟨2, "Иначе если".toList⟩] ∧
      ∃ cases cases', (parse "Test: a\nElse if").outcome = .ok cases ∧
        (parse "Test: a\nИначе если").outcome = .ok cases' ∧ cases ≠ cases' := by
  have hw : SpellsAll ["else".toList, "if".toList] "Else if".toList := by
    rw [show "Else if".toList = "Else".toList ++ (" ".toList ++ "if".toList) by decide]
    exact .cons (by decide) (by decide) (.last (by decide))
  have hw' : SpellsAll ["иначе".toList, "если".toList] "Иначе если".toList := by
    rw [show "Иначе если".toList = "Иначе".toList ++ (" ".toList ++ "если".toList) by decide]
    exact .cons (by decide) (by decide) (.last (by decide))
  refine ⟨hw, hw', by decide +kernel, by decide +kernel, ?_⟩
  let texts (o : Except ParseError (List Case)) : Option (List (List (Option String))) :=
    o.toOption.map (·.map (·.steps.map (·.text)))
  have hp : texts (parse "Test: a\nElse if").outcome = some [[some "Else if"]] := by
    decide +kernel
  have hp' : texts (parse "Test: a\nИначе если").outcome = some [[some "Иначе если"]] := by
    decide +kernel
  cases ho : (parse "Test: a\nElse if").outcome with
  | error e =>
    rw [ho] at hp
    cases hp
  | ok cases =>
    cases ho' : (parse "Test: a\nИначе если").outcome with
    | error e =>
      rw [ho'] at hp'
      cases hp'
    | ok cases' =>
      refine ⟨cases, cases', rfl, rfl, ?_⟩
      rintro rfl
      rw [ho] at hp
      rw [ho', hp] at hp'
      revert hp'
      decide

end Playbook.Script
