import Playbook.Proofs.Text.Trimmed
import Playbook.Script.Literal

/-!
# How lines are cut

What a line is cut into is told piece by piece, by what each piece is and what follows it: texts
between double quotes are cut off whatever follows, runs of digits where no digit follows, and a
double quote is left over where no other follows but at once (`Piece.CutBefore`). The pieces of a
line are the only ones that make up the line and are each cut off so (`pieces_eq_iff`). Hence a line
has no parameters exactly if it holds neither a digit nor a literal between double quotes
(`no_parameters_iff`), and blanks at its ends do not matter (`extract_strip`).
-/

namespace Playbook.Script

/-- A piece is cut off where this text follows it. -/
inductive Piece.CutBefore (rest : List Char) : Piece → Prop where
  /-- A literal between double quotes, whatever follows. -/
  | quoted {body : List Char} (filled : body ≠ []) (noQuote : '"' ∉ body) :
      CutBefore rest (.quoted body)
  /-- A run of digits, where no digit follows. -/
  | digits {ds : List Char} (filled : ds ≠ []) (all : ∀ d ∈ ds, Text.isDigit d = true)
      (stop : ∀ c ∈ rest.head?, Text.isDigit c = false) : CutBefore rest (.digits ds)
  /-- A double quote that is left over, where another follows at once or none at all. -/
  | leftOver (alone : '"' ∈ rest → rest.head? = some '"') : CutBefore rest (.plain '"')
  /-- Any other character that is no digit, whatever follows. -/
  | plain {c : Char} (noQuote : c ≠ '"') (noDigit : Text.isDigit c = false) :
      CutBefore rest (.plain c)

/-- Pieces that are each cut off where those behind them follow. -/
def IsCut : List Piece → Prop
  | [] => True
  | piece :: ps => piece.CutBefore (ps.flatMap Piece.written) ∧ IsCut ps

/-- Characters outside every literal are written as they are. -/
@[simp] theorem flatMap_written_plain (cs : List Char) :
    (cs.map Piece.plain).flatMap Piece.written = cs := by
  simp [List.flatMap_map, Piece.written]

/-- Characters outside every literal are kept in the template. -/
@[simp] theorem flatMap_template_plain (cs : List Char) :
    (cs.map Piece.plain).flatMap Piece.template = cs := by
  simp [List.flatMap_map, Piece.template]

/-- Characters outside every literal have no value. -/
@[simp] theorem filterMap_value?_plain (cs : List Char) :
    (cs.map Piece.plain).filterMap Piece.value? = [] := by
  simp [Piece.value?]

/-! ### The pieces of a line -/

/-- The part of a text before the next double quote is the text before it. -/
theorem untilQuote_append {body : List Char} (h : '"' ∉ body) (rest : List Char) :
    untilQuote (body ++ '"' :: rest) = (body, '"' :: rest) := by
  have hp : ∀ c ∈ body, (c != '"') = true := by
    intro c hc
    rw [bne_iff_ne]
    rintro rfl
    exact h hc
  rw [untilQuote, List.takeWhile_append_of_pos hp, List.dropWhile_append_of_pos hp]
  simp

/-- A text between double quotes is cut off as one literal. -/
theorem pieces_quoted {body : List Char} (hn : body ≠ []) (h : '"' ∉ body) (rest : List Char) :
    pieces ('"' :: (body ++ '"' :: rest)) = .quoted body :: pieces rest := by
  cases body with
  | nil => exact absurd rfl hn
  | cons b body =>
    rw [pieces]
    split
    · next hc =>
      rw [untilQuote_append h] at hc
      cases hc
      rfl
    · next hc => exact absurd (untilQuote_append h rest) (hc b body '"' rest)

/-- A character that is neither a double quote nor a digit is cut off alone. -/
theorem pieces_plain {c : Char} (hq : c ≠ '"') (hd : Text.isDigit c = false) (rest : List Char) :
    pieces (c :: rest) = .plain c :: pieces rest := by
  rw [pieces]
  · rw [hd]
    rfl
  · exact hq

private theorem untilQuote_spec {cs body after : List Char} {q : Char}
    (h : untilQuote cs = (body, q :: after)) : cs = body ++ '"' :: after ∧ '"' ∉ body := by
  obtain ⟨hb, ha⟩ := Prod.mk.inj h
  have stopped := List.head?_dropWhile_not (· != '"') cs
  rw [ha] at stopped
  have quote : q = '"' := by simpa using stopped
  constructor
  · rw [← List.takeWhile_append_dropWhile (p := (· != '"')) (l := cs), hb, ha, quote]
  · intro hm
    rw [← hb] at hm
    have passed := List.all_eq_true.mp List.all_takeWhile '"' hm
    simp at passed

/-- Digits before a text that starts with none are the digits that the two start with. -/
theorem takeWhile_digits {ds rest : List Char} (all : ∀ d ∈ ds, Text.isDigit d = true)
    (stop : ∀ c ∈ rest.head?, Text.isDigit c = false) :
    (ds ++ rest).takeWhile Text.isDigit = ds ∧ (ds ++ rest).dropWhile Text.isDigit = rest := by
  rw [List.takeWhile_append_of_pos all, List.dropWhile_append_of_pos all]
  cases rest with
  | nil => simp
  | cons c rest => simp [stop c rfl]

/-- A piece that is cut off before a text is the first piece of the two. -/
theorem pieces_append {piece : Piece} {rest : List Char} (h : piece.CutBefore rest) :
    pieces (piece.written ++ rest) = piece :: pieces rest := by
  cases h with
  | quoted filled noQuote =>
    rw [Piece.written, List.cons_append, List.cons_append, List.append_assoc]
    exact pieces_quoted filled noQuote rest
  | @digits ds filled all stop =>
    obtain ⟨d, ds, rfl⟩ := List.exists_cons_of_ne_nil filled
    obtain ⟨hd, hds⟩ := List.forall_mem_cons.mp all
    have noQuote : d ≠ '"' := by
      rintro rfl
      cases hd
    obtain ⟨taken, left⟩ := takeWhile_digits hds stop
    rw [Piece.written, List.cons_append, pieces]
    · rw [if_pos hd, taken, left]
    · exact noQuote
  | leftOver alone =>
    rw [Piece.written, List.singleton_append, pieces]
    split
    · next b body q after cut =>
      obtain ⟨rfl, noQuote⟩ := untilQuote_spec cut
      have adjacent := alone (List.mem_append_right _ List.mem_cons_self)
      cases adjacent
      exact absurd List.mem_cons_self noQuote
    · rfl
  | plain noQuote noDigit => exact pieces_plain noQuote noDigit rest

private theorem head?_of_untilQuote {rest : List Char}
    (closed : ∀ b body q after, untilQuote rest = (b :: body, q :: after) → False)
    (later : '"' ∈ rest) : rest.head? = some '"' := by
  obtain ⟨before, after, rfl, outside⟩ := List.eq_append_cons_of_mem later
  cases before with
  | nil => rfl
  | cons b body => exact absurd (untilQuote_append outside after) (closed b body '"' after)

private theorem isCut_pieces (cs : List Char) : IsCut (pieces cs) := by
  fun_induction pieces cs with
  | case1 => trivial
  | case2 rest b body q after cut ih =>
    exact ⟨.quoted (List.cons_ne_nil b body) (untilQuote_spec cut).2, ih⟩
  | case3 rest closed ih =>
    refine ⟨.leftOver ?_, ih⟩
    rw [flatMap_written_pieces]
    exact head?_of_untilQuote closed
  | case4 c rest hc hd ih =>
    refine ⟨.digits (List.cons_ne_nil _ _) ?_ ?_, ih⟩
    · exact List.forall_mem_cons.mpr ⟨hd, List.all_eq_true.mp List.all_takeWhile⟩
    · intro d hm
      have stopped := List.head?_dropWhile_not Text.isDigit rest
      rw [flatMap_written_pieces] at hm
      rw [Option.mem_def.mp hm] at stopped
      simpa using stopped
  | case5 c rest hc hd ih => exact ⟨.plain hc (Bool.eq_false_iff.mpr hd), ih⟩

/-- The pieces of a line are those that make up the line and are each cut off where those behind
them follow. -/
theorem pieces_eq_iff {cs : List Char} {ps : List Piece} :
    pieces cs = ps ↔ ps.flatMap Piece.written = cs ∧ IsCut ps := by
  constructor
  · rintro rfl
    exact ⟨flatMap_written_pieces cs, isCut_pieces cs⟩
  · rintro ⟨rfl, h⟩
    induction ps with
    | nil => rw [List.flatMap_nil, pieces]
    | cons piece ps ih =>
      rw [List.flatMap_cons, pieces_append h.1, ih h.2]

namespace IsCut

variable {before after : List Piece}

/-- Pieces behind others are cut off as they are alone. -/
theorem of_append (h : IsCut (before ++ after)) : IsCut after := by
  induction before with
  | nil => exact h
  | cons piece before ih => exact ih h.2

/-- A piece is cut off where those behind it follow. -/
theorem cutBefore {piece : Piece} (h : IsCut (before ++ piece :: after)) :
    piece.CutBefore (after.flatMap Piece.written) :=
  h.of_append.1

end IsCut

/-- No digit is left over. -/
theorem Piece.CutBefore.noDigit {rest : List Char} {c : Char} (h : CutBefore rest (.plain c)) :
    Text.isDigit c = false := by
  cases h with
  | leftOver => decide
  | plain _ noDigit => exact noDigit

/-! ### Lines without literals -/

/-- A text holds a literal between double quotes. -/
def HoldsQuoted (cs : List Char) : Prop :=
  ∃ before body after, cs = before ++ '"' :: (body ++ '"' :: after) ∧ body ≠ [] ∧ '"' ∉ body

/-- A text holds a literal between double quotes exactly if another character follows a double quote
of it and another double quote behind that. -/
theorem holdsQuoted_iff {cs : List Char} :
    HoldsQuoted cs ↔
      ∃ before c after, cs = before ++ '"' :: c :: after ∧ c ≠ '"' ∧ '"' ∈ after := by
  constructor
  · rintro ⟨before, body, after, rfl, filled, noQuote⟩
    obtain ⟨c, body, rfl⟩ := List.exists_cons_of_ne_nil filled
    refine ⟨before, c, body ++ '"' :: after, rfl, ?_, ?_⟩
    · exact (List.ne_of_not_mem_cons noQuote).symm
    · exact List.mem_append_right body List.mem_cons_self
  · rintro ⟨before, c, after, rfl, other, later⟩
    obtain ⟨body, after, rfl, outside⟩ := List.eq_append_cons_of_mem later
    refine ⟨before, c :: body, after, rfl, List.cons_ne_nil c body, ?_⟩
    simp [outside, Ne.symm other]

/-- Characters that are cut off alone hold together neither a digit nor a literal. -/
theorem IsCut.plain {gap : List Char} {after : List Piece} (h : IsCut (gap.map .plain ++ after)) :
    (∀ c ∈ gap, Text.isDigit c = false) ∧ ¬HoldsQuoted gap := by
  constructor
  · intro c hc
    obtain ⟨x, y, rfl⟩ := List.append_of_mem hc
    rw [List.map_append, List.map_cons, List.append_assoc, List.cons_append] at h
    exact h.cutBefore.noDigit
  · rw [holdsQuoted_iff]
    rintro ⟨x, c, y, rfl, other, later⟩
    rw [List.map_append, List.map_cons, List.append_assoc, List.cons_append] at h
    have cut := h.cutBefore
    rw [List.flatMap_append, flatMap_written_plain, List.cons_append] at cut
    cases cut with
    | leftOver alone =>
      have adjacent := alone (List.mem_cons_of_mem c (List.mem_append_left _ later))
      exact other (Option.some.inj adjacent)
    | plain noQuote => exact noQuote rfl

/-- Nor do characters that are a whole line. -/
theorem IsCut.plain_alone {cs : List Char} (h : IsCut (cs.map .plain)) :
    (∀ c ∈ cs, Text.isDigit c = false) ∧ ¬HoldsQuoted cs := by
  rw [← List.append_nil (cs.map Piece.plain)] at h
  exact h.plain

-- Characters are cut off alone where they hold together neither a digit nor a literal.
private theorem isCut_map_plain {cs : List Char} (noDigit : ∀ c ∈ cs, Text.isDigit c = false)
    (noQuoted : ¬HoldsQuoted cs) : IsCut (cs.map .plain) := by
  rw [holdsQuoted_iff] at noQuoted
  induction cs with
  | nil => trivial
  | cons c cs ih =>
    obtain ⟨hc, hcs⟩ := List.forall_mem_cons.mp noDigit
    refine ⟨?_, ih hcs ?_⟩
    · rw [flatMap_written_plain]
      by_cases quote : c = '"'
      · subst quote
        refine .leftOver fun later ↦ ?_
        obtain ⟨d, cs, rfl⟩ := List.exists_cons_of_ne_nil (List.ne_nil_of_mem later)
        by_cases adjacent : d = '"'
        · exact congrArg some adjacent
        · have behind : '"' ∈ cs := (List.mem_cons.mp later).resolve_left (Ne.symm adjacent)
          exact absurd ⟨[], d, cs, rfl, adjacent, behind⟩ noQuoted
      · exact .plain quote hc
    · rintro ⟨before, d, after, rfl, other, later⟩
      exact noQuoted ⟨c :: before, d, after, rfl, other, later⟩

/-- A line is cut into its characters exactly if it holds neither a digit nor a literal between
double quotes. -/
theorem pieces_eq_map_iff {cs : List Char} :
    pieces cs = cs.map .plain ↔ (∀ c ∈ cs, Text.isDigit c = false) ∧ ¬HoldsQuoted cs := by
  rw [pieces_eq_iff]
  constructor
  · rintro ⟨-, h⟩
    exact h.plain_alone
  · rintro ⟨noDigit, noQuoted⟩
    exact ⟨flatMap_written_plain cs, isCut_map_plain noDigit noQuoted⟩

/-- A text without double quotes holds no literal between them. -/
theorem not_holdsQuoted {cs : List Char} (h : '"' ∉ cs) : ¬HoldsQuoted cs := by
  rintro ⟨before, body, after, rfl, -⟩
  exact h (List.mem_append_right before List.mem_cons_self)

/-- Pieces without a value are the characters that they make up. -/
theorem eq_map_of_filterMap_value? {ps : List Piece} (h : ps.filterMap Piece.value? = []) :
    ps = (ps.flatMap Piece.written).map .plain := by
  induction ps with
  | nil => rfl
  | cons piece ps ih =>
    obtain ⟨hp, hps⟩ := List.forall_mem_cons.mp (List.filterMap_eq_nil_iff.mp h)
    cases piece with
    | plain c =>
      rw [List.flatMap_cons, List.map_append, ← ih (List.filterMap_eq_nil_iff.mpr hps)]
      rfl
    | quoted body => cases hp
    | digits ds => cases hp

/-- A line has no parameters exactly if it holds neither a digit nor a literal between double
quotes. -/
theorem no_parameters_iff {line : String} :
    (extract line).parameters = [] ↔
      (∀ c ∈ line.toList, Text.isDigit c = false) ∧ ¬HoldsQuoted line.toList := by
  rw [← pieces_eq_map_iff, extract, List.map_eq_nil_iff]
  constructor
  · intro none
    have plain := eq_map_of_filterMap_value? none
    rwa [flatMap_written_pieces] at plain
  · intro plain
    rw [plain, filterMap_value?_plain]

/-- A line without parameters is its own template, but for the blanks at its ends. -/
theorem template_of_no_parameters {line : String} (h : (extract line).parameters = []) :
    (extract line).template = Text.strip line := by
  have plain := pieces_eq_map_iff.mpr (no_parameters_iff.mp h)
  rw [extract, plain, flatMap_template_plain, Text.strip]

/-! ### Blanks at the ends of a line -/

/-- A piece is cut off before another text as before this one, if no digit starts that one where
none starts this one, and a double quote is left over before it where it is before this one. -/
theorem Piece.CutBefore.transfer {piece : Piece} {rest rest' : List Char}
    (h : piece.CutBefore rest)
    (stop : (∀ c ∈ rest.head?, Text.isDigit c = false) → ∀ c ∈ rest'.head?, Text.isDigit c = false)
    (alone : ('"' ∈ rest → rest.head? = some '"') → '"' ∈ rest' → rest'.head? = some '"') :
    piece.CutBefore rest' := by
  cases h with
  | quoted filled noQuote => exact .quoted filled noQuote
  | digits filled all stop' => exact .digits filled all (stop stop')
  | leftOver alone' => exact .leftOver (alone alone')
  | plain noQuote noDigit => exact .plain noQuote noDigit

private theorem isDigit_of_isBlank {c : Char} (h : Text.isBlank c = true) :
    Text.isDigit c = false := by
  have apart : ∀ r ∈ Text.blankRanges, ∀ base ∈ Text.digitZeros,
      r.2 < base ∨ base + 10 ≤ r.1 := by
    decide +kernel
  obtain ⟨r, hr, low, high⟩ := Text.inRanges_iff.mp h
  rw [Text.isDigit, Text.digitValue?, Option.isSome_map, Option.isSome_eq_false_iff,
    Option.isNone_iff_eq_none, List.find?_eq_none]
  intro base hb
  have := apart r hr base hb
  simp only [Bool.and_eq_true, decide_eq_true_eq]
  omega

section

variable {gap : List Char} (blank : ∀ c ∈ gap, Text.isBlank c = true) {ps : List Piece}
  (isCut : IsCut ps)

include blank isCut

private theorem isCut_blanks_append : IsCut (gap.map .plain ++ ps) := by
  induction gap with
  | nil => exact isCut
  | cons c gap ih =>
    obtain ⟨hc, hg⟩ := List.forall_mem_cons.mp blank
    have noQuote : c ≠ '"' := by
      rintro rfl
      cases hc
    exact ⟨.plain noQuote (isDigit_of_isBlank hc), ih hg⟩

private theorem isCut_append_blanks : IsCut (ps ++ gap.map .plain) := by
  have noQuote : '"' ∉ gap := fun hm ↦ by cases blank _ hm
  have noDigit : ∀ c ∈ gap, Text.isDigit c = false := fun c hc ↦ isDigit_of_isBlank (blank c hc)
  induction ps with
  | nil => exact isCut_map_plain noDigit (not_holdsQuoted noQuote)
  | cons piece ps ih =>
    rw [List.cons_append]
    refine ⟨isCut.1.transfer ?_ ?_, ih isCut.2⟩
    · intro stop c hc
      rw [List.flatMap_append, flatMap_written_plain, List.head?_append] at hc
      obtain hc | ⟨-, hc⟩ := Option.or_eq_some_iff.mp (Option.mem_def.mp hc)
      · exact stop c hc
      · exact noDigit c (List.mem_of_head? hc)
    · intro alone later
      rw [List.flatMap_append, flatMap_written_plain] at later ⊢
      have within := (List.mem_append.mp later).resolve_right noQuote
      rw [List.head?_append, alone within]
      rfl

end

private theorem pieces_append_blanks {front back : List Char}
    (hf : ∀ c ∈ front, Text.isBlank c = true) (cs : List Char)
    (hb : ∀ c ∈ back, Text.isBlank c = true) :
    pieces (front ++ (cs ++ back)) = front.map .plain ++ (pieces cs ++ back.map .plain) := by
  rw [pieces_eq_iff]
  constructor
  · simp [flatMap_written_pieces]
  · exact isCut_blanks_append hf (isCut_append_blanks hb (isCut_pieces cs))

/-- The same literals are taken out of a line with blanks at its ends and without. -/
theorem extract_strip (line : String) : extract (Text.strip line) = extract line := by
  obtain ⟨front, back, split, hf, hb⟩ := Text.exists_blanks line.toList
  have cut := pieces_append_blanks hf (Text.trim line.toList) hb
  rw [← split] at cut
  rw [extract, extract, cut, Text.toList_strip, List.flatMap_append, List.flatMap_append,
    flatMap_template_plain, flatMap_template_plain, Text.trim_append_blanks hf _ hb,
    List.filterMap_append, List.filterMap_append, filterMap_value?_plain, filterMap_value?_plain,
    List.nil_append, List.append_nil]

end Playbook.Script
