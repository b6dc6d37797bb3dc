import Playbook.Proofs.Script.Template

/-!
# Lines cut at their literals

A line is cut into texts and literals in turn. Nothing of it is lost, what is left over between the
literals holds no literal any more, and every run of digits outside double quotes is one literal as
a whole (`Cut.Exact`). Taking the literals out puts a placeholder for each of them and keeps the
texts between them, and the template has a placeholder for each literal besides those that the line
held already (`extract_exact`).
-/

namespace Playbook.Script

/-- A literal of a line. -/
inductive Literal where
  /-- A text between double quotes. -/
  | quoted (body : List Char)
  /-- A run of decimal digits. -/
  | digits (ds : List Char)
  deriving DecidableEq, Repr

namespace Literal

/-- The characters of the line that a literal stands for. -/
def written : Literal → List Char
  | quoted body => '"' :: body ++ ['"']
  | digits ds => ds

/-- The value of a literal. -/
def value : Literal → List Char
  | quoted body => body
  | digits ds => ds

/-- What is quoted is some text without double quotes, and digits are some. -/
def WellFormed : Literal → Prop
  | quoted body => body ≠ [] ∧ '"' ∉ body
  | digits ds => ds ≠ [] ∧ ∀ d ∈ ds, Text.isDigit d = true

/-- A literal as a piece of a line. -/
def piece : Literal → Piece
  | quoted body => .quoted body
  | digits ds => .digits ds

end Literal

/-- A line cut at its literals: texts and literals in turn, with a text at both ends. -/
inductive Cut where
  /-- A text behind which no literal follows. -/
  | last (gap : List Char)
  /-- A text, the literal that follows it, and what is behind that. -/
  | cons (gap : List Char) (l : Literal) (rest : Cut)
  deriving DecidableEq, Repr

namespace Cut

/-- The line that is cut. -/
def line : Cut → List Char
  | last gap => gap
  | cons gap l rest => gap ++ (l.written ++ rest.line)

/-- The line with a placeholder for each literal. -/
def template : Cut → List Char
  | last gap => gap
  | cons gap _ rest => gap ++ '\x7b' :: '\x7d' :: rest.template

/-- The literals in order. -/
def literals : Cut → List Literal
  | last _ => []
  | cons _ l rest => l :: rest.literals

/-- The texts before, between and behind the literals. -/
def gaps : Cut → List (List Char)
  | last gap => [gap]
  | cons gap _ rest => gap :: rest.gaps

/-- How many placeholders the texts hold that are none for a literal. -/
def spareHoles : Cut → Nat
  | last gap => holes gap
  | cons gap _ rest => holes gap + rest.spareHoles

/-- A literal stands between these parts of the line. -/
inductive Stands : Cut → List Char → Literal → List Char → Prop where
  | here (gap : List Char) (l : Literal) (rest : Cut) : Stands (cons gap l rest) gap l rest.line
  | later {rest : Cut} {before after : List Char} {l : Literal} (gap : List Char) (l' : Literal)
      (h : Stands rest before l after) :
      Stands (cons gap l' rest) (gap ++ (l'.written ++ before)) l after

/-- A part of the line stands inside a literal between double quotes. -/
def Encloses (cut : Cut) (before part after : List Char) : Prop :=
  ∃ outer inner inner' outer',
    cut.Stands outer (.quoted (inner ++ (part ++ inner'))) outer' ∧
      before = outer ++ '"' :: inner ∧ after = inner' ++ '"' :: outer'

end Cut

/-- A run of digits between two texts: no digit stands next to it. -/
structure DigitRun (before ds after : List Char) : Prop where
  filled : ds ≠ []
  all : ∀ d ∈ ds, Text.isDigit d = true
  start : ∀ c ∈ before.getLast?, Text.isDigit c = false
  stop : ∀ c ∈ after.head?, Text.isDigit c = false

/-- A line is cut at its literals, and at all of them. -/
structure Cut.Exact (cut : Cut) (cs : List Char) : Prop where
  /-- Nothing of the line is lost. -/
  line : cut.line = cs
  wellFormed : ∀ l ∈ cut.literals, l.WellFormed
  noDigit : ∀ gap ∈ cut.gaps, ∀ c ∈ gap, Text.isDigit c = false
  noQuoted : ∀ gap ∈ cut.gaps, ¬HoldsQuoted gap
  /-- A run of digits is a literal as a whole, unless it stands inside double quotes. -/
  runs : ∀ before ds after, cs = before ++ (ds ++ after) → DigitRun before ds after →
    cut.Stands before (.digits ds) after ∨ cut.Encloses before ds after

/-! ### Runs of digits -/

namespace DigitRun

variable {gap rest before ds after : List Char} (run : DigitRun before ds after)

include run

/-- A run that stands behind a text stands there as it does alone. -/
theorem behind {text tail : List Char} (h : before = text ++ tail) : DigitRun tail ds after := by
  refine ⟨run.filled, run.all, ?_, run.stop⟩
  intro c hc
  apply run.start c
  rw [h, List.getLast?_append, Option.mem_def.mp hc]
  rfl

/-- A run stands behind a text, or it starts in it. -/
theorem behind_or_starts {text : List Char} (split : text ++ rest = before ++ (ds ++ after)) :
    (∃ tail, before = text ++ tail ∧ rest = tail ++ (ds ++ after)) ∨
      ∃ d tail, text = before ++ d :: tail ∧ Text.isDigit d = true ∧
        ds ++ after = d :: tail ++ rest := by
  obtain ⟨tail, hb, hr⟩ | ⟨tail, ht, hr⟩ := List.append_eq_append_iff.mp split
  · exact .inl ⟨tail, hb, hr⟩
  · cases tail with
    | nil => exact .inl ⟨[], by simpa using ht.symm, by simpa using hr.symm⟩
    | cons d tail =>
      refine .inr ⟨d, tail, ht, ?_, hr⟩
      obtain ⟨d', ds', rfl⟩ := List.exists_cons_of_ne_nil run.filled
      have same : d' = d := (List.cons.inj hr).1
      exact same ▸ run.all d' List.mem_cons_self

/-- A run stands behind a text without digits. -/
theorem behind_gap (noDigit : ∀ c ∈ gap, Text.isDigit c = false)
    (split : gap ++ rest = before ++ (ds ++ after)) :
    ∃ tail, before = gap ++ tail ∧ rest = tail ++ (ds ++ after) ∧ DigitRun tail ds after := by
  obtain ⟨tail, hb, hr⟩ | ⟨d, tail, rfl, hd, -⟩ := run.behind_or_starts split
  · exact ⟨tail, hb, hr, run.behind hb⟩
  · rw [noDigit d (List.mem_append_right before List.mem_cons_self)] at hd
    cases hd

/-- A run stands behind a literal of digits, or it is the literal. -/
theorem behind_digits {run' : List Char} (all : ∀ d ∈ run', Text.isDigit d = true)
    (stop : ∀ c ∈ rest.head?, Text.isDigit c = false)
    (split : run' ++ rest = before ++ (ds ++ after)) :
    (∃ tail, before = run' ++ tail ∧ rest = tail ++ (ds ++ after) ∧ DigitRun tail ds after) ∨
      before = [] ∧ ds = run' ∧ after = rest := by
  obtain ⟨tail, hb, hr⟩ | ⟨d, tail, rfl, hd, hr⟩ := run.behind_or_starts split
  · exact .inl ⟨tail, hb, hr, run.behind hb⟩
  · -- A digit right before the run would belong to it.
    have first : before = [] := by
      rw [← List.getLast?_eq_none_iff, Option.eq_none_iff_forall_not_mem]
      intro c hc
      have digit := all c (List.mem_append_left _ (List.mem_of_getLast? hc))
      rw [run.start c hc] at digit
      cases digit
    subst first
    obtain ⟨mine, left⟩ := takeWhile_digits run.all run.stop
    obtain ⟨its, left'⟩ := takeWhile_digits all stop
    rw [List.nil_append, ← hr] at its left'
    exact .inr ⟨rfl, mine.symm.trans its, left.symm.trans left'⟩

/-- A run stands behind a text between double quotes, or inside. -/
theorem behind_quoted {body : List Char}
    (split : '"' :: (body ++ '"' :: rest) = before ++ (ds ++ after)) :
    (∃ tail, before = '"' :: (body ++ '"' :: tail) ∧ rest = tail ++ (ds ++ after) ∧
      DigitRun tail ds after) ∨
      ∃ inner inner', body = inner ++ (ds ++ inner') ∧ before = '"' :: inner ∧
        after = inner' ++ '"' :: rest := by
  have noDigit : ∀ c ∈ ['"'], Text.isDigit c = false :=
    List.forall_mem_singleton.mpr (by decide)
  obtain ⟨inside, hb, hi, runInside⟩ := run.behind_gap noDigit split
  obtain ⟨tail, ht, hr⟩ | ⟨d, tail, hd, -, same⟩ := runInside.behind_or_starts hi
  · obtain ⟨tail', ht', hr', run'⟩ :=
      (runInside.behind ht).behind_gap noDigit hr
    exact .inl ⟨tail', by rw [hb, ht, ht']; rfl, hr', run'⟩
  · right
    -- The closing double quote is no digit, so the run ends before it.
    obtain ⟨inner', hd', hq⟩ | ⟨surplus, rfl, hq⟩ := List.append_eq_append_iff.mp same
    · exact ⟨inside, inner', by rw [hd, hd'], hb, hq⟩
    · cases surplus with
      | nil => exact ⟨inside, [], by rw [hd]; simp, hb, hq.symm⟩
      | cons c surplus =>
        cases hq
        have digit := run.all '"' (List.mem_append_right _ List.mem_cons_self)
        cases digit

end DigitRun

/-! ### Cutting a line -/

namespace Cut

/-- The pieces that a cut consists of. -/
def pieces : Cut → List Piece
  | last gap => gap.map .plain
  | cons gap l rest => gap.map .plain ++ l.piece :: rest.pieces

/-- Every list of pieces is put together to a cut. -/
theorem exists_pieces_eq (ps : List Piece) : ∃ cut : Cut, cut.pieces = ps := by
  induction ps with
  | nil => exact ⟨last [], rfl⟩
  | cons piece ps ih =>
    obtain ⟨cut, rfl⟩ := ih
    cases piece with
    | plain c =>
      cases cut with
      | last gap => exact ⟨last (c :: gap), rfl⟩
      | cons gap l rest => exact ⟨cons (c :: gap) l rest, rfl⟩
    | quoted body => exact ⟨cons [] (.quoted body) cut, rfl⟩
    | digits ds => exact ⟨cons [] (.digits ds) cut, rfl⟩

/-- The pieces of a cut make up its line. -/
theorem flatMap_written_pieces (cut : Cut) : cut.pieces.flatMap Piece.written = cut.line := by
  induction cut with
  | last gap => exact flatMap_written_plain gap
  | cons gap l rest ih =>
    rw [pieces, List.flatMap_append, flatMap_written_plain, List.flatMap_cons, ih, line]
    cases l <;> rfl

/-- The pieces of a cut make up its template. -/
theorem flatMap_template_pieces (cut : Cut) :
    cut.pieces.flatMap Piece.template = cut.template := by
  induction cut with
  | last gap => exact flatMap_template_plain gap
  | cons gap l rest ih =>
    rw [pieces, List.flatMap_append, flatMap_template_plain, List.flatMap_cons, ih, template]
    cases l <;> rfl

/-- The values of the pieces of a cut are those of its literals. -/
theorem filterMap_value?_pieces (cut : Cut) :
    cut.pieces.filterMap Piece.value? = cut.literals.map Literal.value := by
  induction cut with
  | last gap => exact filterMap_value?_plain gap
  | cons gap l rest ih =>
    rw [pieces, List.filterMap_append, filterMap_value?_plain, List.nil_append, literals,
      List.map_cons, ← ih]
    cases l <;> rfl

private theorem wellFormed_of_cutBefore {l : Literal} {rest : List Char}
    (h : l.piece.CutBefore rest) : l.WellFormed := by
  cases l with
  | quoted body =>
    cases h with
    | quoted filled noQuote => exact ⟨filled, noQuote⟩
  | digits ds =>
    cases h with
    | digits filled all => exact ⟨filled, all⟩

private theorem parts_of_isCut {cut : Cut} (h : IsCut cut.pieces) :
    (∀ l ∈ cut.literals, l.WellFormed) ∧
      ∀ gap ∈ cut.gaps, (∀ c ∈ gap, Text.isDigit c = false) ∧ ¬HoldsQuoted gap := by
  induction cut with
  | last gap =>
    exact ⟨List.forall_mem_nil _, List.forall_mem_singleton.mpr (IsCut.plain_alone h)⟩
  | cons gap l rest ih =>
    obtain ⟨literals, gaps⟩ := ih h.of_append.2
    exact ⟨List.forall_mem_cons.mpr ⟨wellFormed_of_cutBefore h.cutBefore, literals⟩,
      List.forall_mem_cons.mpr ⟨IsCut.plain h, gaps⟩⟩

-- A run of digits is a literal as a whole or stands inside one, if the pieces are cut off one by
-- one.
private theorem stands_of_run {cut : Cut} (h : IsCut cut.pieces) {before ds after : List Char}
    (split : cut.line = before ++ (ds ++ after)) (run : DigitRun before ds after) :
    cut.Stands before (.digits ds) after ∨ cut.Encloses before ds after := by
  induction cut generalizing before with
  | last gap =>
    rw [line, ← List.append_nil gap] at split
    obtain ⟨tail, -, none, -⟩ := run.behind_gap (IsCut.plain_alone h).1 split
    exact absurd (List.append_eq_nil_iff.mp (List.append_eq_nil_iff.mp none.symm).2).1 run.filled
  | cons gap l rest ih =>
    have more {behind : List Char} (hs : rest.line = behind ++ (ds ++ after))
        (hr : DigitRun behind ds after) :
        (cons gap l rest).Stands (gap ++ (l.written ++ behind)) (.digits ds) after ∨
          (cons gap l rest).Encloses (gap ++ (l.written ++ behind)) ds after := by
      obtain stands | ⟨outer, inner, inner', outer', stands, hb, ha⟩ := ih h.of_append.2 hs hr
      · exact .inl (.later gap l stands)
      · refine .inr ⟨_, inner, inner', outer', .later gap l stands, ?_, ha⟩
        rw [hb, List.append_assoc, List.append_assoc]
    obtain ⟨behind, rfl, split, run⟩ := run.behind_gap (IsCut.plain h).1 split
    have cut := h.cutBefore
    rw [flatMap_written_pieces] at cut
    cases l with
    | quoted body =>
      rw [Literal.written, List.cons_append, List.cons_append, List.append_assoc] at split
      obtain ⟨tail, rfl, hs, hr⟩ | ⟨inner, inner', rfl, rfl, rfl⟩ := run.behind_quoted split
      · have stands := more hs hr
        rw [Literal.written, List.cons_append, List.cons_append, List.append_assoc] at stands
        exact stands
      · exact .inr ⟨gap, inner, inner', rest.line, .here gap _ rest, rfl, rfl⟩
    | digits run' =>
      cases cut with
      | digits _ all stop =>
        obtain ⟨tail, rfl, hs, hr⟩ | ⟨rfl, rfl, rfl⟩ := run.behind_digits all stop split
        · exact more hs hr
        · rw [List.append_nil]
          exact .inl (.here gap _ rest)

/-- Pieces that are cut off one by one make up an exact cut. -/
theorem exact_of_isCut {cut : Cut} (h : IsCut cut.pieces) : cut.Exact cut.line := by
  obtain ⟨literals, gaps⟩ := parts_of_isCut h
  exact ⟨rfl, literals, fun gap hg ↦ (gaps gap hg).1, fun gap hg ↦ (gaps gap hg).2,
    fun _ _ _ split run ↦ stands_of_run h split run⟩

end Cut

/-! ### Counting placeholders -/

/-- Placeholders are counted apart unless the texts share one. -/
theorem holes_append {xs ys : List Char}
    (apart : xs.getLast? = some '\x7b' → ys.head? ≠ some '\x7d') :
    holes (xs ++ ys) = holes xs + holes ys := by
  fun_induction holes xs with
  | case1 rest ih =>
    have within : rest.getLast? = some '\x7b' → ys.head? ≠ some '\x7d' := fun last ↦
      apart (by rw [List.getLast?_cons, List.getLast?_cons, last]; rfl)
    rw [List.cons_append, List.cons_append, holes, ih within]
    omega
  | case2 c rest hc ih =>
    have within : rest.getLast? = some '\x7b' → ys.head? ≠ some '\x7d' := fun last ↦
      apart (by rw [List.getLast?_cons, last]; rfl)
    rw [List.cons_append, holes, ih within]
    rintro rest' rfl joined
    cases rest with
    | nil => exact apart rfl (by rw [← List.nil_append ys, joined]; rfl)
    | cons d rest => exact hc rest rfl (by rw [(List.cons.inj joined).1])
  | case3 => rw [List.nil_append, Nat.zero_add]

/-- A cut has a placeholder for each literal besides those of its gaps. -/
theorem Cut.holes_template (cut : Cut) :
    holes cut.template = cut.literals.length + cut.spareHoles := by
  induction cut with
  | last gap => rw [template, literals, spareHoles, List.length_nil, Nat.zero_add]
  | cons gap l rest ih =>
    rw [template, literals, spareHoles, holes_append, holes, ih, List.length_cons]
    · omega
    · intro _ joined
      cases joined

/-- Trimming takes no placeholder away. -/
theorem holes_trim (cs : List Char) : holes (Text.trim cs) = holes cs := by
  have none {gap : List Char} (blank : ∀ c ∈ gap, Text.isBlank c = true) : holes gap = 0 := by
    fun_induction holes gap with
    | case1 => cases blank _ List.mem_cons_self
    | case2 c gap _ ih => exact ih (List.forall_mem_cons.mp blank).2
    | case3 => rfl
  obtain ⟨front, back, split, hf, hb⟩ := Text.exists_blanks cs
  have opening : front.getLast? ≠ some '\x7b' := fun last ↦ by
    cases hf _ (List.mem_of_getLast? last)
  have closing : back.head? ≠ some '\x7d' := fun first ↦ by
    cases hb _ (List.mem_of_head? first)
  have counted := congrArg holes split
  rw [holes_append fun last ↦ absurd last opening, holes_append fun _ ↦ closing, none hf,
    none hb] at counted
  omega

/-- A line is cut at its literals, and at all of them: the literals taken out of it are those of the
cut in order, its template is the cut with a placeholder for each of them, and the template has no
other placeholders than these and those that the line holds between its literals. -/
theorem extract_exact (line : String) :
    ∃ cut : Cut, cut.Exact line.toList ∧
      extract line =
        ⟨String.ofList (Text.trim cut.template),
          cut.literals.map fun l ↦ String.ofList l.value⟩ ∧
      holes (extract line).template.toList = cut.literals.length + cut.spareHoles := by
  obtain ⟨cut, same⟩ := Cut.exists_pieces_eq (pieces line.toList)
  obtain ⟨whole, isCut⟩ := pieces_eq_iff.mp same.symm
  have exactly := Cut.exact_of_isCut isCut
  rw [← cut.flatMap_written_pieces, whole] at exactly
  have extracted : extract line =
      ⟨String.ofList (Text.trim cut.template),
        cut.literals.map fun l ↦ String.ofList l.value⟩ := by
    rw [extract, ← same, cut.flatMap_template_pieces, cut.filterMap_value?_pieces, List.map_map]
    rfl
  refine ⟨cut, exactly, extracted, ?_⟩
  rw [extracted, String.toList_ofList, holes_trim, cut.holes_template]

end Playbook.Script
