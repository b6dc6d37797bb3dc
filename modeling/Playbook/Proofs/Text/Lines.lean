import Playbook.Text.Lines

/-!
# Single lines

A single line holds no line end. The lines of a text are single lines (`singleLine_of_mem`), and
single lines that are each ended by a line feed are the lines of the text that they make
(`splitLines_unlines`). After a line feed the lines are those of the rest alone
(`splitLines_append_lineFeed`). A text has the lines that it has once its carriage returns are read
as line feeds (`splitLines_normalizeBreaks`).
-/

namespace Playbook.Text

/-- No character of a single line ends a line. -/
def SingleLine (cs : List Char) : Prop :=
  ∀ c ∈ cs, isLineBreak c = false

/-- Single lines one after the other are a single line. -/
theorem SingleLine.append {xs ys : List Char} (hx : SingleLine xs) (hy : SingleLine ys) :
    SingleLine (xs ++ ys) :=
  List.forall_mem_append.mpr ⟨hx, hy⟩

/-- Whether a text is a single line is told by its characters. -/
instance (cs : List Char) : Decidable (SingleLine cs) :=
  List.decidableBAll (fun c ↦ isLineBreak c = false) cs

/-- The text of lines that are each ended by a line feed. -/
def unlines (lines : List (List Char)) : List Char :=
  lines.flatMap (· ++ ['\n'])

-- A single line may not hold a carriage return.
private theorem splitLines_cons {c : Char} (hc : isLineBreak c = false) (rest : List Char) :
    splitLines (c :: rest) =
      match splitLines rest with
      | [] => [[c]]
      | line :: more => (c :: line) :: more := by
  rw [splitLines]
  · refine (if_neg ?_).trans ?_
    · rw [hc]
      exact Bool.false_ne_true
    · cases splitLines rest <;> rfl
  · rintro rest' rfl
    cases hc

/-- A line feed ends a single line before it. -/
theorem splitLines_append {line : List Char} (h : SingleLine line) (rest : List Char) :
    splitLines (line ++ '\n' :: rest) = line :: splitLines rest := by
  induction line with
  | nil =>
    rw [List.nil_append, splitLines]
    · rfl
    · nofun
  | cons c line ih =>
    obtain ⟨hc, hl⟩ := List.forall_mem_cons.mp h
    rw [List.cons_append, splitLines_cons hc, ih hl]

private theorem splitLines_cons_break {c : Char} (hb : isLineBreak c = true) {rest : List Char}
    (alone : c = '\r' → rest.head? ≠ some '\n') :
    splitLines (c :: rest) = [] :: splitLines rest := by
  rw [splitLines]
  · exact if_pos hb
  · rintro rest' rfl rfl
    exact alone rfl rfl

private theorem splitLines_ne_nil {cs : List Char} (h : cs ≠ []) : splitLines cs ≠ [] := by
  fun_cases splitLines cs <;> simp_all

/-- A line feed ends a line: what stands before it is cut apart from what follows. -/
theorem splitLines_append_lineFeed (xs rest : List Char) :
    splitLines (xs ++ '\n' :: rest) = splitLines (xs ++ ['\n']) ++ splitLines rest := by
  have ends (rest : List Char) : splitLines ('\n' :: rest) = [] :: splitLines rest :=
    splitLines_cons_break rfl nofun
  have inside {c : Char} (hc : isLineBreak c = false) {xs : List Char}
      (ih : splitLines (xs ++ '\n' :: rest) = splitLines (xs ++ ['\n']) ++ splitLines rest) :
      splitLines (c :: xs ++ '\n' :: rest) =
        splitLines (c :: xs ++ ['\n']) ++ splitLines rest := by
    rw [List.cons_append, List.cons_append, splitLines_cons hc, splitLines_cons hc, ih]
    obtain ⟨first, more, h⟩ := List.exists_cons_of_ne_nil
      (splitLines_ne_nil (List.append_ne_nil_of_right_ne_nil xs (List.cons_ne_nil '\n' [])))
    rw [h]
    rfl
  fun_induction splitLines xs with
  | case1 => rw [List.nil_append, List.nil_append, ends, ends]; rfl
  | case2 xs ih => exact congrArg ([] :: ·) ih
  | case3 c xs crlf hb ih =>
    -- The line feed may be the second half of a line end that starts with `c`.
    by_cases halved : c = '\r' ∧ xs = []
    · obtain ⟨rfl, rfl⟩ := halved
      rfl
    · have alone (ys : List Char) : c = '\r' → (xs ++ '\n' :: ys).head? ≠ some '\n' := by
        intro hc
        obtain ⟨x, xs, rfl⟩ := List.exists_cons_of_ne_nil fun h ↦ halved ⟨hc, h⟩
        exact fun h ↦ crlf xs hc (congrArg (· :: xs) (Option.some.inj h))
      rw [List.cons_append, List.cons_append, splitLines_cons_break hb (alone _),
        splitLines_cons_break hb (alone _), ih]
      rfl
  | case4 c xs _ hb _ ih => exact inside (Bool.eq_false_iff.mpr hb) ih
  | case5 c xs _ hb _ _ _ ih => exact inside (Bool.eq_false_iff.mpr hb) ih

/-- Cutting a text made of single lines gives the lines. -/
theorem splitLines_unlines {lines : List (List Char)} (h : ∀ line ∈ lines, SingleLine line) :
    splitLines (unlines lines) = lines := by
  induction lines with
  | nil => rfl
  | cons line lines ih =>
    obtain ⟨hl, hls⟩ := List.forall_mem_cons.mp h
    rw [unlines, List.flatMap_cons, List.append_assoc, List.singleton_append, splitLines_append hl]
    exact congrArg (line :: ·) (ih hls)

/-- The lines of a text are single lines. -/
theorem singleLine_of_mem {cs line : List Char} (h : line ∈ splitLines cs) : SingleLine line := by
  fun_induction splitLines cs generalizing line with
  | case1 => cases h
  | case2 rest ih =>
    rcases List.mem_cons.mp h with rfl | h
    · nofun
    · exact ih h
  | case3 c rest _ hb ih =>
    rcases List.mem_cons.mp h with rfl | h
    · nofun
    · exact ih h
  | case4 c rest _ hb he ih =>
    rw [List.mem_singleton.mp h]
    exact List.forall_mem_singleton.mpr (by simpa using hb)
  | case5 c rest _ hb first more he ih =>
    rw [he] at ih
    rcases List.mem_cons.mp h with rfl | h
    · exact List.forall_mem_cons.mpr ⟨by simpa using hb, ih List.mem_cons_self⟩
    · exact ih (List.mem_cons_of_mem _ h)

/-- A carriage return that is read as a line feed ends the same line, and so does the line end that
it makes together with a line feed: the lines of a text are those of what is read of it. -/
theorem splitLines_normalizeBreaks (cs : List Char) :
    splitLines (normalizeBreaks cs) = splitLines cs := by
  have ends (rest : List Char) : splitLines ('\n' :: rest) = [] :: splitLines rest :=
    splitLines_cons_break rfl nofun
  fun_induction normalizeBreaks cs with
  | case1 => rfl
  | case2 rest ih =>
    rw [ends, ih]
    rfl
  | case3 rest alone ih =>
    have single : '\r' = '\r' → rest.head? ≠ some '\n' := by
      intro _ h
      obtain ⟨rest', rfl⟩ := List.head?_eq_some_iff.mp h
      exact alone rest' rfl
    rw [ends, ih, splitLines_cons_break rfl single]
  | case4 c rest _ other ih =>
    have notReturn : c ≠ '\r' := fun h ↦ other h
    by_cases hb : isLineBreak c = true
    · rw [splitLines_cons_break hb fun h ↦ absurd h notReturn,
        splitLines_cons_break hb fun h ↦ absurd h notReturn, ih]
    · rw [splitLines_cons (Bool.eq_false_iff.mpr hb), splitLines_cons (Bool.eq_false_iff.mpr hb),
        ih]

end Playbook.Text
