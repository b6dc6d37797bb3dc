import Playbook.Proofs.Script.Reading

/-!
# Acceptance

A script is read to its end exactly when the kinds of the lines of every test case begin a word of
the block grammar; otherwise reading stops at the first line after which they do not, and the
reason is told by the blocks open there (`parse_accepts`).
-/

namespace Playbook.Script

/-- The reason why a step of some kind cannot stand after others: no block is open after a whole
word; otherwise a closer of a loop stands in a conditional, or a branch or closer of a conditional
stands in a loop. -/
def ReasonFits (above : List StepKind) (k : StepKind) (reason : String) : Prop :=
  (reason = "no open block to close" ↔ Blocks above) ∧
    (¬ Blocks above →
      (k = .endLoop ∧ reason = "innermost open block is not loop") ∨
        ((k = .elseBranch ∨ k = .endIf) ∧ reason = "innermost open block is not if"))

/-- An error tells the first line, in the order of the script, at which the kinds of the lines of
its test case no longer begin a word of the grammar. -/
def ReportsFirst (text : String) (e : ParseError) : Prop :=
  ∃ before s after above l below,
    sections text = before ++ s :: after ∧ s.lines = above ++ l :: below ∧
      (∀ b ∈ before, Viable b.kinds) ∧ Viable (above.map StepLine.kind) ∧
      ¬ Viable ((above ++ [l]).map StepLine.kind) ∧
      e.lineNumber = l.number ∧ e.line = l.text ∧
      ReasonFits (above.map StepLine.kind) l.kind e.cause.reason

/-- There is one fitting reason at most. -/
theorem ReasonFits.unique {above : List StepKind} {k : StepKind} {r r' : String}
    (h : ReasonFits above k r) (h' : ReasonFits above k r') : r = r' := by
  by_cases hb : Blocks above
  · rw [h.1.mpr hb, h'.1.mpr hb]
  · rcases h.2 hb with ⟨hk, hr⟩ | ⟨hk, hr⟩ <;> rcases h'.2 hb with ⟨hk', hr'⟩ | ⟨hk', hr'⟩
    · rw [hr, hr']
    · rw [hk] at hk'
      rcases hk' with hk' | hk' <;> cases hk'
    · rw [hk'] at hk
      rcases hk with hk | hk <;> cases hk
    · rw [hr, hr']

/-- Reasons are worded differently. -/
theorem Misplaced.reason_inj {a b : Misplaced} (h : a.reason = b.reason) : a = b := by
  revert h
  cases a <;> cases b <;> decide

/-! ### What the grammar says of a reading -/

/-- What is awaited after lines of a test case that are placed. -/
theorem awaited?_of_placeAll {name : String} {ls : List StepLine} {c : OpenCase}
    (h : OpenCase.placeAll { name } (ls.map StepLine.step) = .ok c) :
    awaited? [] (ls.map StepLine.kind) = some c.awaits := by
  have hs : ∀ s ∈ ls.map StepLine.step, Said (fun _ _ ↦ True) (fun _ ↦ True) s := by
    intro s hm
    obtain ⟨l, _, rfl⟩ := List.mem_map.mp hm
    exact said_ofLine l.text
  obtain ⟨_, _, _, ha⟩ := OpenCase.formed_of_placeAll hs h
  rw [List.map_map] at ha
  exact ha

/-- The kinds of a test case that is read to its end begin a word. -/
theorem viable_of_read {s : Section} {c : OpenCase} (h : s.read = .ok c) : Viable s.kinds :=
  viable_iff.mpr ⟨_, awaited?_of_placeAll (OpenCase.read_ok_iff.mp h)⟩

/-- A step that is not awaited is misplaced for a fitting reason. -/
theorem reasonFits_misplaced {leaf : String → List String → Prop} {label : String → Prop}
    {s : Step} (hs : Said leaf label s) {above : List StepKind} {closers : List Closer}
    (ha : awaited? [] above = some closers) (hn : await? closers s.kind = none) :
    ReasonFits above s.kind (OpenCase.misplaced closers).reason := by
  rw [ReasonFits, blocks_iff, ha]
  cases closers with
  | nil => exact ⟨by simp [OpenCase.misplaced, Misplaced.reason], fun h ↦ absurd rfl h⟩
  | cons closer closers =>
    refine ⟨by cases closer <;> simp [OpenCase.misplaced, Misplaced.reason], fun _ ↦ ?_⟩
    cases hs with
    | action => cases hn
    | ifBlock => cases hn
    | loop => cases hn
    | elseBranch =>
      cases closer with
      | endIf => cases hn
      | endLoop => exact .inr ⟨.inl rfl, rfl⟩
    | closer k =>
      cases k <;> cases closer
      · cases hn
      · exact .inr ⟨.inr rfl, rfl⟩
      · exact .inl ⟨rfl, rfl⟩
      · cases hn

/-- A line that cannot stand where it stands ends the beginnings of words, for a fitting reason. -/
theorem not_viable_of_place_error {name : String} {above : List StepLine} {c : OpenCase}
    (ha : OpenCase.placeAll { name } (above.map StepLine.step) = .ok c) {l : StepLine}
    {cause : Misplaced} (hl : c.place l.step = .error cause) :
    ¬ Viable ((above ++ [l]).map StepLine.kind) ∧
      ReasonFits (above.map StepLine.kind) l.kind cause.reason := by
  have hs : Said (fun _ _ ↦ True) (fun _ ↦ True) l.step := said_ofLine l.text
  have hk := awaited?_of_placeAll ha
  obtain ⟨hn, rfl⟩ := OpenCase.await?_of_place_error hs hl
  constructor
  · rw [viable_iff, List.map_append, awaited?_append, hk]
    rintro ⟨closers, h⟩
    change (await? c.awaits l.step.kind).bind _ = _ at h
    rw [hn] at h
    cases h
  · exact reasonFits_misplaced hs hk hn

/-- A viable sequence begins with viable ones. -/
theorem Viable.of_append {xs ys : List StepKind} (h : Viable (xs ++ ys)) : Viable xs := by
  obtain ⟨tail, h⟩ := h
  exact ⟨ys ++ tail, by rwa [← List.append_assoc]⟩

/-- A test case whose kinds begin a word is read to its end. -/
theorem read_of_viable {s : Section} (h : Viable s.kinds) : ∃ c, s.read = .ok c := by
  cases hr : s.read with
  | ok c => exact ⟨c, rfl⟩
  | error e =>
    obtain ⟨above, l, below, c, hs, ha, hl, _⟩ := OpenCase.read_error_iff.mp hr
    have hv : s.kinds = (above ++ [l]).map StepLine.kind ++ below.map StepLine.kind := by
      simp [Section.kinds, hs]
    rw [hv] at h
    exact absurd h.of_append (not_viable_of_place_error ha hl).1

/-- Lines whose kinds begin a word can be placed. -/
theorem placeAll_of_viable (name : String) {ls : List StepLine}
    (h : Viable (ls.map StepLine.kind)) :
    ∃ c, OpenCase.placeAll { name } (ls.map StepLine.step) = .ok c := by
  obtain ⟨c, hc⟩ := read_of_viable (s := ⟨name, ls⟩) h
  exact ⟨c, OpenCase.read_ok_iff.mp hc⟩

/-- Reading a script ends in an error exactly when the error tells the first line that ends the
beginnings of words. -/
theorem readAll_error_iff_reportsFirst {text : String} {e : ParseError} :
    readAll (sections text) = .error e ↔ ReportsFirst text e := by
  rw [readAll_error_iff]
  constructor
  · rintro ⟨before, s, after, hs, hb, hr⟩
    obtain ⟨above, l, below, c, hl, ha, hp, hn, ht⟩ := OpenCase.read_error_iff.mp hr
    obtain ⟨hv, hf⟩ := not_viable_of_place_error ha hp
    refine ⟨before, s, after, above, l, below, hs, hl, ?_, ?_, hv, hn, ht, hf⟩
    · intro b hm
      obtain ⟨c, hc⟩ := hb b hm
      exact viable_of_read hc
    · exact viable_iff.mpr ⟨_, awaited?_of_placeAll ha⟩
  · rintro ⟨before, s, after, above, l, below, hs, hl, hb, ha, hv, hn, ht, hf⟩
    refine ⟨before, s, after, hs, fun b hm ↦ read_of_viable (hb b hm), ?_⟩
    obtain ⟨c, hc⟩ := placeAll_of_viable s.name ha
    apply OpenCase.read_error_iff.mpr
    refine ⟨above, l, below, c, hl, hc, ?_, hn, ht⟩
    cases hp : c.place l.step with
    | ok c' =>
      have hc' : OpenCase.placeAll { name := s.name } ((above ++ [l]).map StepLine.step) =
          .ok c' := by
        rw [List.map_append, OpenCase.placeAll_append_of_ok hc]
        exact OpenCase.placeAll_cons_of_ok hp []
      exact absurd (viable_iff.mpr ⟨_, awaited?_of_placeAll hc'⟩) hv
    | error cause =>
      have hr := (not_viable_of_place_error hc hp).2.unique hf
      rw [Misplaced.reason_inj hr]

/-- An error of a layout tells one of the lines laid out, trimmed, at its number. -/
theorem line_of_readAll_error {raws : List (List Char)} {number : Nat} {e : ParseError}
    (h : readAll (Layout.ofLines number raws).sections = .error e) :
    ∃ i raw, raws[i]? = some raw ∧ e.lineNumber = number + i ∧
      e.line = String.ofList (Text.trim raw) := by
  obtain ⟨before, s, after, hs, _, hr⟩ := readAll_error_iff.mp h
  obtain ⟨above, l, below, _, hl, _, _, hn, ht⟩ := OpenCase.read_error_iff.mp hr
  have hm : l ∈ (Layout.ofLines number raws).lines := by
    apply List.mem_append_right
    rw [hs]
    exact List.mem_flatMap.mpr ⟨s, by simp, by simp [hl]⟩
  obtain ⟨i, raw, hi, hln, hlt, _⟩ := Layout.mem_lines_ofLines hm
  exact ⟨i, raw, hi, hn.trans hln, ht.trans hlt⟩

/-- Lines before the first header never stop reading. -/
theorem lt_lineNumber_of_readAll_error {text : String} {e : ParseError}
    (h : readAll (sections text) = .error e) {preface rest : List (List Char)}
    (hl : Text.splitLines text.toList = preface ++ rest)
    (hp : ∀ raw ∈ preface, ∀ name, Line.ofChars (Text.trim raw) ≠ .header name) :
    preface.length < e.lineNumber := by
  rw [sections, hl, Layout.ofLines_append,
    Layout.sections_append_of_nil (Layout.sections_eq_nil hp 1)] at h
  obtain ⟨i, _, _, hn, _⟩ := line_of_readAll_error h
  omega

/-- A script is read to its end exactly when the kinds of the lines of each of its test cases begin
a word. -/
theorem exists_outcome_ok_iff {text : String} :
    (∃ cases, (parse text).outcome = .ok cases) ↔ ∀ s ∈ sections text, Viable s.kinds := by
  constructor
  · rintro ⟨cases, h⟩
    obtain ⟨cs, hr, _⟩ := outcome_parse_ok_iff.mp h
    have hv : List.Forall₂ (fun s c ↦ Viable s.kinds ∧ s.read = .ok c) (sections text) cs :=
      (readAll_ok_iff.mp hr).imp fun _ _ hc ↦ ⟨viable_of_read hc, hc⟩
    exact ((List.forall₂_and_left _ _).mp hv).1
  · intro hv
    cases hr : (parse text).outcome with
    | ok cases => exact ⟨cases, rfl⟩
    | error e =>
      obtain ⟨before, s, after, hs, _, hs'⟩ :=
        readAll_error_iff.mp (outcome_parse_error_iff.mp hr)
      obtain ⟨c, hc⟩ := read_of_viable (hv s (by simp [hs]))
      rw [hs'] at hc
      cases hc

/-- An error tells one of the script's lines, trimmed, and its number from one. -/
theorem line_of_outcome_error {text : String} {e : ParseError}
    (h : (parse text).outcome = .error e) :
    ∃ i raw, (Text.lines text)[i]? = some raw ∧ e.lineNumber = i + 1 ∧
      e.line = Text.strip raw := by
  obtain ⟨i, raw, hi, hn, ht⟩ := line_of_readAll_error (outcome_parse_error_iff.mp h)
  refine ⟨i, String.ofList raw, ?_, by omega, ?_⟩
  · rw [Text.lines, List.getElem?_map, hi]
    rfl
  · rw [ht, Text.strip, String.toList_ofList]

/-- A script is read to its end exactly when the kinds of the lines of each of its test cases begin
a word of the block grammar. Otherwise reading ends in an error that tells the first line, in the
order of the script, after which they do not, and the reason; the line is one of the script's,
trimmed, at its number from one, and stands after a header. -/
theorem parse_accepts (text : String) :
    ((∃ cases, (parse text).outcome = .ok cases) ↔ ∀ s ∈ sections text, Viable s.kinds) ∧
      (∀ e, (parse text).outcome = .error e ↔ ReportsFirst text e) ∧
      (∀ e, (parse text).outcome = .error e →
        ∃ i raw, (Text.lines text)[i]? = some raw ∧ e.lineNumber = i + 1 ∧
          e.line = Text.strip raw) ∧
      ∀ e, (parse text).outcome = .error e → ∀ preface rest,
        Text.splitLines text.toList = preface ++ rest →
        (∀ raw ∈ preface, ∀ name, Line.ofChars (Text.trim raw) ≠ .header name) →
        preface.length < e.lineNumber := by
  refine ⟨exists_outcome_ok_iff, ?_, fun e h ↦ line_of_outcome_error h, ?_⟩
  · intro e
    rw [outcome_parse_error_iff]
    exact readAll_error_iff_reportsFirst
  · intro e h preface rest hl hp
    exact lt_lineNumber_of_readAll_error (outcome_parse_error_iff.mp h) hl hp

example :
    (parse "Else\nTest: A\nIf a\nFor each i in b\n EndIf ").outcome =
      .error ⟨5, "EndIf", .insideLoop⟩ := rfl

end Playbook.Script
