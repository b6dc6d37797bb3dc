import Playbook.Proofs.Script.Pieces

/-!
# Double quotes that are left over

What is left when the literals are taken out of a line holds no digit, but it may hold a literal
between double quotes that the line did not have: two double quotes that were left over around a
literal are a pair once the placeholder stands between them. So taking the literals out of a
template changes nothing exactly if no double quote that is left over stands right before a quoted
literal while another one is left over behind it (`extract_template_iff`).
-/

namespace Playbook.Script

/-- A double quote that is left over stands right before a quoted literal, and another one is left
over behind the literal. -/
def Reopens (ps : List Piece) : Prop :=
  ∃ before body middle after,
    ps = before ++ .plain '"' :: .quoted body :: (middle ++ .plain '"' :: after)

private theorem exists_of_append_eq {start rest xs ys : List Char} (noQuote : '"' ∉ start)
    (split : start ++ rest = xs ++ '"' :: ys) :
    ∃ xs', xs = start ++ xs' ∧ rest = xs' ++ '"' :: ys := by
  obtain ⟨xs', rfl, hr⟩ | ⟨back, rfl, hr⟩ := List.append_eq_append_iff.mp split
  · exact ⟨xs', rfl, hr⟩
  · cases back with
    | nil => exact ⟨[], by rw [List.append_nil, List.append_nil], hr.symm⟩
    | cons c back =>
      obtain ⟨rfl, -⟩ := List.cons.inj hr
      exact absurd (List.mem_append_right xs List.mem_cons_self) noQuote

-- The double quotes of a template are those that are left over.
private theorem exists_leftOver {ps : List Piece} {xs ys : List Char}
    (split : ps.flatMap Piece.template = xs ++ '"' :: ys) :
    ∃ before after, ps = before ++ .plain '"' :: after ∧ before.flatMap Piece.template = xs ∧
      after.flatMap Piece.template = ys := by
  induction ps generalizing xs with
  | nil => cases (List.append_eq_nil_iff.mp split.symm).2
  | cons piece ps ih =>
    rw [List.flatMap_cons] at split
    have placeholder : '"' ∉ ['\x7b', '\x7d'] := by decide
    have behind (noQuote : '"' ∉ piece.template) :
        ∃ before after, piece :: ps = before ++ .plain '"' :: after ∧
          before.flatMap Piece.template = xs ∧ after.flatMap Piece.template = ys := by
      obtain ⟨xs', rfl, rest⟩ := exists_of_append_eq noQuote split
      obtain ⟨before, after, rfl, rfl, ha⟩ := ih rest
      exact ⟨piece :: before, after, rfl, List.flatMap_cons, ha⟩
    cases piece with
    | plain c =>
      by_cases quote : c = '"'
      · subst quote
        cases xs with
        | nil => exact ⟨[], ps, rfl, rfl, (List.cons.inj split).2⟩
        | cons x xs =>
          obtain ⟨before, after, rfl, rfl, ha⟩ := ih (List.cons.inj split).2
          exact ⟨.plain '"' :: before, after, rfl, congrArg (· :: _) (List.cons.inj split).1, ha⟩
      · exact behind fun hm ↦ quote (List.mem_singleton.mp hm).symm
    | quoted body => exact behind placeholder
    | digits ds => exact behind placeholder

private theorem holdsQuoted_template_iff {ps : List Piece} (isCut : IsCut ps) :
    HoldsQuoted (ps.flatMap Piece.template) ↔ Reopens ps := by
  constructor
  · rintro ⟨xs, body, ys, split, filled, noQuote⟩
    obtain ⟨before, behind, rfl, -, hb⟩ := exists_leftOver split
    obtain ⟨middle, after, rfl, hm, -⟩ := exists_leftOver hb
    -- The first of the two was left over although the second follows, so a double quote is next.
    have adjacent : ((middle ++ .plain '"' :: after).flatMap Piece.written).head? = some '"' := by
      cases isCut.cutBefore with
      | leftOver alone =>
        apply alone
        rw [List.flatMap_append, List.flatMap_cons]
        exact List.mem_append_right _ List.mem_cons_self
      | plain noQuote' => exact absurd rfl noQuote'
    cases middle with
    | nil => exact absurd hm.symm filled
    | cons piece middle =>
      cases piece with
      | plain c =>
        cases adjacent
        exact absurd (hm ▸ List.mem_cons_self) noQuote
      | quoted body' => exact ⟨before, body', middle, after, rfl⟩
      | digits ds =>
        cases isCut.of_append.2.1 with
        | digits some all =>
          obtain ⟨d, ds, rfl⟩ := List.exists_cons_of_ne_nil some
          cases adjacent
          cases all '"' List.mem_cons_self
  · rintro ⟨before, body, middle, after, rfl⟩
    refine holdsQuoted_iff.mpr ⟨before.flatMap Piece.template, '\x7b',
      '\x7d' :: (middle ++ .plain '"' :: after).flatMap Piece.template, ?_, by decide, ?_⟩
    · rw [List.flatMap_append]
      rfl
    · rw [List.flatMap_append, List.flatMap_cons]
      exact List.mem_cons_of_mem _ (List.mem_append_right _ List.mem_cons_self)

private theorem noDigit_template {ps : List Piece} (isCut : IsCut ps) :
    ∀ c ∈ ps.flatMap Piece.template, Text.isDigit c = false := by
  intro c hc
  obtain ⟨piece, hp, hc⟩ := List.mem_flatMap.mp hc
  obtain ⟨before, after, split⟩ := List.append_of_mem hp
  have placeholder : ∀ c ∈ ['\x7b', '\x7d'], Text.isDigit c = false :=
    List.forall_mem_cons.mpr ⟨by decide, List.forall_mem_singleton.mpr (by decide)⟩
  cases piece with
  | plain d =>
    rw [List.mem_singleton.mp hc]
    exact (split ▸ isCut).cutBefore.noDigit
  | quoted body => exact placeholder c hc
  | digits ds => exact placeholder c hc

private theorem not_reopens {cs : List Char} (apart : ¬['"', '"'] <:+: cs) :
    ¬Reopens (pieces cs) := by
  rintro ⟨before, body, middle, after, split⟩
  have whole := flatMap_written_pieces cs
  rw [split, List.flatMap_append, List.flatMap_cons, List.flatMap_cons] at whole
  exact apart ⟨before.flatMap Piece.written, _, by rw [← whole, List.append_assoc]; rfl⟩

private theorem no_parameters_template_iff (line : String) :
    (extract (extract line).template).parameters = [] ↔ ¬Reopens (pieces line.toList) := by
  have isCut := (pieces_eq_iff.mp (rfl : pieces line.toList = _)).2
  have template : (extract line).template =
      Text.strip (String.ofList ((pieces line.toList).flatMap Piece.template)) := by
    rw [extract, Text.strip, String.toList_ofList]
  rw [template, extract_strip, no_parameters_iff, String.toList_ofList,
    holdsQuoted_template_iff isCut, and_iff_right (noDigit_template isCut)]

private theorem strip_template (line : String) :
    Text.strip (extract line).template = (extract line).template := by
  rw [extract, Text.strip, String.toList_ofList, Text.trim_trim]

/-- Taking the literals out of a template gives the template and no parameters exactly if no double
quote that was left over in the line stands right before a quoted literal while another one is left
over behind it. So it does for every line in which no two double quotes stand side by side. -/
theorem extract_template_iff (line : String) :
    (extract (extract line).template = ⟨(extract line).template, []⟩ ↔
        ¬Reopens (pieces line.toList)) ∧
      (¬['"', '"'] <:+: line.toList →
        extract (extract line).template = ⟨(extract line).template, []⟩) := by
  have stays : extract (extract line).template = ⟨(extract line).template, []⟩ ↔
      ¬Reopens (pieces line.toList) := by
    rw [← no_parameters_template_iff]
    constructor
    · intro same
      rw [same]
    · intro none
      have template := template_of_no_parameters none
      rw [strip_template] at template
      calc extract (extract line).template
        _ = ⟨(extract (extract line).template).template,
            (extract (extract line).template).parameters⟩ := rfl
        _ = ⟨(extract line).template, []⟩ := by rw [template, none]
  exact ⟨stays, fun apart ↦ stays.mpr (not_reopens apart)⟩

/-- Taking the literals out of a template gives the template and no parameters where the literals
of the line stand apart, although a double quote is left over. -/
theorem extract_template_of_apart :
    ¬['"', '"'] <:+: "Type \"a\" 5 \"b".toList ∧
      extract (extract "Type \"a\" 5 \"b").template =
        ⟨(extract "Type \"a\" 5 \"b").template, []⟩ := by
  have apart : ¬['"', '"'] <:+: "Type \"a\" 5 \"b".toList := by decide +kernel
  exact ⟨apart, (extract_template_iff "Type \"a\" 5 \"b").2 apart⟩

/-- Two double quotes side by side are left over and pair with those of the literal behind them, so
a template may hold a literal although the double quotes of the line are even in number. -/
theorem extract_template_reopened :
    ¬∀ line : String, line.toList.count '"' % 2 = 0 →
      extract (extract line).template = ⟨(extract line).template, []⟩ := by
  intro stays
  have reread := stays "Type \"\" into \"name\"" (by decide)
  have template : (extract "Type \"\" into \"name\"").template = "Type \"\x7b\x7dname\"" := by
    decide +kernel
  have parameters : (extract "Type \"\x7b\x7dname\"").parameters = ["\x7b\x7dname"] := by
    decide +kernel
  rw [template] at reread
  rw [reread] at parameters
  cases parameters

end Playbook.Script
