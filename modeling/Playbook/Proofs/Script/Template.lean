import Playbook.Proofs.Script.Pieces
import Playbook.Proofs.Text.Trimmed

/-!
# Templates

A template is filled by putting a parameter between double quotes in place of each placeholder.
Taking the literals out of a filled template gives back the template and the parameters
(`extract_fill`), if the template holds no double quote and no digit and the parameters no double
quote, and none of them is empty. A line without double quotes has no parameters exactly if it holds
no digit (`parameters_extract_eq_nil_iff`), and then is its own template (`template_extract`).
-/

namespace Playbook.Script

/-- The placeholders of a template, from left to right and without overlap. -/
def holes : List Char → Nat
  | '\x7b' :: '\x7d' :: rest => holes rest + 1
  | _ :: rest => holes rest
  | [] => 0

/-- A template with each placeholder replaced by the parameter in its turn, between double
quotes. -/
def fill : List Char → List (List Char) → List Char
  | '\x7b' :: '\x7d' :: rest, p :: ps => '"' :: p ++ '"' :: fill rest ps
  | c :: rest, ps => c :: fill rest ps
  | [], _ => []

/-- The cut of a filled template has the template and the parameters. -/
theorem pieces_fill {template : List Char} {ps : List (List Char)}
    (hc : holes template = ps.length) (hq : '"' ∉ template)
    (hd : ∀ c ∈ template, Text.isDigit c = false) (hp : ∀ p ∈ ps, p ≠ [] ∧ '"' ∉ p) :
    (pieces (fill template ps)).flatMap Piece.template = template ∧
      (pieces (fill template ps)).filterMap Piece.value? = ps := by
  fun_induction fill template ps with
  | case1 rest p ps ih =>
    obtain ⟨⟨hn, hpq⟩, hps⟩ := List.forall_mem_cons.mp hp
    have hc' : holes rest = ps.length := Nat.succ.inj hc
    have hq' : '"' ∉ rest := fun hm ↦ hq (List.mem_cons_of_mem _ (List.mem_cons_of_mem _ hm))
    have hd' : ∀ c ∈ rest, Text.isDigit c = false := fun c hm ↦
      hd c (List.mem_cons_of_mem _ (List.mem_cons_of_mem _ hm))
    obtain ⟨ht, hv⟩ := ih hc' hq' hd' hps
    rw [List.cons_append, pieces_quoted hn hpq, List.flatMap_cons, List.filterMap_cons, ht, hv]
    exact ⟨rfl, rfl⟩
  | case2 c rest ps hx ih =>
    obtain ⟨hcd, hd'⟩ := List.forall_mem_cons.mp hd
    have hcq : c ≠ '"' := fun he ↦ hq (he ▸ List.mem_cons_self)
    have hq' : '"' ∉ rest := fun hm ↦ hq (List.mem_cons_of_mem c hm)
    have hc' : holes rest = ps.length := by
      rw [← hc, holes]
      rintro rest' rfl rfl
      cases ps with
      | nil => cases hc
      | cons p ps => exact hx rest' p ps rfl rfl rfl
    obtain ⟨ht, hv⟩ := ih hc' hq' hd' hp
    rw [pieces_plain hcq hcd, List.flatMap_cons, List.filterMap_cons, ht, hv]
    exact ⟨rfl, rfl⟩
  | case3 ps =>
    refine ⟨by rw [pieces]; rfl, ?_⟩
    rw [List.length_eq_zero_iff.mp hc.symm, pieces]
    rfl

/-- The characters of a filled template are the template's, the parameters' and double quotes. -/
theorem mem_fill {template : List Char} {ps : List (List Char)} {c : Char}
    (h : c ∈ fill template ps) : c = '"' ∨ c ∈ template ∨ ∃ p ∈ ps, c ∈ p := by
  fun_induction fill template ps with
  | case1 rest p ps ih =>
    rw [List.cons_append, List.mem_cons, List.mem_append, List.mem_cons] at h
    rcases h with h | h | h | h
    · exact .inl h
    · exact .inr (.inr ⟨p, List.mem_cons_self, h⟩)
    · exact .inl h
    · rcases ih h with h | h | ⟨p', hp, h⟩
      · exact .inl h
      · exact .inr (.inl (List.mem_cons_of_mem _ (List.mem_cons_of_mem _ h)))
      · exact .inr (.inr ⟨p', List.mem_cons_of_mem p hp, h⟩)
  | case2 d rest ps hx ih =>
    rcases List.mem_cons.mp h with h | h
    · exact .inr (.inl (h ▸ List.mem_cons_self))
    · rcases ih h with h | h | h
      · exact .inl h
      · exact .inr (.inl (List.mem_cons_of_mem d h))
      · exact .inr (.inr h)
  | case3 ps => cases h

/-- Only the empty template is filled to nothing. -/
theorem eq_nil_of_fill_eq_nil {template : List Char} {ps : List (List Char)}
    (h : fill template ps = []) : template = [] := by
  fun_cases fill template ps with
  | case1 => cases h
  | case2 c rest ps hx =>
    rw [fill] at h
    · cases h
    · exact hx
  | case3 => rfl

private theorem getLast?_of_cons {c : Char} {cs : List Char}
    (h : ∀ d ∈ (c :: cs).getLast?, Text.isBlank d = false) :
    ∀ d ∈ cs.getLast?, Text.isBlank d = false := by
  intro d hd
  apply h d
  rw [List.getLast?_cons, Option.mem_def.mp hd]
  rfl

private theorem getLast?_fill {template : List Char} (ps : List (List Char))
    (h : ∀ c ∈ template.getLast?, Text.isBlank c = false) :
    ∀ c ∈ (fill template ps).getLast?, Text.isBlank c = false := by
  fun_induction fill template ps with
  | case1 rest p ps ih =>
    have hi := ih (getLast?_of_cons (getLast?_of_cons h))
    intro d hd
    rw [List.getLast?_append, List.getLast?_cons] at hd
    cases hf : (fill rest ps).getLast? with
    | none =>
      rw [hf] at hd
      cases hd
      rfl
    | some e =>
      rw [hf] at hd
      cases hd
      exact hi e hf
  | case2 c rest ps hx ih =>
    have hi := ih (getLast?_of_cons h)
    intro d hd
    rw [List.getLast?_cons] at hd
    cases hf : (fill rest ps).getLast? with
    | none =>
      rw [hf] at hd
      cases hd
      rw [eq_nil_of_fill_eq_nil (List.getLast?_eq_none_iff.mp hf)] at h
      exact h c rfl
    | some e =>
      rw [hf] at hd
      cases hd
      exact hi e hf
  | case3 ps => nofun

/-- A template that is filled stays trimmed. -/
theorem trim_fill {template : List Char} (h : Text.trim template = template)
    (ps : List (List Char)) : Text.trim (fill template ps) = fill template ps := by
  rw [Text.trim_eq_self_iff] at h ⊢
  refine ⟨?_, getLast?_fill ps h.2⟩
  fun_cases fill template ps with
  | case1 =>
    intro c hc
    cases hc
    rfl
  | case2 c rest ps => exact h.1
  | case3 => nofun

/-- Taking the literals out of a filled template gives back the template and the parameters. -/
theorem extract_fill {template : List Char} {ps : List (List Char)}
    (ht : Text.trim template = template) (hc : holes template = ps.length)
    (hq : '"' ∉ template) (hd : ∀ c ∈ template, Text.isDigit c = false)
    (hp : ∀ p ∈ ps, p ≠ [] ∧ '"' ∉ p) :
    extract (String.ofList (fill template ps)) =
      ⟨String.ofList template, ps.map String.ofList⟩ := by
  obtain ⟨htemplate, hvalues⟩ := pieces_fill hc hq hd hp
  rw [extract, String.toList_ofList, htemplate, hvalues, ht]

/-- A line without double quotes has no parameters exactly if it holds no digit. -/
theorem parameters_extract_eq_nil_iff {line : String} (hq : '"' ∉ line.toList) :
    (extract line).parameters = [] ↔ ∀ c ∈ line.toList, Text.isDigit c = false :=
  no_parameters_iff.trans (and_iff_left (not_holdsQuoted hq))

/-- A trimmed line without double quotes and digits is its own template. -/
theorem template_extract {line : String} (ht : Text.trim line.toList = line.toList)
    (hq : '"' ∉ line.toList) (hd : ∀ c ∈ line.toList, Text.isDigit c = false) :
    (extract line).template = line := by
  rw [template_of_no_parameters ((parameters_extract_eq_nil_iff hq).mpr hd), Text.strip, ht,
    String.ofList_toList]

end Playbook.Script
