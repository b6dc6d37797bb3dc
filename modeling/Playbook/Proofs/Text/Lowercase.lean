import Mathlib.Data.List.Basic
import Playbook.Proofs.Text.Trimmed
import Playbook.Text.Lowercase

/-!
# Lower case in its surroundings

The dotted capital I alone becomes two characters, so lower case is longer than the text by as many
characters as the text has of these (`length_lowerFrom`). What follows a text changes its lower case
at one place at most: a capital sigma that ends the text is no final one if a cased letter comes
next (`lowerFrom_prefix_append_iff`). A blank is its own lower case, and that of nothing else, and
the rule for sigma stops at it.
-/

namespace Playbook.Text

/-- A character that the rule for sigma looks through. -/
def isLookedThrough (c : Char) : Bool :=
  inRanges caseIgnorableRanges c

/-! ### Length -/

/-- Lower case has one character more for every dotted capital I. -/
theorem length_lowerFrom (before cs : List Char) :
    (lowerFrom before cs).length = cs.length + cs.count 'İ' := by
  induction cs generalizing before with
  | nil => rfl
  | cons c cs ih =>
    rw [lowerFrom, List.length_append, ih, List.length_cons, List.count_cons]
    split
    · next sigma =>
      subst sigma
      simp
      omega
    · split
      · next dotted =>
        subst dotted
        simp
        omega
      · next dotted =>
        simp [dotted]
        omega

/-- Without sigmas and dotted Is, lower case is taken character by character. -/
theorem lowerFrom_eq_map {cs : List Char} (h : ∀ c ∈ cs, c ≠ 'Σ' ∧ c ≠ 'İ') (before : List Char) :
    lowerFrom before cs = cs.map lowerChar := by
  induction cs generalizing before with
  | nil => rfl
  | cons c cs ih =>
    obtain ⟨noSigma, undotted⟩ := h c List.mem_cons_self
    rw [lowerFrom, if_neg noSigma, if_neg undotted,
      ih (fun d hd ↦ h d (List.mem_cons_of_mem c hd)) (c :: before)]
    rfl

/-! ### Sigma -/

/-- A text behind `before`, which is given nearest first, ends with a final sigma, up to what is
looked through. -/
def EndsInSigma (before cs : List Char) : Prop :=
  ∃ front back, cs = front ++ 'Σ' :: back ∧ casedFirst (front.reverse ++ before) = true ∧
    ∀ c ∈ back, isLookedThrough c = true

private theorem casedFirst_cons (c : Char) (cs : List Char) :
    casedFirst (c :: cs) =
      if isLookedThrough c = true then casedFirst cs else inRanges casedRanges c :=
  rfl

/-- Characters that are looked through hide nothing of what comes after them. -/
theorem casedFirst_append_of_lookedThrough {cs : List Char}
    (h : ∀ c ∈ cs, isLookedThrough c = true) (after : List Char) :
    casedFirst (cs ++ after) = casedFirst after := by
  induction cs with
  | nil => rfl
  | cons c cs ih =>
    rw [List.cons_append, casedFirst_cons, if_pos (h c List.mem_cons_self)]
    exact ih fun d hd ↦ h d (List.mem_cons_of_mem c hd)

/-- A character that is not looked through hides what comes after it. -/
theorem casedFirst_append_of_mem {cs : List Char} {c : Char} (hc : c ∈ cs)
    (h : isLookedThrough c = false) (after : List Char) :
    casedFirst (cs ++ after) = casedFirst cs := by
  induction cs with
  | nil => cases hc
  | cons d cs ih =>
    rw [List.cons_append, casedFirst_cons, casedFirst_cons]
    split
    · next through =>
      refine ih ((List.mem_cons.mp hc).resolve_left ?_)
      rintro rfl
      exact Bool.false_ne_true (h.symm.trans through)
    · rfl

private theorem endsInSigma_cons {before : List Char} {c : Char} {cs : List Char} :
    EndsInSigma before (c :: cs) ↔
      (c = 'Σ' ∧ casedFirst before = true ∧ ∀ d ∈ cs, isLookedThrough d = true) ∨
        EndsInSigma (c :: before) cs := by
  constructor
  · rintro ⟨front, back, cut, cased, through⟩
    cases front with
    | nil =>
      obtain ⟨rfl, rfl⟩ := List.cons.inj cut
      exact .inl ⟨rfl, cased, through⟩
    | cons d front =>
      obtain ⟨rfl, rfl⟩ := List.cons.inj cut
      exact .inr ⟨front, back, rfl, by simpa using cased, through⟩
  · rintro (⟨rfl, cased, through⟩ | ⟨front, back, rfl, cased, through⟩)
    · exact ⟨[], cs, rfl, cased, through⟩
    · exact ⟨c :: front, back, rfl, by simpa using cased, through⟩

/-- The lower case of one character between others. -/
private def lowerAt (before : List Char) (c : Char) (rest : List Char) : List Char :=
  if c = 'Σ' then [if casedFirst before && !casedFirst rest then 'ς' else 'σ']
  else if c = 'İ' then ['i', '\u0307']
  else [lowerChar c]

private theorem length_lowerAt (before : List Char) (c : Char) (rest rest' : List Char) :
    (lowerAt before c rest).length = (lowerAt before c rest').length := by
  unfold lowerAt
  split
  · rfl
  · rfl

-- Lower case of one character is changed by what follows the rest of the text just if it is a sigma
-- at the end of the text.
private theorem lowerAt_append_iff (before : List Char) (c : Char) (rest after : List Char) :
    lowerAt before c (rest ++ after) = lowerAt before c rest ↔
      ¬((c = 'Σ' ∧ casedFirst before = true ∧ ∀ d ∈ rest, isLookedThrough d = true) ∧
        casedFirst after = true) := by
  unfold lowerAt
  by_cases sigma : c = 'Σ'
  · rw [if_pos sigma, if_pos sigma]
    by_cases through : ∀ d ∈ rest, isLookedThrough d = true
    · have nothing : casedFirst rest = false := by
        rw [← List.append_nil rest, casedFirst_append_of_lookedThrough through]
        rfl
      rw [casedFirst_append_of_lookedThrough through, nothing]
      have last : (c = 'Σ' ∧ casedFirst before = true ∧ ∀ d ∈ rest, isLookedThrough d = true) ↔
          casedFirst before = true := ⟨fun h ↦ h.2.1, fun h ↦ ⟨sigma, h, through⟩⟩
      rw [last]
      cases casedFirst before <;> cases casedFirst after <;> decide
    · push Not at through
      obtain ⟨d, hd, visible⟩ := through
      rw [casedFirst_append_of_mem hd (Bool.eq_false_iff.mpr visible)]
      refine iff_of_true rfl ?_
      rintro ⟨⟨-, -, through⟩, -⟩
      exact visible (through d hd)
  · rw [if_neg sigma, if_neg sigma]
    exact iff_of_true rfl fun h ↦ sigma h.1.1

/-- The lower case of a text starts that of a longer one unless the text ends with a final sigma and
a cased letter comes next. -/
theorem lowerFrom_prefix_append_iff (before cs after : List Char) :
    lowerFrom before cs <+: lowerFrom before (cs ++ after) ↔
      ¬(EndsInSigma before cs ∧ casedFirst after = true) := by
  induction cs generalizing before with
  | nil =>
    refine iff_of_true List.nil_prefix ?_
    rintro ⟨⟨front, back, cut, -⟩, -⟩
    cases front <;> cases cut
  | cons c cs ih =>
    have first (rest : List Char) :
        lowerFrom before (c :: rest) = lowerAt before c rest ++ lowerFrom (c :: before) rest := rfl
    rw [List.cons_append, first, first, endsInSigma_cons, or_and_right, not_or, ← ih,
      ← lowerAt_append_iff]
    constructor
    · rintro ⟨more, same⟩
      rw [List.append_assoc] at same
      obtain ⟨head, tail⟩ := List.append_inj same (length_lowerAt before c _ _)
      exact ⟨head.symm, more, tail⟩
    · rintro ⟨head, tail⟩
      rw [head]
      exact (List.prefix_append_right_inj _).mpr tail

/-! ### Blanks -/

private theorem apart_of_isBlank {ranges : List (Nat × Nat)} {c : Char} (blank : isBlank c = true)
    (apart : ∀ b ∈ blankRanges, ∀ r ∈ ranges, b.2 < r.1 ∨ r.2 < b.1) :
    inRanges ranges c = false := by
  obtain ⟨b, hb, low, high⟩ := inRanges_iff.mp blank
  refine Bool.eq_false_iff.mpr fun h ↦ ?_
  obtain ⟨r, hr, low', high'⟩ := inRanges_iff.mp h
  have := apart b hb r hr
  omega

private theorem toNat_ofNat (n : Nat) : (Char.ofNat n).toNat = n ∨ (Char.ofNat n).toNat = 0 := by
  by_cases valid : n.isValidChar
  · left
    rw [Char.ofNat, dif_pos valid]
    rfl
  · right
    rw [Char.ofNat, dif_neg valid]
    rfl

private theorem isBlank_lowerChar (c : Char) : isBlank (lowerChar c) = isBlank c := by
  have apart : ∀ r ∈ caseRuns, ∀ b ∈ blankRanges,
      (r.last < b.1 ∨ b.2 < r.first) ∧ (r.last + r.delta < b.1 ∨ b.2 < r.first + r.delta) ∧
        0 < b.1 := by
    decide +kernel
  unfold lowerChar
  dsimp only
  split
  · next r found =>
    have within := List.find?_some found
    have hr := List.mem_of_find?_eq_some found
    simp only [Bool.and_eq_true, decide_eq_true_eq] at within
    have changed : isBlank (Char.ofNat (c.toNat + r.delta).toNat) = false := by
      refine Bool.eq_false_iff.mpr fun blank ↦ ?_
      obtain ⟨b, hb, low, high⟩ := inRanges_iff.mp blank
      obtain ⟨-, apart, positive⟩ := apart r hr b hb
      rcases toNat_ofNat (c.toNat + r.delta).toNat with shifted | none
      · omega
      · omega
    have same : isBlank c = false := by
      refine Bool.eq_false_iff.mpr fun blank ↦ ?_
      obtain ⟨b, hb, low, high⟩ := inRanges_iff.mp blank
      have := (apart r hr b hb).1
      omega
    rw [changed, same]
  · rfl

/-- Lower case starts with a blank just if the text does. -/
theorem startsBlank_lowerFrom (before cs : List Char) :
    (lowerFrom before cs).head?.map isBlank = cs.head?.map isBlank := by
  cases cs with
  | nil => rfl
  | cons c cs =>
    have sigma : isBlank 'Σ' = false ∧ isBlank 'ς' = false ∧ isBlank 'σ' = false :=
      ⟨rfl, rfl, rfl⟩
    have dotted : isBlank 'İ' = isBlank 'i' := rfl
    rw [lowerFrom]
    split
    · next h =>
      subst h
      split <;> simp [sigma]
    · split
      · next h =>
        subst h
        simp [dotted]
      · simp [isBlank_lowerChar]

/-- The rule for sigma does not look through a blank. -/
theorem isLookedThrough_of_isBlank {c : Char} (h : isBlank c = true) : isLookedThrough c = false :=
  apart_of_isBlank h (by decide +kernel)

/-- Before a blank there is no letter that the rule for sigma would have to see. -/
theorem casedFirst_blanks {cs : List Char} (h : ∀ c ∈ cs, isBlank c = true) :
    casedFirst cs = false := by
  cases cs with
  | nil => rfl
  | cons c cs =>
    have blank : isBlank c = true := h c List.mem_cons_self
    rw [casedFirst_cons, if_neg (Bool.eq_false_iff.mp (isLookedThrough_of_isBlank blank))]
    exact apart_of_isBlank blank (by decide +kernel)

/-- Blanks at the end of a text do not matter to the rule for sigma. -/
theorem casedFirst_append_blanks (cs : List Char) {blanks : List Char}
    (h : ∀ c ∈ blanks, isBlank c = true) : casedFirst (cs ++ blanks) = casedFirst cs := by
  by_cases through : ∀ c ∈ cs, isLookedThrough c = true
  · rw [casedFirst_append_of_lookedThrough through, casedFirst_blanks h, ← List.append_nil cs,
      casedFirst_append_of_lookedThrough through]
    rfl
  · push Not at through
    obtain ⟨c, hc, visible⟩ := through
    exact casedFirst_append_of_mem hc (Bool.eq_false_iff.mpr visible) blanks

end Playbook.Text
