import Mathlib.Data.List.TakeWhile
import Playbook.Text.Blank

/-!
# Trimmed texts

A text is trimmed when trimming changes nothing: neither its first character nor its last one is a
blank (`trim_eq_self_iff`).
-/

namespace Playbook.Text

/-- Nothing is trimmed on the left exactly when the first character is no blank. -/
theorem trimLeft_eq_self_iff {cs : List Char} :
    trimLeft cs = cs ↔ ∀ c ∈ cs.head?, isBlank c = false := by
  cases cs with
  | nil => simp [trimLeft]
  | cons c cs =>
    cases hc : isBlank c with
    | false => simp [trimLeft, hc]
    | true =>
      have hl : (cs.dropWhile isBlank).length ≤ cs.length :=
        (List.dropWhile_suffix isBlank).length_le
      have hn : trimLeft (c :: cs) ≠ c :: cs := by
        intro h
        have := congrArg List.length h
        simp only [trimLeft, List.dropWhile_cons, hc, ↓reduceIte, List.length_cons] at this
        omega
      simp [hn, hc]

/-- Nothing is trimmed on the right exactly when the last character is no blank. -/
theorem trimRight_eq_self_iff {cs : List Char} :
    trimRight cs = cs ↔ ∀ c ∈ cs.getLast?, isBlank c = false := by
  rw [← List.head?_reverse, ← trimLeft_eq_self_iff, trimRight, trimLeft,
    List.reverse_eq_iff]

/-- A text is trimmed exactly when it neither starts nor ends with a blank. -/
theorem trim_eq_self_iff {cs : List Char} :
    trim cs = cs ↔
      (∀ c ∈ cs.head?, isBlank c = false) ∧ ∀ c ∈ cs.getLast?, isBlank c = false := by
  rw [← trimLeft_eq_self_iff, ← trimRight_eq_self_iff]
  constructor
  · intro h
    have hl : trimLeft cs <:+ cs := List.dropWhile_suffix isBlank
    have hr : trimRight (trimLeft cs) <+: trimLeft cs := trimRight_prefix _
    have hlen : cs.length ≤ (trimLeft cs).length := by
      have := hr.length_le
      rwa [show trimRight (trimLeft cs) = cs from h] at this
    have he : trimLeft cs = cs := hl.eq_of_length_le hlen
    refine ⟨he, ?_⟩
    rwa [trim, he] at h
  · rintro ⟨hl, hr⟩
    rw [trim, hl, hr]

/-- A text is trimmed if neither its first character nor its last one is a blank. -/
theorem trim_of_ends {cs : List Char} {first last : Char} (hf : cs.head? = some first)
    (hl : cs.getLast? = some last) (hf' : isBlank first = false)
    (hl' : isBlank last = false) : trim cs = cs := by
  rw [trim_eq_self_iff, hf, hl]
  constructor
  · rintro _ ⟨⟩
    exact hf'
  · rintro _ ⟨⟩
    exact hl'

/-- The end of a trimmed text is trimmed if it starts with no blank. -/
theorem trim_of_suffix {cs rest : List Char} (h : trim cs = cs) (hs : rest <:+ cs)
    (hh : ∀ c ∈ rest.head?, isBlank c = false) : trim rest = rest := by
  rw [trim_eq_self_iff] at h ⊢
  refine ⟨hh, ?_⟩
  intro c hc
  obtain ⟨before, rfl⟩ := hs
  apply h.2 c
  rw [List.getLast?_append, Option.mem_def.mp hc]
  rfl

/-- Trimming on the left keeps every character that is no blank. -/
theorem mem_trimLeft {cs : List Char} {c : Char} (hm : c ∈ cs) (hc : isBlank c = false) :
    c ∈ trimLeft cs := by
  rw [← List.takeWhile_append_dropWhile (p := isBlank) (l := cs)] at hm
  rcases List.mem_append.mp hm with ht | hd
  · have hb := List.all_eq_true.mp List.all_takeWhile c ht
    rw [hc] at hb
    cases hb
  · exact hd

/-- A text that holds a character other than blanks is not trimmed to nothing. -/
theorem trim_ne_nil {cs : List Char} {c : Char} (hm : c ∈ cs) (hc : isBlank c = false) :
    trim cs ≠ [] := by
  have hr : c ∈ (trimLeft cs).reverse := List.mem_reverse.mpr (mem_trimLeft hm hc)
  have hd : c ∈ ((trimLeft cs).reverse.dropWhile isBlank) := mem_trimLeft hr hc
  intro h
  rw [trim, trimRight, List.reverse_eq_nil_iff] at h
  rw [h] at hd
  cases hd

/-- Trimming adds no character. -/
theorem mem_of_mem_trim {cs : List Char} {c : Char} (h : c ∈ trim cs) : c ∈ cs :=
  (List.dropWhile_suffix _).mem (( trimRight_prefix _).mem h)

/-- A text is what trimming leaves of it between blanks. -/
theorem exists_blanks (cs : List Char) :
    ∃ front back, cs = front ++ (trim cs ++ back) ∧ (∀ c ∈ front, isBlank c = true) ∧
      ∀ c ∈ back, isBlank c = true := by
  refine ⟨cs.takeWhile isBlank, ((trimLeft cs).reverse.takeWhile isBlank).reverse, ?_,
    List.all_eq_true.mp List.all_takeWhile, ?_⟩
  · rw [trim, trimRight, ← List.reverse_append, List.takeWhile_append_dropWhile,
      List.reverse_reverse, trimLeft, List.takeWhile_append_dropWhile]
  · intro c hc
    exact List.all_eq_true.mp List.all_takeWhile c (List.mem_reverse.mp hc)

/-- Blanks around a text are trimmed away. -/
theorem trim_append_blanks {front back : List Char} (hf : ∀ c ∈ front, isBlank c = true)
    (cs : List Char) (hb : ∀ c ∈ back, isBlank c = true) :
    trim (front ++ (cs ++ back)) = trim cs := by
  have right (xs : List Char) : trimRight (xs ++ back) = trimRight xs := by
    rw [trimRight, List.reverse_append,
      List.dropWhile_append_of_pos fun c hc ↦ hb c (List.mem_reverse.mp hc), trimRight]
  rw [trim, trimLeft, List.dropWhile_append_of_pos hf, List.dropWhile_append]
  split
  · next nothing =>
    have gone : back.dropWhile isBlank = [] := List.dropWhile_eq_nil_iff.mpr hb
    rw [gone, trim, trimLeft, List.isEmpty_iff.mp nothing]
  · exact right _

/-- Blanks behind a text are trimmed away. -/
theorem trim_append_right (cs : List Char) {back : List Char} (hb : ∀ c ∈ back, isBlank c = true) :
    trim (cs ++ back) = trim cs :=
  @trim_append_blanks [] back (List.forall_mem_nil _) cs hb

/-- Trimming on the right leaves everything before a character that is no blank. -/
theorem trimRight_append {cs : List Char} {c : Char} (hc : c ∈ cs) (visible : isBlank c = false)
    (front : List Char) : trimRight (front ++ cs) = front ++ trimRight cs := by
  rw [trimRight, List.reverse_append, List.dropWhile_append, if_neg, List.reverse_append,
    List.reverse_reverse, trimRight]
  rw [List.isEmpty_iff, List.dropWhile_eq_nil_iff]
  intro blank
  exact Bool.false_ne_true (visible.symm.trans (blank c (List.mem_reverse.mpr hc)))

/-- A text is what trimming on the right leaves of it before blanks. -/
theorem exists_trimRight (cs : List Char) :
    ∃ back, cs = trimRight cs ++ back ∧ ∀ c ∈ back, isBlank c = true := by
  refine ⟨(cs.reverse.takeWhile isBlank).reverse, ?_, fun c hc ↦ ?_⟩
  · rw [trimRight, ← List.reverse_append, List.takeWhile_append_dropWhile, List.reverse_reverse]
  · exact List.all_eq_true.mp List.all_takeWhile c (List.mem_reverse.mp hc)

/-- A text is trimmed on both sides of a character that is no blank. -/
theorem trim_append_cons {mark : Char} (visible : isBlank mark = false) (xs ys : List Char) :
    trim (xs ++ mark :: ys) = trimLeft xs ++ mark :: trimRight ys := by
  have left : trimLeft (xs ++ mark :: ys) = trimLeft xs ++ mark :: ys := by
    rw [trimLeft, List.dropWhile_append]
    split
    · next nothing =>
      rw [trimLeft, List.isEmpty_iff.mp nothing, List.dropWhile_cons_of_neg (by simp [visible]),
        List.nil_append]
    · rfl
  rw [trim, left, trimRight, List.reverse_append, List.reverse_cons, List.append_assoc,
    List.dropWhile_append]
  split
  · next nothing =>
    rw [List.singleton_append, List.dropWhile_cons_of_neg (by simp [visible]), trimRight,
      List.isEmpty_iff.mp nothing]
    simp
  · simp [trimRight]

/-- A text is tidy when it holds something and is trimmed. -/
def Tidy (s : String) : Prop :=
  s ≠ "" ∧ strip s = s

/-- Whether a text is tidy is told by its characters. -/
instance (s : String) : Decidable (Tidy s) :=
  inferInstanceAs (Decidable (s ≠ "" ∧ strip s = s))

/-- A text is tidy exactly when its characters are some and trimmed. -/
theorem tidy_iff {s : String} : Tidy s ↔ s.toList ≠ [] ∧ trim s.toList = s.toList := by
  rw [Tidy, ← String.toList_inj, toList_strip, Ne, Ne, String.toList_eq_nil_iff]

/-- Characters make a tidy text exactly when they are some and trimmed. -/
theorem tidy_ofList_iff {cs : List Char} : Tidy (String.ofList cs) ↔ cs ≠ [] ∧ trim cs = cs := by
  rw [tidy_iff, String.toList_ofList]

end Playbook.Text
