import Playbook.Condition
import Playbook.Proofs.Run.Performing
import Playbook.Proofs.Text.Lowercase

/-!
# Phrases of conditions

A condition that starts with a registered phrase, in any letter case, is meant for its predicate,
with the rest as the argument. That is so unless the phrase is misheard (`Misheard`), which depends
on what follows it. The blanks at the end of a condition are taken off before it is compared, also
those that belong to the phrase; and a final sigma at the end of the phrase is none before a letter.
A phrase that is misheard is as good as not registered (`asks_spoken`). The argument starts as far
behind the beginning of the condition as the phrase is long in lower case, so it lacks a character
for every dotted capital I of the phrase.
-/

namespace Playbook

namespace Text

/-! ### What is left of a condition -/

/-- A phrase is not recognised in front of a text: it ends with a blank and the text has nothing but
blanks, or it ends with a final sigma and the text goes on with a cased letter. -/
def Misheard (phrase rest : List Char) : Prop :=
  ((∃ c ∈ phrase.getLast?, isBlank c = true) ∧ ∀ c ∈ rest, isBlank c = true) ∨
    EndsInSigma [] phrase ∧ casedFirst rest = true

variable {phrase rest : List Char}

-- Trimming leaves a phrase as it is, unless it ends with a blank and nothing follows.
private theorem exists_trim_append (first : ∃ c ∈ phrase.head?, isBlank c = false)
    (kept : ¬((∃ c ∈ phrase.getLast?, isBlank c = true) ∧ ∀ c ∈ rest, isBlank c = true)) :
    ∃ said back, rest = said ++ back ∧ (∀ c ∈ back, isBlank c = true) ∧
      trim (phrase ++ rest) = phrase ++ said := by
  obtain ⟨c, hc, visible⟩ := first
  have left (cs : List Char) : trimLeft (phrase ++ cs) = phrase ++ cs := by
    rw [trimLeft_eq_self_iff]
    intro d hd
    rw [List.head?_append, Option.mem_def.mp hc] at hd
    cases hd
    exact visible
  by_cases blank : ∀ c ∈ rest, isBlank c = true
  · refine ⟨[], rest, rfl, blank, ?_⟩
    have ends : trimRight phrase = phrase := by
      rw [trimRight_eq_self_iff]
      exact fun d hd ↦ Bool.eq_false_iff.mpr fun h ↦ kept ⟨⟨d, hd, h⟩, blank⟩
    rw [trim_append_right phrase blank, List.append_nil, trim, ← List.append_nil phrase, left,
      List.append_nil, ends]
  · push Not at blank
    obtain ⟨d, hd, shown⟩ := blank
    obtain ⟨back, cut, blanks⟩ := exists_trimRight rest
    refine ⟨trimRight rest, back, cut, blanks, ?_⟩
    rw [trim, left, trimRight_append hd (Bool.eq_false_iff.mpr shown)]

private theorem not_endsInSigma_nil (before : List Char) : ¬EndsInSigma before [] := by
  rintro ⟨front, back, cut, -⟩
  cases front <;> cases cut

/-- A phrase without a capital sigma is heard if anything follows it. -/
theorem not_misheard {c : Char} (hc : c ∈ rest) (visible : isBlank c = false)
    (noSigma : 'Σ' ∉ phrase) : ¬Misheard phrase rest := by
  rintro (⟨-, blank⟩ | ⟨⟨front, back, rfl, -⟩, -⟩)
  · exact Bool.false_ne_true (visible.symm.trans (blank c hc))
  · exact noSigma (List.mem_append_right front List.mem_cons_self)

/-- A phrase that does not start with a blank is recognised in a condition unless it is misheard. -/
theorem lowered_prefix_iff (first : ∀ c ∈ phrase.head?, isBlank c = false) :
    lowerFrom [] phrase <+: lowerFrom [] (trim (phrase ++ rest)) ↔ ¬Misheard phrase rest := by
  cases phrase with
  | nil =>
    refine iff_of_true List.nil_prefix ?_
    rintro (⟨⟨c, hc, -⟩, -⟩ | ⟨sigma, -⟩)
    · cases hc
    · exact not_endsInSigma_nil [] sigma
  | cons c cs =>
    have visible : ∃ d ∈ (c :: cs).head?, isBlank d = false := ⟨c, rfl, first c rfl⟩
    by_cases lost : (∃ d ∈ (c :: cs).getLast?, isBlank d = true) ∧ ∀ d ∈ rest, isBlank d = true
    · refine iff_of_false (fun same ↦ ?_) fun heard ↦ heard (.inl lost)
      -- what is compared is shorter than the phrase, and lower case never shrinks
      have left : trimLeft (c :: cs) = c :: cs := trimLeft_eq_self_iff.mpr first
      rw [trim_append_right (c :: cs) lost.2, trim, left] at same
      obtain ⟨⟨d, hd, blank⟩, -⟩ := lost
      have cut : trimRight (c :: cs) ≠ c :: cs := fun h ↦
        Bool.false_ne_true ((trimRight_eq_self_iff.mp h d hd).symm.trans blank)
      obtain ⟨back, whole⟩ := trimRight_prefix (c :: cs)
      have shorter := same.length_le
      rw [length_lowerFrom, length_lowerFrom, ← whole, List.length_append, List.count_append,
        whole] at shorter
      have gone : back = [] := List.eq_nil_of_length_eq_zero (by omega)
      rw [gone, List.append_nil] at whole
      exact cut whole
    · obtain ⟨said, back, rfl, blanks, trimmed⟩ := exists_trim_append visible lost
      rw [trimmed, lowerFrom_prefix_append_iff, Misheard, casedFirst_append_blanks said blanks]
      exact not_congr ⟨.inr, fun h ↦ h.resolve_left lost⟩

/-- What is cut off as the argument of a phrase is the text behind it, but for as many characters as
the phrase has dotted capital Is. -/
theorem trim_drop_lowered (first : ∀ c ∈ phrase.head?, isBlank c = false)
    (heard : ¬Misheard phrase rest) :
    trim ((trim (phrase ++ rest)).drop (lowerFrom [] phrase).length) =
      trim (rest.drop (phrase.count 'İ')) := by
  cases phrase with
  | nil => exact trim_trim rest
  | cons c cs =>
    obtain ⟨said, back, rfl, blanks, trimmed⟩ :=
      exists_trim_append ⟨c, rfl, first c rfl⟩ fun lost ↦ heard (.inl lost)
    rw [trimmed, length_lowerFrom, ← List.drop_drop, List.drop_left, List.drop_append]
    have dropped : ∀ d ∈ back.drop ((c :: cs).count 'İ' - said.length), isBlank d = true :=
      fun d hd ↦ blanks d (List.mem_of_mem_drop hd)
    exact (trim_append_right _ dropped).symm

/-- Texts of one lower case start with blanks alike. -/
theorem visible_of_spells {spelling phrase : String}
    (spells : lowercase spelling = lowercase phrase)
    (visible : ∀ c ∈ phrase.toList.head?, isBlank c = false) :
    ∀ c ∈ spelling.toList.head?, isBlank c = false := by
  have same : spelling.toList.head?.map isBlank = phrase.toList.head?.map isBlank := by
    rw [← startsBlank_lowerFrom [] spelling.toList, ← startsBlank_lowerFrom [] phrase.toList,
      String.ofList_inj.mp spells]
  intro c hc
  rw [Option.mem_def.mp hc] at same
  obtain ⟨d, hd, shown⟩ := Option.map_eq_some_iff.mp same.symm
  exact shown ▸ visible d hd

end Text

namespace Registry

variable {σ : Type}

/-- Evaluating a condition asks a predicate about an argument, once and before anything else. What
it answers is what the condition comes to, and nothing more is done than to log it. -/
def Asks (r : Registry σ) (condition : String) (p : Predicate σ) (argument : String) : Prop :=
  ∀ s,
    match p argument s with
    | .ok holds t => ∃ text, r.evaluate condition s = .ok holds (t.logged .debug .conditions text)
    | .error e t => r.evaluate condition s = .error e t

/-- Evaluating a condition asks the predicate that is found for it. -/
theorem asks_of_find? {r : Registry σ} {condition argument : String} {p : Predicate σ}
    (found : r.find? (Text.strip condition) = some (argument, p)) :
    r.Asks condition p argument := by
  obtain ⟨told, asking⟩ : ∃ told : Bool → String,
      r.evaluate condition = (do
        let holds ← p argument
        Play.report .debug .conditions (told holds)
        return holds) := by
    unfold evaluate
    dsimp only
    rw [found]
    exact ⟨_, rfl⟩
  intro s
  rw [asking]
  cases asked : p argument s with
  | ok holds t => exact ⟨told holds, bind_of_ok _ asked⟩
  | error e t => exact bind_of_error _ asked

/-- A condition comes to the same under registries that find the same for it. -/
theorem evaluate_congr {r r' : Registry σ} {condition : String}
    (same : r.find? (Text.strip condition) = r'.find? (Text.strip condition)) :
    r.evaluate condition = r'.evaluate condition := by
  unfold evaluate
  dsimp only
  rw [same]

/-- A condition that starts with a spelling of a registered phrase, and with no phrase registered
before, asks the predicate of the phrase about the rest. The argument lacks as many characters of
the rest as the spelling has dotted capital Is. Only if the phrase is misheard is its predicate not
asked, and the condition comes to what it comes to without it. -/
theorem asks_spoken {r : Registry σ} {earlier later : List (List Char × Predicate σ)}
    {phrase spelling rest : String} {p : Predicate σ}
    (entries : r.entries = earlier ++ ((Text.lowercase phrase).toList, p) :: later)
    (visible : ∀ c ∈ phrase.toList.head?, Text.isBlank c = false)
    (spells : Text.lowercase spelling = Text.lowercase phrase)
    (first : ∀ e ∈ earlier,
      ¬e.1 <+: (Text.lowercase (Text.strip (spelling ++ rest))).toList) :
    (¬Text.Misheard spelling.toList rest.toList →
        r.Asks (spelling ++ rest) p
          (Text.strip (String.ofList (rest.toList.drop (spelling.toList.count 'İ'))))) ∧
      (Text.Misheard spelling.toList rest.toList →
        r.evaluate (spelling ++ rest) = (⟨later⟩ : Registry σ).evaluate (spelling ++ rest)) := by
  have shown := Text.visible_of_spells spells visible
  have recognised := @Text.lowered_prefix_iff spelling.toList rest.toList shown
  have condition : (Text.strip (spelling ++ rest)).toList =
      Text.trim (spelling.toList ++ rest.toList) := by
    rw [Text.toList_strip, String.toList_append]
  have key : (Text.lowercase phrase).toList = Text.lowerFrom [] spelling.toList := by
    rw [← spells, Text.lowercase, String.toList_ofList]
  have passed : earlier.find? (fun e ↦
      e.1.isPrefixOf (Text.lowercase (Text.strip (spelling ++ rest))).toList) = none :=
    List.find?_eq_none.mpr fun e he ↦ by
      rw [List.isPrefixOf_iff_prefix]
      exact first e he
  constructor
  · intro heard
    refine asks_of_find? ?_
    unfold find?
    dsimp only
    rw [entries, List.find?_append, passed, Option.none_or, List.find?_cons_of_pos]
    · rw [Option.map_some, key, condition, Text.trim_drop_lowered shown heard, Text.strip,
        String.toList_ofList]
    · rw [List.isPrefixOf_iff_prefix, key, Text.lowercase, String.toList_ofList, condition]
      exact recognised.mpr heard
  · intro misheard
    refine evaluate_congr ?_
    unfold find?
    dsimp only
    rw [entries, List.find?_append, passed, Option.none_or, List.find?_cons_of_neg]
    rw [List.isPrefixOf_iff_prefix, key, Text.lowercase, String.toList_ofList, condition,
      recognised]
    exact fun heard ↦ heard misheard

/-- The second of the phrases that are always known, in capitals. -/
theorem asks_title_in_capitals :
    Text.lowercase "ЗАГОЛОВОК СТРАНИЦЫ СОДЕРЖИТ " = Text.lowercase "заголовок страницы содержит " ∧
      (standard : Registry Unit).Asks ("ЗАГОЛОВОК СТРАНИЦЫ СОДЕРЖИТ " ++ " Labs ") pageTitleContains
        "Labs" := by
  have spells : Text.lowercase "ЗАГОЛОВОК СТРАНИЦЫ СОДЕРЖИТ " =
      Text.lowercase "заголовок страницы содержит " := congrArg String.ofList (by decide +kernel)
  refine ⟨spells, ?_⟩
  have entries : (standard : Registry Unit).entries =
      [((Text.lowercase "page title contains ").toList, pageTitleContains)] ++
        ((Text.lowercase "заголовок страницы содержит ").toList, pageTitleContains) :: [] := rfl
  have other : ¬(Text.lowercase "page title contains ").toList <+:
      (Text.lowercase (Text.strip ("ЗАГОЛОВОК СТРАНИЦЫ СОДЕРЖИТ " ++ " Labs "))).toList := by
    rw [Text.lowercase, Text.lowercase, String.toList_ofList, String.toList_ofList]
    decide +kernel
  have heard : ¬Text.Misheard "ЗАГОЛОВОК СТРАНИЦЫ СОДЕРЖИТ ".toList " Labs ".toList :=
    Text.not_misheard (c := 'L') (by decide) rfl (by decide)
  have visible : ∀ c ∈ "заголовок страницы содержит ".toList.head?, Text.isBlank c = false := by
    rintro c ⟨⟩
    rfl
  have spoken := asks_spoken entries visible spells fun e he ↦ by
    rw [List.mem_singleton.mp he]
    exact other
  have argument : Text.strip (String.ofList (" Labs ".toList.drop
      ("ЗАГОЛОВОК СТРАНИЦЫ СОДЕРЖИТ ".toList.count 'İ'))) = "Labs" := by decide +kernel
  rw [← argument]
  exact spoken.1 heard

/-- A predicate that holds of one argument, registered under a phrase. -/
def expecting (phrase argument : String) : Registry Unit :=
  ({} : Registry Unit).register phrase fun a ↦ pure (a == argument)

/-- What a condition comes to. -/
def verdict? (r : Registry Unit) (condition : String) : Option Bool :=
  match r.evaluate condition { world := () } with
  | .ok holds _ => some holds
  | .error _ _ => none

/-- A condition that starts with a registered phrase may hold although its predicate does not hold
of the rest, and the other way round: the phrase loses its blank, or its last letter is no final
sigma any more, or it is longer in lower case. -/
theorem phrase_misheard :
    (expecting "flag " "on").verdict? ("flag " ++ "") = some true ∧
      (expecting "ΟΔΟΣ" "Β").verdict? ("ΟΔΟΣ" ++ "Α") = some true ∧
      (expecting "İ " "on").verdict? ("İ " ++ "on") = some false := by
  decide +kernel

end Registry

end Playbook
