import Mathlib.Data.Finset.Max
import Playbook.Proofs.Text.Lowercase
import Playbook.Shop.Action

/-!
# The most specific rule

Rules are tried in order and the first that fits counts. It is as specific as any other unless one
of its phrases is the beginning of a longer phrase of a later rule (`specific_or_hidden`). Among the
actions of a shopper there is one such rule: a text that fits it because the totals of the order are
to show something may fit, in more words, the confirmation of the order or the number of items,
and these come later (`ordered_rules`). So a text that asks for both is taken for the less specific
one, and every other text for the most specific (`specific_iff`).
-/

namespace Playbook.Shop

variable {α : Type}

/-- A rule fits a text by a phrase that is as long as any phrase of a table that fits the text. -/
def Rule.MostSpecific (rules : List (Rule α)) (action : String) (rule : Rule α) : Prop :=
  ∃ p ∈ rule.phrases, p.fits action = true ∧
    ∀ other ∈ rules, ∀ q ∈ other.phrases, q.fits action = true →
      q.opening.length ≤ p.opening.length

/-! ### Phrases that fit one text -/

/-- A text that fits a phrase starts with it. -/
theorem Phrase.prefix_of_fits {p : Phrase} {action : String} (h : p.fits action = true) :
    lowered p.opening <+: lowered action := by
  rw [fits, Bool.and_eq_true, List.isPrefixOf_iff_prefix] at h
  exact h.1

/-- Of two phrases that fit one text, one starts the other. -/
theorem Phrase.prefix_or_prefix {p q : Phrase} {action : String} (hp : p.fits action = true)
    (hq : q.fits action = true) :
    lowered p.opening <+: lowered q.opening ∨ lowered q.opening <+: lowered p.opening :=
  List.prefix_or_prefix_of_prefix (prefix_of_fits hp) (prefix_of_fits hq)

/-- A rule that fits a text does so by a longest phrase. -/
theorem Rule.exists_longest {rule : Rule α} {action : String} (h : rule.fits action = true) :
    ∃ p ∈ rule.phrases, p.fits action = true ∧
      ∀ q ∈ rule.phrases, q.fits action = true → q.opening.length ≤ p.opening.length := by
  obtain ⟨p, own, hp⟩ := List.any_eq_true.mp h
  obtain ⟨longest, found, most⟩ := Finset.exists_max_image
    (rule.phrases.filter (·.fits action)).toFinset (·.opening.length)
    ⟨p, List.mem_toFinset.mpr (List.mem_filter.mpr ⟨own, hp⟩)⟩
  obtain ⟨mem, hl⟩ := List.mem_filter.mp (List.mem_toFinset.mp found)
  exact ⟨longest, mem, hl, fun q hq fits ↦
    most q (List.mem_toFinset.mpr (List.mem_filter.mpr ⟨hq, fits⟩))⟩

/-- The rule that is found for a text fits it. -/
theorem fits_of_find? {rules : List (Rule α)} {action : String} {rule : Rule α}
    (found : rules.find? (·.fits action) = some rule) : rule.fits action = true :=
  List.find?_some (p := fun r : Rule α ↦ r.fits action) found

/-- The first rule that fits a text comes before every other one that does. -/
theorem eq_or_sublist_of_fits {rules : List (Rule α)} {action : String} {rule other : Rule α}
    (found : rules.find? (·.fits action) = some rule) (mem : other ∈ rules)
    (fits : other.fits action = true) : other = rule ∨ [rule, other].Sublist rules := by
  induction rules with
  | nil => cases mem
  | cons r rules ih =>
    cases here : r.fits action with
    | true =>
      rw [List.find?_cons, here] at found
      cases found
      refine (List.mem_cons.mp mem).imp_right fun later ↦ ?_
      exact (List.singleton_sublist.mpr later).cons_cons rule
    | false =>
      rw [List.find?_cons, here] at found
      rcases List.mem_cons.mp mem with rfl | later
      · exact absurd fits (Bool.eq_false_iff.mp here)
      · exact (ih found later).imp_right (·.cons r)

/-- The first rule that fits a text is the most specific one, unless one of its phrases that fit is
shorter than one of a later rule. -/
theorem specific_or_hidden {rules : List (Rule α)} {action : String} {rule : Rule α}
    (found : rules.find? (·.fits action) = some rule) :
    rule.MostSpecific rules action ∨
      ∃ other, [rule, other].Sublist rules ∧ ∃ p ∈ rule.phrases, ∃ q ∈ other.phrases,
        p.fits action = true ∧ q.fits action = true ∧ p.opening.length < q.opening.length := by
  obtain ⟨p, own, hp, longest⟩ := Rule.exists_longest (fits_of_find? found)
  by_cases most : ∀ other ∈ rules, ∀ q ∈ other.phrases, q.fits action = true →
      q.opening.length ≤ p.opening.length
  · exact .inl ⟨p, own, hp, most⟩
  · push Not at most
    obtain ⟨other, mem, q, hq, fits, longer⟩ := most
    refine .inr ⟨other, ?_, p, own, q, hq, hp, fits, longer⟩
    refine (eq_or_sublist_of_fits found mem (List.any_eq_true.mpr ⟨q, hq, fits⟩)).resolve_left ?_
    rintro rfl
    exact longer.not_ge (longest q hq fits)

/-! ### The phrases of a shopper -/

/-- The letters of all phrases. -/
private def letters : List Char :=
  [' ', 'A', 'C', 'E', 'F', 'L', 'O', 'P', 'R', 'S', 'a', 'b', 'c', 'd', 'e', 'f', 'g', 'h', 'i',
    'k', 'l', 'm', 'n', 'o', 'p', 'r', 's', 't', 'u', 'w', 'В', 'Д', 'З', 'Н', 'О', 'П', 'а', 'б',
    'в', 'г', 'д', 'е', 'ж', 'з', 'и', 'й', 'к', 'л', 'м', 'н', 'о', 'п', 'р', 'с', 'т', 'у', 'ф',
    'х', 'ц', 'ч', 'ш', 'щ', 'ы', 'ь', 'ю', 'я']

/-- A text is written in these letters. -/
private def isPlain (cs : List Char) : Bool :=
  cs.all (· ∈ letters)

/-- Lower case of these letters. -/
private def lowerLetter (c : Char) : Char :=
  if ('A' ≤ c ∧ c ≤ 'Z') ∨ ('А' ≤ c ∧ c ≤ 'Я') then Char.ofNat (c.toNat + 32) else c

private theorem lowered_ofList {cs : List Char} (h : isPlain cs = true) :
    lowered (String.ofList cs) = cs.map lowerLetter := by
  have each : letters.all (fun c ↦ decide ((c ≠ 'Σ' ∧ c ≠ 'İ') ∧
      Text.lowerChar c = lowerLetter c)) = true := by
    decide +kernel
  have lower (c : Char) (hc : c ∈ cs) :
      (c ≠ 'Σ' ∧ c ≠ 'İ') ∧ Text.lowerChar c = lowerLetter c :=
    of_decide_eq_true (List.all_eq_true.mp each c
      (of_decide_eq_true (List.all_eq_true.mp h c hc)))
  rw [lowered, Text.lowercase, String.toList_ofList, String.toList_ofList,
    Text.lowerFrom_eq_map fun c hc ↦ (lower c hc).1]
  exact List.map_congr_left fun c hc ↦ (lower c hc).2

private theorem fits_ofList {cs ds : List Char} {f : Option (List Char)}
    (plain : (cs :: ds :: f.toList).all isPlain = true) :
    Phrase.fits ⟨String.ofList cs, f.map String.ofList⟩ (String.ofList ds) =
      ((cs.map lowerLetter).isPrefixOf (ds.map lowerLetter) &&
        f.all fun f ↦ Text.occursIn (f.map lowerLetter) (ds.map lowerLetter)) := by
  have each := List.all_eq_true.mp plain
  rw [Phrase.fits, lowered_ofList (each cs (by simp)), lowered_ofList (each ds (by simp))]
  cases f with
  | none => rfl
  | some f =>
    rw [Option.map_some, Option.all_some, Option.all_some, lowered_ofList (each f (by simp))]

/-- The actions that are hidden behind another one. -/
def Action.isHidden (a : Action) : Bool :=
  a = .checkOrderFinished || a = .checkItemsCount

/-- Where the beginning of a phrase starts that of one of another rule, or the other way round, the
one of the earlier rule is not shorter, unless the later rule is hidden behind it. -/
def Ordered (earlier later : Action) (opening opening' : String) : Prop :=
  lowered opening <+: lowered opening' ∨ lowered opening' <+: lowered opening →
    if later.isHidden then earlier = .checkPriceInTotals ∧ opening.length < opening'.length
    else opening'.length ≤ opening.length

private theorem exists_table :
    ∃ table : List (Action × List (List Char)),
      rules.map (fun r ↦ (r.meaning, r.phrases.map Phrase.opening)) =
        table.map (fun row ↦ (row.1, row.2.map String.ofList)) ∧
      (∀ row ∈ table, ∀ cs ∈ row.2, isPlain cs = true) ∧
      table.Pairwise fun row row' ↦ ∀ cs ∈ row.2, ∀ ds ∈ row'.2,
        cs.map lowerLetter <+: ds.map lowerLetter ∨ ds.map lowerLetter <+: cs.map lowerLetter →
          if row'.1.isHidden then row.1 = .checkPriceInTotals ∧ cs.length < ds.length
          else ds.length ≤ cs.length :=
  ⟨[(_, [_, _]), (_, [_, _]), (_, [_, _]), (_, [_, _]), (_, [_, _]), (_, [_, _]), (_, [_, _]),
      (_, [_, _]), (_, [_, _]), (_, [_, _]), (_, [_, _]), (_, [_, _]), (_, [_, _]), (_, [_, _]),
      (_, [_, _]), (_, [_, _]), (_, [_, _]), (_, [_, _]), (_, [_, _]), (_, [_, _]), (_, [_, _])],
    rfl, by decide +kernel, by decide +kernel⟩

/-- Longer openings come first, but for the two actions that are hidden. -/
theorem ordered_rules :
    rules.Pairwise fun r other ↦ ∀ p ∈ r.phrases, ∀ q ∈ other.phrases,
      Ordered r.meaning other.meaning p.opening q.opening := by
  obtain ⟨table, same, plain, ordered⟩ := exists_table
  have spelled : (table.map fun row ↦ (row.1, row.2.map String.ofList)).Pairwise fun a b ↦
      ∀ s ∈ a.2, ∀ t ∈ b.2, Ordered a.1 b.1 s t := by
    refine List.pairwise_map.mpr (ordered.imp_of_mem fun mem mem' apart s hs t ht ↦ ?_)
    obtain ⟨cs, hc, rfl⟩ := List.mem_map.mp hs
    obtain ⟨ds, hd, rfl⟩ := List.mem_map.mp ht
    rw [Ordered, lowered_ofList (plain _ mem cs hc), lowered_ofList (plain _ mem' ds hd),
      String.length_ofList, String.length_ofList]
    exact apart cs hc ds hd
  rw [← same] at spelled
  refine (List.pairwise_map.mp spelled).imp fun apart p hp q hq ↦ ?_
  exact apart p.opening (List.mem_map_of_mem hp) q.opening (List.mem_map_of_mem hq)

-- The hidden actions come after the one that hides them.
private theorem hidden_after_totals :
    rules.Pairwise fun r other ↦ r.meaning.isHidden → other.meaning ≠ .checkPriceInTotals := by
  decide

/-! ### What a text is taken for -/

/-- A text may be taken for an action: it fits its rule. -/
def Action.MayBe (a : Action) (action : String) : Prop :=
  ∃ rule ∈ rules, rule.meaning = a ∧ rule.fits action = true

/-- A text that fits a phrase may be taken for the action of its rule. -/
theorem mayBe_of_fits {rule : Rule Action} (mem : rule ∈ rules) {p : Phrase}
    (own : p ∈ rule.phrases) {action : String} (fits : p.fits action = true) :
    rule.meaning.MayBe action :=
  ⟨rule, mem, rfl, List.any_eq_true.mpr ⟨p, own, fits⟩⟩

/-- Every action has one rule. -/
theorem mayBe_iff {rule : Rule Action} (mem : rule ∈ rules) {action : String} :
    rule.meaning.MayBe action ↔ rule.fits action = true := by
  have nodup : (rules.map Rule.meaning).Nodup := by decide
  constructor
  · rintro ⟨other, mem', same, fits⟩
    rwa [← List.inj_on_of_nodup_map nodup mem' mem same]
  · exact fun fits ↦ ⟨rule, mem, rfl, fits⟩

/-- A text that may be taken for an action is taken by some rule. -/
theorem exists_found {a : Action} {action : String} (h : a.MayBe action) :
    ∃ rule, rules.find? (·.fits action) = some rule := by
  obtain ⟨rule, mem, -, fits⟩ := h
  exact Option.isSome_iff_exists.mp (List.find?_isSome.mpr ⟨rule, mem, fits⟩)

/-- What comes before a hidden action and fits the same text is the action that hides it, by a
shorter phrase. -/
theorem hides_of_before {rule other : Rule Action} (before : [rule, other].Sublist rules)
    (isHidden : other.meaning.isHidden = true) {p q : Phrase} (own : p ∈ rule.phrases)
    (hq : q ∈ other.phrases) {action : String} (hp : p.fits action = true)
    (fits : q.fits action = true) :
    rule.meaning = .checkPriceInTotals ∧ p.opening.length < q.opening.length := by
  have ordered := List.pairwise_iff_forall_sublist.mp ordered_rules before p own q hq
    (Phrase.prefix_or_prefix hp fits)
  rwa [if_pos isHidden] at ordered

/-- A text that fits a hidden action and the one that hides it is taken for the latter, which has
the shorter phrase. -/
theorem taken_for_totals {action : String} {rule : Rule Action} {a : Action}
    (found : rules.find? (·.fits action) = some rule)
    (totals : Action.checkPriceInTotals.MayBe action) (hidden : a.MayBe action)
    (isHidden : a.isHidden = true) :
    rule.meaning = .checkPriceInTotals ∧ ¬rule.MostSpecific rules action := by
  obtain ⟨other, mem, rfl, fits⟩ := hidden
  obtain ⟨first, mem', meaning, fits'⟩ := totals
  rcases eq_or_sublist_of_fits found mem fits with rfl | later
  · -- the hidden rule is not the first: the one that hides it fits as well
    exfalso
    rcases eq_or_sublist_of_fits found mem' fits' with rfl | later'
    · rw [meaning] at isHidden
      exact absurd isHidden (by decide)
    · exact List.pairwise_iff_forall_sublist.mp hidden_after_totals later' isHidden meaning
  · obtain ⟨q, hq, fitsBy⟩ := List.any_eq_true.mp fits
    obtain ⟨p, own, hp⟩ := List.any_eq_true.mp (fits_of_find? found)
    refine ⟨(hides_of_before later isHidden own hq hp fitsBy).1, ?_⟩
    rintro ⟨p, own, hp, most⟩
    exact (hides_of_before later isHidden own hq hp fitsBy).2.not_ge (most other mem q hq fitsBy)

private theorem mayBe_totals_iff (action : String) :
    Action.checkPriceInTotals.MayBe action ↔
      Phrase.fits ⟨"Should see in order totals", none⟩ action = true ∨
        Phrase.fits ⟨"Должен увидеть", some "в итогах заказа"⟩ action = true := by
  have mem : (⟨.checkPriceInTotals, [⟨"Should see in order totals", none⟩,
      ⟨"Должен увидеть", some "в итогах заказа"⟩]⟩ : Rule Action) ∈ rules :=
    List.mem_of_getElem? (i := 14) rfl
  rw [mayBe_iff mem, Rule.fits, List.any_cons, List.any_cons, List.any_nil, Bool.or_false,
    Bool.or_eq_true]

/-- A text that fits a hidden action and not the one that hides it means the hidden action. -/
theorem ofText?_of_hidden {action : String} {a : Action} (hidden : a.MayBe action)
    (isHidden : a.isHidden = true) (apart : ¬Action.checkPriceInTotals.MayBe action) :
    Action.ofText? action = some a := by
  obtain ⟨rule, found⟩ := exists_found hidden
  obtain ⟨other, mem, rfl, fits⟩ := hidden
  rcases eq_or_sublist_of_fits found mem fits with rfl | later
  · rw [Action.ofText?, meaning?, found, Option.map_some]
  · exfalso
    obtain ⟨p, own, hp⟩ := List.any_eq_true.mp (fits_of_find? found)
    obtain ⟨q, hq, fitsBy⟩ := List.any_eq_true.mp fits
    have totals := (hides_of_before later isHidden own hq hp fitsBy).1
    exact apart (totals ▸ mayBe_of_fits (later.subset List.mem_cons_self) own hp)

/-- A text that says so asks for the number of items. -/
theorem ofText?_number_of_items :
    Action.ofText? "Should see number of items" = some .checkItemsCount := by
  have count : Action.checkItemsCount.MayBe "Should see number of items" :=
    mayBe_of_fits (List.mem_of_getElem? (i := 20) rfl) (p := ⟨"Should see number of items", none⟩)
      (by simp) ((fits_ofList (f := none) rfl).trans rfl)
  have english :
      Phrase.fits ⟨"Should see in order totals", none⟩ "Should see number of items" = false :=
    (fits_ofList (f := none) rfl).trans rfl
  have russian : Phrase.fits ⟨"Должен увидеть", some "в итогах заказа"⟩
      "Should see number of items" = false :=
    (fits_ofList (f := some _) rfl).trans rfl
  refine ofText?_of_hidden count rfl ?_
  rw [mayBe_totals_iff, english, russian]
  simp

/-- A confirmation of the order that mentions its totals. -/
def mixedText : String := "Должен увидеть сообщение о завершении в итогах заказа"

/-- The confirmation of the order is not what the text is taken for, although its phrase is longer.
-/
theorem confirmation_taken_for_totals :
    Action.checkOrderFinished.MayBe mixedText ∧
      ∃ rule, rules.find? (·.fits mixedText) = some rule ∧ rule.meaning = .checkPriceInTotals ∧
        ¬rule.MostSpecific rules mixedText := by
  have finished : Action.checkOrderFinished.MayBe mixedText :=
    mayBe_of_fits (List.mem_of_getElem? (i := 16) rfl)
      (p := ⟨"Должен увидеть сообщение о завершении", none⟩) (by simp)
      ((fits_ofList (f := none) rfl).trans rfl)
  have totals : Action.checkPriceInTotals.MayBe mixedText :=
    mayBe_of_fits (List.mem_of_getElem? (i := 14) rfl)
      (p := ⟨"Должен увидеть", some "в итогах заказа"⟩) (by simp)
      ((fits_ofList (f := some _) rfl).trans rfl)
  obtain ⟨rule, found⟩ := exists_found totals
  exact ⟨finished, rule, found, taken_for_totals found totals finished rfl⟩

/-- The rule that a text is taken by is the most specific one that fits, unless the text may be
taken for a look at the totals of the order and also, in more words, for the confirmation of the
order or for the number of items. Then it is taken for a look at the totals. -/
theorem specific_iff {action : String} {rule : Rule Action}
    (found : rules.find? (·.fits action) = some rule) :
    (rule.MostSpecific rules action ↔
      ¬(Action.checkPriceInTotals.MayBe action ∧
        (Action.checkOrderFinished.MayBe action ∨ Action.checkItemsCount.MayBe action))) ∧
    (Action.checkPriceInTotals.MayBe action ∧
        (Action.checkOrderFinished.MayBe action ∨ Action.checkItemsCount.MayBe action) →
      rule.meaning = .checkPriceInTotals) := by
  have both (overlap : Action.checkPriceInTotals.MayBe action ∧
      (Action.checkOrderFinished.MayBe action ∨ Action.checkItemsCount.MayBe action)) :
      rule.meaning = .checkPriceInTotals ∧ ¬rule.MostSpecific rules action := by
    obtain ⟨totals, finished | count⟩ := overlap
    · exact taken_for_totals found totals finished rfl
    · exact taken_for_totals found totals count rfl
  refine ⟨⟨fun most overlap ↦ (both overlap).2 most, fun apart ↦ ?_⟩,
    fun overlap ↦ (both overlap).1⟩
  refine (specific_or_hidden found).resolve_right ?_
  rintro ⟨other, later, p, own, q, hq, fits, fits', longer⟩
  have ordered := List.pairwise_iff_forall_sublist.mp ordered_rules later p own q hq
    (Phrase.prefix_or_prefix fits fits')
  split at ordered
  · next isHidden =>
    have mem := later.subset
    have totals : Action.checkPriceInTotals.MayBe action :=
      ordered.1 ▸ mayBe_of_fits (mem (by simp)) own fits
    have hidden : other.meaning.MayBe action := mayBe_of_fits (mem (by simp)) hq fits'
    rw [Action.isHidden, Bool.or_eq_true, decide_eq_true_eq, decide_eq_true_eq] at isHidden
    rcases isHidden with finished | count
    · exact apart ⟨totals, .inl (finished ▸ hidden)⟩
    · exact apart ⟨totals, .inr (count ▸ hidden)⟩
  · exact longer.not_ge ordered

/-- A text that fits two rules is taken by the one with the longer phrase. -/
theorem specific_of_two_readings :
    Action.enterUsername.MayBe "Ввести имя пользователя" ∧
      Action.enterFirstName.MayBe "Ввести имя пользователя" ∧
      ∃ rule, rules.find? (·.fits "Ввести имя пользователя") = some rule ∧
        rule.MostSpecific rules "Ввести имя пользователя" := by
  have user : Action.enterUsername.MayBe "Ввести имя пользователя" :=
    mayBe_of_fits (List.mem_of_getElem? (i := 1) rfl) (p := ⟨"Ввести имя пользователя", none⟩)
      (by simp) ((fits_ofList (f := none) rfl).trans rfl)
  have first : Action.enterFirstName.MayBe "Ввести имя пользователя" :=
    mayBe_of_fits (List.mem_of_getElem? (i := 9) rfl) (p := ⟨"Ввести имя", none⟩)
      (by simp) ((fits_ofList (f := none) rfl).trans rfl)
  have english :
      Phrase.fits ⟨"Should see in order totals", none⟩ "Ввести имя пользователя" = false :=
    (fits_ofList (f := none) rfl).trans rfl
  have russian : Phrase.fits ⟨"Должен увидеть", some "в итогах заказа"⟩
      "Ввести имя пользователя" = false :=
    (fits_ofList (f := some _) rfl).trans rfl
  have apart : ¬Action.checkPriceInTotals.MayBe "Ввести имя пользователя" := by
    rw [mayBe_totals_iff, english, russian]
    simp
  obtain ⟨rule, found⟩ := exists_found user
  exact ⟨user, first, rule, found, (specific_iff found).1.mpr fun overlap ↦ apart overlap.1⟩

end Playbook.Shop
