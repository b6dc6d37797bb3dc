import Mathlib.Data.List.TakeWhile
import Playbook.Proofs.Script.Header

/-!
# Loop headers that are read

Whatever is read as a loop header has a tidy name that stays whole and items without commas and
double quotes, so it can be written and is read again as the same (`parse_written`). The name may
hold brackets: none of them can start the items, or the name would have ended before it.
-/

namespace Playbook.Script

/-! ### The parts of a header -/

-- Items end at the last closing bracket, so there must be one.
private theorem bracketed?_eq_none_iff {rest : List Char} :
    bracketed? ('[' :: rest) = none ↔ ']' ∉ rest := by
  rw [bracketed?]
  split
  · next closing body h =>
    have found : ']' ∈ rest := by
      have stopped := List.head?_dropWhile_not (· != ']') rest.reverse
      have last : closing ∈ rest.reverse := (List.dropWhile_suffix (· != ']')).mem
        (h ▸ List.mem_cons_self)
      rw [h] at stopped
      have same : closing = ']' := by simpa using stopped
      exact same ▸ List.mem_reverse.mp last
    simp [found]
  · next h =>
    have passed := List.dropWhile_eq_nil_iff.mp h
    have missing : ']' ∉ rest := fun hm ↦ by simpa using passed _ (List.mem_reverse.mpr hm)
    simp [missing]

private theorem closing_mem_of_itemsText? {cs body : List Char} (h : itemsText? cs = some body) :
    ']' ∈ cs := by
  rw [itemsText?_eq] at h
  obtain ⟨left, hl, hb⟩ := Option.bind_eq_some_iff.mp h
  cases left with
  | nil => cases hb
  | cons c rest =>
    by_cases hc : c = '['
    · subst hc
      have closed : ']' ∈ rest := by
        by_contra missing
        rw [bracketed?_eq_none_iff.mpr missing] at hb
        cases hb
      exact (behindIn?_suffix hl).mem (List.mem_cons_of_mem _ closed)
    · simp [bracketed?, hc] at hb

private theorem exists_cut_of_splitHeader? {cs name body : List Char}
    (h : splitHeader? cs = some (name, body)) :
    ∃ tail, cs = name ++ tail ∧ itemsText? tail = some body ∧
      ∀ earlier later, name = earlier ++ later → later ≠ [] →
        itemsText? (later ++ tail) = none := by
  induction cs generalizing name with
  | nil => cases h
  | cons c cs ih =>
    rw [splitHeader?] at h
    split at h
    · next here =>
      cases h
      refine ⟨c :: cs, rfl, here, ?_⟩
      intro earlier later split ne
      exact absurd (List.append_eq_nil_iff.mp split.symm).2 ne
    · next here =>
      obtain ⟨⟨name', body'⟩, hs, he⟩ := Option.map_eq_some_iff.mp h
      cases he
      obtain ⟨tail, rfl, items, first⟩ := ih hs
      refine ⟨tail, rfl, items, ?_⟩
      intro earlier later split ne
      cases earlier with
      | nil =>
        rw [List.nil_append] at split
        rw [← split]
        exact here
      | cons e earlier =>
        obtain ⟨-, split⟩ := List.cons.inj split
        exact first earlier later split ne

section

variable {name tail body : List Char} (items : itemsText? tail = some body)
  (first : ∀ earlier later, name = earlier ++ later → later ≠ [] →
    itemsText? (later ++ tail) = none)

include items first

private theorem getLast?_name : ∀ c ∈ name.getLast?, Text.isBlank c = false := by
  intro c hc
  obtain ⟨earlier, split⟩ := List.getLast?_eq_some_iff.mp hc
  cases blank : Text.isBlank c with
  | false => rfl
  | true =>
    have missed := first earlier [c] split (List.cons_ne_nil c [])
    obtain ⟨afterBlanks, hb, h⟩ := Option.bind_eq_some_iff.mp items
    have same : dropBlanks? (c :: tail) = dropBlanks? tail := by
      cases tail with
      | nil => cases hb
      | cons d tail =>
        rw [dropBlanks?] at hb
        split at hb
        · next hd => rw [dropBlanks?, dropBlanks?, if_pos blank, if_pos hd,
            List.dropWhile_cons_of_pos hd]
        · cases hb
    have again : itemsText? (c :: tail) = itemsText? tail := by
      rw [itemsText?, itemsText?, same]
    rw [List.singleton_append, again, items] at missed
    cases missed

private theorem whole_of_cut (trimmed : Text.trim name = name) : Whole name := by
  intro earlier later rest split ne
  by_cases bracket : '[' ∈ later
  · obtain ⟨before, after, rfl, outside⟩ := List.eq_append_cons_of_mem bracket
    have missed := first earlier _ split ne
    -- Behind this bracket of the name the header closes one, so it was no bracket of the items.
    have closed : ']' ∈ after ++ tail :=
      List.mem_append_right after (closing_mem_of_itemsText? items)
    rw [List.append_assoc, List.cons_append, itemsText?_append outside] at missed ⊢
    have noWord : behindIn? before ≠ some [] := by
      intro word
      rw [if_pos word] at missed
      exact bracketed?_eq_none_iff.mp missed closed
    exact if_neg noWord
  · exact itemsText?_of_name bracket (exists_visible_of_end trimmed split ne) rest

end

/-! ### Reading -/

private theorem exists_of_ofText? {expression : String} {h : LoopHeader}
    (read : LoopHeader.ofText? expression = some h) :
    Text.Tidy h.name ∧ Whole h.name.toList ∧ ∃ body, h.items = itemsOf body := by
  obtain ⟨⟨name, body⟩, hs, read⟩ := Option.bind_eq_some_iff.mp read
  obtain ⟨tail, split, items, first⟩ := exists_cut_of_splitHeader? hs
  have trimmed : Text.trim name = name := by
    have whole := (Text.trim_eq_self_iff.mp (Text.trim_trim expression.toList)).1
    refine Text.trim_eq_self_iff.mpr ⟨?_, getLast?_name items first⟩
    intro c hc
    apply whole c
    rw [split, List.head?_append, Option.mem_def.mp hc]
    rfl
  dsimp only at read
  rw [trimmed] at read
  split at read
  · cases read
  · next ne =>
    cases read
    refine ⟨Text.tidy_ofList_iff.mpr ⟨by simpa using ne, trimmed⟩, ?_, _, rfl⟩
    rw [String.toList_ofList]
    exact whole_of_cut items first trimmed

private theorem parse_of_some {expression : String} {h : LoopHeader}
    (read : LoopHeader.ofText? expression = some h) : LoopHeader.parse expression = .ok h := by
  rw [LoopHeader.parse, read]

/-- A header that is written with a name without brackets and items without double quotes is read
with that name, and with those items exactly if none of them holds a comma. And every text is either
refused as it is, or read as a tidy name and items without commas and double quotes that are read
again when they are written. -/
theorem LoopHeader.parse_written :
    (∀ h : LoopHeader, Text.Tidy h.name → '[' ∉ h.name.toList →
      (∀ item ∈ h.items, '"' ∉ item.toList) →
        ∃ items, parse h.written = .ok ⟨h.name, items⟩ ∧
          (items = h.items ↔ ∀ item ∈ h.items, ',' ∉ item.toList)) ∧
      ∀ expression, parse expression = .error (.invalidLoop expression) ∨
        ∃ h, parse expression = .ok h ∧ Text.Tidy h.name ∧
          (∀ item ∈ h.items, ',' ∉ item.toList ∧ '"' ∉ item.toList) ∧
          parse h.written = .ok h := by
  constructor
  · intro h tidy noBracket noQuote
    have whole := whole_of_noBracket (Text.tidy_iff.mp tidy).2 noBracket
    exact ⟨_, parse_of_some (ofText?_written_of_whole tidy whole), itemsOf_listed_iff noQuote⟩
  · intro expression
    cases read : ofText? expression with
    | none =>
      left
      rw [parse, read]
    | some h =>
      right
      obtain ⟨tidy, whole, body, items⟩ := exists_of_ofText? read
      have plain : ∀ item ∈ h.items, ',' ∉ item.toList ∧ '"' ∉ item.toList := fun item hm ↦
        plain_of_mem_itemsOf (items ▸ hm)
      have again : itemsOf (listed h.items).toList = h.items :=
        (itemsOf_listed_iff fun item hm ↦ (plain item hm).2).mpr fun item hm ↦ (plain item hm).1
      have reread := ofText?_written_of_whole tidy whole
      rw [again] at reread
      exact ⟨h, parse_of_some read, tidy, plain, parse_of_some reread⟩

/-- A name that holds the word and a closing bracket, and items that are blank or hold brackets,
blanks and line ends, are read back. -/
theorem LoopHeader.parse_written_of_brackets :
    let h : LoopHeader := ⟨"lamp in ]", ["", "a] in [b", " c\nd "]⟩
    Text.Tidy h.name ∧ '[' ∉ h.name.toList ∧ (∀ item ∈ h.items, '"' ∉ item.toList) ∧
      (∀ item ∈ h.items, ',' ∉ item.toList) ∧
      h.written = "lamp in ] in [\"\", \"a] in [b\", \" c\nd \"]" ∧ parse h.written = .ok h := by
  intro h
  have tidy : Text.Tidy h.name := by decide +kernel
  have noBracket : '[' ∉ h.name.toList := by decide +kernel
  have noQuote : ∀ item ∈ h.items, '"' ∉ item.toList := by decide +kernel
  have noComma : ∀ item ∈ h.items, ',' ∉ item.toList := by decide +kernel
  obtain ⟨items, read, same⟩ := parse_written.1 h tidy noBracket noQuote
  refine ⟨tidy, noBracket, noQuote, noComma, by decide +kernel, ?_⟩
  rw [read, same.mpr noComma]

end Playbook.Script
