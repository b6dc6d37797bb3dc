import Mathlib.Tactic.MkIffOfInductiveProp
import Playbook.Proofs.Script.Saying
import Playbook.Proofs.Script.Spelling
import Playbook.Script.LoopHeader

/-!
# Written loop headers

A loop header is written with its items between double quotes. Reading finds the name and the items
again (`ofText?_written`), also items that are blank or hold brackets: the name ends at the first
opening bracket, since before another one there would have to be more than a single word, and the
items reach to the last closing bracket, which is the end of the header. A name that holds brackets
is found if it is whole (`ofText?_written_of_whole`), and items that hold commas are not
(`itemsOf_listed_iff`).
-/

namespace Playbook.Script

/-- An item as it is listed in a header. -/
def quotedItem (item : String) : String := "\"" ++ item ++ "\""

/-- The items of a header as they are listed. -/
def listed (items : List String) : String := ", ".intercalate (items.map quotedItem)

/-- A loop header as it is written. -/
def LoopHeader.written (h : LoopHeader) : String := h.name ++ " in [" ++ listed h.items ++ "]"

/-- A name that the header of a loop can start with: it holds something, is trimmed, and holds
neither an opening bracket nor an opening brace. -/
@[mk_iff] structure IsLoopName (name : String) : Prop where
  tidy : Text.Tidy name
  noBracket : '[' ∉ name.toList
  noBrace : '\x7b' ∉ name.toList

/-- An item that can be listed: it holds no double quote, no comma and no opening brace. -/
@[mk_iff] structure IsListable (item : String) : Prop where
  noQuote : '"' ∉ item.toList
  noComma : ',' ∉ item.toList
  noBrace : '\x7b' ∉ item.toList

/-- Whether a loop can have a name is told by the characters of the name. -/
instance (name : String) : Decidable (IsLoopName name) :=
  decidable_of_iff _ (isLoopName_iff name).symm

/-- Whether an item can be listed is told by its characters. -/
instance (item : String) : Decidable (IsListable item) :=
  decidable_of_iff _ (isListable_iff item).symm

/-! ### Items -/

@[simp] private theorem toList_quotedItem (item : String) :
    (quotedItem item).toList = '"' :: (item.toList ++ ['"']) := by
  simp [quotedItem]

private theorem listed_singleton (item : String) : listed [item] = quotedItem item := by
  simp [listed]

private theorem toList_listed_cons (item next : String) (items : List String) :
    (listed (item :: next :: items)).toList =
      (quotedItem item).toList ++ ',' :: ' ' :: (listed (next :: items)).toList := by
  simp only [listed, String.toList_intercalate, List.map_cons, List.intercalate_cons_cons,
    List.append_assoc]
  rfl

private theorem quotedItem_ends (item : String) :
    (quotedItem item).toList.head? = some '"' ∧ (quotedItem item).toList.getLast? = some '"' := by
  constructor
  · rw [toList_quotedItem]
    rfl
  · rw [toList_quotedItem, ← List.cons_append]
    exact List.getLast?_concat

private theorem listed_ends {items : List String} (h : items ≠ []) :
    (listed items).toList.head? = some '"' ∧ (listed items).toList.getLast? = some '"' := by
  induction items with
  | nil => exact absurd rfl h
  | cons item items ih =>
    cases items with
    | nil =>
      rw [listed_singleton]
      exact quotedItem_ends item
    | cons next items =>
      obtain ⟨-, last⟩ := ih (List.cons_ne_nil _ _)
      rw [toList_listed_cons]
      constructor
      · rw [List.head?_append, (quotedItem_ends item).1]
        rfl
      · rw [List.getLast?_append, List.getLast?_cons, List.getLast?_cons, last]
        rfl

/-- The items that are read from what stands between the brackets. -/
def itemsOf (body : List Char) : List String :=
  if body.isEmpty then [] else (Text.splitOn ',' body).map itemOf

/-- Items that are read hold neither a comma nor a double quote. -/
theorem plain_of_mem_itemsOf {body : List Char} {item : String} (h : item ∈ itemsOf body) :
    ',' ∉ item.toList ∧ '"' ∉ item.toList := by
  rw [itemsOf] at h
  split at h
  · cases h
  · obtain ⟨part, hp, rfl⟩ := List.mem_map.mp h
    rw [itemOf, String.toList_ofList]
    constructor
    · intro hm
      exact Text.not_mem_of_mem_splitOn hp (Text.mem_of_mem_trim (List.mem_of_mem_filter hm))
    · intro hm
      have := List.of_mem_filter hm
      simp at this

private theorem itemOf_quotedItem {item : String} (noQuote : '"' ∉ item.toList) {gap : List Char}
    (blank : ∀ c ∈ gap, Text.isBlank c = true) :
    itemOf (gap ++ (quotedItem item).toList) = item := by
  have trimmed : Text.trim (gap ++ (quotedItem item).toList) = (quotedItem item).toList := by
    rw [Text.trim, Text.trimLeft, List.dropWhile_append_of_pos blank]
    exact Text.trim_of_ends (quotedItem_ends item).1 (quotedItem_ends item).2 rfl rfl
  have kept : item.toList.filter (· != '"') = item.toList := by
    apply List.filter_eq_self.mpr
    intro c hc
    have : c ≠ '"' := fun he ↦ noQuote (he ▸ hc)
    simpa using this
  rw [itemOf, trimmed]
  simp [kept]

private theorem comma_notMem {item : String} (noComma : ',' ∉ item.toList) {gap : List Char}
    (blank : ∀ c ∈ gap, Text.isBlank c = true) : ',' ∉ gap ++ (quotedItem item).toList := by
  intro hm
  rcases List.mem_append.mp hm with hm | hm
  · cases blank _ hm
  · rw [toList_quotedItem] at hm
    simp [noComma] at hm

private theorem map_itemOf_splitOn {items : List String}
    (noQuote : ∀ item ∈ items, '"' ∉ item.toList) (noComma : ∀ item ∈ items, ',' ∉ item.toList)
    (ne : items ≠ []) {gap : List Char} (blank : ∀ c ∈ gap, Text.isBlank c = true) :
    (Text.splitOn ',' (gap ++ (listed items).toList)).map itemOf = items := by
  induction items generalizing gap with
  | nil => exact absurd rfl ne
  | cons item items ih =>
    obtain ⟨hq, hqs⟩ := List.forall_mem_cons.mp noQuote
    obtain ⟨hc, hcs⟩ := List.forall_mem_cons.mp noComma
    cases items with
    | nil =>
      rw [listed_singleton, Text.splitOn_of_notMem (comma_notMem hc blank), List.map_singleton,
        itemOf_quotedItem hq blank]
    | cons next items =>
      have space : ∀ c ∈ [' '], Text.isBlank c = true := List.forall_mem_singleton.mpr rfl
      have rest := ih hqs hcs (List.cons_ne_nil _ _) space
      rw [toList_listed_cons, ← List.append_assoc, Text.splitOn_append (comma_notMem hc blank),
        List.map_cons, itemOf_quotedItem hq blank]
      exact congrArg (item :: ·) rest

/-- Items that hold no double quote are read from the text in which they are listed exactly if none
of them holds a comma. -/
theorem itemsOf_listed_iff {items : List String} (noQuote : ∀ item ∈ items, '"' ∉ item.toList) :
    itemsOf (listed items).toList = items ↔ ∀ item ∈ items, ',' ∉ item.toList := by
  constructor
  · intro same item hi
    exact (plain_of_mem_itemsOf (same.symm ▸ hi)).1
  · intro noComma
    by_cases ne : items = []
    · subst ne
      rfl
    · have shown : (listed items).toList ≠ [] := by
        intro he
        cases he ▸ (listed_ends ne).1
      rw [itemsOf, if_neg (by simpa using shown)]
      exact map_itemOf_splitOn noQuote noComma ne
        (List.forall_mem_nil fun c ↦ Text.isBlank c = true)

/-! ### Where the name ends -/

/-- What is left of a text behind blanks, the word between name and items, and blanks. -/
def behindIn? (cs : List Char) : Option (List Char) := do
  let cs ← dropBlanks? cs
  let cs ← Keyword.inWord.drop? cs
  dropBlanks? cs

/-- The items start with a bracket behind the word. -/
theorem itemsText?_eq (cs : List Char) : itemsText? cs = (behindIn? cs).bind bracketed? := by
  simp only [itemsText?, behindIn?, Option.bind_eq_bind, Option.bind_assoc]

/-- What is left behind the word is an end of the text. -/
theorem behindIn?_suffix {cs rest : List Char} (h : behindIn? cs = some rest) : rest <:+ cs := by
  obtain ⟨afterBlanks, hb, h⟩ := Option.bind_eq_some_iff.mp h
  obtain ⟨afterWord, hw, hb'⟩ := Option.bind_eq_some_iff.mp h
  exact (dropBlanks?_suffix hb').1.trans ((Keyword.drop?_suffix hw).trans (dropBlanks?_suffix hb).1)

/-- A bracket starts the items exactly if nothing but the word between blanks stands before it. -/
theorem itemsText?_append {before : List Char} (noBracket : '[' ∉ before) (rest : List Char) :
    itemsText? (before ++ '[' :: rest) =
      if behindIn? before = some [] then bracketed? ('[' :: rest) else none := by
  have visible : Text.isBlank '[' = false := rfl
  have stops : Keyword.inWord.StopsAt '[' := by decide +kernel
  have upTo : behindIn? (before ++ '[' :: rest) = (behindIn? before).map (· ++ '[' :: rest) := by
    rw [behindIn?, behindIn?, dropBlanks?_append_mark rest visible]
    cases dropBlanks? before with
    | none => rfl
    | some afterBlanks =>
      change (Keyword.inWord.drop? (afterBlanks ++ '[' :: rest)).bind _ =
        ((Keyword.inWord.drop? afterBlanks).bind _).map _
      rw [Keyword.drop?_append_mark rest visible stops]
      cases Keyword.inWord.drop? afterBlanks with
      | none => rfl
      | some afterWord => exact dropBlanks?_append_mark rest visible afterWord
  rw [itemsText?_eq, upTo]
  cases h : behindIn? before with
  | none => rfl
  | some left =>
    cases left with
    | nil => rfl
    | cons c left =>
      have other : c ≠ '[' := by
        rintro rfl
        exact noBracket ((behindIn?_suffix h).mem List.mem_cons_self)
      rw [if_neg (by simp), Option.map_some, Option.bind_some, List.cons_append]
      simp [bracketed?, other]

/-- How many characters of a text are no blanks. -/
private def ink (cs : List Char) : Nat := cs.countP fun c ↦ !Text.isBlank c

private theorem ink_append (cs rest : List Char) :
    ink (cs ++ rest) = ink cs + ink rest :=
  List.countP_append

private theorem ink_of_blank {gap : List Char} (h : ∀ c ∈ gap, Text.isBlank c = true) :
    ink gap = 0 :=
  List.countP_eq_zero.mpr fun c hc ↦ by simp [h c hc]

private theorem ink_of_inWord {cs rest : List Char} (h : Keyword.inWord.drop? cs = some rest) :
    ink cs ≤ 2 + ink rest := by
  obtain ⟨words, hw, hd⟩ := List.exists_of_findSome?_eq_some h
  obtain ⟨word, rfl, short⟩ : ∃ word, words = [word] ∧ word.length ≤ 2 := by
    simp only [Keyword.inWord, List.mem_cons, List.not_mem_nil, or_false] at hw
    rcases hw with rfl | rfl
    · exact ⟨_, rfl, by decide⟩
    · exact ⟨_, rfl, by decide⟩
  obtain ⟨spelt, rfl, hs⟩ := exists_spells_of_dropWord? hd
  have : ink spelt ≤ spelt.length := List.countP_le_length
  rw [ink_append]
  have := hs.length_eq
  omega

-- No more than a word of two letters stands before what is left behind it.
private theorem ink_of_behindIn? {cs rest : List Char} (h : behindIn? cs = some rest) :
    ink cs ≤ 2 + ink rest := by
  obtain ⟨afterBlanks, hb, h⟩ := Option.bind_eq_some_iff.mp h
  obtain ⟨afterWord, hw, hb'⟩ := Option.bind_eq_some_iff.mp h
  obtain ⟨gap, rfl, -, blank⟩ := exists_gap_of_dropBlanks? hb
  obtain ⟨gap', rfl, -, blank'⟩ := exists_gap_of_dropBlanks? hb'
  have word := ink_of_inWord hw
  rw [ink_append, ink_of_blank blank'] at word
  rw [ink_append, ink_of_blank blank]
  omega

/-- The name of a loop does not end before its last character, if no bracket stands behind. -/
theorem itemsText?_of_name {name : List Char} (noBracket : '[' ∉ name)
    (shown : ∃ c ∈ name, Text.isBlank c = false) (rest : List Char) :
    itemsText? (name ++ (" in [".toList ++ rest)) = none := by
  have split : name ++ (" in [".toList ++ rest) = (name ++ " in ".toList) ++ '[' :: rest := by
    simp
  have outside : '[' ∉ name ++ " in ".toList := by simp [noBracket]
  rw [split, itemsText?_append outside, if_neg]
  intro h
  obtain ⟨c, hc, visible⟩ := shown
  have some : 0 < ink name := List.countP_pos_iff.mpr ⟨c, hc, by simp [visible]⟩
  -- the word and the character are more than a word
  have short := ink_of_behindIn? h
  have word : ink " in ".toList = 2 := by decide +kernel
  have nothing : ink [] = 0 := rfl
  rw [ink_append] at short
  omega

/-- A name that a header is cut at nowhere before its end, whatever is listed behind it. -/
def Whole (name : List Char) : Prop :=
  ∀ earlier later rest, name = earlier ++ later → later ≠ [] →
    itemsText? (later ++ (" in [".toList ++ rest)) = none

/-- Every end of a trimmed text shows something. -/
theorem exists_visible_of_end {name earlier later : List Char} (trimmed : Text.trim name = name)
    (split : name = earlier ++ later) (ne : later ≠ []) :
    ∃ c ∈ later, Text.isBlank c = false := by
  have last : later.getLast ne ∈ name.getLast? := by
    rw [split, List.getLast?_append, List.getLast?_eq_some_getLast ne]
    rfl
  exact ⟨later.getLast ne, List.getLast_mem ne, (Text.trim_eq_self_iff.mp trimmed).2 _ last⟩

/-- A trimmed name without an opening bracket stays whole. -/
theorem whole_of_noBracket {name : List Char} (trimmed : Text.trim name = name)
    (noBracket : '[' ∉ name) : Whole name := by
  intro earlier later rest split ne
  refine itemsText?_of_name ?_ (exists_visible_of_end trimmed split ne) rest
  exact fun hm ↦ noBracket (split ▸ List.mem_append_right _ hm)

private theorem splitHeader?_append {name rest body : List Char}
    (items : itemsText? rest = some body) (ne : rest ≠ [])
    (first : ∀ earlier later, name = earlier ++ later → later ≠ [] →
      itemsText? (later ++ rest) = none) : splitHeader? (name ++ rest) = some (name, body) := by
  induction name with
  | nil =>
    obtain ⟨c, rest, rfl⟩ := List.exists_cons_of_ne_nil ne
    rw [List.nil_append, splitHeader?, items]
  | cons c name ih =>
    have here := first [] (c :: name) rfl (List.cons_ne_nil _ _)
    rw [List.cons_append] at here ⊢
    have rest : splitHeader? (name ++ rest) = some (name, body) := by
      apply ih
      intro earlier later split
      exact first (c :: earlier) later (by rw [split, List.cons_append])
    rw [splitHeader?, here, rest]
    rfl

/-! ### Reading a header -/

private theorem bracketed?_append (body : List Char) :
    bracketed? ('[' :: (body ++ [']'])) = some body := by
  simp [bracketed?]

private theorem itemsText?_written (body : List Char) :
    itemsText? (" in [".toList ++ (body ++ [']'])) = some body := by
  have noBracket : '[' ∉ " in ".toList := by decide
  have word : behindIn? " in ".toList = some [] := rfl
  have found := itemsText?_append noBracket (body ++ [']'])
  rw [if_pos word, bracketed?_append] at found
  exact found

private theorem LoopHeader.toList_written (h : LoopHeader) :
    h.written.toList = h.name.toList ++ (" in [".toList ++ ((listed h.items).toList ++ [']'])) := by
  simp [written]

private theorem trim_written {h : LoopHeader} (tidy : Text.Tidy h.name) :
    Text.trim h.written.toList = h.written.toList := by
  obtain ⟨ne, trimmed⟩ := Text.tidy_iff.mp tidy
  rw [Text.trim_eq_self_iff] at trimmed ⊢
  have last : h.written.toList.getLast? = some ']' := by
    rw [LoopHeader.toList_written, ← List.append_assoc, ← List.append_assoc]
    exact List.getLast?_concat
  constructor
  · rw [LoopHeader.toList_written, List.head?_append, List.head?_eq_some_head ne]
    exact fun c hc ↦ trimmed.1 c (List.head?_eq_some_head ne ▸ hc)
  · rw [last]
    rintro _ ⟨⟩
    rfl

private theorem trim_listed (items : List String) :
    Text.trim (listed items).toList = (listed items).toList := by
  by_cases ne : items = []
  · subst ne
    rfl
  · exact Text.trim_of_ends (listed_ends ne).1 (listed_ends ne).2 rfl rfl

/-- A written header is read with its name, if that stays whole, and with the items that are read
from the text in which its items are listed. -/
theorem LoopHeader.ofText?_written_of_whole {h : LoopHeader} (tidy : Text.Tidy h.name)
    (whole : Whole h.name.toList) :
    ofText? h.written = some ⟨h.name, itemsOf (listed h.items).toList⟩ := by
  obtain ⟨ne, trimmed⟩ := Text.tidy_iff.mp tidy
  have found : splitHeader? h.written.toList = some (h.name.toList, (listed h.items).toList) := by
    rw [toList_written]
    exact splitHeader?_append (itemsText?_written _) (by simp) fun earlier later ↦
      whole earlier later _
  rw [ofText?, trim_written tidy, found, Option.bind_eq_bind, Option.bind_some]
  dsimp only
  rw [trimmed, trim_listed, if_neg (by simpa using ne), String.ofList_toList, itemsOf]

/-- A written header is read as it was meant. -/
theorem LoopHeader.ofText?_written {h : LoopHeader} (hn : IsLoopName h.name)
    (hi : ∀ item ∈ h.items, IsListable item) : ofText? h.written = some h := by
  have items := (itemsOf_listed_iff fun item hm ↦ (hi item hm).noQuote).mpr fun item hm ↦
    (hi item hm).noComma
  rw [ofText?_written_of_whole hn.tidy
    (whole_of_noBracket (Text.tidy_iff.mp hn.tidy).2 hn.noBracket), items]

example :
    LoopHeader.ofText? "x in in [\"a] in [b\", \" \"]" = some ⟨"x in", ["a] in [b", " "]⟩ := by
  decide +kernel

private theorem noBrace_listed {items : List String} (h : ∀ item ∈ items, IsListable item) :
    '\x7b' ∉ (listed items).toList := by
  induction items with
  | nil => exact List.not_mem_nil
  | cons item items ih =>
    obtain ⟨hi, his⟩ := List.forall_mem_cons.mp h
    cases items with
    | nil => simp [listed_singleton, hi.noBrace]
    | cons next items => simp [toList_listed_cons, hi.noBrace, ih his]

/-- A written header refers to no variable. -/
theorem LoopHeader.noBrace_written {h : LoopHeader} (hn : IsLoopName h.name)
    (hi : ∀ item ∈ h.items, IsListable item) : '\x7b' ∉ h.written.toList := by
  simp [toList_written, hn.noBrace, noBrace_listed hi]

end Playbook.Script
