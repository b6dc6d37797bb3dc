import Mathlib.Algebra.Group.Nat.Defs
import Playbook.Json.Reader
import Playbook.Json.Writer
import Playbook.Proofs.Value

/-!
# What is written reads back

The JSON text of a value reads as that value (`read_indented`), if its integers are not longer than
integers are read and no object in it has a name twice (`Legible`). A reader is given what a writer
wrote and something that cannot go on with it (`Ended`), and it leaves just that: texts are read
character by character (`textBody_escapeChar`), integers digit by digit (`number?_digits`), lists
and objects part by part (`items_written`, `fields_written`).
-/

namespace Playbook.Json

variable {rest : List Char}

/-! ### Texts -/

private theorem hexNumber?_hexDigits {n : Nat} (h : n < 0x20) :
    hexNumber? (Text.hexDigits 4 n) = some n := by
  have all : ∀ m : Fin 0x20, hexNumber? (Text.hexDigits 4 m) = some m.val := by decide
  exact all ⟨n, h⟩

/-- A character of a text is read as it was written. -/
theorem textBody_escapeChar (start : Nat) (c : Char) (rest : List Char) :
    textBody start none (escapeChar c ++ rest) =
      (textBody start none rest).map fun p ↦ (c :: p.1, p.2) := by
  unfold escapeChar
  split
  · next h =>
    rcases h with rfl | rfl
    · rfl
    · rfl
  split
  · next h => rw [h]; rfl
  split
  · next h => rw [h]; rfl
  split
  · next h => rw [h]; rfl
  split
  · next h => rw [show c = '\x08' from Char.toNat_inj.mp h]; rfl
  split
  · next h => rw [show c = '\x0c' from Char.toNat_inj.mp h]; rfl
  split
  · next low =>
    have code := hexNumber?_hexDigits low
    have written : Text.hexDigits 4 c.toNat = [_, _, _, _] := rfl
    rw [written] at code ⊢
    -- Neither half of a surrogate pair is that low.
    have noHigh : ¬(0xD800 ≤ c.toNat ∧ c.toNat < 0xDC00) := by omega
    have noLow : ¬(0xDC00 ≤ c.toNat ∧ c.toNat < 0xE000) := by omega
    simp only [List.cons_append, List.nil_append]
    rw [textBody, code]
    simp only [noHigh, noLow, if_false, Char.ofNat_toNat]
    rfl
  · next special _ _ _ _ _ high =>
    rw [not_or] at special
    simp only [List.cons_append, List.nil_append]
    rw [textBody, if_neg special.2, if_neg high]
    · rfl
    · exact special.1
    · exact fun _ _ _ _ _ h ↦ absurd h special.2
    · exact fun _ h ↦ absurd h special.2
    · exact fun _ _ h ↦ absurd h special.2

/-- A text is read up to the quote that closes it. -/
theorem textBody_written (start : Nat) (cs rest : List Char) :
    textBody start none (cs.flatMap escapeChar ++ '"' :: rest) = .ok (cs, rest) := by
  induction cs with
  | nil => rfl
  | cons c cs ih =>
    rw [List.flatMap_cons, List.append_assoc, textBody_escapeChar, ih]
    rfl

/-! ### Integers -/

/-- What may follow a written value: the end of the text, a comma or a line end. -/
inductive Ended : List Char → Prop
  | nil : Ended []
  | comma (cs : List Char) : Ended (',' :: cs)
  | line (cs : List Char) : Ended ('\n' :: cs)

private theorem Ended.takeWhile (h : Ended rest) : rest.takeWhile isAsciiDigit = [] := by
  cases h <;> rfl

private theorem Ended.dropWhile (h : Ended rest) : rest.dropWhile isAsciiDigit = rest := by
  cases h <;> rfl

private theorem Ended.fraction (h : Ended rest) : fraction rest = ([], rest) := by
  cases h <;> rfl

private theorem Ended.exponent? (h : Ended rest) : exponent? rest = none := by
  cases h <;> rfl

private theorem isAsciiDigit_of_mem_toDigits {n : Nat} {c : Char} (h : c ∈ Nat.toDigits 10 n) :
    isAsciiDigit c = true :=
  Nat.isDigit_of_mem_toDigits (by decide) (by decide) h

private theorem exists_digits (n : Nat) :
    ∃ d ds, Nat.toDigits 10 n = d :: ds ∧ isAsciiDigit d = true := by
  cases h : Nat.toDigits 10 n with
  | nil => exact absurd h Nat.toDigits_ne_nil
  | cons d ds => exact ⟨d, ds, rfl, isAsciiDigit_of_mem_toDigits (h ▸ List.mem_cons_self)⟩

private theorem ne_digit {c d : Char} (h : isAsciiDigit c = false) (digit : isAsciiDigit d = true) :
    c ≠ d := by
  rintro rfl
  simp [digit] at h

/-- A number above zero is written without a leading zero. -/
theorem toDigits_head_ne_zero {n : Nat} (pos : 0 < n) : (Nat.toDigits 10 n).head? ≠ some '0' := by
  induction n using Nat.strongRecOn with
  | ind n ih =>
    rw [Nat.toDigits_eq_if (by decide)]
    split
    · next small =>
      have all : ∀ d : Fin 10, 0 < d.val → [d.val.digitChar].head? ≠ some '0' := by decide
      exact all ⟨n, small⟩ pos
    · rw [List.head?_append_of_ne_nil _ Nat.toDigits_ne_nil]
      exact ih (n / 10) (by omega) (by omega)

/-- The integer part of a number is all of its digits. -/
theorem wholePart_digits (n : Nat) (ended : Ended rest) :
    wholePart (Nat.toDigits 10 n ++ rest) = (Nat.toDigits 10 n, rest) := by
  obtain rfl | pos := Nat.eq_zero_or_pos n
  · rfl
  · have digits : ∀ c ∈ Nat.toDigits 10 n, isAsciiDigit c = true :=
      fun _ ↦ isAsciiDigit_of_mem_toDigits
    unfold wholePart
    split
    · next h =>
      have first := congrArg List.head? h
      rw [List.head?_append_of_ne_nil _ Nat.toDigits_ne_nil] at first
      exact absurd first (toDigits_head_ne_zero pos)
    · rw [List.takeWhile_append_of_pos digits, ended.takeWhile, List.append_nil,
        List.dropWhile_append_of_pos digits, ended.dropWhile]

private theorem sign_digits (negative : Bool) (n : Nat) (rest : List Char) :
    sign ((if negative then ['-'] else []) ++ (Nat.toDigits 10 n ++ rest)) =
      (negative, Nat.toDigits 10 n ++ rest) := by
  cases negative with
  | true => rfl
  | false =>
    obtain ⟨d, ds, digits, first⟩ := exists_digits n
    rw [digits]
    simp only [Bool.false_eq_true, if_false, List.nil_append, List.cons_append]
    unfold sign
    split
    · next h => exact absurd (List.cons.inj h).1.symm (ne_digit rfl first)
    · rfl

/-- Digits, with or without a minus, are read as the integer that they denote. -/
theorem number?_digits (negative : Bool) (n : Nat) (ended : Ended rest) :
    number? ((if negative then ['-'] else []) ++ (Nat.toDigits 10 n ++ rest)) =
      some (.int (if negative then -n else n), rest) := by
  have denoted : digitsValue (Nat.toDigits 10 n) = n :=
    Nat.ofDigitChars_toDigits (by decide) (by decide)
  have filled : (Nat.toDigits 10 n).isEmpty = false := by simp [Nat.toDigits_ne_nil]
  simp only [number?, sign_digits, wholePart_digits n ended, filled, ended.fraction,
    ended.exponent?, denoted]
  rfl

private theorem toList_toString (n : Int) :
    (toString n).toList = (if n < 0 then ['-'] else []) ++ Nat.toDigits 10 n.natAbs := by
  rw [Int.toString_eq_repr, Int.repr_eq_if]
  by_cases h : 0 ≤ n
  · rw [if_pos h, if_neg (by omega), Nat.repr_eq_ofList_toDigits, String.toList_ofList,
      show n.toNat = n.natAbs by omega]
    rfl
  · rw [if_neg h, if_pos (by omega), String.toList_append, Nat.repr_eq_ofList_toDigits,
      show (-n).toNat = n.natAbs by omega]
    exact congrArg (['-'] ++ ·) String.toList_ofList

private theorem names_toString (n : Int) (rest : List Char) :
    (names.findSome? fun name ↦
      (dropWord? name.1.toList ((toString n).toList ++ rest)).map (name.2, ·)) = none := by
  obtain ⟨d, ds, digits, first⟩ := exists_digits n.natAbs
  have other (c : Char) (h : isAsciiDigit c = false) : c ≠ d := ne_digit h first
  rw [toList_toString, digits]
  by_cases h : n < 0
  · simp [h, names, dropWord?, other 'I' rfl]
  · simp [h, names, dropWord?, other 'n' rfl, other 't' rfl, other 'f' rfl, other 'N' rfl,
      other 'I' rfl, other '-' rfl]

/-- An integer that is not too long is read as it was written. -/
theorem scalar_toString {n : Int} (short : n.natAbs < 10 ^ Number.digitLimit)
    (ended : Ended rest) :
    scalar ((toString n).toList ++ rest) = .ok (.number (.int n), rest) := by
  have number : number? ((toString n).toList ++ rest) = some (.int n, rest) := by
    have read := number?_digits (decide (n < 0)) n.natAbs ended
    simp only [decide_eq_true_eq] at read
    rw [toList_toString, List.append_assoc, read]
    congr
    omega
  have count : ((toString n).toList ++ rest).length - rest.length -
      (if ((toString n).toList ++ rest).head? = some '-' then 1 else 0) ≤ Number.digitLimit := by
    have digits : (Nat.toDigits 10 n.natAbs).length ≤ Number.digitLimit :=
      (Nat.length_toDigits_le_iff (by decide) (by decide)).mpr short
    rw [toList_toString]
    by_cases h : n < 0
    · simp only [if_pos h, List.cons_append, List.nil_append, List.head?_cons, if_true,
        List.length_cons, List.length_append]
      omega
    · rw [if_neg h]
      simp only [List.nil_append, List.length_append]
      omega
  rw [scalar, names_toString]
  simp only [number]
  rw [if_neg (by omega)]

/-! ### White space -/

/-- A line end and the white space at the start of the next line. -/
private def margin (depth : Nat) : List Char := '\n' :: List.replicate (2 * depth) ' '

private theorem skipSpace_margin (depth : Nat) (cs : List Char) :
    skipSpace (margin depth ++ cs) = skipSpace cs := by
  apply List.dropWhile_append_of_pos
  intro c hc
  rcases List.mem_cons.mp hc with rfl | hc
  · rfl
  · rw [List.eq_of_mem_replicate hc]
    rfl

private theorem toList_block {opening closing : String} {depth : Nat} {parts : List String}
    (filled : parts ≠ []) :
    (block opening closing depth parts).toList = opening.toList ++ (margin (depth + 1) ++
      ((',' :: margin (depth + 1)).intercalate (parts.map String.toList) ++
        (margin depth ++ closing.toList))) := by
  have some : parts.isEmpty = false := by simpa using filled
  simp only [block, some, margin, Bool.false_eq_true, if_false, String.toList_append,
    String.toList_intercalate, String.toList_ofList, List.append_assoc]
  rfl

/-! ### Values -/

/-- A value reads back: no integer in it is too long, and no object has a name twice. -/
inductive Legible : Value → Prop
  | null : Legible .null
  | bool (b : Bool) : Legible (.bool b)
  | int {n : Int} (short : n.natAbs < 10 ^ Number.digitLimit) : Legible (.number (.int n))
  | text (s : String) : Legible (.text s)
  | list {vs : List Value} (all : ∀ v ∈ vs, Legible v) : Legible (.list vs)
  | object {fs : List (String × Value)} (distinct : (Value.fieldNames fs).Nodup)
    (all : ∀ f ∈ fs, Legible f.2) : Legible (.object fs)

private theorem toList_indentedField (depth : Nat) (name : String) (v : Value) (cs : List Char) :
    (writeText name ++ ": " ++ indentedAt depth v).toList ++ cs =
      '"' :: (name.toList.flatMap escapeChar ++
        '"' :: ':' :: ' ' :: ((indentedAt depth v).toList ++ cs)) := by
  simp [writeText]

/-- A text starts with a character that can begin a value: no white space, no closing bracket, no
byte order mark. -/
private def opens : List Char → Bool
  | c :: _ => !isSpace c && c != ']' && c != '\ufeff'
  | [] => false

private theorem opens_append {cs : List Char} (h : opens cs = true) (rest : List Char) :
    opens (cs ++ rest) = true := by
  cases cs with
  | nil => cases h
  | cons c cs => exact h

private theorem skipSpace_of_opens {cs : List Char} (h : opens cs = true) : skipSpace cs = cs := by
  cases cs with
  | nil => cases h
  | cons c cs =>
    simp only [opens, Bool.and_eq_true, Bool.not_eq_true'] at h
    exact List.dropWhile_cons_of_neg (by simp [h.1.1])

/-- A written value starts with a mark of its own, and reading it gives it back. -/
private structure ReadsBack (v : Value) : Prop where
  starts (depth : Nat) : opens (indentedAt depth v).toList = true
  read (depth fuel : Nat) {rest : List Char}
    (enough : 2 * (indentedAt depth v).toList.length ≤ fuel) (ended : Ended rest) :
    value fuel ((indentedAt depth v).toList ++ rest) = .ok (v, rest)

/-! ### Parts of lists and objects -/

/-- The parts of a list or object as they stand in its text. -/
private def joined (depth : Nat) (parts : List String) : List Char :=
  (',' :: margin depth).intercalate (parts.map String.toList)

private theorem joined_singleton (depth : Nat) (part : String) :
    joined depth [part] = part.toList := List.intercalate_singleton

private theorem joined_cons (depth : Nat) (part : String) {parts : List String}
    (filled : parts ≠ []) :
    joined depth (part :: parts) = part.toList ++ ',' :: (margin depth ++ joined depth parts) := by
  rw [joined, List.map_cons, List.intercalate_cons_of_ne_nil (by simpa using filled),
    List.append_assoc, List.cons_append]
  rfl

private theorem opens_joined {part : String} (h : opens part.toList = true) (depth : Nat)
    (parts : List String) : opens (joined depth (part :: parts)) = true := by
  cases parts with
  | nil => rwa [joined_singleton]
  | cons next parts =>
    rw [joined_cons depth part (List.cons_ne_nil _ _)]
    exact opens_append h _

section

variable {cs left later : List Char} {fuel : Nat} {v : Value} {vs : List Value}

private theorem items_last (item : value fuel cs = .ok (v, left))
    (closed : skipSpace left = ']' :: later) : items (fuel + 1) cs = .ok ([v], later) := by
  simp only [items, item, bind, Except.bind, closed]
  rfl

private theorem items_more (item : value fuel cs = .ok (v, left)) {more : List Char}
    (comma : skipSpace left = ',' :: more) (rest : items fuel (skipSpace more) = .ok (vs, later)) :
    items (fuel + 1) cs = .ok (v :: vs, later) := by
  simp only [items, item, bind, Except.bind, comma, rest]
  rfl

variable {name : String} {body : List Char} {fs : List (String × Value)}

private theorem fields_last (item : value fuel (skipSpace body) = .ok (v, left))
    (closed : skipSpace left = '\x7d' :: later) :
    fields (fuel + 1) ('"' :: (name.toList.flatMap escapeChar ++ '"' :: ':' :: body)) =
      .ok ([(name, v)], later) := by
  have colon : skipSpace (':' :: body) = ':' :: body := rfl
  simp only [fields, textBody_written, bind, Except.bind, colon, item, closed,
    String.ofList_toList]
  rfl

private theorem fields_more (item : value fuel (skipSpace body) = .ok (v, left))
    {more : List Char} (comma : skipSpace left = ',' :: more)
    (rest : fields fuel (skipSpace more) = .ok (fs, later)) :
    fields (fuel + 1) ('"' :: (name.toList.flatMap escapeChar ++ '"' :: ':' :: body)) =
      .ok ((name, v) :: fs, later) := by
  have colon : skipSpace (':' :: body) = ':' :: body := rfl
  simp only [fields, textBody_written, bind, Except.bind, colon, item, comma, rest,
    String.ofList_toList]
  rfl

end

-- The items of a list are read one after another, up to the bracket that closes it.
private theorem items_written (depth : Nat) {vs : List Value} (read : ∀ v ∈ vs, ReadsBack v)
    (filled : vs ≠ []) {fuel : Nat} (outer : Nat) (rest : List Char)
    (enough : 2 * (joined depth (indentedItems depth vs)).length + 1 ≤ fuel) :
    items fuel (joined depth (indentedItems depth vs) ++ (margin outer ++ ']' :: rest)) =
      .ok (vs, rest) := by
  induction vs generalizing fuel with
  | nil => exact absurd rfl filled
  | cons v vs ih =>
    obtain ⟨here, later⟩ := List.forall_mem_cons.mp read
    obtain ⟨fuel, rfl⟩ : ∃ k, fuel = k + 1 := ⟨fuel - 1, by omega⟩
    cases vs with
    | nil =>
      simp only [indentedItems, joined_singleton] at enough ⊢
      exact items_last (here.read depth fuel (by omega) (.line _)) (skipSpace_margin outer _)
    | cons w ws =>
      have next : opens (joined depth (indentedItems depth (w :: ws))) = true :=
        opens_joined ((List.forall_mem_cons.mp later).1.starts depth) depth _
      rw [indentedItems, joined_cons depth _ (by simp [indentedItems])] at enough ⊢
      simp only [List.length_append, List.length_cons] at enough
      simp only [List.append_assoc, List.cons_append]
      refine items_more (here.read depth fuel (by omega) (.comma _)) rfl ?_
      rw [skipSpace_margin, skipSpace_of_opens (opens_append next _)]
      exact ih later (List.cons_ne_nil _ _) (by omega)

private theorem exists_joined_field (depth : Nat) (f : String × Value)
    (fs : List (String × Value)) :
    ∃ cs, joined depth (indentedFields depth (f :: fs)) = '"' :: cs := by
  have text := toList_indentedField depth f.1 f.2 []
  rw [List.append_nil] at text
  cases fs with
  | nil => exact ⟨_, (joined_singleton depth _).trans text⟩
  | cons g gs =>
    exact ⟨_, by
      rw [indentedFields, joined_cons depth _ (by simp [indentedFields]), text, List.cons_append]⟩

private theorem read_field {v : Value} (h : ReadsBack v) (depth : Nat) {fuel : Nat}
    {rest : List Char} (enough : 2 * (indentedAt depth v).toList.length ≤ fuel)
    (ended : Ended rest) :
    value fuel (skipSpace (' ' :: ((indentedAt depth v).toList ++ rest))) = .ok (v, rest) := by
  have space : skipSpace (' ' :: ((indentedAt depth v).toList ++ rest)) =
      skipSpace ((indentedAt depth v).toList ++ rest) := rfl
  rw [space, skipSpace_of_opens (opens_append (h.starts depth) _)]
  exact h.read depth fuel enough ended

private theorem fields_written (depth : Nat) {fs : List (String × Value)}
    (read : ∀ f ∈ fs, ReadsBack f.2) (filled : fs ≠ []) {fuel : Nat} (outer : Nat) (rest : List Char)
    (enough : 2 * (joined depth (indentedFields depth fs)).length + 1 ≤ fuel) :
    fields fuel (joined depth (indentedFields depth fs) ++ (margin outer ++ '\x7d' :: rest)) =
      .ok (fs, rest) := by
  induction fs generalizing fuel with
  | nil => exact absurd rfl filled
  | cons f fs ih =>
    obtain ⟨name, v⟩ := f
    obtain ⟨here, later⟩ := List.forall_mem_cons.mp read
    change ReadsBack v at here
    obtain ⟨fuel, rfl⟩ : ∃ k, fuel = k + 1 := ⟨fuel - 1, by omega⟩
    have length := congrArg List.length (toList_indentedField depth name v [])
    simp only [List.append_nil, List.length_append, List.length_cons] at length
    cases fs with
    | nil =>
      simp only [indentedFields, joined_singleton] at enough ⊢
      rw [toList_indentedField]
      exact fields_last (read_field here depth (by omega) (.line _)) (skipSpace_margin outer _)
    | cons g gs =>
      have next : opens (joined depth (indentedFields depth (g :: gs))) = true := by
        obtain ⟨cs, text⟩ := exists_joined_field depth g gs
        rw [text]
        rfl
      rw [indentedFields, joined_cons depth _ (by simp [indentedFields])] at enough ⊢
      simp only [List.length_append, List.length_cons] at enough
      simp only [List.append_assoc, List.cons_append]
      rw [toList_indentedField]
      refine fields_more (read_field here depth (by omega) (.comma _)) rfl ?_
      rw [skipSpace_margin, skipSpace_of_opens (opens_append next _)]
      exact ih later (List.cons_ne_nil _ _) (by omega)

/-! ### Whole values -/

private theorem readsBack_of_mark (mark : Char) (inside : Nat → List Char) {v : Value}
    (mayOpen : opens [mark] = true)
    (written : ∀ depth, (indentedAt depth v).toList = mark :: inside depth)
    (read : ∀ depth fuel rest, 2 * (inside depth).length + 1 ≤ fuel → Ended rest →
      value (fuel + 1) (mark :: (inside depth ++ rest)) = .ok (v, rest)) : ReadsBack v := by
  constructor
  · intro depth
    rw [written]
    exact opens_append mayOpen (inside depth)
  · intro depth fuel rest enough ended
    rw [written, List.length_cons] at enough
    obtain ⟨fuel, rfl⟩ : ∃ k, fuel = k + 1 := ⟨fuel - 1, by omega⟩
    rw [written]
    exact read depth fuel rest (by omega) ended

private theorem readsBack_scalar {v : Value} {text : String} {c : Char} {cs : List Char}
    (written : ∀ depth, indentedAt depth v = text) (first : text.toList = c :: cs)
    (mayOpen : opens [c] = true) (other : c ∉ ['"', '[', '\x7b'])
    (read : ∀ rest, Ended rest → scalar (text.toList ++ rest) = .ok (v, rest)) : ReadsBack v := by
  simp only [List.mem_cons, List.not_mem_nil, or_false, not_or] at other
  obtain ⟨quote, bracket, brace⟩ := other
  refine readsBack_of_mark c (fun _ ↦ cs) mayOpen (fun _ ↦ by rw [written, first]) ?_
  intro _ fuel rest _ ended
  rw [← read rest ended, first, List.cons_append, value]
  · exact fun _ h ↦ quote (List.cons.inj h).1
  · exact fun _ h ↦ bracket (List.cons.inj h).1
  · exact fun _ h ↦ brace (List.cons.inj h).1

private theorem readsBack_int {n : Int} (short : n.natAbs < 10 ^ Number.digitLimit) :
    ReadsBack (.number (.int n)) := by
  obtain ⟨d, ds, digits, first⟩ := exists_digits n.natAbs
  have other : ∀ c ∈ [' ', '\t', '\n', '\r', ']', '\ufeff', '"', '[', '\x7b'], d ≠ c := by
    intro c hc
    have none : isAsciiDigit c = false := by
      revert c
      simp [isAsciiDigit]
    exact (ne_digit none first).symm
  have read (rest : List Char) (ended : Ended rest) := scalar_toString short ended
  have text := toList_toString n
  rw [digits] at text
  by_cases h : n < 0
  · rw [if_pos h] at text
    exact readsBack_scalar (fun _ ↦ rfl) text rfl (by decide) read
  · rw [if_neg h] at text
    refine readsBack_scalar (fun _ ↦ rfl) text ?_ ?_ read
    · simp [opens, isSpace, other]
    · simp [other]

private theorem readsBack_text (s : String) : ReadsBack (.text s) := by
  refine readsBack_of_mark '"' (fun _ ↦ s.toList.flatMap escapeChar ++ ['"']) rfl
    (fun _ ↦ by simp [indentedAt, writeText]) fun _ fuel rest _ _ ↦ ?_
  rw [List.append_assoc, List.singleton_append, value, textBody_written]
  simp only [bind, Except.bind, String.ofList_toList]
  rfl

private theorem value_list {fuel : Nat} {cs left : List Char} {vs : List Value}
    (mayOpen : opens cs = true) (depth : Nat) (read : items fuel cs = .ok (vs, left)) :
    value (fuel + 1) ('[' :: (margin depth ++ cs)) = .ok (.list vs, left) := by
  cases cs with
  | nil => cases mayOpen
  | cons c cs =>
    simp only [opens, Bool.and_eq_true, bne_iff_ne] at mayOpen
    rw [value, skipSpace_margin, skipSpace_of_opens (by simp [opens, mayOpen])]
    simp only [bind, Except.bind]
    split
    · next h => exact absurd (List.cons.inj h).1 mayOpen.1.2
    · rw [read]
      rfl

private theorem readsBack_list {vs : List Value} (read : ∀ v ∈ vs, ReadsBack v) :
    ReadsBack (.list vs) := by
  cases vs with
  | nil =>
    exact readsBack_of_mark '[' (fun _ ↦ [']']) rfl
      (fun _ ↦ by simp [indentedAt, indentedItems, block]) fun _ _ _ _ _ ↦ rfl
  | cons v vs =>
    refine readsBack_of_mark '[' (fun depth ↦ margin (depth + 1) ++
      (joined (depth + 1) (indentedItems (depth + 1) (v :: vs)) ++ (margin depth ++ [']']))) rfl
      (fun _ ↦ ?_) fun depth fuel rest enough _ ↦ ?_
    · rw [indentedAt, toList_block (by simp [indentedItems])]
      rfl
    · simp only [List.length_append] at enough
      have starts := opens_joined ((List.forall_mem_cons.mp read).1.starts (depth + 1)) (depth + 1)
        (indentedItems (depth + 1) vs)
      simp only [List.append_assoc, List.singleton_append]
      exact value_list (opens_append starts _) (depth + 1)
        (items_written (depth + 1) read (List.cons_ne_nil v vs) depth rest (by omega))

private theorem value_object {fuel : Nat} {cs left : List Char} {fs : List (String × Value)}
    (depth : Nat) (read : fields fuel ('"' :: cs) = .ok (fs, left)) :
    value (fuel + 1) ('\x7b' :: (margin depth ++ '"' :: cs)) =
      .ok (.object (Value.putFields [] fs), left) := by
  rw [value, skipSpace_margin, skipSpace_of_opens rfl]
  simp only [bind, Except.bind]
  split
  · next h => exact absurd (List.cons.inj h).1 (by decide)
  · rw [read]
    rfl

private theorem readsBack_object {fs : List (String × Value)}
    (distinct : (Value.fieldNames fs).Nodup) (read : ∀ f ∈ fs, ReadsBack f.2) :
    ReadsBack (.object fs) := by
  cases fs with
  | nil =>
    exact readsBack_of_mark '\x7b' (fun _ ↦ ['\x7d']) rfl
      (fun _ ↦ by simp [indentedAt, indentedFields, block]) fun _ _ _ _ _ ↦ rfl
  | cons f fs =>
    refine readsBack_of_mark '\x7b' (fun depth ↦ margin (depth + 1) ++
      (joined (depth + 1) (indentedFields (depth + 1) (f :: fs)) ++ (margin depth ++ ['\x7d']))) rfl
      (fun _ ↦ ?_) fun depth fuel rest enough _ ↦ ?_
    · rw [indentedAt, toList_block (by simp [indentedFields])]
      rfl
    · simp only [List.length_append] at enough
      obtain ⟨cs, text⟩ := exists_joined_field (depth + 1) f fs
      have parts := fields_written (depth + 1) read (List.cons_ne_nil f fs) depth rest
        (show _ ≤ fuel by omega)
      rw [text, List.cons_append] at parts
      simp only [List.append_assoc, text, List.cons_append, List.nil_append]
      rw [value_object (depth + 1) parts, Value.putFields_nil distinct]

-- Every value that is legible is read as it was written, whatever follows it.
private theorem Legible.readsBack {v : Value} (h : Legible v) : ReadsBack v := by
  induction h with
  | null => exact readsBack_scalar (fun _ ↦ rfl) rfl rfl (by decide) (fun _ _ ↦ rfl)
  | bool b =>
    cases b with
    | true => exact readsBack_scalar (fun _ ↦ rfl) rfl rfl (by decide) (fun _ _ ↦ rfl)
    | false => exact readsBack_scalar (fun _ ↦ rfl) rfl rfl (by decide) (fun _ _ ↦ rfl)
  | int short => exact readsBack_int short
  | text s => exact readsBack_text s
  | list all ih => exact readsBack_list ih
  | object distinct all ih => exact readsBack_object distinct ih

/-- The text of a legible value reads as that value. -/
theorem read_indented {v : Value} (h : Legible v) : read (indented v) = .ok v := by
  have starts := h.readsBack.starts 0
  have whole := h.readsBack.read 0 (2 * (indented v).toList.length + 1)
    (by rw [indented]; omega) .nil
  rw [List.append_nil, ← indented] at whole
  rw [← indented] at starts
  have all : readChars (indented v).toList = .ok v := by
    unfold readChars
    split
    · next h =>
      rw [h] at starts
      cases starts
    · rw [skipSpace_of_opens starts, whole]
      rfl
  rw [Json.read, all]
  rfl

end Playbook.Json
