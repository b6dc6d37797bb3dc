import Playbook.Proofs.Script.Pieces
import Playbook.Proofs.Script.Saying
import Playbook.Proofs.Script.Spelling
import Playbook.Proofs.Text.Lines
import Playbook.Shop.Action

/-!
# Contents of literals

What stands between two double quotes of a line tells nothing of its step but a parameter. No
keyword runs over a double quote, so whether a line says an action is told by what stands before one
(`kind_stepOfChars_append_quote`), and a line is cut at the same places whatever a literal between
double quotes holds (`pieces_lineWith`). So an action keeps its template, and with it the rule that
it fits, when the content of a literal is replaced, and of its parameters only the one at the
position of the literal changes (`ofLine_replaced`).
-/

namespace Playbook.Script

/-! ### Lines up to a double quote -/

/-- A line says an action exactly if it starts with no keyword in its full form. -/
theorem kind_stepOfChars_eq_action_iff {cs : List Char} :
    (stepOfChars cs).kind = .action ↔
      wordsAfter? .ifWord cs = none ∧ branch? cs = none ∧ closes .endIf cs = false ∧
        wordsAfter? .forEach cs = none ∧ closes .endLoop cs = false := by
  rw [stepOfChars]
  constructor
  · intro action
    split at action
    · cases action
    · next noIf =>
      split at action
      · cases action
      · next noBranch =>
        split at action
        · cases action
        · next noEndIf =>
          split at action
          · cases action
          · next noLoop =>
            split at action
            · cases action
            · next noEndLoop =>
              exact ⟨noIf, noBranch, Bool.eq_false_iff.mpr noEndIf, noLoop,
                Bool.eq_false_iff.mpr noEndLoop⟩
  · rintro ⟨noIf, noBranch, noEndIf, noLoop, noEndLoop⟩
    rw [noIf, noBranch, noEndIf, noLoop, noEndLoop]
    rfl

-- No keyword of the scripts runs over a double quote.
private theorem drop?_append_quote {k : Keyword} (opener : k ∈ openers) (front rest : List Char) :
    k.drop? (front ++ '"' :: rest) = (k.drop? front).map (· ++ '"' :: rest) := by
  have stops : ∀ k ∈ openers, k.StopsAt '"' := by decide +kernel
  exact Keyword.drop?_append_mark rest (by decide) (stops k opener) front

private theorem dropBlanks?_append_quote (front rest : List Char) :
    dropBlanks? (front ++ '"' :: rest) = (dropBlanks? front).map (· ++ '"' :: rest) :=
  dropBlanks?_append_mark rest (by decide) front

section

variable {front rest : List Char} (single : '\n' ∉ front ++ '"' :: rest)

include single

private theorem single_of_suffix {words : List Char} (within : words <:+ front) :
    '\n' ∉ words ++ '"' :: rest := by
  rw [List.mem_append, not_or] at single ⊢
  exact ⟨fun hm ↦ single.1 (within.mem hm), single.2⟩

private theorem wordsAfter?_append_quote {k : Keyword} (opener : k ∈ openers) :
    wordsAfter? k (front ++ '"' :: rest) =
      ((k.drop? front).bind dropBlanks?).map (· ++ '"' :: rest) := by
  rw [wordsAfter?, drop?_append_quote opener]
  cases hk : k.drop? front with
  | none => rfl
  | some afterKeyword =>
    change (dropBlanks? (afterKeyword ++ '"' :: rest)).bind _ = _
    rw [dropBlanks?_append_quote, Option.bind_some]
    cases hb : dropBlanks? afterKeyword with
    | none => rfl
    | some words =>
      have within : words <:+ front := (dropBlanks?_suffix hb).1.trans (Keyword.drop?_suffix hk)
      change (if _ then none else _) = _
      rw [if_neg (by simp [single_of_suffix single within])]
      rfl

-- The condition of a branch starts before a double quote, and a branch whose line goes on has one.
private theorem branch?_append_quote :
    branch? (front ++ '"' :: rest) =
      ((((Keyword.elseWord.drop? front).bind dropBlanks?).bind Keyword.ifWord.drop?).bind
        dropBlanks?).map (fun condition ↦ some (condition ++ '"' :: rest)) := by
  rw [branch?, drop?_append_quote (by decide)]
  cases hk : Keyword.elseWord.drop? front with
  | none => rfl
  | some afterKeyword =>
    -- The line does not end with the keyword, so a condition must follow.
    have filled : afterKeyword ++ '"' :: rest ≠ [] :=
      List.append_ne_nil_of_right_ne_nil afterKeyword (List.cons_ne_nil _ _)
    obtain ⟨c, more, split⟩ := List.exists_cons_of_ne_nil filled
    rw [Option.map_some, split]
    change (dropBlanks? (c :: more)).bind _ = _
    rw [← split, dropBlanks?_append_quote, Option.bind_some]
    cases hb : dropBlanks? afterKeyword with
    | none => rfl
    | some afterBlanks =>
      have within : afterBlanks <:+ front :=
        (dropBlanks?_suffix hb).1.trans (Keyword.drop?_suffix hk)
      change (wordsAfter? .ifWord (afterBlanks ++ '"' :: rest)).bind _ = _
      rw [wordsAfter?_append_quote (single_of_suffix single within) (by decide), Option.bind_some]
      cases (Keyword.ifWord.drop? afterBlanks).bind dropBlanks? <;> rfl

end

private theorem closes_append_quote {k : Keyword} (opener : k ∈ openers) (front rest : List Char) :
    closes k (front ++ '"' :: rest) = closes k front := by
  have noWordChar : Text.isWordChar '"' = false := by decide +kernel
  rw [closes, closes, drop?_append_quote opener]
  cases k.drop? front with
  | none => rfl
  | some afterKeyword =>
    cases afterKeyword with
    | nil => simp [noWordChar]
    | cons c afterKeyword => rfl

/-- Whether a line says an action is told by what stands before a double quote. -/
theorem kind_stepOfChars_append_quote {front rest rest' : List Char}
    (single : '\n' ∉ front ++ '"' :: rest) (single' : '\n' ∉ front ++ '"' :: rest') :
    (stepOfChars (front ++ '"' :: rest)).kind = .action ↔
      (stepOfChars (front ++ '"' :: rest')).kind = .action := by
  have words {k : Keyword} (opener : k ∈ openers) :
      wordsAfter? k (front ++ '"' :: rest) = none ↔
        wordsAfter? k (front ++ '"' :: rest') = none := by
    rw [wordsAfter?_append_quote single opener, wordsAfter?_append_quote single' opener,
      Option.map_eq_none_iff, Option.map_eq_none_iff]
  have branch : branch? (front ++ '"' :: rest) = none ↔ branch? (front ++ '"' :: rest') = none := by
    rw [branch?_append_quote single, branch?_append_quote single', Option.map_eq_none_iff,
      Option.map_eq_none_iff]
  rw [kind_stepOfChars_eq_action_iff, kind_stepOfChars_eq_action_iff, words (by decide), branch,
    closes_append_quote (by decide), closes_append_quote (by decide), words (by decide),
    closes_append_quote (by decide), closes_append_quote (by decide)]

/-- A line that says an action says its template, with the literals as parameters. -/
theorem ofLine_eq_extract {line : String} (action : (Step.ofLine line).kind = .action) :
    Step.ofLine line = .action (extract line).template (extract line).parameters := by
  have same : Step.ofLine (Text.strip line) = Step.ofLine line := by
    rw [Step.ofLine, Step.ofLine, Text.toList_strip, Text.trim_trim]
  have trimmed : Text.trim (Text.strip line).toList = (Text.strip line).toList := by
    rw [Text.toList_strip, Text.trim_trim]
  rw [← same] at action ⊢
  rw [ofLine_of_action trimmed action, extract_strip]

/-! ### Replacing a literal -/

/-- The line that pieces make with a literal between double quotes among them. -/
def lineWith (before : List Piece) (content : List Char) (after : List Piece) : String :=
  String.ofList ((before ++ .quoted content :: after).flatMap Piece.written)

/-- The position of a literal among the parameters, behind those of the pieces before it. -/
def position (before : List Piece) : Nat :=
  (before.filterMap Piece.value?).length

/-- A line is what its pieces make. -/
theorem eq_lineWith {line : String} {before after : List Piece} {content : List Char}
    (found : pieces line.toList = before ++ .quoted content :: after) :
    line = lineWith before content after := by
  rw [lineWith, ← found, flatMap_written_pieces, String.ofList_toList]

/-- A literal stands in its line between double quotes. -/
theorem toList_lineWith (before : List Piece) (content : List Char) (after : List Piece) :
    (lineWith before content after).toList = before.flatMap Piece.written ++
      '"' :: (content ++ '"' :: after.flatMap Piece.written) := by
  rw [lineWith, String.toList_ofList, List.flatMap_append, List.flatMap_cons, Piece.written,
    List.cons_append, List.cons_append, List.append_assoc, List.singleton_append]

section

variable {before after : List Piece} {old new : List Char} (filled : new ≠ [])
  (noQuote : '"' ∉ new)

include filled noQuote

private theorem IsCut.replace (isCut : IsCut (before ++ .quoted old :: after)) :
    IsCut (before ++ .quoted new :: after) := by
  induction before with
  | nil => exact ⟨.quoted filled noQuote, isCut.2⟩
  | cons piece before ih =>
    have head {content : List Char} :
        ((before ++ .quoted content :: after).flatMap Piece.written).head? =
          (before.flatMap Piece.written).head?.or (some '"') := by
      rw [List.flatMap_append, List.flatMap_cons, List.head?_append]
      rfl
    have later {content : List Char} :
        '"' ∈ (before ++ .quoted content :: after).flatMap Piece.written := by
      rw [List.flatMap_append, List.flatMap_cons]
      exact List.mem_append_right _ List.mem_cons_self
    rw [List.cons_append] at isCut ⊢
    refine ⟨isCut.1.transfer ?_ ?_, ih isCut.2⟩
    · rw [head, head]
      exact id
    · rw [head, head]
      exact fun alone _ ↦ alone later

/-- A line is cut at the same places when the content of a literal is replaced. -/
theorem pieces_lineWith {cs : List Char} (found : pieces cs = before ++ .quoted old :: after) :
    pieces (lineWith before new after).toList = before ++ .quoted new :: after := by
  rw [lineWith, String.toList_ofList, pieces_eq_iff]
  exact ⟨rfl, (pieces_eq_iff.mp found).2.replace filled noQuote⟩

end

/-- When the content of a literal is replaced, the template stays and of the parameters only the one
at the position of the literal changes. -/
theorem extract_lineWith {line : String} {before after : List Piece} {old new : List Char}
    (found : pieces line.toList = before ++ .quoted old :: after) (filled : new ≠ [])
    (noQuote : '"' ∉ new) :
    (extract line).parameters[position before]? = some (String.ofList old) ∧
      extract (lineWith before new after) = ⟨(extract line).template,
        (extract line).parameters.set (position before) (String.ofList new)⟩ := by
  have parameters (content : List Char) :
      ((before ++ .quoted content :: after).filterMap Piece.value?).map String.ofList =
        (before.filterMap Piece.value?).map String.ofList ++
          String.ofList content :: (after.filterMap Piece.value?).map String.ofList := by
    rw [List.filterMap_append, List.map_append]
    rfl
  have template (content : List Char) :
      (before ++ .quoted content :: after).flatMap Piece.template =
        before.flatMap Piece.template ++ '\x7b' :: '\x7d' :: after.flatMap Piece.template := by
    rw [List.flatMap_append, List.flatMap_cons]
    rfl
  rw [extract, extract, pieces_lineWith filled noQuote found, found, parameters, parameters,
    template, template, position]
  simp

/-- A single line is one still when the content of a literal is replaced by a single line. -/
theorem singleLine_lineWith {before after : List Piece} {old new : List Char}
    (single : Text.SingleLine (lineWith before old after).toList)
    (singleNew : Text.SingleLine new) :
    Text.SingleLine (lineWith before new after).toList := by
  rw [toList_lineWith] at single ⊢
  obtain ⟨front, back⟩ := List.forall_mem_append.mp single
  obtain ⟨quote, back⟩ := List.forall_mem_cons.mp back
  obtain ⟨-, behind⟩ := List.forall_mem_append.mp back
  exact Text.SingleLine.append front (List.forall_mem_cons.mpr ⟨quote, singleNew.append behind⟩)

/-- Whether a line says an action does not depend on the content of a literal. -/
theorem kind_ofLine_lineWith {before after : List Piece} {old new : List Char}
    (single : Text.SingleLine (lineWith before old after).toList)
    (single' : Text.SingleLine (lineWith before new after).toList) :
    (Step.ofLine (lineWith before old after)).kind = .action ↔
      (Step.ofLine (lineWith before new after)).kind = .action := by
  have visible : Text.isBlank '"' = false := by decide
  have noLineFeed {content : List Char}
      (h : Text.SingleLine (lineWith before content after).toList) :
      '\n' ∉ Text.trim (lineWith before content after).toList := by
    intro hm
    cases h '\n' (Text.mem_of_mem_trim hm)
  have old' := noLineFeed single
  have new' := noLineFeed single'
  rw [toList_lineWith, Text.trim_append_cons visible] at old' new'
  rw [Step.ofLine, Step.ofLine, toList_lineWith, toList_lineWith, Text.trim_append_cons visible,
    Text.trim_append_cons visible]
  exact kind_stepOfChars_append_quote old' new'

/-- When the content of a literal between double quotes is replaced by another one in a single line
that says an action, the line says an action with the same template, to which the same rule applies,
and of the parameters only the one at the position of the literal changes, to the new content. -/
theorem ofLine_replaced {α : Type} {line : String} {before after : List Piece}
    {old new : List Char} (single : Text.SingleLine line.toList)
    (action : (Step.ofLine line).kind = .action)
    (found : pieces line.toList = before ++ .quoted old :: after) (filled : new ≠ [])
    (noQuote : '"' ∉ new) (singleNew : Text.SingleLine new) (rules : List (Shop.Rule α)) :
    ∃ template parameters,
      Step.ofLine line = .action template parameters ∧
        parameters[position before]? = some (String.ofList old) ∧
        Step.ofLine (lineWith before new after) =
          .action template (parameters.set (position before) (String.ofList new)) ∧
        (Step.ofLine (lineWith before new after)).text.bind (Shop.meaning? rules) =
          (Step.ofLine line).text.bind (Shop.meaning? rules) := by
  have whole : line = lineWith before old after := eq_lineWith found
  have single' : Text.SingleLine (lineWith before new after).toList :=
    singleLine_lineWith (whole ▸ single) singleNew
  have action' : (Step.ofLine (lineWith before new after)).kind = .action := by
    rw [whole] at single action
    exact (kind_ofLine_lineWith single single').mp action
  obtain ⟨here, replaced⟩ := extract_lineWith found filled noQuote
  have step := ofLine_eq_extract action
  have step' := ofLine_eq_extract action'
  rw [replaced] at step'
  refine ⟨_, _, step, here, step', ?_⟩
  rw [step, step']
  rfl

/-- A product may be named like a keyword, a number, a placeholder or a part of a phrase. -/
theorem ofLine_replaced_of_product :
    let before := "Add product ".toList.map Piece.plain
    let after := " to cart".toList.map Piece.plain
    lineWith before "Backpack".toList after = "Add product \"Backpack\" to cart" ∧
      ∃ template parameters,
        Step.ofLine "Add product \"Backpack\" to cart" = .action template parameters ∧
          parameters[position before]? = some (String.ofList "Backpack".toList) ∧
          Step.ofLine (lineWith before "EndIf 5 \x7b\x7d в корзину".toList after) =
            .action template
              (parameters.set (position before)
                (String.ofList "EndIf 5 \x7b\x7d в корзину".toList)) ∧
          (Step.ofLine (lineWith before "EndIf 5 \x7b\x7d в корзину".toList after)).text.bind
              (Shop.meaning? Shop.rules) =
            (Step.ofLine "Add product \"Backpack\" to cart").text.bind
              (Shop.meaning? Shop.rules) := by
  refine ⟨by decide, ofLine_replaced ?_ ?_ ?_ ?_ ?_ ?_ Shop.rules⟩
  · decide +kernel
  · rw [Step.ofLine, kind_stepOfChars_eq_action_iff]
    decide +kernel
  · decide +kernel
  · decide
  · decide
  · decide +kernel

end Playbook.Script
