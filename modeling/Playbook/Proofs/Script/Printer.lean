import Playbook.Proofs.Script.Template
import Playbook.Proofs.Script.Tree
import Playbook.Proofs.Text.Lines
import Playbook.Script.Line

/-!
# Printing steps

A step is printed as one line: blocks as their keywords, an action as its template with the
placeholders filled by its parameters between double quotes. A step that a line can say, with
printable texts, is what its printed line says (`ofChars_line`).
-/

namespace Playbook.Script

/-- A line that is no comment, header or keyword line. -/
structure SaysAction (cs : List Char) : Prop where
  comment : cs.head? ≠ some '#'
  header : header? cs = none
  keyword : (stepOfChars cs).kind = .action

/-- A text of a block that can stand behind its keyword. -/
structure PrintableLabel (s : String) : Prop where
  tidy : Text.Tidy s
  singleLine : Text.SingleLine s.toList

/-- A parameter that can stand between double quotes. -/
structure PrintableParameter (p : String) : Prop where
  nonempty : p ≠ ""
  singleLine : Text.SingleLine p.toList
  unquoted : '"' ∉ p.toList

/-- An action that can stand on a line. -/
structure PrintableAction (template : String) (parameters : List String) : Prop where
  tidy : Text.Tidy template
  singleLine : Text.SingleLine template.toList
  unquoted : '"' ∉ template.toList
  digitless : template.toList.any Text.isDigit = false
  counted : holes template.toList = parameters.length
  literals : ∀ p ∈ parameters, PrintableParameter p
  action : SaysAction (fill template.toList (parameters.map String.toList))

/-- The line that a step is printed as, without its children. -/
def Step.line (s : Step) : List Char :=
  match s.kind with
  | .action => fill (s.text.getD "").toList (s.parameters.map fun p ↦ (p.getD "").toList)
  | .ifBlock => "If ".toList ++ (s.text.getD "").toList
  | .elseBranch =>
    match s.text with
    | none => "Else".toList
    | some condition => "Else if ".toList ++ condition.toList
  | .loop => "For each ".toList ++ (s.text.getD "").toList
  | .endIf => "EndIf".toList
  | .endLoop => "EndLoop".toList
  | .other _ => []

/-! ### Lines with keywords -/

/-- A tidy text has a first character, and it is no blank. -/
theorem exists_cons_of_tidy {s : String} (h : Text.Tidy s) :
    ∃ c cs, s.toList = c :: cs ∧ Text.isBlank c = false := by
  rw [Text.tidy_iff] at h
  cases hs : s.toList with
  | nil => exact absurd hs h.1
  | cons c cs =>
    rw [hs] at h
    exact ⟨c, cs, rfl, (Text.trim_eq_self_iff.mp h.2).1 c rfl⟩

/-- A line that starts with no blank and ends in a tidy text is trimmed. -/
theorem trim_append_of_tidy {s : String} (h : Text.Tidy s) (c : Char) (cs : List Char)
    (hc : Text.isBlank c = false) : Text.trim (c :: cs ++ s.toList) = c :: cs ++ s.toList := by
  rw [Text.tidy_iff, Text.trim_eq_self_iff] at h
  rw [Text.trim_eq_self_iff]
  constructor
  · intro d hd
    cases hd
    exact hc
  · intro d hd
    apply h.2.2 d
    rw [List.getLast?_append, List.getLast?_eq_some_getLast h.1] at hd
    rwa [List.getLast?_eq_some_getLast h.1]

/-- The words after a keyword and a blank, if they are a printable text. -/
theorem wordsAfter?_of_drop? {k : Keyword} {cs : List Char} {s : String} (h : PrintableLabel s)
    (hk : k.drop? cs = some (' ' :: s.toList)) : wordsAfter? k cs = some s.toList := by
  obtain ⟨c, rest, hs, hc⟩ := exists_cons_of_tidy h.tidy
  have hn : s.toList.contains '\n' = false := by
    rw [List.contains_eq_mem, decide_eq_false_iff_not]
    intro hm
    cases h.singleLine '\n' hm
  have hb : dropBlanks? (' ' :: s.toList) = some s.toList := by
    rw [dropBlanks?, if_pos (by rfl), hs, List.dropWhile_cons_of_neg (by simp [hc])]
  have he : s.toList.isEmpty = false := by
    rw [hs]
    rfl
  rw [wordsAfter?, hk, Option.bind_eq_bind, Option.bind_some, hb, Option.bind_some, he, hn]
  rfl

/-- A printed conditional is read as such. -/
theorem ofChars_ifBlock {s : String} (h : PrintableLabel s) :
    Line.ofChars ("If ".toList ++ s.toList) = .step (.ifBlock s []) := by
  have hw : wordsAfter? .ifWord ("If ".toList ++ s.toList) = some s.toList :=
    wordsAfter?_of_drop? h rfl
  have hs : Line.ofChars ("If ".toList ++ s.toList) =
      .step (stepOfChars ("If ".toList ++ s.toList)) := rfl
  rw [hs, stepOfChars, hw]
  simp only
  rw [String.ofList_toList]

/-- A printed branch with a condition is read as such. -/
theorem ofChars_elseBranch {s : String} (h : PrintableLabel s) :
    Line.ofChars ("Else if ".toList ++ s.toList) = .step (.elseBranch (some s) []) := by
  have hw : wordsAfter? .ifWord ("if ".toList ++ s.toList) = some s.toList :=
    wordsAfter?_of_drop? h rfl
  have hb : branch? ("Else if ".toList ++ s.toList) =
      (wordsAfter? .ifWord ("if ".toList ++ s.toList)).bind fun condition ↦
        some (some condition) := rfl
  have hi : wordsAfter? .ifWord ("Else if ".toList ++ s.toList) = none := rfl
  have hs : Line.ofChars ("Else if ".toList ++ s.toList) =
      .step (stepOfChars ("Else if ".toList ++ s.toList)) := rfl
  rw [hs, stepOfChars, hi, hb, hw, Option.bind_some]
  simp only
  rw [Option.map_some, String.ofList_toList]

/-- A printed loop is read as such. -/
theorem ofChars_loop {s : String} (h : PrintableLabel s) :
    Line.ofChars ("For each ".toList ++ s.toList) = .step (.loop s []) := by
  have hw : wordsAfter? .forEach ("For each ".toList ++ s.toList) = some s.toList :=
    wordsAfter?_of_drop? h rfl
  have hi : wordsAfter? .ifWord ("For each ".toList ++ s.toList) = none := rfl
  have hb : branch? ("For each ".toList ++ s.toList) = none := rfl
  have hc : closes .endIf ("For each ".toList ++ s.toList) = false := rfl
  have hs : Line.ofChars ("For each ".toList ++ s.toList) =
      .step (stepOfChars ("For each ".toList ++ s.toList)) := rfl
  rw [hs, stepOfChars, hi, hb, hc, hw]
  simp only [Bool.false_eq_true, if_false]
  rw [String.ofList_toList]

/-! ### Lines without keywords -/

/-- A line that says an action says the one that its literals are taken out of. -/
theorem stepOfChars_of_kind {cs : List Char} (h : (stepOfChars cs).kind = .action) :
    stepOfChars cs =
      .action (extract (String.ofList cs)).template (extract (String.ofList cs)).parameters := by
  revert h
  unfold stepOfChars
  cases wordsAfter? .ifWord cs with
  | some condition => nofun
  | none =>
    cases branch? cs with
    | some condition => nofun
    | none =>
      cases closes .endIf cs with
      | true => nofun
      | false =>
        cases wordsAfter? .forEach cs with
        | some header => nofun
        | none =>
          cases closes .endLoop cs with
          | true => nofun
          | false => exact fun _ ↦ rfl

/-- A printed action is a trimmed line that is read as such. -/
theorem ofChars_action {template : String} {parameters : List String}
    (h : PrintableAction template parameters) :
    Line.ofChars (Text.trim (fill template.toList (parameters.map String.toList))) =
      .step (.action template parameters) := by
  obtain ⟨hn, ht⟩ := Text.tidy_iff.mp h.tidy
  have hp : ∀ p ∈ parameters.map String.toList, p ≠ [] ∧ '"' ∉ p := by
    intro p hp
    obtain ⟨s, hs, rfl⟩ := List.mem_map.mp hp
    have hs := h.literals s hs
    exact ⟨fun he ↦ hs.nonempty (String.toList_eq_nil_iff.mp he), hs.unquoted⟩
  have hc : holes template.toList = (parameters.map String.toList).length := by
    rw [List.length_map, h.counted]
  have hd : ∀ c ∈ template.toList, Text.isDigit c = false := by
    intro c hm
    exact (Bool.not_eq_true _).mp (List.any_eq_false.mp h.digitless c hm)
  have he := extract_fill ht hc h.unquoted hd hp
  have hps : (parameters.map String.toList).map String.ofList = parameters := by
    simp
  have hf : (fill template.toList (parameters.map String.toList)).isEmpty = false := by
    rw [List.isEmpty_eq_false_iff]
    exact fun hf ↦ hn (eq_nil_of_fill_eq_nil hf)
  have hh : ((fill template.toList (parameters.map String.toList)).head? == some '#') = false :=
    beq_eq_false_iff_ne.mpr h.action.comment
  rw [trim_fill ht, Line.ofChars, hf, hh, h.action.header, stepOfChars_of_kind h.action.keyword, he,
    String.ofList_toList, hps]
  rfl

/-! ### All lines -/

/-- A step that a line can say is what its printed line says. -/
theorem ofChars_line {s : Step} (h : Said PrintableAction PrintableLabel s) :
    Line.ofChars (Text.trim s.line) = .step s := by
  cases h with
  | @action template parameters ha =>
    have hl : (Step.action template parameters).line =
        fill template.toList (parameters.map String.toList) := by
      rw [Step.line, Step.action]
      simp only [Option.getD_some, List.map_map]
      rfl
    rw [hl]
    exact ofChars_action ha
  | @ifBlock condition hc =>
    have hl : (Step.ifBlock condition []).line = "If ".toList ++ condition.toList := rfl
    have ht : Text.trim ("If ".toList ++ condition.toList) = "If ".toList ++ condition.toList :=
      trim_append_of_tidy hc.tidy 'I' ['f', ' '] rfl
    rw [hl, ht, ofChars_ifBlock hc]
  | @elseBranch condition hc =>
    cases condition with
    | none => rfl
    | some condition =>
      have hl : (Step.elseBranch (some condition) []).line =
          "Else if ".toList ++ condition.toList := rfl
      have ht : Text.trim ("Else if ".toList ++ condition.toList) =
          "Else if ".toList ++ condition.toList :=
        trim_append_of_tidy (hc condition rfl).tidy 'E' ['l', 's', 'e', ' ', 'i', 'f', ' '] rfl
      rw [hl, ht, ofChars_elseBranch (hc condition rfl)]
  | @loop header hh =>
    have hl : (Step.loop header []).line = "For each ".toList ++ header.toList := rfl
    have ht : Text.trim ("For each ".toList ++ header.toList) =
        "For each ".toList ++ header.toList :=
      trim_append_of_tidy hh.tidy 'F' ['o', 'r', ' ', 'e', 'a', 'c', 'h', ' '] rfl
    rw [hl, ht, ofChars_loop hh]
  | closer k => cases k <;> rfl

/-- A step that a line can say is printed as a single line. -/
theorem singleLine_line {s : Step} (h : Said PrintableAction PrintableLabel s) :
    Text.SingleLine s.line := by
  cases h with
  | @action template parameters ha =>
    intro c hc
    rcases mem_fill hc with rfl | hc | ⟨p, hp, hc⟩
    · rfl
    · exact ha.singleLine c hc
    · simp only [Step.action, List.map_map, List.mem_map] at hp
      obtain ⟨q, hq, rfl⟩ := hp
      exact (ha.literals q hq).singleLine c hc
  | ifBlock hc => exact .append (by decide) hc.singleLine
  | @elseBranch condition hc =>
    cases condition with
    | none => decide
    | some condition => exact .append (by decide) (hc condition rfl).singleLine
  | loop hh => exact .append (by decide) hh.singleLine
  | closer k => cases k <;> decide

/-- The line that a test case's header is printed as. -/
def headerLine (name : String) : List Char := "Test: ".toList ++ name.toList

/-- A printed header is read as such. -/
theorem ofChars_headerLine {name : String} (h : Text.strip name = name) :
    Line.ofChars (Text.trim (headerLine name)) = .header name := by
  by_cases hn : name = ""
  · rw [hn]
    rfl
  · have ht : Text.trim (headerLine name) = headerLine name :=
      trim_append_of_tidy ⟨hn, h⟩ 'T' ['e', 's', 't', ':', ' '] rfl
    have hl : Line.ofChars (headerLine name) =
      .header (String.ofList (Text.trim (' ' :: name.toList))) := rfl
    have hb : Text.trim (' ' :: name.toList) = Text.trim name.toList := rfl
    rw [ht, hl, hb]
    exact congrArg Line.header h

end Playbook.Script
