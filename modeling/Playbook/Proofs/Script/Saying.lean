import Playbook.Script.Line
import Playbook.Proofs.Script.Spelling
import Playbook.Proofs.Script.Tree

/-!
# What lines say

Every line says an action, an opener, a branch or a closer (`said_ofLine`). When the line is
trimmed and holds something, so do the condition, header or template that it says
(`said_stepOfChars`): they are ends of the line that start with no blank, or hold a character of it
or a placeholder.
-/

namespace Playbook.Script

/-- Whatever a line holds, it says an action, an opener, a branch or a closer. -/
theorem said_ofLine (text : String) :
    Said (fun _ _ ↦ True) (fun _ ↦ True) (Step.ofLine text) := by
  unfold Step.ofLine stepOfChars
  split
  · exact .ifBlock trivial
  · split
    · exact .elseBranch fun _ _ ↦ trivial
    · split
      · exact .closer .endIf
      · split
        · exact .loop trivial
        · split
          · exact .closer .endLoop
          · exact .action trivial

/-! ### Keywords take the beginning of a line -/

/-- What is left after blanks is an end of the text that starts with none. -/
theorem dropBlanks?_suffix {cs rest : List Char} (h : dropBlanks? cs = some rest) :
    rest <:+ cs ∧ ∀ c ∈ rest.head?, Text.isBlank c = false := by
  cases cs with
  | nil => cases h
  | cons c cs =>
    rw [dropBlanks?] at h
    split at h
    · cases h
      refine ⟨(List.dropWhile_suffix _).trans (List.suffix_cons c cs), ?_⟩
      intro d hd
      have hn := List.head?_dropWhile_not Text.isBlank cs
      rw [Option.mem_def.mp hd] at hn
      simpa using hn
    · cases h

/-- What is left after words set apart by blanks is an end of the text. -/
theorem dropWords?_suffix {words : List (List Char)} {cs rest : List Char}
    (h : dropWords? words cs = some rest) : rest <:+ cs := by
  cases words with
  | nil =>
    cases h
    exact List.suffix_refl _
  | cons word words =>
    obtain ⟨spelt, rfl, _⟩ := exists_spellsAll_of_dropWords? (List.cons_ne_nil word words) h
    exact List.suffix_append spelt rest

/-- What is left after a keyword is an end of the text. -/
theorem Keyword.drop?_suffix {k : Keyword} {cs rest : List Char} (h : k.drop? cs = some rest) :
    rest <:+ cs := by
  obtain ⟨words, _, hw⟩ := List.exists_of_findSome?_eq_some h
  exact dropWords?_suffix hw

/-- The words after a keyword are the end of the line, and there are some. -/
theorem wordsAfter?_suffix {k : Keyword} {cs words : List Char}
    (h : wordsAfter? k cs = some words) :
    words <:+ cs ∧ (∀ c ∈ words.head?, Text.isBlank c = false) ∧ words ≠ [] := by
  obtain ⟨afterKeyword, hk, h⟩ := Option.bind_eq_some_iff.mp h
  obtain ⟨afterBlanks, hb, h⟩ := Option.bind_eq_some_iff.mp h
  split at h
  · cases h
  · next hn =>
    cases h
    obtain ⟨hs, hh⟩ := dropBlanks?_suffix hb
    refine ⟨hs.trans (Keyword.drop?_suffix hk), hh, ?_⟩
    rintro rfl
    exact hn rfl

/-- The condition of a branch is the end of its line, and holds something. -/
theorem branch?_suffix {cs condition : List Char} (h : branch? cs = some (some condition)) :
    condition <:+ cs ∧ (∀ c ∈ condition.head?, Text.isBlank c = false) ∧ condition ≠ [] := by
  obtain ⟨afterKeyword, hk, h⟩ := Option.bind_eq_some_iff.mp h
  split at h
  · cases h
  · obtain ⟨afterBlanks, hb, h⟩ := Option.bind_eq_some_iff.mp h
    obtain ⟨words, hw, h⟩ := Option.bind_eq_some_iff.mp h
    cases h
    obtain ⟨hs, hh, hn⟩ := wordsAfter?_suffix hw
    exact ⟨hs.trans ((dropBlanks?_suffix hb).1.trans (Keyword.drop?_suffix hk)), hh, hn⟩

/-! ### Texts of trimmed lines -/

private theorem exists_mem_template {cs : List Char} (hn : cs ≠ [])
    (hh : ∀ c ∈ cs.head?, Text.isBlank c = false) :
    ∃ d ∈ (pieces cs).flatMap Piece.template, Text.isBlank d = false := by
  fun_cases pieces cs with
  | case1 => exact absurd rfl hn
  | case2 => exact ⟨_, List.mem_append_left _ List.mem_cons_self, rfl⟩
  | case3 => exact ⟨_, List.mem_append_left _ List.mem_cons_self, rfl⟩
  | case4 => exact ⟨_, List.mem_append_left _ List.mem_cons_self, rfl⟩
  | case5 c => exact ⟨c, List.mem_append_left _ List.mem_cons_self, hh c rfl⟩

private theorem tidy_of_suffix {cs words : List Char} (ht : Text.trim cs = cs)
    (h : words <:+ cs ∧ (∀ c ∈ words.head?, Text.isBlank c = false) ∧ words ≠ []) :
    Text.Tidy (String.ofList words) :=
  Text.tidy_ofList_iff.mpr ⟨h.2.2, Text.trim_of_suffix ht h.1 h.2.1⟩

/-- A trimmed line that holds something says a step with tidy texts. -/
theorem said_stepOfChars {cs : List Char} (ht : Text.trim cs = cs) (hn : cs ≠ []) :
    Said (fun template _ ↦ Text.Tidy template) Text.Tidy (stepOfChars cs) := by
  unfold stepOfChars
  split
  · next condition hw => exact .ifBlock (tidy_of_suffix ht (wordsAfter?_suffix hw))
  · split
    · next condition hb =>
      apply Said.elseBranch
      intro t hm
      obtain ⟨condition', hc, rfl⟩ := Option.map_eq_some_iff.mp hm
      rw [hc] at hb
      exact tidy_of_suffix ht (branch?_suffix hb)
    · split
      · exact .closer .endIf
      · split
        · next header hw => exact .loop (tidy_of_suffix ht (wordsAfter?_suffix hw))
        · split
          · exact .closer .endLoop
          · apply Said.action
            rw [extract, String.toList_ofList, Text.tidy_ofList_iff]
            refine ⟨?_, Text.trim_trim _⟩
            obtain ⟨d, hd, hb⟩ := exists_mem_template hn (Text.trim_eq_self_iff.mp ht).1
            exact Text.trim_ne_nil hd hb

/-- A trimmed line that says an action says its template, with the literals as parameters. -/
theorem ofLine_of_action {line : String} (ht : Text.trim line.toList = line.toList) :
    (Step.ofLine line).kind = .action →
      Step.ofLine line = .action (extract line).template (extract line).parameters := by
  rw [Step.ofLine, ht, stepOfChars, String.ofList_toList]
  split
  · nofun
  · split
    · nofun
    · split
      · nofun
      · split
        · nofun
        · split
          · nofun
          · exact fun _ ↦ rfl

end Playbook.Script
