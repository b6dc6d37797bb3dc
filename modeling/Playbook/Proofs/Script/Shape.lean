import Playbook.Proofs.Script.Reading

/-!
# The shape of parsed trees

What a line says has tidy texts, since the line is trimmed and holds something (`said_of_mem`).
Placing such steps and closing what is open at the end keeps every tree well formed
(`formed_of_parse`).
-/

namespace Playbook.Script

/-- A line that says a step holds something, and the step is what its characters say. -/
theorem eq_stepOfChars_of_ofChars {cs : List Char} {s : Step} (h : Line.ofChars cs = .step s) :
    cs ≠ [] ∧ s = stepOfChars cs := by
  unfold Line.ofChars at h
  split at h
  · cases h
  · next hn =>
    split at h
    · cases h
    · cases h
      refine ⟨?_, rfl⟩
      rintro rfl
      exact hn rfl

/-- The lines of a script that say a step say it with tidy texts. -/
theorem said_of_mem {text : String} {s : Section} (hs : s ∈ sections text) {t : Step}
    (ht : t ∈ s.steps) : Said (fun template _ ↦ Text.Tidy template) Text.Tidy t := by
  obtain ⟨l, hl, rfl⟩ := List.mem_map.mp ht
  have hm : l ∈ (Layout.ofLines 1 (Text.splitLines text.toList)).lines := by
    apply List.mem_append_right
    exact List.mem_flatMap.mpr ⟨s, hs, hl⟩
  obtain ⟨_, raw, _, _, _, hc⟩ := Layout.mem_lines_ofLines hm
  obtain ⟨hn, he⟩ := eq_stepOfChars_of_ofChars hc
  rw [he]
  exact said_stepOfChars (Text.trim_trim raw) hn

/-- The trees of a script that is read to its end are well formed, with tidy texts. -/
theorem formed_of_parse {text : String} {cases : List Case}
    (h : (parse text).outcome = .ok cases) :
    ∀ c ∈ cases, ∀ s ∈ c.steps, Formed (fun template _ ↦ Text.Tidy template) Text.Tidy s := by
  obtain ⟨cs, hr, rfl⟩ := outcome_parse_ok_iff.mp h
  intro c hc
  obtain ⟨o, ho, rfl⟩ := List.mem_map.mp hc
  obtain ⟨s, hs, hso⟩ := exists_read_of_mem hr ho
  have hsaid := fun t ht ↦ said_of_mem hs (t := t) ht
  have hf := OpenCase.formed_of_placeAll hsaid (OpenCase.read_ok_iff.mp hso)
  exact hf.1.written_finish.2

end Playbook.Script
