import Playbook.Proofs.Discovery.Stability

/-!
# Spellings of one file

Scripts are told apart by their paths, so every path is found once. Two paths that are found may
still lead to the same file, but only if they start from different anchors or one of them goes back
by a double dot (`scripts_apart`): `x.txt` and `sub/../x.txt` are two scripts
(`one_file_twice`).
-/

namespace Playbook

namespace Disk

variable {d : Disk} {p q : Path}

/-- Two paths lead to the same place. -/
def SamePlace (d : Disk) (p q : Path) : Prop := ∃ l, d.locate p = .ok l ∧ d.locate q = .ok l

/-- Paths that start alike and do not go back lead to the same place only if they are the same. -/
theorem SamePlace.eq (h : d.SamePlace p q) (anchor : p.anchor = q.anchor) (hp : ".." ∉ p.parts)
    (hq : ".." ∉ q.parts) : p = q := by
  obtain ⟨l, located, located'⟩ := h
  have same := (eq_append_of_locate located hp).symm.trans (eq_append_of_locate located' hq)
  obtain ⟨a, names⟩ := p
  obtain ⟨b, more⟩ := q
  obtain rfl : a = b := anchor
  -- the anchor tells where both of them start
  exact congrArg _ (List.append_cancel_left same)

end Disk

namespace Discovery

variable {d : Disk} {patterns arguments : List String} {q : Path} {found : List Path}

/-- Arguments start alike, and neither they nor the patterns go back. -/
structure SpelledAlike (patterns arguments : List String) : Prop where
  anchor : ∃ anchor, ∀ argument ∈ arguments, (Path.ofText argument).anchor = anchor
  arguments : ∀ argument ∈ arguments, ".." ∉ (Path.ofText argument).parts
  patterns : ∀ text ∈ patterns, ".." ∉ (Path.ofText text).parts

/-- A script is spelled as an argument or from one by a pattern. -/
theorem spelled_of_mem_scripts (well : d.WellNamed)
    (went : scripts d patterns arguments = .ok found) (h : q ∈ found) :
    ∃ argument ∈ arguments, ∃ names, q = (Path.ofText argument).below names ∧
      ((∀ text ∈ patterns, ".." ∉ (Path.ofText text).parts) → ".." ∉ names) := by
  obtain h | ⟨argument, given, more, contributed, h⟩ := (mem_scriptsAfter_iff went).mp h
  · cases h
  refine ⟨argument, given, ?_⟩
  obtain ⟨-, rfl⟩ | ⟨directory, contributed⟩ := candidates_ok contributed
  · obtain rfl := List.mem_singleton.mp h
    exact ⟨[], (Path.below_nil _).symm, fun _ ↦ nofun⟩
  · obtain ⟨text, listed, pattern, read, names, fits, rfl⟩ :=
      ((mem_inDirectory_iff well directory contributed).mp h).led
    exact ⟨names, rfl, fun plain ↦ fits.plain fun named ↦
      plain text listed (Glob.Pattern.mem_parts_of_ofText read named)⟩

/-- Every path is found once. Two paths that lead to the same place start from different anchors or
go back, so no file is found twice when arguments start alike and nothing goes back. -/
theorem scripts_apart (well : d.WellNamed) (went : scripts d patterns arguments = .ok found) :
    found.Nodup ∧
      (∀ p ∈ found, ∀ q ∈ found, p ≠ q → d.SamePlace p q →
        p.anchor ≠ q.anchor ∨ ".." ∈ p.parts ∨ ".." ∈ q.parts) ∧
      (SpelledAlike patterns arguments → found.Pairwise fun p q ↦ ¬d.SamePlace p q) := by
  have nodup := nodup_of_scripts went
  have apart (p : Path) (_ : p ∈ found) (q : Path) (_ : q ∈ found) (ne : p ≠ q)
      (same : d.SamePlace p q) : p.anchor ≠ q.anchor ∨ ".." ∈ p.parts ∨ ".." ∈ q.parts := by
    by_contra h
    obtain ⟨anchor, hp, hq⟩ := by simpa only [not_or, not_not] using h
    exact ne (same.eq anchor hp hq)
  refine ⟨nodup, apart, fun ⟨⟨anchor, starts⟩, plain, plainPatterns⟩ ↦ ?_⟩
  have spelled {q : Path} (h : q ∈ found) : q.anchor = anchor ∧ ".." ∉ q.parts := by
    obtain ⟨argument, given, names, rfl, plainNames⟩ := spelled_of_mem_scripts well went h
    refine ⟨starts argument given, ?_⟩
    rw [Path.parts_below, List.mem_append, not_or]
    exact ⟨plain argument given, plainNames plainPatterns⟩
  refine nodup.imp_of_mem fun {p q} hp hq ne same ↦ ?_
  obtain h | h | h := apart p hp q hq ne same
  · exact h ((spelled hp).1.trans (spelled hq).1.symm)
  · exact (spelled hp).2 h
  · exact (spelled hq).2 h

/-- A directory, the script beside it and a script in it come to two files. -/
theorem apart_of_twoScripts :
    SpelledAlike standardPatterns ["sub", "./x.txt", "sub/y.txt"] ∧
      [⟨.workingDirectory, ["sub", "y.txt"]⟩, ⟨.workingDirectory, ["x.txt"]⟩].Pairwise
        fun p q ↦ ¬twoScripts.SamePlace p q := by
  have alike : SpelledAlike standardPatterns ["sub", "./x.txt", "sub/y.txt"] :=
    ⟨⟨.workingDirectory, by decide +kernel⟩, by decide +kernel, by decide +kernel⟩
  have went : scripts twoScripts standardPatterns ["sub", "./x.txt", "sub/y.txt"] =
      .ok [⟨.workingDirectory, ["sub", "y.txt"]⟩, ⟨.workingDirectory, ["x.txt"]⟩] := by
    decide +kernel
  exact ⟨alike, (scripts_apart (by decide) went).2.2 alike⟩

/-- A file that is spelled in two ways is found twice. -/
theorem one_file_twice :
    scripts twoScripts standardPatterns ["x.txt", "sub/../x.txt"] =
        .ok [⟨.workingDirectory, ["x.txt"]⟩, ⟨.workingDirectory, ["sub", "..", "x.txt"]⟩] ∧
      twoScripts.SamePlace ⟨.workingDirectory, ["x.txt"]⟩
        ⟨.workingDirectory, ["sub", "..", "x.txt"]⟩ :=
  ⟨by decide +kernel, ["x.txt"], by decide +kernel, by decide +kernel⟩

end Discovery

end Playbook
