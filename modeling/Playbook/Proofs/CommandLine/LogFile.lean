import Playbook.Proofs.CommandLine.Loading
import Playbook.Proofs.Run.Contract

/-!
# The program's own log

Before anything else, the program makes its log file ready, in a directory of its own. Making
something where there was nothing changes the disk in that place only, and everything that could be
reached still can (`Makes`); so the disk is as it was, but for that directory and that file
(`openLog_spec`).
-/

namespace Playbook

namespace Disk

variable {d d' : Disk} {p q : Path} {l k : Location} {e : Entry}

private theorem find?_putEntry_of_ne (h : k ≠ l) (entries : List (Location × Entry)) :
    (putEntry l e entries).find? (·.1 == k) = entries.find? (·.1 == k) := by
  have other : (l == k) = false := beq_eq_false_iff_ne.mpr h.symm
  induction entries with
  | nil => simp only [putEntry, List.find?_cons, other]
  | cons f rest ih =>
    unfold putEntry
    split
    next same =>
      have : (f.1 == k) = false := by rw [LawfulBEq.eq_of_beq same]; exact other
      simp only [List.find?_cons, other, this]
    next => simp only [List.find?_cons, ih]

/-- Another place holds what it held. -/
theorem entry?_put_of_ne (h : k ≠ l) : Disk.entry? (d.put l e) k = d.entry? k := by
  unfold entry? put
  simp only [find?_putEntry_of_ne h]

-- The way to a path does not go through a place where there is no directory.
private theorem step_put (nothing : d.entry? l ≠ some .directory) {start : Location} {part : String}
    (h : d.step start part = .ok k) : (d.put l e).step start part = .ok k := by
  obtain ⟨directory, short, rfl⟩ := step_ok_iff.mp h
  have there : start ≠ l := by
    rintro rfl
    exact nothing directory
  exact step_ok_iff.mpr ⟨(entry?_put_of_ne there).trans directory, short, rfl⟩

private theorem foldlM_step_put (nothing : d.entry? l ≠ some .directory) {parts : List String}
    {start : Location} (h : parts.foldlM d.step start = .ok k) :
    parts.foldlM (d.put l e).step start = .ok k := by
  induction parts generalizing start with
  | nil => exact h
  | cons part parts ih =>
    rw [List.foldlM_cons] at h ⊢
    obtain ⟨next, first, rest⟩ := bind_eq_ok.mp h
    exact bind_eq_ok.mpr ⟨next, step_put nothing first, ih rest⟩

/-- What could be reached still can, once something is put where there was no directory. -/
theorem reach_put (nothing : d.entry? l ≠ some .directory) (h : d.reach p = .ok k) :
    (d.put l e).reach p = .ok k := by
  obtain ⟨named, located⟩ := reach_ok_iff.mp h
  obtain ⟨short, way⟩ := locate_ok_iff.mp located
  exact reach_ok_iff.mpr ⟨named, locate_ok_iff.mpr ⟨short, foldlM_step_put nothing way⟩⟩

/-- Something was made at a path, where there was nothing, or everything is as it was. Attempts to
write are counted all the same. -/
inductive Makes (p : Path) (d : Disk) : Disk → Prop
  | same (attempts : Nat) : Makes p d { d with attempts }
  | made {l : Location} (attempts : Nat) (e : Entry) (reached : d.reach p = .ok l)
      (nothing : d.entry? l = none) : Makes p d ({ d with attempts }.put l e)

namespace Makes

/-- What is made does not change the working directory. -/
theorem workingDirectory (makes : Makes p d d') : d'.workingDirectory = d.workingDirectory := by
  cases makes with
  | same => rfl
  | made => rfl

/-- What could be reached still can. -/
theorem reach (makes : Makes p d d') (h : d.reach q = .ok k) : d'.reach q = .ok k := by
  cases makes with
  | same => exact h
  | made attempts e reached nothing =>
    refine reach_put (d := { d with attempts }) ?_ h
    rw [show Disk.entry? { d with attempts } _ = none from nothing]
    nofun

/-- Only the place of the path may have changed. -/
theorem entry? (makes : Makes p d d') (h : d'.reach p ≠ .ok k) : d'.entry? k = d.entry? k := by
  cases makes with
  | same => rfl
  | made attempts e reached nothing =>
    refine entry?_put_of_ne (d := { d with attempts }) fun same ↦ h ?_
    exact (Makes.made attempts e reached nothing).reach (same ▸ reached)

end Makes

/-- An attempt to write is refused, or what is to be written is written. -/
theorem attempt_bind {α : Type} (write : Disk → Writing α) (d : Disk) :
    let tried := { d with attempts := d.attempts + 1 }
    (do attempt; write (← get) : Writing α) d = write tried tried ∨
      ∃ f, (do attempt; write (← get) : Writing α) d = .error f tried := by
  simp only [bind, EStateM.bind, attempt]
  cases d.refusals d.attempts with
  | none => exact .inl rfl
  | some f => exact .inr ⟨f, rfl⟩

/-- Making a directory makes one where there was nothing, or fails and makes nothing. -/
theorem makeDirectory_cases (p : Path) (d : Disk) :
    (∃ d', makeDirectory p d = .ok () d' ∧ Makes p d d') ∨
      ∃ f, makeDirectory p d = .error f { d with attempts := d.attempts + 1 } := by
  unfold makeDirectory
  obtain h | ⟨f, h⟩ := attempt_bind _ d
  · rw [h]
    cases reached : Disk.reach { d with attempts := d.attempts + 1 } p with
    | error f => exact .inr ⟨f, rfl⟩
    | ok l =>
      dsimp only
      cases held : Disk.entry? { d with attempts := d.attempts + 1 } l with
      | none => exact .inl ⟨_, rfl, .made _ .directory reached held⟩
      | some _ => exact .inr ⟨_, rfl⟩
  · exact .inr ⟨f, h⟩

/-- Making sure of a directory makes it where there was nothing. -/
theorem makes_of_ensureDirectory (h : ensureDirectory p d = .ok () d') : Makes p d d' := by
  unfold ensureDirectory at h
  obtain ⟨d'', made, makes⟩ | ⟨f, failed⟩ := makeDirectory_cases p d
  · rw [made] at h
    cases h
    exact makes
  · rw [failed] at h
    dsimp only at h
    split at h
    · cases h
    · split at h
      · cases h
        exact .same _
      · cases h
      · cases h
    · cases h

/-- Making sure of a file makes it where there was nothing. -/
theorem makes_of_ensureFile (h : ensureFile p d = .ok () d') : Makes p d d' := by
  unfold ensureFile at h
  obtain tried | ⟨f, failed⟩ := attempt_bind _ d
  · rw [tried] at h
    cases reached : Disk.reach { d with attempts := d.attempts + 1 } p with
    | error f =>
      rw [reached] at h
      cases h
    | ok l =>
      rw [reached] at h
      dsimp only at h
      cases held : Disk.entry? { d with attempts := d.attempts + 1 } l with
      | none =>
        rw [held] at h
        cases h
        exact .made _ _ reached held
      | some e =>
        rw [held] at h
        cases e with
        | file =>
          cases h
          exact .same _
        | directory => cases h
  · rw [failed] at h
    cases h

end Disk

namespace CommandLine

open Disk

variable {β : Type}

/-- Writing that goes through changes the disk alone. -/
theorem exists_of_onDisk_ok {α : Type} {w : Writing α} {a : α} {s t : Stage (Bench β)}
    (h : (Rig.onDisk w : Play (Bench β) α) s = .ok a t) :
    ∃ d, w s.world.disk = .ok a d ∧ t = { s with world := { s.world with disk := d } } := by
  unfold Rig.onDisk at h
  split at h
  next written =>
    cases h
    exact ⟨_, written, rfl⟩
  next => cases h

/-- The disk is as it was, but for the program's own log. -/
structure LogOnly (before after : Disk) : Prop where
  workingDirectory : after.workingDirectory = before.workingDirectory
  entry? : ∀ l, after.reach logDirectory ≠ .ok l → after.reach (logFile after) ≠ .ok l →
    after.entry? l = before.entry? l

/-- Making the log ready does nothing else: on the disk only the log is new. -/
theorem openLog_spec {bench : Bench β} {ready : Stage (Bench β)}
    (h : openLog { world := bench } = .ok () ready) :
    ready = { world := { bench with disk := ready.world.disk } } ∧
      LogOnly bench.disk ready.world.disk := by
  obtain ⟨_, _, made, h⟩ := exists_of_bind_ok h
  obtain ⟨d, hd, rfl⟩ := exists_of_onDisk_ok made
  obtain ⟨d', hf, rfl⟩ := exists_of_onDisk_ok h
  have directory : Makes logDirectory bench.disk d := makes_of_ensureDirectory hd
  have file : Makes (logFile d) d d' := makes_of_ensureFile hf
  refine ⟨rfl, file.workingDirectory.trans directory.workingDirectory, fun l hl hl' ↦ ?_⟩
  have same : logFile d' = logFile d := by
    unfold logFile
    rw [file.workingDirectory]
  calc d'.entry? l
      = d.entry? l := file.entry? (same ▸ hl')
    _ = bench.disk.entry? l := directory.entry? fun reached ↦ hl (file.reach reached)

end CommandLine

end Playbook
