import Playbook.Proofs.CommandLine.LogFile

/-!
# What stays on a disk

Making directories only adds to a disk: everything that could be reached still can, and every file
is there with its content (`Grows`). Writing a file leaves what was written in its place and every
file in another place as it was (`readBytes_of_writeBytes`, `readBytes_of_elsewhere`).
-/

namespace Playbook.Disk

variable {d d' d'' : Disk} {p q : Path} {k l : Location} {e : Entry} {content : ByteArray}

/-- A file is read where there is one. -/
theorem readBytes_ok_iff : d.readBytes p = .ok content ↔
    ∃ l, d.reach p = .ok l ∧ d.entry? l = some (.file content) := by
  unfold readBytes
  cases d.reach p with
  | error f => exact ⟨nofun, nofun⟩
  | ok l =>
    simp only [bind, Except.bind, Except.ok.injEq, exists_eq_left']
    cases d.entry? l with
    | none => exact ⟨nofun, nofun⟩
    | some e =>
      cases e with
      | directory => exact ⟨nofun, nofun⟩
      | file held => exact ⟨fun h ↦ by cases h; rfl, fun h ↦ by cases h; rfl⟩

/-! ### Growing -/

/-- Everything that was on a disk still is, and can be reached as before. -/
structure Grows (d d' : Disk) : Prop where
  reach : ∀ {p l}, d.reach p = .ok l → d'.reach p = .ok l
  entry? : ∀ {l e}, d.entry? l = some e → d'.entry? l = some e

namespace Grows

/-- A disk has grown from itself. -/
theorem refl (d : Disk) : Grows d d := ⟨id, id⟩

/-- A disk that grows twice has grown. -/
theorem trans (h : Grows d d') (h' : Grows d' d'') : Grows d d'' :=
  ⟨fun hr ↦ h'.reach (h.reach hr), fun he ↦ h'.entry? (h.entry? he)⟩

/-- A file is still there, with its content. -/
theorem readBytes (h : Grows d d') (held : d.readBytes p = .ok content) :
    d'.readBytes p = .ok content := by
  obtain ⟨l, reached, there⟩ := readBytes_ok_iff.mp held
  exact readBytes_ok_iff.mpr ⟨l, h.reach reached, h.entry? there⟩

end Grows

/-- Where something is made, everything else stays. -/
theorem Makes.grows (makes : Makes p d d') : Grows d d' := by
  refine ⟨makes.reach, fun {l e} held ↦ ?_⟩
  cases makes with
  | same => exact held
  | @made l' attempts e' reached nothing =>
    refine (entry?_put_of_ne (d := { d with attempts }) ?_).trans held
    rintro rfl
    rw [nothing] at held
    cases held

/-- A writing that only adds to a disk, whether it goes through or is refused. -/
def Adds {α : Type} (w : Writing α) : Prop :=
  ∀ d, match w d with
    | .ok _ d' => Grows d d'
    | .error _ d' => Grows d d'

/-- Where a writing goes through that only adds, the disk has grown. -/
theorem Adds.of_ok {α : Type} {w : Writing α} {a : α} (h : Adds w) (ok : w d = .ok a d') :
    Grows d d' := by
  have := h d
  rwa [ok] at this

/-- Where a writing is refused that only adds, the disk has grown. -/
theorem Adds.of_error {α : Type} {w : Writing α} {f : Fault} (h : Adds w)
    (refused : w d = .error f d') : Grows d d' := by
  have := h d
  rwa [refused] at this

/-- Making sure of a directory only adds to a disk. -/
theorem adds_ensureDirectory (p : Path) : Adds (ensureDirectory p) := by
  intro d
  split
  next made => exact (makes_of_ensureDirectory made).grows
  next f d' refused =>
    unfold ensureDirectory at refused
    obtain ⟨d'', made, -⟩ | ⟨g, failed⟩ := makeDirectory_cases p d
    · rw [made] at refused
      cases refused
    · rw [failed] at refused
      -- whatever the refusal, only the attempt was counted
      have left : d' = { d with attempts := d.attempts + 1 } := by
        dsimp only at refused
        repeat' split at refused
        all_goals cases refused
        all_goals rfl
      rw [left]
      exact ⟨id, id⟩

/-- Making sure of a directory and those above it only adds to a disk. -/
theorem adds_ensureDirectories (p : Path) : Adds (ensureDirectories p) := by
  intro d
  fun_induction ensureDirectories p d with
  | case1 p d d' made => exact (adds_ensureDirectory p).of_ok made
  | case2 p d f d' refused => exact (adds_ensureDirectory p).of_error refused
  | case3 p d f d' refused _ _ d'' above ih =>
    rw [above] at ih
    have so := ((adds_ensureDirectory p).of_error refused).trans ih
    have last := adds_ensureDirectory p d''
    split
    next made =>
      rw [made] at last
      exact so.trans last
    next refused =>
      rw [refused] at last
      exact so.trans last
  | case4 p d f d' refused _ _ g d'' above ih =>
    rw [above] at ih
    exact ((adds_ensureDirectory p).of_error refused).trans ih
  | case5 p d f d' refused => exact (adds_ensureDirectory p).of_error refused

/-! ### Writing -/

private theorem find?_putEntry (l : Location) (e : Entry) (entries : List (Location × Entry)) :
    (putEntry l e entries).find? (·.1 == l) = some (l, e) := by
  induction entries with
  | nil => simp [putEntry]
  | cons f rest ih =>
    rw [putEntry]
    split
    next => simp
    next other => rw [List.find?_cons_of_neg (by simpa using other), ih]

/-- A place holds what was put there. -/
theorem entry?_put (h : l ≠ []) : Disk.entry? (d.put l e) l = some e := by
  unfold entry? put
  rw [if_neg h]
  simp only [find?_putEntry, Option.map_some]

/-- Writing a file puts it in the place of the path, where there is no directory, or fails and
writes nothing. -/
theorem writeBytes_cases (p : Path) (content : ByteArray) (d : Disk) :
    let tried := { d with attempts := d.attempts + 1 }
    (∃ l, d.reach p = .ok l ∧ d.entry? l ≠ some .directory ∧
      writeBytes p content d = .ok () (tried.put l (.file content))) ∨
      ∃ f, writeBytes p content d = .error f tried := by
  intro tried
  unfold writeBytes
  obtain h | ⟨f, h⟩ := attempt_bind _ d
  · rw [h]
    cases reached : tried.reach p with
    | error f => exact .inr ⟨f, rfl⟩
    | ok l =>
      dsimp only
      cases held : tried.entry? l with
      | none =>
        refine .inl ⟨l, reached, ?_, rfl⟩
        rw [show d.entry? l = none from held]
        nofun
      | some e =>
        cases e with
        | directory => exact .inr ⟨_, rfl⟩
        | file old =>
          refine .inl ⟨l, reached, ?_, rfl⟩
          rw [show d.entry? l = some (.file old) from held]
          nofun
  · exact .inr ⟨f, h⟩

/-- Writing a file puts it in a place where there is no directory. -/
theorem writes_of_writeBytes (h : writeBytes p content d = .ok () d') :
    ∃ l attempts, d.reach p = .ok l ∧ d.entry? l ≠ some .directory ∧
      d' = { d with attempts }.put l (.file content) := by
  obtain ⟨l, reached, nothing, wrote⟩ | ⟨f, failed⟩ := writeBytes_cases p content d
  · rw [wrote] at h
    cases h
    exact ⟨l, _, reached, nothing, rfl⟩
  · rw [failed] at h
    cases h

/-- A file that could not be written leaves everything as it was. -/
theorem grows_of_writeBytes_error {f : Fault} (h : writeBytes p content d = .error f d') :
    Grows d d' := by
  obtain ⟨l, -, -, wrote⟩ | ⟨g, failed⟩ := writeBytes_cases p content d
  · rw [wrote] at h
    cases h
  · rw [failed] at h
    cases h
    exact ⟨id, id⟩

/-- A file that was written is read. -/
theorem readBytes_of_writeBytes (h : writeBytes p content d = .ok () d') :
    d'.readBytes p = .ok content := by
  obtain ⟨l, attempts, reached, nothing, rfl⟩ := writes_of_writeBytes h
  refine readBytes_ok_iff.mpr ⟨l, reach_put (d := { d with attempts }) nothing reached, ?_⟩
  refine entry?_put ?_
  rintro rfl
  exact nothing rfl

/-- A file in another place is as it was. -/
theorem readBytes_of_elsewhere {written : ByteArray} (h : writeBytes q written d = .ok () d')
    (held : d.readBytes p = .ok content)
    (elsewhere : ∀ l, d'.reach p = .ok l → d'.reach q ≠ .ok l) :
    d'.readBytes p = .ok content := by
  obtain ⟨l, attempts, reached, nothing, rfl⟩ := writes_of_writeBytes h
  obtain ⟨k, reached', there⟩ := readBytes_ok_iff.mp held
  have atK := reach_put (d := { d with attempts }) (e := .file written) nothing reached'
  refine readBytes_ok_iff.mpr ⟨k, atK, ?_⟩
  refine (entry?_put_of_ne (d := { d with attempts }) ?_).trans there
  rintro rfl
  exact elsewhere k atK (reach_put (d := { d with attempts }) nothing reached)

end Playbook.Disk
