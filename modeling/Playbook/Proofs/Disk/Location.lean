import Playbook.Disk.Basic
import Playbook.Proofs.Except

/-!
# Paths and locations

A path is found by its names, one after another. What is found on the way to a file is a directory
(`isDirectory_of_isFile_below`), and a path without double dots leads to the location that it spells
(`eq_append_of_locate`). A path whose parts can be written is the path that its text denotes
(`ofText_text`), and when the names on a disk can be written, so can the path of every file
(`isPart_of_isFile`).
-/

namespace Playbook

namespace Path

variable {p q : Path} {name : String} {names more : List String}

/-- A path with names below it. -/
def below (p : Path) (names : List String) : Path := { p with parts := p.parts ++ names }

/-- Below a path without further names is the path. -/
@[simp] theorem below_nil (p : Path) : p.below [] = p := by
  simp [below]

/-- Names below a path are followed one after another. -/
@[simp] theorem below_below (p : Path) (names more : List String) :
    (p.below names).below more = p.below (names ++ more) := by
  simp [below]

/-- The first name leads to a child, and the others go on below it. -/
theorem below_cons (p : Path) (name : String) (names : List String) :
    p.below (name :: names) = (p.child name).below names := by
  simp [below, child]

/-- Names below a path leave its anchor as it is. -/
@[simp] theorem anchor_below (p : Path) (names : List String) : (p.below names).anchor = p.anchor :=
  rfl

/-- Names below a path follow its own parts. -/
@[simp] theorem parts_below (p : Path) (names : List String) :
    (p.below names).parts = p.parts ++ names :=
  rfl

/-! ### Written paths -/

/-- A part that a written path can have. -/
structure IsPart (part : String) : Prop where
  notEmpty : part ≠ ""
  notDot : part ≠ "."
  single : '/' ∉ part.toList

/-- A name that a file or a directory can have. -/
structure IsName (name : String) : Prop extends IsPart name where
  notBack : name ≠ ".."

/-- Whether a part can be written is told by its characters. -/
instance (part : String) : Decidable (IsPart part) :=
  decidable_of_iff (part ≠ "" ∧ part ≠ "." ∧ '/' ∉ part.toList)
    ⟨fun h ↦ ⟨h.1, h.2.1, h.2.2⟩, fun h ↦ ⟨h.notEmpty, h.notDot, h.single⟩⟩

/-- Whether a name can be given is told by its characters. -/
instance (name : String) : Decidable (IsName name) :=
  decidable_of_iff (IsPart name ∧ name ≠ "..")
    ⟨fun h ↦ ⟨h.1, h.2⟩, fun h ↦ ⟨h.toIsPart, h.notBack⟩⟩

private theorem isPart_back : IsPart ".." := by decide

private theorem splitOn_intercalate {parts : List (List Char)} (ne : parts ≠ [])
    (single : ∀ part ∈ parts, '/' ∉ part) :
    Text.splitOn '/' (['/'].intercalate parts) = parts := by
  induction parts with
  | nil => exact absurd rfl ne
  | cons part rest ih =>
    obtain ⟨hp, hr⟩ := List.forall_mem_cons.mp single
    cases rest with
    | nil => simpa using Text.splitOn_of_notMem hp
    | cons next rest =>
      rw [List.intercalate_cons_cons, List.append_assoc, List.singleton_append,
        Text.splitOn_append hp, ih (List.cons_ne_nil _ _) hr]

private theorem partsOf_slash (cs : List Char) : partsOf ('/' :: cs) = partsOf cs := by
  rw [partsOf, partsOf, Text.splitOn, if_pos rfl, List.filter_cons_of_neg (by decide)]

private theorem partsOf_intercalate {parts : List String} (h : ∀ part ∈ parts, IsPart part) :
    partsOf (['/'].intercalate (parts.map String.toList)) = parts := by
  by_cases ne : parts = []
  · subst ne
    rfl
  · have cut : Text.splitOn '/' (['/'].intercalate (parts.map String.toList)) =
        parts.map String.toList := by
      apply splitOn_intercalate (by simpa using ne)
      intro cs hcs
      obtain ⟨part, hp, rfl⟩ := List.mem_map.mp hcs
      exact (h part hp).single
    have kept : (parts.map String.toList).filter (fun part ↦ !part.isEmpty && part != ['.']) =
        parts.map String.toList := by
      apply List.filter_eq_self.mpr
      intro cs hcs
      obtain ⟨part, hp, rfl⟩ := List.mem_map.mp hcs
      have empty : part.toList ≠ [] := fun he ↦ (h part hp).notEmpty (String.toList_inj.mp he)
      have dot : part.toList ≠ ['.'] := fun he ↦ (h part hp).notDot (String.toList_inj.mp he)
      simp [empty, dot]
    rw [partsOf, cut, kept, List.map_map]
    simp [Function.comp_def]

private theorem head?_intercalate {parts : List String} (h : ∀ part ∈ parts, IsPart part) :
    (['/'].intercalate (parts.map String.toList)).head? ≠ some '/' := by
  cases parts with
  | nil => nofun
  | cons first rest =>
    obtain ⟨c, cs, hc⟩ := List.exists_cons_of_ne_nil
      fun he ↦ (h first List.mem_cons_self).notEmpty (String.toList_inj.mp he)
    have slash : c ≠ '/' := by
      rintro rfl
      exact (h first List.mem_cons_self).single (hc ▸ List.mem_cons_self)
    cases rest with
    | nil => simpa [hc] using slash
    | cons next rest => simpa [List.intercalate_cons_cons, hc] using slash

private theorem anchorOf_of_head? {cs : List Char} (h : cs.head? ≠ some '/') :
    anchorOf cs = .workingDirectory ∧ anchorOf ('/' :: cs) = .root ∧
      anchorOf ('/' :: '/' :: cs) = .doubleRoot := by
  cases cs with
  | nil => exact ⟨rfl, rfl, rfl⟩
  | cons c cs =>
    have slash : c ≠ '/' := fun he ↦ h (congrArg some he)
    refine ⟨?_, ?_, ?_⟩
    · simp [anchorOf, slash]
    · simp [anchorOf, slash]
    · simp [anchorOf, slash]

/-- The text of a path denotes the path. -/
theorem ofText_text (h : ∀ part ∈ p.parts, IsPart part) : ofText p.text = p := by
  obtain ⟨anchor, parts⟩ := p
  have read := partsOf_intercalate h
  obtain ⟨relative, root, doubleRoot⟩ := anchorOf_of_head? (head?_intercalate h)
  have written : ("/".intercalate parts).toList = ['/'].intercalate (parts.map String.toList) :=
    String.toList_intercalate
  cases anchor with
  | workingDirectory =>
    by_cases hp : parts = []
    · subst hp
      rfl
    · simp [ofText, text, hp, Anchor.text, written, relative, read]
  | root => simp [ofText, text, Anchor.text, written, root, partsOf_slash, read]
  | doubleRoot => simp [ofText, text, Anchor.text, written, doubleRoot, partsOf_slash, read]

end Path

namespace Disk

variable {d : Disk} {p q : Path} {l k : Location} {e : Entry} {part : String}
  {names more : List String}

/-! ### On the way to a path -/

/-- A step is taken from a directory to where the name says. -/
theorem step_ok_iff : d.step l part = .ok k ↔
    d.entry? l = some .directory ∧ part.utf8ByteSize ≤ nameLimit ∧ k = Path.follow l part := by
  unfold step
  cases d.entry? l with
  | none => simp
  | some e =>
    cases e with
    | file content => simp
    | directory =>
      by_cases short : part.utf8ByteSize ≤ nameLimit
      · simp [short, eq_comm]
      · simp [short]

/-- A way goes through when its first part and the rest of it do. -/
theorem foldlM_step_append :
    (names ++ more).foldlM d.step l = .ok k ↔
      ∃ between, names.foldlM d.step l = .ok between ∧ more.foldlM d.step between = .ok k := by
  rw [List.foldlM_append]
  exact bind_eq_ok

private theorem directory_of_foldlM_step (ne : more ≠ []) (h : more.foldlM d.step l = .ok k) :
    d.entry? l = some .directory := by
  cases more with
  | nil => exact absurd rfl ne
  | cons name rest =>
    rw [List.foldlM_cons] at h
    obtain ⟨next, hs, -⟩ := bind_eq_ok.mp h
    exact (step_ok_iff.mp hs).1

/-- Without double dots, a way leads where its names say. -/
theorem eq_append_of_foldlM_step (h : names.foldlM d.step l = .ok k)
    (plain : ".." ∉ names) : k = l ++ names := by
  induction names generalizing l with
  | nil =>
    cases h
    exact (List.append_nil _).symm
  | cons name names ih =>
    obtain ⟨hn, hr⟩ := not_or.mp (mt List.mem_cons.mpr plain)
    rw [List.foldlM_cons] at h
    obtain ⟨next, hs, went⟩ := bind_eq_ok.mp h
    rw [ih went hr, (step_ok_iff.mp hs).2.2, Path.follow, if_neg (Ne.symm hn)]
    simp

/-- A path can be located if it is short enough and each of its parts can be followed. -/
theorem locate_ok_iff : d.locate p = .ok l ↔
    p.text.utf8ByteSize ≤ pathLimit ∧
      p.parts.foldlM d.step (p.origin d.workingDirectory) = .ok l := by
  unfold locate
  by_cases short : p.text.utf8ByteSize ≤ pathLimit
  · rw [if_pos short]
    exact (and_iff_right short).symm
  · rw [if_neg short]
    exact ⟨nofun, fun h ↦ absurd h.1 short⟩

/-- A path can be reached if it can be named and located. -/
theorem reach_ok_iff : d.reach p = .ok l ↔ p.isNameable = true ∧ d.locate p = .ok l := by
  unfold reach
  by_cases named : p.isNameable = true
  · rw [if_pos named, mapError_eq_ok, and_iff_right named]
  · rw [if_neg named]
    exact ⟨nofun, fun h ↦ absurd h.1 named⟩

/-- Without double dots, a path leads to the location that it spells. -/
theorem eq_append_of_locate (h : d.locate p = .ok l) (plain : ".." ∉ p.parts) :
    l = p.origin d.workingDirectory ++ p.parts :=
  eq_append_of_foldlM_step (locate_ok_iff.mp h).2 plain

/-- Without double dots, names below a path lead to the location below that of the path. -/
theorem eq_append_of_locate_below (h : d.locate p = .ok l) (h' : d.locate (p.below names) = .ok k)
    (plain : ".." ∉ names) : k = l ++ names := by
  obtain ⟨between, above, below⟩ := foldlM_step_append.mp (locate_ok_iff.mp h').2
  have same : between = l := Except.ok.inj (above.symm.trans (locate_ok_iff.mp h).2)
  exact same ▸ eq_append_of_foldlM_step below plain

/-! ### What is at a path -/

/-- Looking at a path fails only when it is too long. -/
theorem failsWith_stat : FailsWith (fun f ↦ f = refusal p .general) (d.stat p) := by
  unfold stat
  split
  · cases d.locate p with
    | ok l => exact .ok _
    | error kind =>
      cases kind with
      | general => exact .error rfl
      | fileExists | fileNotFound | notADirectory | isADirectory => exact .ok _
  · exact .ok _

/-- Something is at a path if the path can be named and located, and an entry is there. -/
theorem stat_some_iff : d.stat p = .ok (some e) ↔
    p.isNameable = true ∧ ∃ l, d.locate p = .ok l ∧ d.entry? l = some e := by
  unfold stat
  by_cases named : p.isNameable = true
  · simp only [named, if_true, true_and]
    cases d.locate p with
    | ok l => simp
    | error kind => cases kind <;> simp
  · simp [named]

/-- A path is that of a file if a file is at it. -/
theorem isFile_iff : d.isFile p = .ok true ↔ ∃ content, d.stat p = .ok (some (.file content)) := by
  unfold isFile
  rcases d.stat p with f | _ | _ | content <;> simp [Except.map, Entry.isFile]

/-- A path is that of a directory if a directory is at it. -/
theorem isDirectory_iff : d.isDirectory p = .ok true ↔ d.stat p = .ok (some .directory) := by
  unfold isDirectory
  rcases d.stat p with f | _ | _ | content <;> simp [Except.map, Entry.isDirectory]

/-- Nothing is both a file and a directory. -/
theorem not_isDirectory_of_isFile (h : d.isFile p = .ok true) : d.isDirectory p ≠ .ok true := by
  obtain ⟨content, file⟩ := isFile_iff.mp h
  rw [ne_eq, isDirectory_iff, file]
  nofun

/-- What a file is found below is a directory, if it can be looked at. -/
theorem isDirectory_of_isFile_below {b : Bool} (h : d.isFile (p.below more) = .ok true)
    (ne : more ≠ []) (looked : d.isDirectory p = .ok b) : d.isDirectory p = .ok true := by
  obtain ⟨content, file⟩ := isFile_iff.mp h
  obtain ⟨named, l, located, -⟩ := stat_some_iff.mp file
  obtain ⟨k, above, below⟩ := foldlM_step_append.mp (locate_ok_iff.mp located).2
  have there := directory_of_foldlM_step ne below
  have namedAbove : p.isNameable = true := by
    simp only [Path.isNameable, Path.parts_below, List.all_append, Bool.and_eq_true] at named
    exact named.1
  rw [isDirectory_iff, stat_some_iff]
  refine ⟨namedAbove, k, locate_ok_iff.mpr ⟨?_, above⟩, there⟩
  -- a path that is too long could not have been looked at
  apply Classical.byContradiction
  intro long
  simp [isDirectory, stat, namedAbove, locate, long, Except.map] at looked

/-- A name that is too long is refused, whether there is something at it or not. -/
theorem stat_ofText_of_long (there : d.entry? d.workingDirectory = some .directory)
    (isPart : Path.IsPart part) (nameable : '\x00' ∉ part.toList)
    (long : nameLimit < part.utf8ByteSize) :
    d.stat (.ofText part) = .error (refusal (.ofText part) .general) := by
  have read : Path.ofText part = ⟨.workingDirectory, [part]⟩ := by
    have written : (⟨.workingDirectory, [part]⟩ : Path).text = part := by
      simp [Path.text, Anchor.text]
    rw [← Path.ofText_text (p := ⟨.workingDirectory, [part]⟩) (by simpa using isPart), written]
  have refused : d.step d.workingDirectory part = .error .general := by
    simp only [step, there, if_neg (Nat.not_le.mpr long)]
  have located : d.locate ⟨.workingDirectory, [part]⟩ = .error .general := by
    simp only [locate, List.foldlM_cons, Path.origin, refused]
    split
    · rfl
    · rfl
  simp [stat, read, Path.isNameable, nameable, located]

/-- What can be found at a location other than the root is an entry of the disk. -/
theorem mem_entries_of_entry? (h : d.entry? l = some e) (ne : l ≠ []) : (l, e) ∈ d.entries := by
  unfold entry? at h
  rw [if_neg ne] at h
  obtain ⟨f, found, rfl⟩ := Option.map_eq_some_iff.mp h
  have same : f.1 = l := by simpa using List.find?_some found
  exact same ▸ List.mem_of_find?_eq_some found

/-- What a file is found along, by names without double dots, is an entry of the disk: a directory,
if it is not the file. -/
theorem exists_entry_of_isFile_below (located : d.locate p = .ok l) (plain : ".." ∉ names)
    (ne : names ≠ []) (file : d.isFile (p.below (names ++ more)) = .ok true) :
    ∃ e, (l ++ names, e) ∈ d.entries ∧ (more ≠ [] → e = .directory) := by
  obtain ⟨content, file⟩ := isFile_iff.mp file
  obtain ⟨-, k, found, there⟩ := stat_some_iff.mp file
  have way := (locate_ok_iff.mp found).2
  obtain ⟨start, above, way⟩ := foldlM_step_append.mp way
  obtain rfl : start = l := Except.ok.inj (above.symm.trans (locate_ok_iff.mp located).2)
  obtain ⟨between, along, below⟩ := foldlM_step_append.mp way
  obtain rfl := eq_append_of_foldlM_step along plain
  have listed {e : Entry} (there : d.entry? (start ++ names) = some e) :
      (start ++ names, e) ∈ d.entries :=
    mem_entries_of_entry? there (List.append_ne_nil_of_right_ne_nil _ ne)
  by_cases last : more = []
  · subst last
    cases below
    exact ⟨_, listed there, (absurd rfl ·)⟩
  · exact ⟨.directory, listed (directory_of_foldlM_step last below), fun _ ↦ rfl⟩

/-- A path leads to a place below that of another. -/
def IsUnder (d : Disk) (p q : Path) : Prop :=
  ∃ l names, names ≠ [] ∧ d.locate p = .ok l ∧ d.locate q = .ok (l ++ names)

/-- A file below a path by names without double dots is under it, if the path can be looked at. -/
theorem isUnder_of_isFile_below (directory : d.isDirectory p = .ok true) (plain : ".." ∉ names)
    (ne : names ≠ []) (file : d.isFile (p.below names) = .ok true) :
    d.IsUnder p (p.below names) := by
  obtain ⟨-, l, located, -⟩ := stat_some_iff.mp (isDirectory_iff.mp directory)
  obtain ⟨content, file⟩ := isFile_iff.mp file
  obtain ⟨-, k, found, -⟩ := stat_some_iff.mp file
  exact ⟨l, names, ne, located, eq_append_of_locate_below located found plain ▸ found⟩

/-! ### Names on a disk -/

/-- Every name on the disk can be the name of a file or a directory. -/
def WellNamed (d : Disk) : Prop := ∀ f ∈ d.entries, ∀ name ∈ f.1, Path.IsName name

/-- The names on a disk can be looked through. -/
instance (d : Disk) : Decidable d.WellNamed :=
  inferInstanceAs (Decidable (∀ f ∈ d.entries, ∀ name ∈ f.1, Path.IsName name))

private theorem isPart_of_foldlM_step (well : d.WellNamed) (h : names.foldlM d.step l = .ok k)
    (there : d.entry? k = some e) : ∀ part ∈ names, Path.IsPart part := by
  induction names generalizing l with
  | nil => nofun
  | cons name names ih =>
    rw [List.foldlM_cons] at h
    obtain ⟨next, hs, hr⟩ := bind_eq_ok.mp h
    refine List.forall_mem_cons.mpr ⟨?_, ih hr⟩
    -- the way goes on from what is found after the first step, or it ends there
    have found : ∃ e, d.entry? next = some e := by
      by_cases last : names = []
      · subst last
        cases hr
        exact ⟨e, there⟩
      · exact ⟨_, directory_of_foldlM_step last hr⟩
    obtain ⟨e, found⟩ := found
    by_cases back : name = ".."
    · exact back ▸ Path.isPart_back
    · rw [(step_ok_iff.mp hs).2.2, Path.follow, if_neg back] at found
      have listed := mem_entries_of_entry? found (List.append_ne_nil_of_right_ne_nil _ (by simp))
      exact (well _ listed name (by simp)).toIsPart

/-- The path of a file can be written. -/
theorem isPart_of_isFile (well : d.WellNamed) (h : d.isFile p = .ok true) :
    ∀ part ∈ p.parts, Path.IsPart part := by
  obtain ⟨content, file⟩ := isFile_iff.mp h
  obtain ⟨-, l, located, there⟩ := stat_some_iff.mp file
  exact isPart_of_foldlM_step well (locate_ok_iff.mp located).2 there

end Disk

end Playbook
