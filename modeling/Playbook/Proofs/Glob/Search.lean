import Playbook.Glob.Search
import Playbook.Proofs.Disk.Location

/-!
# What a search finds

`Fits` says of selectors which names they lead along, without a disk. On a disk a search that goes
through finds, of all files, exactly those that its selectors lead to (`mem_select_iff`): a file is
on the disk with the directories above it, so no part of the search can miss it. A search that does
not go through ends with a path that could not be looked at (`failsWith_select`).
-/

namespace Playbook.Glob

variable {d : Disk} {p q : Path} {l : Location} {names : List String} {selectors : List Selector}
  {found : List Path}

/-- The names that selectors lead along to a file. Names that are matched and directories at any
depth are those that a directory lists, so no double dot is among them. -/
inductive Fits : List Selector → List String → Prop
  | done : Fits [] []
  | named {name : String} {rest : List Selector} {names : List String} (fits : Fits rest names) :
      Fits (.named name :: rest) (name :: names)
  | like {tokens : List Token} {name : String} {rest : List Selector} {names : List String}
      (listed : name ≠ "..") (matching : matchesName tokens name.toList = true)
      (fits : Fits rest names) : Fits (.like tokens :: rest) (name :: names)
  | everywhere {above : List String} {rest : List Selector} {names : List String}
      (listed : ".." ∉ above) (ne : names ≠ []) (fits : Fits rest names) :
      Fits (.everywhere :: rest) (above ++ names)

/-- Selectors lead to a file along at least one name. -/
theorem Fits.names_ne_nil (fits : Fits selectors names) (ne : selectors ≠ []) : names ≠ [] := by
  cases fits with
  | done => exact absurd rfl ne
  | named | like => exact List.cons_ne_nil _ _
  | everywhere _ going _ => exact List.append_ne_nil_of_right_ne_nil _ going

/-- Selectors lead along a double dot only where they name it. -/
theorem Fits.plain (fits : Fits selectors names) (plain : .named ".." ∉ selectors) :
    ".." ∉ names := by
  induction fits with
  | done => nofun
  | named _ ih =>
    obtain ⟨hn, hr⟩ := not_or.mp (mt List.mem_cons.mpr plain)
    refine mt List.mem_cons.mp (not_or.mpr ⟨?_, ih hr⟩)
    rintro rfl
    exact hn rfl
  | like listed _ _ ih =>
    exact mt List.mem_cons.mp (not_or.mpr ⟨listed.symm, ih (mt (List.mem_cons_of_mem _) plain)⟩)
  | everywhere listed _ _ ih =>
    exact mt List.mem_append.mp (not_or.mpr ⟨listed, ih (mt (List.mem_cons_of_mem _) plain)⟩)

/-- A pattern names the parts that it is written with. -/
theorem Pattern.mem_parts_of_ofText {text name : String} {pattern : Pattern}
    (read : ofText text = .ok pattern) (h : .named name ∈ pattern) :
    name ∈ (Path.ofText text).parts := by
  have ofPart {part : String} (read : Selector.ofPart part = .ok (.named name)) : part = name := by
    unfold Selector.ofPart at read
    grind
  obtain ⟨selectors, each, rfl⟩ : ∃ selectors,
      (Path.ofText text).parts.mapM Selector.ofPart = .ok selectors ∧
        pattern = .everywhere :: selectors ++
          (if text.toList.getLast? = some '/' then [.here] else []) := by
    simp only [ofText] at read
    split at read
    next => cases read
    next =>
      obtain ⟨selectors, each, done⟩ := bind_eq_ok.mp read
      exact ⟨selectors, each, (Except.ok.inj done).symm⟩
  have listed : .named name ∈ selectors := by
    split at h
    · simpa using h
    · simpa using h
  obtain ⟨part, hp, read⟩ := exists_of_mem_of_mapM_ok each listed
  exact ofPart read ▸ hp

/-! ### What a directory lists -/

/-- What is below a directory are the entries of the disk at locations below it. -/
theorem mem_descendants_iff (located : d.locate p = .ok l) {e : Entry} :
    (names, e) ∈ descendants d p ↔ names ≠ [] ∧ (l ++ names, e) ∈ d.entries := by
  simp only [descendants, located, List.mem_filterMap]
  constructor
  · rintro ⟨⟨k, f⟩, listed, kept⟩
    split at kept
    next below =>
      obtain ⟨rfl, rfl⟩ := Prod.mk.inj (Option.some.inj kept)
      simp only [Bool.and_eq_true, List.isPrefixOf_iff_prefix, bne_iff_ne, ne_eq] at below
      obtain ⟨⟨names, rfl⟩, proper⟩ := below
      rw [List.drop_left]
      exact ⟨fun h ↦ proper (by rw [h, List.append_nil]), listed⟩
    next => cases kept
  · rintro ⟨ne, listed⟩
    refine ⟨_, listed, ?_⟩
    rw [if_pos (by simp [ne]), List.drop_left]

/-- The names in a directory are the single names below it. -/
theorem mem_namesIn_iff {name : String} :
    name ∈ namesIn d p ↔ ∃ e, ([name], e) ∈ descendants d p := by
  simp only [namesIn, List.mem_filterMap]
  constructor
  · rintro ⟨⟨names, e⟩, listed, kept⟩
    split at kept
    next single =>
      obtain rfl := Option.some.inj kept
      exact ⟨e, (show names = _ from single) ▸ listed⟩
    next => cases kept
  · rintro ⟨e, listed⟩
    exact ⟨_, listed, rfl⟩

/-- A listed name is no double dot. -/
theorem plain_of_mem_descendants (well : d.WellNamed) {e : Entry}
    (h : (names, e) ∈ descendants d p) : ".." ∉ names := by
  cases located : d.locate p with
  | ok l =>
    have listed := ((mem_descendants_iff located).mp h).2
    exact fun back ↦ (well _ listed ".." (List.mem_append_right l back)).notBack rfl
  | error kind => simp [descendants, located] at h

private theorem exists_mem_descendants {above : List String} (start : d.isDirectory p = .ok true)
    (plain : ".." ∉ above) (ne : above ≠ [])
    (file : d.isFile (p.below (above ++ names)) = .ok true) :
    ∃ e, (above, e) ∈ descendants d p ∧ (names ≠ [] → e = .directory) := by
  obtain ⟨-, l, located, -⟩ := Disk.stat_some_iff.mp (Disk.isDirectory_iff.mp start)
  obtain ⟨e, listed, between⟩ := Disk.exists_entry_of_isFile_below located plain ne file
  exact ⟨e, (mem_descendants_iff located).mpr ⟨ne, listed⟩, between⟩

/-- What a search goes on from at any depth: the directory itself and every directory below it. -/
theorem mem_directories_iff (start : d.isDirectory p = .ok true)
    (went : directories d p = .ok found) :
    q ∈ found ↔ ∃ above, (above = [] ∨ (above, .directory) ∈ descendants d p) ∧
      q = p.below above ∧ d.isDirectory q = .ok true := by
  obtain ⟨below, kept, done⟩ := bind_eq_ok.mp went
  obtain rfl : p :: below = found := Except.ok.inj done
  rw [List.mem_cons, (filterM_ok kept).2, List.mem_map]
  constructor
  · rintro (rfl | ⟨⟨⟨names, e⟩, below, rfl⟩, there⟩)
    · exact ⟨[], .inl rfl, (Path.below_nil q).symm, start⟩
    · obtain ⟨below, directory⟩ := List.mem_filter.mp below
      cases e with
      | directory => exact ⟨names, .inr below, rfl, there⟩
      | file content => cases directory
  · rintro ⟨above, rfl | below, rfl, there⟩
    · exact .inl (Path.below_nil p)
    · exact .inr ⟨⟨(above, .directory), List.mem_filter.mpr ⟨below, rfl⟩, rfl⟩, there⟩

/-- A search goes on, at any depth, from every directory above a file. -/
theorem mem_directories_of_isFile_below {above : List String} (start : d.isDirectory p = .ok true)
    (went : directories d p = .ok found) (plain : ".." ∉ above) (ne : names ≠ [])
    (file : d.isFile (p.below (above ++ names)) = .ok true) :
    p.below above ∈ found ∧ d.isDirectory (p.below above) = .ok true := by
  by_cases here : above = []
  · subst here
    rw [Path.below_nil]
    have listed := (mem_directories_iff start went).mpr
      ⟨[], .inl rfl, (Path.below_nil p).symm, start⟩
    exact ⟨listed, start⟩
  · obtain ⟨e, below, between⟩ := exists_mem_descendants start plain here file
    obtain rfl := between ne
    obtain ⟨kept, chosen, -⟩ := bind_eq_ok.mp went
    obtain ⟨b, looked⟩ := (filterM_ok chosen).1 (p.below above)
      (List.mem_map.mpr ⟨(above, .directory), List.mem_filter.mpr ⟨below, rfl⟩, rfl⟩)
    rw [← Path.below_below] at file
    have directory := Disk.isDirectory_of_isFile_below file ne looked
    exact ⟨(mem_directories_iff start went).mpr ⟨above, .inr below, rfl, directory⟩, directory⟩

/-! ### What is found -/

-- Where selectors lead to a file from, is a directory, if it can be looked at; and if there are no
-- more selectors, it is the file.
private theorem leads_of_fits {b : Bool} (fits : Fits selectors names)
    (file : d.isFile (p.below names) = .ok true) (looked : leads d selectors p = .ok b) :
    leads d selectors p = .ok true := by
  unfold leads at looked ⊢
  cases selectors with
  | nil =>
    cases fits
    rw [Path.below_nil] at file
    obtain ⟨content, there⟩ := Disk.isFile_iff.mp file
    simp [Disk.occupied, there, Except.map]
  | cons selector rest =>
    exact Disk.isDirectory_of_isFile_below file (fits.names_ne_nil (List.cons_ne_nil _ _)) looked

private theorem isDirectory_of_leads (leading : leads d selectors p = .ok true)
    (ne : selectors ≠ []) : d.isDirectory p = .ok true := by
  unfold leads at leading
  rwa [if_neg (by simpa using ne)] at leading

/-- A search that goes through finds, of all files, those that its selectors lead to. -/
private def FindsFitting (d : Disk) (selectors : List Selector) : Prop :=
  ∀ {p q : Path} {found : List Path}, select d selectors p = .ok found →
    (selectors ≠ [] → d.isDirectory p = .ok true) → d.isFile q = .ok true →
    (q ∈ found ↔ ∃ names, Fits selectors names ∧ q = p.below names)

section selectors

variable {rest : List Selector}

private theorem findsFitting_nil : FindsFitting d [] := by
  intro p q found went _ _
  cases went
  rw [List.mem_singleton]
  constructor
  · rintro rfl
    exact ⟨[], .done, (Path.below_nil _).symm⟩
  · rintro ⟨_, ⟨⟩, rfl⟩
    exact Path.below_nil p

private theorem findsFitting_here : FindsFitting d (.here :: rest) := by
  intro p q found went start file
  cases went
  rw [List.mem_singleton]
  constructor
  · rintro rfl
    exact absurd (start (List.cons_ne_nil _ _)) (Disk.not_isDirectory_of_isFile file)
  · rintro ⟨_, ⟨⟩, -⟩

private theorem findsFitting_named {name : String} (ih : FindsFitting d rest) :
    FindsFitting d (.named name :: rest) := by
  intro p q found went _ file
  obtain ⟨leading, looked, went⟩ := bind_eq_ok.mp went
  constructor
  · intro h
    cases leading with
    | false =>
      cases went
      cases h
    | true =>
      obtain ⟨names, fits, rfl⟩ := (ih went (isDirectory_of_leads looked) file).mp h
      exact ⟨name :: names, .named fits, (Path.below_cons _ _ _).symm⟩
  · rintro ⟨_, fits, rfl⟩
    cases fits with
    | named fits =>
      rw [Path.below_cons] at file ⊢
      have leads := leads_of_fits fits file looked
      obtain rfl : leading = true := Except.ok.inj (looked.symm.trans leads)
      exact (ih went (isDirectory_of_leads looked) file).mpr ⟨_, fits, rfl⟩

private theorem findsFitting_like (well : d.WellNamed) {tokens : List Token}
    (ih : FindsFitting d rest) : FindsFitting d (.like tokens :: rest) := by
  intro p q found went start file
  obtain ⟨leading, kept, went⟩ := bind_eq_ok.mp went
  obtain ⟨lists, each, done⟩ := bind_eq_ok.mp went
  obtain rfl : lists.flatten = found := Except.ok.inj done
  obtain ⟨looked, chosen⟩ := filterM_ok kept
  rw [mem_flatten_of_mapM_ok each]
  constructor
  · rintro ⟨r, hr, bs, went, h⟩
    obtain ⟨listed, leads⟩ := (chosen r).mp hr
    obtain ⟨name, hn, rfl⟩ := List.mem_map.mp listed
    obtain ⟨listed, matching⟩ := List.mem_filter.mp hn
    obtain ⟨e, below⟩ := mem_namesIn_iff.mp listed
    have plain : name ≠ ".." := by
      rintro rfl
      exact plain_of_mem_descendants well below List.mem_cons_self
    obtain ⟨names, fits, rfl⟩ := (ih went (isDirectory_of_leads leads) file).mp h
    exact ⟨name :: names, .like plain matching fits, (Path.below_cons _ _ _).symm⟩
  · rintro ⟨_, fits, rfl⟩
    cases fits with
    | @like _ name _ names plain matching fits =>
      -- the file is on the disk with what is above it, so its name is listed
      have alone : ".." ∉ [name] := mt List.mem_singleton.mp (Ne.symm plain)
      obtain ⟨e, below, -⟩ :=
        exists_mem_descendants (start (List.cons_ne_nil _ _)) alone (List.cons_ne_nil _ _) file
      have listed : p.child name ∈ ((namesIn d p).filter fun name ↦
          matchesName tokens name.toList).map p.child :=
        List.mem_map_of_mem
          (List.mem_filter.mpr ⟨mem_namesIn_iff.mpr ⟨e, below⟩, matching⟩)
      rw [Path.below_cons] at file ⊢
      obtain ⟨b, leads⟩ := looked _ listed
      have leads := leads_of_fits fits file leads
      have kept := (chosen _).mpr ⟨listed, leads⟩
      obtain ⟨bs, went⟩ := exists_mapM_ok_iff.mp ⟨lists, each⟩ _ kept
      exact ⟨_, kept, bs, went,
        (ih went (isDirectory_of_leads leads) file).mpr ⟨names, fits, rfl⟩⟩

private theorem findsFitting_everywhere (well : d.WellNamed) (ih : FindsFitting d rest) :
    FindsFitting d (.everywhere :: rest) := by
  intro p q found went start file
  have start := start (List.cons_ne_nil _ _)
  obtain ⟨starts, gone, went⟩ := bind_eq_ok.mp went
  obtain ⟨lists, each, done⟩ := bind_eq_ok.mp went
  obtain rfl : lists.flatten = found := Except.ok.inj done
  rw [mem_flatten_of_mapM_ok each]
  constructor
  · rintro ⟨r, hr, bs, went, h⟩
    obtain ⟨above, listed, rfl, directory⟩ := (mem_directories_iff start gone).mp hr
    have plain : ".." ∉ above := by
      obtain rfl | below := listed
      · nofun
      · exact plain_of_mem_descendants well below
    obtain ⟨names, fits, rfl⟩ := (ih went (fun _ ↦ directory) file).mp h
    -- no directory is a file, so the rest of the selectors has led on
    have ne : names ≠ [] := by
      rintro rfl
      rw [Path.below_nil] at file
      exact Disk.not_isDirectory_of_isFile file directory
    exact ⟨above ++ names, .everywhere plain ne fits, Path.below_below _ _ _⟩
  · rintro ⟨_, fits, rfl⟩
    cases fits with
    | @everywhere above _ names plain ne fits =>
      have reached := mem_directories_of_isFile_below start gone plain ne file
      obtain ⟨bs, went⟩ := exists_mapM_ok_iff.mp ⟨lists, each⟩ _ reached.1
      rw [← Path.below_below] at file ⊢
      exact ⟨_, reached.1, bs, went, (ih went (fun _ ↦ reached.2) file).mpr ⟨names, fits, rfl⟩⟩

end selectors

/-- A search that goes through finds, of all files, those that its selectors lead to. -/
theorem mem_select_iff (well : d.WellNamed) (went : select d selectors p = .ok found)
    (start : selectors ≠ [] → d.isDirectory p = .ok true) (file : d.isFile q = .ok true) :
    q ∈ found ↔ ∃ names, Fits selectors names ∧ q = p.below names := by
  have finds : FindsFitting d selectors := by
    clear went start
    induction selectors with
    | nil => exact findsFitting_nil
    | cons selector rest ih =>
      cases selector with
      | everywhere => exact findsFitting_everywhere well ih
      | named name => exact findsFitting_named ih
      | like tokens => exact findsFitting_like well ih
      | here => exact findsFitting_here
  exact finds went start file

/-- A pattern finds below a directory the files that it leads to. -/
theorem Pattern.mem_below_iff (well : d.WellNamed) {pattern : Pattern}
    (start : d.isDirectory p = .ok true) (went : pattern.below d p = .ok found)
    (file : d.isFile q = .ok true) :
    q ∈ found ↔ ∃ names, Fits pattern names ∧ q = p.below names := by
  obtain ⟨there, looked, went⟩ := bind_eq_ok.mp went
  obtain rfl : there = true := Except.ok.inj (looked.symm.trans start)
  exact mem_select_iff well went (fun _ ↦ start) file

/-! ### Searches that end early -/

section failing

variable {P : Fault → Prop}

private theorem failsWith_leads (looking : ∀ p, FailsWith P (d.stat p)) (p : Path) :
    FailsWith P (leads d selectors p) := by
  unfold leads
  split
  · exact .map (looking p)
  · exact .map (looking p)

/-- A search fails with what looking at a path fails with. -/
theorem failsWith_select (looking : ∀ p, FailsWith P (d.stat p)) (p : Path) :
    FailsWith P (select d selectors p) := by
  induction selectors generalizing p with
  | nil => exact .ok _
  | cons selector rest ih =>
    cases selector with
    | here => exact .ok _
    | everywhere =>
      have starts : FailsWith P (directories d p) :=
        .bind (.filterM fun q _ ↦ .map (looking q)) fun _ _ ↦ .ok _
      exact .bind starts fun _ _ ↦ .bind (.mapM fun q _ ↦ ih q) fun _ _ ↦ .ok _
    | named name =>
      refine .bind (failsWith_leads looking _) fun leading _ ↦ ?_
      cases leading with
      | false => exact .ok _
      | true => exact ih _
    | like tokens =>
      refine .bind (.filterM fun q _ ↦ failsWith_leads looking q) fun _ _ ↦ ?_
      exact .bind (.mapM fun q _ ↦ ih q) fun _ _ ↦ .ok _

/-- A search below a path fails only as looking at a path does. -/
theorem Pattern.failsWith_below (looking : ∀ p, FailsWith P (d.stat p)) (pattern : Pattern)
    (p : Path) : FailsWith P (pattern.below d p) := by
  refine .bind (.map (looking p)) fun there _ ↦ ?_
  cases there with
  | false => exact .ok _
  | true => exact failsWith_select looking p

end failing

end Playbook.Glob
