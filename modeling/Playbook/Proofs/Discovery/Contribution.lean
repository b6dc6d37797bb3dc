import Mathlib.Data.List.Sort
import Playbook.Discovery
import Playbook.Proofs.Glob.Search
import Playbook.Proofs.Text.Order

/-!
# What an argument contributes

A directory contributes the files that some pattern leads to from it (`Offers`), each once and in
the order of their parts. There is only one list with these members in this order, so it does not
matter in which order patterns are given or how often (`inDirectory_congr`). A file contributes
itself; an argument that is neither is missing.
-/

namespace Playbook

namespace Path

/-- The order of paths: by the first parts that differ. -/
def Precedes (p q : Path) : Prop := List.Lex Text.Precedes p.parts q.parts

/-- A path that stands before a second one stands before all that come after that. -/
theorem Precedes.trans {p q r : Path} (h : p.Precedes q) (h' : q.Precedes r) : p.Precedes r :=
  List.lex_trans Text.Precedes.trans h h'

/-- No two paths stand before each other. -/
instance : Std.Asymm Precedes where
  asymm p _ h h' := Text.decides_order.lexicographic.irrefl p.parts (h.trans h')

/-- A path may stand before another unless that one precedes it. -/
theorem le_iff {p q : Path} : p.le q = true ↔ ¬q.Precedes p := by
  rw [le, bne_iff_ne, ne_eq, not_congr (Text.decides_order.lexicographic p.parts q.parts).gt]
  rfl

/-- Of two paths with the same anchor, one precedes the other. -/
theorem precedes_or_precedes {p q : Path} (anchor : p.anchor = q.anchor) (ne : p ≠ q) :
    p.Precedes q ∨ q.Precedes p := by
  obtain h | h | h := Text.decides_order.lexicographic.trichotomy p.parts q.parts
  · exact .inl h
  · exact absurd (by cases p; cases q; cases anchor; cases h; rfl) ne
  · exact .inr h

/-- Of two paths, one may stand before the other. -/
theorem le_total (p q : Path) : (p.le q || q.le p) = true := by
  rw [Bool.or_eq_true, le_iff, le_iff, ← not_and_or]
  exact fun h ↦ Std.Asymm.asymm _ _ h.1 h.2

/-- A path that may stand before a second one may stand before all that may come after that. -/
theorem le_trans (p q r : Path) (h : p.le q = true) (h' : q.le r = true) : p.le r = true := by
  rw [le_iff] at h h' ⊢
  intro back
  obtain h'' | h'' | h'' := Text.decides_order.lexicographic.trichotomy p.parts q.parts
  · exact h' (back.trans h'')
  · exact h' (show List.Lex _ _ _ from h'' ▸ back)
  · exact h h''

end Path

/-! ### Members that are not listed yet -/

section unlisted

variable {found paths : List Path} {q : Path}

/-- What is new is what was not found before. -/
theorem mem_unlisted : q ∈ unlisted found paths ↔ q ∈ paths ∧ q ∉ found := by
  induction paths generalizing found with
  | nil => simp [unlisted]
  | cons p rest ih =>
    unfold unlisted
    split
    next listed =>
      rw [ih, List.mem_cons]
      constructor
      · exact fun h ↦ ⟨.inr h.1, h.2⟩
      · rintro ⟨rfl | h, fresh⟩
        · exact absurd (List.contains_iff_mem.mp listed) fresh
        · exact ⟨h, fresh⟩
    next fresh =>
      simp only [List.contains_iff_mem] at fresh
      rw [List.mem_cons, ih, List.mem_cons, List.mem_append, List.mem_singleton]
      by_cases h : q = p
      · simp [h, fresh]
      · simp [h]

private theorem nodup_unlisted : (unlisted found paths).Nodup := by
  induction paths generalizing found with
  | nil => exact .nil
  | cons p rest ih =>
    unfold unlisted
    split
    · exact ih
    · refine List.nodup_cons.mpr ⟨fun h ↦ (mem_unlisted.mp h).2 ?_, ih⟩
      exact List.mem_append_right found List.mem_cons_self

/-- What is new is listed in the order in which it is met. -/
theorem unlisted_sublist : (unlisted found paths).Sublist paths := by
  induction paths generalizing found with
  | nil => exact .slnil
  | cons p rest ih =>
    unfold unlisted
    split
    · exact ih.cons p
    · exact ih.cons_cons p

/-- Of members that are all listed, none is left. -/
theorem unlisted_eq_nil (h : ∀ p ∈ paths, p ∈ found) : unlisted found paths = [] :=
  List.eq_nil_iff_forall_not_mem.mpr fun p hp ↦
    (mem_unlisted.mp hp).2 (h p (mem_unlisted.mp hp).1)

/-- A list stays listed after itself. -/
theorem nodup_append_unlisted (h : found.Nodup) : (found ++ unlisted found paths).Nodup :=
  List.nodup_append'.mpr ⟨h, nodup_unlisted, fun _ listed fresh ↦ (mem_unlisted.mp fresh).2 listed⟩

end unlisted

namespace Discovery

variable {d : Disk} {patterns patterns' : List String} {p q : Path} {argument text : String}
  {found more : List Path}

/-! ### Directories -/

/-- A pattern leads from a directory to a file. -/
structure Offers (d : Disk) (patterns : List String) (p q : Path) : Prop where
  file : d.isFile q = .ok true
  led : ∃ text ∈ patterns, ∃ pattern, Glob.Pattern.ofText text = .ok pattern ∧
    ∃ names, Glob.Fits pattern names ∧ q = p.below names

/-- The files that one pattern finds below a directory. -/
private def matching (d : Disk) (p : Path) (text : String) : Except Fault (List Path) := do
  (← (← Glob.Pattern.ofText text).below d p).filterM d.isFile

private theorem mem_matching_iff (well : d.WellNamed) (start : d.isDirectory p = .ok true)
    (went : matching d p text = .ok found) :
    q ∈ found ↔ d.isFile q = .ok true ∧ ∃ pattern, Glob.Pattern.ofText text = .ok pattern ∧
      ∃ names, Glob.Fits pattern names ∧ q = p.below names := by
  obtain ⟨pattern, read, went⟩ := bind_eq_ok.mp went
  obtain ⟨below, searched, kept⟩ := bind_eq_ok.mp went
  rw [(filterM_ok kept).2, and_comm]
  refine and_congr_right fun file ↦ ?_
  rw [pattern.mem_below_iff well start searched file, read]
  simp only [Except.ok.injEq, exists_eq_left']

private theorem inDirectory_ok (went : inDirectory d patterns p = .ok found) :
    ∃ lists, patterns.mapM (matching d p) = .ok lists ∧
      found = (unlisted [] lists.flatten).mergeSort Path.le := by
  obtain ⟨lists, each, done⟩ := bind_eq_ok.mp went
  exact ⟨lists, each, (Except.ok.inj done).symm⟩

/-- A directory contributes the files that patterns lead to from it. -/
theorem mem_inDirectory_iff (well : d.WellNamed) (start : d.isDirectory p = .ok true)
    (went : inDirectory d patterns p = .ok found) : q ∈ found ↔ Offers d patterns p q := by
  obtain ⟨lists, each, rfl⟩ := inDirectory_ok went
  rw [List.mem_mergeSort, mem_unlisted, mem_flatten_of_mapM_ok each]
  constructor
  · rintro ⟨⟨text, given, bs, went, h⟩, -⟩
    obtain ⟨file, led⟩ := (mem_matching_iff well start went).mp h
    exact ⟨file, text, given, led⟩
  · rintro ⟨file, text, given, led⟩
    obtain ⟨bs, went⟩ := exists_mapM_ok_iff.mp ⟨lists, each⟩ text given
    exact ⟨⟨text, given, bs, went, (mem_matching_iff well start went).mpr ⟨file, led⟩⟩, nofun⟩

/-- Patterns without double dots lead from a directory to files under it. -/
theorem Offers.isUnder (h : Offers d patterns p q) (directory : d.isDirectory p = .ok true)
    (plain : ∀ text ∈ patterns, ".." ∉ (Path.ofText text).parts) : d.IsUnder p q := by
  obtain ⟨text, given, pattern, read, names, fits, rfl⟩ := h.led
  refine Disk.isUnder_of_isFile_below directory ?_ ?_ h.file
  · exact fits.plain fun named ↦ plain text given (Glob.Pattern.mem_parts_of_ofText read named)
  · rintro rfl
    refine Disk.not_isDirectory_of_isFile h.file ?_
    rwa [Path.below_nil]

private theorem Offers.anchor_eq (h : Offers d patterns p q) : q.anchor = p.anchor := by
  obtain ⟨-, -, -, -, names, -, rfl⟩ := h.led
  exact Path.anchor_below p names

/-- What a directory contributes is in order, each file once. -/
theorem pairwise_inDirectory (well : d.WellNamed) (start : d.isDirectory p = .ok true)
    (went : inDirectory d patterns p = .ok found) : found.Pairwise Path.Precedes := by
  have anchor {q : Path} (h : q ∈ found) : q.anchor = p.anchor :=
    ((mem_inDirectory_iff well start went).mp h).anchor_eq
  obtain ⟨lists, each, rfl⟩ := inDirectory_ok went
  have sorted := List.pairwise_mergeSort Path.le_trans Path.le_total (unlisted [] lists.flatten)
  have apart : ((unlisted [] lists.flatten).mergeSort Path.le).Nodup :=
    (List.mergeSort_perm _ _).nodup_iff.mpr nodup_unlisted
  refine (sorted.and apart).imp_of_mem fun {q r} hq hr h ↦ ?_
  have order := Path.precedes_or_precedes ((anchor hq).trans (anchor hr).symm) h.2
  exact order.resolve_right (Path.le_iff.mp h.1)

/-- It does not matter in which order patterns are given, or how often. -/
theorem inDirectory_congr (well : d.WellNamed) (start : d.isDirectory p = .ok true)
    (same : ∀ text, text ∈ patterns ↔ text ∈ patterns')
    (went : inDirectory d patterns p = .ok found) : inDirectory d patterns' p = .ok found := by
  obtain ⟨lists, each, -⟩ := inDirectory_ok went
  obtain ⟨lists', each'⟩ : ∃ lists', patterns'.mapM (matching d p) = .ok lists' :=
    exists_mapM_ok_iff.mpr fun text given ↦
      exists_mapM_ok_iff.mp ⟨lists, each⟩ text ((same text).mpr given)
  have went' : inDirectory d patterns' p =
      .ok ((unlisted [] lists'.flatten).mergeSort Path.le) :=
    bind_eq_ok.mpr ⟨lists', each', rfl⟩
  have members (q : Path) :
      q ∈ (unlisted [] lists'.flatten).mergeSort Path.le ↔ q ∈ found := by
    rw [mem_inDirectory_iff well start went', mem_inDirectory_iff well start went]
    constructor
    · exact fun h ↦ ⟨h.file, h.led.imp fun text led ↦ ⟨(same text).mpr led.1, led.2⟩⟩
    · exact fun h ↦ ⟨h.file, h.led.imp fun text led ↦ ⟨(same text).mp led.1, led.2⟩⟩
  rw [went', (pairwise_inDirectory well start went').eq_of_mem_iff
    (pairwise_inDirectory well start went) members]

/-! ### Arguments -/

/-- An argument that names neither a file nor a directory. -/
structure Missing (d : Disk) (argument : String) : Prop where
  noFile : d.isFile (.ofText argument) = .ok false
  noDirectory : d.isDirectory (.ofText argument) = .ok false

/-- A file contributes itself. -/
theorem candidates_of_file (file : d.isFile (.ofText argument) = .ok true) :
    candidates d patterns argument = .ok [.ofText argument] := by
  simp only [candidates, file, bind, Except.bind, if_true, pure, Except.pure]

/-- A directory contributes what is found in it. -/
theorem candidates_of_directory (directory : d.isDirectory (.ofText argument) = .ok true) :
    candidates d patterns argument = inDirectory d patterns (.ofText argument) := by
  have file : d.isFile (.ofText argument) = .ok false := by
    simp [Disk.isFile, Disk.isDirectory_iff.mp directory, Except.map, Entry.isFile]
  simp [candidates, file, directory, bind, Except.bind]

/-- The error of an argument that is missing. -/
def notFound (argument : String) : Fault :=
  ⟨.disk .fileNotFound, "Script path not found: " ++ (Path.ofText argument).text⟩

/-- What is missing is an error that tells its path. -/
theorem candidates_of_missing (missing : Missing d argument) :
    candidates d patterns argument = .error (notFound argument) := by
  simp [candidates, notFound, missing.noFile, missing.noDirectory, bind, Except.bind, throw,
    throwThe, MonadExceptOf.throw]

/-- What contributes is a file or a directory. -/
theorem candidates_ok (went : candidates d patterns argument = .ok more) :
    (d.isFile (.ofText argument) = .ok true ∧ more = [.ofText argument]) ∨
      (d.isDirectory (.ofText argument) = .ok true ∧
        inDirectory d patterns (.ofText argument) = .ok more) := by
  obtain ⟨isFile, file, rest⟩ := bind_eq_ok.mp went
  cases isFile with
  | true => exact .inl ⟨file, (Except.ok.inj rest).symm⟩
  | false =>
    obtain ⟨isDirectory, directory, rest⟩ := bind_eq_ok.mp rest
    cases isDirectory with
    | true => exact .inr ⟨directory, rest⟩
    | false => cases rest

/-- Only files are contributed. -/
theorem isFile_of_mem_candidates (well : d.WellNamed)
    (went : candidates d patterns argument = .ok more) (h : q ∈ more) : d.isFile q = .ok true := by
  obtain ⟨file, rfl⟩ | ⟨directory, went⟩ := candidates_ok went
  · exact List.mem_singleton.mp h ▸ file
  · exact ((mem_inDirectory_iff well directory went).mp h).file

/-- An argument contributes the same for the same patterns. -/
theorem candidates_congr (well : d.WellNamed) (same : ∀ text, text ∈ patterns ↔ text ∈ patterns')
    (went : candidates d patterns argument = .ok more) :
    candidates d patterns' argument = .ok more := by
  obtain ⟨file, rfl⟩ | ⟨directory, went⟩ := candidates_ok went
  · exact candidates_of_file file
  · rw [candidates_of_directory directory]
    exact inDirectory_congr well directory same went

/-! ### Arguments that end the search -/

section failing

variable {P : Fault → Prop}

private theorem failsWith_inDirectory (looking : ∀ p, FailsWith P (d.stat p))
    (reading : ∀ text ∈ patterns, FailsWith P (Glob.Pattern.ofText text)) (p : Path) :
    FailsWith P (inDirectory d patterns p) := by
  refine .bind (.mapM fun text given ↦ ?_) fun _ _ ↦ .ok _
  refine .bind (reading text given) fun pattern _ ↦ ?_
  exact .bind (pattern.failsWith_below looking p) fun _ _ ↦ .filterM fun q _ ↦ .map (looking q)

/-- An argument ends the search with what looking at a path or reading a pattern fails with, or
because it is missing. -/
theorem failsWith_candidates (looking : ∀ p, FailsWith P (d.stat p))
    (reading : ∀ text ∈ patterns, FailsWith P (Glob.Pattern.ofText text))
    (missing : Missing d argument → P (notFound argument)) :
    FailsWith P (candidates d patterns argument) := by
  refine .bind (.map (looking _)) fun isFile file ↦ ?_
  cases isFile with
  | true => exact .ok _
  | false =>
    refine .bind (.map (looking _)) fun isDirectory directory ↦ ?_
    cases isDirectory with
    | true => exact failsWith_inDirectory looking reading _
    | false => exact .error (missing ⟨file, directory⟩)

end failing

end Discovery

end Playbook
