import Playbook.Proofs.Discovery.Contribution

/-!
# Stability of discovery

The scripts of some arguments come before those that further arguments add, and what an argument
adds is what it contributes without what is listed already. So it does not matter in which order
patterns are given, an argument that is given again adds nothing, and scripts that were found are
found again from their own paths (`scripts_stable`).
-/

namespace Playbook.Discovery

variable {d : Disk} {patterns patterns' arguments arguments' : List String} {p q : Path}
  {argument : String} {found more listed : List Path}

/-! ### One argument after another -/

private theorem scriptsAfter_cons_ok :
    scriptsAfter d patterns listed (argument :: arguments) = .ok found ↔
      ∃ more, candidates d patterns argument = .ok more ∧
        scriptsAfter d patterns (listed ++ unlisted listed more) arguments = .ok found :=
  bind_eq_ok

/-- The search goes on with further arguments after what was found for the first ones. -/
theorem scriptsAfter_append :
    scriptsAfter d patterns listed (arguments ++ arguments') =
      scriptsAfter d patterns listed arguments >>= fun found ↦
        scriptsAfter d patterns found arguments' := by
  induction arguments generalizing listed with
  | nil => rfl
  | cons argument arguments ih =>
    rw [List.cons_append, scriptsAfter, scriptsAfter]
    cases candidates d patterns argument with
    | ok more => exact ih
    | error f => rfl

/-- What holds of a list and of what an argument makes of it, holds of what is found. -/
theorem scriptsAfter_induction {I : List Path → Prop}
    (went : scriptsAfter d patterns listed arguments = .ok found) (start : I listed)
    (step : ∀ listed argument more, argument ∈ arguments →
      candidates d patterns argument = .ok more → I listed → I (listed ++ unlisted listed more)) :
    I found := by
  induction arguments generalizing listed with
  | nil => exact Except.ok.inj went ▸ start
  | cons argument arguments ih =>
    obtain ⟨more, contributed, went⟩ := scriptsAfter_cons_ok.mp went
    refine ih went (step _ _ _ List.mem_cons_self contributed start) ?_
    exact fun listed argument more given ↦ step listed argument more (.tail _ given)

private theorem prefix_of_scriptsAfter
    (went : scriptsAfter d patterns listed arguments = .ok found) :
    listed <+: found :=
  scriptsAfter_induction went List.prefix_rfl fun _ _ _ _ _ h ↦ h.trans (List.prefix_append _ _)

/-- Every script is found once. -/
theorem nodup_of_scripts (went : scripts d patterns arguments = .ok found) : found.Nodup :=
  scriptsAfter_induction went .nil fun _ _ _ _ _ h ↦ nodup_append_unlisted h

/-- The members of a list that was found are those that were listed before and those that some
argument contributes. -/
theorem mem_scriptsAfter_iff (went : scriptsAfter d patterns listed arguments = .ok found) :
    q ∈ found ↔ q ∈ listed ∨
      ∃ argument ∈ arguments, ∃ more, candidates d patterns argument = .ok more ∧ q ∈ more := by
  induction arguments generalizing listed with
  | nil =>
    cases went
    simp
  | cons argument arguments ih =>
    obtain ⟨more, contributed, went⟩ := scriptsAfter_cons_ok.mp went
    simp only [ih went, List.mem_append, mem_unlisted, List.exists_mem_cons_iff, contributed,
      Except.ok.injEq, exists_eq_left']
    grind

private theorem isFile_of_mem_scripts (well : d.WellNamed)
    (went : scripts d patterns arguments = .ok found) (h : q ∈ found) : d.isFile q = .ok true := by
  obtain h | ⟨argument, -, more, contributed, h⟩ := (mem_scriptsAfter_iff went).mp h
  · cases h
  · exact isFile_of_mem_candidates well contributed h

/-- The search goes through when every argument contributes. -/
theorem exists_scriptsAfter_ok_iff :
    (∃ found, scriptsAfter d patterns listed arguments = .ok found) ↔
      ∀ argument ∈ arguments, ∃ more, candidates d patterns argument = .ok more := by
  induction arguments generalizing listed with
  | nil => simp [scriptsAfter]
  | cons argument arguments ih =>
    simp only [scriptsAfter_cons_ok, List.forall_mem_cons]
    constructor
    · rintro ⟨found, more, contributed, went⟩
      exact ⟨⟨more, contributed⟩, ih.mp ⟨found, went⟩⟩
    · rintro ⟨⟨more, contributed⟩, rest⟩
      obtain ⟨found, went⟩ := ih.mpr rest
      exact ⟨found, more, contributed, went⟩

/-! ### The relations -/

/-- The patterns may be given in another order, and repeated. -/
theorem scriptsAfter_congr (well : d.WellNamed)
    (same : ∀ text, text ∈ patterns ↔ text ∈ patterns')
    (went : scriptsAfter d patterns listed arguments = .ok found) :
    scriptsAfter d patterns' listed arguments = .ok found := by
  induction arguments generalizing listed with
  | nil => exact went
  | cons argument arguments ih =>
    obtain ⟨more, contributed, went⟩ := scriptsAfter_cons_ok.mp went
    exact scriptsAfter_cons_ok.mpr ⟨more, candidates_congr well same contributed, ih went⟩

/-- An argument that is given again adds nothing. -/
theorem scripts_append_given (went : scripts d patterns arguments = .ok found)
    (given : argument ∈ arguments) : scripts d patterns (arguments ++ [argument]) = .ok found := by
  obtain ⟨more, contributed⟩ := exists_scriptsAfter_ok_iff.mp ⟨found, went⟩ argument given
  have listed : ∀ q ∈ more, q ∈ found := fun q h ↦
    (mem_scriptsAfter_iff went).mpr (.inr ⟨argument, given, more, contributed, h⟩)
  rw [scripts, scriptsAfter_append]
  refine bind_eq_ok.mpr ⟨found, went, scriptsAfter_cons_ok.mpr ⟨more, contributed, ?_⟩⟩
  rw [unlisted_eq_nil listed, List.append_nil]
  rfl

private theorem scriptsAfter_texts (files : ∀ q ∈ found, d.isFile q = .ok true)
    (written : ∀ q ∈ found, Path.ofText q.text = q) (apart : (listed ++ found).Nodup) :
    scriptsAfter d patterns listed (found.map Path.text) = .ok (listed ++ found) := by
  induction found generalizing listed with
  | nil =>
    rw [List.append_nil]
    rfl
  | cons q rest ih =>
    obtain ⟨file, files⟩ := List.forall_mem_cons.mp files
    obtain ⟨read, written⟩ := List.forall_mem_cons.mp written
    have fresh : q ∉ listed := fun h ↦
      (List.nodup_append'.mp apart).2.2 h List.mem_cons_self
    have contributed : candidates d patterns q.text = .ok [q] := by
      rw [candidates_of_file (by rwa [read]), read]
    have added : unlisted listed [q] = [q] := by
      simp [unlisted, fresh]
    refine scriptsAfter_cons_ok.mpr ⟨[q], contributed, ?_⟩
    rw [added, ih files written (by simpa using apart), List.append_assoc, List.singleton_append]

/-- Scripts that were found are found again from their own paths, whatever the patterns. -/
theorem scripts_texts (well : d.WellNamed) (went : scripts d patterns arguments = .ok found) :
    scripts d patterns' (found.map Path.text) = .ok found := by
  have files : ∀ q ∈ found, d.isFile q = .ok true := fun q h ↦ isFile_of_mem_scripts well went h
  have written : ∀ q ∈ found, Path.ofText q.text = q := fun q h ↦
    Path.ofText_text (Disk.isPart_of_isFile well (files q h))
  exact scriptsAfter_texts files written (nodup_of_scripts went)

/-- What one directory adds to the scripts before it: the files that some pattern leads to from it
and that are not listed yet, in order. They are all below the directory, unless a pattern has a
double dot. -/
structure Contributes (d : Disk) (patterns : List String) (p : Path) (listed more : List Path) :
    Prop where
  ordered : more.Pairwise Path.Precedes
  members : ∀ q, q ∈ more ↔ Offers d patterns p q ∧ q ∉ listed
  under : (∀ text ∈ patterns, ".." ∉ (Path.ofText text).parts) → ∀ q ∈ more, d.IsUnder p q

private theorem contributes_unlisted (well : d.WellNamed) (directory : d.isDirectory p = .ok true)
    (went : inDirectory d patterns p = .ok more) :
    Contributes d patterns p listed (unlisted listed more) := by
  have members (q : Path) : q ∈ unlisted listed more ↔ Offers d patterns p q ∧ q ∉ listed := by
    rw [mem_unlisted, mem_inDirectory_iff well directory went]
  refine ⟨?_, members, fun plain q h ↦ ((members q).mp h).1.isUnder directory plain⟩
  exact (pairwise_inDirectory well directory went).sublist unlisted_sublist

/-- The scripts that were found are stable. -/
structure Stable (d : Disk) (patterns arguments : List String) (found : List Path) : Prop where
  /-- Patterns may be given in another order, and repeated. -/
  reordered : ∀ patterns', (∀ text, text ∈ patterns ↔ text ∈ patterns') →
    scripts d patterns' arguments = .ok found
  /-- An argument that is given again adds nothing. -/
  repeated : ∀ argument ∈ arguments, scripts d patterns (arguments ++ [argument]) = .ok found
  /-- Scripts are found again from their own paths. -/
  again : ∀ patterns', scripts d patterns' (found.map Path.text) = .ok found
  /-- The scripts of the first arguments come first. -/
  initial : ∀ before after, arguments = before ++ after →
    ∃ listed, scripts d patterns before = .ok listed ∧ listed <+: found
  /-- A directory adds the files that patterns lead to from it. -/
  directory : ∀ before argument after, arguments = before ++ argument :: after →
    d.isDirectory (.ofText argument) = .ok true →
    ∃ listed more, scripts d patterns before = .ok listed ∧
      scripts d patterns (before ++ [argument]) = .ok (listed ++ more) ∧ listed ++ more <+: found ∧
      Contributes d patterns (.ofText argument) listed more

private theorem stable_of_scripts (well : d.WellNamed)
    (went : scripts d patterns arguments = .ok found) :
    Stable d patterns arguments found where
  reordered _ same := scriptsAfter_congr well same went
  repeated _ given := scripts_append_given went given
  again _ := scripts_texts well went
  initial before after split := by
    subst split
    rw [scripts, scriptsAfter_append] at went
    obtain ⟨listed, first, rest⟩ := bind_eq_ok.mp went
    exact ⟨listed, first, prefix_of_scriptsAfter rest⟩
  directory before argument after split isDirectory := by
    subst split
    rw [scripts, scriptsAfter_append] at went
    obtain ⟨listed, first, rest⟩ := bind_eq_ok.mp went
    obtain ⟨more, contributed, rest⟩ := scriptsAfter_cons_ok.mp rest
    refine ⟨listed, unlisted listed more, first, ?_, prefix_of_scriptsAfter rest, ?_⟩
    · rw [scripts, scriptsAfter_append]
      exact bind_eq_ok.mpr ⟨listed, first, scriptsAfter_cons_ok.mpr ⟨more, contributed, rfl⟩⟩
    · rw [candidates_of_directory isDirectory] at contributed
      exact contributes_unlisted well isDirectory contributed

/-! ### Searches that end early -/

/-- The search ends with what looking at a path or reading a pattern fails with, or because an
argument is missing. -/
theorem failsWith_scriptsAfter {P : Fault → Prop} (looking : ∀ p, FailsWith P (d.stat p))
    (reading : ∀ text ∈ patterns, FailsWith P (Glob.Pattern.ofText text))
    (missing : ∀ argument ∈ arguments, Missing d argument → P (notFound argument)) :
    FailsWith P (scriptsAfter d patterns listed arguments) := by
  induction arguments generalizing listed with
  | nil => exact .ok _
  | cons argument arguments ih =>
    obtain ⟨first, rest⟩ := List.forall_mem_cons.mp missing
    exact .bind (failsWith_candidates looking reading first) fun _ _ ↦ ih rest

/-- A missing argument ends the search, whatever its position. -/
theorem scripts_ne_ok_of_missing (given : argument ∈ arguments) (missing : Missing d argument) :
    scripts d patterns arguments ≠ .ok found := by
  intro went
  obtain ⟨more, contributed⟩ := exists_scriptsAfter_ok_iff.mp ⟨found, went⟩ argument given
  rw [candidates_of_missing missing] at contributed
  cases contributed

/-- Discovery is stable, and unless it ends at a path that is too long to be looked at, it raises
that a file is not found exactly when some argument is missing. -/
theorem scripts_stable (well : d.WellNamed)
    (valid : ∀ text ∈ patterns, ∃ pattern, Glob.Pattern.ofText text = .ok pattern)
    (arguments : List String) :
    (∀ found, scripts d patterns arguments = .ok found → Stable d patterns arguments found) ∧
      ((∃ p, d.stat p = .error (Disk.refusal p .general) ∧
          scripts d patterns arguments = .error (Disk.refusal p .general)) ∨
        ((∃ message, scripts d patterns arguments = .error ⟨.disk .fileNotFound, message⟩) ↔
          ∃ argument ∈ arguments, Missing d argument)) := by
  refine ⟨fun found went ↦ stable_of_scripts well went, ?_⟩
  have ends : FailsWith
      (fun f ↦ (∃ p, d.stat p = .error f) ∨
        ∃ argument ∈ arguments, Missing d argument ∧ f = notFound argument)
      (scripts d patterns arguments) := by
    refine failsWith_scriptsAfter (fun p _ h ↦ .inl ⟨p, h⟩)
      (fun text given f h ↦ ?_) fun argument given missing ↦ .inr ⟨argument, given, missing, rfl⟩
    obtain ⟨pattern, read⟩ := valid text given
    rw [read] at h
    cases h
  cases went : scripts d patterns arguments with
  | ok found =>
    right
    constructor
    · rintro ⟨message, ⟨⟩⟩
    · rintro ⟨argument, given, missing⟩
      exact absurd went (scripts_ne_ok_of_missing given missing)
  | error f =>
    obtain ⟨p, refused⟩ | ⟨argument, given, missing, rfl⟩ := ends f went
    · obtain rfl := Disk.failsWith_stat f refused
      exact .inl ⟨p, refused, rfl⟩
    · exact .inr ⟨fun _ ↦ ⟨argument, given, missing⟩, fun _ ↦ ⟨_, rfl⟩⟩

/-- A disk with a script and, beside it, a directory with another one. -/
def twoScripts : Disk where
  entries := [(["x.txt"], .file .empty), (["sub"], .directory), (["sub", "y.txt"], .file .empty)]

/-- What a directory and the script beside it come to, is stable. -/
theorem stable_of_twoScripts :
    scripts twoScripts ["*.txt"] ["sub", "./x.txt"] =
        .ok [⟨.workingDirectory, ["sub", "y.txt"]⟩, ⟨.workingDirectory, ["x.txt"]⟩] ∧
      Stable twoScripts ["*.txt"] ["sub", "./x.txt"]
        [⟨.workingDirectory, ["sub", "y.txt"]⟩, ⟨.workingDirectory, ["x.txt"]⟩] := by
  have valid : ∀ text ∈ ["*.txt"], ∃ pattern, Glob.Pattern.ofText text = .ok pattern := by
    rintro _ (_ | ⟨_, ⟨⟩⟩)
    exact ⟨[.everywhere, .like (.star :: ".txt".toList.map .char)], by decide +kernel⟩
  have went : scripts twoScripts ["*.txt"] ["sub", "./x.txt"] =
      .ok [⟨.workingDirectory, ["sub", "y.txt"]⟩, ⟨.workingDirectory, ["x.txt"]⟩] := by
    decide +kernel
  exact ⟨went, (scripts_stable (by decide) valid ["sub", "./x.txt"]).1 _ went⟩

/-- An argument that is one name too long ends the search, whether there is something at it or
not. -/
theorem scripts_of_long (there : d.entry? d.workingDirectory = some .directory)
    (isPart : Path.IsPart argument) (nameable : '\x00' ∉ argument.toList)
    (long : Disk.nameLimit < argument.utf8ByteSize) :
    scripts d patterns (argument :: arguments) =
      .error (Disk.refusal (.ofText argument) .general) := by
  have refused : d.isFile (.ofText argument) =
      .error (Disk.refusal (.ofText argument) .general) := by
    simp only [Disk.isFile, Disk.stat_ofText_of_long there isPart nameable long, Except.map]
  simp only [scripts, scriptsAfter, candidates, refused, bind, Except.bind]

private theorem utf8ByteSize_replicate (n : Nat) :
    (String.ofList (List.replicate n 'a')).utf8ByteSize = n := by
  induction n with
  | zero => rfl
  | succ n ih =>
    rw [List.replicate_succ, String.ofList_cons, String.utf8ByteSize_append, ih, Nat.add_comm]
    rfl

private theorem isPart_replicate (n : Nat) :
    Path.IsPart (String.ofList (List.replicate (n + 1) 'a')) where
  notEmpty h := by simpa [List.replicate_succ] using congrArg String.toList h
  notDot h := by simpa [List.replicate_succ] using congrArg String.toList h
  single := by simp

/-- A pattern with a double dot leads out of the directory, and where there is nothing, an argument
of 256 characters is refused with another error than that of a missing file. -/
theorem outside_and_refused :
    (scripts twoScripts ["../x.txt"] ["sub"] = .ok [⟨.workingDirectory, ["sub", "..", "x.txt"]⟩] ∧
      ¬twoScripts.IsUnder (.ofText "sub") ⟨.workingDirectory, ["sub", "..", "x.txt"]⟩) ∧
    ∀ message, scripts {} standardPatterns [String.ofList (List.replicate 256 'a')] ≠
      .error ⟨.disk .fileNotFound, message⟩ := by
  refine ⟨⟨by decide +kernel, ?_⟩, fun message ↦ ?_⟩
  · rintro ⟨l, names, -, above, below⟩
    have sub : twoScripts.locate (.ofText "sub") = .ok ["sub"] := by decide +kernel
    have outside : twoScripts.locate ⟨.workingDirectory, ["sub", "..", "x.txt"]⟩ =
        .ok ["x.txt"] := by
      decide +kernel
    obtain rfl : l = ["sub"] := Except.ok.inj (above.symm.trans sub)
    simp [outside] at below
  · have long : Disk.nameLimit < (String.ofList (List.replicate 256 'a')).utf8ByteSize := by
      rw [utf8ByteSize_replicate]
      decide
    have nameable : '\x00' ∉ (String.ofList (List.replicate 256 'a')).toList := by
      rw [String.toList_ofList]
      exact fun h ↦ absurd (List.eq_of_mem_replicate h) (by decide)
    have refused : scripts {} standardPatterns [String.ofList (List.replicate 256 'a')] =
        .error (Disk.refusal (.ofText (String.ofList (List.replicate 256 'a'))) .general) :=
      scripts_of_long rfl (isPart_replicate 255) nameable long
    rw [refused]
    nofun

end Playbook.Discovery
