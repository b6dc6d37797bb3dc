import Playbook.Proofs.Settings.Merging

/-!
# What each setting depends on

A setting that is built is a function of the value under its own key (`Key.get_ofConforming`): other
keys and other sections, and most switches, have no say in it (`build_independent`). A path that is
not absolute is followed from the base directory; an absolute one is the same from everywhere.
-/

namespace Playbook.Settings

open Playbook.Path

/-- The keys of a configuration. -/
inductive Key where
  | logEnabled
  | logDirectory
  | screenshotsEnabled
  | screenshotsDirectory
  | videosEnabled
  | videosDirectory
  | recording
  | headless
  | slowMo
  | tracePath
  deriving DecidableEq, Repr

namespace Key

/-- The section of a key. -/
def sectionName : Key → String
  | logEnabled | logDirectory => "logging"
  | screenshotsEnabled | screenshotsDirectory => "screenshots"
  | videosEnabled | videosDirectory | recording => "videos"
  | headless | slowMo | tracePath => "browser"

/-- The name of a key in its section. -/
def name : Key → String
  | logEnabled | screenshotsEnabled | videosEnabled => "enabled"
  | logDirectory => "outputPath"
  | screenshotsDirectory | videosDirectory => "path"
  | recording => "recordOn"
  | headless => "headless"
  | slowMo => "slowMo"
  | tracePath => "tracePath"

/-- What stands in the settings for a key. -/
def Field : Key → Type
  | logEnabled | screenshotsEnabled | videosEnabled | headless => Bool
  | logDirectory | screenshotsDirectory | videosDirectory => Path
  | recording => Recording
  | slowMo => Number
  | tracePath => Option Path

/-- The setting that stands for a key. -/
def get : (k : Key) → Settings → k.Field
  | logEnabled, s => s.log.enabled
  | logDirectory, s => s.log.directory
  | screenshotsEnabled, s => s.screenshots.enabled
  | screenshotsDirectory, s => s.screenshots.directory
  | videosEnabled, s => s.videos.enabled
  | videosDirectory, s => s.videos.directory
  | recording, s => s.videos.recording
  | headless, s => s.browser.headless
  | slowMo, s => s.browser.slowMo
  | tracePath, s => s.browser.tracePath

/-- The value that a configuration has under a key. -/
def given (k : Key) (raw : Value) : Option Value := setting? raw k.sectionName k.name

/-- The configuration that has nothing but what another has under a key. -/
def only (k : Key) (raw : Value) : Value :=
  match k.given raw with
  | some v => .object [(k.sectionName, .object [(k.name, v)])]
  | none => .object []

/-- The path of a setting, if it is one. -/
def path? : (k : Key) → k.Field → Option Path
  | logDirectory, p | screenshotsDirectory, p | videosDirectory, p => some p
  | tracePath, p => p
  | _, _ => none

variable (switches : Switches) (workingDirectory : Location) (base : Path) (seen : String → Path)

/-- What a value under a key is read as, by what written paths are taken for. -/
def read : (k : Key) → Option Value → k.Field
  | logEnabled, v | screenshotsEnabled, v => flagOr true v
  | videosEnabled, v => flagOr false v
  | logDirectory, v => seen (textOr "./test-results/logs" v)
  | screenshotsDirectory, v => seen (textOr "./test-results/screenshots/" v)
  | videosDirectory, v => seen (textOr "./test-results/videos/" v)
  | recording, v => (Recording.ofName? (textOr "" v)).getD .failed
  | headless, v => (flag? switches.headless).getD (flagOr true v)
  | slowMo, v => if flag? switches.ci = some true then .int 0 else numberOr (.int 50) v
  | tracePath, v => if (textOr "" v).isEmpty then none else some (seen (textOr "" v))

/-- A setting is read from the value under its key alone. -/
theorem get_ofWritten (k : Key) (raw : Value) :
    k.get (ofWritten seen switches raw) = k.read switches seen (k.given raw) := by
  cases k <;> rfl

/-- A setting is read from the value under its key, with paths without double dots. -/
theorem get_ofConforming (k : Key) (raw : Value) :
    k.get (ofConforming switches workingDirectory base raw) =
      k.read switches (resolved workingDirectory base) (k.given raw) :=
  get_ofWritten ..

variable {switches workingDirectory base seen}

/-- Two switches have a say in one setting each. -/
theorem read_switches {k : Key} {switches' : Switches} (v : Option Value)
    (hidden : k = headless → switches'.headless = switches.headless)
    (ci : k = slowMo → switches'.ci = switches.ci) :
    k.read switches' seen v = k.read switches seen v := by
  cases k with
  | headless => rw [read, hidden rfl, read]
  | slowMo => rw [read, ci rfl, read]
  | _ => rfl

/-- Section and name tell a key. -/
theorem eq_of_names {k k' : Key} (s : k.sectionName = k'.sectionName) (n : k.name = k'.name) :
    k = k' := by
  cases k <;> cases k' <;> first | rfl | exact absurd s (by decide) | exact absurd n (by decide)

/-- A configuration with one setting. -/
theorem setting?_single (s name : String) (v : Value) (s' name' : String) :
    setting? (.object [(s, .object [(name, v)])]) s' name' =
      if s = s' ∧ name = name' then some v else none := by
  by_cases hs : s = s' <;> by_cases hn : name = name' <;>
    simp [setting?, Value.field?, hs, hn]

/-- A configuration that gives a key is cut down to it. -/
theorem only_eq_some {k : Key} {raw v : Value} (h : k.given raw = some v) :
    k.only raw = .object [(k.sectionName, .object [(k.name, v)])] := by
  rw [only, h]

/-- Of a configuration that does not give a key, nothing is left. -/
theorem only_eq_none {k : Key} {raw : Value} (h : k.given raw = none) :
    k.only raw = .object [] := by
  rw [only, h]

/-- What is left of a configuration that is cut down to one key. -/
theorem given_only (k k' : Key) (raw : Value) :
    k'.given (k.only raw) = if k' = k then k.given raw else none := by
  cases h : k.given raw with
  | none =>
    rw [only_eq_none h, ite_self]
    rfl
  | some v =>
    have same : (k.sectionName = k'.sectionName ∧ k.name = k'.name) ↔ k' = k :=
      ⟨fun names ↦ (eq_of_names names.1 names.2).symm, fun same ↦ by simp [same]⟩
    rw [only_eq_some h, given, setting?_single]
    simp only [same]

/-- A configuration that conforms still does when it is cut down to one key. -/
theorem conforms_only {raw : Value} (conforms : Conforms raw) (k : Key) :
    Conforms (k.only raw) := by
  cases set : k.given raw with
  | none =>
    rw [only_eq_none set]
    exact ⟨[], rfl, nofun⟩
  | some v =>
    rw [only_eq_some set]
    have allowed : Allowed k.sectionName k.name v := conforms.allowed set
    have known : k.sectionName ∈ ["logging", "screenshots", "videos", "browser"] := by
      cases k <;> decide
    refine ⟨_, rfl, fun sectionName w found ↦ ?_⟩
    obtain ⟨rfl, rfl⟩ := Prod.mk.inj (List.mem_singleton.mp (Value.mem_of_field? found))
    refine ⟨known, _, rfl, fun name w found ↦ ?_⟩
    obtain ⟨rfl, rfl⟩ := Prod.mk.inj (List.mem_singleton.mp (Value.mem_of_field? found))
    exact allowed

end Key

/-- A path that is not absolute is followed from the base. -/
theorem resolved_of_relative {workingDirectory : Location} {base : Path} {written : String}
    (relative : (ofText written).anchor = .workingDirectory) :
    resolved workingDirectory base written =
      .ofLocation ((ofText written).parts.foldl follow (base.resolve workingDirectory)) := by
  rw [resolved, seen, join_of_relative relative, resolve, resolve, List.foldl_append]
  rfl

/-- An absolute path is the same from everywhere. -/
theorem resolved_of_absolute {workingDirectory workingDirectory' : Location} {base base' : Path}
    {written : String} (absolute : (ofText written).anchor ≠ .workingDirectory) :
    resolved workingDirectory base written = resolved workingDirectory' base' written := by
  have origin (l : Location) : (ofText written).origin l = [] := by
    unfold Path.origin
    split
    · contradiction
    · rfl
  rw [resolved, resolved, seen, seen, join_of_anchored absolute, join_of_anchored absolute, resolve,
    resolve, origin, origin]

/-- Without double dots, following names only goes further. -/
theorem foldl_follow {parts : List String} (h : ".." ∉ parts) (l : Location) :
    parts.foldl follow l = l ++ parts := by
  induction parts generalizing l with
  | nil => simp
  | cons part parts ih =>
    obtain ⟨first, rest⟩ := not_or.mp (mt List.mem_cons.mpr h)
    rw [List.foldl_cons, follow, if_neg (Ne.symm first), ih rest, List.append_assoc,
      List.singleton_append]

/-! ### Building -/

variable {switches : Switches} {workingDirectory : Location} {base : Path} {raw : Value}

/-- The paths of settings are those that stand for keys. -/
theorem mem_paths_iff {s : Settings} {p : Path} :
    p ∈ s.paths ↔ ∃ k : Key, k.path? (k.get s) = some p := by
  simp only [Settings.paths, List.mem_append, List.mem_cons, List.not_mem_nil, or_false,
    Option.mem_toList]
  constructor
  · rintro ((rfl | rfl | rfl) | trace)
    · exact ⟨.logDirectory, rfl⟩
    · exact ⟨.screenshotsDirectory, rfl⟩
    · exact ⟨.videosDirectory, rfl⟩
    · exact ⟨.tracePath, trace⟩
  · rintro ⟨k, h⟩
    cases k with
    | logDirectory => exact .inl (.inl (Option.some.inj h).symm)
    | screenshotsDirectory => exact .inl (.inr (.inl (Option.some.inj h).symm))
    | videosDirectory => exact .inl (.inr (.inr (Option.some.inj h).symm))
    | tracePath => exact .inr h
    | _ => cases h

/-- Settings are built from a configuration that conforms when every path can be named as it is
seen from the base. -/
theorem build_eq_ok_iff {s : Settings} : build switches workingDirectory base raw = .ok s ↔
    Conforms raw ∧ s = ofConforming switches workingDirectory base raw ∧
      ∀ (k : Key) (p : Path), k.path? (k.read switches (seen base) (k.given raw)) = some p →
        p.isNameable = true := by
  have nameable : (pathsSeen base raw).all isNameable = true ↔
      ∀ (k : Key) (p : Path), k.path? (k.read switches (seen base) (k.given raw)) = some p →
        p.isNameable = true := by
    have paths : pathsSeen base raw = (ofWritten (seen base) switches raw).paths := rfl
    simp only [paths, List.all_eq_true, mem_paths_iff, Key.get_ofWritten]
    exact ⟨fun h k p hp ↦ h p ⟨k, hp⟩, fun h p ⟨k, hp⟩ ↦ h k p hp⟩
  constructor
  · intro h
    by_cases conforms : Conforms raw
    · rw [build_of_conforms conforms] at h
      split at h
      · next named =>
        obtain rfl := Except.ok.inj h
        exact ⟨conforms, rfl, nameable.mp named⟩
      · cases h
    · rw [build_of_not_conforms conforms] at h
      cases h
  · rintro ⟨conforms, rfl, named⟩
    rw [build_of_conforms conforms, if_pos (nameable.mpr named)]

/-- The standard paths can be named below a base that can. -/
theorem isNameable_standard (named : base.isNameable = true) (k : Key) {p : Path}
    (h : k.path? (k.read switches (seen base) none) = some p) : p.isNameable = true := by
  have below (written : String) (relative : (ofText written).anchor = .workingDirectory)
      (fine : (ofText written).isNameable = true) (same : some (seen base written) = some p) :
      p.isNameable = true := by
    rw [← Option.some.inj same, seen, join_of_relative relative, isNameable, List.all_append,
      Bool.and_eq_true]
    exact ⟨named, fine⟩
  cases k with
  | logDirectory => exact below "./test-results/logs" (by decide) (by decide) h
  | screenshotsDirectory => exact below "./test-results/screenshots/" (by decide) (by decide) h
  | videosDirectory => exact below "./test-results/videos/" (by decide) (by decide) h
  | _ => cases h

/-- From a base that can be named, settings are built exactly if they are for each key alone. -/
theorem exists_build_iff (conforms : Conforms raw) (named : base.isNameable = true) :
    (∃ s, build switches workingDirectory base raw = .ok s) ↔
      ∀ k : Key, ∃ s, build switches workingDirectory base (k.only raw) = .ok s := by
  simp only [build_eq_ok_iff]
  constructor
  · rintro ⟨s, -, rfl, fine⟩ k
    refine ⟨_, Key.conforms_only conforms k, rfl, fun k' p hp ↦ ?_⟩
    rw [Key.given_only] at hp
    by_cases same : k' = k
    · subst same
      rw [if_pos rfl] at hp
      exact fine _ p hp
    · rw [if_neg same] at hp
      exact isNameable_standard named k' hp
  · intro alone
    refine ⟨_, conforms, rfl, fun k p hp ↦ ?_⟩
    obtain ⟨s, -, rfl, fine⟩ := alone k
    apply fine k p
    rwa [Key.given_only, if_pos rfl]

/-- The path that stands for a key is the one that the configuration gives, seen from the base. -/
theorem path_of_given {k : Key} {written : String} {p : Path}
    (given : k.given raw = some (.text written))
    (h : k.path? (k.get (ofConforming switches workingDirectory base raw)) = some p) :
    p = resolved workingDirectory base written := by
  rw [Key.get_ofConforming, given] at h
  cases k with
  | tracePath =>
    have read : (if written.isEmpty then none
        else some (resolved workingDirectory base written)) = some p := h
    by_cases empty : written.isEmpty = true
    · simp [empty] at read
    · exact (by simpa [empty] using read : _ = p).symm
  | logDirectory => exact (Option.some.inj h).symm
  | screenshotsDirectory => exact (Option.some.inj h).symm
  | videosDirectory => exact (Option.some.inj h).symm
  | _ => cases h

/-- An absolute path is read as the same from everywhere. -/
theorem read_of_absolute {written : String} (k : Key)
    (absolute : (ofText written).anchor ≠ .workingDirectory) (workingDirectory' : Location)
    (base' : Path) :
    k.read switches (resolved workingDirectory base) (some (.text written)) =
      k.read switches (resolved workingDirectory' base') (some (.text written)) := by
  have same : resolved workingDirectory base written = resolved workingDirectory' base' written :=
    resolved_of_absolute absolute
  cases k with
  | logDirectory => exact same
  | screenshotsDirectory => exact same
  | videosDirectory => exact same
  | tracePath => exact congrArg (fun p ↦ if written.isEmpty then none else some p) same
  | _ => rfl

/-- The settings that are built are those read from the merged configuration, and each depends on
the value under its own key: it is the one that the configuration with nothing but this key gives,
whatever else is configured. From a base that can be named, settings are built exactly if they are
for each key alone. Of the switches, one has a say in whether the window is hidden, and one in how
far the browser is slowed down. A path that is not absolute is followed from the base directory, and
an absolute one is the same from everywhere. -/
theorem build_independent (conforms : Conforms raw) (switches : Switches)
    (workingDirectory : Location) (base : Path) :
    (∀ k : Key, Conforms (k.only raw)) ∧
    (base.isNameable = true →
      ((∃ s, build switches workingDirectory base raw = .ok s) ↔
        ∀ k : Key, ∃ s, build switches workingDirectory base (k.only raw) = .ok s)) ∧
    ∀ s, build switches workingDirectory base raw = .ok s →
      (raw.Distinct → ∃ given merged, raw = .object given ∧ merge? standard given = some merged ∧
        s = ofConforming switches workingDirectory base (.object merged)) ∧
      ∀ k : Key,
      (∀ s', build switches workingDirectory base (k.only raw) = .ok s' → k.get s' = k.get s) ∧
      (∀ raw' s', k.given raw' = k.given raw →
        build switches workingDirectory base raw' = .ok s' → k.get s' = k.get s) ∧
      (∀ switches' s', (k = .headless → switches'.headless = switches.headless) →
        (k = .slowMo → switches'.ci = switches.ci) →
        build switches' workingDirectory base raw = .ok s' → k.get s' = k.get s) ∧
      ∀ written p, k.given raw = some (.text written) → k.path? (k.get s) = some p →
        ((ofText written).anchor = .workingDirectory →
          p = ofLocation ((ofText written).parts.foldl follow (base.resolve workingDirectory)) ∧
          (".." ∉ (ofText written).parts → base.resolve workingDirectory <+: p.parts)) ∧
        ((ofText written).anchor ≠ .workingDirectory → ∀ workingDirectory' base' s',
          build switches workingDirectory' base' raw = .ok s' → k.path? (k.get s') = some p) := by
  refine ⟨Key.conforms_only conforms, exists_build_iff conforms, fun s built ↦ ?_⟩
  obtain ⟨-, rfl, -⟩ := build_eq_ok_iff.mp built
  refine ⟨fun distinct ↦ ?_, fun k ↦ ?_⟩
  · obtain ⟨given, merged, same, merges, -, read⟩ := exists_merge conforms distinct
    exact ⟨given, merged, same, merges, (read switches workingDirectory base).symm⟩
  refine ⟨fun s' built' ↦ ?_, fun raw' s' same built' ↦ ?_, fun switches' s' hidden ci built' ↦ ?_,
    fun written p given path ↦ ⟨fun relative ↦ ?_, fun absolute wd' base' s' built' ↦ ?_⟩⟩
  · obtain ⟨-, rfl, -⟩ := build_eq_ok_iff.mp built'
    rw [Key.get_ofConforming, Key.get_ofConforming, Key.given_only, if_pos rfl]
  · obtain ⟨-, rfl, -⟩ := build_eq_ok_iff.mp built'
    rw [Key.get_ofConforming, Key.get_ofConforming, same]
  · obtain ⟨-, rfl, -⟩ := build_eq_ok_iff.mp built'
    rw [Key.get_ofConforming, Key.get_ofConforming, Key.read_switches _ hidden ci]
  · rw [path_of_given given path, resolved_of_relative relative]
    refine ⟨rfl, fun inside ↦ ?_⟩
    rw [foldl_follow inside]
    exact List.prefix_append _ _
  · obtain ⟨-, rfl, -⟩ := build_eq_ok_iff.mp built'
    rw [← path, Key.get_ofConforming, Key.get_ofConforming, given,
      read_of_absolute k absolute workingDirectory base]

/-- A configuration with settings in two sections. -/
def quickRuns : Value :=
  .object [("browser", .object [("slowMo", .number (.int 0)), ("tracePath", .text "/tmp/trace")]),
    ("logging", .object [("outputPath", .text "logs")])]

/-- The settings of a configuration with two sections, each from its own key. -/
theorem independent_of_quickRuns : Conforms quickRuns ∧
    ∃ s, build {} ["home"] (ofText ".") quickRuns = .ok s ∧ s.browser.slowMo = .int 0 ∧
      s.log.directory = ofLocation ["home", "logs"] ∧
      ∀ s', build {} ["home"] (ofText ".") (Key.slowMo.only quickRuns) = .ok s' →
        s'.browser.slowMo = s.browser.slowMo := by
  have conforms : Conforms quickRuns := by decide
  have built : build {} ["home"] (ofText ".") quickRuns =
      .ok (ofConforming {} ["home"] (ofText ".") quickRuns) := by rfl
  obtain ⟨-, -, independent⟩ := build_independent conforms {} ["home"] (ofText ".")
  exact ⟨conforms, _, built, rfl, by rfl, ((independent _ built).2 .slowMo).1⟩

end Playbook.Settings
