import Playbook.Proofs.Settings.Conformance

/-!
# Merging a configuration into the standard one

Settings can be read from one object that leaves nothing out: the standard configuration, into
whose sections the settings that are given were put one after another. For a configuration that
conforms this never misses a section or a setting, and it gives the settings that are built
(`build_exact`).
-/

namespace Playbook

namespace Value

/-- No name stands twice in an object of objects. -/
def Distinct (v : Value) : Prop :=
  ∃ sections, v = .object sections ∧ (fieldNames sections).Nodup ∧
    ∀ name settings, (name, .object settings) ∈ sections → (fieldNames settings).Nodup

end Value

namespace Settings

/-- The configuration that stands where nothing is given. -/
def standard : List (String × Value) :=
  [("logging", .object [("enabled", .bool true), ("outputPath", .text "./test-results/logs")]),
    ("screenshots",
      .object [("enabled", .bool true), ("path", .text "./test-results/screenshots/")]),
    ("videos",
      .object [("enabled", .bool false), ("path", .text "./test-results/videos/"),
        ("recordOn", .text "failed")]),
    ("browser",
      .object [("headless", .bool true), ("slowMo", .int 50), ("tracePath", .null)])]

/-- Put the settings of given sections into sections that are there. A section that is not there,
and one that is no object, cannot be put. -/
def merge? (merged : List (String × Value)) :
    List (String × Value) → Option (List (String × Value))
  | [] => some merged
  | (name, given) :: rest =>
    match Value.field? merged name, given with
    | some (.object settings), .object given =>
      merge? (Value.putField merged name (.object (Value.putFields settings given))) rest
    | _, _ => none

/-- Sections can be merged into others: each is an object, and there already. -/
structure Mergeable (merged sections : List (String × Value)) : Prop where
  nodup : (Value.fieldNames sections).Nodup
  there : ∀ f ∈ sections, ∃ settings, Value.field? merged f.1 = some (.object settings)
  object : ∀ f ∈ sections, ∃ given, f.2 = .object given ∧ (Value.fieldNames given).Nodup

variable {merged sections : List (String × Value)} {s name : String}

/-- A setting is looked up in its section. -/
theorem setting?_of_field? {settings : List (String × Value)}
    (h : Value.field? sections s = some (.object settings)) :
    setting? (.object sections) s name = Value.field? settings name := by
  simp only [setting?, h]

/-- Where there is no section, it has no settings. -/
theorem setting?_eq_none (h : Value.field? sections s = none) :
    setting? (.object sections) s name = none := by
  simp only [setting?, h]

/-- Sections of one name have the same settings. -/
theorem setting?_congr {sections' : List (String × Value)}
    (h : Value.field? sections s = Value.field? sections' s) :
    setting? (.object sections) s name = setting? (.object sections') s name := by
  simp only [setting?, h]

/-- The sections behind the first can be merged once the first is. -/
theorem Mergeable.rest {first : String} {given rest : List (String × Value)}
    (h : Mergeable merged ((first, .object given) :: rest)) (settings : List (String × Value)) :
    Mergeable (Value.putField merged first (.object settings)) rest where
  nodup := (List.nodup_cons.mp h.nodup).2
  there := fun f hf ↦ by
    by_cases same : f.1 = first
    · rw [same]
      exact ⟨_, Value.field?_putField_self merged first _⟩
    · rw [Value.field?_putField_of_ne merged _ same]
      exact h.there f (List.mem_cons_of_mem _ hf)
  object := fun f hf ↦ h.object f (List.mem_cons_of_mem _ hf)

/-- What is merged is what is given, and what was there where nothing is given. -/
theorem setting?_merge (h : Mergeable merged sections) :
    ∃ result, merge? merged sections = some result ∧ ∀ s name,
      setting? (.object result) s name =
        (setting? (.object sections) s name).or (setting? (.object merged) s name) := by
  induction sections generalizing merged with
  | nil => exact ⟨merged, rfl, fun _ _ ↦ rfl⟩
  | cons f rest ih =>
    obtain ⟨first, given⟩ := f
    obtain ⟨given, rfl, distinct⟩ := h.object _ List.mem_cons_self
    obtain ⟨settings, there⟩ := h.there _ List.mem_cons_self
    have there : Value.field? merged first = some (.object settings) := there
    have fresh : first ∉ Value.fieldNames rest := (List.nodup_cons.mp h.nodup).1
    obtain ⟨result, same, all⟩ := ih (h.rest (Value.putFields settings given))
    refine ⟨result, ?_, fun s name ↦ (all s name).trans ?_⟩
    · simp only [merge?, there]
      exact same
    · by_cases hs : s = first
      · subst hs
        have first : Value.field? ((s, Value.object given) :: rest) s = some (.object given) := by
          simp [Value.field?]
        rw [setting?_eq_none (Value.field?_eq_none fresh), Option.none_or,
          setting?_of_field? (Value.field?_putField_self merged s _),
          Value.field?_putFields distinct, setting?_of_field? first, setting?_of_field? there]
      · have later : Value.field? ((first, Value.object given) :: rest) s =
            Value.field? rest s := by
          simp [Value.field?, Ne.symm hs]
        rw [setting?_congr later, setting?_congr (Value.field?_putField_of_ne merged _ hs)]

/-! ### The standard configuration -/

/-- Every setting has a standard that its rule has no problem with. -/
theorem standard_fits : ∀ s ∈ schema, ∀ r ∈ s.2,
    (setting? (.object standard) s.1 r.1).any (fun v ↦ (r.2.problems v).isEmpty) = true := by
  decide

/-- A setting of a configuration that conforms is what it may be. -/
theorem Conforms.allowed {raw v : Value} (h : Conforms raw) (set : setting? raw s name = some v) :
    Allowed s name v := by
  obtain ⟨sections, rfl, conforms⟩ := h
  cases given : Value.field? sections s with
  | none =>
    rw [setting?_eq_none given] at set
    cases set
  | some w =>
    obtain ⟨-, settings, rfl, allowed⟩ := conforms s w given
    rw [setting?_of_field? given] at set
    exact allowed name v set

/-- Sections of a configuration that conforms can be merged into the standard ones. -/
theorem mergeable_standard (conforms : Conforms (.object sections))
    (distinct : (Value.object sections).Distinct) : Mergeable standard sections := by
  have known : ∀ s ∈ ["logging", "screenshots", "videos", "browser"],
      ∃ settings, Value.field? standard s = some (.object settings) := by
    simp [standard, Value.field?]
  obtain ⟨_, ⟨⟩, conforms⟩ := conforms
  obtain ⟨_, ⟨⟩, nodup, settings⟩ := distinct
  refine ⟨nodup, fun f hf ↦ ?_, fun f hf ↦ ?_⟩
  · exact known f.1 (conforms f.1 f.2 (Value.field?_of_mem nodup hf)).1
  · obtain ⟨-, given, same, -⟩ := conforms f.1 f.2 (Value.field?_of_mem nodup hf)
    exact ⟨given, same, settings f.1 given (same ▸ hf)⟩

/-- The settings that are read from the merged configuration are those that are built. -/
theorem ofConforming_merged {raw : Value} {result : List (String × Value)}
    (all : ∀ s name, setting? (.object result) s name =
      (setting? raw s name).or (setting? (.object standard) s name))
    (switches : Switches) (workingDirectory : Location) (base : Path) :
    ofConforming switches workingDirectory base (.object result) =
      ofConforming switches workingDirectory base raw := by
  have flag {s name : String} {b : Bool}
      (h : setting? (.object standard) s name = some (.bool b)) :
      flagOr b (setting? (.object result) s name) = flagOr b (setting? raw s name) := by
    rw [all, h]
    cases setting? raw s name <;> rfl
  have text {s name t : String} (h : setting? (.object standard) s name = some (.text t)) :
      textOr t (setting? (.object result) s name) = textOr t (setting? raw s name) := by
    rw [all, h]
    cases setting? raw s name <;> rfl
  have number {s name : String} {n : Number}
      (h : setting? (.object standard) s name = some (.number n)) :
      numberOr n (setting? (.object result) s name) = numberOr n (setting? raw s name) := by
    rw [all, h]
    cases setting? raw s name <;> rfl
  have trace {s name : String} (h : setting? (.object standard) s name = some .null) :
      textOr "" (setting? (.object result) s name) = textOr "" (setting? raw s name) := by
    rw [all, h]
    cases setting? raw s name <;> rfl
  -- Nothing is read as a choice that is none, and stands for the standard one.
  have recording {s name : String}
      (h : setting? (.object standard) s name = some (.text "failed")) :
      (Recording.ofName? (textOr "" (setting? (.object result) s name))).getD .failed =
        (Recording.ofName? (textOr "" (setting? raw s name))).getD .failed := by
    rw [all, h]
    cases setting? raw s name <;> rfl
  unfold ofConforming ofWritten
  dsimp only
  rw [flag, flag, flag, flag, recording, trace, text, text, text, number]
  all_goals rfl

/-- Merging a configuration that conforms misses nothing, and what it gives stands for the settings
that are built. -/
theorem exists_merge {raw : Value} (conforms : Conforms raw) (distinct : raw.Distinct) :
    ∃ given result, raw = .object given ∧ merge? standard given = some result ∧
      (∀ s ∈ schema, ∀ r ∈ s.2, ∃ v, setting? (.object result) s.1 r.1 = some v ∧
        Allowed s.1 r.1 v) ∧
      ∀ switches workingDirectory base,
        ofConforming switches workingDirectory base (.object result) =
          ofConforming switches workingDirectory base raw := by
  obtain ⟨given, rfl, -⟩ := id conforms
  obtain ⟨result, same, all⟩ := setting?_merge (mergeable_standard conforms distinct)
  refine ⟨given, result, rfl, same, fun s known r ruled ↦ ?_, ofConforming_merged all⟩
  rw [all]
  cases set : setting? (.object given) s.1 r.1 with
  | some v => exact ⟨v, rfl, conforms.allowed set⟩
  | none =>
    obtain ⟨v, found, fits⟩ := (Option.any_eq_true ..).mp (standard_fits s known r ruled)
    refine ⟨v, by rw [Option.none_or, found], allowed_iff.mpr ?_⟩
    exact ⟨s, known, rfl, r.2, ruled, List.isEmpty_iff.mp fits⟩

/-- The configurations that are refused are exactly those that do not conform, each with one entry
for every constraint that it violates, in the order of the places, and every entry names the place
and says what is wrong there; and merging any other one into the standard configuration finds every
section and every setting. -/
theorem build_exact (switches : Switches) (workingDirectory : Location) (base : Path)
    (raw : Value) :
    ((∃ vs, build switches workingDirectory base raw = .error (.invalid vs)) ↔ ¬Conforms raw) ∧
    (∀ vs, build switches workingDirectory base raw = .error (.invalid vs) →
      (∀ place k, Violates raw place k ↔
        ∃ v ∈ vs, v.place = place ∧ v.problem.constraint = k) ∧
      vs.Pairwise Violation.Precedes ∧
      ∃ entries, List.Forall₂ (Reports raw) vs entries ∧
        (Error.invalid vs).message = "Invalid configuration: " ++ "; ".intercalate entries) ∧
    (Conforms raw → raw.Distinct →
      ∃ given result, raw = .object given ∧ merge? standard given = some result ∧
        (∀ s ∈ schema, ∀ r ∈ s.2, ∃ v, setting? (.object result) s.1 r.1 = some v ∧
          Allowed s.1 r.1 v) ∧
        ofConforming switches workingDirectory base (.object result) =
          ofConforming switches workingDirectory base raw) := by
  have refused {vs : List Violation}
      (h : build switches workingDirectory base raw = .error (.invalid vs)) :
      ¬Conforms raw ∧ vs = violations raw := by
    by_cases conforms : Conforms raw
    · rw [build_of_conforms conforms] at h
      split at h <;> cases h
    · rw [build_of_not_conforms conforms] at h
      cases h
      exact ⟨conforms, rfl⟩
  refine ⟨⟨fun ⟨vs, h⟩ ↦ (refused h).1, fun h ↦ ⟨_, build_of_not_conforms h⟩⟩,
    fun vs h ↦ ?_, fun conforms distinct ↦ ?_⟩
  · rw [(refused h).2]
    refine ⟨fun place k ↦ ⟨Violates.reported, ?_⟩, pairwise_violations raw,
      (violations raw).map Violation.message, ?_, rfl⟩
    · rintro ⟨v, mem, rfl, rfl⟩
      exact violates_of_mem mem
    · rw [List.forall₂_map_right_iff]
      exact List.forall₂_same.mpr fun v mem ↦ reports_message mem
  · obtain ⟨given, result, same, merged, complete, built⟩ := exists_merge conforms distinct
    exact ⟨given, result, same, merged, complete, built switches workingDirectory base⟩

/-- A configuration with a section too much, a section that is no object, and settings that are
not what they may be. -/
def faulty : Value :=
  .object
    [("mail", .null), ("logging", .list []), ("videos", .object [("recordOn", .text "never")]),
      ("browser",
        .object [("slowMo", .number (.real (.ofDecimal true 15 (-1)))), ("headless", .text "yes")])]

/-- A configuration with six faults is refused, and all six are reported. -/
theorem report_of_faults :
    ¬Conforms faulty ∧ ∃ vs, build {} [] (.ofText "/work") faulty = .error (.invalid vs) ∧
      (Error.invalid vs).message = "Invalid configuration: " ++ "; ".intercalate
        ["<root>: Additional properties are not allowed ('mail' was unexpected)",
          "browser/headless: 'yes' is not of type 'boolean'",
          "browser/slowMo: -1.5 is not of type 'integer'",
          "browser/slowMo: -1.5 is less than the minimum of 0",
          "logging: [] is not of type 'object'",
          "videos/recordOn: 'never' is not one of ['all', 'failed', 'off']"] ∧
      ∃ entries, List.Forall₂ (Reports faulty) vs entries ∧
        (Error.invalid vs).message = "Invalid configuration: " ++ "; ".intercalate entries := by
  obtain ⟨refused, reported, -⟩ := build_exact {} [] (.ofText "/work") faulty
  have built : build {} [] (.ofText "/work") faulty = .error (.invalid (violations faulty)) := rfl
  exact ⟨refused.mp ⟨_, built⟩, _, built, by decide +kernel, (reported _ built).2.2⟩

end Settings

end Playbook
