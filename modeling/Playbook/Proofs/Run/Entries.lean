import Playbook.Disk.Basic
import Playbook.Proofs.Json.RoundTrip
import Playbook.Proofs.Moment.Duration
import Playbook.Proofs.Moment.Text
import Playbook.Proofs.Value.Equality
import Playbook.Run.Recorder

/-!
# Entries of the result log

The value that the log holds for a case tells everything about its result
(`CaseResult.equal_toValue_iff`). A text that a step does not have is left out, so an empty one is
told from none by the names of the fields; a case has a null for it. A moment is told by its ISO
form, and durations, which follow from the moments, tell nothing more.

A file that holds results (`Disk.HoldsResults`) has the list of their values in it, and whoever
reads the file gets that list back (`holdsResults_of_readBytes`).
-/

namespace Playbook

open Value

variable {name other : String}

/-- An optional field is there if there is a text. -/
theorem field?_optionalField (text : Option String) :
    field? (optionalField name text) other = if name = other then text.map .text else none := by
  cases text with
  | none => simp [optionalField, field?_nil]
  | some s => simp [optionalField, field?_cons, field?_nil]

/-- An optional field has its name, if any. -/
theorem fieldNames_optionalField_sublist (text : Option String) :
    (fieldNames (optionalField name text)).Sublist [name] := by
  cases text with
  | none => exact List.nil_sublist _
  | some s => exact List.Sublist.refl _

private theorem legible_optionalField (text : Option String) :
    ∀ f ∈ optionalField name text, Json.Legible f.2 := by
  cases text with
  | none => simp [optionalField]
  | some s => simpa [optionalField] using Json.Legible.text s

private theorem legible_texts (ss : List String) : Json.Legible (texts ss) := by
  refine .list fun v hv ↦ ?_
  obtain ⟨s, -, rfl⟩ := List.mem_map.mp hv
  exact .text s

private theorem legible_millis (m n : Moment) : Json.Legible (int (m.millisUntil n)) := by
  have few : (2 : Nat) ^ 59 ≤ 10 ^ Number.digitLimit :=
    calc 2 ^ 59 ≤ 10 ^ 59 := by norm_num
      _ ≤ 10 ^ Number.digitLimit := Nat.pow_le_pow_right (by decide) (by decide)
  exact .int ((m.natAbs_millisUntil_lt n).trans_le few)

/-! ### Steps -/

namespace StepResult

/-- The names that the value of a step may have fields under. -/
def names : List String :=
  ["stepNumber", "action", "parameters", "status", "startedAt", "finishedAt", "durationMs",
    "error", "screenshotPath", "videoPath"]

/-- The last three names may be left out. -/
theorem fieldNames_toValue_sublist (s : StepResult) :
    (fieldNames s.toValue.fields).Sublist names := by
  have error : (fieldNames (optionalField "error" s.error)).Sublist ["error"] :=
    fieldNames_optionalField_sublist _
  have screenshot : (fieldNames (optionalField "screenshotPath" s.screenshot)).Sublist
      ["screenshotPath"] := fieldNames_optionalField_sublist _
  have video : (fieldNames (optionalField "videoPath" s.video)).Sublist ["videoPath"] :=
    fieldNames_optionalField_sublist _
  simp only [fieldNames, fields, toValue, List.map_append]
  exact (((List.Sublist.refl _).append error).append screenshot).append video

/-- Two values of steps are equal just if the results of the steps are. -/
theorem identifies_toValue : Identifies StepResult.toValue := by
  intro a b
  have nodup : names.Nodup := by decide
  have equal : a.toValue.equal b.toValue = true ↔
      ∀ name ∈ names, EqualOrAbsent (field? a.toValue.fields name) (field? b.toValue.fields name) :=
    equal_object_iff_of_names names (nodup.sublist a.fieldNames_toValue_sublist)
      (nodup.sublist b.fieldNames_toValue_sublist) a.fieldNames_toValue_sublist.subset
      b.fieldNames_toValue_sublist.subset
  rw [equal]
  simp only [names, List.forall_mem_cons, List.not_mem_nil, false_imp_iff, implies_true, and_true,
    fields, toValue, field?_append, field?_optionalField, field?_cons, field?_nil,
    String.reduceEq, if_true, if_false, Option.none_or, Option.or_none, equalOrAbsent_some,
    identifies_text.equalOrAbsent_iff, identifies_text _ _, identifies_int _ _,
    identifies_texts _ _, Moment.iso_inj]
  constructor
  · rintro ⟨number, action, parameters, status, startedAt, finishedAt, -, error, screenshot, video⟩
    cases a
    cases b
    simp only [mk.injEq]
    exact ⟨number, action, parameters, status, startedAt, finishedAt, error, screenshot, video⟩
  · rintro rfl
    simp only [and_self]

/-- Every number in the value of a step is one that is read, if the number of the step is. -/
theorem legible_toValue {s : StepResult} (short : s.number.natAbs < 10 ^ Number.digitLimit) :
    Json.Legible s.toValue := by
  have nodup : names.Nodup := by decide
  have fixed : ∀ f ∈ [("stepNumber", int s.number), ("action", .text s.action),
      ("parameters", texts s.parameters), ("status", .text s.status),
      ("startedAt", .text s.startedAt.iso), ("finishedAt", .text s.finishedAt.iso),
      ("durationMs", int s.millis)], Json.Legible f.2 := by
    simp only [List.forall_mem_cons, List.not_mem_nil, false_imp_iff, implies_true, and_true]
    exact ⟨.int short, .text _, legible_texts _, .text _, .text _, .text _, legible_millis _ _⟩
  refine .object (nodup.sublist s.fieldNames_toValue_sublist) ?_
  simp only [List.forall_mem_append]
  exact ⟨⟨⟨fixed, legible_optionalField _⟩, legible_optionalField _⟩, legible_optionalField _⟩

end StepResult

/-! ### Cases -/

namespace CaseResult

/-- The names of the fields of the value of a case. -/
def names : List String :=
  ["testName", "steps", "status", "durationMs", "startedAt", "finishedAt", "error"]

/-- The entry of a case in the result log tells its result. Two such values are equal just if the
results are: in name, status, moments and error, and step by step in everything that is recorded of
a step. -/
theorem equal_toValue_iff (a b : CaseResult) : a.toValue.equal b.toValue = true ↔ a = b := by
  have nodup : names.Nodup := by decide
  have equal : a.toValue.equal b.toValue = true ↔
      ∀ name ∈ names, EqualOrAbsent (field? a.toValue.fields name) (field? b.toValue.fields name) :=
    equal_object_iff_of_names names nodup nodup (List.Subset.refl _) (List.Subset.refl _)
  rw [equal]
  simp only [names, List.forall_mem_cons, List.not_mem_nil, false_imp_iff, implies_true, and_true,
    fields, toValue, field?_cons, field?_nil, String.reduceEq, if_true, if_false,
    equalOrAbsent_some, identifies_text _ _, identifies_int _ _, identifies_ofText? _ _,
    StepResult.identifies_toValue.map _ _, Moment.iso_inj]
  constructor
  · rintro ⟨name, steps, status, -, startedAt, finishedAt, error⟩
    cases a
    cases b
    simp only [mk.injEq]
    exact ⟨name, status, startedAt, finishedAt, steps, error⟩
  · rintro rfl
    simp only [and_self]

/-- Every number in the value of a case is one that is read, if those of its steps are. -/
theorem legible_toValue {c : CaseResult}
    (short : ∀ s ∈ c.steps, s.number.natAbs < 10 ^ Number.digitLimit) :
    Json.Legible c.toValue := by
  have nodup : names.Nodup := by decide
  have steps : Json.Legible (.list (c.steps.map StepResult.toValue)) := by
    refine .list fun v hv ↦ ?_
    obtain ⟨s, hs, rfl⟩ := List.mem_map.mp hv
    exact s.legible_toValue (short s hs)
  have error : Json.Legible (ofText? c.error) := by
    cases c.error with
    | none => exact .null
    | some e => exact .text e
  refine .object nodup ?_
  simp only [List.forall_mem_cons, List.not_mem_nil, false_imp_iff, implies_true, and_true]
  exact ⟨.text _, steps, .text _, legible_millis _ _, .text _, .text _, error⟩

end CaseResult

/-! ### Files -/

/-- The file that a path leads to holds results: its text is the list of their values with every
part on a line of its own, and reading the text gives that list back, as long as the numbers of the
steps are not longer than numbers are read. -/
def Disk.HoldsResults (d : Disk) (path : Path) (results : List CaseResult) : Prop :=
  ∃ text : String, d.readBytes path = .ok text.toUTF8 ∧
    text = Json.indented (.list (results.map CaseResult.toValue)) ∧
    ((∀ r ∈ results, ∀ s ∈ r.steps, s.number.natAbs < 10 ^ Number.digitLimit) →
      Json.read text = .ok (.list (results.map CaseResult.toValue)))

/-- What the recorder writes to a file holds the results. -/
theorem Disk.holdsResults_of_readBytes {d : Disk} {path : Path} {results : List CaseResult}
    (h : d.readBytes path = .ok (Rig.logText results).toUTF8) : d.HoldsResults path results := by
  refine ⟨_, h, rfl, fun short ↦ Json.read_indented (.list fun v hv ↦ ?_)⟩
  obtain ⟨r, hr, rfl⟩ := List.mem_map.mp hv
  exact r.legible_toValue (short r hr)

end Playbook
