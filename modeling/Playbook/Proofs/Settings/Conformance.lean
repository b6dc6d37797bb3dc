import Playbook.Proofs.Number
import Playbook.Proofs.Value
import Playbook.Settings.Basic

/-!
# What a configuration may be

The configurations that stand for settings are described by what each setting may be
(`Conforms`), and what can be wrong with the others by the constraints of the schema that they
violate (`Violates`) and by what is said about each (`Worded`). Nothing is reported of the former
(`violations_eq_nil_iff`), and every violated constraint of the latter once (`violates_of_mem`,
`Violates.reported`), in the order of the places (`pairwise_violations`) and in its own words
(`reports_message`).
-/

namespace Playbook

namespace Settings

/-! ### What a setting may be -/

/-- What each setting of each section may be. -/
inductive Allowed : String → String → Value → Prop
  | logEnabled (b : Bool) : Allowed "logging" "enabled" (.bool b)
  | logDirectory {s : String} (filled : s ≠ "") : Allowed "logging" "outputPath" (.text s)
  | screenshotsEnabled (b : Bool) : Allowed "screenshots" "enabled" (.bool b)
  | screenshotsDirectory {s : String} (filled : s ≠ "") : Allowed "screenshots" "path" (.text s)
  | videosEnabled (b : Bool) : Allowed "videos" "enabled" (.bool b)
  | videosDirectory {s : String} (filled : s ≠ "") : Allowed "videos" "path" (.text s)
  | recording {s : String} (choice : s ∈ ["all", "failed", "off"]) :
    Allowed "videos" "recordOn" (.text s)
  | headless (b : Bool) : Allowed "browser" "headless" (.bool b)
  /-- A number that is a natural, written as an integer or not. -/
  | slowMo {n : Number} {k : Nat} (count : n.equal (.int k) = true) :
    Allowed "browser" "slowMo" (.number n)
  | tracePath (s : String) : Allowed "browser" "tracePath" (.text s)
  | noTracePath : Allowed "browser" "tracePath" .null

/-- A section conforms: it is an object of settings that are what they may be. -/
def SectionConforms (sectionName : String) (v : Value) : Prop :=
  ∃ settings, v = .object settings ∧
    ∀ name w, Value.field? settings name = some w → Allowed sectionName name w

/-- A configuration conforms: it is an object of known sections that conform. -/
def Conforms (raw : Value) : Prop :=
  ∃ sections, raw = .object sections ∧
    ∀ sectionName v, Value.field? sections sectionName = some v →
      sectionName ∈ ["logging", "screenshots", "videos", "browser"] ∧ SectionConforms sectionName v

/-! ### Constraints -/

/-- The kinds of constraints of the schema. -/
inductive Constraint where
  | type
  | minLength
  | minimum
  | enum
  | additionalProperties
  deriving DecidableEq, Repr

/-- The constraint that a problem is about. -/
def Problem.constraint : Problem → Constraint
  | .type _ _ => .type
  | .emptyText => .minLength
  | .belowZero _ => .minimum
  | .noOption _ _ => .enum
  | .unexpected _ => .additionalProperties

/-- A value breaks a constraint of a rule. -/
inductive Rule.Breaks : Rule → Value → Constraint → Prop
  | flag {v : Value} (other : ∀ b, v ≠ .bool b) : Breaks .flag v .type
  | text {v : Value} (other : ∀ s, v ≠ .text s) : Breaks .filledText v .type
  | empty : Breaks .filledText (.text "") .minLength
  | option {options : List String} {v : Value} (other : ∀ s ∈ options, v ≠ .text s) :
    Breaks (.oneOf options) v .enum
  | integer {v : Value} (other : ∀ n, v = .number n → ∀ k : Int, n.equal (.int k) = false) :
    Breaks .count v .type
  | negative {n : Number} (below : n.isNegative = true) : Breaks .count (.number n) .minimum
  | optional {v : Value} (other : ∀ s, v ≠ .text s) (notNull : v ≠ .null) :
    Breaks .optionalText v .type

/-- A configuration violates a constraint of the schema at a place. -/
inductive Violates : Value → List String → Constraint → Prop
  | root {raw : Value} (other : ∀ sections, raw ≠ .object sections) : Violates raw [] .type
  | unknownSection {sections : List (String × Value)} {name : String}
    (given : name ∈ Value.fieldNames sections) (unknown : name ∉ schema.map (·.1)) :
    Violates (.object sections) [] .additionalProperties
  | noObject {sections : List (String × Value)} {s : Section} {v : Value} (known : s ∈ schema)
    (given : Value.field? sections s.1 = some v) (other : ∀ settings, v ≠ .object settings) :
    Violates (.object sections) [s.1] .type
  | unknownSetting {sections settings : List (String × Value)} {s : Section} {name : String}
    (known : s ∈ schema) (given : Value.field? sections s.1 = some (.object settings))
    (named : name ∈ Value.fieldNames settings) (unknown : name ∉ s.2.map (·.1)) :
    Violates (.object sections) [s.1] .additionalProperties
  | setting {sections settings : List (String × Value)} {s : Section} {name : String} {rule : Rule}
    {v : Value} {k : Constraint} (known : s ∈ schema)
    (given : Value.field? sections s.1 = some (.object settings)) (ruled : (name, rule) ∈ s.2)
    (set : Value.field? settings name = some v) (breaks : rule.Breaks v k) :
    Violates (.object sections) [s.1, name] k

/-! ### Wording -/

/-- What is said about a value that breaks a constraint of a rule. -/
inductive Rule.Worded : Rule → Value → Constraint → String → Prop
  | flag {v : Value} (other : ∀ b, v ≠ .bool b) :
    Worded .flag v .type (v.quoted ++ " is not of type 'boolean'")
  | text {v : Value} (other : ∀ s, v ≠ .text s) :
    Worded .filledText v .type (v.quoted ++ " is not of type 'string'")
  | empty : Worded .filledText (.text "") .minLength "'' should be non-empty"
  | option {options : List String} {v : Value} (other : ∀ s ∈ options, v ≠ .text s) :
    Worded (.oneOf options) v .enum
      (v.quoted ++ " is not one of [" ++ ", ".intercalate (options.map Text.quoted) ++ "]")
  | integer {v : Value} (other : ∀ n, v = .number n → ∀ k : Int, n.equal (.int k) = false) :
    Worded .count v .type (v.quoted ++ " is not of type 'integer'")
  | negative {n : Number} (below : n.isNegative = true) :
    Worded .count (.number n) .minimum (n.text ++ " is less than the minimum of 0")
  | optional {v : Value} (other : ∀ s, v ≠ .text s) (notNull : v ≠ .null) :
    Worded .optionalText v .type (v.quoted ++ " is not of type 'string', 'null'")

/-- The names of fields that are not known, in their order. -/
structure Strangers (known : List String) (fields : List (String × Value)) (names : List String) :
    Prop where
  some : names ≠ []
  perm : names.Perm ((Value.fieldNames fields).filter fun name ↦ name ∉ known)
  sorted : names.Pairwise (· ≤ ·)

/-- What is said about names that are not known. -/
def aboutStrangers (names : List String) : String :=
  "Additional properties are not allowed (" ++ ", ".intercalate (names.map Text.quoted) ++
    (if names.length = 1 then " was" else " were") ++ " unexpected)"

/-- What is said about a constraint of the schema that a configuration violates at a place. -/
inductive Worded : Value → List String → Constraint → String → Prop
  | root {raw : Value} (other : ∀ sections, raw ≠ .object sections) :
    Worded raw [] .type (raw.quoted ++ " is not of type 'object'")
  | unknownSections {sections : List (String × Value)} {names : List String}
    (strangers : Strangers (schema.map (·.1)) sections names) :
    Worded (.object sections) [] .additionalProperties (aboutStrangers names)
  | noObject {sections : List (String × Value)} {s : Section} {v : Value} (known : s ∈ schema)
    (given : Value.field? sections s.1 = some v) (other : ∀ settings, v ≠ .object settings) :
    Worded (.object sections) [s.1] .type (v.quoted ++ " is not of type 'object'")
  | unknownSettings {sections settings : List (String × Value)} {s : Section} {names : List String}
    (known : s ∈ schema) (given : Value.field? sections s.1 = some (.object settings))
    (strangers : Strangers (s.2.map (·.1)) settings names) :
    Worded (.object sections) [s.1] .additionalProperties (aboutStrangers names)
  | setting {sections settings : List (String × Value)} {s : Section} {name : String} {rule : Rule}
    {v : Value} {k : Constraint} {text : String} (known : s ∈ schema)
    (given : Value.field? sections s.1 = some (.object settings)) (ruled : (name, rule) ∈ s.2)
    (set : Value.field? settings name = some v) (worded : rule.Worded v k text) :
    Worded (.object sections) [s.1, name] k text

/-- An entry of the report: the place, joined by slashes, and what is said about it. -/
def Reports (raw : Value) (v : Violation) (entry : String) : Prop :=
  ∃ text, Worded raw v.place v.problem.constraint text ∧
    entry = (if v.place = [] then "<root>" else "/".intercalate v.place) ++ ": " ++ text

/-- What is said about a broken constraint is said of one. -/
theorem Rule.Worded.breaks {rule : Rule} {v : Value} {k : Constraint} {text : String}
    (h : rule.Worded v k text) : rule.Breaks v k := by
  cases h with
  | flag other => exact .flag other
  | text other => exact .text other
  | empty => exact .empty
  | option other => exact .option other
  | integer other => exact .integer other
  | negative below => exact .negative below
  | optional other notNull => exact .optional other notNull

/-- There is a field with a name that is not known. -/
theorem Strangers.exists_name {known names : List String} {fields : List (String × Value)}
    (h : Strangers known fields names) : ∃ name ∈ Value.fieldNames fields, name ∉ known := by
  obtain ⟨name, mem⟩ := List.exists_mem_of_ne_nil _ h.some
  exact ⟨name, by simpa using h.perm.mem_iff.mp mem⟩

/-- What is said about a violated constraint is said of one. -/
theorem Worded.violates {raw : Value} {place : List String} {k : Constraint} {text : String}
    (h : Worded raw place k text) : Violates raw place k := by
  cases h with
  | root other => exact .root other
  | unknownSections strangers =>
    obtain ⟨name, given, unknown⟩ := strangers.exists_name
    exact .unknownSection given unknown
  | noObject known given other => exact .noObject known given other
  | unknownSettings known given strangers =>
    obtain ⟨name, named, unknown⟩ := strangers.exists_name
    exact .unknownSetting known given named unknown
  | setting known given ruled set worded => exact .setting known given ruled set worded.breaks

private theorem message_type {v : Value} {types : List String} {text : String}
    (h : " is not of type " ++ ", ".intercalate (types.map Text.quoted) = text) :
    (Problem.type v types).message = v.quoted ++ text := by
  subst h
  exact String.append_assoc ..

private theorem message_noOption (v : Value) (options : List String) :
    (Problem.noOption v options).message =
      v.quoted ++ " is not one of [" ++ ", ".intercalate (options.map Text.quoted) ++ "]" := by
  have items : Value.quotedItems (options.map .text) = options.map Text.quoted := by
    induction options with
    | nil => rfl
    | cons text texts ih => rw [List.map_cons, Value.quotedItems, ih, List.map_cons, Value.quoted]
  have message : (Problem.noOption v options).message =
      v.quoted ++ " is not one of " ++ (Value.texts options).quoted := rfl
  have opening : " is not one of " ++ "[" = " is not one of [" := by simp
  rw [message, Value.texts, Value.quoted, items, ← opening]
  simp only [String.append_assoc]

section Problems

variable {v : Value} {p : Problem} {options : List String} {k : Constraint}

private theorem Rule.mem_problems_flag :
    p ∈ Rule.flag.problems v ↔ p = .type v ["boolean"] ∧ ∀ b, v ≠ .bool b := by
  cases v <;> simp [Rule.problems]

private theorem Rule.mem_problems_filledText : p ∈ Rule.filledText.problems v ↔
    (p = .type v ["string"] ∧ ∀ s, v ≠ .text s) ∨ (p = .emptyText ∧ v = .text "") := by
  cases v with
  | text s => by_cases hs : s = "" <;> simp [Rule.problems, hs]
  | _ => simp [Rule.problems]

private theorem Rule.mem_problems_oneOf : p ∈ (Rule.oneOf options).problems v ↔
    p = .noOption v options ∧ ∀ s ∈ options, v ≠ .text s := by
  cases v with
  | text s =>
    have others : (∀ t ∈ options, Value.text s ≠ .text t) ↔ s ∉ options := by
      simp only [ne_eq, Value.text.injEq]
      exact ⟨fun h hs ↦ h s hs rfl, fun h t ht same ↦ h (same ▸ ht)⟩
    rw [others]
    by_cases hs : s ∈ options <;> simp [Rule.problems, hs]
  | _ => simp [Rule.problems]

private theorem Rule.mem_problems_count : p ∈ Rule.count.problems v ↔
    (p = .type v ["integer"] ∧ ∀ n, v = .number n → ∀ k : Int, n.equal (.int k) = false) ∨
      (p = .belowZero v ∧ ∃ n, v = .number n ∧ n.isNegative = true) := by
  cases v with
  | number n =>
    have fraction : n.isIntegral = false ↔ ∀ k : Int, n.equal (.int k) = false := by
      rw [← Bool.not_eq_true, Number.isIntegral_iff]
      simp
    by_cases below : n.isNegative = true <;> simp [Rule.problems, below, ← fraction, and_comm]
  | _ => simp [Rule.problems]

private theorem Rule.mem_problems_optionalText : p ∈ Rule.optionalText.problems v ↔
    p = .type v ["string", "null"] ∧ (∀ s, v ≠ .text s) ∧ v ≠ .null := by
  cases v <;> simp [Rule.problems]

/-- What a rule has as a problem with a value is worded as a constraint that the value breaks. -/
theorem Rule.worded_of_mem {rule : Rule} (h : p ∈ rule.problems v) :
    rule.Worded v p.constraint p.message := by
  cases rule with
  | flag =>
    obtain ⟨rfl, other⟩ := mem_problems_flag.mp h
    rw [message_type (by decide : _ = " is not of type 'boolean'")]
    exact .flag other
  | filledText =>
    obtain ⟨rfl, other⟩ | ⟨rfl, rfl⟩ := mem_problems_filledText.mp h
    · rw [message_type (by decide : _ = " is not of type 'string'")]
      exact .text other
    · exact .empty
  | oneOf options =>
    obtain ⟨rfl, other⟩ := mem_problems_oneOf.mp h
    rw [message_noOption]
    exact .option other
  | count =>
    obtain ⟨rfl, other⟩ | ⟨rfl, n, rfl, below⟩ := mem_problems_count.mp h
    · rw [message_type (by decide : _ = " is not of type 'integer'")]
      exact .integer other
    · exact .negative below
  | optionalText =>
    obtain ⟨rfl, other, notNull⟩ := mem_problems_optionalText.mp h
    rw [message_type (by decide : _ = " is not of type 'string', 'null'")]
    exact .optional other notNull

/-- A rule has a problem with a value for each constraint that the value breaks. -/
theorem Rule.breaks_iff {rule : Rule} :
    rule.Breaks v k ↔ ∃ p ∈ rule.problems v, p.constraint = k := by
  constructor
  · intro h
    cases h with
    | flag other => exact ⟨_, mem_problems_flag.mpr ⟨rfl, other⟩, rfl⟩
    | text other => exact ⟨_, mem_problems_filledText.mpr (.inl ⟨rfl, other⟩), rfl⟩
    | empty => exact ⟨_, mem_problems_filledText.mpr (.inr ⟨rfl, rfl⟩), rfl⟩
    | option other => exact ⟨_, mem_problems_oneOf.mpr ⟨rfl, other⟩, rfl⟩
    | integer other => exact ⟨_, mem_problems_count.mpr (.inl ⟨rfl, other⟩), rfl⟩
    | negative below => exact ⟨_, mem_problems_count.mpr (.inr ⟨rfl, _, rfl, below⟩), rfl⟩
    | optional other notNull =>
      exact ⟨_, mem_problems_optionalText.mpr ⟨rfl, other, notNull⟩, rfl⟩
  · rintro ⟨p, h, rfl⟩
    exact (worded_of_mem h).breaks

end Problems

/-! ### What is reported -/

/-- Unexpected fields are reported together, in the order of their names. -/
theorem exists_of_mem_unexpected {known : List String} {fields : List (String × Value)}
    {p : Problem} (h : p ∈ unexpected known fields) :
    ∃ names, Strangers known fields names ∧ p = .unexpected names := by
  unfold unexpected at h
  dsimp only at h
  split at h
  · cases h
  · next some =>
    have perm := List.mergeSort_perm
      ((fields.map (·.1)).filter fun name ↦ !known.contains name) fun a b ↦ decide (a ≤ b)
    refine ⟨_, ⟨?_, ?_, ?_⟩, List.mem_singleton.mp h⟩
    · intro none
      rw [none] at perm
      rw [← perm.nil_eq] at some
      exact some rfl
    · refine perm.trans (.of_eq (List.filter_congr fun name _ ↦ ?_))
      simp
    · have transitive (a b c : String) (h : decide (a ≤ b) = true) (h' : decide (b ≤ c) = true) :
          decide (a ≤ c) = true :=
        decide_eq_true (String.le_trans (of_decide_eq_true h) (of_decide_eq_true h'))
      have sorted := List.pairwise_mergeSort transitive (by simpa using String.le_total)
        ((fields.map (·.1)).filter fun name ↦ !known.contains name)
      simpa using sorted

private theorem unexpected_ne_nil {known : List String} {fields : List (String × Value)}
    {name : String} (given : name ∈ Value.fieldNames fields) (unknown : name ∉ known) :
    ∃ p ∈ unexpected known fields, p.constraint = .additionalProperties := by
  have mem : name ∈ (fields.map (·.1)).filter fun name => !known.contains name := by
    simpa [Value.fieldNames, unknown] using given
  unfold unexpected
  rw [if_neg (by simpa using List.ne_nil_of_mem mem)]
  exact ⟨_, List.mem_singleton_self _, rfl⟩

/-- What is reported of the settings of a section is about one of them. -/
theorem exists_of_mem_settingViolations {sectionName : String} {rules : List (String × Rule)}
    {fields : List (String × Value)} {v : Violation}
    (h : v ∈ settingViolations sectionName rules fields) :
    ∃ name rule w, (name, rule) ∈ rules ∧ Value.field? fields name = some w ∧
      v.place = [sectionName, name] ∧ v.problem ∈ rule.problems w := by
  obtain ⟨⟨name, rule⟩, ruled, mem⟩ := List.mem_flatMap.mp h
  dsimp only at mem
  split at mem
  · next w set =>
    obtain ⟨p, problem, rfl⟩ := List.mem_map.mp mem
    exact ⟨name, rule, w, ruled, set, rfl, problem⟩
  · cases mem

/-- What is reported is worded as a violated constraint. -/
theorem worded_of_mem {raw : Value} {v : Violation} (h : v ∈ violations raw) :
    Worded raw v.place v.problem.constraint v.problem.message := by
  cases raw with
  | object sections =>
    cases List.mem_append.mp h with
    | inl whole =>
      obtain ⟨p, mem, rfl⟩ := List.mem_map.mp whole
      obtain ⟨names, strangers, rfl⟩ := exists_of_mem_unexpected mem
      exact .unknownSections strangers
    | inr below =>
      obtain ⟨s, known, mem⟩ := List.mem_flatMap.mp below
      split at mem
      · next w given =>
        cases w with
        | object settings =>
          cases List.mem_append.mp mem with
          | inl whole =>
            obtain ⟨p, problem, rfl⟩ := List.mem_map.mp whole
            obtain ⟨names, strangers, rfl⟩ := exists_of_mem_unexpected problem
            exact .unknownSettings known given strangers
          | inr below =>
            obtain ⟨name, rule, w, ruled, set, place, problem⟩ :=
              exists_of_mem_settingViolations below
            rw [place]
            exact .setting known given ruled set (Rule.worded_of_mem problem)
        | _ =>
          obtain rfl := List.mem_singleton.mp mem
          rw [message_type (by decide : _ = " is not of type 'object'")]
          exact .noObject known given (by simp)
      · cases mem
  | _ =>
    obtain rfl := List.mem_singleton.mp h
    rw [message_type (by decide : _ = " is not of type 'object'")]
    exact .root (by simp)

/-- What is reported is a violated constraint. -/
theorem violates_of_mem {raw : Value} {v : Violation} (h : v ∈ violations raw) :
    Violates raw v.place v.problem.constraint :=
  (worded_of_mem h).violates

/-- The wording of what is reported is an entry of the report. -/
theorem reports_message {raw : Value} {v : Violation} (h : v ∈ violations raw) :
    Reports raw v v.message := by
  refine ⟨_, worded_of_mem h, ?_⟩
  rw [Violation.message]
  simp only [List.isEmpty_iff]

/-- What is reported of a section is reported of the configuration. -/
theorem mem_violations_of_section {sections : List (String × Value)} {s : Section} {w : Value}
    {v : Violation} (known : s ∈ schema) (given : Value.field? sections s.1 = some w)
    (h : v ∈ sectionViolations s w) : v ∈ violations (.object sections) := by
  apply List.mem_append_right
  apply List.mem_flatMap.mpr
  refine ⟨s, known, ?_⟩
  rw [given]
  exact h

/-- What is violated is reported. -/
theorem Violates.reported {raw : Value} {place : List String} {k : Constraint}
    (h : Violates raw place k) :
    ∃ v ∈ violations raw, v.place = place ∧ v.problem.constraint = k := by
  cases h with
  | root other =>
    cases raw with
    | object sections => exact absurd rfl (other sections)
    | _ => exact ⟨_, List.mem_singleton_self _, rfl, rfl⟩
  | unknownSection given unknown =>
    obtain ⟨p, mem, same⟩ := unexpected_ne_nil given unknown
    exact ⟨⟨[], p⟩, List.mem_append_left _ (List.mem_map_of_mem mem), rfl, same⟩
  | @noObject _ s v known given other =>
    refine ⟨⟨[s.1], .type v ["object"]⟩, mem_violations_of_section known given ?_, rfl, rfl⟩
    cases v with
    | object settings => exact absurd rfl (other settings)
    | _ => exact List.mem_singleton_self _
  | @unknownSetting _ _ s _ known given named unknown =>
    obtain ⟨p, mem, same⟩ := unexpected_ne_nil named unknown
    refine ⟨⟨[s.1], p⟩, mem_violations_of_section known given ?_, rfl, same⟩
    exact List.mem_append_left _ (List.mem_map_of_mem mem)
  | @setting _ _ s name rule _ _ known given ruled set breaks =>
    obtain ⟨p, mem, same⟩ := Rule.breaks_iff.mp breaks
    refine ⟨⟨[s.1, name], p⟩, mem_violations_of_section known given ?_, rfl, same⟩
    apply List.mem_append_right
    apply List.mem_flatMap.mpr
    refine ⟨(name, rule), ruled, ?_⟩
    dsimp only
    rw [set]
    exact List.mem_map_of_mem mem

/-! ### The order of the report -/

/-- An entry stands before another: its place comes first, or it is the same and the constraint
another. -/
def Violation.Precedes (v w : Violation) : Prop :=
  v.place < w.place ∨ (v.place = w.place ∧ v.problem.constraint ≠ w.problem.constraint)

/-- Each constraint of a rule is broken once. -/
theorem Rule.pairwise_problems (rule : Rule) (v : Value) :
    (rule.problems v).Pairwise fun p q ↦ p.constraint ≠ q.constraint := by
  cases rule with
  | count =>
    cases v with
    | number n =>
      by_cases whole : n.isIntegral = true <;> by_cases below : n.isNegative = true <;>
        simp [Rule.problems, whole, below, Problem.constraint]
    | _ => exact List.pairwise_singleton _ _
  | filledText =>
    cases v with
    | text s => by_cases hs : s = "" <;> simp [Rule.problems, hs]
    | _ => exact List.pairwise_singleton _ _
  | oneOf options =>
    cases v with
    | text s => by_cases hs : s ∈ options <;> simp [Rule.problems, hs]
    | _ => exact List.pairwise_singleton _ _
  | _ => cases v <;> simp [Rule.problems]

private theorem pairwise_unexpected (known : List String) (fields : List (String × Value)) :
    (unexpected known fields).Pairwise fun p q ↦ p.constraint ≠ q.constraint := by
  unfold unexpected
  dsimp only
  split
  · exact .nil
  · exact List.pairwise_singleton _ _

/-- Different constraints of one place stand in any order. -/
theorem pairwise_map_place {place : List String} {ps : List Problem}
    (h : ps.Pairwise fun p q ↦ p.constraint ≠ q.constraint) :
    (ps.map fun p ↦ (⟨place, p⟩ : Violation)).Pairwise Violation.Precedes :=
  List.pairwise_map.mpr (h.imp fun apart ↦ .inr ⟨rfl, apart⟩)

/-- The settings of a section are reported in the order of their names. -/
theorem pairwise_settingViolations {sectionName : String} {rules : List (String × Rule)}
    {fields : List (String × Value)} (sorted : rules.Pairwise fun a b ↦ a.1 < b.1) :
    (settingViolations sectionName rules fields).Pairwise Violation.Precedes := by
  have place {r : String × Rule} {v : Violation}
      (h : v ∈ settingViolations sectionName [r] fields) : v.place = [sectionName, r.1] := by
    obtain ⟨name, rule, w, mem, -, place, -⟩ := exists_of_mem_settingViolations h
    cases List.mem_singleton.mp mem
    exact place
  refine List.pairwise_flatMap.mpr ⟨fun (name, rule) _ ↦ ?_,
    sorted.imp fun before v hv w hw ↦ .inl ?_⟩
  · dsimp only
    split
    · exact pairwise_map_place (rule.pairwise_problems _)
    · exact .nil
  · rw [place (by simpa [settingViolations] using hv),
      place (by simpa [settingViolations] using hw)]
    exact List.cons_lt_cons_iff.mpr (.inr ⟨rfl, List.cons_lt_cons_iff.mpr (.inl before)⟩)

/-- What is reported of a section is in a place below its name. -/
theorem exists_place_of_section {s : Section} {w : Value} {v : Violation}
    (h : v ∈ sectionViolations s w) : ∃ rest, v.place = s.1 :: rest := by
  cases w with
  | object settings =>
    cases List.mem_append.mp h with
    | inl whole =>
      obtain ⟨p, -, rfl⟩ := List.mem_map.mp whole
      exact ⟨[], rfl⟩
    | inr below =>
      obtain ⟨name, _, _, _, _, place, _⟩ := exists_of_mem_settingViolations below
      exact ⟨[name], place⟩
  | _ =>
    obtain rfl := List.mem_singleton.mp h
    exact ⟨[], rfl⟩

/-- What is wrong with a section is reported before what is wrong with its settings. -/
theorem pairwise_sectionViolations {s : Section} (w : Value)
    (sorted : s.2.Pairwise fun a b ↦ a.1 < b.1) :
    (sectionViolations s w).Pairwise Violation.Precedes := by
  cases w with
  | object settings =>
    refine List.pairwise_append.mpr ⟨pairwise_map_place (pairwise_unexpected _ _),
      pairwise_settingViolations sorted, fun v hv u hu ↦ .inl ?_⟩
    obtain ⟨p, -, rfl⟩ := List.mem_map.mp hv
    obtain ⟨name, _, _, _, _, place, _⟩ := exists_of_mem_settingViolations hu
    rw [place]
    exact List.cons_lt_cons_iff.mpr (.inr ⟨rfl, List.nil_lt_cons _ _⟩)
  | _ => exact List.pairwise_singleton _ _

/-- Everything is reported in the order of the places, and nothing twice. -/
theorem pairwise_violations (raw : Value) : (violations raw).Pairwise Violation.Precedes := by
  have sections : schema.Pairwise fun a b ↦ a.1 < b.1 := by decide
  have settings : ∀ s ∈ schema, s.2.Pairwise fun a b ↦ a.1 < b.1 := by decide
  cases raw with
  | object fields =>
    refine List.pairwise_append.mpr ⟨pairwise_map_place (pairwise_unexpected _ _),
      List.pairwise_flatMap.mpr ⟨fun s known ↦ ?_, ?_⟩, fun v hv u hu ↦ .inl ?_⟩
    · split
      · exact pairwise_sectionViolations _ (settings s known)
      · exact .nil
    · refine sections.imp fun before v hv w hw ↦ .inl ?_
      split at hv
      · split at hw
        · obtain ⟨rest, place⟩ := exists_place_of_section hv
          obtain ⟨rest', place'⟩ := exists_place_of_section hw
          rw [place, place']
          exact List.cons_lt_cons_iff.mpr (.inl before)
        · cases hw
      · cases hv
    · obtain ⟨p, -, rfl⟩ := List.mem_map.mp hv
      obtain ⟨s, -, mem⟩ := List.mem_flatMap.mp hu
      split at mem
      · obtain ⟨rest, place⟩ := exists_place_of_section mem
        rw [place]
        exact List.nil_lt_cons _ _
      · cases mem
  | _ => exact List.pairwise_singleton _ _

/-! ### What is refused -/

section Rules

variable {v : Value} {options : List String}

private theorem Rule.problems_flag_eq_nil : Rule.flag.problems v = [] ↔ ∃ b, v = .bool b := by
  cases v <;> simp [Rule.problems]

private theorem Rule.problems_filledText_eq_nil :
    Rule.filledText.problems v = [] ↔ ∃ s, v = .text s ∧ s ≠ "" := by
  cases v <;> simp [Rule.problems]

private theorem Rule.problems_oneOf_eq_nil :
    (Rule.oneOf options).problems v = [] ↔ ∃ s ∈ options, v = .text s := by
  cases v <;> simp [Rule.problems]

private theorem Rule.problems_count_eq_nil : Rule.count.problems v = [] ↔
    ∃ n k, v = .number n ∧ n.equal (.int (Int.ofNat k)) = true := by
  cases v with
  | number n =>
    have count := Number.isCount_iff (n := n)
    simp [Rule.problems, count]
  | _ => simp [Rule.problems]

private theorem Rule.problems_optionalText_eq_nil :
    Rule.optionalText.problems v = [] ↔ (∃ s, v = .text s) ∨ v = .null := by
  cases v <;> simp [Rule.problems]

end Rules

/-- A setting may be what its rule has no problem with. -/
theorem allowed_iff {sectionName name : String} {v : Value} : Allowed sectionName name v ↔
    ∃ s ∈ schema, s.1 = sectionName ∧ ∃ rule, (name, rule) ∈ s.2 ∧ rule.problems v = [] := by
  constructor
  · intro h
    cases h with
    | @slowMo n k count =>
      have fine : Rule.count.problems (.number n) = [] :=
        Rule.problems_count_eq_nil.mpr ⟨n, k, rfl, count⟩
      simp [schema, fine]
    | _ => simp_all [schema, Rule.problems]
  · rintro ⟨s, known, rfl, rule, ruled, fine⟩
    simp only [schema, List.mem_cons, List.not_mem_nil, or_false] at known
    rcases known with rfl | rfl | rfl | rfl
    all_goals simp only [List.mem_cons, Prod.mk.injEq, List.not_mem_nil, or_false] at ruled
    · rcases ruled with ⟨rfl, rfl⟩ | ⟨rfl, rfl⟩ | ⟨rfl, rfl⟩
      · obtain ⟨b, rfl⟩ := Rule.problems_flag_eq_nil.mp fine
        exact .headless b
      · obtain ⟨n, k, rfl, count⟩ := Rule.problems_count_eq_nil.mp fine
        exact .slowMo count
      · obtain ⟨s, rfl⟩ | rfl := Rule.problems_optionalText_eq_nil.mp fine
        · exact .tracePath s
        · exact .noTracePath
    · rcases ruled with ⟨rfl, rfl⟩ | ⟨rfl, rfl⟩
      · obtain ⟨b, rfl⟩ := Rule.problems_flag_eq_nil.mp fine
        exact .logEnabled b
      · obtain ⟨s, rfl, filled⟩ := Rule.problems_filledText_eq_nil.mp fine
        exact .logDirectory filled
    · rcases ruled with ⟨rfl, rfl⟩ | ⟨rfl, rfl⟩
      · obtain ⟨b, rfl⟩ := Rule.problems_flag_eq_nil.mp fine
        exact .screenshotsEnabled b
      · obtain ⟨s, rfl, filled⟩ := Rule.problems_filledText_eq_nil.mp fine
        exact .screenshotsDirectory filled
    · rcases ruled with ⟨rfl, rfl⟩ | ⟨rfl, rfl⟩ | ⟨rfl, rfl⟩
      · obtain ⟨b, rfl⟩ := Rule.problems_flag_eq_nil.mp fine
        exact .videosEnabled b
      · obtain ⟨s, rfl, filled⟩ := Rule.problems_filledText_eq_nil.mp fine
        exact .videosDirectory filled
      · obtain ⟨s, choice, rfl⟩ := Rule.problems_oneOf_eq_nil.mp fine
        exact .recording choice

/-- The schema has one section of a name. -/
theorem schema_unique : ∀ s ∈ schema, ∀ t ∈ schema, s.1 = t.1 → s = t := by decide

/-- A section has one rule for a setting. -/
theorem rule_unique : ∀ s ∈ schema, ∀ r ∈ s.2, ∀ r' ∈ s.2, r.1 = r'.1 → r = r' := by decide

/-- The known sections are those of the schema. -/
theorem mem_sections_iff {name : String} :
    name ∈ ["logging", "screenshots", "videos", "browser"] ↔ name ∈ schema.map (·.1) := by
  have perm : ["logging", "screenshots", "videos", "browser"].Perm (schema.map (·.1)) := by decide
  exact perm.mem_iff

/-- A configuration that conforms violates nothing. -/
theorem Conforms.not_violates {raw : Value} {place : List String} {k : Constraint}
    (conforms : Conforms raw) : ¬Violates raw place k := by
  obtain ⟨sections, rfl, conforms⟩ := conforms
  intro h
  cases h with
  | root other => exact other sections rfl
  | unknownSection given unknown =>
    obtain ⟨v, found⟩ := Value.exists_field?_iff.mpr given
    exact unknown (mem_sections_iff.mp (conforms _ v found).1)
  | noObject known given other =>
    obtain ⟨-, settings, rfl, -⟩ := conforms _ _ given
    exact other settings rfl
  | @unknownSetting _ settings s _ known given named unknown =>
    obtain ⟨-, _, same, allowed⟩ := conforms _ _ given
    cases same
    obtain ⟨w, found⟩ := Value.exists_field?_iff.mpr named
    obtain ⟨t, known', same, rule, ruled, -⟩ := allowed_iff.mp (allowed _ w found)
    rw [schema_unique t known' s known same] at ruled
    exact unknown (List.mem_map_of_mem (f := (·.1)) ruled)
  | @setting _ settings s _ rule _ _ known given ruled set breaks =>
    obtain ⟨-, _, same, allowed⟩ := conforms _ _ given
    cases same
    obtain ⟨t, known', same, rule', ruled', fine⟩ := allowed_iff.mp (allowed _ _ set)
    rw [schema_unique t known' s known same] at ruled'
    have one := rule_unique s known _ ruled _ ruled' rfl
    obtain ⟨p, problem, -⟩ := Rule.breaks_iff.mp breaks
    rw [show rule = rule' from (Prod.mk.inj one).2, fine] at problem
    cases problem

/-- A configuration that violates nothing conforms. -/
theorem conforms_of_not_violates {raw : Value} (h : ∀ place k, ¬Violates raw place k) :
    Conforms raw := by
  obtain ⟨sections, rfl⟩ : ∃ sections, raw = .object sections := by
    refine Classical.byContradiction fun none ↦ ?_
    exact h _ _ (.root fun sections same ↦ none ⟨sections, same⟩)
  refine ⟨sections, rfl, fun sectionName v given ↦ ?_⟩
  have listed : sectionName ∈ schema.map (·.1) := by
    refine Classical.byContradiction fun unknown ↦ ?_
    exact h _ _ (.unknownSection (Value.exists_field?_iff.mp ⟨v, given⟩) unknown)
  refine ⟨mem_sections_iff.mpr listed, ?_⟩
  obtain ⟨s, known, rfl⟩ := List.mem_map.mp listed
  obtain ⟨settings, rfl⟩ : ∃ settings, v = .object settings := by
    refine Classical.byContradiction fun none ↦ ?_
    exact h _ _ (.noObject known given fun settings same ↦ none ⟨settings, same⟩)
  refine ⟨settings, rfl, fun name w set ↦ ?_⟩
  have named : name ∈ s.2.map (·.1) := by
    refine Classical.byContradiction fun unknown ↦ ?_
    exact h _ _ (.unknownSetting known given (Value.exists_field?_iff.mp ⟨w, set⟩) unknown)
  obtain ⟨⟨name, rule⟩, ruled, rfl⟩ := List.mem_map.mp named
  refine allowed_iff.mpr ⟨s, known, rfl, rule, ruled, List.eq_nil_iff_forall_not_mem.mpr ?_⟩
  intro p problem
  exact h _ _ (.setting known given ruled set (Rule.breaks_iff.mpr ⟨p, problem, rfl⟩))

/-- Nothing is reported of a configuration if and only if it conforms. -/
theorem violations_eq_nil_iff {raw : Value} : violations raw = [] ↔ Conforms raw := by
  constructor
  · intro none
    apply conforms_of_not_violates
    intro place k violates
    obtain ⟨v, mem, -⟩ := violates.reported
    rw [none] at mem
    cases mem
  · intro conforms
    apply List.eq_nil_iff_forall_not_mem.mpr
    intro v mem
    exact conforms.not_violates (violates_of_mem mem)

/-- Whether a configuration conforms is told by what is reported of it. -/
instance (raw : Value) : Decidable (Conforms raw) :=
  decidable_of_iff ((violations raw).isEmpty = true) (by
    rw [List.isEmpty_iff]
    exact violations_eq_nil_iff)

variable {switches : Switches} {workingDirectory : Location} {base : Path} {raw : Value}

/-- Settings of a configuration that conforms are built if its paths name something. -/
theorem build_of_conforms (conforms : Conforms raw) :
    build switches workingDirectory base raw =
      if (pathsSeen base raw).all Path.isNameable then
        .ok (ofConforming switches workingDirectory base raw)
      else .error .unnameablePath := by
  simp [build, violations_eq_nil_iff.mpr conforms]

/-- A configuration that does not conform is refused with everything in which it does not. -/
theorem build_of_not_conforms (departs : ¬Conforms raw) :
    build switches workingDirectory base raw = .error (.invalid (violations raw)) := by
  have some : violations raw ≠ [] := mt violations_eq_nil_iff.mp departs
  simp [build, some]

end Settings

end Playbook
