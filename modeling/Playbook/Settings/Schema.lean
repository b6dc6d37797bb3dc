import Playbook.Value.Display

/-!
# The shape of a configuration

A configuration is an object of sections, a section an object of settings, and every setting
follows a rule. `violations` lists everything in which a value departs from this shape, in the
order of the paths to the places: what is wrong with the whole comes first, what is wrong with a
section comes before what is wrong with its settings. A value conforms when the list is empty.
-/

namespace Playbook.Settings

/-- What a setting may be. -/
inductive Rule where
  /-- A truth value. -/
  | flag
  /-- A text with at least one character. -/
  | filledText
  /-- One of some texts. -/
  | oneOf (options : List String)
  /-- A number without a fractional part, zero or above. -/
  | count
  /-- A text, or null. -/
  | optionalText
  deriving DecidableEq, Repr

/-- A section and the rules of its settings. -/
abbrev Section := String × List (String × Rule)

/-- The sections and their settings, in the order of their names. -/
def schema : List Section :=
  [("browser", [("headless", .flag), ("slowMo", .count), ("tracePath", .optionalText)]),
    ("logging", [("enabled", .flag), ("outputPath", .filledText)]),
    ("screenshots", [("enabled", .flag), ("path", .filledText)]),
    ("videos",
      [("enabled", .flag), ("path", .filledText), ("recordOn", .oneOf ["all", "failed", "off"])])]

/-- What can be wrong at a place. -/
inductive Problem where
  /-- The value is of none of the types. -/
  | type (value : Value) (types : List String)
  /-- The text is empty. -/
  | emptyText
  /-- The number is below zero. -/
  | belowZero (value : Value)
  /-- The value is none of the options. -/
  | noOption (value : Value) (options : List String)
  /-- The object has fields that it may not have. -/
  | unexpected (names : List String)
  deriving Repr

/-- The wording of a problem. -/
def Problem.message : Problem → String
  | .type v types => v.quoted ++ " is not of type " ++ ", ".intercalate (types.map Text.quoted)
  | .emptyText => "'' should be non-empty"
  | .belowZero v => v.quoted ++ " is less than the minimum of 0"
  | .noOption v options => v.quoted ++ " is not one of " ++ (Value.texts options).quoted
  | .unexpected names =>
    "Additional properties are not allowed (" ++ ", ".intercalate (names.map Text.quoted) ++
      (if names.length = 1 then " was" else " were") ++ " unexpected)"

/-- A place, by the names that lead to it, and what is wrong there. -/
structure Violation where
  place : List String
  problem : Problem
  deriving Repr

/-- The wording of a violation. -/
def Violation.message (v : Violation) : String :=
  (if v.place.isEmpty then "<root>" else "/".intercalate v.place) ++ ": " ++ v.problem.message

/-- What is wrong with a value under a rule. -/
def Rule.problems (v : Value) : Rule → List Problem
  | .flag =>
    match v with
    | .bool _ => []
    | _ => [.type v ["boolean"]]
  | .filledText =>
    match v with
    | .text s => if s.isEmpty then [.emptyText] else []
    | _ => [.type v ["string"]]
  | .oneOf options =>
    match v with
    | .text s => if options.contains s then [] else [.noOption v options]
    | _ => [.noOption v options]
  | .count =>
    match v with
    | .number n =>
      (if n.isIntegral then [] else [.type v ["integer"]]) ++
        (if n.isNegative then [.belowZero v] else [])
    | _ => [.type v ["integer"]]
  | .optionalText =>
    match v with
    | .text _ => []
    | .null => []
    | _ => [.type v ["string", "null"]]

/-- Fields that an object may not have, in the order of their names. -/
def unexpected (known : List String) (fields : List (String × Value)) : List Problem :=
  let names := (fields.map (·.1)).filter fun name => !known.contains name
  if names.isEmpty then [] else [.unexpected (names.mergeSort fun a b => decide (a ≤ b))]

/-- What is wrong with the settings of a section. -/
def settingViolations (sectionName : String) (rules : List (String × Rule))
    (fields : List (String × Value)) : List Violation :=
  rules.flatMap fun (name, rule) =>
    match Value.field? fields name with
    | some v => (rule.problems v).map fun p => ⟨[sectionName, name], p⟩
    | none => []

/-- What is wrong with a section. -/
def sectionViolations (s : Section) (v : Value) : List Violation :=
  match v with
  | .object fields =>
    (unexpected (s.2.map (·.1)) fields).map (fun p => ⟨[s.1], p⟩) ++
      settingViolations s.1 s.2 fields
  | v => [⟨[s.1], .type v ["object"]⟩]

/-- What is wrong with a configuration. -/
def violations (raw : Value) : List Violation :=
  match raw with
  | .object fields =>
    (unexpected (schema.map (·.1)) fields).map (fun p => ⟨[], p⟩) ++
      schema.flatMap fun s =>
        match Value.field? fields s.1 with
        | some v => sectionViolations s v
        | none => []
  | v => [⟨[], .type v ["object"]⟩]

end Playbook.Settings
