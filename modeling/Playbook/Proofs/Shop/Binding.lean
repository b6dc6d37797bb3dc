import Playbook.Proofs.Shop.Usage
import Playbook.Proofs.Shop.Keeping

/-!
# What performing binds

The environment is shared by all cases of a run, so it matters that an action that fails leaves it
alone, whatever it failed at, and that one that goes through binds no more than its own variable and
the title of the page (`perform_binds`). The title is kept after the variable: only if there is none
to tell, a price that is remembered as the title stays (`price_kept_as_title`).
-/

namespace Playbook

open Browser

variable {β : Type}

/-- One environment comes from another by binding some names: all others are as they were, and the
names that were bound stay in order. -/
structure Environment.ChangesOnly (names : List String) (e e' : Environment) : Prop where
  order : e.names <+: e'.names
  others : ∀ name ∉ names, e'.get? name = e.get? name

namespace Environment.ChangesOnly

variable {names more : List String} {e e' : Environment}

/-- Where nothing is bound, nothing is changed. -/
theorem refl (names : List String) (e : Environment) : e.ChangesOnly names e :=
  ⟨List.prefix_rfl, fun _ _ ↦ rfl⟩

/-- Binding one of the names changes no other. -/
theorem set (h : e.ChangesOnly names e') {name : String} (own : name ∈ names) (v : Value) :
    e.ChangesOnly names (e'.set name v) where
  order := by
    rw [names_set]
    split
    · exact h.order
    · exact h.order.trans (List.prefix_append _ _)
  others other ho :=
    (get?_set_of_ne e' v (ne_of_mem_of_not_mem own ho).symm).trans (h.others other ho)

/-- What changes no more than some names changes no more than others with them. -/
theorem mono (h : e.ChangesOnly names e') (sub : names ⊆ more) : e.ChangesOnly more e' :=
  ⟨h.order, fun name hn ↦ h.others name fun own ↦ hn (sub own)⟩

end Environment.ChangesOnly

namespace Rig

variable {rig : Rig β}

/-- The title that the open page tells, if there is a page and it tells one. -/
def titleOn (rig : Rig β) (s : Stage (Bench β)) : Option String :=
  match s.world.opened.page with
  | none => none
  | some page =>
    match (rig.outside.answer (.readTitle page.handle) s.world.outside).1 with
    | .ok title => title
    | .error _ => none

private theorem attempt_call (rig : Rig β) (c : Call) (s : Stage (Bench β)) :
    ∃ t, (Routine.attempt (rig.call c)).toPlay s =
        .ok ((rig.outside.answer c s.world.outside).1.mapError Mishap.failure) t ∧
      t.environment = s.environment := by
  unfold Routine.toPlay Routine.attempt call
  dsimp only
  cases (rig.outside.answer c s.world.outside).1 with
  | ok a => exact ⟨_, rfl, rfl⟩
  | error m => exact ⟨_, rfl, rfl⟩

private theorem pageTitle_eq (rig : Rig β) (s : Stage (Bench β)) :
    ∃ t, rig.pageTitle s = .ok (rig.titleOn s) t ∧ t.environment = s.environment := by
  unfold pageTitle titleOn
  rw [bind_of_ok (x := opened) (t := s) _ rfl]
  cases s.world.opened.page with
  | none => exact ⟨s, rfl, rfl⟩
  | some page =>
    obtain ⟨t, asked, same⟩ := rig.attempt_call (.readTitle page.handle) s
    dsimp only
    rw [bind_of_ok _ asked]
    cases (rig.outside.answer (.readTitle page.handle) s.world.outside).1 with
    | ok title => exact ⟨t, rfl, same⟩
    | error m => exact ⟨_, rfl, same⟩

end Rig

namespace Shop

open Rig

variable {rig : Rig β}

/-- The title that the open page tells is kept, and nothing else is bound. -/
theorem keepTitle_eq (rig : Rig β) (s : Stage (Bench β)) :
    ∃ u, keepTitle rig s = .ok () u ∧ u.environment =
      match rig.titleOn s with
      | some title => s.environment.set "pageTitle" (.text title)
      | none => s.environment := by
  obtain ⟨t, read, same⟩ := rig.pageTitle_eq s
  unfold keepTitle
  rw [bind_of_ok _ read, ← same]
  cases rig.titleOn s with
  | some title => exact ⟨_, rfl, rfl⟩
  | none => exact ⟨_, rfl, rfl⟩

-- An action binds its own variable at most, and none if it fails.
private theorem ensures_performText_binds (rig : Rig β) (page : Page) (action : String)
    (parameters : List String) (e : Environment) :
    Ensures (fun s ↦ s.environment = e) (performText rig page action parameters)
      (fun _ s ↦ e.ChangesOnly (namesOf action parameters) s.environment)
      fun _ s ↦ s.environment = e := by
  have acts : Acts rig page (fun s ↦ s.environment = e)
      (fun s ↦ e.ChangesOnly (namesOf action parameters) s.environment)
      fun _ s ↦ s.environment = e :=
    { called := fun c _ hc ↦ (rig.spares_environment e).called c hc
      complained := fun _ h ↦ h
      done := fun h ↦ h ▸ .refl _ _
      logged := fun h _ _ _ ↦ h }
  refine acts.performText action parameters (fun _ _ h ↦ h) fun name own s h v ↦ ?_
  exact (h ▸ .refl _ _ : e.ChangesOnly _ s.environment).set own v

private theorem binds_of_keepTitle {names : List String} {e : Environment} {v u : Stage (Bench β)}
    (own : e.ChangesOnly names v.environment)
    (kept : u.environment =
      match rig.titleOn v with
      | some title => v.environment.set "pageTitle" (.text title)
      | none => v.environment) :
    e.ChangesOnly ("pageTitle" :: names) u.environment ∧
      match rig.titleOn v with
      | some title => u.environment.get? "pageTitle" = some (.text title)
      | none =>
        u.environment = v.environment ∧
          ("pageTitle" ∉ names → u.environment.get? "pageTitle" = e.get? "pageTitle") := by
  have more : e.ChangesOnly ("pageTitle" :: names) v.environment :=
    own.mono fun _ ↦ List.mem_cons_of_mem _
  rw [kept]
  cases rig.titleOn v with
  | some title => exact ⟨more.set List.mem_cons_self _, Environment.get?_set_self ..⟩
  | none => exact ⟨more, rfl, own.others _⟩

/-- An action that fails, whatever it fails at, leaves the environment as it was. One that goes
through binds its own variable and the title of the page at most. The title is what the page tells
then. If it tells none, the action alone has bound what was bound, and so the title is what it was,
unless the variable of the action is called so. -/
theorem perform_binds (rig : Rig β) (action : String) (parameters : List String)
    (s : Stage (Bench β)) :
    match perform rig action parameters s with
    | .error _ u => u.environment = s.environment
    | .ok () u =>
      s.environment.ChangesOnly ("pageTitle" :: namesOf action parameters) u.environment ∧
        ∃ page t v, rig.start s = .ok page t ∧ performText rig page action parameters t = .ok () v ∧
          match rig.titleOn v with
          | some title => u.environment.get? "pageTitle" = some (.text title)
          | none =>
            u.environment = v.environment ∧
              ("pageTitle" ∉ namesOf action parameters →
                u.environment.get? "pageTitle" = s.environment.get? "pageTitle") := by
  have spared := rig.spares_environment s.environment
  cases started : rig.start s with
  | error e t =>
    rw [perform_of_start_error started]
    exact spared.start.of_error rfl started
  | ok page t =>
    rw [perform_of_start started]
    have before : t.environment = s.environment := spared.start.of_ok rfl started
    have binds := ensures_performText_binds rig page action parameters s.environment
    cases done : performText rig page action parameters t with
    | error e v =>
      have told := spared.failAction action (causeOf e)
      have kept := binds.of_error before done
      dsimp only
      cases failed : failAction rig action (causeOf e) v with
      | ok _ u => exact (told.of_ok kept failed).elim
      | error e' u => exact told.of_error kept failed
    | ok _ v =>
      have own := binds.of_ok before done
      obtain ⟨u, kept, environment⟩ := keepTitle_eq rig v
      obtain ⟨changes, title⟩ := binds_of_keepTitle own environment
      dsimp only
      rw [kept]
      exact ⟨changes, page, t, v, rfl, done, title⟩

/-! ### A price that is remembered as the title -/

/-- The phrase is looked for in a text that is in lower case. -/
private def Phrase.fitsLowered (lowered : List Char) (p : Phrase) : Bool :=
  (Text.lowerFrom [] p.opening.toList).isPrefixOf lowered &&
    p.fragment.all fun f ↦ Text.occursIn (Shop.lowered f) lowered

private theorem fits_eq (p : Phrase) (action : String) :
    p.fits action = p.fitsLowered (Text.lowerFrom [] action.toList) := by
  unfold Phrase.fits Phrase.fitsLowered lowered Text.lowercase
  simp only [String.toList_ofList]

/-- A text that says so asks for a price to be remembered. -/
theorem ofText?_remember :
    Action.ofText? "Remember product price" = some .rememberPrice := by
  unfold Action.ofText? meaning? Rule.fits
  simp only [fits_eq]
  decide +kernel

/-- A rehearsal of a page with a lamp, whose title cannot be read. -/
def lampRehearsal : Rehearsal :=
  { plan :=
      { scene := { items := [⟨"Lamp", some "$7"⟩] }
        incidents := [("title", .always (.fault ⟨.browser, "boom"⟩))] }
    now := default }

/-- A session on that page, after the title was kept on another one. -/
def lampStage : Stage (Bench Rehearsal) :=
  Usage.start.run rehearsalRig
    (newSession (.ofFields [("pageTitle", .text "Shop")]) {} lampRehearsal)

/-- The title that was kept. -/
private def keptTitle? (e : Environment) : Option String :=
  match e.get? "pageTitle" with
  | some (.text title) => some title
  | _ => none

/-- The title that is kept and the title that is told, once the price of the lamp is remembered. -/
private def titlesOnceRemembered (s : Stage (Bench Rehearsal)) : Option String × Option String :=
  match carryOut rehearsalRig ⟨3, false⟩ ["Lamp", "pageTitle"] .rememberPrice s with
  | .ok _ v => (keptTitle? v.environment, rehearsalRig.titleOn v)
  | .error _ v => (none, rehearsalRig.titleOn v)

private theorem get?_of_keptTitle? {e : Environment} {title : String}
    (h : keptTitle? e = some title) : e.get? "pageTitle" = some (.text title) := by
  unfold keptTitle? at h
  split at h
  · next kept => rw [kept, Option.some.inj h]
  · cases h

/-- A price that is remembered as the title of the page takes the place of the title if there is no
title to tell. -/
theorem price_kept_as_title :
    lampStage.environment.get? "pageTitle" = some (.text "Shop") ∧
      ∃ page v u, rehearsalRig.start lampStage = .ok page lampStage ∧
        performText rehearsalRig page "Remember product price" ["Lamp", "pageTitle"] lampStage =
          .ok () v ∧
        rehearsalRig.titleOn v = none ∧
        perform rehearsalRig "Remember product price" ["Lamp", "pageTitle"] lampStage =
          .ok () u ∧
        u.environment.get? "pageTitle" = some (.text "$7") := by
  have pages : lampStage.world.opened.pageObjects = some ⟨3, false⟩ := by decide +kernel
  have before : keptTitle? lampStage.environment = some "Shop" := by decide +kernel
  have remembered : titlesOnceRemembered lampStage = (some "$7", none) := by decide +kernel
  generalize lampStage = s at pages before remembered
  unfold titlesOnceRemembered at remembered
  have started : rehearsalRig.start s = .ok ⟨3, false⟩ s := start_of_open pages
  split at remembered
  · next v done =>
    obtain ⟨price, untitled⟩ := Prod.mk.inj remembered
    have performed : performText rehearsalRig ⟨3, false⟩ "Remember product price"
        ["Lamp", "pageTitle"] s = .ok () v := by
      rw [performText_of_some ofText?_remember, done]
    obtain ⟨u, kept, environment⟩ := keepTitle_eq rehearsalRig v
    rw [untitled] at environment
    refine ⟨get?_of_keptTitle? before, _, v, u, started, performed, untitled, ?_,
      environment ▸ get?_of_keptTitle? price⟩
    rw [perform_of_start started, performed]
    exact kept
  · cases (Prod.mk.inj remembered).1

end Shop

end Playbook
