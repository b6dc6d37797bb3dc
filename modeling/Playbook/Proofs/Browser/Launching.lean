import Playbook.Proofs.Browser.Session

/-!
# Launching anew

Where nothing is open, starting a session launches everything anew: it asks for driver, browser,
context and page in this order, each on what was handed out just before (`openingCalls`), and it
comes to the end of that list, or breaks off at the first refusal (`ensures_start_anew`).
-/

namespace Playbook.Rig

open Browser

variable {α β : Type} {rig : Rig β} {before : List Exchange} {granted : List Call} {o : Opened}

/-- The calls that open everything anew, when the first of them is made as the `n`-th of all. -/
def openingCalls (rig : Rig β) (n : Handle) : List Call :=
  let options := rig.settings.browser
  let videos := rig.settings.videos
  [.startDriver, .launch n options.headless options.slowMo,
    .openContext (n + 1) (if videos.enabled then some videos.directory else none)] ++
  ((if options.tracePath.isSome then [.startTracing (n + 2)] else []) ++ [.openPage (n + 2)])

/-- Since the calls `before`, everything was opened anew, and the page was handed out last. -/
structure Launched (rig : Rig β) (before : List Exchange) (page : Page) (s : Stage (Bench β)) :
    Prop where
  exchanges : s.world.exchanges =
    before ++ (rig.openingCalls before.length).map fun c ↦ ⟨c, true⟩
  opened : s.world.opened =
    { driver := some before.length
      browser := some (before.length + 1)
      context := some (before.length + 2)
      page := some page
      pageObjects := some page }
  page : page.handle + 1 = s.world.exchanges.length

/-- Since the calls `before`, opening everything anew was begun and broke off: a driver was asked
for, and a browser, too, unless there was no driver. -/
def LaunchBroken (rig : Rig β) (before : List Exchange) (s : Stage (Bench β)) : Prop :=
  ∃ made, s.world.exchanges = before ++ made ∧
    made.map Exchange.call <+: rig.openingCalls before.length ∧
    (made = [⟨.startDriver, false⟩] ∨ 2 ≤ made.length)

/-- Since the calls `before`, some calls were granted, and `o` is open. -/
def Granting (before : List Exchange) (granted : List Call) (o : Opened) (s : Stage (Bench β)) :
    Prop :=
  s.world.exchanges = before ++ granted.map (fun c ↦ ⟨c, true⟩) ∧ s.world.opened = o

-- What was granted so far is where opening everything anew starts.
private theorem launchBroken_of_granting {s : Stage (Bench β)} (h : Granting before granted o s)
    (start : granted <+: rig.openingCalls before.length) (far : 2 ≤ granted.length) :
    rig.LaunchBroken before s := by
  refine ⟨granted.map fun c ↦ ⟨c, true⟩, h.1, ?_, .inr (by simpa using far)⟩
  rwa [List.map_map, Function.comp_def, List.map_id']

private theorem ensures_next {c : Call}
    (next : granted ++ [c] <+: rig.openingCalls before.length) :
    Ensures (Granting before granted o) (rig.call c)
      (fun _ ↦ Granting before (granted ++ [c]) o) fun _ ↦ rig.LaunchBroken before := by
  rintro s ⟨exchanges, opened⟩
  obtain ⟨a, t, hp, he, ho⟩ | ⟨e, t, hp, he, ho⟩ := rig.call_cases c s
  · rw [hp]
    refine ⟨?_, ho.trans opened⟩
    rw [he, exchanges, List.map_append, List.append_assoc]
    rfl
  · rw [hp]
    refine ⟨granted.map (fun c ↦ ⟨c, true⟩) ++ [⟨c, false⟩], ?_, ?_, ?_⟩
    · rw [he, exchanges, List.append_assoc]
    · simpa [Function.comp_def] using next
    · cases granted with
      | nil =>
        obtain ⟨rest, hr⟩ := next
        cases hr
        exact .inl rfl
      | cons g granted => exact .inr (by simp)

private theorem ensures_nextObtained {c : Call} {calls : List Call} (handle : Handle)
    (all : granted ++ [c] = calls) (place : before.length + granted.length = handle)
    (next : calls <+: rig.openingCalls before.length) :
    Ensures (Granting before granted o) (rig.obtain c)
      (fun r s ↦ Granting before calls o s ∧ r.1 = handle) fun _ ↦ rig.LaunchBroken before := by
  subst all place
  intro s h
  have length : s.world.exchanges.length = before.length + granted.length := by
    rw [h.1, List.length_append, List.length_map]
  have called := ensures_next next s h
  cases hp : rig.call c s with
  | ok a t =>
    rw [hp] at called
    have obtained : rig.obtain c s = .ok (s.world.exchanges.length, a) t :=
      (bind_of_ok _ (t := s) rfl).trans (bind_of_ok _ hp)
    rw [obtained]
    exact ⟨called, length⟩
  | error e t =>
    rw [hp] at called
    have refused : rig.obtain c s = .error e t :=
      (bind_of_ok _ (t := s) rfl).trans (bind_of_error _ hp)
    rw [refused]
    exact called

private theorem ensures_kept (f : Opened → Opened) {broken : Failure → Stage (Bench β) → Prop} :
    Ensures (Granting before granted o) (modifyOpened f) (fun _ ↦ Granting before granted (f o))
      broken :=
  fun _ h ↦ ⟨h.1, congrArg f h.2⟩

private theorem ensures_onDisk (w : Disk.Writing α)
    (start : granted <+: rig.openingCalls before.length) (far : 2 ≤ granted.length) :
    Ensures (Granting before granted o) (onDisk w) (fun _ ↦ Granting before granted o)
      fun _ ↦ rig.LaunchBroken before := by
  intro s h
  unfold onDisk
  cases w s.world.disk with
  | ok a d => exact h
  | error f d => exact launchBroken_of_granting h start far

private theorem ensures_reported (level : Level) (source : Source) (text : String)
    {broken : Failure → Stage (Bench β) → Prop} :
    Ensures (Granting before granted o) (Play.report level source text)
      (fun _ ↦ Granting before granted o) broken :=
  fun _ h ↦ h

private theorem ensures_page {context : Handle} {text : String}
    (all : granted ++ [.openPage context] = rig.openingCalls before.length)
    (around : o = { driver := some before.length
                    browser := some (before.length + 1)
                    context := some (before.length + 2) }) :
    Ensures (Granting before granted o)
      (do
        let (handle, recordsVideo) ← rig.obtain (.openPage context)
        let page : Page := ⟨handle, recordsVideo⟩
        modifyOpened fun o => { o with page := some page, pageObjects := some page }
        Play.report .info .session text
        return page)
      (fun page ↦ rig.Launched before page) fun _ ↦ rig.LaunchBroken before := by
  refine .bind (ensures_nextObtained _ all rfl (List.prefix_refl _)) ?_
  rintro ⟨handle, recordsVideo⟩
  refine .of_and fun place ↦ .bind (ensures_kept _) fun _ ↦ ?_
  refine .bind (ensures_reported _ _ _) fun _ ↦ .pure _ ?_
  rintro s ⟨exchanges, opened⟩
  refine ⟨exchanges, by rw [opened, around], ?_⟩
  rw [exchanges, ← all, show handle = _ from place]
  simp [Nat.add_assoc]

/-- Where nothing is open, starting opens everything anew or breaks off. -/
theorem ensures_start_anew (rig : Rig β) (before : List Exchange) :
    Ensures (fun s ↦ s.world.exchanges = before ∧ s.world.opened = {}) rig.start
      (fun page ↦ rig.Launched before page) fun _ ↦ rig.LaunchBroken before := by
  have look : Ensures (fun s : Stage (Bench β) ↦ s.world.exchanges = before ∧ s.world.opened = {})
      opened (fun a s ↦ Granting before [] {} s ∧ a = {}) fun _ ↦ rig.LaunchBroken before :=
    fun s h ↦ ⟨⟨h.1.trans (List.append_nil _).symm, h.2⟩, h.2⟩
  refine .bind look fun a ↦ .of_and ?_
  rintro rfl
  dsimp only
  let n := before.length
  refine .bind (ensures_nextObtained n rfl rfl ⟨_, rfl⟩) ?_
  rintro ⟨driver, -⟩
  refine .of_and ?_
  rintro rfl
  refine .bind (ensures_kept _) fun _ ↦ ?_
  refine .bind (ensures_nextObtained (n + 1) rfl rfl ⟨_, rfl⟩) ?_
  rintro ⟨browser, -⟩
  refine .of_and ?_
  rintro rfl
  refine .bind (ensures_kept _) fun _ ↦ ?_
  -- the disk may refuse the directory of the videos, but driver and browser are there by then
  refine .optional (ensures_onDisk _ ⟨_, rfl⟩ (by simp)) ?_
  refine .bind (ensures_nextObtained (n + 2) rfl rfl ⟨_, rfl⟩) ?_
  rintro ⟨context, -⟩
  refine .of_and ?_
  rintro rfl
  refine .bind (ensures_kept _) fun _ ↦ ?_
  by_cases traced : rig.settings.browser.tracePath.isSome
  · rw [if_pos traced]
    refine .bind (ensures_next ?_) fun _ ↦ ?_
    · exact ⟨[.openPage (n + 2)], by simp [openingCalls, traced, n]⟩
    · exact ensures_page (by simp [openingCalls, traced, n]) rfl
  · rw [if_neg traced]
    exact ensures_page (by simp [openingCalls, traced, n]) rfl

end Playbook.Rig
