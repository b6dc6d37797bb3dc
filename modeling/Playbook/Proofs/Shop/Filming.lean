import Playbook.Proofs.Browser.Videos
import Playbook.Proofs.Shop.Usage

/-!
# The video of a session

What is done in a session that is open may fail, and a failure may reserve the name of the video.
The promise is kept by closing: the video of the page is saved right after the page is closed, under
the name that every failure was told, and it is saved only if there was a failure or if all videos
are wanted (`video_of_session`). Nothing is promised where no videos are recorded
(`reservation_without_videos`).
-/

namespace Playbook

open Browser

variable {β : Type}

/-- Since some exchanges, no call was made that ends a session. -/
def Inside (before : List Exchange) (s : Stage (Bench β)) : Prop :=
  ∃ made, s.world.exchanges = before ++ made ∧ ∀ x ∈ made, x.call.endsSession = false

namespace Inside

variable {before : List Exchange} {s s' : Stage (Bench β)}

/-- No call was made since just now. -/
theorem here (s : Stage (Bench β)) : Inside s.world.exchanges s :=
  ⟨[], (List.append_nil _).symm, nofun⟩

/-- A call that ends no session leaves off nothing. -/
theorem call (h : Inside before s) {c : Call} {went : Bool} (hc : c.endsSession = false)
    (same : s'.world.exchanges = s.world.exchanges ++ [⟨c, went⟩]) : Inside before s' := by
  obtain ⟨made, exchanges, inside⟩ := h
  refine ⟨made ++ [⟨c, went⟩], by rw [same, exchanges, List.append_assoc], fun x hx ↦ ?_⟩
  obtain old | new := List.mem_append.mp hx
  · exact inside x old
  · rw [List.mem_singleton.mp new]
    exact hc

end Inside

namespace Rig

/-- Videos are recorded, and saved if something fails. -/
def FilmsFailures (rig : Rig β) : Prop :=
  rig.settings.videos.enabled = true ∧ rig.settings.videos.recording = .failed

/-- What failures were told of their video agrees with what is reserved. -/
structure Agrees (rig : Rig β) (told : List (Option String)) (reserved : Option Path) : Prop where
  isSome_iff : reserved.isSome ↔ rig.FilmsFailures ∧ told ≠ []
  answers : ∀ answer ∈ told, answer = reserved.map Path.text

/-- The session of a page goes on, with a video reserved or none. -/
structure Filming (before : List Exchange) (page : Page) (context : Handle) (reserved : Option Path)
    (s : Stage (Bench β)) : Prop where
  inside : Inside before s
  isOpen : s.world.opened.page = some page
  pages : s.world.opened.pageObjects = some page
  around : s.world.opened.context = some context
  reserves : s.world.opened.reservedVideo = reserved

/-- The session of a page goes on, and what is reserved agrees with what was told. -/
def Films (rig : Rig β) (before : List Exchange) (page : Page) (context : Handle)
    (told : List (Option String)) (s : Stage (Bench β)) : Prop :=
  ∃ reserved, Filming before page context reserved s ∧ rig.Agrees told reserved

variable {rig : Rig β} {before : List Exchange} {page : Page} {context : Handle}
  {told : List (Option String)} {reserved : Option Path} {s : Stage (Bench β)}

/-- While nothing was told, nothing is reserved. -/
theorem Agrees.nil (rig : Rig β) : rig.Agrees [] none :=
  ⟨⟨nofun, fun h ↦ absurd rfl h.2⟩, nofun⟩

/-- Where no failures are filmed, none is told. -/
theorem Agrees.none_of_not (h : rig.Agrees told reserved) (off : ¬ rig.FilmsFailures) :
    reserved = none ∧ rig.Agrees (told ++ [none]) none := by
  have free : reserved = none := by
    rw [← Option.not_isSome_iff_eq_none, h.isSome_iff]
    exact fun films ↦ off films.1
  subst free
  refine ⟨rfl, ⟨nofun, fun films ↦ absurd films.1 off⟩, fun answer ha ↦ ?_⟩
  obtain old | new := List.mem_append.mp ha
  · exact h.answers answer old
  · exact List.mem_singleton.mp new

/-- What is reserved already is told again. -/
theorem Agrees.again {path : Path} (h : rig.Agrees told (some path)) :
    rig.Agrees (told ++ [some path.text]) (some path) := by
  refine ⟨⟨fun _ ↦ ⟨(h.isSome_iff.mp rfl).1, by simp⟩, fun _ ↦ rfl⟩, fun answer ha ↦ ?_⟩
  obtain old | new := List.mem_append.mp ha
  · exact h.answers answer old
  · exact List.mem_singleton.mp new

/-- What is reserved first is told first. -/
theorem Agrees.first (h : rig.Agrees told none) (films : rig.FilmsFailures) (path : Path) :
    rig.Agrees (told ++ [some path.text]) (some path) := by
  have nothing : told = [] := by
    by_contra told
    exact absurd (h.isSome_iff.mpr ⟨films, told⟩) Bool.false_ne_true
  subst nothing
  exact ⟨⟨fun _ ↦ ⟨films, List.cons_ne_nil _ _⟩, fun _ ↦ rfl⟩, fun _ ↦ List.mem_singleton.mp⟩

/-- What is done without ending the session leaves it going on. -/
theorem sparesCalls_filming (rig : Rig β) :
    rig.SparesCalls (Filming before page context reserved) where
  called _ hc := call_keeps fun h _ ↦ { h with inside := h.inside.call hc rfl }
  ticked h := { h with }
  logged h _ _ _ := { h with }
  directories _ := onDisk_keeps (fun h _ ↦ { h with }) _

private theorem ensures_reserveFailureVideo_films (agrees : rig.Agrees told reserved)
    (stamp : Option String) (broken : Failure → Stage (Bench β) → Prop) :
    Ensures (Filming before page context reserved) (rig.reserveFailureVideo stamp)
      (fun answer ↦ rig.Films before page context (told ++ [answer])) broken := by
  have looked : Ensures (Filming before page context reserved) opened
      (fun o (s : Stage (Bench β)) ↦ Filming before page context reserved s ∧
        (o.page = some page ∧ o.reservedVideo = reserved)) broken :=
    fun _ h ↦ ⟨h, h.isOpen, h.reserves⟩
  refine looked.bind fun o ↦ .of_and fun ⟨isOpen, same⟩ ↦ ?_
  dsimp only
  rw [isOpen, same]
  split
  · next off =>
    have off : ¬ rig.FilmsFailures := by
      rintro ⟨enabled, failed⟩
      simp [enabled, failed] at off
    obtain ⟨rfl, still⟩ := agrees.none_of_not off
    exact .pure _ fun _ h ↦ ⟨_, h, still⟩
  · next on =>
    have films : rig.FilmsFailures := by
      simpa [FilmsFailures] using on
    cases reserved with
    | some path => exact .pure _ fun _ h ↦ ⟨_, h, agrees.again⟩
    | none =>
      refine .bind (rig.sparesCalls_filming.stampOr stamp) fun stamp ↦ ?_
      have reserves (path : Path) : Ensures (Filming before page context none)
          (modifyOpened fun o => { o with reservedVideo := some path })
          (fun _ (s : Stage (Bench β)) ↦ Filming before page context (some path) s) broken :=
        fun _ h ↦ { h with reserves := rfl }
      exact (reserves _).bind fun _ ↦ .pure _ fun _ h ↦ ⟨_, h, agrees.first films _⟩

end Rig

namespace Shop

open Rig

variable {rig : Rig β} {before : List Exchange} {page : Page} {context : Handle}
  {told : List (Option String)} {reserved : Option Path}

/-- What can be done in a session that is open, short of ending it. -/
inductive Operation where
  | start
  | pageTitle
  | captureScreenshot (stamp : Option String)
  | reserveFailureVideo (stamp : Option String)
  | perform (action : String) (parameters : List String)
  | call (c : Call) (inside : c.endsSession = false)

/-- Do it, and tell the video that was reserved for a failure, if there was a failure. A failed
action tells its video. -/
def Operation.play (rig : Rig β) : Operation → Play (Bench β) (List (Option String))
  | .start => do
    let _ ← rig.start
    return []
  | .pageTitle => do
    let _ ← rig.pageTitle
    return []
  | .captureScreenshot stamp => do
    let _ ← rig.captureScreenshot stamp
    return []
  | .reserveFailureVideo stamp => do
    let video ← rig.reserveFailureVideo stamp
    return [video]
  | .perform action parameters => do
    match ← (Routine.attempt (Shop.perform rig action parameters)).toPlay with
    | .error (.action error) => return [error.video]
    | _ => return []
  | .call c _ => do
    let _ ← rig.call c
    return []

/-- Do one thing after another, whether or not each goes through, and tell the videos that were
reserved for failures. -/
def reservations (rig : Rig β) : List Operation → Routine (Bench β) (List (Option String))
  | [] => return []
  | operation :: rest => do
    let told := (← Routine.attempt (operation.play rig)).toOption.getD []
    return told ++ (← reservations rig rest)

/-- What a failed action leaves. An action error tells the video that was reserved for it; any other
failure came before one was. -/
private def FailedFilming (rig : Rig β) (before : List Exchange) (page : Page) (context : Handle)
    (told : List (Option String)) (reserved : Option Path) (e : Failure) (s : Stage (Bench β)) :
    Prop :=
  match e with
  | .action error => rig.Films before page context (told ++ [error.video]) s
  | _ => Filming before page context reserved s

private theorem ensures_failAction_films (agrees : rig.Agrees told reserved) (action : String)
    (cause : ActionCause) :
    Ensures (Filming before page context reserved) (failAction rig action cause) (fun _ _ ↦ False)
      (FailedFilming rig before page context told reserved) := by
  have spared : rig.SparesCalls (Filming before page context reserved) := rig.sparesCalls_filming
  refine failAction_of_capture (P := Filming before page context reserved) spared.logged
    spared.ticked (fun stamp ↦ ?_) action
  refine .bind (spared.captureScreenshot (fun p ↦ ?_) stamp) fun screenshot ↦ ?_
  · refine (spared.directories p).failing fun s e t failed films ↦ ?_
    obtain ⟨f, rfl⟩ := exists_fault_of_onDisk failed
    exact films
  · exact .bind (ensures_reserveFailureVideo_films agrees stamp _) fun video _ films ↦ films

private theorem ensures_perform_films (agrees : rig.Agrees told reserved) (action : String)
    (parameters : List String) :
    Ensures (Filming before page context reserved) (perform rig action parameters)
      (fun _ ↦ Filming before page context reserved)
      (FailedFilming rig before page context told reserved) := by
  have spared : rig.SparesCalls (Filming before page context reserved) := rig.sparesCalls_filming
  have bound {s : Stage (Bench β)} (h : Filming before page context reserved s) (name : String)
      (v : Value) : Filming before page context reserved (s.bound name v) := { h with }
  have performed := spared.performText page action parameters fun name _ _ h v ↦ bound h name v
  intro s films
  rw [perform_of_start (start_of_open films.pages)]
  cases done : performText rig page action parameters s with
  | ok _ u =>
    exact spared.keepTitle (fun h v ↦ bound h _ v) u (performed.of_ok films done)
  | error e u =>
    exact Ensures.weaken (ensures_failAction_films agrees action (causeOf e)) (fun _ h ↦ h)
      (fun _ _ h ↦ h.elim) (fun _ _ h ↦ h) u (performed.of_error films done)

private theorem ensures_play_films (agrees : rig.Agrees told reserved) (operation : Operation) :
    Ensures (Filming before page context reserved) (operation.play rig)
      (fun answers ↦ rig.Films before page context (told ++ answers))
      fun _ ↦ Filming before page context reserved := by
  have spared : rig.SparesCalls (Filming before page context reserved) := rig.sparesCalls_filming
  have nothing : ∀ s, Filming before page context reserved s →
      rig.Films before page context (told ++ []) s :=
    fun _ h ↦ ⟨_, h, (List.append_nil told).symm ▸ agrees⟩
  cases operation with
  | start =>
    have started : Keeps (Filming before page context reserved)
        (fun _ ↦ Filming before page context reserved) rig.start := by
      intro s films
      rw [start_of_open films.pages]
      exact films
    exact Ensures.bind started fun _ ↦ .pure _ nothing
  | pageTitle => exact Ensures.bind spared.pageTitle fun _ ↦ .pure _ nothing
  | captureScreenshot stamp =>
    exact Ensures.bind (spared.captureScreenshot spared.directories stamp) fun _ ↦ .pure _ nothing
  | reserveFailureVideo stamp =>
    exact .bind (ensures_reserveFailureVideo_films agrees stamp _) fun _ ↦ .pure _ fun _ h ↦ h
  | perform action parameters =>
    refine .bind ((ensures_perform_films agrees action parameters).attempt _) fun outcome ↦ ?_
    cases outcome with
    | ok _ => exact .pure _ nothing
    | error e =>
      cases e with
      | action error => exact .pure _ fun _ h ↦ h
      | _ => exact .pure _ nothing
  | call c inside => exact Ensures.bind (spared.called c inside) fun _ ↦ .pure _ nothing

-- Whatever is done in a session short of ending it, it goes on, and what is reserved agrees with
-- what was told.
private theorem films_reservations (operations : List Operation) {s : Stage (Bench β)}
    (h : rig.Films before page context told s) :
    rig.Films before page context (told ++ (reservations rig operations s).1)
      (reservations rig operations s).2 := by
  induction operations generalizing told s with
  | nil => exact (List.append_nil told).symm ▸ h
  | cons operation rest ih =>
    obtain ⟨reserved, films, agrees⟩ := h
    have played := ensures_play_films agrees operation s films
    cases done : operation.play rig s with
    | ok answers t =>
      rw [done] at played
      have later := ih played
      rw [List.append_assoc] at later
      have told : reservations rig (operation :: rest) s =
          (answers ++ (reservations rig rest t).1, (reservations rig rest t).2) := by
        simp only [reservations, Routine.attempt, bind, StateT.bind, done]
        rfl
      rw [told]
      exact later
    | error e t =>
      -- what fails tells nothing, and the rest goes on from where it failed
      rw [done] at played
      have later := ih ⟨reserved, played, agrees⟩
      have told : reservations rig (operation :: rest) s = reservations rig rest t := by
        simp only [reservations, Routine.attempt, bind, StateT.bind, done]
        rfl
      rw [told]
      exact later

/-! ### From start to close -/

private theorem films_of_start {s t : Stage (Bench β)} (reached : rig.Reached s)
    (closed : s.world.opened.page = none) (started : rig.start s = .ok page t) :
    ∃ context, Filming s.world.exchanges page context none t := by
  obtain ⟨reachedT, isOpen⟩ := ensures_start_page.of_ok reached started
  have coherent : t.world.opened.Coherent := reachedT.coherent
  obtain ⟨context, around⟩ : ∃ context, t.world.opened.context = some context :=
    Option.isSome_iff_exists.mp (coherent.page (isOpen ▸ rfl)).1
  -- only the video of an open page is reserved, and there is no page yet
  have free : s.world.opened.reservedVideo = none := by
    rw [← Option.not_isSome_iff_eq_none]
    intro reserved
    have page := reached.coherent.reserved reserved
    rw [closed] at page
    cases page
  have spared : rig.SparesUse fun s' ↦
      Inside s.world.exchanges s' ∧ s'.world.opened.reservedVideo = none :=
    { called := fun _ hc ↦ call_keeps fun h _ ↦ ⟨h.1.call hc rfl, h.2⟩
      ticked := fun h ↦ h
      logged := fun h _ _ _ ↦ h
      directories := fun _ ↦ onDisk_keeps (fun h _ ↦ h) _
      opened := fun h _ same ↦ ⟨h.1, same.trans h.2⟩ }
  obtain ⟨inside, unreserved⟩ := spared.start.of_ok ⟨.here s, free⟩ started
  exact ⟨context, inside, isOpen, coherent.pageObjects.trans isOpen, around, unreserved⟩

private theorem isSome_videoTarget {s : Stage (Bench β)}
    (films : Filming before page context reserved s) (agrees : rig.Agrees told reserved) :
    (rig.videoTarget s).1.isSome ↔
      rig.settings.videos.enabled = true ∧
        (rig.settings.videos.recording = .all ∨
          rig.settings.videos.recording = .failed ∧ told ≠ []) := by
  rw [rig.videoTarget_eq, films.isOpen]
  cases enabled : rig.settings.videos.enabled with
  | false => simp
  | true =>
    by_cases all : rig.settings.videos.recording = .all
    · simp [all]
    · have filmed := agrees.isSome_iff
      simp only [FilmsFailures, enabled, true_and] at filmed
      simp [all, films.reserves, filmed]

private theorem videoTarget_of_filmsFailures {s : Stage (Bench β)}
    (films : Filming before page context reserved s) (on : rig.FilmsFailures) :
    (rig.videoTarget s).1 = reserved := by
  obtain ⟨enabled, failed⟩ := on
  rw [rig.videoTarget_eq, films.isOpen, enabled, failed]
  exact films.reserves

/-- The video of a session, from a start that opens its page to the next close, whatever was done
with it before and whatever is done with it in between. No video is reserved to begin with, and none
is saved until the session is closed. Closing saves one at most, right after closing the page and
before closing the context. It saves one if videos are recorded, the page records one, and all
videos are wanted or those of failures and there was one. If videos of failures are recorded, all
failures were told the same path and that is where the video is saved; otherwise they were told
none. -/
theorem video_of_session (rig : Rig β) (environment : Environment) (disk : Disk) (outside : β)
    (earlier : Usage) (operations : List Operation) {page : Page} {t : Stage (Bench β)}
    (closed :
      (earlier.run rig (newSession environment disk outside)).world.opened.page = none)
    (started : rig.start (earlier.run rig (newSession environment disk outside)) = .ok page t) :
    let videos := rig.settings.videos
    let before := (earlier.run rig (newSession environment disk outside)).world.exchanges
    let told := (reservations rig operations t).1
    let used := (reservations rig operations t).2
    let left := (rig.close used).2
    t.world.opened.reservedVideo = none ∧ left.world.opened = {} ∧
      ∃ (made shut : List Exchange) (saved : Option Path) (around : List Call) (context : Handle),
        used.world.exchanges = before ++ made ∧ (∀ x ∈ made, x.call.endsSession = false) ∧
        left.world.exchanges = used.world.exchanges ++ shut ∧
        shut.map Exchange.call =
          .closePage page.handle :: (saved.toList.map (.saveVideo page.handle) ++ around) ∧
        (∀ c ∈ around, c.savedVideo? = none) ∧ .closeContext context ∈ around ∧
        (saved.isSome ↔ videos.enabled = true ∧ page.recordsVideo = true ∧
          (videos.recording = .all ∨ videos.recording = .failed ∧ told ≠ [])) ∧
        if videos.enabled = true ∧ videos.recording = .failed then
          ∃ path : Path, (∀ answer ∈ told, answer = some path.text) ∧ ∀ p ∈ saved, p = path
        else ∀ answer ∈ told, answer = none := by
  intro videos before told used left
  have reached := earlier.reached_run (reached_newSession rig environment disk outside)
  obtain ⟨context, begun⟩ := films_of_start reached closed started
  obtain ⟨reserved, films, agrees⟩ := films_reservations operations ⟨none, begun, .nil rig⟩
  rw [List.nil_append] at agrees
  obtain ⟨made, exchanges, inside⟩ := films.inside
  obtain ⟨shut, calls, exchanges', opened⟩ := rig.close_spec used
  rw [closing_of_page films.isOpen] at calls
  refine ⟨begun.reserves, opened, made, shut, _, _, context, exchanges, inside, exchanges', calls,
    fun _ ↦ savedVideo?_of_mem_closingAround, ?_, ?_, ?_⟩
  · exact closeContext_mem_closingAround films.around
  · have place := isSome_videoTarget films agrees
    cases recorded : page.recordsVideo with
    | false => simp
    | true => simpa using place
  · split
    · next on =>
      have place : (rig.videoTarget used).1 = reserved := videoTarget_of_filmsFailures films on
      refine ⟨reserved.getD videos.directory, fun answer ha ↦ ?_, fun p hp ↦ ?_⟩
      · have reserves : reserved.isSome := agrees.isSome_iff.mpr ⟨on, List.ne_nil_of_mem ha⟩
        obtain ⟨path, rfl⟩ := Option.isSome_iff_exists.mp reserves
        exact agrees.answers answer ha
      · obtain ⟨kept, -⟩ := Option.mem_filter_iff.mp hp
        rw [place] at kept
        rw [Option.mem_def.mp kept, Option.getD_some]
    · next off =>
      obtain ⟨rfl, -⟩ := agrees.none_of_not off
      exact agrees.answers

/-- A rig that records videos, of failures as it is. -/
def recordingRig : Rig Rehearsal :=
  { settings := { videos := { enabled := true } }, outside := Rehearsal.outside }

/-- A session that was opened and closed once. -/
def usedOnce (rig : Rig Rehearsal) : Stage (Bench Rehearsal) :=
  (Usage.next .start .close).run rig (newSession .empty {} { now := default })

/-- Two failures. -/
def twoFailures : List Operation := [.perform "Open page" [], .reserveFailureVideo none]

/-- What comes of opening a session and of two failures. -/
private def openedAndTold (rig : Rig Rehearsal) : Option Page × List (Option String) :=
  match rig.start (usedOnce rig) with
  | .ok page t => (some page, (reservations rig twoFailures t).1)
  | .error _ _ => (none, [])

private theorem exists_of_openedAndTold {rig : Rig Rehearsal} {page : Page}
    {told : List (Option String)} (h : openedAndTold rig = (some page, told)) :
    ∃ t, rig.start (usedOnce rig) = .ok page t ∧ (reservations rig twoFailures t).1 = told := by
  unfold openedAndTold at h
  split at h
  · next page' t started =>
    obtain ⟨same, answers⟩ := Prod.mk.inj h
    cases same
    exact ⟨t, started, answers⟩
  · cases (Prod.mk.inj h).1

/-- Two failures of a session are told one path, and its video is saved there. -/
theorem video_of_two_failures :
    (usedOnce recordingRig).world.opened.page = none ∧
      ∃ t path, recordingRig.start (usedOnce recordingRig) = .ok ⟨11, true⟩ t ∧
        (reservations recordingRig twoFailures t).1 = [some path.text, some path.text] ∧
        .saveVideo 11 path ∈
          (recordingRig.close (reservations recordingRig twoFailures t).2).2.world.exchanges.map
            Exchange.call := by
  have closed : (usedOnce recordingRig).world.opened.page = none := by decide +kernel
  have opened : openedAndTold recordingRig =
      (some ⟨11, true⟩,
        List.replicate 2 (some "test-results/videos/error-test-10101-000000.webm")) := by
    decide +kernel
  obtain ⟨t, started, told⟩ := exists_of_openedAndTold opened
  obtain ⟨-, -, made, shut, saved, around, -, -, -, exchanges, calls, -, -, saves, named⟩ :=
    video_of_session recordingRig .empty {} { now := default } (.next .start .close) twoFailures
      closed started
  rw [told] at saves named
  rw [if_pos ⟨rfl, rfl⟩] at named
  obtain ⟨path, answers, place⟩ := named
  obtain ⟨p, rfl⟩ := Option.isSome_iff_exists.mp <|
    saves.mpr ⟨rfl, rfl, .inr ⟨rfl, List.cons_ne_nil _ _⟩⟩
  obtain rfl := place p rfl
  refine ⟨closed, t, p, started, ?_, ?_⟩
  · rw [told, answers _ List.mem_cons_self]
    rfl
  · rw [exchanges, List.map_append, calls]
    exact List.mem_append_right _ (List.mem_cons_of_mem _ List.mem_cons_self)

/-- A failure is told no video if no videos are recorded, whichever are wanted. -/
theorem reservation_without_videos :
    rehearsalRig.settings.videos.recording = .failed ∧
      ∃ page t, rehearsalRig.start (usedOnce rehearsalRig) = .ok page t ∧
        (reservations rehearsalRig twoFailures t).1 = [none, none] := by
  have opened : openedAndTold rehearsalRig = (some ⟨11, false⟩, [none, none]) := by decide +kernel
  obtain ⟨t, started, told⟩ := exists_of_openedAndTold opened
  exact ⟨rfl, _, t, started, told⟩

end Shop

end Playbook
