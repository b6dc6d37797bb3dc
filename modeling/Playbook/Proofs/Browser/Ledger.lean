import Playbook.Proofs.Browser.Reach

/-!
# What the calls of a session tell

The calls of a session tell what became of every resource: it is still open, or it was closed, or it
was forgotten when another one was obtained in its place (`Reaches.ledger`). And they tell that
nothing is used any more once it is closed, but for saving the video of a page.
-/

namespace Playbook

open Browser

variable {β : Type} {rig : Rig β} {o : Opened} {made more shut : List Exchange}
  {calls later : List Call} {c : Call} {r q : Resource} {h : Handle}

namespace Browser

/-! ### What the calls tell -/

/-- A resource was handed out under a handle, that is by the call at this place. -/
def Yielded (made : List Exchange) (r : Resource) (h : Handle) : Prop :=
  ∃ c, made[h]? = some ⟨c, true⟩ ∧ c.yields? = some r

/-- A call was made at a place, answered or not. -/
def CalledAt (made : List Exchange) (c : Call) (place : Nat) : Prop :=
  ∃ answered, made[place]? = some ⟨c, answered⟩

/-- A resource was the last of its kind to be handed out, and it was not closed. -/
structure Current (made : List Exchange) (r : Resource) (h : Handle) : Prop where
  yielded : Yielded made r h
  last : ∀ i, h < i → ¬Yielded made r i
  notClosed : ∀ q : Resource, q.closer h ∉ made.map Exchange.call

/-- A resource was closed, before another of its kind was handed out. -/
def Disposed (made : List Exchange) (r : Resource) (h : Handle) : Prop :=
  ∃ place, h < place ∧ CalledAt made (r.closer h) place ∧
    ∀ i, h < i → i < place → ¬Yielded made r i

/-- Another resource of its kind was handed out after a resource that was never closed. -/
structure Forgotten (made : List Exchange) (r : Resource) (h : Handle) : Prop where
  replaced : ∃ i, h < i ∧ Yielded made r i
  notClosed : r.closer h ∉ made.map Exchange.call

/-- Once something is closed, no call is made on it any more; but right after a page is closed its
video may be saved. -/
def QuietOnceClosed (calls : List Call) : Prop :=
  ∀ (place : Nat) (r : Resource) (h : Handle), calls[place]? = some (r.closer h) →
    ∀ (later : Nat) (c : Call), place < later → calls[later]? = some c → c.target? = some h →
      r = .page ∧ later = place + 1 ∧ ∃ path, c = .saveVideo h path

/-- What is open, and what became of everything else, as the calls tell it. -/
structure Ledger (o : Opened) (made : List Exchange) : Prop where
  current : ∀ r h, o.handle? r = some h → Current made r h
  fate : ∀ r h, Yielded made r h →
    o.handle? r = some h ∨ Disposed made r h ∨ Forgotten made r h
  known : ∀ x ∈ made, ∀ h, x.call.target? = some h → ∃ r, Yielded made r h
  quiet : QuietOnceClosed (made.map Exchange.call)

/-- A handle names one resource. -/
theorem Yielded.unique (hr : Yielded made r h) (hq : Yielded made q h) : r = q := by
  obtain ⟨c, hc, yields⟩ := hr
  obtain ⟨c', hc', yields'⟩ := hq
  cases hc.symm.trans hc'
  exact Option.some.inj (yields.symm.trans yields')

/-- A handle is the place of a call that was made. -/
theorem Yielded.lt_length (hy : Yielded made r h) : h < made.length := by
  obtain ⟨c, hc, -⟩ := hy
  exact (List.getElem?_eq_some_iff.mp hc).1

/-! ### More calls -/

private theorem yielded_append_of_lt (hi : h < made.length) :
    Yielded (made ++ more) r h ↔ Yielded made r h := by
  simp only [Yielded, List.getElem?_append_left hi]

/-- What was handed out stays so, whatever calls are made after it. -/
theorem Yielded.append (hy : Yielded made r h) : Yielded (made ++ more) r h :=
  (yielded_append_of_lt hy.lt_length).mpr hy

/-- What is handed out in the end was handed out before or by what came last. -/
theorem yielded_or_of_append (hy : Yielded (made ++ more) r h) :
    Yielded made r h ∨ ∃ i, h = made.length + i ∧ Yielded more r i := by
  by_cases hi : h < made.length
  · exact .inl ((yielded_append_of_lt hi).mp hy)
  · obtain ⟨c, hc, yields⟩ := hy
    rw [List.getElem?_append_right (Nat.not_lt.mp hi)] at hc
    exact .inr ⟨h - made.length, (Nat.add_sub_cancel' (Nat.not_lt.mp hi)).symm, c, hc, yields⟩

/-- Calls that hand nothing out. -/
def YieldsNothing (more : List Exchange) : Prop :=
  ∀ x ∈ more, ∀ r, x.call.yields? = some r → x.answered = false

private theorem YieldsNothing.not_yielded (nothing : YieldsNothing more) : ¬Yielded more r h := by
  rintro ⟨c, hc, yields⟩
  exact absurd (nothing _ (List.mem_of_getElem? hc) r yields) Bool.true_eq_false.mp

/-- Before calls that hand nothing out, everything was handed out that is. -/
theorem YieldsNothing.yielded (nothing : YieldsNothing more)
    (hy : Yielded (made ++ more) r h) : Yielded made r h := by
  obtain hy | ⟨i, -, hi⟩ := yielded_or_of_append hy
  · exact hy
  · exact absurd hi nothing.not_yielded

/-- A call that hands something out gives its own place as the handle. -/
theorem yielded_concat (yields : c.yields? = some r) :
    Yielded (made ++ [⟨c, true⟩]) r made.length :=
  ⟨c, List.getElem?_concat_length, yields⟩

/-- A call hands out one thing only. -/
theorem yielded_or_of_concat (yields : c.yields? = some r)
    (hy : Yielded (made ++ [⟨c, true⟩]) q h) : Yielded made q h ∨ q = r ∧ h = made.length := by
  obtain hy | ⟨i, rfl, hi⟩ := yielded_or_of_append hy
  · exact .inl hy
  · obtain rfl : i = 0 := Nat.lt_one_iff.mp hi.lt_length
    exact .inr ⟨hy.unique (yielded_concat yields), rfl⟩

/-- A call that is made neither before nor afterwards is not made. -/
theorem notMem_calls_append (before : c ∉ made.map Exchange.call)
    (after : c ∉ more.map Exchange.call) : c ∉ (made ++ more).map Exchange.call := by
  rw [List.map_append, List.mem_append]
  exact not_or.mpr ⟨before, after⟩

/-- A single call that closes nothing does not close a resource. -/
theorem closer_notMem_calls_singleton {x : Exchange} (noClosing : x.call.isCloser = false)
    (r : Resource) (h : Handle) : r.closer h ∉ [x].map Exchange.call :=
  fun hc ↦ r.closer_ne noClosing h (List.mem_singleton.mp hc)

/-- What was disposed of stays so, whatever calls are made after it. -/
theorem Disposed.append (hd : Disposed made r h) : Disposed (made ++ more) r h := by
  obtain ⟨place, after, ⟨answered, called⟩, between⟩ := hd
  have within : place < made.length := (List.getElem?_eq_some_iff.mp called).1
  refine ⟨place, after, ⟨answered, ?_⟩, fun i hi hp hy ↦ between i hi hp ?_⟩
  · rw [List.getElem?_append_left within, called]
  · exact (yielded_append_of_lt (Nat.lt_trans hp within)).mp hy

/-- What was forgotten stays so, unless a later call closes it. -/
theorem Forgotten.append (hf : Forgotten made r h)
    (notClosed : r.closer h ∉ more.map Exchange.call) : Forgotten (made ++ more) r h := by
  obtain ⟨⟨i, hi, hy⟩, before⟩ := hf
  exact ⟨⟨i, hi, hy.append⟩, notMem_calls_append before notClosed⟩

/-- A handle stays current while nothing else of its kind is handed out and nothing closes it. -/
theorem Current.append (hc : Current made r h) (last : ∀ i, ¬Yielded more r i)
    (notClosed : ∀ q : Resource, q.closer h ∉ more.map Exchange.call) :
    Current (made ++ more) r h where
  yielded := hc.yielded.append
  last i hi hy := by
    obtain hy | ⟨j, -, hj⟩ := yielded_or_of_append hy
    · exact hc.last i hi hy
    · exact last j hj
  notClosed q := notMem_calls_append (hc.notClosed q) (notClosed q)

/-- What was current until it was closed is disposed of. -/
theorem Current.disposed (hc : Current made r h) (nothing : YieldsNothing more)
    (closes : r.closer h ∈ more.map Exchange.call) : Disposed (made ++ more) r h := by
  obtain ⟨x, hx, called⟩ := List.mem_map.mp closes
  obtain ⟨i, hi⟩ := List.mem_iff_getElem?.mp hx
  have before : h < made.length := hc.yielded.lt_length
  refine ⟨made.length + i, Nat.lt_add_right i before, ⟨x.answered, ?_⟩, fun j hj _ hy ↦ ?_⟩
  · rw [List.getElem?_append_right (Nat.le_add_right ..), Nat.add_sub_cancel_left, hi, ← called]
  · exact hc.last j hj (nothing.yielded hy)

/-- What is handed out is current, unless it was closed before. -/
theorem current_concat (yields : c.yields? = some r)
    (notClosed : ∀ q : Resource, q.closer made.length ∉ made.map Exchange.call) :
    Current (made ++ [⟨c, true⟩]) r made.length where
  yielded := yielded_concat yields
  last i hi hy := by
    obtain hy | ⟨-, rfl⟩ := yielded_or_of_concat yields hy
    · exact Nat.lt_asymm hi hy.lt_length
    · exact Nat.lt_irrefl _ hi
  notClosed q := notMem_calls_append (notClosed q)
    (closer_notMem_calls_singleton (Call.isCloser_of_yields? yields) q _)

/-- What was current still is when something of another kind is handed out. -/
theorem Current.concat (hc : Current made q h) (yields : c.yields? = some r) (differ : q ≠ r) :
    Current (made ++ [⟨c, true⟩]) q h where
  yielded := hc.yielded.append
  last i hi hy := by
    obtain hy | ⟨same, -⟩ := yielded_or_of_concat yields hy
    · exact hc.last i hi hy
    · exact differ same
  notClosed p := notMem_calls_append (hc.notClosed p)
    (closer_notMem_calls_singleton (Call.isCloser_of_yields? yields) p h)

/-- What was current is forgotten when another one is handed out. -/
theorem Current.forgotten (hc : Current made r h) (another : c.yields? = some r) :
    Forgotten (made ++ [⟨c, true⟩]) r h where
  replaced := ⟨made.length, hc.yielded.lt_length, yielded_concat another⟩
  notClosed := notMem_calls_append (hc.notClosed r)
    (closer_notMem_calls_singleton (Call.isCloser_of_yields? another) r h)

/-! ### Quiet -/

private theorem quietOnceClosed_nil : QuietOnceClosed [] := nofun

/-- A single call is made on nothing that is closed. -/
theorem quietOnceClosed_singleton (c : Call) : QuietOnceClosed [c] := by
  intro place r h hp later c' hlt hl
  have := (List.getElem?_eq_some_iff.mp hl).1
  simp only [List.length_singleton] at this
  omega

/-- It stays quiet when there are more calls, on other things than those that were closed. -/
theorem QuietOnceClosed.append (before : QuietOnceClosed calls) (after : QuietOnceClosed later)
    (others : ∀ c ∈ later, ∀ h, c.target? = some h → ∀ r : Resource, r.closer h ∉ calls) :
    QuietOnceClosed (calls ++ later) := by
  intro place r h hp next c hlt hc target
  by_cases hn : next < calls.length
  · rw [List.getElem?_append_left hn] at hc
    rw [List.getElem?_append_left (Nat.lt_trans hlt hn)] at hp
    exact before place r h hp next c hlt hc target
  · rw [List.getElem?_append_right (Nat.not_lt.mp hn)] at hc
    by_cases hp' : place < calls.length
    · rw [List.getElem?_append_left hp'] at hp
      exact absurd (List.mem_of_getElem? hp) (others c (List.mem_of_getElem? hc) h target r)
    · rw [List.getElem?_append_right (Nat.not_lt.mp hp')] at hp
      obtain ⟨page, next', video⟩ := after _ r h hp _ c (by omega) hc target
      exact ⟨page, by omega, video⟩

end Browser

/-! ### What closing tells -/

namespace Rig

/-- The calls of closing that concern a resource. -/
def closingOf (rig : Rig β) (target : Option Path) (o : Opened) : Resource → List Call
  | .page => pageClosing target o.page
  | .context => rig.contextClosing o.context
  | .browser => (o.browser.map .closeBrowser).toList
  | .driver => (o.driver.map .stopDriver).toList

private theorem closing_eq (rig : Rig β) (target : Option Path) (o : Opened) :
    rig.closing target o = rig.closingOf target o .page ++ (rig.closingOf target o .context ++
      (rig.closingOf target o .browser ++ rig.closingOf target o .driver)) :=
  rfl

variable {target : Option Path}

/-- Every part of closing is about its resource. -/
theorem target?_of_mem_closingOf (hc : c ∈ rig.closingOf target o r) :
    c.target? = o.handle? r := by
  cases r with
  | page =>
    cases hp : o.page with
    | none => simp [closingOf, pageClosing, hp] at hc
    | some page =>
      simp only [closingOf, pageClosing, hp] at hc
      simp only [Opened.handle?, hp]
      grind [Call.target?]
  | context =>
    cases ho : o.context with
    | none => simp [closingOf, contextClosing, ho] at hc
    | some context =>
      simp only [closingOf, contextClosing, ho] at hc
      simp only [Opened.handle?, ho]
      grind [Call.target?]
  | browser =>
    obtain ⟨browser, hb, rfl⟩ := Option.map_eq_some_iff.mp (Option.mem_toList.mp hc)
    exact hb.symm
  | driver =>
    obtain ⟨driver, hd, rfl⟩ := Option.map_eq_some_iff.mp (Option.mem_toList.mp hc)
    exact hd.symm

/-- Every part of closing closes its resource. -/
theorem closer_mem_closingOf (held : o.handle? r = some h) :
    r.closer h ∈ rig.closingOf target o r := by
  cases r with
  | page =>
    obtain ⟨page, hp, rfl⟩ := Option.map_eq_some_iff.mp held
    simp only [closingOf, pageClosing, hp]
    exact List.mem_cons_self
  | context =>
    have ho : o.context = some h := held
    simp only [closingOf, contextClosing, ho]
    split
    · exact List.mem_cons_of_mem _ List.mem_cons_self
    · exact List.mem_cons_self
  | browser => exact Option.mem_toList.mpr (Option.map_eq_some_iff.mpr ⟨h, held, rfl⟩)
  | driver => exact Option.mem_toList.mpr (Option.map_eq_some_iff.mpr ⟨h, held, rfl⟩)

/-- A part of closing closes nothing but its resource. -/
theorem eq_of_closer_mem_closingOf (hc : q.closer h ∈ rig.closingOf target o r) : q = r := by
  cases r with
  | page =>
    simp only [closingOf, pageClosing] at hc
    cases q <;> grind [Resource.closer]
  | context =>
    simp only [closingOf, contextClosing] at hc
    cases q <;> grind [Resource.closer]
  | browser =>
    obtain ⟨browser, -, same⟩ := Option.map_eq_some_iff.mp (Option.mem_toList.mp hc)
    cases q <;> cases same
    rfl
  | driver =>
    obtain ⟨driver, -, same⟩ := Option.map_eq_some_iff.mp (Option.mem_toList.mp hc)
    cases q <;> cases same
    rfl

private theorem mem_closing_iff : c ∈ rig.closing target o ↔ ∃ r, c ∈ rig.closingOf target o r := by
  rw [closing_eq]
  simp only [List.mem_append]
  constructor
  · rintro (hc | hc | hc | hc) <;> exact ⟨_, hc⟩
  · rintro ⟨r, hc⟩
    cases r with
    | page => exact .inl hc
    | context => exact .inr (.inl hc)
    | browser => exact .inr (.inr (.inl hc))
    | driver => exact .inr (.inr (.inr hc))

/-- Closing closes exactly what is open. -/
theorem closer_mem_closing : r.closer h ∈ rig.closing target o ↔ o.handle? r = some h := by
  rw [mem_closing_iff]
  constructor
  · rintro ⟨q, hc⟩
    obtain rfl := eq_of_closer_mem_closingOf hc
    exact (target?_of_mem_closingOf hc).symm.trans (r.target?_closer h)
  · exact fun held ↦ ⟨r, closer_mem_closingOf held⟩

private theorem quietOnceClosed_closePage (page : Handle) (path : Path) :
    QuietOnceClosed [.closePage page, .saveVideo page path] := by
  intro place r h hp later c hlt hc target
  have bound := (List.getElem?_eq_some_iff.mp hc).1
  simp only [List.length_cons, List.length_nil] at bound
  obtain ⟨rfl, rfl⟩ : place = 0 ∧ later = 1 := by omega
  cases hc
  cases target
  cases r <;> cases hp
  exact ⟨rfl, rfl, path, rfl⟩

-- Each part of closing is quiet: what is done before it closes its resource comes first.
private theorem quietOnceClosed_closingOf (rig : Rig β) (target : Option Path) (o : Opened)
    (r : Resource) : QuietOnceClosed (rig.closingOf target o r) := by
  cases r with
  | page =>
    simp only [closingOf, pageClosing]
    split
    · exact quietOnceClosed_nil
    · split
      · exact quietOnceClosed_closePage _ _
      · exact quietOnceClosed_singleton _
  | context =>
    simp only [closingOf, contextClosing]
    split
    · exact quietOnceClosed_nil
    · split
      · refine (quietOnceClosed_singleton _).append (quietOnceClosed_singleton _) ?_
        intro c _ h _ q hq
        cases q <;> cases List.mem_singleton.mp hq
      · exact quietOnceClosed_singleton _
  | browser =>
    cases hb : o.browser with
    | none => simp only [closingOf, hb]; exact quietOnceClosed_nil
    | some browser => simp only [closingOf, hb]; exact quietOnceClosed_singleton _
  | driver =>
    cases hd : o.driver with
    | none => simp only [closingOf, hd]; exact quietOnceClosed_nil
    | some driver => simp only [closingOf, hd]; exact quietOnceClosed_singleton _

/-- Closing is quiet, as long as different things are open under different handles. -/
theorem quietOnceClosed_closing
    (apart : ∀ r q h, o.handle? r = some h → o.handle? q = some h → r = q) :
    QuietOnceClosed (rig.closing target o) := by
  -- the parts of closing are about different things
  have others {r q : Resource} (hne : q ≠ r) : ∀ c ∈ rig.closingOf target o r, ∀ h,
      c.target? = some h → ∀ p : Resource, p.closer h ∉ rig.closingOf target o q := by
    intro c hc h ht p hp
    have heldr : o.handle? r = some h := (target?_of_mem_closingOf hc).symm.trans ht
    have heldq : o.handle? q = some h :=
      (target?_of_mem_closingOf hp).symm.trans (p.target?_closer h)
    exact hne (apart q r h heldq heldr)
  have quiet := quietOnceClosed_closingOf rig target o
  rw [closing_eq]
  refine (quiet .page).append ((quiet .context).append ((quiet .browser).append (quiet .driver)
    (others nofun)) ?_) ?_
  · simp only [List.forall_mem_append]
    exact ⟨others nofun, others nofun⟩
  · simp only [List.forall_mem_append]
    exact ⟨others nofun, others nofun, others nofun⟩

end Rig

namespace Browser

/-! ### The ledger -/

namespace Ledger

/-- Before the first call there is nothing to tell. -/
theorem nil : Ledger {} [] where
  current r h held := by cases r <;> cases held
  fate r h hy := absurd hy.lt_length (Nat.not_lt_zero h)
  known := nofun
  quiet := nofun

/-- Different things are open under different handles. -/
theorem apart (ledger : Ledger o made) (hr : o.handle? r = some h) (hq : o.handle? q = some h) :
    r = q :=
  (ledger.current r h hr).yielded.unique (ledger.current q h hq).yielded

/-- What is made on something open is made on nothing that was closed. -/
theorem quiet_append (ledger : Ledger o made) (quiet : QuietOnceClosed (more.map Exchange.call))
    (targets : ∀ x ∈ more, ∀ h, x.call.target? = some h → ∃ r, o.handle? r = some h) :
    QuietOnceClosed ((made ++ more).map Exchange.call) := by
  rw [List.map_append]
  refine ledger.quiet.append quiet fun c hc h ht r ↦ ?_
  obtain ⟨x, hx, rfl⟩ := List.mem_map.mp hc
  obtain ⟨q, held⟩ := targets x hx h ht
  exact (ledger.current q h held).notClosed r

/-- What is made on something open is made on something that was handed out. -/
theorem known_append (ledger : Ledger o made)
    (targets : ∀ x ∈ more, ∀ h, x.call.target? = some h → ∃ r, o.handle? r = some h) :
    ∀ x ∈ made ++ more, ∀ h, x.call.target? = some h → ∃ r, Yielded (made ++ more) r h := by
  intro x hx h ht
  obtain hx | hx := List.mem_append.mp hx
  · obtain ⟨r, hy⟩ := ledger.known x hx h ht
    exact ⟨r, hy.append⟩
  · obtain ⟨r, held⟩ := targets x hx h ht
    exact ⟨r, (ledger.current r h held).yielded.append⟩

/-- A handle that is yet to be given was not closed. -/
theorem closer_length_notMem (ledger : Ledger o made) (r : Resource) :
    r.closer made.length ∉ made.map Exchange.call := by
  intro hc
  obtain ⟨x, hx, called⟩ := List.mem_map.mp hc
  obtain ⟨q, hy⟩ := ledger.known x hx made.length (called ▸ r.target?_closer made.length)
  exact Nat.lt_irrefl _ hy.lt_length

/-- One more call that hands nothing out and closes nothing. -/
theorem worked (ledger : Ledger o made) {x : Exchange} (noClosing : x.call.isCloser = false)
    (nothing : YieldsNothing [x])
    (targets : ∀ h, x.call.target? = some h → ∃ r, o.handle? r = some h) :
    Ledger o (made ++ [x]) := by
  have notClosed := closer_notMem_calls_singleton noClosing
  have targets : ∀ y ∈ [x], ∀ h, y.call.target? = some h → ∃ r, o.handle? r = some h :=
    List.forall_mem_singleton.mpr targets
  refine ⟨fun r h held ↦ ?_, fun r h hy ↦ ?_, ledger.known_append targets, ?_⟩
  · exact (ledger.current r h held).append (fun _ ↦ nothing.not_yielded) (notClosed · h)
  · obtain held | disposed | forgotten := ledger.fate r h (nothing.yielded hy)
    · exact .inl held
    · exact .inr (.inl disposed.append)
    · exact .inr (.inr (forgotten.append (notClosed r h)))
  · exact ledger.quiet_append (quietOnceClosed_singleton x.call) targets

/-- One more call that hands something out: what it replaces is forgotten. -/
theorem obtained (ledger : Ledger o made) (yields : c.yields? = some r)
    (targets : ∀ h, c.target? = some h → ∃ q, o.handle? q = some h) (recordsVideo : Bool) :
    Ledger (o.obtain made.length recordsVideo r) (made ++ [⟨c, true⟩]) := by
  have targets : ∀ x ∈ [(⟨c, true⟩ : Exchange)], ∀ h, x.call.target? = some h →
      ∃ q, o.handle? q = some h := List.forall_mem_singleton.mpr targets
  refine ⟨fun q h held ↦ ?_, fun q h hy ↦ ?_, ledger.known_append targets,
    ledger.quiet_append (quietOnceClosed_singleton c) targets⟩
  · rw [Opened.handle?_obtain] at held
    split at held
    next same =>
      cases held
      cases same
      exact current_concat yields ledger.closer_length_notMem
    next differ => exact (ledger.current q h held).concat yields differ
  · rw [Opened.handle?_obtain]
    obtain hy | ⟨rfl, rfl⟩ := yielded_or_of_concat yields hy
    · obtain held | disposed | forgotten := ledger.fate q h hy
      · by_cases same : q = r
        · exact .inr (.inr ((ledger.current q h held).forgotten (same ▸ yields)))
        · exact .inl (by rw [if_neg same, held])
      · exact .inr (.inl disposed.append)
      · exact .inr (.inr (forgotten.append
          (closer_notMem_calls_singleton (Call.isCloser_of_yields? yields) q h)))
    · exact .inl (if_pos rfl)

/-- Closing disposes of all that is open. -/
theorem closed (ledger : Ledger o made) {target : Option Path}
    (calls : shut.map Exchange.call = rig.closing target o) : Ledger {} (made ++ shut) := by
  have uses : ∀ x ∈ shut, ∃ t, x.call.Uses t ∧ o.Holds t := fun x hx ↦
    Rig.uses_of_mem_closing (calls ▸ List.mem_map_of_mem hx)
  have nothing : YieldsNothing shut := fun x hx r yields ↦ by
    obtain ⟨t, used, -⟩ := uses x hx
    rw [used.yields?] at yields
    cases yields
  have noneOpen (r : Resource) (h : Handle) : ({} : Opened).handle? r ≠ some h := by
    cases r <;> nofun
  have targets : ∀ x ∈ shut, ∀ h, x.call.target? = some h → ∃ r, o.handle? r = some h :=
    fun x hx h ht ↦ by
      obtain ⟨t, used, holds⟩ := uses x hx
      cases ht.symm.trans used.target
      exact holds.exists_handle?
  refine ⟨fun r h held ↦ absurd held (noneOpen r h), fun r h hy ↦ .inr ?_,
    ledger.known_append targets, ledger.quiet_append ?_ targets⟩
  · have yielded : Yielded made r h := nothing.yielded hy
    obtain held | disposed | forgotten := ledger.fate r h yielded
    · refine .inl ((ledger.current r h held).disposed nothing ?_)
      exact calls ▸ Rig.closer_mem_closing.mpr held
    · exact .inl disposed.append
    · refine .inr (forgotten.append ?_)
      rw [calls, Rig.closer_mem_closing]
      -- what is open is the last of its kind
      intro held
      obtain ⟨i, hi, another⟩ := forgotten.replaced
      exact (ledger.current r h held).last i hi another
  · rw [calls]
    exact Rig.quietOnceClosed_closing fun r q h hr hq ↦ ledger.apart hr hq

end Ledger

end Browser

/-- The calls tell what became of everything that was handed out. -/
theorem Rig.Reaches.ledger (reaches : rig.Reaches o made) : Ledger o made := by
  induction reaches with
  | new => exact .nil
  | worked _ works holds answered ih =>
    refine ih.worked works.noClosing ?_ fun h ht ↦ ?_
    · rintro x hx r yields
      cases List.mem_singleton.mp hx
      rw [works.toUses.yields?] at yields
      cases yields
    · cases ht.symm.trans works.target
      exact holds.exists_handle?
  | refused _ ready ih =>
    refine ih.worked ready.isCloser ?_ fun h ht ↦ Opened.exists_handle?_of_ready ready ht
    rintro x hx r yields
    cases List.mem_singleton.mp hx
    rfl
  | obtained _ ready yields recordsVideo ih =>
    exact ih.obtained yields (fun h ↦ Opened.exists_handle?_of_ready ready) recordsVideo
  | reserved _ _ _ ih =>
    exact { ih with
      current := fun r h held ↦ ih.current r h (by cases r <;> exact held)
      fate := fun r h hy ↦ (ih.fate r h hy).imp_left fun held ↦ by cases r <;> exact held }
  | closed _ _ calls ih => exact ih.closed calls

end Playbook
