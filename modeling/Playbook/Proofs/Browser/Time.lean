import Mathlib.Logic.Relation
import Playbook.Browser.Rehearsal
import Playbook.Proofs.Shop.Keeping

/-!
# Time in a session

Time passes while calls are answered and while the clock is read. If the clock never goes back
(`Outside.NeverGoesBack`), what it tells once is no later than what it tells at any time after
(`Rig.Since.read`), whatever is done with a session in between (`Rig.spares_since`). Some of what is
done takes time and does nothing else to a session (`Rig.LeavesSession`).
-/

namespace Playbook

open Browser

variable {β α : Type}

namespace Outside

/-- What an outside comes to next: a call is answered, or the clock is read. -/
inductive Next (o : Outside β) : β → β → Prop where
  | answered (c : Call) (b : β) : Next o b (o.answer c b).2
  | read (b : β) : Next o b (o.now b).2

/-- What an outside may come to. -/
abbrev Leads (o : Outside β) : β → β → Prop := Relation.ReflTransGen o.Next

/-- From `start` on, the clock never goes back, whatever is called between two readings. -/
def NeverGoesBack (o : Outside β) (start : β) : Prop :=
  ∀ b b', o.Leads start b → o.Leads (o.now b).2 b' →
    (o.now b).1.toMicros ≤ (o.now b').1.toMicros

/-- From `start` on, calls that go wrong do so by faults. -/
def OnlyFaults (o : Outside β) (start : β) : Prop :=
  ∀ b, o.Leads start b → ∀ c m, (o.answer c b).1 = .error m → ∃ f, m = .fault f

end Outside

namespace Rig

variable {rig : Rig β} {start : β} {t : Nat} {s s' : Stage (Bench β)}

/-- The stage was come to from `start`, and from now on its clock tells nothing before `t`. -/
structure Since (rig : Rig β) (start : β) (t : Nat) (s : Stage (Bench β)) : Prop where
  led : rig.outside.Leads start s.world.outside
  later : ∀ b, rig.outside.Leads s.world.outside b → t ≤ (rig.outside.now b).1.toMicros

namespace Since

/-- Every stage is come to from itself, and no clock tells less than nothing. -/
theorem here (s : Stage (Bench β)) : rig.Since s.world.outside 0 s :=
  ⟨.refl, fun _ _ ↦ Nat.zero_le _⟩

/-- What happens outside later on tells no earlier time. -/
theorem of_leads (h : rig.Since start t s)
    (leads : rig.outside.Leads s.world.outside s'.world.outside) : rig.Since start t s' :=
  ⟨h.led.trans leads, fun b hb ↦ h.later b (leads.trans hb)⟩

/-- What is told nothing before a time is told nothing before an earlier one. -/
theorem mono (h : rig.Since start t s) {t' : Nat} (le : t' ≤ t) : rig.Since start t' s :=
  ⟨h.led, fun b hb ↦ Nat.le_trans le (h.later b hb)⟩

/-- The clock of the stage tells no earlier time. -/
theorem le_time (h : rig.Since start t s) : t ≤ (s.time rig.clock).toMicros :=
  h.later _ .refl

/-- The time that is read is no later than any that is read afterwards. -/
theorem read (h : rig.Since start t s) (forward : rig.outside.NeverGoesBack start) :
    rig.Since start (s.time rig.clock).toMicros (s.ticked rig.clock) :=
  ⟨h.led.tail (.read _), fun b hb ↦ forward s.world.outside b h.led hb⟩

end Since

/-- What is done with a session takes time, and no more. -/
theorem spares_since (rig : Rig β) (start : β) (t : Nat) : rig.Spares (rig.Since start t) :=
  .of_called (fun c ↦ call_keeps fun h _ ↦ h.of_leads (.single (.answered c _)))
    (fun h ↦ h.of_leads (.single (.read _))) (fun h _ _ _ ↦ h.of_leads .refl)
    (fun h _ ↦ h.of_leads .refl) fun _ ↦ onDisk_keeps (fun h _ ↦ h.of_leads .refl) _

/-! ### Leaving a session alone -/

/-- Time may have passed between two stages, but nothing was called, opened or closed. -/
structure Idles (rig : Rig β) (s s' : Stage (Bench β)) : Prop where
  time : rig.outside.Leads s.world.outside s'.world.outside
  exchanges : s'.world.exchanges = s.world.exchanges
  opened : s'.world.opened = s.world.opened

/-- Where nothing is done, a session is left alone. -/
theorem Idles.refl (s : Stage (Bench β)) : rig.Idles s s := ⟨.refl, rfl, rfl⟩

/-- However it ends, the play leaves sessions alone. -/
def LeavesSession (rig : Rig β) (p : Play (Bench β) α) : Prop :=
  ∀ s, Keeps (rig.Idles s) (fun _ ↦ rig.Idles s) p

/-- Time goes on while a session is left alone. -/
theorem LeavesSession.keeps_since {p : Play (Bench β) α} (h : rig.LeavesSession p) :
    Keeps (rig.Since start t) (fun _ ↦ rig.Since start t) p :=
  fun s since ↦ Ensures.weaken (h s) (fun _ h ↦ h) (fun _ _ h ↦ since.of_leads h.time)
    (fun _ _ h ↦ since.of_leads h.time) s (.refl s)

/-- The predicates that are always known leave sessions alone. -/
theorem leavesSession_standard (rig : Rig β) :
    ∀ p ∈ (Registry.standard : Registry (Bench β)).entries, ∀ argument,
      rig.LeavesSession (p.2 argument) := by
  intro p hp argument
  rw [Registry.eq_of_mem_standard hp]
  exact fun _ _ h ↦ h

/-- Recording a result leaves sessions alone. -/
theorem leavesSession_record (rig : Rig β) (result : CaseResult) :
    rig.LeavesSession (rig.record result) := by
  intro s
  refine record_keeps (fun h ↦ ?_) (fun h _ _ _ ↦ ?_) (fun w ↦ onDisk_keeps (fun h _ ↦ ?_) w)
    (fun h _ _ ↦ ?_) result
  · exact ⟨h.time.tail (.read _), h.exchanges, h.opened⟩
  all_goals exact ⟨h.time, h.exchanges, h.opened⟩

end Rig

/-! ### Rehearsals -/

namespace Browser.Rehearsal

/-- A call changes the time of a rehearsal by what it costs, and the plan not at all. -/
theorem answer_spares (r : Rehearsal) (c : Call) :
    (answer c r).2.now = r.now.advance ((r.plan.costs.lookup c.label).getD 0) ∧
      (answer c r).2.plan = r.plan := by
  have spared (r : Rehearsal) : (r.after c).now = r.now ∧ (r.after c).plan = r.plan := by
    unfold after
    split
    · exact ⟨rfl, rfl⟩
    · exact ⟨rfl, rfl⟩
    · split <;> exact ⟨rfl, rfl⟩
  unfold answer
  dsimp only
  split
  · exact ⟨rfl, rfl⟩
  · exact spared _

/-- A rehearsal goes by one plan. -/
theorem plan_of_leads {r b : Rehearsal} (h : outside.Leads r b) : b.plan = r.plan := by
  induction h with
  | refl => rfl
  | tail _ next ih =>
    cases next with
    | read => exact ih
    | answered c => exact (answer_spares _ c).2.trans ih

/-- A page that is rehearsed goes wrong by itself only where it has no fitting item. -/
theorem exists_fault_of_reply {r : Rehearsal} {c : Call} {m : Mishap}
    (h : r.reply c = .error m) : ∃ f, m = .fault f := by
  cases c with
  | readItemText =>
    unfold reply at h
    dsimp only at h
    split at h
    · cases h
    · cases h
      exact ⟨_, rfl⟩
  | _ => cases h

/-- A rehearsal goes wrong by faults if no more is planned. -/
theorem onlyFaults {r : Rehearsal}
    (planned : ∀ i ∈ r.plan.incidents, ∀ k m, i.2.mishap? k = some m → ∃ f, m = .fault f) :
    outside.OnlyFaults r := by
  intro b led c m failed
  change (answer c b).1 = _ at failed
  unfold answer at failed
  rw [plan_of_leads led] at failed
  dsimp only at failed
  split at failed
  · next mishap met =>
    cases failed
    obtain ⟨incident, found, met⟩ := Option.bind_eq_some_iff.mp met
    obtain ⟨earlier, later, incidents, -⟩ := List.lookup_eq_some_iff.mp found
    exact planned _ (incidents ▸ List.mem_append_right _ List.mem_cons_self) _ _ met
  · exact exists_fault_of_reply failed

end Browser.Rehearsal

end Playbook
