import Playbook.Stage

/-!
# Contracts

A contract says what a computation that may fail leaves behind, both when it goes through and when
it fails. Contracts are put together along the sequence of a computation (`Ensures.bind`), so what
a composite does follows from what its parts do.
-/

namespace Playbook

variable {S α β : Type}

/-- From a state with `pre`, a computation goes through to `post` or fails into `broken`. -/
def Ensures (pre : S → Prop) (x : EStateM Failure S α) (post : α → S → Prop)
    (broken : Failure → S → Prop) : Prop :=
  ∀ s, pre s →
    match x s with
    | .ok a t => post a t
    | .error e t => broken e t

/-- A computation that goes through keeps `inv`, and one that fails leaves `broken`. -/
def Keeps (inv : S → Prop) (broken : Failure → S → Prop) (x : EStateM Failure S α) : Prop :=
  Ensures inv x (fun _ ↦ inv) broken

/-- A sequence goes on where its first part went through. -/
theorem bind_of_ok {x : EStateM Failure S α} {s t : S} {a : α} (f : α → EStateM Failure S β)
    (h : x s = .ok a t) : (x >>= f) s = f a t := by
  simp only [bind, EStateM.bind, h]

/-- A sequence ends where its first part failed. -/
theorem bind_of_error {x : EStateM Failure S α} {s t : S} {e : Failure}
    (f : α → EStateM Failure S β) (h : x s = .error e t) : (x >>= f) s = .error e t := by
  simp only [bind, EStateM.bind, h]

/-- A sequence that goes through has gone through both of its parts. -/
theorem exists_of_bind_ok {x : EStateM Failure S α} {f : α → EStateM Failure S β} {s t : S} {b : β}
    (h : (x >>= f) s = .ok b t) : ∃ a s', x s = .ok a s' ∧ f a s' = .ok b t := by
  cases first : x s with
  | ok a s' => exact ⟨a, s', rfl, (bind_of_ok f first).symm.trans h⟩
  | error e s' => cases (bind_of_error f first).symm.trans h

/-- An attempt hands out what the play came to. -/
theorem toPlay_attempt_of_ok {σ : Type} {p : Play σ α} {s t : Stage σ} {a : α} (h : p s = .ok a t) :
    (Routine.attempt p).toPlay s = .ok (.ok a) t := by
  simp only [Routine.toPlay, Routine.attempt, h]

/-- An attempt hands out the failure of the play. -/
theorem toPlay_attempt_of_error {σ : Type} {p : Play σ α} {s t : Stage σ} {e : Failure}
    (h : p s = .error e t) : (Routine.attempt p).toPlay s = .ok (.error e) t := by
  simp only [Routine.toPlay, Routine.attempt, h]

variable {pre inv : S → Prop} {post : α → S → Prop} {broken : Failure → S → Prop}

namespace Ensures

/-- What a computation ensures holds where it goes through. -/
theorem of_ok {x : EStateM Failure S α} (h : Ensures pre x post broken) {s t : S} {a : α}
    (hs : pre s) (hx : x s = .ok a t) : post a t := by
  have := h s hs
  rwa [hx] at this

/-- What a computation leaves when it fails holds where it fails. -/
theorem of_error {x : EStateM Failure S α} (h : Ensures pre x post broken) {s t : S} {e : Failure}
    (hs : pre s) (hx : x s = .error e t) : broken e t := by
  have := h s hs
  rwa [hx] at this

/-- What does nothing ensures what held before it. -/
theorem pure (a : α) (h : ∀ s, pre s → post a s) :
    Ensures pre (Pure.pure a : EStateM Failure S α) post broken :=
  fun s hs ↦ h s hs

/-- A sequence fails where its first part fails, and otherwise where the rest does. -/
theorem bind {x : EStateM Failure S α} {f : α → EStateM Failure S β} {mid : α → S → Prop}
    {post : β → S → Prop} (hx : Ensures pre x mid broken)
    (hf : ∀ a, Ensures (mid a) (f a) post broken) : Ensures pre (x >>= f) post broken := by
  intro s hs
  cases hr : x s with
  | ok a t =>
    rw [bind_of_ok f hr]
    exact hf a t (hx.of_ok hs hr)
  | error e t =>
    rw [bind_of_error f hr]
    exact hx.of_error hs hr

/-- What is done on a condition and keeps things as they are may come before anything else. -/
theorem optional {c : Prop} [Decidable c] {x : EStateM Failure S α} {y : EStateM Failure S β}
    {post : β → S → Prop} (hx : Ensures pre x (fun _ ↦ pre) broken)
    (hy : Ensures pre y post broken) :
    Ensures pre (if c then x >>= fun _ ↦ y else y) post broken := by
  split
  · exact .bind hx fun _ ↦ hy
  · exact hy

/-- A fact that holds where a computation starts may be used about it. -/
theorem of_and {c : Prop} {x : EStateM Failure S α} (h : c → Ensures pre x post broken) :
    Ensures (fun s ↦ pre s ∧ c) x post broken :=
  fun s hs ↦ h hs.2 s hs.1

/-- A contract may be shown for whatever it asks to exist. -/
theorem of_exists {ι : Type} {pre : ι → S → Prop} {x : EStateM Failure S α}
    (h : ∀ i, Ensures (pre i) x post broken) : Ensures (fun s ↦ ∃ i, pre i s) x post broken :=
  fun s ⟨i, hs⟩ ↦ h i s hs

/-- A contract may ask for more and promise less. -/
theorem weaken {x : EStateM Failure S α} {pre' : S → Prop} {post' : α → S → Prop}
    {broken' : Failure → S → Prop} (h : Ensures pre x post broken) (hpre : ∀ s, pre' s → pre s)
    (hpost : ∀ a s, post a s → post' a s) (hbroken : ∀ e s, broken e s → broken' e s) :
    Ensures pre' x post' broken' := by
  intro s hs
  cases hr : x s with
  | ok a t => exact hpost a t (h.of_ok (hpre s hs) hr)
  | error e t => exact hbroken e t (h.of_error (hpre s hs) hr)

/-- An attempt hands out what the play came to, and does not fail. -/
theorem attempt {σ : Type} {pre : Stage σ → Prop} {post : α → Stage σ → Prop}
    {broken : Failure → Stage σ → Prop} {p : Play σ α} (h : Ensures pre p post broken)
    (broken' : Failure → Stage σ → Prop) :
    Ensures pre (Routine.attempt p).toPlay
      (fun outcome s ↦
        match outcome with
        | .ok a => post a s
        | .error e => broken e s) broken' := by
  intro s hs
  cases hp : p s with
  | ok a t =>
    rw [toPlay_attempt_of_ok hp]
    exact h.of_ok hs hp
  | error e t =>
    rw [toPlay_attempt_of_error hp]
    exact h.of_error hs hp

end Ensures

namespace Keeps

/-- What does nothing keeps everything. -/
theorem pure (a : α) : Keeps inv broken (Pure.pure a : EStateM Failure S α) :=
  Ensures.pure a fun _ h ↦ h

/-- A sequence keeps what its parts keep. -/
theorem bind {x : EStateM Failure S α} {f : α → EStateM Failure S β} (hx : Keeps inv broken x)
    (hf : ∀ a, Keeps inv broken (f a)) : Keeps inv broken (x >>= f) :=
  Ensures.bind hx hf

/-- What is kept in any case may be used where a computation fails. -/
theorem failing {x : EStateM Failure S α} (h : Keeps inv (fun _ ↦ inv) x)
    (failed : ∀ s e t, x s = .error e t → inv t → broken e t) : Keeps inv broken x := by
  intro s hs
  cases hx : x s with
  | ok a t => exact h.of_ok hs hx
  | error e t => exact failed s e t hx (h.of_error hs hx)

/-- An attempt keeps what is kept whether or not it succeeds. -/
theorem attempt {σ : Type} {inv : Stage σ → Prop} {broken : Failure → Stage σ → Prop}
    {p : Play σ α} (h : Keeps inv (fun _ ↦ inv) p) :
    Keeps inv broken (Routine.attempt p).toPlay := by
  refine Ensures.weaken (Ensures.attempt h broken) (fun _ hs ↦ hs) (fun outcome _ hs ↦ ?_)
    fun _ _ hs ↦ hs
  cases outcome with
  | ok a => exact hs
  | error e => exact hs

end Keeps

end Playbook
