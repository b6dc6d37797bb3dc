import Mathlib.Data.List.Forall2

/-!
# Computations that may fail

What a sequence of computations comes to is told by what each of them comes to: a sequence that goes
through has gone through in all its parts (`bind_eq_ok`, `mapM_eq_ok_iff`, `filterM_ok`), and
one that fails does so with what one of its parts fails with (`FailsWith`).
-/

namespace Playbook

variable {α β ε : Type}

/-- Another wording of its errors does not change whether a computation goes through. -/
theorem mapError_eq_ok {δ : Type} {f : ε → δ} {x : Except ε α} {a : α} :
    x.mapError f = .ok a ↔ x = .ok a := by
  cases x with
  | ok _ => exact ⟨fun h ↦ congrArg _ (Except.ok.inj h), fun h ↦ congrArg _ (Except.ok.inj h)⟩
  | error _ => exact ⟨nofun, nofun⟩

/-! ### Going through -/

/-- A sequence goes through when both of its parts do. -/
theorem bind_eq_ok {x : Except ε α} {f : α → Except ε β} {b : β} :
    x >>= f = .ok b ↔ ∃ a, x = .ok a ∧ f a = .ok b := by
  cases x with
  | ok a => simp [bind, Except.bind]
  | error e => simp [bind, Except.bind]

/-- What is done with every member comes to what it comes to with each. -/
theorem mapM_eq_ok_iff {f : α → Except ε β} {as : List α} {bs : List β} :
    as.mapM f = .ok bs ↔ List.Forall₂ (fun a b ↦ f a = .ok b) as bs := by
  induction as generalizing bs with
  | nil =>
    rw [List.mapM_nil, List.forall₂_nil_left_iff]
    exact ⟨fun h ↦ (Except.ok.inj h).symm, fun h ↦ congrArg _ h.symm⟩
  | cons a as ih =>
    simp only [List.mapM_cons, bind_eq_ok, List.forall₂_cons_left_iff, ih]
    constructor
    · rintro ⟨b, hb, rest, hr, ⟨⟩⟩
      exact ⟨b, rest, hb, hr, rfl⟩
    · rintro ⟨b, rest, hb, hr, rfl⟩
      exact ⟨b, hb, rest, hr, rfl⟩

/-- What comes of a list comes of its members. -/
theorem exists_of_mem_of_mapM_ok {f : α → Except ε β} {as : List α} {bs : List β}
    (h : as.mapM f = .ok bs) {b : β} (hb : b ∈ bs) : ∃ a ∈ as, f a = .ok b := by
  have each := mapM_eq_ok_iff.mp h
  clear h
  induction each with
  | nil => cases hb
  | @cons a _ _ _ first _ ih =>
    obtain _ | ⟨_, hb⟩ := hb
    · exact ⟨a, List.mem_cons_self, first⟩
    · exact (ih hb).imp fun _ h ↦ ⟨List.mem_cons_of_mem a h.1, h.2⟩

/-- What is done with every member goes through when it goes through with each. -/
theorem exists_mapM_ok_iff {f : α → Except ε β} {as : List α} :
    (∃ bs, as.mapM f = .ok bs) ↔ ∀ a ∈ as, ∃ b, f a = .ok b := by
  induction as with
  | nil => simp [pure, Except.pure]
  | cons a as ih =>
    rw [List.forall_mem_cons, ← ih]
    simp only [List.mapM_cons, bind_eq_ok]
    constructor
    · rintro ⟨_, b, hb, rest, hr, -⟩
      exact ⟨⟨b, hb⟩, rest, hr⟩
    · rintro ⟨⟨b, hb⟩, rest, hr⟩
      exact ⟨b :: rest, b, hb, rest, hr, rfl⟩

/-- The members of all lists that were found, one list for each member. -/
theorem mem_flatten_of_mapM_ok {f : α → Except ε (List β)} {as : List α} {found : List (List β)}
    (h : as.mapM f = .ok found) {b : β} :
    b ∈ found.flatten ↔ ∃ a ∈ as, ∃ bs, f a = .ok bs ∧ b ∈ bs := by
  have each := mapM_eq_ok_iff.mp h
  clear h
  induction each with
  | nil => simp
  | cons first _ ih =>
    simp only [List.flatten_cons, List.mem_append, ih, List.exists_mem_cons_iff, first,
      Except.ok.injEq, exists_eq_left']

private theorem filterAuxM_ok {f : α → Except ε Bool} {as kept bs : List α}
    (h : as.filterAuxM f kept = .ok bs) :
    (∀ a ∈ as, ∃ b, f a = .ok b) ∧ ∀ a, a ∈ bs ↔ a ∈ kept ∨ a ∈ as ∧ f a = .ok true := by
  induction as generalizing kept with
  | nil =>
    cases h
    simp
  | cons a as ih =>
    obtain ⟨b, hb, hr⟩ := bind_eq_ok.mp h
    obtain ⟨went, kept⟩ := ih hr
    refine ⟨List.forall_mem_cons.mpr ⟨⟨b, hb⟩, went⟩, fun c ↦ ?_⟩
    rw [kept c]
    cases b <;> grind

/-- A choice among members goes through when every member could be looked at, and leaves those that
are chosen. -/
theorem filterM_ok {f : α → Except ε Bool} {as bs : List α} (h : as.filterM f = .ok bs) :
    (∀ a ∈ as, ∃ b, f a = .ok b) ∧ ∀ a, a ∈ bs ↔ a ∈ as ∧ f a = .ok true := by
  obtain ⟨kept, aux, done⟩ := bind_eq_ok.mp h
  cases done
  obtain ⟨went, chosen⟩ := filterAuxM_ok aux
  refine ⟨went, fun a ↦ ?_⟩
  rw [List.mem_reverse, chosen a]
  simp

/-! ### Failing -/

/-- Whatever a computation fails with, `P` holds of it. -/
def FailsWith (P : ε → Prop) (x : Except ε α) : Prop := ∀ e, x = .error e → P e

namespace FailsWith

variable {P : ε → Prop} {x : Except ε α}

/-- What goes through does not fail. -/
theorem ok (a : α) : FailsWith P (.ok a : Except ε α) := nofun

/-- An error is what a computation fails with. -/
theorem error {e : ε} (h : P e) : FailsWith P (.error e : Except ε α) := by
  rintro _ ⟨⟩
  exact h

/-- A sequence fails as its first part does, or as the rest does after it. -/
theorem bind {f : α → Except ε β} (hx : FailsWith P x) (hf : ∀ a, x = .ok a → FailsWith P (f a)) :
    FailsWith P (x >>= f) := by
  cases x with
  | error e => exact error (hx e rfl)
  | ok a => exact hf a rfl

/-- What is made of the answer does not change how a computation fails. -/
theorem map {f : α → β} (hx : FailsWith P x) : FailsWith P (x.map f) := by
  cases x with
  | error e => exact error (hx e rfl)
  | ok a => exact ok (f a)

/-- With other errors, a computation fails with what these are made of. -/
theorem mapError {δ : Type} {P : δ → Prop} {f : ε → δ} (hx : FailsWith (fun e ↦ P (f e)) x) :
    FailsWith P (x.mapError f) := by
  cases x with
  | error e => exact error (hx e rfl)
  | ok a => exact ok a

/-- A list of computations fails as one of them does. -/
theorem mapM {f : α → Except ε β} {as : List α} (h : ∀ a ∈ as, FailsWith P (f a)) :
    FailsWith P (as.mapM f) := by
  induction as with
  | nil => exact ok []
  | cons a as ih =>
    obtain ⟨ha, h⟩ := List.forall_mem_cons.mp h
    rw [List.mapM_cons]
    exact bind ha fun b _ ↦ bind (ih h) fun _ _ ↦ ok _

private theorem filterAuxM {f : α → Except ε Bool} {as : List α} (h : ∀ a ∈ as, FailsWith P (f a))
    (kept : List α) : FailsWith P (as.filterAuxM f kept) := by
  induction as generalizing kept with
  | nil => exact ok _
  | cons a as ih =>
    obtain ⟨ha, h⟩ := List.forall_mem_cons.mp h
    exact bind ha fun b _ ↦ ih h _

/-- Choosing from a list fails as the choice for one of its members does. -/
theorem filterM {f : α → Except ε Bool} {as : List α} (h : ∀ a ∈ as, FailsWith P (f a)) :
    FailsWith P (as.filterM f) :=
  bind (filterAuxM h []) fun _ _ ↦ ok _

end FailsWith

end Playbook
