import Playbook.Text.Order

/-!
# Orders that comparisons decide

A comparison decides a strict order when its three answers are the three ways in which two members
can stand to each other (`Decides`). Comparing lists member by member decides the lexicographic
order of lists (`Decides.lexicographic`), so texts are compared by the code points of their
characters (`decides_order`).
-/

namespace Playbook.Text

variable {α : Type} {order : α → α → Ordering} {before : α → α → Prop}

/-- An answer tells how two members stand to each other. -/
structure Tells (before : α → α → Prop) (a b : α) (answer : Ordering) : Prop where
  lt : answer = .lt ↔ before a b
  eq : answer = .eq ↔ a = b
  gt : answer = .gt ↔ before b a

/-- A comparison answers which of two members is before the other. -/
def Decides (order : α → α → Ordering) (before : α → α → Prop) : Prop :=
  ∀ a b, Tells before a b (order a b)

/-- Nothing is before itself in an order that is decided. -/
theorem Decides.irrefl (h : Decides order before) (a : α) : ¬before a a := by
  intro ha
  have lt := (h a a).lt.mpr ha
  rw [(h a a).eq.mpr rfl] at lt
  cases lt

/-- Of two members, one is before the other, or they are the same. -/
theorem Decides.trichotomy (h : Decides order before) (a b : α) :
    before a b ∨ a = b ∨ before b a := by
  cases ho : order a b with
  | lt => exact .inl ((h a b).lt.mp ho)
  | eq => exact .inr (.inl ((h a b).eq.mp ho))
  | gt => exact .inr (.inr ((h a b).gt.mp ho))

/-- Lists are compared by the first members that differ. -/
theorem Decides.lexicographic (h : Decides order before) :
    Decides (lexicographic order) (List.Lex before) := by
  intro as bs
  induction as generalizing bs with
  | nil =>
    cases bs with
    | nil => constructor <;> simp [Text.lexicographic]
    | cons b bs => constructor <;> simp [Text.lexicographic]
  | cons a as ih =>
    cases bs with
    | nil => constructor <;> simp [Text.lexicographic]
    | cons b bs =>
      have first := h a b
      have rest := ih bs
      have irrefl := h.irrefl a
      simp only [Text.lexicographic]
      cases ho : order a b with
      | lt | eq | gt => constructor <;> grind [List.cons_lex_cons_iff, Tells]

/-- The order of texts: by the code points of the first characters that differ. -/
def Precedes (a b : String) : Prop :=
  List.Lex (fun c d : Char ↦ c.toNat < d.toNat) a.toList b.toList

private theorem decides_charOrder : Decides charOrder fun c d ↦ c.toNat < d.toNat := by
  intro c d
  have same : c.toNat = d.toNat ↔ c = d := Char.toNat_inj
  unfold charOrder
  constructor <;> grind

/-- Texts are compared by their characters. -/
theorem decides_order : Decides Text.order Precedes := by
  intro a b
  have chars := decides_charOrder.lexicographic a.toList b.toList
  exact ⟨chars.lt, chars.eq.trans String.toList_inj, chars.gt⟩

/-- The order of texts is transitive. -/
theorem Precedes.trans {a b c : String} (h : Precedes a b) (h' : Precedes b c) : Precedes a c :=
  List.lex_trans Nat.lt_trans h h'

end Playbook.Text
