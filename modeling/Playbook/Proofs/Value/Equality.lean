import Mathlib.Data.List.Nodup
import Mathlib.Data.List.Perm.Subperm
import Playbook.Proofs.Value

/-!
# Equality of values

Two objects without a name twice are equal just if they have equal fields under the same names,
whatever the order of the fields (`equal_object_iff`); lists are equal item by item
(`equal_list_iff`). A way to make values of something `Identifies` it if the values are equal just
where they are made of the same: texts and integers do, and so do lists of what is identified.
-/

namespace Playbook.Value

variable {α : Type} {fs gs : List (String × Value)}

/-- Two values are equal, or there is neither. -/
abbrev EqualOrAbsent : Option Value → Option Value → Prop :=
  Option.Rel fun v w ↦ v.equal w = true

/-- Two values that are there are compared. -/
theorem equalOrAbsent_some {v w : Value} :
    EqualOrAbsent (some v) (some w) ↔ v.equal w = true :=
  Option.rel_some_some

/-- What is equal to a value is a value equal to it. -/
theorem EqualOrAbsent.exists_of_some {v : Value} {o : Option Value}
    (h : EqualOrAbsent (some v) o) : ∃ w, o = some w ∧ v.equal w = true := by
  cases h with
  | some same => exact ⟨_, rfl, same⟩

/-- There are both values or neither. -/
theorem EqualOrAbsent.exists_iff {o p : Option Value} (h : EqualOrAbsent o p) :
    (∃ v, o = some v) ↔ ∃ v, p = some v := by
  cases h <;> simp

/-! ### Objects -/

/-- The fields of an object. -/
def fields : Value → List (String × Value)
  | object fs => fs
  | _ => []

/-- Every field of an object has an equal one in another. -/
theorem equalFields_iff :
    equalFields fs gs = true ↔ ∀ f ∈ fs, ∃ w, field? gs f.1 = some w ∧ f.2.equal w = true := by
  induction fs with
  | nil => simp [equalFields]
  | cons f fs ih =>
    rw [equalFields, Bool.and_eq_true, ih, List.forall_mem_cons]
    apply and_congr_left'
    cases field? gs f.1 <;> simp

/-- Objects with as many fields, each of which has an equal one in the other, have the same
names. -/
theorem fieldNames_perm_of_equal (hf : (fieldNames fs).Nodup)
    (h : (object fs).equal (object gs) = true) : (fieldNames fs).Perm (fieldNames gs) := by
  rw [equal, Bool.and_eq_true, beq_iff_eq, equalFields_iff] at h
  obtain ⟨length, fields⟩ := h
  have subset : fieldNames fs ⊆ fieldNames gs := by
    intro name hn
    obtain ⟨f, hf, rfl⟩ := List.mem_map.mp hn
    obtain ⟨w, found, -⟩ := fields f hf
    exact exists_field?_iff.mp ⟨w, found⟩
  apply (hf.subperm subset).perm_of_length_le
  simp [fieldNames, length]

/-- Two objects without a name twice are equal just if they have equal fields under the same names,
whatever the order of the fields. -/
theorem equal_object_iff (hf : (fieldNames fs).Nodup) (hg : (fieldNames gs).Nodup) :
    (object fs).equal (object gs) = true ↔
      ∀ name, EqualOrAbsent (field? fs name) (field? gs name) := by
  constructor
  · intro h name
    have names := fieldNames_perm_of_equal hf h
    rw [equal, Bool.and_eq_true, beq_iff_eq, equalFields_iff] at h
    cases found : field? fs name with
    | some v =>
      obtain ⟨w, found', same⟩ := h.2 _ (mem_of_field? found)
      rw [found']
      exact .some same
    | none =>
      have absent : name ∉ fieldNames gs := by
        rw [← names.mem_iff, ← exists_field?_iff, found]
        nofun
      rw [field?_eq_none absent]
      exact .none
  · intro h
    have names : (fieldNames fs).Perm (fieldNames gs) := by
      rw [List.perm_ext_iff_of_nodup hf hg]
      intro name
      rw [← exists_field?_iff, ← exists_field?_iff]
      exact (h name).exists_iff
    rw [equal, Bool.and_eq_true, beq_iff_eq, equalFields_iff]
    refine ⟨by simpa [fieldNames] using names.length_eq, ?_⟩
    rintro ⟨name, v⟩ hm
    exact (field?_of_mem hf hm ▸ h name).exists_of_some

/-- So are two objects that have no names but some given ones, if they have equal fields under
those. -/
theorem equal_object_iff_of_names (names : List String) (hf : (fieldNames fs).Nodup)
    (hg : (fieldNames gs).Nodup) (hfs : fieldNames fs ⊆ names) (hgs : fieldNames gs ⊆ names) :
    (object fs).equal (object gs) = true ↔
      ∀ name ∈ names, EqualOrAbsent (field? fs name) (field? gs name) := by
  rw [equal_object_iff hf hg]
  refine ⟨fun h name _ ↦ h name, fun h name ↦ ?_⟩
  by_cases hn : name ∈ names
  · exact h name hn
  · rw [field?_eq_none (mt (hfs ·) hn), field?_eq_none (mt (hgs ·) hn)]
    exact .none

/-! ### Lists -/

/-- Lists are equal item by item. -/
theorem equal_list_iff {xs ys : List Value} :
    (list xs).equal (list ys) = true ↔ List.Forall₂ (fun x y ↦ x.equal y = true) xs ys := by
  rw [equal]
  induction xs generalizing ys with
  | nil => cases ys <;> simp [equalItems]
  | cons x xs ih => cases ys <;> simp [equalItems, ih]

/-! ### Values that tell what they are made of -/

/-- Values are equal just where they are made of the same. -/
def Identifies (f : α → Value) : Prop :=
  ∀ a b, (f a).equal (f b) = true ↔ a = b

/-- A text is told by its value. -/
theorem identifies_text : Identifies text := by
  intro s t
  simp [equal]

/-- An integer is told by its value. -/
theorem identifies_int : Identifies int := by
  intro m n
  simp [equal, int, asNumber?, Number.equal]

/-- A text, or none, is told by a value. -/
theorem identifies_ofText? : Identifies ofText? := by
  intro s t
  cases s <;> cases t <;> simp [ofText?, equal]

namespace Identifies

variable {f : α → Value}

/-- Lists are told by the values of their members. -/
theorem map (h : Identifies f) : Identifies fun as : List α ↦ list (as.map f) := by
  intro as bs
  rw [equal_list_iff, List.forall₂_map_left_iff, List.forall₂_map_right_iff,
    ← List.forall₂_eq_eq_eq]
  simp only [h _ _]

/-- A value that may be absent tells what it is made of, and whether there is anything. -/
theorem equalOrAbsent_iff (h : Identifies f) (o p : Option α) :
    EqualOrAbsent (o.map f) (p.map f) ↔ o = p := by
  cases o <;> cases p <;> simp [EqualOrAbsent, h _ _]

end Identifies

/-- A list of texts is told by its value. -/
theorem identifies_texts : Identifies texts :=
  identifies_text.map

end Playbook.Value
