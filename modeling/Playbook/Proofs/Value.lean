import Mathlib.Data.List.Induction
import Mathlib.Data.List.Nodup
import Playbook.Environment.Basic

/-!
# Fields of objects

An object has a field under each of its names (`exists_field?_iff`). When the fields of one object
are put into another, those that are given replace those that were there (`field?_putFields`).
-/

namespace Playbook.Value

variable {fields given : List (String × Value)}

/-- An object without fields has none under any name. -/
theorem field?_nil {name : String} : field? [] name = none := rfl

/-- The first field under a name is found. -/
theorem field?_cons {f : String × Value} {name : String} :
    field? (f :: fields) name = if f.1 = name then some f.2 else field? fields name := by
  by_cases h : f.1 = name
  · simp [field?, h]
  · simp [field?, h]

/-- Earlier fields are found before later ones. -/
theorem field?_append {name : String} :
    field? (fields ++ given) name = (field? fields name).or (field? given name) := by
  simp [field?, List.find?_append, Option.map_or]

/-- Fields without a name have no field under it. -/
theorem field?_eq_none {name : String} (h : name ∉ fieldNames fields) :
    field? fields name = none := by
  rw [field?, Option.map_eq_none_iff, List.find?_eq_none]
  rintro f hf he
  exact h (List.mem_map.mpr ⟨f, hf, beq_iff_eq.mp he⟩)

/-- An object has a field under each of its names. -/
theorem exists_field?_iff {name : String} :
    (∃ v, field? fields name = some v) ↔ name ∈ fieldNames fields := by
  rw [← Option.isSome_iff_exists, field?, Option.isSome_map, List.find?_isSome]
  simp [fieldNames]

/-- A field that is found is one of the fields. -/
theorem mem_of_field? {name : String} {v : Value} (h : field? fields name = some v) :
    (name, v) ∈ fields := by
  obtain ⟨f, found, rfl⟩ := Option.map_eq_some_iff.mp h
  have same : f.1 = name := by simpa using List.find?_some found
  exact same ▸ List.mem_of_find?_eq_some found

/-- In an object without a name twice, every field is found. -/
theorem field?_of_mem (nodup : (fieldNames fields).Nodup) {name : String} {v : Value}
    (h : (name, v) ∈ fields) : field? fields name = some v := by
  obtain ⟨w, found⟩ := exists_field?_iff.mpr (List.mem_map_of_mem (f := (·.1)) h)
  have same := List.inj_on_of_nodup_map nodup (mem_of_field? found) h rfl
  rw [found, (Prod.mk.inj same).2]

/-- Put the fields of an object into another one. -/
def putFields (fields given : List (String × Value)) : List (String × Value) :=
  given.foldl (fun fs f ↦ putField fs f.1 f.2) fields

/-- A field that is given replaces the one that was there. -/
theorem field?_putFields (nodup : (fieldNames given).Nodup) (name : String) :
    field? (putFields fields given) name = (field? given name).or (field? fields name) := by
  induction given generalizing fields with
  | nil => rfl
  | cons f given ih =>
    obtain ⟨fresh, nodup⟩ := List.nodup_cons.mp nodup
    refine (ih nodup).trans ?_
    by_cases h : f.1 = name
    · subst h
      rw [field?_eq_none fresh, field?_putField_self]
      simp [field?]
    · rw [field?_putField_of_ne _ _ (Ne.symm h)]
      simp [field?, h]

/-- A field with a new name is put at the end. -/
theorem putField_of_fresh {name : String} {v : Value} (fresh : name ∉ fieldNames fields) :
    putField fields name v = fields ++ [(name, v)] := by
  induction fields with
  | nil => rfl
  | cons f fields ih =>
    rw [fieldNames, List.map_cons, List.mem_cons, not_or] at fresh
    rw [putField, if_neg (by simpa using Ne.symm fresh.1), ih fresh.2, List.cons_append]

/-- Fields without a name twice are put into an object one behind the other. -/
theorem putFields_nil (nodup : (fieldNames given).Nodup) : putFields [] given = given := by
  induction given using List.reverseRecOn with
  | nil => rfl
  | append_singleton given f ih =>
    rw [fieldNames, List.map_append, List.nodup_append] at nodup
    obtain ⟨nodup, -, apart⟩ := nodup
    have fresh : f.1 ∉ fieldNames given := fun h ↦ apart _ h _ List.mem_cons_self rfl
    have step : putFields [] (given ++ [f]) = putField (putFields [] given) f.1 f.2 :=
      List.foldl_append
    rw [step, ih nodup, putField_of_fresh fresh]

end Playbook.Value
