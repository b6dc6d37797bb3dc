import Playbook.Proofs.Environment.References
import Playbook.Proofs.Value

/-!
# Substituting in stages

If the values of an environment print without an opening brace, a text with the values put in is
cut as the text itself, but for the references that were replaced (`segments_resolve`). So two such
environments that bind different names can be substituted one after the other, in either order, or
at once (`Environment.substitute_staged`).
-/

namespace Playbook

/-! ### Cutting a substituted text -/

/-- What a segment is cut into once it is resolved. -/
def Segment.stage (lookup : List Char → Option (List Char)) : Segment → List Segment
  | plain c => [.plain c]
  | reference body =>
    match lookup (Text.trim body) with
    | some text => text.map .plain
    | none => [.reference body]

/-- A look-up of texts without an opening brace. -/
def Braceless (lookup : List Char → Option (List Char)) : Prop :=
  ∀ name, ∀ text ∈ lookup name, '\x7b' ∉ text

variable {lookup : List Char → Option (List Char)}

/-- Characters up to a line feed or to the end hold no reference. -/
theorem segments_open {body rest : List Char} (h : ∀ c ∈ body, isReferenceChar c)
    (broken : ∀ c ∈ rest.head?, c = '\n') :
    segments (body ++ rest) = body.map .plain ++ segments rest := by
  induction body with
  | nil => rfl
  | cons c body ih =>
    obtain ⟨-, hb⟩ := List.forall_mem_cons.mp h
    rw [List.cons_append, List.map_cons, List.cons_append, ← ih hb]
    by_cases hc : c = '\x7b'
    · rw [hc, segments_stray (referenceBody?_of_open hb broken)]
    · exact segments_plain hc _

-- Where a text closes no reference, it closes none once the references in it are resolved.
private theorem referenceBody?_resolve {cs : List Char} (h : referenceBody? cs = none) :
    referenceBody? ((segments cs).flatMap (Segment.resolve lookup)) = none := by
  obtain ⟨body, rest, hb, broken, rfl⟩ := open_of_referenceBody? h
  rw [segments_open hb broken, List.flatMap_append, List.flatMap_map]
  have same : body.flatMap (fun c ↦ Segment.resolve lookup (.plain c)) = body := by
    simp [Segment.resolve]
  rw [same]
  refine referenceBody?_of_open hb fun c hc ↦ ?_
  cases rest with
  | nil =>
    rw [segments_nil] at hc
    cases hc
  | cons d rest =>
    obtain rfl := broken d rfl
    rw [segments_plain (by decide)] at hc
    exact (Option.some.inj hc).symm

/-- A text with texts without braces put in is cut as the text itself, but for the references that
were replaced. -/
theorem segments_resolve (braceless : Braceless lookup) (cs : List Char) :
    segments ((segments cs).flatMap (Segment.resolve lookup)) =
      (segments cs).flatMap (Segment.stage lookup) := by
  fun_induction segments cs with
  | case1 => exact segments_nil
  | case2 rest body after cut ih =>
    obtain ⟨closed, rfl⟩ := closed_of_referenceBody? cut
    rw [List.flatMap_cons, List.flatMap_cons, ← ih, Segment.resolve, Segment.stage]
    cases found : lookup (Text.trim body) with
    | none =>
      rw [Option.getD_none, Segment.written, List.append_assoc]
      exact segments_closed closed _
    | some text =>
      have bare := braceless _ text found
      rw [Option.getD_some, segments_append (not_leavesOpen bare), segments_eq_map bare]
  | case3 rest cut ih =>
    rw [List.flatMap_cons, List.flatMap_cons, ← ih]
    exact segments_stray (referenceBody?_resolve cut)
  | case4 c rest hc ih =>
    rw [List.flatMap_cons, List.flatMap_cons, ← ih]
    exact segments_plain hc _

/-- Resolving what is left of a segment is resolving it with both look-ups. -/
theorem Segment.resolve_stage (lookup' : List Char → Option (List Char)) (s : Segment) :
    (s.stage lookup).flatMap (resolve lookup') =
      s.resolve fun name ↦ (lookup name).or (lookup' name) := by
  cases s with
  | plain c => rfl
  | reference body =>
    rw [stage, resolve]
    cases lookup (Text.trim body) with
    | none => exact List.flatMap_singleton ..
    | some text => simp [List.flatMap_map, resolve]

/-! ### Two environments -/

namespace Environment

variable {e f : Environment}

/-- A name that is not bound has no value. -/
theorem get?_eq_none {name : String} (h : name ∉ e.names) : e.get? name = none :=
  Value.field?_eq_none h

private theorem bindings_update (e : Environment) (fields : List (String × Value)) :
    (e.update fields).bindings = Value.putFields e.bindings fields := by
  induction fields generalizing e with
  | nil => rfl
  | cons f fields ih => exact ih (e.set f.1 f.2)

/-- The bindings of a second environment put on top of those of a first. -/
theorem get?_update (e f : Environment) (name : String) :
    (e.update f.bindings).get? name = (f.get? name).or (e.get? name) := by
  rw [get?, bindings_update]
  exact Value.field?_putFields f.nodup name

/-- The values of an environment print without an opening brace. -/
def PrintsNoBrace (e : Environment) : Prop :=
  ∀ b ∈ e.bindings, '\x7b' ∉ b.2.display.toList

/-- Whether values print so is told by printing them. -/
instance (e : Environment) : Decidable e.PrintsNoBrace :=
  inferInstanceAs (Decidable (∀ b ∈ e.bindings, '\x7b' ∉ b.2.display.toList))

/-- Values that print without an opening brace are looked up as such texts. -/
theorem PrintsNoBrace.braceless (h : e.PrintsNoBrace) : Braceless e.text? := by
  intro name text found
  rw [text?] at found
  cases bound : e.get? (String.ofList name) with
  | none =>
    rw [bound] at found
    cases found
  | some x =>
    obtain ⟨b, hb, rfl⟩ := Option.map_eq_some_iff.mp bound
    have shown := h b (List.mem_of_find?_eq_some hb)
    rw [bound] at found
    split at found
    · cases found
    · cases found
    · next hx =>
      cases hx
      cases found
      exact shown

private theorem text?_congr {name : List Char}
    (h : e.get? (String.ofList name) = f.get? (String.ofList name)) :
    e.text? name = f.text? name := by
  rw [text?, text?, h]

private theorem text?_eq_none {name : List Char} (h : String.ofList name ∉ e.names) :
    e.text? name = none := by
  rw [text?, get?_eq_none h]

/-- With no name bound twice, a name has its text in one environment or the other. -/
theorem text?_update (apart : ∀ name ∈ e.names, name ∉ f.names) (name : List Char) :
    (e.update f.bindings).text? name = (e.text? name).or (f.text? name) := by
  have both := get?_update e f (String.ofList name)
  by_cases h : String.ofList name ∈ e.names
  · rw [text?_eq_none (apart _ h), Option.or_none]
    exact text?_congr (both.trans (by rw [get?_eq_none (apart _ h), Option.none_or]))
  · rw [text?_eq_none h, Option.none_or]
    exact text?_congr (both.trans (by rw [get?_eq_none h, Option.or_none]))

/-- A text that was substituted with values without an opening brace, and then again, has the values
of both environments, those of the first where both have one. -/
theorem substitute_substitute (he : e.PrintsNoBrace) (f : Environment) (t : String) :
    f.substitute (e.substitute t) = String.ofList ((segments t.toList).flatMap
      (Segment.resolve fun name ↦ (e.text? name).or (f.text? name))) := by
  rw [substitute, toList_substitute, segments_resolve he.braceless, List.flatMap_assoc]
  exact congrArg (fun resolved ↦ String.ofList ((segments t.toList).flatMap resolved))
    (funext fun s ↦ s.resolve_stage f.text?)

/-- Two environments that bind different names, with values that print without an opening brace,
give the same text in either order and at once, and giving one again changes nothing. -/
theorem substitute_staged (he : e.PrintsNoBrace) (hf : f.PrintsNoBrace)
    (apart : ∀ name ∈ e.names, name ∉ f.names) (t : String) :
    f.substitute (e.substitute t) = e.substitute (f.substitute t) ∧
      f.substitute (e.substitute t) = (e.update f.bindings).substitute t ∧
      e.substitute (e.substitute t) = e.substitute t := by
  have once : (fun name ↦ (e.text? name).or (f.text? name)) = (e.update f.bindings).text? :=
    funext fun name ↦ (text?_update apart name).symm
  have swapped : (fun name ↦ (f.text? name).or (e.text? name)) = (e.update f.bindings).text? := by
    rw [← once]
    funext name
    by_cases h : String.ofList name ∈ e.names
    · rw [text?_eq_none (apart _ h), Option.none_or, Option.or_none]
    · rw [text?_eq_none h, Option.none_or, Option.or_none]
  have again : (fun name ↦ (e.text? name).or (e.text? name)) = e.text? :=
    funext fun name ↦ Option.or_self
  refine ⟨?_, ?_, ?_⟩
  · rw [substitute_substitute he f t, substitute_substitute hf e t, once, swapped]
  · rw [substitute_substitute he f t, once]
    rfl
  · rw [substitute_substitute he e t, again]
    rfl

/-- A value may break off an open brace, and null counts as not bound. -/
theorem substitute_staged_of_lineFeed :
    let e := empty.set "a" (.text "x\ny")
    let f := (empty.set "b c" (.text "z\x7d")).set "d" .null
    let t := "\x7b\n\x7ba\x7d\x7d \x7bb c \x7d \x7bd\x7d \x7b"
    f.substitute (e.substitute t) = e.substitute (f.substitute t) ∧
      f.substitute (e.substitute t) = "\x7b\nx\ny\x7d z\x7d \x7bd\x7d \x7b" := by
  intro e f t
  have staged := substitute_staged (e := e) (f := f) (by decide +kernel) (by decide +kernel)
    (by decide +kernel) t
  refine ⟨staged.1, ?_⟩
  rw [staged.2.1]
  decide +kernel

end Environment

end Playbook
