import Playbook.Environment.Substitute

/-!
# References in their surroundings

A text is cut into references from left to right, so what a reference is depends on what stands
before it. A text leaves a brace open if nothing after the brace closes it or breaks it off. Behind
a text that leaves none open, any text is cut as it is alone (`segments_append`), and a reference
to a bound name is replaced; behind an open brace, the reference that starts there reaches over it
(`Environment.substitute_reference`, `Environment.bound_reference_not_replaced`).
-/

namespace Playbook

/-! ### Cutting -/

/-- Characters up to a line feed or to the end close no reference. -/
theorem referenceBody?_of_open {body rest : List Char} (h : ∀ c ∈ body, isReferenceChar c)
    (broken : ∀ c ∈ rest.head?, c = '\n') : referenceBody? (body ++ rest) = none := by
  rw [referenceBody?, List.dropWhile_append_of_pos h]
  cases rest with
  | nil => rfl
  | cons c rest =>
    obtain rfl := broken c rfl
    rfl

/-- A reference ends at the first closing brace. -/
theorem referenceBody?_of_closed {body : List Char} (h : ∀ c ∈ body, isReferenceChar c)
    (after : List Char) : referenceBody? (body ++ '\x7d' :: after) = some (body, after) := by
  rw [referenceBody?, List.dropWhile_append_of_pos h, List.takeWhile_append_of_pos h]
  exact congrArg (fun body ↦ some (body, after)) (List.append_nil body)

/-- Behind an opening brace, a text closes the reference, or is broken off or ends before. -/
theorem referenceBody?_cases (cs : List Char) :
    (∃ body after, (∀ c ∈ body, isReferenceChar c) ∧ cs = body ++ '\x7d' :: after) ∨
      ∃ body rest, (∀ c ∈ body, isReferenceChar c) ∧ (∀ c ∈ rest.head?, c = '\n') ∧
        cs = body ++ rest := by
  have cut := List.takeWhile_append_dropWhile (p := isReferenceChar) (l := cs)
  have body : ∀ c ∈ cs.takeWhile isReferenceChar, isReferenceChar c :=
    List.all_eq_true.mp List.all_takeWhile
  have first := List.head?_dropWhile_not isReferenceChar cs
  cases hd : cs.dropWhile isReferenceChar with
  | nil => exact .inr ⟨_, [], body, nofun, hd ▸ cut.symm⟩
  | cons c rest =>
    rw [hd] at first cut
    have first : isReferenceChar c = false := first
    rw [isReferenceChar, Bool.and_eq_false_iff, bne_eq_false_iff_eq, bne_eq_false_iff_eq] at first
    rcases first with rfl | rfl
    · exact .inl ⟨_, rest, body, cut.symm⟩
    · exact .inr ⟨_, _, body, by simp, cut.symm⟩

/-- The body of a reference holds no closing brace and no line feed. -/
theorem closed_of_referenceBody? {cs body after : List Char}
    (h : referenceBody? cs = some (body, after)) :
    (∀ c ∈ body, isReferenceChar c) ∧ cs = body ++ '\x7d' :: after := by
  rcases referenceBody?_cases cs with ⟨body', after', hb, rfl⟩ | ⟨body', rest, hb, broken, rfl⟩
  · rw [referenceBody?_of_closed hb] at h
    cases h
    exact ⟨hb, rfl⟩
  · rw [referenceBody?_of_open hb broken] at h
    cases h

/-- Where no reference is closed, it is broken off or the text ends. -/
theorem open_of_referenceBody? {cs : List Char} (h : referenceBody? cs = none) :
    ∃ body rest, (∀ c ∈ body, isReferenceChar c) ∧ (∀ c ∈ rest.head?, c = '\n') ∧
      cs = body ++ rest := by
  rcases referenceBody?_cases cs with ⟨body, after, hb, rfl⟩ | broken
  · rw [referenceBody?_of_closed hb] at h
    cases h
  · exact broken

/-- Nothing is cut into nothing. -/
@[simp] theorem segments_nil : segments [] = [] := by
  rw [segments]

/-- A brace that is closed starts a reference. -/
theorem segments_closed {body : List Char} (h : ∀ c ∈ body, isReferenceChar c)
    (after : List Char) :
    segments ('\x7b' :: (body ++ '\x7d' :: after)) = .reference body :: segments after := by
  rw [segments, if_pos rfl]
  split
  · next h' =>
    rw [referenceBody?_of_closed h] at h'
    cases h'
    rfl
  · next h' =>
    rw [referenceBody?_of_closed h] at h'
    cases h'

/-- A brace that is not closed stands for itself. -/
theorem segments_stray {cs : List Char} (h : referenceBody? cs = none) :
    segments ('\x7b' :: cs) = .plain '\x7b' :: segments cs := by
  rw [segments, if_pos rfl]
  split
  · next h' =>
    rw [h] at h'
    cases h'
  · rfl

/-- A character other than an opening brace stands for itself. -/
theorem segments_plain {c : Char} (h : c ≠ '\x7b') (cs : List Char) :
    segments (c :: cs) = .plain c :: segments cs := by
  rw [segments, if_neg h]

/-! ### Open braces -/

/-- A text leaves a brace open: nothing after the brace closes it or breaks it off. -/
def LeavesOpen (u : List Char) : Prop :=
  ∃ before after, u = before ++ '\x7b' :: after ∧ ∀ c ∈ after, isReferenceChar c

/-- What comes last, up to a closing brace or a line feed, tells whether a brace is left open. -/
theorem leavesOpen_iff (u : List Char) :
    LeavesOpen u ↔ '\x7b' ∈ u.reverse.takeWhile isReferenceChar := by
  constructor
  · rintro ⟨before, after, rfl, ha⟩
    have ha : ∀ c ∈ after.reverse, isReferenceChar c := fun c hc ↦ ha c (List.mem_reverse.mp hc)
    rw [List.reverse_append, List.reverse_cons, List.append_assoc, List.singleton_append,
      List.takeWhile_append_of_pos ha]
    exact List.mem_append_right _ List.mem_cons_self
  · intro h
    obtain ⟨after, before, cut⟩ := List.append_of_mem h
    have whole := List.takeWhile_append_dropWhile (p := isReferenceChar) (l := u.reverse)
    refine ⟨(before ++ u.reverse.dropWhile isReferenceChar).reverse, after.reverse, ?_, ?_⟩
    · rw [cut] at whole
      refine (List.reverse_eq_iff.mp whole.symm).trans ?_
      simp only [List.reverse_append, List.reverse_cons, List.append_assoc, List.singleton_append]
    · intro c hc
      refine List.all_eq_true.mp (List.all_takeWhile (p := isReferenceChar) (l := u.reverse)) c ?_
      rw [cut]
      exact List.mem_append_left _ (List.mem_reverse.mp hc)

/-- Whether a text leaves a brace open is told by its last characters. -/
instance (u : List Char) : Decidable (LeavesOpen u) :=
  decidable_of_iff' _ (leavesOpen_iff u)

/-- A brace that is left open is left open whatever stands before it. -/
theorem LeavesOpen.append {u : List Char} (h : LeavesOpen u) (w : List Char) :
    LeavesOpen (w ++ u) := by
  obtain ⟨before, after, rfl, ha⟩ := h
  exact ⟨w ++ before, after, (List.append_assoc ..).symm, ha⟩

/-- A text without an opening brace leaves none open. -/
theorem not_leavesOpen {u : List Char} (h : '\x7b' ∉ u) : ¬LeavesOpen u := by
  rintro ⟨before, after, rfl, -⟩
  exact h (List.mem_append_right before List.mem_cons_self)

/-- The first brace that is left open stands behind a text that leaves none open. -/
theorem LeavesOpen.first {u : List Char} (h : LeavesOpen u) :
    ∃ before after, u = before ++ '\x7b' :: after ∧ ¬LeavesOpen before ∧
      ∀ c ∈ after, isReferenceChar c := by
  induction hn : u.length using Nat.strongRecOn generalizing u with
  | ind n ih =>
    obtain ⟨before, after, rfl, ha⟩ := h
    by_cases hb : LeavesOpen before
    · have shorter : before.length < n := by
        rw [← hn, List.length_append, List.length_cons]
        omega
      obtain ⟨before', after', hu, shut, ha'⟩ := ih _ shorter hb rfl
      refine ⟨before', after' ++ '\x7b' :: after, by rw [hu, List.append_assoc]; rfl, shut, ?_⟩
      exact List.forall_mem_append.mpr ⟨ha', List.forall_mem_cons.mpr ⟨rfl, ha⟩⟩
    · exact ⟨before, after, rfl, hb, ha⟩

/-- Behind a text that leaves no brace open, any text is cut as it is alone. -/
theorem segments_append {u : List Char} (h : ¬LeavesOpen u) (w : List Char) :
    segments (u ++ w) = segments u ++ segments w := by
  fun_induction segments u with
  | case1 => rfl
  | case2 rest body after cut ih =>
    obtain ⟨closed, rfl⟩ := closed_of_referenceBody? cut
    have h' : ¬LeavesOpen after := fun ho ↦ by
      have := ho.append ('\x7b' :: body ++ ['\x7d'])
      rw [List.append_assoc] at this
      exact h this
    have whole : '\x7b' :: (body ++ '\x7d' :: after) ++ w =
        '\x7b' :: (body ++ '\x7d' :: (after ++ w)) := by
      rw [List.cons_append, List.append_assoc, List.cons_append]
    rw [whole, segments_closed closed, ih h']
    rfl
  | case3 rest cut ih =>
    rw [List.cons_append, segments_stray, ih fun ho ↦ h (ho.append ['\x7b'])]
    · rfl
    · obtain ⟨body, rest, hb, broken, rfl⟩ := open_of_referenceBody? cut
      cases rest with
      | nil => exact absurd ⟨[], body, by rw [List.append_nil]; rfl, hb⟩ h
      | cons c rest =>
        rw [List.append_assoc]
        exact referenceBody?_of_open hb broken
  | case4 c rest hc ih =>
    rw [List.cons_append, segments_plain hc, ih fun ho ↦ h (ho.append [c])]
    rfl

/-! ### Substituting -/

/-- A name between braces. -/
def braced (n : String) : String := "\x7b" ++ n ++ "\x7d"

namespace Environment

variable (e : Environment)

/-- What becomes of a reference: the text of its value, or the reference itself if its name is not
bound or bound to null. -/
def resolve (n : String) : String :=
  match e.get? (Text.strip n) with
  | none => braced n
  | some .null => braced n
  | some v => v.display

/-- A reference to a name that is bound to a value other than null becomes the text of the
value. -/
theorem resolve_of_get? {n : String} {x : Value} (bound : e.get? (Text.strip n) = some x)
    (present : x ≠ .null) : e.resolve n = x.display := by
  rw [resolve, bound]
  cases x <;> first | rfl | exact absurd rfl present

private theorem ofList_resolve (n : String) :
    String.ofList (Segment.resolve e.text? (.reference n.toList)) = e.resolve n := by
  have looked : e.get? (String.ofList (Text.trim n.toList)) = e.get? (Text.strip n) := rfl
  have written : String.ofList (Segment.written (.reference n.toList)) = braced n := by
    simp [← String.toList_inj, braced, Segment.written]
  rw [Segment.resolve, text?, looked, resolve]
  cases e.get? (Text.strip n) with
  | none => exact written
  | some x => cases x <;> first | exact String.ofList_toList | exact written

/-- Behind a text that leaves no brace open, a text is substituted as it is alone. -/
theorem substitute_append {u : String} (h : ¬LeavesOpen u.toList) (w : String) :
    e.substitute (u ++ w) = e.substitute u ++ e.substitute w := by
  rw [substitute, String.toList_append, segments_append h, List.flatMap_append,
    String.ofList_append]
  rfl

/-- A reference at the start of a text is resolved, and the text behind it is substituted. -/
theorem substitute_braced {n : String} (body : ∀ c ∈ n.toList, isReferenceChar c) (v : String) :
    e.substitute (braced n ++ v) = e.resolve n ++ e.substitute v := by
  have written : (braced n ++ v).toList = '\x7b' :: (n.toList ++ '\x7d' :: v.toList) := by
    simp [braced]
  rw [substitute, written, segments_closed body, List.flatMap_cons, String.ofList_append,
    e.ofList_resolve]
  rfl

/-- A reference that is all of a text is resolved. -/
theorem substitute_braced_alone {n : String} (body : ∀ c ∈ n.toList, isReferenceChar c) :
    e.substitute (braced n) = e.resolve n := by
  have nothing : e.substitute "" = "" := e.substitute_eq_self (by simp)
  have whole := e.substitute_braced body ""
  rwa [nothing, String.append_empty, String.append_empty] at whole

/-- A reference to a bound name becomes the text of its value, and what stands around it is
substituted as it is alone, if what stands before it leaves no brace open. Otherwise the reference
that starts at the first open brace reaches over the bound name, and is resolved instead. -/
theorem substitute_reference {u n v : String} {x : Value}
    (body : ∀ c ∈ n.toList, isReferenceChar c) (bound : e.get? (Text.strip n) = some x)
    (present : x ≠ .null) :
    (¬LeavesOpen u.toList →
      e.substitute (u ++ braced n ++ v) = e.substitute u ++ x.display ++ e.substitute v) ∧
    (LeavesOpen u.toList → ∃ before after,
      u = before ++ "\x7b" ++ after ∧ ¬LeavesOpen before.toList ∧
      (∀ c ∈ after.toList, isReferenceChar c) ∧
      e.substitute (u ++ braced n ++ v) =
        e.substitute before ++ e.resolve (after ++ "\x7b" ++ n) ++ e.substitute v) := by
  refine ⟨fun shut ↦ ?_, fun opened ↦ ?_⟩
  · rw [String.append_assoc, e.substitute_append shut, e.substitute_braced body,
      e.resolve_of_get? bound present, String.append_assoc]
  · obtain ⟨before, after, hu, shut, ha⟩ := opened.first
    have written : u = String.ofList before ++ "\x7b" ++ String.ofList after := by
      rw [← String.toList_inj, hu]
      simp
    have swallowed : u ++ braced n ++ v =
        String.ofList before ++ (braced (String.ofList after ++ "\x7b" ++ n) ++ v) := by
      simp only [written, braced, String.append_assoc]
    have inner : ∀ c ∈ (String.ofList after ++ "\x7b" ++ n).toList, isReferenceChar c := by
      rw [String.toList_append, String.toList_append, String.toList_ofList]
      exact List.forall_mem_append.mpr
        ⟨List.forall_mem_append.mpr ⟨ha, List.forall_mem_singleton.mpr rfl⟩, body⟩
    rw [← String.toList_ofList (l := before)] at shut
    rw [← String.toList_ofList (l := after)] at ha
    refine ⟨_, _, written, shut, ha, ?_⟩
    rw [swallowed, e.substitute_append shut, e.substitute_braced inner]
    exact (String.append_assoc ..).symm

/-- With a name bound, a reference to it is replaced behind another reference, and swallowed behind
an open brace. -/
theorem substitute_reference_of_number :
    let e := empty.set "n" (.text "5")
    e.substitute ("\x7bm\x7d " ++ braced "n" ++ "!") = "\x7bm\x7d 5!" ∧
      ∃ before after, "\x7b " = before ++ "\x7b" ++ after ∧
        e.substitute ("\x7b " ++ braced "n" ++ "!") =
          e.substitute before ++ e.resolve (after ++ "\x7b" ++ "n") ++ e.substitute "!" := by
  intro e
  have body : ∀ c ∈ "n".toList, isReferenceChar c := List.all_eq_true.mp (by decide)
  have tidy : Text.strip "n" = "n" := by decide +kernel
  have bound : e.get? (Text.strip "n") = some (.text "5") := by
    rw [tidy]
    exact get?_set_self ..
  refine ⟨?_, ?_⟩
  · rw [(e.substitute_reference body bound nofun).1 (by decide)]
    decide +kernel
  · obtain ⟨before, after, hu, -, -, ht⟩ :=
      (e.substitute_reference (u := "\x7b ") (v := "!") body bound nofun).2 (by decide)
    exact ⟨before, after, hu, ht⟩

/-- A reference to a bound name behind an open brace stays as it is. -/
theorem bound_reference_not_replaced :
    let e := empty.set "n" (.text "5")
    e.get? (Text.strip "n") = some (.text "5") ∧
      e.substitute ("\x7b " ++ braced "n" ++ "") = "\x7b " ++ braced "n" ∧
      e.substitute ("\x7b " ++ braced "n" ++ "") ≠
        e.substitute "\x7b " ++ Value.display (.text "5") ++ e.substitute "" := by
  intro e
  have tidy : Text.strip "n" = "n" := by decide +kernel
  refine ⟨?_, by decide +kernel, by decide +kernel⟩
  rw [tidy]
  exact get?_set_self ..

end Environment

end Playbook
