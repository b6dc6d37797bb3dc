import Playbook.Proofs.Shop.Acting
import Playbook.Proofs.Shop.Specificity
import Playbook.Proofs.Shop.Usage
import Playbook.Proofs.Text.Decimal

/-!
# Counts of items

The number of items in the cart is compared with a count that a script writes in decimal digits, of
any script and with blanks around them. What is no numeral is refused before the page is asked. A
numeral need not be a decimal digit, and a number may have too many digits: then the count passes as
one and cannot be read, which is told as a fault (`perform_number_of_items`).
-/

namespace Playbook.Shop

open Browser

variable {β : Type} {rig : Rig β} {s t : Stage (Bench β)} {page : Page}
  {action written raw : String} {more : List String}

/-! ### Reading a count -/

/-- What is told of numerals that cannot be read. -/
def unreadable (raw : String) : String :=
  let digits := (raw.toList.takeWhile Text.isDigit).length
  if 4300 < digits then
    "Exceeds the limit (4300 digits) for integer string conversion: value has " ++
      toString digits ++ " digits; use sys.set_int_max_str_digits() to increase the limit"
  else "invalid literal for int() with base 10: " ++
    String.ofList ((Text.quoted raw).toList.take 200)

private theorem tooManyDigits_eq (digits : Nat) : Number.tooManyDigits digits =
    "Exceeds the limit (4300 digits) for integer string conversion: value has " ++
      toString digits ++ " digits; use sys.set_int_max_str_digits() to increase the limit" := by
  have limit : toString Number.digitLimit = "4300" := by decide +kernel
  have opening : "Exceeds the limit (" ++ "4300" ++
      " digits) for integer string conversion: value has " =
      "Exceeds the limit (4300 digits) for integer string conversion: value has " := by
    decide +kernel
  unfold Number.tooManyDigits
  rw [limit, opening]

private theorem unreadable_eq (raw : String) : unreadable raw =
    if Number.digitLimit < (raw.toList.takeWhile Text.isDigit).length then
      Number.tooManyDigits (raw.toList.takeWhile Text.isDigit).length
    else "invalid literal for int() with base 10: " ++
      String.ofList ((Text.quoted raw).toList.take 200) := by
  rw [tooManyDigits_eq]
  rfl

private theorem message_unreadable (raw : String) :
    (ActionCause.wrapped ⟨.value, unreadable raw⟩).message = unreadable raw := by
  have filled : ¬(unreadable raw).isEmpty = true := by
    unfold unreadable
    dsimp only
    split
    · simp
    · simp
  change (if FaultKind.value = .timeout then "Timed out waiting for the page: " ++ unreadable raw
    else if (unreadable raw).isEmpty then FaultKind.value.name else unreadable raw) = unreadable raw
  rw [if_neg (by decide), if_neg filled]

/-- A decimal digit is a numeral. -/
theorem isNumeral_of_isDigit {c : Char} (h : Text.isDigit c = true) : Text.isNumeral c = true := by
  rw [Text.isNumeral, h, Bool.true_or]

/-- What is empty or holds anything but numerals is refused. -/
theorem readCount_of_not_numeral (trimmed : Text.strip written = raw)
    (h : raw = "" ∨ ∃ c ∈ raw.toList, Text.isNumeral c = false) :
    readCount written = .error (.action { cause := .badCount raw }) := by
  have refused : (raw.isEmpty || !raw.toList.all Text.isNumeral) = true := by
    rw [Bool.or_eq_true, String.isEmpty_iff, Bool.not_eq_true', List.all_eq_false]
    exact h.imp_right fun ⟨c, hc, no⟩ ↦ ⟨c, hc, Bool.eq_false_iff.mp no⟩
  unfold readCount
  dsimp only
  rw [trimmed, if_pos refused]

-- Numerals pass for a count, whether or not it can be read.
private theorem readCount_of_all_numerals (trimmed : Text.strip written = raw) (filled : raw ≠ "")
    (numerals : ∀ c ∈ raw.toList, Text.isNumeral c = true) :
    readCount written =
      if Number.digitLimit < (raw.toList.takeWhile Text.isDigit).length then
        .error (.fault ⟨.value, unreadable raw⟩)
      else
        match Text.decimalValue? raw.toList with
        | some n => .ok n
        | none => .error (.fault ⟨.value, unreadable raw⟩) := by
  have passed : ¬(raw.isEmpty || !raw.toList.all Text.isNumeral) = true := by
    rw [Bool.or_eq_true, String.isEmpty_iff, Bool.not_eq_true', List.all_eq_true.mpr numerals]
    simp [filled]
  unfold readCount
  dsimp only
  rw [trimmed, if_neg passed, unreadable_eq]
  split
  · rfl
  · cases Text.decimalValue? raw.toList <;> rfl

/-- A count in decimal digits is read, unless these are too many. -/
theorem readCount_of_digits {ds : List Nat} (trimmed : Text.strip written = raw)
    (spelled : Text.SpellDigits raw.toList ds) (filled : ds ≠ [])
    (short : ds.length ≤ Number.digitLimit) :
    readCount written = .ok (Nat.ofDigits 10 ds.reverse) := by
  have nonempty : raw ≠ "" := by
    rwa [Ne, ← String.toList_eq_nil_iff, ← List.length_eq_zero_iff, spelled.length_eq,
      List.length_eq_zero_iff]
  have within : ¬Number.digitLimit < (raw.toList.takeWhile Text.isDigit).length := by
    have shorter := (List.takeWhile_prefix (l := raw.toList) Text.isDigit).length_le
    rw [spelled.length_eq] at shorter
    exact (shorter.trans short).not_gt
  rw [readCount_of_all_numerals trimmed nonempty fun c hc ↦
    isNumeral_of_isDigit (spelled.isDigit c hc), if_neg within, spelled.decimalValue?]

/-- Numerals that are not all decimal digits, or too many, cannot be read. -/
theorem readCount_of_numerals (trimmed : Text.strip written = raw) (filled : raw ≠ "")
    (numerals : ∀ c ∈ raw.toList, Text.isNumeral c = true)
    (h : (∃ c ∈ raw.toList, Text.isDigit c = false) ∨ Number.digitLimit < raw.toList.length) :
    readCount written = .error (.fault ⟨.value, unreadable raw⟩) := by
  rw [readCount_of_all_numerals trimmed filled numerals]
  by_cases digits : ∀ c ∈ raw.toList, Text.isDigit c = true
  · have long : Number.digitLimit < raw.toList.length := by
      refine h.resolve_left ?_
      rintro ⟨c, hc, no⟩
      exact Bool.false_ne_true (no.symm.trans (digits c hc))
    rw [List.takeWhile_eq_self_iff.mpr digits, if_pos long]
  · push Not at digits
    obtain ⟨c, hc, no⟩ := digits
    rw [Text.decimalValue?_eq_none hc (Bool.eq_false_iff.mpr no), ite_self]

/-! ### Comparing it -/

/-- Asking for the number of items comes to what reading the count comes to. -/
theorem carryOut_count (rig : Rig β) (page : Page) (written : String) (more : List String) :
    carryOut rig page (written :: more) .checkItemsCount =
      match readCount written with
      | .ok n => requireCount rig page n
      | .error e => throw e := by
  have given : (parameter (written :: more) 0 "count" : Play (Bench β) String) = pure written := rfl
  unfold carryOut
  dsimp only
  rw [given]
  refine (pure_bind _ _).trans ?_
  cases readCount written <;> rfl

/-- The number of items is asked for once, and must be the one that is required. -/
theorem requireCount_eq (rig : Rig β) (page : Page) (expected : Int) (t : Stage (Bench β)) :
    requireCount rig page expected t =
      match rig.call (.count page.handle ".cart_item") t with
      | .ok actual u =>
        if actual = expected then .ok () u
        else .error (.fault ⟨.assertion, "Expected " ++ toString expected ++
          " items in the cart but found " ++ toString actual⟩) u
      | .error e u => .error e u := by
  unfold requireCount
  cases called : rig.call (.count page.handle ".cart_item") t with
  | ok actual u =>
    rw [bind_of_ok _ called]
    by_cases same : actual = expected
    · rw [if_neg (not_not_intro same)]
      exact (if_pos same).symm
    · rw [if_pos same]
      exact (if_neg same).symm
  | error e u => rw [bind_of_error _ called]

/-- Asking for a number of items comes to what reading the count comes to: the page is asked only
for a count that can be read. -/
theorem perform_count (counts : Action.ofText? action = some .checkItemsCount)
    (started : rig.start s = .ok page t) :
    perform rig action (written :: more) s =
      match readCount written with
      | .ok n =>
        match requireCount rig page n t with
        | .ok () u => keepTitle rig u
        | .error e u => failAction rig action (causeOf e) u
      | .error e => failAction rig action (causeOf e) t := by
  rw [perform_of_start started, performText_of_some counts, carryOut_count]
  cases readCount written <;> rfl

/-- A count in decimal digits is compared with the number of items that the page tells, unless there
are too many digits. What is empty or holds anything but numerals is refused as no count before the
page is asked, and the refusal quotes it. Numerals that are not all decimal digits, or too many, are
not refused as such: the action fails because they cannot be read. -/
theorem perform_number_of_items (counts : Action.ofText? action = some .checkItemsCount)
    (started : rig.start s = .ok page t) (trimmed : Text.strip written = raw) :
    (∀ ds, ds ≠ [] → Text.SpellDigits raw.toList ds → ds.length ≤ Number.digitLimit →
      ∀ n : Nat, n = Nat.ofDigits 10 ds.reverse →
        perform rig action (written :: more) s =
          match rig.call (.count page.handle ".cart_item") t with
          | .ok actual u =>
            if actual = (n : Int) then keepTitle rig u
            else failAction rig action (.wrapped ⟨.assertion, "Expected " ++ toString (n : Int) ++
              " items in the cart but found " ++ toString actual⟩) u
          | .error e u => failAction rig action (causeOf e) u) ∧
    ((raw = "" ∨ ∃ c ∈ raw.toList, Text.isNumeral c = false) →
      perform rig action (written :: more) s = failAction rig action (.badCount raw) t ∧
        (ActionCause.badCount raw).message =
          "Item count must be a non-negative integer, got '" ++ raw ++ "'") ∧
    (raw ≠ "" → (∀ c ∈ raw.toList, Text.isNumeral c = true) →
      ((∃ c ∈ raw.toList, Text.isDigit c = false) ∨ Number.digitLimit < raw.toList.length) →
      perform rig action (written :: more) s =
          failAction rig action (.wrapped ⟨.value, unreadable raw⟩) t ∧
        (ActionCause.wrapped ⟨.value, unreadable raw⟩).message = unreadable raw) := by
  rw [perform_count counts started]
  refine ⟨?_, fun h ↦ ?_, fun filled numerals h ↦ ?_⟩
  · rintro ds filled spelled short n rfl
    rw [readCount_of_digits trimmed spelled filled short]
    dsimp only
    rw [requireCount_eq]
    cases rig.call (.count page.handle ".cart_item") t with
    | error e u => rfl
    | ok actual u =>
      dsimp only
      by_cases same : actual = ((Nat.ofDigits 10 ds.reverse : Nat) : Int)
      · rw [if_pos same, if_pos same]
      · rw [if_neg same, if_neg same]
        rfl
  · rw [readCount_of_not_numeral trimmed h]
    exact ⟨rfl, rfl⟩
  · rw [readCount_of_numerals trimmed filled numerals h]
    exact ⟨rfl, message_unreadable raw⟩

/-! ### A cart with three items -/

/-- An open session on a page that shows a cart with three items. -/
def cartStage : Stage (Bench Rehearsal) :=
  Usage.start.run rehearsalRig (newSession .empty {}
    { plan := { scene := { counts := [(".cart_item", 3)] } }, now := default })

private theorem start_cartStage : rehearsalRig.start cartStage = .ok ⟨3, false⟩ cartStage :=
  start_of_open rfl

/-- The number of items that the page tells. -/
private def counted? (s : Stage (Bench Rehearsal)) : Option Int :=
  match rehearsalRig.call (.count 3 ".cart_item") s with
  | .ok actual _ => some actual
  | .error _ _ => none

/-- Three items are found to be as many as an Arabic digit says, and a word is refused as no count
and quoted. -/
theorem perform_number_of_items_three :
    (∃ u, perform rehearsalRig "Should see number of items" [" ٣ "] cartStage =
      keepTitle rehearsalRig u) ∧
    perform rehearsalRig "Should see number of items" ["three"] cartStage =
      failAction rehearsalRig "Should see number of items" (.badCount "three") cartStage ∧
    (ActionCause.badCount "three").message =
      "Item count must be a non-negative integer, got 'three'" := by
  have digit : Text.strip " ٣ " = "٣" := rfl
  have word : Text.strip "three" = "three" := rfl
  obtain ⟨refused, message⟩ :
      perform rehearsalRig "Should see number of items" ["three"] cartStage = _ ∧ _ :=
    (perform_number_of_items ofText?_number_of_items start_cartStage word).2.1
      (.inr ⟨'t', by decide, rfl⟩)
  refine ⟨?_, refused, message.trans (by decide)⟩
  have three : counted? cartStage = some 3 := rfl
  rw [(perform_number_of_items ofText?_number_of_items start_cartStage digit).1 [3] (by decide)
    rfl (by decide) 3 rfl]
  unfold counted? at three
  split at three
  · next actual u called =>
    rw [called]
    exact ⟨u, if_pos (Option.some.inj three)⟩
  · cases three

/-- The wording of a failure. -/
private def told? (x : EStateM.Result Failure (Stage (Bench Rehearsal)) Unit) : Option String :=
  match x with
  | .ok _ _ => none
  | .error e _ => some e.message

/-- A superscript digit is not refused as no count, although it is no decimal digit: it is told that
it cannot be read. -/
theorem superscript_not_refused :
    ∃ e u, perform rehearsalRig "Should see number of items" ["²"] cartStage = .error e u ∧
      e.message = "invalid literal for int() with base 10: '²'" ∧
      e.message ≠ (ActionCause.badCount "²").message := by
  have numeral : readCount "²" = .error (.fault ⟨.value, unreadable "²"⟩) :=
    readCount_of_numerals rfl (by decide) (List.all_eq_true.mp rfl) (.inl ⟨'²', by decide, rfl⟩)
  have told : told? (failAction rehearsalRig "Should see number of items"
      (.wrapped ⟨.value, unreadable "²"⟩) cartStage) =
      some "invalid literal for int() with base 10: '²'" := by decide +kernel
  rw [perform_count ofText?_number_of_items start_cartStage, numeral]
  unfold told? at told
  split at told
  · cases told
  · next e u failed =>
    refine ⟨e, u, failed, Option.some.inj told, ?_⟩
    rw [Option.some.inj told]
    decide

end Playbook.Shop
