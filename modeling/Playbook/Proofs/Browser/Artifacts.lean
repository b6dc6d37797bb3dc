import Playbook.Browser.Session
import Playbook.Proofs.Moment.Text

/-!
# Names of artifacts

Screenshots and videos are named by the time to the second, so two of one kind can only have the
same name if their times lie in the same second (`sameSecond_of_screenshotPath`,
`sameSecond_of_failureVideoPath`, `sameSecond_of_videoPath`).
-/

namespace Playbook

namespace Moment

/-- Whole seconds from the start of year 1. -/
def wholeSeconds (m : Moment) : Nat := m.toMicros / 1000000

/-- Two moments lie in the same second. -/
def SameSecond (m n : Moment) : Prop := m.wholeSeconds = n.wholeSeconds

/-- Seconds are compared as numbers. -/
instance (m n : Moment) : Decidable (m.SameSecond n) :=
  inferInstanceAs (Decidable (_ = _))

/-- What lies between two moments of one second lies in that second. -/
theorem SameSecond.between {m n a b : Moment} (h : m.SameSecond n)
    (hm : m.toMicros ≤ a.toMicros) (hab : a.toMicros ≤ b.toMicros)
    (hn : b.toMicros ≤ n.toMicros) : a.SameSecond b := by
  unfold SameSecond wholeSeconds at *
  omega

/-! ### Stamps -/

private theorem slash_notMem_padded (width n : Nat) : '/' ∉ (padded width n).toList := by
  simp only [padded, String.toList_ofList, List.mem_append, List.mem_replicate, not_or, not_and]
  exact ⟨fun _ ↦ by decide, fun h ↦ absurd (Nat.isDigit_of_mem_toDigits (by decide) (by decide) h)
    (by decide)⟩

private theorem slash_notMem_stamp (m : Moment) : '/' ∉ m.stamp.toList := by
  simp only [stamp, String.toList_append, List.mem_append, slash_notMem_padded, or_false, false_or]
  decide

private theorem stamp_ne_empty (m : Moment) : m.stamp ≠ "" := by
  intro h
  have := congrArg String.toList h
  simp [stamp] at this

/-- A stamp tells the second. -/
theorem sameSecond_of_stamp {m n : Moment} (h : m.stamp = n.stamp) : m.SameSecond n := by
  have two {a b : Nat} (ha : a < 100) (hb : b < 100) :
      (padded 2 a).toList.length = (padded 2 b).toList.length := by
    rw [length_padded ha (by decide), length_padded hb (by decide)]
  replace h := congrArg String.toList h
  simp only [stamp, String.toList_append] at h
  obtain ⟨h, second⟩ := List.append_inj' h (two (by omega) (by omega))
  obtain ⟨h, minute⟩ := List.append_inj' h (two (by omega) (by omega))
  obtain ⟨h, hour⟩ := List.append_inj' h (two (by omega) (by omega))
  obtain ⟨h, -⟩ := List.append_inj' h rfl
  obtain ⟨h, day⟩ := List.append_inj' h (two (by omega) (by omega))
  obtain ⟨year, month⟩ := List.append_inj' h (two (by omega) (by omega))
  unfold SameSecond wholeSeconds toMicros days dayMicros
  rw [padded_inj year, padded_inj month, padded_inj day, padded_inj hour, padded_inj minute,
    padded_inj second]
  have := m.micro.isLt
  have := n.micro.isLt
  unfold microsPerDay
  omega

end Moment

/-! ### Paths -/

namespace Path

/-- A name without slashes that is neither empty nor a dot is one part of a path. -/
theorem ofText_name {name : String} (hs : '/' ∉ name.toList) (hn : name.toList ≠ [])
    (hd : name.toList ≠ ['.']) : ofText name = ⟨.workingDirectory, [name]⟩ := by
  have anchor : anchorOf name.toList = .workingDirectory := by
    obtain ⟨c, cs, hc⟩ := List.exists_cons_of_ne_nil hn
    rw [hc] at hs ⊢
    have : c ≠ '/' := fun he ↦ hs (he ▸ List.mem_cons_self)
    simp only [anchorOf]
    split <;> simp_all
  have parts : partsOf name.toList = [name] := by
    simp [partsOf, Text.splitOn_of_notMem hs, hn, hd]
  rw [ofText, anchor, parts]

/-- The texts of two paths in a directory tell their names apart. -/
theorem name_eq_of_text_child {directory : Path} {name other : String}
    (h : (directory.child name).text = (directory.child other).text) : name = other := by
  simp only [text, child, List.append_eq_nil_iff, List.cons_ne_nil, and_false, if_false,
    String.append_right_inj] at h
  by_cases hp : directory.parts = []
  · simpa only [hp, List.nil_append, String.intercalate_singleton] using h
  · rw [String.intercalate_append_of_ne_nil hp (List.cons_ne_nil _ _),
      String.intercalate_append_of_ne_nil hp (List.cons_ne_nil _ _)] at h
    simpa only [String.append_right_inj, String.intercalate_singleton] using h

/-- The path of an artifact that is named by a moment. -/
def named (directory : Path) (kind ending : String) (m : Moment) : Path :=
  directory.join (.ofText (kind ++ m.stamp ++ ending))

/-- A kind and an ending that make names of files, whatever the stamp between them. -/
def MakesNames (kind ending : String) : Prop :=
  '/' ∉ kind.toList ∧ '/' ∉ ending.toList ∧ 2 ≤ kind.toList.length

/-- Whether names come of a kind and an ending is told by their characters. -/
instance (kind ending : String) : Decidable (MakesNames kind ending) :=
  inferInstanceAs (Decidable (_ ∧ _ ∧ _))

/-- What is named by a moment is a child of its directory. -/
theorem named_eq {kind ending : String} (hm : MakesNames kind ending) (directory : Path)
    (m : Moment) : directory.named kind ending m = directory.child (kind ++ m.stamp ++ ending) := by
  obtain ⟨hk, he, hl⟩ := hm
  have slash : '/' ∉ (kind ++ m.stamp ++ ending).toList := by
    simp only [String.toList_append, List.mem_append, not_or]
    exact ⟨⟨hk, m.slash_notMem_stamp⟩, he⟩
  have long : 2 ≤ (kind ++ m.stamp ++ ending).toList.length := by
    simp only [String.toList_append, List.length_append]
    omega
  rw [named, ofText_name slash]
  · exact join_of_relative rfl
  · intro h
    simp [h] at long
  · intro h
    simp [h] at long

private theorem sameSecond_of_named {kind ending : String} (hm : MakesNames kind ending)
    {directory : Path} {m n : Moment}
    (h : (directory.named kind ending m).text = (directory.named kind ending n).text) :
    m.SameSecond n := by
  rw [named_eq hm, named_eq hm] at h
  have names := name_eq_of_text_child h
  simp only [String.append_left_inj, String.append_right_inj] at names
  exact Moment.sameSecond_of_stamp names

end Path

namespace Rig

variable {β : Type} (rig : Rig β)

/-- The stamp of a moment is a stamp for artifacts. -/
theorem stampOr_stamp (m : Moment) : rig.stampOr (some m.stamp) = pure m.stamp := by
  unfold stampOr
  simp [Option.filter, m.stamp_ne_empty]

/-- The path of the screenshot of a failure at a moment. -/
def screenshotPath (m : Moment) : Path :=
  rig.settings.screenshots.directory.named "error-step-" ".png" m

/-- The path of the video that a failure reserves at a moment. -/
def failureVideoPath (m : Moment) : Path :=
  rig.settings.videos.directory.named "error-test-" ".webm" m

/-- The path of the video of a session that is closed at a moment, if all are saved. -/
def videoPath (m : Moment) : Path :=
  rig.settings.videos.directory.named "test-" ".webm" m

variable {rig} {m n : Moment}

/-- Screenshots have the same path only within one second. -/
theorem sameSecond_of_screenshotPath
    (h : (rig.screenshotPath m).text = (rig.screenshotPath n).text) : m.SameSecond n :=
  Path.sameSecond_of_named (by decide) h

/-- Videos of failures have the same path only within one second. -/
theorem sameSecond_of_failureVideoPath
    (h : (rig.failureVideoPath m).text = (rig.failureVideoPath n).text) : m.SameSecond n :=
  Path.sameSecond_of_named (by decide) h

/-- Videos of sessions have the same path only within one second. -/
theorem sameSecond_of_videoPath (h : (rig.videoPath m).text = (rig.videoPath n).text) :
    m.SameSecond n :=
  Path.sameSecond_of_named (by decide) h

end Rig

end Playbook
