import Playbook.Input
import Playbook.Proofs.Disk.Growth
import Playbook.Proofs.Text.Lines

/-!
# Scripts on a disk

A script in a file is read through the line ends that text files are read with, a text is parsed as
it is. What a script comes to depends on its lines alone (`parse_congr`), and reading a file leaves
the lines of its text as they are; so the file of a text comes to what the text comes to, whatever
ends its lines (`casesIn_of_text`).
-/

namespace Playbook

variable {d : Disk} {p : Path}

namespace Disk

variable {content : ByteArray}

/-- Where a file is read, there is something. -/
theorem occupied_of_readBytes (held : d.readBytes p = .ok content) : d.occupied p = .ok true := by
  obtain ⟨l, reached, there⟩ := readBytes_ok_iff.mp held
  obtain ⟨nameable, located⟩ := reach_ok_iff.mp reached
  have seen : d.stat p = .ok (some (.file content)) :=
    stat_some_iff.mpr ⟨nameable, l, located, there⟩
  simp only [occupied, seen, Except.map, Option.isSome]

/-- The bytes of a text are that text. -/
theorem fromUTF8?_toUTF8 (text : String) : String.fromUTF8? text.toUTF8 = some text :=
  dif_pos text.isValidUTF8

/-- A file of a text is read as that text, every carriage return a line feed. -/
theorem readText_of_text {text : String} (held : d.readBytes p = .ok text.toUTF8) :
    d.readText p = .ok (String.ofList (Text.normalizeBreaks text.toList)) := by
  simp only [readText, held, fromUTF8?_toUTF8]

end Disk

namespace Script

/-- Two texts with the same lines are the same script. -/
theorem parse_congr {s t : String} (h : Text.splitLines s.toList = Text.splitLines t.toList) :
    parse s = parse t := by
  simp only [parse, h]

/-- A text is the script that is read of it. -/
theorem parse_normalizeBreaks (text : String) :
    parse (String.ofList (Text.normalizeBreaks text.toList)) = parse text := by
  apply parse_congr
  rw [String.toList_ofList, Text.splitLines_normalizeBreaks]

/-- A script in a file comes to what its text comes to. Whatever mixture of line ends the text
holds, the cases are the same, or the error with its line number, its line and its reason; and the
same is reported on the log. -/
theorem casesIn_of_text (text : String) (held : d.readBytes p = .ok text.toUTF8) :
    casesIn d p =
      { outcome := (parse text).outcome.mapError .script, log := (parse text).log } := by
  have there : (.ofExcept (d.occupied p) : Reading Bool) = { outcome := .ok true } := by
    rw [Disk.occupied_of_readBytes held]
    rfl
  have read : Reading.text d p =
      { outcome := .ok (String.ofList (Text.normalizeBreaks text.toList)) } := by
    rw [Reading.text, Disk.readText_of_text held]
    rfl
  rw [casesIn, there, read, ← parse_normalizeBreaks text]
  simp only [bind, Reading.bind, if_true, List.nil_append]

/-- A script whose lines end in a carriage return, in a carriage return with a line feed, in a line
separator and in a carriage return again. -/
def motleyText : String := "Test: A\r\r\n\u2028EndIf\r"

/-- A disk with that script in a file. -/
def motleyDisk : Disk := { entries := [(["motley.txt"], .file motleyText.toUTF8)] }

/-- The closer on the fourth line is reported with its number when the script is read from its
file. -/
theorem casesIn_of_motleyText :
    motleyDisk.readBytes ⟨.root, ["motley.txt"]⟩ = .ok motleyText.toUTF8 ∧
      (casesIn motleyDisk ⟨.root, ["motley.txt"]⟩).outcome =
        .error (.script ⟨4, "EndIf", .noOpenBlock⟩) := by
  have held : motleyDisk.readBytes ⟨.root, ["motley.txt"]⟩ = .ok motleyText.toUTF8 := rfl
  have said : (parse motleyText).outcome = .error ⟨4, "EndIf", .noOpenBlock⟩ := by rfl
  refine ⟨held, ?_⟩
  rw [casesIn_of_text motleyText held, said]
  rfl

end Script

end Playbook
