import Playbook.Proofs.Script.Surface

/-!
# Joined scripts

A header ends whatever is open before it, so a script whose first significant line is a header is
read behind a text of whole lines as it is read alone: its test cases follow those of the text, and
its lines are numbered behind the lines of the text (`parse_append`).
-/

namespace Playbook.Script

/-! ### Lines behind other lines -/

/-- A line that stands behind a number of other lines. -/
def NumberedLine.shift (count : Nat) (l : NumberedLine) : NumberedLine :=
  { l with number := l.number + count }

/-- An error in a line that stands behind a number of other lines. -/
def ParseError.shift (count : Nat) (e : ParseError) : ParseError :=
  { e with lineNumber := e.lineNumber + count }

private theorem significantFrom_append (number : Nat) (raws raws' : List (List Char)) :
    significantFrom number (raws ++ raws') =
      significantFrom number raws ++ significantFrom (number + raws.length) raws' := by
  induction raws generalizing number with
  | nil => rfl
  | cons raw raws ih =>
    rw [List.cons_append, significantFrom, significantFrom, ih, List.length_cons, Nat.add_assoc,
      Nat.add_comm 1]
    split <;> rfl

private theorem significantFrom_add (number count : Nat) (raws : List (List Char)) :
    significantFrom (number + count) raws =
      (significantFrom number raws).map (NumberedLine.shift count) := by
  induction raws generalizing number with
  | nil => rfl
  | cons raw raws ih =>
    rw [significantFrom, significantFrom, Nat.add_right_comm, ih]
    split <;> rfl

/-- The significant lines of a text of whole lines and a text behind it are those of both, the
latter shifted. -/
theorem significant_append {a : String} (ended : a = "" ∨ a.toList.getLast? = some '\n')
    (b : String) :
    significant (a ++ b) =
      significant a ++ (significant b).map (NumberedLine.shift (Text.lines a).length) := by
  have cut : Text.splitLines (a ++ b).toList =
      Text.splitLines a.toList ++ Text.splitLines b.toList := by
    rw [String.toList_append]
    rcases ended with rfl | last
    · rfl
    · obtain ⟨before, h⟩ := List.getLast?_eq_some_iff.mp last
      rw [h, List.append_assoc]
      exact Text.splitLines_append_lineFeed before b.toList
  rw [significant, significant, significant, cut, significantFrom_append, significantFrom_add,
    Text.lines, List.length_map]

namespace Progress

/-- Lines are read in turn. -/
theorem read_append (p : Progress) (ls ls' : List NumberedLine) :
    p.read (ls ++ ls') =
      match p.read ls with
      | (q, none) => q.read ls'
      | (q, some e) => (q, some e) := by
  induction ls generalizing p with
  | nil => rfl
  | cons l ls ih =>
    rw [List.cons_append, read, read]
    cases p.line l.number l.characters with
    | ok q => exact ih q
    | error e => rfl

/-- A script read up to some line behind what was read before it. -/
def behind (p q : Progress) : Progress :=
  { done := p.done ++ q.done, current := q.current, log := p.log ++ q.log }

/-- Ending a test case reaches nothing that was read before. -/
theorem closeCase_behind (p q : Progress) :
    (p.behind q).closeCase = p.behind q.closeCase := by
  rcases q with ⟨done, _ | c, log⟩
  · rfl
  · change Progress.mk (p.done ++ done ++ _) none (p.log ++ log ++ _) =
      .mk (p.done ++ (done ++ _)) none (p.log ++ (log ++ _))
    rw [List.append_assoc, List.append_assoc]

/-- Inside a test case, a line is read alike behind what was read before, and leaves a test case
open. -/
theorem line_behind (p : Progress) {q : Progress} (inside : q.current.isSome) (count : Nat)
    (l : NumberedLine) :
    (∃ q', q.line l.number l.characters = .ok q' ∧ q'.current.isSome ∧
      (p.behind q).line (l.shift count).number (l.shift count).characters = .ok (p.behind q')) ∨
    ∃ e, q.line l.number l.characters = .error e ∧
      (p.behind q).line (l.shift count).number (l.shift count).characters =
        .error (e.shift count) := by
  obtain ⟨c, hc⟩ := Option.isSome_iff_exists.mp inside
  have hc' : (p.behind q).current = some c := hc
  have same : (l.shift count).characters = l.characters := rfl
  rw [line, line, same, hc, hc', closeCase_behind]
  cases Line.ofChars l.characters with
  | silent => exact .inl ⟨q, rfl, inside, rfl⟩
  | header name => exact .inl ⟨_, rfl, rfl, rfl⟩
  | step s =>
    dsimp only
    cases c.place s with
    | ok c => exact .inl ⟨_, rfl, rfl, rfl⟩
    | error cause => exact .inr ⟨_, rfl, rfl⟩

/-- Inside a test case, lines are read alike behind what was read before. -/
theorem read_behind (p : Progress) {q : Progress} (inside : q.current.isSome) (count : Nat)
    (ls : List NumberedLine) :
    (p.behind q).read (ls.map (NumberedLine.shift count)) =
      (p.behind (q.read ls).1, (q.read ls).2.map (ParseError.shift count)) := by
  induction ls generalizing q with
  | nil => rfl
  | cons l ls ih =>
    rw [List.map_cons, read, read]
    rcases p.line_behind inside count l with ⟨q', h, inside', h'⟩ | ⟨e, h, h'⟩
    · rw [h, h']
      exact ih inside'
    · rw [h, h']
      rfl

/-- Lines that start with a header are read behind anything as they are read first: the header ends
what is open. -/
theorem read_header_behind (p : Progress) {l : NumberedLine} {name : String}
    (h : Line.ofChars l.characters = .header name) (count : Nat) (ls : List NumberedLine) :
    p.read ((l :: ls).map (NumberedLine.shift count)) =
      (p.closeCase.behind (Progress.read {} (l :: ls)).1,
        (Progress.read {} (l :: ls)).2.map (ParseError.shift count)) := by
  have first : Progress.line {} l.number l.characters =
      .ok { current := some { name } } := by
    rw [line, h]
    rfl
  have later : p.line (l.shift count).number (l.shift count).characters =
      .ok (p.closeCase.behind { current := some { name } }) := by
    have same : (l.shift count).characters = l.characters := rfl
    rw [line, same, h, behind, List.append_nil, List.append_nil]
  rw [List.map_cons, read, read, first, later]
  exact read_behind _ rfl count ls

end Progress

/-! ### Texts behind other texts -/

/-- The first significant line of a text is a header. -/
def StartsCase (text : String) : Prop :=
  ∃ l ∈ (significant text).head?, (header? l.characters).isSome

/-- What reading the significant lines of a script comes to. -/
def parsed : Progress × Option ParseError → Parsed
  | (p, some e) => ⟨.error e, p.log⟩
  | (p, none) => ⟨.ok p.closeCase.done, p.closeCase.log⟩

private theorem parse_eq_parsed (text : String) :
    parse text = parsed (Progress.read {} (significant text)) := by
  rw [parse, Progress.lines_eq_read]
  rfl

/-- What reading comes to behind the test cases and the log of a text of some lines. -/
def Parsed.behind (cases : List Case) (log : Log) (count : Nat) (r : Parsed) : Parsed :=
  { outcome := match r.outcome with
      | .ok more => .ok (cases ++ more)
      | .error e => .error (e.shift count)
    log := log ++ r.log }

private theorem parsed_behind (p : Progress) (count : Nat) (r : Progress × Option ParseError) :
    parsed (p.behind r.1, r.2.map (ParseError.shift count)) =
      (parsed r).behind p.done p.log count := by
  obtain ⟨q, _ | e⟩ := r
  · rw [Option.map_none, parsed, Progress.closeCase_behind]
    rfl
  · rfl

/-- Behind a text of whole lines, a text that starts with a header is read as it is alone. An error
in the former stays what it is, whatever follows; otherwise the test cases of the latter follow
those of the former, whatever blocks these leave open, or the error in the latter stays the same
but for the number of its line. -/
theorem parse_append (a b : String) (ended : a = "" ∨ a.toList.getLast? = some '\n')
    (starts : StartsCase b) :
    (∀ e, (parse a).outcome = .error e → parse (a ++ b) = parse a) ∧
    ∀ cases, (parse a).outcome = .ok cases →
      (∀ more, (parse b).outcome = .ok more → (parse (a ++ b)).outcome = .ok (cases ++ more)) ∧
      (∀ e, (parse b).outcome = .error e →
        (parse (a ++ b)).outcome = .error (e.shift (Text.lines a).length)) ∧
      (parse (a ++ b)).log = (parse a).log ++ (parse b).log := by
  obtain ⟨l, first, header⟩ := starts
  obtain ⟨name, header⟩ := Option.isSome_iff_exists.mp header
  obtain ⟨ls, hls⟩ := List.head?_eq_some_iff.mp first
  have opens : Line.ofChars l.characters = .header name := by
    have hl : l ∈ significant b := hls ▸ List.mem_cons_self
    rw [ofChars_of_significant (mem_significant hl).1, header]
  have joined := parse_eq_parsed (a ++ b)
  have alone := parse_eq_parsed a
  rw [significant_append ended, Progress.read_append] at joined
  rcases ha : Progress.read {} (significant a) with ⟨p, _ | e⟩
  · -- The header of `b` ends what `a` leaves open, as the end of `a` does where `a` stands alone.
    rw [ha] at joined alone
    dsimp only at joined
    rw [hls, p.read_header_behind opens, parsed_behind, ← hls, ← parse_eq_parsed] at joined
    rw [joined, alone]
    refine ⟨nofun, fun cases same ↦ ?_⟩
    obtain rfl := Except.ok.inj same
    refine ⟨fun more h ↦ ?_, fun e h ↦ ?_, rfl⟩
    · rw [Parsed.behind, h]
    · rw [Parsed.behind, h]
  · rw [ha] at joined alone
    rw [joined, alone]
    exact ⟨fun _ _ ↦ rfl, nofun⟩

/-- A script with a note before its first test case, and a block left open at its end. -/
def duskScript : String :=
  "By the window\nTest: Lamp\nIf dark\nPress 1\n"

/-- A script with a closer and nothing to close. -/
def fanScript : String :=
  "# The fan\nTest: Fan\n  Press 2\nEndIf\n"

/-- The error that reading a script ended with, if it did. -/
private def error? : Except ParseError (List Case) → Option ParseError
  | .ok _ => none
  | .error e => some e

private theorem eq_error {outcome : Except ParseError (List Case)} {e : ParseError}
    (h : error? outcome = some e) : outcome = .error e := by
  cases outcome with
  | ok => cases h
  | error => exact congrArg Except.error (Option.some.inj h)

/-- Behind four lines, the closer in the fourth line of a script is the one in the eighth. -/
theorem parse_duskScript_append_fanScript :
    (parse (duskScript ++ fanScript)).outcome = .error ⟨8, "EndIf", .noOpenBlock⟩ := by
  have ended : duskScript = "" ∨ duskScript.toList.getLast? = some '\n' := by decide +kernel
  have starts : StartsCase fanScript :=
    ⟨⟨2, "Test: Fan".toList⟩, by decide +kernel, by decide +kernel⟩
  have stuck : (parse fanScript).outcome = .error ⟨4, "EndIf", .noOpenBlock⟩ :=
    eq_error (by decide +kernel)
  have read : (parse duskScript).outcome.isOk := by decide +kernel
  cases alone : (parse duskScript).outcome with
  | ok cases => exact ((parse_append duskScript fanScript ended starts).2 cases alone).2.1 _ stuck
  | error e =>
    rw [alone] at read
    cases read

end Playbook.Script
