/-!
# Name patterns

A name pattern is matched against one whole name: a star stands for any run of characters, a
question mark for any one, brackets for one character of a set, everything else for itself. A set
may be negated by an exclamation mark and may hold ranges; a range whose ends are the wrong way
round holds nothing. A bracket that is never closed stands for itself.
-/

namespace Playbook.Glob

/-- A part of a name pattern. -/
inductive Token where
  /-- Any run of characters. -/
  | star
  /-- One character inside, or when negated outside, the ranges. -/
  | oneOf (negated : Bool) (ranges : List (Char × Char))
  deriving DecidableEq, Repr

namespace Token

/-- Any one character. -/
def any : Token := .oneOf true []

/-- One given character. -/
def char (c : Char) : Token := .oneOf false [(c, c)]

/-- A character lies in one of the ranges. -/
def inRanges (ranges : List (Char × Char)) (c : Char) : Bool :=
  ranges.any fun r => decide (r.1 ≤ c) && decide (c ≤ r.2)

end Token

/-- The text of a set is cut at the hyphens that make ranges: a range takes the character before
its hyphen and the one after it, and the next range starts after that. The first two characters of
a chunk are skipped when the next hyphen is looked for. -/
def rangeChunks (chunk : List Char) : List Char → List (List Char)
  | [] => [chunk]
  | c :: rest =>
    if c = '-' then
      match rest with
      | [] => [chunk ++ ['-']]
      | [a] => [chunk, [a]]
      | a :: b :: more => chunk :: rangeChunks [a, b] more
    else rangeChunks (chunk ++ [c]) rest

/-- Take out a range between two chunks whose ends are the wrong way round. -/
def dropEmptyRanges : List (List Char) → List (List Char)
  | [] => []
  | chunk :: rest =>
    match dropEmptyRanges rest with
    | [] => [chunk]
    | next :: more =>
      match chunk.getLast?, next.head? with
      | some a, some b =>
        if b < a then (chunk.dropLast ++ next.tail) :: more else chunk :: next :: more
      | _, _ => chunk :: next :: more

/-- Every character of a chunk by itself. -/
def singles (chunk : List Char) : List (Char × Char) := chunk.map fun c => (c, c)

/-- The ranges of chunks: one across every cut, and the other characters by themselves. -/
def rangesOf : List (List Char) → List (Char × Char)
  | [] => []
  | [chunk] => singles chunk
  | chunk :: next :: more =>
    match chunk.getLast?, next.head? with
    | some a, some b => singles chunk.dropLast ++ (a, b) :: rangesOf (next.tail :: more)
    | _, _ => singles chunk ++ rangesOf (next :: more)
termination_by chunks => chunks.length

/-- The token of a set, from the text between its brackets. -/
def setToken (text : List Char) : Token :=
  let chunks :=
    match text with
    | '!' :: c :: rest => dropEmptyRanges (rangeChunks ['!', c] rest)
    | c :: rest => dropEmptyRanges (rangeChunks [c] rest)
    | [] => []
  match chunks with
  | ['!'] :: next :: more => .oneOf true (rangesOf (('-' :: next) :: more))
  | ('!' :: chunk) :: more => .oneOf true (rangesOf (chunk :: more))
  | chunks => .oneOf false (rangesOf chunks)

/-- What starts a set whatever comes after it: a negation, a closing bracket, or both; and the
pattern after that. -/
def setLead : List Char → List Char × List Char
  | '!' :: ']' :: rest => (['!', ']'], rest)
  | '!' :: rest => (['!'], rest)
  | ']' :: rest => ([']'], rest)
  | cs => ([], cs)

/-- The text of a set and the pattern after it, when its bracket is closed: a closing bracket at
the very start of the set, also after its negation, belongs to it. -/
def splitSet? (cs : List Char) : Option (List Char × List Char) :=
  match (setLead cs).2.dropWhile (· != ']') with
  | _ :: after => some ((setLead cs).1 ++ (setLead cs).2.takeWhile (· != ']'), after)
  | [] => none

/-- The pattern after the start of a set is no longer than the pattern. -/
theorem setLead_length (cs : List Char) : (setLead cs).2.length ≤ cs.length := by
  fun_cases setLead cs <;> simp only [List.length_cons] <;> omega

/-- The pattern after a set is shorter than the one from its text on. -/
theorem splitSet?_length {cs text after : List Char} (h : splitSet? cs = some (text, after)) :
    after.length < cs.length := by
  simp only [splitSet?] at h
  split at h
  · next hd =>
    have hle := (List.dropWhile_suffix (l := (setLead cs).2) (· != ']')).length_le
    rw [hd] at hle
    simp only [Option.some.injEq, Prod.mk.injEq] at h
    rw [← h.2]
    have := setLead_length cs
    simp only [List.length_cons] at hle
    omega
  · cases h

/-- The tokens of a name pattern. -/
def tokens : List Char → List Token
  | [] => []
  | c :: rest =>
    if c = '*' then .star :: tokens rest
    else if c = '?' then .any :: tokens rest
    else if c = '[' then
      match _cut : splitSet? rest with
      | some (text, after) => setToken text :: tokens after
      | none => .char c :: tokens rest
    else .char c :: tokens rest
termination_by cs => cs.length
decreasing_by
  · simp
  · simp
  · have := splitSet?_length _cut
    simp only [List.length_cons]
    omega
  · simp
  · simp

/-- Tokens match a whole name. -/
def matchesName : List Token → List Char → Bool
  | [], cs => cs.isEmpty
  | .star :: ts, [] => matchesName ts []
  | .star :: ts, c :: cs => matchesName ts (c :: cs) || matchesName (.star :: ts) cs
  | .oneOf _ _ :: _, [] => false
  | .oneOf negated ranges :: ts, c :: cs =>
    (Token.inRanges ranges c != negated) && matchesName ts cs
termination_by ts cs => ts.length + cs.length

end Playbook.Glob
