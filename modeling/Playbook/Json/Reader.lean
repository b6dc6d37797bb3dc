import Playbook.Value.Basic
import Playbook.Text.Digit

/-!
# Reading JSON

`read` turns a text into a value or says what is wrong and where. Beyond the standard it takes the
names that the writer uses for not-a-number and the infinities. The last of several fields of one
name counts, at the place of the first.

Readers work on the rest of the text and hand on what they leave; a fault carries the length of
the rest it was found at, from which `read` computes line and column.
-/

namespace Playbook.Json

/-- What can be wrong with a JSON text. -/
inductive Problem where
  | byteOrderMark
  | expectingValue
  | expectingName
  | expectingColon
  | expectingComma
  | unterminatedText
  | controlCharacter
  | badEscape
  | badCodeEscape
  /-- An integer is longer than integers are read. -/
  | tooManyDigits (digits : Nat)
  | extraData
  deriving DecidableEq, Repr

/-- The wording of a problem. -/
def Problem.message : Problem → String
  | .byteOrderMark => "Unexpected UTF-8 BOM (decode using utf-8-sig)"
  | .expectingValue => "Expecting value"
  | .expectingName => "Expecting property name enclosed in double quotes"
  | .expectingColon => "Expecting ':' delimiter"
  | .expectingComma => "Expecting ',' delimiter"
  | .unterminatedText => "Unterminated string starting at"
  | .controlCharacter => "Invalid control character at"
  | .badEscape => "Invalid \\escape"
  | .badCodeEscape => "Invalid \\uXXXX escape"
  | .tooManyDigits digits => Number.tooManyDigits digits
  | .extraData => "Extra data"

/-- A problem and the count of characters from its place to the end of the text. -/
structure Fault where
  problem : Problem
  left : Nat
  deriving DecidableEq, Repr

/-- White space between the parts of a JSON text. -/
def isSpace (c : Char) : Bool :=
  c == ' ' || c == '\t' || c == '\n' || c == '\r'

/-- The rest of a text after white space. -/
def skipSpace (cs : List Char) : List Char := cs.dropWhile isSpace

/-- The value of a hexadecimal digit. -/
def hexValue? (c : Char) : Option Nat :=
  if '0' ≤ c ∧ c ≤ '9' then some (c.toNat - '0'.toNat)
  else if 'a' ≤ c ∧ c ≤ 'f' then some (c.toNat - 'a'.toNat + 10)
  else if 'A' ≤ c ∧ c ≤ 'F' then some (c.toNat - 'A'.toNat + 10)
  else none

/-- The number that hexadecimal digits denote. -/
def hexNumber? (cs : List Char) : Option Nat :=
  cs.foldl (fun acc c => acc.bind fun n => (hexValue? c).map (16 * n + ·)) (some 0)

/-- The character that a letter stands for after a backslash. -/
def escaped? : Char → Option Char
  | '"' => some '"'
  | '\\' => some '\\'
  | '/' => some '/'
  | 'b' => some '\x08'
  | 'f' => some '\x0c'
  | 'n' => some '\n'
  | 'r' => some '\r'
  | 't' => some '\t'
  | _ => none

/-- What is written for half a surrogate pair whose other half does not follow. -/
def unpaired : Option Nat → List Char
  | none => []
  | some _ => ['\ufffd']

/-- The characters of a text up to its closing quote. `start` is the length of the rest at the
opening quote; `high` is a first half of a surrogate pair that waits for its second. -/
def textBody (start : Nat) (high : Option Nat) : List Char → Except Fault (List Char × List Char)
  | [] => .error ⟨.unterminatedText, start⟩
  | '"' :: rest => .ok (unpaired high, rest)
  | '\\' :: 'u' :: a :: b :: c :: d :: rest =>
    match hexNumber? [a, b, c, d] with
    | none => .error ⟨.badCodeEscape, rest.length + 5⟩
    | some n =>
      if 0xD800 ≤ n ∧ n < 0xDC00 then do
        let (cs, left) ← textBody start (some n) rest
        return (unpaired high ++ cs, left)
      else do
        let (cs, left) ← textBody start none rest
        match high with
        | some h =>
          if 0xDC00 ≤ n ∧ n < 0xE000 then
            return (Char.ofNat (0x10000 + (h - 0xD800) * 0x400 + (n - 0xDC00)) :: cs, left)
          else return ('\ufffd' :: Char.ofNat n :: cs, left)
        | none =>
          let c := if 0xDC00 ≤ n ∧ n < 0xE000 then '\ufffd' else Char.ofNat n
          return (c :: cs, left)
  | '\\' :: 'u' :: rest => .error ⟨.badCodeEscape, rest.length + 1⟩
  | '\\' :: e :: rest =>
    match escaped? e with
    | none => .error ⟨.badEscape, rest.length + 2⟩
    | some c => do
      let (cs, left) ← textBody start none rest
      return (unpaired high ++ c :: cs, left)
  | c :: rest =>
    if c = '\\' then .error ⟨.unterminatedText, start⟩
    else if c.toNat < 0x20 then .error ⟨.controlCharacter, rest.length + 1⟩
    else do
      let (cs, left) ← textBody start none rest
      return (unpaired high ++ c :: cs, left)

/-- An ASCII digit. -/
def isAsciiDigit (c : Char) : Bool := '0' ≤ c && c ≤ '9'

/-- The number that ASCII digits denote. -/
def digitsValue (cs : List Char) : Nat :=
  cs.foldl (fun n c => 10 * n + (c.toNat - '0'.toNat)) 0

/-- The digits behind a point, if a digit follows it, and the rest. -/
def fraction (cs : List Char) : List Char × List Char :=
  match cs with
  | '.' :: rest =>
    match rest.takeWhile isAsciiDigit with
    | [] => ([], cs)
    | ds => (ds, rest.dropWhile isAsciiDigit)
  | _ => ([], cs)

/-- A signed exponent, if one follows, and the rest. -/
def exponent? (cs : List Char) : Option (Int × List Char) :=
  match cs with
  | mark :: rest =>
    if mark = 'e' ∨ mark = 'E' then
      let (sign, rest) := match rest with
        | '-' :: more => (-1, more)
        | '+' :: more => (1, more)
        | more => ((1 : Int), more)
      match rest.takeWhile isAsciiDigit with
      | [] => none
      | ds => some (sign * (digitsValue ds : Int), rest.dropWhile isAsciiDigit)
    else none
  | [] => none

/-- Whether a minus stands first, and the rest. -/
def sign (cs : List Char) : Bool × List Char :=
  match cs with
  | '-' :: rest => (true, rest)
  | _ => (false, cs)

/-- The digits of an integer part, and the rest; a leading zero stands alone. -/
def wholePart (cs : List Char) : List Char × List Char :=
  match cs with
  | '0' :: rest => (['0'], rest)
  | _ => (cs.takeWhile isAsciiDigit, cs.dropWhile isAsciiDigit)

/-- A number: an integer part without a leading zero, and then, for a floating-point number, a
fraction, an exponent or both. -/
def number? (cs : List Char) : Option (Number × List Char) :=
  let (negative, cs) := sign cs
  let (whole, cs) := wholePart cs
  if whole.isEmpty then none
  else
    let (part, cs) := fraction cs
    match part, exponent? cs with
    | [], none =>
      let n : Int := digitsValue whole
      some (.int (if negative then -n else n), cs)
    | part, none =>
      some (.real (.ofDecimal negative (digitsValue (whole ++ part)) (-part.length)), cs)
    | part, some (e, rest) =>
      some (.real (.ofDecimal negative (digitsValue (whole ++ part)) (e - part.length)), rest)

/-- The rest of a text that starts with a word. -/
def dropWord? : List Char → List Char → Option (List Char)
  | [], cs => some cs
  | w :: ws, c :: cs => if w = c then dropWord? ws cs else none
  | _ :: _, [] => none

/-- Values that are written by name. -/
def names : List (String × Value) :=
  [("null", .null), ("true", .bool true), ("false", .bool false), ("NaN", .number (.real .nan)),
    ("Infinity", .number (.real (.infinite false))),
    ("-Infinity", .number (.real (.infinite true)))]

/-- A value without parts: a name or a number. -/
def scalar (cs : List Char) : Except Fault (Value × List Char) :=
  match names.findSome? fun n => (dropWord? n.1.toList cs).map (n.2, ·) with
  | some r => .ok r
  | none =>
    match number? cs with
    | some (.int n, rest) =>
      let sign := if cs.head? = some '-' then 1 else 0
      let digits := cs.length - rest.length - sign
      if Number.digitLimit < digits then .error ⟨.tooManyDigits digits, cs.length⟩
      else .ok (.number (.int n), rest)
    | some (n, rest) => .ok (.number n, rest)
    | none => .error ⟨.expectingValue, cs.length⟩

mutual

/-- A value at the start of the text. Every level of brackets uses one unit of fuel, and every
item or field one more, so the length of the text is enough. -/
def value : Nat → List Char → Except Fault (Value × List Char)
  | 0, cs => .error ⟨.expectingValue, cs.length⟩
  | fuel + 1, cs =>
    match cs with
    | '"' :: rest => do
      let (body, left) ← textBody cs.length none rest
      return (.text (String.ofList body), left)
    | '[' :: rest =>
      match skipSpace rest with
      | ']' :: left => .ok (.list [], left)
      | inner => do
        let (items, left) ← items fuel inner
        return (.list items, left)
    | '\x7b' :: rest =>
      match skipSpace rest with
      | '\x7d' :: left => .ok (.object [], left)
      | inner => do
        let (fields, left) ← fields fuel inner
        return (.object (fields.foldl (fun fs f => Value.putField fs f.1 f.2) []), left)
    | _ => scalar cs

/-- The items of a list up to its closing bracket. -/
def items : Nat → List Char → Except Fault (List Value × List Char)
  | 0, cs => .error ⟨.expectingValue, cs.length⟩
  | fuel + 1, cs => do
    let (v, cs) ← value fuel cs
    match skipSpace cs with
    | ']' :: left => return ([v], left)
    | ',' :: rest =>
      let (vs, left) ← items fuel (skipSpace rest)
      return (v :: vs, left)
    | other => .error ⟨.expectingComma, other.length⟩

/-- The fields of an object up to its closing brace. -/
def fields : Nat → List Char → Except Fault (List (String × Value) × List Char)
  | 0, cs => .error ⟨.expectingName, cs.length⟩
  | fuel + 1, cs =>
    match cs with
    | '"' :: rest => do
      let (name, cs) ← textBody cs.length none rest
      match skipSpace cs with
      | ':' :: cs =>
        let (v, cs) ← value fuel (skipSpace cs)
        let field := (String.ofList name, v)
        match skipSpace cs with
        | '\x7d' :: left => return ([field], left)
        | ',' :: rest =>
          let (more, left) ← fields fuel (skipSpace rest)
          return (field :: more, left)
        | other => .error ⟨.expectingComma, other.length⟩
      | other => .error ⟨.expectingColon, other.length⟩
    | _ => .error ⟨.expectingName, cs.length⟩

end

/-- A fault with its place in the text: line and column from one, offset from zero. -/
structure SyntaxError where
  problem : Problem
  line : Nat
  column : Nat
  offset : Nat
  deriving DecidableEq, Repr

/-- The wording of an error with its place. -/
def SyntaxError.message (e : SyntaxError) : String :=
  e.problem.message ++ ": line " ++ toString e.line ++ " column " ++ toString e.column ++
    " (char " ++ toString e.offset ++ ")"

/-- The place of a fault in the text it was found in. -/
def Fault.locate (text : List Char) (f : Fault) : SyntaxError :=
  let offset := text.length - f.left
  let before := text.take offset
  { problem := f.problem
    line := before.count '\n' + 1
    column := (before.reverse.takeWhile (· != '\n')).length + 1
    offset := offset }

/-- The one value of a JSON text. -/
def readChars (cs : List Char) : Except Fault Value :=
  match cs with
  | '\ufeff' :: _ => .error ⟨.byteOrderMark, cs.length⟩
  | _ => do
    let (v, rest) ← value (2 * cs.length + 1) (skipSpace cs)
    match skipSpace rest with
    | [] => return v
    | other => .error ⟨.extraData, other.length⟩

/-- The value of a JSON text, or the first error in it. -/
def read (s : String) : Except SyntaxError Value :=
  (readChars s.toList).mapError (·.locate s.toList)

end Playbook.Json
