import Playbook.Number.Shortest

/-!
# Numbers

A number is an integer of any size or a floating-point number; which of the two it is shows in its
text and not in its value, so `2` and `2.0` are equal.
-/

namespace Playbook

/-- An integer or a floating-point number. -/
inductive Number where
  | int (n : Int)
  | real (x : Number.Binary64)
  deriving DecidableEq, Repr, Inhabited

namespace Number

/-- The longest run of digits that is read as an integer. -/
def digitLimit : Nat := 4300

/-- What is said about a longer one. -/
def tooManyDigits (digits : Nat) : String :=
  "Exceeds the limit (" ++ toString digitLimit ++
    " digits) for integer string conversion: value has " ++ toString digits ++
    " digits; use sys.set_int_max_str_digits() to increase the limit"

/-- An integer in decimal digits, a floating-point number in the fewest that read back. -/
def text : Number → String
  | .int n => toString n
  | .real x => x.text

/-- An integer and a floating-point number are compared exactly, without rounding the integer. -/
private def equalInt (n : Int) : Binary64 → Bool
  | .finite s m e =>
    let r := Binary64.ratio m e
    n.natAbs * r.2 == r.1 && (decide (n < 0) == s || m == 0)
  | _ => false

/-- Equality of the values denoted. -/
def equal : Number → Number → Bool
  | .int a, .int b => a == b
  | .int a, .real y => equalInt a y
  | .real x, .int b => equalInt b x
  | .real x, .real y => x.equal y

/-- A number that is zero, of either kind. -/
def isZero : Number → Bool
  | .int n => n == 0
  | .real x => x.isZero

/-- A number below zero. -/
def isNegative : Number → Bool
  | .int n => decide (n < 0)
  | .real x => x.isNegative

/-- A number without a fractional part. -/
def isIntegral : Number → Bool
  | .int _ => true
  | .real x => x.isIntegral

end Number

end Playbook
