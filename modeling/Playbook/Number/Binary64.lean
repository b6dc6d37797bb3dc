/-!
# Binary floating-point numbers

Finite numbers are a sign, a mantissa below `2 ^ 53` and a power of two of at least `-1074`;
`ofRatio` rounds a quotient to the nearest of them, a tie going to the even mantissa. All
arithmetic here is exact arithmetic on naturals followed by that one rounding.
-/

namespace Playbook.Number

/-- The quotient rounded to the nearest natural, a tie going to the even one. -/
def roundDiv (num den : Nat) : Nat :=
  let q := num / den
  let r := num % den
  if 2 * r < den then q
  else if den < 2 * r then q + 1
  else q + q % 2

/-- A rounded quotient is within half a unit of the quotient. -/
theorem roundDiv_bounds {num den : Nat} (h : 0 < den) :
    2 * num ≤ (2 * roundDiv num den + 1) * den ∧ 2 * roundDiv num den * den ≤ 2 * num + den := by
  have hd := Nat.div_add_mod num den
  have hm := Nat.mod_lt num h
  have h1 : (2 * (num / den) + 1) * den = 2 * (den * (num / den)) + den := by
    rw [Nat.add_mul, Nat.mul_assoc, Nat.mul_comm (num / den)]; omega
  have h3 : (2 * (num / den + 1) + 1) * den = 2 * (den * (num / den)) + 3 * den := by
    rw [Nat.mul_add, Nat.add_mul, Nat.add_mul, Nat.mul_assoc, Nat.mul_comm (num / den)]; omega
  have h2 : 2 * (num / den) * den = 2 * (den * (num / den)) := by
    rw [Nat.mul_assoc, Nat.mul_comm (num / den)]
  have h4 : 2 * (num / den + 1) * den = 2 * (den * (num / den)) + 2 * den := by
    rw [Nat.mul_add, Nat.add_mul, Nat.mul_assoc, Nat.mul_comm (num / den)]
  simp only [roundDiv]
  split
  · omega
  · split
    · omega
    · rcases Nat.mod_two_eq_zero_or_one (num / den) with hz | hz
      · rw [hz]; simp only [Nat.add_zero]; omega
      · rw [hz]; omega

/-- A binary floating-point number. The sign of zero and of infinity is kept. -/
inductive Binary64 where
  | finite (negative : Bool) (mantissa : Nat) (exponent : Int)
  | infinite (negative : Bool)
  | nan
  deriving DecidableEq, Repr, Inhabited

namespace Binary64

/-- Mantissas are below two to the power of 53. -/
def mantissaLimit : Nat := 9007199254740992

/-- The least power of two of a finite number. -/
def minExponent : Int := -1074

/-- The greatest power of two of a finite number. -/
def maxExponent : Int := 971

/-- The quotient of two naturals divided by a power of two, as a quotient of naturals. -/
def scaleDown (num den : Nat) (e : Int) : Nat × Nat :=
  if 0 ≤ e then (num, den * Nat.pow 2 e.toNat) else (num * Nat.pow 2 (-e).toNat, den)

/-- The power of two that gives a positive quotient a mantissa of 53 bits, or the least one. -/
def exponentOf (num den : Nat) : Int :=
  let e : Int := (num.log2 : Int) - (den.log2 : Int) - 53
  let scaled := scaleDown num den e
  let e := if scaled.1 < mantissaLimit * scaled.2 then e else e + 1
  if e < minExponent then minExponent else e

/-- The number nearest to a quotient of naturals. -/
def ofRatio (negative : Bool) (num den : Nat) : Binary64 :=
  if num = 0 then .finite negative 0 minExponent
  else
    let e := exponentOf num den
    let scaled := scaleDown num den e
    let m := roundDiv scaled.1 scaled.2
    let (m, e) := if m = mantissaLimit then (mantissaLimit / 2, e + 1) else (m, e)
    if e ≤ maxExponent then .finite negative m e else .infinite negative

/-- The magnitude of a finite number as a quotient of naturals. -/
def ratio (mantissa : Nat) (exponent : Int) : Nat × Nat :=
  if 0 ≤ exponent then (mantissa * Nat.pow 2 exponent.toNat, 1)
  else (mantissa, Nat.pow 2 (-exponent).toNat)

/-- The number nearest to `digits * 10 ^ scale`. Scales that only zero or infinity can have are
answered without building the power of ten. -/
def ofDecimal (negative : Bool) (digits : Nat) (scale : Int) : Binary64 :=
  let magnitude : Int := (digits.log2 : Int) / 4 + scale
  if digits = 0 then .finite negative 0 minExponent
  else if magnitude > 400 then .infinite negative
  else if (digits.log2 : Int) + scale < -400 then .finite negative 0 minExponent
  else if 0 ≤ scale then ofRatio negative (digits * Nat.pow 10 scale.toNat) 1
  else ofRatio negative digits (Nat.pow 10 (-scale).toNat)

/-- The product of a number and a natural, rounded once. -/
def mulNat : Binary64 → Nat → Binary64
  | .finite s m e, n => let r := ratio m e; ofRatio s (r.1 * n) r.2
  | x, _ => x

/-- The integer part; not-a-number and the infinities have none and give zero. -/
def trunc : Binary64 → Int
  | .finite s m e =>
    let r := ratio m e
    if s then -((r.1 / r.2 : Nat) : Int) else ((r.1 / r.2 : Nat) : Int)
  | _ => 0

/-- A number without a fractional part. -/
def isIntegral : Binary64 → Bool
  | .finite _ m e => let r := ratio m e; r.1 % r.2 == 0
  | _ => false

/-- A number below zero; a negative zero is not. -/
def isNegative : Binary64 → Bool
  | .finite s m _ => s && m != 0
  | .infinite s => s
  | .nan => false

/-- A zero of either sign. -/
def isZero : Binary64 → Bool
  | .finite _ m _ => m == 0
  | _ => false

/-- Equality of the numbers denoted; the zeros are equal, not-a-number equals nothing. -/
def equal : Binary64 → Binary64 → Bool
  | .finite s m e, .finite t n f =>
    let a := ratio m e
    let b := ratio n f
    a.1 * b.2 == b.1 * a.2 && (s == t || m == 0)
  | .infinite s, .infinite t => s == t
  | _, _ => false

end Binary64

end Playbook.Number
