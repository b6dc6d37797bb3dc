import Playbook.Number.Binary64

/-!
# Shortest decimals

The text of a floating-point number has the fewest significant digits that read back as that
number, and among those the digits nearest to it. `shortest` finds them in exact arithmetic: on
the decimal grid of `n` digits only the two neighbours of a value can lie in the interval that
rounds to it, so the first grid with a hit decides. `Layout` holds the choices that are not
mathematics: where the point stands and when an exponent is written.
-/

namespace Playbook.Number

/-- The numbers that round to one floating-point number, as quotients over a common denominator;
the ends belong to the interval when `closed`. -/
structure Interval where
  low : Nat
  value : Nat
  high : Nat
  den : Nat
  closed : Bool

/-- The interval of a positive finite number: half a unit on each side, a quarter below a power of
two, whose lower neighbour is nearer. -/
def Interval.of (mantissa : Nat) (exponent : Int) : Interval :=
  let narrow := 2 * mantissa == Binary64.mantissaLimit && exponent != Binary64.minExponent
  let r := Binary64.ratio 1 exponent
  let unit := r.1
  { low := 4 * mantissa * unit - (if narrow then unit else 2 * unit)
    value := 4 * mantissa * unit
    high := (4 * mantissa + 2) * unit
    den := 4 * r.2
    closed := mantissa % 2 == 0 }

/-- A decimal `digits * 10 ^ scale` lies in the interval. -/
def Interval.holds (i : Interval) (digits : Nat) (scale : Int) : Bool :=
  let num := if 0 ≤ scale then digits * Nat.pow 10 scale.toNat * i.den else digits * i.den
  let mul := if 0 ≤ scale then 1 else Nat.pow 10 (-scale).toNat
  if i.closed then i.low * mul ≤ num && num ≤ i.high * mul
  else i.low * mul < num && num < i.high * mul

/-- The decimals of the grid `10 ^ scale` next to the value: the one at or below it, and whether
the value is above the middle of the two, below it or on it. -/
def Interval.neighbour (i : Interval) (scale : Int) : Nat × Ordering :=
  let num := if 0 ≤ scale then i.value else i.value * Nat.pow 10 (-scale).toNat
  let den := if 0 ≤ scale then i.den * Nat.pow 10 scale.toNat else i.den
  (num / den, compare (2 * (num % den)) den)

/-- A decimal number of significant digits: `digits * 10 ^ scale`. -/
structure Decimal where
  digits : Nat
  scale : Int
  deriving DecidableEq, Repr

/-- The decimal of the grid `10 ^ scale` that lies in the interval and is nearest to the value,
if one does. -/
def Interval.onGrid? (i : Interval) (scale : Int) : Option Decimal :=
  let (below, side) := i.neighbour scale
  let hitBelow := i.holds below scale && below != 0
  let hitAbove := i.holds (below + 1) scale
  let takeAbove := side == .gt || (side == .eq && below % 2 == 1)
  if hitBelow && hitAbove then some ⟨if takeAbove then below + 1 else below, scale⟩
  else if hitBelow then some ⟨below, scale⟩
  else if hitAbove then some ⟨below + 1, scale⟩
  else none

/-- The first of the grids `10 ^ top`, `10 ^ (top - 1)`, … with a decimal in the interval. -/
def Interval.search (i : Interval) (top : Int) : Nat → Decimal
  | 0 => ⟨(i.neighbour top).1, top⟩
  | fuel + 1 =>
    match i.onGrid? top with
    | some d => d
    | none => i.search (top - 1) fuel

/-- The count of decimal digits of a natural. -/
def digitCount (n : Nat) : Nat := (Nat.toDigits 10 n).length

/-- The power of ten of the leading digit of a positive quotient. -/
def leadingScale (num den : Nat) : Int :=
  if den ≤ num then (digitCount (num / den) : Int) - 1
  else -(digitCount ((den + num - 1) / num - 1) : Int)

/-- The shortest decimal of a positive finite number. Eighteen grids are always enough: seventeen
digits tell all numbers apart, and rounding up may need the grid above the leading digit. -/
def shortest (mantissa : Nat) (exponent : Int) : Decimal :=
  let i := Interval.of mantissa exponent
  i.search (leadingScale i.value i.den + 1) 20

/-- How a decimal is laid out. -/
structure Layout where
  /-- Powers of ten of the leading digit from here on are written with the point in place. -/
  pointFrom : Int
  /-- Powers of ten of the leading digit from here on are written with an exponent. -/
  exponentFrom : Int
  /-- Least count of digits in an exponent. -/
  exponentDigits : Nat

/-- Numbers from `0.0001` and below `10 ^ 16` have their point in place and at least one digit
behind it; all others have an exponent with a sign and two digits. -/
def Layout.plain : Layout := ⟨-4, 16, 2⟩

/-- Drop the trailing zeros of a decimal's digits. -/
def dropZeros (ds : List Char) : List Char :=
  (ds.reverse.dropWhile (· == '0')).reverse

/-- A decimal under a layout. -/
def Layout.render (l : Layout) (d : Decimal) : List Char :=
  let all := Nat.toDigits 10 d.digits
  let lead : Int := (all.length : Int) - 1 + d.scale
  let ds := dropZeros all
  if l.pointFrom ≤ lead && lead < l.exponentFrom then
    if lead < 0 then '0' :: '.' :: List.replicate (-lead - 1).toNat '0' ++ ds
    else
      let whole := lead.toNat + 1
      let front := ds.take whole ++ List.replicate (whole - ds.length) '0'
      let back := ds.drop whole
      front ++ '.' :: (if back.isEmpty then ['0'] else back)
  else
    let front := match ds with
      | [] => ['0']
      | [c] => [c]
      | c :: rest => c :: '.' :: rest
    let size := Nat.toDigits 10 lead.natAbs
    front ++ 'e' :: (if lead < 0 then '-' else '+') ::
      (List.replicate (l.exponentDigits - size.length) '0' ++ size)

/-- The text of a floating-point number. -/
def Binary64.text : Binary64 → String
  | .nan => "nan"
  | .infinite s => if s then "-inf" else "inf"
  | .finite s m e =>
    let body := if m = 0 then ['0', '.', '0'] else Layout.plain.render (shortest m e)
    String.ofList (if s then '-' :: body else body)

end Playbook.Number
