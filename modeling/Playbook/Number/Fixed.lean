import Playbook.Number.Binary64

/-!
# Fixed decimals

A floating-point number with a fixed count of decimals: the decimal number nearest to its exact
value, a tie going to the even digit.
-/

namespace Playbook.Number

/-- A natural count of units of a decimal place, with a point before that many digits. -/
def pointed (places units : Nat) : String :=
  let digits := Nat.toDigits 10 units
  let digits := List.replicate (places + 1 - digits.length) '0' ++ digits
  let whole := digits.take (digits.length - places)
  String.ofList (whole ++ (if places = 0 then [] else '.' :: digits.drop whole.length))

/-- A number with a fixed count of decimals. -/
def Binary64.fixed (places : Nat) : Binary64 → String
  | .finite negative m e =>
    let r := ratio m e
    (if negative then "-" else "") ++ pointed places (roundDiv (r.1 * Nat.pow 10 places) r.2)
  | .infinite negative => if negative then "-inf" else "inf"
  | .nan => "nan"

end Playbook.Number
