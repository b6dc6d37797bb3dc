import Playbook.Number.Binary64

/-!
# Moments

A moment is a date of the Gregorian calendar and a time of day to the microsecond, without a time
zone. `toMicros` counts microseconds from the start of year 1 and `ofMicros` finds the moment
again. Three texts are made of a moment: the ISO form (`iso`), the stamp used in file names
(`stamp`), and the form used in reports (`plain`).
-/

namespace Playbook

/-- A calendar date and a time of day. -/
structure Moment where
  year : Fin 10000
  month : Fin 13
  day : Fin 32
  hour : Fin 24
  minute : Fin 60
  second : Fin 60
  micro : Fin 1000000
  deriving DecidableEq, Repr, Inhabited

namespace Moment

/-- A year with a day more in February. -/
def isLeap (year : Nat) : Bool :=
  year % 4 == 0 && (year % 100 != 0 || year % 400 == 0)

/-- Days of a year before a month. -/
def daysBeforeMonth (year month : Nat) : Nat :=
  let days := [0, 0, 31, 59, 90, 120, 151, 181, 212, 243, 273, 304, 334].getD month 0
  if 2 < month && isLeap year then days + 1 else days

/-- Days before a year, from the start of year 1. -/
def daysBeforeYear (year : Nat) : Nat :=
  let y := year - 1
  y * 365 + y / 4 - y / 100 + y / 400

/-- Whole days before a moment, from the start of year 1. -/
def days (m : Moment) : Nat :=
  daysBeforeYear m.year + daysBeforeMonth m.year m.month + (m.day - 1)

/-- Microseconds of the day before a moment. -/
def dayMicros (m : Moment) : Nat :=
  ((m.hour * 60 + m.minute) * 60 + m.second : Nat) * 1000000 + m.micro

/-- Microseconds in a day. -/
def microsPerDay : Nat := 86400000000

/-- Microseconds from the start of year 1. -/
def toMicros (m : Moment) : Nat := m.days * microsPerDay + m.dayMicros

/-- The year that a day belongs to and the days of that year before it: whole periods of 400, 100,
4 and 1 years are taken off in turn, and the last day of a leap year stays in its year. -/
def yearOfDay (day : Nat) : Nat × Nat :=
  let p400 := day / 146097
  let r := day % 146097
  let p100 := min (r / 36524) 3
  let r := r - p100 * 36524
  let p4 := r / 1461
  let r := r % 1461
  let p1 := min (r / 365) 3
  (p400 * 400 + p100 * 100 + p4 * 4 + p1 + 1, r - p1 * 365)

/-- The month that a day of a year belongs to: the last that starts no later. -/
def monthOfDay (year day : Nat) : Nat :=
  ((List.range' 1 12).reverse.find? fun m => daysBeforeMonth year m ≤ day).getD 1

/-- The moment a count of microseconds after the start of year 1. -/
def ofMicros (n : Nat) : Moment :=
  let (year, dayOfYear) := yearOfDay (n / microsPerDay)
  let month := monthOfDay year dayOfYear
  let t := n % microsPerDay
  { year := Fin.ofNat _ year
    month := Fin.ofNat _ month
    day := Fin.ofNat _ (dayOfYear - daysBeforeMonth year month + 1)
    hour := Fin.ofNat _ (t / 3600000000)
    minute := Fin.ofNat _ (t / 60000000 % 60)
    second := Fin.ofNat _ (t / 1000000 % 60)
    micro := Fin.ofNat _ (t % 1000000) }

/-- The moment some microseconds later, or earlier for a negative count. -/
def advance (m : Moment) (micros : Int) : Moment :=
  ofMicros ((m.toMicros : Int) + micros).toNat

/-- Microseconds from one moment to another; negative when the second is earlier. -/
def microsUntil (start finish : Moment) : Int := (finish.toMicros : Int) - start.toMicros

/-- A count of microseconds in whole milliseconds: it is turned into seconds, then into
milliseconds, in floating-point numbers, and the fraction is dropped. -/
def wholeMillis (micros : Int) : Int :=
  ((Number.Binary64.ofRatio (decide (micros < 0)) micros.natAbs 1000000).mulNat 1000).trunc

/-- Whole milliseconds from one moment to another. -/
def millisUntil (start finish : Moment) : Int := wholeMillis (microsUntil start finish)

/-- A number in at least `width` decimal digits. -/
def padded (width n : Nat) : String :=
  let ds := Nat.toDigits 10 n
  String.ofList (List.replicate (width - ds.length) '0' ++ ds)

/-- The ISO form; microseconds are written only when there are any. -/
def iso (m : Moment) : String :=
  padded 4 m.year ++ "-" ++ padded 2 m.month ++ "-" ++ padded 2 m.day ++ "T" ++
    padded 2 m.hour ++ ":" ++ padded 2 m.minute ++ ":" ++ padded 2 m.second ++
    (if m.micro.val = 0 then "" else "." ++ padded 6 m.micro)

/-- The stamp used in file names: date and time to the second, in digits. -/
def stamp (m : Moment) : String :=
  padded 1 m.year ++ padded 2 m.month ++ padded 2 m.day ++ "-" ++
    padded 2 m.hour ++ padded 2 m.minute ++ padded 2 m.second

/-- The form used in reports: date and time to the second. -/
def plain (m : Moment) : String :=
  padded 1 m.year ++ "-" ++ padded 2 m.month ++ "-" ++ padded 2 m.day ++ " " ++
    padded 2 m.hour ++ ":" ++ padded 2 m.minute ++ ":" ++ padded 2 m.second

/-- Read as many decimal digits as asked for. -/
def readDigits? : Nat → Nat → List Char → Option (Nat × List Char)
  | 0, n, cs => some (n, cs)
  | count + 1, n, c :: cs =>
    if '0' ≤ c ∧ c ≤ '9' then readDigits? count (10 * n + (c.toNat - '0'.toNat)) cs else none
  | _ + 1, _, [] => none

/-- Read a mark. -/
def readMark? (mark : Char) : List Char → Option (List Char)
  | c :: cs => if c = mark then some cs else none
  | [] => none

/-- The moment that an ISO form denotes. -/
def ofIso? (s : String) : Option Moment := do
  let (year, cs) ← readDigits? 4 0 s.toList
  let cs ← readMark? '-' cs
  let (month, cs) ← readDigits? 2 0 cs
  let cs ← readMark? '-' cs
  let (day, cs) ← readDigits? 2 0 cs
  let cs ← readMark? 'T' cs
  let (hour, cs) ← readDigits? 2 0 cs
  let cs ← readMark? ':' cs
  let (minute, cs) ← readDigits? 2 0 cs
  let cs ← readMark? ':' cs
  let (second, cs) ← readDigits? 2 0 cs
  let (micro, cs) ← match cs with
    | '.' :: cs => readDigits? 6 0 cs
    | cs => some (0, cs)
  if cs.isEmpty && month < 13 && day < 32 && hour < 24 && minute < 60 && second < 60 then
    some
      { year := Fin.ofNat _ year, month := Fin.ofNat _ month, day := Fin.ofNat _ day
        hour := Fin.ofNat _ hour, minute := Fin.ofNat _ minute, second := Fin.ofNat _ second
        micro := Fin.ofNat _ micro }
  else none

end Moment

end Playbook
