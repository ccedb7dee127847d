/-!
Calendar dates (proleptic Gregorian, years 1 to 9999), times of day with microseconds and an
optional offset from universal time, and the two together. Main facts about the texts: dates are
`YYYY-MM-DD`; a time shows its fraction only when there is one, and then with six digits.
-/

namespace Manuscript

structure Date where
  year : Nat
  month : Nat
  day : Nat
  deriving DecidableEq, Inhabited

/-- A time of day; `offset` counts minutes east of universal time. -/
structure TimeOfDay where
  hour : Nat
  minute : Nat
  second : Nat
  microsecond : Nat
  offset : Option Int
  deriving DecidableEq, Inhabited

def padded (width n : Nat) : String :=
  let digits := Nat.toDigits 10 n
  String.ofList (List.replicate (width - digits.length) '0' ++ digits)

namespace Date

def isLeap (year : Nat) : Bool := year % 4 == 0 && (year % 100 != 0 || year % 400 == 0)

def monthLength (year month : Nat) : Nat :=
  if month = 2 then if isLeap year then 29 else 28
  else if month = 4 || month = 6 || month = 9 || month = 11 then 30
  else 31

def make? (year month day : Nat) : Option Date :=
  if 1 ≤ year && year ≤ 9999 && 1 ≤ month && month ≤ 12 && 1 ≤ day && day ≤ monthLength year month
  then some ⟨year, month, day⟩ else none

/-- The number of days since the day before the first of year 1. -/
def dayNumber (d : Date) : Nat :=
  let past := d.year - 1
  let months := (List.range (d.month - 1)).map fun k => monthLength d.year (k + 1)
  past * 365 + past / 4 - past / 100 + past / 400 + months.foldl (· + ·) 0 + d.day

/-- The text `YYYY-MM-DD`. -/
def text (d : Date) : String := padded 4 d.year ++ "-" ++ padded 2 d.month ++ "-" ++ padded 2 d.day

end Date

namespace TimeOfDay

def make? (hour minute second microsecond : Nat) (offset : Option Int) : Option TimeOfDay :=
  if hour < 24 && minute < 60 && second < 60 && microsecond < 1000000
  then some ⟨hour, minute, second, microsecond, offset⟩ else none

/-- The text of an offset, `+HH:MM` or `-HH:MM`. -/
def offsetText (minutes : Int) : String :=
  let n := minutes.natAbs
  (if minutes < 0 then "-" else "+") ++ padded 2 (n / 60) ++ ":" ++ padded 2 (n % 60)

/-- The text `HH:MM:SS`, with a fraction and an offset where there are any. -/
def text (t : TimeOfDay) : String :=
  padded 2 t.hour ++ ":" ++ padded 2 t.minute ++ ":" ++ padded 2 t.second
    ++ (if t.microsecond = 0 then "" else "." ++ padded 6 t.microsecond)
    ++ (t.offset.map offsetText).getD ""

/-- Microseconds since midnight, universal time where an offset is known. -/
def clock (t : TimeOfDay) : Int :=
  (((t.hour * 60 + t.minute : Nat) : Int) - t.offset.getD 0) * 60000000
    + ((t.second * 1000000 + t.microsecond : Nat) : Int)

end TimeOfDay

end Manuscript
