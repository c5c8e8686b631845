/-!
# Civil dates

Days since 1970-01-01 and proleptic Gregorian dates, both ways, for every integer day. The
conversion shifts the year to start in March, so that the leap day is the last day of a year,
and counts in eras of 400 years (146097 days).

* `Civil.ofDays`: the date of a day number;
* `Civil.toDays`: the day number of a date;
* `Civil.isLeap`, `Civil.monthDays`: the calendar rules.
-/

namespace ReadLater.Clock

/-- A date of the proleptic Gregorian calendar. -/
structure Civil where
  year : Int
  month : Nat
  day : Nat
  deriving DecidableEq, Repr, Inhabited

namespace Civil

/-- Leap years: every fourth year, except centuries not divisible by 400. -/
def isLeap (y : Int) : Bool := y % 4 == 0 && (y % 100 != 0 || y % 400 == 0)

/-- The number of days of a month (1 to 12) in a year. -/
def monthDays (y : Int) (m : Nat) : Nat :=
  match m with
  | 1 | 3 | 5 | 7 | 8 | 10 | 12 => 31
  | 4 | 6 | 9 | 11 => 30
  | 2 => if isLeap y then 29 else 28
  | _ => 0

/-- The day number (days since 1970-01-01) of a date. -/
def toDays (c : Civil) : Int :=
  let y : Int := if c.month ≤ 2 then c.year - 1 else c.year
  let era : Int := y.fdiv 400
  let yoe : Int := y - era * 400
  let mp : Int := (c.month + 9) % 12
  let doy : Int := (153 * mp + 2) / 5 + c.day - 1
  let doe : Int := yoe * 365 + yoe / 4 - yoe / 100 + doy
  era * 146097 + doe - 719468

/-- The date of a day number. -/
def ofDays (z : Int) : Civil :=
  let z := z + 719468
  let era : Int := z.fdiv 146097
  let doe : Int := z - era * 146097
  let yoe : Int := (doe - doe / 1460 + doe / 36524 - doe / 146096) / 365
  let y : Int := yoe + era * 400
  let doy : Int := doe - (365 * yoe + yoe / 4 - yoe / 100)
  let mp : Int := (5 * doy + 2) / 153
  let d : Int := doy - (153 * mp + 2) / 5 + 1
  let m : Int := if mp < 10 then mp + 3 else mp - 9
  ⟨if m ≤ 2 then y + 1 else y, m.toNat, d.toNat⟩

/-- The day of the week of a day number, 0 for Sunday. -/
def weekday (z : Int) : Nat := ((z + 4) % 7).toNat

end Civil

end ReadLater.Clock
