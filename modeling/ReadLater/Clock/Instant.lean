import ReadLater.Clock.Civil

/-!
# Instants

An instant is a count of nanoseconds since 1970-01-01T00:00:00Z. The service stamps rows with
instants and writes them in RFC 3339 form in UTC: the date, `T`, the time, a fraction of the
second with its trailing zeros dropped (no point when it is zero), and `Z`.
-/

namespace ReadLater.Clock

/-- Nanoseconds since the Unix epoch. -/
structure Instant where
  nanos : Int
  deriving DecidableEq, Repr, Inhabited

namespace Instant

instance : LT Instant := ⟨fun a b => a.nanos < b.nanos⟩
instance : LE Instant := ⟨fun a b => a.nanos ≤ b.nanos⟩
instance (a b : Instant) : Decidable (a < b) := inferInstanceAs (Decidable (a.nanos < b.nanos))
instance (a b : Instant) : Decidable (a ≤ b) := inferInstanceAs (Decidable (a.nanos ≤ b.nanos))

/-- Nanoseconds in a second. -/
def perSecond : Int := 1000000000

/-- The instant of a whole number of seconds since the epoch. -/
def ofSeconds (s : Int) : Instant := ⟨s * perSecond⟩

/-- Whole seconds since the epoch, rounded down. -/
def seconds (t : Instant) : Int := t.nanos.fdiv perSecond

/-- The nanoseconds past the whole second. -/
def subsecond (t : Instant) : Nat := (t.nanos - t.seconds * perSecond).toNat

/-- The instant a number of nanoseconds later. -/
def addNanos (t : Instant) (n : Int) : Instant := ⟨t.nanos + n⟩

/-- The date of the instant, in UTC. -/
def civil (t : Instant) : Civil := Civil.ofDays (t.seconds.fdiv 86400)

/-- Seconds since midnight UTC. -/
def secondOfDay (t : Instant) : Nat := (t.seconds - t.seconds.fdiv 86400 * 86400).toNat

/-- A number written with at least `width` digits, padded with zeros. -/
def padded (width : Nat) (n : Nat) : String :=
  let s := toString n
  String.ofList (List.replicate (width - s.length) '0') ++ s

/-- A year written with four digits at least, and a minus sign before the year of a date before
year 0. -/
def yearText (y : Int) : String :=
  if y < 0 then "-" ++ padded 4 y.natAbs else padded 4 y.toNat

/-- The nine digits of a fraction of a second without their trailing zeros, after a point;
nothing when the fraction is zero. -/
def fractionText (ns : Nat) : String :=
  if ns == 0 then ""
  else
    let digits := (padded 9 ns).toList
    let kept := (digits.reverse.dropWhile (· == '0')).reverse
    "." ++ String.ofList kept

/-- The date and time of day, `YYYY-MM-DDTHH:MM:SS`, in UTC. -/
def dateTimeText (t : Instant) : String :=
  let c := t.civil
  let s := t.secondOfDay
  yearText c.year ++ "-" ++ padded 2 c.month ++ "-" ++ padded 2 c.day ++ "T" ++
    padded 2 (s / 3600) ++ ":" ++ padded 2 (s / 60 % 60) ++ ":" ++ padded 2 (s % 60)

/-- RFC 3339 text in UTC with the fraction's trailing zeros dropped. -/
def render (t : Instant) : String := t.dateTimeText ++ fractionText t.subsecond ++ "Z"

/-- Whether the year of the instant has four digits, so that its text is a JSON timestamp. -/
def inJsonRange (t : Instant) : Bool := 0 ≤ t.civil.year && t.civil.year ≤ 9999

end Instant

end ReadLater.Clock
