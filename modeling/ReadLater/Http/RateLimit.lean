/-!
# Rate limits per user

Each user of the sync API has a token bucket: it holds at most `perMinute` tokens, starts full,
and refills continuously at `perMinute` tokens a minute. A request takes one token; when less
than one is left the request is refused and the bucket stays as it was. A refused client is told
to retry after the time one token takes to refill, rounded up to whole seconds.

Buckets of users that stay away are dropped by a sweep that runs every `sweepEvery`
nanoseconds from the start: a sweep drops each bucket whose user was last seen more than two
sweep intervals before it. Sweeps are not driven by a clock here: before the limiter is used at
an instant, every sweep that fell due by then is run (`Limiter.sweepTo`).

Token counts are kept exactly: one token is `tokenUnits` units, and a nanosecond refills
`perMinute` units, so `perMinute` tokens take a minute.

* `Limiter.allow`: whether a user's request at an instant is let through, and the limiter after;
* `Limiter.retryAfter`: the seconds a refused client should wait;
* `Limiter.count`: the number of buckets kept.
-/

namespace ReadLater.Http

/-- The units of one token: the nanoseconds of a minute. -/
def tokenUnits : Nat := 60000000000

/-- A user's bucket: the tokens it holds (in units) when it was last filled, that instant, and
when the user was last seen. Instants are nanoseconds since the epoch. -/
structure Bucket where
  units : Nat
  filledAt : Int
  seenAt : Int
  deriving Repr, Inhabited, DecidableEq

/-- The buckets of all users and the schedule of sweeps. -/
structure Limiter where
  /-- Requests a minute, and the most tokens a bucket holds. -/
  perMinute : Nat
  /-- Nanoseconds between sweeps (positive). -/
  sweepEvery : Nat
  /-- The instant the limiter started; sweeps fall due at whole intervals after it. -/
  startedAt : Int
  /-- The number of sweeps already run. -/
  sweeps : Nat := 0
  buckets : List (String × Bucket) := []
  deriving Repr, Inhabited

namespace Limiter

/-- A limiter that starts at an instant with no buckets. A rate of zero or less stands for 300
a minute, and a sweep interval of zero or less for five minutes. -/
def start (perMinute : Int) (sweepEveryNanos : Int) (now : Int) : Limiter :=
  { perMinute := if perMinute ≤ 0 then 300 else perMinute.toNat
    sweepEvery := if sweepEveryNanos ≤ 0 then 300000000000 else sweepEveryNanos.toNat
    startedAt := now }

/-- The most units a bucket holds. -/
def capacity (l : Limiter) : Nat := l.perMinute * tokenUnits

/-- Runs the sweeps that fell due by an instant. Only the last of them matters: a bucket that an
earlier sweep drops is dropped by the last one too, since nobody was seen in between. -/
def sweepTo (l : Limiter) (now : Int) : Limiter :=
  let due := ((now - l.startedAt).toNat) / l.sweepEvery
  if due ≤ l.sweeps then l
  else
    let at_ : Int := l.startedAt + (due * l.sweepEvery : Nat)
    let ttl : Int := (2 * l.sweepEvery : Nat)
    { l with sweeps := due, buckets := l.buckets.filter fun (_, b) => !(at_ - b.seenAt > ttl) }

/-- A bucket refilled up to an instant. -/
def refill (l : Limiter) (b : Bucket) (now : Int) : Nat :=
  min l.capacity (b.units + (now - b.filledAt).toNat * l.perMinute)

/-- Whether a user's request at an instant is let through, and the limiter after it. The user
counts as seen either way. -/
def allow (l : Limiter) (user : String) (now : Int) : Bool × Limiter :=
  let l := l.sweepTo now
  let b := match l.buckets.find? (·.1 == user) with
    | some (_, b) => b
    | none => { units := l.capacity, filledAt := now, seenAt := now }
  let units := l.refill b now
  let (ok, b) :=
    if units ≥ tokenUnits then (true, { units := units - tokenUnits, filledAt := now, seenAt := now })
    else (false, { b with seenAt := now })
  let buckets := if l.buckets.any (·.1 == user) then
      l.buckets.map fun e => if e.1 == user then (user, b) else e
    else l.buckets ++ [(user, b)]
  (ok, { l with buckets })

/-- The number of buckets kept at an instant. -/
def count (l : Limiter) (now : Int) : Nat := (l.sweepTo now).buckets.length

/-- The whole seconds after which a refused client should retry: the time one token takes to
refill, rounded up, and at least one. -/
def retryAfter (l : Limiter) : Nat :=
  let secs := (1.0 / (l.perMinute.toFloat / 60.0)).ceil
  max 1 secs.toUInt64.toNat

end Limiter

end ReadLater.Http
