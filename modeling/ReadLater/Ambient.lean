import ReadLater.Clock.Instant
import ReadLater.Metrics
import ReadLater.Log
import ReadLater.Text.Quote

/-!
# The ambient services

What the service draws on besides a user's store, and what a failed transaction does not take
back: the source of new ids, the clock, the metrics and the log.

* Ids are numbered: the n-th id is `00000000-0000-4000-8000-` followed by n in twelve lowercase
  hexadecimal digits (a version-4 UUID layout).
* The clock is read in nanoseconds; every reading is one nanosecond after the last, so that two
  readings never give the same instant.
-/

namespace ReadLater

open Clock

/-- The services that outlive transactions. -/
structure Ambient where
  /-- How many ids were issued. -/
  issued : Nat := 0
  /-- The instant of the next clock reading. -/
  clock : Instant := ⟨0⟩
  metrics : Metrics := {}
  /-- Whether the service's own counters are kept; the counters of requests are kept always. -/
  metering : Bool := true
  /-- The records written to the log, oldest first. -/
  log : Array LogRecord := #[]
  /-- The log's threshold. -/
  threshold : LogLevel := .info
  deriving Repr, Inhabited

namespace Ambient

/-- The id numbered `n`. -/
def idText (n : Nat) : String := "00000000-0000-4000-8000-" ++ Text.hexDigits 12 n

end Ambient

/-- Computations that draw on the ambient services. -/
abbrev AmbientM := StateM Ambient

/-- A new id. -/
def freshId : AmbientM String := do
  let a ← get
  set { a with issued := a.issued + 1 }
  return Ambient.idText (a.issued + 1)

/-- The current instant. -/
def readClock : AmbientM Instant := do
  let a ← get
  set { a with clock := a.clock.addNanos 1 }
  return a.clock

/-- Changes the service's own counters, when they are kept. -/
def record (f : Metrics → Metrics) : AmbientM Unit :=
  modify fun a => if a.metering then { a with metrics := f a.metrics } else a

/-- Writes a record to the log unless its level is below the threshold. -/
def logAt (level : LogLevel) (message : String) (attrs : List (String × Json) := []) :
    AmbientM Unit :=
  modify fun a =>
    if level.rank < a.threshold.rank then a
    else { a with log := a.log.push ⟨level, message, attrs⟩ }

end ReadLater
