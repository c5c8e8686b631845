import ReadLater.Json.Value

/-!
# Metrics

Counters of the service's work, kept per running service. Plain counters and the gauge of live
workers always exist; a labelled counter has one entry per label value once that value was
used.

* live workers (gauge), migrations applied, resyncs required;
* worker operations by operation and result (`ok`, `error`, or `rejected` for a problem with the
  request's input);
* ingested items by outcome (`touched`, `skipped`, `invalid`), push mutations by outcome;
* pulls (how many, and how many patches in all), refreshes by result, HTTP answers by status.
-/

namespace ReadLater

/-- Counts by label value, in the order the values were first used. -/
abbrev Tally := List (String × Nat)

/-- The tally with one more (or `n` more) for a label value. -/
def Tally.bump (t : Tally) (key : String) (n : Nat := 1) : Tally :=
  if t.any (·.1 == key) then t.map fun e => if e.1 == key then (e.1, e.2 + n) else e
  else t ++ [(key, n)]

/-- The counters of a running service. -/
structure Metrics where
  activeWorkers : Int := 0
  /-- Operations by `(operation, result)`. -/
  operations : List ((String × String) × Nat) := []
  ingested : Tally := []
  mutations : Tally := []
  resyncs : Nat := 0
  pulls : Nat := 0
  pulledPatches : Nat := 0
  migrations : Nat := 0
  refreshes : Tally := []
  httpStatuses : Tally := []
  deriving Repr, Inhabited

namespace Metrics

/-- Counts one worker operation with its result. -/
def observe (m : Metrics) (op result : String) : Metrics :=
  let key := (op, result)
  { m with operations :=
      if m.operations.any (·.1 == key) then
        m.operations.map fun e => if e.1 == key then (e.1, e.2 + 1) else e
      else m.operations ++ [(key, 1)] }

/-- The metrics as named values: counters and gauges as integers, operations as `count`, pulls
as `count` and `sum`. Labelled names are written `name{label=value}`. -/
def snapshot (m : Metrics) : List (String × Json) :=
  let ns := "inboxsync_"
  let ops := m.operations.map fun ((op, res), n) =>
    (ns ++ "actor_operation_duration_seconds\x7bop=" ++ op ++ ",result=" ++ res ++ "\x7d",
      Json.obj [("count", .nat n)])
  let tally (name label : String) (t : Tally) : List (String × Json) :=
    t.map fun (k, n) => (ns ++ name ++ "\x7b" ++ label ++ "=" ++ k ++ "\x7d", Json.nat n)
  [(ns ++ "active_actors", Json.int m.activeWorkers)] ++ ops ++
    tally "ingest_items_total" "outcome" m.ingested ++
    [(ns ++ "migrations_applied_total", Json.nat m.migrations),
     (ns ++ "pull_patches", Json.obj [("count", .nat m.pulls), ("sum", .nat m.pulledPatches)])] ++
    tally "push_mutations_total" "outcome" m.mutations ++
    [(ns ++ "resync_required_total", Json.nat m.resyncs)] ++
    tally "source_refresh_total" "result" m.refreshes ++
    tally "http_requests_total" "status_code" m.httpStatuses

end Metrics

end ReadLater
