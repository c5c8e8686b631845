import ReadLater.Workers
import ReadLater.Sync.Ledger
import ReadLater.Store.Script
import ReadLater.Clock.Published
import ReadLater.Identity

/-!
# The service

The service runs every operation of a user on that user's store, through the user's worker:
subscriptions, ingestion, triage, push and pull, identity events and the schema status. Each
operation answers with its value or with the failure that stopped it.

Operators also act on the service as a whole: they watch its health and its metrics, close it or
restart it on the same stores, and repair stores directly (edit the ledger of migrations, run a
maintenance script, or make a store unreadable). Editing a ledger closes the service first and
opens a fresh one after, so that the next operation on that store checks its schema again.
-/

namespace ReadLater

open Store Sync Clock

/-- How the service is set up. -/
structure Settings where
  /-- The most mutations one push may carry. -/
  maxMutations : Nat := 500
  /-- The most items one ingest batch may carry. -/
  maxIngestBatch : Nat := 1000
  /-- How long a worker may stay idle before it stops, in milliseconds. -/
  idleTimeoutMs : Nat := 300000
  /-- Whether workers report to the metrics. -/
  metered : Bool := true
  deriving Repr, Inhabited

namespace Settings

/-- A limit as configured, where zero or less stands for the default. -/
def limitOr (dflt : Nat) (n : Int) : Nat := if n ≤ 0 then dflt else n.toNat

/-- Settings from configured limits: the push limit, the batch limit and the idle timeout in
milliseconds, each defaulted when zero or less (500 mutations, 1000 items, five minutes). -/
def ofLimits (maxMutations maxIngestBatch idleTimeoutMs : Int) (metered : Bool) : Settings :=
  { maxMutations := limitOr 500 maxMutations
    maxIngestBatch := limitOr 1000 maxIngestBatch
    idleTimeoutMs := limitOr 300000 idleTimeoutMs
    metered := metered }

end Settings

/-- A running service. -/
structure Service where
  settings : Settings
  hosting : Hosting
  deriving Repr, Inhabited

namespace Service

/-- A service that starts now, opening stores with an opener. -/
def start (settings : Settings) (opener : Opener) (now : Clock.Instant) : Service :=
  { settings, hosting := { opener, ambient := { clock := now, metering := settings.metered } } }

/-- The outcome of an operation and the service after it. -/
abbrev Step (α : Type) := Except Failure α × Service

/-- Runs work on a user's store as an operation named `op`. -/
def perform {α : Type} (s : Service) (op user : String) (work : Work α) : Step α :=
  let (r, h) := s.hosting.perform op user work
  (r, { s with hosting := h })

/-- Runs one transaction on a user's store as an operation named `op`. -/
def transact {α : Type} (s : Service) (op user : String) (t : Txn α) : Step α :=
  s.perform op user (Work.atomically t)

/-- Records into the metrics when workers report to them. -/
def meter (s : Service) (f : Metrics → Metrics) : Service :=
  { s with hosting := s.hosting.meter f }

/-- Records into the metrics whether or not workers report to them, as the counters of requests
do. -/
def count (s : Service) (f : Metrics → Metrics) : Service :=
  let ambient := { s.hosting.ambient with metrics := f s.hosting.ambient.metrics }
  { s with hosting := { s.hosting with ambient } }

/-- Subscribes a user to a source; the source and whether it is new. -/
def subscribe (s : Service) (user : String) (req : SubscribeRequest) : Step (Source × Bool) :=
  s.transact "subscribe" user do
    let (r, _) ← Txn.versioned (Subscription.subscribe req)
    return r

/-- Unsubscribes a user from a source; the store version after it. -/
def unsubscribe (s : Service) (user sourceId : String) : Step Int :=
  s.transact "unsubscribe" user do
    let ((), v) ← Txn.versioned (Subscription.unsubscribe sourceId)
    return v

/-- One of a user's sources. -/
def getSource (s : Service) (user sourceId : String) : Step Source :=
  s.transact "get_source" user (Subscription.get sourceId)

/-- A user's sources, oldest first. -/
def listSources (s : Service) (user : String) : Step (List Source) :=
  s.transact "list_sources" user Subscription.list

/-- Takes a batch of items from one of a user's sources; the counts of the outcome go to the
metrics. -/
def ingest (s : Service) (user sourceId : String) (items : List Incoming) : Step IngestReport :=
  let (r, s) := s.transact "ingest" user (Ingest.ingest s.settings.maxIngestBatch sourceId items)
  match r with
  | .ok rep =>
    let count := fun (t : Tally) =>
      ((t.bump "touched" rep.entryIds.length).bump "skipped" rep.skipped).bump "invalid"
        rep.rejections.length
    (r, s.meter fun m => { m with ingested := count m.ingested })
  | .error _ => (r, s)

/-- Moves one of a user's entries to a state; the entry and the store version after it. -/
def transition (s : Service) (user entryId target : String) : Step (Entry × Int) :=
  s.transact "transition" user do
    let ((e, _), v) ← Txn.versioned (Triage.transition entryId target)
    return (e, v)

/-- Applies a push from one of a user's clients. -/
def push (s : Service) (user : String) (req : PushRequest) : Step PushReport :=
  s.perform "push" user (Sync.push s.settings.maxMutations req)

/-- Answers a pull from one of a user's clients. -/
def pull (s : Service) (user : String) (req : PullRequest) : Step PullReport :=
  s.perform "pull" user (Sync.pull user req)

/-- Folds an identity event into a user's profile; the profile and whether it changed. -/
def applyIdentity (s : Service) (user : String) (ev : IdentityEvent) : Step (Option Profile × Bool) :=
  s.transact "identity_event" user do
    let (r, _) ← Txn.versioned (ev.apply user)
    return r

/-- The schema status of a user's store. -/
def schema (s : Service) (user : String) : Step SchemaStatus :=
  s.transact "schema_status" user (schemaStatus user)

/-! ## The service as a whole -/

/-- Whether the service takes operations. -/
def health (s : Service) : Except Failure Unit :=
  if s.hosting.registry.closed then .error .registryClosed else .ok ()

/-- The number of live workers. -/
def active (s : Service) : Nat := s.hosting.registry.workers.length

/-- The metrics as named values. -/
def metrics (s : Service) : List (String × Json) := s.hosting.ambient.metrics.snapshot

/-- Logs through the service's log. -/
def log (s : Service) (level : LogLevel) (message : String) (attrs : List (String × Json) := []) :
    Service :=
  let ((), h) := s.hosting.withAmbient (logAt level message attrs)
  { s with hosting := h }

/-- Closes the service: every worker stops, and later operations fail. Closing twice does
nothing. -/
def close (s : Service) : Service :=
  if s.hosting.registry.closed then s
  else
    let h := s.hosting.stopAll
    let s := { s with hosting := { h with registry := { h.registry with closed := true } } }
    s.log .info "すべてのアクターを停止しました"

/-- Opens a fresh registry of workers on the same stores. -/
def reopen (s : Service) : Service :=
  { s with hosting := { s.hosting with registry := {} } }

/-- Closes the service and opens it again on the same stores. -/
def restart (s : Service) : Service := s.close.reopen

/-- Lets time pass: workers idle for at least the idle timeout stop, and the clock moves on. -/
def idle (s : Service) (ms : Nat) : Service :=
  let s := { s with hosting := { s.hosting with ambient :=
    { s.hosting.ambient with clock := s.hosting.ambient.clock.addNanos (ms * 1000000) } } }
  if ms ≥ s.settings.idleTimeoutMs && !s.hosting.registry.workers.isEmpty then
    let users := s.hosting.registry.workers.map (·.user)
    let s := users.foldl (fun s u => s.log .info "アイドル状態のアクターを停止します"
      [("user_id", .str u), ("idle_timeout", .nat (s.settings.idleTimeoutMs * 1000000))]) s
    { s with hosting := s.hosting.stopAll }
  else s

/-! ## Repairs on stores -/

/-- The store file of a user, or why there is none. -/
def storePath (s : Service) (user : String) : Except Failure String :=
  match s.hosting.opener with
  | .files dir =>
    if user.isEmpty then .error (.other "empty user id") else .ok (Opener.filePath dir user)
  | .postgres url => .error (Postgres.openFailure url user)

/-- Applies a change to a user's store file directly. -/
def editStore (s : Service) (user : String) (f : Database → Database × Option Fault) :
    Except Failure Unit × Service :=
  match s.storePath user with
  | .error e => (.error e, s)
  | .ok path =>
    if s.hosting.disk.blocked.contains path then (.error (.other Fault.cannotOpen.message), s)
    else
      let (db, fault) := f (s.hosting.disk.load path)
      let s := { s with hosting := { s.hosting with disk := s.hosting.disk.save path db } }
      match fault with
      | some e => (.error (.other e.message), s)
      | none => (.ok (), s)

/-- Runs a maintenance script on a user's store. -/
def runScript (s : Service) (user script : String) : Except Failure Unit × Service :=
  s.editStore user (·.runScript script)

/-- Edits the ledger of migrations of a user's store with the service closed, and opens a fresh
service after. -/
def editLedger (s : Service) (user : String) (f : Database → Sql Database) :
    Except Failure Unit × Service :=
  let s := s.close
  let (r, s) := s.editStore user fun db =>
    match f db.ensureLedger with
    | .ok db => (db, none)
    | .error e => (db.ensureLedger, some e)
  (r, s.reopen)

/-- Records a migration in a user's ledger, or changes its name and checksum. -/
def setMigrationRow (s : Service) (user : String) (version : Int) (name checksum : String) :
    Except Failure Unit × Service :=
  let now := s.hosting.ambient.clock
  s.editLedger user (·.setMigrationRow ⟨version, name, now, checksum⟩)

/-- Removes a migration from a user's ledger. -/
def deleteMigrationRow (s : Service) (user : String) (version : Int) :
    Except Failure Unit × Service :=
  s.editLedger user (·.deleteMigrationRow version)

/-- Puts something that is no store where a user's store file belongs, so it cannot be opened. -/
def blockStore (s : Service) (user : String) : Except Failure Unit × Service :=
  match s.storePath user with
  | .error e => (.error e, s)
  | .ok path =>
    let d := s.hosting.disk
    (.ok (), { s with hosting := { s.hosting with disk :=
      { d with blocked := if d.blocked.contains path then d.blocked else d.blocked ++ [path] } } })

end Service

end ReadLater
