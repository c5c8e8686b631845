import ReadLater.Store.Schema
import ReadLater.Store.Postgres

/-!
# Workers and the stores they own

Each user's store is owned by one worker, started by the first operation for that user. A worker
opens its store and brings its schema up to date before its first operation runs; when that
fails, the store is closed again and the next operation tries anew. The worker stays registered
until it is idle for too long or the registry is closed.

Stores live in a data directory, one file per user named by a digest of the user's id, or in a
PostgreSQL schema per user (which cannot be reached here, so opening one always fails).

Every operation is counted in the metrics with its result: `ok`, `rejected` when a problem with
the request's input stopped it, or `error`.
-/

namespace ReadLater

open Store

/-- Where stores are opened. -/
inductive Opener where
  /-- One store file per user in a directory. -/
  | files (dir : String)
  /-- One schema per user on a PostgreSQL server. -/
  | postgres (url : String)
  deriving Repr, Inhabited

/-- The stores on disk: their content by path, and the paths where a directory stands instead
of a store file. -/
structure Disk where
  stores : List (String × Database) := []
  blocked : List String := []
  deriving Repr, Inhabited

namespace Disk

/-- The store at a path; an empty one when there is no file yet. -/
def load (d : Disk) (path : String) : Database :=
  match d.stores.find? (·.1 == path) with
  | some (_, db) => db
  | none => {}

/-- Writes a store to a path. -/
def save (d : Disk) (path : String) (db : Database) : Disk :=
  if d.stores.any (·.1 == path) then
    { d with stores := d.stores.map fun e => if e.1 == path then (path, db) else e }
  else { d with stores := d.stores ++ [(path, db)] }

end Disk

namespace Opener

/-- The opener a store driver names: `sqlite` (or nothing) for files in the data directory,
`postgres` for a server, which needs its URL. -/
def ofDriver (driver dataDir databaseUrl : String) : Except String Opener :=
  if driver == "sqlite" || driver.isEmpty then .ok (.files dataDir)
  else if driver == "postgres" then
    if databaseUrl.isEmpty then .error "postgres driver requires DATABASE_URL"
    else .ok (.postgres databaseUrl)
  else .error ("unknown store driver: " ++ Text.quote driver)

/-- The path of a user's store file in a directory. -/
def filePath (dir user : String) : String := Text.joinPath dir (storeKey user ++ ".db")

/-- Opens a user's store: the path of its file, or why it cannot be opened. -/
def open_ (o : Opener) (disk : Disk) (user : String) : Except Failure String :=
  match o with
  | .files dir =>
    if user.isEmpty then .error (.other "empty user id")
    else
      let path := filePath dir user
      if disk.blocked.contains path then
        .error (.wrapped "failed to ping sqlite store" (.other Fault.cannotOpen.message))
      else .ok path
  | .postgres url =>
    if user.isEmpty then .error (.other "empty user id")
    else .error (Postgres.openFailure url user)

end Opener

/-- A registered worker. -/
structure Worker where
  user : String
  /-- Whether its store is open and up to date. -/
  ready : Bool
  deriving Repr, Inhabited

/-- The registry of workers. -/
structure Registry where
  workers : List Worker := []
  closed : Bool := false
  deriving Repr, Inhabited

/-- The result label of an operation for the metrics. -/
def resultLabel {α : Type} : Except Failure α → String
  | .ok _ => "ok"
  | .error f => if f.isValidation then "rejected" else "error"

/-- What workers need to run: where stores open, the stores, the registry, the ambient services. -/
structure Hosting where
  opener : Opener
  disk : Disk := {}
  registry : Registry := {}
  ambient : Ambient := {}
  deriving Repr, Inhabited

namespace Hosting

/-- Records into the service's own counters, when they are kept. -/
def meter (h : Hosting) (f : Metrics → Metrics) : Hosting :=
  if h.ambient.metering then { h with ambient := { h.ambient with metrics := f h.ambient.metrics } }
  else h

/-- Runs ambient work. -/
def withAmbient {α : Type} (h : Hosting) (m : AmbientM α) : α × Hosting :=
  let (a, amb) := m.run h.ambient
  (a, { h with ambient := amb })

/-- The worker of a user, started if there is none. -/
def startWorker (h : Hosting) (user : String) : Worker × Hosting :=
  match h.registry.workers.find? (·.user == user) with
  | some w => (w, h)
  | none =>
    let w : Worker := ⟨user, false⟩
    let h := { h with registry := { h.registry with workers := h.registry.workers ++ [w] } }
    (w, h.meter fun m => { m with activeWorkers := m.activeWorkers + 1 })

/-- Marks a user's worker as ready. -/
def markReady (h : Hosting) (user : String) : Hosting :=
  { h with registry := { h.registry with workers := h.registry.workers.map fun w =>
      if w.user == user then { w with ready := true } else w } }

/-- Opens a worker's store and brings it up to date, unless it is ready. The migrations applied
are counted also when a later one fails; a store that cannot be brought up to date is closed
again, and the worker stays unready. -/
def wake (h : Hosting) (w : Worker) : Except Failure String × Hosting :=
  match h.opener.open_ h.disk w.user with
  | .error f => (.error f, h)
  | .ok path =>
    if w.ready then (.ok path, h)
    else
      let (((n, failure), db), amb) := ((ensureSchema w.user).run (h.disk.load path)).run h.ambient
      let h := { h with disk := h.disk.save path db, ambient := amb }
      let h := h.meter fun m => { m with migrations := m.migrations + n }
      match failure with
      | some f =>
        let ((), h) := h.withAmbient (logAt .error "スキーマの更新に失敗しました"
          [("user_id", .str w.user), ("error", .str f.text)])
        (.error f, h)
      | none =>
        let ((), h) := h.withAmbient (logAt .info "アクターを起動しました"
          [("user_id", .str w.user), ("migrations_applied", .nat n)])
        (.ok path, h.markReady w.user)

/-- Runs an operation named `op` on a user's store through its worker. -/
def perform {α : Type} (h : Hosting) (op user : String) (work : Work α) : Except Failure α × Hosting :=
  if h.registry.closed then (.error .registryClosed, h)
  else
    let (w, h) := h.startWorker user
    let (opened, h) := h.wake w
    let (r, h) : Except Failure α × Hosting := match opened with
      | .error f => (.error f, h)
      | .ok path =>
        let ((r, db), amb) := (work.run (h.disk.load path)).run h.ambient
        (r, { h with disk := h.disk.save path db, ambient := amb })
    (r, h.meter fun m => m.observe op (resultLabel r))

/-- Stops every worker. -/
def stopAll (h : Hosting) : Hosting :=
  let n := h.registry.workers.length
  let h := { h with registry := { h.registry with workers := [] } }
  h.meter fun m => { m with activeWorkers := m.activeWorkers - n }

end Hosting

end ReadLater
