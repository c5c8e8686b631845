import ReadLater.Store.Migration
import ReadLater.Store.Txn

/-!
# Bringing a store's schema up to date

A `Runner` holds a list of migrations numbered from `1`, the released ones for the service.
Before a store is used its ledger of migrations is compared with the runner's list:

* a recorded version that the list lacks fails with `schemaAhead` when it is beyond the latest,
  and with `migrationTampered` otherwise;
* a recorded migration whose name differs from the list's, or whose checksum is recorded and
  differs, fails with `migrationTampered`;
* every migration of the list that is not recorded is then applied in order, each in its own
  transaction; the first that fails stops the update with `migrationFailed`.

The update reports how many migrations it applied, also when it fails after some of them.
-/

namespace ReadLater.Store

open Clock

/-- Applies the given migrations in order, each in its own transaction, logging each one; the
number applied and the failure that stopped them. -/
def applyAll (user : String) : List Migration → Nat → StateT Database AmbientM (Nat × Option Failure)
  | [], n => return (n, none)
  | m :: rest, n => do
    let db ← get
    let now ← liftM readClock
    match m.apply db now with
    | .error e => return (n, some (.problem (.migrationFailed m.name e.message)))
    | .ok db' =>
      set db'
      liftM (logAt .info "マイグレーションを適用しました"
        [("user_id", .str user), ("version", .nat m.version), ("name", .str m.name)])
      applyAll user rest (n + 1)

/-- A list of migrations that stores are brought up to. The loader hands it over in order and
numbered from `1` without gaps. -/
structure Runner where
  migrations : List Migration
  /-- The versions are `1, 2, …, n`, in order. -/
  numbered : migrations.map (·.version) = List.range' 1 migrations.length

namespace Runner

/-- The version of the last migration; `0` when there is none. -/
def latestVersion (r : Runner) : Nat :=
  match r.migrations.getLast? with
  | some m => m.version
  | none => 0

/-- The migration of a version. -/
def migrationOf? (r : Runner) (v : Int) : Option Migration :=
  r.migrations.find? (fun m => (m.version : Int) == v)

/-- What a recorded migration contradicts in the list: a version beyond the latest, another
version the list lacks, a different name, or a recorded checksum that differs. -/
def rowProblem (r : Runner) (a : AppliedMigration) : Option Problem :=
  match r.migrationOf? a.version with
  | none =>
    if a.version > (r.latestVersion : Int) then some (.schemaAhead a.version.toNat r.latestVersion)
    else some (.migrationTampered a.name)
  | some m =>
    if m.name != a.name || (!a.checksum.isEmpty && m.checksum != a.checksum) then
      some (.migrationTampered a.name)
    else none

/-- The first recorded migration that contradicts the list, as a problem. -/
def ledgerProblem (r : Runner) (rows : List AppliedMigration) : Option Problem :=
  rows.findSome? r.rowProblem

/-- Brings a store up to the latest schema; how many migrations were applied, and the failure
if the store cannot be used. -/
def ensureSchema (r : Runner) (user : String) :
    StateT Database AmbientM (Nat × Option Failure) := do
  modify (·.ensureLedger)
  let db ← get
  match db.appliedMigrations with
  | .error e => return (0, some (.wrapped "failed to list applied migrations" (.other e.message)))
  | .ok rows =>
    match r.ledgerProblem rows with
    | some p => return (0, some (.problem p))
    | none =>
      let pending := r.migrations.filter fun m => !rows.any (·.version == (m.version : Int))
      applyAll user pending 0

end Runner

/-- The released migrations. -/
def released : Runner := ⟨migrations, rfl⟩

/-- Brings a store up to the released schema. -/
def ensureSchema (user : String) : StateT Database AmbientM (Nat × Option Failure) :=
  released.ensureSchema user

/-- The applied migrations, or the failure to list them. -/
def listApplied : Txn (List AppliedMigration) :=
  Txn.read "failed to list applied migrations" (·.appliedMigrations)

/-- The schema of a store as reported to operators. -/
structure SchemaStatus where
  user : String
  currentVersion : Int
  latestVersion : Nat
  applied : List AppliedMigration
  deriving Repr, Inhabited

/-- The schema status of a user's store. -/
def schemaStatus (user : String) : Txn SchemaStatus := do
  let rows ← listApplied
  let current := rows.foldl (fun v a => if a.version > v then a.version else v) 0
  return ⟨user, current, latestVersion, rows⟩

/-- The status as operators receive it. -/
def SchemaStatus.toJson (s : SchemaStatus) : Json :=
  .obj [("userId", .str s.user), ("currentVersion", .int s.currentVersion),
    ("latestVersion", .nat s.latestVersion),
    ("applied", .arr (s.applied.map fun a =>
      .obj [("version", .int a.version), ("name", .str a.name),
        ("appliedAt", .str a.appliedAt.render), ("checksum", .str a.checksum)]))]

end ReadLater.Store
