import ReadLater.Store.Repository
import ReadLater.Ambient
import ReadLater.Problem

/-!
# Transactions

A transaction works on a user's store and may draw on the ambient services. When it fails, its
changes to the store are dropped and the ambient effects stay: ids issued and metrics recorded
remain.

The store version advances by one per transaction at most, however many rows the transaction
writes: a `VersionTicket` reads the counter once, hands out the next version to every write,
and commits the step only when a write asked for it. The step is a move of the counter
(`advanceVersion`), which goes only upward and only from the version the counter holds.
-/

namespace ReadLater.Store

open Clock

/-- The version counter as one transaction sees it. -/
structure VersionTicket where
  /-- The counter's value, once it was read. -/
  current : Option Int := none
  /-- Whether a write asked for the next version. -/
  used : Bool := false
  deriving Repr, Inhabited

/-- The state of a transaction: the store and the version ticket. -/
structure TxnState where
  db : Database
  ticket : VersionTicket := {}
  deriving Repr, Inhabited

/-- A transaction: changes to a store that fail as a whole. -/
abbrev Txn := StateT TxnState (ExceptT Failure AmbientM)

namespace Txn

/-- Fails with a problem. -/
def fail {α : Type} (p : Problem) : Txn α := throw (.problem p)

/-- Fails with an error text. -/
def failWith {α : Type} (text : String) : Txn α := throw (.other text)

/-- Runs an ambient computation. -/
def ambient {α : Type} (m : AmbientM α) : Txn α := liftM m

/-- Runs a read on the store; a fault is reported under a context. -/
def read {α : Type} (context : String) (f : Database → Sql α) : Txn α := do
  match f (← get).db with
  | .ok a => return a
  | .error e => throw (.wrapped context (.other e.message))

/-- Runs a write on the store; a fault is reported under a context. -/
def write (context : String) (f : Database → Sql Database) : Txn Unit := do
  let s ← get
  match f s.db with
  | .ok db => set { s with db := db }
  | .error e => throw (.wrapped context (.other e.message))

/-- Runs a write that also says whether a row was affected. -/
def writeCounting (context : String) (f : Database → Sql (Database × Bool)) : Txn Bool := do
  let s ← get
  match f s.db with
  | .ok (db, hit) => set { s with db := db }; return hit
  | .error e => throw (.wrapped context (.other e.message))

/-- The store's current version. -/
def currentVersion : Txn Int := do
  match ← read "バージョンの取得に失敗しました" Database.counterValue with
  | some v => return v
  | none => failWith "replicache_metaが初期化されていません"

/-- The counter's value as this transaction's ticket holds it, read once. -/
def loadTicket : Txn Int := do
  match (← get).ticket.current with
  | some v => return v
  | none =>
    let v ← currentVersion
    modify fun s => { s with ticket := { s.ticket with current := some v } }
    return v

/-- The version for the rows this transaction writes. -/
def nextVersion : Txn Int := do
  let v ← loadTicket
  modify fun s => { s with ticket := { s.ticket with used := true } }
  return v + 1

/-- Moves the counter from one version to a later one; fails unless it still holds the first. -/
def advanceVersion (old new : Int) : Txn Unit := do
  if new ≤ old then failWith s!"バージョンは増加のみ可能です: {old} -> {new}"
  let hit ← writeCounting "バージョンの更新に失敗しました" (·.advanceCounter old new)
  unless hit do failWith s!"バージョンが想定外に変化しています: expected {old}"

/-- Moves the counter one step if a write asked for it; the version after the transaction. -/
def commitVersion : Txn Int := do
  let v ← loadTicket
  if !(← get).ticket.used then return v
  advanceVersion v (v + 1)
  return v + 1

/-- Runs a body with a fresh version ticket, and puts the outer ticket back after it. -/
def withTicket {α : Type} (body : Txn α) : Txn α := do
  let outer := (← get).ticket
  modify fun s => { s with ticket := {} }
  let a ← body
  modify fun s => { s with ticket := outer }
  return a

/-- Runs a body with a fresh ticket and commits its version step; the body's value and the
version after it. -/
def versioned {α : Type} (body : Txn α) : Txn (α × Int) :=
  withTicket do
    let a ← body
    let v ← commitVersion
    return (a, v)

/-- A new id. -/
def freshId : Txn String := ambient ReadLater.freshId

/-- The current instant. -/
def now : Txn Instant := ambient readClock

/-- Runs a transaction on a store: the value and the new store, or the failure and the store
unchanged. -/
def run {α : Type} (t : Txn α) (db : Database) : AmbientM (Except Failure α × Database) := do
  let r ← ExceptT.run (StateT.run t (TxnState.mk db {}))
  match r with
  | .ok (a, s) => return (Except.ok a, s.db)
  | .error f => return (Except.error f, db)

end Txn

end ReadLater.Store

namespace ReadLater.Store

/-- Work on a store made of several transactions: each commits or rolls back on its own, and
the work fails at the first failure it does not handle. -/
abbrev Work := ExceptT Failure (StateT Database AmbientM)

namespace Work

/-- Runs a transaction as one step of the work; its failure is the work's failure. -/
def atomically {α : Type} (t : Txn α) : Work α := do
  let db ← get
  let (r, db') ← liftM (Txn.run t db)
  set db'
  match r with
  | .ok a => return a
  | .error f => throw f

/-- Runs a transaction and hands back its outcome, failure included. -/
def attempt {α : Type} (t : Txn α) : Work (Except Failure α) := do
  let db ← get
  let (r, db') ← liftM (Txn.run t db)
  set db'
  return r

/-- Runs an ambient computation. -/
def ambient {α : Type} (m : AmbientM α) : Work α := liftM m

/-- Fails with a problem. -/
def fail {α : Type} (p : Problem) : Work α := throw (.problem p)

/-- Runs work on a store: its outcome and the store after it. -/
def run {α : Type} (w : Work α) (db : Database) : AmbientM (Except Failure α × Database) :=
  (ExceptT.run w).run db

end Work

end ReadLater.Store
