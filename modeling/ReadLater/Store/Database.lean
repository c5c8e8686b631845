import ReadLater.Store.Fault
import ReadLater.Store.Table
import ReadLater.Store.Rows
import ReadLater.Catalog.Item
import ReadLater.Catalog.Entry
import ReadLater.Catalog.Source
import ReadLater.Catalog.Profile

/-!
# A user's store

The store of one user: which tables exist, which of them carry the row-version column, their
indexes, the triggers an operator installed, and the rows of each table. A statement is checked
against this schema the way the SQL engine checks it:

* a statement on a table that does not exist fails with `noSuchTable`;
* a statement that reads or writes the version column of a table without it fails;
* a trigger on a table fires before an insert, and before an update or a delete only when some
  row is affected, aborting the statement with its message.

Here are the schema-level steps (create, alter, drop, trigger) and the checks that every row
operation runs first. The row operations themselves are in `Store/Repository`.
-/

namespace ReadLater.Store

open Clock

/-- The content of a user's store. -/
structure Database where
  /-- The tables that exist. -/
  tables : List Table := []
  /-- The existing tables that have the row-version column. -/
  versioned : List Table := []
  /-- Index names and their tables. -/
  indexes : List (String × Table) := []
  /-- Installed triggers, the newest first. -/
  triggers : List Trigger := []
  /-- Whether the ledger of migrations has all its columns, not only `version`. -/
  ledgerComplete : Bool := true
  profiles : List Profile := []
  items : List Item := []
  sources : List Source := []
  seen : List SeenMark := []
  entries : List Entry := []
  clients : List Client := []
  /-- The version counter's row, if it is there. -/
  counter : Option Int := none
  tombstones : List Tombstone := []
  applied : List AppliedMigration := []
  deriving Repr, Inhabited

/-- Whether a table is created with the row-version column. -/
def Table.bornVersioned : Table → Bool
  | .counter | .tombstones => true
  | _ => false

namespace Database

/-- Whether a table exists. -/
def has (db : Database) (t : Table) : Bool := db.tables.contains t

/-- Fails unless the table exists. -/
def need (db : Database) (t : Table) : Except Fault Unit :=
  if db.has t then .ok () else .error (.noSuchTable t.name)

/-- Fails unless the table exists and has the row-version column (a statement that reads it). -/
def needVersion (db : Database) (t : Table) : Except Fault Unit := do
  db.need t
  unless db.versioned.contains t do throw (.noSuchColumn "version")

/-- Fails unless the table exists and has the row-version column (an insert that writes it). -/
def needVersionForInsert (db : Database) (t : Table) : Except Fault Unit := do
  db.need t
  unless db.versioned.contains t do throw (.noColumnNamed t.name "version")

/-- Aborts with the message of the newest trigger on this event and table, if a row is
affected. -/
def fire (db : Database) (e : Event) (t : Table) (affected : Bool) : Except Fault Unit :=
  if !affected then .ok ()
  else match db.triggers.find? (fun tr => tr.event == e && tr.table == t) with
    | some tr => .error (.raised tr.message)
    | none => .ok ()

/-- The table emptied of rows. -/
def clearRows (db : Database) : Table → Database
  | .profile => { db with profiles := [] }
  | .items => { db with items := [] }
  | .sources => { db with sources := [] }
  | .seen => { db with seen := [] }
  | .entries => { db with entries := [] }
  | .clients => { db with clients := [] }
  | .counter => { db with counter := none }
  | .tombstones => { db with tombstones := [] }
  | .migrations => { db with applied := [], ledgerComplete := true }

/-- Whether the table has rows. -/
def hasRows (db : Database) : Table → Bool
  | .profile => !db.profiles.isEmpty
  | .items => !db.items.isEmpty
  | .sources => !db.sources.isEmpty
  | .seen => !db.seen.isEmpty
  | .entries => !db.entries.isEmpty
  | .clients => !db.clients.isEmpty
  | .counter => db.counter.isSome
  | .tombstones => !db.tombstones.isEmpty
  | .migrations => !db.applied.isEmpty

/-! ## Schema steps -/

/-- Creates an empty table. -/
def createTable (db : Database) (t : Table) : Except Fault Database :=
  if db.has t then .error (.tableExists t.name)
  else
    let db := db.clearRows t
    .ok { db with tables := db.tables ++ [t],
                  versioned := if Table.bornVersioned t then db.versioned ++ [t] else db.versioned }

/-- Creates the ledger of migrations unless it exists. -/
def ensureLedger (db : Database) : Database :=
  if db.has .migrations then db
  else { db.clearRows .migrations with tables := db.tables ++ [.migrations] }

/-- Creates an index on a table; `onVersion` when it indexes the row-version column. -/
def createIndex (db : Database) (name : String) (t : Table) (onVersion : Bool) :
    Except Fault Database := do
  unless db.has t do throw (.noSuchTable ("main." ++ t.name))
  if db.indexes.any (·.1 == name) then throw (.indexExists name)
  if onVersion && !db.versioned.contains t then throw (.noSuchColumn "version")
  return { db with indexes := db.indexes ++ [(name, t)] }

/-- Adds the row-version column to a table. -/
def addVersionColumn (db : Database) (t : Table) : Except Fault Database := do
  db.need t
  if db.versioned.contains t then throw (.duplicateColumn "version")
  return { db with versioned := db.versioned ++ [t] }

/-- Puts the counter's row at version 0. -/
def seedCounter (db : Database) : Except Fault Database := do
  db.need .counter
  db.fire .insert .counter true
  if db.counter.isSome then throw (.unique "replicache_meta.id")
  return { db with counter := some 0 }

/-- Removes a table with its indexes and triggers. Rows of other tables that refer to its rows
are deleted with them, or make the drop fail. -/
def dropTable (db : Database) (t : Table) : Except Fault Database := do
  db.need t
  -- entries refer to items and have no delete action
  if t == .items && db.has .entries &&
      db.entries.any (fun e => db.items.any (·.id == e.itemId)) then
    throw .foreignKey
  -- marks of a source are deleted with it
  let db := if t == .sources then { db with seen := [] } else db
  let db := db.clearRows t
  return { db with
    tables := db.tables.filter (· != t),
    versioned := db.versioned.filter (· != t),
    indexes := db.indexes.filter (·.2 != t),
    triggers := db.triggers.filter (·.table != t),
    ledgerComplete := if t == .migrations then true else db.ledgerComplete }

/-- Deletes every row of a table. -/
def deleteAll (db : Database) (t : Table) : Except Fault Database := do
  db.need t
  db.fire .delete t (db.hasRows t)
  if t == .items && db.has .entries &&
      db.entries.any (fun e => db.items.any (·.id == e.itemId)) then
    throw .foreignKey
  if t == .sources then
    db.fire .delete .seen (db.has .seen && !db.seen.isEmpty)
  let db := if t == .sources then { db with seen := [] } else db
  return db.clearRows t

/-- Installs a trigger. -/
def createTrigger (db : Database) (tr : Trigger) : Except Fault Database := do
  unless db.has tr.table do throw (.noSuchTable ("main." ++ tr.table.name))
  if db.triggers.any (·.name == tr.name) then throw (.triggerExists tr.name)
  return { db with triggers := tr :: db.triggers }

/-- Replaces the ledger of migrations by one with only a version column. -/
def createBareLedger (db : Database) : Except Fault Database := do
  if db.has .migrations then throw (.tableExists Table.migrations.name)
  return { db.clearRows .migrations with
    tables := db.tables ++ [.migrations], ledgerComplete := false }

end Database

end ReadLater.Store
