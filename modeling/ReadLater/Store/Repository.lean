import ReadLater.Store.Database

/-!
# Row operations of a user's store

Each operation is one statement on one table: it first passes the schema checks of
`Store/Database` (table, columns, triggers) and then reads or changes rows. Reads return rows in
the order the statement asks for: by id for the changes since a version, by creation time and id
for lists and for the oldest of several matches.
-/

namespace ReadLater.Store

open Clock

/-- The result of one statement: a value or a storage fault. -/
abbrev Sql (α : Type) := Except Fault α

/-- Orders by a string key. -/
def sortByKey {α : Type} (key : α → String) (xs : List α) : List α :=
  xs.mergeSort (fun a b => decide (key a ≤ key b))

/-- The row with the least creation time, the least id among equals. -/
def oldest {α : Type} (created : α → Instant) (id : α → String) : List α → Option α
  | [] => none
  | x :: rest =>
    match oldest created id rest with
    | none => some x
    | some y =>
      if (created x).nanos < (created y).nanos ||
          ((created x).nanos == (created y).nanos && decide (id x ≤ id y)) then some x
      else some y

/-- Replaces the rows with an id by a new row. -/
def replaceById {α : Type} (id : α → String) (row : α) (rows : List α) : List α :=
  rows.map fun r => if id r == id row then row else r

namespace Database

/-! ## Items -/

/-- The item with an id. -/
def itemById (db : Database) (id : String) : Sql (Option Item) := do
  db.needVersion .items
  return db.items.find? (·.id == id)

/-- The oldest item of a provider with a provider id. -/
def itemByProvider (db : Database) (provider providerId : String) : Sql (Option Item) := do
  db.needVersion .items
  return oldest (·.createdAt) (·.id)
    (db.items.filter fun i => i.provider == some provider && i.providerId == some providerId)

/-- The oldest item without a provider at a URL. -/
def itemByUrl (db : Database) (url : String) : Sql (Option Item) := do
  db.needVersion .items
  return oldest (·.createdAt) (·.id)
    (db.items.filter fun i => i.provider.isNone && i.canonicalUrl == url)

/-- Adds an item. -/
def insertItem (db : Database) (i : Item) : Sql Database := do
  db.needVersionForInsert .items
  db.fire .insert .items true
  if db.items.any (·.id == i.id) then throw (.unique "canonical_items.id")
  return { db with items := db.items ++ [i] }

/-- Writes an item's fields over the row with its id. -/
def updateItem (db : Database) (i : Item) : Sql Database := do
  db.needVersion .items
  db.fire .update .items (db.items.any (·.id == i.id))
  return { db with items := replaceById (·.id) i db.items }

/-- The items changed after a version, by id. -/
def itemsSince (db : Database) (v : Int) : Sql (List Item) := do
  db.needVersion .items
  return sortByKey (·.id) (db.items.filter (v < ·.version))

/-! ## Entries -/

/-- The entry with an id. -/
def entryById (db : Database) (id : String) : Sql (Option Entry) := do
  db.needVersion .entries
  return db.entries.find? (·.id == id)

/-- The entry of an item. -/
def entryByItem (db : Database) (itemId : String) : Sql (Option Entry) := do
  db.needVersion .entries
  return db.entries.find? (·.itemId == itemId)

/-- Adds an entry. -/
def insertEntry (db : Database) (e : Entry) : Sql Database := do
  db.needVersionForInsert .entries
  db.fire .insert .entries true
  if db.entries.any (·.id == e.id) then throw (.unique "user_items.id")
  if db.entries.any (·.itemId == e.itemId) then throw (.unique "user_items.item_id")
  unless db.has .items do throw (.noSuchTable ("main." ++ Table.items.name))
  unless db.items.any (·.id == e.itemId) do throw .foreignKey
  return { db with entries := db.entries ++ [e] }

/-- Writes an entry's state and stamps over the row with its id; also whether a row was there. -/
def updateEntry (db : Database) (e : Entry) : Sql (Database × Bool) := do
  db.needVersion .entries
  let found := db.entries.any (·.id == e.id)
  db.fire .update .entries found
  return ({ db with entries := replaceById (·.id) e db.entries }, found)

/-- The entries changed after a version, by id. -/
def entriesSince (db : Database) (v : Int) : Sql (List Entry) := do
  db.needVersion .entries
  return sortByKey (·.id) (db.entries.filter (v < ·.version))

/-! ## Sources -/

/-- The source with an id. -/
def sourceById (db : Database) (id : String) : Sql (Option Source) := do
  db.needVersion .sources
  return db.sources.find? (·.id == id)

/-- The source of a provider with a provider id. -/
def sourceByProvider (db : Database) (p : Provider) (providerId : String) :
    Sql (Option Source) := do
  db.needVersion .sources
  return db.sources.find? fun s => s.provider == p && s.providerId == providerId

/-- Adds a source. -/
def insertSource (db : Database) (s : Source) : Sql Database := do
  db.needVersionForInsert .sources
  db.fire .insert .sources true
  if db.sources.any (·.id == s.id) then throw (.unique "sources.id")
  if db.sources.any (fun r => r.provider == s.provider && r.providerId == s.providerId) then
    throw (.unique "sources.provider, sources.provider_id")
  return { db with sources := db.sources ++ [s] }

/-- Deletes the source with an id, and the marks of the items it delivered. -/
def deleteSource (db : Database) (id : String) : Sql Database := do
  db.need .sources
  db.fire .delete .sources (db.sources.any (·.id == id))
  if db.has .seen then
    db.fire .delete .seen (db.seen.any (·.sourceId == id))
  return { db with sources := db.sources.filter (·.id != id),
                   seen := db.seen.filter (·.sourceId != id) }

/-- Every source, by creation time and id. -/
def sourcesByCreation (db : Database) : Sql (List Source) := do
  db.needVersion .sources
  return db.sources.mergeSort fun a b =>
    a.createdAt.nanos < b.createdAt.nanos ||
      (a.createdAt.nanos == b.createdAt.nanos && decide (a.id ≤ b.id))

/-- The sources changed after a version, by id. -/
def sourcesSince (db : Database) (v : Int) : Sql (List Source) := do
  db.needVersion .sources
  return sortByKey (·.id) (db.sources.filter (v < ·.version))

/-! ## Marks of delivered items -/

/-- Whether a source already delivered an item. -/
def wasSeen (db : Database) (sourceId providerItemId : String) : Sql Bool := do
  db.need .seen
  return db.seen.any fun m => m.sourceId == sourceId && m.providerItemId == providerItemId

/-- Marks an item as delivered by a source; nothing changes when it already is. -/
def markSeen (db : Database) (m : SeenMark) : Sql Database := do
  db.need .seen
  db.fire .insert .seen true
  if db.seen.any (fun r => r.sourceId == m.sourceId && r.providerItemId == m.providerItemId) then
    return db
  unless db.has .sources do throw (.noSuchTable ("main." ++ Table.sources.name))
  unless db.sources.any (·.id == m.sourceId) do throw .foreignKey
  return { db with seen := db.seen ++ [m] }

/-! ## Sync clients -/

/-- The client with an id. -/
def clientById (db : Database) (id : String) : Sql (Option Client) := do
  db.needVersion .clients
  return db.clients.find? (·.id == id)

/-- Adds a client. -/
def insertClient (db : Database) (c : Client) : Sql Database := do
  db.needVersionForInsert .clients
  db.fire .insert .clients true
  if db.clients.any (·.id == c.id) then throw (.unique "replicache_clients.id")
  return { db with clients := db.clients ++ [c] }

/-- Writes a client's progress over the row with its id. -/
def saveClient (db : Database) (c : Client) : Sql Database := do
  db.needVersion .clients
  db.fire .update .clients (db.clients.any (·.id == c.id))
  return { db with clients := replaceById (·.id) c db.clients }

/-- Stamps the time of a client's last contact. -/
def touchClient (db : Database) (id : String) (at_ : Instant) : Sql Database := do
  db.need .clients
  db.fire .update .clients (db.clients.any (·.id == id))
  return { db with clients := db.clients.map fun c =>
    if c.id == id then { c with lastModified := at_ } else c }

/-- The clients of a group changed after a version, by id. -/
def clientsSince (db : Database) (group : String) (v : Int) : Sql (List Client) := do
  db.needVersion .clients
  return sortByKey (·.id) (db.clients.filter fun c => c.groupId == group && v < c.version)

/-! ## Profile -/

/-- The profile of a user. -/
def profileOf (db : Database) (user : String) : Sql (Option Profile) := do
  db.needVersion .profile
  return db.profiles.find? (·.id == user)

/-- Creates the profile or overwrites its fields, keeping its creation time. -/
def upsertProfile (db : Database) (p : Profile) : Sql Database := do
  db.needVersionForInsert .profile
  db.fire .insert .profile true
  match db.profiles.find? (·.id == p.id) with
  | some old =>
    db.fire .update .profile true
    return { db with profiles := replaceById (·.id) { p with createdAt := old.createdAt } db.profiles }
  | none => return { db with profiles := db.profiles ++ [p] }

/-! ## Version counter -/

/-- The counter's value, if its row is there. -/
def counterValue (db : Database) : Sql (Option Int) := do
  db.need .counter
  return db.counter

/-- Moves the counter from one value to another; whether it held the expected value. -/
def advanceCounter (db : Database) (expected next : Int) : Sql (Database × Bool) := do
  db.need .counter
  let hit := db.counter == some expected
  db.fire .update .counter hit
  return (if hit then { db with counter := some next } else db, hit)

/-! ## Tombstones -/

/-- Records a deletion, or moves the record of an earlier one. -/
def putTombstone (db : Database) (t : Tombstone) : Sql Database := do
  db.need .tombstones
  db.fire .insert .tombstones true
  let same := fun (r : Tombstone) => r.entity == t.entity && r.entityId == t.entityId
  if db.tombstones.any same then
    db.fire .update .tombstones true
    return { db with tombstones := db.tombstones.map fun r => if same r then t else r }
  return { db with tombstones := db.tombstones ++ [t] }

/-- The deletions after a version, by entity and id. -/
def tombstonesSince (db : Database) (v : Int) : Sql (List Tombstone) := do
  db.need .tombstones
  return (db.tombstones.filter (v < ·.version)).mergeSort fun a b =>
    decide (a.entity < b.entity) || (a.entity == b.entity && decide (a.entityId ≤ b.entityId))

/-! ## Ledger of migrations -/

/-- The applied migrations, by version. -/
def appliedMigrations (db : Database) : Sql (List AppliedMigration) := do
  db.need .migrations
  unless db.ledgerComplete do throw (.noSuchColumn "name")
  return db.applied.mergeSort (fun a b => a.version ≤ b.version)

/-- Records an applied migration. -/
def recordMigration (db : Database) (m : AppliedMigration) : Sql Database := do
  db.need .migrations
  unless db.ledgerComplete do throw (.noColumnNamed Table.migrations.name "name")
  db.fire .insert .migrations true
  if db.applied.any (·.version == m.version) then throw (.unique "_migrations.version")
  if db.applied.any (·.name == m.name) then throw (.unique "_migrations.name")
  return { db with applied := db.applied ++ [m] }

/-- Sets the name and checksum of the ledger row of a version, adding the row if it is missing. -/
def setMigrationRow (db : Database) (m : AppliedMigration) : Sql Database := do
  db.need .migrations
  unless db.ledgerComplete do throw (.noColumnNamed Table.migrations.name "name")
  db.fire .insert .migrations true
  if db.applied.any (fun r => r.name == m.name && r.version != m.version) then
    throw (.unique "_migrations.name")
  if db.applied.any (·.version == m.version) then
    db.fire .update .migrations true
    return { db with applied := db.applied.map fun r =>
      if r.version == m.version then { r with name := m.name, checksum := m.checksum } else r }
  return { db with applied := db.applied ++ [m] }

/-- Deletes the ledger row of a version. -/
def deleteMigrationRow (db : Database) (version : Int) : Sql Database := do
  db.need .migrations
  db.fire .delete .migrations (db.applied.any (·.version == version))
  return { db with applied := db.applied.filter (·.version != version) }

end Database

end ReadLater.Store
