import ReadLater.Store.Repository
import ReadLater.Crypto.Sha256

/-!
# Migrations

The store's schema is built by three numbered migrations. Each has a name, the SQL text it was
released with (whose SHA-256 digest is its checksum, recorded in the ledger when it is applied),
and the schema steps that the text performs, in order:

1. `create_core_tables`: profile, items with two indexes, sources, marks, entries;
2. `create_replicache_tables`: clients with an index, the version counter with its row at 0;
3. `add_row_versions`: the row-version column on five tables, four indexes on it, and the
   tombstones with an index.

Applying a migration runs its steps and records it in the ledger; the first step that fails
stops it and leaves the store as it was.
-/

namespace ReadLater.Store

open Clock

/-- One schema step of a migration. -/
inductive SchemaStep where
  | createTable (t : Table)
  /-- An index; `onVersion` when it indexes the row-version column. -/
  | createIndex (name : String) (t : Table) (onVersion : Bool)
  | addVersionColumn (t : Table)
  | seedCounter
  deriving DecidableEq, Repr, Inhabited

/-- The store after a schema step. -/
def SchemaStep.run (db : Database) : SchemaStep → Sql Database
  | .createTable t => db.createTable t
  | .createIndex n t v => db.createIndex n t v
  | .addVersionColumn t => db.addVersionColumn t
  | .seedCounter => db.seedCounter

/-- A released schema change. -/
structure Migration where
  version : Nat
  name : String
  /-- The SQL text as released. -/
  text : String
  steps : List SchemaStep
  deriving Repr, Inhabited

namespace Migration

/-- The hexadecimal SHA-256 digest of the released text. -/
def checksum (m : Migration) : String := Crypto.sha256Hex m.text

/-- Runs the steps of a migration in order, stopping at the first that fails. -/
def runSteps (db : Database) : List SchemaStep → Sql Database
  | [] => .ok db
  | s :: rest => do
    let db ← s.run db
    runSteps db rest

/-- Runs a migration and records it in the ledger as applied at an instant. -/
def apply (db : Database) (m : Migration) (now : Instant) : Sql Database := do
  let db ← runSteps db m.steps
  db.recordMigration ⟨m.version, m.name, now, m.checksum⟩

end Migration

/-! ## The released texts -/

def coreTablesText : String := String.join (List.map (· ++ "\n") [
  "CREATE TABLE user_profile (",
  "    id         TEXT PRIMARY KEY,",
  "    email      TEXT NOT NULL DEFAULT \x27\x27,",
  "    first_name TEXT NOT NULL DEFAULT \x27\x27,",
  "    last_name  TEXT NOT NULL DEFAULT \x27\x27,",
  "    image_url  TEXT NOT NULL DEFAULT \x27\x27,",
  "    created_at TIMESTAMP NOT NULL,",
  "    updated_at TIMESTAMP NOT NULL",
  ");",
  "",
  "CREATE TABLE canonical_items (",
  "    id               TEXT PRIMARY KEY,",
  "    content_type     TEXT NOT NULL,",
  "    provider         TEXT,",
  "    provider_id      TEXT,",
  "    canonical_url    TEXT NOT NULL DEFAULT \x27\x27,",
  "    title            TEXT NOT NULL DEFAULT \x27\x27,",
  "    summary          TEXT NOT NULL DEFAULT \x27\x27,",
  "    author           TEXT NOT NULL DEFAULT \x27\x27,",
  "    publisher        TEXT NOT NULL DEFAULT \x27\x27,",
  "    published_at     TIMESTAMP,",
  "    thumbnail_url    TEXT NOT NULL DEFAULT \x27\x27,",
  "    duration_seconds BIGINT,",
  "    created_at       TIMESTAMP NOT NULL,",
  "    updated_at       TIMESTAMP NOT NULL",
  ");",
  "",
  "CREATE INDEX idx_canonical_items_provider ON canonical_items (provider, provider_id);",
  "CREATE INDEX idx_canonical_items_url ON canonical_items (canonical_url);",
  "",
  "CREATE TABLE sources (",
  "    id          TEXT PRIMARY KEY,",
  "    provider    TEXT NOT NULL,",
  "    provider_id TEXT NOT NULL,",
  "    name        TEXT NOT NULL DEFAULT \x27\x27,",
  "    config      TEXT NOT NULL DEFAULT \x27{}\x27,",
  "    created_at  TIMESTAMP NOT NULL,",
  "    UNIQUE (provider, provider_id)",
  ");",
  "",
  "CREATE TABLE provider_items_seen (",
  "    source_id        TEXT NOT NULL REFERENCES sources (id) ON DELETE CASCADE,",
  "    provider_item_id TEXT NOT NULL,",
  "    seen_at          TIMESTAMP NOT NULL,",
  "    PRIMARY KEY (source_id, provider_item_id)",
  ");",
  "",
  "CREATE TABLE user_items (",
  "    id            TEXT PRIMARY KEY,",
  "    item_id       TEXT NOT NULL UNIQUE REFERENCES canonical_items (id),",
  "    state         TEXT NOT NULL CHECK (state IN (\x27INBOX\x27, \x27BOOKMARKED\x27, \x27ARCHIVED\x27)),",
  "    ingested_at   TIMESTAMP NOT NULL,",
  "    bookmarked_at TIMESTAMP,",
  "    archived_at   TIMESTAMP",
  ");"])

def syncTablesText : String := String.join (List.map (· ++ "\n") [
  "CREATE TABLE replicache_clients (",
  "    id               TEXT PRIMARY KEY,",
  "    client_group_id  TEXT NOT NULL,",
  "    last_mutation_id BIGINT NOT NULL DEFAULT 0,",
  "    last_modified    TIMESTAMP NOT NULL",
  ");",
  "",
  "CREATE INDEX idx_replicache_clients_group ON replicache_clients (client_group_id);",
  "",
  "CREATE TABLE replicache_meta (",
  "    id      INTEGER PRIMARY KEY CHECK (id = 1),",
  "    version BIGINT NOT NULL",
  ");",
  "",
  "INSERT INTO replicache_meta (id, version) VALUES (1, 0);"])

def rowVersionsText : String := String.join (List.map (· ++ "\n") [
  "ALTER TABLE user_profile ADD COLUMN version BIGINT NOT NULL DEFAULT 0;",
  "ALTER TABLE canonical_items ADD COLUMN version BIGINT NOT NULL DEFAULT 0;",
  "ALTER TABLE sources ADD COLUMN version BIGINT NOT NULL DEFAULT 0;",
  "ALTER TABLE user_items ADD COLUMN version BIGINT NOT NULL DEFAULT 0;",
  "ALTER TABLE replicache_clients ADD COLUMN version BIGINT NOT NULL DEFAULT 0;",
  "",
  "CREATE INDEX idx_canonical_items_version ON canonical_items (version);",
  "CREATE INDEX idx_sources_version ON sources (version);",
  "CREATE INDEX idx_user_items_version ON user_items (version);",
  "CREATE INDEX idx_replicache_clients_version ON replicache_clients (version);",
  "",
  "CREATE TABLE sync_tombstones (",
  "    entity     TEXT NOT NULL,",
  "    entity_id  TEXT NOT NULL,",
  "    version    BIGINT NOT NULL,",
  "    deleted_at TIMESTAMP NOT NULL,",
  "    PRIMARY KEY (entity, entity_id)",
  ");",
  "",
  "CREATE INDEX idx_sync_tombstones_version ON sync_tombstones (version);"])

/-! ## The migrations -/

/-- The released migrations, in order. -/
def migrations : List Migration := [
  { version := 1, name := "create_core_tables", text := coreTablesText,
    steps := [.createTable .profile, .createTable .items,
      .createIndex "idx_canonical_items_provider" .items false,
      .createIndex "idx_canonical_items_url" .items false,
      .createTable .sources, .createTable .seen, .createTable .entries] },
  { version := 2, name := "create_replicache_tables", text := syncTablesText,
    steps := [.createTable .clients,
      .createIndex "idx_replicache_clients_group" .clients false,
      .createTable .counter, .seedCounter] },
  { version := 3, name := "add_row_versions", text := rowVersionsText,
    steps := [.addVersionColumn .profile, .addVersionColumn .items, .addVersionColumn .sources,
      .addVersionColumn .entries, .addVersionColumn .clients,
      .createIndex "idx_canonical_items_version" .items true,
      .createIndex "idx_sources_version" .sources true,
      .createIndex "idx_user_items_version" .entries true,
      .createIndex "idx_replicache_clients_version" .clients true,
      .createTable .tombstones,
      .createIndex "idx_sync_tombstones_version" .tombstones true] }]

/-- The version of the last released migration. -/
def latestVersion : Nat := 3

/-! ## Checks on loading

The loader reads the migration files in ascending order of version and a manifest that lists
the released ones with their checksums. It refuses a list whose versions are not `1, 2, …`, and
a manifest that drops a released migration or names one differently from the files. -/

/-- An entry of the manifest: a released migration's version, name and checksum. -/
structure ManifestEntry where
  version : Int
  name : String
  sha256 : String
  deriving DecidableEq, Repr, Inhabited

/-- Fails at the first migration whose version is not its place in the list, counted from `1`. -/
def validateOrder (ms : List Migration) : Except String Unit :=
  go 1 ms
where
  go (expected : Nat) : List Migration → Except String Unit
    | [] => .ok ()
    | m :: rest =>
      if m.version != expected then
        .error s!"migration versions must be contiguous from 1: expected {expected}, got {m.version} ({m.name})"
      else go (expected + 1) rest

/-- Compares each manifest entry with the migration at its place: version and name first, then
the checksum. -/
def matchEntries : List ManifestEntry → List Migration → Except String Unit
  | e :: es, m :: ms =>
    if e.version != (m.version : Int) || e.name != m.name then
      .error s!"manifest entry {e.version} ({e.name}) does not match migration {m.version} ({m.name})"
    else if e.sha256 != m.checksum then .error s!"released migration {m.name} has been modified"
    else matchEntries es ms
  | _, _ => .ok ()

/-- Fails when the manifest lists more migrations than were read, or when an entry differs from
the migration at its place: a released migration is never dropped or changed. -/
def verifyManifest (ms : List Migration) (mf : List ManifestEntry) : Except String Unit :=
  if h : ms.length < mf.length then
    let missing := mf[ms.length]
    .error s!"released migration {missing.version} is missing"
  else matchEntries mf ms

/-- The checks the loader runs on the migrations it read: their order, then the manifest. -/
def checkLoaded (ms : List Migration) (mf : List ManifestEntry) : Except String Unit := do
  validateOrder ms
  verifyManifest ms mf

end ReadLater.Store
