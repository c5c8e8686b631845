import ReadLater.Clock.Instant

/-!
# Bookkeeping rows

Rows of the store's bookkeeping tables:

* `Client`: a client of the sync protocol, in one client group, with the id of the last
  mutation it had applied;
* `Tombstone`: a deleted row and the store version of its deletion, so that a pull from an
  earlier version can tell the client to delete it too;
* `SeenMark`: an item that a source already delivered, so that it is not ingested twice;
* `AppliedMigration`: a schema step that the store has taken.
-/

namespace ReadLater

open Clock

/-- A client of the sync protocol. -/
structure Client where
  id : String
  groupId : String
  lastMutationId : Int
  lastModified : Instant
  version : Int
  deriving DecidableEq, Repr, Inhabited

/-- The record of a deleted row. -/
structure Tombstone where
  entity : String
  entityId : String
  version : Int
  deletedAt : Instant
  deriving DecidableEq, Repr, Inhabited

/-- The record that a source already delivered an item. -/
structure SeenMark where
  sourceId : String
  providerItemId : String
  seenAt : Instant
  deriving DecidableEq, Repr, Inhabited

/-- A row of the ledger of applied migrations. -/
structure AppliedMigration where
  version : Int
  name : String
  appliedAt : Instant
  checksum : String
  deriving DecidableEq, Repr, Inhabited

end ReadLater
