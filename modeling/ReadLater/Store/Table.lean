/-!
# Tables, indexes and triggers of a user's store

A user's store has eight tables of data and the ledger of applied migrations. Their presence,
the row-version column that a migration adds to five of them, their indexes and the triggers
that an operator installed are the schema that every statement is checked against.
-/

namespace ReadLater.Store

/-- The tables of a user's store. -/
inductive Table where
  | profile
  | items
  | sources
  | seen
  | entries
  | clients
  /-- The store's version counter. -/
  | counter
  | tombstones
  /-- The ledger of applied migrations. -/
  | migrations
  deriving DecidableEq, Repr, Inhabited

namespace Table

/-- The table's name in the store. -/
def name : Table → String
  | .profile => "user_profile"
  | .items => "canonical_items"
  | .sources => "sources"
  | .seen => "provider_items_seen"
  | .entries => "user_items"
  | .clients => "replicache_clients"
  | .counter => "replicache_meta"
  | .tombstones => "sync_tombstones"
  | .migrations => "_migrations"

/-- Every table. -/
def all : List Table :=
  [.profile, .items, .sources, .seen, .entries, .clients, .counter, .tombstones, .migrations]

/-- The table of a name. -/
def ofName? (s : String) : Option Table := all.find? (·.name == s)

end Table

/-- The statements that a trigger can fire before. -/
inductive Event where
  | insert
  | update
  | delete
  deriving DecidableEq, Repr, Inhabited

namespace Event

/-- The event's keyword. -/
def keyword : Event → String
  | .insert => "INSERT"
  | .update => "UPDATE"
  | .delete => "DELETE"

/-- The event of a keyword, in any case. -/
def ofKeyword? (s : String) : Option Event :=
  match s.toUpper with
  | "INSERT" => some .insert
  | "UPDATE" => some .update
  | "DELETE" => some .delete
  | _ => none

end Event

/-- A trigger that aborts every statement of one kind on one table with a message. -/
structure Trigger where
  name : String
  event : Event
  table : Table
  message : String
  deriving DecidableEq, Repr, Inhabited

end ReadLater.Store
