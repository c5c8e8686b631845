import ReadLater.Sync.Arguments
import ReadLater.Json.Decode
import ReadLater.Ingest
import ReadLater.Triage
import ReadLater.Subscription

/-!
# Mutations

The five mutations a client can push, each with the schema of its arguments and its effect,
which runs in the caller's transaction with its version ticket:

* `updateItemState {userItemId, state}`: move an entry to a named state;
* `bookmarkItem {userItemId}` and `archiveItem {userItemId}`: move an entry to a fixed state;
* `saveItem {url, title?, contentType?, thumbnailUrl?, provider?, providerItemId?}`: save a URL;
* `unsubscribeSource {sourceId}`: delete a source.

Arguments are checked against the schema first; missing arguments count as `{}`. Then they are
read into the mutation's record with the decoding rules of `Json/Decode`.
-/

namespace ReadLater.Sync

open Store

/-- A mutation as a client pushes it. -/
structure Mutation where
  id : Int
  name : String
  /-- The arguments, absent when the client sent none. -/
  args : Option Json := none
  deriving Repr, Inhabited

/-- The mutations the service knows. -/
inductive MutationKind where
  | updateItemState
  | bookmarkItem
  | archiveItem
  | saveItem
  | unsubscribeSource
  deriving DecidableEq, Repr, Inhabited

namespace MutationKind

/-- The mutation's name. -/
def name : MutationKind → String
  | .updateItemState => "updateItemState"
  | .bookmarkItem => "bookmarkItem"
  | .archiveItem => "archiveItem"
  | .saveItem => "saveItem"
  | .unsubscribeSource => "unsubscribeSource"

/-- The mutation of an exact name. -/
def ofName? (s : String) : Option MutationKind :=
  [MutationKind.updateItemState, .bookmarkItem, .archiveItem, .saveItem, .unsubscribeSource].find?
    (·.name == s)

/-- The schema of the mutation's arguments. -/
def schema (k : MutationKind) : ArgSchema :=
  match k with
  | .updateItemState => ⟨k.name, ["userItemId", "state"],
      [{ name := "userItemId", minLength := some 1 }, { name := "state" }]⟩
  | .bookmarkItem | .archiveItem => ⟨k.name, ["userItemId"],
      [{ name := "userItemId", minLength := some 1 }]⟩
  | .saveItem => ⟨k.name, ["url"],
      [{ name := "url", minLength := some 1, maxLength := some 4096 },
       { name := "title", maxLength := some 1024 }, { name := "contentType" },
       { name := "thumbnailUrl", maxLength := some 4096 }, { name := "provider" },
       { name := "providerItemId" }]⟩
  | .unsubscribeSource => ⟨k.name, ["sourceId"], [{ name := "sourceId", minLength := some 1 }]⟩

/-- The record the arguments are read into. -/
def record : MutationKind → Shape
  | .updateItemState | .bookmarkItem | .archiveItem =>
    .record "replication.itemStateArgs" [("userItemId", .text "string"), ("state", .text "string")]
  | .saveItem =>
    .record "ingest.SaveRequest" [("url", .text "string"), ("title", .text "string"),
      ("contentType", .text "string"), ("thumbnailUrl", .text "string"),
      ("provider", .text "string"), ("providerItemId", .text "string")]
  | .unsubscribeSource => .record "replication.sourceArgs" [("sourceId", .text "string")]

/-- The effect of the mutation with arguments read into its record. -/
def effect (k : MutationKind) (a : Json) : Txn Unit :=
  match k with
  | .updateItemState => do
    let _ ← Triage.transition (a.textField "userItemId") (a.textField "state")
  | .bookmarkItem => do
    let _ ← Triage.transition (a.textField "userItemId") TriageState.bookmarked.name
  | .archiveItem => do
    let _ ← Triage.transition (a.textField "userItemId") TriageState.archived.name
  | .saveItem => do
    let req : SaveRequest := {
      url := a.textField "url"
      title := a.textField "title"
      contentType := a.textField "contentType"
      thumbnailUrl := a.textField "thumbnailUrl"
      provider := a.textField "provider"
      providerItemId := a.textField "providerItemId" }
    let _ ← Ingest.save req
  | .unsubscribeSource => Subscription.unsubscribe (a.textField "sourceId")

end MutationKind

/-- The kind a mutation names, with its arguments read into the kind's record; the problem when
the name is unknown or the arguments fail the schema or the record. -/
def Mutation.parse (m : Mutation) : Except Problem (MutationKind × Json) := do
  let some k := MutationKind.ofName? m.name | throw (.unknownMutation m.name)
  let args := m.args.getD (.obj [])
  if let some report := k.schema.check args then
    throw (.invalidMutationArgs m.name report)
  match Shape.decode ((k.record.typeName.splitOn ".").getLast!) [] k.record args with
  | .ok a => pure (k, a)
  | .error e => throw (.validation e)

/-- Checks a mutation and runs its effect in the caller's transaction. A problem with the
mutation (unknown name, bad arguments, or any problem its effect reports) fails with that
problem. -/
def Mutation.run (m : Mutation) : Txn Unit :=
  match m.parse with
  | .ok (k, a) => k.effect a
  | .error p => Txn.fail p

end ReadLater.Sync
