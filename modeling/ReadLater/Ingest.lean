import ReadLater.Store.Txn
import ReadLater.Content
import ReadLater.Text.Case

/-!
# Ingest

Providers deliver batches of items per source. A batch is taken in one transaction:

1. an item that the source already delivered is skipped;
2. the item of the provider with the same provider id is updated, or a new item is created;
3. the delivery is marked, so that the next batch skips it;
4. the user's entry for the item is created in the inbox if it has none; an existing entry keeps
   its state;
5. the store version advances by one if anything was written.

An item with a missing id, an unknown kind, a negative duration or an unusable URL is rejected
on its own, with its index, and the batch goes on. A storage fault fails the whole batch.

A manual save takes a URL (and optionally a provider's id) inside the caller's transaction and
version ticket, and returns the user's entry for it.
-/

namespace ReadLater

open Clock Store

/-- An item as a provider delivers it. -/
structure Incoming where
  providerItemId : String := ""
  contentType : String := ""
  canonicalUrl : String := ""
  title : String := ""
  summary : String := ""
  author : String := ""
  publisher : String := ""
  publishedAt : Option Instant := none
  thumbnailUrl : String := ""
  durationSeconds : Option Int := none
  deriving DecidableEq, Repr, Inhabited

/-- An item of a batch that was rejected, with the reason. -/
structure Rejection where
  index : Nat
  providerItemId : String
  code : String
  message : String
  deriving Repr, Inhabited

/-- The outcome of a batch. -/
structure IngestReport where
  /-- The store version after the batch. -/
  version : Int
  /-- The entries created or touched, in the order first touched. -/
  entryIds : List String
  skipped : Nat
  rejections : List Rejection
  deriving Repr, Inhabited

/-- A rejection as clients receive it; an empty provider item id is left out. -/
def Rejection.toJson (r : Rejection) : Json :=
  .obj ([("index", .nat r.index)] ++
    (if r.providerItemId.isEmpty then [] else [("providerItemId", .str r.providerItemId)]) ++
    [("code", .str r.code), ("message", .str r.message)])

/-- The outcome as clients receive it. -/
def IngestReport.toJson (r : IngestReport) : Json :=
  .obj [("version", .int r.version), ("userItemIds", .arr (r.entryIds.map .str)),
    ("skipped", .nat r.skipped), ("errors", .arr (r.rejections.map Rejection.toJson))]

namespace Incoming

/-- A kind given by name, in any case and with blanks around it; `none` when no kind is given. -/
def parseKind (s : String) : Except Problem (Option ContentKind) :=
  let s := Text.toLower (Text.trim s)
  if s.isEmpty then .ok none
  else match ContentKind.parse? s with
    | some k => .ok (some k)
    | none => .error (.validation ("unknown contentType " ++ Text.quote s))

/-- The item with a trimmed id, a known kind and cleaned fields, or the reason to reject it. -/
def normalize (raw : Incoming) : Except Problem (Incoming × Option ContentKind) := do
  let pid := Text.trim raw.providerItemId
  if pid.isEmpty then throw (.validation "providerItemId is required")
  let kind ← parseKind raw.contentType
  if let some d := raw.durationSeconds then
    if d < 0 then throw (.validation "duration must not be negative")
  let url := Content.cleanUrl raw.canonicalUrl
  if url.isEmpty && !(Text.trim raw.canonicalUrl).isEmpty then
    throw (.validation ("invalid canonicalUrl " ++ Text.quote raw.canonicalUrl))
  return ({ raw with
    providerItemId := pid
    title := Content.cleanText raw.title
    summary := Content.cleanText raw.summary
    author := Content.cleanText raw.author
    publisher := Content.cleanText raw.publisher
    canonicalUrl := url
    thumbnailUrl := Content.cleanUrl raw.thumbnailUrl }, kind)

end Incoming

/-- The fields that a delivery carries, written over an item; empty fields keep the old value. -/
def Item.refresh (i : Item) (x : Incoming) (kind : Option ContentKind) : Item :=
  { i with
    kind := kind.getD i.kind
    canonicalUrl := if x.canonicalUrl.isEmpty then i.canonicalUrl else x.canonicalUrl
    title := if x.title.isEmpty then i.title else x.title
    summary := if x.summary.isEmpty then i.summary else x.summary
    author := if x.author.isEmpty then i.author else x.author
    publisher := if x.publisher.isEmpty then i.publisher else x.publisher
    publishedAt := if x.publishedAt.isSome then x.publishedAt else i.publishedAt
    thumbnailUrl := if x.thumbnailUrl.isEmpty then i.thumbnailUrl else x.thumbnailUrl
    durationSeconds := if x.durationSeconds.isSome then x.durationSeconds else i.durationSeconds }

namespace Ingest

/-- A new item from a delivery. -/
def newItem (id : String) (provider : Option String) (x : Incoming) (kind : Option ContentKind)
    (version : Int) (now : Instant) : Item :=
  let base : Item := {
    id := id
    kind := .article
    provider := provider
    providerId := provider.map (fun _ => x.providerItemId)
    version := version
    createdAt := now
    updatedAt := now }
  base.refresh x kind

/-- Updates the item of a provider with the delivery's provider id, or creates it. -/
def upsertByProvider (provider : String) (x : Incoming) (kind : Option ContentKind)
    (version : Int) (now : Instant) : Txn Item := do
  match ← Txn.read "アイテムの取得に失敗しました" (·.itemByProvider provider x.providerItemId) with
  | some old =>
    let i := { (old.refresh x kind) with version := version, updatedAt := now }
    Txn.write "アイテムの更新に失敗しました" (·.updateItem i)
    return i
  | none =>
    let id ← Txn.freshId
    let i := newItem id (some provider) x kind version now
    Txn.write "アイテムの作成に失敗しました" (·.insertItem i)
    return i

/-- The item without a provider at the delivery's URL, created if missing; an existing item is
returned unchanged. -/
def upsertByUrl (x : Incoming) (kind : Option ContentKind) (version : Int) (now : Instant) :
    Txn Item := do
  match ← Txn.read "アイテムの取得に失敗しました" (·.itemByUrl x.canonicalUrl) with
  | some old => return old
  | none =>
    let id ← Txn.freshId
    let i := newItem id none x kind version now
    Txn.write "アイテムの作成に失敗しました" (·.insertItem i)
    return i

/-- The user's entry for an item, created in the inbox if missing. -/
def ensureEntry (itemId : String) (version : Int) (now : Instant) : Txn Entry := do
  match ← Txn.read "ユーザーアイテムの取得に失敗しました" (·.entryByItem itemId) with
  | some e => return e
  | none =>
    let id ← Txn.freshId
    let e : Entry := { id := id, itemId := itemId, state := .inbox, ingestedAt := now,
                       version := version }
    Txn.write "ユーザーアイテムの作成に失敗しました" (·.insertEntry e)
    return e

/-- The running tally of a batch. -/
structure Tally where
  entryIds : List String := []
  skipped : Nat := 0
  rejections : List Rejection := []

/-- Takes the items of a batch from index `i` on. -/
def takeItems (src : Source) (now : Instant) : Nat → List Incoming → Tally → Txn Tally
  | _, [], t => return t
  | i, raw :: rest, t => do
    match raw.normalize with
    | .error p =>
      let r : Rejection := ⟨i, raw.providerItemId, p.code, p.message⟩
      takeItems src now (i + 1) rest { t with rejections := t.rejections ++ [r] }
    | .ok (x, kind) =>
      let seen ← Txn.read "取り込み済み台帳の確認に失敗しました"
        (·.wasSeen src.id x.providerItemId)
      if seen then
        takeItems src now (i + 1) rest { t with skipped := t.skipped + 1 }
      else
        let version ← Txn.nextVersion
        let item ← upsertByProvider src.provider.name x kind version now
        Txn.write "取り込み済み台帳の記録に失敗しました" (·.markSeen ⟨src.id, x.providerItemId, now⟩)
        let e ← ensureEntry item.id version now
        let ids := if t.entryIds.contains e.id then t.entryIds else t.entryIds ++ [e.id]
        takeItems src now (i + 1) rest { t with entryIds := ids }

/-- Takes a batch of items for a source, at most `maxBatch` of them. -/
def ingest (maxBatch : Nat) (sourceId : String) (items : List Incoming) : Txn IngestReport := do
  if sourceId.isEmpty then Txn.fail (.validation "sourceId is required")
  if items.length > maxBatch then
    Txn.fail (.validation s!"batch size {items.length} exceeds limit {maxBatch}")
  Txn.withTicket do
    let some src ← Txn.read "ソースの取得に失敗しました" (·.sourceById sourceId)
      | Txn.fail (.sourceNotFound sourceId)
    let now ← Txn.now
    let t ← takeItems src now 0 items {}
    let version ← Txn.commitVersion
    return ⟨version, t.entryIds, t.skipped, t.rejections⟩

end Ingest

/-- A manual save: a URL with optional title, kind, thumbnail, and a provider's id. -/
structure SaveRequest where
  url : String := ""
  title : String := ""
  contentType : String := ""
  thumbnailUrl : String := ""
  provider : String := ""
  providerItemId : String := ""
  deriving Repr, Inhabited

namespace Ingest

/-- Saves a URL inside the caller's transaction and returns the user's entry for it. An entry
that exists keeps its state. -/
def save (req : SaveRequest) : Txn Entry := do
  let url := Content.cleanUrl req.url
  if url.isEmpty then Txn.fail (.validation "url must be an absolute http(s) URL")
  let kind ← match Incoming.parseKind req.contentType with
    | .ok k => pure k
    | .error p => Txn.fail p
  let x : Incoming := { providerItemId := Text.trim req.providerItemId, canonicalUrl := url,
                        title := Content.cleanText req.title,
                        thumbnailUrl := Content.cleanUrl req.thumbnailUrl }
  let provider := Text.toUpper (Text.trim req.provider)
  if provider.isEmpty != x.providerItemId.isEmpty then
    Txn.fail (.validation "provider and providerItemId must be given together")
  if !provider.isEmpty && (Provider.parse? provider).isNone then
    Txn.fail (.validation ("unknown provider " ++ req.provider))
  let version ← Txn.nextVersion
  let now ← Txn.now
  let item ← if provider.isEmpty then upsertByUrl x kind version now
    else upsertByProvider provider x kind version now
  ensureEntry item.id version now

end Ingest

end ReadLater
