import ReadLater.Store.Txn
import ReadLater.Text.Case
import ReadLater.Json.Read

/-!
# Subscriptions

Subscribing to a provider's channel or feed creates a source unless the store has one for the
same provider and provider id, which is then returned as it is. Unsubscribing deletes the
source with the marks of what it delivered, and leaves a tombstone at the new version so that
clients delete it too.
-/

namespace ReadLater

open Clock Store

/-- A request to subscribe. -/
structure SubscribeRequest where
  provider : String := ""
  providerId : String := ""
  name : String := ""
  /-- The configuration as JSON text; empty for none. -/
  config : String := ""
  deriving Repr, Inhabited

namespace Subscription

/-- Subscribes inside the caller's transaction; the source and whether it is new. -/
def subscribe (req : SubscribeRequest) : Txn (Source × Bool) := do
  let name := Text.toUpper (Text.trim req.provider)
  let some provider := Provider.parse? name
    | Txn.fail (.validation ("unknown provider " ++ name))
  let providerId := Text.trim req.providerId
  if providerId.isEmpty then Txn.fail (.validation "providerId is required")
  if !req.config.isEmpty && !Json.valid req.config then
    Txn.fail (.validation "config must be valid JSON")
  if let some old ← Txn.read "ソースの取得に失敗しました" (·.sourceByProvider provider providerId) then
    return (old, false)
  let version ← Txn.nextVersion
  let id ← Txn.freshId
  let now ← Txn.now
  let src : Source := {
    id := id
    provider := provider
    providerId := providerId
    name := Text.trim req.name
    config := if req.config.isEmpty then "{}" else req.config
    version := version
    createdAt := now }
  Txn.write "ソースの作成に失敗しました" (·.insertSource src)
  return (src, true)

/-- Unsubscribes inside the caller's transaction. -/
def unsubscribe (sourceId : String) : Txn Unit := do
  let some src ← Txn.read "ソースの取得に失敗しました" (·.sourceById sourceId)
    | Txn.fail (.sourceNotFound sourceId)
  let version ← Txn.nextVersion
  Txn.write "ソースの削除に失敗しました" (·.deleteSource src.id)
  let now ← Txn.now
  Txn.write "削除記録の保存に失敗しました" (·.putTombstone ⟨"source", src.id, version, now⟩)

/-- The source with an id. -/
def get (sourceId : String) : Txn Source := do
  let some src ← Txn.read "ソースの取得に失敗しました" (·.sourceById sourceId)
    | Txn.fail (.sourceNotFound sourceId)
  return src

/-- Every source, oldest first. -/
def list : Txn (List Source) := Txn.read "ソース一覧の取得に失敗しました" (·.sourcesByCreation)

end Subscription

end ReadLater
