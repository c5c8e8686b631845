import ReadLater.Store.Txn
import ReadLater.Text.Space

/-!
# Identity events

The identity provider reports `user.created` and `user.updated` events with the user's display
fields. An event of another kind, or one that changes no display field, writes nothing; any
other creates or updates the profile at the transaction's next version.
-/

namespace ReadLater

open Clock Store

/-- The display fields an event carries. -/
structure IdentityData where
  email : String := ""
  firstName : String := ""
  lastName : String := ""
  imageUrl : String := ""
  deriving Repr, Inhabited

/-- An event of the identity provider. -/
structure IdentityEvent where
  kind : String := ""
  data : IdentityData := {}
  deriving Repr, Inhabited

/-- Applies an event for a user inside the caller's transaction; the profile (none when the
event was ignored) and whether it changed. -/
def IdentityEvent.apply (user : String) (ev : IdentityEvent) : Txn (Option Profile × Bool) := do
  unless ev.kind == "user.created" || ev.kind == "user.updated" do
    Txn.ambient (logAt .info "未対応のIDイベントを無視しました"
      [("user_id", .str user), ("type", .str ev.kind)])
    return (none, false)
  let current ← Txn.read "プロフィールの取得に失敗しました" (·.profileOf user)
  let now ← Txn.now
  let next : Profile := {
    id := user
    email := Text.trim ev.data.email
    firstName := Text.trim ev.data.firstName
    lastName := Text.trim ev.data.lastName
    imageUrl := Text.trim ev.data.imageUrl
    version := 0
    createdAt := now
    updatedAt := now }
  let next ← match current with
    | some old =>
      if old.sameDisplay next then return (some old, false)
      pure { next with createdAt := old.createdAt }
    | none => pure next
  let version ← Txn.nextVersion
  let next := { next with version := version }
  Txn.write "プロフィールの保存に失敗しました" (·.upsertProfile next)
  return (some next, true)

end ReadLater
