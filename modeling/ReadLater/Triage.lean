import ReadLater.Store.Txn

/-!
# Triage

An entry moves freely between the inbox, the bookmarks and the archive. Moving it to the state
it is in writes nothing and reports no change; any other move stamps the entry, gives it the
transaction's next version and writes it.
-/

namespace ReadLater

open Clock Store

/-- Moves an entry to a state named `target`, inside the caller's transaction; the entry after
the move and whether it changed. -/
def Triage.transition (entryId : String) (target : String) : Txn (Entry × Bool) := do
  let some state := TriageState.parse? target | Txn.fail (.invalidState target)
  let some e ← Txn.read "ユーザーアイテムの取得に失敗しました" (·.entryById entryId)
    | Txn.fail (.itemNotFound entryId)
  let now ← Txn.now
  if e.state == state then return (e, false)
  let version ← Txn.nextVersion
  let moved := { (e.moveTo state now) with version := version }
  let found ← Txn.writeCounting "ユーザーアイテムの更新に失敗しました" (·.updateEntry moved)
  unless found do Txn.fail (.itemNotFound moved.id)
  return (moved, true)

end ReadLater
