import ReadLater.Sync.Mutation

/-!
# The push ledger and pull

**Push.** A client pushes mutations numbered from 1. They are taken in ascending order of id
(a stable sort), each in a transaction of its own:

* an id at or below the client's last applied id is a duplicate: it only stamps the client;
* the next id is applied: the mutation's effect and the client's progress commit together and
  advance the store version by one;
* a later id leaves a gap: the push stops with `resyncRequired`, and what it applied before
  stays committed;
* a mutation whose effect reports a problem is rejected: its effect is rolled back, but a second
  transaction still records its id as applied and advances the version, and the problem is
  listed in the answer.

A client belongs to the client group it first pushed with; pushing with another group fails.

**Pull.** A client asks for the changes after a version: entries, items and sources written
later, the profile if it changed, and deletions of sources (only when the client already holds
rows, that is after version 0), all as patches sorted by key, with the progress of the clients
of its group. A client ahead of the store (a store that was rebuilt) gets a `clear` patch and
everything from version 0.
-/

namespace ReadLater.Sync

open Clock Store

/-- A push request. -/
structure PushRequest where
  clientId : String
  groupId : String
  mutations : List Mutation
  deriving Repr, Inhabited

/-- A rejected mutation in a push answer. -/
structure MutationRejection where
  mutationId : Int
  name : String
  problem : Problem
  deriving Repr, Inhabited

/-- The answer to a push. -/
structure PushReport where
  appliedUpTo : Int
  version : Int
  rejections : List MutationRejection
  deriving Repr, Inhabited

/-- The answer as clients receive it; the rejections are left out when there are none. -/
def PushReport.toJson (r : PushReport) : Json :=
  .obj ([("appliedUpTo", .int r.appliedUpTo), ("version", .int r.version)] ++
    if r.rejections.isEmpty then []
    else [("errors", .arr (r.rejections.map fun e =>
      .obj [("mutationId", .int e.mutationId), ("name", .str e.name), ("code", .str e.problem.code),
        ("message", .str e.problem.message)]))])

/-- Counts a mutation's outcome. -/
def countMutation (outcome : String) : AmbientM Unit :=
  record fun m => { m with mutations := m.mutations.bump outcome }

/-- The client of a push, created with no progress when it is new. -/
def loadClient (req : PushRequest) : Txn Client := do
  match ← Txn.read "クライアントの取得に失敗しました" (·.clientById req.clientId) with
  | some c =>
    if c.groupId != req.groupId then Txn.fail (.clientGroupMismatch req.clientId)
    return c
  | none =>
    let now ← Txn.now
    let c : Client := ⟨req.clientId, req.groupId, 0, now, 0⟩
    Txn.write "クライアントの作成に失敗しました" (·.insertClient c)
    return c

/-- Records a mutation id as the client's last applied one, at the next version. -/
def advanceClient (c : Client) (mutationId : Int) : Txn Unit := do
  let version ← Txn.nextVersion
  let now ← Txn.now
  Txn.write "クライアントの更新に失敗しました"
    (·.saveClient { c with lastMutationId := mutationId, lastModified := now, version := version })
  let _ ← Txn.commitVersion

/-- What the first transaction of a mutation ended with. -/
inductive Step where
  /-- Nothing to apply, or applied: the client's last applied id. -/
  | done (lastId : Int)
  /-- The mutation's effect reported a problem. -/
  | rejected (p : Problem)

/-- The first transaction of a mutation: duplicate, gap, or apply. A problem reported by the
mutation's effect rolls the effect back and is returned as a rejection. -/
def firstAttempt (req : PushRequest) (m : Mutation) : Txn Step := do
  let c ← loadClient req
  if m.id ≤ c.lastMutationId then
    Txn.ambient (countMutation "duplicate")
    let now ← Txn.now
    Txn.write "クライアントの更新に失敗しました" (·.touchClient c.id now)
    return .done c.lastMutationId
  if m.id > c.lastMutationId + 1 then
    Txn.fail (.resyncRequired c.id c.lastMutationId m.id)
  Txn.withTicket do
    let effect ← tryCatch (do m.run; pure none) fun f =>
      match f.problem? with
      | some p => pure (some p)
      | none => throw (f.wrap s!"mutation {m.id} ({m.name})")
    match effect with
    | some p => return .rejected p
    | none =>
      advanceClient c m.id
      Txn.ambient (countMutation "applied")
      return .done m.id

/-- Whether a failure is a request to resynchronise. -/
def Failure.isResync (f : Failure) : Bool :=
  match f.problem? with
  | some (.resyncRequired ..) => true
  | _ => false

/-- Processes one mutation; the client's last applied id and the problem of a rejection. -/
def process (req : PushRequest) (m : Mutation) : Work (Int × Option Problem) := do
  let before ← get
  match ← Work.attempt (firstAttempt req m) with
  | .ok (.done last) => return (last, none)
  | .ok (.rejected p) =>
    -- the whole first transaction is dropped; a second one records the id
    set before
    Work.atomically (Txn.withTicket do
      let c ← loadClient req
      advanceClient c m.id)
    Work.ambient (countMutation "rejected")
    return (m.id, some p)
  | .error f =>
    if Failure.isResync f then
      Work.ambient (record fun mt => { mt with resyncs := mt.resyncs + 1 })
    throw f

/-- Processes mutations in order, stopping at the first failure. -/
def processAll (req : PushRequest) :
    List Mutation → Int → List MutationRejection → Work (Int × List MutationRejection)
  | [], applied, rs => return (applied, rs)
  | m :: rest, _, rs => do
    let (last, rejection) ← process req m
    let rs := match rejection with
      | some p => rs ++ [⟨m.id, m.name, p⟩]
      | none => rs
    processAll req rest last rs

/-- Applies a push with at most `maxMutations` mutations. -/
def push (maxMutations : Nat) (req : PushRequest) : Work PushReport := do
  if req.clientId.isEmpty || req.groupId.isEmpty then
    Work.fail (.validation "clientId and clientGroupId are required")
  if req.mutations.length > maxMutations then
    Work.fail (.validation s!"too many mutations: {req.mutations.length} (limit {maxMutations})")
  let ms := req.mutations.mergeSort (fun a b => a.id ≤ b.id)
  if let some bad := ms.find? (·.id < 1) then
    Work.fail (.validation s!"mutation id must be positive: {bad.id}")
  let (applied, rs) ← processAll req ms 0 []
  let applied ← if ms.isEmpty then do
      match ← Work.atomically (Txn.read "クライアントの取得に失敗しました" (·.clientById req.clientId)) with
      | some c => pure c.lastMutationId
      | none => pure applied
    else pure applied
  let version ← Work.atomically Txn.currentVersion
  return ⟨applied, version, rs⟩

/-! ## Pull -/

/-- One change in a pull answer. -/
inductive Patch where
  | put (key : String) (value : Json)
  | del (key : String)
  | clear
  deriving Repr, Inhabited

namespace Patch

/-- The key the patch is about; `clear` has none. -/
def key : Patch → String
  | .put k _ => k
  | .del k => k
  | .clear => ""

/-- The patch as clients receive it. -/
def toJson : Patch → Json
  | .put k v => .obj [("op", .str "put"), ("key", .str k), ("value", v)]
  | .del k => .obj [("op", .str "del"), ("key", .str k)]
  | .clear => .obj [("op", .str "clear")]

end Patch

/-- A pull request. -/
structure PullRequest where
  sinceVersion : Int := 0
  groupId : String := ""
  deriving Repr, Inhabited

/-- The answer to a pull. -/
structure PullReport where
  version : Int
  patches : List Patch
  /-- The last applied mutation of each changed client of the group. -/
  clientProgress : List (String × Int)
  reset : Bool
  deriving Repr, Inhabited

/-- The answer as clients receive it; `reset` is left out when false. -/
def PullReport.toJson (r : PullReport) : Json :=
  .obj ([("version", .int r.version), ("patches", .arr (r.patches.map Patch.toJson)),
    ("lastMutationIdChanges", .obj (r.clientProgress.map fun (c, n) => (c, .int n)))] ++
    if r.reset then [("reset", .bool true)] else [])

/-- The changes after a version, as patches sorted by key. -/
def changesSince (user : String) (since : Int) : Txn (List Patch) := do
  let entries ← Txn.read "変更ユーザーアイテムの取得に失敗しました" (·.entriesSince since)
  let items ← Txn.read "変更アイテムの取得に失敗しました" (·.itemsSince since)
  let sources ← Txn.read "変更ソースの取得に失敗しました" (·.sourcesSince since)
  let profile ← Txn.read "プロフィールの取得に失敗しました" (·.profileOf user)
  let mut patches : List Patch :=
    entries.map (fun e => .put ("userItem/" ++ e.id) e.toJson) ++
    items.map (fun i => .put ("item/" ++ i.id) i.toJson) ++
    sources.map (fun s => .put ("source/" ++ s.id) s.toJson)
  if let some p := profile then
    if p.version > since then patches := patches ++ [.put "profile" p.toJson]
  if since > 0 then
    let gone ← Txn.read "削除記録の取得に失敗しました" (·.tombstonesSince since)
    patches := patches ++ (gone.filter (·.entity == "source")).map fun t => .del ("source/" ++ t.entityId)
  return patches.mergeSort fun a b => decide (a.key ≤ b.key)

/-- Answers a pull for a user. -/
def pull (user : String) (req : PullRequest) : Work PullReport := do
  if req.sinceVersion < 0 then Work.fail (.validation "sinceVersion must not be negative")
  let report ← Work.atomically do
    let current ← Txn.currentVersion
    let (since, reset) := if req.sinceVersion > current then (0, true) else (req.sinceVersion, false)
    let head : List Patch := if reset then [.clear] else []
    if since == current then return (⟨current, head, [], reset⟩ : PullReport)
    let patches ← changesSince user since
    let progress ← if req.groupId.isEmpty then pure []
      else do
        let cs ← Txn.read "クライアント一覧の取得に失敗しました" (·.clientsSince req.groupId since)
        pure (cs.map fun c => (c.id, c.lastMutationId))
    return ⟨current, head ++ patches, progress, reset⟩
  Work.ambient (record fun m =>
    { m with pulls := m.pulls + 1, pulledPatches := m.pulledPatches + report.patches.length })
  return report

end ReadLater.Sync
