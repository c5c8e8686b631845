import Mathlib
import ReadLater.Proofs.Triage.Transaction

/-!
# Every entry stands where its committed moves leave it

A store the service reaches keeps no history of its entries' moves. `Triage.History d log`
follows the run that reached `d` from a new store and lists, in order, the moves its committed
transactions made: a transition request that commits makes the move it asks for, at the instant
it starts; a push makes the moves of the mutations it applies (`Sync.PushMoves`); no other
operation moves an entry.

* `Sync.Replays.pushMoves`: every pass of a push has its moves;
* `Store.Reachable.history`: every store the service reaches has a history;
* **`triage_standing_follows_moves`**: over every history, every entry stands where its own moves
  leave it: in the state of its last move, or the inbox, with the stamps `Move.standingAfter`
  gives, and so with the stamps its state carries.
-/

namespace ReadLater

open Clock Store Std.Do

namespace Sync

variable {req : PushRequest}

/-- A pass over a push's mutations, as `Replays` has it, with the moves of the mutations it
applied: each makes the move it asks for of the store it started from, at the instant its effect
started. A duplicate and a rejected mutation move nothing. -/
inductive PushMoves (req : PushRequest) : Database → List Mutation → Database → List Move → Prop
  | nil (d : Database) : PushMoves req d [] d []
  | halt (d : Database) (m : Mutation) (rest : List Mutation) : PushMoves req d (m :: rest) d []
  | duplicate {d d' : Database} {m : Mutation} {rest : List Mutation} {mv : List Move}
      {cl : Client} (t : Instant) (hfind : d.clients.find? (·.id == req.clientId) = some cl)
      (hg : cl.groupId = req.groupId) (hle : m.id ≤ cl.lastMutationId)
      (h : PushMoves req (d.touched req.clientId t) rest d' mv) : PushMoves req d (m :: rest) d' mv
  | applied {d d' : Database} {m : Mutation} {rest : List Mutation} {mv : List Move} {cl : Client}
      {dE : Database} {s : TxnState} {amb amb' : Ambient} {V : Int} (t : Instant)
      (hnext : m.id = d.lastId req.clientId + 1) (hload : ClientLoaded req d cl dE)
      (hV : d.counter = some V) (hrun : m.run.exec ⟨dE, {}⟩ amb = (.ok ((), s), amb'))
      (h : PushMoves req (s.db.advanced cl m.id t V) rest d' mv) :
      PushMoves req d (m :: rest) d' ((m.move d.entries amb.clock).toList ++ mv)
  | rejected {d d' : Database} {m : Mutation} {rest : List Mutation} {mv : List Move}
      {cl : Client} {dE : Database} {p : Problem} {V : Int} (t : Instant)
      (hnext : m.id = d.lastId req.clientId + 1) (hrej : Rejects req m d p)
      (hload : ClientLoaded req d cl dE) (hV : d.counter = some V)
      (h : PushMoves req (dE.advanced cl m.id t V) rest d' mv) : PushMoves req d (m :: rest) d' mv

/-- Loading the client leaves the entries. -/
theorem ClientLoaded.entries {d dE : Database} {cl : Client} (h : ClientLoaded req d cl dE) :
    dE.entries = d.entries := by
  cases h <;> rfl

/-- Every pass over a push's mutations has its moves. -/
theorem Replays.pushMoves {d d' : Database} {ms cs : List Mutation}
    (h : Replays req d ms d' cs) : ∃ mv, PushMoves req d ms d' mv := by
  induction h with
  | nil d => exact ⟨[], .nil d⟩
  | halt d m rest => exact ⟨[], .halt d m rest⟩
  | duplicate t hfind hg hle _ ih =>
    obtain ⟨mv, h⟩ := ih
    exact ⟨mv, .duplicate t hfind hg hle h⟩
  | commit hnext hc _ ih =>
    obtain ⟨mv, h⟩ := ih
    cases hc with
    | applied t hload hV hrun => exact ⟨_, .applied t hnext hload hV hrun h⟩
    | rejected t hrej hload hV => exact ⟨mv, .rejected t hnext hrej hload hV h⟩

/-- **A push moves what its applied mutations ask for**, one mutation after the other. -/
theorem PushMoves.account {d d' : Database} {ms : List Mutation} {mv log : List Move}
    (h : PushMoves req d ms d' mv) (ha : Triage.Account d.entries log) :
    Triage.Account d'.entries (log ++ mv) := by
  induction h generalizing log with
  | nil => simpa using ha
  | halt => simpa using ha
  | duplicate t _ _ _ _ ih => exact ih ha
  | @applied d d' m rest mv cl dE s amb amb' V t hnext hload hV hrun _ ih =>
    -- the effect ran on the store with the client loaded, whose entries are the store's
    have hf := Txn.of_triple (Mutation.run_follows dE amb m) ⟨rfl, rfl⟩ hrun
    rw [hload.entries] at hf
    rw [← List.append_assoc]
    exact ih (ha.follow hf)
  | rejected t _ _ hload _ _ ih =>
    -- the rejection keeps the store as it was, with the client's progress
    exact ih (hload.entries ▸ ha)

end Sync

namespace Triage

/-- A store the service reaches from a new store, with the moves of entries that the committed
transactions of the run made, in order: a transition request that commits makes the move it asks
for at the instant it starts, a push the moves of the mutations it applies, and no other
operation moves an entry. -/
inductive History : Database → List Move → Prop
  | schema (user : String) (amb : Ambient) : History (newStore user amb) []
  | committed {d d₁ : Database} {log : List Move} {amb amb₁ : Ambient} {entryId target : String}
      {r : Entry × Int} (h : History d log)
      (hrun : (Work.atomically (request entryId target)).exec d amb = ((.ok r, d₁), amb₁)) :
      History d₁ (log ++ (moveOf d.entries entryId target amb.clock).toList)
  | refused {d d₁ : Database} {log : List Move} {amb amb₁ : Ambient} {entryId target : String}
      {f : Failure} (h : History d log)
      (hrun : (Work.atomically (request entryId target)).exec d amb = ((.error f, d₁), amb₁)) :
      History d₁ log
  | push {d d₁ : Database} {log mv : List Move} {amb amb₁ : Ambient} {n : Nat}
      {req : Sync.PushRequest} {r : Except Failure Sync.PushReport} (h : History d log)
      (hrun : (Sync.push n req).exec d amb = ((r, d₁), amb₁))
      (hmv : Sync.PushMoves req d req.sorted d₁ mv) : History d₁ (log ++ mv)
  | other {d : Database} {log : List Move} (h : History d log) (op : Operation)
      (hop : ¬ op.MayMove) (amb : Ambient) : History (op.exec d amb).1 log

/-- A new store has no entries. -/
theorem newStore_entries (user : String) (amb : Ambient) : (newStore user amb).entries = [] := by
  have hrows := (newStore_blank user amb).1
  simp only [Database.syncedRows, List.append_eq_nil_iff, List.map_eq_nil_iff] at hrows
  exact hrows.1.1.1.1

/-- **Every history accounts for the entries of its store.** -/
theorem History.account {d : Database} {log : List Move} (h : History d log) :
    Account d.entries log := by
  induction h with
  | schema user amb =>
    rw [newStore_entries]
    exact Account.nil
  | @committed d d₁ log amb amb₁ entryId target r _ hrun ih =>
    -- the request committed the store its transaction ended with
    rw [Work.exec_atomically] at hrun
    split at hrun
    · rename_i a s amb' htx
      obtain ⟨⟨-, rfl⟩, -⟩ := Prod.mk.inj hrun
      exact ih.follow (Txn.of_triple (request_follows d amb entryId target) ⟨rfl, rfl⟩ htx)
    · cases hrun
  | refused _ hrun ih =>
    -- a refused request rolls back
    rw [Work.exec_atomically] at hrun
    split at hrun
    · cases hrun
    · obtain ⟨⟨-, rfl⟩, -⟩ := Prod.mk.inj hrun
      exact ih
  | push _ _ hmv ih => exact hmv.account ih
  | other _ op hop amb ih => simpa using ih.follow (Operation.exec_follows hop _ amb)

end Triage

/-- **Every store the service reaches has a history** of the moves its run committed. -/
theorem Store.Reachable.history {d : Database} (h : Reachable d) : ∃ log, Triage.History d log := by
  induction h with
  | schema user amb => exact ⟨[], .schema user amb⟩
  | @step d op amb _ ih =>
    obtain ⟨log, hlog⟩ := ih
    cases op with
    | transition entryId target =>
      -- the request commits its move, or rolls back
      rcases hrun : (Work.atomically (Triage.request entryId target)).exec d amb with
        ⟨⟨f | r, d₁⟩, amb₁⟩
      · have hd : ((Operation.transition entryId target).exec d amb).1 = d₁ := by
          simp only [Operation.exec, Work.leaves]
          exact congrArg (·.1.2) hrun
        exact ⟨log, hd ▸ Triage.History.refused hlog hrun⟩
      · have hd : ((Operation.transition entryId target).exec d amb).1 = d₁ := by
          simp only [Operation.exec, Work.leaves]
          exact congrArg (·.1.2) hrun
        exact ⟨_, hd ▸ Triage.History.committed hlog hrun⟩
    | push n req =>
      rcases hrun : (Sync.push n req).exec d amb with ⟨⟨r, d₁⟩, amb₁⟩
      obtain ⟨cs, hrep⟩ := Sync.push_replays hrun
      obtain ⟨mv, hmv⟩ := hrep.pushMoves
      have hd : ((Operation.push n req).exec d amb).1 = d₁ := by
        simp only [Operation.exec, Work.leaves, hrun]
      exact ⟨_, hd ▸ Triage.History.push hlog hrun hmv⟩
    | pull user req => exact ⟨log, .other hlog (.pull user req) (fun h => h) amb⟩
    | ingest n sourceId items => exact ⟨log, .other hlog (.ingest n sourceId items) (fun h => h) amb⟩
    | subscribe req => exact ⟨log, .other hlog (.subscribe req) (fun h => h) amb⟩
    | unsubscribe sourceId => exact ⟨log, .other hlog (.unsubscribe sourceId) (fun h => h) amb⟩
    | identity user ev => exact ⟨log, .other hlog (.identity user ev) (fun h => h) amb⟩

/-- **Every entry stands where its committed moves leave it.** Every store the service reaches has
a history of the moves its run committed; over every such history, every entry stands where its
own moves leave it: in the state of its last move, or the inbox it started in; bookmarked at the
last move into the bookmarks unless a move into the inbox came after it; archived at the last
move into the archive unless a move elsewhere came after it. So an entry in the inbox has no
stamp, a bookmarked one a bookmark stamp and no archive stamp, an archived one an archive stamp. -/
theorem triage_standing_follows_moves :
    (∀ d, Store.Reachable d → ∃ log, Triage.History d log) ∧
      ∀ d log, Triage.History d log → ∀ e ∈ d.entries,
        e.standing = Move.standingAfter (Move.ofEntry log e.id) ∧ e.standing.Consistent := by
  refine ⟨fun d hd => hd.history, fun d log h e he => ?_⟩
  have hst := h.account.stands e he
  exact ⟨hst, hst ▸ Move.standingAfter_consistent _⟩

end ReadLater
