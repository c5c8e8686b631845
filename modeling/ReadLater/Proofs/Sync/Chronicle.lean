import Mathlib
import ReadLater.Proofs.Sync.Replay

/-!
# The ledger over a run of operations

Clients push their mutations in any order, any number of times, and the store meanwhile serves
every other request. `Chronicle c d amb ops log` follows a run of operations from the store `d`
and lists, in order, the mutations of the client `c` that its pushes committed: each push of `c`
replays its sorted mutations (`Replays`), and every other operation leaves `c`'s last applied id
alone.

* `Operation.exec_lastId`: an operation that is not a push of `c` keeps `c`'s last applied id;
* **`ledger_commits_each_id_once`**: over every run, the mutations committed for `c` carry the ids
  after its last applied one, each once and in increasing order, and its last applied id ends at
  the last of them, so it never decreases.
-/

namespace ReadLater

open Clock Store Sync

/-- Whether the operation is a push of the client `c`. -/
def Operation.PushesFor (c : String) : Operation → Prop
  | .push _ req => req.clientId = c
  | _ => False

/-- An operation that is not a push of `c` keeps `c`'s last applied id. -/
theorem Operation.exec_lastId {op : Operation} {c : String} (hop : ¬ op.PushesFor c)
    (d : Database) (amb : Ambient) : (op.exec d amb).1.lastId c = d.lastId c := by
  cases op with
  | push n req =>
    rcases hx : (Sync.push n req).exec d amb with ⟨⟨r, d'⟩, amb'⟩
    obtain ⟨cs, h⟩ := push_replays hx
    have hne : c ≠ req.clientId := fun h => hop h.symm
    simp only [exec, Work.leaves, hx, h.lastId, hne, ↓reduceIte]
  | _ =>
    apply Database.lastId_eq_of_clients
    exact exec_clients (fun h => h)

/-- A run of operations from the store `d` with the ambient services `amb`, and the mutations of
the client `c` that its pushes committed, in order. -/
inductive Chronicle (c : String) : Database → Ambient → List Operation → List Mutation → Prop
  | nil (d : Database) (amb : Ambient) : Chronicle c d amb [] []
  | push {d d₁ : Database} {amb amb₁ : Ambient} {n : Nat} {req : PushRequest}
      {r : Except Failure PushReport} {ops : List Operation} {cs log : List Mutation}
      (hc : req.clientId = c) (hrun : (Sync.push n req).exec d amb = ((r, d₁), amb₁))
      (hrep : Replays req d req.sorted d₁ cs) (h : Chronicle c d₁ amb₁ ops log) :
      Chronicle c d amb (.push n req :: ops) (cs ++ log)
  | other {d : Database} {amb : Ambient} {op : Operation} {ops : List Operation}
      {log : List Mutation} (hop : ¬ op.PushesFor c)
      (h : Chronicle c (op.exec d amb).1 (op.exec d amb).2 ops log) :
      Chronicle c d amb (op :: ops) log

/-- Consecutive ids from `k + 1`, followed by consecutive ids from the next one. -/
private theorem ids_append {cs log : List Mutation} {k : Int}
    (h₁ : cs.map (·.id) = (List.range cs.length).map fun i : Nat => k + 1 + i)
    (h₂ : log.map (·.id) = (List.range log.length).map fun i : Nat => k + cs.length + 1 + i) :
    (cs ++ log).map (·.id) = (List.range (cs ++ log).length).map fun i : Nat => k + 1 + i := by
  rw [List.map_append, h₁, h₂, List.length_append, List.range_add, List.map_append, List.map_map]
  congr 1
  apply List.map_congr_left
  intro i _
  simp only [Function.comp_apply, Nat.cast_add]
  ring

/-- **Exactly-once ledger.** Over every run of operations, however the pushes of a client order,
repeat or retry its mutations, the mutations committed for it carry the ids after its last
applied one, each once and in increasing order, each replayed as its push's `Replays` says, and
its last applied id ends at the last of them. -/
theorem ledger_commits_each_id_once (c : String) (ops : List Operation) (d : Database)
    (amb : Ambient) :
    ∃ log, Chronicle c d amb ops log ∧
      log.map (·.id) = (List.range log.length).map (fun i : Nat => d.lastId c + 1 + i) ∧
      (Operation.run ops d amb).1.lastId c = d.lastId c + log.length := by
  induction ops generalizing d amb with
  | nil => exact ⟨[], .nil d amb, rfl, by simp [Operation.run]⟩
  | cons op ops ih =>
    by_cases hop : op.PushesFor c
    · -- a push of `c` replays its mutations, then the rest of the run goes on from its store
      cases op with
      | push n req =>
        rcases hx : (Sync.push n req).exec d amb with ⟨⟨r, d₁⟩, amb₁⟩
        obtain ⟨cs, hrep⟩ := push_replays hx
        obtain ⟨log, hch, hids, hlast⟩ := ih d₁ amb₁
        have hc : req.clientId = c := hop
        have hd₁ : d₁.lastId c = d.lastId c + cs.length := by
          rw [hrep.lastId, if_pos hc.symm]
        refine ⟨cs ++ log, .push hc hx hrep hch, ids_append (hc ▸ hrep.ids) (hd₁ ▸ hids), ?_⟩
        simp only [Operation.run, Operation.exec, Work.leaves, hx] at hlast ⊢
        rw [hlast, hd₁, List.length_append, Nat.cast_add]
        ring
      | _ => exact absurd hop id
    · obtain ⟨log, hch, hids, hlast⟩ := ih (op.exec d amb).1 (op.exec d amb).2
      rw [Operation.exec_lastId hop] at hids hlast
      exact ⟨log, .other hop hch, hids, hlast⟩

end ReadLater
