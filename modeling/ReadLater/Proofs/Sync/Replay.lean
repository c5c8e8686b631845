import Mathlib
import ReadLater.Proofs.Operation

/-!
# A push replays a client's mutations once each

A push sorts its mutations by id and processes them in that order until one fails.
`Replays req d ms d' cs` records such a pass from the store `d` to the store `d'`: every
duplicate only stamps its client, every commit is of the client's next mutation, and `cs` lists
the committed mutations in order.

* `push_replays`: every push, whatever it answers, replays its sorted mutations;
* `Replays.lastId`, `Replays.ids`: the committed mutations carry the ids after the client's last
  applied one, each once and in order, and the ledger ends at the last of them;
* `Replays.first`: each committed mutation is the first of the sorted request with its id;
* `Replays.version`: the version rises by one per committed mutation;
* **`push_version_rise_eq_lastId_rise`**: so a push raises the version exactly as much as the
  pushing client's last applied id, whatever it answers.
-/

namespace ReadLater

open Clock Store

namespace Sync

/-- A pass over a push's mutations from the store `d` that ends in `d'` and commits `cs`: each
duplicate stamps its stored client, each commit is of the client's next mutation, and the pass
may stop at any mutation, when processing it fails. -/
inductive Replays (req : PushRequest) : Database → List Mutation → Database → List Mutation → Prop
  | nil (d : Database) : Replays req d [] d []
  | halt (d : Database) (m : Mutation) (rest : List Mutation) : Replays req d (m :: rest) d []
  | duplicate {d d' : Database} {m : Mutation} {rest cs : List Mutation} {cl : Client} (t : Instant)
      (hfind : d.clients.find? (·.id == req.clientId) = some cl) (hg : cl.groupId = req.groupId)
      (hle : m.id ≤ cl.lastMutationId) (h : Replays req (d.touched req.clientId t) rest d' cs) :
      Replays req d (m :: rest) d' cs
  | commit {d d₁ d' : Database} {m : Mutation} {rest cs : List Mutation} {p : Option Problem}
      (hnext : m.id = d.lastId req.clientId + 1) (hc : Commits req m d p d₁)
      (h : Replays req d₁ rest d' cs) : Replays req d (m :: rest) d' (m :: cs)

variable {req : PushRequest}

/-- A pass that commits nothing and changes nothing. -/
theorem Replays.refl (d : Database) : ∀ ms, Replays req d ms d []
  | [] => .nil d
  | m :: rest => .halt d m rest

/-- Processing mutations with positive ids in order replays them. -/
theorem processAll_replays {ms : List Mutation} (hpos : ∀ m ∈ ms, 1 ≤ m.id) {a : Int}
    {rs : List MutationRejection} {d d' : Database} {amb amb' : Ambient}
    {r : Except Failure (Int × List MutationRejection)}
    (h : (processAll req ms a rs).exec d amb = ((r, d'), amb')) : ∃ cs, Replays req d ms d' cs := by
  induction ms generalizing a rs d amb with
  | nil =>
    simp only [processAll, Work.exec_pure, Prod.mk.injEq] at h
    obtain ⟨⟨-, rfl⟩, -⟩ := h
    exact ⟨[], .nil d⟩
  | cons m rest ih =>
    simp only [processAll, Work.exec_bind] at h
    rcases hp : (process req m).exec d amb with ⟨⟨_ | ⟨last, rej⟩, d₁⟩, amb₁⟩ <;> rw [hp] at h
    · -- processing failed: nothing more commits
      simp only [Prod.mk.injEq] at h
      obtain ⟨⟨-, rfl⟩, -⟩ := h
      have hd := process_processed (hpos m (by simp)) hp
      cases hd
      exact ⟨[], .halt d m rest⟩
    · obtain ⟨cs, hrest⟩ := ih (fun m' hm' => hpos m' (by simp [hm'])) h
      cases process_processed (hpos m (by simp)) hp with
      | duplicate t hfind hg hle => exact ⟨cs, .duplicate t hfind hg hle hrest⟩
      | committed hnext hc => exact ⟨m :: cs, .commit hnext hc hrest⟩

namespace Replays

variable {d d' : Database} {ms cs : List Mutation}

/-- A pass moves the pushing client's last applied id by the number of its commits, and no other
client's. -/
theorem lastId (h : Replays req d ms d' cs) (x : String) :
    d'.lastId x = if x = req.clientId then d.lastId x + cs.length else d.lastId x := by
  induction h with
  | nil => simp
  | halt => simp
  | duplicate t hfind hg hle h ih => rw [ih, Database.lastId_touched]
  | commit hnext hc h ih =>
    rw [ih, hc.lastId]
    by_cases hx : x = req.clientId
    · subst hx
      simp only [↓reduceIte, List.length_cons, Nat.cast_add, Nat.cast_one, hnext]
      ring
    · simp [hx]

/-- Every committed mutation comes after the client's last applied one. -/
theorem lastId_lt (h : Replays req d ms d' cs) : ∀ m ∈ cs, d.lastId req.clientId < m.id := by
  induction h with
  | nil => simp
  | halt => simp
  | duplicate t hfind hg hle h ih => simpa only [Database.lastId_touched] using ih
  | commit hnext hc h ih =>
    intro m' hm'
    rcases List.mem_cons.1 hm' with rfl | hm'
    · omega
    · have := ih m' hm'
      rw [hc.lastId, if_pos rfl] at this
      omega

/-- The committed mutations carry the ids after the client's last applied one, each once and in
order. -/
theorem ids (h : Replays req d ms d' cs) :
    cs.map (·.id) = (List.range cs.length).map fun i : Nat => d.lastId req.clientId + 1 + i := by
  induction h with
  | nil => rfl
  | halt => rfl
  | duplicate t hfind hg hle h ih => simpa only [Database.lastId_touched] using ih
  | commit hnext hc h ih =>
    rw [List.map_cons, ih, hc.lastId, if_pos rfl, List.length_cons, List.range_succ_eq_map,
      List.map_cons, List.map_map]
    simp only [Nat.cast_zero, add_zero, ← hnext, List.cons.injEq, true_and]
    apply List.map_congr_left
    intro i _
    simp only [Function.comp_apply, Nat.cast_succ, hnext]
    ring

/-- Each committed mutation is the first of the pass with its id. -/
theorem first (h : Replays req d ms d' cs) : ∀ m ∈ cs, ms.find? (·.id == m.id) = some m := by
  induction h with
  | nil => simp
  | halt => simp
  | @duplicate _ _ m _ _ _ t hfind hg hle h ih =>
    -- a later commit comes after the duplicate's id
    intro m' hm'
    have hlt := h.lastId_lt m' hm'
    rw [Database.lastId_touched, Database.lastId_of_find hfind] at hlt
    have hne : (m.id == m'.id) = false := by simpa using (show m.id ≠ m'.id by omega)
    rw [List.find?_cons, hne]
    exact ih m' hm'
  | @commit _ _ _ m _ _ _ hnext hc h ih =>
    intro m' hm'
    rcases List.mem_cons.1 hm' with rfl | hm'
    · simp
    · have hlt := h.lastId_lt m' hm'
      rw [hc.lastId, if_pos rfl] at hlt
      have hne : (m.id == m'.id) = false := by simpa using (show m.id ≠ m'.id by omega)
      rw [List.find?_cons, hne]
      exact ih m' hm'

/-- The version rises by one per committed mutation. -/
theorem version (h : Replays req d ms d' cs) : d'.version = d.version + cs.length := by
  induction h with
  | nil => simp
  | halt => simp
  | duplicate t hfind hg hle h ih => exact ih
  | commit hnext hc h ih =>
    obtain ⟨V, hV, hV'⟩ := hc.counter
    simp only [Database.version, hV, hV', Option.getD_some] at ih ⊢
    rw [ih, List.length_cons, Nat.cast_add, Nat.cast_one]
    ring

end Replays

/-- The order in which a push processes its mutations: by id, stably. -/
def PushRequest.sorted (req : PushRequest) : List Mutation :=
  req.mutations.mergeSort fun a b => a.id ≤ b.id

/-- A push stores nothing, or what a run of its sorted mutations stores: what comes before the
run only checks the request, and what comes after it only reads. -/
theorem push_stores {n : Nat} {d d' : Database} {amb amb' : Ambient}
    {r : Except Failure PushReport} (h : (push n req).exec d amb = ((r, d'), amb')) :
    d' = d ∨ (∀ m ∈ req.sorted, 1 ≤ m.id) ∧
      ∃ r' amb₁, (processAll req req.sorted 0 []).exec d amb = ((r', d'), amb₁) := by
  simp only [push] at h
  -- the three checks of the request fail before any store
  split at h
  · simp only [Work.exec_bind, Work.exec_fail, Prod.mk.injEq] at h
    exact .inl h.1.2.symm
  split at h
  · simp only [Work.exec_bind, Work.exec_fail, Prod.mk.injEq] at h
    exact .inl h.1.2.symm
  split at h
  · simp only [Work.exec_bind, Work.exec_fail, Prod.mk.injEq] at h
    exact .inl h.1.2.symm
  rename_i hfind
  -- no mutation has an id below one
  have hpos : ∀ m ∈ req.sorted, 1 ≤ m.id := by
    intro m hm
    have hnone : (req.sorted.find? fun x => decide (x.id < 1)) = none := by
      cases hf : req.sorted.find? fun x => decide (x.id < 1) with
      | none => rfl
      | some bad => exact absurd hf (hfind bad)
    simpa using List.find?_eq_none.1 hnone m hm
  simp only [Work.exec_bind] at h
  rcases hp : (processAll req req.sorted 0 []).exec d amb with ⟨⟨_ | x, d₁⟩, amb₁⟩ <;>
    rw [PushRequest.sorted] at hp <;> rw [hp] at h
  · simp only [Prod.mk.injEq] at h
    obtain ⟨⟨-, rfl⟩, -⟩ := h
    exact .inr ⟨hpos, _, _, rfl⟩
  · -- what follows the mutations only reads
    obtain rfl : d' = d₁ := Work.Keeps.eq (by
      split
      · refine Work.Keeps.bind (Work.Keeps.atomically_read _ _) fun c => ?_
        split <;> exact Work.Keeps.bind (Work.Keeps.pure _) fun _ =>
          Work.Keeps.bind Work.Keeps.atomically_currentVersion fun _ => Work.Keeps.pure _
      · exact Work.Keeps.bind (Work.Keeps.pure _) fun _ =>
          Work.Keeps.bind Work.Keeps.atomically_currentVersion fun _ => Work.Keeps.pure _) h
    exact .inr ⟨hpos, _, _, rfl⟩

/-- **Every push replays its sorted mutations**, whatever it answers. -/
theorem push_replays {n : Nat} {d d' : Database} {amb amb' : Ambient}
    {r : Except Failure PushReport} (h : (push n req).exec d amb = ((r, d'), amb')) :
    ∃ cs, Replays req d req.sorted d' cs := by
  rcases push_stores h with rfl | ⟨hpos, _, _, hp⟩
  · exact ⟨[], .refl _ _⟩
  · exact processAll_replays hpos hp

/-- **Version accounting of a push.** Whatever a push answers, the store version rises by
exactly as much as the pushing client's last applied mutation id. -/
theorem push_version_rise_eq_lastId_rise (n : Nat) (req : PushRequest) (d : Database)
    (amb : Ambient) :
    ((push n req).leaves d amb).1.version - d.version =
      ((push n req).leaves d amb).1.lastId req.clientId - d.lastId req.clientId := by
  rcases hx : (push n req).exec d amb with ⟨⟨r, d'⟩, amb'⟩
  obtain ⟨cs, h⟩ := push_replays hx
  simp only [Work.leaves, hx, h.version, h.lastId, ↓reduceIte]
  ring

end Sync

end ReadLater
