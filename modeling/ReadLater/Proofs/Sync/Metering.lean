import Mathlib
import ReadLater.Proofs.Store.Frames

/-!
# What a push counts

A push counts every mutation it processes in the metrics, by outcome: a duplicate, an applied or
a rejected mutation; and it counts the request to resynchronise that stops it. The counts are
taken inside transactions that may still fail (a duplicate is counted before its client is
stamped) and, for a rejection, only after a second transaction. This module reads them against
the ledger of the store.

* `Tally.count`, `Tally.count_bump`: the count of a label value, and what a bump adds to it;
* `Sync.duplicatesFrom`: the ledger's own reading of a push, from the client's last applied id:
  an id at or below it is a duplicate, the next id moves it on, and an id past the next stops
  the push;
* `Sync.Counted`: what work counts against the ledger of one client: one applied or rejected
  mutation per step of the client's last applied id, one resync per answer asking for one, and,
  unless a fault stops it, a given number of duplicates;
* `Sync.firstAttempt_counts`, `Sync.process_counts`, `Sync.processAll_counts`: what the
  transactions of one mutation, and of a run of them, count;
* **`Sync.push_counts`**: a push counts one applied or rejected mutation per step of its client's
  last applied id, and moves no other client's; it counts a resync exactly when it answers one,
  and, unless a fault stops it, the duplicates the ledger reads in it.
-/

namespace ReadLater

open Clock Store Std.Do

set_option mvcgen.warning false

/-! ## Tallies -/

/-- The count of a label value in a tally; `0` for a value never counted. -/
def Tally.count (t : Tally) (key : String) : Nat := ((t.find? (·.1 == key)).map (·.2)).getD 0

@[simp] theorem Tally.count_bump (t : Tally) (key k : String) (n : Nat) :
    (t.bump key n).count k = t.count k + if k = key then n else 0 := by
  unfold Tally.bump Tally.count
  split
  · -- the value was counted: its entry grows where it stands
    rename_i hany
    have hp : ((·.1 == k) ∘ fun e : String × Nat => if e.1 == key then (e.1, e.2 + n) else e) =
        (·.1 == k) := by
      funext e
      by_cases he : e.1 = key <;> simp [he]
    rw [List.find?_map, hp]
    by_cases hk : k = key
    · subst hk
      obtain ⟨e, he⟩ := Option.isSome_iff_exists.1 (List.find?_isSome.2 (List.any_eq_true.1 hany))
      have he₁ : e.1 = k := by simpa using List.find?_some he
      simp [he, he₁]
    · cases hf : t.find? (·.1 == k) with
      | none => simp [hk]
      | some e =>
        have he₁ : e.1 = k := by simpa using List.find?_some hf
        simp [he₁, hk]
  · -- a new value goes after the others
    rename_i hany
    rw [List.find?_append]
    by_cases hk : k = key
    · subst hk
      have hnone : t.find? (·.1 == k) = none :=
        List.find?_eq_none.2 fun e he h => hany (List.any_eq_true.2 ⟨e, he, h⟩)
      simp [hnone]
    · cases hf : t.find? (·.1 == k) <;> simp [hk, Ne.symm hk]

/-- The metrics with one more mutation counted with an outcome. -/
def Metrics.addMutation (M : Metrics) (outcome : String) : Metrics :=
  { M with mutations := M.mutations.bump outcome }

/-- The mutations the metrics count as settled by the ledger: applied or rejected. -/
def Metrics.settled (M : Metrics) : Nat :=
  M.mutations.count "applied" + M.mutations.count "rejected"

@[simp] theorem Metrics.addMutation_mutations (M : Metrics) (k : String) :
    (M.addMutation k).mutations = M.mutations.bump k := rfl

@[simp] theorem Metrics.addMutation_ingested (M : Metrics) (k : String) :
    (M.addMutation k).ingested = M.ingested := rfl

@[simp] theorem Metrics.addMutation_resyncs (M : Metrics) (k : String) :
    (M.addMutation k).resyncs = M.resyncs := rfl

/-! ## Answers and the ledger's reading of a push -/

/-- An answer that is no fault: a value, or a failure that names a problem. -/
def Faultless {α : Type} (r : Except Failure α) : Prop := ∀ f, r = .error f → f.problem? ≠ none

namespace Sync

/-- Whether an answer asks the client to resynchronise. -/
def asksResync {α : Type} : Except Failure α → Bool
  | .error f => Failure.isResync f
  | .ok _ => false

/-- Whether the push's client is unknown to the store, or registered in the push's group. -/
def PushRequest.inGroup (req : PushRequest) (d : Database) : Bool :=
  match d.clients.find? (·.id == req.clientId) with
  | some cl => cl.groupId == req.groupId
  | none => true

/-- The duplicates among mutation ids taken in order from a client's last applied id `last`: an
id at or below it is a duplicate, the next id moves it on, and an id past the next stops the
pass. -/
def duplicatesFrom : Int → List Int → Nat
  | _, [] => 0
  | last, id :: ids =>
    if id ≤ last then duplicatesFrom last ids + 1
    else if id = last + 1 then duplicatesFrom id ids
    else 0

example : duplicatesFrom 2 [1, 2, 3, 3, 4, 6, 7] = 3 := by decide

/-- The duplicates the ledger of `d` reads in a push: none when the request breaks an input rule
or its client is registered in another group, and otherwise those of its sorted mutation ids
from the client's last applied id. -/
def PushRequest.duplicates (n : Nat) (d : Database) (req : PushRequest) : Nat :=
  if req.Invalid n then 0
  else if req.inGroup d then duplicatesFrom (d.lastId req.clientId) (req.sorted.map (·.id))
  else 0

/-! ## What work counts -/

/-- What work that answers `r` counts, from the store `d` and the metrics `M` to `d'` and `M'`,
against the ledger of the client `c`: no ingested item; one resync exactly when the answer asks
for one; one applied or rejected mutation per step of the client's last applied id; and, unless
a fault stops the work, `dups` duplicates. -/
structure Counted (c : String) (d d' : Database) (M M' : Metrics) {α : Type}
    (r : Except Failure α) (dups : Nat) : Prop where
  ingested : M'.ingested = M.ingested
  resyncs : M'.resyncs = M.resyncs + if asksResync r then 1 else 0
  settled : (M'.settled : Int) - M.settled = d'.lastId c - d.lastId c
  duplicates : Faultless r → M'.mutations.count "duplicate" = M.mutations.count "duplicate" + dups

namespace Counted

variable {c : String} {d d₁ d' : Database} {M M₁ M' : Metrics}

/-- Work that changes neither the store nor the metrics, and asks for no resync. -/
theorem refl {α : Type} {r : Except Failure α} (hr : asksResync r = false) : Counted c d d M M r 0 :=
  ⟨rfl, by simp [hr], by simp, fun _ => rfl⟩

/-- Work that succeeds, and more work after it. -/
theorem trans {α β : Type} {x : α} {r : Except Failure β} {n₁ n₂ : Nat}
    (h₁ : Counted c d d₁ M M₁ (.ok x : Except Failure α) n₁) (h₂ : Counted c d₁ d' M₁ M' r n₂) :
    Counted c d d' M M' r (n₁ + n₂) where
  ingested := h₂.ingested.trans h₁.ingested
  resyncs := by rw [h₂.resyncs, h₁.resyncs]; simp [asksResync]
  settled := by have := h₁.settled; have := h₂.settled; omega
  duplicates hr := by rw [h₂.duplicates hr, h₁.duplicates fun _ h => by cases h]; omega

/-- What is counted reads the answer only for whether it asks for a resync and whether it is a
fault. -/
theorem answer {α β : Type} {r : Except Failure α} {r' : Except Failure β} {n : Nat}
    (h : Counted c d d' M M' r n) (hres : asksResync r' = asksResync r)
    (hfl : Faultless r' → Faultless r) : Counted c d d' M M' r' n :=
  { h with resyncs := hres ▸ h.resyncs, duplicates := fun hr => h.duplicates (hfl hr) }

/-- A failure is counted alike whatever the work would have returned. -/
theorem error {α β : Type} {f : Failure} {n : Nat}
    (h : Counted c d d' M M' (.error f : Except Failure α) n) :
    Counted c d d' M M' (.error f : Except Failure β) n :=
  h.answer rfl fun hfl f' hf' => by cases hf'; exact hfl f rfl

/-- The duplicates counted are what they are whenever no fault stops the work. -/
theorem congr_dups {α : Type} {r : Except Failure α} {n n' : Nat} (h : Counted c d d' M M' r n)
    (hn : Faultless r → n = n') : Counted c d d' M M' r n' :=
  { h with duplicates := fun hr => hn hr ▸ h.duplicates hr }

end Counted

/-! ## The first transaction of a mutation -/

variable {req : PushRequest}

/-- Counting a mutation's outcome, with metering on. -/
theorem countMutation_run (k : String) {amb : Ambient} (hmet : amb.metering = true) :
    ((countMutation k).run amb).run = ((), { amb with metrics := amb.metrics.addMutation k }) := by
  simp [countMutation, record, hmet, Metrics.addMutation]

theorem countMutation_exec (k : String) (s : TxnState) {amb : Ambient} (hmet : amb.metering = true) :
    (Txn.ambient (countMutation k)).exec s amb =
      (.ok ((), s), { amb with metrics := amb.metrics.addMutation k }) := by
  rw [Txn.exec_ambient, countMutation_run k hmet]

theorem Failure.isResync_of_fault {f : Failure} (h : f.problem? = none) : Failure.isResync f = false := by
  simp [Failure.isResync, h]

/-- Loading the client keeps the metrics; the client it loads has the store's last applied id,
and it fails only on a fault or for a client registered in another group. -/
theorem loadClient_counts (req : PushRequest) (d : Database) (M : Metrics) (b : Bool) :
    ⦃fun s a => ⌜s.db = d ∧ a.metrics = M ∧ a.metering = b⌝⦄ loadClient req
    ⦃post⟨fun cl _ a => ⌜cl.lastMutationId = d.lastId req.clientId ∧ a.metrics = M ∧ a.metering = b⌝,
      fun f a => ⌜a.metrics = M ∧ a.metering = b ∧ (f.problem? = none ∨
        f = .problem (.clientGroupMismatch req.clientId) ∧ req.inGroup d = false)⌝⟩⦄ := by
  mvcgen [loadClient, Txn.read, Txn.write, Txn.now, Txn.ambient, readClock, Txn.fail]
  · -- a client registered in another group
    rename_i _ _ h _ hread _ hcl _ hg
    subst hcl
    obtain ⟨rfl, hM, hb⟩ := h
    refine ⟨hM, hb, .inr ⟨trivial, ?_⟩⟩
    simp only [PushRequest.inGroup, ← Database.clientById_ok hread]
    simpa using hg
  · rename_i _ _ h _ hread _ hcl _ _
    subst hcl
    obtain ⟨rfl, hM, hb⟩ := h
    exact ⟨(Database.lastId_of_find (Database.clientById_ok hread).symm).symm, hM, hb⟩
  · rename_i _ _ h _ hread hnone _ _ _
    subst hnone
    obtain ⟨rfl, hM, hb⟩ := h
    exact ⟨(Database.lastId_of_find_none (Database.clientById_ok hread).symm).symm, hM, hb⟩
  all_goals simp_all [Failure.problem?]

/-- **What the first transaction of a mutation counts**, with the metrics kept: a duplicate or an
applied mutation when it ends, by the client's last applied id, and nothing when the effect
reports a problem. When it fails it counts nothing, or a duplicate whose client could not be
stamped; and it fails only on a fault, for a client registered in another group, or at a gap. -/
theorem firstAttempt_counts (req : PushRequest) (m : Mutation) (d : Database) (M : Metrics) :
    ⦃fun s a => ⌜s.db = d ∧ a.metrics = M ∧ a.metering = true⌝⦄ firstAttempt req m
    ⦃post⟨fun step _ a => ⌜a.metering = true ∧ a.metrics = match step with
        | .done _ => M.addMutation (if m.id ≤ d.lastId req.clientId then "duplicate" else "applied")
        | .rejected _ => M⌝,
      fun f a => ⌜a.metering = true ∧
        (a.metrics = M ∨ f.problem? = none ∧ a.metrics = M.addMutation "duplicate") ∧
        (f.problem? = none ∨ req.inGroup d = false ∨ d.lastId req.clientId + 1 < m.id)⌝⟩⦄ := by
  refine Txn.triple_iff.2 fun s amb hpre => ?_
  have hl := Txn.triple_iff.1 (loadClient_counts req d M true) s amb hpre
  simp only [firstAttempt, Txn.exec_bind]
  rcases hx : (loadClient req).exec s amb with ⟨f₁ | ⟨cl, s₁⟩, amb₁⟩ <;> rw [hx] at hl
  · -- loading the client failed
    obtain ⟨hM, hb, hf⟩ := hl
    exact ⟨hb, .inl hM, hf.imp_right fun h => .inl h.2⟩
  obtain ⟨hlast, hM, hb⟩ := hl
  dsimp only
  by_cases hle : m.id ≤ cl.lastMutationId
  · -- a duplicate is counted before its client is stamped
    rw [if_pos hle, Txn.exec_bind, countMutation_exec _ _ hb]
    simp only [Txn.exec_bind, Txn.exec_now, Txn.exec_write]
    rcases s₁.db.touchClient cl.id amb₁.clock with e | db <;>
      simp [hM, hb, ← hlast, hle, Failure.problem?]
  rw [if_neg hle]
  by_cases hgap : m.id > cl.lastMutationId + 1
  · rw [if_pos hgap]
    simp only [Txn.exec_bind, Txn.exec_fail]
    exact ⟨hb, .inl hM, .inr (.inr (by omega))⟩
  rw [if_neg hgap]
  simp only [Txn.exec_withTicket, Txn.exec_bind, Txn.exec_tryCatch, Txn.exec_pure]
  obtain ⟨hM', hb'⟩ := (Mutation.run_unmetered m).exec { db := s₁.db } amb₁
  rcases hr : m.run.exec { db := s₁.db } amb₁ with ⟨f | ⟨⟨⟩, s₂⟩, amb₂⟩ <;> rw [hr] at hM' hb' <;>
    dsimp only at hM' hb'
  · -- the effect failed: a problem is a rejection, anything else a fault
    rcases hp : f.problem? with _ | p <;> simp [hp, hM', hb', hM, hb, Failure.wrap, Failure.problem?]
  · -- the effect ran: the applied mutation is counted once the client's progress is recorded
    obtain ⟨hM'', hb''⟩ := (advanceClient_unmetered cl m.id).exec s₂ amb₂
    simp only [Txn.exec_bind]
    rcases ha : (advanceClient cl m.id).exec s₂ amb₂ with ⟨f | ⟨⟨⟩, s₃⟩, amb₃⟩ <;>
      rw [ha] at hM'' hb'' <;> dsimp only at hM'' hb''
    · have hf := Txn.of_triple_fails (advanceClient_fails cl m.id) trivial ha
      simp [hM'', hb'', hM', hb', hM, hb, hf]
    · dsimp only
      rw [countMutation_exec _ _ (by rw [hb'', hb', hb])]
      simp [hM'', hb'', hM', hb', hM, hb, ← hlast, hle]

/-! ## Group membership along a push -/

namespace ClientLoaded

variable {d dE : Database} {cl : Client}

theorem inGroup (h : ClientLoaded req d cl dE) : req.inGroup d = true := by
  cases h with
  | found h hg => simp [PushRequest.inGroup, h, hg]
  | created t h => simp [PushRequest.inGroup, h]

theorem groupId_eq (h : ClientLoaded req d cl dE) : cl.groupId = req.groupId := by
  cases h with
  | found _ hg => exact hg
  | created => rfl

end ClientLoaded

/-- Stamping the client's last contact keeps its group. -/
theorem inGroup_touched (d : Database) (t : Instant) :
    req.inGroup (d.touched req.clientId t) = req.inGroup d := by
  have hp : ((·.id == req.clientId) ∘ fun r : Client =>
      if r.id == req.clientId then { r with lastModified := t } else r) = (·.id == req.clientId) := by
    funext r
    by_cases hr : r.id = req.clientId <;> simp [hr]
  simp only [PushRequest.inGroup, Database.touched, List.find?_map, hp]
  cases d.clients.find? (·.id == req.clientId) with
  | none => rfl
  | some r => by_cases hr : r.id = req.clientId <;> simp [hr]

/-- Recording the progress of a client of the push's group keeps it in the group. -/
theorem inGroup_advanced {d : Database} {cl : Client} (h : cl ∈ d.clients)
    (hid : cl.id = req.clientId) (hg : cl.groupId = req.groupId) (id : Int) (t : Instant) (V : Int) :
    req.inGroup (d.advanced cl id t V) = true := by
  have hany : d.clients.any (·.id ==
      ({ cl with lastMutationId := id, lastModified := t, version := V + 1 } : Client).id) :=
    List.any_eq_true.2 ⟨cl, h, by simp⟩
  have hfind := find?_replaceById_self hany
  simp only [PushRequest.inGroup, Database.advanced, ← hid]
  simp only at hfind
  erw [hfind]
  simp [hg]

namespace Processed

variable {m : Mutation} {d d' : Database} {last : Int} {p : Option Problem}

/-- A mutation is processed only for a client of the push's group, or a new one. -/
theorem inGroup_before (hp : Processed req m d (.ok (last, p)) d') : req.inGroup d = true := by
  cases hp with
  | duplicate t hfind hg hle => simp [PushRequest.inGroup, hfind, hg]
  | committed hnext hc =>
    cases hc with
    | applied t hload hV hrun => exact hload.inGroup
    | rejected t hrej hload hV => exact hload.inGroup

/-- After a processed mutation the client is stored in the push's group. -/
theorem inGroup_after (hp : Processed req m d (.ok (last, p)) d') : req.inGroup d' = true := by
  cases hp with
  | duplicate t hfind hg hle =>
    rw [inGroup_touched]
    simp [PushRequest.inGroup, hfind, hg]
  | committed hnext hc =>
    cases hc with
    | applied t hload hV hrun =>
      have hconf := Txn.of_triple (Mutation.run_confined ⟨_, {}⟩ m) (Confined.refl _) hrun
      exact inGroup_advanced (hconf.clients ▸ hload.mem) hload.id_eq hload.groupId_eq _ _ _
    | rejected t hrej hload hV => exact inGroup_advanced hload.mem hload.id_eq hload.groupId_eq _ _ _

/-- A rejected mutation is the client's next one. -/
theorem rejected_next {q : Problem} (hp : Processed req m d (.ok (last, some q)) d') :
    m.id = d.lastId req.clientId + 1 := by
  cases hp with
  | committed hnext hc => exact hnext

/-- A processed mutation moves the client's last applied id one step when its id is past it,
and not at all when it is a duplicate. -/
theorem lastId_rise (hp : Processed req m d (.ok (last, p)) d') :
    d'.lastId req.clientId - d.lastId req.clientId = if m.id ≤ d.lastId req.clientId then 0 else 1 := by
  cases hp with
  | duplicate t hfind hg hle =>
    rw [Database.lastId_touched, Database.lastId_of_find hfind, if_pos hle, sub_self]
  | committed hnext hc =>
    rw [hc.lastId, if_pos rfl, if_neg (by omega)]
    omega

/-- The ledger's reading of the mutations from one processed mutation on: its own duplicate, and
those of the rest from the client's last applied id after it. -/
theorem duplicatesFrom_cons (hp : Processed req m d (.ok (last, p)) d') (ids : List Int) :
    duplicatesFrom (d.lastId req.clientId) (m.id :: ids) =
      (if m.id ≤ d.lastId req.clientId then 1 else 0) + duplicatesFrom (d'.lastId req.clientId) ids := by
  cases hp with
  | duplicate t hfind hg hle =>
    rw [Database.lastId_touched, Database.lastId_of_find hfind]
    simp [duplicatesFrom, hle, Nat.add_comm]
  | committed hnext hc =>
    rw [hc.lastId, if_pos rfl, hnext]
    simp [duplicatesFrom]

end Processed


/-! ## Processing a mutation -/

/-- The second transaction of a rejected mutation records nothing in the metrics, and fails only
on a fault or for a client registered in another group, never with a resync. -/
theorem recordRejection_counts (req : PushRequest) (m : Mutation) (d : Database) (M : Metrics) :
    ⦃fun s a => ⌜s.db = d ∧ a.metrics = M ∧ a.metering = true⌝⦄
      Txn.withTicket (do
        let c ← loadClient req
        advanceClient c m.id)
    ⦃post⟨fun _ _ a => ⌜a.metrics = M ∧ a.metering = true⌝,
      fun f a => ⌜a.metrics = M ∧ a.metering = true ∧ Failure.isResync f = false ∧
        (f.problem? = none ∨ req.inGroup d = false)⌝⟩⦄ := by
  refine Txn.triple_iff.2 fun s amb ⟨hs, hM, hb⟩ => ?_
  simp only [Txn.exec_withTicket, Txn.exec_bind]
  have hl := Txn.triple_iff.1 (loadClient_counts req d M true) { s with ticket := {} } amb
    ⟨hs, hM, hb⟩
  rcases hx : (loadClient req).exec { s with ticket := {} } amb with ⟨f | ⟨cl, s₁⟩, amb₂⟩ <;>
    rw [hx] at hl
  · -- loading the client failed on a fault or a client of another group
    obtain ⟨hM₂, hb₂, hcls⟩ := hl
    refine ⟨hM₂, hb₂, ?_, hcls.imp_right (·.2)⟩
    rcases hcls with h | ⟨rfl, -⟩
    · exact Failure.isResync_of_fault h
    · simp [Failure.isResync, Failure.problem?]
  · obtain ⟨-, hM₂, hb₂⟩ := hl
    obtain ⟨hM₃, hb₃⟩ := (advanceClient_unmetered cl m.id).exec s₁ amb₂
    dsimp only
    rcases ha : (advanceClient cl m.id).exec s₁ amb₂ with ⟨f | ⟨⟨⟩, s₃⟩, amb₃⟩ <;>
      rw [ha] at hM₃ hb₃ <;> dsimp only at hM₃ hb₃ ⊢
    · -- recording the id failed on a fault
      have hfault := Txn.of_triple_fails (advanceClient_fails cl m.id) trivial ha
      exact ⟨hM₃.trans hM₂, hb₃.trans hb₂, Failure.isResync_of_fault hfault, .inl hfault⟩
    · exact ⟨hM₃.trans hM₂, hb₃.trans hb₂⟩

/-- **What processing a mutation counts**, with the metrics kept: against the client's ledger, a
duplicate when it ends at an id at or below the client's last applied one. A failure stores
nothing, and comes from a fault, from a client registered in another group, or from a gap. -/
theorem process_counts {m : Mutation} {d d' : Database} {amb amb' : Ambient}
    {r : Except Failure (Int × Option Problem)} (hm : 1 ≤ m.id) (hmet : amb.metering = true)
    (h : (process req m).exec d amb = ((r, d'), amb')) :
    amb'.metering = true ∧
    Counted req.clientId d d' amb.metrics amb'.metrics r
      (if r.isOk ∧ m.id ≤ d.lastId req.clientId then 1 else 0) ∧
    ∀ f, r = .error f →
      f.problem? = none ∨ req.inGroup d = false ∨ d.lastId req.clientId + 1 < m.id := by
  have hproc := process_processed hm h
  simp only [process, Work.exec_bind, Work.exec_get, Work.exec_attempt] at h
  have hfa := Txn.triple_iff.1 (firstAttempt_counts req m d amb.metrics) ⟨d, {}⟩ amb
    ⟨rfl, rfl, hmet⟩
  rcases hf : (firstAttempt req m).exec ⟨d, {}⟩ amb with ⟨f | ⟨step, s⟩, amb₁⟩ <;>
    rw [hf] at hfa <;> simp only [hf] at h
  · -- the first transaction failed and stored nothing; a resync is counted when asked for
    obtain ⟨hb₁, hM₁, hcls⟩ := hfa
    have hd : (r = .error f ∧ d' = d) ∧ amb'.metering = true ∧ amb'.metrics =
        { amb₁.metrics with resyncs := amb₁.metrics.resyncs + if Failure.isResync f then 1 else 0 } := by
      split at h <;> simp [Work.exec_bind, record, hb₁] at h <;>
        obtain ⟨⟨rfl, rfl⟩, rfl⟩ := h <;> simp_all
    obtain ⟨⟨rfl, rfl⟩, hb', hM'⟩ := hd
    refine ⟨hb', ⟨?_, ?_, ?_, fun hfl => ?_⟩, fun f' hf' => by cases hf'; exact hcls⟩
    · rcases hM₁ with hM₁ | ⟨-, hM₁⟩ <;> simp [hM', hM₁]
    · rcases hM₁ with hM₁ | ⟨-, hM₁⟩ <;> simp [hM', hM₁, asksResync] <;> rfl
    · rcases hM₁ with hM₁ | ⟨-, hM₁⟩ <;> simp [hM', hM₁, Metrics.settled]
    · -- a duplicate counted before a fault is ruled out
      rcases hM₁ with hM₁ | ⟨hnone, -⟩
      · simp [hM', hM₁, Except.isOk, Except.toBool]
      · exact absurd hnone (hfl f rfl)
  · cases step with
    | done last =>
      -- the first transaction committed a duplicate's stamp or an applied mutation
      obtain ⟨hb₁, hM₁⟩ := hfa
      simp only [Work.exec_pure, Prod.mk.injEq] at h
      obtain ⟨⟨rfl, rfl⟩, rfl⟩ := h
      have hrise := hproc.lastId_rise
      refine ⟨hb₁, ⟨by simp [hM₁], by simp [hM₁, asksResync], ?_, fun _ => ?_⟩,
        fun f hf => by cases hf⟩
      · rw [hrise, hM₁]
        split_ifs <;> simp [Metrics.settled]
      · rw [hM₁]
        split_ifs <;> simp_all [Except.isOk, Except.toBool]
    | rejected p =>
      -- the first transaction is dropped, and a second one records the id
      obtain ⟨hb₁, hM₁⟩ := hfa
      simp only [Work.exec_bind, Work.exec_set, Work.exec_atomically] at h
      have hsec := Txn.triple_iff.1 (recordRejection_counts req m d amb₁.metrics) ⟨d, {}⟩ amb₁
        ⟨rfl, rfl, hb₁⟩
      rcases hx : (Txn.withTicket (do
          let c ← loadClient req
          advanceClient c m.id)).exec ⟨d, {}⟩ amb₁ with ⟨f | ⟨⟨⟩, s₂⟩, amb₂⟩ <;>
        rw [hx] at hsec <;> simp only [hx] at h
      · -- the second transaction failed and stored nothing
        obtain ⟨hM₂, hb₂, hres, hcls⟩ := hsec
        simp only [Prod.mk.injEq] at h
        obtain ⟨⟨rfl, rfl⟩, rfl⟩ := h
        refine ⟨hb₂, ⟨by simp [hM₂, hM₁], by simp [hM₂, hM₁, asksResync, hres],
          by simp [hM₂, hM₁], fun _ => by simp [hM₂, hM₁, Except.isOk, Except.toBool]⟩,
          fun f' hf' => ?_⟩
        cases hf'
        exact hcls.imp_right .inl
      · -- the id is recorded, and then the rejection counted
        obtain ⟨hM₂, hb₂⟩ := hsec
        simp only [Work.exec_ambient, countMutation_run _ hb₂, Work.exec_pure, Prod.mk.injEq] at h
        obtain ⟨⟨rfl, rfl⟩, rfl⟩ := h
        have hnext := hproc.rejected_next
        have hrise := hproc.lastId_rise
        rw [if_neg (by omega)] at hrise
        refine ⟨hb₂, ⟨by simp [hM₂, hM₁], by simp [hM₂, hM₁, asksResync], ?_, fun _ => ?_⟩,
          fun f' hf' => by cases hf'⟩
        · rw [hrise]
          simp [hM₂, hM₁, Metrics.settled]
        · simp [hM₂, hM₁]
          omega

/-! ## A run of mutations -/

/-- **What a run of mutations counts**: against the client's ledger, the duplicates the ledger
reads in the run from the client's last applied id, for a client of the push's group. -/
theorem processAll_counts {ms : List Mutation} (hpos : ∀ m ∈ ms, 1 ≤ m.id) {a : Int}
    {rs : List MutationRejection} {d d' : Database} {amb amb' : Ambient}
    {r : Except Failure (Int × List MutationRejection)} (hmet : amb.metering = true)
    (h : (processAll req ms a rs).exec d amb = ((r, d'), amb')) :
    amb'.metering = true ∧ Counted req.clientId d d' amb.metrics amb'.metrics r
      (if req.inGroup d then duplicatesFrom (d.lastId req.clientId) (ms.map (·.id)) else 0) := by
  induction ms generalizing a rs d amb with
  | nil =>
    simp only [processAll, Work.exec_pure, Prod.mk.injEq] at h
    obtain ⟨⟨rfl, rfl⟩, rfl⟩ := h
    exact ⟨hmet, (Counted.refl rfl).congr_dups fun _ => by simp [duplicatesFrom]⟩
  | cons m rest ih =>
    simp only [processAll, Work.exec_bind] at h
    rcases hp : (process req m).exec d amb with ⟨⟨f | ⟨last, rej⟩, d₁⟩, amb₁⟩ <;> rw [hp] at h
    · -- processing failed, and the run stops with its failure
      simp only [Prod.mk.injEq] at h
      obtain ⟨⟨rfl, rfl⟩, rfl⟩ := h
      obtain ⟨hb₁, hc, hcls⟩ := process_counts (hpos m (by simp)) hmet hp
      refine ⟨hb₁, hc.error.congr_dups fun hfl => ?_⟩
      -- a failure that is no fault comes from another group or a gap: no duplicate either way
      rcases hcls f rfl with hnone | hg | hgap
      · exact absurd hnone (hfl f rfl)
      · simp [hg, Except.isOk, Except.toBool]
      · have hn : ¬ m.id ≤ d.lastId req.clientId := by omega
        have hn' : m.id ≠ d.lastId req.clientId + 1 := by omega
        simp [duplicatesFrom, hn, hn', Except.isOk, Except.toBool]
    · obtain ⟨hb₁, hc₁, -⟩ := process_counts (hpos m (by simp)) hmet hp
      have hproc := process_processed (hpos m (by simp)) hp
      obtain ⟨hb', hc₂⟩ := ih (fun x hx => hpos x (by simp [hx])) hb₁ h
      refine ⟨hb', (hc₁.trans hc₂).congr_dups fun _ => ?_⟩
      rw [hproc.inGroup_before, hproc.inGroup_after, List.map_cons, hproc.duplicatesFrom_cons]
      simp [Except.isOk, Except.toBool]

/-! ## A push -/

/-- **What a push counts**, with the metrics kept. Whatever it answers, it moves no client's last
applied id but its own, and counts one applied or rejected mutation per step of it; it counts a
resync exactly when it answers with one; and, unless a fault stops it, it counts the duplicates
the ledger of the store reads in it. -/
theorem push_counts (n : Nat) (req : PushRequest) {d d' : Database} {amb amb' : Ambient}
    {r : Except Failure PushReport} (hmet : amb.metering = true)
    (h : (push n req).exec d amb = ((r, d'), amb')) :
    amb'.metering = true ∧ (∀ x, x ≠ req.clientId → d'.lastId x = d.lastId x) ∧
      Counted req.clientId d d' amb.metrics amb'.metrics r (req.duplicates n d) := by
  obtain ⟨cs, hrep⟩ := push_replays h
  have hothers : ∀ x, x ≠ req.clientId → d'.lastId x = d.lastId x := fun x hx => by
    rw [hrep.lastId, if_neg hx]
  rcases em (req.Invalid n) with hinv | hval
  · -- a request that breaks an input rule is refused before anything runs
    obtain ⟨reason, hr⟩ := @push_invalid req n d amb hinv
    rw [hr] at h
    simp only [Prod.mk.injEq] at h
    obtain ⟨⟨rfl, rfl⟩, rfl⟩ := h
    exact ⟨hmet, hothers, (Counted.refl (by simp [asksResync, Failure.isResync, Failure.problem?])).congr_dups
      fun _ => by simp [PushRequest.duplicates, hinv]⟩
  obtain ⟨h₁, h₂, h₃⟩ := PushRequest.checks_of_valid hval
  simp only [push, h₁, h₂, h₃, Bool.false_eq_true, ↓reduceIte, Work.exec_bind] at h
  rcases hp : (processAll req req.sorted 0 []).exec d amb with ⟨⟨f | ⟨applied, rs⟩, d₁⟩, amb₁⟩ <;>
    have hc := processAll_counts (PushRequest.sorted_pos hval) hmet hp <;>
    rw [PushRequest.sorted] at hp <;> rw [hp] at h
  · -- the run failed, and the push with it
    simp only [Prod.mk.injEq] at h
    obtain ⟨⟨rfl, rfl⟩, rfl⟩ := h
    obtain ⟨hb₁, hc⟩ := hc
    exact ⟨hb₁, hothers, hc.error.congr_dups fun _ => by simp [PushRequest.duplicates, hval]⟩
  · obtain ⟨hb₁, hc⟩ := hc
    dsimp only at h
    -- what follows the run reads the client and the version, and fails only on a fault
    have hanswer : ∀ (a : Int) {r' : Except Failure PushReport} {d'' : Database} {amb'' : Ambient},
        (Work.atomically Txn.currentVersion >>= fun v => pure (⟨a, v, rs⟩ : PushReport)).exec d₁
          amb₁ = ((r', d''), amb'') → d'' = d₁ ∧
          (amb''.metrics = amb₁.metrics ∧ amb''.metering = amb₁.metering) ∧
          ∀ f, r' = .error f → f.problem? = none := by
      intro a r' d'' amb'' hx
      obtain ⟨rfl, -, hf⟩ := exec_answer a rs hx
      refine ⟨rfl, ?_, hf⟩
      have hv := (Txn.currentVersion_unmetered).exec ⟨d'', {}⟩ amb₁
      simp only [Work.exec_bind, Work.exec_atomically] at hx
      rcases hcv : Txn.currentVersion.exec ⟨d'', {}⟩ amb₁ with ⟨f | ⟨v, s⟩, amb₂⟩ <;>
        rw [hcv] at hv hx <;> simp only [Work.exec_pure, Prod.mk.injEq] at hx <;>
        obtain ⟨-, rfl⟩ := hx <;> exact hv
    have htail : d' = d₁ ∧ (amb'.metrics = amb₁.metrics ∧ amb'.metering = amb₁.metering) ∧
        ∀ f, r = .error f → f.problem? = none := by
      split at h
      · simp only [Work.exec_bind, Work.exec_atomically, Txn.exec_read] at h
        rcases hcl : d₁.clientById req.clientId with e | cl <;> simp only [hcl] at h
        · simp only [Prod.mk.injEq] at h
          obtain ⟨⟨rfl, rfl⟩, rfl⟩ := h
          exact ⟨rfl, ⟨rfl, rfl⟩, fun f hf => by cases hf; simp [Failure.problem?]⟩
        · cases cl <;> simp only [pure_bind] at h <;> exact hanswer _ h
      · rw [pure_bind] at h
        exact hanswer _ h
    obtain ⟨rfl, ⟨hM', hb'⟩, hfault⟩ := htail
    have hres : asksResync r = asksResync (.ok (applied, rs) : Except Failure _) := by
      cases r with
      | ok => rfl
      | error f => simp [asksResync, Failure.isResync_of_fault (hfault f rfl)]
    refine ⟨hb'.trans hb₁, hothers, ?_⟩
    rw [hM']
    exact (hc.answer hres fun _ _ h => by cases h).congr_dups
      fun _ => by simp [PushRequest.duplicates, hval]

end Sync

end ReadLater
