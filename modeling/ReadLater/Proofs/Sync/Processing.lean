import Mathlib
import ReadLater.Proofs.Confinement
import ReadLater.Sync.Ledger

/-!
# Processing one mutation of a push

Each mutation of a push is processed in transactions of its own. This module says, once, what
that leaves in the store:

* `ClientLoaded`: the client row a push works with, found in its group or created with no
  progress;
* `Commits`: the commit of the next mutation, its effect with the client's progress, or the
  progress alone when the effect reported a problem;
* **`process_processed`**: processing a mutation with a positive id commits nothing, or only
  stamps a duplicate's client, or commits the client's next mutation (`Processed`).
-/

namespace ReadLater

open Clock Store Std.Do

namespace Store.Database

/-- The store with the last contact of a client stamped. -/
def touched (d : Database) (c : String) (t : Instant) : Database :=
  { d with clients := d.clients.map fun r => if r.id == c then { r with lastModified := t } else r }

/-- The store with a client's progress recorded at the version after `V`, and the counter moved
there. -/
def advanced (d : Database) (cl : Client) (id : Int) (t : Instant) (V : Int) : Database :=
  { d with
    clients := replaceById (·.id)
      { cl with lastMutationId := id, lastModified := t, version := V + 1 } d.clients
    counter := some (V + 1) }

theorem lastId_touched (d : Database) (c : String) (t : Instant) (x : String) :
    (d.touched c t).lastId x = d.lastId x :=
  lastId_touchClient x

theorem lastId_advanced {d : Database} {cl : Client} (h : cl ∈ d.clients)
    (id : Int) (t : Instant) (V : Int) (x : String) :
    (d.advanced cl id t V).lastId x = if x = cl.id then id else d.lastId x :=
  @lastId_saveClient d { cl with lastMutationId := id, lastModified := t, version := V + 1 }
    (List.any_eq_true.2 ⟨cl, h, by simp⟩) x

end Store.Database

namespace Sync

/-- The client row a push works with, and the store holding it: the row stored under the push's
client id when it belongs to the push's group, or a new row with no progress, added. -/
inductive ClientLoaded (req : PushRequest) (d : Database) : Client → Database → Prop
  | found {cl : Client} (h : d.clients.find? (·.id == req.clientId) = some cl)
      (hg : cl.groupId = req.groupId) : ClientLoaded req d cl d
  | created (t : Instant) (h : d.clients.find? (·.id == req.clientId) = none) :
      ClientLoaded req d ⟨req.clientId, req.groupId, 0, t, 0⟩
        { d with clients := d.clients ++ [⟨req.clientId, req.groupId, 0, t, 0⟩] }

/-- The effect of a mutation, run from the store with the push's client loaded, reports a
problem. -/
def Rejects (req : PushRequest) (m : Mutation) (d : Database) (p : Problem) : Prop :=
  ∃ (cl : Client) (dE : Database) (f : Failure) (amb amb' : Ambient), ClientLoaded req d cl dE ∧
    m.run.exec ⟨dE, {}⟩ amb = (.error f, amb') ∧ f.problem? = some p

/-- The commit of a client's next mutation from the store before it: the mutation's effect with
the client's progress, or, when the effect reported a problem, the progress alone. -/
inductive Commits (req : PushRequest) (m : Mutation) (d : Database) :
    Option Problem → Database → Prop
  | applied {cl : Client} {dE : Database} {s : TxnState} {amb amb' : Ambient} {V : Int}
      (t : Instant) (hload : ClientLoaded req d cl dE) (hV : d.counter = some V)
      (hrun : m.run.exec ⟨dE, {}⟩ amb = (.ok ((), s), amb')) :
      Commits req m d none (s.db.advanced cl m.id t V)
  | rejected {cl : Client} {dE : Database} {p : Problem} {V : Int} (t : Instant)
      (hrej : Rejects req m d p) (hload : ClientLoaded req d cl dE) (hV : d.counter = some V) :
      Commits req m d (some p) (dE.advanced cl m.id t V)

/-- What processing one mutation of a push leaves in the store, with its outcome: nothing, a
duplicate's stamp on its client, or the commit of the client's next mutation. -/
inductive Processed (req : PushRequest) (m : Mutation) (d : Database) :
    Except Failure (Int × Option Problem) → Database → Prop
  | dropped (f : Failure) : Processed req m d (.error f) d
  | duplicate {cl : Client} (t : Instant) (h : d.clients.find? (·.id == req.clientId) = some cl)
      (hg : cl.groupId = req.groupId) (hle : m.id ≤ cl.lastMutationId) :
      Processed req m d (.ok (cl.lastMutationId, none)) (d.touched req.clientId t)
  | committed {p : Option Problem} {d' : Database} (hnext : m.id = d.lastId req.clientId + 1)
      (h : Commits req m d p d') : Processed req m d (.ok (m.id, p)) d'

set_option mvcgen.warning false

variable {req : PushRequest}

/-! ## Loading the client -/

namespace ClientLoaded

variable {d dE : Database} {cl : Client}

theorem lastId_of_ne (h : ClientLoaded req d cl dE) {x : String} (hx : x ≠ req.clientId) :
    dE.lastId x = d.lastId x := by
  cases h with
  | found => rfl
  | created t h =>
    simp [@Database.lastId_insertClient d ⟨req.clientId, req.groupId, 0, t, 0⟩ h, hx]

theorem id_eq (h : ClientLoaded req d cl dE) : cl.id = req.clientId := by
  cases h with
  | found h => simpa using List.find?_some h
  | created => rfl

theorem lastId_eq (h : ClientLoaded req d cl dE) : d.lastId req.clientId = cl.lastMutationId := by
  cases h with
  | found h => exact Database.lastId_of_find h
  | created _ h => exact Database.lastId_of_find_none h

theorem mem (h : ClientLoaded req d cl dE) : cl ∈ dE.clients := by
  cases h with
  | found h => exact List.mem_of_find?_eq_some h
  | created => simp

theorem counter_eq (h : ClientLoaded req d cl dE) : dE.counter = d.counter := by
  cases h <;> rfl

end ClientLoaded

theorem loadClient_loads (s₀ : TxnState) :
    ⦃fun s _ => ⌜s = s₀⌝⦄ loadClient req
    ⦃⇓? cl s _ => ⌜s.ticket = s₀.ticket ∧ ClientLoaded req s₀.db cl s.db⌝⦄ := by
  mvcgen [loadClient, Txn.read, Txn.write, Txn.now, Txn.ambient, readClock, Txn.fail]
  · rename_i hs _ hread cl hcl _ hg
    subst hs hcl
    refine ⟨rfl, .found ?_ (by simpa using hg)⟩
    rw [← Database.clientById_ok hread]
  · rename_i amb hs _ hread hnone _ _ hw
    subst hs hnone
    rw [Database.insertClient_ok hw]
    exact ⟨rfl, .created amb.clock (Database.clientById_ok hread).symm⟩

/-! ## Recording the client's progress -/

/-- Recording a client's progress, from a ticket that is fresh or holds the counter, moves the
counter one step and stamps the client with the new version. -/
theorem advanceClient_exec {cl : Client} {id : Int} {s s' : TxnState} {amb amb' : Ambient}
    (hcur : s.ticket.current = none ∨ s.ticket.current = s.db.counter)
    (h : (advanceClient cl id).exec s amb = (.ok ((), s'), amb')) :
    ∃ V t, s.db.counter = some V ∧ s'.db = s.db.advanced cl id t V := by
  simp only [advanceClient, Txn.exec_bind] at h
  rcases hnv : Txn.nextVersion.exec s amb with ⟨_ | ⟨v, s₁⟩, amb₁⟩ <;> rw [hnv] at h
  · cases h
  obtain ⟨rfl, c, rfl, rfl, hc⟩ := Txn.nextVersion_ok hnv
  have hV : s.db.counter = some c := by
    rcases hc with hc | ⟨_, hc⟩
    · rcases hcur with h0 | h0 <;> rw [h0] at hc
      · cases hc
      · exact hc
    · exact hc
  simp only [Txn.exec_now, Txn.exec_write] at h
  rcases hsave : s.db.saveClient
      { cl with lastMutationId := id, lastModified := amb₁.clock, version := c + 1 } with
    e | db₁ <;> simp only [hsave] at h
  · cases h
  rcases hcv : Txn.commitVersion.exec { db := db₁, ticket := ⟨some c, true⟩ }
      { amb₁ with clock := amb₁.clock.addNanos 1 } with
    ⟨_ | ⟨w, s₂⟩, amb₂⟩ <;> rw [hcv] at h
  · cases h
  simp only [Txn.exec_pure, Prod.mk.injEq, Except.ok.injEq] at h
  obtain ⟨⟨-, rfl⟩, rfl⟩ := h
  obtain ⟨-, c', hc', -, hcommit⟩ := Txn.commitVersion_ok hcv
  obtain rfl := Database.saveClient_ok hsave
  -- the ticket was used, so the counter moved from the value it holds
  rcases hc' with hc' | ⟨hc', _⟩ <;> simp only [Option.some.injEq, reduceCtorEq] at hc'
  subst hc'
  rcases hcommit with ⟨hu, _⟩ | ⟨_, _, hdb, _⟩
  · cases hu
  · exact ⟨c, amb₁.clock, hV, hdb⟩

/-! ## The transactions of one mutation -/

/-- The first transaction of a mutation with a positive id: a duplicate stamps its stored client,
the next mutation commits with its effect, or its effect reports a problem. -/
theorem firstAttempt_exec {m : Mutation} {d : Database} {step : Step} {s' : TxnState}
    {amb amb' : Ambient} (hm : 1 ≤ m.id)
    (h : (firstAttempt req m).exec ⟨d, {}⟩ amb = (.ok (step, s'), amb')) :
    (∀ last, step = .done last → Processed req m d (.ok (last, none)) s'.db) ∧
    (∀ p, step = .rejected p → m.id = d.lastId req.clientId + 1 ∧ Rejects req m d p) := by
  simp only [firstAttempt, Txn.exec_bind] at h
  rcases hl : (loadClient req).exec ⟨d, {}⟩ amb with ⟨_ | ⟨cl, ⟨d₁, tk₁⟩⟩, amb₁⟩ <;> rw [hl] at h
  · cases h
  obtain ⟨htk, hload⟩ := Txn.of_triple (loadClient_loads ⟨d, {}⟩) rfl hl
  have hlast := hload.lastId_eq
  have hid := hload.id_eq
  dsimp only at h htk hload hlast
  subst htk
  split at h
  · -- a duplicate: the client was stored, since a new one has no progress
    rename_i hle
    cases hload with
    | created t hnone => simp only at hle; omega
    | found hfind hg =>
      simp only [Txn.exec_bind, Txn.exec_ambient] at h
      generalize (StateT.run (countMutation "duplicate") amb₁).run.2 = amb₂ at h
      simp only [Txn.exec_now, Txn.exec_write] at h
      rcases hw : d.touchClient cl.id amb₂.clock with e | db₂ <;> simp only [hw] at h
      · cases h
      simp only [Txn.exec_pure, Prod.mk.injEq, Except.ok.injEq] at h
      obtain ⟨⟨rfl, rfl⟩, -⟩ := h
      refine ⟨fun last hlast' => ?_, fun p hp => by cases hp⟩
      cases hlast'
      rw [Database.touchClient_ok hw, hid]
      exact .duplicate _ hfind hg hle
  · split at h
    · simp only [Txn.exec_bind, Txn.exec_fail] at h
      cases h
    · rename_i hle hgap
      have hnext : m.id = d.lastId req.clientId + 1 := by omega
      simp only [Txn.exec_withTicket, Txn.exec_bind, Txn.exec_tryCatch, Txn.exec_pure] at h
      rcases hr : m.run.exec { db := d₁ } amb₁ with ⟨f | ⟨⟨⟩, s₂⟩, amb₂⟩ <;> simp only [hr] at h
      · -- the effect failed: a problem is a rejection, anything else fails the transaction
        rcases hp : f.problem? with _ | p <;> simp only [hp, Txn.exec_throw, Txn.exec_pure] at h
        · cases h
        · simp only [Prod.mk.injEq, Except.ok.injEq] at h
          obtain ⟨⟨rfl, rfl⟩, -⟩ := h
          refine ⟨fun _ h => (by cases h), fun p' hp' => ?_⟩
          cases hp'
          exact ⟨hnext, cl, d₁, f, amb₁, amb₂, hload, hr, hp⟩
      · -- the effect ran: the client's progress commits with it
        simp only [Txn.exec_bind] at h
        rcases ha : (advanceClient cl m.id).exec s₂ amb₂ with ⟨_ | ⟨⟨⟩, s₃⟩, amb₃⟩ <;>
          simp only [ha] at h
        · cases h
        simp only [Txn.exec_ambient, Txn.exec_pure, Prod.mk.injEq, Except.ok.injEq] at h
        obtain ⟨⟨rfl, rfl⟩, -⟩ := h
        have hconf := Txn.of_triple (Mutation.run_confined ⟨d₁, {}⟩ m) (Confined.refl _) hr
        have hcur : s₂.ticket.current = none ∨ s₂.ticket.current = s₂.db.counter := by
          rcases hconf.current with h | ⟨-, h⟩
          · exact Or.inl h
          · exact Or.inr (h.trans hconf.counter.symm)
        obtain ⟨V, t, hV, hdb⟩ := advanceClient_exec hcur ha
        rw [hconf.counter, hload.counter_eq] at hV
        refine ⟨fun last hlast' => ?_, fun p hp => by cases hp⟩
        cases hlast'
        rw [hdb]
        exact .committed hnext (.applied t hload hV hr)

/-- **Processing a mutation with a positive id** commits nothing, or only stamps a duplicate's
client, or commits the client's next mutation, applied or rejected. -/
theorem process_processed {m : Mutation} {d d' : Database} {amb amb' : Ambient}
    {r : Except Failure (Int × Option Problem)} (hm : 1 ≤ m.id)
    (h : (process req m).exec d amb = ((r, d'), amb')) : Processed req m d r d' := by
  simp only [process, Work.exec_bind, Work.exec_get, Work.exec_attempt] at h
  rcases hf : (firstAttempt req m).exec ⟨d, {}⟩ amb with ⟨f | ⟨step, s⟩, amb₁⟩ <;> simp only [hf] at h
  · -- the first transaction failed and rolled back
    split at h <;> simp only [Work.exec_bind, Work.exec_ambient, Work.exec_throw, Prod.mk.injEq] at h <;>
      obtain ⟨⟨rfl, rfl⟩, -⟩ := h <;> exact .dropped f
  obtain ⟨hdone, hrej⟩ := firstAttempt_exec hm hf
  cases step with
  | done last =>
    simp only [Work.exec_pure, Prod.mk.injEq] at h
    obtain ⟨⟨rfl, rfl⟩, -⟩ := h
    exact hdone last rfl
  | rejected p =>
    -- the first transaction is dropped, and a second one records the id
    obtain ⟨hnext, hrejects⟩ := hrej p rfl
    simp only [Work.exec_bind, Work.exec_set, Work.exec_atomically, Txn.exec_withTicket,
      Txn.exec_bind] at h
    rcases hl : (loadClient req).exec ⟨d, {}⟩ amb₁ with ⟨f | ⟨cl, ⟨d₁, tk₁⟩⟩, amb₂⟩ <;>
      simp only [hl] at h
    · simp only [Prod.mk.injEq] at h
      obtain ⟨⟨rfl, rfl⟩, -⟩ := h
      exact .dropped f
    obtain ⟨htk, hload⟩ := Txn.of_triple (loadClient_loads ⟨d, {}⟩) rfl hl
    dsimp only at htk hload
    subst htk
    rcases ha : (advanceClient cl m.id).exec ⟨d₁, {}⟩ amb₂ with ⟨f | ⟨⟨⟩, s₃⟩, amb₃⟩ <;>
      simp only [ha] at h
    · simp only [Prod.mk.injEq] at h
      obtain ⟨⟨rfl, rfl⟩, -⟩ := h
      exact .dropped f
    simp only [Work.exec_ambient, Work.exec_pure, Prod.mk.injEq] at h
    obtain ⟨⟨rfl, rfl⟩, -⟩ := h
    obtain ⟨V, t, hV, hdb⟩ := advanceClient_exec (Or.inl rfl) ha
    rw [hload.counter_eq] at hV
    rw [hdb]
    exact .committed hnext (.rejected t hrejects hload hV)

/-! ## What a commit records -/

namespace Commits

variable {m : Mutation} {d d' : Database} {p : Option Problem}

/-- A commit moves the client's last applied id to the mutation's, and no other client's. -/
theorem lastId (hc : Commits req m d p d') (x : String) :
    d'.lastId x = if x = req.clientId then m.id else d.lastId x := by
  cases hc with
  | applied t hload hV hrun =>
    have hconf := Txn.of_triple (Mutation.run_confined ⟨_, {}⟩ m) (Confined.refl _) hrun
    rw [Database.lastId_advanced (hconf.clients ▸ hload.mem), hload.id_eq]
    split
    · rfl
    · rename_i hx
      rw [Database.lastId_eq_of_clients hconf.clients, hload.lastId_of_ne hx]
  | rejected t hrej hload hV =>
    rw [Database.lastId_advanced hload.mem, hload.id_eq]
    split
    · rfl
    · exact hload.lastId_of_ne ‹_›

/-- A commit moves the counter one step. -/
theorem counter (hc : Commits req m d p d') : ∃ V, d.counter = some V ∧ d'.counter = some (V + 1) := by
  cases hc with
  | applied t hload hV hrun => exact ⟨_, hV, rfl⟩
  | rejected t hrej hload hV => exact ⟨_, hV, rfl⟩

end Commits

end Sync

end ReadLater

