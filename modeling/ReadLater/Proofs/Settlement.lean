import Mathlib
import ReadLater.Proofs.Confinement

/-!
# Settling a versioned transaction

An operation runs its body with a fresh ticket and then commits the ticket's version. This
module says once what that commits: the body's store at the version it found, when the ticket
was not used, or the body's store with the counter one step on.

* `Txn.Body`: what every body of a versioned transaction does, with one instance per operation
  (`Triage.transition_body`, `Subscription.subscribe_body`, …);
* `Settled d s₁ v d'`: the store `d'` a body run from `d` to `s₁` commits, at version `v`;
* **`Txn.versioned_exec`** and `Ingest.ingest_exec`: a versioned transaction, and a batch of
  ingested items, settle a confined body that justifies its ticket.
-/

namespace ReadLater

open Std.Do Store

/-- The body of a versioned transaction: it stays confined, and a ticket it uses shows in a
stamped row. -/
structure Store.Txn.Body {α : Type} (body : Txn α) : Prop where
  confined : ∀ s₀, ⦃fun s _ => ⌜Confined s₀ s⌝⦄ body ⦃⇓? _ s _ => ⌜Confined s₀ s⌝⦄
  justified : ⦃fun s _ => ⌜s.Justified⌝⦄ body ⦃⇓? _ s _ => ⌜s.Justified⌝⦄

/-- A fresh ticket has not been used. -/
theorem Store.TxnState.justified_fresh {d : Database} : (⟨d, {}⟩ : TxnState).Justified :=
  fun h => by cases h

theorem Triage.transition_body (entryId target : String) :
    Txn.Body (Triage.transition entryId target) :=
  ⟨(Triage.transition_confined · entryId target), Triage.transition_justified entryId target⟩

theorem Subscription.subscribe_body (req : SubscribeRequest) :
    Txn.Body (Subscription.subscribe req) :=
  ⟨(Subscription.subscribe_confined · req), Subscription.subscribe_justified req⟩

theorem Subscription.unsubscribe_body (sourceId : String) :
    Txn.Body (Subscription.unsubscribe sourceId) :=
  ⟨(Subscription.unsubscribe_confined · sourceId), Subscription.unsubscribe_justified sourceId⟩

theorem IdentityEvent.apply_body (user : String) (ev : IdentityEvent) : Txn.Body (ev.apply user) :=
  ⟨(IdentityEvent.apply_confined · user ev), IdentityEvent.apply_justified user ev⟩

/-! ## Committing a body's version -/

/-- A body that ran from the store `d` with a fresh ticket and ended in `s₁` settles as the store
`d'` at version `v`: the counter held `V`; an unused ticket leaves the body's store at `V`, a used
one moves the counter to `V + 1`. -/
def Store.Settled (d : Database) (s₁ : TxnState) (v : Int) (d' : Database) : Prop :=
  ∃ V, d.counter = some V ∧
    (s₁.ticket.used = false ∧ v = V ∧ d' = s₁.db ∨
      s₁.ticket.used = true ∧ v = V + 1 ∧ d' = { s₁.db with counter := some (V + 1) })

/-- A settled body leaves the clients as they were. -/
theorem Store.Settled.clients {d d' : Database} {s₁ : TxnState} {v : Int}
    (hconf : Confined ⟨d, {}⟩ s₁) (h : Settled d s₁ v d') : d'.clients = d.clients := by
  obtain ⟨V, -, ⟨-, -, rfl⟩ | ⟨-, -, rfl⟩⟩ := h <;> exact hconf.clients

/-- Committing the version of a confined body settles it. -/
theorem Store.Txn.commitVersion_settles {d : Database} {s₁ s₂ : TxnState} {amb amb' : Ambient}
    {v : Int} (hconf : Confined ⟨d, {}⟩ s₁)
    (hc : Txn.commitVersion.exec s₁ amb = (.ok (v, s₂), amb')) : Settled d s₁ v s₂.db := by
  obtain ⟨-, c, hcur, -, hcommit⟩ := Txn.commitVersion_ok hc
  -- the ticket holds the counter's value, read from `d` or by the commit itself
  have hV : d.counter = some c := by
    rcases hcur with hcur | ⟨-, hcnt⟩
    · rcases hconf.current with h | ⟨-, h⟩
      · rw [hcur] at h
        cases h
      · exact h ▸ hcur
    · exact hconf.counter ▸ hcnt
  refine ⟨c, hV, ?_⟩
  rcases hcommit with ⟨hu, hdb, rfl⟩ | ⟨hu, -, hdb, rfl⟩
  · exact Or.inl ⟨hu, rfl, hdb⟩
  · exact Or.inr ⟨hu, rfl, hdb⟩

/-- **One step of the counter per transaction.** A versioned transaction settles its body, and
puts the outer ticket back. -/
theorem Store.Txn.versioned_exec {α : Type} {body : Txn α} (hbody : Txn.Body body)
    {s s' : TxnState} {amb amb' : Ambient} {a : α} {v : Int}
    (h : (Txn.versioned body).exec s amb = (.ok ((a, v), s'), amb')) :
    s'.ticket = s.ticket ∧
      ∃ s₁, Confined ⟨s.db, {}⟩ s₁ ∧ s₁.Justified ∧ Settled s.db s₁ v s'.db := by
  simp only [Txn.versioned, Txn.exec_withTicket, Txn.exec_bind] at h
  rcases hb : body.exec { s with ticket := {} } amb with ⟨f | ⟨a₁, s₁⟩, amb₁⟩ <;> simp only [hb] at h
  · cases h
  rcases hc : Txn.commitVersion.exec s₁ amb₁ with ⟨f | ⟨w, s₂⟩, amb₂⟩ <;> simp only [hc] at h
  · cases h
  simp only [Txn.exec_pure, Prod.mk.injEq, Except.ok.injEq] at h
  obtain ⟨⟨⟨-, rfl⟩, rfl⟩, -⟩ := h
  have hconf : Confined ⟨s.db, {}⟩ s₁ := Txn.of_triple (hbody.confined _) (Confined.refl _) hb
  have hjust : s₁.Justified := Txn.of_triple hbody.justified TxnState.justified_fresh hb
  have hset := Txn.commitVersion_settles hconf hc
  exact ⟨rfl, s₁, hconf, hjust, hset⟩

/-- A versioned transaction followed by a step that only returns settles like the transaction. -/
theorem Store.Txn.versioned_bind_exec {α β : Type} {body : Txn α} {k : α × Int → Txn β}
    (hbody : Txn.Body body) (hk : ∀ x s amb b s' amb', (k x).exec s amb = (.ok (b, s'), amb') → s' = s)
    {d : Database} {s' : TxnState} {amb amb' : Ambient} {b : β}
    (h : (Txn.versioned body >>= k).exec ⟨d, {}⟩ amb = (.ok (b, s'), amb')) :
    ∃ s₁ v, Confined ⟨d, {}⟩ s₁ ∧ s₁.Justified ∧ Settled d s₁ v s'.db := by
  rw [Txn.exec_bind] at h
  rcases hv : (Txn.versioned body).exec ⟨d, {}⟩ amb with ⟨f | ⟨⟨a, v⟩, s₁⟩, amb₁⟩ <;> rw [hv] at h
  · cases h
  obtain ⟨-, s₂, hconf, hjust, hset⟩ := Txn.versioned_exec hbody hv
  exact ⟨s₂, v, hconf, hjust, hk _ _ _ _ _ _ h ▸ hset⟩

/-- A batch of ingested items settles like a versioned transaction: its items are taken with
one ticket, whose version commits at the end. -/
theorem Ingest.ingest_exec {maxBatch : Nat} {sourceId : String} {items : List Incoming}
    {s s' : TxnState} {amb amb' : Ambient} {rep : IngestReport}
    (h : (Ingest.ingest maxBatch sourceId items).exec s amb = (.ok (rep, s'), amb')) :
    s'.ticket = s.ticket ∧
      ∃ s₁, Confined ⟨s.db, {}⟩ s₁ ∧ s₁.Justified ∧ Settled s.db s₁ rep.version s'.db := by
  simp only [Ingest.ingest] at h
  split at h
  · simp only [Txn.exec_bind, Txn.exec_fail] at h
    cases h
  split at h
  · simp only [Txn.exec_bind, Txn.exec_fail] at h
    cases h
  simp only [Txn.exec_withTicket, Txn.exec_bind, Txn.exec_read] at h
  rcases hsrc : s.db.sourceById sourceId with e | (_ | src) <;> simp only [hsrc] at h
  · cases h
  · simp only [Txn.exec_fail] at h
    cases h
  simp only [Txn.exec_bind, Txn.exec_now] at h
  generalize ({ amb with clock := amb.clock.addNanos 1 } : Ambient) = amb₁ at h
  rcases ht : (Ingest.takeItems src amb.clock 0 items {}).exec ⟨s.db, {}⟩ amb₁ with
    ⟨f | ⟨t, s₁⟩, amb₂⟩ <;> simp only [ht] at h
  · cases h
  rcases hc : Txn.commitVersion.exec s₁ amb₂ with ⟨f | ⟨w, s₂⟩, amb₃⟩ <;> simp only [hc] at h
  · cases h
  simp only [Txn.exec_pure, Prod.mk.injEq, Except.ok.injEq] at h
  obtain ⟨⟨rfl, rfl⟩, -⟩ := h
  have hconf : Confined ⟨s.db, {}⟩ s₁ :=
    Txn.of_triple (Ingest.takeItems_confined _ src amb.clock items 0 {}) (Confined.refl _) ht
  have hjust : s₁.Justified :=
    Txn.of_triple (Ingest.takeItems_justified src amb.clock items 0 {}) TxnState.justified_fresh ht
  have hset := Txn.commitVersion_settles hconf hc
  exact ⟨rfl, s₁, hconf, hjust, hset⟩

end ReadLater
