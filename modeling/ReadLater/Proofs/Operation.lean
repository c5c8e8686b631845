import Mathlib
import ReadLater.Proofs.Sync.Processing
import ReadLater.Proofs.Settlement

/-!
# Operations on a user's store

The service runs every request on a user's store as work: a push or a pull as the ledger does it,
every other request as one transaction. `Operation` names these requests with what they read,
`Operation.exec` runs one on a store as the service does, and `Operation.run` runs a sequence.

* `Sync.pull_keeps`: a pull reads the store and changes nothing;
* **`Operation.exec_settles`**: every other operation but a push commits one transaction whose
  body stayed confined, with one step of the counter at most, or nothing;
* `Operation.exec_clients`: every operation but a push leaves the clients as they were;
* `Operation.exec_keeps`: a property of the store that every push and every transaction body
  keep holds after every operation.
-/

namespace ReadLater

open Clock Store Std.Do

/-- The store and the ambient services that work leaves. -/
def Store.Work.leaves {α : Type} (w : Work α) (d : Database) (amb : Ambient) :
    Database × Ambient :=
  ((w.exec d amb).1.2, (w.exec d amb).2)

/-- A transaction run as work commits its final store, or leaves the store as it was. -/
theorem Store.Work.leaves_atomically {α : Type} (t : Txn α) (d : Database) (amb : Ambient) :
    ((Work.atomically t).leaves d amb).1 = d ∨ ∃ a s amb', t.exec ⟨d, {}⟩ amb = (.ok (a, s), amb') ∧
      ((Work.atomically t).leaves d amb).1 = s.db := by
  simp only [Work.leaves, Work.exec_atomically]
  rcases h : t.exec ⟨d, {}⟩ amb with ⟨f | ⟨a, s⟩, amb'⟩
  · exact Or.inl rfl
  · exact Or.inr ⟨a, s, amb', rfl, rfl⟩

/-- A transaction that keeps a property of its store keeps it as work, committed or not. -/
theorem Store.Work.atomically_keeps {α : Type} {P : Database → Prop} {t : Txn α}
    (ht : ⦃fun s _ => ⌜P s.db⌝⦄ t ⦃⇓? _ s _ => ⌜P s.db⌝⦄) {d : Database} (amb : Ambient)
    (h : P d) : P ((Work.atomically t).leaves d amb).1 := by
  rcases Work.leaves_atomically t d amb with hd | ⟨a, s, amb', hrun, hd⟩
  · rw [hd]
    exact h
  · rw [hd]
    exact Txn.of_triple (P := fun s _ => P s.db) ht h hrun

/-- Work that leaves the store as it was, whatever it returns. -/
def Store.Work.Keeps {α : Type} (w : Work α) : Prop :=
  ∀ d amb, (w.exec d amb).1.2 = d

namespace Store.Work.Keeps

theorem eq {α : Type} {w : Work α} (hw : w.Keeps) {d d' : Database} {amb amb' : Ambient}
    {r : Except Failure α} (h : w.exec d amb = ((r, d'), amb')) : d' = d := by
  have := hw d amb
  rw [h] at this
  exact this

theorem pure {α : Type} (a : α) : (pure a : Work α).Keeps := fun _ _ => rfl

theorem bind {α β : Type} {x : Work α} {f : α → Work β} (hx : x.Keeps) (hf : ∀ a, (f a).Keeps) :
    (x >>= f).Keeps := by
  intro d amb
  rw [Work.exec_bind]
  rcases h : x.exec d amb with ⟨⟨_ | a, d₁⟩, amb₁⟩
  · exact hx.eq h
  · exact (hf a d₁ amb₁).trans (hx.eq h)

theorem atomically_read {α : Type} (context : String) (f : Database → Sql α) :
    (Work.atomically (Txn.read context f)).Keeps := by
  intro d amb
  simp only [Work.exec_atomically, Txn.exec_read]
  rcases f d with e | a <;> rfl

theorem atomically_currentVersion : (Work.atomically Txn.currentVersion).Keeps := by
  intro d amb
  simp only [Work.exec_atomically]
  rcases h : Txn.currentVersion.exec ⟨d, {}⟩ amb with ⟨_ | ⟨v, s⟩, amb'⟩
  · rfl
  · exact congrArg TxnState.db (Txn.currentVersion_ok h).1

end Store.Work.Keeps

/-- A request on a user's store. -/
inductive Operation where
  | push (maxMutations : Nat) (req : Sync.PushRequest)
  | pull (user : String) (req : Sync.PullRequest)
  | ingest (maxBatch : Nat) (sourceId : String) (items : List Incoming)
  | subscribe (req : SubscribeRequest)
  | unsubscribe (sourceId : String)
  | transition (entryId target : String)
  | identity (user : String) (ev : IdentityEvent)

namespace Operation

/-- The store and the ambient services after an operation, as the service runs it. -/
def exec : Operation → Database → Ambient → Database × Ambient
  | .push n req => (Sync.push n req).leaves
  | .pull user req => (Sync.pull user req).leaves
  | .ingest n sourceId items => (Work.atomically (Ingest.ingest n sourceId items)).leaves
  | .subscribe req => (Work.atomically do
      let (r, _) ← Txn.versioned (Subscription.subscribe req)
      return r).leaves
  | .unsubscribe sourceId => (Work.atomically do
      let ((), v) ← Txn.versioned (Subscription.unsubscribe sourceId)
      return v).leaves
  | .transition entryId target => (Work.atomically do
      let ((e, _), v) ← Txn.versioned (Triage.transition entryId target)
      return (e, v)).leaves
  | .identity user ev => (Work.atomically do
      let (r, _) ← Txn.versioned (ev.apply user)
      return r).leaves

/-- The store and the ambient services after a sequence of operations. -/
def run : List Operation → Database → Ambient → Database × Ambient
  | [], d, amb => (d, amb)
  | op :: ops, d, amb => run ops (op.exec d amb).1 (op.exec d amb).2

/-- Whether the operation is a push. -/
def IsPush : Operation → Prop
  | .push .. => True
  | _ => False

end Operation

set_option mvcgen.warning false

/-- A versioned transaction keeps a property of the store that its body and the commit of the
version keep. -/
theorem Store.Txn.versioned_keeps {α : Type} {P : Database → Prop} {body : Txn α}
    (hcommit : ⦃fun s _ => ⌜P s.db⌝⦄ Txn.commitVersion ⦃⇓? _ s _ => ⌜P s.db⌝⦄)
    (hbody : ⦃fun s _ => ⌜P s.db⌝⦄ body ⦃⇓? _ s _ => ⌜P s.db⌝⦄) :
    ⦃fun s _ => ⌜P s.db⌝⦄ Txn.versioned body ⦃⇓? _ s _ => ⌜P s.db⌝⦄ := by
  mvcgen [Txn.versioned, Txn.withTicket, hbody, hcommit]

theorem Sync.changesSince_keeps (user : String) (since : Int) (s₀ : TxnState) :
    ⦃fun s _ => ⌜s = s₀⌝⦄ Sync.changesSince user since ⦃⇓? _ s _ => ⌜s = s₀⌝⦄ := by
  mvcgen [Sync.changesSince, Txn.read]

/-- A pull reads the store and changes nothing. -/
theorem Sync.pull_keeps (user : String) (req : Sync.PullRequest) (d : Database) (amb : Ambient) :
    ((Sync.pull user req).leaves d amb).1 = d := by
  simp only [Work.leaves, Sync.pull]
  split
  · simp only [Work.exec_bind, Work.exec_fail]
  simp only [Work.exec_bind, Work.exec_atomically]
  split
  · -- the answer's transaction committed: it only read, so its store is the one it started from
    rename_i h
    split at h
    · rename_i s _ hrun
      simp only [Prod.mk.injEq] at h
      obtain ⟨⟨-, rfl⟩, -⟩ := h
      have hs : s = ⟨d, {}⟩ := Txn.of_triple (P := fun s _ => s = ⟨d, {}⟩)
        (Q := fun _ s _ => s = ⟨d, {}⟩)
        (by mvcgen [Txn.currentVersion, Txn.read, Txn.failWith, Sync.changesSince_keeps] <;>
          simp_all) rfl hrun
      simp [hs]
    · cases h
  · rename_i h
    split at h
    · cases h
    · simp only [Prod.mk.injEq] at h
      obtain ⟨⟨-, rfl⟩, -⟩ := h
      rfl

namespace Operation

variable {d : Database} {amb : Ambient}

/-- **What an operation other than a push commits**: nothing, or one transaction whose body stayed
confined, justified its ticket and settled with one step of the counter at most. -/
theorem exec_settles {op : Operation} (hop : ¬ op.IsPush) :
    (op.exec d amb).1 = d ∨
      ∃ s₁ v, Confined ⟨d, {}⟩ s₁ ∧ s₁.Justified ∧ Settled d s₁ v (op.exec d amb).1 := by
  cases op with
  | push => exact absurd trivial hop
  | pull user req => exact Or.inl (Sync.pull_keeps user req d amb)
  | ingest n sourceId items =>
    rcases Work.leaves_atomically (Ingest.ingest n sourceId items) d amb with h | ⟨rep, s, _, h, hd⟩
    · exact Or.inl h
    · obtain ⟨-, s₁, hconf, hjust, hset⟩ := Ingest.ingest_exec h
      exact Or.inr ⟨s₁, rep.version, hconf, hjust, hd ▸ hset⟩
  | subscribe req =>
    rcases Work.leaves_atomically _ d amb with h | ⟨_, s, _, h, hd⟩
    · exact Or.inl h
    · rw [exec, hd]
      exact Or.inr (Txn.versioned_bind_exec (Subscription.subscribe_body req)
        (fun x s amb _ _ _ h => by rcases x with ⟨r, v⟩; cases h; rfl) h)
  | unsubscribe sourceId =>
    rcases Work.leaves_atomically _ d amb with h | ⟨_, s, _, h, hd⟩
    · exact Or.inl h
    · rw [exec, hd]
      exact Or.inr (Txn.versioned_bind_exec (Subscription.unsubscribe_body sourceId)
        (fun x s amb _ _ _ h => by rcases x with ⟨⟨⟩, v⟩; cases h; rfl) h)
  | transition entryId target =>
    rcases Work.leaves_atomically _ d amb with h | ⟨_, s, _, h, hd⟩
    · exact Or.inl h
    · rw [exec, hd]
      exact Or.inr (Txn.versioned_bind_exec (Triage.transition_body entryId target)
        (fun x s amb _ _ _ h => by rcases x with ⟨⟨e, _⟩, v⟩; cases h; rfl) h)
  | identity user ev =>
    rcases Work.leaves_atomically _ d amb with h | ⟨_, s, _, h, hd⟩
    · exact Or.inl h
    · rw [exec, hd]
      exact Or.inr (Txn.versioned_bind_exec (IdentityEvent.apply_body user ev)
        (fun x s amb _ _ _ h => by rcases x with ⟨r, v⟩; cases h; rfl) h)

/-- Every operation but a push leaves the clients, and so the ledger, as they were. -/
theorem exec_clients {op : Operation} (hop : ¬ op.IsPush) : (op.exec d amb).1.clients = d.clients := by
  rcases @exec_settles d amb _ hop with h | ⟨s₁, v, hconf, -, hset⟩
  · rw [h]
  · exact hset.clients hconf

/-- **A property of the store that every request keeps.** A property kept by every push, and by
the body of every other request and the commit of a version, committed or not, holds after every
operation; a pull changes nothing. -/
theorem exec_keeps {P : Database → Prop}
    (hpush : ∀ (n : Nat) (req : Sync.PushRequest) {d : Database} (amb : Ambient), P d →
      P ((Sync.push n req).leaves d amb).1)
    (hcommit : ⦃fun s _ => ⌜P s.db⌝⦄ Txn.commitVersion ⦃⇓? _ s _ => ⌜P s.db⌝⦄)
    (hingest : ∀ n sourceId items,
      ⦃fun s _ => ⌜P s.db⌝⦄ Ingest.ingest n sourceId items ⦃⇓? _ s _ => ⌜P s.db⌝⦄)
    (hsubscribe : ∀ req,
      ⦃fun s _ => ⌜P s.db⌝⦄ Subscription.subscribe req ⦃⇓? _ s _ => ⌜P s.db⌝⦄)
    (hunsubscribe : ∀ sourceId,
      ⦃fun s _ => ⌜P s.db⌝⦄ Subscription.unsubscribe sourceId ⦃⇓? _ s _ => ⌜P s.db⌝⦄)
    (htransition : ∀ entryId target,
      ⦃fun s _ => ⌜P s.db⌝⦄ Triage.transition entryId target ⦃⇓? _ s _ => ⌜P s.db⌝⦄)
    (hidentity : ∀ user (ev : IdentityEvent),
      ⦃fun s _ => ⌜P s.db⌝⦄ ev.apply user ⦃⇓? _ s _ => ⌜P s.db⌝⦄)
    (op : Operation) (amb : Ambient) (h : P d) : P (op.exec d amb).1 := by
  cases op with
  | push n req => exact hpush n req amb h
  | pull user req =>
    rw [exec, Sync.pull_keeps]
    exact h
  | ingest n sourceId items => exact Work.atomically_keeps (hingest n sourceId items) amb h
  -- the other requests run a versioned body and answer part of what it returns
  | subscribe req =>
    have hbody := Txn.versioned_keeps hcommit (hsubscribe req)
    exact Work.atomically_keeps (by mvcgen [hbody]) amb h
  | unsubscribe sourceId =>
    have hbody := Txn.versioned_keeps hcommit (hunsubscribe sourceId)
    exact Work.atomically_keeps (by mvcgen [hbody]) amb h
  | transition entryId target =>
    have hbody := Txn.versioned_keeps hcommit (htransition entryId target)
    exact Work.atomically_keeps (by mvcgen [hbody]) amb h
  | identity user ev =>
    have hbody := Txn.versioned_keeps hcommit (hidentity user ev)
    exact Work.atomically_keeps (by mvcgen [hbody]) amb h

end Operation

end ReadLater
