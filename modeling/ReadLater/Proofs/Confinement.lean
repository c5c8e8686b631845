import Mathlib
import ReadLater.Proofs.Store.Stamp
import ReadLater.Proofs.Store.Transaction
import ReadLater.Triage
import ReadLater.Subscription
import ReadLater.Identity
import ReadLater.Sync.Mutation
import ReadLater.Ingest

/-!
# Operation bodies stay confined

The body of every operation that writes synced rows, and the effect of every mutation, keeps
`Confined s₀` from the state it starts in: it leaves the counter and the clients alone, reads the
counter into its ticket at most once, stamps every row it writes and keeps every row it does
not delete behind a stamped tombstone.

* `Txn.nextVersion_confined`: asking for the next version is a step of the ticket that hands
  out a stamp;
* one triple per body: `Triage.transition_confined`, `Subscription.subscribe_confined`,
  `Subscription.unsubscribe_confined`, `IdentityEvent.apply_confined`, the ingest steps
  (`Ingest.takeItems_confined`, `Ingest.save_confined`), and **`Mutation.run_confined`**;
* a body that uses its ticket writes a row with its stamp and leaves it there (`Justified`):
  `Triage.transition_justified`, …, `Ingest.takeItems_justified`.
-/

namespace ReadLater

open Std.Do Store

set_option mvcgen.warning false

variable (s₀ : TxnState)

theorem Store.Txn.nextVersion_confined :
    ⦃fun s _ => ⌜Confined s₀ s⌝⦄ Txn.nextVersion
    ⦃⇓? v s _ => ⌜Confined s₀ s ∧ s.ticket.Stamps v⌝⦄ := by
  mvcgen [Txn.nextVersion, Txn.loadTicket, Txn.currentVersion, Txn.read, Txn.failWith]
  · rename_i h v hv _
    exact ⟨h.trans (Confined.use _), rfl, v, hv, rfl⟩
  · -- the first request reads the counter into the ticket
    rename_i h hc _ hread v hv _ _
    subst hv
    have hcnt := Database.counterValue_ok hread
    exact ⟨(h.trans (Confined.load hc hcnt.symm)).trans (Confined.use _), rfl, v, rfl, rfl⟩

theorem Triage.transition_confined (entryId target : String) :
    ⦃fun s _ => ⌜Confined s₀ s⌝⦄ Triage.transition entryId target
    ⦃⇓? _ s _ => ⌜Confined s₀ s⌝⦄ := by
  have := Txn.nextVersion_confined s₀
  mvcgen [Triage.transition, Txn.read, Txn.writeCounting, Txn.now, Txn.ambient, readClock,
    Txn.fail, this]
  rename_i h₀ _ _ _ _ _ _ _ _ _ h₁ _ _ hw _ _
  exact h₁.1.updateEntry hw h₁.2

attribute [local irreducible] Text.trim Text.toUpper Provider.parse? Json.valid in
theorem Subscription.subscribe_confined (req : SubscribeRequest) :
    ⦃fun s _ => ⌜Confined s₀ s⌝⦄ Subscription.subscribe req
    ⦃⇓? _ s _ => ⌜Confined s₀ s⌝⦄ := by
  have := Txn.nextVersion_confined s₀
  mvcgen [Subscription.subscribe, Txn.read, Txn.write, Txn.now, Txn.ambient, readClock,
    Txn.fail, Txn.freshId, freshId, this]
  rename_i h _ _ hw
  exact h.1.insertSource hw h.2

theorem Subscription.unsubscribe_confined (sourceId : String) :
    ⦃fun s _ => ⌜Confined s₀ s⌝⦄ Subscription.unsubscribe sourceId
    ⦃⇓? _ s _ => ⌜Confined s₀ s⌝⦄ := by
  have := Txn.nextVersion_confined s₀
  mvcgen [Subscription.unsubscribe, Txn.read, Txn.write, Txn.now, Txn.ambient, readClock,
    Txn.fail, this]
  rename_i h _ hdel _ hput
  exact h.1.deleteSource hdel hput rfl rfl h.2

theorem IdentityEvent.apply_confined (user : String) (ev : IdentityEvent) :
    ⦃fun s _ => ⌜Confined s₀ s⌝⦄ ev.apply user
    ⦃⇓? _ s _ => ⌜Confined s₀ s⌝⦄ := by
  have := Txn.nextVersion_confined s₀
  mvcgen [IdentityEvent.apply, Txn.read, Txn.write, Txn.now, Txn.ambient, readClock,
    Txn.fail, logAt, this]
  -- a new profile, or an old one whose display changed
  all_goals
    rename_i h _ hw
    exact h.1.upsertProfile hw h.2

/-! ## Ingest -/

namespace Ingest

variable (version : Int)

theorem upsertByProvider_confined (provider : String) (x : Incoming) (kind : Option ContentKind)
    (now : Clock.Instant) :
    ⦃fun s _ => ⌜Confined s₀ s ∧ s.ticket.Stamps version⌝⦄ upsertByProvider provider x kind version now
    ⦃⇓? _ s _ => ⌜Confined s₀ s ∧ s.ticket.Stamps version⌝⦄ := by
  mvcgen [upsertByProvider, Txn.read, Txn.write, Txn.freshId, freshId, Txn.ambient]
  · rename_i h _ _ _ _ _ _ hw
    exact ⟨h.1.updateItem hw h.2, h.2⟩
  · rename_i h _ _ _ _ _ hw
    exact ⟨h.1.insertItem hw h.2, h.2⟩

theorem upsertByUrl_confined (x : Incoming) (kind : Option ContentKind) (now : Clock.Instant) :
    ⦃fun s _ => ⌜Confined s₀ s ∧ s.ticket.Stamps version⌝⦄ upsertByUrl x kind version now
    ⦃⇓? _ s _ => ⌜Confined s₀ s ∧ s.ticket.Stamps version⌝⦄ := by
  mvcgen [upsertByUrl, Txn.read, Txn.write, Txn.freshId, freshId, Txn.ambient]
  rename_i h _ _ _ _ _ hw
  exact ⟨h.1.insertItem hw h.2, h.2⟩

theorem ensureEntry_confined (itemId : String) (now : Clock.Instant) :
    ⦃fun s _ => ⌜Confined s₀ s ∧ s.ticket.Stamps version⌝⦄ ensureEntry itemId version now
    ⦃⇓? _ s _ => ⌜Confined s₀ s ∧ s.ticket.Stamps version⌝⦄ := by
  mvcgen [ensureEntry, Txn.read, Txn.write, Txn.freshId, freshId, Txn.ambient]
  rename_i h _ _ _ _ _ hw
  exact ⟨h.1.insertEntry hw h.2, h.2⟩

attribute [local irreducible] Incoming.normalize in
theorem takeItems_confined (src : Source) (now : Clock.Instant) (items : List Incoming) :
    ∀ (i : Nat) (t : Tally), ⦃fun s _ => ⌜Confined s₀ s⌝⦄ takeItems src now i items t
    ⦃⇓? _ s _ => ⌜Confined s₀ s⌝⦄ := by
  induction items with
  | nil =>
    intro i t
    mvcgen [takeItems]
  | cons raw rest ih =>
    intro i t
    have hnext := Txn.nextVersion_confined s₀
    have hup := upsertByProvider_confined s₀
    have hensure := ensureEntry_confined s₀
    mvcgen [takeItems, Txn.read, Txn.write, ih, hnext, hup, hensure]
    · -- the seen mark touches no synced row
      rename_i h _ hw
      exact ⟨h.1.markSeen hw, h.2⟩
    · rename_i h
      exact h.1

attribute [local irreducible] Content.cleanUrl Content.cleanText Incoming.parseKind Text.trim
  Text.toUpper Provider.parse? in
theorem save_confined (req : SaveRequest) :
    ⦃fun s _ => ⌜Confined s₀ s⌝⦄ save req ⦃⇓? _ s _ => ⌜Confined s₀ s⌝⦄ := by
  have hnext := Txn.nextVersion_confined s₀
  have hurl := upsertByUrl_confined s₀
  have hup := upsertByProvider_confined s₀
  have hensure := ensureEntry_confined s₀
  mvcgen [save, Txn.fail, Txn.now, Txn.ambient, readClock, hnext, hurl, hup, hensure]
  all_goals exact fun h _ => h

end Ingest

/-! ## Mutations -/

attribute [local irreducible] Content.cleanUrl Content.cleanText Incoming.parseKind Text.trim
  Text.toUpper Provider.parse? Json.textField TriageState.name in
theorem Sync.MutationKind.effect_confined (k : Sync.MutationKind) (a : Json) :
    ⦃fun s _ => ⌜Confined s₀ s⌝⦄ k.effect a ⦃⇓? _ s _ => ⌜Confined s₀ s⌝⦄ := by
  have htransition := Triage.transition_confined s₀
  have hsave := Ingest.save_confined s₀
  have hunsubscribe := Subscription.unsubscribe_confined s₀
  mvcgen [Sync.MutationKind.effect, htransition, hsave, hunsubscribe]

attribute [local irreducible] Sync.Mutation.parse in
/-- **A mutation's check and effect stay confined.** -/
theorem Sync.Mutation.run_confined (m : Sync.Mutation) :
    ⦃fun s _ => ⌜Confined s₀ s⌝⦄ m.run ⦃⇓? _ s _ => ⌜Confined s₀ s⌝⦄ := by
  have heffect := Sync.MutationKind.effect_confined s₀
  mvcgen [Sync.Mutation.run, Txn.fail, heffect]

/-! ## A used ticket shows in a stamped row -/

theorem Store.Txn.nextVersion_stamps :
    ⦃fun _ _ => ⌜True⌝⦄ Txn.nextVersion ⦃⇓? v s _ => ⌜s.ticket.Stamps v⌝⦄ := by
  mvcgen [Txn.nextVersion, Txn.loadTicket, Txn.currentVersion, Txn.read, Txn.failWith]
  · rename_i v hv _
    exact ⟨rfl, v, hv, rfl⟩
  · rename_i v _ _ _
    exact ⟨rfl, v, rfl, rfl⟩

theorem Triage.transition_justified (entryId target : String) :
    ⦃fun s _ => ⌜s.Justified⌝⦄ Triage.transition entryId target
    ⦃⇓? _ s _ => ⌜s.Justified⌝⦄ := by
  have := Txn.nextVersion_stamps
  mvcgen [Triage.transition, Txn.read, Txn.writeCounting, Txn.now, Txn.ambient, readClock,
    Txn.fail, this]
  -- the move is written only when the entry was there
  rename_i hs _ hit hw _ hhit
  subst hhit
  exact fun _ => TxnState.stamped_updateEntry hw hs

attribute [local irreducible] Text.trim Text.toUpper Provider.parse? Json.valid in
theorem Subscription.subscribe_justified (req : SubscribeRequest) :
    ⦃fun s _ => ⌜s.Justified⌝⦄ Subscription.subscribe req
    ⦃⇓? _ s _ => ⌜s.Justified⌝⦄ := by
  have := Txn.nextVersion_stamps
  mvcgen [Subscription.subscribe, Txn.read, Txn.write, Txn.now, Txn.ambient, readClock,
    Txn.fail, Txn.freshId, freshId, this]
  rename_i hs _ _ hw
  exact fun _ => TxnState.stamped_insertSource hw hs

theorem Subscription.unsubscribe_justified (sourceId : String) :
    ⦃fun s _ => ⌜s.Justified⌝⦄ Subscription.unsubscribe sourceId
    ⦃⇓? _ s _ => ⌜s.Justified⌝⦄ := by
  have := Txn.nextVersion_stamps
  mvcgen [Subscription.unsubscribe, Txn.read, Txn.write, Txn.now, Txn.ambient, readClock,
    Txn.fail, this]
  rename_i hs _ _ _ hput
  exact fun _ => TxnState.stamped_putTombstone hput hs

theorem IdentityEvent.apply_justified (user : String) (ev : IdentityEvent) :
    ⦃fun s _ => ⌜s.Justified⌝⦄ ev.apply user
    ⦃⇓? _ s _ => ⌜s.Justified⌝⦄ := by
  have := Txn.nextVersion_stamps
  mvcgen [IdentityEvent.apply, Txn.read, Txn.write, Txn.now, Txn.ambient, readClock,
    Txn.fail, logAt, this]
  all_goals
    rename_i hs _ hw
    exact fun _ => TxnState.stamped_upsertProfile hw hs

namespace Ingest

theorem upsertByProvider_stamped (version : Int) (provider : String) (x : Incoming)
    (kind : Option ContentKind) (now : Clock.Instant) :
    ⦃fun s _ => ⌜s.ticket.Stamps version⌝⦄ upsertByProvider provider x kind version now
    ⦃⇓? _ s _ => ⌜s.Stamped⌝⦄ := by
  mvcgen [upsertByProvider, Txn.read, Txn.write, Txn.freshId, freshId, Txn.ambient]
  · -- the refreshed item keeps the id of the one found, which is stored
    rename_i hs _ hread old hold _ _ hw
    subst hold
    have hmem := List.mem_filter.1 (mem_of_oldest (Database.itemByProvider_ok hread).symm)
    exact TxnState.stamped_updateItem hw hmem.1 rfl hs
  · rename_i hs _ _ _ _ _ hw
    exact TxnState.stamped_insertItem hw hs

theorem ensureEntry_stamped (version : Int) (itemId : String) (now : Clock.Instant) :
    ⦃fun s _ => ⌜s.Stamped⌝⦄ ensureEntry itemId version now ⦃⇓? _ s _ => ⌜s.Stamped⌝⦄ := by
  mvcgen [ensureEntry, Txn.read, Txn.write, Txn.freshId, freshId, Txn.ambient]
  rename_i h _ _ _ _ _ hw
  exact h.insertEntry hw

attribute [local irreducible] Incoming.normalize in
theorem takeItems_justified (src : Source) (now : Clock.Instant) (items : List Incoming) :
    ∀ (i : Nat) (t : Tally), ⦃fun s _ => ⌜s.Justified⌝⦄ takeItems src now i items t
    ⦃⇓? _ s _ => ⌜s.Justified⌝⦄ := by
  induction items with
  | nil =>
    intro i t
    mvcgen [takeItems]
  | cons raw rest ih =>
    intro i t
    have hnext := Txn.nextVersion_stamps
    have hup := upsertByProvider_stamped
    have hensure := ensureEntry_stamped
    mvcgen [takeItems, Txn.read, Txn.write, ih, hnext, hup, hensure]
    · -- an unseen item is written stamped before its mark and its entry
      rename_i h _ hw
      exact h.markSeen hw
    · rename_i h
      exact fun _ => h

end Ingest

end ReadLater
