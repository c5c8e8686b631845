import Mathlib
import ReadLater.Proofs.Sync.Answer
import ReadLater.Proofs.Soundness

/-!
# What the bodies of operations leave alone

Two frames hold of the body of every operation and of every transaction of a push, whether it
commits or fails:

* **the metrics** (`Txn.Unmetered`): a body issues ids, reads the clock and writes to the log,
  but the service's counters, and whether they are kept, stay as they were; a push records its
  counts itself, between its transactions;
* **the client rows** (`Database.ClientsInTable`): a store holds client rows only in its
  clients table. A client is inserted only once that table is there, and every other write
  keeps the clients present or absent as they were, so every body keeps it, and so does a push
  (`Sync.push_clientsInTable`).

Bringing a store's schema up to date keeps both, and keeps the clients themselves: it creates the
clients table only where there is none, and so where there are no client rows
(`ensureSchema_clients`).

`Txn.triple_iff` reads a triple with a postcondition for success and one for failure as what
every run from the precondition ends in, which is how the transactions of a push are followed
here through their handled failures.
-/

namespace ReadLater

open Clock Store Std.Do

set_option mvcgen.warning false

/-! ## The metrics -/

/-- Logging keeps the metrics and whether they are kept. -/
theorem logAt_unmetered (M : Metrics) (b : Bool) (level : LogLevel) (message : String)
    (attrs : List (String × Json)) :
    ⦃fun a => ⌜a.metrics = M ∧ a.metering = b⌝⦄ logAt level message attrs
    ⦃⇓ _ a => ⌜a.metrics = M ∧ a.metering = b⌝⦄ := by
  mvcgen [logAt]
  rename_i a h t
  simp only [t]
  split <;> exact h

/-- A transaction that records nothing in the metrics: whether it commits or fails, the metrics
and whether they are kept are as they were. -/
def Store.Txn.Unmetered {α : Type} (t : Txn α) : Prop :=
  ∀ (M : Metrics) (b : Bool), ⦃fun _ a => ⌜a.metrics = M ∧ a.metering = b⌝⦄ t
    ⦃post⟨fun _ _ a => ⌜a.metrics = M ∧ a.metering = b⌝, fun _ a => ⌜a.metrics = M ∧ a.metering = b⌝⟩⦄

namespace Store.Txn

/-- What an unmetered transaction leaves of the ambient services: the same metrics, kept or not
as before. -/
theorem Unmetered.exec {α : Type} {t : Txn α} (ht : t.Unmetered) (s : TxnState) (amb : Ambient) :
    (t.exec s amb).2.metrics = amb.metrics ∧ (t.exec s amb).2.metering = amb.metering := by
  have hwp := ht amb.metrics amb.metering s amb ⟨rfl, rfl⟩
  simp only [WP.wp, PredTrans.pushArg, PredTrans.pushExcept, PredTrans.apply, StateT.run,
    Id.run] at hwp
  rcases h : t.exec s amb with ⟨_ | ⟨a, s'⟩, amb'⟩ <;>
    simp only [Txn.exec, StateT.run, Id.run] at h <;> rw [h] at hwp <;> exact hwp

/-- A triple about a transaction, with a postcondition for its success and one for its failure,
says what every run of it from a state meeting the precondition ends in. -/
theorem triple_iff {α : Type} {t : Txn α} {P : TxnState → Ambient → Prop}
    {Q : α → TxnState → Ambient → Prop} {E : Failure → Ambient → Prop} :
    ⦃fun s amb => ⌜P s amb⌝⦄ t ⦃post⟨fun a s amb => ⌜Q a s amb⌝, fun f amb => ⌜E f amb⌝⟩⦄ ↔
      ∀ s amb, P s amb → match t.exec s amb with
        | (.ok (a, s'), amb') => Q a s' amb'
        | (.error f, amb') => E f amb' := by
  constructor
  · intro ht s amb hP
    have hwp := ht s amb hP
    simp only [WP.wp, PredTrans.pushArg, PredTrans.pushExcept, PredTrans.apply, StateT.run,
      Id.run] at hwp
    simp only [Txn.exec, StateT.run, Id.run]
    rcases hr : (t s).run amb with ⟨_ | ⟨a, s'⟩, amb'⟩ <;> rw [hr] at hwp <;> exact hwp
  · intro h s amb hP
    have hx := h s amb hP
    simp only [WP.wp, PredTrans.pushArg, PredTrans.pushExcept, PredTrans.apply, StateT.run, Id.run]
    simp only [Txn.exec, StateT.run, Id.run] at hx
    rcases hr : (t s).run amb with ⟨_ | ⟨a, s'⟩, amb'⟩ <;> rw [hr] at hx <;> exact hx

theorem currentVersion_unmetered : Txn.currentVersion.Unmetered := by
  intro M b
  mvcgen [Txn.currentVersion, Txn.read, Txn.failWith]

theorem nextVersion_unmetered : Txn.nextVersion.Unmetered := by
  intro M b
  mvcgen [Txn.nextVersion, Txn.loadTicket, Txn.currentVersion, Txn.read, Txn.failWith]

theorem commitVersion_unmetered : Txn.commitVersion.Unmetered := by
  intro M b
  mvcgen [Txn.commitVersion, Txn.advanceVersion, Txn.loadTicket, Txn.currentVersion, Txn.read,
    Txn.failWith, Txn.writeCounting]

theorem versioned_unmetered {α : Type} {body : Txn α} (h : body.Unmetered) :
    (Txn.versioned body).Unmetered := by
  intro M b
  have hbody := h M b
  have hcommit := commitVersion_unmetered M b
  mvcgen [Txn.versioned, Txn.withTicket, hbody, hcommit]

end Store.Txn

theorem Triage.transition_unmetered (entryId target : String) :
    (Triage.transition entryId target).Unmetered := by
  intro M b
  have := Txn.nextVersion_unmetered M b
  mvcgen [Triage.transition, Txn.read, Txn.writeCounting, Txn.now, Txn.ambient, readClock,
    Txn.fail, this]

attribute [local irreducible] Text.trim Text.toUpper Provider.parse? Json.valid in
theorem Subscription.subscribe_unmetered (req : SubscribeRequest) :
    (Subscription.subscribe req).Unmetered := by
  intro M b
  have := Txn.nextVersion_unmetered M b
  mvcgen [Subscription.subscribe, Txn.read, Txn.write, Txn.now, Txn.ambient, readClock,
    Txn.fail, Txn.freshId, freshId, this]

theorem Subscription.unsubscribe_unmetered (sourceId : String) :
    (Subscription.unsubscribe sourceId).Unmetered := by
  intro M b
  have := Txn.nextVersion_unmetered M b
  mvcgen [Subscription.unsubscribe, Txn.read, Txn.write, Txn.now, Txn.ambient, readClock,
    Txn.fail, this]

theorem Subscription.get_unmetered (sourceId : String) : (Subscription.get sourceId).Unmetered := by
  intro M b
  mvcgen [Subscription.get, Txn.read, Txn.fail]

theorem Subscription.list_unmetered : Subscription.list.Unmetered := by
  intro M b
  mvcgen [Subscription.list, Txn.read]

theorem IdentityEvent.apply_unmetered (user : String) (ev : IdentityEvent) :
    (ev.apply user).Unmetered := by
  intro M b
  have := Txn.nextVersion_unmetered M b
  have hlog := logAt_unmetered M b
  mvcgen [IdentityEvent.apply, Txn.read, Txn.write, Txn.now, Txn.ambient, readClock,
    Txn.fail, hlog, this]

theorem schemaStatus_unmetered (user : String) : (schemaStatus user).Unmetered := by
  intro M b
  mvcgen [schemaStatus, listApplied, Txn.read]

theorem Sync.changesSince_unmetered (user : String) (since : Int) :
    (Sync.changesSince user since).Unmetered := by
  intro M b
  mvcgen [Sync.changesSince, Txn.read]

namespace Ingest

theorem upsertByProvider_unmetered (provider : String) (x : Incoming) (kind : Option ContentKind)
    (version : Int) (now : Instant) : (upsertByProvider provider x kind version now).Unmetered := by
  intro M b
  mvcgen [upsertByProvider, Txn.read, Txn.write, Txn.freshId, freshId, Txn.ambient]

theorem upsertByUrl_unmetered (x : Incoming) (kind : Option ContentKind) (version : Int)
    (now : Instant) : (upsertByUrl x kind version now).Unmetered := by
  intro M b
  mvcgen [upsertByUrl, Txn.read, Txn.write, Txn.freshId, freshId, Txn.ambient]

theorem ensureEntry_unmetered (itemId : String) (version : Int) (now : Instant) :
    (ensureEntry itemId version now).Unmetered := by
  intro M b
  mvcgen [ensureEntry, Txn.read, Txn.write, Txn.freshId, freshId, Txn.ambient]

attribute [local irreducible] Incoming.normalize in
theorem takeItems_unmetered (src : Source) (now : Instant) (items : List Incoming) :
    ∀ (i : Nat) (t : Tally), (takeItems src now i items t).Unmetered := by
  induction items with
  | nil =>
    intro i t M b
    mvcgen [takeItems]
  | cons raw rest ih =>
    intro i t M b
    have hrest := fun i t => ih i t M b
    have hnext := Txn.nextVersion_unmetered M b
    have hup := fun p x k v n => upsertByProvider_unmetered p x k v n M b
    have hensure := fun i v n => ensureEntry_unmetered i v n M b
    mvcgen [takeItems, Txn.read, Txn.write, hrest, hnext, hup, hensure]

theorem ingest_unmetered (maxBatch : Nat) (sourceId : String) (items : List Incoming) :
    (ingest maxBatch sourceId items).Unmetered := by
  intro M b
  have htake := fun src now => takeItems_unmetered src now items 0 {} M b
  have hcommit := Txn.commitVersion_unmetered M b
  mvcgen [ingest, Txn.withTicket, Txn.read, Txn.fail, Txn.now, Txn.ambient, readClock, htake,
    hcommit]

attribute [local irreducible] Content.cleanUrl Content.cleanText Incoming.parseKind Text.trim
  Text.toUpper Provider.parse? in
theorem save_unmetered (req : SaveRequest) : (save req).Unmetered := by
  intro M b
  have hnext := Txn.nextVersion_unmetered M b
  have hurl := fun x k v n => upsertByUrl_unmetered x k v n M b
  have hup := fun p x k v n => upsertByProvider_unmetered p x k v n M b
  have hensure := fun i v n => ensureEntry_unmetered i v n M b
  mvcgen [save, Txn.fail, Txn.now, Txn.ambient, readClock, hnext, hurl, hup, hensure]

end Ingest

attribute [local irreducible] Content.cleanUrl Content.cleanText Incoming.parseKind Text.trim
  Text.toUpper Provider.parse? Json.textField TriageState.name in
theorem Sync.MutationKind.effect_unmetered (k : Sync.MutationKind) (a : Json) :
    (k.effect a).Unmetered := by
  intro M b
  have htransition := fun e t => Triage.transition_unmetered e t M b
  have hsave := fun r => Ingest.save_unmetered r M b
  have hunsubscribe := fun s => Subscription.unsubscribe_unmetered s M b
  mvcgen [Sync.MutationKind.effect, htransition, hsave, hunsubscribe]

attribute [local irreducible] Sync.Mutation.parse in
theorem Sync.Mutation.run_unmetered (m : Sync.Mutation) : m.run.Unmetered := by
  intro M b
  have heffect := fun k a => Sync.MutationKind.effect_unmetered k a M b
  mvcgen [Sync.Mutation.run, Txn.fail, heffect]

theorem Sync.loadClient_unmetered (req : Sync.PushRequest) : (Sync.loadClient req).Unmetered := by
  intro M b
  mvcgen [Sync.loadClient, Txn.read, Txn.write, Txn.now, Txn.ambient, readClock, Txn.fail]

theorem Sync.advanceClient_unmetered (cl : Client) (id : Int) :
    (Sync.advanceClient cl id).Unmetered := by
  intro M b
  have hnext := Txn.nextVersion_unmetered M b
  have hcommit := Txn.commitVersion_unmetered M b
  mvcgen [Sync.advanceClient, Txn.write, Txn.now, Txn.ambient, readClock, hnext, hcommit]

/-! ## The client rows -/

namespace Store.Database

/-- The store holds client rows only in its clients table. -/
def ClientsInTable (d : Database) : Prop := d.clients ≠ [] → d.has .clients = true

theorem insertClient_has {d d' : Database} {c : Client} (h : d.insertClient c = .ok d') :
    d.has .clients = true := by
  simp only [insertClient, needVersionForInsert, need, Sql.bind_eq_ok, Sql.pure_eq_ok,
    ite_eq_iff, Sql.throw_eq_ok] at h
  grind

namespace ClientsInTable

variable {d d' : Database}

/-- Rows whose clients are as present as before, in the same tables, stay in their table. -/
theorem of_eq (h : d.ClientsInTable) (hc : d'.clients = [] ↔ d.clients = [])
    (ht : d'.tables = d.tables) : d'.ClientsInTable := by
  intro hne
  simp only [Database.has, ht]
  exact h (fun h' => hne (hc.2 h'))

theorem insertItem {i : Item} (hw : d.insertItem i = .ok d') (h : d.ClientsInTable) :
    d'.ClientsInTable := by
  rw [insertItem_ok hw]
  exact h

theorem updateItem {i : Item} (hw : d.updateItem i = .ok d') (h : d.ClientsInTable) :
    d'.ClientsInTable := by
  rw [updateItem_ok hw]
  exact h

theorem insertEntry {e : Entry} (hw : d.insertEntry e = .ok d') (h : d.ClientsInTable) :
    d'.ClientsInTable := by
  rw [insertEntry_ok hw]
  exact h

theorem updateEntry {e : Entry} {hit : Bool} (hw : d.updateEntry e = .ok (d', hit))
    (h : d.ClientsInTable) : d'.ClientsInTable := by
  obtain ⟨rfl, -⟩ := Prod.mk.inj (updateEntry_ok hw)
  exact h

theorem insertSource {src : Source} (hw : d.insertSource src = .ok d') (h : d.ClientsInTable) :
    d'.ClientsInTable := by
  rw [insertSource_ok hw]
  exact h

theorem deleteSource {id : String} (hw : d.deleteSource id = .ok d') (h : d.ClientsInTable) :
    d'.ClientsInTable := by
  rw [deleteSource_ok hw]
  exact h

theorem markSeen {m : SeenMark} (hw : d.markSeen m = .ok d') (h : d.ClientsInTable) :
    d'.ClientsInTable := by
  rcases markSeen_ok hw with rfl | rfl <;> exact h

theorem upsertProfile {p : Profile} (hw : d.upsertProfile p = .ok d') (h : d.ClientsInTable) :
    d'.ClientsInTable := by
  rcases upsertProfile_ok hw with ⟨-, rfl⟩ | ⟨_, -, rfl⟩ <;> exact h

theorem putTombstone {t : Tombstone} (hw : d.putTombstone t = .ok d') (h : d.ClientsInTable) :
    d'.ClientsInTable := by
  rw [putTombstone_ok hw]
  exact h

theorem advanceCounter {v w : Int} {hit : Bool} (hw : d.advanceCounter v w = .ok (d', hit))
    (h : d.ClientsInTable) : d'.ClientsInTable := by
  obtain ⟨rfl, -⟩ := Prod.mk.inj (advanceCounter_ok hw)
  split <;> exact h

/-- A client is inserted only into a store that has the clients table. -/
theorem insertClient {c : Client} (hw : d.insertClient c = .ok d') : d'.ClientsInTable := by
  have hhas := insertClient_has hw
  rw [insertClient_ok hw]
  exact fun _ => hhas

theorem saveClient {c : Client} (hw : d.saveClient c = .ok d') (h : d.ClientsInTable) :
    d'.ClientsInTable := by
  rw [saveClient_ok hw]
  exact h.of_eq (by simp [replaceById]) rfl

theorem touchClient {id : String} {t : Instant} (hw : d.touchClient id t = .ok d')
    (h : d.ClientsInTable) : d'.ClientsInTable := by
  rw [touchClient_ok hw]
  exact h.of_eq (by simp) rfl

end ClientsInTable

end Store.Database

/-! ## Bodies keep the client rows in their table -/

theorem Store.Txn.nextVersion_clientsInTable :
    ⦃fun s _ => ⌜s.db.ClientsInTable⌝⦄ Txn.nextVersion ⦃⇓? _ s _ => ⌜s.db.ClientsInTable⌝⦄ := by
  mvcgen [Txn.nextVersion, Txn.loadTicket, Txn.currentVersion, Txn.read, Txn.failWith]

theorem Store.Txn.commitVersion_clientsInTable :
    ⦃fun s _ => ⌜s.db.ClientsInTable⌝⦄ Txn.commitVersion ⦃⇓? _ s _ => ⌜s.db.ClientsInTable⌝⦄ := by
  mvcgen [Txn.commitVersion, Txn.advanceVersion, Txn.loadTicket, Txn.currentVersion, Txn.read,
    Txn.failWith, Txn.writeCounting]
  all_goals exact .advanceCounter ‹_› ‹_›

theorem Triage.transition_clientsInTable (entryId target : String) :
    ⦃fun s _ => ⌜s.db.ClientsInTable⌝⦄ Triage.transition entryId target
    ⦃⇓? _ s _ => ⌜s.db.ClientsInTable⌝⦄ := by
  have := Txn.nextVersion_clientsInTable
  mvcgen [Triage.transition, Txn.read, Txn.writeCounting, Txn.now, Txn.ambient, readClock,
    Txn.fail, this]
  exact .updateEntry ‹_› ‹_›

attribute [local irreducible] Text.trim Text.toUpper Provider.parse? Json.valid in
theorem Subscription.subscribe_clientsInTable (req : SubscribeRequest) :
    ⦃fun s _ => ⌜s.db.ClientsInTable⌝⦄ Subscription.subscribe req
    ⦃⇓? _ s _ => ⌜s.db.ClientsInTable⌝⦄ := by
  have := Txn.nextVersion_clientsInTable
  mvcgen [Subscription.subscribe, Txn.read, Txn.write, Txn.now, Txn.ambient, readClock,
    Txn.fail, Txn.freshId, freshId, this]
  exact .insertSource ‹_› ‹_›

theorem Subscription.unsubscribe_clientsInTable (sourceId : String) :
    ⦃fun s _ => ⌜s.db.ClientsInTable⌝⦄ Subscription.unsubscribe sourceId
    ⦃⇓? _ s _ => ⌜s.db.ClientsInTable⌝⦄ := by
  have := Txn.nextVersion_clientsInTable
  mvcgen [Subscription.unsubscribe, Txn.read, Txn.write, Txn.now, Txn.ambient, readClock,
    Txn.fail, this]
  exact .putTombstone ‹_› (.deleteSource ‹_› ‹_›)

theorem IdentityEvent.apply_clientsInTable (user : String) (ev : IdentityEvent) :
    ⦃fun s _ => ⌜s.db.ClientsInTable⌝⦄ ev.apply user ⦃⇓? _ s _ => ⌜s.db.ClientsInTable⌝⦄ := by
  have := Txn.nextVersion_clientsInTable
  mvcgen [IdentityEvent.apply, Txn.read, Txn.write, Txn.now, Txn.ambient, readClock,
    Txn.fail, logAt, this]
  all_goals exact .upsertProfile ‹_› ‹_›

namespace Ingest

theorem upsertByProvider_clientsInTable (provider : String) (x : Incoming)
    (kind : Option ContentKind) (version : Int) (now : Instant) :
    ⦃fun s _ => ⌜s.db.ClientsInTable⌝⦄ upsertByProvider provider x kind version now
    ⦃⇓? _ s _ => ⌜s.db.ClientsInTable⌝⦄ := by
  mvcgen [upsertByProvider, Txn.read, Txn.write, Txn.freshId, freshId, Txn.ambient]
  · exact .updateItem ‹_› ‹_›
  · exact .insertItem ‹_› ‹_›

theorem upsertByUrl_clientsInTable (x : Incoming) (kind : Option ContentKind) (version : Int)
    (now : Instant) :
    ⦃fun s _ => ⌜s.db.ClientsInTable⌝⦄ upsertByUrl x kind version now
    ⦃⇓? _ s _ => ⌜s.db.ClientsInTable⌝⦄ := by
  mvcgen [upsertByUrl, Txn.read, Txn.write, Txn.freshId, freshId, Txn.ambient]
  exact .insertItem ‹_› ‹_›

theorem ensureEntry_clientsInTable (itemId : String) (version : Int) (now : Instant) :
    ⦃fun s _ => ⌜s.db.ClientsInTable⌝⦄ ensureEntry itemId version now
    ⦃⇓? _ s _ => ⌜s.db.ClientsInTable⌝⦄ := by
  mvcgen [ensureEntry, Txn.read, Txn.write, Txn.freshId, freshId, Txn.ambient]
  exact .insertEntry ‹_› ‹_›

attribute [local irreducible] Incoming.normalize in
theorem takeItems_clientsInTable (src : Source) (now : Instant) (items : List Incoming) :
    ∀ (i : Nat) (t : Tally), ⦃fun s _ => ⌜s.db.ClientsInTable⌝⦄ takeItems src now i items t
    ⦃⇓? _ s _ => ⌜s.db.ClientsInTable⌝⦄ := by
  induction items with
  | nil =>
    intro i t
    mvcgen [takeItems]
  | cons raw rest ih =>
    intro i t
    have hnext := Txn.nextVersion_clientsInTable
    have hup := upsertByProvider_clientsInTable
    have hensure := ensureEntry_clientsInTable
    mvcgen [takeItems, Txn.read, Txn.write, ih, hnext, hup, hensure]
    exact .markSeen ‹_› ‹_›

theorem ingest_clientsInTable (maxBatch : Nat) (sourceId : String) (items : List Incoming) :
    ⦃fun s _ => ⌜s.db.ClientsInTable⌝⦄ ingest maxBatch sourceId items
    ⦃⇓? _ s _ => ⌜s.db.ClientsInTable⌝⦄ := by
  have htake := fun src now => takeItems_clientsInTable src now items 0 {}
  have hcommit := Txn.commitVersion_clientsInTable
  mvcgen [ingest, Txn.withTicket, Txn.read, Txn.fail, Txn.now, Txn.ambient, readClock, htake,
    hcommit]

attribute [local irreducible] Content.cleanUrl Content.cleanText Incoming.parseKind Text.trim
  Text.toUpper Provider.parse? in
theorem save_clientsInTable (req : SaveRequest) :
    ⦃fun s _ => ⌜s.db.ClientsInTable⌝⦄ save req ⦃⇓? _ s _ => ⌜s.db.ClientsInTable⌝⦄ := by
  have hnext := Txn.nextVersion_clientsInTable
  have hurl := upsertByUrl_clientsInTable
  have hup := upsertByProvider_clientsInTable
  have hensure := ensureEntry_clientsInTable
  mvcgen [save, Txn.fail, Txn.now, Txn.ambient, readClock, hnext, hurl, hup, hensure]

end Ingest

attribute [local irreducible] Content.cleanUrl Content.cleanText Incoming.parseKind Text.trim
  Text.toUpper Provider.parse? Json.textField TriageState.name in
theorem Sync.MutationKind.effect_clientsInTable (k : Sync.MutationKind) (a : Json) :
    ⦃fun s _ => ⌜s.db.ClientsInTable⌝⦄ k.effect a ⦃⇓? _ s _ => ⌜s.db.ClientsInTable⌝⦄ := by
  have htransition := Triage.transition_clientsInTable
  have hsave := Ingest.save_clientsInTable
  have hunsubscribe := Subscription.unsubscribe_clientsInTable
  mvcgen [Sync.MutationKind.effect, htransition, hsave, hunsubscribe]

attribute [local irreducible] Sync.Mutation.parse in
theorem Sync.Mutation.run_clientsInTable (m : Sync.Mutation) :
    ⦃fun s _ => ⌜s.db.ClientsInTable⌝⦄ m.run ⦃⇓? _ s _ => ⌜s.db.ClientsInTable⌝⦄ := by
  have heffect := Sync.MutationKind.effect_clientsInTable
  mvcgen [Sync.Mutation.run, Txn.fail, heffect]

theorem Sync.loadClient_clientsInTable (req : Sync.PushRequest) :
    ⦃fun s _ => ⌜s.db.ClientsInTable⌝⦄ Sync.loadClient req ⦃⇓? _ s _ => ⌜s.db.ClientsInTable⌝⦄ := by
  mvcgen [Sync.loadClient, Txn.read, Txn.write, Txn.now, Txn.ambient, readClock, Txn.fail]
  exact .insertClient ‹_›

theorem Sync.advanceClient_clientsInTable (cl : Client) (id : Int) :
    ⦃fun s _ => ⌜s.db.ClientsInTable⌝⦄ Sync.advanceClient cl id
    ⦃⇓? _ s _ => ⌜s.db.ClientsInTable⌝⦄ := by
  have hnext := Txn.nextVersion_clientsInTable
  have hcommit := Txn.commitVersion_clientsInTable
  mvcgen [Sync.advanceClient, Txn.write, Txn.now, Txn.ambient, readClock, hnext, hcommit]
  exact .saveClient ‹_› ‹_›

/-! ## A push keeps the client rows in their table -/

namespace Sync

variable {req : PushRequest}

/-- The first transaction of a mutation keeps the client rows in their table. -/
theorem firstAttempt_clientsInTable (m : Mutation) :
    ⦃fun s _ => ⌜s.db.ClientsInTable⌝⦄ firstAttempt req m ⦃⇓? _ s _ => ⌜s.db.ClientsInTable⌝⦄ := by
  refine Txn.triple_iff.2 fun s amb hs => ?_
  simp only [firstAttempt, Txn.exec_bind]
  rcases hx : (loadClient req).exec s amb with ⟨f | ⟨cl, s₁⟩, amb₁⟩
  · trivial
  have hl := Txn.of_triple (loadClient_clientsInTable req) hs hx
  dsimp only
  by_cases hle : m.id ≤ cl.lastMutationId
  · -- a duplicate stamps its client
    rw [if_pos hle]
    simp only [Txn.exec_bind, Txn.exec_ambient, Txn.exec_now, Txn.exec_write]
    rcases hw : s₁.db.touchClient cl.id _ with e | db
    · trivial
    · exact .touchClient hw hl
  rw [if_neg hle]
  by_cases hgap : m.id > cl.lastMutationId + 1
  · rw [if_pos hgap]
    simp only [Txn.exec_bind, Txn.exec_fail]
  rw [if_neg hgap]
  simp only [Txn.exec_withTicket, Txn.exec_bind, Txn.exec_tryCatch, Txn.exec_pure]
  rcases hr : m.run.exec { db := s₁.db } amb₁ with ⟨f | ⟨⟨⟩, s₂⟩, amb₂⟩
  · -- a rejection leaves the store the client was loaded into
    rcases hp : f.problem? with _ | p <;> simp [hp, hl]
  · have h₂ := Txn.of_triple (Mutation.run_clientsInTable m)
      (show ({ db := s₁.db } : TxnState).db.ClientsInTable from hl) hr
    simp only [Txn.exec_bind]
    rcases ha : (advanceClient cl m.id).exec s₂ amb₂ with ⟨f | ⟨⟨⟩, s₃⟩, amb₃⟩
    · trivial
    · have h₃ := Txn.of_triple (advanceClient_clientsInTable cl m.id) h₂ ha
      simpa using h₃

/-- Processing a mutation keeps the client rows in their table, whatever it answers. -/
theorem process_clientsInTable {m : Mutation} {d d' : Database} {amb amb' : Ambient}
    {r : Except Failure (Int × Option Problem)} (h : (process req m).exec d amb = ((r, d'), amb'))
    (hd : d.ClientsInTable) : d'.ClientsInTable := by
  simp only [process, Work.exec_bind, Work.exec_get, Work.exec_attempt] at h
  rcases hf : (firstAttempt req m).exec ⟨d, {}⟩ amb with ⟨f | ⟨step, s⟩, amb₁⟩ <;> simp only [hf] at h
  · split at h <;> simp [Work.exec_bind] at h <;> obtain ⟨⟨-, rfl⟩, -⟩ := h <;> exact hd
  cases step with
  | done last =>
    simp only [Work.exec_pure, Prod.mk.injEq] at h
    obtain ⟨⟨-, rfl⟩, -⟩ := h
    exact Txn.of_triple (firstAttempt_clientsInTable m) hd hf
  | rejected p =>
    -- the second transaction runs from the store before the first
    have hsecond : ⦃fun s _ => ⌜s.db.ClientsInTable⌝⦄ Txn.withTicket (do
        let c ← loadClient req
        advanceClient c m.id) ⦃⇓? _ s _ => ⌜s.db.ClientsInTable⌝⦄ := by
      have hl := loadClient_clientsInTable req
      have ha := advanceClient_clientsInTable
      mvcgen [Txn.withTicket, hl, ha]
    have hkeep := Work.atomically_keeps hsecond amb₁ hd
    simp only [Work.exec_bind, Work.exec_set] at h
    simp only [Work.leaves] at hkeep
    rcases hx : (Work.atomically (Txn.withTicket (do
        let c ← loadClient req
        advanceClient c m.id))).exec d amb₁ with ⟨⟨_ | _, d₂⟩, amb₂⟩ <;> rw [hx] at hkeep h <;>
      simp at h <;> obtain ⟨⟨-, rfl⟩, -⟩ := h <;> exact hkeep

theorem processAll_clientsInTable {ms : List Mutation} {a : Int} {rs : List MutationRejection}
    {d d' : Database} {amb amb' : Ambient} {r : Except Failure (Int × List MutationRejection)}
    (h : (processAll req ms a rs).exec d amb = ((r, d'), amb')) (hd : d.ClientsInTable) :
    d'.ClientsInTable := by
  induction ms generalizing a rs d amb with
  | nil =>
    simp only [processAll, Work.exec_pure, Prod.mk.injEq] at h
    obtain ⟨⟨-, rfl⟩, -⟩ := h
    exact hd
  | cons m rest ih =>
    simp only [processAll, Work.exec_bind] at h
    rcases hp : (process req m).exec d amb with ⟨⟨_ | ⟨last, rej⟩, d₁⟩, amb₁⟩ <;> rw [hp] at h
    · simp only [Prod.mk.injEq] at h
      obtain ⟨⟨-, rfl⟩, -⟩ := h
      exact process_clientsInTable hp hd
    · exact ih h (process_clientsInTable hp hd)

/-- A push keeps the client rows in their table. -/
theorem push_clientsInTable (n : Nat) (req : PushRequest) {d : Database} (amb : Ambient)
    (hd : d.ClientsInTable) : ((push n req).leaves d amb).1.ClientsInTable := by
  rcases hx : (push n req).exec d amb with ⟨⟨r, d'⟩, amb'⟩
  simp only [Work.leaves, hx]
  rcases push_stores hx with rfl | ⟨-, _, _, hp⟩
  · exact hd
  · exact processAll_clientsInTable hp hd

end Sync

/-! ## Bringing a schema up to date -/

namespace Store

theorem Database.clearRows_clients (d : Database) {t : Table} (ht : t ≠ .clients) :
    (d.clearRows t).clients = d.clients := by
  cases t <;> first | rfl | exact absurd rfl ht

theorem Database.ClientsInTable.of_extends {d d' : Database} (h : d.ClientsInTable)
    (hc : d'.clients = d.clients) (he : d.Extends d') : d'.ClientsInTable :=
  fun hne => he.tables _ (h (hc ▸ hne))

/-- A schema step keeps the clients of a store that holds them in their table: the clients table
is created only where there is none, so where there are no clients. -/
theorem SchemaStep.run_clients {step : SchemaStep} {d d' : Database} (hr : step.run d = .ok d')
    (h : d.ClientsInTable) : d'.clients = d.clients := by
  cases step with
  | createTable t =>
    simp only [SchemaStep.run, Database.createTable] at hr
    split at hr
    · cases hr
    rename_i hnew
    cases hr
    by_cases ht : t = .clients
    · subst ht
      have hnone : d.clients = [] := by
        by_contra hne
        exact hnew (h hne)
      simp [Database.clearRows, hnone]
    · exact Database.clearRows_clients d ht
  | createIndex name t onVersion =>
    obtain rfl : d' = { d with indexes := d.indexes ++ [(name, t)] } := by
      simp only [SchemaStep.run, Database.createIndex, Sql.bind_eq_ok, Sql.pure_eq_ok, ite_eq_iff,
        Sql.throw_eq_ok] at hr
      grind
    rfl
  | addVersionColumn t =>
    obtain rfl : d' = { d with versioned := d.versioned ++ [t] } := by
      simp only [SchemaStep.run, Database.addVersionColumn, Database.need, Sql.bind_eq_ok,
        Sql.pure_eq_ok, ite_eq_iff, Sql.throw_eq_ok] at hr
      grind
    rfl
  | seedCounter =>
    obtain rfl : d' = { d with counter := some 0 } := by
      simp only [SchemaStep.run, Database.seedCounter, Database.need, Database.fire,
        Sql.bind_eq_ok, Sql.pure_eq_ok, ite_eq_iff, Sql.throw_eq_ok] at hr
      grind
    rfl

theorem runSteps_clients {steps : List SchemaStep} {d d' : Database}
    (hr : Migration.runSteps d steps = .ok d') (h : d.ClientsInTable) :
    d'.clients = d.clients ∧ d'.ClientsInTable := by
  induction steps generalizing d with
  | nil =>
    cases hr
    exact ⟨rfl, h⟩
  | cons step rest ih =>
    obtain ⟨d₁, h₁, hrest⟩ := Sql.bind_eq_ok.1 hr
    have hc₁ := SchemaStep.run_clients h₁ h
    obtain ⟨hc, hin⟩ := ih hrest (h.of_extends hc₁ (SchemaStep.run_extends h₁).1)
    exact ⟨hc.trans hc₁, hin⟩

theorem Migration.apply_clients {m : Migration} {now : Instant} {d d' : Database}
    (hr : m.apply d now = .ok d') (h : d.ClientsInTable) :
    d'.clients = d.clients ∧ d'.ClientsInTable := by
  obtain ⟨d₁, h₁, hrec⟩ := Sql.bind_eq_ok.1 hr
  obtain rfl : d' = { d₁ with applied := d₁.applied ++ [⟨m.version, m.name, now, m.checksum⟩] } := by
    simp only [Database.recordMigration, Sql.bind_eq_ok, Sql.pure_eq_ok, ite_eq_iff,
      Sql.throw_eq_ok] at hrec
    grind
  have hsteps := runSteps_clients h₁ h
  exact hsteps

/-- Creating the ledger of migrations keeps the clients, in their table. -/
theorem Database.ensureLedger_clients {d : Database} {C : List Client}
    (h : d.clients = C ∧ d.ClientsInTable) :
    d.ensureLedger.clients = C ∧ d.ensureLedger.ClientsInTable := by
  unfold Database.ensureLedger
  split
  · exact h
  · refine ⟨h.1, fun hne => ?_⟩
    have hhas : d.has .clients = true := h.2 hne
    simp only [Database.has, List.contains_append, Bool.or_eq_true] at hhas ⊢
    exact Or.inl hhas

theorem applyAll_clients (user : String) (ms : List Migration) (C : List Client) :
    ∀ n, ⦃fun d _ => ⌜d.clients = C ∧ d.ClientsInTable⌝⦄ applyAll user ms n
    ⦃⇓ _ d _ => ⌜d.clients = C ∧ d.ClientsInTable⌝⦄ := by
  induction ms with
  | nil =>
    intro n
    mvcgen [Store.applyAll]
  | cons m rest ih =>
    intro n
    mvcgen [Store.applyAll, ih, readClock, logAt]
    rename_i h _ hm _
    obtain ⟨hc, hin⟩ := Migration.apply_clients hm h.2
    exact ⟨hc.trans h.1, hin⟩

/-- **Bringing a store up to date keeps its clients**, when they are in their table, and keeps
them there. -/
theorem ensureSchema_clients (user : String) (C : List Client) :
    ⦃fun d _ => ⌜d.clients = C ∧ d.ClientsInTable⌝⦄ ensureSchema user
    ⦃⇓ _ d _ => ⌜d.clients = C ∧ d.ClientsInTable⌝⦄ := by
  have happly := applyAll_clients user
  mvcgen [ensureSchema, Runner.ensureSchema, happly]
  all_goals exact Database.ensureLedger_clients ‹_›

/-- Bringing a store up to date reads the clock and logs, and records nothing in the metrics. -/
theorem ensureSchema_unmetered (user : String) (M : Metrics) (b : Bool) :
    ⦃fun _ a => ⌜a.metrics = M ∧ a.metering = b⌝⦄ ensureSchema user
    ⦃⇓ _ _ a => ⌜a.metrics = M ∧ a.metering = b⌝⦄ := by
  have hlog := logAt_unmetered M b
  have happly : ∀ ms n, ⦃fun _ a => ⌜a.metrics = M ∧ a.metering = b⌝⦄ applyAll user ms n
      ⦃⇓ _ _ a => ⌜a.metrics = M ∧ a.metering = b⌝⦄ := by
    intro ms
    induction ms with
    | nil =>
      intro n
      mvcgen [Store.applyAll]
    | cons m rest ih =>
      intro n
      mvcgen [Store.applyAll, ih, readClock, hlog]
  mvcgen [ensureSchema, Runner.ensureSchema, happly]

end Store

end ReadLater
