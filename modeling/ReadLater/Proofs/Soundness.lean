import Mathlib
import ReadLater.Proofs.Store.Keys
import ReadLater.Proofs.RowVersions

/-!
# Sound keys in every store the service reaches

`Database.Sound` says that every table holds each id once, that no live source shares its id with
a source's tombstone, that every client belongs to a group and that the tables a pull reads are
in place. It holds of a new store once its schema is up to date, and every operation keeps it
when the ids it draws name no deleted row:

* every transaction body keeps it, write by write (`Ingest.ingest_sound`,
  `Subscription.subscribe_sound`, …), and a push keeps it mutation by mutation
  (`Sync.push_sound`);
* **`Operation.exec_sound`**: every operation keeps it, committed or not;
* **`Store.newStore_sound`**: a new store whose schema update succeeded is sound, since every
  step of the released migrations leaves its table, version column or counter in place.
-/

namespace ReadLater

open Std.Do Store

set_option mvcgen.warning false

theorem Store.Txn.nextVersion_sound :
    ⦃fun s _ => ⌜s.db.Sound⌝⦄ Txn.nextVersion ⦃⇓? _ s _ => ⌜s.db.Sound⌝⦄ := by
  mvcgen [Txn.nextVersion, Txn.loadTicket, Txn.currentVersion, Txn.read, Txn.failWith]

/-- Asking for the next version leaves the store and the ambient services alone. -/
theorem Store.Txn.nextVersion_frame (D : Database) (A : Ambient) :
    ⦃fun s a => ⌜s.db = D ∧ a = A⌝⦄ Txn.nextVersion ⦃⇓? _ s a => ⌜s.db = D ∧ a = A⌝⦄ := by
  mvcgen [Txn.nextVersion, Txn.loadTicket, Txn.currentVersion, Txn.read, Txn.failWith]

theorem Store.Txn.commitVersion_sound :
    ⦃fun s _ => ⌜s.db.Sound⌝⦄ Txn.commitVersion ⦃⇓? _ s _ => ⌜s.db.Sound⌝⦄ := by
  mvcgen [Txn.commitVersion, Txn.advanceVersion, Txn.loadTicket, Txn.currentVersion, Txn.read,
    Txn.failWith, Txn.writeCounting]
  all_goals exact Database.Sound.advanceCounter ‹_› ‹_›

theorem Triage.transition_sound (entryId target : String) :
    ⦃fun s _ => ⌜s.db.Sound⌝⦄ Triage.transition entryId target ⦃⇓? _ s _ => ⌜s.db.Sound⌝⦄ := by
  have := Txn.nextVersion_sound
  mvcgen [Triage.transition, Txn.read, Txn.writeCounting, Txn.now, Txn.ambient, readClock,
    Txn.fail, this]
  rename_i h _ _ hw _ _
  exact h.updateEntry hw

theorem Subscription.unsubscribe_sound (sourceId : String) :
    ⦃fun s _ => ⌜s.db.Sound⌝⦄ Subscription.unsubscribe sourceId ⦃⇓? _ s _ => ⌜s.db.Sound⌝⦄ := by
  have := Txn.nextVersion_sound
  mvcgen [Subscription.unsubscribe, Txn.read, Txn.write, Txn.now, Txn.ambient, readClock,
    Txn.fail, this]
  rename_i h _ hdel _ hput
  exact (h.deleteSource hdel).putTombstone hput fun _ => Database.Sound.deleteSource_gone hdel

theorem IdentityEvent.apply_sound (user : String) (ev : IdentityEvent) :
    ⦃fun s _ => ⌜s.db.Sound⌝⦄ ev.apply user ⦃⇓? _ s _ => ⌜s.db.Sound⌝⦄ := by
  have := Txn.nextVersion_sound
  mvcgen [IdentityEvent.apply, Txn.read, Txn.write, Txn.now, Txn.ambient, readClock,
    Txn.fail, logAt, this]
  all_goals
    rename_i h _ hw
    exact h.upsertProfile hw

attribute [local irreducible] Text.trim Text.toUpper Provider.parse? Json.valid in
theorem Subscription.subscribe_sound (req : SubscribeRequest) (N : Nat) :
    ⦃fun s a => ⌜s.db.Sound ∧ ∀ k, a.issued < k → k ≤ N → ∀ t ∈ s.db.tombstones,
      t.entityId ≠ Ambient.idText k⌝⦄
    Subscription.subscribe req
    ⦃⇓? _ s a => ⌜a.issued ≤ N → s.db.Sound⌝⦄ := by
  mvcgen [Subscription.subscribe, Txn.read, Txn.write, Txn.now, Txn.ambient, readClock,
    Txn.fail, Txn.freshId, freshId, Txn.nextVersion_frame]
  · rename_i h _ _ _ _
    exact fun _ => h.1
  · -- the new source takes the first id issued, which names no tombstone
    rename_i hpre _ _ _ _ _ _ _ _ hframe _ _ hw
    intro hN
    obtain ⟨hdb, rfl⟩ := hframe
    rw [hdb] at hw
    exact hpre.1.insertSource hw fun t ht _ => hpre.2 _ (Nat.lt_succ_self _) hN t ht

/-- A subscription whose ids name no tombstone keeps the keys sound through its transaction. -/
theorem Subscription.subscribe_versioned_sound (req : SubscribeRequest) (N : Nat) :
    ⦃fun s a => ⌜s.db.Sound ∧ ∀ k, a.issued < k → k ≤ N → ∀ t ∈ s.db.tombstones,
      t.entityId ≠ Ambient.idText k⌝⦄
    (do let (r, _) ← Txn.versioned (Subscription.subscribe req); return r)
    ⦃⇓? _ s a => ⌜a.issued ≤ N → s.db.Sound⌝⦄ := by
  have hbody := Subscription.subscribe_sound req N
  mvcgen [Txn.versioned, Txn.withTicket, hbody, Txn.commitVersion, Txn.advanceVersion,
    Txn.loadTicket, Txn.currentVersion, Txn.read, Txn.failWith, Txn.writeCounting]
  -- the commit moves the counter of the body's store
  all_goals exact fun hN => Database.Sound.advanceCounter (‹_ ≤ N → _› hN) ‹_›

/-! ## Ingest and mutations -/

namespace Ingest

theorem upsertByProvider_sound (provider : String) (x : Incoming) (kind : Option ContentKind)
    (version : Int) (now : Clock.Instant) :
    ⦃fun s _ => ⌜s.db.Sound⌝⦄ upsertByProvider provider x kind version now
    ⦃⇓? _ s _ => ⌜s.db.Sound⌝⦄ := by
  mvcgen [upsertByProvider, Txn.read, Txn.write, Txn.freshId, freshId, Txn.ambient]
  · rename_i h _ _ _ _ _ _ hw
    exact h.updateItem hw
  · rename_i h _ _ _ _ _ hw
    exact h.insertItem hw

theorem upsertByUrl_sound (x : Incoming) (kind : Option ContentKind) (version : Int)
    (now : Clock.Instant) :
    ⦃fun s _ => ⌜s.db.Sound⌝⦄ upsertByUrl x kind version now ⦃⇓? _ s _ => ⌜s.db.Sound⌝⦄ := by
  mvcgen [upsertByUrl, Txn.read, Txn.write, Txn.freshId, freshId, Txn.ambient]
  rename_i h _ _ _ _ _ hw
  exact h.insertItem hw

theorem ensureEntry_sound (itemId : String) (version : Int) (now : Clock.Instant) :
    ⦃fun s _ => ⌜s.db.Sound⌝⦄ ensureEntry itemId version now ⦃⇓? _ s _ => ⌜s.db.Sound⌝⦄ := by
  mvcgen [ensureEntry, Txn.read, Txn.write, Txn.freshId, freshId, Txn.ambient]
  rename_i h _ _ _ _ _ hw
  exact h.insertEntry hw

attribute [local irreducible] Incoming.normalize in
theorem takeItems_sound (src : Source) (now : Clock.Instant) (items : List Incoming) :
    ∀ (i : Nat) (t : Tally), ⦃fun s _ => ⌜s.db.Sound⌝⦄ takeItems src now i items t
    ⦃⇓? _ s _ => ⌜s.db.Sound⌝⦄ := by
  induction items with
  | nil =>
    intro i t
    mvcgen [takeItems]
  | cons raw rest ih =>
    intro i t
    have hnext := Txn.nextVersion_sound
    have hup := upsertByProvider_sound
    have hensure := ensureEntry_sound
    mvcgen [takeItems, Txn.read, Txn.write, ih, hnext, hup, hensure]
    rename_i h _ hw
    exact h.markSeen hw

attribute [local irreducible] Content.cleanUrl Content.cleanText Incoming.parseKind Text.trim
  Text.toUpper Provider.parse? in
theorem save_sound (req : SaveRequest) :
    ⦃fun s _ => ⌜s.db.Sound⌝⦄ save req ⦃⇓? _ s _ => ⌜s.db.Sound⌝⦄ := by
  have hnext := Txn.nextVersion_sound
  have hurl := upsertByUrl_sound
  have hup := upsertByProvider_sound
  have hensure := ensureEntry_sound
  mvcgen [save, Txn.fail, Txn.now, Txn.ambient, readClock, hnext, hurl, hup, hensure]

end Ingest

attribute [local irreducible] Content.cleanUrl Content.cleanText Incoming.parseKind Text.trim
  Text.toUpper Provider.parse? Json.textField TriageState.name in
theorem Sync.MutationKind.effect_sound (k : Sync.MutationKind) (a : Json) :
    ⦃fun s _ => ⌜s.db.Sound⌝⦄ k.effect a ⦃⇓? _ s _ => ⌜s.db.Sound⌝⦄ := by
  have htransition := Triage.transition_sound
  have hsave := Ingest.save_sound
  have hunsubscribe := Subscription.unsubscribe_sound
  mvcgen [Sync.MutationKind.effect, htransition, hsave, hunsubscribe]

attribute [local irreducible] Sync.Mutation.parse in
theorem Sync.Mutation.run_sound (m : Sync.Mutation) :
    ⦃fun s _ => ⌜s.db.Sound⌝⦄ m.run ⦃⇓? _ s _ => ⌜s.db.Sound⌝⦄ := by
  have heffect := Sync.MutationKind.effect_sound
  mvcgen [Sync.Mutation.run, Txn.fail, heffect]

theorem Ingest.ingest_sound (maxBatch : Nat) (sourceId : String) (items : List Incoming) :
    ⦃fun s _ => ⌜s.db.Sound⌝⦄ Ingest.ingest maxBatch sourceId items ⦃⇓? _ s _ => ⌜s.db.Sound⌝⦄ := by
  have htake := Ingest.takeItems_sound
  mvcgen [Ingest.ingest, Txn.withTicket, Txn.read, Txn.fail, Txn.now, Txn.ambient, readClock,
    htake, Txn.commitVersion_sound]

/-! ## Pushes -/

namespace Store.Database.Sound

variable {d : Database}

theorem touched (h : d.Sound) (c : String) (t : Clock.Instant) : (d.touched c t).Sound := by
  refine h.mapClients (fun r => ?_) (fun r => ?_) <;> split <;> rfl

theorem advanced (h : d.Sound) {cl : Client} (hg : cl.groupId ≠ "") (id : Int) (t : Clock.Instant)
    (V : Int) : (d.advanced cl id t V).Sound := by
  have hcl := h.replaceClient (c := { cl with lastMutationId := id, lastModified := t, version := V + 1 }) hg
  exact { hcl with ready := ⟨h.ready.1, rfl, h.ready.2.2⟩ }

end Store.Database.Sound

namespace Sync

variable {req : PushRequest}

/-- The client a push loads, found or created in its group, keeps the keys sound. -/
theorem ClientLoaded.sound {d dE : Database} {cl : Client} (hload : ClientLoaded req d cl dE)
    (h : d.Sound) (hg : req.groupId ≠ "") : dE.Sound := by
  cases hload with
  | found => exact h
  | created t hnone =>
    have hids : ((d.clients ++ [(⟨req.clientId, req.groupId, 0, t, 0⟩ : Client)]).map
        (·.id)).Nodup :=
      Database.nodup_map_append h.clients fun x hx hid => by
        have := List.find?_eq_none.1 hnone x hx
        simp [hid] at this
    refine { h with clients := hids, groups := fun x hx => ?_ }
    · rcases List.mem_append.1 hx with hx | hx
      · exact h.groups x hx
      · rw [List.mem_singleton] at hx
        exact hx ▸ hg

/-- The commit of a client's next mutation keeps the keys sound. -/
theorem Commits.sound {m : Mutation} {d d' : Database} {p : Option Problem} (h : d.Sound)
    (hg : req.groupId ≠ "") (hc : Commits req m d p d') : d'.Sound := by
  cases hc with
  | applied t hload hV hrun =>
    have hE := hload.sound h hg
    have hs := Txn.of_triple (P := fun s _ => s.db.Sound) (Mutation.run_sound m) hE hrun
    exact hs.advanced (hE.groups _ hload.mem) _ _ _
  | rejected t hrej hload hV =>
    have hE := hload.sound h hg
    exact hE.advanced (hE.groups _ hload.mem) _ _ _

/-- A pass over a push's mutations keeps the keys sound. -/
theorem Replays.sound {d d' : Database} {ms cs : List Mutation} (hr : Replays req d ms d' cs)
    (h : d.Sound) (hg : req.groupId ≠ "") : d'.Sound := by
  induction hr with
  | nil => exact h
  | halt => exact h
  | duplicate t _ _ _ _ ih => exact ih (h.touched _ t)
  | commit _ hc _ ih => exact ih (hc.sound h hg)

/-- A push without a client group changes nothing. -/
theorem push_leaves_groupless {n : Nat} (hg : req.groupId = "") (d : Database) (amb : Ambient) :
    ((push n req).leaves d amb).1 = d := by
  simp only [Work.leaves, push]
  split
  · simp only [Work.exec_bind, Work.exec_fail]
  · rename_i hne
    simp [hg] at hne

theorem push_sound (n : Nat) (req : PushRequest) {d : Database} (amb : Ambient) (h : d.Sound) :
    ((push n req).leaves d amb).1.Sound := by
  by_cases hg : req.groupId = ""
  · rw [push_leaves_groupless hg]
    exact h
  · rcases hx : (push n req).exec d amb with ⟨⟨r, d'⟩, amb'⟩
    obtain ⟨cs, hr⟩ := push_replays hx
    simp only [Work.leaves, hx]
    exact hr.sound h hg

end Sync

/-! ## Every operation -/

namespace Operation

/-- The ids the operation draws name no deleted row of the store. -/
def DrawsFreshIds (op : Operation) (d : Database) (amb : Ambient) : Prop :=
  ∀ k, amb.issued < k → k ≤ (op.exec d amb).2.issued → ∀ t ∈ d.tombstones,
    t.entityId ≠ Ambient.idText k

/-- **Every operation keeps the keys sound**, when the ids it draws name no deleted row. -/
theorem exec_sound {op : Operation} {d : Database} {amb : Ambient} (h : d.Sound)
    (hfresh : op.DrawsFreshIds d amb) : (op.exec d amb).1.Sound := by
  cases op with
  | push n req => exact Sync.push_sound n req amb h
  | pull user req =>
    rw [exec, Sync.pull_keeps]
    exact h
  | ingest n sourceId items => exact Work.atomically_keeps (P := Database.Sound) (Ingest.ingest_sound n sourceId items) amb h
  | subscribe req =>
    -- the subscription draws the ids up to the ambient it ends with
    simp only [DrawsFreshIds, exec, Work.leaves, Work.exec_atomically] at hfresh ⊢
    split
    · rename_i a s amb' hrun
      simp only [hrun] at hfresh
      exact Txn.of_triple (Subscription.subscribe_versioned_sound req amb'.issued) ⟨h, hfresh⟩ hrun
        le_rfl
    · exact h
  | unsubscribe sourceId =>
    have hbody := Txn.versioned_keeps Txn.commitVersion_sound (Subscription.unsubscribe_sound sourceId)
    exact Work.atomically_keeps (P := Database.Sound) (by mvcgen [hbody]) amb h
  | transition entryId target =>
    have hbody := Txn.versioned_keeps Txn.commitVersion_sound (Triage.transition_sound entryId target)
    exact Work.atomically_keeps (P := Database.Sound) (by mvcgen [hbody]) amb h
  | identity user ev =>
    have hbody := Txn.versioned_keeps Txn.commitVersion_sound (IdentityEvent.apply_sound user ev)
    exact Work.atomically_keeps (P := Database.Sound) (by mvcgen [hbody]) amb h

end Operation

/-! ## A new store -/

namespace Store

/-- What a schema step leaves in place. -/
def SchemaStep.Holds : SchemaStep → Database → Prop
  | .createTable t, d => d.has t = true
  | .createIndex .., _ => True
  | .addVersionColumn t, d => d.has t = true ∧ d.versioned.contains t = true
  | .seedCounter, d => d.has .counter = true ∧ d.counter.isSome = true

/-- The schema of `d'` keeps what `d` has in place: its tables, their version columns and a
seeded counter. -/
structure Database.Extends (d d' : Database) : Prop where
  tables : ∀ t, d.has t = true → d'.has t = true
  versioned : ∀ t, d.versioned.contains t = true → d'.versioned.contains t = true
  counter : d.has .counter = true → d.counter.isSome = true → d'.counter.isSome = true

namespace Database

@[simp] theorem clearRows_tables (d : Database) (t : Table) : (d.clearRows t).tables = d.tables := by
  cases t <;> rfl

@[simp] theorem clearRows_versioned (d : Database) (t : Table) :
    (d.clearRows t).versioned = d.versioned := by
  cases t <;> rfl

theorem clearRows_counter (d : Database) {t : Table} (ht : t ≠ .counter) :
    (d.clearRows t).counter = d.counter := by
  cases t <;> first | rfl | exact absurd rfl ht

namespace Extends

theorem refl (d : Database) : d.Extends d := ⟨fun _ h => h, fun _ h => h, fun _ h => h⟩

theorem trans {d₁ d₂ d₃ : Database} (h₁ : d₁.Extends d₂) (h₂ : d₂.Extends d₃) : d₁.Extends d₃ :=
  ⟨fun t h => h₂.tables t (h₁.tables t h), fun t h => h₂.versioned t (h₁.versioned t h),
    fun hc hs => h₂.counter (h₁.tables _ hc) (h₁.counter hc hs)⟩

end Extends

end Database

theorem SchemaStep.Holds.mono {step : SchemaStep} {d d' : Database} (h : step.Holds d)
    (he : d.Extends d') : step.Holds d' := by
  cases step with
  | createTable t => exact he.tables t h
  | createIndex => trivial
  | addVersionColumn t => exact ⟨he.tables t h.1, he.versioned t h.2⟩
  | seedCounter => exact ⟨he.tables _ h.1, he.counter h.1 h.2⟩

/-- A schema step keeps what was in place and puts its own part in place. -/
theorem SchemaStep.run_extends {step : SchemaStep} {d d' : Database} (hr : step.run d = .ok d') :
    d.Extends d' ∧ step.Holds d' := by
  cases step with
  | createTable t =>
    simp only [SchemaStep.run, Database.createTable] at hr
    split at hr
    · cases hr
    · rename_i hnew
      cases hr
      refine ⟨⟨fun u hu => ?_, fun u hu => ?_, fun hc hs => ?_⟩, ?_⟩
      · simp_all [Database.has]
      · split <;> simp_all
      · have ht : t ≠ .counter := by
          rintro rfl
          exact hnew hc
        simpa [Database.clearRows_counter d ht] using hs
      · simp [SchemaStep.Holds, Database.has]
  | createIndex name t onVersion =>
    obtain rfl : d' = { d with indexes := d.indexes ++ [(name, t)] } := by
      simp only [SchemaStep.run, Database.createIndex, Sql.bind_eq_ok, Sql.pure_eq_ok, ite_eq_iff,
        Sql.throw_eq_ok] at hr
      grind
    exact ⟨⟨fun _ h => h, fun _ h => h, fun _ h => h⟩, trivial⟩
  | addVersionColumn t =>
    have hd : d.has t = true ∧ d' = { d with versioned := d.versioned ++ [t] } := by
      simp only [SchemaStep.run, Database.addVersionColumn, Database.need, Sql.bind_eq_ok,
        Sql.pure_eq_ok, ite_eq_iff, Sql.throw_eq_ok] at hr
      grind
    obtain ⟨ht, rfl⟩ := hd
    exact ⟨⟨fun _ h => h, fun u hu => by simp_all, fun _ h => h⟩, ht, by simp⟩
  | seedCounter =>
    have hd : d.has .counter = true ∧ d' = { d with counter := some 0 } := by
      simp only [SchemaStep.run, Database.seedCounter, Database.need, Database.fire,
        Sql.bind_eq_ok, Sql.pure_eq_ok, ite_eq_iff, Sql.throw_eq_ok] at hr
      grind
    obtain ⟨ht, rfl⟩ := hd
    exact ⟨⟨fun _ h => h, fun _ h => h, fun _ _ => rfl⟩, ht, rfl⟩

/-- A migration's steps keep what was in place and put their own parts in place. -/
theorem runSteps_extends {steps : List SchemaStep} {d d' : Database}
    (hr : Migration.runSteps d steps = .ok d') : d.Extends d' ∧ ∀ s ∈ steps, s.Holds d' := by
  induction steps generalizing d with
  | nil =>
    cases hr
    exact ⟨.refl _, fun _ h => absurd h List.not_mem_nil⟩
  | cons step rest ih =>
    obtain ⟨d₁, h₁, hrest⟩ := Sql.bind_eq_ok.1 hr
    obtain ⟨he₁, hs₁⟩ := SchemaStep.run_extends h₁
    obtain ⟨he, hs⟩ := ih hrest
    refine ⟨he₁.trans he, fun s hs' => ?_⟩
    rcases List.mem_cons.1 hs' with rfl | hs'
    · exact hs₁.mono he
    · exact hs s hs'

theorem Migration.apply_extends {m : Migration} {now : Clock.Instant} {d d' : Database}
    (hr : m.apply d now = .ok d') : d.Extends d' ∧ ∀ s ∈ m.steps, s.Holds d' := by
  obtain ⟨d₁, h₁, hrec⟩ := Sql.bind_eq_ok.1 hr
  obtain rfl : d' = { d₁ with applied := d₁.applied ++ [⟨m.version, m.name, now, m.checksum⟩] } := by
    simp only [Database.recordMigration, Sql.bind_eq_ok, Sql.pure_eq_ok, ite_eq_iff,
      Sql.throw_eq_ok] at hrec
    grind
  obtain ⟨he, hs⟩ := runSteps_extends h₁
  -- recording the migration touches the ledger alone
  have hrec : d₁.Extends { d₁ with applied := d₁.applied ++ [⟨m.version, m.name, now, m.checksum⟩] } :=
    ⟨fun _ h => h, fun _ h => h, fun _ h => h⟩
  exact ⟨he.trans hrec, fun s hs' => (hs s hs').mono hrec⟩

/-- The migrations whose steps are all in place. -/
def StepsHold (ms : List Migration) (d : Database) : Prop := ∀ m ∈ ms, ∀ s ∈ m.steps, s.Holds d

/-- Applying one more migration puts its steps in place and keeps the others'. -/
theorem StepsHold.apply {done : List Migration} {m : Migration} {now : Clock.Instant}
    {d d' : Database} (h : StepsHold done d) (hm : m.apply d now = .ok d') :
    StepsHold (done ++ [m]) d' := by
  obtain ⟨he, hs⟩ := Migration.apply_extends hm
  intro m' hm' s hs'
  rcases List.mem_append.1 hm' with hm' | hm'
  · exact (h m' hm' s hs').mono he
  · rw [List.mem_singleton] at hm'
    subst hm'
    exact hs s hs'

theorem applyAll_holds (user : String) (ms : List Migration) :
    ∀ (done : List Migration) n, ⦃fun d _ => ⌜StepsHold done d⌝⦄ applyAll user ms n
      ⦃⇓ r d _ => ⌜r.2 = none → StepsHold (done ++ ms) d⌝⦄ := by
  induction ms with
  | nil =>
    intro done n
    mvcgen [applyAll]
    rename_i h
    simpa using h
  | cons m rest ih =>
    intro done n
    have hrest := ih (done ++ [m])
    mvcgen [applyAll, hrest, readClock, logAt]
    · simp
    · rename_i h _ hm _
      exact h.apply hm
    · simp

/-- A store where every released migration's steps are in place is ready for a pull. -/
theorem Database.ready_of_stepsHold {d : Database} (h : StepsHold migrations d) : d.Ready := by
  have hstep : ∀ s ∈ migrations.flatMap (·.steps), s.Holds d := by
    intro s hs
    obtain ⟨m, hm, hs⟩ := List.mem_flatMap.1 hs
    exact h m hm s hs
  have hc : SchemaStep.Holds .seedCounter d := hstep _ (by decide)
  have htomb : SchemaStep.Holds (.createTable .tombstones) d := hstep _ (by decide)
  refine ⟨hc.1, hc.2, htomb, fun t ht => ?_⟩
  simp only [List.mem_cons, List.not_mem_nil, or_false] at ht
  rcases ht with rfl | rfl | rfl | rfl | rfl <;> exact hstep (.addVersionColumn _) (by decide)

/-- A new store's ledger holds no migration. -/
theorem Database.appliedMigrations_empty : ({} : Database).ensureLedger.appliedMigrations = .ok [] := by
  simp [Database.ensureLedger, Database.appliedMigrations, Database.has, Database.need,
    Database.clearRows]

/-- Bringing a new store up to date, when it succeeds, leaves it ready for a pull. -/
theorem ensureSchema_ready (user : String) :
    ⦃fun d _ => ⌜d = {}⌝⦄ ensureSchema user ⦃⇓ r d _ => ⌜r.2 = none → d.Ready⌝⦄ := by
  have happly := fun ms n => applyAll_holds user ms [] n
  mvcgen [ensureSchema, Runner.ensureSchema, happly]
  · simp
  · simp
  · exact fun m hm => absurd hm List.not_mem_nil
  · -- a new store records no migration, so every released one is applied
    rename_i hd t rows hrows _ pending _ d _
    subst hd
    simp only [t, Database.appliedMigrations_empty, Except.ok.injEq] at hrows
    subst hrows
    intro hpost hr
    have hall : StepsHold migrations d := by simpa [pending, released] using hpost hr
    exact Database.ready_of_stepsHold hall

end Store

/-- The failure of bringing a new user's store up to date, if it fails. -/
def Store.schemaFailure (user : String) (amb : Ambient) : Option Failure :=
  (((ensureSchema user).run {}).run amb).1.1.2

/-- **A new store is sound** once its schema is up to date: it has no rows, and the tables a
pull reads are in place. -/
theorem Store.newStore_sound {user : String} {amb : Ambient} (h : schemaFailure user amb = none) :
    (newStore user amb).Sound := by
  have hready : (newStore user amb).Ready :=
    schema_of_triple (ensureSchema_ready user) amb rfl h
  obtain ⟨hrows, hcl, -⟩ := newStore_blank user amb
  simp only [Database.syncedRows, List.append_eq_nil_iff, List.map_eq_nil_iff] at hrows
  obtain ⟨⟨⟨⟨he, hi⟩, hs⟩, hp⟩, ht⟩ := hrows
  refine ⟨hready, ?_, ?_, ?_, ?_, ?_, ?_, ?_, ?_⟩ <;> simp_all

/-- One operation on the store, whose drawn ids name no deleted row. -/
def Store.FreshStep (d d' : Database) : Prop :=
  ∃ (op : Operation) (amb : Ambient), op.DrawsFreshIds d amb ∧ (op.exec d amb).1 = d'

theorem Store.FreshStep.sound {d d' : Database} (h : FreshStep d d') (hd : d.Sound) : d'.Sound := by
  obtain ⟨op, amb, hfresh, rfl⟩ := h
  exact Operation.exec_sound hd hfresh

theorem Store.FreshStep.bounded {d d' : Database} (h : FreshStep d d') (hb : d.VersionsBounded) :
    d'.VersionsBounded := by
  obtain ⟨op, amb, -, rfl⟩ := h
  exact versionSteps_bounded (fun _ _ h => h) (Operation.exec_versionSteps hb op) hb

end ReadLater
