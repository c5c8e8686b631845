import Mathlib
import ReadLater.Proofs.Sync.Metering
import ReadLater.Proofs.Tenancy.Workers

/-!
# Operations that leave the ledger alone

The counters of the ledger (mutations by outcome, resyncs and ingested items) are read against
the last applied ids of the clients of every store. This module shows that everything the service
does around an operation, and every operation but a push and a batch's own count, leaves both
alone:

* `Database.ledgerTotal`, `Disk.ledgerTotal`: the total of a store's ledger, the last applied ids of its
  clients, and of all the stores on disk; `Database.ledgerTotal_sub` and `Disk.ledgerTotal_save`: a step
  of one client moves the total by that step;
* `Work.Quiet`: work that keeps the clients and their table, the counters of the ledger and the
  metering; every request but a push does (`Work.Quiet.subscribe`, …, `Work.Quiet.pull`), by
  `Operation.exec_quiet`;
* `Hosting.Metered`, `Hosting.Steady h h'`: the workers report to the metrics and client rows
  stay in their tables, and from `h` to `h'` the total of the ledgers and their counters stayed;
  starting a worker and **waking it** (`Hosting.wake_steady`) are steady, since bringing a store up
  to date keeps its clients (`ensureSchema_steady`);
* `Hosting.opened`: the store an operation of a user runs on, once the user's worker is started and
  woken; `Hosting.perform_of_opened` runs the work there, and `Hosting.perform_of_not_opened` fails
  steadily with no resync, since opening a store never fails with one (`wake_error_not_resync`);
* **`Hosting.perform_steady`**: work that leaves the ledger alone keeps the ledgers as an
  operation.
-/

namespace ReadLater

open Clock Store Std.Do

set_option mvcgen.warning false

/-! ## The ledger's total -/

namespace Store.Database

variable {d d' : Database}

/-- The total of a store's ledger: the last applied ids of all its clients. -/
def ledgerTotal (d : Database) : Int := ∑ x ∈ (d.clients.map (·.id)).toFinset, d.lastId x

theorem lastId_of_not_mem {x : String} (hx : x ∉ d.clients.map (·.id)) : d.lastId x = 0 := by
  apply lastId_of_find_none
  refine List.find?_eq_none.2 fun r hr h => hx ?_
  exact List.mem_map.2 ⟨r, hr, by simpa using h⟩

/-- The total, summed over any ids that include the clients'. -/
theorem ledgerTotal_eq_sum {S : Finset String} (hS : (d.clients.map (·.id)).toFinset ⊆ S) :
    d.ledgerTotal = ∑ x ∈ S, d.lastId x :=
  Finset.sum_subset hS fun x _ hx => lastId_of_not_mem (by simpa using hx)

/-- A store whose ledger moved for one client only changes its total by that client's step. -/
theorem ledgerTotal_sub {c : String} (h : ∀ x, x ≠ c → d'.lastId x = d.lastId x) :
    d'.ledgerTotal - d.ledgerTotal = d'.lastId c - d.lastId c := by
  -- sum both totals over the ids of both stores and the client
  set S := (d.clients.map (·.id)).toFinset ∪ (d'.clients.map (·.id)).toFinset ∪ {c}
  rw [ledgerTotal_eq_sum (S := S) (by intro x hx; simp [S, hx]),
    ledgerTotal_eq_sum (S := S) (by intro x hx; simp [S, hx]), ← Finset.sum_sub_distrib]
  exact Finset.sum_eq_single c (fun x _ hx => by rw [h x hx, sub_self])
    (fun hc => absurd (by simp [S]) hc)

theorem ledgerTotal_eq_of_clients (h : d'.clients = d.clients) : d'.ledgerTotal = d.ledgerTotal := by
  simp only [ledgerTotal, h, lastId_eq_of_clients h]

end Store.Database

namespace Disk

variable {k : Disk}

/-- The total of the ledgers of every store on disk. -/
def ledgerTotal (k : Disk) : Int := ∑ p ∈ (k.stores.map (·.1)).toFinset, (k.load p).ledgerTotal

theorem load_of_not_mem {p : String} (hp : p ∉ k.stores.map (·.1)) : k.load p = {} := by
  have hnone : k.stores.find? (·.1 == p) = none :=
    List.find?_eq_none.2 fun e he h => hp (List.mem_map.2 ⟨e, he, by simpa using h⟩)
  simp [load, hnone]

theorem ledgerTotal_eq_sum {S : Finset String} (hS : (k.stores.map (·.1)).toFinset ⊆ S) :
    k.ledgerTotal = ∑ p ∈ S, (k.load p).ledgerTotal :=
  Finset.sum_subset hS fun p _ hp => by rw [load_of_not_mem (by simpa using hp)]; rfl

/-- Saving keeps the paths of the stores, and adds the saved one's when it is new. -/
theorem paths_save (k : Disk) (path : String) (db : Database) :
    (k.save path db).stores.map (·.1) =
      if k.stores.any (·.1 == path) then k.stores.map (·.1) else k.stores.map (·.1) ++ [path] := by
  unfold save
  split
  · simp only [List.map_map]
    congr 1
    funext e
    by_cases h : e.1 = path <;> simp [h]
  · simp

/-- Saving a store replaces its ledger's total by the saved one's. -/
theorem ledgerTotal_save (k : Disk) (path : String) (db : Database) :
    (k.save path db).ledgerTotal = k.ledgerTotal - (k.load path).ledgerTotal + db.ledgerTotal := by
  set S := (k.stores.map (·.1)).toFinset ∪ {path}
  have hpath : path ∈ S := by simp [S]
  have hsub : ((k.save path db).stores.map (·.1)).toFinset ⊆ S := by
    rw [paths_save]
    split <;> intro p hp <;> simp_all [S]
  rw [ledgerTotal_eq_sum (k := k) (S := S) (by intro p hp; simp [S, hp]), ledgerTotal_eq_sum hsub]
  simp only [load_save]
  rw [← Finset.add_sum_erase S _ hpath, ← Finset.add_sum_erase S (fun p => (k.load p).ledgerTotal) hpath,
    if_pos rfl]
  have hrest : ∑ p ∈ S.erase path, (if p = path then db else k.load p).ledgerTotal =
      ∑ p ∈ S.erase path, (k.load p).ledgerTotal :=
    Finset.sum_congr rfl fun p hp => by rw [if_neg (Finset.ne_of_mem_erase hp)]
  rw [hrest]
  ring

end Disk

/-! ## Work that leaves the ledger alone -/

/-- The counters read against the ledger and against ingestion: mutations by outcome, resyncs and
ingested items. -/
def Metrics.ledgerCounters (M : Metrics) : Tally × Nat × Tally := (M.mutations, M.resyncs, M.ingested)

/-- Work that leaves the ledger alone: from a store holding client rows only in its clients
table, with metering on, it keeps the clients and their table, the ledger's counters and the
metering. -/
def Store.Work.Quiet {α : Type} (w : Work α) : Prop :=
  ∀ d amb, d.ClientsInTable → amb.metering = true →
    (w.leaves d amb).1.clients = d.clients ∧ (w.leaves d amb).1.ClientsInTable ∧
      (w.leaves d amb).2.metrics.ledgerCounters = amb.metrics.ledgerCounters ∧
      (w.leaves d amb).2.metering = true

namespace Store.Work

/-- A transaction that records nothing in the metrics records nothing as work. -/
theorem atomically_unmetered {α : Type} {t : Txn α} (hu : t.Unmetered) (d : Database)
    (amb : Ambient) : ((Work.atomically t).leaves d amb).2.metrics = amb.metrics ∧
      ((Work.atomically t).leaves d amb).2.metering = amb.metering := by
  -- the ambient services after the work are those after its transaction
  have hamb : ((Work.atomically t).leaves d amb).2 = (t.exec ⟨d, {}⟩ amb).2 := by
    simp only [leaves, exec_atomically]
    split <;> rename_i h <;> rw [h]
  rw [hamb]
  exact hu.exec ⟨d, {}⟩ amb

/-- A read-only transaction that records nothing in the metrics leaves the ledger alone. -/
theorem Quiet.of_reads {α : Type} {t : Txn α} (hu : t.Unmetered)
    (hk : ∀ D, ⦃fun s _ => ⌜s.db = D⌝⦄ t ⦃⇓? _ s _ => ⌜s.db = D⌝⦄) : (Work.atomically t).Quiet := by
  intro d amb hd hm
  have hkeep : ((Work.atomically t).leaves d amb).1 = d :=
    atomically_keeps (P := fun d' => d' = d) (hk d) amb rfl
  obtain ⟨hM, hb⟩ := atomically_unmetered hu d amb
  exact ⟨by rw [hkeep], by rw [hkeep]; exact hd, by rw [hM], by rw [hb, hm]⟩

end Store.Work


/-! ## The operations other than a push -/

/-- Work that keeps the ledger's counters and the metering, whatever it returns. -/
def Store.Work.KeepsCounters {α : Type} (w : Work α) : Prop :=
  ∀ d amb, (w.leaves d amb).2.metrics.ledgerCounters = amb.metrics.ledgerCounters ∧
    (w.leaves d amb).2.metering = amb.metering

namespace Store.Work.KeepsCounters

theorem pure {α : Type} (a : α) : (pure a : Work α).KeepsCounters := fun _ _ => ⟨rfl, rfl⟩

theorem fail_bind {α β : Type} (p : Problem) (f : α → Work β) :
    (Work.fail p >>= f).KeepsCounters := fun d amb => by
  simp only [leaves, Work.exec_bind, Work.exec_fail]
  exact ⟨trivial, trivial⟩

theorem bind {α β : Type} {x : Work α} {f : α → Work β} (hx : x.KeepsCounters)
    (hf : ∀ a, (f a).KeepsCounters) : (x >>= f).KeepsCounters := by
  intro d amb
  have h₁ := hx d amb
  simp only [leaves] at h₁ ⊢
  rw [Work.exec_bind]
  rcases h : x.exec d amb with ⟨⟨_ | a, d₁⟩, amb₁⟩ <;> rw [h] at h₁
  · exact h₁
  · obtain ⟨hM, hb⟩ := hf a d₁ amb₁
    exact ⟨hM.trans h₁.1, hb.trans h₁.2⟩

theorem atomically {α : Type} {t : Txn α} (hu : t.Unmetered) : (Work.atomically t).KeepsCounters :=
  fun d amb => by
    obtain ⟨hM, hb⟩ := atomically_unmetered hu d amb
    exact ⟨by rw [hM], hb⟩

/-- Recording into metrics other than the ledger's counters. -/
theorem record {f : Metrics → Metrics} (hf : ∀ M, (f M).ledgerCounters = M.ledgerCounters) :
    (Work.ambient (record f)).KeepsCounters := fun d amb => by
  simp only [leaves, Work.exec_ambient, ReadLater.record, modify, modifyGet, MonadStateOf.modifyGet,
    StateT.modifyGet, StateT.run, Id.run]
  split
  · exact ⟨hf _, rfl⟩
  · exact ⟨rfl, rfl⟩

end Store.Work.KeepsCounters

/-- A pull counts itself and its patches, and none of the ledger's counters. -/
theorem Sync.pull_keepsCounters (user : String) (req : Sync.PullRequest) :
    (Sync.pull user req).KeepsCounters := by
  unfold Sync.pull
  dsimp only
  split
  · exact .fail_bind _ _
  · refine .bind (.atomically fun M b => ?_) fun report => .bind (.record fun _ => rfl) fun _ => .pure report
    -- the answer's transaction reads the version and the changes, and records nothing
    have hcurrent := Txn.currentVersion_unmetered M b
    have hchanges := fun since => Sync.changesSince_unmetered user since M b
    mvcgen [hcurrent, hchanges, Txn.read]

namespace Operation

variable {d : Database} {amb : Ambient}

/-- Every operation but a push keeps the ledger's counters: the transactions record nothing, and
a pull counts only pulls and patches. -/
theorem exec_counters {op : Operation} (hop : ¬ op.IsPush) :
    (op.exec d amb).2.metrics.ledgerCounters = amb.metrics.ledgerCounters ∧
      (op.exec d amb).2.metering = amb.metering := by
  cases op with
  | push => exact absurd trivial hop
  | pull user req => exact Sync.pull_keepsCounters user req d amb
  | ingest n sourceId items =>
    exact Work.KeepsCounters.atomically (Ingest.ingest_unmetered n sourceId items) d amb
  -- the other requests answer part of what a versioned body returns
  | subscribe req =>
    have hbody := Txn.versioned_unmetered (Subscription.subscribe_unmetered req)
    exact Work.KeepsCounters.atomically (fun M b => by have := hbody M b; mvcgen [this]) d amb
  | unsubscribe sourceId =>
    have hbody := Txn.versioned_unmetered (Subscription.unsubscribe_unmetered sourceId)
    exact Work.KeepsCounters.atomically (fun M b => by have := hbody M b; mvcgen [this]) d amb
  | transition entryId target =>
    have hbody := Txn.versioned_unmetered (Triage.transition_unmetered entryId target)
    exact Work.KeepsCounters.atomically (fun M b => by have := hbody M b; mvcgen [this]) d amb
  | identity user ev =>
    have hbody := Txn.versioned_unmetered (IdentityEvent.apply_unmetered user ev)
    exact Work.KeepsCounters.atomically (fun M b => by have := hbody M b; mvcgen [this]) d amb

/-- Every operation but a push keeps the client rows in their table. -/
theorem exec_clientsInTable (op : Operation) (amb : Ambient) (hd : d.ClientsInTable) :
    (op.exec d amb).1.ClientsInTable :=
  exec_keeps (fun n req _ amb hd => Sync.push_clientsInTable n req amb hd)
    Txn.commitVersion_clientsInTable Ingest.ingest_clientsInTable
    Subscription.subscribe_clientsInTable Subscription.unsubscribe_clientsInTable
    Triage.transition_clientsInTable IdentityEvent.apply_clientsInTable op amb hd

/-- Every operation but a push leaves the ledger alone. -/
theorem exec_quiet (op : Operation) (hop : ¬ op.IsPush) (hd : d.ClientsInTable)
    (hm : amb.metering = true) :
    (op.exec d amb).1.clients = d.clients ∧ (op.exec d amb).1.ClientsInTable ∧
      (op.exec d amb).2.metrics.ledgerCounters = amb.metrics.ledgerCounters ∧
      (op.exec d amb).2.metering = true :=
  ⟨exec_clients hop, exec_clientsInTable op amb hd, (exec_counters hop).1,
    (exec_counters hop).2.trans hm⟩

end Operation

/-! ## The work of each request but a push -/

namespace Store.Work

theorem Quiet.subscribe (req : SubscribeRequest) : (Work.atomically do
    let (r, _) ← Txn.versioned (Subscription.subscribe req)
    return r).Quiet :=
  fun _ _ => Operation.exec_quiet (.subscribe req) id

theorem Quiet.unsubscribe (sourceId : String) : (Work.atomically do
    let ((), v) ← Txn.versioned (Subscription.unsubscribe sourceId)
    return v).Quiet :=
  fun _ _ => Operation.exec_quiet (.unsubscribe sourceId) id

theorem Quiet.transition (entryId target : String) : (Work.atomically do
    let ((e, _), v) ← Txn.versioned (Triage.transition entryId target)
    return (e, v)).Quiet :=
  fun _ _ => Operation.exec_quiet (.transition entryId target) id

theorem Quiet.identity (user : String) (ev : IdentityEvent) : (Work.atomically do
    let (r, _) ← Txn.versioned (ev.apply user)
    return r).Quiet :=
  fun _ _ => Operation.exec_quiet (.identity user ev) id

theorem Quiet.ingest (n : Nat) (sourceId : String) (items : List Incoming) :
    (Work.atomically (Ingest.ingest n sourceId items)).Quiet :=
  fun _ _ => Operation.exec_quiet (.ingest n sourceId items) id

theorem Quiet.pull (user : String) (req : Sync.PullRequest) : (Sync.pull user req).Quiet :=
  fun _ _ => Operation.exec_quiet (.pull user req) id

theorem Quiet.getSource (sourceId : String) : (Work.atomically (Subscription.get sourceId)).Quiet :=
  Quiet.of_reads (Subscription.get_unmetered sourceId) fun _ => by
    mvcgen [Subscription.get, Txn.read, Txn.fail]

theorem Quiet.listSources : (Work.atomically Subscription.list).Quiet :=
  Quiet.of_reads Subscription.list_unmetered fun _ => by mvcgen [Subscription.list, Txn.read]

theorem Quiet.schema (user : String) : (Work.atomically (schemaStatus user)).Quiet :=
  Quiet.of_reads (schemaStatus_unmetered user) fun _ => by
    mvcgen [schemaStatus, listApplied, Txn.read]

end Store.Work

/-! ## Bringing a store up to date -/

/-- A triple of work on a store that cannot fail, read as what its run ends in. -/
theorem Store.stateT_of_triple {α : Type} {x : StateT Database AmbientM α}
    {P : Database → Ambient → Prop} {Q : α → Database → Ambient → Prop}
    (hx : ⦃fun d a => ⌜P d a⌝⦄ x ⦃⇓ r d a => ⌜Q r d a⌝⦄) (d : Database) (amb : Ambient)
    (hP : P d amb) : Q ((x.run d).run amb).1.1 ((x.run d).run amb).1.2 ((x.run d).run amb).2 := by
  have hwp := hx d amb hP
  simp only [WP.wp, PredTrans.pushArg, PredTrans.apply, StateT.run, Id.run] at hwp
  exact hwp

/-- Bringing a store up to date keeps its clients, their table and the metrics. -/
theorem Store.ensureSchema_steady (user : String) {d : Database} (amb : Ambient)
    (hd : d.ClientsInTable) :
    (((ensureSchema user).run d).run amb).1.2.clients = d.clients ∧
      (((ensureSchema user).run d).run amb).1.2.ClientsInTable ∧
      (((ensureSchema user).run d).run amb).2.metrics = amb.metrics ∧
      (((ensureSchema user).run d).run amb).2.metering = amb.metering :=
  have hc := stateT_of_triple (ensureSchema_clients user d.clients) d amb ⟨rfl, hd⟩
  have hu := stateT_of_triple (ensureSchema_unmetered user amb.metrics amb.metering) d amb
    ⟨rfl, rfl⟩
  ⟨hc.1, hc.2, hu.1, hu.2⟩

/-! ## The hosting -/

namespace Hosting

/-- A hosting whose workers report to the metrics, and whose stores hold client rows only in
their clients tables. -/
structure Metered (h : Hosting) : Prop where
  metering : h.ambient.metering = true
  stores : ∀ path, (h.disk.load path).ClientsInTable

/-- From `h` to `h'` the ledgers and the counters read against them stayed: the ledgers' total,
those counters, and the metering with the client rows in their tables. -/
structure Steady (h h' : Hosting) : Prop where
  metered : h'.Metered
  ledgerTotal : h'.disk.ledgerTotal = h.disk.ledgerTotal
  counters : h'.ambient.metrics.ledgerCounters = h.ambient.metrics.ledgerCounters

variable {h h₁ h₂ h₃ : Hosting}

namespace Steady

theorem refl (hm : h.Metered) : Steady h h := ⟨hm, rfl, rfl⟩

theorem trans (h₁₂ : Steady h₁ h₂) (h₂₃ : Steady h₂ h₃) : Steady h₁ h₃ :=
  ⟨h₂₃.metered, h₂₃.ledgerTotal.trans h₁₂.ledgerTotal, h₂₃.counters.trans h₁₂.counters⟩

/-! Each step of waking a worker or running an operation, after a steady stretch. -/

/-- Metering what no counter of the ledger reads. -/
theorem meter (hs : Steady h₁ h₂) {f : Metrics → Metrics}
    (hf : ∀ M, (f M).ledgerCounters = M.ledgerCounters) : Steady h₁ (h₂.meter f) := by
  unfold Hosting.meter
  rw [if_pos hs.metered.metering]
  exact ⟨⟨hs.metered.metering, hs.metered.stores⟩, hs.ledgerTotal, (hf _).trans hs.counters⟩

theorem logAt (hs : Steady h₁ h₂) (level : LogLevel) (message : String)
    (attrs : List (String × Json)) : Steady h₁ (h₂.withAmbient (logAt level message attrs)).2 := by
  -- logging writes the log only
  have hamb : ((ReadLater.logAt level message attrs).run h₂.ambient).2.metrics = h₂.ambient.metrics ∧
      ((ReadLater.logAt level message attrs).run h₂.ambient).2.metering = h₂.ambient.metering := by
    simp only [ReadLater.logAt, modify, modifyGet, MonadStateOf.modifyGet, StateT.modifyGet,
      StateT.run]
    split <;> exact ⟨rfl, rfl⟩
  exact ⟨⟨hamb.2.trans hs.metered.metering, hs.metered.stores⟩, hs.ledgerTotal,
    (congrArg Metrics.ledgerCounters hamb.1).trans hs.counters⟩

/-- Changing the workers only. -/
theorem registry (hs : Steady h₁ h₂) (r : Registry) : Steady h₁ { h₂ with registry := r } :=
  ⟨⟨hs.metered.metering, hs.metered.stores⟩, hs.ledgerTotal, hs.counters⟩

theorem markReady (hs : Steady h₁ h₂) (user : String) : Steady h₁ (h₂.markReady user) :=
  hs.registry _

/-- Saving a store with the same clients, in their table, keeps the ledgers' total. -/
theorem save (hs : Steady h₁ h₂) (path : String) {db : Database} (hdb : db.ClientsInTable)
    (hc : db.clients = (h₂.disk.load path).clients) {amb : Ambient} (hb : amb.metering = true)
    (hM : amb.metrics.ledgerCounters = h₂.ambient.metrics.ledgerCounters) :
    Steady h₁ { h₂ with disk := h₂.disk.save path db, ambient := amb } where
  metered := ⟨hb, fun p => by
    rw [Disk.load_save]
    split
    · exact hdb
    · exact hs.metered.stores p⟩
  ledgerTotal := by
    rw [Disk.ledgerTotal_save, Database.ledgerTotal_eq_of_clients hc, ← hs.ledgerTotal]
    ring
  counters := hM.trans hs.counters

end Steady

theorem startWorker_steady (hm : h.Metered) (user : String) : Steady h (h.startWorker user).2 := by
  unfold startWorker
  split
  · exact .refl hm
  · dsimp only
    exact ((Steady.refl hm).registry _).meter (by intro; rfl)

/-- **Waking a worker keeps the ledgers.** Bringing its store up to date keeps the clients, and
the migrations and the log are no counters of the ledger. -/
theorem wake_steady (hm : h.Metered) (w : Worker) : Steady h (h.wake w).2 := by
  unfold wake
  split
  · exact .refl hm
  rename_i path hpath
  split
  · exact .refl hm
  rcases hrun : ((ensureSchema w.user).run (h.disk.load path)).run h.ambient with
    ⟨⟨⟨n, failure⟩, db⟩, amb⟩
  obtain ⟨hc, hdb, hM, hb⟩ : db.clients = (h.disk.load path).clients ∧ db.ClientsInTable ∧
      amb.metrics = h.ambient.metrics ∧ amb.metering = h.ambient.metering := by
    have := ensureSchema_steady w.user h.ambient (hm.stores path)
    rwa [hrun] at this
  -- the store is saved, then the migrations are counted and the outcome logged
  have hsave := (Steady.refl hm).save path hdb hc (hb.trans hm.metering) (by rw [hM])
  cases failure with
  | some f => exact (hsave.meter (by intro; rfl)).logAt _ _ _
  | none => exact ((hsave.meter (by intro; rfl)).logAt _ _ _).markReady _

end Hosting

/-! ## Failures to open a store -/

/-- Opening a store fails only for reasons of storage, never with a problem of the request. -/
theorem Opener.open_fault {o : Opener} {disk : Disk} {user : String} {f : Failure}
    (h : o.open_ disk user = .error f) : f.problem? = none := by
  cases o with
  | files dir =>
    simp only [Opener.open_] at h
    split_ifs at h <;> cases h <;> rfl
  | postgres url =>
    simp only [Opener.open_] at h
    split_ifs at h <;> cases h
    · rfl
    · unfold Postgres.openFailure
      rw [if_neg ‹_›]
      dsimp only
      split <;> rfl

/-- A ledger of migrations contradicts the list with a schema ahead or a tampered migration, never
with a resync. -/
theorem Store.Runner.ledgerProblem_not_resync {r : Runner} {rows : List AppliedMigration}
    {p : Problem} (h : r.ledgerProblem rows = some p) : Sync.Failure.isResync (.problem p) = false := by
  obtain ⟨a, -, ha⟩ := List.exists_of_findSome?_eq_some h
  unfold Runner.rowProblem at ha
  split at ha
  · split at ha <;> cases ha <;> rfl
  · split at ha
    · cases ha
      rfl
    · cases ha

theorem Store.applyAll_not_resync (user : String) (ms : List Migration) :
    ∀ n, ⦃fun _ _ => ⌜True⌝⦄ applyAll user ms n
      ⦃⇓ r _ _ => ⌜∀ f, r.2 = some f → Sync.Failure.isResync f = false⌝⦄ := by
  induction ms with
  | nil =>
    intro n
    mvcgen [Store.applyAll]
    simp
  | cons m rest ih =>
    intro n
    mvcgen [Store.applyAll, ih, readClock, logAt]
    rintro f ⟨⟩
    rfl

/-- Bringing a store up to date fails with a problem of the ledger, a failed migration or a
storage error, never with a resync. -/
theorem Store.ensureSchema_not_resync (user : String) :
    ⦃fun _ _ => ⌜True⌝⦄ ensureSchema user
      ⦃⇓ r _ _ => ⌜∀ f, r.2 = some f → Sync.Failure.isResync f = false⌝⦄ := by
  have happly := applyAll_not_resync user
  mvcgen [ensureSchema, Runner.ensureSchema, happly]
  · rintro f ⟨⟩
    rfl
  · rintro f ⟨⟩
    exact Runner.ledgerProblem_not_resync ‹_›

/-! ## Where an operation runs -/

namespace Hosting

/-- The store an operation of a user runs on: its path, and the hosting once the user's worker is
started and woken; none when the registry is closed or the store cannot be opened or brought up
to date. -/
def opened (h : Hosting) (user : String) : Option (String × Hosting) :=
  if h.registry.closed then none
  else match (h.startWorker user).2.wake (h.startWorker user).1 with
    | (.ok path, h') => some (path, h')
    | (.error _, _) => none

variable {h h' : Hosting} {user path : String}

theorem opened_steady (hm : h.Metered) (ho : h.opened user = some (path, h')) : Steady h h' := by
  unfold opened at ho
  split at ho
  · cases ho
  have hs := startWorker_steady hm user
  have hw := wake_steady hs.metered (h.startWorker user).1
  split at ho
  · rename_i h₂ hwake
    cases ho
    rw [hwake] at hw
    exact hs.trans hw
  · cases ho

/-- An operation on a store that opened runs its work once there, saves the store and counts
itself. -/
theorem perform_of_opened {α : Type} (ho : h.opened user = some (path, h')) (op : String)
    (work : Work α) : h.perform op user work =
      let o := work.exec (h'.disk.load path) h'.ambient
      (o.1.1, ({ h' with disk := h'.disk.save path o.1.2, ambient := o.2 }).meter
        fun m => m.observe op (resultLabel o.1.1)) := by
  unfold opened at ho
  unfold perform
  split at ho
  · cases ho
  rename_i hopen
  rw [if_neg hopen]
  split at ho
  · rename_i h₂ hwake
    cases ho
    simp only [hwake]
    rfl
  · cases ho



/-- Waking a worker fails for reasons of storage or of its ledger of migrations, never with a
resync. -/
theorem wake_error_not_resync {w : Worker} {f : Failure} (hf : (h.wake w).1 = .error f) :
    Sync.Failure.isResync f = false := by
  unfold wake at hf
  split at hf
  · rename_i hopen
    cases hf
    exact Sync.Failure.isResync_of_fault (Opener.open_fault hopen)
  rename_i path _
  split at hf
  · cases hf
  have hnr := stateT_of_triple (ensureSchema_not_resync w.user) (h.disk.load path) h.ambient
    trivial
  revert hf hnr
  rcases ((ensureSchema w.user).run (h.disk.load path)).run h.ambient with
    ⟨⟨⟨n, failure⟩, db⟩, amb⟩
  intro hf hnr
  cases failure with
  | some f' =>
    cases hf
    exact hnr _ rfl
  | none => cases hf

/-- An operation whose store did not open fails, with no resync, and keeps the ledgers. -/
theorem perform_of_not_opened {α : Type} (hm : h.Metered) (ho : h.opened user = none)
    (op : String) (work : Work α) : Steady h (h.perform op user work).2 ∧
      ∃ f, (h.perform op user work).1 = .error f ∧ Sync.Failure.isResync f = false := by
  unfold opened at ho
  unfold perform
  split
  · exact ⟨.refl hm, .registryClosed, rfl, rfl⟩
  rename_i hopen
  rw [if_neg hopen] at ho
  rcases hsw : h.startWorker user with ⟨w, h₁⟩
  have hs : Steady h h₁ := by
    have := startWorker_steady hm user
    rwa [hsw] at this
  rw [hsw] at ho
  dsimp only at ho ⊢
  rcases hwk : h₁.wake w with ⟨_ | path, h₂⟩
  · -- the worker did not wake: the failure is the answer
    rename_i f
    have hw := hs.trans (wake_steady hs.metered w)
    rw [hwk] at hw
    exact ⟨hw.meter (by intro; rfl), f, rfl, wake_error_not_resync (by rw [hwk])⟩
  · rw [hwk] at ho
    cases ho

/-- **Work that leaves the ledger alone keeps the ledgers as an operation.** -/
theorem perform_steady {α : Type} (hm : h.Metered) (op user : String) {work : Work α}
    (hw : work.Quiet) : Steady h (h.perform op user work).2 := by
  rcases ho : h.opened user with _ | ⟨path, h'⟩
  · exact (perform_of_not_opened hm ho op work).1
  · have hs := opened_steady hm ho
    obtain ⟨hc, hdb, hM, hb⟩ :=
      hw (h'.disk.load path) h'.ambient (hs.metered.stores path) hs.metered.metering
    rw [perform_of_opened ho]
    dsimp only
    exact (hs.save path hdb hc hb hM).meter (by intro; rfl)

end Hosting

end ReadLater
