import Mathlib
import ReadLater.Proofs.Tenancy.Counters

/-!
# The sync metrics read the ledger

Over every run of requests of any users to the service, with its workers reporting to the
metrics, the counters of the ledger say what the ledger and the answers say:

* `LedgerReading`: what the counters are to read from requests: the pushes answered with
  `RESYNC_REQUIRED`, the items of successful batches touched, skipped and invalid, and the
  duplicates the ledger reads in pushes;
* `Hosting.Accounted h h' R clean`: from `h` to `h'` the applied and rejected mutations moved
  with the total of the ledgers, resyncs and ingested items by `R`, and duplicates by `R` when
  `clean` holds; `Accounted.trans` adds readings up;
* `Hosting.perform_push_accounted`: a push as an operation, from the store it opened;
* `Service.Request.accounted`: every request of a user;
* **`Service.Request.run_accounted`**: every run of requests.
-/

namespace ReadLater

open Clock Store

/-! ## What the counters are to read -/

/-- What the counters of the ledger are to read from requests: the pushes answered with a resync,
the items of successful batches touched, skipped and invalid, and the duplicates the ledger reads
in pushes. -/
structure LedgerReading where
  resyncs : Nat := 0
  touched : Nat := 0
  skipped : Nat := 0
  invalid : Nat := 0
  duplicates : Nat := 0
  deriving Repr, DecidableEq

instance : Add LedgerReading :=
  ⟨fun a b => ⟨a.resyncs + b.resyncs, a.touched + b.touched, a.skipped + b.skipped,
    a.invalid + b.invalid, a.duplicates + b.duplicates⟩⟩

theorem LedgerReading.empty_add (R : LedgerReading) : ({} : LedgerReading) + R = R := by
  show (⟨0 + R.resyncs, 0 + R.touched, 0 + R.skipped, 0 + R.invalid, 0 + R.duplicates⟩ :
    LedgerReading) = R
  simp only [Nat.zero_add]

/-- The items of a batch as the counters of ingestion read them. -/
def LedgerReading.ofReport (rep : IngestReport) : LedgerReading :=
  { touched := rep.entryIds.length, skipped := rep.skipped, invalid := rep.rejections.length }

/-- Whether an answer is a failure whose problem has a code. -/
def answersCode {α : Type} (code : String) : Except Failure α → Bool
  | .error f => f.problem?.map Problem.code == some code
  | .ok _ => false

/-- An answer asks for a resync exactly when its problem is `RESYNC_REQUIRED`. -/
theorem Sync.asksResync_eq_answersCode {α : Type} (r : Except Failure α) :
    Sync.asksResync r = answersCode "RESYNC_REQUIRED" r := by
  rcases r with f | a
  · simp only [Sync.asksResync, Sync.Failure.isResync, answersCode]
    rcases f.problem? with _ | p
    · rfl
    · cases p <;> rfl
  · rfl

/-! ## Counters that moved with the ledgers -/

namespace Hosting

/-- From `h` to `h'` the counters of the ledger read `R`: the applied and rejected mutations moved
with the total of the ledgers, the resyncs and the ingested items by `R`, and the duplicates by
`R` when `clean` holds; and the workers still report to the metrics, with the client rows of every
store in their tables. -/
structure Accounted (h h' : Hosting) (R : LedgerReading) (clean : Prop) : Prop where
  metered : h'.Metered
  settled : (h'.ambient.metrics.settled : Int) - h.ambient.metrics.settled =
    h'.disk.ledgerTotal - h.disk.ledgerTotal
  resyncs : h'.ambient.metrics.resyncs = h.ambient.metrics.resyncs + R.resyncs
  touched : h'.ambient.metrics.ingested.count "touched" =
    h.ambient.metrics.ingested.count "touched" + R.touched
  skipped : h'.ambient.metrics.ingested.count "skipped" =
    h.ambient.metrics.ingested.count "skipped" + R.skipped
  invalid : h'.ambient.metrics.ingested.count "invalid" =
    h.ambient.metrics.ingested.count "invalid" + R.invalid
  duplicates : clean → h'.ambient.metrics.mutations.count "duplicate" =
    h.ambient.metrics.mutations.count "duplicate" + R.duplicates

variable {h₁ h₂ h₃ : Hosting} {R R₁ R₂ : LedgerReading} {c c₁ c₂ : Prop}

/-- What keeps the ledgers and their counters reads nothing. -/
theorem Steady.accounted (hs : Steady h₁ h₂) : Accounted h₁ h₂ {} c := by
  have hc := hs.counters
  simp only [Metrics.ledgerCounters, Prod.mk.injEq] at hc
  obtain ⟨hmut, hres, hing⟩ := hc
  refine ⟨hs.metered, ?_, ?_, ?_, ?_, ?_, fun _ => ?_⟩
  · simp only [Metrics.settled, hmut, hs.ledgerTotal, sub_self]
  all_goals simp [hmut, hres, hing]

namespace Accounted

theorem trans (h₁₂ : Accounted h₁ h₂ R₁ c₁) (h₂₃ : Accounted h₂ h₃ R₂ c₂) :
    Accounted h₁ h₃ (R₁ + R₂) (c₁ ∧ c₂) where
  metered := h₂₃.metered
  settled := by
    have := h₁₂.settled
    have := h₂₃.settled
    omega
  resyncs := by
    show _ = _ + (R₁.resyncs + R₂.resyncs)
    rw [h₂₃.resyncs, h₁₂.resyncs, Nat.add_assoc]
  touched := by
    show _ = _ + (R₁.touched + R₂.touched)
    rw [h₂₃.touched, h₁₂.touched, Nat.add_assoc]
  skipped := by
    show _ = _ + (R₁.skipped + R₂.skipped)
    rw [h₂₃.skipped, h₁₂.skipped, Nat.add_assoc]
  invalid := by
    show _ = _ + (R₁.invalid + R₂.invalid)
    rw [h₂₃.invalid, h₁₂.invalid, Nat.add_assoc]
  duplicates hc := by
    show _ = _ + (R₁.duplicates + R₂.duplicates)
    rw [h₂₃.duplicates hc.2, h₁₂.duplicates hc.1, Nat.add_assoc]

/-- A steady stretch after counting changes nothing of what was read. -/
theorem steady (ha : Accounted h₁ h₂ R c) (hs : Steady h₂ h₃) : Accounted h₁ h₃ R c := by
  have := ha.trans (hs.accounted (c := True))
  rwa [and_true] at this

end Accounted

/-- A steady stretch before counting changes nothing of what is read. -/
theorem Steady.trans_accounted (hs : Steady h₁ h₂) (ha : Accounted h₂ h₃ R c) :
    Accounted h₁ h₃ R c := by
  have := (hs.accounted (c := True)).trans ha
  rwa [LedgerReading.empty_add, true_and] at this

/-- Counting the items of a batch reads them. -/
theorem meter_report_accounted {h : Hosting} (hm : h.Metered) (rep : IngestReport) :
    let count := fun (t : Tally) =>
      ((t.bump "touched" rep.entryIds.length).bump "skipped" rep.skipped).bump "invalid"
        rep.rejections.length
    Accounted h (h.meter fun m => { m with ingested := count m.ingested }) (.ofReport rep) c := by
  intro count
  unfold meter
  rw [if_pos hm.metering]
  refine ⟨⟨hm.metering, hm.stores⟩, by simp [Metrics.settled], rfl, ?_, ?_, ?_, fun _ => rfl⟩ <;>
    simp [count, LedgerReading.ofReport]

/-! ## A push -/

/-- The duplicates the ledger reads in a push of a user, in the store it runs on once opened;
none when it does not open. -/
def pushDuplicates (h : Hosting) (user : String) (n : Nat) (req : Sync.PushRequest) : Nat :=
  match h.opened user with
  | some (path, h') => req.duplicates n (h'.disk.load path)
  | none => 0

/-- A push run on an opened store, with its store saved: what it counts against the ledger of its
client is what moved the total of the ledgers. -/
theorem save_push_accounted {h : Hosting} (hm : h.Metered) (path : String) (n : Nat)
    (req : Sync.PushRequest) {r : Except Failure Sync.PushReport} {d' : Database} {amb' : Ambient}
    (hx : (Sync.push n req).exec (h.disk.load path) h.ambient = ((r, d'), amb')) :
    Accounted h { h with disk := h.disk.save path d', ambient := amb' }
      { resyncs := if Sync.asksResync r then 1 else 0, duplicates := req.duplicates n (h.disk.load path) }
      (Faultless r) := by
  obtain ⟨hmet, hothers, hc⟩ := Sync.push_counts n req hm.metering hx
  have htable : d'.ClientsInTable := by
    have := Sync.push_clientsInTable n req h.ambient (hm.stores path)
    rwa [Work.leaves, hx] at this
  refine ⟨⟨hmet, fun p => ?_⟩, ?_, hc.resyncs, ?_, ?_, ?_, hc.duplicates⟩
  · rw [Disk.load_save]
    split
    · exact htable
    · exact hm.stores p
  · -- the total moved by the client's own step
    rw [hc.settled, Disk.ledgerTotal_save, ← Database.ledgerTotal_sub hothers]
    ring
  all_goals simp only [hc.ingested]; rfl

/-- **What a push counts, as an operation.** Its applied and rejected mutations move with the
total of the ledgers; it counts a resync exactly when it answers one; and, unless a fault stops
it, it counts the duplicates the ledger of the store it opened reads in it. -/
theorem perform_push_accounted {h : Hosting} (hm : h.Metered) (user : String) (n : Nat)
    (req : Sync.PushRequest) :
    Accounted h (h.perform "push" user (Sync.push n req)).2
      { resyncs := if Sync.asksResync (h.perform "push" user (Sync.push n req)).1 then 1 else 0,
        duplicates := h.pushDuplicates user n req }
      (Faultless (h.perform "push" user (Sync.push n req)).1) := by
  rcases ho : h.opened user with _ | ⟨path, h'⟩
  · -- a store that did not open: a failure that is no resync, and nothing read
    obtain ⟨hs, f, hf, hnr⟩ := perform_of_not_opened hm ho "push" (Sync.push n req)
    simp only [hf, pushDuplicates, ho, Sync.asksResync, hnr]
    exact hs.accounted
  · have hs := opened_steady hm ho
    rcases hx : (Sync.push n req).exec (h'.disk.load path) h'.ambient with ⟨⟨r, d'⟩, amb'⟩
    have ha := save_push_accounted hs.metered path n req hx
    rw [perform_of_opened ho]
    simp only [hx, pushDuplicates, ho]
    exact hs.trans_accounted (ha.steady ((Steady.refl ha.metered).meter (by intro; rfl)))

end Hosting

/-! ## Requests and runs of them -/

namespace Service

/-- A request of a user to the service. -/
inductive Request where
  | subscribe (user : String) (req : SubscribeRequest)
  | unsubscribe (user sourceId : String)
  | getSource (user sourceId : String)
  | listSources (user : String)
  | ingest (user sourceId : String) (items : List Incoming)
  | transition (user entryId target : String)
  | push (user : String) (req : Sync.PushRequest)
  | pull (user : String) (req : Sync.PullRequest)
  | identity (user : String) (ev : IdentityEvent)
  | schema (user : String)

namespace Request

/-- The service after a request. -/
def apply : Request → Service → Service
  | .subscribe user req, s => (s.subscribe user req).2
  | .unsubscribe user sourceId, s => (s.unsubscribe user sourceId).2
  | .getSource user sourceId, s => (s.getSource user sourceId).2
  | .listSources user, s => (s.listSources user).2
  | .ingest user sourceId items, s => (s.ingest user sourceId items).2
  | .transition user entryId target, s => (s.transition user entryId target).2
  | .push user req, s => (s.push user req).2
  | .pull user req, s => (s.pull user req).2
  | .identity user ev, s => (s.applyIdentity user ev).2
  | .schema user, s => (s.schema user).2

/-- What the counters of the ledger are to read from a request: a push answered
`RESYNC_REQUIRED`, with the duplicates the ledger reads in it, and the items of a batch that
succeeded. -/
def reading : Request → Service → LedgerReading
  | .push user req, s =>
    { resyncs := if answersCode "RESYNC_REQUIRED" (s.push user req).1 then 1 else 0
      duplicates := s.hosting.pushDuplicates user s.settings.maxMutations req }
  | .ingest user sourceId items, s =>
    match (s.ingest user sourceId items).1 with
    | .ok rep => .ofReport rep
    | .error _ => {}
  | _, _ => {}

/-- A request that met no storage fault: a push answered with a value or a problem. -/
def Clean : Request → Service → Prop
  | .push user req, s => Faultless (s.push user req).1
  | _, _ => True

/-- The service after a run of requests. -/
def runAll : List Request → Service → Service
  | [], s => s
  | r :: rs, s => runAll rs (r.apply s)

/-- What the counters are to read from a run of requests, each from the service it met. -/
def readings : List Request → Service → LedgerReading
  | [], _ => {}
  | r :: rs, s => r.reading s + readings rs (r.apply s)

/-- A run of requests that met no storage fault. -/
def AllClean : List Request → Service → Prop
  | [], _ => True
  | r :: rs, s => r.Clean s ∧ AllClean rs (r.apply s)

end Request

variable {s : Service}

/-- A batch counts its items after its transaction, when it succeeds. -/
theorem ingest_accounted (hm : s.hosting.Metered) (user sourceId : String) (items : List Incoming) :
    s.hosting.Accounted (s.ingest user sourceId items).2.hosting
      (Request.reading (.ingest user sourceId items) s) True := by
  have hs := Hosting.perform_steady hm "ingest" user
    (Work.Quiet.ingest s.settings.maxIngestBatch sourceId items)
  simp only [Request.reading, Service.ingest]
  rcases ht : s.transact "ingest" user (Ingest.ingest s.settings.maxIngestBatch sourceId items) with
    ⟨r, s'⟩
  have hs' : s.hosting.Steady s'.hosting := by
    have := congrArg (fun p => p.2.hosting) ht
    rw [← this]
    exact hs
  cases r with
  | error f => exact hs'.accounted
  | ok rep => exact hs'.trans_accounted (Hosting.meter_report_accounted hs'.metered rep)

/-- **What a request counts.** A push reads as `Hosting.perform_push_accounted` says, a batch
its items when it succeeds, and every other request nothing. -/
theorem Request.accounted (r : Request) (hm : s.hosting.Metered) :
    s.hosting.Accounted (r.apply s).hosting (r.reading s) (r.Clean s) := by
  cases r with
  | subscribe user req =>
    exact (Hosting.perform_steady hm _ user (Work.Quiet.subscribe req)).accounted
  | unsubscribe user sourceId =>
    exact (Hosting.perform_steady hm _ user (Work.Quiet.unsubscribe sourceId)).accounted
  | getSource user sourceId =>
    exact (Hosting.perform_steady hm _ user (Work.Quiet.getSource sourceId)).accounted
  | listSources user => exact (Hosting.perform_steady hm _ user Work.Quiet.listSources).accounted
  | ingest user sourceId items => exact ingest_accounted hm user sourceId items
  | transition user entryId target =>
    exact (Hosting.perform_steady hm _ user (Work.Quiet.transition entryId target)).accounted
  | push user req =>
    have := Hosting.perform_push_accounted hm user s.settings.maxMutations req
    rw [Sync.asksResync_eq_answersCode] at this
    exact this
  | pull user req => exact (Hosting.perform_steady hm _ user (Work.Quiet.pull user req)).accounted
  | identity user ev =>
    exact (Hosting.perform_steady hm _ user (Work.Quiet.identity user ev)).accounted
  | schema user => exact (Hosting.perform_steady hm _ user (Work.Quiet.schema user)).accounted

/-- **What a run of requests counts**: what each request counts, from the service it met. -/
theorem Request.run_accounted (rs : List Request) (hm : s.hosting.Metered) :
    s.hosting.Accounted (Request.runAll rs s).hosting (Request.readings rs s)
      (Request.AllClean rs s) := by
  -- each request starts from a service that still reports, with client rows in their tables
  induction rs generalizing s with
  | nil => exact (Hosting.Steady.refl hm).accounted
  | cons r rs ih =>
    have h₁ := r.accounted hm
    exact h₁.trans (ih h₁.metered)

end Service

/-! ## The counters read the ledger -/

/-- A service that starts with its workers reporting to the metrics, on no stores yet. -/
theorem Service.start_metered (settings : Settings) (hm : settings.metered = true)
    (opener : Opener) (now : Instant) : (Service.start settings opener now).hosting.Metered :=
  ⟨hm, fun _ hc => absurd rfl hc⟩

/-- **The sync metrics read the ledger.** Over every run of requests of any users, from a service
whose workers report to the metrics and whose stores hold client rows only in their clients
tables: the applied and rejected mutations counted rose by as much as the last applied ids of all
clients of all stores; the resyncs counted are the pushes answered `RESYNC_REQUIRED`; the items
counted as touched, skipped and invalid are the entries, skipped items and rejections of the
batches that succeeded; and, when no push met a storage fault, the duplicates counted are the
mutations each push processed at or below its client's last applied id. -/
theorem sync_counters_read_ledger (rs : List Service.Request) {s : Service}
    (hm : s.hosting.Metered) :
    let s' := Service.Request.runAll rs s
    let M := s.hosting.ambient.metrics
    let M' := s'.hosting.ambient.metrics
    let R := Service.Request.readings rs s
    ((M'.mutations.count "applied" + M'.mutations.count "rejected" : Nat) : Int) -
        (M.mutations.count "applied" + M.mutations.count "rejected" : Nat) =
      s'.hosting.disk.ledgerTotal - s.hosting.disk.ledgerTotal ∧
    M'.resyncs = M.resyncs + R.resyncs ∧
    M'.ingested.count "touched" = M.ingested.count "touched" + R.touched ∧
    M'.ingested.count "skipped" = M.ingested.count "skipped" + R.skipped ∧
    M'.ingested.count "invalid" = M.ingested.count "invalid" + R.invalid ∧
    (Service.Request.AllClean rs s →
      M'.mutations.count "duplicate" = M.mutations.count "duplicate" + R.duplicates) :=
  have ha := Service.Request.run_accounted rs hm
  ⟨ha.settled, ha.resyncs, ha.touched, ha.skipped, ha.invalid, ha.duplicates⟩

/-- A service started with metering reads its ledger over every run. -/
theorem started_service_counters_read_ledger :
    let s := Service.start {} (.files "data") ⟨0⟩
    s.hosting.Metered ∧ ∀ rs : List Service.Request,
      let s' := Service.Request.runAll rs s
      let M := s.hosting.ambient.metrics
      let M' := s'.hosting.ambient.metrics
      let R := Service.Request.readings rs s
      ((M'.mutations.count "applied" + M'.mutations.count "rejected" : Nat) : Int) -
          (M.mutations.count "applied" + M.mutations.count "rejected" : Nat) =
        s'.hosting.disk.ledgerTotal - s.hosting.disk.ledgerTotal ∧
      M'.resyncs = M.resyncs + R.resyncs ∧
      M'.ingested.count "touched" = M.ingested.count "touched" + R.touched ∧
      M'.ingested.count "skipped" = M.ingested.count "skipped" + R.skipped ∧
      M'.ingested.count "invalid" = M.ingested.count "invalid" + R.invalid ∧
      (Service.Request.AllClean rs s →
        M'.mutations.count "duplicate" = M.mutations.count "duplicate" + R.duplicates) :=
  have hm := Service.start_metered {} rfl (.files "data") ⟨0⟩
  ⟨hm, fun rs => sync_counters_read_ledger rs hm⟩

end ReadLater
