import Mathlib
import ReadLater.Proofs.Sync.Replay
import ReadLater.Store.Schema

/-!
# Row versions

Every row that clients replicate, and every client row, carries the version of the commit that
wrote it, and the store's version counts those commits. This module proves it of every store the
service can reach: a new store brought up to date by its migrations, then any sequence of
operations, failed ones included.

* `Database.VersionsBounded`: every synced row and every client row has a version between `1`
  and the store's;
* `VersionStep d d'`: nothing clients replicate changes and the version stays, or the version
  moves one step, something changed, and every row written carries the new version;
* `Operation.exec_versionStep`: every operation but a push is one such step, and
  `Sync.push_versionSteps`: a push is one per mutation it processes;
* **`reachable_row_versions`**: in every reachable store the versions are bounded, and every
  operation moves the version in such steps, never down.
-/

namespace ReadLater

open Clock Store Std.Do

set_option mvcgen.warning false

namespace Store

/-- Every synced row and every client row carries a version between `1` and the store's. -/
structure Database.VersionsBounded (d : Database) : Prop where
  nonneg : 0 ≤ d.version
  rows : ∀ r ∈ d.syncedRows, 1 ≤ r.version ∧ r.version ≤ d.version
  clients : ∀ cl ∈ d.clients, 1 ≤ cl.version ∧ cl.version ≤ d.version

/-- One step of the store's version from `d` to `d'`. -/
inductive VersionStep (d d' : Database) : Prop
  /-- The version stays, and so do the synced rows, the clients' versions and every client's
  last applied id. -/
  | keep (hv : d'.version = d.version) (hrows : d'.syncedRows = d.syncedRows)
      (hcl : d'.clients.map (·.version) = d.clients.map (·.version))
      (hlast : ∀ x, d'.lastId x = d.lastId x)
  /-- The version moves one step, a synced row or a last applied id changed, and every synced
  row and client row that is new carries the new version. -/
  | bump (hv : d'.version = d.version + 1)
      (hchanged : d'.syncedRows ≠ d.syncedRows ∨ ∃ x, d'.lastId x ≠ d.lastId x)
      (hrows : ∀ r ∈ d'.syncedRows, r ∉ d.syncedRows → r.version = d'.version)
      (hcl : ∀ cl ∈ d'.clients, cl ∉ d.clients → cl.version = d'.version)

namespace VersionStep

variable {d d' : Database}

theorem refl (d : Database) : VersionStep d d := .keep rfl rfl rfl fun _ => rfl

theorem version_le (h : VersionStep d d') : d.version ≤ d'.version := by
  cases h with
  | keep hv => exact hv.ge
  | bump hv => omega

/-- A step keeps the versions bounded. -/
theorem bounded (h : VersionStep d d') (hb : d.VersionsBounded) : d'.VersionsBounded := by
  have h0 := hb.nonneg
  cases h with
  | keep hv hrows hcl _ =>
    refine ⟨hv ▸ h0, fun r hr => hv ▸ hb.rows r (hrows ▸ hr), fun cl hcl' => ?_⟩
    -- a client row of `d'` has the version of a client row of `d`
    obtain ⟨cl₀, hcl₀, heq⟩ := List.mem_map.1 (hcl ▸ List.mem_map_of_mem hcl')
    rw [hv, ← heq]
    exact hb.clients cl₀ hcl₀
  | bump hv _ hrows hcl =>
    refine ⟨by omega, fun r hr => ?_, fun cl hcl' => ?_⟩
    · by_cases hr₀ : r ∈ d.syncedRows
      · have := hb.rows r hr₀
        omega
      · have := hrows r hr hr₀
        omega
    · by_cases hcl₀ : cl ∈ d.clients
      · have := hb.clients cl hcl₀
        omega
      · have := hcl cl hcl' hcl₀
        omega

end VersionStep

/-- Steps of the version, of whatever kind, never lower it. -/
theorem versionSteps_version_le {R : Database → Database → Prop}
    (hR : ∀ a b, R a b → VersionStep a b) {d d' : Database} (h : Relation.ReflTransGen R d d') :
    d.version ≤ d'.version := by
  induction h with
  | refl => exact le_rfl
  | tail _ hs ih => exact ih.trans (hR _ _ hs).version_le

/-- Steps of the version keep the versions bounded. -/
theorem versionSteps_bounded {R : Database → Database → Prop}
    (hR : ∀ a b, R a b → VersionStep a b) {d d' : Database} (h : Relation.ReflTransGen R d d')
    (hb : d.VersionsBounded) : d'.VersionsBounded := by
  induction h with
  | refl => exact hb
  | tail _ hs ih => exact (hR _ _ hs).bounded ih

/-! ## A new store -/

/-- A property of a store that every step of bringing its schema up to date keeps: clearing a
table, and the bookkeeping of its tables, version columns, indexes, counter and ledger. -/
structure Database.SchemaStable (P : Database → Prop) : Prop where
  clearRows : ∀ d t, P d → P (d.clearRows t)
  tables : ∀ d ts, P d → P { d with tables := ts }
  versioned : ∀ d vs, P d → P { d with versioned := vs }
  indexes : ∀ d ix, P d → P { d with indexes := ix }
  seeded : ∀ d, P d → P { d with counter := some 0 }
  applied : ∀ d ms, P d → P { d with applied := ms }

namespace Database.SchemaStable

variable {P : Database → Prop} {d d' : Database}

theorem ensureLedger (hP : SchemaStable P) (h : P d) : P d.ensureLedger := by
  unfold Database.ensureLedger
  split
  · exact h
  · exact hP.tables _ _ (hP.clearRows d .migrations h)

theorem schemaStep (hP : SchemaStable P) {step : SchemaStep} (h : P d) (hr : step.run d = .ok d') :
    P d' := by
  cases step with
  | createTable t =>
    simp only [SchemaStep.run, Database.createTable] at hr
    split at hr
    · cases hr
    · cases hr
      exact hP.versioned _ _ (hP.tables _ _ (hP.clearRows d t h))
  | createIndex name t onVersion =>
    obtain rfl : d' = { d with indexes := d.indexes ++ [(name, t)] } := by
      simp only [SchemaStep.run, Database.createIndex, Sql.bind_eq_ok, Sql.pure_eq_ok, ite_eq_iff,
        Sql.throw_eq_ok] at hr
      grind
    exact hP.indexes _ _ h
  | addVersionColumn t =>
    obtain rfl : d' = { d with versioned := d.versioned ++ [t] } := by
      simp only [SchemaStep.run, Database.addVersionColumn, Sql.bind_eq_ok, Sql.pure_eq_ok,
        ite_eq_iff, Sql.throw_eq_ok] at hr
      grind
    exact hP.versioned _ _ h
  | seedCounter =>
    obtain rfl : d' = { d with counter := some 0 } := by
      simp only [SchemaStep.run, Database.seedCounter, Sql.bind_eq_ok, Sql.pure_eq_ok, ite_eq_iff,
        Sql.throw_eq_ok] at hr
      grind
    exact hP.seeded _ h

theorem runSteps (hP : SchemaStable P) {steps : List SchemaStep} (h : P d)
    (hr : Migration.runSteps d steps = .ok d') : P d' := by
  induction steps generalizing d with
  | nil =>
    cases hr
    exact h
  | cons step rest ih =>
    obtain ⟨d₁, h₁, hrest⟩ := Sql.bind_eq_ok.1 hr
    exact ih (hP.schemaStep h h₁) hrest

theorem migration (hP : SchemaStable P) {m : Migration} {now : Instant} (h : P d)
    (hr : m.apply d now = .ok d') : P d' := by
  obtain ⟨d₁, h₁, hrec⟩ := Sql.bind_eq_ok.1 hr
  obtain rfl : d' = { d₁ with applied := d₁.applied ++ [⟨m.version, m.name, now, m.checksum⟩] } := by
    simp only [Database.recordMigration, Sql.bind_eq_ok, Sql.pure_eq_ok, ite_eq_iff,
      Sql.throw_eq_ok] at hrec
    grind
  exact hP.applied _ _ (hP.runSteps h h₁)

theorem applyAll (hP : SchemaStable P) (user : String) (ms : List Migration) :
    ∀ n, ⦃fun d _ => ⌜P d⌝⦄ applyAll user ms n ⦃⇓ _ d _ => ⌜P d⌝⦄ := by
  induction ms with
  | nil =>
    intro n
    mvcgen [Store.applyAll]
  | cons m rest ih =>
    intro n
    mvcgen [Store.applyAll, ih, readClock, logAt]
    rename_i h _ hm _
    exact hP.migration h hm

/-- Bringing a store up to date keeps what the schema's steps keep. -/
theorem ensureSchema (hP : SchemaStable P) (user : String) :
    ⦃fun d _ => ⌜P d⌝⦄ ensureSchema user ⦃⇓ _ d _ => ⌜P d⌝⦄ := by
  have := hP.applyAll user
  mvcgen [Store.ensureSchema, Runner.ensureSchema, this]
  all_goals exact hP.ensureLedger ‹_›

end Database.SchemaStable

/-- What a triple about work on a store's schema says of a run of it. -/
theorem schema_of_triple {α : Type} {x : StateT Database AmbientM α} {P : Database → Prop}
    {Q : α → Database → Prop} (hx : ⦃fun d _ => ⌜P d⌝⦄ x ⦃⇓ a d _ => ⌜Q a d⌝⦄) {d : Database}
    (amb : Ambient) (hP : P d) : Q ((x.run d).run amb).1.1 ((x.run d).run amb).1.2 := by
  have hwp := hx d amb hP
  simp only [WP.wp, PredTrans.pushArg, PredTrans.apply, StateT.run, Id.run, PostCond.noThrow] at hwp
  exact hwp

/-- The store of a new user, once its schema is brought up to date. -/
def newStore (user : String) (amb : Ambient) : Database :=
  (((ensureSchema user).run {}).run amb).1.2

/-- A new store has every property of the empty store that the schema's steps keep. -/
theorem Database.SchemaStable.newStore {P : Database → Prop} (hP : SchemaStable P) (h : P {})
    (user : String) (amb : Ambient) : P (newStore user amb) :=
  schema_of_triple (hP.ensureSchema user) amb h

/-- A store with no synced rows and no clients, at version `0`. -/
def Database.Blank (d : Database) : Prop :=
  d.syncedRows = [] ∧ d.clients = [] ∧ d.version = 0

namespace Database.Blank

variable {d : Database}

theorem empty : ({} : Database).Blank := ⟨rfl, rfl, rfl⟩

theorem bounded (h : d.Blank) : d.VersionsBounded where
  nonneg := h.2.2.ge
  rows r hr := by
    rw [h.1] at hr
    cases hr
  clients cl hcl := by
    rw [h.2.1] at hcl
    cases hcl

theorem clearRows (h : d.Blank) (t : Table) : (d.clearRows t).Blank := by
  obtain ⟨hrows, hcl, hv⟩ := h
  simp only [Database.syncedRows, List.append_eq_nil_iff, List.map_eq_nil_iff] at hrows
  cases t <;> simp_all [Database.clearRows, Database.Blank, Database.syncedRows, Database.version]

/-- The schema's steps add no row to a blank store, and seed its counter at `0`. -/
theorem schemaStable : SchemaStable Blank where
  clearRows _ t h := h.clearRows t
  tables _ _ h := h
  versioned _ _ h := h
  indexes _ _ h := h
  seeded _ h := ⟨h.1, h.2.1, rfl⟩
  applied _ _ h := h

end Database.Blank

theorem newStore_blank (user : String) (amb : Ambient) : (newStore user amb).Blank :=
  Database.Blank.schemaStable.newStore Database.Blank.empty user amb

/-! ## One transaction -/

/-- A confined body that justifies its ticket settles as one step of the version: an unused
ticket changed no synced row, a used one stamped a row above every row there was. -/
theorem Settled.versionStep {d d' : Database} {s₁ : TxnState} {v : Int} (hb : d.VersionsBounded)
    (hconf : Confined ⟨d, {}⟩ s₁) (hjust : s₁.Justified) (hset : Settled d s₁ v d') :
    VersionStep d d' := by
  obtain ⟨V, hV, ⟨hu, -, rfl⟩ | ⟨hu, -, rfl⟩⟩ := hset
  · have hrows : s₁.db.syncedRows = d.syncedRows := by
      by_contra hne
      have := hconf.changed hne
      rw [hu] at this
      cases this
    exact .keep (by simp only [Database.version, hconf.counter]) hrows (by rw [hconf.clients])
      (Database.lastId_eq_of_clients hconf.clients)
  · have hver : ({ s₁.db with counter := some (V + 1) } : Database).version = d.version + 1 := by
      simp [Database.version, hV]
    refine .bump hver (Or.inl fun heq => ?_) (fun r hr hr₀ => ?_) (fun cl hcl hcl₀ => ?_)
    · obtain ⟨r, hr, hs⟩ := hjust hu
      have hnew := hconf.stamps_of_fresh hV hs
      have hold := (hb.rows r (heq ▸ hr)).2
      simp only [Database.version, hV, Option.getD_some] at hold
      omega
    · rw [hver, hconf.stamps_of_fresh hV (hconf.fresh r hr hr₀)]
      simp [Database.version, hV]
    · exact absurd (hconf.clients ▸ hcl) hcl₀

/-- Recording a client's progress, over a store whose new synced rows carry the next version and
whose other client rows were there, is one step of the version. -/
theorem versionStep_advanced {d e : Database} {cl : Client} {id : Int} {t : Instant} {V : Int}
    (hV : d.counter = some V) (hcl : ∀ x ∈ e.clients, x.id ≠ cl.id → x ∈ d.clients)
    (hrows : ∀ r ∈ e.syncedRows, r ∉ d.syncedRows → r.version = V + 1)
    (hlast : (e.advanced cl id t V).lastId cl.id ≠ d.lastId cl.id) :
    VersionStep d (e.advanced cl id t V) := by
  have hver : (e.advanced cl id t V).version = d.version + 1 := by
    simp [Database.advanced, Database.version, hV]
  refine .bump hver (Or.inr ⟨cl.id, hlast⟩) (fun r hr hr₀ => ?_) (fun x hx hx₀ => ?_)
  · rw [hver, hrows r hr hr₀]
    simp [Database.version, hV]
  · rcases mem_replaceById hx with rfl | ⟨hx, hid⟩
    · rw [hver]
      simp [Database.version, hV]
    · exact absurd (hcl x hx hid) hx₀

/-- Stamping a client's last contact is a step of the version that keeps it. -/
theorem versionStep_touched (d : Database) (c : String) (t : Instant) :
    VersionStep d (d.touched c t) := by
  refine .keep rfl rfl ?_ (Database.lastId_touched d c t)
  simp only [Database.touched, List.map_map]
  congr 1
  funext r
  simp only [Function.comp_apply]
  split <;> rfl

end Store

/-! ## A push, mutation by mutation -/

namespace Sync

variable {req : PushRequest}

namespace ClientLoaded

variable {d dE : Database} {cl : Client}

theorem syncedRows_eq (h : ClientLoaded req d cl dE) : dE.syncedRows = d.syncedRows := by
  cases h <;> rfl

/-- A client row of the loaded store under another id than the push's was there before. -/
theorem mem_of_ne (h : ClientLoaded req d cl dE) {x : Client} (hx : x ∈ dE.clients)
    (hid : x.id ≠ req.clientId) : x ∈ d.clients := by
  cases h with
  | found => exact hx
  | created t _ =>
    rcases List.mem_append.1 hx with hx | hx
    · exact hx
    · rw [List.mem_singleton] at hx
      subst hx
      exact absurd rfl hid

end ClientLoaded

/-- The commit of a client's next mutation is one step of the version. -/
theorem Commits.versionStep {m : Mutation} {d d' : Database} {p : Option Problem}
    (hnext : m.id = d.lastId req.clientId + 1) (hc : Commits req m d p d') : VersionStep d d' := by
  have hlast : d'.lastId req.clientId ≠ d.lastId req.clientId := by
    rw [hc.lastId, if_pos rfl]
    omega
  cases hc with
  | applied t hload hV hrun =>
    -- the effect's new rows carry the ticket's stamp, read from the counter at `V`
    have hconf := Txn.of_triple (Mutation.run_confined ⟨_, {}⟩ m) (Confined.refl _) hrun
    refine versionStep_advanced hV
      (fun x hx hid => hload.mem_of_ne (hconf.clients ▸ hx) (hload.id_eq ▸ hid))
      (fun r hr hr₀ => ?_) (hload.id_eq ▸ hlast)
    exact hconf.stamps_of_fresh (hload.counter_eq.trans hV)
      (hconf.fresh r hr (hload.syncedRows_eq ▸ hr₀))
  | rejected t hrej hload hV =>
    exact versionStep_advanced hV (fun x hx hid => hload.mem_of_ne hx (hload.id_eq ▸ hid))
      (fun r hr hr₀ => absurd (hload.syncedRows_eq ▸ hr) hr₀) (hload.id_eq ▸ hlast)

/-- Processing one mutation of a push, with a result. -/
def Processes (req : PushRequest) (d d' : Database) : Prop :=
  ∃ m r, Processed req m d (.ok r) d'

/-- A pass over a push's mutations is one step of the version per mutation it processes. -/
theorem Replays.versionSteps {d d' : Database} {ms cs : List Mutation}
    (h : Replays req d ms d' cs) :
    Relation.ReflTransGen (fun a b => Processes req a b ∧ VersionStep a b) d d' := by
  induction h with
  | nil => exact .refl
  | halt => exact .refl
  | duplicate t hfind hg hle _ ih =>
    exact .head ⟨⟨_, _, .duplicate t hfind hg hle⟩, versionStep_touched _ _ _⟩ ih
  | commit hnext hc _ ih =>
    exact .head ⟨⟨_, _, .committed hnext hc⟩, hc.versionStep hnext⟩ ih

/-- Whatever a push answers, it moves the store by one step of the version per mutation it
processes. -/
theorem push_versionSteps (n : Nat) (req : PushRequest) (d : Database) (amb : Ambient) :
    Relation.ReflTransGen (fun a b => Processes req a b ∧ VersionStep a b) d
      ((push n req).leaves d amb).1 := by
  rcases hx : (push n req).exec d amb with ⟨⟨r, d'⟩, amb'⟩
  obtain ⟨cs, h⟩ := push_replays hx
  simp only [Work.leaves, hx]
  exact h.versionSteps

end Sync

/-! ## Every operation -/

namespace Operation

variable {d : Database} {amb : Ambient}

/-- An operation other than a push is one step of the version. -/
theorem exec_versionStep (hb : d.VersionsBounded) {op : Operation} (hop : ¬ op.IsPush) :
    VersionStep d (op.exec d amb).1 := by
  rcases @exec_settles d amb _ hop with h | ⟨s₁, v, hconf, hjust, hset⟩
  · rw [h]
    exact .refl d
  · exact hset.versionStep hb hconf hjust

/-- Every operation moves the store by steps of the version. -/
theorem exec_versionSteps (hb : d.VersionsBounded) (op : Operation) :
    Relation.ReflTransGen VersionStep d (op.exec d amb).1 := by
  cases op with
  | push n req =>
    exact Relation.ReflTransGen.mono (fun _ _ h => h.2) _ _ (Sync.push_versionSteps n req d amb)
  | pull user req => exact .single (exec_versionStep hb (fun h => h))
  | ingest n sourceId items => exact .single (exec_versionStep hb (fun h => h))
  | subscribe req => exact .single (exec_versionStep hb (fun h => h))
  | unsubscribe sourceId => exact .single (exec_versionStep hb (fun h => h))
  | transition entryId target => exact .single (exec_versionStep hb (fun h => h))
  | identity user ev => exact .single (exec_versionStep hb (fun h => h))

end Operation

/-! ## Every reachable store -/

/-- The stores the service can reach: a new store brought up to date, then any operation, whatever
it answers. -/
inductive Store.Reachable : Database → Prop
  | schema (user : String) (amb : Ambient) : Reachable (newStore user amb)
  | step {d : Database} (op : Operation) (amb : Ambient) : Reachable d → Reachable (op.exec d amb).1

theorem Store.Reachable.bounded {d : Database} (h : Reachable d) : d.VersionsBounded := by
  induction h with
  | schema user amb => exact (newStore_blank user amb).bounded
  | step op amb _ ih => exact versionSteps_bounded (fun _ _ h => h) (Operation.exec_versionSteps ih op) ih

/-- **Row versions in every reachable store.** Every synced row and every client row has a
version between `1` and the store's; no operation lowers the version; an operation other than a
push is one step of the version, and a push one step per mutation it processes: a step keeps
the version and everything clients replicate, or moves the version by one, changes a synced row
or a last applied id, and stamps every row it writes with the new version. -/
theorem reachable_row_versions {d : Database} (hd : Reachable d) :
    d.VersionsBounded ∧
      (∀ (op : Operation) amb, d.version ≤ (op.exec d amb).1.version) ∧
      (∀ (op : Operation) amb, ¬ op.IsPush → VersionStep d (op.exec d amb).1) ∧
      ∀ n req amb, Relation.ReflTransGen (fun a b => Sync.Processes req a b ∧ VersionStep a b) d
        ((Operation.push n req).exec d amb).1 := by
  have hb := hd.bounded
  refine ⟨hb, fun op amb => ?_, fun op amb hop => Operation.exec_versionStep hb hop,
    fun n req amb => Sync.push_versionSteps n req d amb⟩
  exact versionSteps_version_le (fun _ _ h => h) (Operation.exec_versionSteps hb op)

/-- A new user's store is reachable, so its row versions are bounded and move in steps. -/
theorem newStore_row_versions :
    Reachable (newStore "user" {}) ∧ (newStore "user" {}).VersionsBounded ∧
      (∀ (op : Operation) amb,
        (newStore "user" {}).version ≤ (op.exec (newStore "user" {}) amb).1.version) ∧
      (∀ (op : Operation) amb, ¬ op.IsPush →
        VersionStep (newStore "user" {}) (op.exec (newStore "user" {}) amb).1) ∧
      ∀ n req amb, Relation.ReflTransGen (fun a b => Sync.Processes req a b ∧ VersionStep a b)
        (newStore "user" {}) ((Operation.push n req).exec (newStore "user" {}) amb).1 :=
  ⟨.schema "user" {}, reachable_row_versions (.schema "user" {})⟩

end ReadLater
