import Mathlib.Data.List.Nodup
import ReadLater.Proofs.Store.Writes
import ReadLater.Store.Schema

/-!
# Bringing a store's schema up to date

`Runner.ensureSchema` compares a store's ledger of migrations with the runner's list, numbered
`1, …, n`, and then applies what the ledger lacks. This module says what it does for every
ledger, whatever rows it holds:

* `Runner.Tampers`, `Runner.IsAhead`: a recorded row that contradicts the list, and one beyond
  its latest version, said of the list itself;
* `Runner.ledgerProblem_of_tampers`: over the rows in version order the first contradiction is a
  tampered row whenever there is one, since such a row lies at or below `n` and every row beyond
  the latest comes after it;
* `Migrates d ms d' done stop`: the migrations `ms` applied one after another, each with its
  ledger row as one transaction, up to the first that fails;
* `Runner.ensureSchema_of_recorded`: a ledger that records the list exactly is left alone;
* **`Runner.ensureSchema_checks_then_applies_missing`**: tampered rows win over rows ahead, both
  apply nothing; otherwise the missing migrations are applied in order until one fails, and
  success leaves a ledger that records the list, so that a second update does nothing.
-/

namespace ReadLater

/-- A ledger row without the instant it was applied. -/
def AppliedMigration.row (a : AppliedMigration) : Int × String × String :=
  (a.version, a.name, a.checksum)

end ReadLater

namespace ReadLater.Store

open Clock

/-! ## The runner's list -/

namespace Runner

variable (r : Runner)

theorem versions_nodup : (r.migrations.map (·.version)).Nodup := by
  rw [r.numbered]
  exact List.nodup_range'

theorem version_mem {m : Migration} (hm : m ∈ r.migrations) :
    1 ≤ m.version ∧ m.version ≤ r.migrations.length := by
  have h : m.version ∈ List.range' 1 r.migrations.length := r.numbered ▸ List.mem_map_of_mem hm
  rw [List.mem_range'_1] at h
  omega

theorem latestVersion_eq : r.latestVersion = r.migrations.length := by
  have h := congrArg List.getLast? r.numbered
  rw [List.getLast?_map, List.getLast?_range'] at h
  unfold latestVersion
  rcases hl : r.migrations.getLast? with _ | m
  · exact (List.length_eq_zero_iff.2 (List.getLast?_eq_none_iff.1 hl)).symm
  · rw [hl] at h
    dsimp only
    split at h
    · cases h
    · simp only [Option.map_some, Option.some.injEq] at h
      omega

variable {r}

theorem mem_of_migrationOf? {v : Int} {m : Migration} (h : r.migrationOf? v = some m) :
    m ∈ r.migrations ∧ (m.version : Int) = v :=
  ⟨List.mem_of_find?_eq_some h, by simpa using List.find?_some h⟩

theorem migrationOf?_eq_none_iff {v : Int} :
    r.migrationOf? v = none ↔ ∀ m ∈ r.migrations, (m.version : Int) ≠ v := by
  simp [migrationOf?, List.find?_eq_none]

/-- A migration of the list is the one of its version, since versions are not repeated. -/
theorem migrationOf?_of_mem {m : Migration} (hm : m ∈ r.migrations) :
    r.migrationOf? m.version = some m := by
  rcases h : r.migrationOf? m.version with _ | m'
  · exact absurd rfl (migrationOf?_eq_none_iff.1 h m hm)
  · obtain ⟨hm', hv⟩ := mem_of_migrationOf? h
    rw [List.inj_on_of_nodup_map r.versions_nodup hm' hm (by exact_mod_cast hv)]

/-! ## Rows that contradict the list -/

variable (r)

/-- A recorded migration that contradicts the list: a version the list lacks, at or below its
latest, or a version of the list recorded under another name or with another checksum. -/
def Tampers (a : AppliedMigration) : Prop :=
  ((∀ m ∈ r.migrations, (m.version : Int) ≠ a.version) ∧ a.version ≤ r.migrations.length) ∨
    ∃ m ∈ r.migrations, (m.version : Int) = a.version ∧
      (m.name ≠ a.name ∨ a.checksum ≠ "" ∧ m.checksum ≠ a.checksum)

/-- A recorded migration beyond the list's latest version. -/
def IsAhead (a : AppliedMigration) : Prop := (r.migrations.length : Int) < a.version

/-- A recorded migration that the list accounts for: one of its versions under its name, with
its checksum or with none. -/
def Fits (a : AppliedMigration) : Prop :=
  ∃ m ∈ r.migrations, (m.version : Int) = a.version ∧ m.name = a.name ∧
    (a.checksum = m.checksum ∨ a.checksum = "")

variable {r} {a : AppliedMigration}

theorem Tampers.version_le (h : r.Tampers a) : a.version ≤ r.migrations.length := by
  rcases h with ⟨-, h⟩ | ⟨m, hm, hv, -⟩
  · exact h
  · have := (r.version_mem hm).2
    omega

theorem rowProblem_of_tampers (h : r.Tampers a) :
    r.rowProblem a = some (.migrationTampered a.name) := by
  unfold rowProblem
  rcases h with ⟨habs, hle⟩ | ⟨m, hm, hv, hdiff⟩
  · rw [migrationOf?_eq_none_iff.2 habs, r.latestVersion_eq, if_neg (by omega)]
  · rw [← hv, migrationOf?_of_mem hm]
    dsimp only
    rw [if_pos (by simpa [String.isEmpty_iff] using hdiff)]

theorem rowProblem_of_ahead (h : r.IsAhead a) :
    r.rowProblem a = some (.schemaAhead a.version.toNat r.migrations.length) := by
  have habs : ∀ m ∈ r.migrations, (m.version : Int) ≠ a.version := fun m hm hv => by
    have := (r.version_mem hm).2
    unfold IsAhead at h
    omega
  unfold rowProblem
  rw [migrationOf?_eq_none_iff.2 habs, r.latestVersion_eq]
  exact if_pos h

theorem rowProblem_eq_none (ht : ¬ r.Tampers a) (ha : ¬ r.IsAhead a) : r.rowProblem a = none := by
  unfold rowProblem
  rcases hm : r.migrationOf? a.version with _ | m
  · -- a version the list lacks, at or below the latest, is tampered
    have hle : a.version ≤ r.migrations.length := by
      unfold IsAhead at ha
      omega
    exact absurd (Or.inl ⟨migrationOf?_eq_none_iff.1 hm, hle⟩) ht
  · obtain ⟨hmem, hv⟩ := mem_of_migrationOf? hm
    refine if_neg fun hdiff => ht (Or.inr ⟨m, hmem, hv, ?_⟩)
    simpa [String.isEmpty_iff] using hdiff

/-- A row fits the list exactly when it neither contradicts it nor lies beyond it. -/
theorem fits_iff : r.Fits a ↔ ¬ r.Tampers a ∧ ¬ r.IsAhead a := by
  constructor
  · rintro ⟨m, hm, hv, hn, hck⟩
    refine ⟨?_, fun hahead => ?_⟩
    · rintro (⟨habs, -⟩ | ⟨m', hm', hv', hdiff⟩)
      · exact habs m hm hv
      · -- the list has one migration of each version
        obtain rfl := List.inj_on_of_nodup_map r.versions_nodup hm' hm (by omega)
        rcases hdiff with hdn | ⟨hne, hdc⟩
        · exact hdn hn
        · rcases hck with hck | hck
          · exact hdc hck.symm
          · exact hne hck
    · have := (r.version_mem hm).2
      unfold IsAhead at hahead
      omega
  · rintro ⟨ht, ha⟩
    by_cases hex : ∃ m ∈ r.migrations, (m.version : Int) = a.version
    · obtain ⟨m, hm, hv⟩ := hex
      refine ⟨m, hm, hv, ?_, ?_⟩
      · by_contra hn
        exact ht (Or.inr ⟨m, hm, hv, Or.inl hn⟩)
      · by_contra hck
        push Not at hck
        exact ht (Or.inr ⟨m, hm, hv, Or.inr ⟨hck.2, Ne.symm hck.1⟩⟩)
    · push Not at hex
      unfold IsAhead at ha
      exact absurd (Or.inl ⟨hex, by omega⟩) ht

/-- Over rows in version order, a tampered row is found before any row beyond the latest. -/
theorem ledgerProblem_of_tampers {rows : List AppliedMigration}
    (hs : rows.Pairwise fun a b => a.version ≤ b.version) (h : ∃ a ∈ rows, r.Tampers a) :
    ∃ a ∈ rows, r.Tampers a ∧ r.ledgerProblem rows = some (.migrationTampered a.name) := by
  induction rows with
  | nil =>
    obtain ⟨a, ha, -⟩ := h
    cases ha
  | cons x xs ih =>
    rw [List.pairwise_cons] at hs
    obtain ⟨a, ha, hta⟩ := h
    by_cases hx : r.Tampers x
    · refine ⟨x, List.mem_cons_self, hx, ?_⟩
      rw [ledgerProblem, List.findSome?_cons, rowProblem_of_tampers hx]
    have ha' : a ∈ xs := by
      rcases List.mem_cons.1 ha with rfl | ha'
      · exact absurd hta hx
      · exact ha'
    have hxa : ¬ r.IsAhead x := by
      -- every row after one beyond the latest is beyond it too, and a tampered row is not
      intro hxa
      have := hs.1 a ha'
      have := hta.version_le
      unfold IsAhead at hxa
      omega
    obtain ⟨b, hb, htb, hp⟩ := ih hs.2 ⟨a, ha', hta⟩
    refine ⟨b, List.mem_cons_of_mem _ hb, htb, ?_⟩
    rw [ledgerProblem, List.findSome?_cons, rowProblem_eq_none hx hxa]
    exact hp

theorem ledgerProblem_of_ahead {rows : List AppliedMigration} (hno : ∀ a ∈ rows, ¬ r.Tampers a)
    (h : ∃ a ∈ rows, r.IsAhead a) :
    ∃ a ∈ rows, r.IsAhead a ∧
      r.ledgerProblem rows = some (.schemaAhead a.version.toNat r.migrations.length) := by
  induction rows with
  | nil =>
    obtain ⟨a, ha, -⟩ := h
    cases ha
  | cons x xs ih =>
    obtain ⟨a, ha, haa⟩ := h
    by_cases hxa : r.IsAhead x
    · refine ⟨x, List.mem_cons_self, hxa, ?_⟩
      rw [ledgerProblem, List.findSome?_cons, rowProblem_of_ahead hxa]
    have ha' : a ∈ xs := by
      rcases List.mem_cons.1 ha with rfl | ha'
      · exact absurd haa hxa
      · exact ha'
    obtain ⟨b, hb, hab, hp⟩ := ih (fun y hy => hno y (List.mem_cons_of_mem _ hy)) ⟨a, ha', haa⟩
    refine ⟨b, List.mem_cons_of_mem _ hb, hab, ?_⟩
    rw [ledgerProblem, List.findSome?_cons, rowProblem_eq_none (hno x List.mem_cons_self) hxa]
    exact hp

theorem ledgerProblem_eq_none {rows : List AppliedMigration}
    (h : ∀ a ∈ rows, ¬ r.Tampers a ∧ ¬ r.IsAhead a) : r.ledgerProblem rows = none := by
  rw [ledgerProblem, List.findSome?_eq_none_iff]
  intro a ha
  exact rowProblem_eq_none (h a ha).1 (h a ha).2

/-- The migrations of the list that no row records, in the list's order. -/
def missing (r : Runner) (rows : List AppliedMigration) : List Migration :=
  r.migrations.filter fun m => decide (∀ a ∈ rows, a.version ≠ m.version)

/-- The missing migrations come in ascending order of version, as the list does. -/
theorem missing_ascending (r : Runner) (rows : List AppliedMigration) :
    (r.missing rows).Pairwise fun m m' => m.version < m'.version := by
  have h : (r.migrations.map (·.version)).Pairwise (· < ·) := by
    rw [r.numbered]
    exact List.pairwise_lt_range'
  exact (List.pairwise_map.1 h).filter _

end Runner

/-! ## Applying migrations one by one -/

/-- Migrations applied in order from the store `d`, each with its ledger row as one transaction
at some instant: `Migrates d ms d' done stop` when `done`, the first migrations of `ms`, lead from
`d` to `d'`, and `stop` is the next one with the fault it failed with, if one failed. -/
inductive Migrates : Database → List Migration → Database → List Migration →
    Option (Migration × Fault) → Prop
  | done (d : Database) : Migrates d [] d [] none
  | fail {d : Database} {m : Migration} {rest : List Migration} {t : Instant} {e : Fault}
      (h : m.apply d t = .error e) : Migrates d (m :: rest) d [] (some (m, e))
  | step {d d₁ d' : Database} {m : Migration} {rest done : List Migration}
      {stop : Option (Migration × Fault)} {t : Instant} (h : m.apply d t = .ok d₁)
      (hr : Migrates d₁ rest d' done stop) : Migrates d (m :: rest) d' (m :: done) stop

/-- The failure an update reports for the migration that stopped it. -/
def migrationFailure (stop : Option (Migration × Fault)) : Option Failure :=
  stop.map fun (m, e) => .problem (.migrationFailed m.name e.message)

/-- The ledger row of a migration, without the instant it was applied. -/
def Migration.row (m : Migration) : Int × String × String := (m.version, m.name, m.checksum)

theorem applyAll_cons_run (user : String) (m : Migration) (rest : List Migration) (n : Nat)
    (d : Database) (amb : Ambient) :
    ((applyAll user (m :: rest) n).run d).run amb = match m.apply d amb.clock with
      | .error e => (((n, some (.problem (.migrationFailed m.name e.message))), d),
          { amb with clock := amb.clock.addNanos 1 })
      | .ok d₁ => ((applyAll user rest (n + 1)).run d₁).run
          ((logAt .info "マイグレーションを適用しました"
            [("user_id", .str user), ("version", .nat m.version), ("name", .str m.name)]).run
            { amb with clock := amb.clock.addNanos 1 }).2 := by
  rcases h : m.apply d amb.clock with e | d₁
  · simp [applyAll, h, readClock, liftM, monadLift, MonadLift.monadLift]
    rfl
  · simp [applyAll, h, readClock, liftM, monadLift, MonadLift.monadLift]
    rfl

/-- Applying a list of migrations applies them in order up to the first that fails, and counts
the ones applied. -/
theorem applyAll_migrates (user : String) (ms : List Migration) (n : Nat) (d : Database)
    (amb : Ambient) :
    ∃ done stop, Migrates d ms (((applyAll user ms n).run d).run amb).1.2 done stop ∧
      (((applyAll user ms n).run d).run amb).1.1 = (n + done.length, migrationFailure stop) := by
  induction ms generalizing n d amb with
  | nil => exact ⟨[], none, .done d, rfl⟩
  | cons m rest ih =>
    rw [applyAll_cons_run]
    rcases h : m.apply d amb.clock with e | d₁
    · exact ⟨[], some (m, e), .fail h, rfl⟩
    · obtain ⟨done, stop, hm, hr⟩ := ih (n + 1) d₁ _
      refine ⟨m :: done, stop, .step h hm, ?_⟩
      rw [hr, List.length_cons, Nat.add_assoc, Nat.add_comm 1]

/-! ## What a migration leaves in the ledger -/

/-- A schema step on a store with its ledger leaves the ledger as it was. -/
theorem SchemaStep.run_ledger {step : SchemaStep} {d d' : Database} (hm : d.has .migrations)
    (h : step.run d = .ok d') :
    d'.has .migrations ∧ d'.ledgerComplete = d.ledgerComplete ∧ d'.applied = d.applied := by
  cases step with
  | createTable t =>
    simp only [SchemaStep.run, Database.createTable] at h
    split at h
    · cases h
    · rename_i hnew
      cases h
      -- the ledger exists, so the new table is another one
      have ht : t ≠ .migrations := by
        rintro rfl
        exact hnew hm
      cases t <;> simp_all [Database.has, Database.clearRows]
  | createIndex name t onVersion =>
    obtain rfl : d' = { d with indexes := d.indexes ++ [(name, t)] } := by
      simp only [SchemaStep.run, Database.createIndex, Sql.bind_eq_ok, Sql.pure_eq_ok, ite_eq_iff,
        Sql.throw_eq_ok] at h
      grind
    exact ⟨hm, rfl, rfl⟩
  | addVersionColumn t =>
    obtain rfl : d' = { d with versioned := d.versioned ++ [t] } := by
      simp only [SchemaStep.run, Database.addVersionColumn, Sql.bind_eq_ok, Sql.pure_eq_ok,
        ite_eq_iff, Sql.throw_eq_ok] at h
      grind
    exact ⟨hm, rfl, rfl⟩
  | seedCounter =>
    obtain rfl : d' = { d with counter := some 0 } := by
      simp only [SchemaStep.run, Database.seedCounter, Sql.bind_eq_ok, Sql.pure_eq_ok, ite_eq_iff,
        Sql.throw_eq_ok] at h
      grind
    exact ⟨hm, rfl, rfl⟩

theorem runSteps_ledger {steps : List SchemaStep} {d d' : Database} (hm : d.has .migrations)
    (h : Migration.runSteps d steps = .ok d') :
    d'.has .migrations ∧ d'.ledgerComplete = d.ledgerComplete ∧ d'.applied = d.applied := by
  induction steps generalizing d with
  | nil =>
    cases h
    exact ⟨hm, rfl, rfl⟩
  | cons step rest ih =>
    obtain ⟨d₁, h₁, hrest⟩ := Sql.bind_eq_ok.1 h
    obtain ⟨hm₁, hc₁, ha₁⟩ := SchemaStep.run_ledger hm h₁
    obtain ⟨hm', hc', ha'⟩ := ih hm₁ hrest
    exact ⟨hm', hc'.trans hc₁, ha'.trans ha₁⟩

/-- A migration that succeeds on a store with its ledger adds its own row to the ledger. -/
theorem Migration.apply_ledger {m : Migration} {t : Instant} {d d' : Database}
    (hm : d.has .migrations) (h : m.apply d t = .ok d') :
    d'.has .migrations ∧ d'.ledgerComplete = d.ledgerComplete ∧
      d'.applied = d.applied ++ [⟨m.version, m.name, t, m.checksum⟩] := by
  obtain ⟨d₁, h₁, hrec⟩ := Sql.bind_eq_ok.1 h
  obtain ⟨hm₁, hc₁, ha₁⟩ := runSteps_ledger hm h₁
  obtain rfl : d' = { d₁ with applied := d₁.applied ++ [⟨m.version, m.name, t, m.checksum⟩] } := by
    simp only [Database.recordMigration, Sql.bind_eq_ok, Sql.pure_eq_ok, ite_eq_iff,
      Sql.throw_eq_ok] at hrec
    grind
  exact ⟨hm₁, hc₁, by rw [ha₁]⟩

namespace Migrates

variable {d d' : Database} {ms done : List Migration} {stop : Option (Migration × Fault)}

/-- The migrations applied are the first of the list, followed by the one that failed. -/
theorem eq_done_append (h : Migrates d ms d' done stop) :
    ∃ rest, ms = done ++ rest ∧ (stop = none → rest = []) ∧
      ∀ m e, stop = some (m, e) → rest.head? = some m := by
  induction h with
  | done => exact ⟨[], rfl, fun _ => rfl, fun _ _ h => by cases h⟩
  | @fail _ m rest _ _ _ =>
    exact ⟨m :: rest, rfl, (fun h => by cases h), fun _ _ h => by cases h; rfl⟩
  | step _ _ ih =>
    obtain ⟨rest, hms, hnone, hsome⟩ := ih
    exact ⟨rest, by rw [hms, List.cons_append], hnone, hsome⟩

/-- Migrations applied to a store with its ledger add their rows to it, in order. -/
theorem rows (h : Migrates d ms d' done stop) (hm : d.has .migrations) :
    d'.has .migrations ∧ d'.ledgerComplete = d.ledgerComplete ∧
      ∃ new, d'.applied = d.applied ++ new ∧ new.map (·.row) = done.map (·.row) := by
  induction h with
  | done => exact ⟨hm, rfl, [], by simp, rfl⟩
  | fail => exact ⟨hm, rfl, [], by simp, rfl⟩
  | @step _ _ _ m _ _ _ t happly _ ih =>
    obtain ⟨hm₁, hc₁, ha₁⟩ := Migration.apply_ledger hm happly
    obtain ⟨hm', hc', new, ha', hnew⟩ := ih hm₁
    refine ⟨hm', hc'.trans hc₁, ⟨m.version, m.name, t, m.checksum⟩ :: new, ?_, ?_⟩
    · rw [ha', ha₁, List.append_assoc, List.singleton_append]
    · rw [List.map_cons, List.map_cons, hnew]
      rfl

end Migrates

/-! ## The update -/

namespace Runner

variable (r : Runner) (user : String)

theorem ensureSchema_run (d : Database) (amb : Ambient) :
    ((r.ensureSchema user).run d).run amb = match d.ensureLedger.appliedMigrations with
      | .error e => (((0, some (.wrapped "failed to list applied migrations" (.other e.message))),
          d.ensureLedger), amb)
      | .ok rows => match r.ledgerProblem rows with
        | some p => (((0, some (.problem p)), d.ensureLedger), amb)
        | none => ((applyAll user (r.migrations.filter fun m =>
            !rows.any (·.version == (m.version : Int))) 0).run d.ensureLedger).run amb := by
  rcases h : d.ensureLedger.appliedMigrations with e | rows
  · simp [Runner.ensureSchema, h]
    rfl
  · rcases hp : r.ledgerProblem rows with _ | p
    · simp [Runner.ensureSchema, h, hp]
    · simp [Runner.ensureSchema, h, hp]
      rfl

@[simp] theorem has_ensureLedger (d : Database) : d.ensureLedger.has .migrations = true := by
  unfold Database.ensureLedger
  split
  · assumption
  · simp [Database.has]

theorem ensureLedger_of_has {d : Database} (hm : d.has .migrations) : d.ensureLedger = d := by
  simp [Database.ensureLedger, hm]

/-- A complete ledger lists its rows in version order. -/
theorem appliedMigrations_of_complete {d : Database} (hm : d.has .migrations)
    (hc : d.ledgerComplete = true) :
    d.appliedMigrations = .ok (d.applied.mergeSort fun a b => decide (a.version ≤ b.version)) := by
  simp [Database.appliedMigrations, Database.need, hm, hc]

theorem appliedMigrations_of_incomplete {d : Database} (hm : d.has .migrations)
    (hc : d.ledgerComplete = false) :
    d.appliedMigrations = .error (.noSuchColumn "name") := by
  simp [Database.appliedMigrations, Database.need, hm, hc]
  rfl

/-- The rows in version order hold the same migrations, so the code's list of pending ones is
the list's missing ones. -/
theorem pending_eq_missing (rows : List AppliedMigration) :
    (r.migrations.filter fun m => !(rows.mergeSort fun a b => decide (a.version ≤ b.version)).any
      (·.version == (m.version : Int))) = r.missing rows := by
  unfold missing
  apply List.filter_congr
  intro m _
  have hperm := List.mergeSort_perm rows fun a b => decide (a.version ≤ b.version)
  rw [Bool.eq_iff_iff]
  simp [hperm.mem_iff]

/-- A ledger whose rows all fit the list and that records each of its versions is left alone:
the update applies nothing and reports no failure. -/
theorem ensureSchema_of_recorded {d : Database} (hm : d.has .migrations)
    (hc : d.ledgerComplete = true) (hfit : ∀ a ∈ d.applied, r.Fits a)
    (hall : ∀ m ∈ r.migrations, ∃ a ∈ d.applied, a.version = m.version) (amb : Ambient) :
    ((r.ensureSchema user).run d).run amb = (((0, none), d), amb) := by
  have hnone : r.missing d.applied = [] := by
    rw [missing, List.filter_eq_nil_iff]
    intro m hm' hmiss
    obtain ⟨a, ha, hv⟩ := hall m hm'
    exact of_decide_eq_true hmiss a ha hv
  have hfits : ∀ a ∈ d.applied.mergeSort (fun a b => decide (a.version ≤ b.version)),
      ¬ r.Tampers a ∧ ¬ r.IsAhead a := fun a ha =>
    fits_iff.1 (hfit a ((List.mergeSort_perm _ _).mem_iff.1 ha))
  rw [ensureSchema_run, ensureLedger_of_has hm, appliedMigrations_of_complete hm hc]
  dsimp only
  rw [ledgerProblem_eq_none hfits, pending_eq_missing, hnone]
  rfl

/-- Applying all the missing migrations over rows that fit the list leaves a ledger that records
exactly the list's versions, with every row fitting the list. -/
theorem recorded_of_migrates {d d' : Database} (hm : d.has .migrations)
    (hfit : ∀ a ∈ d.applied, r.Fits a)
    (hmig : Migrates d (r.missing d.applied) d' (r.missing d.applied) none) :
    (∀ v : Int, (∃ a ∈ d'.applied, a.version = v) ↔ ∃ m ∈ r.migrations, (m.version : Int) = v) ∧
      ∀ a ∈ d'.applied, r.Fits a := by
  obtain ⟨-, -, new, happ, hnew⟩ := hmig.rows hm
  -- a new row is the row of a missing migration, which fits the list
  have hnew_fit : ∀ a ∈ new, ∃ m ∈ r.missing d.applied, a.row = m.row := by
    intro a ha
    obtain ⟨m, hm', hrow⟩ := List.mem_map.1 (hnew ▸ List.mem_map_of_mem ha)
    exact ⟨m, hm', hrow.symm⟩
  have hfit' : ∀ a ∈ d'.applied, r.Fits a := by
    intro a ha
    rw [happ] at ha
    rcases List.mem_append.1 ha with ha | ha
    · exact hfit a ha
    · obtain ⟨m, hm', hrow⟩ := hnew_fit a ha
      simp only [AppliedMigration.row, Migration.row, Prod.mk.injEq] at hrow
      exact ⟨m, (List.mem_filter.1 hm').1, hrow.1.symm, hrow.2.1.symm, Or.inl hrow.2.2⟩
  refine ⟨fun v => ⟨fun ⟨a, ha, hv⟩ => ?_, fun ⟨m, hm', hv⟩ => ?_⟩, hfit'⟩
  · obtain ⟨m, hm', hmv, -⟩ := hfit' a ha
    exact ⟨m, hm', hmv.trans hv⟩
  · by_cases hrec : ∃ a ∈ d.applied, a.version = m.version
    · obtain ⟨a, ha, hav⟩ := hrec
      exact ⟨a, happ ▸ List.mem_append_left _ ha, hav.trans hv⟩
    · -- a version no row recorded was missing, so its row was added
      have hmiss : m ∈ r.missing d.applied := by
        refine List.mem_filter.2 ⟨hm', decide_eq_true fun a ha hav => hrec ⟨a, ha, hav⟩⟩
      obtain ⟨a, ha, hrow⟩ := List.mem_map.1 (hnew.symm ▸ List.mem_map_of_mem hmiss :
        m.row ∈ new.map (·.row))
      simp only [AppliedMigration.row, Migration.row, Prod.mk.injEq] at hrow
      exact ⟨a, happ ▸ List.mem_append_right _ ha, hrow.1.trans hv⟩

/-! ## The four outcomes -/

variable (d : Database) (amb : Ambient)

/-- The rows of a ledger in version order, as the update reads them. -/
theorem sorted_rows (rows : List AppliedMigration) :
    (rows.mergeSort fun a b => decide (a.version ≤ b.version)).Pairwise
      fun a b => a.version ≤ b.version := by
  have h := @List.pairwise_mergeSort _ (fun a b : AppliedMigration => decide (a.version ≤ b.version))
    (fun a b c hab hbc => by simp only [decide_eq_true_eq] at *; omega)
    (fun a b => by simp only [Bool.or_eq_true, decide_eq_true_eq]; omega) rows
  simpa using h

/-- The update of a store whose ledger has all its columns, read in version order. -/
theorem ensureSchema_run_complete (hc : d.ensureLedger.ledgerComplete = true) :
    ((r.ensureSchema user).run d).run amb =
      match r.ledgerProblem (d.ensureLedger.applied.mergeSort
          fun a b => decide (a.version ≤ b.version)) with
      | some p => (((0, some (.problem p)), d.ensureLedger), amb)
      | none => ((applyAll user (r.missing d.ensureLedger.applied) 0).run d.ensureLedger).run amb := by
  rw [ensureSchema_run, appliedMigrations_of_complete (has_ensureLedger d) hc]
  dsimp only
  rw [pending_eq_missing]

/-- A ledger without its name and checksum columns cannot be read; nothing is applied. -/
theorem ensureSchema_incomplete (hc : d.ensureLedger.ledgerComplete = false) :
    ((r.ensureSchema user).run d).run amb = (((0, some (.wrapped "failed to list applied migrations"
      (.other (Fault.noSuchColumn "name").message))), d.ensureLedger), amb) := by
  rw [ensureSchema_run, appliedMigrations_of_incomplete (has_ensureLedger d) hc]

/-- A tampered row fails the update on such a row, and nothing is applied. -/
theorem ensureSchema_tampered (hc : d.ensureLedger.ledgerComplete = true)
    (ht : ∃ a ∈ d.ensureLedger.applied, r.Tampers a) :
    ∃ a ∈ d.ensureLedger.applied, r.Tampers a ∧ ((r.ensureSchema user).run d).run amb =
      (((0, some (.problem (.migrationTampered a.name))), d.ensureLedger), amb) := by
  have hperm := List.mergeSort_perm d.ensureLedger.applied fun a b => decide (a.version ≤ b.version)
  obtain ⟨a, ha, hta, hp⟩ := r.ledgerProblem_of_tampers (sorted_rows d.ensureLedger.applied)
    (by simpa only [hperm.mem_iff] using ht)
  rw [ensureSchema_run_complete r user d amb hc, hp]
  exact ⟨a, hperm.mem_iff.1 ha, hta, rfl⟩

/-- With no tampered row, a row beyond the latest fails the update on such a row, and nothing is
applied. -/
theorem ensureSchema_ahead (hc : d.ensureLedger.ledgerComplete = true)
    (hno : ∀ a ∈ d.ensureLedger.applied, ¬ r.Tampers a)
    (ha : ∃ a ∈ d.ensureLedger.applied, r.IsAhead a) :
    ∃ a ∈ d.ensureLedger.applied, r.IsAhead a ∧ ((r.ensureSchema user).run d).run amb =
      (((0, some (.problem (.schemaAhead a.version.toNat r.migrations.length))), d.ensureLedger),
        amb) := by
  have hperm := List.mergeSort_perm d.ensureLedger.applied fun a b => decide (a.version ≤ b.version)
  obtain ⟨a, ha, haa, hp⟩ := r.ledgerProblem_of_ahead
    (fun a ha => hno a (hperm.mem_iff.1 ha)) (by simpa only [hperm.mem_iff] using ha)
  rw [ensureSchema_run_complete r user d amb hc, hp]
  exact ⟨a, hperm.mem_iff.1 ha, haa, rfl⟩

/-- Over rows that all fit the list, the update applies the missing migrations in order up to the
first that fails, and counts the ones applied. -/
theorem ensureSchema_migrates (hc : d.ensureLedger.ledgerComplete = true)
    (hfit : ∀ a ∈ d.ensureLedger.applied, r.Fits a) :
    ∃ done stop, Migrates d.ensureLedger (r.missing d.ensureLedger.applied)
        (((r.ensureSchema user).run d).run amb).1.2 done stop ∧
      (((r.ensureSchema user).run d).run amb).1.1 = (done.length, migrationFailure stop) := by
  have hperm := List.mergeSort_perm d.ensureLedger.applied fun a b => decide (a.version ≤ b.version)
  rw [ensureSchema_run_complete r user d amb hc,
    ledgerProblem_eq_none fun a ha => fits_iff.1 (hfit a (hperm.mem_iff.1 ha))]
  obtain ⟨done, stop, hmig, hres⟩ :=
    applyAll_migrates user (r.missing d.ensureLedger.applied) 0 d.ensureLedger amb
  exact ⟨done, stop, hmig, by rw [hres, Nat.zero_add]⟩

end Runner

/-- **Bringing a store's schema up to date.** Whatever rows a store's ledger holds (the ledger is
created first if it is missing), with `n` the list's length:

* a ledger without its name and checksum columns cannot be read, and nothing is applied;
* if a row has a version the list lacks at or below `n`, or another name than the list's, or a
  recorded checksum other than the list's, the update fails with `migrationTampered` on such a
  row; otherwise, if a row lies beyond `n`, it fails with `schemaAhead` on such a row; in both
  cases nothing is applied and no row is written;
* otherwise the migrations of the list that no row records are applied in the list's order, each
  with its ledger row as one transaction, up to the first that fails: that one leaves nothing,
  and the update reports `migrationFailed` on it with the number applied before it. When none
  fails, the count is the number that were missing, the ledger records exactly the list's
  versions, each under its name, and a second update applies nothing. -/
theorem Runner.ensureSchema_checks_then_applies_missing (r : Runner) (user : String)
    (d : Database) (amb : Ambient) :
    let out := ((r.ensureSchema user).run d).run amb
    let rows := d.ensureLedger.applied
    (d.ensureLedger.ledgerComplete = false →
      out = (((0, some (.wrapped "failed to list applied migrations"
        (.other (Fault.noSuchColumn "name").message))), d.ensureLedger), amb)) ∧
    (d.ensureLedger.ledgerComplete = true → (∃ a ∈ rows, r.Tampers a) →
      out.1.2 = d.ensureLedger ∧
        ∃ a ∈ rows, r.Tampers a ∧ out.1.1 = (0, some (.problem (.migrationTampered a.name)))) ∧
    (d.ensureLedger.ledgerComplete = true → (∀ a ∈ rows, ¬ r.Tampers a) →
      (∃ a ∈ rows, r.IsAhead a) → out.1.2 = d.ensureLedger ∧
        ∃ a ∈ rows, r.IsAhead a ∧
          out.1.1 = (0, some (.problem (.schemaAhead a.version.toNat r.migrations.length)))) ∧
    (d.ensureLedger.ledgerComplete = true → (∀ a ∈ rows, ¬ r.Tampers a ∧ ¬ r.IsAhead a) →
      (r.missing rows).Pairwise (fun m m' => m.version < m'.version) ∧
      ∃ done stop, Migrates d.ensureLedger (r.missing rows) out.1.2 done stop ∧
        out.1.1 = (done.length, migrationFailure stop) ∧
        (∃ rest, r.missing rows = done ++ rest ∧ ∀ m e, stop = some (m, e) → rest.head? = some m) ∧
        (stop = none → done = r.missing rows ∧
          (∀ v : Int, (∃ a ∈ out.1.2.applied, a.version = v) ↔
            ∃ m ∈ r.migrations, (m.version : Int) = v) ∧
          (∀ a ∈ out.1.2.applied, ∃ m ∈ r.migrations, (m.version : Int) = a.version ∧
            m.name = a.name) ∧
          ∀ amb', ((r.ensureSchema user).run out.1.2).run amb' = (((0, none), out.1.2), amb'))) := by
  intro out rows
  refine ⟨ensureSchema_incomplete r user d amb, fun hc ht => ?_, fun hc hno ha => ?_,
    fun hc hfit => ?_⟩
  · obtain ⟨a, ha, hta, hout⟩ := ensureSchema_tampered r user d amb hc ht
    exact ⟨by simp only [out, hout], a, ha, hta, by simp only [out, hout]⟩
  · obtain ⟨a, ha, haa, hout⟩ := ensureSchema_ahead r user d amb hc hno ha
    exact ⟨by simp only [out, hout], a, ha, haa, by simp only [out, hout]⟩
  · have hfit : ∀ a ∈ rows, r.Fits a := fun a ha => fits_iff.2 (hfit a ha)
    obtain ⟨done, stop, hmig, hres⟩ := ensureSchema_migrates r user d amb hc hfit
    obtain ⟨rest, hsplit, hnone, hnext⟩ := hmig.eq_done_append
    refine ⟨r.missing_ascending rows, done, stop, hmig, hres, ⟨rest, hsplit, hnext⟩, fun hstop => ?_⟩
    -- every missing migration was applied: the ledger now records the list
    have hdone : done = r.missing rows := by rw [hsplit, hnone hstop, List.append_nil]
    subst hstop hdone
    obtain ⟨hrec, hfit'⟩ := r.recorded_of_migrates (has_ensureLedger d) hfit hmig
    obtain ⟨hm', hc', -⟩ := hmig.rows (has_ensureLedger d)
    refine ⟨rfl, hrec, fun a ha => ?_, fun amb' => ?_⟩
    · obtain ⟨m, hm'', hv, hn, -⟩ := hfit' a ha
      exact ⟨m, hm'', hv, hn⟩
    · refine r.ensureSchema_of_recorded user hm' (hc'.trans hc) hfit' (fun m hm'' => ?_) amb'
      obtain ⟨a, ha, hv⟩ := (hrec m.version).2 ⟨m, hm'', rfl⟩
      exact ⟨a, ha, hv⟩

end ReadLater.Store
