import Mathlib
import ReadLater.Store.Txn
import ReadLater.Proofs.Store.Writes

/-!
# Transactions as state transformers

`Txn.exec` runs a transaction from its state and the ambient services and gives its outcome with
the ambient services after it; `Work.exec` does the same for work made of several transactions.
The equations of this module compute both step by step, so that later proofs never unfold the
monads again:

* `Txn.exec_bind`, `Txn.exec_pure`, `Txn.exec_tryCatch`, …: the monad operations;
* `Txn.exec_read`, `Txn.exec_write`, `Txn.exec_withTicket`, …: the primitives of a transaction;
* `Txn.exec_run`: a transaction that fails leaves the store as it was;
* `Work.exec_atomically`, `Work.exec_attempt`: each transaction of a piece of work commits or
  rolls back on its own, and a failure stops the work with what committed before it;
* `Txn.of_triple`: what a Hoare triple about a transaction says of a run of it.
-/

namespace ReadLater.Store

open Clock Std.Do

/-- The outcome of a transaction run from a state, with the ambient services after it. -/
def Txn.exec {α : Type} (t : Txn α) (s : TxnState) (amb : Ambient) :
    Except Failure (α × TxnState) × Ambient :=
  ((StateT.run t s).run.run amb).run

/-- The outcome of work run on a store, with the store and the ambient services after it. -/
def Work.exec {α : Type} (w : Work α) (db : Database) (amb : Ambient) :
    (Except Failure α × Database) × Ambient :=
  ((w.run db).run amb).run

namespace Txn

variable {α β : Type} {s : TxnState} {amb : Ambient}

/-! ## The monad operations -/

theorem exec_bind (x : Txn α) (f : α → Txn β) :
    (x >>= f).exec s amb = match x.exec s amb with
      | (.ok (a, s'), amb') => (f a).exec s' amb'
      | (.error e, amb') => (.error e, amb') := by
  simp only [exec, StateT.run_bind, ExceptT.run_bind, Id.run_bind]
  rcases (StateT.run (StateT.run x s).run amb).run with ⟨r, amb'⟩
  cases r <;> rfl

@[simp] theorem exec_pure (a : α) : (pure a : Txn α).exec s amb = (.ok (a, s), amb) := rfl

@[simp] theorem exec_get : (get : Txn TxnState).exec s amb = (.ok (s, s), amb) := rfl

@[simp] theorem exec_set (s' : TxnState) :
    (set s' : Txn PUnit).exec s amb = (.ok (⟨⟩, s'), amb) := rfl

@[simp] theorem exec_modify (f : TxnState → TxnState) :
    (modify f : Txn PUnit).exec s amb = (.ok (⟨⟩, f s), amb) := rfl

@[simp] theorem exec_throw (e : Failure) : (throw e : Txn α).exec s amb = (.error e, amb) := rfl

theorem exec_tryCatch (x : Txn α) (h : Failure → Txn α) :
    (tryCatch x h).exec s amb = match x.exec s amb with
      | (.ok p, amb') => (.ok p, amb')
      | (.error e, amb') => (h e).exec s amb' := by
  simp only [exec, tryCatch, MonadExceptOf.tryCatch, tryCatchThe, StateT.run, ExceptT.tryCatch,
    ExceptT.run, ExceptT.mk]
  rcases hx : x s amb with ⟨r, amb'⟩
  cases r <;> simp [hx, bind, StateT.bind, pure, StateT.pure, Id.run]

/-! ## The primitives -/

@[simp] theorem exec_ambient (m : AmbientM α) :
    (Txn.ambient m).exec s amb = (.ok ((m.run amb).run.1, s), (m.run amb).run.2) := rfl

@[simp] theorem exec_fail (p : Problem) : (Txn.fail p : Txn α).exec s amb = (.error (.problem p), amb) :=
  rfl

@[simp] theorem exec_failWith (text : String) :
    (Txn.failWith text : Txn α).exec s amb = (.error (.other text), amb) := rfl

@[simp] theorem exec_now :
    Txn.now.exec s amb = (.ok (amb.clock, s), { amb with clock := amb.clock.addNanos 1 }) := rfl

@[simp] theorem exec_freshId :
    Txn.freshId.exec s amb =
      (.ok (Ambient.idText (amb.issued + 1), s), { amb with issued := amb.issued + 1 }) := rfl

theorem exec_read (context : String) (f : Database → Sql α) :
    (Txn.read context f).exec s amb = match f s.db with
      | .ok a => (.ok (a, s), amb)
      | .error e => (.error (.wrapped context (.other e.message)), amb) := by
  simp only [Txn.read, exec_bind, exec_get]
  split <;> simp [*]

theorem exec_write (context : String) (f : Database → Sql Database) :
    (Txn.write context f).exec s amb = match f s.db with
      | .ok db => (.ok (⟨⟩, { s with db := db }), amb)
      | .error e => (.error (.wrapped context (.other e.message)), amb) := by
  simp only [Txn.write, exec_bind, exec_get]
  split <;> simp [*]

theorem exec_writeCounting (context : String) (f : Database → Sql (Database × Bool)) :
    (Txn.writeCounting context f).exec s amb = match f s.db with
      | .ok (db, hit) => (.ok (hit, { s with db := db }), amb)
      | .error e => (.error (.wrapped context (.other e.message)), amb) := by
  simp only [Txn.writeCounting, exec_bind, exec_get]
  rcases f s.db with e | ⟨db, hit⟩ <;> rfl

theorem exec_withTicket (body : Txn α) :
    (Txn.withTicket body).exec s amb = match body.exec { s with ticket := {} } amb with
      | (.ok (a, s'), amb') => (.ok (a, { s' with ticket := s.ticket }), amb')
      | (.error e, amb') => (.error e, amb') := by
  simp only [Txn.withTicket, exec_bind, exec_get, exec_modify]
  split <;> simp [*]

/-- A transaction run on a store: a failure leaves the store as it was. -/
theorem exec_run (t : Txn α) (db : Database) :
    ((Txn.run t db).run amb).run = match t.exec ⟨db, {}⟩ amb with
      | (.ok (a, s), amb') => ((.ok a, s.db), amb')
      | (.error f, amb') => ((.error f, db), amb') := by
  simp only [Txn.run, exec, StateT.run_bind, Id.run_bind]
  rcases (StateT.run (StateT.run t ⟨db, {}⟩).run amb).run with ⟨r, amb'⟩
  rcases r with f | ⟨a, s'⟩ <;> rfl

/-! ## The version ticket -/

variable {v : Int} {s' : TxnState} {amb' : Ambient}

theorem currentVersion_ok (h : Txn.currentVersion.exec s amb = (.ok (v, s'), amb')) :
    s' = s ∧ amb' = amb ∧ s.db.counter = some v := by
  simp only [Txn.currentVersion, exec_bind, exec_read] at h
  rcases hc : s.db.counterValue with e | r <;> simp only [hc] at h
  · cases h
  · rw [Database.counterValue_ok hc] at h
    rcases hr : s.db.counter with _ | c <;> simp only [hr] at h
    · cases h
    · simp only [exec_pure, Prod.mk.injEq, Except.ok.injEq] at h
      exact ⟨h.1.2.symm, h.2.symm, h.1.1 ▸ rfl⟩

theorem loadTicket_ok (h : Txn.loadTicket.exec s amb = (.ok (v, s'), amb')) :
    amb' = amb ∧ s'.db = s.db ∧ s'.ticket = { s.ticket with current := some v } ∧
      (s.ticket.current = some v ∨ s.ticket.current = none ∧ s.db.counter = some v) := by
  simp only [Txn.loadTicket, exec_bind, exec_get] at h
  rcases hc : s.ticket.current with _ | c <;> simp only [hc, exec_bind] at h
  · rcases hv : Txn.currentVersion.exec s amb with ⟨_ | ⟨w, s1⟩, amb1⟩ <;> rw [hv] at h
    · cases h
    · obtain ⟨rfl, rfl, hw⟩ := currentVersion_ok hv
      simp only [exec_modify, exec_pure, Prod.mk.injEq, Except.ok.injEq] at h
      obtain ⟨⟨rfl, rfl⟩, rfl⟩ := h
      exact ⟨rfl, rfl, rfl, Or.inr ⟨rfl, hw⟩⟩
  · simp only [exec_pure, Prod.mk.injEq, Except.ok.injEq] at h
    obtain ⟨⟨rfl, rfl⟩, rfl⟩ := h
    refine ⟨rfl, rfl, ?_, Or.inl rfl⟩
    rw [← hc]

theorem nextVersion_ok (h : Txn.nextVersion.exec s amb = (.ok (v, s'), amb')) :
    amb' = amb ∧ ∃ c, v = c + 1 ∧ s' = { s with ticket := ⟨some c, true⟩ } ∧
      (s.ticket.current = some c ∨ s.ticket.current = none ∧ s.db.counter = some c) := by
  simp only [Txn.nextVersion, exec_bind] at h
  rcases hl : Txn.loadTicket.exec s amb with ⟨_ | ⟨c, s1⟩, amb1⟩ <;> rw [hl] at h
  · cases h
  · obtain ⟨rfl, hdb, htk, hc⟩ := loadTicket_ok hl
    simp only [exec_modify, exec_pure, Prod.mk.injEq, Except.ok.injEq] at h
    obtain ⟨⟨rfl, rfl⟩, rfl⟩ := h
    refine ⟨rfl, c, rfl, ?_, hc⟩
    cases s1
    simp_all

/-- A move of the counter runs no statement unless it goes up, and then writes only where the
counter holds the version it starts from. -/
theorem exec_advanceVersion (old new : Int) :
    (Txn.advanceVersion old new).exec s amb =
      if new ≤ old then (.error (.other s!"バージョンは増加のみ可能です: {old} -> {new}"), amb)
      else match s.db.advanceCounter old new with
        | .ok (db, hit) =>
          if hit then (.ok (⟨⟩, { s with db := db }), amb)
          else (.error (.other s!"バージョンが想定外に変化しています: expected {old}"), amb)
        | .error e => (.error (.wrapped "バージョンの更新に失敗しました" (.other e.message)), amb) := by
  by_cases hle : new ≤ old
  · simp [Txn.advanceVersion, hle, exec_bind]
  · simp only [Txn.advanceVersion, hle, ↓reduceIte, exec_bind, exec_writeCounting]
    rcases s.db.advanceCounter old new with e | ⟨db, _ | _⟩ <;> simp

theorem advanceVersion_ok {old new : Int} {u : Unit}
    (h : (Txn.advanceVersion old new).exec s amb = (.ok (u, s'), amb')) :
    amb' = amb ∧ old < new ∧ s.db.counter = some old ∧
      s' = { s with db := { s.db with counter := some new } } := by
  rw [exec_advanceVersion] at h
  by_cases hle : new ≤ old
  · simp [hle] at h
  simp only [hle, ↓reduceIte] at h
  rcases ha : s.db.advanceCounter old new with e | ⟨db, hit⟩ <;> simp only [ha] at h
  · cases h
  obtain ⟨rfl, rfl⟩ := Prod.mk.inj (Database.advanceCounter_ok ha)
  cases hhit : s.db.counter == some old <;> simp only [hhit] at h
  · cases h
  · have hcnt : s.db.counter = some old := by simpa using hhit
    simp only [↓reduceIte, Prod.mk.injEq, Except.ok.injEq] at h
    obtain ⟨⟨-, rfl⟩, rfl⟩ := h
    exact ⟨rfl, by omega, hcnt, by simp [hcnt]⟩

theorem commitVersion_ok (h : Txn.commitVersion.exec s amb = (.ok (v, s'), amb')) :
    amb' = amb ∧ ∃ c, (s.ticket.current = some c ∨ s.ticket.current = none ∧ s.db.counter = some c) ∧
      s'.ticket = { s.ticket with current := some c } ∧
      (s.ticket.used = false ∧ s'.db = s.db ∧ v = c ∨
        s.ticket.used = true ∧ s.db.counter = some c ∧
          s'.db = { s.db with counter := some (c + 1) } ∧ v = c + 1) := by
  simp only [Txn.commitVersion, exec_bind] at h
  rcases hl : Txn.loadTicket.exec s amb with ⟨_ | ⟨c, s1⟩, amb1⟩ <;> rw [hl] at h
  · cases h
  obtain ⟨rfl, hdb, htk, hc⟩ := loadTicket_ok hl
  have hu : s1.ticket.used = s.ticket.used := by rw [htk]
  simp only [exec_get, hu] at h
  cases hused : s.ticket.used
  · simp only [hused, Bool.not_false, ↓reduceIte, exec_pure, Prod.mk.injEq, Except.ok.injEq] at h
    obtain ⟨⟨rfl, rfl⟩, rfl⟩ := h
    exact ⟨rfl, c, hc, htk, Or.inl ⟨rfl, hdb, rfl⟩⟩
  · simp only [hused, Bool.not_true, Bool.false_eq_true, ↓reduceIte, exec_bind] at h
    rcases ha : (Txn.advanceVersion c (c + 1)).exec s1 amb1 with ⟨_ | ⟨u, s2⟩, amb2⟩ <;>
      rw [ha] at h
    · cases h
    obtain ⟨rfl, -, hcnt, rfl⟩ := advanceVersion_ok ha
    simp only [exec_pure, Prod.mk.injEq, Except.ok.injEq] at h
    obtain ⟨⟨rfl, rfl⟩, rfl⟩ := h
    exact ⟨rfl, c, hc, htk, Or.inr ⟨rfl, hdb ▸ hcnt, by rw [hdb], rfl⟩⟩

/-! ## Hoare triples -/

/-- What a triple about a transaction says of a run of it that succeeds. -/
theorem of_triple {t : Txn α} {P : TxnState → Ambient → Prop} {Q : α → TxnState → Ambient → Prop}
    (ht : ⦃fun s amb => ⌜P s amb⌝⦄ t ⦃⇓? a s amb => ⌜Q a s amb⌝⦄) {a : α} {s' : TxnState}
    {amb' : Ambient} (hP : P s amb) (h : t.exec s amb = (.ok (a, s'), amb')) : Q a s' amb' := by
  have hwp := ht s amb hP
  simp only [WP.wp, PredTrans.pushArg, PredTrans.pushExcept, PredTrans.apply, StateT.run,
    PostCond.mayThrow, Id.run] at hwp
  simp only [exec, StateT.run, Id.run] at h
  rw [h] at hwp
  exact hwp

end Txn

namespace Work

variable {α β : Type} {db : Database} {amb : Ambient}

theorem exec_bind (x : Work α) (f : α → Work β) :
    (x >>= f).exec db amb = match x.exec db amb with
      | ((.ok a, db'), amb') => (f a).exec db' amb'
      | ((.error e, db'), amb') => ((.error e, db'), amb') := by
  simp only [exec, Work.run, ExceptT.run_bind, StateT.run_bind, Id.run_bind]
  rcases ((StateT.run (ExceptT.run x) db).run amb).run with ⟨⟨r, db'⟩, amb'⟩
  cases r <;> rfl

@[simp] theorem exec_pure (a : α) : (pure a : Work α).exec db amb = ((.ok a, db), amb) := rfl

@[simp] theorem exec_throw (e : Failure) : (throw e : Work α).exec db amb = ((.error e, db), amb) :=
  rfl

@[simp] theorem exec_get : (get : Work Database).exec db amb = ((.ok db, db), amb) := rfl

@[simp] theorem exec_set (db' : Database) :
    (set db' : Work PUnit).exec db amb = ((.ok ⟨⟩, db'), amb) := rfl

@[simp] theorem exec_fail (p : Problem) :
    (Work.fail p : Work α).exec db amb = ((.error (.problem p), db), amb) := rfl

@[simp] theorem exec_liftM (m : AmbientM α) :
    (liftM m : Work α).exec db amb = ((.ok (m.run amb).run.1, db), (m.run amb).run.2) := rfl

@[simp] theorem exec_ambient (m : AmbientM α) :
    (Work.ambient m).exec db amb = ((.ok (m.run amb).run.1, db), (m.run amb).run.2) := rfl

/-- A transaction as a step of work: it commits, or it rolls back and stops the work. -/
theorem exec_atomically (t : Txn α) :
    (Work.atomically t).exec db amb = match t.exec ⟨db, {}⟩ amb with
      | (.ok (a, s), amb') => ((.ok a, s.db), amb')
      | (.error f, amb') => ((.error f, db), amb') := by
  simp only [Work.atomically, exec_bind, exec_get, exec_liftM, Txn.exec_run]
  rcases t.exec ⟨db, {}⟩ amb with ⟨_ | ⟨a, s⟩, amb'⟩ <;> rfl

/-- A transaction whose failure the work handles: it commits, or it rolls back. -/
theorem exec_attempt (t : Txn α) :
    (Work.attempt t).exec db amb = match t.exec ⟨db, {}⟩ amb with
      | (.ok (a, s), amb') => ((.ok (.ok a), s.db), amb')
      | (.error f, amb') => ((.ok (.error f), db), amb') := by
  simp only [Work.attempt, exec_bind, exec_get, exec_liftM, Txn.exec_run]
  rcases t.exec ⟨db, {}⟩ amb with ⟨_ | ⟨a, s⟩, amb'⟩ <;> rfl

end Work

end ReadLater.Store
