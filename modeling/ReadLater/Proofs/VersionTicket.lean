import ReadLater.Proofs.ProfileFold

/-!
# One version step per transaction

A transaction stamps the rows it writes through its version ticket: the ticket reads the counter
once, at the first request, hands out the next version to every request, and at the end moves
the counter one step if a version was handed out and leaves it alone otherwise. A move of the
counter (`Txn.advanceVersion`) runs only upward and only from the version the counter holds.

Here the transaction's own writes are any statements that leave the counter alone
(`Database.KeepsCounter`), interleaved with the requests in any order (`TicketCall.runAll`). A
request and the two ways a commit ends are `Txn.nextVersion_of_ready`, `Txn.commitVersion_fresh`
and `Txn.commitVersion_drawn`; from them:

* `Txn.advanceVersion_fails`: a move fails, and writes nothing, unless it goes up from the
  counter's value;
* `TicketCall.exec_runAll`: every request of a run is given `v + 1`, and only a write can fail;
* `TicketCall.exec_versioned_runAll`: the version after the transaction, and its one write of
  the counter;
* **`versionTicket_single_bump`**: all of these together.
-/

namespace ReadLater.Store

open Clock

namespace Database

/-- The counter's table is there, its row holds `v`, and no trigger refuses an update of it. -/
structure CounterAt (db : Database) (v : Int) : Prop where
  present : db.has .counter = true
  value : db.counter = some v
  updatable : db.fire .update .counter true = .ok ()

/-- A statement that, when it succeeds, leaves the counter as it found it. -/
def KeepsCounter (f : Database → Sql Database) : Prop :=
  ∀ db db' v, f db = .ok db' → db.CounterAt v → db'.CounterAt v

variable {db db' : Database} {v : Int}

/-- The counter is kept by a change that keeps the tables, the triggers and the counter's row. -/
theorem CounterAt.of_frame (h : db.CounterAt v) (htables : db'.tables = db.tables)
    (htriggers : db'.triggers = db.triggers) (hcounter : db'.counter = db.counter) :
    db'.CounterAt v where
  present := by simpa [has, htables] using h.present
  value := hcounter.trans h.value
  updatable := by simpa [fire, htriggers] using h.updatable

theorem keepsCounter_insertItem (i : Item) : KeepsCounter (·.insertItem i) := by
  intro db db' v h hc
  rw [insertItem_ok h]
  exact hc.of_frame rfl rfl rfl

end Database

/-- The ticket once it has read `v` and handed out the next version. -/
def VersionTicket.issued (v : Int) : VersionTicket := ⟨some v, true⟩

namespace Txn

variable {s : TxnState} {amb : Ambient} {v : Int}

/-! ## A move of the counter -/

/-- A move fails unless it goes up from the counter's value. The failure carries no store, so
nothing the move did survives it: a caller that handles it goes on from the same state. -/
theorem advanceVersion_fails {old new : Int} (h : ¬ (old < new ∧ s.db.counter = some old)) :
    ∃ e, (Txn.advanceVersion old new).exec s amb = (.error e, amb) := by
  rw [exec_advanceVersion]
  by_cases hle : new ≤ old
  · exact ⟨_, if_pos hle⟩
  have hmiss : s.db.counter ≠ some old := fun hc => h ⟨by omega, hc⟩
  rw [if_neg hle]
  rcases ha : s.db.advanceCounter old new with e | ⟨db, hit⟩
  · exact ⟨_, rfl⟩
  · obtain ⟨-, rfl⟩ := Prod.mk.inj (Database.advanceCounter_ok ha)
    have hhit : (s.db.counter == some old) = false := by simpa using hmiss
    rw [hhit]
    exact ⟨_, rfl⟩

end Txn

/-! ## Runs of calls -/

/-- What a transaction does while it holds its version ticket: ask for the version of the rows
it writes, or write rows with a statement of its own. -/
inductive TicketCall where
  | next
  | write (context : String) (f : Database → Sql Database)

namespace TicketCall

/-- Makes the calls in order; the versions the requests were given. -/
def runAll : List TicketCall → Txn (List Int)
  | [] => pure []
  | .next :: rest => do
    let v ← Txn.nextVersion
    let vs ← runAll rest
    return v :: vs
  | .write context f :: rest => do
    Txn.write context f
    runAll rest

/-- How many of the calls ask for a version. -/
def requests : List TicketCall → Nat
  | [] => 0
  | .next :: rest => requests rest + 1
  | .write _ _ :: rest => requests rest

/-- A failure that one of the writes among the calls reports. -/
def WriteFailure (calls : List TicketCall) (e : Failure) : Prop :=
  ∃ context f, TicketCall.write context f ∈ calls ∧
    ∃ db fault, f db = .error fault ∧ e = .wrapped context (.other fault.message)

variable {s : TxnState} {amb : Ambient} {v : Int}

theorem WriteFailure.cons {c : TicketCall} {calls : List TicketCall} {e : Failure}
    (h : WriteFailure calls e) : WriteFailure (c :: calls) e := by
  obtain ⟨context, f, hmem, rest⟩ := h
  exact ⟨context, f, List.mem_cons_of_mem c hmem, rest⟩

/-- **Every request of a run is given `v + 1`, the writes keep the counter at `v`, and the
ticket ends issued once a version was asked for; a run fails only where a write fails.** -/
theorem exec_runAll (calls : List TicketCall)
    (hkeep : ∀ context f, TicketCall.write context f ∈ calls → Database.KeepsCounter f)
    (s : TxnState) (amb : Ambient) (h : s.db.CounterAt v) (ht : s.ticket = {} ∨ s.ticket = .issued v) :
    match (runAll calls).exec s amb with
    | (.ok (vs, s'), amb') =>
      amb' = amb ∧ vs = List.replicate (requests calls) (v + 1) ∧ s'.db.CounterAt v ∧
        s'.ticket = if requests calls = 0 then s.ticket else .issued v
    | (.error e, amb') => amb' = amb ∧ WriteFailure calls e := by
  -- induction on the calls, from any state whose ticket is fresh or issued
  induction calls generalizing s with
  | nil => simp [runAll, requests, h]
  | cons c rest ih =>
    have hkeep' : ∀ context f, TicketCall.write context f ∈ rest → Database.KeepsCounter f :=
      fun context f hmem => hkeep context f (List.mem_cons_of_mem c hmem)
    cases c with
    | next =>
      have hcur : s.ticket.current = none ∨ s.ticket.current = some v := by
        rcases ht with ht | ht <;> simp [ht, VersionTicket.issued]
      have hnext : Txn.nextVersion.exec s amb = (.ok (v + 1, { s with ticket := .issued v }), amb) :=
        Txn.nextVersion_of_ready h.present h.value hcur
      have hrest := ih hkeep' { s with ticket := .issued v } h (.inr rfl)
      simp only [runAll, Txn.exec_bind, hnext]
      rcases hr : (runAll rest).exec { s with ticket := .issued v } amb with
        ⟨e | ⟨vs, s'⟩, amb'⟩ <;> simp only [hr] at hrest
      · exact ⟨hrest.1, hrest.2.cons⟩
      · obtain ⟨rfl, rfl, hc, htk⟩ := hrest
        refine ⟨rfl, by simp [requests, List.replicate_succ], hc, ?_⟩
        simp only [requests, Nat.add_one_ne_zero, ↓reduceIte]
        split at htk <;> exact htk
    | write context f =>
      simp only [runAll, Txn.exec_bind, Txn.exec_write]
      rcases hf : f s.db with fault | db'
      · exact ⟨rfl, context, f, List.mem_cons_self, s.db, fault, hf, rfl⟩
      have hc' : db'.CounterAt v := hkeep context f List.mem_cons_self s.db db' v hf h
      have hrest := ih hkeep' { s with db := db' } hc' ht
      rcases hr : (runAll rest).exec { s with db := db' } amb with
        ⟨e | ⟨vs, s'⟩, amb'⟩ <;> simp only [hr] at hrest ⊢
      · exact ⟨hrest.1, hrest.2.cons⟩
      · exact hrest

/-- **A transaction that makes the calls under a fresh ticket ends at `v` when no version was
asked for, with no write of the counter, and at `v + 1`, written once, otherwise.** -/
theorem exec_versioned_runAll (calls : List TicketCall)
    (hkeep : ∀ context f, TicketCall.write context f ∈ calls → Database.KeepsCounter f)
    (h : s.db.CounterAt v) :
    (Txn.versioned (runAll calls)).exec s amb =
      match (runAll calls).exec { s with ticket := {} } amb with
      | (.ok (vs, s1), amb1) =>
        if requests calls = 0 then (.ok ((vs, v), { s1 with ticket := s.ticket }), amb1)
        else (.ok ((vs, v + 1),
          { s1 with db := { s1.db with counter := some (v + 1) }, ticket := s.ticket }), amb1)
      | (.error e, amb1) => (.error e, amb1) := by
  have hrun := exec_runAll calls hkeep { s with ticket := {} } amb h (.inl rfl)
  simp only [Txn.versioned, Txn.exec_withTicket, Txn.exec_bind]
  rcases hr : (runAll calls).exec { s with ticket := {} } amb with
    ⟨e | ⟨vs, s1⟩, amb1⟩ <;> simp only [hr] at hrun ⊢
  obtain ⟨rfl, -, hc, htk⟩ := hrun
  obtain ⟨db1, t1⟩ := s1
  -- the commit finds the ticket fresh when nothing asked for a version, and issued otherwise
  by_cases hk : requests calls = 0
  · obtain rfl : t1 = {} := by simpa [hk] using htk
    simp [hk, Txn.commitVersion_fresh hc.present hc.value]
  · obtain rfl : t1 = .issued v := by simpa [hk] using htk
    simp [hk, VersionTicket.issued, Txn.commitVersion_drawn hc.present hc.value hc.updatable]

end TicketCall

/-- **A transaction's version ticket bumps the counter once at most.** Take a store whose
counter holds `v`, and calls that interleave requests for a version with writes that leave the
counter alone, made under a fresh ticket and then committed. Every request is given `v + 1`, and
only a write can make the calls fail. The commit returns `v + 1` and writes `v + 1` to the
counter when there was a request; with none it returns `v` and writes nothing. A move of the
counter fails, writing nothing, unless it goes up from the version the counter holds. -/
theorem versionTicket_single_bump (calls : List TicketCall)
    (hkeep : ∀ context f, TicketCall.write context f ∈ calls → Database.KeepsCounter f)
    (s : TxnState) (amb : Ambient) (v : Int) (h : s.db.CounterAt v) :
    (match (TicketCall.runAll calls).exec { s with ticket := {} } amb with
      | (.ok (vs, _), _) => vs = List.replicate (TicketCall.requests calls) (v + 1)
      | (.error e, _) => TicketCall.WriteFailure calls e) ∧
    (Txn.versioned (TicketCall.runAll calls)).exec s amb =
      (match (TicketCall.runAll calls).exec { s with ticket := {} } amb with
      | (.ok (vs, s1), amb1) =>
        if TicketCall.requests calls = 0 then (.ok ((vs, v), { s1 with ticket := s.ticket }), amb1)
        else (.ok ((vs, v + 1),
          { s1 with db := { s1.db with counter := some (v + 1) }, ticket := s.ticket }), amb1)
      | (.error e, amb1) => (.error e, amb1)) ∧
    ∀ (t : TxnState) (old new : Int), ¬ (old < new ∧ t.db.counter = some old) →
      ∃ e, (Txn.advanceVersion old new).exec t amb = (.error e, amb) ∧
        ∀ handler : Failure → Txn Unit,
          (tryCatch (Txn.advanceVersion old new) handler).exec t amb = (handler e).exec t amb := by
  refine ⟨?_, TicketCall.exec_versioned_runAll calls hkeep h, fun t old new hbad => ?_⟩
  · have hrun := TicketCall.exec_runAll calls hkeep { s with ticket := {} } amb h (.inl rfl)
    rcases hr : (TicketCall.runAll calls).exec { s with ticket := {} } amb with
      ⟨e | ⟨vs, s1⟩, amb1⟩ <;> simp only [hr] at hrun ⊢
    · exact hrun.2
    · exact hrun.2.1
  · obtain ⟨e, he⟩ : ∃ e, (Txn.advanceVersion old new).exec t amb = (.error e, amb) :=
      Txn.advanceVersion_fails hbad
    exact ⟨e, he, fun handler => by rw [Txn.exec_tryCatch, he]⟩

/-- A store at version 5, with two requests around the insertion of an item. -/
theorem versionTicket_bumps_once_around_insert :
    let item : Item :=
      { id := "i", kind := .article, provider := none, providerId := none, version := 6,
        createdAt := ⟨0⟩, updatedAt := ⟨0⟩ }
    let calls := [TicketCall.next, .write "insert" (·.insertItem item), .next]
    let s : TxnState := ⟨{ tables := [.counter, .items], versioned := [.items], counter := some 5 }, {}⟩
    (∀ context f, TicketCall.write context f ∈ calls → Database.KeepsCounter f) ∧
      s.db.CounterAt 5 ∧
      (match (TicketCall.runAll calls).exec { s with ticket := {} } {} with
        | (.ok (vs, _), _) => vs = List.replicate (TicketCall.requests calls) (5 + 1)
        | (.error e, _) => TicketCall.WriteFailure calls e) ∧
      (Txn.versioned (TicketCall.runAll calls)).exec s {} =
        (match (TicketCall.runAll calls).exec { s with ticket := {} } {} with
        | (.ok (vs, s1), amb1) =>
          if TicketCall.requests calls = 0 then (.ok ((vs, 5), { s1 with ticket := s.ticket }), amb1)
          else (.ok ((vs, 5 + 1),
            { s1 with db := { s1.db with counter := some (5 + 1) }, ticket := s.ticket }), amb1)
        | (.error e, amb1) => (.error e, amb1)) ∧
      ∀ (t : TxnState) (old new : Int), ¬ (old < new ∧ t.db.counter = some old) →
        ∃ e, (Txn.advanceVersion old new).exec t {} = (.error e, {}) ∧
          ∀ handler : Failure → Txn Unit,
            (tryCatch (Txn.advanceVersion old new) handler).exec t {} = (handler e).exec t {} := by
  intro item calls s
  have hkeep : ∀ context f, TicketCall.write context f ∈ calls → Database.KeepsCounter f := by
    intro context f hmem
    simp only [calls, List.mem_cons, reduceCtorEq, TicketCall.write.injEq, List.not_mem_nil,
      false_or, or_false] at hmem
    obtain ⟨-, rfl⟩ := hmem
    exact Database.keepsCounter_insertItem item
  have hc : s.db.CounterAt 5 := ⟨rfl, rfl, rfl⟩
  exact ⟨hkeep, hc, versionTicket_single_bump calls hkeep s {} 5 hc⟩

end ReadLater.Store
