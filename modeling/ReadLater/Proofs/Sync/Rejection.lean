import Mathlib
import ReadLater.Proofs.Sync.Processing

/-!
# A rejected mutation leaves only its id

A mutation whose effect reports a problem, at whatever point of the effect and after whatever
rows it wrote, is rejected: its first transaction is dropped as a whole, and a second one records
its id as the client's last applied one at the next version. This module states what that leaves.

* `Store.Database.SameContent`: two stores hold the same items, entries, sources, delivery marks,
  tombstones and profiles;
* `Sync.process_of_rejected`: once the first transaction reports a problem, the mutation is
  rejected with that problem, or recording its id fails and the store is left as it was;
* `Sync.rejected_commit`: what a recorded rejection leaves;
* **`Sync.rejected_mutation_leaves_only_its_id`**: the two together (`Sync.RejectionRecorded`),
  with the push going on after the rejection;
* `Sync.push_fails_when_clients_refuse_updates`: a store whose clients refuse updates cannot
  record the id, so the push fails and the rejection is not recorded.
-/

namespace ReadLater

open Clock Store

namespace Store.Database

/-- Two stores hold the same items, entries, sources, delivery marks, tombstones and profiles:
every row that the effect of a mutation may write. -/
structure SameContent (d d' : Database) : Prop where
  items : d'.items = d.items
  entries : d'.entries = d.entries
  sources : d'.sources = d.sources
  seen : d'.seen = d.seen
  tombstones : d'.tombstones = d.tombstones
  profiles : d'.profiles = d.profiles

theorem SameContent.trans {d₁ d₂ d₃ : Database} (h₁ : SameContent d₁ d₂) (h₂ : SameContent d₂ d₃) :
    SameContent d₁ d₃ :=
  ⟨h₂.items.trans h₁.items, h₂.entries.trans h₁.entries, h₂.sources.trans h₁.sources,
    h₂.seen.trans h₁.seen, h₂.tombstones.trans h₁.tombstones, h₂.profiles.trans h₁.profiles⟩

/-- Recording a client's progress writes only the clients and the counter. -/
theorem sameContent_advanced (d : Database) (cl : Client) (id : Int) (t : Instant) (V : Int) :
    SameContent d (d.advanced cl id t V) :=
  ⟨rfl, rfl, rfl, rfl, rfl, rfl⟩

end Store.Database

namespace Sync

variable {req : PushRequest} {m : Mutation} {p : Problem} {d : Database}

/-- Loading the push's client writes only the clients. -/
theorem ClientLoaded.sameContent {cl : Client} {dE : Database} (h : ClientLoaded req d cl dE) :
    d.SameContent dE := by
  cases h <;> exact ⟨rfl, rfl, rfl, rfl, rfl, rfl⟩

/-- One mutation processed, then the rest of the push: a rejection joins the answer. -/
theorem processAll_cons_of_process {rest : List Mutation} {a last : Int}
    {rs : List MutationRejection} {rej : Option Problem} {d' : Database} {amb amb' : Ambient}
    (h : (process req m).exec d amb = ((.ok (last, rej), d'), amb')) :
    (processAll req (m :: rest) a rs).exec d amb =
      (processAll req rest last (match rej with
        | some p => rs ++ [⟨m.id, m.name, p⟩]
        | none => rs)).exec d' amb' := by
  simp only [processAll, Work.exec_bind, h]
  cases rej <;> rfl

/-- A processing that answers a rejection committed one, of the mutation's id. -/
theorem Processed.rejection {last : Int} {d' : Database}
    (h : Processed req m d (.ok (last, some p)) d') : last = m.id ∧ Commits req m d (some p) d' := by
  generalize hr : (Except.ok (last, some p) : Except Failure (Int × Option Problem)) = r at h
  cases h with
  | dropped f => cases hr
  | duplicate t hfind hg hle => simp at hr
  | committed hnext hc =>
    simp only [Except.ok.injEq, Prod.mk.injEq] at hr
    obtain ⟨rfl, rfl⟩ := hr
    exact ⟨rfl, hc⟩

/-- Once the first transaction of a mutation reports a problem, the mutation is rejected with that
problem, or the second transaction, which records its id, fails and leaves the store as it was. -/
theorem process_of_rejected {s₁ : TxnState} {amb amb₁ : Ambient}
    (hf : (firstAttempt req m).exec ⟨d, {}⟩ amb = (.ok (.rejected p, s₁), amb₁)) :
    (∃ d' amb', (process req m).exec d amb = ((.ok (m.id, some p), d'), amb')) ∨
      ∃ f amb', (process req m).exec d amb = ((.error f, d), amb') := by
  simp only [process, Work.exec_bind, Work.exec_get, Work.exec_attempt, hf, Work.exec_set,
    Work.exec_atomically]
  -- the first transaction's store is dropped: the second one starts from `d`
  rcases (Txn.withTicket do
      let c ← loadClient req
      advanceClient c m.id).exec ⟨d, {}⟩ amb₁ with ⟨f | ⟨⟨⟩, s⟩, amb₂⟩
  · exact Or.inr ⟨f, amb₂, rfl⟩
  · exact Or.inl ⟨s.db, _, rfl⟩

/-- **What a recorded rejection leaves.** The store holds the content it held before, the client's
last applied id is the mutation's, the next after the one it had, no other client's moved, the
version rose by one, and the client's row carries that version. -/
theorem rejected_commit {d' : Database} (hc : Commits req m d (some p) d') :
    Rejects req m d p ∧ d.SameContent d' ∧ d'.version = d.version + 1 ∧
      d'.lastId req.clientId = m.id ∧ (∀ x ≠ req.clientId, d'.lastId x = d.lastId x) ∧
      ∃ cl ∈ d'.clients, cl.id = req.clientId ∧ cl.lastMutationId = m.id ∧ cl.version = d'.version := by
  have hlast := hc.lastId
  cases hc with
  | @rejected cl dE _ V t hrej hload hV =>
    have hversion : (dE.advanced cl m.id t V).version = V + 1 := rfl
    refine ⟨hrej, hload.sameContent.trans (Database.sameContent_advanced dE cl m.id t V), ?_,
      by simpa using hlast req.clientId, fun x hx => by simpa [hx] using hlast x, ?_⟩
    · rw [hversion]
      simp [Database.version, hV]
    · -- the client's row, loaded before, now carries the mutation's id and the new version
      refine ⟨{ cl with lastMutationId := m.id, lastModified := t, version := V + 1 },
        mem_replaceById_of_mem hload.mem rfl, hload.id_eq, rfl, hversion.symm⟩

/-- What processing a mutation leaves when it records its rejection with a problem: the answer,
the content of the store as it was, the client's last applied id moved to the mutation's and no
other client's, the version one higher and on the client's row, and the push going on with the
next mutation, the rejection added to its answer. -/
structure RejectionRecorded (req : PushRequest) (m : Mutation) (p : Problem) (d : Database)
    (amb : Ambient) (d' : Database) (amb' : Ambient) : Prop where
  outcome : (process req m).exec d amb = ((.ok (m.id, some p), d'), amb')
  rejects : Rejects req m d p
  content : d.SameContent d'
  version : d'.version = d.version + 1
  lastId : d'.lastId req.clientId = m.id
  others : ∀ x ≠ req.clientId, d'.lastId x = d.lastId x
  row : ∃ cl ∈ d'.clients, cl.id = req.clientId ∧ cl.lastMutationId = m.id ∧ cl.version = d'.version
  goesOn : ∀ rest a rs, (processAll req (m :: rest) a rs).exec d amb =
    (processAll req rest m.id (rs ++ [⟨m.id, m.name, p⟩])).exec d' amb'

/-- **A rejected mutation leaves only its id.** Whenever the first transaction of a mutation with
a positive id ends in a problem that its effect reported (whatever rows the effect wrote before
it), the mutation is the client's next one, and the push either records the rejection
(`RejectionRecorded`: the items, entries, sources, delivery marks, tombstones and profiles as they
were, the client's last applied id the mutation's, the version one higher and on the client's
row, the push going on with the rejection in its answer) or fails and leaves the store as it
was. -/
theorem rejected_mutation_leaves_only_its_id {s₁ : TxnState} {amb amb₁ : Ambient} (hm : 1 ≤ m.id)
    (hf : (firstAttempt req m).exec ⟨d, {}⟩ amb = (.ok (.rejected p, s₁), amb₁)) :
    m.id = d.lastId req.clientId + 1 ∧
      ((∃ d' amb', RejectionRecorded req m p d amb d' amb') ∨
        ∃ f amb', (process req m).exec d amb = ((.error f, d), amb')) := by
  have hnext := ((firstAttempt_exec hm hf).2 p rfl).1
  refine ⟨hnext, ?_⟩
  rcases process_of_rejected hf with ⟨d', amb', hproc⟩ | hfail
  · -- the rejection was recorded: the commit is a rejection's
    obtain ⟨-, hcommit⟩ := (process_processed hm hproc).rejection
    obtain ⟨hrej, hsame, hversion, hlast, hother, hrow⟩ := rejected_commit hcommit
    exact Or.inl ⟨d', amb', hproc, hrej, hsame, hversion, hlast, hother, hrow,
      fun rest a rs => processAll_cons_of_process hproc⟩
  · exact Or.inr hfail

/-- A store of clients and a counter at `0`. -/
def clientsOnly : Database :=
  { tables := [.clients, .counter], versioned := [.clients], counter := some 0 }

/-- An unknown mutation, pushed first by a new client, is rejected. -/
theorem unknown_mutation_leaves_only_its_id :
    ∃ s₁ amb₁, (firstAttempt ⟨"c", "g", [⟨1, "nope", none⟩]⟩ ⟨1, "nope", none⟩).exec
        ⟨clientsOnly, {}⟩ {} = (.ok (.rejected (.unknownMutation "nope"), s₁), amb₁) ∧
      (1 : Int) = clientsOnly.lastId "c" + 1 ∧
      ((∃ d' amb', RejectionRecorded ⟨"c", "g", [⟨1, "nope", none⟩]⟩ ⟨1, "nope", none⟩
          (.unknownMutation "nope") clientsOnly {} d' amb') ∨
        ∃ f amb', (process ⟨"c", "g", [⟨1, "nope", none⟩]⟩ ⟨1, "nope", none⟩).exec clientsOnly {} =
          ((.error f, clientsOnly), amb')) := by
  obtain ⟨s₁, amb₁, hf⟩ : ∃ s₁ amb₁, (firstAttempt ⟨"c", "g", [⟨1, "nope", none⟩]⟩
      ⟨1, "nope", none⟩).exec ⟨clientsOnly, {}⟩ {} =
        (.ok (.rejected (.unknownMutation "nope"), s₁), amb₁) := ⟨_, _, rfl⟩
  exact ⟨s₁, amb₁, hf, rejected_mutation_leaves_only_its_id (by decide) hf⟩

/-- A store of clients and a counter at `0`, whose clients refuse every update. -/
def refusingClientUpdates : Database :=
  { tables := [.clients, .counter], versioned := [.clients], counter := some 0,
    triggers := [⟨"fail_clients_update", .update, .clients, "refused"⟩] }

/-- **A store that refuses to update its clients cannot record a rejection.** The effect of an
unknown mutation reports `UNKNOWN_MUTATION` and the mutation is the client's next one, but the
second transaction fails on the client's row: the push fails, and the client's last applied id
and the version stay at `0`. -/
theorem push_fails_when_clients_refuse_updates :
    (∃ s amb, (firstAttempt ⟨"c", "g", [⟨1, "nope", none⟩]⟩ ⟨1, "nope", none⟩).exec
        ⟨refusingClientUpdates, {}⟩ {} = (.ok (.rejected (.unknownMutation "nope"), s), amb)) ∧
    refusingClientUpdates.lastId "c" + 1 = 1 ∧
    ((push 500 ⟨"c", "g", [⟨1, "nope", none⟩]⟩).exec refusingClientUpdates {}).1.1.toOption = none ∧
    ((push 500 ⟨"c", "g", [⟨1, "nope", none⟩]⟩).exec refusingClientUpdates {}).1.2.lastId "c" = 0 ∧
    ((push 500 ⟨"c", "g", [⟨1, "nope", none⟩]⟩).exec refusingClientUpdates {}).1.2.version = 0 :=
  ⟨⟨_, _, rfl⟩, by decide, by decide +kernel, by decide +kernel, by decide +kernel⟩

end Sync

end ReadLater
