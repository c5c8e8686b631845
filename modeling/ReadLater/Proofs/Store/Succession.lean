import Mathlib
import ReadLater.Proofs.Soundness

/-!
# What a later store keeps of an earlier one

`Database.ChangedSince d d'` says what a client that was up to date with `d` relies on to catch
up with `d'`: every row that `d'` has and `d` had not carries a version after `d`'s, every row
of `d` is still there under its key (a source, or else its tombstone), and every client keeps
its id and group, its progress changing only with a version after `d`'s.

* `ChangedSince.refl`, `ChangedSince.trans`;
* one lemma per kind of step: a settled transaction (`Settled.changedSince`), a duplicate's
  stamp (`changedSince_touched`), the commit of a mutation (`Commits.changedSince`);
* **`Operation.exec_changedSince`**: every operation on a store whose keys are sound;
* `Store.FreshStep.changedSince_of_chain`: every run of operations that draw fresh ids.
-/

namespace ReadLater

open Clock Store Sync

namespace Store

/-- A row of an earlier store is still accounted for in `d`: by its id, or, for a source, by a
tombstone; a tombstone by one with the same key. -/
def SyncedRow.KeptBy (r : SyncedRow) (d : Database) : Prop :=
  match r with
  | .entry e => ∃ e' ∈ d.entries, e'.id = e.id
  | .item i => ∃ i' ∈ d.items, i'.id = i.id
  | .profile p => ∃ p' ∈ d.profiles, p'.id = p.id
  | .source src => (∃ src' ∈ d.sources, src'.id = src.id) ∨
      ∃ t ∈ d.tombstones, t.entity = "source" ∧ t.entityId = src.id
  | .tombstone t => ∃ t' ∈ d.tombstones, t'.entity = t.entity ∧ t'.entityId = t.entityId

namespace SyncedRow

theorem KeptIn.keptBy {r : SyncedRow} {s : TxnState} (h : r.KeptIn s) : r.KeptBy s.db := by
  cases r with
  | entry | item | profile => exact h
  | source src =>
    rcases h with h | ⟨t, ht, he, hid, -⟩
    · exact Or.inl h
    · exact Or.inr ⟨t, ht, he, hid⟩
  | tombstone t =>
    obtain ⟨t', ht', he, hid, -⟩ := h
    exact ⟨t', ht', he, hid⟩

theorem keptBy_of_mem {r : SyncedRow} {d : Database} (h : r ∈ d.syncedRows) : r.KeptBy d :=
  (keptIn_of_mem (s := ⟨d, {}⟩) h).keptBy

/-- What a later store keeps of every row of an earlier one, it keeps of what the earlier one
kept. -/
theorem KeptBy.trans {r : SyncedRow} {d₁ d₂ : Database} (h : r.KeptBy d₁)
    (h₂ : ∀ r' ∈ d₁.syncedRows, r'.KeptBy d₂) : r.KeptBy d₂ := by
  cases r with
  | entry e =>
    obtain ⟨e', he', hid⟩ := h
    obtain ⟨e'', he'', hid'⟩ := h₂ (.entry e') (by simp [he'])
    exact ⟨e'', he'', hid'.trans hid⟩
  | item i =>
    obtain ⟨i', hi', hid⟩ := h
    obtain ⟨i'', hi'', hid'⟩ := h₂ (.item i') (by simp [hi'])
    exact ⟨i'', hi'', hid'.trans hid⟩
  | profile p =>
    obtain ⟨p', hp', hid⟩ := h
    obtain ⟨p'', hp'', hid'⟩ := h₂ (.profile p') (by simp [hp'])
    exact ⟨p'', hp'', hid'.trans hid⟩
  | source src =>
    rcases h with ⟨s', hs', hid⟩ | ⟨t, ht, he, hid⟩
    · -- the source itself: still there, or gone with a tombstone
      rcases h₂ (.source s') (by simp [hs']) with ⟨s'', hs'', hid'⟩ | ⟨t, ht, he, hid'⟩
      · exact Or.inl ⟨s'', hs'', hid'.trans hid⟩
      · exact Or.inr ⟨t, ht, he, hid'.trans hid⟩
    · -- its tombstone, kept under its key
      obtain ⟨t', ht', he', hid'⟩ := h₂ (.tombstone t) (by simp [ht])
      exact Or.inr ⟨t', ht', he'.trans he, hid'.trans hid⟩
  | tombstone t =>
    obtain ⟨t', ht', he, hid⟩ := h
    obtain ⟨t'', ht'', he', hid'⟩ := h₂ (.tombstone t') (by simp [ht'])
    exact ⟨t'', ht'', he'.trans he, hid'.trans hid⟩

end SyncedRow

/-- The store `d'` is `d` changed since `d`'s version: the version never goes down; a row that
`d'` has and `d` had not carries a version after `d`'s; every row of `d` is kept under its key;
every client of `d` keeps its id and group; and a client row of `d'` carries a version after
`d`'s, or has the id, group, progress and version of a client row of `d`. -/
structure Database.ChangedSince (d d' : Database) : Prop where
  version : d.version ≤ d'.version
  fresh : ∀ r ∈ d'.syncedRows, r ∉ d.syncedRows → d.version < r.version
  kept : ∀ r ∈ d.syncedRows, r.KeptBy d'
  clientsKept : ∀ cl ∈ d.clients, ∃ cl' ∈ d'.clients, cl'.id = cl.id ∧ cl'.groupId = cl.groupId
  clientsFresh : ∀ cl' ∈ d'.clients, d.version < cl'.version ∨
    ∃ cl ∈ d.clients, cl.id = cl'.id ∧ cl.groupId = cl'.groupId ∧
      cl.lastMutationId = cl'.lastMutationId ∧ cl.version = cl'.version

/-- A row that a step of the version adds carries a version after the one before. -/
theorem VersionStep.fresh_lt {d d' : Database} (hv : VersionStep d d') :
    ∀ r ∈ d'.syncedRows, r ∉ d.syncedRows → d.version < r.version := by
  intro r hr hr₀
  cases hv with
  | keep _ hrows => exact absurd (hrows ▸ hr) hr₀
  | bump hver _ hrows =>
    rw [hrows r hr hr₀, hver]
    omega

namespace Database.ChangedSince

variable {d d' d₁ d₂ : Database}

theorem refl (d : Database) : d.ChangedSince d where
  version := le_rfl
  fresh _ hr hr₀ := absurd hr hr₀
  kept _ hr := SyncedRow.keptBy_of_mem hr
  clientsKept cl hcl := ⟨cl, hcl, rfl, rfl⟩
  clientsFresh cl hcl := Or.inr ⟨cl, hcl, rfl, rfl, rfl, rfl⟩

theorem trans (h₁ : d.ChangedSince d₁) (h₂ : d₁.ChangedSince d₂) : d.ChangedSince d₂ where
  version := h₁.version.trans h₂.version
  fresh r hr hr₀ := by
    by_cases hr₁ : r ∈ d₁.syncedRows
    · exact h₁.fresh r hr₁ hr₀
    · exact lt_of_le_of_lt h₁.version (h₂.fresh r hr hr₁)
  kept r hr := (h₁.kept r hr).trans h₂.kept
  clientsKept cl hcl := by
    obtain ⟨cl₁, hcl₁, hid₁, hg₁⟩ := h₁.clientsKept cl hcl
    obtain ⟨cl₂, hcl₂, hid₂, hg₂⟩ := h₂.clientsKept cl₁ hcl₁
    exact ⟨cl₂, hcl₂, hid₂.trans hid₁, hg₂.trans hg₁⟩
  clientsFresh cl₂ hcl₂ := by
    rcases h₂.clientsFresh cl₂ hcl₂ with hv | ⟨cl₁, hcl₁, hid, hg, hlast, hv⟩
    · exact Or.inl (lt_of_le_of_lt h₁.version hv)
    · -- the row of `d₁` it has everything of is new since `d`, or one of `d`'s
      rcases h₁.clientsFresh cl₁ hcl₁ with hv₁ | ⟨cl, hcl, hid', hg', hlast', hv'⟩
      · exact Or.inl (hv ▸ hv₁)
      · exact Or.inr ⟨cl, hcl, hid'.trans hid, hg'.trans hg, hlast'.trans hlast, hv'.trans hv⟩

/-- A step that keeps the clients: what a version step and the rows it kept say. -/
theorem of_clients (hv : VersionStep d d') (hkept : ∀ r ∈ d.syncedRows, r.KeptBy d')
    (hcl : d'.clients = d.clients) : d.ChangedSince d' where
  version := hv.version_le
  fresh := hv.fresh_lt
  kept := hkept
  clientsKept cl h := ⟨cl, hcl ▸ h, rfl, rfl⟩
  clientsFresh cl h := Or.inr ⟨cl, hcl ▸ h, rfl, rfl, rfl, rfl⟩

end Database.ChangedSince

variable {d d' : Database}

/-- **A settled transaction changes the store since its version**: its rows are confined. -/
theorem Settled.changedSince {s₁ : TxnState} {v : Int} (hb : d.VersionsBounded)
    (hconf : Confined ⟨d, {}⟩ s₁) (hjust : s₁.Justified) (hset : Settled d s₁ v d') :
    d.ChangedSince d' := by
  refine .of_clients (hset.versionStep hb hconf hjust) (fun r hr => ?_) (hset.clients hconf)
  -- the body kept the row, and the commit moves the counter alone
  have hk := (hconf.kept r hr).keptBy
  obtain ⟨V, -, ⟨-, -, rfl⟩ | ⟨-, -, rfl⟩⟩ := hset <;> exact hk

/-- A duplicate's stamp on its client changes nothing a client replicates. -/
theorem changedSince_touched (d : Database) (c : String) (t : Instant) :
    d.ChangedSince (d.touched c t) where
  version := le_rfl
  fresh _ hr hr₀ := absurd hr hr₀
  kept _ hr := SyncedRow.keptBy_of_mem hr
  clientsKept cl hcl := by
    refine ⟨if cl.id == c then { cl with lastModified := t } else cl,
      List.mem_map_of_mem hcl, ?_, ?_⟩ <;> split <;> rfl
  clientsFresh cl' hcl' := by
    obtain ⟨cl, hcl, rfl⟩ := List.mem_map.1 hcl'
    refine Or.inr ⟨cl, hcl, ?_⟩
    split <;> exact ⟨rfl, rfl, rfl, rfl⟩

end Store

/-! ## A push, mutation by mutation -/

namespace Sync

variable {req : PushRequest}

namespace ClientLoaded

variable {d dE : Database} {cl : Client}

/-- Loading the push's client keeps every client there was. -/
theorem subset (h : ClientLoaded req d cl dE) : d.clients ⊆ dE.clients := by
  cases h with
  | found => exact fun _ h => h
  | created => exact fun _ h => List.mem_append_left _ h

/-- In a store whose client ids are apart, the client loaded is the one row with its id. -/
theorem eq_of_id (h : ClientLoaded req d cl dE) (hnd : (d.clients.map (·.id)).Nodup)
    {x : Client} (hx : x ∈ d.clients) (hid : x.id = cl.id) : x = cl := by
  cases h with
  | found hfind => exact List.inj_on_of_nodup_map hnd hx (List.mem_of_find?_eq_some hfind) hid
  | created t hnone =>
    have hne := List.find?_eq_none.1 hnone x hx
    simp only [hid, beq_self_eq_true, not_true_eq_false] at hne

end ClientLoaded

/-- Recording the progress of the client a push loaded, over a store whose clients are the
loaded ones: every client keeps its id and group, and every client row is one of the store's
or the client's new row, at the version after the counter's. -/
theorem clients_advanced {d dE e : Database} {cl : Client} {id : Int} {t : Instant} {V : Int}
    (hload : ClientLoaded req d cl dE) (hnd : (d.clients.map (·.id)).Nodup)
    (hV : d.counter = some V) (he : e.clients = dE.clients) :
    (∀ x ∈ d.clients, ∃ x' ∈ (e.advanced cl id t V).clients, x'.id = x.id ∧
        x'.groupId = x.groupId) ∧
      ∀ x' ∈ (e.advanced cl id t V).clients, d.version < x'.version ∨
        ∃ x ∈ d.clients, x.id = x'.id ∧ x.groupId = x'.groupId ∧
          x.lastMutationId = x'.lastMutationId ∧ x.version = x'.version := by
  refine ⟨fun x hx => ?_, fun x' hx' => ?_⟩
  · have hxe : x ∈ e.clients := he ▸ hload.subset hx
    obtain ⟨y, hy, hid, rfl | rfl⟩ := @exists_replaceById_of_mem _ Client.id
      { cl with lastMutationId := id, lastModified := t, version := V + 1 } x _ hxe
    · exact ⟨y, hy, hid, rfl⟩
    · -- the client's new row replaces the loaded client, the only row with its id
      obtain rfl := hload.eq_of_id hnd hx hid.symm
      exact ⟨_, hy, hid, rfl⟩
  · rcases mem_replaceById hx' with rfl | ⟨hx', hid⟩
    · left
      simp [Database.version, hV]
    · exact Or.inr ⟨x', hload.mem_of_ne (he ▸ hx') (hload.id_eq ▸ hid), rfl, rfl, rfl, rfl⟩

/-- **The commit of a client's next mutation changes the store since its version.** -/
theorem Commits.changedSince {m : Mutation} {d d' : Database} {p : Option Problem} (hs : d.Sound)
    (hnext : m.id = d.lastId req.clientId + 1) (hc : Commits req m d p d') : d.ChangedSince d' := by
  have hstep := hc.versionStep hnext
  cases hc with
  | applied t hload hV hrun =>
    -- the effect ran confined from the store with the client loaded
    have hconf := Txn.of_triple (Mutation.run_confined ⟨_, {}⟩ m) (Confined.refl _) hrun
    obtain ⟨hkept, hfresh⟩ := clients_advanced hload hs.clients hV hconf.clients
    exact ⟨hstep.version_le, hstep.fresh_lt,
      fun r hr => (hconf.kept r (hload.syncedRows_eq ▸ hr)).keptBy, hkept, hfresh⟩
  | rejected t _ hload hV =>
    obtain ⟨hkept, hfresh⟩ := clients_advanced hload hs.clients hV rfl
    exact ⟨hstep.version_le, hstep.fresh_lt,
      fun r hr => SyncedRow.keptBy_of_mem (hload.syncedRows_eq ▸ hr), hkept, hfresh⟩

/-- A pass over a push's mutations changes the store since its version. -/
theorem Replays.changedSince {d d' : Database} {ms cs : List Mutation}
    (hr : Replays req d ms d' cs) (hs : d.Sound) (hb : d.VersionsBounded)
    (hg : req.groupId ≠ "") : d.ChangedSince d' := by
  induction hr with
  | nil d => exact .refl d
  | halt d => exact .refl d
  | duplicate t _ _ _ _ ih =>
    exact (changedSince_touched _ _ t).trans
      (ih (hs.touched _ t) ((versionStep_touched _ _ t).bounded hb))
  | commit hnext hc _ ih =>
    exact (hc.changedSince hs hnext).trans
      (ih (hc.sound hs hg) ((hc.versionStep hnext).bounded hb))

theorem push_changedSince (n : Nat) (req : PushRequest) {d : Database} (amb : Ambient)
    (hs : d.Sound) (hb : d.VersionsBounded) : d.ChangedSince ((push n req).leaves d amb).1 := by
  by_cases hg : req.groupId = ""
  · rw [push_leaves_groupless hg]
    exact .refl d
  · rcases hx : (push n req).exec d amb with ⟨⟨r, d'⟩, amb'⟩
    obtain ⟨cs, hr⟩ := push_replays hx
    simp only [Work.leaves, hx]
    exact hr.changedSince hs hb hg

end Sync

/-! ## Every operation -/

/-- **Every operation changes a sound store since its version**, committed or not. -/
theorem Operation.exec_changedSince {d : Database} (hs : d.Sound) (hb : d.VersionsBounded)
    (op : Operation) (amb : Ambient) : d.ChangedSince (op.exec d amb).1 := by
  by_cases hop : op.IsPush
  · cases op with
    | push n req => exact Sync.push_changedSince n req amb hs hb
    | _ => exact absurd hop id
  · rcases @Operation.exec_settles d amb _ hop with h | ⟨s₁, v, hconf, hjust, hset⟩
    · rw [h]
      exact .refl d
    · exact hset.changedSince hb hconf hjust

/-- Every run of operations that draw fresh ids changes a sound store since its version. -/
theorem Store.FreshStep.changedSince_of_chain {d d' : Database}
    (h : Relation.ReflTransGen FreshStep d d') (hs : d.Sound) (hb : d.VersionsBounded) :
    d.ChangedSince d' := by
  induction h using Relation.ReflTransGen.head_induction_on with
  | refl => exact .refl _
  | head hstep _ ih =>
    -- the first operation, then the rest from the sound store it leaves
    have hnext := ih (hstep.sound hs) (hstep.bounded hb)
    obtain ⟨op, amb, -, rfl⟩ := hstep
    exact (op.exec_changedSince hs hb amb).trans hnext

end ReadLater
