import Mathlib
import ReadLater.Proofs.Ingest.Runs

/-!
# A batch ingested again, or in two calls

A delivery that a source made once is marked, and a later batch skips it; rejections depend on
the batch alone. So an ingest repeated at once changes nothing, and an ingest split in two takes
the same deliveries as one, in the same order, against the same marks:

* `Ingest.ingest_again_changes_nothing`: after an ingest of a batch succeeds, the same ingest
  succeeds again on the store it left, leaves that store as it is, returns the same version and
  rejections, no entries, and skips every item that passes the checks;
* `Ingest.split_ingest_succeeds`: when one ingest of `B₁ ++ B₂` succeeds on a store that holds each
  key once, ingesting `B₁` and then `B₂` succeeds too, and leaves the same items, entries and
  marks apart from versions and timestamps;
* **`Ingest.ingest_twice_or_split`**: both together;
* `Ingest.split_ingest_survives_refused_update`: the converse fails: a trigger that refuses every
  change of an item fails the single ingest as a whole, while the split one keeps its first half.
-/

namespace ReadLater

open Clock Store

namespace Ingest

/-! ## One successful ingest -/

variable {n : Nat} {sid : String} {items : List Incoming} {d d' : Database} {amb amb' : Ambient}
  {rep : IngestReport}

/-- A successful ingest, step by step: its checks, its source, the take at the clock's instant
and the commit. -/
theorem atomically_ingest_ok
    (h : (Work.atomically (Ingest.ingest n sid items)).exec d amb = ((.ok rep, d'), amb')) :
    sid.isEmpty = false ∧ items.length ≤ n ∧ ∃ src t s amb₁ s', d.sourceById sid = .ok (some src) ∧
      (takeItems src amb.clock 0 items {}).exec ⟨d, {}⟩ { amb with clock := amb.clock.addNanos 1 } =
        (.ok (t, s), amb₁) ∧
      Txn.commitVersion.exec s amb₁ = (.ok (rep.version, s'), amb') ∧
      rep = ⟨rep.version, t.entryIds, t.skipped, t.rejections⟩ ∧ d' = s'.db := by
  rw [Work.exec_atomically] at h
  rcases hx : (Ingest.ingest n sid items).exec ⟨d, {}⟩ amb with ⟨_ | ⟨r, s₀⟩, amb₀⟩ <;>
    rw [hx] at h
  · cases h
  simp only [Prod.mk.injEq, Except.ok.injEq] at h
  obtain ⟨⟨rfl, rfl⟩, rfl⟩ := h
  obtain ⟨hsid, hn, src, hsrc⟩ := ingest_ok hx
  refine ⟨hsid, hn, ?_⟩
  rw [ingest_exec_found hsid hn hsrc] at hx
  rcases ht : (takeItems src amb.clock 0 items {}).exec ⟨d, {}⟩
    { amb with clock := amb.clock.addNanos 1 } with ⟨_ | ⟨t, s⟩, amb₁⟩ <;> rw [ht] at hx
  · cases hx
  dsimp only at hx
  rcases hc : Txn.commitVersion.exec s amb₁ with ⟨_ | ⟨v, s'⟩, amb₂⟩ <;> rw [hc] at hx
  · cases hx
  simp only [Prod.mk.injEq, Except.ok.injEq] at hx
  obtain ⟨⟨rfl, rfl⟩, rfl⟩ := hx
  exact ⟨src, t, s, amb₁, s', hsrc, ht, hc, rfl, rfl⟩

/-- An ingest made of a successful take and commit. -/
theorem atomically_ingest_of_runs {src : Source} {t : Tally} {s s' : TxnState} {amb₁ amb₂ : Ambient}
    {v : Int} (hsid : sid.isEmpty = false) (hn : items.length ≤ n)
    (hsrc : d.sourceById sid = .ok (some src))
    (ht : (takeItems src amb.clock 0 items {}).exec ⟨d, {}⟩
      { amb with clock := amb.clock.addNanos 1 } = (.ok (t, s), amb₁))
    (hc : Txn.commitVersion.exec s amb₁ = (.ok (v, s'), amb₂)) :
    (Work.atomically (Ingest.ingest n sid items)).exec d amb =
      ((.ok ⟨v, t.entryIds, t.skipped, t.rejections⟩, s'.db), amb₂) := by
  rw [Work.exec_atomically, ingest_exec_found hsid hn hsrc, ht]
  dsimp only
  rw [hc]

/-- A take from a fresh ticket reads the ticket only from a counter whose table is there. -/
theorem Batched.loaded {d : Database} {s : TxnState} (h : Batched ⟨d, {}⟩ s) :
    s.ticket.current = none ∨ s.db.has .counter = true ∧ s.ticket.current = s.db.counter := by
  rcases h.current with hc | ⟨hhas, hc⟩
  · exact Or.inl hc
  · exact Or.inr ⟨(Database.has_of_frame_eq h.frame .counter).trans hhas, hc.trans h.counter.symm⟩

/-- A commit leaves the store with the counter at the version it returns. -/
theorem commitVersion_store {s s' : TxnState} {amb₁ amb₂ : Ambient} {v : Int}
    (h : Txn.commitVersion.exec s amb₁ = (.ok (v, s'), amb₂))
    (hcur : s.ticket.current = none ∨ s.db.has .counter = true ∧ s.ticket.current = s.db.counter) :
    s'.db = { s.db with counter := some v } := by
  obtain ⟨hhas, c, hc, ht⟩ := Txn.commitVersion_ready h hcur
  obtain ⟨-, c', hc', -, hstore⟩ := Txn.commitVersion_ok h
  -- the ticket holds the counter's value, if anything
  have hcc : c' = c := by
    rcases hc' with hc' | ⟨-, hc'⟩
    · rcases ht with ht | ht
      · rw [ht] at hc'
        cases hc'
      · exact Option.some.inj (hc'.symm.trans ht)
    · exact Option.some.inj (hc'.symm.trans hc)
  subst hcc
  rcases hstore with ⟨-, hdb, rfl⟩ | ⟨-, -, hdb, rfl⟩
  · rw [hdb, ← hc]
  · exact hdb

/-! ## Ingesting again -/

attribute [local irreducible] Incoming.normalize in
/-- **An ingest repeated at once changes nothing.** After an ingest of a batch succeeds, the same
ingest succeeds on the store it left, from any ambient services, and leaves that store as it is;
it returns the same version and rejections (those of the batch alone), no entries, and skips
every item of the batch that passes the checks. -/
theorem ingest_again_changes_nothing
    (h : (Work.atomically (Ingest.ingest n sid items)).exec d amb = ((.ok rep, d'), amb')) :
    rep.rejections = rejectionsFrom 0 items ∧ ∀ amb₂, ∃ amb₃,
      (Work.atomically (Ingest.ingest n sid items)).exec d' amb₂ =
        ((.ok ⟨rep.version, [], items.countP (·.normalize.toBool), rep.rejections⟩, d'), amb₃) := by
  obtain ⟨hsid, hn, src, t, s, amb₁, s', hsrc, ht, hc, hrep, rfl⟩ := atomically_ingest_ok h
  have hB := Txn.of_triple (takeItems_batched ⟨d, {}⟩ src _ items 0 {}) (Batched.refl _) ht
  have hstore := commitVersion_store hc hB.loaded
  obtain ⟨hhas, -, -, -⟩ := Txn.commitVersion_ready hc hB.loaded
  obtain ⟨hrej, hmarks⟩ := takeItems_marks ht
  -- the store left differs from the take's only in its counter
  have hframe : s'.db.frame = d.frame := by rw [hstore]; exact hB.frame
  have hmarked : ∀ raw ∈ items, ∀ x kind, raw.normalize = .ok (x, kind) →
      s'.db.wasSeen src.id x.providerItemId = .ok true := by
    rw [hstore]
    exact hmarks
  have hready : (⟨s'.db, {}⟩ : TxnState).Ready :=
    ⟨by rw [hstore]; exact hhas, rep.version, by rw [hstore], Or.inl rfl⟩
  have hrr : rep.rejections = rejectionsFrom 0 items := by
    rw [hrep, hrej]
    rfl
  refine ⟨hrr, fun amb₂ => ?_⟩
  obtain ⟨v, s'', hc'⟩ := Txn.commitVersion_succeeds { amb₂ with clock := amb₂.clock.addNanos 1 }
    hready (fun hu => by cases hu)
  obtain ⟨-, c, hcur, -, hstore'⟩ := Txn.commitVersion_ok hc'
  -- the second commit finds an unused ticket and the counter at the first one's version
  obtain ⟨-, hdb, hv⟩ : (⟨s'.db, {}⟩ : TxnState).ticket.used = false ∧ s''.db = s'.db ∧ v = c := by
    rcases hstore' with h' | ⟨hu, -⟩
    · exact h'
    · cases hu
  have hcv : v = rep.version := by
    rw [hv]
    rcases hcur with hcur | ⟨-, hcur⟩
    · cases hcur
    · rw [hstore] at hcur
      exact (Option.some.inj hcur).symm
  subst hcv
  refine ⟨{ amb₂ with clock := amb₂.clock.addNanos 1 }, ?_⟩
  rw [atomically_ingest_of_runs hsid hn ((Database.sourceById_of_frame_eq hframe sid).trans hsrc)
    (takeItems_of_marked hmarked) hc', hdb, hrr]
  simp

/-! ## Ingesting in two calls -/

/-- **An ingest split in two calls succeeds whenever the single call does, and leaves the same
rows.** On a store that holds each key once, when an ingest of `B₁ ++ B₂` succeeds, ingesting
`B₁` and then `B₂` succeeds too, and leaves the same items, entries and marks apart from versions
and timestamps, under the same ids. The first call is the single one's take of `B₁` with its own
commit; the second goes in lockstep with the single one's take of `B₂`. -/
theorem split_ingest_succeeds {B₁ B₂ : List Incoming} (hd : d.Deduplicated)
    (h : (Work.atomically (Ingest.ingest n sid (B₁ ++ B₂))).exec d amb = ((.ok rep, d'), amb')) :
    ∃ rep₁ d₁ amb₁, (Work.atomically (Ingest.ingest n sid B₁)).exec d amb = ((.ok rep₁, d₁), amb₁) ∧
      ∃ rep₂ d₂ amb₂, (Work.atomically (Ingest.ingest n sid B₂)).exec d₁ amb₁ =
          ((.ok rep₂, d₂), amb₂) ∧
        d₂.items.map Item.unstamped = d'.items.map Item.unstamped ∧
        d₂.entries.map Entry.unstamped = d'.entries.map Entry.unstamped ∧
        d₂.seen.map SeenMark.unstamped = d'.seen.map SeenMark.unstamped := by
  obtain ⟨hsid, hn, src, t, s, ambT, s', hsrc, ht, hc, -, rfl⟩ := atomically_ingest_ok h
  rw [List.length_append] at hn
  -- the single take, split at the end of `B₁`
  rw [takeItems_append] at ht
  obtain ⟨t₁, s₁, amb₁, ht₁, ht₂⟩ := Txn.exec_bind_eq_ok.1 ht
  have hB₁ := Txn.of_triple (takeItems_batched ⟨d, {}⟩ src _ B₁ 0 {}) (Batched.refl _) ht₁
  have hB₂ := Txn.of_triple (takeItems_batched s₁ src _ B₂ _ t₁) (Batched.refl _) ht₂
  obtain ⟨hhas, c, hcnt, -⟩ := Txn.commitVersion_ready hc (hB₁.trans hB₂).loaded
  have hfire := Txn.commitVersion_fires hc
  -- the first call: the single one's take of `B₁`, and a commit that the single one's allows
  have hready₁ : s₁.Ready := by
    have hhas₁ := (Database.has_of_frame_eq hB₂.frame .counter).symm.trans hhas
    have hcnt₁ := hB₂.counter.symm.trans hcnt
    refine ⟨hhas₁, c, hcnt₁, ?_⟩
    rcases hB₁.loaded with hnone | ⟨-, hcur⟩
    · exact Or.inl hnone
    · exact Or.inr (hcur.trans hcnt₁)
  obtain ⟨v₁, s₁', hc₁⟩ := Txn.commitVersion_succeeds amb₁ hready₁ fun hu =>
    (Database.fire_of_frame_eq hB₂.frame _ _ _).symm.trans (hfire (hB₂.used hu))
  have hstore₁ := commitVersion_store hc₁ hB₁.loaded
  refine ⟨_, _, _, atomically_ingest_of_runs hsid (by omega) hsrc ht₁ hc₁, ?_⟩
  -- the second call starts from the store the first left, paired with the single take's state
  have hframe₁ : s₁'.db.frame = d.frame := by rw [hstore₁]; exact hB₁.frame
  have hpaired : Paired ⟨s₁'.db, {}⟩ s₁ := by
    refine ⟨by rw [hstore₁]; exact ⟨rfl, rfl, rfl, rfl⟩, ⟨?_, v₁, by rw [hstore₁], Or.inl rfl⟩,
      fun hu => by cases hu⟩
    rw [hstore₁]
    exact hready₁.1
  have hdedup : s₁'.db.Deduplicated := by
    have hres := Txn.of_triple (takeItems_resolves d src _ B₁ 0 {}) (Database.Resolves.refl hd) ht₁
    rw [hstore₁]
    exact hres.unique.of_rows rfl rfl rfl rfl
  have hissued : ({ amb₁ with clock := amb₁.clock.addNanos 1 } : Ambient).issued = amb₁.issued := rfl
  obtain ⟨t₂, sa, ambA, hta, -, hp, -⟩ :=
    takeItems_lockstep src amb₁.clock amb.clock B₂ 0 _ {} t₁ hpaired hdedup hissued ht₂
  -- its commit goes through: the single one moved the counter whenever this one does
  obtain ⟨v₂, sa', hca⟩ := Txn.commitVersion_succeeds ambA hp.ready fun hu =>
    (hp.db.fire _ _ _).trans (hfire (hp.used hu))
  refine ⟨_, _, _, atomically_ingest_of_runs hsid (by omega)
    ((Database.sourceById_of_frame_eq hframe₁ sid).trans hsrc) hta hca, ?_⟩
  -- both commits leave the rows of their takes
  rw [commitVersion_store hca hp.ready.loaded, commitVersion_store hc (hB₁.trans hB₂).loaded]
  exact ⟨hp.db.items, hp.db.entries, hp.db.seen⟩

/-- **An ingest that succeeds can be repeated at once, or split in two, to the same effect.**
When an ingest of `B₁ ++ B₂` succeeds, its rejections are those of the batch alone, and the same
ingest at once succeeds again from any ambient services, leaves the store as it is, and returns the
same version and rejections, no entries, and every item that passes the checks skipped. On a
store that holds each key once, as every store the service reaches does, ingesting `B₁` and then
`B₂` succeeds too and leaves the same items, entries and marks apart from versions and
timestamps. -/
theorem ingest_twice_or_split {B₁ B₂ : List Incoming}
    (h : (Work.atomically (Ingest.ingest n sid (B₁ ++ B₂))).exec d amb = ((.ok rep, d'), amb')) :
    (rep.rejections = rejectionsFrom 0 (B₁ ++ B₂) ∧ ∀ amb₂, ∃ amb₃,
      (Work.atomically (Ingest.ingest n sid (B₁ ++ B₂))).exec d' amb₂ =
        ((.ok ⟨rep.version, [], (B₁ ++ B₂).countP (·.normalize.toBool), rep.rejections⟩, d'),
          amb₃)) ∧
    (d.Deduplicated → ∃ rep₁ d₁ amb₁,
      (Work.atomically (Ingest.ingest n sid B₁)).exec d amb = ((.ok rep₁, d₁), amb₁) ∧
      ∃ rep₂ d₂ amb₂, (Work.atomically (Ingest.ingest n sid B₂)).exec d₁ amb₁ =
          ((.ok rep₂, d₂), amb₂) ∧
        d₂.items.map Item.unstamped = d'.items.map Item.unstamped ∧
        d₂.entries.map Entry.unstamped = d'.entries.map Entry.unstamped ∧
        d₂.seen.map SeenMark.unstamped = d'.seen.map SeenMark.unstamped) :=
  ⟨ingest_again_changes_nothing h, fun hd => split_ingest_succeeds hd h⟩

/-- A store with one YouTube source and one item of YouTube's, with every table a batch uses. -/
def oneVideoStore : Database :=
  { tables := [.items, .sources, .seen, .entries, .counter],
    versioned := [.items, .sources, .entries],
    counter := some 0,
    sources := [⟨"s", .youtube, "UC", "", "", 0, ⟨0⟩⟩],
    items := [{ id := "b", kind := .video, provider := some "YOUTUBE", providerId := some "b",
                version := 0, createdAt := ⟨0⟩, updatedAt := ⟨0⟩ }] }

/-- A new delivery and the known one, ingested into that store, then again, or in two calls. -/
theorem new_and_known_delivery_twice_or_split :
    oneVideoStore.Deduplicated ∧ ∃ rep d' amb',
      (Work.atomically (Ingest.ingest 500 "s" ([{ providerItemId := "a" }] ++
        [{ providerItemId := "b" }]))).exec oneVideoStore {} = ((.ok rep, d'), amb') ∧
      (rep.rejections = rejectionsFrom 0 ([{ providerItemId := "a" }] ++ [{ providerItemId := "b" }]) ∧
        ∀ amb₂, ∃ amb₃, (Work.atomically (Ingest.ingest 500 "s" ([{ providerItemId := "a" }] ++
          [{ providerItemId := "b" }]))).exec d' amb₂ =
          ((.ok ⟨rep.version, [], ([{ providerItemId := "a" }] ++
            [{ providerItemId := "b" }] : List Incoming).countP (·.normalize.toBool),
            rep.rejections⟩, d'), amb₃)) ∧
      (oneVideoStore.Deduplicated → ∃ rep₁ d₁ amb₁,
        (Work.atomically (Ingest.ingest 500 "s" [{ providerItemId := "a" }])).exec oneVideoStore {} =
          ((.ok rep₁, d₁), amb₁) ∧
        ∃ rep₂ d₂ amb₂, (Work.atomically (Ingest.ingest 500 "s" [{ providerItemId := "b" }])).exec
            d₁ amb₁ = ((.ok rep₂, d₂), amb₂) ∧
          d₂.items.map Item.unstamped = d'.items.map Item.unstamped ∧
          d₂.entries.map Entry.unstamped = d'.entries.map Entry.unstamped ∧
          d₂.seen.map SeenMark.unstamped = d'.seen.map SeenMark.unstamped) := by
  have hd : oneVideoStore.Deduplicated :=
    ⟨by decide, by decide, by decide, by decide, by decide, by decide⟩
  have hok : ((Work.atomically (Ingest.ingest 500 "s" ([{ providerItemId := "a" }] ++
      [{ providerItemId := "b" }]))).exec oneVideoStore {}).1.1.toBool = true := by
    decide +kernel
  obtain ⟨rep, d', amb', h⟩ : ∃ rep d' amb', (Work.atomically (Ingest.ingest 500 "s"
      ([{ providerItemId := "a" }] ++ [{ providerItemId := "b" }]))).exec oneVideoStore {} =
      ((.ok rep, d'), amb') := by
    rcases hx : (Work.atomically (Ingest.ingest 500 "s" ([{ providerItemId := "a" }] ++
      [{ providerItemId := "b" }]))).exec oneVideoStore {} with ⟨⟨_ | rep, d'⟩, amb'⟩
    · rw [hx] at hok
      cases hok
    · exact ⟨rep, d', amb', hx⟩
  exact ⟨hd, rep, d', amb', h, ingest_twice_or_split h⟩

/-- The same store, with a trigger that refuses every change of an item. -/
def refusingItemUpdates : Database :=
  { oneVideoStore with triggers := [⟨"fail_canonical_items_update", .update, .items, "refused"⟩] }

/-- **When storage fails, two calls do not leave what one leaves.** In a store that refuses every
change of an item, an ingest of a new delivery and a known one fails as a whole and keeps the one
item; ingesting the new delivery and then the known one fails only in the second call, after the
first has added the new item. -/
theorem split_ingest_survives_refused_update :
    ((Work.atomically (Ingest.ingest 500 "s" ([{ providerItemId := "a" }] ++
      [{ providerItemId := "b" }]))).exec refusingItemUpdates {}).1.1.toBool = false ∧
    ((Work.atomically (Ingest.ingest 500 "s" ([{ providerItemId := "a" }] ++
      [{ providerItemId := "b" }]))).exec refusingItemUpdates {}).1.2.items.length = 1 ∧
    ((Work.atomically (Ingest.ingest 500 "s" [{ providerItemId := "a" }])).exec
      refusingItemUpdates {}).1.1.toBool = true ∧
    ((Work.atomically (Ingest.ingest 500 "s" [{ providerItemId := "b" }])).exec
      ((Work.atomically (Ingest.ingest 500 "s" [{ providerItemId := "a" }])).exec
        refusingItemUpdates {}).1.2
      ((Work.atomically (Ingest.ingest 500 "s" [{ providerItemId := "a" }])).exec
        refusingItemUpdates {}).2).1.1.toBool = false ∧
    ((Work.atomically (Ingest.ingest 500 "s" [{ providerItemId := "b" }])).exec
      ((Work.atomically (Ingest.ingest 500 "s" [{ providerItemId := "a" }])).exec
        refusingItemUpdates {}).1.2
      ((Work.atomically (Ingest.ingest 500 "s" [{ providerItemId := "a" }])).exec
        refusingItemUpdates {}).2).1.2.items.length = 2 := by
  decide +kernel

end Ingest

end ReadLater
