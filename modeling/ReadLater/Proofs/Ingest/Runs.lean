import Mathlib
import ReadLater.Proofs.Ingest.Lockstep

/-!
# One take of a batch

What a single successful take of a batch does to its transaction's state, apart from the rows it
writes, and what the ingest around it adds:

* `Ingest.Batched s₀ s`: the store keeps everything but the rows of a batch, its counter and
  every delivery mark, and the ticket is read only from a counter whose table is there; one
  triple per step of a delivery and `takeItems_batched` for a whole batch;
* the version at the end: `commitVersion_ready` (a commit that succeeds finds a ready state),
  `commitVersion_fires`, `commitVersion_succeeds`;
* `takeItems_append`: a batch made of two is taken as the first, then the second from where the
  first left off; `takeItems_marks`: after a take every delivery of the batch that passes the
  checks is marked; `takeItems_of_marked`: a take of a batch whose deliveries are all marked
  skips them, rejects the rest and changes nothing; `takeItems_rejections`: a take's rejections
  are those of the batch alone (`rejectionsFrom`);
* `ingest_exec_found`, `ingest_ok`: an ingest is its checks, the source's lookup, the take at the
  clock's instant and the commit.
-/

namespace ReadLater

open Clock Store Std.Do

set_option mvcgen.warning false

/-! ## Runs of transactions -/

theorem Store.Txn.exec_bind_eq_ok {α β : Type} {x : Txn α} {f : α → Txn β} {s s'' : TxnState}
    {amb amb'' : Ambient} {b : β} :
    (x >>= f).exec s amb = (.ok (b, s''), amb'') ↔
      ∃ a s' amb', x.exec s amb = (.ok (a, s'), amb') ∧ (f a).exec s' amb' = (.ok (b, s''), amb'') := by
  rw [Txn.exec_bind]
  constructor
  · intro h
    rcases hx : x.exec s amb with ⟨_ | ⟨a, s'⟩, amb'⟩ <;> rw [hx] at h
    · cases h
    · exact ⟨a, s', amb', rfl, h⟩
  · rintro ⟨a, s', amb', hx, hf⟩
    rw [hx]
    exact hf

/-- Reading the counter needs its table. -/
theorem Store.Database.has_of_counterValue {d : Database} {r : Option Int}
    (h : d.counterValue = .ok r) : d.has .counter = true := by
  simp only [Database.counterValue, Database.need, Sql.bind_eq_ok] at h
  obtain ⟨_, hneed, -⟩ := h
  split at hneed
  · assumption
  · cases hneed

/-- Moving the counter of a ready store one step. -/
theorem Store.Database.advanceCounter_of_fire {d : Database} {c : Int}
    (hhas : d.has .counter = true) (hc : d.counter = some c)
    (hfire : d.fire .update .counter true = .ok ()) :
    d.advanceCounter c (c + 1) = .ok ({ d with counter := some (c + 1) }, true) := by
  simp only [Database.advanceCounter, Database.need, hhas, hc, beq_self_eq_true, hfire]
  rfl

/-- The counter moved only if no trigger refused it. -/
theorem Store.Database.fire_of_advanceCounter {d d' : Database} {e n : Int}
    (h : d.advanceCounter e n = .ok (d', true)) : d.fire .update .counter true = .ok () := by
  have hhit := congrArg Prod.snd (Database.advanceCounter_ok h)
  simp only at hhit
  simp only [Database.advanceCounter, Sql.bind_eq_ok] at h
  obtain ⟨_, -, _, hfire, -⟩ := h
  rwa [← hhit] at hfire

/-! ## The version at the end -/

/-- From a ready state, the commit succeeds unless a trigger refuses to move the counter. -/
theorem Store.Txn.commitVersion_succeeds (amb : Ambient) {s : TxnState} (hr : s.Ready)
    (hfire : s.ticket.used = true → s.db.fire .update .counter true = .ok ()) :
    ∃ v s', Txn.commitVersion.exec s amb = (.ok (v, s'), amb) := by
  obtain ⟨hhas, c, hc, ht⟩ := hr
  simp only [Txn.commitVersion, Txn.exec_bind, Txn.loadTicket_of_ready hhas hc ht, Txn.exec_get]
  cases hu : s.ticket.used
  · simp only [Bool.not_false, ↓reduceIte, Txn.exec_pure]
    exact ⟨_, _, rfl⟩
  · simp only [Bool.not_true, Bool.false_eq_true, ↓reduceIte, Txn.exec_bind, Txn.exec_advanceVersion,
      if_neg (show ¬ c + 1 ≤ c by omega), Database.advanceCounter_of_fire hhas hc (hfire hu)]
    exact ⟨_, _, rfl⟩

/-- Loading an empty ticket reads the counter, which needs its table. -/
theorem Store.Txn.loadTicket_has {s s' : TxnState} {amb amb' : Ambient} {v : Int}
    (h : Txn.loadTicket.exec s amb = (.ok (v, s'), amb')) (hnone : s.ticket.current = none) :
    s.db.has .counter = true := by
  simp only [Txn.loadTicket, Txn.currentVersion, Txn.exec_bind, Txn.exec_get, hnone,
    Txn.exec_read] at h
  rcases hcv : s.db.counterValue with _ | r
  · simp [hcv] at h
  · exact Database.has_of_counterValue hcv

/-- A commit that succeeds from a state whose ticket holds nothing or the counter's value finds
the state ready. -/
theorem Store.Txn.commitVersion_ready {s s' : TxnState} {amb amb' : Ambient} {v : Int}
    (h : Txn.commitVersion.exec s amb = (.ok (v, s'), amb'))
    (hcur : s.ticket.current = none ∨ s.db.has .counter = true ∧ s.ticket.current = s.db.counter) :
    s.Ready := by
  obtain ⟨-, c, hc, -⟩ := Txn.commitVersion_ok h
  rcases hcur with hnone | ⟨hhas, hcur⟩
  · -- the commit read the counter itself
    obtain ⟨_, _, _, hload, -⟩ := Txn.exec_bind_eq_ok.1 h
    have hcnt : s.db.counter = some c := by
      rcases hc with hc | hc
      · rw [hnone] at hc
        cases hc
      · exact hc.2
    exact ⟨Txn.loadTicket_has hload hnone, c, hcnt, Or.inl hnone⟩
  · have hcnt : s.db.counter = some c := by
      rcases hc with hc | hc
      · exact hcur ▸ hc
      · exact hc.2
    exact ⟨hhas, c, hcnt, Or.inr (hcur.trans hcnt)⟩

/-- A ready state's ticket holds nothing or the counter's value. -/
theorem Store.TxnState.Ready.loaded {s : TxnState} (h : s.Ready) :
    s.ticket.current = none ∨ s.db.has .counter = true ∧ s.ticket.current = s.db.counter := by
  obtain ⟨hhas, c, hc, ht⟩ := h
  rcases ht with ht | ht
  · exact Or.inl ht
  · exact Or.inr ⟨hhas, ht.trans hc.symm⟩

/-- A commit that moved the counter was let by every trigger. -/
theorem Store.Txn.commitVersion_fires {s s' : TxnState} {amb amb' : Ambient} {v : Int}
    (h : Txn.commitVersion.exec s amb = (.ok (v, s'), amb')) (hu : s.ticket.used = true) :
    s.db.fire .update .counter true = .ok () := by
  obtain ⟨c, s₁, amb₁, hload, h⟩ := Txn.exec_bind_eq_ok.1 h
  obtain ⟨-, hdb, htk, -⟩ := Txn.loadTicket_ok hload
  have hu₁ : s₁.ticket.used = true := by rw [htk]; exact hu
  simp only [Txn.exec_bind, Txn.exec_get, hu₁, Bool.not_true, Bool.false_eq_true, ↓reduceIte,
    Txn.exec_advanceVersion, if_neg (show ¬ c + 1 ≤ c by omega)] at h
  rcases ha : s₁.db.advanceCounter c (c + 1) with _ | ⟨db, hit⟩ <;> simp only [ha] at h
  · cases h
  -- a counter that did not hold the ticket's value fails the commit
  cases hit
  · simp only [Bool.false_eq_true, ↓reduceIte] at h
    cases h
  · rw [← hdb]
    exact Database.fire_of_advanceCounter ha

/-- A delivery is marked when the marks' table is there and holds a mark for it. -/
theorem Store.Database.wasSeen_eq_true {d : Database} {k p : String} :
    d.wasSeen k p = .ok true ↔
      d.has .seen = true ∧ d.seen.any (fun m => m.sourceId == k && m.providerItemId == p) = true := by
  unfold Database.wasSeen Database.need
  cases d.has .seen <;> simp [bind, Except.bind, pure, Except.pure]

/-- A mark written: the table is there, and the mark is added unless the delivery had one. -/
theorem Store.Database.markSeen_eq {d d' : Database} {m : SeenMark} (h : d.markSeen m = .ok d') :
    d.has .seen = true ∧ d' = if d.seen.any (fun r => r.sourceId == m.sourceId &&
      r.providerItemId == m.providerItemId) then d else { d with seen := d.seen ++ [m] } := by
  unfold Database.markSeen Database.need at h
  revert h
  cases d.has .seen <;> rcases d.fire .insert .seen true with _ | ⟨⟩ <;>
    cases d.seen.any (fun r => r.sourceId == m.sourceId && r.providerItemId == m.providerItemId) <;>
    cases d.has .sources <;> cases d.sources.any (·.id == m.sourceId) <;> intro h <;> cases h <;>
    exact ⟨rfl, rfl⟩

/-! ## What a take leaves -/

namespace Ingest

/-- What a take of a batch leaves of the state `s₀` it started from: the store apart from the
rows of a batch, the counter and every delivery mark; a ticket read only from a counter whose
table is there; and a used ticket. -/
structure Batched (s₀ s : TxnState) : Prop where
  frame : s.db.frame = s₀.db.frame
  counter : s.db.counter = s₀.db.counter
  seen : s₀.db.seen ⊆ s.db.seen
  current : s.ticket.current = s₀.ticket.current ∨
    s₀.db.has .counter = true ∧ s.ticket.current = s₀.db.counter
  used : s₀.ticket.used = true → s.ticket.used = true

namespace Batched

variable {s₀ s₁ s₂ s : TxnState}

theorem refl (s : TxnState) : Batched s s :=
  ⟨rfl, rfl, List.Subset.refl _, Or.inl rfl, id⟩

theorem trans (h₁ : Batched s₀ s₁) (h₂ : Batched s₁ s₂) : Batched s₀ s₂ where
  frame := h₂.frame.trans h₁.frame
  counter := h₂.counter.trans h₁.counter
  seen := List.Subset.trans h₁.seen h₂.seen
  current := by
    have hhas := Database.has_of_frame_eq h₁.frame .counter
    rcases h₂.current with h | ⟨hc, h⟩
    · rcases h₁.current with h' | h'
      · exact Or.inl (h.trans h')
      · exact Or.inr ⟨h'.1, h.trans h'.2⟩
    · exact Or.inr ⟨hhas ▸ hc, h.trans h₁.counter⟩
  used hu := h₂.used (h₁.used hu)

/-- A write of the rows of a batch that keeps every mark. -/
theorem rows {db : Database} (h : Batched s₀ s) (hframe : db.frame = s.db.frame)
    (hcounter : db.counter = s.db.counter) (hseen : s.db.seen ⊆ db.seen) :
    Batched s₀ { s with db := db } :=
  ⟨hframe.trans h.frame, hcounter.trans h.counter, List.Subset.trans h.seen hseen, h.current, h.used⟩

theorem insertItem {db : Database} {i : Item} (h : Batched s₀ s) (hw : s.db.insertItem i = .ok db) :
    Batched s₀ { s with db := db } := by
  obtain rfl := Database.insertItem_ok hw
  exact h.rows rfl rfl (List.Subset.refl _)

theorem updateItem {db : Database} {i : Item} (h : Batched s₀ s) (hw : s.db.updateItem i = .ok db) :
    Batched s₀ { s with db := db } := by
  obtain rfl := Database.updateItem_ok hw
  exact h.rows rfl rfl (List.Subset.refl _)

theorem insertEntry {db : Database} {e : Entry} (h : Batched s₀ s)
    (hw : s.db.insertEntry e = .ok db) : Batched s₀ { s with db := db } := by
  obtain rfl := Database.insertEntry_ok hw
  exact h.rows rfl rfl (List.Subset.refl _)

theorem markSeen {db : Database} {m : SeenMark} (h : Batched s₀ s) (hw : s.db.markSeen m = .ok db) :
    Batched s₀ { s with db := db } := by
  rcases Database.markSeen_ok hw with rfl | rfl
  · exact h
  · exact h.rows rfl rfl (List.subset_append_left _ _)

end Batched

variable (s₀ : TxnState)

theorem nextVersion_batched :
    ⦃fun s _ => ⌜Batched s₀ s⌝⦄ Txn.nextVersion ⦃⇓? _ s _ => ⌜Batched s₀ s⌝⦄ := by
  mvcgen [Txn.nextVersion, Txn.loadTicket, Txn.currentVersion, Txn.read, Txn.failWith]
  · rename_i h _ _ _
    exact ⟨h.frame, h.counter, h.seen, h.current, fun _ => rfl⟩
  · -- the first request reads the counter, whose table is there
    rename_i h hc _ hread v hv _ _
    subst hv
    refine ⟨h.frame, h.counter, h.seen, Or.inr ⟨?_, ?_⟩, fun _ => rfl⟩
    · rw [← Database.has_of_frame_eq h.frame .counter]
      exact Database.has_of_counterValue hread
    · show some v = s₀.db.counter
      rw [← h.counter]
      exact Database.counterValue_ok hread

theorem upsertByProvider_batched (provider : String) (x : Incoming) (kind : Option ContentKind)
    (version : Int) (now : Instant) :
    ⦃fun s _ => ⌜Batched s₀ s⌝⦄ upsertByProvider provider x kind version now
    ⦃⇓? _ s _ => ⌜Batched s₀ s⌝⦄ := by
  mvcgen [upsertByProvider, Txn.read, Txn.write, Txn.freshId, freshId, Txn.ambient]
  · rename_i h _ _ _ _ _ _ hw
    exact h.updateItem hw
  · rename_i h _ _ _ _ _ hw
    exact h.insertItem hw

theorem ensureEntry_batched (itemId : String) (version : Int) (now : Instant) :
    ⦃fun s _ => ⌜Batched s₀ s⌝⦄ ensureEntry itemId version now ⦃⇓? _ s _ => ⌜Batched s₀ s⌝⦄ := by
  mvcgen [ensureEntry, Txn.read, Txn.write, Txn.freshId, freshId, Txn.ambient]
  rename_i h _ _ _ _ _ hw
  exact h.insertEntry hw

attribute [local irreducible] Incoming.normalize in
theorem takeItems_batched (src : Source) (now : Instant) (items : List Incoming) :
    ∀ (i : Nat) (t : Tally), ⦃fun s _ => ⌜Batched s₀ s⌝⦄ takeItems src now i items t
    ⦃⇓? _ s _ => ⌜Batched s₀ s⌝⦄ := by
  induction items with
  | nil =>
    intro i t
    mvcgen [takeItems]
  | cons raw rest ih =>
    intro i t
    have hnext := nextVersion_batched s₀
    have hup := upsertByProvider_batched s₀
    have hensure := ensureEntry_batched s₀
    mvcgen [takeItems, Txn.read, Txn.write, ih, hnext, hup, hensure]
    rename_i h _ hw
    exact h.markSeen hw

/-- A delivery marked in a store stays marked in what a take leaves of it. -/
theorem Batched.wasSeen {s s' : TxnState} (h : Batched s s') {sourceId pid : String}
    (hseen : s.db.wasSeen sourceId pid = .ok true) : s'.db.wasSeen sourceId pid = .ok true := by
  obtain ⟨hhas, hany⟩ := Database.wasSeen_eq_true.1 hseen
  obtain ⟨m, hm, hkey⟩ := List.any_eq_true.1 hany
  exact Database.wasSeen_eq_true.2
    ⟨(Database.has_of_frame_eq h.frame .seen).trans hhas, List.any_eq_true.2 ⟨m, h.seen hm, hkey⟩⟩

/-- After a mark is written, the delivery is marked. -/
theorem wasSeen_of_markSeen {d d' : Database} {m : SeenMark} (h : d.markSeen m = .ok d') :
    d'.wasSeen m.sourceId m.providerItemId = .ok true := by
  obtain ⟨hhas, rfl⟩ := Database.markSeen_eq h
  split
  · exact Database.wasSeen_eq_true.2 ⟨hhas, by assumption⟩
  · exact Database.wasSeen_eq_true.2 ⟨hhas, by simp⟩

/-! ## The deliveries of a batch -/

theorem takeItems_append (src : Source) (now : Instant) (first rest : List Incoming) :
    ∀ (i : Nat) (t : Tally), takeItems src now i (first ++ rest) t =
      takeItems src now i first t >>= fun t' => takeItems src now (i + first.length) rest t' := by
  induction first with
  | nil =>
    intro i t
    simp [takeItems]
  | cons raw first ih =>
    intro i t
    rw [List.cons_append, List.length_cons,
      show i + (first.length + 1) = i + 1 + first.length by omega]
    simp only [takeItems]
    split
    · rw [ih]
    · simp only [bind_assoc]
      congr 1
      funext seen
      split
      · rw [ih]
      · simp only [bind_assoc, ih]

/-- The rejections of a batch from index `i` on: each item that fails the checks, with its index,
its id as delivered and the reason. -/
def rejectionsFrom : Nat → List Incoming → List Rejection
  | _, [] => []
  | i, raw :: rest =>
    match raw.normalize with
    | .error p => ⟨i, raw.providerItemId, p.code, p.message⟩ :: rejectionsFrom (i + 1) rest
    | .ok _ => rejectionsFrom (i + 1) rest

attribute [local irreducible] Incoming.normalize in
/-- **A take rejects what the batch alone rejects, and marks every delivery that passes the
checks.** The induction is on the batch; a mark made for one delivery stays through the rest of
the take, which keeps every mark (`Batched`). -/
theorem takeItems_marks {src : Source} {now : Instant} :
    ∀ {items : List Incoming} {i : Nat} {t t' : Tally} {s s' : TxnState} {amb amb' : Ambient},
      (takeItems src now i items t).exec s amb = (.ok (t', s'), amb') →
      t'.rejections = t.rejections ++ rejectionsFrom i items ∧
        ∀ raw ∈ items, ∀ x kind, raw.normalize = .ok (x, kind) →
          s'.db.wasSeen src.id x.providerItemId = .ok true := by
  intro items
  induction items with
  | nil =>
    intro i t t' s s' amb amb' h
    simp only [takeItems, Txn.exec_pure, Prod.mk.injEq, Except.ok.injEq] at h
    obtain ⟨⟨rfl, rfl⟩, rfl⟩ := h
    simp [rejectionsFrom]
  | cons raw rest ih =>
    intro i t t' s s' amb amb' h
    unfold takeItems at h
    rcases hn : raw.normalize with p | ⟨x, kind⟩ <;> rw [hn] at h <;> dsimp only at h
    · -- a rejected item: the rest of the take
      obtain ⟨hrej, hmarks⟩ := ih h
      refine ⟨by simp [hrej, rejectionsFrom, hn], fun r hr x' k' hr' => ?_⟩
      rcases List.mem_cons.1 hr with rfl | hr
      · rw [hn] at hr'
        cases hr'
      · exact hmarks r hr x' k' hr'
    obtain ⟨seen, s₀, amb₀, hread, h⟩ := Txn.exec_bind_eq_ok.1 h
    obtain ⟨hseen, rfl, rfl⟩ := Txn.read_ok hread
    -- the head's mark, made in `s₁`, stays through the rest of the take from `s₁`
    suffices hhead : ∃ s₁ amb₁ t₁, s₁.db.wasSeen src.id x.providerItemId = .ok true ∧
        (takeItems src now (i + 1) rest t₁).exec s₁ amb₁ = (.ok (t', s'), amb') ∧
        t₁.rejections = t.rejections by
      obtain ⟨s₁, amb₁, t₁, hmark, hrest, ht₁⟩ := hhead
      obtain ⟨hrej, hmarks⟩ := ih hrest
      refine ⟨by simp [hrej, ht₁, rejectionsFrom, hn], fun r hr x' k' hr' => ?_⟩
      rcases List.mem_cons.1 hr with rfl | hr
      · rw [hn] at hr'
        obtain rfl : x = x' := congrArg Prod.fst (Except.ok.inj hr')
        exact (Txn.of_triple (takeItems_batched s₁ src now rest (i + 1) t₁) (Batched.refl s₁)
          hrest).wasSeen hmark
      · exact hmarks r hr x' k' hr'
    cases seen
    · -- a new delivery: a version, its item, its mark and its entry
      simp only [Bool.false_eq_true, ↓reduceIte] at h
      obtain ⟨v, s₁, amb₁, -, h⟩ := Txn.exec_bind_eq_ok.1 h
      obtain ⟨item, s₂, amb₂, -, h⟩ := Txn.exec_bind_eq_ok.1 h
      obtain ⟨_, s₃, amb₃, hmark, h⟩ := Txn.exec_bind_eq_ok.1 h
      obtain ⟨e, s₄, amb₄, hentry, h⟩ := Txn.exec_bind_eq_ok.1 h
      have hmarked := wasSeen_of_markSeen (Txn.write_ok hmark).1
      refine ⟨s₄, amb₄, _, ?_, h, rfl⟩
      exact (Txn.of_triple (ensureEntry_batched s₃ _ _ _) (Batched.refl s₃) hentry).wasSeen hmarked
    · -- a delivery already marked: skipped
      exact ⟨_, _, _, hseen, h, rfl⟩

attribute [local irreducible] Incoming.normalize in
/-- **A take of a batch whose deliveries are all marked skips each of them, rejects the rest,
and changes nothing.** -/
theorem takeItems_of_marked {src : Source} {now : Instant} {s : TxnState} {amb : Ambient} :
    ∀ {items : List Incoming} {i : Nat} {t : Tally},
      (∀ raw ∈ items, ∀ x kind, raw.normalize = .ok (x, kind) →
        s.db.wasSeen src.id x.providerItemId = .ok true) →
      (takeItems src now i items t).exec s amb =
        (.ok ({ t with skipped := t.skipped + items.countP (·.normalize.toBool),
                       rejections := t.rejections ++ rejectionsFrom i items }, s), amb) := by
  intro items
  induction items with
  | nil =>
    intro i t _
    simp [takeItems, rejectionsFrom]
  | cons raw rest ih =>
    intro i t hall
    have hrest := fun r hr => hall r (List.mem_cons_of_mem raw hr)
    unfold takeItems
    rcases hn : raw.normalize with p | ⟨x, kind⟩ <;> dsimp only
    · rw [ih hrest]
      simp [rejectionsFrom, hn, Except.toBool]
    · rw [Txn.exec_bind, Txn.exec_read, hall raw List.mem_cons_self x kind hn]
      dsimp only
      rw [if_pos rfl, ih hrest]
      simp only [rejectionsFrom, hn, List.countP_cons, Except.toBool, ↓reduceIte]
      congr 4
      omega

/-! ## An ingest -/

variable {n : Nat} {sid : String} {items : List Incoming} {d : Database} {tk : VersionTicket}
  {amb : Ambient}

/-- An ingest whose checks pass and whose source is found takes the batch at the clock's instant
and commits. -/
theorem ingest_exec_found {src : Source} (hsid : sid.isEmpty = false) (hn : items.length ≤ n)
    (hsrc : d.sourceById sid = .ok (some src)) :
    (Ingest.ingest n sid items).exec ⟨d, tk⟩ amb =
      match (takeItems src amb.clock 0 items {}).exec ⟨d, {}⟩
          { amb with clock := amb.clock.addNanos 1 } with
      | (.ok (t, s), amb₁) =>
        match Txn.commitVersion.exec s amb₁ with
        | (.ok (v, s'), amb₂) =>
          (.ok (⟨v, t.entryIds, t.skipped, t.rejections⟩, { s' with ticket := tk }), amb₂)
        | (.error e, amb₂) => (.error e, amb₂)
      | (.error e, amb₁) => (.error e, amb₁) := by
  simp only [Ingest.ingest, Txn.exec_bind, hsid, Bool.false_eq_true, ↓reduceIte, Txn.exec_pure,
    gt_iff_lt, Nat.not_lt.2 hn, Txn.exec_withTicket, Txn.exec_read, hsrc, Txn.exec_now]
  rcases (takeItems src amb.clock 0 items {}).exec ⟨d, {}⟩
    { amb with clock := amb.clock.addNanos 1 } with ⟨_ | ⟨t, s⟩, amb₁⟩
  · rfl
  · dsimp only
    rcases Txn.commitVersion.exec s amb₁ with ⟨_ | ⟨v, s'⟩, amb₂⟩ <;> rfl

/-- An ingest that succeeds passed its checks and found its source. -/
theorem ingest_ok {rep : IngestReport} {s' : TxnState} {amb' : Ambient}
    (h : (Ingest.ingest n sid items).exec ⟨d, tk⟩ amb = (.ok (rep, s'), amb')) :
    sid.isEmpty = false ∧ items.length ≤ n ∧ ∃ src, d.sourceById sid = .ok (some src) := by
  cases hsid : sid.isEmpty
  · by_cases hn : items.length ≤ n
    · rcases hsrc : d.sourceById sid with _ | _ | src
      · simp [Ingest.ingest, Txn.exec_bind, hsid, Nat.not_lt.2 hn, Txn.exec_withTicket,
          Txn.exec_read, hsrc] at h
      · simp [Ingest.ingest, Txn.exec_bind, hsid, Nat.not_lt.2 hn, Txn.exec_withTicket,
          Txn.exec_read, hsrc] at h
      · exact ⟨rfl, hn, src, rfl⟩
    · have hlt : n < items.length := by omega
      simp only [Ingest.ingest, Txn.exec_bind, hsid, Bool.false_eq_true, ↓reduceIte, gt_iff_lt, hlt,
        Txn.exec_fail] at h
      cases h
  · simp only [Ingest.ingest, Txn.exec_bind, hsid, ↓reduceIte, Txn.exec_fail] at h
    cases h

end Ingest

end ReadLater
