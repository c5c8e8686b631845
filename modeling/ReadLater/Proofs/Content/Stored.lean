import Mathlib
import ReadLater.Proofs.Content.Cleaning
import ReadLater.Proofs.Deduplication

/-!
# Stored content is cleaned

Every path by which content enters the store cleans it first: a delivery of a batch goes through
`Incoming.normalize`, a save cleans its URL, title and thumbnail, and an item refreshed by a
delivery keeps a field the delivery leaves empty. So every item of every store the service
reaches holds cleaned URLs and cleaned text.

* `Incoming.normalize_ok`: what a delivery that passes its checks becomes;
* `Incoming.Cleaned`, `Item.Cleaned`: URLs and text as cleaning leaves them;
  `Item.Cleaned.refresh`, `Ingest.newItem_cleaned`: a cleaned delivery written over a cleaned
  item, or into a new one, leaves it cleaned;
* one triple per transaction body (`Ingest.ingest_cleaned`, `Ingest.save_cleaned`, …), and a
  push mutation by mutation (`Sync.push_cleaned`);
* `Store.Reachable.cleaned`: every item of every reachable store is cleaned;
* **`reachable_items_cleaned`**: so its URLs are empty or web addresses, and its title, summary,
  author and publisher are tidy text.
-/

namespace ReadLater

open Clock Store Std.Do

set_option mvcgen.warning false

/-! ## Cleaned rows -/

namespace Incoming

/-- A delivery that passes its checks: its provider's id trimmed, its URLs and text cleaned. -/
theorem normalize_ok {raw x : Incoming} {kind : Option ContentKind}
    (h : raw.normalize = .ok (x, kind)) :
    x = { raw with
      providerItemId := Text.trim raw.providerItemId
      title := Content.cleanText raw.title
      summary := Content.cleanText raw.summary
      author := Content.cleanText raw.author
      publisher := Content.cleanText raw.publisher
      canonicalUrl := Content.cleanUrl raw.canonicalUrl
      thumbnailUrl := Content.cleanUrl raw.thumbnailUrl } := by
  unfold normalize at h
  simp only [bind, Except.bind, pure, Except.pure] at h
  -- every check that fails throws; each way through returns the cleaned delivery
  repeat' split at h
  all_goals simp only [reduceCtorEq, Except.ok.injEq, Prod.mk.injEq] at h
  all_goals exact h.1.symm

/-- A delivery whose URLs and text are as cleaning leaves them. -/
structure Cleaned (x : Incoming) : Prop where
  canonicalUrl : ∃ raw, Content.cleanUrl raw = x.canonicalUrl
  thumbnailUrl : ∃ raw, Content.cleanUrl raw = x.thumbnailUrl
  title : ∃ raw, Content.cleanText raw = x.title
  summary : ∃ raw, Content.cleanText raw = x.summary
  author : ∃ raw, Content.cleanText raw = x.author
  publisher : ∃ raw, Content.cleanText raw = x.publisher

theorem normalize_cleaned {raw x : Incoming} {kind : Option ContentKind}
    (h : raw.normalize = .ok (x, kind)) : x.Cleaned := by
  rw [normalize_ok h]
  exact ⟨⟨raw.canonicalUrl, by dsimp only⟩, ⟨raw.thumbnailUrl, by dsimp only⟩,
    ⟨raw.title, by dsimp only⟩, ⟨raw.summary, by dsimp only⟩, ⟨raw.author, by dsimp only⟩,
    ⟨raw.publisher, by dsimp only⟩⟩

end Incoming

namespace Item

/-- An item whose URLs and text are as cleaning leaves them. -/
structure Cleaned (i : Item) : Prop where
  canonicalUrl : ∃ raw, Content.cleanUrl raw = i.canonicalUrl
  thumbnailUrl : ∃ raw, Content.cleanUrl raw = i.thumbnailUrl
  title : ∃ raw, Content.cleanText raw = i.title
  summary : ∃ raw, Content.cleanText raw = i.summary
  author : ∃ raw, Content.cleanText raw = i.author
  publisher : ∃ raw, Content.cleanText raw = i.publisher

/-- A field a delivery carries, or the item's own when the delivery leaves it empty. -/
theorem cleaned_field {f : String → String} {a b : String} (ha : ∃ raw, f raw = a)
    (hb : ∃ raw, f raw = b) : ∃ raw, f raw = if b.isEmpty then a else b := by
  split
  · exact ha
  · exact hb

/-- A cleaned delivery written over a cleaned item leaves it cleaned. -/
theorem Cleaned.refresh {i : Item} {x : Incoming} (hi : i.Cleaned) (hx : x.Cleaned)
    (kind : Option ContentKind) : (i.refresh x kind).Cleaned where
  canonicalUrl := cleaned_field hi.canonicalUrl hx.canonicalUrl
  thumbnailUrl := cleaned_field hi.thumbnailUrl hx.thumbnailUrl
  title := cleaned_field hi.title hx.title
  summary := cleaned_field hi.summary hx.summary
  author := cleaned_field hi.author hx.author
  publisher := cleaned_field hi.publisher hx.publisher

/-- New stamps leave an item cleaned. -/
theorem Cleaned.stamp {i : Item} (hi : i.Cleaned) (v : Int) (t : Instant) :
    Cleaned { i with version := v, updatedAt := t } :=
  ⟨hi.canonicalUrl, hi.thumbnailUrl, hi.title, hi.summary, hi.author, hi.publisher⟩

end Item

/-- A new item from a cleaned delivery is cleaned: it starts with empty fields, which are what
cleaning gives for empty text. -/
theorem Ingest.newItem_cleaned (id : String) (provider : Option String) {x : Incoming}
    (hx : x.Cleaned) (kind : Option ContentKind) (version : Int) (now : Instant) :
    (Ingest.newItem id provider x kind version now).Cleaned :=
  Item.Cleaned.refresh ⟨⟨"", Content.cleanUrl_empty⟩, ⟨"", Content.cleanUrl_empty⟩,
    ⟨"", Content.cleanText_empty⟩, ⟨"", Content.cleanText_empty⟩, ⟨"", Content.cleanText_empty⟩,
    ⟨"", Content.cleanText_empty⟩⟩ hx kind

namespace Store.Database

/-- Every item of the store is cleaned. -/
def Cleaned (d : Database) : Prop := ∀ i ∈ d.items, i.Cleaned

namespace Cleaned

variable {d d' : Database}

/-- A write that leaves the items keeps them cleaned. -/
theorem of_items (h : d.Cleaned) (hi : d'.items = d.items) : d'.Cleaned :=
  fun i hmem => h i (hi ▸ hmem)

theorem insertItem {i : Item} (h : d.Cleaned) (hi : i.Cleaned) (hw : d.insertItem i = .ok d') :
    d'.Cleaned := by
  rw [insertItem_ok hw]
  intro j hj
  rcases List.mem_append.1 hj with hj | hj
  · exact h j hj
  · rw [List.mem_singleton.1 hj]
    exact hi

theorem updateItem {i : Item} (h : d.Cleaned) (hi : i.Cleaned) (hw : d.updateItem i = .ok d') :
    d'.Cleaned := by
  rw [updateItem_ok hw]
  intro j hj
  rcases mem_replaceById hj with rfl | ⟨hj, -⟩
  · exact hi
  · exact h j hj

theorem advanceCounter {expected next : Int} {hit : Bool} (h : d.Cleaned)
    (hw : d.advanceCounter expected next = .ok (d', hit)) : d'.Cleaned := by
  obtain ⟨rfl, -⟩ := Prod.mk.inj (advanceCounter_ok hw)
  split
  · exact h.of_items rfl
  · exact h

end Cleaned

end Store.Database

/-! ## Every transaction body -/

section Bodies

theorem Store.Txn.nextVersion_cleaned :
    ⦃fun s _ => ⌜s.db.Cleaned⌝⦄ Txn.nextVersion ⦃⇓? _ s _ => ⌜s.db.Cleaned⌝⦄ := by
  mvcgen [Txn.nextVersion, Txn.loadTicket, Txn.currentVersion, Txn.read, Txn.failWith]

theorem Store.Txn.commitVersion_cleaned :
    ⦃fun s _ => ⌜s.db.Cleaned⌝⦄ Txn.commitVersion ⦃⇓? _ s _ => ⌜s.db.Cleaned⌝⦄ := by
  mvcgen [Txn.commitVersion, Txn.advanceVersion, Txn.loadTicket, Txn.currentVersion, Txn.read,
    Txn.failWith, Txn.writeCounting]
  all_goals exact Database.Cleaned.advanceCounter ‹_› ‹_›

theorem Triage.transition_cleaned (entryId target : String) :
    ⦃fun s _ => ⌜s.db.Cleaned⌝⦄ Triage.transition entryId target
    ⦃⇓? _ s _ => ⌜s.db.Cleaned⌝⦄ := by
  have := Txn.nextVersion_cleaned
  mvcgen [Triage.transition, Txn.read, Txn.writeCounting, Txn.now, Txn.ambient, readClock,
    Txn.fail, this]
  rename_i h _ _ hw _ _
  obtain ⟨rfl, -⟩ := Prod.mk.inj (Database.updateEntry_ok hw)
  exact h.of_items rfl

theorem Subscription.unsubscribe_cleaned (sourceId : String) :
    ⦃fun s _ => ⌜s.db.Cleaned⌝⦄ Subscription.unsubscribe sourceId
    ⦃⇓? _ s _ => ⌜s.db.Cleaned⌝⦄ := by
  have := Txn.nextVersion_cleaned
  mvcgen [Subscription.unsubscribe, Txn.read, Txn.write, Txn.now, Txn.ambient, readClock,
    Txn.fail, this]
  rename_i h _ hdel _ hput
  rw [Database.putTombstone_ok hput, Database.deleteSource_ok hdel]
  exact h.of_items rfl

theorem IdentityEvent.apply_cleaned (user : String) (ev : IdentityEvent) :
    ⦃fun s _ => ⌜s.db.Cleaned⌝⦄ ev.apply user ⦃⇓? _ s _ => ⌜s.db.Cleaned⌝⦄ := by
  have := Txn.nextVersion_cleaned
  mvcgen [IdentityEvent.apply, Txn.read, Txn.write, Txn.now, Txn.ambient, readClock,
    Txn.fail, logAt, this]
  all_goals
    rename_i h _ hw
    rcases Database.upsertProfile_ok hw with ⟨-, rfl⟩ | ⟨_, -, rfl⟩ <;> exact h.of_items rfl

attribute [local irreducible] Text.trim Text.toUpper Provider.parse? Json.valid in
theorem Subscription.subscribe_cleaned (req : SubscribeRequest) :
    ⦃fun s _ => ⌜s.db.Cleaned⌝⦄ Subscription.subscribe req ⦃⇓? _ s _ => ⌜s.db.Cleaned⌝⦄ := by
  have := Txn.nextVersion_cleaned
  mvcgen [Subscription.subscribe, Txn.read, Txn.write, Txn.now, Txn.ambient, readClock,
    Txn.fail, Txn.freshId, freshId, this]
  rename_i h _ _ hw
  rw [Database.insertSource_ok hw]
  exact h.of_items rfl

namespace Ingest

/-- A cleaned delivery of a provider keeps the store's items cleaned: it refreshes the item
found, or creates one. -/
theorem upsertByProvider_cleaned (provider : String) {x : Incoming} (hx : x.Cleaned)
    (kind : Option ContentKind) (version : Int) (now : Instant) :
    ⦃fun s _ => ⌜s.db.Cleaned⌝⦄ upsertByProvider provider x kind version now
    ⦃⇓? _ s _ => ⌜s.db.Cleaned⌝⦄ := by
  mvcgen [upsertByProvider, Txn.read, Txn.write, Txn.freshId, freshId, Txn.ambient]
  · -- the item found, refreshed and stamped
    rename_i s amb hpre _ hread old hold i db hw
    subst hold
    obtain ⟨hmem, -, -⟩ := Database.itemByProvider_some hread
    exact hpre.updateItem (((hpre old hmem).refresh hx kind).stamp version now) hw
  · rename_i s amb hpre _ hread hnone i db hw
    exact hpre.insertItem (newItem_cleaned _ _ hx kind version now) hw

theorem upsertByUrl_cleaned {x : Incoming} (hx : x.Cleaned) (kind : Option ContentKind)
    (version : Int) (now : Instant) :
    ⦃fun s _ => ⌜s.db.Cleaned⌝⦄ upsertByUrl x kind version now ⦃⇓? _ s _ => ⌜s.db.Cleaned⌝⦄ := by
  mvcgen [upsertByUrl, Txn.read, Txn.write, Txn.freshId, freshId, Txn.ambient]
  rename_i s amb hpre _ hread hnone i db hw
  exact hpre.insertItem (newItem_cleaned _ _ hx kind version now) hw

theorem ensureEntry_cleaned (itemId : String) (version : Int) (now : Instant) :
    ⦃fun s _ => ⌜s.db.Cleaned⌝⦄ ensureEntry itemId version now ⦃⇓? _ s _ => ⌜s.db.Cleaned⌝⦄ := by
  mvcgen [ensureEntry, Txn.read, Txn.write, Txn.freshId, freshId, Txn.ambient]
  rename_i h _ _ _ _ _ hw
  rw [Database.insertEntry_ok hw]
  exact h.of_items rfl

attribute [local irreducible] Incoming.normalize in
theorem takeItems_cleaned (src : Source) (now : Instant) (items : List Incoming) :
    ∀ (i : Nat) (t : Tally), ⦃fun s _ => ⌜s.db.Cleaned⌝⦄ takeItems src now i items t
    ⦃⇓? _ s _ => ⌜s.db.Cleaned⌝⦄ := by
  induction items with
  | nil =>
    intro i t
    mvcgen [takeItems]
  | cons raw rest ih =>
    intro i t
    have hnext := Txn.nextVersion_cleaned
    have hensure := ensureEntry_cleaned
    rcases hn : raw.normalize with p | ⟨x, kind⟩
    · -- a rejected delivery writes nothing
      mvcgen [takeItems, hn, ih]
    · -- a delivery that passes its checks is cleaned
      have hup := upsertByProvider_cleaned src.provider.name (Incoming.normalize_cleaned hn) kind
      mvcgen [takeItems, hn, Txn.read, Txn.write, ih, hnext, hup, hensure]
      rename_i h _ hw
      rcases Database.markSeen_ok hw with rfl | rfl <;> exact h.of_items rfl

attribute [local irreducible] Content.cleanUrl Content.cleanText Incoming.parseKind Text.trim
  Text.toUpper Provider.parse? in
/-- A save cleans the URL, title and thumbnail it writes. -/
theorem save_cleaned (req : SaveRequest) :
    ⦃fun s _ => ⌜s.db.Cleaned⌝⦄ save req ⦃⇓? _ s _ => ⌜s.db.Cleaned⌝⦄ := by
  have hx : Incoming.Cleaned {
      providerItemId := Text.trim req.providerItemId
      canonicalUrl := Content.cleanUrl req.url
      title := Content.cleanText req.title
      thumbnailUrl := Content.cleanUrl req.thumbnailUrl } :=
    ⟨⟨req.url, rfl⟩, ⟨req.thumbnailUrl, rfl⟩, ⟨req.title, rfl⟩, ⟨"", Content.cleanText_empty⟩,
      ⟨"", Content.cleanText_empty⟩, ⟨"", Content.cleanText_empty⟩⟩
  have hnext := Txn.nextVersion_cleaned
  have hurl := upsertByUrl_cleaned hx
  have hup := fun provider => upsertByProvider_cleaned provider hx
  have hensure := ensureEntry_cleaned
  mvcgen [save, Txn.fail, Txn.now, Txn.ambient, readClock, hnext, hurl, hup, hensure]

end Ingest

theorem Ingest.ingest_cleaned (maxBatch : Nat) (sourceId : String) (items : List Incoming) :
    ⦃fun s _ => ⌜s.db.Cleaned⌝⦄ Ingest.ingest maxBatch sourceId items
    ⦃⇓? _ s _ => ⌜s.db.Cleaned⌝⦄ := by
  have htake := Ingest.takeItems_cleaned
  have hcommit := Txn.commitVersion_cleaned
  mvcgen [Ingest.ingest, Txn.withTicket, Txn.read, Txn.fail, Txn.now, Txn.ambient, readClock,
    htake, hcommit]

attribute [local irreducible] Content.cleanUrl Content.cleanText Incoming.parseKind Text.trim
  Text.toUpper Provider.parse? Json.textField TriageState.name in
theorem Sync.MutationKind.effect_cleaned (k : Sync.MutationKind) (a : Json) :
    ⦃fun s _ => ⌜s.db.Cleaned⌝⦄ k.effect a ⦃⇓? _ s _ => ⌜s.db.Cleaned⌝⦄ := by
  have htransition := Triage.transition_cleaned
  have hsave := Ingest.save_cleaned
  have hunsubscribe := Subscription.unsubscribe_cleaned
  mvcgen [Sync.MutationKind.effect, htransition, hsave, hunsubscribe]

attribute [local irreducible] Sync.Mutation.parse in
theorem Sync.Mutation.run_cleaned (m : Sync.Mutation) :
    ⦃fun s _ => ⌜s.db.Cleaned⌝⦄ m.run ⦃⇓? _ s _ => ⌜s.db.Cleaned⌝⦄ := by
  have heffect := Sync.MutationKind.effect_cleaned
  mvcgen [Sync.Mutation.run, Txn.fail, heffect]

end Bodies

/-! ## Pushes -/

namespace Sync

variable {req : PushRequest}

/-- A commit of a mutation keeps the items cleaned: its effect, then the client's progress. -/
theorem Commits.cleaned {m : Mutation} {d d' : Database} {p : Option Problem}
    (hc : Commits req m d p d') (h : d.Cleaned) : d'.Cleaned := by
  -- loading the client and recording its progress leave the items
  have hload : ∀ {cl dE}, ClientLoaded req d cl dE → dE.Cleaned := fun hl => by
    cases hl with
    | found => exact h
    | created => exact h.of_items rfl
  cases hc with
  | applied t hl hV hrun =>
    exact (Txn.of_triple (P := fun s _ => s.db.Cleaned) (Mutation.run_cleaned m) (hload hl)
      hrun).of_items rfl
  | rejected t hrej hl hV => exact (hload hl).of_items rfl

/-- A pass over a push's mutations keeps the items cleaned. -/
theorem Replays.cleaned {d d' : Database} {ms cs : List Mutation} (hr : Replays req d ms d' cs)
    (h : d.Cleaned) : d'.Cleaned := by
  induction hr with
  | nil => exact h
  | halt => exact h
  | duplicate t _ _ _ _ ih => exact ih (h.of_items rfl)
  | commit _ hc _ ih => exact ih (hc.cleaned h)

theorem push_cleaned (n : Nat) (req : PushRequest) {d : Database} (amb : Ambient)
    (h : d.Cleaned) : ((push n req).leaves d amb).1.Cleaned := by
  rcases hx : (push n req).exec d amb with ⟨⟨r, d'⟩, amb'⟩
  obtain ⟨cs, hr⟩ := push_replays hx
  simp only [Work.leaves, hx]
  exact hr.cleaned h

end Sync

/-! ## Every reachable store -/

/-- Every operation keeps the items cleaned, committed or not. -/
theorem Operation.exec_cleaned {d : Database} (op : Operation) (amb : Ambient) (h : d.Cleaned) :
    (op.exec d amb).1.Cleaned :=
  op.exec_keeps Sync.push_cleaned Txn.commitVersion_cleaned Ingest.ingest_cleaned
    Subscription.subscribe_cleaned Subscription.unsubscribe_cleaned Triage.transition_cleaned
    IdentityEvent.apply_cleaned amb h

/-- Bringing a schema up to date clears items or leaves them. -/
theorem Store.Database.Cleaned.schemaStable : SchemaStable Cleaned where
  clearRows d t h := by
    cases t with
    | items => exact fun _ hi => absurd hi List.not_mem_nil
    | entries | sources | seen | profile | clients | counter | tombstones | migrations =>
      exact h.of_items rfl
  tables _ _ h := h.of_items rfl
  versioned _ _ h := h.of_items rfl
  indexes _ _ h := h.of_items rfl
  seeded _ h := h.of_items rfl
  applied _ _ h := h.of_items rfl

/-- Every item of every store the service reaches is cleaned. -/
theorem Store.Reachable.cleaned {d : Database} (h : Reachable d) : d.Cleaned := by
  induction h with
  | schema user amb => exact Database.Cleaned.schemaStable.newStore (fun _ hi => absurd hi
      List.not_mem_nil) user amb
  | step op amb _ ih => exact op.exec_cleaned amb ih

/-- The URLs of a cleaned item are empty or web addresses, and its text is tidy. -/
theorem Item.Cleaned.shapes {i : Item} (h : i.Cleaned) :
    (i.canonicalUrl = "" ∨ Content.IsWebAddress i.canonicalUrl) ∧
    (i.thumbnailUrl = "" ∨ Content.IsWebAddress i.thumbnailUrl) ∧
    Text.Tidy i.title ∧ Text.Tidy i.summary ∧ Text.Tidy i.author ∧ Text.Tidy i.publisher := by
  obtain ⟨⟨u, hu⟩, ⟨v, hv⟩, ⟨a, ha⟩, ⟨b, hb⟩, ⟨c, hc⟩, ⟨e, he⟩⟩ := h
  rw [← hu, ← hv, ← ha, ← hb, ← hc, ← he]
  exact ⟨Content.cleanUrl_webAddress u, Content.cleanUrl_webAddress v, Content.cleanText_tidy a,
    Content.cleanText_tidy b, Content.cleanText_tidy c, Content.cleanText_tidy e⟩

/-- **Stored content is cleaned.** In every store the service reaches, whatever was delivered or
saved, every item's URL and thumbnail are what cleaning gives for some text: empty, or the
written form of a URL read with the scheme http or https and a host; and its title, summary,
author and publisher are cleaned text, words joined by single spaces with no white space at
either end. -/
theorem reachable_items_cleaned {d : Database} (hd : Store.Reachable d) :
    ∀ i ∈ d.items, i.Cleaned ∧
      (i.canonicalUrl = "" ∨ Content.IsWebAddress i.canonicalUrl) ∧
      (i.thumbnailUrl = "" ∨ Content.IsWebAddress i.thumbnailUrl) ∧
      Text.Tidy i.title ∧ Text.Tidy i.summary ∧ Text.Tidy i.author ∧ Text.Tidy i.publisher :=
  fun i hi => ⟨hd.cleaned i hi, (hd.cleaned i hi).shapes⟩

/-- A new store after a subscription and a delivery of untidy text and a URL in capitals with
blanks around it is reachable, so its items are cleaned. -/
theorem delivered_items_cleaned :
    let x : Incoming := {
      providerItemId := "v1"
      title := "  Two   words "
      canonicalUrl := " HTTPS://Example.com/a " }
    let d := ((Operation.ingest 500 (Ambient.idText 1) [x]).exec
      ((Operation.subscribe { provider := "YOUTUBE", providerId := "UC1" }).exec
        (newStore "user" {}) {}).1 {}).1
    Store.Reachable d ∧ ∀ i ∈ d.items, i.Cleaned ∧
      (i.canonicalUrl = "" ∨ Content.IsWebAddress i.canonicalUrl) ∧
      (i.thumbnailUrl = "" ∨ Content.IsWebAddress i.thumbnailUrl) ∧
      Text.Tidy i.title ∧ Text.Tidy i.summary ∧ Text.Tidy i.author ∧ Text.Tidy i.publisher :=
  have hd := Store.Reachable.step _ _ (.step _ _ (.schema "user" {}))
  ⟨hd, reachable_items_cleaned hd⟩

end ReadLater
