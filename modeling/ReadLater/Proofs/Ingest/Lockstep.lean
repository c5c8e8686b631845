import Mathlib
import ReadLater.Proofs.Deduplication

/-!
# Two takes of a batch in lockstep

Taking part of a batch in a later call, or the whole of it at another instant, changes the
versions and timestamps its rows are stamped with and nothing that a delivery reads: the lookups
go by ids, provider's keys and marks, and in a store that holds each key once at most one item
has a provider's key, whatever its creation time. This module runs two takes of one batch side by
side and shows that the second one's success carries over to the first:

* `Item.unstamped`, `Entry.unstamped`, `SeenMark.unstamped`: rows without their versions and
  timestamps; `Database.Twins a b`: stores whose items, entries and marks agree row by row apart
  from these, and that agree on everything else but the version counter;
* `Ingest.Paired sa sb`: states of two takes with twin stores, the first of which can hand out a
  version and has used its ticket only if the second has;
* `Ingest.Lockstep P R ta tb`: from paired states, the first satisfying `P`, whenever `tb`
  succeeds so does `ta`, with results related by `R`, paired states after and as many ids issued.
  `Lockstep.pure` and `Lockstep.bind` compose it, `Lockstep.read`, `Lockstep.write`,
  `freshId_lockstep` and `nextVersion_lockstep` start it, and each step of a delivery has it
  (`upsertByProvider_lockstep`, `ensureEntry_lockstep`);
* **`Ingest.takeItems_lockstep`**: two takes of a batch from paired states, at any two instants,
  indices and tallies, go in lockstep.
-/

namespace ReadLater

open Clock Store

/-! ## Rows without stamps -/

/-- An item without its version and timestamps. -/
def Item.unstamped (i : Item) : Item := { i with version := 0, createdAt := ⟨0⟩, updatedAt := ⟨0⟩ }

/-- An entry without its version and the instant it was taken in. -/
def Entry.unstamped (e : Entry) : Entry := { e with version := 0, ingestedAt := ⟨0⟩ }

/-- A delivery mark without its timestamp. -/
def SeenMark.unstamped (m : SeenMark) : SeenMark := { m with seenAt := ⟨0⟩ }

@[simp] theorem Item.unstamped_id (i : Item) : i.unstamped.id = i.id := rfl

@[simp] theorem Entry.unstamped_id (e : Entry) : e.unstamped.id = e.id := rfl

@[simp] theorem Entry.unstamped_itemId (e : Entry) : e.unstamped.itemId = e.itemId := rfl

@[simp] theorem SeenMark.unstamped_sourceId (m : SeenMark) : m.unstamped.sourceId = m.sourceId :=
  rfl

@[simp] theorem SeenMark.unstamped_providerItemId (m : SeenMark) :
    m.unstamped.providerItemId = m.providerItemId := rfl

/-- Replacing an item by id commutes with taking the stamps off. -/
theorem map_unstamped_replaceById (items : List Item) (i : Item) :
    (replaceById (·.id) i items).map Item.unstamped =
      (items.map Item.unstamped).map fun u => if u.id == i.id then i.unstamped else u := by
  simp only [replaceById, List.map_map]
  refine List.map_congr_left fun r _ => ?_
  by_cases hr : r.id = i.id <;> simp [hr]

/-- The store apart from the rows a batch of deliveries writes and the version counter. -/
def Store.Database.frame (d : Database) : Database :=
  { d with items := [], entries := [], seen := [], counter := none }

/-- Two stores that agree row by row on items, entries and marks apart from stamps, and on
everything else but the version counter. -/
structure Store.Database.Twins (a b : Database) : Prop where
  items : a.items.map Item.unstamped = b.items.map Item.unstamped
  entries : a.entries.map Entry.unstamped = b.entries.map Entry.unstamped
  seen : a.seen.map SeenMark.unstamped = b.seen.map SeenMark.unstamped
  frame : a.frame = b.frame

/-- Lists equal after a map agree on whatever reads only what the map keeps. -/
theorem map_comp_eq_of_map_eq {α β γ : Type} {g : α → β} {xs ys : List α}
    (h : xs.map g = ys.map g) (f : β → γ) : xs.map (f ∘ g) = ys.map (f ∘ g) := by
  rw [← List.map_map, h, List.map_map]

theorem any_comp_eq_of_map_eq {α β : Type} {g : α → β} {xs ys : List α}
    (h : xs.map g = ys.map g) (p : β → Bool) : xs.any (p ∘ g) = ys.any (p ∘ g) := by
  rw [← List.any_map, h, List.any_map]

theorem find?_comp_eq_of_map_eq {α β : Type} {g : α → β} {xs ys : List α}
    (h : xs.map g = ys.map g) (p : β → Bool) : (xs.find? (p ∘ g)).map g = (ys.find? (p ∘ g)).map g := by
  rw [← List.find?_map, h, List.find?_map]

theorem filter_comp_eq_of_map_eq {α β : Type} {g : α → β} {xs ys : List α}
    (h : xs.map g = ys.map g) (p : β → Bool) :
    (xs.filter (p ∘ g)).map g = (ys.filter (p ∘ g)).map g := by
  rw [← List.filter_map, h, List.filter_map]

/-- The oldest of at most one row is the row. -/
theorem oldest_of_length_le_one {α : Type} {created : α → Instant} {id : α → String}
    {rows : List α} (h : rows.length ≤ 1) : oldest created id rows = rows.head? := by
  match rows, h with
  | [], _ => rfl
  | [_], _ => rfl

namespace Store.Database

/-- In a store that holds each key once, at most one item has a provider's key. -/
theorem Deduplicated.providerKey_length_le {d : Database} (h : d.Deduplicated) (p q : String) :
    (d.items.filter fun i => i.provider == some p && i.providerId == some q).length ≤ 1 := by
  set keyed := d.items.filter fun i => i.provider == some p && i.providerId == some q
  have hnodup : (keyed.map Item.identity).Nodup :=
    h.identities.sublist (List.filter_sublist.map _)
  -- every item with the key is known by the same identity
  have hsame : keyed.map Item.identity = List.replicate keyed.length (.provider p (some q)) := by
    refine List.eq_replicate_iff.2 ⟨List.length_map _, ?_⟩
    simp only [List.mem_map, List.mem_filter, keyed]
    rintro _ ⟨i, ⟨-, hi⟩, rfl⟩
    simp only [Bool.and_eq_true, beq_iff_eq] at hi
    simp [Item.identity, hi.1, hi.2]
  rw [hsame] at hnodup
  exact List.nodup_replicate.1 hnodup

/-- What reads only the frame of a store agrees on stores with the same frame. -/
theorem frame_read {α : Type} {a b : Database} (f : Database → α) (hf : ∀ d, f d.frame = f d)
    (h : a.frame = b.frame) : f a = f b := by
  rw [← hf a, h, hf b]

theorem has_of_frame_eq {a b : Database} (h : a.frame = b.frame) (t : Table) : a.has t = b.has t :=
  frame_read (·.has t) (fun _ => rfl) h

theorem fire_of_frame_eq {a b : Database} (h : a.frame = b.frame) (e : Event) (t : Table)
    (affected : Bool) : a.fire e t affected = b.fire e t affected :=
  frame_read (·.fire e t affected) (fun _ => rfl) h

theorem sourceById_of_frame_eq {a b : Database} (h : a.frame = b.frame) (k : String) :
    a.sourceById k = b.sourceById k :=
  frame_read (·.sourceById k) (fun _ => rfl) h

namespace Twins

variable {a b : Database} (h : a.Twins b)
include h

theorem need (t : Table) : a.need t = b.need t := frame_read (·.need t) (fun _ => rfl) h.frame

theorem needVersion (t : Table) : a.needVersion t = b.needVersion t :=
  frame_read (·.needVersion t) (fun _ => rfl) h.frame

theorem needVersionForInsert (t : Table) : a.needVersionForInsert t = b.needVersionForInsert t :=
  frame_read (·.needVersionForInsert t) (fun _ => rfl) h.frame

theorem fire (e : Event) (t : Table) (affected : Bool) : a.fire e t affected = b.fire e t affected :=
  fire_of_frame_eq h.frame e t affected

theorem has (t : Table) : a.has t = b.has t := has_of_frame_eq h.frame t

theorem sources : a.sources = b.sources := frame_read (·.sources) (fun _ => rfl) h.frame

theorem any_item_id (k : String) : a.items.any (·.id == k) = b.items.any (·.id == k) :=
  any_comp_eq_of_map_eq h.items (·.id == k)

theorem any_entry_id (k : String) : a.entries.any (·.id == k) = b.entries.any (·.id == k) :=
  any_comp_eq_of_map_eq h.entries (·.id == k)

theorem any_entry_itemId (k : String) :
    a.entries.any (·.itemId == k) = b.entries.any (·.itemId == k) :=
  any_comp_eq_of_map_eq h.entries (·.itemId == k)

theorem any_seen (src pid : String) :
    a.seen.any (fun m => m.sourceId == src && m.providerItemId == pid) =
      b.seen.any (fun m => m.sourceId == src && m.providerItemId == pid) :=
  any_comp_eq_of_map_eq h.seen fun m => m.sourceId == src && m.providerItemId == pid

/-! ### Reads -/

theorem wasSeen (src pid : String) : a.wasSeen src pid = b.wasSeen src pid := by
  unfold Database.wasSeen
  rw [h.need, h.any_seen]

theorem sourceById (k : String) : a.sourceById k = b.sourceById k :=
  sourceById_of_frame_eq h.frame k

theorem entryByItem {k : String} {rb : Option Entry} (hb : b.entryByItem k = .ok rb) :
    ∃ ra, a.entryByItem k = .ok ra ∧ ra.map Entry.unstamped = rb.map Entry.unstamped := by
  simp only [Database.entryByItem, Sql.bind_eq_ok, Sql.pure_eq_ok] at hb
  obtain ⟨u, hu, rfl⟩ := hb
  refine ⟨a.entries.find? (·.itemId == k), ?_, find?_comp_eq_of_map_eq h.entries (·.itemId == k)⟩
  simp only [Database.entryByItem, h.needVersion, hu]
  rfl

/-- The lookup of a provider's key in twin stores, the first holding each key once, finds twin
items: at most one item has the key, so creation times decide nothing. -/
theorem itemByProvider (hd : a.Deduplicated) {p q : String} {rb : Option Item}
    (hb : b.itemByProvider p q = .ok rb) :
    ∃ ra, a.itemByProvider p q = .ok ra ∧ ra.map Item.unstamped = rb.map Item.unstamped := by
  simp only [Database.itemByProvider, Sql.bind_eq_ok, Sql.pure_eq_ok] at hb
  obtain ⟨u, hu, rfl⟩ := hb
  have hkeyed : (a.items.filter fun i => i.provider == some p && i.providerId == some q).map
      Item.unstamped = (b.items.filter fun i => i.provider == some p && i.providerId == some q).map
      Item.unstamped :=
    filter_comp_eq_of_map_eq h.items fun i => i.provider == some p && i.providerId == some q
  have hla := hd.providerKey_length_le p q
  have hlb : (b.items.filter fun i => i.provider == some p && i.providerId == some q).length ≤ 1 := by
    have hlen := congrArg List.length hkeyed
    simp only [List.length_map] at hlen
    exact hlen ▸ hla
  refine ⟨oldest (·.createdAt) (·.id)
    (a.items.filter fun i => i.provider == some p && i.providerId == some q), ?_, ?_⟩
  · simp only [Database.itemByProvider, h.needVersion, hu]
    rfl
  · rw [oldest_of_length_le_one hla, oldest_of_length_le_one hlb, ← List.head?_map,
      ← List.head?_map]
    exact congrArg List.head? hkeyed

/-! ### Writes -/

theorem insertItem {ia ib : Item} (hi : ia.unstamped = ib.unstamped) {b' : Database}
    (hb : b.insertItem ib = .ok b') :
    ∃ a', a.insertItem ia = .ok a' ∧ a'.Twins b' ∧ a'.frame = a.frame ∧ a'.counter = a.counter := by
  have hid : ia.id = ib.id := by simpa using congrArg Item.id hi
  obtain rfl := insertItem_ok hb
  refine ⟨{ a with items := a.items ++ [ia] }, ?_, ⟨by simp [h.items, hi], h.entries, h.seen, h.frame⟩,
    rfl, rfl⟩
  unfold Database.insertItem at hb ⊢
  rw [h.needVersionForInsert, h.fire, h.any_item_id, hid]
  -- the checks are the second store's, which passed
  revert hb
  rcases b.needVersionForInsert .items with _ | ⟨⟩ <;>
    rcases b.fire .insert .items true with _ | ⟨⟩ <;>
    cases b.items.any (·.id == ib.id) <;> intro hb <;> first | rfl | cases hb

theorem updateItem {ia ib : Item} (hi : ia.unstamped = ib.unstamped) {b' : Database}
    (hb : b.updateItem ib = .ok b') :
    ∃ a', a.updateItem ia = .ok a' ∧ a'.Twins b' ∧ a'.frame = a.frame ∧ a'.counter = a.counter := by
  have hid : ia.id = ib.id := by simpa using congrArg Item.id hi
  obtain rfl := updateItem_ok hb
  have hitems : (replaceById (·.id) ia a.items).map Item.unstamped =
      (replaceById (·.id) ib b.items).map Item.unstamped := by
    rw [map_unstamped_replaceById, map_unstamped_replaceById, h.items, hi, hid]
  refine ⟨{ a with items := replaceById (·.id) ia a.items }, ?_,
    ⟨hitems, h.entries, h.seen, h.frame⟩, rfl, rfl⟩
  unfold Database.updateItem at hb ⊢
  rw [h.needVersion, h.fire, h.any_item_id, hid]
  revert hb
  rcases b.needVersion .items with _ | ⟨⟩ <;>
    rcases b.fire .update .items (b.items.any (·.id == ib.id)) with _ | ⟨⟩ <;>
    intro hb <;> first | rfl | cases hb

theorem insertEntry {ea eb : Entry} (he : ea.unstamped = eb.unstamped) {b' : Database}
    (hb : b.insertEntry eb = .ok b') :
    ∃ a', a.insertEntry ea = .ok a' ∧ a'.Twins b' ∧ a'.frame = a.frame ∧ a'.counter = a.counter := by
  have hid : ea.id = eb.id := by simpa using congrArg Entry.id he
  have hitem : ea.itemId = eb.itemId := by simpa using congrArg Entry.itemId he
  obtain rfl := insertEntry_ok hb
  refine ⟨{ a with entries := a.entries ++ [ea] }, ?_,
    ⟨h.items, by simp [h.entries, he], h.seen, h.frame⟩, rfl, rfl⟩
  unfold Database.insertEntry at hb ⊢
  rw [h.needVersionForInsert, h.fire, h.any_entry_id, h.any_entry_itemId, h.has, h.any_item_id,
    hid, hitem]
  revert hb
  rcases b.needVersionForInsert .entries with _ | ⟨⟩ <;>
    rcases b.fire .insert .entries true with _ | ⟨⟩ <;>
    cases b.entries.any (·.id == eb.id) <;> cases b.entries.any (·.itemId == eb.itemId) <;>
    cases b.has .items <;> cases b.items.any (·.id == eb.itemId) <;>
    intro hb <;> first | rfl | cases hb

theorem markSeen {ma mb : SeenMark} (hm : ma.unstamped = mb.unstamped) {b' : Database}
    (hb : b.markSeen mb = .ok b') :
    ∃ a', a.markSeen ma = .ok a' ∧ a'.Twins b' ∧ a'.frame = a.frame ∧ a'.counter = a.counter := by
  have hsrc : ma.sourceId = mb.sourceId := by simpa using congrArg SeenMark.sourceId hm
  have hpid : ma.providerItemId = mb.providerItemId := by
    simpa using congrArg SeenMark.providerItemId hm
  have hknown : a.sources.any (·.id == ma.sourceId) = b.sources.any (·.id == mb.sourceId) := by
    rw [h.sources, hsrc]
  unfold Database.markSeen at hb ⊢
  rw [h.need, h.fire, h.any_seen, h.has, hknown, hsrc, hpid]
  revert hb
  rcases b.need .seen with _ | ⟨⟩ <;> rcases b.fire .insert .seen true with _ | ⟨⟩ <;>
    cases b.seen.any (fun r => r.sourceId == mb.sourceId && r.providerItemId == mb.providerItemId) <;>
    cases b.has .sources <;> cases b.sources.any (·.id == mb.sourceId) <;>
    intro hb <;> cases hb
  -- the mark was there in both stores, or is added to both
  all_goals first
    | exact ⟨a, rfl, h, rfl, rfl⟩
    | exact ⟨_, rfl, ⟨h.items, h.entries, by simp [h.seen, hm], h.frame⟩, rfl, rfl⟩

end Twins

end Store.Database

/-! ## Paired states -/

/-- A state whose ticket can hand out a version: the counter is there and holds a value, which
the ticket holds too once it has read it. -/
def Store.TxnState.Ready (s : TxnState) : Prop :=
  s.db.has .counter = true ∧
    ∃ c, s.db.counter = some c ∧ (s.ticket.current = none ∨ s.ticket.current = some c)

/-- A ready state's ticket holds the counter's value once loaded. -/
theorem Store.Txn.loadTicket_of_ready {s : TxnState} {amb : Ambient} {c : Int}
    (hhas : s.db.has .counter = true) (hc : s.db.counter = some c)
    (ht : s.ticket.current = none ∨ s.ticket.current = some c) :
    Txn.loadTicket.exec s amb =
      (.ok (c, { s with ticket := { s.ticket with current := some c } }), amb) := by
  rcases ht with ht | ht
  · -- the first request reads the counter into the ticket
    have hread : s.db.counterValue = .ok (some c) := by
      simp only [Database.counterValue, Database.need, hhas, hc]
      rfl
    simp only [Txn.loadTicket, Txn.currentVersion, Txn.exec_bind, Txn.exec_get, ht, Txn.exec_read,
      hread, Txn.exec_modify, Txn.exec_pure]
  · simp only [Txn.loadTicket, Txn.exec_bind, Txn.exec_get, ht, Txn.exec_pure]
    rw [← ht]

/-- A ready state hands out the counter's value plus one. -/
theorem Store.Txn.nextVersion_of_ready {s : TxnState} {amb : Ambient} {c : Int}
    (hhas : s.db.has .counter = true) (hc : s.db.counter = some c)
    (ht : s.ticket.current = none ∨ s.ticket.current = some c) :
    Txn.nextVersion.exec s amb = (.ok (c + 1, { s with ticket := ⟨some c, true⟩ }), amb) := by
  simp only [Txn.nextVersion, Txn.exec_bind, Txn.loadTicket_of_ready hhas hc ht, Txn.exec_modify,
    Txn.exec_pure]

/-- A read that succeeds leaves the state and the ambient services as they were. -/
theorem Store.Txn.read_ok {α : Type} {context : String} {f : Database → Sql α} {s s' : TxnState}
    {amb amb' : Ambient} {a : α} (h : (Txn.read context f).exec s amb = (.ok (a, s'), amb')) :
    f s.db = .ok a ∧ s' = s ∧ amb' = amb := by
  rw [Txn.exec_read] at h
  rcases hf : f s.db with _ | a₀ <;> rw [hf] at h
  · cases h
  simp only [Prod.mk.injEq, Except.ok.injEq] at h
  obtain ⟨⟨rfl, rfl⟩, rfl⟩ := h
  exact ⟨rfl, rfl, rfl⟩

/-- A write that succeeds leaves the store it wrote, the ticket and the ambient services. -/
theorem Store.Txn.write_ok {context : String} {f : Database → Sql Database} {s s' : TxnState}
    {amb amb' : Ambient} {u : PUnit} (h : (Txn.write context f).exec s amb = (.ok (u, s'), amb')) :
    f s.db = .ok s'.db ∧ s'.ticket = s.ticket ∧ amb' = amb := by
  rw [Txn.exec_write] at h
  rcases hf : f s.db with _ | db <;> rw [hf] at h
  · cases h
  simp only [Prod.mk.injEq, Except.ok.injEq] at h
  obtain ⟨⟨-, rfl⟩, rfl⟩ := h
  exact ⟨rfl, rfl, rfl⟩

namespace Ingest

/-- States of two takes of a batch: twin stores, the first able to hand out a version, and the
first's ticket used only if the second's is. -/
structure Paired (sa sb : TxnState) : Prop where
  db : sa.db.Twins sb.db
  ready : sa.Ready
  used : sa.ticket.used = true → sb.ticket.used = true

variable {α β γ δ : Type}

/-- Two transactions in lockstep from paired states whose first satisfies `P`: whenever the
second succeeds, so does the first, with a result related by `R`, paired states after and as
many ids issued. -/
def Lockstep (P : TxnState → Prop) (R : α → β → Prop) (ta : Txn α) (tb : Txn β) : Prop :=
  ∀ ⦃sa sb : TxnState⦄ ⦃ambA ambB : Ambient⦄ ⦃b : β⦄ ⦃sb' : TxnState⦄ ⦃ambB' : Ambient⦄,
    Paired sa sb → P sa → ambA.issued = ambB.issued → tb.exec sb ambB = (.ok (b, sb'), ambB') →
    ∃ a sa' ambA', ta.exec sa ambA = (.ok (a, sa'), ambA') ∧ R a b ∧ Paired sa' sb' ∧
      ambA'.issued = ambB'.issued

namespace Lockstep

variable {P Q : TxnState → Prop} {R : α → β → Prop} {S : γ → δ → Prop}

theorem pure {a : α} {b : β} (h : R a b) : Lockstep P R (pure a) (pure b) := by
  intro sa sb ambA ambB b' sb' ambB' hp _ hi hb
  simp only [Txn.exec_pure, Prod.mk.injEq, Except.ok.injEq] at hb
  obtain ⟨⟨rfl, rfl⟩, rfl⟩ := hb
  exact ⟨a, sa, ambA, rfl, h, hp, hi⟩

/-- Lockstep composes: the first transactions in lockstep, and the continuations in lockstep for
related results, from states the first transaction of the first take leaves satisfying `Q`. -/
theorem bind {ta : Txn α} {tb : Txn β} {fa : α → Txn γ} {fb : β → Txn δ}
    (h : Lockstep P R ta tb)
    (hQ : ∀ ⦃s amb a s' amb'⦄, P s → ta.exec s amb = (.ok (a, s'), amb') → Q s')
    (hf : ∀ a b, R a b → Lockstep Q S (fa a) (fb b)) : Lockstep P S (ta >>= fa) (tb >>= fb) := by
  intro sa sb ambA ambB c sb'' ambB'' hp hP hi hb
  rw [Txn.exec_bind] at hb ⊢
  rcases hb₁ : tb.exec sb ambB with ⟨_ | ⟨b, sb'⟩, ambB'⟩ <;> rw [hb₁] at hb
  · cases hb
  obtain ⟨a, sa', ambA', ha₁, hR, hp', hi'⟩ := h hp hP hi hb₁
  rw [ha₁]
  exact hf a b hR hp' (hQ hP ha₁) hi' hb

/-- A composition through an invariant of the first take that its first transaction keeps. -/
theorem bind_keep {ta : Txn α} {tb : Txn β} {fa : α → Txn γ} {fb : β → Txn δ}
    (h : Lockstep P R ta tb)
    (hP : ∀ ⦃s amb a s' amb'⦄, P s → ta.exec s amb = (.ok (a, s'), amb') → P s')
    (hf : ∀ a b, R a b → Lockstep P S (fa a) (fb b)) : Lockstep P S (ta >>= fa) (tb >>= fb) :=
  bind h hP hf

/-- A composition whose continuations need nothing of the first take's state. -/
theorem bind_any {ta : Txn α} {tb : Txn β} {fa : α → Txn γ} {fb : β → Txn δ}
    (h : Lockstep P R ta tb) (hf : ∀ a b, R a b → Lockstep (fun _ => True) S (fa a) (fb b)) :
    Lockstep P S (ta >>= fa) (tb >>= fb) :=
  bind h (fun _ _ _ _ _ _ _ => trivial) hf

/-- Reads in lockstep: a read of the second store that succeeds has a related read of the
first. -/
theorem read {fa : Database → Sql α} {fb : Database → Sql β} (context : String)
    (h : ∀ ⦃sa sb : TxnState⦄ ⦃b : β⦄, Paired sa sb → P sa → fb sb.db = .ok b →
      ∃ a, fa sa.db = .ok a ∧ R a b) :
    Lockstep P R (Txn.read context fa) (Txn.read context fb) := by
  intro sa sb ambA ambB b sb' ambB' hp hP hi hb
  rw [Txn.exec_read] at hb ⊢
  rcases hfb : fb sb.db with _ | b₀ <;> rw [hfb] at hb
  · cases hb
  simp only [Prod.mk.injEq, Except.ok.injEq] at hb
  obtain ⟨⟨rfl, rfl⟩, rfl⟩ := hb
  obtain ⟨a, ha, hR⟩ := h hp hP hfb
  rw [ha]
  exact ⟨a, sa, ambA, rfl, hR, hp, hi⟩

/-- Writes in lockstep: a write of the second store that succeeds has a write of the first that
leaves a twin and changes only the rows of a batch. -/
theorem write {fa fb : Database → Sql Database} (context : String)
    (h : ∀ ⦃sa sb : TxnState⦄ ⦃db' : Database⦄, Paired sa sb → P sa → fb sb.db = .ok db' →
      ∃ da', fa sa.db = .ok da' ∧ da'.Twins db' ∧ da'.frame = sa.db.frame ∧
        da'.counter = sa.db.counter) :
    Lockstep P (fun _ _ => True) (Txn.write context fa) (Txn.write context fb) := by
  intro sa sb ambA ambB u sb' ambB' hp hP hi hb
  rw [Txn.exec_write] at hb ⊢
  rcases hfb : fb sb.db with _ | db' <;> rw [hfb] at hb
  · cases hb
  simp only [Prod.mk.injEq, Except.ok.injEq] at hb
  obtain ⟨⟨-, rfl⟩, rfl⟩ := hb
  obtain ⟨da', ha, htw, hframe, hcounter⟩ := h hp hP hfb
  rw [ha]
  -- the counter and its table are as they were, and so is the ticket
  obtain ⟨hhas, c, hc, ht⟩ := hp.ready
  exact ⟨⟨⟩, _, ambA, rfl, trivial,
    ⟨htw, ⟨(Database.has_of_frame_eq hframe _).trans hhas, c, hcounter.trans hc, ht⟩, hp.used⟩, hi⟩

end Lockstep

theorem freshId_lockstep {P : TxnState → Prop} : Lockstep P Eq Txn.freshId Txn.freshId := by
  intro sa sb ambA ambB b sb' ambB' hp _ hi hb
  simp only [Txn.exec_freshId, Prod.mk.injEq, Except.ok.injEq] at hb
  obtain ⟨⟨rfl, rfl⟩, rfl⟩ := hb
  exact ⟨_, sa, _, Txn.exec_freshId, by rw [hi], hp, by simp [hi]⟩

/-- Both takes ask for a version: the first hands out its own, and both tickets are used. -/
theorem nextVersion_lockstep {P : TxnState → Prop} :
    Lockstep P (fun _ _ => True) Txn.nextVersion Txn.nextVersion := by
  intro sa sb ambA ambB v sb' ambB' hp _ hi hb
  obtain ⟨rfl, cb, -, rfl, -⟩ := Txn.nextVersion_ok hb
  obtain ⟨hhas, c, hc, ht⟩ := hp.ready
  exact ⟨c + 1, _, ambA, Txn.nextVersion_of_ready hhas hc ht, trivial,
    ⟨hp.db, ⟨hhas, c, hc, Or.inr rfl⟩, fun _ => rfl⟩, hi⟩

/-! ## The steps of a delivery -/

/-- A new item does not depend on its version and instant once the stamps are off. -/
theorem unstamped_newItem (id : String) (provider : Option String) (x : Incoming)
    (kind : Option ContentKind) (v v' : Int) (now now' : Instant) :
    (newItem id provider x kind v now).unstamped = (newItem id provider x kind v' now').unstamped :=
  rfl

/-- An item refreshed by a delivery and stamped is the item without stamps, refreshed. -/
theorem unstamped_refresh (i : Item) (x : Incoming) (kind : Option ContentKind) (v : Int)
    (now : Instant) :
    { i.refresh x kind with version := v, updatedAt := now }.unstamped =
      i.unstamped.refresh x kind :=
  rfl

theorem upsertByProvider_lockstep (provider : String) (x : Incoming) (kind : Option ContentKind)
    (vA vB : Int) (nowA nowB : Instant) :
    Lockstep (·.db.Deduplicated) (fun ia ib => ia.unstamped = ib.unstamped)
      (upsertByProvider provider x kind vA nowA) (upsertByProvider provider x kind vB nowB) := by
  unfold upsertByProvider
  refine Lockstep.bind_any (Lockstep.read _ fun sa sb rb hp hd hb => hp.db.itemByProvider hd hb :
    Lockstep _ (fun ra rb => ra.map Item.unstamped = rb.map Item.unstamped) _ _) ?_
  rintro (_ | oldA) (_ | oldB) hold <;>
    simp only [Option.map_none, Option.map_some, reduceCtorEq, Option.some.injEq] at hold
  · -- no item has the key: the same new item, under the same fresh id
    refine Lockstep.bind_any freshId_lockstep ?_
    rintro id _ rfl
    refine Lockstep.bind_any (Lockstep.write _ fun sa sb db' hp _ hb =>
      hp.db.insertItem (unstamped_newItem _ _ _ _ _ _ _ _) hb) ?_
    exact fun _ _ _ => Lockstep.pure (unstamped_newItem _ _ _ _ _ _ _ _)
  · -- the item found, refreshed and stamped by each take
    have hi : { oldA.refresh x kind with version := vA, updatedAt := nowA }.unstamped =
        { oldB.refresh x kind with version := vB, updatedAt := nowB }.unstamped := by
      rw [unstamped_refresh, unstamped_refresh, hold]
    refine Lockstep.bind_any (Lockstep.write _ fun sa sb db' hp _ hb => hp.db.updateItem hi hb) ?_
    exact fun _ _ _ => Lockstep.pure hi

/-- A new entry in the inbox does not depend on its version and instant once the stamps are
off. -/
theorem unstamped_inboxEntry (id itemId : String) (v v' : Int) (now now' : Instant) :
    Entry.unstamped { id, itemId, state := .inbox, ingestedAt := now, version := v } =
      Entry.unstamped { id, itemId, state := .inbox, ingestedAt := now', version := v' } :=
  rfl

/-- A delivery mark does not depend on its instant once the stamp is off. -/
theorem unstamped_mark (sourceId providerItemId : String) (now now' : Instant) :
    SeenMark.unstamped ⟨sourceId, providerItemId, now⟩ =
      SeenMark.unstamped ⟨sourceId, providerItemId, now'⟩ :=
  rfl

theorem ensureEntry_lockstep {P : TxnState → Prop} (itemId : String) (vA vB : Int)
    (nowA nowB : Instant) :
    Lockstep P (fun ea eb => ea.unstamped = eb.unstamped)
      (ensureEntry itemId vA nowA) (ensureEntry itemId vB nowB) := by
  unfold ensureEntry
  refine Lockstep.bind_any (Lockstep.read _ fun sa sb rb hp _ hb => hp.db.entryByItem hb :
    Lockstep _ (fun ra rb => ra.map Entry.unstamped = rb.map Entry.unstamped) _ _) ?_
  rintro (_ | ea) (_ | eb) hfound <;>
    simp only [Option.map_none, Option.map_some, reduceCtorEq, Option.some.injEq] at hfound
  · -- no entry for the item: a new one in the inbox, under the same fresh id
    refine Lockstep.bind_any freshId_lockstep ?_
    rintro id _ rfl
    have he := unstamped_inboxEntry id itemId vA vB nowA nowB
    refine Lockstep.bind_any (Lockstep.write _ fun sa sb db' hp _ hb => hp.db.insertEntry he hb) ?_
    exact fun _ _ _ => Lockstep.pure he
  · exact Lockstep.pure hfound

/-! ## A whole batch -/

attribute [local irreducible] Incoming.normalize in
/-- **Two takes of a batch go in lockstep**: from paired states, the first store holding each key
once, at any two instants, indices and tallies, whenever the second take succeeds the first
does too, and leaves paired states with as many ids issued. The induction is on the batch; each
delivery is a version, an item, a mark and an entry, taken in lockstep, and the first take's
store keeps each key once after each of them. -/
theorem takeItems_lockstep (src : Source) (nowA nowB : Instant) (items : List Incoming) :
    ∀ (iA iB : Nat) (tA tB : Tally), Lockstep (·.db.Deduplicated) (fun _ _ => True)
      (takeItems src nowA iA items tA) (takeItems src nowB iB items tB) := by
  induction items with
  | nil => exact fun _ _ _ _ => Lockstep.pure trivial
  | cons raw rest ih =>
    intro iA iB tA tB
    unfold takeItems
    rcases raw.normalize with p | ⟨x, kind⟩
    · -- a rejected item: both takes go on with the rest
      exact ih _ _ _ _
    refine Lockstep.bind_keep
      (Lockstep.read _ fun sa sb _ hp _ hb => ⟨_, (hp.db.wasSeen _ _).trans hb, rfl⟩ :
        Lockstep _ Eq _ _)
      (fun _ _ _ _ _ hd he => (Txn.read_ok he).2.1 ▸ hd) ?_
    rintro seen _ rfl
    cases seen
    · -- a new delivery: a version, its item, its mark and its entry
      refine Lockstep.bind_keep nextVersion_lockstep (fun _ _ _ _ _ hd he => by
        obtain ⟨-, c, -, rfl, -⟩ := Txn.nextVersion_ok he
        exact hd) ?_
      intro vA vB _
      refine Lockstep.bind_keep (upsertByProvider_lockstep _ _ _ _ _ _ _) (fun s _ _ _ _ hd he =>
        (Txn.of_triple (upsertByProvider_finds s.db _ _ _ _ _) (Database.Resolves.refl hd) he).1.unique)
        ?_
      intro ia ib hi
      have hid : ia.id = ib.id := by simpa using congrArg Item.id hi
      refine Lockstep.bind_keep (Lockstep.write _ fun sa sb db' hp _ hb =>
        hp.db.markSeen (unstamped_mark _ _ nowA nowB) hb) (fun _ _ _ _ _ hd he => by
          obtain ⟨hw, -, -⟩ := Txn.write_ok he
          exact ((Database.Resolves.refl hd).markSeen hw).unique) ?_
      intro _ _ _
      rw [hid]
      refine Lockstep.bind_keep (ensureEntry_lockstep _ _ _ _ _) (fun s _ _ _ _ hd he =>
        (Txn.of_triple (ensureEntry_finds s.db _ _ _) (Database.Resolves.refl hd) he).1.unique) ?_
      exact fun _ _ _ => ih _ _ _ _
    · -- a delivery already marked: both takes skip it
      exact ih _ _ _ _

end Ingest

end ReadLater
