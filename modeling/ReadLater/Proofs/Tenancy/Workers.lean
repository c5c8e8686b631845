import Mathlib
import ReadLater.Service

/-!
# What an operation of a user may change

The service runs each operation of a user on that user's store, through that user's worker. An
operation changes no other store and no other worker:

* `Disk.load_save`: a store saved at a path is what loading that path gives, and loading any
  other path gives what it gave before;
* `Hosting.Confines h h' u`: from `h` to `h'` the opener, the paths that cannot be opened and the
  registry's closing stayed, and so did every store file but the one the opener opens for `u`
  and every worker of another user; with no `u`, every store and every worker;
  `Confines.refl`, `Confines.trans`, `Confines.of_none`;
* `Hosting.wake_confines`, **`Hosting.perform_confines`**: waking a user's worker and running an
  operation of a user change that user's store and worker only;
* the service's operations (`Service.transact_confines`, `Service.ingest_confines`, …) do the
  same, and its log and counters change no store (`Service.log_confines`, …).
-/

namespace ReadLater

open Store

/-! ## Stores on disk -/

namespace Disk

/-- The entry of a path after a save: the saved store at its path, the old entry elsewhere. -/
theorem find?_save (d : Disk) (path p : String) (db : Database) :
    (d.save path db).stores.find? (·.1 == p) =
      if p = path then some (path, db) else d.stores.find? (·.1 == p) := by
  unfold save
  split
  · -- the store was there: it is replaced where it stood
    rename_i hany
    rw [List.find?_map]
    have hq : ((·.1 == p) ∘ fun e : String × Database =>
        if (e.1 == path) = true then (path, db) else e) =
        if p = path then (·.1 == path) else (·.1 == p) := by
      funext e
      by_cases hp : p = path <;> by_cases he : e.1 = path <;>
        simp only [Function.comp_apply, hp, he, beq_self_eq_true, ↓reduceIte, beq_iff_eq]
    rw [hq]
    by_cases hp : p = path
    · subst hp
      obtain ⟨e, he⟩ := Option.isSome_iff_exists.1 (List.find?_isSome.2 (List.any_eq_true.1 hany))
      have he₁ : e.1 = p := by simpa using List.find?_some he
      simp [he, he₁]
    · rw [if_neg hp, if_neg hp]
      cases hf : d.stores.find? (·.1 == p) with
      | none => rfl
      | some e =>
        have he₁ : e.1 = p := by simpa using List.find?_some hf
        simp [he₁, hp]
  · -- a new store goes after the others
    rename_i hany
    rw [List.find?_append]
    by_cases hp : p = path
    · subst hp
      have hnone : d.stores.find? (·.1 == p) = none :=
        List.find?_eq_none.2 fun e he h => hany (List.any_eq_true.2 ⟨e, he, h⟩)
      simp [hnone]
    · simp [hp, Ne.symm hp]

theorem load_save (d : Disk) (path p : String) (db : Database) :
    (d.save path db).load p = if p = path then db else d.load p := by
  unfold load
  rw [find?_save]
  by_cases hp : p = path <;> simp [hp]

@[simp] theorem save_blocked (d : Disk) (path : String) (db : Database) :
    (d.save path db).blocked = d.blocked := by
  unfold save
  split <;> rfl

end Disk

/-- Opening a store sees the disk only through the paths that cannot be opened. -/
theorem Opener.open_of_blocked (o : Opener) {d d' : Disk} (h : d'.blocked = d.blocked)
    (user : String) : o.open_ d' user = o.open_ d user := by
  cases o <;> simp [open_, h]

/-! ## What an operation keeps -/

namespace Hosting

/-- From `h` to `h'`, only the store and the worker of `u` may have changed: the opener, the
paths that cannot be opened and the registry's closing stay; every store file but the one the
opener opens for `u` stays; and every worker of another user stays registered, or absent. With
no `u`, every store and worker stays. -/
structure Confines (h h' : Hosting) (u : Option String) : Prop where
  opener : h'.opener = h.opener
  blocked : h'.disk.blocked = h.disk.blocked
  closed : h'.registry.closed = h.registry.closed
  stores : ∀ path, (∀ v ∈ u, h.opener.open_ h.disk v ≠ .ok path) →
    h'.disk.load path = h.disk.load path
  workers : ∀ w : Worker, (∀ v ∈ u, w.user ≠ v) →
    (w ∈ h'.registry.workers ↔ w ∈ h.registry.workers)

namespace Confines

variable {h₁ h₂ h₃ : Hosting} {u : Option String}

theorem refl (h : Hosting) (u : Option String) : Confines h h u :=
  ⟨rfl, rfl, rfl, fun _ _ => rfl, fun _ _ => Iff.rfl⟩

theorem trans (h₁₂ : Confines h₁ h₂ u) (h₂₃ : Confines h₂ h₃ u) : Confines h₁ h₃ u where
  opener := h₂₃.opener.trans h₁₂.opener
  blocked := h₂₃.blocked.trans h₁₂.blocked
  closed := h₂₃.closed.trans h₁₂.closed
  stores path hp := by
    -- the second step opens the files the first one did
    have hp₂ : ∀ v ∈ u, h₂.opener.open_ h₂.disk v ≠ .ok path := fun v hv => by
      rw [h₁₂.opener, Opener.open_of_blocked _ h₁₂.blocked]
      exact hp v hv
    rw [h₂₃.stores path hp₂, h₁₂.stores path hp]
  workers w hw := (h₂₃.workers w hw).trans (h₁₂.workers w hw)

/-- What keeps every store and worker keeps all but those of any user. -/
theorem of_none (h : Confines h₁ h₂ none) (u : Option String) : Confines h₁ h₂ u where
  opener := h.opener
  blocked := h.blocked
  closed := h.closed
  stores path _ := h.stores path fun _ hv => by cases hv
  workers w _ := h.workers w fun _ hv => by cases hv

end Confines

/-- The ambient services alone changed. -/
theorem ambient_confines (h : Hosting) (amb : Ambient) : Confines h { h with ambient := amb } none :=
  ⟨rfl, rfl, rfl, fun _ _ => rfl, fun _ _ => Iff.rfl⟩

theorem meter_confines (h : Hosting) (f : Metrics → Metrics) : Confines h (h.meter f) none := by
  unfold meter
  split
  · exact ambient_confines h _
  · exact Confines.refl h none

theorem withAmbient_confines {α : Type} (h : Hosting) (m : AmbientM α) :
    Confines h (h.withAmbient m).2 none :=
  ambient_confines h _

/-- The worker a user's operation gets is that user's. -/
theorem startWorker_user (h : Hosting) (user : String) : (h.startWorker user).1.user = user := by
  unfold startWorker
  split
  · rename_i w hw
    simpa using List.find?_some hw
  · rfl

theorem startWorker_confines (h : Hosting) (user : String) :
    Confines h (h.startWorker user).2 (some user) := by
  unfold startWorker
  split
  · exact Confines.refl h _
  · -- a new worker for the user, after the others
    have hnew : Confines h { h with registry := { h.registry with
        workers := h.registry.workers ++ [⟨user, false⟩] } } (some user) := by
      refine ⟨rfl, rfl, rfl, fun _ _ => rfl, fun w hw => ?_⟩
      have hne : w.user ≠ user := hw user rfl
      simp only [List.mem_append, List.mem_singleton]
      constructor
      · rintro (hw' | rfl)
        · exact hw'
        · exact absurd rfl hne
      · exact Or.inl
    dsimp only
    exact hnew.trans ((meter_confines _ _).of_none _)

theorem markReady_confines (h : Hosting) (user : String) :
    Confines h (h.markReady user) (some user) := by
  refine ⟨rfl, rfl, rfl, fun _ _ => rfl, fun w hw => ?_⟩
  have hne : w.user ≠ user := hw user rfl
  simp only [markReady, List.mem_map]
  constructor
  · rintro ⟨x, hx, hxw⟩
    split at hxw
    · -- the user's worker, marked ready, is still the user's
      rename_i hxu
      rw [← hxw] at hne
      exact absurd (beq_iff_eq.1 hxu) hne
    · exact hxw ▸ hx
  · intro hw'
    exact ⟨w, hw', by simp [hne]⟩

/-- Saving the store at the path the opener opens for a user changes that store only. -/
theorem save_confines {h : Hosting} {user path : String}
    (hpath : h.opener.open_ h.disk user = .ok path) (db : Database) (amb : Ambient) :
    Confines h { h with disk := h.disk.save path db, ambient := amb } (some user) where
  opener := rfl
  blocked := Disk.save_blocked _ _ _
  closed := rfl
  stores p hp := by
    have hne : p ≠ path := fun he => hp user rfl (he ▸ hpath)
    simp [Disk.load_save, hne]
  workers _ _ := Iff.rfl

/-- Waking a user's worker opens and updates that user's store only. -/
theorem wake_confines (h : Hosting) (w : Worker) : Confines h (h.wake w).2 (some w.user) := by
  unfold wake
  split
  · exact Confines.refl h _
  rename_i path hpath
  split
  · exact Confines.refl h _
  -- the store brought up to date and saved, then counters and log, and the worker marked ready
  rcases hrun : ((ensureSchema w.user).run (h.disk.load path)).run h.ambient with
    ⟨⟨⟨n, failure⟩, db⟩, amb⟩
  cases failure with
  | some f =>
    dsimp only
    exact ((save_confines hpath db amb).trans ((meter_confines _ _).of_none _)).trans
      ((withAmbient_confines _ _).of_none _)
  | none =>
    dsimp only
    exact (((save_confines hpath db amb).trans ((meter_confines _ _).of_none _)).trans
      ((withAmbient_confines _ _).of_none _)).trans (markReady_confines _ _)

/-- A woken worker's store is at the path the opener opens for its user. -/
theorem wake_opened {h : Hosting} {w : Worker} {path : String} :
    (h.wake w).1 = .ok path → h.opener.open_ h.disk w.user = .ok path := by
  unfold wake
  split
  · intro hw
    cases hw
  rename_i p hp
  split
  · intro hw
    cases hw
    exact hp
  rcases ((ensureSchema w.user).run (h.disk.load p)).run h.ambient with
    ⟨⟨⟨n, failure⟩, db⟩, amb⟩
  cases failure with
  | some f =>
    intro hw
    cases hw
  | none =>
    intro hw
    cases hw
    exact hp

/-- **An operation of a user changes that user's store and worker only.** -/
theorem perform_confines {α : Type} (h : Hosting) (op user : String) (work : Work α) :
    Confines h (h.perform op user work).2 (some user) := by
  unfold perform
  split
  · exact Confines.refl h _
  -- the user's worker, started and woken, runs the work on the user's store
  rcases hs : h.startWorker user with ⟨w, h₁⟩
  have hw : w.user = user := by rw [← startWorker_user h user, hs]
  have h₀₁ : Confines h h₁ (some user) := by
    have := startWorker_confines h user
    rwa [hs] at this
  have h₁₂ : Confines h₁ (h₁.wake w).2 (some user) := by
    have := wake_confines h₁ w
    rwa [hw] at this
  dsimp only
  split
  · dsimp only
    exact (h₀₁.trans h₁₂).trans ((meter_confines _ _).of_none _)
  · rename_i path hopen
    -- the path the worker opened is the one the opener opens for the user
    have hpath : (h₁.wake w).2.opener.open_ (h₁.wake w).2.disk user = .ok path := by
      rw [h₁₂.opener, Opener.open_of_blocked _ h₁₂.blocked, ← hw]
      exact wake_opened hopen
    exact ((h₀₁.trans h₁₂).trans (save_confines hpath _ _)).trans ((meter_confines _ _).of_none _)

end Hosting

/-! ## The service's operations -/

namespace Service

variable (s : Service)

theorem perform_confines {α : Type} (op user : String) (work : Work α) :
    s.hosting.Confines (s.perform op user work).2.hosting (some user) :=
  Hosting.perform_confines s.hosting op user work

theorem transact_confines {α : Type} (op user : String) (t : Txn α) :
    s.hosting.Confines (s.transact op user t).2.hosting (some user) :=
  s.perform_confines op user _

theorem meter_confines (f : Metrics → Metrics) : s.hosting.Confines (s.meter f).hosting none :=
  Hosting.meter_confines _ _

/-- A batch's counts go to the metrics after its transaction. -/
theorem ingest_confines (user sourceId : String) (items : List Incoming) :
    s.hosting.Confines (s.ingest user sourceId items).2.hosting (some user) := by
  unfold ingest
  have ht := s.transact_confines "ingest" user
    (Ingest.ingest s.settings.maxIngestBatch sourceId items)
  dsimp only
  split
  · dsimp only
    exact ht.trans ((meter_confines _ _).of_none _)
  · exact ht

theorem log_confines (level : LogLevel) (message : String) (attrs : List (String × Json)) :
    s.hosting.Confines (s.log level message attrs).hosting none := by
  unfold log
  dsimp only
  exact Hosting.withAmbient_confines _ _

theorem count_confines (f : Metrics → Metrics) : s.hosting.Confines (s.count f).hosting none :=
  Hosting.ambient_confines _ _

end Service

end ReadLater
