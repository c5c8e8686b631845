import Mathlib
import ReadLater.Proofs.Ingest.Runs

/-!
# The profile as a fold of identity events

A user's profile follows the identity provider's events. An event that reports a user created or
updated carries display fields, trimmed as the profile keeps them; any other event is ignored.
Each event is applied by itself, in one transaction that draws a version only when it writes.
This module proves that the profile is the fold of the events' display fields.

* `IdentityData.after` and `IdentityData.changes`: the fold of display fields, and which events of
  a sequence change the profile; `IdentityData.after_eq_last`: the fold ends with the fields of the
  last event that carries some;
* `Database.ServesProfiles`: a store that events can be applied to, as every new store whose
  schema came up is (`newStore_servesProfiles`);
* `IdentityEvent.work_ignored`, `work_unchanged`, `work_written`: what one event does, case by
  case, and `IdentityEvent.work_folds`: it is one step of the fold (`IdentityEvent.Folds`);
* `IdentityEvent.applyEach_folded`: a run of events is the fold (`IdentityEvent.Folded`), and
  `IdentityEvent.run_identity`: that run is the one the service makes of them as operations;
* **`profile_folds_identity_events`**: the profile shows the last carried fields, exists once some
  event carried fields, keeps the creation time of its first write, and moves the version once per
  event that changes it; ignored and repeated events change nothing.
-/

namespace ReadLater

open Clock Store

deriving instance DecidableEq for IdentityData

/-! ## The fold of display fields -/

namespace IdentityEvent

/-- Whether an event carries display fields: it reports a user created or updated. -/
def Carries (ev : IdentityEvent) : Prop := ev.kind = "user.created" ∨ ev.kind = "user.updated"

instance (ev : IdentityEvent) : Decidable ev.Carries := inferInstanceAs (Decidable (_ ∨ _))

/-- The display fields an event reports, trimmed as a profile keeps them. -/
def fields (ev : IdentityEvent) : IdentityData :=
  ⟨Text.trim ev.data.email, Text.trim ev.data.firstName, Text.trim ev.data.lastName,
    Text.trim ev.data.imageUrl⟩

/-- The display fields a profile shows after an event, from those it showed before. -/
def shown (ev : IdentityEvent) (cur : Option IdentityData) : Option IdentityData :=
  if ev.Carries then some ev.fields else cur

/-- Whether an event changes a profile that shows `cur`: it carries display fields, and there is
no profile yet or it shows other ones. -/
def Changes (ev : IdentityEvent) (cur : Option IdentityData) : Prop :=
  ev.Carries ∧ cur ≠ some ev.fields

instance (ev : IdentityEvent) (cur : Option IdentityData) : Decidable (ev.Changes cur) :=
  inferInstanceAs (Decidable (_ ∧ _))

theorem carries_iff (ev : IdentityEvent) :
    (ev.kind == "user.created" || ev.kind == "user.updated") = true ↔ ev.Carries := by
  simp [Carries]

end IdentityEvent

namespace IdentityData

/-- The display fields a profile shows after a sequence of events. -/
def after : Option IdentityData → List IdentityEvent → Option IdentityData
  | cur, [] => cur
  | cur, ev :: evs => after (ev.shown cur) evs

/-- For each event of a sequence, whether it changes the profile. -/
def changes : Option IdentityData → List IdentityEvent → List Bool
  | _, [] => []
  | cur, ev :: evs => decide (ev.Changes cur) :: changes (ev.shown cur) evs

/-- A user created, reported again with a trailing blank, a session, then a new last name: the
first and the last change the profile. -/
example : changes none [⟨"user.created", ⟨"a@example.com", "Ada", "", ""⟩⟩,
    ⟨"user.updated", ⟨"a@example.com ", "Ada", "", ""⟩⟩, ⟨"session.created", {}⟩,
    ⟨"user.updated", ⟨"a@example.com", "Ada", "Lovelace", ""⟩⟩] =
      [true, false, false, true] := by
  decide +kernel

/-- The fold ends with the fields of the last event that carries some. -/
theorem after_eq_last (cur : Option IdentityData) (evs : List IdentityEvent) :
    after cur evs =
      ((evs.filter (fun ev => decide ev.Carries)).getLast?.map (·.fields)).or cur := by
  induction evs generalizing cur with
  | nil => rfl
  | cons ev evs ih =>
    rw [after, ih]
    by_cases hc : ev.Carries
    · simp only [IdentityEvent.shown, hc, ↓reduceIte, List.filter_cons, decide_true,
        List.getLast?_cons]
      cases (evs.filter (fun ev => decide ev.Carries)).getLast? <;> rfl
    · simp [IdentityEvent.shown, hc]

theorem after_isSome_iff (cur : Option IdentityData) (evs : List IdentityEvent) :
    (after cur evs).isSome ↔ cur.isSome ∨ ∃ ev ∈ evs, ev.Carries := by
  induction evs generalizing cur with
  | nil => simp [after]
  | cons ev evs ih =>
    rw [after, ih]
    by_cases hc : ev.Carries <;> simp [IdentityEvent.shown, hc]

/-- Events that carry no display fields leave the fold where it was. -/
theorem after_of_forall_not_carries {evs : List IdentityEvent} (h : ∀ ev ∈ evs, ¬ev.Carries)
    (cur : Option IdentityData) : after cur evs = cur := by
  induction evs with
  | nil => rfl
  | cons ev evs ih =>
    rw [List.forall_mem_cons] at h
    rw [after, IdentityEvent.shown, if_neg h.1, ih h.2]

end IdentityData

/-- An event never changes the profile it has just shaped. -/
theorem IdentityEvent.not_changes_shown (ev : IdentityEvent) (cur : Option IdentityData) :
    ¬ev.Changes (ev.shown cur) := by
  rintro ⟨hc, hne⟩
  exact hne (if_pos hc)

/-! ## The profile in a store -/

/-- The display fields of a profile. -/
def Profile.display (p : Profile) : IdentityData :=
  ⟨p.email, p.firstName, p.lastName, p.imageUrl⟩

@[simp] theorem Profile.display_mk (id email firstName lastName imageUrl : String) (version : Int)
    (createdAt updatedAt : Instant) :
    (Profile.mk id email firstName lastName imageUrl version createdAt updatedAt).display =
      ⟨email, firstName, lastName, imageUrl⟩ := rfl

theorem Profile.sameDisplay_iff (a b : Profile) :
    a.sameDisplay b = true ↔ a.display = b.display := by
  simp [sameDisplay, display, and_assoc]

namespace Store.Database

/-- The user's profile in a store. -/
def profileRow (d : Database) (user : String) : Option Profile := d.profiles.find? (·.id == user)

/-- The display fields that the user's profile shows, if there is one. -/
def shown (d : Database) (user : String) : Option IdentityData :=
  (d.profileRow user).map (·.display)

/-- When the user's profile was created, if there is one. -/
def created (d : Database) (user : String) : Option Instant :=
  (d.profileRow user).map (·.createdAt)

/-- A store that identity events can be applied to: the profile table with its version column,
the counter set up, and no trigger that refuses to write a profile or move the counter. -/
structure ServesProfiles (d : Database) : Prop where
  profile : d.has .profile = true
  profileVersioned : d.versioned.contains .profile = true
  counter : d.has .counter = true
  seeded : d.counter.isSome = true
  insertProfile : d.fire .insert .profile true = .ok ()
  updateProfile : d.fire .update .profile true = .ok ()
  advanceCounter : d.fire .update .counter true = .ok ()

/-- The store with a profile written under its id: it replaces the profile of that id, or is
added when there is none. -/
def withProfile (d : Database) (p : Profile) : Database :=
  { d with profiles := if (d.profileRow p.id).isSome then replaceById (·.id) p d.profiles
      else d.profiles ++ [p] }

/-- The store apart from its profiles and its counter. -/
def withoutProfiles (d : Database) : Database := { d with profiles := [], counter := none }

theorem profileRow_id {d : Database} {user : String} {p : Profile}
    (h : d.profileRow user = some p) : p.id = user := by
  simpa using List.find?_some h

theorem shown_eq_none_iff {d : Database} {user : String} :
    d.shown user = none ↔ d.profileRow user = none := by
  simp [shown]

theorem shown_isSome {d : Database} {user : String} :
    (d.shown user).isSome = (d.profileRow user).isSome := by
  simp [shown]

theorem created_eq_none_iff {d : Database} {user : String} :
    d.created user = none ↔ d.profileRow user = none := by
  simp [created]

theorem profileRow_withProfile (d : Database) (p : Profile) :
    (d.withProfile p).profileRow p.id = some p := by
  unfold withProfile profileRow
  rcases h : d.profiles.find? (·.id == p.id) with _ | q
  · simp [h, List.find?_append]
  · have hq := List.find?_some h
    have hany : d.profiles.any (·.id == p.id) :=
      List.any_eq_true.2 ⟨q, List.mem_of_find?_eq_some h, hq⟩
    simp only [h, Option.isSome_some, ↓reduceIte]
    exact find?_replaceById_self hany

theorem filter_replaceById {α : Type} (id : α → String) (row : α) (rows : List α) :
    (replaceById id row rows).filter (id · != id row) = rows.filter (id · != id row) := by
  induction rows with
  | nil => rfl
  | cons r rows ih =>
    simp only [replaceById, List.map_cons] at ih ⊢
    by_cases hr : id r = id row <;> simp_all

theorem filter_withProfile (d : Database) (p : Profile) :
    (d.withProfile p).profiles.filter (·.id != p.id) = d.profiles.filter (·.id != p.id) := by
  unfold withProfile
  split
  · exact filter_replaceById (·.id) p d.profiles
  · simp

@[simp] theorem withoutProfiles_withProfile (d : Database) (p : Profile) :
    (d.withProfile p).withoutProfiles = d.withoutProfiles := rfl

@[simp] theorem withProfile_has (d : Database) (p : Profile) (t : Table) :
    (d.withProfile p).has t = d.has t := rfl

@[simp] theorem withProfile_counter (d : Database) (p : Profile) :
    (d.withProfile p).counter = d.counter := rfl

@[simp] theorem withProfile_fire (d : Database) (p : Profile) (e : Event) (t : Table) (b : Bool) :
    (d.withProfile p).fire e t b = d.fire e t b := rfl

namespace ServesProfiles

variable {d : Database} (hd : d.ServesProfiles)
include hd

theorem profileVersioned_mem : Table.profile ∈ d.versioned := by
  simpa using hd.profileVersioned

theorem profileOf (user : String) : d.profileOf user = .ok (d.profileRow user) := by
  simp [Database.profileOf, needVersion, need, hd.profile, hd.profileVersioned_mem, profileRow]

/-- Writing a profile keeps the creation time of the one it replaces. -/
theorem upsertProfile (p : Profile) :
    d.upsertProfile p =
      .ok (d.withProfile { p with createdAt := (d.created p.id).getD p.createdAt }) := by
  unfold withProfile created profileRow
  rcases h : d.profiles.find? (·.id == p.id) with _ | old <;>
    simp only [Database.upsertProfile, needVersionForInsert, need, hd.profile, hd.profileVersioned,
      hd.insertProfile, hd.updateProfile, h, ↓reduceIte] <;> rfl

/-- Serving profiles depends only on the schema, the triggers and the counter being set. -/
theorem of_schema {d' : Database} (htables : d'.tables = d.tables)
    (hversioned : d'.versioned = d.versioned) (htriggers : d'.triggers = d.triggers)
    (hseeded : d'.counter.isSome = true) : d'.ServesProfiles := by
  obtain ⟨hp, hv, hc, -, hi, hu, ha⟩ := hd
  refine ⟨?_, ?_, ?_, hseeded, ?_, ?_, ?_⟩ <;>
    simp only [Database.has, Database.fire, htables, hversioned, htriggers] at * <;> assumption

end ServesProfiles

end Store.Database

/-! ## The version ticket of one transaction -/

namespace Store.Txn

variable {db : Database} {amb : Ambient} {c : Int}

theorem nextVersion_fresh (hhas : db.has .counter = true) (hc : db.counter = some c) :
    Txn.nextVersion.exec ⟨db, {}⟩ amb = (.ok (c + 1, ⟨db, ⟨some c, true⟩⟩), amb) :=
  Txn.nextVersion_of_ready (s := ⟨db, {}⟩) hhas hc (Or.inl rfl)

/-- A commit whose ticket no write drew leaves the counter where it was. -/
theorem commitVersion_fresh (hhas : db.has .counter = true) (hc : db.counter = some c) :
    Txn.commitVersion.exec ⟨db, {}⟩ amb = (.ok (c, ⟨db, ⟨some c, false⟩⟩), amb) := by
  simp only [Txn.commitVersion, Txn.exec_bind, Txn.loadTicket_of_ready (s := ⟨db, {}⟩) hhas hc
    (Or.inl rfl), Txn.exec_get, Bool.not_false, ↓reduceIte, Txn.exec_pure]

/-- A commit whose ticket a write drew moves the counter one step. -/
theorem commitVersion_drawn (hhas : db.has .counter = true) (hc : db.counter = some c)
    (hfire : db.fire .update .counter true = .ok ()) :
    Txn.commitVersion.exec ⟨db, ⟨some c, true⟩⟩ amb =
      (.ok (c + 1, ⟨{ db with counter := some (c + 1) }, ⟨some c, true⟩⟩), amb) := by
  simp only [Txn.commitVersion, Txn.exec_bind,
    Txn.loadTicket_of_ready (s := ⟨db, ⟨some c, true⟩⟩) hhas hc (Or.inr rfl), Txn.exec_get,
    Bool.not_true, Bool.false_eq_true, ↓reduceIte,
    Txn.exec_advanceVersion, if_neg (show ¬ c + 1 ≤ c by omega),
    Database.advanceCounter_of_fire hhas hc hfire, Txn.exec_pure]

end Store.Txn

/-! ## One event -/

namespace IdentityEvent

/-- An event applied to a user's store as the service applies it, by itself: one transaction that
commits the version its write draws. -/
def work (user : String) (ev : IdentityEvent) : Work (Option Profile × Bool) :=
  Work.atomically do
    let (r, _) ← Txn.versioned (ev.apply user)
    return r

/-- The profile an event writes for a user over the current one, at a version and an instant: the
event's trimmed fields, created when the current one was, or at that instant if there is none. -/
def written (ev : IdentityEvent) (user : String) (cur : Option Profile) (v : Int) (now : Instant) :
    Profile :=
  { id := user, email := ev.fields.email, firstName := ev.fields.firstName,
    lastName := ev.fields.lastName, imageUrl := ev.fields.imageUrl, version := v,
    createdAt := (cur.map (·.createdAt)).getD now, updatedAt := now }

variable {d : Database} {user : String} {ev : IdentityEvent} {amb : Ambient}

theorem work_ignored (hd : d.ServesProfiles) (hc : ¬ev.Carries) :
    ((ev.work user).exec d amb).1 = (.ok (none, false), d) := by
  obtain ⟨V, hV⟩ := Option.isSome_iff_exists.1 hd.seeded
  have hkind : (ev.kind == "user.created" || ev.kind == "user.updated") = false := by
    simpa only [Bool.not_eq_true] using mt (carries_iff ev).1 hc
  simp only [work, Work.exec_atomically, Txn.exec_bind, Txn.versioned, Txn.exec_withTicket,
    IdentityEvent.apply, hkind, Bool.false_eq_true, ↓reduceIte, Txn.exec_ambient, Txn.exec_pure,
    Txn.commitVersion_fresh hd.counter hV]

theorem work_unchanged (hd : d.ServesProfiles) (hc : ev.Carries) {old : Profile}
    (hold : d.profileRow user = some old) (hsame : old.display = ev.fields) :
    ((ev.work user).exec d amb).1 = (.ok (some old, false), d) := by
  obtain ⟨V, hV⟩ := Option.isSome_iff_exists.1 hd.seeded
  simp only [work, Work.exec_atomically, Txn.exec_bind, Txn.versioned, Txn.exec_withTicket,
    IdentityEvent.apply, (carries_iff ev).2 hc, ↓reduceIte, Txn.exec_read, hd.profileOf, hold,
    Txn.exec_now, Txn.exec_pure, Profile.sameDisplay_iff, hsame, Profile.display_mk, fields,
    Txn.commitVersion_fresh hd.counter hV]

theorem work_written (hd : d.ServesProfiles) (hch : ev.Changes (d.shown user)) {V : Int}
    (hV : d.counter = some V) :
    ((ev.work user).exec d amb).1 =
      (.ok (some (ev.written user (d.profileRow user) (V + 1) amb.clock), true),
        { d.withProfile (ev.written user (d.profileRow user) (V + 1) amb.clock) with
          counter := some (V + 1) }) := by
  obtain ⟨hc, hne⟩ := hch
  rcases hold : d.profileRow user with _ | old
  · simp only [work, Work.exec_atomically, Txn.exec_bind, Txn.versioned, Txn.exec_withTicket,
      IdentityEvent.apply, (carries_iff ev).2 hc, ↓reduceIte, Txn.exec_read, hd.profileOf, hold,
      Txn.exec_now, Txn.exec_pure, Txn.nextVersion_fresh hd.counter hV, Txn.exec_write,
      hd.upsertProfile, Txn.commitVersion_drawn, Database.withProfile_has, hd.counter,
      Database.withProfile_counter, hV, Database.withProfile_fire, hd.advanceCounter,
      Database.created, written, fields, Option.map_none, Option.getD_none]
  · have hdiff : ¬old.display = ev.fields := by
      intro h
      apply hne
      simp [Database.shown, hold, h]
    rw [fields] at hdiff
    simp only [work, Work.exec_atomically, Txn.exec_bind, Txn.versioned, Txn.exec_withTicket,
      IdentityEvent.apply, (carries_iff ev).2 hc, ↓reduceIte, Txn.exec_read, hd.profileOf, hold,
      Txn.exec_now, Txn.exec_pure, Profile.sameDisplay_iff, Profile.display_mk, fields, hdiff,
      Txn.nextVersion_fresh hd.counter hV, Txn.exec_write,
      hd.upsertProfile, Txn.commitVersion_drawn, Database.withProfile_has, hd.counter,
      Database.withProfile_counter, hV, Database.withProfile_fire, hd.advanceCounter,
      Database.created, written, Option.map_some, Option.getD_some]

/-! ## What one event does -/

/-- What applying an event to a store does, as the fold of display fields says: it is applied
exactly when it changes the profile; the profile then shows its fields, keeps its creation time or
takes `now` when it is new; the counter moves one step for a change; and nothing else of the store
moves, the profiles of other ids included. -/
structure Folds (user : String) (ev : IdentityEvent) (now : Instant) (d : Database)
    (applied : Bool) (d' : Database) : Prop where
  applied_eq : applied = decide (ev.Changes (d.shown user))
  shown : d'.shown user = ev.shown (d.shown user)
  created : d'.created user = (d.created user).or (if ev.Carries then some now else none)
  version : d'.version = d.version + if applied then 1 else 0
  kept : applied = false → d' = d
  others : d'.profiles.filter (·.id != user) = d.profiles.filter (·.id != user)
  frame : d'.withoutProfiles = d.withoutProfiles

/-- An event that does not change the profile leaves the whole store. -/
theorem Folds.of_unchanged {now : Instant} (hch : ¬ev.Changes (d.shown user)) :
    Folds user ev now d false d := by
  have hshown : ev.shown (d.shown user) = d.shown user := by
    unfold Changes at hch
    unfold IdentityEvent.shown
    split_ifs with hc
    · exact (not_not.1 (not_and.1 hch hc)).symm
    · rfl
  refine ⟨by simp [hch], hshown.symm, ?_, by simp, fun _ => rfl, rfl, rfl⟩
  -- a carrying event that changes nothing finds a profile, whose creation time stays
  by_cases hc : ev.Carries
  · have hsome : d.shown user = some ev.fields := not_not.1 (not_and.1 hch hc)
    rcases hrow : d.profileRow user with _ | p
    · simp [Database.shown, hrow] at hsome
    · simp [Database.created, hrow]
  · simp [hc]

/-- An event that changes the profile writes it at the next version. -/
theorem Folds.of_written {now : Instant} {V : Int} (hch : ev.Changes (d.shown user))
    (hV : d.counter = some V) :
    Folds user ev now d true
      { d.withProfile (ev.written user (d.profileRow user) (V + 1) now) with
        counter := some (V + 1) } := by
  set p := ev.written user (d.profileRow user) (V + 1) now with hp
  have hrow : ({ d.withProfile p with counter := some (V + 1) } : Database).profileRow user =
      some p :=
    Database.profileRow_withProfile d p
  refine ⟨by simp [hch], ?_, ?_, by simp [Database.version, hV], by simp,
    Database.filter_withProfile d p, rfl⟩
  · simp only [Database.shown, hrow, Option.map_some, IdentityEvent.shown, if_pos hch.1]
    rfl
  · -- the written profile keeps the creation time of the one it replaces
    rw [Database.created, hrow, Option.map_some, if_pos hch.1, hp, written, Database.created]
    cases d.profileRow user <;> rfl

/-- **One event.** Applying an event to a store that serves profiles succeeds, does what the fold
of display fields says, and leaves a store that serves profiles. -/
theorem work_folds (hd : d.ServesProfiles) :
    ∃ a, ((ev.work user).exec d amb).1.1 = .ok a ∧
      Folds user ev amb.clock d a.2 ((ev.work user).exec d amb).1.2 ∧
      ((ev.work user).exec d amb).1.2.ServesProfiles := by
  by_cases hch : ev.Changes (d.shown user)
  · obtain ⟨V, hV⟩ := Option.isSome_iff_exists.1 hd.seeded
    rw [work_written hd hch hV]
    exact ⟨_, rfl, Folds.of_written hch hV, hd.of_schema rfl rfl rfl rfl⟩
  · -- an event that changes nothing answers so and leaves the store
    have hrun : ∃ r, ((ev.work user).exec d amb).1 = (.ok (r, false), d) := by
      by_cases hc : ev.Carries
      · have hshown : d.shown user = some ev.fields := not_not.1 (not_and.1 hch hc)
        obtain ⟨old, hold, hsame⟩ := Option.map_eq_some_iff.1 hshown
        exact ⟨_, work_unchanged hd hc hold hsame⟩
      · exact ⟨_, work_ignored hd hc⟩
    obtain ⟨r, hr⟩ := hrun
    rw [hr]
    exact ⟨(r, false), rfl, Folds.of_unchanged hch, hd⟩

/-! ## A run of events -/

/-- Events applied one after another to a user's store, each by itself: their answers, and the
store and the ambient services after them. -/
def applyEach (user : String) : List IdentityEvent → Database → Ambient →
    List (Except Failure (Option Profile × Bool)) × Database × Ambient
  | [], d, amb => ([], d, amb)
  | ev :: evs, d, amb =>
    let r := (ev.work user).exec d amb
    let rest := applyEach user evs r.1.2 r.2
    (r.1.1 :: rest.1, rest.2)

/-- The run is the service's run of the events as operations on the store. -/
theorem run_identity (user : String) (evs : List IdentityEvent) (d : Database) (amb : Ambient) :
    Operation.run (evs.map (.identity user)) d amb = (applyEach user evs d amb).2 := by
  induction evs generalizing d amb with
  | nil => rfl
  | cons ev evs ih => exact ih _ _

/-- A run of two sequences is the run of the first, then the run of the second from where the
first left off. -/
theorem applyEach_append (user : String) (pre post : List IdentityEvent) (d : Database)
    (amb : Ambient) :
    applyEach user (pre ++ post) d amb =
      ((applyEach user pre d amb).1 ++
          (applyEach user post (applyEach user pre d amb).2.1 (applyEach user pre d amb).2.2).1,
        (applyEach user post (applyEach user pre d amb).2.1
          (applyEach user pre d amb).2.2).2) := by
  induction pre generalizing d amb with
  | nil => rfl
  | cons ev pre ih => simp [applyEach, ih]

/-- What a sequence of events does to a store, as the fold of display fields says: every answer is
a success, an event is applied exactly when it changes the profile as it stands at its turn, the
profile shows the fields the fold ends with and keeps its creation time, the counter moves one step
per applied event, and nothing else of the store moves. -/
structure Folded (user : String) (evs : List IdentityEvent) (d : Database)
    (answers : List (Except Failure (Option Profile × Bool))) (d' : Database) : Prop where
  answered : ∃ as : List (Option Profile × Bool), answers = as.map .ok ∧
    as.map (·.2) = IdentityData.changes (d.shown user) evs
  shown : d'.shown user = IdentityData.after (d.shown user) evs
  version : d'.version = d.version + (IdentityData.changes (d.shown user) evs).count true
  created : ∀ t, d.created user = some t → d'.created user = some t
  others : d'.profiles.filter (·.id != user) = d.profiles.filter (·.id != user)
  frame : d'.withoutProfiles = d.withoutProfiles

/-- **A run of events** on a store that serves profiles is the fold of their display fields, and
leaves a store that serves profiles. -/
theorem applyEach_folded (hd : d.ServesProfiles) (evs : List IdentityEvent) :
    Folded user evs d (applyEach user evs d amb).1 (applyEach user evs d amb).2.1 ∧
      (applyEach user evs d amb).2.1.ServesProfiles := by
  induction evs generalizing d amb with
  | nil =>
    exact ⟨⟨⟨[], rfl, rfl⟩, rfl, by simp [applyEach, IdentityData.changes], fun _ h => h,
      rfl, rfl⟩, hd⟩
  | cons ev evs ih =>
    -- the first event is one step of the fold, and the rest runs from the store it leaves
    obtain ⟨a, ha, hstep, hd₁⟩ := @work_folds d user ev amb hd
    obtain ⟨⟨⟨as, has, hflags⟩, hshown, hversion, hcreated, hothers, hframe⟩, hd₂⟩ :=
      @ih _ ((ev.work user).exec d amb).2 hd₁
    refine ⟨⟨⟨a :: as, ?_, ?_⟩, ?_, ?_, ?_, ?_, ?_⟩, hd₂⟩
    · simp only [applyEach, List.map_cons, ha, has]
    · rw [List.map_cons, hflags, hstep.shown, hstep.applied_eq, IdentityData.changes]
    · rw [applyEach, hshown, hstep.shown, IdentityData.after]
    · rw [applyEach, hversion, hstep.version, hstep.shown, IdentityData.changes, List.count_cons,
        ← hstep.applied_eq]
      cases a.2
      · simp
      · simp
        ring
    · intro t ht
      exact hcreated t (by rw [hstep.created, ht, Option.some_or])
    · exact hothers.trans hstep.others
    · exact hframe.trans hstep.frame

/-- A profile is created at the instant the first event that carries display fields is applied. -/
theorem applyEach_created (hd : d.ServesProfiles) (hnone : d.profileRow user = none)
    {pre post : List IdentityEvent} (hpre : ∀ e ∈ pre, ¬e.Carries) (hc : ev.Carries) :
    (applyEach user (pre ++ ev :: post) d amb).2.1.created user =
      some (applyEach user pre d amb).2.2.clock := by
  obtain ⟨hpre', hd₁⟩ := @applyEach_folded d user amb hd pre
  -- before the first carrying event there is still no profile
  have hnone₁ : (applyEach user pre d amb).2.1.created user = none := by
    rw [Database.created_eq_none_iff, ← Database.shown_eq_none_iff, hpre'.shown,
      IdentityData.after_of_forall_not_carries hpre, Database.shown_eq_none_iff, hnone]
  obtain ⟨a, -, hstep, hd₂⟩ := @work_folds _ user ev
    (applyEach user pre d amb).2.2 hd₁
  have hcreated : ((ev.work user).exec (applyEach user pre d amb).2.1
      (applyEach user pre d amb).2.2).1.2.created user =
        some (applyEach user pre d amb).2.2.clock := by
    rw [hstep.created, hnone₁, if_pos hc, Option.none_or]
  rw [applyEach_append]
  exact (applyEach_folded hd₂ post).1.created _ hcreated

/-- Applying an event again changes nothing: the second time it is not applied, whenever it comes,
and it leaves the store as the first time left it. -/
theorem work_again (hd : d.ServesProfiles) (amb' : Ambient) :
    ∃ p, ((ev.work user).exec ((ev.work user).exec d amb).1.2 amb').1 =
      (.ok (p, false), ((ev.work user).exec d amb).1.2) := by
  obtain ⟨a, -, hstep, hd₁⟩ := @work_folds d user ev amb hd
  obtain ⟨b, hb, hstep₂, -⟩ := @work_folds _ user ev amb' hd₁
  have hflag : b.2 = false := by
    rw [hstep₂.applied_eq, hstep.shown, decide_eq_false_iff_not]
    exact not_changes_shown ev _
  exact ⟨b.1, Prod.ext (by rw [hb, ← hflag]) (hstep₂.kept hflag)⟩

end IdentityEvent

/-! ## New stores -/

/-- Bringing a store's schema up to date installs no trigger. -/
theorem Store.Database.triggers_schemaStable : Database.SchemaStable (·.triggers = []) where
  clearRows _ t h := by cases t <;> exact h
  tables _ _ h := h
  versioned _ _ h := h
  indexes _ _ h := h
  seeded _ h := h
  applied _ _ h := h

/-- A new store whose schema came up serves profiles, and has none yet. -/
theorem Store.newStore_servesProfiles {user : String} {amb : Ambient}
    (h : schemaFailure user amb = none) :
    (newStore user amb).ServesProfiles ∧ ∀ u, (newStore user amb).profileRow u = none := by
  obtain ⟨hhas, hseed, -, htables⟩ := (newStore_sound h).ready
  obtain ⟨hprof, hver⟩ := htables .profile (by simp)
  have htr : (newStore user amb).triggers = [] :=
    Database.triggers_schemaStable.newStore rfl user amb
  have hrows := (newStore_blank user amb).1
  simp only [Database.syncedRows, List.append_eq_nil_iff, List.map_eq_nil_iff] at hrows
  refine ⟨⟨hprof, hver, hhas, hseed, ?_, ?_, ?_⟩,
    fun u => by simp [Database.profileRow, hrows]⟩ <;> simp [Database.fire, htr]

/-! ## The profile as a fold -/

/-- **The profile is a fold of identity events.** From any store that serves profiles, a run of
events, each applied by itself: every event is answered, and applied exactly when it carries
display fields and there is no profile yet or it shows other ones; the counter moves one step per
applied event; the profile then shows the trimmed fields of the last event that carries some,
exists exactly when it existed or such an event came, belongs to the user, was created when the
first such event was applied to a store without one and keeps that time; nothing else of the store
changes. An event that carries no fields changes nothing, and an event applied twice is not
applied the second time. -/
theorem profile_folds_identity_events {d : Database} (hd : d.ServesProfiles) (user : String)
    (evs : List IdentityEvent) (amb : Ambient) :
    let run := IdentityEvent.applyEach user evs d amb
    IdentityEvent.Folded user evs d run.1 run.2.1 ∧
      run.2.1.shown user =
        ((evs.filter (fun ev => decide ev.Carries)).getLast?.map (·.fields)).or (d.shown user) ∧
      ((run.2.1.profileRow user).isSome ↔
        (d.profileRow user).isSome ∨ ∃ ev ∈ evs, ev.Carries) ∧
      (∀ p, run.2.1.profileRow user = some p → p.id = user) ∧
      (d.profileRow user = none → ∀ pre ev post, evs = pre ++ ev :: post →
        (∀ e ∈ pre, ¬e.Carries) → ev.Carries →
          run.2.1.created user = some (IdentityEvent.applyEach user pre d amb).2.2.clock) ∧
      (∀ ev : IdentityEvent, ¬ev.Carries →
        ((ev.work user).exec d amb).1 = (.ok (none, false), d)) ∧
      ∀ (ev : IdentityEvent) (amb' : Ambient), ∃ p,
        ((ev.work user).exec ((ev.work user).exec d amb).1.2 amb').1 =
          (.ok (p, false), ((ev.work user).exec d amb).1.2) := by
  intro run
  have hfold := (@IdentityEvent.applyEach_folded d user amb hd evs).1
  refine ⟨hfold, ?_, ?_, fun _ hp => Database.profileRow_id hp, ?_,
    fun _ hc => IdentityEvent.work_ignored hd hc, fun _ amb' => IdentityEvent.work_again hd amb'⟩
  · rw [hfold.shown, IdentityData.after_eq_last]
  · rw [← Database.shown_isSome, hfold.shown, IdentityData.after_isSome_iff,
      Database.shown_isSome]
  · rintro hnone pre ev post rfl hpre hc
    exact IdentityEvent.applyEach_created hd hnone hpre hc

/-- A new store, and a user created, reported again unchanged, a session event, then a new last
name. -/
theorem new_profile_folds :
    let d := newStore "u" {}
    let evs : List IdentityEvent := [⟨"user.created", ⟨"a@example.com", "Ada", "", ""⟩⟩,
      ⟨"user.updated", ⟨"a@example.com", "Ada", "", ""⟩⟩, ⟨"session.created", {}⟩,
      ⟨"user.updated", ⟨"a@example.com", "Ada", "Lovelace", ""⟩⟩]
    let run := IdentityEvent.applyEach "u" evs d {}
    d.ServesProfiles ∧
      (IdentityEvent.Folded "u" evs d run.1 run.2.1 ∧
        run.2.1.shown "u" =
          ((evs.filter (fun ev => decide ev.Carries)).getLast?.map (·.fields)).or (d.shown "u") ∧
        ((run.2.1.profileRow "u").isSome ↔
          (d.profileRow "u").isSome ∨ ∃ ev ∈ evs, ev.Carries) ∧
        (∀ p, run.2.1.profileRow "u" = some p → p.id = "u") ∧
        (d.profileRow "u" = none → ∀ pre ev post, evs = pre ++ ev :: post →
          (∀ e ∈ pre, ¬e.Carries) → ev.Carries →
            run.2.1.created "u" = some (IdentityEvent.applyEach "u" pre d {}).2.2.clock) ∧
        (∀ ev : IdentityEvent, ¬ev.Carries →
          ((ev.work "u").exec d {}).1 = (.ok (none, false), d)) ∧
        ∀ (ev : IdentityEvent) (amb' : Ambient), ∃ p,
          ((ev.work "u").exec ((ev.work "u").exec d {}).1.2 amb').1 =
            (.ok (p, false), ((ev.work "u").exec d {}).1.2)) :=
  have hd := (@Store.newStore_servesProfiles "u" {} (by decide +kernel)).1
  ⟨hd, profile_folds_identity_events hd "u" _ {}⟩

end ReadLater
