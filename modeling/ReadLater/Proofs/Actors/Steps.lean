import ReadLater.Actors

/-!
# What each step of the registry does

Reading the registry after `actorFor`, `unregister` and `forgetActor` (the other updates are
read through their `simps` lemmas and `Function.update_apply`), and one inversion lemma per kind
of step (`step_lookup`, `step_send`, …): what a party must be doing for the step to be taken,
and the state after it. The invariants of the registry are proved from these lemmas and never
unfold `step`. The converse lemmas (`step_finish_of`, …) say which steps a party can always take,
for the runs that show a call can still return.
-/

namespace ReadLater.Actors

/-! ## Updates -/

/-- Reading a map after writing one key. -/
theorem update_eq_some_iff {ι α : Type} [DecidableEq ι] {f : ι → Option α} {a b : ι} {x y : α} :
    Function.update f a (some x) b = some y ↔ (b = a ∧ y = x) ∨ (b ≠ a ∧ f b = some y) := by
  by_cases hb : b = a
  · subst hb; simp [eq_comm]
  · simp [hb]

namespace Sys

theorem setActor_actor_eq_some {s : Sys} {a b : Nat} {x y : Actor} :
    (s.setActor a x).actor b = some y ↔ (b = a ∧ y = x) ∨ (b ≠ a ∧ s.actor b = some y) :=
  update_eq_some_iff

@[simp] theorem setActor_actor_self {s : Sys} {a : Nat} {x : Actor} : (s.setActor a x).actor a = some x :=
  Function.update_self ..

theorem setCall_call_eq_some {s : Sys} {k j : Nat} {c d : Call} :
    (s.setCall k c).call j = some d ↔ (j = k ∧ d = c) ∨ (j ≠ k ∧ s.call j = some d) :=
  update_eq_some_iff

theorem setClosing_closing_eq_some {s : Sys} {c d : Nat} {p q : Closing} :
    (s.setClosing c p).closing d = some q ↔ (d = c ∧ q = p) ∨ (d ≠ c ∧ s.closing d = some q) :=
  update_eq_some_iff

variable (s : Sys)

/-- `actorFor` on a closed registry returns the call with `ErrRegistryClosed`. -/
theorem actorFor_of_closed {k : Nat} {c : Call} (h : s.closed = true) :
    s.actorFor k c = s.setCall k { c with phase := .returned .closed } := by
  simp [actorFor, h]

/-- `actorFor` gives the registered actor. -/
theorem actorFor_of_registered {k a : Nat} {c : Call} (h : s.closed = false)
    (hr : s.registered c.user = some a) :
    s.actorFor k c = s.setCall k { c with phase := .offering a } := by
  simp [actorFor, h, hr]

/-- `actorFor` starts a new actor, numbered `s.started`, waiting on the user's last retired
actor. -/
theorem actorFor_of_unregistered {k : Nat} {c : Call} (h : s.closed = false)
    (hr : s.registered c.user = none) :
    s.actorFor k c =
      { s.setCall k { c with phase := .offering s.started } with
        actor := Function.update s.actor s.started
          (some { user := c.user, predecessor := s.retired c.user })
        started := s.started + 1
        registered := Function.update s.registered c.user (some s.started) } := by
  simp [actorFor, h, hr]

/-- `actorFor` leaves the Close calls and the closed flag alone. -/
theorem actorFor_closing {k : Nat} {c : Call} :
    (s.actorFor k c).closing = s.closing ∧ (s.actorFor k c).closings = s.closings ∧
      (s.actorFor k c).closed = s.closed := by
  unfold actorFor
  split
  · exact ⟨rfl, rfl, rfl⟩
  · split <;> exact ⟨rfl, rfl, rfl⟩

@[simp] theorem registered_unregister (a : Nat) (u v : String) :
    (s.unregister a u).registered v =
      if v = u ∧ s.registered u = some a then none else s.registered v := by
  by_cases hr : s.registered u = some a
  · by_cases hv : v = u
    · subst hv; simp [hr]
    · simp [hr, hv]
  · simp [hr]

@[simp] theorem retired_forgetActor (a : Nat) (u v : String) :
    (s.forgetActor a u).retired v =
      if v = u ∧ s.retired u = some a then none else s.retired v := by
  by_cases hr : s.retired u = some a
  · by_cases hv : v = u
    · subst hv; simp [hr]
    · simp [hr, hv]
  · simp [hr]

end Sys

/-! ## One lemma per kind of step -/

variable {s s' : Sys}

section Inversion

-- The proofs below unfold `step` by its equation lemmas. Tagging it here makes those lemmas
-- once, before the proofs, which are elaborated in parallel, all ask for them.
attribute [local simp] step

theorem step_call {u : String} (h : step s (.call u) = some s') :
    s' = { s with call := Function.update s.call s.calls (some { user := u }), calls := s.calls + 1 } :=
  (Option.some.inj h).symm

theorem step_close (h : step s .close = some s') :
    s' = { s with closing := Function.update s.closing s.closings (some .calling),
                  closings := s.closings + 1 } :=
  (Option.some.inj h).symm

theorem step_lookup {k : Nat} (h : step s (.lookup k) = some s') :
    ∃ c, s.call k = some c ∧ c.phase = .lookup ∧ s' = s.actorFor k c := by
  simp only [step] at h
  split at h <;> (try split at h) <;> simp_all

theorem step_send {k : Nat} (h : step s (.send k) = some s') :
    ∃ c a x, s.call k = some c ∧ c.phase = .offering a ∧ s.actor a = some x ∧ x.phase = .idle ∧
      s' = (s.setCall k { c with phase := .awaiting a }).setActor a
        { x with phase := .handling k .wake } := by
  simp only [step] at h
  split at h <;> (try split at h) <;> (try split at h) <;> (try split at h) <;> simp_all

theorem step_retry {k : Nat} (h : step s (.retry k) = some s') :
    ∃ c a, s.call k = some c ∧ c.phase = .offering a ∧ s.stoppedChan a = true ∧
      s' = s.setCall k { c with phase := .lookup } := by
  simp only [step] at h
  split at h <;> (try split at h) <;> (try split at h) <;> simp_all

theorem step_cancel {k : Nat} (h : step s (.cancel k) = some s') :
    ∃ c a, s.call k = some c ∧ c.phase = .offering a ∧
      s' = s.setCall k { c with phase := .returned .cancelled } := by
  simp only [step] at h
  split at h <;> (try split at h) <;> simp_all

theorem step_collect {k : Nat} (h : step s (.collect k) = some s') :
    ∃ c a o, s.call k = some c ∧ c.phase = .awaiting a ∧ c.reply = some o ∧
      s' = s.setCall k { c with phase := .returned o, reply := none } := by
  simp only [step] at h
  split at h <;> (try split at h) <;> simp_all

theorem step_proceed {a : Nat} (h : step s (.proceed a) = some s') :
    ∃ x, s.actor a = some x ∧ x.phase = .waiting ∧
      (∀ p, x.predecessor = some p → s.stoppedChan p = true) ∧
      s' = s.setActor a { x with phase := .idle } := by
  simp only [step] at h
  split at h <;> (try split at h) <;> (try split at h) <;> (try split at h) <;> simp_all

theorem step_quit {a : Nat} (h : step s (.quit a) = some s') :
    ∃ x, s.actor a = some x ∧ s.closed = true ∧
      ((x.phase = .waiting ∧ x.predecessor.isSome = true) ∨ x.phase = .idle) ∧
      s' = s.setActor a { x with phase := .leaving } := by
  simp only [step] at h
  split at h <;> (try split at h) <;> simp_all

theorem step_expire {a : Nat} (h : step s (.expire a) = some s') :
    ∃ x, s.actor a = some x ∧ x.phase = .idle ∧
      s' = (s.setActor a { x with phase := .leaving }).retire a x.user := by
  simp only [step] at h
  split at h <;> (try split at h) <;> simp_all

theorem step_openStore {a : Nat} {ok : Bool} (h : step s (.openStore a ok) = some s') :
    ∃ x k, s.actor a = some x ∧ x.phase = .handling k .wake ∧ x.engine = false ∧
      s' = if ok then s.setActor a { x with phase := .handling k .opened, holds := true }
        else s.replyTo a x k (.wakeFailed .unopened) := by
  simp only [step] at h
  split at h
  · rename_i x hx
    split at h
    · rename_i k hph
      split at h
      · contradiction
      · rename_i he
        refine ⟨x, k, hx, hph, by simpa using he, ?_⟩
        cases ok <;> simpa using h.symm
    · contradiction
  · contradiction

theorem step_migrate {a : Nat} {ok : Bool} (h : step s (.migrate a ok) = some s') :
    ∃ x k, s.actor a = some x ∧ x.phase = .handling k .opened ∧
      s' = if ok then s.startRun a { x with engine := true } k
        else s.setActor a { x with phase := .handling k .failing } := by
  simp only [step] at h
  split at h
  · rename_i x hx
    split at h
    · rename_i k hph
      refine ⟨x, k, hx, hph, ?_⟩
      cases ok <;> simpa using h.symm
    · contradiction
  · contradiction

theorem step_abandon {a : Nat} (h : step s (.abandon a) = some s') :
    ∃ x k, s.actor a = some x ∧ x.phase = .handling k .failing ∧
      s' = s.replyTo a { x with holds := false } k (.wakeFailed .schema) := by
  simp only [step] at h
  split at h <;> (try split at h) <;> simp_all

theorem step_run {a : Nat} (h : step s (.run a) = some s') :
    ∃ x k, s.actor a = some x ∧ x.phase = .handling k .wake ∧ x.engine = true ∧
      s' = s.startRun a x k := by
  simp only [step] at h
  split at h <;> (try split at h) <;> (try split at h) <;> simp_all

theorem step_finish {a : Nat} (h : step s (.finish a) = some s') :
    ∃ x k, s.actor a = some x ∧ x.phase = .handling k .running ∧ s' = s.replyTo a x k .ran := by
  simp only [step] at h
  split at h <;> (try split at h) <;> simp_all

theorem step_shutdown {a : Nat} (h : step s (.shutdown a) = some s') :
    ∃ x, s.actor a = some x ∧ x.phase = .leaving ∧
      s' = s.setActor a { x with phase := .forgetting, holds := false, engine := false } := by
  simp only [step] at h
  split at h <;> (try split at h) <;> simp_all

theorem step_forget {a : Nat} (h : step s (.forget a) = some s') :
    ∃ x, s.actor a = some x ∧ x.phase = .forgetting ∧
      s' = (s.setActor a { x with phase := .releasing }).forgetActor a x.user := by
  simp only [step] at h
  split at h <;> (try split at h) <;> simp_all

theorem step_release {a : Nat} (h : step s (.release a) = some s') :
    ∃ x, s.actor a = some x ∧ x.phase = .releasing ∧ s' = s.setActor a { x with phase := .stopped } := by
  simp only [step] at h
  split at h <;> (try split at h) <;> simp_all

theorem step_exit {a : Nat} (h : step s (.exit a) = some s') :
    ∃ x, s.actor a = some x ∧ x.phase = .stopped ∧ s' = s.setActor a { x with phase := .finished } := by
  simp only [step] at h
  split at h <;> (try split at h) <;> simp_all

theorem step_lock {c : Nat} (h : step s (.lock c) = some s') :
    s.closing c = some .calling ∧
      ((s.closed = true ∧ s' = s.setClosing c .early) ∨
        (s.closed = false ∧ s' = { s with closed := true }.setClosing c .waiting)) := by
  simp only [step] at h
  split at h <;> (try split at h) <;> simp_all

theorem step_drain {c : Nat} (h : step s (.drain c) = some s') :
    s.closing c = some .waiting ∧ s.allFinished = true ∧ s' = s.setClosing c .drained := by
  simp only [step] at h
  split at h <;> (try split at h) <;> simp_all

theorem step_timeout {c : Nat} (h : step s (.timeout c) = some s') :
    s.closing c = some .waiting ∧ s' = s.setClosing c .timedOut := by
  simp only [step] at h
  split at h <;> simp_all

end Inversion

/-! ## Steps a party can always take -/

section Enabled

variable {a k : Nat} {x : Actor} {c : Call}

theorem step_lookup_of (hc : s.call k = some c) (hp : c.phase = .lookup) :
    step s (.lookup k) = some (s.actorFor k c) := by
  simp [step, hc, hp]

theorem step_collect_of {o : Outcome} (hc : s.call k = some c) (hp : c.phase = .awaiting a)
    (hr : c.reply = some o) :
    step s (.collect k) = some (s.setCall k { c with phase := .returned o, reply := none }) := by
  simp [step, hc, hp, hr]

theorem step_retry_of (hc : s.call k = some c) (hp : c.phase = .offering a)
    (hst : s.stoppedChan a = true) : step s (.retry k) = some (s.setCall k { c with phase := .lookup }) := by
  simp [step, hc, hp, hst]

theorem step_openStore_of (hx : s.actor a = some x) (hp : x.phase = .handling k .wake)
    (he : x.engine = false) :
    step s (.openStore a true) = some (s.setActor a { x with phase := .handling k .opened, holds := true }) := by
  simp [step, hx, hp, he]

theorem step_migrate_of (hx : s.actor a = some x) (hp : x.phase = .handling k .opened) :
    step s (.migrate a true) = some (s.startRun a { x with engine := true } k) := by
  simp [step, hx, hp]

theorem step_abandon_of (hx : s.actor a = some x) (hp : x.phase = .handling k .failing) :
    step s (.abandon a) = some (s.replyTo a { x with holds := false } k (.wakeFailed .schema)) := by
  simp [step, hx, hp]

theorem step_run_of (hx : s.actor a = some x) (hp : x.phase = .handling k .wake)
    (he : x.engine = true) : step s (.run a) = some (s.startRun a x k) := by
  simp [step, hx, hp, he]

theorem step_finish_of (hx : s.actor a = some x) (hp : x.phase = .handling k .running) :
    step s (.finish a) = some (s.replyTo a x k .ran) := by
  simp [step, hx, hp]

theorem step_shutdown_of (hx : s.actor a = some x) (hp : x.phase = .leaving) :
    step s (.shutdown a) =
      some (s.setActor a { x with phase := .forgetting, holds := false, engine := false }) := by
  simp [step, hx, hp]

theorem step_forget_of (hx : s.actor a = some x) (hp : x.phase = .forgetting) :
    step s (.forget a) = some ((s.setActor a { x with phase := .releasing }).forgetActor a x.user) := by
  simp [step, hx, hp]

theorem step_release_of (hx : s.actor a = some x) (hp : x.phase = .releasing) :
    step s (.release a) = some (s.setActor a { x with phase := .stopped }) := by
  simp [step, hx, hp]

end Enabled

theorem Steps.single {act : Act} (h : step s act = some s') : Steps s s' :=
  Relation.ReflTransGen.single ⟨act, h⟩

theorem Steps.head {s'' : Sys} {act : Act} (h : step s act = some s') (hs : Steps s' s'') :
    Steps s s'' :=
  Relation.ReflTransGen.head ⟨act, h⟩ hs

/-- A schedule whose every step can be taken is a run. -/
theorem Steps.of_run {acts : List Act} (h : run s acts = some s') : Steps s s' := by
  induction acts generalizing s with
  | nil =>
    cases h
    exact Relation.ReflTransGen.refl
  | cons act acts ih =>
    obtain ⟨t, ht, hrun⟩ := Option.bind_eq_some_iff.1 h
    exact Steps.head ht (ih hrun)

end ReadLater.Actors
