import ReadLater.Proofs.Actors.Progress

/-!
# Closing the registry

`Registry.Close` closes the registry, and its quit channel with it, under the mutex and waits
for every actor's goroutine to end; a Close that finds the registry closed returns nil at once.
One Close call closes the registry. Once it is closed no actor starts, so a Close that saw every
goroutine end leaves none running for good, and every call made after a Close returned nil
returns `ErrRegistryClosed`. A Close that returned nil at once, though, found the registry
closed by another Close, which may still be waiting for the actors:
`close_returns_nil_while_actor_runs`.

* `Closing.closes`: the stages of the Close call that closed the registry;
* `Shut`: the invariant of the Close calls; **`reachable_shut`**;
* `finished_of_drained`: after a Close returned nil by waiting, no actor's goroutine runs, in
  that state or any later one;
* `ClosedFor`, `ClosedFor.steps`: calls made once the registry is closed return
  `ErrRegistryClosed`;
* `close_returns_nil_while_actor_runs`: two Close calls race and the second returns nil while
  an actor is still in its loop;
* **`reachable_registry_guarantees`**: in every state a run reaches, the registry keeps one
  store per user, answers every call once and closes as `RegistryGuarantees` lists.
-/

namespace ReadLater.Actors

/-- Whether a Close call is the one that closed the registry: it waits for the actors, saw them
all end, or gave up waiting. -/
def Closing.closes : Closing → Bool
  | .waiting | .drained | .timedOut => true
  | .calling | .early => false

/-- The steps of the Close calls, and the call of `Registry.Close` itself. -/
def Act.byClose : Act → Bool
  | .close | .lock _ | .drain _ | .timeout _ => true
  | _ => false

variable {s s' : Sys}

/-- Only the Close calls write the Close records and the closed flag. -/
theorem step_keeps_closing {act : Act} (hs : step s act = some s') (hb : act.byClose = false) :
    s'.closing = s.closing ∧ s'.closings = s.closings ∧ s'.closed = s.closed := by
  cases act with
  | call u => rw [step_call hs]; exact ⟨rfl, rfl, rfl⟩
  | lookup k =>
    obtain ⟨c, -, -, rfl⟩ := step_lookup hs
    exact Sys.actorFor_closing s
  | send k => obtain ⟨c, a, x, -, -, -, -, rfl⟩ := step_send hs; exact ⟨rfl, rfl, rfl⟩
  | retry k => obtain ⟨c, a, -, -, -, rfl⟩ := step_retry hs; exact ⟨rfl, rfl, rfl⟩
  | cancel k => obtain ⟨c, a, -, -, rfl⟩ := step_cancel hs; exact ⟨rfl, rfl, rfl⟩
  | collect k => obtain ⟨c, a, o, -, -, -, rfl⟩ := step_collect hs; exact ⟨rfl, rfl, rfl⟩
  | proceed a => obtain ⟨x, -, -, -, rfl⟩ := step_proceed hs; exact ⟨rfl, rfl, rfl⟩
  | quit a => obtain ⟨x, -, -, -, rfl⟩ := step_quit hs; exact ⟨rfl, rfl, rfl⟩
  | expire a => obtain ⟨x, -, -, rfl⟩ := step_expire hs; exact ⟨rfl, rfl, rfl⟩
  | openStore a ok =>
    obtain ⟨x, k, -, -, -, rfl⟩ := step_openStore hs
    cases ok <;> exact ⟨rfl, rfl, rfl⟩
  | migrate a ok =>
    obtain ⟨x, k, -, -, rfl⟩ := step_migrate hs
    cases ok <;> exact ⟨rfl, rfl, rfl⟩
  | abandon a => obtain ⟨x, k, -, -, rfl⟩ := step_abandon hs; exact ⟨rfl, rfl, rfl⟩
  | run a => obtain ⟨x, k, -, -, -, rfl⟩ := step_run hs; exact ⟨rfl, rfl, rfl⟩
  | finish a => obtain ⟨x, k, -, -, rfl⟩ := step_finish hs; exact ⟨rfl, rfl, rfl⟩
  | shutdown a => obtain ⟨x, -, -, rfl⟩ := step_shutdown hs; exact ⟨rfl, rfl, rfl⟩
  | forget a => obtain ⟨x, -, -, rfl⟩ := step_forget hs; exact ⟨rfl, rfl, rfl⟩
  | release a => obtain ⟨x, -, -, rfl⟩ := step_release hs; exact ⟨rfl, rfl, rfl⟩
  | exit a => obtain ⟨x, -, -, rfl⟩ := step_exit hs; exact ⟨rfl, rfl, rfl⟩
  | close => cases hb
  | lock c => cases hb
  | drain c => cases hb
  | timeout c => cases hb

/-- A closed registry whose actors have all ended has no actor step left: no actor starts and
none moves. -/
theorem actors_kept_of_finished {act : Act} (hs : step s act = some s') (hcl : s.closed = true)
    (hfin : ∀ {a x}, s.actor a = some x → x.phase = .finished) : s'.actor = s.actor := by
  cases act with
  | call u => rw [step_call hs]
  | close => rw [step_close hs]
  | lookup k =>
    obtain ⟨c, -, -, rfl⟩ := step_lookup hs
    rw [Sys.actorFor_of_closed s hcl]
    rfl
  | send k =>
    obtain ⟨c, a, x, -, -, hx, hi, -⟩ := step_send hs
    exact absurd (hfin hx) (by simp [hi])
  | retry k => obtain ⟨c, a, -, -, -, rfl⟩ := step_retry hs; rfl
  | cancel k => obtain ⟨c, a, -, -, rfl⟩ := step_cancel hs; rfl
  | collect k => obtain ⟨c, a, o, -, -, -, rfl⟩ := step_collect hs; rfl
  | proceed a =>
    obtain ⟨x, hx, hw, -, -⟩ := step_proceed hs
    exact absurd (hfin hx) (by simp [hw])
  | quit a =>
    obtain ⟨x, hx, -, hph, -⟩ := step_quit hs
    rcases hph with ⟨hw, -⟩ | hi
    · exact absurd (hfin hx) (by simp [hw])
    · exact absurd (hfin hx) (by simp [hi])
  | expire a =>
    obtain ⟨x, hx, hi, -⟩ := step_expire hs
    exact absurd (hfin hx) (by simp [hi])
  | openStore a ok =>
    obtain ⟨x, k, hx, hw, -, -⟩ := step_openStore hs
    exact absurd (hfin hx) (by simp [hw])
  | migrate a ok =>
    obtain ⟨x, k, hx, hop, -⟩ := step_migrate hs
    exact absurd (hfin hx) (by simp [hop])
  | abandon a =>
    obtain ⟨x, k, hx, hf, -⟩ := step_abandon hs
    exact absurd (hfin hx) (by simp [hf])
  | run a =>
    obtain ⟨x, k, hx, hw, -, -⟩ := step_run hs
    exact absurd (hfin hx) (by simp [hw])
  | finish a =>
    obtain ⟨x, k, hx, hr, -⟩ := step_finish hs
    exact absurd (hfin hx) (by simp [hr])
  | shutdown a =>
    obtain ⟨x, hx, hl, -⟩ := step_shutdown hs
    exact absurd (hfin hx) (by simp [hl])
  | forget a =>
    obtain ⟨x, hx, hf, -⟩ := step_forget hs
    exact absurd (hfin hx) (by simp [hf])
  | release a =>
    obtain ⟨x, hx, hr, -⟩ := step_release hs
    exact absurd (hfin hx) (by simp [hr])
  | exit a =>
    obtain ⟨x, hx, hst, -⟩ := step_exit hs
    exact absurd (hfin hx) (by simp [hst])
  | lock c =>
    obtain ⟨-, ⟨-, rfl⟩ | ⟨-, rfl⟩⟩ := step_lock hs
    · rfl
    · rfl
  | drain c => obtain ⟨-, -, rfl⟩ := step_drain hs; rfl
  | timeout c => obtain ⟨-, rfl⟩ := step_timeout hs; rfl

/-- The registry's wait group is at zero exactly when every actor's goroutine has ended. -/
theorem Owned.allFinished_iff (h : Owned s) :
    s.allFinished = true ↔ ∀ {a x}, s.actor a = some x → x.phase = .finished := by
  constructor
  · intro hall a x hx
    have hone := List.all_eq_true.1 hall a (List.mem_range.2 (h.lt_started hx))
    simpa [hx] using hone
  · intro hfin
    refine List.all_eq_true.2 fun a _ => ?_
    cases hx : s.actor a with
    | none => rfl
    | some x => simpa using hfin hx

/-! ## The invariant of the Close calls -/

/-- The invariant of the Close calls. -/
structure Shut (s : Sys) : Prop where
  /-- Close calls are numbered below `closings`. -/
  beyond : ∀ {c}, s.closings ≤ c → s.closing c = none
  /-- A Close call past the mutex found the registry closed, or closed it. -/
  closed : ∀ {c p}, s.closing c = some p → p ≠ .calling → s.closed = true
  /-- A closed registry was closed by a Close call. -/
  closer : s.closed = true → ∃ c p, s.closing c = some p ∧ p.closes = true
  /-- One Close call closed it. -/
  closer_unique : ∀ {c d p q}, s.closing c = some p → s.closing d = some q → p.closes = true →
    q.closes = true → c = d
  /-- A Close call that returned nil after waiting saw every actor's goroutine end. -/
  drained : ∀ {c}, s.closing c = some .drained → ∀ {a x}, s.actor a = some x → x.phase = .finished

namespace Shut

theorem lt_closings (h : Shut s) {c : Nat} {p : Closing} (hc : s.closing c = some p) :
    c < s.closings := by
  by_contra hge
  rw [h.beyond (Nat.le_of_not_lt hge)] at hc
  cases hc

theorem init : Shut {} where
  beyond _ := rfl
  closed h := by cases h
  closer h := by cases h
  closer_unique h := by cases h
  drained h := by cases h

/-- A step of anything but a Close call keeps the invariant. -/
theorem of_frame (h : Shut s) {act : Act} (hs : step s act = some s') (hb : act.byClose = false) :
    Shut s' := by
  obtain ⟨hcl, hn, hc⟩ := step_keeps_closing hs hb
  refine
    { beyond := fun hle => ?_, closed := fun hp hne => ?_, closer := fun hclosed => ?_,
      closer_unique := fun hp hq hpc hqc => ?_, drained := fun {c} hd {a x} hx => ?_ }
  · rw [hcl]
    exact h.beyond (hn ▸ hle)
  · rw [hc]
    exact h.closed (hcl ▸ hp) hne
  · rw [hcl]
    exact h.closer (hc ▸ hclosed)
  · exact h.closer_unique (hcl ▸ hp) (hcl ▸ hq) hpc hqc
  · -- once a Close saw every actor end, no actor moves
    rw [hcl] at hd
    have ha := actors_kept_of_finished hs (h.closed hd (by simp)) (h.drained hd)
    rw [ha] at hx
    exact h.drained hd hx

/-- `Registry.Close` is called. -/
theorem close (h : Shut s) :
    Shut { s with closing := Function.update s.closing s.closings (some .calling),
                  closings := s.closings + 1 } := by
  -- a new record is `calling`, and every other record keeps its slot
  have hread : ∀ {c p}, Function.update s.closing s.closings (some .calling) c = some p →
      p = .calling ∨ s.closing c = some p := fun hp => by
    rcases update_eq_some_iff.1 hp with ⟨-, rfl⟩ | ⟨-, hp⟩
    · exact .inl rfl
    · exact .inr hp
  refine
    { beyond := fun {c} hle => ?_, closed := fun hp hne => ?_, closer := fun hclosed => ?_,
      closer_unique := fun hp hq hpc hqc => ?_, drained := fun {c} hd {a x} hx => ?_ }
  · have hc : s.closings + 1 ≤ c := hle
    show Function.update s.closing s.closings _ c = none
    rw [Function.update_of_ne (by omega)]
    exact h.beyond (by omega)
  · rcases hread hp with rfl | hp
    · exact absurd rfl hne
    · exact h.closed hp hne
  · obtain ⟨c, p, hp, hpc⟩ := h.closer hclosed
    refine ⟨c, p, ?_, hpc⟩
    show Function.update s.closing s.closings _ c = _
    rw [Function.update_of_ne (Nat.ne_of_lt (h.lt_closings hp))]
    exact hp
  · rcases hread hp with rfl | hp
    · cases hpc
    rcases hread hq with rfl | hq
    · cases hqc
    exact h.closer_unique hp hq hpc hqc
  · rcases hread hd with hc | hd
    · cases hc
    · exact h.drained hd hx

/-- A Close call moves on from a record that stays, or not, the closer's, in a closed registry. -/
theorem setClosing (h : Shut s) {c : Nat} {p p' : Closing} (hc : s.closing c = some p)
    (hcl : s.closed = true) (hp : p'.closes = p.closes)
    (hd : p' = .drained → ∀ {a x}, s.actor a = some x → x.phase = .finished) :
    Shut (s.setClosing c p') := by
  have hread : ∀ {d q}, (s.setClosing c p').closing d = some q →
      (d = c ∧ q = p') ∨ (d ≠ c ∧ s.closing d = some q) := Sys.setClosing_closing_eq_some.1
  refine
    { beyond := fun {d} hle => ?_, closed := fun _ _ => hcl, closer := fun _ => ?_,
      closer_unique := fun {d e q r} hq hr hqc hrc => ?_, drained := fun {d} hdr {a x} hx => ?_ }
  · rw [Sys.setClosing_closing,
      Function.update_of_ne (by have := h.lt_closings hc; simp at hle; omega)]
    exact h.beyond hle
  · obtain ⟨d, q, hq, hqc⟩ := h.closer hcl
    by_cases hdc : d = c
    · subst hdc
      rw [hc] at hq
      cases hq
      exact ⟨d, p', Sys.setClosing_closing_eq_some.2 (.inl ⟨rfl, rfl⟩), hp.trans hqc⟩
    · exact ⟨d, q, Sys.setClosing_closing_eq_some.2 (.inr ⟨hdc, hq⟩), hqc⟩
  · -- the closer is the closer it was
    have hback : ∀ {d q}, (s.setClosing c p').closing d = some q → q.closes = true →
        ∃ q₀, s.closing d = some q₀ ∧ q₀.closes = true := fun hq hqc => by
      rcases hread hq with ⟨rfl, rfl⟩ | ⟨-, hq⟩
      · exact ⟨p, hc, hp ▸ hqc⟩
      · exact ⟨_, hq, hqc⟩
    obtain ⟨q₀, hq₀, hq₀c⟩ := hback hq hqc
    obtain ⟨r₀, hr₀, hr₀c⟩ := hback hr hrc
    exact h.closer_unique hq₀ hr₀ hq₀c hr₀c
  · rcases hread hdr with ⟨rfl, rfl⟩ | ⟨-, hdr⟩
    · exact hd rfl hx
    · exact h.drained hdr hx

/-- The Close call that finds the registry open closes it, and is the only one to. -/
theorem lockClose (h : Shut s) {c : Nat} (hc : s.closing c = some .calling)
    (hcl : s.closed = false) : Shut ({ s with closed := true }.setClosing c .waiting) := by
  -- no Close call was past the mutex
  have hnone : ∀ {d q}, s.closing d = some q → q = .calling := fun {d q} hq => by
    by_contra hne
    rw [h.closed hq hne] at hcl
    cases hcl
  have hread : ∀ {d q}, ({ s with closed := true }.setClosing c .waiting).closing d = some q →
      (d = c ∧ q = .waiting) ∨ (d ≠ c ∧ q = .calling) := fun {d q} hq => by
    rcases Sys.setClosing_closing_eq_some.1 hq with ⟨hd, rfl⟩ | ⟨hd, hq⟩
    · exact .inl ⟨hd, rfl⟩
    · exact .inr ⟨hd, hnone hq⟩
  refine
    { beyond := fun {d} hle => ?_, closed := fun _ _ => rfl,
      closer := fun _ => ⟨c, .waiting, Sys.setClosing_closing_eq_some.2 (.inl ⟨rfl, rfl⟩), rfl⟩,
      closer_unique := fun {d e q r} hq hr hqc hrc => ?_, drained := fun hd => ?_ }
  · rw [Sys.setClosing_closing,
      Function.update_of_ne (by have := h.lt_closings hc; simp at hle; omega)]
    exact h.beyond hle
  · rcases hread hq with ⟨rfl, -⟩ | ⟨-, rfl⟩
    · rcases hread hr with ⟨rfl, -⟩ | ⟨-, rfl⟩
      · rfl
      · cases hrc
    · cases hqc
  · rcases hread hd with ⟨-, hw⟩ | ⟨-, hw⟩ <;> cases hw

/-- **Every step keeps the invariant.** -/
theorem step (h : Shut s) (ho : Owned s) {act : Act}
    (hs : ReadLater.Actors.step s act = some s') : Shut s' := by
  cases hb : act.byClose
  · exact h.of_frame hs hb
  · cases act
    case close =>
      rw [step_close hs]
      exact h.close
    case lock c =>
      obtain ⟨hc, ⟨hcl, rfl⟩ | ⟨hcl, rfl⟩⟩ := step_lock hs
      · exact h.setClosing hc hcl rfl (by simp)
      · exact h.lockClose hc hcl
    case drain c =>
      obtain ⟨hc, hall, rfl⟩ := step_drain hs
      exact h.setClosing hc (h.closed hc (by simp)) rfl fun _ => ho.allFinished_iff.1 hall
    case timeout c =>
      obtain ⟨hc, rfl⟩ := step_timeout hs
      exact h.setClosing hc (h.closed hc (by simp)) rfl (by simp)
    all_goals simp [Act.byClose] at hb

theorem steps (h : Shut s) (ho : Owned s) (hs : Steps s s') : Shut s' := by
  induction hs with
  | refl => exact h
  | tail hrun hnext ih =>
    obtain ⟨act, hact⟩ := hnext
    exact ih.step (ho.steps hrun) hact

end Shut

/-- **Every state a run reaches satisfies the invariant.** -/
theorem reachable_shut {s : Sys} (hs : Reachable s) : Shut s :=
  Shut.init.steps Owned.init hs

/-! ## After a Close returned -/

namespace Shut

/-- A Close call that has returned keeps its answer. -/
theorem keeps_returned (h : Shut s) {act : Act} (hs : ReadLater.Actors.step s act = some s')
    {c : Nat} {p : Closing} (hc : s.closing c = some p) (hcall : p ≠ .calling)
    (hwait : p ≠ .waiting) : s'.closing c = some p := by
  cases hb : act.byClose
  · rw [(step_keeps_closing hs hb).1]
    exact hc
  · cases act
    case close =>
      rw [step_close hs]
      show Function.update s.closing s.closings _ c = some p
      rw [Function.update_of_ne (Nat.ne_of_lt (h.lt_closings hc))]
      exact hc
    case lock d =>
      -- the Close call that takes the mutex is another one, still `calling`
      obtain ⟨hd, ⟨-, rfl⟩ | ⟨-, rfl⟩⟩ := step_lock hs
      all_goals
        refine Sys.setClosing_closing_eq_some.2 (.inr ⟨fun hcd => ?_, hc⟩)
        rw [hcd, hd] at hc
        exact hcall (Option.some.inj hc).symm
    case drain d =>
      obtain ⟨hd, -, rfl⟩ := step_drain hs
      refine Sys.setClosing_closing_eq_some.2 (.inr ⟨fun hcd => ?_, hc⟩)
      rw [hcd, hd] at hc
      exact hwait (Option.some.inj hc).symm
    case timeout d =>
      obtain ⟨hd, rfl⟩ := step_timeout hs
      refine Sys.setClosing_closing_eq_some.2 (.inr ⟨fun hcd => ?_, hc⟩)
      rw [hcd, hd] at hc
      exact hwait (Option.some.inj hc).symm
    all_goals simp [Act.byClose] at hb

end Shut

/-- Along a run a Close call that has returned keeps its answer. -/
theorem Shut.keeps_returned_steps (h : Shut s) (ho : Owned s) (hs : Steps s s') {c : Nat}
    {p : Closing} (hc : s.closing c = some p) (hcall : p ≠ .calling) (hwait : p ≠ .waiting) :
    s'.closing c = some p := by
  induction hs with
  | refl => exact hc
  | tail hrun hnext ih =>
    obtain ⟨act, hact⟩ := hnext
    exact (h.steps ho hrun).keeps_returned hact ih hcall hwait

/-- **After a Close returned nil by waiting, no actor's goroutine runs**, then or ever after: no
actor starts once the registry is closed. -/
theorem finished_of_drained (hs : Reachable s) {c : Nat} (hc : s.closing c = some .drained)
    (hss : Steps s s') {a : Nat} {x : Actor} (hx : s'.actor a = some x) : x.phase = .finished :=
  (reachable_shut (hs.trans hss)).drained
    ((reachable_shut hs).keeps_returned_steps (reachable_owned hs) hss hc (by simp) (by simp)) hx

/-! ## Calls made once the registry is closed -/

/-- The registry is closed, and every call from the `n`-th on is at the top of its loop or has
returned `ErrRegistryClosed`. -/
def ClosedFor (n : Nat) (s : Sys) : Prop :=
  s.closed = true ∧
    ∀ {k c}, n ≤ k → s.call k = some c → c.phase = .lookup ∨ c.phase = .returned .closed

namespace ClosedFor

variable {n : Nat}

/-- A step that keeps every call where it is. -/
theorem of_phases (h : ClosedFor n s) (hcl : s'.closed = true)
    (hcall : ∀ {k c'}, s'.call k = some c' → ∃ c, s.call k = some c ∧ c'.phase = c.phase) :
    ClosedFor n s' := by
  refine ⟨hcl, fun hk hc' => ?_⟩
  obtain ⟨c, hc, hp⟩ := hcall hc'
  rw [hp]
  exact h.2 hk hc

/-- A call's own step, to where a call made late may be. -/
theorem setCall (h : ClosedFor n s) {j : Nat} {d : Call} (hcl : s'.closed = true)
    (hcall : s'.call = (s.setCall j d).call)
    (hd : n ≤ j → d.phase = .lookup ∨ d.phase = .returned .closed) : ClosedFor n s' := by
  refine ⟨hcl, fun {k c} hk hc => ?_⟩
  rw [hcall] at hc
  rcases Sys.setCall_call_eq_some.1 hc with ⟨rfl, rfl⟩ | ⟨-, hc⟩
  · exact hd hk
  · exact h.2 hk hc

/-- A call made late is not offering its request or waiting for a reply. -/
theorem not_late (h : ClosedFor n s) {j : Nat} {c : Call} (hc : s.call j = some c)
    (hp : c.phase ≠ .lookup ∧ c.phase ≠ .returned .closed) : ¬ n ≤ j := fun hj => by
  rcases h.2 hj hc with hl | hr
  · exact hp.1 hl
  · exact hp.2 hr

/-- **Every step keeps calls made late away from the actors.** -/
theorem step (h : ClosedFor n s) {act : Act} (hs : ReadLater.Actors.step s act = some s') :
    ClosedFor n s' := by
  -- the closed flag stays set, and a step that keeps every call's record keeps its phase
  have hcl : s'.closed = true := by
    cases hb : act.byClose
    · rw [(step_keeps_closing hs hb).2.2]
      exact h.1
    · cases act
      case close => rw [step_close hs]; exact h.1
      case lock c =>
        obtain ⟨-, ⟨-, rfl⟩ | ⟨hopen, -⟩⟩ := step_lock hs
        · exact h.1
        · rw [h.1] at hopen
          cases hopen
      case drain c => obtain ⟨-, -, rfl⟩ := step_drain hs; exact h.1
      case timeout c => obtain ⟨-, rfl⟩ := step_timeout hs; exact h.1
      all_goals simp [Act.byClose] at hb
  have hsame : s'.call = s.call → ClosedFor n s' := fun he =>
    h.of_phases hcl fun {k c'} hc' => ⟨c', he ▸ hc', rfl⟩
  -- an actor's reply or start leaves the call's phase
  have hmap : ∀ (j : Nat) (f : Call → Call), (∀ c, (f c).phase = c.phase) →
      s'.call = Function.update s.call j ((s.call j).map f) → ClosedFor n s' := by
    intro j f hf he
    refine h.of_phases hcl fun {k c'} hc' => ?_
    rw [he] at hc'
    by_cases hkj : k = j
    · subst hkj
      rw [Function.update_self] at hc'
      obtain ⟨c, hc, rfl⟩ := Option.map_eq_some_iff.1 hc'
      exact ⟨c, hc, hf c⟩
    · rw [Function.update_of_ne hkj] at hc'
      exact ⟨c', hc', rfl⟩
  cases act with
  | call u =>
    rw [step_call hs] at hcl ⊢
    refine ⟨hcl, fun {k c} hk hc => ?_⟩
    rcases update_eq_some_iff.1 hc with ⟨-, rfl⟩ | ⟨-, hc⟩
    · exact .inl rfl
    · exact h.2 hk hc
  | close => exact hsame (by rw [step_close hs])
  | lookup j =>
    obtain ⟨c, -, -, rfl⟩ := step_lookup hs
    rw [Sys.actorFor_of_closed s h.1] at hcl ⊢
    exact h.setCall hcl rfl fun _ => .inr rfl
  | send j =>
    obtain ⟨c, a, x, hc, hp, -, -, rfl⟩ := step_send hs
    exact h.setCall hcl rfl fun hj => absurd hj (h.not_late hc (by simp [hp]))
  | retry j =>
    obtain ⟨c, a, hc, hp, -, rfl⟩ := step_retry hs
    exact h.setCall hcl rfl fun hj => absurd hj (h.not_late hc (by simp [hp]))
  | cancel j =>
    obtain ⟨c, a, hc, hp, rfl⟩ := step_cancel hs
    exact h.setCall hcl rfl fun hj => absurd hj (h.not_late hc (by simp [hp]))
  | collect j =>
    obtain ⟨c, a, o, hc, hp, -, rfl⟩ := step_collect hs
    exact h.setCall hcl rfl fun hj => absurd hj (h.not_late hc (by simp [hp]))
  | proceed a => obtain ⟨x, -, -, -, rfl⟩ := step_proceed hs; exact hsame rfl
  | quit a => obtain ⟨x, -, -, -, rfl⟩ := step_quit hs; exact hsame rfl
  | expire a => obtain ⟨x, -, -, rfl⟩ := step_expire hs; exact hsame rfl
  | openStore a ok =>
    obtain ⟨x, k, -, -, -, rfl⟩ := step_openStore hs
    cases ok
    · exact hmap k (fun c => { c with reply := some (.wakeFailed .unopened) }) (fun _ => rfl) rfl
    · exact hsame rfl
  | migrate a ok =>
    obtain ⟨x, k, -, -, rfl⟩ := step_migrate hs
    cases ok
    · exact hsame rfl
    · exact hmap k (fun c => { c with ranOn := c.ranOn ++ [a] }) (fun _ => rfl) rfl
  | abandon a =>
    obtain ⟨x, k, -, -, rfl⟩ := step_abandon hs
    exact hmap k (fun c => { c with reply := some (.wakeFailed .schema) }) (fun _ => rfl) rfl
  | run a =>
    obtain ⟨x, k, -, -, -, rfl⟩ := step_run hs
    exact hmap k (fun c => { c with ranOn := c.ranOn ++ [a] }) (fun _ => rfl) rfl
  | finish a =>
    obtain ⟨x, k, -, -, rfl⟩ := step_finish hs
    exact hmap k (fun c => { c with reply := some .ran }) (fun _ => rfl) rfl
  | shutdown a => obtain ⟨x, -, -, rfl⟩ := step_shutdown hs; exact hsame rfl
  | forget a => obtain ⟨x, -, -, rfl⟩ := step_forget hs; exact hsame rfl
  | release a => obtain ⟨x, -, -, rfl⟩ := step_release hs; exact hsame rfl
  | exit a => obtain ⟨x, -, -, rfl⟩ := step_exit hs; exact hsame rfl
  | lock c =>
    obtain ⟨-, ⟨-, rfl⟩ | ⟨-, rfl⟩⟩ := step_lock hs
    · exact hsame rfl
    · exact hsame rfl
  | drain c => obtain ⟨-, -, rfl⟩ := step_drain hs; exact hsame rfl
  | timeout c => obtain ⟨-, rfl⟩ := step_timeout hs; exact hsame rfl

theorem steps (h : ClosedFor n s) (hs : Steps s s') : ClosedFor n s' := by
  induction hs with
  | refl => exact h
  | tail _ hnext ih =>
    obtain ⟨act, hact⟩ := hnext
    exact ih.step hact

/-- A call made late returns `ErrRegistryClosed` at its first step. -/
theorem lookup_returns_closed (h : ClosedFor n s) {k : Nat} {c : Call} (hc : s.call k = some c)
    (hp : c.phase = .lookup) :
    ReadLater.Actors.step s (.lookup k) = some (s.setCall k { c with phase := .returned .closed }) := by
  rw [step_lookup_of hc hp, Sys.actorFor_of_closed s h.1]

end ClosedFor

/-- Once the registry is closed, every call made from then on meets the closed registry. -/
theorem Served.closedFor (h : Served s) (hcl : s.closed = true) : ClosedFor s.calls s :=
  ⟨hcl, fun hk hc => by rw [h.beyond hk] at hc; cases hc⟩

/-! ## Two Close calls -/

/-- A call for user `u`, which starts an actor that enters its loop, then two Close calls: the
first closes the registry and waits, the second finds it closed. -/
def racingCloses : List Act :=
  [.call "u", .lookup 0, .proceed 0, .close, .close, .lock 0, .lock 1]

theorem racingCloses_reachable : Reachable ((run {} racingCloses).getD {}) :=
  Steps.of_run (show run {} racingCloses = some ((run {} racingCloses).getD {}) from rfl)

/-- **A Close returns nil while an actor still runs.** When two Close calls race, the second
returns nil at once although the first still waits for the actor, which is in its loop. -/
theorem close_returns_nil_while_actor_runs :
    ∃ s, Reachable s ∧ s.closing 0 = some .waiting ∧ s.closing 1 = some .early ∧
      ∃ x, s.actor 0 = some x ∧ x.phase = .idle :=
  ⟨_, racingCloses_reachable, rfl, rfl, _, rfl, rfl⟩

/-- A Close call that returned nil at once found the registry closed by another Close call. -/
theorem Shut.closer_of_early (h : Shut s) {c : Nat} (hc : s.closing c = some .early) :
    ∃ d p, d ≠ c ∧ s.closing d = some p ∧ p.closes = true := by
  obtain ⟨d, p, hp, hpc⟩ := h.closer (h.closed hc (by simp))
  refine ⟨d, p, fun hdc => ?_, hp, hpc⟩
  rw [hdc, hc] at hp
  cases hp
  cases hpc

/-! ## What the registry guarantees -/

/-- What holds in every state the registry and its callers reach, whatever the schedule of the
goroutines, the contexts, the idle timers and the stores. -/
structure RegistryGuarantees (s : Sys) : Prop where
  /-- At most one store of a user is open. -/
  one_store : ∀ {a b x y}, s.actor a = some x → s.actor b = some y → y.user = x.user →
    x.holds = true → y.holds = true → a = b
  /-- Beside an actor in its loop, where it opens its store, every other actor of its user has
  closed it, for good. -/
  others_closed : ∀ {a b x y}, s.actor a = some x → x.phase.inLoop = true →
    s.actor b = some y → b ≠ a → y.user = x.user →
      ∀ {s'}, Steps s s' → ∃ y', s'.actor b = some y' ∧ y'.Quiet
  /-- One operation of a user runs at a time. -/
  one_operation : ∀ {a b k j x y}, s.actor a = some x → s.actor b = some y → y.user = x.user →
    x.phase = .handling k .running → y.phase = .handling j .running → a = b ∧ k = j
  /-- A call's operation started at most once, on an actor of its user. -/
  ran_at_most_once : ∀ {k c}, s.call k = some c →
    c.ranOn = [] ∨ ∃ a x, c.ranOn = [a] ∧ s.actor a = some x ∧ x.user = c.user
  /-- A returned call ran its operation once exactly when it returned the operation's answer. -/
  returned : ∀ {k c o}, s.call k = some c → c.phase = .returned o →
    (o = .ran ∧ ∃ a x, c.ranOn = [a] ∧ s.actor a = some x ∧ x.user = c.user) ∨
      (o ≠ .ran ∧ c.ranOn = [])
  /-- An operation runs on the actor that took it, with the store open and the engine built. -/
  running : ∀ {a k x}, s.actor a = some x → x.phase = .handling k .running →
    (∃ c, s.call k = some c ∧ c.user = x.user ∧ c.phase = .awaiting a ∧ c.ranOn = [a]) ∧
      x.holds = true ∧ x.engine = true ∧
      ∀ {b y}, s.actor b = some y → y.user = x.user → y.holds = true → b = a
  /-- The reply of a failed wake comes from an actor holding no store. -/
  wake_failure : ∀ {act s' k c c' f}, step s act = some s' → s.call k = some c → c.reply = none →
    s'.call k = some c' → c'.reply = some (.wakeFailed f) →
      ∃ a x, c'.phase = .awaiting a ∧ s'.actor a = some x ∧ x.phase = .idle ∧ x.holds = false ∧
        x.engine = false
  /-- A request an actor took is answered, and the call returns the operation's answer or the
  failure of the wake. -/
  taken_answered : ∀ {k c a}, s.call k = some c → c.phase = .awaiting a →
    ∃ s', Steps s s' ∧ ∃ c' o, s'.call k = some c' ∧ c'.phase = .returned o ∧
      (o = .ran ∨ ∃ f, o = .wakeFailed f)
  /-- A call that offered its request to an actor out of its loop goes round again, with
  nothing run. -/
  retired_retries : ∀ {k c a x}, s.call k = some c → c.phase = .offering a →
    s.actor a = some x → x.phase.isOut = true →
      ∃ s', Steps s s' ∧ ∃ c', s'.call k = some c' ∧ c'.phase = .lookup ∧ c'.reply = none ∧
        c'.ranOn = []
  /-- After a Close returned nil, every call made later returns `ErrRegistryClosed`. -/
  later_calls_closed : ∀ {c p}, s.closing c = some p → (p = .early ∨ p = .drained) →
    ∀ {s'}, Steps s s' → ∀ {k d}, s.calls ≤ k → s'.call k = some d →
      d.phase = .lookup ∨ d.phase = .returned .closed
  /-- After a Close returned nil by waiting, no actor's goroutine runs, then or later. -/
  drained_none_running : ∀ {c}, s.closing c = some .drained → ∀ {s'}, Steps s s' →
    ∀ {a x}, s'.actor a = some x → x.phase = .finished
  /-- A Close that returned nil at once found the registry closed by another Close call. -/
  early_found_closed : ∀ {c}, s.closing c = some .early →
    ∃ d p, d ≠ c ∧ s.closing d = some p ∧ p.closes = true

/-- **The registry serializes each user's operations**, answers every call once, and closes as
`RegistryGuarantees` says, in every state a run reaches. -/
theorem reachable_registry_guarantees (hs : Reachable s) : RegistryGuarantees s := by
  have ho := reachable_owned hs
  have hv := reachable_served hs
  have hc := reachable_shut hs
  refine
    { one_store := fun hx hy hu hxh hyh => ho.one_holder hx hy hu hxh hyh
      others_closed := fun {a b x y} hx hin hy hb hu {s'} hss => ?_
      one_operation := fun hx hy hu hxr hyr => ho.one_running hx hy hu hxr hyr
      ran_at_most_once := fun hk => hv.ran_at_most_once hk
      returned := fun hk hp => hv.returned hk hp
      running := fun hx hr => hv.running ho hx hr
      wake_failure := fun hstep hk hr hk' hr' => hv.wakeFailed_step ho hstep hk hr hk' hr'
      taken_answered := fun hk hp => hv.answered_of_taken ho hk hp
      retired_retries := fun hk hp hx hout => hv.retries_of_out hk hp hx hout
      later_calls_closed := fun {c p} hp hnil {s'} hss => ?_
      drained_none_running := fun {c} hd {s'} hss {a x} hx => finished_of_drained hs hd hss hx
      early_found_closed := fun he => hc.closer_of_early he }
  · -- the other actor is quiet now, and a quiet actor stays quiet
    obtain ⟨y', hy', hev⟩ := ho.evolves_steps hss hy
    exact ⟨y', hy', hev.quiet (ho.others_quiet hx hin hy hb hu)⟩
  · -- a Close call that returned found the registry closed or closed it
    have hcl : s.closed = true := hc.closed hp (by rcases hnil with rfl | rfl <;> simp)
    exact fun {k d} hk hd => ((hv.closedFor hcl).steps hss).2 hk hd

/-- The guarantees in the state where two Close calls raced. -/
theorem racingCloses_guaranteed :
    Reachable ((run {} racingCloses).getD {}) ∧
      RegistryGuarantees ((run {} racingCloses).getD {}) :=
  ⟨racingCloses_reachable, reachable_registry_guarantees racingCloses_reachable⟩

end ReadLater.Actors
