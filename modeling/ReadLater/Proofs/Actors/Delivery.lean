import ReadLater.Proofs.Actors.Ownership

/-!
# Every call of `Handle.do` is answered once

A call hands its request to an actor of its user and waits for the reply, or returns without its
operation having run: the registry was closed, its context ended while it offered the request,
or the actor's wake failed. An operation starts at most once, on an actor of its user, and runs
while that actor holds the store with its engine built. A request an actor took stays in that
actor's hands until it replies; the idle timer fires only in the `select`, so an actor that
retires has taken no request, and a call that offered it one goes round again once it stopped.

* `Answered`, `Settled`: what a reply, and a returned call, say of the actors the operation
  started on;
* `Call.Fits`: what the record of a call says, read against the actors;
* `Served`: the invariant: an actor handling a request holds the request of a call that awaits
  it, and every call's record fits;
* **`reachable_served`**: every state a run reaches satisfies `Served`;
* `Served.ran_at_most_once`: an operation started at most once, on an actor of its user;
  `Served.returned`: a returned call ran its operation once or never, as its outcome says;
  `Served.running`: an operation runs on an actor holding its user's store with its engine built;
  `Served.wakeFailed_step`: the reply of a failed wake comes from an actor holding no store.
-/

namespace ReadLater.Actors

/-- What the reply of actor `a` says of the actors the operation started on: it ran, on `a`, or
`a`'s wake failed before it could run. -/
def Answered (a : Nat) : Outcome → List Nat → Prop
  | .ran, l => l = [a]
  | .wakeFailed _, l => l = []
  | _, _ => False

/-- What a returned call says of the actors its operation started on: it ran once, or never. -/
def Settled : Outcome → List Nat → Prop
  | .ran, l => ∃ a, l = [a]
  | _, l => l = []

section Outcomes

variable {a : Nat} {o : Outcome} {l : List Nat}

theorem Answered.settled (h : Answered a o l) : Settled o l := by
  cases o with
  | ran => exact ⟨a, h⟩
  | wakeFailed f => exact h
  | closed => exact h.elim
  | cancelled => exact h.elim

/-- A call's operation started on no actor or on one. -/
theorem Settled.nil_or_single (h : Settled o l) : l = [] ∨ ∃ a, l = [a] := by
  cases o with
  | ran => exact .inr h
  | wakeFailed f => exact .inl h
  | closed => exact .inl h
  | cancelled => exact .inl h

/-- A reply is the operation's own answer or the failure of a wake. -/
theorem Answered.outcome (h : Answered a o l) : o = .ran ∨ ∃ f, o = .wakeFailed f := by
  cases o with
  | ran => exact .inl rfl
  | wakeFailed f => exact .inr ⟨f, rfl⟩
  | closed => exact h.elim
  | cancelled => exact h.elim

end Outcomes

/-- What the record of call `k` says, read against the actors: the actor it deals with is of its
user, a request not yet answered is being handled, a reply or an outcome says whether the
operation ran, and the operation started only on actors of the call's user. -/
def Call.Fits (c : Call) (actors : Nat → Option Actor) (k : Nat) : Prop :=
  (∀ a ∈ c.ranOn, ∃ x, actors a = some x ∧ x.user = c.user) ∧
  match c.phase with
  | .lookup => c.reply = none ∧ c.ranOn = []
  | .offering a => c.reply = none ∧ c.ranOn = [] ∧ ∃ x, actors a = some x ∧ x.user = c.user
  | .awaiting a =>
    (∃ x, actors a = some x ∧ x.user = c.user) ∧
    match c.reply with
    | none => ∃ x st, actors a = some x ∧ x.phase = .handling k st
    | some o => Answered a o c.ranOn
  | .returned o => Settled o c.ranOn

/-! ## Reading and writing a call's record -/

namespace Call

variable {c : Call} {k a : Nat} {o : Outcome} {A A' : Nat → Option Actor}

theorem fits_of_lookup (hp : c.phase = .lookup) (hr : c.reply = none) (ho : c.ranOn = []) :
    c.Fits A k := by
  unfold Fits
  rw [hp]
  exact ⟨by simp [ho], hr, ho⟩

theorem fits_of_offering (hp : c.phase = .offering a) (hr : c.reply = none) (ho : c.ranOn = [])
    (hx : ∃ x, A a = some x ∧ x.user = c.user) : c.Fits A k := by
  unfold Fits
  rw [hp]
  exact ⟨by simp [ho], hr, ho, hx⟩

theorem fits_of_taken (hp : c.phase = .awaiting a) (hr : c.reply = none)
    (hu : ∀ b ∈ c.ranOn, ∃ x, A b = some x ∧ x.user = c.user)
    (hx : ∃ x, A a = some x ∧ x.user = c.user)
    (hh : ∃ x st, A a = some x ∧ x.phase = .handling k st) : c.Fits A k := by
  unfold Fits
  rw [hp]
  refine ⟨hu, hx, ?_⟩
  rw [hr]
  exact hh

theorem fits_of_answered (hp : c.phase = .awaiting a) (hr : c.reply = some o)
    (hu : ∀ b ∈ c.ranOn, ∃ x, A b = some x ∧ x.user = c.user)
    (hx : ∃ x, A a = some x ∧ x.user = c.user) (ha : Answered a o c.ranOn) : c.Fits A k := by
  unfold Fits
  rw [hp]
  refine ⟨hu, hx, ?_⟩
  rw [hr]
  exact ha

theorem fits_of_returned (hp : c.phase = .returned o)
    (hu : ∀ b ∈ c.ranOn, ∃ x, A b = some x ∧ x.user = c.user) (hs : Settled o c.ranOn) :
    c.Fits A k := by
  unfold Fits
  rw [hp]
  exact ⟨hu, hs⟩

namespace Fits

theorem ranOn_user (hc : c.Fits A k) (ha : a ∈ c.ranOn) : ∃ x, A a = some x ∧ x.user = c.user := by
  obtain ⟨hr, -⟩ := hc
  exact hr a ha

theorem lookup (hc : c.Fits A k) (hp : c.phase = .lookup) : c.reply = none ∧ c.ranOn = [] := by
  obtain ⟨-, h⟩ := hc
  rw [hp] at h
  exact h

theorem offering (hc : c.Fits A k) (hp : c.phase = .offering a) :
    c.reply = none ∧ c.ranOn = [] ∧ ∃ x, A a = some x ∧ x.user = c.user := by
  obtain ⟨-, h⟩ := hc
  rw [hp] at h
  exact h

theorem awaiting (hc : c.Fits A k) (hp : c.phase = .awaiting a) :
    ∃ x, A a = some x ∧ x.user = c.user := by
  obtain ⟨-, h⟩ := hc
  rw [hp] at h
  exact h.1

theorem taken (hc : c.Fits A k) (hp : c.phase = .awaiting a) (hr : c.reply = none) :
    ∃ x st, A a = some x ∧ x.phase = .handling k st := by
  obtain ⟨-, h⟩ := hc
  rw [hp] at h
  have h2 := h.2
  rw [hr] at h2
  exact h2

theorem answered (hc : c.Fits A k) (hp : c.phase = .awaiting a) (hr : c.reply = some o) :
    Answered a o c.ranOn := by
  obtain ⟨-, h⟩ := hc
  rw [hp] at h
  have h2 := h.2
  rw [hr] at h2
  exact h2

theorem returned (hc : c.Fits A k) (hp : c.phase = .returned o) : Settled o c.ranOn := by
  obtain ⟨-, h⟩ := hc
  rw [hp] at h
  exact h

/-- A record keeps fitting when every actor keeps its user and every actor handling the call
goes on handling it. -/
theorem mono (hc : c.Fits A k)
    (hu : ∀ {b y}, A b = some y → ∃ y', A' b = some y' ∧ y'.user = y.user)
    (hh : ∀ {b y st}, A b = some y → y.phase = .handling k st →
      ∃ y' st', A' b = some y' ∧ y'.phase = .handling k st') :
    c.Fits A' k := by
  have huser : ∀ {b}, (∃ y, A b = some y ∧ y.user = c.user) →
      ∃ y, A' b = some y ∧ y.user = c.user := by
    rintro b ⟨y, hy, hyu⟩
    obtain ⟨y', hy', hu'⟩ := hu hy
    exact ⟨y', hy', hu'.trans hyu⟩
  have hran : ∀ b ∈ c.ranOn, ∃ x, A' b = some x ∧ x.user = c.user :=
    fun b hb => huser (hc.ranOn_user hb)
  cases hph : c.phase with
  | lookup => exact fits_of_lookup hph (hc.lookup hph).1 (hc.lookup hph).2
  | offering a =>
    obtain ⟨hr, ho, hx⟩ := hc.offering hph
    exact fits_of_offering hph hr ho (huser hx)
  | awaiting a =>
    cases hrep : c.reply with
    | none =>
      obtain ⟨y, st, hy, hst⟩ := hc.taken hph hrep
      exact fits_of_taken hph hrep hran (huser (hc.awaiting hph)) (hh hy hst)
    | some o => exact fits_of_answered hph hrep hran (huser (hc.awaiting hph)) (hc.answered hph hrep)
  | returned o => exact fits_of_returned hph hran (hc.returned hph)

end Fits

end Call

/-! ## The invariant -/

/-- The invariant of the calls. -/
structure Served (s : Sys) : Prop where
  /-- Calls are numbered below `calls`. -/
  beyond : ∀ {k}, s.calls ≤ k → s.call k = none
  /-- An actor handling a request holds the request of a call of its user that awaits it with
  no reply, and the call's operation has started on the actor exactly when it runs. -/
  handling : ∀ {a x k st}, s.actor a = some x → x.phase = .handling k st →
    ∃ c, s.call k = some c ∧ c.user = x.user ∧ c.phase = .awaiting a ∧ c.reply = none ∧
      c.ranOn = if st = .running then [a] else []
  fits : ∀ {k c}, s.call k = some c → c.Fits s.actor k

namespace Served

variable {s s' : Sys}

theorem lt_calls (h : Served s) {k : Nat} {c : Call} (hc : s.call k = some c) : k < s.calls := by
  by_contra hle
  rw [h.beyond (Nat.le_of_not_lt hle)] at hc
  cases hc

/-- Writing the record of a call there is keeps every slot past the calls empty. -/
theorem beyond_update (h : Served s) {k : Nat} {c : Call} (hc : s.call k = some c)
    {d : Option Call} {j : Nat} (hj : s.calls ≤ j) : Function.update s.call k d j = none := by
  rw [Function.update_of_ne (by have := h.lt_calls hc; omega)]
  exact h.beyond hj

/-- One actor at a time handles a call's request. -/
theorem handler_unique (h : Served s) {a b k : Nat} {x y : Actor} {st st' : Stage}
    (hx : s.actor a = some x) (hxs : x.phase = .handling k st) (hy : s.actor b = some y)
    (hys : y.phase = .handling k st') : a = b := by
  obtain ⟨c, hc, -, hca, -⟩ := h.handling hx hxs
  obtain ⟨d, hd, -, hdb, -⟩ := h.handling hy hys
  rw [hc] at hd
  cases hd
  rw [hca] at hdb
  cases hdb
  rfl

theorem init : Served {} where
  beyond _ := rfl
  handling h := by cases h
  fits h := by cases h

/-- The invariant reads only the actors and the calls. -/
theorem of_eq (h : Served s) (ha : s'.actor = s.actor) (hc : s'.call = s.call)
    (hn : s'.calls = s.calls) : Served s' where
  beyond hle := by rw [hc]; exact h.beyond (hn ▸ hle)
  handling hy hst := by rw [hc]; exact h.handling (ha ▸ hy) hst
  fits {k c} hk := by rw [ha]; rw [hc] at hk; exact h.fits hk

/-- Writing an actor that keeps its user keeps every actor's user. -/
theorem update_keeps_users {A : Nat → Option Actor} {a b : Nat} {x x' y : Actor}
    (hx : A a = some x) (hu : x'.user = x.user) (hy : A b = some y) :
    ∃ y', Function.update A a (some x') b = some y' ∧ y'.user = y.user := by
  by_cases hba : b = a
  · subst hba
    rw [hx] at hy
    cases hy
    exact ⟨x', Function.update_self .., hu⟩
  · exact ⟨y, by rw [Function.update_of_ne hba]; exact hy, rfl⟩

/-- Writing an actor keeps the record of call `j` when the actor keeps its user and, if it
handled call `j`, goes on handling it. -/
theorem fits_update (h : Served s) {a j : Nat} {x x' : Actor} {d : Call}
    (hx : s.actor a = some x) (hu : x'.user = x.user) (hd : s.call j = some d)
    (hkeep : ∀ {st}, x.phase = .handling j st → ∃ st', x'.phase = .handling j st') :
    d.Fits (Function.update s.actor a (some x')) j := by
  refine (h.fits hd).mono (update_keeps_users hx hu) (fun {b y st} hy hst => ?_)
  by_cases hba : b = a
  · subst hba
    rw [hx] at hy
    cases hy
    obtain ⟨st', hst'⟩ := hkeep hst
    exact ⟨x', st', Function.update_self .., hst'⟩
  · exact ⟨y, st, by rw [Function.update_of_ne hba]; exact hy, hst⟩

/-- Moving an actor that handles no request to where it handles none keeps the invariant. -/
theorem setActor (h : Served s) {a : Nat} {x x' : Actor} (hx : s.actor a = some x)
    (hu : x'.user = x.user) (hx₀ : ∀ {k st}, x.phase ≠ .handling k st)
    (hx₁ : ∀ {k st}, x'.phase ≠ .handling k st) : Served (s.setActor a x') where
  beyond hle := h.beyond hle
  handling {b y k st} hy hst := by
    rcases Sys.setActor_actor_eq_some.1 hy with ⟨-, rfl⟩ | ⟨-, hy⟩
    · exact absurd hst hx₁
    · exact h.handling hy hst
  fits hk := h.fits_update hx hu hk fun hst => absurd hst hx₀

/-- A new call is at the top of its loop. -/
theorem newCall (h : Served s) {u : String} :
    Served { s with call := Function.update s.call s.calls (some { user := u }),
                    calls := s.calls + 1 } where
  beyond {k} hle := by
    have hk : s.calls + 1 ≤ k := hle
    show Function.update s.call s.calls _ k = none
    rw [Function.update_of_ne (by omega)]
    exact h.beyond (by omega)
  handling {a x k st} hx hst := by
    obtain ⟨c, hc, hrest⟩ := h.handling hx hst
    refine ⟨c, ?_, hrest⟩
    show Function.update s.call s.calls _ k = some c
    rw [Function.update_of_ne (Nat.ne_of_lt (h.lt_calls hc))]
    exact hc
  fits {k c} hk := by
    rcases update_eq_some_iff.1 hk with ⟨-, rfl⟩ | ⟨-, hk⟩
    · exact Call.fits_of_lookup rfl rfl rfl
    · exact h.fits hk

/-- A call's own step, on a request no actor handles, that leaves a record that fits. -/
theorem setCall (h : Served s) {k : Nat} {c c' : Call} (hc : s.call k = some c)
    (hfree : ¬ ∃ a, c.phase = .awaiting a ∧ c.reply = none) (hc' : c'.Fits s.actor k) :
    Served (s.setCall k c') where
  beyond hle := h.beyond_update hc hle
  handling {a x j st} hx hst := by
    obtain ⟨d, hd, hdu, hdp, hdr, hdo⟩ := h.handling hx hst
    have hjk : j ≠ k := by
      rintro rfl
      rw [hc] at hd
      cases hd
      exact hfree ⟨a, hdp, hdr⟩
    exact ⟨d, Sys.setCall_call_eq_some.2 (.inr ⟨hjk, hd⟩), hdu, hdp, hdr, hdo⟩
  fits {j d} hd := by
    rcases Sys.setCall_call_eq_some.1 hd with ⟨rfl, rfl⟩ | ⟨-, hd⟩
    · exact hc'
    · exact h.fits hd

/-- A new actor, in a free slot, handles no request. -/
theorem addActor (h : Served s) {a : Nat} {y : Actor} (ha : s.actor a = none)
    (hy : ∀ {k st}, y.phase ≠ .handling k st) : Served (s.setActor a y) where
  beyond hle := h.beyond hle
  handling {b z k st} hz hst := by
    rcases Sys.setActor_actor_eq_some.1 hz with ⟨-, rfl⟩ | ⟨-, hz⟩
    · exact absurd hst hy
    · exact h.handling hz hst
  fits {k c} hk := by
    -- every actor there was keeps its slot
    have hkeep : ∀ {b z}, s.actor b = some z → (s.setActor a y).actor b = some z := fun {b z} hz =>
      Sys.setActor_actor_eq_some.2 (.inr ⟨fun hba => (by rw [hba, ha] at hz; cases hz), hz⟩)
    exact (h.fits hk).mono (fun hz => ⟨_, hkeep hz, rfl⟩) (fun hz hst => ⟨_, _, hkeep hz, hst⟩)

/-- A call at the top of its loop offers its request to a new actor of its user. -/
theorem start (h : Served s) (ho : Owned s) {k : Nat} {c : Call} (hc : s.call k = some c)
    (hl : c.phase = .lookup) :
    Served ((s.setActor s.started { user := c.user, predecessor := s.retired c.user }).setCall k
      { c with phase := .offering s.started }) := by
  have hnew := h.addActor (ho.beyond (Nat.le_refl _)) (y := { user := c.user, predecessor := s.retired c.user })
    (by simp)
  obtain ⟨hr, hran⟩ := (h.fits hc).lookup hl
  exact hnew.setCall hc (by simp [hl])
    (Call.fits_of_offering rfl hr hran ⟨_, Sys.setActor_actor_self, rfl⟩)

/-- An idle actor takes the request a call offers it. -/
theorem send (h : Served s) {k a : Nat} {c : Call} {x : Actor} (hc : s.call k = some c)
    (hp : c.phase = .offering a) (hx : s.actor a = some x) (hi : x.phase = .idle) :
    Served ((s.setCall k { c with phase := .awaiting a }).setActor a
      { x with phase := .handling k .wake }) := by
  obtain ⟨hr, hran, y, hy, hyu⟩ := (h.fits hc).offering hp
  rw [hx] at hy
  cases hy
  -- the actor that takes the request handled none, and the call was awaited by no actor
  have hfree : ∀ {b z j st}, s.actor b = some z → z.phase = .handling j st → b ≠ a ∧ j ≠ k := by
    intro b z j st hz hst
    obtain ⟨d, hd, -, hdp, -⟩ := h.handling hz hst
    refine ⟨fun hba => ?_, fun hjk => ?_⟩
    · subst hba
      rw [hx] at hz
      cases hz
      rw [hi] at hst
      cases hst
    · subst hjk
      rw [hc] at hd
      cases hd
      rw [hp] at hdp
      cases hdp
  refine
    { beyond := fun {j} hle => ?_, handling := fun {b z j st} hz hst => ?_,
      fits := fun {j d} hd => ?_ }
  · exact h.beyond_update hc hle
  · rcases Sys.setActor_actor_eq_some.1 hz with ⟨rfl, rfl⟩ | ⟨-, hz₀⟩
    · -- the actor that took it: the call now awaits it
      obtain ⟨rfl, rfl⟩ := Phase.handling.inj hst
      exact ⟨{ c with phase := .awaiting b }, Function.update_self .., hyu.symm, rfl, hr,
        by simp [hran]⟩
    · obtain ⟨d, hd, hrest⟩ := h.handling hz₀ hst
      exact ⟨d, Sys.setCall_call_eq_some.2 (.inr ⟨(hfree hz₀ hst).2, hd⟩), hrest⟩
  · have hd' : (s.setCall k { c with phase := .awaiting a }).call j = some d := hd
    rcases Sys.setCall_call_eq_some.1 hd' with ⟨rfl, rfl⟩ | ⟨hjk, hd₀⟩
    · exact Call.fits_of_taken rfl hr (by simp [hran]) ⟨_, Sys.setActor_actor_self, hyu⟩
        ⟨_, _, Sys.setActor_actor_self, rfl⟩
    · exact h.fits_update hx rfl hd₀ fun hst => by rw [hi] at hst; cases hst

/-- An actor handling a request moves to another stage before the operation starts. -/
theorem restage (h : Served s) {a k : Nat} {x x' : Actor} {st st' : Stage}
    (hx : s.actor a = some x) (hst : x.phase = .handling k st) (hst' : x'.phase = .handling k st')
    (hu : x'.user = x.user) (hr : st ≠ .running) (hr' : st' ≠ .running) :
    Served (s.setActor a x') where
  beyond hle := h.beyond hle
  handling {b y j st''} hy hyst := by
    rcases Sys.setActor_actor_eq_some.1 hy with ⟨rfl, rfl⟩ | ⟨-, hy₀⟩
    · rw [hst'] at hyst
      obtain ⟨rfl, rfl⟩ := Phase.handling.inj hyst
      obtain ⟨c, hc, hcu, hcp, hcr, hco⟩ := h.handling hx hst
      exact ⟨c, hc, hcu.trans hu.symm, hcp, hcr, by simpa [hr, hr'] using hco⟩
    · exact h.handling hy₀ hyst
  fits {j d} hd := h.fits_update hx hu hd fun {st''} hj => by
    rw [hst] at hj
    obtain ⟨rfl, -⟩ := Phase.handling.inj hj
    exact ⟨st', hst'⟩

/-- The call an actor handles, and how far its operation got. -/
theorem handled (h : Served s) {a k : Nat} {x : Actor} {st : Stage} (hx : s.actor a = some x)
    (hst : x.phase = .handling k st) {b j : Nat} {y : Actor} {st' : Stage}
    (hy : s.actor b = some y) (hyst : y.phase = .handling j st') (hba : b ≠ a) : j ≠ k := by
  rintro rfl
  exact hba (h.handler_unique hy hyst hx hst)

/-- An actor starts the operation of the request it handles. -/
theorem startRun (h : Served s) {a k : Nat} {x x' : Actor} {st : Stage} (hx : s.actor a = some x)
    (hst : x.phase = .handling k st) (hr : st ≠ .running) (hu : x'.user = x.user) :
    Served (s.startRun a x' k) := by
  obtain ⟨c, hc, hcu, hcp, hcr, hco⟩ := h.handling hx hst
  rw [if_neg hr] at hco
  have hcall : (s.startRun a x' k).call = Function.update s.call k (some { c with ranOn := [a] }) := by
    funext j
    simp [hc, hco]
  have hu' : ({ x' with phase := .handling k .running } : Actor).user = x.user := hu
  refine
    { beyond := fun {j} hle => ?_, handling := fun {b y j st'} hy hyst => ?_,
      fits := fun {j d} hd => ?_ }
  · rw [hcall]
    exact h.beyond_update hc hle
  · rw [hcall]
    rcases Sys.setActor_actor_eq_some.1 hy with ⟨rfl, rfl⟩ | ⟨hba, hy₀⟩
    · -- the operation has started on this actor, once
      obtain ⟨rfl, rfl⟩ := Phase.handling.inj hyst
      exact ⟨_, Function.update_self .., hcu.trans hu.symm, hcp, hcr, rfl⟩
    · obtain ⟨d, hd, hrest⟩ := h.handling hy₀ hyst
      exact ⟨d, update_eq_some_iff.2 (.inr ⟨h.handled hx hst hy₀ hyst hba, hd⟩), hrest⟩
  · rw [hcall] at hd
    rcases update_eq_some_iff.1 hd with ⟨rfl, rfl⟩ | ⟨hjk, hd₀⟩
    · refine Call.fits_of_taken hcp hcr ?_ ⟨_, Sys.setActor_actor_self, hu'.trans hcu.symm⟩
        ⟨_, _, Sys.setActor_actor_self, rfl⟩
      intro b hb
      rw [List.mem_singleton.1 hb]
      exact ⟨_, Sys.setActor_actor_self, hu'.trans hcu.symm⟩
    · exact h.fits_update hx hu' hd₀ fun hj => by
        rw [hst] at hj
        exact absurd (Phase.handling.inj hj).1.symm hjk

/-- An actor replies to the request it handles and goes back to its `select`. -/
theorem replyTo (h : Served s) {a k : Nat} {x x' : Actor} {st : Stage} {o : Outcome}
    (hx : s.actor a = some x) (hst : x.phase = .handling k st) (hu : x'.user = x.user)
    (ho : Answered a o (if st = .running then [a] else [])) : Served (s.replyTo a x' k o) := by
  obtain ⟨c, hc, hcu, hcp, hcr, hco⟩ := h.handling hx hst
  have hcall : (s.replyTo a x' k o).call = Function.update s.call k (some { c with reply := some o }) := by
    funext j
    simp [hc]
  have hu' : ({ x' with phase := .idle } : Actor).user = x.user := hu
  refine
    { beyond := fun {j} hle => ?_, handling := fun {b y j st'} hy hyst => ?_,
      fits := fun {j d} hd => ?_ }
  · rw [hcall]
    exact h.beyond_update hc hle
  · rw [hcall]
    rcases Sys.setActor_actor_eq_some.1 hy with ⟨rfl, rfl⟩ | ⟨hba, hy₀⟩
    · cases hyst
    · obtain ⟨d, hd, hrest⟩ := h.handling hy₀ hyst
      exact ⟨d, update_eq_some_iff.2 (.inr ⟨h.handled hx hst hy₀ hyst hba, hd⟩), hrest⟩
  · rw [hcall] at hd
    rcases update_eq_some_iff.1 hd with ⟨rfl, rfl⟩ | ⟨hjk, hd₀⟩
    · -- the reply says how far the operation got
      refine Call.fits_of_answered hcp rfl (fun b hb => ?_) ⟨_, Sys.setActor_actor_self,
        hu'.trans hcu.symm⟩ (hco ▸ ho)
      obtain ⟨y, hy, hyu⟩ := (h.fits hc).ranOn_user hb
      obtain ⟨y', hy', hyu'⟩ := update_keeps_users hx hu' hy
      exact ⟨y', hy', hyu'.trans hyu⟩
    · exact h.fits_update hx hu' hd₀ fun hj => by
        rw [hst] at hj
        exact absurd (Phase.handling.inj hj).1.symm hjk

/-- **Every step keeps the invariant.** -/
theorem step (h : Served s) (ho : Owned s) {act : Act}
    (hs : ReadLater.Actors.step s act = some s') : Served s' := by
  cases act with
  | call u => rw [step_call hs]; exact h.newCall
  | close => rw [step_close hs]; exact h.of_eq rfl rfl rfl
  | lookup k =>
    obtain ⟨c, hc, hl, rfl⟩ := step_lookup hs
    obtain ⟨hr, hran⟩ := (h.fits hc).lookup hl
    have hfree : ¬ ∃ a, c.phase = .awaiting a ∧ c.reply = none := by simp [hl]
    cases hcl : s.closed
    · cases hreg : s.registered c.user with
      | none =>
        rw [Sys.actorFor_of_unregistered s hcl hreg]
        exact (h.start ho hc hl).of_eq rfl rfl rfl
      | some a =>
        rw [Sys.actorFor_of_registered s hcl hreg]
        exact h.setCall hc hfree (Call.fits_of_offering rfl hr hran (ho.registered hreg))
    · rw [Sys.actorFor_of_closed s hcl]
      exact h.setCall hc hfree (Call.fits_of_returned rfl (by simp [hran]) hran)
  | send k =>
    obtain ⟨c, a, x, hc, hp, hx, hi, rfl⟩ := step_send hs
    exact h.send hc hp hx hi
  | retry k =>
    obtain ⟨c, a, hc, hp, -, rfl⟩ := step_retry hs
    obtain ⟨hr, hran, -⟩ := (h.fits hc).offering hp
    exact h.setCall hc (by simp [hp]) (Call.fits_of_lookup rfl hr hran)
  | cancel k =>
    obtain ⟨c, a, hc, hp, rfl⟩ := step_cancel hs
    obtain ⟨-, hran, -⟩ := (h.fits hc).offering hp
    exact h.setCall hc (by simp [hp]) (Call.fits_of_returned rfl (by simp [hran]) hran)
  | collect k =>
    obtain ⟨c, a, o, hc, hp, hr, rfl⟩ := step_collect hs
    exact h.setCall hc (by simp [hr])
      (Call.fits_of_returned rfl (fun b hb => (h.fits hc).ranOn_user hb)
        ((h.fits hc).answered hp hr).settled)
  | proceed a =>
    obtain ⟨x, hx, hw, -, rfl⟩ := step_proceed hs
    exact h.setActor hx rfl (by simp [hw]) (by simp)
  | quit a =>
    obtain ⟨x, hx, -, hph, rfl⟩ := step_quit hs
    rcases hph with ⟨hw, -⟩ | hi
    · exact h.setActor hx rfl (by simp [hw]) (by simp)
    · exact h.setActor hx rfl (by simp [hi]) (by simp)
  | expire a =>
    obtain ⟨x, hx, hi, rfl⟩ := step_expire hs
    have hl : Served (s.setActor a { x with phase := .leaving }) :=
      h.setActor hx rfl (by simp [hi]) (by simp)
    exact hl.of_eq rfl rfl rfl
  | openStore a ok =>
    obtain ⟨x, k, hx, hw, -, rfl⟩ := step_openStore hs
    cases ok
    · exact h.replyTo hx hw rfl (by simp [Answered])
    · exact h.restage hx hw rfl rfl (by simp) (by simp)
  | migrate a ok =>
    obtain ⟨x, k, hx, hop, rfl⟩ := step_migrate hs
    cases ok
    · exact h.restage hx hop rfl rfl (by simp) (by simp)
    · exact h.startRun hx hop (by simp) rfl
  | abandon a =>
    obtain ⟨x, k, hx, hf, rfl⟩ := step_abandon hs
    exact h.replyTo hx hf rfl (by simp [Answered])
  | run a =>
    obtain ⟨x, k, hx, hw, -, rfl⟩ := step_run hs
    exact h.startRun hx hw (by simp) rfl
  | finish a =>
    obtain ⟨x, k, hx, hr, rfl⟩ := step_finish hs
    exact h.replyTo hx hr rfl (by simp [Answered])
  | shutdown a =>
    obtain ⟨x, hx, hl, rfl⟩ := step_shutdown hs
    exact h.setActor hx rfl (by simp [hl]) (by simp)
  | forget a =>
    obtain ⟨x, hx, hf, rfl⟩ := step_forget hs
    have hr : Served (s.setActor a { x with phase := .releasing }) :=
      h.setActor hx rfl (by simp [hf]) (by simp)
    exact hr.of_eq rfl rfl rfl
  | release a =>
    obtain ⟨x, hx, hr, rfl⟩ := step_release hs
    exact h.setActor hx rfl (by simp [hr]) (by simp)
  | exit a =>
    obtain ⟨x, hx, hst, rfl⟩ := step_exit hs
    exact h.setActor hx rfl (by simp [hst]) (by simp)
  | lock c =>
    obtain ⟨-, ⟨-, rfl⟩ | ⟨-, rfl⟩⟩ := step_lock hs
    · exact h.of_eq rfl rfl rfl
    · exact h.of_eq rfl rfl rfl
  | drain c =>
    obtain ⟨-, -, rfl⟩ := step_drain hs
    exact h.of_eq rfl rfl rfl
  | timeout c =>
    obtain ⟨-, rfl⟩ := step_timeout hs
    exact h.of_eq rfl rfl rfl

/-- Along a run from a state with both invariants the calls stay served. -/
theorem steps (h : Served s) (ho : Owned s) (hs : Steps s s') : Served s' := by
  induction hs with
  | refl => exact h
  | tail hrun hnext ih =>
    obtain ⟨act, hact⟩ := hnext
    exact ih.step (ho.steps hrun) hact

end Served

/-- **Every state a run reaches satisfies the invariant.** -/
theorem reachable_served {s : Sys} (hs : Reachable s) : Served s :=
  Served.init.steps Owned.init hs

/-! ## What the invariant says of a call -/

namespace Served

variable {s s' : Sys} {k : Nat} {c : Call}

/-- A call's operation has started at most once, and only on an actor of the call's user. -/
theorem ran_at_most_once (h : Served s) (hc : s.call k = some c) :
    c.ranOn = [] ∨ ∃ a x, c.ranOn = [a] ∧ s.actor a = some x ∧ x.user = c.user := by
  have hone : c.ranOn = [] ∨ ∃ a, c.ranOn = [a] := by
    cases hph : c.phase with
    | lookup => exact .inl ((h.fits hc).lookup hph).2
    | offering a => exact .inl ((h.fits hc).offering hph).2.1
    | awaiting a =>
      cases hr : c.reply with
      | none =>
        -- the actor that took it says how far the operation got
        obtain ⟨x, st, hx, hst⟩ := (h.fits hc).taken hph hr
        obtain ⟨d, hd, -, -, -, hdo⟩ := h.handling hx hst
        rw [hc] at hd
        cases hd
        by_cases hrun : st = .running
        · exact .inr ⟨a, by simpa [hrun] using hdo⟩
        · exact .inl (by simpa [hrun] using hdo)
      | some o => exact ((h.fits hc).answered hph hr).settled.nil_or_single
    | returned o => exact ((h.fits hc).returned hph).nil_or_single
  rcases hone with hnil | ⟨a, ha⟩
  · exact .inl hnil
  · obtain ⟨x, hx, hxu⟩ := (h.fits hc).ranOn_user (ha ▸ List.mem_singleton_self a)
    exact .inr ⟨a, x, ha, hx, hxu⟩

/-- A returned call ran its operation once, on an actor of its user, exactly when it returned
the operation's answer; it returned the registry's closing, its context's end or a failed wake
without the operation having run. -/
theorem returned (h : Served s) (hc : s.call k = some c) {o : Outcome}
    (hp : c.phase = .returned o) :
    (o = .ran ∧ ∃ a x, c.ranOn = [a] ∧ s.actor a = some x ∧ x.user = c.user) ∨
      (o ≠ .ran ∧ c.ranOn = []) := by
  have hs := (h.fits hc).returned hp
  cases o with
  | ran =>
    obtain ⟨a, ha⟩ := hs
    obtain ⟨x, hx, hxu⟩ := (h.fits hc).ranOn_user (ha ▸ List.mem_singleton_self a)
    exact .inl ⟨rfl, a, x, ha, hx, hxu⟩
  | wakeFailed f => exact .inr ⟨by simp, hs⟩
  | closed => exact .inr ⟨by simp, hs⟩
  | cancelled => exact .inr ⟨by simp, hs⟩

/-- A request an actor took and has not answered is in that actor's hands: the actor handles
it, so it is not in its `select` where the idle timer fires. -/
theorem taken (h : Served s) (hc : s.call k = some c) {a : Nat} (hp : c.phase = .awaiting a)
    (hr : c.reply = none) : ∃ x st, s.actor a = some x ∧ x.phase = .handling k st :=
  (h.fits hc).taken hp hr

/-- An operation runs on the actor that took its request, once, while the actor holds its user's
store with its engine built, and no other actor of the user holds the store. -/
theorem running (h : Served s) (ho : Owned s) {a : Nat} {x : Actor} (hx : s.actor a = some x)
    (hr : x.phase = .handling k .running) :
    (∃ c, s.call k = some c ∧ c.user = x.user ∧ c.phase = .awaiting a ∧ c.ranOn = [a]) ∧
      x.holds = true ∧ x.engine = true ∧
      ∀ {b y}, s.actor b = some y → y.user = x.user → y.holds = true → b = a := by
  obtain ⟨c, hc, hcu, hcp, -, hco⟩ := h.handling hx hr
  obtain ⟨hh, he⟩ := (ho.fits hx).running hr
  exact ⟨⟨c, hc, hcu, hcp, by simpa using hco⟩, hh, he,
    fun hy hyu hyh => (ho.one_holder hx hy hyu hh hyh).symm⟩

/-- **A failed wake leaves no store open.** Whenever a step gives a call a wake failure for its
reply, the actor that took the request is back in its `select` holding neither store nor
engine: the store never opened, or was closed again. -/
theorem wakeFailed_step (h : Served s) (ho : Owned s) {act : Act}
    (hs : ReadLater.Actors.step s act = some s') (hc : s.call k = some c) (hr : c.reply = none)
    {c' : Call} (hc' : s'.call k = some c') {f : WakeFault} (hr' : c'.reply = some (.wakeFailed f)) :
    ∃ a x, c'.phase = .awaiting a ∧ s'.actor a = some x ∧ x.phase = .idle ∧ x.holds = false ∧
      x.engine = false := by
  -- the record untouched, or written by the call's own step, keeps no reply
  have hstay : s.call k = some c' → False := fun h' => by
    rw [hc] at h'
    cases h'
    rw [hr] at hr'
    cases hr'
  have hown : ∀ {j : Nat} {d : Call}, (s.setCall j d).call k = some c' →
      (∃ c₀, s.call j = some c₀ ∧ (d.reply = c₀.reply ∨ d.reply = none)) → False := by
    rintro j d hd ⟨c₀, hc₀, hkeep⟩
    rcases Sys.setCall_call_eq_some.1 hd with ⟨rfl, rfl⟩ | ⟨-, hd⟩
    · rw [hc] at hc₀
      cases hc₀
      rcases hkeep with hrep | hrep <;> simp [hrep, hr] at hr'
    · exact hstay hd
  -- a step that starts an operation keeps every reply
  have hstart : ∀ {a j : Nat} {x : Actor}, (s.startRun a x j).call k = some c' → False := by
    intro a j x hd
    by_cases hkj : k = j
    · subst hkj
      simp only [Sys.startRun_call, Function.update_self, hc, Option.map_some, Option.some.injEq] at hd
      subst hd
      simp [hr] at hr'
    · simp only [Sys.startRun_call, Function.update_of_ne hkj] at hd
      exact hstay hd
  -- a reply to call `k` by the actor handling it, read off in the state after it
  have hreply : ∀ {a j : Nat} {x x' : Actor} {st : Stage} {o : Outcome}, s.actor a = some x →
      x.phase = .handling j st → (s.replyTo a x' j o).call k = some c' →
      k = j ∧ o = .wakeFailed f ∧ c'.phase = .awaiting a := by
    intro a j x x' st o hx hst hd
    by_cases hkj : k = j
    · subst hkj
      simp only [Sys.replyTo_call, Function.update_self, hc, Option.map_some, Option.some.injEq] at hd
      subst hd
      obtain ⟨d, hd, -, hdp, -⟩ := h.handling hx hst
      rw [hc] at hd
      cases hd
      simp only [Option.some.injEq] at hr'
      exact ⟨rfl, hr', hdp⟩
    · simp only [Sys.replyTo_call, Function.update_of_ne hkj] at hd
      exact (hstay hd).elim
  cases act with
  | call u =>
    rw [step_call hs] at hc'
    rcases update_eq_some_iff.1 hc' with ⟨rfl, -⟩ | ⟨-, hc'⟩
    · exact absurd (h.lt_calls hc) (Nat.lt_irrefl _)
    · exact (hstay hc').elim
  | close => rw [step_close hs] at hc'; exact (hstay hc').elim
  | lookup j =>
    obtain ⟨d, hd, -, rfl⟩ := step_lookup hs
    cases hcl : s.closed
    · cases hreg : s.registered d.user with
      | none =>
        rw [Sys.actorFor_of_unregistered s hcl hreg] at hc'
        exact (hown hc' ⟨d, hd, .inl rfl⟩).elim
      | some b =>
        rw [Sys.actorFor_of_registered s hcl hreg] at hc'
        exact (hown hc' ⟨d, hd, .inl rfl⟩).elim
    · rw [Sys.actorFor_of_closed s hcl] at hc'
      exact (hown hc' ⟨d, hd, .inl rfl⟩).elim
  | send j =>
    obtain ⟨d, b, x, hd, -, -, -, rfl⟩ := step_send hs
    exact (hown hc' ⟨d, hd, .inl rfl⟩).elim
  | retry j =>
    obtain ⟨d, b, hd, -, -, rfl⟩ := step_retry hs
    exact (hown hc' ⟨d, hd, .inl rfl⟩).elim
  | cancel j =>
    obtain ⟨d, b, hd, -, rfl⟩ := step_cancel hs
    exact (hown hc' ⟨d, hd, .inl rfl⟩).elim
  | collect j =>
    obtain ⟨d, b, o, hd, -, -, rfl⟩ := step_collect hs
    exact (hown hc' ⟨d, hd, .inr rfl⟩).elim
  | proceed a =>
    obtain ⟨x, -, -, -, rfl⟩ := step_proceed hs
    exact (hstay hc').elim
  | quit a =>
    obtain ⟨x, -, -, -, rfl⟩ := step_quit hs
    exact (hstay hc').elim
  | expire a =>
    obtain ⟨x, -, -, rfl⟩ := step_expire hs
    exact (hstay hc').elim
  | openStore a ok =>
    obtain ⟨x, j, hx, hw, he, rfl⟩ := step_openStore hs
    cases ok
    · -- the store did not open: the actor never held it
      obtain ⟨rfl, -, hp⟩ := hreply hx hw hc'
      have hf := ho.fits hx
      simp only [Actor.Fits, hw, he] at hf
      exact ⟨a, _, hp, Sys.setActor_actor_self, rfl, hf, he⟩
    · exact (hstay hc').elim
  | migrate a ok =>
    obtain ⟨x, j, -, -, rfl⟩ := step_migrate hs
    cases ok
    · exact (hstay hc').elim
    · exact (hstart hc').elim
  | abandon a =>
    obtain ⟨x, j, hx, hf, rfl⟩ := step_abandon hs
    -- the schema failed: the store was closed before the reply
    obtain ⟨rfl, -, hp⟩ := hreply hx hf hc'
    have hfx := ho.fits hx
    simp only [Actor.Fits, hf] at hfx
    exact ⟨a, _, hp, Sys.setActor_actor_self, rfl, rfl, hfx.2⟩
  | run a =>
    obtain ⟨x, j, -, -, -, rfl⟩ := step_run hs
    exact (hstart hc').elim
  | finish a =>
    obtain ⟨x, j, hx, hrun, rfl⟩ := step_finish hs
    obtain ⟨-, ho', -⟩ := hreply hx hrun hc'
    cases ho'
  | shutdown a =>
    obtain ⟨x, -, -, rfl⟩ := step_shutdown hs
    exact (hstay hc').elim
  | forget a =>
    obtain ⟨x, -, -, rfl⟩ := step_forget hs
    exact (hstay hc').elim
  | release a =>
    obtain ⟨x, -, -, rfl⟩ := step_release hs
    exact (hstay hc').elim
  | exit a =>
    obtain ⟨x, -, -, rfl⟩ := step_exit hs
    exact (hstay hc').elim
  | lock b =>
    obtain ⟨-, ⟨-, rfl⟩ | ⟨-, rfl⟩⟩ := step_lock hs
    · exact (hstay hc').elim
    · exact (hstay hc').elim
  | drain b =>
    obtain ⟨-, -, rfl⟩ := step_drain hs
    exact (hstay hc').elim
  | timeout b =>
    obtain ⟨-, rfl⟩ := step_timeout hs
    exact (hstay hc').elim

end Served

end ReadLater.Actors
