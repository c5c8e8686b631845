import ReadLater.Proofs.Actors.Steps

/-!
# One actor at a time owns a user's store

An actor is *live* while it is in its loop or holds its user's store, and *quiet* once it has
left its loop with the store closed; a quiet actor stays quiet. The registry keeps every user's
actors in line: the actor registered for a user is the one that may run next, the user's last
retired actor is the one it waits for, and a waiting actor enters its loop only once every other
actor of its user is quiet, however retirements chained before it.

* `Actor.Fits`: what an actor holds fits where it is (its engine only with its store, its store
  only in or just out of its loop);
* `Owned`: the invariant: registered and retired actors, what each actor holds, and
  `Owned.exclusive`: beside a live actor every other actor of its user is quiet or waiting;
* `Moves`, `Owned.setActor`: a step of one actor that gains nothing keeps the invariant;
  `Owned.proceed` (an actor enters its loop), `Owned.start` (a new actor), `Owned.retire` and
  `Owned.forgetActor` (the registry lets go of an actor) do the rest;
* **`reachable_owned`**: every state a run reaches satisfies `Owned`;
* `Owned.one_holder`: two actors of a user holding its store are one actor, and
  `Owned.one_running`: one operation of a user runs at a time;
  `Owned.others_quiet`: beside an actor in its loop, and so beside one opening its store, every
  other actor of its user is quiet;
* `Evolves`, `Owned.evolves_steps`: along a run an actor keeps its user, stays quiet once quiet
  and finished once finished.
-/

namespace ReadLater.Actors

namespace Actor

/-- Before or in its loop: the actor is the one registered for its user. -/
def Active (x : Actor) : Prop := x.phase = .waiting ∨ x.phase.inLoop = true

/-- In its loop, or holding its user's store on its way out. -/
def Live (x : Actor) : Prop := x.phase.inLoop = true ∨ x.holds = true

/-- Out of its loop with its user's store closed. -/
def Quiet (x : Actor) : Prop := x.phase.isOut = true ∧ x.holds = false

/-- What the actor holds fits where it is: no store before its loop or once it closed it, its
store open exactly when its engine is built between requests, and during a request what the
wake reached. -/
def Fits (x : Actor) : Prop :=
  match x.phase with
  | .waiting | .forgetting | .releasing | .stopped | .finished => x.holds = false ∧ x.engine = false
  | .idle | .handling _ .wake | .leaving => x.holds = x.engine
  | .handling _ .opened | .handling _ .failing => x.holds = true ∧ x.engine = false
  | .handling _ .running => x.holds = true ∧ x.engine = true

-- The proofs below, elaborated in parallel, unfold these definitions by their equation lemmas.
-- Tagging them in an empty section makes those lemmas once, before any proof asks for them.
section
attribute [local simp] Fits Phase.inLoop Phase.isOut Phase.isStopped
end

variable {x : Actor}

theorem Quiet.not_live (h : x.Quiet) : ¬ x.Live := by
  obtain ⟨hout, hh⟩ := h
  rintro (hin | hh')
  · cases hp : x.phase <;> simp_all [Phase.isOut, Phase.inLoop]
  · simp_all

theorem Quiet.not_active (h : x.Quiet) : ¬ x.Active := by
  obtain ⟨hout, -⟩ := h
  rintro (hw | hin)
  · simp_all [Phase.isOut]
  · cases hp : x.phase <;> simp_all [Phase.isOut, Phase.inLoop]

theorem Fits.holds_false_of_waiting (hf : x.Fits) (hw : x.phase = .waiting) : x.holds = false := by
  simp only [Fits, hw] at hf
  exact hf.1

theorem Fits.not_live_of_waiting (hf : x.Fits) (hw : x.phase = .waiting) : ¬ x.Live := by
  rintro (hin | hh)
  · simp [hw, Phase.inLoop] at hin
  · simp [hf.holds_false_of_waiting hw] at hh

/-- An actor whose stopped channel is closed is quiet. -/
theorem Fits.quiet_of_stopped (hf : x.Fits) (hs : x.phase.isStopped = true) : x.Quiet := by
  unfold Fits at hf
  cases hp : x.phase <;> simp_all [Phase.isStopped, Quiet, Phase.isOut]

/-- A live actor is not waiting. -/
theorem Fits.live_ne_waiting (hf : x.Fits) (hl : x.Live) : x.phase ≠ .waiting :=
  fun hw => hf.not_live_of_waiting hw hl

theorem Fits.running (hf : x.Fits) {k : Nat} (hp : x.phase = .handling k .running) :
    x.holds = true ∧ x.engine = true := by
  simp only [Fits, hp] at hf
  exact hf

end Actor

open Actor

/-- A step of one actor that gains nothing: it keeps its user and predecessor, does not become
registered, live or waiting, and does not leave quiet, or leave its wait but to go quiet. -/
structure Moves (x x' : Actor) : Prop where
  user : x'.user = x.user
  predecessor : x'.predecessor = x.predecessor
  fits : x'.Fits
  active : x'.Active → x.Active
  live : x'.Live → x.Live
  quiet : x.Quiet → x'.Quiet
  waiting : x'.phase = .waiting → x.phase = .waiting
  leaves : x.phase = .waiting → x'.phase = .waiting ∨ x'.Quiet

namespace Moves

variable {x x' : Actor}

/-- A step from inside the loop to anywhere but the wait. -/
theorem of_inLoop (hx : x.phase.inLoop = true) (hw : x'.phase ≠ .waiting) (hu : x'.user = x.user)
    (hp : x'.predecessor = x.predecessor) (hf : x'.Fits) : Moves x x' where
  user := hu
  predecessor := hp
  fits := hf
  active _ := .inr hx
  live _ := .inl hx
  quiet hq := absurd (Or.inr hx) hq.not_active
  waiting h := absurd h hw
  leaves h := by simp [h, Phase.inLoop] at hx

/-- A step to quiet. -/
theorem of_quiet (hq : x'.Quiet) (hu : x'.user = x.user) (hp : x'.predecessor = x.predecessor)
    (hf : x'.Fits) : Moves x x' where
  user := hu
  predecessor := hp
  fits := hf
  active h := absurd h hq.not_active
  live h := absurd h hq.not_live
  quiet _ := hq
  waiting h := absurd (Or.inl h) hq.not_active
  leaves _ := .inr hq

/-! ## The steps of one actor -/

variable {x : Actor} {k : Nat}

theorem toHandling (hx : x.phase = .idle) (hf : x.Fits) :
    Moves x { x with phase := .handling k .wake } :=
  of_inLoop (by simp [hx, Phase.inLoop]) (by simp) rfl rfl (by simpa [Fits, hx] using hf)

theorem toLeaving (hx : x.phase = .idle) (hf : x.Fits) : Moves x { x with phase := .leaving } :=
  of_inLoop (by simp [hx, Phase.inLoop]) (by simp) rfl rfl (by simpa [Fits, hx] using hf)

theorem quitWaiting (hx : x.phase = .waiting) (hf : x.Fits) : Moves x { x with phase := .leaving } :=
  of_quiet ⟨rfl, hf.holds_false_of_waiting hx⟩ rfl rfl (by
    simp only [Fits, hx] at hf
    simp [Fits, hf.1, hf.2])

theorem opened (hx : x.phase = .handling k .wake) (he : x.engine = false) :
    Moves x { x with phase := .handling k .opened, holds := true } :=
  of_inLoop (by simp [hx, Phase.inLoop]) (by simp) rfl rfl (by simp [Fits, he])

theorem unopened (hx : x.phase = .handling k .wake) (hf : x.Fits) :
    Moves x { x with phase := .idle } :=
  of_inLoop (by simp [hx, Phase.inLoop]) (by simp) rfl rfl (by simpa [Fits, hx] using hf)

theorem migrated (hx : x.phase = .handling k .opened) (hf : x.Fits) :
    Moves x { x with engine := true, phase := .handling k .running } :=
  of_inLoop (by simp [hx, Phase.inLoop]) (by simp) rfl rfl (by
    simp only [Fits, hx] at hf
    simp [Fits, hf.1])

theorem failing (hx : x.phase = .handling k .opened) (hf : x.Fits) :
    Moves x { x with phase := .handling k .failing } :=
  of_inLoop (by simp [hx, Phase.inLoop]) (by simp) rfl rfl (by simpa [Fits, hx] using hf)

theorem abandoned (hx : x.phase = .handling k .failing) (hf : x.Fits) :
    Moves x { x with holds := false, phase := .idle } :=
  of_inLoop (by simp [hx, Phase.inLoop]) (by simp) rfl rfl (by
    simp only [Fits, hx] at hf
    simp [Fits, hf.2])

theorem running (hx : x.phase = .handling k .wake) (he : x.engine = true) (hf : x.Fits) :
    Moves x { x with phase := .handling k .running } :=
  of_inLoop (by simp [hx, Phase.inLoop]) (by simp) rfl rfl (by
    simp only [Fits, hx] at hf
    simp [Fits, hf, he])

theorem finished (hx : x.phase = .handling k .running) (hf : x.Fits) :
    Moves x { x with phase := .idle } :=
  of_inLoop (by simp [hx, Phase.inLoop]) (by simp) rfl rfl (by
    simp only [Fits, hx] at hf
    simp [Fits, hf.1, hf.2])

theorem shutdown :
    Moves x { x with phase := .forgetting, holds := false, engine := false } :=
  of_quiet ⟨rfl, rfl⟩ rfl rfl (by simp [Fits])

theorem forgotten (hx : x.phase = .forgetting) (hf : x.Fits) :
    Moves x { x with phase := .releasing } := by
  simp only [Fits, hx] at hf
  exact of_quiet ⟨rfl, hf.1⟩ rfl rfl (by simp [Fits, hf.1, hf.2])

theorem released (hx : x.phase = .releasing) (hf : x.Fits) :
    Moves x { x with phase := .stopped } := by
  simp only [Fits, hx] at hf
  exact of_quiet ⟨rfl, hf.1⟩ rfl rfl (by simp [Fits, hf.1, hf.2])

theorem exited (hx : x.phase = .stopped) (hf : x.Fits) :
    Moves x { x with phase := .finished } := by
  simp only [Fits, hx] at hf
  exact of_quiet ⟨rfl, hf.1⟩ rfl rfl (by simp [Fits, hf.1, hf.2])

end Moves

/-- What an actor keeps from a state to a later one: its user, and being quiet or finished. -/
structure Evolves (x x' : Actor) : Prop where
  user : x'.user = x.user
  quiet : x.Quiet → x'.Quiet
  finished : x.phase = .finished → x'.phase = .finished

namespace Evolves

variable {x y z : Actor}

theorem refl (x : Actor) : Evolves x x := ⟨rfl, id, id⟩

theorem trans (h₁ : Evolves x y) (h₂ : Evolves y z) : Evolves x z where
  user := h₂.user.trans h₁.user
  quiet hq := h₂.quiet (h₁.quiet hq)
  finished hf := h₂.finished (h₁.finished hf)

/-- A step of one actor that has not finished. -/
theorem of_moves (hm : Moves x y) (hf : x.phase ≠ .finished) : Evolves x y :=
  ⟨hm.user, hm.quiet, fun h => absurd h hf⟩

end Evolves

/-- The invariant of the registry and its actors. -/
structure Owned (s : Sys) : Prop where
  /-- Actors are numbered below `started`. -/
  beyond : ∀ {a}, s.started ≤ a → s.actor a = none
  /-- The registered actor of a user is an actor of that user. -/
  registered : ∀ {u a}, s.registered u = some a → ∃ x, s.actor a = some x ∧ x.user = u
  /-- An actor before or in its loop is the one registered for its user. -/
  active : ∀ {a x}, s.actor a = some x → x.Active → s.registered x.user = some a
  /-- An actor that is not quiet is registered for its user, or its last retired one. -/
  tracked : ∀ {a x}, s.actor a = some x → ¬ x.Quiet →
    s.registered x.user = some a ∨ s.retired x.user = some a
  /-- A waiting actor waits for its user's last retired actor. -/
  waits : ∀ {a x b}, s.actor a = some x → x.phase = .waiting → s.retired x.user = some b →
    x.predecessor = some b
  fits : ∀ {a x}, s.actor a = some x → x.Fits
  /-- Beside a live actor, every other actor of its user is quiet or waiting. -/
  exclusive : ∀ {a b x y}, s.actor a = some x → x.Live → s.actor b = some y → b ≠ a →
    y.user = x.user → y.Quiet ∨ y.phase = .waiting

namespace Owned

variable {s s' : Sys}

theorem lt_started (h : Owned s) {a : Nat} {x : Actor} (hx : s.actor a = some x) : a < s.started := by
  by_contra hlt
  rw [h.beyond (Nat.le_of_not_lt hlt)] at hx
  cases hx

/-- Beside an actor in its loop every other actor of its user is quiet: a waiting one would be
registered in its place. -/
theorem others_quiet (h : Owned s) {a b : Nat} {x y : Actor} (hx : s.actor a = some x)
    (hin : x.phase.inLoop = true) (hy : s.actor b = some y) (hb : b ≠ a) (hu : y.user = x.user) :
    y.Quiet := by
  rcases h.exclusive hx (.inl hin) hy hb hu with hq | hw
  · exact hq
  · have hra := h.active hx (.inr hin)
    have hrb := h.active hy (.inl hw)
    rw [hu, hra] at hrb
    exact absurd (Option.some.inj hrb).symm hb

/-- Two actors of a user holding its store are one actor. -/
theorem one_holder (h : Owned s) {a b : Nat} {x y : Actor} (hx : s.actor a = some x)
    (hy : s.actor b = some y) (hu : y.user = x.user) (hxh : x.holds = true) (hyh : y.holds = true) :
    a = b := by
  by_contra hab
  rcases h.exclusive hx (.inr hxh) hy (Ne.symm hab) hu with hq | hw
  · simp [hq.2] at hyh
  · simp [(h.fits hy).holds_false_of_waiting hw] at hyh

theorem init : Owned {} where
  beyond _ := rfl
  registered h := by cases h
  active h := by cases h
  tracked h := by cases h
  waits h := by cases h
  fits h := by cases h
  exclusive h := by cases h

/-- The invariant reads only the actors and the registry's two maps. -/
theorem of_eq (h : Owned s) (ha : s'.actor = s.actor) (hs : s'.started = s.started)
    (hr : s'.registered = s.registered) (ht : s'.retired = s.retired) : Owned s' where
  beyond hle := by rw [ha]; exact h.beyond (hs ▸ hle)
  registered hu := by rw [ha]; exact h.registered (hr ▸ hu)
  active hx hact := by rw [hr]; exact h.active (ha ▸ hx) hact
  tracked hx hq := by rw [hr, ht]; exact h.tracked (ha ▸ hx) hq
  waits hx hw hb := h.waits (ha ▸ hx) hw (ht ▸ hb)
  fits hx := h.fits (ha ▸ hx)
  exclusive hx hl hy hb hu := h.exclusive (ha ▸ hx) hl (ha ▸ hy) hb hu

theorem setCall (h : Owned s) {k : Nat} {c : Call} : Owned (s.setCall k c) :=
  h.of_eq rfl rfl rfl rfl

theorem setClosing (h : Owned s) {c : Nat} {p : Closing} : Owned (s.setClosing c p) :=
  h.of_eq rfl rfl rfl rfl

/-- Writing an actor that exists keeps actors numbered below `started`. -/
theorem beyond_setActor (h : Owned s) {a b : Nat} {x x' : Actor} (hx : s.actor a = some x)
    (hle : (s.setActor a x').started ≤ b) : (s.setActor a x').actor b = none := by
  have ha : a < s.started := h.lt_started hx
  simp only [Sys.setActor_actor, Sys.setActor_started] at hle ⊢
  rw [Function.update_of_ne (by omega)]
  exact h.beyond hle

/-- Writing an actor keeps the registered actors, with their users. -/
theorem registered_setActor (h : Owned s) {a : Nat} {x x' : Actor} (hx : s.actor a = some x)
    (hu : x'.user = x.user) {u : String} {b : Nat} (hb : s.registered u = some b) :
    ∃ y, (s.setActor a x').actor b = some y ∧ y.user = u := by
  obtain ⟨y, hy, hyu⟩ := h.registered hb
  by_cases hba : b = a
  · subst hba
    rw [hx] at hy
    cases hy
    exact ⟨x', Sys.setActor_actor_eq_some.2 (.inl ⟨rfl, rfl⟩), hu.trans hyu⟩
  · exact ⟨y, Sys.setActor_actor_eq_some.2 (.inr ⟨hba, hy⟩), hyu⟩

/-- A step of one actor that gains nothing keeps the invariant. -/
theorem setActor (h : Owned s) {a : Nat} {x x' : Actor} (hx : s.actor a = some x) (hm : Moves x x') :
    Owned (s.setActor a x') where
  beyond hle := h.beyond_setActor hx hle
  registered hu := h.registered_setActor hx hm.user hu
  active {b y} hy hact := by
    rcases Sys.setActor_actor_eq_some.1 hy with ⟨rfl, rfl⟩ | ⟨-, hy⟩
    · rw [Sys.setActor_registered, hm.user]
      exact h.active hx (hm.active hact)
    · exact h.active hy hact
  tracked {b y} hy hq := by
    rw [Sys.setActor_registered, Sys.setActor_retired]
    rcases Sys.setActor_actor_eq_some.1 hy with ⟨rfl, rfl⟩ | ⟨-, hy⟩
    · rw [hm.user]
      exact h.tracked hx (fun hq' => hq (hm.quiet hq'))
    · exact h.tracked hy hq
  waits {b y c} hy hw hc := by
    rw [Sys.setActor_retired] at hc
    rcases Sys.setActor_actor_eq_some.1 hy with ⟨rfl, rfl⟩ | ⟨-, hy⟩
    · rw [hm.predecessor]
      exact h.waits hx (hm.waiting hw) (hm.user ▸ hc)
    · exact h.waits hy hw hc
  fits {b y} hy := by
    rcases Sys.setActor_actor_eq_some.1 hy with ⟨rfl, rfl⟩ | ⟨-, hy⟩
    · exact hm.fits
    · exact h.fits hy
  exclusive {b c y z} hy hl hz hcb hu := by
    rcases Sys.setActor_actor_eq_some.1 hy with ⟨rfl, rfl⟩ | ⟨hb, hy₀⟩
    · -- the moved actor is the live one: it was live before
      rcases Sys.setActor_actor_eq_some.1 hz with ⟨rfl, rfl⟩ | ⟨-, hz₀⟩
      · exact absurd rfl hcb
      · exact h.exclusive hx (hm.live hl) hz₀ hcb (hu.trans hm.user)
    · rcases Sys.setActor_actor_eq_some.1 hz with ⟨rfl, rfl⟩ | ⟨-, hz₀⟩
      · -- the moved actor is the other one: it was quiet or waiting, and stays so or goes quiet
        rcases h.exclusive hy₀ hl hx hcb (hm.user.symm.trans hu) with hq | hw
        · exact .inl (hm.quiet hq)
        · exact (hm.leaves hw).symm
      · exact h.exclusive hy₀ hl hz₀ hcb hu

/-- An actor enters its loop once its predecessor stopped: every other actor of its user is then
quiet, since a registered one would be itself and a retired one is its predecessor. -/
theorem proceed (h : Owned s) {a : Nat} {x : Actor} (hx : s.actor a = some x)
    (hw : x.phase = .waiting) (hp : ∀ p, x.predecessor = some p → s.stoppedChan p = true) :
    Owned (s.setActor a { x with phase := .idle }) := by
  have hreg : s.registered x.user = some a := h.active hx (.inl hw)
  have hothers : ∀ {b y}, s.actor b = some y → b ≠ a → y.user = x.user → y.Quiet := by
    intro b y hy hb hu
    by_contra hq
    rcases h.tracked hy hq with hr | hr
    · rw [hu, hreg] at hr
      exact hb (Option.some.inj hr).symm
    · have hstop := hp b (h.waits hx hw (hu ▸ hr))
      simp only [Sys.stoppedChan, hy] at hstop
      exact hq ((h.fits hy).quiet_of_stopped hstop)
  have hfits : ({ x with phase := .idle } : Actor).Fits := by
    have := h.fits hx
    simp only [Fits, hw] at this
    simp [Fits, this.1, this.2]
  exact
    { beyond := fun hle => h.beyond_setActor hx hle
      registered := fun hu =>
        h.registered_setActor hx (show ({ x with phase := .idle } : Actor).user = x.user from rfl) hu
      active := fun {b y} hy hact => by
        rcases Sys.setActor_actor_eq_some.1 hy with ⟨rfl, rfl⟩ | ⟨-, hy⟩
        · exact hreg
        · exact h.active hy hact
      tracked := fun {b y} hy hq => by
        rw [Sys.setActor_registered, Sys.setActor_retired]
        rcases Sys.setActor_actor_eq_some.1 hy with ⟨rfl, rfl⟩ | ⟨-, hy⟩
        · exact .inl hreg
        · exact h.tracked hy hq
      waits := fun {b y c} hy hyw hc => by
        rw [Sys.setActor_retired] at hc
        rcases Sys.setActor_actor_eq_some.1 hy with ⟨rfl, rfl⟩ | ⟨-, hy⟩
        · cases hyw
        · exact h.waits hy hyw hc
      fits := fun {b y} hy => by
        rcases Sys.setActor_actor_eq_some.1 hy with ⟨rfl, rfl⟩ | ⟨-, hy⟩
        · exact hfits
        · exact h.fits hy
      exclusive := fun {b c y z} hy hl hz hcb hu => by
        rcases Sys.setActor_actor_eq_some.1 hy with ⟨rfl, rfl⟩ | ⟨hb, hy₀⟩
        · rcases Sys.setActor_actor_eq_some.1 hz with ⟨rfl, rfl⟩ | ⟨-, hz₀⟩
          · exact absurd rfl hcb
          · exact .inl (hothers hz₀ hcb hu)
        · rcases Sys.setActor_actor_eq_some.1 hz with ⟨rfl, rfl⟩ | ⟨-, hz₀⟩
          · -- no other actor of the user is live: they are all quiet
            exact absurd hl (hothers hy₀ hb hu.symm).not_live
          · exact h.exclusive hy₀ hl hz₀ hcb hu }


/-- A new actor starts for a user with no registered actor, waiting on its last retired one. -/
theorem start (h : Owned s) {u : String} (hr : s.registered u = none)
    (ha : s'.actor = Function.update s.actor s.started
      (some { user := u, predecessor := s.retired u }))
    (hs : s'.started = s.started + 1)
    (hreg : s'.registered = Function.update s.registered u (some s.started))
    (ht : s'.retired = s.retired) : Owned s' := by
  -- the new actor, and every old actor read in the new state
  have hread : ∀ {b y}, s'.actor b = some y →
      (b = s.started ∧ y = { user := u, predecessor := s.retired u }) ∨
        (b ≠ s.started ∧ s.actor b = some y) := fun hy =>
    update_eq_some_iff.1 (ha ▸ hy)
  have hold : ∀ {b y}, s.actor b = some y → s'.actor b = some y := fun {b y} hy => by
    rw [ha]
    exact update_eq_some_iff.2 (.inr ⟨Nat.ne_of_lt (h.lt_started hy), hy⟩)
  have hother : ∀ {b y}, s.actor b = some y → y.Active → y.user ≠ u := fun hy hact hu => by
    have := h.active hy hact
    rw [hu, hr] at this
    cases this
  refine
    { beyond := ?_, registered := ?_, active := ?_, tracked := ?_, waits := ?_, fits := ?_,
      exclusive := ?_ }
  · intro b hle
    rw [ha, hs] at *
    rw [Function.update_of_ne (by omega)]
    exact h.beyond (by omega)
  · intro v m hv
    rw [hreg] at hv
    rcases update_eq_some_iff.1 hv with ⟨rfl, rfl⟩ | ⟨-, hv⟩
    · exact ⟨_, by rw [ha]; exact Function.update_self .., rfl⟩
    · obtain ⟨y, hy, hyu⟩ := h.registered hv
      exact ⟨y, hold hy, hyu⟩
  · intro b y hy hact
    rw [hreg]
    rcases hread hy with ⟨rfl, rfl⟩ | ⟨-, hy⟩
    · exact Function.update_self ..
    · rw [Function.update_of_ne (hother hy hact)]
      exact h.active hy hact
  · intro b y hy hq
    rw [hreg, ht]
    rcases hread hy with ⟨rfl, rfl⟩ | ⟨-, hy⟩
    · exact .inl (Function.update_self ..)
    · by_cases hu : y.user = u
      · -- the user had no registered actor, so this one is its last retired one
        rcases h.tracked hy hq with hreg' | hret
        · rw [hu, hr] at hreg'
          cases hreg'
        · exact .inr hret
      · rw [Function.update_of_ne hu]
        exact h.tracked hy hq
  · intro b y c hy hw hc
    rw [ht] at hc
    rcases hread hy with ⟨rfl, rfl⟩ | ⟨-, hy⟩
    · exact hc
    · exact h.waits hy hw hc
  · intro b y hy
    rcases hread hy with ⟨rfl, rfl⟩ | ⟨-, hy⟩
    · simp [Fits]
    · exact h.fits hy
  · intro b c y z hy hl hz hcb hu
    rcases hread hy with ⟨rfl, rfl⟩ | ⟨-, hy₀⟩
    · -- the new actor waits, and is not live
      exact absurd hl ((show ({ user := u, predecessor := s.retired u } : Actor).Fits by
        simp [Fits]).not_live_of_waiting rfl)
    · rcases hread hz with ⟨rfl, rfl⟩ | ⟨-, hz₀⟩
      · exact .inr rfl
      · exact h.exclusive hy₀ hl hz₀ hcb hu

/-- The registry retires an actor on its way out, all other actors of its user being quiet. -/
theorem retire (h : Owned s) {a : Nat} {x : Actor} (hx : s.actor a = some x)
    (hl : x.phase = .leaving)
    (hothers : ∀ {b y}, s.actor b = some y → b ≠ a → y.user = x.user → y.Quiet) :
    Owned (s.retire a x.user) := by
  have hna : ¬ x.Active := by
    rintro (hw | hin)
    · rw [hl] at hw; cases hw
    · rw [hl] at hin; cases hin
  refine
    { beyond := ?_, registered := ?_, active := ?_, tracked := ?_, waits := ?_, fits := ?_,
      exclusive := ?_ }
  · intro b hle
    simp only [Sys.retire_actor, Sys.unregister_actor, Sys.retire_started,
      Sys.unregister_started] at hle ⊢
    exact h.beyond hle
  · intro v m hv
    simp only [Sys.retire_actor, Sys.unregister_actor, Sys.retire_registered] at hv ⊢
    rw [Sys.registered_unregister] at hv
    split at hv
    · cases hv
    · exact h.registered hv
  · intro b y hy hact
    simp only [Sys.retire_actor, Sys.unregister_actor, Sys.retire_registered] at hy ⊢
    rw [Sys.registered_unregister]
    by_cases hb : b = a
    · subst hb
      rw [hx] at hy
      cases hy
      exact absurd hact hna
    · by_cases hu : y.user = x.user
      · exact absurd hact (hothers hy hb hu).not_active
      · rw [if_neg (fun hc => hu hc.1)]
        exact h.active hy hact
  · intro b y hy hq
    simp only [Sys.retire_actor, Sys.unregister_actor, Sys.retire_registered,
      Sys.retire_retired] at hy ⊢
    rw [Sys.registered_unregister]
    by_cases hb : b = a
    · subst hb
      rw [hx] at hy
      cases hy
      exact .inr (Function.update_self ..)
    · by_cases hu : y.user = x.user
      · exact absurd (hothers hy hb hu) hq
      · rw [if_neg (fun hc => hu hc.1), Function.update_of_ne hu]
        exact h.tracked hy hq
  · intro b y c hy hw hc
    simp only [Sys.retire_actor, Sys.unregister_actor, Sys.retire_retired] at hy hc
    by_cases hb : b = a
    · subst hb
      rw [hx] at hy
      cases hy
      rw [hl] at hw
      cases hw
    · by_cases hu : y.user = x.user
      · exact absurd (Or.inl hw) (hothers hy hb hu).not_active
      · rw [Function.update_of_ne hu] at hc
        exact h.waits hy hw hc
  · intro b y hy
    simp only [Sys.retire_actor, Sys.unregister_actor] at hy
    exact h.fits hy
  · intro b c y z hy hl hz hcb hu
    simp only [Sys.retire_actor, Sys.unregister_actor] at hy hz
    exact h.exclusive hy hl hz hcb hu

/-- The registry forgets a quiet actor. -/
theorem forgetActor (h : Owned s) {a : Nat} {x : Actor} (hx : s.actor a = some x) (hq : x.Quiet)
    (u : String) : Owned (s.forgetActor a u) := by
  -- an entry the registry drops names the quiet actor
  have hdrop : ∀ {b y}, s.actor b = some y → ¬ y.Quiet → b ≠ a := fun hy hyq hb => by
    subst hb
    rw [hx] at hy
    cases hy
    exact hyq hq
  refine
    { beyond := ?_, registered := ?_, active := ?_, tracked := ?_, waits := ?_, fits := ?_,
      exclusive := ?_ }
  · intro b hle
    simp only [Sys.forgetActor_actor, Sys.unregister_actor, Sys.forgetActor_started,
      Sys.unregister_started] at hle ⊢
    exact h.beyond hle
  · intro v m hv
    simp only [Sys.forgetActor_actor, Sys.unregister_actor, Sys.forgetActor_registered] at hv ⊢
    rw [Sys.registered_unregister] at hv
    split at hv
    · cases hv
    · exact h.registered hv
  · intro b y hy hact
    simp only [Sys.forgetActor_actor, Sys.unregister_actor, Sys.forgetActor_registered] at hy ⊢
    rw [Sys.registered_unregister]
    have hr := h.active hy hact
    have hb := hdrop hy (fun hyq => hyq.not_active hact)
    rw [if_neg (fun hc => hb (Option.some.inj (hc.2.symm.trans (hc.1 ▸ hr))).symm)]
    exact hr
  · intro b y hy hyq
    simp only [Sys.forgetActor_actor, Sys.unregister_actor, Sys.forgetActor_registered] at hy ⊢
    rw [Sys.registered_unregister, Sys.retired_forgetActor]
    have hb := hdrop hy hyq
    rcases h.tracked hy hyq with hr | hr
    · left
      rw [if_neg (fun hc => hb (Option.some.inj (hc.2.symm.trans (hc.1 ▸ hr))).symm)]
      exact hr
    · right
      rw [if_neg (fun hc => hb (Option.some.inj (hc.2.symm.trans (hc.1 ▸ hr))).symm)]
      exact hr
  · intro b y c hy hw hc
    simp only [Sys.forgetActor_actor, Sys.unregister_actor] at hy
    rw [Sys.retired_forgetActor] at hc
    split at hc
    · cases hc
    · exact h.waits hy hw hc
  · intro b y hy
    simp only [Sys.forgetActor_actor, Sys.unregister_actor] at hy
    exact h.fits hy
  · intro b c y z hy hl hz hcb hu
    simp only [Sys.forgetActor_actor, Sys.unregister_actor] at hy hz
    exact h.exclusive hy hl hz hcb hu


/-- **Every step keeps the invariant.** -/
theorem step (h : Owned s) {act : Act} (hs : ReadLater.Actors.step s act = some s') : Owned s' := by
  cases act with
  | call u => rw [step_call hs]; exact h.of_eq rfl rfl rfl rfl
  | close => rw [step_close hs]; exact h.of_eq rfl rfl rfl rfl
  | lookup k =>
    obtain ⟨c, -, -, rfl⟩ := step_lookup hs
    cases hcl : s.closed
    · cases hr : s.registered c.user with
      | none =>
        rw [Sys.actorFor_of_unregistered s hcl hr]
        exact h.start hr rfl rfl rfl rfl
      | some a =>
        rw [Sys.actorFor_of_registered s hcl hr]
        exact h.setCall
    · rw [Sys.actorFor_of_closed s hcl]
      exact h.setCall
  | send k =>
    obtain ⟨c, a, x, -, -, hx, hi, rfl⟩ := step_send hs
    exact h.setCall.setActor hx (.toHandling hi (h.fits hx))
  | retry k =>
    obtain ⟨c, a, -, -, -, rfl⟩ := step_retry hs
    exact h.setCall
  | cancel k =>
    obtain ⟨c, a, -, -, rfl⟩ := step_cancel hs
    exact h.setCall
  | collect k =>
    obtain ⟨c, a, o, -, -, -, rfl⟩ := step_collect hs
    exact h.setCall
  | proceed a =>
    obtain ⟨x, hx, hw, hp, rfl⟩ := step_proceed hs
    exact h.proceed hx hw hp
  | quit a =>
    obtain ⟨x, hx, -, hph, rfl⟩ := step_quit hs
    rcases hph with ⟨hw, -⟩ | hi
    · exact h.setActor hx (.quitWaiting hw (h.fits hx))
    · exact h.setActor hx (.toLeaving hi (h.fits hx))
  | expire a =>
    obtain ⟨x, hx, hi, rfl⟩ := step_expire hs
    -- every other actor of the user is quiet beside the idle one, before and after it leaves
    have hothers := fun {b} {y} hy hb hu => h.others_quiet (b := b) (y := y) hx
      (by simp [hi, Phase.inLoop]) hy hb hu
    refine (h.setActor hx (.toLeaving hi (h.fits hx))).retire (x := { x with phase := .leaving })
      Sys.setActor_actor_self rfl fun hy hb hu => ?_
    rcases Sys.setActor_actor_eq_some.1 hy with ⟨rfl, -⟩ | ⟨-, hy⟩
    · exact absurd rfl hb
    · exact hothers hy hb hu
  | openStore a ok =>
    obtain ⟨x, k, hx, hw, he, rfl⟩ := step_openStore hs
    cases ok
    · simp only [Bool.false_eq_true, ↓reduceIte]
      exact (h.setActor hx (.unopened hw (h.fits hx))).of_eq rfl rfl rfl rfl
    · exact h.setActor hx (.opened hw he)
  | migrate a ok =>
    obtain ⟨x, k, hx, hop, rfl⟩ := step_migrate hs
    cases ok
    · exact h.setActor hx (.failing hop (h.fits hx))
    · exact (h.setActor hx (.migrated hop (h.fits hx))).of_eq rfl rfl rfl rfl
  | abandon a =>
    obtain ⟨x, k, hx, hf, rfl⟩ := step_abandon hs
    exact (h.setActor hx (.abandoned hf (h.fits hx))).of_eq rfl rfl rfl rfl
  | run a =>
    obtain ⟨x, k, hx, hw, he, rfl⟩ := step_run hs
    exact (h.setActor hx (.running hw he (h.fits hx))).of_eq rfl rfl rfl rfl
  | finish a =>
    obtain ⟨x, k, hx, hr, rfl⟩ := step_finish hs
    exact (h.setActor hx (.finished hr (h.fits hx))).of_eq rfl rfl rfl rfl
  | shutdown a =>
    obtain ⟨x, hx, -, rfl⟩ := step_shutdown hs
    exact h.setActor hx .shutdown
  | forget a =>
    obtain ⟨x, hx, hf, rfl⟩ := step_forget hs
    have hm := Moves.forgotten hf (h.fits hx)
    have hq : x.Quiet := by
      have := h.fits hx
      simp only [Fits, hf] at this
      exact ⟨by simp [hf, Phase.isOut], this.1⟩
    exact (h.setActor hx hm).forgetActor Sys.setActor_actor_self (hm.quiet hq) x.user
  | release a =>
    obtain ⟨x, hx, hr, rfl⟩ := step_release hs
    exact h.setActor hx (.released hr (h.fits hx))
  | exit a =>
    obtain ⟨x, hx, hst, rfl⟩ := step_exit hs
    exact h.setActor hx (.exited hst (h.fits hx))
  | lock c =>
    obtain ⟨-, ⟨-, rfl⟩ | ⟨-, rfl⟩⟩ := step_lock hs
    · exact h.setClosing
    · exact (show Owned { s with closed := true } from h.of_eq rfl rfl rfl rfl).setClosing
  | drain c =>
    obtain ⟨-, -, rfl⟩ := step_drain hs
    exact h.setClosing
  | timeout c =>
    obtain ⟨-, rfl⟩ := step_timeout hs
    exact h.setClosing

/-- Writing one actor by a step it evolves by leaves every actor evolved. -/
theorem evolves_update {a b : Nat} {x y y' : Actor} (hb : s.actor b = some y) (he : Evolves y y')
    (ha : s'.actor = Function.update s.actor b (some y')) (hx : s.actor a = some x) :
    ∃ x', s'.actor a = some x' ∧ Evolves x x' := by
  rw [ha]
  by_cases hab : a = b
  · subst hab
    rw [hb] at hx
    cases hx
    exact ⟨y', Function.update_self .., he⟩
  · exact ⟨x, by rw [Function.update_of_ne hab]; exact hx, .refl x⟩

/-- Every step evolves every actor: no actor is dropped or started in another's place. -/
theorem evolves_step (h : Owned s) {act : Act} (hs : ReadLater.Actors.step s act = some s')
    {a : Nat} {x : Actor} (hx : s.actor a = some x) : ∃ x', s'.actor a = some x' ∧ Evolves x x' := by
  have hkeep : ∀ {t : Sys}, t.actor = s.actor → ∃ x', t.actor a = some x' ∧ Evolves x x' :=
    fun ht => ⟨x, ht ▸ hx, .refl x⟩
  cases act with
  | call u => rw [step_call hs]; exact hkeep rfl
  | close => rw [step_close hs]; exact hkeep rfl
  | lookup k =>
    obtain ⟨c, -, -, rfl⟩ := step_lookup hs
    cases hcl : s.closed
    · cases hr : s.registered c.user with
      | none =>
        -- the new actor is numbered past every actor there is
        rw [Sys.actorFor_of_unregistered s hcl hr]
        refine ⟨x, ?_, .refl x⟩
        show Function.update s.actor s.started _ a = some x
        rw [Function.update_of_ne (Nat.ne_of_lt (h.lt_started hx))]
        exact hx
      | some b =>
        rw [Sys.actorFor_of_registered s hcl hr]
        exact hkeep rfl
    · rw [Sys.actorFor_of_closed s hcl]
      exact hkeep rfl
  | send k =>
    obtain ⟨c, b, y, -, -, hb, hi, rfl⟩ := step_send hs
    exact evolves_update hb (.of_moves (.toHandling hi (h.fits hb)) (by simp [hi])) rfl hx
  | retry k =>
    obtain ⟨c, b, -, -, -, rfl⟩ := step_retry hs
    exact hkeep rfl
  | cancel k =>
    obtain ⟨c, b, -, -, rfl⟩ := step_cancel hs
    exact hkeep rfl
  | collect k =>
    obtain ⟨c, b, o, -, -, -, rfl⟩ := step_collect hs
    exact hkeep rfl
  | proceed b =>
    obtain ⟨y, hb, hw, -, rfl⟩ := step_proceed hs
    -- a waiting actor is neither quiet nor finished
    have he : Evolves y { y with phase := .idle } :=
      ⟨rfl, fun hq => absurd (.inl hw) hq.not_active, fun hf => by rw [hw] at hf; cases hf⟩
    exact evolves_update hb he rfl hx
  | quit b =>
    obtain ⟨y, hb, -, hph, rfl⟩ := step_quit hs
    rcases hph with ⟨hw, -⟩ | hi
    · exact evolves_update hb (.of_moves (.quitWaiting hw (h.fits hb)) (by simp [hw])) rfl hx
    · exact evolves_update hb (.of_moves (.toLeaving hi (h.fits hb)) (by simp [hi])) rfl hx
  | expire b =>
    obtain ⟨y, hb, hi, rfl⟩ := step_expire hs
    exact evolves_update hb (.of_moves (.toLeaving hi (h.fits hb)) (by simp [hi])) rfl hx
  | openStore b ok =>
    obtain ⟨y, k, hb, hw, he, rfl⟩ := step_openStore hs
    cases ok
    · exact evolves_update hb (.of_moves (.unopened hw (h.fits hb)) (by simp [hw])) rfl hx
    · exact evolves_update hb (.of_moves (.opened hw he) (by simp [hw])) rfl hx
  | migrate b ok =>
    obtain ⟨y, k, hb, hop, rfl⟩ := step_migrate hs
    cases ok
    · exact evolves_update hb (.of_moves (.failing hop (h.fits hb)) (by simp [hop])) rfl hx
    · exact evolves_update hb (.of_moves (.migrated hop (h.fits hb)) (by simp [hop])) rfl hx
  | abandon b =>
    obtain ⟨y, k, hb, hf, rfl⟩ := step_abandon hs
    exact evolves_update hb (.of_moves (.abandoned hf (h.fits hb)) (by simp [hf])) rfl hx
  | run b =>
    obtain ⟨y, k, hb, hw, he, rfl⟩ := step_run hs
    exact evolves_update hb (.of_moves (.running hw he (h.fits hb)) (by simp [hw])) rfl hx
  | finish b =>
    obtain ⟨y, k, hb, hr, rfl⟩ := step_finish hs
    exact evolves_update hb (.of_moves (.finished hr (h.fits hb)) (by simp [hr])) rfl hx
  | shutdown b =>
    obtain ⟨y, hb, hl, rfl⟩ := step_shutdown hs
    exact evolves_update hb (.of_moves .shutdown (by simp [hl])) rfl hx
  | forget b =>
    obtain ⟨y, hb, hf, rfl⟩ := step_forget hs
    exact evolves_update hb (.of_moves (.forgotten hf (h.fits hb)) (by simp [hf])) rfl hx
  | release b =>
    obtain ⟨y, hb, hr, rfl⟩ := step_release hs
    exact evolves_update hb (.of_moves (.released hr (h.fits hb)) (by simp [hr])) rfl hx
  | exit b =>
    obtain ⟨y, hb, hst, rfl⟩ := step_exit hs
    exact evolves_update hb (.of_moves (.exited hst (h.fits hb)) (by simp [hst])) rfl hx
  | lock c =>
    obtain ⟨-, ⟨-, rfl⟩ | ⟨-, rfl⟩⟩ := step_lock hs
    · exact hkeep rfl
    · exact hkeep rfl
  | drain c =>
    obtain ⟨-, -, rfl⟩ := step_drain hs
    exact hkeep rfl
  | timeout c =>
    obtain ⟨-, rfl⟩ := step_timeout hs
    exact hkeep rfl

/-- One operation of a user runs at a time: two actors of a user running an operation are one
actor running one call's operation. -/
theorem one_running (h : Owned s) {a b k j : Nat} {x y : Actor} (hx : s.actor a = some x)
    (hy : s.actor b = some y) (hu : y.user = x.user) (hxr : x.phase = .handling k .running)
    (hyr : y.phase = .handling j .running) : a = b ∧ k = j := by
  have hab := h.one_holder hx hy hu ((h.fits hx).running hxr).1 ((h.fits hy).running hyr).1
  subst hab
  rw [hx] at hy
  cases hy
  rw [hxr] at hyr
  cases hyr
  exact ⟨rfl, rfl⟩

end Owned

/-- **Every state a run reaches satisfies the invariant.** -/
theorem Owned.steps {s s' : Sys} (h : Owned s) (hs : Steps s s') : Owned s' := by
  induction hs with
  | refl => exact h
  | tail _ hnext ih =>
    obtain ⟨act, hact⟩ := hnext
    exact ih.step hact

theorem reachable_owned {s : Sys} (hs : Reachable s) : Owned s :=
  Owned.init.steps hs

/-- Along a run every actor evolves. -/
theorem Owned.evolves_steps {s s' : Sys} (h : Owned s) (hs : Steps s s') {a : Nat} {x : Actor}
    (hx : s.actor a = some x) : ∃ x', s'.actor a = some x' ∧ Evolves x x' := by
  induction hs with
  | refl => exact ⟨x, hx, .refl x⟩
  | tail hrun hnext ih =>
    obtain ⟨y, hy, hxy⟩ := ih
    obtain ⟨act, hact⟩ := hnext
    obtain ⟨z, hz, hyz⟩ := (h.steps hrun).evolves_step hact hy
    exact ⟨z, hz, hxy.trans hyz⟩

end ReadLater.Actors
