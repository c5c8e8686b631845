import ReadLater.Proofs.Actors.Delivery

/-!
# No call is left waiting

The steps below are ones a party can always take, whatever the others do, so they show that
a call is never stuck where the registry leaves it.

* `Served.answered_of_taken`: a request an actor took is answered by that actor's own steps,
  and the call then returns the operation's answer or the failure of the wake;
* `Served.retries_of_out`: a call offering its request to an actor that left its loop, because
  its idle timer fired or the registry closed, goes round again, with nothing run and no reply,
  once that actor's own steps closed its stopped channel.
-/

namespace ReadLater.Actors

variable {s : Sys} {a k : Nat} {x : Actor}

/-- Call `k` awaits actor `a`, which has replied. -/
def Replied (s : Sys) (k a : Nat) : Prop :=
  ∃ c o, s.call k = some c ∧ c.phase = .awaiting a ∧ c.reply = some o

/-! ## An actor out of its loop stops by its own steps -/

/-- Actor `a`'s stopped channel gets closed, and no call moves. -/
def Stops (s : Sys) (a : Nat) : Prop :=
  ∃ s', Steps s s' ∧ s'.call = s.call ∧ s'.stoppedChan a = true

theorem stops_of_releasing (hx : s.actor a = some x) (hr : x.phase = .releasing) : Stops s a :=
  ⟨_, Steps.single (step_release_of hx hr), rfl, by simp [Sys.stoppedChan, Phase.isStopped]⟩

theorem stops_of_forgetting (hx : s.actor a = some x) (hf : x.phase = .forgetting) : Stops s a := by
  have hs := step_forget_of hx hf
  obtain ⟨s', hrun, hcall, hst⟩ := stops_of_releasing (x := { x with phase := .releasing })
    (show ((s.setActor a _).forgetActor a x.user).actor a = _ from Sys.setActor_actor_self) rfl
  exact ⟨s', Steps.head hs hrun, hcall, hst⟩

theorem stops_of_leaving (hx : s.actor a = some x) (hl : x.phase = .leaving) : Stops s a := by
  have hs := step_shutdown_of hx hl
  obtain ⟨s', hrun, hcall, hst⟩ :=
    stops_of_forgetting (x := { x with phase := .forgetting, holds := false, engine := false })
      Sys.setActor_actor_self rfl
  exact ⟨s', Steps.head hs hrun, hcall, hst⟩

/-- An actor out of its loop closes its stopped channel by its own steps. -/
theorem stops_of_out (hx : s.actor a = some x) (hout : x.phase.isOut = true) : Stops s a := by
  cases hp : x.phase with
  | leaving => exact stops_of_leaving hx hp
  | forgetting => exact stops_of_forgetting hx hp
  | releasing => exact stops_of_releasing hx hp
  | stopped => exact ⟨s, .refl, rfl, by simp [Sys.stoppedChan, hx, hp, Phase.isStopped]⟩
  | finished => exact ⟨s, .refl, rfl, by simp [Sys.stoppedChan, hx, hp, Phase.isStopped]⟩
  | waiting => simp [hp, Phase.isOut] at hout
  | idle => simp [hp, Phase.isOut] at hout
  | handling j st => simp [hp, Phase.isOut] at hout

namespace Served

/-- A reply is read by the call, which returns it. -/
theorem collects (h : Served s) {c : Call} {o : Outcome} (hc : s.call k = some c)
    (hp : c.phase = .awaiting a) (hr : c.reply = some o) :
    ∃ s', Steps s s' ∧ ∃ c', s'.call k = some c' ∧ c'.phase = .returned o ∧
      (o = .ran ∨ ∃ f, o = .wakeFailed f) :=
  ⟨_, Steps.single (step_collect_of hc hp hr), _, Function.update_self .., rfl,
    ((h.fits hc).answered hp hr).outcome⟩

/-- The actor replies to the call of a request whose operation runs. -/
theorem replies_of_running (h : Served s) (hx : s.actor a = some x)
    (hr : x.phase = .handling k .running) : ∃ s', Steps s s' ∧ Replied s' k a := by
  obtain ⟨c, hc, -, hcp, -⟩ := h.handling hx hr
  refine ⟨_, Steps.single (step_finish_of hx hr), { c with reply := some .ran }, .ran, ?_, hcp, rfl⟩
  simp [hc]

/-- The actor whose schema failed closes the store and replies with the failure. -/
theorem replies_of_failing (h : Served s) (hx : s.actor a = some x)
    (hf : x.phase = .handling k .failing) : ∃ s', Steps s s' ∧ Replied s' k a := by
  obtain ⟨c, hc, -, hcp, -⟩ := h.handling hx hf
  refine ⟨_, Steps.single (step_abandon_of hx hf), { c with reply := some (.wakeFailed .schema) },
    _, ?_, hcp, rfl⟩
  simp [hc]

/-- From the opened store the schema comes up to date and the operation runs. -/
theorem replies_of_opened (h : Served s) (ho : Owned s) (hx : s.actor a = some x)
    (hop : x.phase = .handling k .opened) : ∃ s', Steps s s' ∧ Replied s' k a := by
  have hs := step_migrate_of hx hop
  obtain ⟨s', hrun, hrep⟩ := (h.step ho hs).replies_of_running (k := k)
    (x := { x with engine := true, phase := .handling k .running }) Sys.setActor_actor_self rfl
  exact ⟨s', Steps.head hs hrun, hrep⟩

/-- A woken actor opens its store, or finds its engine built, and the operation runs. -/
theorem replies_of_wake (h : Served s) (ho : Owned s) (hx : s.actor a = some x)
    (hw : x.phase = .handling k .wake) : ∃ s', Steps s s' ∧ Replied s' k a := by
  cases he : x.engine
  · have hs := step_openStore_of hx hw he
    obtain ⟨s', hrun, hrep⟩ := (h.step ho hs).replies_of_opened (ho.step hs)
      (x := { x with phase := .handling k .opened, holds := true }) Sys.setActor_actor_self rfl
    exact ⟨s', Steps.head hs hrun, hrep⟩
  · have hs := step_run_of hx hw he
    obtain ⟨s', hrun, hrep⟩ := (h.step ho hs).replies_of_running (k := k)
      (x := { x with phase := .handling k .running }) Sys.setActor_actor_self rfl
    exact ⟨s', Steps.head hs hrun, hrep⟩

/-- An actor handling a request replies to it by its own steps. -/
theorem replies_of_handling (h : Served s) (ho : Owned s) {st : Stage} (hx : s.actor a = some x)
    (hst : x.phase = .handling k st) : ∃ s', Steps s s' ∧ Replied s' k a := by
  cases st with
  | wake => exact h.replies_of_wake ho hx hst
  | opened => exact h.replies_of_opened ho hx hst
  | failing => exact h.replies_of_failing hx hst
  | running => exact h.replies_of_running hx hst

/-- **A request an actor took is answered.** Whatever else happens, the actor's own steps
answer it and the call returns the operation's answer or the failure of the wake: it is not
lost to the idle timer, and the call does not return the end of its context. -/
theorem answered_of_taken (h : Served s) (ho : Owned s) {c : Call} (hc : s.call k = some c)
    (hp : c.phase = .awaiting a) :
    ∃ s', Steps s s' ∧ ∃ c' o, s'.call k = some c' ∧ c'.phase = .returned o ∧
      (o = .ran ∨ ∃ f, o = .wakeFailed f) := by
  cases hr : c.reply with
  | some o =>
    obtain ⟨s', hs', c', hc', hp', ho'⟩ := h.collects hc hp hr
    exact ⟨s', hs', c', o, hc', hp', ho'⟩
  | none =>
    obtain ⟨y, st, hy, hst⟩ := h.taken hc hp hr
    obtain ⟨s₁, hs₁, d, o, hd, hdp, hdr⟩ := h.replies_of_handling ho hy hst
    obtain ⟨s', hs', c', hc', hp', ho'⟩ := (h.steps ho hs₁).collects hd hdp hdr
    exact ⟨s', hs₁.trans hs', c', o, hc', hp', ho'⟩

/-- **A call that met a retiring actor goes round again.** A call offering its request to an
actor out of its loop, because its idle timer fired or the registry closed, returns to the top
of its loop once that actor stopped, with no reply and its operation not run. -/
theorem retries_of_out (h : Served s) {c : Call} (hc : s.call k = some c)
    (hp : c.phase = .offering a) (hx : s.actor a = some x) (hout : x.phase.isOut = true) :
    ∃ s', Steps s s' ∧ ∃ c', s'.call k = some c' ∧ c'.phase = .lookup ∧ c'.reply = none ∧
      c'.ranOn = [] := by
  obtain ⟨hr, hran, -⟩ := (h.fits hc).offering hp
  obtain ⟨s₁, hs₁, hcall, hst⟩ := stops_of_out hx hout
  have hc₁ : s₁.call k = some c := by rw [hcall]; exact hc
  exact ⟨_, hs₁.trans (Steps.single (step_retry_of hc₁ hp hst)), _, Function.update_self .., rfl,
    hr, hran⟩

end Served

end ReadLater.Actors
