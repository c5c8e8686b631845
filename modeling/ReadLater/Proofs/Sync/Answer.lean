import Mathlib
import ReadLater.Proofs.Sync.Replay

/-!
# What a push answers

A push is refused before anything runs when it breaks an input rule. Otherwise it processes its
sorted mutations until one fails. `Halts req m d f` lists how processing the mutation `m` from
the store `d` can fail: the client is registered in another group, a fault that carries no
problem (storage), or a gap after the client's last applied id. `Passes` is a pass over mutations
that processes every one of them, as a duplicate or as the client's next mutation.

* `firstAttempt_halts`, `process_halts`: processing a mutation fails only in one of the three ways,
  and a failure leaves the store as it was;
* `processAll_passes`, `processAll_halts`: a run over the sorted mutations passes them all and
  answers the client's last applied id, or passes a prefix of them and halts at the next one;
* `push_fails`, `push_ok`: every answer of a push, with the store it leaves;
* `push_invalid`, `push_mismatch`, `push_empty`: what a push answers to a request that breaks an
  input rule, and to a client registered in another group, with and without mutations;
* **`push_answers`**: the answer of a push, for every store and request.

A client registered in another group is refused only once it pushes a mutation: a push with none
reports the client's progress (`empty_push_from_other_group_answered`).
-/

namespace ReadLater

open Clock Store Std.Do

set_option mvcgen.warning false

namespace Store.Txn

/-- What a triple about a transaction says of a run of it that fails. -/
theorem of_triple_fails {α : Type} {t : Txn α} {P : TxnState → Ambient → Prop}
    {E : Failure → Prop}
    (ht : ⦃fun s amb => ⌜P s amb⌝⦄ t ⦃post⟨fun _ _ _ => ⌜True⌝, fun f _ => ⌜E f⌝⟩⦄)
    {s : TxnState} {amb amb' : Ambient} {f : Failure} (hP : P s amb)
    (h : t.exec s amb = (.error f, amb')) : E f := by
  have hwp := ht s amb hP
  simp only [WP.wp, PredTrans.pushArg, PredTrans.pushExcept, PredTrans.apply, StateT.run,
    Id.run] at hwp
  simp only [exec, StateT.run, Id.run] at h
  rw [h] at hwp
  exact hwp

/-- Reading the version of a store whose counter is set. -/
theorem currentVersion_of {d : Database} {v : Int} (hv : d.counterValue = .ok (some v))
    (tk : VersionTicket) (amb : Ambient) :
    Txn.currentVersion.exec ⟨d, tk⟩ amb = (.ok (v, ⟨d, tk⟩), amb) := by
  simp [Txn.currentVersion, Txn.exec_bind, Txn.exec_read, hv]

/-- Reading the version fails only on a storage fault. -/
theorem currentVersion_fails :
    ⦃fun _ _ => ⌜True⌝⦄ Txn.currentVersion
    ⦃post⟨fun _ _ _ => ⌜True⌝, fun f _ => ⌜f.problem? = none⌝⟩⦄ := by
  mvcgen [Txn.currentVersion, Txn.read, Txn.failWith]

end Store.Txn

namespace Sync

variable {req : PushRequest}

/-! ## How processing a mutation fails -/

/-- How processing the mutation `m` of a push from the store `d` can fail: the client is
registered in another group, a fault that carries no problem, or `m` skips ids past the client's
next one, which asks the client to resynchronise from its last applied id. -/
inductive Halts (req : PushRequest) (m : Mutation) (d : Database) : Failure → Prop
  | mismatch : Halts req m d (.problem (.clientGroupMismatch req.clientId))
  | fault {f : Failure} (h : f.problem? = none) : Halts req m d f
  | gap (h : d.lastId req.clientId + 1 < m.id) :
      Halts req m d (.problem (.resyncRequired req.clientId (d.lastId req.clientId) m.id))

/-- A resync names the pushing client, its last applied id and the mutation that skipped ids. -/
theorem Halts.resync {m : Mutation} {d : Database} {f : Failure} {c : String} {a g : Int}
    (h : Halts req m d f) (hf : f.problem? = some (.resyncRequired c a g)) :
    c = req.clientId ∧ a = d.lastId req.clientId ∧ g = m.id ∧ a + 1 < g := by
  cases h with
  | mismatch => simp [Failure.problem?] at hf
  | fault h => simp [h] at hf
  | gap h =>
    simp only [Failure.problem?, Option.some.injEq, Problem.resyncRequired.injEq] at hf
    obtain ⟨rfl, rfl, rfl⟩ := hf
    exact ⟨rfl, rfl, rfl, h⟩

/-- Processing a mutation never fails on the request's input. -/
theorem Halts.not_validation {m : Mutation} {d : Database} {f : Failure} (h : Halts req m d f)
    (reason : String) : f.problem? ≠ some (.validation reason) := by
  cases h <;> simp_all [Failure.problem?]

/-- Loading the client fails only when it is registered in another group, or on a storage
fault. -/
theorem loadClient_fails :
    ⦃fun _ _ => ⌜True⌝⦄ loadClient req
    ⦃post⟨fun _ _ _ => ⌜True⌝, fun f _ =>
      ⌜f = .problem (.clientGroupMismatch req.clientId) ∨ f.problem? = none⌝⟩⦄ := by
  mvcgen [loadClient, Txn.read, Txn.write, Txn.now, Txn.ambient, readClock, Txn.fail]
  all_goals simp [Failure.problem?]

/-- Recording a client's progress fails only on a storage fault. -/
theorem advanceClient_fails (cl : Client) (id : Int) :
    ⦃fun _ _ => ⌜True⌝⦄ advanceClient cl id
    ⦃post⟨fun _ _ _ => ⌜True⌝, fun f _ => ⌜f.problem? = none⌝⟩⦄ := by
  mvcgen [advanceClient, Txn.nextVersion, Txn.loadTicket, Txn.currentVersion, Txn.commitVersion,
    Txn.advanceVersion, Txn.read, Txn.write, Txn.writeCounting, Txn.now, Txn.ambient, readClock,
    Txn.failWith]

theorem loadClient_halts {m : Mutation} {d : Database} {s : TxnState} {f : Failure}
    {amb amb' : Ambient} (h : (loadClient req).exec s amb = (.error f, amb')) : Halts req m d f := by
  rcases Txn.of_triple_fails loadClient_fails trivial h with rfl | hf
  · exact .mismatch
  · exact .fault hf

/-- The first transaction of a mutation fails only in one of the three ways. -/
theorem firstAttempt_halts {m : Mutation} {d : Database} {f : Failure} {amb amb' : Ambient}
    (h : (firstAttempt req m).exec ⟨d, {}⟩ amb = (.error f, amb')) : Halts req m d f := by
  simp only [firstAttempt, Txn.exec_bind] at h
  rcases hl : (loadClient req).exec ⟨d, {}⟩ amb with ⟨f₁ | ⟨cl, ⟨d₁, tk₁⟩⟩, amb₁⟩ <;> rw [hl] at h
  · cases h
    exact loadClient_halts hl
  obtain ⟨-, hload⟩ := Txn.of_triple (loadClient_loads ⟨d, {}⟩) rfl hl
  have hlast := hload.lastId_eq
  have hid := hload.id_eq
  dsimp only at h hload hlast
  split at h
  · -- a duplicate only stamps the client
    simp only [Txn.exec_bind, Txn.exec_ambient] at h
    generalize (StateT.run (countMutation "duplicate") amb₁).run.2 = amb₂ at h
    simp only [Txn.exec_now, Txn.exec_write] at h
    rcases hw : d₁.touchClient cl.id amb₂.clock with e | db₂ <;> simp only [hw] at h
    · simp only [Prod.mk.injEq, Except.error.injEq] at h
      obtain ⟨⟨rfl⟩, -⟩ := h
      exact .fault rfl
    · simp [Txn.exec_pure] at h
  split at h
  · -- the gap is checked against the loaded client, whose progress is the store's
    simp only [Txn.exec_bind, Txn.exec_fail] at h
    cases h
    rw [hid, ← hlast]
    exact .gap (by omega)
  simp only [Txn.exec_withTicket, Txn.exec_bind, Txn.exec_tryCatch, Txn.exec_pure] at h
  rcases hr : m.run.exec { db := d₁ } amb₁ with ⟨f' | ⟨⟨⟩, s₂⟩, amb₂⟩ <;> simp only [hr] at h
  · -- a problem of the effect is a rejection; any other failure is passed on, wrapped
    rcases hp : f'.problem? with _ | p <;> simp only [hp, Txn.exec_throw, Txn.exec_pure] at h
    · simp only [Prod.mk.injEq, Except.error.injEq] at h
      obtain ⟨rfl, -⟩ := h
      exact .fault (by simpa [Failure.wrap, Failure.problem?] using hp)
    · simp at h
  · simp only [Txn.exec_bind] at h
    rcases ha : (advanceClient cl m.id).exec s₂ amb₂ with ⟨f₂ | ⟨⟨⟩, s₃⟩, amb₃⟩ <;>
      simp only [ha] at h
    · simp only [Prod.mk.injEq, Except.error.injEq] at h
      obtain ⟨rfl, -⟩ := h
      exact .fault (Txn.of_triple_fails (advanceClient_fails cl m.id) trivial ha)
    · simp [Txn.exec_ambient] at h

/-- Processing a mutation fails as its first transaction can, or as the second one that records
a rejection can, and leaves the store as it was. -/
theorem process_halts {m : Mutation} {d d' : Database} {f : Failure} {amb amb' : Ambient}
    (h : (process req m).exec d amb = ((.error f, d'), amb')) : d' = d ∧ Halts req m d f := by
  simp only [process, Work.exec_bind, Work.exec_get, Work.exec_attempt] at h
  rcases hf : (firstAttempt req m).exec ⟨d, {}⟩ amb with ⟨f₁ | ⟨step, s⟩, amb₁⟩ <;>
    simp only [hf] at h
  · split at h <;>
      simp only [Work.exec_bind, Work.exec_ambient, Work.exec_throw, Prod.mk.injEq,
        Except.error.injEq] at h <;>
      obtain ⟨⟨rfl, rfl⟩, -⟩ := h <;> exact ⟨rfl, firstAttempt_halts hf⟩
  cases step with
  | done last => simp at h
  | rejected p =>
    -- the second transaction runs from the store before the first
    simp only [Work.exec_bind, Work.exec_set, Work.exec_atomically, Txn.exec_withTicket,
      Txn.exec_bind] at h
    rcases hl : (loadClient req).exec ⟨d, {}⟩ amb₁ with ⟨f₂ | ⟨cl, ⟨d₁, tk₁⟩⟩, amb₂⟩ <;>
      simp only [hl] at h
    · simp only [Prod.mk.injEq, Except.error.injEq] at h
      obtain ⟨⟨rfl, rfl⟩, -⟩ := h
      exact ⟨rfl, loadClient_halts hl⟩
    rcases ha : (advanceClient cl m.id).exec ⟨d₁, tk₁⟩ amb₂ with ⟨f₃ | ⟨⟨⟩, s₃⟩, amb₃⟩ <;>
      simp only [ha] at h
    · simp only [Prod.mk.injEq, Except.error.injEq] at h
      obtain ⟨⟨rfl, rfl⟩, -⟩ := h
      exact ⟨rfl, .fault (Txn.of_triple_fails (advanceClient_fails cl m.id) trivial ha)⟩
    · simp [Work.exec_ambient] at h

/-! ## Runs over the sorted mutations -/

/-- A pass that processes every one of the mutations from the store `d` and ends in `d'`: each
duplicate stamps its stored client and each commit is of the client's next mutation; `cs` lists
the committed mutations in order. -/
inductive Passes (req : PushRequest) : Database → List Mutation → Database → List Mutation → Prop
  | nil (d : Database) : Passes req d [] d []
  | duplicate {d d' : Database} {m : Mutation} {rest cs : List Mutation} {cl : Client} (t : Instant)
      (hfind : d.clients.find? (·.id == req.clientId) = some cl) (hg : cl.groupId = req.groupId)
      (hle : m.id ≤ cl.lastMutationId) (h : Passes req (d.touched req.clientId t) rest d' cs) :
      Passes req d (m :: rest) d' cs
  | commit {d d₁ d' : Database} {m : Mutation} {rest cs : List Mutation} {p : Option Problem}
      (hnext : m.id = d.lastId req.clientId + 1) (hc : Commits req m d p d₁)
      (h : Passes req d₁ rest d' cs) : Passes req d (m :: rest) d' (m :: cs)

/-- A pass over every mutation is a replay: the ids it commits follow the client's last applied
one, each once and in order. -/
theorem Passes.replays {d d' : Database} {ms cs : List Mutation} (h : Passes req d ms d' cs) :
    Replays req d ms d' cs := by
  induction h with
  | nil d => exact .nil d
  | duplicate t hfind hg hle _ ih => exact .duplicate t hfind hg hle ih
  | commit hnext hc _ ih => exact .commit hnext hc ih

namespace Processed

variable {m : Mutation} {d d₁ : Database} {last : Int} {p : Option Problem}

/-- The id a processed mutation answers is the client's last applied id after it. -/
theorem lastId (hp : Processed req m d (.ok (last, p)) d₁) : d₁.lastId req.clientId = last := by
  cases hp with
  | duplicate t hfind hg hle => rw [Database.lastId_touched, Database.lastId_of_find hfind]
  | committed hnext hc => rw [hc.lastId, if_pos rfl]

theorem passes {rest cs : List Mutation} {d' : Database} (hp : Processed req m d (.ok (last, p)) d₁)
    (h : Passes req d₁ rest d' cs) : ∃ cs', Passes req d (m :: rest) d' cs' := by
  cases hp with
  | duplicate t hfind hg hle => exact ⟨cs, .duplicate t hfind hg hle h⟩
  | committed hnext hc => exact ⟨m :: cs, .commit hnext hc h⟩

end Processed

/-- A run over mutations with positive ids that succeeds passes all of them, and answers the
client's last applied id after them, or the id it started from when there are none. -/
theorem processAll_passes {ms : List Mutation} (hpos : ∀ m ∈ ms, 1 ≤ m.id) {a applied : Int}
    {rs rs' : List MutationRejection} {d d' : Database} {amb amb' : Ambient}
    (h : (processAll req ms a rs).exec d amb = ((.ok (applied, rs'), d'), amb')) :
    (∃ cs, Passes req d ms d' cs) ∧ applied = if ms = [] then a else d'.lastId req.clientId := by
  induction ms generalizing a rs d amb with
  | nil =>
    simp only [processAll, Work.exec_pure, Prod.mk.injEq, Except.ok.injEq] at h
    obtain ⟨⟨⟨rfl, -⟩, rfl⟩, -⟩ := h
    exact ⟨⟨[], .nil d⟩, by simp⟩
  | cons m rest ih =>
    simp only [processAll, Work.exec_bind] at h
    rcases hp : (process req m).exec d amb with ⟨⟨_ | ⟨last, rej⟩, d₁⟩, amb₁⟩ <;> rw [hp] at h
    · simp at h
    have hproc := process_processed (hpos m (by simp)) hp
    obtain ⟨⟨cs, hpass⟩, happ⟩ := ih (fun x hx => hpos x (by simp [hx])) h
    refine ⟨hproc.passes hpass, ?_⟩
    rw [happ, if_neg (List.cons_ne_nil m rest)]
    split
    · -- the last mutation answers the client's last applied id
      subst rest
      cases hpass
      exact hproc.lastId.symm
    · rfl

/-- A run over mutations with positive ids that fails passes a prefix of them and halts at the
next one, in the store the prefix left. -/
theorem processAll_halts {ms : List Mutation} (hpos : ∀ m ∈ ms, 1 ≤ m.id) {a : Int}
    {rs : List MutationRejection} {d d' : Database} {f : Failure} {amb amb' : Ambient}
    (h : (processAll req ms a rs).exec d amb = ((.error f, d'), amb')) :
    ∃ pre m rest cs, ms = pre ++ m :: rest ∧ Passes req d pre d' cs ∧ Halts req m d' f := by
  induction ms generalizing a rs d amb with
  | nil => simp [processAll] at h
  | cons m rest ih =>
    simp only [processAll, Work.exec_bind] at h
    rcases hp : (process req m).exec d amb with ⟨⟨f₁ | ⟨last, rej⟩, d₁⟩, amb₁⟩ <;> rw [hp] at h
    · simp only [Prod.mk.injEq, Except.error.injEq] at h
      obtain ⟨⟨rfl, rfl⟩, -⟩ := h
      obtain ⟨rfl, hh⟩ := process_halts hp
      exact ⟨[], m, rest, [], rfl, .nil _, hh⟩
    · obtain ⟨pre, m', rest', cs, rfl, hpass, hh⟩ := ih (fun x hx => hpos x (by simp [hx])) h
      obtain ⟨cs', hpass'⟩ := (process_processed (hpos m (by simp)) hp).passes hpass
      exact ⟨m :: pre, m', rest', cs', rfl, hpass', hh⟩

/-! ## The input rules of a push -/

/-- A push request that breaks an input rule: an empty client or group id, more than `n`
mutations, or a mutation id below one. -/
def PushRequest.Invalid (n : Nat) (req : PushRequest) : Prop :=
  req.clientId = "" ∨ req.groupId = "" ∨ n < req.mutations.length ∨ ∃ m ∈ req.mutations, m.id < 1

instance (n : Nat) (req : PushRequest) : Decidable (req.Invalid n) :=
  inferInstanceAs (Decidable (_ ∨ _ ∨ _ ∨ _))

/-- The input rules as a push checks them: the ids below one are looked for in the sorted
mutations, which are the request's in another order. -/
theorem PushRequest.invalid_iff {n : Nat} :
    req.Invalid n ↔ (req.clientId.isEmpty || req.groupId.isEmpty) = true ∨
      req.mutations.length > n ∨ ∃ bad, req.sorted.find? (fun m => decide (m.id < 1)) = some bad := by
  have hmem : (∃ m ∈ req.mutations, m.id < 1) ↔
      ∃ bad, req.sorted.find? (fun m => decide (m.id < 1)) = some bad := by
    rw [← Option.isSome_iff_exists, List.find?_isSome]
    simp [PushRequest.sorted, List.mem_mergeSort]
  simp only [PushRequest.Invalid, Bool.or_eq_true, String.isEmpty_iff, hmem, gt_iff_lt, or_assoc]

theorem PushRequest.valid_of {n : Nat} (h₁ : ¬(req.clientId.isEmpty || req.groupId.isEmpty) = true)
    (h₂ : ¬req.mutations.length > n)
    (h₃ : ∀ bad, req.sorted.find? (fun m => decide (m.id < 1)) = some bad → False) :
    ¬ req.Invalid n := by
  rw [PushRequest.invalid_iff]
  rintro (h | h | ⟨bad, hb⟩)
  · exact h₁ h
  · exact h₂ h
  · exact h₃ bad hb

theorem PushRequest.checks_of_valid {n : Nat} (h : ¬ req.Invalid n) :
    (req.clientId.isEmpty || req.groupId.isEmpty) = false ∧ ¬ req.mutations.length > n ∧
      (req.mutations.mergeSort fun a b => decide (a.id ≤ b.id)).find? (fun m => decide (m.id < 1)) =
        none := by
  simp only [PushRequest.invalid_iff, not_or, not_exists] at h
  obtain ⟨h₁, h₂, h₃⟩ := h
  refine ⟨by simpa using h₁, h₂, ?_⟩
  cases hf : (req.mutations.mergeSort fun a b => decide (a.id ≤ b.id)).find?
      (fun m => decide (m.id < 1)) with
  | none => rfl
  | some bad => exact absurd hf (h₃ bad)

theorem PushRequest.sorted_pos {n : Nat} (h : ¬ req.Invalid n) : ∀ m ∈ req.sorted, 1 ≤ m.id := by
  intro m hm
  have hm' : m ∈ req.mutations := by simpa [PushRequest.sorted, List.mem_mergeSort] using hm
  by_contra hlt
  exact h (.inr (.inr (.inr ⟨m, hm', by omega⟩)))

/-! ## The answer of a push -/

/-- The last step of a push reads the version for its answer: it changes nothing, and fails only
on a storage fault. -/
theorem exec_answer (applied : Int) (rs : List MutationRejection) {d d' : Database}
    {r : Except Failure PushReport} {amb amb' : Ambient}
    (h : (Work.atomically Txn.currentVersion >>= fun v =>
      pure (⟨applied, v, rs⟩ : PushReport)).exec d amb = ((r, d'), amb')) :
    d' = d ∧ (∀ rep, r = .ok rep → rep.appliedUpTo = applied ∧ d.counter = some rep.version) ∧
      ∀ f, r = .error f → f.problem? = none := by
  simp only [Work.exec_bind, Work.exec_atomically] at h
  rcases hv : Txn.currentVersion.exec ⟨d, {}⟩ amb with ⟨f | ⟨v, s⟩, amb₁⟩ <;> simp only [hv] at h
  · simp only [Prod.mk.injEq] at h
    obtain ⟨⟨rfl, rfl⟩, -⟩ := h
    refine ⟨rfl, fun _ h => (by cases h), fun f' hf => ?_⟩
    cases hf
    exact Txn.of_triple_fails Txn.currentVersion_fails trivial hv
  · obtain ⟨rfl, -, hc⟩ := Txn.currentVersion_ok hv
    simp only [Work.exec_pure, Prod.mk.injEq] at h
    obtain ⟨⟨rfl, rfl⟩, -⟩ := h
    refine ⟨rfl, fun rep h => ?_, fun _ h => (by cases h)⟩
    cases h
    exact ⟨rfl, hc⟩

/-- A request that breaks an input rule is refused, and nothing changes. -/
theorem push_invalid {n : Nat} {d : Database} {amb : Ambient} (hinv : req.Invalid n) :
    ∃ reason, (push n req).exec d amb = ((.error (.problem (.validation reason)), d), amb) := by
  simp only [push]
  split
  · exact ⟨_, rfl⟩
  split
  · exact ⟨_, rfl⟩
  split
  · exact ⟨_, rfl⟩
  rename_i h₁ h₂ _ h₃
  exact absurd hinv (PushRequest.valid_of h₁ h₂ h₃)

/-- **Every failure of a push.** It is refused on its input, before anything changes; or it
halts at a mutation after a prefix of its sorted mutations passed; or a storage fault follows
once they all passed. -/
theorem push_fails {n : Nat} {d d' : Database} {f : Failure} {amb amb' : Ambient}
    (h : (push n req).exec d amb = ((.error f, d'), amb')) :
    (req.Invalid n ∧ d' = d ∧ ∃ reason, f = .problem (.validation reason)) ∨
    (¬ req.Invalid n ∧
      ((∃ pre m rest cs, req.sorted = pre ++ m :: rest ∧ Passes req d pre d' cs ∧ Halts req m d' f) ∨
       (∃ cs, Passes req d req.sorted d' cs) ∧ f.problem? = none)) := by
  rcases em (req.Invalid n) with hinv | hval
  · obtain ⟨r, hr⟩ := @push_invalid req n d amb hinv
    rw [hr] at h
    simp only [Prod.mk.injEq, Except.error.injEq] at h
    obtain ⟨⟨rfl, rfl⟩, -⟩ := h
    exact .inl ⟨hinv, rfl, r, rfl⟩
  refine .inr ⟨hval, ?_⟩
  obtain ⟨h₁, h₂, h₃⟩ := PushRequest.checks_of_valid hval
  simp only [push, h₁, h₂, h₃, Bool.false_eq_true, ↓reduceIte, Work.exec_bind] at h
  rcases hp : (processAll req req.sorted 0 []).exec d amb with ⟨⟨f₁ | ⟨applied, rs⟩, d₁⟩, amb₁⟩ <;>
    rw [PushRequest.sorted] at hp <;> rw [hp] at h
  · simp only [Prod.mk.injEq, Except.error.injEq] at h
    obtain ⟨⟨rfl, rfl⟩, -⟩ := h
    exact .inl (processAll_halts (PushRequest.sorted_pos hval) hp)
  obtain ⟨hpass, -⟩ := processAll_passes (PushRequest.sorted_pos hval) hp
  -- what follows the mutations only reads the store
  dsimp only at h
  split at h
  · simp only [Work.exec_bind, Work.exec_atomically, Txn.exec_read] at h
    rcases hc : d₁.clientById req.clientId with e | c <;> simp only [hc] at h
    · simp only [Prod.mk.injEq, Except.error.injEq] at h
      obtain ⟨⟨rfl, rfl⟩, -⟩ := h
      exact .inr ⟨hpass, rfl⟩
    cases c <;> rw [pure_bind] at h <;> obtain ⟨rfl, -, hf⟩ := exec_answer _ _ h <;>
      exact .inr ⟨hpass, hf f rfl⟩
  rw [pure_bind] at h
  obtain ⟨rfl, -, hf⟩ := exec_answer _ _ h
  exact .inr ⟨hpass, hf f rfl⟩

/-- **Every success of a push.** The request keeps the input rules, every mutation passed, and
the answer is the client's last applied id and the version of the store the push leaves. -/
theorem push_ok {n : Nat} {d d' : Database} {rep : PushReport} {amb amb' : Ambient}
    (h : (push n req).exec d amb = ((.ok rep, d'), amb')) :
    ¬ req.Invalid n ∧ (∃ cs, Passes req d req.sorted d' cs) ∧
      rep.appliedUpTo = d'.lastId req.clientId ∧ d'.counter = some rep.version := by
  have hval : ¬ req.Invalid n := fun hinv => by
    obtain ⟨r, hr⟩ := @push_invalid req n d amb hinv
    rw [hr] at h
    cases h
  obtain ⟨h₁, h₂, h₃⟩ := PushRequest.checks_of_valid hval
  simp only [push, h₁, h₂, h₃, Bool.false_eq_true, ↓reduceIte, Work.exec_bind] at h
  rcases hp : (processAll req req.sorted 0 []).exec d amb with ⟨⟨f₁ | ⟨applied, rs⟩, d₁⟩, amb₁⟩ <;>
    rw [PushRequest.sorted] at hp <;> rw [hp] at h
  · simp at h
  obtain ⟨hpass, happ⟩ := processAll_passes (PushRequest.sorted_pos hval) hp
  dsimp only at h
  split at h
  · -- no mutation: the client's progress is read afresh
    rename_i hempty
    simp only [Work.exec_bind, Work.exec_atomically, Txn.exec_read] at h
    rcases hc : d₁.clientById req.clientId with e | c <;> simp only [hc] at h
    · simp at h
    have hfind := Database.clientById_ok hc
    cases c with
    | some c =>
      rw [pure_bind] at h
      obtain ⟨rfl, hok, -⟩ := exec_answer _ _ h
      obtain ⟨happ', hv⟩ := hok rep rfl
      exact ⟨hval, hpass, happ'.trans (Database.lastId_of_find hfind.symm).symm, hv⟩
    | none =>
      obtain ⟨rfl, hok, -⟩ := exec_answer _ _ h
      obtain ⟨happ', hv⟩ := hok rep rfl
      refine ⟨hval, hpass, ?_, hv⟩
      rw [happ', happ, PushRequest.sorted, if_pos (List.isEmpty_iff.1 hempty),
        Database.lastId_of_find_none hfind.symm]
  · rename_i hne
    rw [pure_bind] at h
    obtain ⟨rfl, hok, -⟩ := exec_answer _ _ h
    obtain ⟨happ', hv⟩ := hok rep rfl
    refine ⟨hval, hpass, ?_, hv⟩
    rw [happ', happ, PushRequest.sorted, if_neg (fun he => hne (List.isEmpty_iff.2 he))]

section OtherGroup

variable {d : Database} {cl : Client} (hc : d.clientById req.clientId = .ok (some cl))
  (hg : cl.groupId ≠ req.groupId)
include hc hg

theorem loadClient_mismatch (tk : VersionTicket) (amb : Ambient) :
    (loadClient req).exec ⟨d, tk⟩ amb = (.error (.problem (.clientGroupMismatch req.clientId)), amb) := by
  simp [loadClient, Txn.exec_bind, Txn.exec_read, hc, hg]
  rfl

theorem process_mismatch (m : Mutation) (amb : Ambient) :
    (process req m).exec d amb = ((.error (.problem (.clientGroupMismatch req.clientId)), d), amb) := by
  have hf : (firstAttempt req m).exec ⟨d, {}⟩ amb =
      (.error (.problem (.clientGroupMismatch req.clientId)), amb) := by
    simp only [firstAttempt, Txn.exec_bind, loadClient_mismatch hc hg]
  simp [process, Work.exec_bind, Work.exec_attempt, hf, Failure.isResync, Failure.problem?]

/-- A client registered in another group is refused at its first mutation, before anything
changes. -/
theorem push_mismatch {n : Nat} (hval : ¬ req.Invalid n) (hne : req.mutations ≠ []) (amb : Ambient) :
    (push n req).exec d amb = ((.error (.problem (.clientGroupMismatch req.clientId)), d), amb) := by
  obtain ⟨h₁, h₂, h₃⟩ := PushRequest.checks_of_valid hval
  obtain ⟨m, rest, hms⟩ : ∃ m rest,
      (req.mutations.mergeSort fun a b => decide (a.id ≤ b.id)) = m :: rest := by
    cases hs : req.mutations.mergeSort fun a b => decide (a.id ≤ b.id) with
    | nil =>
      have hlen : (req.mutations.mergeSort fun a b => decide (a.id ≤ b.id)).length =
          req.mutations.length := List.length_mergeSort _
      rw [hs, List.length_nil] at hlen
      exact absurd (List.eq_nil_of_length_eq_zero hlen.symm) hne
    | cons m rest => exact ⟨m, rest, rfl⟩
  have hrun : (processAll req (m :: rest) 0 []).exec d amb =
      ((.error (.problem (.clientGroupMismatch req.clientId)), d), amb) := by
    simp only [processAll, Work.exec_bind, process_mismatch hc hg]
  simp only [push, h₁, h₂, h₃, Bool.false_eq_true, ↓reduceIte, Work.exec_bind]
  rw [hms, hrun]

end OtherGroup

/-- A push with no mutation from a stored client answers the client's last applied id and the
version, whatever the client's group. -/
theorem push_empty {n : Nat} {d : Database} {cl : Client} {v : Int} (hval : ¬ req.Invalid n)
    (hnil : req.mutations = []) (hc : d.clientById req.clientId = .ok (some cl))
    (hv : d.counterValue = .ok (some v)) (amb : Ambient) :
    (push n req).exec d amb = ((.ok ⟨cl.lastMutationId, v, []⟩, d), amb) := by
  obtain ⟨h₁, h₂, h₃⟩ := PushRequest.checks_of_valid hval
  simp only [push, h₁, h₂, h₃, Bool.false_eq_true, ↓reduceIte, Work.exec_bind]
  simp only [hnil, List.mergeSort_nil, processAll, Work.exec_bind, Work.exec_pure, List.isEmpty_nil,
    ↓reduceIte, Work.exec_atomically, Txn.exec_read, hc, pure_bind, Txn.currentVersion_of hv]

/-- **What a push answers.** A request that breaks an input rule is refused before anything
changes, and only such a request is refused on its input. A client registered in another group
is refused at its first mutation, with the store unchanged; a push of no mutation is answered with
its last applied id instead. A resync is asked for at a mutation that skips ids past the client's
next one, once every mutation before it passed: it names the client's last applied id in the
store the push leaves, which is the store after those mutations. A push that succeeds passed every
mutation and answers the client's last applied id and the version of the store it leaves. -/
theorem push_answers (n : Nat) (req : PushRequest) (d : Database) (amb : Ambient) :
    (req.Invalid n →
      ∃ reason, (push n req).exec d amb = ((.error (.problem (.validation reason)), d), amb)) ∧
    (∀ cl, ¬ req.Invalid n → d.clientById req.clientId = .ok (some cl) → cl.groupId ≠ req.groupId →
      (req.mutations ≠ [] →
        (push n req).exec d amb = ((.error (.problem (.clientGroupMismatch req.clientId)), d), amb)) ∧
      ∀ v, req.mutations = [] → d.counterValue = .ok (some v) →
        (push n req).exec d amb = ((.ok ⟨cl.lastMutationId, v, []⟩, d), amb)) ∧
    (∀ f d' amb', (push n req).exec d amb = ((.error f, d'), amb') →
      (∀ reason, f.problem? = some (.validation reason) → req.Invalid n ∧ d' = d) ∧
      ∀ c a g, f.problem? = some (.resyncRequired c a g) →
        c = req.clientId ∧ a = d'.lastId req.clientId ∧ a + 1 < g ∧
        f.problem?.bind Problem.details =
          some [("appliedUpTo", .int a), ("expectedMutationId", .int (a + 1))] ∧
        ∃ pre m rest cs, req.sorted = pre ++ m :: rest ∧ m.id = g ∧ Passes req d pre d' cs) ∧
    (∀ rep d' amb', (push n req).exec d amb = ((.ok rep, d'), amb') →
      (∃ cs, Passes req d req.sorted d' cs) ∧ rep.appliedUpTo = d'.lastId req.clientId ∧
        d'.counter = some rep.version) := by
  refine ⟨push_invalid, fun cl hval hc hg => ⟨fun hne => push_mismatch hc hg hval hne amb,
    fun v hnil hv => push_empty hval hnil hc hv amb⟩, ?_, fun rep d' amb' h => (push_ok h).2⟩
  intro f d' amb' h
  rcases push_fails h with ⟨hinv, rfl, r, rfl⟩ | ⟨-, ⟨pre, m, rest, cs, hs, hpass, hh⟩ | ⟨-, hnone⟩⟩
  · refine ⟨fun _ _ => ⟨hinv, rfl⟩, fun c a g hf => ?_⟩
    simp [Failure.problem?] at hf
  · refine ⟨fun r hf => absurd hf (hh.not_validation r), fun c a g hf => ?_⟩
    obtain ⟨rfl, rfl, rfl, hlt⟩ := hh.resync hf
    exact ⟨rfl, rfl, hlt, by simp [hf, Problem.details], pre, m, rest, cs, hs, rfl, hpass⟩
  · exact ⟨fun r hf => by simp [hnone] at hf, fun c a g hf => by simp [hnone] at hf⟩

/-- A store whose client `c1`, registered in the group `g1`, has applied its first mutation. -/
def oneClientStore : Database :=
  { tables := [.clients, .counter], versioned := [.clients], counter := some 1,
    clients := [⟨"c1", "g1", 1, ⟨0⟩, 1⟩] }

/-- **A push of no mutation is not checked against the client's group.** `c1`, registered in
`g1`, pushes as a member of `g2`: with no mutation it is answered with its last applied id and
the version, with one it is refused. -/
theorem empty_push_from_other_group_answered :
    (push 500 ⟨"c1", "g2", []⟩).exec oneClientStore {} = ((.ok ⟨1, 1, []⟩, oneClientStore), {}) ∧
    (push 500 ⟨"c1", "g2", [⟨2, "nope", none⟩]⟩).exec oneClientStore {} =
      ((.error (.problem (.clientGroupMismatch "c1")), oneClientStore), {}) := by
  have hc : oneClientStore.clientById "c1" = .ok (some ⟨"c1", "g1", 1, ⟨0⟩, 1⟩) := rfl
  have hv : oneClientStore.counterValue = .ok (some 1) := rfl
  refine ⟨@push_empty ⟨"c1", "g2", []⟩ 500 _ _ _ ?_ rfl hc hv {},
    push_mismatch hc (by decide) ?_ (List.cons_ne_nil _ _) {}⟩
  all_goals decide

end Sync

end ReadLater
