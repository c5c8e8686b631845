import Mathlib.Logic.Function.Basic
import Mathlib.Logic.Relation
import Mathlib.Tactic.Simps.Basic

/-!
# The registry of actors as communicating parties

Every operation of a user runs on one goroutine, the user's actor, which owns the user's store.
`ReadLater.Workers` runs that machinery one operation at a time; this module models it at the
grain of its synchronisation, so that its runs are all the schedules the goroutines can take.
Each step is one critical section of the registry's mutex, one channel operation, or one action
of a goroutine that no other goroutine sees.

The parties are:

* the registry: for each user the actor registered for it (`actors`), the stopped channel of the
  last actor of that user that retired (`retired`), and whether it is closed; its quit channel
  is closed in the same critical section, so it is closed exactly when the registry is;
* every actor started so far, numbered in the order they started: its user, the stopped channel
  it waits on before its loop (`predecessor`), where its goroutine is, whether it holds its
  user's store open and whether its engine is built; its stopped channel is closed once its
  goroutine reaches `stopped`, and its mailbox is the hand-over `Act.send`;
* every call of `Handle.do`: its user, where it is in its loop, the reply channel of its request
  (buffered, one slot), and the actors its operation started on;
* every call of `Registry.Close`.

The outside world enters as the labels of the steps: when a context ends, when an idle timer
fires, whether a store opens and whether its schema comes up to date. Any of these may happen
at any moment, so every timing of them is a run.

Building the engine only compiles the five fixed mutation schemas, which compile, so a wake
fails only when the store does not open or its schema cannot be brought up to date. The metrics
and the log the actors report to are not part of this model.
-/

namespace ReadLater.Actors

/-- Why an actor could not wake its store. -/
inductive WakeFault where
  /-- The store did not open. -/
  | unopened
  /-- The store opened but its schema could not be brought up to date; it was closed again. -/
  | schema
  deriving DecidableEq, Repr

/-- How a call of `Handle.do` ended. -/
inductive Outcome where
  /-- The registry was closed (`ErrRegistryClosed`). -/
  | closed
  /-- The call's context ended before an actor took its request. -/
  | cancelled
  /-- The actor that took the request could not wake its store. -/
  | wakeFailed (f : WakeFault)
  /-- The operation ran, and the call answers what it returned. -/
  | ran
  deriving DecidableEq, Repr

/-- Where an actor is inside `handle`. -/
inductive Stage where
  /-- At `wake`: it opens its store, unless its engine is built. -/
  | wake
  /-- The store is open; its schema is brought up to date and the engine built next. -/
  | opened
  /-- The schema could not be brought up to date: the store is closed next. -/
  | failing
  /-- The operation runs on the engine. -/
  | running
  deriving DecidableEq, Repr

/-- Where an actor's goroutine is. -/
inductive Phase where
  /-- Before its loop: it waits for its predecessor's stopped channel, or for quit. -/
  | waiting
  /-- In the `select` of its loop. -/
  | idle
  /-- Handling the request of call `k`. -/
  | handling (k : Nat) (st : Stage)
  /-- Returned from its loop; its deferred shutdown is next. -/
  | leaving
  /-- Its store is closed; the registry forgets it next. -/
  | forgetting
  /-- Forgotten; it closes its stopped channel next. -/
  | releasing
  /-- Its stopped channel is closed; its goroutine ends next (`wg.Done`). -/
  | stopped
  /-- Its goroutine has ended. -/
  | finished
  deriving DecidableEq, Repr

namespace Phase

/-- Whether the goroutine is in its loop: idle or handling a request. -/
def inLoop : Phase → Bool
  | .idle | .handling _ _ => true
  | _ => false

/-- Whether the goroutine has returned from its loop, or from its wait before it. -/
def isOut : Phase → Bool
  | .leaving | .forgetting | .releasing | .stopped | .finished => true
  | _ => false

/-- Whether the stopped channel is closed. -/
def isStopped : Phase → Bool
  | .stopped | .finished => true
  | _ => false

end Phase

/-- An actor: the goroutine that owns one user's store. -/
structure Actor where
  user : String
  /-- The actor whose stopped channel it waits on before its loop, if any. -/
  predecessor : Option Nat
  phase : Phase := .waiting
  /-- Whether it holds its user's store open. -/
  holds : Bool := false
  /-- Whether its engine is built: its store's schema came up to date. -/
  engine : Bool := false
  deriving DecidableEq, Repr

/-- Where a call of `Handle.do` is. -/
inductive CallPhase where
  /-- At the top of its loop: it asks the registry for its user's actor next. -/
  | lookup
  /-- In its `select`: it offers its request to actor `a`'s mailbox. -/
  | offering (a : Nat)
  /-- Actor `a` took its request; it waits for the reply. -/
  | awaiting (a : Nat)
  /-- Returned. -/
  | returned (o : Outcome)
  deriving DecidableEq, Repr

/-- A call of `Handle.do`. -/
structure Call where
  user : String
  phase : CallPhase := .lookup
  /-- The reply channel of its request. -/
  reply : Option Outcome := none
  /-- The actors its operation started on, in order (bookkeeping: no goroutine reads it). -/
  ranOn : List Nat := []
  deriving DecidableEq, Repr

/-- Where a call of `Registry.Close` is. -/
inductive Closing where
  /-- Called; it takes the mutex next. -/
  | calling
  /-- It closed the registry and waits for every actor's goroutine to end. -/
  | waiting
  /-- It found the registry closed and returned nil at once. -/
  | early
  /-- Every actor's goroutine ended: it returned nil. -/
  | drained
  /-- Its context ended first: it returned the context's error. -/
  | timedOut
  deriving DecidableEq, Repr

/-- The state of every party. -/
structure Sys where
  /-- The actors started so far, by number. -/
  actor : Nat → Option Actor := fun _ => none
  /-- How many actors have started: the number of the next one. -/
  started : Nat := 0
  /-- The calls of `Handle.do` so far, by number. -/
  call : Nat → Option Call := fun _ => none
  /-- How many calls of `Handle.do` there have been. -/
  calls : Nat := 0
  /-- The calls of `Registry.Close` so far, by number. -/
  closing : Nat → Option Closing := fun _ => none
  /-- How many calls of `Registry.Close` there have been. -/
  closings : Nat := 0
  /-- The registry's `actors` map. -/
  registered : String → Option Nat := fun _ => none
  /-- The registry's `retired` map: the actor whose stopped channel it holds. -/
  retired : String → Option Nat := fun _ => none
  /-- Whether the registry is closed, and its quit channel with it. -/
  closed : Bool := false

/-- One atomic step of one party, or the hand-over of a request from a call to an actor. -/
inductive Act where
  /-- `Handle.do` is called for user `u`. -/
  | call (u : String)
  /-- `Registry.Close` is called. -/
  | close
  /-- Call `k`, at the top of its loop, asks the registry for its user's actor (`actorFor`). -/
  | lookup (k : Nat)
  /-- Call `k` hands its request to the actor it offers it to, idle in its loop. -/
  | send (k : Nat)
  /-- Call `k` sees that the actor it offers its request to stopped, and goes round again. -/
  | retry (k : Nat)
  /-- Call `k`'s context ends while it offers its request. -/
  | cancel (k : Nat)
  /-- Call `k` reads the reply to its request. -/
  | collect (k : Nat)
  /-- Actor `a` enters its loop: it has no predecessor, or its predecessor stopped. -/
  | proceed (a : Nat)
  /-- Actor `a`, before or in its loop, sees quit closed. -/
  | quit (a : Nat)
  /-- Actor `a`'s idle timer fires in its loop: it retires. -/
  | expire (a : Nat)
  /-- Actor `a` wakes without an engine: its store opens (`ok`) or does not. -/
  | openStore (a : Nat) (ok : Bool)
  /-- Actor `a` brings its opened store's schema up to date and builds its engine (`ok`), then
  starts the operation; or the schema cannot be brought up to date. -/
  | migrate (a : Nat) (ok : Bool)
  /-- Actor `a` closes the store its failed wake opened, and replies with the failure. -/
  | abandon (a : Nat)
  /-- Actor `a`, its engine built, wakes at once and starts the operation. -/
  | run (a : Nat)
  /-- Actor `a`'s operation ends: it replies and goes back to its `select`. -/
  | finish (a : Nat)
  /-- Actor `a`, out of its loop, closes its store if it holds it. -/
  | shutdown (a : Nat)
  /-- Actor `a` has the registry forget it. -/
  | forget (a : Nat)
  /-- Actor `a` closes its stopped channel. -/
  | release (a : Nat)
  /-- Actor `a`'s goroutine ends (`wg.Done`). -/
  | exit (a : Nat)
  /-- Close call `c` takes the mutex: it closes the registry, or finds it closed. -/
  | lock (c : Nat)
  /-- Close call `c` sees every actor's goroutine ended (`wg.Wait`). -/
  | drain (c : Nat)
  /-- Close call `c`'s context ends first. -/
  | timeout (c : Nat)
  deriving DecidableEq, Repr

namespace Sys

/-- Writes actor `a`. -/
@[simps]
def setActor (s : Sys) (a : Nat) (x : Actor) : Sys :=
  { s with actor := Function.update s.actor a (some x) }

/-- Writes call `k`. -/
@[simps]
def setCall (s : Sys) (k : Nat) (c : Call) : Sys :=
  { s with call := Function.update s.call k (some c) }

/-- Writes close call `c`. -/
@[simps]
def setClosing (s : Sys) (c : Nat) (p : Closing) : Sys :=
  { s with closing := Function.update s.closing c (some p) }

/-- Whether actor `a`'s stopped channel is closed. -/
def stoppedChan (s : Sys) (a : Nat) : Bool :=
  match s.actor a with
  | some x => x.phase.isStopped
  | none => false

/-- Whether every actor's goroutine has ended: the registry's wait group is at zero. -/
def allFinished (s : Sys) : Bool :=
  (List.range s.started).all fun a =>
    match s.actor a with
    | some x => x.phase == .finished
    | none => true

/-- `Registry.actorFor` for call `k`, under the mutex: the registry is closed, or the user has
an actor, or a new actor starts, waiting on the stopped channel of the user's last retired
actor. -/
def actorFor (s : Sys) (k : Nat) (c : Call) : Sys :=
  if s.closed then s.setCall k { c with phase := .returned .closed }
  else
    match s.registered c.user with
    | some a => s.setCall k { c with phase := .offering a }
    | none =>
      let a := s.started
      { s.setCall k { c with phase := .offering a } with
        actor := Function.update s.actor a (some { user := c.user, predecessor := s.retired c.user })
        started := a + 1
        registered := Function.update s.registered c.user (some a) }

/-- Unregisters actor `a` of user `u`, if it is the one registered. -/
@[simps]
def unregister (s : Sys) (a : Nat) (u : String) : Sys :=
  { s with
    registered :=
      if s.registered u = some a then Function.update s.registered u none else s.registered }

/-- `Registry.retire`, under the mutex: the actor is unregistered and its stopped channel
becomes the user's last retired one. -/
@[simps]
def retire (s : Sys) (a : Nat) (u : String) : Sys :=
  { s.unregister a u with retired := Function.update s.retired u (some a) }

/-- `Registry.forget`, under the mutex: the actor is unregistered, and its stopped channel is
dropped if it is still the user's last retired one. -/
@[simps]
def forgetActor (s : Sys) (a : Nat) (u : String) : Sys :=
  { s.unregister a u with
    retired := if s.retired u = some a then Function.update s.retired u none else s.retired }

/-- Actor `a` replies `o` to call `k` and goes back to its `select`. -/
@[simps]
def replyTo (s : Sys) (a : Nat) (x : Actor) (k : Nat) (o : Outcome) : Sys :=
  { s with
    actor := Function.update s.actor a (some { x with phase := .idle })
    call := Function.update s.call k ((s.call k).map fun c => { c with reply := some o }) }

/-- Actor `a` starts the operation of call `k`. -/
@[simps]
def startRun (s : Sys) (a : Nat) (x : Actor) (k : Nat) : Sys :=
  { s with
    actor := Function.update s.actor a (some { x with phase := .handling k .running })
    call := Function.update s.call k ((s.call k).map fun c => { c with ranOn := c.ranOn ++ [a] }) }

end Sys

/-- One step: the state after act, when the party can take it. -/
def step (s : Sys) : Act → Option Sys
  | .call u => some { s with call := Function.update s.call s.calls (some { user := u }),
                             calls := s.calls + 1 }
  | .close => some { s with closing := Function.update s.closing s.closings (some .calling),
                            closings := s.closings + 1 }
  | .lookup k =>
    match s.call k with
    | some c => if c.phase = .lookup then some (s.actorFor k c) else none
    | none => none
  | .send k =>
    match s.call k with
    | some c =>
      match c.phase with
      | .offering a =>
        match s.actor a with
        | some x =>
          if x.phase = .idle then
            some ((s.setCall k { c with phase := .awaiting a }).setActor a
              { x with phase := .handling k .wake })
          else none
        | none => none
      | _ => none
    | none => none
  | .retry k =>
    match s.call k with
    | some c =>
      match c.phase with
      | .offering a => if s.stoppedChan a then some (s.setCall k { c with phase := .lookup }) else none
      | _ => none
    | none => none
  | .cancel k =>
    match s.call k with
    | some c =>
      match c.phase with
      | .offering _ => some (s.setCall k { c with phase := .returned .cancelled })
      | _ => none
    | none => none
  | .collect k =>
    match s.call k with
    | some c =>
      match c.phase, c.reply with
      | .awaiting _, some o => some (s.setCall k { c with phase := .returned o, reply := none })
      | _, _ => none
    | none => none
  | .proceed a =>
    match s.actor a with
    | some x =>
      if x.phase = .waiting then
        match x.predecessor with
        | none => some (s.setActor a { x with phase := .idle })
        | some p => if s.stoppedChan p then some (s.setActor a { x with phase := .idle }) else none
      else none
    | none => none
  | .quit a =>
    match s.actor a with
    | some x =>
      -- an actor with no predecessor does not wait: it sees quit in its loop
      if s.closed ∧ ((x.phase = .waiting ∧ x.predecessor.isSome) ∨ x.phase = .idle) then
        some (s.setActor a { x with phase := .leaving })
      else none
    | none => none
  | .expire a =>
    match s.actor a with
    | some x =>
      if x.phase = .idle then some ((s.setActor a { x with phase := .leaving }).retire a x.user)
      else none
    | none => none
  | .openStore a ok =>
    match s.actor a with
    | some x =>
      match x.phase with
      | .handling k .wake =>
        if x.engine then none
        else if ok then some (s.setActor a { x with phase := .handling k .opened, holds := true })
        else some (s.replyTo a x k (.wakeFailed .unopened))
      | _ => none
    | none => none
  | .migrate a ok =>
    match s.actor a with
    | some x =>
      match x.phase with
      | .handling k .opened =>
        if ok then some (s.startRun a { x with engine := true } k)
        else some (s.setActor a { x with phase := .handling k .failing })
      | _ => none
    | none => none
  | .abandon a =>
    match s.actor a with
    | some x =>
      match x.phase with
      | .handling k .failing => some (s.replyTo a { x with holds := false } k (.wakeFailed .schema))
      | _ => none
    | none => none
  | .run a =>
    match s.actor a with
    | some x =>
      match x.phase with
      | .handling k .wake => if x.engine then some (s.startRun a x k) else none
      | _ => none
    | none => none
  | .finish a =>
    match s.actor a with
    | some x =>
      match x.phase with
      | .handling k .running => some (s.replyTo a x k .ran)
      | _ => none
    | none => none
  | .shutdown a =>
    match s.actor a with
    | some x =>
      if x.phase = .leaving then
        some (s.setActor a { x with phase := .forgetting, holds := false, engine := false })
      else none
    | none => none
  | .forget a =>
    match s.actor a with
    | some x =>
      if x.phase = .forgetting then
        some ((s.setActor a { x with phase := .releasing }).forgetActor a x.user)
      else none
    | none => none
  | .release a =>
    match s.actor a with
    | some x => if x.phase = .releasing then some (s.setActor a { x with phase := .stopped }) else none
    | none => none
  | .exit a =>
    match s.actor a with
    | some x => if x.phase = .stopped then some (s.setActor a { x with phase := .finished }) else none
    | none => none
  | .lock c =>
    match s.closing c with
    | some .calling =>
      if s.closed then some (s.setClosing c .early)
      else some ({ s with closed := true }.setClosing c .waiting)
    | _ => none
  | .drain c =>
    match s.closing c with
    | some .waiting => if s.allFinished then some (s.setClosing c .drained) else none
    | _ => none
  | .timeout c =>
    match s.closing c with
    | some .waiting => some (s.setClosing c .timedOut)
    | _ => none

/-- The states one step apart. -/
def Next (s s' : Sys) : Prop := ∃ act, step s act = some s'

/-- The states a run from `s` reaches. -/
def Steps : Sys → Sys → Prop := Relation.ReflTransGen Next

/-- The states a run from a new registry reaches. -/
def Reachable (s : Sys) : Prop := Steps {} s

/-- The state after a schedule of steps, if every one of them can be taken. -/
def run (s : Sys) : List Act → Option Sys
  | [] => some s
  | act :: acts => (step s act).bind fun s' => run s' acts

end ReadLater.Actors
