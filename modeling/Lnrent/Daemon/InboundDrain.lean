/-
**The inbound loop and its shutdown** (`nostr_engine.rs`, `run_inbound`, `InboundTaskState`, `drain`;
`supervisor.rs`, `supervise_inbound`). The receive loop and its auxiliary tasks take events from the
relays, and hand each to a task of its own. On shutdown the engine stops taking events, and waits for
the tasks that it already has, up to a deadline.

* `Feeder` — the receive loop or an auxiliary task, with the await point it rests at;
* `Wrap` — the task of one accepted event;
* `Engine.advance` — one step of a feeder: `queue_inbound_event`, `spawn_inbound_wrap` and
  `spawn_inbound_aux`, with what another thread can see in between as steps of their own;
* `Phase`, `System.poll` — the wrapper of the loop: `supervise_inbound`, with `drain` and
  `drain_after_inbound_stopped`;
* `System.noted` — the wait for a tracker, which is woken by what the tasks do;
* `superviseInbound` — every interleaving.

An auxiliary task fetches a backlog or resubscribes: it takes an event, or spawns another auxiliary
task, only right after it found the stop token not cancelled. A tracker is closed in the step that
starts to wait for it, since nothing else asks whether it is closed.
-/

import Lnrent.Daemon.Supervisor

namespace Lnrent.InboundDrain

open Transition Supervisor

def maxInboundConcurrency : ℕ := 32

/-! ### The tasks of the engine -/

/-- Where the receive loop or an auxiliary task stands. -/
inductive Stage where
  /-- `run_inbound` is spawned. -/
  | entering
  /-- `subscribe_inbound_with_retry`. -/
  | subscribing
  /-- Waits for a notification, a page or an event, and for the stop token. -/
  | awaiting
  /-- `queue_inbound_event` waits for a permit. -/
  | acquiring
  /-- Has a permit: spawns the wrap. -/
  | spawningWrap
  /-- `track_per_wrap_abort`. -/
  | trackingWrap (wrap : ℕ)
  | spawningAux
  /-- Tracks the auxiliary task. -/
  | trackingAux (aux : ℕ)
  | ended (outcome : Outcome)
  deriving DecidableEq, Repr

/-- The receive loop, or an auxiliary task. -/
structure Feeder where
  loop : Bool
  stage : Stage
  deriving DecidableEq, Repr

namespace Feeder

variable (feeder : Feeder)

def Ended : Prop := ∃ outcome, feeder.stage = .ended outcome

instance : Decidable feeder.Ended :=
  match is : feeder.stage with
  | .ended outcome => .isTrue ⟨outcome, is⟩
  | .entering | .subscribing | .awaiting | .acquiring | .spawningWrap | .trackingWrap _
  | .spawningAux | .trackingAux _ => .isFalse (by simp [Ended, is])

/-- It has an event, and no task for it yet. -/
def Holds : Prop := feeder.stage = .acquiring ∨ feeder.stage = .spawningWrap

instance : Decidable feeder.Holds := inferInstanceAs (Decidable (_ ∨ _))

/-- It rests at an await point. -/
def Rests : Prop :=
  feeder.stage = .entering ∨ feeder.stage = .subscribing ∨ feeder.stage = .awaiting ∨
    feeder.stage = .acquiring

instance : Decidable feeder.Rests := inferInstanceAs (Decidable (_ ∨ _))

end Feeder

/-- The task of one event: whether the receive loop accepted it, and how it ended. -/
structure Wrap where
  loop : Bool
  ended : Option Outcome
  deriving DecidableEq, Repr

/-- The engine: its stop token, its semaphore, its tasks, the handles it tracks and the tasks that were
told to abort, and how many events the receive loop took and lost. -/
structure Engine where
  stop : Bool
  permits : ℕ
  feeders : List Feeder
  wraps : List Wrap
  auxClosed : Bool
  perWrapClosed : Bool
  auxAborts : List ℕ
  perWrapAborts : List ℕ
  abortedFeeders : List ℕ
  abortedWraps : List ℕ
  taken : ℕ
  lost : ℕ
  deriving DecidableEq, Repr

/-- What an await of the receive loop or of an auxiliary task comes back with. -/
inductive Answer where
  /-- An event, and whether it matches the inbound filter. -/
  | event (fits : Bool)
  /-- `CLOSED`, a lag or the next relay of a backlog: calls for an auxiliary task. -/
  | auxiliary
  | other
  /-- The end of the stream. -/
  | closed
  | failed
  | panicked
  deriving DecidableEq, Repr

namespace Engine

variable (engine : Engine)

/-- `NostrEngine::new`. -/
def new : Engine := ⟨false, maxInboundConcurrency, [], [], false, false, [], [], [], [], 0, 0⟩

def move (id : ℕ) (feeder : Feeder) (stage : Stage) : Engine :=
  { engine with feeders := engine.feeders.set id { feeder with stage := stage } }

/-- `track_abort`: the handles of tasks that ended are let go. -/
def trackWrap (wrap : ℕ) : List ℕ :=
  engine.perWrapAborts.filter (fun id => ∃ task ∈ engine.wraps[id]?, task.ended = none) ++ [wrap]

def trackAux (aux : ℕ) : List ℕ :=
  engine.auxAborts.filter (fun id => ∃ task ∈ engine.feeders[id]?, ¬ task.Ended) ++ [aux]

/-- **One step of the receive loop or of an auxiliary task.** -/
def advance (id : ℕ) (answer : Answer) : Engine :=
  match engine.feeders[id]? with
  | none => engine
  | some feeder =>
      match feeder.stage with
      | .entering =>
          engine.move id feeder (if engine.stop then .ended .clean else .subscribing)
      | .subscribing =>
          match answer with
          | .failed => engine.move id feeder (.ended .failed)
          | .panicked => engine.move id feeder (.ended .panicked)
          | _ => engine.move id feeder (if engine.stop then .ended .clean else .spawningAux)
      | .awaiting =>
          if engine.stop then engine.move id feeder (.ended .clean)
          else
            match answer with
            | .event true =>
                { engine.move id feeder .acquiring with
                  taken := engine.taken + if feeder.loop then 1 else 0 }
            | .event false | .other => engine
            | .auxiliary => engine.move id feeder .spawningAux
            | .closed => engine.move id feeder (.ended .clean)
            | .failed => engine.move id feeder (.ended .failed)
            | .panicked => engine.move id feeder (.ended .panicked)
      | .acquiring =>
          if 0 < engine.permits then
            { engine.move id feeder .spawningWrap with permits := engine.permits - 1 }
          else engine
      | .spawningWrap =>
          { engine.move id feeder (.trackingWrap engine.wraps.length) with
            wraps := engine.wraps ++ [⟨feeder.loop, none⟩] }
      | .trackingWrap wrap =>
          { engine.move id feeder .awaiting with perWrapAborts := engine.trackWrap wrap }
      | .spawningAux =>
          let moved := engine.move id feeder (.trackingAux engine.feeders.length)
          { moved with feeders := moved.feeders ++ [⟨false, .awaiting⟩] }
      | .trackingAux aux =>
          { engine.move id feeder .awaiting with auxAborts := engine.trackAux aux }
      | .ended _ => engine

/-- An aborted feeder is dropped where it rests, with the event that it has. -/
def cancelFeeder (id : ℕ) : Engine :=
  match engine.feeders[id]? with
  | none => engine
  | some feeder =>
      if id ∈ engine.abortedFeeders ∧ feeder.Rests then
        { engine.move id feeder (.ended .cancelled) with
          lost := engine.lost + if feeder.loop ∧ feeder.Holds then 1 else 0 }
      else engine

/-- A wrap ends, and gives its permit back; only an aborted one is cancelled. -/
def finishWrap (id : ℕ) (outcome : Outcome) : Engine :=
  match engine.wraps[id]? with
  | none => engine
  | some wrap =>
      if wrap.ended = none ∧ (outcome = .cancelled → id ∈ engine.abortedWraps) then
        { engine with
          wraps := engine.wraps.set id { wrap with ended := some outcome }
          permits := engine.permits + 1 }
      else engine

def abortAux : Engine :=
  { engine with
    abortedFeeders := engine.auxAborts ++ engine.abortedFeeders, auxAborts := [] }

def abortPerWrap : Engine :=
  { engine with
    abortedWraps := engine.perWrapAborts ++ engine.abortedWraps, perWrapAborts := [] }

/-- `wait_aux` is ready. -/
def AuxDone : Prop :=
  engine.auxClosed = true ∧ ∀ feeder ∈ engine.feeders, feeder.loop = false → feeder.Ended

/-- `wait_per_wrap` is ready. -/
def WrapsDone : Prop := engine.perWrapClosed = true ∧ ∀ wrap ∈ engine.wraps, wrap.ended ≠ none

instance : Decidable engine.AuxDone := inferInstanceAs (Decidable (_ ∧ _))

instance : Decidable engine.WrapsDone := inferInstanceAs (Decidable (_ ∧ _))

/-- How the given feeder ended. -/
def outcomeOf (id : ℕ) : Option Outcome :=
  engine.feeders[id]?.bind fun feeder =>
    match feeder.stage with
    | .ended outcome => some outcome
    | _ => none

end Engine

/-! ### The wrapper of the receive loop -/

/-- `InboundDrainResult`. -/
inductive DrainResult where
  | drained
  | timedOut
  deriving DecidableEq, Repr

/-- Where the wrapper stands. A drain `joins` where the receive loop still runs; `straggled` says that
auxiliary tasks did not stop within the deadline. A wait is `woken` once its tracker was closed and
empty, whatever was spawned since. -/
inductive Phase where
  | created
  | checking
  | starting
  | spawning (started : ℕ)
  | running (started : ℕ)
  | finished (started : ℕ) (outcome : Outcome)
  | judging (started : ℕ)
  | arming
  | sleeping (until_ : ℕ)
  /-- `stop_accepting`. -/
  | stopping (joins : Bool)
  | abortingAux (joins : Bool) (deadline : ℕ)
  | closingAux (joins : Bool) (deadline : ℕ)
  | waitingAux (joins : Bool) (deadline : ℕ) (woken : Bool)
  /-- Waits for the receive loop. -/
  | joining (deadline : ℕ) (straggled : Bool)
  /-- The receive loop is aborted: waits for its end. -/
  | joiningAborted (straggled : Bool)
  | abortingWraps (straggled : Bool)
  | closingWraps (deadline : ℕ) (straggled : Bool)
  | waitingWraps (deadline : ℕ) (straggled woken : Bool)
  | returned (result : Option (DrainResult × Bool))
  | dropped
  deriving DecidableEq, Repr

/-- The wrapper and the engine, the clock, and the shutdown signal with its sender. -/
structure System where
  now : ℕ
  signal : Bool
  gone : Bool
  delay : ℕ
  /-- The newest receive loop. -/
  child : ℕ
  engine : Engine
  phase : Phase
  deriving DecidableEq, Repr

namespace System

variable (system : System)

/-- `wait_for_shutdown` is ready. -/
def Stopping : Prop := system.signal = true ∨ system.gone = true

instance : Decidable system.Stopping := inferInstanceAs (Decidable (_ ∨ _))

/-- The receive loop is told to abort. -/
def abortChild : Engine :=
  { system.engine with abortedFeeders := system.child :: system.engine.abortedFeeders }

/-- After the auxiliary tasks: the receive loop is joined, or already over. -/
def afterAux (joins : Bool) (deadline : ℕ) (straggled : Bool) : System :=
  { system with
    phase := if joins then .joining deadline straggled else .closingWraps deadline straggled }

/-- A wait whose tracker is closed and empty is woken. -/
def noted : System :=
  match system.phase with
  | .waitingAux joins deadline woken =>
      { system with phase := .waitingAux joins deadline (woken || decide system.engine.AuxDone) }
  | .waitingWraps deadline straggled woken =>
      { system with
        phase := .waitingWraps deadline straggled (woken || decide system.engine.WrapsDone) }
  | _ => system

/-- One step of a task. -/
def feed (engine : Engine) : System := noted { system with engine := engine }

/-- **One step of the wrapper.** Where both branches of the `select!` on the delay are ready, the
preferred one is taken; the other one asks for the shutdown signal first. -/
def poll (backoff : Backoff) (preferred : Branch) : System :=
  match system.phase with
  | .created => { system with phase := .checking, delay := backoff.base }
  | .checking =>
      { system with phase := if system.signal then .stopping false else .starting }
  | .starting => { system with phase := .spawning system.now }
  | .spawning started =>
      { system with
        phase := .running started
        child := system.engine.feeders.length
        engine :=
          { system.engine with feeders := system.engine.feeders ++ [⟨true, .entering⟩] } }
  | .running started =>
      if system.Stopping then { system with phase := .stopping true }
      else
        match system.engine.outcomeOf system.child with
        | some outcome => { system with phase := .finished started outcome }
        | none => system
  | .finished started outcome =>
      if system.signal then { system with phase := .stopping false }
      else if outcome = .cancelled then { system with phase := .returned none }
      else { system with phase := .judging started }
  | .judging started =>
      { system with
        phase := .arming, delay := backoff.settle (system.now - started) system.delay }
  | .arming => { system with phase := .sleeping (system.now + system.delay) }
  | .sleeping until_ =>
      if system.Stopping ∧ (preferred = .shutdown ∨ system.now < until_) then
        { system with phase := .stopping false }
      else if until_ ≤ system.now then
        { system with phase := .checking, delay := backoff.grow system.delay }
      else system
  | .stopping joins =>
      { system with
        engine := { system.engine with stop := true }
        phase := .abortingAux joins (system.now + shutdownDrain) }
  | .abortingAux joins deadline =>
      { system with engine := system.engine.abortAux, phase := .closingAux joins deadline }
  | .closingAux joins deadline =>
      noted { system with
        engine := { system.engine with auxClosed := true }
        phase := .waitingAux joins deadline false }
  | .waitingAux joins deadline woken =>
      if woken then system.afterAux joins deadline false
      else if deadline ≤ system.now then system.afterAux joins deadline true
      else system
  | .joining deadline straggled =>
      if system.engine.outcomeOf system.child ≠ none then
        { system with phase := .closingWraps deadline straggled }
      else if deadline ≤ system.now then
        { system with engine := system.abortChild, phase := .joiningAborted straggled }
      else system
  | .joiningAborted straggled =>
      if system.engine.outcomeOf system.child ≠ none then
        { system with phase := .abortingWraps straggled }
      else system
  | .abortingWraps straggled =>
      { system with
        engine := { system.engine.abortPerWrap with perWrapClosed := true }
        phase := .returned (some (.timedOut, straggled)) }
  | .closingWraps deadline straggled =>
      noted { system with
        engine := { system.engine with perWrapClosed := true }
        phase := .waitingWraps deadline straggled false }
  | .waitingWraps deadline straggled woken =>
      if woken then
        { system with phase := .returned (some (.drained, straggled)) }
      else if deadline ≤ system.now then
        { system with
          engine := system.engine.abortPerWrap
          phase := .returned (some (.timedOut, straggled)) }
      else system
  | .returned _ | .dropped => system

/-- The future of the wrapper is dropped where it waits: the guard of the receive loop is dropped with
it, until the loop has ended. -/
def cancel : System :=
  match system.phase with
  | .created | .sleeping _ | .waitingAux false _ _ | .waitingWraps _ _ _ =>
      { system with phase := .dropped }
  | .running _ | .waitingAux true _ _ | .joining _ _ | .joiningAborted _ =>
      { system with engine := system.abortChild, phase := .dropped }
  | _ => system

end System

/-- What happens to the engine and to the wrapper of its receive loop. -/
inductive Action where
  | tick (elapsed : ℕ)
  | signal
  | hangUp
  | advance (id : ℕ) (answer : Answer)
  | cancelFeeder (id : ℕ)
  | finishWrap (id : ℕ) (outcome : Outcome)
  | poll (preferred : Branch)
  | cancel
  deriving DecidableEq, Repr

namespace System

def step (backoff : Backoff) (system : System) : Action → System
  | .tick elapsed => { system with now := system.now + elapsed }
  | .signal => { system with signal := true }
  | .hangUp => { system with gone := true }
  | .advance id answer => system.feed (system.engine.advance id answer)
  | .cancelFeeder id => system.feed (system.engine.cancelFeeder id)
  | .finishWrap id outcome => system.feed (system.engine.finishWrap id outcome)
  | .poll preferred => system.poll backoff preferred
  | .cancel => system.cancel

end System

/-- **`supervise_inbound`**, from the spawning of its wrapper on. -/
def superviseInbound (backoff : Backoff) : Machine System Action where
  start := ⟨0, false, false, backoff.base, 0, .new, .created⟩
  step := System.step backoff

end Lnrent.InboundDrain
