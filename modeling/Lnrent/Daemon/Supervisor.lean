/-
**The supervised loop** (`supervisor.rs`, `supervise`). A wrapper runs a loop of the daemon on a task
of its own, starts it again after a capped backoff however it ended, and winds it down when the daemon
shuts down.

* `Child` — one start of the loop, as its task;
* `Phase` — where the wrapper stands: what runs without a read of the clock or of the shutdown signal
  is one phase;
* `Wrapper.poll` — one step of the wrapper;
* `supervise` — the wrapper among the steps of its tasks, of the clock and of the shutdown signal.

Times are in nanoseconds, as a `Duration` counts them.
-/

import Lnrent.Transition.Backoff
import Lnrent.Transition.Rank

namespace Lnrent.Supervisor

open Transition

def fromMillis (millis : ℕ) : ℕ := millis * 10 ^ 6

def fromSecs (secs : ℕ) : ℕ := secs * 10 ^ 9

/-- `Duration::MAX`. -/
def durationMax : ℕ := (2 ^ 64 - 1) * 10 ^ 9 + (10 ^ 9 - 1)

def saturatingMul (duration factor : ℕ) : ℕ := min (duration * factor) durationMax

/-- `Backoff`: two durations. -/
structure Backoff where
  base : ℕ
  max : ℕ
  base_le : base ≤ durationMax
  max_le : max ≤ durationMax

namespace Backoff

/-- The delay before the next start, after a run that lasted the given time. -/
def settle (backoff : Backoff) (elapsed delay : ℕ) : ℕ :=
  if backoff.max ≤ elapsed then backoff.base else delay

/-- The delay after one that was slept. -/
def grow (backoff : Backoff) (delay : ℕ) : ℕ := min (saturatingMul delay 2) backoff.max

end Backoff

def restartBackoff : Backoff where
  base := fromMillis 200
  max := fromSecs 15
  base_le := by decide
  max_le := by decide

def shutdownDrain : ℕ := fromSecs 3

/-- How a task ended: `Ok(Ok(()))`, `Ok(Err(_))`, a panic, or cancelled. -/
inductive Outcome where
  | clean
  | failed
  | panicked
  | cancelled
  deriving DecidableEq, Repr

/-- One start of the loop. -/
structure Child where
  /-- `started`, read before the task is spawned. -/
  started : ℕ
  /-- The shutdown signal was already given when it was spawned. -/
  late : Bool
  ended : Option Outcome
  /-- When `abort` was called on its task. -/
  aborted : Option ℕ
  deriving DecidableEq, Repr

/-- Where the wrapper stands. -/
inductive Phase where
  /-- Spawned, and never polled. -/
  | created
  /-- At the top of the loop. -/
  | checking
  /-- The shutdown signal was not given: reads the clock. -/
  | starting
  /-- Spawns the child. -/
  | spawning (started : ℕ)
  /-- Waits for the child or the shutdown signal. -/
  | running
  /-- Waits for the child, at most up to the deadline. -/
  | draining (deadline : ℕ)
  /-- The child ended, and the guard is dropped. -/
  | finished (outcome : Outcome)
  /-- The outcome is logged: resets the backoff after a healthy run. -/
  | judging
  /-- Starts the delay. -/
  | arming
  /-- Waits for the delay or the shutdown signal. -/
  | sleeping (until_ : ℕ)
  | returned
  | dropped
  deriving DecidableEq, Repr

/-- The wrapper, its tasks from the newest on, the clock and the shutdown signal: when it was given, and
when its sender was dropped. -/
structure Wrapper where
  now : ℕ
  stop : Option ℕ
  gone : Option ℕ
  delay : ℕ
  children : List Child
  phase : Phase
  deriving DecidableEq, Repr

/-- Which of two ready branches of a `select!` is taken. -/
inductive Branch where
  | work
  | shutdown
  deriving DecidableEq, Repr

namespace Wrapper

variable (wrapper : Wrapper)

/-- `wait_for_shutdown` is ready. -/
def Stopping : Prop := wrapper.stop ≠ none ∨ wrapper.gone ≠ none

instance : Decidable wrapper.Stopping := inferInstanceAs (Decidable (_ ∨ _))

/-- `child`, when its handle is ready. -/
def childOutcome : Option Outcome := wrapper.children.head?.bind Child.ended

/-- `AbortOnDrop`. -/
def abortChild : Wrapper :=
  { wrapper with
    children := wrapper.children.modifyHead fun child =>
      { child with aborted := child.aborted.or (some wrapper.now) } }

def startedOf : ℕ := (wrapper.children.head?.map Child.started).getD 0

/-- **One step of the wrapper**, up to its next read of the clock, of the signal or of a task. Where both
branches of a `select!` are ready, the preferred one is taken. -/
def poll (backoff : Backoff) (preferred : Branch) : Wrapper :=
  match wrapper.phase with
  | .created => { wrapper with phase := .checking, delay := backoff.base }
  | .checking => { wrapper with phase := if wrapper.stop ≠ none then .returned else .starting }
  | .starting => { wrapper with phase := .spawning wrapper.now }
  | .spawning started =>
      { wrapper with
        phase := .running
        children := ⟨started, wrapper.stop.isSome, none, none⟩ :: wrapper.children }
  | .running =>
      match wrapper.childOutcome with
      | some outcome =>
          if wrapper.Stopping ∧ preferred = .shutdown then
            { wrapper with phase := .draining (wrapper.now + shutdownDrain) }
          else { wrapper with phase := .finished outcome }
      | none =>
          if wrapper.Stopping then
            { wrapper with phase := .draining (wrapper.now + shutdownDrain) }
          else wrapper
  | .draining deadline =>
      match wrapper.childOutcome with
      | some outcome => { wrapper with phase := .finished outcome }
      | none =>
          if deadline ≤ wrapper.now then { wrapper.abortChild with phase := .returned } else wrapper
  | .finished outcome =>
      if wrapper.stop ≠ none ∨ outcome = .cancelled then { wrapper with phase := .returned }
      else { wrapper with phase := .judging }
  | .judging =>
      { wrapper with
        phase := .arming
        delay := backoff.settle (wrapper.now - wrapper.startedOf) wrapper.delay }
  | .arming => { wrapper with phase := .sleeping (wrapper.now + wrapper.delay) }
  | .sleeping until_ =>
      if wrapper.Stopping ∧ (preferred = .shutdown ∨ wrapper.now < until_) then
        { wrapper with phase := .returned }
      else if until_ ≤ wrapper.now then
        { wrapper with phase := .checking, delay := backoff.grow wrapper.delay }
      else wrapper
  | .returned | .dropped => wrapper

/-- The future of the wrapper is dropped, which can happen where it waits: the guard of a running child
is dropped with it. -/
def cancel : Wrapper :=
  match wrapper.phase with
  | .created | .sleeping _ => { wrapper with phase := .dropped }
  | .running | .draining _ => { wrapper.abortChild with phase := .dropped }
  | _ => wrapper

/-- A task ends, if it has not ended before. -/
def finish (index : ℕ) (outcome : Outcome) : Wrapper :=
  { wrapper with
    children := wrapper.children.modify index fun child =>
      { child with ended := child.ended.or (some outcome) } }

end Wrapper

/-- What happens to a supervised loop. -/
inductive Action where
  | tick (elapsed : ℕ)
  /-- `true` is sent on the shutdown channel. -/
  | signal
  /-- The sender of the shutdown channel is dropped. -/
  | hangUp
  | finish (index : ℕ) (outcome : Outcome)
  | poll (preferred : Branch)
  | cancel
  deriving DecidableEq, Repr

namespace Wrapper

def step (backoff : Backoff) (wrapper : Wrapper) : Action → Wrapper
  | .tick elapsed => { wrapper with now := wrapper.now + elapsed }
  | .signal => { wrapper with stop := wrapper.stop.or (some wrapper.now) }
  | .hangUp => { wrapper with gone := wrapper.gone.or (some wrapper.now) }
  | .finish index outcome => wrapper.finish index outcome
  | .poll preferred => wrapper.poll backoff preferred
  | .cancel => wrapper.cancel

end Wrapper

/-- **`supervise`**, from the spawning of the wrapper on. -/
def supervise (backoff : Backoff) : Machine Wrapper Action where
  start := ⟨0, none, none, backoff.base, [], .created⟩
  step := Wrapper.step backoff

end Lnrent.Supervisor
