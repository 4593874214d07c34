/-
**The daemon beside its sweeper.** Executions and drives of the sweeper (`sweep.rs`) interleave with the
daemon's other transactions, over one store.

* `Treasury`, `treasury` — the world with the payments of the backend, and the program;
* `Treasury.swept` — what the sweeper's step leaves of the world.
-/

import Lnrent.Daemon.Sweeper

namespace Lnrent

open Relational Transition

/-- The daemon's world, and the sweeps as the backend has them. -/
structure Treasury where
  world : World
  outbound : ℕ → Sweeper.Outbound
  /-- History: the payments started for each hash, and the hashes that were paid. -/
  sends : ℕ → ℕ
  paid : List ℕ

namespace Treasury

/-- What the sweeper reads and writes. -/
def shared (treasury : Treasury) : Sweeper.Shared :=
  ⟨treasury.world.store, treasury.outbound, treasury.sends, treasury.paid⟩

/-- The sweeper has taken a step. -/
def swept (treasury : Treasury) (shared : Sweeper.Shared) : Treasury :=
  ⟨{ treasury.world with store := shared.store }, shared.outbound, shared.sends, shared.paid⟩

/-- A fresh database, and nothing paid. -/
def fresh (clock : ℤ) : Treasury := ⟨World.fresh clock, fun _ => .absent, fun _ => 0, []⟩

inductive Event where
  /-- A transaction of the daemon, a step of a delivery, or time. -/
  | daemon (action : Action)
  /-- The payment in flight for the hash succeeds, or fails for good. -/
  | resolves (hash : ℕ) (succeeds : Bool)
  /-- `lnrent migration clear-fence`. -/
  | clearFence (hash : ℕ)

end Treasury

/-- **The program.** A crash takes the tasks of the sweeper and the daemon's deliveries together. -/
def treasury (decode : Text → Option Sweeper.Invoice) (intake : OrderIntake.Intake) (start : Treasury) :
    Program Treasury Sweeper.Thread Sweeper.Request Sweeper.Answer Treasury.Event where
  start := start
  spawn state id request := (state, ((Sweeper.sweeper decode state.shared).spawn state.shared id request).2)
  advance state _ thread answer :=
    let moved := Sweeper.advance decode state.shared answer thread
    (state.swept moved.1, moved.2)
  drop state _ _ := state
  environment state event :=
    match event with
    | .daemon action => { state with world := state.world.step intake action }
    | .resolves hash succeeds => state.swept (state.shared.resolve hash succeeds)
    | .clearFence hash =>
        state.swept { state.shared with store := Sweeper.clearFence state.shared.store hash }
  crash state := { state with world := state.world.step intake .crash }

end Lnrent
