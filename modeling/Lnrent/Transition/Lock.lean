/-
**Threads and one lock.** Some of the phases of the threads are inside a critical section, where the
thread holds a lock of the shared state. What a thread knows inside is invalidated by no step of a
thread outside; what it knows outside is invalidated by no step at all.

* `Guard` — the lock, the phases inside, and what is known inside and outside;
* `Guard.holds` — the assertion of one thread: inside it is the holder;
* `Guard.Turn`, `Guard.Discipline` — what a step owes, and a program whose steps pay it;
* `Guard.Discipline.outline` — **the rule**: a disciplined program has a proof outline.
-/

import Lnrent.Transition.Threads

namespace Transition

open Relational

/-- **A lock, and what the threads know.** -/
structure Guard (Shared Thread : Type) where
  lock : Shared → Option ℕ
  inside : Thread → Prop
  /-- Known inside: it holds until the holder itself changes it. -/
  critical : Shared → Thread → Prop
  /-- Known outside: it holds forever. -/
  free : Shared → Thread → Prop

namespace Guard

variable {Shared Thread Request Answer Event : Type} (guard : Guard Shared Thread)
  (invariant : Shared → Prop)

/-- What a thread knows. -/
structure holds (shared : Shared) (id : ℕ) (thread : Thread) : Prop where
  lock : guard.inside thread → guard.lock shared = some id
  critical : guard.inside thread → guard.critical shared thread
  free : ¬ guard.inside thread → guard.free shared thread

/-- A step leaves alone what the threads outside know. -/
def Frees (before after : Shared) : Prop :=
  ∀ thread, ¬ guard.inside thread → guard.free before thread → guard.free after thread

/-- A step leaves alone what the holder knows. -/
def Spares (before after : Shared) : Prop :=
  ∀ thread, guard.inside thread → guard.critical before thread → guard.critical after thread

/-- **What a step of one thread owes.** -/
structure Turn (before : Shared) (id : ℕ) (after : Shared) (next : Option Thread) : Prop where
  invariant : invariant after
  self : ∀ thread, next = some thread → guard.holds after id thread
  lock : ∀ other, other ≠ id → guard.lock before = some other → guard.lock after = some other
  frees : guard.Frees before after
  spares : guard.lock before ≠ some id → guard.Spares before after

/-- **A disciplined program.** A new thread begins outside. -/
structure Discipline (program : Program Shared Thread Request Answer Event)
    (condition : Pool Shared Thread → Schedule Request Answer Event → Prop) : Prop where
  start : invariant program.start
  spawn : ∀ shared id request, (program.spawn shared id request).1 = shared ∧
    ¬ guard.inside (program.spawn shared id request).2 ∧
      guard.free shared (program.spawn shared id request).2
  advance : ∀ pool id thread answer, condition pool (.advance id answer) →
    pool.threads.row id = some thread → invariant pool.shared → guard.holds pool.shared id thread →
    guard.Turn invariant pool.shared id (program.advance pool.shared id thread answer).1
      (program.advance pool.shared id thread answer).2
  drop : ∀ shared id thread, invariant shared → guard.holds shared id thread →
    guard.Turn invariant shared id (program.drop shared id thread) none
  environment : ∀ pool event, condition pool (.environment event) → invariant pool.shared →
    invariant (program.environment pool.shared event) ∧
      guard.lock (program.environment pool.shared event) = guard.lock pool.shared ∧
      guard.Frees pool.shared (program.environment pool.shared event) ∧
      guard.Spares pool.shared (program.environment pool.shared event)
  crash : ∀ shared, invariant shared → invariant (program.crash shared)

variable {guard : Guard Shared Thread} {invariant : Shared → Prop}
  {program : Program Shared Thread Request Answer Event}
  {condition : Pool Shared Thread → Schedule Request Answer Event → Prop}

/-- What another thread knows survives a step that pays what it owes. -/
theorem Turn.sibling {before after : Shared} {id other : ℕ} {next : Option Thread} {thread : Thread}
    (turn : guard.Turn invariant before id after next) (different : other ≠ id)
    (holds : guard.holds before other thread) : guard.holds after other thread where
  lock inside := turn.lock other different (holds.lock inside)
  critical inside := by
    refine turn.spares (fun own => different ?_) thread inside (holds.critical inside)
    exact Option.some.inj ((holds.lock inside).symm.trans own)
  free outside := turn.frees thread outside (holds.free outside)

/-- **The rule for one lock.** -/
theorem Discipline.outline (discipline : guard.Discipline invariant program condition) :
    Outline (fun _ => invariant) guard.holds program condition where
  start := discipline.start
  spawn pool request _ asserted := by
    obtain ⟨same, outside, free⟩ := discipline.spawn pool.shared pool.spawned request
    rw [same]
    refine ⟨asserted.invariant, ?_, fun other sibling _ found => asserted.thread other sibling found⟩
    rintro _ ⟨⟩
    exact ⟨fun inside => absurd inside outside, fun inside => absurd inside outside, fun _ => free⟩
  advance pool id thread answer meets asserted found := by
    have turn := discipline.advance pool id thread answer meets found asserted.invariant
      (asserted.thread id thread found)
    exact ⟨turn.invariant, turn.self, fun other sibling different here =>
      turn.sibling different (asserted.thread other sibling here)⟩
  drop pool id thread _ asserted found := by
    have turn := discipline.drop pool.shared id thread asserted.invariant
      (asserted.thread id thread found)
    exact ⟨turn.invariant, turn.self, fun other sibling different here =>
      turn.sibling different (asserted.thread other sibling here)⟩
  environment pool event meets asserted := by
    obtain ⟨invariant, lock, frees, spares⟩ := discipline.environment pool event meets asserted.invariant
    refine ⟨invariant, fun id thread found => ?_⟩
    have holds := asserted.thread id thread found
    exact ⟨fun inside => lock.trans (holds.lock inside),
      fun inside => spares thread inside (holds.critical inside),
      fun outside => frees thread outside (holds.free outside)⟩
  crash pool _ asserted := discipline.crash pool.shared asserted.invariant

end Guard

end Transition
