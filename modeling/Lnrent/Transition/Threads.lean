/-
**Threads over a shared state.** A program has a shared state and any number of threads, each resting
at one of its await points. What runs between two await points is one step; the scheduler may take
the steps of the threads in any order, drop a thread at an await point, or crash, which drops all.

* `Program` — what spawning, advancing and dropping a thread do to the shared state;
* `Program.machine` — every interleaving, as one labelled machine;
* `Outline` — the obligations of a proof outline: an invariant of the shared state (it may speak of
  how many threads were ever spawned) and an assertion for every await point that no step of another
  thread invalidates;
* `Outline.asserted` — **the rule**: after every run the invariant holds and every thread's assertion
  holds at the await point it rests at;
* `Attendance` — the obligations under which every duty the shared state records is some live
  thread's, `Attendance.attended` — the rule for it.
-/

import Lnrent.Relational.Table
import Lnrent.Transition.Machine

namespace Transition

open Relational

/-- **A program of threads.** `Request` starts a thread, `Answer` is what its environment answers a
step, `Event` is what the environment does by itself. -/
structure Program (Shared Thread Request Answer Event : Type) where
  start : Shared
  spawn : Shared → ℕ → Request → Shared × Thread
  advance : Shared → ℕ → Thread → Answer → Shared × Option Thread
  drop : Shared → ℕ → Thread → Shared
  environment : Shared → Event → Shared
  crash : Shared → Shared

/-- The shared state, the threads that rest at an await point, and how many were ever spawned. -/
structure Pool (Shared Thread : Type) where
  shared : Shared
  threads : Table ℕ Thread
  spawned : ℕ

/-- What the scheduler may choose. -/
inductive Schedule (Request Answer Event : Type) where
  | spawn (request : Request)
  | advance (id : ℕ) (answer : Answer)
  | drop (id : ℕ)
  | environment (event : Event)
  | crash

variable {Shared Thread Request Answer Event : Type}

namespace Program

/-- One choice of the scheduler; the ids of threads are never used again. -/
def step (program : Program Shared Thread Request Answer Event) (pool : Pool Shared Thread) :
    Schedule Request Answer Event → Pool Shared Thread
  | .spawn request =>
      let born := program.spawn pool.shared pool.spawned request
      ⟨born.1, pool.threads.put pool.spawned born.2, pool.spawned + 1⟩
  | .advance id answer =>
      match pool.threads.row id with
      | none => pool
      | some thread =>
          let moved := program.advance pool.shared id thread answer
          ⟨moved.1, pool.threads.assign id moved.2, pool.spawned⟩
  | .drop id =>
      match pool.threads.row id with
      | none => pool
      | some thread =>
          ⟨program.drop pool.shared id thread, pool.threads.assign id none, pool.spawned⟩
  | .environment event => { pool with shared := program.environment pool.shared event }
  | .crash => ⟨program.crash pool.shared, Table.empty, pool.spawned⟩

/-- Every interleaving of the program's threads. -/
def machine (program : Program Shared Thread Request Answer Event) :
    Machine (Pool Shared Thread) (Schedule Request Answer Event) where
  start := ⟨program.start, Table.empty, 0⟩
  step := program.step

end Program

/-! ### Proof outlines -/

section Outline

variable (invariant : ℕ → Shared → Prop) (assertion : Shared → ℕ → Thread → Prop)

/-- **The outline holds of the pool.** -/
structure Asserted (pool : Pool Shared Thread) : Prop where
  invariant : invariant pool.spawned pool.shared
  known : ∀ id thread, pool.threads.row id = some thread → id < pool.spawned
  thread : ∀ id thread, pool.threads.row id = some thread → assertion pool.shared id thread

/-- **What a step of one thread owes**: the invariant, its own next assertion, and those of the
others. -/
structure Passes (pool : Pool Shared Thread) (id spawned : ℕ) (shared : Shared)
    (next : Option Thread) : Prop where
  invariant : invariant spawned shared
  self : ∀ thread, next = some thread → assertion shared id thread
  others : ∀ other sibling, other ≠ id → pool.threads.row other = some sibling →
    assertion shared other sibling

/-- **A proof outline**, for the runs whose every step meets a condition. -/
structure Outline (program : Program Shared Thread Request Answer Event)
    (condition : Pool Shared Thread → Schedule Request Answer Event → Prop) : Prop where
  start : invariant 0 program.start
  spawn : ∀ pool request, condition pool (.spawn request) → Asserted invariant assertion pool →
    Passes invariant assertion pool pool.spawned (pool.spawned + 1)
      (program.spawn pool.shared pool.spawned request).1
      (some (program.spawn pool.shared pool.spawned request).2)
  advance : ∀ pool id thread answer, condition pool (.advance id answer) →
    Asserted invariant assertion pool → pool.threads.row id = some thread →
    Passes invariant assertion pool id pool.spawned
      (program.advance pool.shared id thread answer).1
      (program.advance pool.shared id thread answer).2
  drop : ∀ pool id thread, condition pool (.drop id) → Asserted invariant assertion pool →
    pool.threads.row id = some thread →
    Passes invariant assertion pool id pool.spawned (program.drop pool.shared id thread) none
  environment : ∀ pool event, condition pool (.environment event) →
    Asserted invariant assertion pool →
    invariant pool.spawned (program.environment pool.shared event) ∧ ∀ id thread,
      pool.threads.row id = some thread →
        assertion (program.environment pool.shared event) id thread
  crash : ∀ pool, condition pool .crash → Asserted invariant assertion pool →
    invariant pool.spawned (program.crash pool.shared)

end Outline

variable {invariant : ℕ → Shared → Prop} {assertion : Shared → ℕ → Thread → Prop}
  {program : Program Shared Thread Request Answer Event}
  {condition : Pool Shared Thread → Schedule Request Answer Event → Prop}

/-- A thread moved: what it owes makes the outline hold of the new pool. -/
theorem Passes.asserted {pool : Pool Shared Thread} {id spawned : ℕ} {shared : Shared}
    {next : Option Thread} (passes : Passes invariant assertion pool id spawned shared next)
    (asserted : Asserted invariant assertion pool) (more : pool.spawned ≤ spawned)
    (below : id < spawned) :
    Asserted invariant assertion ⟨shared, pool.threads.assign id next, spawned⟩ where
  invariant := passes.invariant
  known other thread found := by
    by_cases same : other = id
    · exact same ▸ below
    · rw [Table.assign_row_other _ _ same] at found
      exact (asserted.known other thread found).trans_le more
  thread other thread found := by
    by_cases same : other = id
    · subst same
      rw [Table.assign_row_self] at found
      exact passes.self thread found
    · rw [Table.assign_row_other _ _ same] at found
      exact passes.others other thread same found

/-- One choice of the scheduler keeps the outline. -/
theorem Outline.step (outline : Outline invariant assertion program condition)
    (pool : Pool Shared Thread) (choice : Schedule Request Answer Event)
    (meets : condition pool choice) (asserted : Asserted invariant assertion pool) :
    Asserted invariant assertion (program.step pool choice) := by
  cases choice with
  | spawn request =>
      exact (outline.spawn pool request meets asserted).asserted asserted (Nat.le_succ _)
        (Nat.lt_succ_self _)
  | advance id answer =>
      cases found : pool.threads.row id with
      | none => simpa only [Program.step, found] using asserted
      | some thread =>
          simp only [Program.step, found]
          exact (outline.advance pool id thread answer meets asserted found).asserted asserted
            le_rfl (asserted.known id thread found)
  | drop id =>
      cases found : pool.threads.row id with
      | none => simpa only [Program.step, found] using asserted
      | some thread =>
          simp only [Program.step, found]
          exact (outline.drop pool id thread meets asserted found).asserted asserted le_rfl
            (asserted.known id thread found)
  | environment event =>
      obtain ⟨invariant, threads⟩ := outline.environment pool event meets asserted
      exact ⟨invariant, asserted.known, threads⟩
  | crash => exact ⟨outline.crash pool meets asserted, nofun, nofun⟩

/-- **The rule for interleavings.** -/
theorem Outline.asserted (outline : Outline invariant assertion program condition)
    (choices : List (Schedule Request Answer Event))
    (meets : program.machine.Meets condition choices) :
    Asserted invariant assertion (program.machine.run choices) :=
  program.machine.invariant_of_meets ⟨outline.start, nofun, nofun⟩ outline.step choices meets

/-- The rule where every run is allowed. -/
theorem Outline.always (outline : Outline invariant assertion program fun _ _ => True)
    (choices : List (Schedule Request Answer Event)) :
    Asserted invariant assertion (program.machine.run choices) :=
  outline.asserted choices (program.machine.meetsFrom_true choices _)

/-- The condition may be strengthened by what the outline asserts. -/
theorem Outline.meets (outline : Outline invariant assertion program condition) :
    ∀ (choices : List (Schedule Request Answer Event)) (pool : Pool Shared Thread),
      Asserted invariant assertion pool → program.machine.MeetsFrom condition pool choices →
      program.machine.MeetsFrom (fun pool choice => condition pool choice ∧
        Asserted invariant assertion pool) pool choices := by
  intro choices
  induction choices with
  | nil => exact fun _ _ _ => trivial
  | cons choice rest ih =>
      intro pool asserted meets
      exact ⟨⟨meets.1, asserted⟩, ih _ (outline.step pool choice meets.1 asserted) meets.2⟩

/-! ### Duties -/

section Attendance

variable (duty : Shared → ℕ → Prop) (role : Thread → Prop)

/-- **Every duty is attended**: the thread it names is live, and plays the role. -/
def Attended (pool : Pool Shared Thread) : Prop :=
  ∀ id, duty pool.shared id → ∃ thread, pool.threads.row id = some thread ∧ role thread

/-- **The obligations**: a step gives no other thread a duty, and keeps its own only in the role. -/
structure Attendance (program : Program Shared Thread Request Answer Event)
    (condition : Pool Shared Thread → Schedule Request Answer Event → Prop) : Prop where
  start : ∀ id, ¬ duty program.start id
  spawn : ∀ pool request, condition pool (.spawn request) → ∀ id,
    duty (program.spawn pool.shared pool.spawned request).1 id →
      id ≠ pool.spawned ∧ duty pool.shared id
  advance : ∀ pool id thread answer, condition pool (.advance id answer) →
    pool.threads.row id = some thread →
    (∀ other, other ≠ id → duty (program.advance pool.shared id thread answer).1 other →
      duty pool.shared other) ∧
    (duty (program.advance pool.shared id thread answer).1 id →
      ∃ next, (program.advance pool.shared id thread answer).2 = some next ∧ role next)
  drop : ∀ pool id thread, condition pool (.drop id) → pool.threads.row id = some thread →
    ∀ other, duty (program.drop pool.shared id thread) other → other ≠ id ∧ duty pool.shared other
  environment : ∀ pool event, condition pool (.environment event) → ∀ id,
    duty (program.environment pool.shared event) id → duty pool.shared id
  crash : ∀ pool, condition pool .crash → ∀ id, ¬ duty (program.crash pool.shared) id

end Attendance

variable {duty : Shared → ℕ → Prop} {role : Thread → Prop}

/-- One choice of the scheduler leaves every duty attended. -/
theorem Attendance.step (attendance : Attendance duty role program condition)
    (pool : Pool Shared Thread) (choice : Schedule Request Answer Event)
    (meets : condition pool choice) (attended : Attended duty role pool) :
    Attended duty role (program.step pool choice) := by
  intro id due
  cases choice with
  | spawn request =>
      obtain ⟨different, before⟩ := attendance.spawn pool request meets id due
      obtain ⟨thread, found, plays⟩ := attended id before
      exact ⟨thread, (Table.put_row_other _ _ different).trans found, plays⟩
  | advance moved answer =>
      cases found : pool.threads.row moved with
      | none =>
          simp only [Program.step, found] at due ⊢
          exact attended id due
      | some thread =>
          simp only [Program.step, found] at due ⊢
          obtain ⟨others, self⟩ := attendance.advance pool moved thread answer meets found
          by_cases same : id = moved
          · subst same
            obtain ⟨next, stays, plays⟩ := self due
            exact ⟨next, (Table.assign_row_self _ _ _).trans stays, plays⟩
          · obtain ⟨sibling, here, plays⟩ := attended id (others id same due)
            exact ⟨sibling, (Table.assign_row_other _ _ same).trans here, plays⟩
  | drop moved =>
      cases found : pool.threads.row moved with
      | none =>
          simp only [Program.step, found] at due ⊢
          exact attended id due
      | some thread =>
          simp only [Program.step, found] at due ⊢
          obtain ⟨different, before⟩ := attendance.drop pool moved thread meets found id due
          obtain ⟨sibling, here, plays⟩ := attended id before
          exact ⟨sibling, (Table.assign_row_other _ _ different).trans here, plays⟩
  | environment event => exact attended id (attendance.environment pool event meets id due)
  | crash => exact absurd due (attendance.crash pool meets id)

/-- **Every duty is attended after every run.** -/
theorem Attendance.attended (attendance : Attendance duty role program condition)
    (choices : List (Schedule Request Answer Event))
    (meets : program.machine.Meets condition choices) :
    Attended duty role (program.machine.run choices) :=
  program.machine.invariant_of_meets (fun id due => absurd due (attendance.start id))
    attendance.step choices meets

end Transition
