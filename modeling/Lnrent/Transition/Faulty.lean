/-
**Programs whose steps may fail.** A program acts on a state step by step. Its environment decides which
steps fail, and what a failing step leaves behind; the states that were passed through are recorded.

* `Faulty` — the programs, `step`, `inspect`, `attempt` — what they are made of;
* `Ends` — what is known of the result and the state where a program ends, with one rule for each way
  to build a program (`ends_pure`, `ends_bind`, `ends_step`, …);
* `Leaves` — the same of the states alone, whatever was passed through before;
* `Preserves` — what every step of a program keeps, however it ends, with the same rules.
-/

import Mathlib.Tactic

namespace Transition

/-- A state, the states passed through before it, latest first, and the number of steps taken. -/
structure Traced (State : Type) where
  state : State
  past : List State
  taken : ℕ

variable {State Debris Error α β : Type}

/-- The trace of a program that is yet to take a step. -/
def Traced.start (state : State) : Traced State := ⟨state, [], 0⟩

/-- The next state is reached. -/
def Traced.reach (traced : Traced State) (state : State) : Traced State :=
  ⟨state, traced.state :: traced.past, traced.taken + 1⟩

/-- Every state the program was in. -/
def Traced.seen (traced : Traced State) : List State := traced.state :: traced.past

@[simp]
theorem Traced.reach_state (traced : Traced State) (state : State) :
    (traced.reach state).state = state := rfl

@[simp]
theorem Traced.reach_seen (traced : Traced State) (state : State) :
    (traced.reach state).seen = state :: traced.seen := rfl

@[simp]
theorem Traced.reach_taken (traced : Traced State) (state : State) :
    (traced.reach state).taken = traced.taken + 1 := rfl

/-- Which steps fail, and what each of them leaves. -/
abbrev Faults (Debris : Type) := ℕ → Option Debris

/-- At most one step fails. -/
def Faults.AtMostOne (faults : Faults Debris) : Prop :=
  ∀ first second, faults first ≠ none → faults second ≠ none → first = second

/-- **A program**: a result or an error, and the states it passes through. -/
def Faulty (State Debris Error α : Type) :=
  Faults Debris → Traced State → Except Error α × Traced State

namespace Faulty

instance : Monad (Faulty State Debris Error) where
  pure value := fun _ traced => (.ok value, traced)
  bind first next := fun faults traced =>
    match first faults traced with
    | (.ok value, after) => next value faults after
    | (.error error, after) => (.error error, after)

/-- Give up. -/
def fail (error : Error) : Faulty State Debris Error α := fun _ traced => (.error error, traced)

/-- One step: it changes the state, or fails and leaves debris. -/
def step (error : Error) (change : State → State) (spoil : Debris → State → State) :
    Faulty State Debris Error Unit := fun faults traced =>
  match faults traced.taken with
  | none => (.ok (), traced.reach (change traced.state))
  | some debris => (.error error, traced.reach (spoil debris traced.state))

/-- Read the state. -/
def inspect : Faulty State Debris Error State := fun _ traced => (.ok traced.state, traced)

/-- Run a program and look at how it ended. -/
def attempt (program : Faulty State Debris Error α) :
    Faulty State Debris Error (Except Error α) := fun faults traced =>
  match program faults traced with
  | (result, after) => (.ok result, after)

/-- A check that was made beforehand. -/
def check (verdict : Except Error α) : Faulty State Debris Error α := fun _ traced =>
  (verdict, traced)

end Faulty

/-! ### How a program ends -/

/-- **What is known where a program ends**, from the given trace on. -/
def Ends (faults : Faults Debris) (program : Faulty State Debris Error α) (before : Traced State)
    (ok : α → Traced State → Prop) (failed : Error → Traced State → Prop) : Prop :=
  match program faults before with
  | (.ok value, after) => ok value after
  | (.error error, after) => failed error after

section Rules

variable {faults : Faults Debris} {before : Traced State} {ok : α → Traced State → Prop}
  {ok' : β → Traced State → Prop} {failed : Error → Traced State → Prop}

theorem ends_pure (value : α) :
    Ends faults (pure value : Faulty State Debris Error α) before ok failed ↔ ok value before :=
  Iff.rfl

theorem ends_fail (error : Error) :
    Ends faults (Faulty.fail error) before ok failed ↔ failed error before :=
  Iff.rfl

theorem ends_inspect {ok : State → Traced State → Prop} :
    Ends faults (Faulty.inspect : Faulty State Debris Error State) before ok failed ↔
      ok before.state before :=
  Iff.rfl

theorem ends_bind (first : Faulty State Debris Error α) (next : α → Faulty State Debris Error β) :
    Ends faults (first >>= next) before ok' failed ↔
      Ends faults first before (fun value after => Ends faults (next value) after ok' failed)
        failed := by
  show (match (match first faults before with
    | (.ok value, after) => next value faults after
    | (.error error, after) => (.error error, after)) with
    | (.ok value, after) => ok' value after
    | (.error error, after) => failed error after) ↔ _
  unfold Ends
  rcases first faults before with ⟨value | error, after⟩ <;> rfl

theorem ends_attempt {ok : Except Error α → Traced State → Prop}
    (program : Faulty State Debris Error α) :
    Ends faults program.attempt before ok failed ↔
      Ends faults program before (fun value => ok (.ok value)) (fun error => ok (.error error)) := by
  unfold Ends Faulty.attempt
  rcases program faults before with ⟨value | error, after⟩ <;> rfl

theorem ends_check (verdict : Except Error α) :
    Ends faults (Faulty.check verdict) before ok failed ↔
      (∀ value, verdict = .ok value → ok value before) ∧
        ∀ error, verdict = .error error → failed error before := by
  unfold Ends Faulty.check
  cases verdict <;> simp

theorem ends_step {ok : Unit → Traced State → Prop} (error : Error) (change : State → State)
    (spoil : Debris → State → State) :
    Ends faults (Faulty.step error change spoil) before ok failed ↔
      (faults before.taken = none → ok () (before.reach (change before.state))) ∧
        ∀ debris, faults before.taken = some debris →
          failed error (before.reach (spoil debris before.state)) := by
  unfold Ends Faulty.step
  cases faults before.taken <;> simp

theorem Ends.mono {program : Faulty State Debris Error α} {ok₂ : α → Traced State → Prop}
    {failed₂ : Error → Traced State → Prop} (ends : Ends faults program before ok failed)
    (more : ∀ value after, ok value after → ok₂ value after)
    (less : ∀ error after, failed error after → failed₂ error after) :
    Ends faults program before ok₂ failed₂ := by
  unfold Ends at ends ⊢
  split at ends
  · exact more _ _ ends
  · exact less _ _ ends

theorem Ends.and {program : Faulty State Debris Error α} {ok₂ : α → Traced State → Prop}
    {failed₂ : Error → Traced State → Prop} (ends : Ends faults program before ok failed)
    (other : Ends faults program before ok₂ failed₂) :
    Ends faults program before (fun value after => ok value after ∧ ok₂ value after)
      (fun error after => failed error after ∧ failed₂ error after) := by
  revert ends other
  unfold Ends
  rcases program faults before with ⟨value | error, after⟩ <;> exact And.intro

end Rules

/-! ### States alone -/

/-- **What is known of the result, the state and the number of steps a program leaves**, from a given
state and number on. -/
def Leaves (faults : Faults Debris) (program : Faulty State Debris Error α) (before : State)
    (taken : ℕ) (ok : α → State → ℕ → Prop) (failed : Error → State → ℕ → Prop) : Prop :=
  ∀ traced, traced.state = before → traced.taken = taken →
    Ends faults program traced (fun value after => ok value after.state after.taken)
      fun error after => failed error after.state after.taken

section States

variable {faults : Faults Debris} {before : State} {taken : ℕ} {ok : α → State → ℕ → Prop}
  {ok' : β → State → ℕ → Prop} {failed : Error → State → ℕ → Prop}

theorem leaves_pure {value : α} (known : ok value before taken) :
    Leaves faults (pure value : Faulty State Debris Error α) before taken ok failed := by
  rintro traced rfl rfl
  exact (ends_pure value).mpr known

theorem leaves_fail {error : Error} (known : failed error before taken) :
    Leaves faults (Faulty.fail error : Faulty State Debris Error α) before taken ok failed := by
  rintro traced rfl rfl
  exact (ends_fail error).mpr known

theorem leaves_inspect {ok : State → State → ℕ → Prop} (known : ok before before taken) :
    Leaves faults (Faulty.inspect : Faulty State Debris Error State) before taken ok failed := by
  rintro traced rfl rfl
  exact ends_inspect.mpr known

theorem leaves_bind {first : Faulty State Debris Error α} {next : α → Faulty State Debris Error β}
    (known : Leaves faults first before taken
      (fun value after number => Leaves faults (next value) after number ok' failed) failed) :
    Leaves faults (first >>= next) before taken ok' failed :=
  fun traced same count => (ends_bind first next).mpr
    ((known traced same count).mono (fun _ after next => next after rfl rfl) fun _ _ => id)

theorem leaves_check {verdict : Except Error α}
    (passed : ∀ value, verdict = .ok value → ok value before taken)
    (refused : ∀ error, verdict = .error error → failed error before taken) :
    Leaves faults (Faulty.check verdict) before taken ok failed := by
  rintro traced rfl rfl
  exact (ends_check verdict).mpr ⟨passed, refused⟩

theorem leaves_step {ok : Unit → State → ℕ → Prop} {error : Error} {change : State → State}
    {spoil : Debris → State → State} (done : ok () (change before) (taken + 1))
    (spoiled : ∀ debris, faults taken = some debris →
      failed error (spoil debris before) (taken + 1)) :
    Leaves faults (Faulty.step error change spoil) before taken ok failed := by
  rintro traced rfl rfl
  exact (ends_step error change spoil).mpr ⟨fun _ => done, spoiled⟩

/-- How a program ends that starts without a past. -/
theorem Leaves.start {program : Faulty State Debris Error α}
    (leaves : Leaves faults program before 0 ok failed) :
    (∃ value, (program faults (.start before)).1 = .ok value ∧
      ok value (program faults (.start before)).2.state (program faults (.start before)).2.taken) ∨
    ∃ error, (program faults (.start before)).1 = .error error ∧
      failed error (program faults (.start before)).2.state
        (program faults (.start before)).2.taken := by
  have ends := leaves (.start before) rfl rfl
  unfold Ends at ends
  split at ends
  · rename_i value after found
    exact .inl ⟨value, by rw [found], by rw [found]; exact ends⟩
  · rename_i error after found
    exact .inr ⟨error, by rw [found], by rw [found]; exact ends⟩

end States

/-! ### What a program keeps -/

/-- **Every end of the program keeps what held before it.** -/
def Preserves (invariant : Traced State → Prop) (program : Faulty State Debris Error α) : Prop :=
  ∀ faults before, invariant before →
    Ends faults program before (fun _ => invariant) (fun _ => invariant)

section Keeping

variable {invariant : Traced State → Prop}

theorem preserves_pure (value : α) : Preserves invariant (pure value : Faulty State Debris Error α) :=
  fun _ _ held => held

theorem preserves_fail (error : Error) :
    Preserves invariant (Faulty.fail error : Faulty State Debris Error α) :=
  fun _ _ held => held

theorem preserves_inspect : Preserves invariant (Faulty.inspect : Faulty State Debris Error State) :=
  fun _ _ held => held

theorem preserves_check (verdict : Except Error α) :
    Preserves invariant (Faulty.check verdict : Faulty State Debris Error α) :=
  fun _ _ held => (ends_check verdict).mpr ⟨fun _ _ => held, fun _ _ => held⟩

theorem preserves_bind {first : Faulty State Debris Error α} {next : α → Faulty State Debris Error β}
    (one : Preserves invariant first) (two : ∀ value, Preserves invariant (next value)) :
    Preserves invariant (first >>= next) :=
  fun faults before held => (ends_bind first next).mpr
    ((one faults before held).mono (fun value after => two value faults after) fun _ _ => id)

theorem preserves_attempt {program : Faulty State Debris Error α} (kept : Preserves invariant program) :
    Preserves invariant program.attempt :=
  fun faults before held => (ends_attempt program).mpr (kept faults before held)

theorem preserves_step {error : Error} {change : State → State} {spoil : Debris → State → State}
    (changed : ∀ before, invariant before → invariant (before.reach (change before.state)))
    (spoiled : ∀ debris before, invariant before →
      invariant (before.reach (spoil debris before.state))) :
    Preserves invariant (Faulty.step error change spoil) :=
  fun _ before held => (ends_step error change spoil).mpr
    ⟨fun _ => changed before held, fun debris _ => spoiled debris before held⟩

end Keeping

end Transition
