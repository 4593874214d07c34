/-
**No supervised loop outlives its wrapper.** In every interleaving of the wrapper with its tasks, the
clock and the shutdown signal, one start of the loop runs at a time, and the last one has ended or is
aborted when the wrapper is over.

* `Polled` — everything that one step of the wrapper can do;
* `Drifts` — what the tasks, the clock and the signal can do meanwhile;
* `Holds`, `Kept` — the assertion of each phase, and the invariant;
* `no_loop_outlives` — **the theorem**.
-/

import Lnrent.Daemon.Supervisor

namespace Lnrent.Supervisor

open Transition

variable {backoff : Backoff} {wrapper next : Wrapper}

/-! ### What a step can do -/

namespace Wrapper

/-- The newest start. -/
def newest (wrapper : Wrapper) : Option Child := wrapper.children.head?

/-- **The wrapper waits**: for its loop, or for the end of a delay. -/
def Waits (wrapper : Wrapper) : Prop :=
  match wrapper.phase with
  | .running => wrapper.childOutcome = none ∧ ¬ wrapper.Stopping
  | .draining deadline => wrapper.childOutcome = none ∧ wrapper.now < deadline
  | .sleeping until_ => ¬ wrapper.Stopping ∧ wrapper.now < until_
  | _ => False

instance : Decidable wrapper.Waits := by
  unfold Waits
  split <;> infer_instance

end Wrapper

open Wrapper

/-- **What one poll can do.** -/
inductive Polled (backoff : Backoff) (wrapper : Wrapper) : Wrapper → Prop where
  | idle (waits : wrapper.Waits ∨ wrapper.phase = .returned ∨ wrapper.phase = .dropped) :
      Polled backoff wrapper wrapper
  | entered (phase : wrapper.phase = .created) :
      Polled backoff wrapper { wrapper with phase := .checking, delay := backoff.base }
  | stopped (phase : wrapper.phase = .checking) (stop : wrapper.stop ≠ none) :
      Polled backoff wrapper { wrapper with phase := .returned }
  | passed (phase : wrapper.phase = .checking) (open_ : wrapper.stop = none) :
      Polled backoff wrapper { wrapper with phase := .starting }
  | timed (phase : wrapper.phase = .starting) :
      Polled backoff wrapper { wrapper with phase := .spawning wrapper.now }
  | spawned {started : ℕ} (phase : wrapper.phase = .spawning started) :
      Polled backoff wrapper { wrapper with
        phase := .running
        children := ⟨started, wrapper.stop.isSome, none, none⟩ :: wrapper.children }
  | drains (phase : wrapper.phase = .running) (stopping : wrapper.Stopping) :
      Polled backoff wrapper
        { wrapper with phase := .draining (wrapper.now + shutdownDrain) }
  | ended {outcome : Outcome} (phase : wrapper.phase = .running ∨ ∃ deadline, wrapper.phase =
        .draining deadline) (outcome_ : wrapper.childOutcome = some outcome) :
      Polled backoff wrapper { wrapper with phase := .finished outcome }
  | overran {deadline : ℕ} (phase : wrapper.phase = .draining deadline)
      (running : wrapper.childOutcome = none) (due : deadline ≤ wrapper.now) :
      Polled backoff wrapper { wrapper.abortChild with phase := .returned }
  | left {outcome : Outcome} (phase : wrapper.phase = .finished outcome)
      (final : wrapper.stop ≠ none ∨ outcome = .cancelled) :
      Polled backoff wrapper { wrapper with phase := .returned }
  | logged {outcome : Outcome} (phase : wrapper.phase = .finished outcome)
      (open_ : wrapper.stop = none) (again : outcome ≠ .cancelled) :
      Polled backoff wrapper { wrapper with phase := .judging }
  | judged {delay : ℕ} (phase : wrapper.phase = .judging)
      (reset : delay = wrapper.delay ∨ delay = backoff.base ∧
        backoff.max ≤ wrapper.now - wrapper.startedOf) :
      Polled backoff wrapper { wrapper with phase := .arming, delay := delay }
  | armed (phase : wrapper.phase = .arming) :
      Polled backoff wrapper { wrapper with phase := .sleeping (wrapper.now + wrapper.delay) }
  | woken {until_ : ℕ} (phase : wrapper.phase = .sleeping until_) (stopping : wrapper.Stopping) :
      Polled backoff wrapper { wrapper with phase := .returned }
  | slept {until_ : ℕ} (phase : wrapper.phase = .sleeping until_) (due : until_ ≤ wrapper.now) :
      Polled backoff wrapper { wrapper with
        phase := .checking, delay := min (wrapper.delay * 2) backoff.max }

/-- Saturation does not show below the cap. -/
theorem Backoff.grow_eq (backoff : Backoff) (delay : ℕ) :
    backoff.grow delay = min (delay * 2) backoff.max := by
  rw [grow, saturatingMul, min_assoc, min_eq_right backoff.max_le]

theorem Wrapper.poll_polled (backoff : Backoff) (wrapper : Wrapper) (preferred : Branch) :
    Polled backoff wrapper (wrapper.poll backoff preferred) := by
  unfold poll
  cases phase : wrapper.phase with
  | created => exact .entered phase
  | checking =>
      dsimp only
      split_ifs with stop
      · exact .stopped phase stop
      · exact .passed phase (not_not.mp stop)
  | starting => exact .timed phase
  | spawning started => exact .spawned phase
  | running =>
      dsimp only
      cases outcome : wrapper.childOutcome with
      | some ended =>
          dsimp only
          split_ifs with stopping
          · exact .drains phase stopping.1
          · exact .ended (.inl phase) outcome
      | none =>
          dsimp only
          split_ifs with stopping
          · exact .drains phase stopping
          · exact .idle (.inl (by simpa [Waits, phase, outcome] using stopping))
  | draining deadline =>
      dsimp only
      cases outcome : wrapper.childOutcome with
      | some ended => exact .ended (.inr ⟨deadline, phase⟩) outcome
      | none =>
          dsimp only
          split_ifs with due
          · exact .overran phase outcome due
          · exact .idle (.inl (by simpa [Waits, phase, outcome] using due))
  | finished outcome =>
      dsimp only
      split_ifs with final
      · exact .left phase final
      · push Not at final
        exact .logged phase final.1 final.2
  | judging =>
      refine .judged phase ?_
      unfold Backoff.settle
      split_ifs with healthy
      · exact .inr ⟨rfl, healthy⟩
      · exact .inl rfl
  | arming => exact .armed phase
  | sleeping until_ =>
      dsimp only
      split_ifs with woken due
      · exact .woken phase woken.1
      · rw [backoff.grow_eq]
        exact .slept phase due
      · refine .idle (.inl ?_)
        have early : wrapper.now < until_ := Nat.lt_of_not_le due
        simp only [Waits, phase]
        exact ⟨fun stopping => woken ⟨stopping, .inr early⟩, early⟩
  | returned => exact .idle (.inr (.inl phase))
  | dropped => exact .idle (.inr (.inr phase))

/-! ### What happens meanwhile -/

/-- A task may have ended. -/
structure Child.Drifts (old new : Child) : Prop where
  started : new.started = old.started
  late : new.late = old.late
  aborted : new.aborted = old.aborted
  ended : ∀ outcome, old.ended = some outcome → new.ended = some outcome

/-- **What the tasks, the clock and the shutdown signal do** between two steps of the wrapper. -/
structure Drifts (before after : Wrapper) : Prop where
  phase : after.phase = before.phase
  delay : after.delay = before.delay
  clock : before.now ≤ after.now
  stop : ∀ since, before.stop = some since → after.stop = some since
  gone : ∀ since, before.gone = some since → after.gone = some since
  stops : ∀ since, after.stop = some since → before.stop = some since ∨ since = before.now
  goes : ∀ since, after.gone = some since → before.gone = some since ∨ since = before.now
  children : List.Forall₂ Child.Drifts before.children after.children

theorem Child.drifts_same (children : List Child) : List.Forall₂ Child.Drifts children children :=
  List.forall₂_same.mpr fun _ _ => ⟨rfl, rfl, rfl, fun _ => id⟩

theorem Wrapper.finish_children (children : List Child) (index : ℕ) (outcome : Outcome) :
    List.Forall₂ Child.Drifts children (children.modify index fun child =>
      { child with ended := child.ended.or (some outcome) }) := by
  induction children generalizing index with
  | nil => simp
  | cons child earlier ih =>
      cases index with
      | zero =>
          refine .cons ⟨rfl, rfl, rfl, fun ended isEnded => ?_⟩ (Child.drifts_same earlier)
          simp [isEnded]
      | succ index => exact .cons ⟨rfl, rfl, rfl, fun _ => id⟩ (ih index)

/-- Whatever is neither a step of the wrapper nor its end drifts. -/
theorem Wrapper.step_drifts (backoff : Backoff) (wrapper : Wrapper) :
    ∀ action, (∀ preferred, action ≠ .poll preferred) → action ≠ .cancel →
      Drifts wrapper (wrapper.step backoff action)
  | .tick elapsed, _, _ =>
      ⟨rfl, rfl, Nat.le_add_right _ _, fun _ => id, fun _ => id, fun _ => .inl, fun _ => .inl,
        Child.drifts_same _⟩
  | .signal, _, _ => by
      refine ⟨rfl, rfl, le_rfl, fun since given => ?_, fun _ => id, fun since given => ?_,
        fun _ => .inl, Child.drifts_same _⟩
      · simp [Wrapper.step, given]
      · cases stop : wrapper.stop with
        | none => exact .inr (by simpa [Wrapper.step, stop] using given.symm)
        | some earlier => exact .inl (by simpa [Wrapper.step, stop] using given)
  | .hangUp, _, _ => by
      refine ⟨rfl, rfl, le_rfl, fun _ => id, fun since given => ?_, fun _ => .inl,
        fun since given => ?_, Child.drifts_same _⟩
      · simp [Wrapper.step, given]
      · cases gone : wrapper.gone with
        | none => exact .inr (by simpa [Wrapper.step, gone] using given.symm)
        | some earlier => exact .inl (by simpa [Wrapper.step, gone] using given)
  | .finish index outcome, _, _ =>
      ⟨rfl, rfl, le_rfl, fun _ => id, fun _ => id, fun _ => .inl, fun _ => .inl,
        finish_children _ _ _⟩
  | .poll preferred, wrapped, _ => absurd rfl (wrapped preferred)
  | .cancel, _, cancelled => absurd rfl cancelled

/-! ### The invariant -/

/-- The shutdown signal, or the loss of its sender, came at the given time. -/
def Wrapper.StoppedAt (wrapper : Wrapper) (since : ℕ) : Prop :=
  wrapper.stop = some since ∨ wrapper.gone = some since

theorem Wrapper.stopping_iff : wrapper.Stopping ↔ ∃ since, wrapper.StoppedAt since := by
  simp only [Stopping, StoppedAt, Option.ne_none_iff_exists', exists_or]

/-- A start that ended by itself. -/
structure Child.Done (child : Child) : Prop where
  ended : child.ended ≠ none
  spared : child.aborted = none

/-- A start that was aborted after the whole drain window. -/
def Child.Overran (child : Child) (wrapper : Wrapper) : Prop :=
  ∃ at_ since, child.aborted = some at_ ∧ wrapper.StoppedAt since ∧ since + shutdownDrain ≤ at_

/-- **The assertion of each phase** about the newest start. -/
def Holds (wrapper : Wrapper) : Phase → Prop
  | .created => wrapper.children = []
  | .running => ∃ child ∈ wrapper.newest, child.aborted = none
  | .draining deadline =>
      (∃ child ∈ wrapper.newest, child.aborted = none) ∧
        ∃ since, wrapper.StoppedAt since ∧ since + shutdownDrain ≤ deadline
  | .finished outcome =>
      ∃ child ∈ wrapper.newest, child.ended = some outcome ∧ child.aborted = none
  | .returned =>
      (wrapper.Stopping ∨ wrapper.childOutcome = some .cancelled) ∧
        ∀ child ∈ wrapper.newest, child.Done ∨ child.Overran wrapper
  | .dropped => ∀ child ∈ wrapper.newest, child.ended ≠ none ∨ child.aborted ≠ none
  | _ => ∀ child ∈ wrapper.newest, child.Done ∧ child.late = false

/-- **The invariant.** -/
structure Kept (wrapper : Wrapper) : Prop where
  past : ∀ since, wrapper.StoppedAt since → since ≤ wrapper.now
  late : ∀ child ∈ wrapper.newest, child.late = true → wrapper.stop ≠ none
  older : ∀ child ∈ wrapper.children.tail, child.Done ∧ child.late = false
  holds : Holds wrapper wrapper.phase

theorem Drifts.stoppedAt (drifts : Drifts wrapper next) {since : ℕ}
    (stopped : wrapper.StoppedAt since) : next.StoppedAt since :=
  stopped.imp (drifts.stop since) (drifts.gone since)

theorem Drifts.stopping (drifts : Drifts wrapper next) (stopping : wrapper.Stopping) :
    next.Stopping := by
  obtain ⟨since, stopped⟩ := stopping_iff.mp stopping
  exact stopping_iff.mpr ⟨since, drifts.stoppedAt stopped⟩

/-- An item of the right list is related to one of the left. -/
theorem exists_mem_of_forall₂ {related : Child → Child → Prop} {olds news : List Child}
    (all : List.Forall₂ related olds news) {new : Child} (found : new ∈ news) :
    ∃ old ∈ olds, related old new := by
  induction all with
  | nil => cases found
  | @cons old head olds _ first _ ih =>
      rcases List.mem_cons.mp found with rfl | later
      · exact ⟨old, List.mem_cons_self, first⟩
      · obtain ⟨old, old_, drifted⟩ := ih later
        exact ⟨old, List.mem_cons_of_mem _ old_, drifted⟩

/-- The newest start drifts, and the earlier ones. -/
theorem Drifts.split (drifts : Drifts wrapper next) :
    wrapper.children = [] ∧ next.children = [] ∨
      ∃ old olds new news, wrapper.children = old :: olds ∧ next.children = new :: news ∧
        old.Drifts new ∧ List.Forall₂ Child.Drifts olds news := by
  have related := drifts.children
  generalize wrapper.children = olds, next.children = news at related ⊢
  cases related with
  | nil => exact .inl ⟨rfl, rfl⟩
  | cons first rest => exact .inr ⟨_, _, _, _, rfl, rfl, first, rest⟩

theorem Drifts.newest (drifts : Drifts wrapper next) {child : Child} (found : child ∈ next.newest) :
    ∃ old ∈ wrapper.newest, old.Drifts child := by
  unfold Wrapper.newest at found ⊢
  rcases drifts.split with ⟨-, none_⟩ | ⟨old, olds, new, news, before, after, first, -⟩
  · simp [none_] at found
  · rw [after] at found
    obtain rfl := Option.some.inj found
    exact ⟨old, by simp [before], first⟩

theorem Drifts.newest_of (drifts : Drifts wrapper next) {old : Child} (found : old ∈ wrapper.newest) :
    ∃ child ∈ next.newest, old.Drifts child := by
  unfold Wrapper.newest at found ⊢
  rcases drifts.split with ⟨none_, -⟩ | ⟨first, olds, new, news, before, after, drifted, -⟩
  · simp [none_] at found
  · rw [before] at found
    obtain rfl := Option.some.inj found
    exact ⟨new, by simp [after], drifted⟩

theorem Drifts.older (drifts : Drifts wrapper next) {child : Child}
    (found : child ∈ next.children.tail) : ∃ old ∈ wrapper.children.tail, old.Drifts child := by
  rcases drifts.split with ⟨-, none_⟩ | ⟨old, olds, new, news, before, after, -, rest⟩
  · simp [none_] at found
  · rw [after] at found
    obtain ⟨earlier, earlier_, drifted⟩ := exists_mem_of_forall₂ rest found
    exact ⟨earlier, by simpa [before] using earlier_, drifted⟩

theorem Drifts.childOutcome (drifts : Drifts wrapper next) {outcome : Outcome}
    (ended : wrapper.childOutcome = some outcome) : next.childOutcome = some outcome := by
  obtain ⟨old, old_, isEnded⟩ := Option.bind_eq_some_iff.mp ended
  obtain ⟨child, child_, drifted⟩ := drifts.newest_of old_
  exact Option.bind_eq_some_iff.mpr ⟨child, child_, drifted.ended outcome isEnded⟩

theorem Child.Drifts.done {old new : Child} (drifts : old.Drifts new) (done : old.Done) : new.Done := by
  obtain ⟨outcome, ended⟩ := Option.ne_none_iff_exists'.mp done.ended
  exact ⟨by simp [drifts.ended outcome ended], drifts.aborted.trans done.spared⟩

/-- **What happens meanwhile keeps the invariant.** -/
theorem Kept.drifts (kept : Kept wrapper) (drifts : Drifts wrapper next) : Kept next where
  past since stopped := by
    rcases stopped with given | lost
    · rcases drifts.stops since given with before | rfl
      · exact (kept.past since (.inl before)).trans drifts.clock
      · exact drifts.clock
    · rcases drifts.goes since lost with before | rfl
      · exact (kept.past since (.inr before)).trans drifts.clock
      · exact drifts.clock
  late child found late := by
    obtain ⟨old, old_, drifted⟩ := drifts.newest found
    obtain ⟨since, stop⟩ := Option.ne_none_iff_exists'.mp
      (kept.late old old_ (drifted.late.symm.trans late))
    simp [drifts.stop since stop]
  older child found := by
    obtain ⟨old, old_, drifted⟩ := drifts.older found
    obtain ⟨done, early⟩ := kept.older old old_
    exact ⟨drifted.done done, drifted.late.trans early⟩
  holds := by
    have holds := kept.holds
    rw [drifts.phase]
    generalize wrapper.phase = phase at holds
    have spared : (∃ child ∈ wrapper.newest, child.aborted = none) →
        ∃ child ∈ next.newest, child.aborted = none := by
      rintro ⟨old, old_, spared⟩
      obtain ⟨child, child_, drifted⟩ := drifts.newest_of old_
      exact ⟨child, child_, drifted.aborted.trans spared⟩
    cases phase with
    | created =>
        have related := drifts.children
        rw [show wrapper.children = [] from holds] at related
        exact List.forall₂_nil_left_iff.mp related
    | running => exact spared holds
    | draining deadline =>
        obtain ⟨alive, since, stopped, window⟩ := holds
        exact ⟨spared alive, since, drifts.stoppedAt stopped, window⟩
    | finished outcome =>
        obtain ⟨old, old_, ended, spared⟩ := holds
        obtain ⟨child, child_, drifted⟩ := drifts.newest_of old_
        exact ⟨child, child_, drifted.ended outcome ended, drifted.aborted.trans spared⟩
    | returned =>
        obtain ⟨reason, covered⟩ := holds
        refine ⟨reason.imp drifts.stopping drifts.childOutcome, fun child found => ?_⟩
        obtain ⟨old, old_, drifted⟩ := drifts.newest found
        refine (covered old old_).imp drifted.done ?_
        rintro ⟨at_, since, aborted, stopped, window⟩
        exact ⟨at_, since, drifted.aborted.trans aborted, drifts.stoppedAt stopped, window⟩
    | dropped =>
        intro child found
        obtain ⟨old, old_, drifted⟩ := drifts.newest found
        refine (holds old old_).imp (fun ended => ?_) (fun aborted => ?_)
        · obtain ⟨outcome, isEnded⟩ := Option.ne_none_iff_exists'.mp ended
          simp [drifted.ended outcome isEnded]
        · rwa [drifted.aborted]
    | checking | starting | spawning | judging | arming | sleeping =>
        intro child found
        obtain ⟨old, old_, drifted⟩ := drifts.newest found
        exact ⟨drifted.done (holds old old_).1, drifted.late.trans (holds old old_).2⟩

/-! ### The steps of the wrapper -/

/-- The newest start at the end of a step that spawns and aborts nothing. -/
theorem Kept.idle (kept : Kept wrapper) {phase : Phase} {delay : ℕ}
    (holds : Holds { wrapper with phase := phase, delay := delay } phase) :
    Kept { wrapper with phase := phase, delay := delay } :=
  ⟨kept.past, kept.late, kept.older, holds⟩

/-- Every start is the newest or an earlier one. -/
theorem Wrapper.newest_or_older {child : Child} (found : child ∈ wrapper.children) :
    child ∈ wrapper.newest ∨ child ∈ wrapper.children.tail := by
  unfold Wrapper.newest
  generalize wrapper.children = children at found ⊢
  cases found with
  | head => exact .inl rfl
  | tail _ later => exact .inr later

theorem Wrapper.abortChild_newest {child : Child} (found : child ∈ wrapper.abortChild.newest) :
    ∃ old ∈ wrapper.newest,
      child = { old with aborted := old.aborted.or (some wrapper.now) } := by
  unfold Wrapper.newest abortChild at *
  rw [List.head?_modifyHead] at found
  obtain ⟨old, old_, rfl⟩ := Option.map_eq_some_iff.mp found
  exact ⟨old, old_, rfl⟩

/-- Aborting the newest start touches no other. -/
theorem Kept.abortChild (kept : Kept wrapper) {phase : Phase}
    (holds : Holds { wrapper.abortChild with phase := phase } phase) :
    Kept { wrapper.abortChild with phase := phase } where
  past := kept.past
  late child found late := by
    obtain ⟨old, old_, rfl⟩ := abortChild_newest found
    exact kept.late old old_ late
  older := by
    have same : wrapper.abortChild.children.tail = wrapper.children.tail := by
      simp only [Wrapper.abortChild, List.tail_modifyHead]
    exact same ▸ kept.older
  holds := holds

/-- **A step of the wrapper keeps the invariant.** -/
theorem Kept.polled (kept : Kept wrapper) (polled : Polled backoff wrapper next) : Kept next := by
  have holds := kept.holds
  cases polled with
  | idle => exact kept
  | entered phase =>
      rw [phase] at holds
      refine kept.idle fun child found => ?_
      simp [Wrapper.newest, show wrapper.children = [] from holds] at found
  | stopped phase stop =>
      rw [phase] at holds
      exact kept.idle ⟨.inl (.inl stop), fun child found => .inl (holds child found).1⟩
  | passed phase | timed phase | armed phase | slept phase | judged phase =>
      rw [phase] at holds
      exact kept.idle holds
  | spawned phase =>
      rw [phase] at holds
      refine ⟨kept.past, fun child found late => ?_, fun child found => ?_, _, rfl, rfl⟩
      · obtain rfl := Option.some.inj found
        exact Option.isSome_iff_ne_none.mp late
      · exact (newest_or_older found).elim (holds child) (kept.older child)
  | drains phase stopping =>
      rw [phase] at holds
      obtain ⟨since, stopped⟩ := stopping_iff.mp stopping
      exact kept.idle ⟨holds, since, stopped, Nat.add_le_add_right (kept.past since stopped) _⟩
  | @ended outcome phase ended =>
      have alive : ∃ child ∈ wrapper.newest, child.aborted = none := by
        rcases phase with phase | ⟨deadline, phase⟩
        · rwa [phase] at holds
        · rw [phase] at holds
          exact holds.1
      obtain ⟨child, child_, spared⟩ := alive
      refine kept.idle ⟨child, child_, ?_, spared⟩
      have found : wrapper.children.head? = some child := child_
      simpa [Wrapper.childOutcome, found] using ended
  | overran phase running due =>
      rw [phase] at holds
      obtain ⟨⟨old, old_, spared⟩, since, stopped, window⟩ := holds
      refine kept.abortChild ⟨.inl (stopping_iff.mpr ⟨since, stopped⟩), fun child found => .inr ?_⟩
      obtain ⟨_, found', rfl⟩ := abortChild_newest found
      obtain rfl := Option.some.inj (found'.symm.trans old_)
      exact ⟨wrapper.now, since, by simp [spared], stopped, window.trans due⟩
  | left phase final =>
      rw [phase] at holds
      obtain ⟨child, child_, ended, spared⟩ := holds
      have found : wrapper.children.head? = some child := child_
      refine kept.idle ⟨final.imp .inl ?_, fun other other_ => ?_⟩
      · rintro rfl
        simpa [Wrapper.childOutcome, found] using ended
      · obtain rfl := Option.some.inj (other_.symm.trans child_)
        exact .inl ⟨by simp [ended], spared⟩
  | logged phase open_ again =>
      rw [phase] at holds
      obtain ⟨child, child_, ended, spared⟩ := holds
      refine kept.idle fun other other_ => ?_
      obtain rfl := Option.some.inj (other_.symm.trans child_)
      exact ⟨⟨by simp [ended], spared⟩, by
        by_contra late
        exact kept.late other other_ (by simpa using late) open_⟩
  | woken phase stopping =>
      rw [phase] at holds
      exact kept.idle ⟨.inl stopping, fun child found => .inl (holds child found).1⟩

/-- Dropping the wrapper keeps the invariant. -/
theorem Kept.cancel (kept : Kept wrapper) : Kept wrapper.cancel := by
  have aborted : Kept { wrapper.abortChild with phase := .dropped } := by
    refine kept.abortChild fun child found => .inr ?_
    obtain ⟨old, -, rfl⟩ := abortChild_newest found
    cases old.aborted <;> simp
  have holds := kept.holds
  unfold Wrapper.cancel
  cases phase : wrapper.phase with
  | created =>
      rw [phase] at holds
      refine kept.idle fun child found => ?_
      simp [Wrapper.newest, show wrapper.children = [] from holds] at found
  | sleeping =>
      rw [phase] at holds
      exact kept.idle fun child found => .inl (holds child found).1.ended
  | running | draining => exact aborted
  | checking | starting | spawning | finished | judging | arming | returned | dropped => exact kept

theorem kept_step (backoff : Backoff) (wrapper : Wrapper) (action : Action) (kept : Kept wrapper) :
    Kept (wrapper.step backoff action) := by
  cases action with
  | poll preferred => exact kept.polled (poll_polled backoff wrapper preferred)
  | cancel => exact kept.cancel
  | tick | signal | hangUp | finish =>
      exact kept.drifts (step_drifts backoff wrapper _ (by simp) (by simp))

theorem kept_run (backoff : Backoff) (actions : List Action) :
    Kept ((supervise backoff).run actions) :=
  (supervise backoff).invariant
    ⟨fun _ stopped => by simp [supervise, StoppedAt] at stopped, nofun, nofun, rfl⟩
    (kept_step backoff) actions

/-! ### The theorem -/

/-- **No supervised loop outlives its wrapper**, in any interleaving. Every start but the newest has
ended by itself, and at most one start is spawned after the shutdown signal. A wrapper that returned
was told to stop or lost its child to a cancellation, and its child has ended or was aborted after the
whole drain window; a wrapper that was dropped leaves no running child behind. -/
theorem no_loop_outlives (backoff : Backoff) (actions : List Action) :
    let wrapper := (supervise backoff).run actions
    (∀ child ∈ wrapper.children.tail, child.Done) ∧
      (wrapper.children.filter Child.late).length ≤ 1 ∧
      (wrapper.phase = .returned →
        (wrapper.Stopping ∨ wrapper.childOutcome = some .cancelled) ∧
          ∀ child ∈ wrapper.children, child.Done ∨ child.Overran wrapper) ∧
      (wrapper.phase = .dropped →
        ∀ child ∈ wrapper.children, child.ended ≠ none ∨ child.aborted ≠ none) ∧
      (wrapper.phase ≠ .returned → wrapper.phase ≠ .dropped →
        ∀ child ∈ wrapper.children, child.aborted = none) := by
  intro wrapper
  have kept : Kept wrapper := kept_run backoff actions
  have holds := kept.holds
  refine ⟨fun child found => (kept.older child found).1, ?_, fun returned => ?_, fun dropped => ?_,
    fun returned dropped child found => ?_⟩
  · cases children : wrapper.children with
    | nil => exact Nat.zero_le 1
    | cons newest older =>
        have early : older.filter Child.late = [] := by
          refine List.filter_eq_nil_iff.mpr fun child found => ?_
          have old : child ∈ wrapper.children.tail := by
            rw [children]
            exact found
          simp [(kept.older child old).2]
        rw [List.filter_cons, early]
        split_ifs
        · exact le_rfl
        · exact Nat.zero_le 1
  · rw [returned] at holds
    exact ⟨holds.1, fun child found => (newest_or_older found).elim (holds.2 child) fun older =>
      .inl (kept.older child older).1⟩
  · rw [dropped] at holds
    exact fun child found => (newest_or_older found).elim (holds child) fun older =>
      .inl (kept.older child older).1.ended
  · rcases newest_or_older found with newest | older
    · generalize wrapper.phase = phase at holds returned dropped
      cases phase with
      | created => simp [Wrapper.newest, show wrapper.children = [] from holds] at newest
      | returned => exact absurd rfl returned
      | dropped => exact absurd rfl dropped
      | running =>
          obtain ⟨other, other_, spared⟩ := holds
          exact Option.some.inj (newest.symm.trans other_) ▸ spared
      | draining =>
          obtain ⟨⟨other, other_, spared⟩, -⟩ := holds
          exact Option.some.inj (newest.symm.trans other_) ▸ spared
      | finished =>
          obtain ⟨other, other_, -, spared⟩ := holds
          exact Option.some.inj (newest.symm.trans other_) ▸ spared
      | checking | starting | spawning | judging | arming | sleeping =>
          exact (holds child newest).1.spared
    · exact (kept.older child older).1.spared

end Lnrent.Supervisor
