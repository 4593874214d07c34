/-
**A supervised loop comes back, and winds down.** However a start of the loop ended, the next one
follows after a delay that the backoff bounds from both sides, until the shutdown signal is given; then
the wrapper is over after a few steps and one drain window.

* `PacedAt`, `Timed` — the pace of the starts in each phase, and the invariant;
* `starts_paced` — **the rate of the starts**;
* `loop_comes_back` — **a loop that ended is started again**;
* `wrapper_winds_down` — **the wrapper returns after the signal**.
-/

import Lnrent.Supervision.Loop

namespace Lnrent.Supervisor

open Transition Wrapper

variable {backoff : Backoff} {wrapper next : Wrapper}

/-! ### The pace of the starts -/

/-- When the loop was started, the newest start first. -/
def Wrapper.starts (wrapper : Wrapper) : List ℕ := wrapper.children.map Child.started

/-- **The pace in each phase**: what the next start has to wait for. -/
def PacedAt (backoff : Backoff) (wrapper : Wrapper) : Phase → Prop
  | .created => wrapper.children = []
  | .checking | .starting =>
      ∀ start, wrapper.now ≤ start →
        Paced backoff.base backoff.max wrapper.delay (start :: wrapper.starts)
  | .spawning started =>
      started ≤ wrapper.now ∧
        Paced backoff.base backoff.max wrapper.delay (started :: wrapper.starts)
  | .running | .draining _ | .finished _ | .judging =>
      Paced backoff.base backoff.max wrapper.delay wrapper.starts ∧
        ∃ child ∈ wrapper.newest, child.started ≤ wrapper.now
  | .arming =>
      ∀ start, wrapper.now + wrapper.delay ≤ start →
        Paced backoff.base backoff.max (min (wrapper.delay * 2) backoff.max) (start :: wrapper.starts)
  | .sleeping until_ =>
      ∀ start, until_ ≤ start →
        Paced backoff.base backoff.max (min (wrapper.delay * 2) backoff.max) (start :: wrapper.starts)
  | .returned | .dropped => ∃ delay, Paced backoff.base backoff.max delay wrapper.starts

/-- The longest delay. -/
def Backoff.longest (backoff : Backoff) : ℕ := backoff.base ⊔ backoff.max

/-- **The invariant.** -/
structure Timed (backoff : Backoff) (wrapper : Wrapper) : Prop where
  capped : wrapper.delay ≤ backoff.longest
  asleep : ∀ until_, wrapper.phase = .sleeping until_ → until_ ≤ wrapper.now + backoff.longest
  draining : ∀ deadline, wrapper.phase = .draining deadline → deadline ≤ wrapper.now + shutdownDrain
  paced : PacedAt backoff wrapper wrapper.phase

theorem Drifts.starts (drifts : Drifts wrapper next) : next.starts = wrapper.starts := by
  unfold Wrapper.starts
  have related := drifts.children
  generalize wrapper.children = olds, next.children = news at related ⊢
  induction related with
  | nil => rfl
  | cons first _ ih => rw [List.map_cons, List.map_cons, ih, first.started]

theorem PacedAt.paced {phase : Phase} (paced : PacedAt backoff wrapper phase) :
    ∃ delay, Paced backoff.base backoff.max delay wrapper.starts := by
  cases phase with
  | created => exact ⟨backoff.base, by simpa [starts, show wrapper.children = [] from paced] using .none⟩
  | checking | starting => exact (paced _ le_rfl).tail
  | spawning => exact paced.2.tail
  | running | draining | finished | judging => exact ⟨_, paced.1⟩
  | arming | sleeping => exact (paced _ le_rfl).tail
  | returned | dropped => exact paced

/-- **What happens meanwhile keeps the pace.** -/
theorem Timed.drifts (timed : Timed backoff wrapper) (drifts : Drifts wrapper next) :
    Timed backoff next where
  capped := drifts.delay ▸ timed.capped
  asleep until_ asleep := (timed.asleep until_ (drifts.phase.symm.trans asleep)).trans
    (Nat.add_le_add_right drifts.clock _)
  draining deadline draining := (timed.draining deadline (drifts.phase.symm.trans draining)).trans
    (Nat.add_le_add_right drifts.clock _)
  paced := by
    have paced := timed.paced
    rw [drifts.phase]
    generalize wrapper.phase = phase at paced
    have begun : (∃ child ∈ wrapper.newest, child.started ≤ wrapper.now) →
        ∃ child ∈ next.newest, child.started ≤ next.now := by
      rintro ⟨old, old_, begun⟩
      obtain ⟨child, child_, drifted⟩ := drifts.newest_of old_
      exact ⟨child, child_, drifted.started ▸ begun.trans drifts.clock⟩
    cases phase with
    | created =>
        have related := drifts.children
        rw [show wrapper.children = [] from paced] at related
        exact List.forall₂_nil_left_iff.mp related
    | checking | starting =>
        intro start later
        rw [drifts.delay, drifts.starts]
        exact paced start (drifts.clock.trans later)
    | spawning started =>
        refine ⟨paced.1.trans drifts.clock, ?_⟩
        rw [drifts.delay, drifts.starts]
        exact paced.2
    | running | draining | finished | judging =>
        refine ⟨?_, begun paced.2⟩
        rw [drifts.delay, drifts.starts]
        exact paced.1
    | arming =>
        intro start later
        rw [drifts.delay] at later ⊢
        rw [drifts.starts]
        exact paced start ((Nat.add_le_add_right drifts.clock _).trans later)
    | sleeping until_ =>
        intro start later
        rw [drifts.delay, drifts.starts]
        exact paced start later
    | returned | dropped =>
        obtain ⟨delay, paced⟩ := paced
        exact ⟨delay, drifts.starts ▸ paced⟩

/-- Where the wrapper is over, the starts were paced before. -/
theorem Timed.over (timed : Timed backoff wrapper) {after : Wrapper} {phase : Phase}
    (capped : after.delay = wrapper.delay) (same : after.starts = wrapper.starts)
    (is : after.phase = phase) (over_ : phase = .returned ∨ phase = .dropped) :
    Timed backoff after := by
  obtain ⟨delay, paced⟩ := timed.paced.paced
  subst is
  refine ⟨capped ▸ timed.capped, ?_, ?_, ?_⟩
  · rcases over_ with over_ | over_ <;> simp [over_]
  · rcases over_ with over_ | over_ <;> simp [over_]
  · rcases over_ with over_ | over_ <;> exact over_ ▸ ⟨delay, same ▸ paced⟩

/-- Only a sleeping wrapper has a delay to wait for, and only a draining one a deadline. -/
theorem Timed.moved (_ : Timed backoff wrapper) {phase : Phase} {delay : ℕ}
    (capped : delay ≤ backoff.longest) (asleep : ∀ until_, phase ≠ .sleeping until_)
    (draining : ∀ deadline, phase ≠ .draining deadline)
    (paced : PacedAt backoff { wrapper with phase := phase, delay := delay } phase) :
    Timed backoff { wrapper with phase := phase, delay := delay } :=
  ⟨capped, fun until_ is => absurd is (asleep until_), fun deadline is => absurd is (draining deadline),
    paced⟩

theorem Wrapper.abortChild_starts (wrapper : Wrapper) :
    wrapper.abortChild.starts = wrapper.starts := by
  unfold Wrapper.starts abortChild
  cases wrapper.children <;> rfl

/-- **A step of the wrapper keeps the pace.** -/
theorem Timed.polled (timed : Timed backoff wrapper) (polled : Polled backoff wrapper next) :
    Timed backoff next := by
  have paced := timed.paced
  cases polled with
  | idle => exact timed
  | entered phase =>
      rw [phase] at paced
      refine timed.moved le_sup_left (by simp) (by simp) fun start _ => ?_
      simpa [Wrapper.starts, show wrapper.children = [] from paced] using Paced.first start
  | stopped | left | woken => exact timed.over rfl rfl rfl (.inl rfl)
  | overran => exact timed.over rfl (abortChild_starts wrapper) rfl (.inl rfl)
  | passed phase =>
      rw [phase] at paced
      exact timed.moved timed.capped (by simp) (by simp) paced
  | timed phase =>
      rw [phase] at paced
      exact timed.moved timed.capped (by simp) (by simp) ⟨le_rfl, paced _ le_rfl⟩
  | spawned phase =>
      rw [phase] at paced
      exact ⟨timed.capped, by simp, by simp, paced.2, _, rfl, paced.1⟩
  | drains phase =>
      rw [phase] at paced
      exact ⟨timed.capped, by simp, fun deadline is => (Phase.draining.inj is).ge, paced⟩
  | ended phase =>
      refine timed.moved timed.capped (by simp) (by simp) ?_
      rcases phase with phase | ⟨deadline, phase⟩ <;> exact (by rwa [phase] at paced)
  | logged phase =>
      rw [phase] at paced
      exact timed.moved timed.capped (by simp) (by simp) paced
  | @judged delay phase reset =>
      rw [phase] at paced
      obtain ⟨paced, child, newest, begun⟩ := paced
      have capped : delay ≤ backoff.longest := by
        rcases reset with rfl | ⟨rfl, -⟩
        · exact timed.capped
        · exact le_sup_left
      refine timed.moved capped (by simp) (by simp) fun start later => ?_
      obtain ⟨earlier, children⟩ := List.head?_eq_some_iff.mp newest
      have starts : wrapper.starts = child.started :: earlier.map Child.started := by
        rw [Wrapper.starts, children, List.map_cons]
      have startedOf : wrapper.startedOf = child.started := by
        simp [Wrapper.startedOf, children]
      change Paced _ _ _ (start :: wrapper.starts)
      rw [starts] at paced ⊢
      refine .next paced (reset.imp_right fun held => ⟨held.1, ?_⟩) ?_
      · have reached := held.2
        rw [startedOf] at reached
        calc child.started + backoff.max ≤ wrapper.now := by omega
          _ ≤ start := (Nat.le_add_right _ _).trans later
      · exact (Nat.add_le_add_right begun _).trans later
  | armed phase =>
      rw [phase] at paced
      exact ⟨timed.capped, fun until_ is => (Phase.sleeping.inj is).ge.trans
        (Nat.add_le_add_left timed.capped _), by simp, paced⟩
  | slept phase due =>
      rw [phase] at paced
      exact timed.moved ((min_le_right _ _).trans le_sup_right) (by simp) (by simp)
        fun start later => paced start (due.trans later)

theorem Timed.cancel (timed : Timed backoff wrapper) : Timed backoff wrapper.cancel := by
  unfold Wrapper.cancel
  split
  · exact timed.over rfl rfl rfl (.inr rfl)
  · exact timed.over rfl rfl rfl (.inr rfl)
  · exact timed.over rfl (abortChild_starts wrapper) rfl (.inr rfl)
  · exact timed.over rfl (abortChild_starts wrapper) rfl (.inr rfl)
  · exact timed

theorem timed_step (backoff : Backoff) (wrapper : Wrapper) (action : Action)
    (timed : Timed backoff wrapper) : Timed backoff (wrapper.step backoff action) := by
  cases action with
  | poll preferred => exact timed.polled (poll_polled backoff wrapper preferred)
  | cancel => exact timed.cancel
  | tick | signal | hangUp | finish =>
      exact timed.drifts (step_drifts backoff wrapper _ (by simp) (by simp))

theorem timed_run (backoff : Backoff) (actions : List Action) :
    Timed backoff ((supervise backoff).run actions) :=
  (supervise backoff).invariant ⟨le_sup_left, nofun, nofun, rfl⟩ (timed_step backoff) actions

/-- **The rate of the starts**: where the doubled base reaches the cap, so many starts in a row take at
least the cap. A loop that ended is never kept waiting for longer than the cap, or a larger base. -/
theorem starts_paced (backoff : Backoff) (actions : List Action) :
    let wrapper := (supervise backoff).run actions
    (∀ doublings, backoff.max ≤ backoff.base * 2 ^ doublings → ∀ index earlier later,
      wrapper.starts[index]? = some later → wrapper.starts[index + (doublings + 1)]? = some earlier →
        earlier + backoff.max ≤ later) ∧
      ∀ until_, wrapper.phase = .sleeping until_ → until_ ≤ wrapper.now + backoff.longest := by
  intro wrapper
  have timed : Timed backoff wrapper := timed_run backoff actions
  refine ⟨fun doublings reached index earlier later found before => ?_, timed.asleep⟩
  obtain ⟨delay, paced⟩ := timed.paced.paced
  exact paced.apart reached found before

/-- The loop fails as soon as it is started, and its wrapper sleeps for the given time. -/
def crashOnce (millis : ℕ) : List Action :=
  List.replicate 3 (Action.poll .work) ++
    Action.finish 0 .failed :: List.replicate 4 (Action.poll .work) ++
    [Action.tick (fromMillis millis), .poll .work]

/-- A loop that fails nine times. -/
def crashing : List Action :=
  .poll .work :: [200, 400, 800, 1600, 3200, 6400, 12800, 15000, 15000].flatMap crashOnce

theorem starts_paced_crashing : fromMillis 0 + fromSecs 15 ≤ fromMillis 40400 :=
  (starts_paced restartBackoff crashing).1 7 (by decide) 0 _ _ (by decide +kernel) (by decide +kernel)

/-! ### The next start -/

/-- A poll of a wrapper that does not wait. -/
def Counts (wrapper : Wrapper) (action : Action) : Prop :=
  ∃ preferred, action = .poll preferred ∧ ¬ wrapper.Waits

instance (wrapper : Wrapper) (action : Action) : Decidable (Counts wrapper action) :=
  match action with
  | .poll preferred => decidable_of_iff (¬ wrapper.Waits) ⟨fun awake => ⟨preferred, rfl, awake⟩,
      fun ⟨_, _, awake⟩ => awake⟩
  | .tick _ | .signal | .hangUp | .finish _ _ | .cancel => .isFalse (by simp [Counts])

/-- Nobody asks the wrapper to stop. -/
def Undisturbed (_ : Wrapper) (action : Action) : Prop :=
  action ≠ .signal ∧ action ≠ .hangUp ∧ action ≠ .cancel

instance (wrapper : Wrapper) (action : Action) : Decidable (Undisturbed wrapper action) :=
  inferInstanceAs (Decidable (_ ∧ _ ∧ _))

/-- The newest of so many starts has ended, and its wrapper is not over. -/
structure Ended (count : ℕ) (wrapper : Wrapper) : Prop where
  kept : Kept wrapper
  open_ : ¬ wrapper.Stopping
  live : wrapper.phase ≠ .returned ∧ wrapper.phase ≠ .dropped
  ended : ∃ outcome, wrapper.childOutcome = some outcome ∧ outcome ≠ .cancelled
  count : wrapper.children.length = count

/-- The next start runs. -/
structure Restarted (count : ℕ) (wrapper : Wrapper) : Prop where
  phase : wrapper.phase = .running
  running : wrapper.childOutcome = none
  count : wrapper.children.length = count + 1

/-- The steps that are left up to the next start. -/
def stepsToStart : Phase → ℕ
  | .spawning _ => 1
  | .starting => 2
  | .checking => 3
  | .sleeping _ => 4
  | .arming => 5
  | .judging => 6
  | .finished _ => 7
  | _ => 8

/-- **A step on the way to the next start.** -/
theorem Ended.polled {count : ℕ} (ended : Ended count wrapper) (polled : Polled backoff wrapper next) :
    wrapper.Waits ∧ next = wrapper ∨ Restarted count next ∨
      Ended count next ∧ stepsToStart next.phase < stepsToStart wrapper.phase := by
  have kept := ended.kept.polled polled
  have before := ended.kept.holds
  obtain ⟨-, open_, live, ⟨outcome, isEnded, again⟩, length⟩ := ended
  have notStopped : wrapper.stop = none := by
    by_contra stop
    exact open_ (.inl stop)
  cases polled with
  | idle waits => exact .inl ⟨waits.resolve_right (not_or.mpr live), rfl⟩
  | entered phase =>
      rw [phase] at before
      simp [Wrapper.childOutcome, show wrapper.children = [] from before] at isEnded
  | stopped phase stop => exact absurd notStopped stop
  | drains phase stopping | woken phase stopping => exact absurd stopping open_
  | overran phase running => simp [running] at isEnded
  | @left ended_ phase final =>
      rw [phase] at before
      obtain ⟨child, newest, ended', -⟩ := before
      have same : wrapper.childOutcome = some ended_ :=
        Option.bind_eq_some_iff.mpr ⟨child, newest, ended'⟩
      rcases final with stop | rfl
      · exact absurd notStopped stop
      · exact absurd (Option.some.inj (isEnded.symm.trans same)) again
  | spawned phase => exact .inr (.inl ⟨rfl, rfl, by simp [length]⟩)
  | ended phase outcome_ =>
      refine .inr (.inr ⟨⟨kept, open_, by simp, ⟨outcome, isEnded, again⟩, length⟩, ?_⟩)
      rcases phase with phase | ⟨deadline, phase⟩ <;> simp [phase, stepsToStart]
  | passed phase | timed phase | logged phase | judged phase | armed phase | slept phase =>
      refine .inr (.inr ⟨⟨kept, open_, by simp, ⟨outcome, isEnded, again⟩, length⟩, ?_⟩)
      simp [phase, stepsToStart]

/-- A task that ends or time that passes leaves the next start where it was. -/
theorem Ended.elapses {count : ℕ} (ended : Ended count wrapper) {action : Action}
    (unpolled : ∀ preferred, action ≠ .poll preferred) (undisturbed : Undisturbed wrapper action) :
    Ended count (wrapper.step backoff action) ∧
      (wrapper.step backoff action).phase = wrapper.phase := by
  have drifts := step_drifts backoff wrapper action unpolled undisturbed.2.2
  obtain ⟨kept, open_, live, ⟨outcome, isEnded, again⟩, length⟩ := ended
  refine ⟨⟨kept.drifts drifts, ?_, drifts.phase ▸ live, ⟨outcome, drifts.childOutcome isEnded, again⟩,
    drifts.children.length_eq.symm.trans length⟩, drifts.phase⟩
  cases action with
  | tick | finish => exact open_
  | signal => exact absurd rfl undisturbed.1
  | hangUp => exact absurd rfl undisturbed.2.1
  | poll preferred => exact absurd rfl (unpolled preferred)
  | cancel => exact absurd rfl undisturbed.2.2

/-- The rank of the next start: nothing is left once it is there. -/
def startRank (count : ℕ) (wrapper : Wrapper) : ℕ :=
  if wrapper.children.length = count + 1 then 0 else stepsToStart wrapper.phase

theorem Ended.startRank {count : ℕ} (ended : Ended count wrapper) :
    startRank count wrapper = stepsToStart wrapper.phase :=
  if_neg (by rw [ended.count]; omega)

theorem Restarted.startRank {count : ℕ} (restarted : Restarted count wrapper) :
    startRank count wrapper = 0 := if_pos restarted.count

theorem stepsToStart_pos (phase : Phase) : stepsToStart phase ≠ 0 := by
  cases phase <;> simp [stepsToStart]

/-- **Any step on the way to the next start.** -/
theorem Ended.step {count : ℕ} (ended : Ended count wrapper) {action : Action}
    (undisturbed : Undisturbed wrapper action) :
    (Ended count (wrapper.step backoff action) ∨ Restarted count (wrapper.step backoff action)) ∧
      Supervisor.startRank count (wrapper.step backoff action) ≤ Supervisor.startRank count wrapper ∧
      (Counts wrapper action → Supervisor.startRank count (wrapper.step backoff action) <
        Supervisor.startRank count wrapper) := by
  rw [ended.startRank]
  by_cases polls : ∃ preferred, action = .poll preferred
  · obtain ⟨preferred, rfl⟩ := polls
    rcases ended.polled (poll_polled backoff wrapper preferred) with
      ⟨waits, same⟩ | restarted | ⟨later, lower⟩
    · simp only [Wrapper.step, same, ended.startRank]
      refine ⟨.inl ended, le_rfl, ?_⟩
      rintro ⟨_, _, awake⟩
      exact absurd waits awake
    · simp only [Wrapper.step, restarted.startRank]
      exact ⟨.inr restarted, Nat.zero_le _, fun _ => Nat.pos_of_ne_zero (stepsToStart_pos _)⟩
    · simp only [Wrapper.step, later.startRank]
      exact ⟨.inl later, lower.le, fun _ => lower⟩
  · have elapses : Ended count (wrapper.step backoff action) ∧
        (wrapper.step backoff action).phase = wrapper.phase :=
      ended.elapses (fun preferred is => polls ⟨preferred, is⟩) undisturbed
    obtain ⟨later, same⟩ := elapses
    rw [later.startRank, same]
    refine ⟨.inl later, le_rfl, ?_⟩
    rintro ⟨preferred, is, _⟩
    exact absurd ⟨preferred, is⟩ polls

/-- **A loop that ended is started again.** However the newest start ended short of a cancellation, as
long as nobody asks the wrapper to stop, the next start runs after the few steps that its phase has
left. -/
theorem loop_comes_back (backoff : Backoff) (before after : List Action) (outcome : Outcome)
    (ended : ((supervise backoff).run before).childOutcome = some outcome)
    (again : outcome ≠ .cancelled)
    (open_ : ¬ ((supervise backoff).run before).Stopping)
    (live : ((supervise backoff).run before).phase ≠ .dropped)
    (undisturbed : (supervise backoff).MeetsFrom Undisturbed ((supervise backoff).run before) after)
    (polled : (supervise backoff).AtLeast Counts
      (stepsToStart ((supervise backoff).run before).phase) ((supervise backoff).run before) after) :
    ∃ first rest, after = first ++ rest ∧
      let wrapper := (supervise backoff).run (before ++ first)
      wrapper.phase = .running ∧ wrapper.childOutcome = none ∧
        wrapper.children.length = ((supervise backoff).run before).children.length + 1 := by
  have kept := kept_run backoff before
  have notReturned : ((supervise backoff).run before).phase ≠ .returned := by
    intro returned
    have holds := kept.holds
    rw [returned] at holds
    rcases holds.1 with stopping | cancelled
    · exact open_ stopping
    · exact again (Option.some.inj (ended.symm.trans cancelled))
  set count := ((supervise backoff).run before).children.length
  have start : Ended count ((supervise backoff).run before) :=
    ⟨kept, open_, ⟨notReturned, live⟩, ⟨outcome, ended, again⟩, rfl⟩
  have step : ∀ (wrapper : Wrapper) (action : Action), Undisturbed wrapper action →
      (Ended count wrapper ∨ Restarted count wrapper) → startRank count wrapper ≠ 0 →
      Ended count wrapper := fun wrapper action _ either begun =>
    either.resolve_right fun restarted => begun restarted.startRank
  obtain ⟨first, rest, split, gone, either⟩ := Machine.rank_gone
    (fun wrapper => Ended count wrapper ∨ Restarted count wrapper) (startRank count)
    (fun wrapper action calm either begun => ((step wrapper action calm either begun).step calm).1)
    (fun wrapper action calm either begun => ((step wrapper action calm either begun).step calm).2.1)
    (fun wrapper action calm either begun => ((step wrapper action calm either begun).step calm).2.2)
    after _ undisturbed (.inl start) (start.startRank ▸ polled)
  refine ⟨first, rest, split, ?_⟩
  have restarted := either.resolve_left fun waiting =>
    stepsToStart_pos _ (waiting.startRank.symm.trans gone)
  rw [Machine.run, Machine.runFrom_append]
  exact ⟨restarted.phase, restarted.running, restarted.count⟩

/-- A loop that panics. -/
def panicking : List Action := List.replicate 5 (.poll .work) ++ [.finish 0 .panicked]

/-- The wrapper sleeps the base delay, and is polled. -/
def restarting : List Action :=
  List.replicate 4 (.poll .work) ++ .tick (fromMillis 200) :: List.replicate 4 (.poll .work)

theorem loop_comes_back_panicking : ∃ first rest, restarting = first ++ rest ∧
    let wrapper := (supervise restartBackoff).run (panicking ++ first)
    wrapper.phase = .running ∧ wrapper.childOutcome = none ∧
      wrapper.children.length = ((supervise restartBackoff).run panicking).children.length + 1 :=
  loop_comes_back restartBackoff panicking restarting .panicked (by decide +kernel) (by decide)
    (by decide +kernel) (by decide +kernel) (by decide +kernel) (by decide +kernel)

/-! ### The wind-down -/

/-- The steps that are left after the shutdown signal. -/
def stepsToEnd : Phase → ℕ
  | .starting => 5
  | .spawning _ | .judging => 4
  | .running | .arming => 3
  | .created | .draining _ | .sleeping _ => 2
  | .checking | .finished _ => 1
  | .returned | .dropped => 0

theorem over_of_stepsToEnd (phase : Phase) (gone : stepsToEnd phase = 0) :
    phase = .returned ∨ phase = .dropped := by
  cases phase <;> simp [stepsToEnd] at gone ⊢

/-- **A step after the signal.** -/
theorem Polled.stopped_step (polled : Polled backoff wrapper next) (stop : wrapper.stop ≠ none) :
    next.stop ≠ none ∧ (next = wrapper ∧ (wrapper.Waits ∨ stepsToEnd wrapper.phase = 0) ∨
      stepsToEnd next.phase < stepsToEnd wrapper.phase) := by
  cases polled with
  | idle waits =>
      refine ⟨stop, .inl ⟨rfl, waits.imp_right ?_⟩⟩
      rintro (phase | phase) <;> simp [phase, stepsToEnd]
  | passed phase open_ => exact absurd open_ stop
  | logged phase open_ => exact absurd open_ stop
  | ended phase outcome =>
      refine ⟨stop, .inr ?_⟩
      rcases phase with phase | ⟨deadline, phase⟩ <;> simp [phase, stepsToEnd]
  | entered phase | stopped phase | timed phase | spawned phase | drains phase | overran phase
  | left phase | judged phase | armed phase | woken phase | slept phase =>
      exact ⟨stop, .inr (by simp [phase, stepsToEnd])⟩

/-- **Any step after the signal.** -/
theorem Wrapper.step_stopped (backoff : Backoff) (wrapper : Wrapper) (action : Action)
    (stop : wrapper.stop ≠ none) :
    (wrapper.step backoff action).stop ≠ none ∧
      stepsToEnd (wrapper.step backoff action).phase ≤ stepsToEnd wrapper.phase ∧
      (stepsToEnd wrapper.phase ≠ 0 → Counts wrapper action →
        stepsToEnd (wrapper.step backoff action).phase < stepsToEnd wrapper.phase) := by
  by_cases polls : ∃ preferred, action = .poll preferred
  · obtain ⟨preferred, rfl⟩ := polls
    obtain ⟨stop', later⟩ := (poll_polled backoff wrapper preferred).stopped_step stop
    refine ⟨stop', ?_⟩
    rcases later with ⟨same, waits⟩ | lower
    · simp only [Wrapper.step, same]
      refine ⟨le_rfl, ?_⟩
      rintro more ⟨_, _, awake⟩
      exact absurd (waits.resolve_right more) awake
    · exact ⟨lower.le, fun _ _ => lower⟩
  · have uncounted : ¬ Counts wrapper action := by
      rintro ⟨preferred, is, _⟩
      exact polls ⟨preferred, is⟩
    by_cases cancels : action = .cancel
    · subst cancels
      refine ⟨?_, ?_, fun _ counts => absurd counts uncounted⟩
      · simp only [Wrapper.step, Wrapper.cancel]
        split <;> exact stop
      · simp only [Wrapper.step, Wrapper.cancel]
        split <;> first | exact Nat.zero_le _ | exact le_rfl
    · have drifts := step_drifts backoff wrapper action (fun preferred is => polls ⟨preferred, is⟩)
        cancels
      obtain ⟨since, given⟩ := Option.ne_none_iff_exists'.mp stop
      exact ⟨by simp [drifts.stop since given], drifts.phase ▸ le_rfl, fun _ counts =>
        absurd counts uncounted⟩

/-- **The wrapper winds down.** After the shutdown signal it is over within the few steps that its phase
has left, whatever else happens, and none of its starts is left behind; the one step that waits for a
loop waits no longer than the rest of one drain window. -/
theorem wrapper_winds_down (backoff : Backoff) (before after : List Action)
    (stop : ((supervise backoff).run before).stop ≠ none)
    (polled : (supervise backoff).AtLeast Counts
      (stepsToEnd ((supervise backoff).run before).phase) ((supervise backoff).run before) after) :
    (∀ deadline, ((supervise backoff).run before).phase = .draining deadline →
        deadline ≤ ((supervise backoff).run before).now + shutdownDrain) ∧
      ∃ first rest, after = first ++ rest ∧
        let wrapper := (supervise backoff).run (before ++ first)
        (wrapper.phase = .returned ∨ wrapper.phase = .dropped) ∧
          ∀ child ∈ wrapper.children, child.ended ≠ none ∨ child.aborted ≠ none := by
  refine ⟨(timed_run backoff before).draining, ?_⟩
  obtain ⟨first, rest, split, gone, -⟩ := Machine.rank_gone (fun wrapper => wrapper.stop ≠ none)
    (fun wrapper => stepsToEnd wrapper.phase)
    (fun wrapper action _ stop _ => (step_stopped backoff wrapper action stop).1)
    (fun wrapper action _ stop _ => (step_stopped backoff wrapper action stop).2.1)
    (fun wrapper action _ stop more => (step_stopped backoff wrapper action stop).2.2 more)
    after _ ((supervise backoff).meetsFrom_true after _) stop polled
  refine ⟨first, rest, split, ?_⟩
  have over_ := over_of_stepsToEnd ((supervise backoff).run (before ++ first)).phase (by
    rw [Machine.run, Machine.runFrom_append]
    exact gone)
  refine ⟨over_, fun child found => ?_⟩
  obtain ⟨-, -, returned, dropped, -⟩ := no_loop_outlives backoff (before ++ first)
  rcases over_ with isReturned | isDropped
  · rcases (returned isReturned).2 child found with done | ⟨at_, _, aborted, -⟩
    · exact .inl done.ended
    · exact .inr (by simp [aborted])
  · exact dropped isDropped child found

/-- The signal reaches a loop that runs. -/
def signalled : List Action := List.replicate 4 (.poll .work) ++ [.tick (fromSecs 60), .signal]

/-- The loop ignores the signal. -/
def overrunning : List Action :=
  [.poll .shutdown, .tick (fromSecs 3), .poll .shutdown, .poll .shutdown]

theorem wrapper_winds_down_overrunning : ∃ first rest, overrunning = first ++ rest ∧
    let wrapper := (supervise restartBackoff).run (signalled ++ first)
    (wrapper.phase = .returned ∨ wrapper.phase = .dropped) ∧
      ∀ child ∈ wrapper.children, child.ended ≠ none ∨ child.aborted ≠ none :=
  (wrapper_winds_down restartBackoff signalled overrunning (by decide +kernel) (by decide +kernel)).2

end Lnrent.Supervisor
