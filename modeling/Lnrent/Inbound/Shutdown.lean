/-
**What the result of a drain promises.** Whatever the receive loop, its auxiliary tasks, the tasks of
the accepted events, the clock and the shutdown signal do meanwhile:

* `Runs`, `Still`, `Unhurt`, `Done`, `Told` — facts that no step of a task ends;
* `Tracked` — the handle of every task that runs is tracked, or its spawner is about to track it;
* `Stands` — the facts that each phase of the wrapper stands for;
* `bounded_fan_out` — **so many tasks run at a time**;
* `drained_completely` — **an engine that reports itself as drained lost nothing**;
* `timed_out_cleanly` — **one that timed out has told every straggler to abort**.
-/

import Lnrent.Inbound.Drain

namespace Lnrent.InboundDrain

open Transition Supervisor

variable {engine next : Engine} {system : System} {backoff : Backoff} {child : ℕ}
  {joins straggled : Bool}

/-! ### Facts that last -/

/-- No receive loop runs, but the given one where the drain joins it. -/
def Engine.Runs (engine : Engine) (joins : Bool) (child : ℕ) : Prop :=
  ∀ (id : ℕ) (feeder : Feeder), engine.feeders[id]? = some feeder → feeder.loop = true →
    feeder.Ended ∨ joins = true ∧ id = child

/-- The engine was stopped. Unless auxiliary tasks straggled, each of them waits or has ended. -/
structure Engine.Still (engine : Engine) (straggled : Bool) : Prop where
  stop : engine.stop = true
  calm : straggled = false → ∀ (id : ℕ) (feeder : Feeder), engine.feeders[id]? = some feeder →
    feeder.loop = false → feeder.stage = .awaiting ∨ feeder.Ended

/-- No receive loop was aborted, and no task of an event. -/
structure Engine.Unhurt (engine : Engine) : Prop where
  spared : ∀ id ∈ engine.abortedFeeders, ∃ feeder : Feeder,
    engine.feeders[id]? = some feeder ∧ feeder.loop = false
  kept : engine.lost = 0
  untold : engine.abortedWraps = []

/-- The tasks that a drain answers for: those of the receive loop, and all of them unless auxiliary
tasks straggled. -/
def Wrap.Owed (wrap : Wrap) (straggled : Bool) : Prop := wrap.loop = true ∨ straggled = false

def Engine.Done (engine : Engine) (straggled : Bool) : Prop :=
  ∀ (id : ℕ) (wrap : Wrap), engine.wraps[id]? = some wrap → wrap.Owed straggled → wrap.ended ≠ none

def Engine.Told (engine : Engine) (straggled : Bool) : Prop :=
  ∀ (id : ℕ) (wrap : Wrap), engine.wraps[id]? = some wrap → wrap.Owed straggled →
    wrap.ended = none → id ∈ engine.abortedWraps

theorem Engine.Runs.fed (runs : engine.Runs joins child) (fed : Fed engine next) :
    next.Runs joins child := by
  intro id feeder at_ loop
  rcases fed.feeder at_ with ⟨before, there, rfl | moved⟩ | ⟨-, rfl⟩
  · exact runs id feeder there loop
  · have only := (runs id before there (moved.loop.symm.trans loop)).resolve_left moved.live
    exact .inr only
  · cases loop

theorem Engine.Still.fed (still : engine.Still straggled) (fed : Fed engine next) :
    next.Still straggled where
  stop := fed.frame.1.trans still.stop
  calm calm id feeder at_ aux := by
    rcases fed.feeder at_ with ⟨before, there, rfl | moved⟩ | ⟨-, rfl⟩
    · exact still.calm calm id feeder there aux
    · have waits := (still.calm calm id before there (moved.loop.symm.trans aux)).resolve_right
        moved.live
      exact .inr (moved.stopped still.stop waits)
    · exact .inl rfl

theorem Engine.Unhurt.fed (unhurt : engine.Unhurt) (fed : Fed engine next) : next.Unhurt where
  spared id told := by
    rw [fed.frame.2.1] at told
    obtain ⟨before, there, aux⟩ := unhurt.spared id told
    obtain ⟨after, at_, same⟩ := fed.keeps there
    exact ⟨after, at_, same.trans aux⟩
  kept := by
    cases fed with
    | @cancels id feeder found told rests =>
        obtain ⟨before, there, aux⟩ := unhurt.spared id told
        obtain rfl := Option.some.inj (found.symm.trans there)
        show engine.lost + (if feeder.loop = true ∧ feeder.Holds then 1 else 0) = 0
        rw [if_neg fun is => Bool.false_ne_true (aux.symm.trans is.1), unhurt.kept]
    | idle | over_ | proceeds | takes | acquires | spawnsWrap | tracksWrap | spawnsAux | tracksAux
    | finishes => exact unhurt.kept
  untold := fed.frame.2.2.1.trans unhurt.untold

/-- A feeder of a stopped engine that still spawns a task is an auxiliary straggler. -/
theorem Engine.Still.spawner (still : engine.Still straggled) (runs : engine.Runs false child)
    {id : ℕ} {feeder : Feeder} (found : engine.feeders[id]? = some feeder)
    (spawns : feeder.stage = .spawningWrap) : feeder.loop = false ∧ straggled = true := by
  have live : ¬ feeder.Ended := by simp [Feeder.Ended, spawns]
  have aux : feeder.loop = false := by
    rw [Bool.eq_false_iff]
    intro loop
    rcases runs id feeder found loop with over_ | ⟨joined, -⟩
    · exact live over_
    · cases joined
  refine ⟨aux, Bool.eq_true_of_not_eq_false fun calm => ?_⟩
  rcases still.calm calm id feeder found aux with waits | over_
  · cases spawns.symm.trans waits
  · exact live over_

/-- So the tasks that a drain answers for are all there. -/
theorem Engine.Still.owed (still : engine.Still straggled) (runs : engine.Runs false child)
    (fed : Fed engine next) {id : ℕ} {after : Wrap} (at_ : next.wraps[id]? = some after)
    (owed : after.Owed straggled) :
    ∃ before, engine.wraps[id]? = some before ∧ before.Owed straggled ∧
      (after = before ∨ before.ended = none ∧ after.ended ≠ none) := by
  rcases fed.wrap at_ with ⟨before, there, kind, changed⟩ | ⟨-, -, id', feeder, found, spawns, kind⟩
  · refine ⟨before, there, ?_, changed.imp_right fun ended => ⟨ended.1, ended.2.1⟩⟩
    unfold Wrap.Owed at owed ⊢
    rwa [← kind]
  · obtain ⟨aux, late⟩ := still.spawner runs found spawns
    rcases owed with loop | calm
    · cases (kind.trans aux).symm.trans loop
    · cases late.symm.trans calm

theorem Engine.Done.fed (done : engine.Done straggled) (still : engine.Still straggled)
    (runs : engine.Runs false child) (fed : Fed engine next) : next.Done straggled := by
  intro id after at_ owed
  obtain ⟨before, there, owes, rfl | ended⟩ := still.owed runs fed at_ owed
  · exact done id after there owes
  · exact ended.2

theorem Engine.Told.fed (told : engine.Told straggled) (still : engine.Still straggled)
    (runs : engine.Runs false child) (fed : Fed engine next) : next.Told straggled := by
  intro id after at_ owed live
  rw [fed.frame.2.2.1]
  obtain ⟨before, there, owes, rfl | ended⟩ := still.owed runs fed at_ owed
  · exact told id after there owes live
  · exact absurd live ended.2

/-- A stopped engine takes no more events. -/
theorem Fed.taken (fed : Fed engine next) (stop : engine.stop = true) :
    next.taken = engine.taken := by
  cases fed with
  | takes found awaits open_ => cases open_.symm.trans stop
  | idle | over_ | proceeds | acquires | spawnsWrap | tracksWrap | spawnsAux | tracksAux | cancels
  | finishes => rfl

/-! ### Tracked handles -/

def Engine.IsAux (engine : Engine) (id : ℕ) : Prop :=
  ∃ feeder, engine.feeders[id]? = some feeder ∧ feeder.loop = false

/-- The task can be told to abort: its handle is tracked or was told, or its spawner tracks it next. -/
def Engine.Reaches (engine : Engine) (id : ℕ) (wrap : Wrap) : Prop :=
  id ∈ engine.perWrapAborts ∨ id ∈ engine.abortedWraps ∨ ∃ (tracker : ℕ) (feeder : Feeder),
    engine.feeders[tracker]? = some feeder ∧ feeder.stage = .trackingWrap id ∧
      feeder.loop = wrap.loop

/-- **Every running task is within reach**, and only tasks that were told are cancelled. -/
structure Tracked (engine : Engine) : Prop where
  reached : ∀ (id : ℕ) (wrap : Wrap), engine.wraps[id]? = some wrap → wrap.ended = none →
    engine.Reaches id wrap
  cancelled : ∀ (id : ℕ) (wrap : Wrap), engine.wraps[id]? = some wrap →
    wrap.ended = some .cancelled → id ∈ engine.abortedWraps
  aux : ∀ id ∈ engine.auxAborts, engine.IsAux id
  tracking : ∀ (tracker : ℕ) (feeder : Feeder) (id : ℕ), engine.feeders[tracker]? = some feeder →
    feeder.stage = .trackingAux id → engine.IsAux id

theorem Engine.IsAux.fed {id : ℕ} (aux : engine.IsAux id) (fed : Fed engine next) :
    next.IsAux id := by
  obtain ⟨feeder, there, kind⟩ := aux
  obtain ⟨after, at_, same⟩ := fed.keeps there
  exact ⟨after, at_, same.trans kind⟩

/-- A feeder that is not the one that moves. -/
theorem Engine.move_other {id tracker : ℕ} {feeder other : Feeder} (stage : Stage)
    (found : engine.feeders[id]? = some feeder) (there : engine.feeders[tracker]? = some other)
    (apart : feeder.stage ≠ other.stage) :
    (engine.move id feeder stage).feeders[tracker]? = some other := by
  refine (roster_set_other ?_).trans there
  rintro rfl
  exact apart (congrArg Feeder.stage (Option.some.inj (found.symm.trans there)))

theorem Engine.Reaches.move {id moved : ℕ} {wrap : Wrap} {feeder : Feeder}
    (reaches : engine.Reaches id wrap) (found : engine.feeders[moved]? = some feeder)
    (stage : Stage) (apart : feeder.stage ≠ .trackingWrap id) :
    (engine.move moved feeder stage).Reaches id wrap := by
  refine reaches.imp_right (Or.imp_right ?_)
  rintro ⟨tracker, other, there, tracks, kind⟩
  exact ⟨tracker, other, engine.move_other stage found there (tracks ▸ apart), tracks, kind⟩

theorem Tracked.fed (tracked : Tracked engine) (fed : Fed engine next) : Tracked next where
  reached id wrap at_ live := by
    have before : ∀ {stage : Stage} {moved : ℕ} {feeder : Feeder},
        engine.feeders[moved]? = some feeder → (∀ wrap, feeder.stage ≠ .trackingWrap wrap) →
        engine.wraps[id]? = some wrap → (engine.move moved feeder stage).Reaches id wrap :=
      fun found apart there => (tracked.reached id wrap there live).move found _ (apart id)
    cases fed with
    | idle => exact tracked.reached id wrap at_ live
    | over_ found rests | proceeds found rests | cancels found told rests =>
        refine before found (fun tracked is => ?_) at_
        simp [Feeder.Rests, is] at rests
    | takes found stage | acquires found stage | tracksAux found stage =>
        exact before found (by simp [stage]) at_
    | @spawnsWrap spawner feeder found holds =>
        rcases roster_append at_ with old | ⟨rfl, rfl⟩
        · exact before found (by simp [holds]) old
        · exact .inr (.inr ⟨spawner, _, roster_set_self found, rfl, rfl⟩)
    | @tracksWrap tracker listed feeder found tracks =>
        rcases tracked.reached id wrap at_ live with
          member | member | ⟨tracker', other, there, tracks', kind⟩
        · refine .inl (List.mem_append_left _ (List.mem_filter.mpr ⟨member, ?_⟩))
          simpa using ⟨wrap, at_, live⟩
        · exact .inr (.inl member)
        · by_cases same : listed = id
          · exact .inl (List.mem_append_right _ (List.mem_singleton.mpr same.symm))
          · refine .inr (.inr ⟨tracker', other, engine.move_other _ found there ?_, tracks', kind⟩)
            rw [tracks, tracks']
            exact fun is => same (Stage.trackingWrap.inj is)
    | @spawnsAux spawner feeder found asks =>
        have held : (engine.move spawner feeder (.trackingAux engine.feeders.length)).Reaches id wrap :=
          before found (by simp [asks]) at_
        refine held.imp_right (Or.imp_right ?_)
        rintro ⟨tracker, other, there, tracks, kind⟩
        exact ⟨tracker, other, roster_append_old there, tracks, kind⟩
    | @finishes finished ended outcome found =>
        rcases roster_set at_ with ⟨rfl, rfl⟩ | ⟨-, same⟩
        · cases live
        · exact tracked.reached id wrap same live
  cancelled id wrap at_ is := by
    rw [fed.frame.2.2.1]
    rcases fed.wrap at_ with ⟨before, there, -, rfl | ⟨-, -, told⟩⟩ | ⟨-, live, -⟩
    · exact tracked.cancelled id wrap there is
    · exact told is
    · cases live.symm.trans is
  aux id member := by
    refine Engine.IsAux.fed ?_ fed
    cases fed with
    | tracksAux found tracks =>
        rcases List.mem_append.mp member with old | new
        · exact tracked.aux id (List.mem_filter.mp old).1
        · rw [List.mem_singleton] at new
          exact tracked.tracking _ _ id found (new ▸ tracks)
    | idle | over_ | proceeds | takes | acquires | spawnsWrap | tracksWrap | spawnsAux | cancels
    | finishes => exact tracked.aux id member
  tracking tracker after id at_ is := by
    have stays : engine.IsAux id → next.IsAux id := fun aux => aux.fed fed
    have before : ∀ {stage : Stage} {moved : ℕ} {feeder : Feeder},
        (engine.move moved feeder stage).feeders[tracker]? = some after →
        stage ≠ .trackingAux id → engine.IsAux id := by
      intro stage moved feeder at_ apart
      rcases roster_set at_ with ⟨-, rfl⟩ | ⟨-, same⟩
      · exact absurd is apart
      · exact tracked.tracking tracker after id same is
    cases fed with
    | idle => exact tracked.tracking tracker after id at_ is
    | finishes => exact tracked.tracking tracker after id at_ is
    | over_ | takes | acquires | spawnsWrap | tracksWrap | tracksAux | cancels =>
        exact stays (before at_ (by simp))
    | proceeds found rests free on =>
        refine stays (before at_ ?_)
        rcases on with ⟨rfl, -⟩ | rfl <;> simp
    | spawnsAux found asks =>
        rcases roster_append at_ with old | ⟨-, rfl⟩
        · rcases roster_set old with ⟨-, rfl⟩ | ⟨-, same⟩
          · obtain rfl := Stage.trackingAux.inj is
            refine ⟨⟨false, .awaiting⟩, ?_, rfl⟩
            simp
          · exact stays (tracked.tracking tracker after id same is)
        · cases is

/-! ### Phases -/

/-- **What each phase of the wrapper stands for.** -/
def Stands (engine : Engine) (child : ℕ) : Phase → Prop
  | .created | .checking | .starting | .spawning _ | .finished _ _ | .judging _ | .arming
  | .sleeping _ => engine.Runs false child ∧ engine.Unhurt
  | .running _ => engine.Runs true child ∧ engine.Unhurt
  | .stopping joins => engine.Runs joins child ∧ engine.Unhurt
  | .abortingAux joins _ | .closingAux joins _ =>
      engine.Runs joins child ∧ engine.Unhurt ∧ engine.Still true
  | .waitingAux joins _ woken =>
      engine.Runs joins child ∧ engine.Unhurt ∧ engine.Still (!woken)
  | .joining _ straggled => engine.Runs true child ∧ engine.Unhurt ∧ engine.Still straggled
  | .joiningAborted straggled => engine.Runs true child ∧ engine.Still straggled
  | .abortingWraps straggled => engine.Runs false child ∧ engine.Still straggled
  | .closingWraps _ straggled => engine.Runs false child ∧ engine.Unhurt ∧ engine.Still straggled
  | .waitingWraps _ straggled woken =>
      engine.Runs false child ∧ engine.Unhurt ∧ engine.Still straggled ∧
        (woken = true → engine.Done straggled)
  | .returned (some (.drained, straggled)) =>
      engine.Runs false child ∧ engine.Unhurt ∧ engine.Still straggled ∧ engine.Done straggled
  | .returned (some (.timedOut, straggled)) =>
      engine.Runs false child ∧ engine.Still straggled ∧ engine.Told straggled
  | .returned none | .dropped => True

/-- **The steps of the tasks change nothing of it.** -/
theorem Stands.fed {phase : Phase} (stands : Stands engine child phase) (fed : Fed engine next) :
    Stands next child phase := by
  cases phase with
  | created | checking | starting | spawning | finished | judging | arming | sleeping | running
  | stopping => exact ⟨stands.1.fed fed, stands.2.fed fed⟩
  | abortingAux | closingAux | waitingAux | joining | closingWraps =>
      exact ⟨stands.1.fed fed, stands.2.1.fed fed, stands.2.2.fed fed⟩
  | joiningAborted | abortingWraps => exact ⟨stands.1.fed fed, stands.2.fed fed⟩
  | waitingWraps deadline straggled woken =>
      obtain ⟨runs, unhurt, still, done⟩ := stands
      exact ⟨runs.fed fed, unhurt.fed fed, still.fed fed, fun is => (done is).fed still runs fed⟩
  | returned result =>
      rcases result with - | ⟨result, straggled⟩
      · trivial
      · cases result with
        | drained =>
            obtain ⟨runs, unhurt, still, done⟩ := stands
            exact ⟨runs.fed fed, unhurt.fed fed, still.fed fed, done.fed still runs fed⟩
        | timedOut =>
            obtain ⟨runs, still, told⟩ := stands
            exact ⟨runs.fed fed, still.fed fed, told.fed still runs fed⟩
  | dropped => trivial

/-- **What holds of the wrapper and its engine throughout.** -/
structure Sound (system : System) : Prop where
  balanced : Balanced system.engine
  tracked : Tracked system.engine
  stands : Stands system.engine system.child system.phase

theorem Engine.Still.late (stop : engine.stop = true) : engine.Still true :=
  ⟨stop, fun calm => by cases calm⟩

/-- Once all auxiliary tasks have ended, none straggles. -/
theorem Engine.Still.quiet (still : engine.Still true) (quiet : engine.AuxDone) :
    engine.Still false where
  stop := still.stop
  calm _ _ feeder at_ aux := .inr (quiet.2 feeder (List.mem_of_getElem? at_) aux)

theorem Sound.noted (sound : Sound system) : Sound system.noted := by
  obtain ⟨balanced, tracked, stands⟩ := sound
  unfold System.noted
  split
  · rename_i joins deadline woken phase
    refine ⟨balanced, tracked, ?_⟩
    rw [phase] at stands
    obtain ⟨runs, unhurt, still⟩ := stands
    refine ⟨runs, unhurt, ?_⟩
    cases woken with
    | true => exact still
    | false =>
        by_cases quiet : system.engine.AuxDone
        · simpa [quiet] using still.quiet quiet
        · simpa [quiet] using still
  · rename_i deadline straggled woken phase
    refine ⟨balanced, tracked, ?_⟩
    rw [phase] at stands
    obtain ⟨runs, unhurt, still, done⟩ := stands
    refine ⟨runs, unhurt, still, fun is => ?_⟩
    rcases Bool.or_eq_true_iff.mp is with woken | quiet
    · exact done woken
    · exact fun _ wrap at_ _ => (of_decide_eq_true quiet).2 wrap (List.mem_of_getElem? at_)
  · exact ⟨balanced, tracked, stands⟩

/-- **A step of a task keeps it.** -/
theorem Sound.feed (sound : Sound system) (fed : Fed system.engine next) :
    Sound (system.feed next) :=
  Sound.noted ⟨sound.balanced.fed fed, sound.tracked.fed fed, sound.stands.fed fed⟩

/-! ### Steps of the wrapper -/

theorem Engine.ended_of_outcome {id : ℕ} {feeder : Feeder} (outcome : engine.outcomeOf id ≠ none)
    (found : engine.feeders[id]? = some feeder) : feeder.Ended := by
  unfold outcomeOf at outcome
  rw [found, Option.bind_some] at outcome
  cases stage : feeder.stage with
  | ended result => exact ⟨result, stage⟩
  | entering | subscribing | awaiting | acquiring | spawningWrap | trackingWrap | spawningAux
  | trackingAux => exact absurd (by rw [stage]) outcome

/-- The receive loop that the wrapper waited for has ended. -/
theorem Engine.Runs.joined (runs : engine.Runs true child) (outcome : engine.outcomeOf child ≠ none) :
    engine.Runs false child := by
  intro id feeder found loop
  rcases runs id feeder found loop with over_ | ⟨-, rfl⟩
  · exact .inl over_
  · exact .inl (engine.ended_of_outcome outcome found)

/-- The engine after a new receive loop was spawned. -/
theorem Sound.spawn (balanced : Balanced engine) (tracked : Tracked engine)
    (runs : engine.Runs false child) (unhurt : engine.Unhurt) :
    let spawned := { engine with feeders := engine.feeders ++ [⟨true, .entering⟩] }
    Balanced spawned ∧ Tracked spawned ∧ spawned.Runs true engine.feeders.length ∧ spawned.Unhurt := by
  intro spawned
  have aux : ∀ id, engine.IsAux id → spawned.IsAux id :=
    fun _ ⟨feeder, there, kind⟩ => ⟨feeder, roster_append_old there, kind⟩
  refine ⟨⟨?_, ?_⟩, ⟨fun id wrap at_ live => ?_, tracked.cancelled, fun id member => ?_, ?_⟩, ?_,
    fun id told => aux id (unhurt.spared id told), unhurt.kept, unhurt.untold⟩
  · simpa [spawned, Engine.granted, Engine.running] using balanced.permits
  · simpa [spawned, Engine.inHand, Engine.accepted, Feeder.Holds] using balanced.events
  · refine (tracked.reached id wrap at_ live).imp_right (Or.imp_right ?_)
    rintro ⟨tracker, feeder, there, tracks⟩
    exact ⟨tracker, feeder, roster_append_old there, tracks⟩
  · exact aux id (tracked.aux id member)
  · intro tracker feeder id at_ is
    rcases roster_append at_ with old | ⟨-, rfl⟩
    · exact aux id (tracked.tracking tracker feeder id old is)
    · cases is
  · intro id feeder at_ loop
    rcases roster_append at_ with old | ⟨last, -⟩
    · exact .inl ((runs id feeder old loop).resolve_right fun joined => by cases joined.1)
    · exact .inr ⟨rfl, last⟩

/-- The auxiliary tasks are told to abort: none of them is a receive loop. -/
theorem Engine.Unhurt.abortAux (unhurt : engine.Unhurt) (tracked : Tracked engine) :
    engine.abortAux.Unhurt where
  spared id told := (List.mem_append.mp told).elim (tracked.aux id) (unhurt.spared id)
  kept := unhurt.kept
  untold := unhurt.untold

theorem Tracked.abortAux (tracked : Tracked engine) : Tracked engine.abortAux :=
  ⟨tracked.reached, tracked.cancelled, fun _ member => (List.not_mem_nil member).elim,
    tracked.tracking⟩

/-- **Whoever runs is told to abort**, but for the tasks of stragglers. -/
theorem Engine.Still.told (still : engine.Still straggled) (runs : engine.Runs false child)
    (tracked : Tracked engine) : engine.abortPerWrap.Told straggled := by
  intro id wrap at_ owed live
  rcases tracked.reached id wrap at_ live with
    member | member | ⟨tracker, feeder, there, tracks, kind⟩
  · exact List.mem_append_left _ member
  · exact List.mem_append_right _ member
  · have busy : ¬ feeder.Ended := by simp [Feeder.Ended, tracks]
    rcases owed with loop | calm
    · rcases runs tracker feeder there (kind.trans loop) with over_ | ⟨joined, -⟩
      · exact absurd over_ busy
      · cases joined
    · cases loop : feeder.loop with
      | true =>
          rcases runs tracker feeder there loop with over_ | ⟨joined, -⟩
          · exact absurd over_ busy
          · cases joined
      | false =>
          rcases still.calm calm tracker feeder there loop with waits | over_
          · cases tracks.symm.trans waits
          · exact absurd over_ busy

theorem Tracked.abortPerWrap (tracked : Tracked engine) : Tracked engine.abortPerWrap where
  reached id wrap at_ live := by
    rcases tracked.reached id wrap at_ live with member | member | held
    · exact .inr (.inl (List.mem_append_left _ member))
    · exact .inr (.inl (List.mem_append_right _ member))
    · exact .inr (.inr held)
  cancelled id wrap at_ is := List.mem_append_right _ (tracked.cancelled id wrap at_ is)
  aux := tracked.aux
  tracking := tracked.tracking

theorem Tracked.abortChild (tracked : Tracked system.engine) : Tracked system.abortChild :=
  ⟨tracked.reached, tracked.cancelled, tracked.aux, tracked.tracking⟩

theorem Sound.afterAux {deadline : ℕ} (balanced : Balanced system.engine)
    (tracked : Tracked system.engine) (stands : system.engine.Runs joins system.child ∧
      system.engine.Unhurt ∧ system.engine.Still straggled) :
    Sound (system.afterAux joins deadline straggled) := by
  refine ⟨balanced, tracked, ?_⟩
  cases joins with
  | true => exact stands
  | false => exact stands

/-- **A step of the wrapper keeps it.** -/
theorem Sound.poll (sound : Sound system) (backoff : Backoff) (preferred : Branch) :
    Sound (system.poll backoff preferred) := by
  obtain ⟨balanced, tracked, stands⟩ := sound
  have idle : Sound system := ⟨balanced, tracked, stands⟩
  cases phase : system.phase with
  | created | starting | judging | arming =>
      rw [phase] at stands
      simp only [System.poll, phase]
      exact ⟨balanced, tracked, stands⟩
  | checking =>
      rw [phase] at stands
      simp only [System.poll, phase]
      refine ⟨balanced, tracked, ?_⟩
      dsimp only
      split_ifs
      · exact stands
      · exact stands
  | spawning started =>
      rw [phase] at stands
      simp only [System.poll, phase]
      obtain ⟨balanced, tracked, stands⟩ := Sound.spawn balanced tracked stands.1 stands.2
      exact ⟨balanced, tracked, stands⟩
  | running started =>
      rw [phase] at stands
      simp only [System.poll, phase]
      by_cases stopping : system.Stopping
      · rw [if_pos stopping]
        exact ⟨balanced, tracked, stands⟩
      · rw [if_neg stopping]
        cases ended : system.engine.outcomeOf system.child with
        | none => exact idle
        | some outcome => exact ⟨balanced, tracked, stands.1.joined (by simp [ended]), stands.2⟩
  | finished started outcome =>
      rw [phase] at stands
      simp only [System.poll, phase]
      split_ifs
      · exact ⟨balanced, tracked, stands⟩
      · exact ⟨balanced, tracked, trivial⟩
      · exact ⟨balanced, tracked, stands⟩
  | sleeping until_ =>
      rw [phase] at stands
      simp only [System.poll, phase]
      split_ifs
      · exact ⟨balanced, tracked, stands⟩
      · exact ⟨balanced, tracked, stands⟩
      · exact idle
  | stopping joins =>
      rw [phase] at stands
      simp only [System.poll, phase]
      obtain ⟨runs, unhurt⟩ := stands
      exact ⟨⟨balanced.permits, balanced.events⟩, ⟨tracked.reached, tracked.cancelled, tracked.aux,
        tracked.tracking⟩, runs, ⟨unhurt.spared, unhurt.kept, unhurt.untold⟩, .late rfl⟩
  | abortingAux joins deadline =>
      rw [phase] at stands
      simp only [System.poll, phase]
      obtain ⟨runs, unhurt, still⟩ := stands
      exact ⟨⟨balanced.permits, balanced.events⟩, tracked.abortAux, runs, unhurt.abortAux tracked,
        still.stop, still.calm⟩
  | closingAux joins deadline =>
      rw [phase] at stands
      simp only [System.poll, phase]
      obtain ⟨runs, unhurt, still⟩ := stands
      exact Sound.noted ⟨⟨balanced.permits, balanced.events⟩, ⟨tracked.reached, tracked.cancelled,
        tracked.aux, tracked.tracking⟩, runs, ⟨unhurt.spared, unhurt.kept, unhurt.untold⟩,
        still.stop, still.calm⟩
  | waitingAux joins deadline woken =>
      rw [phase] at stands
      simp only [System.poll, phase]
      cases woken with
      | true => exact Sound.afterAux balanced tracked stands
      | false =>
          rw [if_neg Bool.false_ne_true]
          split_ifs
          · exact Sound.afterAux balanced tracked stands
          · exact idle
  | joining deadline straggled =>
      rw [phase] at stands
      simp only [System.poll, phase]
      obtain ⟨runs, unhurt, still⟩ := stands
      split_ifs with ended
      · exact ⟨balanced, tracked, runs.joined ended, unhurt, still⟩
      · exact ⟨⟨balanced.permits, balanced.events⟩, tracked.abortChild, runs, still.stop, still.calm⟩
      · exact idle
  | joiningAborted straggled =>
      rw [phase] at stands
      simp only [System.poll, phase]
      split_ifs with ended
      · exact ⟨balanced, tracked, stands.1.joined ended, stands.2⟩
      · exact idle
  | abortingWraps straggled =>
      rw [phase] at stands
      simp only [System.poll, phase]
      obtain ⟨runs, still⟩ := stands
      obtain ⟨reached, cancelled, aux, tracking⟩ := tracked.abortPerWrap
      exact ⟨⟨balanced.permits, balanced.events⟩, ⟨reached, cancelled, aux, tracking⟩, runs,
        ⟨still.stop, still.calm⟩, still.told runs tracked⟩
  | closingWraps deadline straggled =>
      rw [phase] at stands
      simp only [System.poll, phase]
      obtain ⟨runs, unhurt, still⟩ := stands
      refine Sound.noted ⟨⟨balanced.permits, balanced.events⟩, ⟨tracked.reached, tracked.cancelled,
        tracked.aux, tracked.tracking⟩, runs, ⟨unhurt.spared, unhurt.kept, unhurt.untold⟩,
        ⟨still.stop, still.calm⟩, fun woken => ?_⟩
      cases woken
  | waitingWraps deadline straggled woken =>
      rw [phase] at stands
      simp only [System.poll, phase]
      obtain ⟨runs, unhurt, still, done⟩ := stands
      split_ifs with is
      · exact ⟨balanced, tracked, runs, unhurt, still, done is⟩
      · exact ⟨⟨balanced.permits, balanced.events⟩, tracked.abortPerWrap, runs,
          ⟨still.stop, still.calm⟩, still.told runs tracked⟩
      · exact idle
  | returned | dropped =>
      simp only [System.poll, phase]
      exact idle

theorem Sound.cancel (sound : Sound system) : Sound system.cancel := by
  unfold System.cancel
  split
  all_goals first
    | exact sound
    | exact ⟨sound.balanced, sound.tracked, trivial⟩
    | exact ⟨⟨sound.balanced.permits, sound.balanced.events⟩, sound.tracked.abortChild, trivial⟩

/-- **Every step keeps it.** -/
theorem sound_step (backoff : Backoff) (system : System) (action : Action) (sound : Sound system) :
    Sound ((superviseInbound backoff).step system action) := by
  cases action with
  | tick | signal | hangUp => exact ⟨sound.balanced, sound.tracked, sound.stands⟩
  | advance id answer => exact sound.feed (system.engine.advance_fed id answer)
  | cancelFeeder id => exact sound.feed (system.engine.cancelFeeder_fed id)
  | finishWrap id outcome => exact sound.feed (system.engine.finishWrap_fed id outcome)
  | poll preferred => exact sound.poll backoff preferred
  | cancel => exact sound.cancel

/-- **So it holds throughout**, in every interleaving. -/
theorem sound_run (backoff : Backoff) (actions : List Action) :
    Sound ((superviseInbound backoff).run actions) := by
  refine (superviseInbound backoff).invariant ?_ (sound_step backoff) actions
  refine ⟨⟨rfl, rfl⟩, ⟨?_, ?_, ?_, ?_⟩, ?_, ?_, rfl, rfl⟩ <;>
    simp [superviseInbound, Engine.new, Engine.Runs]

/-! ### The theorems -/

/-- **The fan-out is bounded**: at no time do more tasks run. -/
theorem bounded_fan_out (backoff : Backoff) (actions : List Action) :
    ((superviseInbound backoff).run actions).engine.running ≤ maxInboundConcurrency := by
  have permits := (sound_run backoff actions).balanced.permits
  omega

/-- Once the wrapper has returned, only the tasks go on. -/
theorem System.step_returned {result : Option (DrainResult × Bool)} (backoff : Backoff)
    (action : Action) (over_ : system.phase = .returned result) :
    (system.step backoff action).phase = .returned result ∧
      Fed system.engine (system.step backoff action).engine := by
  have feeds : ∀ {next : Engine}, Fed system.engine next →
      (system.feed next).phase = .returned result ∧ Fed system.engine (system.feed next).engine := by
    intro next fed
    have same : system.feed next = { system with engine := next } := by
      unfold feed noted
      rw [over_]
    rw [same]
    exact ⟨over_, fed⟩
  cases action with
  | tick | signal | hangUp => exact ⟨over_, .idle⟩
  | advance id answer => exact feeds (system.engine.advance_fed id answer)
  | cancelFeeder id => exact feeds (system.engine.cancelFeeder_fed id)
  | finishWrap id outcome => exact feeds (system.engine.finishWrap_fed id outcome)
  | poll preferred =>
      have same : system.poll backoff preferred = system := by
        unfold System.poll
        rw [over_]
      exact ⟨(congrArg phase same).trans over_, by
        show Fed system.engine (system.poll backoff preferred).engine
        rw [same]
        exact .idle⟩
  | cancel =>
      have same : system.cancel = system := by
        unfold System.cancel
        rw [over_]
      exact ⟨(congrArg phase same).trans over_, by
        show Fed system.engine system.cancel.engine
        rw [same]
        exact .idle⟩

/-- A drain is over, with the given engine: nothing is taken any more, and no task is added. -/
structure Over (engine : Engine) (result : DrainResult) (straggled : Bool) (system : System) :
    Prop where
  sound : Sound system
  phase : system.phase = .returned (some (result, straggled))
  taken : system.engine.taken = engine.taken
  added : straggled = false → system.engine.wraps.length = engine.wraps.length

theorem Engine.Still.added (still : engine.Still straggled) (runs : engine.Runs false child)
    (fed : Fed engine next) (calm : straggled = false) : next.wraps.length = engine.wraps.length := by
  cases fed with
  | spawnsWrap found holds => cases calm.symm.trans (still.spawner runs found holds).2
  | finishes => exact List.length_set ..
  | idle | over_ | proceeds | takes | acquires | tracksWrap | spawnsAux | tracksAux | cancels => rfl

theorem Sound.returned {result : DrainResult} (sound : Sound system)
    (over_ : system.phase = .returned (some (result, straggled))) :
    system.engine.Runs false system.child ∧ system.engine.Still straggled := by
  have stands := sound.stands
  rw [over_] at stands
  cases result with
  | drained => exact ⟨stands.1, stands.2.2.1⟩
  | timedOut => exact ⟨stands.1, stands.2.1⟩

/-- **From its return on.** -/
theorem over_run {result : DrainResult} (backoff : Backoff) (actions later : List Action)
    (over_ : ((superviseInbound backoff).run actions).phase = .returned (some (result, straggled))) :
    Over ((superviseInbound backoff).run actions).engine result straggled
      ((superviseInbound backoff).run (actions ++ later)) := by
  unfold Machine.run
  rw [Machine.runFrom_append]
  refine (superviseInbound backoff).invariant_from (fun system action _ over_ => ?_) later _
    ((superviseInbound backoff).meetsFrom_true later _) ?_
  · obtain ⟨runs, still⟩ := over_.sound.returned over_.phase
    obtain ⟨phase, fed⟩ := system.step_returned backoff action over_.phase
    refine ⟨sound_step backoff system action over_.sound, phase,
      (fed.taken still.stop).trans over_.taken, fun calm => ?_⟩
    exact (still.added runs fed calm).trans (over_.added calm)
  · exact ⟨sound_run backoff actions, over_, rfl, fun _ => rfl⟩

theorem Engine.Runs.inHand (runs : engine.Runs false child) : engine.inHand = 0 := by
  refine List.countP_eq_zero.mpr fun feeder member holds => ?_
  obtain ⟨loop, has⟩ := of_decide_eq_true holds
  obtain ⟨id, at_⟩ := List.mem_iff_getElem?.mp member
  rcases runs id feeder at_ loop with ⟨outcome, over_⟩ | ⟨joined, -⟩
  · rcases has with waits | spawns
    · cases waits.symm.trans over_
    · cases spawns.symm.trans over_
  · cases joined

theorem Engine.Done.running (done : engine.Done false) : engine.running = 0 := by
  refine List.countP_eq_zero.mpr fun wrap member live => ?_
  obtain ⟨id, at_⟩ := List.mem_iff_getElem?.mp member
  exact done id wrap at_ (.inr rfl) (of_decide_eq_true live)

/-- **An engine that reports itself as drained lost nothing.** Each event that its receive loop took was
handed to a task, and each of these tasks ended by itself; no more events are taken. If the auxiliary
tasks stopped in time this holds of their tasks too, and no task runs any more. -/
theorem drained_completely (backoff : Backoff) (actions : List Action) (straggled : Bool)
    (drained : ((superviseInbound backoff).run actions).phase =
      .returned (some (.drained, straggled))) :
    let engine := ((superviseInbound backoff).run actions).engine
    engine.taken = engine.accepted ∧
      (∀ wrap ∈ engine.wraps, wrap.loop = true ∨ straggled = false →
        ∃ outcome, wrap.ended = some outcome ∧ outcome ≠ .cancelled) ∧
      ∀ later, let then_ := ((superviseInbound backoff).run (actions ++ later)).engine
        then_.taken = engine.taken ∧
          (straggled = false → then_.running = 0 ∧ then_.wraps.length = engine.wraps.length) := by
  intro engine
  have sound := sound_run backoff actions
  have stands := sound.stands
  rw [drained] at stands
  obtain ⟨runs, unhurt, still, done⟩ := stands
  refine ⟨?_, fun wrap member owed => ?_, fun later => ?_⟩
  · have events := sound.balanced.events
    rw [runs.inHand, unhurt.kept] at events
    exact events
  · obtain ⟨id, at_⟩ := List.mem_iff_getElem?.mp member
    obtain ⟨outcome, is⟩ := Option.ne_none_iff_exists'.mp (done id wrap at_ owed)
    refine ⟨outcome, is, ?_⟩
    rintro rfl
    have told := sound.tracked.cancelled id wrap at_ is
    rw [unhurt.untold] at told
    exact List.not_mem_nil told
  · have over_ := over_run backoff actions later drained
    refine ⟨over_.taken, ?_⟩
    rintro rfl
    have stands := over_.sound.stands
    rw [over_.phase] at stands
    exact ⟨stands.2.2.2.running, over_.added rfl⟩

/-- **One that timed out leaves no task unattended.** Every task of an event of its receive loop that
still runs was told to abort, and no more events are taken. If the auxiliary tasks stopped in time this
holds of their tasks too, and no task is added. -/
theorem timed_out_cleanly (backoff : Backoff) (actions : List Action) (straggled : Bool)
    (timedOut : ((superviseInbound backoff).run actions).phase =
      .returned (some (.timedOut, straggled))) :
    let engine := ((superviseInbound backoff).run actions).engine
    (∀ (id : ℕ) (wrap : Wrap), engine.wraps[id]? = some wrap → wrap.loop = true ∨ straggled = false →
        wrap.ended = none → id ∈ engine.abortedWraps) ∧
      ∀ later, let then_ := ((superviseInbound backoff).run (actions ++ later)).engine
        then_.taken = engine.taken ∧
          (straggled = false → then_.wraps.length = engine.wraps.length) := by
  intro engine
  have stands := (sound_run backoff actions).stands
  rw [timedOut] at stands
  refine ⟨stands.2.2, fun later => ?_⟩
  have over_ := over_run backoff actions later timedOut
  exact ⟨over_.taken, over_.added⟩

/-! ### Two runs -/

/-- The receive loop is up, and the task of one event runs when the shutdown signal comes. -/
def upToSignal : List Action :=
  List.replicate 5 (Action.poll .work) ++ List.replicate 4 (Action.advance 0 .other) ++
    [Action.advance 0 (.event true)] ++ List.replicate 3 (Action.advance 0 .other) ++
    [Action.signal]

/-- All tasks stop before the deadline. -/
def quietShutdown : List Action :=
  upToSignal ++ List.replicate 4 (Action.poll .work) ++
    [Action.advance 1 .other, .poll .work, .advance 0 .other, .poll .work, .poll .work,
      .finishWrap 0 .clean, .poll .work]

/-- The task of the event does not. -/
def lateShutdown : List Action :=
  upToSignal ++ List.replicate 4 (Action.poll .work) ++
    [Action.advance 1 .other, .poll .work, .advance 0 .other, .poll .work, .poll .work,
      .tick shutdownDrain, .poll .work]

theorem drained_completely_quiet :
    let engine := ((superviseInbound restartBackoff).run quietShutdown).engine
    engine.taken = 1 ∧ engine.accepted = 1 ∧ ∀ later,
      ((superviseInbound restartBackoff).run (quietShutdown ++ later)).engine.running = 0 := by
  obtain ⟨handed, -, later⟩ :=
    drained_completely restartBackoff quietShutdown false (by decide +kernel)
  have taken : ((superviseInbound restartBackoff).run quietShutdown).engine.taken = 1 := by
    decide +kernel
  exact ⟨taken, handed.symm.trans taken, fun more => ((later more).2 rfl).1⟩

theorem timed_out_cleanly_late :
    let engine := ((superviseInbound restartBackoff).run lateShutdown).engine
    engine.running = 1 ∧ 0 ∈ engine.abortedWraps := by
  obtain ⟨told, -⟩ := timed_out_cleanly restartBackoff lateShutdown false (by decide +kernel)
  exact ⟨by decide +kernel, told 0 ⟨true, none⟩ (by decide +kernel) (.inl rfl) rfl⟩

end Lnrent.InboundDrain
