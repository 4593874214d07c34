/-
**What the tasks of the inbound loop do to the engine.** The receive loop, its auxiliary tasks and the
tasks of the accepted events share a semaphore, two trackers and the stop token:

* `Fed` — everything that one step of a feeder or of a task can do;
* `Fed.feeder`, `Fed.wrap` — where a feeder and a task of the engine after it come from;
* `Balanced` — the permits and the events add up, and every step keeps that.
-/

import Lnrent.Daemon.InboundDrain
import Lnrent.Transition.Roster

namespace Lnrent.InboundDrain

open Transition Supervisor

variable {engine next : Engine} {system : System} {backoff : Backoff}

/-! ### What a step of a task can do -/

/-- **What one step of a task can do to the engine.** -/
inductive Fed (engine : Engine) : Engine → Prop where
  | idle : Fed engine engine
  | over_ {id : ℕ} {feeder : Feeder} {outcome : Outcome} (found : engine.feeders[id]? = some feeder)
      (rests : feeder.Rests) (free : ¬ feeder.Holds) :
      Fed engine (engine.move id feeder (.ended outcome))
  | proceeds {id : ℕ} {feeder : Feeder} {stage : Stage} (found : engine.feeders[id]? = some feeder)
      (rests : feeder.Rests) (free : ¬ feeder.Holds)
      (on : stage = .subscribing ∧ feeder.stage = .entering ∨ stage = .spawningAux)
      (open_ : engine.stop = false) : Fed engine (engine.move id feeder stage)
  | takes {id : ℕ} {feeder : Feeder} (found : engine.feeders[id]? = some feeder)
      (awaits : feeder.stage = .awaiting) (open_ : engine.stop = false) :
      Fed engine { engine.move id feeder .acquiring with
        taken := engine.taken + if feeder.loop then 1 else 0 }
  | acquires {id : ℕ} {feeder : Feeder} (found : engine.feeders[id]? = some feeder)
      (waits : feeder.stage = .acquiring) (free : 0 < engine.permits) :
      Fed engine { engine.move id feeder .spawningWrap with permits := engine.permits - 1 }
  | spawnsWrap {id : ℕ} {feeder : Feeder} (found : engine.feeders[id]? = some feeder)
      (holds : feeder.stage = .spawningWrap) :
      Fed engine { engine.move id feeder (.trackingWrap engine.wraps.length) with
        wraps := engine.wraps ++ [⟨feeder.loop, none⟩] }
  | tracksWrap {id wrap : ℕ} {feeder : Feeder} (found : engine.feeders[id]? = some feeder)
      (tracks : feeder.stage = .trackingWrap wrap) :
      Fed engine { engine.move id feeder .awaiting with perWrapAborts := engine.trackWrap wrap }
  | spawnsAux {id : ℕ} {feeder : Feeder} (found : engine.feeders[id]? = some feeder)
      (asks : feeder.stage = .spawningAux) :
      Fed engine { engine with
        feeders := engine.feeders.set id { feeder with stage := .trackingAux engine.feeders.length } ++
          [⟨false, .awaiting⟩] }
  | tracksAux {id aux : ℕ} {feeder : Feeder} (found : engine.feeders[id]? = some feeder)
      (tracks : feeder.stage = .trackingAux aux) :
      Fed engine { engine.move id feeder .awaiting with auxAborts := engine.trackAux aux }
  | cancels {id : ℕ} {feeder : Feeder} (found : engine.feeders[id]? = some feeder)
      (told : id ∈ engine.abortedFeeders) (rests : feeder.Rests) :
      Fed engine { engine.move id feeder (.ended .cancelled) with
        lost := engine.lost + if feeder.loop ∧ feeder.Holds then 1 else 0 }
  | finishes {id : ℕ} {wrap : Wrap} {outcome : Outcome} (found : engine.wraps[id]? = some wrap)
      (live : wrap.ended = none) (told : outcome = .cancelled → id ∈ engine.abortedWraps) :
      Fed engine { engine with
        wraps := engine.wraps.set id { wrap with ended := some outcome }
        permits := engine.permits + 1 }

theorem Engine.advance_fed (engine : Engine) (id : ℕ) (answer : Answer) :
    Fed engine (engine.advance id answer) := by
  unfold advance
  cases found : engine.feeders[id]? with
  | none => exact .idle
  | some feeder =>
      dsimp only
      cases stage : feeder.stage with
      | entering =>
          have rests : feeder.Rests := .inl stage
          have free : ¬ feeder.Holds := by simp [Feeder.Holds, stage]
          cases stop : engine.stop with
          | true => exact .over_ found rests free
          | false => exact .proceeds found rests free (.inl ⟨rfl, stage⟩) stop
      | subscribing =>
          have rests : feeder.Rests := .inr (.inl stage)
          have free : ¬ feeder.Holds := by simp [Feeder.Holds, stage]
          have goes : Fed engine (engine.move id feeder
              (if engine.stop then .ended .clean else .spawningAux)) := by
            cases stop : engine.stop with
            | true => exact .over_ found rests free
            | false => exact .proceeds found rests free (.inr rfl) stop
          cases answer with
          | failed | panicked => exact .over_ found rests free
          | event | auxiliary | other | closed => exact goes
      | awaiting =>
          have rests : feeder.Rests := .inr (.inr (.inl stage))
          have free : ¬ feeder.Holds := by simp [Feeder.Holds, stage]
          dsimp only
          by_cases stop : engine.stop = true
          · rw [if_pos stop]
            exact .over_ found rests free
          · rw [if_neg stop]
            have open_ : engine.stop = false := by simpa using stop
            cases answer with
            | event fits =>
                cases fits with
                | true => exact .takes found stage open_
                | false => exact .idle
            | other => exact .idle
            | auxiliary => exact .proceeds found rests free (.inr rfl) open_
            | closed | failed | panicked => exact .over_ found rests free
      | acquiring =>
          dsimp only
          split_ifs with free
          · exact .acquires found stage free
          · exact .idle
      | spawningWrap => exact .spawnsWrap found stage
      | trackingWrap wrap => exact .tracksWrap found stage
      | spawningAux => exact .spawnsAux found stage
      | trackingAux aux => exact .tracksAux found stage
      | ended outcome => exact .idle

theorem Engine.cancelFeeder_fed (engine : Engine) (id : ℕ) : Fed engine (engine.cancelFeeder id) := by
  unfold cancelFeeder
  cases found : engine.feeders[id]? with
  | none => exact .idle
  | some feeder =>
      dsimp only
      by_cases told : id ∈ engine.abortedFeeders ∧ feeder.Rests
      · rw [if_pos told]
        exact .cancels found told.1 told.2
      · rw [if_neg told]
        exact .idle

theorem Engine.finishWrap_fed (engine : Engine) (id : ℕ) (outcome : Outcome) :
    Fed engine (engine.finishWrap id outcome) := by
  unfold finishWrap
  cases found : engine.wraps[id]? with
  | none => exact .idle
  | some wrap =>
      dsimp only
      split_ifs with live
      · exact .finishes found live.1 live.2
      · exact .idle

/-- A feeder that changed. -/
structure Moved (engine : Engine) (before after : Feeder) : Prop where
  loop : after.loop = before.loop
  live : ¬ before.Ended
  stopped : engine.stop = true → before.stage = .awaiting → after.Ended

theorem Feeder.Rests.live {feeder : Feeder} (rests : feeder.Rests) : ¬ feeder.Ended := by
  rintro ⟨outcome, is⟩
  simp [Rests, is] at rests

theorem Engine.move_feeder {id other : ℕ} {feeder after : Feeder} {stage : Stage}
    (found : engine.feeders[id]? = some feeder) (live : ¬ feeder.Ended)
    (stopped : engine.stop = true → feeder.stage = .awaiting → ∃ outcome, stage = .ended outcome)
    (at_ : (engine.move id feeder stage).feeders[other]? = some after) :
    ∃ before, engine.feeders[other]? = some before ∧ (after = before ∨ Moved engine before after) := by
  rcases roster_set at_ with ⟨rfl, rfl⟩ | ⟨-, same⟩
  · exact ⟨feeder, found, .inr ⟨rfl, live, stopped⟩⟩
  · exact ⟨after, same, .inl rfl⟩

/-- **Where a feeder comes from.** -/
theorem Fed.feeder (fed : Fed engine next) {id : ℕ} {after : Feeder}
    (at_ : next.feeders[id]? = some after) :
    (∃ before, engine.feeders[id]? = some before ∧ (after = before ∨ Moved engine before after)) ∨
      id = engine.feeders.length ∧ after = ⟨false, .awaiting⟩ := by
  cases fed with
  | idle => exact .inl ⟨after, at_, .inl rfl⟩
  | finishes => exact .inl ⟨after, at_, .inl rfl⟩
  | over_ found rests =>
      exact .inl (engine.move_feeder found rests.live (fun _ _ => ⟨_, rfl⟩) at_)
  | cancels found told rests =>
      exact .inl (engine.move_feeder found rests.live (fun _ _ => ⟨_, rfl⟩) at_)
  | proceeds found rests free on open_ =>
      refine .inl (engine.move_feeder found rests.live (fun stop _ => ?_) at_)
      cases open_.symm.trans stop
  | takes found awaits open_ =>
      refine .inl (engine.move_feeder found (by simp [Feeder.Ended, awaits]) (fun stop _ => ?_) at_)
      cases open_.symm.trans stop
  | acquires found stage | spawnsWrap found stage | tracksWrap found stage | tracksAux found stage =>
      refine .inl (engine.move_feeder found (by simp [Feeder.Ended, stage]) (fun _ awaits => ?_) at_)
      cases stage.symm.trans awaits
  | spawnsAux found asks =>
      rcases roster_append at_ with old | ⟨last, new⟩
      · refine .inl (engine.move_feeder found (by simp [Feeder.Ended, asks]) (fun _ awaits => ?_) old)
        cases asks.symm.trans awaits
      · exact .inr ⟨last.trans (List.length_set ..), new⟩

/-- No feeder is lost, and none changes its kind. -/
theorem Fed.keeps (fed : Fed engine next) {id : ℕ} {before : Feeder}
    (at_ : engine.feeders[id]? = some before) :
    ∃ after, next.feeders[id]? = some after ∧ after.loop = before.loop := by
  have moves : ∀ {moved : ℕ} {feeder : Feeder} (stage : Stage),
      engine.feeders[moved]? = some feeder →
      ∃ after, (engine.move moved feeder stage).feeders[id]? = some after ∧
        after.loop = before.loop := by
    intro moved feeder stage found
    by_cases same : id = moved
    · subst same
      obtain rfl := Option.some.inj (found.symm.trans at_)
      exact ⟨_, roster_set_self found, rfl⟩
    · exact ⟨before, (roster_set_other same).trans at_, rfl⟩
  cases fed with
  | idle => exact ⟨before, at_, rfl⟩
  | finishes => exact ⟨before, at_, rfl⟩
  | over_ found | proceeds found | takes found | acquires found | spawnsWrap found
  | tracksWrap found | tracksAux found | cancels found => exact moves _ found
  | @spawnsAux moved feeder found asks =>
      obtain ⟨after, there, kind⟩ := moves (.trackingAux engine.feeders.length) found
      exact ⟨after, roster_append_old there, kind⟩

/-- **Where a task comes from**: only a feeder that has an event and a permit spawns one. -/
theorem Fed.wrap (fed : Fed engine next) {id : ℕ} {after : Wrap}
    (at_ : next.wraps[id]? = some after) :
    (∃ before, engine.wraps[id]? = some before ∧ after.loop = before.loop ∧
      (after = before ∨ before.ended = none ∧ after.ended ≠ none ∧
        (after.ended = some .cancelled → id ∈ engine.abortedWraps))) ∨
      id = engine.wraps.length ∧ after.ended = none ∧ ∃ (spawner : ℕ) (feeder : Feeder),
        engine.feeders[spawner]? = some feeder ∧ feeder.stage = .spawningWrap ∧
          after.loop = feeder.loop := by
  cases fed with
  | @spawnsWrap spawner feeder found holds =>
      rcases roster_append at_ with old | ⟨last, rfl⟩
      · exact .inl ⟨after, old, rfl, .inl rfl⟩
      · exact .inr ⟨last, rfl, spawner, feeder, found, holds, rfl⟩
  | @finishes finished wrap outcome found live told =>
      rcases roster_set at_ with ⟨rfl, rfl⟩ | ⟨-, same⟩
      · exact .inl ⟨wrap, found, rfl, .inr ⟨live, by simp, fun is => told (Option.some.inj is)⟩⟩
      · exact .inl ⟨after, same, rfl, .inl rfl⟩
  | idle | over_ | proceeds | takes | acquires | tracksWrap | spawnsAux | tracksAux | cancels =>
      exact .inl ⟨after, at_, rfl, .inl rfl⟩

/-- What no step of a task changes. -/
theorem Fed.frame (fed : Fed engine next) :
    next.stop = engine.stop ∧ next.abortedFeeders = engine.abortedFeeders ∧
      next.abortedWraps = engine.abortedWraps ∧ engine.wraps.length ≤ next.wraps.length := by
  cases fed <;> simp [Engine.move]

/-! ### Permits and events -/

/-- So many feeders have a permit, and no task for it yet. -/
def Engine.granted (engine : Engine) : ℕ :=
  engine.feeders.countP fun feeder => feeder.stage = .spawningWrap

/-- So many tasks run. -/
def Engine.running (engine : Engine) : ℕ := engine.wraps.countP fun wrap => wrap.ended = none

/-- So many events are in the hands of the receive loop. -/
def Engine.inHand (engine : Engine) : ℕ :=
  engine.feeders.countP fun feeder => feeder.loop = true ∧ feeder.Holds

/-- So many tasks are of events that the receive loop took. -/
def Engine.accepted (engine : Engine) : ℕ := engine.wraps.countP Wrap.loop

/-- **The permits and the events add up.** -/
structure Balanced (engine : Engine) : Prop where
  permits : engine.permits + engine.granted + engine.running = maxInboundConcurrency
  events : engine.taken = engine.accepted + engine.inHand + engine.lost

theorem Engine.granted_move {id : ℕ} {feeder : Feeder} (found : engine.feeders[id]? = some feeder)
    (stage : Stage) :
    (engine.move id feeder stage).granted + (if feeder.stage = .spawningWrap then 1 else 0) =
      engine.granted + if stage = .spawningWrap then 1 else 0 := by
  unfold granted move
  simpa only [decide_eq_true_eq] using countP_roster_set
    (fun feeder : Feeder => decide (feeder.stage = .spawningWrap)) { feeder with stage := stage } found

theorem Engine.inHand_move {id : ℕ} {feeder : Feeder} (found : engine.feeders[id]? = some feeder)
    (stage : Stage) :
    (engine.move id feeder stage).inHand +
        (if feeder.loop = true ∧ feeder.Holds then 1 else 0) =
      engine.inHand +
        if feeder.loop = true ∧ (stage = .acquiring ∨ stage = .spawningWrap) then 1 else 0 := by
  have moved := countP_roster_set (fun feeder : Feeder => decide (feeder.loop = true ∧ feeder.Holds))
    { feeder with stage := stage } found
  simp only [decide_eq_true_eq] at moved
  exact moved

/-- A step that touches neither a permit nor an event. -/
theorem Balanced.move (balanced : Balanced engine) {id : ℕ} {feeder : Feeder} (stage : Stage)
    (found : engine.feeders[id]? = some feeder) (free : ¬ feeder.Holds)
    (still : ¬ (stage = .acquiring ∨ stage = .spawningWrap)) :
    Balanced (engine.move id feeder stage) := by
  have grants := engine.granted_move found stage
  have hands := engine.inHand_move found stage
  rw [if_neg fun is => free (.inr is), if_neg fun is => still (.inr is)] at grants
  rw [if_neg fun is => free is.2, if_neg fun is => still is.2] at hands
  refine ⟨?_, ?_⟩
  · show engine.permits + (engine.move id feeder stage).granted + engine.running = _
    rw [show (engine.move id feeder stage).granted = engine.granted from grants]
    exact balanced.permits
  · show engine.taken = engine.accepted + (engine.move id feeder stage).inHand + engine.lost
    rw [show (engine.move id feeder stage).inHand = engine.inHand from hands]
    exact balanced.events

/-- **Every step keeps the balance.** -/
theorem Balanced.fed (balanced : Balanced engine) (fed : Fed engine next) : Balanced next := by
  obtain ⟨permits, events⟩ := balanced
  have balanced : Balanced engine := ⟨permits, events⟩
  cases fed with
  | idle => exact balanced
  | over_ found rests free => exact balanced.move _ found free (by simp)
  | proceeds found rests free on =>
      refine balanced.move _ found free ?_
      rcases on with ⟨rfl, -⟩ | rfl <;> simp
  | @takes id feeder found awaits =>
      have grants := engine.granted_move found .acquiring
      have hands := engine.inHand_move found .acquiring
      simp only [awaits, Feeder.Holds, reduceCtorEq, or_self, and_false, or_false, and_true,
        if_false] at grants hands
      refine ⟨?_, ?_⟩
      · show engine.permits + (engine.move id feeder .acquiring).granted + engine.running = _
        omega
      · show engine.taken + (if feeder.loop then 1 else 0) =
          engine.accepted + (engine.move id feeder .acquiring).inHand + engine.lost
        omega
  | @acquires id feeder found waits free =>
      have grants := engine.granted_move found .spawningWrap
      have hands := engine.inHand_move found .spawningWrap
      simp only [waits, Feeder.Holds, reduceCtorEq, true_or, or_true, and_true, if_true,
        if_false] at grants hands
      refine ⟨?_, ?_⟩
      · show engine.permits - 1 + (engine.move id feeder .spawningWrap).granted + engine.running = _
        omega
      · show engine.taken = engine.accepted + (engine.move id feeder .spawningWrap).inHand + engine.lost
        omega
  | @spawnsWrap id feeder found holds =>
      have grants := engine.granted_move found (.trackingWrap engine.wraps.length)
      have hands := engine.inHand_move found (.trackingWrap engine.wraps.length)
      simp only [holds, Feeder.Holds, reduceCtorEq, or_true, or_self, and_true, and_false, if_true,
        if_false] at grants hands
      have runs : (engine.wraps ++ [(⟨feeder.loop, none⟩ : Wrap)]).countP
          (fun wrap : Wrap => decide (wrap.ended = none)) = engine.running + 1 := by
        simp [Engine.running]
      have accepts : (engine.wraps ++ [(⟨feeder.loop, none⟩ : Wrap)]).countP Wrap.loop =
          engine.accepted + if feeder.loop then 1 else 0 := by
        simp [Engine.accepted]
      refine ⟨?_, ?_⟩
      · show engine.permits + (engine.move id feeder (.trackingWrap engine.wraps.length)).granted +
          (engine.wraps ++ [(⟨feeder.loop, none⟩ : Wrap)]).countP (fun wrap : Wrap =>
            decide (wrap.ended = none)) = _
        omega
      · show engine.taken = (engine.wraps ++ [(⟨feeder.loop, none⟩ : Wrap)]).countP Wrap.loop +
          (engine.move id feeder (.trackingWrap engine.wraps.length)).inHand + engine.lost
        omega
  | tracksWrap found tracks | tracksAux found tracks =>
      obtain ⟨permits, events⟩ := balanced.move .awaiting found
        (by simp [Feeder.Holds, tracks]) (by simp)
      exact ⟨permits, events⟩
  | @spawnsAux id feeder found asks =>
      obtain ⟨permits, events⟩ := balanced.move (.trackingAux engine.feeders.length) found
        (by simp [Feeder.Holds, asks]) (by simp)
      refine ⟨?_, ?_⟩
      · simpa [Engine.granted, Engine.running, Engine.move] using permits
      · simpa [Engine.inHand, Engine.accepted, Engine.move, Feeder.Holds] using events
  | @cancels id feeder found told rests =>
      have grants := engine.granted_move found (.ended .cancelled)
      have hands := engine.inHand_move found (.ended .cancelled)
      have unspawned : feeder.stage ≠ .spawningWrap := by
        intro is
        simp [Feeder.Rests, is] at rests
      simp only [unspawned, reduceCtorEq, or_self, and_false, if_false] at grants hands
      refine ⟨?_, ?_⟩
      · show engine.permits + (engine.move id feeder (.ended .cancelled)).granted +
          engine.running = _
        omega
      · show engine.taken = engine.accepted + (engine.move id feeder (.ended .cancelled)).inHand +
          (engine.lost + if feeder.loop = true ∧ feeder.Holds then 1 else 0)
        omega
  | @finishes id wrap outcome found live =>
      have runs := countP_roster_set (fun wrap : Wrap => decide (wrap.ended = none))
        { wrap with ended := some outcome } found
      have counts := countP_roster_set Wrap.loop { wrap with ended := some outcome } found
      have accepts : (engine.wraps.set id { wrap with ended := some outcome }).countP Wrap.loop =
          engine.wraps.countP Wrap.loop := Nat.add_right_cancel counts
      simp only [live, decide_true, reduceCtorEq, decide_false, if_true, Bool.false_eq_true,
        if_false] at runs
      refine ⟨?_, ?_⟩
      · show engine.permits + 1 + engine.granted +
          (engine.wraps.set id { wrap with ended := some outcome }).countP
            (fun wrap : Wrap => decide (wrap.ended = none)) = _
        unfold Engine.running at permits
        omega
      · show engine.taken =
          (engine.wraps.set id { wrap with ended := some outcome }).countP Wrap.loop +
            engine.inHand + engine.lost
        unfold Engine.accepted at events
        omega

end Lnrent.InboundDrain
