/-
**One alert for each blackout.** For the maintenance passes of one life of the process, with whatever
else writes to the outbox between them:

* `Passing`, `passing` — a pass that refreshes the relay status, or another write;
* `announced` — the blackouts the passes confirmed, by the time they began;
* `blackoutWatch` — the abstract watch over the passes; `announced_eq` — the passes do what it does;
* `one_alert_each` — **every blackout that lasts is reported once**: the confirmed blackouts are the
  maximal dark stretches in which a pass past the threshold could write, and each has its alert in the
  outbox.
-/

import Lnrent.Alerts.History
import Lnrent.Transition.Edge

namespace Lnrent.Alerts

open Relational Transition

/-! ### The passes -/

/-- A pass, or a write between two passes. -/
inductive Passing where
  | pass (tick : Tick)
  | other (event : Event)

/-- A write between two passes of one life: it reports no blackout, and the process goes on. -/
def Passing.Ordinary : Passing → Prop
  | .pass _ => True
  | .other (.dispatched call) => call.alert.kind ≠ .relayBlackout
  | .other (.restarted _) => False
  | .other _ => True

/-- The monitor and the sink. -/
abbrev Station := RelayBlackoutMonitor × Sink

def passing (digest : String → String) (station : Station) : Passing → Station
  | .pass tick => refreshRelayStatus digest station.1 station.2.1 station.2.2 tick
  | .other event => (station.1, mailboxStep digest station.2 event)

/-- The state after a list of them. -/
def passAll (digest : String → String) : Station → List Passing → Station
  | station, [] => station
  | station, next :: rest => passAll digest (passing digest station next) rest

/-- The call a due pass makes. -/
def blackoutCall (tick : Tick) (onset : ℤ) : Dispatching :=
  ⟨blackoutAlert tick.rows.length onset, tick.at_, tick.commits⟩

/-- **The blackouts that were confirmed**, by the time they began. -/
def announced (digest : String → String) : Station → List Passing → List ℤ
  | _, [] => []
  | station, .pass tick :: rest =>
      let due := station.1.onsetDue tick.rows tick.now
      let onset := due.2.onset.getD tick.now
      let next := passing digest station (.pass tick)
      if due.1 = true ∧ (dispatchOne digest station.2 (blackoutCall tick onset)).1 ≠ .failed then
        onset :: announced digest next rest
      else announced digest next rest
  | station, .other event :: rest => announced digest (passing digest station (.other event)) rest

/-- The passes among them. -/
def ticks (steps : List Passing) : List Tick :=
  steps.filterMap fun step =>
    match step with
    | .pass tick => some tick
    | .other _ => none

/-- **The watch the passes keep**: a pass is dark when no relay of a pool is connected, and one past the
threshold confirms the blackout if the store commits. -/
def blackoutWatch : Watch Tick where
  dark tick := allDisconnected tick.rows
  time tick := tick.now
  confirms onset tick := decide (onset + relayBlackoutAlertS ≤ tick.now) && tick.commits

/-- **The blackouts that last**: of each maximal dark stretch its beginning, if a pass past the threshold
could write. -/
def lastingBlackouts (ticks : List Tick) : List ℤ :=
  (ticks.splitOnP fun tick => !allDisconnected tick.rows).filterMap fun stretch =>
    stretch.head?.bind fun first =>
      if stretch.any fun tick => decide (first.now + relayBlackoutAlertS ≤ tick.now) && tick.commits then
        some first.now
      else none

theorem lastingBlackouts_eq (ticks : List Tick) :
    lastingBlackouts ticks = blackoutWatch.watch none ticks :=
  (blackoutWatch.watch_eq ticks).symm

/-! ### The monitor keeps the watch -/

theorem blackoutSubject_injective : Function.Injective blackoutSubject := by
  intro first second same
  unfold blackoutSubject at same
  exact Int.repr_inj.mp (String.append_right_inj _ |>.mp same)

section Step

variable (digest : String → String) {sink : Sink} {call : Dispatching}

theorem dispatchOne_failed (enabled : sink.1.isEnabled = true)
    (open_ : ¬ sink.1.Suppressed call.alert call.time) (stuck : call.commits = false) :
    dispatchOne digest sink call = (.failed, sink) := by
  unfold dispatchOne dispatch
  rw [if_neg (by rw [enabled]; decide), if_neg open_, if_pos stuck]

theorem dispatchOne_sent (enabled : sink.1.isEnabled = true)
    (open_ : ¬ sink.1.Suppressed call.alert call.time) (commits : call.commits = true) :
    dispatchOne digest sink call = (.enqueued, stamped digest sink call) := by
  unfold dispatchOne dispatch
  rw [if_neg (by rw [enabled]; decide), if_neg open_, if_neg (by rw [commits]; decide)]
  rfl

/-- A pass that is not due only moves the monitor. -/
theorem passing_idle {station : Station} {tick : Tick}
    (idle : (station.1.onsetDue tick.rows tick.now).1 = false) :
    passing digest station (.pass tick) =
      ((station.1.onsetDue tick.rows tick.now).2, station.2) := by
  simp only [passing, refreshRelayStatus]
  split
  · rename_i monitor same
    rw [same]
  · rename_i monitor same
    rw [same] at idle
    cases idle

/-- What a dispatch makes of the monitor: only a failed one leaves the blackout unconfirmed. -/
def settledBy (monitor : RelayBlackoutMonitor) : Dispatched → RelayBlackoutMonitor
  | .failed => monitor
  | .enqueued => monitor.markFired
  | .dropped => monitor.markFired

/-- A due pass dispatches the alert. -/
theorem passing_due {station : Station} {tick : Tick} {monitor : RelayBlackoutMonitor}
    (due : station.1.onsetDue tick.rows tick.now = (true, monitor)) :
    passing digest station (.pass tick) =
      (settledBy monitor
        (dispatchOne digest station.2 (blackoutCall tick (monitor.onset.getD tick.now))).1,
      (dispatchOne digest station.2 (blackoutCall tick (monitor.onset.getD tick.now))).2) := by
  simp only [passing, refreshRelayStatus, due, dispatchOne, blackoutCall]
  rcases dispatch digest station.2.1 station.2.2
    (blackoutAlert tick.rows.length (monitor.onset.getD tick.now)) tick.at_ tick.commits with
    ⟨answer, dispatcher, outbox⟩
  cases answer <;> rfl

/-- A pass is a dispatch or nothing, for the sink. -/
theorem passing_mailbox (station : Station) (step : Passing) :
    (passing digest station step).2 = station.2 ∨
      ∃ event, (passing digest station step).2 = mailboxStep digest station.2 event := by
  cases step with
  | other event => exact .inr ⟨event, rfl⟩
  | pass tick =>
      cases due : (station.1.onsetDue tick.rows tick.now).1 with
      | false => exact .inl (by rw [passing_idle digest due])
      | true =>
          have split : station.1.onsetDue tick.rows tick.now =
              (true, (station.1.onsetDue tick.rows tick.now).2) := Prod.ext due rfl
          exact .inr ⟨.dispatched _, by rw [passing_due digest split]; rfl⟩

/-- An alert that is in the outbox stays. -/
theorem passAll_keeps {kind : AlertKind} {id : String} {entry : OutboxEntry}
    (begins : (alertPrefix kind).toList <+: id.toList) (steps : List Passing) :
    ∀ station : Station, station.2.2.row id = some entry →
      (passAll digest station steps).2.2.row id = some entry := by
  induction steps with
  | nil => exact fun _ found => found
  | cons step rest ih =>
      intro station found
      refine ih _ ?_
      rcases passing_mailbox digest station step with same | ⟨event, same⟩
      · rwa [same]
      · rw [same]
        exact alert_kept event begins found

theorem blackoutId_begins (subject : String) (time : ℤ) :
    (alertPrefix .relayBlackout).toList <+:
      (alertId digest .relayBlackout subject time).toList := by
  rw [alertId_eq, String.toList_append]
  exact List.prefix_append _ _

/-- The row a sent alert leaves, be it an older one under the same id. -/
theorem sent_row (sink : Sink) (tick : Tick) (onset : ℤ) :
    ∃ entry, (stamped digest sink (blackoutCall tick onset)).2.row
      (alertId digest .relayBlackout (blackoutSubject onset) tick.at_) = some entry :=
  ⟨_, (stamped_row sink (blackoutCall tick onset) _).trans (if_pos rfl)⟩

/-- What an ordinary write leaves alone. -/
theorem ordinary_keeps (sink : Sink) (event : Event) (ordinary : (Passing.other event).Ordinary) :
    (mailboxStep digest sink event).1.isEnabled = sink.1.isEnabled ∧
      ∀ subject, (mailboxStep digest sink event).1.lastSent.row (.relayBlackout, subject) =
        sink.1.lastSent.row (.relayBlackout, subject) := by
  cases event with
  | dispatched call =>
      refine ⟨dispatchOne_enabled sink call, fun subject => ?_⟩
      refine (dispatchOne_lastSent sink call).trans (if_neg fun both => ordinary both.1.1)
  | parked alert time =>
      simp only [mailboxStep]
      split <;> exact ⟨rfl, fun _ => rfl⟩
  | queued | forgotten => exact ⟨rfl, fun _ => rfl⟩
  | restarted => exact ordinary.elim

/-- **The station stands where the watch stands**: the monitor remembers the stretch, and no alert was
sent about it, nor about one that may still begin. -/
structure Keeps (station : Station) (stretch : Watch.Stretching) (future : List Tick) : Prop where
  enabled : station.2.1.isEnabled = true
  onset : station.1.onset = stretch.map Prod.fst
  fired : station.1.fired = (stretch.map Prod.snd).getD false
  future : ∀ onset, station.2.1.lastSent.row (.relayBlackout, blackoutSubject onset) ≠ none →
    ∀ tick ∈ future, onset + relayBlackoutAlertS ≤ tick.now
  current : ∀ onset, station.2.1.lastSent.row (.relayBlackout, blackoutSubject onset) ≠ none →
    ∀ began, stretch = some (began, false) → onset + relayBlackoutAlertS ≤ began

/-- The alert about a blackout that was not announced is not suppressed. -/
theorem Keeps.unsuppressed {station : Station} {stretch : Watch.Stretching} {tick : Tick}
    {rest : List Tick} (keeps : Keeps station stretch (tick :: rest))
    (unfired : (stretch.map Prod.snd).getD false = false) :
    station.2.1.lastSent.row (.relayBlackout,
      blackoutSubject ((stretch.map Prod.fst).getD tick.now)) = none := by
  by_contra known
  have positive : 0 < relayBlackoutAlertS := by decide
  cases stretch with
  | none =>
      have least := keeps.future _ known tick List.mem_cons_self
      rw [Option.map_none, Option.getD_none] at least
      omega
  | some pair =>
      obtain ⟨began, fired⟩ := pair
      obtain rfl : fired = false := unfired
      have least := keeps.current _ known began rfl
      rw [Option.map_some, Option.getD_some] at least
      omega

theorem onsetDue_dark {monitor : RelayBlackoutMonitor} {rows : List RelayStatusRow} {now : ℤ}
    (dark : allDisconnected rows = true) :
    monitor.onsetDue rows now =
      (!monitor.fired && decide (relayBlackoutAlertS ≤ now - monitor.onset.getD now),
        ⟨some (monitor.onset.getD now), monitor.fired⟩) := by
  unfold RelayBlackoutMonitor.onsetDue
  rw [if_pos dark]

theorem onsetDue_light {monitor : RelayBlackoutMonitor} {rows : List RelayStatusRow} {now : ℤ}
    (light : allDisconnected rows = false) :
    monitor.onsetDue rows now = (false, ⟨none, false⟩) := by
  unfold RelayBlackoutMonitor.onsetDue
  rw [if_neg (by rw [light]; decide)]

section Pass

variable {station : Station} {stretch : Watch.Stretching} {tick : Tick} {rest : List Tick}

/-- The beginning of the stretch the pass is in, were it dark. -/
def beginning (stretch : Watch.Stretching) (tick : Tick) : ℤ :=
  (stretch.map Prod.fst).getD tick.now

/-- A stretch that was announced before the pass. -/
def wasAnnounced (stretch : Watch.Stretching) : Bool := (stretch.map Prod.snd).getD false

/-- A dark pass that sends nothing. -/
theorem Keeps.waits (keeps : Keeps station stretch (tick :: rest)) {next : Station}
    (monitor : next.1 = ⟨some (beginning stretch tick), wasAnnounced stretch⟩)
    (sink : next.2 = station.2) :
    Keeps next (some (beginning stretch tick, wasAnnounced stretch)) rest where
  enabled := by rw [sink]; exact keeps.enabled
  onset := by rw [monitor]; rfl
  fired := by rw [monitor]; rfl
  future onset known later member :=
    keeps.future onset (by rwa [sink] at known) later (List.mem_cons_of_mem _ member)
  current onset known began same := by
    rw [sink] at known
    obtain ⟨rfl, unfired⟩ := Prod.mk.inj (Option.some.inj same)
    cases stretch with
    | none => exact keeps.future onset known tick List.mem_cons_self
    | some pair =>
        obtain ⟨start, fired⟩ := pair
        obtain rfl : fired = false := unfired
        exact keeps.current onset known start rfl

/-- A dark pass that sends the alert. -/
theorem Keeps.sends (keeps : Keeps station stretch (tick :: rest))
    (later : ∀ after ∈ rest, tick.now ≤ after.now)
    (past : beginning stretch tick + relayBlackoutAlertS ≤ tick.now) {next : Station}
    (monitor : next.1 = ⟨some (beginning stretch tick), true⟩)
    (sink : next.2 =
      stamped digest station.2 (blackoutCall tick (beginning stretch tick))) :
    Keeps next (some (beginning stretch tick, true)) rest where
  enabled := by rw [sink]; exact keeps.enabled
  onset := by rw [monitor]; rfl
  fired := by rw [monitor]; rfl
  future onset known after member := by
    rw [sink] at known
    by_cases own : onset = beginning stretch tick
    · rw [own]
      exact past.trans (later after member)
    · refine keeps.future onset (fun unknown => known ?_) after (List.mem_cons_of_mem _ member)
      refine (Table.put_row_other _ _ fun same => own ?_).trans unknown
      exact blackoutSubject_injective (Prod.mk.inj same).2
  current _ _ _ same := by
    have fired := (Prod.mk.inj (Option.some.inj same)).2
    exact absurd fired (by decide)

/-- A pass with a relay connected, or with an empty pool. -/
theorem Keeps.light (keeps : Keeps station stretch (tick :: rest)) {next : Station}
    (monitor : next.1 = ⟨none, false⟩) (sink : next.2 = station.2) : Keeps next none rest where
  enabled := by rw [sink]; exact keeps.enabled
  onset := by rw [monitor]; rfl
  fired := by rw [monitor]; rfl
  future onset known after member :=
    keeps.future onset (by rwa [sink] at known) after (List.mem_cons_of_mem _ member)
  current _ _ _ same := absurd same (Option.some_ne_none _).symm

/-- **What a pass does**: nothing while a relay is connected; it waits while the blackout is young, was
announced or cannot be written; else it sends the alert about it. -/
theorem pass_step (keeps : Keeps station stretch (tick :: rest))
    (later : ∀ after ∈ rest, tick.now ≤ after.now) :
    (allDisconnected tick.rows = false ∧ (station.1.onsetDue tick.rows tick.now).1 = false ∧
        Keeps (passing digest station (.pass tick)) none rest) ∨
      (allDisconnected tick.rows = true ∧
        ¬ (wasAnnounced stretch = false ∧
          blackoutWatch.confirms (beginning stretch tick) tick = true) ∧
        ¬ ((station.1.onsetDue tick.rows tick.now).1 = true ∧
          (dispatchOne digest station.2 (blackoutCall tick (beginning stretch tick))).1 ≠ .failed) ∧
        Keeps (passing digest station (.pass tick))
          (some (beginning stretch tick, wasAnnounced stretch)) rest) ∨
      allDisconnected tick.rows = true ∧ wasAnnounced stretch = false ∧
        blackoutWatch.confirms (beginning stretch tick) tick = true ∧
        (station.1.onsetDue tick.rows tick.now).1 = true ∧
        (dispatchOne digest station.2 (blackoutCall tick (beginning stretch tick))).1 ≠ .failed ∧
        Keeps (passing digest station (.pass tick)) (some (beginning stretch tick, true)) rest ∧
        (passing digest station (.pass tick)).2 =
          stamped digest station.2 (blackoutCall tick (beginning stretch tick)) := by
  cases dark : allDisconnected tick.rows with
  | false =>
      have idle : (station.1.onsetDue tick.rows tick.now).1 = false := by rw [onsetDue_light dark]
      refine .inl ⟨rfl, idle, keeps.light ?_ ?_⟩
      · rw [passing_idle digest idle, onsetDue_light dark]
      · rw [passing_idle digest idle]
  | true =>
      refine .inr ?_
      have due : station.1.onsetDue tick.rows tick.now =
          (!wasAnnounced stretch &&
            decide (relayBlackoutAlertS ≤ tick.now - beginning stretch tick),
            ⟨some (beginning stretch tick), wasAnnounced stretch⟩) := by
        rw [onsetDue_dark dark, keeps.fired, keeps.onset]
        rfl
      have waits (idle : (station.1.onsetDue tick.rows tick.now).1 = false) :
          Keeps (passing digest station (.pass tick))
            (some (beginning stretch tick, wasAnnounced stretch)) rest := by
        refine keeps.waits ?_ ?_
        · rw [passing_idle digest idle, due]
        · rw [passing_idle digest idle]
      cases fired : wasAnnounced stretch with
      | true =>
          have idle : (station.1.onsetDue tick.rows tick.now).1 = false := by
            rw [due, fired]; rfl
          rw [fired] at waits
          exact .inl ⟨rfl, fun both => absurd both.1 (by decide),
            fun both => absurd (both.1.symm.trans idle) (by decide), waits idle⟩
      | false =>
          rw [fired, Bool.not_false, Bool.true_and] at due
          rw [fired] at waits
          by_cases past : beginning stretch tick + relayBlackoutAlertS ≤ tick.now
          · have open_ : ¬ station.2.1.Suppressed
                (blackoutCall tick (beginning stretch tick)).alert
                (blackoutCall tick (beginning stretch tick)).time := by
              rintro ⟨last, known, -⟩
              exact Option.some_ne_none last
                ((Option.mem_def.mp known).symm.trans (keeps.unsuppressed fired))
            rw [decide_eq_true (by omega)] at due
            cases commits : tick.commits with
            | false =>
                have failed := dispatchOne_failed digest keeps.enabled open_ commits
                refine .inl ⟨rfl, fun both => ?_, fun both => both.2 (by rw [failed]), ?_⟩
                · have confirms := both.2
                  simp [blackoutWatch, commits] at confirms
                · have passed := passing_due digest due
                  simp only [Option.getD_some, failed, settledBy] at passed
                  have keeps' : Keeps (passing digest station (.pass tick))
                      (some (beginning stretch tick, wasAnnounced stretch)) rest :=
                    keeps.waits (by rw [passed, fired]) (by rw [passed])
                  rwa [fired] at keeps'
            | true =>
                have sent := dispatchOne_sent digest keeps.enabled open_ commits
                have passed := passing_due digest due
                simp only [Option.getD_some, sent, settledBy] at passed
                refine .inr ⟨rfl, rfl, ?_, by rw [due], ?_, keeps.sends digest later past ?_ ?_, ?_⟩
                · simp [blackoutWatch, past, commits]
                · rw [sent]
                  show Dispatched.enqueued ≠ .failed
                  decide
                · rw [passed]; rfl
                · rw [passed]
                · rw [passed]
          · have idle : (station.1.onsetDue tick.rows tick.now).1 = false := by
              rw [due]
              exact decide_eq_false (by omega)
            refine .inl ⟨rfl, fun both => ?_,
              fun both => absurd (both.1.symm.trans idle) (by decide), waits idle⟩
            have confirms := both.2
            simp [blackoutWatch, past] at confirms

end Pass

/-- What an ordinary write does to the station. -/
theorem Keeps.other {station : Station} {stretch : Watch.Stretching} {future : List Tick}
    (keeps : Keeps station stretch future) (event : Event)
    (ordinary : (Passing.other event).Ordinary) :
    Keeps (passing digest station (.other event)) stretch future := by
  obtain ⟨enabled, same⟩ := ordinary_keeps digest station.2 event ordinary
  refine ⟨enabled.trans keeps.enabled, keeps.onset, keeps.fired, fun onset known => ?_,
    fun onset known => ?_⟩
  · exact keeps.future onset (fun unknown => known ((same _).trans unknown))
  · exact keeps.current onset (fun unknown => known ((same _).trans unknown))

/-- **The passes do what the watch does**, and every blackout they confirmed is in the outbox. -/
theorem announced_eq (steps : List Passing) :
    ∀ (station : Station) (stretch : Watch.Stretching), Keeps station stretch (ticks steps) →
      (∀ step ∈ steps, step.Ordinary) →
      ((ticks steps).Pairwise fun early late => early.now ≤ late.now) →
      announced digest station steps = blackoutWatch.watch stretch (ticks steps) ∧
        ∀ onset ∈ announced digest station steps, ∃ time entry,
          (passAll digest station steps).2.2.row
            (alertId digest .relayBlackout (blackoutSubject onset) time) = some entry := by
  induction steps with
  | nil => exact fun _ _ _ _ _ => ⟨rfl, fun _ member => absurd member List.not_mem_nil⟩
  | cons step rest ih =>
      intro station stretch keeps ordinary ordered
      have ordinary' : ∀ step ∈ rest, step.Ordinary :=
        fun step member => ordinary step (List.mem_cons_of_mem _ member)
      cases step with
      | other event =>
          exact ih _ stretch (keeps.other digest event (ordinary _ List.mem_cons_self)) ordinary' ordered
      | pass tick =>
          have ordered' := List.pairwise_cons.mp ordered
          have onset : (station.1.onsetDue tick.rows tick.now).1 = true →
              (station.1.onsetDue tick.rows tick.now).2.onset.getD tick.now =
                beginning stretch tick := by
            intro due
            cases dark : allDisconnected tick.rows with
            | false => rw [onsetDue_light dark] at due; cases due
            | true => rw [onsetDue_dark dark, keeps.onset]; rfl
          rcases pass_step digest keeps ordered'.1 with
            ⟨light, idle, keeps'⟩ | ⟨dark, silent, quiet, keeps'⟩ |
              ⟨dark, unfired, confirms, due, sent, keeps', stamp⟩
          · obtain ⟨same, filed⟩ := ih _ none keeps' ordinary' ordered'.2
            have skipped : announced digest station (.pass tick :: rest) =
                announced digest (passing digest station (.pass tick)) rest :=
              if_neg fun both => absurd (both.1.symm.trans idle) (by decide)
            rw [skipped]
            refine ⟨same.trans ?_, filed⟩
            exact (if_neg (by rw [show blackoutWatch.dark tick = false from light]; decide)).symm
          · obtain ⟨same, filed⟩ := ih _ _ keeps' ordinary' ordered'.2
            have skipped : announced digest station (.pass tick :: rest) =
                announced digest (passing digest station (.pass tick)) rest := by
              refine if_neg fun both => quiet ⟨both.1, ?_⟩
              rw [← onset both.1]
              exact both.2
            rw [skipped]
            refine ⟨same.trans ?_, filed⟩
            exact ((if_pos dark).trans (if_neg silent)).symm
          · obtain ⟨same, filed⟩ := ih _ _ keeps' ordinary' ordered'.2
            have told : announced digest station (.pass tick :: rest) =
                beginning stretch tick ::
                  announced digest (passing digest station (.pass tick)) rest := by
              rw [← onset due] at sent ⊢
              exact if_pos ⟨due, sent⟩
            rw [told]
            refine ⟨?_, fun began member => ?_⟩
            · refine (congrArg _ same).trans ?_
              exact ((if_pos dark).trans (if_pos ⟨unfired, confirms⟩)).symm
            · rcases List.mem_cons.mp member with rfl | member
              · obtain ⟨entry, row⟩ := sent_row digest station.2 tick (beginning stretch tick)
                rw [← stamp] at row
                exact ⟨tick.at_, entry, passAll_keeps digest (blackoutId_begins digest _ _) rest _ row⟩
              · exact filed began member

end Step

/-! ### The theorem -/

/-- A new process: its monitor, and its dispatcher over the outbox it finds. -/
def awake (recipient : String) (outbox : Outbox) : Station :=
  (RelayBlackoutMonitor.new, booted recipient outbox)

/-- **One alert for each blackout.** Of the passes of one life, whatever else writes to the outbox
between them, the confirmed blackouts are the maximal dark stretches in which a pass past the threshold
could write, each once; and the alert about each is in the outbox from then on. -/
theorem one_alert_each (digest : String → String) (recipient : String) (outbox : Outbox)
    (steps : List Passing) (delivers : recipient ≠ "") (ordinary : ∀ step ∈ steps, step.Ordinary)
    (ordered : (ticks steps).Pairwise fun early late => early.now ≤ late.now) :
    announced digest (awake recipient outbox) steps = lastingBlackouts (ticks steps) ∧
      ∀ onset ∈ lastingBlackouts (ticks steps), ∃ time entry,
        (passAll digest (awake recipient outbox) steps).2.2.row
          (alertId digest .relayBlackout (blackoutSubject onset) time) = some entry := by
  have fresh : Keeps (awake recipient outbox) none (ticks steps) := by
    refine ⟨?_, rfl, rfl, fun _ known => absurd rfl known, fun _ known => absurd rfl known⟩
    show (true && !recipient.isEmpty) = true
    rw [Bool.true_and, Bool.not_eq_true']
    exact Bool.eq_false_iff.mpr fun empty => delivers (String.isEmpty_iff.mp empty)
  obtain ⟨same, filed⟩ := announced_eq digest steps _ none fresh ordinary ordered
  rw [← lastingBlackouts_eq] at same
  refine ⟨same, fun onset member => filed onset ?_⟩
  rwa [same]

/-- A pass in which the one relay is connected, or not. -/
def passAt (connected : Bool) (now : ℤ) (commits : Bool) : Passing :=
  .pass ⟨[⟨"wss://relay", connected, "", none⟩], now, now, commits⟩

/-- A blackout that could not be written at first, a recovery, and a short blackout. -/
def stormyPasses : List Passing :=
  [passAt false 0 true, passAt false 900 false, passAt false 1000 true, passAt false 1060 true,
    .other (.parked ⟨.refundParked, "refund:order", ""⟩ 1061), passAt true 1120 true,
    passAt false 1180 true, passAt true 1240 true]

theorem one_alert_each_stormy :
    announced (fun text => text) (awake "op" Table.empty) stormyPasses = [0] ∧
      announced (fun text => text) (awake "op" Table.empty) stormyPasses =
        lastingBlackouts (ticks stormyPasses) :=
  ⟨by decide +kernel, (one_alert_each _ "op" Table.empty stormyPasses (by decide)
    (by simp [stormyPasses, passAt, Passing.Ordinary]) (by decide)).1⟩

end Lnrent.Alerts
