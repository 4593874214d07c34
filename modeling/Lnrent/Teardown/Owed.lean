/-
**No failed teardown is forgotten.**

* `Followed` — after every entry of one kind the log has one of another;
* `Owed` — the invariant: an open dead letter belongs to a TERMINATED subscription and is due within 64
  minutes of the last run; without one, every failed termination has been made good;
* `owed_step`, `owed_run` — every step of every run keeps it;
* `Kept`, `teardowns_kept` — what an operator can rely on.

The hook's result is known before the swap that decides whether it matters, so the invariant remembers
the last run of the pass until the swap, and the dead letter is written in the swap's transaction.
-/

import Lnrent.Daemon.Teardown

namespace Lnrent.Teardown

open Relational Transition Reconcile Lifecycle

/-! ### Logs -/

section Followed

variable {first then_ : Entry → Prop} {log : List Entry} {entry : Entry}

/-- **After every `first` entry comes a `then_` entry**; the log has the latest first. -/
def Followed (first then_ : Entry → Prop) (log : List Entry) : Prop :=
  ∀ later mark earlier, log = later ++ mark :: earlier → first mark → ∃ other ∈ later, then_ other

theorem followed_nil : Followed first then_ [] := by
  intro later mark earlier split
  simp at split

/-- An entry that needs none. -/
theorem Followed.cons (followed : Followed first then_ log) (free : ¬ first entry) :
    Followed first then_ (entry :: log) := by
  intro later mark earlier split is
  cases later with
  | nil =>
      obtain rfl := (List.cons.inj split).1
      exact absurd is free
  | cons head tail =>
      obtain ⟨other, member, follows⟩ := followed tail mark earlier (List.cons.inj split).2 is
      exact ⟨other, List.mem_cons_of_mem _ member, follows⟩

/-- The last entry follows all of them. -/
theorem followed_of_head (free : ¬ first entry) (follows : then_ entry) :
    Followed first then_ (entry :: log) := by
  intro later mark earlier split is
  cases later with
  | nil =>
      obtain rfl := (List.cons.inj split).1
      exact absurd is free
  | cons head tail =>
      obtain rfl := (List.cons.inj split).1
      exact ⟨_, List.mem_cons_self, follows⟩

end Followed

/-- Every failed termination was followed by a successful run. -/
def Covered (log : List Entry) : Prop :=
  Followed (· = .terminated false) (fun entry => ∃ time, entry = .ran true time) log

/-- Every resolution was followed by a failed run. -/
def Reopened (log : List Entry) : Prop :=
  Followed (· = .resolved) (fun entry => ∃ time, entry = .ran false time) log

/-- The pass of the last run. -/
def lastRun : List Entry → Option ℤ
  | [] => none
  | .ran _ time :: _ => some time
  | _ :: earlier => lastRun earlier

/-! ### The dead letter -/

section Letter

variable {store after : Store} {id : OrderId}

/-- **A retry waits at most 64 minutes.** -/
theorem backoffS_le (attempts : ℕ) : backoffS attempts ≤ 64 * 60 := by
  unfold backoffS teardownRetryBaseS
  have capped : (2 : ℤ) ^ min attempts 6 ≤ 2 ^ 6 :=
    pow_le_pow_right₀ (by norm_num) (Nat.min_le_right attempts 6)
  linarith

theorem failedLetter_lastAttemptAt (before : Option Letter) (handles : Option Text) (now : ℤ) :
    (failedLetter before handles now).lastAttemptAt = now := by
  cases before <;> rfl

theorem open_congr (same : after.teardownFailure.row id = store.teardownFailure.row id) :
    Open after id ↔ Open store id := by
  rw [Open, Open, same]

theorem open_recorded : Open (recordTeardownFailure store id) id := by
  rw [Open, recordTeardownFailure, Table.put_row_self]
  rfl

theorem not_open_markResolved (now : ℤ) : ¬ Open (markResolved store id now) id := by
  unfold markResolved
  split_ifs with isOpen
  · rw [Open, Table.put_row_self]
    simp
  · exact isOpen

theorem markResolved_stateOf (now : ℤ) (other : OrderId) :
    (markResolved store id now).stateOf other = store.stateOf other := by
  unfold markResolved
  split_ifs <;> rfl

/-- The swap of a termination. -/
theorem terminateSwap_eq_some {due : Lifecycle.Due} (won : terminateSwap store id due = some after) :
    (store.stateOf id = some .suspended ∨ store.stateOf id = some .cancelled) ∧
      after.stateOf id = some .terminated ∧
      after.teardownFailure = store.teardownFailure := by
  unfold terminateSwap at won
  cases found : store.subscription.row id with
  | none => simp [found] at won
  | some row =>
      simp only [found] at won
      split_ifs at won with ready
      cases won
      refine ⟨?_, ?_, (Reservation.releaseTxn_frame ..).1.teardownFailure⟩
      · rw [Store.stateOf_of_found found]
        exact ready.1.imp (congrArg some) (congrArg some)
      · simp [Store.stateOf]

end Letter

/-! ### The invariant -/

/-- What the loop knows where it rests. -/
def PhaseOwed (id : OrderId) (site : Site) : Phase → Prop
  | .matching _ | .looking _ | .destroying _ => ¬ Open site.store id
  | .rechecking due succeeded | .terminating due succeeded _ =>
      ¬ Open site.store id ∧ site.log.head? = some (.ran succeeded due.now)
  | .owning letter now | .checking letter now | .retrying letter now =>
      Open site.store id ∧ site.letter = some letter ∧ Due letter now
  | .resolving now => Open site.store id ∧ site.log.head? = some (.ran true now)
  | .recording letter now =>
      Open site.store id ∧ site.letter = some letter ∧ site.log.head? = some (.ran false now)

/-- **What is owed, and what was made good.** -/
structure Owed (id : OrderId) (site : Site) : Prop where
  ended : Open site.store id → site.store.stateOf id = some .terminated
  covered : ¬ Open site.store id → Covered site.log
  reopened : Open site.store id → Reopened site.log
  earned : site.store.teardownFailure.row id ≠ none → ∃ succeeded, .terminated succeeded ∈ site.log
  due : Open site.store id → ∃ letter time, site.letter = some letter ∧ lastRun site.log = some time ∧
    letter.lastAttemptAt + backoffS letter.attempts ≤ time + 64 * 60
  phase : ∀ phase ∈ site.phase, PhaseOwed id site phase

section Step

variable {recipe : Recipe} {id : OrderId} {site : Site}

/-- The loop goes on, and nothing else happens. -/
theorem Owed.moved {phase : Option Phase} (owed : Owed id site)
    (knows : ∀ resting ∈ phase, PhaseOwed id site resting) : Owed id { site with phase } where
  ended := owed.ended
  covered := owed.covered
  reopened := owed.reopened
  earned := owed.earned
  due := owed.due
  phase resting member := by
    have known := knows resting member
    cases resting <;> exact known

theorem Owed.stopped (owed : Owed id site) : Owed id { site with phase := none } :=
  owed.moved (by simp)

theorem Owed.next {phase : Phase} (owed : Owed id site) (knows : PhaseOwed id site phase) :
    Owed id { site with phase := some phase } :=
  owed.moved fun resting member => by
    obtain rfl := Option.some.inj member
    exact knows

/-- A run of the hook is noted. -/
theorem Owed.ran {succeeded : Bool} {time : ℤ} {phase : Phase} (owed : Owed id site)
    (due : Open site.store id → ∀ letter, site.letter = some letter → Due letter time)
    (knows : PhaseOwed id { site with log := .ran succeeded time :: site.log } phase) :
    Owed id { site with phase := some phase, log := .ran succeeded time :: site.log } where
  ended := owed.ended
  covered isClosed := (owed.covered isClosed).cons (by simp)
  reopened isOpen := (owed.reopened isOpen).cons (by simp)
  earned row := by
    obtain ⟨result, member⟩ := owed.earned row
    exact ⟨result, List.mem_cons_of_mem _ member⟩
  due isOpen := by
    obtain ⟨letter, _, found, -⟩ := owed.due isOpen
    refine ⟨letter, time, found, rfl, ?_⟩
    have waited : letter.lastAttemptAt + backoffS letter.attempts ≤ time := due isOpen letter found
    linarith
  phase resting member := by
    obtain rfl := Option.some.inj member
    cases phase <;> exact knows

/-- **A failed run is recorded**, of a subscription that is TERMINATED. -/
theorem owed_recorded {store : Store} {handles : Option Text} {now : ℤ} {log : List Entry}
    (ended : store.stateOf id = some .terminated)
    (earned : ∃ succeeded, .terminated succeeded ∈ log) (reopened : Reopened log)
    (last : lastRun log = some now) :
    Owed id (Site.recordFailureTxn { site with store, phase := none, log } id handles now) where
  ended _ := ended
  covered isClosed := absurd open_recorded isClosed
  reopened _ := reopened
  earned _ := earned
  due _ := by
    refine ⟨failedLetter site.letter handles now, now, rfl, last, ?_⟩
    rw [failedLetter_lastAttemptAt]
    have capped := backoffS_le (failedLetter site.letter handles now).attempts
    linarith
  phase resting member := by simp [Site.recordFailureTxn] at member

/-- The head of a log is its last run. -/
theorem lastRun_of_head {log : List Entry} {succeeded : Bool} {time : ℤ}
    (head : log.head? = some (.ran succeeded time)) : lastRun log = some time := by
  cases log with
  | nil => cases head
  | cons entry rest =>
      obtain rfl := Option.some.inj head
      rfl

theorem reopened_of_head {log : List Entry} {time : ℤ} (head : log.head? = some (.ran false time)) :
    Reopened log := by
  cases log with
  | nil => cases head
  | cons entry rest =>
      obtain rfl := Option.some.inj head
      exact followed_of_head (by simp) ⟨time, rfl⟩

theorem covered_of_head {log : List Entry} {time : ℤ} (head : log.head? = some (.ran true time)) :
    Covered log := by
  cases log with
  | nil => cases head
  | cons entry rest =>
      obtain rfl := Option.some.inj head
      exact followed_of_head (by simp) ⟨time, rfl⟩

/-- **The termination's commit.** -/
theorem owed_terminating {due : Lifecycle.Due} {succeeded : Bool} {handles : Option Text}
    (answer : Answer) (owed : Owed id site)
    (knows : ¬ Open site.store id ∧ site.log.head? = some (.ran succeeded due.now)) :
    Owed id (advance recipe id site answer (.terminating due succeeded handles)) := by
  obtain ⟨isClosed, head⟩ := knows
  cases failed : answer.storeError with
  | true => simpa only [advance, failed, if_true] using owed.stopped
  | false =>
      simp only [advance, failed, Bool.false_eq_true, if_false]
      cases won : terminateSwap site.store id due with
      | none => exact owed.stopped
      | some store =>
          obtain ⟨-, ended, letters⟩ := terminateSwap_eq_some won
          have still : Open store id ↔ Open site.store id := open_congr (by rw [letters])
          cases succeeded with
          | true =>
              refine ⟨fun _ => ended, fun _ => ?_, fun isOpen => absurd (still.mp isOpen) isClosed,
                fun _ => ⟨true, List.mem_cons_self⟩, fun isOpen => absurd (still.mp isOpen) isClosed,
                by simp⟩
              exact (owed.covered isClosed).cons (by simp)
          | false =>
              refine owed_recorded ended ⟨false, List.mem_cons_self⟩ ?_ ?_
              · exact (reopened_of_head head).cons (by simp)
              · show lastRun site.log = some due.now
                exact lastRun_of_head head

/-- **The resolution.** -/
theorem owed_resolving {now : ℤ} (answer : Answer) (owed : Owed id site)
    (knows : Open site.store id ∧ site.log.head? = some (.ran true now)) :
    Owed id (advance recipe id site answer (.resolving now)) := by
  obtain ⟨isOpen, head⟩ := knows
  simp only [advance]
  split_ifs
  · exact owed.stopped
  · have isClosed : ¬ Open (markResolved site.store id now) id := not_open_markResolved now
    refine ⟨fun opened => absurd opened isClosed, fun _ => ?_, fun opened => absurd opened isClosed,
      fun _ => ?_, fun opened => absurd opened isClosed, by simp⟩
    · exact (covered_of_head head).cons (by simp)
    · have row : site.store.teardownFailure.row id ≠ none := by
        intro gone
        rw [Open, gone] at isOpen
        cases isOpen
      obtain ⟨succeeded, member⟩ := owed.earned row
      exact ⟨succeeded, List.mem_cons_of_mem _ member⟩

/-- **Every step of the loop keeps the invariant.** -/
theorem owed_advance (answer : Answer) {phase : Phase} (owed : Owed id site)
    (knows : PhaseOwed id site phase) : Owed id (advance recipe id site answer phase) := by
  cases phase with
  | matching due =>
      simp only [advance]
      split_ifs
      · exact owed.next knows
      · exact owed.stopped
  | looking due =>
      simp only [advance]
      split_ifs
      · exact owed.stopped
      · exact owed.next knows
  | destroying due =>
      simp only [advance]
      split_ifs
      · exact owed.stopped
      · exact owed.ran (fun isOpen => absurd isOpen knows) ⟨knows, rfl⟩
  | rechecking due succeeded =>
      simp only [advance]
      split_ifs
      · exact owed.stopped
      · exact owed.next knows
  | terminating due succeeded handles => exact owed_terminating answer owed knows
  | owning letter now =>
      simp only [advance]
      split_ifs
      · exact owed.next knows
      · exact owed.stopped
  | checking letter now =>
      simp only [advance]
      split_ifs
      · exact owed.next knows
      · exact owed.stopped
  | retrying letter now =>
      obtain ⟨isOpen, found, due⟩ := knows
      refine owed.ran (fun _ other same => ?_) ?_
      · obtain rfl := Option.some.inj (found.symm.trans same)
        exact due
      · cases answer.hookSucceeds with
        | true => exact ⟨isOpen, rfl⟩
        | false => exact ⟨isOpen, found, rfl⟩
  | resolving now => exact owed_resolving answer owed knows
  | recording letter now =>
      obtain ⟨isOpen, found, head⟩ := knows
      simp only [advance]
      split_ifs
      · exact owed.stopped
      · have row : site.store.teardownFailure.row id ≠ none := by
          intro gone
          rw [Open, gone] at isOpen
          cases isOpen
        exact owed_recorded (owed.ended isOpen) (owed.earned row) (reopened_of_head head)
          (lastRun_of_head head)

/-- Another module's transaction. -/
theorem owed_apart {store : Store} (owed : Owed id site) (apart : Apart id site.store store) :
    Owed id { site with store } := by
  have still : Open store id ↔ Open site.store id := open_congr apart.letter
  refine ⟨fun isOpen => ?_, fun isClosed => ?_, fun isOpen => ?_, fun row => ?_, fun isOpen => ?_,
    fun phase member => ?_⟩
  · exact apart.stays (owed.ended (still.mp isOpen)) (still.mp isOpen)
  · exact owed.covered fun isOpen => isClosed (still.mpr isOpen)
  · exact owed.reopened (still.mp isOpen)
  · exact owed.earned (by rwa [← apart.letter])
  · exact owed.due (still.mp isOpen)
  · have knows := owed.phase phase member
    cases phase with
    | matching due => exact fun isOpen => knows (still.mp isOpen)
    | looking due => exact fun isOpen => knows (still.mp isOpen)
    | destroying due => exact fun isOpen => knows (still.mp isOpen)
    | rechecking due succeeded => exact ⟨fun isOpen => knows.1 (still.mp isOpen), knows.2⟩
    | terminating due succeeded handles =>
        exact ⟨fun isOpen => knows.1 (still.mp isOpen), knows.2⟩
    | owning letter now => exact ⟨still.mpr knows.1, knows.2⟩
    | checking letter now => exact ⟨still.mpr knows.1, knows.2⟩
    | retrying letter now => exact ⟨still.mpr knows.1, knows.2⟩
    | resolving now => exact ⟨still.mpr knows.1, knows.2⟩
    | recording letter now => exact ⟨still.mpr knows.1, knows.2⟩

/-- **Every step keeps the invariant.** -/
theorem owed_step (event : Event id) (owed : Owed id site) : Owed id (step recipe id site event) := by
  cases event with
  | tick now =>
      simp only [step]
      split
      · rename_i row resting found
        split
        · exact owed
        · rename_i deadline cursor
          split_ifs with ready
          · refine owed.next fun isOpen => ?_
            have ended := owed.ended isOpen
            rw [Store.stateOf_of_found found] at ended
            rcases ready.1 with suspended | cancelled
            · rw [suspended] at ended
              cases ended
            · rw [cancelled] at ended
              cases ended
          · exact owed
      · exact owed
  | retry now =>
      simp only [step]
      split
      · rename_i letter resting found
        split_ifs with ready
        · exact owed.next ⟨ready.1, found, ready.2⟩
        · exact owed
      · exact owed
  | advance answer =>
      cases resting : site.phase with
      | none => simpa only [step, resting] using owed
      | some phase =>
          simp only [step, resting]
          exact owed_advance answer owed (owed.phase phase resting)
  | elsewhere other => exact owed_apart owed (other.apart site.store)
  | crash => exact owed.stopped

/-! ### Terminations -/

/-- **The history has the terminations of `fire_destroy`**, and the commit of one whose run failed
leaves an open dead letter of its own. -/
structure Noted (id : OrderId) (before after : Site) : Prop where
  recorded : before.store.stateOf id ≠ some .terminated ∧ after.store.stateOf id = some .terminated ↔
    ∃ succeeded, after.log = .terminated succeeded :: before.log
  committed : after.log = .terminated false :: before.log → Open after.store id ∧
    ∃ letter, after.letter = some letter ∧ lastRun before.log = some letter.lastAttemptAt

/-- A step that terminates nothing. -/
theorem Noted.none {before after : Site}
    (still : after.store.stateOf id = some .terminated → before.store.stateOf id = some .terminated)
    (log : ∀ succeeded, after.log ≠ .terminated succeeded :: before.log) : Noted id before after where
  recorded := iff_of_false (fun both => both.1 (still both.2)) fun entry =>
    log entry.choose entry.choose_spec
  committed entry := absurd entry (log false)

theorem Noted.same {before after : Site} (store : after.store = before.store)
    (log : ∀ succeeded, after.log ≠ .terminated succeeded :: before.log) : Noted id before after :=
  .none (fun ended => by rwa [store] at ended) log

theorem log_ne (entry : Entry) (log : List Entry) : log ≠ entry :: log :=
  (List.cons_ne_self entry log).symm

theorem noted_terminating {due : Lifecycle.Due} {succeeded : Bool} {handles : Option Text}
    (answer : Answer)
    (knows : ¬ Open site.store id ∧ site.log.head? = some (.ran succeeded due.now)) :
    Noted id site (advance recipe id site answer (.terminating due succeeded handles)) := by
  cases failed : answer.storeError with
  | true =>
      simp only [advance, failed, if_true]
      exact .same rfl fun _ => log_ne _ _
  | false =>
      simp only [advance, failed, Bool.false_eq_true, if_false]
      cases won : terminateSwap site.store id due with
      | none => exact .same rfl fun _ => log_ne _ _
      | some store =>
          obtain ⟨lapsed, ended, -⟩ := terminateSwap_eq_some won
          have live : site.store.stateOf id ≠ some .terminated := by
            rcases lapsed with suspended | cancelled
            · simp [suspended]
            · simp [cancelled]
          cases succeeded with
          | true => exact ⟨iff_of_true ⟨live, ended⟩ ⟨true, rfl⟩, by simp⟩
          | false =>
              refine ⟨iff_of_true ⟨live, ended⟩ ⟨false, rfl⟩, fun _ => ⟨open_recorded, _, rfl, ?_⟩⟩
              rw [failedLetter_lastAttemptAt]
              exact lastRun_of_head knows.2

/-- **Every step.** -/
theorem noted_step (event : Event id) (owed : Owed id site) :
    Noted id site (step recipe id site event) := by
  cases event with
  | tick now =>
      simp only [step]
      split
      · split
        · exact .same rfl fun _ => log_ne _ _
        · split_ifs
          · exact .same rfl fun _ => log_ne _ _
          · exact .same rfl fun _ => log_ne _ _
      · exact .same rfl fun _ => log_ne _ _
  | retry now =>
      simp only [step]
      split
      · split_ifs
        · exact .same rfl fun _ => log_ne _ _
        · exact .same rfl fun _ => log_ne _ _
      · exact .same rfl fun _ => log_ne _ _
  | advance answer =>
      cases resting : site.phase with
      | none =>
          simp only [step, resting]
          exact .same rfl fun _ => log_ne _ _
      | some phase =>
          simp only [step, resting]
          have knows := owed.phase phase resting
          cases phase with
          | terminating due succeeded handles => exact noted_terminating answer knows
          | destroying due =>
              simp only [advance]
              split_ifs
              · exact .same rfl fun _ => log_ne _ _
              · exact .same rfl (by simp)
          | retrying letter now => exact .same rfl (by simp [advance])
          | resolving now =>
              simp only [advance]
              split_ifs with error isOpen
              · exact .same rfl fun _ => log_ne _ _
              · exact .none (fun ended => by rwa [markResolved_stateOf] at ended) (by simp)
              · exact .none (fun ended => by rwa [markResolved_stateOf] at ended) fun _ => log_ne _ _
          | recording letter now =>
              simp only [advance]
              split_ifs
              · exact .same rfl fun _ => log_ne _ _
              · exact .none (fun ended => ended) fun _ => log_ne _ _
          | _ =>
              simp only [advance]
              split_ifs
              all_goals exact .same rfl fun _ => log_ne _ _
  | elsewhere other => exact .none (other.apart site.store).never fun _ => log_ne _ _
  | crash => exact .same rfl fun _ => log_ne _ _

end Step

/-! ### Runs -/

/-- **What an operator can rely on.** -/
structure Kept (id : OrderId) (site : Site) : Prop where
  /-- A termination whose own run failed was made good by a later run, or is owed. -/
  owed : ∀ later succeeded earlier, site.log = later ++ .terminated succeeded :: earlier →
    succeeded = true ∨ (∃ time, .ran true time ∈ later) ∨ Open site.store id
  /-- A dead letter comes from a termination. -/
  earned : site.store.teardownFailure.row id ≠ none → ∃ succeeded, .terminated succeeded ∈ site.log
  /-- A retry's hook runs for an ended subscription only. -/
  safe : ∀ letter now, site.phase = some (.retrying letter now) → TerminalOrAbsent site.store id
  /-- A resolved row is open again only after another failed run. -/
  resolved : Open site.store id → ∀ later earlier, site.log = later ++ .resolved :: earlier →
    ∃ time, .ran false time ∈ later
  /-- An open row is due at most 64 minutes after the last run. -/
  due : Open site.store id → ∃ letter time, site.letter = some letter ∧
    lastRun site.log = some time ∧ ∀ now, time + 64 * 60 ≤ now → Due letter now
  /-- The reaper leaves its subscription. -/
  spared : Open site.store id → ∀ cutoff,
    (Maintenance.reapTerminalRows site.store cutoff).subscription.row id =
      site.store.subscription.row id

theorem kept_of_owed {id : OrderId} {site : Site} (owed : Owed id site) : Kept id site where
  owed later succeeded earlier split := by
    cases succeeded with
    | true => exact .inl rfl
    | false =>
        by_cases isOpen : Open site.store id
        · exact .inr (.inr isOpen)
        · obtain ⟨_, member, time, rfl⟩ := owed.covered isOpen later _ earlier split rfl
          exact .inr (.inl ⟨time, member⟩)
  earned := owed.earned
  safe letter now resting := by
    obtain ⟨isOpen, -, -⟩ := owed.phase _ resting
    exact .inl (owed.ended isOpen)
  resolved isOpen later earlier split := by
    obtain ⟨_, member, time, rfl⟩ := owed.reopened isOpen later _ earlier split rfl
    exact ⟨time, member⟩
  due isOpen := by
    obtain ⟨letter, time, found, last, bound⟩ := owed.due isOpen
    refine ⟨letter, time, found, last, fun now late => ?_⟩
    show letter.lastAttemptAt + backoffS letter.attempts ≤ now
    linarith
  spared isOpen cutoff := reap_keeps cutoff isOpen

section Run

variable (recipe : Recipe) (id : OrderId) (start : Store)

theorem owed_run (events : List (Event id)) : Owed id ((teardown recipe id start).run events) := by
  refine (teardown recipe id start).invariant ?_ (fun site event => owed_step event) events
  have isClosed : ¬ Open ({ start with teardownFailure := Table.empty } : Store) id := by
    simp [Open]
  exact ⟨fun isOpen => absurd isOpen isClosed, fun _ => followed_nil,
    fun isOpen => absurd isOpen isClosed, fun row => absurd rfl row,
    fun isOpen => absurd isOpen isClosed, fun phase member => by cases member⟩

/-- **In every reachable state no failed teardown is forgotten**, and each step records the
terminations it commits, with the dead letter of a failed run. -/
theorem teardowns_kept (events : List (Event id)) :
    Kept id ((teardown recipe id start).run events) ∧ ∀ event,
      Noted id ((teardown recipe id start).run events)
        (step recipe id ((teardown recipe id start).run events) event) :=
  ⟨kept_of_owed (owed_run recipe id start events), fun event =>
    noted_step event (owed_run recipe id start events)⟩

end Run

end Lnrent.Teardown
