/-
**A sweep pays once.** Executions and recovery drives interleave, with lookup errors, lost key rows,
crashes, the transactions of other modules and fences that the operator clears.

* `Honest` — a backend that tells how a payment ended tells the truth, and starts no second payment of
  a hash (`StartsOnce`); the operator who clears a fence tells the truth too;
* `Wrote` — everything a step of a task can do to the shared state;
* `Sound`, `Knows` — at most one row is PENDING, nothing is paid twice, and every row a task works on
  exists without a fence;
* `Current` — no call is made for a row that has failed, and no row fails by a status that a later
  payment has overtaken;
* `sweeps_pay_once` — **one sweep at a time, each invoice paid at most once, no fenced row touched**, and
  a cap released only where nothing was sent while every step is current;
* `cap_released_early` — a drive that fails a row under an execution that is about to pay it.
-/

import Lnrent.Daemon.Sweeper

namespace Lnrent.Release

open Relational Transition Ledger Sweeper

/-! ### The contract of the backend -/

/-- A status that says how the payment ended is the truth. -/
def Agrees (shared : Shared) (hash : ℕ) : Option PayStatus → Prop
  | some .succeeded => shared.outbound hash = .succeeded
  | some .failed => Dead shared hash
  | some .pending | some .unknown | none => True

instance (shared : Shared) (hash : ℕ) (status : Option PayStatus) :
    Decidable (Agrees shared hash status) :=
  match status with
  | some .succeeded => inferInstanceAs (Decidable (_ = _))
  | some .failed => inferInstanceAs (Decidable (Dead shared hash))
  | some .pending | some .unknown | none => .isTrue trivial

/-- **No second payment**: the backend starts one for a hash only while none is in flight and none has
succeeded. The key dedups. -/
def StartsOnce (shared : Shared) (hash : ℕ) (answer : Answer) : Prop :=
  answer.starts = true → Dead shared hash

instance (shared : Shared) (hash : ℕ) (answer : Answer) : Decidable (StartsOnce shared hash answer) :=
  inferInstanceAs (Decidable (_ → Dead shared hash))

/-- What a step is answered is the truth: by key, by reference, and by the call; and a call starts no
second payment. -/
def HonestAnswer (shared : Shared) (answer : Answer) : Phase → Prop
  | .looking task | .rechecking task => Agrees shared task.hash answer.status
  | .probing task => Agrees shared task.hash answer.probe
  | .paying task => StartsOnce shared task.hash answer
  | .awaiting task => answer.paid = true → shared.outbound task.hash = .succeeded
  | .quoting _ | .gating _ | .scanning | .validating _ | .authorising _ | .sending _
  | .failing _ _ => True

instance (shared : Shared) (answer : Answer) (phase : Phase) :
    Decidable (HonestAnswer shared answer phase) :=
  match phase with
  | .looking _ | .rechecking _ => inferInstanceAs (Decidable (Agrees _ _ _))
  | .probing _ => inferInstanceAs (Decidable (Agrees _ _ _))
  | .paying _ => inferInstanceAs (Decidable (StartsOnce _ _ _))
  | .awaiting _ => inferInstanceAs (Decidable (_ → _))
  | .quoting _ | .gating _ | .scanning | .validating _ | .authorising _ | .sending _
  | .failing _ _ => .isTrue trivial

/-- **An honest step.** The operator who clears the fence of a FAILED row has checked that the wallet
did not pay it. -/
def Honest (pool : Pool Shared Thread) : Schedule Request Answer Event → Prop
  | .advance id answer =>
      ∀ thread ∈ pool.threads.row id, HonestAnswer pool.shared answer thread.phase
  | .environment (.clearFence hash) =>
      ∀ row ∈ pool.shared.store.sweepAttempt.row hash, row.status = .failed → Dead pool.shared hash
  | .environment (.resolves _ _) | .environment (.elsewhere _) | .spawn _ | .drop _ | .crash => True

instance (pool : Pool Shared Thread) (choice : Schedule Request Answer Event) :
    Decidable (Honest pool choice) :=
  match choice with
  | .advance _ _ => inferInstanceAs (Decidable (∀ thread ∈ (_ : Option Thread), _))
  | .environment (.clearFence _) => inferInstanceAs (Decidable (∀ row ∈ (_ : Option _), _))
  | .environment (.resolves _ _) | .environment (.elsewhere _) | .spawn _ | .drop _ | .crash =>
      .isTrue trivial

/-! ### What a step writes -/

/-- **A step of a task**, by the phase it was in. -/
inductive Wrote (before : Shared) (answer : Answer) (phase : Phase) : Shared → Prop
  | kept : Wrote before answer phase before
  | gated {task : Task} {store : Store} (here : phase = .gating task)
      (proceeds : gateAndWrite before.store task answer.now = .proceed store) :
      Wrote before answer phase { before with store }
  | called {task : Task} (here : phase = .paying task) (once : StartsOnce before task.hash answer) :
      Wrote before answer phase (before.startPayment task.hash answer.starts)
  | sent {task : Task} (here : phase = .sending task) :
      Wrote before answer phase { before with store := commitSent before.store task.hash answer.now }
  | failed {task : Task} {sends : ℕ} (here : phase = .failing task sends)
      (stored : answer.storeError = false) :
      Wrote before answer phase { before with store := commitFailed before.store task.hash answer.now }

theorem advance_wrote (decode : Text → Option Invoice) {shared : Shared} {answer : Answer}
    {thread : Thread} (honest : HonestAnswer shared answer thread.phase) :
    Wrote shared answer thread.phase (advance decode shared answer thread).1 := by
  obtain ⟨phase, rest⟩ := thread
  cases phase with
  | gating task =>
      simp only [advance]
      split_ifs
      · exact .kept
      · cases decision : gateAndWrite shared.store task answer.now with
        | proceed store => exact .gated rfl decision
        | _ => exact .kept
  | paying task => exact .called rfl honest
  | sending task =>
      simp only [advance]
      split_ifs
      · exact .kept
      · exact .sent rfl
  | failing task sends =>
      simp only [advance]
      split_ifs with lost
      · exact .kept
      · exact .failed rfl (eq_false_of_ne_true lost)
  | quoting => exact .kept
  | scanning | validating | authorising | awaiting =>
      simp only [advance]
      split_ifs <;> exact .kept
  | looking | probing | rechecking =>
      simp only [advance]
      split <;> exact .kept

/-- The row exists, without a fence. -/
def Unfenced (shared : Shared) (hash : ℕ) : Prop :=
  ∃ row, shared.store.sweepAttempt.row hash = some row ∧ row.fenced = false

/-- **The table after a step**: one row at most is put, over none or an unfenced one. It is PENDING only
where no row was, and FAILED only where a failure was about to be written of a PENDING row. -/
inductive Rows (before : Shared) (answer : Answer) (phase : Phase) (after : Shared) : Prop
  | same (is : after.store.sweepAttempt = before.store.sweepAttempt)
  | put {hash : ℕ} {row : SweepRow}
      (is : after.store.sweepAttempt = before.store.sweepAttempt.put hash row)
      (unfenced : row.fenced = false)
      (was : ∀ old, before.store.sweepAttempt.row hash = some old → old.fenced = false)
      (pending : row.status = .pending →
        ∀ other old, before.store.sweepAttempt.row other = some old → old.status ≠ .pending)
      (failed : row.status = .failed → answer.storeError = false ∧
        ∃ task sends, phase = .failing task sends ∧ task.hash = hash ∧
          ∃ old, before.store.sweepAttempt.row hash = some old ∧ old.status = .pending)

theorem Wrote.rows {before after : Shared} {answer : Answer} {phase : Phase}
    (wrote : Wrote before answer phase after)
    (unfenced : ∀ task ∈ phase.task, Unfenced before task.hash) : Rows before answer phase after := by
  cases wrote with
  | kept => exact .same rfl
  | called here =>
      refine .same ?_
      unfold Shared.startPayment
      split_ifs <;> rfl
  | gated here proceeds =>
      obtain ⟨old, none, is⟩ := gateAndWrite_proceed proceeds
      exact .put is rfl (fun row found => (old row found).2) (fun _ => none) fun failed => by cases failed
  | @sent task here =>
      obtain ⟨row, found, open_⟩ := unfenced task (here ▸ rfl)
      obtain same | ⟨old, found', -, is⟩ := commitSent_cases before.store task.hash answer.now
      · exact .same (congrArg Store.sweepAttempt same)
      · cases found.symm.trans found'
        refine .put is open_ (fun old found' => ?_) (fun pending => by cases pending)
          fun failed => by cases failed
        cases found.symm.trans found'
        exact open_
  | @failed task sends here stored =>
      obtain ⟨row, found, open_⟩ := unfenced task (here ▸ rfl)
      obtain ⟨-, same⟩ | ⟨old, found', pending, is⟩ :=
        commitFailed_cases before.store task.hash answer.now
      · exact .same (congrArg Store.sweepAttempt same)
      · cases found.symm.trans found'
        refine .put is open_ (fun old found' => ?_) (fun pending => by cases pending)
          fun _ => ⟨stored, task, sends, here, rfl, row, found, pending⟩
        cases found.symm.trans found'
        exact open_

/-- **The payments after a step**: one is started, of a hash that has none alive, by a call. -/
theorem Wrote.payments {before after : Shared} {answer : Answer} {phase : Phase}
    (wrote : Wrote before answer phase after) :
    (after.outbound = before.outbound ∧ after.sends = before.sends ∧ after.paid = before.paid) ∨
      ∃ task, phase = .paying task ∧ answer.starts = true ∧ Dead before task.hash ∧
        after = { before with
          outbound := Function.update before.outbound task.hash .inFlight
          sends := Function.update before.sends task.hash (before.sends task.hash + 1) } := by
  cases wrote with
  | kept | gated | sent | failed => exact .inl ⟨rfl, rfl, rfl⟩
  | @called task here once =>
      unfold Shared.startPayment
      split_ifs with starts
      · exact .inr ⟨task, here, starts, once starts, rfl⟩
      · exact .inl ⟨rfl, rfl, rfl⟩

/-! ### What a task knows -/

/-- **What a task knows**: its rows are there without a fence, and a failure it is about to write was
true of the payments started so far. -/
structure Knows (shared : Shared) (thread : Thread) : Prop where
  unfenced : ∀ task ∈ thread.tasks, Unfenced shared task.hash
  evidence : ∀ task sends, thread.phase = .failing task sends → sends ≤ shared.sends task.hash ∧
    (shared.sends task.hash = sends → Dead shared task.hash)

/-- **What no step takes away**: an unfenced row, and the end of a payment unless another is
started. -/
structure Rely (before after : Shared) : Prop where
  unfenced : ∀ hash, Unfenced before hash → Unfenced after hash
  sends : ∀ hash, before.sends hash ≤ after.sends hash
  dead : ∀ hash, after.sends hash = before.sends hash → Dead before hash → Dead after hash

theorem Knows.mono {before after : Shared} {thread : Thread} (rely : Rely before after)
    (knows : Knows before thread) : Knows after thread where
  unfenced task member := rely.unfenced _ (knows.unfenced task member)
  evidence task sends failing := by
    obtain ⟨earlier, dead⟩ := knows.evidence task sends failing
    refine ⟨earlier.trans (rely.sends _), fun same => ?_⟩
    have still : before.sends task.hash = sends :=
      le_antisymm ((rely.sends _).trans same.le) earlier
    exact rely.dead _ (same.trans still.symm) (dead still)

theorem Knows.phase {shared : Shared} {thread : Thread} (knows : Knows shared thread) :
    ∀ task ∈ thread.phase.task, Unfenced shared task.hash := by
  intro task member
  refine knows.unfenced task (List.mem_append_left _ ?_)
  rw [member]
  exact List.mem_singleton_self task

theorem Rely.of_same {before after : Shared}
    (table : after.store.sweepAttempt = before.store.sweepAttempt)
    (outbound : after.outbound = before.outbound) (sends : after.sends = before.sends) :
    Rely before after where
  unfenced hash row := by
    unfold Unfenced
    rwa [table]
  sends hash := (congrFun sends hash).ge
  dead hash _ dead := by
    unfold Dead
    rwa [outbound]

theorem Wrote.rely {before after : Shared} {answer : Answer} {phase : Phase}
    (wrote : Wrote before answer phase after)
    (unfenced : ∀ task ∈ phase.task, Unfenced before task.hash) : Rely before after where
  unfenced hash row := by
    unfold Unfenced
    cases wrote.rows unfenced with
    | same is => rwa [is]
    | @put other value is open_ was pending failed =>
        rw [is, Table.put_row]
        split_ifs with same
        · exact ⟨value, rfl, open_⟩
        · exact row
  sends hash := by
    obtain ⟨-, same, -⟩ | ⟨task, -, -, -, rfl⟩ := wrote.payments
    · exact (congrFun same hash).ge
    · by_cases own : hash = task.hash
      · subst own
        simp
      · simp [own]
  dead hash same dead := by
    obtain ⟨outbound, -, -⟩ | ⟨task, -, -, -, rfl⟩ := wrote.payments
    · unfold Dead
      rwa [outbound]
    · by_cases own : hash = task.hash
      · subst own
        simp at same
      · unfold Dead
        simp only [Function.update_of_ne own]
        exact dead

/-- The task goes on with rows it already had, and with no failure to write. -/
theorem Knows.next {shared : Shared} {thread next : Thread} (knows : Knows shared thread)
    (tasks : ∀ task ∈ next.tasks, task ∈ thread.tasks)
    (quiet : ∀ task sends, next.phase ≠ .failing task sends) : Knows shared next where
  unfenced task member := knows.unfenced task (tasks task member)
  evidence task sends failing := absurd failing (quiet task sends)

/-- The backend told that the sweep failed. -/
theorem Knows.failing {shared : Shared} {phase : Phase} {rest : List Task} {task : Task}
    (knows : Knows shared ⟨phase, rest⟩) (own : phase.task = some task) (dead : Dead shared task.hash) :
    Knows shared ⟨.failing task (shared.sends task.hash), rest⟩ where
  unfenced other member := by
    refine knows.unfenced other ?_
    unfold Thread.tasks
    rw [own]
    exact member
  evidence other sends failing := by
    cases failing
    exact ⟨le_rfl, fun _ => dead⟩

/-- The task turns to the next row of its pass. -/
theorem Knows.following {shared : Shared} {thread : Thread} (knows : Knows shared thread) :
    ∀ next, Sweeper.following thread.rest = some next → Knows shared next := by
  obtain ⟨phase, rest⟩ := thread
  cases rest with
  | nil => exact fun _ is => by cases is
  | cons task rest =>
      rintro _ ⟨⟩
      refine knows.next (fun other member => List.mem_append_right _ ?_) fun _ _ is => by cases is
      exact member

theorem pendingSweeps_known {shared : Shared} :
    ∀ next, following (pendingSweeps shared) = some next → Knows shared next := by
  intro next is
  have scanned : Knows shared ⟨.scanning, pendingSweeps shared⟩ := by
    refine ⟨fun task member => ?_, fun _ _ failing => by cases failing⟩
    obtain ⟨row, found, -, open_⟩ := mem_pendingSweeps member
    exact ⟨row, found, open_⟩
  exact scanned.following next is

/-- **The next phase of a task that was told the truth.** -/
theorem advance_knows (decode : Text → Option Invoice) {shared : Shared} {answer : Answer}
    {thread : Thread} (honest : HonestAnswer shared answer thread.phase) (knows : Knows shared thread) :
    ∀ next, (advance decode shared answer thread).2 = some next →
      Knows (advance decode shared answer thread).1 next := by
  have rely := (advance_wrote decode honest).rely knows.phase
  obtain ⟨phase, rest⟩ := thread
  have on : ∀ after, after.task = phase.task → (∀ task sends, after ≠ .failing task sends) →
      Knows shared ⟨after, rest⟩ := by
    refine fun after same quiet => knows.next (fun task member => ?_) quiet
    unfold Thread.tasks at member ⊢
    rwa [← same]
  intro next is
  cases phase with
  | quoting bolt11 =>
      obtain ⟨task, -, rfl⟩ := Option.map_eq_some_iff.mp is
      exact on _ rfl fun _ _ same => by cases same
  | gating task =>
      cases failed : answer.storeError with
      | true => simp [advance, failed] at is
      | false =>
          cases decision : gateAndWrite shared.store task answer.now with
          | proceed store =>
              simp only [advance, failed, decision, Bool.false_eq_true, if_false] at is rely ⊢
              cases is
              obtain ⟨-, -, table⟩ := gateAndWrite_proceed decision
              refine ⟨fun other member => ?_, fun _ _ same => by cases same⟩
              obtain rfl | member := List.mem_cons.mp member
              · refine ⟨⟨other.bolt11, other.amountSat, other.maxOutlayMsat, .pending, 0, false⟩, ?_,
                  rfl⟩
                rw [table, Table.put_row_self]
              · exact rely.unfenced _ (knows.unfenced other member)
          | _ => simp [advance, failed, decision] at is
  | scanning =>
      simp only [advance] at is ⊢
      split_ifs at is ⊢
      exact pendingSweeps_known next is
  | looking task =>
      simp only [advance] at is ⊢
      cases status : answer.status with
      | none =>
          rw [status] at is
          cases is
          exact on _ rfl fun _ _ same => by cases same
      | some status' =>
          simp only [HonestAnswer, status] at honest
          rw [status] at is
          cases status' with
          | failed =>
              cases is
              exact knows.failing rfl honest
          | _ =>
              cases is
              exact on _ rfl fun _ _ same => by cases same
  | validating task =>
      simp only [advance] at is ⊢
      split_ifs at is ⊢ <;> cases is <;> exact on _ rfl fun _ _ same => by cases same
  | authorising task =>
      simp only [advance] at is ⊢
      split_ifs at is ⊢
      · cases is
        exact on _ rfl fun _ _ same => by cases same
      · exact knows.following next is
  | probing task =>
      simp only [advance] at is ⊢
      cases probe : answer.probe with
      | none =>
          rw [probe] at is
          exact knows.following next is
      | some probe' =>
          simp only [HonestAnswer, probe] at honest
          rw [probe] at is
          cases probe' with
          | succeeded =>
              cases is
              exact on _ rfl fun _ _ same => by cases same
          | failed =>
              cases is
              exact knows.failing rfl honest
          | _ => exact knows.following next is
  | paying task =>
      cases is
      exact (on (.awaiting task) rfl fun _ _ same => by cases same).mono rely
  | awaiting task =>
      simp only [advance] at is ⊢
      split_ifs at is ⊢ <;> cases is <;> exact on _ rfl fun _ _ same => by cases same
  | rechecking task =>
      simp only [advance] at is ⊢
      cases status : answer.status with
      | none =>
          rw [status] at is
          exact knows.following next is
      | some status' =>
          simp only [HonestAnswer, status] at honest
          rw [status] at is
          cases status' with
          | succeeded =>
              cases is
              exact on _ rfl fun _ _ same => by cases same
          | failed =>
              cases is
              exact knows.failing rfl honest
          | _ => exact knows.following next is
  | sending task =>
      simp only [advance] at is rely ⊢
      split_ifs at is rely ⊢
      exact (knows.following next is).mono rely
  | failing task sends =>
      simp only [advance] at is rely ⊢
      split_ifs at is rely ⊢
      exact (knows.following next is).mono rely

/-! ### The invariant -/

/-- One row at most is PENDING. -/
def OneSweep (shared : Shared) : Prop :=
  ∀ first second one two, shared.store.sweepAttempt.row first = some one →
    shared.store.sweepAttempt.row second = some two → one.status = .pending → two.status = .pending →
      first = second

/-- **The invariant**: one row at most is PENDING, and a hash that was paid has succeeded and was paid
once. -/
structure Sound (shared : Shared) : Prop where
  pending : OneSweep shared
  once : ∀ hash, shared.paid.count hash ≤ if shared.outbound hash = .succeeded then 1 else 0

section Sound

variable {before after : Shared}

theorem Sound.same_table (sound : Sound before)
    (table : after.store.sweepAttempt = before.store.sweepAttempt)
    (once : ∀ hash, after.paid.count hash ≤ if after.outbound hash = .succeeded then 1 else 0) :
    Sound after where
  pending := by
    unfold OneSweep
    rw [table]
    exact sound.pending
  once := once

theorem Sound.dead {hash : ℕ} (sound : Sound before) (dead : Dead before hash) :
    before.paid.count hash ≤ 0 := by
  have once := sound.once hash
  obtain none | failed := dead
  · simpa [none] using once
  · simpa [failed] using once

/-- A step of a task keeps the invariant. -/
theorem Sound.wrote {answer : Answer} {phase : Phase} (sound : Sound before)
    (wrote : Wrote before answer phase after)
    (unfenced : ∀ task ∈ phase.task, Unfenced before task.hash) : Sound after := by
  have once : ∀ hash, after.paid.count hash ≤ if after.outbound hash = .succeeded then 1 else 0 := by
    intro hash
    obtain ⟨outbound, -, paid⟩ | ⟨task, -, -, dead, rfl⟩ := wrote.payments
    · rw [outbound, paid]
      exact sound.once hash
    · by_cases own : hash = task.hash
      · subst own
        simpa using sound.dead dead
      · simpa [own] using sound.once hash
  cases wrote.rows unfenced with
  | same is => exact sound.same_table is once
  | @put hash row is open_ was pending failed =>
      refine ⟨fun first second one two here there => ?_, once⟩
      rw [is, Table.put_row] at here there
      split_ifs at here there with own own'
      · exact fun _ _ => own.trans own'.symm
      · cases here
        exact fun one' two' => absurd two' (pending one' second two there)
      · cases there
        exact fun one' two' => absurd one' (pending two' first one here)
      · exact sound.pending first second one two here there

/-- The fence of a row is cleared: its table. -/
theorem clearFence_table (store : Store) (hash : ℕ) :
    clearFence store hash = store ∨ ∃ row, store.sweepAttempt.row hash = some row ∧
      (clearFence store hash).sweepAttempt =
        store.sweepAttempt.put hash { row with fenced := false } := by
  unfold clearFence
  cases found : store.sweepAttempt.row hash with
  | none => exact .inl rfl
  | some row => exact .inr ⟨row, rfl, rfl⟩

theorem Sound.clearFence (sound : Sound before) (hash : ℕ) :
    Sound { before with store := clearFence before.store hash } := by
  obtain same | ⟨row, found, is⟩ := clearFence_table before.store hash
  · rw [same]
    exact sound
  · refine ⟨fun first second one two here there => ?_, sound.once⟩
    rw [is, Table.put_row] at here there
    split_ifs at here there with own own' own'
    · exact fun _ _ => own.trans own'.symm
    · cases here
      exact own ▸ sound.pending hash second row two found there
    · cases there
      exact own' ▸ sound.pending first hash one row here found
    · exact sound.pending first second one two here there

/-- The end of a payment. -/
theorem resolve_cases (shared : Shared) (hash : ℕ) (succeeds : Bool) :
    shared.resolve hash succeeds = shared ∨ shared.outbound hash = .inFlight ∧
      ((shared.resolve hash succeeds = { shared with
          outbound := Function.update shared.outbound hash .succeeded
          paid := hash :: shared.paid }) ∨
        shared.resolve hash succeeds = { shared with
          outbound := Function.update shared.outbound hash .failed }) := by
  unfold Shared.resolve
  split_ifs with flight succeeds
  · exact .inr ⟨flight, .inl rfl⟩
  · exact .inr ⟨flight, .inr rfl⟩
  · exact .inl rfl

theorem Sound.resolve (sound : Sound before) (hash : ℕ) (succeeds : Bool) :
    Sound (before.resolve hash succeeds) := by
  obtain same | ⟨flight, same | same⟩ := resolve_cases before hash succeeds
  · rw [same]
    exact sound
  all_goals
    have none : before.paid.count hash ≤ 0 := by
      simpa [flight] using sound.once hash
    rw [same]
    refine sound.same_table rfl fun other => ?_
    by_cases own : other = hash
  · subst own
    simpa using none
  · simpa [own, Ne.symm own] using sound.once other
  · subst own
    simpa using none
  · simpa [own] using sound.once other

end Sound

/-! ### The events -/

/-- What the environment does to the rows and the payments. -/
theorem event_rely (shared : Shared) (event : Event) (decode : Text → Option Invoice) (start : Shared) :
    Rely shared ((sweeper decode start).environment shared event) := by
  cases event with
  | resolves hash succeeds =>
      show Rely shared (shared.resolve hash succeeds)
      obtain same | ⟨flight, same | same⟩ := resolve_cases shared hash succeeds
      · rw [same]
        exact .of_same rfl rfl rfl
      all_goals
        rw [same]
        refine ⟨fun _ row => row, fun _ => le_rfl, fun other _ dead => ?_⟩
        have different : other ≠ hash := by
          rintro rfl
          obtain dead | dead := dead <;> cases flight.symm.trans dead
        unfold Dead
        simp only [Function.update_of_ne different]
        exact dead
  | clearFence hash =>
      show Rely shared { shared with store := clearFence shared.store hash }
      refine ⟨fun other row => ?_, fun _ => le_rfl, fun _ _ dead => dead⟩
      obtain same | ⟨old, found, is⟩ := clearFence_table shared.store hash
      · rwa [same]
      · unfold Unfenced
        rw [is, Table.put_row]
        split_ifs
        · exact ⟨_, rfl, rfl⟩
        · exact row
  | elsewhere other =>
      exact .of_same (other.elsewhere shared.store) rfl rfl

theorem event_sound {shared : Shared} (sound : Sound shared) (event : Event)
    (decode : Text → Option Invoice) (start : Shared) :
    Sound ((sweeper decode start).environment shared event) := by
  cases event with
  | resolves hash succeeds => exact sound.resolve hash succeeds
  | clearFence hash => exact sound.clearFence hash
  | elsewhere other => exact sound.same_table (other.elsewhere shared.store) sound.once

/-- **Where a run begins**: one row at most is PENDING, and nothing was paid yet. -/
structure Begins (start : Shared) : Prop where
  pending : OneSweep start
  unpaid : start.paid = []

/-- **The proof outline** of the sweeper. -/
theorem sweeper_outline (decode : Text → Option Invoice) {start : Shared} (begins : Begins start) :
    Outline (fun _ => Sound) (fun shared _ thread => Knows shared thread)
      (sweeper decode start) Honest where
  start := ⟨begins.pending, fun hash => by simp [sweeper, begins.unpaid]⟩
  spawn pool request _ asserted := by
    refine ⟨asserted.invariant, ?_, fun other sibling _ found => asserted.thread other sibling found⟩
    rintro _ ⟨⟩
    cases request <;>
      exact ⟨fun _ member => (by cases member), fun _ _ failing => (by cases failing)⟩
  advance pool id thread answer honest asserted found := by
    have knows := asserted.thread id thread found
    have wrote := advance_wrote decode (honest thread found)
    exact ⟨Sound.wrote asserted.invariant wrote knows.phase,
      advance_knows decode (honest thread found) knows,
      fun other sibling _ here => (asserted.thread other sibling here).mono (wrote.rely knows.phase)⟩
  drop pool id thread _ asserted _ :=
    ⟨asserted.invariant, fun _ is => (by cases is), fun other sibling _ found =>
      asserted.thread other sibling found⟩
  environment pool event _ asserted :=
    ⟨event_sound asserted.invariant event decode start, fun id thread found =>
      (asserted.thread id thread found).mono (event_rely pool.shared event decode start)⟩
  crash pool _ asserted := asserted.invariant

/-! ### Fenced rows -/

/-- The row has the fence it started with, and no payment of it was started. -/
def Untouched (start : Shared) (hash : ℕ) (row : SweepRow) (shared : Shared) : Prop :=
  shared.store.sweepAttempt.row hash = some row ∧ shared.sends hash = start.sends hash

theorem Untouched.wrote {start before after : Shared} {hash : ℕ} {row : SweepRow} {answer : Answer}
    {phase : Phase} (untouched : Untouched start hash row before) (fence : row.fenced = true)
    (wrote : Wrote before answer phase after)
    (unfenced : ∀ task ∈ phase.task, Unfenced before task.hash) : Untouched start hash row after := by
  obtain ⟨found, sends⟩ := untouched
  constructor
  · cases wrote.rows unfenced with
    | same is => rwa [is]
    | @put other value is open_ was pending failed =>
        have different : hash ≠ other := by
          rintro rfl
          exact absurd (fence.symm.trans (was row found)) (by simp)
        rwa [is, Table.put_row_other _ _ different]
  · obtain ⟨-, same, -⟩ | ⟨task, here, -, -, rfl⟩ := wrote.payments
    · rwa [same]
    · have different : hash ≠ task.hash := by
        rintro rfl
        obtain ⟨row', found', open_⟩ := unfenced task (here ▸ rfl)
        cases found.symm.trans found'
        exact absurd (fence.symm.trans open_) (by simp)
      simpa [different] using sends

theorem Untouched.event {start shared : Shared} {hash : ℕ} {row : SweepRow}
    (untouched : Untouched start hash row shared) (decode : Text → Option Invoice) {event : Event}
    (cleared : event ≠ .clearFence hash) :
    Untouched start hash row ((sweeper decode start).environment shared event) := by
  obtain ⟨found, sends⟩ := untouched
  cases event with
  | resolves other succeeds =>
      show Untouched start hash row (shared.resolve other succeeds)
      obtain same | ⟨-, same | same⟩ := resolve_cases shared other succeeds
      all_goals
        rw [same]
        exact ⟨found, sends⟩
  | clearFence other =>
      have different : hash ≠ other := fun same => cleared (same ▸ rfl)
      refine ⟨?_, sends⟩
      show (clearFence shared.store other).sweepAttempt.row hash = some row
      obtain same | ⟨old, -, is⟩ := clearFence_table shared.store other
      · rwa [same]
      · rwa [is, Table.put_row_other _ _ different]
  | elsewhere other => exact ⟨(congrArg (Table.row · hash) (other.elsewhere shared.store)).trans found, sends⟩

/-! ### The cap -/

/-- A call is made, or a failure written, in time: the row of the call has not failed, and no payment
was started since the status that a PENDING row is about to fail by. -/
def InTime (shared : Shared) (answer : Answer) : Phase → Prop
  | .paying task => answer.starts = true →
      ∀ row ∈ shared.store.sweepAttempt.row task.hash, row.status ≠ .failed
  | .failing task sends => answer.storeError = false →
      ∀ row ∈ shared.store.sweepAttempt.row task.hash, row.status = .pending →
        shared.sends task.hash = sends
  | .quoting _ | .gating _ | .scanning | .looking _ | .validating _ | .authorising _ | .probing _
  | .awaiting _ | .rechecking _ | .sending _ => True

/-- **A current step.** -/
def Current (pool : Pool Shared Thread) : Schedule Request Answer Event → Prop
  | .advance id answer => ∀ thread ∈ pool.threads.row id, InTime pool.shared answer thread.phase
  | .spawn _ | .drop _ | .environment _ | .crash => True

/-- **A cap is released only where nothing was sent**: no payment of a FAILED row without a fence is in
flight, and none has succeeded. -/
def Released (shared : Shared) : Prop :=
  ∀ hash row, shared.store.sweepAttempt.row hash = some row → row.status = .failed →
    row.fenced = false → Dead shared hash

theorem Released.wrote {before after : Shared} {answer : Answer} {thread : Thread}
    (released : Released before) (wrote : Wrote before answer thread.phase after)
    (knows : Knows before thread) (inTime : InTime before answer thread.phase) : Released after := by
  intro hash row found failed open_
  have dead : Dead before hash := by
    cases wrote.rows knows.phase with
    | same is =>
        rw [is] at found
        exact released hash row found failed open_
    | put is _ _ _ failing =>
        rw [is, Table.put_row] at found
        split_ifs at found with own
        · cases found
          obtain ⟨stored, task, sends, phase, rfl, old, found, pending⟩ := failing failed
          subst own
          rw [phase] at inTime
          exact (knows.evidence task sends phase).2 (inTime stored old found pending)
        · exact released hash row found failed open_
  obtain ⟨outbound, -, -⟩ | ⟨task, phase, starts, -, rfl⟩ := wrote.payments
  · unfold Dead
    rwa [outbound]
  · have different : hash ≠ task.hash := by
      rintro rfl
      rw [phase] at inTime
      exact inTime starts row found failed
    unfold Dead
    simp only [Function.update_of_ne different]
    exact dead

theorem Released.event {start shared : Shared} (released : Released shared)
    (decode : Text → Option Invoice) {event : Event}
    (honest : ∀ hash, event = .clearFence hash →
      ∀ row ∈ shared.store.sweepAttempt.row hash, row.status = .failed → Dead shared hash) :
    Released ((sweeper decode start).environment shared event) := by
  have rely := event_rely shared event decode start
  intro hash row found failed open_
  cases event with
  | resolves other succeeds =>
      have same : (shared.resolve other succeeds).store = shared.store ∧
          (shared.resolve other succeeds).sends = shared.sends := by
        obtain same | ⟨-, same | same⟩ := resolve_cases shared other succeeds <;>
          rw [same] <;> exact ⟨rfl, rfl⟩
      refine rely.dead hash (congrFun same.2 hash) (released hash row ?_ failed open_)
      exact (congrArg (fun store => store.sweepAttempt.row hash) same.1).symm.trans found
  | clearFence other =>
      change (clearFence shared.store other).sweepAttempt.row hash = some row at found
      show Dead shared hash
      obtain same | ⟨old, found', is⟩ := clearFence_table shared.store other
      · rw [same] at found
        exact released hash row found failed open_
      · rw [is, Table.put_row] at found
        split_ifs at found with own
        · cases found
          subst own
          exact honest _ rfl old found' failed
        · exact released hash row found failed open_
  | elsewhere other =>
      refine released hash row ?_ failed open_
      exact (congrArg (Table.row · hash) (other.elsewhere shared.store)).symm.trans found

/-! ### The result -/

/-- What a step does to the shared state is a task's, or the environment's. -/
theorem shared_step {property : Shared → Prop} {decode : Text → Option Invoice} {start : Shared}
    {pool : Pool Shared Thread} {choice : Schedule Request Answer Event} (holds : property pool.shared)
    (advanced : ∀ id thread answer, choice = .advance id answer → pool.threads.row id = some thread →
      property (advance decode pool.shared answer thread).1)
    (happened : ∀ event, choice = .environment event →
      property ((sweeper decode start).environment pool.shared event)) :
    property ((sweeper decode start).step pool choice).shared := by
  cases choice with
  | advance id answer =>
      cases found : pool.threads.row id with
      | none => simpa only [Program.step, found] using holds
      | some thread =>
          simp only [Program.step, found]
          exact advanced id thread answer rfl found
  | drop id =>
      cases found : pool.threads.row id with
      | none => simpa only [Program.step, found] using holds
      | some thread =>
          simp only [Program.step, found]
          exact holds
  | environment event => exact happened event rfl
  | spawn request => exact holds
  | crash => exact holds

/-- The fence of the row is not cleared. -/
def Uncleared (hash : ℕ) (_ : Pool Shared Thread) (choice : Schedule Request Answer Event) : Prop :=
  choice ≠ .environment (.clearFence hash)

/-- **A sweep pays once.** In every honest run one row at most is PENDING, each invoice is paid at most
once, and a fenced row is neither paid nor reset; and where every step is current, a cap is released
only where nothing was sent. -/
theorem sweeps_pay_once (decode : Text → Option Invoice) (start : Shared) (begins : Begins start)
    (choices : List (Schedule Request Answer Event))
    (honest : (sweeper decode start).machine.Meets Honest choices) :
    OneSweep ((sweeper decode start).machine.run choices).shared ∧
      (∀ hash, ((sweeper decode start).machine.run choices).shared.paid.count hash ≤ 1) ∧
      (∀ hash row, start.store.sweepAttempt.row hash = some row → row.fenced = true →
        (sweeper decode start).machine.Meets (Uncleared hash) choices →
          Untouched start hash row ((sweeper decode start).machine.run choices).shared) ∧
      (Released start → (sweeper decode start).machine.Meets Current choices →
        Released ((sweeper decode start).machine.run choices).shared) := by
  have outline := sweeper_outline decode begins
  have sound : Sound ((sweeper decode start).machine.run choices).shared :=
    (outline.asserted choices honest).invariant
  have known := outline.meets choices (sweeper decode start).machine.start
    (outline.asserted [] trivial) honest
  refine ⟨sound.pending, fun hash => ?_, fun hash row found fence uncleared => ?_,
    fun released current => ?_⟩
  · have once := sound.once hash
    split_ifs at once
    · exact once
    · exact once.trans zero_le_one
  · refine @Machine.invariant_from _ _ (sweeper decode start).machine _
      (fun pool => Untouched start hash row pool.shared) (fun pool choice meets untouched => ?_)
      choices (sweeper decode start).machine.start
      ((sweeper decode start).machine.meetsFrom_and choices _ known uncleared) ⟨found, rfl⟩
    obtain ⟨⟨honest, asserted⟩, uncleared⟩ := meets
    refine shared_step untouched (fun id thread answer is here => ?_) fun event is => ?_
    · subst is
      exact untouched.wrote fence (advance_wrote decode (honest thread here))
        (asserted.thread id thread here).phase
    · exact untouched.event decode fun same => uncleared (same ▸ is)
  · refine @Machine.invariant_from _ _ (sweeper decode start).machine _
      (fun pool => Released pool.shared) (fun pool choice meets released => ?_) choices (sweeper decode start).machine.start
      ((sweeper decode start).machine.meetsFrom_and choices _ known current) released
    obtain ⟨⟨honest, asserted⟩, current⟩ := meets
    refine shared_step released (fun id thread answer is here => ?_) fun event is => ?_
    · subst is
      exact released.wrote (advance_wrote decode (honest thread here))
        (asserted.thread id thread here) (current thread here)
    · subst is
      refine released.event decode fun hash same => ?_
      subst same
      exact honest

/-! ### Two runs -/

instance (shared : Shared) (answer : Answer) (phase : Phase) :
    Decidable (InTime shared answer phase) :=
  match phase with
  | .paying _ => inferInstanceAs (Decidable (_ → ∀ row ∈ (_ : Option SweepRow), _))
  | .failing _ _ => inferInstanceAs (Decidable (_ → ∀ row ∈ (_ : Option SweepRow), _))
  | .quoting _ | .gating _ | .scanning | .looking _ | .validating _ | .authorising _ | .probing _
  | .awaiting _ | .rechecking _ | .sending _ => .isTrue trivial

instance (pool : Pool Shared Thread) (choice : Schedule Request Answer Event) :
    Decidable (Current pool choice) :=
  match choice with
  | .advance _ _ => inferInstanceAs (Decidable (∀ thread ∈ (_ : Option Thread), _))
  | .spawn _ | .drop _ | .environment _ | .crash => .isTrue trivial

/-- A receipt of 50 sat, and nothing swept yet. -/
def funded : Shared where
  store :=
    { Store.empty with
      invoice := Table.empty.put (.other 0)
        ⟨0, none, .order, 0, some 50, some 50000, .paid, none, 0, some 0, some 0⟩ }
  outbound _ := .absent
  sends _ := 0
  paid := []

theorem begins_funded : Begins funded where
  pending first second one two here := by cases here
  unpaid := rfl

/-- Every invoice is for 10 sat, until 1000. -/
def plainDecode (bolt11 : Text) : Option Invoice :=
  some ⟨bolt11, 10, 1000⟩

/-- A refund of 25 sat is due. -/
def liability : Bystander where
  write store :=
    { store with
      refundAttempt := store.refundAttempt.put (.other 1)
        ⟨none, none, some 25, .pending, 0, none, none, 0, false⟩ }
  elsewhere _ := rfl

/-- A drive asks for the key of its row, which is lost; the surplus is short, the backend has nothing of
the payment, and the row fails. -/
def failing (id : ℕ) : List (Schedule Request Answer Event) :=
  [.spawn .drive, .advance id {}, .advance id {}, .advance id {},
    .advance id { probe := some .failed }, .advance id {}]

/-- An execution writes its row. -/
def intending (id : ℕ) (bolt11 : Text) (outlayMsat : ℕ) : List (Schedule Request Answer Event) :=
  [.spawn (.execute bolt11), .advance id { outlayMsat := some outlayMsat }, .advance id {}]

/-- The process crashes before the call, a drive fails the row, and the invoice is swept again. -/
def resubmitting : List (Schedule Request Answer Event) :=
  intending 0 1 20000 ++
    ([.environment (.elsewhere liability), .crash] : List (Schedule Request Answer Event)) ++
    failing 1 ++ intending 2 1 15000 ++
    ([.advance 2 { starts := true }, .environment (.resolves 1 true),
      .advance 2 { paid := true }, .advance 2 {}] : List (Schedule Request Answer Event))

theorem sweeps_pay_once_resubmitting :
    (sweeper plainDecode funded).machine.Meets Honest resubmitting ∧
      (sweeper plainDecode funded).machine.Meets Current resubmitting ∧
      Released ((sweeper plainDecode funded).machine.run resubmitting).shared := by
  have honest : (sweeper plainDecode funded).machine.Meets Honest resubmitting := by
    decide +kernel
  have current : (sweeper plainDecode funded).machine.Meets Current resubmitting := by
    decide +kernel
  refine ⟨honest, current, ?_⟩
  obtain ⟨-, -, -, released⟩ :=
    sweeps_pay_once plainDecode funded begins_funded resubmitting honest
  exact released (fun _ _ found => by cases found) current

/-- A drive fails the row of an execution that is about to call the backend; the payment succeeds, the
process crashes, and another invoice is swept. -/
def overtaking : List (Schedule Request Answer Event) :=
  intending 0 1 30000 ++ [.environment (.elsewhere liability)] ++ failing 1 ++
    [.advance 0 { starts := true }, .environment (.resolves 1 true), .crash] ++ intending 2 2 20000

/-- **The cap is released early**: the first invoice was paid, its row has FAILED, and another sweep has
started. -/
theorem cap_released_early :
    (sweeper plainDecode funded).machine.Meets Honest overtaking ∧
      ∃ first second, ((sweeper plainDecode funded).machine.run overtaking).shared.store.sweepAttempt.row
            1 = some first ∧
        first.status = .failed ∧ first.fenced = false ∧
        ((sweeper plainDecode funded).machine.run overtaking).shared.outbound 1 = .succeeded ∧
        ((sweeper plainDecode funded).machine.run overtaking).shared.store.sweepAttempt.row
            2 = some second ∧ second.status = .pending := by
  refine ⟨by decide +kernel, ⟨1, 10, 30000, .failed, 1, false⟩, ⟨2, 10, 20000, .pending, 0, false⟩, ?_⟩
  decide +kernel

end Lnrent.Release
