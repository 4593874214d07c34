/-
**A sweep spends nothing that is owed.** Executions and drives of the sweeper interleave with every
transaction of the daemon.

* `Writes`, `advance_writes` — what a step of the sweeper writes: one cap more, that the surplus covers;
* `Sparing` — the settlements are credited, and a success that is recorded over a failed sweep finds its
  cap in the surplus;
* `Solvent`, `solvent_step` — the invariant, and that each step spares every receipt;
* `owed_is_covered` — **what is owed is covered in every reachable state**, and a receipt without a
  refund path never gets one;
* `past_periods_counted` — the receipts of the past periods of a RESUMING subscription are not covered.
-/

import Lnrent.Daemon.Treasury
import Lnrent.Sweep.Sparing
import Lnrent.Sweep.Release
import Lnrent.Accounts.PaidOnce

namespace Lnrent.Solvency

open Relational Transition Ledger Receipts Sweeper

/-! ### What the sweeper writes -/

/-- What a sweep takes off the surplus. -/
def capMsat (row : SweepRow) : ℕ := if SweepCommitted row then row.maxOutlayMsat.toNat else 0

theorem capMsat_le (row : SweepRow) : capMsat row ≤ row.maxOutlayMsat.toNat := by
  unfold capMsat
  split_ifs
  · exact le_rfl
  · exact Nat.zero_le _

theorem sweepPayoutsMsat_eq (store : Store) :
    Sweep.sweepPayoutsMsat store none = store.sweepAttempt.sum fun _ => capMsat := by
  simp only [Sweep.sweepPayoutsMsat, ne_eq, reduceCtorEq, not_false_eq_true, and_true]
  rfl

/-- **What the sweeper writes**: nothing, or one row, whose cap is the one it had or is covered by the
surplus. -/
inductive Writes (store : Store) (now : ℤ) : Store → Prop where
  | kept : Writes store now store
  | put {hash : ℕ} {row : SweepRow} {log : Journal EventRow}
      (room : capMsat row ≤ (store.sweepAttempt.row hash).elim 0 capMsat +
        (Sweep.readSurplus store none).surplusMsat)
      (log_ : log = store.eventLog ∨ log = store.eventLog.append ⟨none, .sweep, {}, now⟩) :
      Writes store now
        { store with sweepAttempt := store.sweepAttempt.put hash row, eventLog := log }

/-- The gate writes a cap that the surplus covers. -/
theorem gate_writes {store after : Store} {task : Task} {now : ℤ}
    (proceeds : gateAndWrite store task now = .proceed after) : Writes store now after := by
  unfold gateAndWrite at proceeds
  split at proceeds
  · cases proceeds
  · cases proceeds
  · cases proceeds
  · split_ifs at proceeds with busy short
    cases proceeds
    refine .put ?_ (.inr rfl)
    have cap := capMsat_le ⟨task.bolt11, task.amountSat, task.maxOutlayMsat, .pending, 0, false⟩
    simp only [Int.toNat_natCast] at cap
    omega

/-- A success recorded over a FAILED sweep, which the surplus has its cap back from, finds the cap
there. -/
def Repaired (store : Store) (answer : Answer) : Phase → Prop
  | .sending task => answer.storeError = false →
      ∀ row ∈ store.sweepAttempt.row task.hash, row.status = .failed → row.fenced = false →
        row.maxOutlayMsat.toNat ≤ (Sweep.readSurplus store none).surplusMsat
  | .quoting _ | .gating _ | .scanning | .looking _ | .validating _ | .authorising _ | .probing _
  | .paying _ | .awaiting _ | .rechecking _ | .failing _ _ => True

theorem commitSent_writes {store : Store} {hash : ℕ} (now : ℤ)
    (repaired : ∀ row ∈ store.sweepAttempt.row hash, row.status = .failed → row.fenced = false →
      row.maxOutlayMsat.toNat ≤ (Sweep.readSurplus store none).surplusMsat) :
    Writes store now (commitSent store hash now) := by
  unfold commitSent
  cases found : store.sweepAttempt.row hash with
  | none => exact .kept
  | some row =>
      simp only
      split_ifs with sent
      · exact .kept
      refine .put ?_ (.inr rfl)
      have cap := capMsat_le { row with status := .sent, attempts := row.attempts + 1 }
      rw [found, Option.elim_some]
      by_cases committed : SweepCommitted row
      · rw [show capMsat row = row.maxOutlayMsat.toNat from if_pos committed]
        exact cap.trans (Nat.le_add_right _ _)
      · obtain ⟨-, unpending, unfenced⟩ : row.status ≠ .sent ∧ row.status ≠ .pending ∧
            ¬ row.fenced = true := by simpa [SweepCommitted, not_or] using committed
        have failed : row.status = .failed := by
          cases status : row.status with
          | failed => rfl
          | pending => exact absurd status unpending
          | sent => exact absurd status sent
        have covered := repaired row found failed (Bool.eq_false_of_not_eq_true unfenced)
        exact cap.trans (covered.trans (Nat.le_add_left _ _))

theorem commitFailed_writes (store : Store) (hash : ℕ) (now : ℤ) :
    Writes store now (commitFailed store hash now) := by
  unfold commitFailed
  cases found : store.sweepAttempt.row hash with
  | none => exact .kept
  | some row =>
      simp only
      split_ifs with pending
      · refine .put ?_ (.inr rfl)
        have cap := capMsat_le { row with status := .failed, attempts := row.attempts + 1 }
        rw [found, Option.elim_some, show capMsat row = row.maxOutlayMsat.toNat from
          if_pos (.inr (.inl pending))]
        exact cap.trans (Nat.le_add_right _ _)
      · exact .kept

theorem clearFence_writes (store : Store) (hash : ℕ) (now : ℤ) :
    Writes store now (clearFence store hash) := by
  unfold clearFence
  cases found : store.sweepAttempt.row hash with
  | none => exact .kept
  | some row =>
      refine .put ?_ (.inl rfl)
      rw [found, Option.elim_some]
      refine le_trans ?_ (Nat.le_add_right _ _)
      unfold capMsat
      split_ifs with committed uncommitted
      · exact le_rfl
      · refine absurd ?_ uncommitted
        rcases committed with sent | pending | fenced
        · exact .inl sent
        · exact .inr (.inl pending)
        · cases fenced
      · exact Nat.zero_le _
      · exact le_rfl

/-- **A step of the sweeper.** -/
theorem advance_writes (decode : Text → Option Invoice) {shared : Shared} {answer : Answer}
    {thread : Thread} (repaired : Repaired shared.store answer thread.phase) :
    Writes shared.store answer.now (advance decode shared answer thread).1.store := by
  obtain ⟨phase, rest⟩ := thread
  cases phase with
  | gating task =>
      simp only [advance]
      split_ifs
      · exact .kept
      · cases decision : gateAndWrite shared.store task answer.now with
        | proceed store => exact gate_writes decision
        | _ => exact .kept
  | sending task =>
      simp only [advance]
      split_ifs with lost
      · exact .kept
      · exact commitSent_writes answer.now (repaired (eq_false_of_ne_true lost))
  | failing task sends =>
      simp only [advance]
      split_ifs
      · exact .kept
      · exact commitFailed_writes shared.store task.hash answer.now
  | paying task =>
      simp only [advance, Shared.startPayment]
      split_ifs
      · exact .kept
      · exact .kept
  | quoting => exact .kept
  | scanning | validating | authorising | awaiting =>
      simp only [advance]
      split_ifs <;> exact .kept
  | looking | probing | rechecking =>
      simp only [advance]
      split <;> exact .kept

/-! ### The invariant -/

/-- **The treasury is solvent**: the receipts cover what is owed. -/
structure Solvent (treasury : Treasury) : Prop where
  sourced : Sourced treasury.world.store
  covered : Covered treasury.world.store
  sound : ∀ id, Billing.Sound id treasury.world

section Solvent

variable {store after : Store} {now : ℤ}

/-- No subscription and no receipt is touched. -/
theorem Writes.calms (writes : Writes store now after) : Calms store after := by
  cases writes with
  | kept => exact .refl store
  | put _ log =>
      rcases log with rfl | rfl
      · exact .of_calm (.aside rfl rfl (.refl _)) rfl (fun _ => .same _) fun _ _ _ _ => .refl
      · refine .of_calm (.aside rfl rfl (.append rfl rfl)) rfl (fun _ => .same _) fun id _ _ _ => ?_
        exact .append .refl _ (Billing.unread_of_kind id (show ¬ Billing.ResumeKind .sweep by decide))

/-- **It spends no more than the surplus**, which leaves what is owed. -/
theorem Writes.covered (writes : Writes store now after) (sourced : Sourced store)
    (covered : Covered store) : Covered after := by
  have spares := (sourced.calms writes.calms).2
  cases writes with
  | kept => exact covered
  | put room =>
      refine covered_of_spares (sourced.surplus_le le_rfl covered) spares ?_
      rw [sweepPayoutsMsat_eq, sweepPayoutsMsat_eq]
      exact Table.sum_put_le _ _ room

theorem Writes.sound (writes : Writes store now after) {id : OrderId} {world : World}
    (is : world.store = store) (sound : Billing.Sound id world) :
    Billing.Sound id { world with store := after } := by
  subst is
  cases writes with
  | kept => exact sound
  | @put hash row log _ log_ =>
      have grows : Billing.Extends id world.store.eventLog log := by
        rcases log_ with rfl | rfl
        · exact .refl
        · exact .append .refl _ (Billing.unread_of_kind id (show ¬ Billing.ResumeKind .sweep by decide))
      refine ⟨sound.beat, sound.stamped, sound.history, sound.ordered.extends grows, fun steady => ?_⟩
      exact grows.pending.trans (sound.settled steady)

theorem Solvent.writes {treasury : Treasury} {shared : Shared} (solvent : Solvent treasury)
    (writes : Writes treasury.world.store now shared.store) :
    Solvent (treasury.swept shared) ∧
      ∀ token, Spares treasury.world.store (treasury.swept shared).world.store token := by
  obtain ⟨sourced, spares⟩ := solvent.sourced.calms writes.calms
  exact ⟨⟨sourced, writes.covered solvent.sourced solvent.covered, fun id =>
    writes.sound rfl (solvent.sound id)⟩, spares⟩

end Solvent

/-! ### The runs -/

/-- **The condition on a step**: what the daemon captures is credited, and a success recorded over a
FAILED sweep is covered. -/
def Sparing (pool : Pool Treasury Thread) : Schedule Request Answer Treasury.Event → Prop
  | .environment (.daemon action) => Crediting pool.shared.world action
  | .advance id answer =>
      ∀ thread ∈ pool.threads.row id, Repaired pool.shared.world.store answer thread.phase
  | .environment (.resolves _ _) | .environment (.clearFence _) | .spawn _ | .drop _ | .crash => True

/-- **Each step spares every receipt.** -/
theorem solvent_step (decode : Text → Option Invoice) (intake : OrderIntake.Intake) (start : Treasury)
    (pool : Pool Treasury Thread) (choice : Schedule Request Answer Treasury.Event)
    (sparing : Sparing pool choice) (solvent : Solvent pool.shared) :
    Solvent ((treasury decode intake start).step pool choice).shared ∧ ∀ token,
      Spares pool.shared.world.store
        ((treasury decode intake start).step pool choice).shared.world.store token := by
  have idle : Solvent pool.shared ∧ ∀ token,
      Spares pool.shared.world.store pool.shared.world.store token :=
    ⟨solvent, .refl _⟩
  have daemon : ∀ action, Crediting pool.shared.world action →
      Solvent { pool.shared with world := pool.shared.world.step intake action } ∧ ∀ token,
        Spares pool.shared.world.store (pool.shared.world.step intake action).store token := by
    intro action crediting
    obtain ⟨sourced, spares⟩ :=
      Sourced.step intake pool.shared.world action crediting solvent.sound solvent.sourced
    refine ⟨⟨sourced, solvent.covered.spares spares ?_, fun id => ?_⟩, spares⟩
    · rw [Sweep.sweepPayoutsMsat, step_sweeps]
      rfl
    · exact Billing.sound_step intake pool.shared.world action (solvent.sound id)
  cases choice with
  | spawn => exact idle
  | advance id answer =>
      cases found : pool.threads.row id with
      | none =>
          simp only [Program.step, found]
          exact idle
      | some thread =>
          simp only [Program.step, found]
          have writes : Writes pool.shared.world.store answer.now
              (advance decode pool.shared.shared answer thread).1.store :=
            @advance_writes decode pool.shared.shared answer thread (sparing thread found)
          exact solvent.writes writes
  | drop id =>
      cases found : pool.threads.row id with
      | none =>
          simp only [Program.step, found]
          exact idle
      | some thread =>
          simp only [Program.step, found]
          exact idle
  | crash => exact daemon .crash fun _ _ none_ => by cases none_
  | environment event =>
      cases event with
      | daemon action => exact daemon action sparing
      | resolves hash succeeds =>
          have writes : Writes pool.shared.world.store 0
              (pool.shared.shared.resolve hash succeeds).store := by
            obtain same | ⟨-, same | same⟩ := Release.resolve_cases pool.shared.shared hash succeeds <;>
              rw [same] <;> exact .kept
          exact solvent.writes writes
      | clearFence hash => exact solvent.writes (clearFence_writes pool.shared.world.store hash 0)

theorem solvent_fresh (clock : ℤ) : Solvent (.fresh clock) where
  sourced :=
    { booked := booked_empty
      received := fun _ refunded => absurd rfl refunded
      owned := fun _ _ _ settled => by cases settled
      batches := fun _ _ _ found => by cases found }
  covered := by
    show Covered Store.empty
    decide
  sound id := Billing.sound_fresh id clock

theorem solvent_run (decode : Text → Option Invoice) (intake : OrderIntake.Intake) (start : Treasury)
    (pool : Pool Treasury Thread) (choices : List (Schedule Request Answer Treasury.Event))
    (sparing : (treasury decode intake start).machine.MeetsFrom Sparing pool choices)
    (solvent : Solvent pool.shared) :
    Solvent ((treasury decode intake start).machine.runFrom pool choices).shared :=
  (treasury decode intake start).machine.invariant_from
    (fun pool choice meets solvent => (solvent_step decode intake start pool choice meets solvent).1)
    choices pool sparing solvent

/-- **A sweep spends nothing that is owed.** In every reachable state the receipts cover, beside the caps
of the sweeps in flight or sent and the refunds that were sent, the refundable amount of every receipt
with a refund path; and a receipt that has none never gets one later. -/
theorem owed_is_covered (decode : Text → Option Invoice) (intake : OrderIntake.Intake) (clock : ℤ)
    (choices : List (Schedule Request Answer Treasury.Event))
    (sparing : (treasury decode intake (.fresh clock)).machine.Meets Sparing choices) :
    Covered ((treasury decode intake (.fresh clock)).machine.run choices).shared.world.store ∧
      ∀ first later, choices = first ++ later → ∀ token,
        Received ((treasury decode intake (.fresh clock)).machine.run first).shared.world.store token →
        ¬ Refundable ((treasury decode intake (.fresh clock)).machine.run first).shared.world.store token →
          ¬ Refundable
            ((treasury decode intake (.fresh clock)).machine.run choices).shared.world.store token := by
  have reached := solvent_run decode intake (.fresh clock)
    (treasury decode intake (.fresh clock)).machine.start
  refine ⟨(reached choices sparing (solvent_fresh clock)).covered, ?_⟩
  rintro first later rfl token received closed
  obtain ⟨before, after⟩ :=
    ((treasury decode intake (.fresh clock)).machine.meetsFrom_append first later _).mp sparing
  rw [Machine.run, Machine.runFrom_append]
  have final : Solvent _ ∧ Received _ token ∧ ¬ Refundable _ token :=
    (treasury decode intake (.fresh clock)).machine.invariant_from
      (fun pool choice meets (holds : Solvent pool.shared ∧ Received pool.shared.world.store token ∧
          ¬ Refundable pool.shared.world.store token) => by
        obtain ⟨solvent, received, closed⟩ := holds
        obtain ⟨next, spares⟩ := solvent_step decode intake (.fresh clock) pool choice meets solvent
        exact ⟨next, (spares token).final received closed⟩)
      later _ after ⟨reached first before (solvent_fresh clock), received, closed⟩
  exact final.2.2

/-! ### Three runs -/

instance (store : Store) (answer : Answer) (phase : Phase) : Decidable (Repaired store answer phase) :=
  match phase with
  | .sending _ => inferInstanceAs (Decidable (_ → ∀ row ∈ (_ : Option SweepRow), _))
  | .quoting _ | .gating _ | .scanning | .looking _ | .validating _ | .authorising _ | .probing _
  | .paying _ | .awaiting _ | .rechecking _ | .failing _ _ => .isTrue trivial

instance (pool : Pool Treasury Thread) (choice : Schedule Request Answer Treasury.Event) :
    Decidable (Sparing pool choice) :=
  match choice with
  | .environment (.daemon _) => inferInstanceAs (Decidable (Crediting _ _))
  | .advance _ _ => inferInstanceAs (Decidable (∀ thread ∈ (_ : Option Thread), _))
  | .environment (.resolves _ _) | .environment (.clearFence _) | .spawn _ | .drop _ | .crash =>
      .isTrue trivial

/-- A fresh daemon with the plain configuration. -/
def plainTreasury : Program Treasury Thread Request Answer Treasury.Event :=
  treasury Release.plainDecode plainIntake (.fresh 0)

/-- What the daemon does by itself. -/
def unswept (actions : List Action) : List (Schedule Request Answer Treasury.Event) :=
  actions.map fun action => .environment (.daemon action)

/-- An invoice is swept for the given outlay, and paid. -/
def sweeping (bolt11 : Text) (outlayMsat : ℕ) : List (Schedule Request Answer Treasury.Event) :=
  [.spawn (.execute bolt11), .advance 0 { outlayMsat := some outlayMsat }, .advance 0 {},
    .advance 0 { starts := true }, .environment (.resolves bolt11 true), .advance 0 { paid := true },
    .advance 0 {}]

/-- An order is served, and 40999 msat come in that nothing was issued for. -/
def owing (key : RequestKey) : List (Schedule Request Answer Treasury.Event) :=
  unswept (serving key ++ [.capture ⟨.other 7, 40, 40999, 6⟩])

/-- The order's payment is swept, and the other is refunded. -/
def repaying : List (Schedule Request Answer Treasury.Event) :=
  sweeping 1 21000 ++ unswept [.refundSent (.other 7)]

theorem owed_is_covered_repaying :
    plainTreasury.machine.Meets Sparing (owing ⟨1, 1⟩ ++ repaying) ∧
      owedMsat (plainTreasury.machine.run (owing ⟨1, 1⟩)).shared.world.store = 40000 ∧
      Covered (plainTreasury.machine.run (owing ⟨1, 1⟩ ++ repaying)).shared.world.store ∧
      ¬ Refundable (plainTreasury.machine.run (owing ⟨1, 1⟩ ++ repaying)).shared.world.store
        (.order ⟨1, 1⟩) := by
  have sparing : plainTreasury.machine.Meets Sparing (owing ⟨1, 1⟩ ++ repaying) := by
    decide +kernel
  have owed : owedMsat (plainTreasury.machine.run (owing ⟨1, 1⟩)).shared.world.store = 40000 := by
    decide +kernel
  have received : Received (plainTreasury.machine.run (owing ⟨1, 1⟩)).shared.world.store
      (.order ⟨1, 1⟩) := by
    decide +kernel
  have closed : ¬ Refundable (plainTreasury.machine.run (owing ⟨1, 1⟩)).shared.world.store
      (.order ⟨1, 1⟩) := by
    decide +kernel
  obtain ⟨covered, final⟩ := owed_is_covered Release.plainDecode plainIntake 0 _ sparing
  exact ⟨sparing, owed, covered, final (owing ⟨1, 1⟩) _ rfl _ received closed⟩

/-- The receipts cover what every receipt may be refunded that a refund not sent or a subscription in an
at-risk state has (`RefundPath`). -/
def CoveredAtRisk (store : Store) : Prop :=
  Sweep.sweepPayoutsMsat store none + sentMsat store + refundsMsat store (RefundPath store) ≤
    sumReceiptsMsat store

instance (store : Store) : Decidable (CoveredAtRisk store) := inferInstanceAs (Decidable (_ ≤ _))

/-- An order is served, and its payment is swept. -/
def emptied (key : RequestKey) : List (Schedule Request Answer Treasury.Event) :=
  unswept (serving key) ++ sweeping 1 21000

/-- It is suspended, and the renewal is paid late. -/
def resuming (key : RequestKey) : List (Schedule Request Answer Treasury.Event) :=
  unswept [.wait 90, .fire key (Accounts.unpaidAnswers 2), .wait 10, .fire key (Accounts.unpaidAnswers 3),
    .capture ⟨.renewAuto key 100, 21, 21000, 100⟩]

/-- A settlement of the order's invoice comes before the order, and is refunded; the order is placed and
paid. -/
def foreshadowed (key : RequestKey) : List (Schedule Request Answer Treasury.Event) :=
  unswept ([.boot, .list 0 plainListing, .capture ⟨.order key, 21, 21000, 0⟩, .refundSent (.order key)] ++
    ordering key (plainIssued 1 3600) ++ [.capture ⟨.order key, 21, 21000, 0⟩])

/-- **A RESUMING subscription counts its past periods**, though their receipts were free and are swept;
and an order whose token has a sent refund counts it once more. -/
theorem past_periods_counted :
    (plainTreasury.machine.Meets Sparing (emptied ⟨1, 1⟩ ++ resuming ⟨1, 1⟩) ∧
      ¬ CoveredAtRisk
        (plainTreasury.machine.run (emptied ⟨1, 1⟩ ++ resuming ⟨1, 1⟩)).shared.world.store ∧
      ¬ RefundPath (plainTreasury.machine.run (emptied ⟨1, 1⟩)).shared.world.store (.order ⟨1, 1⟩) ∧
      RefundPath (plainTreasury.machine.run (emptied ⟨1, 1⟩ ++ resuming ⟨1, 1⟩)).shared.world.store
        (.order ⟨1, 1⟩)) ∧
    plainTreasury.machine.Meets Sparing (foreshadowed ⟨1, 1⟩) ∧
      ¬ CoveredAtRisk (plainTreasury.machine.run (foreshadowed ⟨1, 1⟩)).shared.world.store := by
  decide +kernel

end Lnrent.Solvency
