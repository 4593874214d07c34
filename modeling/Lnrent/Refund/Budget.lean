/-
**The retry budget of a refund.** Every drive that fails to pay bumps one column, and a definitive
failure that finds it at the cap parks the attempt.

* `failures`, `unclear`, `Clouded` — what the drives of an attempt came to since it last became PENDING;
* `Earned` — every attempt the pay-failure path parked had as many definitive failures as the cap;
* `Tallied`, `Moves.tallied` — **the invariant**: the column is the sum of the two kinds of endings;
* `earned_run` — **the parks of a run are earned exactly while no clouded attempt is exhausted**.
-/

import Lnrent.Daemon.Capture
import Lnrent.Daemon.Refunder

namespace Lnrent.Refunder

open Relational Transition Ledger Refund

/-! ### What the drives came to -/

/-- The definitive failures of an attempt since it last became PENDING; the latest note comes first. -/
def failures (externalId : ExternalId) : List (ExternalId × Note) → ℕ
  | [] => 0
  | (owner, note) :: older =>
      if owner = externalId then
        match note with
        | .requeued => 0
        | .definite => failures externalId older + 1
        | _ => failures externalId older
      else failures externalId older

/-- The drives since then whose payment stayed open. -/
def unclear (externalId : ExternalId) : List (ExternalId × Note) → ℕ
  | [] => 0
  | (owner, note) :: older =>
      if owner = externalId then
        match note with
        | .requeued => 0
        | .ambiguous => unclear externalId older + 1
        | _ => unclear externalId older
      else unclear externalId older

/-- One of them ended so before only a single definitive failure was missing. -/
def Clouded (externalId : ExternalId) : List (ExternalId × Note) → Prop
  | [] => False
  | (owner, note) :: older =>
      if owner = externalId then
        match note with
        | .requeued => False
        | .ambiguous => Clouded externalId older ∨ failures externalId older + 1 < maxRefundAttempts
        | _ => Clouded externalId older
      else Clouded externalId older

instance decidableClouded (externalId : ExternalId) :
    ∀ notes, Decidable (Clouded externalId notes)
  | [] => .isFalse id
  | (owner, note) :: older =>
      have := decidableClouded externalId older
      match note with
      | .requeued =>
          inferInstanceAs (Decidable (if owner = externalId then False else Clouded externalId older))
      | .ambiguous =>
          inferInstanceAs (Decidable (if owner = externalId then
            Clouded externalId older ∨ failures externalId older + 1 < maxRefundAttempts
            else Clouded externalId older))
      | .definite | .exhausted =>
          inferInstanceAs (Decidable (if owner = externalId then Clouded externalId older
            else Clouded externalId older))

/-- **Every park by the pay-failure path is earned**: the cap of definitive failures came before it. -/
def Earned : List (ExternalId × Note) → Prop
  | [] => True
  | (owner, note) :: older =>
      (note = .exhausted → maxRefundAttempts ≤ failures owner older) ∧ Earned older

instance decidableEarned : ∀ notes, Decidable (Earned notes)
  | [] => .isTrue trivial
  | (owner, note) :: older =>
      have := decidableEarned older
      inferInstanceAs (Decidable
        ((note = .exhausted → maxRefundAttempts ≤ failures owner older) ∧ Earned older))

section Notes

variable {externalId other : ExternalId} {note : Note} {notes : List (ExternalId × Note)}

theorem failures_other (different : other ≠ externalId) :
    failures externalId ((other, note) :: notes) = failures externalId notes :=
  if_neg different

theorem unclear_other (different : other ≠ externalId) :
    unclear externalId ((other, note) :: notes) = unclear externalId notes :=
  if_neg different

theorem clouded_other (different : other ≠ externalId) :
    Clouded externalId ((other, note) :: notes) ↔ Clouded externalId notes :=
  iff_of_eq (if_neg different)

theorem failures_self :
    failures externalId ((externalId, note) :: notes) =
      match note with
      | .requeued => 0
      | .definite => failures externalId notes + 1
      | _ => failures externalId notes :=
  if_pos rfl

theorem unclear_self :
    unclear externalId ((externalId, note) :: notes) =
      match note with
      | .requeued => 0
      | .ambiguous => unclear externalId notes + 1
      | _ => unclear externalId notes :=
  if_pos rfl

theorem clouded_self :
    Clouded externalId ((externalId, note) :: notes) ↔
      match note with
      | .requeued => False
      | .ambiguous =>
          Clouded externalId notes ∨ failures externalId notes + 1 < maxRefundAttempts
      | _ => Clouded externalId notes :=
  iff_of_eq (if_pos rfl)

end Notes

/-! ### The invariant -/

/-- What the notes say of an attempt in its present state. -/
structure Tally (notes : List (ExternalId × Note)) (externalId : ExternalId) (attempts : ℕ) :
    Prop where
  sum : attempts = failures externalId notes + unclear externalId notes
  room : Clouded externalId notes →
    failures externalId notes + 1 < maxRefundAttempts ∧ 0 < unclear externalId notes
  clear : ¬ Clouded externalId notes →
    unclear externalId notes = 0 ∨ maxRefundAttempts ≤ failures externalId notes + 1

/-- **The invariant**: the column of a PENDING attempt is its tally, and an attempt that does not exist
has none. -/
def Tallied (shared : Shared) : Prop :=
  ∀ externalId, match shared.store.refundAttempt.row externalId with
    | none => Tally shared.notes externalId 0
    | some row => row.status = .pending → Tally shared.notes externalId row.attempts

/-- What a step without an ending may do to a row: a PENDING attempt was PENDING with the same column,
or is new. -/
def Keeps (before after : Option RefundRow) : Prop :=
  match after with
  | none => before = none
  | some row => row.status = .pending →
      before = none ∧ row.attempts = 0 ∨
        ∃ old, before = some old ∧ old.status = .pending ∧ old.attempts = row.attempts

theorem Keeps.refl (row : Option RefundRow) : Keeps row row := by
  cases row with
  | none => exact rfl
  | some row => exact fun pending => .inr ⟨row, rfl, pending, rfl⟩

/-- **What a step does to the attempts and the notes.** -/
inductive Moves (shared : Shared) : Shared → Prop where
  | quiet {after : Shared} (notes : after.notes = shared.notes)
      (rows : ∀ externalId, Keeps (shared.store.refundAttempt.row externalId)
        (after.store.refundAttempt.row externalId)) : Moves shared after
  | requeued {after : Shared} {externalId : ExternalId} {row : RefundRow} (fresh : row.attempts = 0)
      (notes : after.notes = (externalId, .requeued) :: shared.notes)
      (rows : after.store.refundAttempt = shared.store.refundAttempt.put externalId row) :
      Moves shared after
  | counted {after : Shared} {externalId : ExternalId} {row : RefundRow}
      (found : shared.store.refundAttempt.row externalId = some row) (pending : row.status = .pending)
      (allowTerminal : Bool) (left : allowTerminal = false ∨ row.attempts + 1 < maxRefundAttempts)
      (notes : after.notes =
        (externalId, if allowTerminal then .definite else .ambiguous) :: shared.notes)
      (rows : after.store.refundAttempt =
        shared.store.refundAttempt.put externalId { row with attempts := row.attempts + 1 }) :
      Moves shared after
  | exhausted {after : Shared} {externalId : ExternalId} {row : RefundRow}
      (found : shared.store.refundAttempt.row externalId = some row) (pending : row.status = .pending)
      (spent : maxRefundAttempts ≤ row.attempts + 1)
      (notes : after.notes =
        (externalId, .exhausted) :: (externalId, .definite) :: shared.notes)
      (rows : after.store.refundAttempt = shared.store.refundAttempt.put externalId
        { row with status := .failed, attempts := row.attempts + 1 }) : Moves shared after

section Keeping

variable {shared after : Shared} {externalId : ExternalId}

theorem Tallied.of_keeps (tallied : Tallied shared) (notes : after.notes = shared.notes)
    (rows : ∀ externalId, Keeps (shared.store.refundAttempt.row externalId)
      (after.store.refundAttempt.row externalId)) : Tallied after := by
  intro externalId
  have known := tallied externalId
  have kept := rows externalId
  rw [notes]
  cases here : after.store.refundAttempt.row externalId with
  | none =>
      rw [here] at kept
      rw [show shared.store.refundAttempt.row externalId = none from kept] at known
      exact known
  | some row =>
      intro pending
      rw [here] at kept
      rcases kept pending with ⟨absent, unused⟩ | ⟨old, found, waiting, same⟩
      · rw [absent] at known
        rw [unused]
        exact known
      · rw [found] at known
        rw [← same]
        exact known waiting

/-- A note about one attempt says nothing about another. -/
theorem Tally.other {notes : List (ExternalId × Note)} {other : ExternalId} {note : Note}
    {attempts : ℕ} (tally : Tally notes externalId attempts) (different : other ≠ externalId) :
    Tally ((other, note) :: notes) externalId attempts := by
  obtain ⟨sum, room, clear⟩ := tally
  refine ⟨?_, ?_, ?_⟩
  · rw [failures_other different, unclear_other different]
    exact sum
  · rw [failures_other different, unclear_other different, clouded_other different]
    exact room
  · rw [failures_other different, unclear_other different, clouded_other different]
    exact clear

/-- The tallies of the attempts a step does not name. -/
theorem Tallied.others (tallied : Tallied shared) {row : RefundRow} {note : Note}
    (notes : after.notes = (externalId, note) :: shared.notes)
    (rows : after.store.refundAttempt = shared.store.refundAttempt.put externalId row)
    (self : row.status = .pending → Tally after.notes externalId row.attempts) : Tallied after := by
  intro other
  rw [rows]
  by_cases same : other = externalId
  · subst same
    rw [Table.put_row_self]
    exact self
  · rw [Table.put_row_other _ _ same, notes]
    have known := tallied other
    cases here : shared.store.refundAttempt.row other with
    | none =>
        rw [here] at known
        exact known.other (Ne.symm same)
    | some row =>
        rw [here] at known
        exact fun pending => (known pending).other (Ne.symm same)

theorem Tally.counted {notes : List (ExternalId × Note)} {attempts : ℕ}
    (tally : Tally notes externalId attempts) (allowTerminal : Bool)
    (left : allowTerminal = false ∨ attempts + 1 < maxRefundAttempts) :
    Tally ((externalId, if allowTerminal then .definite else .ambiguous) :: notes) externalId
      (attempts + 1) := by
  obtain ⟨sum, room, clear⟩ := tally
  cases allowTerminal with
  | false =>
      refine ⟨?_, ?_, ?_⟩ <;> simp only [Bool.false_eq_true, if_false, failures_self, unclear_self,
        clouded_self]
      · omega
      · rintro (clouded | early)
        · exact ⟨(room clouded).1, Nat.succ_pos _⟩
        · exact ⟨early, Nat.succ_pos _⟩
      · intro open_
        exact .inr (not_lt.mp fun early => open_ (.inr early))
  | true =>
      have within := left.resolve_left (by simp)
      refine ⟨?_, ?_, ?_⟩ <;> simp only [if_true, failures_self, unclear_self, clouded_self]
      · omega
      · intro clouded
        have := room clouded
        omega
      · intro open_
        have := clear open_
        omega

theorem Moves.tallied (moves : Moves shared after) (tallied : Tallied shared) : Tallied after := by
  cases moves with
  | quiet notes rows => exact tallied.of_keeps notes rows
  | requeued fresh notes rows =>
      refine tallied.others notes rows fun _ => ?_
      rw [fresh, notes]
      refine ⟨?_, ?_, ?_⟩ <;> simp [failures_self, unclear_self, clouded_self]
  | @counted externalId row found pending allowTerminal left notes rows =>
      refine tallied.others notes rows fun _ => ?_
      have known := tallied externalId
      rw [found] at known
      rw [notes]
      exact (known pending).counted allowTerminal left
  | @exhausted externalId row found pending spent notes rows =>
      intro other
      rw [rows]
      by_cases same : other = externalId
      · subst same
        rw [Table.put_row_self]
        exact fun waiting => by cases waiting
      · rw [Table.put_row_other _ _ same, notes]
        have known := tallied other
        cases here : shared.store.refundAttempt.row other with
        | none =>
            rw [here] at known
            exact (known.other (Ne.symm same)).other (Ne.symm same)
        | some row =>
            rw [here] at known
            exact fun pending => ((known pending).other (Ne.symm same)).other (Ne.symm same)

/-- A park is earned exactly when nothing clouded the budget. -/
theorem Tally.earned {notes : List (ExternalId × Note)} {attempts : ℕ}
    (tally : Tally notes externalId attempts) (spent : maxRefundAttempts ≤ attempts + 1) :
    maxRefundAttempts ≤ failures externalId ((externalId, .definite) :: notes) ↔
      ¬ Clouded externalId notes := by
  obtain ⟨sum, room, clear⟩ := tally
  rw [failures_self]
  show maxRefundAttempts ≤ failures externalId notes + 1 ↔ _
  constructor
  · intro enough clouded
    have := room clouded
    omega
  · intro open_
    rcases clear open_ with none | enough
    · omega
    · exact enough

end Keeping

/-! ### The steps -/

/-- The store job that runs at a choice of the scheduler. -/
def job (pool : Pool Shared (Option Drive)) :
    Schedule ExternalId Answer Event → Option Drive
  | .advance id .stored => (pool.threads.row id).join
  | .environment .late => pool.shared.orphans.head?
  | _ => none

/-- **The drive commits a definitive failure that finds the budget at its cap.** -/
def Exhausts (shared : Shared) (drive : Drive) : Prop :=
  drive.phase = .committing (.unpaid true) ∧
    ∃ row ∈ shared.store.refundAttempt.row drive.externalId,
      row.status = .pending ∧ maxRefundAttempts ≤ row.attempts + 1

instance (shared : Shared) (drive : Drive) : Decidable (Exhausts shared drive) :=
  inferInstanceAs (Decidable (_ ∧ ∃ row ∈ shared.store.refundAttempt.row drive.externalId,
    row.status = .pending ∧ maxRefundAttempts ≤ row.attempts + 1))

/-- **The condition**: no attempt is exhausted while its budget is clouded. -/
def Unclouded (pool : Pool Shared (Option Drive)) (choice : Schedule ExternalId Answer Event) : Prop :=
  ∀ drive ∈ job pool choice, Exhausts pool.shared drive →
    ¬ Clouded drive.externalId pool.shared.notes

instance (pool : Pool Shared (Option Drive)) (choice : Schedule ExternalId Answer Event) :
    Decidable (Unclouded pool choice) :=
  inferInstanceAs (Decidable (∀ drive ∈ job pool choice, Exhausts pool.shared drive →
    ¬ Clouded drive.externalId pool.shared.notes))

/-- A step with what it owes to the two properties: how it moves, and that it parks an attempt by the
pay-failure path only as the job of that attempt. -/
structure Fair (shared after : Shared) (job : Option Drive) : Prop where
  moves : Moves shared after
  exact : Tallied shared → (Earned after.notes ↔
    Earned shared.notes ∧ ∀ drive ∈ job, Exhausts shared drive →
      ¬ Clouded drive.externalId shared.notes)

section Steps

variable {shared after : Shared} {drive : Drive} {seams : Seams}

/-- A step without an ending, whose job exhausts nothing. -/
theorem Fair.quiet {job : Option Drive} (notes : after.notes = shared.notes)
    (rows : ∀ externalId, Keeps (shared.store.refundAttempt.row externalId)
      (after.store.refundAttempt.row externalId))
    (idle : ∀ drive ∈ job, ¬ Exhausts shared drive) : Fair shared after job := by
  refine ⟨.quiet notes rows, fun _ => ?_⟩
  rw [notes]
  exact (and_iff_left fun drive member exhausts => absurd exhausts (idle drive member)).symm

/-- Where no store job runs, none exhausts an attempt. -/
theorem idle_none : ∀ drive ∈ (none : Option Drive), ¬ Exhausts shared drive := by
  simp

/-- A step that leaves the attempts and the notes alone. -/
theorem Fair.same {job : Option Drive} (notes : after.notes = shared.notes)
    (rows : after.store.refundAttempt = shared.store.refundAttempt)
    (idle : ∀ drive ∈ job, ¬ Exhausts shared drive) : Fair shared after job :=
  .quiet notes (fun externalId => by rw [rows]; exact .refl _) idle

theorem keeps_put {row : RefundRow} {externalId : ExternalId} (store : Store)
    (kept : Keeps (store.refundAttempt.row externalId) (some row)) (other : ExternalId) :
    Keeps (store.refundAttempt.row other) ((store.refundAttempt.put externalId row).row other) := by
  by_cases same : other = externalId
  · subst same
    rw [Table.put_row_self]
    exact kept
  · rw [Table.put_row_other _ _ same]
    exact .refl _

/-- A row that is not PENDING any more. -/
theorem keeps_ended {row : RefundRow} (before : Option RefundRow) (ended : row.status ≠ .pending) :
    Keeps before (some row) :=
  fun pending => absurd pending ended

/-- The attempts after a refund was paid. -/
theorem noted_closes_attempts {store closed : Store} {externalId : ExternalId} {row : RefundRow}
    {now : ℤ} (closes : Closes store externalId row now closed) :
    (noted closed externalId row.subscriptionId .refundSent now).refundAttempt =
      store.refundAttempt.put externalId (sentAttempt row) := by
  unfold noted journal
  rw [(Store.log_frame ..).2.1, (Refund.enqueueRefund_frame ..).2.1]
  cases closes with
  | detached => rfl
  | closed owner found due => exact (Reservation.releaseTxn_frame ..).2.1

theorem keeps_of_committed {store after : Store} {externalId : ExternalId} {now : ℤ}
    (closes : ∃ row closed, store.refundAttempt.row externalId = some row ∧
      Closes store externalId row now closed ∧ after = noted closed externalId row.subscriptionId
        .refundSent now) (other : ExternalId) :
    Keeps (store.refundAttempt.row other) (after.refundAttempt.row other) := by
  obtain ⟨row, closed, found, closes, rfl⟩ := closes
  rw [noted_closes_attempts closes]
  exact keeps_put store (keeps_ended _ (by simp [sentAttempt])) other

theorem sent_fair (committing : drive.phase = .committing .sent) :
    Fair shared (shared.finish drive.externalId drive.now .sent) (some drive) := by
  refine .quiet rfl ?_ ?_
  · rcases commitSent_cases shared.store drive.externalId drive.now with same | closes
    · intro other
      show Keeps _ ((commitSent shared.store drive.externalId drive.now).2.refundAttempt.row other)
      rw [same]
      exact .refl _
    · obtain ⟨row, closed, found, pending, closes, same⟩ := closes
      exact keeps_of_committed ⟨row, closed, found, closes, same⟩
  · rintro _ ⟨⟩ exhausts
    cases committing.symm.trans exhausts.1

/-- The attempts after one was parked. -/
theorem failed_attempts (store : Store) (externalId : ExternalId) (row : RefundRow)
    (subscription : Option OrderId) (now : ℤ) :
    (enqueueFailedRefund (putAttempt store externalId row) externalId subscription now).refundAttempt =
      store.refundAttempt.put externalId row := by
  simp only [enqueueFailedRefund, journal, Store.log_frame, Refund.enqueueRefund_frame]
  rfl

theorem parked_fair (committing : drive.phase = .committing .parked) :
    Fair shared (shared.finish drive.externalId drive.now .parked) (some drive) := by
  refine .quiet rfl ?_ ?_
  · intro other
    show Keeps _ ((commitParkFailed shared.store drive.externalId drive.now).2.refundAttempt.row other)
    unfold commitParkFailed
    split
    · exact .refl _
    · split
      · simp only [failed_attempts]
        exact keeps_put shared.store (keeps_ended _ (by simp)) other
      · exact .refl _
  · rintro _ ⟨⟩ exhausts
    cases committing.symm.trans exhausts.1

theorem deferred_fair (committing : drive.phase = .committing .deferred) :
    Fair shared (shared.finish drive.externalId drive.now .deferred) (some drive) := by
  refine .same rfl ?_ ?_
  · show (commitResolutionRetry shared.store drive.externalId drive.now).2.refundAttempt = _
    unfold commitResolutionRetry
    split
    · rfl
    · split <;> rfl
  · rintro _ ⟨⟩ exhausts
    cases committing.symm.trans exhausts.1

/-- A failed payment is counted, or parks the attempt, or finds it ended. -/
theorem unpaid_fair {allowTerminal : Bool}
    (committing : drive.phase = .committing (.unpaid allowTerminal)) :
    Fair shared (shared.finish drive.externalId drive.now (.unpaid allowTerminal)) (some drive) := by
  unfold Shared.finish commitPayFailure
  cases found : shared.store.refundAttempt.row drive.externalId with
  | none =>
      refine .same rfl rfl ?_
      rintro _ ⟨⟩ ⟨-, row, member, -⟩
      cases found.symm.trans member
  | some row =>
      by_cases pending : row.status = .pending
      · by_cases left : allowTerminal = false ∨ row.attempts + 1 < maxRefundAttempts
        · simp only [if_pos pending, if_pos left]
          refine ⟨.counted found pending allowTerminal left rfl rfl, fun _ => ?_⟩
          have open_ : ¬ Exhausts shared drive := by
            rintro ⟨phase, row', member, -, spent⟩
            cases found.symm.trans member
            rcases left with ambiguous | room
            · rw [ambiguous] at committing
              cases committing.symm.trans phase
            · omega
          have earned : Earned ((drive.externalId, if allowTerminal then .definite else .ambiguous)
              :: shared.notes) ↔ Earned shared.notes :=
            and_iff_right (by cases allowTerminal <;> simp)
          refine earned.trans (and_iff_left ?_).symm
          rintro _ ⟨⟩ exhausts
          exact absurd exhausts open_
        · simp only [if_pos pending, if_neg left]
          obtain ⟨terminal, spent⟩ := not_or.mp left
          rw [Bool.not_eq_false] at terminal
          subst terminal
          refine ⟨.exhausted found pending (not_lt.mp spent) rfl (failed_attempts ..),
            fun tallied => ?_⟩
          · have known := tallied drive.externalId
            rw [found] at known
            have exact_ := (known pending).earned (not_lt.mp spent)
            constructor
            · rintro ⟨enough, -, earned⟩
              refine ⟨earned, ?_⟩
              rintro _ ⟨⟩ -
              exact exact_.mp (enough rfl)
            · rintro ⟨earned, unclouded⟩
              refine ⟨fun _ => exact_.mpr (unclouded drive rfl ?_), by simp, earned⟩
              exact ⟨committing, row, found, pending, not_lt.mp spent⟩
      · simp only [if_neg pending]
        refine .same rfl rfl ?_
        rintro _ ⟨⟩ ⟨-, row', member, waiting, -⟩
        cases found.symm.trans member
        exact pending waiting

/-- Persisting a resolution keeps the attempt PENDING, with its column. -/
theorem persisted_keeps (store : Store) (externalId : ExternalId) (resolved : Resolved)
    (generation : ℕ) (other : ExternalId) :
    Keeps (store.refundAttempt.row other)
      ((persistResolution store externalId resolved generation).2.refundAttempt.row other) := by
  unfold persistResolution
  cases found : store.refundAttempt.row externalId with
  | none => exact .refl _
  | some row =>
      by_cases pending : row.status = .pending
      · simp only [if_pos pending]
        refine keeps_put store ?_ other
        exact fun _ => .inr ⟨row, found, pending, rfl⟩
      · simp only [if_neg pending]
        exact .refl _

/-- **A store job** moves the attempts fairly. -/
theorem write_fair (shared : Shared) (drive : Drive) :
    Fair shared (shared.write drive).1 (some drive) := by
  unfold Shared.write
  cases phase : drive.phase with
  | persisting resolved payment =>
      refine .quiet rfl (persisted_keeps _ _ _ _) ?_
      rintro _ ⟨⟩ exhausts
      cases phase.symm.trans exhausts.1
  | committing final =>
      cases final with
      | sent => exact sent_fair phase
      | parked => exact parked_fair phase
      | deferred => exact deferred_fair phase
      | unpaid allowTerminal => exact unpaid_fair phase
  | _ =>
      refine .same rfl rfl ?_
      rintro _ ⟨⟩ exhausts
      cases phase.symm.trans exhausts.1

/-- A stretch of a drive is its store job, or leaves the attempts and the notes alone. -/
theorem advance_shared (seams : Seams) (shared : Shared) (drive : Drive) (answer : Answer) :
    answer = .stored ∧ (drive.advance seams shared answer).1 = (shared.write drive).1 ∨
      (∀ final, drive.phase = .committing final → answer ≠ .stored) ∧
        (drive.advance seams shared answer).1.notes = shared.notes ∧
        (drive.advance seams shared answer).1.store = shared.store := by
  have sent : ∀ key, (shared.send key).notes = shared.notes ∧
      (shared.send key).store = shared.store := by
    intro key
    unfold Shared.send
    split <;> exact ⟨rfl, rfl⟩
  unfold Drive.advance
  cases phase : drive.phase with
  | committing final =>
      cases answer with
      | stored => exact .inl ⟨rfl, rfl⟩
      | _ => exact .inr ⟨fun _ _ => by simp, rfl, rfl⟩
  | persisting resolved payment =>
      cases answer with
      | stored => exact .inl ⟨rfl, rfl⟩
      | _ => exact .inr ⟨nofun, rfl, rfl⟩
  | paying payment =>
      refine .inr ⟨nofun, ?_⟩
      cases answer with
      | sends => exact sent _
      | _ => exact ⟨rfl, rfl⟩
  | authorising payment =>
      cases answer with
      | stored => exact .inl ⟨rfl, rfl⟩
      | _ => exact .inr ⟨nofun, rfl, rfl⟩
  | _ =>
      refine .inr ⟨nofun, ?_⟩
      dsimp only
      repeat' split
      all_goals exact ⟨rfl, rfl⟩

theorem advance_fair (seams : Seams) (shared : Shared) (drive : Drive) (answer : Answer) :
    Fair shared (drive.advance seams shared answer).1
      (if answer = .stored then some drive else none) := by
  rcases advance_shared seams shared drive answer with ⟨rfl, same⟩ | ⟨idle, notes, store⟩
  · rw [if_pos rfl, same]
    exact write_fair shared drive
  · refine .same notes (congrArg Store.refundAttempt store) ?_
    intro other member exhausts
    split at member
    · rename_i stored
      cases member
      exact idle _ exhausts.1 stored
    · cases member

/-- What the environment does. -/
theorem environment_fair (shared : Shared) (event : Event) :
    Fair shared (environment shared event)
      (match event with
        | .late => shared.orphans.head?
        | _ => none) := by
  cases event with
  | retry externalId now =>
      simp only [environment]
      unfold refundRetry
      cases found : shared.store.refundAttempt.row externalId with
      | none => exact .same rfl rfl idle_none
      | some row =>
          by_cases ready : row.fenced = false ∧ row.status = .failed
          · simp only [if_pos ready]
            refine ⟨.requeued rfl rfl rfl, fun _ => ?_⟩
            have earned : Earned ((externalId, .requeued) :: shared.notes) ↔ Earned shared.notes :=
              and_iff_right (by simp)
            refine earned.trans (and_iff_left fun drive member => ?_).symm
            simp at member
          · simp only [if_neg ready]
            exact .same rfl rfl idle_none
  | elsewhere other =>
      refine .quiet rfl (fun externalId => ?_) idle_none
      show Keeps _ ((other.write shared.store).refundAttempt.row externalId)
      have moved := other.attempts shared.store externalId
      generalize shared.store.refundAttempt.row externalId = before at moved ⊢
      generalize (other.write shared.store).refundAttempt.row externalId = after at moved ⊢
      cases moved with
      | same => exact .refl _
      | fenced row fenced => exact fun pending => .inr ⟨row, rfl, pending, rfl⟩
      | inserted pending unused => exact fun _ => .inl ⟨rfl, unused⟩
  | lands key paid =>
      refine .same ?_ ?_ idle_none <;> unfold environment Shared.land <;> dsimp only <;> split <;> rfl
  | refuses key =>
      refine .same ?_ ?_ idle_none <;> unfold environment Shared.refuse <;> dsimp only <;> split <;> rfl
  | late =>
      unfold environment
      cases waiting : shared.orphans with
      | nil => exact .same rfl rfl idle_none
      | cons drive rest =>
          obtain ⟨moves, exact_⟩ := write_fair { shared with orphans := rest } drive
          refine ⟨?_, exact_⟩
          cases moves with
          | quiet notes rows => exact .quiet notes rows
          | requeued fresh notes rows => exact .requeued fresh notes rows
          | counted found pending allowTerminal left notes rows =>
              exact .counted found pending allowTerminal left notes rows
          | exhausted found pending spent notes rows => exact .exhausted found pending spent notes rows

/-- **Every choice of the scheduler** moves the attempts fairly. -/
theorem step_fair (seams : Seams) (pool : Pool Shared (Option Drive))
    (choice : Schedule ExternalId Answer Event) :
    Fair pool.shared ((program seams).step pool choice).shared (job pool choice) := by
  cases choice with
  | spawn externalId => exact .same rfl rfl idle_none
  | advance id answer =>
      cases found : pool.threads.row id with
      | none =>
          simp only [Program.step, found]
          refine .same rfl rfl fun drive member => ?_
          cases answer <;> simp [job, found] at member
      | some thread =>
          simp only [Program.step, found]
          cases thread with
          | none =>
              refine .same rfl rfl fun drive member => ?_
              cases answer <;> simp [job, found] at member
          | some drive =>
              have same : job pool (.advance id answer) =
                  if answer = .stored then some drive else none := by
                cases answer <;> simp [job, found]
              rw [same]
              exact advance_fair seams pool.shared drive answer
  | drop id =>
      cases found : pool.threads.row id with
      | none =>
          simp only [Program.step, found]
          exact .same rfl rfl idle_none
      | some thread =>
          simp only [Program.step, found]
          cases thread with
          | none => exact .same rfl rfl idle_none
          | some drive =>
              refine .same ?_ ?_ idle_none <;> dsimp only [program] <;> unfold dropped <;>
                split <;> rfl
  | environment event =>
      have fair := environment_fair pool.shared event
      cases event <;> exact fair
  | crash => exact .same rfl rfl idle_none

end Steps

/-! ### The runs -/

theorem tallied_start (seams : Seams) : Tallied (program seams).machine.start.shared :=
  fun _ => ⟨rfl, nofun, fun _ => .inl rfl⟩

/-- **The retry budget is used up by definitive failures alone, exactly while no clouded attempt is
exhausted.** For every order of drives, operator retries, other writers, aborted drives and crashes, and
whatever the backends answer: every attempt that the pay-failure path parked had the cap of definitive
failures since it last became PENDING, if and only if in every step that exhausts an attempt no drive of
it had ended with an open payment before its fourth definitive failure. -/
theorem earned_run (seams : Seams) (choices : List (Schedule ExternalId Answer Event)) :
    Earned ((program seams).machine.run choices).shared.notes ↔
      (program seams).machine.Meets Unclouded choices :=
  (program seams).machine.holds_iff_meets (fun pool => Tallied pool.shared)
    (fun pool => Earned pool.shared.notes) (tallied_start seams)
    (fun pool choice tallied => (step_fair seams pool choice).moves.tallied tallied)
    (fun pool choice tallied => (step_fair seams pool choice).exact tallied) trivial choices

/-! ### A budget spent by open payments -/

/-- Every destination is an invoice over 5 sats. -/
def invoiceSeams : Seams := ⟨fun _ => false, fun _ => some .bolt11, fun _ => some 5, true⟩

/-- A settled invoice of 5 sats, and the refund it is owed. -/
def owed (store : Store) : Store :=
  { (Capture.insertRefundAttemptTxn store none (some 7) (.other 1) (some 5)).2 with
    invoice := store.invoice.put (.other 1)
      ⟨0, none, .order, 0, some 5, some 5000, .paid, none, 0, some 1, some 1⟩ }

def owing : Bystander where
  write := owed
  attempts store externalId := by
    show Moved _ ((Capture.insertRefundAttemptTxn store none (some 7) (.other 1)
      (some 5)).2.refundAttempt.row externalId)
    unfold Capture.insertRefundAttemptTxn
    cases found : store.refundAttempt.row (.other 1) with
    | some row => exact .same _
    | none =>
        by_cases same : externalId = .other 1
        · subst same
          rw [found]
          simp only [Table.put_row_self]
          exact .inserted rfl rfl rfl rfl
        · simp only [Table.put_row_other _ _ same]
          exact .same _

/-- A drive whose payment is sent, fails to answer, and then has the given status; its payment comes
back before or after that status is read. -/
def failing (id : ℕ) (status first : PayStatus) : List (Schedule ExternalId Answer Event) :=
  let key : PayKey := .refund (.other 1) 0
  ([.spawn (.other 1), .advance id (.starts 10), .advance id .stored,
    .advance id (.status (some first)), .advance id (.quote (some 5)),
    .advance id (.status (some first)), .advance id (.prepares true), .advance id .stored,
    .advance id .sends, .advance id (.pays false)] : List (Schedule ExternalId Answer Event)) ++
  (if status = .failed then [Schedule.environment (Event.lands key false)] else []) ++
  ([.advance id (.status (some status)), .advance id .stored, .environment (.lands key false)] :
    List (Schedule ExternalId Answer Event))

/-- Four drives with an open payment, and one that failed definitively. -/
def spending : List (Schedule ExternalId Answer Event) :=
  .environment (.elsewhere owing) ::
    (failing 0 .pending .unknown ++ failing 1 .unknown .failed ++ failing 2 .pending .failed ++
      failing 3 .pending .failed ++ failing 4 .failed .failed)

/-- **One definitive failure parks a refund** whose four drives before it ended with an open payment. -/
theorem open_payments_spend_budget :
    ∃ seams choices, ¬ Earned ((program seams).machine.run choices).shared.notes :=
  ⟨invoiceSeams, spending, by decide +kernel⟩

end Lnrent.Refunder
