/-
**Resuming** (`resume.rs`). A subscription that was renewed while SUSPENDED waits in RESUMING for its
hook. Success makes it ACTIVE; a permanent failure takes the whole pending batch of renewals back to
the timers the first of them started from, and refunds every one of them.

* `pendingRenewResumes` — the batch; `markActive`, `resumeFailureWrite` — the two outcomes.
-/

import Lnrent.Daemon.Capture

namespace Lnrent.Resume

open Relational

/-- The entry resolves the renewals of the subscription that were journaled before it. -/
def Resolves (subscription : OrderId) (event : EventRow) : Prop :=
  event.subscriptionId = some subscription ∧
    (event.kind = .resumeActive ∨ event.kind = .resumeFailed)

instance (subscription : OrderId) (event : EventRow) : Decidable (Resolves subscription event) :=
  inferInstanceAs (Decidable (_ ∧ _))

/-- `COALESCE(MAX(id), 0)` over the resolutions of the subscription. -/
def lastResolutionId (log : Journal EventRow) (subscription : OrderId) : ℕ :=
  (log.rows.keys.filter fun key =>
    (log.rows.row key).any fun event => Resolves subscription event).sup fun key => key

/-- The baseline of a renewal entry of the subscription. -/
def baselineOf (subscription : OrderId) (event : EventRow) : Option Baseline :=
  if event.subscriptionId = some subscription ∧ event.kind = .renewResume then event.detail.baseline
  else none

/-- **`pending_renew_resumes`**: the baselines after the last resolution, oldest first. -/
def pendingRenewResumes (log : Journal EventRow) (subscription : OrderId) : List Baseline :=
  let last := lastResolutionId log subscription
  (List.range' (last + 1) (log.last - last)).filterMap fun key =>
    (log.rows.row key).bind (baselineOf subscription)

/-! ### The pending batch -/

theorem lastResolutionId_lt_iff (log : Journal EventRow) (subscription : OrderId) {key : ℕ}
    (positive : 0 < key) :
    lastResolutionId log subscription < key ↔
      ∀ other event, log.rows.row other = some event → Resolves subscription event → other < key := by
  unfold lastResolutionId
  rw [Finset.sup_lt_iff positive]
  constructor
  · intro before other event found resolves
    refine before other (Finset.mem_filter.mpr ⟨(log.rows.mem_keys other).mpr (by simp [found]), ?_⟩)
    simpa [found] using resolves
  · intro before other member
    obtain ⟨-, some_⟩ := Finset.mem_filter.mp member
    cases found : log.rows.row other with
    | none => simp [found] at some_
    | some event => exact before other event found (by simpa [found] using some_)

theorem lastResolutionId_le (log : Journal EventRow) (subscription : OrderId) :
    lastResolutionId log subscription ≤ log.last :=
  Finset.sup_le fun key member => log.bounded key (Finset.mem_of_mem_filter key member)

/-- The baseline of an entry that no later entry resolved. -/
def pendingAt (log : Journal EventRow) (subscription : OrderId) (key : ℕ) : Option Baseline :=
  if lastResolutionId log subscription < key then
    (log.rows.row key).bind (baselineOf subscription)
  else none

/-- The batch is read off entry by entry. -/
theorem pendingRenewResumes_eq (log : Journal EventRow) (subscription : OrderId) :
    pendingRenewResumes log subscription =
      (List.range' 1 log.last).filterMap (pendingAt log subscription) := by
  unfold pendingRenewResumes
  set last := lastResolutionId log subscription
  have inside : last ≤ log.last := lastResolutionId_le log subscription
  have split : List.range' 1 log.last = List.range' 1 last ++ List.range' (last + 1) (log.last - last) := by
    rw [show last + 1 = 1 + last from Nat.add_comm _ _, List.range'_append_1]
    congr 1
    omega
  rw [split, List.filterMap_append]
  have early : (List.range' 1 last).filterMap (pendingAt log subscription) = [] := by
    refine List.filterMap_eq_nil_iff.mpr fun key member => ?_
    have least := (List.mem_range'_1.mp member).2
    unfold pendingAt
    rw [if_neg (by omega)]
  rw [early, List.nil_append]
  refine List.filterMap_congr fun key member => ?_
  have least := (List.mem_range'_1.mp member).1
  unfold pendingAt
  rw [if_pos (by omega)]

/-- An entry of the batch is a renewal entry that no later entry resolved. -/
theorem pendingAt_eq_some {log : Journal EventRow} {subscription : OrderId} {key : ℕ}
    {baseline : Baseline} (positive : 0 < key) :
    pendingAt log subscription key = some baseline ↔
      ∃ event, log.rows.row key = some event ∧ baselineOf subscription event = some baseline ∧
        ∀ other event, log.rows.row other = some event → Resolves subscription event →
          other < key := by
  unfold pendingAt
  by_cases late : lastResolutionId log subscription < key
  · rw [if_pos late, Option.bind_eq_some_iff]
    have after := (lastResolutionId_lt_iff log subscription positive).mp late
    exact ⟨fun ⟨event, found, base⟩ => ⟨event, found, base, after⟩,
      fun ⟨event, found, base, _⟩ => ⟨event, found, base⟩⟩
  · rw [if_neg late]
    refine ⟨nofun, fun ⟨_, _, _, after⟩ => ?_⟩
    exact absurd ((lastResolutionId_lt_iff log subscription positive).mpr after) late

/-! ### The batch while the journal grows -/

theorem lastResolutionId_append (log : Journal EventRow) (subscription : OrderId) (event : EventRow) :
    lastResolutionId (log.append event) subscription =
      if Resolves subscription event then log.last + 1 else lastResolutionId log subscription := by
  have keys : (log.append event).rows.keys = insert (log.last + 1) log.rows.keys := rfl
  have old : (log.rows.keys.filter fun key =>
        ((log.append event).rows.row key).any fun entry => Resolves subscription entry) =
      log.rows.keys.filter fun key =>
        (log.rows.row key).any fun entry => Resolves subscription entry := by
    refine Finset.filter_congr fun key member => ?_
    have least := log.bounded key member
    rw [log.append_row, if_neg (by omega)]
  have bounded := lastResolutionId_le log subscription
  unfold lastResolutionId at bounded ⊢
  rw [keys, Finset.filter_insert, old, log.append_row, if_pos rfl]
  by_cases resolves : Resolves subscription event
  · simp only [Option.any_some, resolves, decide_true, if_true, Finset.sup_insert]
    exact max_eq_left (bounded.trans (Nat.le_succ _))
  · simp [resolves]

/-- A resolution empties the batch. -/
theorem pendingRenewResumes_append_resolves {log : Journal EventRow} {subscription : OrderId}
    {event : EventRow} (resolves : Resolves subscription event) :
    pendingRenewResumes (log.append event) subscription = [] := by
  unfold pendingRenewResumes
  rw [lastResolutionId_append, if_pos resolves, Journal.append_last]
  simp

/-- **Any other entry** adds its baseline, if it has one, at the end. -/
theorem pendingRenewResumes_append {log : Journal EventRow} {subscription : OrderId}
    {event : EventRow} (other : ¬ Resolves subscription event) :
    pendingRenewResumes (log.append event) subscription =
      pendingRenewResumes log subscription ++ (baselineOf subscription event).toList := by
  unfold pendingRenewResumes
  rw [lastResolutionId_append, if_neg other, Journal.append_last]
  set last := lastResolutionId log subscription
  have bounded : last ≤ log.last := lastResolutionId_le log subscription
  have longer : List.range' (last + 1) (log.last + 1 - last) =
      List.range' (last + 1) (log.last - last) ++ [log.last + 1] := by
    rw [show log.last + 1 - last = (log.last - last) + 1 by omega, List.range'_concat]
    congr 2
    omega
  simp only [longer, List.filterMap_append]
  congr 1
  · refine List.filterMap_congr fun key member => ?_
    have upper := (List.mem_range'_1.mp member).2
    rw [log.append_row, if_neg (by omega)]
  · rw [List.filterMap_cons, log.append_row, if_pos rfl, Option.bind_some]
    cases baselineOf subscription event <;> rfl

/-- `mark_active`: RESUMING → ACTIVE. -/
def markActive (store : Store) (subscription : OrderId) (now : ℤ) : Store :=
  match store.subscription.row subscription with
  | none => store
  | some row =>
      if row.state = .resuming then
        ({ store with
          subscription := store.subscription.put subscription
            { row with state := .active, updatedAt := now } } : Store).log
          (some subscription) .resumeActive {} now
      else store

/-- The row a failed resume goes back to. -/
def restored (row : SubscriptionRow) (first : Baseline) (renewLeadS retentionS now : ℤ) :
    SubscriptionRow :=
  { row with
    state := .suspended
    paidThrough := first.previousPaidThrough
    softDate := first.previousPaidThrough.map (· - renewLeadS)
    nextDeadline := first.previousPaidThrough.map fun paidThrough =>
      Capture.effectiveSuspendAt paidThrough first.previousSuspendNotBefore + retentionS
    suspendNotBefore := first.previousSuspendNotBefore
    updatedAt := now }

/-- The refund rows of a batch of renewals. -/
def refundBatch (subscription : OrderId) (dest : Option Text) (store : Store)
    (renewals : List Baseline) : Store :=
  renewals.foldl (fun store renewal =>
    (Capture.insertRefundAttemptTxn store (some subscription) dest renewal.externalId
      renewal.amountSat).2) store

/-- **`ResumeFailureWrite::write`**: RESUMING → SUSPENDED with the timers before the pending batch,
and a refund row for each renewal of it. The destination and the two durations are those the drive
loaded. `none` is an error: no baseline was found. -/
def resumeFailureWrite (store : Store) (subscription : OrderId) (dest : Option Text)
    (renewLeadS retentionS now : ℤ) : Option Store :=
  let renewals := pendingRenewResumes store.eventLog subscription
  match renewals with
  | [] => none
  | first :: _ =>
      match store.subscription.row subscription with
      | none => some store
      | some row =>
          if row.state = .resuming then
            some ((refundBatch subscription dest
              { store with
                subscription := store.subscription.put subscription
                  (restored row first renewLeadS retentionS now) } renewals).log
              (some subscription) .resumeFailed {} now)
          else some store

/-! ### What the refund rows of a batch leave alone -/

section Frame

variable (subscription : OrderId) (dest : Option Text) (store : Store) (renewals : List Baseline)

@[simp]
theorem refundBatch_frame :
    Store.Frame store (refundBatch subscription dest store renewals) ∧
    (refundBatch subscription dest store renewals).eventLog = store.eventLog ∧
    (refundBatch subscription dest store renewals).reservation = store.reservation ∧
    (refundBatch subscription dest store renewals).inboundRequest = store.inboundRequest ∧
    (refundBatch subscription dest store renewals).outbox = store.outbox := by
  unfold refundBatch
  induction renewals generalizing store with
  | nil => simp [Store.Frame]
  | cons renewal rest ih =>
      simp only [List.foldl_cons, ih, Capture.insertRefundAttemptTxn_frame, Store.Frame, and_self]

end Frame

/-! ### What the outcomes did -/

/-- A resume that succeeded turned a RESUMING subscription ACTIVE, and resolved its batch. -/
theorem markActive_cases (store : Store) (subscription : OrderId) (now : ℤ) :
    markActive store subscription now = store ∨
      ∃ row, store.subscription.row subscription = some row ∧ row.state = .resuming ∧
        markActive store subscription now =
          ({ store with
            subscription := store.subscription.put subscription
              { row with state := .active, updatedAt := now } } : Store).log
            (some subscription) .resumeActive {} now := by
  unfold markActive
  cases found : store.subscription.row subscription with
  | none => exact .inl rfl
  | some row =>
      simp only
      split_ifs with resuming
      · exact .inr ⟨row, rfl, resuming, rfl⟩
      · exact .inl rfl

/-- The store after a resume that failed for good. -/
def failedStore (store : Store) (subscription : OrderId) (row : SubscriptionRow) (dest : Option Text)
    (first : Baseline) (rest : List Baseline) (renewLeadS retentionS now : ℤ) : Store :=
  (refundBatch subscription dest { store with
    subscription := store.subscription.put subscription
      (restored row first renewLeadS retentionS now) } (first :: rest)).log
    (some subscription) .resumeFailed {} now

/-- **A resume that failed** wrote the timers of the first pending renewal back to a RESUMING
subscription, and refunded the whole batch. -/
theorem resumeFailureWrite_cases {store after : Store} {subscription : OrderId} {dest : Option Text}
    {renewLeadS retentionS now : ℤ}
    (committed : resumeFailureWrite store subscription dest renewLeadS retentionS now = some after) :
    after = store ∨ ∃ row first rest, store.subscription.row subscription = some row ∧
      row.state = .resuming ∧
      pendingRenewResumes store.eventLog subscription = first :: rest ∧
      after = failedStore store subscription row dest first rest renewLeadS retentionS now := by
  unfold resumeFailureWrite at committed
  cases pending : pendingRenewResumes store.eventLog subscription with
  | nil => simp [pending] at committed
  | cons first rest =>
      cases found : store.subscription.row subscription with
      | none =>
          simp only [pending, found, Option.some.injEq] at committed
          exact .inl committed.symm
      | some row =>
          simp only [pending, found] at committed
          split_ifs at committed with resuming
          · exact .inr ⟨row, first, rest, rfl, resuming, rfl, (Option.some.inj committed).symm⟩
          · exact .inl (Option.some.inj committed).symm

end Lnrent.Resume
