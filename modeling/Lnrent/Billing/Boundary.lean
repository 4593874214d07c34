/-
**The suspend boundary of a paid renewal.** A renewal spends the downtime-credit floor and moves the
prepaid end to a period past the settlement, so the boundary may move either way.

* `suspendBoundary` — the later of the prepaid end and the floor, where the columns are set;
* `captureTxn_renews` — a capture that reports a renewal or a resumption extended one row;
* `renewal_boundary` — **the boundary after a renewal, and when it is no earlier than before**;
* `renewal_shortens` — a renewal that a floor outlies moves the boundary back.
-/

import Lnrent.Daemon.Reconcile

namespace Lnrent.Billing

open Relational Capture Reconcile

/-! ### Rows and boundaries -/

/-- The effective suspend boundary of a row: the later of its prepaid end and its floor, of those that
are set. -/
def suspendBoundary (row : SubscriptionRow) : Option ℤ :=
  match row.paidThrough with
  | some paidThrough => some (effectiveSuspendAt paidThrough row.suspendNotBefore)
  | none => row.suspendNotBefore

/-- A boundary did not move back. -/
def NotEarlier (before after : Option ℤ) : Prop :=
  ∀ boundary ∈ before, ∃ later ∈ after, boundary ≤ later

instance (before after : Option ℤ) : Decidable (NotEarlier before after) :=
  inferInstanceAs (Decidable (∀ boundary ∈ before, ∃ later ∈ after, boundary ≤ later))

/-- The row is served or may be served again. -/
def Resumable (row : SubscriptionRow) : Prop :=
  row.state = .active ∨ row.state = .suspended ∨ row.state = .resuming

/-- No floor reaches past an instant. -/
def FloorBy (row : SubscriptionRow) (bound : ℤ) : Prop :=
  ∀ floor ∈ row.suspendNotBefore, floor ≤ bound

instance (row : SubscriptionRow) (bound : ℤ) : Decidable (FloorBy row bound) :=
  inferInstanceAs (Decidable (∀ floor ∈ row.suspendNotBefore, floor ≤ bound))

theorem notEarlier_some {before : Option ℤ} {later : ℤ} :
    NotEarlier before (some later) ↔ ∀ boundary ∈ before, boundary ≤ later := by
  simp [NotEarlier]

theorem NotEarlier.trans {first second third : Option ℤ} (left : NotEarlier first second)
    (right : NotEarlier second third) : NotEarlier first third := by
  intro boundary known
  obtain ⟨later, found, reached⟩ := left boundary known
  obtain ⟨last, found', reached'⟩ := right later found
  exact ⟨last, found', reached.trans reached'⟩

/-- A boundary lies by an instant when the prepaid end and the floor do. -/
theorem suspendBoundary_le {row : SubscriptionRow} {bound : ℤ} :
    (∀ boundary ∈ suspendBoundary row, boundary ≤ bound) ↔
      (∀ paidThrough ∈ row.paidThrough, paidThrough ≤ bound) ∧ FloorBy row bound := by
  unfold suspendBoundary FloorBy
  cases prepaid : row.paidThrough with
  | none => simp
  | some paidThrough =>
      cases floor : row.suspendNotBefore with
      | none => simp [effectiveSuspendAt]
      | some floor => simp [effectiveSuspendAt]

/-! ### What a renewal leaves -/

section Extended

variable (row : SubscriptionRow) (state : SubState) (settlement : Settlement) (now : ℤ)

theorem suspendBoundary_extended :
    suspendBoundary (extended row state settlement now) = some (extendedThrough row settlement) :=
  congrArg some (max_self _)

theorem paidThrough_le_extendedThrough (term : 0 ≤ row.periodS.getD 0) :
    ∀ paidThrough ∈ row.paidThrough, paidThrough ≤ extendedThrough row settlement := by
  intro paidThrough prepaid
  unfold extendedThrough
  rw [Option.mem_def.mp prepaid, Option.getD_some]
  exact (le_max_left _ _).trans (le_add_of_nonneg_right term)

/-- The boundary moves back exactly when the floor lay past the new prepaid end. -/
theorem notEarlier_extended (term : 0 ≤ row.periodS.getD 0) :
    NotEarlier (suspendBoundary row) (suspendBoundary (extended row state settlement now)) ↔
      FloorBy row (extendedThrough row settlement) := by
  rw [suspendBoundary_extended, notEarlier_some, suspendBoundary_le]
  exact and_iff_right (paidThrough_le_extendedThrough row settlement term)

end Extended

/-! ### The capture of a renewal -/

/-- A subscription was extended by a settlement, and every other one is as it was. -/
structure Renews (settlement : Settlement) (now : ℤ) (id : OrderId) (row : SubscriptionRow)
    (before after : Store) : Prop where
  found : before.subscription.row id = some row
  resumable : Resumable row
  written : ∃ state, after.subscription =
    before.subscription.put id (extended row state settlement now)

theorem applyRenewal_renews {store after : Store} {id : OrderId} {row : SubscriptionRow}
    {settlement : Settlement} {now : ℤ} {outcome : Capture}
    (found : store.subscription.row id = some row) (resumable : Resumable row)
    (renewed : outcome = .renewed ∨ outcome = .resumed)
    (done : applyRenewal store id row settlement now = (outcome, after)) :
    Renews settlement now id row store after := by
  unfold applyRenewal at done
  split at done
  · cases done
    simp at renewed
  · dsimp only at done
    split at done
    · cases done
      exact ⟨found, resumable, .active, rfl⟩
    · cases done
      exact ⟨found, resumable, .resuming, rfl⟩

/-- Only the renewal of a resumable subscription reports a renewal or a resumption. -/
theorem applyPaid_renews {store after : Store} {kind : InvoiceKind} {owner : Option OrderId}
    {orderExpiresAt : Option ℤ} {settlement : Settlement} {now : ℤ} {outcome : Capture}
    (renewed : outcome = .renewed ∨ outcome = .resumed)
    (done : applyPaid store kind owner orderExpiresAt settlement now = (outcome, after)) :
    ∃ id row, owner = some id ∧ Renews settlement now id row store after := by
  unfold applyPaid at done
  have refunds : ∀ {subscription dest event}, (outcome, after) ≠
      refundWith store subscription dest event settlement now := by
    rintro subscription dest event same
    obtain ⟨rfl, -⟩ := Prod.mk.inj same
    simp at renewed
  split at done
  · exact absurd done.symm refunds
  · rename_i id
    split at done
    · exact absurd done.symm refunds
    · rename_i row found
      refine ⟨id, row, rfl, ?_⟩
      split at done
      · unfold applyOrder at done
        split at done
        · exact absurd done.symm refunds
        · cases done
          simp at renewed
      · rename_i state
        exact applyRenewal_renews found (.inl state) renewed done
      · rename_i state
        exact applyRenewal_renews found (.inr (.inl state)) renewed done
      · rename_i state
        exact applyRenewal_renews found (.inr (.inr state)) renewed done
      · exact absurd done.symm refunds

/-- A capture that reports a renewal or a resumption extended the subscription of the invoice it
settled. -/
theorem captureTxn_renews {store after : Store} {settlement : Settlement} {now : ℤ}
    {outcome : Capture} (renewed : outcome = .renewed ∨ outcome = .resumed)
    (done : captureTxn store settlement now = (outcome, after)) :
    ∃ invoice ∈ store.invoice.row settlement.externalId, ∃ id ∈ invoice.subscriptionId, ∃ row,
      Renews settlement now id row store after := by
  unfold captureTxn at done
  split at done
  · obtain ⟨rfl, -⟩ := Prod.mk.inj done
    simp at renewed
  · rename_i invoice found
    split at done
    · cases done
      simp at renewed
    · obtain ⟨id, row, owned, renews⟩ := applyPaid_renews renewed done
      exact ⟨invoice, found, id, owned, row, renews.found, renews.resumable, renews.written⟩
    · obtain ⟨rfl, -⟩ := Prod.mk.inj done
      simp at renewed

/-- **The boundary after a renewal.** A settlement captured as a renewal or a resumption spends the
downtime-credit floor, so the boundary is a period past the later of the old prepaid end and the
settlement. It is no earlier than before exactly when the floor does not lie past that instant. -/
theorem renewal_boundary {store after : Store} {settlement : Settlement} {now : ℤ}
    {outcome : Capture} (renewed : outcome = .renewed ∨ outcome = .resumed)
    (done : captureTxn store settlement now = (outcome, after)) :
    ∃ invoice ∈ store.invoice.row settlement.externalId, ∃ id ∈ invoice.subscriptionId,
      ∃ row ∈ store.subscription.row id, ∃ row' ∈ after.subscription.row id,
        Resumable row ∧ row'.suspendNotBefore = none ∧
        suspendBoundary row' = some (extendedThrough row settlement) ∧
        (0 < row.periodS.getD 0 →
          (NotEarlier (suspendBoundary row) (suspendBoundary row') ↔
            FloorBy row (extendedThrough row settlement))) := by
  obtain ⟨invoice, found, id, owned, row, renews⟩ := captureTxn_renews renewed done
  obtain ⟨state, written⟩ := renews.written
  refine ⟨invoice, found, id, owned, row, renews.found, extended row state settlement now, ?_,
    renews.resumable, rfl, suspendBoundary_extended row state settlement now, fun term =>
      notEarlier_extended row state settlement now term.le⟩
  rw [written]
  exact Table.put_row_self _ _ _

/-! ### A floor a renewal does not reach -/

/-- A store with one subscription and its OPEN renewal invoice. -/
def renewable (row : SubscriptionRow) : Store :=
  { Store.empty with
    subscription := Table.empty.put ⟨1, 1⟩ row
    invoice := Table.empty.put (.renewReq ⟨1, 2⟩)
      ⟨0, some ⟨1, 1⟩, .renewal, 0, some 5, none, .opened, some 9000, 900, none, none⟩
    lastHeartbeat := some 900 }

/-- An ACTIVE row prepaid to 1000, with a period of 100. -/
def served (renewLeadS retentionS : ℤ) (suspendNotBefore : Option ℤ) : SubscriptionRow :=
  ⟨none, 1, .active, none, some 100, some renewLeadS, some retentionS, some 1000,
    some (1000 - renewLeadS), some (1000 - renewLeadS), suspendNotBefore, none, 0⟩

/-- The payment of that invoice at the given time. -/
def paidAt (settledAt : ℤ) : Settlement := ⟨.renewReq ⟨1, 2⟩, 5, 5000, settledAt⟩

/-- The boundary of the one subscription. -/
def boundaryOf (store : Store) : Option ℤ := store.subscription.row ⟨1, 1⟩ >>= suspendBoundary

/-- A settlement at 1100 spends a floor of 1150: the boundary is 1200, and no earlier than before. -/
theorem renewal_boundary_floored :
    boundaryOf (renewable (served 50 500 (some 1150))) = some 1150 ∧
      ∃ invoice ∈ (renewable (served 50 500 (some 1150))).invoice.row (.renewReq ⟨1, 2⟩),
        ∃ id ∈ invoice.subscriptionId,
          ∃ row ∈ (renewable (served 50 500 (some 1150))).subscription.row id,
            ∃ row' ∈ (captureTxn (renewable (served 50 500 (some 1150))) (paidAt 1100)
                1).2.subscription.row id,
              Resumable row ∧ row'.suspendNotBefore = none ∧
              suspendBoundary row' = some (extendedThrough row (paidAt 1100)) ∧
              (0 < row.periodS.getD 0 →
                (NotEarlier (suspendBoundary row) (suspendBoundary row') ↔
                  FloorBy row (extendedThrough row (paidAt 1100)))) :=
  ⟨by decide +kernel, @renewal_boundary (renewable (served 50 500 (some 1150))) _ (paidAt 1100) 1
    (captureTxn (renewable (served 50 500 (some 1150))) (paidAt 1100) 1).1 (.inl (by decide +kernel))
    rfl⟩

/-- **A renewal may move the boundary back**: from a floor of 1300 to 1200 where the lead exceeds the
period, and, with a lead of half the period, from the 5050 a boot at 5000 credited to 1100, for a
settlement stamped inside the outage. -/
theorem renewal_shortens :
    (∃ after, captureTxn (renewable (served 150 500 (some 1300))) (paidAt 1100) 1 =
        (.renewed, after) ∧ boundaryOf (renewable (served 150 500 (some 1300))) = some 1300 ∧
      boundaryOf after = some 1200 ∧ ¬ NotEarlier (some 1300) (some 1200)) ∧
    ∃ after, captureTxn (applyRestartDowntimeCredit (renewable (served 50 9000 none)) 5000)
        (paidAt 960) 5000 = (.renewed, after) ∧
      boundaryOf (applyRestartDowntimeCredit (renewable (served 50 9000 none)) 5000) = some 5050 ∧
      boundaryOf after = some 1100 ∧ ¬ NotEarlier (some 5050) (some 1100) := by
  refine ⟨⟨_, Prod.ext ?_ rfl, ?_, ?_, ?_⟩, _, Prod.ext ?_ rfl, ?_, ?_, ?_⟩ <;> decide +kernel

end Lnrent.Billing
