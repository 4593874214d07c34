/-
**What is still owed to buyers.** A receipt has a refund path while it has a refund that was not sent,
or while it is settled, has no refund row, and its subscription may still make one: the order is not
delivered, or the renewal waits for a resume.

* `Refundable`, `owedMsat`, `Covered` — the receipts with a refund path, what they may take, and the
  inequality that the receipts cover it beside the sweeps and the refunds that were sent;
* `Sourced` — the invariant: every refund row has its receipt, and every settled invoice its
  subscription;
* `Sourced.surplus_le` — **the surplus of the sweep leaves what is owed**;
* `Spares` — what a transaction may do to one receipt; `covered_of_spares`, that the receipts then cover
  what they covered.
-/

import Lnrent.Receipts.OneFigure
import Lnrent.Accounts.Account

namespace Lnrent.Solvency

open Relational Transition Ledger Capture Receipts Billing

/-! ### Receipts with a refund path -/

/-- The order was placed, and is neither delivered nor refunded. -/
def Undelivered (state : SubState) : Prop :=
  state = .pending ∨ state = .provisioning ∨ state = .refundDue

instance (state : SubState) : Decidable (Undelivered state) := inferInstanceAs (Decidable (_ ∨ _))

/-- A renewal under the token waits for the subscription to resume. -/
def Awaits (store : Store) (id : OrderId) (token : ExternalId) : Prop :=
  token ∈ (Resume.pendingRenewResumes store.eventLog id).map Baseline.externalId

instance (store : Store) (id : OrderId) (token : ExternalId) : Decidable (Awaits store id token) :=
  inferInstanceAs (Decidable (_ ∈ _))

/-- The subscription may still make a refund of the token. -/
def Exposes (store : Store) (id : OrderId) (token : ExternalId) : Prop :=
  ∃ row ∈ store.subscription.row id,
    Undelivered row.state ∨ row.state = .resuming ∧ Awaits store id token

instance (store : Store) (id : OrderId) (token : ExternalId) : Decidable (Exposes store id token) :=
  decidable_of_iff ((store.subscription.row id).any (fun row =>
      decide (Undelivered row.state ∨ row.state = .resuming ∧ Awaits store id token)) = true)
    (by simp [Exposes, Option.any_eq_true])

/-- The token was paid for and has no refund row, and its subscription may still make one. -/
def Exposed (store : Store) (token : ExternalId) : Prop :=
  store.refundAttempt.row token = none ∧
    ∃ invoice ∈ settledInvoice store token, ∃ id ∈ invoice.subscriptionId, Exposes store id token

instance (store : Store) (token : ExternalId) : Decidable (Exposed store token) :=
  decidable_of_iff (store.refundAttempt.row token = none ∧
      ((settledInvoice store token).any fun invoice =>
        invoice.subscriptionId.any fun id => decide (Exposes store id token)) = true)
    (by simp [Exposed, Option.any_eq_true])

/-- **The receipt has a refund path.** -/
def Refundable (store : Store) (token : ExternalId) : Prop :=
  Maintenance.OpenRefund store token ∨ Exposed store token

instance (store : Store) (token : ExternalId) : Decidable (Refundable store token) :=
  inferInstanceAs (Decidable (_ ∨ _))

/-- What a refund of the receipt takes, in sat: the amount of its row, else what was received. -/
def refundableSat (store : Store) (token : ExternalId) : ℕ :=
  (store.refundAttempt.row token).elim (figure store token) fun row => (positive row.amountSat).getD 0

/-- The tokens of refund rows and invoices. -/
def tokens (store : Store) : Finset ExternalId := store.refundAttempt.keys ∪ store.invoice.keys

/-- What the receipts that meet a condition may still be refunded. -/
def refundsMsat (store : Store) (path : ExternalId → Prop) [DecidablePred path] : ℕ :=
  ∑ token ∈ tokens store, if path token then refundableSat store token * 1000 else 0

/-- **What is owed**: the refundable amounts of the receipts with a refund path. -/
def owedMsat (store : Store) : ℕ := refundsMsat store (Refundable store)

/-- The refunds that were sent, at their amounts. -/
def sentMsat (store : Store) : ℕ :=
  store.refundAttempt.sum fun _ row => if row.status = .sent then refundCap row else 0

/-- **What is owed is covered**: beside the caps of the sweeps that are in flight or were sent and the
refunds that were sent, the receipts have what every receipt with a refund path may take. -/
def Covered (store : Store) : Prop :=
  Sweep.sweepPayoutsMsat store none + sentMsat store + owedMsat store ≤ sumReceiptsMsat store

instance (store : Store) : Decidable (Covered store) := inferInstanceAs (Decidable (_ ≤ _))

/-! ### Claims on receipts -/

/-- What a receipt has lost to a refund or may still lose to one, in sat. -/
def claimSat (store : Store) (token : ExternalId) : ℕ :=
  (store.refundAttempt.row token).elim (if Exposed store token then figure store token else 0)
    fun row => (positive row.amountSat).getD 0

theorem claimSat_of_row {store : Store} {token : ExternalId} {row : RefundRow}
    (found : store.refundAttempt.row token = some row) :
    claimSat store token = (positive row.amountSat).getD 0 := by
  rw [claimSat, found, Option.elim_some]

theorem claimSat_of_none {store : Store} {token : ExternalId}
    (absent : store.refundAttempt.row token = none) :
    claimSat store token = if Exposed store token then figure store token else 0 := by
  rw [claimSat, absent, Option.elim_none]

/-- A token without a refund row and without a settled invoice has no claim. -/
theorem claimSat_of_unsettled {store : Store} {token : ExternalId}
    (absent : store.refundAttempt.row token = none) (unsettled : settledInvoice store token = none) :
    claimSat store token = 0 := by
  rw [claimSat_of_none absent, if_neg]
  rintro ⟨-, invoice, settled, -⟩
  rw [unsettled] at settled
  cases settled

/-- The claims may be summed over any set that contains the tokens. -/
theorem sum_claims_of_subset (store : Store) {wide : Finset ExternalId} (inside : tokens store ⊆ wide) :
    ∑ token ∈ tokens store, claimSat store token * 1000 = ∑ token ∈ wide, claimSat store token * 1000 := by
  refine Finset.sum_subset inside fun token _ outside => ?_
  obtain ⟨noRefund, noInvoice⟩ := not_or.mp (Finset.mem_union.not.mp outside)
  rw [Table.mem_keys] at noRefund noInvoice
  have absent : store.refundAttempt.row token = none := by simpa using noRefund
  have unbilled : store.invoice.row token = none := by simpa using noInvoice
  have unsettled : settledInvoice store token = none := by
    rw [settledInvoice, unbilled, Option.filter_none]
  rw [claimSat_of_unsettled absent unsettled, zero_mul]

/-- **A claim is what was sent or what is owed.** -/
theorem sent_add_owed (store : Store) :
    sentMsat store + owedMsat store = ∑ token ∈ tokens store, claimSat store token * 1000 := by
  have inside : store.refundAttempt.keys ⊆ tokens store := Finset.subset_union_left
  rw [sentMsat, store.refundAttempt.sum_eq_of_subset _ inside, owedMsat, refundsMsat,
    ← Finset.sum_add_distrib]
  refine Finset.sum_congr rfl fun token _ => ?_
  cases found : store.refundAttempt.row token with
  | none =>
      have path : Refundable store token ↔ Exposed store token :=
        or_iff_right fun ⟨row, known, _⟩ => by rw [found] at known; cases known
      rw [claimSat_of_none found, refundableSat, found, Option.elim_none, Option.elim_none, zero_add]
      simp only [path]
      split_ifs
      · rfl
      · rfl
  | some row =>
      have path : Refundable store token ↔ row.status ≠ .sent := by
        refine ⟨fun path sent => ?_, fun unsent => .inl ⟨row, found, unsent⟩⟩
        rcases path with ⟨other, known, unsent⟩ | ⟨absent, -⟩
        · obtain rfl := Option.some.inj (found.symm.trans known)
          exact unsent sent
        · rw [found] at absent
          cases absent
      rw [claimSat_of_row found, refundableSat, found, Option.elim_some, Option.elim_some, refundCap]
      simp only [path]
      by_cases sent : row.status = .sent
      · rw [if_pos sent, if_neg (not_not.mpr sent), add_zero]
      · rw [if_neg sent, if_pos sent, zero_add]

theorem covered_iff (store : Store) :
    Covered store ↔ Sweep.sweepPayoutsMsat store none +
      ∑ token ∈ tokens store, claimSat store token * 1000 ≤ sumReceiptsMsat store := by
  rw [Covered, add_assoc, sent_add_owed]

/-! ### Where claims come from -/

/-- **Every refund row has its receipt**, and what may still be refunded has its subscription: a
settled invoice without a refund row, and a renewal that waits for a resume. -/
structure Sourced (store : Store) : Prop where
  booked : Booked store
  received : ∀ token, store.refundAttempt.row token ≠ none → Received store token
  owned : ∀ token invoice id, settledInvoice store token = some invoice →
    store.refundAttempt.row token = none → invoice.subscriptionId = some id →
      store.subscription.row id ≠ none
  batches : ∀ key event baseline, store.eventLog.rows.row key = some event →
    event.detail.baseline = some baseline → ∃ invoice,
      settledInvoice store baseline.externalId = some invoice ∧
      invoice.subscriptionId = event.subscriptionId

section Sourced

variable {store : Store} (sourced : Sourced store) {token : ExternalId}

include sourced

/-- A receipt of a settled invoice or with a refund row is counted once. -/
theorem Sourced.oneFigure_of_row {row : RefundRow} (found : store.refundAttempt.row token = some row) :
    OneFigure store token :=
  sourced.booked.oneFigure (sourced.received token (by rw [found]; nofun))

theorem Sourced.row_le {row : RefundRow} (found : store.refundAttempt.row token = some row) :
    (positive row.amountSat).getD 0 ≤ figure store token := by
  have stored := (sourced.oneFigure_of_row found).stored row found
  cases amount : row.amountSat with
  | none => exact Nat.zero_le _
  | some value =>
      have least := stored value amount
      rw [positive, Option.bind_some]
      split_ifs
      · rw [Option.getD_some]
        omega
      · exact Nat.zero_le _

/-- **A receipt covers its claim.** -/
theorem Sourced.claim_le : claimSat store token * 1000 ≤ (receipt store token).getD 0 := by
  have whole : figure store token * 1000 ≤ (receipt store token).getD 0 := Nat.div_mul_le_self _ _
  refine le_trans (Nat.mul_le_mul_right _ ?_) whole
  cases found : store.refundAttempt.row token with
  | none =>
      rw [claimSat_of_none found]
      split_ifs
      · exact le_rfl
      · exact Nat.zero_le _
  | some row =>
      rw [claimSat_of_row found]
      exact sourced.row_le found

/-- A receipt without a settled invoice and without a refund row is none. -/
theorem Sourced.receipt_none (absent : store.refundAttempt.row token = none)
    (unsettled : settledInvoice store token = none) : receipt store token = none := by
  have first : classA store token = none := by
    rw [classA, unsettled]
    rfl
  rw [receipt, first, Option.none_or, classB]
  rcases journalMax_cases store (SettleJournal token) journalMsat with
    none_ | ⟨key, event, value, found, journal, -⟩
  · rw [none_]
    rfl
  · obtain ⟨row, -, -, -, refund, -⟩ := sourced.booked.journals key event token found journal
    rw [absent] at refund
    cases refund

/-- A refund is not above the gross that the sweep prices it at. -/
theorem Sourced.row_le_gross {row : RefundRow} (found : store.refundAttempt.row token = some row) :
    (positive row.amountSat).getD 0 ≤ (Sweep.grossSat store token row).getD 0 := by
  have above : ∀ {least : ℤ} {priced : ℕ}, (priced : ℤ) ≤ least →
      priced ≤ (positive (some least)).getD 0 := by
    intro least priced below
    rw [positive, Option.bind_some]
    split_ifs
    · rw [Option.getD_some]
      omega
    · rw [Option.getD_none]
      omega
  refine (sourced.row_le found).trans ?_
  rw [Sweep.grossSat]
  cases settled : settledInvoice store token with
  | some invoice =>
      obtain ⟨credit, gross, received, -, amount, covered⟩ :=
        sourced.booked.settled token invoice settled
      rw [Option.bind_some, amount, Option.some_or]
      exact above ((sourced.booked.figure_settled settled received).trans_le covered)
  | none =>
      rcases sourced.received token (by rw [found]; exact Option.some_ne_none _) with present | ⟨key, event, known, journal⟩
      · exact absurd settled present
      obtain ⟨row', amount, credit, gross, refund, stored, -, priced, -, alone, -⟩ :=
        sourced.booked.journals key event token known journal
      obtain ⟨row'', amount', refund', stored', is, -⟩ :=
        sourced.booked.figure_journaled settled known journal
      obtain rfl := Option.some.inj (refund.symm.trans refund')
      obtain rfl := Option.some.inj (stored.symm.trans stored')
      have least : ↑gross ≤ journalMax store (SettleJournal token) fun event =>
          event.detail.amountSat := le_journalMax known journal priced
      rw [Option.bind_none, Option.none_or]
      rcases journalMax_cases store (SettleJournal token) (fun event => event.detail.amountSat) with
        none_ | ⟨key', event', largest, -, -, -, max⟩
      · rw [none_] at least
        exact absurd least (by simp)
      · rw [max] at least ⊢
        exact above (is.trans_le ((alone settled).2.trans (WithBot.coe_le_coe.mp least)))

/-- An unsent refund, or a payment that may still make one, is reserved. -/
theorem Sourced.reserved_of_refundable (path : Refundable store token) :
    claimSat store token ≤ Sweep.reserved store token := by
  rcases path with ⟨row, found, unsent⟩ | ⟨absent, invoice, settled, id, owner, row, held, state⟩
  · rw [claimSat_of_row found]
    exact (sourced.row_le found).trans
      ((sourced.oneFigure_of_row found).reserved (.inl ⟨row, found, unsent⟩))
  · have received : Received store token := .inl (by rw [settled]; nofun)
    obtain ⟨present, isSettled⟩ := Option.filter_eq_some_iff.mp settled
    have risk : Sweep.AtRisk store invoice := by
      refine ⟨by simpa using isSettled, id, owner, row, held, ?_⟩
      rcases state with (pending | provisioning | due) | ⟨resuming, -⟩
      · exact .inl pending
      · exact .inr (.inl provisioning)
      · exact .inr (.inr (.inr due))
      · exact .inr (.inr (.inl resuming))
    have covered := (sourced.booked.oneFigure received).reserved (.inr ⟨invoice, present, risk⟩)
    rw [claimSat_of_none absent]
    split_ifs
    · exact covered
    · exact Nat.zero_le _

/-- **What the sweep takes off the receipts is no less than the claims on them.** -/
theorem Sourced.claims_le : ∑ token ∈ tokens store, claimSat store token * 1000 ≤
    Sweep.reservedMsat store + Sweep.sentRefundsMsat store := by
  have inside : store.refundAttempt.keys ⊆ tokens store := Finset.subset_union_left
  rw [Sweep.reservedMsat_eq_of_subset store (Finset.Subset.refl _), Sweep.sentRefundsMsat,
    store.refundAttempt.sum_eq_of_subset _ inside]
  change _ ≤ (∑ token ∈ tokens store, _) + _
  rw [← Finset.sum_add_distrib]
  refine Finset.sum_le_sum fun token _ => ?_
  by_cases path : Refundable store token
  · exact (Nat.mul_le_mul_right _ (sourced.reserved_of_refundable path)).trans (Nat.le_add_right _ _)
  cases found : store.refundAttempt.row token with
  | none =>
      rw [claimSat_of_none found, if_neg fun exposed => path (.inr exposed), zero_mul]
      exact Nat.zero_le _
  | some row =>
      have sent : row.status = .sent := by
        by_contra unsent
        exact path (.inl ⟨row, found, unsent⟩)
      rw [claimSat_of_row found, Option.elim_some, if_pos sent]
      exact (Nat.mul_le_mul_right _ (sourced.row_le_gross found)).trans (Nat.le_add_left _ _)

/-- **The surplus leaves the claims alone**: a sweep that it covers, beside those that are in flight,
sent or fenced. -/
theorem Sourced.surplus_le {outlay : ℕ} (covers : outlay ≤ (Sweep.readSurplus store none).surplusMsat)
    (covered : Covered store) : outlay + (Sweep.sweepPayoutsMsat store none +
      ∑ token ∈ tokens store, claimSat store token * 1000) ≤ sumReceiptsMsat store := by
  have claims := sourced.claims_le
  rw [covered_iff] at covered
  simp only [Sweep.readSurplus, Sweep.Surplus.surplusMsat] at covers
  omega

end Sourced

/-! ### What a transaction does to one receipt -/

/-- **A transaction spares the other receipts**: what it lets a token claim, it brings in under that
token; and a receipt without a refund path gets none. -/
structure Spares (before after : Store) (token : ExternalId) : Prop where
  drawn : (receipt before token).getD 0 + claimSat after token * 1000 ≤
    (receipt after token).getD 0 + claimSat before token * 1000
  final : Received before token → ¬ Refundable before token →
    Received after token ∧ ¬ Refundable after token

section Spares

variable {before after : Store} {token : ExternalId}

theorem Spares.refl (store : Store) (token : ExternalId) : Spares store store token :=
  ⟨le_rfl, fun received closed => ⟨received, closed⟩⟩

/-- **Receipts that are spared are covered** beside what is spent, where they had room for it. -/
theorem covered_of_spares {spent : ℕ}
    (room : spent + (Sweep.sweepPayoutsMsat before none +
      ∑ token ∈ tokens before, claimSat before token * 1000) ≤ sumReceiptsMsat before)
    (spares : ∀ token, Spares before after token)
    (sweeps : Sweep.sweepPayoutsMsat after none ≤ Sweep.sweepPayoutsMsat before none + spent) :
    Covered after := by
  rw [covered_iff]
  set wide := (receiptIds before ∪ receiptIds after) ∪ (tokens before ∪ tokens after)
  have claimed : tokens before ⊆ wide := fun _ member => by simp [wide, member]
  have counted : receiptIds before ⊆ wide := fun _ member => by simp [wide, member]
  have claimed' : tokens after ⊆ wide := fun _ member => by simp [wide, member]
  have counted' : receiptIds after ⊆ wide := fun _ member => by simp [wide, member]
  rw [sum_claims_of_subset before claimed, sumReceiptsMsat_eq_of_subset before counted] at room
  rw [sum_claims_of_subset after claimed', sumReceiptsMsat_eq_of_subset after counted']
  have drawn := Finset.sum_le_sum fun token (_ : token ∈ wide) => (spares token).drawn
  rw [Finset.sum_add_distrib, Finset.sum_add_distrib] at drawn
  omega

theorem Covered.spares (covered : Covered before) (spares : ∀ token, Spares before after token)
    (sweeps : Sweep.sweepPayoutsMsat after none ≤ Sweep.sweepPayoutsMsat before none) :
    Covered after := by
  rw [covered_iff] at covered
  exact covered_of_spares (by omega) spares (sweeps.trans (Nat.le_add_right _ 0))

/-- No subscription starts to make refunds of the token. -/
def Eases (before after : Store) (token : ExternalId) : Prop :=
  ∀ id, before.subscription.row id ≠ none → Exposes after id token → Exposes before id token

/-- A token that nothing new is received or refunded for. -/
theorem Sourced.spares_kept (sourced : Sourced before)
    (received : Received before token → Received after token)
    (same : receipt after token = receipt before token)
    (settled : settledInvoice after token = settledInvoice before token)
    (refund : (after.refundAttempt.row token).map RefundRow.amountSat =
      (before.refundAttempt.row token).map RefundRow.amountSat)
    (sent : ∀ row, before.refundAttempt.row token = some row → row.status = .sent →
      ∃ row', after.refundAttempt.row token = some row' ∧ row'.status = .sent)
    (eases : Eases before after token) : Spares before after token := by
  have exposed : Exposed after token → Exposed before token := by
    rintro ⟨absent, invoice, paid, id, owner, exposes⟩
    have unrefunded : before.refundAttempt.row token = none := by
      rw [absent, Option.map_none] at refund
      exact Option.map_eq_none_iff.mp refund.symm
    rw [settled] at paid
    exact ⟨unrefunded, invoice, paid, id, owner,
      eases id (sourced.owned token invoice id paid unrefunded owner) exposes⟩
  refine ⟨?_, fun here closed => ⟨received here, ?_⟩⟩
  · rw [same]
    refine Nat.add_le_add_left (Nat.mul_le_mul_right _ ?_) _
    cases was : before.refundAttempt.row token with
    | none =>
        rw [was, Option.map_none, Option.map_eq_none_iff] at refund
        rw [claimSat_of_none was, claimSat_of_none refund, figure, figure, same]
        by_cases now : Exposed after token
        · rw [if_pos now, if_pos (exposed now)]
        · rw [if_neg now]
          exact Nat.zero_le _
    | some row =>
        rw [was, Option.map_some] at refund
        obtain ⟨row', is, amount⟩ := Option.map_eq_some_iff.mp refund
        rw [claimSat_of_row was, claimSat_of_row is, amount]
  · rintro (⟨row', is, unsent⟩ | now)
    · rw [is, Option.map_some] at refund
      obtain ⟨row, was, -⟩ := Option.map_eq_some_iff.mp refund.symm
      by_cases isSent : row.status = .sent
      · obtain ⟨other, found, stays⟩ := sent row was isSent
        obtain rfl := Option.some.inj (is.symm.trans found)
        exact unsent stays
      · exact closed (.inl ⟨row, was, isSent⟩)
    · exact closed (.inr (exposed now))

/-- A payment that might be refunded is refunded, at what was received. -/
theorem spares_claimed {row : RefundRow} (same : receipt after token = receipt before token)
    (exposed : Exposed before token) (is : after.refundAttempt.row token = some row)
    (amount : row.amountSat = some ↑(figure before token)) : Spares before after token := by
  refine ⟨?_, fun _ closed => absurd (.inr exposed) closed⟩
  have priced : (positive row.amountSat).getD 0 = figure before token := by
    rw [amount, positive, Option.bind_some]
    split_ifs
    · rw [Option.getD_some]
      omega
    · rw [Option.getD_none]
      omega
  rw [same, claimSat_of_row is, claimSat_of_none exposed.1, if_pos exposed, priced]

/-- **Money comes in**: the token keeps its refund row, or its claim is covered by what came in. -/
theorem Sourced.spares_received (sourced : Sourced before) (next : Sourced after)
    (unsettled : settledInvoice before token = none) (received : Received after token)
    (stays : ∀ row, before.refundAttempt.row token = some row →
      after.refundAttempt.row token = some row)
    (more : (receipt before token).getD 0 ≤ (receipt after token).getD 0) :
    Spares before after token := by
  cases was : before.refundAttempt.row token with
  | none =>
      refine ⟨?_, fun here _ => ?_⟩
      · rw [sourced.receipt_none was unsettled, claimSat_of_unsettled was unsettled, Option.getD_none,
          zero_add, zero_mul, add_zero]
        exact next.claim_le
      · rcases here with present | ⟨key, event, found, journal⟩
        · exact absurd unsettled present
        · obtain ⟨row, -, -, -, refund, -⟩ := sourced.booked.journals key event token found journal
          rw [was] at refund
          cases refund
  | some row =>
      have is := stays row was
      refine ⟨?_, fun _ closed => ⟨received, ?_⟩⟩
      · rw [claimSat_of_row was, claimSat_of_row is]
        exact Nat.add_le_add_right more _
      · rintro (⟨other, found, unsent⟩ | ⟨absent, -⟩)
        · obtain rfl := Option.some.inj (is.symm.trans found)
          exact closed (.inl ⟨row, was, unsent⟩)
        · rw [is] at absent
          cases absent

end Spares

end Lnrent.Solvency
