/-
**One figure per receipt.** Four reads price what was received under an external id. Each of them goes
to the invoice and to the settlement journals in its own way.

* `figure` — what `sum_receipts_msat` counts for the id, in whole sats;
* `OneFigure` — the four reads and the stored refund agree with it;
* `Booked`, `Booked.oneFigure` — what the rows of a receipt have to do with each other, and that the
  reads then agree;
* `Kept` — a transaction that receives nothing keeps the books;
* `Backed`, `one_figure` — **the runs** in which every settlement credits at most the gross it was
  issued for.
-/

import Lnrent.Daemon.System
import Lnrent.Daemon.Surplus
import Lnrent.Reaper.Invisible

namespace Lnrent.Receipts

open Relational Transition Ledger Provenance Capture

/-! ### The figure -/

/-- What the ledger counts for the external id, in whole sats. -/
def figure (store : Store) (externalId : ExternalId) : ℕ := (receipt store externalId).getD 0 / 1000

/-- The external id has provenance of either class. -/
def Received (store : Store) (externalId : ExternalId) : Prop :=
  settledInvoice store externalId ≠ none ∨
    store.eventLog.rows.Any fun _ event => SettleJournal externalId event

instance (store : Store) (externalId : ExternalId) : Decidable (Received store externalId) :=
  inferInstanceAs (Decidable (_ ∨ _))

/-- The receipt may still be refunded: it has a refund that was not sent, or it is a settled invoice
of a subscription in a state from which a refund path still exists. -/
def RefundPath (store : Store) (externalId : ExternalId) : Prop :=
  Maintenance.OpenRefund store externalId ∨
    ∃ invoice ∈ store.invoice.row externalId, Sweep.AtRisk store invoice

instance (store : Store) (externalId : ExternalId) : Decidable (RefundPath store externalId) :=
  have : Decidable (∃ invoice ∈ store.invoice.row externalId, Sweep.AtRisk store invoice) :=
    decidable_of_iff
      (((store.invoice.row externalId).any fun invoice => decide (Sweep.AtRisk store invoice)) = true)
      (by simp [Option.any_eq_true])
  inferInstanceAs (Decidable (_ ∨ _))

/-- **One figure for the receipt.** -/
structure OneFigure (store : Store) (externalId : ExternalId) : Prop where
  lookup : lookupReceivedAmount store externalId = some ↑(figure store externalId)
  listed : ∀ entry, liability store externalId = some entry →
    entry.grossSat = figure store externalId
  reserved : RefundPath store externalId →
    figure store externalId ≤ Sweep.reserved store externalId
  stored : ∀ row, store.refundAttempt.row externalId = some row →
    ∀ amount ∈ row.amountSat, amount ≤ figure store externalId

/-! ### The books of a receipt -/

/-- **What the rows of a receipt have to do with each other.** -/
structure Booked (store : Store) : Prop where
  settled : ∀ externalId invoice, settledInvoice store externalId = some invoice →
    ∃ credit gross, invoice.receivedMsat = some credit ∧ 0 ≤ credit ∧
      invoice.amountSat = some gross ∧ credit / 1000 ≤ gross
  unsettled : ∀ externalId invoice, store.invoice.row externalId = some invoice →
    ¬ Settled invoice → invoice.receivedMsat = none
  opened : ∀ externalId invoice, store.invoice.row externalId = some invoice →
    invoice.status = .opened → invoice.settledAt = none
  expired : ∀ externalId invoice, store.invoice.row externalId = some invoice →
    invoice.status = .expired → invoice.settledAt ≠ none →
      store.refundAttempt.row externalId ≠ none
  refunds : ∀ externalId row, store.refundAttempt.row externalId = some row →
    ∃ amount, row.amountSat = some amount ∧
      ∀ invoice credit, settledInvoice store externalId = some invoice →
        invoice.receivedMsat = some credit → amount ≤ credit / 1000
  /-- A settlement journal has a refund row, and is not above what counts in its place. -/
  journals : ∀ key event externalId, store.eventLog.rows.row key = some event →
    SettleJournal externalId event → ∃ row amount credit gross,
      store.refundAttempt.row externalId = some row ∧ row.amountSat = some amount ∧
      event.detail.receivedMsat = some credit ∧ event.detail.amountSat = some gross ∧ 0 ≤ credit ∧
      (settledInvoice store externalId = none → credit / 1000 = amount ∧ amount ≤ gross) ∧
      ∀ invoice received, settledInvoice store externalId = some invoice →
        invoice.receivedMsat = some received → credit / 1000 ≤ received / 1000
  baselines : ∀ key event baseline, store.eventLog.rows.row key = some event →
    event.detail.baseline = some baseline → ∃ invoice credit,
      settledInvoice store baseline.externalId = some invoice ∧
      invoice.receivedMsat = some credit ∧ baseline.amountSat = some (credit / 1000)

section Reads

variable {store : Store} (booked : Booked store) {externalId : ExternalId}

include booked

/-- The figure of a settled invoice is its credit, whatever was journaled. -/
theorem Booked.figure_settled {invoice : InvoiceRow} {credit : ℤ}
    (settled : settledInvoice store externalId = some invoice)
    (received : invoice.receivedMsat = some credit) : (figure store externalId : ℤ) = credit / 1000 := by
  obtain ⟨credit', gross, received', least, -⟩ := booked.settled externalId invoice settled
  obtain rfl := Option.some.inj (received.symm.trans received')
  unfold figure receipt classA
  rw [settled, Option.bind_some, received, Option.some_or, positive, Option.bind_some]
  split_ifs with some_
  · rw [Option.some_or, Option.getD_some]
    omega
  have zero : credit = 0 := by omega
  rw [Option.none_or, classB]
  rcases journalMax_cases store (SettleJournal externalId) journalMsat with
    none_ | ⟨key, event, value, found, journal, priced, max⟩
  · rw [none_, zero]
    rfl
  · obtain ⟨row, amount, journaled, gross', -, -, known, -, -, -, below⟩ :=
      booked.journals key event externalId found journal
    have small := below invoice credit settled received
    rw [journalMsat, known, Option.some_or] at priced
    obtain rfl := Option.some.inj priced
    rw [max]
    show (((if 0 < journaled then some journaled.toNat else none : Option ℕ).getD 0 / 1000 : ℕ) : ℤ) = _
    split_ifs
    · rw [Option.getD_some]
      omega
    · rw [Option.getD_none]
      omega

/-- A settlement journal that counts, and what the journals of its id come to. -/
theorem Booked.figure_journaled (unsettled : settledInvoice store externalId = none) {key : ℕ}
    {event : EventRow} (found : store.eventLog.rows.row key = some event)
    (journal : SettleJournal externalId event) : ∃ row amount,
    store.refundAttempt.row externalId = some row ∧ row.amountSat = some amount ∧
      (figure store externalId : ℤ) = amount ∧ 0 ≤ amount := by
  obtain ⟨row, amount, credit, gross, refund, stored, received, -, least, alone, -⟩ :=
    booked.journals key event externalId found journal
  obtain ⟨same, -⟩ := alone unsettled
  refine ⟨row, amount, refund, stored, ?_, by omega⟩
  have none_ : classA store externalId = none := by
    rw [classA, unsettled]
    rfl
  rw [figure, receipt, none_, Option.none_or, classB]
  have above : ↑credit ≤ journalMax store (SettleJournal externalId) journalMsat :=
    le_journalMax found journal (by rw [journalMsat, received, Option.some_or])
  rcases journalMax_cases store (SettleJournal externalId) journalMsat with
    none_ | ⟨key', event', value, found', journal', priced, max⟩
  · rw [none_] at above
    exact absurd above (by simp)
  · obtain ⟨row', amount', journaled, gross', refund', stored', known, -, least', alone', -⟩ :=
      booked.journals key' event' externalId found' journal'
    obtain rfl := Option.some.inj (refund.symm.trans refund')
    obtain rfl := Option.some.inj (stored.symm.trans stored')
    obtain ⟨same', -⟩ := alone' unsettled
    rw [journalMsat, known, Option.some_or] at priced
    obtain rfl := Option.some.inj priced
    rw [max]
    show (((if 0 < journaled then some journaled.toNat else none : Option ℕ).getD 0 / 1000 : ℕ) : ℤ) = _
    split_ifs
    · rw [Option.getD_some]
      omega
    · rw [Option.getD_none]
      omega

/-- A settled invoice is looked up, listed and reserved at its credit. -/
theorem Booked.settled_oneFigure {invoice : InvoiceRow}
    (settled : settledInvoice store externalId = some invoice) : OneFigure store externalId := by
  obtain ⟨credit, gross, received, least, amount, covered⟩ := booked.settled externalId invoice settled
  have is := booked.figure_settled settled received
  have priced : creditSat invoice = some (credit / 1000) := by
    rw [creditSat, received, Option.map_some, Option.some_or]
  have listed : ∀ {value : ℕ}, positive (creditSat invoice) = some value →
      value = figure store externalId := by
    intro value found
    rw [priced, positive, Option.bind_some] at found
    split_ifs at found
    obtain rfl := Option.some.inj found
    omega
  obtain ⟨present, isSettled⟩ := Option.filter_eq_some_iff.mp settled
  have journaled : store.refundAttempt.row externalId = none → journaledLiability store externalId = none := by
    intro absent
    unfold journaledLiability
    rcases journalMax_cases store (fun event => SettleJournal externalId event ∧
        Unreconciled store event.subscriptionId) journalSat with
      none_ | ⟨key, event, value, found, ⟨journal, -⟩, -⟩
    · rw [none_]
      rfl
    · obtain ⟨row, -, -, -, refund, -⟩ := booked.journals key event externalId found journal
      rw [absent] at refund
      cases refund
  refine ⟨?_, fun entry found => ?_, fun path => ?_, fun row refund stored held => ?_⟩
  · rw [lookupReceivedAmount, settled]
    simp only [priced, is]
  · unfold liability at found
    rcases Option.or_eq_some_iff.mp found with first | ⟨-, rest⟩
    · unfold refundLiability at first
      obtain ⟨row, -, bucket⟩ := Option.bind_eq_some_iff.mp first
      split_ifs at bucket
      rw [settled, Option.bind_some, priced, Option.some_or] at bucket
      obtain ⟨value, is', rfl⟩ := Option.map_eq_some_iff.mp bucket
      exact listed (by rw [priced]; exact is')
    · split_ifs at rest with absent
      rcases Option.or_eq_some_iff.mp rest with second | ⟨-, rest⟩
      · unfold undeliveredLiability at second
        rw [settled, Option.bind_some] at second
        split_ifs at second
        obtain ⟨value, is', rfl⟩ := Option.map_eq_some_iff.mp second
        exact listed is'
      · rcases Option.or_eq_some_iff.mp rest with third | ⟨-, fourth⟩
        · unfold unappliedLiability at third
          rw [settled, Option.bind_some] at third
          split_ifs at third
          obtain ⟨value, is', rfl⟩ := Option.map_eq_some_iff.mp third
          exact listed is'
        · rw [journaled (not_not.mp absent)] at fourth
          cases fourth
  · have enough : figure store externalId ≤ (positive (some gross)).getD 0 := by
      rw [positive, Option.bind_some]
      split_ifs
      · rw [Option.getD_some]
        omega
      · rw [Option.getD_none]
        omega
    have first : ∀ other : Option ℕ,
        (positive (some gross)).getD 0 ≤ ((positive (some gross)).or other).getD 0 := by
      intro other
      cases positive (some gross) with
      | none => exact Nat.zero_le _
      | some value => exact le_rfl
    refine enough.trans ?_
    unfold Sweep.reserved Sweep.atRiskReserve
    rw [present, Option.bind_some]
    by_cases risk : Sweep.AtRisk store invoice
    · rw [if_pos risk, amount]
      exact first _
    · rw [if_neg risk, Option.none_or]
      rcases path with ⟨row, refund, unsent⟩ | ⟨other, found, risk'⟩
      · unfold Sweep.refundReserve Sweep.grossSat
        rw [refund, Option.bind_some, if_neg unsent, settled, Option.bind_some, amount,
          Option.some_or]
      · obtain rfl := Option.some.inj (present.symm.trans found)
        exact absurd risk' risk
  · obtain ⟨amount', stored', below⟩ := booked.refunds externalId row refund
    obtain rfl := Option.some.inj (held.symm.trans stored')
    have small := below invoice credit settled received
    omega

/-- A receipt without an invoice is looked up, listed and reserved at what was journaled. -/
theorem Booked.journaled_oneFigure (unsettled : settledInvoice store externalId = none) {key : ℕ}
    {event : EventRow} (found : store.eventLog.rows.row key = some event)
    (journal : SettleJournal externalId event) : OneFigure store externalId := by
  obtain ⟨row, amount, refund, stored, is, least⟩ := booked.figure_journaled unsettled found journal
  -- every journal of the id is at the amount of its one refund row
  have alike : ∀ {key event}, store.eventLog.rows.row key = some event →
      SettleJournal externalId event → journalSat event = some amount ∧
        ∃ gross, event.detail.amountSat = some gross ∧ amount ≤ gross := by
    intro key event found journal
    obtain ⟨row', amount', credit, gross, refund', stored', received, known, -, alone, -⟩ :=
      booked.journals key event externalId found journal
    obtain rfl := Option.some.inj (refund.symm.trans refund')
    obtain rfl := Option.some.inj (stored.symm.trans stored')
    obtain ⟨same, covered⟩ := alone unsettled
    refine ⟨?_, gross, known, covered⟩
    rw [journalSat, received, Option.map_some, Option.some_or, same]
  refine ⟨?_, fun entry listed => ?_, fun path => ?_, fun row' refund' stored' held => ?_⟩
  · rw [lookupReceivedAmount, unsettled]
    rcases firstJournal_cases store externalId with ⟨-, none_⟩ | ⟨key', event', first, found', journal'⟩
    · exact absurd journal (none_ key event found)
    · rw [first, Option.bind_some, (alike found' journal').1, is]
  · unfold liability at listed
    rw [refund, if_pos (by simp), Option.or_none] at listed
    unfold refundLiability at listed
    rw [refund, Option.bind_some] at listed
    split_ifs at listed
    rw [unsettled, Option.bind_none, Option.none_or] at listed
    obtain ⟨value, priced, rfl⟩ := Option.map_eq_some_iff.mp listed
    rcases journalMax_cases store (SettleJournal externalId) journalSat with
      none_ | ⟨key', event', value', found', journal', priced', max⟩
    · rw [none_] at priced
      cases priced
    · obtain rfl := Option.some.inj (priced'.symm.trans (alike found' journal').1)
      rw [max] at priced
      have known : (if 0 < value' then some value'.toNat else none) = some value := priced
      split_ifs at known
      obtain rfl := Option.some.inj known
      show value'.toNat = figure store externalId
      omega
  · rcases path with ⟨row', refund', unsent⟩ | ⟨invoice, present, isSettled, -⟩
    · obtain rfl := Option.some.inj (refund.symm.trans refund')
      have safe : Sweep.atRiskReserve store externalId = none := by
        unfold Sweep.atRiskReserve
        cases present : store.invoice.row externalId with
        | none => rfl
        | some invoice =>
            rw [Option.bind_some, if_neg]
            rintro ⟨isSettled, -⟩
            have settled : settledInvoice store externalId = some invoice :=
              Option.filter_eq_some_iff.mpr ⟨present, by simpa using isSettled⟩
            rw [unsettled] at settled
            cases settled
      rw [Sweep.reserved, safe, Option.none_or, Sweep.refundReserve, refund, Option.bind_some,
        if_neg unsent, Sweep.grossSat, unsettled, Option.bind_none, Option.none_or]
      obtain ⟨-, gross, known, covered⟩ := alike found journal
      have above : ↑gross ≤ journalMax store (SettleJournal externalId) fun event =>
          event.detail.amountSat := le_journalMax found journal known
      rcases journalMax_cases store (SettleJournal externalId) (fun event => event.detail.amountSat) with
        none_ | ⟨key', event', value', -, -, -, max⟩
      · rw [none_] at above
        exact absurd above (by simp)
      · rw [max] at above ⊢
        have least' : gross ≤ value' := WithBot.coe_le_coe.mp above
        show _ ≤ (if 0 < value' then some value'.toNat else none : Option ℕ).getD 0
        split_ifs
        · rw [Option.getD_some]
          omega
        · rw [Option.getD_none]
          omega
    · have settled : settledInvoice store externalId = some invoice :=
        Option.filter_eq_some_iff.mpr ⟨present, by simpa using isSettled⟩
      rw [unsettled] at settled
      cases settled
  · obtain rfl := Option.some.inj (refund.symm.trans refund')
    obtain rfl := Option.some.inj (held.symm.trans stored)
    exact is.ge

/-- **The reads agree on what is booked.** -/
theorem Booked.oneFigure (received : Received store externalId) : OneFigure store externalId := by
  cases settled : settledInvoice store externalId with
  | some invoice => exact booked.settled_oneFigure settled
  | none =>
      rcases received with present | ⟨key, event, found, journal⟩
      · exact absurd settled present
      · exact booked.journaled_oneFigure settled found journal

end Reads

/-! ### Transactions that receive nothing -/

/-- **The journal gains no settlement and no batch.** -/
structure Quiet (before after : Journal EventRow) : Prop where
  settles : ∀ key event, event.kind.isSettleRefund = true →
    (before.rows.row key = some event ↔ after.rows.row key = some event)
  baselines : ∀ key event, after.rows.row key = some event → event.detail.baseline ≠ none →
    before.rows.row key = some event

theorem Quiet.refl (log : Journal EventRow) : Quiet log log := ⟨fun _ _ _ => .rfl, fun _ _ found _ => found⟩

theorem Quiet.trans {first second third : Journal EventRow} (one : Quiet first second)
    (two : Quiet second third) : Quiet first third where
  settles key event settle := (one.settles key event settle).trans (two.settles key event settle)
  baselines key event found batch :=
    one.baselines key event (two.baselines key event found batch) batch

theorem Quiet.append {log : Journal EventRow} {event : EventRow}
    (other : event.kind.isSettleRefund = false) (plain : event.detail.baseline = none) :
    Quiet log (log.append event) where
  settles key entry settle := by
    rw [log.append_row_eq_some]
    refine ⟨.inr, ?_⟩
    rintro (⟨-, rfl⟩ | found)
    · rw [other] at settle
      cases settle
    · exact found
  baselines key entry found batch := by
    rcases (log.append_row_eq_some event entry key).mp found with ⟨-, rfl⟩ | found
    · exact absurd plain batch
    · exact found

/-- An invoice that nothing was received for. -/
structure Unpaid (invoice : InvoiceRow) : Prop where
  unpaid : invoice.status ≠ .paid
  unsettled : invoice.settledAt = none

theorem Unpaid.not_settled {invoice : InvoiceRow} (unpaid : Unpaid invoice) : ¬ Settled invoice :=
  not_or.mpr ⟨unpaid.unpaid, not_not.mpr unpaid.unsettled⟩

/-- **An invoice row that takes no money**: it stays, or it was not paid and is not now. -/
inductive Rebills : Option InvoiceRow → Option InvoiceRow → Prop where
  | same (row : Option InvoiceRow) : Rebills row row
  | issued {row : InvoiceRow} (unpaid : Unpaid row) (fresh : row.receivedMsat = none) :
      Rebills none (some row)
  | rewritten {old new : InvoiceRow} (was : Unpaid old) (is : Unpaid new)
      (received : new.receivedMsat = old.receivedMsat) : Rebills (some old) (some new)
  | dropped {old : InvoiceRow} (was : Unpaid old) : Rebills (some old) none

theorem Rebills.settled {old new : Option InvoiceRow} (rebills : Rebills old new) :
    new.filter (fun invoice => Settled invoice) = old.filter fun invoice => Settled invoice := by
  have none_ : ∀ {invoice : InvoiceRow}, Unpaid invoice →
      (some invoice).filter (fun invoice => Settled invoice) = none := by
    intro invoice unpaid
    rw [Option.filter_some, if_neg (by simpa using unpaid.not_settled)]
  cases rebills with
  | same => rfl
  | issued unpaid => rw [none_ unpaid, Option.filter_none]
  | rewritten was is => rw [none_ was, none_ is]
  | dropped was => rw [none_ was, Option.filter_none]

/-- **A transaction that receives nothing.** -/
structure Kept (before after : Store) : Prop where
  invoice : ∀ externalId, Rebills (before.invoice.row externalId) (after.invoice.row externalId)
  refund : ∀ externalId, (after.refundAttempt.row externalId).map RefundRow.amountSat =
    (before.refundAttempt.row externalId).map RefundRow.amountSat
  log : Quiet before.eventLog after.eventLog

section Keeps

variable {before after last store : Store} {now : ℤ}

theorem Kept.settledInvoice (kept : Kept before after) (externalId : ExternalId) :
    settledInvoice after externalId = settledInvoice before externalId :=
  (kept.invoice externalId).settled

/-- A refund row that is there was there, at its amount. -/
theorem Kept.refund_found (kept : Kept before after) {externalId : ExternalId} {row : RefundRow}
    (found : after.refundAttempt.row externalId = some row) : ∃ old,
    before.refundAttempt.row externalId = some old ∧ row.amountSat = old.amountSat := by
  have same := kept.refund externalId
  rw [found, Option.map_some] at same
  obtain ⟨old, known, amount⟩ := Option.map_eq_some_iff.mp same.symm
  exact ⟨old, known, amount.symm⟩

/-- A refund row that was there is still there, at its amount. -/
theorem Kept.refund_stays (kept : Kept before after) {externalId : ExternalId} {old : RefundRow}
    (found : before.refundAttempt.row externalId = some old) : ∃ row,
    after.refundAttempt.row externalId = some row ∧ row.amountSat = old.amountSat := by
  have same := kept.refund externalId
  rw [found, Option.map_some] at same
  exact Option.map_eq_some_iff.mp same

/-- **It keeps the books.** -/
theorem Booked.kept (booked : Booked before) (kept : Kept before after) : Booked after where
  settled externalId invoice found := by
    rw [kept.settledInvoice] at found
    exact booked.settled externalId invoice found
  unsettled externalId invoice found unsettled := by
    have rebills := kept.invoice externalId
    rw [found] at rebills
    generalize was : before.invoice.row externalId = old at rebills
    cases rebills with
    | same => exact booked.unsettled externalId invoice was unsettled
    | issued _ fresh => exact fresh
    | rewritten unpaid _ received =>
        rw [received]
        exact booked.unsettled externalId _ was unpaid.not_settled
  opened externalId invoice found opened := by
    have rebills := kept.invoice externalId
    rw [found] at rebills
    generalize was : before.invoice.row externalId = old at rebills
    cases rebills with
    | same => exact booked.opened externalId invoice was opened
    | issued unpaid => exact unpaid.unsettled
    | rewritten _ is => exact is.unsettled
  expired externalId invoice found expired settled := by
    have rebills := kept.invoice externalId
    rw [found] at rebills
    generalize was : before.invoice.row externalId = old at rebills
    cases rebills with
    | same =>
        obtain ⟨row, refund⟩ :=
          Option.ne_none_iff_exists'.mp (booked.expired externalId invoice was expired settled)
        obtain ⟨row', refund', -⟩ := kept.refund_stays refund
        rw [refund']
        nofun
    | issued unpaid => exact absurd unpaid.unsettled settled
    | rewritten _ is => exact absurd is.unsettled settled
  refunds externalId row found := by
    obtain ⟨old, known, same⟩ := kept.refund_found found
    rw [kept.settledInvoice, same]
    exact booked.refunds externalId old known
  journals key event externalId found journal := by
    obtain ⟨row, amount, credit, gross, refund, stored, rest⟩ :=
      booked.journals key event externalId ((kept.log.settles key event journal.1).mpr found) journal
    obtain ⟨row', refund', same⟩ := kept.refund_stays refund
    rw [kept.settledInvoice]
    exact ⟨row', amount, credit, gross, refund', same.trans stored, rest⟩
  baselines key event baseline found batch := by
    rw [kept.settledInvoice]
    exact booked.baselines key event baseline
      (kept.log.baselines key event found (by rw [batch]; nofun)) batch

/-! ### How such transactions are built -/

theorem Kept.refl (store : Store) : Kept store store :=
  ⟨fun _ => .same _, fun _ => rfl, .refl _⟩

/-- A write to the other tables. -/
theorem Kept.aside (invoice : after.invoice = store.invoice)
    (refund : after.refundAttempt = store.refundAttempt)
    (log : Quiet store.eventLog after.eventLog) : Kept store after where
  invoice externalId := by
    rw [invoice]
    exact .same _
  refund externalId := by rw [refund]
  log := log

theorem Kept.then (kept : Kept before after) (invoice : last.invoice = after.invoice)
    (refund : last.refundAttempt = after.refundAttempt) (log : Quiet after.eventLog last.eventLog) :
    Kept before last where
  invoice externalId := by
    rw [invoice]
    exact kept.invoice externalId
  refund externalId := by
    rw [refund]
    exact kept.refund externalId
  log := kept.log.trans log

theorem Kept.noted (kept : Kept before after) {owner : Option OrderId} {kind : EventKind}
    {detail : Detail} {time : ℤ} (other : kind.isSettleRefund = false)
    (plain : detail.baseline = none) : Kept before (after.log owner kind detail time) :=
  kept.then rfl rfl (.append other plain)

theorem Kept.enqueue (kept : Kept before after) {message : OutboxId} {owner : OrderId} :
    Kept before (after.enqueue message owner) :=
  kept.then (by simp) (by simp) (by rw [(Store.enqueue_frame ..).2.2.1]; exact .refl _)

theorem Kept.release (kept : Kept before after) {order : OrderId} :
    Kept before (Reservation.releaseTxn after order now) := by
  refine kept.then (by simp) (by simp) ?_
  unfold Reservation.releaseTxn
  split
  · split_ifs
    · exact .refl _
    · exact .append rfl rfl
  · exact .refl _

theorem Kept.cacheReply (kept : Kept before after) {key : RequestKey} {reply : Msg} :
    Kept before (OrderIntake.cacheReply after key reply now) := by
  unfold OrderIntake.cacheReply
  split
  · exact kept
  · exact kept.then rfl rfl (.refl _)

/-- A write to one invoice that takes no money. -/
theorem Kept.putInvoice (kept : Kept before after) (same : after.invoice = before.invoice)
    {externalId : ExternalId} {row : InvoiceRow}
    (rebills : Rebills (before.invoice.row externalId) (some row)) :
    Kept before { after with invoice := after.invoice.put externalId row } where
  invoice other := by
    show Rebills _ ((after.invoice.put externalId row).row other)
    rw [same]
    by_cases own : other = externalId
    · subst own
      rw [Table.put_row_self]
      exact rebills
    · rw [Table.put_row_other _ _ own]
      exact .same _
  refund := kept.refund
  log := kept.log

theorem Kept.upsertRenewal (kept : Kept before after) (same : after.invoice = before.invoice)
    {externalId : ExternalId} {id : OrderId} {issued : Issued}
    (billed : upsertRenewalInvoice after externalId id issued now = some last) : Kept before last := by
  rcases upsertRenewalInvoice_cases billed with
    rfl | ⟨row, rfl, ⟨absent, rfl⟩ | ⟨old, found, unpaid, unsettled, rfl⟩⟩
  · exact kept
  · refine kept.putInvoice same ?_
    rw [← same, absent]
    exact .issued ⟨nofun, rfl⟩ rfl
  · refine kept.putInvoice same ?_
    rw [← same, found]
    exact .rewritten ⟨unpaid, unsettled⟩ ⟨nofun, unsettled⟩ rfl

/-- A write to a refund row that keeps its amount. -/
theorem Kept.putAttempt {externalId : ExternalId} {row new : RefundRow}
    (found : store.refundAttempt.row externalId = some row) (amount : new.amountSat = row.amountSat) :
    Kept store (Refund.putAttempt store externalId new) where
  invoice _ := .same _
  refund other := by
    show ((store.refundAttempt.put externalId new).row other).map _ = _
    by_cases same : other = externalId
    · subst same
      rw [Table.put_row_self, found, Option.map_some, Option.map_some, amount]
    · rw [Table.put_row_other _ _ same]
  log := .refl _

end Keeps

/-! ### The daemon's transactions -/

section Transactions

variable {store after : Store} {recipe : Recipe} {now : ℤ}

/-- What expires was not paid. -/
theorem Booked.expires (booked : Booked store) {externalId : ExternalId} {invoice : InvoiceRow}
    (found : store.invoice.row externalId = some invoice) (opened : invoice.status = .opened) :
    Rebills (some invoice) (some { invoice with status := .expired }) := by
  have unsettled := booked.opened externalId invoice found opened
  exact .rewritten ⟨by rw [opened]; nofun, unsettled⟩ ⟨nofun, unsettled⟩ rfl

theorem fired_kept (booked : Booked store) {answers : Reconcile.Answers} {id : OrderId}
    {row : SubscriptionRow} (fired : Reconcile.Fired store recipe answers id row now after) :
    Kept store after := by
  cases fired with
  | idle => exact .refl store
  | expired =>
      have moved : Kept store { store with
          subscription := store.subscription.put id
            { row with state := .expired, nextDeadline := none, updatedAt := now }
          invoice := store.invoice.update (fun _ invoice => Reconcile.OpenOrderInvoice id invoice)
            fun invoice => { invoice with status := .expired } } := by
        refine ⟨fun externalId => ?_, fun _ => rfl, .refl _⟩
        show Rebills _ ((store.invoice.update _ _).row externalId)
        rw [Table.update_row]
        cases known : store.invoice.row externalId with
        | none => exact .same _
        | some invoice =>
            rw [Option.map_some]
            split_ifs with opened
            · exact booked.expires known opened.2.2
            · exact .same _
      exact moved.release.noted rfl rfl
  | reminded _ _ _ _ _ billed =>
      refine ((Kept.upsertRenewal ?_ ?_ billed).enqueue.enqueue).noted rfl rfl
      · exact .aside rfl rfl (.refl _)
      · rfl
  | suspended =>
      refine Kept.noted (Kept.enqueue ?_) rfl rfl
      exact .aside rfl rfl (.refl _)
  | @destroyed _ terminated _ _ _ _ released =>
      have moved : Kept store terminated := by
        rw [released]
        refine Kept.noted (Kept.release ?_) rfl rfl
        exact .aside rfl rfl (.refl _)
      split_ifs
      · exact moved.then rfl rfl (.refl _)
      · exact moved

theorem closes_kept {externalId : ExternalId} {row : RefundRow}
    (found : store.refundAttempt.row externalId = some row)
    (closes : Refund.Closes store externalId row now after) : Kept store after := by
  have put : Kept store (Refund.putAttempt store externalId (Refund.sentAttempt row)) :=
    .putAttempt found rfl
  cases closes with
  | detached => exact put
  | closed =>
      refine Kept.release ?_
      exact put.then rfl rfl (.refl _)

theorem Kept.enqueueRefund (kept : Kept store after) {externalId : ExternalId}
    {owner : Option OrderId} : Kept store (Refund.enqueueRefund after externalId owner) :=
  kept.then (Refund.enqueueRefund_frame ..).1.invoice (Refund.enqueueRefund_frame ..).2.1
    (by rw [(Refund.enqueueRefund_frame ..).2.2.1]; exact .refl _)

theorem committed_kept {externalId : ExternalId}
    (committed : Refund.Committed store externalId now after) : Kept store after := by
  cases committed with
  | idle => exact .refl store
  | deferred => exact .noted (.refl store) rfl rfl
  | @retried row found =>
      have put : Kept store (Refund.putAttempt store externalId
          { row with attempts := row.attempts + 1 }) := .putAttempt found rfl
      exact put.noted rfl rfl
  | @failed row found =>
      have put : Kept store (Refund.putAttempt store externalId
          { row with status := .failed, attempts := row.attempts + 1 }) := .putAttempt found rfl
      exact put.enqueueRefund.noted rfl rfl
  | resolved found => exact .putAttempt found rfl
  | @requeued row found =>
      have put : Kept store (Refund.putAttempt store externalId
          { row with status := .pending, attempts := 0 }) := .putAttempt found rfl
      refine .noted ?_ rfl rfl
      exact put.then rfl rfl (.refl _)

theorem reap_kept (store : Store) (cutoff : ℤ) : Kept store (Maintenance.reapTerminalRows store cutoff) where
  invoice externalId := by
    cases found : store.invoice.row externalId with
    | none =>
        cases kept : (Maintenance.reapTerminalRows store cutoff).invoice.row externalId with
        | none => exact .same _
        | some invoice =>
            rw [((Reaper.reap_invoice_row store cutoff externalId invoice).mp kept).1] at found
            cases found
    | some invoice =>
        by_cases reaped : invoice.status = .expired ∧ invoice.settledAt = none ∧
            invoice.expiresAt.getD invoice.issuedAt < cutoff ∧
              ¬ Maintenance.OpenRefund store externalId
        · obtain gone | ⟨other, kept⟩ := Option.eq_none_or_eq_some
            ((Maintenance.reapTerminalRows store cutoff).invoice.row externalId)
          · rw [gone]
            exact .dropped ⟨by rw [reaped.1]; nofun, reaped.2.1⟩
          · obtain ⟨present, stays⟩ := (Reaper.reap_invoice_row store cutoff externalId other).mp kept
            obtain rfl := Option.some.inj (found.symm.trans present)
            exact absurd reaped stays
        · rw [(Reaper.reap_invoice_row store cutoff externalId invoice).mpr ⟨found, reaped⟩]
          exact .same _
  refund _ := rfl
  log :=
    { settles := (Reaper.reap_sameReceipts store cutoff).journal
      baselines := fun key event found _ => ((Reaper.reap_event_row store cutoff key event).mp found).1 }

theorem restart_kept (store : Store) (now : ℤ) :
    Kept store (Reconcile.applyRestartDowntimeCredit store now) := by
  unfold Reconcile.applyRestartDowntimeCredit
  split
  · exact .aside rfl rfl (.refl _)
  · split_ifs
    · exact .aside rfl rfl (.refl _)
    · exact .aside rfl rfl (.refl _)

/-- **A step of an order delivery receives nothing.** -/
theorem advanced_kept {intake : OrderIntake.Intake} {clock : ℤ} {key : RequestKey}
    {request : OrderIntake.OrderRequest} {phase : OrderIntake.Phase}
    {next : Option OrderIntake.Phase}
    (advanced : OrderIntake.Advanced intake clock key request store phase next after) :
    Kept store after := by
  cases advanced with
  | held =>
      refine Kept.noted ?_ rfl rfl
      exact .aside rfl rfl (.refl _)
  | @placed write _ _ _ _ free =>
      have vacant : store.invoice.row (.order write.key) = none := by
        by_contra taken
        exact free (.inr (.inl taken))
      have put : Kept store { store with
          invoice := store.invoice.put (.order write.key) write.invoice } := by
        refine (Kept.refl store).putInvoice rfl ?_
        rw [vacant]
        exact .issued ⟨nofun, rfl⟩ rfl
      refine Kept.noted ?_ rfl rfl
      exact put.then rfl rfl (.refl _)
  | withdrawn => exact (Kept.refl store).release.cacheReply
  | holdLost | failed => exact (Kept.refl store).cacheReply
  | released => exact (Kept.refl store).release
  | _ => exact .refl store

/-! ### Transactions that receive or refund -/

theorem asI64_of_lt {value : ℕ} (fits : value < 2 ^ 63) : asI64 value = value := by
  rw [asI64, BitVec.toInt_eq_toNat_of_lt]
  · simp only [BitVec.toNat_ofNat]
    omega
  · simp only [BitVec.toNat_ofNat]
    omega

/-- A refund row for a settled invoice, at its credit. -/
theorem Booked.insertRefund (booked : Booked store) {externalId : ExternalId} {invoice : InvoiceRow}
    {credit : ℤ} (settled : settledInvoice store externalId = some invoice)
    (received : invoice.receivedMsat = some credit) (subscription : Option OrderId)
    (dest : Option Text) :
    Booked (insertRefundAttemptTxn store subscription dest externalId (some (credit / 1000))).2 := by
  unfold insertRefundAttemptTxn
  cases absent : store.refundAttempt.row externalId with
  | some row => exact booked
  | none =>
      have other : ∀ {other row}, store.refundAttempt.row other = some row → other ≠ externalId := by
        rintro other row found rfl
        rw [absent] at found
        cases found
      refine ⟨booked.settled, booked.unsettled, booked.opened, fun token invoice found expired stamped => ?_,
        fun token row found => ?_, fun key event token found journal => ?_, booked.baselines⟩
      · show (store.refundAttempt.put externalId _).row token ≠ none
        rw [Table.put_row]
        split_ifs
        · nofun
        · exact booked.expired token invoice found expired stamped
      · have held : (store.refundAttempt.put externalId _).row token = some row := found
        rw [Table.put_row] at held
        split_ifs at held with same
        · obtain rfl := Option.some.inj held
          refine ⟨credit / 1000, rfl, fun invoice' credit' settled' received' => ?_⟩
          subst same
          obtain rfl := Option.some.inj (settled.symm.trans settled')
          obtain rfl := Option.some.inj (received.symm.trans received')
          exact le_rfl
        · exact booked.refunds token row held
      · obtain ⟨row, rest⟩ := booked.journals key event token found journal
        refine ⟨row, ?_⟩
        obtain ⟨amount, credit', gross, refund, rest⟩ := rest
        refine ⟨amount, credit', gross, ?_, rest⟩
        show (store.refundAttempt.put externalId _).row token = some row
        rw [Table.put_row_other _ _ (other refund)]
        exact refund

/-- **A store after money came in for an invoice**: the invoice has its credit, its refund row keeps
its amount or is new at the credit, and what is journaled is journaled at the credit. -/
structure Receives (before after : Store) (externalId : ExternalId) (invoice : InvoiceRow)
    (credit gross : ℤ) : Prop where
  unsettled : settledInvoice before externalId = none
  invoices : after.invoice = before.invoice.put externalId invoice
  settled : Settled invoice
  received : invoice.receivedMsat = some credit
  amount : invoice.amountSat = some gross
  least : 0 ≤ credit
  covered : credit / 1000 ≤ gross
  closed : invoice.status ≠ .opened
  expired : invoice.status = .expired → after.refundAttempt.row externalId ≠ none
  refunds : ∀ other, other ≠ externalId →
    after.refundAttempt.row other = before.refundAttempt.row other
  refund : after.refundAttempt.row externalId = before.refundAttempt.row externalId ∨
    before.refundAttempt.row externalId = none ∧ ∃ row,
      after.refundAttempt.row externalId = some row ∧ row.amountSat = some (credit / 1000)
  below : ∀ row, before.refundAttempt.row externalId = some row →
    ∀ amount ∈ row.amountSat, amount ≤ credit / 1000
  journals : ∀ key event, after.eventLog.rows.row key = some event →
    before.eventLog.rows.row key = some event ∨
      event.detail.externalId = some externalId ∧ event.detail.receivedMsat = some credit ∧
      (∃ amount, event.detail.amountSat = some amount) ∧
      (event.kind.isSettleRefund = true → after.refundAttempt.row externalId ≠ none) ∧
      ∀ baseline, event.detail.baseline = some baseline →
        baseline.externalId = externalId ∧ baseline.amountSat = some (credit / 1000)

theorem Receives.settledInvoice_self {externalId : ExternalId} {invoice : InvoiceRow}
    {credit gross : ℤ} (receives : Receives store after externalId invoice credit gross) :
    settledInvoice after externalId = some invoice := by
  rw [settledInvoice, receives.invoices, Table.put_row_self, Option.filter_some,
    if_pos (by simpa using receives.settled)]

theorem Receives.settledInvoice_other {externalId other : ExternalId} {invoice : InvoiceRow}
    {credit gross : ℤ} (receives : Receives store after externalId invoice credit gross)
    (different : other ≠ externalId) : settledInvoice after other = settledInvoice store other := by
  rw [settledInvoice, receives.invoices, Table.put_row_other _ _ different, settledInvoice]

/-- The refund row that the id had before the money came in, with the amount it keeps. -/
theorem Receives.refund_stays {externalId : ExternalId} {invoice : InvoiceRow} {credit gross : ℤ}
    (receives : Receives store after externalId invoice credit gross) {row : RefundRow}
    (found : store.refundAttempt.row externalId = some row) :
    after.refundAttempt.row externalId = some row := by
  rcases receives.refund with same | ⟨absent, -⟩
  · rw [same, found]
  · rw [found] at absent
    cases absent

/-- **It keeps the books.** -/
theorem Booked.receives (booked : Booked store) {externalId : ExternalId} {invoice : InvoiceRow}
    {credit gross : ℤ} (receives : Receives store after externalId invoice credit gross) :
    Booked after where
  settled other row found := by
    by_cases same : other = externalId
    · subst same
      obtain rfl := Option.some.inj (receives.settledInvoice_self.symm.trans found)
      exact ⟨credit, gross, receives.received, receives.least, receives.amount, receives.covered⟩
    · rw [receives.settledInvoice_other same] at found
      exact booked.settled other row found
  unsettled other row found unsettled := by
    rw [receives.invoices, Table.put_row] at found
    split_ifs at found
    · obtain rfl := Option.some.inj found
      exact absurd receives.settled unsettled
    · exact booked.unsettled other row found unsettled
  opened other row found opened := by
    rw [receives.invoices, Table.put_row] at found
    split_ifs at found
    · obtain rfl := Option.some.inj found
      exact absurd opened receives.closed
    · exact booked.opened other row found opened
  expired other row found expired settled := by
    rw [receives.invoices, Table.put_row] at found
    split_ifs at found with same
    · obtain rfl := Option.some.inj found
      rw [same]
      exact receives.expired expired
    · rw [receives.refunds other same]
      exact booked.expired other row found expired settled
  refunds other row found := by
    by_cases same : other = externalId
    · subst same
      rw [receives.settledInvoice_self]
      have known : ∃ amount, row.amountSat = some amount ∧ amount ≤ credit / 1000 := by
        rcases receives.refund with old | ⟨-, row', new, amount⟩
        · rw [old] at found
          obtain ⟨amount, stored, -⟩ := booked.refunds other row found
          exact ⟨amount, stored, receives.below row found amount stored⟩
        · obtain rfl := Option.some.inj (new.symm.trans found)
          exact ⟨credit / 1000, amount, le_rfl⟩
      obtain ⟨amount, stored, small⟩ := known
      refine ⟨amount, stored, fun invoice' credit' settled received => ?_⟩
      obtain rfl := Option.some.inj settled
      obtain rfl := Option.some.inj (receives.received.symm.trans received)
      exact small
    · rw [receives.refunds other same] at found
      rw [receives.settledInvoice_other same]
      exact booked.refunds other row found
  journals key event other found journal := by
    rcases receives.journals key event found with old | ⟨names, journaled, ⟨amount, priced⟩, owed, -⟩
    · obtain ⟨row, amount, credit', gross', refund, stored, received, priced, least, alone, below⟩ :=
        booked.journals key event other old journal
      by_cases same : other = externalId
      · subst same
        have own := (alone receives.unsettled).1
        have small := receives.below row refund amount stored
        refine ⟨row, amount, credit', gross', receives.refund_stays refund, stored, received, priced,
          least, fun none_ => ?_, fun invoice' credit'' settled received' => ?_⟩
        · rw [receives.settledInvoice_self] at none_
          cases none_
        · rw [receives.settledInvoice_self] at settled
          obtain rfl := Option.some.inj settled
          obtain rfl := Option.some.inj (receives.received.symm.trans received')
          omega
      · rw [receives.settledInvoice_other same, receives.refunds other same]
        exact ⟨row, amount, credit', gross', refund, stored, received, priced, least, alone, below⟩
    · obtain rfl := Option.some.inj (names.symm.trans journal.2)
      obtain ⟨row, refund⟩ := Option.ne_none_iff_exists'.mp (owed journal.1)
      have known : ∃ amount, row.amountSat = some amount := by
        rcases receives.refund with old | ⟨-, row', new, amount⟩
        · rw [old] at refund
          obtain ⟨amount, stored, -⟩ := booked.refunds externalId row refund
          exact ⟨amount, stored⟩
        · obtain rfl := Option.some.inj (new.symm.trans refund)
          exact ⟨_, amount⟩
      obtain ⟨stored, isStored⟩ := known
      rw [receives.settledInvoice_self]
      refine ⟨row, stored, credit, amount, refund, isStored, journaled, priced, receives.least, nofun,
        fun invoice' credit' settled received => ?_⟩
      obtain rfl := Option.some.inj settled
      obtain rfl := Option.some.inj (receives.received.symm.trans received)
      exact le_rfl
  baselines key event baseline found batch := by
    rcases receives.journals key event found with old | ⟨-, -, -, -, own⟩
    · obtain ⟨invoice', credit', settled, rest⟩ := booked.baselines key event baseline old batch
      have other : baseline.externalId ≠ externalId := by
        intro same
        rw [same, receives.unsettled] at settled
        cases settled
      exact ⟨invoice', credit', by rw [receives.settledInvoice_other other, settled], rest⟩
    · obtain ⟨names, amount⟩ := own baseline batch
      rw [names]
      exact ⟨invoice, credit, receives.settledInvoice_self, receives.received, amount⟩

/-- The refund rows after a refund intent: the id has one, the one it had or a new one. -/
theorem refundIntent_rows (base : Store) (subscription : Option OrderId) (dest : Option Text)
    (settlement : Settlement) (fits : settlement.receivedMsat < 2 ^ 63) :
    (∀ other, other ≠ settlement.externalId →
      (refundIntent base subscription dest settlement).2.refundAttempt.row other =
        base.refundAttempt.row other) ∧
    ((refundIntent base subscription dest settlement).2.refundAttempt.row settlement.externalId =
        base.refundAttempt.row settlement.externalId ∨
      base.refundAttempt.row settlement.externalId = none ∧ ∃ row,
        (refundIntent base subscription dest settlement).2.refundAttempt.row settlement.externalId =
          some row ∧ row.amountSat = some ((settlement.receivedMsat : ℤ) / 1000)) ∧
    (refundIntent base subscription dest settlement).2.refundAttempt.row settlement.externalId ≠
      none := by
  have amount : asI64 (settlement.receivedMsat / 1000) = (settlement.receivedMsat : ℤ) / 1000 := by
    rw [asI64_of_lt (by omega)]
    push_cast
    rfl
  unfold refundIntent insertRefundAttemptTxn
  cases found : base.refundAttempt.row settlement.externalId with
  | some row => exact ⟨fun _ _ => rfl, .inl found, by simp [found]⟩
  | none =>
      simp only [amount]
      refine ⟨fun other different => Table.put_row_other _ _ different, .inr ⟨trivial, _,
        Table.put_row_self _ _ _, rfl⟩, ?_⟩
      rw [Table.put_row_self]
      nofun

/-- **A settlement is backed**: where it is the first of its invoice, or of no invoice, it credits at
most the gross, and at least what an earlier refund of the id took. -/
def Backed (store : Store) (settlement : Settlement) : Prop :=
  match store.invoice.row settlement.externalId with
  | none =>
      store.refundAttempt.row settlement.externalId = none →
        settlement.receivedMsat < 2 ^ 63 ∧ settlement.receivedMsat / 1000 ≤ settlement.amountSat
  | some invoice =>
      invoice.status = .opened ∨ invoice.status = .expired ∧ invoice.settledAt = none →
        settlement.receivedMsat < 2 ^ 63 ∧
        (∃ gross ∈ invoice.amountSat, (settlement.receivedMsat : ℤ) / 1000 ≤ gross) ∧
        ∀ row ∈ store.refundAttempt.row settlement.externalId,
          ∀ amount ∈ row.amountSat, amount ≤ (settlement.receivedMsat : ℤ) / 1000

/-- An unmatched settlement is booked by its journal and its refund. -/
theorem Booked.unmatched (booked : Booked store) {settlement : Settlement}
    (absent : store.invoice.row settlement.externalId = none)
    (unrefunded : store.refundAttempt.row settlement.externalId = none)
    (fits : settlement.receivedMsat < 2 ^ 63)
    (covered : settlement.receivedMsat / 1000 ≤ settlement.amountSat) :
    Booked (journal (refundIntent store none none settlement).2 none .settleUnmatchedRefund settlement
      now) := by
  obtain ⟨others, same | ⟨-, row, new, amount⟩, some_⟩ :=
    refundIntent_rows store none none settlement fits
  · rw [same] at some_
    exact absurd unrefunded some_
  have unsettled : settledInvoice store settlement.externalId = none := by
    rw [settledInvoice, absent, Option.filter_none]
  have invoices : (refundIntent store none none settlement).2.invoice = store.invoice :=
    (Capture.insertRefundAttemptTxn_frame ..).1.invoice
  have log : (refundIntent store none none settlement).2.eventLog = store.eventLog :=
    (Capture.insertRefundAttemptTxn_frame ..).2.1
  have settledSame : ∀ other, settledInvoice (journal (refundIntent store none none settlement).2 none
      .settleUnmatchedRefund settlement now) other = settledInvoice store other := by
    intro other
    show ((refundIntent store none none settlement).2.invoice.row other).filter _ = _
    rw [invoices]
    rfl
  have rows : ∀ key event, (journal (refundIntent store none none settlement).2 none
      .settleUnmatchedRefund settlement now).eventLog.rows.row key = some event →
      event = ⟨none, .settleUnmatchedRefund, settlementDetail settlement, now⟩ ∨
        store.eventLog.rows.row key = some event := by
    intro key event found
    have held : ((refundIntent store none none settlement).2.eventLog.append _).rows.row key =
      some event := found
    rw [log, Journal.append_row_eq_some] at held
    exact held.imp_left And.right
  refine ⟨fun other invoice found => ?_, fun other invoice found => ?_, fun other invoice found => ?_,
    fun other invoice found expired stamped => ?_, fun other row' found => ?_,
    fun key event other found isJournal => ?_, fun key event baseline found batch => ?_⟩
  · rw [settledSame] at found
    exact booked.settled other invoice found
  · exact booked.unsettled other invoice (by rw [← invoices]; exact found)
  · exact booked.opened other invoice (by rw [← invoices]; exact found)
  · have held : store.invoice.row other = some invoice := by
      rw [← invoices]
      exact found
    by_cases same : other = settlement.externalId
    · rw [same, absent] at held
      cases held
    · show (refundIntent store none none settlement).2.refundAttempt.row other ≠ none
      rw [others other same]
      exact booked.expired other invoice held expired stamped
  · have held : (refundIntent store none none settlement).2.refundAttempt.row other = some row' := found
    rw [settledSame]
    by_cases same : other = settlement.externalId
    · subst same
      obtain rfl := Option.some.inj (new.symm.trans held)
      refine ⟨_, amount, fun invoice credit settled => ?_⟩
      rw [unsettled] at settled
      cases settled
    · rw [others other same] at held
      exact booked.refunds other row' held
  · rw [settledSame]
    rcases rows key event found with rfl | old
    · obtain rfl := Option.some.inj isJournal.2
      refine ⟨row, _, settlement.receivedMsat, settlement.amountSat, new, amount, rfl, rfl, by positivity,
        fun _ => ⟨rfl, ?_⟩, fun invoice received settled => ?_⟩
      · exact_mod_cast covered
      · rw [unsettled] at settled
        cases settled
    · obtain ⟨row', rest⟩ := booked.journals key event other old isJournal
      refine ⟨row', ?_⟩
      obtain ⟨amount', credit, gross, refund, rest⟩ := rest
      refine ⟨amount', credit, gross, ?_, rest⟩
      show (refundIntent store none none settlement).2.refundAttempt.row other = some row'
      rw [others other ?_]
      · exact refund
      · rintro rfl
        rw [unrefunded] at refund
        cases refund
  · rw [settledSame]
    rcases rows key event found with rfl | old
    · cases batch
    · exact booked.baselines key event baseline old batch

/-- A settlement that is refunded takes its refund and is journaled. -/
theorem Receives.of_refund (invoice : InvoiceRow) {settlement : Settlement} {gross : ℤ}
    (unsettled : settledInvoice store settlement.externalId = none)
    (settled : Settled invoice) (received : invoice.receivedMsat = some ↑settlement.receivedMsat)
    (amount : invoice.amountSat = some gross) (fits : settlement.receivedMsat < 2 ^ 63)
    (covered : (settlement.receivedMsat : ℤ) / 1000 ≤ gross) (closed : invoice.status ≠ .opened)
    (below : ∀ row ∈ store.refundAttempt.row settlement.externalId,
      ∀ amount ∈ row.amountSat, amount ≤ (settlement.receivedMsat : ℤ) / 1000)
    (subscription owner : Option OrderId) (dest : Option Text) (kind : EventKind) :
    Receives store (journal (refundIntent
        { store with invoice := store.invoice.put settlement.externalId invoice }
        subscription dest settlement).2 owner kind settlement now)
      settlement.externalId invoice settlement.receivedMsat gross := by
  generalize put : { store with invoice := store.invoice.put settlement.externalId invoice } = base
  have refunds : base.refundAttempt = store.refundAttempt := by rw [← put]
  have log : base.eventLog = store.eventLog := by rw [← put]
  obtain ⟨others, own, some_⟩ := refundIntent_rows base subscription dest settlement fits
  rw [refunds] at others own
  refine ⟨unsettled, ?_, settled, received, amount, by positivity, covered, closed, fun _ => some_,
    others, own, below, fun key event found => ?_⟩
  · rw [show store.invoice.put settlement.externalId invoice = base.invoice by rw [← put]]
    exact (Capture.insertRefundAttemptTxn_frame ..).1.invoice
  · have held : ((refundIntent base subscription dest settlement).2.eventLog.append _).rows.row key =
      some event := found
    have same : (refundIntent base subscription dest settlement).2.eventLog = base.eventLog :=
      (Capture.insertRefundAttemptTxn_frame ..).2.1
    rw [same, log, Journal.append_row_eq_some] at held
    rcases held with ⟨-, rfl⟩ | old
    · exact .inr ⟨rfl, rfl, ⟨_, rfl⟩, fun _ => some_, nofun⟩
    · exact .inl old

/-- A settlement that is applied is journaled, a renewal of a lapsed subscription with its batch. -/
theorem Receives.of_applied (invoice : InvoiceRow) {settlement : Settlement} {gross : ℤ}
    {owner : Option OrderId} {kind : EventKind} {detail : Detail}
    (unsettled : settledInvoice store settlement.externalId = none)
    (invoices : after.invoice = store.invoice.put settlement.externalId invoice)
    (refunds : after.refundAttempt = store.refundAttempt)
    (log : after.eventLog = store.eventLog.append ⟨owner, kind, detail, now⟩)
    (settled : invoice.status = .paid) (received : invoice.receivedMsat = some ↑settlement.receivedMsat)
    (amount : invoice.amountSat = some gross)
    (covered : (settlement.receivedMsat : ℤ) / 1000 ≤ gross)
    (below : ∀ row ∈ store.refundAttempt.row settlement.externalId,
      ∀ amount ∈ row.amountSat, amount ≤ (settlement.receivedMsat : ℤ) / 1000)
    (other : kind.isSettleRefund = false) (names : detail.externalId = some settlement.externalId)
    (journaled : detail.receivedMsat = some ↑settlement.receivedMsat)
    (priced : ∃ amount, detail.amountSat = some amount)
    (batch : ∀ baseline, detail.baseline = some baseline →
      baseline.externalId = settlement.externalId ∧
        baseline.amountSat = some ((settlement.receivedMsat : ℤ) / 1000)) :
    Receives store after settlement.externalId invoice settlement.receivedMsat gross := by
  refine ⟨unsettled, invoices, .inl settled, received, amount, by positivity, covered,
    by rw [settled]; nofun, by rw [settled]; nofun, fun _ _ => by rw [refunds], .inl (by rw [refunds]),
    below, fun key event found => ?_⟩
  rw [log, Journal.append_row_eq_some] at found
  rcases found with ⟨-, rfl⟩ | old
  · refine .inr ⟨names, journaled, priced, fun settles => ?_, batch⟩
    rw [other] at settles
    cases settles
  · exact .inl old

/-- **What a backed settlement does**: nothing, or it comes in and is refunded, or it is taken by the
order or the renewal of a subscription. -/
inductive Enters (store : Store) (settlement : Settlement) (now : ℤ) : Store → Prop where
  | idle : Enters store settlement now store
  | unmatched (absent : store.invoice.row settlement.externalId = none)
      (unrefunded : store.refundAttempt.row settlement.externalId = none)
      (fits : settlement.receivedMsat < 2 ^ 63)
      (covered : settlement.receivedMsat / 1000 ≤ settlement.amountSat) :
      Enters store settlement now (journal (refundIntent store none none settlement).2 none
        .settleUnmatchedRefund settlement now)
  | refunded {after : Store} {invoice : InvoiceRow} {gross : ℤ} {kind : EventKind}
      (owner : Option OrderId) (billed : store.invoice.row settlement.externalId ≠ none)
      (receives : Receives store after settlement.externalId invoice settlement.receivedMsat gross)
      (rows : after.subscription = store.subscription) (settles : kind.isSettleRefund = true)
      (log : after.eventLog =
        store.eventLog.append ⟨owner, kind, settlementDetail settlement, now⟩)
      (owed : after.refundAttempt.row settlement.externalId ≠ none) :
      Enters store settlement now after
  | taken {after : Store} {invoice : InvoiceRow} {gross : ℤ} {id : OrderId}
      {row new : SubscriptionRow} {kind : EventKind}
      (billed : store.invoice.row settlement.externalId ≠ none)
      (receives : Receives store after settlement.externalId invoice settlement.receivedMsat gross)
      (owned : invoice.subscriptionId = some id) (found : store.subscription.row id = some row)
      (rows : after.subscription = store.subscription.put id new)
      (states : row.state = .pending ∧ new.state = .provisioning ∨
        row.state = .active ∧ new.state = .active)
      (kinds : kind = .captureOrder ∨ kind = .renewExtend)
      (log : after.eventLog =
        store.eventLog.append ⟨some id, kind, settlementDetail settlement, now⟩) :
      Enters store settlement now after
  | resumed {after : Store} {invoice : InvoiceRow} {gross : ℤ} {id : OrderId}
      {row new : SubscriptionRow} {detail : Detail} {baseline : Baseline}
      (billed : store.invoice.row settlement.externalId ≠ none)
      (receives : Receives store after settlement.externalId invoice settlement.receivedMsat gross)
      (owned : invoice.subscriptionId = some id) (found : store.subscription.row id = some row)
      (rows : after.subscription = store.subscription.put id new)
      (lapsed : row.state = .suspended ∨ row.state = .resuming) (resuming : new.state = .resuming)
      (batch : detail.baseline = some baseline)
      (names : baseline.externalId = settlement.externalId)
      (log : after.eventLog = store.eventLog.append ⟨some id, .renewResume, detail, now⟩) :
      Enters store settlement now after

/-- A settlement that finds its token refunded asks for nothing more. -/
theorem refundIntent_of_refunded {subscription : Option OrderId} {dest : Option Text}
    {settlement : Settlement} (refunded : store.refundAttempt.row settlement.externalId ≠ none) :
    (refundIntent store subscription dest settlement).2 = store := by
  unfold refundIntent insertRefundAttemptTxn
  cases found : store.refundAttempt.row settlement.externalId with
  | none => exact absurd found refunded
  | some row => rfl

/-- A settlement that is refunded for an invoice that it settles. -/
theorem Receives.enters {invoice : InvoiceRow} {settlement : Settlement} {gross : ℤ} {dest : Option Text}
    {subscription : Option OrderId} {kind : EventKind} (fits : settlement.receivedMsat < 2 ^ 63)
    (billed : store.invoice.row settlement.externalId ≠ none) (settles : kind.isSettleRefund = true)
    (receives : Receives store (journal (refundIntent
        { store with invoice := store.invoice.put settlement.externalId invoice }
        subscription dest settlement).2 subscription kind settlement now)
      settlement.externalId invoice settlement.receivedMsat gross) :
    Enters store settlement now (journal (refundIntent
      { store with invoice := store.invoice.put settlement.externalId invoice }
      subscription dest settlement).2 subscription kind settlement now) := by
  refine .refunded subscription billed receives (Capture.insertRefundAttemptTxn_frame ..).1.subscription settles ?_
    (refundIntent_rows _ _ _ _ fits).2.2
  show (refundIntent _ _ _ settlement).2.eventLog.append _ = _
  rw [refundIntent, (Capture.insertRefundAttemptTxn_frame ..).2.1]

/-- **A backed settlement** does one of these. -/
theorem Booked.enters (booked : Booked store) {settlement : Settlement}
    (backed : Backed store settlement) (captured : Captured store settlement now after) :
    Enters store settlement now after := by
  cases captured with
  | unmatched absent =>
      rw [Backed, absent] at backed
      rw [captureUnmatched_eq]
      split_ifs with unrefunded
      · obtain ⟨fits, covered⟩ := backed unrefunded
        exact .unmatched absent unrefunded fits covered
      · rw [refundIntent_of_refunded unrefunded]
        exact .idle
  | again => exact .idle
  | @applied invoice found opened after routed =>
      have billed : store.invoice.row settlement.externalId ≠ none := by rw [found]; nofun
      rw [Backed, found] at backed
      obtain ⟨fits, ⟨gross, amount, covered⟩, below⟩ := backed (.inl opened)
      have unsettled : settledInvoice store settlement.externalId = none := by
        rw [settledInvoice, found, Option.filter_some, if_neg]
        have stamped := booked.opened _ _ found opened
        simp [Settled, opened, stamped]
      have paid : ∃ paid : InvoiceRow, paid.status = .paid ∧
          paid.receivedMsat = some ↑settlement.receivedMsat ∧ paid.amountSat = some gross ∧
          paid.subscriptionId = invoice.subscriptionId ∧ markPaid store invoice settlement =
            { store with invoice := store.invoice.put settlement.externalId paid } :=
        ⟨{ invoice with
            status := .paid
            settledAt := some settlement.settledAt
            appliedAt := some settlement.settledAt
            receivedMsat := some (asI64 settlement.receivedMsat) },
          rfl, congrArg some (asI64_of_lt fits), amount, rfl, rfl⟩
      obtain ⟨paid, isPaid, credit, amount, owner, same⟩ := paid
      rw [same] at routed
      cases routed with
      | refunded settles =>
          exact Receives.enters fits billed settles (.of_refund paid unsettled (.inl isPaid) credit amount fits
            covered (by rw [isPaid]; decide) below _ _ _ _)
      | provisioned owned held order pending =>
          exact .taken billed (.of_applied paid unsettled rfl rfl rfl isPaid credit amount covered below
            rfl rfl rfl ⟨_, rfl⟩ fun _ none_ => by cases none_) (owner.trans owned) held rfl
            (.inl ⟨pending, rfl⟩) (.inl rfl) rfl
      | renewed owned held renewal active =>
          exact .taken billed (.of_applied paid unsettled rfl rfl rfl isPaid credit amount covered below
            rfl rfl rfl ⟨_, rfl⟩ fun _ none_ => by cases none_) (owner.trans owned) held rfl
            (.inr ⟨active, rfl⟩) (.inr rfl) rfl
      | resumed owned held renewal lapsed =>
          refine .resumed billed (.of_applied paid unsettled rfl rfl rfl isPaid credit amount covered
            below rfl rfl rfl ⟨_, rfl⟩ ?_) (owner.trans owned) held rfl lapsed rfl rfl rfl rfl
          rintro baseline same
          obtain rfl := Option.some.inj same
          exact ⟨rfl, by push_cast; rfl⟩
  | @terminal invoice found expired =>
      have billed : store.invoice.row settlement.externalId ≠ none := by rw [found]; nofun
      rw [Backed, found] at backed
      obtain ⟨dest, same⟩ := captureTerminal_eq store invoice settlement now
      rw [same]
      by_cases fresh : invoice.settledAt = none
      · obtain ⟨fits, ⟨gross, amount, covered⟩, below⟩ := backed (.inr ⟨expired, fresh⟩)
        have bare : ¬ Settled invoice := by simp [Settled, expired, fresh]
        have unsettled : settledInvoice store settlement.externalId = none := by
          rw [settledInvoice, found, Option.filter_some, if_neg (by simpa using bare)]
        rw [if_pos (.inl fresh), stamp, if_pos fresh]
        refine Receives.enters fits billed rfl (.of_refund { invoice with
          settledAt := some settlement.settledAt
          receivedMsat := some (invoice.receivedMsat.getD (asI64 settlement.receivedMsat)) }
          unsettled (.inr (Option.some_ne_none _)) ?_ amount fits covered ?_ below _ _ _ _)
        · rw [booked.unsettled _ _ found bare, Option.getD_none, asI64_of_lt fits]
        · show invoice.status ≠ .opened
          rw [expired]
          decide
      · have refunded := booked.expired _ _ found expired fresh
        rw [if_neg (not_or.mpr ⟨fresh, refunded⟩), stamp, if_neg fresh, refundIntent_of_refunded refunded]
        exact .idle

/-- **A backed settlement keeps the books.** -/
theorem Booked.captured (booked : Booked store) {settlement : Settlement}
    (backed : Backed store settlement) (captured : Captured store settlement now after) :
    Booked after := by
  cases booked.enters backed captured with
  | idle => exact booked
  | unmatched absent unrefunded fits covered => exact booked.unmatched absent unrefunded fits covered
  | refunded _ _ receives | taken _ receives | resumed _ receives => exact booked.receives receives

/-- A store whose three tables of receipts are as they were. -/
theorem Booked.same (booked : Booked store) (next : Store) (invoice : next.invoice = store.invoice)
    (refund : next.refundAttempt = store.refundAttempt) (log : next.eventLog = store.eventLog) :
    Booked next :=
  booked.kept (.aside invoice refund (by rw [log]; exact .refl _))

/-- The batch of a resume names settled invoices, at their credits. -/
theorem Booked.batch (booked : Booked store) (id : OrderId) {baseline : Baseline}
    (pending : baseline ∈ Resume.pendingRenewResumes store.eventLog id) : ∃ invoice credit,
    settledInvoice store baseline.externalId = some invoice ∧
      invoice.receivedMsat = some credit ∧ baseline.amountSat = some (credit / 1000) := by
  obtain ⟨key, -, read⟩ := List.mem_filterMap.mp pending
  obtain ⟨event, found, named⟩ := Option.bind_eq_some_iff.mp read
  unfold Resume.baselineOf at named
  split_ifs at named
  exact booked.baselines key event baseline found named

/-- The refund rows of a batch. -/
theorem Booked.refundBatch :
    ∀ {renewals : List Baseline} {store : Store}, Booked store → ∀ (id : OrderId) (dest : Option Text),
      (∀ renewal ∈ renewals, ∃ invoice credit, settledInvoice store renewal.externalId = some invoice ∧
        invoice.receivedMsat = some credit ∧ renewal.amountSat = some (credit / 1000)) →
      Booked (Resume.refundBatch id dest store renewals) := by
  intro renewals
  induction renewals with
  | nil => exact fun booked _ _ _ => booked
  | cons renewal rest ih =>
      intro store booked id dest backed
      obtain ⟨invoice, credit, settled, received, amount⟩ := backed renewal List.mem_cons_self
      have next := booked.insertRefund settled received (some id) dest
      rw [← amount] at next
      refine ih next id dest fun other member => ?_
      rw [settledInvoice, (Capture.insertRefundAttemptTxn_frame ..).1.invoice]
      exact backed other (List.mem_cons_of_mem _ member)

/-- **A transaction keeps the books**, a settlement where it is backed. -/
theorem Booked.transacted (booked : Booked store) {action : Action}
    (transacted : Transacted recipe store now action after)
    (backed : ∀ settlement, action = .capture settlement → Backed store settlement) :
    Booked after := by
  cases transacted with
  | idle => exact booked
  | listed => exact booked.kept (.aside rfl rfl (.refl _))
  | renewed billed fresh =>
      refine booked.kept (Kept.noted ?_ rfl rfl)
      exact ((Kept.refl store).upsertRenewal rfl billed).cacheReply
  | cancelled =>
      refine booked.kept (Kept.noted (Kept.enqueue ?_) rfl rfl)
      exact .aside rfl rfl (.refl _)
  | captured captured => exact booked.captured (backed _ rfl) captured
  | activated =>
      refine booked.kept (.aside rfl rfl ?_)
      show Quiet _ ((store.eventLog.append _).append _)
      exact .trans (.append rfl rfl) (.append rfl rfl)
  | @unprovisioned id order row invoice target found provisioning paid owned named amount =>
      have settled : settledInvoice store order = some invoice :=
        Option.filter_eq_some_iff.mpr ⟨paid, decide_eq_true (.inl owned.2.2)⟩
      obtain ⟨credit, gross, received, -⟩ := booked.settled order invoice settled
      have refunded := (booked.same { store with
        subscription := store.subscription.put id
          { row with state := .refundDue, nextDeadline := none, updatedAt := now } }
          rfl rfl rfl).insertRefund settled received (some id) target.refundDest
      rw [received, Option.map_some, Option.some_or] at amount
      rw [← amount, ← named] at refunded
      exact refunded.kept (((Kept.refl _).noted rfl rfl).noted rfl rfl)
  | claimed | cleanedUp => exact booked.kept ((Kept.refl store).noted rfl rfl)
  | resumed =>
      refine booked.kept (Kept.noted ?_ rfl rfl)
      exact .aside rfl rfl (.refl _)
  | @resumeFailed id row first rest found resuming pending =>
      have batch := fun renewal (member : renewal ∈ first :: rest) =>
        booked.batch id (by rw [pending]; exact member)
      have refunded := (booked.same { store with
        subscription := store.subscription.put id (Resume.restored row first (row.renewLeadS.getD 0)
          (row.retentionS.getD 0) now) } rfl rfl rfl).refundBatch id row.refundDest batch
      exact refunded.kept ((Kept.refl _).noted rfl rfl)
  | fired found fired => exact booked.kept (fired_kept booked fired)
  | expired found kind opened =>
      have put := (Kept.refl store).putInvoice rfl (by
        rw [found]
        exact booked.expires found opened)
      exact booked.kept (put.noted rfl rfl)
  | heartbeat | pruned => exact booked.kept (.aside rfl rfl (.refl _))
  | reaped => exact booked.kept (reap_kept store _)
  | refundSent found pending closes =>
      have closed := booked.kept (closes_kept found closes)
      exact closed.kept ((Kept.refl _).enqueueRefund.noted rfl rfl)
  | refund action committed => exact booked.kept (committed_kept committed)

end Transactions

/-! ### The runs -/

instance (store : Store) (settlement : Settlement) : Decidable (Backed store settlement) :=
  match found : store.invoice.row settlement.externalId with
  | none =>
      decidable_of_iff (store.refundAttempt.row settlement.externalId = none →
        settlement.receivedMsat < 2 ^ 63 ∧ settlement.receivedMsat / 1000 ≤ settlement.amountSat)
        (by rw [Backed, found])
  | some invoice =>
      decidable_of_iff (invoice.status = .opened ∨ invoice.status = .expired ∧
          invoice.settledAt = none →
        settlement.receivedMsat < 2 ^ 63 ∧
        (∃ gross ∈ invoice.amountSat, (settlement.receivedMsat : ℤ) / 1000 ≤ gross) ∧
        ∀ row ∈ store.refundAttempt.row settlement.externalId,
          ∀ amount ∈ row.amountSat, amount ≤ (settlement.receivedMsat : ℤ) / 1000)
        (by rw [Backed, found])

/-- The settlement that the action captures. -/
def captured : Action → Option Settlement
  | .capture settlement => some settlement
  | _ => none

/-- **The condition on a step**: what a running daemon captures is backed. -/
def Receipted (world : World) (action : Action) : Prop :=
  world.up = true → ∀ settlement ∈ captured action, Backed world.store settlement

instance (world : World) : DecidablePred (Receipted world) := fun action =>
  inferInstanceAs (Decidable (world.up = true →
    ∀ settlement ∈ captured action, Backed world.store settlement))

theorem booked_empty : Booked Store.empty where
  settled _ _ found := by cases found
  unsettled _ _ found := by cases found
  opened _ _ found := by cases found
  expired _ _ found := by cases found
  refunds _ _ found := by cases found
  journals _ _ _ found := by cases found
  baselines _ _ _ found := by cases found

/-- The books of a world. -/
def Books (world : World) : Prop := Booked world.store

/-- **A step of the daemon keeps the books.** -/
theorem books_step (intake : OrderIntake.Intake) (world : World) (action : Action)
    (receipted : Receipted world action) (booked : Books world) :
    Books (world.step intake action) := by
  unfold Books at booked ⊢
  have transacts : world.up = true → Booked (transact intake.recipe world.store world.clock action) :=
    fun up => booked.transacted (transact_transacted intake.recipe world.store world.clock action)
      fun settlement same => receipted up settlement (by rw [same]; exact Option.mem_some_self _)
  cases action with
  | wait | crash => exact booked
  | boot =>
      simp only [World.step]
      split_ifs
      · exact booked
      · exact booked.kept (restart_kept world.store world.clock)
  | deliver =>
      simp only [World.step]
      split_ifs
      · exact booked
      · exact booked
  | advance slot issued =>
      simp only [World.step]
      split_ifs
      · have stepped := world.advance_stepped intake slot issued
        generalize world.advance intake slot issued = next at stepped
        cases stepped with
        | idle | replied => exact booked
        | moved found advanced => exact booked.kept (advanced_kept advanced)
        | ended found advanced => exact booked.kept (advanced_kept advanced)
      · exact booked
  | _ =>
      simp only [World.step]
      split_ifs with up
      · exact transacts up
      · exact booked

/-- **One figure for every receipt**, in every run whose settlements are backed. -/
theorem one_figure (intake : OrderIntake.Intake) (clock : ℤ) (actions : List Action)
    (backed : (daemon intake (World.fresh clock)).Meets Receipted actions) (externalId : ExternalId)
    (received : Received ((daemon intake (World.fresh clock)).run actions).store externalId) :
    OneFigure ((daemon intake (World.fresh clock)).run actions).store externalId := by
  have books : Books ((daemon intake (World.fresh clock)).run actions) :=
    (daemon intake (World.fresh clock)).invariant_of_meets booked_empty (books_step intake) actions
      backed
  exact Booked.oneFigure books received

/-- An order that is served and paid again, a settlement that nothing was issued for, and a reap. -/
def receipting (key : RequestKey) : List Action :=
  serving key ++ [.capture ⟨.order key, 21, 90000, 5⟩, .capture ⟨.other 7, 40, 40999, 6⟩, .reap]

theorem one_figure_receipting :
    (daemon plainIntake (World.fresh 0)).Meets Receipted (receipting ⟨1, 1⟩) ∧
    Received ((daemon plainIntake (World.fresh 0)).run (receipting ⟨1, 1⟩)).store (.other 7) ∧
    OneFigure ((daemon plainIntake (World.fresh 0)).run (receipting ⟨1, 1⟩)).store (.other 7) := by
  have backed : (daemon plainIntake (World.fresh 0)).Meets Receipted (receipting ⟨1, 1⟩) := by
    decide +kernel
  have received : Received ((daemon plainIntake (World.fresh 0)).run (receipting ⟨1, 1⟩)).store
      (.other 7) := by
    decide +kernel
  exact ⟨backed, received, one_figure plainIntake 0 (receipting ⟨1, 1⟩) backed (.other 7) received⟩

/-- An invoice of 21 sat that 30 sat are credited on. -/
def overpaying (key : RequestKey) : List Action :=
  [.boot, .list 0 plainListing] ++ ordering key (plainIssued 1 3600) ++
    [.capture ⟨.order key, 21, 30000, 0⟩]

/-- The overpaid order is looked up at 30 sat and may still be refunded; 21 sat are reserved for it. -/
theorem overpaid_order :
    ∃ actions externalId,
      Received ((daemon plainIntake (World.fresh 0)).run actions).store externalId ∧
      ¬ OneFigure ((daemon plainIntake (World.fresh 0)).run actions).store externalId := by
  refine ⟨overpaying ⟨1, 1⟩, .order ⟨1, 1⟩, ?_⟩
  generalize known : ((daemon plainIntake (World.fresh 0)).run (overpaying ⟨1, 1⟩)).store = store
  have facts : Received store (.order ⟨1, 1⟩) ∧ RefundPath store (.order ⟨1, 1⟩) ∧
      figure store (.order ⟨1, 1⟩) = 30 ∧ Sweep.reserved store (.order ⟨1, 1⟩) = 21 := by
    rw [← known]
    decide +kernel
  obtain ⟨received, path, is, reserved⟩ := facts
  refine ⟨received, fun one => ?_⟩
  have covered := one.reserved path
  rw [is, reserved] at covered
  omega

end Lnrent.Receipts
