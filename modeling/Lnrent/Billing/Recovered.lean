/-
**Recovered settlements.** A settlement whose time is unknown is stamped from the snapshot of its pass,
and captured against the rows that earlier settlements of the pass left.

* `recovered_reaches_iff` — when a recovered stamp reaches an instant;
* `Faithful` — what is asked of a capture of the pass; `InTime` — when it is met;
* `Reached` — the state in which a row is routed: its invoice is still as the snapshot had it;
* `catch_up_faithful_iff` — **a pass is faithful exactly if each renewal is routed in time**;
* `faithful_of_stacking` — so it is if no floor lies more than a period past the prepaid end.
-/

import Lnrent.Daemon.CatchUp
import Lnrent.Billing.Boundary
import Lnrent.Billing.Turn
import Lnrent.Receive.Books

namespace Lnrent.CatchUp

open Relational Capture Billing Reconcile

/-! ### Recovered stamps -/

theorem lt_minOpt_iff {first second : Option ℤ} {instant : ℤ} :
    (∀ cap ∈ minOpt first second, instant < cap) ↔
      (∀ cap ∈ first, instant < cap) ∧ ∀ cap ∈ second, instant < cap := by
  cases first with
  | none => cases second <;> simp [minOpt]
  | some first => cases second <;> simp [minOpt]

/-- **A recovered stamp reaches an instant** if that has passed, and the cap lies after it. -/
theorem recovered_reaches_iff {now instant : ℤ} {cap : Option ℤ} :
    instant ≤ recoveredSettledAt now cap ↔ instant ≤ now ∧ ∀ bound ∈ cap, instant < bound := by
  cases cap with
  | none => simp [recoveredSettledAt]
  | some bound =>
      simp only [recoveredSettledAt, Option.mem_def, Option.some.injEq, forall_eq']
      split_ifs with late <;> omega

/-- A recovered stamp lies before the invoice's expiry. -/
theorem recovered_lt_expiry (row : CatchUpRow) (now : ℤ) :
    ∀ expiry ∈ row.expiresAt, settledAt row none now < expiry := by
  intro expiry expires
  by_contra reached
  have caps := lt_minOpt_iff.mp
    (recovered_reaches_iff.mp (not_lt.mp reached : expiry ≤ settledAt row none now)).2
  exact lt_irrefl expiry (caps.1 expiry expires)

/-! ### What is asked of a capture -/

/-- When a subscription can no longer be resumed: where `capture` refunds a renewal. -/
def resumableUntil (row : SubscriptionRow) : Option ℤ :=
  row.paidThrough.map fun paidThrough =>
    effectiveSuspendAt paidThrough row.suspendNotBefore + row.retentionS.getD 0

/-- The invoice of an external id, and the subscription it is of. -/
def Of (store : Store) (externalId : ExternalId) (invoice : InvoiceRow) (row : SubscriptionRow) :
    Prop :=
  store.invoice.row externalId = some invoice ∧
    ∃ id, invoice.subscriptionId = some id ∧ store.subscription.row id = some row

variable (answers : ExternalId → Answer)

/-- The time at which a row's settlement was observed, if it was live. -/
def observed (externalId : ExternalId) : Option ℤ := (answers externalId).lookup.bind Prod.snd

/-- **A capture is faithful**: a settlement of unknown time is not refunded as late, and one that was
observed live is judged by its time. -/
structure Faithful (visit : Visit) : Prop where
  order : observed answers visit.row.externalId = none → ∀ invoice row,
    Of visit.store visit.row.externalId invoice row → invoice.kind = .order →
    row.state = .pending → visit.verdict = .captured
  renewal : observed answers visit.row.externalId = none → ∀ invoice row,
    Of visit.store visit.row.externalId invoice row → invoice.kind = .renewal → Resumable row →
    visit.verdict = .renewed ∨ visit.verdict = .resumed
  /-- The verdict over the channel, whatever the amounts and whenever it is taken. -/
  live : ∀ real, observed answers visit.row.externalId = some real → ∀ settlement : Settlement,
    settlement.externalId = visit.row.externalId → settlement.settledAt = real →
    ∀ now, visit.verdict = (captureTxn visit.store settlement now).1

/-- **A renewal is routed in time**: its subscription can still be resumed, or could no longer when the
invoice expired, or by the snapshot's own boundary. -/
def InTime (visit : Visit) : Prop :=
  observed answers visit.row.externalId = none → ∀ invoice row,
    Of visit.store visit.row.externalId invoice row → invoice.kind = .renewal → Resumable row →
    ∀ boundary ∈ resumableUntil row, (answers visit.row.externalId).now < boundary ∨
      (∃ expiry ∈ visit.row.expiresAt, expiry ≤ boundary) ∨
        ∃ known ∈ renewalBoundary visit.row, known ≤ boundary

/-! ### Verdicts -/

/-- The verdict on the renewal of a subscription. -/
def renewalVerdict (row : SubscriptionRow) (settledAt : ℤ) : Capture :=
  if ∃ boundary ∈ resumableUntil row, boundary ≤ settledAt then .refundDue
  else if row.state = .active then .renewed
  else .resumed

/-- The verdict on a paid invoice, by its subscription. -/
def paidVerdict (invoice : InvoiceRow) (row : SubscriptionRow) (settledAt : ℤ) : Capture :=
  match invoice.kind, row.state with
  | .order, .pending =>
      if ∃ expiry ∈ invoice.expiresAt, expiry ≤ settledAt then .refundDue else .captured
  | .renewal, .active => renewalVerdict row settledAt
  | .renewal, .suspended => renewalVerdict row settledAt
  | .renewal, .resuming => renewalVerdict row settledAt
  | _, _ => .refundDue

/-- **The verdict on a settlement**, by its external id and its time alone. -/
def verdictOf (store : Store) (externalId : ExternalId) (settledAt : ℤ) : Capture :=
  match store.invoice.row externalId with
  | none => .refundDue
  | some invoice =>
      match invoice.status with
      | .paid => .noOp
      | .expired => .refundDue
      | .opened =>
          match invoice.subscriptionId.bind store.subscription.row with
          | none => .refundDue
          | some row => paidVerdict invoice row settledAt

section Verdict

variable {store : Store} {settlement : Settlement} {now : ℤ}

theorem applyRenewal_verdict {id : OrderId} {row : SubscriptionRow} :
    (applyRenewal store id row settlement now).1 = renewalVerdict row settlement.settledAt := by
  have same : (∃ paidThrough ∈ row.paidThrough,
      effectiveSuspendAt paidThrough row.suspendNotBefore + row.retentionS.getD 0 ≤
        settlement.settledAt) ↔ ∃ boundary ∈ resumableUntil row, boundary ≤ settlement.settledAt := by
    simp [resumableUntil]
  unfold applyRenewal renewalVerdict
  by_cases late : ∃ boundary ∈ resumableUntil row, boundary ≤ settlement.settledAt
  · rw [if_pos late, if_pos (same.mpr late)]
    rfl
  · rw [if_neg late, if_neg (mt same.mp late)]
    dsimp only
    split_ifs <;> rfl

theorem applyPaid_verdict {invoice : InvoiceRow} :
    (applyPaid store invoice.kind invoice.subscriptionId invoice.expiresAt settlement now).1 =
      match invoice.subscriptionId.bind store.subscription.row with
      | none => .refundDue
      | some row => paidVerdict invoice row settlement.settledAt := by
  unfold applyPaid
  cases owner : invoice.subscriptionId with
  | none => rfl
  | some id =>
      simp only [Option.bind_some]
      cases found : store.subscription.row id with
      | none => rfl
      | some row =>
          simp only
          unfold paidVerdict
          cases invoice.kind with
          | order =>
              cases row.state <;> simp only [applyOrder]
              case pending => split_ifs <;> rfl
              all_goals rfl
          | renewal =>
              cases row.state <;> simp only [applyRenewal_verdict]
              all_goals rfl

theorem captureTxn_verdict (store : Store) (settlement : Settlement) (now : ℤ) :
    (captureTxn store settlement now).1 =
      verdictOf store settlement.externalId settlement.settledAt := by
  unfold captureTxn verdictOf
  cases store.invoice.row settlement.externalId with
  | none => rfl
  | some invoice =>
      dsimp only
      cases invoice.status with
      | paid => rfl
      | expired => rfl
      | opened => exact applyPaid_verdict

end Verdict

/-! ### The rows of a pass -/

/-- **A capture of the pass, by what its row was routed on**: an invoice OPEN as in the snapshot. -/
structure Judged (store : Store) (visit : Visit) : Prop where
  kept : visit.store.invoice.row visit.row.externalId = store.invoice.row visit.row.externalId
  listed : ∃ invoice, store.invoice.row visit.row.externalId = some invoice ∧
    invoice.status = .opened ∧ visit.row = catchUpRow store visit.row.externalId invoice
  verdict : visit.verdict = verdictOf visit.store visit.row.externalId
    (settledAt visit.row (observed answers visit.row.externalId)
      (answers visit.row.externalId).now)

/-- **The state in which the rest of a pass is routed.** -/
structure Reached (store : Store) (todo : List CatchUpRow) (pass : Pass) : Prop where
  kept : ∀ row ∈ todo, pass.store.invoice.row row.externalId = store.invoice.row row.externalId
  visits : ∀ visit ∈ pass.visits, Judged answers store visit

variable {answers}

/-- A settlement is of its row's invoice, and booked at the row's time. -/
theorem settlementOf_eq {row : CatchUpRow} {settlement : Settlement}
    (paid : settlementOf row (answers row.externalId) = some settlement) :
    settlement.externalId = row.externalId ∧ settlement.settledAt =
      settledAt row (observed answers row.externalId) (answers row.externalId).now := by
  unfold settlementOf at paid
  split at paid
  · rename_i seen credit lookup received
    cases paid
    refine ⟨rfl, ?_⟩
    simp [observed, lookup]
  · cases paid

/-- What one row of the pass does: nothing, or one capture. -/
theorem step_cases (answers : ExternalId → Answer) (pass : Pass) (row : CatchUpRow) :
    pass.step answers row = pass ∨ ∃ settlement : Settlement,
      settlementOf row (answers row.externalId) = some settlement ∧
      (pass.step answers row).store =
        (captureTxn pass.store settlement (answers row.externalId).now).2 ∧
      (pass.step answers row).visits = pass.visits ++ [⟨pass.store, row,
        (captureTxn pass.store settlement (answers row.externalId).now).1⟩] := by
  unfold Pass.step
  cases paid : settlementOf row (answers row.externalId) with
  | none => exact .inl rfl
  | some settlement =>
      by_cases fails : (answers row.externalId).commits = false
      · exact .inl (if_pos fails)
      · right
        simp only [if_neg fails]
        exact ⟨settlement, rfl, rfl, rfl⟩

/-- **One row** of a snapshot. -/
theorem Reached.step {store : Store} {row : CatchUpRow} {todo : List CatchUpRow} {pass : Pass}
    (reached : Reached answers store (row :: todo) pass)
    (once : row.externalId ∉ todo.map CatchUpRow.externalId)
    (listed : ∃ invoice, store.invoice.row row.externalId = some invoice ∧
      invoice.status = .opened ∧ row = catchUpRow store row.externalId invoice) :
    Reached answers store todo (pass.step answers row) := by
  have kept : ∀ other ∈ todo,
      pass.store.invoice.row other.externalId = store.invoice.row other.externalId :=
    fun other member => reached.kept other (List.mem_cons_of_mem row member)
  rcases step_cases answers pass row with same | ⟨settlement, paid, captured, visits⟩
  · rw [same]
    exact ⟨kept, reached.visits⟩
  · obtain ⟨named, timed⟩ := settlementOf_eq paid
    refine ⟨fun other member => ?_, fun visit member => ?_⟩
    · have apart : other.externalId ≠ settlement.externalId := by
        intro same
        exact once (List.mem_map.mpr ⟨other, member, same.trans named⟩)
      rw [captured, (Receive.capture_booked _ _ _).2 _ apart]
      exact kept other member
    · rw [visits] at member
      rcases List.mem_append.mp member with earlier | last
      · exact reached.visits visit earlier
      · obtain rfl := List.mem_singleton.mp last
        refine ⟨reached.kept row List.mem_cons_self, listed, ?_⟩
        rw [← timed, ← named]
        exact captureTxn_verdict pass.store settlement _

/-- **A whole pass**: every capture judges an invoice that is still as the snapshot has it. -/
theorem judged_of_snapshot {store : Store} {rows : List CatchUpRow} (snapshot : Snapshot store rows) :
    ∀ visit ∈ (catchUp answers rows store).visits, Judged answers store visit := by
  have run : ∀ (todo : List CatchUpRow) (pass : Pass),
      (todo.map CatchUpRow.externalId).Nodup → (∀ row ∈ todo, row ∈ rows) →
      Reached answers store todo pass →
      Reached answers store [] (todo.foldl (Pass.step answers) pass) := by
    intro todo
    induction todo with
    | nil => exact fun pass _ _ reached => reached
    | cons row todo ih =>
        intro pass once among reached
        rw [List.map_cons, List.nodup_cons] at once
        refine ih _ once.2 (fun other member => among other (List.mem_cons_of_mem row member)) ?_
        exact reached.step once.1 ((snapshot.mem row).mp (among row List.mem_cons_self))
  refine (run rows ⟨0, store, []⟩ snapshot.nodup (fun _ member => member) ?_).visits
  exact ⟨fun _ _ => rfl, fun visit member => absurd member List.not_mem_nil⟩

/-! ### One capture -/

/-- The verdict on an invoice of a given subscription. -/
theorem Judged.verdict_of {store : Store} {visit : Visit} (judged : Judged answers store visit)
    {invoice : InvoiceRow} {row : SubscriptionRow}
    (owned : Of visit.store visit.row.externalId invoice row) :
    (store.invoice.row visit.row.externalId = some invoice ∧ invoice.status = .opened ∧
        visit.row = catchUpRow store visit.row.externalId invoice) ∧
      visit.verdict = paidVerdict invoice row (settledAt visit.row
        (observed answers visit.row.externalId) (answers visit.row.externalId).now) := by
  obtain ⟨found, id, owner, present⟩ := owned
  obtain ⟨invoice', found', opened, listed⟩ := judged.listed
  obtain rfl := Option.some.inj (found'.symm.trans (judged.kept.symm.trans found))
  refine ⟨⟨found', opened, listed⟩, judged.verdict.trans ?_⟩
  unfold verdictOf
  simp only [found, opened, owner, Option.bind_some, present]

/-- A recovered order is never late. -/
theorem Judged.order {store : Store} {visit : Visit} (judged : Judged answers store visit)
    (recovered : observed answers visit.row.externalId = none) {invoice : InvoiceRow}
    {row : SubscriptionRow} (owned : Of visit.store visit.row.externalId invoice row)
    (order : invoice.kind = .order) (pending : row.state = .pending) :
    visit.verdict = .captured := by
  obtain ⟨⟨-, -, listed⟩, verdict⟩ := judged.verdict_of owned
  rw [verdict]
  unfold paidVerdict
  simp only [order, pending]
  refine if_neg ?_
  rintro ⟨expiry, expires, late⟩
  rw [recovered] at late
  have expires' : expiry ∈ visit.row.expiresAt := by
    rw [listed]
    exact expires
  exact absurd (recovered_lt_expiry visit.row _ expiry expires') (not_lt.mpr late)

/-- A settlement that was observed live is judged as over the channel. -/
theorem Judged.live {store : Store} {visit : Visit} (judged : Judged answers store visit) {real : ℤ}
    (seen : observed answers visit.row.externalId = some real) {settlement : Settlement}
    (named : settlement.externalId = visit.row.externalId) (timed : settlement.settledAt = real)
    (now : ℤ) : visit.verdict = (captureTxn visit.store settlement now).1 := by
  rw [captureTxn_verdict, judged.verdict, seen, named, timed]
  rfl

theorem renewalVerdict_served {row : SubscriptionRow} {time : ℤ} :
    renewalVerdict row time = .renewed ∨ renewalVerdict row time = .resumed ↔
      ∀ boundary ∈ resumableUntil row, time < boundary := by
  unfold renewalVerdict
  split_ifs with late active
  · obtain ⟨boundary, bounded, reached⟩ := late
    simp only [or_self, false_iff, not_forall]
    exact ⟨boundary, bounded, not_lt.mpr reached⟩
  all_goals
    push Not at late
    simpa using late

theorem paidVerdict_renewal {invoice : InvoiceRow} {row : SubscriptionRow} {time : ℤ}
    (renewal : invoice.kind = .renewal) (resumable : Resumable row) :
    paidVerdict invoice row time = renewalVerdict row time := by
  unfold paidVerdict
  rcases resumable with state | state | state <;> simp only [renewal, state]

/-- A recovered stamp stays short of an instant. -/
theorem recovered_lt_iff {row : CatchUpRow} {now boundary : ℤ} :
    settledAt row none now < boundary ↔ now < boundary ∨
      (∃ expiry ∈ row.expiresAt, expiry ≤ boundary) ∨
        ∃ known ∈ renewalBoundary row, known ≤ boundary := by
  show recoveredSettledAt now _ < boundary ↔ _
  rw [← not_le, recovered_reaches_iff, lt_minOpt_iff]
  push Not
  constructor
  · intro short
    rcases lt_or_ge now boundary with ahead | passed
    · exact .inl ahead
    · right
      by_cases expired : ∃ expiry ∈ row.expiresAt, expiry ≤ boundary
      · exact .inl expired
      · push Not at expired
        exact .inr (short passed expired)
  · rintro (ahead | ⟨expiry, expires, reached⟩ | known) passed
    · exact absurd passed (not_le.mpr ahead)
    · exact fun later => absurd reached (not_le.mpr (later expiry expires))
    · exact fun _ => known

/-- **A capture is faithful exactly if a renewal was routed in time.** -/
theorem Judged.faithful_iff {store : Store} {visit : Visit} (judged : Judged answers store visit) :
    Faithful answers visit ↔ InTime answers visit := by
  have served : observed answers visit.row.externalId = none → ∀ {invoice row},
      Of visit.store visit.row.externalId invoice row → invoice.kind = .renewal → Resumable row →
      (visit.verdict = .renewed ∨ visit.verdict = .resumed ↔ ∀ boundary ∈ resumableUntil row,
        settledAt visit.row none (answers visit.row.externalId).now < boundary) := by
    intro recovered invoice row owned renewal resumable
    obtain ⟨-, verdict⟩ := judged.verdict_of owned
    rw [verdict, paidVerdict_renewal renewal resumable, recovered]
    exact renewalVerdict_served
  constructor
  · intro faithful recovered invoice row owned renewal resumable boundary bounded
    exact recovered_lt_iff.mp ((served recovered owned renewal resumable).mp
      (faithful.renewal recovered invoice row owned renewal resumable) boundary bounded)
  · intro inTime
    refine ⟨fun recovered invoice row owned => judged.order recovered owned,
      fun recovered invoice row owned renewal resumable => ?_,
      fun real seen settlement named timed now => judged.live seen named timed now⟩
    refine (served recovered owned renewal resumable).mpr fun boundary bounded => ?_
    exact recovered_lt_iff.mpr
      (inTime recovered invoice row owned renewal resumable boundary bounded)

/-- **When a pass is faithful.** A settlement of unknown time is never refunded as late, and one that
was observed live is judged by its time, exactly if each renewal of unknown time is routed while its
subscription can still be resumed, or its expiry or the snapshot's boundary lies no later. -/
theorem catch_up_faithful_iff {store : Store} {rows : List CatchUpRow}
    (answers : ExternalId → Answer) (snapshot : Snapshot store rows) :
    (∀ visit ∈ (catchUp answers rows store).visits, Faithful answers visit) ↔
      ∀ visit ∈ (catchUp answers rows store).visits, InTime answers visit :=
  forall₂_congr fun visit member => (judged_of_snapshot snapshot visit member).faithful_iff

/-! ### Two renewals after an outage -/

/-- A row prepaid to 1000 with a floor of 5050, credited by a boot at 5000, and two OPEN renewals: one
that expired before the outage, and one as long as the credited window. -/
def credited : Store :=
  { applyRestartDowntimeCredit (renewable (served 50 10 none)) 5000 with
    invoice := (Table.empty.put (.renewReq ⟨1, 2⟩)
      ⟨0, some ⟨1, 1⟩, .renewal, 0, some 5, none, .opened, some 990, 900, none, none⟩).put
      (.renewReq ⟨1, 3⟩)
      ⟨1, some ⟨1, 1⟩, .renewal, 0, some 5, none, .opened, some 5060, 5001, none, none⟩ }

/-- The rows of a pass over that store. -/
def twoRenewals : List CatchUpRow :=
  [⟨.renewReq ⟨1, 2⟩, 5, some 990, .renewal, some 1000, some 10, some 5050⟩,
    ⟨.renewReq ⟨1, 3⟩, 5, some 5060, .renewal, some 1000, some 10, some 5050⟩]

/-- Both are found paid at 5100. -/
def bothPaid (_ : ExternalId) : Answer := ⟨some (.paid, none), some none, 5100, true⟩

/-- The rows of a pass over the two renewals of the given subscription. -/
def renewalRows (row : SubscriptionRow) : List CatchUpRow :=
  [⟨.renewReq ⟨1, 2⟩, 5, some 990, .renewal, row.paidThrough, row.retentionS, row.suspendNotBefore⟩,
    ⟨.renewReq ⟨1, 3⟩, 5, some 5060, .renewal, row.paidThrough, row.retentionS,
      row.suspendNotBefore⟩]

theorem credited_invoices {token : ExternalId} {invoice : InvoiceRow}
    (found : credited.invoice.row token = some invoice) :
    invoice.subscriptionId = some ⟨1, 1⟩ ∧
      (token = .renewReq ⟨1, 2⟩ ∨ token = .renewReq ⟨1, 3⟩) := by
  by_cases second : token = .renewReq ⟨1, 3⟩
  · rw [second] at found
    cases found
    exact ⟨rfl, .inr second⟩
  · by_cases first : token = .renewReq ⟨1, 2⟩
    · rw [first] at found
      cases found
      exact ⟨rfl, .inl first⟩
    · have absent : credited.invoice.row token = none := by
        show (Table.put _ _ _).row _ = none
        rw [Table.put_row_other _ _ second, Table.put_row_other _ _ first]
        rfl
      cases absent.symm.trans found

theorem renewals_snapshot {store : Store} {row : SubscriptionRow}
    (invoices : store.invoice = credited.invoice)
    (held : store.subscription.row ⟨1, 1⟩ = some row) : Snapshot store (renewalRows row) := by
  have owned : ∀ token (invoice : InvoiceRow), invoice.subscriptionId = some ⟨1, 1⟩ →
      catchUpRow store token invoice = ⟨token, invoice.amountSat.getD 0, invoice.expiresAt,
        invoice.kind, row.paidThrough, row.retentionS, row.suspendNotBefore⟩ := by
    intro token invoice owner
    simp [catchUpRow, owner, held]
  refine ⟨by simp [renewalRows], fun listed => ⟨fun member => ?_, ?_⟩⟩
  · rw [invoices]
    rcases List.mem_pair.mp member with rfl | rfl
    · refine ⟨_, rfl, rfl, ?_⟩
      rw [owned _ _ rfl]
      rfl
    · refine ⟨_, rfl, rfl, ?_⟩
      rw [owned _ _ rfl]
      rfl
  · rintro ⟨invoice, found, opened, same⟩
    rw [invoices] at found
    obtain ⟨owner, first | second⟩ := credited_invoices found
    · rw [first] at found same
      cases found
      exact List.mem_pair.mpr (.inl (same.trans (owned _ _ rfl)))
    · rw [second] at found same
      cases found
      exact List.mem_pair.mpr (.inr (same.trans (owned _ _ rfl)))

theorem credited_snapshot : Snapshot credited twoRenewals :=
  renewals_snapshot rfl rfl

theorem catch_up_faithful_iff_credited :
    (∀ visit ∈ (catchUp bothPaid twoRenewals credited).visits, Faithful bothPaid visit) ↔
      ∀ visit ∈ (catchUp bothPaid twoRenewals credited).visits, InTime bothPaid visit :=
  catch_up_faithful_iff bothPaid credited_snapshot

/-- **The second renewal is refunded as late**: the first was stamped at 989 and spent the floor, so
that 5059, the second's stamp by the snapshot, lies past the window that was left. -/
theorem second_renewal_refunded : Snapshot credited twoRenewals ∧
    ∃ visit ∈ (catchUp bothPaid twoRenewals credited).visits,
      visit.verdict = .refundDue ∧ ¬ Faithful bothPaid visit := by
  refine ⟨credited_snapshot, _, List.mem_of_getElem? (i := 1) rfl, by decide +kernel, ?_⟩
  intro faithful
  have renewed := faithful.renewal rfl _ _ ⟨rfl, ⟨1, 1⟩, rfl, rfl⟩ rfl (.inl rfl)
  revert renewed
  decide +kernel

/-! ### Renewals that stack -/

/-- **Renewals stack**: retention runs from a prepaid end, and the floor lies no more than a period
past it. -/
structure Stackable (row : SubscriptionRow) : Prop where
  prepaid : ∃ paidThrough, row.paidThrough = some paidThrough ∧
    FloorBy row (paidThrough + row.periodS.getD 0)
  retained : ∃ retentionS, row.retentionS = some retentionS
  term : 0 ≤ row.periodS.getD 0

/-- A subscription whose renewals stack can be resumed for no shorter than before. -/
def Outlasts (before after : SubscriptionRow) : Prop :=
  Stackable after ∧ NotEarlier (resumableUntil before) (resumableUntil after)

theorem Outlasts.refl {row : SubscriptionRow} (stackable : Stackable row) : Outlasts row row :=
  ⟨stackable, fun boundary known => ⟨boundary, known, le_rfl⟩⟩

theorem Outlasts.trans {first second third : SubscriptionRow} (left : Outlasts first second)
    (right : Outlasts second third) : Outlasts first third :=
  ⟨right.1, left.2.trans right.2⟩

/-- A renewal of such a subscription. -/
theorem Stackable.extended {row : SubscriptionRow} (stackable : Stackable row) (state : SubState)
    (settlement : Settlement) (now : ℤ) : Outlasts row (extended row state settlement now) := by
  obtain ⟨paidThrough, prepaid, floored⟩ := stackable.prepaid
  have through : extendedThrough row settlement =
      max paidThrough settlement.settledAt + row.periodS.getD 0 := by
    unfold extendedThrough
    rw [prepaid, Option.getD_some]
  refine ⟨⟨⟨_, rfl, fun floor none => ?_⟩, stackable.retained, stackable.term⟩,
    fun boundary known => ?_⟩
  · cases none
  · refine ⟨_, rfl, ?_⟩
    have held : boundary =
        effectiveSuspendAt paidThrough row.suspendNotBefore + row.retentionS.getD 0 := by
      unfold resumableUntil at known
      rw [prepaid] at known
      exact (Option.some.inj known).symm
    have floor : row.suspendNotBefore.getD paidThrough ≤ paidThrough + row.periodS.getD 0 := by
      cases floor : row.suspendNotBefore with
      | none => exact le_add_of_nonneg_right stackable.term
      | some floor' => exact floored floor' floor
    rw [held, through]
    refine (add_le_add_iff_right _).mpr (max_le ?_ (floor.trans ?_) |>.trans (le_max_left _ _))
    · exact (le_max_left _ _).trans (le_add_of_nonneg_right stackable.term)
    · exact (add_le_add_iff_right _).mpr (le_max_left _ _)

/-- What a capture does to a subscription: nothing, or it provisions or extends it. -/
theorem capture_subscription (store : Store) (settlement : Settlement) (now : ℤ) {id : OrderId}
    {row : SubscriptionRow} (found : store.subscription.row id = some row) :
    ∃ later, (captureTxn store settlement now).2.subscription.row id = some later ∧
      (later = row ∨ later = provisioning row now ∨
        ∃ state, later = extended row state settlement now) := by
  have captured := captureTxn_captured store settlement now
  generalize (captureTxn store settlement now).2 = after at captured ⊢
  have written : ∀ {other : OrderId} {before row' : SubscriptionRow},
      store.subscription.row other = some before →
      (row' = provisioning before now ∨ ∃ state, row' = extended before state settlement now) →
      ∃ later, (store.subscription.put other row').row id = some later ∧
        (later = row ∨ later = provisioning row now ∨
          ∃ state, later = extended row state settlement now) := by
    intro other before row' present moved
    by_cases same : id = other
    · subst same
      obtain rfl := Option.some.inj (present.symm.trans found)
      exact ⟨row', Table.put_row_self _ _ _, .inr moved⟩
    · exact ⟨row, (Table.put_row_other _ _ same).trans found, .inl rfl⟩
  cases captured with
  | unmatched absent =>
      exact ⟨row, (idle_unmatched store settlement now).row.trans found, .inl rfl⟩
  | again present paid => exact ⟨row, found, .inl rfl⟩
  | terminal present expired =>
      exact ⟨row, (idle_terminal store _ settlement now).row.trans found, .inl rfl⟩
  | applied present opened routed =>
      cases routed with
      | refunded settles =>
          refine ⟨row, ?_, .inl rfl⟩
          simpa [refundWith, journal, refundIntent, markPaid] using found
      | provisioned owned present' order pending => exact written present' (.inl rfl)
      | renewed owned present' renewal active => exact written present' (.inr ⟨.active, rfl⟩)
      | resumed owned present' renewal lapsed => exact written present' (.inr ⟨.resuming, rfl⟩)

/-- A capture keeps such a subscription resumable for no shorter. -/
theorem capture_outlasts {store : Store} {settlement : Settlement} {now : ℤ} {id : OrderId}
    {row : SubscriptionRow} (found : store.subscription.row id = some row) (stackable : Stackable row) :
    ∃ later, (captureTxn store settlement now).2.subscription.row id = some later ∧
      Outlasts row later := by
  obtain ⟨later, present, rfl | rfl | ⟨state, rfl⟩⟩ := capture_subscription store settlement now found
  · exact ⟨_, present, .refl stackable⟩
  · exact ⟨_, present, ⟨stackable.prepaid, stackable.retained, stackable.term⟩,
      (Outlasts.refl stackable).2⟩
  · exact ⟨_, present, stackable.extended state settlement now⟩

/-- Throughout a pass, a subscription whose renewals stack can be resumed for no shorter than the
snapshot has it. -/
theorem outlasts_of_pass (answers : ExternalId → Answer) (rows : List CatchUpRow) {store : Store}
    {id : OrderId} {row : SubscriptionRow} (found : store.subscription.row id = some row)
    (stackable : Stackable row) :
    ∀ visit ∈ (catchUp answers rows store).visits, ∃ later,
      visit.store.subscription.row id = some later ∧ Outlasts row later := by
  have run : (∃ later, (catchUp answers rows store).store.subscription.row id = some later ∧
        Outlasts row later) ∧
      ∀ visit ∈ (catchUp answers rows store).visits, ∃ later,
        visit.store.subscription.row id = some later ∧ Outlasts row later := by
    refine List.foldlRecOn (motive := fun pass : Pass =>
      (∃ later, pass.store.subscription.row id = some later ∧ Outlasts row later) ∧
        ∀ visit ∈ pass.visits, ∃ later,
          visit.store.subscription.row id = some later ∧ Outlasts row later) rows _
      ⟨⟨row, found, .refl stackable⟩, fun visit member => absurd member List.not_mem_nil⟩ ?_
    rintro pass ⟨⟨later, present, outlasts⟩, earlier⟩ listed -
    rcases step_cases answers pass listed with same | ⟨settlement, -, captured, visits⟩
    · rw [same]
      exact ⟨⟨later, present, outlasts⟩, earlier⟩
    · rw [captured, visits]
      obtain ⟨last, present', outlasts'⟩ := capture_outlasts present outlasts.1
      refine ⟨⟨last, present', outlasts.trans outlasts'⟩, fun visit member => ?_⟩
      rcases List.mem_append.mp member with before | routed
      · exact earlier visit before
      · obtain rfl := List.mem_singleton.mp routed
        exact ⟨later, present, outlasts⟩
  exact run.2

/-- Every OPEN renewal is of a subscription whose renewals stack. -/
def Stacking (store : Store) : Prop :=
  ∀ token invoice id, store.invoice.row token = some invoice → invoice.status = .opened →
    invoice.kind = .renewal → invoice.subscriptionId = some id →
    ∃ row, store.subscription.row id = some row ∧ Stackable row

/-- **Where renewals stack, a pass is faithful**, in any order. -/
theorem faithful_of_stacking {store : Store} {rows : List CatchUpRow}
    (answers : ExternalId → Answer) (snapshot : Snapshot store rows) (stacking : Stacking store) :
    ∀ visit ∈ (catchUp answers rows store).visits, Faithful answers visit := by
  intro visit member
  have judged := judged_of_snapshot snapshot visit member
  refine judged.faithful_iff.mpr ?_
  intro recovered invoice later owned renewal resumable boundary bounded
  obtain ⟨⟨found, opened, listed⟩, -⟩ := judged.verdict_of owned
  obtain ⟨-, id, owner, present⟩ := owned
  obtain ⟨row, held, stackable⟩ := stacking _ _ _ found opened renewal owner
  obtain ⟨later', present', -, notEarlier⟩ :=
    outlasts_of_pass answers rows held stackable visit member
  obtain rfl := Option.some.inj (present'.symm.trans present)
  obtain ⟨paidThrough, prepaid, -⟩ := stackable.prepaid
  obtain ⟨retentionS, retained⟩ := stackable.retained
  have known : renewalBoundary visit.row = resumableUntil row := by
    rw [listed]
    simp [renewalBoundary, catchUpRow, renewal, owner, held, prepaid, retained, resumableUntil]
  have set : resumableUntil row =
      some (effectiveSuspendAt paidThrough row.suspendNotBefore + retentionS) := by
    simp [resumableUntil, prepaid, retained]
  obtain ⟨last, bounded', reached⟩ := notEarlier _ set
  obtain rfl := Option.some.inj (bounded'.symm.trans bounded)
  exact .inr (.inr ⟨_, known.trans set, reached⟩)

/-- The two renewals, of the subscription without the credit. -/
def uncredited : Store :=
  { credited with subscription := (renewable (served 50 10 none)).subscription }

theorem faithful_of_stacking_uncredited :
    ∃ rows, Snapshot uncredited rows ∧ rows.length = 2 ∧
      ∀ visit ∈ (catchUp bothPaid rows uncredited).visits, Faithful bothPaid visit := by
  have snapshot : Snapshot uncredited (renewalRows (served 50 10 none)) := renewals_snapshot rfl rfl
  refine ⟨_, snapshot, rfl, faithful_of_stacking bothPaid snapshot ?_⟩
  intro token invoice id found opened renewal owner
  obtain rfl := Option.some.inj ((credited_invoices found).1.symm.trans owner)
  exact ⟨served 50 10 none, rfl, ⟨1000, rfl, fun floor is => by cases is⟩, ⟨10, rfl⟩, by decide⟩

end Lnrent.CatchUp
