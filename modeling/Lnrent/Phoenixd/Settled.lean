/-
**Payments a poll has seen.** The poll retires a row as soon as its settlement is in the channel, and a
failed capture is only logged. What then keeps the payment is the OPEN book row, which the next
catch-up pass finds, or a new watch, which polls every row within the grace again.

* `Kept` — where a payment that a poll has seen can be: captured, in the channel, under an OPEN row, or
  still to be polled;
* `late_payment_stranded` — a failed capture of a late payment leaves it nowhere;
* `Careful` — the step is not one of those that lose a payment, in terms of the state before it;
* `Entered` — what a committed capture leaves: a PAID row for good, or a refund attempt;
* `payment_kept` — **in every state of a run of careful steps, every payment seen is kept**, and what
  is captured has entered the books.
-/

import Lnrent.Accounts.Entered
import Lnrent.Daemon.PhoenixdWatch
import Lnrent.Receive.OneLive

namespace Lnrent.PhoenixdReceive

open Relational Receive Capture Transition

/-! ### Where a payment is -/

/-- A settlement of the invoice waits in the channel. -/
def Watched.Sent (state : Watched) (id : ℕ) : Prop :=
  ∃ receipt ∈ state.watch.channel, receipt.invoiceId = id

/-- The book row of the external id is OPEN and the invoice's own. -/
def OpenFor (books : Books) (externalId : ExternalId) (id : ℕ) : Prop :=
  ∃ row ∈ books.store.invoice.row externalId, row.status = .opened ∧ row.id = id

/-- At that time a poll would read the row. -/
def Watched.InWindow (state : Watched) (clock : ℤ) (externalId : ExternalId) (id : ℕ) : Prop :=
  ∃ row ∈ state.desk.map, row.1 = externalId ∧ row.2.id = id ∧
    clock - settlementPollGraceSecs ≤ row.2.expiresAt

/-- The poll under way has the row left. -/
def Watched.InPass (state : Watched) (externalId : ExternalId) (id : ℕ) : Prop :=
  ∃ row ∈ state.watch.pass, row.1 = externalId ∧ row.2.id = id

/-- The running task will poll the row again. -/
def Watched.Offered (state : Watched) (externalId : ExternalId) (id : ℕ) : Prop :=
  id ∉ state.watch.retired ∧
    (state.InPass externalId id ∨ state.InWindow state.clock externalId id)

/-- **The payment is kept**: captured, in the channel, found by the next catch-up pass, or offered by a
later poll of the running process. -/
def Watched.Kept (state : Watched) (externalId : ExternalId) (id : ℕ) : Prop :=
  id ∈ state.captured ∨ state.Sent id ∨ OpenFor state.desk.books externalId id ∨
    state.Offered externalId id

section Decidable

variable (state : Watched) (externalId : ExternalId) (id : ℕ) (clock : ℤ)

instance : Decidable (state.Sent id) :=
  inferInstanceAs (Decidable (∃ receipt ∈ state.watch.channel, _))

instance (books : Books) : Decidable (OpenFor books externalId id) :=
  decidable_of_iff (((books.store.invoice.row externalId).any fun row =>
    decide (row.status = .opened ∧ row.id = id)) = true) (by simp [OpenFor, Option.any_eq_true])

instance : Decidable (state.InWindow clock externalId id) :=
  inferInstanceAs (Decidable (∃ row ∈ state.desk.map, _))

instance : Decidable (state.InPass externalId id) :=
  inferInstanceAs (Decidable (∃ row ∈ state.watch.pass, _))

instance : Decidable (state.Offered externalId id) := inferInstanceAs (Decidable (_ ∧ _))

instance : Decidable (state.Kept externalId id) := inferInstanceAs (Decidable (_ ∨ _))

end Decidable

/-! ### The condition -/

/-- A new watch keeps the payment: it is captured, its row is OPEN, or the row is polled again. -/
def Watched.Rearmed (state : Watched) (externalId : ExternalId) (id : ℕ) : Prop :=
  id ∈ state.captured ∨ OpenFor state.desk.books externalId id ∨
    state.InWindow state.clock externalId id

/-- The poll loses no payment with what it found out about the row: it delivers what it sends, or the
new watch keeps all that was seen; and a row it cannot tell about is covered after this poll as well. -/
def Watched.PollCareful (state : Watched) (outcome : PollOutcome) (delivered : Bool)
    (row : ExternalId × Invoice) : Prop :=
  match outcome with
  | .send _ => delivered = true ∨
      ∀ pair ∈ (row.1, row.2.id) :: state.seen, state.Rearmed pair.1 pair.2
  | .skip => (row.1, row.2.id) ∈ state.seen → row.2.id ∈ state.watch.retired ∨
      state.Sent row.2.id ∨ state.Rearmed row.1 row.2.id
  | .retire => True

/-- Another settlement, a capture or the OPEN row covers the payment of the first settlement in the
channel. -/
def Watched.Covered (state : Watched) : Prop :=
  match state.watch.channel with
  | [] => True
  | receipt :: rest => receipt.invoiceId ∈ state.captured ∨
      (∃ other ∈ rest, other.invoiceId = receipt.invoiceId) ∨
      OpenFor state.desk.books receipt.settlement.externalId receipt.invoiceId

/-- **The step loses no payment.** Time passes the grace of no row that only a later poll still covers,
and a poll that cannot tell reads such a row within the grace; reconcile expires no row that only its
OPEN status still covers; a capture fails only while another settlement, another capture or the OPEN
row covers the payment; and a new watch, after a crash or not, re-arms what is not captured or OPEN. -/
def Watched.Careful (state : Watched) : Action → Prop
  | .wait seconds => ∀ pair ∈ state.seen, pair.2 ∈ state.captured ∨ state.Sent pair.2 ∨
      OpenFor state.desk.books pair.1 pair.2 ∨ pair.2 ∈ state.watch.retired ∨
      state.InPass pair.1 pair.2 ∨ state.InWindow (state.clock + seconds) pair.1 pair.2
  | .desk (.book step) => ∀ pair ∈ state.seen, pair.2 ∈ state.captured ∨ state.Sent pair.2 ∨
      state.Offered pair.1 pair.2 ∨
      ∀ row ∈ state.desk.books.store.invoice.row pair.1, row.id = pair.2 →
        ¬ step.Expires state.desk.books.store pair.1 row
  | .polled answer delivered => ∀ row ∈ state.watch.pass.head?,
      state.PollCareful (pollRow state.desk.node state.watch.retired row answer) delivered row
  | .settled works => works = true ∨ state.Covered
  | .rewatch | .crash => ∀ pair ∈ state.seen, state.Rearmed pair.1 pair.2
  | _ => True

section Decidable

variable (state : Watched)

instance (externalId : ExternalId) (id : ℕ) : Decidable (state.Rearmed externalId id) :=
  inferInstanceAs (Decidable (_ ∨ _))

instance (outcome : PollOutcome) (delivered : Bool) (row : ExternalId × Invoice) :
    Decidable (state.PollCareful outcome delivered row) :=
  match outcome with
  | .send _ => inferInstanceAs (Decidable (delivered = true ∨
      ∀ pair ∈ (row.1, row.2.id) :: state.seen, state.Rearmed pair.1 pair.2))
  | .skip => inferInstanceAs (Decidable ((row.1, row.2.id) ∈ state.seen → _))
  | .retire => .isTrue trivial

instance : Decidable state.Covered :=
  match channel : state.watch.channel with
  | [] => .isTrue (by simp [Watched.Covered, channel])
  | receipt :: rest => decidable_of_iff (receipt.invoiceId ∈ state.captured ∨
      (∃ other ∈ rest, other.invoiceId = receipt.invoiceId) ∨
      OpenFor state.desk.books receipt.settlement.externalId receipt.invoiceId)
      (by simp [Watched.Covered, channel])

instance (action : Action) : Decidable (state.Careful action) :=
  match action with
  | .wait _ => inferInstanceAs (Decidable (∀ pair ∈ state.seen, _))
  | .desk (.book _) => inferInstanceAs (Decidable (∀ pair ∈ state.seen, _))
  | .polled _ _ => inferInstanceAs (Decidable (∀ row ∈ state.watch.pass.head?, _))
  | .settled _ => inferInstanceAs (Decidable (_ ∨ state.Covered))
  | .rewatch | .crash => inferInstanceAs (Decidable (∀ pair ∈ state.seen, _))
  | .desk (.issue _ _ _) | .desk (.listed _ _) | .desk (.created _ _) | .desk .dropped
  | .desk (.commit _) | .desk (.landed _ _) | .desk (.lapsed _) | .desk (.paid _ _ _)
  | .desk (.capture _ _) | .poll | .caughtUp _ _ | .routed _ => .isTrue trivial

end Decidable

/-! ### What the observers know -/

/-- The map has the invoice under its external id, and phoenixd reports it paid. -/
def PaidAs (desk : Desk) (externalId : ExternalId) (id : ℕ) : Prop :=
  ∃ invoice, (externalId, invoice) ∈ desk.map ∧ invoice.id = id ∧ PaidAt desk.node invoice.paymentHash

/-- **The invariant of the observers**: whatever they saw or hold is paid, and what is in the channel is
retired. -/
structure Tracked (state : Watched) : Prop where
  sound : Sound state.desk
  seen : ∀ pair ∈ state.seen, PaidAs state.desk pair.1 pair.2
  sent : ∀ receipt ∈ state.watch.channel,
    PaidAs state.desk receipt.settlement.externalId receipt.invoiceId
  routing : ∀ receipt ∈ state.routing,
    PaidAs state.desk receipt.settlement.externalId receipt.invoiceId
  pass : ∀ row ∈ state.watch.pass, ∃ kept, (row.1, kept) ∈ state.desk.map ∧ kept.id = row.2.id ∧
    kept.paymentHash = row.2.paymentHash

/-! ### Steps at the desk -/

/-- A row of the map stays, under its id and hash, and its window never shrinks. -/
theorem map_grows {desk : Desk} (sound : Sound desk) (action : DeskAction) {externalId : ExternalId}
    {invoice : Invoice} (member : (externalId, invoice) ∈ desk.map) :
    ∃ later, (externalId, later) ∈ (desk.step action).map ∧ later.id = invoice.id ∧
      later.paymentHash = invoice.paymentHash ∧ invoice.expiresAt ≤ later.expiresAt := by
  have stays : ∃ later, (externalId, later) ∈ desk.map ∧ later.id = invoice.id ∧
      later.paymentHash = invoice.paymentHash ∧ invoice.expiresAt ≤ later.expiresAt :=
    ⟨invoice, member, rfl, rfl, le_rfl⟩
  cases action with
  | commit persists =>
      simp only [Desk.step]
      split
      · rename_i placement amountSat expiryS issued holds
        have ready : Ready desk.map desk.node placement.externalId issued := sound.turn _ holds
        simp only [Desk.commit]
        split_ifs
        · by_cases same : invoice.id = issued.id
          · obtain rfl : externalId = placement.externalId := ready.owned sound _ member same
            refine ⟨issued, (Versions.mem_upsert _ _).mpr (.inl rfl), same.symm, ?_⟩
            cases ready with
            | again current sameAs later =>
                have id := congrArg Invoice.id sameAs
                obtain rfl := sound.unique _ _ _ member (Versions.mem_of_latest current)
                  (same.trans id)
                have hash := congrArg Invoice.paymentHash sameAs
                exact ⟨hash, later⟩
            | fresh known unmapped dead =>
                refine absurd ?_ (unmapped _ member)
                exact (sound.known _ invoice member).id.symm.trans (same.trans known.id)
          · exact ⟨invoice, (Versions.mem_upsert _ _).mpr (.inr ⟨member, same⟩), rfl, rfl, le_rfl⟩
        · exact stays
      · exact stays
  | _ =>
      simp only [Desk.step]
      repeat' split
      all_goals exact stays

/-- The row of a paid invoice stays OPEN through a commit: nothing but that invoice is committed. -/
theorem OpenFor.commit {desk : Desk} (sound : Sound desk) {externalId : ExternalId} {id : ℕ}
    (paid : PaidAs desk externalId id) (opened : OpenFor desk.books externalId id) {turn : Turn}
    {issued : Invoice} (ready : Ready desk.map desk.node turn.placement.externalId issued)
    (persists : Bool) :
    OpenFor (turn.placement.commit desk.books issued persists).2 externalId id := by
  obtain ⟨row, found, isOpen, rfl⟩ := opened
  have committed := commit_committed turn.placement desk.books issued persists
  generalize turn.placement.commit desk.books issued persists = outcome at committed ⊢
  generalize turn.placement.externalId = token at committed ready
  obtain ⟨ran, books⟩ := outcome
  cases committed with
  | refused kept hashes => exact ⟨row, by rw [kept]; exact found, isOpen, rfl⟩
  | confirmed goes received kept hashes => exact ⟨row, by rw [kept]; exact found, isOpen, rfl⟩
  | @wrote _ written goes fresh wrote put hashes =>
      by_cases here : externalId = token
      · subst here
        refine ⟨written, by rw [put, Table.put_row_self]; rfl, wrote.opened, ?_⟩
        obtain ⟨invoice, member, sameId, isPaid⟩ := paid
        obtain ⟨newest, current, hash⟩ := sound.newest_of_paid member isPaid
        cases ready with
        | again current' same later =>
            cases current.symm.trans current'
            have id := congrArg Invoice.id same
            have known := sound.known _ _ (Versions.mem_of_latest current)
            rw [wrote.carries.id, id, ← sameId]
            exact known.id.trans (hash.trans (sound.known _ invoice member).id.symm)
        | fresh known unmapped dead =>
            refine absurd (dead newest current) (not_dead_of_paid ?_)
            rw [hash]
            exact isPaid
      · exact ⟨row, by rw [put, Table.put_row_other _ _ here]; exact found, isOpen, rfl⟩

/-- A step at the desk other than a transaction of the books or a capture keeps it OPEN. -/
theorem OpenFor.step {desk : Desk} (sound : Sound desk) {externalId : ExternalId} {id : ℕ}
    (paid : PaidAs desk externalId id) (opened : OpenFor desk.books externalId id)
    (action : DeskAction)
    (book : ∀ step, action = .book step → ∀ row ∈ desk.books.store.invoice.row externalId,
      row.id = id → ¬ step.Expires desk.books.store externalId row)
    (capture : ∀ settlement now, action ≠ .capture settlement now) :
    OpenFor (desk.step action).books externalId id := by
  cases action with
  | book step =>
      obtain ⟨row, found, isOpen, sameId⟩ := opened
      rcases (run_kept step desk.books.store externalId).of_opened found isOpen with stays | expires
      · exact ⟨row, stays, isOpen, sameId⟩
      · exact absurd expires (book step rfl row found sameId)
  | capture settlement now => exact absurd rfl (capture settlement now)
  | commit persists =>
      simp only [Desk.step]
      split
      · rename_i placement amountSat expiryS issued holds
        exact opened.commit sound paid (sound.turn _ holds) persists
      · exact opened
  | _ =>
      simp only [Desk.step]
      repeat' split
      all_goals exact opened

/-! ### Captures -/

/-- Two paid invoices under one external id are one. -/
theorem PaidAs.unique {desk : Desk} (sound : Sound desk) {externalId : ExternalId} {first second : ℕ}
    (paid : PaidAs desk externalId first) (paid' : PaidAs desk externalId second) : first = second := by
  obtain ⟨invoice, member, rfl, isPaid⟩ := paid
  obtain ⟨invoice', member', rfl, isPaid'⟩ := paid'
  obtain ⟨newest, current, hash⟩ := sound.newest_of_paid member isPaid
  obtain ⟨newest', current', hash'⟩ := sound.newest_of_paid member' isPaid'
  cases current.symm.trans current'
  exact (sound.known _ _ member).id.trans
    ((hash.symm.trans hash').trans (sound.known _ _ member').id.symm)

theorem PaidAs.paidRow {desk : Desk} {externalId : ExternalId} {id : ℕ}
    (paid : PaidAs desk externalId id) : desk.PaidRow externalId := by
  obtain ⟨invoice, member, -, record, found, isPaid⟩ := paid
  exact ⟨_, member, rfl, by rw [Option.mem_def.mp found, Option.map_some, isPaid]⟩

/-! ### The invariant of the observers -/

/-- **The desk moves on**: it stays sound, a paid row stays paid, and no window shrinks. -/
structure Advances (before after : Desk) : Prop where
  sound : Sound after
  grows : Grows before.node after.node
  rows : ∀ externalId invoice, (externalId, invoice) ∈ before.map →
    ∃ later, (externalId, later) ∈ after.map ∧ later.id = invoice.id ∧
      later.paymentHash = invoice.paymentHash ∧ invoice.expiresAt ≤ later.expiresAt

theorem advances_step {desk : Desk} (sound : Sound desk) (action : DeskAction) :
    Advances desk (desk.step action) :=
  ⟨sound_step desk action sound, (grows_step desk action).1,
    fun _ _ member => map_grows sound action member⟩

section Advances

variable {before after : Desk} (advances : Advances before after)

include advances

theorem Advances.paidAs {externalId : ExternalId} {id : ℕ} (paid : PaidAs before externalId id) :
    PaidAs after externalId id := by
  obtain ⟨invoice, member, rfl, isPaid⟩ := paid
  obtain ⟨later, member', sameId, hash, -⟩ := advances.rows _ _ member
  exact ⟨later, member', sameId, hash ▸ advances.grows.paid isPaid⟩

theorem Advances.inWindow {state : Watched} (here : state.desk = before) {clock : ℤ}
    {externalId : ExternalId} {id : ℕ} (open_ : state.InWindow clock externalId id) :
    ({ state with desk := after } : Watched).InWindow clock externalId id := by
  subst here
  obtain ⟨⟨token, invoice⟩, member, rfl, rfl, window⟩ := open_
  obtain ⟨later, member', sameId, -, longer⟩ := advances.rows _ _ member
  exact ⟨_, member', rfl, sameId, window.trans longer⟩

end Advances

theorem Tracked.advance {state : Watched} (tracked : Tracked state) {desk : Desk}
    (advances : Advances state.desk desk) : Tracked { state with desk } where
  sound := advances.sound
  seen pair member := advances.paidAs (tracked.seen pair member)
  sent receipt member := advances.paidAs (tracked.sent receipt member)
  routing receipt member := advances.paidAs (tracked.routing receipt member)
  pass row member := by
    obtain ⟨kept, mapped, sameId, hash⟩ := tracked.pass row member
    obtain ⟨later, mapped', sameId', hash', -⟩ := advances.rows _ _ mapped
    exact ⟨later, mapped', sameId'.trans sameId, hash'.trans hash⟩

/-- A capture of a paid row is a step at the desk. -/
theorem advances_capture {desk : Desk} (sound : Sound desk) {settlement : Settlement} {id : ℕ}
    (paid : PaidAs desk settlement.externalId id) (now : ℤ) :
    Advances desk { desk with books := captureBooks desk.books settlement now } := by
  have advances := advances_step sound (.capture settlement now)
  rwa [Desk.step, if_pos paid.paidRow] at advances

theorem Tracked.capture {state : Watched} (tracked : Tracked state) {receipt : Receipt}
    (paid : PaidAs state.desk receipt.settlement.externalId receipt.invoiceId) (works : Bool) :
    Tracked (state.capture receipt works) := by
  cases works with
  | false => exact tracked
  | true =>
      have moved := tracked.advance (advances_capture tracked.sound paid state.clock)
      exact ⟨moved.sound, moved.seen, moved.sent, moved.routing, moved.pass⟩

/-- A receipt carries the external id and the id it was made for. -/
theorem receiptOf_names {externalId : ExternalId} {id amountSat : ℕ} {record : Incoming}
    {balance : Option (ℕ × ℕ)} {receipt : Receipt}
    (made : receiptOf externalId id amountSat record balance = some receipt) :
    receipt.settlement.externalId = externalId ∧ receipt.invoiceId = id := by
  unfold receiptOf at made
  simp only [Option.bind_eq_bind, Option.bind_eq_some_iff, Option.pure_def, Option.some.injEq] at made
  obtain ⟨settledAt, -, receivedMsat, -, rfl⟩ := made
  exact ⟨rfl, rfl⟩

/-- **A row that is sent** is paid, and the receipt is its own. -/
theorem pollRow_send {node : Table ℕ Incoming} {retired : List ℕ} {row : ExternalId × Invoice}
    {answer : Answer} {receipt : Receipt} (sends : pollRow node retired row answer = .send receipt) :
    PaidAt node row.2.paymentHash ∧ receipt.settlement.externalId = row.1 ∧
      receipt.invoiceId = row.2.id := by
  unfold pollRow at sends
  split_ifs at sends
  split at sends
  · cases sends
  · rename_i record found
    obtain ⟨order, -, searched⟩ := Option.bind_eq_some_iff.mp found
    split_ifs at sends with isPaid
    split at sends
    · cases sends
    · rename_i made
      cases sends
      exact ⟨⟨record, (mem_listing.mp (Versions.mem_of_latest searched)).2, isPaid⟩,
        receiptOf_names made⟩

/-- **A row that is retired unpaid** is dead. -/
theorem pollRow_retire {node : Table ℕ Incoming} {retired : List ℕ} {row : ExternalId × Invoice}
    {answer : Answer} (retires : pollRow node retired row answer = .retire) :
    DeadAt node row.2.paymentHash := by
  unfold pollRow at retires
  split_ifs at retires
  split at retires
  · cases retires
  · rename_i record found
    obtain ⟨order, -, searched⟩ := Option.bind_eq_some_iff.mp found
    split_ifs at retires with isPaid expired
    · split at retires <;> cases retires
    · exact ⟨record, (mem_listing.mp (Versions.mem_of_latest searched)).2, by simpa using isPaid, expired⟩

/-- **What a catch-up pass finds** is paid, under the external id of the book row. -/
theorem catchUpRow_paid {desk : Desk} (sound : Sound desk) {externalId : ExternalId} {answer : Answer}
    {receipt : Receipt} (found : catchUpRow desk externalId answer = some receipt) :
    PaidAs desk receipt.settlement.externalId receipt.invoiceId := by
  unfold catchUpRow at found
  simp only [Option.bind_eq_bind, Option.bind_eq_some_iff] at found
  obtain ⟨row, present, ⟨token, indexed⟩, isIndexed, order, -, record, searched, made⟩ := found
  split_ifs at made with paid
  obtain ⟨sameToken, sameId⟩ := receiptOf_names made
  obtain ⟨newest, agrees⟩ := sound.booked externalId row present
  have member := Versions.mem_of_latest agrees.current
  have index : indexed.id = row.id := by simpa using List.find?_some isIndexed
  have known := sound.known _ _ member
  have hash : newest.paymentHash = indexed.paymentHash :=
    known.id.symm.trans (agrees.named.1.id.symm.trans (index.symm.trans
      (sound.known _ _ (List.mem_of_find?_eq_some isIndexed)).id))
  rw [sameToken, sameId]
  refine ⟨newest, member, agrees.named.1.id.symm, record, ?_, paid.2⟩
  rw [hash]
  exact (mem_listing.mp (Versions.mem_of_latest searched)).2

/-- **Every step keeps the invariant of the observers.** -/
theorem tracked_step (state : Watched) (action : Action) (tracked : Tracked state) :
    Tracked (state.step action) := by
  have watched (watch : Watch)
      (sent : ∀ receipt ∈ watch.channel, receipt ∈ state.watch.channel)
      (pass : ∀ row ∈ watch.pass, row ∈ state.watch.pass) : Tracked { state with watch } :=
    ⟨tracked.sound, tracked.seen, fun receipt member => tracked.sent receipt (sent receipt member),
      tracked.routing, fun row member => tracked.pass row (pass row member)⟩
  cases action with
  | wait seconds => exact ⟨tracked.sound, tracked.seen, tracked.sent, tracked.routing, tracked.pass⟩
  | desk action =>
      cases action with
      | capture settlement now => exact tracked
      | _ => exact tracked.advance (advances_step tracked.sound _)
  | poll =>
      simp only [Watched.step]
      split
      · refine ⟨tracked.sound, tracked.seen, tracked.sent, tracked.routing, fun row member => ?_⟩
        exact ⟨row.2, (List.mem_filter.mp member).1, rfl, rfl⟩
      · exact tracked
  | polled answer delivered =>
      simp only [Watched.step]
      split
      · exact tracked
      · rename_i row rest isPass
        split_ifs with lists
        · have shorter : ∀ other ∈ rest, other ∈ state.watch.pass := by
            rw [isPass]
            exact fun other member => List.mem_cons_of_mem _ member
          unfold Watched.handle
          split
          · exact watched _ (fun _ member => member) shorter
          · exact watched _ (fun _ member => member) shorter
          · rename_i receipt sends
            obtain ⟨isPaid, token, id⟩ := pollRow_send sends
            obtain ⟨kept, mapped, sameId, hash⟩ := tracked.pass row (by rw [isPass]; simp)
            have paid : PaidAs state.desk row.1 row.2.id :=
              ⟨kept, mapped, sameId, hash ▸ isPaid⟩
            have seen : ∀ pair ∈ (row.1, row.2.id) :: state.seen, PaidAs state.desk pair.1 pair.2 := by
              rintro pair member
              rcases List.mem_cons.mp member with rfl | earlier
              · exact paid
              · exact tracked.seen pair earlier
            split_ifs
            · refine ⟨tracked.sound, seen, fun other member => ?_, tracked.routing,
                fun other member => tracked.pass other (shorter other member)⟩
              rcases List.mem_append.mp member with earlier | new
              · exact tracked.sent other earlier
              · obtain rfl := List.mem_singleton.mp new
                rw [token, id]
                exact paid
            · exact tracked
            · exact ⟨tracked.sound, seen, by simp [Watch.fresh], tracked.routing, by simp [Watch.fresh]⟩
        · exact tracked
  | settled works =>
      simp only [Watched.step]
      split
      · exact tracked
      · rename_i receipt rest isChannel
        have taken := watched { state.watch with channel := rest }
          (by rw [isChannel]; exact fun other member => List.mem_cons_of_mem _ member)
          (fun _ member => member)
        exact taken.capture (tracked.sent receipt (by rw [isChannel]; simp)) works
  | caughtUp externalId answer =>
      simp only [Watched.step]
      split
      · exact tracked
      · rename_i receipt found
        refine ⟨tracked.sound, tracked.seen, tracked.sent, fun other member => ?_, tracked.pass⟩
        rcases List.mem_append.mp member with earlier | new
        · exact tracked.routing other earlier
        · obtain rfl := List.mem_singleton.mp new
          exact catchUpRow_paid tracked.sound found
  | routed works =>
      simp only [Watched.step]
      split
      · exact tracked
      · rename_i receipt rest isRouting
        have taken : Tracked { state with routing := rest } :=
          ⟨tracked.sound, tracked.seen, tracked.sent, fun other member =>
            tracked.routing other (by rw [isRouting]; exact List.mem_cons_of_mem _ member), tracked.pass⟩
        exact taken.capture (tracked.routing receipt (by rw [isRouting]; simp)) works
  | rewatch => exact watched .fresh (by simp [Watch.fresh]) (by simp [Watch.fresh])
  | crash =>
      have fresh := watched .fresh (by simp [Watch.fresh]) (by simp [Watch.fresh])
      have dropped := fresh.advance (advances_step tracked.sound .dropped)
      exact ⟨dropped.sound, dropped.seen, dropped.sent, by simp [Watched.step], dropped.pass⟩

/-! ### What a careful step keeps -/

section Careful

variable {state : Watched} {externalId : ExternalId} {id : ℕ}

/-- A capture keeps every payment. -/
theorem kept_capture (tracked : Tracked state) (paid : PaidAs state.desk externalId id)
    {receipt : Receipt}
    (receiptPaid : PaidAs state.desk receipt.settlement.externalId receipt.invoiceId)
    (kept : state.Kept externalId id ∨ id = receipt.invoiceId) :
    (state.capture receipt true).Kept externalId id := by
  have advances := advances_capture tracked.sound receiptPaid state.clock
  rcases kept with (captured | sent | ⟨row, found, isOpen, sameId⟩ | ⟨active, offered⟩) | rfl
  · exact .inl (List.mem_cons_of_mem _ captured)
  · exact .inr (.inl sent)
  · by_cases here : externalId = receipt.settlement.externalId
    · subst here
      rw [paid.unique tracked.sound receiptPaid]
      exact .inl List.mem_cons_self
    · refine .inr (.inr (.inl ⟨row, ?_, isOpen, sameId⟩))
      exact ((capture_booked _ _ _).2 externalId here).trans found
  · refine .inr (.inr (.inr ⟨active, offered.imp_right fun window => ?_⟩))
    exact advances.inWindow rfl window
  · exact .inl List.mem_cons_self

/-- A new watch keeps what it re-arms. -/
theorem kept_rearmed (rearmed : state.Rearmed externalId id) :
    ({ state with watch := .fresh } : Watched).Kept externalId id := by
  rcases rearmed with captured | isOpen | window
  · exact .inl captured
  · exact .inr (.inr (.inl isOpen))
  · exact .inr (.inr (.inr ⟨by simp [Watch.fresh], .inr window⟩))

/-- Two paid rows of one id are of one external id. -/
theorem PaidAs.token {desk : Desk} (sound : Sound desk) {token : ExternalId}
    (paid : PaidAs desk externalId id) (paid' : PaidAs desk token id) : externalId = token := by
  obtain ⟨invoice, member, rfl, -⟩ := paid
  obtain ⟨invoice', member', sameId, -⟩ := paid'
  obtain ⟨known, record, found, owner, -⟩ := sound.known _ _ member
  obtain ⟨known', record', found', owner', -⟩ := sound.known _ _ member'
  have hash : invoice.paymentHash = invoice'.paymentHash :=
    known.symm.trans (sameId.symm.trans known')
  rw [hash] at found
  cases found.symm.trans found'
  exact owner.symm.trans owner'


/-- What the poll does with a row keeps the payments it has seen. -/
theorem kept_handle (tracked : Tracked state) {row : ExternalId × Invoice} {rest : ReceiveMap}
    (isPass : state.watch.pass = row :: rest) {answer : Answer} {delivered : Bool}
    (careful : state.Careful (.polled answer delivered))
    (kept : ∀ pair ∈ state.seen, state.Kept pair.1 pair.2) :
    ∀ pair ∈ (state.handle row rest answer delivered).seen,
      (state.handle row rest answer delivered).Kept pair.1 pair.2 := by
  replace careful : state.PollCareful (pollRow state.desk.node state.watch.retired row answer)
      delivered row := careful row (by rw [isPass]; rfl)
  unfold Watched.PollCareful at careful
  obtain ⟨current, mapped, sameId, hash⟩ := tracked.pass row (by rw [isPass]; simp)
  -- a seen row left in the pass is still there, unless it was the one just handled
  have left {pair : ExternalId × ℕ} (inPass : state.InPass pair.1 pair.2) :
      pair = (row.1, row.2.id) ∨ ∃ other ∈ rest, other.1 = pair.1 ∧ other.2.id = pair.2 := by
    obtain ⟨other, member, token, id⟩ := inPass
    rw [isPass] at member
    rcases List.mem_cons.mp member with rfl | later
    · exact .inl (Prod.ext token.symm id.symm)
    · exact .inr ⟨other, later, token, id⟩
  unfold Watched.handle
  cases outcome : pollRow state.desk.node state.watch.retired row answer with
  | skip =>
      simp only [outcome] at careful ⊢
      intro pair member
      rcases kept pair member with captured | sent | isOpen | ⟨active, inPass | window⟩
      · exact .inl captured
      · exact .inr (.inl sent)
      · exact .inr (.inr (.inl isOpen))
      · rcases left inPass with rfl | later
        · rcases careful member with retired | sent | captured | isOpen | window
          · exact absurd retired active
          · exact .inr (.inl sent)
          · exact .inl captured
          · exact .inr (.inr (.inl isOpen))
          · exact .inr (.inr (.inr ⟨active, .inr window⟩))
        · exact .inr (.inr (.inr ⟨active, .inl later⟩))
      · exact .inr (.inr (.inr ⟨active, .inr window⟩))
  | retire =>
      simp only
      intro pair member
      -- the retired row is dead, so it is none that was seen paid
      have different : pair.2 ≠ row.2.id := by
        intro same
        obtain ⟨invoice, member', sameId', isPaid⟩ := tracked.seen pair member
        have sameHash : invoice.paymentHash = row.2.paymentHash :=
          ((tracked.sound.known _ _ member').id.symm.trans
            (sameId'.trans (same.trans sameId.symm))).trans
              ((tracked.sound.known _ _ mapped).id.trans hash)
        rw [sameHash] at isPaid
        exact not_dead_of_paid isPaid (pollRow_retire outcome)
      have active (fresh : pair.2 ∉ state.watch.retired) :
          pair.2 ∉ row.2.id :: state.watch.retired := by
        rw [List.mem_cons, not_or]
        exact ⟨different, fresh⟩
      rcases kept pair member with captured | sent | isOpen | ⟨fresh, inPass | window⟩
      · exact .inl captured
      · exact .inr (.inl sent)
      · exact .inr (.inr (.inl isOpen))
      · rcases left inPass with rfl | later
        · exact absurd rfl different
        · exact .inr (.inr (.inr ⟨active fresh, .inl later⟩))
      · exact .inr (.inr (.inr ⟨active fresh, .inr window⟩))
  | send receipt =>
      obtain ⟨-, -, receiptId⟩ := pollRow_send outcome
      simp only [outcome] at careful ⊢
      split_ifs with isDelivered room
      · intro pair member
        by_cases same : pair.2 = row.2.id
        · refine .inr (.inl ⟨receipt, by simp, ?_⟩)
          rw [receiptId, same]
        · have earlier : pair ∈ state.seen := by
            rcases List.mem_cons.mp member with rfl | earlier
            · exact absurd rfl same
            · exact earlier
          have active (fresh : pair.2 ∉ state.watch.retired) :
              pair.2 ∉ row.2.id :: state.watch.retired := by
            rw [List.mem_cons, not_or]
            exact ⟨same, fresh⟩
          rcases kept pair earlier with captured | ⟨other, waits, ofPair⟩ | isOpen |
            ⟨fresh, inPass | window⟩
          · exact .inl captured
          · exact .inr (.inl ⟨other, List.mem_append_left _ waits, ofPair⟩)
          · exact .inr (.inr (.inl isOpen))
          · rcases left inPass with rfl | later
            · exact absurd rfl same
            · exact .inr (.inr (.inr ⟨active fresh, .inl later⟩))
          · exact .inr (.inr (.inr ⟨active fresh, .inr window⟩))
      · exact kept
      · exact fun pair member => kept_rearmed (careful.resolve_left isDelivered pair member)

/-- A step at the desk keeps them, when no row expires that only its OPEN status still covers. -/
theorem kept_desk (tracked : Tracked state) (action : DeskAction)
    (capture : ∀ settlement now, action ≠ .capture settlement now)
    (careful : ∀ step, action = .book step → state.Careful (.desk (.book step)))
    (kept : ∀ pair ∈ state.seen, state.Kept pair.1 pair.2) :
    ∀ pair ∈ state.seen,
      ({ state with desk := state.desk.step action } : Watched).Kept pair.1 pair.2 := by
  have advances := advances_step tracked.sound action
  intro pair member
  have offered (offers : state.Offered pair.1 pair.2) :
      ({ state with desk := state.desk.step action } : Watched).Offered pair.1 pair.2 :=
    ⟨offers.1, offers.2.imp_right (advances.inWindow rfl)⟩
  rcases kept pair member with captured | sent | isOpen | offers
  · exact .inl captured
  · exact .inr (.inl sent)
  · by_cases lives : pair.2 ∈ state.captured ∨ state.Sent pair.2 ∨ state.Offered pair.1 pair.2
    · rcases lives with captured | sent | offers
      · exact .inl captured
      · exact .inr (.inl sent)
      · exact .inr (.inr (.inr (offered offers)))
    · obtain ⟨uncaptured, unsent, unoffered⟩ : _ ∧ _ ∧ _ := by simpa only [not_or] using lives
      refine .inr (.inr (.inl (isOpen.step tracked.sound (tracked.seen pair member) action ?_ capture)))
      rintro step rfl
      rcases careful step rfl pair member with captured | sent | offers | safe
      · exact absurd captured uncaptured
      · exact absurd sent unsent
      · exact absurd offers unoffered
      · exact safe
  · exact .inr (.inr (.inr (offered offers)))

/-- The settlement loop keeps them: a failed capture only where something else covers the payment. -/
theorem kept_settled (tracked : Tracked state) {receipt : Receipt} {rest : List Receipt}
    (isChannel : state.watch.channel = receipt :: rest) {works : Bool}
    (careful : state.Careful (.settled works))
    (kept : ∀ pair ∈ state.seen, state.Kept pair.1 pair.2) :
    ∀ pair ∈ state.seen,
      (({ state with watch := { state.watch with channel := rest } } : Watched).capture receipt
        works).Kept pair.1 pair.2 := by
  have paid := tracked.sent receipt (by rw [isChannel]; simp)
  have taken : Tracked { state with watch := { state.watch with channel := rest } } :=
    ⟨tracked.sound, tracked.seen, fun other member =>
      tracked.sent other (by rw [isChannel]; exact List.mem_cons_of_mem _ member), tracked.routing,
      tracked.pass⟩
  intro pair member
  have seen := tracked.seen pair member
  -- without the receipt the payment is kept, or it was the receipt's
  have split : ({ state with watch := { state.watch with channel := rest } } : Watched).Kept pair.1
      pair.2 ∨ pair.2 = receipt.invoiceId := by
    rcases kept pair member with captured | ⟨other, waits, ofPair⟩ | isOpen | offers
    · exact .inl (.inl captured)
    · rw [isChannel] at waits
      rcases List.mem_cons.mp waits with rfl | later
      · exact .inr ofPair.symm
      · exact .inl (.inr (.inl ⟨other, later, ofPair⟩))
    · exact .inl (.inr (.inr (.inl isOpen)))
    · exact .inl (.inr (.inr (.inr offers)))
  cases works with
  | true => exact kept_capture taken seen paid split
  | false =>
      rcases split with keeps | same
      · exact keeps
      · have covered : state.Covered := careful.resolve_left (by simp)
        simp only [Watched.Covered, isChannel] at covered
        rcases covered with captured | other | isOpen
        · exact .inl (same ▸ captured)
        · exact .inr (.inl (same ▸ other))
        · refine .inr (.inr (.inl ?_))
          rw [same] at seen ⊢
          rw [seen.token tracked.sound paid]
          exact isOpen

/-- **A careful step keeps every payment seen.** -/
theorem kept_step (action : Action) (tracked : Tracked state) (careful : state.Careful action)
    (kept : ∀ pair ∈ state.seen, state.Kept pair.1 pair.2) :
    ∀ pair ∈ (state.step action).seen, (state.step action).Kept pair.1 pair.2 := by
  cases action with
  | wait seconds =>
      intro pair member
      rcases kept pair member with captured | sent | isOpen | ⟨active, -⟩
      · exact .inl captured
      · exact .inr (.inl sent)
      · exact .inr (.inr (.inl isOpen))
      · rcases careful pair member with captured | sent | isOpen | retired | inPass | window
        · exact .inl captured
        · exact .inr (.inl sent)
        · exact .inr (.inr (.inl isOpen))
        · exact absurd retired active
        · exact .inr (.inr (.inr ⟨active, .inl inPass⟩))
        · exact .inr (.inr (.inr ⟨active, .inr window⟩))
  | desk action =>
      cases action with
      | capture settlement now => exact kept
      | book step =>
          refine kept_desk tracked (.book step) (by simp) ?_ kept
          rintro other same
          cases same
          exact careful
      | _ => exact kept_desk tracked _ (by simp) (by simp) kept
  | poll =>
      simp only [Watched.step]
      split
      · rename_i isPass
        intro pair member
        rcases kept pair member with captured | sent | isOpen | ⟨active, inPass | window⟩
        · exact .inl captured
        · exact .inr (.inl sent)
        · exact .inr (.inr (.inl isOpen))
        · obtain ⟨row, member', -⟩ := inPass
          rw [isPass] at member'
          cases member'
        · exact .inr (.inr (.inr ⟨active, .inr window⟩))
      · exact kept
  | polled answer delivered =>
      simp only [Watched.step]
      split
      · exact kept
      · rename_i row rest isPass
        split_ifs
        · exact kept_handle tracked isPass careful kept
        · exact kept
  | settled works =>
      simp only [Watched.step]
      split
      · exact kept
      · rename_i receipt rest isChannel
        have settles := kept_settled tracked isChannel careful kept
        cases works with
        | true => exact settles
        | false => exact settles
  | caughtUp externalId answer =>
      simp only [Watched.step]
      split <;> exact kept
  | routed works =>
      simp only [Watched.step]
      split
      · exact kept
      · rename_i receipt rest isRouting
        cases works with
        | false => exact kept
        | true =>
            have taken : Tracked { state with routing := rest } :=
              ⟨tracked.sound, tracked.seen, tracked.sent, fun other member =>
                tracked.routing other (by rw [isRouting]; exact List.mem_cons_of_mem _ member),
                tracked.pass⟩
            exact fun pair member => kept_capture taken (tracked.seen pair member)
              (tracked.routing receipt (by rw [isRouting]; simp)) (.inl (kept pair member))
  | rewatch => exact fun pair member => kept_rearmed (careful pair member)
  | crash =>
      have rearmed := fun pair member => kept_rearmed (careful pair member)
      exact fun pair member => rearmed pair member

end Careful

/-! ### Runs -/

/-- **The daemon as a machine**, beside a phoenixd that may have records already. -/
def watched (node : Table ℕ Incoming) (clock : ℤ) : Machine Watched Action :=
  ⟨⟨clock, .fresh node, .fresh, [], [], []⟩, Watched.step⟩

/-- The observers start with nothing seen. -/
theorem tracked_start (node : Table ℕ Incoming) (clock : ℤ) : Tracked (watched node clock).start := by
  refine ⟨sound_run node [], ?_, ?_, ?_, ?_⟩ <;> simp [watched, Watch.fresh]

/-! ### What a committed capture leaves -/

/-- **The payment entered the books** in the run: the row of its external id is PAID, or a refund
attempt was written for it by one of the steps. -/
def Entered (node : Table ℕ Incoming) (clock : ℤ) (actions : List Action) (externalId : ExternalId) :
    Prop :=
  (∃ row ∈ ((watched node clock).run actions).desk.books.store.invoice.row externalId,
      row.status = .paid) ∨
    ∃ earlier, earlier <+: actions ∧
      Accounts.Refunded ((watched node clock).run earlier).desk.books.store externalId

/-- **What a step does to the desk**: nothing, a step of the desk that is no capture, or the capture of
a paid invoice. -/
inductive Moved (state : Watched) : Desk → List ℕ → Prop where
  | still : Moved state state.desk state.captured
  | desk (action : DeskAction) (capture : ∀ settlement now, action ≠ .capture settlement now) :
      Moved state (state.desk.step action) state.captured
  | captured (receipt : Receipt)
      (paid : PaidAs state.desk receipt.settlement.externalId receipt.invoiceId) :
      Moved state
        { state.desk with books := captureBooks state.desk.books receipt.settlement state.clock }
        (receipt.invoiceId :: state.captured)

theorem step_moved {state : Watched} (tracked : Tracked state) (action : Action) :
    Moved state (state.step action).desk (state.step action).captured := by
  cases action with
  | wait | caughtUp | rewatch =>
      simp only [Watched.step]
      repeat' split
      all_goals exact .still
  | desk action =>
      cases action with
      | capture settlement now => exact .still
      | _ =>
          simp only [Watched.step]
          refine .desk _ ?_
          simp
  | poll =>
      simp only [Watched.step]
      split <;> exact .still
  | polled answer delivered =>
      simp only [Watched.step]
      split
      · exact .still
      · unfold Watched.handle
        repeat' split
        all_goals exact .still
  | settled works =>
      simp only [Watched.step]
      split
      · exact .still
      · rename_i receipt rest isChannel
        cases works with
        | false => exact .still
        | true => exact .captured receipt (tracked.sent receipt (by rw [isChannel]; simp))
  | routed works =>
      simp only [Watched.step]
      split
      · exact .still
      · rename_i receipt rest isRouting
        cases works with
        | false => exact .still
        | true => exact .captured receipt (tracked.routing receipt (by rw [isRouting]; simp))
  | crash => exact .desk .dropped (by simp)

/-- A PAID row stays through every step of the desk that is no capture. -/
theorem paidKept_step (desk : Desk) (action : DeskAction)
    (capture : ∀ settlement now, action ≠ .capture settlement now) :
    Accounts.PaidKept desk.books.store (desk.step action).books.store := by
  have still : Accounts.PaidKept desk.books.store desk.books.store := fun _ _ _ found => found
  cases action with
  | capture settlement now => exact absurd rfl (capture settlement now)
  | book step => exact Accounts.run_paidKept step desk.books.store
  | commit persists =>
      simp only [Desk.step]
      split
      · exact Accounts.committed_paidKept (commit_committed _ desk.books _ _)
      · exact still
  | _ =>
      simp only [Desk.step]
      repeat' split
      all_goals exact still

/-- **A step** keeps PAID rows and the payments under their external ids, and what it newly captures is
delivered. -/
theorem Moved.leaves {state : Watched} (tracked : Tracked state) {desk : Desk} {captured : List ℕ}
    (moved : Moved state desk captured) :
    Accounts.PaidKept state.desk.books.store desk.books.store ∧ Advances state.desk desk ∧
      ∀ id ∈ captured, id ∈ state.captured ∨ ∃ externalId, PaidAs state.desk externalId id ∧
        Accounts.Delivered desk.books.store externalId := by
  cases moved with
  | still =>
      refine ⟨fun _ _ _ found => found, ⟨tracked.sound, .refl _, fun _ invoice member => ?_⟩,
        fun _ member => .inl member⟩
      exact ⟨invoice, member, rfl, rfl, le_rfl⟩
  | desk action capture =>
      exact ⟨paidKept_step state.desk action capture, advances_step tracked.sound action,
        fun _ member => .inl member⟩
  | captured receipt paid =>
      obtain ⟨keeps, delivered⟩ :=
        Accounts.captureBooks_delivers state.desk.books receipt.settlement state.clock
      refine ⟨keeps, advances_capture tracked.sound paid state.clock, fun id member => ?_⟩
      rcases List.mem_cons.mp member with rfl | earlier
      · exact .inr ⟨_, paid, delivered⟩
      · exact .inl earlier

/-- **What is captured has entered the books**, in every state of every run. -/
theorem captured_entered (node : Table ℕ Incoming) (clock : ℤ) (actions : List Action) :
    Tracked ((watched node clock).run actions) ∧
      ∀ id ∈ ((watched node clock).run actions).captured, ∃ externalId,
        PaidAs ((watched node clock).run actions).desk externalId id ∧
          Entered node clock actions externalId := by
  induction actions using List.reverseRecOn with
  | nil => exact ⟨tracked_start node clock, by simp [Machine.run, Machine.runFrom, watched]⟩
  | append_singleton actions action ih =>
      obtain ⟨tracked, entered⟩ := ih
      have last : (watched node clock).run (actions ++ [action]) =
          ((watched node clock).run actions).step action :=
        (watched node clock).runFrom_append ..
      obtain ⟨paidKept, advances, captured⟩ := (step_moved tracked action).leaves tracked
      refine ⟨by rw [last]; exact tracked_step _ action tracked, fun id member => ?_⟩
      rw [last] at member ⊢
      rcases captured id member with earlier | ⟨externalId, paid, delivered⟩
      · obtain ⟨externalId, paid, reached⟩ := entered id earlier
        refine ⟨externalId, advances.paidAs paid, ?_⟩
        rcases reached with ⟨row, found, isPaid⟩ | ⟨earlier, started, refunded⟩
        · refine .inl ⟨row, ?_, isPaid⟩
          rw [last]
          exact paidKept externalId row isPaid found
        · exact .inr ⟨earlier, started.trans (List.prefix_append _ _), refunded⟩
      · refine ⟨externalId, advances.paidAs paid, ?_⟩
        rcases delivered with refunded | ⟨row, found, isPaid⟩
        · exact .inr ⟨_, List.prefix_rfl, by rw [last]; exact refunded⟩
        · refine .inl ⟨row, ?_, isPaid⟩
          rw [last]
          exact found

/-! ### A late payment -/

/-- A buyer's request, and the store its order is placed in: the listing is ACTIVE, a slot is HELD. -/
def lateKey : RequestKey := ⟨1, 1⟩

def lateStore : Store :=
  { Store.empty with
    listing := Table.empty.put 0 ⟨some 1, some 100, none, none, none, .active⟩
    reservation := Table.empty.put lateKey ⟨⟨1, 1, 1, 0⟩, .held, 3600, 0⟩ }

/-- The order's transaction. -/
def latePlacement : Placement :=
  .order ⟨⟨1, 100, 0, ⟨1, 1, 1, 0⟩⟩, ⟨8, 8, 8, 8⟩, 4, fun _ => true, fun _ => none, fun _ => none⟩
    lateKey ⟨0, 0, none⟩ ⟨some 1, some 100, none, none, none, .active⟩ 0

/-- The order's invoice expires unpaid, is paid after that, and the poll sends the settlement; then it
is captured, or its capture fails. -/
def lateRun (works : Bool) : List Action :=
  [.desk (.book (.elsewhere lateStore)), .desk (.issue latePlacement 100 3600),
    .desk (.listed [] 0), .desk (.created ⟨7, 1, 100, some (7, some 100000)⟩ none),
    .desk (.commit true), .wait 3600,
    .desk (.book (.expireOrder (fun _ => .unpaid) lateKey 3600 3600)),
    .desk (.paid 7 100 (some 3600500)), .poll, .polled ⟨some [7], some (0, 1000)⟩ true,
    .settled works]

/-- **A failed capture of a late payment loses it**: the row is EXPIRED and retired, the channel is
empty. -/
theorem late_payment_stranded :
    ¬ ∀ (node : Table ℕ Incoming) (clock : ℤ) (actions : List Action) (externalId : ExternalId)
      (id : ℕ), (externalId, id) ∈ ((watched node clock).run actions).seen →
        ((watched node clock).run actions).Kept externalId id := by
  intro claim
  have seen : (ExternalId.order lateKey, 7) ∈ ((watched Table.empty 0).run (lateRun false)).seen := by
    decide +kernel
  have stranded : ¬ ((watched Table.empty 0).run (lateRun false)).Kept (.order lateKey) 7 := by
    decide +kernel
  exact stranded (claim Table.empty 0 (lateRun false) (.order lateKey) 7 seen)

/-! ### Careful runs -/

/-- The invariant of a careful run. -/
def Watched.Safe (state : Watched) : Prop :=
  Tracked state ∧ ∀ pair ∈ state.seen, state.Kept pair.1 pair.2

/-- **No payment a poll has seen is stranded** in a run of careful steps: in every state it reaches,
each is captured, in the channel, under an OPEN row of its own, or still to be polled; and one that is
captured has entered the books, as a PAID row or by a refund attempt. -/
theorem payment_kept (node : Table ℕ Incoming) (clock : ℤ) (actions : List Action)
    (careful : (watched node clock).Meets Watched.Careful actions) (externalId : ExternalId) (id : ℕ)
    (seen : (externalId, id) ∈ ((watched node clock).run actions).seen) :
    ((watched node clock).run actions).Kept externalId id ∧
      (id ∈ ((watched node clock).run actions).captured → Entered node clock actions externalId) := by
  have start : (watched node clock).start.Safe := ⟨tracked_start node clock, by simp [watched]⟩
  have keeps (state : Watched) (action : Action) (careful : state.Careful action)
      (safe : state.Safe) : ((watched node clock).step state action).Safe :=
    ⟨tracked_step state action safe.1, kept_step action safe.1 careful safe.2⟩
  have safe := (watched node clock).invariant_of_meets start keeps actions careful
  refine ⟨safe.2 _ seen, fun captured => ?_⟩
  obtain ⟨token, paid, entered⟩ := (captured_entered node clock actions).2 id captured
  obtain rfl : externalId = token := (safe.1.seen _ seen).token safe.1.sound paid
  exact entered

/-- The same run with a capture that commits: the late payment is captured, and refunded. -/
theorem late_payment_kept :
    7 ∈ ((watched Table.empty 0).run (lateRun true)).captured ∧
      (ExternalId.order lateKey, 7) ∈ ((watched Table.empty 0).run (lateRun true)).seen ∧
      ((watched Table.empty 0).run (lateRun true)).Kept (.order lateKey) 7 ∧
      Entered Table.empty 0 (lateRun true) (.order lateKey) := by
  have captured : 7 ∈ ((watched Table.empty 0).run (lateRun true)).captured := by decide +kernel
  have seen : (ExternalId.order lateKey, 7) ∈ ((watched Table.empty 0).run (lateRun true)).seen := by
    decide +kernel
  have careful : (watched Table.empty 0).Meets Watched.Careful (lateRun true) := by decide +kernel
  obtain ⟨kept, entered⟩ :=
    payment_kept Table.empty 0 (lateRun true) careful (.order lateKey) 7 seen
  exact ⟨captured, seen, kept, entered captured⟩

end Lnrent.PhoenixdReceive
