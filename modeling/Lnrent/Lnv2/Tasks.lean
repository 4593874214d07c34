/-
**The tasks of the lnv2 watch.** Whatever the order of issues, federation moves, marks, captures,
expiries and restarts, what a task, the channel or the catch-up pass holds names a row of the map, and
what is on its way to capture is marked PAID there.

* `Owned`, `owned_step` — an invoice id is of one external id;
* `Advances`, `advances_step` — what a step at the desk leaves of the rows and the final states;
* `Tracked`, `tracked_step` — **the invariant of the observers**, and that every step keeps it.
-/

import Lnrent.Daemon.Lnv2Watch
import Lnrent.Receive.Agreement

namespace Lnrent.Lnv2Receive

open Relational Receive Capture Transition

/-! ### An id is of one external id -/

/-- **Where the ids of the desk come from**: each was handed out, under one external id. -/
structure Owned (desk : Desk) : Prop where
  one : ∀ token token' invoice invoice', (token, invoice) ∈ desk.handed →
    (token', invoice') ∈ desk.handed → invoice.id = invoice'.id → token = token'
  fresh : ∀ placement amountSat expiryS invoice,
    desk.turn = some ⟨placement, amountSat, expiryS, .committing invoice true⟩ →
      ∀ token handed, (token, handed) ∈ desk.handed → handed.id ≠ invoice.id
  again : ∀ placement amountSat expiryS invoice,
    desk.turn = some ⟨placement, amountSat, expiryS, .committing invoice false⟩ →
      (placement.externalId, invoice) ∈ desk.handed
  booked : ∀ token row, desk.books.store.invoice.row token = some row →
    ∃ invoice, (token, invoice) ∈ desk.handed ∧ invoice.id = row.id

/-- An invoice that was handed out is one the federation knows. -/
theorem Sound.known {desk : Desk} (sound : Sound desk) {externalId : ExternalId} {invoice : Invoice}
    (member : (externalId, invoice) ∈ desk.handed) : desk.operations.row invoice.id ≠ none := by
  rcases sound.handed externalId invoice member with ⟨row, found, rfl⟩ | expired
  · exact (sound.tracks externalId row found).known
  · rw [ExpiredAt] at expired
    simp [expired]

section Owned

variable {desk : Desk}

/-- The lock changes hands, to a holder that is not committing. -/
theorem Owned.hold (owned : Owned desk) {turn : Option Turn}
    (idle : ∀ next, turn = some next → ∀ invoice minted, next.stage = .committing invoice minted →
      desk.turn = some next) : Owned { desk with turn } where
  one := owned.one
  fresh _ _ _ invoice holds := owned.fresh _ _ _ _ (idle _ holds invoice true rfl)
  again _ _ _ invoice holds := owned.again _ _ _ _ (idle _ holds invoice false rfl)
  booked := owned.booked

/-- The books move on, with no new row. -/
theorem Owned.rebook (owned : Owned desk) {books : Books}
    (kept : ∀ token row, books.store.invoice.row token = some row →
      ∃ old, desk.books.store.invoice.row token = some old ∧ old.id = row.id) :
    Owned { desk with books } where
  one := owned.one
  fresh := owned.fresh
  again := owned.again
  booked token row found := by
    obtain ⟨old, present, same⟩ := kept token row found
    rw [← same]
    exact owned.booked token old present

/-- **A commit** hands out a fresh id, or one that was handed out under the same external id. -/
theorem Owned.commit (owned : Owned desk) {placement : Placement} {amountSat expiryS : ℕ}
    {invoice : Invoice} {minted : Bool}
    (holds : desk.turn = some ⟨placement, amountSat, expiryS, .committing invoice minted⟩)
    (persists : Bool) :
    Owned (desk.commit ⟨placement, amountSat, expiryS, .committing invoice minted⟩ invoice minted
      persists) := by
  have owner (token : ExternalId) (handed : Invoice) (member : (token, handed) ∈ desk.handed)
      (same : handed.id = invoice.id) : token = placement.externalId := by
    cases minted with
    | true => exact absurd same (owned.fresh _ _ _ _ holds token handed member)
    | false => exact owned.one _ _ _ _ member (owned.again _ _ _ _ holds) same
  unfold Desk.commit
  dsimp only
  have committed := commit_committed placement desk.books invoice
    (persists && (if minted then idxInsert desk.map placement.externalId invoice
      else some desk.map).isSome)
  generalize placement.commit desk.books invoice _ = outcome at committed ⊢
  obtain ⟨ran, books⟩ := outcome
  have one (token token' : ExternalId) (first second : Invoice)
      (member : (token, first) ∈ (placement.externalId, invoice) :: desk.handed)
      (member' : (token', second) ∈ (placement.externalId, invoice) :: desk.handed)
      (same : first.id = second.id) : token = token' := by
    rcases List.mem_cons.mp member with new | old <;> rcases List.mem_cons.mp member' with new' | old'
    · cases new
      cases new'
      rfl
    · cases new
      exact (owner _ _ old' same.symm).symm
    · cases new'
      exact owner _ _ old same
    · exact owned.one _ _ _ _ old old' same
  cases committed with
  | refused rows hashes =>
      refine ⟨by simpa using owned.one, by simp, by simp, fun token row found => ?_⟩
      rw [rows] at found
      simpa using owned.booked token row found
  | confirmed goes received rows hashes =>
      refine ⟨by simpa using one, by simp, by simp, fun token row found => ?_⟩
      rw [rows] at found
      obtain ⟨handed, member, same⟩ := owned.booked token row found
      exact ⟨handed, by simp [member], same⟩
  | @wrote _ written goes fresh wrote put hashes =>
      refine ⟨by simpa using one, by simp, by simp, fun token row found => ?_⟩
      rw [put] at found
      by_cases here : token = placement.externalId
      · subst here
        rw [Table.put_row_self] at found
        cases found
        exact ⟨invoice, by simp, wrote.carries.id.symm⟩
      · rw [Table.put_row_other _ _ here] at found
        obtain ⟨handed, member, same⟩ := owned.booked token row found
        exact ⟨handed, by simp [member], same⟩

end Owned

/-- A capture adds no row, and changes no id. -/
theorem capture_row {store : Store} {settlement : Settlement} {now : ℤ} {token : ExternalId}
    {row : InvoiceRow} (found : (captureTxn store settlement now).2.invoice.row token = some row) :
    ∃ old, store.invoice.row token = some old ∧ old.id = row.id := by
  obtain ⟨here, elsewhere⟩ := capture_booked store settlement now
  by_cases asked : token = settlement.externalId
  · subst asked
    rw [found] at here
    generalize before : store.invoice.row settlement.externalId = earlier at here
    cases here with
    | again row => exact ⟨row, rfl, rfl⟩
    | booked old row same => exact ⟨old, rfl, same.id⟩
  · exact ⟨row, (elsewhere token asked).symm.trans found, rfl⟩

theorem owned_step {desk : Desk} (sound : Sound desk) (owned : Owned desk) (action : DeskAction) :
    Owned (desk.step action) := by
  cases action with
  | issue placement amountSat expiryS =>
      simp only [Desk.step]
      split
      · exact owned
      · refine ⟨owned.one, fun _ _ _ invoice holds => ?_, fun _ _ _ invoice holds => ?_, owned.booked⟩
        · simp only [Option.some.injEq, Turn.mk.injEq] at holds
          obtain ⟨-, -, -, stage⟩ := holds
          unfold readStage at stage
          split at stage
          · cases stage
          · split_ifs at stage
            cases stage
        · simp only [Option.some.injEq, Turn.mk.injEq] at holds
          obtain ⟨rfl, -, -, stage⟩ := holds
          unfold readStage at stage
          split at stage
          · cases stage
          · rename_i row found
            split_ifs at stage
            cases stage
            exact Versions.mem_of_latest (sound.last _ row found)
  | minted operation paymentHash bolt11 now =>
      simp only [Desk.step]
      split
      · split_ifs with unused
        · refine ⟨owned.one, fun _ _ _ invoice holds => ?_, fun _ _ _ invoice holds => ?_, owned.booked⟩
          · cases holds
            rintro token handed member rfl
            exact sound.known member unused
          · cases holds
        · exact owned
      · exact owned
  | dropped => exact owned.hold (by simp)
  | commit persists =>
      simp only [Desk.step]
      split
      · rename_i holds
        exact owned.commit holds persists
      · exact owned
  | book step =>
      refine owned.rebook fun token row found => ?_
      obtain ⟨old, present, same, -⟩ := (run_kept step desk.books.store token).of_after found
      exact ⟨old, present, same.id⟩
  | capture settlement now =>
      simp only [Desk.step]
      split_ifs
      · exact owned.rebook fun token row found => capture_row found
      · exact owned
  | _ =>
      simp only [Desk.step]
      repeat' split
      all_goals exact ⟨owned.one, owned.fresh, owned.again, owned.booked⟩

/-! ### What a step at the desk leaves -/

/-- A final state stays. -/
theorem final_stays (desk : Desk) (action : DeskAction) {operation : ℕ} {state : Operation}
    (known : desk.operations.row operation = some state) (final : state ≠ .pending) :
    (desk.step action).operations.row operation = some state := by
  have elsewhere {other : ℕ} (next : Operation)
      (unfinished : desk.operations.row other = none ∨ desk.operations.row other = some .pending) :
      (desk.operations.put other next).row operation = some state := by
    rw [Table.put_row_other, known]
    rintro rfl
    rw [known] at unfinished
    simp [final] at unfinished
  cases action with
  | minted operation paymentHash bolt11 now =>
      simp only [Desk.step]
      split
      · split_ifs with unused
        · exact elsewhere _ (.inl unused)
        · exact known
      · exact known
  | orphaned operation =>
      simp only [Desk.step]
      split_ifs with unused
      · exact elsewhere _ (.inl unused)
      · exact known
  | ended operation next =>
      simp only [Desk.step]
      split_ifs with pending
      · exact elsewhere _ (.inr pending)
      · exact known
  | commit persists =>
      simp only [Desk.step]
      split <;> exact known
  | _ =>
      simp only [Desk.step]
      repeat' split
      all_goals exact known

/-- A row that is not CANCELED stays with its invoice, and in its status once it left OPEN. -/
theorem row_stays {desk : Desk} (sound : Sound desk) (action : DeskAction) {token : ExternalId}
    {row : Row} (found : desk.map.row token = some row) (stands : row.status ≠ .canceled) :
    ∃ later, (desk.step action).map.row token = some later ∧ later.invoice = row.invoice ∧
      (row.status ≠ .opened → later.status = row.status) := by
  have stays : ∃ later, desk.map.row token = some later ∧ later.invoice = row.invoice ∧
      (row.status ≠ .opened → later.status = row.status) := ⟨row, found, rfl, fun _ => rfl⟩
  cases action with
  | commit persists =>
      simp only [Desk.step]
      split
      · rename_i placement amountSat expiryS invoice minted holds
        cases minted with
        | false => simpa only [Desk.commit, Bool.false_eq_true, if_false, Option.getD_some, ite_self]
        | true =>
            have vacant : Vacant desk.map placement.externalId := (sound.turn _ holds).1
            have other : token ≠ placement.externalId := by
              rintro rfl
              exact stands (vacant row found)
            simp only [Desk.commit, if_true, idxInsert_vacant vacant, Option.getD_some]
            split_ifs
            · exact ⟨row, (Table.put_row_other _ _ other).trans found, rfl, fun _ => rfl⟩
            · exact stays
      · exact stays
  | mark operation credited settledAt =>
      simp only [Desk.step]
      split
      · exact stays
      · obtain ⟨later, found', same, kept⟩ := mark_keeps operation _ _ settledAt found
        exact ⟨later, found', same, kept⟩
  | gc cutoff =>
      exact ⟨row, gc_some.mpr ⟨found, fun collects => stands collects.1⟩, rfl, fun _ => rfl⟩
  | _ =>
      simp only [Desk.step]
      repeat' split
      all_goals exact stays

theorem inserted_row {map : ReceiveMap} {externalId token : ExternalId} {invoice : Invoice} {row : Row}
    (found : ((idxInsert map externalId invoice).getD map).row token = some row) :
    row.status = .opened ∨ map.row token = some row := by
  cases written : idxInsert map externalId invoice with
  | none =>
      rw [written] at found
      exact .inr found
  | some later =>
      have inserted : later = map.put externalId (.fresh invoice) := by
        unfold idxInsert at written
        split at written
        · exact (Option.some.inj written).symm
        · split_ifs at written
          exact (Option.some.inj written).symm
      rw [written, Option.getD_some, inserted, Table.put_row] at found
      split_ifs at found
      · cases found
        exact .inl rfl
      · exact .inr found

/-- A row that was not there before is OPEN, marks apart. -/
theorem row_came {desk : Desk} (action : DeskAction)
    (unmarked : ∀ operation credited settledAt, action ≠ .mark operation credited settledAt)
    {token : ExternalId} {row : Row} (found : (desk.step action).map.row token = some row) :
    row.status = .opened ∨ desk.map.row token = some row := by
  cases action with
  | mark operation credited settledAt => exact absurd rfl (unmarked operation credited settledAt)
  | commit persists =>
      simp only [Desk.step] at found
      split at found
      · rename_i placement amountSat expiryS invoice minted holds
        cases minted with
        | false =>
            simp only [Desk.commit, Bool.false_eq_true, if_false, Option.getD_some, ite_self] at found
            exact .inr found
        | true =>
            simp only [Desk.commit, if_true] at found
            split_ifs at found
            · exact inserted_row found
            · exact .inr found
      · exact .inr found
  | gc cutoff => exact .inr (gc_some.mp found).1
  | _ =>
      simp only [Desk.step] at found
      refine .inr ?_
      revert found
      repeat' split
      all_goals exact id

/-! ### What the observers know -/

section Observers

variable (credit : ℕ → Option ℕ)

/-- The operation is final, and this is its mark. -/
def Ends (operations : Table ℕ Operation) (operation : ℕ) (status : Status) : Prop :=
  ∃ state, operations.row operation = some state ∧
    terminalStatus state (credit operation) = some status

/-- The map row of the external id is of that invoice, and PAID. -/
def PaidRow (map : ReceiveMap) (pair : ExternalId × ℕ) : Prop :=
  ∃ row, map.row pair.1 = some row ∧ row.invoice.id = pair.2 ∧ row.status = .paid

/-- **What a task knows of its invoice**: it has the map row, unless the operation expired. -/
structure Task.Fits (task : Task) (desk : Desk) : Prop where
  mapped : ExpiredAt desk.operations task.operation ∨
    ∃ row, desk.map.row task.externalId = some row ∧ row.invoice.id = task.operation
  writing : ∀ status settledAt, task.duty = .writing status settledAt →
    Ends credit desk.operations task.operation status
  sending : ∀ receipt, task.duty = .sending receipt →
    receipt.names = (task.externalId, task.operation) ∧ PaidRow desk.map receipt.names

/-- **The invariant of the observers**: a row that left OPEN has the mark of its operation, and whatever
is on its way to capture is PAID. -/
structure Tracked (state : Watched) : Prop where
  sound : Sound state.desk
  owned : Owned state.desk
  marked : ∀ token row, state.desk.map.row token = some row → row.status ≠ .opened →
    Ends credit state.desk.operations row.invoice.id row.status
  tasks : ∀ task ∈ state.tasks, task.Fits credit state.desk
  channel : ∀ receipt ∈ state.channel, PaidRow state.desk.map receipt.names
  routing : ∀ receipt ∈ state.routing, PaidRow state.desk.map receipt.names
  captured : ∀ pair ∈ state.captured, PaidRow state.desk.map pair

variable {credit}

theorem Ends.stays {desk : Desk} {operation : ℕ} {status : Status}
    (ends : Ends credit desk.operations operation status) (action : DeskAction) :
    Ends credit (desk.step action).operations operation status := by
  obtain ⟨state, known, terminal⟩ := ends
  refine ⟨state, final_stays desk action known ?_, terminal⟩
  rintro rfl
  cases terminal

/-- An operation has one mark. -/
theorem Ends.unique {operations : Table ℕ Operation} {operation : ℕ} {status status' : Status}
    (ends : Ends credit operations operation status) (ends' : Ends credit operations operation status') :
    status = status' := by
  obtain ⟨state, known, terminal⟩ := ends
  obtain ⟨state', known', terminal'⟩ := ends'
  cases known.symm.trans known'
  exact Option.some.inj (terminal.symm.trans terminal')

theorem PaidRow.stays {desk : Desk} (sound : Sound desk) {pair : ExternalId × ℕ}
    (paid : PaidRow desk.map pair) (action : DeskAction) : PaidRow (desk.step action).map pair := by
  obtain ⟨row, found, same, isPaid⟩ := paid
  obtain ⟨later, found', invoice, kept⟩ := row_stays sound action found (by simp [isPaid])
  refine ⟨later, found', ?_, ?_⟩
  · rw [invoice, same]
  · rw [kept (by simp [isPaid]), isPaid]

theorem Task.Fits.stays {desk : Desk} (sound : Sound desk) {task : Task} (fits : task.Fits credit desk)
    (action : DeskAction) : task.Fits credit (desk.step action) where
  mapped := by
    have expired (isExpired : ExpiredAt desk.operations task.operation) :
        ExpiredAt (desk.step action).operations task.operation :=
      final_stays desk action isExpired (by simp)
    rcases fits.mapped with isExpired | ⟨row, found, same⟩
    · exact .inl (expired isExpired)
    · by_cases canceled : row.status = .canceled
      · refine .inl (expired ?_)
        rw [← same]
        exact (sound.tracks _ row found).canceled canceled
      · obtain ⟨later, found', invoice, -⟩ := row_stays sound action found canceled
        exact .inr ⟨later, found', by rw [invoice, same]⟩
  writing status settledAt duty := (fits.writing status settledAt duty).stays action
  sending receipt duty :=
    ⟨(fits.sending receipt duty).1, (fits.sending receipt duty).2.stays sound action⟩

/-- **The desk moves on**: a row that newly left OPEN has the mark of its operation. -/
theorem Tracked.advance {state : Watched} (tracked : Tracked credit state) (action : DeskAction)
    (marked : ∀ token row, (state.desk.step action).map.row token = some row →
      row.status = .opened ∨ state.desk.map.row token = some row ∨
        Ends credit state.desk.operations row.invoice.id row.status) :
    Tracked credit { state with desk := state.desk.step action } where
  sound := sound_step state.desk action tracked.sound
  owned := owned_step tracked.sound tracked.owned action
  marked token row found moved := by
    rcases marked token row found with opened | before | ends
    · exact absurd opened moved
    · exact (tracked.marked token row before moved).stays action
    · exact ends.stays action
  tasks task member := (tracked.tasks task member).stays tracked.sound action
  channel receipt member := (tracked.channel receipt member).stays tracked.sound action
  routing receipt member := (tracked.routing receipt member).stays tracked.sound action
  captured pair member := (tracked.captured pair member).stays tracked.sound action

/-- A step other than a mark. -/
theorem Tracked.move {state : Watched} (tracked : Tracked credit state) (action : DeskAction)
    (unmarked : ∀ operation credited settledAt, action ≠ .mark operation credited settledAt) :
    Tracked credit { state with desk := state.desk.step action } :=
  tracked.advance action fun _ _ found => (row_came action unmarked found).imp_right .inl

/-- Tasks and channel move on, over the same desk. -/
theorem Tracked.retask {state : Watched} (tracked : Tracked credit state) {tasks : List Task}
    (fits : ∀ task ∈ tasks, task ∈ state.tasks ∨ task.Fits credit state.desk) :
    Tracked credit { state with tasks } where
  sound := tracked.sound
  owned := tracked.owned
  marked := tracked.marked
  tasks task member := (fits task member).elim (tracked.tasks task) id
  channel := tracked.channel
  routing := tracked.routing
  captured := tracked.captured

/-- The capture of a PAID row. -/
theorem Tracked.capture {state : Watched} (tracked : Tracked credit state) {receipt : Receipt}
    (paid : PaidRow state.desk.map receipt.names) (works : Bool) :
    Tracked credit (state.capture receipt works) := by
  cases works with
  | false => exact tracked
  | true =>
      have moved := tracked.move (.capture receipt.settlement state.clock) (by simp)
      obtain ⟨row, found, same, isPaid⟩ := paid
      have books : state.desk.step (.capture receipt.settlement state.clock) =
          { state.desk with
            books := captureBooks state.desk.books receipt.settlement state.clock } :=
        if_pos (by rw [show state.desk.map.row receipt.settlement.externalId = some row from found,
          Option.map_some, isPaid])
      rw [books] at moved
      refine ⟨moved.sound, moved.owned, moved.marked, moved.tasks, moved.channel, moved.routing,
        fun pair member => ?_⟩
      rcases List.mem_cons.mp member with rfl | earlier
      · exact ⟨row, found, same, isPaid⟩
      · exact moved.captured pair earlier

/-- A commit that inserts a fresh invoice does so over a vacant row, and leaves its map row. -/
theorem inserts_row {desk : Desk} (sound : Sound desk) {persists : Bool} {externalId : ExternalId}
    {invoice : Invoice} (inserts : desk.inserts persists = some (externalId, invoice)) :
    Vacant desk.map externalId ∧
      (desk.step (.commit persists)).map.row externalId = some (.fresh invoice) := by
  unfold Desk.inserts at inserts
  split at inserts
  · rename_i placement amountSat expiryS issued holds
    have vacant : Vacant desk.map placement.externalId := (sound.turn _ holds).1
    rw [idxInsert_vacant vacant] at inserts
    split_ifs at inserts with ran
    cases inserts
    refine ⟨vacant, ?_⟩
    simp only [Desk.step, holds, Desk.commit, if_true, idxInsert_vacant vacant, ran, Option.getD_some,
      Table.put_row_self]
  · cases inserts

/-- What the hook starts has its row. -/
theorem hook_fits {state : Watched} (sound : Sound state.desk) {persists : Bool} {task : Task}
    (member : task ∈ state.hook persists) :
    task.Fits credit (state.desk.step (.commit persists)) := by
  unfold Watched.hook at member
  split at member
  · rename_i externalId invoice open_ inserts _
    obtain rfl := List.mem_singleton.mp member
    refine ⟨.inr ⟨_, (inserts_row sound inserts).2, rfl⟩, ?_, ?_⟩ <;> simp [Task.watch]
  · cases member

/-- **A task of a recovery** has its row, which is OPEN. -/
theorem recovery_row {map : ReceiveMap} {tokens : List ExternalId} {task : Task}
    (member : task ∈ recoveryTasks map tokens) :
    ∃ row, map.row task.externalId = some row ∧ row.status = .opened ∧
      task = .watch task.externalId row.invoice false true := by
  unfold recoveryTasks at member
  simp only [List.mem_filterMap, Option.bind_eq_bind, Option.bind_eq_some_iff] at member
  obtain ⟨token, -, row, found, made⟩ := member
  split_ifs at made with opened
  cases made
  exact ⟨row, found, opened, rfl⟩

/-- **What a catch-up pass finds** is a PAID row, under the external id of the book row. -/
theorem lookUp_paid {state : Watched} {row : ℕ × CatchUp.CatchUpRow} {receipt : Receipt}
    (found : state.lookUp row = some receipt) : PaidRow state.desk.map receipt.names := by
  unfold Watched.lookUp CatchUp.settlementOf at found
  obtain ⟨settlement, made, rfl⟩ := Option.map_eq_some_iff.mp found
  split at made
  · rename_i observed credited answered _
    cases made
    simp only [lookupSettlementByRef] at answered
    split at answered
    · rename_i mapped isMapped
      split_ifs at answered with same
      · unfold classifyIndexedSettlement at answered
        split_ifs at answered with isPaid
        · exact ⟨mapped, isMapped, same, isPaid⟩
        all_goals simp at answered
      · simp at answered
    · cases answered
  · cases made

/-! ### Every step -/

/-- A task that is told its operation is final. -/
theorem Tracked.told {state : Watched} (tracked : Tracked credit state) {index : ℕ} {task : Task}
    (here : state.tasks[index]? = some task) : Tracked credit (state.tell credit index task) := by
  unfold Watched.tell
  split
  · exact tracked
  · rename_i status final
    obtain ⟨last, known, terminal⟩ := Option.bind_eq_some_iff.mp final
    refine tracked.retask fun other member => ?_
    rcases List.mem_or_eq_of_mem_set member with before | rfl
    · exact .inl before
    · refine .inr ⟨(tracked.tasks task (List.mem_of_getElem? here)).mapped, ?_, by simp⟩
      rintro status' settledAt duty
      cases duty
      exact ⟨last, known, terminal⟩

/-- The row of a task whose operation was paid is PAID once its mark is written. -/
theorem marked_paid {state : Watched} (tracked : Tracked credit state) {task : Task}
    {settledAt : Option ℤ} (fits : task.Fits credit state.desk)
    (ends : Ends credit state.desk.operations task.operation .paid) :
    PaidRow (state.desk.step (.mark task.operation (credit task.operation) settledAt)).map
      (task.externalId, task.operation) := by
  obtain ⟨last, known, terminal⟩ := ends
  have unexpired : ¬ ExpiredAt state.desk.operations task.operation := by
    intro expired
    cases known.symm.trans expired
    cases terminal
  obtain ⟨row, found, same⟩ := fits.mapped.resolve_left unexpired
  have marked : (state.desk.step (.mark task.operation (credit task.operation) settledAt)).map =
      mark state.desk.map task.operation .paid ((credit task.operation).getD 0) settledAt := by
    simp only [Desk.step, known, Option.bind_some, terminal]
  rw [marked]
  by_cases opened : row.status = .opened
  · refine ⟨row.marked .paid ((credit task.operation).getD 0) settledAt, ?_, same, rfl⟩
    unfold mark
    rw [Table.update_row, found, Option.map_some, if_pos ⟨same, opened⟩]
  · obtain ⟨later, found', invoice, kept⟩ := mark_keeps task.operation _ .paid settledAt found
    refine ⟨later, found', by rw [invoice, same], ?_⟩
    have isMarked := tracked.marked _ row found opened
    rw [same] at isMarked
    rw [kept opened]
    exact isMarked.unique ⟨last, known, terminal⟩

/-- A task whose mark is written. -/
theorem Tracked.persisted {state : Watched} (tracked : Tracked credit state) {index : ℕ} {task : Task}
    (here : state.tasks[index]? = some task) {status : Status} {settledAt : Option ℤ}
    (duty : task.duty = .writing status settledAt) :
    Tracked credit (state.persist credit index task status settledAt) := by
  have fits := tracked.tasks task (List.mem_of_getElem? here)
  have ends := fits.writing status settledAt duty
  have moved : Tracked credit { state with
      desk := state.desk.step (.mark task.operation (credit task.operation) settledAt) } := by
    refine tracked.advance _ fun token row found => ?_
    obtain ⟨last, known, terminal⟩ := ends
    simp only [Desk.step, known, Option.bind_some, terminal] at found
    obtain ⟨old, before, invoice, rfl | ⟨-, same, marked⟩⟩ := mark_row found
    · exact .inr (.inl before)
    · refine .inr (.inr ?_)
      rw [invoice, same, marked]
      exact ⟨last, known, terminal⟩
  unfold Watched.persist
  refine moved.retask fun other member => ?_
  cases written : task.written (credit task.operation) status settledAt with
  | none =>
      rw [written] at member
      exact .inl (List.mem_of_mem_eraseIdx member)
  | some sending =>
      rw [written] at member
      rcases List.mem_or_eq_of_mem_set member with before | rfl
      · exact .inl before
      · unfold Task.written at written
        split at written
        · rename_i at_
          cases written
          refine .inr ⟨(fits.stays tracked.sound _).mapped, by simp, ?_⟩
          rintro receipt made
          cases made
          exact ⟨rfl, marked_paid tracked fits ends⟩
        · cases written

/-- **Every step keeps the invariant of the observers.** -/
theorem tracked_step (state : Watched) (action : Action) (tracked : Tracked credit state) :
    Tracked credit (state.step credit action) := by
  -- one task less
  have erased (index : ℕ) : Tracked credit { state with tasks := state.tasks.eraseIdx index } :=
    tracked.retask fun _ member => .inl (List.mem_of_mem_eraseIdx member)
  have ⟨sound, owned, marked, tasks, channel, routing, taken⟩ := tracked
  cases action with
  | wait | asked | registered | scanned =>
      simp only [Watched.step]
      repeat' split
      all_goals exact ⟨sound, owned, marked, tasks, channel, routing, taken⟩
  | desk action =>
      cases action with
      | commit persists =>
          refine (tracked.move (.commit persists) (by simp)).retask fun task member => ?_
          exact (List.mem_append.mp member).imp_right (hook_fits sound)
      | mark operation credited settledAt => exact tracked
      | capture settlement now => exact tracked
      | book step =>
          cases step with
          | expireOrder | expireRenewal => exact tracked
          | reap | elsewhere => exact tracked.move (.book _) (by simp)
      | _ => exact tracked.move _ (by simp)
  | final index =>
      simp only [Watched.step]
      repeat' split
      · exact tracked
      · rename_i task here _ _
        exact tracked.told here
      · exact tracked
  | errored index =>
      simp only [Watched.step]
      split
      · exact tracked
      · rename_i task here
        split
        · split_ifs
          · refine tracked.retask fun other member => ?_
            rcases List.mem_or_eq_of_mem_set member with before | rfl
            · exact .inl before
            · have fits := tasks task (List.mem_of_getElem? here)
              exact .inr ⟨fits.mapped, fits.writing, fits.sending⟩
          · exact erased index
        · exact tracked
  | persisted index works =>
      simp only [Watched.step]
      split
      · exact tracked
      · rename_i task here
        split
        · rename_i status settledAt duty
          split_ifs
          · exact tracked.persisted here duty
          · exact tracked
          · exact erased index
        · exact tracked
  | sent index =>
      simp only [Watched.step]
      split
      · exact tracked
      · rename_i task here
        split
        · rename_i receipt duty
          split_ifs
          · have left := erased index
            refine ⟨sound, owned, marked, left.tasks, fun other member => ?_, routing, taken⟩
            rcases List.mem_append.mp member with before | new
            · exact channel other before
            · obtain rfl := List.mem_singleton.mp new
              exact ((tasks task (List.mem_of_getElem? here)).sending _ duty).2
          · exact tracked
          · exact erased index
        · exact tracked
  | armed tokens =>
      simp only [Watched.step]
      split_ifs
      · have started : Tracked credit
            { state with tasks := state.tasks ++ recoveryTasks state.desk.map tokens } := by
          refine tracked.retask fun task member => (List.mem_append.mp member).imp_right fun new => ?_
          obtain ⟨row, found, -, made⟩ := recovery_row new
          rw [made]
          refine ⟨.inr ⟨row, found, rfl⟩, ?_, ?_⟩ <;> simp [Task.watch]
        exact ⟨sound, owned, marked, started.tasks, channel, routing, taken⟩
      · exact tracked
  | closed =>
      refine ⟨sound, owned, marked, fun task member => ?_, by simp [Watched.step], routing, taken⟩
      obtain ⟨before, member', rfl⟩ := List.mem_map.mp member
      exact ⟨(tasks before member').mapped, (tasks before member').writing,
        (tasks before member').sending⟩
  | settled works =>
      simp only [Watched.step]
      split
      · exact tracked
      · rename_i receipt rest isChannel
        have others : Tracked credit { state with channel := rest } :=
          ⟨sound, owned, marked, tasks, fun other member =>
            channel other (by rw [isChannel]; exact List.mem_cons_of_mem _ member), routing, taken⟩
        exact others.capture (channel receipt (by rw [isChannel]; simp)) works
  | lookedUp works =>
      simp only [Watched.step]
      split
      · refine ⟨sound, owned, marked, tasks, channel, fun receipt member => ?_, taken⟩
        split_ifs at member
        · exact lookUp_paid member
        · cases member
      · exact tracked
  | routed works =>
      simp only [Watched.step]
      split
      · exact tracked
      · rename_i receipt isRouting
        have others : Tracked credit { state with routing := none } :=
          ⟨sound, owned, marked, tasks, channel, by simp, taken⟩
        exact others.capture (routing receipt isRouting) works
  | expired expiry => exact tracked.move (.book _) (by simp)
  | crash =>
      have dropped := tracked.move .dropped (by simp)
      exact ⟨dropped.sound, dropped.owned, dropped.marked, by simp [Watched.step],
        by simp [Watched.step], by simp [Watched.step], dropped.captured⟩

end Observers

end Lnrent.Lnv2Receive
