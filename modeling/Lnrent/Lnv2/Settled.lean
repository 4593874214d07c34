/-
**Payments received over lnv2.** A task pushes only what it saw live, and the catch-up pass finds only
what the books have OPEN. What neither covers is a payment that the federation has claimed while
reconcile, which goes by the map, expires the invoice.

* `Watched.Kept` — a payment is captured, waits in the channel, or its book row is OPEN;
* `recovered_payment_stranded` — an order paid while the daemon is down expires before its task marks it;
* `Watched.Careful` — the step is not one of those that lose a payment, in terms of the state before it;
* `Watched.Safe` — what is claimed is kept, or is attended by tasks that will push it;
* `received_kept` — **in every state of a run of careful steps, every PAID row of the map is kept**, and
  no task that pushes nothing is about to record a payment of an expired invoice.
-/

import Lnrent.Accounts.Entered
import Lnrent.Lnv2.Tasks

namespace Lnrent.Lnv2Receive

open Relational Receive Capture Transition

/-! ### Where a payment is -/

/-- The task is about to send the settlement of the invoice. -/
def Duty.Sends (duty : Duty) (pair : ExternalId × ℕ) : Prop :=
  match duty with
  | .sending receipt => receipt.names = pair
  | _ => False

/-- A settlement of the invoice waits in the channel, or to be let into it. -/
def Watched.Sent (state : Watched) (pair : ExternalId × ℕ) : Prop :=
  (∃ receipt ∈ state.channel, receipt.names = pair) ∨
    ∃ task ∈ state.tasks, task.connected = true ∧ task.duty.Sends pair

/-- The book row of the external id is OPEN and the invoice's own. -/
def OpenFor (books : Books) (pair : ExternalId × ℕ) : Prop :=
  ∃ row ∈ books.store.invoice.row pair.1, row.status = .opened ∧ row.id = pair.2

/-- **The payment is kept**: captured, in the channel, or found by the next catch-up pass. -/
def Watched.Kept (state : Watched) (pair : ExternalId × ℕ) : Prop :=
  pair ∈ state.captured ∨ state.Sent pair ∨ OpenFor state.desk.books pair

/-! ### The condition -/

/-- What the task finds claimed it will push. -/
def Task.Pushes (task : Task) : Prop :=
  task.connected = true ∧
    match task.duty with
    | .watching => task.live = true
    | .writing _ settledAt => settledAt.isSome = true
    | .sending _ => True

/-- The operation has a task, and all its tasks push. -/
def Watched.Attended (state : Watched) (operation : ℕ) : Prop :=
  (∃ task ∈ state.tasks, task.operation = operation) ∧
    ∀ task ∈ state.tasks, task.operation = operation → task.Pushes

variable (credit : ℕ → Option ℕ)

/-- **The payment of a map row is due**: the federation has claimed it, its credit is known, and the
invoice is in the books. -/
def Desk.Due (desk : Desk) (token : ExternalId) (row : Row) : Prop :=
  desk.operations.row row.invoice.id = some .claimed ∧ (credit row.invoice.id).isSome = true ∧
    (desk.books.store.invoice.row token).isSome = true

/-- **The step loses no payment.** An invoice is claimed only while its row is OPEN or all its tasks
push; reconcile expires no invoice that is due, unless it is captured, in the channel or attended so; a
task turns to recovery, and a watch starts a recovery task, only where what is due is kept without it;
a capture fails only while something else keeps the payment; and the stream is lost, with the process
or without, only while all that is due is captured or OPEN. -/
def Watched.Careful (state : Watched) : Action → Prop
  | .desk (.ended operation final) =>
      ¬ state.desk.map.Any fun token row => row.invoice.id = operation ∧
        state.desk.operations.row operation = some .pending ∧
        terminalStatus final (credit operation) = some .paid ∧
        (state.desk.books.store.invoice.row token).isSome = true ∧
        ¬ (OpenFor state.desk.books (token, operation) ∨ state.Attended operation)
  | .expired expiry =>
      ¬ state.desk.map.Any fun token row => state.desk.Due credit token row ∧
        (∃ booked ∈ state.desk.books.store.invoice.row token,
          (state.transaction expiry).Expires state.desk.books.store token booked) ∧
        ¬ ((token, row.invoice.id) ∈ state.captured ∨ state.Sent (token, row.invoice.id) ∨
          row.status = .opened ∧ state.Attended row.invoice.id)
  | .errored index => ∀ task ∈ state.tasks[index]?, task.duty = .watching → task.Pushes →
      ¬ state.desk.map.Any fun token row => row.invoice.id = task.operation ∧
        state.desk.Due credit token row ∧ ¬ state.Kept (token, row.invoice.id)
  | .armed _ =>
      ¬ state.desk.map.Any fun token row => state.arming = true ∧ row.status = .opened ∧
        state.desk.Due credit token row ∧ ¬ state.Kept (token, row.invoice.id)
  | .settled works => works = true ∨ ∀ receipt ∈ state.channel.head?,
      ({ state with channel := state.channel.tail } : Watched).Kept receipt.names
  | .closed | .crash =>
      ¬ state.desk.map.Any fun token row => state.desk.Due credit token row ∧
        ¬ ((token, row.invoice.id) ∈ state.captured ∨
          OpenFor state.desk.books (token, row.invoice.id))
  | _ => True

section Decidable

variable (state : Watched) (pair : ExternalId × ℕ) (operation : ℕ)

instance (duty : Duty) : Decidable (duty.Sends pair) :=
  match duty with
  | .sending receipt => inferInstanceAs (Decidable (receipt.names = pair))
  | .watching | .writing _ _ => .isFalse id

instance : Decidable (state.Sent pair) :=
  inferInstanceAs (Decidable ((∃ receipt ∈ state.channel, _) ∨ ∃ task ∈ state.tasks, _))

instance (books : Books) : Decidable (OpenFor books pair) :=
  decidable_of_iff (((books.store.invoice.row pair.1).any fun row =>
    decide (row.status = .opened ∧ row.id = pair.2)) = true) (by simp [OpenFor, Option.any_eq_true])

instance : Decidable (state.Kept pair) := inferInstanceAs (Decidable (_ ∨ _))

instance (task : Task) : Decidable task.Pushes :=
  match task with
  | ⟨_, _, _, live, connected, .watching⟩ =>
      inferInstanceAs (Decidable (connected = true ∧ live = true))
  | ⟨_, _, _, _, connected, .writing _ settledAt⟩ =>
      inferInstanceAs (Decidable (connected = true ∧ settledAt.isSome = true))
  | ⟨_, _, _, _, connected, .sending _⟩ => inferInstanceAs (Decidable (connected = true ∧ True))

instance : Decidable (state.Attended operation) :=
  inferInstanceAs (Decidable ((∃ task ∈ state.tasks, _) ∧ ∀ task ∈ state.tasks, _))

instance (desk : Desk) (token : ExternalId) (row : Row) : Decidable (desk.Due credit token row) :=
  inferInstanceAs (Decidable (_ ∧ _))

instance (action : Action) : Decidable (state.Careful credit action) :=
  match action with
  | .desk (.ended _ _) => inferInstanceAs (Decidable (¬ state.desk.map.Any _))
  | .expired _ => inferInstanceAs (Decidable (¬ state.desk.map.Any _))
  | .errored index => inferInstanceAs (Decidable (∀ task ∈ state.tasks[index]?, _))
  | .armed _ => inferInstanceAs (Decidable (¬ state.desk.map.Any _))
  | .settled _ => inferInstanceAs (Decidable (_ ∨ ∀ receipt ∈ state.channel.head?, _))
  | .closed | .crash => inferInstanceAs (Decidable (¬ state.desk.map.Any _))
  | .desk (.issue _ _ _) | .desk (.minted _ _ _ _) | .desk .dropped | .desk (.commit _)
  | .desk (.orphaned _) | .desk (.mark _ _ _) | .desk (.gc _) | .desk (.book _)
  | .desk (.capture _ _) | .wait _ | .final _ | .persisted _ _ | .sent _ | .registered | .scanned _
  | .lookedUp _ | .routed _ | .asked _ _ => .isTrue trivial

end Decidable

/-! ### Careful steps at the desk -/

section Steps

variable {credit}

/-- **What is due is kept**, or its row is OPEN in the map and its tasks will push it. -/
def Watched.Safe (credit : ℕ → Option ℕ) (state : Watched) : Prop :=
  ∀ token row, state.desk.map.row token = some row → state.desk.Due credit token row →
    state.Kept (token, row.invoice.id) ∨ row.status = .opened ∧ state.Attended row.invoice.id

/-- Two rows of one invoice are under one external id. -/
theorem Tracked.token {state : Watched} (tracked : Tracked credit state) {token token' : ExternalId}
    {row row' : Row} (found : state.desk.map.row token = some row)
    (found' : state.desk.map.row token' = some row') (same : row.invoice.id = row'.invoice.id) :
    token = token' :=
  tracked.owned.one _ _ _ _ (Versions.mem_of_latest (tracked.sound.last _ _ found))
    (Versions.mem_of_latest (tracked.sound.last _ _ found')) same

/-- A due row that left OPEN is PAID. -/
theorem Desk.Due.ends {desk : Desk} {token : ExternalId} {row : Row} (due : desk.Due credit token row) :
    Ends credit desk.operations row.invoice.id .paid := by
  obtain ⟨claimed, known, -⟩ := due
  obtain ⟨credited, isCredit⟩ := Option.isSome_iff_exists.mp known
  exact ⟨.claimed, claimed, by rw [isCredit]; rfl⟩

/-- An operation is claimed by the step that says so. -/
theorem claimed_before {desk : Desk} (action : DeskAction) {operation : ℕ}
    (claimed : (desk.step action).operations.row operation = some .claimed) :
    desk.operations.row operation = some .claimed ∨
      desk.operations.row operation = some .pending ∧ action = .ended operation .claimed := by
  have pending {other : ℕ}
      (put : (desk.operations.put other .pending).row operation = some .claimed) :
      desk.operations.row operation = some .claimed := by
    rw [Table.put_row] at put
    split_ifs at put
    · cases put
    · exact put
  cases action with
  | minted fresh paymentHash bolt11 now =>
      simp only [Desk.step] at claimed
      split at claimed
      · split_ifs at claimed
        · exact .inl (pending claimed)
        · exact .inl claimed
      · exact .inl claimed
  | orphaned fresh =>
      simp only [Desk.step] at claimed
      split_ifs at claimed
      · exact .inl (pending claimed)
      · exact .inl claimed
  | ended other state =>
      simp only [Desk.step] at claimed
      split_ifs at claimed with isPending
      · simp only [Table.put_row] at claimed
        split_ifs at claimed with same
        · cases claimed
          subst same
          exact .inr ⟨isPending, rfl⟩
        · exact .inl claimed
      · exact .inl claimed
  | commit persists =>
      simp only [Desk.step] at claimed
      split at claimed <;> exact .inl claimed
  | _ =>
      simp only [Desk.step] at claimed
      refine .inl ?_
      revert claimed
      repeat' split
      all_goals exact id

/-- **The rows after a step** other than a mark or a capture: the commit made the book row OPEN, or the
map row was there, and the book row went as the other transactions let it. -/
theorem rows_step {desk : Desk} (sound : Sound desk) (action : DeskAction)
    (unmarked : ∀ operation credited settledAt, action ≠ .mark operation credited settledAt)
    (uncaptured : ∀ settlement now, action ≠ .capture settlement now) {token : ExternalId} {row : Row}
    (found : (desk.step action).map.row token = some row) :
    OpenFor (desk.step action).books (token, row.invoice.id) ∨
      desk.map.row token = some row ∧
        Receive.Kept (fun booked => ∃ step, action = .book step ∧
            step.Expires desk.books.store token booked)
          (desk.books.store.invoice.row token) ((desk.step action).books.store.invoice.row token) := by
  cases action with
  | mark operation credited settledAt => exact absurd rfl (unmarked operation credited settledAt)
  | capture settlement now => exact absurd rfl (uncaptured settlement now)
  | book step =>
      exact .inr ⟨found, (run_kept step desk.books.store token).imp fun _ expires =>
        ⟨step, rfl, expires⟩⟩
  | gc cutoff => exact .inr ⟨(gc_some.mp found).1, .same _⟩
  | commit persists =>
      simp only [Desk.step] at found ⊢
      split at found
      · rename_i placement amountSat expiryS invoice minted holds
        have ready : Ready desk placement.externalId invoice minted := sound.turn _ holds
        unfold Desk.commit at found ⊢
        dsimp only at found ⊢
        have committed := commit_committed placement desk.books invoice
          (persists && (if minted then idxInsert desk.map placement.externalId invoice
            else some desk.map).isSome)
        generalize placement.commit desk.books invoice _ = outcome at committed found ⊢
        obtain ⟨ran, books⟩ := outcome
        cases committed with
        | refused rows hashes => exact .inr ⟨by simpa using found, by rw [rows]; exact .same _⟩
        | confirmed goes received rows hashes =>
            cases minted with
            | true => exact absurd received (ready.1.unsettled sound)
            | false => exact .inr ⟨by simpa using found, by rw [rows]; exact .same _⟩
        | @wrote _ written goes fresh wrote put hashes =>
            by_cases here : token = placement.externalId
            · subst here
              refine .inl ⟨written, by rw [put, Table.put_row_self]; rfl, wrote.opened, ?_⟩
              rw [wrote.carries.id]
              cases minted with
              | true =>
                  simp only [if_true, idxInsert_vacant ready.1, Option.getD_some,
                    Table.put_row_self] at found
                  cases found
                  rfl
              | false =>
                  rcases ready with ⟨mapped, isMapped, rfl⟩ | ⟨-, gone⟩
                  · cases isMapped.symm.trans (by simpa using found)
                    rfl
                  · cases gone.1.symm.trans
                      (show desk.map.row placement.externalId = some row by simpa using found)
            · refine .inr ⟨?_, by rw [put, Table.put_row_other _ _ here]; exact .same _⟩
              cases minted with
              | true =>
                  simp only [if_true, idxInsert_vacant ready.1, Option.getD_some,
                    Table.put_row_other _ _ here] at found
                  exact found
              | false => simpa using found
      · exact .inr ⟨found, .same _⟩
  | _ =>
      simp only [Desk.step] at found ⊢
      refine .inr ?_
      revert found
      repeat' split
      all_goals exact fun found => ⟨found, .same _⟩

/-- A due row was due before the step, unless the step claims it. -/
theorem due_before {desk : Desk} (action : DeskAction) {token : ExternalId} {row : Row}
    {guard : InvoiceRow → Prop}
    (kept : Receive.Kept guard (desk.books.store.invoice.row token)
      ((desk.step action).books.store.invoice.row token))
    (due : (desk.step action).Due credit token row) :
    desk.Due credit token row ∨
      desk.operations.row row.invoice.id = some .pending ∧ action = .ended row.invoice.id .claimed := by
  obtain ⟨claimed, known, isBooked⟩ := due
  refine (claimed_before action claimed).imp_left fun before => ⟨before, known, ?_⟩
  obtain ⟨booked, found⟩ := Option.isSome_iff_exists.mp isBooked
  obtain ⟨old, present, -⟩ := kept.of_after found
  rw [present]
  rfl

/-- **A step at the desk** other than a mark or a capture keeps what is due, when it claims nothing and
expires nothing that is not looked after. -/
theorem Watched.Safe.move {state : Watched} (safe : state.Safe credit)
    (tracked : Tracked credit state) (action : DeskAction)
    (unmarked : ∀ operation credited settledAt, action ≠ .mark operation credited settledAt)
    (uncaptured : ∀ settlement now, action ≠ .capture settlement now)
    (claims : ∀ token row, state.desk.map.row token = some row →
      action = .ended row.invoice.id .claimed → state.desk.operations.row row.invoice.id = some .pending →
      (credit row.invoice.id).isSome = true → (state.desk.books.store.invoice.row token).isSome = true →
      OpenFor state.desk.books (token, row.invoice.id) ∨ state.Attended row.invoice.id)
    (expires : ∀ step, action = .book step → ∀ token row, state.desk.map.row token = some row →
      state.desk.Due credit token row → ∀ booked ∈ state.desk.books.store.invoice.row token,
      step.Expires state.desk.books.store token booked →
        (token, row.invoice.id) ∈ state.captured ∨ state.Sent (token, row.invoice.id) ∨
          row.status = .opened ∧ state.Attended row.invoice.id) :
    ({ state with desk := state.desk.step action } : Watched).Safe credit := by
  intro token row found due
  rcases rows_step tracked.sound action unmarked uncaptured found with isOpen | ⟨before, kept⟩
  · exact .inl (.inr (.inr isOpen))
  -- an OPEN book row stays OPEN, or it expires
  have stays (isOpen : OpenFor state.desk.books (token, row.invoice.id)) :
      OpenFor (state.desk.step action).books (token, row.invoice.id) ∨
        ∃ step, action = .book step ∧ ∃ booked ∈ state.desk.books.store.invoice.row token,
          step.Expires state.desk.books.store token booked := by
    obtain ⟨booked, present, opened, same⟩ := isOpen
    rcases kept.of_opened present opened with stays | ⟨step, isBook, expiring⟩
    · exact .inl ⟨booked, stays, opened, same⟩
    · exact .inr ⟨step, isBook, booked, present, expiring⟩
  rcases due_before action kept due with dueBefore | ⟨pending, claiming⟩
  · have lasts (left : (token, row.invoice.id) ∈ state.captured ∨
        state.Sent (token, row.invoice.id) ∨ row.status = .opened ∧ state.Attended row.invoice.id) :
        ({ state with desk := state.desk.step action } : Watched).Kept (token, row.invoice.id) ∨
          row.status = .opened ∧ state.Attended row.invoice.id := by
      rcases left with captured | sent | attended
      · exact .inl (.inl captured)
      · exact .inl (.inr (.inl sent))
      · exact .inr attended
    rcases safe token row before dueBefore with (captured | sent | isOpen) | attended
    · exact lasts (.inl captured)
    · exact lasts (.inr (.inl sent))
    · rcases stays isOpen with later | ⟨step, isBook, booked, present, expiring⟩
      · exact .inl (.inr (.inr later))
      · exact lasts (expires step isBook token row before dueBefore booked present expiring)
    · exact .inr attended
  · have opened : row.status = .opened := by
      by_contra moved
      obtain ⟨last, known, terminal⟩ := tracked.marked token row before moved
      cases pending.symm.trans known
      cases terminal
    obtain ⟨-, known, isBooked⟩ := due
    have wasBooked : (state.desk.books.store.invoice.row token).isSome = true := by
      obtain ⟨booked, present⟩ := Option.isSome_iff_exists.mp isBooked
      obtain ⟨old, present', -⟩ := kept.of_after present
      rw [present']
      rfl
    rcases claims token row before claiming pending known wasBooked with isOpen | attended
    · rcases stays isOpen with later | ⟨step, isBook, -⟩
      · exact .inl (.inr (.inr later))
      · rw [claiming] at isBook
        cases isBook
    · exact .inr ⟨opened, attended⟩

/-! ### Careful steps of the tasks -/

/-- Of the tasks only this one is changed, or gone. -/
structure Turned (task : Task) (before after : List Task) : Prop where
  others : ∀ other ∈ before, other = task ∨ other ∈ after
  same : ∀ other ∈ after, other ∈ before ∨ other.operation = task.operation

theorem turned_erase {tasks : List Task} {index : ℕ} {task : Task}
    (here : tasks[index]? = some task) : Turned task tasks (tasks.eraseIdx index) where
  others other member := by
    obtain ⟨position, found⟩ := List.mem_iff_getElem?.mp member
    by_cases same : position = index
    · subst same
      exact .inl (Option.some.inj (found.symm.trans here))
    · exact .inr (List.mem_eraseIdx_iff_getElem?.mpr ⟨position, same, found⟩)
  same other member := .inl (List.mem_of_mem_eraseIdx member)

theorem turned_set {tasks : List Task} {index : ℕ} {task changed : Task}
    (here : tasks[index]? = some task) (same : changed.operation = task.operation) :
    Turned task tasks (tasks.set index changed) where
  others other member := by
    obtain ⟨position, found⟩ := List.mem_iff_getElem?.mp member
    by_cases same : position = index
    · subst same
      exact .inl (Option.some.inj (found.symm.trans here))
    · refine .inr (List.mem_iff_getElem?.mpr ⟨position, ?_⟩)
      rw [List.getElem?_set_ne (Ne.symm same), found]
  same other member := by
    rcases List.mem_or_eq_of_mem_set member with before | rfl
    · exact .inl before
    · exact .inr same

section Turned

variable {state : Watched} {task : Task} {tasks : List Task} (turned : Turned task state.tasks tasks)

include turned

theorem Turned.sent {pair : ExternalId × ℕ}
    (idle : ¬ (task.connected = true ∧ task.duty.Sends pair)) (sent : state.Sent pair) :
    ({ state with tasks } : Watched).Sent pair := by
  refine sent.imp_right ?_
  rintro ⟨other, member, sends⟩
  rcases turned.others other member with rfl | stays
  · exact absurd sends idle
  · exact ⟨other, stays, sends⟩

theorem Turned.kept {pair : ExternalId × ℕ}
    (idle : ¬ (task.connected = true ∧ task.duty.Sends pair)) (kept : state.Kept pair) :
    ({ state with tasks } : Watched).Kept pair :=
  kept.imp_right fun left => left.imp_left (turned.sent idle)

theorem Turned.attended {operation : ℕ} (other : operation ≠ task.operation)
    (attended : state.Attended operation) :
    ({ state with tasks } : Watched).Attended operation := by
  obtain ⟨⟨tending, member, here⟩, push⟩ := attended
  refine ⟨⟨tending, ?_, here⟩, fun next member' isHere => ?_⟩
  · refine (turned.others tending member).resolve_left ?_
    rintro rfl
    exact other here.symm
  · refine push next ((turned.same next member').resolve_right ?_) isHere
    rw [isHere]
    exact other

/-- **A task that sends nothing moves on**, when the payments of its own operation are looked after. -/
theorem Turned.safe (safe : state.Safe credit)
    (idle : ∀ pair, ¬ (task.connected = true ∧ task.duty.Sends pair))
    (own : ∀ token row, state.desk.map.row token = some row → state.desk.Due credit token row →
      row.invoice.id = task.operation → row.status = .opened → state.Attended row.invoice.id →
      ({ state with tasks } : Watched).Kept (token, row.invoice.id) ∨
        ({ state with tasks } : Watched).Attended row.invoice.id) :
    ({ state with tasks } : Watched).Safe credit := by
  intro token row found due
  rcases safe token row found due with kept | ⟨opened, attended⟩
  · exact .inl (turned.kept (idle _) kept)
  · by_cases here : row.invoice.id = task.operation
    · exact (own token row found due here opened attended).imp_right fun still => ⟨opened, still⟩
    · exact .inr ⟨opened, turned.attended here attended⟩

end Turned

section Tasks

variable {state : Watched} {index : ℕ} {task : Task} {receipt : Receipt}

/-- A task is told its operation is final. -/
theorem Watched.Safe.told (safe : state.Safe credit) (here : state.tasks[index]? = some task)
    (watching : task.duty = .watching) : (state.tell credit index task).Safe credit := by
  unfold Watched.tell
  split
  · exact safe
  · rename_i status final
    have turned : Turned task state.tasks (state.tasks.set index
        { task with
          duty := .writing status
            (if status = .paid ∧ task.live = true then some state.clock else none) }) :=
      turned_set here rfl
    refine turned.safe safe (by simp [watching, Duty.Sends]) ?_
    intro token row found due own opened attended
    obtain ⟨⟨tending, member, isOwn⟩, push⟩ := attended
    have member' := List.mem_of_getElem? here
    obtain ⟨connected, live⟩ := push task member' own.symm
    simp only [watching] at live
    -- the operation was claimed, so this is the mark of a payment
    have paid : status = .paid := by
      obtain ⟨last, known, terminal⟩ := Option.bind_eq_some_iff.mp final
      refine Ends.unique ⟨last, known, terminal⟩ ?_
      rw [← own]
      exact due.ends
    have inside : index < state.tasks.length := (List.getElem?_eq_some_iff.mp here).1
    refine .inr ⟨⟨_, List.mem_set inside _, own.symm⟩, fun other changed isHere => ?_⟩
    rcases List.mem_or_eq_of_mem_set changed with before | rfl
    · exact push other before isHere
    · refine ⟨connected, ?_⟩
      simp [paid, live]

/-- A task is gone, or turns to recovery, that pushes nothing or is not needed. -/
theorem Watched.Safe.untended (safe : state.Safe credit) {tasks : List Task}
    (turned : Turned task state.tasks tasks) (member : task ∈ state.tasks)
    (idle : ∀ pair, ¬ (task.connected = true ∧ task.duty.Sends pair))
    (unneeded : task.Pushes → ∀ token row, state.desk.map.row token = some row →
      row.invoice.id = task.operation → state.desk.Due credit token row →
        state.Kept (token, row.invoice.id)) :
    ({ state with tasks } : Watched).Safe credit := by
  refine turned.safe safe idle fun token row found due own opened attended => .inl ?_
  exact turned.kept (idle _) (unneeded (attended.2 task member own.symm) token row found own due)

/-- **A task at the send** has a PAID row, so that none but it is about. -/
theorem sending_row (tracked : Tracked credit state) (member : task ∈ state.tasks)
    (sending : task.duty = .sending receipt) {token : ExternalId} {row : Row}
    (found : state.desk.map.row token = some row) (own : row.invoice.id = task.operation) :
    row.status = .paid := by
  obtain ⟨names, mapped, isMapped, same, isPaid⟩ := (tracked.tasks task member).sending receipt sending
  rw [names] at isMapped same
  obtain rfl := tracked.token found isMapped (own.trans same.symm)
  cases found.symm.trans isMapped
  exact isPaid

/-- A task sends its settlement into the channel. -/
theorem Watched.Safe.pushed (safe : state.Safe credit) (tracked : Tracked credit state)
    (here : state.tasks[index]? = some task) (sending : task.duty = .sending receipt) :
    ({ state with
      tasks := state.tasks.eraseIdx index, channel := state.channel ++ [receipt] } :
        Watched).Safe credit := by
  have member := List.mem_of_getElem? here
  have turned := turned_erase here
  intro token row found due
  have goes : state.Sent (token, row.invoice.id) →
      ({ state with
        tasks := state.tasks.eraseIdx index, channel := state.channel ++ [receipt] } :
          Watched).Sent (token, row.invoice.id) := by
    rintro (⟨other, waits, names⟩ | ⟨other, isTask, connected, sends⟩)
    · exact .inl ⟨other, List.mem_append_left _ waits, names⟩
    · rcases turned.others other isTask with rfl | stays
      · simp only [Duty.Sends, sending] at sends
        exact .inl ⟨receipt, by simp, sends⟩
      · exact .inr ⟨other, stays, connected, sends⟩
  rcases safe token row found due with kept | ⟨opened, attended⟩
  · exact .inl (kept.imp_right fun left => left.imp_left goes)
  · refine .inr ⟨opened, turned.attended (fun own => ?_) attended⟩
    have isPaid := sending_row tracked member sending found own
    rw [opened] at isPaid
    cases isPaid

/-- **A task's mark is written**: a payment that is due has its settlement at the send from then on. -/
theorem Watched.Safe.persisted (safe : state.Safe credit) (tracked : Tracked credit state)
    (here : state.tasks[index]? = some task) {status : Status} {settledAt : Option ℤ}
    (writing : task.duty = .writing status settledAt) :
    (state.persist credit index task status settledAt).Safe credit := by
  have member := List.mem_of_getElem? here
  have fits := tracked.tasks task member
  obtain ⟨last, known, terminal⟩ := fits.writing status settledAt writing
  have turned : Turned task state.tasks
      (resume state.tasks index (task.written (credit task.operation) status settledAt)) := by
    cases written : task.written (credit task.operation) status settledAt with
    | none => exact turned_erase here
    | some sending =>
        refine turned_set here ?_
        unfold Task.written at written
        split at written
        · cases written
          rfl
        · cases written
  have idle (pair : ExternalId × ℕ) : ¬ (task.connected = true ∧ task.duty.Sends pair) := by
    simp [writing, Duty.Sends]
  intro token row found due
  have desk : state.desk.step (.mark task.operation (credit task.operation) settledAt) =
      { state.desk with
        map := mark state.desk.map task.operation status ((credit task.operation).getD 0)
          settledAt } := by
    simp only [Desk.step, known, Option.bind_some, terminal]
  simp only [Watched.persist, desk] at found due
  obtain ⟨old, before, invoice, changed⟩ := mark_row found
  have dueBefore : state.desk.Due credit token old := by
    rw [Desk.Due, ← invoice]
    exact due
  have keeps (kept : state.Kept (token, row.invoice.id)) :
      (state.persist credit index task status settledAt).Kept (token, row.invoice.id) := by
    refine (turned.kept (idle _) kept).imp_right fun left => left.imp_right fun isOpen => ?_
    simp only [Watched.persist, desk]
    exact isOpen
  rcases safe token old before dueBefore with kept | ⟨opened, attended⟩
  · exact .inl (keeps (invoice ▸ kept))
  by_cases own : row.invoice.id = task.operation
  · -- the last to attend it is this task, which observed it live
    have pushes := attended.2 task member (by rw [← invoice, own])
    obtain ⟨connected, observed⟩ := pushes
    simp only [writing] at observed
    obtain ⟨at_, rfl⟩ := Option.isSome_iff_exists.mp observed
    obtain rfl : status = .paid := by
      refine Ends.unique ⟨last, known, terminal⟩ ?_
      rw [← own, invoice]
      exact dueBefore.ends
    have unexpired : ¬ ExpiredAt state.desk.operations task.operation := by
      intro expired
      rw [← own, invoice, ExpiredAt, dueBefore.1] at expired
      cases expired
    obtain ⟨mapped, isMapped, same⟩ := fits.mapped.resolve_left unexpired
    obtain rfl := tracked.token before isMapped (by rw [← invoice, own, same])
    have inside : index < state.tasks.length := (List.getElem?_eq_some_iff.mp here).1
    refine .inl (.inr (.inl (.inr ⟨_, List.mem_set inside _, connected, ?_⟩)))
    rw [own]
    rfl
  · refine .inr ⟨?_, turned.attended own (invoice ▸ attended)⟩
    rcases changed with rfl | ⟨-, isOwn, -⟩
    · exact opened
    · exact absurd (invoice ▸ isOwn) own

end Tasks

/-! ### Careful steps of the daemon -/

section Daemon

variable {state : Watched}

/-- More tasks keep it, if those of what is due and not kept push. -/
theorem Watched.Safe.more (safe : state.Safe credit) {tasks : List Task}
    (own : ∀ token row, state.desk.map.row token = some row → row.status = .opened →
      state.desk.Due credit token row → ∀ task ∈ tasks, task.operation = row.invoice.id →
        state.Kept (token, row.invoice.id)) :
    ({ state with tasks := state.tasks ++ tasks } : Watched).Safe credit := by
  intro token row found due
  have keeps (kept : state.Kept (token, row.invoice.id)) :
      ({ state with tasks := state.tasks ++ tasks } : Watched).Kept (token, row.invoice.id) := by
    refine kept.imp_right fun left => left.imp_left fun sent => sent.imp_right ?_
    rintro ⟨task, member, sends⟩
    exact ⟨task, List.mem_append_left _ member, sends⟩
  rcases safe token row found due with kept | ⟨opened, ⟨tending, member, here⟩, push⟩
  · exact .inl (keeps kept)
  · by_cases joined : ∃ task ∈ tasks, task.operation = row.invoice.id
    · obtain ⟨task, new, isOwn⟩ := joined
      exact .inl (keeps (own token row found opened due task new isOwn))
    · refine .inr ⟨opened, ⟨tending, List.mem_append_left _ member, here⟩, fun task member' isHere => ?_⟩
      rcases List.mem_append.mp member' with before | new
      · exact push task before isHere
      · exact absurd ⟨task, new, isHere⟩ joined

/-- A commit, with the task it starts: the fresh invoice is OPEN in the books. -/
theorem Watched.Safe.committed (safe : state.Safe credit) (tracked : Tracked credit state)
    (persists : Bool) : (state.step credit (.desk (.commit persists))).Safe credit := by
  have moved := safe.move tracked (.commit persists) (by simp) (by simp) (by simp) (by simp)
  have after := tracked.move (.commit persists) (by simp)
  refine moved.more fun token row found opened due task member own => ?_
  unfold Watched.hook at member
  split at member
  · rename_i externalId invoice open_ inserts _
    obtain rfl := List.mem_singleton.mp member
    obtain ⟨vacant, fresh⟩ := inserts_row tracked.sound inserts
    obtain rfl := after.token found fresh own.symm
    rcases rows_step tracked.sound (.commit persists) (by simp) (by simp) found with isOpen | ⟨before, -⟩
    · exact .inr (.inr isOpen)
    · rw [vacant row before] at opened
      cases opened
  · cases member

/-- **A capture that commits** keeps the rest, and has its own payment captured. -/
theorem captured_safe {receipt : Receipt}
    (paid : PaidRow state.desk.map receipt.names)
    (left : ∀ token row, state.desk.map.row token = some row → state.desk.Due credit token row →
      (state.Kept (token, row.invoice.id) ∨ (token, row.invoice.id) = receipt.names) ∨
        row.status = .opened ∧ state.Attended row.invoice.id) :
    (state.capture receipt true).Safe credit := by
  intro token row found due
  obtain ⟨claimed, known, isBooked⟩ := due
  have dueBefore : state.desk.Due credit token row := by
    refine ⟨claimed, known, ?_⟩
    obtain ⟨booked, present⟩ := Option.isSome_iff_exists.mp isBooked
    obtain ⟨old, before, -⟩ := capture_row present
    rw [before]
    rfl
  refine (left token row found dueBefore).imp_left ?_
  rintro ((captured | sent | ⟨booked, present, opened, same⟩) | own)
  · exact .inl (List.mem_cons_of_mem _ captured)
  · exact .inr (.inl sent)
  · by_cases here : token = receipt.settlement.externalId
    · subst here
      obtain ⟨mapped, isMapped, names, -⟩ := paid
      cases found.symm.trans isMapped
      refine .inl (List.mem_cons.mpr (.inl ?_))
      rw [names]
      rfl
    · refine .inr (.inr ⟨booked, ?_, opened, same⟩)
      exact ((capture_booked _ _ _).2 token here).trans present
  · exact .inl (List.mem_cons.mpr (.inl own))

/-- The settlement loop takes a settlement. -/
theorem Watched.Safe.settled (safe : state.Safe credit) (tracked : Tracked credit state)
    (works : Bool) (careful : state.Careful credit (.settled works)) :
    (state.step credit (.settled works)).Safe credit := by
  simp only [Watched.step]
  split
  · exact safe
  · rename_i receipt rest isChannel
    have paid : PaidRow ({ state with channel := rest } : Watched).desk.map receipt.names :=
      tracked.channel receipt (by rw [isChannel]; simp)
    -- without the receipt the payment is kept, or it was the receipt's
    have left (token : ExternalId) (row : Row) (found : state.desk.map.row token = some row)
        (due : state.desk.Due credit token row) :
        (({ state with channel := rest } : Watched).Kept (token, row.invoice.id) ∨
          (token, row.invoice.id) = receipt.names) ∨
            row.status = .opened ∧ state.Attended row.invoice.id := by
      refine (safe token row found due).imp_left ?_
      rintro (captured | (⟨other, waits, names⟩ | sending) | isOpen)
      · exact .inl (.inl captured)
      · rw [isChannel] at waits
        rcases List.mem_cons.mp waits with rfl | later
        · exact .inr names.symm
        · exact .inl (.inr (.inl (.inl ⟨other, later, names⟩)))
      · exact .inl (.inr (.inl (.inr sending)))
      · exact .inl (.inr (.inr isOpen))
    cases works with
    | true => exact captured_safe paid left
    | false =>
        intro token row found due
        refine (left token row found due).imp_left ?_
        rintro (kept | same)
        · exact kept
        · have covered := careful.resolve_left (by simp) receipt (by simp [isChannel])
          rw [isChannel] at covered
          rw [same]
          exact covered

/-- **The stream is lost**: all that is due was captured, or is OPEN. -/
theorem lost_safe (lost : ¬ state.desk.map.Any fun token row => state.desk.Due credit token row ∧
      ¬ ((token, row.invoice.id) ∈ state.captured ∨
        OpenFor state.desk.books (token, row.invoice.id))) {other : Watched}
    (map : other.desk.map = state.desk.map) (operations : other.desk.operations = state.desk.operations)
    (books : other.desk.books = state.desk.books) (captured : other.captured = state.captured) :
    other.Safe credit := by
  intro token row found due
  rw [map] at found
  have dueBefore : state.desk.Due credit token row := by
    rw [Desk.Due, ← operations, ← books]
    exact due
  refine .inl ?_
  by_contra gone
  refine lost ⟨token, row, found, dueBefore, fun left => gone ?_⟩
  rw [Watched.Kept, captured, books]
  exact left.imp_right .inr

/-- **A careful step keeps what is due.** -/
theorem safe_step (action : Action) (tracked : Tracked credit state)
    (careful : state.Careful credit action) (safe : state.Safe credit) :
    (state.step credit action).Safe credit := by
  cases action with
  | wait | asked | registered | scanned | lookedUp =>
      simp only [Watched.step]
      repeat' split
      all_goals exact safe
  | desk action =>
      cases action with
      | commit persists => exact safe.committed tracked persists
      | mark operation credited settledAt => exact safe
      | capture settlement now => exact safe
      | ended operation final =>
          refine safe.move tracked (.ended operation final) (by simp) (by simp) ?_ (by simp)
          rintro token row found claiming pending known isBooked
          cases claiming
          by_contra neglected
          refine careful ⟨token, row, found, rfl, pending, ?_, isBooked, neglected⟩
          obtain ⟨credited, isCredit⟩ := Option.isSome_iff_exists.mp known
          rw [isCredit]
          rfl
      | book step =>
          cases step with
          | expireOrder | expireRenewal => exact safe
          | reap | elsewhere =>
              refine safe.move tracked (.book _) (by simp) (by simp) (by simp) ?_
              rintro other same token row - - booked - expires
              cases same
              exact expires.elim
      | _ => exact safe.move tracked _ (by simp) (by simp) (by simp) (by simp)
  | final index =>
      simp only [Watched.step]
      repeat' split
      · exact safe
      · rename_i task here _ watching
        exact safe.told here watching
      · exact safe
  | errored index =>
      simp only [Watched.step]
      split
      · exact safe
      · rename_i task here
        split
        · rename_i watching
          have idle (pair : ExternalId × ℕ) : ¬ (task.connected = true ∧ task.duty.Sends pair) := by
            simp [watching, Duty.Sends]
          have unneeded (pushes : task.Pushes) (token : ExternalId) (row : Row)
              (found : state.desk.map.row token = some row) (own : row.invoice.id = task.operation)
              (due : state.desk.Due credit token row) : state.Kept (token, row.invoice.id) := by
            by_contra exposed
            exact careful task here watching pushes ⟨token, row, found, own, due, exposed⟩
          split_ifs
          · exact safe.untended (turned_set here rfl) (List.mem_of_getElem? here) idle unneeded
          · exact safe.untended (turned_erase here) (List.mem_of_getElem? here) idle unneeded
        · exact safe
  | persisted index works =>
      simp only [Watched.step]
      split
      · exact safe
      · rename_i task here
        split
        · rename_i status settledAt writing
          split_ifs with _ connected
          · exact safe.persisted tracked here writing
          · exact safe
          · refine safe.untended (turned_erase here) (List.mem_of_getElem? here) ?_ ?_
            · simp [writing, Duty.Sends]
            · exact fun pushes => absurd pushes.1 connected
        · exact safe
  | sent index =>
      simp only [Watched.step]
      split
      · exact safe
      · rename_i task here
        split
        · rename_i receipt sending
          split_ifs with connected
          · exact safe.pushed tracked here sending
          · exact safe
          · refine safe.untended (turned_erase here) (List.mem_of_getElem? here) ?_ ?_
            · exact fun _ sends => connected sends.1
            · exact fun pushes => absurd pushes.1 connected
        · exact safe
  | armed tokens =>
      simp only [Watched.step]
      split_ifs with ready
      · refine safe.more fun token row found opened due task member own => ?_
        by_contra exposed
        exact careful ⟨token, row, found, ready.1, opened, due, exposed⟩
      · exact safe
  | settled works => exact safe.settled tracked works careful
  | routed works =>
      simp only [Watched.step]
      split
      · exact safe
      · rename_i receipt isRouting
        cases works with
        | false => exact safe
        | true =>
            have paid : PaidRow ({ state with routing := none } : Watched).desk.map receipt.names :=
              tracked.routing receipt isRouting
            refine captured_safe paid fun token row found due => ?_
            exact (safe token row found due).imp_left .inl
  | expired expiry =>
      refine safe.move tracked (.book _) (by simp) (by simp) (by simp) ?_
      rintro step same token row found due booked present expires
      cases same
      by_contra neglected
      exact careful ⟨token, row, found, due, ⟨booked, present, expires⟩, neglected⟩
  | closed => exact lost_safe careful rfl rfl rfl rfl
  | crash => exact lost_safe careful rfl rfl rfl rfl

end Daemon

end Steps

/-! ### Runs -/

/-- **The daemon as a machine**, beside a federation that may know operations already. -/
def watched (operations : Table ℕ Operation) (clock : ℤ) : Machine Watched Action :=
  ⟨⟨clock, .fresh operations, [], none, false, [], [], none, [], []⟩, Watched.step credit⟩

variable {credit}

theorem tracked_start (operations : Table ℕ Operation) (clock : ℤ) :
    Tracked credit (watched credit operations clock).start := by
  refine ⟨sound_run operations [], ⟨?_, ?_, ?_, ?_⟩, ?_, ?_, ?_, ?_, ?_⟩ <;>
    simp [watched, Desk.fresh, Books.empty, Store.empty]

/-- A PAID row stays through every step at the desk. -/
theorem paidKept_step (desk : Desk) (action : DeskAction) :
    Accounts.PaidKept desk.books.store (desk.step action).books.store := by
  have still : Accounts.PaidKept desk.books.store desk.books.store := fun _ _ _ found => found
  cases action with
  | commit persists =>
      simp only [Desk.step]
      split
      · exact Accounts.committed_paidKept (commit_committed _ desk.books _ _)
      · exact still
  | book step => exact Accounts.run_paidKept step desk.books.store
  | capture settlement now =>
      simp only [Desk.step]
      split_ifs
      · exact (Accounts.captureBooks_delivers desk.books settlement now).1
      · exact still
  | _ =>
      simp only [Desk.step]
      repeat' split
      all_goals exact still

/-- **A step** keeps PAID rows, and what it newly captures is delivered. -/
theorem step_delivers (state : Watched) (action : Action) :
    Accounts.PaidKept state.desk.books.store (state.step credit action).desk.books.store ∧
      ∀ pair ∈ (state.step credit action).captured, pair ∈ state.captured ∨
        Accounts.Delivered (state.step credit action).desk.books.store pair.1 := by
  have still : Accounts.PaidKept state.desk.books.store state.desk.books.store :=
    fun _ _ _ found => found
  have captures (before : Watched) (receipt : Receipt) (works : Bool) :
      Accounts.PaidKept before.desk.books.store (before.capture receipt works).desk.books.store ∧
        ∀ pair ∈ (before.capture receipt works).captured, pair ∈ before.captured ∨
          Accounts.Delivered (before.capture receipt works).desk.books.store pair.1 := by
    cases works with
    | false => exact ⟨fun _ _ _ found => found, fun _ member => .inl member⟩
    | true =>
        obtain ⟨keeps, delivered⟩ :=
          Accounts.captureBooks_delivers before.desk.books receipt.settlement before.clock
        refine ⟨keeps, fun pair member => ?_⟩
        rcases List.mem_cons.mp member with rfl | earlier
        · exact .inr delivered
        · exact .inl earlier
  cases action with
  | desk action =>
      have moved := paidKept_step state.desk action
      cases action with
      | book step =>
          cases step with
          | expireOrder | expireRenewal => exact ⟨still, fun _ member => .inl member⟩
          | _ => exact ⟨moved, fun _ member => .inl member⟩
      | mark | capture => exact ⟨still, fun _ member => .inl member⟩
      | _ => exact ⟨moved, fun _ member => .inl member⟩
  | persisted index works =>
      simp only [Watched.step]
      split
      · exact ⟨still, fun _ member => .inl member⟩
      · split
        · split_ifs
          · exact ⟨paidKept_step state.desk _, fun _ member => .inl member⟩
          · exact ⟨still, fun _ member => .inl member⟩
          · exact ⟨still, fun _ member => .inl member⟩
        · exact ⟨still, fun _ member => .inl member⟩
  | settled works =>
      simp only [Watched.step]
      split
      · exact ⟨still, fun _ member => .inl member⟩
      · rename_i receipt rest _
        exact captures { state with channel := rest } receipt works
  | routed works =>
      simp only [Watched.step]
      split
      · exact ⟨still, fun _ member => .inl member⟩
      · rename_i receipt _
        exact captures { state with routing := none } receipt works
  | expired expiry => exact ⟨paidKept_step state.desk _, fun _ member => .inl member⟩
  | final index =>
      simp only [Watched.step, Watched.tell]
      repeat' split
      all_goals exact ⟨still, fun _ member => .inl member⟩
  | _ =>
      simp only [Watched.step]
      repeat' split
      all_goals exact ⟨still, fun _ member => .inl member⟩

/-- **What waits to be captured is marked PAID.** -/
theorem Tracked.paidRow_of_sent {state : Watched} (tracked : Tracked credit state)
    {pair : ExternalId × ℕ} (sent : state.Sent pair) : PaidRow state.desk.map pair := by
  rcases sent with ⟨receipt, waits, rfl⟩ | ⟨task, member, -, sends⟩
  · exact tracked.channel receipt waits
  · cases duty : task.duty with
    | sending receipt =>
        simp only [Duty.Sends, duty] at sends
        rw [← sends]
        exact ((tracked.tasks task member).sending receipt duty).2
    | _ => simp [Duty.Sends, duty] at sends

/-- Only a claimed operation with a known credit is marked PAID. -/
theorem terminal_paid {state : Operation} {credited : Option ℕ}
    (terminal : terminalStatus state credited = some .paid) :
    state = .claimed ∧ credited.isSome = true := by
  cases state <;> cases credited <;> simp [terminalStatus] at terminal ⊢

/-- **A task that will push nothing** is about to record a payment: the invoice is OPEN in the books. -/
theorem Watched.Safe.unpushed {state : Watched} (safe : state.Safe credit)
    (tracked : Tracked credit state) {task : Task} (member : task ∈ state.tasks)
    {settledAt : Option ℤ} (writing : task.duty = .writing .paid settledAt)
    (silent : ¬ task.Pushes) {row : Row} (found : state.desk.map.row task.externalId = some row)
    (own : row.invoice.id = task.operation) (opened : row.status = .opened) {booked : InvoiceRow}
    (present : state.desk.books.store.invoice.row task.externalId = some booked) :
    booked.status = .opened := by
  have due : state.desk.Due credit task.externalId row := by
    obtain ⟨last, known, terminal⟩ := (tracked.tasks task member).writing _ _ writing
    rw [← own] at known terminal
    obtain ⟨rfl, isCredit⟩ := terminal_paid terminal
    exact ⟨known, isCredit, by rw [present]; rfl⟩
  have unpaid : ¬ PaidRow state.desk.map (task.externalId, row.invoice.id) := by
    rintro ⟨mapped, isMapped, -, isPaid⟩
    cases found.symm.trans isMapped
    rw [opened] at isPaid
    cases isPaid
  rcases safe task.externalId row found due with
    (captured | sent | ⟨again, present', isOpen, -⟩) | ⟨-, -, push⟩
  · exact absurd (tracked.captured _ captured) unpaid
  · exact absurd (tracked.paidRow_of_sent sent) unpaid
  · cases present.symm.trans present'
    exact isOpen
  · exact absurd (push task member own.symm) silent

/-! ### A payment that is recovered too late -/

/-- A buyer's request, and the store its order is placed in: the listing is ACTIVE, a slot is HELD. -/
def orderKey : RequestKey := ⟨1, 1⟩

def orderStore : Store :=
  { Store.empty with
    listing := Table.empty.put 0 ⟨some 1, some 100, none, none, none, .active⟩
    reservation := Table.empty.put orderKey ⟨⟨1, 1, 1, 0⟩, .held, 3600, 0⟩ }

/-- The order's transaction. -/
def orderPlacement : Placement :=
  .order ⟨⟨1, 100, 0, ⟨1, 1, 1, 0⟩⟩, ⟨8, 8, 8, 8⟩, 4, fun _ => true, fun _ => none, fun _ => none⟩
    orderKey ⟨0, 0, none⟩ ⟨some 1, some 100, none, none, none, .active⟩ 0

/-- The daemon starts, and commits the order with its invoice. -/
def ordered : List Action :=
  [.desk (.book (.elsewhere orderStore)), .registered, .armed [],
    .desk (.issue orderPlacement 100 3600), .desk (.minted 7 1 100 0), .desk (.commit true)]

/-- The process dies, the order is paid and its window ends; the daemon starts again, and its boot
reconciles before the recovery task has marked the row. -/
def restarted : List Action :=
  [.crash, .desk (.ended 7 .claimed), .wait 3600, .registered, .armed [.order orderKey],
    .scanned [.order orderKey], .lookedUp true, .asked (.order orderKey) true,
    .expired (.order orderKey 3600), .final 0, .persisted 0 true]

/-- **A payment that is recovered too late is stranded**: its row is PAID in the map, the invoice
EXPIRED in the books, and the settlement nowhere. -/
theorem recovered_payment_stranded :
    ¬ ∀ (credit : ℕ → Option ℕ) (operations : Table ℕ Operation) (clock : ℤ) (actions : List Action)
      (token holder : ExternalId) (row : Row) (booked : InvoiceRow),
      ((watched credit operations clock).run actions).desk.map.row token = some row →
      row.status = .paid →
      ((watched credit operations clock).run actions).desk.books.store.invoice.row holder =
        some booked → booked.id = row.invoice.id →
      ((watched credit operations clock).run actions).Kept (token, row.invoice.id) := by
  intro claim
  let credit : ℕ → Option ℕ := fun _ => some 99000
  have mapped : (((watched credit Table.empty 0).run (ordered ++ restarted)).desk.map.row
      (.order orderKey)).map (fun row => (row.status, row.invoice.id)) = some (.paid, 7) := by
    decide +kernel
  have booked : (((watched credit Table.empty 0).run
      (ordered ++ restarted)).desk.books.store.invoice.row (.order orderKey)).map InvoiceRow.id =
        some 7 := by
    decide +kernel
  have stranded : ¬ ((watched credit Table.empty 0).run (ordered ++ restarted)).Kept
      (.order orderKey, 7) := by
    decide +kernel
  obtain ⟨row, found, names⟩ := Option.map_eq_some_iff.mp mapped
  obtain ⟨invoice, present, isOwn⟩ := Option.map_eq_some_iff.mp booked
  obtain ⟨isPaid, same⟩ := Prod.mk.inj names
  refine stranded ?_
  rw [← same]
  exact claim credit Table.empty 0 _ _ _ row invoice found isPaid present (isOwn.trans same.symm)

/-! ### Careful runs -/

/-- **No payment received over lnv2 is stranded** in a run of careful steps. In every state it reaches,
a PAID row of the map whose invoice is in the books is kept: captured, in the channel, or OPEN in the
books; what is captured has entered them, as a PAID row or by a refund attempt; and a task that is about
to record a payment and will push nothing finds the invoice OPEN. -/
theorem received_kept (credit : ℕ → Option ℕ) (operations : Table ℕ Operation) (clock : ℤ)
    (actions : List Action)
    (careful : (watched credit operations clock).Meets (Watched.Careful credit) actions) :
    let state := (watched credit operations clock).run actions
    (∀ token holder row booked, state.desk.map.row token = some row → row.status = .paid →
      state.desk.books.store.invoice.row holder = some booked → booked.id = row.invoice.id →
        state.Kept (token, row.invoice.id)) ∧
    (∀ pair ∈ state.captured, Accounts.Entered (watched credit operations clock)
      (fun state => state.desk.books.store) actions pair.1) ∧
    ∀ task ∈ state.tasks, ∀ settledAt, task.duty = .writing .paid settledAt → ¬ task.Pushes →
      ∀ row, state.desk.map.row task.externalId = some row → row.invoice.id = task.operation →
        row.status = .opened → ∀ booked ∈ state.desk.books.store.invoice.row task.externalId,
          booked.status = .opened := by
  intro state
  have keeps (state : Watched) (action : Action) (careful : state.Careful credit action)
      (good : Tracked credit state ∧ state.Safe credit) :
      Tracked credit (state.step credit action) ∧ (state.step credit action).Safe credit :=
    ⟨tracked_step state action good.1, safe_step action good.1 careful good.2⟩
  have start : Tracked credit (watched credit operations clock).start ∧
      (watched credit operations clock).start.Safe credit := by
    refine ⟨tracked_start operations clock, fun token row found => ?_⟩
    simp [watched, Desk.fresh] at found
  obtain ⟨tracked, safe⟩ : Tracked credit state ∧ state.Safe credit :=
    (watched credit operations clock).invariant_of_meets start keeps actions careful
  refine ⟨fun token holder row booked found isPaid present same => ?_, ?_, ?_⟩
  · -- the id is of this external id only
    obtain ⟨invoice, member, isOwn⟩ := tracked.owned.booked holder booked present
    have mapped := Versions.mem_of_latest (tracked.sound.last token row found)
    obtain rfl := tracked.owned.one _ _ _ _ member mapped (isOwn.trans same)
    obtain ⟨last, known, terminal⟩ := tracked.marked _ row found (by simp [isPaid])
    rw [isPaid] at terminal
    obtain ⟨rfl, isCredit⟩ := terminal_paid terminal
    refine (safe _ row found ⟨known, isCredit, by rw [present]; rfl⟩).resolve_right ?_
    rintro ⟨opened, -⟩
    rw [isPaid] at opened
    cases opened
  · exact Accounts.entered_run Watched.captured Prod.fst rfl
      (fun state action => (step_delivers state action).1)
      (fun state action => (step_delivers state action).2) actions
  · intro task member settledAt writing silent row found own opened booked present
    exact safe.unpushed tracked member writing silent found own opened present

/-- The same order, paid and captured live; then the process dies and starts again. -/
def capturedLive : List Action :=
  ordered ++ [.desk (.ended 7 .claimed), .final 0, .persisted 0 true, .sent 0, .settled true, .crash]

theorem received_kept_live :
    ((ExternalId.order orderKey, 7) ∈
        ((watched (fun _ => some 99000) Table.empty 0).run capturedLive).captured ∧
      (watched (fun _ => some 99000) Table.empty 0).Meets
        (Watched.Careful fun _ => some 99000) capturedLive) ∧
      Accounts.Entered (watched (fun _ => some 99000) Table.empty 0)
        (fun state => state.desk.books.store) capturedLive (.order orderKey) := by
  have captured : (ExternalId.order orderKey, 7) ∈
      ((watched (fun _ => some 99000) Table.empty 0).run capturedLive).captured := by decide +kernel
  have careful : (watched (fun _ => some 99000) Table.empty 0).Meets
      (Watched.Careful fun _ => some 99000) capturedLive := by decide +kernel
  exact ⟨⟨captured, careful⟩,
    (received_kept (fun _ => some 99000) Table.empty 0 capturedLive careful).2.1 _ captured⟩

end Lnrent.Lnv2Receive
