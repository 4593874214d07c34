/-
**Payments that entered the books.** What a capture commits is a PAID row, which stays so, or a refund
attempt, which the reaper may take once it was sent.

* `committed_paidKept`, `run_paidKept` — the transactions of an issuing backend keep PAID rows;
* `Entered` — a run left a PAID row for the external id, or wrote a refund attempt for it;
* `entered_run` — **what a machine counts as captured has entered**, by what one step does.
-/

import Lnrent.Accounts.PaidOnce
import Lnrent.Receive.Books

namespace Lnrent.Accounts

open Relational Transition Receive

/-! ### The transactions -/

/-- A commit leaves PAID rows alone. -/
theorem committed_paidKept {books after : Books} {token : ExternalId} {invoice : Invoice}
    {persists ran : Bool} (committed : Committed books token invoice persists ran after) :
    PaidKept books.store after.store := by
  intro other row isPaid found
  cases committed with
  | refused kept => rw [kept, found]
  | confirmed _ _ kept => rw [kept, found]
  | wrote _ fresh _ put =>
      have different : other ≠ token := by
        rintro rfl
        exact fresh ⟨row, found, .inl isPaid⟩
      rw [put, Table.put_row_other _ _ different, found]

/-- So do the other transactions. -/
theorem run_paidKept (step : BookStep) (store : Store) : PaidKept store (step.run store) := by
  intro token row isPaid found
  have kept := run_kept step store token
  rw [found] at kept
  generalize (step.run store).invoice.row token = after at kept
  cases kept with
  | same => rfl
  | lapsed _ opened => simp [isPaid] at opened
  | reaped _ expired => simp [isPaid] at expired

/-- A capture leaves them too, and its own payment is delivered. -/
theorem captureBooks_delivers (books : Books) (settlement : Capture.Settlement) (now : ℤ) :
    PaidKept books.store (captureBooks books settlement now).store ∧
      Delivered (captureBooks books settlement now).store settlement.externalId := by
  have booked := Capture.captureTxn_captured books.store settlement now
  exact ⟨(captured_carries booked).paid, captured_delivered booked⟩

/-! ### Runs -/

section Runs

variable {State Action : Type} (machine : Machine State Action) (store : State → Store)

/-- **The payment entered the books** in the run: the row of its external id is PAID, or a refund
attempt was written for it by one of the steps. -/
def Entered (actions : List Action) (token : ExternalId) : Prop :=
  (∃ row ∈ (store (machine.run actions)).invoice.row token, row.status = .paid) ∨
    ∃ earlier, earlier <+: actions ∧ Refunded (store (machine.run earlier)) token

variable {machine store}

theorem Entered.of_delivered {actions : List Action} {token : ExternalId}
    (delivered : Delivered (store (machine.run actions)) token) :
    Entered machine store actions token :=
  delivered.elim (fun refunded => .inr ⟨actions, List.prefix_rfl, refunded⟩) .inl

/-- A step that keeps PAID rows keeps it. -/
theorem Entered.append {actions : List Action} {action : Action} {token : ExternalId}
    (entered : Entered machine store actions token)
    (kept : PaidKept (store (machine.run actions)) (store (machine.run (actions ++ [action])))) :
    Entered machine store (actions ++ [action]) token := by
  rcases entered with ⟨row, found, isPaid⟩ | ⟨earlier, started, refunded⟩
  · exact .inl ⟨row, kept token row isPaid found, isPaid⟩
  · exact .inr ⟨earlier, started.trans (List.prefix_append _ _), refunded⟩

/-- **The run rule**: every step keeps PAID rows, and what it newly counts as captured is delivered. -/
theorem entered_run {Payment : Type} (captured : State → List Payment) (token : Payment → ExternalId)
    (start : captured machine.start = [])
    (keeps : ∀ state action, PaidKept (store state) (store (machine.step state action)))
    (delivers : ∀ state action, ∀ payment ∈ captured (machine.step state action),
      payment ∈ captured state ∨ Delivered (store (machine.step state action)) (token payment))
    (actions : List Action) :
    ∀ payment ∈ captured (machine.run actions), Entered machine store actions (token payment) := by
  induction actions using List.reverseRecOn with
  | nil =>
      intro payment member
      rw [show machine.run [] = machine.start from rfl, start] at member
      cases member
  | append_singleton actions action ih =>
      have last : machine.run (actions ++ [action]) = machine.step (machine.run actions) action :=
        machine.runFrom_append ..
      intro payment member
      rw [last] at member
      rcases delivers _ action payment member with earlier | delivered
      · refine (ih payment earlier).append ?_
        rw [last]
        exact keeps _ action
      · refine .of_delivered ?_
        rw [last]
        exact delivered

end Runs

end Lnrent.Accounts
