/-
**Watching lnv2 for settlements** (`lnv2_backend.rs`, `supervisor.rs`, `reconcile.rs`). Every invoice
has a task that waits for the final state of its operation and records it in the map. A task that saw
the invoice from its creation on also sends the settlement into the channel; one that was started on a
restart, or whose subscription failed once, sends nothing and leaves the payment to the catch-up pass,
which looks up the rows the books have OPEN. Reconcile expires an OPEN row on what the map says.

* `classifyIndexedSettlement`, `lookupSettlementByRef` — what the map answers of an invoice;
* `Task`, `Duty` — a receive task and what it has left to do;
* `Watched`, `Watched.step` — the desk with its observers, the clock, and crashes, in any order.
-/

import Lnrent.Daemon.CatchUp
import Lnrent.Daemon.Lnv2Receive

namespace Lnrent.Lnv2Receive

open Relational Receive Capture CatchUp

/-! ### What the map answers -/

/-- `classify_indexed_settlement`. `none` is the error of a payment whose ecash is not there. -/
def classifyIndexedSettlement (row : Row) (now : ℤ) : Option (PaymentStatus × Option ℤ) :=
  if row.status = .paid then some (.paid, row.settledAt)
  else if row.status = .paidUnrecovered then none
  else if row.invoice.expiresAt ≤ now then some (.expired, none)
  else some (.opened, none)

/-- `lookup_settlement_by_ref` for an id that lnv2 minted: an id that was replaced is expired, and a
row that is gone is an error. -/
def lookupSettlementByRef (map : ReceiveMap) (id : ℕ) (externalId : ExternalId) (now : ℤ) :
    Option (PaymentStatus × Option ℤ) :=
  match map.row externalId with
  | some row => if row.invoice.id = id then classifyIndexedSettlement row now else some (.expired, none)
  | none => none

/-- What reconcile makes of the answer. -/
def lookupOf : Option (PaymentStatus × Option ℤ) → Reconcile.Lookup
  | some (.paid, _) => .paid
  | some (_, _) => .unpaid
  | none => .failed

/-! ### Receive tasks -/

/-- The capacity of the settlement channel. -/
def channelCapacity : ℕ := 64

/-- A settlement on its way to capture, with the invoice it is of. -/
structure Receipt where
  invoiceId : ℕ
  settlement : Settlement
deriving DecidableEq

/-- The external id and the invoice it settles. -/
def Receipt.names (receipt : Receipt) : ExternalId × ℕ :=
  (receipt.settlement.externalId, receipt.invoiceId)

/-- **What a receive task has left to do.** -/
inductive Duty where
  /-- wait for the final state of the operation -/
  | watching
  /-- write the mark; the time is that of a live observation -/
  | writing (status : Status) (settledAt : Option ℤ)
  /-- send the settlement of the row it has marked PAID -/
  | sending (receipt : Receipt)
deriving DecidableEq

/-- **A receive task** (`spawn_receive_task`). -/
structure Task where
  externalId : ExternalId
  operation : ℕ
  amountSat : ℕ
  live : Bool
  /-- The channel it sends into still has its receiver. -/
  connected : Bool
  duty : Duty
deriving DecidableEq

/-- A task for an invoice, as it starts. -/
def Task.watch (externalId : ExternalId) (invoice : Invoice) (live connected : Bool) : Task :=
  ⟨externalId, invoice.id, invoice.amountSat, live, connected, .watching⟩

/-- The settlement a task sends. -/
def Task.receipt (task : Task) (creditedMsat : ℕ) (settledAt : ℤ) : Receipt :=
  ⟨task.operation, ⟨task.externalId, task.amountSat, creditedMsat, settledAt⟩⟩

/-- What is left after the mark was written: a PAID one of a live observation is sent. -/
def Task.written (task : Task) (credited : Option ℕ) : Status → Option ℤ → Option Task
  | .paid, some at_ => some { task with duty := .sending (task.receipt (credited.getD 0) at_) }
  | _, _ => none

/-- The tasks once one of them has written its mark: it goes on to the send, or is gone. -/
def resume (tasks : List Task) (index : ℕ) : Option Task → List Task
  | some sending => tasks.set index sending
  | none => tasks.eraseIdx index

/-! ### The machine -/

/-- **The desk and its observers**, and, as history, the invoices whose capture committed. -/
structure Watched where
  clock : ℤ
  desk : Desk
  tasks : List Task
  /-- `settle_tx`, once a watch has set it, and whether its receiver is still there. -/
  sender : Option Bool
  /-- The watch has set its sender and not yet read the OPEN rows of the map. -/
  arming : Bool
  channel : List Receipt
  /-- the OPEN rows that the catch-up pass has left, with their invoice ids -/
  pass : List (ℕ × CatchUpRow)
  /-- what the pass found paid and is about to capture -/
  routing : Option Receipt
  /-- what reconcile was answered, latest first -/
  answered : List (ExternalId × Reconcile.Lookup)
  captured : List (ExternalId × ℕ)

/-- The two expiries of reconcile. -/
inductive Expiry where
  | order (subscription : OrderId) (deadline : ℤ)
  | renewal (externalId : ExternalId)

/-- **What can happen.** -/
inductive Action where
  | wait (seconds : ℕ)
  /-- A step at the desk; marks, expiries and captures come from the tasks, reconcile and the
  observers. -/
  | desk (action : DeskAction)
  /-- A task is told the final state of its operation. -/
  | final (task : ℕ)
  /-- A task's subscription fails. -/
  | errored (task : ℕ)
  /-- A task's mark is written, or the store refuses it. -/
  | persisted (task : ℕ) (works : Bool)
  /-- A task sends its settlement. -/
  | sent (task : ℕ)
  /-- `watch` sets a new sender. -/
  | registered
  /-- `watch` starts a task for every row the map has OPEN. -/
  | armed (tokens : List ExternalId)
  /-- The settlement loop ends, and drops the receiver. -/
  | closed
  /-- The settlement loop takes a settlement; `works` says whether its capture commits. -/
  | settled (works : Bool)
  /-- A catch-up pass reads the rows the books have OPEN. -/
  | scanned (tokens : List ExternalId)
  /-- The pass looks up its next row. -/
  | lookedUp (works : Bool)
  /-- The pass captures what it found. -/
  | routed (works : Bool)
  /-- Reconcile looks up an invoice. -/
  | asked (externalId : ExternalId) (works : Bool)
  /-- An expiry of reconcile runs on the answers it has. -/
  | expired (expiry : Expiry)
  /-- The process dies. -/
  | crash

/-- The fresh invoice whose map row the commit writes. -/
def Desk.inserts (desk : Desk) (persists : Bool) : Option (ExternalId × Invoice) :=
  match desk.turn with
  | some ⟨placement, _, _, .committing invoice true⟩ =>
      if (placement.commit desk.books invoice
          (persists && (idxInsert desk.map placement.externalId invoice).isSome)).1 then
        some (placement.externalId, invoice)
      else none
  | _ => none

/-- The post-commit hook: a live task for the fresh invoice, on the sender there is. -/
def Watched.hook (state : Watched) (persists : Bool) : List Task :=
  match state.desk.inserts persists, state.sender with
  | some (externalId, invoice), some open_ => [.watch externalId invoice true open_]
  | _, _ => []

/-- `idx_list_open`, in the order of the tokens: a recovery task for every OPEN row. -/
def recoveryTasks (map : ReceiveMap) (tokens : List ExternalId) : List Task :=
  tokens.filterMap fun token => do
    let row ← map.row token
    if row.status = .opened then some (.watch token row.invoice false true) else none

/-- The OPEN rows of the books, in the order of the tokens. -/
def openRows (store : Store) (tokens : List ExternalId) : List (ℕ × CatchUpRow) :=
  tokens.filterMap fun token => do
    let row ← store.invoice.row token
    if row.status = .opened then some (row.id, catchUpRow store token row) else none

/-- One row of the pass: what the map answers of it, and the settlement, if it is paid. -/
def Watched.lookUp (state : Watched) (row : ℕ × CatchUpRow) : Option Receipt :=
  (settlementOf row.2
    ⟨lookupSettlementByRef state.desk.map row.1 row.2.externalId state.clock,
      (state.desk.map.row row.2.externalId).map fun mapped => some mapped.creditedMsat, state.clock,
      true⟩).map fun settlement => ⟨row.1, settlement⟩

/-- The answers reconcile has; without one it does not expire. -/
def Watched.answers (state : Watched) (externalId : ExternalId) : Reconcile.Lookup :=
  ((state.answered.find? fun answer => answer.1 = externalId).map Prod.snd).getD .failed

/-- The transaction of an expiry. -/
def Watched.transaction (state : Watched) : Expiry → BookStep
  | .order subscription deadline => .expireOrder state.answers subscription deadline state.clock
  | .renewal externalId => .expireRenewal state.answers externalId state.clock

/-- A settlement reaches capture. -/
def Watched.capture (state : Watched) (receipt : Receipt) (works : Bool) : Watched :=
  if works then
    { state with
      desk := { state.desk with
        books := captureBooks state.desk.books receipt.settlement state.clock }
      captured := receipt.names :: state.captured }
  else state

variable (credit : ℕ → Option ℕ)

/-- A task is told that its operation is final. -/
def Watched.tell (state : Watched) (index : ℕ) (task : Task) : Watched :=
  match (state.desk.operations.row task.operation).bind fun final =>
      terminalStatus final (credit task.operation) with
  | none => state
  | some status =>
      { state with
        tasks := state.tasks.set index
          { task with
            duty := .writing status
              (if status = .paid ∧ task.live = true then some state.clock else none) } }

/-- A task's mark is written. -/
def Watched.persist (state : Watched) (index : ℕ) (task : Task) (status : Status)
    (settledAt : Option ℤ) : Watched :=
  { state with
    desk := state.desk.step (.mark task.operation (credit task.operation) settledAt)
    tasks := resume state.tasks index (task.written (credit task.operation) status settledAt) }

/-- **One step.** `credit` is the wallet credit that the claim transaction of an operation decodes to. -/
def Watched.step (state : Watched) : Action → Watched
  | .wait seconds => { state with clock := state.clock + seconds }
  | .desk (.commit persists) =>
      { state with
        desk := state.desk.step (.commit persists)
        tasks := state.tasks ++ state.hook persists }
  | .desk (.mark _ _ _) | .desk (.capture _ _) | .desk (.book (.expireOrder _ _ _ _))
  | .desk (.book (.expireRenewal _ _ _)) => state
  | .desk action => { state with desk := state.desk.step action }
  | .final index =>
      match state.tasks[index]? with
      | none => state
      | some task =>
          match task.duty with
          | .watching => state.tell credit index task
          | _ => state
  | .errored index =>
      match state.tasks[index]? with
      | none => state
      | some task =>
          match task.duty with
          | .watching =>
              { state with
                tasks :=
                  if task.connected then state.tasks.set index { task with live := false }
                  else state.tasks.eraseIdx index }
          | _ => state
  | .persisted index works =>
      match state.tasks[index]? with
      | none => state
      | some task =>
          match task.duty with
          | .writing status settledAt =>
              if works then state.persist credit index task status settledAt
              else if task.connected then state
              else { state with tasks := state.tasks.eraseIdx index }
          | _ => state
  | .sent index =>
      match state.tasks[index]? with
      | none => state
      | some task =>
          match task.duty with
          | .sending receipt =>
              if task.connected then
                if state.channel.length < channelCapacity then
                  { state with
                    tasks := state.tasks.eraseIdx index, channel := state.channel ++ [receipt] }
                else state
              else { state with tasks := state.tasks.eraseIdx index }
          | _ => state
  | .registered =>
      if state.sender = some true then state else { state with sender := some true, arming := true }
  | .armed tokens =>
      -- every OPEN row of the map is among them
      if state.arming = true ∧
          ¬ state.desk.map.Any (fun token row => row.status = .opened ∧ token ∉ tokens) then
        { state with
          tasks := state.tasks ++ recoveryTasks state.desk.map tokens, arming := false }
      else state
  | .closed =>
      { state with
        tasks := state.tasks.map fun task => { task with connected := false }
        sender := state.sender.map fun _ => false
        arming := false
        channel := [] }
  | .settled works =>
      match state.channel with
      | [] => state
      | receipt :: rest => { state with channel := rest }.capture receipt works
  | .scanned tokens =>
      match state.pass, state.routing with
      | [], none =>
          -- every OPEN row of the books is among them
          if state.desk.books.store.invoice.Any fun token row => row.status = .opened ∧ token ∉ tokens
          then state
          else { state with pass := openRows state.desk.books.store tokens }
      | _, _ => state
  | .lookedUp works =>
      match state.pass, state.routing with
      | row :: rest, none =>
          { state with pass := rest, routing := if works then state.lookUp row else none }
      | _, _ => state
  | .routed works =>
      match state.routing with
      | none => state
      | some receipt => { state with routing := none }.capture receipt works
  | .asked externalId works =>
      match state.desk.books.store.invoice.row externalId with
      | none => state
      | some row =>
          { state with
            answered :=
              (externalId,
                if works then
                  lookupOf (lookupSettlementByRef state.desk.map row.id externalId state.clock)
                else .failed) :: state.answered }
  | .expired expiry =>
      { state with desk := state.desk.step (.book (state.transaction expiry)) }
  | .crash =>
      { state with
        desk := { state.desk with turn := none }
        tasks := [], sender := none, arming := false, channel := [], pass := [], routing := none
        answered := [] }

end Lnrent.Lnv2Receive
