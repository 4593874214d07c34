/-
**The phoenixd pay map** (`phoenixd_backend.rs`). A row is the witness of what may have been posted to
a node that lnrent does not control.

* `payUpsertPrepared`, `payUpsertFailed`, `payMarkSucceeded`, `PayOtherKeyForHash` — the statements;
* `Phase`, `advance` — `prepare_pay` with the transaction of its driver, and `pay_inner`, step by step;
* `phoenixdPay` — the program; the payments of the nodes outlive a crash, and another node may come to
  answer.

What a node answers is part of a step; what it may answer is `Contract`.
-/

import Lnrent.Relational.Journal
import Lnrent.Store.Schema
import Lnrent.Transition.Threads

namespace Lnrent.PhoenixdPay

open Relational Transition

/-- An idempotency key, as the opaque text it is. -/
abbrev Key := ℕ

/-- `phoenixd_pay.status`. -/
inductive Status where
  | prepared | succeeded | failed
deriving DecidableEq

/-- A row of `phoenixd_pay`, keyed by `idempotency_key`. -/
structure PayRow where
  bolt11 : Text
  paymentHash : ℕ
  paymentId : Option ℕ
  status : Status
  nodeId : Option ℕ
  terminalAt : Option ℤ
deriving DecidableEq

/-- `ParsedDest`. -/
structure ParsedDest where
  paymentHash : ℕ
  amountMsat : Option ℕ
  expiresAt : ℤ

/-- `FeeSchedule`. -/
structure FeeSchedule where
  baseMsat : ℕ
  ppm : ℕ

/-- `fee_msat`: the proportional part rounds up. -/
def FeeSchedule.feeMsat (schedule : FeeSchedule) (payMsat : ℕ) : ℕ :=
  (payMsat * schedule.ppm + 999999) / 1000000 + schedule.baseMsat

/-! ### The statements -/

/-- `pay_other_key_for_hash`: another key's row, not FAILED, holds the hash. -/
def PayOtherKeyForHash (pay : Table Key PayRow) (paymentHash : ℕ) (ourKey : Key) : Prop :=
  pay.Any fun key row => row.paymentHash = paymentHash ∧ key ≠ ourKey ∧ row.status ≠ .failed

instance (pay : Table Key PayRow) (paymentHash : ℕ) (ourKey : Key) :
    Decidable (PayOtherKeyForHash pay paymentHash ourKey) :=
  inferInstanceAs (Decidable (pay.Any _))

/-- `pay_upsert_prepared`: an error over a SUCCEEDED row. -/
def payUpsertPrepared (pay : Table Key PayRow) (key : Key) (bolt11 : Text) (paymentHash nodeId : ℕ) :
    Option (Table Key PayRow) :=
  match (pay.row key).map PayRow.status with
  | some .succeeded => none
  | _ => some (pay.put key ⟨bolt11, paymentHash, none, .prepared, some nodeId, none⟩)

/-- `pay_upsert_failed`: a SUCCEEDED row stays, and so does the node of a row. -/
def payUpsertFailed (pay : Table Key PayRow) (key : Key) (bolt11 : Text) (paymentHash : ℕ)
    (terminalAt : ℤ) : Table Key PayRow :=
  match pay.row key with
  | some ⟨_, _, _, .succeeded, _, _⟩ => pay
  | some ⟨_, _, _, _, nodeId, _⟩ =>
      pay.put key ⟨bolt11, paymentHash, none, .failed, nodeId, some terminalAt⟩
  | none => pay.put key ⟨bolt11, paymentHash, none, .failed, none, some terminalAt⟩

/-- `pay_mark_succeeded`: a swap on the payment hash, an error where it is lost. -/
def payMarkSucceeded (pay : Table Key PayRow) (key : Key) (paymentHash paymentId : ℕ)
    (terminalAt : ℤ) : Option (Table Key PayRow) :=
  match pay.row key with
  | none => none
  | some row =>
      if row.paymentHash = paymentHash then
        some (pay.put key { row with
          status := .succeeded, paymentId := some paymentId, terminalAt := some terminalAt })
      else none

/-! ### The nodes -/

/-- How a payment stands: on its way to the node, never recorded, recorded and unsettled, paid, or
failed. -/
inductive PaymentState where
  | transit | lost | live | paid | failed
deriving DecidableEq

/-- A payment that a node was asked for, under one of our keys or by somebody else. -/
structure Payment where
  key : Option Key
  paymentHash : ℕ
  node : ℕ
  state : PaymentState
deriving DecidableEq

/-- The node has a record of the payment. -/
def Payment.Recorded (payment : Payment) : Prop :=
  payment.state = .live ∨ payment.state = .paid ∨ payment.state = .failed

instance (payment : Payment) : Decidable payment.Recorded :=
  inferInstanceAs (Decidable (_ ∨ _ ∨ _))

/-- `PhoenixdOutgoing`. -/
structure Outgoing where
  paymentHash : ℕ
  paymentId : ℕ
  isPaid : Bool

/-- `PayAttempt`. -/
inductive PayAttempt where
  | paid (paymentId paymentHash : ℕ)
  | noReceipt

/-! ### The state -/

structure Shared where
  pay : Table Key PayRow
  payments : Journal Payment
  /-- The node that answers at the configured url. -/
  node : ℕ
  /-- `pay_start_lock`, and the task that holds it. -/
  lock : Option ℕ

/-- The arguments of `pay_inner`; the ceiling is `cap.ceiling_msat()`. -/
structure Call where
  key : Key
  bolt11 : Text
  amountSat : ℕ
  ceilingMsat : Option ℕ

/-- What a driver commits for `prepare_pay`. -/
inductive Persist where
  | prepared (bolt11 : Text) (paymentHash nodeId : ℕ)
  | failed (bolt11 : Text) (paymentHash : ℕ) (terminalAt : ℤ)

/-- History: the node that answered a 404, and the one its row records. -/
structure Evidence where
  answered : ℕ
  recorded : ℕ

/-- **Where a task rests.** -/
inductive Phase where
  /-- `prepare_pay` waits for the lock. -/
  | preparing (key : Key) (bolt11 : Text)
  | checking (key : Key) (bolt11 : Text)
  /-- It is about to look for another key of its hash. -/
  | colliding (key : Key) (bolt11 : Text) (dest : ParsedDest)
  /-- It is about to ask for the version and the identity of the node. -/
  | stamping (key : Key) (bolt11 : Text) (dest : ParsedDest)
  /-- The driver is about to commit, with the lock as the lease. -/
  | authorising (key : Key) (persist : Persist)
  /-- `pay_inner` waits for the lock. -/
  | calling (call : Call)
  | reading (call : Call)
  /-- A PREPARED row: its hash is about to be looked up. -/
  | probing (call : Call) (row : PayRow)
  /-- A 404: the node is about to be identified. -/
  | identifying (call : Call) (row : PayRow) (answered : ℕ)
  /-- `start_pay` is about to look for another key of its hash. -/
  | guarding (call : Call) (dest : ParsedDest) (evidence : Option Evidence)
  | versioning (call : Call) (dest : ParsedDest) (evidence : Option Evidence)
  /-- The witness is about to be written. -/
  | arming (call : Call) (dest : ParsedDest) (nodeId : ℕ) (evidence : Option Evidence)
  /-- `payinvoice` is about to be called. -/
  | posting (call : Call) (dest : ParsedDest) (nodeId : ℕ) (evidence : Option Evidence)
  | awaiting (call : Call) (dest : ParsedDest) (payment : ℕ)
  /-- There was no receipt: the hash is about to be looked up. -/
  | consulting (key : Key) (paymentHash : ℕ)
  | marking (key : Key) (paymentHash paymentId : ℕ)
  /-- The refusal is about to be written. -/
  | refusing (key : Key) (bolt11 : Text) (paymentHash : ℕ)

/-- What the clock, the store, the driver and the node answer a step. -/
structure Answer where
  now : ℤ := 0
  storeError : Bool := false
  /-- The driver's swap is won. -/
  authorised : Bool := true
  /-- `outgoing_by_hash`: an error, a 404, or a record. -/
  outgoing : Option (Option Outgoing) := none
  /-- `node_info` answers, and in `require_supported_version` with the verified release. -/
  identified : Bool := false
  /-- `pay_invoice`; `none` is an error, or a timeout. -/
  attempt : Option PayAttempt := none

/-- The task returns from its critical section. -/
def Shared.released (shared : Shared) : Shared × Option Phase :=
  ({ shared with lock := none }, none)

/-- The refusals of `start_pay` that need no read: an expired destination, and any amount but the one
that is owed. -/
def startPay (decode : Text → Option ParsedDest) (call : Call) (evidence : Option Evidence) (now : ℤ) :
    Option Phase :=
  (decode call.bolt11).map fun dest =>
    if dest.expiresAt ≤ now then .refusing call.key call.bolt11 dest.paymentHash
    else if dest.amountMsat = some (call.amountSat * 1000) then .guarding call dest evidence
    else .refusing call.key call.bolt11 dest.paymentHash

/-- The payout with the reserved fee is over the cap. -/
def OverCap (schedule : FeeSchedule) (call : Call) : Prop :=
  ∃ ceilingMsat ∈ call.ceilingMsat,
    ceilingMsat < call.amountSat * 1000 + schedule.feeMsat (call.amountSat * 1000)

instance (schedule : FeeSchedule) (call : Call) : Decidable (OverCap schedule call) :=
  decidable_of_iff ((call.ceilingMsat.any fun ceilingMsat => decide
      (ceilingMsat < call.amountSat * 1000 + schedule.feeMsat (call.amountSat * 1000))) = true)
    (by simp [OverCap, Option.any_eq_true])

/-- What the driver's transaction does with `persist`. -/
def Persist.run (pay : Table Key PayRow) (key : Key) : Persist → Option (Table Key PayRow)
  | .prepared bolt11 paymentHash nodeId => payUpsertPrepared pay key bolt11 paymentHash nodeId
  | .failed bolt11 paymentHash terminalAt =>
      some (payUpsertFailed pay key bolt11 paymentHash terminalAt)

/-- The write is committed and the lock released; an error writes nothing. -/
def Shared.committed (shared : Shared) : Option (Table Key PayRow) → Shared × Option Phase
  | none => shared.released
  | some pay => { shared with pay }.released

/-- **One step of a task.** -/
def advance (decode : Text → Option ParsedDest) (schedule : FeeSchedule) (shared : Shared) (id : ℕ)
    (answer : Answer) : Phase → Shared × Option Phase
  | .preparing key bolt11 =>
      if shared.lock = none then ({ shared with lock := some id }, some (.checking key bolt11))
      else (shared, some (.preparing key bolt11))
  | .checking key bolt11 =>
      if answer.storeError then shared.released
      else
        match (shared.pay.row key).map PayRow.status, decode bolt11 with
        | some .prepared, _ | some .succeeded, _ | some .failed, none | none, none => shared.released
        | some .failed, some dest | none, some dest => (shared, some (.colliding key bolt11 dest))
  | .colliding key bolt11 dest =>
      if answer.storeError then shared.released
      else if PayOtherKeyForHash shared.pay dest.paymentHash key then
        (shared, some (.authorising key (.failed bolt11 dest.paymentHash answer.now)))
      else (shared, some (.stamping key bolt11 dest))
  | .stamping key bolt11 dest =>
      if answer.identified then
        (shared, some (.authorising key (.prepared bolt11 dest.paymentHash shared.node)))
      else shared.released
  | .authorising key persist =>
      if answer.storeError ∨ answer.authorised = false then shared.released
      else shared.committed (persist.run shared.pay key)
  | .calling call =>
      if shared.lock = none then ({ shared with lock := some id }, some (.reading call))
      else (shared, some (.calling call))
  | .reading call =>
      if answer.storeError then shared.released
      else
        match shared.pay.row call.key with
        | none => shared.released
        | some row =>
            match row.status with
            | .succeeded => shared.released
            | .prepared => (shared, some (.probing call row))
            | .failed =>
                match startPay decode call none answer.now with
                | none => shared.released
                | some phase => (shared, some phase)
  | .probing call row =>
      match answer.outgoing with
      | none => shared.released
      | some none => (shared, some (.identifying call row shared.node))
      | some (some record) =>
          if record.paymentHash ≠ row.paymentHash then shared.released
          else if record.isPaid then
            (shared, some (.marking call.key row.paymentHash record.paymentId))
          else shared.released
  | .identifying call row answered =>
      if answer.identified = true ∧ row.nodeId = some shared.node then
        match startPay decode call (some ⟨answered, shared.node⟩) answer.now with
        | none => shared.released
        | some phase => (shared, some phase)
      else shared.released
  | .guarding call dest evidence =>
      if answer.storeError then shared.released
      else if PayOtherKeyForHash shared.pay dest.paymentHash call.key then
        (shared, some (.refusing call.key call.bolt11 dest.paymentHash))
      else if OverCap schedule call then
        (shared, some (.refusing call.key call.bolt11 dest.paymentHash))
      else (shared, some (.versioning call dest evidence))
  | .versioning call dest evidence =>
      if answer.identified then (shared, some (.arming call dest shared.node evidence))
      else shared.released
  | .arming call dest nodeId evidence =>
      if answer.storeError then shared.released
      else
        match payUpsertPrepared shared.pay call.key call.bolt11 dest.paymentHash nodeId with
        | none => shared.released
        | some pay => ({ shared with pay }, some (.posting call dest nodeId evidence))
  | .posting call dest _ _ =>
      ({ shared with
          payments := shared.payments.append ⟨some call.key, dest.paymentHash, shared.node, .transit⟩ },
        some (.awaiting call dest (shared.payments.last + 1)))
  | .awaiting call dest _ =>
      match answer.attempt with
      | none => shared.released
      | some (.paid paymentId paymentHash) =>
          if paymentHash ≠ dest.paymentHash then shared.released
          else (shared, some (.marking call.key dest.paymentHash paymentId))
      | some .noReceipt => (shared, some (.consulting call.key dest.paymentHash))
  | .consulting key paymentHash =>
      match answer.outgoing with
      | some (some record) =>
          if record.isPaid then (shared, some (.marking key paymentHash record.paymentId))
          else shared.released
      | some none | none => shared.released
  | .marking key paymentHash paymentId =>
      if answer.storeError then shared.released
      else shared.committed (payMarkSucceeded shared.pay key paymentHash paymentId answer.now)
  | .refusing key bolt11 paymentHash =>
      if answer.storeError then shared.released
      else shared.committed (some (payUpsertFailed shared.pay key bolt11 paymentHash answer.now))

/-! ### The program -/

inductive Request where
  /-- `prepare_pay`, and the driver's authorising transaction. -/
  | prepare (key : Key) (bolt11 : Text)
  | pay (call : Call)

inductive Event where
  /-- A payment on its way is recorded, or never will be. -/
  | lands (payment : ℕ) (recorded : Bool)
  /-- A recorded payment ends. -/
  | settles (payment : ℕ) (succeeds : Bool)
  /-- Somebody else pays from a node's wallet. -/
  | foreign (paymentHash node : ℕ)
  /-- Another node comes to answer. -/
  | repoint (node : ℕ)

/-- A payment goes from one state to another. -/
def Shared.shift (shared : Shared) (payment : ℕ) (was is : PaymentState) : Shared :=
  { shared with
    payments := shared.payments.update (fun id row => id = payment ∧ row.state = was)
      fun row => { row with state := is } }

/-- **The program**, from a given state. A lock dies with the task that holds it. -/
def phoenixdPay (decode : Text → Option ParsedDest) (schedule : FeeSchedule) (start : Shared) :
    Program Shared Phase Request Answer Event where
  start := start
  spawn shared _ request :=
    (shared, match request with
      | .prepare key bolt11 => .preparing key bolt11
      | .pay call => .calling call)
  advance shared id phase answer := advance decode schedule shared id answer phase
  drop shared id _ := if shared.lock = some id then { shared with lock := none } else shared
  environment shared event :=
    match event with
    | .lands payment recorded => shared.shift payment .transit (if recorded then .live else .lost)
    | .settles payment succeeds => shared.shift payment .live (if succeeds then .paid else .failed)
    | .foreign paymentHash node =>
        { shared with payments := shared.payments.append ⟨none, paymentHash, node, .live⟩ }
    | .repoint node => { shared with node }
  crash shared := { shared with lock := none }

/-! ### What a node may answer -/

/-- The node has a record of the hash that meets the condition. -/
def Shared.Record (shared : Shared) (node paymentHash : ℕ) (condition : PaymentState → Prop)
    [DecidablePred condition] : Prop :=
  shared.payments.rows.Any fun _ payment =>
    payment.node = node ∧ payment.paymentHash = paymentHash ∧ payment.Recorded ∧ condition payment.state

instance (shared : Shared) (node paymentHash : ℕ) (condition : PaymentState → Prop)
    [DecidablePred condition] : Decidable (shared.Record node paymentHash condition) :=
  inferInstanceAs (Decidable (shared.payments.rows.Any _))

/-- `outgoing_by_hash`: one of the records of the hash, or a 404 where there is none. -/
def OutgoingContract (shared : Shared) (paymentHash : ℕ) : Option (Option Outgoing) → Prop
  | some (some record) =>
      shared.Record shared.node paymentHash fun state => record.isPaid = true ↔ state = .paid
  | some none => ¬ shared.Record shared.node paymentHash fun _ => True
  | none => True

instance (shared : Shared) (paymentHash : ℕ) (outgoing : Option (Option Outgoing)) :
    Decidable (OutgoingContract shared paymentHash outgoing) :=
  match outgoing with
  | some (some record) => inferInstanceAs (Decidable
      (shared.Record shared.node paymentHash fun state => record.isPaid = true ↔ state = .paid))
  | some none => inferInstanceAs (Decidable (¬ _))
  | none => .isTrue trivial

/-- `pay_invoice`: once it has returned or timed out, the payment is recorded or never will be; and a
receipt is of a payment that was made. -/
def AttemptContract (shared : Shared) (payment : ℕ) (attempt : Option PayAttempt) : Prop :=
  (∀ row ∈ shared.payments.rows.row payment, row.state ≠ .transit) ∧
    match attempt with
    | some (.paid _ paymentHash) => shared.payments.rows.Any fun _ row =>
        row.paymentHash = paymentHash ∧ row.state = .paid
    | some .noReceipt | none => True

instance (shared : Shared) (payment : ℕ) (attempt : Option PayAttempt) :
    Decidable (AttemptContract shared payment attempt) :=
  match attempt with
  | some (.paid _ _) => inferInstanceAs (Decidable ((∀ row ∈ (_ : Option Payment), _) ∧ Table.Any _ _))
  | some .noReceipt | none => inferInstanceAs (Decidable ((∀ row ∈ (_ : Option Payment), _) ∧ True))

/-- What a task is answered. -/
def Truthful (shared : Shared) (answer : Answer) : Phase → Prop
  | .probing _ row => OutgoingContract shared row.paymentHash answer.outgoing
  | .consulting _ paymentHash => OutgoingContract shared paymentHash answer.outgoing
  | .awaiting _ _ payment => AttemptContract shared payment answer.attempt
  | .preparing _ _ | .checking _ _ | .colliding _ _ _ | .stamping _ _ _ | .authorising _ _ | .calling _
  | .reading _ | .identifying _ _ _ | .guarding _ _ _ | .versioning _ _ _ | .arming _ _ _ _
  | .posting _ _ _ _ | .marking _ _ _ | .refusing _ _ _ => True

instance (shared : Shared) (answer : Answer) (phase : Phase) :
    Decidable (Truthful shared answer phase) :=
  match phase with
  | .probing _ _ => inferInstanceAs (Decidable (OutgoingContract _ _ _))
  | .consulting _ _ => inferInstanceAs (Decidable (OutgoingContract _ _ _))
  | .awaiting _ _ _ => inferInstanceAs (Decidable (AttemptContract _ _ _))
  | .preparing _ _ | .checking _ _ | .colliding _ _ _ | .stamping _ _ _ | .authorising _ _ | .calling _
  | .reading _ | .identifying _ _ _ | .guarding _ _ _ | .versioning _ _ _ | .arming _ _ _ _
  | .posting _ _ _ _ | .marking _ _ _ | .refusing _ _ _ => .isTrue trivial

/-- **The contract of the nodes.** -/
def Contract (pool : Pool Shared Phase) : Schedule Request Answer Event → Prop
  | .advance id answer => ∀ phase ∈ pool.threads.row id, Truthful pool.shared answer phase
  | .spawn _ | .drop _ | .environment _ | .crash => True

instance (pool : Pool Shared Phase) (choice : Schedule Request Answer Event) :
    Decidable (Contract pool choice) :=
  match choice with
  | .advance _ _ => inferInstanceAs (Decidable (∀ phase ∈ (_ : Option Phase), _))
  | .spawn _ | .drop _ | .environment _ | .crash => .isTrue trivial

end Lnrent.PhoenixdPay
