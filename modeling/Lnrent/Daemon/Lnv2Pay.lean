/-
**The lnv2 pay map** (`lnv2_backend.rs`). Keys are bound to operations of the fedimint client before
anything is sent.

* `payInsert`, `paySetOp`, `payMark`, `payParkCollisionFailed`, `gcLnv2PayIndex` — the
  statements;
* `Phase`, `advance` — `prepare_pay` with the transaction of its driver, and `pay_inner`, step by step;
* `lnv2Pay` — the program; the client's operation log outlives a crash.

What the client answers is part of a step; what it may answer is `Contract`.
-/

import Lnrent.Store.Schema
import Lnrent.Transition.Threads

namespace Lnrent.Lnv2Pay

open Relational Transition

/-- An idempotency key, as the opaque text it is. -/
abbrev Key := ℕ

/-- An operation id. -/
inductive OperationId where
  /-- The id of one attempt to pay an invoice. -/
  | send (invoice attempt : ℕ)
  /-- `COLLISION_SENTINEL_OP` -/
  | collision
deriving DecidableEq

/-- `lnv2_pay.status`. -/
inductive Status where
  | prepared | pending | succeeded | failed
deriving DecidableEq

/-- A row of `lnv2_pay`, keyed by `idempotency_key`. -/
structure PayRow where
  bolt11 : Text
  operationId : OperationId
  status : Status
  terminalAt : Option ℤ
deriving DecidableEq

/-- What the parse of a bolt11 gives. -/
structure Parsed where
  invoice : ℕ
  amountMsat : Option ℕ

/-- `send_operation_id`: the operation of attempt 0. -/
def sendOperationId (decode : Text → Option Parsed) (bolt11 : Text) : Option OperationId :=
  (decode bolt11).map fun parsed => .send parsed.invoice 0

/-! ### The statements -/

/-- `pay_insert_prepared`. -/
def preparedRow (bolt11 : Text) (op : OperationId) : PayRow :=
  ⟨bolt11, op, .prepared, none⟩

/-- `pay_insert_collision_failed`. -/
def collisionRow (bolt11 : Text) (terminalAt : ℤ) : PayRow :=
  ⟨bolt11, .collision, .failed, some terminalAt⟩

/-- `INSERT … ON CONFLICT(idempotency_key) DO NOTHING`. -/
def payInsert (pay : Table Key PayRow) (key : Key) (row : PayRow) : Table Key PayRow :=
  match pay.row key with
  | some _ => pay
  | none => pay.put key row

/-- `pay_other_key_for_op`: another key's row, not FAILED, names the operation. -/
def PayOtherKeyForOp (pay : Table Key PayRow) (op : OperationId) (ourKey : Key) : Prop :=
  pay.Any fun key row => row.operationId = op ∧ key ≠ ourKey ∧ row.status ≠ .failed

instance (pay : Table Key PayRow) (op : OperationId) (ourKey : Key) :
    Decidable (PayOtherKeyForOp pay op ourKey) :=
  inferInstanceAs (Decidable (pay.Any _))

/-- `pay_set_op`: an error without a row. -/
def paySetOp (pay : Table Key PayRow) (key : Key) (op : OperationId) (status : Status) :
    Option (Table Key PayRow) :=
  (pay.row key).map fun row => pay.put key { row with operationId := op, status }

/-- `pay_mark`: a swap on the operation. -/
def payMark (pay : Table Key PayRow) (key : Key) (op : OperationId) (status : Status)
    (terminalAt : ℤ) : Table Key PayRow :=
  match pay.row key with
  | none => pay
  | some row =>
      if row.operationId = op then pay.put key { row with status, terminalAt := some terminalAt }
      else pay

/-- `pay_park_collision_failed`: an error without a row. -/
def payParkCollisionFailed (pay : Table Key PayRow) (key : Key) (terminalAt : ℤ) :
    Option (Table Key PayRow) :=
  (pay.row key).map fun row =>
    pay.put key { row with operationId := .collision, status := .failed, terminalAt := some terminalAt }

/-- `PAY_INDEX_RETENTION_SECS`. -/
def payIndexRetentionSecs : ℤ := 180 * 24 * 60 * 60

/-- `gc_lnv2_pay_index`. -/
def gcLnv2PayIndex (pay : Table Key PayRow) (unixepoch now : ℤ) : Table Key PayRow :=
  pay.delete fun _ row => row.status = .failed ∧
    ∃ terminalAt ∈ row.terminalAt, terminalAt < min unixepoch now - payIndexRetentionSecs

/-! ### The client -/

inductive OperationState where
  | live | succeeded | failed
deriving DecidableEq

/-- An entry of the operation log: the `lnrent_key` of its metadata, and how it stands. -/
structure Operation where
  lnrentKey : Option Key
  state : OperationState
deriving DecidableEq

/-- `SendAttempt`. -/
inductive SendAttempt where
  | started (op : OperationId)
  | inProgress (op : OperationId)
  | alreadyPaid (op : OperationId)
  | rejected
  | retryable

/-- `SendOpLookup`. -/
inductive SendOpLookup where
  | missing
  | present (lnrentKey : Option Key)

/-- `SendFinal`; `refunded` and `failure` both say that nothing was paid. -/
inductive SendFinal where
  | success | refunded | failure

/-! ### The state -/

structure Shared where
  pay : Table Key PayRow
  operations : OperationId → Option Operation
  /-- `pay_start_lock`, and the task that holds it. -/
  lock : Option ℕ
  /-- History: the operations lnrent funded. -/
  funded : List OperationId

/-- The arguments of `pay_inner`; the ceiling is `cap.ceiling_msat()`. -/
structure Call where
  key : Key
  bolt11 : Text
  amountSat : ℕ
  ceilingMsat : Option ℕ

/-- **Where a task rests.** -/
inductive Phase where
  /-- `prepare_pay` waits for the lock. -/
  | preparing (key : Key) (bolt11 : Text)
  /-- It is about to read the row of its key. -/
  | checking (key : Key) (bolt11 : Text)
  /-- It is about to look for another key of its operation. -/
  | colliding (key : Key) (bolt11 : Text) (op : OperationId)
  /-- The driver is about to commit, with the lock as the lease. -/
  | authorising (key : Key) (row : PayRow)
  /-- `pay_inner` waits for the lock. -/
  | calling (call : Call)
  | reading (call : Call)
  /-- A PREPARED row: its operation is about to be looked up. -/
  | looking (call : Call) (op : OperationId)
  /-- `start_send` is about to look the operation up once more. -/
  | starting (call : Call) (op : OperationId)
  /-- It is about to choose a gateway and price the outlay. -/
  | quoting (call : Call) (op : OperationId) (ceilingMsat : ℕ)
  | sending (call : Call) (op : OperationId)
  /-- `adopt_deduped` is about to verify the key of the operation. -/
  | adopting (call : Call) (op : OperationId) (status : Status)
  | binding (key : Key) (op : OperationId) (status : Status)
  /-- The refusal is about to be marked FAILED. -/
  | refusing (key : Key) (op : OperationId)
  /-- `fail_dedup_key` is about to write. -/
  | parking (key : Key)
  /-- The lock is released, and the operation awaited. -/
  | awaiting (key : Key) (op : OperationId)
  | marking (key : Key) (op : OperationId) (status : Status)

/-- What the clock, the store, the driver and the client answer a step. -/
structure Answer where
  now : ℤ := 0
  storeError : Bool := false
  /-- The driver's swap is won. -/
  authorised : Bool := true
  /-- `send_op_lnrent_key`; `none` is an error. -/
  lookup : Option SendOpLookup := none
  /-- The total outlay at a reachable gateway; `none` is an error. -/
  outlayMsat : Option ℕ := none
  sent : SendAttempt := .retryable
  /-- `await_send_final`; `none` is an error, or a timeout. -/
  final : Option SendFinal := none

/-- The task returns from its critical section. -/
def Shared.released (shared : Shared) : Shared × Option Phase :=
  ({ shared with lock := none }, none)

/-- The check of the encoded amount, and the cap. -/
def preflight (call : Call) (op : OperationId) (parsed : Parsed) : Phase :=
  if ∃ amountMsat ∈ parsed.amountMsat, call.amountSat * 1000 ≠ amountMsat then .refusing call.key op
  else
    match call.ceilingMsat with
    | some ceilingMsat => .quoting call op ceilingMsat
    | none => .sending call op

/-- **One step of a task.** -/
def advance (decode : Text → Option Parsed) (shared : Shared) (id : ℕ) (answer : Answer) :
    Phase → Shared × Option Phase
  | .preparing key bolt11 =>
      if shared.lock = none then ({ shared with lock := some id }, some (.checking key bolt11))
      else (shared, some (.preparing key bolt11))
  | .checking key bolt11 =>
      if answer.storeError ∨ (shared.pay.row key).isSome then shared.released
      else
        match sendOperationId decode bolt11 with
        | none => shared.released
        | some op => (shared, some (.colliding key bolt11 op))
  | .colliding key bolt11 op =>
      if answer.storeError then shared.released
      else if PayOtherKeyForOp shared.pay op key then
        (shared, some (.authorising key (collisionRow bolt11 answer.now)))
      else (shared, some (.authorising key (preparedRow bolt11 op)))
  | .authorising key row =>
      if answer.storeError ∨ answer.authorised = false then shared.released
      else { shared with pay := payInsert shared.pay key row }.released
  | .calling call =>
      if shared.lock = none then ({ shared with lock := some id }, some (.reading call))
      else (shared, some (.calling call))
  | .reading call =>
      if answer.storeError then shared.released
      else
        match shared.pay.row call.key with
        | none => shared.released
        | some row =>
            match row.status with
            | .succeeded | .failed => shared.released
            | .pending => ({ shared with lock := none }, some (.awaiting call.key row.operationId))
            | .prepared => (shared, some (.looking call row.operationId))
  | .looking call op =>
      match answer.lookup with
      | none => shared.released
      | some .missing => (shared, some (.starting call op))
      | some (.present lnrentKey) =>
          if lnrentKey = some call.key then (shared, some (.binding call.key op .pending))
          else (shared, some (.parking call.key))
  | .starting call op =>
      match decode call.bolt11 with
      | none => shared.released
      | some parsed =>
          if op ≠ .send parsed.invoice 0 then shared.released
          else
            match answer.lookup with
            | none => shared.released
            | some .missing => (shared, some (preflight call op parsed))
            | some (.present lnrentKey) =>
                if lnrentKey = some call.key then (shared, some (.binding call.key op .pending))
                else (shared, some (.parking call.key))
  | .quoting call op ceilingMsat =>
      match answer.outlayMsat with
      | none => shared.released
      | some outlayMsat =>
          if ceilingMsat < outlayMsat then (shared, some (.refusing call.key op))
          else (shared, some (.sending call op))
  | .sending call op =>
      match answer.sent with
      | .started started =>
          ({ shared with
              operations := Function.update shared.operations started (some ⟨some call.key, .live⟩)
              funded := started :: shared.funded },
            some (.binding call.key started .pending))
      | .inProgress found => (shared, some (.adopting call found .pending))
      | .alreadyPaid found => (shared, some (.adopting call found .succeeded))
      | .rejected => (shared, some (.refusing call.key op))
      | .retryable => shared.released
  | .adopting call op status =>
      match answer.lookup with
      | none => shared.released
      | some .missing => (shared, some (.parking call.key))
      | some (.present lnrentKey) =>
          if lnrentKey = some call.key then (shared, some (.binding call.key op status))
          else (shared, some (.parking call.key))
  | .binding key op status =>
      if answer.storeError then shared.released
      else
        match paySetOp shared.pay key op status with
        | none => shared.released
        | some pay => ({ shared with pay, lock := none }, some (.awaiting key op))
  | .refusing key op =>
      if answer.storeError then shared.released
      else { shared with pay := payMark shared.pay key op .failed answer.now }.released
  | .parking key =>
      if answer.storeError then shared.released
      else
        match payParkCollisionFailed shared.pay key answer.now with
        | none => shared.released
        | some pay => { shared with pay }.released
  | .awaiting key op =>
      match answer.final with
      | none => (shared, none)
      | some .success => (shared, some (.marking key op .succeeded))
      | some .refunded | some .failure => (shared, some (.marking key op .failed))
  | .marking key op status =>
      if answer.storeError then (shared, none)
      else ({ shared with pay := payMark shared.pay key op status answer.now }, none)

/-! ### The program -/

inductive Request where
  /-- `prepare_pay`, and the driver's authorising transaction. -/
  | prepare (key : Key) (bolt11 : Text)
  | pay (call : Call)

inductive Event where
  /-- The operation ends. -/
  | resolves (op : OperationId) (succeeds : Bool)
  | gc (unixepoch now : ℤ)

/-- The federation ends a live operation. -/
def Shared.resolve (shared : Shared) (op : OperationId) (succeeds : Bool) : Shared :=
  match shared.operations op with
  | some ⟨lnrentKey, .live⟩ =>
      { shared with
        operations := Function.update shared.operations op
          (some ⟨lnrentKey, if succeeds then .succeeded else .failed⟩) }
  | _ => shared

/-- **The program**, from a given state. A lock dies with the task that holds it. -/
def lnv2Pay (decode : Text → Option Parsed) (start : Shared) :
    Program Shared Phase Request Answer Event where
  start := start
  spawn shared _ request :=
    (shared, match request with
      | .prepare key bolt11 => .preparing key bolt11
      | .pay call => .calling call)
  advance shared id phase answer := advance decode shared id answer phase
  drop shared id _ := if shared.lock = some id then { shared with lock := none } else shared
  environment shared event :=
    match event with
    | .resolves op succeeds => shared.resolve op succeeds
    | .gc unixepoch now => { shared with pay := gcLnv2PayIndex shared.pay unixepoch now }
  crash shared := { shared with lock := none }

/-! ### What the client may answer -/

/-- The operation is an attempt to pay the invoice, and every earlier attempt has failed for good. -/
def Attempt (shared : Shared) (invoice : ℕ) : OperationId → Prop
  | .send other attempt => other = invoice ∧ ∀ earlier < attempt,
      (shared.operations (.send invoice earlier)).map Operation.state = some .failed
  | .collision => False

instance (shared : Shared) (invoice : ℕ) (op : OperationId) : Decidable (Attempt shared invoice op) :=
  match op with
  | .send _ _ => inferInstanceAs (Decidable (_ ∧ ∀ earlier < _, _))
  | .collision => .isFalse not_false

/-- `send()`: the first attempt that has not failed is started where it is absent, and named where it is
live or paid. -/
def SendContract (shared : Shared) (invoice : ℕ) : SendAttempt → Prop
  | .started op => Attempt shared invoice op ∧ shared.operations op = none
  | .inProgress op =>
      Attempt shared invoice op ∧ (shared.operations op).map Operation.state = some .live
  | .alreadyPaid op =>
      Attempt shared invoice op ∧ (shared.operations op).map Operation.state = some .succeeded
  | .rejected | .retryable => True

instance (shared : Shared) (invoice : ℕ) (sent : SendAttempt) :
    Decidable (SendContract shared invoice sent) :=
  match sent with
  | .started _ | .inProgress _ | .alreadyPaid _ => inferInstanceAs (Decidable (_ ∧ _))
  | .rejected | .retryable => .isTrue trivial

/-- `send_op_lnrent_key`: the committed operation log. -/
def LookupContract (shared : Shared) (op : OperationId) : Option SendOpLookup → Prop
  | some .missing => shared.operations op = none
  | some (.present lnrentKey) => (shared.operations op).map Operation.lnrentKey = some lnrentKey
  | none => True

instance (shared : Shared) (op : OperationId) (lookup : Option SendOpLookup) :
    Decidable (LookupContract shared op lookup) :=
  match lookup with
  | some .missing => inferInstanceAs (Decidable (_ = _))
  | some (.present _) => inferInstanceAs (Decidable (_ = _))
  | none => .isTrue trivial

/-- `await_send_final`: the truth. -/
def FinalContract (shared : Shared) (op : OperationId) : Option SendFinal → Prop
  | some .success => (shared.operations op).map Operation.state = some .succeeded
  | some .refunded | some .failure =>
      (shared.operations op).map Operation.state = some .failed
  | none => True

instance (shared : Shared) (op : OperationId) (final : Option SendFinal) :
    Decidable (FinalContract shared op final) :=
  match final with
  | some .success => inferInstanceAs (Decidable (_ = _))
  | some .refunded | some .failure => inferInstanceAs (Decidable (_ = _))
  | none => .isTrue trivial

/-- What a task is answered. -/
def Truthful (decode : Text → Option Parsed) (shared : Shared) (answer : Answer) : Phase → Prop
  | .looking _ op | .starting _ op | .adopting _ op _ => LookupContract shared op answer.lookup
  | .sending call _ => ∀ parsed ∈ decode call.bolt11, SendContract shared parsed.invoice answer.sent
  | .awaiting _ op => FinalContract shared op answer.final
  | .preparing _ _ | .checking _ _ | .colliding _ _ _ | .authorising _ _ | .calling _ | .reading _
  | .quoting _ _ _ | .binding _ _ _ | .refusing _ _ | .parking _ | .marking _ _ _ => True

instance (decode : Text → Option Parsed) (shared : Shared) (answer : Answer) (phase : Phase) :
    Decidable (Truthful decode shared answer phase) :=
  match phase with
  | .looking _ _ | .starting _ _ | .adopting _ _ _ => inferInstanceAs (Decidable (LookupContract _ _ _))
  | .sending _ _ => inferInstanceAs (Decidable (∀ parsed ∈ (_ : Option Parsed), _))
  | .awaiting _ _ => inferInstanceAs (Decidable (FinalContract _ _ _))
  | .preparing _ _ | .checking _ _ | .colliding _ _ _ | .authorising _ _ | .calling _ | .reading _
  | .quoting _ _ _ | .binding _ _ _ | .refusing _ _ | .parking _ | .marking _ _ _ => .isTrue trivial

/-- **The contract of the client.** -/
def Contract (decode : Text → Option Parsed) (pool : Pool Shared Phase) :
    Schedule Request Answer Event → Prop
  | .advance id answer => ∀ phase ∈ pool.threads.row id, Truthful decode pool.shared answer phase
  | .spawn _ | .drop _ | .environment _ | .crash => True

instance (decode : Text → Option Parsed) (pool : Pool Shared Phase)
    (choice : Schedule Request Answer Event) : Decidable (Contract decode pool choice) :=
  match choice with
  | .advance _ _ => inferInstanceAs (Decidable (∀ phase ∈ (_ : Option Phase), _))
  | .spawn _ | .drop _ | .environment _ | .crash => .isTrue trivial

end Lnrent.Lnv2Pay
