/-
**The refund driver** (`refund.rs`, `Refunder::process`). Each listed attempt is driven by a thread of
its own; a thread rests wherever the source awaits the backend, the resolver or the store, and any
number of them, of one attempt too, may be under way.

* `Seams` — what the driver asks of the libraries that read destinations and invoices;
* `Drive`, `Phase` — a thread: the attempt as `pending_refunds` listed it, and what it waits for;
* `Drive.plan`, `Drive.asked`, `Drive.quoted` — `plan_payment`, the generation gate;
* `Drive.write` — the store transactions, `program` — all interleavings of drives, operator retries,
  other writers, aborted drives and crashes.

The shared state keeps two records no statement of the daemon reads: the endings of the drives, and
what each key's payment has really come to.
-/

import Lnrent.Daemon.Refund
import Lnrent.Daemon.Provenance
import Lnrent.Transition.Threads

namespace Lnrent.Refunder

open Relational Transition Ledger Refund

/-! ### Destinations and plans -/

/-- `DestForm`: a bolt11 invoice, or an address an invoice is fetched from. -/
inductive DestForm where
  | bolt11 | fetched
deriving DecidableEq

/-- **What the driver asks of code outside the daemon.** -/
structure Seams where
  /-- The trimmed destination is empty. -/
  blank : Text → Bool
  /-- `detect_form`; `none` is its structural error. -/
  detectForm : Text → Option DestForm
  /-- `parse_whole_sat`. -/
  parseWholeSat : Text → Option ℕ
  /-- `failed_refund_can_reuse_invoice`. -/
  reusesFailedInvoice : Bool

/-- `PlanOutcome::Pay`: what one send pays. -/
structure Payment where
  bolt11 : Text
  generation : ℕ
  paySat : ℕ
deriving DecidableEq

/-- The arm of `plan_payment` a drive is in. -/
inductive Source where
  /-- The destination is the invoice, of the given whole sats. -/
  | direct (dest : Text) (sat : ℕ)
  /-- Never resolved. -/
  | fresh (dest : Text)
  /-- Resolved to the given invoice. -/
  | persisted (dest bolt11 : Text)
deriving DecidableEq

/-- The commit a drive ends with. -/
inductive Final where
  | sent | parked | deferred
  | unpaid (allowTerminal : Bool)
deriving DecidableEq

/-- **What a drive waits for.** -/
inductive Phase where
  /-- Its task is yet to run. -/
  | listed
  /-- The provenance read. -/
  | proving
  /-- The status of the current generation. -/
  | asking (source : Source)
  /-- `refund_quote`. -/
  | quoting (source : Source)
  /-- The resolver, for an invoice over the net amount. -/
  | resolving (net generation : ℕ)
  /-- `persist_resolution`. -/
  | persisting (resolved : Resolved) (payment : Payment)
  /-- `already_paid`. -/
  | checking (payment : Payment)
  /-- `prepare_pay`. -/
  | preparing (payment : Payment)
  /-- The transaction of `authorise_send`. -/
  | authorising (payment : Payment)
  /-- `pay_refund_capped_via`. -/
  | paying (payment : Payment)
  /-- `status_by_key_after_error`. -/
  | rechecking (payment : Payment)
  | committing (final : Final)
deriving DecidableEq

/-- **A drive of one attempt**: the row as it was listed, its clock, and the received amount. -/
structure Drive where
  externalId : ExternalId
  row : RefundRow
  now : ℤ
  received : ℕ
  phase : Phase
deriving DecidableEq

/-- The key a payment of the attempt is made under. -/
def Drive.key (drive : Drive) (payment : Payment) : PayKey :=
  .refund drive.externalId payment.generation

def Drive.at (drive : Drive) (phase : Phase) : Drive := { drive with phase }

/-! ### Deciding -/

/-- **`verify_refund_provenance`**: the received amount, when the row's amount is the same. -/
def verifyProvenance (store : Store) (externalId : ExternalId) (row : RefundRow) : Option ℕ :=
  match Provenance.lookupReceivedAmount store externalId with
  | some received =>
      if 0 < received ∧ row.amountSat = some received then some received.toNat else none
  | none => none

/-- The whole sats of a persisted invoice; a text that is not one counts as the gross amount. -/
def Drive.persistedSat (seams : Seams) (drive : Drive) (bolt11 : Text) : ℕ :=
  (seams.parseWholeSat bolt11).getD drive.received

/-- The destination check and the start of `plan_payment`. -/
def Drive.plan (seams : Seams) (drive : Drive) : Phase :=
  match drive.row.dest with
  | none => .committing .parked
  | some dest =>
      if seams.blank dest = true then .committing .parked
      else
        match seams.detectForm dest with
        | none => .committing .parked
        | some .bolt11 =>
            match seams.parseWholeSat dest with
            | none => .committing .parked
            | some sat => .asking (.direct dest sat)
        | some .fetched =>
            match drive.row.resolvedBolt11 with
            | none => .quoting (.fresh dest)
            | some bolt11 => .asking (.persisted dest bolt11)

/-- The status of the current generation came; `none` is a failed lookup. A payment that may be under
way is awaited under its key, and nothing is quoted again. -/
def Drive.asked (seams : Seams) (drive : Drive) : Source → Option PayStatus → Phase
  | _, none => .committing .deferred
  | _, some .succeeded => .committing .sent
  | .direct dest sat, some .pending => .checking ⟨dest, 0, sat⟩
  | .direct dest sat, _ => .quoting (.direct dest sat)
  | .persisted dest bolt11, some .failed => .quoting (.persisted dest bolt11)
  | .persisted _ bolt11, _ =>
      .checking ⟨bolt11, drive.row.resolutionGen, drive.persistedSat seams bolt11⟩
  -- an attempt that was never resolved asks for no status
  | .fresh dest, _ => .quoting (.fresh dest)

/-- An invoice over the net amount is to be resolved, unless its msats overflow. -/
def resolveNet (net generation : ℕ) : Phase :=
  if 2 ^ 64 ≤ net * 1000 then .committing .parked else .resolving net generation

/-- **The quote came**: `none` is a failed quote, 0 is dust. Only here a new generation begins. -/
def Drive.quoted (seams : Seams) (drive : Drive) (source : Source) : Option ℕ → Phase
  | none => .committing .deferred
  | some net =>
      if net = 0 then .committing .parked
      else
        match source with
        | .direct dest sat =>
            if net < sat then .committing .parked else .checking ⟨dest, 0, sat⟩
        | .fresh _ => resolveNet net 1
        | .persisted _ bolt11 =>
            if drive.row.resolvedExpiry.getD 0 ≤ drive.now ∨
                net < drive.persistedSat seams bolt11 ∨ seams.reusesFailedInvoice = false then
              resolveNet net (drive.row.resolutionGen + 1)
            else .checking ⟨bolt11, drive.row.resolutionGen, drive.persistedSat seams bolt11⟩

/-- What the resolver answers; an overrun of its deadline is transient. -/
inductive Resolution where
  | resolved (resolved : Resolved)
  | structural | transient
deriving DecidableEq

/-! ### The shared state -/

/-- A record of how a drive ended, or of the operator's retry. -/
inductive Note where
  /-- The attempt became PENDING again. -/
  | requeued
  /-- Its payment failed definitively. -/
  | definite
  /-- Its payment's outcome stayed open. -/
  | ambiguous
  /-- The pay-failure path parked it FAILED. -/
  | exhausted
deriving DecidableEq

/-- **The shared state**: the store, the store jobs whose drive was dropped, and the two records. -/
structure Shared where
  store : Store
  orphans : List Drive
  notes : List (ExternalId × Note)
  wallet : PayKey → PayStatus

/-- A payment is under way, or went through. -/
def Outstanding (status : PayStatus) : Prop := status = .pending ∨ status = .succeeded

instance (status : PayStatus) : Decidable (Outstanding status) :=
  inferInstanceAs (Decidable (_ ∨ _))

/-- The wallet sends under a key, unless a payment under it is outstanding: the key deduplicates. -/
def Shared.send (shared : Shared) (key : PayKey) : Shared :=
  if Outstanding (shared.wallet key) then shared
  else { shared with wallet := Function.update shared.wallet key .pending }

/-- A payment that is under way goes through or comes back. -/
def Shared.land (shared : Shared) (key : PayKey) (paid : Bool) : Shared :=
  if shared.wallet key = .pending then
    { shared with
      wallet := Function.update shared.wallet key (if paid then .succeeded else .failed) }
  else shared

/-- A payment that was never sent is ruled out. -/
def Shared.refuse (shared : Shared) (key : PayKey) : Shared :=
  if shared.wallet key = .unknown then
    { shared with wallet := Function.update shared.wallet key .failed }
  else shared

/-- The commit a drive ends with. -/
def Shared.finish (shared : Shared) (externalId : ExternalId) (now : ℤ) : Final → Shared
  | .sent => { shared with store := (commitSent shared.store externalId now).2 }
  | .parked => { shared with store := (commitParkFailed shared.store externalId now).2 }
  | .deferred => { shared with store := (commitResolutionRetry shared.store externalId now).2 }
  | .unpaid allowTerminal =>
      let ending : Note := if allowTerminal then .definite else .ambiguous
      match commitPayFailure shared.store externalId allowTerminal now with
      | (.retried, store) =>
          { shared with store, notes := (externalId, ending) :: shared.notes }
      | (.failed, store) =>
          { shared with
            store, notes := (externalId, .exhausted) :: (externalId, ending) :: shared.notes }
      | (_, store) => { shared with store }

/-- **A store job of a drive**, and whether its swap was won. -/
def Shared.write (shared : Shared) (drive : Drive) : Shared × Bool :=
  match drive.phase with
  | .persisting resolved payment =>
      let (won, store) :=
        persistResolution shared.store drive.externalId resolved payment.generation
      ({ shared with store }, won)
  | .authorising _ => (shared, authoriseSend shared.store drive.externalId)
  | .committing final => (shared.finish drive.externalId drive.now final, true)
  | _ => (shared, false)

/-! ### The program -/

/-- What a drive is told. -/
inductive Answer where
  /-- The task runs. -/
  | starts (now : ℤ)
  /-- The store job is done. -/
  | stored
  /-- It failed. -/
  | storeFails
  | status (status : Option PayStatus)
  | quote (net : Option ℕ)
  | resolves (resolution : Resolution)
  | prepares (done : Bool)
  /-- The backend sends the payment, and has not answered. -/
  | sends
  /-- The backend answers the payment. -/
  | pays (paid : Bool)
deriving DecidableEq

/-- What may stand in a row of another writer's transaction: what stood there, the fence set or
cleared, or a fresh PENDING attempt. -/
inductive Moved : Option RefundRow → Option RefundRow → Prop where
  | same (row : Option RefundRow) : Moved row row
  | fenced (row : RefundRow) (fenced : Bool) : Moved (some row) (some { row with fenced })
  | inserted {row : RefundRow} (pending : row.status = .pending) (unused : row.attempts = 0)
      (unresolved : row.resolvedBolt11 = none) (first : row.resolutionGen = 0) :
      Moved none (some row)

/-- **A transaction of another module**, among them those that owe a refund. -/
structure Bystander where
  write : Store → Store
  attempts : ∀ store externalId,
    Moved (store.refundAttempt.row externalId) ((write store).refundAttempt.row externalId)

inductive Event where
  /-- `refund_retry`, by the operator. -/
  | retry (externalId : ExternalId) (now : ℤ)
  | elsewhere (other : Bystander)
  /-- The payment under a key lands. -/
  | lands (key : PayKey) (paid : Bool)
  /-- The backend rules a payment out without sending it. -/
  | refuses (key : PayKey)
  /-- The first of the orphaned store jobs runs. -/
  | late

/-- `pending_refunds` listed the attempt. -/
def list (shared : Shared) (externalId : ExternalId) : Shared × Option Drive :=
  (shared, ((shared.store.refundAttempt.row externalId).filter fun row =>
    decide (row.status = .pending)).map fun row => ⟨externalId, row, 0, 0, .listed⟩)

/-- The drive goes on from its store job, if the swap was won. -/
def Drive.stored (shared : Shared) (drive : Drive) (phase : Phase) : Shared × Option Drive :=
  let (after, won) := shared.write drive
  (after, if won then some (drive.at phase) else none)

/-- **One stretch of a drive**, from one await point to the next. -/
def Drive.advance (seams : Seams) (shared : Shared) (drive : Drive) (answer : Answer) :
    Shared × Option Drive :=
  match drive.phase with
  | .listed =>
      match answer with
      | .starts now =>
          -- a fenced attempt is parked at the mint point
          if drive.row.fenced = true then (shared, none)
          else (shared, some { drive with now, phase := .proving })
      | _ => (shared, some drive)
  | .proving =>
      match answer with
      | .stored =>
          match verifyProvenance shared.store drive.externalId drive.row with
          | none => (shared, some (drive.at (.committing .parked)))
          | some received =>
              let known := { drive with received }
              (shared, some (known.at (known.plan seams)))
      | .storeFails => (shared, none)
      | _ => (shared, some drive)
  | .asking source =>
      match answer with
      | .status status => (shared, some (drive.at (drive.asked seams source status)))
      | _ => (shared, some drive)
  | .quoting source =>
      match answer with
      | .quote net => (shared, some (drive.at (drive.quoted seams source net)))
      | _ => (shared, some drive)
  | .resolving net generation =>
      match answer with
      | .resolves (.resolved resolved) =>
          (shared, some (drive.at (.persisting resolved ⟨resolved.bolt11, generation, net⟩)))
      | .resolves .structural => (shared, some (drive.at (.committing .parked)))
      | .resolves .transient => (shared, some (drive.at (.committing .deferred)))
      | _ => (shared, some drive)
  | .persisting _ payment =>
      match answer with
      | .stored => drive.stored shared (.checking payment)
      | .storeFails => (shared, some (drive.at (.committing .deferred)))
      | _ => (shared, some drive)
  | .checking payment =>
      match answer with
      | .status status =>
          (shared, some (drive.at
            (if status = some .succeeded then .committing .sent else .preparing payment)))
      | _ => (shared, some drive)
  | .preparing payment =>
      match answer with
      | .prepares done =>
          (shared, some (drive.at (if done then .authorising payment else .committing .deferred)))
      | _ => (shared, some drive)
  | .authorising payment =>
      match answer with
      | .stored => drive.stored shared (.paying payment)
      | .storeFails => (shared, some (drive.at (.committing .deferred)))
      | _ => (shared, some drive)
  | .paying payment =>
      match answer with
      | .sends => (shared.send (drive.key payment), some drive)
      | .pays paid =>
          (shared, some (drive.at (if paid then .committing .sent else .rechecking payment)))
      | _ => (shared, some drive)
  | .rechecking _ =>
      match answer with
      | .status status =>
          (shared, some (drive.at (.committing
            (if status = some .succeeded then .sent else .unpaid (status = some .failed)))))
      | _ => (shared, some drive)
  | .committing _ =>
      match answer with
      | .stored => ((shared.write drive).1, none)
      | .storeFails => (shared, none)
      | _ => (shared, some drive)

/-- The drive rests at a store job, which goes on without it. -/
def Drive.Queued (drive : Drive) : Prop :=
  match drive.phase with
  | .persisting .. | .authorising _ | .committing _ => True
  | _ => False

instance (drive : Drive) : Decidable drive.Queued := by
  unfold Drive.Queued
  split <;> infer_instance

/-- The whole drive pass was given up after an error: its tasks are dropped. -/
def dropped (shared : Shared) (drive : Drive) : Shared :=
  if drive.Queued then { shared with orphans := shared.orphans ++ [drive] } else shared

def environment (shared : Shared) : Event → Shared
  | .retry externalId now =>
      match refundRetry shared.store externalId now with
      | (true, store) => { shared with store, notes := (externalId, .requeued) :: shared.notes }
      | (false, store) => { shared with store }
  | .elsewhere other => { shared with store := other.write shared.store }
  | .lands key paid => shared.land key paid
  | .refuses key => shared.refuse key
  | .late =>
      match shared.orphans with
      | [] => shared
      | drive :: rest => (({ shared with orphans := rest } : Shared).write drive).1

/-- **The program**: drives, the operator, other writers, and the wallet. -/
def program (seams : Seams) : Program Shared (Option Drive) ExternalId Answer Event where
  start := ⟨Store.empty, [], [], fun _ => .unknown⟩
  spawn shared _ externalId := list shared externalId
  advance shared _ drive answer :=
    match drive with
    | none => (shared, none)
    | some drive => (drive.advance seams shared answer).map id (·.map some)
  drop shared _ drive :=
    match drive with
    | none => shared
    | some drive => dropped shared drive
  environment := environment
  crash shared := { shared with orphans := [] }

end Lnrent.Refunder
