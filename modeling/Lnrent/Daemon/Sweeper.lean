/-
**The sweeper** (`sweep.rs`). Executions of the operator and recovery drives over the ledger and the
payments of one backend.

* `gateAndWrite`, `Authorised`, `commitSent`, `commitFailed` — the transactions;
* `Phase`, `advance` — `Sweeper::execute` and `Sweeper::drive`, step by step;
* `sweeper` — the program; the backend resolves what is in flight, and the operator clears fences.

A sweep is named by the payment hash of its invoice: the key it is paid under is `sweep:<hash>`.
-/

import Lnrent.Daemon.Surplus
import Lnrent.Daemon.System
import Lnrent.Transition.Threads

namespace Lnrent.Sweeper

open Relational Transition Ledger Sweep

/-- What a decoded operator invoice says. -/
structure Invoice where
  paymentHash : ℕ
  amountSat : ℕ
  expiresAt : ℤ

/-- `parse_sweep_invoice`: an amount, and not expired on the daemon's clock. -/
def parseSweepInvoice (decode : Text → Option Invoice) (bolt11 : Text) (now : ℤ) : Option Invoice :=
  (decode bolt11).filter fun invoice => invoice.amountSat ≠ 0 ∧ max now 0 ≤ invoice.expiresAt

/-- A sweep that a task works on. -/
structure Task where
  hash : ℕ
  bolt11 : Text
  amountSat : ℕ
  maxOutlayMsat : ℕ

/-! ### The transactions -/

/-- What the gate decided. -/
inductive GateDecision where
  | alreadySent
  | fenced
  | busy
  | insufficient
  | proceed (store : Store)

/-- **`gate_and_write`**: a fenced row is refused, a SENT one is returned, any PENDING one is busy; a
surplus that covers the outlay writes the PENDING intent, over a FAILED one too. -/
def gateAndWrite (store : Store) (task : Task) (now : ℤ) : GateDecision :=
  match store.sweepAttempt.row task.hash with
  | some ⟨_, _, _, _, _, true⟩ => .fenced
  | some ⟨_, _, _, .sent, _, false⟩ => .alreadySent
  | some ⟨_, _, _, .pending, _, false⟩ => .busy
  | _ =>
      if store.sweepAttempt.Any fun _ row => row.status = .pending then .busy
      else if (readSurplus store none).surplusMsat < task.maxOutlayMsat then .insufficient
      else .proceed (({ store with
        sweepAttempt := store.sweepAttempt.put task.hash
          ⟨task.bolt11, task.amountSat, task.maxOutlayMsat, .pending, 0, false⟩ } : Store).log none
        .sweep {} now)

/-- `authorise_send`'s swap: the row is PENDING and unfenced. -/
def Authorised (store : Store) (hash : ℕ) : Prop :=
  ∃ row ∈ store.sweepAttempt.row hash, row.status = .pending ∧ row.fenced = false

instance (store : Store) (hash : ℕ) : Decidable (Authorised store hash) :=
  decidable_of_iff ((store.sweepAttempt.row hash).any (fun row =>
      decide (row.status = .pending ∧ row.fenced = false)) = true)
    (by simp [Authorised, Option.any_eq_true])

/-- **`commit_sent`**: PENDING or FAILED → SENT. -/
def commitSent (store : Store) (hash : ℕ) (now : ℤ) : Store :=
  match store.sweepAttempt.row hash with
  | none => store
  | some row =>
      if row.status = .sent then store
      else ({ store with
        sweepAttempt := store.sweepAttempt.put hash
          { row with status := .sent, attempts := row.attempts + 1 } } : Store).log none .sweep {} now

/-- **`commit_failed`**: PENDING → FAILED. -/
def commitFailed (store : Store) (hash : ℕ) (now : ℤ) : Store :=
  match store.sweepAttempt.row hash with
  | none => store
  | some row =>
      if row.status = .pending then ({ store with
        sweepAttempt := store.sweepAttempt.put hash
          { row with status := .failed, attempts := row.attempts + 1 } } : Store).log none .sweep {} now
      else store

/-! ### The state -/

/-- The backend's payment of one hash. -/
inductive Outbound where
  | absent | inFlight | succeeded | failed
deriving DecidableEq

structure Shared where
  store : Store
  outbound : ℕ → Outbound
  /-- History: the payments started for each hash. -/
  sends : ℕ → ℕ
  /-- History: the hashes that were paid. -/
  paid : List ℕ

/-- No payment of the hash is in flight, and none has succeeded. -/
def Dead (shared : Shared) (hash : ℕ) : Prop :=
  shared.outbound hash = .absent ∨ shared.outbound hash = .failed

instance (shared : Shared) (hash : ℕ) : Decidable (Dead shared hash) :=
  inferInstanceAs (Decidable (_ ∨ _))

/-- `pending_sweeps`, without the fenced rows a drive passes over. -/
def pendingSweeps (shared : Shared) : List Task :=
  (shared.store.sweepAttempt.keys.sort (· ≤ ·)).filterMap fun hash =>
    (shared.store.sweepAttempt.row hash).bind fun row =>
      if row.status = .pending ∧ row.fenced = false then
        some ⟨hash, row.bolt11, row.amountSat.toNat, row.maxOutlayMsat.toNat⟩
      else none

/-! ### The tasks -/

/-- **Where a task rests.** -/
inductive Phase where
  /-- `execute` is about to parse, price and prepare the invoice. -/
  | quoting (bolt11 : Text)
  | gating (task : Task)
  /-- `drive` is about to read its rows. -/
  | scanning
  /-- `drive` is about to ask for the status of the key. -/
  | looking (task : Task)
  /-- The key is unknown: the invoice and the surplus are about to be checked again. -/
  | validating (task : Task)
  | authorising (task : Task)
  /-- `resolve_or_park` is about to ask the backend. -/
  | probing (task : Task)
  /-- `capped_pay` is about to call the backend. -/
  | paying (task : Task)
  /-- The call is running. -/
  | awaiting (task : Task)
  /-- It returned an error: the status of the key is about to be asked for. -/
  | rechecking (task : Task)
  /-- `commit_sent` is about to write. -/
  | sending (task : Task)
  /-- `commit_failed` is about to write; `sends` is history: the payments started when the backend
  told that the sweep failed. -/
  | failing (task : Task) (sends : ℕ)

/-- A task, with the rows of its pass that come next; an execution has none. -/
structure Thread where
  phase : Phase
  rest : List Task

/-- The sweep whose row the task has read or written. -/
def Phase.task : Phase → Option Task
  | .quoting _ | .gating _ | .scanning => none
  | .looking task | .validating task | .authorising task | .probing task | .paying task
  | .awaiting task | .rechecking task | .sending task | .failing task _ => some task

def Thread.tasks (thread : Thread) : List Task :=
  thread.phase.task.toList ++ thread.rest

/-- What the clock, the store and the backend answer a step. -/
structure Answer where
  now : ℤ := 0
  /-- The quoted outlay. -/
  outlayMsat : Option ℕ := none
  prepared : Bool := true
  storeError : Bool := false
  /-- `payment_status_by_key`; `none` is a lookup error. -/
  status : Option PayStatus := none
  /-- `outbound_status_by_ref`; `none` is an error, or no answer. -/
  probe : Option PayStatus := none
  /-- The call starts a payment. -/
  starts : Bool := false
  /-- The call returns a payment id. -/
  paid : Bool := false

/-- The next row of the pass. -/
def following : List Task → Option Thread
  | [] => none
  | task :: rest => some ⟨.looking task, rest⟩

/-- The call of `pay_capped` reaches the backend, which starts a payment or does not. -/
def Shared.startPayment (shared : Shared) (hash : ℕ) (starts : Bool) : Shared :=
  if starts = true then
    { shared with
      outbound := Function.update shared.outbound hash .inFlight
      sends := Function.update shared.sends hash (shared.sends hash + 1) }
  else shared

/-- What `execute` makes of its invoice and its quote. The ledger's columns are `i64`. -/
def quoted (decode : Text → Option Invoice) (bolt11 : Text) (answer : Answer) : Option Task :=
  match parseSweepInvoice decode bolt11 answer.now, answer.outlayMsat with
  | some invoice, some outlay =>
      if invoice.amountSat < 2 ^ 63 ∧ outlay < 2 ^ 63 ∧ answer.prepared = true then
        some ⟨invoice.paymentHash, bolt11, invoice.amountSat, outlay⟩
      else none
  | _, _ => none

/-- **One step of a task.** -/
def advance (decode : Text → Option Invoice) (shared : Shared) (answer : Answer) (thread : Thread) :
    Shared × Option Thread :=
  match thread.phase with
  | .quoting bolt11 =>
      (shared, (quoted decode bolt11 answer).map fun task => ⟨.gating task, thread.rest⟩)
  | .gating task =>
      if answer.storeError then (shared, none)
      else
        match gateAndWrite shared.store task answer.now with
        | .proceed store => ({ shared with store }, some ⟨.paying task, thread.rest⟩)
        | _ => (shared, none)
  | .scanning => if answer.storeError then (shared, none) else (shared, following (pendingSweeps shared))
  | .looking task =>
      match answer.status with
      | some .succeeded => (shared, some ⟨.sending task, thread.rest⟩)
      | some .pending => (shared, some ⟨.paying task, thread.rest⟩)
      | some .failed => (shared, some ⟨.failing task (shared.sends task.hash), thread.rest⟩)
      | some .unknown | none => (shared, some ⟨.validating task, thread.rest⟩)
  | .validating task =>
      if (parseSweepInvoice decode task.bolt11 answer.now).isNone then
        (shared, some ⟨.probing task, thread.rest⟩)
      else if answer.storeError then (shared, none)
      else if task.maxOutlayMsat ≤ (readSurplus shared.store (some task.hash)).surplusMsat then
        (shared, some ⟨.authorising task, thread.rest⟩)
      else (shared, some ⟨.probing task, thread.rest⟩)
  | .authorising task =>
      if answer.storeError ∨ answer.prepared = false then (shared, none)
      else if Authorised shared.store task.hash then (shared, some ⟨.paying task, thread.rest⟩)
      else (shared, following thread.rest)
  | .probing task =>
      match answer.probe with
      | some .succeeded => (shared, some ⟨.sending task, thread.rest⟩)
      | some .failed => (shared, some ⟨.failing task (shared.sends task.hash), thread.rest⟩)
      -- parked: the row stays PENDING
      | some .pending | some .unknown | none => (shared, following thread.rest)
  | .paying task =>
      (shared.startPayment task.hash answer.starts, some ⟨.awaiting task, thread.rest⟩)
  | .awaiting task =>
      if answer.paid then (shared, some ⟨.sending task, thread.rest⟩)
      else (shared, some ⟨.rechecking task, thread.rest⟩)
  | .rechecking task =>
      match answer.status with
      | some .succeeded => (shared, some ⟨.sending task, thread.rest⟩)
      | some .failed => (shared, some ⟨.failing task (shared.sends task.hash), thread.rest⟩)
      | some .pending | some .unknown | none => (shared, following thread.rest)
  | .sending task =>
      if answer.storeError then (shared, none)
      else ({ shared with store := commitSent shared.store task.hash answer.now }, following thread.rest)
  | .failing task _ =>
      if answer.storeError then (shared, none)
      else
        ({ shared with store := commitFailed shared.store task.hash answer.now },
          following thread.rest)

/-! ### The program -/

inductive Request where
  | execute (bolt11 : Text)
  | drive

/-- A transaction of another module: it writes no `sweep_attempt`. -/
structure Bystander where
  write : Store → Store
  elsewhere : ∀ store, (write store).sweepAttempt = store.sweepAttempt

inductive Event where
  /-- The payment in flight for the hash succeeds, or fails for good. -/
  | resolves (hash : ℕ) (succeeds : Bool)
  /-- `lnrent migration clear-fence`. -/
  | clearFence (hash : ℕ)
  | elsewhere (other : Bystander)

/-- The backend learns how a payment ended. -/
def Shared.resolve (shared : Shared) (hash : ℕ) (succeeds : Bool) : Shared :=
  if shared.outbound hash = .inFlight then
    if succeeds then
      { shared with
        outbound := Function.update shared.outbound hash .succeeded
        paid := hash :: shared.paid }
    else { shared with outbound := Function.update shared.outbound hash .failed }
  else shared

/-- The fence of a row is cleared. -/
def clearFence (store : Store) (hash : ℕ) : Store :=
  match store.sweepAttempt.row hash with
  | none => store
  | some row =>
      { store with sweepAttempt := store.sweepAttempt.put hash { row with fenced := false } }

/-- **The program**, from a given state. Fences are stamped before the daemon starts. -/
def sweeper (decode : Text → Option Invoice) (start : Shared) :
    Program Shared Thread Request Answer Event where
  start := start
  spawn shared _ request :=
    (shared, match request with
      | .execute bolt11 => ⟨.quoting bolt11, []⟩
      | .drive => ⟨.scanning, []⟩)
  advance shared _ thread answer := advance decode shared answer thread
  drop shared _ _ := shared
  environment shared event :=
    match event with
    | .resolves hash succeeds => shared.resolve hash succeeds
    | .clearFence hash => { shared with store := clearFence shared.store hash }
    | .elsewhere other => { shared with store := other.write shared.store }
  crash shared := shared

/-! ### What the transactions did -/

section Cases

variable {store after : Store} {hash : ℕ}

/-- **The gate proceeds** over no row, or over an unfenced FAILED one, while no row is PENDING. -/
theorem gateAndWrite_proceed {task : Task} {now : ℤ}
    (proceeds : gateAndWrite store task now = .proceed after) :
    (∀ row, store.sweepAttempt.row task.hash = some row → row.status = .failed ∧ row.fenced = false) ∧
      (∀ other row, store.sweepAttempt.row other = some row → row.status ≠ .pending) ∧
      after.sweepAttempt = store.sweepAttempt.put task.hash
        ⟨task.bolt11, task.amountSat, task.maxOutlayMsat, .pending, 0, false⟩ := by
  unfold gateAndWrite at proceeds
  split at proceeds
  · cases proceeds
  · cases proceeds
  · cases proceeds
  · rename_i unfenced unsent settled
    split_ifs at proceeds with busy short
    cases proceeds
    refine ⟨fun row found => ?_, fun other row found pending => busy ⟨other, row, found, pending⟩, rfl⟩
    obtain ⟨bolt11, amountSat, outlay, status, attempts, fenced⟩ := row
    cases fenced with
    | true => exact absurd found (unfenced _ _ _ _ _)
    | false =>
        cases status with
        | sent => exact absurd found (unsent _ _ _ _)
        | pending => exact absurd found (settled _ _ _ _)
        | failed => exact ⟨rfl, rfl⟩

/-- `commit_sent` leaves the row, or makes one that was not SENT. -/
theorem commitSent_cases (store : Store) (hash : ℕ) (now : ℤ) :
    commitSent store hash now = store ∨
      ∃ row, store.sweepAttempt.row hash = some row ∧ row.status ≠ .sent ∧
        (commitSent store hash now).sweepAttempt = store.sweepAttempt.put hash
          { row with status := .sent, attempts := row.attempts + 1 } := by
  unfold commitSent
  cases found : store.sweepAttempt.row hash with
  | none => exact .inl rfl
  | some row =>
      simp only
      split_ifs with sent
      · exact .inl rfl
      · exact .inr ⟨row, rfl, sent, rfl⟩

/-- `commit_failed` leaves the row, or fails a PENDING one. -/
theorem commitFailed_cases (store : Store) (hash : ℕ) (now : ℤ) :
    ((∀ row, store.sweepAttempt.row hash = some row → row.status ≠ .pending) ∧
        commitFailed store hash now = store) ∨
      ∃ row, store.sweepAttempt.row hash = some row ∧ row.status = .pending ∧
        (commitFailed store hash now).sweepAttempt = store.sweepAttempt.put hash
          { row with status := .failed, attempts := row.attempts + 1 } := by
  unfold commitFailed
  cases found : store.sweepAttempt.row hash with
  | none => exact .inl ⟨by simp, rfl⟩
  | some row =>
      simp only
      split_ifs with pending
      · exact .inr ⟨row, rfl, pending, rfl⟩
      · refine .inl ⟨?_, rfl⟩
        rintro _ ⟨⟩
        exact pending

/-- A row of the scan is PENDING and unfenced. -/
theorem mem_pendingSweeps {shared : Shared} {task : Task} (member : task ∈ pendingSweeps shared) :
    ∃ row, shared.store.sweepAttempt.row task.hash = some row ∧ row.status = .pending ∧
      row.fenced = false := by
  obtain ⟨hash, -, some_⟩ := List.mem_filterMap.mp member
  obtain ⟨row, found, kept⟩ := Option.bind_eq_some_iff.mp some_
  split_ifs at kept with ready
  cases kept
  exact ⟨row, found, ready⟩

end Cases

end Lnrent.Sweeper
