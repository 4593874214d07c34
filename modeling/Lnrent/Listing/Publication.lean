/-
**Publishing and withdrawing the listing** (`listing.rs`). Three verbs work on the one durable row:
`publish` (a snapshot, the preflight probes, the gate), `withdraw`, and the boot path. Each runs in a
task of its own; `TRANSITION` is held over the snapshot, over the gate with the broadcast, over a
withdrawal and over the boot path, and not over the probes.

* `upsertRow`, `setState` — the two statements that write the row;
* `Thread` — the await points of the three verbs;
* `advancePublish`, `advanceWithdraw`, `advanceBoot` — from one await point to the next;
* `publication` — the program; its trace records who did what, newest first.

The epoch counts the withdrawals of one process, so it is a natural number here.
-/

import Lnrent.Daemon.Capture
import Lnrent.Transition.Threads

namespace Lnrent.Listing

open Transition

/-! ### Preflight -/

/-- `preflight::FailureClass`. -/
inductive FailureClass where
  | structural | reachability
deriving DecidableEq

/-- `preflight::PreflightCheck`. -/
structure PreflightCheck where
  name : String
  ok : Bool
  detail : String
  failureClass : Option FailureClass
deriving DecidableEq

/-- The failed checks of one side of the gate; a failure without a class is structural. -/
def failed (checks : List PreflightCheck) (reachability : Bool) : List PreflightCheck :=
  checks.filter fun check =>
    !check.ok && (decide (check.failureClass = some .reachability) == reachability)

/-! ### The row -/

/-- The columns the recipe prices a listing with. -/
structure Pricing where
  serviceId : RecipeId
  amountSat : ℕ
  periodS : ℤ
  renewLeadS : ℤ
  retentionS : ℤ
deriving DecidableEq

/-- The listing row with the two columns only this module writes. -/
structure Row where
  listing : ListingRow
  eventId : Option ℕ
  updatedAt : ℤ
deriving DecidableEq

/-- `upsert_row`: a fresh row is UNPUBLISHED, a conflict leaves `state` alone. -/
def upsertRow (row : Option Row) (recipe : Pricing) (now : ℤ) : Row :=
  let priced (state : ListingState) : ListingRow :=
    ⟨some recipe.serviceId, some (Capture.asI64 recipe.amountSat), some recipe.periodS,
      some recipe.renewLeadS, some recipe.retentionS, state⟩
  match row with
  | none => ⟨priced .unpublished, none, now⟩
  | some old => { old with listing := priced old.listing.state, updatedAt := now }

/-- `state`: what the row says, `none` where there is no row. -/
def state (row : Option Row) : Option ListingState := row.map (·.listing.state)

/-- `is_published`. -/
def isPublished (row : Option Row) : Bool := state row == some .active

/-- `set_state`: an update that matches no row is an error. -/
def setState (row : Option Row) (state : ListingState) (now : ℤ) (clearEventId : Bool) :
    Option Row :=
  row.map fun old =>
    { listing := { old.listing with state := state }
      eventId := if clearEventId then none else old.eventId
      updatedAt := now }

/-- The statement with which `publish_event` records the id of the published event. -/
def recordEventId (row : Option Row) (eventId : ℕ) : Option Row :=
  row.map fun old => { old with eventId := some eventId }

/-! ### Outcomes -/

/-- `PublishOutcome`; a state of `none` is the empty text of an absent row. -/
inductive PublishOutcome where
  | published (listingId : ListingId) (eventId : Option ℕ) (relayError persistError : Option String)
      (warnings : List PreflightCheck)
  | alreadyPublished (listingId : ListingId) (eventId : Option ℕ)
      (relayError persistError : Option String) (warnings : List PreflightCheck)
  | blockedStructural (failed : List PreflightCheck) (stillPublished : Bool)
  | blockedUnverified (failed : List PreflightCheck) (stillPublished : Bool)
  | superseded (listingId : ListingId) (state : Option ListingState)
deriving DecidableEq

/-- `WithdrawOutcome`. -/
inductive WithdrawOutcome where
  | withdrawn (listingId : ListingId) (retractError : Option String)
  | alreadyWithdrawn (listingId : ListingId) (retractError : Option String)
  | notPublished (listingId : ListingId) (retractError : Option String)
deriving DecidableEq

/-- The keys of a publish reply that speak of the durable row (`ipc::publish_reply`). -/
structure PublishReply where
  ok : Bool
  published : Bool
  /-- `none` where the reply names no state. -/
  state : Option (Option ListingState)
  code : Option String
  retryable : Bool
deriving DecidableEq

/-- `ipc::publish_reply`. -/
def publishReply : PublishOutcome → PublishReply
  | .published .. => ⟨true, true, some (some .active), none, false⟩
  | .alreadyPublished .. => ⟨true, true, some (some .active), none, false⟩
  | .blockedStructural _ stillPublished =>
      ⟨false, stillPublished, none, some "listing_blocked", false⟩
  | .blockedUnverified _ stillPublished =>
      ⟨false, stillPublished, none, some "listing_unverified", true⟩
  | .superseded _ state => ⟨false, state == some .active, some state, some "invalid_state", false⟩

/-! ### The tasks -/

/-- `PublishSnapshot`. -/
structure PublishSnapshot where
  state : Option ListingState
  withdrawEpoch : ℕ
deriving DecidableEq

/-- What a withdrawal found. -/
inductive Found where
  | active | withdrawn | other
deriving DecidableEq

/-- **The await points.** `publish`, `gate`, `withdraw` and `boot` wait for the lock. -/
inductive Thread where
  | publish (recipes : List Pricing) (acceptUnverified : Bool)
  | snapshotting (recipe : Pricing) (acceptUnverified : Bool) (withdrawEpoch : ℕ)
  | probing (recipe : Pricing) (acceptUnverified : Bool) (observed : PublishSnapshot)
  | gate (recipe : Pricing) (acceptUnverified : Bool) (observed : PublishSnapshot)
      (checks : List PreflightCheck)
  | deciding (recipe : Pricing) (acceptUnverified : Bool) (observed : PublishSnapshot)
      (checks : List PreflightCheck)
  | refreshing (recipe : Pricing) (wasActive : Bool) (unverified : List PreflightCheck)
  | activating (unverified : List PreflightCheck)
  | broadcasting (wasActive : Bool) (unverified : List PreflightCheck)
  | recording (wasActive : Bool) (unverified : List PreflightCheck) (eventId : ℕ)
  | withdraw (recipes : List Pricing)
  | leaving
  | withdrawing
  | retracting (found : Found)
  | boot (recipe : Pricing)
  | bootRefreshing (recipe : Pricing)
  | bootReading
  | bootBroadcasting
  | bootRecording (eventId : ℕ)
deriving DecidableEq

/-- What a task asks for. -/
inductive Request where
  | publish (recipes : List Pricing) (acceptUnverified : Bool)
  | withdraw (recipes : List Pricing)
  | republishOnBoot (recipe : Pricing)

/-- What a step is told: the clock, the store's error, the verdicts, the relays' answers. -/
structure Answer where
  now : ℤ := 0
  storeError : Option String := none
  checks : List PreflightCheck := []
  relayed : Except String ℕ := .ok 0
  retractError : Option String := none

/-- What the trace records. -/
inductive Mark where
  | started (id : ℕ) (acceptUnverified : Bool)
  /-- `PublishSnapshot::take` got the transition lock. -/
  | snapshot (id : ℕ)
  | probed (id : ℕ) (checks : List PreflightCheck)
  /-- A withdrawal got the transition lock. -/
  | withdrawal (id : ℕ)
  /-- The task wrote ACTIVE. -/
  | activated (id : ℕ)
  /-- The task handed the 30402 to the relays. -/
  | broadcast (id : ℕ)
  | replied (id : ℕ) (outcome : Except String PublishOutcome)
  | withdrew (id : ℕ) (outcome : Except String WithdrawOutcome)

/-- **The shared state**: the row, the epoch, the holder of the lock, and the trace. -/
structure Shared where
  row : Option Row
  withdrawEpoch : ℕ
  holder : Option ℕ
  trace : List Mark

namespace Shared

def mark (shared : Shared) (mark : Mark) : Shared := { shared with trace := mark :: shared.trace }

/-- `TRANSITION.lock()`: the task waits while another holds it. -/
def locking (shared : Shared) (id : ℕ) (waiting : Thread)
    (entered : Shared → Shared × Option Thread) : Shared × Option Thread :=
  match shared.holder with
  | some _ => (shared, some waiting)
  | none => entered { shared with holder := some id }

/-- The guard is dropped. -/
def unlock (shared : Shared) : Shared := { shared with holder := none }

/-- The publish answers and drops the guard. -/
def reply (shared : Shared) (id : ℕ) (outcome : Except String PublishOutcome) :
    Shared × Option Thread :=
  ((shared.mark (.replied id outcome)).unlock, none)

/-- The withdrawal answers and drops the guard. -/
def withdrew (shared : Shared) (id : ℕ) (outcome : Except String WithdrawOutcome) :
    Shared × Option Thread :=
  ((shared.mark (.withdrew id outcome)).unlock, none)

end Shared

/-- An error with the context it is reported under. -/
def inContext (context cause : String) : String := context ++ ": " ++ cause

def readingState : String := "reading durable listing state"
def upsertingRow : String := "upserting durable listing row"
def recordingEventId : String := "recording the published listing event id"

def marking : ListingState → String
  | .unpublished => "marking the durable listing UNPUBLISHED"
  | .active => "marking the durable listing ACTIVE"
  | .withdrawn => "marking the durable listing WITHDRAWN"

/-- `set_state` as a transaction: the new row, or the error it reports. -/
def runSetState (listingId : ListingId) (row : Option Row) (target : ListingState)
    (clearEventId : Bool) (answer : Answer) : Except String Row :=
  match answer.storeError, setState row target answer.now clearEventId with
  | some error, _ => .error (inContext (marking target) error)
  | none, none =>
      .error (inContext (marking target) s!"listing row `{listingId}` does not exist")
  | none, some after => .ok after

/-- The outcome of a publish that committed. -/
def committed (listingId : ListingId) (wasActive : Bool) (eventId : Option ℕ)
    (relayError persistError : Option String) (unverified : List PreflightCheck) :
    PublishOutcome :=
  if wasActive then .alreadyPublished listingId eventId relayError persistError unverified
  else .published listingId eventId relayError persistError unverified

/-- The gate of `publish_gated`, once the state is read: why the publish stops, or whether the row
was ACTIVE and what the override let through. -/
def decideGate (listingId : ListingId) (acceptUnverified : Bool) (observed : PublishSnapshot)
    (checks : List PreflightCheck) (current : Option ListingState) (withdrawEpoch : ℕ) :
    PublishOutcome ⊕ (Bool × List PreflightCheck) :=
  if observed.state ≠ current ∨ observed.withdrawEpoch ≠ withdrawEpoch then
    .inl (.superseded listingId current)
  else
    let wasActive := current == some .active
    if failed checks false ≠ [] then .inl (.blockedStructural (failed checks false) wasActive)
    else if failed checks true ≠ [] ∧ acceptUnverified = false then
      .inl (.blockedUnverified (failed checks true) wasActive)
    else .inr (wasActive, failed checks true)

/-- `publish` and `publish_gated`. -/
def advancePublish (listingId : ListingId) (shared : Shared) (id : ℕ) (answer : Answer) :
    Thread → Shared × Option Thread
  | .publish recipes acceptUnverified =>
      match recipes.head? with
      | none =>
          (shared.mark (.replied id (.error "no recipe is loaded, so there is nothing to publish")),
            none)
      | some recipe =>
          shared.locking id (.publish recipes acceptUnverified) fun shared =>
            (shared.mark (.snapshot id),
              some (.snapshotting recipe acceptUnverified shared.withdrawEpoch))
  | .snapshotting recipe acceptUnverified withdrawEpoch =>
      match answer.storeError with
      | some error => shared.reply id (.error (inContext readingState error))
      | none =>
          (shared.unlock,
            some (.probing recipe acceptUnverified ⟨state shared.row, withdrawEpoch⟩))
  | .probing recipe acceptUnverified observed =>
      (shared.mark (.probed id answer.checks),
        some (.gate recipe acceptUnverified observed answer.checks))
  | .gate recipe acceptUnverified observed checks =>
      shared.locking id (.gate recipe acceptUnverified observed checks) fun shared =>
        (shared, some (.deciding recipe acceptUnverified observed checks))
  | .deciding recipe acceptUnverified observed checks =>
      match answer.storeError with
      | some error => shared.reply id (.error (inContext readingState error))
      | none =>
          match decideGate listingId acceptUnverified observed checks (state shared.row)
            shared.withdrawEpoch with
          | .inl outcome => shared.reply id (.ok outcome)
          | .inr (wasActive, unverified) => (shared, some (.refreshing recipe wasActive unverified))
  | .refreshing recipe wasActive unverified =>
      match answer.storeError with
      | some error => shared.reply id (.error (inContext upsertingRow error))
      | none =>
          ({ shared with row := some (upsertRow shared.row recipe answer.now) },
            some (if wasActive then .broadcasting true unverified else .activating unverified))
  | .activating unverified =>
      match runSetState listingId shared.row .active true answer with
      | .error error => shared.reply id (.error error)
      | .ok row =>
          ({ shared with row := some row }.mark (.activated id), some (.broadcasting false unverified))
  | .broadcasting wasActive unverified =>
      match answer.relayed with
      | .ok eventId =>
          (shared.mark (.broadcast id), some (.recording wasActive unverified eventId))
      | .error error =>
          (shared.mark (.broadcast id)).reply id
            (.ok (committed listingId wasActive none (some error) none unverified))
  | .recording wasActive unverified eventId =>
      match answer.storeError with
      | some error =>
          shared.reply id (.ok (committed listingId wasActive (some eventId) none
            (some (inContext recordingEventId error)) unverified))
      | none =>
          { shared with row := recordEventId shared.row eventId }.reply id
            (.ok (committed listingId wasActive (some eventId) none none unverified))
  | thread => (shared, some thread)

/-- `withdraw`. -/
def advanceWithdraw (listingId : ListingId) (shared : Shared) (id : ℕ) (answer : Answer) :
    Thread → Shared × Option Thread
  | .withdraw recipes =>
      match recipes.head? with
      | none =>
          (shared.mark (.withdrew id (.error "no recipe is loaded, so there is nothing to withdraw")),
            none)
      | some _ =>
          shared.locking id (.withdraw recipes) fun shared =>
            ({ shared with withdrawEpoch := shared.withdrawEpoch + 1 }.mark (.withdrawal id),
              some .leaving)
  | .leaving =>
      match answer.storeError with
      | some error => shared.withdrew id (.error (inContext readingState error))
      | none =>
          match state shared.row with
          | some .withdrawn => (shared, some (.retracting .withdrawn))
          | some .active => (shared, some .withdrawing)
          | _ => (shared, some (.retracting .other))
  | .withdrawing =>
      match runSetState listingId shared.row .withdrawn false answer with
      | .error error => shared.withdrew id (.error error)
      | .ok row => ({ shared with row := some row }, some (.retracting .active))
  | .retracting .active => shared.withdrew id (.ok (.withdrawn listingId answer.retractError))
  | .retracting .withdrawn =>
      shared.withdrew id (.ok (.alreadyWithdrawn listingId answer.retractError))
  | .retracting .other => shared.withdrew id (.ok (.notPublished listingId answer.retractError))
  | thread => (shared, some thread)

/-- `republish_on_boot`; its errors end the boot, which reports nothing to an operator. -/
def advanceBoot (shared : Shared) (id : ℕ) (answer : Answer) : Thread → Shared × Option Thread
  | .boot recipe =>
      shared.locking id (.boot recipe) fun shared => (shared, some (.bootRefreshing recipe))
  | .bootRefreshing recipe =>
      match answer.storeError with
      | some _ => (shared.unlock, none)
      | none =>
          ({ shared with row := some (upsertRow shared.row recipe answer.now) }, some .bootReading)
  | .bootReading =>
      match answer.storeError with
      | some _ => (shared.unlock, none)
      | none =>
          if isPublished shared.row then (shared, some .bootBroadcasting) else (shared.unlock, none)
  | .bootBroadcasting =>
      match answer.relayed with
      | .ok eventId => (shared.mark (.broadcast id), some (.bootRecording eventId))
      | .error _ => ((shared.mark (.broadcast id)).unlock, none)
  | .bootRecording eventId =>
      match answer.storeError with
      | some _ => (shared.unlock, none)
      | none => ({ shared with row := recordEventId shared.row eventId }.unlock, none)
  | thread => (shared, some thread)

/-- The verb a task runs. -/
def Thread.advance (listingId : ListingId) (shared : Shared) (id : ℕ) (thread : Thread)
    (answer : Answer) : Shared × Option Thread :=
  match thread with
  | .withdraw _ | .leaving | .withdrawing | .retracting _ =>
      advanceWithdraw listingId shared id answer thread
  | .boot _ | .bootRefreshing _ | .bootReading | .bootBroadcasting | .bootRecording _ =>
      advanceBoot shared id answer thread
  | _ => advancePublish listingId shared id answer thread

/-- **The program**, on the row it starts with. A dropped task drops its guard (the store's actor runs
a statement that is already queued before any later one, so the drop falls before or after it); a
crash drops every task, the lock and the epoch, and leaves the row. -/
def publication (listingId : ListingId) (row : Option Row) :
    Program Shared Thread Request Answer Empty where
  start := ⟨row, 0, none, []⟩
  spawn shared id
    | .publish recipes acceptUnverified =>
        (shared.mark (.started id acceptUnverified), .publish recipes acceptUnverified)
    | .withdraw recipes => (shared, .withdraw recipes)
    | .republishOnBoot recipe => (shared, .boot recipe)
  advance shared id thread answer := thread.advance listingId shared id answer
  drop shared id _ := if shared.holder = some id then shared.unlock else shared
  environment _ event := event.elim
  crash shared := { shared with withdrawEpoch := 0, holder := none }

end Lnrent.Listing
