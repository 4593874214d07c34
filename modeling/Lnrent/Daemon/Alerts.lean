/-
**Operator alerts** (`alerts.rs`, `relay_status.rs`, and what `supervisor.rs` reports in each
maintenance pass). An alert is a row of the outbox; a recurring one is sent again only after a
cooldown, which the process remembers and a restart forgets.

* `AlertKind`, `alertPayload`, `alertId`, `terminalId` — what an alert is stored as, and under which
  id; the hash that shortens long subjects is a parameter;
* `dispatch` — a recurring alert; `terminalAlertRow`, `enqueueAlertRow` — a terminal one;
* `recentAlerts` — the history the operator reads back;
* `RelayBlackoutMonitor`, `refreshRelayStatus` — the report of a pass on the relay pool.

A payload is the document its text parses to; `none` is a text that is not JSON.
-/

import Lnrent.Relational.Table
import Lnrent.Wire.Codec

namespace Lnrent.Alerts

open Relational Serde Wire

/-! ### What an alert is stored as -/

def alertCooldownS : ℤ := 6 * 3600

def maxAlertDetailChars : ℕ := 1024

def maxAlertSubjectChars : ℕ := 256

/-- The closed set of alertable conditions. -/
inductive AlertKind where
  | refundParked | refundStuck | teardownFailed | relayBlackout | holdingsLow | paidServiceDestroyed
  | sweepFailed | sweepStuck | settlementUnbookable
deriving DecidableEq

def AlertKind.wireStr : AlertKind → String
  | refundParked => "refund_parked"
  | refundStuck => "refund_stuck"
  | teardownFailed => "teardown_failed"
  | relayBlackout => "relay_blackout"
  | holdingsLow => "holdings_low"
  | paidServiceDestroyed => "paid_service_destroyed"
  | sweepFailed => "sweep_failed"
  | sweepStuck => "sweep_stuck"
  | settlementUnbookable => "settlement_unbookable"

/-- `cap_chars`. -/
def capChars (text : String) (max : ℕ) : String :=
  if text.length ≤ max then text else String.ofList (text.toList.take max) ++ "…"

/-- `id_subject`: a long subject is replaced by its hash. -/
def idSubject (digest : String → String) (subject : String) : String :=
  if subject.length ≤ maxAlertSubjectChars then subject else "h:" ++ digest subject

structure Alert where
  kind : AlertKind
  subject : String
  detail : String

/-- The message of an alert, with its texts capped. -/
def alertMessage (alert : Alert) : OperatorAlert where
  kind := alert.kind.wireStr
  subject := capChars alert.subject maxAlertSubjectChars
  detail := capChars alert.detail maxAlertDetailChars

/-- `alert_payload`. An alert has nothing an encoding refuses. -/
def alertPayload (alert : Alert) : Option Json :=
  match Msg.encode (.operatorAlert (alertMessage alert)) with
  | .ok document => some document
  | .error _ => none

/-- The texts every id of an alert of the kind begins with, which is the pattern of `recent_alerts`
without its `*`. -/
def alertPrefix (kind : AlertKind) : String := "outbox:alert:" ++ kind.wireStr ++ ":"

/-- The outbox id of one dispatch. -/
def alertId (digest : String → String) (kind : AlertKind) (subject : String) (now : ℤ) : String :=
  alertPrefix kind ++ idSubject digest subject ++ ":" ++ toString now

/-- The stable outbox id of a terminal alert. -/
def terminalId (digest : String → String) (kind : AlertKind) (subject : String) : String :=
  alertPrefix kind ++ idSubject digest subject

/-! ### The outbox -/

/-- A row of `outbox`, as far as alerts read and write it. -/
structure OutboxEntry where
  recipient : String
  msgType : String
  payload : Option Json
  createdAt : ℤ

abbrev Outbox := Table String OutboxEntry

/-- `INSERT … ON CONFLICT(id) DO NOTHING`. -/
def insertOrIgnore (outbox : Outbox) (id : String) (entry : OutboxEntry) : Outbox :=
  match outbox.row id with
  | some _ => outbox
  | none => outbox.put id entry

/-! ### The dispatcher -/

/-- `AlertDispatcher`: whom it delivers to, and when each `(kind, subject)` was sent last. -/
structure Dispatcher where
  enabled : Bool
  recipientHex : String
  lastSent : Table (AlertKind × String) ℤ

/-- `AlertDispatcher::new`. -/
def Dispatcher.new (recipientHex : String) : Dispatcher := ⟨true, recipientHex, Table.empty⟩

/-- `AlertDispatcher::disabled`. -/
def Dispatcher.disabled : Dispatcher := ⟨false, "", Table.empty⟩

def Dispatcher.isEnabled (dispatcher : Dispatcher) : Bool :=
  dispatcher.enabled && !dispatcher.recipientHex.isEmpty

/-- The same `(kind, subject)` was sent less than a cooldown ago. -/
def Dispatcher.Suppressed (dispatcher : Dispatcher) (alert : Alert) (now : ℤ) : Prop :=
  ∃ last ∈ dispatcher.lastSent.row (alert.kind, alert.subject), now - last < alertCooldownS

instance (dispatcher : Dispatcher) (alert : Alert) (now : ℤ) :
    Decidable (dispatcher.Suppressed alert now) :=
  decidable_of_iff (((dispatcher.lastSent.row (alert.kind, alert.subject)).any fun last =>
      decide (now - last < alertCooldownS)) = true)
    (by simp [Dispatcher.Suppressed, Option.any_eq_true])

/-- What a dispatch answers: whether it enqueued, or that the store failed. -/
inductive Dispatched where
  | enqueued | dropped | failed
deriving DecidableEq

/-- **`dispatch`**: check the cooldown, commit the row, then stamp the cooldown. Whether the store
commits is the environment's choice. -/
def dispatch (digest : String → String) (dispatcher : Dispatcher) (outbox : Outbox) (alert : Alert)
    (now : ℤ) (commits : Bool) : Dispatched × Dispatcher × Outbox :=
  if dispatcher.isEnabled = false then (.dropped, dispatcher, outbox)
  else if dispatcher.Suppressed alert now then (.dropped, dispatcher, outbox)
  else if commits = false then (.failed, dispatcher, outbox)
  else
    (.enqueued,
      { dispatcher with lastSent := dispatcher.lastSent.put (alert.kind, alert.subject) now },
      insertOrIgnore outbox (alertId digest alert.kind alert.subject now)
        ⟨dispatcher.recipientHex, "operator.alert", alertPayload alert, now⟩)

/-- A prepared row of a terminal alert. -/
structure AlertRow where
  id : String
  recipient : String
  payload : Option Json

/-- `terminal_alert_row`. -/
def terminalAlertRow (digest : String → String) (dispatcher : Dispatcher) (alert : Alert) :
    Option AlertRow :=
  if dispatcher.isEnabled then
    some ⟨terminalId digest alert.kind alert.subject, dispatcher.recipientHex, alertPayload alert⟩
  else none

/-- `enqueue_alert_row`, in the transaction of the transition it reports. -/
def enqueueAlertRow (outbox : Outbox) (row : AlertRow) (now : ℤ) : Outbox :=
  insertOrIgnore outbox row.id ⟨row.recipient, "operator.alert", row.payload, now⟩

/-! ### The history -/

/-- `AlertView`. -/
structure AlertView where
  subject : String
  detail : String
  at_ : ℤ

/-- `RecentAlerts`. -/
structure RecentAlerts where
  total : ℕ
  shown : List AlertView

/-- Why a history is refused. -/
inductive Unreadable where
  | msgType (found : String)
  | undecodable
  | notAlert
  | kind (found : String)

/-- The rows the query selects: `created_at >= since AND id GLOB 'outbox:alert:<kind>:*'`. -/
def Selects (kind : AlertKind) (since : ℤ) (id : String) (entry : OutboxEntry) : Prop :=
  (alertPrefix kind).toList <+: id.toList ∧ since ≤ entry.createdAt

instance (kind : AlertKind) (since : ℤ) (id : String) (entry : OutboxEntry) :
    Decidable (Selects kind since id entry) :=
  inferInstanceAs (Decidable (_ ∧ _))

/-- The first row is not the older one. -/
def notOlder (outbox : Outbox) (first second : String) : Bool :=
  ((outbox.row second).map OutboxEntry.createdAt).getD 0 ≤
    ((outbox.row first).map OutboxEntry.createdAt).getD 0

/-- The ids of the selected rows, latest first: `ORDER BY created_at DESC, id DESC`. -/
def selectedIds (outbox : Outbox) (kind : AlertKind) (since : ℤ) : List String :=
  ((outbox.keys.filter fun id =>
    (outbox.row id).any fun entry => Selects kind since id entry).sort (· ≥ ·)).mergeSort
      (notOlder outbox)

/-- One row of the history, checked. -/
def readAlert (kind : AlertKind) (entry : OutboxEntry) : Except Unreadable AlertView :=
  if entry.msgType ≠ "operator.alert" then .error (.msgType entry.msgType)
  else
    match entry.payload.map Msg.decode with
    | some (.ok (.operatorAlert alert)) =>
        if alert.kind ≠ kind.wireStr then .error (.kind alert.kind)
        else .ok ⟨alert.subject, alert.detail, entry.createdAt⟩
    | some (.ok _) => .error .notAlert
    | _ => .error .undecodable

/-- The loop over the rows: the first row of each subject is shown. -/
def collect (kind : AlertKind) :
    List OutboxEntry → List String → List AlertView → Except Unreadable RecentAlerts
  | [], seen, shown => .ok ⟨seen.length, shown⟩
  | entry :: rest, seen, shown =>
      match readAlert kind entry with
      | .error problem => .error problem
      | .ok view =>
          if view.subject ∈ seen then collect kind rest seen shown
          else collect kind rest (view.subject :: seen) (shown ++ [view])

/-- **`recent_alerts`**: the latest alert of each subject since a time, most recent first. A row that
cannot be read is refused, never skipped. -/
def recentAlerts (outbox : Outbox) (kind : AlertKind) (since : ℤ) : Except Unreadable RecentAlerts :=
  collect kind ((selectedIds outbox kind since).filterMap outbox.row) [] []

/-! ### The relay pool -/

/-- `RELAY_BLACKOUT_ALERT_S`. -/
def relayBlackoutAlertS : ℤ := 15 * 60

structure RelayStatusRow where
  url : String
  connected : Bool
  status : String
  lastConnectedAt : Option ℤ

/-- `all_disconnected`: an empty pool is no blackout. -/
def allDisconnected (rows : List RelayStatusRow) : Bool :=
  !rows.isEmpty && rows.all fun row => !row.connected

structure RelayBlackoutMonitor where
  onset : Option ℤ
  fired : Bool

/-- `RelayBlackoutMonitor::new`. -/
def RelayBlackoutMonitor.new : RelayBlackoutMonitor := ⟨none, false⟩

/-- **`onset_due`**. The saturating difference of the source is the exact one: saturation lies beyond
the threshold on both sides. -/
def RelayBlackoutMonitor.onsetDue (monitor : RelayBlackoutMonitor) (rows : List RelayStatusRow)
    (now : ℤ) : Bool × RelayBlackoutMonitor :=
  if allDisconnected rows then
    let onset := monitor.onset.getD now
    (!monitor.fired && decide (relayBlackoutAlertS ≤ now - onset), { monitor with onset := some onset })
  else (false, ⟨none, false⟩)

/-- `mark_fired`. -/
def RelayBlackoutMonitor.markFired (monitor : RelayBlackoutMonitor) : RelayBlackoutMonitor :=
  if monitor.onset.isSome then { monitor with fired := true } else monitor

/-- The subject of the blackout that began at the given time. -/
def blackoutSubject (onset : ℤ) : String := "relay-pool@" ++ toString onset

def blackoutAlert (relays : ℕ) (onset : ℤ) : Alert where
  kind := .relayBlackout
  subject := blackoutSubject onset
  detail := s!"all {relays} configured relay(s) have been disconnected for over {relayBlackoutAlertS / 60}min. Inbound orders and outbound refund/billing DMs are not flowing. This alert itself queues until a relay reconnects — check relay reachability (`lnrent relays` reads the pool out-of-band)."

/-! ### The reports of a maintenance pass -/

/-- What one pass meets: the rows of the pool, the time the pass and the dispatcher read, and whether
the store commits. -/
structure Tick where
  rows : List RelayStatusRow
  now : ℤ
  at_ : ℤ
  commits : Bool

/-- **`refresh_relay_status`**: report a blackout that is due, and confirm it once it is enqueued. -/
def refreshRelayStatus (digest : String → String) (monitor : RelayBlackoutMonitor)
    (dispatcher : Dispatcher) (outbox : Outbox) (tick : Tick) :
    RelayBlackoutMonitor × Dispatcher × Outbox :=
  match monitor.onsetDue tick.rows tick.now with
  | (false, monitor') => (monitor', dispatcher, outbox)
  | (true, monitor') =>
      match dispatch digest dispatcher outbox
          (blackoutAlert tick.rows.length (monitor'.onset.getD tick.now)) tick.at_ tick.commits with
      | (.failed, dispatcher', outbox') => (monitor', dispatcher', outbox')
      | (_, dispatcher', outbox') => (monitor'.markFired, dispatcher', outbox')

end Lnrent.Alerts
