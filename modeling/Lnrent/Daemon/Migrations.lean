/-
**Opening the state database** (`store.rs`: `open`, `migrate`, the schema and its migrations). Every
migration runs with its version bump in one transaction; the tables of the payment backends are
created after them, statement by statement.

* `schema`, `migrations`, `backendSchema` — the statements, with the columns they name;
* `applyOneMigration` — one migration, with the columns that may be there already;
* `applyMigrations` — the loop, of which any transaction may fail to commit;
* `openState` — an open.

Types, keys and checks of columns are left out: no migration adds a row.
-/

import Lnrent.Relational.Ddl

namespace Lnrent.Migrations

open Relational Ddl

/-! ### The schema -/

/-- `SCHEMA`. -/
def schema : List Statement :=
  [.createTable "operator"
    ["master_pubkey", "box_index", "op_pubkey", "payment_backend", "compute_backend", "relays"],
  .createTable "recipe" ["id", "version", "manifest_json"],
  .createTable "subscription"
    ["id", "recipe_id", "listing_id", "instance_id", "buyer_pubkey", "state", "params_json",
      "refund_dest", "period_s", "renew_lead_s", "retention_s", "paid_through", "soft_date",
      "next_deadline", "created_at", "updated_at"],
  .createTable "invoice"
    ["id", "subscription_id", "external_id", "backend_invoice_id", "payment_hash", "kind", "bolt11",
      "amount_sat", "received_msat", "status", "expires_at", "applied_at", "issued_at", "settled_at"],
  .createTable "event_log" ["id", "subscription_id", "kind", "detail_json", "at"],
  .createTable "reservation"
    ["id", "order_id", "resources_json", "ports_json", "state", "expires_at", "created_at"],
  .createTable "daemon_state" ["last_heartbeat"],
  .createTable "refund_attempt"
    ["id", "subscription_id", "dest", "amount_sat", "idempotency_key", "backend_payment_id", "status",
      "attempts", "resolved_bolt11", "resolved_expiry", "resolution_gen", "created_at", "updated_at"],
  .createTable "outbox"
    ["id", "recipient", "subscription_id", "msg_type", "payload_json", "state", "attempts",
      "created_at", "sent_at"],
  .createTable "op_invocation"
    ["sender_pubkey", "request_id", "subscription_id", "op", "state", "result_json", "error_json",
      "created_at", "finished_at"],
  .createTable "inbound_request"
    ["sender_pubkey", "request_id", "kind", "response_msg_type", "response_json", "created_at"],
  .createTable "box"
    ["id", "host_op_pubkey", "profile_json", "capacity_json", "state", "last_seen"],
  .createTable "instance"
    ["id", "subscription_id", "box_id", "kind", "handles_json", "state", "created_at", "updated_at"],
  .createTable "listing"
    ["id", "recipe_id", "d_tag", "event_id", "amount_sat", "period_s", "renew_lead_s", "retention_s",
      "state", "updated_at"],
  .createTable "native_connect_session"
    ["id", "subscription_id", "scope", "ticket_json", "state", "expires_at", "created_at"],
  .createTable "teardown_failure"
    ["id", "subscription_id", "hook", "handles_json", "attempts", "last_error", "first_failed_at",
      "last_attempt_at", "resolved_at"],
  .createIndex "teardown_failure_open_idx" "teardown_failure" ["resolved_at"],
  .createTable "sweep_attempt"
    ["id", "bolt11", "amount_sat", "max_outlay_msat", "status", "attempts", "backend_payment_id",
      "last_error", "created_at", "sent_at"]]

/-! ### The migrations -/

/-- `M2_SEEN_MESSAGE`. -/
def m2SeenMessage : List Statement :=
  [.createTable "seen_message" ["event_id", "sender", "msg_type", "seen_at"],
  .createIndex "seen_message_seen_at_idx" "seen_message" ["seen_at"]]

/-- `M3_SUSPEND_NOT_BEFORE`. -/
def m3SuspendNotBefore : List Statement :=
  [.addColumn "subscription" "suspend_not_before" .null]

/-- The columns of `M4_REFUND_RESOLUTION`, which `ensure_refund_resolution_columns` names again. -/
def refundResolutionColumns : List NewColumn :=
  [("refund_attempt", "resolved_bolt11", .null), ("refund_attempt", "resolved_expiry", .null),
    ("refund_attempt", "resolution_gen", .int 0)]

def m4RefundResolution : List Statement := refundResolutionColumns.map NewColumn.statement

def m5IdempotencyCacheIndexes : List Statement :=
  [.createIndex "op_invocation_finished_at_idx" "op_invocation" ["finished_at"],
  .createIndex "inbound_request_created_at_idx" "inbound_request" ["created_at"]]

def m6EventLogIndexes : List Statement :=
  [.createIndex "event_log_kind_idx" "event_log" ["kind"],
  .createIndex "event_log_sub_kind_idx" "event_log" ["subscription_id", "kind"]]

def m7TeardownFailure : List Statement :=
  [.createTable "teardown_failure"
    ["id", "subscription_id", "hook", "handles_json", "attempts", "last_error", "first_failed_at",
      "last_attempt_at", "resolved_at"],
  .createIndex "teardown_failure_open_idx" "teardown_failure" ["resolved_at"]]

def m8SweepAttempt : List Statement :=
  [.createTable "sweep_attempt"
    ["id", "bolt11", "amount_sat", "max_outlay_msat", "status", "attempts", "backend_payment_id",
      "last_error", "created_at", "sent_at"]]

def m9TerminalRowReaperIndexes : List Statement :=
  [.createIndex "reservation_state_created_at_idx" "reservation" ["state", "created_at"],
  .createIndex "invoice_reap_predicate_idx" "invoice"
    ["status", "settled_at", "expires_at", "issued_at"],
  .createIndex "invoice_subscription_id_idx" "invoice" ["subscription_id"],
  .createIndex "event_log_at_kind_idx" "event_log" ["at", "kind"],
  .createIndex "instance_updated_at_idx" "instance" ["updated_at"],
  .createIndex "instance_subscription_id_idx" "instance" ["subscription_id"],
  .createIndex "subscription_state_updated_at_idx" "subscription" ["state", "updated_at"],
  .createIndex "outbox_subscription_state_idx" "outbox" ["subscription_id", "state"],
  .createIndex "teardown_failure_subscription_idx" "teardown_failure"
    ["subscription_id", "resolved_at"],
  .createIndex "native_connect_session_subscription_idx" "native_connect_session"
    ["subscription_id", "state"]]

/-- A row of `subscription` in a state without a deadline. -/
def withoutDeadline (row : Tuple) : Bool :=
  row "state" ∈ [Datum.text "PROVISIONING", .text "REFUND_DUE", .text "REFUNDED"]

/-- What `M10_CLEAR_STALE_DEADLINE_CURSORS` makes of a row. -/
def clearCursor (row : Tuple) : Tuple :=
  if withoutDeadline row ∧ row "next_deadline" ≠ .null then row.with "next_deadline" .null else row

def m10ClearStaleDeadlineCursors : List Statement :=
  [.update "subscription" ["state", "next_deadline"] clearCursor]

def m11InvoiceReceivedMsat : List Statement := [.addColumn "invoice" "received_msat" .null]

/-- The columns of `ensure_migration_fence_columns`. -/
def migrationFenceColumns : List NewColumn :=
  [("refund_attempt", "migration_unverified_at", .null),
    ("sweep_attempt", "migration_unverified_at", .null)]

/-- `M12_ADR0022_FENCE_AND_MARKER`. -/
def m12FenceAndMarker : List Statement :=
  [.createTable "migration" ["name", "content_hash", "completed_at"]]

/-- `MIGRATIONS`. -/
def migrations : List (List Statement) :=
  [schema, m2SeenMessage, m3SuspendNotBefore, m4RefundResolution, m5IdempotencyCacheIndexes,
    m6EventLogIndexes, m7TeardownFailure, m8SweepAttempt, m9TerminalRowReaperIndexes,
    m10ClearStaleDeadlineCursors, m11InvoiceReceivedMsat, m12FenceAndMarker]

/-- `SCHEMA_VERSION`. -/
def schemaVersion : ℤ := migrations.length

/-! ### The tables of the backends -/

/-- `phoenixd_backend::SCHEMA`. -/
def phoenixdSchema : List Statement :=
  [.createTable "phoenixd_invoice"
    ["external_id", "invoice_id", "bolt11", "payment_hash", "amount_sat", "expires_at"],
  .createIndex "phoenixd_invoice_by_external_id" "phoenixd_invoice" ["external_id"],
  .createIndex "phoenixd_invoice_by_expires_at" "phoenixd_invoice" ["expires_at"],
  .createTable "phoenixd_unbookable_settlement" ["invoice_id", "first_refusal_at"],
  .createTable "phoenixd_pay"
    ["idempotency_key", "bolt11", "payment_hash", "node_id", "payment_id", "status", "terminal_at"],
  .createIndex "phoenixd_pay_by_hash" "phoenixd_pay" ["payment_hash"]]

/-- `lnv2_backend::SCHEMA`. -/
def lnv2Schema : List Statement :=
  [.createTable "lnv2_invoice"
    ["external_id", "operation_id", "invoice_id", "bolt11", "payment_hash", "amount_sat",
      "credited_msat", "expires_at", "status", "settled_at"],
  .createIndex "lnv2_invoice_by_invoice_id" "lnv2_invoice" ["invoice_id"],
  .createIndex "lnv2_invoice_gc_idx" "lnv2_invoice" ["status", "expires_at"],
  .createTable "lnv2_pay" ["idempotency_key", "bolt11", "operation_id", "status", "terminal_at"],
  .createIndex "lnv2_pay_gc_idx" "lnv2_pay" ["status", "terminal_at"]]

/-- What `apply_backend_schemas` executes; the tables of lnv2 only where it is compiled in. -/
def backendSchema (fedimint : Bool) : List Statement :=
  phoenixdSchema ++ if fedimint then lnv2Schema else []

/-! ### The engine -/

def hasColumn (database : Database) (table column : String) : Bool :=
  column ∈ database.columns table

/-- `is_duplicate_refund_resolution`: the message names one of the columns, or a longer name. -/
def isDuplicateRefundResolution : Fault → Bool
  | .duplicateColumn column =>
      refundResolutionColumns.any fun new => new.2.1.toList.isPrefixOf column.toList
  | _ => false

/-- `is_duplicate_received_msat`. -/
def isDuplicateReceivedMsat : Fault → Bool
  | .duplicateColumn column => "received_msat".toList.isPrefixOf column.toList
  | _ => false

/-- `PRAGMA user_version = …`. -/
def bump (database : Database) (current : ℕ) : Database := { database with version := current + 1 }

/-- **`apply_one_migration`**, inside the transaction of its caller. -/
def applyOneMigration (database : Database) (batch : List Statement) (current : ℕ) :
    Except Fault Database :=
  let skip := current == 2 && hasColumn database "subscription" "suspend_not_before"
  match if current = 11 then ensureColumns database migrationFenceColumns else .ok database with
  | .error fault => .error fault
  | .ok fenced =>
      if skip then .ok (bump fenced current)
      else
        match execBatch fenced batch with
        | (applied, none) => .ok (bump applied current)
        | (applied, some fault) =>
            if current = 3 ∧ isDuplicateRefundResolution fault then
              match ensureColumns applied refundResolutionColumns with
              | .ok healed => .ok (bump healed current)
              | .error other => .error other
            else if current = 10 ∧ isDuplicateReceivedMsat fault ∧
                hasColumn applied "invoice" "received_msat" then
              .ok (bump applied current)
            else .error fault

/-- Why an open fails. -/
inductive OpenError where
  /-- The file is there, and empty. -/
  | emptyFile
  /-- `quick_check` did not answer `ok`. -/
  | integrity
  /-- A transaction did not commit, or the process ended. -/
  | interrupted
  | fault (fault : Fault)
deriving DecidableEq

/-- The loop of `apply_migrations`, from the given version on. A migration that is disturbed leaves the
database as it was. -/
def applyFrom (disturbed : ℕ → Bool) :
    ℕ → List (List Statement) → Database → Database × Option OpenError
  | _, [], database => (database, none)
  | current, batch :: rest, database =>
      if disturbed current then (database, some .interrupted)
      else
        match applyOneMigration database batch current with
        | .error fault => (database, some (.fault fault))
        | .ok next => applyFrom disturbed (current + 1) rest next

/-- **`apply_migrations`**. A negative version is, as an unsigned number, beyond every migration. -/
def applyMigrations (disturbed : ℕ → Bool) (database : Database) (batches : List (List Statement)) :
    Database × Option OpenError :=
  if database.version < 0 then (database, none)
  else applyFrom disturbed database.version.toNat (batches.drop database.version.toNat) database

/-- What an open meets: the file, the answer of the integrity check, the migrations that are disturbed,
and the statement of the backends before which the process ends. -/
structure Opening where
  emptyFile : Bool
  healthy : Bool
  disturbed : ℕ → Bool
  ends : Option ℕ

/-- **`open`**, with `prepare_connection`. -/
def openState (fedimint : Bool) (opening : Opening) (database : Database) :
    Database × Option OpenError :=
  if opening.emptyFile then (database, some .emptyFile)
  else if opening.healthy = false then (database, some .integrity)
  else
    match applyMigrations opening.disturbed database migrations with
    | (migrated, some error) => (migrated, some error)
    | (migrated, none) =>
        match opening.ends with
        | some steps =>
            ((execBatch migrated ((backendSchema fedimint).take steps)).1, some .interrupted)
        | none =>
            match execBatch migrated (backendSchema fedimint) with
            | (prepared, none) => (prepared, none)
            | (prepared, some fault) => (prepared, some (.fault fault))

end Lnrent.Migrations
