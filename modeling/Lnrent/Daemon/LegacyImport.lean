/-
**The legacy index import** (`legacy_import.rs`). At boot, before anything reads the backend's tables,
a side file that an older daemon kept beside the database is folded into it.

* `analyse` — the verdict on every invoice and attempt of the books against the rows of the file;
* `repairInvoice`, `stamp`, `insertLegacy`, `writeMarker` — the statements;
* `Phase`, `step` — `run`: the reads of pass 1, the questions of pass 2 one answer at a time, the
  transaction of pass 3, the rename. A crash may come between any two.

What is not under `src/` is a parameter: whether a text parses as a bolt11 invoice.
-/

import Lnrent.Store.Maintenance
import Lnrent.Transition.Machine

namespace Lnrent.LegacyImport

open Transition

/-! ### Backends and their answers -/

/-- Which backend's side file and tables an import concerns. -/
inductive Backend where
  | phoenixd | lnv2
deriving DecidableEq

/-- `invoice_prefix` -/
def Backend.invoicePrefix : Backend → String
  | .phoenixd => "phoenixd-"
  | .lnv2 => "lnv2-"

/-- SQLite's `LIKE 'head%'`, which folds the case of ASCII letters. -/
def like (text head : String) : Bool :=
  (text.toList.take head.length).map Char.toLower == head.toList

/-- The books' invoices that reference the backend. -/
def Backend.owns (backend : Backend) (id : String) : Bool := like id backend.invoicePrefix

/-- The backend's current view of one receive. -/
inductive ReceiveState where
  | established | terminalUnpaid | absent
deriving DecidableEq

/-! ### The legacy file -/

/-- A row of the receive map; `operationId`, `creditedMsat`, `status` and `settledAt` are lnv2's. -/
structure ReceiveRow where
  externalId : String
  invoiceId : String
  bolt11 : String
  paymentHash : String
  amountSat : ℤ
  expiresAt : ℤ
  operationId : Option String
  creditedMsat : ℤ
  status : String
  settledAt : Option ℤ
deriving DecidableEq

/-- A row of the pay map. -/
structure PayRow where
  key : String
  bolt11 : String
  paymentHash : Option String
  nodeId : Option String
  paymentId : Option String
  status : String
  terminalAt : Option ℤ
deriving DecidableEq

/-- A row of `phoenixd_unbookable_settlement`. -/
structure TimerRow where
  invoiceId : String
  firstRefusalAt : ℤ
deriving DecidableEq

/-- The rows of a file, in `rowid` order. -/
structure Legacy where
  receive : List ReceiveRow
  pay : List PayRow
  timers : List TimerRow
deriving DecidableEq

/-- The newest row of a receive map for an external id. -/
def effectiveByExternal (receive : List ReceiveRow) (externalId : String) : Option ReceiveRow :=
  receive.reverse.find? fun row => row.externalId = externalId

/-- The row of a pay map for a key. -/
def payByKey (pay : List PayRow) (key : String) : Option PayRow :=
  pay.reverse.find? fun row => row.key = key

/-- What the columns of the backend's receive table hold of a row. -/
def Backend.receiveColumns : Backend → ReceiveRow → ReceiveRow
  | .phoenixd, row =>
      { row with operationId := none, creditedMsat := 0, status := "OPEN", settledAt := none }
  | .lnv2, row => { row with operationId := some (row.operationId.getD "") }

/-- What the columns of the backend's pay table hold of a row. -/
def Backend.payColumns : Backend → PayRow → PayRow
  | .phoenixd, row => { row with paymentHash := some (row.paymentHash.getD "") }
  | .lnv2, row =>
      { row with paymentHash := none, nodeId := none, paymentId := some (row.paymentId.getD "") }

/-- `read_legacy`: the file's rows as the backend's columns have them. -/
def readLegacy (backend : Backend) (file : Legacy) : Legacy where
  receive := file.receive.map backend.receiveColumns
  pay := file.pay.map backend.payColumns
  timers := match backend with
    | .phoenixd => file.timers
    | .lnv2 => []

/-- The side file: whether it is a regular file of the owner, the hash of its bytes, and its rows
where they can be read. -/
structure SideFile where
  vetted : Bool
  hash : String
  legacy : Option Legacy
deriving DecidableEq

/-! ### The books -/

/-- A row of `invoice`. -/
structure BookInvoice where
  id : String
  externalId : String
  backendInvoiceId : Option String
  paymentHash : Option String
  bolt11 : Option String
  amountSat : Option ℤ
  status : Option String
  expiresAt : Option ℤ
  settledAt : Option ℤ
  issuedAt : Option ℤ
deriving DecidableEq

/-- `settled` -/
def BookInvoice.Settled (book : BookInvoice) : Prop :=
  book.status = some "PAID" ∨ book.settledAt ≠ none

instance (book : BookInvoice) : Decidable book.Settled := inferInstanceAs (Decidable (_ ∨ _))

/-- The table `invoice`, with its primary key. -/
structure Invoices where
  rows : List BookInvoice
  unique : (rows.map (·.id)).Nodup
deriving DecidableEq

/-- A row of `refund_attempt`. -/
structure RefundRow where
  id : String
  idempotencyKey : String
  status : String
  backendPaymentId : Option String
  dest : Option String
  resolvedBolt11 : Option String
  resolutionGen : ℤ
  migrationUnverifiedAt : Option ℤ
deriving DecidableEq

/-- A row of `sweep_attempt`. -/
structure SweepRow where
  id : String
  bolt11 : Option String
  status : String
  backendPaymentId : Option String
  migrationUnverifiedAt : Option ℤ
deriving DecidableEq

/-- The `migration` row of the side file. -/
structure Marker where
  contentHash : String
  completedAt : ℤ
deriving DecidableEq

/-- An `adr0022_import_repair` entry of the journal. -/
structure RepairEntry where
  externalId : String
  invoiceId : String
  writtenAt : ℤ
deriving DecidableEq

/-- What the import reads and writes of the database. -/
structure Books where
  invoices : Invoices
  refunds : List RefundRow
  sweeps : List SweepRow
  receive : List ReceiveRow
  pay : List PayRow
  timers : List TimerRow
  marker : Option Marker
  journal : List RepairEntry
deriving DecidableEq

/-! ### Attempts as the pay map's rules see them -/

inductive AttemptTable where
  | refundAttempt | sweepAttempt
deriving DecidableEq

structure BookAttempt where
  table : AttemptTable
  id : String
  key : String
  status : String
  backendPaymentId : Option String
  bolt11 : Option String
deriving DecidableEq

/-- `external_id_from` -/
def externalIdFrom (idempotencyKey refundId : String) : String :=
  match idempotencyKey.dropPrefix? "refund:" with
  | some rest => rest.toString
  | none =>
      match refundId.dropPrefix? "ref-" with
      | some rest => rest.toString
      | none => refundId

/-- `gen_key` -/
def genKey (externalId : String) (gen : ℤ) : String :=
  if gen = 0 then "refund:" ++ externalId else "refund:" ++ externalId ++ ":g" ++ toString gen

section Analysis

variable (isBolt11 : String → Bool)

def refundAttempt (row : RefundRow) : BookAttempt where
  table := .refundAttempt
  id := row.id
  key := genKey (externalIdFrom row.idempotencyKey row.id) row.resolutionGen
  status := row.status
  backendPaymentId := row.backendPaymentId
  bolt11 :=
    if row.resolutionGen = 0 then row.dest.filter fun dest => isBolt11 dest
    else row.resolvedBolt11

def sweepAttempt (row : SweepRow) : BookAttempt where
  table := .sweepAttempt
  id := row.id
  key := row.id
  status := row.status
  backendPaymentId := row.backendPaymentId
  bolt11 := row.bolt11

/-- `load_book_attempts` -/
def loadBookAttempts (books : Books) : List BookAttempt :=
  books.refunds.map (refundAttempt isBolt11) ++ books.sweeps.map sweepAttempt

/-- `load_book_invoices` -/
def loadBookInvoices (backend : Backend) (books : Books) : List BookInvoice :=
  books.invoices.rows.filter fun book => backend.owns book.id

/-! ### The analysis -/

/-- The external id a refund is of, as `reap_terminal_rows` derives it. -/
def refundSubject (row : RefundRow) : String :=
  if like row.idempotencyKey "refund:" then String.ofList (row.idempotencyKey.toList.drop 7)
  else if like row.id "ref-" then String.ofList (row.id.toList.drop 4)
  else row.id

/-- `reap_eligible`: EXPIRED, never settled, past the window and not behind an open refund. -/
def ReapEligible (refunds : List RefundRow) (now : ℤ) (book : BookInvoice) : Prop :=
  book.status = some "EXPIRED" ∧ book.settledAt = none ∧
    (∃ anchor ∈ book.expiresAt.or book.issuedAt,
      anchor < now - Maintenance.terminalRowRetentionSecs) ∧
    ∀ row ∈ refunds, row.status ≠ "SENT" → refundSubject row ≠ book.externalId

instance (refunds : List RefundRow) (now : ℤ) (book : BookInvoice) :
    Decidable (ReapEligible refunds now book) :=
  inferInstanceAs (Decidable (_ ∧ _ ∧ _ ∧ _))

/-- A books-vs-map disagreement the backend must arbitrate. -/
structure Mismatch where
  book : BookInvoice
  map : ReceiveRow
  sameId : Bool
deriving DecidableEq

/-- What `analyse` refuses. -/
inductive Refusal where
  | uncovered (book : BookInvoice)
  | canceledElsewhere (book : BookInvoice) (map : ReceiveRow)
  | settledDisagrees (book : BookInvoice) (map : ReceiveRow)
  | settledElsewhere (book : BookInvoice) (map : ReceiveRow)
  | notReplacement (book : BookInvoice) (map : ReceiveRow)
  | timerUnresolved (timer : TimerRow)
  | payDisagrees (attempt : BookAttempt) (map : PayRow)
  | payMissing (attempt : BookAttempt)
deriving DecidableEq

/-- What the analysis finds of one row. -/
inductive Verdict where
  | covered
  | reap (id : String)
  | disagreement (mismatch : Mismatch)
  | refreshExpiry (externalId : String) (expiresAt : ℤ)
  | stamp (table : AttemptTable) (id : String)
  | refuse (refusal : Refusal)
deriving DecidableEq

/-- A field the book row carries differs from the map's. -/
def Disagrees (book : BookInvoice) (map : ReceiveRow) : Prop :=
  (∃ bolt11 ∈ book.bolt11, bolt11 ≠ map.bolt11) ∨
    (∃ hash ∈ book.paymentHash, hash ≠ map.paymentHash) ∨
      ∃ amount ∈ book.amountSat, amount ≠ map.amountSat

instance (book : BookInvoice) (map : ReceiveRow) : Decidable (Disagrees book map) :=
  inferInstanceAs (Decidable (_ ∨ _ ∨ _))

/-- Receive coverage of one invoice. -/
def judgeInvoice (receive : List ReceiveRow) (refunds : List RefundRow) (now : ℤ)
    (book : BookInvoice) : Verdict :=
  match effectiveByExternal receive book.externalId with
  | none => if ReapEligible refunds now book then .reap book.id else .refuse (.uncovered book)
  | some map =>
      if map.status = "CANCELED" ∧ ReapEligible refunds now book then .reap book.id
      else if map.status = "CANCELED" ∧ map.invoiceId ≠ book.id then
        .refuse (.canceledElsewhere book map)
      else if map.invoiceId = book.id then
        if Disagrees book map then
          if book.Settled then .refuse (.settledDisagrees book map) else .disagreement ⟨book, map, true⟩
        else if ¬ book.Settled ∧ book.expiresAt ≠ some map.expiresAt then
          .refreshExpiry book.externalId map.expiresAt
        else .covered
      else if book.Settled then .refuse (.settledElsewhere book map)
      else if map.status ∉ ["OPEN", "PAID", "PAID_UNRECOVERED"] then
        .refuse (.notReplacement book map)
      else .disagreement ⟨book, map, false⟩

/-- A timer must resolve to a receive row. -/
def judgeTimer (receive : List ReceiveRow) (timer : TimerRow) : Verdict :=
  if ∃ row ∈ receive, row.invoiceId = timer.invoiceId then .covered
  else .refuse (.timerUnresolved timer)

/-- The row names the attempt's invoice, and its payment where the attempt has one. -/
def PayAgrees (attempt : BookAttempt) (map : PayRow) : Prop :=
  attempt.bolt11 = some map.bolt11 ∧
    ∀ id ∈ attempt.backendPaymentId, map.paymentId = some id

instance (attempt : BookAttempt) (map : PayRow) : Decidable (PayAgrees attempt map) :=
  inferInstanceAs (Decidable (_ ∧ _))

/-- Pay coverage of one attempt. -/
def judgeAttempt (pay : List PayRow) (attempt : BookAttempt) : Verdict :=
  match payByKey pay attempt.key with
  | some map =>
      if PayAgrees attempt map ∧ attempt.status = "FAILED" ∧ map.status ≠ "FAILED" then
        .stamp attempt.table attempt.id
      else if PayAgrees attempt map ∧ (attempt.status = "SENT" → map.status = "SUCCEEDED") then
        .covered
      else .refuse (.payDisagrees attempt map)
  | none =>
      if attempt.status = "SENT" ∨ attempt.backendPaymentId ≠ none then
        .refuse (.payMissing attempt)
      else if attempt.status = "PENDING" ∨ attempt.status = "FAILED" then
        .stamp attempt.table attempt.id
      else .covered

/-- What pass 1 plans. -/
structure Plan where
  reap : List String
  mismatches : List Mismatch
  refreshExpiry : List (String × ℤ)
  stamp : List (AttemptTable × String)
  refusal : Option Refusal
deriving DecidableEq

def Verdict.toReap : Verdict → Option String
  | .reap id => some id
  | _ => none

def Verdict.toAsk : Verdict → Option Mismatch
  | .disagreement mismatch => some mismatch
  | _ => none

def Verdict.toRefresh : Verdict → Option (String × ℤ)
  | .refreshExpiry externalId expiresAt => some (externalId, expiresAt)
  | _ => none

def Verdict.toStamp : Verdict → Option (AttemptTable × String)
  | .stamp table id => some (table, id)
  | _ => none

def Verdict.toRefuse : Verdict → Option Refusal
  | .refuse refusal => some refusal
  | _ => none

/-- The verdicts, in order; the first refusal is the one reported. -/
def collect (verdicts : List Verdict) : Plan where
  reap := verdicts.filterMap Verdict.toReap
  mismatches := verdicts.filterMap Verdict.toAsk
  refreshExpiry := verdicts.filterMap Verdict.toRefresh
  stamp := verdicts.filterMap Verdict.toStamp
  refusal := verdicts.findSome? Verdict.toRefuse

/-- The verdicts on the invoices, the timers and the attempts. -/
def verdicts (backend : Backend) (legacy : Legacy) (books : Books) (now : ℤ) : List Verdict :=
  (loadBookInvoices backend books).map (judgeInvoice legacy.receive books.refunds now) ++
    legacy.timers.map (judgeTimer legacy.receive) ++
    (loadBookAttempts isBolt11 books).map (judgeAttempt legacy.pay)

/-- `analyse` -/
def analyse (backend : Backend) (legacy : Legacy) (books : Books) (now : ℤ) : Plan :=
  collect (verdicts isBolt11 backend legacy books now)

end Analysis

/-! ### The statements -/

/-- Why a run stops. -/
inductive Failure where
  | notVetted
  | unreadable
  | differentImport (marker : String)
  | ambiguousProvenance
  | unknownProvenance
  | fileLost
  | hard (refusal : Refusal)
  | probeFailed
  | mapNotEstablished (mismatch : Mismatch) (answer : ReceiveState)
  | bookNotTerminal (mismatch : Mismatch) (answer : ReceiveState)
  | constraint
  | repairTouched (externalId : String) (rows : ℕ)
  | afterRepair (refusal : Refusal)
  | notConverged
  | renameFailed
deriving DecidableEq

/-- `DELETE FROM invoice WHERE id = ?` -/
def Invoices.delete (invoices : Invoices) (id : String) : Invoices where
  rows := invoices.rows.filter fun book => book.id ≠ id
  unique := invoices.unique.sublist (List.filter_sublist.map _)

/-- An `UPDATE` of `invoice`; two rows of one id are refused. -/
def Invoices.update (invoices : Invoices) (change : BookInvoice → BookInvoice) :
    Except Failure Invoices :=
  if unique : ((invoices.rows.map change).map (·.id)).Nodup then .ok ⟨_, unique⟩
  else .error .constraint

/-- `status <> 'PAID' AND settled_at IS NULL`, false on a NULL status. -/
def BookInvoice.Repairable (book : BookInvoice) (externalId : String) : Prop :=
  book.externalId = externalId ∧ book.status ≠ none ∧ book.status ≠ some "PAID" ∧
    book.settledAt = none

instance (book : BookInvoice) (externalId : String) : Decidable (book.Repairable externalId) :=
  inferInstanceAs (Decidable (_ ∧ _ ∧ _ ∧ _))

/-- The book row rewritten to the map's invoice. -/
def rewrite (map : ReceiveRow) (book : BookInvoice) : BookInvoice :=
  { book with
    id := map.invoiceId
    backendInvoiceId := some (map.operationId.getD map.paymentHash)
    paymentHash := some map.paymentHash
    bolt11 := some map.bolt11
    amountSat := some map.amountSat
    expiresAt := some map.expiresAt
    status := if book.status = some "EXPIRED" then some "OPEN" else book.status }

/-- `repair_invoice` -/
def repairInvoice (now : ℤ) (books : Books) (map : ReceiveRow) : Except Failure Books := do
  let touched := books.invoices.rows.countP fun book => book.Repairable map.externalId
  let invoices ← books.invoices.update fun book =>
    if book.Repairable map.externalId then rewrite map book else book
  if touched ≠ 1 then throw (.repairTouched map.externalId touched)
  return { books with
    invoices
    journal := books.journal ++ [⟨map.externalId, map.invoiceId, now⟩] }

/-- The refresh of one local window. -/
def refreshWindow (books : Books) (window : String × ℤ) : Except Failure Books := do
  let invoices ← books.invoices.update fun book =>
    if book.Repairable window.1 then { book with expiresAt := some window.2 } else book
  return { books with invoices }

/-- `stamp` -/
def stamp (now : ℤ) (books : Books) (attempt : AttemptTable × String) : Books :=
  match attempt.1 with
  | .refundAttempt =>
      { books with
        refunds := books.refunds.map fun row =>
          if row.id = attempt.2 then { row with migrationUnverifiedAt := some now } else row }
  | .sweepAttempt =>
      { books with
        sweeps := books.sweeps.map fun row =>
          if row.id = attempt.2 then { row with migrationUnverifiedAt := some now } else row }

/-- The keys of the receive table: phoenixd's is the invoice id, lnv2's the external id. -/
def Backend.receiveKey : Backend → ReceiveRow → String
  | .phoenixd, row => row.invoiceId
  | .lnv2, row => row.externalId

/-- `insert_legacy`; a key that is there twice is refused. -/
def insertLegacy (backend : Backend) (books : Books) (legacy : Legacy) : Except Failure Books :=
  let receive := books.receive ++ legacy.receive.map backend.receiveColumns
  let pay := books.pay ++ legacy.pay.map backend.payColumns
  let timers := match backend with
    | .phoenixd => books.timers ++ legacy.timers
    | .lnv2 => books.timers
  if (receive.map backend.receiveKey).Nodup ∧ (pay.map (·.key)).Nodup ∧
      (timers.map (·.invoiceId)).Nodup then
    .ok { books with receive, pay, timers }
  else .error .constraint

/-- `write_marker`; the name is the key of `migration`. -/
def writeMarker (books : Books) (content : String) (now : ℤ) : Except Failure Books :=
  match books.marker with
  | none => .ok { books with marker := some ⟨content, now⟩ }
  | some _ => .error .constraint

/-- `backend_tables_non_empty` -/
def TablesNonEmpty (books : Books) : Prop := books.receive ≠ [] ∨ books.pay ≠ []

instance (books : Books) : Decidable (TablesNonEmpty books) := inferInstanceAs (Decidable (_ ∨ _))

/-- `first_correlation_bearing_row` finds one. -/
def CorrelationBearing (backend : Backend) (books : Books) : Prop :=
  (∃ book ∈ books.invoices.rows, backend.owns book.id = true) ∨
    (∃ row ∈ books.refunds, row.status = "SENT" ∨ row.backendPaymentId ≠ none) ∨
      ∃ row ∈ books.sweeps, row.status = "SENT" ∨ row.backendPaymentId ≠ none

instance (backend : Backend) (books : Books) : Decidable (CorrelationBearing backend books) :=
  inferInstanceAs (Decidable (_ ∨ _ ∨ _))

/-- `unwitnessed_attempts` -/
def unwitnessedAttempts (books : Books) : List (AttemptTable × String) :=
  (books.refunds.filter fun row =>
      row.status ∈ ["PENDING", "FAILED"] ∧ row.backendPaymentId = none).map
        (fun row => (.refundAttempt, row.id)) ++
    (books.sweeps.filter fun row =>
      row.status ∈ ["PENDING", "FAILED"] ∧ row.backendPaymentId = none).map
        fun row => (.sweepAttempt, row.id)

/-! ### The run -/

/-- What one boot's import did. -/
inductive Outcome where
  | alreadyMigrated
  | renamedOnly
  | imported (receiveRows payRows repaired reaped stamped : ℕ)
  | fresh
  | parked (stamped : ℕ)
deriving DecidableEq

/-- `import_absent`, the transaction of a boot that finds no side file and no marker. -/
def importAbsent (backend : Backend) (books : Books) (now : ℤ) : Except Failure (Books × Outcome) :=
  if TablesNonEmpty books then .error .unknownProvenance
  else if CorrelationBearing backend books then .error .fileLost
  else do
    let unwitnessed := unwitnessedAttempts books
    let marked ← writeMarker (unwitnessed.foldl (stamp now) books)
      (if unwitnessed = [] then "fresh" else "parked") now
    return (marked, if unwitnessed = [] then .fresh else .parked unwitnessed.length)

/-- What pass 1 hands on. -/
structure Import where
  now : ℤ
  hash : String
  legacy : Legacy
  plan : Plan
deriving DecidableEq

def Import.outcome (import_ : Import) (repairs : List ReceiveRow) : Outcome :=
  .imported import_.legacy.receive.length import_.legacy.pay.length
    (repairs.length + import_.plan.refreshExpiry.length) import_.plan.reap.length
    import_.plan.stamp.length

/-- Pass 3, one transaction. -/
def importAll (isBolt11 : String → Bool) (backend : Backend) (import_ : Import)
    (repairs : List ReceiveRow) (books : Books) : Except Failure Books := do
  let filled ← insertLegacy backend books import_.legacy
  let reaped := { filled with invoices := import_.plan.reap.foldl Invoices.delete filled.invoices }
  let repaired ← repairs.foldlM (repairInvoice import_.now) reaped
  let refreshed ← import_.plan.refreshExpiry.foldlM refreshWindow repaired
  let recheck := analyse isBolt11 backend import_.legacy refreshed import_.now
  match recheck.refusal with
  | some refusal => throw (.afterRepair refusal)
  | none =>
      if recheck.mismatches ≠ [] ∨ recheck.reap ≠ [] ∨ recheck.refreshExpiry ≠ [] then
        throw .notConverged
      else
        let stamped := import_.plan.stamp.foldl (stamp import_.now) refreshed
        writeMarker stamped import_.hash import_.now

/-- Where a boot stands. -/
inductive Phase where
  | idle
  /-- Pass 2: the disagreements still to ask about, whether the map's invoice of the first was
  established, and the repairs found. -/
  | asking (import_ : Import) (left : List Mismatch) (mapSeen : Bool) (repairs : List ReceiveRow)
  /-- The rename comes next. -/
  | moving (outcome : Outcome)
  | ended (outcome : Outcome)
  | refused (why : Failure)
deriving DecidableEq

/-- The data directory and the process. -/
structure Site where
  books : Books
  file : Option SideFile
  phase : Phase
deriving DecidableEq

/-- What happens next. -/
inductive Step where
  | boot (now : ℤ)
  /-- The backend answers the next question, or the question fails. -/
  | answered (answer : Option ReceiveState)
  | write
  | renamed (worked : Bool)
  | crash
deriving DecidableEq

/-- The run up to its first question. -/
def begin_ (isBolt11 : String → Bool) (backend : Backend) (now : ℤ) (site : Site) : Site :=
  match site.file with
  | none =>
      match site.books.marker with
      | some _ => { site with phase := .ended .alreadyMigrated }
      | none =>
          match importAbsent backend site.books now with
          | .ok (books, outcome) => { site with books, phase := .ended outcome }
          | .error why => { site with phase := .refused why }
  | some file =>
      if file.vetted = false then { site with phase := .refused .notVetted }
      else
        match site.books.marker with
        | some marker =>
            if marker.contentHash = file.hash then { site with phase := .moving .renamedOnly }
            else { site with phase := .refused (.differentImport marker.contentHash) }
        | none =>
            if TablesNonEmpty site.books then { site with phase := .refused .ambiguousProvenance }
            else
              match file.legacy with
              | none => { site with phase := .refused .unreadable }
              | some rows =>
                  let legacy := readLegacy backend rows
                  let plan := analyse isBolt11 backend legacy site.books now
                  match plan.refusal with
                  | some refusal => { site with phase := .refused (.hard refusal) }
                  | none =>
                      { site with
                        phase := .asking ⟨now, file.hash, legacy, plan⟩ plan.mismatches false [] }

/-- One answer of the backend in pass 2. -/
def answer (import_ : Import) (mismatch : Mismatch) (rest : List Mismatch) (mapSeen : Bool)
    (repairs : List ReceiveRow) : Option ReceiveState → Phase
  | none => .refused .probeFailed
  | some state =>
      if mapSeen then
        if state = .terminalUnpaid then .asking import_ rest false (repairs ++ [mismatch.map])
        else .refused (.bookNotTerminal mismatch state)
      else if state = .established then
        if mismatch.sameId then .asking import_ rest false (repairs ++ [mismatch.map])
        else .asking import_ (mismatch :: rest) true repairs
      else .refused (.mapNotEstablished mismatch state)

/-- **One step**: of the boot under way, a new boot, or a crash. -/
def step (isBolt11 : String → Bool) (backend : Backend) (site : Site) : Step → Site
  | .boot now =>
      match site.phase with
      | .asking .. | .moving _ => site
      | _ => begin_ isBolt11 backend now site
  | .answered state =>
      match site.phase with
      | .asking import_ (mismatch :: rest) mapSeen repairs =>
          { site with phase := answer import_ mismatch rest mapSeen repairs state }
      | _ => site
  | .write =>
      match site.phase with
      | .asking import_ [] _ repairs =>
          match importAll isBolt11 backend import_ repairs site.books with
          | .ok books => { site with books, phase := .moving (import_.outcome repairs) }
          | .error why => { site with phase := .refused why }
      | _ => site
  | .renamed worked =>
      match site.phase with
      | .moving outcome =>
          if worked then { site with file := none, phase := .ended outcome }
          else { site with phase := .refused .renameFailed }
      | _ => site
  | .crash => { site with phase := .idle }

/-- The boots over a data directory. -/
def boots (isBolt11 : String → Bool) (backend : Backend) (books : Books)
    (file : Option SideFile) : Machine Site Step where
  start := ⟨books, file, .idle⟩
  step := step isBolt11 backend

end Lnrent.LegacyImport
