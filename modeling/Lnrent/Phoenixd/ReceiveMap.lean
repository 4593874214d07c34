/-
**The phoenixd receive map and the books.** Whatever the order of issues, commits, payments, expiries,
captures and reaps, the newest map row of an external id is the invoice its book row names, and every
older row of that id is expired and unpaid for good.

* `Grows` — what phoenixd's records can do: a record stays, a dead one stays dead, a paid one paid;
* `Sound` — the invariant of the desk; `Ready` — what the holder of the lock may commit;
* `resolved_fits`, `accepted_fits` — the decisions of `issue_invoice` are ready to commit;
* `sound_step` — **every step keeps the invariant**.
-/

import Lnrent.Daemon.PhoenixdReceive
import Lnrent.Receive.Books
import Lnrent.Transition.Machine

namespace Lnrent.PhoenixdReceive

open Relational Receive Capture Transition

/-! ### phoenixd's records -/

/-- The bolt11 of the hash is expired and unpaid. -/
def DeadAt (node : Table ℕ Incoming) (hash : ℕ) : Prop := ∃ record ∈ node.row hash, record.Dead

/-- The bolt11 of the hash is paid. -/
def PaidAt (node : Table ℕ Incoming) (hash : ℕ) : Prop := ∃ record ∈ node.row hash, record.isPaid = true

theorem not_dead_of_paid {node : Table ℕ Incoming} {hash : ℕ} (paid : PaidAt node hash) :
    ¬ DeadAt node hash := by
  rintro ⟨record, found, unpaid, -⟩
  obtain ⟨other, found', isPaid⟩ := paid
  cases (Option.mem_def.mp found).symm.trans found'
  rw [unpaid] at isPaid
  cases isPaid

/-- phoenixd keeps the record of the invoice, as it was issued. -/
structure Matches (node : Table ℕ Incoming) (externalId : ExternalId) (invoice : Invoice) : Prop where
  id : invoice.id = invoiceIdFor invoice.paymentHash
  record : ∃ record, node.row invoice.paymentHash = some record ∧ record.externalId = externalId ∧
    record.bolt11 = invoice.bolt11 ∧ record.requestedSat = invoice.amountSat

/-- **What phoenixd's records can do**: none is lost or renamed, a dead one stays dead and a paid one
stays paid. -/
def Grows (before after : Table ℕ Incoming) : Prop :=
  ∀ hash record, before.row hash = some record → ∃ later, after.row hash = some later ∧
    later.externalId = record.externalId ∧ later.bolt11 = record.bolt11 ∧
    later.requestedSat = record.requestedSat ∧ (record.Dead → later.Dead) ∧
    (record.isPaid = true → later.isPaid = true)

theorem Grows.refl (node : Table ℕ Incoming) : Grows node node :=
  fun _ record found => ⟨record, found, rfl, rfl, rfl, id, id⟩

section Grows

variable {before after : Table ℕ Incoming} (grows : Grows before after)

include grows

theorem Grows.dead {hash : ℕ} (dead : DeadAt before hash) : DeadAt after hash := by
  obtain ⟨record, found, isDead⟩ := dead
  obtain ⟨later, found', -, -, -, keeps, -⟩ := grows hash record found
  exact ⟨later, found', keeps isDead⟩

theorem Grows.paid {hash : ℕ} (paid : PaidAt before hash) : PaidAt after hash := by
  obtain ⟨record, found, isPaid⟩ := paid
  obtain ⟨later, found', -, -, -, -, keeps⟩ := grows hash record found
  exact ⟨later, found', keeps isPaid⟩

theorem Grows.known {externalId : ExternalId} {invoice : Invoice}
    (known : Matches before externalId invoice) : Matches after externalId invoice := by
  obtain ⟨record, found, owner, bolt11, amount⟩ := known.record
  obtain ⟨later, found', owner', bolt11', amount', -, -⟩ := grows _ record found
  exact ⟨known.id, later, found', owner'.trans owner, bolt11'.trans bolt11, amount'.trans amount⟩

end Grows

/-- A record under a new hash. -/
theorem grows_insert {node : Table ℕ Incoming} {hash : ℕ} (record : Incoming)
    (fresh : node.row hash = none) : Grows node (node.put hash record) := by
  intro other old found
  have different : other ≠ hash := by
    rintro rfl
    rw [fresh] at found
    cases found
  exact ⟨old, by rw [Table.put_row_other _ _ different, found], rfl, rfl, rfl, id, id⟩

/-- A record that changes in its flags, and not from dead to alive or from paid to unpaid. -/
theorem grows_change {node : Table ℕ Incoming} {hash : ℕ} {record later : Incoming}
    (found : node.row hash = some record) (owner : later.externalId = record.externalId)
    (bolt11 : later.bolt11 = record.bolt11) (amount : later.requestedSat = record.requestedSat)
    (dead : record.Dead → later.Dead) (paid : record.isPaid = true → later.isPaid = true) :
    Grows node (node.put hash later) := by
  intro other old found'
  by_cases same : other = hash
  · subst same
    cases found.symm.trans found'
    exact ⟨later, Table.put_row_self _ _ _, owner, bolt11, amount, dead, paid⟩
  · exact ⟨old, by rw [Table.put_row_other _ _ same, found'], rfl, rfl, rfl, id, id⟩

/-! ### The listing -/

theorem mem_listing {node : Table ℕ Incoming} {order : List ℕ} {hash : ℕ} {record : Incoming} :
    (hash, record) ∈ listing node order ↔ hash ∈ order ∧ node.row hash = some record := by
  unfold listing
  rw [List.mem_filterMap]
  constructor
  · rintro ⟨other, member, equal⟩
    obtain ⟨found, present, same⟩ := Option.map_eq_some_iff.mp equal
    cases same
    exact ⟨member, present⟩
  · rintro ⟨member, present⟩
    exact ⟨hash, member, by rw [present]; rfl⟩

/-- A listed record belongs to the external id. -/
theorem Lists.owner {node : Table ℕ Incoming} {externalId : ExternalId} {order : List ℕ}
    (lists : Lists node externalId order) {hash : ℕ} {record : Incoming}
    (member : (hash, record) ∈ listing node order) :
    node.row hash = some record ∧ record.externalId = externalId := by
  obtain ⟨ordered, found⟩ := mem_listing.mp member
  have owner := lists.1 hash ordered
  rw [found] at owner
  exact ⟨found, Option.some.inj owner⟩

theorem mem_of_selected {records : List (ℕ × Incoming)} {hash : ℕ} {record : Incoming}
    (selected : selectReusableIncoming records = some (hash, record)) :
    (hash, record) ∈ records ∧ ¬ record.Dead := by
  rcases Option.or_eq_some_iff.mp selected with found | ⟨-, found⟩
  · refine ⟨List.mem_of_find?_eq_some found, fun dead => ?_⟩
    have isPaid : record.isPaid = true := by simpa using List.find?_some found
    rw [dead.1] at isPaid
    cases isPaid
  · refine ⟨List.mem_of_find?_eq_some found, fun dead => ?_⟩
    have alive : record.isExpired = false := by simpa using List.find?_some found
    rw [dead.2] at alive
    cases alive

/-! ### The invariant -/

/-- **What the holder of the lock may commit**: the newest row again, its window perhaps reopened, or
an invoice the map does not have, once the newest row is dead. -/
inductive Ready (map : ReceiveMap) (node : Table ℕ Incoming) (externalId : ExternalId)
    (invoice : Invoice) : Prop where
  | again {newest : Invoice} (current : idxGetInvoice map externalId = some newest)
      (same : invoice = { newest with expiresAt := invoice.expiresAt })
      (later : newest.expiresAt ≤ invoice.expiresAt) : Ready map node externalId invoice
  | fresh (known : Matches node externalId invoice)
      (unmapped : ∀ row ∈ map, row.2.paymentHash ≠ invoice.paymentHash)
      (dead : ∀ newest, idxGetInvoice map externalId = some newest → DeadAt node newest.paymentHash) :
      Ready map node externalId invoice

/-- What the holder of the lock knows at each stage. -/
def Turn.Fits (turn : Turn) (map : ReceiveMap) (node : Table ℕ Incoming) : Prop :=
  match turn.stage with
  | .checking cached => cached = idxGetInvoice map turn.placement.externalId
  | .creating _ => ∀ newest, idxGetInvoice map turn.placement.externalId = some newest →
      DeadAt node newest.paymentHash
  | .committing invoice => Ready map node turn.placement.externalId invoice

/-- The book row of a token and the newest map row are one invoice; before money was booked they agree
in the window as well, and after that the invoice is paid. -/
structure Agrees (desk : Desk) (externalId : ExternalId) (row : InvoiceRow) (newest : Invoice) :
    Prop where
  current : idxGetInvoice desk.map externalId = some newest
  named : Named desk.books externalId row newest
  window : ¬ Settled row → row.expiresAt = some newest.expiresAt
  paid : Settled row → PaidAt desk.node newest.paymentHash

/-- **The invariant of the desk.** -/
structure Sound (desk : Desk) : Prop where
  unique : ∀ externalId first second, (externalId, first) ∈ desk.map →
    (externalId, second) ∈ desk.map → first.id = second.id → first = second
  known : ∀ externalId invoice, (externalId, invoice) ∈ desk.map → Matches desk.node externalId invoice
  /-- Every row but the newest is dead. -/
  older : ∀ externalId invoice newest, (externalId, invoice) ∈ desk.map →
    idxGetInvoice desk.map externalId = some newest →
    invoice.paymentHash = newest.paymentHash ∨ DeadAt desk.node invoice.paymentHash
  booked : ∀ externalId row, desk.books.store.invoice.row externalId = some row →
    ∃ newest, Agrees desk externalId row newest
  /-- The newest row is the invoice that was handed out last. -/
  last : ∀ externalId, Versions.latest desk.handed externalId = idxGetInvoice desk.map externalId
  handed : ∀ externalId invoice, (externalId, invoice) ∈ desk.handed →
    Matches desk.node externalId invoice ∧
      ∃ kept, (externalId, kept) ∈ desk.map ∧ kept.paymentHash = invoice.paymentHash
  turn : ∀ turn, desk.turn = some turn → turn.Fits desk.map desk.node

/-! ### Moves of phoenixd -/

theorem Ready.grows {map : ReceiveMap} {before after : Table ℕ Incoming} (grows : Grows before after)
    {externalId : ExternalId} {invoice : Invoice} (ready : Ready map before externalId invoice) :
    Ready map after externalId invoice := by
  cases ready with
  | again current same later => exact .again current same later
  | fresh known unmapped dead =>
      exact .fresh (grows.known known) unmapped fun newest current => grows.dead (dead newest current)

theorem Turn.Fits.grows {turn : Turn} {map : ReceiveMap} {before after : Table ℕ Incoming}
    (grows : Grows before after) (fits : turn.Fits map before) : turn.Fits map after := by
  unfold Turn.Fits at fits ⊢
  cases stage : turn.stage with
  | checking cached => simpa only [stage] using fits
  | creating expiresAt =>
      simp only [stage] at fits ⊢
      exact fun newest current => grows.dead (fits newest current)
  | committing invoice =>
      simp only [stage] at fits ⊢
      exact fits.grows grows

/-- **phoenixd may move on** at any time. -/
theorem Sound.grows {desk : Desk} {node : Table ℕ Incoming} (sound : Sound desk)
    (grows : Grows desk.node node) : Sound { desk with node } where
  unique := sound.unique
  known externalId invoice member := grows.known (sound.known externalId invoice member)
  older externalId invoice newest member current :=
    (sound.older externalId invoice newest member current).imp_right grows.dead
  booked externalId row found := by
    obtain ⟨newest, agrees⟩ := sound.booked externalId row found
    exact ⟨newest, agrees.current, agrees.named, agrees.window, fun settled =>
      grows.paid (agrees.paid settled)⟩
  last := sound.last
  handed externalId invoice member :=
    (sound.handed externalId invoice member).imp_left grows.known
  turn turn holds := (sound.turn turn holds).grows grows

/-- **The lock changes hands**, to a holder that fits. -/
theorem Sound.hold {desk : Desk} (sound : Sound desk) {turn : Option Turn}
    (fits : ∀ next, turn = some next → next.Fits desk.map desk.node) : Sound { desk with turn } where
  unique := sound.unique
  known := sound.known
  older := sound.older
  booked externalId row found := by
    obtain ⟨newest, agrees⟩ := sound.booked externalId row found
    exact ⟨newest, agrees.current, agrees.named, agrees.window, agrees.paid⟩
  last := sound.last
  handed := sound.handed
  turn := fits

/-- **The books move on**, when every row they have agrees with the map. -/
theorem Sound.rebook {desk : Desk} (sound : Sound desk) {books : Books}
    (booked : ∀ externalId row, books.store.invoice.row externalId = some row →
      ∃ newest, Agrees { desk with books } externalId row newest) : Sound { desk with books } where
  unique := sound.unique
  known := sound.known
  older := sound.older
  booked := booked
  last := sound.last
  handed := sound.handed
  turn := sound.turn

/-! ### The other transactions -/

/-- A row with the same invoice agrees as well, if it is settled only where the invoice is paid. -/
theorem Agrees.rebook {desk : Desk} {books : Books} {externalId : ExternalId} {row other : InvoiceRow}
    {newest : Invoice} (agrees : Agrees desk externalId row newest) (same : SameInvoice row other)
    (hashes : books.hashes = desk.books.hashes)
    (settled : Settled other → PaidAt desk.node newest.paymentHash)
    (unsettled : ¬ Settled other → ¬ Settled row) :
    Agrees { desk with books } externalId other newest where
  current := agrees.current
  named := agrees.named.rebook same hashes
  window open_ := by rw [← same.expiry, agrees.window (unsettled open_)]
  paid := settled

theorem sound_book {desk : Desk} (sound : Sound desk) (step : BookStep) :
    Sound { desk with books := desk.books.apply step } := by
  refine sound.rebook fun externalId row found => ?_
  obtain ⟨old, present, same, settled⟩ := (run_kept step desk.books.store externalId).of_after found
  obtain ⟨newest, agrees⟩ := sound.booked externalId old present
  exact ⟨newest, agrees.rebook same rfl (fun later => agrees.paid (settled.mp later))
    fun open_ earlier => open_ (settled.mpr earlier)⟩

/-- A paid row of the map is the newest of its token. -/
theorem Sound.newest_of_paid {desk : Desk} (sound : Sound desk) {externalId : ExternalId}
    {invoice : Invoice} (member : (externalId, invoice) ∈ desk.map)
    (paid : PaidAt desk.node invoice.paymentHash) :
    ∃ newest, idxGetInvoice desk.map externalId = some newest ∧
      newest.paymentHash = invoice.paymentHash := by
  obtain ⟨newest, current⟩ := Versions.exists_latest member
  refine ⟨newest, current, ?_⟩
  rcases sound.older externalId invoice newest member current with same | dead
  · exact same.symm
  · exact absurd dead (not_dead_of_paid paid)

theorem sound_capture {desk : Desk} (sound : Sound desk) {settlement : Settlement} {now : ℤ}
    (seen : desk.PaidRow settlement.externalId) :
    Sound { desk with books := captureBooks desk.books settlement now } := by
  obtain ⟨⟨externalId, invoice⟩, member, owner, isPaid⟩ := seen
  obtain rfl : externalId = settlement.externalId := owner
  obtain ⟨record, found, recordPaid⟩ := Option.map_eq_some_iff.mp isPaid
  have paid : PaidAt desk.node invoice.paymentHash := ⟨record, found, recordPaid⟩
  obtain ⟨newest, current, sameHash⟩ := sound.newest_of_paid member paid
  obtain ⟨here, elsewhere⟩ := capture_booked desk.books.store settlement now
  refine sound.rebook fun token row present => ?_
  by_cases asked : token = settlement.externalId
  · subst asked
    replace present : (captureTxn desk.books.store settlement now).2.invoice.row
      settlement.externalId = some row := present
    rw [present] at here
    generalize before : desk.books.store.invoice.row settlement.externalId = earlier at here
    cases here with
    | again row isSettled =>
        obtain ⟨newest', agrees⟩ := sound.booked _ _ before
        exact ⟨newest', agrees.rebook (.refl row) rfl agrees.paid id⟩
    | booked old row same settled =>
        obtain ⟨newest', agrees⟩ := sound.booked _ _ before
        cases agrees.current.symm.trans current
        refine ⟨newest, agrees.rebook same rfl (fun _ => sameHash ▸ paid) ?_⟩
        exact fun unsettled => absurd settled unsettled
  · replace present : (captureTxn desk.books.store settlement now).2.invoice.row token = some row :=
      present
    rw [elsewhere token asked] at present
    obtain ⟨newest', agrees⟩ := sound.booked token row present
    exact ⟨newest', agrees.rebook (.refl row) rfl agrees.paid id⟩

/-! ### The decisions -/

section Decisions

variable {desk : Desk} {externalId : ExternalId} {order : List ℕ}

/-- Adopting a record, once the newest row is dead. -/
theorem adopted_fits (sound : Sound desk) (lists : Lists desk.node externalId order)
    (dead : ∀ newest, idxGetInvoice desk.map externalId = some newest →
      DeadAt desk.node newest.paymentHash) {turn next : Turn}
    (owner : turn.placement.externalId = externalId) {amountSat : ℕ} {expiresAt : ℤ}
    (decided : turn.decided (adoptOrCreate (listing desk.node order) amountSat expiresAt) = some next) :
    next.Fits desk.map desk.node := by
  subst owner
  unfold adoptOrCreate at decided
  cases selected : selectReusableIncoming (listing desk.node order) with
  | none =>
      simp only [selected, Turn.decided] at decided
      cases decided
      exact dead
  | some pair =>
      obtain ⟨hash, record⟩ := pair
      simp only [selected] at decided
      split_ifs at decided with amount
      · cases decided
      · cases decided
        obtain ⟨member, alive⟩ := mem_of_selected selected
        obtain ⟨found, owner⟩ := lists.owner member
        refine .fresh ⟨rfl, record, found, owner, rfl, rfl⟩ ?_ dead
        -- a row of the map under this hash would be one of this token, hence dead
        rintro ⟨token, invoice⟩ mapped same
        replace same : invoice.paymentHash = hash := same
        obtain ⟨record', found', owner', -, -⟩ := (sound.known token invoice mapped).record
        rw [same] at found'
        cases found.symm.trans found'
        obtain rfl : token = turn.placement.externalId := owner'.symm.trans owner
        obtain ⟨newest, current⟩ := Versions.exists_latest mapped
        have isDead : DeadAt desk.node invoice.paymentHash := by
          rcases sound.older _ invoice newest mapped current with sameHash | isDead
          · rw [sameHash]
            exact dead newest current
          · exact isDead
        obtain ⟨other, found'', dies⟩ := isDead
        rw [same] at found''
        cases found.symm.trans found''
        exact alive dies

/-- **What `resolve_invoice` decides** fits the holder. -/
theorem resolved_fits (sound : Sound desk) {turn next : Turn} {cached : Option Invoice}
    (lists : Lists desk.node turn.placement.externalId order)
    (read : cached = idxGetInvoice desk.map turn.placement.externalId) {amountSat expiryS : ℕ} {now : ℤ}
    (decided : turn.decided (resolveInvoice (listing desk.node order) cached amountSat expiryS now) =
      some next) : next.Fits desk.map desk.node := by
  unfold resolveInvoice at decided
  cases cached with
  | none =>
      refine adopted_fits sound lists (fun newest current => ?_) rfl decided
      rw [← read] at current
      cases current
  | some invoice =>
      simp only at decided
      cases searched : findIncomingByHash (listing desk.node order) invoice.paymentHash with
      | none =>
          rw [searched] at decided
          cases decided
      | some record =>
          rw [searched] at decided
          obtain ⟨found, -⟩ := lists.owner (Versions.mem_of_latest searched)
          simp only at decided
          split_ifs at decided with amount paid expired open_
          · cases decided
          · cases decided
            exact .again read.symm rfl le_rfl
          · refine adopted_fits sound lists (fun newest current => ?_) rfl decided
            cases read.trans current
            exact ⟨record, found, by simpa using paid, expired⟩
          · cases decided
            exact .again read.symm rfl le_rfl
          · cases decided
            refine .again read.symm rfl ?_
            have window : invoice.expiresAt ≤ now := not_lt.mp open_
            simp only
            omega

/-- **A created invoice** fits the holder. -/
theorem accepted_fits (sound : Sound desk) {turn next : Turn} {answer : Created} {amountSat : ℕ}
    {expiresAt : ℤ} {expiresAtMs : Option ℤ} (unused : desk.node.row answer.paymentHash = none)
    (dead : ∀ newest, idxGetInvoice desk.map turn.placement.externalId = some newest →
      DeadAt desk.node newest.paymentHash)
    (decided : turn.decided (acceptCreated answer amountSat expiresAt) = some next) :
    next.Fits desk.map (desk.node.put answer.paymentHash
      (freshRecord turn.placement.externalId answer expiresAtMs)) := by
  unfold acceptCreated at decided
  split_ifs at decided with amount
  · cases decided
  · split at decided
    · cases decided
    · split_ifs at decided
      · cases decided
      · cases decided
      · cases decided
        have grows := grows_insert (freshRecord turn.placement.externalId answer expiresAtMs) unused
        refine .fresh ⟨rfl, _, Table.put_row_self _ _ _, rfl, rfl, rfl⟩ ?_
          fun newest current => grows.dead (dead newest current)
        rintro ⟨token, invoice⟩ mapped same
        obtain ⟨record, found, -⟩ := (sound.known token invoice mapped).record
        rw [show invoice.paymentHash = answer.paymentHash from same, unused] at found
        cases found

end Decisions

/-! ### The commit -/

section Commit

variable {desk : Desk} {externalId : ExternalId} {invoice : Invoice}

theorem Ready.known (sound : Sound desk) (ready : Ready desk.map desk.node externalId invoice) :
    Matches desk.node externalId invoice := by
  cases ready with
  | again current same later =>
      have kept := sound.known externalId _ (Versions.mem_of_latest current)
      rw [same]
      exact ⟨kept.id, kept.record⟩
  | fresh known unmapped dead => exact known

/-- A row of the map with the id of the committed invoice is one of its token. -/
theorem Ready.owned (sound : Sound desk) (ready : Ready desk.map desk.node externalId invoice) :
    ∀ row ∈ desk.map, row.2.id = invoice.id → row.1 = externalId := by
  rintro ⟨token, old⟩ member same
  have kept := sound.known token old member
  obtain ⟨record, found, owner, -⟩ := kept.record
  obtain ⟨record', found', owner', -⟩ := (ready.known sound).record
  have hash : old.paymentHash = invoice.paymentHash :=
    kept.id.symm.trans (same.trans (ready.known sound).id)
  rw [hash] at found
  cases found.symm.trans found'
  exact owner.symm.trans owner'

/-- ... and then the newest one. -/
theorem Ready.current (sound : Sound desk) (ready : Ready desk.map desk.node externalId invoice) :
    ∀ row ∈ desk.map, row.2.id = invoice.id →
      (idxGetInvoice desk.map externalId).map Invoice.id = some invoice.id := by
  rintro ⟨token, old⟩ member same
  cases ready with
  | again current sameAs later =>
      rw [current, sameAs]
      rfl
  | fresh known unmapped dead =>
      refine absurd ?_ (unmapped _ member)
      exact (sound.known token old member).id.symm.trans (same.trans known.id)

/-- **The map after a commit**: the invoice is the newest row of its token, the others are as before. -/
theorem Ready.newest (sound : Sound desk) (ready : Ready desk.map desk.node externalId invoice) :
    idxGetInvoice (idxUpsert desk.map externalId invoice) externalId = some invoice ∧
      ∀ token ≠ externalId, idxGetInvoice (idxUpsert desk.map externalId invoice) token =
        idxGetInvoice desk.map token :=
  ⟨Versions.latest_upsert_self (ready.owned sound) (ready.current sound),
    fun _ other => Versions.latest_upsert_other (ready.owned sound) other⟩

theorem Ready.older (sound : Sound desk) (ready : Ready desk.map desk.node externalId invoice)
    {old newest : Invoice} (member : (externalId, old) ∈ desk.map)
    (current : idxGetInvoice desk.map externalId = some newest) (different : old.id ≠ invoice.id) :
    DeadAt desk.node old.paymentHash := by
  have dies := sound.older externalId old newest member current
  cases ready with
  | again current' same later =>
      refine dies.resolve_left fun sameHash => different ?_
      cases current.symm.trans current'
      rw [same]
      have known := sound.known externalId _ (Versions.mem_of_latest current)
      exact (sound.known externalId old member).id.trans (sameHash ▸ known.id.symm)
  | fresh known unmapped dead =>
      rcases dies with sameHash | isDead
      · rw [sameHash]
        exact dead newest current
      · exact isDead

/-- **A commit that ran the closure** keeps the invariant, when every book row agrees with the new
map. -/
theorem Sound.persisted (sound : Sound desk) (ready : Ready desk.map desk.node externalId invoice)
    {books : Books}
    (booked : ∀ token row, books.store.invoice.row token = some row →
      ∃ newest, Agrees { desk with books, map := idxUpsert desk.map externalId invoice } token row
        newest) :
    Sound { desk with
      books, map := idxUpsert desk.map externalId invoice
      handed := (externalId, invoice) :: desk.handed, turn := none } where
  unique token first second member member' same := by
    rcases (Versions.mem_upsert token first).mp member with new | ⟨kept, different⟩
    · cases new
      rcases (Versions.mem_upsert _ second).mp member' with new' | ⟨-, different'⟩
      · cases new'
        rfl
      · exact absurd same.symm different'
    · rcases (Versions.mem_upsert token second).mp member' with new' | ⟨kept', -⟩
      · cases new'
        exact absurd same different
      · exact sound.unique token first second kept kept' same
  known token old member := by
    rcases (Versions.mem_upsert token old).mp member with same | ⟨kept, -⟩
    · cases same
      have known := ready.known sound
      exact known
    · exact sound.known token old kept
  older token old newest member current := by
    rcases (Versions.mem_upsert token old).mp member with same | ⟨kept, different⟩
    · cases same
      exact .inl (congrArg Invoice.paymentHash
        (Option.some.inj ((ready.newest sound).1.symm.trans current)))
    · by_cases here : token = externalId
      · subst here
        obtain ⟨before, current'⟩ := Versions.exists_latest kept
        exact .inr (ready.older sound kept current' different)
      · exact sound.older token old newest kept (((ready.newest sound).2 token here).symm.trans current)
  booked token row found := by
    obtain ⟨newest, agrees⟩ := booked token row found
    exact ⟨newest, agrees.current, agrees.named, agrees.window, agrees.paid⟩
  last token := by
    by_cases here : token = externalId
    · subst here
      rw [Versions.latest_cons_self]
      exact (ready.newest sound).1.symm
    · rw [Versions.latest_cons_other _ _ here, sound.last token]
      exact ((ready.newest sound).2 token here).symm
  handed token old member := by
    rcases List.mem_cons.mp member with same | earlier
    · cases same
      have known := ready.known sound
      exact ⟨known, invoice, (Versions.mem_upsert _ _).mpr (.inl rfl), rfl⟩
    · obtain ⟨known, kept, mapped, hash⟩ := sound.handed token old earlier
      refine ⟨known, ?_⟩
      by_cases replaced : kept.id = invoice.id
      · obtain rfl : token = externalId := ready.owned sound _ mapped replaced
        refine ⟨invoice, (Versions.mem_upsert _ _).mpr (.inl rfl), ?_⟩
        exact (ready.known sound).id.symm.trans
          (replaced.symm.trans ((sound.known _ kept mapped).id.trans hash))
      · exact ⟨kept, (Versions.mem_upsert _ _).mpr (.inr ⟨mapped, replaced⟩), hash⟩
  turn next holds := by cases holds

end Commit

theorem sound_commit {desk : Desk} (sound : Sound desk) {turn : Turn} {invoice : Invoice}
    (ready : Ready desk.map desk.node turn.placement.externalId invoice) (persists : Bool) :
    Sound (desk.commit turn invoice persists) := by
  have committed := commit_committed turn.placement desk.books invoice persists
  unfold Desk.commit
  dsimp only
  generalize turn.placement.commit desk.books invoice persists = outcome at committed
  generalize turn.placement.externalId = externalId at ready committed
  obtain ⟨ran, books⟩ := outcome
  obtain ⟨newestHere, newestElsewhere⟩ := ready.newest sound
  cases committed with
  | refused rows hashes =>
      have rebooked : Sound { desk with books } := sound.rebook fun token row found => by
        obtain ⟨newest, agrees⟩ := sound.booked token row (by rw [← rows]; exact found)
        exact ⟨newest, agrees.rebook (.refl row) hashes agrees.paid id⟩
      exact rebooked.hold (by simp)
  | confirmed goes received rows hashes =>
      refine sound.persisted ready fun token row found => ?_
      rw [rows] at found
      obtain ⟨newest, agrees⟩ := sound.booked token row found
      have kept := agrees.rebook (.refl row) hashes agrees.paid id
      by_cases here : token = externalId
      · subst here
        obtain ⟨other, found', settled⟩ := received
        cases found.symm.trans found'
        have paid := agrees.paid settled
        cases ready with
        | again current same later =>
            cases agrees.current.symm.trans current
            have hash := congrArg Invoice.paymentHash same
            refine ⟨invoice, newestHere, ?_, fun open_ => absurd settled open_, fun _ => ?_⟩
            · rw [same]
              exact ⟨⟨kept.named.1.id, kept.named.1.bolt11, kept.named.1.amount⟩, kept.named.2⟩
            · rw [hash]
              exact paid
        | fresh known unmapped dead =>
            exact absurd (dead newest agrees.current) (not_dead_of_paid paid)
      · exact ⟨newest, (newestElsewhere token here).trans agrees.current, kept.named, kept.window,
          kept.paid⟩
  | @wrote _ written goes fresh wrote put hashes =>
      replace hashes : books.hashes = desk.books.hashes.put externalId invoice.paymentHash := hashes
      refine sound.persisted ready fun token row found => ?_
      rw [put] at found
      by_cases here : token = externalId
      · subst here
        rw [Table.put_row_self] at found
        cases found
        refine ⟨invoice, newestHere, ⟨wrote.carries, ?_⟩, fun _ => wrote.expiry,
          fun settled => absurd settled wrote.not_settled⟩
        rw [hashes, Table.put_row_self]
      · rw [Table.put_row_other _ _ here] at found
        obtain ⟨newest, agrees⟩ := sound.booked token row found
        refine ⟨newest, (newestElsewhere token here).trans agrees.current, ⟨agrees.named.1, ?_⟩,
          agrees.window, agrees.paid⟩
        rw [hashes, Table.put_row_other _ _ here]
        exact agrees.named.2

/-! ### Every step -/

/-- **Every step keeps the invariant.** -/
theorem sound_step (desk : Desk) (action : DeskAction) (sound : Sound desk) :
    Sound (desk.step action) := by
  cases action with
  | issue placement amountSat expiryS =>
      simp only [Desk.step]
      split
      · exact sound
      · refine sound.hold fun next holds => ?_
        cases holds
        exact rfl
  | listed order now =>
      simp only [Desk.step]
      split
      · rename_i placement amountSat expiryS cached holds
        split_ifs with lists
        · exact sound.hold fun next decided => resolved_fits sound lists (sound.turn _ holds) decided
        · exact sound
      · exact sound
  | created answer expiresAtMs =>
      simp only [Desk.step]
      split
      · rename_i placement amountSat expiryS expiresAt holds
        split_ifs with unused
        · exact (sound.grows (grows_insert _ unused)).hold fun next decided =>
            accepted_fits sound unused (sound.turn _ holds) decided
        · exact sound
      · exact sound
  | dropped => exact sound.hold (by simp)
  | commit persists =>
      simp only [Desk.step]
      split
      · rename_i placement amountSat expiryS invoice holds
        exact sound_commit sound (sound.turn _ holds) persists
      · exact sound
  | landed hash record =>
      simp only [Desk.step]
      split_ifs with unused
      · exact sound.grows (grows_insert record unused)
      · exact sound
  | lapsed hash =>
      simp only [Desk.step]
      split
      · exact sound
      · rename_i record found
        exact sound.grows (grows_change found rfl rfl rfl (fun dead => ⟨dead.1, rfl⟩) id)
  | paid hash receivedSat completedAtMs =>
      simp only [Desk.step]
      split
      · exact sound
      · rename_i record found
        split_ifs with payable
        · refine sound.grows (grows_change found rfl rfl rfl (fun dead => ?_) fun _ => rfl)
          rw [dead.2] at payable
          cases payable.2
        · exact sound
  | book step => exact sound_book sound step
  | capture settlement now =>
      simp only [Desk.step]
      split_ifs with seen
      · exact sound_capture sound seen
      · exact sound

end Lnrent.PhoenixdReceive
