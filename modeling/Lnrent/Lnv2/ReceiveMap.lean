/-
**The lnv2 receive map and the books.** Whatever the order of issues, commits, marks, expiries,
captures, collections and reaps, the map row of an external id is the invoice its book row names, and
an invoice that lost its map row to a successor or to the collector is expired for good.

* `Tracks` — a row of the map with what the federation knows of its operation;
* `Sound` — the invariant of the desk; `Ready` — what the holder of the lock may commit;
* `Sound.marked`, `sound_gc`, `sound_capture`, `sound_commit` — the steps that touch the map or the books;
* `sound_step` — **every step keeps the invariant**.
-/

import Lnrent.Daemon.Lnv2Receive
import Lnrent.Receive.Books
import Lnrent.Relational.Versions
import Lnrent.Transition.Machine

namespace Lnrent.Lnv2Receive

open Relational Receive Capture Transition

/-! ### The invariant -/

/-- The operation can no longer be paid. -/
def ExpiredAt (operations : Table ℕ Operation) (operation : ℕ) : Prop :=
  operations.row operation = some .expired

/-- **A row and its operation**: a CANCELED row's is expired, any other mark says it was paid. -/
structure Tracks (operations : Table ℕ Operation) (row : Row) : Prop where
  canceled : row.status = .canceled → ExpiredAt operations row.invoice.id
  known : operations.row row.invoice.id ≠ none

/-- The book row of a token is the invoice of its map row; where money was booked, the map row is
PAID. -/
structure Agrees (books : Books) (externalId : ExternalId) (row : InvoiceRow) (mapped : Row) :
    Prop where
  named : Named books externalId row mapped.invoice
  window : row.expiresAt = some mapped.invoice.expiresAt
  paid : Settled row → mapped.status = .paid

/-- The map row of the token was collected, and no other has come since. -/
def Gone (map : ReceiveMap) (collected : Set ExternalId) (externalId : ExternalId) : Prop :=
  map.row externalId = none ∧ externalId ∈ collected

/-- An invoice that was handed out is the one of the map row, or it is expired. -/
def Live (map : ReceiveMap) (operations : Table ℕ Operation) (externalId : ExternalId)
    (invoice : Invoice) : Prop :=
  (∃ row, map.row externalId = some row ∧ row.invoice = invoice) ∨ ExpiredAt operations invoice.id

/-- A fresh contract may be minted and inserted: there is no row, or a CANCELED one. -/
def Vacant (map : ReceiveMap) (externalId : ExternalId) : Prop :=
  ∀ row, map.row externalId = some row → row.status = .canceled

/-- **What the holder of the lock may commit**: a fresh invoice over a vacant row, or the invoice of
the row, which a collection may have taken in the meantime. -/
def Ready (desk : Desk) (externalId : ExternalId) (invoice : Invoice) : Bool → Prop
  | true => Vacant desk.map externalId ∧ desk.operations.row invoice.id ≠ none
  | false => (∃ row, desk.map.row externalId = some row ∧ row.invoice = invoice) ∨
      ExpiredAt desk.operations invoice.id ∧ Gone desk.map desk.collected externalId

/-- What the holder of the lock knows at each stage. -/
def Turn.Fits (turn : Turn) (desk : Desk) : Prop :=
  match turn.stage with
  | .minting => Vacant desk.map turn.placement.externalId
  | .committing invoice minted => Ready desk turn.placement.externalId invoice minted

/-- **The invariant of the desk.** -/
structure Sound (desk : Desk) : Prop where
  tracks : ∀ externalId row, desk.map.row externalId = some row → Tracks desk.operations row
  booked : ∀ externalId row, desk.books.store.invoice.row externalId = some row →
    (∃ mapped, desk.map.row externalId = some mapped ∧ Agrees desk.books externalId row mapped) ∨
      Gone desk.map desk.collected externalId ∧ ¬ Settled row
  /-- The map row is the invoice that was handed out last. -/
  last : ∀ externalId row, desk.map.row externalId = some row →
    Versions.latest desk.handed externalId = some row.invoice
  /-- Only a collection leaves a token without a row. -/
  absent : ∀ externalId invoice, (externalId, invoice) ∈ desk.handed →
    desk.map.row externalId = none → externalId ∈ desk.collected
  handed : ∀ externalId invoice, (externalId, invoice) ∈ desk.handed →
    Live desk.map desk.operations externalId invoice
  turn : ∀ turn, desk.turn = some turn → turn.Fits desk

/-! ### The lock, the books and the federation -/

/-- **The lock changes hands**, to a holder that fits. -/
theorem Sound.hold {desk : Desk} (sound : Sound desk) {turn : Option Turn}
    (fits : ∀ next, turn = some next → next.Fits desk) : Sound { desk with turn } where
  tracks := sound.tracks
  booked := sound.booked
  last := sound.last
  absent := sound.absent
  handed := sound.handed
  turn next holds := fits next holds

/-- **The books move on**, when every row they have agrees with the map. -/
theorem Sound.rebook {desk : Desk} (sound : Sound desk) {books : Books}
    (booked : ∀ externalId row, books.store.invoice.row externalId = some row →
      (∃ mapped, desk.map.row externalId = some mapped ∧ Agrees books externalId row mapped) ∨
        Gone desk.map desk.collected externalId ∧ ¬ Settled row) : Sound { desk with books } where
  tracks := sound.tracks
  booked := booked
  last := sound.last
  absent := sound.absent
  handed := sound.handed
  turn := sound.turn

/-- **The federation moves on**: it learns of an operation, or one that was pending ends. -/
theorem Sound.operate {desk : Desk} (sound : Sound desk) {operation : ℕ} (state : Operation)
    (movable : desk.operations.row operation ≠ some .expired) :
    Sound { desk with operations := desk.operations.put operation state } := by
  have expired {other : ℕ} (isExpired : ExpiredAt desk.operations other) :
      ExpiredAt (desk.operations.put operation state) other := by
    unfold ExpiredAt
    rw [Table.put_row_other, isExpired]
    rintro rfl
    exact movable isExpired
  have known {other : ℕ} (isKnown : desk.operations.row other ≠ none) :
      (desk.operations.put operation state).row other ≠ none := by
    rw [Table.put_row]
    split_ifs
    · simp
    · exact isKnown
  refine ⟨fun externalId row found => ?_, sound.booked, sound.last, sound.absent,
    fun externalId invoice member => (sound.handed externalId invoice member).imp_right expired,
    fun turn holds => ?_⟩
  · exact ⟨fun canceled => expired ((sound.tracks externalId row found).canceled canceled),
      known (sound.tracks externalId row found).known⟩
  · have fits := sound.turn turn holds
    unfold Turn.Fits at fits ⊢
    cases stage : turn.stage with
    | minting => simpa only [stage] using fits
    | committing invoice minted =>
        simp only [stage] at fits ⊢
        cases minted with
        | true => exact ⟨fits.1, known fits.2⟩
        | false => exact fits.imp_right fun gone => ⟨expired gone.1, gone.2⟩

/-! ### The other transactions -/

theorem Agrees.rebook {books later : Books} {externalId : ExternalId} {row other : InvoiceRow}
    {mapped : Row} (agrees : Agrees books externalId row mapped) (same : SameInvoice row other)
    (hashes : later.hashes = books.hashes) (paid : Settled other → mapped.status = .paid) :
    Agrees later externalId other mapped where
  named := Named.rebook agrees.named same hashes
  window := same.expiry.symm.trans agrees.window
  paid := paid

theorem sound_book {desk : Desk} (sound : Sound desk) (step : BookStep) :
    Sound { desk with books := desk.books.apply step } := by
  refine sound.rebook fun externalId row found => ?_
  obtain ⟨old, present, same, settled⟩ := (run_kept step desk.books.store externalId).of_after found
  rcases sound.booked externalId old present with ⟨mapped, isMapped, agrees⟩ | ⟨gone, unsettled⟩
  · exact .inl ⟨mapped, isMapped, agrees.rebook same rfl fun later => agrees.paid (settled.mp later)⟩
  · exact .inr ⟨gone, fun later => unsettled (settled.mp later)⟩

theorem sound_capture {desk : Desk} (sound : Sound desk) {settlement : Settlement} {now : ℤ}
    (paid : (desk.map.row settlement.externalId).map Row.status = some .paid) :
    Sound { desk with books := captureBooks desk.books settlement now } := by
  obtain ⟨mapped, isMapped, isPaid⟩ := Option.map_eq_some_iff.mp paid
  obtain ⟨here, elsewhere⟩ := capture_booked desk.books.store settlement now
  refine sound.rebook fun token row present => ?_
  replace present : (captureTxn desk.books.store settlement now).2.invoice.row token = some row :=
    present
  by_cases asked : token = settlement.externalId
  · subst asked
    rw [present] at here
    have agreed (old : InvoiceRow)
        (before : desk.books.store.invoice.row settlement.externalId = some old) :
        Agrees desk.books settlement.externalId old mapped := by
      rcases sound.booked _ old before with ⟨mapped', isMapped', agrees⟩ | ⟨gone, -⟩
      · cases isMapped.symm.trans isMapped'
        exact agrees
      · rw [gone.1] at isMapped
        cases isMapped
    generalize before : desk.books.store.invoice.row settlement.externalId = earlier at here
    cases here with
    | again row isSettled =>
        exact .inl ⟨mapped, isMapped, (agreed row before).rebook (.refl row) rfl fun _ => isPaid⟩
    | booked old row same settled =>
        exact .inl ⟨mapped, isMapped, (agreed old before).rebook same rfl fun _ => isPaid⟩
  · rw [elsewhere token asked] at present
    rcases sound.booked token row present with ⟨mapped', isMapped', agrees⟩ | gone
    · exact .inl ⟨mapped', isMapped', agrees.rebook (.refl row) rfl agrees.paid⟩
    · exact .inr gone

/-! ### Marks and collections -/

/-- A marked row is the row there was, or an OPEN one in its new status. -/
theorem mark_row {map : ReceiveMap} {operation credited : ℕ} {status : Status} {settledAt : Option ℤ}
    {externalId : ExternalId} {row : Row}
    (found : (mark map operation status credited settledAt).row externalId = some row) :
    ∃ old, map.row externalId = some old ∧ row.invoice = old.invoice ∧
      (row = old ∨ old.status = .opened ∧ old.invoice.id = operation ∧ row.status = status) := by
  unfold mark at found
  rw [Table.update_row] at found
  obtain ⟨old, present, rfl⟩ := Option.map_eq_some_iff.mp found
  refine ⟨old, present, ?_⟩
  split_ifs with open_
  · exact ⟨rfl, .inr ⟨open_.2, open_.1, rfl⟩⟩
  · exact ⟨rfl, .inl rfl⟩

/-- A row stays with its invoice, and in its status once it left OPEN. -/
theorem mark_keeps {map : ReceiveMap} (operation credited : ℕ) (status : Status)
    (settledAt : Option ℤ) {externalId : ExternalId} {old : Row}
    (present : map.row externalId = some old) :
    ∃ row, (mark map operation status credited settledAt).row externalId = some row ∧
      row.invoice = old.invoice ∧ (old.status ≠ .opened → row.status = old.status) := by
  unfold mark
  rw [Table.update_row, present]
  refine ⟨_, rfl, ?_⟩
  simp only
  split_ifs with open_
  · exact ⟨rfl, fun marked => absurd open_.2 marked⟩
  · exact ⟨rfl, fun _ => rfl⟩

theorem mark_none {map : ReceiveMap} {operation credited : ℕ} {status : Status}
    {settledAt : Option ℤ} {externalId : ExternalId} :
    (mark map operation status credited settledAt).row externalId = none ↔
      map.row externalId = none := by
  unfold mark
  rw [Table.update_row, Option.map_eq_none_iff]

theorem Sound.marked {desk : Desk} (sound : Sound desk) {operation : ℕ} {state : Operation}
    {credited : Option ℕ} {status : Status} (known : desk.operations.row operation = some state)
    (terminal : terminalStatus state credited = some status) (amount : ℕ) (settledAt : Option ℤ) :
    Sound { desk with map := mark desk.map operation status amount settledAt } where
  tracks externalId row found := by
    obtain ⟨old, present, invoice, rfl | ⟨-, same, marked⟩⟩ := mark_row found
    · exact sound.tracks externalId row present
    · refine ⟨fun canceled => ?_, ?_⟩
      · rw [marked] at canceled
        subst canceled
        rw [ExpiredAt, invoice, same, known]
        cases state <;> cases credited <;> simp [terminalStatus] at terminal ⊢
      · rw [invoice]
        exact (sound.tracks externalId old present).known
  booked externalId row found := by
    rcases sound.booked externalId row found with ⟨mapped, isMapped, agrees⟩ | ⟨gone, unsettled⟩
    · obtain ⟨row', found', invoice, stays⟩ :=
        mark_keeps operation amount status settledAt isMapped
      refine .inl ⟨row', found', ⟨?_, ?_, fun settled => ?_⟩⟩
      · rw [invoice]
        exact agrees.named
      · rw [invoice]
        exact agrees.window
      · have paid := agrees.paid settled
        rw [stays (by rw [paid]; simp), paid]
    · exact .inr ⟨⟨mark_none.mpr gone.1, gone.2⟩, unsettled⟩
  last externalId row found := by
    obtain ⟨old, present, invoice, -⟩ := mark_row found
    rw [invoice]
    exact sound.last externalId old present
  absent externalId invoice member absent :=
    sound.absent externalId invoice member (mark_none.mp absent)
  handed externalId invoice member := by
    refine (sound.handed externalId invoice member).imp_left ?_
    rintro ⟨old, present, rfl⟩
    obtain ⟨row, found, same, -⟩ := mark_keeps operation amount status settledAt present
    exact ⟨row, found, same⟩
  turn turn holds := by
    have fits := sound.turn turn holds
    have vacant {externalId : ExternalId} (isVacant : Vacant desk.map externalId) :
        Vacant (mark desk.map operation status amount settledAt) externalId := by
      intro row found
      obtain ⟨old, present, -, rfl | ⟨opened, -⟩⟩ := mark_row found
      · exact isVacant row present
      · have canceled := isVacant old present
        rw [opened] at canceled
        cases canceled
    unfold Turn.Fits at fits ⊢
    cases stage : turn.stage with
    | minting =>
        simp only [stage] at fits ⊢
        exact vacant fits
    | committing invoice minted =>
        simp only [stage] at fits ⊢
        cases minted with
        | true => exact ⟨vacant fits.1, fits.2⟩
        | false =>
            rcases fits with ⟨old, present, rfl⟩ | ⟨expired, gone⟩
            · obtain ⟨row, found, same, -⟩ := mark_keeps operation amount status settledAt present
              exact .inl ⟨row, found, same⟩
            · exact .inr ⟨expired, mark_none.mpr gone.1, gone.2⟩

theorem gc_some {map : ReceiveMap} {cutoff : ℤ} {externalId : ExternalId} {row : Row} :
    (gc map cutoff).row externalId = some row ↔
      map.row externalId = some row ∧ ¬ Collects cutoff row :=
  map.delete_row_eq_some _ externalId row

theorem gc_none {map : ReceiveMap} {cutoff : ℤ} {externalId : ExternalId} :
    (gc map cutoff).row externalId = none ↔
      ∀ row, map.row externalId = some row → Collects cutoff row :=
  map.delete_row_eq_none _ externalId

/-- What the collector takes from a token. -/
theorem gc_gone {desk : Desk} {cutoff : ℤ} {externalId : ExternalId} {row : Row}
    (found : desk.map.row externalId = some row) (collects : Collects cutoff row) :
    Gone (gc desk.map cutoff)
      (desk.collected ∪ { token | ∃ row ∈ desk.map.row token, Collects cutoff row }) externalId := by
  refine ⟨gc_none.mpr fun other found' => ?_, .inr ⟨row, found, collects⟩⟩
  cases found.symm.trans found'
  exact collects

theorem sound_gc {desk : Desk} (sound : Sound desk) (cutoff : ℤ) :
    Sound (desk.step (.gc cutoff)) where
  tracks externalId row found := sound.tracks externalId row (gc_some.mp found).1
  booked externalId row found := by
    rcases sound.booked externalId row found with ⟨mapped, isMapped, agrees⟩ | ⟨gone, unsettled⟩
    · by_cases collects : Collects cutoff mapped
      · refine .inr ⟨gc_gone isMapped collects, fun settled => ?_⟩
        have paid := agrees.paid settled
        rw [collects.1] at paid
        cases paid
      · exact .inl ⟨mapped, gc_some.mpr ⟨isMapped, collects⟩, agrees⟩
    · refine .inr ⟨⟨gc_none.mpr fun row found => ?_, .inl gone.2⟩, unsettled⟩
      rw [gone.1] at found
      cases found
  last externalId row found := sound.last externalId row (gc_some.mp found).1
  absent externalId invoice member absent := by
    cases found : desk.map.row externalId with
    | none => exact .inl (sound.absent externalId invoice member found)
    | some row => exact .inr ⟨row, found, gc_none.mp absent row found⟩
  handed externalId invoice member := by
    rcases sound.handed externalId invoice member with ⟨row, found, rfl⟩ | expired
    · by_cases collects : Collects cutoff row
      · exact .inr ((sound.tracks externalId row found).canceled collects.1)
      · exact .inl ⟨row, gc_some.mpr ⟨found, collects⟩, rfl⟩
    · exact .inr expired
  turn turn holds := by
    have fits := sound.turn turn holds
    have vacant {externalId : ExternalId} (isVacant : Vacant desk.map externalId) :
        Vacant (gc desk.map cutoff) externalId :=
      fun row found => isVacant row (gc_some.mp found).1
    unfold Turn.Fits at fits ⊢
    cases stage : turn.stage with
    | minting =>
        simp only [stage] at fits ⊢
        exact vacant fits
    | committing invoice minted =>
        simp only [stage] at fits ⊢
        cases minted with
        | true => exact ⟨vacant fits.1, fits.2⟩
        | false =>
            rcases fits with ⟨row, found, rfl⟩ | ⟨expired, gone⟩
            · by_cases collects : Collects cutoff row
              · exact .inr ⟨(sound.tracks _ row found).canceled collects.1, gc_gone found collects⟩
              · exact .inl ⟨row, gc_some.mpr ⟨found, collects⟩, rfl⟩
            · refine .inr ⟨expired, gc_none.mpr fun row found => ?_, .inl gone.2⟩
              rw [gone.1] at found
              cases found

/-! ### The commit -/

section Commit

variable {desk : Desk} {externalId : ExternalId} {invoice : Invoice}

theorem idxInsert_vacant {map : ReceiveMap} (vacant : Vacant map externalId) (invoice : Invoice) :
    idxInsert map externalId invoice = some (map.put externalId (.fresh invoice)) := by
  unfold idxInsert
  cases found : map.row externalId with
  | none => rfl
  | some row => simp only [if_pos (vacant row found)]

/-- Where nothing but a CANCELED row stands, no money was booked. -/
theorem Vacant.unsettled (sound : Sound desk) (vacant : Vacant desk.map externalId) :
    ¬ Received desk.books.store externalId := by
  rintro ⟨row, found, settled⟩
  rcases sound.booked externalId row found with ⟨mapped, isMapped, agrees⟩ | ⟨-, unsettled⟩
  · have paid := agrees.paid settled
    rw [vacant mapped isMapped] at paid
    cases paid
  · exact unsettled settled

/-- The books after a commit that wrote the row of the token. -/
theorem booked_wrote {map : ReceiveMap} {collected : Set ExternalId} {books : Books}
    {written : InvoiceRow} (wrote : Wrote written invoice)
    (put : books.store.invoice = desk.books.store.invoice.put externalId written)
    (hashes : books.hashes = desk.books.hashes.put externalId invoice.paymentHash)
    (here : (∃ mapped, map.row externalId = some mapped ∧ mapped.invoice = invoice) ∨
      Gone map collected externalId)
    (elsewhere : ∀ token ≠ externalId, ∀ row, desk.books.store.invoice.row token = some row →
      (∃ mapped, map.row token = some mapped ∧ Agrees desk.books token row mapped) ∨
        Gone map collected token ∧ ¬ Settled row)
    (token : ExternalId) (row : InvoiceRow) (found : books.store.invoice.row token = some row) :
    (∃ mapped, map.row token = some mapped ∧ Agrees books token row mapped) ∨
      Gone map collected token ∧ ¬ Settled row := by
  rw [put] at found
  by_cases asked : token = externalId
  · subst asked
    rw [Table.put_row_self] at found
    cases found
    rcases here with ⟨mapped, isMapped, rfl⟩ | gone
    · refine .inl ⟨mapped, isMapped, ⟨wrote.carries, ?_⟩, wrote.expiry, fun settled =>
        absurd settled wrote.not_settled⟩
      rw [hashes, Table.put_row_self]
    · exact .inr ⟨gone, wrote.not_settled⟩
  · rw [Table.put_row_other _ _ asked] at found
    rcases elsewhere token asked row found with ⟨mapped, isMapped, agrees⟩ | gone
    · refine .inl ⟨mapped, isMapped, ⟨agrees.named.1, ?_⟩, agrees.window, agrees.paid⟩
      rw [hashes, Table.put_row_other _ _ asked]
      exact agrees.named.2
    · exact .inr gone

/-- **A commit that inserted a fresh row** keeps the invariant. -/
theorem Sound.inserted (sound : Sound desk) (vacant : Vacant desk.map externalId)
    (known : desk.operations.row invoice.id ≠ none) {books : Books} {written : InvoiceRow}
    (wrote : Wrote written invoice)
    (put : books.store.invoice = desk.books.store.invoice.put externalId written)
    (hashes : books.hashes = desk.books.hashes.put externalId invoice.paymentHash) :
    Sound { desk with
      books, map := desk.map.put externalId (.fresh invoice)
      handed := (externalId, invoice) :: desk.handed, collected := desk.collected \ {externalId}
      turn := none } where
  tracks token row found := by
    simp only [Table.put_row] at found
    split_ifs at found
    · cases found
      exact ⟨fun canceled => (by cases canceled), known⟩
    · exact sound.tracks token row found
  booked := by
    refine booked_wrote wrote put hashes (.inl ⟨_, Table.put_row_self _ _ _, rfl⟩) ?_
    intro token asked row found
    refine (sound.booked token row found).imp ?_ ?_
    · rintro ⟨mapped, isMapped, agrees⟩
      exact ⟨mapped, (Table.put_row_other _ _ asked).trans isMapped, agrees⟩
    · rintro ⟨gone, unsettled⟩
      exact ⟨⟨(Table.put_row_other _ _ asked).trans gone.1, gone.2, asked⟩, unsettled⟩
  last token row found := by
    by_cases asked : token = externalId
    · subst asked
      simp only [Table.put_row_self] at found
      cases found
      exact Versions.latest_cons_self _ _ _
    · simp only [Table.put_row_other _ _ asked] at found
      rw [Versions.latest_cons_other _ _ asked]
      exact sound.last token row found
  absent token old member absent := by
    by_cases asked : token = externalId
    · subst asked
      simp at absent
    · simp only [Table.put_row_other _ _ asked] at absent
      rcases List.mem_cons.mp member with same | earlier
      · cases same
        exact absurd rfl asked
      · exact ⟨sound.absent token old earlier absent, asked⟩
  handed token old member := by
    rcases List.mem_cons.mp member with same | earlier
    · cases same
      exact .inl ⟨_, Table.put_row_self _ _ _, rfl⟩
    · rcases sound.handed token old earlier with ⟨row, found, rfl⟩ | expired
      · by_cases asked : token = externalId
        · subst asked
          exact .inr ((sound.tracks token row found).canceled (vacant row found))
        · exact .inl ⟨row, (Table.put_row_other _ _ asked).trans found, rfl⟩
      · exact .inr expired
  turn next holds := by cases holds

/-- **A commit that handed the invoice of the row out again** keeps the invariant. -/
theorem Sound.again (sound : Sound desk) (ready : Ready desk externalId invoice false)
    {books : Books}
    (booked : ∀ token row, books.store.invoice.row token = some row →
      (∃ mapped, desk.map.row token = some mapped ∧ Agrees books token row mapped) ∨
        Gone desk.map desk.collected token ∧ ¬ Settled row) :
    Sound { desk with
      books, handed := (externalId, invoice) :: desk.handed, turn := none } where
  tracks := sound.tracks
  booked := booked
  last token row found := by
    by_cases asked : token = externalId
    · subst asked
      rw [Versions.latest_cons_self]
      rcases ready with ⟨mapped, isMapped, rfl⟩ | ⟨-, gone⟩
      · cases isMapped.symm.trans found
        rfl
      · rw [gone.1] at found
        cases found
    · rw [Versions.latest_cons_other _ _ asked]
      exact sound.last token row found
  absent token old member absent := by
    rcases List.mem_cons.mp member with same | earlier
    · cases same
      rcases ready with ⟨mapped, isMapped, -⟩ | ⟨-, gone⟩
      · rw [isMapped] at absent
        cases absent
      · exact gone.2
    · exact sound.absent token old earlier absent
  handed token old member := by
    rcases List.mem_cons.mp member with same | earlier
    · cases same
      exact ready.imp_right And.left
    · exact sound.handed token old earlier
  turn next holds := by cases holds

end Commit

/-- The books left alone agree with the map as before. -/
theorem Sound.same_books {desk : Desk} (sound : Sound desk) {books : Books}
    (rows : books.store.invoice = desk.books.store.invoice) (hashes : books.hashes = desk.books.hashes)
    (token : ExternalId) (row : InvoiceRow) (found : books.store.invoice.row token = some row) :
    (∃ mapped, desk.map.row token = some mapped ∧ Agrees books token row mapped) ∨
      Gone desk.map desk.collected token ∧ ¬ Settled row := by
  rw [rows] at found
  refine (sound.booked token row found).imp_left ?_
  rintro ⟨mapped, isMapped, agrees⟩
  exact ⟨mapped, isMapped, agrees.rebook (.refl row) hashes agrees.paid⟩

theorem sound_commit {desk : Desk} (sound : Sound desk) {turn : Turn} {invoice : Invoice}
    {minted : Bool} (ready : Ready desk turn.placement.externalId invoice minted) (persists : Bool) :
    Sound (desk.commit turn invoice minted persists) := by
  unfold Desk.commit
  dsimp only
  have committed := commit_committed turn.placement desk.books invoice
    (persists && (if minted then idxInsert desk.map turn.placement.externalId invoice
      else some desk.map).isSome)
  generalize turn.placement.commit desk.books invoice _ = outcome at committed ⊢
  generalize turn.placement.externalId = externalId at ready committed ⊢
  obtain ⟨ran, books⟩ := outcome
  cases committed with
  | refused rows hashes =>
      have idle (next : Turn) (holds : none = some next) : next.Fits { desk with books } := by
        cases holds
      simpa using (sound.rebook (sound.same_books rows hashes)).hold idle
  | confirmed goes received rows hashes =>
      cases minted with
      | true => exact absurd received (ready.1.unsettled sound)
      | false => simpa using sound.again ready (sound.same_books rows hashes)
  | @wrote _ written goes fresh wrote put hashes =>
      cases minted with
      | true =>
          simpa [idxInsert_vacant ready.1] using sound.inserted ready.1 ready.2 wrote put hashes
      | false =>
          have here : (∃ mapped, desk.map.row externalId = some mapped ∧ mapped.invoice = invoice) ∨
              Gone desk.map desk.collected externalId := ready.imp_right And.right
          simpa using sound.again ready
            (booked_wrote wrote put hashes here fun token _ row found => sound.booked token row found)

/-! ### Every step -/

/-- **Every step keeps the invariant.** -/
theorem sound_step (desk : Desk) (action : DeskAction) (sound : Sound desk) :
    Sound (desk.step action) := by
  cases action with
  | issue placement amountSat expiryS =>
      simp only [Desk.step]
      split
      · exact sound
      · refine sound.hold fun next holds => ?_
        cases holds
        unfold Turn.Fits readStage
        cases found : desk.map.row placement.externalId with
        | none =>
            rintro row present
            rw [found] at present
            cases present
        | some row =>
            by_cases canceled : row.status = .canceled
            · simp only [if_pos canceled]
              rintro other present
              cases found.symm.trans present
              exact canceled
            · simp only [if_neg canceled]
              exact .inl ⟨row, found, rfl⟩
  | minted operation paymentHash bolt11 now =>
      simp only [Desk.step]
      split
      · rename_i placement amountSat expiryS holds
        split_ifs with unused
        · refine (sound.operate .pending (by rw [unused]; simp)).hold fun next decided => ?_
          cases decided
          exact ⟨sound.turn _ holds, by simp⟩
        · exact sound
      · exact sound
  | dropped => exact sound.hold (by simp)
  | commit persists =>
      simp only [Desk.step]
      split
      · rename_i placement amountSat expiryS invoice minted holds
        exact sound_commit sound (sound.turn _ holds) persists
      · exact sound
  | orphaned operation =>
      simp only [Desk.step]
      split_ifs with unused
      · exact sound.operate .pending (by rw [unused]; simp)
      · exact sound
  | ended operation state =>
      simp only [Desk.step]
      split_ifs with pending
      · exact sound.operate state (by rw [pending]; simp)
      · exact sound
  | mark operation credited settledAt =>
      simp only [Desk.step]
      split
      · exact sound
      · rename_i status marked
        obtain ⟨state, known, terminal⟩ := Option.bind_eq_some_iff.mp marked
        exact sound.marked known terminal _ settledAt
  | gc cutoff => exact sound_gc sound cutoff
  | book step => exact sound_book sound step
  | capture settlement now =>
      simp only [Desk.step]
      split_ifs with paid
      · exact sound_capture sound paid
      · exact sound

end Lnrent.Lnv2Receive
