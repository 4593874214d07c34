/-
**One external id, one live invoice.** Capture keys on the external id alone, so a second payable
bolt11 under one id would swallow a buyer's money. For either backend, in every state its desk reaches:

* `Sound.one_live` — two invoices handed out for one id that can still be paid, or were, are the same;
* `Sound.paid_stays` — a paid one is the effective map row, then and ever after;
* `Sound.holder` — whatever amount it was asked for, an invoice about to be committed is the
  payable one that was handed out, if there is one; none is being created then;
* `one_live_invoice` — **all of it**, with the map row being the invoice handed out last.
-/

import Lnrent.Receive.Agreement

/-! ### phoenixd -/

namespace Lnrent.PhoenixdReceive

open Relational Receive Transition

/-- The bolt11 of the hash is paid, or can still be. -/
def LiveAt (node : Table ℕ Incoming) (hash : ℕ) : Prop :=
  ∃ record ∈ node.row hash, record.isPaid = true ∨ record.isExpired = false

theorem not_dead_of_live {node : Table ℕ Incoming} {hash : ℕ} (live : LiveAt node hash) :
    ¬ DeadAt node hash := by
  rintro ⟨record, found, unpaid, expired⟩
  obtain ⟨other, found', alive⟩ := live
  cases (Option.mem_def.mp found).symm.trans found'
  rw [unpaid, expired] at alive
  simp at alive

section Sound

variable {desk : Desk} (sound : Sound desk) {externalId : ExternalId}

include sound

/-- A live invoice that was handed out is the newest map row. -/
theorem Sound.newest_of_live {invoice : Invoice} (member : (externalId, invoice) ∈ desk.handed)
    (live : LiveAt desk.node invoice.paymentHash) :
    ∃ newest, idxGetInvoice desk.map externalId = some newest ∧
      newest.paymentHash = invoice.paymentHash := by
  obtain ⟨-, kept, mapped, hash⟩ := sound.handed externalId invoice member
  obtain ⟨newest, current⟩ := Versions.exists_latest mapped
  refine ⟨newest, current, ?_⟩
  rcases sound.older externalId kept newest mapped current with same | dead
  · exact same.symm.trans hash
  · rw [hash] at dead
    exact absurd dead (not_dead_of_live live)

/-- **Two live invoices of one id** have one id, hash and bolt11. -/
theorem Sound.one_live {first second : Invoice} (handed : (externalId, first) ∈ desk.handed)
    (again : (externalId, second) ∈ desk.handed) (live : LiveAt desk.node first.paymentHash)
    (live' : LiveAt desk.node second.paymentHash) :
    first.id = second.id ∧ first.paymentHash = second.paymentHash ∧ first.bolt11 = second.bolt11 := by
  obtain ⟨newest, current, hash⟩ := sound.newest_of_live handed live
  obtain ⟨newest', current', hash'⟩ := sound.newest_of_live again live'
  cases current.symm.trans current'
  have same := hash.symm.trans hash'
  obtain ⟨id, record, found, -, bolt11, -⟩ := (sound.handed externalId first handed).1
  obtain ⟨id', record', found', -, bolt11', -⟩ := (sound.handed externalId second again).1
  rw [same] at found
  cases found.symm.trans found'
  exact ⟨id.trans (same ▸ id'.symm), same, bolt11.symm.trans bolt11'⟩

/-- **The holder of the lock** commits the live invoice that was handed out, and creates none beside
it. -/
theorem Sound.holder {turn : Turn} (holds : desk.turn = some turn) {handed : Invoice}
    (member : (turn.placement.externalId, handed) ∈ desk.handed)
    (live : LiveAt desk.node handed.paymentHash) :
    (∀ expiresAt, turn.stage ≠ .creating expiresAt) ∧
      ∀ invoice, turn.stage = .committing invoice → invoice.id = handed.id ∧
        invoice.paymentHash = handed.paymentHash ∧ invoice.bolt11 = handed.bolt11 := by
  have fits := sound.turn turn holds
  obtain ⟨newest, current, hash⟩ := sound.newest_of_live member live
  have alive : ¬ DeadAt desk.node newest.paymentHash := by
    rw [hash]
    exact not_dead_of_live live
  refine ⟨fun expiresAt stage => ?_, fun invoice stage => ?_⟩
  · simp only [Turn.Fits, stage] at fits
    exact alive (fits newest current)
  · simp only [Turn.Fits, stage] at fits
    have ready := fits
    cases fits with
    | again current' same later =>
        cases current.symm.trans current'
        have sameHash : invoice.paymentHash = handed.paymentHash := by rw [same]; exact hash
        obtain ⟨id, record, found, -, bolt11, -⟩ := ready.known sound
        obtain ⟨id', record', found', -, bolt11', -⟩ := (sound.handed _ handed member).1
        rw [sameHash] at found
        cases found.symm.trans found'
        exact ⟨id.trans (sameHash ▸ id'.symm), sameHash, bolt11.symm.trans bolt11'⟩
    | fresh known unmapped dead => exact absurd (dead newest current) alive

end Sound

/-- What was handed out stays on record, and phoenixd's records only grow. -/
theorem grows_step (desk : Desk) (action : DeskAction) :
    Grows desk.node (desk.step action).node ∧
      ∀ pair ∈ desk.handed, pair ∈ (desk.step action).handed := by
  cases action with
  | commit persists =>
      simp only [Desk.step]
      split
      · refine ⟨.refl _, fun pair member => ?_⟩
        simp only [Desk.commit]
        split_ifs
        · exact List.mem_cons_of_mem _ member
        · exact member
      · exact ⟨.refl _, fun _ member => member⟩
  | created answer expiresAtMs =>
      simp only [Desk.step]
      split
      · split_ifs with unused
        · exact ⟨grows_insert _ unused, fun _ member => member⟩
        · exact ⟨.refl _, fun _ member => member⟩
      · exact ⟨.refl _, fun _ member => member⟩
  | landed hash record =>
      simp only [Desk.step]
      split_ifs with unused
      · exact ⟨grows_insert _ unused, fun _ member => member⟩
      · exact ⟨.refl _, fun _ member => member⟩
  | lapsed hash =>
      simp only [Desk.step]
      split
      · exact ⟨.refl _, fun _ member => member⟩
      · rename_i record found
        exact ⟨grows_change found rfl rfl rfl (fun dead => ⟨dead.1, rfl⟩) id, fun _ member => member⟩
  | paid hash receivedSat completedAtMs =>
      simp only [Desk.step]
      split
      · exact ⟨.refl _, fun _ member => member⟩
      · rename_i record found
        split_ifs with payable
        · refine ⟨grows_change found rfl rfl rfl (fun dead => ?_) fun _ => rfl, fun _ member => member⟩
          rw [dead.2] at payable
          cases payable.2
        · exact ⟨.refl _, fun _ member => member⟩
  | _ =>
      simp only [Desk.step]
      repeat' split
      all_goals exact ⟨.refl _, fun _ member => member⟩

/-- A paid invoice that was handed out stays so. -/
theorem paid_run (node : Table ℕ Incoming) {before : Desk} {externalId : ExternalId}
    {invoice : Invoice} (member : (externalId, invoice) ∈ before.handed)
    (paid : PaidAt before.node invoice.paymentHash) (more : List DeskAction) :
    (externalId, invoice) ∈ ((desk node).runFrom before more).handed ∧
      PaidAt ((desk node).runFrom before more).node invoice.paymentHash := by
  have keeps (after : Desk) (action : DeskAction) (_ : True)
      (stays : (externalId, invoice) ∈ after.handed ∧ PaidAt after.node invoice.paymentHash) :
      (externalId, invoice) ∈ ((desk node).step after action).handed ∧
        PaidAt ((desk node).step after action).node invoice.paymentHash :=
    ⟨(grows_step after action).2 _ stays.1, (grows_step after action).1.paid stays.2⟩
  exact (desk node).invariant_from keeps more before ((desk node).meetsFrom_true more before)
    ⟨member, paid⟩

theorem runFrom_sound (node : Table ℕ Incoming) (before : Desk) (sound : Sound before)
    (more : List DeskAction) : Sound ((desk node).runFrom before more) := by
  have keeps (after : Desk) (action : DeskAction) (_ : True) (sound : Sound after) :
      Sound ((desk node).step after action) := sound_step after action sound
  exact (desk node).invariant_from keeps more before ((desk node).meetsFrom_true more before) sound

/-- **A paid invoice is never replaced.** -/
theorem Sound.paid_stays {before : Desk} (sound : Sound before) (node : Table ℕ Incoming)
    {externalId : ExternalId} {invoice : Invoice} (member : (externalId, invoice) ∈ before.handed)
    (paid : PaidAt before.node invoice.paymentHash) (more : List DeskAction) :
    ∃ newest, idxGetInvoice ((desk node).runFrom before more).map externalId = some newest ∧
      newest.paymentHash = invoice.paymentHash := by
  obtain ⟨member', record, found, isPaid⟩ := paid_run node member paid more
  exact (runFrom_sound node before sound more).newest_of_live member' ⟨record, found, .inl isPaid⟩

end Lnrent.PhoenixdReceive

/-! ### lnv2 -/

namespace Lnrent.Lnv2Receive

open Relational Receive Transition

/-- The operation was paid. -/
def PaidAt (operations : Table ℕ Operation) (operation : ℕ) : Prop :=
  operations.row operation = some .claimed ∨ operations.row operation = some .failed

theorem not_expired_of_paid {operations : Table ℕ Operation} {operation : ℕ}
    (paid : PaidAt operations operation) : ¬ ExpiredAt operations operation := by
  unfold ExpiredAt
  rcases paid with claimed | failed
  · simp [claimed]
  · simp [failed]

section Sound

variable {desk : Desk} (sound : Sound desk) {externalId : ExternalId}

include sound

/-- A live invoice that was handed out is the map row. -/
theorem Sound.row_of_live {invoice : Invoice} (member : (externalId, invoice) ∈ desk.handed)
    (live : ¬ ExpiredAt desk.operations invoice.id) :
    ∃ row, desk.map.row externalId = some row ∧ row.invoice = invoice :=
  (sound.handed externalId invoice member).resolve_right live

/-- **Two live invoices of one id** are the same. -/
theorem Sound.one_live {first second : Invoice} (handed : (externalId, first) ∈ desk.handed)
    (again : (externalId, second) ∈ desk.handed) (live : ¬ ExpiredAt desk.operations first.id)
    (live' : ¬ ExpiredAt desk.operations second.id) : first = second := by
  obtain ⟨row, found, rfl⟩ := sound.row_of_live handed live
  obtain ⟨row', found', rfl⟩ := sound.row_of_live again live'
  cases found.symm.trans found'
  rfl

/-- **The holder of the lock** commits the live invoice that was handed out, and mints none beside
it. -/
theorem Sound.holder {turn : Turn} (holds : desk.turn = some turn) {handed : Invoice}
    (member : (turn.placement.externalId, handed) ∈ desk.handed)
    (live : ¬ ExpiredAt desk.operations handed.id) :
    turn.stage ≠ .minting ∧
      ∀ invoice minted, turn.stage = .committing invoice minted → invoice = handed ∧ minted = false := by
  have fits := sound.turn turn holds
  obtain ⟨row, found, rfl⟩ := sound.row_of_live member live
  have standing : ¬ Vacant desk.map turn.placement.externalId := fun vacant =>
    live ((sound.tracks _ row found).canceled (vacant row found))
  refine ⟨fun stage => ?_, fun invoice minted stage => ?_⟩
  · simp only [Turn.Fits, stage] at fits
    exact standing fits
  · simp only [Turn.Fits, stage] at fits
    cases minted with
    | true => exact absurd fits.1 standing
    | false =>
        rcases fits with ⟨row', found', rfl⟩ | ⟨-, gone⟩
        · cases found.symm.trans found'
          exact ⟨rfl, rfl⟩
        · rw [gone.1] at found
          cases found

end Sound

/-- A paid operation stays paid, and what was handed out stays on record. -/
theorem paid_step (desk : Desk) (action : DeskAction) :
    (∀ operation, PaidAt desk.operations operation → PaidAt (desk.step action).operations operation) ∧
      ∀ pair ∈ desk.handed, pair ∈ (desk.step action).handed := by
  have moved {operation : ℕ} (state : Operation)
      (unpaid : ¬ PaidAt desk.operations operation) (other : ℕ)
      (paid : PaidAt desk.operations other) :
      PaidAt (desk.operations.put operation state) other := by
    have different : other ≠ operation := by
      rintro rfl
      exact unpaid paid
    unfold PaidAt at paid ⊢
    rwa [Table.put_row_other _ _ different]
  cases action with
  | commit persists =>
      simp only [Desk.step]
      split
      · refine ⟨fun _ paid => paid, fun pair member => ?_⟩
        simp only [Desk.commit]
        split_ifs
        all_goals first | exact List.mem_cons_of_mem _ member | exact member
      · exact ⟨fun _ paid => paid, fun _ member => member⟩
  | minted operation paymentHash bolt11 now =>
      simp only [Desk.step]
      split
      · split_ifs with unused
        · exact ⟨moved .pending (by simp [PaidAt, unused]), fun _ member => member⟩
        · exact ⟨fun _ paid => paid, fun _ member => member⟩
      · exact ⟨fun _ paid => paid, fun _ member => member⟩
  | orphaned operation =>
      simp only [Desk.step]
      split_ifs with unused
      · exact ⟨moved .pending (by simp [PaidAt, unused]), fun _ member => member⟩
      · exact ⟨fun _ paid => paid, fun _ member => member⟩
  | ended operation state =>
      simp only [Desk.step]
      split_ifs with pending
      · exact ⟨moved state (by simp [PaidAt, pending]), fun _ member => member⟩
      · exact ⟨fun _ paid => paid, fun _ member => member⟩
  | _ =>
      simp only [Desk.step]
      repeat' split
      all_goals exact ⟨fun _ paid => paid, fun _ member => member⟩

/-- **A paid invoice is never replaced.** -/
theorem Sound.paid_stays {before : Desk} (sound : Sound before) (operations : Table ℕ Operation)
    {externalId : ExternalId} {invoice : Invoice} (member : (externalId, invoice) ∈ before.handed)
    (paid : PaidAt before.operations invoice.id) (more : List DeskAction) :
    ∃ row, ((desk operations).runFrom before more).map.row externalId = some row ∧
      row.invoice = invoice := by
  have keeps (after : Desk) (action : DeskAction) (_ : True)
      (stays : Sound after ∧ (externalId, invoice) ∈ after.handed ∧
        PaidAt after.operations invoice.id) :
      Sound ((desk operations).step after action) ∧
        (externalId, invoice) ∈ ((desk operations).step after action).handed ∧
          PaidAt ((desk operations).step after action).operations invoice.id :=
    ⟨sound_step after action stays.1, (paid_step after action).2 _ stays.2.1,
      (paid_step after action).1 _ stays.2.2⟩
  obtain ⟨later, member', paid'⟩ := (desk operations).invariant_from keeps more before
    ((desk operations).meetsFrom_true more before) ⟨sound, member, paid⟩
  exact later.row_of_live member' (not_expired_of_paid paid')

end Lnrent.Lnv2Receive

/-! ### Both backends -/

namespace Lnrent.Receive

open Relational Transition

/-- **One external id never has two live invoices**, at phoenixd and at lnv2. In every state a run of
the desk reaches: two invoices handed out for one id that are paid or can still be paid are one; a paid
one is the effective map row ever after; the effective map row is the invoice handed out last; and a
call under way for that id, whatever amount it asks for, creates nothing while the invoice handed out
is live, and commits nothing but that invoice. -/
theorem one_live_invoice :
    (∀ (node : Table ℕ PhoenixdReceive.Incoming) (actions : List PhoenixdReceive.DeskAction),
      let desk := (PhoenixdReceive.desk node).run actions
      (∀ token first second, (token, first) ∈ desk.handed → (token, second) ∈ desk.handed →
        PhoenixdReceive.LiveAt desk.node first.paymentHash →
        PhoenixdReceive.LiveAt desk.node second.paymentHash →
        first.id = second.id ∧ first.paymentHash = second.paymentHash ∧
          first.bolt11 = second.bolt11) ∧
      (∀ token invoice, (token, invoice) ∈ desk.handed →
        PhoenixdReceive.PaidAt desk.node invoice.paymentHash → ∀ more, ∃ newest,
          PhoenixdReceive.idxGetInvoice ((PhoenixdReceive.desk node).runFrom desk more).map token =
            some newest ∧ newest.paymentHash = invoice.paymentHash) ∧
      (∀ token, PhoenixdReceive.idxGetInvoice desk.map token = Versions.latest desk.handed token) ∧
      ∀ turn, desk.turn = some turn → ∀ handed, (turn.placement.externalId, handed) ∈ desk.handed →
        PhoenixdReceive.LiveAt desk.node handed.paymentHash →
        (∀ expiresAt, turn.stage ≠ .creating expiresAt) ∧
          ∀ invoice, turn.stage = .committing invoice → invoice.id = handed.id ∧
            invoice.paymentHash = handed.paymentHash ∧ invoice.bolt11 = handed.bolt11) ∧
    ∀ (operations : Table ℕ Lnv2Receive.Operation) (actions : List Lnv2Receive.DeskAction),
      let desk := (Lnv2Receive.desk operations).run actions
      (∀ token first second, (token, first) ∈ desk.handed → (token, second) ∈ desk.handed →
        ¬ Lnv2Receive.ExpiredAt desk.operations first.id →
        ¬ Lnv2Receive.ExpiredAt desk.operations second.id → first = second) ∧
      (∀ token invoice, (token, invoice) ∈ desk.handed →
        Lnv2Receive.PaidAt desk.operations invoice.id → ∀ more, ∃ row,
          ((Lnv2Receive.desk operations).runFrom desk more).map.row token = some row ∧
            row.invoice = invoice) ∧
      (∀ token, (∃ row, desk.map.row token = some row ∧
          Versions.latest desk.handed token = some row.invoice) ∨
        desk.map.row token = none ∧
          (Versions.latest desk.handed token = none ∨ token ∈ desk.collected)) ∧
      ∀ turn, desk.turn = some turn → ∀ handed, (turn.placement.externalId, handed) ∈ desk.handed →
        ¬ Lnv2Receive.ExpiredAt desk.operations handed.id →
        turn.stage ≠ .minting ∧ ∀ invoice minted, turn.stage = .committing invoice minted →
          invoice = handed ∧ minted = false := by
  refine ⟨fun node actions => ?_, fun operations actions => ?_⟩
  · have sound := PhoenixdReceive.sound_run node actions
    exact ⟨fun _ _ _ handed again live live' => sound.one_live handed again live live',
      fun _ _ member paid => sound.paid_stays node member paid, fun token => (sound.last token).symm,
      fun _ holds _ member live => sound.holder holds member live⟩
  · have sound := Lnv2Receive.sound_run operations actions
    refine ⟨fun _ _ _ handed again live live' => sound.one_live handed again live live',
      fun _ _ member paid => sound.paid_stays operations member paid, fun token => ?_,
      fun _ holds _ member live => sound.holder holds member live⟩
    cases found : ((Lnv2Receive.desk operations).run actions).map.row token with
    | some row => exact .inl ⟨row, rfl, sound.last token row found⟩
    | none =>
        refine .inr ⟨rfl, ?_⟩
        cases last : Versions.latest ((Lnv2Receive.desk operations).run actions).handed token with
        | none => exact .inl rfl
        | some invoice => exact .inr (sound.absent token invoice (Versions.mem_of_latest last) found)

end Lnrent.Receive
