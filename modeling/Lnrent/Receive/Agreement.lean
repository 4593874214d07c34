/-
**The books and the receive maps never disagree.** For either backend and every run of issues,
commits, marks, expiries, captures, collections and reaps:

* `Consistent` — an invoice row that took no money is the effective map row of its external id, in id,
  payment hash, bolt11, amount and window, unless the collector took that map row;
* `Frozen` — a row that took money never changes in these columns again;
* `Confirmed` — a map row that was created or replaced names the book row behind the same transaction;
* `books_and_map_agree` — **all three**, in every state either desk reaches.
-/

import Lnrent.Phoenixd.ReceiveMap
import Lnrent.Lnv2.ReceiveMap

namespace Lnrent.Receive

open Relational Capture Transition

/-! ### What the claim is about -/

/-- **No unpaid row disagrees** with the effective map row of its token. -/
def Consistent (books : Books) (effective : ExternalId → Option Invoice) (collected : Set ExternalId) :
    Prop :=
  ∀ token row, books.store.invoice.row token = some row → ¬ Settled row → token ∉ collected →
    ∃ invoice, effective token = some invoice ∧ Named books token row invoice ∧
      row.expiresAt = some invoice.expiresAt

/-- **A row that took money stays as it is**: id, bolt11, amount, window and payment hash. -/
def Frozen (before after : Books) : Prop :=
  ∀ token row, before.store.invoice.row token = some row → Settled row →
    ∃ later, after.store.invoice.row token = some later ∧ Settled later ∧ SameInvoice row later ∧
      after.hashes.row token = before.hashes.row token

/-- **The book row of a token is the given invoice**: just written with its window, or confirmed as
having taken money for it. -/
def Confirmed (books : Books) (token : ExternalId) (invoice : Invoice) : Prop :=
  ∃ row, books.store.invoice.row token = some row ∧ Named books token row invoice ∧
    (¬ Settled row → row.expiresAt = some invoice.expiresAt)

/-! ### Rows that took money -/

theorem Frozen.refl (books : Books) : Frozen books books :=
  fun _ row found settled => ⟨row, found, settled, .refl row, rfl⟩

theorem Frozen.trans {first second third : Books} (left : Frozen first second)
    (right : Frozen second third) : Frozen first third := by
  intro token row found settled
  obtain ⟨later, found', settled', same, hash⟩ := left token row found settled
  obtain ⟨last, found'', settled'', same', hash'⟩ := right token later found' settled'
  exact ⟨last, found'', settled'', same.trans same', hash'.trans hash⟩

theorem frozen_apply (books : Books) (step : BookStep) : Frozen books (books.apply step) := by
  intro token row found settled
  obtain ⟨later, found', same, settled'⟩ := (run_kept step books.store token).of_settled found settled
  exact ⟨later, found', settled', same, rfl⟩

theorem frozen_capture (books : Books) (settlement : Settlement) (now : ℤ) :
    Frozen books (captureBooks books settlement now) := by
  intro token row found settled
  obtain ⟨here, elsewhere⟩ := capture_booked books.store settlement now
  by_cases asked : token = settlement.externalId
  · subst asked
    rw [found] at here
    generalize result : (captureTxn books.store settlement now).2.invoice.row settlement.externalId =
      after at here
    cases here with
    | again row paid => exact ⟨row, result, settled, .refl row, rfl⟩
    | booked row later same booked => exact ⟨later, result, booked, same, rfl⟩
  · exact ⟨row, (elsewhere token asked).trans found, settled, .refl row, rfl⟩

theorem Committed.frozen {books after : Books} {token : ExternalId} {invoice : Invoice}
    {persists ran : Bool} (committed : Committed books token invoice persists ran after) :
    Frozen books after := by
  intro other row found settled
  cases committed with
  | refused kept hashes => exact ⟨row, by rw [kept, found], settled, .refl row, by rw [hashes]⟩
  | confirmed goes received kept hashes =>
      exact ⟨row, by rw [kept, found], settled, .refl row, by rw [hashes]⟩
  | wrote goes fresh wrote put hashes =>
      have different : other ≠ token := by
        rintro rfl
        exact fresh ⟨row, found, settled⟩
      exact ⟨row, by rw [put, Table.put_row_other _ _ different, found], settled, .refl row,
        by rw [hashes, Table.put_row_other _ _ different]⟩

/-- A commit that ran the closure leaves a book row under its token. -/
theorem Committed.present {books after : Books} {token : ExternalId} {invoice : Invoice}
    {persists : Bool} (committed : Committed books token invoice persists true after) :
    ∃ row, after.store.invoice.row token = some row := by
  cases committed with
  | confirmed goes received kept hashes =>
      obtain ⟨row, found, -⟩ := received
      exact ⟨row, by rw [kept]; exact found⟩
  | wrote goes fresh wrote put hashes => exact ⟨_, by rw [put, Table.put_row_self]⟩

/-- The books of a fresh database. -/
def Books.empty : Books := ⟨Store.empty, Table.empty⟩

end Lnrent.Receive

/-! ### phoenixd -/

namespace Lnrent.PhoenixdReceive

open Relational Receive Capture Transition

/-- A fresh database beside a phoenixd that may have records already. -/
def Desk.fresh (node : Table ℕ Incoming) : Desk := ⟨.empty, [], node, none, []⟩

/-- **The desk as a machine.** -/
def desk (node : Table ℕ Incoming) : Machine Desk DeskAction := ⟨.fresh node, Desk.step⟩

theorem sound_run (node : Table ℕ Incoming) (actions : List DeskAction) :
    Sound ((desk node).run actions) := by
  refine (desk node).invariant ?_ sound_step actions
  refine ⟨?_, ?_, ?_, ?_, ?_, ?_, ?_⟩ <;> simp [desk, Desk.fresh, Books.empty, Store.empty,
    idxGetInvoice, Versions.latest]

theorem frozen_step (desk : Desk) (action : DeskAction) :
    Frozen desk.books (desk.step action).books := by
  cases action with
  | book step => exact frozen_apply desk.books step
  | capture settlement now =>
      simp only [Desk.step]
      split_ifs
      · exact frozen_capture desk.books settlement now
      · exact .refl _
  | commit persists =>
      simp only [Desk.step]
      split
      · exact (commit_committed _ desk.books _ persists).frozen
      · exact .refl _
  | _ =>
      simp only [Desk.step]
      repeat' split
      all_goals exact .refl _

theorem frozen_run (node : Table ℕ Incoming) (before : Desk) (actions : List DeskAction) :
    Frozen before.books ((desk node).runFrom before actions).books := by
  have keeps (after : Desk) (action : DeskAction) (_ : True)
      (frozen : Frozen before.books after.books) :
      Frozen before.books ((desk node).step after action).books :=
    frozen.trans (frozen_step after action)
  exact (desk node).invariant_from keeps actions before ((desk node).meetsFrom_true actions before)
    (.refl _)

theorem Sound.consistent {desk : Desk} (sound : Sound desk) :
    Consistent desk.books (idxGetInvoice desk.map) ∅ := by
  intro token row found unsettled _
  obtain ⟨newest, agrees⟩ := sound.booked token row found
  exact ⟨newest, agrees.current, agrees.named, agrees.window unsettled⟩

/-- A new row of the map is the one a commit wrote, and the book row of its token confirms it. -/
theorem confirmed_step {desk : Desk} (sound : Sound desk) (action : DeskAction) {token : ExternalId}
    {invoice : Invoice} (member : (token, invoice) ∈ (desk.step action).map)
    (new : (token, invoice) ∉ desk.map) : Confirmed (desk.step action).books token invoice := by
  have after := sound_step desk action sound
  cases action with
  | commit persists =>
      simp only [Desk.step] at member after ⊢
      split at member
      · rename_i placement amountSat expiryS issued holds
        simp only [holds] at after ⊢
        have ready := sound.turn _ holds
        have committed := commit_committed placement desk.books issued persists
        unfold Desk.commit at member after ⊢
        dsimp only at member after ⊢
        generalize placement.commit desk.books issued persists = outcome at committed member after ⊢
        obtain ⟨ran, books⟩ := outcome
        cases ran with
        | false => exact absurd member new
        | true =>
            rcases (Versions.mem_upsert token invoice).mp member with same | ⟨kept, -⟩
            · cases same
              obtain ⟨row, found⟩ := committed.present
              obtain ⟨newest, agrees⟩ := after.booked _ row found
              cases (ready.newest sound).1.symm.trans agrees.current
              exact ⟨row, found, agrees.named, agrees.window⟩
            · exact absurd kept new
      · exact absurd member new
  | _ =>
      refine absurd ?_ new
      simp only [Desk.step] at member
      repeat' split at member
      all_goals exact member

end Lnrent.PhoenixdReceive

/-! ### lnv2 -/

namespace Lnrent.Lnv2Receive

open Relational Receive Capture Transition

/-- A fresh database beside a federation that may know operations already. -/
def Desk.fresh (operations : Table ℕ Operation) : Desk :=
  ⟨.empty, Table.empty, operations, none, [], ∅⟩

/-- **The desk as a machine.** -/
def desk (operations : Table ℕ Operation) : Machine Desk DeskAction := ⟨.fresh operations, Desk.step⟩

/-- The effective row of an external id. -/
def effective (map : ReceiveMap) (externalId : ExternalId) : Option Invoice :=
  (map.row externalId).map Row.invoice

theorem sound_run (operations : Table ℕ Operation) (actions : List DeskAction) :
    Sound ((desk operations).run actions) := by
  refine (desk operations).invariant ?_ sound_step actions
  refine ⟨?_, ?_, ?_, ?_, ?_, ?_⟩ <;> simp [desk, Desk.fresh, Books.empty, Store.empty]

theorem frozen_step (desk : Desk) (action : DeskAction) :
    Frozen desk.books (desk.step action).books := by
  cases action with
  | book step => exact frozen_apply desk.books step
  | capture settlement now =>
      simp only [Desk.step]
      split_ifs
      · exact frozen_capture desk.books settlement now
      · exact .refl _
  | commit persists =>
      simp only [Desk.step]
      split
      · exact (commit_committed _ desk.books _ _).frozen
      · exact .refl _
  | _ =>
      simp only [Desk.step]
      repeat' split
      all_goals exact .refl _

theorem frozen_run (operations : Table ℕ Operation) (before : Desk) (actions : List DeskAction) :
    Frozen before.books ((desk operations).runFrom before actions).books := by
  have keeps (after : Desk) (action : DeskAction) (_ : True)
      (frozen : Frozen before.books after.books) :
      Frozen before.books ((desk operations).step after action).books :=
    frozen.trans (frozen_step after action)
  exact (desk operations).invariant_from keeps actions before
    ((desk operations).meetsFrom_true actions before) (.refl _)

theorem Sound.consistent {desk : Desk} (sound : Sound desk) :
    Consistent desk.books (effective desk.map) desk.collected := by
  intro token row found unsettled kept
  rcases sound.booked token row found with ⟨mapped, isMapped, agrees⟩ | ⟨gone, -⟩
  · exact ⟨mapped.invoice, by rw [effective, isMapped, Option.map_some], agrees.named, agrees.window⟩
  · exact absurd gone.2 kept

/-- A row of the map with a new invoice is the one a commit wrote, and the book row of its token
confirms it. -/
theorem confirmed_step {desk : Desk} (sound : Sound desk) (action : DeskAction) {token : ExternalId}
    {invoice : Invoice} (mapped : effective (desk.step action).map token = some invoice)
    (new : effective desk.map token ≠ some invoice) :
    Confirmed (desk.step action).books token invoice := by
  have after := sound_step desk action sound
  cases action with
  | mark operation credited settledAt =>
      refine absurd ?_ new
      simp only [Desk.step] at mapped
      split at mapped
      · exact mapped
      · obtain ⟨row, found, rfl⟩ := Option.map_eq_some_iff.mp mapped
        obtain ⟨old, present, same, -⟩ := mark_row found
        rw [effective, present, Option.map_some, same]
  | gc cutoff =>
      refine absurd ?_ new
      obtain ⟨row, found, rfl⟩ := Option.map_eq_some_iff.mp mapped
      rw [effective, (gc_some.mp found).1, Option.map_some]
  | commit persists =>
      simp only [Desk.step] at mapped after ⊢
      split at mapped
      · rename_i placement amountSat expiryS issued minted holds
        simp only [holds] at after ⊢
        have ready := sound.turn _ holds
        unfold Desk.commit at mapped after ⊢
        dsimp only at mapped after ⊢
        have committed := commit_committed placement desk.books issued
          (persists && (if minted then idxInsert desk.map placement.externalId issued
            else some desk.map).isSome)
        generalize placement.commit desk.books issued _ = outcome at committed mapped after ⊢
        obtain ⟨ran, books⟩ := outcome
        cases ran with
        | false => exact absurd mapped new
        | true =>
            cases minted with
            | false => exact absurd mapped new
            | true =>
                replace ready : Vacant desk.map placement.externalId ∧ _ := ready
                simp only [if_true, idxInsert_vacant ready.1, Option.getD_some] at mapped after ⊢
                obtain ⟨row, found, rfl⟩ := Option.map_eq_some_iff.mp mapped
                by_cases asked : token = placement.externalId
                · subst asked
                  obtain ⟨book, present⟩ := committed.present
                  rcases after.booked _ book present with ⟨other, isOther, agrees⟩ | ⟨gone, -⟩
                  · cases found.symm.trans isOther
                    exact ⟨book, present, agrees.named, fun _ => agrees.window⟩
                  · cases found.symm.trans gone.1
                · rw [Table.put_row_other _ _ asked] at found
                  exact absurd (by rw [effective, found, Option.map_some]) new
      · exact absurd mapped new
  | _ =>
      refine absurd ?_ new
      simp only [Desk.step] at mapped
      repeat' split at mapped
      all_goals exact mapped

end Lnrent.Lnv2Receive

/-! ### Both backends -/

namespace Lnrent.Receive

open Relational Capture Transition

/-- **Books and receive map never disagree**, for phoenixd and for lnv2: in every state a run of the
desk reaches, no unpaid row disagrees with the effective map row of its token, a row that took money
never changes again, and whatever the next step, a map row it creates or replaces is confirmed by the
book row behind that step. -/
theorem books_and_map_agree :
    (∀ (node : Table ℕ PhoenixdReceive.Incoming) (actions : List PhoenixdReceive.DeskAction),
      let desk := (PhoenixdReceive.desk node).run actions
      Consistent desk.books (PhoenixdReceive.idxGetInvoice desk.map) ∅ ∧
        (∀ more, Frozen desk.books ((PhoenixdReceive.desk node).runFrom desk more).books) ∧
        ∀ action token invoice, (token, invoice) ∈ (desk.step action).map →
          (token, invoice) ∉ desk.map → Confirmed (desk.step action).books token invoice) ∧
      ∀ (operations : Table ℕ Lnv2Receive.Operation) (actions : List Lnv2Receive.DeskAction),
        let desk := (Lnv2Receive.desk operations).run actions
        Consistent desk.books (Lnv2Receive.effective desk.map) desk.collected ∧
          (∀ more, Frozen desk.books ((Lnv2Receive.desk operations).runFrom desk more).books) ∧
          ∀ action token invoice, Lnv2Receive.effective (desk.step action).map token = some invoice →
            Lnv2Receive.effective desk.map token ≠ some invoice →
            Confirmed (desk.step action).books token invoice := by
  refine ⟨fun node actions => ?_, fun operations actions => ?_⟩
  · have sound := PhoenixdReceive.sound_run node actions
    exact ⟨sound.consistent, PhoenixdReceive.frozen_run node _, fun action token invoice member new =>
      PhoenixdReceive.confirmed_step sound action member new⟩
  · have sound := Lnv2Receive.sound_run operations actions
    exact ⟨sound.consistent, Lnv2Receive.frozen_run operations _,
      fun action token invoice mapped new => Lnv2Receive.confirmed_step sound action mapped new⟩

end Lnrent.Receive
