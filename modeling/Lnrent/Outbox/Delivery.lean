/-
**What the outbox sends it has marked, and nothing else.**

* `newest` — the last message accepted under an id;
* `Holds` — a row a drain has read still carries that message, or a retry has deleted it;
* `Sound` — a SENT row is the newest accepted message of its id, a FAILED one does not parse;
* `sound_step`, `sound_run` — every step of every run keeps it.

The invariant that carries a drain over the requests between its steps is that a row, once queued, keeps
its message until the operator's retry deletes it, and that no refund is queued during a drain.
-/

import Lnrent.Daemon.Outbox

namespace Lnrent.Outbox

open Relational Transition

/-- The last message that was accepted under an id. -/
def newest (received : List Item) (id : MessageId) : Option Item :=
  received.find? fun item => item.id = id

theorem newest_cons_self (item : Item) (received : List Item) :
    newest (item :: received) item.id = some item := by
  simp [newest]

theorem newest_cons_other {item : Item} {id : MessageId} (different : item.id ≠ id)
    (received : List Item) : newest (item :: received) id = newest received id := by
  simp [newest, different]

/-! ### What a drain has read -/

/-- **The row still carries the message**, or it was a refund's, and a retry has deleted it. -/
def Holds (outbox : Table MessageId Row) (item : Item) : Prop :=
  (∃ row, outbox.row item.id = some row ∧ row.message = item.message) ∨
    ∃ externalId, item.id = .refund externalId ∧ outbox.row item.id = none

/-- **The rows keep their messages**; only those of refunds are deleted, and none of them returns. -/
structure Preserves (before after : Table MessageId Row) : Prop where
  kept : ∀ id row, before.row id = some row →
    (∃ row', after.row id = some row' ∧ row'.message = row.message) ∨
      ∃ externalId, id = .refund externalId ∧ after.row id = none
  absent : ∀ externalId, before.row (.refund externalId) = none →
    after.row (.refund externalId) = none

theorem Holds.preserved {before after : Table MessageId Row} {item : Item}
    (preserves : Preserves before after) (holds : Holds before item) : Holds after item := by
  rcases holds with ⟨row, found, same⟩ | ⟨externalId, is, gone⟩
  · rcases preserves.kept item.id row found with ⟨row', found', same'⟩ | deleted
    · exact .inl ⟨row', found', same'.trans same⟩
    · exact .inr deleted
  · refine .inr ⟨externalId, is, ?_⟩
    rw [is] at gone ⊢
    exact preserves.absent externalId gone

/-- Every row keeps its message, and none is added to the refunds. -/
theorem Preserves.of_rows {before after : Table MessageId Row}
    (rows : ∀ id, (after.row id).map Row.message = (before.row id).map Row.message) :
    Preserves before after where
  kept id row found := by
    have same := rows id
    rw [found] at same
    obtain ⟨row', found', same'⟩ := Option.map_eq_some_iff.mp same
    exact .inl ⟨row', found', same'⟩
  absent externalId gone := by
    have same := rows (.refund externalId)
    rw [gone] at same
    exact Option.map_eq_none_iff.mp same

theorem onPending_message (change : Row → Row) (same : ∀ row, (change row).message = row.message)
    (outbox : Table MessageId Row) (id other : MessageId) :
    ((onPending outbox id change).row other).map Row.message =
      (outbox.row other).map Row.message := by
  by_cases own : other = id
  · subst own
    rw [onPending_row_self, Option.map_map]
    congr 1
    funext row
    simp only [Function.comp_apply]
    split_ifs
    · exact same row
    · rfl
  · rw [onPending_row_other outbox change own]

/-- Marking a row changes no message. -/
theorem markSent_message (outbox : Table MessageId Row) (id other : MessageId) :
    ((markSent outbox id).row other).map Row.message = (outbox.row other).map Row.message :=
  onPending_message (fun row => { row with state := .sent, attempts := row.attempts + 1 })
    (fun _ => rfl) outbox id other

theorem markFailed_message (outbox : Table MessageId Row) (id other : MessageId) :
    ((markFailed outbox id).row other).map Row.message = (outbox.row other).map Row.message :=
  onPending_message (fun row => { row with state := .failed, attempts := row.attempts + 1 })
    (fun _ => rfl) outbox id other

theorem bumpAttempt_message (outbox : Table MessageId Row) (id other : MessageId) :
    ((bumpAttempt outbox id).row other).map Row.message = (outbox.row other).map Row.message :=
  onPending_message (fun row => { row with attempts := row.attempts + 1 })
    (fun _ => rfl) outbox id other

theorem markDelivered_message (outbox : Table MessageId Row) (id other : MessageId) :
    ((markDelivered outbox id).row other).map Row.message = (outbox.row other).map Row.message := by
  unfold markDelivered
  cases found : outbox.row id with
  | none => rfl
  | some row =>
      simp only
      split_ifs
      · rfl
      · by_cases own : other = id
        · rw [own, Table.put_row_self, found]
          rfl
        · rw [Table.put_row_other _ _ own]

/-- Queueing a message of another kind. -/
theorem Preserves.enqueue {id : MessageId} (plain : ∀ externalId, id ≠ .refund externalId)
    (outbox : Table MessageId Row) (message : Message) :
    Preserves outbox (enqueue outbox id message) where
  kept other row found := .inl ⟨row, enqueue_row_of_some outbox id other message found, rfl⟩
  absent externalId gone := by
    rw [enqueue_row_other outbox message (Ne.symm (plain externalId)), gone]

theorem Preserves.delete (outbox : Table MessageId Row) (externalId : ExternalId) :
    Preserves outbox (outbox.delete fun id _ => id = .refund externalId) where
  kept id row found := by
    by_cases own : id = .refund externalId
    · subst own
      exact .inr ⟨externalId, rfl, outbox.delete_row_self _⟩
    · exact .inl ⟨row, (outbox.delete_row_other own).trans found, rfl⟩
  absent other gone := by
    by_cases own : MessageId.refund other = .refund externalId
    · rw [own, outbox.delete_row_self]
    · rw [outbox.delete_row_other own, gone]

/-! ### The invariant -/

section Sound

variable (codec : Codec)

/-- What the turn of the maintenance loop knows. -/
def TurnSound (outbox : Table MessageId Row) (received : List Item) : Turn → Prop
  | .idle => True
  | .driving _ => True
  | .draining rest => ∀ item ∈ rest, Holds outbox item
  | .sending item rest => newest received item.id = some item ∧
      ∀ other ∈ item :: rest, Holds outbox other
  | .failing item rest => ¬ item.message.Deliverable codec ∧
      ∀ other ∈ item :: rest, Holds outbox other

/-- **A SENT row was accepted, a FAILED one does not parse**, and a drain acts on what it has read. -/
structure Sound (desk : Desk) : Prop where
  sent : ∀ id row, desk.outbox.row id = some row → row.state = .sent →
    newest desk.received id = some ⟨id, row.message⟩
  failed : ∀ id row, desk.outbox.row id = some row → row.state = .failed →
    ¬ row.message.Deliverable codec
  turn : TurnSound codec desk.outbox desk.received desk.turn
  resent : ∀ id ∈ desk.resent, (∃ subscription, id = .provision subscription) ∧
    ∃ row, desk.outbox.row id = some row ∧ newest desk.received id = some ⟨id, row.message⟩

variable {codec} {desk : Desk}

theorem TurnSound.preserved {before after : Table MessageId Row} {received : List Item} {turn : Turn}
    (preserves : Preserves before after) (sound : TurnSound codec before received turn) :
    TurnSound codec after received turn := by
  cases turn with
  | idle => trivial
  | driving jobs => trivial
  | draining rest => exact fun item member => (sound item member).preserved preserves
  | sending item rest =>
      exact ⟨sound.1, fun other member => (sound.2 other member).preserved preserves⟩
  | failing item rest =>
      exact ⟨sound.1, fun other member => (sound.2 other member).preserved preserves⟩

/-- Nothing of the outbox has changed. -/
theorem Sound.same {after : Desk} (sound : Sound codec desk) (outbox : after.outbox = desk.outbox)
    (received : after.received = desk.received)
    (resent : ∀ id ∈ after.resent, id ∈ desk.resent)
    (turn : TurnSound codec desk.outbox desk.received after.turn) : Sound codec after where
  sent := by
    rw [outbox, received]
    exact sound.sent
  failed := by
    rw [outbox]
    exact sound.failed
  turn := by
    rw [outbox, received]
    exact turn
  resent id member := by
    rw [outbox, received]
    exact sound.resent id (resent id member)

/-- **One row was marked**: the others stay, and its message does. -/
theorem Sound.marked {after : Desk} (sound : Sound codec desk)
    (rows : ∀ id, (after.outbox.row id).map Row.message = (desk.outbox.row id).map Row.message)
    (states : ∀ id row, after.outbox.row id = some row → row ∈ desk.outbox.row id ∨
      row.state = .pending ∨
      row.state = .sent ∧ newest desk.received id = some ⟨id, row.message⟩ ∨
      row.state = .failed ∧ ¬ row.message.Deliverable codec)
    (received : after.received = desk.received)
    (resent : ∀ id ∈ after.resent, id ∈ desk.resent)
    (turn : TurnSound codec desk.outbox desk.received after.turn) : Sound codec after where
  sent id row found is := by
    rw [received]
    rcases states id row found with old | pending | ⟨-, accepted⟩ | ⟨failed, -⟩
    · exact sound.sent id row old is
    · cases pending.symm.trans is
    · exact accepted
    · cases failed.symm.trans is
  failed id row found is := by
    rcases states id row found with old | pending | ⟨sent, -⟩ | ⟨-, broken⟩
    · exact sound.failed id row old is
    · cases pending.symm.trans is
    · cases sent.symm.trans is
    · exact broken
  turn := by
    rw [received]
    exact turn.preserved (.of_rows rows)
  resent id member := by
    obtain ⟨ready, row, found, accepted⟩ := sound.resent id (resent id member)
    have same := rows id
    rw [found] at same
    obtain ⟨row', found', same'⟩ := Option.map_eq_some_iff.mp same
    rw [received]
    exact ⟨ready, row', found', same'.symm ▸ accepted⟩

/-- **A message was queued** under an id no drain waits for. -/
theorem Sound.queued {after : Desk} {id : MessageId} {message : Message} (sound : Sound codec desk)
    (outbox : after.outbox = enqueue desk.outbox id message)
    (received : after.received = desk.received) (resent : after.resent = desk.resent)
    (turn : TurnSound codec (enqueue desk.outbox id message) desk.received after.turn) :
    Sound codec after := by
  have rows (other : MessageId) (row : Row) (found : after.outbox.row other = some row) :
      desk.outbox.row other = some row ∨ row.state = .pending := by
    rw [outbox] at found
    by_cases own : other = id
    · subst own
      cases before : desk.outbox.row other with
      | some old =>
          rw [enqueue_of_some _ _ _ before] at found
          exact .inl (before ▸ found)
      | none =>
          rw [enqueue_of_none _ _ _ before, Table.put_row_self] at found
          cases found
          exact .inr rfl
    · exact .inl ((enqueue_row_other _ _ own) ▸ found)
  refine ⟨fun other row found is => ?_, fun other row found is => ?_, ?_, fun other member => ?_⟩
  · rw [received]
    rcases rows other row found with old | pending
    · exact sound.sent other row old is
    · cases pending.symm.trans is
  · rcases rows other row found with old | pending
    · exact sound.failed other row old is
    · cases pending.symm.trans is
  · rw [outbox, received]
    exact turn
  · rw [resent] at member
    obtain ⟨ready, row, found, accepted⟩ := sound.resent other member
    rw [outbox, received]
    exact ⟨ready, row, enqueue_row_of_some _ _ _ _ found, accepted⟩

/-- **A message was accepted**: the row of its id carries it. -/
theorem Sound.accepted {item : Item} (sound : Sound codec desk) (holds : Holds desk.outbox item) :
    (∀ id row, desk.outbox.row id = some row → row.state = .sent →
      newest (item :: desk.received) id = some ⟨id, row.message⟩) ∧
    ∀ id ∈ desk.resent, (∃ subscription, id = .provision subscription) ∧
      ∃ row, desk.outbox.row id = some row ∧
        newest (item :: desk.received) id = some ⟨id, row.message⟩ := by
  have carried {row : Row} (found : desk.outbox.row item.id = some row) :
      newest (item :: desk.received) item.id = some ⟨item.id, row.message⟩ := by
    rcases holds with ⟨row', found', same⟩ | ⟨_, -, gone⟩
    · obtain rfl := Option.some.inj (found.symm.trans found')
      rw [newest_cons_self, same]
    · cases found.symm.trans gone
  constructor
  · intro id row found is
    by_cases own : item.id = id
    · subst own
      exact carried found
    · rw [newest_cons_other own]
      exact sound.sent id row found is
  · intro id member
    obtain ⟨ready, row, found, accepted⟩ := sound.resent id member
    refine ⟨ready, row, found, ?_⟩
    by_cases own : item.id = id
    · subst own
      exact carried found
    · rw [newest_cons_other own]
      exact accepted

/-- **The retry's deletion**: the other rows stay. -/
theorem Sound.deleted {after : Desk} {externalId : ExternalId} (sound : Sound codec desk)
    (outbox : after.outbox = desk.outbox.delete fun id _ => id = .refund externalId)
    (received : after.received = desk.received) (resent : after.resent = desk.resent)
    (turn : after.turn = desk.turn) : Sound codec after := by
  have rows (id : MessageId) (row : Row) (found : after.outbox.row id = some row) :
      desk.outbox.row id = some row := by
    rw [outbox] at found
    exact ((desk.outbox.delete_row_eq_some _ id row).mp found).1
  refine ⟨fun id row found is => ?_, fun id row found => ?_, ?_, fun id member => ?_⟩
  · rw [received]
    exact sound.sent id row (rows id row found) is
  · exact sound.failed id row (rows id row found)
  · rw [outbox, received, turn]
    exact sound.turn.preserved (.delete desk.outbox externalId)
  · rw [resent] at member
    obtain ⟨⟨subscription, rfl⟩, row, found, accepted⟩ := sound.resent id member
    rw [outbox, received]
    exact ⟨⟨subscription, rfl⟩, row, (desk.outbox.delete_row_other (by simp)).trans found, accepted⟩

theorem Sound.park {operator : Text} {alert : Alert} (sound : Sound codec desk) :
    Sound codec (desk.park operator alert) :=
  sound.queued rfl rfl rfl (sound.turn.preserved (.enqueue (by simp) _ _))

/-- Another store, the same outbox. -/
theorem Sound.stored (sound : Sound codec desk) (store : Store) : Sound codec { desk with store } :=
  sound.same rfl rfl (fun _ member => member) sound.turn

/-- A job is read off a running drive. -/
theorem driving_of_job {externalId : ExternalId} {job : Job} (found : desk.job externalId = some job) :
    ∃ jobs, desk.turn = .driving jobs ∧ job ∈ jobs ∧ job.externalId = externalId := by
  unfold Desk.job at found
  split at found
  · rename_i jobs turn
    exact ⟨jobs, turn, List.mem_of_find?_eq_some found, by simpa using List.find?_some found⟩
  · cases found

theorem Sound.tell {job : Job} {amountSat : ℤ} {status : RefundStatus} {jobs : List Job}
    (sound : Sound codec desk) (driving : desk.turn = .driving jobs) :
    Sound codec (desk.tell job amountSat status) := by
  refine sound.queued rfl rfl rfl ?_
  show TurnSound codec _ _ desk.turn
  rw [driving]
  trivial

theorem Sound.parkRefund {operator : Text} {job : Job} {amountSat : ℤ} {reason : String}
    {jobs : List Job} (sound : Sound codec desk) (driving : desk.turn = .driving jobs)
    (committed : Refund.Outcome × Store) :
    Sound codec (desk.parkRefund operator job amountSat reason committed) := by
  obtain ⟨outcome, store⟩ := committed
  cases outcome with
  | failed => exact ((sound.stored store).tell driving).park
  | _ => exact sound.stored store

theorem mem_pendingRows {outbox : Table MessageId Row} {order : List MessageId} {item : Item}
    (member : item ∈ pendingRows outbox order) :
    ∃ row, outbox.row item.id = some row ∧ row.message = item.message ∧ row.state = .pending := by
  obtain ⟨id, -, kept⟩ := List.mem_filterMap.mp member
  cases found : outbox.row id with
  | none => simp [found] at kept
  | some row =>
      simp only [found] at kept
      split_ifs at kept with pending
      cases kept
      exact ⟨row, found, rfl, pending⟩

theorem Sound.bumped {item : Item} {rest : List Item} {received : List Item}
    (sound : Sound codec { desk with turn := .draining rest, received }) :
    Sound codec { desk with
      turn := .draining rest, outbox := bumpAttempt desk.outbox item.id, received } := by
  refine sound.marked (bumpAttempt_message _ _) (fun id row found => ?_) rfl
    (fun _ member => member) sound.turn
  by_cases own : id = item.id
  · subst own
    change (onPending desk.outbox _ _).row _ = _ at found
    rw [onPending_row_self] at found
    obtain ⟨old, before, is⟩ := Option.map_eq_some_iff.mp found
    split_ifs at is with pending
    · exact .inr (.inl (is ▸ pending))
    · exact .inl (is ▸ before)
  · exact .inl ((onPending_row_other desk.outbox _ own) ▸ found)

theorem Sound.publish (sound : Sound codec desk) (reply : Reply) :
    Sound codec (desk.publish codec reply) := by
  unfold Desk.publish
  split
  · rename_i item rest turn
    have holds : ∀ other ∈ item :: rest, Holds desk.outbox other := by
      have known := sound.turn
      rw [turn] at known
      exact known
    have tail : ∀ other ∈ rest, Holds desk.outbox other := fun other member =>
      holds other (List.mem_cons_of_mem _ member)
    obtain ⟨sent, resent⟩ := sound.accepted (holds item List.mem_cons_self)
    split_ifs with parses
    · cases reply with
      | accepted => exact ⟨sent, sound.failed, ⟨newest_cons_self _ _, holds⟩, resent⟩
      | lost =>
          have published : Sound codec { desk with
              turn := .draining rest, received := item :: desk.received } :=
            ⟨sent, sound.failed, tail, resent⟩
          exact published.bumped
      | refused =>
          have waiting : Sound codec { desk with
              turn := .draining rest, received := desk.received } :=
            sound.same rfl rfl (fun _ member => member) tail
          exact waiting.bumped
    · exact sound.same rfl rfl (fun _ member => member) ⟨parses, holds⟩
  · exact sound

theorem Sound.mark (sound : Sound codec desk) : Sound codec desk.mark := by
  have known := sound.turn
  unfold Desk.mark
  split
  · rename_i item rest turn
    rw [turn] at known
    obtain ⟨accepted, holds⟩ := known
    refine sound.marked (markSent_message _ _) (fun id row found => ?_) rfl
      (fun _ member => member) (fun other member => holds other (List.mem_cons_of_mem _ member))
    by_cases own : id = item.id
    · subst own
      change (onPending desk.outbox _ _).row _ = _ at found
      rw [onPending_row_self] at found
      obtain ⟨old, before, is⟩ := Option.map_eq_some_iff.mp found
      split_ifs at is with pending
      · subst is
        refine .inr (.inr (.inl ⟨rfl, ?_⟩))
        rcases holds item List.mem_cons_self with ⟨row', found', same⟩ | ⟨_, -, gone⟩
        · obtain rfl := Option.some.inj (before.symm.trans found')
          rw [accepted]
          exact congrArg some (congrArg (Item.mk item.id) same.symm)
        · cases before.symm.trans gone
      · exact .inl (is ▸ before)
    · exact .inl ((onPending_row_other desk.outbox _ own) ▸ found)
  · rename_i item rest turn
    rw [turn] at known
    obtain ⟨broken, holds⟩ := known
    refine sound.marked (markFailed_message _ _) (fun id row found => ?_) rfl
      (fun _ member => member) (fun other member => holds other (List.mem_cons_of_mem _ member))
    by_cases own : id = item.id
    · subst own
      change (onPending desk.outbox _ _).row _ = _ at found
      rw [onPending_row_self] at found
      obtain ⟨old, before, is⟩ := Option.map_eq_some_iff.mp found
      split_ifs at is with pending
      · subst is
        refine .inr (.inr (.inr ⟨rfl, ?_⟩))
        rcases holds item List.mem_cons_self with ⟨row', found', same⟩ | ⟨_, -, gone⟩
        · obtain rfl := Option.some.inj (before.symm.trans found')
          exact same.symm ▸ broken
        · cases before.symm.trans gone
      · exact .inl (is ▸ before)
    · exact .inl ((onPending_row_other desk.outbox _ own) ▸ found)
  · exact sound

theorem TurnSound.accepted {item : Item} {turn : Turn}
    (sound : TurnSound codec desk.outbox desk.received turn)
    (present : ∃ row, desk.outbox.row item.id = some row ∧ row.message = item.message) :
    TurnSound codec desk.outbox (item :: desk.received) turn := by
  cases turn with
  | sending other rest =>
      obtain ⟨accepted, holds⟩ := sound
      refine ⟨?_, holds⟩
      by_cases own : item.id = other.id
      · obtain ⟨row, found, same⟩ := present
        rw [own] at found
        rcases holds other List.mem_cons_self with ⟨row', found', same'⟩ | ⟨_, -, gone⟩
        · obtain rfl := Option.some.inj (found.symm.trans found')
          obtain ⟨id, message⟩ := item
          obtain ⟨id', message'⟩ := other
          obtain rfl : id = id' := own
          obtain rfl : message = message' := same.symm.trans same'
          exact newest_cons_self _ _
        · cases found.symm.trans gone
      · rw [newest_cons_other own]
        exact accepted
  | _ => exact sound

theorem Sound.resend (sound : Sound codec desk) (subscription : OrderId) (requester : Text)
    (reply : Reply) : Sound codec (desk.resend codec subscription requester reply) := by
  unfold Desk.resend
  cases found : desk.outbox.row (.provision subscription) with
  | none => exact sound
  | some row =>
      have present : ∃ row', desk.outbox.row (Item.mk (.provision subscription) row.message).id =
          some row' ∧ row'.message = (Item.mk (.provision subscription) row.message).message :=
        ⟨row, found, rfl⟩
      simp only
      split_ifs with ready accepted
      · obtain ⟨sent, resent⟩ := sound.accepted (.inl present)
        refine ⟨sent, sound.failed, sound.turn.accepted present, fun id member => ?_⟩
        rcases List.mem_cons.mp member with rfl | before
        · exact ⟨⟨subscription, rfl⟩, row, found, newest_cons_self _ _⟩
        · exact resent id before
      · obtain ⟨sent, resent⟩ := sound.accepted (.inl present)
        exact ⟨sent, sound.failed, sound.turn.accepted present, resent⟩
      · exact sound

theorem Sound.markResent (sound : Sound codec desk) {id : MessageId} (waits : id ∈ desk.resent) :
    Sound codec { desk with
      outbox := markDelivered desk.outbox id, resent := desk.resent.erase id } := by
  obtain ⟨-, row, found, accepted⟩ := sound.resent id waits
  refine sound.marked (markDelivered_message _ _) (fun other row' found' => ?_) rfl
    (fun _ member => List.mem_of_mem_erase member) sound.turn
  change (markDelivered desk.outbox id).row other = _ at found'
  unfold markDelivered at found'
  simp only [found] at found'
  split_ifs at found' with failed
  · exact .inl found'
  · by_cases own : other = id
    · rw [own, Table.put_row_self] at found'
      cases found'
      exact .inr (.inr (.inl ⟨rfl, own ▸ accepted⟩))
    · rw [Table.put_row_other _ _ own] at found'
      exact .inl found'

variable {operator : Text}

/-- **One step keeps the invariant.** -/
theorem sound_step (action : Action) (sound : Sound codec desk) :
    Sound codec (desk.step codec operator action) := by
  have unchanged : ∀ id ∈ desk.resent, id ∈ desk.resent := fun _ member => member
  cases action with
  | drive order =>
      cases turn : desk.turn with
      | idle =>
          simp only [Desk.step, turn]
          exact sound.same rfl rfl unchanged trivial
      | _ => simpa only [Desk.step, turn] using sound
  | pays externalId => exact sound.same rfl rfl unchanged sound.turn
  | refundSent externalId paidSat now =>
      cases found : desk.job externalId with
      | none => simpa only [Desk.step, found] using sound
      | some job =>
          obtain ⟨jobs, driving, -⟩ := driving_of_job found
          simp only [Desk.step, found]
          split_ifs
          · cases Refund.commitSent desk.store externalId now with
            | mk won store =>
                cases won with
                | true => exact (sound.stored store).tell driving
                | false => exact sound.stored store
          · exact sound
  | refundParked externalId amountSat reason now =>
      cases found : desk.job externalId with
      | none => simpa only [Desk.step, found] using sound
      | some job =>
          obtain ⟨jobs, driving, -⟩ := driving_of_job found
          simp only [Desk.step, found]
          exact sound.parkRefund driving _
  | refundUnpaid externalId amountSat allowTerminal now =>
      cases found : desk.job externalId with
      | none => simpa only [Desk.step, found] using sound
      | some job =>
          obtain ⟨jobs, driving, -⟩ := driving_of_job found
          simp only [Desk.step, found]
          exact sound.parkRefund driving _
  | refundDeferred externalId now => exact sound.stored _
  | refundResolved externalId resolved generation => exact sound.stored _
  | refundRetry externalId now =>
      simp only [Desk.step]
      cases Refund.refundRetry desk.store externalId now with
      | mk requeued store =>
          cases requeued with
          | true => exact sound.deleted rfl rfl rfl rfl
          | false => exact sound.stored store
  | sweepGated task now =>
      simp only [Desk.step]
      split
      · exact sound.stored _
      · exact sound
  | sweepSent hash now => exact sound.stored _
  | sweepFailed hash reason now =>
      simp only [Desk.step]
      split_ifs
      · exact (sound.stored _).park
      · exact sound
  | drain order =>
      cases turn : desk.turn with
      | idle =>
          simp only [Desk.step, turn]
          refine sound.same rfl rfl unchanged fun item member => ?_
          obtain ⟨row, found, same, -⟩ := mem_pendingRows member
          exact .inl ⟨row, found, same⟩
      | _ => simpa only [Desk.step, turn] using sound
  | publish reply => exact sound.publish reply
  | mark => exact sound.mark
  | finish => exact sound.same rfl rfl unchanged trivial
  | resend subscription requester reply => exact sound.resend subscription requester reply
  | markResent id =>
      simp only [Desk.step]
      split_ifs with waits
      · exact sound.markResent waits
      · exact sound
  | queue token message =>
      exact sound.queued rfl rfl rfl (sound.turn.preserved (.enqueue (by simp) _ _))
  | queueReady subscription message =>
      exact sound.queued rfl rfl rfl (sound.turn.preserved (.enqueue (by simp) _ _))
  | elsewhere other => exact sound.stored _
  | crash =>
      exact sound.same rfl rfl (fun id member => absurd member List.not_mem_nil) trivial

theorem sound_empty : Sound codec Desk.empty := by
  constructor <;> simp [Desk.empty, TurnSound]

/-- **Every run keeps the invariant.** -/
theorem sound_run (actions : List Action) : Sound codec ((Outbox.desk codec operator).run actions) :=
  (Outbox.desk codec operator).invariant sound_empty (fun _ action sound => sound_step action sound)
    actions

end Sound

end Lnrent.Outbox
