/-
**The phoenixd pay map records what was posted.** Preparations, payments of any keys and invoices,
crashes, and nodes that come and go interleave; the nodes keep their contract.

* `Alive`, `Quiet`, `Silent` — payments of ours that were made or may still be;
* `Sound` — the invariant of the map and the payments;
* `Calm` — what no step without the lock changes;
* `Steady` — no payment is on its way when its hash is looked up and missed, and one node answers a
  critical section;
* `advance_turn` — what one step of a task owes;
* `pay_map_faithful` — **in a steady run each row is true of what was posted, and no hash is posted that
  was paid or may still be**; `hash_posted_twice`, `hash_posted_in_transit` — two runs that are not.
-/

import Lnrent.Daemon.PhoenixdPay
import Lnrent.Transition.Lock

namespace Lnrent.Phoenixd

open Relational Transition PhoenixdPay

/-! ### The invariant -/

/-- The payment was made, or may still be. -/
def Alive (state : PaymentState) : Prop :=
  state = .transit ∨ state = .live ∨ state = .paid

instance (state : PaymentState) : Decidable (Alive state) :=
  inferInstanceAs (Decidable (_ ∨ _ ∨ _))

/-- The payment of one of our keys, made or still possible. -/
structure Ours (shared : Shared) (id : ℕ) (key : Key) (payment : Payment) : Prop where
  found : shared.payments.rows.row id = some payment
  key : payment.key = some key
  alive : Alive payment.state

/-- The hash was paid, by some node. -/
def Paid (shared : Shared) (paymentHash : ℕ) : Prop :=
  ∃ id payment, shared.payments.rows.row id = some payment ∧ payment.paymentHash = paymentHash ∧
    payment.state = .paid

/-- No other key's row holds the hash, unless FAILED. -/
def Sole (shared : Shared) (key : Key) (paymentHash : ℕ) : Prop :=
  ∀ other row, other ≠ key → shared.pay.row other = some row → row.paymentHash = paymentHash →
    row.status = .failed

/-- The key has no payment. -/
def Quiet (shared : Shared) (key : Key) : Prop :=
  ∀ id payment, ¬ Ours shared id key payment

/-- **The invariant.** -/
structure Sound (shared : Shared) : Prop where
  /-- A payment has the row of its key, with its hash and its node. -/
  alive : ∀ id key payment, Ours shared id key payment → ∃ row, shared.pay.row key = some row ∧
    row.paymentHash = payment.paymentHash ∧ row.status ≠ .failed ∧ row.nodeId = some payment.node
  succeeded : ∀ key row, shared.pay.row key = some row → row.status = .succeeded →
    Paid shared row.paymentHash
  sole : ∀ key row, shared.pay.row key = some row → row.status ≠ .failed →
    Sole shared key row.paymentHash

section Sound

variable {shared : Shared} {key : Key} {paymentHash : ℕ}

/-- The lock is not part of the invariant. -/
theorem Sound.locked (sound : Sound shared) (lock : Option ℕ) : Sound { shared with lock } :=
  ⟨fun id key payment ours => sound.alive id key payment ⟨ours.found, ours.key, ours.alive⟩,
    sound.succeeded, sound.sole⟩

/-- A key whose row is FAILED, or that has none, has no payment. -/
theorem Sound.quiet (sound : Sound shared)
    (vacant : ∀ row, shared.pay.row key = some row → row.status = .failed) : Quiet shared key := by
  intro id payment ours
  obtain ⟨row, found, -, alive, -⟩ := sound.alive id key payment ours
  exact alive (vacant row found)

/-- **A row is put.** It holds what its key has of payments, and shares its hash with no row that is
not FAILED. -/
theorem Sound.put (sound : Sound shared) {row : PayRow}
    (alive : ∀ id payment, Ours shared id key payment → row.paymentHash = payment.paymentHash ∧
      row.status ≠ .failed ∧ row.nodeId = some payment.node)
    (succeeded : row.status = .succeeded → Paid shared row.paymentHash)
    (sole : row.status ≠ .failed → Sole shared key row.paymentHash) :
    Sound { shared with pay := shared.pay.put key row } where
  alive id other payment ours := by
    show ∃ found, (shared.pay.put key row).row other = some found ∧ _
    have before : Ours shared id other payment := ⟨ours.found, ours.key, ours.alive⟩
    rw [Table.put_row]
    split_ifs with own
    · subst own
      exact ⟨row, rfl, alive id payment before⟩
    · exact sound.alive id other payment before
  succeeded other found here := by
    change (shared.pay.put key row).row other = some found at here
    rw [Table.put_row] at here
    split_ifs at here
    · cases here
      exact succeeded
    · exact sound.succeeded other found here
  sole other found here standing := by
    intro third sibling different there same
    change (shared.pay.put key row).row other = some found at here
    change (shared.pay.put key row).row third = some sibling at there
    rw [Table.put_row] at here there
    split_ifs at here there with own own' own'
    · exact absurd (own'.trans own.symm) different
    · cases here
      subst own
      exact sole standing third sibling different there same
    · cases there
      subst own'
      by_contra standing'
      exact standing (sole standing' other found different.symm here same.symm)
    · exact sound.sole other found here standing third sibling different there same

/-- The witness is written for a key without a payment. -/
theorem Sound.upserted_prepared (sound : Sound shared) (quiet : Quiet shared key)
    (sole : Sole shared key paymentHash) (bolt11 : Text) (nodeId : ℕ) :
    ∀ pay, payUpsertPrepared shared.pay key bolt11 paymentHash nodeId = some pay →
      Sound { shared with pay } := by
  intro pay upserted
  unfold payUpsertPrepared at upserted
  split at upserted
  · cases upserted
  · cases upserted
    exact sound.put (fun id payment ours => absurd ours (quiet id payment))
      (fun succeeded => by cases succeeded) fun _ => sole

/-- A refusal is written for a key without a payment. -/
theorem Sound.upserted_failed (sound : Sound shared) (quiet : Quiet shared key) (bolt11 : Text)
    (now : ℤ) : Sound { shared with pay := payUpsertFailed shared.pay key bolt11 paymentHash now } := by
  unfold payUpsertFailed
  split
  · exact sound
  · exact sound.put (fun id payment ours => absurd ours (quiet id payment))
      (fun succeeded => by cases succeeded) fun alive => absurd rfl alive
  · exact sound.put (fun id payment ours => absurd ours (quiet id payment))
      (fun succeeded => by cases succeeded) fun alive => absurd rfl alive

/-- The row of the key holds the hash, and has not FAILED. -/
def Held (shared : Shared) (key : Key) (paymentHash : ℕ) : Prop :=
  ∃ row, shared.pay.row key = some row ∧ row.paymentHash = paymentHash ∧ row.status ≠ .failed

/-- A row is marked SUCCEEDED whose hash was paid. -/
theorem Sound.marked (sound : Sound shared) (held : Held shared key paymentHash)
    (paid : Paid shared paymentHash) (paymentId : ℕ) (now : ℤ) :
    ∀ pay, payMarkSucceeded shared.pay key paymentHash paymentId now = some pay →
      Sound { shared with pay } := by
  intro pay marked
  obtain ⟨row, found, same, alive⟩ := held
  simp only [payMarkSucceeded, found, if_pos same, Option.some.injEq] at marked
  subst marked
  refine sound.put (fun id payment ours => ?_) (fun _ => same ▸ paid) fun _ =>
    sound.sole key row found alive
  obtain ⟨row', found', hash, -, node⟩ := sound.alive id key payment ours
  cases found.symm.trans found'
  exact ⟨hash, by simp, node⟩

end Sound

/-! ### What the others leave -/

/-- **What no step without the lock changes**: no row is written, no payment of ours comes or is
revived, and what was paid stays paid. -/
structure Calm (before after : Shared) : Prop where
  pay : after.pay = before.pay
  ours : ∀ id key payment, Ours after id key payment → ∃ old, Ours before id key old ∧
    old.paymentHash = payment.paymentHash ∧ old.node = payment.node
  paid : ∀ paymentHash, Paid before paymentHash → Paid after paymentHash

section Calm

variable {before after : Shared}

theorem Calm.of_same (pay : after.pay = before.pay) (payments : after.payments = before.payments) :
    Calm before after where
  pay := pay
  ours id key payment ours := ⟨payment, ⟨payments ▸ ours.found, ours.key, ours.alive⟩, rfl, rfl⟩
  paid paymentHash paid := by
    unfold Paid
    rwa [payments]

theorem Sound.calm (sound : Sound before) (calm : Calm before after) : Sound after where
  alive id key payment ours := by
    obtain ⟨old, before, hash, node⟩ := calm.ours id key payment ours
    rw [calm.pay, ← hash, ← node]
    exact sound.alive id key old before
  succeeded key row found here := by
    rw [calm.pay] at found
    exact calm.paid _ (sound.succeeded key row found here)
  sole := by
    unfold Sole
    rw [calm.pay]
    exact sound.sole

theorem Quiet.calm {key : Key} (calm : Calm before after) (quiet : Quiet before key) :
    Quiet after key := by
  intro id payment ours
  obtain ⟨old, before, -⟩ := calm.ours id key payment ours
  exact quiet id old before

theorem Sole.calm {key : Key} {paymentHash : ℕ} (calm : Calm before after)
    (sole : Sole before key paymentHash) : Sole after key paymentHash := by
  unfold Sole
  rw [calm.pay]
  exact sole

theorem Held.calm {key : Key} {paymentHash : ℕ} (calm : Calm before after)
    (held : Held before key paymentHash) : Held after key paymentHash := by
  unfold Held
  rw [calm.pay]
  exact held

/-- A payment that may still be made goes on, or ends. -/
theorem calm_shift (shared : Shared) (payment : ℕ) {was is : PaymentState} (alive : Alive was)
    (unpaid : was ≠ .paid) : Calm shared (shared.shift payment was is) := by
  have row : ∀ id, (shared.shift payment was is).payments.rows.row id =
      (shared.payments.rows.row id).map fun row =>
        if id = payment ∧ row.state = was then { row with state := is } else row :=
    fun id => Journal.update_row shared.payments _ _ id
  refine ⟨rfl, fun id key found ours => ?_, fun paymentHash paid => ?_⟩
  · have here := ours.found
    rw [row] at here
    obtain ⟨old, there, rfl⟩ := Option.map_eq_some_iff.mp here
    have key' := ours.key
    have alive' := ours.alive
    split_ifs at key' alive' ⊢ with moved
    · exact ⟨old, ⟨there, key', moved.2 ▸ alive⟩, rfl, rfl⟩
    · exact ⟨old, ⟨there, key', alive'⟩, rfl, rfl⟩
  · obtain ⟨id, old, found, hash, state⟩ := paid
    refine ⟨id, old, ?_, hash, state⟩
    rw [row, found, Option.map_some, if_neg]
    rintro ⟨-, same⟩
    exact unpaid (same.symm.trans state)

/-- Somebody else's payment. -/
theorem calm_foreign (shared : Shared) (paymentHash node : ℕ) :
    Calm shared { shared with payments := shared.payments.append ⟨none, paymentHash, node, .live⟩ } := by
  refine ⟨rfl, fun id key payment ours => ?_, fun other paid => ?_⟩
  · obtain ⟨-, rfl⟩ | found := (Journal.append_row_eq_some _ _ _ _).mp ours.found
    · exact absurd ours.key (by simp)
    · exact ⟨payment, ⟨found, ours.key, ours.alive⟩, rfl, rfl⟩
  · obtain ⟨id, old, found, rest⟩ := paid
    exact ⟨id, old, shared.payments.append_row_of_some _ found, rest⟩

end Calm

/-! ### Steady runs -/

/-- A payment of ours of the hash is still on its way to a node. -/
def OnItsWay (shared : Shared) (paymentHash : ℕ) : Prop :=
  shared.payments.rows.Any fun _ payment =>
    payment.key ≠ none ∧ payment.paymentHash = paymentHash ∧ payment.state = .transit

instance (shared : Shared) (paymentHash : ℕ) : Decidable (OnItsWay shared paymentHash) :=
  inferInstanceAs (Decidable (shared.payments.rows.Any _))

/-- A 404 comes after every payment of ours has landed or is lost; the node that is identified as the
recorded one is the one that answered the 404; and the node that is posted to is the one in the row. -/
def Keeps (shared : Shared) (answer : Answer) : Phase → Prop
  | .probing _ row => answer.outgoing.map Option.isNone = some true → ¬ OnItsWay shared row.paymentHash
  | .identifying _ row answered => answer.identified = true → row.nodeId = some shared.node →
      answered = shared.node
  | .posting _ _ nodeId _ => shared.node = nodeId
  | .preparing _ _ | .checking _ _ | .colliding _ _ _ | .stamping _ _ _ | .authorising _ _ | .calling _
  | .reading _ | .guarding _ _ _ | .versioning _ _ _ | .arming _ _ _ _ | .awaiting _ _ _
  | .consulting _ _ | .marking _ _ _ | .refusing _ _ _ => True

/-- **A steady step.** -/
def Steady (pool : Pool Shared Phase) : Schedule Request Answer Event → Prop
  | .advance id answer => ∀ phase ∈ pool.threads.row id, Keeps pool.shared answer phase
  | .spawn _ | .drop _ | .environment _ | .crash => True

/-! ### What the tasks know -/

/-- The key has no row, or a FAILED one. -/
def Vacant (shared : Shared) (key : Key) : Prop :=
  ∀ row, shared.pay.row key = some row → row.status = .failed

/-- No payment of ours of the hash is at the node. -/
def Silent (shared : Shared) (node paymentHash : ℕ) : Prop :=
  ∀ id key payment, Ours shared id key payment → payment.node = node →
    payment.paymentHash ≠ paymentHash

/-- The 404 came from the node that the row records. -/
def Proven (evidence : Option Evidence) : Prop :=
  ∀ proof ∈ evidence, proof.answered = proof.recorded

/-- What `start_pay` knows before it posts. -/
structure Ready (shared : Shared) (call : Call) (dest : ParsedDest) (evidence : Option Evidence) :
    Prop where
  quiet : Quiet shared call.key
  sole : Sole shared call.key dest.paymentHash
  proven : Proven evidence

/-- The row of the key, as it was read. -/
def Read (shared : Shared) (call : Call) (row : PayRow) : Prop :=
  shared.pay.row call.key = some row ∧ row.status = .prepared

/-- The phases in which a task holds the lock. -/
def Inside : Phase → Prop
  | .preparing _ _ | .calling _ => False
  | .checking _ _ | .colliding _ _ _ | .stamping _ _ _ | .authorising _ _ | .reading _ | .probing _ _
  | .identifying _ _ _ | .guarding _ _ _ | .versioning _ _ _ | .arming _ _ _ _ | .posting _ _ _ _
  | .awaiting _ _ _ | .consulting _ _ | .marking _ _ _ | .refusing _ _ _ => True

/-- **What is known inside.** -/
def Critical (shared : Shared) : Phase → Prop
  | .colliding key _ _ => Vacant shared key
  | .stamping key _ dest => Vacant shared key ∧ Sole shared key dest.paymentHash
  | .authorising key (.prepared _ paymentHash _) => Vacant shared key ∧ Sole shared key paymentHash
  | .authorising key (.failed _ _ _) => Vacant shared key
  | .probing call row => Read shared call row
  | .identifying call row answered => Read shared call row ∧ Silent shared answered row.paymentHash
  | .guarding call _ evidence => Quiet shared call.key ∧ Proven evidence
  | .versioning call dest evidence | .arming call dest _ evidence => Ready shared call dest evidence
  | .posting call dest nodeId evidence => Ready shared call dest evidence ∧
      ∃ row, shared.pay.row call.key = some row ∧ row.paymentHash = dest.paymentHash ∧
        row.status ≠ .failed ∧ row.nodeId = some nodeId
  | .awaiting call dest _ => Held shared call.key dest.paymentHash
  | .consulting key paymentHash => Held shared key paymentHash
  | .marking key paymentHash _ => Held shared key paymentHash ∧ Paid shared paymentHash
  | .refusing key _ _ => Quiet shared key
  | .preparing _ _ | .checking _ _ | .calling _ | .reading _ => True

/-- The lock of the pay map; nothing is known outside. -/
def payGuard : Guard Shared Phase where
  lock := Shared.lock
  inside := Inside
  critical := Critical
  free _ _ := True

section Guard

variable {before after : Shared}

theorem Vacant.calm {key : Key} (calm : Calm before after) (vacant : Vacant before key) :
    Vacant after key := by
  unfold Vacant
  rw [calm.pay]
  exact vacant

theorem Read.calm {call : Call} {row : PayRow} (calm : Calm before after)
    (read : Read before call row) : Read after call row := by
  unfold Read
  rw [calm.pay]
  exact read

theorem Silent.calm {node paymentHash : ℕ} (calm : Calm before after)
    (silent : Silent before node paymentHash) : Silent after node paymentHash := by
  intro id key payment ours same
  obtain ⟨old, before, hash, node'⟩ := calm.ours id key payment ours
  exact hash ▸ silent id key old before (node'.trans same)

theorem Ready.calm {call : Call} {dest : ParsedDest} {evidence : Option Evidence}
    (calm : Calm before after) (ready : Ready before call dest evidence) :
    Ready after call dest evidence :=
  ⟨ready.quiet.calm calm, ready.sole.calm calm, ready.proven⟩

theorem spares_of_calm (calm : Calm before after) : payGuard.Spares before after := by
  intro phase _ critical
  cases phase with
  | colliding key bolt11 dest => exact Vacant.calm calm critical
  | stamping key bolt11 dest => exact ⟨critical.1.calm calm, critical.2.calm calm⟩
  | authorising key persist =>
      cases persist with
      | prepared => exact ⟨critical.1.calm calm, critical.2.calm calm⟩
      | failed => exact Vacant.calm calm critical
  | probing call row => exact Read.calm calm critical
  | identifying call row answered => exact ⟨critical.1.calm calm, critical.2.calm calm⟩
  | guarding call dest evidence => exact ⟨critical.1.calm calm, critical.2⟩
  | versioning call dest evidence => exact Ready.calm calm critical
  | arming call dest nodeId evidence => exact Ready.calm calm critical
  | posting call dest nodeId evidence =>
      obtain ⟨ready, row⟩ := critical
      refine ⟨ready.calm calm, ?_⟩
      rw [calm.pay]
      exact row
  | awaiting call dest payment => exact Held.calm calm critical
  | consulting key paymentHash => exact Held.calm calm critical
  | marking key paymentHash paymentId => exact ⟨critical.1.calm calm, calm.paid _ critical.2⟩
  | refusing key bolt11 paymentHash => exact Quiet.calm calm critical
  | _ => trivial

variable {id : ℕ} {next : Option Phase}

/-- The holder owes nothing but the invariant and what it knows next. -/
theorem turn_inside (holder : before.lock = some id) (sound : Sound after)
    (self : ∀ phase, next = some phase → payGuard.holds after id phase) :
    payGuard.Turn Sound before id after next where
  invariant := sound
  self := self
  lock _ different same := absurd (Option.some.inj (same.symm.trans holder)) different
  frees _ _ _ := trivial
  spares own := absurd holder own

/-- The holder releases the lock and returns. -/
theorem turn_released (holder : before.lock = some id) (sound : Sound after) :
    payGuard.Turn Sound before id after.released.1 after.released.2 :=
  turn_inside holder (sound.locked none) fun _ is => by cases is

/-- The holder commits its write, releases the lock and returns. -/
theorem turn_committed (holder : before.lock = some id) (sound : Sound before)
    {write : Option (Table Key PayRow)}
    (written : ∀ pay, write = some pay → Sound { before with pay }) :
    payGuard.Turn Sound before id (before.committed write).1 (before.committed write).2 := by
  cases write with
  | none => exact turn_released holder sound
  | some pay => exact turn_released holder (written pay rfl)

/-- The holder writes, and goes on inside. -/
theorem turn_written (holder : before.lock = some id) (sound : Sound after)
    (same : after.lock = before.lock) {phase : Phase} (inside : Inside phase)
    (critical : Critical after phase) : payGuard.Turn Sound before id after (some phase) := by
  refine turn_inside holder sound ?_
  rintro _ ⟨⟩
  exact ⟨fun _ => same.trans holder, fun _ => critical, fun outside => absurd inside outside⟩

/-- The holder goes on inside. -/
theorem turn_on (holder : before.lock = some id) (sound : Sound before) {phase : Phase}
    (inside : Inside phase) (critical : Critical before phase) :
    payGuard.Turn Sound before id before (some phase) :=
  turn_written holder sound rfl inside critical

/-- The lock is taken by a task that waits for it, where it is free. -/
theorem turn_taken (sound : Sound before) (unlocked : before.lock = none) {phase : Phase}
    (inside : Inside phase) (critical : Critical { before with lock := some id } phase) :
    payGuard.Turn Sound before id { before with lock := some id } (some phase) where
  invariant := sound.locked _
  self := by
    rintro _ ⟨⟩
    exact ⟨fun _ => rfl, fun _ => critical, fun outside => absurd inside outside⟩
  lock _ _ held := by cases unlocked.symm.trans held
  frees _ _ _ := trivial
  spares _ := spares_of_calm (.of_same rfl rfl)

/-- A task outside waits, or returns. -/
theorem turn_aside (sound : Sound before) (outside : ∀ phase, next = some phase → ¬ Inside phase) :
    payGuard.Turn Sound before id before next where
  invariant := sound
  self phase is := ⟨fun inside => absurd inside (outside phase is),
    fun inside => absurd inside (outside phase is), fun _ => trivial⟩
  lock _ _ held := held
  frees _ _ _ := trivial
  spares _ := spares_of_calm (.of_same rfl rfl)

end Guard

/-! ### One step -/

section Steps

variable {decode : Text → Option ParsedDest} {schedule : FeeSchedule} {shared : Shared} {id : ℕ}

/-- `start_pay` refuses, or goes on to its reads. -/
theorem startPay_critical {call : Call} {evidence : Option Evidence} {now : ℤ} {phase : Phase}
    (starts : startPay decode call evidence now = some phase) (quiet : Quiet shared call.key)
    (proven : Proven evidence) : Inside phase ∧ Critical shared phase := by
  obtain ⟨dest, -, rfl⟩ := Option.map_eq_some_iff.mp starts
  split_ifs
  · exact ⟨trivial, quiet⟩
  · exact ⟨trivial, quiet, proven⟩
  · exact ⟨trivial, quiet⟩

/-- `start_pay` in a critical section. -/
theorem turn_started (holder : shared.lock = some id) (sound : Sound shared) {call : Call}
    {evidence : Option Evidence} {now : ℤ} (quiet : Quiet shared call.key) (proven : Proven evidence) :
    payGuard.Turn Sound shared id
      (match startPay decode call evidence now with
        | none => shared.released
        | some phase => (shared, some phase)).1
      (match startPay decode call evidence now with
        | none => shared.released
        | some phase => (shared, some phase)).2 := by
  cases starts : startPay decode call evidence now with
  | none => exact turn_released holder sound
  | some phase =>
      obtain ⟨inside, critical⟩ := startPay_critical starts quiet proven
      exact turn_on holder sound inside critical

/-- **A 404 of a node is proof about that node**, once nothing is on its way. -/
theorem silent_of_missing {paymentHash : ℕ}
    (missing : ¬ shared.Record shared.node paymentHash fun _ => True)
    (landed : ¬ OnItsWay shared paymentHash) : Silent shared shared.node paymentHash := by
  intro owner key payment ours node hash
  have present : payment.key ≠ none := by simp [ours.key]
  obtain transit | live | paid := ours.alive
  · exact landed ⟨owner, payment, ours.found, present, hash, transit⟩
  · exact missing ⟨owner, payment, ours.found, node, hash, .inl live, trivial⟩
  · exact missing ⟨owner, payment, ours.found, node, hash, .inr (.inl paid), trivial⟩

/-- A key whose node has nothing of its hash has no payment. -/
theorem Sound.quiet_of_silent (sound : Sound shared) {call : Call} {row : PayRow} {node : ℕ}
    (read : Read shared call row) (recorded : row.nodeId = some node)
    (silent : Silent shared node row.paymentHash) : Quiet shared call.key := by
  intro owner payment ours
  obtain ⟨row', found, hash, -, node'⟩ := sound.alive owner call.key payment ours
  cases read.1.symm.trans found
  exact silent owner call.key payment ours (Option.some.inj (node'.symm.trans recorded)) hash.symm

theorem sole_of_not_other {key : Key} {paymentHash : ℕ}
    (alone : ¬ PayOtherKeyForHash shared.pay paymentHash key) : Sole shared key paymentHash := by
  intro other row different found same
  by_contra standing
  exact alone ⟨other, row, found, same, different, standing⟩

/-- A paid record is of a payment that was made. -/
theorem paid_of_record {paymentHash : ℕ} {record : Outgoing} (isPaid : record.isPaid = true)
    (truth : shared.Record shared.node paymentHash fun state => record.isPaid = true ↔ state = .paid) :
    Paid shared paymentHash := by
  obtain ⟨owner, payment, found, -, hash, -, state⟩ := truth
  exact ⟨owner, payment, found, hash, state.mp isPaid⟩

/-- **A post**: the node of the row is asked for a payment of its hash. -/
theorem Sound.posted (sound : Sound shared) {key : Key} {row : PayRow}
    (found : shared.pay.row key = some row) (standing : row.status ≠ .failed)
    (node : row.nodeId = some shared.node) :
    Sound { shared with
      payments := shared.payments.append ⟨some key, row.paymentHash, shared.node, .transit⟩ } where
  alive owner other payment ours := by
    obtain ⟨-, rfl⟩ | before := (Journal.append_row_eq_some _ _ _ _).mp ours.found
    · cases ours.key
      exact ⟨row, found, rfl, standing, node⟩
    · exact sound.alive owner other payment ⟨before, ours.key, ours.alive⟩
  succeeded other found' here succeeded := by
    obtain ⟨owner, payment, before, rest⟩ := sound.succeeded other found' here succeeded
    exact ⟨owner, payment, shared.payments.append_row_of_some _ before, rest⟩
  sole := sound.sole

/-- The witness that was written. -/
theorem upserted_row {pay after : Table Key PayRow} {key : Key} {bolt11 : Text} {paymentHash nodeId : ℕ}
    (upserted : payUpsertPrepared pay key bolt11 paymentHash nodeId = some after) :
    ∃ row, after.row key = some row ∧ row.paymentHash = paymentHash ∧ row.status ≠ .failed ∧
      row.nodeId = some nodeId := by
  unfold payUpsertPrepared at upserted
  split at upserted
  · cases upserted
  · cases upserted
    exact ⟨_, Table.put_row_self _ _ _, rfl, by simp, rfl⟩

/-- Another key's row is as it was. -/
theorem upserted_sole {after : Table Key PayRow} {key : Key} {bolt11 : Text} {paymentHash nodeId : ℕ}
    (upserted : payUpsertPrepared shared.pay key bolt11 paymentHash nodeId = some after)
    (sole : Sole shared key paymentHash) : Sole { shared with pay := after } key paymentHash := by
  unfold payUpsertPrepared at upserted
  split at upserted
  · cases upserted
  · cases upserted
    intro other row different found
    change (shared.pay.put key _).row other = some row at found
    rw [Table.put_row_other _ _ different] at found
    exact sole other row different found

/-- **What one step of a task owes.** -/
theorem advance_turn (sound : Sound shared) {phase : Phase} {answer : Answer}
    (holds : payGuard.holds shared id phase) (truth : Truthful shared answer phase)
    (keeps : Keeps shared answer phase) :
    payGuard.Turn Sound shared id (advance decode schedule shared id answer phase).1
      (advance decode schedule shared id answer phase).2 := by
  cases phase with
  | preparing key bolt11 =>
      simp only [advance]
      split_ifs with unlocked
      · exact turn_taken sound unlocked trivial trivial
      · refine turn_aside sound ?_
        rintro _ ⟨⟩
        exact not_false
  | checking key bolt11 =>
      have holder := holds.lock trivial
      simp only [advance]
      split_ifs
      · exact turn_released holder sound
      · cases found : shared.pay.row key with
        | none =>
            cases decode bolt11 with
            | none => exact turn_released holder sound
            | some dest =>
                refine turn_on holder sound trivial fun row here => ?_
                cases found.symm.trans here
        | some row =>
            cases status : row.status with
            | prepared | succeeded =>
                simpa only [Option.map_some, status] using turn_released holder sound
            | failed =>
                cases decode bolt11 with
                | none => simpa only [Option.map_some, status] using turn_released holder sound
                | some dest =>
                    simp only [Option.map_some, status]
                    refine turn_on holder sound trivial fun row' here => ?_
                    cases found.symm.trans here
                    exact status
  | colliding key bolt11 dest =>
      have holder := holds.lock trivial
      have vacant : Vacant shared key := holds.critical trivial
      simp only [advance]
      split_ifs with failed collision
      · exact turn_released holder sound
      · exact turn_on holder sound trivial vacant
      · exact turn_on holder sound trivial ⟨vacant, sole_of_not_other collision⟩
  | stamping key bolt11 dest =>
      have holder := holds.lock trivial
      simp only [advance]
      split_ifs
      · exact turn_on holder sound trivial (holds.critical trivial)
      · exact turn_released holder sound
  | authorising key persist =>
      have holder := holds.lock trivial
      have critical := holds.critical trivial
      simp only [advance]
      split_ifs
      · exact turn_released holder sound
      · refine turn_committed holder sound fun pay run => ?_
        cases persist with
        | prepared bolt11 paymentHash nodeId =>
            exact sound.upserted_prepared (sound.quiet critical.1) critical.2 bolt11 nodeId pay run
        | failed bolt11 paymentHash terminalAt =>
            cases run
            exact sound.upserted_failed (sound.quiet critical) bolt11 terminalAt
  | calling call =>
      simp only [advance]
      split_ifs with unlocked
      · exact turn_taken sound unlocked trivial trivial
      · refine turn_aside sound ?_
        rintro _ ⟨⟩
        exact not_false
  | reading call =>
      have holder := holds.lock trivial
      simp only [advance]
      split_ifs
      · exact turn_released holder sound
      · cases found : shared.pay.row call.key with
        | none => exact turn_released holder sound
        | some row =>
            cases status : row.status with
            | succeeded => simpa only [status] using turn_released holder sound
            | prepared =>
                simp only [status]
                exact turn_on holder sound trivial ⟨found, status⟩
            | failed =>
                simp only [status]
                refine turn_started holder sound (sound.quiet fun row' here => ?_) fun _ is => ?_
                · cases found.symm.trans here
                  exact status
                · cases is
  | probing call row =>
      have holder := holds.lock trivial
      have read : Read shared call row := holds.critical trivial
      cases outgoing : answer.outgoing with
      | none => simpa only [advance, outgoing] using turn_released holder sound
      | some found =>
          simp only [Truthful, outgoing] at truth
          cases found with
          | none =>
              simp only [advance, outgoing]
              refine turn_on holder sound trivial ⟨read, silent_of_missing truth (keeps ?_)⟩
              simp [outgoing]
          | some record =>
              simp only [advance, outgoing]
              split_ifs with echo isPaid
              · exact turn_released holder sound
              · refine turn_on holder sound trivial ⟨⟨row, read.1, rfl, ?_⟩, ?_⟩
                · simp [read.2]
                · exact paid_of_record isPaid truth
              · exact turn_released holder sound
  | identifying call row answered =>
      have holder := holds.lock trivial
      obtain ⟨read, silent⟩ := holds.critical trivial
      simp only [advance]
      split_ifs with same
      · obtain rfl := keeps same.1 same.2
        refine turn_started holder sound (sound.quiet_of_silent read same.2 silent) ?_
        rintro _ ⟨⟩
        rfl
      · exact turn_released holder sound
  | guarding call dest evidence =>
      have holder := holds.lock trivial
      obtain ⟨quiet, proven⟩ := holds.critical trivial
      simp only [advance]
      split_ifs with failed collision costly
      · exact turn_released holder sound
      · exact turn_on holder sound trivial quiet
      · exact turn_on holder sound trivial quiet
      · exact turn_on holder sound trivial ⟨quiet, sole_of_not_other collision, proven⟩
  | versioning call dest evidence =>
      have holder := holds.lock trivial
      simp only [advance]
      split_ifs
      · exact turn_on holder sound trivial (holds.critical trivial)
      · exact turn_released holder sound
  | arming call dest nodeId evidence =>
      have holder := holds.lock trivial
      have ready : Ready shared call dest evidence := holds.critical trivial
      simp only [advance]
      split_ifs
      · exact turn_released holder sound
      · cases upserted :
            payUpsertPrepared shared.pay call.key call.bolt11 dest.paymentHash nodeId with
        | none => exact turn_released holder sound
        | some pay =>
            have sound' :=
              sound.upserted_prepared ready.quiet ready.sole call.bolt11 nodeId pay upserted
            refine turn_written holder sound' rfl trivial ⟨⟨fun owner payment ours => ?_,
              upserted_sole upserted ready.sole, ready.proven⟩, upserted_row upserted⟩
            exact ready.quiet owner payment ⟨ours.found, ours.key, ours.alive⟩
  | posting call dest nodeId evidence =>
      have holder := holds.lock trivial
      obtain ⟨ready, row, found, hash, standing, node⟩ := holds.critical trivial
      obtain rfl : shared.node = nodeId := keeps
      have posted := sound.posted found standing node
      rw [hash] at posted
      exact turn_written holder posted rfl trivial ⟨row, found, hash, standing⟩
  | awaiting call dest payment =>
      have holder := holds.lock trivial
      have held : Held shared call.key dest.paymentHash := holds.critical trivial
      cases attempt : answer.attempt with
      | none => simpa only [advance, attempt] using turn_released holder sound
      | some attempt' =>
          simp only [Truthful, attempt] at truth
          cases attempt' with
          | noReceipt =>
              simp only [advance, attempt]
              exact turn_on holder sound trivial held
          | paid paymentId paymentHash =>
              simp only [advance, attempt]
              split_ifs with other
              · exact turn_released holder sound
              · obtain rfl := not_not.mp other
                obtain ⟨-, paid⟩ := truth
                exact turn_on holder sound trivial ⟨held, paid⟩
  | consulting key paymentHash =>
      have holder := holds.lock trivial
      have held : Held shared key paymentHash := holds.critical trivial
      cases outgoing : answer.outgoing with
      | none => simpa only [advance, outgoing] using turn_released holder sound
      | some found =>
          simp only [Truthful, outgoing] at truth
          cases found with
          | none => simpa only [advance, outgoing] using turn_released holder sound
          | some record =>
              simp only [advance, outgoing]
              split_ifs with isPaid
              · exact turn_on holder sound trivial ⟨held, paid_of_record isPaid truth⟩
              · exact turn_released holder sound
  | marking key paymentHash paymentId =>
      have holder := holds.lock trivial
      obtain ⟨held, paid⟩ := holds.critical trivial
      simp only [advance]
      split_ifs
      · exact turn_released holder sound
      · exact turn_committed holder sound (sound.marked held paid paymentId answer.now)
  | refusing key bolt11 paymentHash =>
      have holder := holds.lock trivial
      have quiet : Quiet shared key := holds.critical trivial
      simp only [advance]
      split_ifs
      · exact turn_released holder sound
      · refine turn_committed holder sound ?_
        rintro _ ⟨⟩
        exact sound.upserted_failed quiet bolt11 answer.now

end Steps

/-! ### Completed payments -/

/-- **The writes of a step**: one statement at most. -/
inductive Written (pay : Table Key PayRow) : Table Key PayRow → Prop
  | same : Written pay pay
  | prepared {after : Table Key PayRow} {key : Key} {bolt11 : Text} {paymentHash nodeId : ℕ}
      (is : payUpsertPrepared pay key bolt11 paymentHash nodeId = some after) : Written pay after
  | failed (key : Key) (bolt11 : Text) (paymentHash : ℕ) (now : ℤ) :
      Written pay (payUpsertFailed pay key bolt11 paymentHash now)
  | marked {after : Table Key PayRow} {key : Key} {paymentHash paymentId : ℕ} {now : ℤ}
      (is : payMarkSucceeded pay key paymentHash paymentId now = some after) : Written pay after

/-- The row is SUCCEEDED and holds the hash. -/
def Completed (pay : Table Key PayRow) (key : Key) (paymentHash : ℕ) : Prop :=
  ∃ row, pay.row key = some row ∧ row.status = .succeeded ∧ row.paymentHash = paymentHash

/-- No statement takes a SUCCEEDED row back. -/
theorem Written.completed {pay after : Table Key PayRow} {key : Key} {paymentHash : ℕ}
    (written : Written pay after) (completed : Completed pay key paymentHash) :
    Completed after key paymentHash := by
  obtain ⟨row, found, succeeded, hash⟩ := completed
  have other : ∀ {owner : Key} {value : PayRow}, (∀ old, pay.row owner = some old →
      old.status ≠ .succeeded) → Completed (pay.put owner value) key paymentHash := by
    intro owner value unfinished
    have different : key ≠ owner := by
      rintro rfl
      exact unfinished row found succeeded
    exact ⟨row, (Table.put_row_other _ _ different).trans found, succeeded, hash⟩
  cases written with
  | same => exact ⟨row, found, succeeded, hash⟩
  | @prepared _ owner bolt11 paymentHash' nodeId is =>
      unfold payUpsertPrepared at is
      split at is
      · cases is
      · rename_i unfinished
        cases is
        refine other fun old found' status => unfinished ?_
        rw [found', Option.map_some, status]
  | failed owner bolt11 paymentHash' now =>
      unfold payUpsertFailed
      split
      · exact ⟨row, found, succeeded, hash⟩
      · rename_i unfinished found'
        refine other fun old found'' => ?_
        cases found'.symm.trans found''
        exact unfinished
      · rename_i none
        exact other fun old found' => by cases none.symm.trans found'
  | @marked _ owner paymentHash' paymentId now is =>
      unfold payMarkSucceeded at is
      cases found' : pay.row owner with
      | none => simp [found'] at is
      | some old =>
          simp only [found', Option.ite_none_right_eq_some, Option.some.injEq] at is
          obtain ⟨-, rfl⟩ := is
          by_cases own : key = owner
          · subst own
            cases found.symm.trans found'
            exact ⟨_, Table.put_row_self _ _ _, rfl, hash⟩
          · exact ⟨row, (Table.put_row_other _ _ own).trans found, succeeded, hash⟩

theorem written_committed {shared : Shared} {write : Option (Table Key PayRow)}
    (written : ∀ pay, write = some pay → Written shared.pay pay) :
    Written shared.pay (shared.committed write).1.pay := by
  cases write with
  | none => exact .same
  | some pay => exact written pay rfl

theorem advance_written (decode : Text → Option ParsedDest) (schedule : FeeSchedule) (shared : Shared)
    (id : ℕ) (answer : Answer) (phase : Phase) :
    Written shared.pay (advance decode schedule shared id answer phase).1.pay := by
  cases phase with
  | authorising key persist =>
      simp only [advance]
      split_ifs
      · exact .same
      · refine written_committed fun pay run => ?_
        cases persist with
        | prepared => exact .prepared run
        | failed =>
            cases run
            exact .failed _ _ _ _
  | arming call dest nodeId evidence =>
      simp only [advance]
      split_ifs
      · exact .same
      · split
        · exact .same
        · rename_i upserted
          exact .prepared upserted
  | marking key paymentHash paymentId =>
      simp only [advance]
      split_ifs
      · exact .same
      · exact written_committed fun pay marked => .marked marked
  | refusing key bolt11 paymentHash =>
      simp only [advance]
      split_ifs
      · exact .same
      · exact written_committed fun pay is => by
          cases is
          exact .failed _ _ _ _
  | posting => exact .same
  | preparing | colliding | stamping | calling | guarding | versioning =>
      simp only [advance]
      split_ifs <;> exact .same
  | checking | reading | identifying =>
      simp only [advance]
      split_ifs
      all_goals repeat' split
      all_goals exact .same
  | probing | awaiting | consulting =>
      simp only [advance]
      repeat' split
      all_goals exact .same

/-- A SUCCEEDED row is never left. -/
theorem completed_step (decode : Text → Option ParsedDest) (schedule : FeeSchedule) (start : Shared)
    (pool : Pool Shared Phase) (choice : Schedule Request Answer Event) {key : Key} {paymentHash : ℕ}
    (completed : Completed pool.shared.pay key paymentHash) :
    Completed ((phoenixdPay decode schedule start).step pool choice).shared.pay key paymentHash := by
  cases choice with
  | spawn request => exact completed
  | crash => exact completed
  | environment event => cases event <;> exact completed
  | advance id answer =>
      cases found : pool.threads.row id with
      | none => simpa only [Program.step, found] using completed
      | some phase =>
          simp only [Program.step, found]
          exact (advance_written decode schedule pool.shared id answer phase).completed completed
  | drop id =>
      cases found : pool.threads.row id with
      | none => simpa only [Program.step, found] using completed
      | some phase =>
          simp only [Program.step, found, phoenixdPay]
          split_ifs <;> exact completed

/-! ### The result -/

/-- **The pay map keeps its discipline.** -/
theorem phoenixdPay_discipline (decode : Text → Option ParsedDest) (schedule : FeeSchedule)
    {start : Shared} (begins : Sound start) :
    payGuard.Discipline Sound (phoenixdPay decode schedule start)
      fun pool choice => Contract pool choice ∧ Steady pool choice where
  start := begins
  spawn shared id request := by
    cases request <;> exact ⟨rfl, not_false, trivial⟩
  advance pool id phase answer meets found sound holds :=
    advance_turn sound holds (meets.1 phase found) (meets.2 phase found)
  drop shared id phase sound holds := by
    simp only [phoenixdPay]
    split_ifs with holder
    · exact turn_released holder sound
    · exact turn_aside sound fun _ is => by cases is
  environment pool event _ sound := by
    have calm : Calm pool.shared ((phoenixdPay decode schedule start).environment pool.shared event) := by
      cases event with
      | lands payment recorded => exact calm_shift _ _ (.inl rfl) (by simp)
      | settles payment succeeds => exact calm_shift _ _ (.inr (.inl rfl)) (by simp)
      | foreign paymentHash node => exact calm_foreign _ _ _
      | repoint node => exact .of_same rfl rfl
    refine ⟨sound.calm calm, ?_, fun _ _ _ => trivial, spares_of_calm calm⟩
    cases event <;> rfl
  crash shared sound := sound.locked none

/-- **The map is true of what was posted.** -/
structure Faithful (pool : Pool Shared Phase) : Prop where
  /-- Nothing that was posted for a FAILED row is outstanding or paid. -/
  failed : ∀ key row, pool.shared.pay.row key = some row → row.status = .failed →
    ∀ id payment, pool.shared.payments.rows.row id = some payment → payment.key = some key →
      payment.paymentHash = row.paymentHash → ¬ Alive payment.state
  sole : ∀ first second one two, pool.shared.pay.row first = some one →
    pool.shared.pay.row second = some two → one.status ≠ .failed → two.status ≠ .failed →
      one.paymentHash = two.paymentHash → first = second
  succeeded : ∀ key row, pool.shared.pay.row key = some row → row.status = .succeeded →
    Paid pool.shared row.paymentHash
  /-- A hash that is about to be posted was not paid by us, and is not in flight. -/
  posts : ∀ id call dest nodeId evidence,
    pool.threads.row id = some (.posting call dest nodeId evidence) →
      ∀ other payment, pool.shared.payments.rows.row other = some payment →
        payment.paymentHash = dest.paymentHash → payment.key ≠ none → ¬ Alive payment.state
  /-- It is posted after a 404 only of the node that its row recorded. -/
  proven : ∀ id call dest nodeId evidence,
    pool.threads.row id = some (.posting call dest nodeId evidence) → Proven evidence

theorem Sound.faithful {pool : Pool Shared Phase}
    (asserted : Asserted (fun _ => Sound) payGuard.holds pool) : Faithful pool := by
  have sound : Sound pool.shared := asserted.invariant
  have about : ∀ id call dest nodeId evidence,
      pool.threads.row id = some (.posting call dest nodeId evidence) →
        Critical pool.shared (.posting call dest nodeId evidence) := fun id call dest nodeId evidence found =>
    (asserted.thread id _ found).critical trivial
  refine ⟨fun key row found failed id payment here owner hash alive => ?_,
    fun first second one two here there standing standing' same => ?_, sound.succeeded,
    fun id call dest nodeId evidence found other payment here hash present alive => ?_,
    fun id call dest nodeId evidence found => (about id call dest nodeId evidence found).1.proven⟩
  · obtain ⟨row', found', -, standing, -⟩ := sound.alive id key payment ⟨here, owner, alive⟩
    cases found.symm.trans found'
    exact standing failed
  · by_contra different
    exact standing' (sound.sole first one here standing second two (Ne.symm different) there same.symm)
  · obtain ⟨ready, -⟩ := about id call dest nodeId evidence found
    obtain ⟨key, owner⟩ := Option.ne_none_iff_exists'.mp present
    obtain ⟨row, found', hash', standing, -⟩ := sound.alive other key payment ⟨here, owner, alive⟩
    by_cases own : key = call.key
    · subst own
      exact ready.quiet other payment ⟨here, owner, alive⟩
    · exact standing (ready.sole key row own found' (hash'.trans hash))

/-- **The pay map is faithful** in every steady run, from any sound state; and a SUCCEEDED row is never
left, in any run. -/
theorem pay_map_faithful (decode : Text → Option ParsedDest) (schedule : FeeSchedule) (start : Shared)
    (begins : Sound start) (choices : List (Schedule Request Answer Event))
    (contract : (phoenixdPay decode schedule start).machine.Meets Contract choices) :
    ((phoenixdPay decode schedule start).machine.Meets Steady choices →
      Faithful ((phoenixdPay decode schedule start).machine.run choices)) ∧
    ∀ key paymentHash,
      Completed ((phoenixdPay decode schedule start).machine.run choices).shared.pay key paymentHash →
        ∀ more, Completed ((phoenixdPay decode schedule start).machine.run
          (choices ++ more)).shared.pay key paymentHash := by
  refine ⟨fun steady => ?_, fun key paymentHash completed more => ?_⟩
  · have both := (phoenixdPay decode schedule start).machine.meetsFrom_and choices _ contract steady
    exact Sound.faithful
      ((phoenixdPay_discipline decode schedule begins).outline.asserted choices both)
  · have after := (phoenixdPay decode schedule start).machine.runFrom_append choices more
      (phoenixdPay decode schedule start).machine.start
    rw [show (phoenixdPay decode schedule start).machine.run (choices ++ more) = _ from after]
    exact @Machine.invariant_from _ _ (phoenixdPay decode schedule start).machine (fun _ _ => True)
      (fun pool => Completed pool.shared.pay key paymentHash)
      (fun pool choice _ => completed_step decode schedule start pool choice) more _
      (Machine.meetsFrom_true _ more _) completed

/-! ### Three runs -/

instance (shared : Shared) (answer : Answer) (phase : Phase) :
    Decidable (Keeps shared answer phase) :=
  match phase with
  | .probing _ _ => inferInstanceAs (Decidable (_ → ¬ OnItsWay _ _))
  | .identifying _ _ _ => inferInstanceAs (Decidable (_ → _ → _))
  | .posting _ _ _ _ => inferInstanceAs (Decidable (_ = _))
  | .preparing _ _ | .checking _ _ | .colliding _ _ _ | .stamping _ _ _ | .authorising _ _ | .calling _
  | .reading _ | .guarding _ _ _ | .versioning _ _ _ | .arming _ _ _ _ | .awaiting _ _ _
  | .consulting _ _ | .marking _ _ _ | .refusing _ _ _ => .isTrue trivial

instance (pool : Pool Shared Phase) (choice : Schedule Request Answer Event) :
    Decidable (Steady pool choice) :=
  match choice with
  | .advance _ _ => inferInstanceAs (Decidable (∀ phase ∈ (_ : Option Phase), _))
  | .spawn _ | .drop _ | .environment _ | .crash => .isTrue trivial

/-- A map without rows; node 1 answers, and was asked for nothing yet. -/
def fresh : Shared := ⟨Table.empty, Journal.empty, 1, none⟩

theorem sound_fresh : Sound fresh where
  alive _ _ _ ours := by
    obtain ⟨found, -, -⟩ := ours
    cases found
  succeeded _ _ found := by cases found
  sole _ _ found := by cases found

/-- Every text parses, as an invoice of 10 sat until 1000. -/
def plainDecode (bolt11 : Text) : Option ParsedDest :=
  some ⟨bolt11, some 10000, 1000⟩

/-- `payinvoice` charges 4 sat and 0.4 %. -/
def plainSchedule : FeeSchedule := ⟨4000, 4000⟩

/-- The program from the fresh state. -/
abbrev plainPay : Program Shared Phase Request Answer Event :=
  phoenixdPay plainDecode plainSchedule fresh

/-- The steps of a preparation, where no other key holds the hash. -/
def preparing (id : ℕ) (key : Key) (bolt11 : Text) : List (Schedule Request Answer Event) :=
  [.spawn (.prepare key bolt11), .advance id {}, .advance id {}, .advance id {},
    .advance id { identified := true }, .advance id {}]

/-- A payment that finds its row PREPARED, up to the answer of its lookup: a 404. -/
def missing (id : ℕ) (key : Key) (bolt11 : Text) : List (Schedule Request Answer Event) :=
  [.spawn (.pay ⟨key, bolt11, 10, some 15000⟩), .advance id {}, .advance id {},
    .advance id { outgoing := some none }]

/-- It goes on from the 404 to the post. -/
def posting (id : ℕ) : List (Schedule Request Answer Event) :=
  [.advance id { identified := true }, .advance id {}, .advance id { identified := true },
    .advance id {}, .advance id {}]

/-- Two keys are prepared for one invoice; the first post times out and is lost, and the second one of
the same key is paid. -/
def retrying : List (Schedule Request Answer Event) :=
  preparing 0 1 7 ++
    ([.spawn (.prepare 2 7), .advance 1 {}, .advance 1 {}, .advance 1 {}, .advance 1 {}] :
      List (Schedule Request Answer Event)) ++
    missing 2 1 7 ++ posting 2 ++
    ([.environment (.lands 1 false), .advance 2 {}] : List (Schedule Request Answer Event)) ++
    missing 3 1 7 ++ posting 3 ++
    ([.environment (.lands 2 true), .environment (.settles 2 true),
      .advance 3 { attempt := some (.paid 9 7) }, .advance 3 {}] :
      List (Schedule Request Answer Event))

theorem pay_map_faithful_retrying :
    plainPay.machine.Meets Contract retrying ∧ plainPay.machine.Meets Steady retrying ∧
      Faithful (plainPay.machine.run retrying) := by
  have contract : plainPay.machine.Meets Contract retrying := by
    decide +kernel
  have steady : plainPay.machine.Meets Steady retrying := by
    decide +kernel
  exact ⟨contract, steady,
    (pay_map_faithful plainDecode plainSchedule fresh sound_fresh retrying contract).1 steady⟩

/-- A post times out and is paid. Another node answers the next lookup, and the first one is back when it
is asked who it is. -/
def swapping : List (Schedule Request Answer Event) :=
  preparing 0 1 7 ++ missing 1 1 7 ++ posting 1 ++
    [.environment (.lands 1 true), .environment (.settles 1 true), .advance 1 {},
      .environment (.repoint 2)] ++ missing 2 1 7 ++ [.environment (.repoint 1)] ++ posting 2

/-- **A hash is posted twice**: to the node that paid it, on the 404 of another one. -/
theorem hash_posted_twice :
    plainPay.machine.Meets Contract swapping ∧
      (plainPay.machine.run swapping).shared.payments.rows.row 1 = some ⟨some 1, 7, 1, .paid⟩ ∧
      (plainPay.machine.run swapping).shared.payments.rows.row 2 = some ⟨some 1, 7, 1, .transit⟩ := by
  decide +kernel

/-- The process crashes while its post is on the way, and asks for the hash before it lands. -/
def crashing : List (Schedule Request Answer Event) :=
  preparing 0 1 7 ++ missing 1 1 7 ++ posting 1 ++ [.crash] ++ missing 2 1 7 ++ posting 2

/-- Both posts of a hash are on their way. -/
theorem hash_posted_in_transit :
    plainPay.machine.Meets Contract crashing ∧
      (plainPay.machine.run crashing).shared.payments.rows.row 1 = some ⟨some 1, 7, 1, .transit⟩ ∧
      (plainPay.machine.run crashing).shared.payments.rows.row 2 = some ⟨some 1, 7, 1, .transit⟩ := by
  decide +kernel

end Lnrent.Phoenixd
