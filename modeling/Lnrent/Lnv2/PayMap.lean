/-
**The lnv2 pay map is sound.** Preparations, payments of any keys and invoices, the GC and crashes
interleave; the client keeps its contract.

* `Carries` — the operation is in the log under the key;
* `Sound` — the invariant of the map, the log and the operations funded;
* `Sole`, `Claims` — what the holder of the lock knows of its row;
* `Log`, `Calm` — what no step changes, and what no step without the lock changes;
* `advance_turn` — what one step of a task owes;
* `pay_map_sound` — **one operation funded for each invoice, each row true of its own key, and no
  operation named twice**.
-/

import Lnrent.Daemon.Lnv2Pay
import Lnrent.Transition.Lock

namespace Lnrent.Lnv2

open Relational Transition Lnv2Pay

/-! ### The invariant -/

/-- The operation is in the log, under the key. -/
def Carries (shared : Shared) (key : Key) (op : OperationId) : Prop :=
  ∃ state, shared.operations op = some ⟨some key, state⟩

/-- No other key's row names the operation, unless FAILED. -/
def Sole (shared : Shared) (key : Key) (op : OperationId) : Prop :=
  ∀ other row, other ≠ key → shared.pay.row other = some row → row.operationId = op →
    row.status = .failed

/-- **The invariant.** -/
structure Sound (shared : Shared) : Prop where
  /-- An operation that succeeded or may succeed has the row of its key. -/
  live : ∀ op key state, shared.operations op = some ⟨some key, state⟩ → state ≠ .failed →
    ∃ row, shared.pay.row key = some row ∧ row.operationId = op ∧ row.status ≠ .failed
  pending : ∀ key row, shared.pay.row key = some row → row.status = .pending →
    Carries shared key row.operationId
  succeeded : ∀ key row, shared.pay.row key = some row → row.status = .succeeded →
    shared.operations row.operationId = some ⟨some key, .succeeded⟩
  sole : ∀ key row, shared.pay.row key = some row → row.status ≠ .failed →
    Sole shared key row.operationId
  funded : shared.funded.Nodup
  first : ∀ op ∈ shared.funded, (∃ invoice, op = .send invoice 0) ∧ shared.operations op ≠ none

section Sound

variable {shared : Shared} {key : Key} {op : OperationId}

/-- The lock is not part of the invariant. -/
theorem Sound.locked (sound : Sound shared) (lock : Option ℕ) : Sound { shared with lock } :=
  ⟨sound.live, sound.pending, sound.succeeded, sound.sole, sound.funded, sound.first⟩

/-- The operation of a key that may still succeed is the one its row names. -/
theorem Sound.named (sound : Sound shared) {row : PayRow} {state : OperationState}
    (found : shared.pay.row key = some row) (here : shared.operations op = some ⟨some key, state⟩)
    (alive : state ≠ .failed) : row.operationId = op ∧ row.status ≠ .failed := by
  obtain ⟨row', found', rest⟩ := sound.live op key state here alive
  cases found.symm.trans found'
  exact rest

/-- **A row is put.** It names what of its key may still succeed, it is true of its own key, and it
shares its operation with no row that is not FAILED. -/
theorem Sound.put (sound : Sound shared) {row : PayRow}
    (live : ∀ op state, shared.operations op = some ⟨some key, state⟩ → state ≠ .failed →
      row.operationId = op ∧ row.status ≠ .failed)
    (pending : row.status = .pending → Carries shared key row.operationId)
    (succeeded : row.status = .succeeded →
      shared.operations row.operationId = some ⟨some key, .succeeded⟩)
    (sole : row.status ≠ .failed → Sole shared key row.operationId) :
    Sound { shared with pay := shared.pay.put key row } where
  live op other state here alive := by
    show ∃ found, (shared.pay.put key row).row other = some found ∧ _
    rw [Table.put_row]
    split_ifs with own
    · subst own
      exact ⟨row, rfl, live op state here alive⟩
    · exact sound.live op other state here alive
  pending other found here := by
    change (shared.pay.put key row).row other = some found at here
    rw [Table.put_row] at here
    split_ifs at here with own
    · cases here
      subst own
      exact pending
    · exact sound.pending other found here
  succeeded other found here := by
    change (shared.pay.put key row).row other = some found at here
    rw [Table.put_row] at here
    split_ifs at here with own
    · cases here
      subst own
      exact succeeded
    · exact sound.succeeded other found here
  sole other found here alive := by
    intro third sibling different there same
    change (shared.pay.put key row).row other = some found at here
    change (shared.pay.put key row).row third = some sibling at there
    rw [Table.put_row] at here there
    split_ifs at here there with own own' own'
    · exact absurd (own'.trans own.symm) different
    · cases here
      subst own
      exact sole alive third sibling different there same
    · cases there
      subst own'
      by_contra alive'
      exact alive (sole alive' other found different.symm here same.symm)
    · exact sound.sole other found here alive third sibling different there same
  funded := sound.funded
  first := sound.first

end Sound

/-! ### The statements -/

section Statements

variable {shared : Shared} {key : Key} {op : OperationId}

/-- The rows of the key name the operation. -/
def Own (shared : Shared) (key : Key) (op : OperationId) : Prop :=
  ∀ row, shared.pay.row key = some row → row.operationId = op

/-- A preparation commits its row. -/
theorem Sound.inserted (sound : Sound shared) {row : PayRow}
    (fresh : row.status = .failed ∨ row.status = .prepared ∧ Sole shared key row.operationId) :
    Sound { shared with pay := payInsert shared.pay key row } := by
  unfold payInsert
  cases found : shared.pay.row key with
  | some old => exact sound
  | none =>
      refine sound.put (fun op state here alive => ?_) (fun pending => ?_) (fun succeeded => ?_)
        fun alive => ?_
      · obtain ⟨old, found', -⟩ := sound.live op key state here alive
        cases found.symm.trans found'
      · rcases fresh with status | ⟨status, -⟩ <;> cases status.symm.trans pending
      · rcases fresh with status | ⟨status, -⟩ <;> cases status.symm.trans succeeded
      · rcases fresh with status | ⟨-, sole⟩
        · exact absurd status alive
        · exact sole

/-- A row is bound to its operation. -/
theorem Sound.bound (sound : Sound shared) (carries : Carries shared key op)
    (sole : Sole shared key op) (own : Own shared key op) :
    ∀ pay, paySetOp shared.pay key op .pending = some pay → Sound { shared with pay } := by
  intro pay bound
  obtain ⟨row, found, rfl⟩ := Option.map_eq_some_iff.mp bound
  refine sound.put (fun other state here alive => ⟨?_, by simp⟩) (fun _ => carries)
    (fun succeeded => by cases succeeded) fun _ => sole
  exact (own row found).symm.trans (sound.named found here alive).1

/-- A row is marked FAILED whose operation failed, or was never funded for the key. -/
theorem Sound.marked_failed (sound : Sound shared)
    (ended : ∀ state, shared.operations op = some ⟨some key, state⟩ → state = .failed) (now : ℤ) :
    Sound { shared with pay := payMark shared.pay key op .failed now } := by
  unfold payMark
  cases found : shared.pay.row key with
  | none => exact sound
  | some row =>
      simp only
      split_ifs with same
      · refine sound.put (fun other state here alive => ?_) (fun pending => by cases pending)
          (fun succeeded => by cases succeeded) fun alive => absurd rfl alive
        obtain ⟨same', -⟩ := sound.named found here alive
        cases same.symm.trans same'
        exact absurd (ended state here) alive
      · exact sound

/-- A row is marked SUCCEEDED whose operation succeeded. -/
theorem Sound.marked_succeeded (sound : Sound shared)
    (succeeded : shared.operations op = some ⟨some key, .succeeded⟩) (now : ℤ) :
    Sound { shared with pay := payMark shared.pay key op .succeeded now } := by
  unfold payMark
  cases found : shared.pay.row key with
  | none => exact sound
  | some row =>
      simp only
      split_ifs with same
      · refine sound.put (fun other state here alive => ?_) (fun pending => by cases pending)
          (fun _ => ?_) fun _ => ?_
        · exact ⟨(sound.named found here alive).1, by simp⟩
        · rwa [same]
        · exact sound.sole key row found (sound.named found succeeded (by simp)).2
      · exact sound

/-- A row is parked whose operation is not the key's. -/
theorem Sound.parked (sound : Sound shared) (own : Own shared key op)
    (foreign : ¬ Carries shared key op) (now : ℤ) :
    ∀ pay, payParkCollisionFailed shared.pay key now = some pay → Sound { shared with pay } := by
  intro pay parked
  obtain ⟨row, found, rfl⟩ := Option.map_eq_some_iff.mp parked
  refine sound.put (fun other state here alive => ?_) (fun pending => by cases pending)
    (fun succeeded => by cases succeeded) fun alive => absurd rfl alive
  have same := (own row found).symm.trans (sound.named found here alive).1
  exact absurd ⟨state, same ▸ here⟩ foreign

end Statements

/-! ### The log -/

/-- **What no step changes**: an operation keeps its key, and how it ended. -/
def Log (before after : Shared) : Prop :=
  ∀ op key state, before.operations op = some ⟨some key, state⟩ →
    ∃ state', after.operations op = some ⟨some key, state'⟩ ∧ (state ≠ .live → state' = state)

/-- **What no step without the lock changes**: nothing is funded, no row comes or is revived, and a
PREPARED row stays whose operation is not the key's. -/
structure Calm (before after : Shared) : Prop where
  absent : ∀ op, before.operations op = none → after.operations op = none
  carried : ∀ op key, Carries after key op → Carries before key op
  rows : ∀ key row, after.pay.row key = some row → ∃ old, before.pay.row key = some old ∧
    row.operationId = old.operationId ∧ (old.status = .failed → row.status = .failed)
  prepared : ∀ key row, before.pay.row key = some row → row.status = .prepared →
    ¬ Carries before key row.operationId → after.pay.row key = some row

section Log

variable {before after shared : Shared} {key : Key} {op : OperationId}

theorem Log.of_same (same : after.operations = before.operations) : Log before after :=
  fun op _ state here => ⟨state, (congrFun same op).trans here, fun _ => rfl⟩

theorem Carries.log (log : Log before after) (carries : Carries before key op) :
    Carries after key op := by
  obtain ⟨state, here⟩ := carries
  obtain ⟨state', there, -⟩ := log op key state here
  exact ⟨state', there⟩

theorem Log.ended (log : Log before after) {state : OperationState}
    (here : before.operations op = some ⟨some key, state⟩) (ended : state ≠ .live) :
    after.operations op = some ⟨some key, state⟩ := by
  obtain ⟨state', there, same⟩ := log op key state here
  rwa [same ended] at there

theorem Calm.of_same (pay : after.pay = before.pay) (operations : after.operations = before.operations) :
    Calm before after where
  absent op none := (congrFun operations op).trans none
  carried op key carries := by
    unfold Carries at carries ⊢
    rwa [operations] at carries
  rows key row found := ⟨row, pay ▸ found, rfl, fun failed => failed⟩
  prepared key row found _ _ := pay ▸ found

theorem Sole.calm (calm : Calm before after) (sole : Sole before key op) : Sole after key op := by
  intro other row different found same
  obtain ⟨old, found', same', failed⟩ := calm.rows other row found
  exact failed (sole other old different found' (same'.symm.trans same))

theorem Own.calm (calm : Calm before after) (own : Own before key op) : Own after key op := by
  intro row found
  obtain ⟨old, found', same, -⟩ := calm.rows key row found
  exact same.trans (own old found')

/-- The operation ends. -/
theorem resolve_cases (shared : Shared) (op : OperationId) (succeeds : Bool) :
    shared.resolve op succeeds = shared ∨ ∃ lnrentKey, shared.operations op = some ⟨lnrentKey, .live⟩ ∧
      shared.resolve op succeeds = { shared with
        operations := Function.update shared.operations op
          (some ⟨lnrentKey, if succeeds then .succeeded else .failed⟩) } := by
  unfold Shared.resolve
  split
  · rename_i lnrentKey here
    exact .inr ⟨lnrentKey, here, rfl⟩
  · exact .inl rfl

theorem log_resolve (shared : Shared) (op : OperationId) (succeeds : Bool) :
    Log shared (shared.resolve op succeeds) := by
  obtain same | ⟨lnrentKey, here, same⟩ := resolve_cases shared op succeeds
  · rw [same]
    exact .of_same rfl
  · rw [same]
    intro other key state there
    by_cases own : other = op
    · subst own
      cases here.symm.trans there
      exact ⟨_, Function.update_self _ _ _, fun ended => absurd rfl ended⟩
    · exact ⟨state, (Function.update_of_ne own _ _).trans there, fun _ => rfl⟩

theorem calm_resolve (shared : Shared) (op : OperationId) (succeeds : Bool) :
    Calm shared (shared.resolve op succeeds) := by
  obtain same | ⟨lnrentKey, here, same⟩ := resolve_cases shared op succeeds
  · rw [same]
    exact .of_same rfl rfl
  · rw [same]
    refine ⟨fun other none => ?_, fun other key carries => ?_,
      fun _ row found => ⟨row, found, rfl, fun failed => failed⟩, fun _ _ found _ _ => found⟩
    · have different : other ≠ op := by
        rintro rfl
        cases here.symm.trans none
      exact (Function.update_of_ne different _ _).trans none
    · obtain ⟨state, there⟩ := carries
      by_cases own : other = op
      · subst own
        change Function.update shared.operations other _ other = _ at there
        rw [Function.update_self] at there
        cases there
        exact ⟨.live, here⟩
      · exact ⟨state, (Function.update_of_ne own _ _).symm.trans there⟩

/-- The end of an operation keeps the invariant. -/
theorem Sound.resolved (sound : Sound shared) (op : OperationId) (succeeds : Bool) :
    Sound (shared.resolve op succeeds) := by
  have log := log_resolve shared op succeeds
  have calm := calm_resolve shared op succeeds
  obtain same | ⟨lnrentKey, here, same⟩ := resolve_cases shared op succeeds
  · rwa [same]
  · have rows : (shared.resolve op succeeds).pay = shared.pay := by rw [same]
    have history : (shared.resolve op succeeds).funded = shared.funded := by rw [same]
    refine ⟨fun other key state there alive => ?_, fun key row found pending => ?_,
      fun key row found succeeded => ?_, ?_, history ▸ sound.funded, fun other member => ?_⟩
    · rw [rows]
      by_cases own : other = op
      · subst own
        obtain ⟨before, here'⟩ := calm.carried other key ⟨state, there⟩
        cases here.symm.trans here'
        exact sound.live other key .live here (by simp)
      · rw [same] at there
        exact sound.live other key state ((Function.update_of_ne own _ _).symm.trans there) alive
    · rw [rows] at found
      exact (sound.pending key row found pending).log log
    · rw [rows] at found
      exact log.ended (sound.succeeded key row found succeeded) (by simp)
    · unfold Sole
      rw [rows]
      exact sound.sole
    · rw [history] at member
      obtain ⟨first, present⟩ := sound.first other member
      refine ⟨first, fun none => present ?_⟩
      by_cases own : other = op
      · subst own
        rw [same] at none
        change Function.update shared.operations other _ other = _ at none
        rw [Function.update_self] at none
        cases none
      · rw [same] at none
        exact (Function.update_of_ne own _ _).symm.trans none

/-- The GC deletes FAILED rows only. -/
theorem gc_row {pay : Table Key PayRow} {unixepoch now : ℤ} {row : PayRow} :
    ((gcLnv2PayIndex pay unixepoch now).row key = some row → pay.row key = some row) ∧
      (pay.row key = some row → row.status ≠ .failed →
        (gcLnv2PayIndex pay unixepoch now).row key = some row) := by
  unfold gcLnv2PayIndex
  rw [Table.delete_row_eq_some]
  exact ⟨fun found => found.1, fun found alive => ⟨found, fun failed => alive failed.1⟩⟩

theorem Sound.collected (sound : Sound shared) (unixepoch now : ℤ) :
    Sound { shared with pay := gcLnv2PayIndex shared.pay unixepoch now } where
  live op key state here alive := by
    obtain ⟨row, found, same, alive'⟩ := sound.live op key state here alive
    exact ⟨row, gc_row.2 found alive', same, alive'⟩
  pending key row found := sound.pending key row (gc_row.1 found)
  succeeded key row found := sound.succeeded key row (gc_row.1 found)
  sole key row found alive other sibling different there :=
    sound.sole key row (gc_row.1 found) alive other sibling different (gc_row.1 there)
  funded := sound.funded
  first := sound.first

theorem calm_collected (shared : Shared) (unixepoch now : ℤ) :
    Calm shared { shared with pay := gcLnv2PayIndex shared.pay unixepoch now } where
  absent _ none := none
  carried _ _ carries := carries
  rows _ row found := ⟨row, gc_row.1 found, rfl, fun failed => failed⟩
  prepared _ _ found prepared _ := gc_row.2 found (by simp [prepared])

end Log

/-! ### What the tasks know -/

/-- What the holder of the lock knows after it read its PREPARED row. -/
structure Claims (shared : Shared) (key : Key) (op : OperationId) : Prop where
  sole : Sole shared key op
  own : Own shared key op
  mine : Carries shared key op ∨
    ∃ row, shared.pay.row key = some row ∧ row.operationId = op ∧ row.status = .prepared

/-- What it knows after it found the operation absent. -/
structure Bare (shared : Shared) (key : Key) (op : OperationId) : Prop where
  sole : Sole shared key op
  absent : shared.operations op = none
  row : ∃ row, shared.pay.row key = some row ∧ row.operationId = op ∧ row.status = .prepared

section Claims

variable {before after shared : Shared} {key : Key} {op : OperationId}

theorem Bare.own (bare : Bare shared key op) : Own shared key op := by
  obtain ⟨row, found, same, -⟩ := bare.row
  intro row' found'
  cases found.symm.trans found'
  exact same

theorem Claims.bare (claims : Claims shared key op) (absent : shared.operations op = none) :
    Bare shared key op where
  sole := claims.sole
  absent := absent
  row := claims.mine.resolve_left fun carries => by
    obtain ⟨state, here⟩ := carries
    cases here.symm.trans absent

theorem Bare.claims (bare : Bare shared key op) : Claims shared key op :=
  ⟨bare.sole, bare.own, .inr bare.row⟩

theorem Claims.calm (log : Log before after) (calm : Calm before after)
    (claims : Claims before key op) : Claims after key op where
  sole := claims.sole.calm calm
  own := claims.own.calm calm
  mine := by
    by_cases carries : Carries before key op
    · exact .inl (carries.log log)
    · obtain ⟨row, found, rfl, prepared⟩ := claims.mine.resolve_left carries
      exact .inr ⟨row, calm.prepared key row found prepared carries, rfl, prepared⟩

theorem Bare.calm (log : Log before after) (calm : Calm before after)
    (bare : Bare before key op) : Bare after key op :=
  (bare.claims.calm log calm).bare (calm.absent op bare.absent)

end Claims

/-- The phases in which a task holds the lock. -/
def Inside : Phase → Prop
  | .preparing _ _ | .calling _ | .awaiting _ _ | .marking _ _ _ => False
  | .checking _ _ | .colliding _ _ _ | .authorising _ _ | .reading _ | .looking _ _ | .starting _ _
  | .quoting _ _ _ | .sending _ _ | .adopting _ _ _ | .binding _ _ _ | .refusing _ _ | .parking _ => True

/-- **What is known inside.** No dedup answer is ever met: the operation is absent when `send()` is
called. -/
def Critical (decode : Text → Option Parsed) (shared : Shared) : Phase → Prop
  | .authorising key row =>
      row.status = .failed ∨ row.status = .prepared ∧ Sole shared key row.operationId
  | .looking call op => Claims shared call.key op
  | .starting call op => Bare shared call.key op
  | .quoting call op _ | .sending call op => Bare shared call.key op ∧
      ∃ parsed, decode call.bolt11 = some parsed ∧ op = .send parsed.invoice 0
  | .adopting _ _ _ => False
  | .binding key op status =>
      status = .pending ∧ Carries shared key op ∧ Sole shared key op ∧ Own shared key op
  | .refusing key op => Bare shared key op
  | .parking key => ∃ op, Own shared key op ∧ ¬ Carries shared key op
  | .preparing _ _ | .checking _ _ | .colliding _ _ _ | .calling _ | .reading _ | .awaiting _ _
  | .marking _ _ _ => True

/-- **What is known outside.** -/
def Free (shared : Shared) : Phase → Prop
  | .awaiting key op => Carries shared key op
  | .marking key op status =>
      (status = .succeeded ∧ shared.operations op = some ⟨some key, .succeeded⟩) ∨
        (status = .failed ∧ shared.operations op = some ⟨some key, .failed⟩)
  | .preparing _ _ | .checking _ _ | .colliding _ _ _ | .authorising _ _ | .calling _ | .reading _
  | .looking _ _ | .starting _ _ | .quoting _ _ _ | .sending _ _ | .adopting _ _ _ | .binding _ _ _
  | .refusing _ _ | .parking _ => True

/-- The lock of the pay map. -/
def payGuard (decode : Text → Option Parsed) : Guard Shared Phase where
  lock := Shared.lock
  inside := Inside
  critical := Critical decode
  free := Free

section Guard

variable {decode : Text → Option Parsed} {before after : Shared}

theorem frees_of_log (log : Log before after) : (payGuard decode).Frees before after := by
  intro phase _ free
  cases phase with
  | awaiting key op => exact Carries.log log free
  | marking key op status =>
      obtain ⟨rfl, here⟩ | ⟨rfl, here⟩ := free
      · exact .inl ⟨rfl, log.ended here (by simp)⟩
      · exact .inr ⟨rfl, log.ended here (by simp)⟩
  | _ => trivial

theorem spares_of_calm (log : Log before after) (calm : Calm before after) :
    (payGuard decode).Spares before after := by
  intro phase _ critical
  cases phase with
  | authorising key row =>
      obtain failed | ⟨prepared, sole⟩ := critical
      · exact .inl failed
      · exact .inr ⟨prepared, sole.calm calm⟩
  | looking call op => exact Claims.calm log calm critical
  | starting call op => exact Bare.calm log calm critical
  | quoting call op _ => exact ⟨critical.1.calm log calm, critical.2⟩
  | sending call op => exact ⟨critical.1.calm log calm, critical.2⟩
  | adopting => exact critical.elim
  | binding key op status =>
      obtain ⟨pending, carries, sole, own⟩ := critical
      exact ⟨pending, carries.log log, sole.calm calm, own.calm calm⟩
  | refusing key op => exact Bare.calm log calm critical
  | parking key =>
      obtain ⟨op, own, foreign⟩ := critical
      exact ⟨op, own.calm calm, fun carries => foreign (calm.carried op key carries)⟩
  | _ => trivial

variable {id : ℕ} {next : Option Phase}

/-- The holder owes nothing but the invariant, the log, and what it knows next. -/
theorem turn_inside (holder : before.lock = some id) (sound : Sound after) (log : Log before after)
    (self : ∀ phase, next = some phase → (payGuard decode).holds after id phase) :
    (payGuard decode).Turn Sound before id after next where
  invariant := sound
  self := self
  lock _ different same := absurd (Option.some.inj (same.symm.trans holder)) different
  frees := frees_of_log log
  spares own := absurd holder own

/-- The holder writes, releases the lock and returns. -/
theorem turn_released (holder : before.lock = some id) {pay : Table Key PayRow}
    (sound : Sound { before with pay }) :
    (payGuard decode).Turn Sound before id { before with pay, lock := none } none :=
  turn_inside holder (sound.locked none) (.of_same rfl) fun _ is => by cases is

/-- The holder releases the lock and returns. -/
theorem turn_stopped (holder : before.lock = some id) (sound : Sound before) :
    (payGuard decode).Turn Sound before id before.released.1 before.released.2 :=
  @turn_released decode before id holder before.pay sound

/-- The holder goes on inside, and writes nothing. -/
theorem turn_on (holder : before.lock = some id) (sound : Sound before) {phase : Phase}
    (inside : Inside phase) (critical : Critical decode before phase) :
    (payGuard decode).Turn Sound before id before (some phase) := by
  refine turn_inside holder sound (.of_same rfl) ?_
  rintro _ ⟨⟩
  exact ⟨fun _ => holder, fun _ => critical, fun outside => absurd inside outside⟩

/-- A task outside moves. -/
theorem turn_outside (sound : Sound after) (log : Log before after) (calm : Calm before after)
    (lock : ∀ other, other ≠ id → before.lock = some other → after.lock = some other)
    (self : ∀ phase, next = some phase → (payGuard decode).holds after id phase) :
    (payGuard decode).Turn Sound before id after next where
  invariant := sound
  self := self
  lock := lock
  frees := frees_of_log log
  spares _ := spares_of_calm log calm

end Guard

/-! ### One step -/

section Steps

variable {decode : Text → Option Parsed} {shared : Shared} {id : ℕ} {key : Key} {op : OperationId}

/-- A terminal mark is calm: it revives no row, and a row whose operation is not the key's stays. -/
theorem calm_marked (sound : Sound shared) {status : Status}
    (known : Free shared (.marking key op status)) (now : ℤ) :
    Calm shared { shared with pay := payMark shared.pay key op status now } := by
  have carries : Carries shared key op := by
    obtain ⟨-, here⟩ | ⟨-, here⟩ := known <;> exact ⟨_, here⟩
  unfold payMark
  cases found : shared.pay.row key with
  | none => exact .of_same rfl rfl
  | some row =>
      simp only
      split_ifs with same
      · refine ⟨fun _ none => none, fun _ _ carries => carries, fun other row' found' => ?_,
          fun other row' found' prepared foreign => ?_⟩
        · change (shared.pay.put key _).row other = some row' at found'
          rw [Table.put_row] at found'
          split_ifs at found' with own
          · cases found'
            subst own
            refine ⟨row, found, rfl, fun failed => ?_⟩
            obtain ⟨-, here⟩ | ⟨failed', -⟩ := known
            · exact absurd failed (sound.named found here (by simp)).2
            · exact failed'
          · exact ⟨row', found', rfl, fun failed => failed⟩
        · have different : other ≠ key := by
            rintro rfl
            cases found.symm.trans found'
            exact foreign (same ▸ carries)
          exact (Table.put_row_other _ _ different).trans found'
      · exact .of_same rfl rfl

/-- **The operation of a PREPARED row is funded**, under its key. -/
theorem Sound.started (sound : Sound shared) (bare : Bare shared key op)
    (first : ∃ invoice, op = .send invoice 0) :
    Sound { shared with
      operations := Function.update shared.operations op (some ⟨some key, .live⟩)
      funded := op :: shared.funded } := by
  obtain ⟨row, found, names, prepared⟩ := bare.row
  have different : ∀ other, shared.operations other ≠ none → other ≠ op := by
    rintro other present rfl
    exact present bare.absent
  refine ⟨fun other owner state here alive => ?_, fun owner row' found' pending => ?_,
    fun owner row' found' succeeded => ?_, sound.sole, ?_, fun other member => ?_⟩
  · by_cases own : other = op
    · subst own
      change Function.update shared.operations other _ other = _ at here
      rw [Function.update_self] at here
      cases here
      exact ⟨row, found, names, by simp [prepared]⟩
    · exact sound.live other owner state ((Function.update_of_ne own _ _).symm.trans here) alive
  · obtain ⟨state, here⟩ := sound.pending owner row' found' pending
    exact ⟨state, (Function.update_of_ne (different _ (by simp [here])) _ _).trans here⟩
  · have here := sound.succeeded owner row' found' succeeded
    exact (Function.update_of_ne (different _ (by simp [here])) _ _).trans here
  · refine List.nodup_cons.mpr ⟨fun member => ?_, sound.funded⟩
    exact (sound.first op member).2 bare.absent
  · obtain rfl | member := List.mem_cons.mp member
    · refine ⟨first, ?_⟩
      change Function.update shared.operations other _ other ≠ none
      rw [Function.update_self]
      simp
    · obtain ⟨first', present⟩ := sound.first other member
      exact ⟨first', fun none =>
        present ((Function.update_of_ne (different other present) _ _).symm.trans none)⟩

theorem log_started (absent : shared.operations op = none) :
    Log shared { shared with
      operations := Function.update shared.operations op (some ⟨some key, .live⟩)
      funded := op :: shared.funded } := by
  intro other owner state here
  have different : other ≠ op := by
    rintro rfl
    cases absent.symm.trans here
  exact ⟨state, (Function.update_of_ne different _ _).trans here, fun _ => rfl⟩

/-- The lookup of an operation that the key's row names. -/
theorem lookup_cases {lnrentKey : Option Key}
    (truth : (shared.operations op).map Operation.lnrentKey = some lnrentKey) :
    (lnrentKey = some key → Carries shared key op) ∧ (lnrentKey ≠ some key → ¬ Carries shared key op) := by
  obtain ⟨⟨owner, state⟩, here, rfl⟩ := Option.map_eq_some_iff.mp truth
  refine ⟨fun own => ⟨state, ?_⟩, ?_⟩
  · rw [← own]
    exact here
  · rintro foreign ⟨state', here'⟩
    cases here.symm.trans here'
    exact foreign rfl

/-- **While attempt 0 is absent it is the one that `send()` starts**, and no dedup answer comes. -/
theorem sent_first {invoice : ℕ} (absent : shared.operations (.send invoice 0) = none)
    {found : OperationId} (attempt : Attempt shared invoice found) : found = .send invoice 0 := by
  cases found with
  | collision => exact attempt.elim
  | send other number =>
      obtain ⟨rfl, earlier⟩ := attempt
      cases number with
      | zero => rfl
      | succ number =>
          have failed := earlier 0 (Nat.succ_pos number)
          rw [absent] at failed
          cases failed

/-- The lock is taken by a task that waits for it, where it is free. -/
theorem turn_taken (sound : Sound shared) (unlocked : shared.lock = none) {phase : Phase}
    (inside : Inside phase) (critical : Critical decode { shared with lock := some id } phase) :
    (payGuard decode).Turn Sound shared id { shared with lock := some id } (some phase) := by
  refine turn_outside (sound.locked _) (.of_same rfl) (.of_same rfl rfl) ?_ ?_
  · intro other _ held
    cases unlocked.symm.trans held
  · rintro _ ⟨⟩
    exact ⟨fun _ => rfl, fun _ => critical, fun outside => absurd inside outside⟩

/-- A task outside moves without a write. -/
theorem turn_aside (sound : Sound shared) {next : Option Phase}
    (self : ∀ phase, next = some phase → ¬ Inside phase ∧ Free shared phase) :
    (payGuard decode).Turn Sound shared id shared next := by
  refine turn_outside sound (.of_same rfl) (.of_same rfl rfl) (fun _ _ held => held) ?_
  intro phase is
  obtain ⟨outside, free⟩ := self phase is
  exact ⟨fun inside => absurd inside outside, fun inside => absurd inside outside, fun _ => free⟩

/-- The checks before a send go on, or refuse. -/
theorem preflight_critical {call : Call} {parsed : Parsed} (bare : Bare shared call.key op)
    (decoded : decode call.bolt11 = some parsed) (first : op = .send parsed.invoice 0) :
    Inside (preflight call op parsed) ∧ Critical decode shared (preflight call op parsed) := by
  unfold preflight
  split_ifs
  · exact ⟨trivial, bare⟩
  · cases call.ceilingMsat with
    | none => exact ⟨trivial, bare, parsed, decoded, first⟩
    | some ceilingMsat => exact ⟨trivial, bare, parsed, decoded, first⟩

/-- **What one step of a task owes.** -/
theorem advance_turn (sound : Sound shared) {phase : Phase} {answer : Answer}
    (holds : (payGuard decode).holds shared id phase) (truth : Truthful decode shared answer phase) :
    (payGuard decode).Turn Sound shared id (advance decode shared id answer phase).1
      (advance decode shared id answer phase).2 := by
  cases phase with
  | preparing key bolt11 =>
      simp only [advance]
      split_ifs with unlocked
      · exact turn_taken sound unlocked trivial trivial
      · refine turn_aside sound ?_
        rintro _ ⟨⟩
        exact ⟨not_false, trivial⟩
  | checking key bolt11 =>
      have holder := holds.lock trivial
      simp only [advance]
      split_ifs
      · exact turn_stopped holder sound
      · cases sendOperationId decode bolt11 with
        | none => exact turn_stopped holder sound
        | some op => exact turn_on holder sound trivial trivial
  | colliding key bolt11 op =>
      have holder := holds.lock trivial
      simp only [advance]
      split_ifs with failed collision
      · exact turn_stopped holder sound
      · exact turn_on holder sound trivial (.inl rfl)
      · refine turn_on holder sound trivial (.inr ⟨rfl, fun other row different found same => ?_⟩)
        by_contra alive
        exact collision ⟨other, row, found, same, different, alive⟩
  | authorising key row =>
      have holder := holds.lock trivial
      simp only [advance]
      split_ifs
      · exact turn_stopped holder sound
      · exact turn_released holder (sound.inserted (holds.critical trivial))
  | calling call =>
      simp only [advance]
      split_ifs with unlocked
      · exact turn_taken sound unlocked trivial trivial
      · refine turn_aside sound ?_
        rintro _ ⟨⟩
        exact ⟨not_false, trivial⟩
  | reading call =>
      have holder := holds.lock trivial
      simp only [advance]
      split_ifs
      · exact turn_stopped holder sound
      · cases found : shared.pay.row call.key with
        | none => exact turn_stopped holder sound
        | some row =>
            cases status : row.status with
            | succeeded | failed => simpa only [status] using turn_stopped holder sound
            | pending =>
                simp only [status]
                refine turn_inside holder (sound.locked none) (.of_same rfl) ?_
                rintro _ ⟨⟩
                exact ⟨fun inside => inside.elim, fun inside => inside.elim, fun _ =>
                  sound.pending call.key row found status⟩
            | prepared =>
                simp only [status]
                refine turn_on holder sound trivial ⟨?_, ?_, .inr ⟨row, found, rfl, status⟩⟩
                · exact sound.sole call.key row found (by simp [status])
                · intro row' found'
                  cases found.symm.trans found'
                  rfl
  | looking call op =>
      have holder := holds.lock trivial
      have claims : Claims shared call.key op := holds.critical trivial
      cases lookup : answer.lookup with
      | none => simpa only [advance, lookup] using turn_stopped holder sound
      | some found =>
          simp only [Truthful, lookup] at truth
          cases found with
          | missing =>
              simp only [advance, lookup]
              exact turn_on holder sound trivial (claims.bare truth)
          | present lnrentKey =>
              simp only [advance, lookup]
              split_ifs with own
              · exact turn_on holder sound trivial
                  ⟨rfl, (lookup_cases truth).1 own, claims.sole, claims.own⟩
              · exact turn_on holder sound trivial ⟨op, claims.own, (lookup_cases truth).2 own⟩
  | starting call op =>
      have holder := holds.lock trivial
      have bare : Bare shared call.key op := holds.critical trivial
      cases decoded : decode call.bolt11 with
      | none => simpa only [advance, decoded] using turn_stopped holder sound
      | some parsed =>
          simp only [advance, decoded]
          split_ifs with different
          · exact turn_stopped holder sound
          · cases lookup : answer.lookup with
            | none => exact turn_stopped holder sound
            | some found =>
                simp only [Truthful, lookup] at truth
                cases found with
                | missing =>
                    obtain ⟨inside, critical⟩ :=
                      preflight_critical bare decoded (not_not.mp different)
                    exact turn_on holder sound inside critical
                | present lnrentKey =>
                    simp only
                    split_ifs with own
                    · exact turn_on holder sound trivial
                        ⟨rfl, (lookup_cases truth).1 own, bare.sole, bare.own⟩
                    · exact turn_on holder sound trivial
                        ⟨op, bare.own, (lookup_cases truth).2 own⟩
  | quoting call op ceilingMsat =>
      have holder := holds.lock trivial
      obtain ⟨bare, parsed, decoded, first⟩ := holds.critical trivial
      cases outlay : answer.outlayMsat with
      | none => simpa only [advance, outlay] using turn_stopped holder sound
      | some outlayMsat =>
          simp only [advance, outlay]
          split_ifs
          · exact turn_on holder sound trivial bare
          · exact turn_on holder sound trivial ⟨bare, parsed, decoded, first⟩
  | sending call op =>
      have holder := holds.lock trivial
      obtain ⟨bare, parsed, decoded, rfl⟩ := holds.critical trivial
      have contract : SendContract shared parsed.invoice answer.sent := truth parsed decoded
      cases sent : answer.sent with
      | started op =>
          rw [sent] at contract
          obtain rfl := sent_first bare.absent contract.1
          simp only [advance, sent]
          refine turn_inside holder (sound.started bare ⟨_, rfl⟩) (log_started bare.absent) ?_
          rintro _ ⟨⟩
          refine ⟨fun _ => holder, fun _ => ⟨rfl, ⟨.live, Function.update_self _ _ _⟩, ?_, ?_⟩,
            fun outside => absurd trivial outside⟩
          · exact bare.sole
          · exact bare.own
      | inProgress op | alreadyPaid op =>
          rw [sent] at contract
          obtain rfl := sent_first bare.absent contract.1
          have state := contract.2
          rw [bare.absent] at state
          cases state
      | rejected =>
          simp only [advance, sent]
          exact turn_on holder sound trivial bare
      | retryable => simpa only [advance, sent] using turn_stopped holder sound
  | adopting call op status => exact (holds.critical trivial).elim
  | binding key op status =>
      have holder := holds.lock trivial
      obtain ⟨rfl, carries, sole, own⟩ := holds.critical trivial
      simp only [advance]
      split_ifs
      · exact turn_stopped holder sound
      · cases bound : paySetOp shared.pay key op .pending with
        | none => exact turn_stopped holder sound
        | some pay =>
            refine turn_inside holder ((sound.bound carries sole own pay bound).locked none)
              (.of_same rfl) ?_
            rintro _ ⟨⟩
            exact ⟨fun inside => inside.elim, fun inside => inside.elim, fun _ => carries⟩
  | refusing key op =>
      have holder := holds.lock trivial
      have bare : Bare shared key op := holds.critical trivial
      simp only [advance]
      split_ifs
      · exact turn_stopped holder sound
      · refine turn_released holder (sound.marked_failed (fun state here => ?_) answer.now)
        cases bare.absent.symm.trans here
  | parking key =>
      have holder := holds.lock trivial
      obtain ⟨op, own, foreign⟩ := holds.critical trivial
      simp only [advance]
      split_ifs
      · exact turn_stopped holder sound
      · cases parked : payParkCollisionFailed shared.pay key answer.now with
        | none => exact turn_stopped holder sound
        | some pay => exact turn_released holder (sound.parked own foreign answer.now pay parked)
  | awaiting key op =>
      have carries : Carries shared key op := holds.free not_false
      obtain ⟨state, here⟩ := carries
      cases final : answer.final with
      | none =>
          simp only [advance, final]
          exact turn_aside sound fun _ is => by cases is
      | some final' =>
          simp only [Truthful, final, FinalContract, here] at truth
          cases final' with
          | success =>
              cases truth
              simp only [advance, final]
              refine turn_aside sound ?_
              rintro _ ⟨⟩
              exact ⟨not_false, .inl ⟨rfl, here⟩⟩
          | refunded | failure =>
              cases truth
              simp only [advance, final]
              refine turn_aside sound ?_
              rintro _ ⟨⟩
              exact ⟨not_false, .inr ⟨rfl, here⟩⟩
  | marking key op status =>
      have known : Free shared (.marking key op status) := holds.free not_false
      simp only [advance]
      split_ifs
      · exact turn_aside sound fun _ is => by cases is
      · refine turn_outside ?_ (.of_same rfl) (calm_marked sound known answer.now)
          (fun _ _ held => held) fun _ is => by cases is
        obtain ⟨rfl, here⟩ | ⟨rfl, here⟩ := known
        · exact sound.marked_succeeded here answer.now
        · refine sound.marked_failed (fun state here' => ?_) answer.now
          cases here.symm.trans here'
          rfl

end Steps

/-! ### The runs -/

/-- **The pay map keeps its discipline.** -/
theorem lnv2Pay_discipline (decode : Text → Option Parsed) {start : Shared} (begins : Sound start) :
    (payGuard decode).Discipline Sound (lnv2Pay decode start) (Contract decode) where
  start := begins
  spawn shared id request := by
    cases request <;> exact ⟨rfl, not_false, trivial⟩
  advance pool id phase answer contract found sound holds :=
    advance_turn sound holds (contract phase found)
  drop shared id phase sound holds := by
    simp only [lnv2Pay]
    split_ifs with holder
    · exact turn_stopped holder sound
    · exact turn_aside sound fun _ is => by cases is
  environment pool event _ sound := by
    cases event with
    | resolves op succeeds =>
        have log := log_resolve pool.shared op succeeds
        refine ⟨sound.resolved op succeeds, ?_, frees_of_log log,
          spares_of_calm log (calm_resolve pool.shared op succeeds)⟩
        show (pool.shared.resolve op succeeds).lock = pool.shared.lock
        obtain same | ⟨_, -, same⟩ := resolve_cases pool.shared op succeeds <;> rw [same]
    | gc unixepoch now =>
        exact ⟨sound.collected unixepoch now, rfl, frees_of_log (.of_same rfl),
          spares_of_calm (.of_same rfl) (calm_collected pool.shared unixepoch now)⟩
  crash shared sound := sound.locked none

/-- The operation is some attempt to pay the invoice. -/
def Pays (invoice : ℕ) (op : OperationId) : Prop :=
  ∃ attempt, op = .send invoice attempt

instance (invoice : ℕ) (op : OperationId) : Decidable (Pays invoice op) :=
  match op with
  | .send other attempt => decidable_of_iff (other = invoice)
      (by simp [Pays])
  | .collision => .isFalse (by simp [Pays])

/-- **The map neither pays twice nor lies about a key.** -/
structure Faithful (shared : Shared) : Prop where
  once : ∀ invoice, (shared.funded.filter fun op => Pays invoice op).length ≤ 1
  first : ∀ op ∈ shared.funded, ∃ invoice, op = .send invoice 0
  succeeded : ∀ key row, shared.pay.row key = some row → row.status = .succeeded →
    shared.operations row.operationId = some ⟨some key, .succeeded⟩
  failed : ∀ key row, shared.pay.row key = some row → row.status = .failed →
    ∀ op state, shared.operations op = some ⟨some key, state⟩ → state = .failed
  sole : ∀ first second one two, shared.pay.row first = some one → shared.pay.row second = some two →
    one.status ≠ .failed → two.status ≠ .failed → one.operationId = two.operationId → first = second

/-- A list without repetition whose members are all the same has one at most. -/
theorem length_le_one_of_nodup {α : Type} {list : List α} (nodup : list.Nodup)
    (same : ∀ first ∈ list, ∀ second ∈ list, first = second) : list.length ≤ 1 := by
  match list with
  | [] => exact Nat.zero_le 1
  | [_] => exact le_rfl
  | first :: second :: rest =>
      have equal := same first List.mem_cons_self second (by simp)
      exact absurd (by simp [equal]) (List.nodup_cons.mp nodup).1

theorem Sound.faithful {shared : Shared} (sound : Sound shared) : Faithful shared where
  once invoice := by
    refine length_le_one_of_nodup (sound.funded.filter _) ?_
    have only : ∀ op ∈ shared.funded.filter fun op => Pays invoice op, op = .send invoice 0 := by
      intro op member
      obtain ⟨member, pays⟩ := List.mem_filter.mp member
      obtain ⟨attempt, rfl⟩ := of_decide_eq_true pays
      obtain ⟨⟨other, same⟩, -⟩ := sound.first _ member
      cases same
      rfl
    exact fun first one second two => (only first one).trans (only second two).symm
  first op member := (sound.first op member).1
  succeeded := sound.succeeded
  failed key row found failed op state here := by
    by_contra alive
    exact (sound.named found here alive).2 failed
  sole first second one two here there alive alive' same := by
    by_contra different
    exact alive' (sound.sole first one here alive second two (Ne.symm different) there same.symm)

/-- **The pay map is sound.** From any sound state and in any interleaving: each invoice has one
operation funded at most, of attempt 0; a SUCCEEDED row names an operation of its key that succeeded; a
FAILED one has none of its key that succeeded or may; and two rows that are not FAILED name different
operations. -/
theorem pay_map_sound (decode : Text → Option Parsed) (start : Shared) (begins : Sound start)
    (choices : List (Schedule Request Answer Event))
    (contract : (lnv2Pay decode start).machine.Meets (Contract decode) choices) :
    Faithful ((lnv2Pay decode start).machine.run choices).shared :=
  ((lnv2Pay_discipline decode begins).outline.asserted choices contract).invariant.faithful

/-! ### A run -/

/-- A map without rows, and a log without operations. -/
def fresh : Shared := ⟨Table.empty, fun _ => none, none, []⟩

theorem sound_fresh : Sound fresh where
  live _ _ _ here := by cases here
  pending _ _ found := by cases found
  succeeded _ _ found := by cases found
  sole _ _ found := by cases found
  funded := List.nodup_nil
  first _ member := by cases member

/-- Every text parses, as an invoice of 10 sat. -/
def plainDecode (bolt11 : Text) : Option Parsed :=
  some ⟨bolt11, some 10000⟩

/-- Two keys are prepared for one invoice, the first one is called twice at once, and the process
crashes inside the first send; the payment succeeds. -/
def contested : List (Schedule Request Answer Event) :=
  let missing : Answer := { lookup := some .missing }
  [.spawn (.prepare 1 7), .spawn (.prepare 2 7), .advance 0 {}, .advance 0 {}, .advance 0 {},
    .advance 0 {}, .advance 1 {}, .advance 1 {}, .advance 1 {}, .advance 1 {},
    .spawn (.pay ⟨1, 7, 10, none⟩), .spawn (.pay ⟨1, 7, 10, none⟩), .spawn (.pay ⟨2, 7, 10, none⟩),
    .advance 2 {}, .advance 3 {}, .advance 2 {}, .advance 2 missing, .advance 2 missing,
    .advance 2 { sent := .started (.send 7 0) }, .crash,
    .spawn (.pay ⟨1, 7, 10, none⟩), .advance 5 {}, .advance 5 {},
    .advance 5 { lookup := some (.present (some 1)) }, .advance 5 {},
    .environment (.resolves (.send 7 0) true), .advance 5 { final := some .success }, .advance 5 {}]

theorem pay_map_sound_contested :
    (lnv2Pay plainDecode fresh).machine.Meets (Contract plainDecode) contested ∧
      ((lnv2Pay plainDecode fresh).machine.run contested).shared.funded = [.send 7 0] ∧
      Faithful ((lnv2Pay plainDecode fresh).machine.run contested).shared := by
  have contract : (lnv2Pay plainDecode fresh).machine.Meets (Contract plainDecode) contested := by
    decide +kernel
  exact ⟨contract, by decide +kernel, pay_map_sound plainDecode fresh sound_fresh contested contract⟩

end Lnrent.Lnv2
