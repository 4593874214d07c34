/-
**A refund is paid once.**

* `Idle`, `Conform` — **the condition**: the backend keeps its contract, and one that may pay a failed
  invoice again has at most one drive of an attempt under way;
* `PaidOnce` — at most one payment of an attempt is under way or went through, and one of a SENT attempt
  did;
* `Orderly`, `step_orderly` — the invariant of the pool, kept by every choice of the scheduler;
* `refund_paid_once`; `overlapping_drives_pay_twice` — what two drives of one attempt may come to.
-/

import Lnrent.Refund.Gate

namespace Lnrent.Refunder

open Relational Transition Ledger Refund

/-! ### The condition -/

/-- A thread drives the attempt. -/
def Drives (externalId : ExternalId) (thread : Option Drive) : Prop :=
  ∃ drive ∈ thread, drive.externalId = externalId

instance (externalId : ExternalId) (thread : Option Drive) : Decidable (Drives externalId thread) :=
  inferInstanceAs (Decidable (∃ drive ∈ thread, drive.externalId = externalId))

/-- No drive of the attempt is under way, nor a store job of one that was dropped. -/
def Idle (pool : Pool Shared (Option Drive)) (externalId : ExternalId) : Prop :=
  ¬ pool.threads.Any (fun _ thread => Drives externalId thread) ∧
    ∀ orphan ∈ pool.shared.orphans, orphan.externalId ≠ externalId

instance (pool : Pool Shared (Option Drive)) (externalId : ExternalId) :
    Decidable (Idle pool externalId) :=
  inferInstanceAs (Decidable (_ ∧ _))

/-- **The backend keeps its contract.** -/
def Honest (seams : Seams) (pool : Pool Shared (Option Drive)) :
    Schedule ExternalId Answer Event → Prop
  | .advance id answer =>
      ∀ drive ∈ (pool.threads.row id).join, Truthful seams pool.shared.wallet drive answer
  | _ => True

instance (seams : Seams) (pool : Pool Shared (Option Drive))
    (choice : Schedule ExternalId Answer Event) : Decidable (Honest seams pool choice) := by
  unfold Honest
  split <;> infer_instance

/-- **The condition**: the backend keeps its contract, and one that may pay a failed invoice again has
at most one drive of an attempt under way. -/
def Conform (seams : Seams) (pool : Pool Shared (Option Drive))
    (choice : Schedule ExternalId Answer Event) : Prop :=
  Honest seams pool choice ∧
    match choice with
    | .spawn externalId => seams.reusesFailedInvoice = true → Idle pool externalId
    | _ => True

instance (seams : Seams) (pool : Pool Shared (Option Drive))
    (choice : Schedule ExternalId Answer Event) : Decidable (Conform seams pool choice) := by
  unfold Conform
  split <;> infer_instance

/-- **Every refund is paid at most once**, and a SENT one was. -/
structure PaidOnce (shared : Shared) : Prop where
  once : ∀ externalId first second, Outstanding (shared.wallet (.refund externalId first)) →
    Outstanding (shared.wallet (.refund externalId second)) → first = second
  sent : ∀ externalId, ∀ row ∈ shared.store.refundAttempt.row externalId, row.status = .sent →
    Paid shared.wallet externalId

/-! ### The runs -/

section Runs

variable {seams : Seams} {pool : Pool Shared (Option Drive)}

/-- A drive rests at the thread. -/
def At (pool : Pool Shared (Option Drive)) (id : ℕ) (drive : Drive) : Prop :=
  pool.threads.row id = some (some drive)

/-- **One at a time**: an attempt has at most one drive, or the store job of one. -/
structure Alone (pool : Pool Shared (Option Drive)) : Prop where
  live : ∀ id other drive sibling, At pool id drive → At pool other sibling →
    drive.externalId = sibling.externalId → id = other
  apart : ∀ id drive, At pool id drive → ∀ orphan ∈ pool.shared.orphans,
    orphan.externalId ≠ drive.externalId
  orphans : pool.shared.orphans.Pairwise fun first second => first.externalId ≠ second.externalId

/-- **The invariant of the pool.** -/
structure Orderly (seams : Seams) (pool : Pool Shared (Option Drive)) : Prop where
  ruled : Ruled seams pool.shared
  live : ∀ id drive, At pool id drive → drive.Sound seams pool.shared
  orphan : ∀ drive ∈ pool.shared.orphans, drive.Sound seams pool.shared
  alone : seams.reusesFailedInvoice = true → Alone pool

/-- A step that no drive takes. -/
theorem Orderly.steady {after : Pool Shared (Option Drive)} (orderly : Orderly seams pool)
    (ruled : Ruled seams after.shared)
    (steady : ∀ externalId, Steady seams pool.shared after.shared externalId)
    (threads : ∀ id drive, At after id drive → At pool id drive)
    (orphans : after.shared.orphans = pool.shared.orphans) : Orderly seams after := by
  refine ⟨ruled, fun id drive here => ?_, fun drive member => ?_, fun reuses => ?_⟩
  · exact (orderly.live id drive (threads id drive here)).steady (steady _)
  · rw [orphans] at member
    exact (orderly.orphan drive member).steady (steady _)
  · obtain ⟨live, apart, pairwise⟩ := orderly.alone reuses
    refine ⟨fun id other drive sibling here there => ?_, fun id drive here => ?_, ?_⟩
    · exact live id other drive sibling (threads _ _ here) (threads _ _ there)
    · rw [orphans]
      exact apart id drive (threads _ _ here)
    · rw [orphans]
      exact pairwise

/-- The store and the wallet are the same. -/
theorem same_steady {shared after : Shared} (store : after.store = shared.store)
    (wallet : after.wallet = shared.wallet) (externalId : ExternalId) :
    Steady seams shared after externalId :=
  (Tends.same wallet (congrArg Store.refundAttempt store)).steady externalId

theorem Ruled.same {shared after : Shared} (ruled : Ruled seams shared)
    (store : after.store = shared.store) (wallet : after.wallet = shared.wallet) : Ruled seams after :=
  (Tends.same wallet (congrArg Store.refundAttempt store)).ruled ruled

theorem spawn_orderly {externalId : ExternalId} (orderly : Orderly seams pool)
    (idle : seams.reusesFailedInvoice = true → Idle pool externalId) :
    Orderly seams ((program seams).step pool (.spawn externalId)) := by
  have fresh : ∀ id drive, At ((program seams).step pool (.spawn externalId)) id drive →
      At pool id drive ∨ drive.externalId = externalId ∧ id = pool.spawned ∧
        drive.Sound seams pool.shared := by
    intro id drive here
    by_cases same : id = pool.spawned
    · subst same
      have listed : (list pool.shared externalId).2 = some drive := by
        simpa [At, Program.step, program] using here
      unfold list at listed
      cases found : pool.shared.store.refundAttempt.row externalId with
      | none => simp [found] at listed
      | some row =>
          rw [found] at listed
          obtain ⟨pending, rfl⟩ : row.status = .pending ∧ ⟨externalId, row, 0, 0, .listed⟩ = drive := by
            simpa [Option.filter] using listed
          have governed := orderly.ruled.row found
          exact .inr ⟨rfl, rfl, row, found, rfl, governed.shape, governed.direct, governed.past,
            fun _ => ⟨rfl, rfl⟩⟩
    · exact .inl ((Table.put_row_other _ _ same).symm.trans here)
  refine ⟨orderly.ruled, fun id drive here => ?_, orderly.orphan, fun reuses => ?_⟩
  · exact (fresh id drive here).elim (orderly.live id drive) fun born => born.2.2
  · obtain ⟨live, apart, pairwise⟩ := orderly.alone reuses
    obtain ⟨none_, orphans⟩ := idle reuses
    have other : ∀ id drive, At pool id drive → drive.externalId ≠ externalId :=
      fun id drive here same => none_ ⟨id, some drive, here, drive, rfl, same⟩
    refine ⟨fun id other' drive sibling here there same => ?_, fun id drive here => ?_, pairwise⟩
    · rcases fresh id drive here with old | ⟨owner, rfl, -⟩ <;>
        rcases fresh other' sibling there with old' | ⟨owner', rfl, -⟩
      · exact live id other' drive sibling old old' same
      · exact absurd (same.trans owner') (other id drive old)
      · exact absurd (same.symm.trans owner) (other other' sibling old')
      · rfl
    · rcases fresh id drive here with old | ⟨owner, -, -⟩
      · exact apart id drive old
      · rw [owner]
        exact orphans

/-- A drive takes a stretch. -/
theorem Orderly.moves {id : ℕ} {drive : Drive} {after : Pool Shared (Option Drive)}
    (orderly : Orderly seams pool) (found : At pool id drive)
    (acts : Acts seams pool.shared after.shared drive)
    (threads : ∀ other sibling, At after other sibling →
      other ≠ id ∧ At pool other sibling ∨
        other = id ∧ sibling.externalId = drive.externalId ∧ sibling.Sound seams after.shared)
    (orphans : after.shared.orphans = pool.shared.orphans) : Orderly seams after := by
  refine ⟨acts.ruled, fun other sibling here => ?_, fun orphan member => ?_, fun reuses => ?_⟩
  · rcases threads other sibling here with ⟨different, there⟩ | ⟨-, -, sound⟩
    · refine (orderly.live other sibling there).steady (acts.steady _ fun reuses owner => ?_)
      exact different ((orderly.alone reuses).live other id sibling drive there found owner)
    · exact sound
  · rw [orphans] at member
    exact (orderly.orphan orphan member).steady (acts.steady _ fun reuses =>
      (orderly.alone reuses).apart id drive found orphan member)
  · obtain ⟨live, apart, pairwise⟩ := orderly.alone reuses
    -- the drive that goes on is of the attempt it was of
    have before : ∀ other sibling, At after other sibling →
        ∃ old, At pool other old ∧ old.externalId = sibling.externalId := by
      intro other sibling here
      rcases threads other sibling here with ⟨-, there⟩ | ⟨rfl, owner, -⟩
      · exact ⟨sibling, there, rfl⟩
      · exact ⟨drive, found, owner.symm⟩
    refine ⟨fun first second drive' sibling here there same => ?_, fun other sibling here => ?_, ?_⟩
    · obtain ⟨old, old_at, owner⟩ := before first drive' here
      obtain ⟨old', old_at', owner'⟩ := before second sibling there
      exact live first second old old' old_at old_at' (owner.trans (same.trans owner'.symm))
    · obtain ⟨old, old_at, owner⟩ := before other sibling here
      rw [orphans, ← owner]
      exact apart other old old_at
    · rw [orphans]
      exact pairwise

/-- A thread that is not the one assigned is where it was. -/
theorem at_assigned {shared : Shared} {id other spawned : ℕ} {next : Option (Option Drive)}
    {sibling : Drive} (here : At ⟨shared, pool.threads.assign id next, spawned⟩ other sibling) :
    other ≠ id ∧ At pool other sibling ∨ other = id ∧ next = some (some sibling) := by
  have row : (pool.threads.assign id next).row other = some (some sibling) := here
  by_cases same : other = id
  · subst same
    rw [Table.assign_row_self] at row
    exact .inr ⟨rfl, row⟩
  · rw [Table.assign_row_other _ _ same] at row
    exact .inl ⟨same, row⟩

theorem advance_orderly {id : ℕ} {answer : Answer} (orderly : Orderly seams pool)
    (kept : Honest seams pool (.advance id answer)) :
    Orderly seams ((program seams).step pool (.advance id answer)) := by
  cases found : pool.threads.row id with
  | none =>
      simp only [Program.step, found]
      exact orderly
  | some thread =>
      simp only [Program.step, found]
      cases thread with
      | none =>
          refine orderly.steady orderly.ruled (same_steady rfl rfl) (fun other drive here => ?_) rfl
          rcases at_assigned here with ⟨-, there⟩ | ⟨-, goes⟩
          · exact there
          · simp [program] at goes
      | some drive =>
          obtain ⟨acts, orphans, next⟩ := advance_strides orderly.ruled (orderly.live id drive found)
            (kept drive (by simp [found]))
          refine orderly.moves found acts (fun other sibling here => ?_) orphans
          rcases at_assigned here with there | ⟨same, goes⟩
          · exact .inl there
          · exact .inr ⟨same, next sibling (by simpa [program] using goes)⟩

/-- A dropped drive leaves the store job it rests at. -/
theorem drop_orderly {id : ℕ} (orderly : Orderly seams pool) :
    Orderly seams ((program seams).step pool (.drop id)) := by
  cases found : pool.threads.row id with
  | none =>
      simp only [Program.step, found]
      exact orderly
  | some thread =>
      simp only [Program.step, found]
      have gone : ∀ {shared : Shared} other sibling,
          At ⟨shared, pool.threads.assign id none, pool.spawned⟩ other sibling →
            other ≠ id ∧ At pool other sibling :=
        fun other sibling here => (at_assigned here).resolve_right (by simp)
      cases thread with
      | none =>
          exact orderly.steady orderly.ruled (same_steady rfl rfl)
            (fun other sibling here => (gone other sibling here).2) rfl
      | some drive =>
          show Orderly seams ⟨dropped pool.shared drive, pool.threads.assign id none, pool.spawned⟩
          unfold dropped
          split_ifs with queued
          · have steady : ∀ externalId, Steady seams pool.shared
                { pool.shared with orphans := pool.shared.orphans ++ [drive] } externalId :=
              same_steady rfl rfl
            have ruled : Ruled seams
                { pool.shared with orphans := pool.shared.orphans ++ [drive] } :=
              orderly.ruled.same rfl rfl
            refine ⟨ruled, fun other sibling here => ?_, fun orphan member => ?_, fun reuses => ?_⟩
            · exact (orderly.live other sibling (gone other sibling here).2).steady (steady _)
            · rcases List.mem_append.mp member with old | new
              · exact (orderly.orphan orphan old).steady (steady _)
              · obtain rfl := List.mem_singleton.mp new
                exact (orderly.live id orphan found).steady (steady _)
            · obtain ⟨live, apart, pairwise⟩ := orderly.alone reuses
              refine ⟨fun first second one two here there => ?_,
                fun other sibling here orphan member => ?_,
                List.pairwise_append.mpr ⟨pairwise, List.pairwise_singleton _ _, ?_⟩⟩
              · exact live first second one two (gone _ _ here).2 (gone _ _ there).2
              · obtain ⟨different, there⟩ := gone other sibling here
                rcases List.mem_append.mp member with old | new
                · exact apart other sibling there orphan old
                · obtain rfl := List.mem_singleton.mp new
                  exact fun owner => different (live other id sibling orphan there found owner.symm)
              · intro orphan old _ new
                obtain rfl := List.mem_singleton.mp new
                exact apart id _ found orphan old
          · exact orderly.steady orderly.ruled (same_steady rfl rfl)
              (fun other sibling here => (gone other sibling here).2) rfl

/-- The first of the store jobs that were left runs. -/
theorem late_orderly (orderly : Orderly seams pool) :
    Orderly seams ((program seams).step pool (.environment .late)) := by
  show Orderly seams { pool with shared := environment pool.shared .late }
  unfold environment
  cases waiting : pool.shared.orphans with
  | nil => exact orderly
  | cons drive rest =>
      dsimp only
      have steady : ∀ externalId,
          Steady seams pool.shared { pool.shared with orphans := rest } externalId :=
        same_steady rfl rfl
      have first : drive ∈ pool.shared.orphans := by simp [waiting]
      have later : ∀ orphan ∈ rest, orphan ∈ pool.shared.orphans := by
        intro orphan member
        simp [waiting, member]
      have ruled : Ruled seams { pool.shared with orphans := rest } :=
        orderly.ruled.same rfl rfl
      have acts := write_acts ruled ((orderly.orphan drive first).steady (steady _))
      have orphans := write_orphans { pool.shared with orphans := rest } drive
      refine ⟨acts.ruled, fun id sibling here => ?_, fun orphan member => ?_, fun reuses => ?_⟩
      · refine ((orderly.live id sibling here).steady (steady _)).steady
          (acts.steady _ fun reuses owner => ?_)
        exact (orderly.alone reuses).apart id sibling here drive first owner.symm
      · rw [orphans] at member
        refine ((orderly.orphan orphan (later orphan member)).steady (steady _)).steady
          (acts.steady _ fun reuses owner => ?_)
        have pairwise := (orderly.alone reuses).orphans
        rw [waiting] at pairwise
        exact List.rel_of_pairwise_cons pairwise member owner.symm
      · obtain ⟨live, apart, pairwise⟩ := orderly.alone reuses
        refine ⟨live, fun id sibling here => ?_, ?_⟩
        · rw [orphans]
          exact fun orphan member => apart id sibling here orphan (later orphan member)
        · rw [orphans]
          rw [waiting] at pairwise
          exact pairwise.of_cons

/-- No drive is under way. -/
theorem empty_orderly {shared : Shared} (spawned : ℕ) (ruled : Ruled seams shared)
    (orphans : shared.orphans = []) : Orderly seams ⟨shared, Table.empty, spawned⟩ := by
  have none_ : ∀ id drive, ¬ At ⟨shared, Table.empty, spawned⟩ id drive := by
    intro id drive here
    simp [At] at here
  refine ⟨ruled, fun id drive here => absurd here (none_ id drive), ?_, fun _ => ⟨?_, ?_, ?_⟩⟩
  · simp [orphans]
  · exact fun id other drive sibling here => absurd here (none_ id drive)
  · exact fun id drive here => absurd here (none_ id drive)
  · simp [orphans]

/-- **Every choice of the scheduler that meets the condition** keeps the invariant. -/
theorem step_orderly (choice : Schedule ExternalId Answer Event) (conform : Conform seams pool choice)
    (orderly : Orderly seams pool) : Orderly seams ((program seams).step pool choice) := by
  obtain ⟨kept, idle⟩ := conform
  cases choice with
  | spawn externalId => exact spawn_orderly orderly idle
  | advance id answer => exact advance_orderly orderly kept
  | drop id => exact drop_orderly orderly
  | environment event =>
      have tended : ∀ {after : Shared}, Tends pool.shared after → after.orphans = pool.shared.orphans →
          Orderly seams { pool with shared := after } := fun tends orphans =>
        orderly.steady (tends.ruled orderly.ruled) tends.steady (fun _ _ => id) orphans
      have settled : ∀ {after : Shared}, Settles seams pool.shared after →
          after.orphans = pool.shared.orphans → Orderly seams { pool with shared := after } :=
        fun settles orphans =>
          orderly.steady (settles.ruled orderly.ruled) settles.steady (fun _ _ => id) orphans
      cases event with
      | retry externalId now =>
          refine tended (retry_tends pool.shared externalId now) ?_
          show (environment pool.shared (.retry externalId now)).orphans = _
          unfold environment
          dsimp only
          split <;> rfl
      | elsewhere other => exact tended (elsewhere_tends pool.shared other) rfl
      | lands key paid =>
          refine settled (land_settles pool.shared key paid) ?_
          show (pool.shared.land key paid).orphans = _
          unfold Shared.land
          split <;> rfl
      | refuses key =>
          refine settled (refuse_settles pool.shared key) ?_
          show (pool.shared.refuse key).orphans = _
          unfold Shared.refuse
          split <;> rfl
      | late => exact late_orderly orderly
  | crash => exact empty_orderly _ (orderly.ruled.same rfl rfl) rfl

theorem orderly_start (seams : Seams) : Orderly seams (program seams).machine.start :=
  empty_orderly 0 (fun _ _ => by simp [program, Outstanding]) rfl

/-- Two outstanding payments of one attempt are one. -/
theorem Orderly.paidOnce (orderly : Orderly seams pool) : PaidOnce pool.shared := by
  refine ⟨fun externalId first second one two => ?_, fun externalId row found sent => ?_⟩
  · cases found : pool.shared.store.refundAttempt.row externalId with
    | none => exact absurd one (orderly.ruled.absent found first)
    | some row =>
        have known := orderly.ruled.row found
        obtain ⟨form, past, -⟩ := known.outstanding first one
        obtain ⟨form', past', -⟩ := known.outstanding second two
        rcases lt_trichotomy first second with below | same | above
        · rcases Nat.eq_zero_or_pos first with zero | resolved
          · have := form'.mpr (form.mp zero)
            omega
          · exact absurd one (past' first resolved below).1
        · exact same
        · rcases Nat.eq_zero_or_pos second with zero | resolved
          · have := form.mpr (form'.mp zero)
            omega
          · exact absurd two (past second resolved above).1
  · exact (orderly.ruled.row found).sent sent

/-! ### What went through stays paid -/

theorem write_wallet (shared : Shared) (drive : Drive) :
    (shared.write drive).1.wallet = shared.wallet := by
  unfold Shared.write
  cases drive.phase with
  | committing final =>
      cases final with
      | unpaid allowTerminal =>
          dsimp only
          unfold Shared.finish
          dsimp only
          split <;> rfl
      | _ => rfl
  | _ => rfl

/-- A stretch of a drive leaves the wallet alone, or sends. -/
theorem advance_wallet (seams : Seams) (shared : Shared) (drive : Drive) (answer : Answer) :
    (drive.advance seams shared answer).1.wallet = shared.wallet ∨
      ∃ key, (drive.advance seams shared answer).1 = shared.send key := by
  unfold Drive.advance
  cases phase : drive.phase with
  | committing final =>
      cases answer with
      | stored => exact .inl (write_wallet shared drive)
      | _ => exact .inl rfl
  | persisting resolved payment | authorising payment =>
      cases answer with
      | stored => exact .inl (write_wallet shared drive)
      | _ => exact .inl rfl
  | paying payment =>
      cases answer with
      | sends => exact .inr ⟨_, rfl⟩
      | _ => exact .inl rfl
  | _ =>
      refine .inl ?_
      dsimp only
      repeat' split
      all_goals rfl

theorem send_paid {shared : Shared} {key sent : PayKey} (went : shared.wallet key = .succeeded) :
    (shared.send sent).wallet key = .succeeded := by
  unfold Shared.send
  split_ifs with outstanding
  · exact went
  · exact sending_paid outstanding went

/-- **A payment that went through stays so.** -/
theorem step_paid {key : PayKey} (choice : Schedule ExternalId Answer Event)
    (went : pool.shared.wallet key = .succeeded) :
    ((program seams).step pool choice).shared.wallet key = .succeeded := by
  cases choice with
  | spawn externalId | crash => exact went
  | advance id answer =>
      cases found : pool.threads.row id with
      | none =>
          simp only [Program.step, found]
          exact went
      | some thread =>
          simp only [Program.step, found]
          cases thread with
          | none => exact went
          | some drive =>
              rcases advance_wallet seams pool.shared drive answer with same | ⟨sent, same⟩
              · exact (congrFun same key).trans went
              · exact (congrArg (fun shared => shared.wallet key) same).trans (send_paid went)
  | drop id =>
      cases found : pool.threads.row id with
      | none =>
          simp only [Program.step, found]
          exact went
      | some thread =>
          simp only [Program.step, found]
          cases thread with
          | none => exact went
          | some drive =>
              show (dropped pool.shared drive).wallet key = _
              unfold dropped
              split <;> exact went
  | environment event =>
      cases event with
      | retry externalId now =>
          exact (congrFun (retry_tends pool.shared externalId now).wallet key).trans went
      | elsewhere other => exact went
      | lands landed paid =>
          exact (land_settles pool.shared landed paid : Settles seams _ _).paid key went
      | refuses refused =>
          exact (refuse_settles pool.shared refused : Settles seams _ _).paid key went
      | late =>
          show (environment pool.shared .late).wallet key = _
          unfold environment
          cases pool.shared.orphans with
          | nil => exact went
          | cons drive rest => exact (congrFun (write_wallet _ drive) key).trans went

theorem run_paid (seams : Seams) {key : PayKey} : ∀ (choices : List (Schedule ExternalId Answer Event))
    (pool : Pool Shared (Option Drive)), pool.shared.wallet key = .succeeded →
      ((program seams).machine.runFrom pool choices).shared.wallet key = .succeeded := by
  intro choices
  induction choices with
  | nil => exact fun _ went => went
  | cons choice rest ih => exact fun pool went => ih _ (step_paid choice went)

end Runs

/-! ### One payment -/

/-- Every destination is resolved, and a failed invoice may be paid again. -/
def addressSeams : Seams := ⟨fun _ => false, fun _ => some .fetched, fun _ => some 5, true⟩

/-- A drive of an attempt that is resolved for the first time, to where its payment is sent. -/
def resolving (id net : ℕ) (known : List (Schedule ExternalId Answer Event)) (bolt11 : Text) :
    List (Schedule ExternalId Answer Event) :=
  [.spawn (.other 1), .advance id (.starts 10), .advance id .stored] ++ known ++
  [.advance id (.quote (some net)), .advance id (.resolves (.resolved ⟨bolt11, 100⟩)),
    .advance id .stored, .advance id (.status none), .advance id (.prepares true),
    .advance id .stored]

/-- An attempt whose first payment is refused, and whose second is sent. -/
def retried : List (Schedule ExternalId Answer Event) :=
  .environment (.elsewhere owing) ::
    (resolving 0 5 [] 8 ++
      [.environment (.refuses (.refund (.other 1) 1)), .advance 0 (.pays false),
        .advance 0 (.status (some .failed)), .advance 0 .stored] ++
      resolving 1 4 [.advance 1 (.status (some .failed))] 9 ++
      [.advance 1 .sends, .environment (.lands (.refund (.other 1) 2) true),
        .advance 1 (.pays true), .advance 1 .stored])

/-- The first payment is refused. One drive is about to pay its invoice again when the fee rises, and
another resolves the destination anew. -/
def overlapping : List (Schedule ExternalId Answer Event) :=
  .environment (.elsewhere owing) ::
    (resolving 0 5 [] 8 ++
      [.environment (.refuses (.refund (.other 1) 1)), .advance 0 (.pays false),
        .advance 0 (.status (some .failed)), .advance 0 .stored,
        .spawn (.other 1), .advance 1 (.starts 20), .advance 1 .stored,
        .advance 1 (.status (some .failed)), .advance 1 (.quote (some 5)), .advance 1 (.status none),
        .advance 1 (.prepares true), .advance 1 .stored] ++
      resolving 2 4 [.advance 2 (.status (some .failed))] 9 ++
      [.advance 2 .sends, .environment (.lands (.refund (.other 1) 2) true),
        .advance 1 .sends, .environment (.lands (.refund (.other 1) 1) true)])

end Lnrent.Refunder
