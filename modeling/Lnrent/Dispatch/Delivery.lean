/-
**The steps of a delivery.** What each of them owes the other deliveries of its key, and that it
leaves every other key alone.

* `Foreign` — a step for another key;
* `runClaim_cases`, `runCommit_cases` — what the two jobs do;
* `Owes`, `advance_owes` — a step for the key itself;
* `drop_own`, `drop_foreign`, `job_keeps` — dropped tasks and the jobs they leave.
-/

import Lnrent.Dispatch.Agreement

namespace Lnrent.Dispatch

open Relational Transition OpDispatch

variable {ops : Ops} {key : RequestKey} {id other spawned spawned' : ℕ} {before after shared : Shared}
  {delivery : Delivery}

/-! ### A step for another key -/

/-- **A step for another request** leaves what the key is about. -/
structure Foreign (key : RequestKey) (id : ℕ) (before after : Shared) : Prop where
  rows : after.rows.row key = before.rows.row key
  registry : after.registry.row key = before.registry.row key
  trace : after.trace = before.trace ∨
    ∃ mark, mark.owner = id ∧ mark.key ≠ key ∧ after.trace = mark :: before.trace
  channels : ∀ other, other ≠ id → after.channels.row other = before.channels.row other
  published : (before.channels.row id).isSome → (after.channels.row id).isSome
  orphans : ∀ other, other ≠ id → after.orphans.row other = before.orphans.row other
  jobs : ∀ job, after.orphans.row id = some job → job.delivery.key ≠ key ∧
    Pending key after id job

theorem Foreign.own (foreign : Foreign key id before after) (mark : Mark)
    (member : mark ∈ after.trace) : mark ∈ before.trace ∨ mark.owner = id ∧ mark.key ≠ key := by
  obtain same | ⟨new, owner, apart, trace⟩ := foreign.trace
  · exact .inl (same ▸ member)
  · rw [trace] at member
    obtain rfl | sooner := List.mem_cons.mp member
    · exact .inr ⟨owner, apart⟩
    · exact .inl sooner

theorem Foreign.marks (foreign : Foreign key id before after) (mark : Mark)
    (member : mark ∈ before.trace) : mark ∈ after.trace := by
  obtain same | ⟨new, -, -, trace⟩ := foreign.trace
  · exact same ▸ member
  · exact trace ▸ .tail _ member

/-- The marks of the key are the same. -/
theorem Foreign.mem (foreign : Foreign key id before after) {mark : Mark} (same : mark.key = key) :
    mark ∈ after.trace ↔ mark ∈ before.trace :=
  ⟨fun member => (foreign.own mark member).resolve_right fun apart => apart.2 same,
    foreign.marks mark⟩

theorem Foreign.rely (foreign : Foreign key id before after) : Rely key id before after where
  marks := foreign.marks
  own mark member := (foreign.own mark member).imp_right And.left
  rows := .inl foreign.rows
  registry := .inl foreign.registry
  enters _ _ listed := foreign.registry.symm.trans listed
  wakes listed := .inl (foreign.registry.trans listed)
  channels := foreign.channels
  published := foreign.published
  orphans := foreign.orphans
  leaves _ _ queued same := absurd same (foreign.jobs _ queued).1

theorem Foreign.bound (foreign : Foreign key id before after) :
    Bound after.trace other key ↔ Bound before.trace other key :=
  or_congr (foreign.mem rfl) (foreign.mem rfl)

theorem Foreign.holds (foreign : Foreign key id before after) {terminal : Terminal}
    {subscriptionId : OrderId} {op : Text} :
    Holds after key terminal subscriptionId op ↔ Holds before key terminal subscriptionId op := by
  unfold Holds
  rw [foreign.rows]

theorem Foreign.steady (foreign : Foreign key id before after)
    (steady : Steady ops key spawned before) (below : id < spawned)
    (apart : ∀ mark ∈ before.trace, mark.owner = id → mark.key ≠ key) :
    Steady ops key spawned after := by
  have unclaimed : .claimed id key ∉ before.trace := fun member => apart _ member rfl rfl
  refine ⟨?_, ?_, ?_, ?_, ?_, ?_, ?_, ?_, ?_, ?_, ?_, ?_, ?_⟩
  · intro mark member
    obtain sooner | ⟨owner, -⟩ := foreign.own mark member
    · exact steady.marked mark sooner
    · exact owner ▸ below
  · intro other outcome found
    by_cases same : other = id
    · exact same ▸ below
    · exact steady.spoken other outcome ((foreign.channels other same).symm.trans found)
  · intro other job found
    by_cases same : other = id
    · exact same ▸ below
    · exact steady.queued other job ((foreign.orphans other same).symm.trans found)
  · intro other job found
    by_cases same : other = id
    · subst same
      exact (foreign.jobs job found).2
    · have pending := steady.jobs other job ((foreign.orphans other same).symm.trans found)
      have channels := foreign.channels other same
      obtain trace | ⟨mark, owner, -, trace⟩ := foreign.trace
      · cases job with
        | claim delivery => exact ⟨trace ▸ pending.1, channels.trans pending.2⟩
        | commit delivery terminal =>
            exact ⟨trace ▸ pending.1, fun own => trace ▸ pending.2 own⟩
      · exact pending.mark trace channels (owner ▸ Ne.symm same)
  · intro absent other bound
    exact steady.unclaimed (foreign.rows.symm.trans absent) other (foreign.bound.mp bound)
  · exact fun first second one two =>
      steady.single first second ((foreign.mem rfl).mp one) ((foreign.mem rfl).mp two)
  · intro other input member
    obtain ⟨made, runnable, row⟩ := steady.hooked other input ((foreign.mem rfl).mp member)
    exact ⟨(foreign.mem rfl).mpr made, runnable, foreign.rows ▸ row⟩
  · obtain same | ⟨mark, -, other, trace⟩ := foreign.trace
    · exact same ▸ steady.once
    · have quiet : isHook key mark = false := by
        cases mark <;> simp_all [isHook, Mark.key]
      simpa [trace, hookRuns, quiet] using steady.once
  · intro row found done
    obtain ⟨other, input, hooked⟩ := steady.finished row (foreign.rows.symm.trans found) done
    exact ⟨other, input, foreign.marks _ hooked⟩
  · intro other reply member bound
    obtain ⟨row, found, result⟩ := steady.answered other reply ((foreign.mem rfl).mp member)
      (foreign.bound.mp bound)
    exact ⟨row, foreign.rows.trans found, result⟩
  · exact fun other member bound =>
      steady.refused other ((foreign.mem rfl).mp member) (foreign.bound.mp bound)
  · intro other terminal subscriptionId op found made
    have sooner := (foreign.mem rfl).mp made
    have different : other ≠ id := fun same => unclaimed (same ▸ sooner)
    exact foreign.holds.mpr (steady.channels other terminal subscriptionId op
      ((foreign.channels other different).symm.trans found) sooner)
  · intro other listed
    obtain ⟨made, silent⟩ := steady.registry other (foreign.registry.symm.trans listed)
    have different : other ≠ id := fun same => unclaimed (same ▸ made)
    exact ⟨foreign.marks _ made, (foreign.channels other different).trans silent⟩

/-! ### What the jobs and the transactions do -/

/-- The claim transaction refuses or inserts. -/
theorem authorize_cases (recipe : Recipe) (subscription : Table OrderId SubscriptionRow)
    (delivery : Delivery) :
    authorize recipe subscription delivery = .unauthorized ∨
      (∃ owner state, authorize recipe subscription delivery = .foreignRecipe owner state) ∨
      authorize recipe subscription delivery = .notActive ∨
      ∃ state, authorize recipe subscription delivery = .claimed state := by
  unfold authorize
  split
  · exact .inl rfl
  · split_ifs <;> simp

/-- **The claim job**: it finds the row, inserts it, or refuses and writes nothing. -/
theorem runClaim_cases (recipe : Recipe) (shared : Shared) (id : ℕ) (delivery : Delivery) :
    (∃ row, shared.rows.row delivery.key = some row ∧
      shared.runClaim recipe id delivery = (shared.mark (.found id delivery.key), row.lookup)) ∨
    shared.rows.row delivery.key = none ∧
      ((∃ state, shared.runClaim recipe id delivery =
        ({ shared with rows := shared.rows.put delivery.key (runningRow delivery) }.mark
          (.claimed id delivery.key), .claimed state)) ∨
      ∃ refused, (refused = .unauthorized ∨ (∃ owner state, refused = .foreignRecipe owner state) ∨
          refused = .notActive) ∧
        shared.runClaim recipe id delivery = (shared.mark (.refused id delivery.key), refused)) := by
  unfold Shared.runClaim claim
  cases found : shared.rows.row delivery.key with
  | some row =>
      refine .inl ⟨row, rfl, ?_⟩
      cases ended : row.terminal <;> simp [OpRow.lookup, ended]
  | none =>
      refine .inr ⟨rfl, ?_⟩
      obtain refused | ⟨owner, state, refused⟩ | refused | ⟨state, passed⟩ :=
        authorize_cases recipe shared.subscription delivery
      · exact .inr ⟨_, .inl rfl, by simp [refused]⟩
      · exact .inr ⟨_, .inr (.inl ⟨owner, state, rfl⟩), by simp [refused]⟩
      · exact .inr ⟨_, .inr (.inr rfl), by simp [refused]⟩
      · exact .inl ⟨state, by simp [passed]⟩

/-- **The commit job**: it finishes a running row, or fails. -/
theorem runCommit_cases (shared : Shared) (delivery : Delivery) (terminal : Terminal) :
    shared.runCommit delivery terminal = none ∨
      ∃ row, shared.rows.row delivery.key = some row ∧ row.state = .running ∧
        shared.runCommit delivery terminal = some { shared with
          rows := shared.rows.put delivery.key (row.finish terminal delivery.now) } := by
  unfold Shared.runCommit commitTerminal
  cases found : shared.rows.row delivery.key with
  | none => exact .inl rfl
  | some row =>
      simp only
      split_ifs with running
      · exact .inr ⟨row, rfl, running, rfl⟩
      · exact .inl rfl

/-! ### What each step owes -/

/-- **The obligations of one step** of a delivery of the key. -/
structure Owes (ops : Ops) (spawned id : ℕ) (delivery : Delivery) (before after : Shared)
    (next : Option Phase) : Prop where
  rely : Rely delivery.key id before after
  steady : Steady ops delivery.key spawned after
  knows : ∀ phase, next = some phase → Knows ops delivery.key after id ⟨delivery, phase⟩
  duty : after.registry.row delivery.key = some id →
    ∃ phase, next = some phase ∧ phase.guards = true
  kept : .refused id delivery.key ∈ after.trace → after.rows = before.rows

/-- Nothing but the await point changes. -/
theorem Owes.silent {next : Option Phase} (steady : Steady ops delivery.key spawned shared)
    (orphanless : shared.orphans.row id = none)
    (own : ∀ mark ∈ shared.trace, mark.owner = id → mark.key = delivery.key)
    (claims : ∀ phase, next = some phase → phase ≠ .claiming ∧
      Claims ops delivery.key shared id delivery phase)
    (guards : shared.registry.row delivery.key = some id →
      ∃ phase, next = some phase ∧ phase.guards = true) :
    Owes ops spawned id delivery shared shared next where
  rely :=
    { marks := fun _ member => member
      own := fun _ member => .inl member
      rows := .inl rfl
      registry := .inl rfl
      enters := fun _ _ listed => listed
      wakes := .inl
      channels := fun _ _ => rfl
      published := fun spoken => spoken
      orphans := fun _ _ => rfl
      leaves := fun _ _ queued => absurd (queued.symm.trans orphanless) nofun }
  steady := steady
  knows phase same := by
    refine ⟨orphanless, fun claiming => absurd claiming (claims phase same).1, own,
      fun _ listed => ?_, fun _ => (claims phase same).2⟩
    obtain ⟨found, here, plays⟩ := guards listed
    rw [same] at here
    cases here
    exact plays
  duty := guards
  kept _ := rfl

/-- One mark of the delivery. -/
theorem Owes.mark {next : Option Phase} {mark : Mark} (owner : mark.owner = id)
    (named : mark.key = delivery.key) (steady : Steady ops delivery.key spawned (shared.mark mark))
    (orphanless : shared.orphans.row id = none)
    (own : ∀ mark ∈ shared.trace, mark.owner = id → mark.key = delivery.key)
    (claims : ∀ phase, next = some phase → phase ≠ .claiming ∧
      Claims ops delivery.key (shared.mark mark) id delivery phase)
    (guards : shared.registry.row delivery.key = some id →
      ∃ phase, next = some phase ∧ phase.guards = true) :
    Owes ops spawned id delivery shared (shared.mark mark) next where
  rely := .mark owner orphanless
  steady := steady
  knows phase same := by
    refine ⟨orphanless, fun claiming => absurd claiming (claims phase same).1, ?_, ?_,
      fun _ => (claims phase same).2⟩
    · intro given member here
      obtain rfl | sooner := List.mem_cons.mp member
      · exact named
      · exact own given sooner here
    · intro _ listed
      obtain ⟨found, here, plays⟩ := guards listed
      rw [same] at here
      cases here
      exact plays
  duty := guards
  kept _ := rfl

/-- The delivery publishes and leaves the registry. -/
theorem Owes.publish {next : Option Phase} {outcome : Outcome}
    (steady : Steady ops delivery.key spawned (shared.publish id delivery.key outcome))
    (claimed : .claimed id delivery.key ∈ shared.trace) (orphanless : shared.orphans.row id = none)
    (own : ∀ mark ∈ shared.trace, mark.owner = id → mark.key = delivery.key)
    (claims : ∀ phase, next = some phase → phase ≠ .claiming ∧
      Claims ops delivery.key (shared.publish id delivery.key outcome) id delivery phase) :
    Owes ops spawned id delivery shared (shared.publish id delivery.key outcome) next := by
  have unlisted : (shared.publish id delivery.key outcome).registry.row delivery.key = none :=
    shared.registry.delete_row_self delivery.key
  exact {
  rely :=
    { marks := fun _ member => member
      own := fun _ member => .inl member
      rows := .inl rfl
      registry := .inr claimed
      enters := fun _ _ listed => absurd (unlisted.symm.trans listed) nofun
      wakes := fun _ => .inr (by simp [Shared.publish])
      channels := fun _ different => shared.channels.put_row_other _ different
      published := fun _ => by simp [Shared.publish]
      orphans := fun _ _ => rfl
      leaves := fun _ _ queued => absurd (queued.symm.trans orphanless) nofun }
  steady := steady
  knows := fun phase same =>
    ⟨orphanless, fun claiming => absurd claiming (claims phase same).1, own,
      fun _ listed => absurd (unlisted.symm.trans listed) nofun, fun _ => (claims phase same).2⟩
  duty := fun listed => absurd (unlisted.symm.trans listed) nofun
  kept := fun _ => rfl }

section Advance

variable {answer : Answer}

/-- The guard's drop. -/
theorem release_owes (steady : Steady ops delivery.key spawned shared) (below : id < spawned)
    (orphanless : shared.orphans.row id = none)
    (own : ∀ mark ∈ shared.trace, mark.owner = id → mark.key = delivery.key)
    (claimed : .claimed id delivery.key ∈ shared.trace) :
    Owes ops spawned id delivery shared (shared.release id delivery.key) none :=
  .publish (steady.publish below orphanless nofun) claimed orphanless own nofun

/-- **The claim.** -/
theorem claim_owes (steady : Steady ops delivery.key spawned shared) (below : id < spawned)
    (knows : Knows ops delivery.key shared id ⟨delivery, .claiming⟩) :
    Owes ops spawned id delivery shared (shared.runClaim ops.recipe id delivery).1
      (some (.claimed (shared.runClaim ops.recipe id delivery).2)) := by
  obtain ⟨unmarked, silent⟩ := knows.fresh rfl
  have unlisted : ∀ next : Option Phase, shared.registry.row delivery.key = some id →
      ∃ phase, next = some phase ∧ phase.guards = true :=
    fun _ listed => absurd rfl (unmarked _ (steady.registry id listed).1)
  obtain ⟨row, found, ran⟩ | ⟨absent, ⟨state, ran⟩ | ⟨refused, kinds, ran⟩⟩ :=
    runClaim_cases ops.recipe shared id delivery
  · rw [ran]
    have plain : Steady ops delivery.key spawned (shared.mark (.found id delivery.key)) := by
      refine steady.plain trivial below knows.orphanless ?_ (by simp) (by simp)
      rintro other same
      cases same
      exact ⟨⟨row, found⟩, fun reply member => unmarked _ member rfl,
        fun member => unmarked _ member rfl⟩
    refine .mark rfl rfl plain knows.orphanless knows.own ?_ (unlisted _)
    rintro _ ⟨⟩
    refine ⟨by simp, ?_⟩
    simp only [OpRow.lookup]
    cases cached : row.terminal with
    | none => exact .head _
    | some terminal => exact ⟨.head _, row, found, cached, rfl, rfl⟩
  · rw [ran]
    have inserted := steady.claim delivery below knows.orphanless unmarked silent absent
    have unbound := steady.unclaimed absent
    have unhooked : Unhooked delivery.key shared.trace :=
      fun other input hooked => unbound other (.inl (steady.hooked other input hooked).1)
    have unregistered : shared.registry.row delivery.key = none := by
      cases listed : shared.registry.row delivery.key with
      | none => rfl
      | some other => exact absurd (.inl (steady.registry other listed).1) (unbound other)
    refine ⟨?_, inserted, ?_, ?_, ?_⟩
    · exact
        { marks := fun _ member => .tail _ member
          own := fun _ member =>
            (List.mem_cons.mp member).elim (fun same => .inr (same ▸ rfl)) .inl
          rows := .inr (.inl absent)
          registry := .inl rfl
          enters := fun _ _ listed => listed
          wakes := .inl
          channels := fun _ _ => rfl
          published := fun spoken => spoken
          orphans := fun _ _ => rfl
          leaves := fun _ _ queued => by cases queued.symm.trans knows.orphanless }
    · rintro _ ⟨⟩
      refine ⟨knows.orphanless, by simp, ?_,
        fun _ listed => (by cases unregistered.symm.trans listed),
        fun _ => ⟨?_, ?_, unregistered⟩⟩
      · intro mark member same
        obtain rfl | sooner := List.mem_cons.mp member
        · rfl
        · exact absurd same (unmarked mark sooner)
      · refine ⟨.head _, shared.rows.put_row_self _ _, silent, ?_⟩
        intro other job terminal queued same
        exact unbound other (.inl ((steady.jobs other _ queued).2 same).1)
      · exact fun other input member => unhooked other input (by simpa [Shared.mark] using member)
    · exact fun listed => by cases unregistered.symm.trans listed
    · intro member
      have sooner : .refused id delivery.key ∈ shared.trace := by simpa [Shared.mark] using member
      exact absurd rfl (unmarked _ sooner)
  · rw [ran]
    have plain : Steady ops delivery.key spawned (shared.mark (.refused id delivery.key)) := by
      refine steady.plain trivial below knows.orphanless (by simp) ?_ (by simp)
      rintro other same
      cases same
      exact steady.unclaimed absent id
    refine .mark rfl rfl plain knows.orphanless knows.own ?_ (unlisted _)
    rintro _ ⟨⟩
    obtain rfl | ⟨owner, state, rfl⟩ | rfl := kinds <;> exact ⟨by simp, .head _⟩

/-- **The delivery resumes after its claim.** -/
theorem resume_owes {claim : Claim} (steady : Steady ops delivery.key spawned shared)
    (knows : Knows ops delivery.key shared id ⟨delivery, .claimed claim⟩) :
    Owes ops spawned id delivery shared (resume ops shared id delivery claim).1
      (resume ops shared id delivery claim).2 := by
  have claims := knows.claims rfl
  have unlisted : shared.registry.row delivery.key ≠ some id :=
    fun listed => absurd (knows.listed rfl listed) nofun
  cases claim with
  | claimed state =>
      obtain ⟨owner, unhooked, -⟩ := claims
      have listed : (shared.register id delivery.key).registry.row delivery.key = some id :=
        shared.registry.put_row_self _ _
      refine ⟨?_, steady.register owner.claimed owner.silent, ?_, ?_, fun _ => rfl⟩
      · exact
          { marks := fun _ member => member
            own := fun _ member => .inl member
            rows := .inl rfl
            registry := .inr owner.claimed
            enters := fun other different here =>
              absurd (listed.symm.trans here) (by simpa using different.symm)
            wakes := fun _ => .inl listed
            channels := fun _ _ => rfl
            published := fun spoken => spoken
            orphans := fun _ _ => rfl
            leaves := fun _ _ queued => absurd (queued.symm.trans knows.orphanless) nofun }
      · rintro _ ⟨⟩
        cases resolved : resolve ops delivery.request with
        | some error =>
            exact ⟨knows.orphanless, nofun, knows.own, fun _ _ => rfl,
              fun _ => ⟨⟨owner.claimed, owner.row, owner.silent, owner.alone⟩, listed, trivial,
                trivial⟩⟩
        | none =>
            exact ⟨knows.orphanless, nofun, knows.own, fun _ _ => rfl,
              fun _ => ⟨⟨owner.claimed, owner.row, owner.silent, owner.alone⟩, listed, unhooked,
                resolved⟩⟩
      · intro _
        refine ⟨_, rfl, ?_⟩
        cases resolve ops delivery.request <;> rfl
  | cached terminal subscriptionId op =>
      obtain ⟨found, holds⟩ := claims
      refine .silent steady knows.orphanless knows.own ?_ (absurd · unlisted)
      rintro _ ⟨⟩
      exact ⟨nofun, .inr found, holds.answers⟩
  | running =>
      refine .silent steady knows.orphanless knows.own ?_ (absurd · unlisted)
      rintro _ ⟨⟩
      cases here : shared.registry.row delivery.key with
      | some owner => exact ⟨nofun, claims, (steady.registry owner here).1, .inr here⟩
      | none => exact ⟨nofun, claims⟩
  | unauthorized | foreignRecipe | notActive =>
      refine .silent steady knows.orphanless knows.own ?_ (absurd · unlisted)
      rintro _ ⟨⟩
      exact ⟨nofun, claims⟩

/-- **A step of a delivery of the key.** -/
theorem advance_owes {phase : Phase} (steady : Steady ops delivery.key spawned shared)
    (below : id < spawned) (knows : Knows ops delivery.key shared id ⟨delivery, phase⟩) :
    Owes ops spawned id delivery shared (advance ops shared id delivery answer phase).1
      (advance ops shared id delivery answer phase).2 := by
  have claims := knows.claims rfl
  have unlisted : phase.guards = false → shared.registry.row delivery.key ≠ some id := by
    intro unguarded listed
    rw [knows.listed rfl listed] at unguarded
    cases unguarded
  have ends : phase.guards = false → Owes ops spawned id delivery shared shared none :=
    fun unguarded => .silent steady knows.orphanless knows.own nofun
      (absurd · (unlisted unguarded))
  cases phase with
  | claiming =>
      simp only [advance]
      split_ifs
      · exact ends rfl
      · exact claim_owes steady below knows
  | claimed claim => exact resume_owes steady knows
  | loading state =>
      obtain ⟨owner, listed, unhooked, runnable⟩ := claims
      simp only [advance]
      split_ifs
      · exact release_owes steady below knows.orphanless knows.own owner.claimed
      · refine .mark rfl rfl ?_ knows.orphanless knows.own ?_ fun _ => ⟨_, rfl, rfl⟩
        · exact steady.hook below knows.orphanless owner.claimed unhooked runnable
            ⟨_, owner.row, rfl⟩
        · rintro _ ⟨⟩
          exact ⟨nofun, ⟨.tail _ owner.claimed, owner.row, owner.silent, owner.alone⟩, listed,
            id, _, .head _⟩
  | hooking =>
      obtain ⟨owner, listed, hooked⟩ := claims
      refine .silent steady knows.orphanless knows.own ?_ fun _ => ⟨_, rfl, rfl⟩
      rintro _ ⟨⟩
      refine ⟨nofun, owner, listed, sendable_answer _, ?_⟩
      cases answer.hook.terminal with
      | done data => exact hooked
      | error error => trivial
  | committing terminal =>
      obtain ⟨owner, listed, sendable, produced⟩ := claims
      have failed : Owes ops spawned id delivery shared shared (some (.committed terminal false)) := by
        refine .silent steady knows.orphanless knows.own ?_ fun _ => ⟨_, rfl, rfl⟩
        rintro _ ⟨⟩
        exact ⟨nofun, owner.claimed, listed, sendable, nofun⟩
      simp only [advance]
      by_cases fails : answer.storeFails = true
      · simp only [fails, if_true]
        exact failed
      · simp only [fails]
        obtain ran | ⟨row, found, running, ran⟩ := runCommit_cases shared delivery terminal
        · rw [ran]
          exact failed
        · rw [ran]
          rw [owner.row] at found
          cases found
          refine ⟨?_, steady.finish owner.row running produced _, ?_, fun _ => ⟨_, rfl, rfl⟩, ?_⟩
          · exact
              { marks := fun _ member => member
                own := fun _ member => .inl member
                rows := .inr (.inr ⟨owner.claimed, _, owner.row, running⟩)
                registry := .inl rfl
                enters := fun _ _ listed => listed
                wakes := .inl
                channels := fun _ _ => rfl
                published := fun spoken => spoken
                orphans := fun _ _ => rfl
                leaves := fun _ _ queued => absurd (queued.symm.trans knows.orphanless) nofun }
          · rintro _ ⟨⟩
            refine ⟨knows.orphanless, nofun, knows.own, fun _ _ => rfl,
              fun _ => ⟨owner.claimed, listed, sendable, fun _ => ?_⟩⟩
            refine ⟨_, shared.rows.put_row_self _ _, finish_terminal _ _ _, ?_⟩
            cases terminal <;> exact ⟨rfl, rfl⟩
          · exact fun member => absurd (.inl owner.claimed) (steady.refused id member)
  | committed terminal ok =>
      obtain ⟨claimed, listed, sendable, holds⟩ := claims
      simp only [advance]
      split_ifs with committed
      · have held := holds committed
        refine .publish (steady.publish below knows.orphanless ?_) claimed knows.orphanless knows.own ?_
        · rintro _ _ _ ⟨⟩
          exact held
        · rintro _ ⟨⟩
          refine ⟨nofun, .inl claimed, ?_⟩
          rw [← resend_sendable sendable]
          exact held.answers
      · exact release_owes steady below knows.orphanless knows.own claimed
  | attached owner =>
      obtain ⟨found, claimed, woken⟩ := claims
      simp only [advance]
      cases spoken : shared.channels.row owner with
      | none =>
          refine .silent steady knows.orphanless knows.own ?_ (absurd · (unlisted rfl))
          rintro _ ⟨⟩
          exact ⟨nofun, found, claimed, woken⟩
      | some outcome =>
          cases outcome with
          | noTerminal => exact ends rfl
          | terminal terminal subscriptionId op =>
              refine .silent steady knows.orphanless knows.own ?_ (absurd · (unlisted rfl))
              rintro _ ⟨⟩
              exact ⟨nofun, .inr found,
                (steady.channels owner terminal subscriptionId op spoken claimed).answers⟩
  | rereading =>
      simp only [advance]
      split_ifs
      · exact ends rfl
      · cases here : shared.rows.row delivery.key with
        | none => exact ends rfl
        | some row =>
            simp only [Option.map_some, OpRow.lookup]
            cases cached : row.terminal with
            | none => exact ends rfl
            | some terminal =>
                refine .silent steady knows.orphanless knows.own ?_ (absurd · (unlisted rfl))
                rintro _ ⟨⟩
                have held : Holds shared delivery.key terminal row.subscriptionId row.op :=
                  ⟨row, here, cached, rfl, rfl⟩
                exact ⟨nofun, .inr claims, held.answers⟩
  | replying reply =>
      refine .mark rfl rfl ?_ knows.orphanless knows.own nofun (absurd · (unlisted rfl))
      refine steady.plain trivial below knows.orphanless nofun nofun ?_
      rintro other given same -
      cases same
      exact claims.2
  | refusing error =>
      refine .mark rfl rfl ?_ knows.orphanless knows.own nofun (absurd · (unlisted rfl))
      refine steady.plain trivial below knows.orphanless nofun nofun ?_
      rintro other given same bound
      cases same
      exact absurd bound (steady.refused id claims)

end Advance

/-! ### Steps for other keys -/

/-- **A step of any delivery**, as far as other keys are concerned. -/
structure Stepped (id : ℕ) (delivery : Delivery) (before after : Shared) : Prop where
  rows : ∀ key, key ≠ delivery.key → after.rows.row key = before.rows.row key
  registry : ∀ key, key ≠ delivery.key → after.registry.row key = before.registry.row key
  trace : after.trace = before.trace ∨
    ∃ mark, mark.owner = id ∧ mark.key = delivery.key ∧ after.trace = mark :: before.trace
  channels : ∀ other, other ≠ id → after.channels.row other = before.channels.row other
  published : (before.channels.row id).isSome → (after.channels.row id).isSome
  orphans : after.orphans = before.orphans

theorem Stepped.refl (id : ℕ) (delivery : Delivery) (shared : Shared) :
    Stepped id delivery shared shared :=
  ⟨fun _ _ => rfl, fun _ _ => rfl, .inl rfl, fun _ _ => rfl, fun spoken => spoken, rfl⟩

theorem Stepped.mark {mark : Mark} (owner : mark.owner = id) (named : mark.key = delivery.key) :
    Stepped id delivery shared (shared.mark mark) :=
  ⟨fun _ _ => rfl, fun _ _ => rfl, .inr ⟨mark, owner, named, rfl⟩, fun _ _ => rfl,
    fun spoken => spoken, rfl⟩

theorem Stepped.publish (id : ℕ) (delivery : Delivery) (shared : Shared) (outcome : Outcome) :
    Stepped id delivery shared (shared.publish id delivery.key outcome) :=
  ⟨fun _ _ => rfl, fun _ other => shared.registry.delete_row_other other, .inl rfl,
    fun _ other => shared.channels.put_row_other _ other, fun _ => by simp [Shared.publish], rfl⟩

theorem runClaim_stepped (recipe : Recipe) (id : ℕ) (delivery : Delivery) (shared : Shared) :
    Stepped id delivery shared (shared.runClaim recipe id delivery).1 := by
  obtain ⟨row, -, ran⟩ | ⟨-, ⟨state, ran⟩ | ⟨refused, -, ran⟩⟩ :=
    runClaim_cases recipe shared id delivery
  · rw [ran]
    exact .mark rfl rfl
  · rw [ran]
    exact ⟨fun _ other => shared.rows.put_row_other _ other, fun _ _ => rfl,
      .inr ⟨_, rfl, rfl, rfl⟩, fun _ _ => rfl, fun spoken => spoken, rfl⟩
  · rw [ran]
    exact .mark rfl rfl

theorem runCommit_stepped (id : ℕ) {terminal : Terminal}
    (ran : shared.runCommit delivery terminal = some after) : Stepped id delivery shared after := by
  obtain failed | ⟨row, -, -, committed⟩ := runCommit_cases shared delivery terminal
  · exact absurd (failed.symm.trans ran) nofun
  · rw [committed] at ran
    cases ran
    exact ⟨fun _ other => shared.rows.put_row_other _ other, fun _ _ => rfl, .inl rfl,
      fun _ _ => rfl, fun spoken => spoken, rfl⟩

theorem advance_stepped (ops : Ops) (shared : Shared) (id : ℕ) (delivery : Delivery)
    (answer : Answer) (phase : Phase) :
    Stepped id delivery shared (advance ops shared id delivery answer phase).1 := by
  cases phase with
  | claiming =>
      simp only [advance]
      split_ifs
      · exact .refl id delivery shared
      · exact runClaim_stepped ops.recipe id delivery shared
  | claimed claim =>
      cases claim with
      | claimed state =>
          exact ⟨fun _ _ => rfl, fun _ other => shared.registry.put_row_other _ other, .inl rfl,
            fun _ _ => rfl, fun spoken => spoken, rfl⟩
      | cached | running | unauthorized | foreignRecipe | notActive =>
          exact .refl id delivery shared
  | loading state =>
      simp only [advance]
      split_ifs
      · exact .publish id delivery shared _
      · exact .mark rfl rfl
  | hooking => exact .refl id delivery shared
  | committing terminal =>
      simp only [advance]
      split
      · exact .refl id delivery shared
      · rename_i ran
        split_ifs at ran
        exact runCommit_stepped id ran
  | committed terminal ok =>
      simp only [advance]
      split_ifs
      · exact .publish id delivery shared _
      · exact .publish id delivery shared _
  | attached owner =>
      simp only [advance]
      split <;> exact .refl id delivery shared
  | rereading =>
      simp only [advance]
      split_ifs
      · exact .refl id delivery shared
      · split <;> exact .refl id delivery shared
  | replying reply => exact .mark rfl rfl
  | refusing error => exact .mark rfl rfl

theorem Stepped.foreign (stepped : Stepped id delivery before after) (other : delivery.key ≠ key)
    (orphanless : before.orphans.row id = none) : Foreign key id before after where
  rows := stepped.rows key other.symm
  registry := stepped.registry key other.symm
  trace := stepped.trace.imp_right fun ⟨mark, owner, named, trace⟩ =>
    ⟨mark, owner, named ▸ other, trace⟩
  channels := stepped.channels
  published := stepped.published
  orphans _ _ := by rw [stepped.orphans]
  jobs job queued := by
    rw [stepped.orphans, orphanless] at queued
    cases queued

theorem Stepped.own (stepped : Stepped id delivery before after)
    (own : ∀ mark ∈ before.trace, mark.owner = id → mark.key = delivery.key) (mark : Mark)
    (member : mark ∈ after.trace) (owner : mark.owner = id) : mark.key = delivery.key := by
  obtain same | ⟨new, -, named, trace⟩ := stepped.trace
  · exact own mark (same ▸ member) owner
  · rw [trace] at member
    obtain rfl | sooner := List.mem_cons.mp member
    · exact named
    · exact own mark sooner owner

/-- A delivery that ran never goes back to its claim. -/
theorem advance_ne_claiming (ops : Ops) (shared : Shared) (id : ℕ) (delivery : Delivery)
    (answer : Answer) (phase : Phase) :
    (advance ops shared id delivery answer phase).2 ≠ some .claiming := by
  cases phase with
  | claimed claim =>
      cases claim with
      | claimed state =>
          simp only [advance, resume]
          split <;> nofun
      | running =>
          simp only [advance, resume]
          split <;> nofun
      | cached | unauthorized | foreignRecipe | notActive => nofun
  | claiming | loading | committed =>
      simp only [advance]
      split_ifs <;> nofun
  | rereading =>
      simp only [advance]
      split_ifs
      · nofun
      · split <;> nofun
  | committing | attached =>
      simp only [advance]
      split <;> nofun
  | hooking | replying | refusing => nofun

/-! ### Every choice of the scheduler -/

/-- Nothing the key is about changes. -/
structure Same (key : RequestKey) (before after : Shared) : Prop where
  trace : after.trace = before.trace
  rows : after.rows.row key = before.rows.row key
  registry : after.registry = before.registry
  channels : after.channels = before.channels
  orphans : after.orphans = before.orphans

theorem Same.rely (same : Same key before after) (orphanless : before.orphans.row id = none) :
    Rely key id before after where
  marks _ member := same.trace ▸ member
  own _ member := .inl (same.trace ▸ member)
  rows := .inl same.rows
  registry := .inl (by rw [same.registry])
  enters _ _ listed := by rwa [same.registry] at listed
  wakes listed := .inl (by rwa [same.registry])
  channels _ _ := by rw [same.channels]
  published spoken := by rwa [same.channels]
  orphans _ _ := by rw [same.orphans]
  leaves _ _ queued := by
    rw [same.orphans, orphanless] at queued
    cases queued

theorem Same.steady (same : Same key before after) (steady : Steady ops key spawned before) :
    Steady ops key spawned after := by
  obtain ⟨clock, subscription, rows, registry, channels, orphans, trace⟩ := after
  obtain ⟨rfl, here, rfl, rfl, rfl⟩ := same
  have holds : ∀ terminal subscriptionId op, Holds before key terminal subscriptionId op →
      ∃ row, rows.row key = some row ∧ row.terminal = some terminal ∧
        row.subscriptionId = subscriptionId ∧ row.op = op :=
    fun _ _ _ ⟨row, found, named⟩ => ⟨row, here.trans found, named⟩
  exact {
    marked := steady.marked
    spoken := steady.spoken
    queued := steady.queued
    jobs := fun id job queued => by
      have pending := steady.jobs id job queued
      cases job <;> exact pending
    unclaimed := fun absent => steady.unclaimed (here.symm.trans absent)
    single := steady.single
    hooked := fun id input member => by
      obtain ⟨made, runnable, row, found, named⟩ := steady.hooked id input member
      exact ⟨made, runnable, row, here.trans found, named⟩
    once := steady.once
    finished := fun row found => steady.finished row (here.symm.trans found)
    answered := fun id reply member bound => by
      obtain ⟨row, found, result⟩ := steady.answered id reply member bound
      exact ⟨row, here.trans found, result⟩
    refused := steady.refused
    channels := fun id terminal subscriptionId op spoken made =>
      holds _ _ _ (steady.channels id terminal subscriptionId op spoken made)
    registry := steady.registry }

/-- A dropped task leaves its job on the queue. -/
theorem Rely.leave {job : Job} (rely : Rely key id before shared)
    (leaves : ∀ delivery terminal, job = .commit delivery terminal → delivery.key = key →
      .claimed id key ∈ before.trace) :
    Rely key id before { shared with orphans := shared.orphans.put id job } where
  marks := rely.marks
  own := rely.own
  rows := rely.rows
  registry := rely.registry
  enters := rely.enters
  wakes := rely.wakes
  channels := rely.channels
  published := rely.published
  orphans other different := (shared.orphans.put_row_other _ different).trans
    (rely.orphans other different)
  leaves delivery terminal queued same := by
    obtain rfl : job = .commit delivery terminal := by simpa using queued
    exact leaves delivery terminal rfl same

/-- **A dropped delivery of the key.** -/
theorem drop_own {phase : Phase} (steady : Steady ops delivery.key spawned shared)
    (below : id < spawned) (knows : Knows ops delivery.key shared id ⟨delivery, phase⟩) :
    Rely delivery.key id shared (drop shared id ⟨delivery, phase⟩) ∧
      Steady ops delivery.key spawned (drop shared id ⟨delivery, phase⟩) ∧
      (drop shared id ⟨delivery, phase⟩).registry.row delivery.key ≠ some id := by
  have claims := knows.claims rfl
  have stays : Rely delivery.key id shared shared :=
    (⟨rfl, rfl, rfl, rfl, rfl⟩ : Same delivery.key shared shared).rely knows.orphanless
  have leaves : .claimed id delivery.key ∈ shared.trace →
      Rely delivery.key id shared (shared.release id delivery.key) ∧
        Steady ops delivery.key spawned (shared.release id delivery.key) ∧
        (shared.release id delivery.key).registry.row delivery.key ≠ some id := by
    intro claimed
    have owes : Owes ops spawned id delivery shared (shared.release id delivery.key) none :=
      release_owes steady below knows.orphanless knows.own claimed
    exact ⟨owes.rely, owes.steady, fun listed => by simpa using owes.duty listed⟩
  have unlisted : phase.guards = false → shared.registry.row delivery.key ≠ some id := by
    intro unguarded listed
    rw [knows.listed rfl listed] at unguarded
    cases unguarded
  cases phase with
  | claiming =>
      exact ⟨stays.leave nofun, steady.leave below (knows.fresh rfl), unlisted rfl⟩
  | committing terminal =>
      obtain ⟨owner, -, -, produced⟩ := claims
      obtain ⟨rely, after, gone⟩ := leaves owner.claimed
      refine ⟨rely.leave fun _ _ _ _ => owner.claimed, after.leave below ?_, gone⟩
      exact ⟨knows.own, fun _ => ⟨owner.claimed, produced⟩⟩
  | loading | hooking => exact leaves claims.1.claimed
  | committed => exact leaves claims.1
  | claimed | attached | rereading | replying | refusing => exact ⟨stays, steady, unlisted rfl⟩

/-- **A dropped delivery of another key.** -/
theorem drop_foreign {thread : Thread} (other : thread.delivery.key ≠ key)
    (knows : Knows ops key shared id thread) : Foreign key id shared (drop shared id thread) := by
  have released : Stepped id thread.delivery shared
      (if thread.phase.guards then shared.release id thread.delivery.key else shared) := by
    split_ifs
    · exact .publish id thread.delivery shared _
    · exact .refl id thread.delivery shared
  have foreign := released.foreign other knows.orphanless
  unfold drop
  cases queued : thread.phase.job thread.delivery with
  | none => exact foreign
  | some job =>
      have own : job.delivery = thread.delivery := by
        revert queued
        cases thread.phase <;> simp only [Phase.job, reduceCtorEq, Option.some.injEq, false_imp_iff]
        all_goals
          rintro rfl
          rfl
      refine ⟨foreign.rows, foreign.registry, foreign.trace, foreign.channels, foreign.published,
        fun third different => ?_, fun left here => ?_⟩
      · exact (Table.put_row_other _ _ different).trans (foreign.orphans third different)
      · obtain rfl : job = left := by simpa using here
        refine ⟨own ▸ other, ?_⟩
        cases job with
        | claim delivery =>
            have claiming : thread.phase = .claiming := by
              revert queued
              cases thread.phase <;> simp [Phase.job]
            simp only [claiming, Phase.guards, Bool.false_eq_true, if_false]
            exact knows.fresh claiming
        | commit delivery terminal =>
            exact ⟨fun mark member owner =>
              (released.own knows.own mark member owner).trans (congrArg Delivery.key own.symm),
              fun same => absurd (own ▸ same) other⟩

/-- The queue without the job of `id`. -/
def taken (shared : Shared) (id : ℕ) : Shared :=
  { shared with orphans := shared.orphans.delete fun other _ => other = id }

theorem taken_orphanless (shared : Shared) (id : ℕ) : (taken shared id).orphans.row id = none :=
  shared.orphans.delete_row_self id

theorem Steady.taken (steady : Steady ops key spawned shared) :
    Steady ops key spawned (taken shared id) where
  __ := steady
  queued other job queued :=
    steady.queued other job ((shared.orphans.delete_row_eq_some _ other job).mp queued).1
  jobs other job queued := by
    have pending := steady.jobs other job
      ((shared.orphans.delete_row_eq_some _ other job).mp queued).1
    cases job <;> exact pending

/-- A step from the shortened queue is a step from the queue. -/
theorem Rely.of_taken (rely : Rely key id (taken shared id) after) : Rely key id shared after where
  marks := rely.marks
  own := rely.own
  rows := rely.rows
  registry := rely.registry
  enters := rely.enters
  wakes := rely.wakes
  channels := rely.channels
  published := rely.published
  orphans other different :=
    (rely.orphans other different).trans (shared.orphans.delete_row_other different)
  leaves := rely.leaves

/-- **A job without a task** does what its task would have had it do, and publishes nothing. -/
theorem job_keeps {job : Job} (steady : Steady ops key spawned shared)
    (queued : shared.orphans.row id = some job) (fails : Bool) :
    Rely key id shared (shared.runJob ops.recipe id fails) ∧
      Steady ops key spawned (shared.runJob ops.recipe id fails) := by
  have pending := steady.jobs id job queued
  have below := steady.queued id job queued
  have rest : Steady ops key spawned (taken shared id) := steady.taken
  have orphanless := taken_orphanless shared id
  have stays : Rely key id shared (taken shared id) ∧ Steady ops key spawned (taken shared id) :=
    ⟨((⟨rfl, rfl, rfl, rfl, rfl⟩ : Same key _ _).rely orphanless).of_taken, rest⟩
  have foreign : ∀ after, Stepped id job.delivery (taken shared id) after → job.delivery.key ≠ key →
      (∀ mark ∈ shared.trace, mark.owner = id → mark.key = job.delivery.key) →
      Rely key id shared after ∧ Steady ops key spawned after := by
    intro after stepped other own
    have away := stepped.foreign other orphanless
    exact ⟨away.rely.of_taken, away.steady rest below fun mark member owner =>
      own mark member owner ▸ other⟩
  cases fails with
  | true =>
      have ran : shared.runJob ops.recipe id true = taken shared id := by
        simp [Shared.runJob, queued, taken]
      rw [ran]
      exact stays
  | false =>
    cases job with
    | claim delivery =>
        have ran : shared.runJob ops.recipe id false =
            ((taken shared id).runClaim ops.recipe id delivery).1 := by
          simp [Shared.runJob, queued, taken]
        rw [ran]
        obtain ⟨unmarked, silent⟩ := pending
        by_cases same : delivery.key = key
        · subst same
          have knows : Knows ops delivery.key (taken shared id) id ⟨delivery, .claiming⟩ :=
            ⟨orphanless, fun _ => ⟨unmarked, silent⟩,
              fun mark member owner => absurd owner (unmarked mark member),
              fun _ listed => absurd rfl (unmarked _ (steady.registry id listed).1), fun _ => trivial⟩
          have owes := claim_owes rest below knows
          exact ⟨owes.rely.of_taken, owes.steady⟩
        · exact foreign _ (runClaim_stepped ops.recipe id delivery _) same
            fun mark member owner => absurd owner (unmarked mark member)
    | commit delivery terminal =>
        obtain ⟨own, pending⟩ := pending
        have runs : shared.runJob ops.recipe id false =
            ((taken shared id).runCommit delivery terminal).getD (taken shared id) := by
          simp [Shared.runJob, queued, taken]
        rw [runs]
        obtain ran | ⟨row, found, running, ran⟩ :=
          runCommit_cases (taken shared id) delivery terminal
        · rw [ran]
          exact stays
        · by_cases same : delivery.key = key
          · subst same
            obtain ⟨claimed, produced⟩ := pending rfl
            rw [ran]
            refine ⟨Rely.of_taken ?_, rest.finish found running produced delivery.now⟩
            exact
              { marks := fun _ member => member
                own := fun _ member => .inl member
                rows := .inr (.inr ⟨claimed, row, found, running⟩)
                registry := .inl rfl
                enters := fun _ _ listed => listed
                wakes := .inl
                channels := fun _ _ => rfl
                published := fun spoken => spoken
                orphans := fun _ _ => rfl
                leaves := fun _ _ queued => by cases queued.symm.trans orphanless }
          · have stepped := runCommit_stepped id ran
            rw [ran]
            exact foreign _ stepped same own

end Lnrent.Dispatch
