/-
**One hook, one answer.** Any number of deliveries of one `op.request` id, with any bodies, interleave
with each other and with the rest of the daemon; tasks are dropped at any await point, dropped tasks
leave jobs behind that still run, and crashes are followed by the recovery of interrupted rows.

* `Kept` — the condition: the idempotency row of the key is not pruned;
* `dispatching_outline`, `registry_attendance` — the outline, and a live owner for every registry entry;
* `once_only` — **at most one hook, every answer is the row's own terminal, no waiter is forgotten**.
-/

import Lnrent.Dispatch.Delivery

namespace Lnrent.Dispatch

open Relational Transition OpDispatch

variable {ops : Ops} {key : RequestKey}

/-- The prune leaves the key's row. -/
def Kept (key : RequestKey) (pool : Pool Shared Thread) :
    Schedule (RequestKey × OpRequest) Answer Event → Prop
  | .environment (.prune unixepoch) =>
      (pruneOpInvocations pool.shared.rows
        (Maintenance.pruneCutoff unixepoch pool.shared.clock)).row key = pool.shared.rows.row key
  | _ => True

instance (key : RequestKey) (pool : Pool Shared Thread)
    (choice : Schedule (RequestKey × OpRequest) Answer Event) : Decidable (Kept key pool choice) :=
  match choice with
  | .environment (.prune _) => by unfold Kept; infer_instance
  | .environment (.clock _) | .environment (.subscriptions _) | .environment (.job _ _)
  | .spawn _ | .advance _ _ | .drop _ | .crash => .isTrue trivial

/-- What one more choice of the scheduler leaves standing for the other tasks. -/
theorem passes_of_rely {pool : Pool Shared Thread} {id spawned : ℕ} {shared : Shared}
    {next : Option Thread} (asserted : Asserted (Steady ops key) (Knows ops key) pool)
    (rely : Rely key id pool.shared shared) (steady : Steady ops key spawned shared)
    (knows : ∀ thread, next = some thread → Knows ops key shared id thread) :
    Passes (Steady ops key) (Knows ops key) pool id spawned shared next where
  invariant := steady
  self := knows
  others other sibling different here :=
    (asserted.thread other sibling here).rely rely asserted.invariant steady different

theorem Steady.unqueued {spawned : ℕ} {shared : Shared} (steady : Steady ops key spawned shared) :
    shared.orphans.row spawned = none := by
  cases queued : shared.orphans.row spawned with
  | none => rfl
  | some job => exact absurd (steady.queued spawned job queued) (lt_irrefl _)

theorem Steady.unspoken {spawned : ℕ} {shared : Shared} (steady : Steady ops key spawned shared) :
    shared.channels.row spawned = none := by
  cases spoken : shared.channels.row spawned with
  | none => rfl
  | some outcome => exact absurd (steady.spoken spawned outcome spoken) (lt_irrefl _)

/-- The recovery of interrupted rows, row by row. -/
theorem recover_row {rows : Table RequestKey OpRow} {row : OpRow} (found : rows.row key = some row)
    (now : ℤ) : ∃ after, (recoverInterruptedOps rows now).row key = some after ∧ after.op = row.op ∧
      (row.terminal ≠ none → after = row) ∧ (after.state = .done → row.state = .done) := by
  simp only [recoverInterruptedOps, Table.update_row, found, Option.map_some]
  split_ifs with running
  · exact ⟨_, rfl, rfl, fun ended => absurd (terminal_eq_none.mpr running) ended, nofun⟩
  · exact ⟨_, rfl, rfl, fun _ => rfl, fun done => done⟩

/-- **A crash** ends what was interrupted, and leaves what was answered. -/
theorem Steady.crash {spawned : ℕ} {shared : Shared} (steady : Steady ops key spawned shared) :
    Steady ops key spawned ((dispatching ops).crash shared) where
  marked := steady.marked
  spoken := nofun
  queued := nofun
  jobs := nofun
  unclaimed absent := by
    refine steady.unclaimed ?_
    cases found : shared.rows.row key with
    | none => rfl
    | some row =>
        obtain ⟨after, here, -⟩ := recover_row found shared.clock
        exact absurd (here.symm.trans absent) nofun
  single := steady.single
  hooked id input member := by
    obtain ⟨made, runnable, row, found, named⟩ := steady.hooked id input member
    obtain ⟨after, here, same, -⟩ := recover_row found shared.clock
    exact ⟨made, runnable, after, here, same.trans named⟩
  once := steady.once
  finished row found done := by
    cases old : shared.rows.row key with
    | none => simp [dispatching, recoverInterruptedOps, old] at found
    | some before =>
        obtain ⟨after, here, -, -, finished⟩ := recover_row old shared.clock
        cases here.symm.trans found
        exact steady.finished before old (finished done)
  answered id reply member bound := by
    obtain ⟨row, found, result⟩ := steady.answered id reply member bound
    obtain ⟨terminal, cached, -⟩ := Option.map_eq_some_iff.mp result
    obtain ⟨after, here, -, kept, -⟩ := recover_row found shared.clock
    obtain rfl := kept (by simp [cached])
    exact ⟨after, here, result⟩
  refused := steady.refused
  channels := nofun
  registry := nofun

/-- The prune, the clock and the other tables leave the key alone. -/
theorem environment_keeps (pool : Pool Shared Thread) (event : Event)
    (kept : Kept key pool (.environment event))
    (asserted : Asserted (Steady ops key) (Knows ops key) pool) :
    ∃ id, (∀ other thread, pool.threads.row other = some thread → other ≠ id) ∧
      Rely key id pool.shared ((dispatching ops).environment pool.shared event) ∧
      Steady ops key pool.spawned ((dispatching ops).environment pool.shared event) := by
  have unused := asserted.invariant.unqueued
  have fresh : ∀ other thread, pool.threads.row other = some thread → other ≠ pool.spawned :=
    fun other thread found => (asserted.known other thread found).ne
  have stays : ∀ after, Same key pool.shared after → ∃ id,
      (∀ other thread, pool.threads.row other = some thread → other ≠ id) ∧
        Rely key id pool.shared after ∧ Steady ops key pool.spawned after :=
    fun after same => ⟨pool.spawned, fresh, same.rely unused, same.steady asserted.invariant⟩
  cases event with
  | clock now => exact stays _ ⟨rfl, rfl, rfl, rfl, rfl⟩
  | subscriptions table => exact stays _ ⟨rfl, rfl, rfl, rfl, rfl⟩
  | prune unixepoch => exact stays _ ⟨rfl, kept, rfl, rfl, rfl⟩
  | job id fails =>
      cases queued : pool.shared.orphans.row id with
      | none =>
          have idle : pool.shared.runJob ops.recipe id fails = pool.shared := by
            simp [Shared.runJob, queued]
          simp only [dispatching, idle]
          exact stays _ ⟨rfl, rfl, rfl, rfl, rfl⟩
      | some job =>
          refine ⟨id, fun other thread found same => ?_,
            job_keeps asserted.invariant queued fails⟩
          have orphanless := (asserted.thread other thread found).orphanless
          rw [same, queued] at orphanless
          cases orphanless

/-- One step of any delivery. -/
theorem advance_keeps (pool : Pool Shared Thread) (id : ℕ) (thread : Thread) (answer : Answer)
    (asserted : Asserted (Steady ops key) (Knows ops key) pool)
    (found : pool.threads.row id = some thread) :
    Rely key id pool.shared ((dispatching ops).advance pool.shared id thread answer).1 ∧
      Steady ops key pool.spawned ((dispatching ops).advance pool.shared id thread answer).1 ∧
      (∀ next, ((dispatching ops).advance pool.shared id thread answer).2 = some next →
        Knows ops key ((dispatching ops).advance pool.shared id thread answer).1 id next) := by
  have knows := asserted.thread id thread found
  have below := asserted.known id thread found
  obtain ⟨delivery, phase⟩ := thread
  by_cases same : delivery.key = key
  · subst same
    have owes := @advance_owes ops id pool.spawned pool.shared delivery answer phase
      asserted.invariant below knows
    refine ⟨owes.rely, owes.steady, fun next moved => ?_⟩
    obtain ⟨after, reached, rfl⟩ := Option.map_eq_some_iff.mp moved
    exact owes.knows after reached
  · have stepped := advance_stepped ops pool.shared id delivery answer phase
    have foreign := stepped.foreign same knows.orphanless
    refine ⟨foreign.rely, foreign.steady asserted.invariant below fun mark member owner =>
      knows.own mark member owner ▸ same, fun next moved => ?_⟩
    obtain ⟨after, reached, rfl⟩ := Option.map_eq_some_iff.mp moved
    refine ⟨?_, fun claiming => ?_, stepped.own knows.own, fun own => absurd own same,
      fun own => absurd own same⟩
    · exact (congrArg (fun table => table.row id) stepped.orphans).trans knows.orphanless
    · have back : after = .claiming := claiming
      exact absurd (back ▸ reached) (advance_ne_claiming ops pool.shared id delivery answer phase)

/-- A dropped delivery. -/
theorem drop_keeps (pool : Pool Shared Thread) (id : ℕ) (thread : Thread)
    (asserted : Asserted (Steady ops key) (Knows ops key) pool)
    (found : pool.threads.row id = some thread) :
    Rely key id pool.shared (drop pool.shared id thread) ∧
      Steady ops key pool.spawned (drop pool.shared id thread) ∧
      (drop pool.shared id thread).registry.row key ≠ some id := by
  have knows := asserted.thread id thread found
  have below := asserted.known id thread found
  obtain ⟨delivery, phase⟩ := thread
  by_cases same : delivery.key = key
  · subst same
    exact drop_own asserted.invariant below knows
  · have foreign := drop_foreign same knows
    have apart : ∀ mark ∈ pool.shared.trace, mark.owner = id → mark.key ≠ key :=
      fun mark member owner => knows.own mark member owner ▸ same
    refine ⟨foreign.rely, foreign.steady asserted.invariant below apart, fun listed => ?_⟩
    have claimed := (asserted.invariant.registry id (foreign.registry.symm.trans listed)).1
    exact apart _ claimed rfl rfl

/-- **The proof outline** of the deliveries, for the runs that keep the row. -/
theorem dispatching_outline (ops : Ops) (key : RequestKey) :
    Outline (Steady ops key) (Knows ops key) (dispatching ops) (Kept key) where
  start :=
    { marked := fun _ member => absurd member List.not_mem_nil
      spoken := fun _ _ found => absurd found nofun
      queued := fun _ _ found => absurd found nofun
      jobs := fun _ _ found => absurd found nofun
      unclaimed := fun _ _ bound => bound.elim (absurd · List.not_mem_nil) (absurd · List.not_mem_nil)
      single := fun _ _ member => absurd member List.not_mem_nil
      hooked := fun _ _ member => absurd member List.not_mem_nil
      once := Nat.zero_le _
      finished := fun _ found => absurd found nofun
      answered := fun _ _ member => absurd member List.not_mem_nil
      refused := fun _ member => absurd member List.not_mem_nil
      channels := fun _ _ _ _ found => absurd found nofun
      registry := fun _ found => absurd found nofun }
  spawn pool request _ asserted := by
    have steady := asserted.invariant.mono (Nat.le_succ pool.spawned)
    have unmarked : Unmarked pool.shared.trace pool.spawned :=
      fun mark member => (asserted.invariant.marked mark member).ne
    have unused := asserted.invariant.unqueued
    have unlisted : pool.shared.registry.row key ≠ some pool.spawned :=
      fun listed => unmarked _ (asserted.invariant.registry _ listed).1 rfl
    simp only [dispatching]
    split_ifs with valid
    · have same : Same key pool.shared pool.shared := ⟨rfl, rfl, rfl, rfl, rfl⟩
      refine passes_of_rely asserted (same.rely unused) steady ?_
      rintro _ ⟨⟩
      refine ⟨unused, fun _ => ⟨unmarked, asserted.invariant.unspoken⟩, ?_,
        fun _ listed => absurd listed unlisted, fun _ => trivial⟩
      exact fun mark member owner => absurd owner (unmarked mark member)
    · have refused : Steady ops key (pool.spawned + 1)
          (pool.shared.mark (.refused pool.spawned request.1)) := by
        refine steady.plain trivial (Nat.lt_succ_self _) unused nofun ?_ nofun
        rintro id ⟨⟩ (made | seen)
        · exact unmarked _ made rfl
        · exact unmarked _ seen rfl
      refine passes_of_rely asserted (.mark rfl unused) refused ?_
      rintro _ ⟨⟩
      refine ⟨unused, nofun, ?_, fun _ listed => absurd listed unlisted, ?_⟩
      · intro mark member owner
        obtain rfl | sooner := List.mem_cons.mp member
        · rfl
        · exact absurd owner (unmarked mark sooner)
      · rintro rfl
        exact .head _
  advance pool id thread answer _ asserted found := by
    obtain ⟨rely, steady, knows⟩ := advance_keeps pool id thread answer asserted found
    exact passes_of_rely asserted rely steady knows
  drop pool id thread _ asserted found := by
    obtain ⟨rely, steady, -⟩ := drop_keeps pool id thread asserted found
    exact passes_of_rely asserted rely steady fun _ moved => by cases moved
  environment pool event kept asserted := by
    obtain ⟨id, others, rely, steady⟩ := environment_keeps pool event kept asserted
    exact ⟨steady, fun other thread found =>
      (asserted.thread other thread found).rely rely asserted.invariant steady
        (others other thread found)⟩
  crash pool _ asserted := asserted.invariant.crash

/-! ### Every registry entry has its owner -/

/-- The delivery owns the key's registry entry. -/
def Listed (key : RequestKey) (shared : Shared) (id : ℕ) : Prop :=
  shared.registry.row key = some id

/-- A delivery of the key that holds its guard. -/
def Guarding (key : RequestKey) (thread : Thread) : Prop :=
  thread.delivery.key = key ∧ thread.phase.guards = true

theorem runJob_registry (recipe : Recipe) (shared : Shared) (id : ℕ) (fails : Bool) :
    (shared.runJob recipe id fails).registry = shared.registry := by
  unfold Shared.runJob
  cases shared.orphans.row id with
  | none => rfl
  | some job =>
      simp only
      split_ifs
      · rfl
      · cases job with
        | claim delivery => rfl
        | commit delivery terminal =>
            simp only [Shared.runCommit]
            cases commitTerminal shared.rows delivery.key terminal delivery.now <;> rfl

/-- **The owner of a registry entry is live.** -/
theorem registry_attendance (ops : Ops) (key : RequestKey) :
    Attendance (Listed key) (Guarding key) (dispatching ops) fun pool choice =>
      Kept key pool choice ∧ Asserted (Steady ops key) (Knows ops key) pool where
  start id listed := by cases listed
  spawn pool request meets id listed := by
    have before : pool.shared.registry.row key = some id := by
      simp only [dispatching] at listed
      split_ifs at listed <;> exact listed
    refine ⟨?_, before⟩
    rintro rfl
    have claimed := (meets.2.invariant.registry _ before).1
    exact (meets.2.invariant.marked _ claimed).ne rfl
  advance pool id thread answer meets found := by
    have asserted := meets.2
    obtain ⟨rely, -, -⟩ := advance_keeps pool id thread answer asserted found
    refine ⟨rely.enters, fun listed => ?_⟩
    have knows := asserted.thread id thread found
    obtain ⟨delivery, phase⟩ := thread
    by_cases same : delivery.key = key
    · subst same
      have owes := @advance_owes ops id pool.spawned pool.shared delivery answer phase
        asserted.invariant (asserted.known id _ found) knows
      obtain ⟨next, reached, guards⟩ := owes.duty listed
      refine ⟨⟨delivery, next⟩, ?_, rfl, guards⟩
      simp only [dispatching, reached, Option.map_some]
    · have stepped := advance_stepped ops pool.shared id delivery answer phase
      have before := (stepped.registry key (Ne.symm same)).symm.trans listed
      have claimed := (asserted.invariant.registry id before).1
      exact absurd (knows.own _ claimed rfl).symm same
  drop pool id thread meets found other listed := by
    obtain ⟨rely, -, gone⟩ := drop_keeps pool id thread meets.2 found
    have different : other ≠ id := by
      rintro rfl
      exact gone listed
    exact ⟨different, rely.enters other different listed⟩
  environment pool event meets id listed := by
    cases event with
    | job job fails =>
        have same := runJob_registry ops.recipe pool.shared job fails
        unfold Listed at listed ⊢
        simp only [dispatching, same] at listed
        exact listed
    | clock | subscriptions | prune => exact listed
  crash pool _ id listed := by cases listed

/-! ### The result -/

/-- The recipe has no such request operation. -/
def UnknownOp (ops : Ops) (op : Text) : Prop := ∀ found, ops.operation op = some found → found.isRequest = false

theorem UnknownOp.refused {op : Text} (unknown : UnknownOp ops op) {request : OpRequest}
    (named : request.op = op) : resolve ops request = some unknownOp := by
  subst named
  unfold resolve
  cases found : ops.operation request.op with
  | none => rfl
  | some operation => simp [unknown operation found]

/-- **The promises of one request id**, around one more choice of the scheduler. -/
structure Promises (ops : Ops) (key : RequestKey) (before : Pool Shared Thread)
    (choice : Schedule (RequestKey × OpRequest) Answer Event) (after : Pool Shared Thread) :
    Prop where
  /-- The hook is started at most once. -/
  once : hookRuns key after.shared.trace ≤ 1
  /-- A reply of a delivery whose claim found or made the row is the row's terminal. -/
  answers : ∀ id reply, .sent id key reply ∈ after.shared.trace → Bound after.shared.trace id key →
    Answers after.shared key reply
  /-- An attached duplicate was woken, or waits for a live owner that still holds its guard. -/
  waiting : ∀ id delivery owner, delivery.key = key →
    after.threads.row id = some ⟨delivery, .attached owner⟩ →
    (after.shared.channels.row owner).isSome ∨
      ∃ thread, after.threads.row owner = some thread ∧ Guarding key thread
  /-- The registry holds nothing but live owners. -/
  registry : ∀ owner, after.shared.registry.row key = some owner →
    ∃ thread, after.threads.row owner = some thread ∧ Guarding key thread
  /-- A request refused before the claim never gets the row, and runs no hook. -/
  refused : ∀ id, .refused id key ∈ after.shared.trace →
    ¬ Bound after.shared.trace id key ∧ ∀ input, .hook id key input ∉ after.shared.trace
  /-- Its steps write no row. -/
  rowless : ∀ id answer thread, choice = .advance id answer → before.threads.row id = some thread →
    .refused id key ∈ after.shared.trace → after.shared.rows = before.shared.rows
  /-- An unknown operation runs no hook, and its row is no DONE. -/
  unknown : ∀ row, after.shared.rows.row key = some row → UnknownOp ops row.op →
    row.state ≠ .done ∧ ∀ id input, .hook id key input ∉ after.shared.trace

/-- What one state promises. -/
theorem promises_of_asserted {before after : Pool Shared Thread}
    {choice : Schedule (RequestKey × OpRequest) Answer Event}
    (asserted : Asserted (Steady ops key) (Knows ops key) after)
    (attended : Attended (Listed key) (Guarding key) after)
    (rowless : ∀ id answer thread, choice = .advance id answer →
      before.threads.row id = some thread → .refused id key ∈ after.shared.trace →
      after.shared.rows = before.shared.rows) : Promises ops key before choice after where
  once := asserted.invariant.once
  answers := asserted.invariant.answered
  waiting id delivery owner same found := by
    obtain ⟨-, -, woken⟩ := (asserted.thread id _ found).claims same
    exact woken.imp_right (attended owner)
  registry := attended
  refused id member := by
    have unbound := asserted.invariant.refused id member
    exact ⟨unbound, fun input hooked => unbound (.inl (asserted.invariant.hooked id input hooked).1)⟩
  rowless := rowless
  unknown row found unknown := by
    have unhooked : ∀ id input, .hook id key input ∉ after.shared.trace := by
      intro id input hooked
      obtain ⟨-, runnable, other, here, named⟩ := asserted.invariant.hooked id input hooked
      rw [found] at here
      cases here
      rw [unknown.refused named.symm] at runnable
      cases runnable
    refine ⟨fun done => ?_, unhooked⟩
    obtain ⟨id, input, hooked⟩ := asserted.invariant.finished row found done
    exact unhooked id input hooked

/-- **One hook and one answer for a request id**, in every interleaving that keeps its row. -/
theorem once_only (ops : Ops) (key : RequestKey)
    (choices : List (Schedule (RequestKey × OpRequest) Answer Event))
    (choice : Schedule (RequestKey × OpRequest) Answer Event)
    (kept : (dispatching ops).machine.Meets (Kept key) (choices ++ [choice])) :
    Promises ops key ((dispatching ops).machine.run choices) choice
      ((dispatching ops).machine.run (choices ++ [choice])) := by
  have outline := dispatching_outline ops key
  have parts := ((dispatching ops).machine.meetsFrom_append choices [choice] _).mp kept
  have earlier := outline.asserted choices parts.1
  have asserted := outline.asserted (choices ++ [choice]) kept
  have attended := (registry_attendance ops key).attended (choices ++ [choice])
    (outline.meets _ _ (outline.asserted [] trivial) kept)
  refine promises_of_asserted asserted attended fun id answer thread chosen found member => ?_
  subst chosen
  have ran : (dispatching ops).machine.run (choices ++ [.advance id answer]) =
      (dispatching ops).step ((dispatching ops).machine.run choices) (.advance id answer) :=
    (dispatching ops).machine.runFrom_append choices _ _
  rw [ran] at member ⊢
  simp only [Program.step, found] at member ⊢
  obtain ⟨delivery, phase⟩ := thread
  by_cases same : delivery.key = key
  · subst same
    exact (@advance_owes ops id _ _ delivery answer phase earlier.invariant
      (earlier.known id _ found) (earlier.thread id _ found)).kept member
  · have stepped := advance_stepped ops ((dispatching ops).machine.run choices).shared id delivery
      answer phase
    exact absurd (stepped.own (earlier.thread id _ found).own _ member rfl).symm same

/-! ### Runs -/

/-- A recipe with the one operation `7`, which takes no params. -/
def plainOps : Ops where
  recipe := ⟨0, 21, 0, ⟨1, 1, 1, 1⟩⟩
  operation op := if op = 7 then some ⟨7, true, []⟩ else none
  validTail _ := true

/-- The ACTIVE subscription of the buyer `1`. -/
def plainSubscriptions : Table OrderId SubscriptionRow :=
  Table.empty.put ⟨1, 0⟩
    ⟨some 0, 1, .active, none, some 100, some 10, some 50, some 100, some 90, some 90, none, none, 0⟩

/-- Two deliveries of one id: the second attaches to the first while its hook runs, and a prune
passes. -/
def racing : List (Schedule (RequestKey × OpRequest) Answer Event) :=
  [.environment (.subscriptions plainSubscriptions), .spawn (⟨1, 5⟩, ⟨⟨1, 0⟩, 7, some []⟩),
    .advance 0 {}, .advance 0 {}, .advance 0 {}, .spawn (⟨1, 5⟩, ⟨⟨1, 0⟩, 8, none⟩),
    .advance 1 {}, .advance 1 {}, .environment (.prune 0),
    .advance 0 { hook := .output ⟨3, true⟩ }, .advance 0 {}, .advance 0 {}, .advance 1 {},
    .advance 0 {}]

/-- The run of the two deliveries, up to the duplicate's reply. -/
theorem once_only_racing :
    (dispatching plainOps).machine.Meets (Kept ⟨1, 5⟩) (racing ++ [.advance 1 {}]) ∧
      Promises plainOps ⟨1, 5⟩ ((dispatching plainOps).machine.run racing) (.advance 1 {})
        ((dispatching plainOps).machine.run (racing ++ [.advance 1 {}])) :=
  ⟨by decide, once_only plainOps ⟨1, 5⟩ racing (.advance 1 {}) (by decide)⟩

example : ((dispatching plainOps).machine.run (racing ++ [.advance 1 {}])).shared.trace.countP
    (fun mark => mark matches .sent _ _ ⟨5, ⟨1, 0⟩, 7, .done ⟨3, true⟩⟩) = 2 := by decide

/-- **An unknown operation leaves a row**: it is refused after the claim, by a cached ERROR. -/
theorem unknown_op_leaves_row :
    ¬ ∀ (ops : Ops) (key : RequestKey)
      (choices : List (Schedule (RequestKey × OpRequest) Answer Event)),
      (∀ other request, .spawn (other, request) ∈ choices → UnknownOp ops request.op) →
      ((dispatching ops).machine.run choices).shared.rows.row key = none := by
  intro rowless
  have absent := rowless plainOps ⟨1, 5⟩
    [.environment (.subscriptions plainSubscriptions), .spawn (⟨1, 5⟩, ⟨⟨1, 0⟩, 8, none⟩),
      .advance 0 {}, .advance 0 {}, .advance 0 {}] (by
        intro other request member found named
        simp only [List.mem_cons, reduceCtorEq, Schedule.spawn.injEq, Prod.mk.injEq,
          List.not_mem_nil, or_false, false_or] at member
        obtain ⟨-, rfl⟩ := member
        simp [plainOps] at named)
  have present : (((dispatching plainOps).machine.run
    [.environment (.subscriptions plainSubscriptions), .spawn (⟨1, 5⟩, ⟨⟨1, 0⟩, 8, none⟩),
      .advance 0 {}, .advance 0 {}, .advance 0 {}]).shared.rows.row ⟨1, 5⟩).map (·.state) =
      some .error := by decide
  rw [absent] at present
  cases present

end Lnrent.Dispatch
