/-
**Routing an inbound wrap.** Any number of relay copies of any wraps interleave, with handler errors,
an empty rate limiter, store errors, cancelled tasks and crashes.

* `Unseen` — no row of the id, and none on its way;
* `Rely` — what a step of one task may change under the others: a task that holds a claim keeps it,
  and nobody else queues a row of its id;
* `Knows` — what a task knows at each of its await points, kept by `Knows.rely` and `Knows.runJob`;
* `Excused` — why a valid copy of a buyer's wrap may return;
* `advance_owes`, `advance_moves` — what each step owes, and where it leads;
* `inbound_dedupe` — **nothing is lost and nothing finished is routed again**.
-/

import Lnrent.Daemon.NostrEngine

namespace Lnrent.Inbound

open Relational Transition NostrEngine

/-! ### What is known of an id -/

/-- Some task's handler returned `Ok` for the id. -/
def Succeeded (trace : List Mark) (id : EventId) : Prop := ∃ task, .succeeded task id ∈ trace

/-- The statement writes the row of the id. -/
def Writes (id : EventId) : Statement → Prop
  | .markSeen other _ _ => other = id
  | .isSeen _ => False

/-- **No row of the id, and none on its way.** -/
structure Unseen (shared : Shared) (id : EventId) : Prop where
  row : shared.seen.row id = none
  queued : ∀ job ∈ shared.queue, ¬ Writes id job.statement

/-- **The invariant of the shared state.** -/
structure Steady (engine : Engine) (spawned : ℕ) (shared : Shared) : Prop where
  jobs : ∀ job ∈ shared.queue, job.task < spawned
  replies : ∀ task reply, shared.replies.row task = some reply → task < spawned
  claims : ∀ id task, shared.inFlight.row id = some task → task < spawned
  row : ∀ id row, shared.seen.row id = some row → Succeeded shared.trace id
  writes : ∀ job ∈ shared.queue, ∀ id, Writes id job.statement → Succeeded shared.trace id
  agrees : shared.negativeCache.Agrees
  cached : ∀ id ∈ shared.negativeCache.members, ¬ (engine.content id).IsBuyer

/-- The actor owes the task nothing. -/
structure Idle (shared : Shared) (task : ℕ) : Prop where
  reply : shared.replies.row task = none
  queued : ∀ job ∈ shared.queue, job.task ≠ task

/-- The read is queued, and no row of its id behind it. -/
structure Asked (shared : Shared) (task : ℕ) (id : EventId) (earlier later : List Job) : Prop where
  reply : shared.replies.row task = none
  queue : shared.queue = earlier ++ ⟨task, .isSeen id⟩ :: later
  before : ∀ job ∈ earlier, job.task ≠ task
  after : ∀ job ∈ later, job.task ≠ task ∧ ¬ Writes id job.statement

/-- The read was answered, and the answer still stands. -/
structure Replied (shared : Shared) (task : ℕ) (id : EventId) (reply : Except Unit Bool) : Prop where
  answered : shared.replies.row task = some reply
  queued : ∀ job ∈ shared.queue, job.task ≠ task
  unseen : reply = .ok false → Unseen shared id
  seen : reply = .ok true → Succeeded shared.trace id

/-- What a task knows at its await point, next to its claim. -/
def Claim (engine : Engine) (shared : Shared) (task : ℕ) (id : EventId) : Phase → Prop
  | .arriving | .checking => Idle shared task
  | .checkingReply =>
      (∃ earlier later, Asked shared task id earlier later) ∨ ∃ reply, Replied shared task id reply
  | .decoding => Unseen shared id
  | .handling .. => .routed task id ∈ shared.trace ∧ (engine.content id).IsBuyer
  | .marking .. | .markingReply =>
      .routed task id ∈ shared.trace ∧ .succeeded task id ∈ shared.trace

/-- **The assertion of the outline.** -/
structure Knows (engine : Engine) (shared : Shared) (task : ℕ) (thread : Thread) : Prop where
  holds : ∀ id, shared.inFlight.row id = some task ↔
    thread.copy.id = id ∧ thread.phase.holds = true
  claim : Claim engine shared task thread.copy.id thread.phase

/-! ### What a step may change under the others -/

/-- **The guarantee of a step of `task`.** -/
structure Rely (task : ℕ) (before after : Shared) : Prop where
  trace : ∀ mark ∈ before.trace, mark ∈ after.trace
  seen : after.seen = before.seen
  held : ∀ other id, other ≠ task →
    (before.inFlight.row id = some other ↔ after.inFlight.row id = some other)
  replies : ∀ other, other ≠ task → after.replies.row other = before.replies.row other
  queue : ∃ added, after.queue = before.queue ++ added ∧ ∀ job ∈ added, job.task = task ∧
    ∀ other id, other ≠ task → Writes id job.statement → before.inFlight.row id ≠ some other

section Rely

variable {task : ℕ} {before between after : Shared}

theorem Rely.refl (shared : Shared) : Rely task shared shared where
  trace _ found := found
  seen := rfl
  held _ _ _ := .rfl
  replies _ _ := rfl
  queue := ⟨[], (List.append_nil _).symm, fun _ member => absurd member List.not_mem_nil⟩

theorem Rely.trans (first : Rely task before between) (second : Rely task between after) :
    Rely task before after where
  trace mark found := second.trace mark (first.trace mark found)
  seen := second.seen.trans first.seen
  held other id different := (first.held other id different).trans (second.held other id different)
  replies other different := (second.replies other different).trans (first.replies other different)
  queue := by
    obtain ⟨sooner, queue, own⟩ := first.queue
    obtain ⟨later, queue', own'⟩ := second.queue
    refine ⟨sooner ++ later, by rw [queue', queue, List.append_assoc], fun job member => ?_⟩
    obtain here | here := List.mem_append.mp member
    · exact own job here
    · refine ⟨(own' job here).1, fun other id different writes holds => ?_⟩
      exact (own' job here).2 other id different writes ((first.held other id different).mp holds)

/-- A step that queues nothing. -/
theorem Rely.quiet (trace : ∀ mark ∈ before.trace, mark ∈ after.trace)
    (seen : after.seen = before.seen)
    (held : ∀ other id, other ≠ task →
      (before.inFlight.row id = some other ↔ after.inFlight.row id = some other))
    (replies : ∀ other, other ≠ task → after.replies.row other = before.replies.row other)
    (queue : after.queue = before.queue) : Rely task before after where
  trace := trace
  seen := seen
  held := held
  replies := replies
  queue := ⟨[], by simp [queue], fun _ member => absurd member List.not_mem_nil⟩

theorem Rely.mark (mark : Mark) : Rely task before (before.mark mark) :=
  .quiet (fun _ found => .tail _ found) rfl (fun _ _ _ => .rfl) (fun _ _ => rfl) rfl

theorem Rely.claim {id : EventId} (free : before.inFlight.row id = none) :
    Rely task before { before with inFlight := before.inFlight.put id task } := by
  refine .quiet (fun _ found => found) rfl (fun other given apart => ?_) (fun _ _ => rfl) rfl
  by_cases same : given = id
  · subst same
    simp [free, apart.symm]
  · rw [before.inFlight.put_row_other task same]

theorem Rely.release {id : EventId} (held : before.inFlight.row id = some task) :
    Rely task before (before.release id) := by
  refine .quiet (fun _ found => found) rfl (fun other given apart => ?_) (fun _ _ => rfl) rfl
  by_cases same : given = id
  · subst same
    simp [Shared.release, before.inFlight.delete_row_self, held, apart.symm]
  · rw [Shared.release, before.inFlight.delete_row_other same]

theorem Rely.take : Rely task before (before.take task) :=
  .quiet (fun _ found => found) rfl (fun _ _ _ => .rfl)
    (fun _ different => before.replies.delete_row_other different) rfl

theorem Rely.noteNonRoutable (id : EventId) : Rely task before (before.noteNonRoutable id) :=
  .quiet (fun _ found => found) rfl (fun _ _ _ => .rfl) (fun _ _ => rfl) rfl

theorem Rely.enqueue {statement : Statement}
    (held : ∀ id, Writes id statement → before.inFlight.row id = some task) :
    Rely task before (before.enqueue ⟨task, statement⟩) where
  trace _ found := found
  seen := rfl
  held _ _ _ := .rfl
  replies _ _ := rfl
  queue := by
    refine ⟨_, rfl, fun job member => ?_⟩
    cases List.mem_singleton.mp member
    refine ⟨rfl, fun other id different writes holds => different ?_⟩
    exact Option.some.inj (holds.symm.trans (held id writes))

end Rely

section Others

variable {engine : Engine} {task other : ℕ} {id : EventId} {before after : Shared}

theorem Unseen.rely (rely : Rely task before after) (different : other ≠ task)
    (holds : before.inFlight.row id = some other) (unseen : Unseen before id) :
    Unseen after id where
  row := rely.seen ▸ unseen.row
  queued job member writes := by
    obtain ⟨added, queue, own⟩ := rely.queue
    rw [queue] at member
    obtain sooner | here := List.mem_append.mp member
    · exact unseen.queued job sooner writes
    · exact (own job here).2 other id different writes holds

theorem Idle.rely (rely : Rely task before after) (different : other ≠ task)
    (idle : Idle before other) : Idle after other where
  reply := (rely.replies other different).trans idle.reply
  queued job member same := by
    obtain ⟨added, queue, own⟩ := rely.queue
    rw [queue] at member
    obtain sooner | here := List.mem_append.mp member
    · exact idle.queued job sooner same
    · exact different (same.symm.trans (own job here).1)

theorem Asked.rely {earlier later : List Job} (rely : Rely task before after)
    (different : other ≠ task) (holds : before.inFlight.row id = some other)
    (asked : Asked before other id earlier later) : ∃ later, Asked after other id earlier later := by
  obtain ⟨added, queue, own⟩ := rely.queue
  refine ⟨later ++ added, (rely.replies other different).trans asked.reply, ?_, asked.before, ?_⟩
  · rw [queue, asked.queue, List.append_assoc, List.cons_append]
  · intro job member
    obtain sooner | here := List.mem_append.mp member
    · exact asked.after job sooner
    · exact ⟨fun same => different (same.symm.trans (own job here).1),
        fun writes => (own job here).2 other id different writes holds⟩

theorem Succeeded.rely (rely : Rely task before after) (succeeded : Succeeded before.trace id) :
    Succeeded after.trace id :=
  succeeded.imp fun _ found => rely.trace _ found

theorem Replied.rely {reply : Except Unit Bool} (rely : Rely task before after)
    (different : other ≠ task) (holds : before.inFlight.row id = some other)
    (replied : Replied before other id reply) : Replied after other id reply where
  answered := (rely.replies other different).trans replied.answered
  queued job member same := by
    obtain ⟨added, queue, own⟩ := rely.queue
    rw [queue] at member
    obtain sooner | here := List.mem_append.mp member
    · exact replied.queued job sooner same
    · exact different (same.symm.trans (own job here).1)
  unseen ok := (replied.unseen ok).rely rely different holds
  seen ok := (replied.seen ok).rely rely

/-- **No step of another task takes away what a task knows.** -/
theorem Knows.rely {thread : Thread} (rely : Rely task before after) (different : other ≠ task)
    (knows : Knows engine before other thread) : Knows engine after other thread := by
  obtain ⟨copy, phase⟩ := thread
  obtain ⟨holds, claim⟩ := knows
  refine ⟨fun id => (rely.held other id different).symm.trans (holds id), ?_⟩
  have held : phase.holds = true → before.inFlight.row copy.id = some other :=
    fun holding => (holds copy.id).mpr ⟨rfl, holding⟩
  cases phase with
  | arriving | checking => exact Idle.rely rely different claim
  | checkingReply =>
      obtain ⟨earlier, later, asked⟩ | ⟨reply, replied⟩ := claim
      · exact .inl ⟨earlier, asked.rely rely different (held rfl)⟩
      · exact .inr ⟨reply, replied.rely rely different (held rfl)⟩
  | decoding => exact Unseen.rely rely different (held rfl) claim
  | handling => exact ⟨rely.trace _ claim.1, claim.2⟩
  | marking | markingReply => exact ⟨rely.trace _ claim.1, rely.trace _ claim.2⟩

end Others

/-! ### The store's actor -/

section Actor

variable {engine : Engine} {spawned task : ℕ} {id : EventId} {shared : Shared} {unixepoch : ℤ}
  {fails : Bool}

/-- A row after the write was there before, or is the written one. -/
theorem markSeen_row {seen : Table EventId SeenRow} {other : EventId} {sender : ℕ} {msgType : Text}
    {row : SeenRow} (found : (markSeen seen other sender msgType unixepoch).row id = some row) :
    seen.row id = some row ∨ other = id := by
  by_cases same : other = id
  · exact .inr same
  · unfold markSeen at found
    refine .inl ?_
    split at found
    · exact ((seen.delete_row_eq_some _ _ _).mp found).1
    · rw [Table.put_row_other _ _ (Ne.symm same)] at found
      exact ((seen.delete_row_eq_some _ _ _).mp found).1

/-- A row is gone after the write only once it is past its retention. -/
theorem markSeen_retained {seen : Table EventId SeenRow} {other : EventId} {sender : ℕ}
    {msgType : Text} {row : SeenRow} (found : seen.row id = some row)
    (fresh : ¬ row.seenAt < unixepoch - seenMessageRetentionSecs) :
    (markSeen seen other sender msgType unixepoch).row id = some row := by
  have kept : (pruneSeen seen unixepoch).row id = some row :=
    (seen.delete_row_eq_some _ _ _).mpr ⟨found, fresh⟩
  unfold markSeen
  split
  · exact kept
  · rename_i absent
    have different : id ≠ other := by
      rintro rfl
      exact absurd (kept.symm.trans absent) nofun
    exact (Table.put_row_other _ _ different).trans kept

/-- **What a job does**: it leaves the queue, its task gets one reply, and a row comes or stays. -/
theorem runJob_cons {job : Job} {rest : List Job} (queue : shared.queue = job :: rest) :
    ∃ seen reply, shared.runJob unixepoch fails =
        { shared with queue := rest, seen := seen, replies := shared.replies.put job.task reply } ∧
      (∀ id, job.statement = .isSeen id → reply = .ok (shared.seen.row id).isSome ∨
        reply = .error ()) ∧
      (seen = shared.seen ∨ ∃ id sender msgType, job.statement = .markSeen id sender msgType ∧
        seen = markSeen shared.seen id sender msgType unixepoch) := by
  unfold Shared.runJob
  rw [queue]
  cases fails with
  | true => exact ⟨shared.seen, .error (), rfl, fun _ _ => .inr rfl, .inl rfl⟩
  | false =>
      obtain ⟨owner, statement⟩ := job
      cases statement with
      | isSeen id =>
          refine ⟨shared.seen, _, rfl, fun other same => ?_, .inl rfl⟩
          cases same
          exact .inl rfl
      | markSeen id sender msgType =>
          exact ⟨_, _, rfl, nofun, .inr ⟨id, sender, msgType, rfl, rfl⟩⟩

theorem runJob_nil (queue : shared.queue = []) : shared.runJob unixepoch fails = shared := by
  unfold Shared.runJob
  rw [queue]

/-- Rows come from the write at the head of the queue. -/
theorem runJob_row {row : SeenRow}
    (found : (shared.runJob unixepoch fails).seen.row id = some row) :
    shared.seen.row id = some row ∨ ∃ job ∈ shared.queue, Writes id job.statement := by
  cases queue : shared.queue with
  | nil => exact .inl (by rwa [runJob_nil queue] at found)
  | cons job rest =>
      obtain ⟨seen, reply, ran, -, rows⟩ := @runJob_cons shared unixepoch fails _ _ queue
      rw [ran] at found
      obtain rfl | ⟨other, sender, msgType, statement, rfl⟩ := rows
      · exact .inl found
      · refine (markSeen_row found).imp_right fun same => ⟨job, .head _, ?_⟩
        rw [statement]
        exact same

theorem runJob_queue {job : Job} (member : job ∈ (shared.runJob unixepoch fails).queue) :
    job ∈ shared.queue := by
  cases queue : shared.queue with
  | nil => rwa [runJob_nil queue, queue] at member
  | cons first rest =>
      obtain ⟨seen, reply, ran, -⟩ := @runJob_cons shared unixepoch fails _ _ queue
      rw [ran] at member
      exact .tail _ member

@[simp]
theorem runJob_trace : (shared.runJob unixepoch fails).trace = shared.trace := by
  cases queue : shared.queue with
  | nil => rw [runJob_nil queue]
  | cons first rest =>
      obtain ⟨seen, reply, ran, -⟩ := @runJob_cons shared unixepoch fails _ _ queue
      rw [ran]

@[simp]
theorem runJob_inFlight : (shared.runJob unixepoch fails).inFlight = shared.inFlight := by
  cases queue : shared.queue with
  | nil => rw [runJob_nil queue]
  | cons first rest =>
      obtain ⟨seen, reply, ran, -⟩ := @runJob_cons shared unixepoch fails _ _ queue
      rw [ran]

@[simp]
theorem runJob_negativeCache :
    (shared.runJob unixepoch fails).negativeCache = shared.negativeCache := by
  cases queue : shared.queue with
  | nil => rw [runJob_nil queue]
  | cons first rest =>
      obtain ⟨seen, reply, ran, -⟩ := @runJob_cons shared unixepoch fails _ _ queue
      rw [ran]

/-- Only the task of the head gets a reply. -/
theorem runJob_replies (quiet : ∀ job ∈ shared.queue, job.task ≠ task) :
    (shared.runJob unixepoch fails).replies.row task = shared.replies.row task := by
  cases queue : shared.queue with
  | nil => rw [runJob_nil queue]
  | cons first rest =>
      obtain ⟨seen, reply, ran, -⟩ := @runJob_cons shared unixepoch fails _ _ queue
      rw [ran]
      exact Table.put_row_other _ _ (quiet first (queue ▸ List.mem_cons_self)).symm

theorem Unseen.runJob (unseen : Unseen shared id) : Unseen (shared.runJob unixepoch fails) id where
  row := by
    cases found : (shared.runJob unixepoch fails).seen.row id with
    | none => rfl
    | some row =>
        obtain sooner | ⟨job, queued, writes⟩ := runJob_row found
        · exact absurd (unseen.row.symm.trans sooner) nofun
        · exact absurd writes (unseen.queued job queued)
  queued job member := unseen.queued job (runJob_queue member)

theorem Steady.runJob (steady : Steady engine spawned shared) :
    Steady engine spawned (shared.runJob unixepoch fails) where
  jobs job member := steady.jobs job (runJob_queue member)
  replies task reply found := by
    by_cases queued : ∃ job ∈ shared.queue, job.task = task
    · obtain ⟨job, queued, rfl⟩ := queued
      exact steady.jobs job queued
    · rw [runJob_replies fun job member same => queued ⟨job, member, same⟩] at found
      exact steady.replies task reply found
  claims := by simpa using steady.claims
  row id row found := by
    rw [runJob_trace]
    obtain sooner | ⟨job, queued, writes⟩ := runJob_row found
    · exact steady.row id row sooner
    · exact steady.writes job queued id writes
  writes job member id writes := by
    rw [runJob_trace]
    exact steady.writes job (runJob_queue member) id writes
  agrees := by simpa using steady.agrees
  cached := by simpa using steady.cached

/-- **The read moves up, or is answered.** -/
theorem Asked.runJob {earlier later : List Job} (steady : Steady engine spawned shared)
    (asked : Asked shared task id earlier later) :
    (∃ earlier, Asked (shared.runJob unixepoch fails) task id earlier later) ∨
      ∃ reply, Replied (shared.runJob unixepoch fails) task id reply := by
  cases earlier with
  | nil =>
      refine .inr ?_
      obtain ⟨seen, reply, ran, answers, rows⟩ := @runJob_cons shared unixepoch fails _ _ asked.queue
      obtain rfl | ⟨_, _, _, statement, -⟩ := rows
      · rw [ran]
        refine ⟨reply, Table.put_row_self _ _ _, fun job member => (asked.after job member).1, ?_, ?_⟩
        · rintro rfl
          refine ⟨?_, fun job member => (asked.after job member).2⟩
          cases found : shared.seen.row id with
          | none => rfl
          | some row => simpa [found] using answers id rfl
        · rintro rfl
          cases found : shared.seen.row id with
          | none => simpa [found] using answers id rfl
          | some row => exact steady.row id row found
      · cases statement
  | cons first rest =>
      obtain ⟨seen, reply, ran, -⟩ := @runJob_cons shared unixepoch fails _ _ asked.queue
      rw [ran]
      have different := asked.before first List.mem_cons_self
      exact .inl ⟨rest, (Table.put_row_other _ _ different.symm).trans asked.reply, rfl,
        fun job member => asked.before job (.tail _ member), asked.after⟩

/-- **The actor takes nothing away that a task knows.** -/
theorem Knows.runJob {thread : Thread} (steady : Steady engine spawned shared)
    (knows : Knows engine shared task thread) :
    Knows engine (shared.runJob unixepoch fails) task thread := by
  obtain ⟨copy, phase⟩ := thread
  obtain ⟨holds, claim⟩ := knows
  refine ⟨fun id => by simpa using holds id, ?_⟩
  cases phase with
  | arriving | checking =>
      exact ⟨(runJob_replies claim.queued).trans claim.reply,
        fun job member => claim.queued job (runJob_queue member)⟩
  | checkingReply =>
      obtain ⟨earlier, later, asked⟩ | ⟨reply, replied⟩ := claim
      · exact (asked.runJob steady).imp_left fun ⟨earlier, asked⟩ => ⟨earlier, later, asked⟩
      · refine .inr ⟨reply, (runJob_replies replied.queued).trans replied.answered,
          fun job member => replied.queued job (runJob_queue member),
          fun ok => (replied.unseen ok).runJob, fun ok => ?_⟩
        simpa using replied.seen ok
  | decoding => exact Unseen.runJob claim
  | handling => exact ⟨by simpa using claim.1, claim.2⟩
  | marking | markingReply => exact ⟨by simpa using claim.1, by simpa using claim.2⟩

end Actor

/-! ### What a step owes -/

/-- **Why a valid copy of a buyer's wrap returns.** -/
def Excused (shared : Shared) (task : ℕ) (id : EventId) (answer : Answer) : Ending → Prop
  | .inFlight => ∃ other, other ≠ task ∧ shared.inFlight.row id = some other
  | .seen => Succeeded shared.trace id
  | .limited => answer.admits = false
  | .storeError => shared.replies.row task = some (.error ())
  | .failed => .routed task id ∈ shared.trace
  | .handled => .routed task id ∈ shared.trace ∧ .succeeded task id ∈ shared.trace
  | .invalid | .cached | .undecodable | .ignored => False

/-- What stands behind a mark. -/
def Justified (engine : Engine) (shared : Shared) (task : ℕ) (answer : Answer) : Mark → Prop
  | .routed owner id => owner = task ∧ Unseen shared id
  | .succeeded owner id => owner = task ∧ .routed task id ∈ shared.trace
  | .returned owner copy ending => owner = task ∧
      (copy.valid = true → (engine.content copy.id).IsBuyer →
        Excused shared task copy.id answer ending)

/-- **What a step of a task owes.** -/
structure Owes (engine : Engine) (spawned task : ℕ) (copy : Copy) (answer : Answer)
    (before after : Shared) (next : Option Phase) : Prop where
  rely : Rely task before after
  steady : Steady engine spawned after
  knows : ∀ phase, next = some phase → Knows engine after task ⟨copy, phase⟩
  left : next = none → ∀ id, after.inFlight.row id ≠ some task
  marks : ∀ mark, after.trace = mark :: before.trace → Justified engine before task answer mark

section Advance

variable {engine : Engine} {spawned more task : ℕ} {copy : Copy} {answer : Answer}
  {shared before after : Shared} {next : Option Phase}

/-- A step that leaves the queue and the rows. -/
theorem Steady.frame (steady : Steady engine spawned before) (least : spawned ≤ more)
    (claims : ∀ id task, after.inFlight.row id = some task →
      before.inFlight.row id = some task ∨ task < more)
    (queue : after.queue = before.queue)
    (replies : ∀ task reply, after.replies.row task = some reply →
      before.replies.row task = some reply)
    (seen : after.seen = before.seen) (trace : ∀ mark ∈ before.trace, mark ∈ after.trace)
    (cache : after.negativeCache = before.negativeCache) : Steady engine more after where
  jobs job member := (steady.jobs job (queue ▸ member)).trans_le least
  replies task reply found := (steady.replies task reply (replies task reply found)).trans_le least
  claims id task held := (claims id task held).elim
    (fun held => (steady.claims id task held).trans_le least) (fun below => below)
  row id row found := (steady.row id row (seen ▸ found)).imp fun _ => trace _
  writes job member id writes := (steady.writes job (queue ▸ member) id writes).imp fun _ => trace _
  agrees := cache ▸ steady.agrees
  cached := cache ▸ steady.cached

theorem Steady.mark (steady : Steady engine spawned shared) (mark : Mark) :
    Steady engine spawned (shared.mark mark) :=
  steady.frame le_rfl (fun _ _ => .inl) rfl (fun _ _ found => found) rfl
    (fun _ found => .tail _ found) rfl

theorem Steady.release (steady : Steady engine spawned shared) (id : EventId) :
    Steady engine spawned (shared.release id) :=
  steady.frame le_rfl
    (fun _ _ held => .inl ((shared.inFlight.delete_row_eq_some _ _ _).mp held).1) rfl
    (fun _ _ found => found) rfl (fun _ found => found) rfl

theorem Steady.take (steady : Steady engine spawned shared) :
    Steady engine spawned (shared.take task) :=
  steady.frame le_rfl (fun _ _ => .inl) rfl
    (fun _ _ found => ((shared.replies.delete_row_eq_some _ _ _).mp found).1) rfl
    (fun _ found => found) rfl

theorem Steady.enqueue {statement : Statement} (steady : Steady engine spawned shared)
    (below : task < spawned) (succeeded : ∀ id, Writes id statement → Succeeded shared.trace id) :
    Steady engine spawned (shared.enqueue ⟨task, statement⟩) where
  __ := steady
  jobs job member := by
    obtain sooner | here := List.mem_append.mp member
    · exact steady.jobs job sooner
    · cases List.mem_singleton.mp here
      exact below
  writes job member := by
    obtain sooner | here := List.mem_append.mp member
    · exact steady.writes job sooner
    · cases List.mem_singleton.mp here
      exact succeeded

theorem Steady.noteNonRoutable {id : EventId} (steady : Steady engine spawned shared)
    (foreign : ¬ (engine.content id).IsBuyer) :
    Steady engine spawned (shared.noteNonRoutable id) where
  __ := steady
  agrees := steady.agrees.insert id
  cached other member := by
    obtain rfl | sooner := NegativeCache.mem_insert member
    · exact foreign
    · exact steady.cached other sooner

/-- A step that marks nothing, and after which the task goes on. -/
theorem Owes.silent {phase : Phase} (rely : Rely task before after)
    (steady : Steady engine spawned after) (trace : after.trace = before.trace)
    (knows : Knows engine after task ⟨copy, phase⟩) :
    Owes engine spawned task copy answer before after (some phase) where
  rely := rely
  steady := steady
  knows _ same := by cases same; exact knows
  left := nofun
  marks mark marked := absurd (trace.symm.trans marked) (List.cons_ne_self mark _).symm

/-- A step that marks, and after which the task goes on. -/
theorem Owes.mark {phase : Phase} {mark : Mark} (steady : Steady engine spawned shared)
    (justified : Justified engine shared task answer mark)
    (knows : Knows engine (shared.mark mark) task ⟨copy, phase⟩) :
    Owes engine spawned task copy answer shared (shared.mark mark) (some phase) where
  rely := .mark mark
  steady := steady.mark mark
  knows _ same := by cases same; exact knows
  left := nofun
  marks _ marked := (List.cons.inj marked).1 ▸ justified

/-- The task returns, and holds nothing any more. -/
theorem Owes.returned {ending : Ending} (rely : Rely task before shared)
    (steady : Steady engine spawned shared) (trace : shared.trace = before.trace)
    (left : ∀ id, shared.inFlight.row id ≠ some task)
    (excused : copy.valid = true → (engine.content copy.id).IsBuyer →
      Excused before task copy.id answer ending) :
    Owes engine spawned task copy answer before (shared.mark (.returned task copy ending)) none where
  rely := rely.trans (.mark _)
  steady := steady.mark _
  knows := nofun
  left _ := left
  marks mark marked := by
    have same : .returned task copy ending :: before.trace = mark :: before.trace := trace ▸ marked
    exact (List.cons.inj same).1 ▸ ⟨rfl, excused⟩

/-- The task returns, and its guard is dropped. -/
theorem Owes.finish {ending : Ending} (rely : Rely task before shared)
    (steady : Steady engine spawned shared) (trace : shared.trace = before.trace)
    (held : ∀ id, shared.inFlight.row id = some task ↔ copy.id = id)
    (excused : copy.valid = true → (engine.content copy.id).IsBuyer →
      Excused before task copy.id answer ending) :
    Owes engine spawned task copy answer before (shared.finish task copy ending).1
      (shared.finish task copy ending).2 := by
  refine .returned (rely.trans (.release ((held _).mpr rfl))) (steady.release copy.id) trace ?_ excused
  intro id holds
  obtain ⟨before, different⟩ := (shared.inFlight.delete_row_eq_some _ _ _).mp holds
  exact different ((held id).mp before).symm

/-- **A step of a task.** -/
theorem advance_owes {phase : Phase} (steady : Steady engine spawned shared)
    (below : task < spawned) (knows : Knows engine shared task ⟨copy, phase⟩) :
    Owes engine spawned task copy answer shared (advance engine shared task copy answer phase).1
      (advance engine shared task copy answer phase).2 := by
  have claim := knows.claim
  have held : phase.holds = true → ∀ id, shared.inFlight.row id = some task ↔ copy.id = id :=
    fun holding id => (knows.holds id).trans (and_iff_left holding)
  cases phase with
  | arriving =>
      have idle : ∀ id, shared.inFlight.row id ≠ some task :=
        fun id holds => absurd ((knows.holds id).mp holds).2 nofun
      by_cases invalid : copy.valid = false
      · simp only [advance, if_pos invalid]
        exact .returned (.refl _) steady rfl idle fun valid =>
          absurd (invalid.symm.trans valid) nofun
      cases claimed : shared.inFlight.row copy.id with
      | some other =>
          have different : other ≠ task := by
            rintro rfl
            exact idle _ claimed
          simp only [advance, if_neg invalid, claimed]
          exact .returned (.refl _) steady rfl idle fun _ _ => ⟨other, different, claimed⟩
      | none =>
          have own : ∀ id, (shared.inFlight.put copy.id task).row id = some task ↔ copy.id = id := by
            intro id
            by_cases same : id = copy.id
            · subst same
              simp
            · rw [Table.put_row_other _ _ same]
              exact iff_of_false (idle id) (Ne.symm same)
          have kept : Steady engine spawned
              { shared with inFlight := shared.inFlight.put copy.id task } := by
            refine steady.frame le_rfl (fun id other holds => ?_) rfl (fun _ _ found => found) rfl
              (fun _ found => found) rfl
            by_cases same : id = copy.id
            · subst same
              obtain rfl : task = other := by simpa using holds
              exact .inr below
            · exact .inl (by rwa [Table.put_row_other _ _ same] at holds)
          simp only [advance, if_neg invalid, claimed]
          split_ifs with cached
          · refine .finish (.claim claimed) kept rfl own fun _ buyer => ?_
            exact absurd buyer (steady.cached copy.id cached)
          · refine .silent (.claim claimed) kept rfl ⟨fun id => ?_, claim.reply, claim.queued⟩
            exact (own id).trans (and_iff_left rfl).symm
  | checking =>
      refine .silent (.enqueue fun id writes => writes.elim) (steady.enqueue below fun id writes =>
        writes.elim) rfl ?_
      refine ⟨knows.holds, .inl ⟨shared.queue, [], claim.reply, rfl, claim.queued, ?_⟩⟩
      exact fun job member => absurd member List.not_mem_nil
  | checkingReply =>
      rcases answered : shared.replies.row task with _ | (failed | seen)
      · simp only [advance, answered]
        exact .silent (.refl _) steady rfl knows
      · simp only [advance, answered]
        exact .finish .take steady.take rfl (held rfl) fun _ _ => answered
      · obtain ⟨earlier, later, asked⟩ | ⟨reply, replied⟩ := claim
        · exact absurd (asked.reply.symm.trans answered) nofun
        have same := Option.some.inj (replied.answered.symm.trans answered)
        cases seen with
        | true =>
            simp only [advance, answered]
            exact .finish .take steady.take rfl (held rfl) fun _ _ => replied.seen same
        | false =>
            simp only [advance, answered]
            have unseen := replied.unseen same
            exact .silent .take steady.take rfl ⟨knows.holds, unseen.row, unseen.queued⟩
  | decoding =>
      have foreign : ¬ (engine.content copy.id).IsBuyer → ∀ ending,
          Owes engine spawned task copy answer shared
            ((shared.noteNonRoutable copy.id).finish task copy ending).1
            ((shared.noteNonRoutable copy.id).finish task copy ending).2 := fun foreign ending =>
        .finish (.noteNonRoutable _) (steady.noteNonRoutable foreign) rfl (held rfl)
          fun _ buyer => absurd buyer foreign
      cases content : engine.content copy.id with
      | undecodable =>
          simp only [advance, content]
          exact foreign (by simp [content, Content.IsBuyer]) _
      | other sender msgType =>
          simp only [advance, content]
          exact foreign (by simp [content, Content.IsBuyer]) _
      | buyer sender msgType =>
          simp only [advance, content]
          split_ifs with limited
          · exact .finish (.refl _) steady rfl (held rfl) fun _ _ => limited.2
          · exact .mark steady ⟨rfl, claim⟩
              ⟨knows.holds, .head _, by simp [content, Content.IsBuyer]⟩
  | handling sender msgType =>
      cases handled : answer.handled with
      | true =>
          simp only [advance, handled, if_true]
          exact .mark steady ⟨rfl, claim.1⟩ ⟨knows.holds, .tail _ claim.1, .head _⟩
      | false =>
          simp only [advance, handled]
          exact .finish (.refl _) steady rfl (held rfl) fun _ _ => claim.1
  | marking sender msgType =>
      have own : ∀ id, Writes id (.markSeen copy.id sender msgType) → copy.id = id := fun _ same => same
      exact .silent (.enqueue fun id writes => (held rfl id).mpr (own id writes))
        (steady.enqueue below fun id writes => own id writes ▸ ⟨task, claim.2⟩) rfl
        ⟨knows.holds, claim⟩
  | markingReply =>
      rcases answered : shared.replies.row task with _ | (failed | written)
      · simp only [advance, answered]
        exact .silent (.refl _) steady rfl knows
      · simp only [advance, answered]
        exact .finish .take steady.take rfl (held rfl) fun _ _ => answered
      · simp only [advance, answered]
        exact .finish .take steady.take rfl (held rfl) fun _ _ => claim

end Advance

/-! ### The outline -/

/-- What a task's step owes leaves the outline standing. -/
theorem Rely.passes {engine : Engine} {pool : Pool Shared Thread} {task spawned : ℕ}
    {after : Shared} {next : Option Thread} (asserted : Asserted (Steady engine) (Knows engine) pool)
    (rely : Rely task pool.shared after) (steady : Steady engine spawned after)
    (knows : ∀ thread, next = some thread → Knows engine after task thread) :
    Passes (Steady engine) (Knows engine) pool task spawned after next where
  invariant := steady
  self := knows
  others other sibling different here := (asserted.thread other sibling here).rely rely different

/-- **The proof outline** of the inbound path. -/
theorem inbound_outline (engine : Engine) :
    Outline (Steady engine) (Knows engine) (inbound engine) fun _ _ => True where
  start := by
    refine ⟨fun job member => absurd member List.not_mem_nil, nofun, nofun, nofun,
      fun job member => absurd member List.not_mem_nil, NegativeCache.agrees_empty,
      fun id member => absurd member (Finset.notMem_empty id)⟩
  spawn pool copy _ asserted := by
    have steady := asserted.invariant
    refine Rely.passes asserted (.refl _) (steady.frame (Nat.le_succ _) (fun _ _ => .inl) rfl
      (fun _ _ found => found) rfl (fun _ found => found) rfl) ?_
    rintro _ ⟨⟩
    refine ⟨fun id => iff_of_false (fun held => (steady.claims id _ held).false) nofun, ?_, fun job member => (steady.jobs job member).ne⟩
    cases found : pool.shared.replies.row pool.spawned with
    | none => exact found
    | some reply => exact absurd (steady.replies _ reply found) (Nat.lt_irrefl _)
  advance pool task thread answer _ asserted found := by
    have owes := @advance_owes engine pool.spawned task thread.copy answer pool.shared thread.phase
      asserted.invariant (asserted.known task thread found) (asserted.thread task thread found)
    refine Rely.passes asserted owes.rely owes.steady fun next same => ?_
    obtain ⟨phase, stays, rfl⟩ := Option.map_eq_some_iff.mp same
    exact owes.knows phase stays
  drop pool task thread _ asserted found := by
    have steady := asserted.invariant
    simp only [inbound]
    split
    · rename_i holds
      have held := ((asserted.thread task thread found).holds thread.copy.id).mpr ⟨rfl, holds⟩
      exact Rely.passes asserted (.release held) (steady.release _) nofun
    · exact Rely.passes asserted (.refl _) steady nofun
  environment pool event _ asserted :=
    ⟨asserted.invariant.runJob, fun task thread found =>
      (asserted.thread task thread found).runJob asserted.invariant⟩
  crash pool _ asserted :=
    ⟨fun job member => absurd member List.not_mem_nil, nofun, nofun, asserted.invariant.row,
      fun job member => absurd member List.not_mem_nil, NegativeCache.agrees_empty,
      fun id member => absurd member (Finset.notMem_empty id)⟩

/-- **Every claim on an id is a live task's.** -/
theorem claim_attendance (engine : Engine) (id : EventId) :
    Attendance (fun shared task => shared.inFlight.row id = some task)
      (fun thread => thread.copy.id = id ∧ thread.phase.holds = true) (inbound engine)
      fun pool _ => True ∧ Asserted (Steady engine) (Knows engine) pool where
  start _ := nofun
  spawn pool copy meets other held := ⟨(meets.2.invariant.claims id other held).ne, held⟩
  advance pool task thread answer meets found := by
    have asserted := meets.2
    have owes := @advance_owes engine pool.spawned task thread.copy answer pool.shared thread.phase
      asserted.invariant (asserted.known task thread found) (asserted.thread task thread found)
    refine ⟨fun other different held => (owes.rely.held other id different).mpr held, fun held => ?_⟩
    cases next : (advance engine pool.shared task thread.copy answer thread.phase).2 with
    | none => exact absurd held (owes.left next id)
    | some phase =>
        exact ⟨_, congrArg (Option.map _) next, ((owes.knows phase next).holds id).mp held⟩
  drop pool task thread meets found other held := by
    have holds := (meets.2.thread task thread found).holds
    simp only [inbound] at held
    split at held
    · rename_i holding
      obtain ⟨before, different⟩ := (pool.shared.inFlight.delete_row_eq_some _ _ _).mp held
      refine ⟨?_, before⟩
      rintro rfl
      exact different ((holds id).mp before).1.symm
    · rename_i idle
      refine ⟨?_, held⟩
      rintro rfl
      exact idle ((holds id).mp held).2
  environment pool event _ task held := by
    simpa [inbound] using held
  crash _ _ _ := nofun

/-! ### The result -/

/-- The task is inside the handler of the id. -/
def Thread.Handling (id : EventId) (thread : Thread) : Prop :=
  thread.copy.id = id ∧ ∃ sender msgType, thread.phase = .handling sender msgType

/-- The await points in the order that a task comes to them. -/
def place : Phase → ℕ
  | .arriving => 0
  | .checking => 1
  | .checkingReply => 2
  | .decoding => 3
  | .handling .. => 4
  | .marking .. => 5
  | .markingReply => 6

/-- **A step of a task moves it on, or returns with its return on record**; only for the store's reply
does it wait. -/
structure Moves (shared : Shared) (task : ℕ) (copy : Copy) (phase : Phase)
    (moved : Shared × Option Phase) : Prop where
  on : ∀ next, moved.2 = some next → place phase < place next ∨
    shared.replies.row task = none ∧ (phase = .checkingReply ∨ phase = .markingReply)
  returns : moved.2 = none → ∃ ending, moved.1.trace = .returned task copy ending :: shared.trace

section Moves

variable {engine : Engine} {shared moved : Shared} {task : ℕ} {copy : Copy} {phase next : Phase}

theorem Moves.ahead (later : place phase < place next) :
    Moves shared task copy phase (moved, some next) where
  on other same := by
    obtain rfl := Option.some.inj same
    exact .inl later
  returns := nofun

theorem Moves.waits (reply : shared.replies.row task = none)
    (waits : phase = .checkingReply ∨ phase = .markingReply) :
    Moves shared task copy phase (moved, some phase) where
  on _ _ := .inr ⟨reply, waits⟩
  returns := nofun

theorem Moves.marked (ending : Ending) :
    Moves shared task copy phase (shared.mark (.returned task copy ending), none) where
  on := nofun
  returns _ := ⟨ending, rfl⟩

theorem Moves.finish (ending : Ending) (trace : moved.trace = shared.trace) :
    Moves shared task copy phase (moved.finish task copy ending) where
  on := nofun
  returns _ := ⟨ending, congrArg _ trace⟩

theorem advance_moves (engine : Engine) (shared : Shared) (task : ℕ) (copy : Copy) (answer : Answer)
    (phase : Phase) : Moves shared task copy phase (advance engine shared task copy answer phase) := by
  cases phase with
  | arriving =>
      simp only [advance]
      by_cases forged : copy.valid = false
      · rw [if_pos forged]
        exact .marked _
      · rw [if_neg forged]
        cases shared.inFlight.row copy.id with
        | some holder => exact .marked _
        | none =>
            dsimp only
            split_ifs with cached
            · exact .finish _ rfl
            · exact .ahead (by decide)
  | checking => exact .ahead (by decide)
  | checkingReply =>
      rcases answered : shared.replies.row task with _ | (failed | seen)
      · simp only [advance, answered]
        exact .waits answered (.inl rfl)
      · simp only [advance, answered]
        exact .finish _ rfl
      · cases seen with
        | true =>
            simp only [advance, answered]
            exact .finish _ rfl
        | false =>
            simp only [advance, answered]
            exact .ahead (by decide)
  | decoding =>
      simp only [advance]
      cases engine.content copy.id with
      | undecodable | other => exact .finish _ rfl
      | buyer sender msgType =>
          dsimp only
          split_ifs with limited
          · exact .finish _ rfl
          · exact .ahead (Nat.lt_succ_self 3)
  | handling sender msgType =>
      simp only [advance]
      split_ifs with handled
      · exact .ahead (Nat.lt_succ_self 4)
      · exact .finish _ rfl
  | marking sender msgType => exact .ahead (Nat.lt_succ_self 5)
  | markingReply =>
      rcases answered : shared.replies.row task with _ | (failed | written)
      · simp only [advance, answered]
        exact .waits answered (.inr rfl)
      · simp only [advance, answered]
        exact .finish _ rfl
      · simp only [advance, answered]
        exact .finish _ rfl

end Moves

/-- **Why a valid copy of a buyer's wrap returns now**: another live task holds the id, its handler
succeeded before, the limiter or the store refused, or this task has routed it. -/
def Admissible (before : Pool Shared Thread) (choice : Schedule Copy Answer Event) (task : ℕ)
    (id : EventId) : Ending → Prop
  | .inFlight => ∃ other thread, other ≠ task ∧ before.threads.row other = some thread ∧
      thread.copy.id = id ∧ thread.phase.holds = true
  | .seen => Succeeded before.shared.trace id
  | .limited => ∃ answer, choice = .advance task answer ∧ answer.admits = false
  | .storeError => before.shared.replies.row task = some (.error ())
  | .failed => .routed task id ∈ before.shared.trace
  | .handled => .routed task id ∈ before.shared.trace ∧ .succeeded task id ∈ before.shared.trace
  | .invalid | .cached | .undecodable | .ignored => False

/-- **Nothing is lost and nothing finished is routed again** by one more choice of the scheduler. -/
structure Deduplicated (engine : Engine) (before : Pool Shared Thread)
    (choice : Schedule Copy Answer Event) (after : Pool Shared Thread) : Prop where
  /-- What is routed has no row. -/
  routes : ∀ task id, after.shared.trace = .routed task id :: before.shared.trace →
    before.shared.seen.row id = none
  /-- A row is the row of a wrap whose handler returned `Ok`. -/
  recorded : ∀ id row, after.shared.seen.row id = some row → Succeeded after.shared.trace id
  /-- A row goes only once it is past its retention. -/
  retained : ∀ id row, before.shared.seen.row id = some row → after.shared.seen.row id ≠ some row →
    ∃ event, choice = .environment event ∧ row.seenAt < event.unixepoch - seenMessageRetentionSecs
  /-- At most one task is inside the handler of an id. -/
  single : ∀ id one other first second, after.threads.row one = some first →
    after.threads.row other = some second → Thread.Handling id first → Thread.Handling id second →
    one = other
  /-- A valid copy of a buyer's wrap returns for an admissible reason only. -/
  delivers : ∀ task copy ending,
    after.shared.trace = .returned task copy ending :: before.shared.trace → copy.valid = true →
    (engine.content copy.id).IsBuyer → Admissible before choice task copy.id ending
  /-- A task that is neither cancelled nor lost in a crash leaves with its return on record. -/
  leaves : ∀ task thread, before.threads.row task = some thread → after.threads.row task = none →
    choice = .drop task ∨ choice = .crash ∨
      ∃ ending, after.shared.trace = .returned task thread.copy ending :: before.shared.trace
  /-- A step of a task that stays moves it on, unless it waits for the store. -/
  proceeds : ∀ task answer thread next, choice = .advance task answer →
    before.threads.row task = some thread → after.threads.row task = some next →
      place thread.phase < place next.phase ∨
        before.shared.replies.row task = none ∧
          (thread.phase = .checkingReply ∨ thread.phase = .markingReply)
  /-- The negative cache is bounded, agrees with its queue, and holds no buyer's wrap. -/
  agrees : after.shared.negativeCache.Agrees
  cached : ∀ id ∈ after.shared.negativeCache.members, ¬ (engine.content id).IsBuyer

/-- A task leaves the pool by a cancellation, in a crash, or with its return on record. -/
theorem step_leaves (engine : Engine) (before : Pool Shared Thread)
    (choice : Schedule Copy Answer Event) (task : ℕ) (thread : Thread)
    (found : before.threads.row task = some thread)
    (gone : ((inbound engine).step before choice).threads.row task = none) :
    choice = .drop task ∨ choice = .crash ∨ ∃ ending,
      ((inbound engine).step before choice).shared.trace =
        .returned task thread.copy ending :: before.shared.trace := by
  have stays : before.threads.row task ≠ none := by simp [found]
  cases choice with
  | spawn copy =>
      by_cases same : task = before.spawned
      · subst same
        simp [Program.step] at gone
      · exact absurd ((before.threads.put_row_other _ same).symm.trans gone) stays
  | advance other answer =>
      cases here : before.threads.row other with
      | none =>
          simp only [Program.step, here] at gone
          exact absurd gone stays
      | some moved =>
          simp only [Program.step, here] at gone ⊢
          by_cases same : task = other
          · subst same
            obtain rfl := Option.some.inj (found.symm.trans here)
            rw [Table.assign_row_self] at gone
            exact .inr (.inr ((advance_moves engine before.shared task thread.copy answer
              thread.phase).returns (Option.map_eq_none_iff.mp gone)))
          · rw [Table.assign_row_other _ _ same] at gone
            exact absurd gone stays
  | drop other =>
      by_cases same : task = other
      · exact .inl (same ▸ rfl)
      · refine absurd gone ?_
        cases here : before.threads.row other with
        | none => simpa only [Program.step, here] using stays
        | some moved =>
            simp only [Program.step, here]
            rwa [Table.assign_row_other _ _ same]
  | environment event => exact absurd gone stays
  | crash => exact .inr (.inl rfl)

/-- A task that stays moves on, or waits for the store. -/
theorem step_proceeds (engine : Engine) (before : Pool Shared Thread)
    (choice : Schedule Copy Answer Event) (task : ℕ) (answer : Answer) (thread next : Thread)
    (is : choice = .advance task answer) (found : before.threads.row task = some thread)
    (stays : ((inbound engine).step before choice).threads.row task = some next) :
    place thread.phase < place next.phase ∨ before.shared.replies.row task = none ∧
      (thread.phase = .checkingReply ∨ thread.phase = .markingReply) := by
  subst is
  simp only [Program.step, found, Table.assign_row_self] at stays
  obtain ⟨phase, moved, rfl⟩ := Option.map_eq_some_iff.mp stays
  exact (advance_moves engine before.shared task thread.copy answer thread.phase).on phase moved

theorem runJob_retained {shared : Shared} {id : EventId} {row : SeenRow} {unixepoch : ℤ}
    {fails : Bool} (found : shared.seen.row id = some row)
    (gone : (shared.runJob unixepoch fails).seen.row id ≠ some row) :
    row.seenAt < unixepoch - seenMessageRetentionSecs := by
  by_contra fresh
  cases queue : shared.queue with
  | nil => exact gone (by rwa [runJob_nil queue])
  | cons job rest =>
      obtain ⟨seen, reply, ran, -, rows⟩ := @runJob_cons shared unixepoch fails _ _ queue
      rw [ran] at gone
      obtain rfl | ⟨other, sender, msgType, -, rfl⟩ := rows
      · exact gone found
      · exact gone (markSeen_retained found fresh)

/-- The attendance, after every run. -/
theorem claims_attended (engine : Engine) (choices : List (Schedule Copy Answer Event))
    (id : EventId) :
    Attended (fun shared task => shared.inFlight.row id = some task)
      (fun thread => thread.copy.id = id ∧ thread.phase.holds = true)
      ((inbound engine).machine.run choices) :=
  have outline := inbound_outline engine
  (claim_attendance engine id).attended choices (outline.meets choices _ (outline.always [])
    ((inbound engine).machine.meetsFrom_true choices _))

/-- **Inbound dedupe loses no valid message and routes no finished one again**, in any
interleaving. -/
theorem inbound_dedupe (engine : Engine) (choices : List (Schedule Copy Answer Event))
    (choice : Schedule Copy Answer Event) :
    Deduplicated engine ((inbound engine).machine.run choices) choice
      ((inbound engine).step ((inbound engine).machine.run choices) choice) := by
  have outline := inbound_outline engine
  have asserted := outline.always choices
  have attended := claims_attended engine choices
  generalize (inbound engine).machine.run choices = before at asserted attended
  have kept := outline.step before choice trivial asserted
  have steady := kept.invariant
  have single : ∀ id one other first second,
      ((inbound engine).step before choice).threads.row one = some first →
      ((inbound engine).step before choice).threads.row other = some second →
      Thread.Handling id first → Thread.Handling id second → one = other := by
    intro id one other first second found here holds holds'
    obtain ⟨own, sender, msgType, phase⟩ := holds
    obtain ⟨own', sender', msgType', phase'⟩ := holds'
    have held := ((kept.thread one first found).holds id).mpr ⟨own, by rw [phase]; rfl⟩
    have held' := ((kept.thread other second here).holds id).mpr ⟨own', by rw [phase']; rfl⟩
    exact Option.some.inj (held.symm.trans held')
  have leaves := step_leaves engine before choice
  have proceeds := step_proceeds engine before choice
  have quiet : ((inbound engine).step before choice).shared.trace = before.shared.trace →
      (∀ id row, before.shared.seen.row id = some row →
        ((inbound engine).step before choice).shared.seen.row id ≠ some row →
          ∃ event, choice = .environment event ∧
            row.seenAt < event.unixepoch - seenMessageRetentionSecs) →
      Deduplicated engine before choice ((inbound engine).step before choice) := by
    intro trace retained
    have unmarked : ∀ mark, ((inbound engine).step before choice).shared.trace ≠
        mark :: before.shared.trace :=
      fun mark marked => List.cons_ne_self mark _ (marked.symm.trans trace)
    exact ⟨fun task id marked => absurd marked (unmarked _), steady.row, retained, single,
      fun task copy ending marked => absurd marked (unmarked _), leaves, proceeds, steady.agrees,
      steady.cached⟩
  cases choice with
  | spawn copy => exact quiet rfl fun id row found gone => absurd found gone
  | advance task answer =>
      cases found : before.threads.row task with
      | none =>
          have same : ((inbound engine).step before (.advance task answer)).shared = before.shared := by
            simp only [Program.step, found]
          exact quiet (congrArg _ same) fun id row here gone =>
            absurd ((congrArg (·.seen.row id) same).trans here) gone
      | some thread =>
          have owes := @advance_owes engine before.spawned task thread.copy answer before.shared
            thread.phase asserted.invariant (asserted.known task thread found)
            (asserted.thread task thread found)
          have ran : ((inbound engine).step before (.advance task answer)).shared =
              (advance engine before.shared task thread.copy answer thread.phase).1 := by
            simp only [Program.step, found]
            rfl
          refine ⟨fun owner id marked => ?_, steady.row, fun id row here gone => ?_, single,
            fun owner copy ending marked valid buyer => ?_, leaves, proceeds, steady.agrees,
            steady.cached⟩
          · obtain ⟨-, unseen⟩ := owes.marks (.routed owner id) (ran ▸ marked)
            exact unseen.row
          · rw [ran, owes.rely.seen] at gone
            exact absurd here gone
          · obtain ⟨rfl, excused⟩ := owes.marks (.returned owner copy ending) (ran ▸ marked)
            have why := excused valid buyer
            cases ending with
            | inFlight =>
                obtain ⟨other, different, held⟩ := why
                obtain ⟨sibling, live, plays⟩ := attended copy.id other held
                exact ⟨other, sibling, different, live, plays⟩
            | limited => exact ⟨answer, rfl, why⟩
            | seen | storeError | failed | handled => exact why
            | invalid | cached | undecodable | ignored => exact why
  | drop task =>
      cases found : before.threads.row task with
      | none =>
          have same : ((inbound engine).step before (.drop task)).shared = before.shared := by
            simp only [Program.step, found]
          exact quiet (congrArg _ same) fun id row here gone =>
            absurd ((congrArg (·.seen.row id) same).trans here) gone
      | some thread =>
          have same : ((inbound engine).step before (.drop task)).shared.trace =
              before.shared.trace ∧
              ((inbound engine).step before (.drop task)).shared.seen = before.shared.seen := by
            simp only [Program.step, found, inbound]
            split_ifs <;> exact ⟨rfl, rfl⟩
          exact quiet same.1 fun id row here gone => absurd (same.2 ▸ here) gone
  | environment event =>
      exact quiet runJob_trace fun id row found gone => ⟨event, rfl, runJob_retained found gone⟩
  | crash => exact quiet rfl fun id row found gone => absurd found gone

/-- Every id commits to an order. -/
def orders : Engine := ⟨0, fun _ => .buyer 1 0⟩

/-- A forged copy comes before the valid one, and is in the way of nothing. -/
def forgedFirst : List (Schedule Copy Answer Event) :=
  [.spawn ⟨7, false⟩, .spawn ⟨7, true⟩, .advance 0 {}, .advance 1 {}, .advance 1 {},
    .environment ⟨0, false⟩, .advance 1 {}]

/-- The next step routes the valid copy. -/
theorem inbound_dedupe_routes :
    Deduplicated orders ((inbound orders).machine.run forgedFirst) (.advance 1 {})
        ((inbound orders).step ((inbound orders).machine.run forgedFirst) (.advance 1 {})) ∧
      ((inbound orders).step ((inbound orders).machine.run forgedFirst) (.advance 1 {})).shared.trace =
        [.routed 1 7, .returned 0 ⟨7, false⟩ .invalid] :=
  ⟨inbound_dedupe orders forgedFirst (.advance 1 {}), by decide +kernel⟩

end Lnrent.Inbound
