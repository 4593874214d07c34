/-
**What the deliveries of one request agree on.** The trace, the row, the in-flight registry and the
channels of one `op.request` id.

* `Bound`, `Steady` — the invariant of one key;
* `Rely` — what a step of one delivery may change under the others: only the delivery that made the
  row moves it, and whoever leaves the registry has published;
* `Claims`, `Knows` — what a delivery knows at each of its await points, kept by `Knows.rely`;
* `Steady.plain`, `Steady.claim`, `Steady.hook`, `Steady.finish`, `Steady.publish` — one lemma for
  each thing a step does.
-/

import Lnrent.Daemon.OpDispatch

namespace Lnrent.Dispatch

open Relational Transition OpDispatch

/-! ### What the trace says -/

/-- The delivery's claim transaction found or made the row. -/
def Bound (trace : List Mark) (id : ℕ) (key : RequestKey) : Prop :=
  .claimed id key ∈ trace ∨ .found id key ∈ trace

/-- The mark is the start of a hook for a request of the key. -/
def isHook (key : RequestKey) : Mark → Bool
  | .hook _ other _ => other == key
  | _ => false

/-- How often a hook was started for the key. -/
def hookRuns (key : RequestKey) (trace : List Mark) : ℕ := trace.countP (isHook key)

/-- No mark of the delivery. -/
def Unmarked (trace : List Mark) (id : ℕ) : Prop := ∀ mark ∈ trace, mark.owner ≠ id

/-- The row is terminal, with these contents. -/
def Holds (shared : Shared) (key : RequestKey) (terminal : Terminal) (subscriptionId : OrderId)
    (op : Text) : Prop :=
  ∃ row, shared.rows.row key = some row ∧ row.terminal = some terminal ∧
    row.subscriptionId = subscriptionId ∧ row.op = op

/-- **The reply is what the row answers.** -/
def Answers (shared : Shared) (key : RequestKey) (reply : OpResult) : Prop :=
  ∃ row, shared.rows.row key = some row ∧ row.result key.requestId = some reply

/-- A terminal that is resent as it is. -/
def Sendable : Terminal → Prop
  | .done data => data.isObject = true
  | .error _ => True

/-- An output was committed only after a hook. -/
def Produced (trace : List Mark) (key : RequestKey) : Terminal → Prop
  | .done _ => ∃ id input, .hook id key input ∈ trace
  | .error _ => True

theorem isHook_iff {key : RequestKey} {mark : Mark} :
    isHook key mark = true ↔ ∃ id input, mark = .hook id key input := by
  cases mark <;> simp [isHook]

theorem hookRuns_eq_zero {key : RequestKey} {trace : List Mark} :
    hookRuns key trace = 0 ↔ ∀ id input, .hook id key input ∉ trace := by
  unfold hookRuns
  rw [List.countP_eq_zero]
  constructor
  · exact fun none id input member => none _ member (isHook_iff.mpr ⟨id, input, rfl⟩)
  · intro none mark member isHook
    obtain ⟨id, input, rfl⟩ := isHook_iff.mp isHook
    exact none id input member

theorem resend_sendable {terminal : Terminal} (sendable : Sendable terminal) (requestId : ℕ)
    (subscriptionId : OrderId) (op : Text) :
    resend requestId subscriptionId op terminal = ⟨requestId, subscriptionId, op, terminal⟩ := by
  cases terminal with
  | done data => simp only [resend, if_pos (show data.isObject = true from sendable)]
  | error error => rfl

theorem sendable_answer (answer : HookAnswer) : Sendable answer.terminal := by
  cases answer with
  | output data =>
      simp only [HookAnswer.terminal]
      split_ifs with object
      · exact object
      · trivial
  | timedOut | failed => trivial

theorem finish_terminal (row : OpRow) (terminal : Terminal) (now : ℤ) :
    (row.finish terminal now).terminal = some terminal := by
  cases terminal <;> rfl

theorem terminal_eq_none {row : OpRow} : row.terminal = none ↔ row.state = .running := by
  unfold OpRow.terminal
  cases row.state <;> simp

theorem Holds.answers {shared : Shared} {key : RequestKey} {terminal : Terminal}
    {subscriptionId : OrderId} {op : Text} (holds : Holds shared key terminal subscriptionId op) :
    Answers shared key (resend key.requestId subscriptionId op terminal) := by
  obtain ⟨row, found, cached, rfl, rfl⟩ := holds
  exact ⟨row, found, by simp [OpRow.result, cached]⟩

/-! ### The invariant -/

section

variable (ops : Ops) (key : RequestKey)

/-- What a job without a task may still rely on. -/
def Pending (shared : Shared) (id : ℕ) : Job → Prop
  | .claim _ => Unmarked shared.trace id ∧ shared.channels.row id = none
  | .commit delivery terminal =>
      (∀ mark ∈ shared.trace, mark.owner = id → mark.key = delivery.key) ∧
        (delivery.key = key → .claimed id key ∈ shared.trace ∧ Produced shared.trace key terminal)

/-- **The invariant of one key.** -/
structure Steady (spawned : ℕ) (shared : Shared) : Prop where
  marked : ∀ mark ∈ shared.trace, mark.owner < spawned
  spoken : ∀ id outcome, shared.channels.row id = some outcome → id < spawned
  queued : ∀ id job, shared.orphans.row id = some job → id < spawned
  jobs : ∀ id job, shared.orphans.row id = some job → Pending key shared id job
  unclaimed : shared.rows.row key = none → ∀ id, ¬ Bound shared.trace id key
  single : ∀ id other, .claimed id key ∈ shared.trace → .claimed other key ∈ shared.trace →
    id = other
  hooked : ∀ id input, .hook id key input ∈ shared.trace → .claimed id key ∈ shared.trace ∧
    resolve ops input.delivery.request = none ∧
    ∃ row, shared.rows.row key = some row ∧ row.op = input.delivery.request.op
  once : hookRuns key shared.trace ≤ 1
  finished : ∀ row, shared.rows.row key = some row → row.state = .done →
    ∃ id input, .hook id key input ∈ shared.trace
  answered : ∀ id reply, .sent id key reply ∈ shared.trace → Bound shared.trace id key →
    Answers shared key reply
  refused : ∀ id, .refused id key ∈ shared.trace → ¬ Bound shared.trace id key
  channels : ∀ id terminal subscriptionId op,
    shared.channels.row id = some (.terminal terminal subscriptionId op) →
    .claimed id key ∈ shared.trace → Holds shared key terminal subscriptionId op
  registry : ∀ id, shared.registry.row key = some id →
    .claimed id key ∈ shared.trace ∧ shared.channels.row id = none

/-- **The guarantee of a step of `id`**, as far as the key is concerned. -/
structure Rely (id : ℕ) (before after : Shared) : Prop where
  marks : ∀ mark ∈ before.trace, mark ∈ after.trace
  own : ∀ mark ∈ after.trace, mark ∈ before.trace ∨ mark.owner = id
  rows : after.rows.row key = before.rows.row key ∨ before.rows.row key = none ∨
    .claimed id key ∈ before.trace ∧ ∃ row, before.rows.row key = some row ∧ row.state = .running
  registry : after.registry.row key = before.registry.row key ∨ .claimed id key ∈ before.trace
  enters : ∀ other, other ≠ id → after.registry.row key = some other →
    before.registry.row key = some other
  wakes : before.registry.row key = some id →
    after.registry.row key = some id ∨ (after.channels.row id).isSome
  channels : ∀ other, other ≠ id → after.channels.row other = before.channels.row other
  published : (before.channels.row id).isSome → (after.channels.row id).isSome
  orphans : ∀ other, other ≠ id → after.orphans.row other = before.orphans.row other
  leaves : ∀ delivery terminal, after.orphans.row id = some (.commit delivery terminal) →
    delivery.key = key → .claimed id key ∈ before.trace

/-- The delivery made the row, and the row still runs for it. -/
structure Owner (shared : Shared) (id : ℕ) (delivery : Delivery) : Prop where
  claimed : .claimed id key ∈ shared.trace
  row : shared.rows.row key = some (runningRow delivery)
  silent : shared.channels.row id = none
  alone : ∀ other delivery terminal, shared.orphans.row other = some (.commit delivery terminal) →
    delivery.key ≠ key

/-- No hook was started for the key. -/
def Unhooked (trace : List Mark) : Prop := ∀ id input, .hook id key input ∉ trace

/-- **What a delivery of the key knows at its await point.** -/
def Claims (shared : Shared) (id : ℕ) (delivery : Delivery) : Phase → Prop
  | .claiming => True
  | .claimed (.claimed _) =>
      Owner key shared id delivery ∧ Unhooked key shared.trace ∧ shared.registry.row key = none
  | .claimed (.cached terminal subscriptionId op) =>
      .found id key ∈ shared.trace ∧ Holds shared key terminal subscriptionId op
  | .claimed .running | .rereading => .found id key ∈ shared.trace
  | .claimed _ | .refusing _ => .refused id key ∈ shared.trace
  | .loading _ =>
      Owner key shared id delivery ∧ shared.registry.row key = some id ∧
        Unhooked key shared.trace ∧ resolve ops delivery.request = none
  | .hooking =>
      Owner key shared id delivery ∧ shared.registry.row key = some id ∧
        ∃ id input, .hook id key input ∈ shared.trace
  | .committing terminal =>
      Owner key shared id delivery ∧ shared.registry.row key = some id ∧ Sendable terminal ∧
        Produced shared.trace key terminal
  | .committed terminal ok =>
      .claimed id key ∈ shared.trace ∧ shared.registry.row key = some id ∧ Sendable terminal ∧
        (ok = true → Holds shared key terminal delivery.request.subscriptionId delivery.request.op)
  | .attached owner =>
      .found id key ∈ shared.trace ∧ .claimed owner key ∈ shared.trace ∧
        ((shared.channels.row owner).isSome ∨ shared.registry.row key = some owner)
  | .replying reply => Bound shared.trace id key ∧ Answers shared key reply

/-- The assertion of the outline. -/
structure Knows (shared : Shared) (id : ℕ) (thread : Thread) : Prop where
  orphanless : shared.orphans.row id = none
  fresh : thread.phase = .claiming → Unmarked shared.trace id ∧ shared.channels.row id = none
  own : ∀ mark ∈ shared.trace, mark.owner = id → mark.key = thread.delivery.key
  listed : thread.delivery.key = key → shared.registry.row key = some id →
    thread.phase.guards = true
  claims : thread.delivery.key = key → Claims ops key shared id thread.delivery thread.phase

end

variable {ops : Ops} {key : RequestKey} {id other spawned spawned' : ℕ} {before after shared : Shared}
  {delivery : Delivery}

/-! ### What the others keep -/

theorem Rely.mark {mark : Mark} (owner : mark.owner = id) (orphanless : shared.orphans.row id = none) :
    Rely key id shared (shared.mark mark) where
  marks _ member := .tail _ member
  own _ member := (List.mem_cons.mp member).elim (fun same => .inr (same ▸ owner)) .inl
  rows := .inl rfl
  registry := .inl rfl
  enters _ _ listed := listed
  wakes := .inl
  channels _ _ := rfl
  published spoken := spoken
  orphans _ _ := rfl
  leaves _ _ queued := absurd (queued.symm.trans orphanless) nofun

theorem Rely.bound (rely : Rely key id before after) (bound : Bound before.trace other key) :
    Bound after.trace other key :=
  bound.imp (rely.marks _) (rely.marks _)

theorem Rely.produced (rely : Rely key id before after) {terminal : Terminal}
    (produced : Produced before.trace key terminal) : Produced after.trace key terminal := by
  cases terminal with
  | done data =>
      obtain ⟨id, input, hooked⟩ := produced
      exact ⟨id, input, rely.marks _ hooked⟩
  | error error => trivial

theorem Rely.unmarked (rely : Rely key id before after) (different : other ≠ id)
    (unmarked : Unmarked before.trace other) : Unmarked after.trace other := by
  intro mark member same
  obtain sooner | own := rely.own mark member
  · exact unmarked mark sooner same
  · exact different (same.symm.trans own)

/-- A terminal row stays. -/
theorem Rely.terminal (rely : Rely key id before after) {row : OpRow}
    (found : before.rows.row key = some row) (ended : row.terminal ≠ none) :
    after.rows.row key = some row := by
  obtain same | absent | ⟨-, running, here, still⟩ := rely.rows
  · exact same.trans found
  · rw [found] at absent
    cases absent
  · rw [found] at here
    cases here
    exact absurd (terminal_eq_none.mpr still) ended

theorem Rely.holds (rely : Rely key id before after) {terminal : Terminal} {subscriptionId : OrderId}
    {op : Text} (holds : Holds before key terminal subscriptionId op) :
    Holds after key terminal subscriptionId op := by
  obtain ⟨row, found, cached, named⟩ := holds
  exact ⟨row, rely.terminal found (by simp [cached]), cached, named⟩

theorem Rely.answers (rely : Rely key id before after) {reply : OpResult}
    (answers : Answers before key reply) : Answers after key reply := by
  obtain ⟨row, found, result⟩ := answers
  refine ⟨row, rely.terminal found fun running => ?_, result⟩
  simp [OpRow.result, running] at result

/-- The delivery that made the row is the only one that may move it. -/
theorem Steady.not_claimed (steady : Steady ops key spawned before) (different : other ≠ id)
    (claimed : .claimed other key ∈ before.trace) : .claimed id key ∉ before.trace :=
  fun same => different (steady.single other id claimed same)

theorem Owner.rely (owner : Owner key before other delivery) (rely : Rely key id before after)
    (steady : Steady ops key spawned before) (different : other ≠ id) :
    Owner key after other delivery where
  claimed := rely.marks _ owner.claimed
  row := by
    have foreign := steady.not_claimed different owner.claimed
    obtain same | absent | ⟨claimed, -⟩ := rely.rows
    · exact same.trans owner.row
    · rw [owner.row] at absent
      cases absent
    · exact absurd claimed foreign
  silent := (rely.channels other different).trans owner.silent
  alone third delivery terminal found same := by
    by_cases own : third = id
    · subst own
      exact steady.not_claimed different owner.claimed (rely.leaves delivery terminal found same)
    · rw [rely.orphans third own] at found
      exact owner.alone third delivery terminal found same

/-- **No step of another delivery takes away what a delivery knows.** -/
theorem Knows.rely {thread : Thread} (rely : Rely key id before after)
    (steady : Steady ops key spawned before) (steady' : Steady ops key spawned' after)
    (different : other ≠ id) (knows : Knows ops key before other thread) :
    Knows ops key after other thread where
  orphanless := (rely.orphans other different).trans knows.orphanless
  fresh claiming := by
    obtain ⟨unmarked, silent⟩ := knows.fresh claiming
    exact ⟨rely.unmarked different unmarked, (rely.channels other different).trans silent⟩
  own mark member same := by
    obtain sooner | own := rely.own mark member
    · exact knows.own mark sooner same
    · exact absurd (same.symm.trans own) different
  listed same listed := knows.listed same (rely.enters other different listed)
  claims same := by
    have claims := knows.claims same
    have registry : ∀ value, .claimed other key ∈ before.trace →
        before.registry.row key = value → after.registry.row key = value :=
      fun value claimed here =>
        (rely.registry.resolve_right (steady.not_claimed different claimed)).trans here
    have unhooked : .claimed other key ∈ before.trace → Unhooked key before.trace →
        Unhooked key after.trace := by
      intro claimed unhooked id' input hooked
      obtain sooner | own := rely.own _ hooked
      · exact unhooked id' input sooner
      · have made := (steady'.hooked id' input hooked).1
        exact different ((steady'.single other id' (rely.marks _ claimed) made).trans own)
    obtain ⟨delivery, phase⟩ := thread
    cases phase with
    | claiming => trivial
    | claimed claim =>
        cases claim with
        | claimed state =>
            exact ⟨claims.1.rely rely steady different, unhooked claims.1.claimed claims.2.1,
              registry none claims.1.claimed claims.2.2⟩
        | cached terminal subscriptionId op => exact ⟨rely.marks _ claims.1, rely.holds claims.2⟩
        | running => exact rely.marks _ claims
        | unauthorized | foreignRecipe | notActive => exact rely.marks _ claims
    | loading state =>
        exact ⟨claims.1.rely rely steady different, registry _ claims.1.claimed claims.2.1,
          unhooked claims.1.claimed claims.2.2.1, claims.2.2.2⟩
    | hooking =>
        obtain ⟨owner, listed, third, input, hooked⟩ := claims
        exact ⟨owner.rely rely steady different, registry _ owner.claimed listed,
          third, input, rely.marks _ hooked⟩
    | committing terminal =>
        obtain ⟨owner, listed, sendable, produced⟩ := claims
        exact ⟨owner.rely rely steady different, registry _ owner.claimed listed, sendable,
          rely.produced produced⟩
    | committed terminal ok =>
        obtain ⟨claimed, listed, sendable, holds⟩ := claims
        exact ⟨rely.marks _ claimed, registry _ claimed listed, sendable,
          fun committed => rely.holds (holds committed)⟩
    | attached owner =>
        obtain ⟨found, claimed, open_⟩ := claims
        refine ⟨rely.marks _ found, rely.marks _ claimed, ?_⟩
        by_cases own : owner = id
        · subst own
          obtain spoken | listed := open_
          · exact .inl (rely.published spoken)
          · exact (rely.wakes listed).symm
        · rw [rely.channels owner own]
          refine open_.imp_right fun listed => ?_
          exact (rely.registry.resolve_right (steady.not_claimed own claimed)).trans listed
    | rereading => exact rely.marks _ claims
    | replying reply => exact ⟨rely.bound claims.1, rely.answers claims.2⟩
    | refusing error => exact rely.marks _ claims

/-! ### What keeps the invariant -/

theorem Steady.mono (steady : Steady ops key spawned shared) (more : spawned ≤ spawned') :
    Steady ops key spawned' shared where
  __ := steady
  marked mark member := (steady.marked mark member).trans_le more
  spoken id outcome found := (steady.spoken id outcome found).trans_le more
  queued id job queued := (steady.queued id job queued).trans_le more

/-- A mark by a delivery without a queued job. -/
theorem Pending.mark {mark : Mark} {job : Job} (pending : Pending key before id job)
    (trace : after.trace = mark :: before.trace)
    (channels : after.channels.row id = before.channels.row id) (other : mark.owner ≠ id) :
    Pending key after id job := by
  cases job with
  | claim delivery =>
      refine ⟨fun found member same => ?_, channels.trans pending.2⟩
      rw [trace] at member
      obtain rfl | sooner := List.mem_cons.mp member
      · exact other same
      · exact pending.1 found sooner same
  | commit delivery terminal =>
      refine ⟨fun found member same => ?_, fun same => ?_⟩
      · rw [trace] at member
        obtain rfl | sooner := List.mem_cons.mp member
        · exact absurd same other
        · exact pending.1 found sooner same
      · obtain ⟨claimed, produced⟩ := pending.2 same
        rw [trace]
        refine ⟨.tail _ claimed, ?_⟩
        cases terminal with
        | done data =>
            obtain ⟨id, input, hooked⟩ := produced
            exact ⟨id, input, .tail _ hooked⟩
        | error error => trivial

/-- A mark that says nothing about claims and hooks of the key. -/
def Plain (key : RequestKey) : Mark → Prop
  | .claimed _ other | .hook _ other _ => other ≠ key
  | _ => True

/-- **A plain mark.** A found row, a refusal and a reply each owe what they say. -/
theorem Steady.plain {mark : Mark} (steady : Steady ops key spawned shared) (plain : Plain key mark)
    (below : mark.owner < spawned) (orphanless : shared.orphans.row mark.owner = none)
    (found : ∀ id, mark = .found id key → (∃ row, shared.rows.row key = some row) ∧
      (∀ reply, .sent id key reply ∉ shared.trace) ∧ .refused id key ∉ shared.trace)
    (refused : ∀ id, mark = .refused id key → ¬ Bound shared.trace id key)
    (sent : ∀ id reply, mark = .sent id key reply → Bound shared.trace id key →
      Answers shared key reply) : Steady ops key spawned (shared.mark mark) := by
  have claimed : ∀ id, .claimed id key ∈ mark :: shared.trace → .claimed id key ∈ shared.trace := by
    intro id member
    obtain rfl | sooner := List.mem_cons.mp member
    · exact absurd rfl plain
    · exact sooner
  have hooked : ∀ id input, .hook id key input ∈ mark :: shared.trace →
      .hook id key input ∈ shared.trace := by
    intro id input member
    obtain rfl | sooner := List.mem_cons.mp member
    · exact absurd rfl plain
    · exact sooner
  refine ⟨?_, steady.spoken, steady.queued, ?_, ?_, ?_, ?_, ?_, ?_, ?_, ?_, ?_, ?_⟩
  · intro given member
    obtain rfl | sooner := List.mem_cons.mp member
    · exact below
    · exact steady.marked given sooner
  · intro id job queued
    refine (steady.jobs id job queued).mark rfl rfl ?_
    rintro rfl
    exact absurd (queued.symm.trans orphanless) nofun
  · rintro absent id (made | seen)
    · exact steady.unclaimed absent id (.inl (claimed id made))
    · obtain same | sooner := List.mem_cons.mp seen
      · obtain ⟨⟨row, here⟩, -⟩ := found id same.symm
        exact absurd (here.symm.trans absent) nofun
      · exact steady.unclaimed absent id (.inr sooner)
  · exact fun first second one two => steady.single first second (claimed _ one) (claimed _ two)
  · intro id input member
    obtain ⟨made, runnable, row⟩ := steady.hooked id input (hooked id input member)
    exact ⟨.tail _ made, runnable, row⟩
  · have same : isHook key mark = false := by
      cases mark <;> simp_all [isHook, Plain]
    simpa [hookRuns, Shared.mark, same] using steady.once
  · intro row here done
    obtain ⟨id, input, hooked⟩ := steady.finished row here done
    exact ⟨id, input, .tail _ hooked⟩
  · intro id reply member bound
    obtain same | sooner := List.mem_cons.mp member
    · refine sent id reply same.symm (bound.imp (claimed id) fun seen => ?_)
      obtain clash | sooner := List.mem_cons.mp seen
      · exact absurd (same.trans clash.symm) nofun
      · exact sooner
    · obtain made | seen := bound
      · exact steady.answered id reply sooner (.inl (claimed id made))
      · obtain clash | before := List.mem_cons.mp seen
        · exact absurd sooner ((found id clash.symm).2.1 reply)
        · exact steady.answered id reply sooner (.inr before)
  · intro id member bound
    have earlier : .refused id key ∈ shared.trace → ¬ .found id key = mark := by
      intro sooner same
      exact (found id same.symm).2.2 sooner
    obtain same | sooner := List.mem_cons.mp member
    · refine refused id same.symm (bound.imp (claimed id) fun seen => ?_)
      obtain clash | sooner := List.mem_cons.mp seen
      · exact absurd (same.trans clash.symm) nofun
      · exact sooner
    · refine steady.refused id sooner (bound.imp (claimed id) fun seen => ?_)
      obtain clash | before := List.mem_cons.mp seen
      · exact absurd clash (earlier sooner)
      · exact before
  · exact fun id terminal subscriptionId op spoken made =>
      steady.channels id terminal subscriptionId op spoken (claimed id made)
  · exact fun id listed => (steady.registry id listed).imp_left (.tail _)

/-- **The claim transaction inserts the row.** -/
theorem Steady.claim (steady : Steady ops key spawned shared) (delivery : Delivery) (below : id < spawned) (orphanless : shared.orphans.row id = none)
    (unmarked : Unmarked shared.trace id) (silent : shared.channels.row id = none)
    (absent : shared.rows.row key = none) :
    Steady ops key spawned
      ({ shared with rows := shared.rows.put key (runningRow delivery) }.mark (.claimed id key)) := by
  have unbound := steady.unclaimed absent
  have unhooked : Unhooked key shared.trace :=
    fun other input hooked => unbound other (.inl (steady.hooked other input hooked).1)
  have claimed : ∀ other, .claimed other key ∈ Mark.claimed id key :: shared.trace → other = id := by
    intro other member
    obtain clash | sooner := List.mem_cons.mp member
    · cases clash
      rfl
    · exact absurd (.inl sooner) (unbound other)
  refine ⟨?_, steady.spoken, steady.queued, ?_, ?_, ?_, ?_, ?_, ?_, ?_, ?_, ?_, ?_⟩
  · intro given member
    obtain rfl | sooner := List.mem_cons.mp member
    · exact below
    · exact steady.marked given sooner
  · intro other job queued
    refine (steady.jobs other job queued).mark rfl rfl ?_
    rintro rfl
    exact absurd (queued.symm.trans orphanless) nofun
  · intro gone
    simp [Shared.mark] at gone
  · exact fun first second one two => (claimed first one).trans (claimed second two).symm
  · exact fun other input member => absurd (by simpa [Shared.mark] using member)
      (unhooked other input)
  · simpa [hookRuns, Shared.mark, isHook] using steady.once
  · intro row here done
    obtain rfl : runningRow delivery = row := by simpa [Shared.mark] using here
    cases done
  · intro other reply member bound
    have sooner : .sent other key reply ∈ shared.trace := by simpa [Shared.mark] using member
    obtain made | seen := bound
    · exact absurd (by simp [Mark.owner, claimed other made]) (unmarked _ sooner)
    · exact absurd (.inr (by simpa [Shared.mark] using seen)) (unbound other)
  · intro other member bound
    have sooner : .refused other key ∈ shared.trace := by simpa [Shared.mark] using member
    obtain made | seen := bound
    · exact absurd (by simp [Mark.owner, claimed other made]) (unmarked _ sooner)
    · exact absurd (.inr (by simpa [Shared.mark] using seen)) (unbound other)
  · intro other terminal subscriptionId op spoken made
    obtain rfl := claimed other made
    exact absurd (silent.symm.trans spoken) nofun
  · intro other listed
    exact absurd (.inl (steady.registry other listed).1) (unbound other)

/-- **The hook starts.** -/
theorem Steady.hook {input : HookInput} (steady : Steady ops key spawned shared) (below : id < spawned)
    (orphanless : shared.orphans.row id = none) (claimed : .claimed id key ∈ shared.trace)
    (unhooked : Unhooked key shared.trace) (runnable : resolve ops input.delivery.request = none)
    (row : ∃ row, shared.rows.row key = some row ∧ row.op = input.delivery.request.op) :
    Steady ops key spawned (shared.mark (.hook id key input)) := by
  have bound : ∀ other, Bound (Mark.hook id key input :: shared.trace) other key →
      Bound shared.trace other key := by
    rintro other (made | seen)
    · exact .inl (by simpa using made)
    · exact .inr (by simpa using seen)
  refine ⟨?_, steady.spoken, steady.queued, ?_, ?_, ?_, ?_, ?_, ?_, ?_, ?_, ?_, ?_⟩
  · intro given member
    obtain rfl | sooner := List.mem_cons.mp member
    · exact below
    · exact steady.marked given sooner
  · intro other job queued
    refine (steady.jobs other job queued).mark rfl rfl ?_
    rintro rfl
    exact absurd (queued.symm.trans orphanless) nofun
  · exact fun absent other made => steady.unclaimed absent other (bound other made)
  · exact fun first second one two => steady.single first second (by simpa [Shared.mark] using one)
      (by simpa [Shared.mark] using two)
  · intro other given member
    obtain clash | sooner := List.mem_cons.mp member
    · cases clash
      exact ⟨.tail _ claimed, runnable, row⟩
    · exact absurd sooner (unhooked other given)
  · have one : hookRuns key (shared.mark (.hook id key input)).trace =
        hookRuns key shared.trace + 1 := by
      simp [hookRuns, Shared.mark, isHook]
    rw [one, hookRuns_eq_zero.mpr unhooked]
  · exact fun row here done => ⟨id, input, .head _⟩
  · exact fun other reply member made => steady.answered other reply
      (by simpa [Shared.mark] using member) (bound other made)
  · exact fun other member made => steady.refused other (by simpa [Shared.mark] using member)
      (bound other made)
  · exact fun other terminal subscriptionId op spoken made =>
      steady.channels other terminal subscriptionId op spoken (by simpa [Shared.mark] using made)
  · exact fun other listed => (steady.registry other listed).imp_left (.tail _)

/-- **The terminal commit.** -/
theorem Steady.finish {row : OpRow} {terminal : Terminal} (steady : Steady ops key spawned shared)
    (found : shared.rows.row key = some row) (running : row.state = .running)
    (produced : Produced shared.trace key terminal) (now : ℤ) :
    Steady ops key spawned
      { shared with rows := shared.rows.put key (row.finish terminal now) } := by
  have unanswered : ∀ reply, ¬ Answers shared key reply := by
    rintro reply ⟨other, here, result⟩
    rw [found] at here
    cases here
    simp [OpRow.result, terminal_eq_none.mpr running] at result
  refine ⟨steady.marked, steady.spoken, steady.queued, steady.jobs, ?_, steady.single, ?_,
    steady.once, ?_, ?_, steady.refused, ?_, steady.registry⟩
  · intro absent
    simp at absent
  · intro other input member
    obtain ⟨made, runnable, old, here, named⟩ := steady.hooked other input member
    rw [found] at here
    cases here
    refine ⟨made, runnable, _, shared.rows.put_row_self key _, ?_⟩
    cases terminal <;> exact named
  · intro after here done
    have same : row.finish terminal now = after := by simpa using here
    subst same
    cases terminal with
    | done data => exact produced
    | error error => cases done
  · exact fun other reply member bound =>
      absurd (steady.answered other reply member bound) (unanswered reply)
  · intro other ended subscriptionId op spoken made
    obtain ⟨old, here, cached, -⟩ := steady.channels other ended subscriptionId op spoken made
    rw [found] at here
    cases here
    rw [terminal_eq_none.mpr running] at cached
    cases cached

/-- The delivery enters the registry. -/
theorem Steady.register (steady : Steady ops key spawned shared)
    (claimed : .claimed id key ∈ shared.trace) (silent : shared.channels.row id = none) :
    Steady ops key spawned (shared.register id key) where
  __ := steady
  registry other listed := by
    have same : id = other := by simpa [Shared.register] using listed
    subst same
    exact ⟨claimed, silent⟩

/-- The delivery leaves the registry. -/
theorem Steady.publish {outcome : Outcome} (steady : Steady ops key spawned shared)
    (below : id < spawned) (orphanless : shared.orphans.row id = none)
    (spoken : ∀ terminal subscriptionId op, outcome = .terminal terminal subscriptionId op →
      Holds shared key terminal subscriptionId op) :
    Steady ops key spawned (shared.publish id key outcome) where
  __ := steady
  spoken other given found := by
    by_cases same : other = id
    · exact same ▸ below
    · exact steady.spoken other given (by simpa [Shared.publish, same] using found)
  jobs other job queued := by
    have pending := steady.jobs other job queued
    have different : other ≠ id := by
      rintro rfl
      exact absurd (queued.symm.trans orphanless) nofun
    cases job with
    | claim delivery =>
        exact ⟨pending.1, (shared.channels.put_row_other _ different).trans pending.2⟩
    | commit delivery terminal => exact pending
  channels other terminal subscriptionId op found made := by
    by_cases same : other = id
    · subst same
      exact spoken terminal subscriptionId op (by simpa [Shared.publish] using found)
    · exact steady.channels other terminal subscriptionId op
        (by simpa [Shared.publish, same] using found) made
  registry other listed := by
    rw [show (shared.publish id key outcome).registry.row key = none from
      shared.registry.delete_row_self key] at listed
    cases listed

/-- A dropped task leaves a job. -/
theorem Steady.leave {job : Job} (steady : Steady ops key spawned shared) (below : id < spawned)
    (pending : Pending key shared id job) :
    Steady ops key spawned { shared with orphans := shared.orphans.put id job } where
  __ := steady
  queued other given queued := by
    by_cases same : other = id
    · exact same ▸ below
    · exact steady.queued other given (by simpa [same] using queued)
  jobs other given queued := by
    by_cases same : other = id
    · subst same
      obtain rfl : job = given := by simpa using queued
      exact pending
    · exact steady.jobs other given (by simpa [same] using queued)

end Lnrent.Dispatch
