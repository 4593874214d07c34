/-
**Publishing and withdrawing cannot cross.** Any number of publishes, withdrawals and boot republishes
interleave on one listing row, with store errors, relay failures, dropped tasks and crashes.

* `Crossed` — a publish acted after a withdrawal that got the lock after the publish's snapshot;
* `Rely` — what a step of one task may change under the others: a task that holds the lock keeps the
  row and the epoch, and a withdrawal always moves the epoch;
* `Claim` — what a task knows at each of its await points;
* `advance_owes` — what each step owes, one lemma for each verb;
* `publish_withdraw_apart` — **no crossing**, the boot path resurrects nothing, the gate is the only
  way to ACTIVE, and every reply agrees with the row it left.
-/

import Lnrent.Listing.Publication

namespace Lnrent.Listing

open Transition Relational

/-! ### What the trace says -/

/-- The task a mark is about. -/
def Mark.owner : Mark → ℕ
  | started id _ | snapshot id | probed id _ | withdrawal id | activated id | broadcast id
  | replied id _ | withdrew id _ => id

/-- A withdrawal got the lock after the task's snapshot. -/
def WithdrawnSince (trace : List Mark) (id : ℕ) : Prop :=
  ∃ other, [.withdrawal other, .snapshot id].Sublist trace

/-- **A crossing**: after such a withdrawal the task wrote ACTIVE, or handed the event to the
relays. -/
def Crossed (trace : List Mark) (id : ℕ) : Prop :=
  ∃ mark other, (mark = .activated id ∨ mark = .broadcast id) ∧
    [mark, .withdrawal other, .snapshot id].Sublist trace

/-- The verdicts let a publish through: a failed check is one of reachability, and overridden. -/
def Clears (acceptUnverified : Bool) (checks : List PreflightCheck) : Prop :=
  ∀ check ∈ checks, check.ok = false →
    acceptUnverified = true ∧ check.failureClass = some .reachability

/-- The checks of the task's own probes cleared it, under its own override. -/
def Cleared (trace : List Mark) (id : ℕ) : Prop :=
  ∃ acceptUnverified checks, .started id acceptUnverified ∈ trace ∧ .probed id checks ∈ trace ∧
    Clears acceptUnverified checks

section Trace

variable {trace : List Mark} {mark : Mark} {id : ℕ}

theorem withdrawnSince_cons :
    WithdrawnSince (mark :: trace) id ↔
      WithdrawnSince trace id ∨ (∃ other, mark = .withdrawal other) ∧ .snapshot id ∈ trace := by
  unfold WithdrawnSince
  simp only [List.cons_sublist_cons', List.singleton_sublist]
  constructor
  · rintro ⟨other, sooner | ⟨rfl, seen⟩⟩
    · exact .inl ⟨other, sooner⟩
    · exact .inr ⟨⟨other, rfl⟩, seen⟩
  · rintro (⟨other, sooner⟩ | ⟨⟨other, rfl⟩, seen⟩)
    · exact ⟨other, .inl sooner⟩
    · exact ⟨other, .inr ⟨rfl, seen⟩⟩

theorem crossed_cons :
    Crossed (mark :: trace) id ↔
      Crossed trace id ∨ (mark = .activated id ∨ mark = .broadcast id) ∧ WithdrawnSince trace id := by
  unfold Crossed WithdrawnSince
  constructor
  · rintro ⟨acted, other, kind, within⟩
    rw [List.cons_sublist_cons'] at within
    obtain sooner | ⟨rfl, since⟩ := within
    · exact .inl ⟨acted, other, kind, sooner⟩
    · exact .inr ⟨kind, other, since⟩
  · rintro (⟨acted, other, kind, within⟩ | ⟨kind, other, since⟩)
    · exact ⟨acted, other, kind, within.cons _⟩
    · exact ⟨mark, other, kind, since.cons_cons _⟩

theorem not_withdrawnSince_of_unseen (unseen : .snapshot id ∉ trace) : ¬ WithdrawnSince trace id := by
  rintro ⟨other, within⟩
  exact unseen (within.subset (by simp))

theorem Cleared.cons (cleared : Cleared trace id) : Cleared (mark :: trace) id := by
  obtain ⟨acceptUnverified, checks, started, probed, clears⟩ := cleared
  exact ⟨acceptUnverified, checks, .tail _ started, .tail _ probed, clears⟩

end Trace

/-- **The invariant of the trace.** -/
structure Sound (spawned : ℕ) (trace : List Mark) : Prop where
  uncrossed : ∀ id, ¬ Crossed trace id
  cleared : ∀ id, .activated id ∈ trace → Cleared trace id
  known : ∀ id, .snapshot id ∈ trace → id < spawned

/-- A mark that neither acts nor takes a snapshot. -/
def Mark.Quiet : Mark → Prop
  | snapshot _ | activated _ | broadcast _ => False
  | _ => True

section Sound

variable {spawned id : ℕ} {trace : List Mark} {mark : Mark}

theorem Sound.quiet (sound : Sound spawned trace) (quiet : mark.Quiet) :
    Sound spawned (mark :: trace) where
  uncrossed id crossed := by
    obtain sooner | ⟨rfl | rfl, -⟩ := crossed_cons.mp crossed
    · exact sound.uncrossed id sooner
    · exact quiet
    · exact quiet
  cleared id activated := by
    obtain rfl | sooner := List.mem_cons.mp activated
    · exact quiet.elim
    · exact (sound.cleared id sooner).cons
  known id seen := by
    obtain rfl | sooner := List.mem_cons.mp seen
    · exact quiet.elim
    · exact sound.known id sooner

theorem Sound.snapshot (sound : Sound spawned trace) (below : id < spawned) :
    Sound spawned (.snapshot id :: trace) where
  uncrossed other crossed := by
    obtain sooner | ⟨kind, -⟩ := crossed_cons.mp crossed
    · exact sound.uncrossed other sooner
    · simp at kind
  cleared other activated := (sound.cleared other (by simpa using activated)).cons
  known other seen := by
    obtain same | sooner := List.mem_cons.mp seen
    · cases same
      exact below
    · exact sound.known other sooner

theorem Sound.acted (sound : Sound spawned trace) (still : ¬ WithdrawnSince trace id)
    (acted : mark = .broadcast id ∨ mark = .activated id ∧ Cleared trace id) :
    Sound spawned (mark :: trace) where
  uncrossed other crossed := by
    obtain sooner | ⟨kind, since⟩ := crossed_cons.mp crossed
    · exact sound.uncrossed other sooner
    · have same : other = id := by
        obtain rfl | ⟨rfl, -⟩ := acted <;> simpa [eq_comm] using kind
      exact still (same ▸ since)
  cleared other activated := by
    obtain same | sooner := List.mem_cons.mp activated
    · obtain rfl | ⟨rfl, cleared⟩ := acted
      · cases same
      · cases same
        exact cleared.cons
    · exact (sound.cleared other sooner).cons
  known other seen := by
    obtain same | sooner := List.mem_cons.mp seen
    · obtain rfl | ⟨rfl, -⟩ := acted <;> cases same
    · exact sound.known other sooner

end Sound

/-! ### What a step may change under the others -/

/-- **The guarantee of a step of `id`.** -/
structure Rely (id : ℕ) (before after : Shared) : Prop where
  extends_ : ∀ mark ∈ before.trace, mark ∈ after.trace
  own : ∀ mark ∈ after.trace, mark ∈ before.trace ∨ mark.owner = id
  epoch : before.withdrawEpoch ≤ after.withdrawEpoch
  since : ∀ other, other ≠ id → WithdrawnSince after.trace other →
    WithdrawnSince before.trace other ∨ before.withdrawEpoch < after.withdrawEpoch
  holder : ∀ other, other ≠ id → (before.holder = some other ↔ after.holder = some other)
  frame : ∀ other, other ≠ id → before.holder = some other →
    after.row = before.row ∧ after.withdrawEpoch = before.withdrawEpoch

section Rely

variable {id : ℕ} {before between after : Shared}

theorem Rely.refl (shared : Shared) : Rely id shared shared where
  extends_ _ found := found
  own _ found := .inl found
  epoch := le_rfl
  since _ _ since := .inl since
  holder _ _ := .rfl
  frame _ _ _ := ⟨rfl, rfl⟩

theorem Rely.trans (first : Rely id before between) (second : Rely id between after) :
    Rely id before after where
  extends_ mark found := second.extends_ mark (first.extends_ mark found)
  own mark found := (second.own mark found).elim (first.own mark) .inr
  epoch := first.epoch.trans second.epoch
  since other different since := by
    obtain sooner | moved := second.since other different since
    · exact (first.since other different sooner).imp_right fun moved =>
        moved.trans_le second.epoch
    · exact .inr (first.epoch.trans_lt moved)
  holder other different := (first.holder other different).trans (second.holder other different)
  frame other different holds := by
    obtain ⟨row, epoch⟩ := first.frame other different holds
    obtain ⟨row', epoch'⟩ := second.frame other different
      ((first.holder other different).mp holds)
    exact ⟨row'.trans row, epoch'.trans epoch⟩

theorem Rely.mark {mark : Mark} (own : mark.owner = id) (other : ∀ id, mark ≠ .withdrawal id) :
    Rely id before (before.mark mark) where
  extends_ _ found := .tail _ found
  own _ member := (List.mem_cons.mp member).elim (fun same => .inr (same ▸ own)) .inl
  epoch := le_rfl
  since _ _ since :=
    (withdrawnSince_cons.mp since).imp_right fun ⟨⟨by_, same⟩, _⟩ => absurd same (other by_)
  holder _ _ := .rfl
  frame _ _ _ := ⟨rfl, rfl⟩

theorem Rely.lock (free : before.holder = none) : Rely id before { before with holder := some id } where
  extends_ _ found := found
  own _ found := .inl found
  epoch := le_rfl
  since _ _ since := .inl since
  holder other different := by simp [free, different.symm]
  frame other _ holds := by simp [free] at holds

theorem Rely.unlock (held : before.holder = some id) : Rely id before before.unlock where
  extends_ _ found := found
  own _ found := .inl found
  epoch := le_rfl
  since _ _ since := .inl since
  holder other different := by simp [Shared.unlock, held, different.symm]
  frame other different holds := absurd (held.symm.trans holds) (by simp [different.symm])

theorem Rely.write (held : before.holder = some id) (row : Option Row) :
    Rely id before { before with row := row } where
  extends_ _ found := found
  own _ found := .inl found
  epoch := le_rfl
  since _ _ since := .inl since
  holder _ _ := .rfl
  frame other different holds := absurd (held.symm.trans holds) (by simp [different.symm])

/-- A withdrawal gets the lock: the epoch moves with the mark. -/
theorem Rely.withdrawal (free : before.holder = none) :
    Rely id before ({ before with
      holder := some id, withdrawEpoch := before.withdrawEpoch + 1 }.mark (.withdrawal id)) where
  extends_ _ found := .tail _ found
  own found member := (List.mem_cons.mp member).elim (fun same => .inr (same ▸ rfl)) .inl
  epoch := Nat.le_succ _
  since _ _ _ := .inr (Nat.lt_succ_self _)
  holder other different := by simp [Shared.mark, free, different.symm]
  frame other _ holds := by simp [free] at holds

theorem Rely.reply (held : before.holder = some id) (outcome : Except String PublishOutcome) :
    Rely id before (before.reply id outcome).1 := by
  have marked : Rely id before (before.mark (.replied id outcome)) := .mark rfl fun _ => nofun
  exact marked.trans (.unlock held)

theorem Rely.withdrew (held : before.holder = some id) (outcome : Except String WithdrawOutcome) :
    Rely id before (before.withdrew id outcome).1 := by
  have marked : Rely id before (before.mark (.withdrew id outcome)) := .mark rfl fun _ => nofun
  exact marked.trans (.unlock held)

end Rely

/-! ### What a task knows -/

/-- The task holds the lock at this await point. -/
def Thread.Holds : Thread → Prop
  | publish .. | probing .. | gate .. | withdraw _ | boot _ => False
  | _ => True

/-- The snapshot is not ahead of the epoch, and behind it where a withdrawal came since. -/
structure Behind (shared : Shared) (id : ℕ) (observed : PublishSnapshot) : Prop where
  epoch : observed.withdrawEpoch ≤ shared.withdrawEpoch
  since : WithdrawnSince shared.trace id → observed.withdrawEpoch < shared.withdrawEpoch

/-- The id the row records. -/
def eventId (row : Option Row) : Option ℕ := row.bind (·.eventId)

/-- **What a task knows at its await point**, next to whether it holds the lock. -/
def Claim (shared : Shared) (id : ℕ) : Thread → Prop
  | .publish _ acceptUnverified =>
      .started id acceptUnverified ∈ shared.trace ∧ .snapshot id ∉ shared.trace
  | .snapshotting _ acceptUnverified withdrawEpoch =>
      .started id acceptUnverified ∈ shared.trace ∧ withdrawEpoch = shared.withdrawEpoch ∧
        ¬ WithdrawnSince shared.trace id
  | .probing _ acceptUnverified observed =>
      .started id acceptUnverified ∈ shared.trace ∧ Behind shared id observed
  | .gate _ acceptUnverified observed checks | .deciding _ acceptUnverified observed checks =>
      .started id acceptUnverified ∈ shared.trace ∧ .probed id checks ∈ shared.trace ∧
        Behind shared id observed
  | .refreshing _ wasActive _ =>
      ¬ WithdrawnSince shared.trace id ∧ Cleared shared.trace id ∧
        wasActive = isPublished shared.row
  | .activating _ => ¬ WithdrawnSince shared.trace id ∧ Cleared shared.trace id
  | .broadcasting wasActive _ | .recording wasActive _ _ =>
      ¬ WithdrawnSince shared.trace id ∧ isPublished shared.row = true ∧
        (wasActive = false → eventId shared.row = none)
  | .boot _ | .bootRefreshing _ | .bootReading | .bootBroadcasting | .bootRecording _ =>
      .snapshot id ∉ shared.trace
  | .withdraw _ | .leaving | .withdrawing | .retracting _ => True

/-- The assertion of the outline. -/
structure Knows (shared : Shared) (id : ℕ) (thread : Thread) : Prop where
  holder : thread.Holds ↔ shared.holder = some id
  claim : Claim shared id thread

theorem Behind.rely {id other : ℕ} {before after : Shared} {observed : PublishSnapshot}
    (rely : Rely id before after) (different : other ≠ id) (behind : Behind before other observed) :
    Behind after other observed where
  epoch := behind.epoch.trans rely.epoch
  since since := by
    obtain sooner | moved := rely.since other different since
    · exact (behind.since sooner).trans_le rely.epoch
    · exact behind.epoch.trans_lt moved

theorem Cleared.rely {id other : ℕ} {before after : Shared} (rely : Rely id before after)
    (cleared : Cleared before.trace other) : Cleared after.trace other := by
  obtain ⟨acceptUnverified, checks, started, probed, clears⟩ := cleared
  exact ⟨acceptUnverified, checks, rely.extends_ _ started, rely.extends_ _ probed, clears⟩

/-- **No step of another task takes away what a task knows.** -/
theorem Knows.rely {id other : ℕ} {before after : Shared} {thread : Thread}
    (rely : Rely id before after) (different : other ≠ id) (knows : Knows before other thread) :
    Knows after other thread := by
  refine ⟨knows.holder.trans (rely.holder other different), ?_⟩
  have claim := knows.claim
  have unseen : .snapshot other ∉ before.trace → .snapshot other ∉ after.trace :=
    fun absent seen => (rely.own _ seen).elim absent different
  have held : thread.Holds → (after.row = before.row ∧
      (¬ WithdrawnSince before.trace other → ¬ WithdrawnSince after.trace other)) ∧
      after.withdrawEpoch = before.withdrawEpoch := by
    intro holds
    obtain ⟨row, epoch⟩ := rely.frame other different (knows.holder.mp holds)
    refine ⟨⟨row, fun still since => ?_⟩, epoch⟩
    obtain sooner | moved := rely.since other different since
    · exact still sooner
    · omega
  cases thread with
  | publish | boot | bootRefreshing | bootReading | bootBroadcasting | bootRecording =>
      first
        | exact ⟨rely.extends_ _ claim.1, unseen claim.2⟩
        | exact unseen claim
  | snapshotting =>
      obtain ⟨⟨-, still⟩, epoch⟩ := held trivial
      exact ⟨rely.extends_ _ claim.1, claim.2.1.trans epoch.symm, still claim.2.2⟩
  | probing => exact ⟨rely.extends_ _ claim.1, claim.2.rely rely different⟩
  | gate | deciding =>
      exact ⟨rely.extends_ _ claim.1, rely.extends_ _ claim.2.1, claim.2.2.rely rely different⟩
  | refreshing =>
      obtain ⟨⟨row, still⟩, -⟩ := held trivial
      exact ⟨still claim.1, claim.2.1.rely rely, row ▸ claim.2.2⟩
  | activating =>
      obtain ⟨⟨-, still⟩, -⟩ := held trivial
      exact ⟨still claim.1, claim.2.rely rely⟩
  | broadcasting | recording =>
      obtain ⟨⟨row, still⟩, -⟩ := held trivial
      exact ⟨still claim.1, row ▸ claim.2⟩
  | withdraw | leaving | withdrawing | retracting => trivial

/-! ### What a reply says -/

/-- The event id a reply names is the recorded one; a fresh publication without one records none. -/
def NamesEvent : PublishOutcome → Option ℕ → Prop
  | .published _ (some event) _ none _, recorded => recorded = some event
  | .published .., recorded => recorded = none
  | .alreadyPublished _ (some event) _ none _, recorded => recorded = some event
  | _, _ => True

/-- **The reply agrees with the row.** -/
structure Agrees (outcome : PublishOutcome) (row : Option Row) : Prop where
  published : (publishReply outcome).published = isPublished row
  state : ∀ named, (publishReply outcome).state = some named → state row = named
  event : NamesEvent outcome (eventId row)

theorem isPublished_iff {row : Option Row} : isPublished row = true ↔ state row = some .active := by
  simp [isPublished]

theorem isPublished_upsertRow {row : Option Row} (recipe : Pricing) (now : ℤ) :
    isPublished (some (upsertRow row recipe now)) = isPublished row := by
  cases row <;> rfl

@[simp]
theorem isPublished_recordEventId {row : Option Row} (event : ℕ) :
    isPublished (recordEventId row event) = isPublished row := by
  cases row <;> rfl

/-- A publish that committed names ACTIVE. -/
theorem agrees_committed {listingId : ListingId} {wasActive : Bool} {event : Option ℕ}
    {relayError persistError : Option String} {unverified : List PreflightCheck} {row : Option Row}
    (active : isPublished row = true)
    (recorded : ∀ id, event = some id → persistError = none → eventId row = some id)
    (fresh : wasActive = false → event = none ∨ persistError ≠ none → eventId row = none) :
    Agrees (committed listingId wasActive event relayError persistError unverified) row := by
  have named := isPublished_iff.mp active
  cases wasActive with
  | true =>
      refine ⟨active.symm, fun _ same => by cases same; exact named, ?_⟩
      cases event with
      | none => trivial
      | some id =>
          cases persistError with
          | none => exact recorded id rfl rfl
          | some error => trivial
  | false =>
      refine ⟨active.symm, fun _ same => by cases same; exact named, ?_⟩
      cases event with
      | none => exact fresh rfl (.inl rfl)
      | some id =>
          cases persistError with
          | none => exact recorded id rfl rfl
          | some error => exact fresh rfl (.inr nofun)

/-- **The gate**: a refusal agrees with the state it read; what passes is not superseded, and
cleared. -/
theorem decideGate_cases (listingId : ListingId) (acceptUnverified : Bool)
    (observed : PublishSnapshot) (checks : List PreflightCheck) (row : Option Row)
    (withdrawEpoch : ℕ) :
    (∃ outcome, decideGate listingId acceptUnverified observed checks (state row) withdrawEpoch =
        .inl outcome ∧ Agrees outcome row) ∨
      decideGate listingId acceptUnverified observed checks (state row) withdrawEpoch =
          .inr (isPublished row, failed checks true) ∧
        observed.withdrawEpoch = withdrawEpoch ∧ Clears acceptUnverified checks := by
  unfold decideGate
  split_ifs with moved structural unverified
  · exact .inl ⟨_, rfl, rfl, fun _ same => by cases same; rfl, trivial⟩
  · exact .inl ⟨_, rfl, rfl, nofun, trivial⟩
  · exact .inl ⟨_, rfl, rfl, nofun, trivial⟩
  · refine .inr ⟨rfl, not_not.mp (not_or.mp moved).2, fun check member bad => ?_⟩
    have class_ : check.failureClass = some .reachability := by
      by_contra other
      refine structural (List.ne_nil_of_mem (a := check) ?_)
      simp [failed, member, bad, other]
    have overridden : failed checks true ≠ [] := by
      refine List.ne_nil_of_mem (a := check) ?_
      simp [failed, member, bad, class_]
    refine ⟨?_, class_⟩
    cases acceptUnverified with
    | true => rfl
    | false => exact absurd ⟨overridden, rfl⟩ unverified

/-! ### What each step owes -/

/-- **The obligations of one step** of a task. -/
structure Owes (spawned id : ℕ) (thread : Thread) (before after : Shared) (next : Option Thread) :
    Prop where
  rely : Rely id before after
  sound : Sound spawned after.trace
  next : ∀ thread, next = some thread → Knows after id thread
  replies : ∀ other outcome, .replied other (.ok outcome) ∈ after.trace →
    .replied other (.ok outcome) ∈ before.trace ∨ Agrees outcome after.row
  raises : isPublished after.row = true → isPublished before.row = true ∨
    after.trace = .activated id :: before.trace ∧ ∃ unverified, thread = .activating unverified

section Owes

variable {spawned id : ℕ} {thread : Thread} {shared base : Shared}

/-- The task stays where it is. -/
theorem Owes.stay (sound : Sound spawned shared.trace) (knows : Knows shared id thread) :
    Owes spawned id thread shared shared (some thread) where
  rely := .refl shared
  sound := sound
  next _ same := by cases same; exact knows
  replies _ _ found := .inl found
  raises active := .inl active

/-- A step that leaves the row and marks nothing. -/
theorem Owes.silent {next : Option Thread} (rely : Rely id shared base)
    (sound : Sound spawned shared.trace) (trace : base.trace = shared.trace)
    (row : isPublished base.row = isPublished shared.row)
    (knows : ∀ thread, next = some thread → Knows base id thread) :
    Owes spawned id thread shared base next where
  rely := rely
  sound := trace ▸ sound
  next := knows
  replies _ _ found := .inl (trace ▸ found)
  raises active := .inl (row ▸ active)

/-- The task waits for the lock, or enters. -/
theorem Owes.locking {entered : Shared → Shared × Option Thread}
    (sound : Sound spawned shared.trace) (knows : Knows shared id thread)
    (free : shared.holder = none →
      Owes spawned id thread shared (entered { shared with holder := some id }).1
        (entered { shared with holder := some id }).2) :
    Owes spawned id thread shared (shared.locking id thread entered).1
      (shared.locking id thread entered).2 := by
  unfold Shared.locking
  cases holder : shared.holder with
  | some _ => exact .stay sound knows
  | none => exact free holder

/-- The publish answers. -/
theorem Owes.reply {outcome : Except String PublishOutcome} (rely : Rely id shared base)
    (held : base.holder = some id) (sound : Sound spawned base.trace)
    (old : ∀ other outcome, .replied other (.ok outcome) ∈ base.trace →
      .replied other (.ok outcome) ∈ shared.trace)
    (row : isPublished base.row = isPublished shared.row)
    (agrees : ∀ given, outcome = .ok given → Agrees given base.row) :
    Owes spawned id thread shared (base.reply id outcome).1 (base.reply id outcome).2 where
  rely := rely.trans (.reply held outcome)
  sound := sound.quiet trivial
  next := nofun
  replies other given found := by
    obtain same | sooner := List.mem_cons.mp found
    · cases same
      exact .inr (agrees given rfl)
    · exact .inl (old other given sooner)
  raises active := .inl (row ▸ active)

/-- The withdrawal answers. -/
theorem Owes.withdrew (held : shared.holder = some id) (sound : Sound spawned shared.trace)
    (outcome : Except String WithdrawOutcome) :
    Owes spawned id thread shared (shared.withdrew id outcome).1 (shared.withdrew id outcome).2 where
  rely := .withdrew held outcome
  sound := sound.quiet trivial
  next := nofun
  replies other given found := .inl (by simpa [Shared.withdrew, Shared.mark, Shared.unlock] using found)
  raises active := .inl active

end Owes

section Advance

variable {listingId : ListingId} {spawned id : ℕ} {shared : Shared} {answer : Answer}

theorem runSetState_ok {row : Option Row} {target : ListingState} {clearEventId : Bool}
    {after : Row} (ok : runSetState listingId row target clearEventId answer = .ok after) :
    state (some after) = some target ∧ (clearEventId = true → eventId (some after) = none) := by
  cases stored : answer.storeError with
  | some error => simp [runSetState, stored] at ok
  | none =>
      cases row with
      | none => simp [runSetState, setState, stored] at ok
      | some old =>
          simp only [runSetState, setState, stored, Option.map_some, Except.ok.injEq] at ok
          subst ok
          exact ⟨rfl, fun clears => by simp [eventId, clears]⟩

/-- **A step of a publish.** -/
theorem publish_owes {thread : Thread} (sound : Sound spawned shared.trace) (below : id < spawned)
    (knows : Knows shared id thread) :
    Owes spawned id thread shared (advancePublish listingId shared id answer thread).1
      (advancePublish listingId shared id answer thread).2 := by
  have claim := knows.claim
  have still : thread.Holds → shared.holder = some id := knows.holder.mp
  cases thread with
  | publish recipes acceptUnverified =>
      cases first : recipes.head? with
      | none =>
          simp only [advancePublish, first]
          refine ⟨.mark rfl fun _ => nofun, sound.quiet trivial, nofun, fun other given found => ?_,
            .inl⟩
          exact .inl (by simpa [Shared.mark] using found)
      | some recipe =>
          simp only [advancePublish, first]
          refine .locking sound knows fun free => ?_
          have marked : Rely id { shared with holder := some id }
            ({ shared with holder := some id }.mark (.snapshot id)) := .mark rfl fun _ => nofun
          refine ⟨(Rely.lock free).trans marked, sound.snapshot below, ?_, ?_, .inl⟩
          · rintro _ ⟨⟩
            refine ⟨iff_of_true trivial rfl, .tail _ claim.1, rfl, fun since => ?_⟩
            obtain sooner | ⟨⟨_, same⟩, _⟩ := withdrawnSince_cons.mp since
            · exact not_withdrawnSince_of_unseen claim.2 sooner
            · cases same
          · exact fun other given found => .inl (by simpa [Shared.mark] using found)
  | snapshotting recipe acceptUnverified withdrawEpoch =>
      cases stored : answer.storeError with
      | some error =>
          simp only [advancePublish, stored]
          exact .reply (.refl _) (still trivial) sound (fun _ _ found => found) rfl nofun
      | none =>
          simp only [advancePublish, stored]
          refine .silent (.unlock (still trivial)) sound rfl rfl ?_
          rintro _ ⟨⟩
          exact ⟨iff_of_false (fun holds => holds) nofun, claim.1, claim.2.1.le, fun since => absurd since claim.2.2⟩
  | probing recipe acceptUnverified observed =>
      refine ⟨.mark rfl fun _ => nofun, sound.quiet trivial, ?_, ?_, .inl⟩
      · rintro _ ⟨⟩
        refine ⟨knows.holder, .tail _ claim.1, .head _, claim.2.epoch, fun since => ?_⟩
        obtain sooner | ⟨⟨_, same⟩, _⟩ := withdrawnSince_cons.mp since
        · exact claim.2.since sooner
        · cases same
      · exact fun other given found => .inl (by simpa [advancePublish, Shared.mark] using found)
  | gate recipe acceptUnverified observed checks =>
      refine .locking sound knows fun free => .silent (.lock free) sound rfl rfl ?_
      rintro _ ⟨⟩
      exact ⟨iff_of_true trivial rfl, claim.1, claim.2.1, claim.2.2.epoch, claim.2.2.since⟩
  | deciding recipe acceptUnverified observed checks =>
      cases stored : answer.storeError with
      | some error =>
          simp only [advancePublish, stored]
          exact .reply (.refl _) (still trivial) sound (fun _ _ found => found) rfl nofun
      | none =>
          simp only [advancePublish, stored]
          obtain ⟨outcome, refused, agrees⟩ | ⟨passed, epoch, clears⟩ :=
            decideGate_cases listingId acceptUnverified observed checks shared.row
              shared.withdrawEpoch
          · simp only [refused]
            refine .reply (.refl _) (still trivial) sound (fun _ _ found => found) rfl ?_
            rintro _ ⟨⟩
            exact agrees
          · simp only [passed]
            refine .silent (.refl _) sound rfl rfl ?_
            rintro _ ⟨⟩
            refine ⟨knows.holder, fun since => ?_, ⟨_, _, claim.1, claim.2.1, clears⟩, rfl⟩
            exact (claim.2.2.since since).ne epoch
  | refreshing recipe wasActive unverified =>
      cases stored : answer.storeError with
      | some error =>
          simp only [advancePublish, stored]
          exact .reply (.refl _) (still trivial) sound (fun _ _ found => found) rfl nofun
      | none =>
          simp only [advancePublish, stored]
          refine .silent (.write (still trivial) _) sound rfl (isPublished_upsertRow _ _) ?_
          rintro _ ⟨⟩
          cases wasActive with
          | true =>
              exact ⟨knows.holder, claim.1,
                (isPublished_upsertRow _ _).trans claim.2.2.symm, nofun⟩
          | false => exact ⟨knows.holder, claim.1, claim.2.1⟩
  | activating unverified =>
      cases ran : runSetState listingId shared.row .active true answer with
      | error error =>
          simp only [advancePublish, ran]
          exact .reply (.refl _) (still trivial) sound (fun _ _ found => found) rfl nofun
      | ok row =>
          simp only [advancePublish, ran]
          obtain ⟨active, cleared⟩ := runSetState_ok ran
          have marked : Rely id { shared with row := some row }
            ({ shared with row := some row }.mark (.activated id)) := .mark rfl fun _ => nofun
          refine ⟨(Rely.write (still trivial) _).trans marked,
            sound.acted claim.1 (.inr ⟨rfl, claim.2⟩), ?_, ?_, fun _ => .inr ⟨rfl, _, rfl⟩⟩
          · rintro _ ⟨⟩
            refine ⟨knows.holder, fun since => ?_, isPublished_iff.mpr active,
              fun _ => cleared rfl⟩
            obtain sooner | ⟨⟨_, same⟩, _⟩ := withdrawnSince_cons.mp since
            · exact claim.1 sooner
            · cases same
          · exact fun other given found => .inl (by simpa [Shared.mark] using found)
  | broadcasting wasActive unverified =>
      have sent : Sound spawned (shared.mark (.broadcast id)).trace := sound.acted claim.1 (.inl rfl)
      have marked : Rely id shared (shared.mark (.broadcast id)) := .mark rfl fun _ => nofun
      have old : ∀ other outcome, .replied other (.ok outcome) ∈ (shared.mark (.broadcast id)).trace →
          .replied other (.ok outcome) ∈ shared.trace :=
        fun other outcome found => by simpa [Shared.mark] using found
      cases relayed : answer.relayed with
      | ok event =>
          simp only [advancePublish, relayed]
          refine ⟨marked, sent, ?_, fun other given found => .inl (old other given found), .inl⟩
          rintro _ ⟨⟩
          refine ⟨knows.holder, fun since => ?_, claim.2⟩
          obtain sooner | ⟨⟨_, same⟩, _⟩ := withdrawnSince_cons.mp since
          · exact claim.1 sooner
          · cases same
      | error error =>
          simp only [advancePublish, relayed]
          refine .reply marked (still trivial) sent old rfl ?_
          rintro _ ⟨⟩
          exact agrees_committed claim.2.1 nofun fun fresh _ => claim.2.2 fresh
  | recording wasActive unverified event =>
      cases stored : answer.storeError with
      | some error =>
          simp only [advancePublish, stored]
          refine .reply (.refl _) (still trivial) sound (fun _ _ found => found) rfl ?_
          rintro _ ⟨⟩
          exact agrees_committed claim.2.1 nofun fun fresh _ => claim.2.2 fresh
      | none =>
          simp only [advancePublish, stored]
          refine .reply (.write (still trivial) _) (still trivial) sound (fun _ _ found => found)
            (isPublished_recordEventId event) ?_
          rintro _ ⟨⟩
          refine agrees_committed (by simpa using claim.2.1) ?_ ?_
          · rintro _ ⟨⟩ -
            cases found : shared.row with
            | none =>
                have active := claim.2.1
                rw [found] at active
                cases active
            | some row => rfl
          · rintro - (absent | failed)
            · cases absent
            · exact absurd rfl failed
  | withdraw | leaving | withdrawing | retracting | boot | bootRefreshing | bootReading
  | bootBroadcasting | bootRecording => exact .stay sound knows

/-- **A step of a withdrawal.** -/
theorem withdraw_owes {thread : Thread} (sound : Sound spawned shared.trace)
    (knows : Knows shared id thread) :
    Owes spawned id thread shared (advanceWithdraw listingId shared id answer thread).1
      (advanceWithdraw listingId shared id answer thread).2 := by
  have still : thread.Holds → shared.holder = some id := knows.holder.mp
  cases thread with
  | withdraw recipes =>
      cases first : recipes.head? with
      | none =>
          simp only [advanceWithdraw, first]
          refine ⟨.mark rfl fun _ => nofun, sound.quiet trivial, nofun, fun other given found => ?_,
            .inl⟩
          exact .inl (by simpa [Shared.mark] using found)
      | some recipe =>
          simp only [advanceWithdraw, first]
          refine .locking sound knows fun free => ⟨.withdrawal free, sound.quiet trivial, ?_, ?_, .inl⟩
          · rintro _ ⟨⟩
            exact ⟨iff_of_true trivial rfl, trivial⟩
          · exact fun other given found => .inl (by simpa [Shared.mark] using found)
  | leaving =>
      cases stored : answer.storeError with
      | some error =>
          simp only [advanceWithdraw, stored]
          exact .withdrew (still trivial) sound _
      | none =>
          simp only [advanceWithdraw, stored]
          split <;> refine .silent (.refl _) sound rfl rfl ?_ <;> rintro _ ⟨⟩ <;>
            exact ⟨knows.holder, trivial⟩
  | withdrawing =>
      cases ran : runSetState listingId shared.row .withdrawn false answer with
      | error error =>
          simp only [advanceWithdraw, ran]
          exact .withdrew (still trivial) sound _
      | ok row =>
          simp only [advanceWithdraw, ran]
          have named := (runSetState_ok ran).1
          refine ⟨.write (still trivial) _, sound, ?_, fun _ _ found => .inl found, fun active => ?_⟩
          · rintro _ ⟨⟩
            exact ⟨knows.holder, trivial⟩
          · rw [isPublished_iff, named] at active
            cases active
  | retracting found => cases found <;> exact .withdrew (still trivial) sound _
  | publish | snapshotting | probing | gate | deciding | refreshing | activating | broadcasting
  | recording | boot | bootRefreshing | bootReading | bootBroadcasting | bootRecording =>
      exact .stay sound knows

/-- **A step of the boot path.** -/
theorem boot_owes {thread : Thread} (sound : Sound spawned shared.trace)
    (knows : Knows shared id thread) :
    Owes spawned id thread shared (advanceBoot shared id answer thread).1
      (advanceBoot shared id answer thread).2 := by
  have claim := knows.claim
  have still : thread.Holds → shared.holder = some id := knows.holder.mp
  have ended : thread.Holds → Owes spawned id thread shared shared.unlock none :=
    fun holds => .silent (.unlock (still holds)) sound rfl rfl nofun
  cases thread with
  | boot recipe =>
      refine .locking sound knows fun free => .silent (.lock free) sound rfl rfl ?_
      rintro _ ⟨⟩
      exact ⟨iff_of_true trivial rfl, claim⟩
  | bootRefreshing recipe =>
      cases stored : answer.storeError with
      | some error =>
          simp only [advanceBoot, stored]
          exact ended trivial
      | none =>
          simp only [advanceBoot, stored]
          refine .silent (.write (still trivial) _) sound rfl (isPublished_upsertRow _ _) ?_
          rintro _ ⟨⟩
          exact ⟨knows.holder, claim⟩
  | bootReading =>
      cases stored : answer.storeError with
      | some error =>
          simp only [advanceBoot, stored]
          exact ended trivial
      | none =>
          simp only [advanceBoot, stored]
          split
          · refine .silent (.refl _) sound rfl rfl ?_
            rintro _ ⟨⟩
            exact ⟨knows.holder, claim⟩
          · exact ended trivial
  | bootBroadcasting =>
      have marked : Rely id shared (shared.mark (.broadcast id)) := .mark rfl fun _ => nofun
      have sent : Sound spawned (shared.mark (.broadcast id)).trace :=
        sound.acted (not_withdrawnSince_of_unseen claim) (.inl rfl)
      have old : ∀ other outcome, .replied other (.ok outcome) ∈ (shared.mark (.broadcast id)).trace →
          .replied other (.ok outcome) ∈ shared.trace :=
        fun other outcome found => by simpa [Shared.mark] using found
      cases relayed : answer.relayed with
      | ok event =>
          simp only [advanceBoot, relayed]
          refine ⟨marked, sent, ?_, fun other given found => .inl (old other given found), .inl⟩
          rintro _ ⟨⟩
          exact ⟨knows.holder, fun seen => claim (by simpa [Shared.mark] using seen)⟩
      | error error =>
          simp only [advanceBoot, relayed]
          exact ⟨marked.trans (.unlock (still trivial)), sent, nofun,
            fun other given found => .inl (old other given found), .inl⟩
  | bootRecording event =>
      cases stored : answer.storeError with
      | some error =>
          simp only [advanceBoot, stored]
          exact ended trivial
      | none =>
          simp only [advanceBoot, stored]
          refine .silent ((Rely.write (still trivial) _).trans (.unlock (still trivial))) sound rfl
            (isPublished_recordEventId event) nofun
  | publish | snapshotting | probing | gate | deciding | refreshing | activating | broadcasting
  | recording | withdraw | leaving | withdrawing | retracting => exact .stay sound knows

/-- **A step of a task.** -/
theorem advance_owes {thread : Thread} (sound : Sound spawned shared.trace) (below : id < spawned)
    (knows : Knows shared id thread) :
    Owes spawned id thread shared (thread.advance listingId shared id answer).1
      (thread.advance listingId shared id answer).2 := by
  cases thread with
  | withdraw | leaving | withdrawing | retracting =>
      exact @withdraw_owes listingId spawned id shared answer _ sound knows
  | boot | bootRefreshing | bootReading | bootBroadcasting | bootRecording =>
      exact @boot_owes spawned id shared answer _ sound knows
  | publish | snapshotting | probing | gate | deciding | refreshing | activating | broadcasting
  | recording => exact @publish_owes listingId spawned id shared answer _ sound below knows

end Advance

/-! ### The outline -/

/-- The invariant of the shared state. -/
structure Steady (spawned : ℕ) (shared : Shared) : Prop where
  sound : Sound spawned shared.trace
  holder : ∀ id, shared.holder = some id → id < spawned

/-- A step that owes nothing more leaves the outline standing. -/
theorem Rely.passes {pool : Pool Shared Thread} {id spawned : ℕ} {shared : Shared}
    {next : Option Thread} (asserted : Asserted Steady Knows pool)
    (rely : Rely id pool.shared shared) (sound : Sound spawned shared.trace)
    (more : pool.spawned ≤ spawned) (below : id < spawned)
    (knows : ∀ thread, next = some thread → Knows shared id thread) :
    Passes Steady Knows pool id spawned shared next where
  invariant := by
    refine ⟨sound, fun other holds => ?_⟩
    by_cases same : other = id
    · exact same ▸ below
    · exact (asserted.invariant.holder other ((rely.holder other same).mpr holds)).trans_le more
  self := knows
  others other sibling different here := (asserted.thread other sibling here).rely rely different

theorem Sound.mono {spawned more : ℕ} {trace : List Mark} (sound : Sound spawned trace)
    (least : spawned ≤ more) : Sound more trace :=
  ⟨sound.uncrossed, sound.cleared, fun id seen => (sound.known id seen).trans_le least⟩

/-- **The proof outline** of the three verbs. -/
theorem publication_outline (listingId : ListingId) (row : Option Row) :
    Outline Steady Knows (publication listingId row) fun _ _ => True where
  start := by
    refine ⟨⟨fun id => ?_, nofun, nofun⟩, nofun⟩
    rintro ⟨_, _, _, within⟩
    cases within
  spawn pool request _ asserted := by
    have unseen : .snapshot pool.spawned ∉ pool.shared.trace :=
      fun seen => (asserted.invariant.sound.known _ seen).false
    have idle : pool.shared.holder ≠ some pool.spawned :=
      fun holds => (asserted.invariant.holder _ holds).false
    have sound := asserted.invariant.sound.mono (Nat.le_succ pool.spawned)
    have below := Nat.lt_succ_self pool.spawned
    cases request with
    | publish recipes acceptUnverified =>
        refine Rely.passes asserted (.mark rfl fun _ => nofun) (sound.quiet trivial)
          (Nat.le_succ _) below ?_
        rintro _ ⟨⟩
        exact ⟨iff_of_false (fun holds => holds) idle, .head _,
          fun seen => unseen (by simpa [publication, Shared.mark] using seen)⟩
    | withdraw recipes =>
        refine Rely.passes asserted (.refl _) sound (Nat.le_succ _) below ?_
        rintro _ ⟨⟩
        exact ⟨iff_of_false (fun holds => holds) idle, trivial⟩
    | republishOnBoot recipe =>
        refine Rely.passes asserted (.refl _) sound (Nat.le_succ _) below ?_
        rintro _ ⟨⟩
        exact ⟨iff_of_false (fun holds => holds) idle, unseen⟩
  advance pool id thread answer _ asserted found := by
    have below := asserted.known id thread found
    have owes := @advance_owes listingId pool.spawned id pool.shared answer thread
      asserted.invariant.sound below (asserted.thread id thread found)
    exact Rely.passes asserted owes.rely owes.sound le_rfl below owes.next
  drop pool id thread _ asserted found := by
    have below := asserted.known id thread found
    have sound := asserted.invariant.sound
    simp only [publication]
    split
    · rename_i held
      exact Rely.passes asserted (.unlock held) sound le_rfl below nofun
    · exact Rely.passes asserted (.refl _) sound le_rfl below nofun
  environment _ event := event.elim
  crash pool _ asserted := ⟨asserted.invariant.sound, nofun⟩

/-! ### The result -/

/-- The task runs the boot path. -/
def Thread.IsBoot : Thread → Prop
  | boot _ | bootRefreshing _ | bootReading | bootBroadcasting | bootRecording _ => True
  | _ => False

/-- **Publishing and withdrawing are apart** around one more choice of the scheduler. -/
structure Apart (before : Pool Shared Thread) (choice : Schedule Request Answer Empty)
    (after : Pool Shared Thread) : Prop where
  /-- No publish acts after a withdrawal that got the lock after its snapshot. -/
  uncrossed : ∀ id, ¬ Crossed after.shared.trace id
  /-- Only a publish that its own verdicts cleared brings the row to ACTIVE, and it marks it. -/
  raised : isPublished before.shared.row = false → isPublished after.shared.row = true →
    ∃ id, after.shared.trace = .activated id :: before.shared.trace ∧
      Cleared after.shared.trace id
  /-- The boot path does not. -/
  boot : ∀ id answer thread, choice = .advance id answer → before.threads.row id = some thread →
    thread.IsBoot → isPublished after.shared.row = true → isPublished before.shared.row = true
  /-- A publish that answers now agrees with the row it leaves. -/
  replies : ∀ id outcome, .replied id (.ok outcome) ∈ after.shared.trace →
    .replied id (.ok outcome) ∈ before.shared.trace ∨ Agrees outcome after.shared.row

/-- A choice that leaves the row, and answers nothing. -/
theorem Apart.frame {before after : Pool Shared Thread} {choice : Schedule Request Answer Empty}
    (sound : ∀ id, ¬ Crossed after.shared.trace id) (row : after.shared.row = before.shared.row)
    (replies : ∀ id outcome, .replied id (.ok outcome) ∈ after.shared.trace →
      .replied id (.ok outcome) ∈ before.shared.trace) : Apart before choice after where
  uncrossed := sound
  raised hidden active := by
    rw [row, hidden] at active
    cases active
  boot _ _ _ _ _ _ active := row ▸ active
  replies id outcome found := .inl (replies id outcome found)

/-- **Publishing a listing and withdrawing it cannot cross**, in any interleaving. -/
theorem publish_withdraw_apart (listingId : ListingId) (row : Option Row)
    (choices : List (Schedule Request Answer Empty)) (choice : Schedule Request Answer Empty) :
    Apart ((publication listingId row).machine.run choices) choice
      ((publication listingId row).step ((publication listingId row).machine.run choices) choice) := by
  have outline := publication_outline listingId row
  have asserted := outline.always choices
  generalize (publication listingId row).machine.run choices = before at asserted
  have sound := (outline.step before choice trivial asserted).invariant.sound.uncrossed
  cases choice with
  | spawn request =>
      refine .frame sound ?_ ?_
      · cases request <;> rfl
      · intro id outcome found
        cases request <;> simpa [Program.step, publication, Shared.mark] using found
  | advance id answer =>
      cases found : before.threads.row id with
      | none =>
          simp only [Program.step, found] at sound ⊢
          exact .frame sound rfl fun _ _ here => here
      | some thread =>
          have owes := @advance_owes listingId before.spawned id before.shared answer thread
            asserted.invariant.sound (asserted.known id thread found)
            (asserted.thread id thread found)
          simp only [Program.step, found] at sound ⊢
          refine ⟨sound, fun hidden active => ?_, fun other given task same here isBoot active => ?_,
            owes.replies⟩
          · obtain already | ⟨trace, -⟩ := owes.raises active
            · rw [hidden] at already
              cases already
            · exact ⟨id, trace, owes.sound.cleared id (trace ▸ .head _)⟩
          · cases same
            rw [found] at here
            cases here
            obtain already | ⟨-, unverified, rfl⟩ := owes.raises active
            · exact already
            · exact isBoot.elim
  | drop id =>
      cases found : before.threads.row id with
      | none =>
          simp only [Program.step, found] at sound ⊢
          exact .frame sound rfl fun _ _ here => here
      | some thread =>
          simp only [Program.step, found, publication] at sound ⊢
          split_ifs at sound ⊢ <;> exact .frame sound rfl fun _ _ here => here
  | environment event => exact event.elim
  | crash => exact .frame sound rfl fun _ _ here => here

end Lnrent.Listing
