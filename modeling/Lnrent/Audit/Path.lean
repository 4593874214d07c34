/-
**Every trail is a path of the lifecycle.** For a fixed subscription:

* `Audited` — its trail is a path of the lifecycle, and ends in the state its row has;
* `Audited.noted`, `Audited.reap` — what a step notes keeps that, and so does a reap, which cuts a
  trail only at the front: the guards of the reaper are closed under later entries;
* `Whole` — the trail begins with the placing of the order;
* `FrontCut` — a reap cuts a trail at its front, nothing else takes an entry away;
* `audited_run` — **every trail is audited in every state reached**, and whole if nothing was reaped.
-/

import Lnrent.Audit.Trail

namespace Lnrent.Audit

open Relational Transition Capture Reconcile OrderIntake

/-- The later entry starts where the earlier one left. -/
def Follows (early late : EventRow) : Prop :=
  ∃ state ∈ early.kind.leaves, late.kind.Takes state

/-- **An audited subscription**: its trail is a path of the lifecycle in the order of time, and ends
in the state of its row. A refund that was paid is the one move without an entry. -/
structure Audited (id : OrderId) (store : Store) : Prop where
  path : (trail store.eventLog id).IsChain Follows
  dated : (trail store.eventLog id).Pairwise fun early late => early.time ≤ late.time
  current : ∀ event ∈ (trail store.eventLog id).getLast?,
    store.stateOf id = event.kind.leaves ∨
      event.kind = .provisionFailed ∧ store.stateOf id = some .refunded

/-- **A whole trail**: it begins with the placing of the order, and a subscription without one has no
row. -/
structure Whole (id : OrderId) (store : Store) : Prop where
  begins : ∀ event ∈ (trail store.eventLog id).head?, event.kind = .orderPlaced
  absent : trail store.eventLog id = [] → store.stateOf id = none

/-! ### A noted step -/

section Step

variable {id : OrderId} {before after : Store} {now : ℤ}

theorem names_of_mem {log : Journal EventRow} {event : EventRow} (member : event ∈ trail log id) :
    Names id event := by
  obtain ⟨_, _, names⟩ := Journal.mem_select.mp member
  exact names

theorem not_takes_refunded (kind : EventKind) : ¬ kind.Takes .refunded := by
  cases kind <;> simp [EventKind.Takes]

theorem leaves_refundDue {kind : EventKind} (leaves : kind.leaves = some .refundDue) :
    kind = .provisionFailed := by
  cases kind <;> simp [EventKind.leaves] at leaves ⊢

/-- A subscription without a row has no trail. -/
theorem Audited.nothing (audited : Audited id before) (absent : before.stateOf id = none) :
    trail before.eventLog id = [] := by
  rw [← List.getLast?_eq_none_iff]
  by_contra some_
  obtain ⟨event, last⟩ := Option.ne_none_iff_exists'.mp some_
  have names : Names id event := names_of_mem (List.mem_of_getLast? last)
  rcases audited.current event last with state | ⟨-, state⟩
  · exact names.2 (state.symm.trans absent)
  · rw [absent] at state
    exact Option.some_ne_none _ state.symm

/-- **A noted step** keeps the trail audited, in the past. -/
theorem Audited.noted (audited : Audited id before)
    (past : ∀ event ∈ trail before.eventLog id, event.time ≤ now)
    (noted : Noted id now before after) : Audited id after := by
  cases noted with
  | quiet quiet => exact ⟨quiet.trail ▸ audited.path, quiet.trail ▸ audited.dated, by
      rw [quiet.trail, quiet.state]; exact audited.current⟩
  | @moved state event was takes left there stamped noted =>
      constructor
      · rw [noted]
        refine audited.path.append (List.isChain_singleton _) fun early last late first => ?_
        obtain rfl := Option.some.inj first
        rcases audited.current early last with leaves | ⟨-, refunded⟩
        · exact ⟨state, leaves.symm.trans was, takes⟩
        · obtain rfl := Option.some.inj (was.symm.trans refunded)
          exact absurd takes (not_takes_refunded _)
      · rw [noted]
        refine List.pairwise_append.mpr ⟨audited.dated, List.pairwise_singleton _ _, ?_⟩
        intro early member late same
        rw [List.mem_singleton.mp same, stamped]
        exact past early member
      · intro last member
        rw [noted, List.getLast?_concat] at member
        obtain rfl := Option.some.inj member
        exact .inl left.symm
  | @placed event absent order pending stamped noted =>
      rw [audited.nothing absent, List.nil_append] at noted
      refine ⟨noted ▸ List.isChain_singleton _, noted ▸ List.pairwise_singleton _ _, ?_⟩
      intro last member
      rw [noted] at member
      have same : event = last := Option.some.inj member
      rw [pending, ← same, order]
      exact .inl rfl
  | refunded was paid same =>
      refine ⟨same ▸ audited.path, same ▸ audited.dated, fun event last => .inr ⟨?_, paid⟩⟩
      rw [same] at last
      rcases audited.current event last with state | ⟨failed, -⟩
      · exact leaves_refundDue (state.symm.trans was)
      · exact failed

/-- What a step notes is in the past. -/
theorem Noted.past (noted : Noted id now before after)
    (past : ∀ event ∈ trail before.eventLog id, event.time ≤ now) :
    ∀ event ∈ trail after.eventLog id, event.time ≤ now := by
  cases noted with
  | quiet quiet => exact quiet.trail ▸ past
  | refunded _ _ same => exact same ▸ past
  | @moved _ event _ _ _ _ stamped noted | @placed event _ _ _ stamped noted =>
      intro other member
      rw [noted] at member
      rcases List.mem_append.mp member with old | new
      · exact past other old
      · rw [List.mem_singleton.mp new]
        omega

/-- A noted step keeps a trail whole. -/
theorem Whole.noted (whole : Whole id before) (audited : Audited id before)
    (noted : Noted id now before after) : Whole id after := by
  cases noted with
  | quiet quiet => exact ⟨quiet.trail ▸ whole.begins, by rw [quiet.trail, quiet.state]; exact whole.absent⟩
  | @moved state event was _ _ _ _ noted =>
      refine ⟨fun first member => ?_, fun nothing => ?_⟩
      · rw [noted, List.head?_append] at member
        cases old : (trail before.eventLog id).head? with
        | none =>
            rw [whole.absent (List.head?_eq_none_iff.mp old)] at was
            cases was
        | some begins =>
            rw [old, Option.some_or] at member
            exact whole.begins first (old.trans member)
      · rw [noted] at nothing
        exact absurd nothing (List.append_ne_nil_of_right_ne_nil _ (List.cons_ne_nil _ _))
  | @placed event absent order _ _ noted =>
      rw [audited.nothing absent, List.nil_append] at noted
      refine ⟨fun first member => ?_, fun nothing => ?_⟩
      · rw [noted] at member
        rw [← show event = first from Option.some.inj member]
        exact order
      · rw [noted] at nothing
        exact absurd nothing (List.cons_ne_nil _ _)
  | refunded was _ same =>
      refine ⟨same ▸ whole.begins, fun nothing => ?_⟩
      rw [same] at nothing
      rw [whole.absent nothing] at was
      cases was

end Step

/-! ### The reaper -/

section Reap

variable {id : OrderId} {store : Store}

/-- Nothing but renewals follows a renewal that no later entry resolves. -/
theorem renewal_carries (early late : EventRow) (follows : Follows early late)
    (renewal : early.kind = .renewResume)
    (unresolved : late.kind ≠ .resumeActive ∧ late.kind ≠ .resumeFailed) :
    late.kind = .renewResume := by
  obtain ⟨state, leaves, takes⟩ := follows
  rw [renewal] at leaves
  obtain rfl := Option.some.inj leaves
  cases kind : late.kind <;> simp_all [EventKind.Takes]

/-- **The guards are closed under later entries**: with an entry of a trail the reaper keeps all that
come after it. -/
theorem Audited.kept_later (audited : Audited id store) {cutoff : ℤ} {early late : ℕ}
    {event later : EventRow} (before : early < late)
    (found : store.eventLog.rows.row early = some event) (names : Names id event)
    (kept : ¬ Maintenance.ReapsEvent store cutoff early event)
    (found' : store.eventLog.rows.row late = some later) (names' : Names id later) :
    ¬ Maintenance.ReapsEvent store cutoff late later := by
  rintro ⟨old, -, -, unguarded⟩
  obtain ⟨front, rest, isSplit, behind⟩ := Journal.select_split found names
  have split : trail store.eventLog id = front ++ event :: rest := isSplit
  have member : later ∈ rest := (behind later).mpr ⟨late, before, found', names'⟩
  have path : (event :: rest).IsChain Follows := (split ▸ audited.path).right_of_append
  have dated := (List.pairwise_append.mp (split ▸ audited.dated)).2.1
  have order : event.time ≤ later.time := (List.pairwise_cons.mp dated).1 later member
  have silent {kind : EventKind} (is : event.kind = kind) (leaves : kind.leaves = none) : False :=
    names.2 (is ▸ leaves)
  refine kept ⟨order.trans_lt old, ?_, fun cleanup => silent cleanup.1 rfl, fun guarded => ?_⟩
  · by_contra settles
    exact names.2 (leaves_of_settleRefund (Bool.not_eq_false _ ▸ settles))
  · -- the entry is guarded as the baseline of a resume, so the later one is
    obtain ⟨renewal, resuming, unresolved⟩ := guarded
    have open_ : ∀ other ∈ rest, other.kind ≠ .resumeActive ∧ other.kind ≠ .resumeFailed := by
      intro other member
      obtain ⟨key, past, there, owned, -⟩ := (behind other).mp member
      have resolves (resolved : other.kind = .resumeActive ∨ other.kind = .resumeFailed) : False :=
        unresolved ⟨key, other, there, past, id, names.1, owned, resolved⟩
      exact ⟨fun active => resolves (.inl active), fun failed => resolves (.inr failed)⟩
    refine unguarded ⟨chain_carries renewal_carries path renewal open_ later member, ?_, ?_⟩
    · rw [names'.1, ← names.1]
      exact resuming
    · rintro ⟨key, resolution, there, past, owner, owned, resolves⟩
      rw [names'.1, ← names.1] at owned
      exact unresolved ⟨key, resolution, there, before.trans past, owner, owned, resolves⟩

/-- **A reap cuts a trail at the front only.** -/
theorem Audited.reap_suffix (audited : Audited id store) (cutoff : ℤ) :
    trail (Maintenance.reapTerminalRows store cutoff).eventLog id <:+ trail store.eventLog id :=
  store.eventLog.select_delete_suffix (Maintenance.ReapsEvent store cutoff)
    fun _ _ _ _ before found names kept found' names' =>
      audited.kept_later before found names kept found' names'

theorem Audited.reap (audited : Audited id store) (cutoff : ℤ) :
    Audited id (Maintenance.reapTerminalRows store cutoff) := by
  have suffix := audited.reap_suffix cutoff
  refine ⟨audited.path.suffix suffix, audited.dated.sublist suffix.sublist, fun event last => ?_⟩
  obtain ⟨key, survives, owned, -⟩ := Journal.mem_select.mp (List.mem_of_getLast? last)
  have state : (Maintenance.reapTerminalRows store cutoff).stateOf id = store.stateOf id := by
    unfold Store.stateOf
    rw [Reaper.reap_subscription_of_event survives owned]
  rw [state]
  refine audited.current event ?_
  obtain ⟨front, same⟩ := suffix
  rw [← same, List.getLast?_append, show _ = some event from last, Option.some_or]
  rfl

end Reap

/-! ### Every run -/

/-- What a delivery remembers of the time is in the past. -/
def Stamped (clock : ℤ) : Phase → Prop
  | .reserving now _ | .issuing now _ => now ≤ clock
  | .committing write => write.now ≤ clock
  | _ => True

theorem stamped_settle (clock now : ℤ) (release : Bool) (reply : Msg) :
    Stamped clock (settle release now reply) := by
  unfold settle
  split_ifs <;> trivial

section Advanced

variable {id : OrderId} {intake : Intake} {clock : ℤ} {key : RequestKey} {request : OrderRequest}
  {store after : Store} {phase : Phase}

theorem advanced_stamped {next : Phase}
    (advanced : Advanced intake clock key request store phase (some next) after)
    (stamped : Stamped clock phase) : Stamped clock next := by
  cases advanced with
  | admitted => exact le_rfl
  | kept | held | issued => exact stamped
  | duplicate | knownFailure | failed => exact stamped_settle ..
  | _ => trivial

/-- A step of a delivery places its order, or changes nothing. -/
theorem advanced_noted {next : Option Phase}
    (advanced : Advanced intake clock key request store phase next after)
    (stamped : Stamped clock phase) : Noted id clock store after := by
  cases advanced with
  | held =>
      refine .quiet (Quiet.logged ?_ ?_)
      · exact .of_tables rfl rfl
      · rfl
  | @placed write _ _ _ _ free =>
      have absent : store.subscription.row write.key = none :=
        not_not.mp fun taken => free (.inl taken)
      have state : (write.place store).stateOf id =
          if id = write.key then some .pending else store.stateOf id :=
        stateOf_put (show (write.place store).subscription =
          store.subscription.put write.key write.subscription from rfl)
      have logged : trail (write.place store).eventLog id = trail store.eventLog id ++
          if Names id ⟨some write.key, .orderPlaced, { externalId := some (.order write.key) }, write.now⟩
          then [⟨some write.key, .orderPlaced, { externalId := some (.order write.key) }, write.now⟩]
          else [] := Journal.select_append _ _
      by_cases own : id = write.key
      · rw [if_pos own] at state
        rw [if_pos ⟨by rw [own], Option.some_ne_none _⟩] at logged
        refine .placed ?_ ?_ state ?_ logged
        · rw [own, Store.stateOf, absent, Option.map_none]
        · rfl
        · exact stamped
      · rw [if_neg own] at state
        rw [if_neg fun names => own (Option.some.inj names.1).symm, List.append_nil] at logged
        exact .quiet ⟨state, logged⟩
  | withdrawn => exact .quiet ((Quiet.release ..).trans (.cacheReply ..))
  | holdLost | failed => exact .quiet (.cacheReply ..)
  | released => exact .quiet (.release ..)
  | _ => exact .refl ..

end Advanced

/-- **What holds of one subscription in every world the daemon reaches.** -/
structure Recorded (id : OrderId) (world : World) : Prop where
  audited : Audited id world.store
  past : ∀ event ∈ trail world.store.eventLog id, event.time ≤ world.clock
  phases : ∀ slot delivery, world.deliveries.row slot = some delivery →
    Stamped world.clock delivery.phase

theorem Stamped.mono {clock later : ℤ} {phase : Phase} (stamped : Stamped clock phase)
    (least : clock ≤ later) : Stamped later phase := by
  cases phase with
  | reserving | issuing | committing => exact le_trans stamped least
  | _ => trivial

/-- A step of a delivery, in the slot it is in. -/
theorem stepped_noted {id : OrderId} {intake : Intake} {world next : World} {slot : ℕ}
    (stepped : world.Stepped intake slot next) (recorded : Recorded id world) :
    Noted id world.clock world.store next.store := by
  cases stepped with
  | idle | replied => exact .refl ..
  | moved found advanced | ended found advanced =>
      exact advanced_noted advanced (recorded.phases _ _ found)

/-- Every step but a reap notes what it moves. -/
theorem step_noted {id : OrderId} (intake : Intake) {world : World} {action : Action}
    (kept : action ≠ .reap) (recorded : Recorded id world) :
    Noted id world.clock world.store (world.step intake action).store := by
  cases action with
  | wait | crash => exact .refl ..
  | boot =>
      simp only [World.step]
      split_ifs
      · exact .refl ..
      · exact .quiet ⟨restart_stateOf .., by rw [Billing.restart_eventLog]⟩
  | deliver =>
      simp only [World.step]
      split_ifs
      · exact .refl ..
      · exact .refl ..
  | advance slot issued =>
      simp only [World.step]
      split_ifs
      · exact stepped_noted (world.advance_stepped intake slot issued) recorded
      · exact .refl ..
  | _ =>
      simp only [World.step]
      split_ifs
      · exact transacted_noted kept (transact_transacted intake.recipe world.store world.clock _)
      · exact .refl ..

theorem step_phases {id : OrderId} (intake : Intake) {world : World} (action : Action)
    (recorded : Recorded id world) : ∀ slot delivery,
      (world.step intake action).deliveries.row slot = some delivery →
      Stamped (world.step intake action).clock delivery.phase := by
  intro slot delivery found
  cases action with
  | wait seconds => exact (recorded.phases slot delivery found).mono (by simp [World.step])
  | crash => cases found
  | boot =>
      simp only [World.step] at found ⊢
      split_ifs at found ⊢ <;> exact recorded.phases slot delivery found
  | deliver other key request =>
      simp only [World.step] at found ⊢
      split_ifs at found ⊢
      · rw [Table.put_row] at found
        split_ifs at found
        · cases found
          trivial
        · exact recorded.phases slot delivery found
      · exact recorded.phases slot delivery found
  | advance other issued =>
      simp only [World.step] at found ⊢
      split_ifs at found ⊢
      · have stepped := world.advance_stepped intake other issued
        rw [(world.advance_frame intake other issued).1]
        generalize world.advance intake other issued = next at stepped found
        cases stepped with
        | idle => exact recorded.phases slot delivery found
        | replied _ _ | ended _ _ =>
            exact recorded.phases slot delivery
              ((world.deliveries.delete_row_eq_some _ slot delivery).mp found).1
        | moved there advanced =>
            rw [Table.put_row] at found
            split_ifs at found
            · cases found
              exact advanced_stamped advanced (recorded.phases _ _ there)
            · exact recorded.phases slot delivery found
      · exact recorded.phases slot delivery found
  | _ =>
      simp only [World.step] at found ⊢
      split_ifs at found ⊢ <;> exact recorded.phases slot delivery found

theorem step_clock (intake : Intake) (world : World) (action : Action) :
    world.clock ≤ (world.step intake action).clock := by
  cases action with
  | wait seconds => simp [World.step]
  | advance slot issued =>
      simp only [World.step]
      split_ifs
      · exact (world.advance_frame intake slot issued).1.ge
      · exact le_rfl
  | _ =>
      simp only [World.step]
      first | exact le_rfl | (split_ifs <;> exact le_rfl)

/-- **Every step keeps the record.** -/
theorem recorded_step {id : OrderId} (intake : Intake) (world : World) (action : Action)
    (recorded : Recorded id world) : Recorded id (world.step intake action) := by
  have phases := step_phases intake action recorded
  by_cases reap : action = .reap
  · subst reap
    simp only [World.step] at phases ⊢
    split_ifs at phases ⊢
    · refine ⟨recorded.audited.reap _, fun event member => ?_, phases⟩
      exact recorded.past event ((recorded.audited.reap_suffix _).subset member)
    · exact recorded
  · have noted := step_noted intake reap recorded
    refine ⟨recorded.audited.noted recorded.past noted, fun event member => ?_, phases⟩
    exact (noted.past recorded.past event member).trans (step_clock intake world action)

theorem recorded_fresh (id : OrderId) (clock : ℤ) : Recorded id (World.fresh clock) where
  audited := ⟨List.isChain_nil, List.Pairwise.nil, fun _ last => by cases last⟩
  past _ member := absurd member List.not_mem_nil
  phases _ _ found := by cases found

theorem whole_fresh {id : OrderId} {clock : ℤ} :
    Recorded id (World.fresh clock) ∧ Whole id (World.fresh clock).store := by
  refine ⟨recorded_fresh id clock, ?_, fun _ => rfl⟩
  intro _ member
  cases member

/-- **How a step changes a trail**: a reap cuts it at its front, any other step only appends. -/
structure FrontCut (id : OrderId) (intake : Intake) (world : World) : Prop where
  reaped : trail (world.step intake .reap).store.eventLog id <:+ trail world.store.eventLog id
  appends : ∀ action, action ≠ .reap →
    trail world.store.eventLog id <+: trail (world.step intake action).store.eventLog id

theorem Noted.trail_grows {id : OrderId} {now : ℤ} {before after : Store}
    (noted : Noted id now before after) : trail before.eventLog id <+: trail after.eventLog id := by
  cases noted with
  | quiet quiet => rw [quiet.trail]
  | moved _ _ _ _ _ noted | placed _ _ _ _ noted =>
      rw [noted]
      exact List.prefix_append _ _
  | refunded _ _ same => rw [same]

theorem Recorded.frontCut {id : OrderId} {world : World} (recorded : Recorded id world)
    (intake : Intake) : FrontCut id intake world where
  reaped := by
    simp only [World.step]
    split_ifs
    · exact recorded.audited.reap_suffix _
    · exact List.suffix_rfl
  appends _ kept := (step_noted intake kept recorded).trail_grows

/-- **Every trail is audited** in every state reached: the entries that announce the moves of a
subscription are a path of the lifecycle in the order of time, and end in the state its row has. From
there a reap only cuts the trail at its front, and nothing else takes an entry of it away. In a run
without a reap the path begins with the placing of the order, and a subscription without one has no
row. -/
theorem audited_run (intake : Intake) (clock : ℤ) (actions : List Action) (id : OrderId) :
    Audited id ((daemon intake (World.fresh clock)).run actions).store ∧
      FrontCut id intake ((daemon intake (World.fresh clock)).run actions) ∧
      ((daemon intake (World.fresh clock)).Meets (fun _ action => action ≠ .reap) actions →
        Whole id ((daemon intake (World.fresh clock)).run actions).store) := by
  have recorded : Recorded id ((daemon intake (World.fresh clock)).run actions) :=
    (daemon intake (World.fresh clock)).invariant (recorded_fresh id clock)
      (fun world action recorded => recorded_step intake world action recorded) actions
  refine ⟨recorded.audited, recorded.frontCut intake, fun kept => ?_⟩
  have both := (daemon intake (World.fresh clock)).invariant_of_meets whole_fresh
    (fun world action kept (holds : Recorded id world ∧ Whole id world.store) =>
      ⟨recorded_step intake world action holds.1,
        holds.2.noted holds.1.audited (step_noted intake kept holds.1)⟩) actions kept
  exact both.2

end Lnrent.Audit
