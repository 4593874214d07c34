/-
**The state of a subscription and the state of its hold.** Every run of the daemon from a fresh
database, with re-deliveries and re-sends of any request, of any age and with any body.

* `Agreement` — HELD until the order serves, CONSUMED while it does, RELEASED once it ended;
* `Working`, `Guarded` — a delivery past admission works on the hold of its order; it must still find
  the order's invoice cached if there is a subscription;
* `Heeded` — no step lets a delivery lose sight of the order it works on: a delivery is admitted for an
  existing order only while the invoice is cached, and no retention forgets that reply, or the hold,
  under it;
* `capacity_agreement` — **the states agree in every run of such steps**;
* `resent_order_releases` — a request that is sent again after the reply was pruned takes the hold
  from an ACTIVE subscription.
-/

import Lnrent.Capacity.OneOrder

namespace Lnrent.Capacity

open Relational Transition OrderIntake

/-! ### The agreement -/

/-- PENDING, PROVISIONING or REFUND_DUE: the hold waits for the order. -/
def Awaiting (state : SubState) : Prop :=
  state = .pending ∨ state = .provisioning ∨ state = .refundDue

/-- **The hold is in the state its subscription needs.** -/
structure Agreement (view : View) : Prop where
  awaiting : ∀ state, view.state = some state → Awaiting state → Held view
  serving : ∀ state, view.state = some state → Serving state →
    ∃ row, view.hold = some row ∧ row.state = .consumed
  ended : ∀ state, view.state = some state → Maintenance.Terminal state →
    ∀ row, view.hold = some row → row.state = .released

/-- The columns agree, and no hold is CONSUMED without a subscription. -/
structure Agreed (view : View) : Prop extends Agreement view where
  absent : view.state = none → ∀ row, view.hold = some row → row.state ≠ .consumed

theorem SubState.sorts (state : SubState) :
    Awaiting state ∨ Serving state ∨ Maintenance.Terminal state := by
  cases state <;> simp [Awaiting, Serving, Maintenance.Terminal]

theorem Agreed.of_none {view : View} (none_ : view.state = none)
    (unconsumed : ∀ row, view.hold = some row → row.state ≠ .consumed) : Agreed view where
  awaiting _ is := absurd (none_.symm.trans is) nofun
  serving _ is := absurd (none_.symm.trans is) nofun
  ended _ is := absurd (none_.symm.trans is) nofun
  absent _ := unconsumed

theorem Agreed.of_awaiting {view : View} {state : SubState} (is : view.state = some state)
    (awaiting : Awaiting state) (held : Held view) : Agreed view where
  awaiting _ _ _ := held
  serving other is' serving := by
    obtain rfl := Option.some.inj (is.symm.trans is')
    obtain rfl | rfl | rfl := awaiting <;> exact absurd serving (by decide)
  ended other is' ended := by
    obtain rfl := Option.some.inj (is.symm.trans is')
    obtain rfl | rfl | rfl := awaiting <;> exact absurd ended (by decide)
  absent none_ := absurd (is.symm.trans none_) nofun

theorem Agreed.of_serving {view : View} {state : SubState} (is : view.state = some state)
    (serving : Serving state) {row : ReservationRow} (found : view.hold = some row)
    (consumed : row.state = .consumed) : Agreed view where
  awaiting other is' awaiting := by
    obtain rfl := Option.some.inj (is.symm.trans is')
    obtain rfl | rfl | rfl := awaiting <;> exact absurd serving (by decide)
  serving _ _ _ := ⟨row, found, consumed⟩
  ended other is' ended := by
    obtain rfl := Option.some.inj (is.symm.trans is')
    obtain rfl | rfl | rfl := ended <;> exact absurd serving (by decide)
  absent none_ := absurd (is.symm.trans none_) nofun

theorem Agreed.of_ended {view : View} {state : SubState} (is : view.state = some state)
    (ended : Maintenance.Terminal state)
    (released : ∀ row, view.hold = some row → row.state = .released) : Agreed view where
  awaiting other is' awaiting := by
    obtain rfl := Option.some.inj (is.symm.trans is')
    obtain rfl | rfl | rfl := awaiting <;> exact absurd ended (by decide)
  serving other is' serving := by
    obtain rfl := Option.some.inj (is.symm.trans is')
    obtain rfl | rfl | rfl := ended <;> exact absurd serving (by decide)
  ended _ _ _ := released
  absent none_ := absurd (is.symm.trans none_) nofun

/-- The agreement reads two of the columns. -/
theorem Agreed.congr {before after : View} (agreed : Agreed before) (state : after.state = before.state)
    (hold : after.hold = before.hold) : Agreed after where
  awaiting := by
    unfold Held
    rw [state, hold]
    exact agreed.awaiting
  serving := by
    rw [state, hold]
    exact agreed.serving
  ended := by
    rw [state, hold]
    exact agreed.ended
  absent := by
    rw [state, hold]
    exact agreed.absent

/-- A HELD hold of an existing order is one that waits for it. -/
theorem Agreed.awaits {view : View} {state : SubState} {row : ReservationRow} (agreed : Agreed view)
    (is : view.state = some state) (found : view.hold = some row) (held : row.state = .held) :
    Awaiting state := by
  obtain awaiting | serving | ended := SubState.sorts state
  · exact awaiting
  · obtain ⟨other, found', consumed⟩ := agreed.serving state is serving
    cases found.symm.trans found'
    exact absurd (held.symm.trans consumed) nofun
  · exact absurd (held.symm.trans (agreed.ended state is ended row found)) nofun

/-! ### The deliveries that work on a hold -/

/-- **Past admission**: what the delivery does next may change the hold of its order. -/
def Working : Phase → Prop
  | .reserving _ _ | .issuing _ _ | .committing _ | .failing true _ | .releasing _ _ => True
  | _ => False

instance (phase : Phase) : Decidable (Working phase) := by
  unfold Working
  split <;> infer_instance

/-- The delivery is about to release the hold. -/
def Releasing : Phase → Prop
  | .releasing _ _ => True
  | _ => False

instance (phase : Phase) : Decidable (Releasing phase) := by
  unfold Releasing
  split <;> infer_instance

/-- The order still shows that it was placed. -/
def Evident (view : View) : Prop := Invoiced view ∧ view.hold ≠ none

/-- The request was refused, and the refusal is cached. -/
def Refused (view : View) : Prop :=
  ∃ row, view.cached = some row ∧ row.response.isOrderInvoice = false

theorem Refused.not_invoiced {view : View} (refused : Refused view) : ¬ Invoiced view := by
  rintro ⟨row, cached, invoiced⟩
  obtain ⟨other, cached', refused⟩ := refused
  cases cached.symm.trans cached'
  exact absurd (invoiced.symm.trans refused) nofun

/-- **What a delivery may rely on.** -/
structure Guarded (view : View) (phase : Phase) : Prop where
  evident : Working phase → view.state ≠ none → Evident view
  refused : Releasing phase → view.state = none ∧ Refused view

theorem Guarded.idle {view : View} {phase : Phase} (idle : ¬ Working phase) : Guarded view phase where
  evident working := absurd working idle
  refused releasing := by
    cases phase with
    | releasing => exact absurd trivial idle
    | _ => exact releasing.elim

/-- A delivery that works on its hold, and does not release it yet. -/
theorem Guarded.working {view : View} {phase : Phase} (keeps : ¬ Releasing phase)
    (evident : view.state ≠ none → Evident view) : Guarded view phase :=
  ⟨fun _ => evident, fun releasing => absurd releasing keeps⟩

theorem guarded_settle {view : View} {release : Bool} {now : ℤ} {row : InboundRow}
    (cached : view.cached = some row) (evident : release = true → view.state ≠ none → Evident view) :
    Guarded view (settle release now row.response) := by
  unfold settle
  split_ifs with refuses
  · have refused : Refused view := ⟨row, cached, refuses.2⟩
    have none_ : view.state = none := by
      by_contra exists_
      exact refused.not_invoiced (evident refuses.1 exists_).1
    exact ⟨fun _ exists_ => absurd none_ exists_, fun _ => ⟨none_, refused⟩⟩
  · exact .idle not_false

/-! ### A step of a delivery -/

section Handled

variable {key : RequestKey} {clock : ℤ} {phase other : Phase} {next : Option Phase}
  {before after : View}

/-- **A guarded delivery leaves the states in agreement.** -/
theorem Handled.agreed (handled : Handled clock phase before next after) (guarded : Guarded before phase)
    (agreed : Agreed before) : Agreed after := by
  cases handled with
  | @held _ now listing row open_ isHeld expiry =>
      cases state : before.state with
      | none =>
          refine .of_none rfl ?_
          rintro _ ⟨⟩
          rw [isHeld]
          nofun
      | some is =>
          have exists_ : before.state ≠ none := by
            rw [state]
            nofun
          obtain ⟨old, found⟩ := Option.ne_none_iff_exists'.mp (guarded.evident trivial exists_).2
          exact .of_awaiting rfl (agreed.awaits state found (open_ old found)) ⟨row, rfl, isHeld⟩
  | @placed _ write row unanswered found open_ unordered =>
      refine .of_awaiting rfl (.inl rfl) ⟨_, rfl, ?_⟩
      show row.state = .held
      cases state : row.state with
      | held => rfl
      | consumed => exact absurd state (agreed.absent unordered row found)
      | released => exact absurd state open_
  | withdrawn write unanswered =>
      have none_ : before.state = none := by
        by_contra exists_
        obtain ⟨row, cached, -⟩ := (guarded.evident trivial exists_).1
        exact absurd (cached.symm.trans unanswered) nofun
      refine .of_none none_ fun row found => ?_
      obtain ⟨old, -, rfl⟩ := Option.map_eq_some_iff.mp found
      nofun
  | released now reply =>
      refine .of_none (guarded.refused trivial).1 fun row found => ?_
      obtain ⟨old, -, rfl⟩ := Option.map_eq_some_iff.mp found
      nofun
  | holdLost | failed => exact agreed.congr rfl rfl
  | _ => exact agreed

/-- A step of a delivery changes an order's state only by placing it, which leaves it evident. -/
theorem Handled.state (handled : Handled clock phase before next after) (owned : Owned key phase) :
    after.state = before.state ∨ before.cached = none ∧ Evident after := by
  cases handled with
  | @placed _ write row unanswered =>
      exact .inr ⟨unanswered, ⟨_, rfl, (owned write rfl).2⟩, nofun⟩
  | _ => exact .inl rfl

/-- A hold does not disappear. -/
theorem Handled.hold (handled : Handled clock phase before next after) (exists_ : before.hold ≠ none) :
    after.hold ≠ none := by
  cases handled with
  | held | placed => nofun
  | withdrawn | released => simpa using exists_
  | _ => exact exists_

theorem Handled.evident (handled : Handled clock phase before next after) (evident : Evident before) :
    Evident after := by
  obtain ⟨⟨row, cached, invoiced⟩, exists_⟩ := evident
  exact ⟨⟨row, handled.cached row cached, invoiced⟩, handled.hold exists_⟩

/-- **The step of one delivery leaves the others guarded.** -/
theorem Handled.guards (handled : Handled clock phase before next after) (owned : Owned key phase)
    (guarded : Guarded before other) : Guarded after other where
  evident working exists_ := by
    obtain same | ⟨-, evident⟩ := handled.state owned
    · exact handled.evident (guarded.evident working (same ▸ exists_))
    · exact evident
  refused releasing := by
    obtain ⟨none_, row, cached, refused⟩ := guarded.refused releasing
    obtain same | ⟨unanswered, -⟩ := handled.state owned
    · exact ⟨same.trans none_, row, handled.cached row cached, refused⟩
    · exact absurd (cached.symm.trans unanswered) nofun

/-- **The delivery itself stays guarded**, but for the step that admits it. -/
theorem Handled.guarded {next : Phase} (handled : Handled clock phase before (some next) after)
    (owned : Owned key phase) (guarded : Guarded before phase) (admitted : phase ≠ .admitting) :
    Guarded after next := by
  have kept := handled.guards owned guarded
  generalize isNext : some next = result at handled
  cases handled with
  | unreserved => cases isNext
  | refused | admitted => exact absurd rfl admitted
  | answered | fresh | placed | withdrawn | holdLost | released | replying =>
      cases isNext
      exact .idle not_false
  | full | kept | held | unissued | issued | conflicted =>
      cases isNext
      exact .working not_false (kept.evident trivial)
  | duplicate write found =>
      cases isNext
      exact guarded_settle found fun _ => kept.evident trivial
  | knownFailure release error found =>
      cases isNext
      refine guarded_settle found ?_
      rintro rfl
      exact kept.evident trivial
  | failed release error absent =>
      cases isNext
      refine @guarded_settle _ release clock (refusal error clock) rfl ?_
      rintro rfl
      exact kept.evident trivial

end Handled

/-! ### The other transactions -/

section Shift

variable {key : RequestKey} {action : Action} {before after : View}

/-- **A transaction leaves the states in agreement.** -/
theorem Shift.agreed (shift : Shift key action before after) (agreed : Agreed before) :
    Agreed after := by
  cases shift with
  | stays => exact agreed
  | served was kept keeps =>
      obtain ⟨row, found, consumed⟩ := agreed.serving _ was kept
      exact .of_serving rfl keeps found consumed
  | settled => exact agreed.congr rfl rfl
  | provisioned settles was => exact .of_awaiting rfl (.inr (.inl rfl)) (agreed.awaiting _ was (.inl rfl))
  | activated was found held => exact .of_serving rfl (.inl rfl) rfl rfl
  | failed was =>
      exact .of_awaiting rfl (.inr (.inr rfl)) (agreed.awaiting _ was (.inr (.inl rfl)))
  | @ended old new invoice was ends =>
      have terminal : Maintenance.Terminal new := by
        cases ends <;> decide
      refine .of_ended rfl terminal fun row found => ?_
      obtain ⟨old, -, rfl⟩ := Option.map_eq_some_iff.mp found
      rfl
  | answered | pruned => exact agreed.congr rfl rfl
  | @reaped state hold invoice _ terminal released expired =>
      have kept : ∀ row, hold = some row → before.hold = some row := by
        intro row found
        obtain same | ⟨none_, -⟩ := released
        · exact same ▸ found
        · exact absurd (none_.symm.trans found) nofun
      obtain same | ⟨none_, old, was, ended⟩ := terminal
      · cases is : before.state with
        | none => exact .of_none (same.trans is) fun row found => agreed.absent is row (kept row found)
        | some is' =>
            obtain awaiting | serving | ended := SubState.sorts is'
            · obtain ⟨row, found, held⟩ := agreed.awaiting is' is awaiting
              obtain stays | ⟨-, row', found', gone⟩ := released
              · exact .of_awaiting (same.trans is) awaiting ⟨row, stays.trans found, held⟩
              · cases found.symm.trans found'
                exact absurd (held.symm.trans gone) nofun
            · obtain ⟨row, found, consumed⟩ := agreed.serving is' is serving
              obtain stays | ⟨-, row', found', gone⟩ := released
              · exact .of_serving (same.trans is) serving (stays.trans found) consumed
              · cases found.symm.trans found'
                exact absurd (consumed.symm.trans gone) nofun
            · exact .of_ended (same.trans is) ended fun row found =>
                agreed.ended is' is ended row (kept row found)
      · refine .of_none none_ fun row found => ?_
        rw [agreed.ended old was ended row (kept row found)]
        nofun

/-- No transaction but an order's own makes a subscription. -/
theorem Shift.exists_ (shift : Shift key action before after) (exists_ : after.state ≠ none) :
    before.state ≠ none := by
  cases shift with
  | served was | provisioned _ was | activated was | failed was | ended was =>
      rw [was]
      nofun
  | reaped _ terminal =>
      obtain same | ⟨none_, -⟩ := terminal
      · exact same ▸ exists_
      · exact absurd none_ exists_
  | _ => exact exists_

/-- A cached reply stays, until it is pruned. -/
theorem Shift.cached (shift : Shift key action before after)
    (kept : action = .prune → after.cached = before.cached) {row : InboundRow}
    (cached : before.cached = some row) : after.cached = some row := by
  cases shift with
  | answered _ fresh => exact absurd (cached.symm.trans fresh) nofun
  | pruned isPrune => exact (kept isPrune).trans cached
  | _ => exact cached

/-- A hold stays, until it is reaped. -/
theorem Shift.hold (shift : Shift key action before after)
    (kept : action = .reap → after.hold ≠ none) (exists_ : before.hold ≠ none) : after.hold ≠ none := by
  cases shift with
  | activated => nofun
  | ended => simpa using exists_
  | reaped isReap => exact kept isReap
  | _ => exact exists_

/-- **A transaction leaves a delivery guarded**, if no retention forgets what it relies on. -/
theorem Shift.guarded {phase : Phase} (shift : Shift key action before after)
    (guarded : Guarded before phase)
    (prune : action = .prune → Working phase → (before.state ≠ none ∨ Releasing phase) →
      after.cached = before.cached)
    (reap : action = .reap → Working phase → after.state ≠ none → after.hold ≠ none) :
    Guarded after phase where
  evident working exists_ := by
    have before_ := shift.exists_ exists_
    obtain ⟨⟨row, cached, invoiced⟩, hold⟩ := guarded.evident working before_
    exact ⟨⟨row, shift.cached (fun isPrune => prune isPrune working (.inl before_)) cached, invoiced⟩,
      shift.hold (fun isReap => reap isReap working exists_) hold⟩
  refused releasing := by
    obtain ⟨none_, row, cached, refused⟩ := guarded.refused releasing
    have working : Working phase := by
      cases phase with
      | releasing => trivial
      | _ => exact releasing.elim
    refine ⟨?_, row, shift.cached (fun isPrune => prune isPrune working (.inr releasing)) cached, refused⟩
    by_contra exists_
    exact shift.exists_ exists_ none_

end Shift

/-! ### The runs -/

/-- **No delivery loses sight of the order it works on.** A request that passes admission finds the
order's invoice cached and its hold in place if the order exists; while a delivery works on a hold,
the prune keeps the reply it relies on and the reaper the hold of an order that still exists. -/
def Heeded (intake : Intake) (world : World) : Action → Prop
  | .advance slot _ => ∀ delivery, world.deliveries.row slot = some delivery →
      delivery.phase = .admitting →
      Working (admission intake world.store delivery.key delivery.request world.clock) →
      (view world.store delivery.key).state ≠ none → Evident (view world.store delivery.key)
  | .prune => ¬ world.deliveries.Any fun _ delivery => Working delivery.phase ∧
      ((view world.store delivery.key).state ≠ none ∨ Releasing delivery.phase) ∧
      (view (transact intake.recipe world.store world.clock .prune) delivery.key).cached ≠
        (view world.store delivery.key).cached
  | .reap => ¬ world.deliveries.Any fun _ delivery => Working delivery.phase ∧
      (view (transact intake.recipe world.store world.clock .reap) delivery.key).state ≠ none ∧
      (view (transact intake.recipe world.store world.clock .reap) delivery.key).hold = none
  | _ => True

instance (view : View) : Decidable (Invoiced view) :=
  decidable_of_iff (view.cached.any (·.response.isOrderInvoice) = true)
    (by simp [Invoiced, Option.any_eq_true])

instance (view : View) : Decidable (Evident view) := inferInstanceAs (Decidable (_ ∧ _))

instance (intake : Intake) (world : World) (action : Action) :
    Decidable (Heeded intake world action) := by
  unfold Heeded
  split
  · exact inferInstanceAs (Decidable (∀ delivery ∈ world.deliveries.row _, _))
  all_goals infer_instance

/-- **The invariant.** -/
structure Consistent (world : World) : Prop where
  orderly : Orderly world
  agreed : ∀ key, Agreed (view world.store key)
  guarded : ∀ slot delivery, world.deliveries.row slot = some delivery →
    Guarded (view world.store delivery.key) delivery.phase

theorem consistent_fresh (clock : ℤ) : Consistent (World.fresh clock) where
  orderly := orderly_fresh clock
  agreed _ := .of_none rfl nofun
  guarded _ _ found := by cases found

/-! ### Every step -/

section Step

variable {world : World} {slot : ℕ} {delivery : Delivery} {next : Phase} {store : Store}

/-- **A delivery moves on**, and the columns of other orders stay. -/
theorem Consistent.moved (consistent : Consistent world) (orderly : Orderly { world with
      store, deliveries := world.deliveries.put slot { delivery with phase := next } })
    (others : ∀ key, key ≠ delivery.key → view store key = view world.store key)
    (agreed : Agreed (view store delivery.key))
    (self : Guarded (view store delivery.key) next)
    (siblings : ∀ phase, Guarded (view world.store delivery.key) phase →
      Guarded (view store delivery.key) phase) :
    Consistent { world with
      store, deliveries := world.deliveries.put slot { delivery with phase := next } } where
  orderly := orderly
  agreed key := by
    by_cases own : key = delivery.key
    · exact own ▸ agreed
    · exact (others key own).symm ▸ consistent.agreed key
  guarded other known found := by
    simp only [Table.put_row] at found
    split_ifs at found with same
    · cases found
      exact self
    · have guarded := consistent.guarded other known found
      by_cases own : known.key = delivery.key
      · rw [own] at guarded ⊢
        exact siblings _ guarded
      · simpa only [others known.key own] using guarded

/-- A delivery is gone, and the columns stay. -/
theorem Consistent.gone (consistent : Consistent world) (sent : List (RequestKey × Msg)) :
    Consistent { world with
      sent, deliveries := world.deliveries.delete fun other _ => other = slot } where
  orderly := consistent.orderly.delete consistent.orderly.filed slot sent
  agreed := consistent.agreed
  guarded other known found :=
    consistent.guarded other known ((world.deliveries.delete_row_eq_some _ other known).mp found).1

/-- A transaction of the daemon. -/
theorem Consistent.transacted {intake : Intake} {action : Action} (consistent : Consistent world)
    (heeded : Heeded intake world action) (orderly : Orderly { world with
      store := transact intake.recipe world.store world.clock action }) :
    Consistent { world with store := transact intake.recipe world.store world.clock action } where
  orderly := orderly
  agreed key :=
    (transact_shift key intake.recipe consistent.orderly.filed world.clock action).agreed
      (consistent.agreed key)
  guarded slot delivery found := by
    refine (transact_shift delivery.key intake.recipe consistent.orderly.filed world.clock
      action).guarded (consistent.guarded slot delivery found) ?_ ?_
    · rintro rfl working exposed
      by_contra changed
      exact heeded ⟨slot, delivery, found, working, exposed, changed⟩
    · rintro rfl working exists_ gone
      exact heeded ⟨slot, delivery, found, working, exists_, gone⟩

/-- **The step of a delivery.** -/
theorem Consistent.advanced {intake : Intake} {issued : Option Issued} (consistent : Consistent world)
    (heeded : Heeded intake world (.advance slot issued))
    (orderly : Orderly (world.advance intake slot issued)) :
    Consistent (world.advance intake slot issued) := by
  cases found : world.deliveries.row slot with
  | none =>
      have idle : world.advance intake slot issued = world := by
        unfold World.advance
        rw [found]
      exact idle.symm ▸ consistent
  | some delivery =>
      have owned := consistent.orderly.owned slot delivery found
      have guarded := consistent.guarded slot delivery found
      by_cases admitting : delivery.phase = .admitting
      · -- admission only reads: what the condition says of it is all there is to know
        have moved : world.advance intake slot issued = { world with
            deliveries := world.deliveries.put slot { delivery with
              phase := admission intake world.store delivery.key delivery.request world.clock } } := by
          unfold World.advance
          simp only [found, admitting, advance]
        rw [moved] at orderly ⊢
        refine consistent.moved orderly (fun _ _ => rfl) (consistent.agreed _) ?_ fun _ => id
        have heeded := heeded delivery found admitting
        have admits := admission_advanced intake world.store delivery.key delivery.request world.clock
        generalize admission intake world.store delivery.key delivery.request world.clock = next at *
        cases admits with
        | refused => exact .idle not_false
        | admitted => exact .working not_false (heeded trivial)
      · have stepped := world.advance_stepped intake slot issued
        generalize world.advance intake slot issued = after at stepped orderly ⊢
        cases stepped with
        | idle => exact consistent
        | replied => exact consistent.gone _
        | moved found' moved =>
            cases found.symm.trans found'
            have handled := advanced_handled owned moved
            exact consistent.moved orderly
              (fun key other => advanced_other owned other moved)
              (handled.agreed guarded (consistent.agreed _)) (handled.guarded owned guarded admitting)
              fun _ => handled.guards owned
        | ended found' advanced =>
            obtain ⟨rfl, -⟩ := advanced_none advanced
            exact consistent.gone _

/-- **Every heeded step keeps the invariant.** -/
theorem consistent_step {intake : Intake} (world : World) (action : Action)
    (heeded : Heeded intake world action) (consistent : Consistent world) :
    Consistent (world.step intake action) := by
  have orderly := orderly_step intake world action consistent.orderly
  by_cases up : world.up = true
  · cases action with
    | wait seconds => exact ⟨orderly, consistent.agreed, consistent.guarded⟩
    | boot =>
        simp only [World.step, if_pos up]
        exact consistent
    | crash => exact ⟨orderly, consistent.agreed, fun _ _ found => by cases found⟩
    | deliver slot key request =>
        simp only [World.step] at orderly ⊢
        split_ifs at orderly ⊢ with free
        · refine ⟨orderly, consistent.agreed, fun other known found => ?_⟩
          simp only [Table.put_row] at found
          split_ifs at found with same
          · cases found
            exact .idle not_false
          · exact consistent.guarded other known found
        · exact consistent
    | advance slot issued =>
        simp only [World.step, if_pos up] at orderly ⊢
        exact consistent.advanced heeded orderly
    | _ =>
        simp only [World.step, if_pos up] at orderly ⊢
        exact consistent.transacted heeded orderly
  · have down : world.up = false := Bool.eq_false_iff.mpr up
    cases action with
    | wait seconds => exact ⟨orderly, consistent.agreed, consistent.guarded⟩
    | boot =>
        simp only [World.step, if_neg up] at orderly ⊢
        exact ⟨orderly, fun key => (view_restart _ key _).symm ▸ consistent.agreed key,
          fun slot delivery found => (view_restart _ delivery.key _).symm ▸
            consistent.guarded slot delivery found⟩
    | crash => exact ⟨orderly, consistent.agreed, fun _ _ found => by cases found⟩
    | _ =>
        simp only [World.step, down, Bool.false_eq_true, false_and, if_false]
        exact consistent

end Step

/-! ### The theorem -/

/-- **Subscription and hold agree** after every run of heeded steps from a fresh database. -/
theorem capacity_agreement (intake : Intake) (clock : ℤ) (actions : List Action)
    (heeded : (daemon intake (World.fresh clock)).Meets (Heeded intake) actions) (key : RequestKey) :
    Agreement (view ((daemon intake (World.fresh clock)).run actions).store key) :=
  ((daemon intake (World.fresh clock)).invariant_of_meets (consistent_fresh clock) consistent_step
    actions heeded).agreed key |>.toAgreement

/-- A listing with a period of one year. -/
def yearlyListing : ListingRow :=
  ⟨some 0, some 21, some (365 * 24 * 60 * 60), some 10, some 50, .active⟩

/-- A year is ordered, paid and served, and the request is delivered once more. -/
def reordering (key : RequestKey) : List Action :=
  [Action.boot, .list 0 yearlyListing] ++ ordering key (plainIssued 1 3600) ++
    [Action.capture ⟨.order key, 21, 21000, 0⟩, .activate key (.order key), .deliver 0 key ⟨0, 0, none⟩,
      .advance 0 none, .wait (121 * 24 * 60 * 60), .prune, .advance 0 none]

theorem capacity_agreement_reordering :
    (daemon plainIntake (World.fresh 0)).Meets (Heeded plainIntake) (reordering ⟨1, 1⟩) ∧
      Agreement (view ((daemon plainIntake (World.fresh 0)).run (reordering ⟨1, 1⟩)).store ⟨1, 1⟩) :=
  have heeded : (daemon plainIntake (World.fresh 0)).Meets (Heeded plainIntake) (reordering ⟨1, 1⟩) := by
    decide
  ⟨heeded, capacity_agreement plainIntake 0 _ heeded _⟩

/-- The same request, sent again after the prune: its commit finds the order, and fails. -/
def resending (key : RequestKey) : List Action :=
  reordering key ++ ordering key (plainIssued 2 (122 * 24 * 60 * 60)) ++ [.advance 0 none]

/-- **The re-sent request takes the hold from the ACTIVE subscription.** -/
theorem resent_order_releases :
    (view ((daemon plainIntake (World.fresh 0)).run (resending ⟨1, 1⟩)).store ⟨1, 1⟩).state =
        some .active ∧
      ¬ Agreement (view ((daemon plainIntake (World.fresh 0)).run (resending ⟨1, 1⟩)).store ⟨1, 1⟩) := by
  have columns : (view ((daemon plainIntake (World.fresh 0)).run (resending ⟨1, 1⟩)).store
      ⟨1, 1⟩).state = some .active ∧
      (view ((daemon plainIntake (World.fresh 0)).run (resending ⟨1, 1⟩)).store
        ⟨1, 1⟩).hold.map ReservationRow.state = some .released := by
    decide
  refine ⟨columns.1, fun agreement => ?_⟩
  obtain ⟨row, found, consumed⟩ := agreement.serving _ columns.1 (.inl rfl)
  have released := columns.2
  rw [found, Option.map_some, consumed] at released
  cases released

end Lnrent.Capacity
