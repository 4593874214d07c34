/-
**One request id, one order, one answer.** Any number of deliveries of one `order.request`, with any
bodies, interleave with each other and with the rest of the daemon, up to the first action that works
on the placed order or forgets its cached reply.

* `Placed`, `Unplaced` — the two shapes of the order's columns;
* `Single` — the invariant: an unplaced order is HELD only while a delivery of it still has to commit
  or release, or after a crash cut one off;
* `single_step` — what every step keeps; `handled_single` is the step of a delivery of the order;
* `one_order` — **at most one order and one answer**, and a hold exactly when the answer is an invoice.
-/

import Lnrent.Capacity.Intake

namespace Lnrent.Capacity

open Relational Transition OrderIntake

/-! ### The runs -/

/-- **The action leaves the order alone**, and its cached reply in place. -/
def Apart (key : RequestKey) (world : World) : Action → Prop
  | .capture settlement => settlement.externalId ≠ .order key
  | .fire id _ => id ≠ key
  | .renew request _ _ _ _ => request ≠ key
  | .prune =>
      (Maintenance.pruneInboundRequests world.store
        (Maintenance.pruneCutoff world.clock world.clock)).inboundRequest.row key =
        world.store.inboundRequest.row key
  | _ => True

instance (key : RequestKey) (world : World) (action : Action) : Decidable (Apart key world action) :=
  decidable_of_iff
    ((∀ settlement ∈ action.settlement, settlement.externalId ≠ .order key) ∧
      (∀ visit ∈ action.visit, visit.1 ≠ key) ∧ (∀ request ∈ action.renewal, request ≠ key) ∧
      (action.prunes = true → (Maintenance.pruneInboundRequests world.store
        (Maintenance.pruneCutoff world.clock world.clock)).inboundRequest.row key =
        world.store.inboundRequest.row key))
    (by cases action <;>
      simp [Apart, Action.settlement, Action.visit, Action.renewal, Action.prunes])

/-- **Where a run begins**: nothing is known of the request id. -/
structure Unused (key : RequestKey) (world : World) : Prop where
  orderly : Orderly world
  columns : view world.store key = ⟨none, none, none, none⟩
  undelivered : ∀ slot delivery, world.deliveries.row slot = some delivery → delivery.key ≠ key
  unanswered : ∀ reply, (key, reply) ∉ world.sent

theorem unused_fresh (key : RequestKey) (clock : ℤ) : Unused key (World.fresh clock) where
  orderly := orderly_fresh clock
  columns := rfl
  undelivered _ _ found := by cases found
  unanswered _ := List.not_mem_nil

/-! ### The two shapes -/

/-- The request was answered with an invoice. -/
def Invoiced (view : View) : Prop :=
  ∃ row, view.cached = some row ∧ row.response.isOrderInvoice = true

/-- The order's hold is HELD. -/
def Held (view : View) : Prop :=
  ∃ row, view.hold = some row ∧ row.state = .held

/-- **The order was placed.** -/
structure Placed (view : View) : Prop where
  state : view.state = some .pending
  invoice : view.invoice = some .opened
  invoiced : Invoiced view
  held : Held view

/-- **There is no order.** -/
structure Unplaced (view : View) : Prop where
  state : view.state = none
  invoice : view.invoice = none
  refused : ∀ row, view.cached = some row → row.response.isOrderInvoice = false
  unconsumed : ∀ row, view.hold = some row → row.state ≠ .consumed

/-- The reply is the cached one. -/
def Known (view : View) (reply : Msg) : Prop :=
  ∃ row, view.cached = some row ∧ row.response = reply

/-- The delivery still has to commit the order or to release its hold. -/
def Holding : Phase → Prop
  | .issuing _ _ | .committing _ | .failing true _ | .releasing _ _ => True
  | _ => False

/-- What a delivery remembers is still right. -/
def Remembers (view : View) (clock : ℤ) : Phase → Prop
  | .reserving now _ => now ≤ clock
  | .releasing _ reply => Known view reply ∧ reply.isOrderInvoice = false
  | .replying reply => Known view reply
  | _ => True

/-- Some delivery of the order is holding, or a crash cut one off. -/
def Accounted (key : RequestKey) (world : World) : Prop :=
  key ∈ world.interrupted ∨ ∃ slot delivery, world.deliveries.row slot = some delivery ∧
    delivery.key = key ∧ Holding delivery.phase

/-- Every hold of the order expires within an invoice's time from now. -/
def Expiring (view : View) (clock : ℤ) : Prop :=
  ∀ row, view.hold = some row → row.expiresAt ≤ clock + invoiceExpiryS

/-- **The invariant.** -/
structure Single (key : RequestKey) (world : World) : Prop where
  shape : Placed (view world.store key) ∨ Unplaced (view world.store key) ∧
    Expiring (view world.store key) world.clock ∧
    (Held (view world.store key) → Accounted key world)
  remembers : ∀ slot delivery, world.deliveries.row slot = some delivery → delivery.key = key →
    Remembers (view world.store key) world.clock delivery.phase
  sent : ∀ reply, (key, reply) ∈ world.sent → Known (view world.store key) reply

variable {key : RequestKey}

theorem Unused.single {world : World} (unused : Unused key world) : Single key world where
  shape := by
    rw [unused.columns]
    exact .inr ⟨⟨rfl, rfl, nofun, nofun⟩, nofun, nofun⟩
  remembers slot delivery found own := absurd own (unused.undelivered slot delivery found)
  sent reply sent := absurd sent (unused.unanswered reply)

theorem Remembers.mono {view : View} {clock later : ℤ} {phase : Phase}
    (remembers : Remembers view clock phase) (least : clock ≤ later) :
    Remembers view later phase := by
  cases phase <;> unfold Remembers at * <;> first | exact remembers | exact remembers.trans least

/-- A reply that stays cached stays known. -/
theorem Remembers.cached {before after : View} {clock : ℤ} {phase : Phase}
    (remembers : Remembers before clock phase)
    (kept : ∀ row, before.cached = some row → after.cached = some row) :
    Remembers after clock phase := by
  have known : ∀ reply, Known before reply → Known after reply :=
    fun reply ⟨row, found, same⟩ => ⟨row, kept row found, same⟩
  cases phase <;> unfold Remembers at *
  case releasing => exact ⟨known _ remembers.1, remembers.2⟩
  case replying => exact known _ remembers
  all_goals exact remembers

/-! ### A step of a delivery -/

section Handled

variable {clock : ℤ} {phase : Phase} {next : Option Phase} {before after : View}

/-- **A cached reply stays.** -/
theorem Handled.cached (handled : Handled clock phase before next after) (row : InboundRow)
    (found : before.cached = some row) : after.cached = some row := by
  cases handled with
  | placed unanswered | withdrawn _ unanswered | holdLost _ unanswered =>
      rw [unanswered] at found
      cases found
  | failed _ _ absent =>
      rw [absent] at found
      cases found
  | _ => exact found

theorem remembers_settle {release : Bool} {now : ℤ} {reply : Msg} (known : Known after reply) :
    Remembers after clock (settle release now reply) := by
  unfold settle
  split_ifs with refused
  · exact ⟨known, refused.2⟩
  · exact known

/-- What the delivery remembers afterwards is right. -/
theorem Handled.remembers {next : Phase} (handled : Handled clock phase before (some next) after)
    (remembers : Remembers before clock phase) : Remembers after clock next := by
  generalize isNext : some next = result at handled
  cases handled with
  | unreserved => cases isNext
  | answered found | duplicate _ found | knownFailure _ _ found =>
      cases isNext
      first | exact ⟨_, found, rfl⟩ | exact remembers_settle ⟨_, found, rfl⟩
  | admitted =>
      cases isNext
      exact le_rfl
  | placed =>
      cases isNext
      exact ⟨_, rfl, rfl⟩
  | failed =>
      cases isNext
      exact remembers_settle ⟨_, rfl, rfl⟩
  | released =>
      cases isNext
      exact remembers.1
  | replying =>
      cases isNext
      exact remembers
  | _ =>
      cases isNext
      trivial

theorem holding_settle {now : ℤ} {reply : Msg} (refused : reply.isOrderInvoice = false) :
    Holding (settle true now reply) := by
  unfold settle
  rw [if_pos ⟨rfl, refused⟩]
  trivial

/-- **A delivery and an order that is not placed**: the step places it; or it stays unplaced, and if
it is HELD afterwards it was HELD before or the delivery is holding now. -/
theorem Handled.unplaced {next : Phase} (handled : Handled clock phase before (some next) after)
    (owned : Owned key phase) (remembers : Remembers before clock phase)
    (unplaced : Unplaced before) (expiring : Expiring before clock) :
    Placed after ∨ Unplaced after ∧ Expiring after clock ∧
      (Held after → Holding next ∨ Held before ∧ ¬ Holding phase) := by
  generalize isNext : some next = result at handled
  cases handled with
  | unreserved => cases isNext
  | held now listing open_ isHeld expiry =>
      cases isNext
      refine .inr ⟨⟨unplaced.state, unplaced.invoice, unplaced.refused, ?_⟩, ?_, fun _ => .inl trivial⟩
      · rintro _ ⟨⟩
        rw [isHeld]
        nofun
      · rintro _ ⟨⟩
        have past : now ≤ clock := remembers
        omega
  | @placed _ write row unanswered found open_ =>
      cases isNext
      refine .inl ⟨rfl, rfl, ⟨_, rfl, (owned write rfl).2⟩, ⟨_, rfl, ?_⟩⟩
      show row.state = .held
      cases state : row.state with
      | held => rfl
      | consumed => exact absurd state (unplaced.unconsumed row found)
      | released => exact absurd state open_
  | withdrawn write unanswered =>
      cases isNext
      refine .inr ⟨⟨unplaced.state, unplaced.invoice, ?_, ?_⟩, ?_, ?_⟩
      · rintro _ ⟨⟩
        rfl
      · intro row found
        obtain ⟨old, -, rfl⟩ := Option.map_eq_some_iff.mp found
        nofun
      · intro row found
        obtain ⟨old, known, rfl⟩ := Option.map_eq_some_iff.mp found
        exact expiring old known
      · rintro ⟨row, found, held⟩
        obtain ⟨old, -, rfl⟩ := Option.map_eq_some_iff.mp found
        cases held
  | holdLost write unanswered lost =>
      cases isNext
      refine .inr ⟨⟨unplaced.state, unplaced.invoice, ?_, unplaced.unconsumed⟩, expiring, ?_⟩
      · rintro _ ⟨⟩
        rfl
      · rintro ⟨row, found, held⟩
        rw [lost row found] at held
        cases held
  | failed release error absent =>
      cases isNext
      refine .inr ⟨⟨unplaced.state, unplaced.invoice, ?_, unplaced.unconsumed⟩, expiring, fun held => ?_⟩
      · rintro _ ⟨⟩
        rfl
      · cases release with
        | true => exact .inl (holding_settle rfl)
        | false => exact .inr ⟨held, not_false⟩
  | released now reply =>
      cases isNext
      refine .inr ⟨⟨unplaced.state, unplaced.invoice, unplaced.refused, ?_⟩, ?_, ?_⟩
      · intro row found
        obtain ⟨old, -, rfl⟩ := Option.map_eq_some_iff.mp found
        nofun
      · intro row found
        obtain ⟨old, known, rfl⟩ := Option.map_eq_some_iff.mp found
        exact expiring old known
      · rintro ⟨row, found, held⟩
        obtain ⟨old, -, rfl⟩ := Option.map_eq_some_iff.mp found
        cases held
  | duplicate write found =>
      cases isNext
      exact .inr ⟨unplaced, expiring, fun _ => .inl (holding_settle (unplaced.refused _ found))⟩
  | knownFailure release error found =>
      cases isNext
      refine .inr ⟨unplaced, expiring, fun held => ?_⟩
      cases release with
      | true => exact .inl (holding_settle (unplaced.refused _ found))
      | false => exact .inr ⟨held, not_false⟩
  | full | kept | unissued | issued | conflicted =>
      cases isNext
      exact .inr ⟨unplaced, expiring, fun _ => .inl trivial⟩
  | answered | fresh | refused | admitted | replying =>
      cases isNext
      exact .inr ⟨unplaced, expiring, fun held => .inr ⟨held, not_false⟩⟩

/-- **A delivery and a placed order**: the order stays placed. -/
theorem Handled.placedStays (handled : Handled clock phase before next after)
    (remembers : Remembers before clock phase) (placed : Placed before) : Placed after := by
  obtain ⟨answer, cached, invoiced⟩ := placed.invoiced
  have answered : before.cached ≠ none := by
    rw [cached]
    exact Option.some_ne_none _
  cases handled with
  | held now listing open_ isHeld expiry =>
      exact ⟨placed.state, placed.invoice, placed.invoiced, ⟨_, rfl, isHeld⟩⟩
  | placed unanswered | withdrawn _ unanswered | holdLost _ unanswered => exact absurd unanswered answered
  | failed _ _ absent => exact absurd absent answered
  | released now reply =>
      obtain ⟨⟨row, found, same⟩, refused⟩ := remembers
      rw [cached, Option.some.injEq] at found
      rw [← same, ← found, invoiced] at refused
      cases refused
  | _ => exact placed

end Handled

/-! ### The other transactions -/

theorem Apart.not_settles {world : World} {action : Action} (apart : Apart key world action) :
    ¬ Settles key action := by
  cases action with
  | capture settlement => exact apart
  | _ => exact not_false

theorem Apart.not_fires {world : World} {action : Action} (apart : Apart key world action) :
    ¬ Fires key action := by
  cases action with
  | fire id answers => exact apart
  | _ => exact not_false

theorem Apart.not_renews {world : World} {action : Action} (apart : Apart key world action) :
    ¬ Renews key action := by
  cases action with
  | renew request => exact apart
  | _ => exact not_false

/-- The columns are as before, but that a RELEASED hold may be forgotten. -/
structure Kept (before after : View) : Prop where
  state : after.state = before.state
  cached : after.cached = before.cached
  invoice : after.invoice = before.invoice
  hold : after.hold = before.hold ∨
    after.hold = none ∧ ∃ row, before.hold = some row ∧ row.state = .released

theorem Kept.refl (view : View) : Kept view view := ⟨rfl, rfl, rfl, .inl rfl⟩

/-- **A transaction that leaves the order alone** keeps its columns. -/
theorem Apart.kept {world : World} {recipe : Recipe} {action : Action} (apart : Apart key world action)
    (shape : Placed (view world.store key) ∨ Unplaced (view world.store key))
    (shift : Shift key action (view world.store key)
      (view (transact recipe world.store world.clock action) key)) :
    Kept (view world.store key) (view (transact recipe world.store world.clock action) key) := by
  have cached : action = .prune → (view (transact recipe world.store world.clock action) key).cached =
      (view world.store key).cached := by
    rintro rfl
    exact apart
  have state : ∀ old, (view world.store key).state = some old → old = .pending := by
    intro old was
    rcases shape with placed | unplaced
    · exact Option.some.inj (was.symm.trans placed.state)
    · rw [unplaced.state] at was
      cases was
  have invoice : (view world.store key).invoice ≠ some .expired := by
    rcases shape with placed | unplaced
    · rw [placed.invoice]
      nofun
    · rw [unplaced.invoice]
      nofun
  generalize view (transact recipe world.store world.clock action) key = after at shift cached ⊢
  generalize view world.store key = before at shift cached state invoice ⊢
  cases shift with
  | stays => exact .refl _
  | served was kept =>
      cases state _ was
      exact absurd kept (by decide)
  | settled settles | provisioned settles => exact absurd settles apart.not_settles
  | activated was | failed was => cases state _ was
  | ended was ends fires => exact absurd (fires (state _ was)) apart.not_fires
  | answered renews => exact absurd renews apart.not_renews
  | pruned isPrune => exact ⟨rfl, cached isPrune, rfl, .inl rfl⟩
  | reaped _ terminal released expired =>
      refine ⟨terminal.resolve_right ?_, rfl, expired.resolve_right fun gone => invoice gone.1, released⟩
      rintro ⟨-, old, was, ended⟩
      cases state _ was
      exact absurd ended (by decide)

theorem Placed.kept {before after : View} (placed : Placed before) (kept : Kept before after) :
    Placed after := by
  obtain ⟨row, found, held⟩ := placed.held
  refine ⟨kept.state.trans placed.state, kept.invoice.trans placed.invoice, ?_, ?_⟩
  · unfold Invoiced
    rw [kept.cached]
    exact placed.invoiced
  · rcases kept.hold with same | ⟨-, released, found', state⟩
    · exact ⟨row, same.trans found, held⟩
    · cases found.symm.trans found'
      rw [held] at state
      cases state

theorem Kept.hold_of_some {before after : View} (kept : Kept before after) {row : ReservationRow}
    (found : after.hold = some row) : before.hold = some row := by
  rcases kept.hold with same | ⟨gone, -⟩
  · exact same ▸ found
  · rw [gone] at found
    cases found

theorem Unplaced.kept {before after : View} (unplaced : Unplaced before) (kept : Kept before after) :
    Unplaced after where
  state := kept.state.trans unplaced.state
  invoice := kept.invoice.trans unplaced.invoice
  refused row found := unplaced.refused row (kept.cached ▸ found)
  unconsumed row found := unplaced.unconsumed row (kept.hold_of_some found)

/-! ### Every step -/

/-- The deliveries in every slot but one are as before, and that one was not holding for the order. -/
theorem Accounted.transport {world next : World} (accounted : Accounted key world) (slot : ℕ)
    (interrupted : next.interrupted = world.interrupted)
    (others : ∀ other, other ≠ slot → next.deliveries.row other = world.deliveries.row other)
    (idle : ∀ delivery, world.deliveries.row slot = some delivery → delivery.key = key →
      ¬ Holding delivery.phase) : Accounted key next := by
  rcases accounted with cut | ⟨other, delivery, found, own, holding⟩
  · exact .inl (interrupted ▸ cut)
  · have different : other ≠ slot := by
      rintro rfl
      exact idle delivery found own holding
    exact .inr ⟨other, delivery, (others other different).trans found, own, holding⟩

/-- A step after which the columns are kept and every delivery of the order but one is as before. -/
theorem Single.transport {world next : World} (single : Single key world) (slot : ℕ)
    (kept : Kept (view world.store key) (view next.store key)) (clock : next.clock = world.clock)
    (interrupted : next.interrupted = world.interrupted)
    (others : ∀ other, other ≠ slot → next.deliveries.row other = world.deliveries.row other)
    (idle : ∀ delivery, world.deliveries.row slot = some delivery → delivery.key = key →
      ¬ Holding delivery.phase)
    (new : ∀ delivery, next.deliveries.row slot = some delivery → delivery.key = key →
      Remembers (view next.store key) next.clock delivery.phase)
    (sent : ∀ reply, (key, reply) ∈ next.sent → Known (view world.store key) reply) :
    Single key next where
  shape := by
    rcases single.shape with placed | ⟨unplaced, expiring, accounted⟩
    · exact .inl (placed.kept kept)
    · refine .inr ⟨unplaced.kept kept, fun row found => ?_, fun ⟨row, found, held⟩ => ?_⟩
      · rw [clock]
        exact expiring row (kept.hold_of_some found)
      · exact (accounted ⟨row, kept.hold_of_some found, held⟩).transport slot interrupted others idle
  remembers other delivery found own := by
    by_cases same : other = slot
    · subst same
      exact new delivery found own
    · rw [others other same] at found
      rw [clock]
      exact (single.remembers other delivery found own).cached fun row cached =>
        kept.cached.trans cached
  sent reply isSent := by
    obtain ⟨row, cached, same⟩ := sent reply isSent
    exact ⟨row, kept.cached.trans cached, same⟩

/-- **The step of a delivery of the order.** -/
theorem handled_single {world : World} {slot : ℕ} {delivery : Delivery} {next : Phase} {store : Store}
    (single : Single key world) (owned : Owned key delivery.phase)
    (found : world.deliveries.row slot = some delivery) (own : delivery.key = key)
    (handled : Handled world.clock delivery.phase (view world.store key) (some next)
      (view store key)) :
    Single key { world with
      store, deliveries := world.deliveries.put slot { delivery with phase := next } } := by
  have remembers := single.remembers slot delivery found own
  refine ⟨?_, fun other known found' own' => ?_, fun reply sent => ?_⟩
  · rcases single.shape with placed | ⟨unplaced, expiring, accounted⟩
    · exact .inl (handled.placedStays remembers placed)
    · rcases handled.unplaced owned remembers unplaced expiring with placed | ⟨unplaced', expiring', held⟩
      · exact .inl placed
      · refine .inr ⟨unplaced', expiring', fun isHeld => ?_⟩
        rcases held isHeld with holding | ⟨before, idle⟩
        · exact .inr ⟨slot, _, Table.put_row_self _ _ _, own, holding⟩
        · refine (accounted before).transport slot rfl
            (fun other different => Table.put_row_other _ _ different) fun known found' _ => ?_
          cases found.symm.trans found'
          exact idle
  · simp only [Table.put_row] at found'
    split_ifs at found'
    · cases found'
      exact handled.remembers remembers
    · exact (single.remembers other known found' own').cached handled.cached
  · obtain ⟨row, cached, same⟩ := single.sent reply sent
    exact ⟨row, handled.cached row cached, same⟩

/-- **Every step that leaves the order alone keeps the invariant.** -/
theorem single_step {intake : Intake} {world : World} {action : Action} (orderly : Orderly world)
    (apart : Apart key world action) (single : Single key world) :
    Single key (world.step intake action) := by
  have shape : Placed (view world.store key) ∨ Unplaced (view world.store key) :=
    single.shape.imp_right And.left
  have moves := step_moves key intake orderly action
  generalize world.step intake action = next at moves
  cases moves with
  | still => exact single
  | waited seconds history =>
      have least : world.clock ≤ world.clock + seconds := by omega
      refine ⟨single.shape.imp_right fun ⟨unplaced, expiring, accounted⟩ =>
        ⟨unplaced, fun row found => (expiring row found).trans (by simp), accounted⟩,
        fun slot delivery found own => (single.remembers slot delivery found own).mono least,
        single.sent⟩
  | crashed =>
      refine ⟨single.shape.imp_right fun ⟨unplaced, expiring, accounted⟩ =>
        ⟨unplaced, expiring, fun held => .inl ?_⟩, fun _ _ found => (by cases found), single.sent⟩
      rcases accounted held with cut | ⟨slot, delivery, found, own, -⟩
      · exact .inl cut
      · exact .inr ⟨slot, delivery, found, own⟩
  | booted same =>
      refine ⟨?_, ?_, ?_⟩ <;> simp only [same]
      exacts [single.shape, single.remembers, single.sent]
  | @delivered slot other request up free =>
      refine single.transport slot (.refl _) rfl rfl
        (fun other different => Table.put_row_other _ _ different) (fun delivery found => ?_)
        (fun delivery found own => ?_) single.sent
      · rw [free] at found
        cases found
      · rw [Table.put_row_self] at found
        cases found
        trivial
  | @replied slot delivery reply found phase =>
      refine single.transport slot (.refl _) rfl rfl (fun other different => ?_) (fun known found' _ => ?_)
        (fun known found' => ?_) fun sent isSent => ?_
      · exact Table.delete_row_other _ different
      · cases found.symm.trans found'
        rw [phase]
        exact not_false
      · rw [Table.delete_row_self] at found'
        cases found'
      · rcases List.mem_cons.mp isSent with same | earlier
        · cases same
          have remembers := single.remembers slot delivery found rfl
          rw [phase] at remembers
          exact remembers
        · exact single.sent sent earlier
  | handled found own handles =>
      exact handled_single single (own ▸ orderly.owned _ _ found) found own handles
  | @dropped slot delivery store found reserving same =>
      obtain ⟨now, listing, phase⟩ := reserving
      refine single.transport slot (same ▸ .refl _) rfl rfl
        (fun other different => Table.delete_row_other _ different) (fun known found' _ => ?_)
        (fun known found' => ?_) single.sent
      · cases found.symm.trans found'
        rw [phase]
        exact not_false
      · rw [Table.delete_row_self] at found'
        cases found'
  | @elsewhere slot delivery next store found other same =>
      refine single.transport slot (same ▸ .refl _) rfl rfl
        (fun other different => Table.put_row_other _ _ different) (fun known found' own => ?_)
        (fun known found' own => ?_) single.sent
      · cases found.symm.trans found'
        exact absurd own other
      · rw [Table.put_row_self] at found'
        cases found'
        exact absurd own other
  | transacted up shift =>
      have kept := apart.kept shape shift
      refine ⟨?_, fun slot delivery found own => ?_, fun reply sent => ?_⟩
      · rcases single.shape with placed | ⟨unplaced, expiring, accounted⟩
        · exact .inl (placed.kept kept)
        · exact .inr ⟨unplaced.kept kept, fun row found => expiring row (kept.hold_of_some found),
            fun ⟨row, found, held⟩ => accounted ⟨row, kept.hold_of_some found, held⟩⟩
      · exact (single.remembers slot delivery found own).cached fun row cached => kept.cached.trans cached
      · obtain ⟨row, cached, same⟩ := single.sent reply sent
        exact ⟨row, kept.cached.trans cached, same⟩

/-- A step that leaves the order alone keeps its cached reply. -/
theorem cached_step {intake : Intake} {world : World} {action : Action} (orderly : Orderly world)
    (apart : Apart key world action) (single : Single key world) {row : InboundRow}
    (cached : (view world.store key).cached = some row) :
    (view (world.step intake action).store key).cached = some row := by
  have moves := step_moves key intake orderly action
  generalize world.step intake action = next at moves
  cases moves with
  | booted same | dropped _ _ same | elsewhere _ _ same => exact (congrArg View.cached same).trans cached
  | handled _ _ handles => exact handles.cached row cached
  | transacted up shift => exact (apart.kept (single.shape.imp_right And.left) shift).cached.trans cached
  | _ => exact cached

/-! ### The theorem -/

/-- **One order, one answer.** Subscriptions and holds have the order's id as their key, so there is
at most one of each. -/
structure OneOrder (key : RequestKey) (world : World) : Prop where
  /-- Its order invoices are all found under one token. -/
  invoice : ∀ token invoice, world.store.invoice.row token = some invoice → invoice.kind = .order →
    invoice.subscriptionId = some key → token = .order key
  /-- Every reply that was sent is the cached one. -/
  answer : ∀ reply, (key, reply) ∈ world.sent → Known (view world.store key) reply
  /-- An order exists exactly when its request was answered with an invoice, and is HELD then. -/
  placed : Invoiced (view world.store key) → Placed (view world.store key)
  unplaced : ¬ Invoiced (view world.store key) → Unplaced (view world.store key)
  /-- When all deliveries have finished, the hold is HELD exactly when the answer is an invoice. -/
  finished : (∀ slot delivery, world.deliveries.row slot = some delivery → delivery.key ≠ key) →
    key ∉ world.interrupted → (Held (view world.store key) ↔ Invoiced (view world.store key))
  /-- A crash may leave a hold without an order, which expires within an invoice's time. -/
  leftover : (∀ slot delivery, world.deliveries.row slot = some delivery → delivery.key ≠ key) →
    Held (view world.store key) → ¬ Invoiced (view world.store key) →
    key ∈ world.interrupted ∧ Expiring (view world.store key) world.clock

theorem Single.oneOrder {world : World} (single : Single key world) (orderly : Orderly world) :
    OneOrder key world := by
  have uninvoiced : Unplaced (view world.store key) → ¬ Invoiced (view world.store key) := by
    rintro unplaced ⟨row, cached, invoice⟩
    rw [unplaced.refused row cached] at invoice
    cases invoice
  have accounted : (∀ slot delivery, world.deliveries.row slot = some delivery → delivery.key ≠ key) →
      Accounted key world → key ∈ world.interrupted := by
    rintro finished (cut | ⟨slot, delivery, found, own, -⟩)
    · exact cut
    · exact absurd own (finished slot delivery found)
  refine ⟨fun token invoice found order owner => ?_, single.sent, fun invoiced => ?_, fun refused => ?_,
    fun finished uncut => ⟨fun held => ?_, fun invoiced => ?_⟩, fun finished held refused => ?_⟩
  · exact (orderly.filed token invoice found key).mpr ⟨order, owner⟩
  · exact single.shape.resolve_right fun other => uninvoiced other.1 invoiced
  · exact (single.shape.resolve_left fun placed => refused placed.invoiced).1
  · rcases single.shape with placed | ⟨-, -, holder⟩
    · exact placed.invoiced
    · exact absurd (accounted finished (holder held)) uncut
  · exact (single.shape.resolve_right fun other => uninvoiced other.1 invoiced).held
  · obtain ⟨-, expiring, holder⟩ := single.shape.resolve_left fun placed => refused placed.invoiced
    exact ⟨accounted finished (holder held), expiring⟩

/-- **One request id gets one order and one answer.** From any world that knows nothing of the
request, through every run that leaves the placed order and its cached reply alone: there is at most
one order, every reply sent is the one that was cached first, and once no delivery is left the hold is
HELD exactly when that reply is an invoice, but for the expiring hold of a crash. -/
theorem one_order (intake : Intake) (key : RequestKey) (start : World) (unused : Unused key start)
    (before after : List Action)
    (apart : (daemon intake start).Meets (Apart key) (before ++ after)) :
    OneOrder key ((daemon intake start).run (before ++ after)) ∧
      ∀ cached, ((daemon intake start).run before).store.inboundRequest.row key = some cached →
        ((daemon intake start).run (before ++ after)).store.inboundRequest.row key = some cached := by
  let holds (world : World) : Prop := Orderly world ∧ Single key world
  have keeps : ∀ world action, Apart key world action → holds world → holds (world.step intake action) :=
    fun world action apart both =>
      ⟨orderly_step intake world action both.1, single_step both.1 apart both.2⟩
  obtain ⟨early, late⟩ := ((daemon intake start).meetsFrom_append before after start).mp apart
  have middle : holds ((daemon intake start).run before) :=
    (daemon intake start).invariant_from keeps before start early ⟨unused.orderly, unused.single⟩
  have whole : (daemon intake start).run (before ++ after) =
      (daemon intake start).runFrom ((daemon intake start).run before) after :=
    (daemon intake start).runFrom_append before after start
  rw [whole]
  constructor
  · have last := (daemon intake start).invariant_from keeps after _ late middle
    exact last.2.oneOrder last.1
  · intro cached found
    let answered (world : World) : Prop := holds world ∧ (view world.store key).cached = some cached
    have answered_step : ∀ world action, Apart key world action → answered world →
        answered (world.step intake action) := fun world action apart both =>
      ⟨keeps world action apart both.1, cached_step both.1.1 apart both.1.2 both.2⟩
    exact ((daemon intake start).invariant_from answered_step after _ late ⟨middle, found⟩).2

/-- Two deliveries with different bodies, one of which the backend fails, and a crash that cuts off a
third. -/
def racing : List Action :=
  [.boot, .list 0 plainListing, .deliver 0 ⟨1, 1⟩ ⟨0, 0, none⟩, .deliver 1 ⟨1, 1⟩ ⟨0, 5, some 9⟩,
    .advance 0 none, .advance 1 none, .advance 0 none, .advance 1 none, .advance 1 none, .advance 0 none,
    .advance 0 (some (plainIssued 1 3600)), .advance 1 none, .advance 0 none, .advance 1 none,
    .advance 1 none, .advance 0 none, .deliver 2 ⟨1, 1⟩ ⟨3, 3, none⟩, .crash]

theorem one_order_racing :
    OneOrder ⟨1, 1⟩ ((daemon plainIntake (World.fresh 0)).run (racing ++ [.boot, .wait 9])) ∧
      Held (view ((daemon plainIntake (World.fresh 0)).run (racing ++ [.boot, .wait 9])).store ⟨1, 1⟩) := by
  have single := (one_order plainIntake ⟨1, 1⟩ (World.fresh 0) (unused_fresh ⟨1, 1⟩ 0) racing
    [.boot, .wait 9] (by decide)).1
  exact ⟨single, (single.placed ⟨_, rfl, rfl⟩).held⟩

end Lnrent.Capacity
