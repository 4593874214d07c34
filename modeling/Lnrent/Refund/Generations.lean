/-
**The generations of a refund.** Every resolution of a destination mints a new payment, under the key of
the next generation, and a backend deduplicates one key only.

* `Truthful` — what the answers of a backend say of its payments, the PayStatus contract;
* `Governed`, `Ruled` — **the invariant**: the generations behind an attempt and behind each of its
  payments are closed;
* `Drive.Sound` — what a drive relies on while it waits, `Drive.Sound.steady` — it survives the steps of
  others;
* `Tends`, `Settles`, `Acts` — what transactions, the wallet and drives do to the attempts.
-/

import Lnrent.Refund.Budget

namespace Lnrent.Refunder

open Relational Transition Ledger Refund

/-! ### The contract -/

/-- The key whose status a drive waits for. -/
def Drive.asks (drive : Drive) : Option PayKey :=
  match drive.phase with
  | .asking (.direct _ _) => some (.refund drive.externalId 0)
  | .asking _ => some (.refund drive.externalId drive.row.resolutionGen)
  | .checking payment | .rechecking payment => some (drive.key payment)
  | _ => none

/-- The key a drive is paying under. -/
def Drive.pays (drive : Drive) : Option PayKey :=
  match drive.phase with
  | .paying payment => some (drive.key payment)
  | _ => none

/-- What FAILED says of a payment: nothing of it is outstanding, and with a backend that never pays a
failed invoice again it has failed for good. -/
def Closed (seams : Seams) (status : PayStatus) : Prop :=
  ¬ Outstanding status ∧ (seams.reusesFailedInvoice = false → status = .failed)

instance (seams : Seams) (status : PayStatus) : Decidable (Closed seams status) :=
  inferInstanceAs (Decidable (_ ∧ _))

/-- **The PayStatus contract.** PENDING, UNKNOWN and a failed lookup say nothing. -/
def Truthful (seams : Seams) (wallet : PayKey → PayStatus) (drive : Drive) : Answer → Prop
  | .status (some .succeeded) => ∀ key ∈ drive.asks, wallet key = .succeeded
  | .status (some .failed) => ∀ key ∈ drive.asks, Closed seams (wallet key)
  | .sends => ∀ key ∈ drive.pays, seams.reusesFailedInvoice = false → wallet key ≠ .failed
  | .pays true => ∀ key ∈ drive.pays, wallet key = .succeeded
  | _ => True

instance (seams : Seams) (wallet : PayKey → PayStatus) (drive : Drive) (answer : Answer) :
    Decidable (Truthful seams wallet drive answer) := by
  unfold Truthful
  split <;> infer_instance

/-- A payment of the attempt went through. -/
def Paid (wallet : PayKey → PayStatus) (externalId : ExternalId) : Prop :=
  ∃ generation, wallet (.refund externalId generation) = .succeeded

/-! ### The invariant -/

section Invariant

variable (seams : Seams) (shared : Shared)

/-- The destination is itself an invoice, which is paid under generation 0. -/
def Direct (row : RefundRow) : Prop :=
  ∃ dest, row.dest = some dest ∧ seams.detectForm dest = some .bolt11

/-- The resolved generations below are closed. -/
def Past (externalId : ExternalId) (generation : ℕ) : Prop :=
  ∀ older, 1 ≤ older → older < generation →
    Closed seams (shared.wallet (.refund externalId older))

/-- **An attempt and its payments.** With a backend that pays failed invoices again only one drive at a
time moves the generation, so none is outstanding above it. -/
structure Governed (externalId : ExternalId) (row : RefundRow) : Prop where
  shape : row.resolvedBolt11 = none ↔ row.resolutionGen = 0
  direct : Direct seams row → row.resolutionGen = 0
  past : Past seams shared externalId row.resolutionGen
  sent : row.status = .sent → Paid shared.wallet externalId
  outstanding : ∀ generation, Outstanding (shared.wallet (.refund externalId generation)) →
    (generation = 0 ↔ Direct seams row) ∧ Past seams shared externalId generation ∧
      (seams.reusesFailedInvoice = true → generation ≤ row.resolutionGen)

/-- Every attempt is governed, and what does not exist is not paid. -/
def Ruled : Prop :=
  ∀ externalId, match shared.store.refundAttempt.row externalId with
    | none => ∀ generation, ¬ Outstanding (shared.wallet (.refund externalId generation))
    | some row => Governed seams shared externalId row

end Invariant

section Sound

variable (seams : Seams) (shared : Shared) (externalId : ExternalId) (listed current : RefundRow)

/-- A drive works on the row as it was listed. -/
structure Listed : Prop where
  shape : listed.resolvedBolt11 = none ↔ listed.resolutionGen = 0
  direct : Direct seams listed → listed.resolutionGen = 0
  past : Past seams shared externalId listed.resolutionGen
  same : seams.reusesFailedInvoice = true → current.resolvedBolt11 = listed.resolvedBolt11 ∧
    current.resolutionGen = listed.resolutionGen

/-- A drive is about to begin a generation. -/
structure Begins (generation : ℕ) : Prop where
  fetched : ¬ Direct seams listed
  first : 1 ≤ generation
  past : Past seams shared externalId generation
  above : seams.reusesFailedInvoice = true → current.resolutionGen ≤ generation

/-- A drive may pay under a generation. -/
structure Due (generation : ℕ) : Prop where
  form : generation = 0 ↔ Direct seams listed
  past : Past seams shared externalId generation
  current : seams.reusesFailedInvoice = true → generation = current.resolutionGen

/-- The arm of `plan_payment` fits the listed row. -/
def Source.Fits : Source → Prop
  | .direct _ _ => Direct seams listed ∧ listed.resolutionGen = 0
  | .fresh _ => ¬ Direct seams listed ∧ listed.resolutionGen = 0
  | .persisted _ _ => ¬ Direct seams listed ∧ listed.resolutionGen ≠ 0

/-- **What a drive relies on**, phase by phase. -/
def Phase.Relies : Phase → Prop
  | .listed | .proving => Listed seams shared externalId listed current
  | .asking source => Listed seams shared externalId listed current ∧ source.Fits seams listed
  | .quoting source =>
      Listed seams shared externalId listed current ∧ source.Fits seams listed ∧
        (1 ≤ listed.resolutionGen →
          Closed seams (shared.wallet (.refund externalId listed.resolutionGen)))
  | .resolving _ generation => Begins seams shared externalId listed current generation
  | .persisting _ payment => Begins seams shared externalId listed current payment.generation
  | .checking payment | .preparing payment | .authorising payment | .paying payment
  | .rechecking payment => Due seams shared externalId listed current payment.generation
  | .committing .sent => Paid shared.wallet externalId
  | .committing _ => True

/-- **The assertion of a drive.** -/
def Drive.Sound (drive : Drive) : Prop :=
  ∃ current, shared.store.refundAttempt.row drive.externalId = some current ∧
    current.dest = drive.row.dest ∧
    drive.phase.Relies seams shared drive.externalId drive.row current

end Sound

/-! ### What a step may do to an attempt -/

section Steps

variable {seams : Seams} {shared after : Shared} {drive : Drive} {externalId : ExternalId}

theorem Ruled.intro
    (absent : ∀ externalId, shared.store.refundAttempt.row externalId = none →
      ∀ generation, ¬ Outstanding (shared.wallet (.refund externalId generation)))
    (governed : ∀ externalId row, shared.store.refundAttempt.row externalId = some row →
      Governed seams shared externalId row) : Ruled seams shared := by
  intro externalId
  cases found : shared.store.refundAttempt.row externalId with
  | none => exact absent externalId found
  | some row => exact governed externalId row found

theorem Ruled.absent (ruled : Ruled seams shared)
    (none_ : shared.store.refundAttempt.row externalId = none) (generation : ℕ) :
    ¬ Outstanding (shared.wallet (.refund externalId generation)) := by
  have known := ruled externalId
  rw [none_] at known
  exact known generation

theorem Ruled.row (ruled : Ruled seams shared) {row : RefundRow}
    (found : shared.store.refundAttempt.row externalId = some row) :
    Governed seams shared externalId row := by
  have known := ruled externalId
  rw [found] at known
  exact known

/-- **A step of another party**: the attempt keeps its destination, what is closed stays closed, and
what went through stays paid. With a backend that pays failed invoices again it keeps its generation
too. -/
structure Steady (seams : Seams) (shared after : Shared) (externalId : ExternalId) : Prop where
  row : ∀ row, shared.store.refundAttempt.row externalId = some row →
    ∃ row', after.store.refundAttempt.row externalId = some row' ∧ row'.dest = row.dest ∧
      (seams.reusesFailedInvoice = true → row'.resolvedBolt11 = row.resolvedBolt11 ∧
        row'.resolutionGen = row.resolutionGen)
  closed : ∀ generation, Closed seams (shared.wallet (.refund externalId generation)) →
    Closed seams (after.wallet (.refund externalId generation))
  paid : ∀ generation, shared.wallet (.refund externalId generation) = .succeeded →
    after.wallet (.refund externalId generation) = .succeeded

theorem Steady.past (steady : Steady seams shared after externalId) {generation : ℕ}
    (past : Past seams shared externalId generation) : Past seams after externalId generation :=
  fun older first below => steady.closed older (past older first below)

theorem Steady.went (steady : Steady seams shared after externalId)
    (paid : Paid shared.wallet externalId) : Paid after.wallet externalId :=
  let ⟨generation, paid⟩ := paid
  ⟨generation, steady.paid generation paid⟩

/-- **A drive's assertion survives the steps of others.** -/
theorem Drive.Sound.steady (sound : drive.Sound seams shared)
    (steady : Steady seams shared after drive.externalId) : drive.Sound seams after := by
  obtain ⟨current, found, dest, relies⟩ := sound
  obtain ⟨current', found', dest', same⟩ := steady.row current found
  refine ⟨current', found', dest'.trans dest, ?_⟩
  have listed : Listed seams shared drive.externalId drive.row current →
      Listed seams after drive.externalId drive.row current' :=
    fun listed => ⟨listed.shape, listed.direct, steady.past listed.past, fun reuses =>
      ⟨(same reuses).1.trans (listed.same reuses).1, (same reuses).2.trans (listed.same reuses).2⟩⟩
  have begins : ∀ {generation}, Begins seams shared drive.externalId drive.row current generation →
      Begins seams after drive.externalId drive.row current' generation :=
    fun begins => ⟨begins.fetched, begins.first, steady.past begins.past, fun reuses =>
      (same reuses).2.trans_le (begins.above reuses)⟩
  have due : ∀ {generation}, Due seams shared drive.externalId drive.row current generation →
      Due seams after drive.externalId drive.row current' generation :=
    fun due => ⟨due.form, steady.past due.past, fun reuses =>
      (due.current reuses).trans (same reuses).2.symm⟩
  cases phase : drive.phase with
  | listed | proving =>
      rw [phase] at relies
      exact listed relies
  | asking source =>
      rw [phase] at relies
      exact ⟨listed relies.1, relies.2⟩
  | quoting source =>
      rw [phase] at relies
      exact ⟨listed relies.1, relies.2.1, fun resolved => steady.closed _ (relies.2.2 resolved)⟩
  | resolving net generation | persisting resolved payment =>
      rw [phase] at relies
      exact begins relies
  | checking payment | preparing payment | authorising payment | paying payment
  | rechecking payment =>
      rw [phase] at relies
      exact due relies
  | committing final =>
      rw [phase] at relies
      cases final with
      | sent => exact steady.went relies
      | _ => trivial

/-- **What a transaction that begins no generation may do to an attempt.** -/
inductive Tended (wallet : PayKey → PayStatus) (externalId : ExternalId) :
    Option RefundRow → Option RefundRow → Prop where
  | absent : Tended wallet externalId none none
  | kept {row row' : RefundRow} (dest : row'.dest = row.dest)
      (bolt11 : row'.resolvedBolt11 = row.resolvedBolt11)
      (generation : row'.resolutionGen = row.resolutionGen)
      (sent : row'.status = .sent → row.status = .sent ∨ Paid wallet externalId) :
      Tended wallet externalId (some row) (some row')
  | inserted {row : RefundRow} (unresolved : row.resolvedBolt11 = none)
      (first : row.resolutionGen = 0) (unsent : row.status ≠ .sent) :
      Tended wallet externalId none (some row)

theorem Tended.refl (wallet : PayKey → PayStatus) (externalId : ExternalId) (row : Option RefundRow) :
    Tended wallet externalId row row := by
  cases row with
  | none => exact .absent
  | some row => exact .kept rfl rfl rfl .inl

/-- The attempts of the second state are those of the first, tended. -/
structure Tends (shared after : Shared) : Prop where
  wallet : after.wallet = shared.wallet
  row : ∀ externalId, Tended shared.wallet externalId (shared.store.refundAttempt.row externalId)
    (after.store.refundAttempt.row externalId)

theorem Tends.steady (tends : Tends shared after) (externalId : ExternalId) :
    Steady seams shared after externalId := by
  refine ⟨fun row found => ?_, fun _ closed => ?_, fun _ paid => ?_⟩
  · have tended := tends.row externalId
    rw [found] at tended
    generalize after.store.refundAttempt.row externalId = there at tended ⊢
    cases tended with
    | kept dest bolt11 generation sent => exact ⟨_, rfl, dest, fun _ => ⟨bolt11, generation⟩⟩
  · rw [tends.wallet]
    exact closed
  · rw [tends.wallet]
    exact paid

theorem Direct.of_dest {row row' : RefundRow} (dest : row'.dest = row.dest) :
    Direct seams row' ↔ Direct seams row := by
  unfold Direct
  rw [dest]

theorem Tends.ruled (tends : Tends shared after) (ruled : Ruled seams shared) :
    Ruled seams after := by
  intro externalId
  have known := ruled externalId
  have tended := tends.row externalId
  have past : ∀ {generation}, Past seams shared externalId generation →
      Past seams after externalId generation := (tends.steady externalId).past
  generalize shared.store.refundAttempt.row externalId = before at known tended
  generalize after.store.refundAttempt.row externalId = there at tended ⊢
  cases tended with
  | absent =>
      show ∀ generation, _
      rw [tends.wallet]
      exact known
  | @kept row row' dest bolt11 generation sent =>
      obtain ⟨shape, direct, old, paid, outstanding⟩ := known
      refine ⟨?_, ?_, ?_, ?_, ?_⟩
      · rw [bolt11, generation]
        exact shape
      · rw [generation, Direct.of_dest dest]
        exact direct
      · rw [generation]
        exact past old
      · intro ended
        rw [tends.wallet]
        exact (sent ended).elim paid id
      · intro any open_
        rw [tends.wallet] at open_
        obtain ⟨form, below, top⟩ := outstanding any open_
        rw [Direct.of_dest dest, generation]
        exact ⟨form, past below, top⟩
  | inserted unresolved first unsent =>
      refine ⟨by simp [unresolved, first], fun _ => first, ?_, fun sent => absurd sent unsent, ?_⟩
      · intro older one below
        omega
      · intro any open_
        rw [tends.wallet] at open_
        exact absurd open_ (known any)

/-- **What the wallet may do by itself**: nothing that was not under way goes through. -/
structure Settles (seams : Seams) (shared after : Shared) : Prop where
  store : after.store = shared.store
  outstanding : ∀ key, Outstanding (after.wallet key) → Outstanding (shared.wallet key)
  closed : ∀ key, Closed seams (shared.wallet key) → Closed seams (after.wallet key)
  paid : ∀ key, shared.wallet key = .succeeded → after.wallet key = .succeeded

theorem Settles.steady (settles : Settles seams shared after) (externalId : ExternalId) :
    Steady seams shared after externalId where
  row row found := ⟨row, by rw [settles.store]; exact found, rfl, fun _ => ⟨rfl, rfl⟩⟩
  closed _ := settles.closed _
  paid _ := settles.paid _

/-- The wallet moved: what was closed behind the generations of the attempt is closed, and what is newly
outstanding fits. -/
theorem Governed.moved {row : RefundRow} (governed : Governed seams shared externalId row)
    (past : ∀ generation, (seams.reusesFailedInvoice = true → generation ≤ row.resolutionGen) →
      Past seams shared externalId generation → Past seams after externalId generation)
    (paid : Paid shared.wallet externalId → Paid after.wallet externalId)
    (outstanding : ∀ generation, Outstanding (after.wallet (.refund externalId generation)) →
      Outstanding (shared.wallet (.refund externalId generation)) ∨
        (generation = 0 ↔ Direct seams row) ∧ Past seams shared externalId generation ∧
          (seams.reusesFailedInvoice = true → generation ≤ row.resolutionGen)) :
    Governed seams after externalId row := by
  refine ⟨governed.shape, governed.direct, past _ (fun _ => le_rfl) governed.past,
    fun sent => paid (governed.sent sent), fun generation open_ => ?_⟩
  obtain ⟨form, below, top⟩ := (outstanding generation open_).elim (governed.outstanding generation) id
  exact ⟨form, past generation top below, top⟩

theorem Settles.ruled (settles : Settles seams shared after) (ruled : Ruled seams shared) :
    Ruled seams after := by
  refine .intro (fun externalId none_ generation open_ => ?_) fun externalId row found => ?_
  · rw [settles.store] at none_
    exact ruled.absent none_ generation (settles.outstanding _ open_)
  · rw [settles.store] at found
    have steady := settles.steady externalId
    exact (ruled.row found).moved (fun _ _ => steady.past) steady.went
      fun generation open_ => .inl (settles.outstanding _ open_)

theorem update_settles (shared : Shared) {key : PayKey} {status : PayStatus}
    (outstanding : Outstanding status → Outstanding (shared.wallet key))
    (closed : Closed seams (shared.wallet key) → Closed seams status)
    (paid : shared.wallet key = .succeeded → status = .succeeded) :
    Settles seams shared { shared with wallet := Function.update shared.wallet key status } := by
  refine ⟨rfl, fun other => ?_, fun other => ?_, fun other => ?_⟩ <;> by_cases same : other = key
  · subst same
    simpa using outstanding
  · simp [Function.update_of_ne same]
  · subst same
    simpa using closed
  · simp [Function.update_of_ne same]
  · subst same
    simpa using paid
  · simp [Function.update_of_ne same]

theorem Settles.refl (shared : Shared) : Settles seams shared shared :=
  ⟨rfl, fun _ => id, fun _ => id, fun _ => id⟩

theorem land_settles (shared : Shared) (key : PayKey) (paid : Bool) :
    Settles seams shared (shared.land key paid) := by
  unfold Shared.land
  by_cases pending : shared.wallet key = .pending
  · rw [if_pos pending]
    exact update_settles shared (fun _ => .inl pending) (fun closed => absurd (.inl pending) closed.1)
      fun went => by cases pending.symm.trans went
  · rw [if_neg pending]
    exact .refl shared

theorem refuse_settles (shared : Shared) (key : PayKey) :
    Settles seams shared (shared.refuse key) := by
  unfold Shared.refuse
  by_cases unknown : shared.wallet key = .unknown
  · rw [if_pos unknown]
    exact update_settles shared (by simp [Outstanding]) (fun _ => by simp [Closed, Outstanding])
      fun went => by cases unknown.symm.trans went
  · rw [if_neg unknown]
    exact .refl shared

end Steps

/-! ### The transactions -/

section Transactions

variable {seams : Seams} {shared after : Shared} {drive : Drive} {externalId : ExternalId}

theorem Tends.same (wallet : after.wallet = shared.wallet)
    (rows : after.store.refundAttempt = shared.store.refundAttempt) : Tends shared after :=
  ⟨wallet, fun externalId => by rw [rows]; exact .refl _ _ _⟩

theorem Tends.put {row row' : RefundRow} (wallet : after.wallet = shared.wallet)
    (found : shared.store.refundAttempt.row externalId = some row)
    (rows : after.store.refundAttempt = shared.store.refundAttempt.put externalId row')
    (tended : Tended shared.wallet externalId (some row) (some row')) : Tends shared after := by
  refine ⟨wallet, fun other => ?_⟩
  rw [rows]
  by_cases same : other = externalId
  · subst same
    rw [Table.put_row_self, found]
    exact tended
  · rw [Table.put_row_other _ _ same]
    exact .refl _ _ _

/-- **The commits a drive ends with**: an attempt becomes SENT only if it was paid. -/
theorem finish_tends (shared : Shared) (externalId : ExternalId) (now : ℤ) (final : Final)
    (paid : final = .sent → Paid shared.wallet externalId) :
    Tends shared (shared.finish externalId now final) := by
  cases final with
  | sent =>
      rcases commitSent_cases shared.store externalId now with same | closes
      · exact .same rfl (congrArg Store.refundAttempt same)
      · obtain ⟨row, closed, found, pending, closes, same⟩ := closes
        have rows : (commitSent shared.store externalId now).2.refundAttempt =
            shared.store.refundAttempt.put externalId (sentAttempt row) := by
          rw [same]
          exact noted_closes_attempts closes
        exact .put rfl found rows (.kept rfl rfl rfl fun _ => .inr (paid rfl))
  | parked =>
      unfold Shared.finish commitParkFailed
      cases found : shared.store.refundAttempt.row externalId with
      | none => exact .same rfl rfl
      | some row =>
          by_cases pending : row.status = .pending
          · simp only [if_pos pending]
            exact .put rfl found (failed_attempts ..) (.kept rfl rfl rfl fun sent => by cases sent)
          · simp only [if_neg pending]
            exact .same rfl rfl
  | deferred =>
      unfold Shared.finish commitResolutionRetry
      cases found : shared.store.refundAttempt.row externalId with
      | none => exact .same rfl rfl
      | some row =>
          by_cases pending : row.status = .pending
          · simp only [if_pos pending]
            exact .same rfl rfl
          · simp only [if_neg pending]
            exact .same rfl rfl
  | unpaid allowTerminal =>
      unfold Shared.finish commitPayFailure
      cases found : shared.store.refundAttempt.row externalId with
      | none => exact .same rfl rfl
      | some row =>
          by_cases pending : row.status = .pending
          · by_cases left : allowTerminal = false ∨ row.attempts + 1 < maxRefundAttempts
            · simp only [if_pos pending, if_pos left]
              exact .put rfl found rfl (.kept rfl rfl rfl .inl)
            · simp only [if_pos pending, if_neg left]
              exact .put rfl found (failed_attempts ..)
                (.kept rfl rfl rfl fun sent => by cases sent)
          · simp only [if_neg pending]
            exact .same rfl rfl

/-- The operator's retry. -/
theorem retry_tends (shared : Shared) (externalId : ExternalId) (now : ℤ) :
    Tends shared (environment shared (.retry externalId now)) := by
  simp only [environment]
  unfold refundRetry
  cases found : shared.store.refundAttempt.row externalId with
  | none => exact .same rfl rfl
  | some row =>
      by_cases ready : row.fenced = false ∧ row.status = .failed
      · simp only [if_pos ready]
        exact .put rfl found rfl (.kept rfl rfl rfl fun sent => by cases sent)
      · simp only [if_neg ready]
        exact .same rfl rfl

/-- The transactions of the other modules. -/
theorem elsewhere_tends (shared : Shared) (other : Bystander) :
    Tends shared (environment shared (.elsewhere other)) := by
  refine ⟨rfl, fun externalId => ?_⟩
  show Tended _ _ _ ((other.write shared.store).refundAttempt.row externalId)
  have moved := other.attempts shared.store externalId
  generalize shared.store.refundAttempt.row externalId = before at moved ⊢
  generalize (other.write shared.store).refundAttempt.row externalId = there at moved ⊢
  cases moved with
  | same => exact .refl _ _ _
  | fenced row fenced => exact .kept rfl rfl rfl .inl
  | inserted pending unused unresolved first =>
      exact .inserted unresolved first (by rw [pending]; decide)

/-! ### What a drive does -/

/-- **A step of a drive**: the attempts stay governed, and it is steady for every other attempt; for its
own too, with a backend whose failed invoices are never paid again. -/
structure Acts (seams : Seams) (shared after : Shared) (drive : Drive) : Prop where
  ruled : Ruled seams after
  steady : ∀ externalId, (seams.reusesFailedInvoice = true → externalId ≠ drive.externalId) →
    Steady seams shared after externalId

theorem Tends.acts (tends : Tends shared after) (ruled : Ruled seams shared) :
    Acts seams shared after drive :=
  ⟨tends.ruled ruled, fun externalId _ => tends.steady externalId⟩

theorem Acts.idle (ruled : Ruled seams shared) : Acts seams shared shared drive :=
  (Tends.same rfl rfl).acts ruled

/-- An attempt that was resolved to the invoice of a generation. -/
def resolvedAttempt (row : RefundRow) (resolved : Resolved) (generation : ℕ) : RefundRow :=
  { row with
    resolvedBolt11 := some resolved.bolt11, resolvedExpiry := some resolved.expiry
    resolutionGen := generation }

/-- The store in which a drive has persisted what it resolved. -/
def Shared.persisted (shared : Shared) (externalId : ExternalId) (row : RefundRow)
    (resolved : Resolved) (generation : ℕ) : Shared :=
  { shared with
    store := putAttempt shared.store externalId (resolvedAttempt row resolved generation) }

theorem write_persisting {resolved : Resolved} {payment : Payment} {current : RefundRow}
    (phase : drive.phase = .persisting resolved payment)
    (found : shared.store.refundAttempt.row drive.externalId = some current) :
    shared.write drive = if current.status = .pending then
      (shared.persisted drive.externalId current resolved payment.generation, true)
      else (shared, false) := by
  unfold Shared.write persistResolution
  rw [phase, found]
  dsimp only
  split_ifs <;> rfl

/-- **Persisting a resolution** begins the generation that the drive resolved. -/
theorem persisted_acts {current : RefundRow} {generation : ℕ} (ruled : Ruled seams shared)
    (found : shared.store.refundAttempt.row drive.externalId = some current)
    (dest : current.dest = drive.row.dest)
    (begins : Begins seams shared drive.externalId drive.row current generation)
    (pending : current.status = .pending) (resolved : Resolved) :
    Acts seams shared (shared.persisted drive.externalId current resolved generation) drive := by
  have governed := ruled.row found
  refine ⟨.intro (fun externalId none_ => ?_) fun externalId row here => ?_,
    fun externalId other => ?_⟩
  · by_cases same : externalId = drive.externalId
    · subst same
      simp [Shared.persisted, putAttempt] at none_
    · exact ruled.absent ((Table.put_row_other _ _ same).symm.trans none_)
  · by_cases same : externalId = drive.externalId
    · subst same
      obtain rfl : resolvedAttempt current resolved generation = row := by
        simpa [Shared.persisted, putAttempt] using here
      refine ⟨?_, ?_, begins.past, ?_, ?_⟩
      · exact iff_of_false (Option.some_ne_none _) (Nat.one_le_iff_ne_zero.mp begins.first)
      · exact fun direct => absurd ((Direct.of_dest (by exact dest)).mp direct) begins.fetched
      · exact fun sent => by cases pending.symm.trans sent
      · intro any open_
        obtain ⟨form, below, top⟩ := governed.outstanding any open_
        exact ⟨form, below, fun reuses => (top reuses).trans (begins.above reuses)⟩
    · have known := ruled.row ((Table.put_row_other _ _ same).symm.trans here)
      exact ⟨known.shape, known.direct, known.past, known.sent, known.outstanding⟩
  · refine ⟨fun row here => ?_, fun _ => id, fun _ => id⟩
    by_cases same : externalId = drive.externalId
    · subst same
      exact ⟨_, Table.put_row_self _ _ _, by cases found.symm.trans here; rfl,
        fun reuses => absurd rfl (other reuses)⟩
    · exact ⟨row, (Table.put_row_other _ _ same).trans here, rfl, fun _ => ⟨rfl, rfl⟩⟩

/-- The drive goes on to pay under the generation it persisted. -/
theorem persisted_due {current : RefundRow} {generation : ℕ}
    (begins : Begins seams shared drive.externalId drive.row current generation) (resolved : Resolved) :
    Due seams (shared.persisted drive.externalId current resolved generation) drive.externalId drive.row
      (resolvedAttempt current resolved generation) generation :=
  ⟨iff_of_false (Nat.one_le_iff_ne_zero.mp begins.first) begins.fetched, begins.past, fun _ => rfl⟩

end Transactions

end Lnrent.Refunder
