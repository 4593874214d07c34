/-
**The generation gate.** A drive begins a generation only where the last one is closed, and pays under
the one that it persisted.

* `send_acts` — a payment is sent under the one generation that may still be paid;
* `Drive.plan_relies`, `Drive.asked_relies`, `Drive.quoted_relies` — `plan_payment`, decision by
  decision;
* `advance_strides` — **every stretch of a drive** whose answer is truthful keeps the invariant and its
  own assertion.
-/

import Lnrent.Refund.Generations

namespace Lnrent.Refunder

open Relational Transition Ledger Refund

/-! ### The stretches of a drive -/

section Stretches

variable {seams : Seams} {shared : Shared} {drive : Drive} {payment : Payment}

/-- The wallet with a payment of a drive under way. -/
def Shared.sending (shared : Shared) (key : PayKey) : Shared :=
  { shared with wallet := Function.update shared.wallet key .pending }

theorem sending_other {externalId : ExternalId} {generation : ℕ}
    (different : externalId = drive.externalId → generation ≠ payment.generation) :
    (shared.sending (drive.key payment)).wallet (.refund externalId generation) =
      shared.wallet (.refund externalId generation) := by
  refine Function.update_of_ne ?_ _ _
  intro same
  obtain ⟨owner, own⟩ : externalId = drive.externalId ∧ generation = payment.generation := by
    simpa [Drive.key] using same
  exact different owner own

theorem sending_paid {sent key : PayKey} (fresh : ¬ Outstanding (shared.wallet sent))
    (went : shared.wallet key = .succeeded) : (shared.sending sent).wallet key = .succeeded := by
  by_cases same : key = sent
  · subst same
    exact absurd (.inr went) fresh
  · exact (Function.update_of_ne same _ _).trans went

/-- Only the generation that is sent stops being closed, and not even that one where a failure is
final. -/
theorem sending_closed (final : seams.reusesFailedInvoice = false →
      shared.wallet (drive.key payment) ≠ .failed) {externalId : ExternalId} {generation : ℕ}
    (other : seams.reusesFailedInvoice = true → externalId = drive.externalId →
      generation ≠ payment.generation)
    (closed : Closed seams (shared.wallet (.refund externalId generation))) :
    Closed seams ((shared.sending (drive.key payment)).wallet (.refund externalId generation)) := by
  rw [sending_other fun owner own => ?_]
  · exact closed
  · subst owner own
    cases reuses : seams.reusesFailedInvoice with
    | false => exact final reuses (closed.2 reuses)
    | true => exact other reuses rfl rfl

/-- What lies behind a generation that is not above the one sent. -/
theorem sending_past (final : seams.reusesFailedInvoice = false →
      shared.wallet (drive.key payment) ≠ .failed) {externalId : ExternalId} {generation : ℕ}
    (top : seams.reusesFailedInvoice = true → externalId = drive.externalId →
      generation ≤ payment.generation)
    (past : Past seams shared externalId generation) :
    Past seams (shared.sending (drive.key payment)) externalId generation := by
  intro older first below
  refine sending_closed final (fun reuses owner => ?_) (past older first below)
  have := top reuses owner
  omega

/-- **A payment is sent**, under the one generation that may still be paid. -/
theorem send_acts {current : RefundRow} (ruled : Ruled seams shared)
    (found : shared.store.refundAttempt.row drive.externalId = some current)
    (dest : current.dest = drive.row.dest)
    (due : Due seams shared drive.externalId drive.row current payment.generation)
    (final : seams.reusesFailedInvoice = false → shared.wallet (drive.key payment) ≠ .failed)
    (fresh : ¬ Outstanding (shared.wallet (drive.key payment))) :
    Acts seams shared (shared.sending (drive.key payment)) drive := by
  have went : ∀ {externalId}, Paid shared.wallet externalId →
      Paid (shared.sending (drive.key payment)).wallet externalId :=
    fun ⟨generation, went⟩ => ⟨generation, sending_paid fresh went⟩
  refine ⟨.intro (fun externalId none_ generation => ?_) fun externalId row here => ?_,
    fun externalId other => ?_⟩
  · have absent : shared.store.refundAttempt.row externalId = none := none_
    have different : externalId ≠ drive.externalId := by
      rintro rfl
      cases absent.symm.trans found
    rw [sending_other fun owner => absurd owner different]
    exact ruled.absent absent generation
  · have known := ruled.row here
    by_cases same : externalId = drive.externalId
    · subst same
      cases found.symm.trans here
      refine known.moved (fun generation top => sending_past final fun reuses _ => ?_) went ?_
      · exact (top reuses).trans (due.current reuses).ge
      · intro generation open_
        by_cases own : generation = payment.generation
        · subst own
          exact .inr ⟨due.form.trans (Direct.of_dest dest).symm, due.past,
            fun reuses => (due.current reuses).le⟩
        · rw [sending_other fun _ => own] at open_
          exact .inl open_
    · refine known.moved (fun generation _ => sending_past final fun _ owner => ?_) went ?_
      · exact absurd owner same
      · intro generation open_
        rw [sending_other fun owner => absurd owner same] at open_
        exact .inl open_
  · refine ⟨fun row here => ⟨row, here, rfl, fun _ => ⟨rfl, rfl⟩⟩, fun generation => ?_,
      fun generation => sending_paid fresh⟩
    exact sending_closed final fun reuses owner => absurd owner (other reuses)

end Stretches

/-! ### Deciding what to pay -/

section Deciding

variable {seams : Seams} {shared : Shared} {drive : Drive} {current : RefundRow}

/-- A payment under the listed generation. -/
theorem Listed.due (known : Listed seams shared drive.externalId drive.row current)
    (form : drive.row.resolutionGen = 0 ↔ Direct seams drive.row) :
    Due seams shared drive.externalId drive.row current drive.row.resolutionGen :=
  ⟨form, known.past, fun reuses => (known.same reuses).2.symm⟩

/-- Where the attempt may have a payment, it fits the arm of `plan_payment`. -/
theorem Drive.plan_relies (known : Listed seams shared drive.externalId drive.row current) :
    (drive.plan seams).Relies seams shared drive.externalId drive.row current := by
  unfold Drive.plan
  cases destined : drive.row.dest with
  | none => trivial
  | some dest =>
      dsimp only
      split
      · trivial
      · cases form : seams.detectForm dest with
        | none => trivial
        | some form' =>
            cases form' with
            | bolt11 =>
                dsimp only
                split
                · trivial
                · exact ⟨known, ⟨dest, destined, form⟩, known.direct ⟨dest, destined, form⟩⟩
            | fetched =>
                have other : ¬ Direct seams drive.row := by
                  rintro ⟨dest', destined', form'⟩
                  cases destined.symm.trans destined'
                  cases form.symm.trans form'
                dsimp only
                cases resolved : drive.row.resolvedBolt11 with
                | none =>
                    have first := known.shape.mp resolved
                    exact ⟨known, ⟨other, first⟩, fun one => by omega⟩
                | some bolt11 =>
                    have later : drive.row.resolutionGen ≠ 0 :=
                      fun first => by cases resolved.symm.trans (known.shape.mpr first)
                    exact ⟨known, other, later⟩

/-- **The generation gate**: the status decides whether anything new is paid. -/
theorem Drive.asked_relies {source : Source} {status : Option PayStatus}
    (asking : drive.phase = .asking source)
    (known : Listed seams shared drive.externalId drive.row current)
    (fits : source.Fits seams drive.row)
    (truthful : Truthful seams shared.wallet drive (.status status)) :
    (drive.asked seams source status).Relies seams shared drive.externalId drive.row current := by
  cases status with
  | none => cases source <;> trivial
  | some status =>
      cases source with
      | direct dest sat =>
          obtain ⟨direct, first⟩ := fits
          cases status with
          | succeeded =>
              exact ⟨0, truthful (.refund drive.externalId 0) (by simp [Drive.asks, asking])⟩
          | pending =>
              have due := known.due (iff_of_true first direct)
              rw [first] at due
              exact due
          | failed | unknown => exact ⟨known, ⟨direct, first⟩, fun one => by omega⟩
      | fresh dest =>
          obtain ⟨other, first⟩ := fits
          cases status with
          | succeeded =>
              exact ⟨_, truthful (.refund drive.externalId drive.row.resolutionGen)
                (by simp [Drive.asks, asking])⟩
          | pending | failed | unknown => exact ⟨known, ⟨other, first⟩, fun one => by omega⟩
      | persisted dest bolt11 =>
          obtain ⟨other, resolved⟩ := fits
          cases status with
          | succeeded =>
              exact ⟨_, truthful (.refund drive.externalId drive.row.resolutionGen)
                (by simp [Drive.asks, asking])⟩
          | pending | unknown => exact known.due (iff_of_false resolved other)
          | failed =>
              exact ⟨known, ⟨other, resolved⟩, fun _ =>
                truthful (.refund drive.externalId drive.row.resolutionGen)
                  (by simp [Drive.asks, asking])⟩

theorem resolveNet_relies {net generation : ℕ}
    (begins : Begins seams shared drive.externalId drive.row current generation) :
    (resolveNet net generation).Relies seams shared drive.externalId drive.row current := by
  unfold resolveNet
  split
  · trivial
  · exact begins

/-- **A new generation begins** only where the last one is closed. -/
theorem Drive.quoted_relies {source : Source} {net : Option ℕ}
    (known : Listed seams shared drive.externalId drive.row current)
    (fits : source.Fits seams drive.row)
    (closed : 1 ≤ drive.row.resolutionGen →
      Closed seams (shared.wallet (.refund drive.externalId drive.row.resolutionGen))) :
    (drive.quoted seams source net).Relies seams shared drive.externalId drive.row current := by
  cases net with
  | none => cases source <;> trivial
  | some net =>
      unfold Drive.quoted
      dsimp only
      split
      · trivial
      · cases source with
        | direct dest sat =>
            obtain ⟨direct, first⟩ := fits
            have due := known.due (iff_of_true first direct)
            rw [first] at due
            dsimp only
            split
            · trivial
            · exact due
        | fresh dest =>
            obtain ⟨other, first⟩ := fits
            refine resolveNet_relies ⟨other, le_rfl, fun older one below => by omega,
              fun reuses => ?_⟩
            rw [(known.same reuses).2, first]
            exact Nat.zero_le 1
        | persisted dest bolt11 =>
            obtain ⟨other, resolved⟩ := fits
            dsimp only
            split
            · refine resolveNet_relies ⟨other, Nat.succ_pos _, fun older one below => ?_,
                fun reuses => (known.same reuses).2.trans_le (Nat.le_succ _)⟩
              rcases Nat.lt_succ_iff_lt_or_eq.mp below with earlier | rfl
              · exact known.past older one earlier
              · exact closed one
            · exact known.due (iff_of_false resolved other)

end Deciding

/-! ### The steps of a drive -/

section Advance

variable {seams : Seams} {shared : Shared} {drive : Drive}

/-- **A store job** keeps the attempts governed, and a drive that goes on from it relies on what it
wrote. -/
theorem write_acts (ruled : Ruled seams shared) (sound : drive.Sound seams shared) :
    Acts seams shared (shared.write drive).1 drive := by
  obtain ⟨current, found, dest, relies⟩ := sound
  cases phase : drive.phase with
  | persisting resolved payment =>
      rw [phase] at relies
      rw [write_persisting phase found]
      split_ifs with pending
      · exact persisted_acts ruled found dest relies pending resolved
      · exact .idle ruled
  | committing final =>
      rw [phase] at relies
      unfold Shared.write
      rw [phase]
      refine (finish_tends shared drive.externalId drive.now final fun sent => ?_).acts ruled
      subst sent
      exact relies
  | _ =>
      unfold Shared.write
      rw [phase]
      exact .idle ruled

theorem write_orphans (shared : Shared) (drive : Drive) :
    (shared.write drive).1.orphans = shared.orphans := by
  unfold Shared.write
  cases drive.phase with
  | committing final =>
      cases final with
      | unpaid allowTerminal =>
          dsimp only
          unfold Shared.finish
          dsimp only
          split <;> rfl
      | _ => rfl
  | _ => rfl

/-- **What a stretch of a drive comes to.** -/
structure Strides (seams : Seams) (shared : Shared) (drive : Drive) (result : Shared × Option Drive) :
    Prop where
  acts : Acts seams shared result.1 drive
  orphans : result.1.orphans = shared.orphans
  next : ∀ next, result.2 = some next →
    next.externalId = drive.externalId ∧ next.Sound seams result.1

theorem Strides.stops {after : Shared} (acts : Acts seams shared after drive)
    (orphans : after.orphans = shared.orphans) : Strides seams shared drive (after, none) :=
  ⟨acts, orphans, by simp⟩

theorem Strides.ends (ruled : Ruled seams shared) : Strides seams shared drive (shared, none) :=
  .stops (.idle ruled) rfl

/-- The drive goes on in a phase whose assertion holds. -/
theorem Strides.goes {current : RefundRow} {next : Drive} (ruled : Ruled seams shared)
    (found : shared.store.refundAttempt.row drive.externalId = some current)
    (dest : current.dest = drive.row.dest) (owner : next.externalId = drive.externalId)
    (row : next.row = drive.row)
    (relies : next.phase.Relies seams shared drive.externalId drive.row current) :
    Strides seams shared drive (shared, some next) := by
  refine ⟨.idle ruled, rfl, ?_⟩
  intro next' same
  obtain rfl : next = next' := by simpa using same
  refine ⟨owner, current, ?_, ?_, ?_⟩
  · rw [owner]
    exact found
  · rw [row]
    exact dest
  · rw [owner, row]
    exact relies

theorem persisting_strides {resolved : Resolved} {payment : Payment} (ruled : Ruled seams shared)
    (sound : drive.Sound seams shared) (phase : drive.phase = .persisting resolved payment) :
    Strides seams shared drive (drive.stored shared (.checking payment)) := by
  have acts := write_acts ruled sound
  obtain ⟨current, found, dest, relies⟩ := sound
  rw [phase] at relies
  unfold Drive.stored
  rw [write_persisting phase found] at acts ⊢
  by_cases pending : current.status = .pending
  · rw [if_pos pending] at acts ⊢
    refine ⟨acts, rfl, fun next goes => ?_⟩
    obtain rfl : drive.at (.checking payment) = next := by simpa using goes
    exact ⟨rfl, _, Table.put_row_self _ _ _, dest, persisted_due relies resolved⟩
  · rw [if_neg pending] at acts ⊢
    exact .stops acts rfl

theorem sending_strides {payment : Payment} (ruled : Ruled seams shared)
    (sound : drive.Sound seams shared) (phase : drive.phase = .paying payment)
    (final : seams.reusesFailedInvoice = false → shared.wallet (drive.key payment) ≠ .failed) :
    Strides seams shared drive (shared.send (drive.key payment), some drive) := by
  obtain ⟨current, found, dest, relies⟩ := sound
  unfold Shared.send
  split_ifs with outstanding
  · exact .goes ruled found dest rfl rfl relies
  · rw [phase] at relies
    refine ⟨send_acts ruled found dest relies final outstanding, rfl, fun next goes => ?_⟩
    obtain rfl : drive = next := by simpa using goes
    refine ⟨rfl, current, found, dest, ?_⟩
    rw [phase]
    exact ⟨relies.form, sending_past final (fun _ _ => le_rfl) relies.past, relies.current⟩

/-- **Every stretch of a drive whose answer is truthful** keeps the invariant and its own assertion. -/
theorem advance_strides {answer : Answer} (ruled : Ruled seams shared)
    (sound : drive.Sound seams shared) (truthful : Truthful seams shared.wallet drive answer) :
    Strides seams shared drive (drive.advance seams shared answer) := by
  have whole := sound
  obtain ⟨current, found, dest, relies⟩ := sound
  have stays : Strides seams shared drive (shared, some drive) :=
    .goes ruled found dest rfl rfl relies
  have ends : Strides seams shared drive (shared, none) := .ends ruled
  have goes : ∀ {phase : Phase}, phase.Relies seams shared drive.externalId drive.row current →
      Strides seams shared drive (shared, some (drive.at phase)) :=
    fun relies => .goes ruled found dest rfl rfl relies
  unfold Drive.advance
  cases phase : drive.phase with
  | listed =>
      rw [phase] at relies
      cases answer with
      | starts now =>
          dsimp only
          split
          · exact ends
          · exact .goes ruled found dest rfl rfl relies
      | _ => exact stays
  | proving =>
      rw [phase] at relies
      cases answer with
      | stored =>
          dsimp only
          split
          · exact goes trivial
          · rename_i received proved
            let known : Drive := { drive with received }
            have plan : (known.plan seams).Relies seams shared drive.externalId drive.row current :=
              Drive.plan_relies relies
            exact .goes ruled found dest rfl rfl plan
      | storeFails => exact ends
      | _ => exact stays
  | asking source =>
      rw [phase] at relies
      cases answer with
      | status status => exact goes (Drive.asked_relies phase relies.1 relies.2 truthful)
      | _ => exact stays
  | quoting source =>
      rw [phase] at relies
      cases answer with
      | quote net => exact goes (Drive.quoted_relies relies.1 relies.2.1 relies.2.2)
      | _ => exact stays
  | resolving net generation =>
      rw [phase] at relies
      cases answer with
      | resolves resolution =>
          cases resolution with
          | resolved resolved => exact goes relies
          | structural | transient => exact goes trivial
      | _ => exact stays
  | persisting resolved payment =>
      cases answer with
      | stored => exact persisting_strides ruled whole phase
      | storeFails => exact goes trivial
      | _ => exact stays
  | checking payment =>
      rw [phase] at relies
      cases answer with
      | status status =>
          dsimp only
          by_cases went : status = some .succeeded
          · rw [if_pos went]
            subst went
            exact goes ⟨payment.generation,
              truthful (drive.key payment) (by simp [Drive.asks, phase])⟩
          · rw [if_neg went]
            exact goes relies
      | _ => exact stays
  | preparing payment =>
      rw [phase] at relies
      cases answer with
      | prepares done =>
          cases done with
          | true => exact goes relies
          | false => exact goes trivial
      | _ => exact stays
  | authorising payment =>
      rw [phase] at relies
      cases answer with
      | stored =>
          dsimp only
          unfold Drive.stored Shared.write
          simp only [phase]
          split
          · exact goes relies
          · exact ends
      | storeFails => exact goes trivial
      | _ => exact stays
  | paying payment =>
      cases answer with
      | sends =>
          exact sending_strides ruled whole phase
            (truthful (drive.key payment) (by simp [Drive.pays, phase]))
      | pays paid =>
          rw [phase] at relies
          cases paid with
          | true =>
              exact goes ⟨payment.generation,
              truthful (drive.key payment) (by simp [Drive.pays, phase])⟩
          | false => exact goes relies
      | _ => exact stays
  | rechecking payment =>
      rw [phase] at relies
      cases answer with
      | status status =>
          dsimp only
          by_cases went : status = some .succeeded
          · rw [if_pos went]
            subst went
            exact goes ⟨payment.generation,
              truthful (drive.key payment) (by simp [Drive.asks, phase])⟩
          · rw [if_neg went]
            exact goes trivial
      | _ => exact stays
  | committing final =>
      cases answer with
      | stored => exact .stops (write_acts ruled whole) (write_orphans shared drive)
      | storeFails => exact ends
      | _ => exact stays

end Advance

end Lnrent.Refunder
