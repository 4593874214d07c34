/-
**A net quote is the most a refund can pay.** Both backends invert their own cost; the payment computes
the cost again, forwards.

* `charged_le_iff` — saturating changes no comparison with a cap;
* `netPayoutSat_isGreatest`, `lnv2_isGreatest` — the quotes;
* `overCap_iff` — the check of the payment over phoenixd is the one that saturates;
* `quote_exact` — **the quote passes the check of its payment, and one sat more does not.**
-/

import Lnrent.Daemon.RefundQuote
import Lnrent.Daemon.PhoenixdPay
import Lnrent.Daemon.Lnv2Pay

namespace Lnrent.RefundQuote

open Search

/-! ### Saturation -/

/-- The caps there are. -/
theorem satToMsat_lt (sat : UInt64) : satToMsat sat.toNat < 2 ^ 74 := by
  have small : sat.toNat < 2 ^ 64 := sat.toNat_lt
  unfold satToMsat
  omega

/-- A payout with its proportional fee and base, computed without a limit. -/
def exactCharge (payMsat baseMsat ppm round : ℕ) : ℕ :=
  payMsat + ((payMsat * ppm + round) / 1000000 + baseMsat)

/-- **Saturating changes no comparison with a cap**, and no sum that fits it. -/
theorem charged_le_iff {cap : ℕ} (small : cap < 2 ^ 74) (payMsat baseMsat ppm round : ℕ) :
    (payMsat + satAdd ((satMul payMsat ppm + round) / 1000000) baseMsat ≤ cap ↔
        exactCharge payMsat baseMsat ppm round ≤ cap) ∧
      (exactCharge payMsat baseMsat ppm round ≤ cap →
        payMsat + satAdd ((satMul payMsat ppm + round) / 1000000) baseMsat =
          exactCharge payMsat baseMsat ppm round) := by
  unfold exactCharge satAdd satMul u128Max
  generalize payMsat * ppm = product
  omega

theorem satAdd_le_iff {cap : ℕ} (small : cap < 2 ^ 74) (one two : ℕ) :
    satAdd one two ≤ cap ↔ one + two ≤ cap := by
  unfold satAdd u128Max
  omega

/-- More is charged for more. -/
theorem exactCharge_mono {small large : ℕ} (ordered : small ≤ large) (baseMsat ppm round : ℕ) :
    exactCharge small baseMsat ppm round ≤ exactCharge large baseMsat ppm round := by
  unfold exactCharge
  have proportional : (small * ppm + round) / 1000000 ≤ (large * ppm + round) / 1000000 :=
    Nat.div_le_div_right (Nat.add_le_add_right (Nat.mul_le_mul_right ppm ordered) round)
  omega

/-! ### phoenixd -/

section Phoenixd

variable (schedule : FeeSchedule) (grossSat : UInt64)

/-- What phoenixd is reserved for a payout. -/
def FeeSchedule.exactOutlay (paySat : ℕ) : ℕ :=
  exactCharge (paySat * 1000) schedule.baseMsat.toNat schedule.ppm.toNat 999999

theorem FeeSchedule.charged_iff {cap : ℕ} (small : cap < 2 ^ 74) (paySat : ℕ) :
    satAdd (satToMsat paySat) (schedule.feeMsat (satToMsat paySat)) ≤ cap ↔
      schedule.exactOutlay paySat ≤ cap := by
  rw [satAdd_le_iff small]
  exact (charged_le_iff small _ _ _ 999999).1

theorem FeeSchedule.fits_iff (paySat : ℕ) :
    schedule.fits grossSat paySat = true ↔
      paySat = 0 ∨ schedule.exactOutlay paySat ≤ grossSat.toNat * 1000 := by
  unfold FeeSchedule.fits
  by_cases nothing : paySat = 0
  · simp [nothing]
  · rw [if_neg nothing, decide_eq_true_eq, schedule.charged_iff (satToMsat_lt grossSat)]
    exact ⟨.inr, fun fits => fits.resolve_left nothing⟩

/-- **phoenixd's quote is the greatest payout that fits**, or nothing. -/
theorem FeeSchedule.netPayoutSat_isGreatest :
    IsGreatest {paySat | paySat = 0 ∨ schedule.exactOutlay paySat ≤ grossSat.toNat * 1000}
      (schedule.netPayoutSat grossSat) := by
  have found : IsGreatest {paySat | paySat ≤ grossSat.toNat ∧ schedule.fits grossSat paySat = true}
      (schedule.netPayoutSat grossSat) := by
    refine bisect_isGreatest (fun small large ordered fits => ?_) 0 grossSat.toNat (Nat.zero_le _)
      ((schedule.fits_iff grossSat 0).mpr (.inl rfl))
    rw [schedule.fits_iff] at fits ⊢
    rcases fits with nothing | fits
    · exact .inl (by omega)
    · exact .inr ((exactCharge_mono (Nat.mul_le_mul_right 1000 ordered) _ _ _).trans fits)
  refine ⟨(schedule.fits_iff grossSat _).mp found.1.2, fun paySat fits => found.2 ⟨?_, ?_⟩⟩
  · rcases fits with nothing | fits
    · omega
    · unfold FeeSchedule.exactOutlay exactCharge at fits
      omega
  · exact (schedule.fits_iff grossSat paySat).mpr fits

/-- The cap check of the payment machine, which does not saturate, is the one of the source. -/
theorem overCap_iff (call : PhoenixdPay.Call)
    (capped : call.ceilingMsat = (PayCap.gross grossSat).ceilingMsat) :
    PhoenixdPay.OverCap ⟨schedule.baseMsat.toNat, schedule.ppm.toNat⟩ call ↔
      schedule.OverCap (.gross grossSat) call.amountSat := by
  unfold PhoenixdPay.OverCap FeeSchedule.OverCap
  rw [capped]
  simp only [PayCap.ceilingMsat, Option.mem_def, Option.some.injEq, exists_eq_left']
  rw [← not_le, ← not_le, schedule.charged_iff (satToMsat_lt grossSat)]
  rfl

theorem FeeSchedule.overCap_gross (amountSat : ℕ) :
    schedule.OverCap (.gross grossSat) amountSat ↔
      grossSat.toNat * 1000 < schedule.exactOutlay amountSat := by
  unfold FeeSchedule.OverCap
  simp only [PayCap.ceilingMsat, Option.mem_def, Option.some.injEq, exists_eq_left']
  rw [← not_le, ← not_le, schedule.charged_iff (satToMsat_lt grossSat)]
  rfl

end Phoenixd

/-! ### lnv2 -/

section Lnv2

variable (fee : GatewaySendFee) (grossSat : UInt64)

/-- The contracts of the two schedules, computed without a limit. -/
def GatewaySendFee.exactDefault (paySat : ℕ) : ℕ :=
  exactCharge (paySat * 1000) fee.defaultBaseMsat.toNat fee.defaultPpm.toNat 0

def GatewaySendFee.exactMinimum (paySat : ℕ) : ℕ :=
  exactCharge (paySat * 1000) fee.minimumBaseMsat.toNat fee.minimumPpm.toNat 0

/-- The contract of one schedule, where it fits a cap, is the exact one. -/
theorem contract_exact {cap : ℕ} (small : cap < 2 ^ 74) (paySat : ℕ) (baseMsat ppm : UInt64) :
    (satToMsat paySat + lnv2FeeMsat baseMsat ppm (satToMsat paySat) ≤ cap ↔
        exactCharge (paySat * 1000) baseMsat.toNat ppm.toNat 0 ≤ cap) ∧
      (exactCharge (paySat * 1000) baseMsat.toNat ppm.toNat 0 ≤ cap →
        satToMsat paySat + lnv2FeeMsat baseMsat ppm (satToMsat paySat) =
          exactCharge (paySat * 1000) baseMsat.toNat ppm.toNat 0) :=
  charged_le_iff small _ _ _ 0

theorem lnv2Valid_iff (paySat : ℕ) :
    lnv2Valid fee grossSat paySat = true ↔
      paySat = 0 ∨ fee.exactDefault paySat ≤ grossSat.toNat * 1000 ∧
        fee.exactMinimum paySat ≤ grossSat.toNat * 1000 := by
  have small := satToMsat_lt grossSat
  have first := (contract_exact small paySat fee.defaultBaseMsat fee.defaultPpm).1
  have second := (contract_exact small paySat fee.minimumBaseMsat fee.minimumPpm).1
  unfold lnv2Valid
  by_cases nothing : paySat = 0
  · simp [nothing]
  · rw [if_neg nothing, decide_eq_true_eq, satAdd_le_iff small]
    have both : satToMsat paySat + lnv2WorstFeeMsat fee (satToMsat paySat) ≤ satToMsat grossSat.toNat ↔
        satToMsat paySat + lnv2FeeMsat fee.defaultBaseMsat fee.defaultPpm (satToMsat paySat) ≤
            satToMsat grossSat.toNat ∧
          satToMsat paySat + lnv2FeeMsat fee.minimumBaseMsat fee.minimumPpm (satToMsat paySat) ≤
            satToMsat grossSat.toNat := by
      unfold lnv2WorstFeeMsat
      omega
    rw [both]
    exact ⟨fun known => .inr ⟨first.mp known.1, second.mp known.2⟩, fun known =>
      ⟨first.mpr (known.resolve_left nothing).1, second.mpr (known.resolve_left nothing).2⟩⟩

/-- **The gateway's bound** is the greatest payout whose contracts fit. -/
theorem lnv2GatewayNetPayoutSat_isGreatest :
    IsGreatest {paySat | paySat = 0 ∨ fee.exactDefault paySat ≤ grossSat.toNat * 1000 ∧
        fee.exactMinimum paySat ≤ grossSat.toNat * 1000} (lnv2GatewayNetPayoutSat fee grossSat) := by
  have found : IsGreatest {paySat | paySat ≤ grossSat.toNat ∧ lnv2Valid fee grossSat paySat = true}
      (lnv2GatewayNetPayoutSat fee grossSat) := by
    refine bisect_isGreatest (fun small large ordered fits => ?_) 0 grossSat.toNat (Nat.zero_le _)
      ((lnv2Valid_iff fee grossSat 0).mpr (.inl rfl))
    rw [lnv2Valid_iff] at fits ⊢
    rcases fits with nothing | fits
    · exact .inl (by omega)
    · have scaled := Nat.mul_le_mul_right 1000 ordered
      exact .inr ⟨(exactCharge_mono scaled _ _ _).trans fits.1,
        (exactCharge_mono scaled _ _ _).trans fits.2⟩
  refine ⟨(lnv2Valid_iff fee grossSat _).mp found.1.2, fun paySat fits => found.2 ⟨?_, ?_⟩⟩
  · rcases fits with nothing | fits
    · omega
    · have first := fits.1
      unfold GatewaySendFee.exactDefault exactCharge at first
      omega
  · exact (lnv2Valid_iff fee grossSat paySat).mpr fits

variable {wallet : ℕ → Except Problem ℕ}

/-- The outlay, computed without a limit. -/
def exactOutgoingOutlay (wallet : ℕ → Except Problem ℕ) (fee : GatewaySendFee) (paySat : ℕ) :
    Except Problem ℕ :=
  if paySat = 0 then .ok 0
  else worstOutlayMsat wallet (fee.exactDefault paySat) (fee.exactMinimum paySat)

variable (covers : ∀ contract outlay, wallet contract = .ok outlay → contract ≤ outlay)
include covers

/-- An outlay is no less than either contract. -/
theorem le_worstOutlayMsat {one two outlay : ℕ} (done : worstOutlayMsat wallet one two = .ok outlay) :
    one ≤ outlay ∧ two ≤ outlay := by
  unfold worstOutlayMsat at done
  cases first : wallet one with
  | error problem =>
      rw [first] at done
      cases done
  | ok cost =>
      have above := covers one cost first
      rw [first] at done
      have here : (if two = one then .ok cost
          else (wallet two).bind fun cost' => .ok (max cost cost') : Except Problem ℕ) = .ok outlay := done
      by_cases same : two = one
      · rw [if_pos same] at here
        cases here
        omega
      · rw [if_neg same] at here
        cases second : wallet two with
        | error problem =>
            rw [second] at here
            cases here
        | ok cost' =>
            have above' := covers two cost' second
            rw [second] at here
            cases here
            omega

/-- **Saturating and overflowing change no verdict** of the wallet. -/
theorem outlay_fits_iff {cap : ℕ} (small : cap < 2 ^ 74) (paySat : ℕ) :
    (∃ outlay, outgoingOutlayMsat wallet fee paySat = .ok outlay ∧ outlay ≤ cap) ↔
      ∃ outlay, exactOutgoingOutlay wallet fee paySat = .ok outlay ∧ outlay ≤ cap := by
  by_cases nothing : paySat = 0
  · simp [outgoingOutlayMsat, exactOutgoingOutlay, nothing]
  have first := contract_exact small paySat fee.defaultBaseMsat fee.defaultPpm
  have second := contract_exact small paySat fee.minimumBaseMsat fee.minimumPpm
  have limited : cap ≤ u128Max := by
    unfold u128Max
    omega
  have source : outgoingOutlayMsat wallet fee paySat =
      (contractMsat (satToMsat paySat) fee.defaultBaseMsat fee.defaultPpm).bind fun one =>
        (contractMsat (satToMsat paySat) fee.minimumBaseMsat fee.minimumPpm).bind fun two =>
          worstOutlayMsat wallet one two := if_neg nothing
  have exact_ : exactOutgoingOutlay wallet fee paySat =
      worstOutlayMsat wallet (fee.exactDefault paySat) (fee.exactMinimum paySat) := if_neg nothing
  rw [source, exact_]
  unfold contractMsat
  constructor
  · rintro ⟨outlay, done, fits⟩
    split at done
    · split at done
      · obtain ⟨above, above'⟩ := le_worstOutlayMsat covers done
        have one := first.2 (first.1.mp (above.trans fits))
        have two := second.2 (second.1.mp (above'.trans fits))
        unfold GatewaySendFee.exactDefault GatewaySendFee.exactMinimum
        rw [← one, ← two]
        exact ⟨outlay, done, fits⟩
      · cases done
    · cases done
  · rintro ⟨outlay, done, fits⟩
    obtain ⟨above, above'⟩ := le_worstOutlayMsat covers done
    have one := first.2 (above.trans fits)
    have two := second.2 (above'.trans fits)
    unfold GatewaySendFee.exactDefault at done above
    unfold GatewaySendFee.exactMinimum at done above'
    rw [← one] at done above
    rw [← two] at done above'
    rw [if_pos (above.trans (fits.trans limited)), Except.bind,
      if_pos (above'.trans (fits.trans limited)), Except.bind]
    exact ⟨outlay, done, fits⟩

/-- **lnv2's quote is the greatest payout whose outlay fits.** -/
theorem lnv2_isGreatest {net : ℕ} (quoted : lnv2NetPayoutSat wallet fee grossSat = .ok net) :
    IsGreatest {paySat | paySat ≤ grossSat.toNat ∧ ∃ outlay,
      exactOutgoingOutlay wallet fee paySat = .ok outlay ∧ outlay ≤ grossSat.toNat * 1000} net := by
  have small := satToMsat_lt grossSat
  obtain ⟨below, fitting, passed⟩ := descend_ok _ quoted
  obtain ⟨bound, greatest⟩ := lnv2GatewayNetPayoutSat_isGreatest fee grossSat
  have bounded : lnv2GatewayNetPayoutSat fee grossSat ≤ grossSat.toNat := by
    rcases bound with nothing | fits
    · omega
    · have first := fits.1
      unfold GatewaySendFee.exactDefault exactCharge at first
      omega
  refine ⟨⟨below.trans bounded, ?_⟩, fun paySat fits => ?_⟩
  · refine (outlay_fits_iff fee covers small net).mp ?_
    rcases fitting with nothing | ⟨cost, priced, fits⟩
    · exact ⟨0, by rw [nothing]; rfl, Nat.zero_le _⟩
    · exact ⟨cost, priced, fits⟩
  · obtain ⟨-, outlay, done, fits⟩ := fits
    by_contra above
    rw [not_le] at above
    by_cases reached : paySat ≤ lnv2GatewayNetPayoutSat fee grossSat
    · obtain ⟨cost, priced, over_⟩ := passed paySat above reached
      obtain ⟨cost', priced', fits'⟩ :=
        (outlay_fits_iff fee covers small paySat).mpr ⟨outlay, done, fits⟩
      cases priced.symm.trans priced'
      omega
    · have nonzero : paySat ≠ 0 := by omega
      unfold exactOutgoingOutlay at done
      rw [if_neg nonzero] at done
      obtain ⟨one, two⟩ := le_worstOutlayMsat covers done
      exact reached (greatest (.inr ⟨one.trans fits, two.trans fits⟩))

omit covers in
/-- **A wallet that answers every contract up to the gross amount** yields a quote. -/
theorem lnv2_quoted (answers : ∀ contract ≤ grossSat.toNat * 1000, ∃ outlay, wallet contract = .ok outlay) :
    ∃ net, lnv2NetPayoutSat wallet fee grossSat = .ok net := by
  have small := satToMsat_lt grossSat
  have limited : grossSat.toNat * 1000 ≤ u128Max := by
    unfold satToMsat at small
    unfold u128Max
    omega
  refine descend_answers _ fun paySat below => ?_
  by_cases nothing : paySat = 0
  · exact ⟨0, if_pos nothing⟩
  have source : outgoingOutlayMsat wallet fee paySat =
      (contractMsat (satToMsat paySat) fee.defaultBaseMsat fee.defaultPpm).bind fun one =>
        (contractMsat (satToMsat paySat) fee.minimumBaseMsat fee.minimumPpm).bind fun two =>
          worstOutlayMsat wallet one two := if_neg nothing
  have fits : fee.exactDefault paySat ≤ grossSat.toNat * 1000 ∧
      fee.exactMinimum paySat ≤ grossSat.toNat * 1000 := by
    rcases (lnv2GatewayNetPayoutSat_isGreatest fee grossSat).1 with zero | fits
    · omega
    · have scaled := Nat.mul_le_mul_right 1000 below
      exact ⟨(exactCharge_mono scaled _ _ _).trans fits.1, (exactCharge_mono scaled _ _ _).trans fits.2⟩
  have one := (contract_exact small paySat fee.defaultBaseMsat fee.defaultPpm).1.mpr fits.1
  have two := (contract_exact small paySat fee.minimumBaseMsat fee.minimumPpm).1.mpr fits.2
  obtain ⟨first, priced⟩ := answers _ one
  obtain ⟨second, priced'⟩ := answers _ two
  unfold contractMsat at source
  rw [source, if_pos (one.trans limited), Except.bind, if_pos (two.trans limited), Except.bind]
  unfold worstOutlayMsat
  rw [priced]
  by_cases same : satToMsat paySat + lnv2FeeMsat fee.minimumBaseMsat fee.minimumPpm (satToMsat paySat) =
      satToMsat paySat + lnv2FeeMsat fee.defaultBaseMsat fee.defaultPpm (satToMsat paySat)
  · exact ⟨first, if_pos same⟩
  · rw [priced']
    exact ⟨max first second, if_neg same⟩

end Lnv2

/-! ### The quote and its payment -/

/-- **phoenixd's quote of a gross amount**, and the cap check of a payment under that amount. The check
saturates; it refuses what does not fit all the same, lets the quote pass, and is the one the payment
makes. -/
structure PhoenixdExact (schedule : FeeSchedule) (grossSat : UInt64) : Prop where
  greatest : IsGreatest {paySat | paySat = 0 ∨ schedule.exactOutlay paySat ≤ grossSat.toNat * 1000}
    (schedule.netPayoutSat grossSat)
  saturates : ∀ amountSat, schedule.OverCap (.gross grossSat) amountSat ↔
    grossSat.toNat * 1000 < schedule.exactOutlay amountSat
  passes : schedule.netPayoutSat grossSat ≠ 0 →
    ¬ schedule.OverCap (.gross grossSat) (schedule.netPayoutSat grossSat)
  exceeds : schedule.OverCap (.gross grossSat) (schedule.netPayoutSat grossSat + 1)
  checks : ∀ call : PhoenixdPay.Call, call.ceilingMsat = (PayCap.gross grossSat).ceilingMsat →
    (PhoenixdPay.OverCap ⟨schedule.baseMsat.toNat, schedule.ppm.toNat⟩ call ↔
      schedule.OverCap (.gross grossSat) call.amountSat)
  paid : ∀ decode shared id (call : PhoenixdPay.Call) dest evidence,
    call.ceilingMsat = (PayCap.gross grossSat).ceilingMsat →
    ¬ PhoenixdPay.PayOtherKeyForHash shared.pay dest.paymentHash call.key →
    call.amountSat = schedule.netPayoutSat grossSat → call.amountSat ≠ 0 →
      PhoenixdPay.advance decode ⟨schedule.baseMsat.toNat, schedule.ppm.toNat⟩ shared id {}
        (.guarding call dest evidence) = (shared, some (.versioning call dest evidence))
  refused : ∀ decode shared id (call : PhoenixdPay.Call) dest evidence,
    call.ceilingMsat = (PayCap.gross grossSat).ceilingMsat →
    call.amountSat = schedule.netPayoutSat grossSat + 1 →
      PhoenixdPay.advance decode ⟨schedule.baseMsat.toNat, schedule.ppm.toNat⟩ shared id {}
        (.guarding call dest evidence) =
          (shared, some (.refusing call.key call.bolt11 dest.paymentHash))

/-- **lnv2's quote of a gross amount** at a gateway and a wallet, and the cap check of a payment. -/
structure Lnv2Exact (wallet : ℕ → Except Problem ℕ) (fee : GatewaySendFee) (grossSat : UInt64) :
    Prop where
  quoted : (∀ contract ≤ grossSat.toNat * 1000, ∃ outlay, wallet contract = .ok outlay) →
    ∃ net, lnv2NetPayoutSat wallet fee grossSat = .ok net
  greatest : ∀ net, lnv2NetPayoutSat wallet fee grossSat = .ok net →
    IsGreatest {paySat | paySat ≤ grossSat.toNat ∧ ∃ outlay,
      exactOutgoingOutlay wallet fee paySat = .ok outlay ∧ outlay ≤ grossSat.toNat * 1000} net
  paid : ∀ net, lnv2NetPayoutSat wallet fee grossSat = .ok net →
    ∀ decode shared id (call : Lnv2Pay.Call) op, call.amountSat = net →
      Lnv2Pay.advance decode shared id
        { outlayMsat := (outgoingOutlayMsat wallet fee call.amountSat).toOption }
        (.quoting call op (satToMsat grossSat.toNat)) = (shared, some (.sending call op))
  refused : ∀ net, lnv2NetPayoutSat wallet fee grossSat = .ok net →
    ∀ decode shared id (call : Lnv2Pay.Call) op, call.amountSat = net + 1 →
      Lnv2Pay.advance decode shared id
        { outlayMsat := (outgoingOutlayMsat wallet fee call.amountSat).toOption }
        (.quoting call op (satToMsat grossSat.toNat)) =
          if (outgoingOutlayMsat wallet fee call.amountSat).toOption.isSome then
            (shared, some (.refusing call.key op))
          else shared.released

/-- The quote passes the check. -/
theorem FeeSchedule.quote_passes (schedule : FeeSchedule) (grossSat : UInt64)
    (paying : schedule.netPayoutSat grossSat ≠ 0) :
    ¬ schedule.OverCap (.gross grossSat) (schedule.netPayoutSat grossSat) := by
  rw [schedule.overCap_gross, not_lt]
  exact (schedule.netPayoutSat_isGreatest grossSat).1.resolve_left paying

/-- One sat more does not. -/
theorem FeeSchedule.quote_exceeds (schedule : FeeSchedule) (grossSat : UInt64) :
    schedule.OverCap (.gross grossSat) (schedule.netPayoutSat grossSat + 1) := by
  rw [schedule.overCap_gross]
  by_contra within
  have above := (schedule.netPayoutSat_isGreatest grossSat).2 (.inr (not_lt.mp within))
  omega

theorem phoenixdExact (schedule : FeeSchedule) (grossSat : UInt64) :
    PhoenixdExact schedule grossSat where
  greatest := schedule.netPayoutSat_isGreatest grossSat
  saturates := schedule.overCap_gross grossSat
  passes := schedule.quote_passes grossSat
  exceeds := schedule.quote_exceeds grossSat
  checks := overCap_iff schedule grossSat
  paid decode shared id call dest evidence capped free amount paying := by
    have within : ¬ PhoenixdPay.OverCap ⟨schedule.baseMsat.toNat, schedule.ppm.toNat⟩ call := by
      rw [overCap_iff schedule grossSat call capped, amount]
      exact schedule.quote_passes grossSat (amount ▸ paying)
    simp only [PhoenixdPay.advance, Bool.false_eq_true, if_false, free, within]
  refused decode shared id call dest evidence capped amount := by
    have over_ : PhoenixdPay.OverCap ⟨schedule.baseMsat.toNat, schedule.ppm.toNat⟩ call := by
      rw [overCap_iff schedule grossSat call capped, amount]
      exact schedule.quote_exceeds grossSat
    simp only [PhoenixdPay.advance, Bool.false_eq_true, if_false, over_, if_true, ite_self]

theorem lnv2Exact {wallet : ℕ → Except Problem ℕ}
    (covers : ∀ contract outlay, wallet contract = .ok outlay → contract ≤ outlay)
    (fee : GatewaySendFee) (grossSat : UInt64) : Lnv2Exact wallet fee grossSat where
  quoted := lnv2_quoted fee grossSat
  greatest _ quoted := lnv2_isGreatest fee grossSat covers quoted
  paid net quoted decode shared id call op amount := by
    obtain ⟨⟨-, fits⟩, -⟩ := lnv2_isGreatest fee grossSat covers quoted
    obtain ⟨outlay, done, below⟩ := (outlay_fits_iff fee covers (satToMsat_lt grossSat) net).mpr fits
    simp only [Lnv2Pay.advance, amount, done, Except.toOption, not_lt.mpr below, if_false]
  refused net quoted decode shared id call op amount := by
    obtain ⟨-, greatest⟩ := lnv2_isGreatest fee grossSat covers quoted
    cases done : outgoingOutlayMsat wallet fee call.amountSat with
    | error problem => simp [Lnv2Pay.advance, Except.toOption]
    | ok outlay =>
        have above : satToMsat grossSat.toNat < outlay := by
          by_contra below
          have fits := (outlay_fits_iff fee covers (satToMsat_lt grossSat) call.amountSat).mp
            ⟨outlay, done, not_lt.mp below⟩
          obtain ⟨cost, priced, within⟩ := fits
          have payable : call.amountSat ≤ grossSat.toNat := by
            have nonzero : call.amountSat ≠ 0 := by omega
            unfold exactOutgoingOutlay at priced
            rw [if_neg nonzero] at priced
            have one := (le_worstOutlayMsat covers priced).1
            unfold GatewaySendFee.exactDefault exactCharge at one
            unfold satToMsat at within
            omega
          have above := greatest ⟨payable, cost, priced, within⟩
          omega
        simp [Lnv2Pay.advance, Except.toOption, above]

/-- **A net quote is the exact maximum, and the check of its payment agrees**, in both backends. -/
theorem quote_exact {wallet : ℕ → Except Problem ℕ}
    (covers : ∀ contract outlay, wallet contract = .ok outlay → contract ≤ outlay)
    (schedule : FeeSchedule) (fee : GatewaySendFee) (grossSat : UInt64) :
    PhoenixdExact schedule grossSat ∧ Lnv2Exact wallet fee grossSat :=
  ⟨phoenixdExact schedule grossSat, lnv2Exact covers fee grossSat⟩

/-- A wallet whose debit is not monotone. -/
def uneven (contract : ℕ) : Except Problem ℕ := .ok (contract + contract % 3 * 1000)

/-- The measured schedule of phoenixd 0.9.0. -/
def measured : FeeSchedule := ⟨4000, 4000⟩

theorem quote_exact_uneven :
    PhoenixdExact measured 130 ∧ Lnv2Exact uneven ⟨2000, 5000, 0, 0⟩ 130 := by
  refine quote_exact (fun contract outlay done => ?_) measured ⟨2000, 5000, 0, 0⟩ 130
  cases done
  exact Nat.le_add_right _ _

/-- **Where nothing fits the quote is nothing**, and a payment of nothing is over the cap. -/
theorem dust_over_cap :
    measured.netPayoutSat 1 = 0 ∧
      ¬ measured.exactOutlay (measured.netPayoutSat 1) ≤ (1 : UInt64).toNat * 1000 ∧
      measured.OverCap (.gross 1) (measured.netPayoutSat 1) := by
  have dust : measured.netPayoutSat 1 = 0 := by
    rcases (measured.netPayoutSat_isGreatest 1).1 with nothing | fits
    · exact nothing
    · unfold FeeSchedule.exactOutlay exactCharge at fits
      have base : measured.baseMsat.toNat = 4000 := rfl
      have gross : (1 : UInt64).toNat = 1 := rfl
      omega
  rw [dust, measured.overCap_gross]
  decide

end Lnrent.RefundQuote
