/-
**What a refund pays out net** (`phoenixd_backend.rs`, `FeeSchedule`; `lnv2_backend.rs`, the pure money
helpers and the two methods over them). Amounts are `u64`; msats are `u128`, saturating where the source
saturates.

* `satMul`, `satAdd`, `satToMsat` — the arithmetic; `PayCap` — the ceiling of a payment;
* `FeeSchedule` — phoenixd's fee and its `net_payout_sat`;
* `GatewaySendFee`, `lnv2FeeMsat`, `lnv2WorstFeeMsat`, `lnv2GatewayNetPayoutSat` — a gateway's fee and
  the bound it puts on a payout;
* `outgoingOutlayMsat`, `lnv2NetPayoutSat` — what the wallet is debited, and the payout that fits.

What the wallet is debited for an outgoing contract is a parameter, which may fail.
-/

import Lnrent.Search.Greatest

namespace Lnrent.RefundQuote

open Search

/-! ### Amounts -/

def u128Max : ℕ := 2 ^ 128 - 1

/-- `saturating_mul` and `saturating_add` of `u128`. -/
def satMul (one two : ℕ) : ℕ := min (one * two) u128Max
def satAdd (one two : ℕ) : ℕ := min (one + two) u128Max

/-- `sat_to_msat` -/
def satToMsat (sat : ℕ) : ℕ := sat * 1000

/-- `PayCap` -/
inductive PayCap where
  | none
  | gross (sat : UInt64)
  | outlay (msat : ℕ)

/-- `ceiling_msat` -/
def PayCap.ceilingMsat : PayCap → Option ℕ
  | .none => .none
  | .gross sat => some (satToMsat sat.toNat)
  | .outlay msat => some msat

/-! ### phoenixd -/

/-- `FeeSchedule`; the release it was verified against is not read here. -/
structure FeeSchedule where
  baseMsat : UInt64
  ppm : UInt64

/-- `fee_msat`: the proportional part rounds up. -/
def FeeSchedule.feeMsat (schedule : FeeSchedule) (payMsat : ℕ) : ℕ :=
  satAdd ((satMul payMsat schedule.ppm.toNat + 999999) / 1000000) schedule.baseMsat.toNat

/-- The payout with its reserved fee fits; nothing always does. -/
def FeeSchedule.fits (schedule : FeeSchedule) (grossSat : UInt64) (paySat : ℕ) : Bool :=
  if paySat = 0 then true
  else satAdd (satToMsat paySat) (schedule.feeMsat (satToMsat paySat)) ≤ satToMsat grossSat.toNat

/-- `FeeSchedule::net_payout_sat` -/
def FeeSchedule.netPayoutSat (schedule : FeeSchedule) (grossSat : UInt64) : ℕ :=
  bisect (schedule.fits grossSat) 0 grossSat.toNat

/-- The cap check of `start_pay`. -/
def FeeSchedule.OverCap (schedule : FeeSchedule) (cap : PayCap) (amountSat : ℕ) : Prop :=
  ∃ ceilingMsat ∈ cap.ceilingMsat,
    ceilingMsat < satAdd (satToMsat amountSat) (schedule.feeMsat (satToMsat amountSat))

/-! ### lnv2 -/

/-- `GatewaySendFee`: the two schedules a gateway may charge by. -/
structure GatewaySendFee where
  defaultBaseMsat : UInt64
  defaultPpm : UInt64
  minimumBaseMsat : UInt64
  minimumPpm : UInt64

/-- `lnv2_fee_msat`: the proportional part rounds down. -/
def lnv2FeeMsat (baseMsat ppm : UInt64) (payMsat : ℕ) : ℕ :=
  satAdd (satMul payMsat ppm.toNat / 1000000) baseMsat.toNat

/-- `lnv2_worst_fee_msat` -/
def lnv2WorstFeeMsat (fee : GatewaySendFee) (payMsat : ℕ) : ℕ :=
  max (lnv2FeeMsat fee.defaultBaseMsat fee.defaultPpm payMsat)
    (lnv2FeeMsat fee.minimumBaseMsat fee.minimumPpm payMsat)

/-- The payout with the worst gateway fee fits. -/
def lnv2Valid (fee : GatewaySendFee) (grossSat : UInt64) (paySat : ℕ) : Bool :=
  if paySat = 0 then true
  else satAdd (satToMsat paySat) (lnv2WorstFeeMsat fee (satToMsat paySat)) ≤ satToMsat grossSat.toNat

/-- `lnv2_gateway_net_payout_sat` -/
def lnv2GatewayNetPayoutSat (fee : GatewaySendFee) (grossSat : UInt64) : ℕ :=
  bisect (lnv2Valid fee grossSat) 0 grossSat.toNat

/-- A quote that failed. -/
inductive Problem where
  /-- "lnv2 payout plus gateway fee overflow" -/
  | overflow
  /-- `outlay_for_contract_msat` -/
  | wallet
deriving DecidableEq

section Wallet

variable (outlayForContractMsat : ℕ → Except Problem ℕ)

/-- The contract of one schedule, where it does not overflow. -/
def contractMsat (payMsat : ℕ) (baseMsat ppm : UInt64) : Except Problem ℕ :=
  if payMsat + lnv2FeeMsat baseMsat ppm payMsat ≤ u128Max then
    .ok (payMsat + lnv2FeeMsat baseMsat ppm payMsat)
  else .error .overflow

/-- The larger outlay of the two contracts; one question where they are one. -/
def worstOutlayMsat (defaultContract minimumContract : ℕ) : Except Problem ℕ := do
  let defaultOutlay ← outlayForContractMsat defaultContract
  if minimumContract = defaultContract then return defaultOutlay
  else do
    let minimumOutlay ← outlayForContractMsat minimumContract
    return max defaultOutlay minimumOutlay

/-- `outgoing_outlay_msat` -/
def outgoingOutlayMsat (fee : GatewaySendFee) (paySat : ℕ) : Except Problem ℕ :=
  if paySat = 0 then .ok 0
  else do
    let defaultContract ← contractMsat (satToMsat paySat) fee.defaultBaseMsat fee.defaultPpm
    let minimumContract ← contractMsat (satToMsat paySat) fee.minimumBaseMsat fee.minimumPpm
    worstOutlayMsat outlayForContractMsat defaultContract minimumContract

/-- `Lnv2Payment::net_payout_sat` -/
def lnv2NetPayoutSat (fee : GatewaySendFee) (grossSat : UInt64) : Except Problem ℕ :=
  descend (outgoingOutlayMsat outlayForContractMsat fee) (satToMsat grossSat.toNat)
    (lnv2GatewayNetPayoutSat fee grossSat)

end Wallet

end Lnrent.RefundQuote
