/-
**The buyer's flows** (`clients/core/src/client.rs`). A flow sends a request and acts on the reply that
its exchange returns.

* `giftUnwrap` — what a wrap holds (`wire/src/wrap.rs`);
* `Arrival`, `Host` — what the relay's stream and the other seams answer during one flow;
* `await`, `exchangePreferred`, `exchange` — the exchange, over any matcher;
* `createOrder`, `awaitProvision`, `renew`, `invokeOp` — the flows, each with its matcher and what it
  makes of the reply.

The stream is given by what it hands over, and when; a decoding takes no time.
-/

import Lnrent.Wire.Dm

namespace Lnrent.Client

open Wire Serde

variable {PublicKey : Type}

/-! ### Wraps -/

/-- `Kind::GiftWrap` -/
def giftWrapKind : ℕ := 1059
/-- `Kind::PrivateDirectMessage` -/
def privateDirectMessageKind : ℕ := 14
/-- `MAX_INBOUND_CONTENT_BYTES` -/
def maxInboundContentBytes : ℕ := 64 * 1024

/-- What the seal of a wrap holds: its author, and the rumor. -/
structure Gift (PublicKey : Type) where
  sender : PublicKey
  rumorKind : ℕ
  contentBytes : ℕ
  /-- The content as JSON, if it is. -/
  content : Option Json

/-- An event of the stream. -/
structure Wrap (PublicKey : Type) where
  kind : ℕ
  /-- Its id and its signature check out. -/
  verifies : Bool
  /-- `nip59::extract_rumor`, which checks the seal. -/
  gift : Option (Gift PublicKey)

/-- **`gift_unwrap`**: the authenticated sender and the message. -/
def giftUnwrap (wrap : Wrap PublicKey) : Option (PublicKey × Wire.Msg) :=
  if wrap.kind ≠ giftWrapKind then none
  else if wrap.verifies = false then none
  else
    match wrap.gift with
    | none => none
    | some gift =>
        if gift.rumorKind ≠ privateDirectMessageKind then none
        else if maxInboundContentBytes < gift.contentBytes then none
        else
          match gift.content.map Wire.Msg.decode with
          | some (.ok message) => some (gift.sender, message)
          | _ => none

/-! ### The seams -/

/-- What `GiftWrapStream::next` hands over, and when. -/
structure Arrival (PublicKey : Type) where
  instant : ℕ
  read : Except String (Wrap PublicKey)

/-- The seams of one flow. -/
structure Host (PublicKey : Type) where
  /-- `new_request_id`, and whether the caller pinned it. -/
  requestId : String
  requestIdIsPinned : Bool
  /-- `get_public_key` of the signer. -/
  getPublicKey : Except String Unit
  giftWrap : Wire.Msg → Except String Unit
  /-- `subscribe_giftwraps`: what the stream would hand over without a deadline. -/
  subscribeGiftwraps : Except String (List (Arrival PublicKey))
  /-- Whether the stream can shorten its deadline. -/
  shortens : Bool
  publish : Wire.Msg → Except String Unit

/-- `BuyerError`, as far as the flows raise it. -/
inductive BuyerError where
  | unsupportedInteractive (message : String)
  | timeout (message : String)
  | transport (message : String)
  | internal (message : String)
  | remote (error : Wire.WireError)
  | protocol (message : String)

/-- `BuyerClient`, without its seams. Durations are in nanoseconds. -/
structure BuyerClient (PublicKey : Type) where
  operator : PublicKey
  timeout : ℕ
  toHex : PublicKey → String

/-! ### The exchange -/

/-- `PINNED_GRACE`: five seconds. -/
def pinnedGraceWindow : ℕ := 5 * 1000000000

inductive PinnedGrace where
  | window (within : ℕ)
  | fullDeadline
deriving DecidableEq

inductive ReplyMatch where
  | ignore
  | acceptable
  | preferred
deriving DecidableEq

/-- A matcher. -/
abbrev Want (PublicKey : Type) : Type := PublicKey → Wire.Msg → ReplyMatch

/-- The stream ended with what is held, or the error is returned. -/
def orHeld (held : Option (PublicKey × Wire.Msg)) (error : BuyerError) :
    Except BuyerError (PublicKey × Wire.Msg) :=
  match held with
  | some reply => .ok reply
  | none => .error error

def noReply : BuyerError :=
  .timeout "no correlated reply from the operator before the deadline"

/-- **The loop of `exchange_preferred`**, on what the stream still hands over before its deadline. -/
def await (pinned shortens : Bool) (grace : PinnedGrace) (want : Want PublicKey) (deadline : ℕ)
    (held : Option (PublicKey × Wire.Msg)) :
    List (Arrival PublicKey) → Except BuyerError (PublicKey × Wire.Msg)
  | [] => orHeld held noReply
  | arrival :: rest =>
      if deadline ≤ arrival.instant then orHeld held noReply
      else
        match arrival.read with
        | .error message => orHeld held (.transport message)
        | .ok wrap =>
            match giftUnwrap wrap with
            | none => await pinned shortens grace want deadline held rest
            | some (sender, message) =>
                match want sender message with
                | .ignore => await pinned shortens grace want deadline held rest
                | .preferred => .ok (sender, message)
                | .acceptable =>
                    if pinned = false then .ok (sender, message)
                    else
                      match held with
                      | some reply => await pinned shortens grace want deadline (some reply) rest
                      | none =>
                          match grace with
                          | .fullDeadline =>
                              await pinned shortens grace want deadline (some (sender, message)) rest
                          | .window within =>
                              if shortens = false then .ok (sender, message)
                              else
                                await pinned shortens grace want
                                  (min deadline (arrival.instant + within))
                                  (some (sender, message)) rest

/-- **`exchange_preferred`**: subscribe, publish, await. -/
def exchangePreferred (buyer : BuyerClient PublicKey) (host : Host PublicKey)
    (request : Option Wire.Msg) (grace : PinnedGrace) (want : Want PublicKey) :
    Except BuyerError (PublicKey × Wire.Msg) := do
  host.getPublicKey.mapError fun message => .internal ("signer pubkey: " ++ message)
  let arrivals ← host.subscribeGiftwraps.mapError .transport
  (request.elim (.ok ()) host.publish).mapError .transport
  await host.requestIdIsPinned host.shortens grace want buyer.timeout none arrivals

/-- A matcher that prefers every match. -/
def preferring (want : PublicKey → Wire.Msg → Bool) : Want PublicKey := fun sender message =>
  if want sender message = true then .preferred else .ignore

/-- **`exchange`** -/
def exchange (buyer : BuyerClient PublicKey) (host : Host PublicKey) (request : Option Wire.Msg)
    (want : PublicKey → Wire.Msg → Bool) : Except BuyerError (PublicKey × Wire.Msg) :=
  exchangePreferred buyer host request (.window pinnedGraceWindow) (preferring want)

/-! ### The flows

A flow that reaches its `unreachable!` arm returns `none`. -/

/-- `wrap` -/
def wrap (host : Host PublicKey) (message : Wire.Msg) : Except BuyerError Unit :=
  (host.giftWrap message).mapError fun error => .internal ("gift-wrap: " ++ error)

section Flows

variable [DecidableEq PublicKey]

/-- `check_sender` -/
def checkSender (buyer : BuyerClient PublicKey) (sender : PublicKey) (what : String) :
    Except BuyerError Unit :=
  if sender = buyer.operator then .ok ()
  else .error (.protocol (what ++ " came from " ++ buyer.toHex sender ++ " but the operator is " ++
    buyer.toHex buyer.operator))

/-- The matcher of `create_order`. -/
def orderReply (operator : PublicKey) (wantId : String) (sender : PublicKey) (message : Wire.Msg) :
    Bool :=
  if sender ≠ operator then false
  else
    match message with
    | .orderInvoice invoice => decide (invoice.requestId = wantId)
    | .orderError refusal => decide (refusal.requestId = wantId)
    | _ => false

/-- What `create_order` makes of its reply. -/
def orderOutcome : Wire.Msg → Except BuyerError (Option Wire.OrderInvoice)
  | .orderInvoice invoice => .ok (some invoice)
  | .orderError refusal => .error (.remote refusal.error)
  | _ => .ok none

/-- **`create_order`** -/
def createOrder (buyer : BuyerClient PublicKey) (host : Host PublicKey) (listingId : String)
    (params : Value) (refundDest : Option String) : Except BuyerError (Option Wire.OrderInvoice) := do
  let request := Wire.Msg.orderRequest ⟨host.requestId, listingId, params, refundDest⟩
  wrap host request
  let reply ← exchange buyer host (some request) (orderReply buyer.operator host.requestId)
  checkSender buyer reply.1 "order reply"
  orderOutcome reply.2

/-- The matcher of `await_provision`. -/
def provisionReply (operator : PublicKey) (subscriptionId : String) (sender : PublicKey)
    (message : Wire.Msg) : Bool :=
  decide (sender = operator) &&
    match message with
    | .provisionReady ready => decide (ready.subscriptionId = subscriptionId)
    | _ => false

/-- What `await_provision` makes of its reply. -/
def provisionOutcome : Wire.Msg → Except BuyerError (Option ProvisionReady)
  | .provisionReady ready => .ok (some ready)
  | _ => .ok none

/-- **`await_provision`** -/
def awaitProvision (buyer : BuyerClient PublicKey) (host : Host PublicKey) (request : Option Wire.Msg)
    (subscriptionId : String) : Except BuyerError (Option ProvisionReady) := do
  let reply ← exchange buyer host request (provisionReply buyer.operator subscriptionId)
  checkSender buyer reply.1 "provision.ready"
  provisionOutcome reply.2

/-- `RenewReply` -/
inductive RenewReply where
  | invoice (invoice : Wire.BillingInvoice)
  | retry (notice : BillingNotice)

/-- The matcher of `renew`. -/
def renewReply (operator : PublicKey) (wantId wantSub : String) : Want PublicKey :=
  fun sender message =>
    if sender ≠ operator then .ignore
    else
      match message with
      | .billingInvoice invoice =>
          if invoice.requestId = some wantId ∧ invoice.subscriptionId = wantSub then .preferred
          else .ignore
      | .billingNotice notice =>
          if notice.requestId = some wantId ∧ notice.subscriptionId = wantSub ∧
            notice.state = "RESUMING" then .acceptable
          else .ignore
      | .orderError refusal => if refusal.requestId = wantId then .acceptable else .ignore
      | _ => .ignore

/-- What `renew` makes of its reply. -/
def renewOutcome : Wire.Msg → Except BuyerError (Option RenewReply)
  | .billingInvoice invoice => .ok (some (.invoice invoice))
  | .billingNotice notice => .ok (some (.retry notice))
  | .orderError refusal => .error (.remote refusal.error)
  | _ => .ok none

/-- **`renew`** -/
def renew (buyer : BuyerClient PublicKey) (host : Host PublicKey) (subscriptionId : String) :
    Except BuyerError (Option RenewReply) := do
  let request := Wire.Msg.renewRequest ⟨host.requestId, subscriptionId⟩
  wrap host request
  let reply ← exchangePreferred buyer host (some request) (.window pinnedGraceWindow)
    (renewReply buyer.operator host.requestId subscriptionId)
  checkSender buyer reply.1 "renew reply"
  renewOutcome reply.2

/-- `ROW_FREE_OP_REFUSALS` -/
def rowFreeOpRefusals : List String := ["unauthorized", "not_active", "unavailable"]

/-- `is_row_free_op_refusal` -/
def isRowFreeOpRefusal (result : OpResult) : Bool :=
  decide (result.status = .error) && result.error.any fun error => rowFreeOpRefusals.contains error.code

/-- The matcher of `invoke_op`. -/
def opReply (operator : PublicKey) (wantId wantSub wantOp : String) : Want PublicKey :=
  fun sender message =>
    if sender ≠ operator then .ignore
    else
      match message with
      | .opResult result =>
          if result.requestId = wantId ∧ result.subscriptionId = wantSub ∧ result.op = wantOp then
            if isRowFreeOpRefusal result then .acceptable else .preferred
          else .ignore
      | _ => .ignore

/-- The error of an `op.result` that has none. -/
def noErrorBody : Wire.WireError := ⟨"error", "op.result error without an error body", false⟩

/-- What `invoke_op` makes of its reply. -/
def opOutcome : Wire.Msg → Except BuyerError (Option OpResult)
  | .opResult result =>
      match result.status with
      | .ok => .ok (some result)
      | .error => .error (.remote (result.error.getD noErrorBody))
  | _ => .ok none

/-- Only an operation of kind `request` is sent. -/
def refuseInteractive (op : String) : Option String → Except BuyerError Unit
  | none => .ok ()
  | some kind =>
      if kind = "request" then .ok ()
      else .error (.unsupportedInteractive ("operation `" ++ op ++ "` is kind `" ++ kind ++
        "`; only `request` ops are supported in M1a"))

/-- **`invoke_op`** -/
def invokeOp (buyer : BuyerClient PublicKey) (host : Host PublicKey) (subscriptionId op : String)
    (opKind : Option String) (params : Value) : Except BuyerError (Option OpResult) := do
  refuseInteractive op opKind
  let request := Wire.Msg.opRequest ⟨host.requestId, subscriptionId, op, params⟩
  wrap host request
  let reply ← exchangePreferred buyer host (some request) .fullDeadline
    (opReply buyer.operator host.requestId subscriptionId op)
  checkSender buyer reply.1 "op.result"
  opOutcome reply.2

end Flows

end Lnrent.Client
