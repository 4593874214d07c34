/-
**The DM protocol** (`wire/src/dm.rs`). The thirteen messages of a buyer and an operator, and the JSON
documents they travel as. A document is what `serde_json` writes, or reports of a text it reads; that
texts and documents correspond is taken from it.

* one structure for each message, with its `columns` (what is written, `none` for a skipped field) and
  its `read` (what is made of the columns of a document);
* `Msg.encode`, `Msg.decode` — the union, tagged by `type`;
* `Msg.dedupeId` — the key a receiver drops repeated messages by.
-/

import Lnrent.Serde.Record

namespace Lnrent.Wire

open Serde

/-! ### The messages -/

/-- The error shape of `order.error` and `op.result`. -/
structure WireError where
  code : String
  message : String
  retryable : Bool

def WireError.names : List String := ["code", "message", "retryable"]

def WireError.columns (error : WireError) : List (Option Json) :=
  [some (.string error.code), some (.string error.message), some (.bool error.retryable)]

def WireError.write (error : WireError) : Json := .object (assemble names error.columns)

def WireError.read (document : Json) : Option WireError :=
  match Serde.columns names document with
  | some [code, message, retryable] => do
      return {
        code := ← required readString code
        message := ← required readString message
        retryable := ← required readBool retryable }
  | _ => none

/-- `order.request`. -/
structure OrderRequest where
  id : String
  listingId : String
  params : Value
  refundDest : Option String

def OrderRequest.names : List String := ["id", "listing_id", "params", "refund_dest"]

def OrderRequest.columns (message : OrderRequest) : List (Option Json) :=
  [some (.string message.id), some (.string message.listingId), some message.params.document,
    message.refundDest.map .string]

def OrderRequest.read (document : Json) : Option OrderRequest :=
  match Serde.columns names document with
  | some [id, listingId, params, refundDest] => do
      return {
        id := ← required readString id
        listingId := ← required readString listingId
        params := ← required readValue params
        refundDest := ← optional readString refundDest }
  | _ => none

/-- `order.invoice`. -/
structure OrderInvoice where
  requestId : String
  orderId : String
  bolt11 : String
  amountSat : UInt64
  period : String
  expiresAt : Int64

def OrderInvoice.names : List String :=
  ["request_id", "order_id", "bolt11", "amount_sat", "period", "expires_at"]

def OrderInvoice.columns (message : OrderInvoice) : List (Option Json) :=
  [some (.string message.requestId), some (.string message.orderId), some (.string message.bolt11),
    some (writeU64 message.amountSat), some (.string message.period),
    some (writeI64 message.expiresAt)]

def OrderInvoice.read (document : Json) : Option OrderInvoice :=
  match Serde.columns names document with
  | some [requestId, orderId, bolt11, amountSat, period, expiresAt] => do
      return {
        requestId := ← required readString requestId
        orderId := ← required readString orderId
        bolt11 := ← required readString bolt11
        amountSat := ← required readU64 amountSat
        period := ← required readString period
        expiresAt := ← required readI64 expiresAt }
  | _ => none

/-- `order.error`. -/
structure OrderError where
  requestId : String
  orderId : Option String
  error : WireError

def OrderError.names : List String := ["request_id", "order_id", "error"]

def OrderError.columns (message : OrderError) : List (Option Json) :=
  [some (.string message.requestId), message.orderId.map .string, some message.error.write]

def OrderError.read (document : Json) : Option OrderError :=
  match Serde.columns names document with
  | some [requestId, orderId, error] => do
      return {
        requestId := ← required readString requestId
        orderId := ← optional readString orderId
        error := ← required WireError.read error }
  | _ => none

/-- `provision.ready`. -/
structure ProvisionReady where
  subscriptionId : String
  payload : Value

def ProvisionReady.names : List String := ["subscription_id", "payload"]

def ProvisionReady.columns (message : ProvisionReady) : List (Option Json) :=
  [some (.string message.subscriptionId), some message.payload.document]

def ProvisionReady.read (document : Json) : Option ProvisionReady :=
  match Serde.columns names document with
  | some [subscriptionId, payload] => do
      return {
        subscriptionId := ← required readString subscriptionId
        payload := ← required readValue payload }
  | _ => none

/-- `delivery.resend.request`. -/
structure DeliveryResendRequest where
  subscriptionId : String

def DeliveryResendRequest.names : List String := ["subscription_id"]

def DeliveryResendRequest.columns (message : DeliveryResendRequest) : List (Option Json) :=
  [some (.string message.subscriptionId)]

def DeliveryResendRequest.read (document : Json) : Option DeliveryResendRequest :=
  match Serde.columns names document with
  | some [subscriptionId] => do
      return { subscriptionId := ← required readString subscriptionId }
  | _ => none

/-- `billing.invoice`. -/
structure BillingInvoice where
  subscriptionId : String
  requestId : Option String
  bolt11 : String
  amountSat : UInt64
  dueAt : Int64
  expiresAt : Int64

def BillingInvoice.names : List String :=
  ["subscription_id", "request_id", "bolt11", "amount_sat", "due_at", "expires_at"]

def BillingInvoice.columns (message : BillingInvoice) : List (Option Json) :=
  [some (.string message.subscriptionId), message.requestId.map .string,
    some (.string message.bolt11), some (writeU64 message.amountSat), some (writeI64 message.dueAt),
    some (writeI64 message.expiresAt)]

def BillingInvoice.read (document : Json) : Option BillingInvoice :=
  match Serde.columns names document with
  | some [subscriptionId, requestId, bolt11, amountSat, dueAt, expiresAt] => do
      return {
        subscriptionId := ← required readString subscriptionId
        requestId := ← optional readString requestId
        bolt11 := ← required readString bolt11
        amountSat := ← required readU64 amountSat
        dueAt := ← required readI64 dueAt
        expiresAt := ← required readI64 expiresAt }
  | _ => none

/-- `billing.notice`. -/
structure BillingNotice where
  subscriptionId : String
  requestId : Option String
  state : String
  message : String

def BillingNotice.names : List String := ["subscription_id", "request_id", "state", "message"]

def BillingNotice.columns (message : BillingNotice) : List (Option Json) :=
  [some (.string message.subscriptionId), message.requestId.map .string,
    some (.string message.state), some (.string message.message)]

def BillingNotice.read (document : Json) : Option BillingNotice :=
  match Serde.columns names document with
  | some [subscriptionId, requestId, state, message] => do
      return {
        subscriptionId := ← required readString subscriptionId
        requestId := ← optional readString requestId
        state := ← required readString state
        message := ← required readString message }
  | _ => none

/-- `billing.refund`. -/
structure BillingRefund where
  subscriptionId : String
  amountSat : UInt64
  status : String

def BillingRefund.names : List String := ["subscription_id", "amount_sat", "status"]

def BillingRefund.columns (message : BillingRefund) : List (Option Json) :=
  [some (.string message.subscriptionId), some (writeU64 message.amountSat),
    some (.string message.status)]

def BillingRefund.read (document : Json) : Option BillingRefund :=
  match Serde.columns names document with
  | some [subscriptionId, amountSat, status] => do
      return {
        subscriptionId := ← required readString subscriptionId
        amountSat := ← required readU64 amountSat
        status := ← required readString status }
  | _ => none

/-- `renew.request`. -/
structure RenewRequest where
  id : String
  subscriptionId : String

def RenewRequest.names : List String := ["id", "subscription_id"]

def RenewRequest.columns (message : RenewRequest) : List (Option Json) :=
  [some (.string message.id), some (.string message.subscriptionId)]

def RenewRequest.read (document : Json) : Option RenewRequest :=
  match Serde.columns names document with
  | some [id, subscriptionId] => do
      return {
        id := ← required readString id
        subscriptionId := ← required readString subscriptionId }
  | _ => none

/-- `operator.alert`. -/
structure OperatorAlert where
  kind : String
  subject : String
  detail : String

def OperatorAlert.names : List String := ["kind", "subject", "detail"]

def OperatorAlert.columns (message : OperatorAlert) : List (Option Json) :=
  [some (.string message.kind), some (.string message.subject), some (.string message.detail)]

def OperatorAlert.read (document : Json) : Option OperatorAlert :=
  match Serde.columns names document with
  | some [kind, subject, detail] => do
      return {
        kind := ← required readString kind
        subject := ← required readString subject
        detail := ← required readString detail }
  | _ => none

/-- `sub.cancel`. -/
structure SubCancel where
  subscriptionId : String

def SubCancel.names : List String := ["subscription_id"]

def SubCancel.columns (message : SubCancel) : List (Option Json) :=
  [some (.string message.subscriptionId)]

def SubCancel.read (document : Json) : Option SubCancel :=
  match Serde.columns names document with
  | some [subscriptionId] => do
      return { subscriptionId := ← required readString subscriptionId }
  | _ => none

/-- `op.request`. -/
structure OpRequest where
  id : String
  subscriptionId : String
  op : String
  params : Value

def OpRequest.names : List String := ["id", "subscription_id", "op", "params"]

def OpRequest.columns (message : OpRequest) : List (Option Json) :=
  [some (.string message.id), some (.string message.subscriptionId), some (.string message.op),
    some message.params.document]

def OpRequest.read (document : Json) : Option OpRequest :=
  match Serde.columns names document with
  | some [id, subscriptionId, op, params] => do
      return {
        id := ← required readString id
        subscriptionId := ← required readString subscriptionId
        op := ← required readString op
        params := ← required readValue params }
  | _ => none

/-! ### The result of an operation -/

inductive OpStatus where
  | ok | error
deriving DecidableEq

def OpStatus.text : OpStatus → String
  | ok => "ok"
  | error => "error"

def OpStatus.ofText : String → Option OpStatus
  | "ok" => some ok
  | "error" => some error
  | _ => none

/-- A unit variant: its name, or an object that maps its name to nothing. -/
def OpStatus.read : Json → Option OpStatus
  | .string text => ofText text
  | .object [(text, .null)] => ofText text
  | .object [(text, .object [])] => ofText text
  | _ => none

/-- `op.result`. -/
structure OpResult where
  requestId : String
  subscriptionId : String
  op : String
  status : OpStatus
  data : Option Value
  error : Option WireError

/-- **`OpResult::validate`**: the payload goes with the status. -/
def OpResult.validate (result : OpResult) : Except String Unit :=
  match result.status with
  | .ok =>
      match result.data with
      | none => .error "op.result status `ok` requires object `data`"
      | some data =>
          if data.document.isObject = false then
            .error "op.result status `ok` requires object `data`"
          else if result.error.isSome then
            .error "op.result status `ok` must not include `error`"
          else .ok ()
  | .error =>
      if result.error.isNone then .error "op.result status `error` requires `error`"
      else if result.data.isSome then
        .error "op.result status `error` must not include `data`"
      else .ok ()

def OpResult.names : List String :=
  ["request_id", "subscription_id", "op", "status", "data", "error"]

def OpResult.columns (message : OpResult) : List (Option Json) :=
  [some (.string message.requestId), some (.string message.subscriptionId),
    some (.string message.op), some (.string message.status.text),
    message.data.map Value.document, message.error.map WireError.write]

/-- `WireOpResult`: the fields, before the pairing is checked. -/
def OpResult.readWire (document : Json) : Option OpResult :=
  match Serde.columns names document with
  | some [requestId, subscriptionId, op, status, data, error] => do
      return {
        requestId := ← required readString requestId
        subscriptionId := ← required readString subscriptionId
        op := ← required readString op
        status := ← required OpStatus.read status
        data := ← optional readValue data
        error := ← optional WireError.read error }
  | _ => none

/-! ### The union -/

/-- **`Msg`**. -/
inductive Msg where
  | orderRequest (message : OrderRequest)
  | orderInvoice (message : OrderInvoice)
  | orderError (message : OrderError)
  | provisionReady (message : ProvisionReady)
  | deliveryResendRequest (message : DeliveryResendRequest)
  | billingInvoice (message : BillingInvoice)
  | billingNotice (message : BillingNotice)
  | billingRefund (message : BillingRefund)
  | renewRequest (message : RenewRequest)
  | subCancel (message : SubCancel)
  | opRequest (message : OpRequest)
  | opResult (message : OpResult)
  | operatorAlert (message : OperatorAlert)

namespace Msg

/-- `type_str`: the wire `type`. -/
def typeStr : Msg → String
  | orderRequest _ => "order.request"
  | orderInvoice _ => "order.invoice"
  | orderError _ => "order.error"
  | provisionReady _ => "provision.ready"
  | deliveryResendRequest _ => "delivery.resend.request"
  | billingInvoice _ => "billing.invoice"
  | billingNotice _ => "billing.notice"
  | billingRefund _ => "billing.refund"
  | renewRequest _ => "renew.request"
  | subCancel _ => "sub.cancel"
  | opRequest _ => "op.request"
  | opResult _ => "op.result"
  | operatorAlert _ => "operator.alert"

/-- The fields of a message. -/
def names : Msg → List String
  | orderRequest _ => OrderRequest.names
  | orderInvoice _ => OrderInvoice.names
  | orderError _ => OrderError.names
  | provisionReady _ => ProvisionReady.names
  | deliveryResendRequest _ => DeliveryResendRequest.names
  | billingInvoice _ => BillingInvoice.names
  | billingNotice _ => BillingNotice.names
  | billingRefund _ => BillingRefund.names
  | renewRequest _ => RenewRequest.names
  | subCancel _ => SubCancel.names
  | opRequest _ => OpRequest.names
  | opResult _ => OpResult.names
  | operatorAlert _ => OperatorAlert.names

/-- What a message writes in its fields. -/
def columns : Msg → List (Option Json)
  | orderRequest message => message.columns
  | orderInvoice message => message.columns
  | orderError message => message.columns
  | provisionReady message => message.columns
  | deliveryResendRequest message => message.columns
  | billingInvoice message => message.columns
  | billingNotice message => message.columns
  | billingRefund message => message.columns
  | renewRequest message => message.columns
  | subCancel message => message.columns
  | opRequest message => message.columns
  | opResult message => message.columns
  | operatorAlert message => message.columns

/-- The check of a message's own `Serialize`: only `op.result` has one. -/
def validate : Msg → Except String Unit
  | opResult message => message.validate
  | _ => .ok ()

/-- **Encoding**: `type` first, then the fields that are not skipped. -/
def encode (message : Msg) : Except String Json :=
  match message.validate with
  | .error reason => .error reason
  | .ok () => .ok (.object (("type", .string message.typeStr) ::
      assemble message.names message.columns))

/-- Why a document is refused: it is not a message, or its `op.result` is inconsistent. -/
inductive DecodeError where
  | malformed
  | inconsistent (reason : String)

/-- A record of a variant. -/
def variant {α : Type} (make : α → Msg) : Option α → Except DecodeError Msg
  | some record => .ok (make record)
  | none => .error .malformed

/-- `OpResult::deserialize`. -/
def readOpResult (content : Json) : Except DecodeError Msg :=
  match OpResult.readWire content with
  | none => .error .malformed
  | some result =>
      match result.validate with
      | .error reason => .error (.inconsistent reason)
      | .ok () => .ok (opResult result)

/-- The variant of a `type`. -/
def readVariant (type : String) (content : Json) : Except DecodeError Msg :=
  match type with
  | "order.request" => variant orderRequest (OrderRequest.read content)
  | "order.invoice" => variant orderInvoice (OrderInvoice.read content)
  | "order.error" => variant orderError (OrderError.read content)
  | "provision.ready" => variant provisionReady (ProvisionReady.read content)
  | "delivery.resend.request" =>
      variant deliveryResendRequest (DeliveryResendRequest.read content)
  | "billing.invoice" => variant billingInvoice (BillingInvoice.read content)
  | "billing.notice" => variant billingNotice (BillingNotice.read content)
  | "billing.refund" => variant billingRefund (BillingRefund.read content)
  | "renew.request" => variant renewRequest (RenewRequest.read content)
  | "sub.cancel" => variant subCancel (SubCancel.read content)
  | "op.request" => variant opRequest (OpRequest.read content)
  | "op.result" => readOpResult content
  | "operator.alert" => variant operatorAlert (OperatorAlert.read content)
  | _ => .error .malformed

/-- **Decoding.** -/
def decode (document : Json) : Except DecodeError Msg :=
  match tagged "type" document with
  | some (type, content) => readVariant type content
  | none => .error .malformed

/-! ### Keys -/

/-- `Msg::id`: the id a request chose. -/
def id : Msg → Option String
  | orderRequest message => some message.id
  | renewRequest message => some message.id
  | opRequest message => some message.id
  | _ => none

/-- `Msg::request_id`: the request a reply answers. -/
def requestId : Msg → Option String
  | orderInvoice message => some message.requestId
  | orderError message => some message.requestId
  | opResult message => some message.requestId
  | billingInvoice message => message.requestId
  | billingNotice message => message.requestId
  | _ => none

/-- The id a key is made of: the message's own, or else the one it answers. -/
def key (message : Msg) : Option String := message.id <|> message.requestId

/-- **`Msg::dedupe_id`**: `<sender>:<type>:<key>`. -/
def dedupeId {PublicKey : Type} (toHex : PublicKey → String) (message : Msg) (sender : PublicKey) :
    Option String :=
  message.key.map fun key => toHex sender ++ ":" ++ message.typeStr ++ ":" ++ key

end Msg

end Lnrent.Wire
