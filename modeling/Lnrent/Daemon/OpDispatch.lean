/-
**Buyer operations** (`op_dispatch.rs`). One delivery of `op.request` runs the claim transaction, the
hook, and the terminal commit, each a job of the store's actor or a child process with an await around
it. A job that is queued runs even when the task that queued it is dropped.

* `claim`, `commitTerminal`, `recoverInterruptedOps` — the statements on `op_invocation`;
* `Delivery`, `Thread` — a delivery and its await points; between a job and its task's resumption
  there is an await point of its own;
* `InflightGuard` is `register`, `publish` and `release` on the registry and the channels;
* `dispatching` — the program; its trace records claims, hooks and replies, newest first.

Cached texts stand for the JSON values they encode.
-/

import Lnrent.Daemon.OrderIntake
import Lnrent.Store.Maintenance
import Lnrent.Transition.Threads

namespace Lnrent.OpDispatch

open Relational Transition

/-! ### Values -/

/-- A JSON value, opaque but for whether it is an object. -/
structure Json where
  content : ℕ
  isObject : Bool
deriving DecidableEq

/-- `json!({})`. -/
def Json.empty : Json := ⟨0, true⟩

/-- The JSON types `validate_op_params` tells apart. -/
inductive JsonType where
  | string | number | bool | other
deriving DecidableEq

structure OpParam where
  key : Text
  required : Bool
  ty : String

/-- An unknown declared type accepts every value. -/
def OpParam.accepts (param : OpParam) (value : JsonType) : Bool :=
  match param.ty with
  | "string" => value == .string
  | "number" | "int" | "integer" => value == .number
  | "bool" | "boolean" => value == .bool
  | _ => true

/-- A `[[operation]]` of the recipe; `isRequest` is `kind == "request"`. -/
structure Operation where
  name : Text
  isRequest : Bool
  params : List OpParam

/-- The body of an `op.request`; `params` is `none` where it is not an object. -/
structure OpRequest where
  subscriptionId : OrderId
  op : Text
  params : Option (List (Text × JsonType))
deriving DecidableEq

/-- The codes of an `op.result` error. -/
inductive OpErrorCode where
  | invalidRequestId | unauthorized | unavailable | notActive | unknownOp | invalidParams
  | hookFailed | timeout | interrupted
deriving DecidableEq

structure OpError where
  code : OpErrorCode
  message : String
  retryable : Bool
deriving DecidableEq

/-- What an operation ends in: `DONE` with the hook's output, or `ERROR`. -/
inductive Terminal where
  | done (data : Json)
  | error (error : OpError)
deriving DecidableEq

/-- `op.result`. -/
structure OpResult where
  requestId : ℕ
  subscriptionId : OrderId
  op : Text
  payload : Terminal
deriving DecidableEq

/-! ### Errors -/

def unauthorized : OpError := ⟨.unauthorized, "not authorized for this subscription", false⟩

/-- `can_still_reach_active`. -/
def canStillReachActive : SubState → Bool
  | .pending | .provisioning | .active | .resuming | .suspended => true
  | _ => false

def unavailable (state : SubState) : OpError :=
  ⟨.unavailable, "this subscription is not currently served here", canStillReachActive state⟩

def notActive : OpError := ⟨.notActive, "subscription is not active", false⟩

def invalidRequestId : OpError :=
  ⟨.invalidRequestId, "request id must be 1..=128 chars using only [A-Za-z0-9_-]", false⟩

def unknownOp : OpError := ⟨.unknownOp, "unknown management operation", false⟩

def invalidParams (message : String) : OpError := ⟨.invalidParams, message, false⟩

def timeoutErr : OpError := ⟨.timeout, "operation hook timed out", true⟩

def hookFailed (message : String) : OpError := ⟨.hookFailed, message, false⟩

def interrupted : OpError := ⟨.interrupted, "operation interrupted by daemon restart", false⟩

/-- `validate_op_params`: the first problem with the params. -/
def validateOpParams (op : Operation) (params : Option (List (Text × JsonType))) : Option String :=
  match params with
  | none => some "op params must be a JSON object"
  | some given =>
      let value (key : Text) : Option JsonType := (given.find? fun pair => pair.1 == key).map (·.2)
      let declared := op.params.findSome? fun param =>
        match value param.key with
        | none => if param.required then some s!"missing required param `{param.key}`" else none
        | some type =>
            if param.accepts type then none
            else some s!"param `{param.key}` has the wrong type (expected {param.ty})"
      let undeclared := given.findSome? fun pair =>
        if op.params.any fun param => param.key == pair.1 then none
        else some s!"unknown param `{pair.1}`"
      declared.orElse fun _ => undeclared

/-- `cap_message`: at most 256 characters reach the cache. -/
def capMessage (message : String) : String :=
  if message.length ≤ 256 then message else String.ofList (message.toList.take 256) ++ "…"

/-! ### The row -/

/-- `op_invocation.state`. -/
inductive OpState where
  | running | done | error
deriving DecidableEq

/-- `op_invocation`, keyed by `(sender_pubkey, request_id)`. -/
structure OpRow where
  subscriptionId : OrderId
  op : Text
  state : OpState
  resultJson : Option Json
  errorJson : Option OpError
  createdAt : ℤ
  finishedAt : Option ℤ
deriving DecidableEq

/-- The terminal a row caches. -/
def OpRow.terminal (row : OpRow) : Option Terminal :=
  match row.state with
  | .running => none
  | .done => some (.done (row.resultJson.getD Json.empty))
  | .error => some (.error (row.errorJson.getD interrupted))

/-- The row after its terminal commit. -/
def OpRow.finish (row : OpRow) (terminal : Terminal) (now : ℤ) : OpRow :=
  match terminal with
  | .done data =>
      { row with state := .done, resultJson := some data, errorJson := none, finishedAt := some now }
  | .error error =>
      { row with
        state := .error, resultJson := none, errorJson := some error, finishedAt := some now }

/-- The reply a terminal is resent as (`resend_done`, `resend_errored`). -/
def resend (requestId : ℕ) (subscriptionId : OrderId) (op : Text) : Terminal → OpResult
  | .done data =>
      ⟨requestId, subscriptionId, op, .done (if data.isObject then data else Json.empty)⟩
  | .error error => ⟨requestId, subscriptionId, op, .error error⟩

/-- **What a row answers**: nothing while it runs. -/
def OpRow.result (row : OpRow) (requestId : ℕ) : Option OpResult :=
  row.terminal.map (resend requestId row.subscriptionId row.op)

/-! ### Deliveries -/

/-- What the operator fixes. -/
structure Ops where
  recipe : Recipe
  operation : Text → Option Operation
  validTail : ℕ → Bool

/-- One delivery of an `op.request`, with the clock it was dispatched at. -/
structure Delivery where
  key : RequestKey
  request : OpRequest
  now : ℤ
deriving DecidableEq

/-- The outcome of the claim transaction; `cached` is `Done` and `Errored`. -/
inductive Claim where
  | claimed (subscriptionState : SubState)
  | cached (terminal : Terminal) (subscriptionId : OrderId) (op : Text)
  | running
  | unauthorized
  | foreignRecipe (rowRecipe : RecipeId) (state : SubState)
  | notActive
deriving DecidableEq

/-- The refusals of the claim transaction. -/
def Claim.refusal : Claim → Option OpError
  | unauthorized => some OpDispatch.unauthorized
  | foreignRecipe _ state => some (unavailable state)
  | notActive => some OpDispatch.notActive
  | _ => none

/-- `lookup_existing`. -/
def OpRow.lookup (row : OpRow) : Claim :=
  match row.terminal with
  | some terminal => .cached terminal row.subscriptionId row.op
  | none => .running

/-- The freshly claimed row. -/
def runningRow (delivery : Delivery) : OpRow :=
  ⟨delivery.request.subscriptionId, delivery.request.op, .running, none, none, delivery.now, none⟩

/-- `authorize`: the part of the claim transaction after the lookup; `none` lets the claim insert. -/
def authorize (recipe : Recipe) (subscription : Table OrderId SubscriptionRow)
    (delivery : Delivery) : Claim :=
  match subscription.row delivery.request.subscriptionId with
  | none => .unauthorized
  | some row =>
      if row.buyerPubkey ≠ delivery.key.sender then .unauthorized
      else if ¬ recipe.ownsRow row.recipeId then .foreignRecipe (row.recipeId.getD 0) row.state
      else if row.state ≠ .active then .notActive
      else .claimed row.state

/-- `claim`: lookup, authorize, insert, in one transaction. -/
def claim (recipe : Recipe) (subscription : Table OrderId SubscriptionRow)
    (rows : Table RequestKey OpRow) (delivery : Delivery) : Table RequestKey OpRow × Claim :=
  match rows.row delivery.key with
  | some row => (rows, row.lookup)
  | none =>
      match authorize recipe subscription delivery with
      | .claimed state => (rows.put delivery.key (runningRow delivery), .claimed state)
      | refused => (rows, refused)

/-- `commit_terminal`: `none` where the row already left RUNNING. -/
def commitTerminal (rows : Table RequestKey OpRow) (key : RequestKey) (terminal : Terminal)
    (now : ℤ) : Option (Table RequestKey OpRow) :=
  match rows.row key with
  | some row =>
      if row.state = .running then some (rows.put key (row.finish terminal now)) else none
  | none => none

/-- `recover_interrupted_ops`: at the next boot every RUNNING row becomes an `interrupted` ERROR. -/
def recoverInterruptedOps (rows : Table RequestKey OpRow) (now : ℤ) : Table RequestKey OpRow :=
  rows.update (fun _ row => row.state = .running) fun row =>
    { row with state := .error, errorJson := some interrupted, finishedAt := some now }

/-- The `op_invocation` part of `prune_idempotency_caches`. -/
def pruneOpInvocations (rows : Table RequestKey OpRow) (cutoff : ℤ) : Table RequestKey OpRow :=
  rows.delete fun _ row => row.state ≠ .running ∧ ∃ finished ∈ row.finishedAt, finished < cutoff

/-! ### The tasks -/

/-- What the hook is started with; the recipe's constants are left out. -/
structure HookInput where
  delivery : Delivery
  subscriptionState : SubState
  instance_ : Option InstanceRow
deriving DecidableEq

/-- `InflightOutcome`: `terminal` is `Done` and `Errored`. -/
inductive Outcome where
  | terminal (terminal : Terminal) (subscriptionId : OrderId) (op : Text)
  | noTerminal
deriving DecidableEq

/-- **The await points of a delivery.** `claimed` and `committed` wait to resume after their job. -/
inductive Phase where
  | claiming
  | claimed (claim : Claim)
  | loading (subscriptionState : SubState)
  | hooking
  | committing (terminal : Terminal)
  | committed (terminal : Terminal) (ok : Bool)
  | attached (owner : ℕ)
  | rereading
  | replying (reply : OpResult)
  | refusing (error : OpError)
deriving DecidableEq

structure Thread where
  delivery : Delivery
  phase : Phase
deriving DecidableEq

/-- A job that outlived the task that queued it. -/
inductive Job where
  | claim (delivery : Delivery)
  | commit (delivery : Delivery) (terminal : Terminal)
deriving DecidableEq

def Job.delivery : Job → Delivery
  | claim delivery | commit delivery _ => delivery

/-- What the trace records; every mark names its delivery. -/
inductive Mark where
  /-- The claim transaction inserted the row. -/
  | claimed (id : ℕ) (key : RequestKey)
  /-- The claim transaction found the row. -/
  | found (id : ℕ) (key : RequestKey)
  /-- The request was refused before the claim. -/
  | refused (id : ℕ) (key : RequestKey)
  /-- The operation hook was started. -/
  | hook (id : ℕ) (key : RequestKey) (input : HookInput)
  | sent (id : ℕ) (key : RequestKey) (reply : OpResult)
deriving DecidableEq

def Mark.owner : Mark → ℕ
  | claimed id _ | found id _ | refused id _ | hook id _ _ | sent id _ _ => id

def Mark.key : Mark → RequestKey
  | claimed _ key | found _ key | refused _ key | hook _ key _ | sent _ key _ => key

/-- **The shared state**: the tables, the in-flight registry (the delivery that owns each entry), what
each owner published, the jobs without a task, and the trace. -/
structure Shared where
  clock : ℤ
  subscription : Table OrderId SubscriptionRow
  rows : Table RequestKey OpRow
  registry : Table RequestKey ℕ
  channels : Table ℕ Outcome
  orphans : Table ℕ Job
  trace : List Mark

namespace Shared

def mark (shared : Shared) (mark : Mark) : Shared := { shared with trace := mark :: shared.trace }

/-- `InflightGuard::register`. -/
def register (shared : Shared) (id : ℕ) (key : RequestKey) : Shared :=
  { shared with registry := shared.registry.put key id }

/-- `send_replace` and `remove_inflight`: the outcome is published and the entry removed. -/
def publish (shared : Shared) (id : ℕ) (key : RequestKey) (outcome : Outcome) : Shared :=
  { shared with
    channels := shared.channels.put id outcome
    registry := shared.registry.delete fun other _ => other = key }

/-- The guard's drop without a published terminal. -/
def release (shared : Shared) (id : ℕ) (key : RequestKey) : Shared :=
  shared.publish id key .noTerminal

/-- The claim job runs on the actor. -/
def runClaim (recipe : Recipe) (shared : Shared) (id : ℕ) (delivery : Delivery) : Shared × Claim :=
  let result := claim recipe shared.subscription shared.rows delivery
  let mark : Mark :=
    match result.2 with
    | .claimed _ => .claimed id delivery.key
    | .cached .. | .running => .found id delivery.key
    | .unauthorized | .foreignRecipe .. | .notActive => .refused id delivery.key
  ({ shared with rows := result.1 }.mark mark, result.2)

/-- The commit job runs on the actor. -/
def runCommit (shared : Shared) (delivery : Delivery) (terminal : Terminal) : Option Shared :=
  (commitTerminal shared.rows delivery.key terminal delivery.now).map fun rows =>
    { shared with rows := rows }

/-- A job without a task runs, or fails. -/
def runJob (recipe : Recipe) (shared : Shared) (id : ℕ) (fails : Bool) : Shared :=
  match shared.orphans.row id with
  | none => shared
  | some job =>
      let rest := { shared with orphans := shared.orphans.delete fun other _ => other = id }
      if fails then rest
      else
        match job with
        | .claim delivery => (rest.runClaim recipe id delivery).1
        | .commit delivery terminal => (rest.runCommit delivery terminal).getD rest

end Shared

/-- `run_hook`'s answer. -/
inductive HookAnswer where
  | output (data : Json)
  | timedOut
  | failed
deriving DecidableEq

/-- The terminal a hook's answer is committed as. -/
def HookAnswer.terminal : HookAnswer → Terminal
  | output data =>
      if data.isObject then .done data
      else .error (hookFailed "operation hook did not return a JSON object")
  | timedOut => .error timeoutErr
  | failed => .error (hookFailed "operation hook failed")

/-- What a step is told. -/
structure Answer where
  storeFails : Bool := false
  instance_ : Option InstanceRow := none
  hook : HookAnswer := .failed

/-- The synchronous part of `run_owned`: resolve the operation and check the params. -/
def resolve (ops : Ops) (request : OpRequest) : Option OpError :=
  match ops.operation request.op with
  | none => some unknownOp
  | some op =>
      if op.isRequest then (validateOpParams op request.params).map (invalidParams ∘ capMessage)
      else some unknownOp

/-- The delivery resumes after its claim. -/
def resume (ops : Ops) (shared : Shared) (id : ℕ) (delivery : Delivery) :
    Claim → Shared × Option Phase
  | .claimed state =>
      (shared.register id delivery.key,
        some (match resolve ops delivery.request with
          | some error => .committing (.error error)
          | none => .loading state))
  | .cached terminal subscriptionId op =>
      (shared, some (.replying (resend delivery.key.requestId subscriptionId op terminal)))
  | .running =>
      (shared, some (match shared.registry.row delivery.key with
        | some owner => .attached owner
        | none => .rereading))
  | refused => (shared, some (.refusing (refused.refusal.getD unauthorized)))

/-- **One step of a delivery**: `dispatch`, `run_owned` and `attach_or_defer` from one await point to
the next. -/
def advance (ops : Ops) (shared : Shared) (id : ℕ) (delivery : Delivery) (answer : Answer) :
    Phase → Shared × Option Phase
  | .claiming =>
      if answer.storeFails then (shared, none)
      else
        let ran := shared.runClaim ops.recipe id delivery
        (ran.1, some (.claimed ran.2))
  | .claimed claim => resume ops shared id delivery claim
  | .loading state =>
      if answer.storeFails then (shared.release id delivery.key, none)
      else
        (shared.mark (.hook id delivery.key ⟨delivery, state, answer.instance_⟩), some .hooking)
  | .hooking => (shared, some (.committing answer.hook.terminal))
  | .committing terminal =>
      match if answer.storeFails then none else shared.runCommit delivery terminal with
      | none => (shared, some (.committed terminal false))
      | some after => (after, some (.committed terminal true))
  | .committed terminal ok =>
      if ok then
        (shared.publish id delivery.key
            (.terminal terminal delivery.request.subscriptionId delivery.request.op),
          some (.replying
            ⟨delivery.key.requestId, delivery.request.subscriptionId, delivery.request.op, terminal⟩))
      else (shared.release id delivery.key, none)
  | .attached owner =>
      match shared.channels.row owner with
      | none => (shared, some (.attached owner))
      | some (.terminal terminal subscriptionId op) =>
          (shared, some (.replying (resend delivery.key.requestId subscriptionId op terminal)))
      | some .noTerminal => (shared, none)
  | .rereading =>
      if answer.storeFails then (shared, none)
      else
        match (shared.rows.row delivery.key).map OpRow.lookup with
        | some (.cached terminal subscriptionId op) =>
            (shared, some (.replying (resend delivery.key.requestId subscriptionId op terminal)))
        | _ => (shared, none)
  | .replying reply => (shared.mark (.sent id delivery.key reply), none)
  | .refusing error =>
      (shared.mark (.sent id delivery.key ⟨delivery.key.requestId,
        delivery.request.subscriptionId, delivery.request.op, .error error⟩), none)

/-- The delivery holds an `InflightGuard` at this await point. -/
def Phase.guards : Phase → Bool
  | loading _ | hooking | committing _ | committed .. => true
  | _ => false

/-- The job a dropped task leaves on the actor's queue. -/
def Phase.job (delivery : Delivery) : Phase → Option Job
  | claiming => some (.claim delivery)
  | committing terminal => some (.commit delivery terminal)
  | _ => none

/-- **A dropped delivery**: its guard is released, its queued job stays. -/
def drop (shared : Shared) (id : ℕ) (thread : Thread) : Shared :=
  let released :=
    if thread.phase.guards then shared.release id thread.delivery.key else shared
  match thread.phase.job thread.delivery with
  | some job => { released with orphans := released.orphans.put id job }
  | none => released

/-- What the rest of the daemon does. -/
inductive Event where
  | clock (now : ℤ)
  | subscriptions (table : Table OrderId SubscriptionRow)
  | job (id : ℕ) (fails : Bool)
  | prune (unixepoch : ℤ)

/-- **The program.** A request whose id fails the structural gate is refused before any lookup; a
crash loses the tasks, the registry and the queue, and the next boot recovers interrupted rows. -/
def dispatching (ops : Ops) :
    Program Shared Thread (RequestKey × OpRequest) Answer Event where
  start := ⟨0, Table.empty, Table.empty, Table.empty, Table.empty, Table.empty, []⟩
  spawn shared id request :=
    let delivery : Delivery := ⟨request.1, request.2, shared.clock⟩
    if ops.validTail request.1.requestId then (shared, ⟨delivery, .claiming⟩)
    else (shared.mark (.refused id request.1), ⟨delivery, .refusing invalidRequestId⟩)
  advance shared id thread answer :=
    let moved := advance ops shared id thread.delivery answer thread.phase
    (moved.1, moved.2.map fun phase => ⟨thread.delivery, phase⟩)
  drop := drop
  environment shared
    | .clock now => { shared with clock := now }
    | .subscriptions table => { shared with subscription := table }
    | .job id fails => shared.runJob ops.recipe id fails
    | .prune unixepoch =>
        { shared with
          rows := pruneOpInvocations shared.rows (Maintenance.pruneCutoff unixepoch shared.clock) }
  crash shared :=
    { shared with
      rows := recoverInterruptedOps shared.rows shared.clock
      registry := Table.empty, channels := Table.empty, orphans := Table.empty }

end Lnrent.OpDispatch
