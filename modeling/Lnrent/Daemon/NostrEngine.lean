/-
**The inbound path** (`nostr_engine.rs`). Each relay copy of a gift wrap is processed by a task of its
own: signature, in-flight claim, negative cache and durable row, in this order, then the decryption,
the rate limiter, the handler and the row.

* `NegativeCache` — the bounded set of non-routable ids;
* `Job` — the two statements on `seen_message`, queued on the store's actor, which runs jobs in order;
* `Phase` — the await points of `process_inbound`;
* `inbound` — the program; its trace records routings, successes and returns, newest first.

What an id commits to (kind, content and sender, but not the signature) is a function of the id.
-/

import Lnrent.Store.Schema
import Lnrent.Transition.Threads

namespace Lnrent.NostrEngine

open Relational Transition

/-- The outer event id of a gift wrap. -/
abbrev EventId := ℕ

/-- What `gift_unwrap` makes of the wrap an id commits to. -/
inductive Content where
  | undecodable
  /-- A message type the operator never acts on. -/
  | other (sender : ℕ) (msgType : Text)
  /-- An order, renewal, cancel, resend or operation request. -/
  | buyer (sender : ℕ) (msgType : Text)
deriving DecidableEq

def Content.IsBuyer : Content → Prop
  | buyer .. => True
  | _ => False

/-- One copy of a wrap, as a relay delivers it; `valid` is `verify_inbound_wrap`. -/
structure Copy where
  id : EventId
  valid : Bool
deriving DecidableEq

/-! ### The negative cache -/

def negativeCacheCapacity : ℕ := 4096

/-- The ids that resolved as non-routable, and the order they are evicted in. -/
structure NegativeCache where
  members : Finset EventId
  order : List EventId

namespace NegativeCache

/-- `NegativeCache::default`. -/
def empty : NegativeCache := ⟨∅, []⟩

/-- `NegativeCache::insert`. -/
def insert (cache : NegativeCache) (id : EventId) : NegativeCache :=
  if id ∈ cache.members then cache
  else if (cache.order ++ [id]).length > negativeCacheCapacity then
    match cache.order ++ [id] with
    | [] => ⟨Insert.insert id cache.members, []⟩
    | evicted :: rest => ⟨(Insert.insert id cache.members).erase evicted, rest⟩
  else ⟨Insert.insert id cache.members, cache.order ++ [id]⟩

/-- **Set and queue agree**, and are bounded. -/
structure Agrees (cache : NegativeCache) : Prop where
  nodup : cache.order.Nodup
  members : cache.members = cache.order.toFinset
  bounded : cache.order.length ≤ negativeCacheCapacity

theorem agrees_empty : Agrees empty := ⟨List.nodup_nil, rfl, Nat.zero_le _⟩

theorem Agrees.insert {cache : NegativeCache} (agrees : Agrees cache) (id : EventId) :
    Agrees (cache.insert id) := by
  unfold NegativeCache.insert
  split_ifs with present full
  · exact agrees
  all_goals
    rw [agrees.members, List.mem_toFinset] at present
    have nodup : (cache.order ++ [id]).Nodup := by
      refine List.nodup_append.mpr ⟨agrees.nodup, List.nodup_singleton id, ?_⟩
      rintro one here other there rfl
      exact present (List.mem_singleton.mp there ▸ here)
    have members : Insert.insert id cache.members = (cache.order ++ [id]).toFinset := by
      ext other
      simp [agrees.members]
  · have bounded : (cache.order ++ [id]).length ≤ negativeCacheCapacity + 1 := by
      simpa using agrees.bounded
    rw [members]
    cases order : cache.order ++ [id] with
    | nil => exact ⟨List.nodup_nil, rfl, Nat.zero_le _⟩
    | cons evicted rest =>
        rw [order] at nodup bounded
        obtain ⟨absent, nodup⟩ := List.nodup_cons.mp nodup
        refine ⟨nodup, ?_, Nat.le_of_succ_le_succ bounded⟩
        rw [List.toFinset_cons]
        exact Finset.erase_insert (mt List.mem_toFinset.mp absent)
  · exact ⟨nodup, members, Nat.le_of_not_lt full⟩

/-- Nothing but the id enters. -/
theorem mem_insert {cache : NegativeCache} {id other : EventId}
    (member : other ∈ (cache.insert id).members) : other = id ∨ other ∈ cache.members := by
  unfold NegativeCache.insert at member
  split_ifs at member with present full
  · exact .inr member
  · split at member
    · exact Finset.mem_insert.mp member
    · exact Finset.mem_insert.mp (Finset.mem_of_mem_erase member)
  · exact Finset.mem_insert.mp member

end NegativeCache

/-! ### The durable row -/

/-- `SEEN_MESSAGE_RETENTION_SECS`: 90 days. -/
def seenMessageRetentionSecs : ℤ := 90 * 24 * 60 * 60

/-- `seen_message`, keyed by the event id. -/
structure SeenRow where
  sender : ℕ
  msgType : Text
  seenAt : ℤ
deriving DecidableEq

/-- The rows past their retention go. -/
def pruneSeen (seen : Table EventId SeenRow) (unixepoch : ℤ) : Table EventId SeenRow :=
  seen.delete fun _ row => row.seenAt < unixepoch - seenMessageRetentionSecs

/-- `mark_seen`: one transaction prunes and inserts, `ON CONFLICT DO NOTHING`. -/
def markSeen (seen : Table EventId SeenRow) (id : EventId) (sender : ℕ) (msgType : Text)
    (unixepoch : ℤ) : Table EventId SeenRow :=
  match (pruneSeen seen unixepoch).row id with
  | some _ => pruneSeen seen unixepoch
  | none => (pruneSeen seen unixepoch).put id ⟨sender, msgType, unixepoch⟩

/-- A job of the store's actor, with the task that queued it. -/
inductive Statement where
  | isSeen (id : EventId)
  | markSeen (id : EventId) (sender : ℕ) (msgType : Text)
deriving DecidableEq

structure Job where
  task : ℕ
  statement : Statement
deriving DecidableEq

/-! ### The tasks -/

/-- **The await points of `process_inbound`.** -/
inductive Phase where
  | arriving
  | checking
  | checkingReply
  | decoding
  | handling (sender : ℕ) (msgType : Text)
  | marking (sender : ℕ) (msgType : Text)
  | markingReply
deriving DecidableEq

structure Thread where
  copy : Copy
  phase : Phase
deriving DecidableEq

/-- How a delivery returns. -/
inductive Ending where
  | invalid | inFlight | cached | seen | undecodable | limited | ignored
  | storeError | failed | handled
deriving DecidableEq

inductive Mark where
  /-- The wrap was handed to its handler. -/
  | routed (task : ℕ) (id : EventId)
  /-- The handler returned `Ok`. -/
  | succeeded (task : ℕ) (id : EventId)
  | returned (task : ℕ) (copy : Copy) (ending : Ending)
deriving DecidableEq

/-- **The shared state**: the durable rows, the in-flight set (with the task that holds each claim),
the negative cache, the actor's queue and replies, and the trace. -/
structure Shared where
  seen : Table EventId SeenRow
  inFlight : Table EventId ℕ
  negativeCache : NegativeCache
  queue : List Job
  replies : Table ℕ (Except Unit Bool)
  trace : List Mark

namespace Shared

def mark (shared : Shared) (mark : Mark) : Shared := { shared with trace := mark :: shared.trace }

/-- `InFlight::drop`. -/
def release (shared : Shared) (id : EventId) : Shared :=
  { shared with inFlight := shared.inFlight.delete fun other _ => other = id }

/-- `note_non_routable`. -/
def noteNonRoutable (shared : Shared) (id : EventId) : Shared :=
  { shared with negativeCache := shared.negativeCache.insert id }

def enqueue (shared : Shared) (job : Job) : Shared := { shared with queue := shared.queue ++ [job] }

/-- The reply of a job is taken. -/
def take (shared : Shared) (task : ℕ) : Shared :=
  { shared with replies := shared.replies.delete fun other _ => other = task }

/-- The actor runs the job at the head of its queue; a failed job rolls back. -/
def runJob (shared : Shared) (unixepoch : ℤ) (fails : Bool) : Shared :=
  match shared.queue with
  | [] => shared
  | job :: rest =>
      let shared := { shared with queue := rest }
      if fails then { shared with replies := shared.replies.put job.task (.error ()) }
      else
        match job.statement with
        | .isSeen id =>
            { shared with
              replies := shared.replies.put job.task (.ok (shared.seen.row id).isSome) }
        | .markSeen id sender msgType =>
            { shared with
              seen := NostrEngine.markSeen shared.seen id sender msgType unixepoch
              replies := shared.replies.put job.task (.ok true) }

/-- The task returns; its guard, if it has one, is dropped. -/
def finish (shared : Shared) (task : ℕ) (copy : Copy) (ending : Ending) :
    Shared × Option Phase :=
  ((shared.release copy.id).mark (.returned task copy ending), none)

end Shared

/-- What the daemon is set up with: its own key, and what the ids commit to. -/
structure Engine where
  operator : ℕ
  content : EventId → Content

/-- What a step is told: the rate limiter's and the handler's answer. -/
structure Answer where
  admits : Bool := true
  handled : Bool := true

/-- **`process_inbound`** from one await point to the next. -/
def advance (engine : Engine) (shared : Shared) (task : ℕ) (copy : Copy) (answer : Answer) :
    Phase → Shared × Option Phase
  | .arriving =>
      if copy.valid = false then (shared.mark (.returned task copy .invalid), none)
      else
        match shared.inFlight.row copy.id with
        | some _ => (shared.mark (.returned task copy .inFlight), none)
        | none =>
            let claimed := { shared with inFlight := shared.inFlight.put copy.id task }
            if copy.id ∈ shared.negativeCache.members then claimed.finish task copy .cached
            else (claimed, some .checking)
  | .checking => (shared.enqueue ⟨task, .isSeen copy.id⟩, some .checkingReply)
  | .checkingReply =>
      match shared.replies.row task with
      | none => (shared, some .checkingReply)
      | some (.error ()) => (shared.take task).finish task copy .storeError
      | some (.ok true) => (shared.take task).finish task copy .seen
      | some (.ok false) => (shared.take task, some .decoding)
  | .decoding =>
      match engine.content copy.id with
      | .undecodable => (shared.noteNonRoutable copy.id).finish task copy .undecodable
      | .other .. => (shared.noteNonRoutable copy.id).finish task copy .ignored
      | .buyer sender msgType =>
          if sender ≠ engine.operator ∧ answer.admits = false then shared.finish task copy .limited
          else (shared.mark (.routed task copy.id), some (.handling sender msgType))
  | .handling sender msgType =>
      if answer.handled then
        (shared.mark (.succeeded task copy.id), some (.marking sender msgType))
      else shared.finish task copy .failed
  | .marking sender msgType =>
      (shared.enqueue ⟨task, .markSeen copy.id sender msgType⟩, some .markingReply)
  | .markingReply =>
      match shared.replies.row task with
      | none => (shared, some .markingReply)
      | some (.error ()) => (shared.take task).finish task copy .storeError
      | some (.ok _) => (shared.take task).finish task copy .handled

/-- The task holds an `InFlight` guard at this await point. -/
def Phase.holds : Phase → Bool
  | arriving => false
  | _ => true

/-- What the store's actor does by itself. -/
structure Event where
  unixepoch : ℤ
  fails : Bool

/-- **The program**: a copy arrives, tasks move, are cancelled, or are lost in a crash, which keeps
nothing but the durable rows. -/
def inbound (engine : Engine) : Program Shared Thread Copy Answer Event where
  start := ⟨Table.empty, Table.empty, NegativeCache.empty, [], Table.empty, []⟩
  spawn shared _ copy := (shared, ⟨copy, .arriving⟩)
  advance shared task thread answer :=
    let moved := advance engine shared task thread.copy answer thread.phase
    (moved.1, moved.2.map fun phase => ⟨thread.copy, phase⟩)
  drop shared _ thread :=
    if thread.phase.holds then shared.release thread.copy.id else shared
  environment shared event := shared.runJob event.unixepoch event.fails
  crash shared :=
    { shared with
      inFlight := Table.empty, negativeCache := NegativeCache.empty, queue := []
      replies := Table.empty }

end Lnrent.NostrEngine
