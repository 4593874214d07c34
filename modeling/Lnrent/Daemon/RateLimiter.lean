/-
**The inbound rate limiter** (`nostr_engine.rs`, `InboundRateLimiter`). Every sender has a bucket of
tokens, and the buckets are chained by last check, so that the one checked longest ago can be dropped
when there are too many.

* `Bucket`, `InboundRateLimiter` — the buckets, each with its neighbours in the chain;
* `unlinkLru`, `linkLruTail` — the two repairs of the chain;
* `insertBucket`, `check` — a new bucket with its evictions, and one check. `none` stands for a loop
  that does not end and for the bucket that is expected to be there.

Tokens and times are exact numbers, the times in seconds.
-/

import Lnrent.Relational.Table

namespace Lnrent.RateLimiter

open Relational

def negativeCacheCapacity : ℕ := 4096

def inboundRateLruCapacity : ℕ := negativeCacheCapacity

/-- `Bucket`: one sender's tokens, and its neighbours. -/
structure Bucket (PublicKey : Type) where
  tokens : ℚ
  lastRefill : ℚ
  lruPrev : Option PublicKey
  lruNext : Option PublicKey

/-- **`InboundRateLimiter`**. -/
structure InboundRateLimiter (PublicKey : Type) where
  capacity : ℚ
  refillPerSec : ℚ
  buckets : Table PublicKey (Bucket PublicKey)
  /-- The sender checked longest ago. -/
  lruHead : Option PublicKey
  /-- The sender checked last. -/
  lruTail : Option PublicKey

namespace InboundRateLimiter

variable {PublicKey : Type} [DecidableEq PublicKey]

/-- `new`. -/
def new (capacity refillPerMin : UInt32) : InboundRateLimiter PublicKey where
  capacity := capacity.toNat
  refillPerSec := refillPerMin.toNat / 60
  buckets := Table.empty
  lruHead := none
  lruTail := none

/-! ### The chain -/

def setPrev (limiter : InboundRateLimiter PublicKey) (key : PublicKey) (prev : Option PublicKey) :
    InboundRateLimiter PublicKey :=
  { limiter with
    buckets := limiter.buckets.update (fun found _ => found = key) fun bucket =>
      { bucket with lruPrev := prev } }

def setNext (limiter : InboundRateLimiter PublicKey) (key : PublicKey) (next : Option PublicKey) :
    InboundRateLimiter PublicKey :=
  { limiter with
    buckets := limiter.buckets.update (fun found _ => found = key) fun bucket =>
      { bucket with lruNext := next } }

/-- What came before the sender, or the head, now points to what came after it. -/
def joinNext (limiter : InboundRateLimiter PublicKey) (sender : PublicKey)
    (prev next : Option PublicKey) : InboundRateLimiter PublicKey :=
  match prev with
  | some prev => limiter.setNext prev next
  | none => if limiter.lruHead = some sender then { limiter with lruHead := next } else limiter

/-- What came after the sender, or the tail, now points to what came before it. -/
def joinPrev (limiter : InboundRateLimiter PublicKey) (sender : PublicKey)
    (prev next : Option PublicKey) : InboundRateLimiter PublicKey :=
  match next with
  | some next => limiter.setPrev next prev
  | none => if limiter.lruTail = some sender then { limiter with lruTail := prev } else limiter

/-- `unlink_lru`. -/
def unlinkLru (limiter : InboundRateLimiter PublicKey) (sender : PublicKey) :
    InboundRateLimiter PublicKey :=
  match limiter.buckets.row sender with
  | none => limiter
  | some bucket =>
      ((((limiter.joinNext sender bucket.lruPrev bucket.lruNext).joinPrev sender bucket.lruPrev
        bucket.lruNext).setPrev sender none).setNext sender none)

/-- What was the tail, or the head, now points to the sender. -/
def joinTail (limiter : InboundRateLimiter PublicKey) (sender : PublicKey) :
    InboundRateLimiter PublicKey :=
  match limiter.lruTail with
  | some tail => limiter.setNext tail (some sender)
  | none => { limiter with lruHead := some sender }

/-- `link_lru_tail`. -/
def linkLruTail (limiter : InboundRateLimiter PublicKey) (sender : PublicKey) :
    InboundRateLimiter PublicKey :=
  { ((limiter.joinTail sender).setPrev sender limiter.lruTail).setNext sender none with
    lruTail := some sender }

/-- `touch_lru`. -/
def touchLru (limiter : InboundRateLimiter PublicKey) (sender : PublicKey) :
    InboundRateLimiter PublicKey :=
  if limiter.lruTail = some sender then limiter
  else (limiter.unlinkLru sender).linkLruTail sender

/-! ### Buckets -/

def remove (limiter : InboundRateLimiter PublicKey) (key : PublicKey) :
    InboundRateLimiter PublicKey :=
  { limiter with buckets := limiter.buckets.delete fun found _ => found = key }

def put (limiter : InboundRateLimiter PublicKey) (key : PublicKey) (bucket : Bucket PublicKey) :
    InboundRateLimiter PublicKey :=
  { limiter with buckets := limiter.buckets.put key bucket }

/-- The loop of `insert_bucket`, run for at most so many rounds: the head is dropped while there are
too many buckets. -/
def evictExcess : ℕ → InboundRateLimiter PublicKey → Option (InboundRateLimiter PublicKey)
  | 0, _ => none
  | fuel + 1, limiter =>
      if inboundRateLruCapacity < limiter.buckets.keys.card then
        match limiter.lruHead with
        | some evicted => evictExcess fuel ((limiter.unlinkLru evicted).remove evicted)
        | none => some limiter
      else some limiter

/-- `insert_bucket`. A round of the loop drops a bucket, so one round more than there are buckets is
enough. -/
def insertBucket (limiter : InboundRateLimiter PublicKey) (sender : PublicKey) (tokens now : ℚ) :
    Option (InboundRateLimiter PublicKey) :=
  evictExcess (limiter.buckets.keys.card + 2)
    ((limiter.put sender ⟨tokens, now, none, none⟩).linkLruTail sender)

/-- The tokens after a refill. -/
def refilled (limiter : InboundRateLimiter PublicKey) (bucket : Bucket PublicKey) (now : ℚ) : ℚ :=
  min (bucket.tokens + max (now - bucket.lastRefill) 0 * limiter.refillPerSec) limiter.capacity

/-- The sender's bucket is refilled, and a token spent if there is one. -/
def spend (limiter : InboundRateLimiter PublicKey) (sender : PublicKey) (now : ℚ) :
    Option (Bool × InboundRateLimiter PublicKey) :=
  match limiter.buckets.row sender with
  | none => none
  | some bucket =>
      if 1 ≤ limiter.refilled bucket now then
        some (true, limiter.put sender
          { bucket with tokens := limiter.refilled bucket now - 1, lastRefill := now })
      else
        some (false, limiter.put sender
          { bucket with tokens := limiter.refilled bucket now, lastRefill := now })

/-- **`check`**: whether one wrap of the sender is admitted. -/
def check (limiter : InboundRateLimiter PublicKey) (sender : PublicKey) (now : ℚ) :
    Option (Bool × InboundRateLimiter PublicKey) :=
  if limiter.capacity < 1 then some (false, limiter)
  else if (limiter.buckets.row sender).isSome then (limiter.touchLru sender).spend sender now
  else
    (limiter.insertBucket sender limiter.capacity now).bind fun inserted =>
      (inserted.touchLru sender).spend sender now

end InboundRateLimiter

end Lnrent.RateLimiter
