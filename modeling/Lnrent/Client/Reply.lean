/-
**The reply a buyer acts on.**

* `seen` — what the stream hands over before its deadline or its first error;
* `rated`, `matched` — the replies among it, by what the matcher makes of them;
* `heard` — what of it a pinned request still hears once it holds a reply;
* `await_first`, `await_held`, `await_pinned` — what the loop returns;
* `ActsOn` — the reply of a flow, with where it came from;
* `buyer_right_reply` — **every flow acts on the right reply**.
-/

import Lnrent.Client.Buyer
import Mathlib.Data.List.TakeWhile

namespace Lnrent.Client

open Wire Serde

variable {PublicKey : Type}

/-! ### The replies of a stream -/

/-- The reply an arrival brings, if the matcher rates it so. -/
def rated (want : Want PublicKey) (rating : ReplyMatch) (arrival : Arrival PublicKey) :
    Option (PublicKey × Wire.Msg) :=
  match arrival.read with
  | .error _ => none
  | .ok wrap => (giftUnwrap wrap).filter fun reply => decide (want reply.1 reply.2 = rating)

/-- The reply an arrival brings, whether preferred or acceptable. -/
def matched (want : Want PublicKey) (arrival : Arrival PublicKey) : Option (PublicKey × Wire.Msg) :=
  (rated want .preferred arrival).or (rated want .acceptable arrival)

/-- Handed over before the deadline, and no error. -/
def Readable (deadline : ℕ) (arrival : Arrival PublicKey) : Bool :=
  decide (arrival.instant < deadline) && arrival.read.isOk

/-- **What the stream hands over before it ends**, by its deadline or an error. -/
def seen (deadline : ℕ) (arrivals : List (Arrival PublicKey)) : List (Arrival PublicKey) :=
  arrivals.takeWhile (Readable deadline)

/-- What the exchange fails with if it holds nothing. -/
def failure (deadline : ℕ) : List (Arrival PublicKey) → BuyerError
  | [] => noReply
  | arrival :: rest =>
      if deadline ≤ arrival.instant then noReply
      else
        match arrival.read with
        | .error message => .transport message
        | .ok _ => failure deadline rest

/-- **What a pinned request hears of it**: once it holds a reply, no more than its grace allows. -/
def heard (want : Want PublicKey) (grace : PinnedGrace) :
    List (Arrival PublicKey) → List (Arrival PublicKey)
  | [] => []
  | arrival :: rest =>
      match rated want .acceptable arrival with
      | none => arrival :: heard want grace rest
      | some _ =>
          match grace with
          | .fullDeadline => arrival :: rest
          | .window within =>
              arrival :: rest.takeWhile fun later => later.instant < arrival.instant + within

/-- The first of some replies, or the failure. -/
def orFailure (first : Option (PublicKey × Wire.Msg)) (error : BuyerError) :
    Except BuyerError (PublicKey × Wire.Msg) :=
  first.elim (.error error) .ok

/-! ### One arrival -/

section Arrival

variable {want : Want PublicKey} {arrival : Arrival PublicKey} {deadline : ℕ}
  {rest : List (Arrival PublicKey)} {reply : PublicKey × Wire.Msg}

theorem rated_iff {rating : ReplyMatch} :
    rated want rating arrival = some reply ↔
      ∃ wrap, arrival.read = .ok wrap ∧ giftUnwrap wrap = some reply ∧
        want reply.1 reply.2 = rating := by
  rw [rated]
  cases read : arrival.read with
  | error message =>
      constructor
      · intro none
        cases none
      · rintro ⟨_, ⟨⟩, _⟩
  | ok wrap =>
      constructor
      · intro found
        obtain ⟨held, rates⟩ := Option.filter_eq_some_iff.mp found
        exact ⟨wrap, rfl, held, of_decide_eq_true rates⟩
      · rintro ⟨_, ⟨⟩, held, rates⟩
        exact Option.filter_eq_some_iff.mpr ⟨held, decide_eq_true rates⟩

/-- **What an arrival is to a matcher**, before the deadline. -/
inductive Kind (want : Want PublicKey) (arrival : Arrival PublicKey) : Prop
  | broken (message : String) : arrival.read = .error message → Kind want arrival
  | silent : arrival.read.isOk = true → rated want .preferred arrival = none →
      rated want .acceptable arrival = none → Kind want arrival
  | preferred (reply : PublicKey × Wire.Msg) : rated want .preferred arrival = some reply →
      Kind want arrival
  | acceptable (reply : PublicKey × Wire.Msg) : rated want .preferred arrival = none →
      rated want .acceptable arrival = some reply → Kind want arrival

theorem kind (want : Want PublicKey) (arrival : Arrival PublicKey) : Kind want arrival := by
  cases read : arrival.read with
  | error message => exact .broken message read
  | ok wrap =>
      cases preferred : rated want .preferred arrival with
      | some reply => exact .preferred reply preferred
      | none =>
          cases acceptable : rated want .acceptable arrival with
          | some reply => exact .acceptable reply preferred acceptable
          | none => exact .silent (by rw [read]; rfl) preferred acceptable

theorem isOk_of_rated {rating : ReplyMatch} (found : rated want rating arrival = some reply) :
    arrival.read.isOk = true := by
  obtain ⟨wrap, read, _⟩ := rated_iff.mp found
  rw [read]
  rfl

theorem seen_late (late : deadline ≤ arrival.instant) : seen deadline (arrival :: rest) = [] := by
  refine List.takeWhile_cons_of_neg ?_
  rw [Readable, decide_eq_false (by omega), Bool.false_and]
  decide

theorem seen_broken {message : String} (read : arrival.read = .error message) :
    seen deadline (arrival :: rest) = [] := by
  refine List.takeWhile_cons_of_neg ?_
  rw [Readable, read, Except.isOk, Except.toBool, Bool.and_false]
  decide

theorem seen_cons (early : arrival.instant < deadline) (read : arrival.read.isOk = true) :
    seen deadline (arrival :: rest) = arrival :: seen deadline rest := by
  refine List.takeWhile_cons_of_pos ?_
  rw [Readable, decide_eq_true early, read]
  decide

theorem failure_late (late : deadline ≤ arrival.instant) :
    failure deadline (arrival :: rest) = noReply := by
  rw [failure, if_pos late]

theorem failure_broken {message : String} (early : arrival.instant < deadline)
    (read : arrival.read = .error message) :
    failure deadline (arrival :: rest) = .transport message := by
  rw [failure, if_neg (by omega), read]

theorem failure_cons (early : arrival.instant < deadline) (read : arrival.read.isOk = true) :
    failure deadline (arrival :: rest) = failure deadline rest := by
  rw [failure, if_neg (by omega)]
  cases which : arrival.read with
  | error message => rw [which] at read; cases read
  | ok wrap => rfl

theorem heard_silent {grace : PinnedGrace} (none : rated want .acceptable arrival = none) :
    heard want grace (arrival :: rest) = arrival :: heard want grace rest := by
  simp only [heard, none]

theorem heard_fullDeadline (found : rated want .acceptable arrival = some reply) :
    heard want .fullDeadline (arrival :: rest) = arrival :: rest := by
  simp only [heard, found]

theorem heard_window {within : ℕ} (found : rated want .acceptable arrival = some reply) :
    heard want (.window within) (arrival :: rest) =
      arrival :: rest.takeWhile fun later => later.instant < arrival.instant + within := by
  simp only [heard, found]

theorem heard_cons (want : Want PublicKey) (grace : PinnedGrace) (arrival : Arrival PublicKey)
    (rest : List (Arrival PublicKey)) :
    ∃ later, heard want grace (arrival :: rest) = arrival :: later := by
  cases found : rated want .acceptable arrival with
  | none => exact ⟨_, heard_silent found⟩
  | some reply =>
      cases grace with
      | fullDeadline => exact ⟨_, heard_fullDeadline found⟩
      | window within => exact ⟨_, heard_window found⟩

/-- The full deadline cuts nothing short. -/
theorem heard_all_fullDeadline (want : Want PublicKey) (arrivals : List (Arrival PublicKey)) :
    heard want .fullDeadline arrivals = arrivals := by
  induction arrivals with
  | nil => rfl
  | cons arrival rest ih =>
      cases found : rated want .acceptable arrival with
      | none => rw [heard_silent found, ih]
      | some reply => exact heard_fullDeadline found

/-- A window that starts now ends the stream within it. -/
theorem seen_window (within : ℕ) :
    seen (min deadline within) rest =
      (seen deadline rest).takeWhile fun later => later.instant < within := by
  rw [seen, seen, List.takeWhile_takeWhile]
  refine congrArg (fun reads => List.takeWhile reads rest) (funext fun later => ?_)
  rw [Bool.eq_iff_iff, Readable, Readable, Bool.and_eq_true, decide_eq_true_eq, decide_eq_true_eq,
    decide_eq_true_eq, Bool.and_eq_true, decide_eq_true_eq, lt_min_iff]
  tauto

end Arrival

/-! ### One turn of the loop -/

section Turn

variable {pinned shortens : Bool} {grace : PinnedGrace} {want : Want PublicKey} {deadline : ℕ}
  {held : Option (PublicKey × Wire.Msg)} {arrival : Arrival PublicKey} {rest : List (Arrival PublicKey)}
  {reply : PublicKey × Wire.Msg}

theorem await_late (late : deadline ≤ arrival.instant) :
    await pinned shortens grace want deadline held (arrival :: rest) = orHeld held noReply := by
  rw [await, if_pos late]

theorem await_broken {message : String} (early : arrival.instant < deadline)
    (read : arrival.read = .error message) :
    await pinned shortens grace want deadline held (arrival :: rest) =
      orHeld held (.transport message) := by
  rw [await, if_neg (by omega), read]

theorem await_silent (early : arrival.instant < deadline) (read : arrival.read.isOk = true)
    (preferred : rated want .preferred arrival = none)
    (acceptable : rated want .acceptable arrival = none) :
    await pinned shortens grace want deadline held (arrival :: rest) =
      await pinned shortens grace want deadline held rest := by
  rw [await, if_neg (by omega)]
  cases which : arrival.read with
  | error message => rw [which] at read; cases read
  | ok wrap =>
      cases unwrapped : giftUnwrap wrap with
      | none => simp only [unwrapped]
      | some reply =>
          have other : ∀ rating, rated want rating arrival = none → want reply.1 reply.2 ≠ rating := by
            intro rating none rates
            rw [rated_iff.mpr ⟨wrap, which, unwrapped, rates⟩] at none
            cases none
          cases rating : want reply.1 reply.2 with
          | ignore => simp only [unwrapped, rating]
          | preferred => exact absurd rating (other _ preferred)
          | acceptable => exact absurd rating (other _ acceptable)

theorem await_preferred (early : arrival.instant < deadline)
    (found : rated want .preferred arrival = some reply) :
    await pinned shortens grace want deadline held (arrival :: rest) = .ok reply := by
  obtain ⟨wrap, read, unwrapped, rates⟩ := rated_iff.mp found
  rw [await, if_neg (by omega), read]
  simp only [unwrapped, rates]

theorem await_acceptable (early : arrival.instant < deadline)
    (found : rated want .acceptable arrival = some reply) :
    await pinned shortens grace want deadline held (arrival :: rest) =
      if pinned = false then .ok reply
      else
        match held with
        | some kept => await pinned shortens grace want deadline (some kept) rest
        | none =>
            match grace with
            | .fullDeadline => await pinned shortens grace want deadline (some reply) rest
            | .window within =>
                if shortens = false then .ok reply
                else
                  await pinned shortens grace want (min deadline (arrival.instant + within))
                    (some reply) rest := by
  obtain ⟨wrap, read, unwrapped, rates⟩ := rated_iff.mp found
  rw [await, if_neg (by omega), read]
  cases held with
  | some kept => simp only [unwrapped, rates]
  | none =>
      cases grace with
      | fullDeadline => simp only [unwrapped, rates]
      | window within => simp only [unwrapped, rates]

end Turn

/-! ### What the loop returns -/

section Loop

variable {pinned shortens : Bool} {grace : PinnedGrace} {want : Want PublicKey}

theorem matched_of_preferred {arrival : Arrival PublicKey} {reply : PublicKey × Wire.Msg}
    (found : rated want .preferred arrival = some reply) : matched want arrival = some reply := by
  rw [matched, found]
  rfl

theorem matched_of_acceptable {arrival : Arrival PublicKey}
    (preferred : rated want .preferred arrival = none) :
    matched want arrival = rated want .acceptable arrival := by
  rw [matched, preferred]
  rfl

/-- **A held reply is returned unless a preferred one arrives.** -/
theorem await_held (kept : PublicKey × Wire.Msg) (arrivals : List (Arrival PublicKey)) (deadline : ℕ) :
    await true shortens grace want deadline (some kept) arrivals =
      .ok (((seen deadline arrivals).findSome? (rated want .preferred)).getD kept) := by
  induction arrivals with
  | nil => rfl
  | cons arrival rest ih =>
      by_cases late : deadline ≤ arrival.instant
      · rw [await_late late, seen_late late]
        rfl
      have early : arrival.instant < deadline := by omega
      cases kind want arrival with
      | broken message read =>
          rw [await_broken early read, seen_broken read]
          rfl
      | silent read preferred acceptable =>
          rw [await_silent early read preferred acceptable, seen_cons early read, List.findSome?_cons,
            preferred, ih]
      | preferred reply found =>
          rw [await_preferred early found, seen_cons early (isOk_of_rated found), List.findSome?_cons,
            found]
          rfl
      | acceptable reply preferred found =>
          rw [await_acceptable early found, seen_cons early (isOk_of_rated found),
            List.findSome?_cons, preferred]
          exact ih

/-- **The first match is returned** with a fresh id, or where a window cannot be enforced. -/
theorem await_first (atOnce : pinned = false ∨ (∃ within, grace = .window within) ∧ shortens = false)
    (arrivals : List (Arrival PublicKey)) (deadline : ℕ) :
    await pinned shortens grace want deadline none arrivals =
      orFailure ((seen deadline arrivals).findSome? (matched want)) (failure deadline arrivals) := by
  induction arrivals with
  | nil => rfl
  | cons arrival rest ih =>
      by_cases late : deadline ≤ arrival.instant
      · rw [await_late late, seen_late late, failure_late late]
        rfl
      have early : arrival.instant < deadline := by omega
      cases kind want arrival with
      | broken message read =>
          rw [await_broken early read, seen_broken read, failure_broken early read]
          rfl
      | silent read preferred acceptable =>
          rw [await_silent early read preferred acceptable, seen_cons early read, List.findSome?_cons,
            matched_of_acceptable preferred, acceptable, failure_cons early read, ih]
      | preferred reply found =>
          rw [await_preferred early found, seen_cons early (isOk_of_rated found), List.findSome?_cons,
            matched_of_preferred found]
          rfl
      | acceptable reply preferred found =>
          rw [await_acceptable early found, seen_cons early (isOk_of_rated found),
            List.findSome?_cons, matched_of_acceptable preferred, found]
          rcases atOnce with fresh | ⟨⟨within, rfl⟩, rfl⟩
          · rw [if_pos fresh]
            rfl
          · show (if pinned = false then _ else if false = false then _ else _) = _
            rw [if_pos rfl, ite_self]
            rfl

/-- **A pinned request holds the first acceptable reply** for the first preferred one it hears. -/
theorem await_pinned (holds : grace = .fullDeadline ∨ shortens = true)
    (arrivals : List (Arrival PublicKey)) (deadline : ℕ) :
    await true shortens grace want deadline none arrivals =
      orFailure (((heard want grace (seen deadline arrivals)).findSome? (rated want .preferred)).or
        ((seen deadline arrivals).findSome? (rated want .acceptable))) (failure deadline arrivals) := by
  induction arrivals with
  | nil => rfl
  | cons arrival rest ih =>
      by_cases late : deadline ≤ arrival.instant
      · rw [await_late late, seen_late late, failure_late late]
        rfl
      have early : arrival.instant < deadline := by omega
      cases kind want arrival with
      | broken message read =>
          rw [await_broken early read, seen_broken read, failure_broken early read]
          rfl
      | silent read preferred acceptable =>
          rw [await_silent early read preferred acceptable, seen_cons early read,
            heard_silent acceptable, List.findSome?_cons, List.findSome?_cons, preferred, acceptable,
            failure_cons early read, ih]
      | preferred reply found =>
          obtain ⟨later, hears⟩ := heard_cons want grace arrival (seen deadline rest)
          rw [await_preferred early found, seen_cons early (isOk_of_rated found), hears,
            List.findSome?_cons, found]
          rfl
      | acceptable reply preferred found =>
          rw [await_acceptable early found, seen_cons early (isOk_of_rated found)]
          cases grace with
          | fullDeadline =>
              rw [heard_fullDeadline found, List.findSome?_cons, List.findSome?_cons, preferred, found]
              show await true shortens .fullDeadline want deadline (some reply) rest = _
              rw [await_held]
              cases (seen deadline rest).findSome? (rated want .preferred) <;> rfl
          | window within =>
              have can : shortens = true := holds.resolve_left fun other => by cases other
              rw [heard_window found, List.findSome?_cons, List.findSome?_cons, preferred, found, can]
              show await true true (.window within) want (min deadline (arrival.instant + within))
                (some reply) rest = _
              rw [await_held, seen_window]
              cases ((seen deadline rest).takeWhile fun later =>
                later.instant < arrival.instant + within).findSome? (rated want .preferred) <;> rfl

/-- Without an acceptable reply there is no grace to run out. -/
theorem heard_all {arrivals : List (Arrival PublicKey)}
    (none : ∀ arrival ∈ arrivals, rated want .acceptable arrival = none) :
    heard want grace arrivals = arrivals := by
  induction arrivals with
  | nil => rfl
  | cons arrival rest ih =>
      rw [heard_silent (none arrival List.mem_cons_self),
        ih fun later member => none later (List.mem_cons_of_mem _ member)]

theorem mem_of_mem_heard {arrival : Arrival PublicKey} {arrivals : List (Arrival PublicKey)}
    (member : arrival ∈ heard want grace arrivals) : arrival ∈ arrivals := by
  induction arrivals with
  | nil => exact member
  | cons first rest ih =>
      cases found : rated want .acceptable first with
      | none =>
          rw [heard_silent found] at member
          rcases List.mem_cons.mp member with rfl | later
          · exact List.mem_cons_self
          · exact List.mem_cons_of_mem _ (ih later)
      | some reply =>
          cases grace with
          | fullDeadline => rwa [heard_fullDeadline found] at member
          | window within =>
              rw [heard_window found] at member
              rcases List.mem_cons.mp member with rfl | later
              · exact List.mem_cons_self
              · exact List.mem_cons_of_mem _ ((List.takeWhile_prefix _).subset later)

theorem orFailure_ok {first : Option (PublicKey × Wire.Msg)} {error : BuyerError}
    {reply : PublicKey × Wire.Msg} (returned : orFailure first error = .ok reply) :
    first = some reply := by
  cases first with
  | none => cases returned
  | some other => exact congrArg some (Except.ok.inj returned)

theorem orFailure_error {first : Option (PublicKey × Wire.Msg)} {error other : BuyerError}
    (failed : orFailure first error = .error other) : first = none ∧ other = error := by
  cases first with
  | none => exact ⟨rfl, (Except.error.inj failed).symm⟩
  | some reply => cases failed

theorem held_of_not_atOnce
    (atOnce : ¬ (pinned = false ∨ (∃ within, grace = .window within) ∧ shortens = false)) :
    pinned = true ∧ (grace = .fullDeadline ∨ shortens = true) := by
  obtain ⟨fresh, forced⟩ := not_or.mp atOnce
  refine ⟨Bool.not_eq_false _ ▸ fresh, ?_⟩
  cases grace with
  | fullDeadline => exact .inl rfl
  | window within => exact .inr (by simpa using forced)

/-- **The exchange fails only if nothing matched before the stream ended.** -/
theorem await_failed {deadline : ℕ} {arrivals : List (Arrival PublicKey)} {error : BuyerError}
    (failed : await pinned shortens grace want deadline none arrivals = .error error) :
    (∀ arrival ∈ seen deadline arrivals, matched want arrival = none) ∧
      error = failure deadline arrivals := by
  by_cases atOnce : pinned = false ∨ (∃ within, grace = .window within) ∧ shortens = false
  · rw [await_first atOnce] at failed
    obtain ⟨none, same⟩ := orFailure_error failed
    exact ⟨List.findSome?_eq_none_iff.mp none, same⟩
  · obtain ⟨fresh, holds⟩ := held_of_not_atOnce atOnce
    rw [fresh, await_pinned holds] at failed
    obtain ⟨none, same⟩ := orFailure_error failed
    obtain ⟨preferred, acceptable⟩ := Option.or_eq_none_iff.mp none
    have silent := List.findSome?_eq_none_iff.mp acceptable
    rw [heard_all silent] at preferred
    refine ⟨fun arrival member => ?_, same⟩
    rw [matched_of_acceptable (List.findSome?_eq_none_iff.mp preferred arrival member)]
    exact silent arrival member

/-- **What is returned arrived before the deadline**, and matches. -/
theorem await_ok {deadline : ℕ} {arrivals : List (Arrival PublicKey)} {reply : PublicKey × Wire.Msg}
    (returned : await pinned shortens grace want deadline none arrivals = .ok reply) :
    ∃ arrival ∈ seen deadline arrivals, matched want arrival = some reply := by
  by_cases atOnce : pinned = false ∨ (∃ within, grace = .window within) ∧ shortens = false
  · rw [await_first atOnce] at returned
    exact List.exists_of_findSome?_eq_some (orFailure_ok returned)
  · obtain ⟨fresh, holds⟩ := held_of_not_atOnce atOnce
    rw [fresh, await_pinned holds] at returned
    have first := orFailure_ok returned
    cases best : (heard want grace (seen deadline arrivals)).findSome? (rated want .preferred) with
    | some better =>
        obtain ⟨arrival, member, found⟩ := List.exists_of_findSome?_eq_some best
        rw [best] at first
        exact ⟨arrival, mem_of_mem_heard member,
          (matched_of_preferred found).trans first⟩
    | none =>
        rw [best] at first
        obtain ⟨arrival, member, found⟩ := List.exists_of_findSome?_eq_some first
        refine ⟨arrival, member, ?_⟩
        cases preferred : rated want .preferred arrival with
        | none => exact (matched_of_acceptable preferred).trans found
        | some other =>
            obtain ⟨wrap, read, unwrapped, rates⟩ := rated_iff.mp found
            obtain ⟨also, again, held, better⟩ := rated_iff.mp preferred
            rw [read] at again
            rw [← Except.ok.inj again, unwrapped] at held
            rw [← Option.some.inj held, rates] at better
            cases better

end Loop

/-! ### The exchange -/

section Exchange

variable {buyer : BuyerClient PublicKey} {host : Host PublicKey} {request : Option Wire.Msg}
  {grace : PinnedGrace} {want : Want PublicKey} {arrivals : List (Arrival PublicKey)}

/-- The stream is open, and the request is published. -/
structure Opens (host : Host PublicKey) (request : Option Wire.Msg)
    (arrivals : List (Arrival PublicKey)) :
    Prop where
  publicKey : host.getPublicKey = .ok ()
  stream : host.subscribeGiftwraps = .ok arrivals
  published : request.elim (.ok ()) host.publish = .ok ()

theorem exchangePreferred_opens (opens : Opens host request arrivals) :
    exchangePreferred buyer host request grace want =
      await host.requestIdIsPinned host.shortens grace want buyer.timeout none arrivals := by
  rw [exchangePreferred, opens.publicKey, opens.stream, opens.published]
  rfl

/-- What fails before the stream is read fails to be sent. -/
inductive Unsent : BuyerError → Prop
  | transport (message : String) : Unsent (.transport message)
  | internal (message : String) : Unsent (.internal message)

/-- The exchange reads the stream, or fails before it does. -/
theorem exchangePreferred_cases (buyer : BuyerClient PublicKey) (host : Host PublicKey)
    (request : Option Wire.Msg) (grace : PinnedGrace) (want : Want PublicKey) :
    (∃ arrivals, Opens host request arrivals) ∨
      (∀ arrivals, ¬ Opens host request arrivals) ∧
        ∃ error, Unsent error ∧ exchangePreferred buyer host request grace want = .error error := by
  cases publicKey : host.getPublicKey with
  | error message =>
      refine .inr ⟨fun _ opens => ?_, .internal ("signer pubkey: " ++ message), .internal _, ?_⟩
      · rw [opens.publicKey] at publicKey
        cases publicKey
      · rw [exchangePreferred, publicKey]
        rfl
  | ok _ =>
      cases stream : host.subscribeGiftwraps with
      | error message =>
          refine .inr ⟨fun _ opens => ?_, .transport message, .transport _, ?_⟩
          · rw [opens.stream] at stream
            cases stream
          · rw [exchangePreferred, publicKey, stream]
            rfl
      | ok arrivals =>
          cases published : request.elim (.ok ()) host.publish with
          | error message =>
              refine .inr ⟨fun _ opens => ?_, .transport message, .transport _, ?_⟩
              · rw [opens.published] at published
                cases published
              · rw [exchangePreferred, publicKey, stream, published]
                rfl
          | ok _ => exact .inl ⟨arrivals, publicKey, stream, published⟩

theorem failure_cases (deadline : ℕ) (arrivals : List (Arrival PublicKey)) :
    (∃ message, failure deadline arrivals = .timeout message) ∨ Unsent (failure deadline arrivals) := by
  induction arrivals with
  | nil => exact .inl ⟨_, rfl⟩
  | cons arrival rest ih =>
      by_cases late : deadline ≤ arrival.instant
      · exact .inl ⟨_, failure_late late⟩
      have early : arrival.instant < deadline := by omega
      cases read : arrival.read with
      | error message => exact .inr (failure_broken early read ▸ .transport message)
      | ok wrap => rwa [failure_cons early (by rw [read]; rfl)]

/-- What the stream hands over before its deadline, errors included. -/
def handedOver (deadline : ℕ) (arrivals : List (Arrival PublicKey)) : List (Arrival PublicKey) :=
  arrivals.takeWhile fun arrival => arrival.instant < deadline

/-- After a timeout there was no error either. -/
theorem handedOver_of_timeout {deadline : ℕ} {message : String}
    (timeout : failure deadline arrivals = .timeout message) :
    handedOver deadline arrivals = seen deadline arrivals := by
  induction arrivals with
  | nil => rfl
  | cons arrival rest ih =>
      by_cases late : deadline ≤ arrival.instant
      · rw [seen_late late, handedOver]
        exact List.takeWhile_cons_of_neg (by simpa using late)
      have early : arrival.instant < deadline := by omega
      cases read : arrival.read with
      | error other =>
          rw [failure_broken early read] at timeout
          cases timeout
      | ok wrap =>
          have fine : arrival.read.isOk = true := by rw [read]; rfl
          rw [failure_cons early fine] at timeout
          rw [seen_cons early fine, ← ih timeout, handedOver]
          exact List.takeWhile_cons_of_pos (decide_eq_true early)

/-- **What an exchange returns**, by what its stream hands over. -/
structure Returns (buyer : BuyerClient PublicKey) (host : Host PublicKey) (request : Option Wire.Msg)
    (grace : PinnedGrace) (want : Want PublicKey) : Prop where
  /-- A fresh id, or a window that cannot be enforced: the first match. -/
  first : ∀ arrivals, Opens host request arrivals →
    host.requestIdIsPinned = false ∨ (∃ within, grace = .window within) ∧ host.shortens = false →
    exchangePreferred buyer host request grace want =
      orFailure ((seen buyer.timeout arrivals).findSome? (matched want))
        (failure buyer.timeout arrivals)
  /-- A pinned id: the first preferred reply it hears, or else the first acceptable one. -/
  pinned : ∀ arrivals, Opens host request arrivals → host.requestIdIsPinned = true →
    grace = .fullDeadline ∨ host.shortens = true →
    exchangePreferred buyer host request grace want =
      orFailure (((heard want grace (seen buyer.timeout arrivals)).findSome?
        (rated want .preferred)).or
          ((seen buyer.timeout arrivals).findSome? (rated want .acceptable)))
        (failure buyer.timeout arrivals)
  timeout : ∀ message, exchangePreferred buyer host request grace want = .error (.timeout message) →
    ∃ arrivals, Opens host request arrivals ∧
      ∀ arrival ∈ handedOver buyer.timeout arrivals, matched want arrival = none
  transport : ∀ message,
    exchangePreferred buyer host request grace want = .error (.transport message) →
    ∀ arrivals, Opens host request arrivals →
      ∀ arrival ∈ seen buyer.timeout arrivals, matched want arrival = none

theorem exchange_returns (buyer : BuyerClient PublicKey) (host : Host PublicKey)
    (request : Option Wire.Msg) (grace : PinnedGrace) (want : Want PublicKey) :
    Returns buyer host request grace want where
  first arrivals opens atOnce := by
    rw [exchangePreferred_opens opens, await_first atOnce]
  pinned arrivals opens pinned holds := by
    rw [exchangePreferred_opens opens, pinned, await_pinned holds]
  timeout message failed := by
    rcases exchangePreferred_cases buyer host request grace want with
      ⟨arrivals, opens⟩ | ⟨_, error, unsent, other⟩
    · rw [exchangePreferred_opens opens] at failed
      obtain ⟨none, same⟩ := await_failed failed
      exact ⟨arrivals, opens, handedOver_of_timeout same.symm ▸ none⟩
    · rw [other] at failed
      cases unsent <;> cases failed
  transport message failed arrivals opens := by
    rw [exchangePreferred_opens opens] at failed
    exact (await_failed failed).1

/-- The operator's message came in before the stream ended. -/
def Arrived (buyer : BuyerClient PublicKey) (host : Host PublicKey) (message : Wire.Msg) : Prop :=
  ∃ arrivals, host.subscribeGiftwraps = .ok arrivals ∧
    ∃ arrival ∈ seen buyer.timeout arrivals, ∃ wrap, arrival.read = .ok wrap ∧
      giftUnwrap wrap = some (buyer.operator, message)

/-- **The reply of a flow**: the exchange returned it, from the operator. -/
structure ActsOn (buyer : BuyerClient PublicKey) (host : Host PublicKey) (request : Option Wire.Msg)
    (grace : PinnedGrace) (want : Want PublicKey) (message : Wire.Msg) : Prop where
  returned : exchangePreferred buyer host request grace want = .ok (buyer.operator, message)
  arrived : Arrived buyer host message

theorem exchangePreferred_ok {reply : PublicKey × Wire.Msg}
    (returned : exchangePreferred buyer host request grace want = .ok reply) :
    ∃ arrivals, Opens host request arrivals ∧
      ∃ arrival ∈ seen buyer.timeout arrivals, matched want arrival = some reply := by
  rcases exchangePreferred_cases buyer host request grace want with
    ⟨arrivals, opens⟩ | ⟨_, error, _, other⟩
  · rw [exchangePreferred_opens opens] at returned
    exact ⟨arrivals, opens, await_ok returned⟩
  · rw [other] at returned
    cases returned

theorem matched_some {arrival : Arrival PublicKey} {reply : PublicKey × Wire.Msg}
    (found : matched want arrival = some reply) :
    ∃ wrap, arrival.read = .ok wrap ∧ giftUnwrap wrap = some reply ∧
      want reply.1 reply.2 ≠ .ignore := by
  rw [matched] at found
  rcases Option.or_eq_some_iff.mp found with preferred | ⟨_, acceptable⟩
  · obtain ⟨wrap, read, unwrapped, rates⟩ := rated_iff.mp preferred
    exact ⟨wrap, read, unwrapped, fun ignored => by rw [ignored] at rates; cases rates⟩
  · obtain ⟨wrap, read, unwrapped, rates⟩ := rated_iff.mp acceptable
    exact ⟨wrap, read, unwrapped, fun ignored => by rw [ignored] at rates; cases rates⟩

/-- The errors of an exchange are no operator's and no sender's. -/
theorem exchangePreferred_error {error : BuyerError}
    (failed : exchangePreferred buyer host request grace want = .error error) :
    (∃ message, error = .timeout message) ∨ Unsent error := by
  rcases exchangePreferred_cases buyer host request grace want with
    ⟨arrivals, opens⟩ | ⟨_, other, unsent, same⟩
  · rw [exchangePreferred_opens opens] at failed
    rw [(await_failed failed).2]
    exact failure_cases buyer.timeout arrivals
  · rw [same] at failed
    exact .inr (Except.error.inj failed ▸ unsent)

end Exchange

/-! ### The flows -/

section Settles

variable {α : Type} {host : Host PublicKey}

/-- **What a flow makes of its exchange**: it acts on a reply, or fails as the exchange did; it meets
neither its `unreachable!` arm nor a foreign sender. -/
def Settles (exchanged : Except BuyerError (PublicKey × Wire.Msg)) (answer : α → Prop)
    (refusal : Wire.WireError → Prop) : Except BuyerError (Option α) → Prop
  | .ok (some value) => answer value
  | .ok none => False
  | .error (.remote error) => refusal error
  | .error (.protocol _) => False
  | .error (.timeout message) => exchanged = .error (.timeout message)
  | .error (.transport message) => exchanged = .error (.transport message)
  | .error (.internal _) => True
  | .error (.unsupportedInteractive _) => True

/-- A flow that cannot wrap its request fails. -/
theorem settles_wrap {exchanged : Except BuyerError (PublicKey × Wire.Msg)} {answer : α → Prop}
    {refusal : Wire.WireError → Prop} (message : Wire.Msg) {flow : Except BuyerError (Option α)}
    (settles : Settles exchanged answer refusal flow) :
    Settles exchanged answer refusal (do wrap host message; flow) := by
  rw [wrap]
  cases host.giftWrap message with
  | error text => trivial
  | ok _ => exact settles

theorem preferring_ne_ignore {want : PublicKey → Wire.Msg → Bool} {sender : PublicKey}
    {message : Wire.Msg}
    (rates : preferring want sender message ≠ .ignore) : want sender message = true := by
  rw [preferring] at rates
  by_contra other
  exact rates (if_neg other)

end Settles

section Flows

variable [DecidableEq PublicKey] {buyer : BuyerClient PublicKey} {host : Host PublicKey}
  {request : Option Wire.Msg} {grace : PinnedGrace} {want : Want PublicKey} {α : Type}

/-- What a flow does with its exchange. -/
def actOn (buyer : BuyerClient PublicKey) (exchanged : Except BuyerError (PublicKey × Wire.Msg))
    (what : String) (act : Wire.Msg → Except BuyerError (Option α)) : Except BuyerError (Option α) := do
  let reply ← exchanged
  checkSender buyer reply.1 what
  act reply.2

/-- **A flow settles if its matcher admits only the operator's messages**, and it acts on each of
those. -/
theorem settles_actOn (what : String) (act : Wire.Msg → Except BuyerError (Option α))
    {answer : α → Prop} {refusal : Wire.WireError → Prop}
    (provenance : ∀ sender message, want sender message ≠ .ignore → sender = buyer.operator)
    (acts : ∀ message, ActsOn buyer host request grace want message →
      want buyer.operator message ≠ .ignore →
      Settles (exchangePreferred buyer host request grace want) answer refusal (act message)) :
    Settles (exchangePreferred buyer host request grace want) answer refusal
      (actOn buyer (exchangePreferred buyer host request grace want) what act) := by
  cases returned : exchangePreferred buyer host request grace want with
  | error error =>
      show Settles (.error error) answer refusal (.error error)
      rcases exchangePreferred_error returned with ⟨message, rfl⟩ | unsent
      · rfl
      · cases unsent
        · rfl
        · trivial
  | ok reply =>
      obtain ⟨arrivals, opens, arrival, member, found⟩ := exchangePreferred_ok returned
      obtain ⟨wrap, read, unwrapped, rates⟩ := matched_some found
      have same := provenance reply.1 reply.2 rates
      have whole : reply = (buyer.operator, reply.2) := by rw [← same]
      have checked : actOn buyer (.ok reply) what act = act reply.2 := by
        show (do checkSender buyer reply.1 what; act reply.2) = _
        rw [checkSender, if_pos same]
        rfl
      rw [checked]
      rw [returned] at acts
      rw [same] at rates
      rw [whole] at unwrapped
      exact acts reply.2 ⟨whole ▸ returned, arrivals, opens.stream, arrival, member, wrap, read,
        unwrapped⟩ rates

/-! #### `create_order` -/

/-- The replies of `create_order`. -/
abbrev OrderReply (buyer : BuyerClient PublicKey) (host : Host PublicKey) (request message : Wire.Msg) :
    Prop :=
  ActsOn buyer host (some request) (.window pinnedGraceWindow)
    (preferring (orderReply buyer.operator host.requestId)) message

/-- **`create_order` acts on the operator's invoice or error for its own request.** -/
theorem createOrder_settles (buyer : BuyerClient PublicKey) (host : Host PublicKey)
    (listingId : String) (params : Value) (refundDest : Option String) :
    let request := Wire.Msg.orderRequest ⟨host.requestId, listingId, params, refundDest⟩
    Settles
      (exchange buyer host (some request) (orderReply buyer.operator host.requestId))
      (fun invoice => OrderReply buyer host request (.orderInvoice invoice) ∧
        invoice.requestId = host.requestId)
      (fun error => ∃ refusal, OrderReply buyer host request (.orderError refusal) ∧
        refusal.requestId = host.requestId ∧ refusal.error = error)
      (createOrder buyer host listingId params refundDest) := by
  intro request
  refine settles_wrap request (settles_actOn "order reply" orderOutcome ?_ ?_)
  · intro sender message rates
    have matches_ := preferring_ne_ignore rates
    unfold orderReply at matches_
    by_contra foreign
    rw [if_pos foreign] at matches_
    cases matches_
  · intro message acted rates
    have matches_ := preferring_ne_ignore rates
    unfold orderReply at matches_
    rw [if_neg (not_not.mpr rfl)] at matches_
    cases message with
    | orderInvoice invoice => exact ⟨acted, of_decide_eq_true matches_⟩
    | orderError refusal => exact ⟨refusal, acted, of_decide_eq_true matches_, rfl⟩
    | _ => cases matches_

/-! #### `await_provision` -/

/-- **`await_provision` acts on the operator's delivery of the subscription.** -/
theorem awaitProvision_settles (buyer : BuyerClient PublicKey) (host : Host PublicKey)
    (request : Option Wire.Msg) (subscriptionId : String) :
    Settles (exchange buyer host request (provisionReply buyer.operator subscriptionId))
      (fun ready => ActsOn buyer host request (.window pinnedGraceWindow)
        (preferring (provisionReply buyer.operator subscriptionId)) (.provisionReady ready) ∧
        ready.subscriptionId = subscriptionId)
      (fun _ => False) (awaitProvision buyer host request subscriptionId) := by
  refine settles_actOn "provision.ready" provisionOutcome ?_ ?_
  · intro sender message rates
    have matches_ := preferring_ne_ignore rates
    unfold provisionReply at matches_
    exact of_decide_eq_true (Bool.and_eq_true_iff.mp matches_).1
  · intro message acted rates
    have matches_ := preferring_ne_ignore rates
    unfold provisionReply at matches_
    have correlates := (Bool.and_eq_true_iff.mp matches_).2
    cases message with
    | provisionReady ready => exact ⟨acted, of_decide_eq_true correlates⟩
    | _ => cases correlates

/-! #### `renew` -/

/-- The replies of `renew`. -/
abbrev RenewActs (buyer : BuyerClient PublicKey) (host : Host PublicKey) (subscriptionId : String)
    (message : Wire.Msg) : Prop :=
  ActsOn buyer host (some (.renewRequest ⟨host.requestId, subscriptionId⟩))
    (.window pinnedGraceWindow) (renewReply buyer.operator host.requestId subscriptionId) message

/-- What `renew` returns: an invoice, or the notice of a subscription that is resuming. -/
def Renewal (buyer : BuyerClient PublicKey) (host : Host PublicKey) (subscriptionId : String) :
    RenewReply → Prop
  | .invoice invoice => RenewActs buyer host subscriptionId (.billingInvoice invoice) ∧
      invoice.requestId = some host.requestId ∧ invoice.subscriptionId = subscriptionId
  | .retry notice => RenewActs buyer host subscriptionId (.billingNotice notice) ∧
      notice.requestId = some host.requestId ∧ notice.subscriptionId = subscriptionId ∧
      notice.state = "RESUMING"

/-- **`renew` acts on the operator's invoice, notice or error for its own request.** -/
theorem renew_settles (buyer : BuyerClient PublicKey) (host : Host PublicKey)
    (subscriptionId : String) :
    Settles
      (exchangePreferred buyer host (some (.renewRequest ⟨host.requestId, subscriptionId⟩))
        (.window pinnedGraceWindow) (renewReply buyer.operator host.requestId subscriptionId))
      (Renewal buyer host subscriptionId)
      (fun error => ∃ refusal, RenewActs buyer host subscriptionId (.orderError refusal) ∧
        refusal.requestId = host.requestId ∧ refusal.error = error)
      (renew buyer host subscriptionId) := by
  refine settles_wrap _ (settles_actOn "renew reply" renewOutcome ?_ ?_)
  · intro sender message rates
    by_contra foreign
    exact rates (if_pos foreign)
  · intro message acted rates
    unfold renewReply at rates
    rw [if_neg (not_not.mpr rfl)] at rates
    cases message with
    | billingInvoice invoice =>
        by_contra other
        exact rates (if_neg fun correlates => other ⟨acted, correlates⟩)
    | billingNotice notice =>
        by_contra other
        exact rates (if_neg fun correlates => other ⟨acted, correlates⟩)
    | orderError refusal =>
        by_contra other
        exact rates (if_neg fun correlates => other ⟨refusal, acted, correlates, rfl⟩)
    | _ => exact absurd rfl rates

/-! #### `invoke_op` -/

/-- The result answers the request. -/
def Correlates (host : Host PublicKey) (subscriptionId op : String) (result : OpResult) : Prop :=
  result.requestId = host.requestId ∧ result.subscriptionId = subscriptionId ∧ result.op = op

/-- The replies of `invoke_op`. -/
abbrev OpActs (buyer : BuyerClient PublicKey) (host : Host PublicKey) (subscriptionId op : String)
    (params : Value) (message : Wire.Msg) : Prop :=
  ActsOn buyer host (some (.opRequest ⟨host.requestId, subscriptionId, op, params⟩)) .fullDeadline
    (opReply buyer.operator host.requestId subscriptionId op) message

/-- A row-free refusal is an error of one of the codes. -/
theorem rowFree_of_error {result : OpResult} (status : result.status = .error)
    (code : rowFreeOpRefusals.contains (result.error.getD noErrorBody).code = true) :
    isRowFreeOpRefusal result = true := by
  unfold isRowFreeOpRefusal
  rw [decide_eq_true status, Bool.true_and]
  cases error : result.error with
  | some body => rwa [error] at code
  | none =>
      rw [error] at code
      exact absurd code (by decide)

theorem opReply_result (buyer : BuyerClient PublicKey) {host : Host PublicKey}
    {subscriptionId op : String} {result : OpResult}
    (correlates : Correlates host subscriptionId op result) :
    opReply buyer.operator host.requestId subscriptionId op buyer.operator (.opResult result) =
      if isRowFreeOpRefusal result = true then .acceptable else .preferred := by
  unfold opReply
  rw [if_neg (not_not.mpr rfl)]
  exact if_pos correlates

/-- **A pinned request reports a row-free refusal only if no other result arrived.** -/
theorem rowFree_unrivalled {subscriptionId op : String} {params : Value} {result other : OpResult}
    (pinned : host.requestIdIsPinned = true)
    (acted : OpActs buyer host subscriptionId op params (.opResult result))
    (correlates : Correlates host subscriptionId op result)
    (refusal : isRowFreeOpRefusal result = true) (arrived : Arrived buyer host (.opResult other))
    (also : Correlates host subscriptionId op other) : isRowFreeOpRefusal other = true := by
  by_contra committed
  obtain ⟨arrivals, opens, _⟩ := exchangePreferred_ok acted.returned
  obtain ⟨streamed, stream, arrival, member, wrap, read, unwrapped⟩ := arrived
  rw [opens.stream] at stream
  cases stream
  have rates := opReply_result buyer also
  rw [if_neg committed] at rates
  have found := rated_iff.mpr ⟨wrap, read, unwrapped, rates⟩
  have returned := acted.returned
  rw [(exchange_returns buyer host _ _ _).pinned arrivals opens pinned (.inl rfl)] at returned
  have first := orFailure_ok returned
  rw [heard_all_fullDeadline] at first
  cases best : (seen buyer.timeout arrivals).findSome?
    (rated (opReply buyer.operator host.requestId subscriptionId op) .preferred) with
  | none =>
      rw [List.findSome?_eq_none_iff.mp best arrival member] at found
      cases found
  | some better =>
      obtain ⟨there, _, preferred⟩ := List.exists_of_findSome?_eq_some best
      obtain ⟨_, _, _, prefers⟩ := rated_iff.mp preferred
      rw [best] at first
      have same : better = (buyer.operator, .opResult result) := Option.some.inj first
      rw [same, opReply_result buyer correlates, if_pos refusal] at prefers
      cases prefers

omit [DecidableEq PublicKey] in
theorem opOutcome_ok {result : OpResult} (status : result.status = .ok) :
    opOutcome (.opResult result) = .ok (some result) := by
  unfold opOutcome
  simp only [status]

omit [DecidableEq PublicKey] in
theorem opOutcome_error {result : OpResult} (status : result.status = .error) :
    opOutcome (.opResult result) = .error (.remote (result.error.getD noErrorBody)) := by
  unfold opOutcome
  simp only [status]

/-- What `invoke_op` reports as an error: that of the operator's result for its own request, and a
row-free one of a pinned request only if no other result arrived. -/
structure OpRefusal (buyer : BuyerClient PublicKey) (host : Host PublicKey)
    (subscriptionId op : String) (params : Value) (error : Wire.WireError) (result : OpResult) :
    Prop where
  acted : OpActs buyer host subscriptionId op params (.opResult result)
  correlates : Correlates host subscriptionId op result
  status : result.status = .error
  body : result.error.getD noErrorBody = error
  rowFree : host.requestIdIsPinned = true → rowFreeOpRefusals.contains error.code = true →
    ∀ other, Arrived buyer host (.opResult other) → Correlates host subscriptionId op other →
      isRowFreeOpRefusal other = true

omit [DecidableEq PublicKey] in
theorem refuseInteractive_error {op : String} {opKind : Option String} {error : BuyerError}
    (refused : refuseInteractive op opKind = .error error) :
    ∃ message, error = .unsupportedInteractive message := by
  cases opKind with
  | none => cases refused
  | some kind =>
      rw [refuseInteractive] at refused
      by_cases request : kind = "request"
      · rw [if_pos request] at refused
        cases refused
      · rw [if_neg request] at refused
        exact ⟨_, (Except.error.inj refused).symm⟩

/-- **`invoke_op` acts on the operator's result for its own request.** -/
theorem invokeOp_settles (buyer : BuyerClient PublicKey) (host : Host PublicKey)
    (subscriptionId op : String) (opKind : Option String) (params : Value) :
    Settles
      (exchangePreferred buyer host (some (.opRequest ⟨host.requestId, subscriptionId, op, params⟩))
        .fullDeadline (opReply buyer.operator host.requestId subscriptionId op))
      (fun result => OpActs buyer host subscriptionId op params (.opResult result) ∧
        Correlates host subscriptionId op result ∧ result.status = .ok)
      (fun error => ∃ result, OpRefusal buyer host subscriptionId op params error result)
      (invokeOp buyer host subscriptionId op opKind params) := by
  rw [invokeOp]
  cases kind : refuseInteractive op opKind with
  | error error =>
      obtain ⟨message, rfl⟩ := refuseInteractive_error kind
      trivial
  | ok _ =>
      refine settles_wrap _ (settles_actOn "op.result" opOutcome ?_ ?_)
      · intro sender message rates
        by_contra foreign
        exact rates (if_pos foreign)
      · intro message acted rates
        unfold opReply at rates
        rw [if_neg (not_not.mpr rfl)] at rates
        cases message with
        | opResult result =>
            have correlates : Correlates host subscriptionId op result := by
              by_contra other
              exact rates (if_neg other)
            cases status : result.status with
            | ok =>
                rw [opOutcome_ok status]
                exact ⟨acted, correlates, status⟩
            | error =>
                rw [opOutcome_error status]
                exact ⟨result, acted, correlates, status, rfl, fun pinned code other arrived also =>
                  rowFree_unrivalled pinned acted correlates (rowFree_of_error status code) arrived also⟩
        | _ => exact absurd rfl rates

/-! ### Every flow -/

/-- **A buyer acts on the right reply.** Every exchange returns the first match where its id is fresh or
its window cannot be enforced, and otherwise the first preferred reply it hears or the first acceptable
one; and every flow acts on the operator's reply to its own request. -/
theorem buyer_right_reply (buyer : BuyerClient PublicKey) (host : Host PublicKey) :
    (∀ request grace want, Returns buyer host request grace want) ∧
      (∀ listingId params refundDest,
        let request := Wire.Msg.orderRequest ⟨host.requestId, listingId, params, refundDest⟩
        Settles (exchange buyer host (some request) (orderReply buyer.operator host.requestId))
          (fun invoice => OrderReply buyer host request (.orderInvoice invoice) ∧
            invoice.requestId = host.requestId)
          (fun error => ∃ refusal, OrderReply buyer host request (.orderError refusal) ∧
            refusal.requestId = host.requestId ∧ refusal.error = error)
          (createOrder buyer host listingId params refundDest)) ∧
      (∀ request subscriptionId,
        Settles (exchange buyer host request (provisionReply buyer.operator subscriptionId))
          (fun ready => ActsOn buyer host request (.window pinnedGraceWindow)
            (preferring (provisionReply buyer.operator subscriptionId)) (.provisionReady ready) ∧
            ready.subscriptionId = subscriptionId)
          (fun _ => False) (awaitProvision buyer host request subscriptionId)) ∧
      (∀ subscriptionId,
        Settles
          (exchangePreferred buyer host (some (.renewRequest ⟨host.requestId, subscriptionId⟩))
            (.window pinnedGraceWindow) (renewReply buyer.operator host.requestId subscriptionId))
          (Renewal buyer host subscriptionId)
          (fun error => ∃ refusal, RenewActs buyer host subscriptionId (.orderError refusal) ∧
            refusal.requestId = host.requestId ∧ refusal.error = error)
          (renew buyer host subscriptionId)) ∧
      ∀ subscriptionId op opKind params,
        Settles
          (exchangePreferred buyer host
            (some (.opRequest ⟨host.requestId, subscriptionId, op, params⟩)) .fullDeadline
            (opReply buyer.operator host.requestId subscriptionId op))
          (fun result => OpActs buyer host subscriptionId op params (.opResult result) ∧
            Correlates host subscriptionId op result ∧ result.status = .ok)
          (fun error => ∃ result, OpRefusal buyer host subscriptionId op params error result)
          (invokeOp buyer host subscriptionId op opKind params) :=
  ⟨exchange_returns buyer host, createOrder_settles buyer host, awaitProvision_settles buyer host,
    renew_settles buyer host, invokeOp_settles buyer host⟩

end Flows

/-! ### A full deadline is waited for -/

/-- An operator's `op.result` with an error. -/
def opError (code : String) : OpResult := ⟨"r", "s", "o", .error, none, some ⟨code, "", false⟩⟩

/-- It as a wrap. -/
def opErrorWrap (code : String) : Wrap ℕ where
  kind := giftWrapKind
  verifies := true
  gift := some ⟨7, privateDirectMessageKind, 200, some (.object
    [("type", .string "op.result"), ("request_id", .string "r"), ("subscription_id", .string "s"),
      ("op", .string "o"), ("status", .string "error"), ("error", .object
        [("code", .string code), ("message", .string ""), ("retryable", .bool false)])])⟩

/-- A pinned request whose stream brings a refusal and then a failure, and cannot shorten. -/
def unshortened : Host ℕ where
  requestId := "r"
  requestIdIsPinned := true
  getPublicKey := .ok ()
  giftWrap _ := .ok ()
  subscribeGiftwraps := .ok [⟨1, .ok (opErrorWrap "unauthorized")⟩, ⟨2, .ok (opErrorWrap "hook_failed")⟩]
  shortens := false
  publish _ := .ok ()

/-- The code of an error. -/
def errorCode : Except BuyerError (Option OpResult) → Option String
  | .error (.remote error) => some error.code
  | _ => none

/-- `invoke_op` does not return the acceptable reply at once, though its stream cannot shorten. -/
theorem unshortened_op_waits :
    ∃ (buyer : BuyerClient ℕ) (host : Host ℕ) (arrivals : List (Arrival ℕ)) (params : Value),
      Opens host (some (.opRequest ⟨host.requestId, "s", "o", params⟩)) arrivals ∧
      host.requestIdIsPinned = true ∧ host.shortens = false ∧
      (seen buyer.timeout arrivals).findSome?
        (rated (opReply buyer.operator host.requestId "s" "o") .acceptable) =
          some (buyer.operator, .opResult (opError "unauthorized")) ∧
      exchangePreferred buyer host (some (.opRequest ⟨host.requestId, "s", "o", params⟩))
        .fullDeadline (opReply buyer.operator host.requestId "s" "o") =
          .ok (buyer.operator, .opResult (opError "hook_failed")) ∧
      errorCode (invokeOp buyer host "s" "o" none params) = some "hook_failed" :=
  ⟨⟨7, 30, fun _ => ""⟩, unshortened, _, Value.read .null, ⟨rfl, rfl, rfl⟩, rfl, rfl, rfl, rfl, rfl⟩

end Lnrent.Client
