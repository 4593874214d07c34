/-
**The cadence of a recurring alert.** For the dispatches of one life of the process:

* `alertId_inj` — an outbox id tells the kind, the subject and the time of its dispatch;
* `Dispatching`, `dispatchAll` — the dispatches, in any order and at any times;
* `sent_eq` — what was enqueued of one `(kind, subject)` is what a cadence of its own lets through;
* `alerts_cadence` — **an alert is repeated after the cooldown and not before**, a store that fails
  mutes nothing, and everything enqueued is in the outbox.
-/

import Mathlib
import Lnrent.Daemon.Alerts
import Lnrent.Transition.Cadence

namespace Lnrent.Alerts

open Relational Serde Wire Transition

/-! ### Ids -/

theorem wireStr_injective : Function.Injective AlertKind.wireStr := by
  intro first second same
  cases first <;> cases second <;> first | rfl | exact absurd same (by decide)

theorem wireStr_plain (kind : AlertKind) : ':' ∉ kind.wireStr.toList := by
  cases kind <;> decide

theorem repr_plain (value : ℤ) : ':' ∉ (toString value).toList := by
  have digits (count : ℕ) : ':' ∉ count.repr.toList := by
    intro member
    rw [Nat.toList_repr] at member
    exact absurd (Nat.isDigit_of_mem_toDigits (by decide) (by decide) member) (by decide)
  cases value with
  | ofNat count => exact digits count
  | negSucc count =>
      show ':' ∉ ("-" ++ count.succ.repr).toList
      rw [String.toList_append, List.mem_append, not_or]
      exact ⟨by decide, digits _⟩

/-- The characters of what ids of a kind begin with. -/
theorem toList_alertPrefix (kind : AlertKind) :
    (alertPrefix kind).toList = "outbox:alert:".toList ++ kind.wireStr.toList ++ [':'] := by
  unfold alertPrefix
  rw [String.toList_append, String.toList_append]
  rfl

/-- What begins like the ids of two kinds is of one kind. -/
theorem alertPrefix_inj {first second : AlertKind} {rest rest' : List Char}
    (same : (alertPrefix first).toList ++ rest = (alertPrefix second).toList ++ rest') :
    first = second ∧ rest = rest' := by
  rw [toList_alertPrefix, toList_alertPrefix, List.append_assoc, List.append_assoc,
    List.append_assoc, List.append_assoc] at same
  obtain ⟨kinds, rests⟩ := separated_inj (wireStr_plain first) (wireStr_plain second)
    (List.append_cancel_left same)
  exact ⟨wireStr_injective (String.toList_inj.mp kinds), rests⟩

/-- **An id tells** the kind, the subject as it is stored, and the time. -/
theorem alertId_inj {digest : String → String} {first second : AlertKind} {subject other : String}
    {time late : ℤ} (same : alertId digest first subject time = alertId digest second other late) :
    first = second ∧ idSubject digest subject = idSubject digest other ∧ time = late := by
  have chars := congrArg String.toList same
  have split (kind : AlertKind) (subject : String) (time : ℤ) :
      (alertId digest kind subject time).toList = (alertPrefix kind).toList ++
        ((idSubject digest subject).toList ++ ':' :: (toString time).toList) := by
    unfold alertId
    rw [String.toList_append, String.toList_append, String.toList_append, List.append_assoc,
      List.append_assoc]
    rfl
  rw [split, split] at chars
  obtain ⟨kinds, rest⟩ := alertPrefix_inj chars
  -- the time stands behind the last separator
  have reversed := congrArg List.reverse rest
  simp only [List.reverse_append, List.reverse_cons, List.append_assoc, List.singleton_append]
    at reversed
  have plain (value : ℤ) : ':' ∉ (toString value).toList.reverse :=
    fun member => repr_plain value (List.mem_reverse.mp member)
  obtain ⟨times, subjects⟩ := separated_inj (plain time) (plain late) reversed
  exact ⟨kinds, String.toList_inj.mp (List.reverse_injective subjects),
    Int.repr_inj.mp (String.toList_inj.mp (List.reverse_injective times))⟩

/-! ### The dispatches of one life -/

/-- One call of `dispatch`: the alert, the time, and whether the store commits. -/
structure Dispatching where
  alert : Alert
  time : ℤ
  commits : Bool

/-- What the process and the store hold. -/
abbrev Sink := Dispatcher × Outbox

/-- One call. -/
def dispatchOne (digest : String → String) (sink : Sink) (call : Dispatching) : Dispatched × Sink :=
  dispatch digest sink.1 sink.2 call.alert call.time call.commits

/-- The state after the calls. -/
def dispatchAll (digest : String → String) : Sink → List Dispatching → Sink
  | sink, [] => sink
  | sink, call :: rest => dispatchAll digest (dispatchOne digest sink call).2 rest

/-- The call reports the given condition. -/
def Dispatching.Reports (call : Dispatching) (kind : AlertKind) (subject : String) : Prop :=
  call.alert.kind = kind ∧ call.alert.subject = subject

instance (call : Dispatching) (kind : AlertKind) (subject : String) :
    Decidable (call.Reports kind subject) :=
  inferInstanceAs (Decidable (_ ∧ _))

/-- **The times an alert about the condition was enqueued.** -/
def sent (digest : String → String) (kind : AlertKind) (subject : String) :
    Sink → List Dispatching → List ℤ
  | _, [] => []
  | sink, call :: rest =>
      let next := dispatchOne digest sink call
      if call.Reports kind subject ∧ next.1 = .enqueued then
        call.time :: sent digest kind subject next.2 rest
      else sent digest kind subject next.2 rest

/-- The calls about one condition, as attempts. -/
def attempts (kind : AlertKind) (subject : String) (calls : List Dispatching) : List Attempt :=
  (calls.filter fun call => call.Reports kind subject).map fun call => ⟨call.time, call.commits⟩

section Calls

variable {digest : String → String} {sink : Sink} {kind : AlertKind} {subject : String}

/-- The state after a call that enqueued. -/
def stamped (digest : String → String) (sink : Sink) (call : Dispatching) : Sink :=
  ({ sink.1 with
      lastSent := sink.1.lastSent.put (call.alert.kind, call.alert.subject) call.time },
    insertOrIgnore sink.2 (alertId digest call.alert.kind call.alert.subject call.time)
      ⟨sink.1.recipientHex, "operator.alert", alertPayload call.alert, call.time⟩)

/-- **A call** enqueues and stamps, or leaves everything as it was. -/
theorem dispatchOne_cases (digest : String → String) (sink : Sink) (call : Dispatching) :
    ((dispatchOne digest sink call).1 ≠ .enqueued ∧ (dispatchOne digest sink call).2 = sink ∧
        (sink.1.isEnabled = false ∨ sink.1.Suppressed call.alert call.time ∨ call.commits = false)) ∨
      (dispatchOne digest sink call).1 = .enqueued ∧
        (dispatchOne digest sink call).2 = stamped digest sink call ∧
        ¬ sink.1.Suppressed call.alert call.time ∧ call.commits = true := by
  unfold dispatchOne dispatch
  by_cases off : sink.1.isEnabled = false
  · rw [if_pos off]
    exact .inl ⟨show Dispatched.dropped ≠ .enqueued by decide, rfl, .inl off⟩
  · rw [if_neg off]
    by_cases suppressed : sink.1.Suppressed call.alert call.time
    · rw [if_pos suppressed]
      exact .inl ⟨show Dispatched.dropped ≠ .enqueued by decide, rfl, .inr (.inl suppressed)⟩
    · rw [if_neg suppressed]
      by_cases stuck : call.commits = false
      · rw [if_pos stuck]
        exact .inl ⟨show Dispatched.failed ≠ .enqueued by decide, rfl, .inr (.inr stuck)⟩
      · rw [if_neg stuck]
        exact .inr ⟨rfl, rfl, suppressed, Bool.eq_true_of_not_eq_false stuck⟩

theorem dispatchOne_enabled (sink : Sink) (call : Dispatching) :
    (dispatchOne digest sink call).2.1.isEnabled = sink.1.isEnabled := by
  rcases dispatchOne_cases digest sink call with ⟨-, same, -⟩ | ⟨-, same, -⟩
  · rw [same]
  · rw [same]
    rfl

/-- An enabled dispatcher sends what its cadence admits. -/
theorem dispatchOne_enqueued (enabled : sink.1.isEnabled = true) (call : Dispatching) :
    (dispatchOne digest sink call).1 = .enqueued ↔
      Admits alertCooldownS (sink.1.lastSent.row (call.alert.kind, call.alert.subject)) call.time ∧
        call.commits = true := by
  have admits : Admits alertCooldownS (sink.1.lastSent.row (call.alert.kind, call.alert.subject))
      call.time ↔ ¬ sink.1.Suppressed call.alert call.time := by
    unfold Admits Dispatcher.Suppressed
    push Not
    exact forall₂_congr fun last _ => by omega
  rw [admits]
  rcases dispatchOne_cases digest sink call with ⟨other, -, why⟩ | ⟨through, -, both⟩
  · refine ⟨fun through => absurd through other, fun both => ?_⟩
    rcases why with off | suppressed | stuck
    · rw [enabled] at off
      cases off
    · exact absurd suppressed both.1
    · rw [both.2] at stuck
      cases stuck
  · exact ⟨fun _ => both, fun _ => through⟩

/-- The stamp of a condition moves only when an alert about it was enqueued. -/
theorem dispatchOne_lastSent (sink : Sink) (call : Dispatching) :
    (dispatchOne digest sink call).2.1.lastSent.row (kind, subject) =
      if call.Reports kind subject ∧ (dispatchOne digest sink call).1 = .enqueued then
        some call.time
      else sink.1.lastSent.row (kind, subject) := by
  rcases dispatchOne_cases digest sink call with ⟨other, same, -⟩ | ⟨through, same, -⟩
  · rw [same, if_neg fun both => other both.2]
  · rw [same]
    by_cases reports : call.Reports kind subject
    · rw [if_pos ⟨reports, through⟩, ← reports.1, ← reports.2]
      exact Table.put_row_self _ _ _
    · rw [if_neg fun both => reports both.1]
      refine Table.put_row_other _ _ fun same => reports ?_
      exact ⟨(Prod.mk.inj same).1.symm, (Prod.mk.inj same).2.symm⟩

/-- **What is enqueued of a condition** is what a cadence of its own lets through. -/
theorem sent_eq (calls : List Dispatching) :
    ∀ sink : Sink, sink.1.isEnabled = true →
      sent digest kind subject sink calls =
        admitted alertCooldownS (sink.1.lastSent.row (kind, subject)) (attempts kind subject calls) := by
  induction calls with
  | nil => exact fun _ _ => rfl
  | cons call rest ih =>
      intro sink enabled
      have later := ih (dispatchOne digest sink call).2 ((dispatchOne_enabled sink call).trans enabled)
      have enqueued : (dispatchOne digest sink call).1 = .enqueued ↔ _ :=
        dispatchOne_enqueued enabled call
      rw [dispatchOne_lastSent] at later
      simp only [sent]
      by_cases reports : call.Reports kind subject
      · have same : attempts kind subject (call :: rest) =
            ⟨call.time, call.commits⟩ :: attempts kind subject rest := by
          unfold attempts
          rw [List.filter_cons_of_pos (by simpa using reports), List.map_cons]
        rw [same, admitted]
        rw [reports.1, reports.2] at enqueued
        by_cases through : (dispatchOne digest sink call).1 = .enqueued
        · rw [if_pos ⟨reports, through⟩, if_pos (enqueued.mp through), later,
            if_pos ⟨reports, through⟩]
        · rw [if_neg fun both => through both.2, if_neg fun both => through (enqueued.mpr both),
            later, if_neg fun both => through both.2]
      · have same : attempts kind subject (call :: rest) = attempts kind subject rest := by
          unfold attempts
          rw [List.filter_cons_of_neg (by simpa using reports)]
        rw [same, if_neg fun both => reports both.1, later, if_neg fun both => reports both.1]

/-! ### What is in the outbox -/

/-- A payload is read back as the capped texts of its alert. -/
theorem alertPayload_decode (alert : Alert) :
    ∃ document, alertPayload alert = some document ∧
      Msg.decode document = .ok (.operatorAlert (alertMessage alert)) := by
  have encoded : Msg.encode (.operatorAlert (alertMessage alert)) = .ok (.object
      (("type", .string "operator.alert") :: assemble OperatorAlert.names
        (alertMessage alert).columns)) := rfl
  refine ⟨_, ?_, decode_extended encoded (Extended.refl encoded)⟩
  unfold alertPayload
  rw [encoded]

/-- **A row that tells of the condition**: to the recipient, at the time, with the kind and the capped
subject. -/
def Tells (recipient : String) (kind : AlertKind) (subject : String) (time : ℤ)
    (entry : OutboxEntry) : Prop :=
  entry.recipient = recipient ∧ entry.msgType = "operator.alert" ∧ entry.createdAt = time ∧
    ∃ document detail, entry.payload = some document ∧ Msg.decode document =
      .ok (.operatorAlert ⟨kind.wireStr, capChars subject maxAlertSubjectChars, detail⟩)

theorem insertOrIgnore_row (outbox : Outbox) (id other : String) (entry : OutboxEntry) :
    (insertOrIgnore outbox id entry).row other =
      if other = id then some ((outbox.row id).getD entry) else outbox.row other := by
  unfold insertOrIgnore
  cases found : outbox.row id with
  | none =>
      simp only [Option.getD_none]
      exact outbox.put_row id other entry
  | some row =>
      by_cases same : other = id
      · rw [if_pos same, same, found, Option.getD_some]
      · rw [if_neg same]

/-- A call that enqueued left a row under its id, and touched no other row. -/
theorem stamped_row (sink : Sink) (call : Dispatching) (id : String) :
    (stamped digest sink call).2.row id =
      if id = alertId digest call.alert.kind call.alert.subject call.time then
        some ((sink.2.row id).getD
          ⟨sink.1.recipientHex, "operator.alert", alertPayload call.alert, call.time⟩)
      else sink.2.row id := by
  have inserted := insertOrIgnore_row sink.2
    (alertId digest call.alert.kind call.alert.subject call.time) id
    ⟨sink.1.recipientHex, "operator.alert", alertPayload call.alert, call.time⟩
  by_cases same : id = alertId digest call.alert.kind call.alert.subject call.time
  · rw [if_pos same] at inserted ⊢
    rw [same] at inserted ⊢
    exact inserted
  · rw [if_neg same] at inserted ⊢
    exact inserted

/-- The rows under the ids of the condition, beside those of an earlier life, tell of it. -/
def Filed (digest : String → String) (kind : AlertKind) (subject : String) (outbox : Outbox)
    (sink : Sink) : Prop :=
  ∀ time entry, sink.2.row (alertId digest kind subject time) = some entry →
    outbox.row (alertId digest kind subject time) = none →
    Tells sink.1.recipientHex kind subject time entry

/-- The calls tell the subject apart from theirs. -/
def Separates (digest : String → String) (subject : String) (calls : List Dispatching) : Prop :=
  ∀ call ∈ calls, idSubject digest call.alert.subject = idSubject digest subject →
    call.alert.subject = subject

theorem Filed.dispatchOne {outbox : Outbox} (filed : Filed digest kind subject outbox sink)
    (call : Dispatching) (separate : idSubject digest call.alert.subject = idSubject digest subject →
      call.alert.subject = subject) :
    Filed digest kind subject outbox (dispatchOne digest sink call).2 := by
  rcases dispatchOne_cases digest sink call with ⟨-, same, -⟩ | ⟨-, same, -⟩
  · rwa [same]
  · rw [same]
    intro time entry found before
    rw [stamped_row] at found
    split_ifs at found with own
    · obtain ⟨sameKind, sameSubject, sameTime⟩ := alertId_inj own
      have subjects := separate sameSubject.symm
      cases old : sink.2.row (alertId digest kind subject time) with
      | some row =>
          rw [old, Option.getD_some] at found
          exact Option.some.inj found ▸ filed time row old before
      | none =>
          rw [old, Option.getD_none] at found
          obtain ⟨document, payload, decoded⟩ := alertPayload_decode call.alert
          obtain rfl := Option.some.inj found
          refine ⟨rfl, rfl, sameTime.symm, document,
            capChars call.alert.detail maxAlertDetailChars, payload, ?_⟩
          rw [decoded, alertMessage, sameKind, subjects]
    · exact filed time entry found before

theorem dispatchOne_keeps {id : String} (sink : Sink) (call : Dispatching)
    (known : sink.2.row id ≠ none) : (dispatchOne digest sink call).2.2.row id ≠ none := by
  rcases dispatchOne_cases digest sink call with ⟨-, same, -⟩ | ⟨-, same, -⟩
  · rwa [same]
  · rw [same, stamped_row]
    split_ifs
    · exact Option.some_ne_none _
    · exact known

theorem dispatchAll_keeps {id : String} (calls : List Dispatching) :
    ∀ sink : Sink, sink.2.row id ≠ none → (dispatchAll digest sink calls).2.row id ≠ none := by
  induction calls with
  | nil => exact fun _ known => known
  | cons call rest ih => exact fun sink known => ih _ (dispatchOne_keeps sink call known)

/-- What was enqueued is in the outbox. -/
theorem sent_filed (calls : List Dispatching) :
    ∀ sink : Sink, ∀ time ∈ sent digest kind subject sink calls,
      (dispatchAll digest sink calls).2.row (alertId digest kind subject time) ≠ none := by
  induction calls with
  | nil => exact fun _ _ member => absurd member List.not_mem_nil
  | cons call rest ih =>
      intro sink time member
      simp only [sent] at member
      split_ifs at member with through
      · rcases List.mem_cons.mp member with rfl | later
        · refine dispatchAll_keeps rest _ ?_
          rcases dispatchOne_cases digest sink call with ⟨other, -⟩ | ⟨-, same, -⟩
          · exact absurd through.2 other
          · rw [same, stamped_row, if_pos (by rw [through.1.1, through.1.2])]
            exact Option.some_ne_none _
        · exact ih _ time later
      · exact ih _ time member

theorem dispatchAll_filed {outbox : Outbox} (calls : List Dispatching) :
    ∀ sink : Sink, Filed digest kind subject outbox sink → Separates digest subject calls →
      Filed digest kind subject outbox (dispatchAll digest sink calls) := by
  induction calls with
  | nil => exact fun _ filed _ => filed
  | cons call rest ih =>
      intro sink filed separates
      exact ih _ (filed.dispatchOne call (separates call List.mem_cons_self))
        fun other member => separates other (List.mem_cons_of_mem _ member)

theorem dispatchAll_recipient (calls : List Dispatching) :
    ∀ sink : Sink, (dispatchAll digest sink calls).1.recipientHex = sink.1.recipientHex := by
  induction calls with
  | nil => exact fun _ => rfl
  | cons call rest ih =>
      intro sink
      refine (ih _).trans ?_
      rcases dispatchOne_cases digest sink call with ⟨-, same, -⟩ | ⟨-, same, -⟩
      · rw [same]
      · rw [same]
        rfl

end Calls

/-! ### The cadence -/

/-- The state a life begins in. -/
def booted (recipient : String) (outbox : Outbox) : Sink := (Dispatcher.new recipient, outbox)

theorem attempts_split (kind : AlertKind) (subject : String) (before after : List Dispatching)
    (call : Dispatching) (reports : call.Reports kind subject) :
    attempts kind subject (before ++ call :: after) =
      attempts kind subject before ++ ⟨call.time, call.commits⟩ :: attempts kind subject after := by
  unfold attempts
  rw [List.filter_append, List.filter_cons_of_pos (by simpa using reports), List.map_append,
    List.map_cons]

/-- **The cadence of a recurring alert.** In one life of the process, whatever is dispatched when: two
alerts about one condition are at least the cooldown apart; a dispatch the store commits is enqueued
unless the last one about its condition is less than the cooldown before it; one the store does not
commit changes nothing; and what was enqueued is in the outbox, under an id of its own, as an alert of
its kind and subject. -/
theorem alerts_cadence (digest : String → String) (recipient : String) (outbox : Outbox)
    (calls : List Dispatching) (kind : AlertKind) (subject : String) (delivers : recipient ≠ "")
    (separates : Separates digest subject calls) :
    (sent digest kind subject (booted recipient outbox) calls).IsChain (fun early late =>
        early + alertCooldownS ≤ late) ∧
      (∀ before call after, calls = before ++ call :: after → call.Reports kind subject →
        call.commits = true →
        (∃ rest, sent digest kind subject (booted recipient outbox) calls =
            sent digest kind subject (booted recipient outbox) before ++ call.time :: rest) ∨
          ∃ last ∈ (sent digest kind subject (booted recipient outbox) before).getLast?,
            call.time < last + alertCooldownS) ∧
      (∀ (sink : Sink) (call : Dispatching), call.commits = false →
        (dispatchOne digest sink call).2 = sink) ∧
      ∀ time ∈ sent digest kind subject (booted recipient outbox) calls,
        ∃ entry, (dispatchAll digest (booted recipient outbox) calls).2.row
            (alertId digest kind subject time) = some entry ∧
          (outbox.row (alertId digest kind subject time) = none →
            Tells recipient kind subject time entry) := by
  have enabled : (booted recipient outbox).1.isEnabled = true := by
    simpa [booted, Dispatcher.new, Dispatcher.isEnabled] using delivers
  refine ⟨?_, fun before call after split reports commits => ?_, fun sink call stuck => ?_,
    fun time member => ?_⟩
  · rw [sent_eq calls _ enabled]
    exact admitted_spaced alertCooldownS _ none
  · rw [sent_eq calls _ enabled, sent_eq before _ enabled, split,
      attempts_split kind subject before after call reports]
    exact (admitted_complete alertCooldownS _ _ ⟨call.time, call.commits⟩ commits).imp_left
      fun same => ⟨_, same⟩
  · rcases dispatchOne_cases digest sink call with ⟨-, same, -⟩ | ⟨-, -, -, commits⟩
    · exact same
    · rw [stuck] at commits
      cases commits
  · obtain ⟨entry, found⟩ := Option.ne_none_iff_exists'.mp (sent_filed calls _ time member)
    have filed : Filed digest kind subject outbox (booted recipient outbox) :=
      fun _ _ found before => absurd (before.symm.trans found) (Option.some_ne_none _).symm
    refine ⟨entry, found, fun before => ?_⟩
    have tells := dispatchAll_filed calls _ filed separates time entry found before
    rwa [dispatchAll_recipient] at tells

/-- A refund that is reported stuck at every drive: at 0, and again six hours later. -/
def stuckCalls : List Dispatching :=
  [⟨⟨.refundStuck, "refund:order", ""⟩, 0, true⟩, ⟨⟨.refundStuck, "refund:order", ""⟩, 5, true⟩,
    ⟨⟨.refundStuck, "refund:order", ""⟩, 21600, true⟩]

theorem alerts_cadence_stuck :
    sent (fun text => text) .refundStuck "refund:order" (booted "op" Table.empty) stuckCalls =
        [0, 21600] ∧
      (sent (fun text => text) .refundStuck "refund:order" (booted "op" Table.empty)
        stuckCalls).IsChain (fun early late => early + alertCooldownS ≤ late) :=
  ⟨by decide +kernel,
    (alerts_cadence (fun text => text) "op" Table.empty stuckCalls .refundStuck "refund:order"
      (by decide) (by
        intro call member _
        rcases List.mem_cons.mp member with rfl | member
        · rfl
        · rcases List.mem_cons.mp member with rfl | member
          · rfl
          · rw [List.mem_singleton.mp member])).1⟩

end Lnrent.Alerts
