/-
**The history of the operator's alerts** over every life of the process.

* `Event`, `mailbox` — what writes to the outbox: dispatches, terminal alerts, other messages, the
  deletion of one, and restarts;
* `Legible` — every row under an id of a kind is an alert of that kind;
* `collect_legible` — the loop over legible rows keeps the first of each subject;
* `history_faithful` — **the history is never refused and leaves nothing out**: in every state reached
  it shows the latest alert of each subject, most recent first.
-/

import Lnrent.Alerts.Cadence
import Lnrent.Relational.Latest
import Lnrent.Transition.Machine

namespace Lnrent.Alerts

open Relational Serde Wire Transition

/-! ### What writes to the outbox -/

/-- The id of a message that is no alert. -/
abbrev ForeignId := { id : String // ¬ "outbox:alert:".toList <+: id.toList }

inductive Event where
  | dispatched (call : Dispatching)
  /-- A park commits, with its terminal alert. -/
  | parked (alert : Alert) (time : ℤ)
  | queued (id : ForeignId) (entry : OutboxEntry)
  | forgotten (id : ForeignId)
  /-- The process starts again, with alerts to a recipient or without. -/
  | restarted (recipient : Option String)

/-- The dispatcher a process starts with. -/
def Dispatcher.configured : Option String → Dispatcher
  | some recipientHex => .new recipientHex
  | none => .disabled

def mailboxStep (digest : String → String) (sink : Sink) : Event → Sink
  | .dispatched call => (dispatchOne digest sink call).2
  | .parked alert time =>
      match terminalAlertRow digest sink.1 alert with
      | none => sink
      | some row => (sink.1, enqueueAlertRow sink.2 row time)
  | .queued id entry => (sink.1, insertOrIgnore sink.2 id entry)
  | .forgotten id => (sink.1, sink.2.delete fun other _ => other = id.1)
  | .restarted recipient => (.configured recipient, sink.2)

/-- **The outbox**, from an empty one before the first start. -/
def mailbox (digest : String → String) : Machine Sink Event where
  start := (.disabled, Table.empty)
  step := mailboxStep digest

/-! ### Legible rows -/

/-- The view of a row that can be read. -/
def viewOf (kind : AlertKind) (entry : OutboxEntry) : Option AlertView :=
  match readAlert kind entry with
  | .ok view => some view
  | .error _ => none

theorem viewOf_eq_some {kind : AlertKind} {entry : OutboxEntry} {view : AlertView} :
    viewOf kind entry = some view ↔ readAlert kind entry = .ok view := by
  unfold viewOf
  cases readAlert kind entry <;> simp

/-- Every row under an id of a kind is an alert of that kind. -/
def Legible (outbox : Outbox) : Prop :=
  ∀ kind id entry, outbox.row id = some entry → (alertPrefix kind).toList <+: id.toList →
    ∃ view, readAlert kind entry = .ok view

theorem readAlert_at {kind : AlertKind} {entry : OutboxEntry} {view : AlertView}
    (read : readAlert kind entry = .ok view) : view.at_ = entry.createdAt := by
  unfold readAlert at read
  split_ifs at read
  split at read
  · split_ifs at read
    rw [← Except.ok.inj read]
  · cases read
  · cases read

/-- The row of an alert reads back as its capped texts. -/
theorem readAlert_alert (alert : Alert) (recipient : String) (time : ℤ) :
    readAlert alert.kind ⟨recipient, "operator.alert", alertPayload alert, time⟩ =
      .ok ⟨capChars alert.subject maxAlertSubjectChars, capChars alert.detail maxAlertDetailChars,
        time⟩ := by
  obtain ⟨document, payload, decoded⟩ := alertPayload_decode alert
  unfold readAlert
  rw [if_neg (not_not.mpr rfl)]
  simp only [payload, Option.map_some, decoded]
  exact if_neg (not_not.mpr rfl)

/-- What begins like the ids of a kind is an id of that kind. -/
theorem kind_of_begins {kind other : AlertKind} {rest : String}
    (begins : (alertPrefix kind).toList <+: (alertPrefix other ++ rest).toList) : kind = other := by
  obtain ⟨tail, same⟩ := begins
  rw [String.toList_append] at same
  exact (alertPrefix_inj same).1

theorem foreign_begins (id : ForeignId) (kind : AlertKind) :
    ¬ (alertPrefix kind).toList <+: id.1.toList := by
  intro begins
  refine id.2 (List.IsPrefix.trans ?_ begins)
  rw [toList_alertPrefix, List.append_assoc]
  exact List.prefix_append _ _

section Legible

variable {digest : String → String} {outbox : Outbox}

/-- An alert is inserted under an id of its kind. -/
theorem Legible.insertAlert (legible : Legible outbox) (alert : Alert) (rest recipient : String)
    (time : ℤ) : Legible (insertOrIgnore outbox (alertPrefix alert.kind ++ rest)
      ⟨recipient, "operator.alert", alertPayload alert, time⟩) := by
  intro kind id entry found begins
  rw [insertOrIgnore_row] at found
  split_ifs at found with own
  · rw [own] at begins
    obtain rfl := kind_of_begins begins
    cases old : outbox.row (alertPrefix alert.kind ++ rest) with
    | some row =>
        rw [old, Option.getD_some] at found
        exact legible alert.kind _ entry (old.trans found) begins
    | none =>
        rw [old, Option.getD_none] at found
        rw [← Option.some.inj found]
        exact ⟨_, readAlert_alert alert recipient time⟩
  · exact legible kind id entry found begins

theorem Legible.insertForeign (legible : Legible outbox) (id : ForeignId) (entry : OutboxEntry) :
    Legible (insertOrIgnore outbox id.1 entry) := by
  intro kind other row found begins
  rw [insertOrIgnore_row] at found
  split_ifs at found with own
  · rw [own] at begins
    exact absurd begins (foreign_begins id kind)
  · exact legible kind other row found begins

theorem alertId_eq (kind : AlertKind) (subject : String) (time : ℤ) :
    alertId digest kind subject time =
      alertPrefix kind ++ (idSubject digest subject ++ (":" ++ toString time)) := by
  unfold alertId
  rw [String.append_assoc, String.append_assoc]

/-- **Every event keeps the rows legible.** -/
theorem Legible.step {sink : Sink} (legible : Legible sink.2) (event : Event) :
    Legible (mailboxStep digest sink event).2 := by
  cases event with
  | dispatched call =>
      simp only [mailboxStep]
      rcases dispatchOne_cases digest sink call with ⟨-, same, -⟩ | ⟨-, same, -⟩
      · rwa [same]
      · rw [same, stamped]
        simp only [alertId_eq]
        exact legible.insertAlert call.alert _ _ _
  | parked alert time =>
      simp only [mailboxStep]
      split
      · exact legible
      · rename_i row prepared
        unfold terminalAlertRow at prepared
        split_ifs at prepared
        obtain rfl := Option.some.inj prepared
        exact legible.insertAlert alert _ _ _
  | queued id entry => exact legible.insertForeign id entry
  | forgotten id =>
      intro kind other entry found begins
      exact legible kind other entry ((sink.2.delete_row_eq_some _ other entry).mp found).1 begins
  | restarted recipient => exact legible

/-- An alert that is in the outbox stays. -/
theorem alert_kept {sink : Sink} (event : Event) {kind : AlertKind} {id : String} {entry : OutboxEntry}
    (begins : (alertPrefix kind).toList <+: id.toList) (found : sink.2.row id = some entry) :
    (mailboxStep digest sink event).2.row id = some entry := by
  have inserted (other : String) (row : OutboxEntry) :
      (insertOrIgnore sink.2 other row).row id = some entry := by
    rw [insertOrIgnore_row]
    split_ifs with own
    · rw [← own, found, Option.getD_some]
    · exact found
  cases event with
  | dispatched call =>
      simp only [mailboxStep]
      rcases dispatchOne_cases digest sink call with ⟨-, same, -⟩ | ⟨-, same, -⟩
      · rwa [same]
      · rw [same]
        exact inserted _ _
  | parked alert time =>
      simp only [mailboxStep]
      split
      · exact found
      · exact inserted _ _
  | queued other row => exact inserted _ _
  | forgotten other =>
      refine (sink.2.delete_row_eq_some _ id entry).mpr ⟨found, fun same => ?_⟩
      rw [same] at begins
      exact foreign_begins other kind begins
  | restarted recipient => exact found

theorem alert_stays {kind : AlertKind} {id : String} {entry : OutboxEntry} (events : List Event)
    (begins : (alertPrefix kind).toList <+: id.toList) :
    ∀ sink : Sink, sink.2.row id = some entry →
      ((mailbox digest).runFrom sink events).2.row id = some entry := by
  induction events with
  | nil => exact fun _ found => found
  | cons event rest ih => exact fun sink found => ih _ (alert_kept event begins found)

end Legible

/-! ### The loop -/

section Loop

variable {kind : AlertKind} {since : ℤ} {outbox : Outbox}

/-- **The loop over legible rows** keeps the first of each subject. -/
theorem collect_legible :
    ∀ (entries : List OutboxEntry) (seen : List String) (shown : List AlertView),
      (∀ entry ∈ entries, ∃ view, readAlert kind entry = .ok view) →
      collect kind entries seen shown = .ok
        ⟨seen.length + (firsts AlertView.subject seen (entries.filterMap (viewOf kind))).length,
          shown ++ firsts AlertView.subject seen (entries.filterMap (viewOf kind))⟩ := by
  intro entries
  induction entries with
  | nil =>
      intro seen shown _
      simp [collect, firsts]
  | cons entry rest ih =>
      intro seen shown legible
      obtain ⟨view, read⟩ := legible entry List.mem_cons_self
      have later := fun seen shown =>
        ih seen shown fun other member => legible other (List.mem_cons_of_mem _ member)
      rw [List.filterMap_cons_some (viewOf_eq_some.mpr read)]
      unfold collect firsts
      simp only [read]
      split_ifs with known
      · exact later seen shown
      · rw [later, List.length_cons, List.length_cons, List.append_assoc, List.singleton_append]
        congr 2
        omega

/-- The id of a selected row. -/
theorem mem_selectedIds (id : String) :
    id ∈ selectedIds outbox kind since ↔
      ∃ entry, outbox.row id = some entry ∧ Selects kind since id entry := by
  unfold selectedIds
  rw [List.mem_mergeSort, Finset.mem_sort, Finset.mem_filter, outbox.mem_keys, Option.any_eq_true]
  constructor
  · rintro ⟨-, entry, found, selects⟩
    exact ⟨entry, found, of_decide_eq_true selects⟩
  · rintro ⟨entry, found, selects⟩
    exact ⟨by rw [found]; rfl, entry, found, decide_eq_true selects⟩

/-- A row the query selects, as it is shown. -/
def Shows (outbox : Outbox) (kind : AlertKind) (since : ℤ) (view : AlertView) : Prop :=
  ∃ id entry, outbox.row id = some entry ∧ Selects kind since id entry ∧
    readAlert kind entry = .ok view

/-- The views of the selected rows, in their order. -/
def views (outbox : Outbox) (kind : AlertKind) (since : ℤ) : List AlertView :=
  ((selectedIds outbox kind since).filterMap outbox.row).filterMap (viewOf kind)

theorem mem_views (view : AlertView) :
    view ∈ views outbox kind since ↔ Shows outbox kind since view := by
  unfold views Shows
  simp only [List.mem_filterMap, mem_selectedIds, viewOf_eq_some]
  constructor
  · rintro ⟨entry, ⟨id, ⟨other, found', selects⟩, found⟩, read⟩
    obtain rfl := Option.some.inj (found.symm.trans found')
    exact ⟨id, entry, found, selects, read⟩
  · rintro ⟨id, entry, found, selects, read⟩
    exact ⟨entry, ⟨id, ⟨entry, found, selects⟩, found⟩, read⟩

/-- They stand in the order of time, latest first. -/
theorem views_sorted :
    (views outbox kind since).Pairwise fun early late => late.at_ ≤ early.at_ := by
  have sorted : (selectedIds outbox kind since).Pairwise fun first second =>
      notOlder outbox first second = true := by
    refine List.pairwise_mergeSort (fun first second third early late => ?_)
      (fun first second => ?_) _
    · unfold notOlder at early late ⊢
      rw [decide_eq_true_iff] at early late ⊢
      exact late.trans early
    · unfold notOlder
      rw [Bool.or_eq_true, decide_eq_true_iff, decide_eq_true_iff]
      exact le_total _ _
  unfold views
  rw [List.filterMap_filterMap]
  refine List.Pairwise.filterMap _ (fun early late before view shown view' shown' => ?_) sorted
  obtain ⟨entry, found, read⟩ := Option.bind_eq_some_iff.mp shown
  obtain ⟨entry', found', read'⟩ := Option.bind_eq_some_iff.mp shown'
  rw [notOlder, decide_eq_true_iff, found, found'] at before
  rw [readAlert_at (viewOf_eq_some.mp read), readAlert_at (viewOf_eq_some.mp read')]
  exact before

theorem recentAlerts_legible (legible : Legible outbox) :
    recentAlerts outbox kind since = .ok
      ⟨(firsts AlertView.subject [] (views outbox kind since)).length,
        firsts AlertView.subject [] (views outbox kind since)⟩ := by
  have all : ∀ entry ∈ (selectedIds outbox kind since).filterMap outbox.row,
      ∃ view, readAlert kind entry = .ok view := by
    intro entry member
    obtain ⟨id, listed, found⟩ := List.mem_filterMap.mp member
    obtain ⟨other, found', selects⟩ := (mem_selectedIds id).mp listed
    obtain rfl := Option.some.inj (found.symm.trans found')
    exact legible kind id entry found selects.1
  have collected := collect_legible _ [] [] all
  rw [List.length_nil, Nat.zero_add, List.nil_append] at collected
  exact collected

end Loop

/-! ### Every run -/

theorem legible_run (digest : String → String) (events : List Event) :
    Legible ((mailbox digest).run events).2 := by
  have keeps : ∀ (sink : Sink) (event : Event), Legible sink.2 →
      Legible ((mailbox digest).step sink event).2 := fun _ event legible => legible.step event
  have start : Legible (mailbox digest).start.2 :=
    fun _ _ _ found => absurd found (Option.some_ne_none _).symm
  show (fun sink : Sink => Legible sink.2) ((mailbox digest).run events)
  exact (mailbox digest).invariant start keeps events

/-- **The history is never refused and leaves nothing out.** In every state reached, for every kind and
time: `recent_alerts` answers; it shows each subject once, as its latest alert, most recent first, and
counts what it shows; every alert of the kind since the time is shown, or a later one of its subject;
and so is every alert a dispatch enqueued under a new id. -/
theorem history_faithful (digest : String → String) (events : List Event) (kind : AlertKind)
    (since : ℤ) :
    ∃ history, recentAlerts ((mailbox digest).run events).2 kind since = .ok history ∧
      history.total = history.shown.length ∧
      (history.shown.map AlertView.subject).Nodup ∧
      (history.shown.Pairwise fun early late => late.at_ ≤ early.at_) ∧
      (∀ view ∈ history.shown, Shows ((mailbox digest).run events).2 kind since view ∧
        ∀ other, Shows ((mailbox digest).run events).2 kind since other →
          other.subject = view.subject → other.at_ ≤ view.at_) ∧
      (∀ other, Shows ((mailbox digest).run events).2 kind since other →
        ∃ view ∈ history.shown, view.subject = other.subject ∧ other.at_ ≤ view.at_) ∧
      ∀ before call after, events = before ++ .dispatched call :: after →
        (dispatchOne digest ((mailbox digest).run before) call).1 = .enqueued →
        ((mailbox digest).run before).2.row
          (alertId digest call.alert.kind call.alert.subject call.time) = none →
        call.alert.kind = kind → since ≤ call.time →
        ∃ view ∈ history.shown, view.subject = capChars call.alert.subject maxAlertSubjectChars ∧
          call.time ≤ view.at_ := by
  set outbox := ((mailbox digest).run events).2 with isOutbox
  have leads : ∀ view ∈ firsts AlertView.subject [] (views outbox kind since),
      ∀ other ∈ views outbox kind since, other.subject = view.subject → other.at_ ≤ view.at_ :=
    firsts_leads (fun view => le_refl view.at_) _ [] views_sorted
  have listed : ∀ other ∈ views outbox kind since, other.subject ∈ [] ∨
      ∃ view ∈ firsts AlertView.subject [] (views outbox kind since),
        view.subject = other.subject := firsts_represents _ []
  have represented : ∀ other, Shows outbox kind since other →
      ∃ view ∈ firsts AlertView.subject [] (views outbox kind since),
        view.subject = other.subject ∧ other.at_ ≤ view.at_ := by
    intro other shows
    have member := (mem_views other).mpr shows
    rcases listed other member with old | ⟨view, found, same⟩
    · exact absurd old List.not_mem_nil
    · exact ⟨view, found, same, leads view found other member same.symm⟩
  refine ⟨_, recentAlerts_legible (legible_run digest events), rfl, firsts_nodup _ _,
    views_sorted.sublist (firsts_sublist _ _), fun view member => ⟨?_, fun other shows same => ?_⟩,
    represented, fun before call after split enqueued fresh same late => ?_⟩
  · exact (mem_views view).mp ((firsts_sublist _ _).subset member)
  · exact leads view member other ((mem_views other).mpr shows) same
  · have begins : (alertPrefix call.alert.kind).toList <+:
        (alertId digest call.alert.kind call.alert.subject call.time).toList := by
      rw [alertId_eq, String.toList_append]
      exact List.prefix_append _ _
    have filed : ((mailbox digest).step ((mailbox digest).run before) (.dispatched call)).2.row
        (alertId digest call.alert.kind call.alert.subject call.time) =
          some ⟨((mailbox digest).run before).1.recipientHex, "operator.alert",
            alertPayload call.alert, call.time⟩ := by
      show (dispatchOne digest ((mailbox digest).run before) call).2.2.row _ = _
      rcases dispatchOne_cases digest ((mailbox digest).run before) call with
        ⟨other, -⟩ | ⟨-, is, -⟩
      · exact absurd enqueued other
      · rw [is, stamped_row, if_pos rfl, fresh, Option.getD_none]
    have stays : outbox.row (alertId digest call.alert.kind call.alert.subject call.time) =
        some ⟨((mailbox digest).run before).1.recipientHex, "operator.alert",
          alertPayload call.alert, call.time⟩ := by
      rw [isOutbox, split, Machine.run, Machine.runFrom_append]
      exact alert_stays after begins _ filed
    subst same
    exact represented ⟨_, _, call.time⟩
      ⟨_, _, stays, ⟨begins, late⟩, readAlert_alert call.alert _ call.time⟩

end Lnrent.Alerts
