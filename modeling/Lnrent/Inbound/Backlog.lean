/-
**What a backfill brings in.** A relay holds a set of events and answers each request with its newest,
up to its own limit, of which the client knows nothing.

* `ServesPages`, `ServesIds`, `Truthful` — the relay's answers to the three kinds of request;
* `Progress` — what holds of a walk: all that is newer than its cursor is queued;
* `walkFrom_reaches` — how any walk ends; `walkFrom_turned` — what it did when it used all its pages;
* `backfill_complete` — **no event is buried where no second overflows a page**;
* `backfill_recovers` — **an overflow is recovered exactly if the limit lets the exact ids through**.
-/

import Lnrent.Daemon.Backfill
import Mathlib.Data.Set.Function

namespace Lnrent.Backfill

open Search

variable {retained : Finset Event} {clamp : ℕ} {relay : Relay} {walk : Walk}

/-! ### The relay -/

/-- The events of a set at or before a second. -/
def upTo (retained : Finset Event) (until_ : Option ℕ) : Finset Event :=
  retained.filter fun event => ∀ second ∈ until_, event.createdAt ≤ second

/-- The events of a set with one of the ids. -/
def among (retained : Finset Event) (ids : List ℕ) : Finset Event :=
  retained.filter fun event => event.id ∈ ids

/-- **A page is the newest events up to its cursor**, as many as the limit and the clamp allow. -/
def ServesPages (retained : Finset Event) (clamp : ℕ) (relay : Relay) : Prop :=
  ∀ number limit until_, ∃ events : List Event,
    relay.page number limit until_ = events.map some ∧
      Newest Event.createdAt (min limit clamp) (upTo retained until_) events

/-- **Exact ids are clamped as well.** -/
def ServesIds (retained : Finset Event) (clamp : ℕ) (relay : Relay) : Prop :=
  ∀ number ids, ∃ events : List Event, relay.fetchIds number ids = events.map some ∧
    Newest Event.createdAt clamp (among retained ids) events

/-- The ids of what is retained and not among some items. -/
structure Lacks (retained : Finset Event) (items : List Event) (missing : List ℕ) : Prop where
  nodup : missing.Nodup
  names : ∀ id, id ∈ missing ↔ (∃ event ∈ retained, event.id = id) ∧ id ∉ items.map Event.id

/-- **Reconciliation names what the given items lack.** -/
def Truthful (retained : Finset Event) (relay : Relay) : Prop :=
  ∀ localItems, ∃ missing, relay.reconcile localItems = some missing ∧
    Lacks retained localItems missing

theorem mem_upTo {until_ : Option ℕ} {event : Event} :
    event ∈ upTo retained until_ ↔
      event ∈ retained ∧ ∀ second ∈ until_, event.createdAt ≤ second :=
  Finset.mem_filter

theorem mem_among {ids : List ℕ} {event : Event} :
    event ∈ among retained ids ↔ event ∈ retained ∧ event.id ∈ ids :=
  Finset.mem_filter

/-- With unique ids, as many events have one of some retained ids as there are ids. -/
theorem card_among (unique : Set.InjOn Event.id retained) {ids : List ℕ} (nodup : ids.Nodup)
    (held : ∀ id ∈ ids, ∃ event ∈ retained, event.id = id) :
    (among retained ids).card = ids.length := by
  have image : (among retained ids).image Event.id = ids.toFinset := by
    ext id
    rw [Finset.mem_image, List.mem_toFinset]
    constructor
    · rintro ⟨event, member, rfl⟩
      exact (mem_among.mp member).2
    · intro member
      obtain ⟨event, here, same⟩ := held id member
      exact ⟨event, mem_among.mpr ⟨here, same ▸ member⟩, same⟩
  rw [← List.toFinset_card_of_nodup nodup, ← image]
  refine (Finset.card_image_of_injOn fun one here other there => ?_).symm
  exact unique (mem_among.mp here).1 (mem_among.mp there).1

/-! ### Such a relay -/

/-- A relay that answers from a list, newest first. -/
def serving (held : List Event) (clamp : ℕ) : Relay where
  page _ limit until_ :=
    ((held.filter fun event => ∀ second ∈ until_, event.createdAt ≤ second).take
      (min limit clamp)).map some
  reconcile items := some ((held.map Event.id).filter (· ∉ items.map Event.id))
  fetchIds _ ids := ((held.filter fun event => event.id ∈ ids).take clamp).map some

section Serving

variable {held : List Event} (distinct : held.Nodup)
  (sorted : held.Pairwise fun one other => other.createdAt ≤ one.createdAt)
include distinct sorted

/-- Its first answers among what passes a filter. -/
theorem newest_filter (passes : Event → Prop) [DecidablePred passes] (limit : ℕ) :
    Newest Event.createdAt limit (held.toFinset.filter passes)
      ((held.filter fun event => passes event).take limit) := by
  have same : held.toFinset.filter passes = (held.filter fun event => passes event).toFinset := by
    ext event
    rw [Finset.mem_filter, List.mem_toFinset, List.mem_toFinset, List.mem_filter, decide_eq_true_eq]
  rw [same]
  exact newest_take (distinct.filter _) (sorted.filter _) limit

theorem serving_pages (clamp : ℕ) : ServesPages held.toFinset clamp (serving held clamp) :=
  fun _ _ _ => ⟨_, rfl, newest_filter distinct sorted _ _⟩

theorem serving_ids (clamp : ℕ) : ServesIds held.toFinset clamp (serving held clamp) :=
  fun _ _ => ⟨_, rfl, newest_filter distinct sorted _ _⟩

end Serving

theorem serving_truthful {held : List Event} (unique : (held.map Event.id).Nodup) (clamp : ℕ) :
    Truthful held.toFinset (serving held clamp) := by
  refine fun items => ⟨_, rfl, unique.filter _, fun id => ?_⟩
  rw [List.mem_filter, decide_eq_true_eq, List.mem_map]
  refine and_congr_left fun _ => exists_congr fun event => ?_
  rw [List.mem_toFinset]

/-! ### One page -/

/-- The seen ids are those of the queued events, each queued once. -/
structure Tidy (walk : Walk) : Prop where
  nodup : (walk.localItems.map Event.id).Nodup
  seen : ∀ id, id ∈ walk.seenIds ↔ id ∈ walk.localItems.map Event.id

theorem Tidy.take (tidy : Tidy walk) (item : Option Event) : Tidy (walk.take item) := by
  cases item with
  | none => exact tidy
  | some event =>
      rw [Walk.take]
      split
      · exact tidy
      · rename_i fresh
        refine ⟨?_, fun id => ?_⟩
        · show ((walk.localItems ++ [event]).map Event.id).Nodup
          rw [List.map_append]
          refine List.nodup_append.mpr ⟨tidy.nodup, List.nodup_singleton _, ?_⟩
          rintro id queued other member rfl
          rw [List.map_singleton, List.mem_singleton] at member
          exact fresh ((tidy.seen _).mpr (member ▸ queued))
        · show id ∈ insert event.id walk.seenIds ↔ id ∈ (walk.localItems ++ [event]).map Event.id
          rw [Finset.mem_insert, tidy.seen, List.map_append, List.mem_append, List.map_singleton,
            List.mem_singleton]
          exact or_comm

theorem Tidy.foldl (tidy : Tidy walk) (items : List (Option Event)) :
    Tidy (items.foldl Walk.take walk) := by
  induction items generalizing walk with
  | nil => exact tidy
  | cons item rest ih => exact ih (tidy.take item)

@[simp] theorem take_until (item : Option Event) : (walk.take item).until_ = walk.until_ := by
  cases item with
  | none => rfl
  | some event => rw [Walk.take]; split <;> rfl

/-- What was queued stays queued, and the rest came with the page. -/
theorem mem_take {item : Option Event} {event : Event} :
    (event ∈ walk.localItems → event ∈ (walk.take item).localItems) ∧
      (event ∈ (walk.take item).localItems → event ∈ walk.localItems ∨ item = some event) := by
  cases item with
  | none => exact ⟨id, Or.inl⟩
  | some other =>
      rw [Walk.take]
      split
      · exact ⟨id, Or.inl⟩
      · refine ⟨List.mem_append_left _, fun member => ?_⟩
        rcases List.mem_append.mp member with earlier | new
        · exact .inl earlier
        · exact .inr (congrArg some (List.mem_singleton.mp new).symm)

theorem mem_foldl_of_mem {event : Event} (items : List (Option Event))
    (member : event ∈ walk.localItems) : event ∈ (items.foldl Walk.take walk).localItems := by
  induction items generalizing walk with
  | nil => exact member
  | cons item rest ih => exact ih (mem_take.1 member)

theorem mem_of_mem_foldl {event : Event} (items : List (Option Event))
    (member : event ∈ (items.foldl Walk.take walk).localItems) :
    event ∈ walk.localItems ∨ some event ∈ items := by
  induction items generalizing walk with
  | nil => exact .inl member
  | cons item rest ih =>
      rcases ih member with earlier | later
      · rcases mem_take.2 earlier with before | here
        · exact .inl before
        · exact .inr (here ▸ List.mem_cons_self)
      · exact .inr (List.mem_cons_of_mem _ later)

/-- An event of a page is queued, or one of its id is. -/
theorem id_mem_foldl {event : Event} (tidy : Tidy walk) (items : List (Option Event))
    (member : some event ∈ items) :
    event.id ∈ (items.foldl Walk.take walk).localItems.map Event.id := by
  induction items generalizing walk with
  | nil => exact absurd member List.not_mem_nil
  | cons item rest ih =>
      rcases List.mem_cons.mp member with rfl | later
      · have here : event.id ∈ (walk.take (some event)).localItems.map Event.id := by
          rw [Walk.take]
          split
          · rename_i seen
            exact (tidy.seen _).mp seen
          · exact List.mem_map_of_mem (List.mem_append_right _ (List.mem_singleton_self event))
        obtain ⟨other, queued, same⟩ := List.mem_map.mp here
        exact same ▸ List.mem_map_of_mem (mem_foldl_of_mem rest queued)
      · exact ih (tidy.take item) later

/-! ### The oldest second of a page -/

theorem oldestOf_from (events : List Event) (oldest : ℕ) :
    ∃ least, (events.map some).foldl older (some oldest) = some least ∧
      (least = oldest ∨ ∃ event ∈ events, event.createdAt = least) ∧ least ≤ oldest ∧
      ∀ event ∈ events, least ≤ event.createdAt := by
  induction events generalizing oldest with
  | nil => exact ⟨oldest, rfl, .inl rfl, le_rfl, fun _ member => absurd member List.not_mem_nil⟩
  | cons event rest ih =>
      obtain ⟨least, found, attained, below, all⟩ := ih (min oldest event.createdAt)
      refine ⟨least, found, ?_, by omega, fun other member => ?_⟩
      · rcases attained with start | ⟨other, member, same⟩
        · rcases min_choice oldest event.createdAt with first | second
          · exact .inl (start.trans first)
          · exact .inr ⟨event, List.mem_cons_self, (start.trans second).symm⟩
        · exact .inr ⟨other, List.mem_cons_of_mem _ member, same⟩
      · rcases List.mem_cons.mp member with rfl | later
        · omega
        · exact all other later

/-- A page of events has an oldest second, unless it is empty. -/
theorem oldestOf_events (events : List Event) :
    (events = [] ∧ oldestOf (events.map some) = none) ∨
      ∃ least, oldestOf (events.map some) = some least ∧
        (∃ event ∈ events, event.createdAt = least) ∧ ∀ event ∈ events, least ≤ event.createdAt := by
  cases events with
  | nil => exact .inl ⟨rfl, rfl⟩
  | cons event rest =>
      obtain ⟨least, found, attained, below, all⟩ := oldestOf_from rest event.createdAt
      refine .inr ⟨least, found, ?_, fun other member => ?_⟩
      · rcases attained with start | ⟨other, member, same⟩
        · exact ⟨event, List.mem_cons_self, start.symm⟩
        · exact ⟨other, List.mem_cons_of_mem _ member, same⟩
      · rcases List.mem_cons.mp member with rfl | later
        · exact below
        · exact all other later

/-! ### The walk -/

/-- **What holds of a walk**: everything newer than its cursor is queued. -/
structure Progress (retained : Finset Event) (clamp : ℕ) (walk : Walk) : Prop extends Tidy walk where
  kept : ∀ event ∈ walk.localItems, event ∈ retained
  newer : ∀ event ∈ retained, event ∉ upTo retained walk.until_ → event ∈ walk.localItems
  observed : walk.observedPageLimit ≤ min pageLimit clamp

theorem Progress.start : Progress retained clamp .start where
  nodup := List.nodup_nil
  seen _ := ⟨fun member => absurd member (Finset.notMem_empty _), fun member => by cases member⟩
  kept _ member := by cases member
  newer event member outside :=
    absurd (mem_upTo.mpr ⟨member, fun _ none => by cases none⟩) outside
  observed := Nat.zero_le _

theorem foldl_take_until (items : List (Option Event)) :
    (items.foldl Walk.take walk).until_ = walk.until_ := by
  induction items generalizing walk with
  | nil => rfl
  | cons item rest ih => exact ih.trans (take_until item)

theorem after_until (items : List (Option Event)) : (walk.after items).until_ = walk.until_ :=
  foldl_take_until items

/-- A page of retained events is all queued. -/
theorem Progress.mem_after (progress : Progress retained clamp walk)
    (unique : Set.InjOn Event.id retained) {events : List Event}
    (held : ∀ event ∈ events, event ∈ retained) :
    (∀ event ∈ (walk.after (events.map some)).localItems, event ∈ retained) ∧
      (∀ event ∈ walk.localItems, event ∈ (walk.after (events.map some)).localItems) ∧
      ∀ event ∈ events, event ∈ (walk.after (events.map some)).localItems := by
  have kept : ∀ event ∈ (walk.after (events.map some)).localItems, event ∈ retained := by
    intro event member
    rcases mem_of_mem_foldl _ member with earlier | item
    · exact progress.kept event earlier
    · obtain ⟨other, here, same⟩ := List.mem_map.mp item
      exact Option.some.inj same ▸ held other here
  refine ⟨kept, fun event member => mem_foldl_of_mem _ member, fun event member => ?_⟩
  obtain ⟨other, queued, same⟩ :=
    List.mem_map.mp (id_mem_foldl progress.toTidy _ (List.mem_map_of_mem member))
  exact unique (kept other queued) (held event member) same ▸ queued

/-- **A page that moves the cursor** to the oldest second of it. -/
theorem Progress.turn (progress : Progress retained clamp walk)
    (unique : Set.InjOn Event.id retained) {events : List Event} {oldest : ℕ}
    (newest : Newest Event.createdAt (min pageLimit clamp) (upTo retained walk.until_) events)
    (first : ∃ event ∈ events, event.createdAt = oldest) :
    Progress retained clamp { walk.after (events.map some) with until_ := some oldest } := by
  have held : ∀ event ∈ events, event ∈ retained :=
    fun event member => (mem_upTo.mp (newest.subset event member)).1
  obtain ⟨kept, grows, queued⟩ := progress.mem_after unique held
  obtain ⟨first, member, time⟩ := first
  refine ⟨⟨(progress.toTidy.foldl _).nodup, (progress.toTidy.foldl _).seen⟩, kept,
    fun event there outside => ?_, ?_⟩
  · by_cases inside : event ∈ upTo retained walk.until_
    · refine queued event (newest.newest first member event inside ?_)
      by_contra older
      refine outside (mem_upTo.mpr ⟨there, fun second same => ?_⟩)
      rw [← Option.some.inj same]
      omega
    · exact grows event (progress.newer event there inside)
  · refine max_le progress.observed ?_
    rw [List.length_map, newest.length]
    exact min_le_left _ _

/-- **A walk whose cursor stalled**: its last page is of one second, and queued. -/
def Stalled (retained : Finset Event) (clamp : ℕ) (last : Walk) : Prop :=
  ∃ second events, last.until_ = some second ∧
    Newest Event.createdAt (min pageLimit clamp) (upTo retained (some second)) events ∧
    (∀ event ∈ events, event.createdAt = second) ∧ ∀ event ∈ events, event ∈ last.localItems

/-- **How a walk ends.** -/
inductive Reaches (retained : Finset Event) (clamp : ℕ) (relay : Relay) :
    Ending × List Event → Prop
  | exhausted (last : Walk) : Progress retained clamp last →
      (∀ event ∈ retained, event ∈ last.localItems) →
      Reaches retained clamp relay (.exhausted, last.localItems)
  | capped (last : Walk) : Progress retained clamp last →
      Reaches retained clamp relay (.capped, last.localItems)
  | stalled (last : Walk) : Progress retained clamp last → Stalled retained clamp last →
      Reaches retained clamp relay (viaNegentropy relay last)

theorem not_advanced {until_ : Option ℕ} {oldest : ℕ} (stalled : ¬ Advanced until_ oldest) :
    ∃ second, until_ = some second ∧ second ≤ oldest := by
  cases until_ with
  | none => exact absurd (fun second none => by cases none) stalled
  | some second =>
      refine ⟨second, rfl, ?_⟩
      by_contra older
      refine stalled fun other same => ?_
      rw [← Option.some.inj same]
      omega

/-- Everything is queued once a page is all there is up to the cursor. -/
theorem Progress.complete (progress : Progress retained clamp walk) {events queued : List Event}
    (whole : ∀ event ∈ upTo retained walk.until_, event ∈ events)
    (grows : ∀ event ∈ walk.localItems, event ∈ queued) (all : ∀ event ∈ events, event ∈ queued) :
    ∀ event ∈ retained, event ∈ queued := by
  intro event member
  by_cases inside : event ∈ upTo retained walk.until_
  · exact all event (whole event inside)
  · exact grows event (progress.newer event member inside)

/-- **Any walk ends with everything queued, at the page cap, or stalled.** -/
theorem walkFrom_reaches (unique : Set.InjOn Event.id retained) (answers : 0 < clamp)
    (pages : ServesPages retained clamp relay) (left : ℕ) :
    ∀ walk, Progress retained clamp walk →
      Reaches retained clamp relay (walkFrom relay left walk) := by
  induction left with
  | zero => exact fun walk progress => .capped walk progress
  | succ left ih =>
      intro walk progress
      obtain ⟨events, answer, newest⟩ := pages (maxPages - (left + 1)) pageLimit walk.until_
      have held : ∀ event ∈ events, event ∈ retained :=
        fun event member => (mem_upTo.mp (newest.subset event member)).1
      obtain ⟨kept, grows, queued⟩ := progress.mem_after unique held
      have tidy : Tidy (walk.after (events.map some)) :=
        ⟨(progress.toTidy.foldl _).nodup, (progress.toTidy.foldl _).seen⟩
      have observed : (walk.after (events.map some)).observedPageLimit ≤ min pageLimit clamp := by
        refine max_le progress.observed ?_
        rw [List.length_map, newest.length]
        exact min_le_left _ _
      have complete : events.length < min pageLimit clamp →
          ∀ event ∈ retained, event ∈ (walk.after (events.map some)).localItems :=
        fun short => progress.complete (newest.all short) grows queued
      rw [walkFrom, answer]
      rcases oldestOf_events events with ⟨rfl, none⟩ | ⟨oldest, found, ⟨first, member, time⟩, least⟩
      · rw [none]
        have room : 0 < min pageLimit clamp := lt_min (by decide) answers
        exact .exhausted (walk.after (List.map some []))
          ⟨tidy, kept, fun event member _ => complete room event member, observed⟩ (complete room)
      · rw [found]
        show Reaches retained clamp relay (if Advanced walk.until_ oldest then _
          else if (events.map some).length < (walk.after (events.map some)).observedPageLimit then _
          else viaNegentropy relay (walk.after (events.map some)))
        by_cases advanced : Advanced walk.until_ oldest
        · rw [if_pos advanced]
          exact ih _ (progress.turn unique newest ⟨first, member, time⟩)
        · rw [if_neg advanced]
          obtain ⟨second, cursor, below⟩ := not_advanced advanced
          have reached : Progress retained clamp (walk.after (events.map some)) := by
            refine ⟨tidy, kept, fun event member outside => ?_, observed⟩
            rw [after_until] at outside
            exact grows event (progress.newer event member outside)
          by_cases short : (events.map some).length < (walk.after (events.map some)).observedPageLimit
          · rw [if_pos short]
            rw [List.length_map] at short
            exact .exhausted _ reached (complete (by omega))
          · rw [if_neg short]
            refine .stalled _ reached ⟨second, events, ?_, cursor ▸ newest, fun event here => ?_, queued⟩
            · rw [after_until, cursor]
            · have bound := (mem_upTo.mp (newest.subset event here)).2 second cursor
              have old := least event here
              omega

/-- **What a walk comes to that uses all the pages it has left**: every page moved the cursor, to an
older second of a retained event, and what is newer than the cursor is queued. -/
structure Turned (retained : Finset Event) (walk : Walk) (pages : ℕ) (cursors : List ℕ)
    (queued : List Event) : Prop where
  pages : cursors.length = pages
  older : cursors.Pairwise (· > ·)
  below : ∀ second ∈ cursors, Advanced walk.until_ second
  held : ∀ second ∈ cursors, ∃ event ∈ retained, event.createdAt = second
  grows : ∀ event ∈ walk.localItems, event ∈ queued
  newer : ∀ second ∈ cursors, ∀ event ∈ retained, second < event.createdAt → event ∈ queued

/-- **The page cap is met by that many pages.** -/
theorem walkFrom_turned (unique : Set.InjOn Event.id retained)
    (pages : ServesPages retained clamp relay) (left : ℕ) :
    ∀ walk, Progress retained clamp walk → (walkFrom relay left walk).1 = .capped →
      Turned retained walk left (cursorsFrom relay left walk) (walkFrom relay left walk).2 := by
  induction left with
  | zero =>
      intro walk progress _
      exact ⟨rfl, .nil, nofun, nofun, fun _ => id, nofun⟩
  | succ left ih =>
      intro walk progress capped
      obtain ⟨events, answer, newest⟩ := pages (maxPages - (left + 1)) pageLimit walk.until_
      have held : ∀ event ∈ events, event ∈ retained :=
        fun event member => (mem_upTo.mp (newest.subset event member)).1
      obtain ⟨-, grows, -⟩ := progress.mem_after unique held
      rw [walkFrom, answer] at capped ⊢
      rw [cursorsFrom, answer]
      rcases oldestOf_events events with ⟨rfl, none⟩ | ⟨oldest, found, first, least⟩
      · rw [none] at capped
        cases capped
      rw [found] at capped ⊢
      dsimp only at capped ⊢
      by_cases advanced : Advanced walk.until_ oldest
      · rw [if_pos advanced] at capped ⊢
        rw [if_pos advanced]
        have turn := progress.turn unique newest first
        have rest := ih _ turn capped
        obtain ⟨event, member, time⟩ := first
        refine ⟨congrArg (· + 1) rest.pages, List.pairwise_cons.mpr ⟨fun second later => ?_, rest.older⟩,
          ?_, ?_, fun event here => rest.grows event (grows event here), ?_⟩
        · exact rest.below second later oldest rfl
        · refine List.forall_mem_cons.mpr ⟨advanced, fun second later until_ same => ?_⟩
          exact (rest.below second later oldest rfl).trans (advanced until_ same)
        · exact List.forall_mem_cons.mpr ⟨⟨event, held event member, time⟩, rest.held⟩
        · refine List.forall_mem_cons.mpr ⟨fun event there newer => ?_, rest.newer⟩
          refine rest.grows event (turn.newer event there fun inside => ?_)
          exact absurd ((mem_upTo.mp inside).2 oldest rfl) (not_le.mpr newer)
      · rw [if_neg advanced] at capped
        by_cases short : (events.map some).length < (walk.after (events.map some)).observedPageLimit
        · rw [if_pos short] at capped
          cases capped
        · rw [if_neg short, viaNegentropy] at capped
          split at capped <;> cases capped

/-! ### Exact ids -/

theorem Tidy.fetchChunks (tidy : Tidy walk) (number : ℕ) (pieces : List (List ℕ)) :
    Tidy (fetchChunks relay number pieces walk) := by
  induction pieces generalizing number walk with
  | nil => exact tidy
  | cons piece rest ih => exact ih (tidy.foldl _) (number + 1)

theorem mem_fetchChunks_of_mem {event : Event} (number : ℕ) (pieces : List (List ℕ))
    (member : event ∈ walk.localItems) :
    event ∈ (fetchChunks relay number pieces walk).localItems := by
  induction pieces generalizing number walk with
  | nil => exact member
  | cons piece rest ih => exact ih (number + 1) (mem_foldl_of_mem _ member)

/-- What the chunks bring in was in an answer to one of them. -/
theorem mem_of_mem_fetchChunks {event : Event} (number : ℕ) (pieces : List (List ℕ))
    (member : event ∈ (fetchChunks relay number pieces walk).localItems) :
    event ∈ walk.localItems ∨
      ∃ number, ∃ piece ∈ pieces, some event ∈ relay.fetchIds number piece := by
  induction pieces generalizing number walk with
  | nil => exact .inl member
  | cons piece rest ih =>
      rcases ih (number + 1) member with earlier | ⟨later, other, there, answered⟩
      · rcases mem_of_mem_foldl _ earlier with before | here
        · exact .inl before
        · exact .inr ⟨number, piece, List.mem_cons_self, here⟩
      · exact .inr ⟨later, other, List.mem_cons_of_mem _ there, answered⟩

/-- An event of every answer to a chunk is queued, or one of its id is. -/
theorem id_mem_fetchChunks {event : Event} (tidy : Tidy walk) (number : ℕ)
    {pieces : List (List ℕ)} {piece : List ℕ} (member : piece ∈ pieces)
    (answered : ∀ number, some event ∈ relay.fetchIds number piece) :
    event.id ∈ (fetchChunks relay number pieces walk).localItems.map Event.id := by
  induction pieces generalizing number walk with
  | nil => exact absurd member List.not_mem_nil
  | cons first rest ih =>
      rcases List.mem_cons.mp member with rfl | later
      · obtain ⟨other, queued, same⟩ := List.mem_map.mp (id_mem_foldl tidy _ (answered number))
        exact same ▸ List.mem_map_of_mem (mem_fetchChunks_of_mem (number + 1) rest queued)
      · exact ih (tidy.foldl _) (number + 1) later

/-- The walk that the exact ids start from. -/
theorem Tidy.seeded (tidy : Tidy walk) :
    Tidy { walk with seenIds := (walk.localItems.map Event.id).toFinset } :=
  ⟨tidy.nodup, fun _ => List.mem_toFinset⟩

/-- Reconciling loses nothing and queues nothing twice. -/
theorem viaNegentropy_keeps (relay : Relay) (tidy : Tidy walk) :
    ((viaNegentropy relay walk).2.map Event.id).Nodup ∧
      ∀ event ∈ walk.localItems, event ∈ (viaNegentropy relay walk).2 := by
  rw [viaNegentropy]
  cases relay.reconcile walk.localItems with
  | none => exact ⟨tidy.nodup, fun _ member => member⟩
  | some missing =>
      exact ⟨(tidy.seeded.fetchChunks _ _).nodup, fun _ member => mem_fetchChunks_of_mem _ _ member⟩

/-! ### Nothing is buried -/

/-- **No retained event is buried under newer ones** where no second overflows a page: it is queued
before the walk ends short of its page cap, and no id is queued twice. The cap is met only by as many
pages, each of which moved the cursor to an older second. -/
theorem backfill_complete (unique : Set.InjOn Event.id retained)
    (pages : ServesPages retained clamp relay)
    (sparse : ∀ second,
      (retained.filter fun event => event.createdAt = second).card < min pageLimit clamp) :
    ((backfill relay).2.map Event.id).Nodup ∧
      ((backfill relay).1 ≠ .capped → ∀ event ∈ retained, event ∈ (backfill relay).2) ∧
      ((backfill relay).1 = .capped →
        Turned retained .start maxPages (cursors relay) (backfill relay).2) := by
  have answers : 0 < clamp := by
    have room := sparse 0
    omega
  have reached := walkFrom_reaches unique answers pages maxPages .start .start
  have turned := walkFrom_turned unique pages maxPages .start .start
  rw [backfill]
  generalize walkFrom relay maxPages .start = reaches at reached turned ⊢
  cases reached with
  | exhausted last progress all => exact ⟨progress.nodup, fun _ => all, turned⟩
  | capped last progress => exact ⟨progress.nodup, fun early => absurd rfl early, turned⟩
  | stalled last progress stall =>
      obtain ⟨second, events, cursor, newest, pinned, queued⟩ := stall
      obtain ⟨nodup, keeps⟩ := viaNegentropy_keeps relay progress.toTidy
      refine ⟨nodup, fun _ event member => keeps event ?_, turned⟩
      -- the stalled page is of one second, which does not fill it
      have short : events.length < min pageLimit clamp := by
        refine lt_of_le_of_lt ?_ (sparse second)
        rw [← List.toFinset_card_of_nodup newest.nodup]
        refine Finset.card_le_card fun event member => Finset.mem_filter.mpr ?_
        have here := List.mem_toFinset.mp member
        exact ⟨(mem_upTo.mp (newest.subset event here)).1, pinned event here⟩
      exact progress.complete (cursor ▸ newest.all short) (fun _ member => member) queued event member

/-- Three events of three seconds, behind a clamp of two. -/
theorem backfill_complete_clamped :
    let held : List Event := [⟨1, 30⟩, ⟨2, 20⟩, ⟨3, 10⟩]
    let relay := { serving held 2 with reconcile := fun _ => none }
    ((backfill relay).2.map Event.id).Nodup ∧ (backfill relay).1 ≠ .capped ∧
      ∀ event ∈ held.toFinset, event ∈ (backfill relay).2 := by
  intro held relay
  have sparse : ∀ second,
      (held.toFinset.filter fun event => event.createdAt = second).card < min pageLimit 2 := by
    intro second
    have one : (held.toFinset.filter fun event => event.createdAt = second).card ≤ 1 := by
      refine Finset.card_le_one.mpr fun first here other there => ?_
      obtain ⟨member, time⟩ := Finset.mem_filter.mp here
      obtain ⟨also, same⟩ := Finset.mem_filter.mp there
      have apart : ∀ one ∈ held.toFinset, ∀ other ∈ held.toFinset,
          one.createdAt = other.createdAt → one = other := by decide
      exact apart first member other also (time.trans same.symm)
    exact lt_of_le_of_lt one (by decide)
  have early : (backfill relay).1 ≠ .capped := by decide +kernel
  obtain ⟨nodup, complete, -⟩ := @backfill_complete held.toFinset 2 relay (by decide)
    (serving_pages (by decide) (by decide) 2) sparse
  exact ⟨nodup, early, complete early⟩

/-! ### An overflow is recovered -/

/-- What an answer to exact ids holds. -/
theorem answered_iff (ids : ServesIds retained clamp relay) {piece : List ℕ} {number : ℕ}
    {event : Event} (answered : some event ∈ relay.fetchIds number piece) :
    event ∈ among retained piece := by
  obtain ⟨events, answer, newest⟩ := ids number piece
  rw [answer] at answered
  obtain ⟨other, member, same⟩ := List.mem_map.mp answered
  exact newest.subset event (Option.some.inj same ▸ member)

/-- A chunk of missing ids asks for as many events. -/
theorem Lacks.card_chunk {items : List Event} {missing : List ℕ} (lacks : Lacks retained items missing)
    (unique : Set.InjOn Event.id retained) {piece : List ℕ}
    (member : piece ∈ chunks idChunkLimit missing) :
    (∀ id ∈ piece, id ∈ missing) ∧ (among retained piece).card = piece.length := by
  have whole := flatten_chunks (by decide : 0 < idChunkLimit) missing
  have within : ∀ id ∈ piece, id ∈ missing := fun id here =>
    whole ▸ List.mem_flatten.mpr ⟨piece, member, here⟩
  refine ⟨within, card_among unique ?_ fun id here => ((lacks.names id).mp (within id here)).1⟩
  have nodup := lacks.nodup
  rw [← whole] at nodup
  exact (List.nodup_flatten.mp nodup).1 piece member

section Fetch

variable {missing : List ℕ} (lacks : Lacks retained walk.localItems missing)
  (unique : Set.InjOn Event.id retained) (ids : ServesIds retained clamp relay)
include lacks unique ids

/-- If all the missing events come in, no chunk was clamped: the first is the longest, and none of its
ids comes in elsewhere. -/
theorem unclamped_of_fetched
    (all : ∀ event ∈ retained,
      event ∈ (fetchChunks relay 0 (chunks idChunkLimit missing) walk).localItems) :
    min idChunkLimit missing.length ≤ clamp := by
  by_cases none : missing = []
  · rw [none, List.length_nil]
    omega
  obtain ⟨rest, split⟩ := head_chunks idChunkLimit none
  obtain ⟨within, card⟩ := lacks.card_chunk unique (split ▸ List.mem_cons_self)
  obtain ⟨events, answer, newest⟩ := ids 0 (missing.take idChunkLimit)
  rw [← List.length_take, ← card, ← newest.all_iff]
  intro event member
  obtain ⟨here, asked⟩ := mem_among.mp member
  have queued := all event here
  rw [split] at queued
  rcases mem_of_mem_fetchChunks 1 rest queued with earlier | later
  · rcases mem_of_mem_foldl _ earlier with before | answered
    · have known : event.id ∈ walk.localItems.map Event.id := List.mem_map_of_mem before
      exact absurd known ((lacks.names event.id).mp (within event.id asked)).2
    · rw [answer] at answered
      obtain ⟨other, there, equal⟩ := List.mem_map.mp answered
      exact Option.some.inj equal ▸ there
  · obtain ⟨number, piece, there, answered⟩ := later
    have again := (mem_among.mp (answered_iff ids answered)).2
    have nodup := lacks.nodup
    rw [← flatten_chunks (by decide : 0 < idChunkLimit) missing, split, List.flatten_cons] at nodup
    exact absurd rfl ((List.nodup_append.mp nodup).2.2 event.id asked event.id
      (List.mem_flatten.mpr ⟨piece, there, again⟩))

/-- If no chunk is clamped, all the missing events come in. -/
theorem fetched_of_unclamped (tidy : Tidy walk) (room : min idChunkLimit missing.length ≤ clamp)
    {event : Event} (member : event ∈ retained) :
    event.id ∈ (fetchChunks relay 0 (chunks idChunkLimit missing) walk).localItems.map Event.id := by
  by_cases known : event.id ∈ walk.localItems.map Event.id
  · obtain ⟨other, queued, equal⟩ := List.mem_map.mp known
    exact equal ▸ List.mem_map_of_mem (mem_fetchChunks_of_mem 0 _ queued)
  · have lacking : event.id ∈ missing := (lacks.names event.id).mpr ⟨⟨event, member, rfl⟩, known⟩
    rw [← flatten_chunks (by decide : 0 < idChunkLimit) missing] at lacking
    obtain ⟨piece, there, asked⟩ := List.mem_flatten.mp lacking
    refine id_mem_fetchChunks tidy 0 there fun number => ?_
    obtain ⟨events, answer, newest⟩ := ids number piece
    rw [answer]
    refine List.mem_map_of_mem (newest.all_iff.mpr ?_ event (mem_among.mpr ⟨member, asked⟩))
    rw [(lacks.card_chunk unique there).2]
    exact (length_le_of_mem_chunks there).trans room

end Fetch

/-- The exact ids bring in all that is missing exactly if no chunk of them is clamped. -/
theorem fetchChunks_recovers (walk : Walk) (unique : Set.InjOn Event.id retained)
    (ids : ServesIds retained clamp relay) {missing : List ℕ}
    (kept : ∀ event ∈ walk.localItems, event ∈ retained)
    (lacks : Lacks retained walk.localItems missing) (tidy : Tidy walk) :
    (∀ event ∈ (fetchChunks relay 0 (chunks idChunkLimit missing) walk).localItems,
        event ∈ retained) ∧
      ((∀ event ∈ retained,
          event ∈ (fetchChunks relay 0 (chunks idChunkLimit missing) walk).localItems) ↔
        min idChunkLimit missing.length ≤ clamp) := by
  have after : ∀ event ∈ (fetchChunks relay 0 (chunks idChunkLimit missing) walk).localItems,
      event ∈ retained := by
    intro event member
    rcases mem_of_mem_fetchChunks 0 _ member with earlier | ⟨number, piece, _, answered⟩
    · exact kept event earlier
    · exact (mem_among.mp (answered_iff ids answered)).1
  refine ⟨after, unclamped_of_fetched lacks unique ids, fun room event member => ?_⟩
  obtain ⟨other, queued, equal⟩ :=
    List.mem_map.mp (fetched_of_unclamped lacks unique ids tidy room member)
  exact unique (after other queued) member equal ▸ queued

/-- **A backfill queues every retained event, each once, exactly if the relay's limit lets the exact
ids through** that were missing at a stall: as many as there are, or a chunk of them. -/
theorem backfill_recovers (unique : Set.InjOn Event.id retained) (answers : 0 < clamp)
    (pages : ServesPages retained clamp relay) (ids : ServesIds retained clamp relay)
    (truthful : Truthful retained relay) :
    ((backfill relay).2.map Event.id).Nodup ∧ (∀ event ∈ (backfill relay).2, event ∈ retained) ∧
      ((backfill relay).1 ≠ .capped →
        ((∀ event ∈ retained, event ∈ (backfill relay).2) ↔
          ∀ missing, (backfill relay).1 = .reconciled missing →
            min idChunkLimit missing.length ≤ clamp)) ∧
      ((backfill relay).1 = .capped →
        Turned retained .start maxPages (cursors relay) (backfill relay).2) := by
  have reached := walkFrom_reaches unique answers pages maxPages .start .start
  have turned := walkFrom_turned unique pages maxPages .start .start
  rw [backfill]
  generalize walkFrom relay maxPages .start = reaches at reached turned ⊢
  cases reached with
  | exhausted last progress all =>
      refine ⟨progress.nodup, progress.kept, fun _ => ⟨fun _ missing ended => ?_, fun _ => all⟩, turned⟩
      cases (ended : Ending.exhausted = .reconciled missing)
  | capped last progress =>
      exact ⟨progress.nodup, progress.kept, fun early => absurd rfl early, turned⟩
  | stalled last progress stall =>
      obtain ⟨missing, answer, lacks⟩ := truthful last.localItems
      obtain ⟨kept, recovers⟩ := fetchChunks_recovers
        { last with seenIds := (last.localItems.map Event.id).toFinset }
        unique ids progress.kept lacks progress.toTidy.seeded
      rw [viaNegentropy, answer] at turned ⊢
      refine ⟨(progress.toTidy.seeded.fetchChunks _ _).nodup, kept,
        fun _ => recovers.trans ⟨?_, ?_⟩, turned⟩
      · rintro room _ ⟨⟩
        exact room
      · exact fun room => room missing rfl

/-- Three events of one second, behind a clamp of two. -/
theorem backfill_recovers_clamped :
    let held : List Event := [⟨1, 30⟩, ⟨2, 30⟩, ⟨3, 30⟩]
    let relay := serving held 2
    ((backfill relay).2.map Event.id).Nodup ∧ (backfill relay).1 = .reconciled [3] ∧
      ∀ event, event ∈ (backfill relay).2 ↔ event ∈ held.toFinset := by
  intro held relay
  have ended : (backfill relay).1 = .reconciled [3] := by decide +kernel
  have truthful : Truthful held.toFinset relay := serving_truthful (by decide) 2
  obtain ⟨nodup, kept, recovers, -⟩ := backfill_recovers (by decide) (by decide)
    (serving_pages (by decide) (by decide) 2) (serving_ids (by decide) (by decide) 2) truthful
  refine ⟨nodup, ended, fun event => ⟨kept event, ?_⟩⟩
  refine (recovers (by rw [ended]; exact nofun)).mpr (fun missing same => ?_) event
  cases ended.symm.trans same
  decide

/-- Behind a clamp of one, two of them are missing at the stall, and their chunk is clamped. -/
theorem clamped_ids_lost :
    ∃ (retained : Finset Event) (clamp : ℕ) (relay : Relay), Set.InjOn Event.id retained ∧
      1 ≤ clamp ∧ ServesPages retained clamp relay ∧ ServesIds retained clamp relay ∧
      Truthful retained relay ∧ (backfill relay).1 ≠ .capped ∧
      ¬ ∀ event ∈ retained, event ∈ (backfill relay).2 := by
  refine ⟨[⟨1, 30⟩, ⟨2, 30⟩, ⟨3, 30⟩].toFinset, 1, serving [⟨1, 30⟩, ⟨2, 30⟩, ⟨3, 30⟩] 1,
    by decide, by decide, serving_pages (by decide) (by decide) 1,
    serving_ids (by decide) (by decide) 1, serving_truthful (by decide) 1, ?_, ?_⟩
  · decide +kernel
  · decide +kernel

end Lnrent.Backfill
