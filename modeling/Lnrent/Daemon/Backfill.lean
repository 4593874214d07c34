/-
**The inbound backlog of one relay** (`nostr_engine.rs`, `fetch_inbound_backlog_from_relay`). Retained
gift wraps are paged from the newest on with a backward `until` cursor; where the cursor stalls on a
full page, exact ids are reconciled.

* `Relay` — what a relay answers, request by request;
* `Walk`, `take` — what a page adds; `walkFrom` — the pages;
* `viaNegentropy` — the exact ids; `backfill` — all of it, with how it ended;
* `cursors` — the seconds its cursor moved to, one for each page that moved it.

A shutdown and a request that fails are left out; negentropy may fail.
-/

import Lnrent.Search.Paging

namespace Lnrent.Backfill

open Search

/-- A gift wrap, as the backfill sees it: `created_at` in whole seconds. -/
structure Event where
  id : ℕ
  createdAt : ℕ
deriving DecidableEq

/-- `INBOUND_BACKFILL_PAGE_LIMIT` -/
def pageLimit : ℕ := 500
/-- `INBOUND_BACKFILL_ID_CHUNK_LIMIT` -/
def idChunkLimit : ℕ := 100
/-- `INBOUND_BACKFILL_MAX_PAGES` -/
def maxPages : ℕ := 256

/-- **A relay.** An item of a stream is an event, or one that could not be read. -/
structure Relay where
  /-- The stream of page `number` for a limit and an `until`. -/
  page (number limit : ℕ) (until_ : Option ℕ) : List (Option Event)
  /-- `sync_with_items`: the ids the relay has beyond the given ones, or an error. -/
  reconcile (localItems : List Event) : Option (List ℕ)
  /-- The stream of chunk `number` of exact ids. -/
  fetchIds (number : ℕ) (ids : List ℕ) : List (Option Event)

/-- What the backfill has so far; `count` is the number of `localItems`, each of which was queued. -/
structure Walk where
  until_ : Option ℕ
  seenIds : Finset ℕ
  localItems : List Event
  observedPageLimit : ℕ

def Walk.start : Walk := ⟨none, ∅, [], 0⟩

/-- One item: an event is queued unless its id was. -/
def Walk.take (walk : Walk) : Option Event → Walk
  | none => walk
  | some event =>
      if event.id ∈ walk.seenIds then walk
      else { walk with
        seenIds := insert event.id walk.seenIds
        localItems := walk.localItems ++ [event] }

/-- The walk after a page. -/
def Walk.after (walk : Walk) (items : List (Option Event)) : Walk :=
  { items.foldl Walk.take walk with
    observedPageLimit := max walk.observedPageLimit items.length }

/-- The oldest second so far, with one more item. -/
def older (oldest : Option ℕ) : Option Event → Option ℕ
  | none => oldest
  | some event => some (oldest.elim event.createdAt (min · event.createdAt))

/-- The oldest second of a page. -/
def oldestOf (items : List (Option Event)) : Option ℕ := items.foldl older none

/-- `cursor_advanced` -/
def Advanced (until_ : Option ℕ) (oldest : ℕ) : Prop := ∀ second ∈ until_, oldest < second

instance (until_ : Option ℕ) (oldest : ℕ) : Decidable (Advanced until_ oldest) :=
  match until_ with
  | none => isTrue nofun
  | some second => decidable_of_iff (oldest < second) (by simp [Advanced])

/-- How a backfill ended. -/
inductive Ending where
  /-- A page was empty, or unreadable, or a stalled page was short. -/
  | exhausted
  /-- The ids that were reported missing were fetched. -/
  | reconciled (missing : List ℕ)
  /-- Negentropy failed. -/
  | unreconciled
  /-- All the pages were used. -/
  | capped
deriving DecidableEq

variable (relay : Relay)

/-- The chunks of exact ids, from one on. -/
def fetchChunks : ℕ → List (List ℕ) → Walk → Walk
  | _, [], walk => walk
  | number, chunk :: chunks, walk =>
      fetchChunks (number + 1) chunks ((relay.fetchIds number chunk).foldl Walk.take walk)

/-- `fetch_inbound_backlog_via_negentropy` -/
def viaNegentropy (walk : Walk) : Ending × List Event :=
  match relay.reconcile walk.localItems with
  | none => (.unreconciled, walk.localItems)
  | some missing =>
      (.reconciled missing, (fetchChunks relay 0 (chunks idChunkLimit missing)
        { walk with seenIds := (walk.localItems.map Event.id).toFinset }).localItems)

/-- The pages that are left. -/
def walkFrom : ℕ → Walk → Ending × List Event
  | 0, walk => (.capped, walk.localItems)
  | left + 1, walk =>
      let items := relay.page (maxPages - (left + 1)) pageLimit walk.until_
      let after := walk.after items
      match oldestOf items with
      | none => (.exhausted, after.localItems)
      | some oldest =>
          if Advanced walk.until_ oldest then walkFrom left { after with until_ := some oldest }
          -- the cursor stalled: a short page is the whole tail
          else if items.length < after.observedPageLimit then (.exhausted, after.localItems)
          else viaNegentropy relay after

/-- The seconds the cursor moves to, page after page. -/
def cursorsFrom : ℕ → Walk → List ℕ
  | 0, _ => []
  | left + 1, walk =>
      let after := walk.after (relay.page (maxPages - (left + 1)) pageLimit walk.until_)
      match oldestOf (relay.page (maxPages - (left + 1)) pageLimit walk.until_) with
      | none => []
      | some oldest =>
          if Advanced walk.until_ oldest then
            oldest :: cursorsFrom left { after with until_ := some oldest }
          else []

/-- **`fetch_inbound_backlog_from_relay`**: how it ended, and what it queued, in order. -/
def backfill : Ending × List Event := walkFrom relay maxPages .start

/-- The seconds of its cursor, one for each request that was followed by another page or the cap. -/
def cursors : List ℕ := cursorsFrom relay maxPages .start

end Lnrent.Backfill
