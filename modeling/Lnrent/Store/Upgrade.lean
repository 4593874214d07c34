/-
**Every database is brought up to date.** A database as some release left it:

* `shape`, `factsAt`, `Released` — what is there at its version; columns that later migrations add may
  be there already, in any combination, and so may later tables;
* `Upgraded` — every row of every table is kept, but for the deadlines that migration 10 clears;
* `applyOneMigration_ok` — **every migration goes through** from where it starts;
* `open_heals` — **after any number of failed opens the next one succeeds**, and no row is lost.
-/

import Lnrent.Daemon.Migrations

namespace Lnrent.Migrations

open Relational Ddl

/-! ### What is there at a version -/

/-- The columns that are added to tables that were there. -/
def addedColumns : List NewColumn :=
  [("subscription", "suspend_not_before", .null)] ++ refundResolutionColumns ++
    [("invoice", "received_msat", .null)] ++ migrationFenceColumns

/-- The default of an added column. -/
def blank (table column : String) : Datum :=
  ((addedColumns.find? fun new => new.1 = table ∧ new.2.1 = column).map fun new => new.2.2).getD .null

/-- The statements that create tables. -/
def created : List Statement := migrations.flatten ++ backendSchema true

/-- The columns of a table as it is created. -/
def createdColumns (table : String) : List String :=
  (created.findSome? fun statement =>
    match statement with
    | .createTable name columns => if name = table then some columns else none
    | _ => none).getD []

/-- **The columns every release gave a table.** -/
def shape (table : String) : List String :=
  (createdColumns table).filter fun column =>
    addedColumns.all fun new => ¬ (new.1 = table ∧ new.2.1 = column)

/-- What is there at a version: what the migrations before it leave. -/
def factsAt (version : ℕ) : List Fact :=
  (migrations.take version).flatMap (fun batch => batch.flatMap (Statement.gains shape)) ++
    if version = 12 then migrationFenceColumns.map NewColumn.fact else []

/-- **A database as some release left it.** -/
structure Released (database : Database) : Prop where
  shaped : Shaped shape database
  least : 0 ≤ database.version
  most : database.version ≤ schemaVersion
  known : Knows database (factsAt database.version.toNat)

/-- **A database of this release**: everything that a statement names is there, and the fences. -/
structure Current (fedimint : Bool) (database : Database) : Prop where
  version : database.version = schemaVersion
  names : Knows database ((migrations.flatten ++ backendSchema fedimint).flatMap Statement.names)
  fences : Knows database (migrationFenceColumns.map NewColumn.fact)

/-! ### What an upgrade keeps -/

/-- The row of a table after the deadlines are cleared. -/
def mended (cleared : Bool) (table : String) (row : Tuple) : Tuple :=
  if cleared = true ∧ table = "subscription" then clearCursor row else row

/-- How a row reads after an upgrade. -/
structure Mended (cleared : Bool) (table : String) (columns wider : List String) (old new : Tuple) :
    Prop where
  kept : ∀ column ∈ columns, new column = mended cleared table old column
  filled : ∀ column ∈ wider, column ∉ columns → new column = blank table column

/-- **What an upgrade keeps.** -/
abbrev Upgraded (cleared : Bool) : Database → Database → Prop := Carried (Mended cleared)

theorem clearCursor_congr {columns : List String} {old new : Tuple}
    (state : "state" ∈ columns) (cursor : "next_deadline" ∈ columns)
    (same : ∀ column ∈ columns, new column = old column) :
    ∀ column ∈ columns, clearCursor new column = clearCursor old column := by
  intro column member
  have stale : withoutDeadline new = withoutDeadline old := by
    unfold withoutDeadline
    rw [same _ state]
  unfold clearCursor
  rw [stale, same _ cursor]
  split_ifs
  · show (if column = "next_deadline" then Datum.null else new column) =
      if column = "next_deadline" then Datum.null else old column
    rw [same column member]
  · exact same column member

theorem clearCursor_other (row : Tuple) {column : String} (other : column ≠ "next_deadline") :
    clearCursor row column = row column := by
  unfold clearCursor
  split_ifs
  · exact if_neg other
  · rfl

theorem clearCursor_twice (row : Tuple) : clearCursor (clearCursor row) = clearCursor row := by
  by_cases stale : withoutDeadline row ∧ row "next_deadline" ≠ .null
  · have once : clearCursor row = row.with "next_deadline" .null := if_pos stale
    rw [once]
    exact if_neg fun again => again.2 (if_pos rfl)
  · have once : clearCursor row = row := if_neg stale
    rw [once, once]

theorem subscription_shape : "state" ∈ shape "subscription" ∧ "next_deadline" ∈ shape "subscription" := by
  decide +kernel

section Upgraded

variable {before middle after : Database} {first second : Bool}

theorem Upgraded.of_kept (kept : Kept blank before after) : Upgraded false before after := by
  intro table relation found
  obtain ⟨wider, there, grows, rows⟩ := kept table relation found
  exact ⟨wider, there, grows, rows.imp fun _ _ same => ⟨same.kept, same.filled⟩⟩

theorem Upgraded.trans (shaped : Shaped shape before) (early : Upgraded first before middle)
    (late : Upgraded second middle after) : Upgraded (first || second) before after := by
  refine Carried.trans shaped early late ?_
  intro table columns wide wider formed grows old middle new one two
  by_cases own : table = "subscription"
  · subst own
    have state := formed subscription_shape.1
    have cursor := formed subscription_shape.2
    have middle_ : ∀ column ∈ columns, mended second "subscription" middle column =
        mended (first || second) "subscription" old column := by
      cases second with
      | false =>
          intro column member
          rw [Bool.or_false]
          exact one.kept column member
      | true =>
          rw [Bool.or_true]
          have once := clearCursor_congr state cursor one.kept
          intro column member
          refine (once column member).trans ?_
          cases first with
          | false => rfl
          | true => exact congrFun (clearCursor_twice old) column
    refine ⟨fun column member => ?_, fun column member fresh => ?_⟩
    · exact (two.kept column (grows member)).trans (middle_ column member)
    · by_cases known : column ∈ wide
      · refine (two.kept column known).trans (Eq.trans ?_ (one.filled column known fresh))
        unfold mended
        split_ifs
        · exact clearCursor_other middle fun same => fresh (same ▸ cursor)
        · rfl
      · exact two.filled column member known
  · have plain (cleared : Bool) (row : Tuple) : mended cleared table row = row :=
      if_neg fun both => own both.2
    refine ⟨fun column member => ?_, fun column member fresh => ?_⟩
    · refine (two.kept column (grows member)).trans ?_
      rw [plain, plain, one.kept column member, plain]
    · by_cases known : column ∈ wide
      · refine (two.kept column known).trans ?_
        rw [plain]
        exact one.filled column known fresh
      · exact two.filled column member known

end Upgraded

/-! ### One migration -/

/-- What is there after a step, from what was there before it. -/
structure Reaches (before after : Database) (cleared : Bool) (reached : ℕ) : Prop where
  shaped : Shaped shape after
  version : after.version = reached
  known : Knows after (factsAt reached)
  rows : Upgraded cleared before after

section Step

variable {before : Database} {current : ℕ} {batch : List Statement}

/-- What is there after a migration: what was there, and what its statements leave. -/
theorem factsAt_next {gained : List Fact} (found : migrations[current]? = some batch)
    (own : ∀ fact ∈ batch.flatMap (Statement.gains shape), fact ∈ gained)
    (fences : current = 11 → ∀ fact ∈ migrationFenceColumns.map NewColumn.fact, fact ∈ gained) :
    ∀ fact ∈ factsAt (current + 1), fact ∈ factsAt current ++ gained := by
  intro fact member
  unfold factsAt at member ⊢
  rw [List.take_add_one, found, List.flatMap_append] at member
  rcases List.mem_append.mp member with stated | fenced
  · rcases List.mem_append.mp stated with earlier | now
    · exact List.mem_append_left _ (List.mem_append_left _ earlier)
    · rw [Option.toList_some, List.flatMap_singleton] at now
      exact List.mem_append_right _ (own fact now)
  · split_ifs at fenced with last
    · exact List.mem_append_right _ (fences (Nat.succ.inj last) fact fenced)
    · exact absurd fenced List.not_mem_nil

/-- A version bump. -/
theorem Reaches.bump {middle : Database} {gained : List Fact}
    (advances : Advances shape blank before middle gained)
    (known : Knows before (factsAt current))
    (next : ∀ fact ∈ factsAt (current + 1), fact ∈ factsAt current ++ gained) :
    Reaches before (bump middle current) false (current + 1) where
  shaped := advances.shaped
  version := rfl
  known := fun fact member =>
    ((advances.knows known).append advances.gains) fact (next fact member)
  rows := Upgraded.of_kept (advances.kept.of_tables rfl)

/-- A batch that executes is applied. -/
theorem applyOneMigration_executed {after : Database}
    (needed : ¬ (current = 2 ∧ hasColumn before "subscription" "suspend_not_before" = true))
    (unfenced : current ≠ 11) (executed : execBatch before batch = (after, none)) :
    applyOneMigration before batch current = .ok (bump after current) := by
  have kept : (current == 2 && hasColumn before "subscription" "suspend_not_before") = false := by
    rw [Bool.eq_false_iff]
    intro both
    rw [Bool.and_eq_true, beq_iff_eq] at both
    exact needed both
  simp only [applyOneMigration, if_neg unfenced, kept, Bool.false_eq_true, if_false, executed]

/-- **A migration that creates tables and indexes.** -/
theorem plain_ok (found : migrations[current]? = some batch)
    (ordinary : current ≠ 2 ∧ current ≠ 11) (covered : Covered shape (factsAt current) batch)
    (shaped : Shaped shape before) (known : Knows before (factsAt current)) :
    ∃ after, applyOneMigration before batch current = .ok after ∧
      Reaches before after false (current + 1) := by
  obtain ⟨after, executed, advances⟩ := execBatch_covered batch _ before covered shaped known
  exact ⟨bump after current,
    applyOneMigration_executed (fun both => ordinary.1 both.1) ordinary.2 executed,
    .bump advances known
      (factsAt_next found (fun _ member => member) fun last => absurd last ordinary.2)⟩

/-- The columns to add have their tables, and their defaults. -/
theorem ready_columns {news : List NewColumn} {facts : List Fact} (known : Knows before facts)
    (ready : ∀ new ∈ news, .table new.1 ∈ facts ∧ new.2.2 = blank new.1 new.2.1) :
    ∀ new ∈ news, (before.tables.row new.1).isSome ∧ new.Plain blank :=
  fun new member => ⟨known _ (ready new member).1, (ready new member).2⟩

/-- Migration 3 adds its column, or leaves the one that is there. -/
theorem m3_ok (shaped : Shaped shape before) (known : Knows before (factsAt 2)) :
    ∃ after, applyOneMigration before m3SuspendNotBefore 2 = .ok after ∧
      Reaches before after false 3 := by
  have next : ∀ fact ∈ factsAt 3,
      fact ∈ factsAt 2 ++ [.column "subscription" "suspend_not_before"] :=
    factsAt_next (rfl : migrations[2]? = some m3SuspendNotBefore) (fun _ member => member)
      fun last => by cases last
  have table : (before.tables.row "subscription").isSome :=
    known (.table "subscription") (by decide +kernel)
  have plain : Datum.null = blank "subscription" "suspend_not_before" := by decide +kernel
  by_cases there : "suspend_not_before" ∈ before.columns "subscription"
  · have skips : hasColumn before "subscription" "suspend_not_before" = true :=
      decide_eq_true there
    refine ⟨bump before 2, by simp [applyOneMigration, skips], .bump ?_ known next⟩
    exact { Advances.refl shaped with gains := List.forall_mem_singleton.mpr there }
  · have needed : hasColumn before "subscription" "suspend_not_before" = false :=
      decide_eq_false there
    rcases exec_addColumn shaped table plain with ⟨after, executed, advances⟩ | ⟨-, known'⟩
    · have ran : execBatch before m3SuspendNotBefore = (after, none) := by
        simp only [m3SuspendNotBefore, execBatch, executed]
      refine ⟨bump after 2, applyOneMigration_executed (fun both => ?_) (by decide) ran,
        .bump advances known next⟩
      exact absurd (needed.symm.trans both.2) (by decide)
    · exact absurd known' there

/-- Migration 4 adds its columns; where it stops at one that is there, the missing ones are added one
by one. -/
theorem m4_ok (shaped : Shaped shape before) (known : Knows before (factsAt 3)) :
    ∃ after, applyOneMigration before m4RefundResolution 3 = .ok after ∧
      Reaches before after false 4 := by
  have next : ∀ fact ∈ factsAt 4, fact ∈ factsAt 3 ++
      refundResolutionColumns.map NewColumn.fact :=
    factsAt_next (rfl : migrations[3]? = some m4RefundResolution) (fun _ member => member)
      fun last => by cases last
  have ready : ∀ new ∈ refundResolutionColumns,
      .table new.1 ∈ factsAt 3 ∧ new.2.2 = blank new.1 new.2.1 := by decide +kernel
  have duplicate : ∀ new ∈ refundResolutionColumns,
      isDuplicateRefundResolution (.duplicateColumn new.2.1) = true := by decide +kernel
  obtain ⟨middle, outcome, executed, advances, result⟩ :=
    execBatch_addColumns refundResolutionColumns before shaped (ready_columns known ready)
  rcases result with ⟨rfl, gained⟩ | ⟨new, member, rfl, -⟩
  · refine ⟨bump middle 3, applyOneMigration_executed (fun both => by cases both.1) (by decide)
      executed, .bump { advances with gains := gained } known next⟩
  · obtain ⟨after, ensured, healed⟩ := ensureColumns_ok refundResolutionColumns middle
      advances.shaped (ready_columns (advances.knows known) ready)
    refine ⟨bump after 3, ?_, .bump (advances.trans healed) known next⟩
    have heals := duplicate new member
    simp [applyOneMigration, m4RefundResolution, executed, heals, ensured]

/-- Migration 10 clears the deadlines that are left over. -/
theorem m10_ok (shaped : Shaped shape before) (known : Knows before (factsAt 9)) :
    ∃ after, applyOneMigration before m10ClearStaleDeadlineCursors 9 = .ok after ∧
      Reaches before after true 10 := by
  have next : ∀ fact ∈ factsAt 10, fact ∈ factsAt 9 ++ [] :=
    factsAt_next (rfl : migrations[9]? = some m10ClearStaleDeadlineCursors) (fun _ member => member)
      fun last => by cases last
  have table : (before.tables.row "subscription").isSome :=
    known (.table "subscription") (by decide +kernel)
  obtain ⟨relation, found⟩ := Option.isSome_iff_exists.mp table
  have formed := shaped _ relation found
  have reads : ["state", "next_deadline"] ⊆ relation.columns := by
    intro column member
    rcases List.mem_cons.mp member with rfl | member
    · exact formed subscription_shape.1
    · obtain rfl := List.mem_singleton.mp member
      exact formed subscription_shape.2
  have rows : Upgraded true before (before.store "subscription" (relation.change clearCursor)) := by
    intro other old there
    by_cases same : other = "subscription"
    · subst same
      obtain rfl := Option.some.inj (there.symm.trans found)
      refine ⟨_, Table.put_row_self _ _ _, fun _ member => member, ?_⟩
      refine List.forall₂_map_right_iff.mpr (List.forall₂_same.mpr fun row _ => ⟨?_, ?_⟩)
      · exact fun column _ => congrFun (if_pos ⟨rfl, rfl⟩).symm column
      · exact fun column member fresh => absurd member fresh
    · obtain ⟨wider, still, grows, kept⟩ := Kept.refl blank before other old there
      refine ⟨wider, (Table.put_row_other _ _ same).trans still, grows, kept.imp fun row new both => ?_⟩
      have plain : mended true other row = row := if_neg fun own => same own.2
      exact ⟨fun column member => (both.kept column member).trans (congrFun plain column).symm,
        both.filled⟩
  have ran : execBatch before m10ClearStaleDeadlineCursors =
      (before.store "subscription" (relation.change clearCursor), none) := by
    simp only [m10ClearStaleDeadlineCursors, execBatch, exec, found, if_pos reads]
  have bumped : Upgraded true before
      (bump (before.store "subscription" (relation.change clearCursor)) 9) := rows.of_tables rfl
  refine ⟨_, applyOneMigration_executed (fun both => by cases both.1) (by decide) ran, ?_, rfl,
    fun fact member => ?_, bumped⟩
  · refine bumped.shaped (fun other wide absent there => ?_) shaped
    by_cases same : other = "subscription"
    · subst same
      exact absurd (found.symm.trans absent) (Option.some_ne_none _)
    · have missing := (Table.put_row_other before.tables (relation.change clearCursor) same).trans absent
      exact absurd (there.symm.trans missing) (Option.some_ne_none _)
  · rw [List.append_nil] at next
    exact bumped.knows (fun _ index => index) known fact (next fact member)

/-- Migration 11 adds its column, or finds it there. -/
theorem m11_ok (shaped : Shaped shape before) (known : Knows before (factsAt 10)) :
    ∃ after, applyOneMigration before m11InvoiceReceivedMsat 10 = .ok after ∧
      Reaches before after false 11 := by
  have next : ∀ fact ∈ factsAt 11,
      fact ∈ factsAt 10 ++ [.column "invoice" "received_msat"] :=
    factsAt_next (rfl : migrations[10]? = some m11InvoiceReceivedMsat) (fun _ member => member)
      fun last => by cases last
  have table : (before.tables.row "invoice").isSome :=
    known (.table "invoice") (by decide +kernel)
  have plain : Datum.null = blank "invoice" "received_msat" := by decide +kernel
  rcases exec_addColumn shaped table plain with ⟨after, executed, advances⟩ | ⟨executed, there⟩
  · have ran : execBatch before m11InvoiceReceivedMsat = (after, none) := by
      simp only [m11InvoiceReceivedMsat, execBatch, executed]
    exact ⟨bump after 10, applyOneMigration_executed (fun both => by cases both.1) (by decide) ran,
      .bump advances known next⟩
  · have ran : execBatch before m11InvoiceReceivedMsat =
        (before, some (.duplicateColumn "received_msat")) := by
      simp only [m11InvoiceReceivedMsat, execBatch, executed]
    have duplicate : isDuplicateReceivedMsat (.duplicateColumn "received_msat") = true := by
      decide +kernel
    have has : hasColumn before "invoice" "received_msat" = true := decide_eq_true there
    refine ⟨bump before 10, by simp [applyOneMigration, ran, duplicate, has], .bump ?_ known next⟩
    exact { Advances.refl shaped with gains := List.forall_mem_singleton.mpr there }

/-- Migration 12 fences what was in flight, and creates the marker. -/
theorem m12_ok (shaped : Shaped shape before) (known : Knows before (factsAt 11)) :
    ∃ after, applyOneMigration before m12FenceAndMarker 11 = .ok after ∧
      Reaches before after false 12 := by
  have next : ∀ fact ∈ factsAt 12, fact ∈ factsAt 11 ++
      ((migrationFenceColumns.map NewColumn.fact) ++
        m12FenceAndMarker.flatMap (Statement.gains shape)) :=
    factsAt_next (rfl : migrations[11]? = some m12FenceAndMarker) (fun _ => List.mem_append_right _)
      fun _ _ => List.mem_append_left _
  have ready : ∀ new ∈ migrationFenceColumns,
      .table new.1 ∈ factsAt 11 ∧ new.2.2 = blank new.1 new.2.1 := by decide +kernel
  have covered : Covered shape (factsAt 11) m12FenceAndMarker := by decide +kernel
  obtain ⟨fenced, ensured, advances⟩ :=
    ensureColumns_ok migrationFenceColumns before shaped (ready_columns known ready)
  obtain ⟨after, executed, later⟩ :=
    execBatch_covered m12FenceAndMarker _ fenced covered advances.shaped (advances.knows known)
  exact ⟨bump after 11, by simp [applyOneMigration, ensured, executed],
    .bump (advances.trans later) known next⟩

end Step

/-- **Every migration goes through** from where it starts. -/
theorem applyOneMigration_ok {before : Database} {current : ℕ} {batch : List Statement}
    (found : migrations[current]? = some batch) (shaped : Shaped shape before)
    (known : Knows before (factsAt current)) :
    ∃ after, applyOneMigration before batch current = .ok after ∧
      Reaches before after (decide (current = 9)) (current + 1) := by
  have bound : current < 12 := (List.getElem?_eq_some_iff.mp found).1
  interval_cases current <;> have same := Option.some.inj found <;> subst same
  · exact plain_ok found (by decide) (by decide +kernel) shaped known
  · exact plain_ok found (by decide) (by decide +kernel) shaped known
  · exact m3_ok shaped known
  · exact m4_ok shaped known
  · exact plain_ok found (by decide) (by decide +kernel) shaped known
  · exact plain_ok found (by decide) (by decide +kernel) shaped known
  · exact plain_ok found (by decide) (by decide +kernel) shaped known
  · exact plain_ok found (by decide) (by decide +kernel) shaped known
  · exact plain_ok found (by decide) (by decide +kernel) shaped known
  · exact m10_ok shaped known
  · exact m11_ok shaped known
  · exact m12_ok shaped known

/-! ### The loop -/

/-- Migration 10 lies between the two versions. -/
def crosses (earlier later : ℤ) : Bool := decide (earlier ≤ 9 ∧ 9 < later)

theorem crosses_trans {first second third : ℤ} (early : first ≤ second) (late : second ≤ third) :
    (crosses first second || crosses second third) = crosses first third := by
  unfold crosses
  rw [← Bool.decide_or, decide_eq_decide]
  omega

theorem crosses_next (current : ℕ) : crosses current (current + 1) = decide (current = 9) := by
  unfold crosses
  rw [decide_eq_decide]
  omega

theorem crosses_same (version : ℤ) : crosses version version = false := by
  unfold crosses
  rw [decide_eq_false_iff_not]
  omega

/-- **What a run of migrations leaves**: a database some release could have left, with every row; it
stops for nothing but a disturbance. -/
structure Leaves (before : Database) (result : Database × Option OpenError) : Prop where
  released : Released result.1
  forward : before.version ≤ result.1.version
  rows : Upgraded (crosses before.version result.1.version) before result.1
  outside : ∀ fault, result.2 ≠ some (.fault fault)

theorem Leaves.refl {before : Database} (released : Released before) {error : Option OpenError}
    (outside : ∀ fault, error ≠ some (.fault fault)) : Leaves before (before, error) where
  released := released
  forward := le_rfl
  rows := by
    rw [crosses_same]
    exact .of_kept (.refl blank before)
  outside := outside

theorem applyFrom_leaves (disturbed : ℕ → Bool) (rest : List (List Statement)) :
    ∀ (current : ℕ) (before : Database), migrations.drop current = rest → Released before →
      before.version = current →
      Leaves before (applyFrom disturbed current rest before) ∧
        ((∀ index, disturbed index = false) →
          (applyFrom disturbed current rest before).2 = none ∧
            (applyFrom disturbed current rest before).1.version = schemaVersion) := by
  induction rest with
  | nil =>
      intro current before done released version
      refine ⟨.refl released fun _ => (Option.some_ne_none _).symm, fun _ => ⟨rfl, ?_⟩⟩
      have all : migrations.length ≤ current := List.drop_eq_nil_iff.mp done
      refine le_antisymm released.most ?_
      show (migrations.length : ℤ) ≤ before.version
      rw [version]
      exact_mod_cast all
  | cons batch rest ih =>
      intro current before left released version
      have found : migrations[current]? = some batch := by
        have head := congrArg (fun batches => batches[0]?) left
        simpa using head
      have tail : migrations.drop (current + 1) = rest := by
        have later := congrArg List.tail left
        rwa [List.tail_drop] at later
      have bound : current < 12 := (List.getElem?_eq_some_iff.mp found).1
      by_cases stopped : disturbed current = true
      · have same : applyFrom disturbed current (batch :: rest) before =
            (before, some .interrupted) := if_pos stopped
        rw [same]
        refine ⟨.refl released fun fault same => ?_, fun quiet => ?_⟩
        · cases same
        · exact absurd (stopped.symm.trans (quiet current)) (by decide)
      · have known : Knows before (factsAt current) := by
          have known := released.known
          rwa [version, Int.toNat_natCast] at known
        obtain ⟨middle, applied, reaches⟩ := applyOneMigration_ok found released.shaped known
        have same : applyFrom disturbed current (batch :: rest) before =
            applyFrom disturbed (current + 1) rest middle := by
          simp only [applyFrom, if_neg stopped, applied]
        have next : Released middle := by
          refine ⟨reaches.shaped, ?_, ?_, ?_⟩
          · rw [reaches.version]
            exact Int.natCast_nonneg _
          · rw [reaches.version]
            show ((current + 1 : ℕ) : ℤ) ≤ (migrations.length : ℤ)
            exact_mod_cast bound
          · rw [reaches.version, Int.toNat_natCast]
            exact reaches.known
        obtain ⟨leaves, ends⟩ := ih (current + 1) middle tail next reaches.version
        rw [same]
        have step : before.version ≤ middle.version := by
          rw [version, reaches.version]
          exact_mod_cast Nat.le_succ current
        refine ⟨⟨leaves.released, step.trans leaves.forward, ?_, leaves.outside⟩, ends⟩
        have first : Upgraded (crosses before.version middle.version) before middle := by
          rw [version, reaches.version, Nat.cast_succ, crosses_next]
          exact reaches.rows
        rw [← crosses_trans step leaves.forward]
        exact first.trans released.shaped leaves.rows

/-! ### An open -/

/-- Nothing stands in the way of the open. -/
structure Opening.Undisturbed (opening : Opening) : Prop where
  file : opening.emptyFile = false
  healthy : opening.healthy = true
  migrations : ∀ index, opening.disturbed index = false
  backends : opening.ends = none

theorem covered_backends (fedimint : Bool) : Covered shape [] (backendSchema fedimint) := by
  cases fedimint <;> decide +kernel

/-- What the tables of the backends add. -/
theorem Leaves.advances {before middle after : Database} {gained : List Fact}
    {error : Option OpenError} (shaped : Shaped shape before) (leaves : Leaves before (middle, none))
    (advances : Advances shape blank middle after gained)
    (outside : ∀ fault, error ≠ some (.fault fault)) : Leaves before (after, error) where
  released := by
    have released := leaves.released
    refine ⟨advances.shaped, ?_, ?_, ?_⟩
    · rw [advances.version]
      exact released.least
    · rw [advances.version]
      exact released.most
    · rw [advances.version]
      exact advances.knows released.known
  forward := leaves.forward.trans_eq advances.version.symm
  rows := by
    have rows := Upgraded.trans shaped leaves.rows (.of_kept advances.kept)
    rw [Bool.or_false] at rows
    rwa [advances.version]
  outside := outside

theorem Released.applied {database : Database} (released : Released database)
    (disturbed : ℕ → Bool) :
    Leaves database (applyMigrations disturbed database migrations) ∧
      ((∀ index, disturbed index = false) →
        (applyMigrations disturbed database migrations).2 = none ∧
          (applyMigrations disturbed database migrations).1.version = schemaVersion) := by
  have same : applyMigrations disturbed database migrations =
      applyFrom disturbed database.version.toNat (migrations.drop database.version.toNat) database :=
    if_neg (not_lt.mpr released.least)
  rw [same]
  exact applyFrom_leaves disturbed _ _ database rfl released
    (Int.toNat_of_nonneg released.least).symm

/-- **Every open leaves** a database some release could have left, with every row. -/
theorem openState_leaves (fedimint : Bool) (opening : Opening) {database : Database}
    (released : Released database) : Leaves database (openState fedimint opening database) := by
  obtain ⟨leaves, -⟩ := released.applied opening.disturbed
  unfold openState
  split_ifs with empty unhealthy
  · exact .refl released fun _ same => by cases same
  · exact .refl released fun _ same => by cases same
  · generalize applyMigrations opening.disturbed database migrations = result at leaves
    obtain ⟨migrated, _ | error⟩ := result
    · cases opening.ends with
      | some steps =>
          obtain ⟨after, executed, advances⟩ := execBatch_covered _ _ migrated
            ((covered_backends fedimint).take _ _ steps) leaves.released.shaped
            fun _ member => absurd member List.not_mem_nil
          simp only [executed]
          exact leaves.advances released.shaped advances fun _ same => by cases same
      | none =>
          obtain ⟨after, executed, advances⟩ := execBatch_covered _ _ migrated
            (covered_backends fedimint) leaves.released.shaped
            fun _ member => absurd member List.not_mem_nil
          simp only [executed]
          exact leaves.advances released.shaped advances fun _ same => by cases same
    · exact leaves

/-- Everything a statement names, it leaves there; but for the columns that are added later. -/
theorem names_gains (fedimint : Bool) :
    ∀ statement ∈ migrations.flatten ++ backendSchema fedimint, ∀ fact ∈ statement.names,
      fact ∈ statement.gains shape ∨ fact ∈ addedColumns.map NewColumn.fact := by
  cases fedimint <;> decide +kernel

theorem added_facts : ∀ fact ∈ addedColumns.map NewColumn.fact, fact ∈ factsAt 12 := by
  decide +kernel

theorem named_facts (fedimint : Bool) :
    ∀ fact ∈ (migrations.flatten ++ backendSchema fedimint).flatMap Statement.names,
      fact ∈ factsAt 12 ++ (backendSchema fedimint).flatMap (Statement.gains shape) := by
  intro fact member
  obtain ⟨statement, stated, named⟩ := List.mem_flatMap.mp member
  rcases names_gains fedimint statement stated fact named with gained | added
  · rcases List.mem_append.mp stated with migrated | backend
    · refine List.mem_append_left _ (List.mem_append_left _ ?_)
      obtain ⟨batch, listed, own⟩ := List.mem_flatten.mp migrated
      exact List.mem_flatMap.mpr ⟨batch, listed, List.mem_flatMap.mpr ⟨statement, own, gained⟩⟩
    · exact List.mem_append_right _ (List.mem_flatMap.mpr ⟨statement, backend, gained⟩)
  · exact List.mem_append_left _ (added_facts fact added)

theorem fence_facts (fact : Fact) (member : fact ∈ migrationFenceColumns.map NewColumn.fact) :
    fact ∈ factsAt 12 := List.mem_append_right _ member

/-- A database that is up to date is left alone. -/
theorem openState_current (fedimint : Bool) {opening : Opening} (calm : opening.Undisturbed)
    {database : Database} (current : Current fedimint database) :
    openState fedimint opening database = (database, none) := by
  have applied : applyMigrations opening.disturbed database migrations = (database, none) := by
    unfold applyMigrations
    rw [current.version, if_neg (by decide)]
    rfl
  have executed : execBatch database (backendSchema fedimint) = (database, none) := by
    refine execBatch_known _ [] database (covered_backends fedimint) fun fact member => ?_
    refine current.names fact ?_
    rw [List.flatMap_append]
    exact List.mem_append_right _ member
  unfold openState
  rw [calm.file, calm.healthy, if_neg (by decide), if_neg (by decide), applied, calm.backends]
  simp only [executed]

/-- **An undisturbed open** succeeds, and brings the database up to date. -/
theorem openState_undisturbed (fedimint : Bool) {opening : Opening} (calm : opening.Undisturbed)
    {database : Database} (released : Released database) :
    (openState fedimint opening database).2 = none ∧
      Current fedimint (openState fedimint opening database).1 := by
  obtain ⟨leaves, ends⟩ := released.applied opening.disturbed
  obtain ⟨done, version⟩ := ends calm.migrations
  generalize applied : applyMigrations opening.disturbed database migrations = result
    at leaves done version
  obtain ⟨migrated, error⟩ := result
  obtain rfl : error = none := done
  replace version : migrated.version = schemaVersion := version
  have known : Knows migrated (factsAt 12) := by
    have known := leaves.released.known
    simp only [version] at known
    exact known
  obtain ⟨after, executed, advances⟩ :
      ∃ after, execBatch migrated (backendSchema fedimint) = (after, none) ∧
        Advances shape blank migrated after _ :=
    execBatch_covered _ _ migrated (covered_backends fedimint) leaves.released.shaped
      fun _ member => absurd member List.not_mem_nil
  have opened : openState fedimint opening database = (after, none) := by
    unfold openState
    rw [calm.file, calm.healthy, if_neg (by decide), if_neg (by decide), applied, calm.backends]
    simp only [executed]
  rw [opened]
  refine ⟨rfl, advances.version.trans version, fun fact member => ?_, fun fact member => ?_⟩
  · exact (advances.knows known).append advances.gains fact (named_facts fedimint fact member)
  · exact advances.knows known fact (fence_facts fact member)

/-! ### The runs -/

/-- What happens to the file: it is opened, or a table of it is rewritten. -/
inductive FileEvent where
  | opened (opening : Opening)
  | wrote (table : String) (rows : List Tuple)

/-- Other rows in a table that is there. -/
def rewriteRows (database : Database) (table : String) (rows : List Tuple) : Database :=
  match database.tables.row table with
  | some relation => database.store table { relation with rows }
  | none => database

def fileStep (fedimint : Bool) (database : Database) : FileEvent → Database
  | .opened opening => (openState fedimint opening database).1
  | .wrote table rows => rewriteRows database table rows

/-- The file after a list of events. -/
def fileAfter (fedimint : Bool) : Database → List FileEvent → Database
  | database, [] => database
  | database, event :: rest => fileAfter fedimint (fileStep fedimint database event) rest

/-- Writing rows takes nothing away that a release relies on. -/
theorem Released.rewriteRows {database : Database} (released : Released database) (table : String)
    (rows : List Tuple) : Released (rewriteRows database table rows) := by
  unfold Migrations.rewriteRows
  cases found : database.tables.row table with
  | none => exact released
  | some relation =>
      have columns (owner : String) :
          (database.store table { relation with rows }).columns owner = database.columns owner := by
        by_cases same : owner = table
        · subst same
          rw [store_columns, columns_of_row found]
        · unfold Database.columns Database.store
          rw [Table.put_row_other _ _ same]
      refine ⟨fun owner wide there => ?_, released.least, released.most, fun fact member => ?_⟩
      · have formed := columns owner
        rw [columns_of_row there] at formed
        rw [formed]
        cases before : database.tables.row owner with
        | none =>
            have different : owner ≠ table := by
              rintro rfl
              exact Option.some_ne_none _ (found.symm.trans before)
            have still := Table.put_row_other database.tables { relation with rows } different
            exact absurd (there.symm.trans (still.trans before)) (Option.some_ne_none _)
        | some old =>
            rw [columns_of_row before]
            exact released.shaped owner old before
      · have holds := released.known fact member
        cases fact with
        | table name =>
            by_cases same : name = table
            · subst same
              exact Option.isSome_iff_exists.mpr ⟨_, Table.put_row_self _ _ _⟩
            · have still := Table.put_row_other database.tables { relation with rows } same
              show ((database.tables.put table _).row name).isSome
              rw [still]
              exact holds
        | column owner name =>
            show name ∈ Database.columns _ owner
            rw [columns]
            exact holds
        | index name => exact holds

theorem Released.after (fedimint : Bool) (events : List FileEvent) :
    ∀ {database : Database}, Released database → Released (fileAfter fedimint database events) := by
  induction events with
  | nil => exact fun released => released
  | cons event rest ih =>
      intro database released
      refine ih ?_
      cases event with
      | opened opening => exact (openState_leaves fedimint opening released).released
      | wrote table rows => exact released.rewriteRows table rows

/-- **Every database is brought up to date, and no row is lost.** After any run of opens, disturbed
wherever, and of writes between them, on a database that some release left: every open keeps every
row, but for the deadlines that migration 10 clears when it is passed, and fails for no reason of its
own; one that is not disturbed succeeds with everything there that this release names, and changes
nothing when it is repeated. -/
theorem open_heals (fedimint : Bool) (database : Database) (released : Released database)
    (events : List FileEvent) (opening : Opening) :
    let file := fileAfter fedimint database events
    let result := openState fedimint opening file
    Leaves file result ∧
      (opening.Undisturbed → result.2 = none ∧ Current fedimint result.1 ∧
        openState fedimint opening result.1 = (result.1, none)) := by
  have left := released.after fedimint events
  refine ⟨openState_leaves fedimint opening left, fun calm => ?_⟩
  obtain ⟨done, current⟩ := openState_undisturbed fedimint calm left
  exact ⟨done, current, openState_current fedimint calm current⟩

theorem released_fresh : Released Database.fresh where
  shaped _ _ found := by cases found
  least := le_rfl
  most := by decide
  known _ member := absurd member List.not_mem_nil

/-- An open that ends the process before the given migration. -/
def endsAt (index : ℕ) : Opening := ⟨false, true, fun other => other == index, none⟩

/-- An open that nothing disturbs. -/
def calmOpening : Opening := ⟨false, true, fun _ => false, none⟩

/-- A refunded subscription, as an early release stored it. -/
def refundedRow : Tuple := fun column =>
  if column = "id" then .text "s" else if column = "state" then .text "REFUNDED"
  else if column = "next_deadline" then .int 100 else .null

/-- The upgrade was cut short after migration 4, and that release went on writing. -/
def halfway : List FileEvent := [.opened (endsAt 4), .wrote "subscription" [refundedRow]]

theorem open_heals_halfway :
    (fileAfter true .fresh halfway).version = 4 ∧
      (openState true calmOpening (fileAfter true .fresh halfway)).2 = none ∧
      Leaves (fileAfter true .fresh halfway)
        (openState true calmOpening (fileAfter true .fresh halfway)) := by
  obtain ⟨leaves, heals⟩ := open_heals true .fresh released_fresh halfway calmOpening
  exact ⟨by decide +kernel, (heals ⟨rfl, rfl, fun _ => rfl, rfl⟩).1, leaves⟩

example : ((openState true calmOpening (fileAfter true .fresh halfway)).1.tables.row
    "subscription").any (fun relation =>
      relation.rows.map (fun row => row "next_deadline") = [.null]) = true := by
  decide +kernel

end Lnrent.Migrations
