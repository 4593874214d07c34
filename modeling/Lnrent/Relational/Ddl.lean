/-
**Changing a schema.** A database is a set of named tables, the names of its indexes and a version
number. Statements create tables and indexes where they are missing, add columns and update rows; a
batch stops at the first statement that fails, and what stood before it stands.

* `Statement`, `exec`, `execBatch` — the statements;
* `Fact`, `Knows` — what is known to be there; `Advances.knows` — no statement takes it away;
* `Kept` — every row of every table is still there, in its place, and a new column has its default in
  it;
* `Covered`, `execBatch_covered` — **a batch that asks only for what is known succeeds**.
-/

import Lnrent.Relational.Table

namespace Relational.Ddl

/-! ### Databases -/

/-- What a column holds. -/
inductive Datum where
  | null
  | int (value : ℤ)
  | text (value : String)
deriving DecidableEq

/-- A row, column by column. -/
abbrev Tuple := String → Datum

/-- A table: its columns, and its rows in their order. -/
structure Relation where
  columns : List String
  rows : List Tuple

structure Database where
  tables : Table String Relation
  indexes : List String
  version : ℤ

/-- The database without anything. -/
def Database.fresh : Database := ⟨Table.empty, [], 0⟩

inductive Statement where
  /-- `CREATE TABLE IF NOT EXISTS` -/
  | createTable (table : String) (columns : List String)
  /-- `CREATE INDEX IF NOT EXISTS` -/
  | createIndex (index table : String) (columns : List String)
  /-- `ALTER TABLE … ADD COLUMN` -/
  | addColumn (table column : String) (default : Datum)
  /-- `UPDATE`, of the rows as a function; the columns it names are listed -/
  | update (table : String) (reads : List String) (change : Tuple → Tuple)

/-- Why a statement fails. -/
inductive Fault where
  | noSuchTable (table : String)
  | noSuchColumn (table : String)
  | duplicateColumn (column : String)
deriving DecidableEq

/-- A row that reads the given value in one more column. -/
def Tuple.with (row : Tuple) (column : String) (value : Datum) : Tuple :=
  fun other => if other = column then value else row other

/-- A table with one more column. -/
def Relation.widen (relation : Relation) (column : String) (default : Datum) : Relation where
  columns := relation.columns ++ [column]
  rows := relation.rows.map fun row => row.with column default

def Relation.change (relation : Relation) (change : Tuple → Tuple) : Relation :=
  { relation with rows := relation.rows.map change }

/-- The same database with one table replaced. -/
def Database.store (database : Database) (table : String) (relation : Relation) : Database :=
  { database with tables := database.tables.put table relation }

/-- **One statement.** -/
def exec (database : Database) : Statement → Except Fault Database
  | .createTable table columns =>
      match database.tables.row table with
      | some _ => .ok database
      | none => .ok (database.store table ⟨columns, []⟩)
  | .createIndex index table columns =>
      if index ∈ database.indexes then .ok database
      else
        match database.tables.row table with
        | none => .error (.noSuchTable table)
        | some relation =>
            if columns ⊆ relation.columns then
              .ok { database with indexes := index :: database.indexes }
            else .error (.noSuchColumn table)
  | .addColumn table column default =>
      match database.tables.row table with
      | none => .error (.noSuchTable table)
      | some relation =>
          if column ∈ relation.columns then .error (.duplicateColumn column)
          else .ok (database.store table (relation.widen column default))
  | .update table reads change =>
      match database.tables.row table with
      | none => .error (.noSuchTable table)
      | some relation =>
          if reads ⊆ relation.columns then .ok (database.store table (relation.change change))
          else .error (.noSuchColumn table)

/-- **A batch**: statement after statement, up to the first that fails. -/
def execBatch : Database → List Statement → Database × Option Fault
  | database, [] => (database, none)
  | database, statement :: rest =>
      match exec database statement with
      | .error fault => (database, some fault)
      | .ok next => execBatch next rest

/-! ### What is there -/

/-- The columns of a table; a table that is missing has none. -/
def Database.columns (database : Database) (table : String) : List String :=
  (database.tables.row table).elim [] Relation.columns

/-- A thing that is there. -/
inductive Fact where
  | table (name : String)
  | column (table name : String)
  | index (name : String)
deriving DecidableEq

def Fact.Holds (database : Database) : Fact → Prop
  | .table name => (database.tables.row name).isSome
  | .column owner name => name ∈ database.columns owner
  | .index name => name ∈ database.indexes

/-- All of these are there. -/
def Knows (database : Database) (facts : List Fact) : Prop := ∀ fact ∈ facts, fact.Holds database

/-- The tables that are there have at least the columns of their shape. -/
def Shaped (shape : String → List String) (database : Database) : Prop :=
  ∀ table relation, database.tables.row table = some relation → shape table ⊆ relation.columns

theorem Knows.append {database : Database} {first second : List Fact} (known : Knows database first)
    (more : Knows database second) : Knows database (first ++ second) :=
  fun fact member => (List.mem_append.mp member).elim (known fact) (more fact)

/-! ### What is kept -/

/-- **Every row of every table is carried on**, in its place, and reads as the relation of its old and
its new columns says. -/
def Carried (reads : String → List String → List String → Tuple → Tuple → Prop)
    (before after : Database) : Prop :=
  ∀ table relation, before.tables.row table = some relation →
    ∃ wider, after.tables.row table = some wider ∧ relation.columns ⊆ wider.columns ∧
      List.Forall₂ (reads table relation.columns wider.columns) relation.rows wider.rows

/-- The new row reads as the old one in the old columns, and as the defaults in the new ones. -/
structure Same (blank : String → String → Datum) (table : String) (columns wider : List String)
    (old new : Tuple) : Prop where
  kept : ∀ column ∈ columns, new column = old column
  filled : ∀ column ∈ wider, column ∉ columns → new column = blank table column

/-- **Every row is kept.** -/
abbrev Kept (blank : String → String → Datum) : Database → Database → Prop := Carried (Same blank)

section Carried

variable {first second both : String → List String → List String → Tuple → Tuple → Prop}
  {before middle after : Database} {blank : String → String → Datum}

theorem forall₂_through {R S T : Tuple → Tuple → Prop}
    (through : ∀ old middle new, R old middle → S middle new → T old new) {rows : List Tuple} :
    ∀ {middles news : List Tuple}, List.Forall₂ R rows middles → List.Forall₂ S middles news →
      List.Forall₂ T rows news := by
  induction rows with
  | nil =>
      intro middles news early late
      cases early
      cases late
      exact .nil
  | cons row rest ih =>
      intro middles news early late
      cases early with
      | cons one others =>
          cases late with
          | cons two rest' => exact .cons (through _ _ _ one two) (ih others rest')

/-- **Carrying on composes**, where the two readings do. -/
theorem Carried.trans {shape : String → List String} (shaped : Shaped shape before)
    (early : Carried first before middle) (late : Carried second middle after)
    (through : ∀ table columns wide wider, shape table ⊆ columns → columns ⊆ wide →
      ∀ old middle new, first table columns wide old middle → second table wide wider middle new →
        both table columns wider old new) : Carried both before after := by
  intro table relation found
  obtain ⟨wide, there, grows, rows⟩ := early table relation found
  obtain ⟨wider, later, grows', rows'⟩ := late table wide there
  refine ⟨wider, later, fun _ member => grows' (grows member), ?_⟩
  exact forall₂_through
    (through table _ _ _ (shaped table relation found) grows) rows rows'

theorem Carried.refl (same : ∀ table columns row, first table columns columns row row)
    (database : Database) : Carried first database database :=
  fun table relation found =>
    ⟨relation, found, fun _ member => member, List.forall₂_same.mpr fun _ _ => same table _ _⟩

theorem Kept.refl (blank : String → String → Datum) (database : Database) :
    Kept blank database database :=
  Carried.refl (fun _ _ _ => ⟨fun _ _ => rfl, fun _ member other => absurd member other⟩) database

/-- A change of what is not a table. -/
theorem Carried.of_tables (carried : Carried first before middle)
    (same : after.tables = middle.tables) : Carried first before after := by
  intro table relation found
  obtain ⟨wider, there, rest⟩ := carried table relation found
  exact ⟨wider, by rwa [same], rest⟩

theorem Kept.trans (early : Kept blank before middle) (late : Kept blank middle after) :
    Kept blank before after := by
  have any : Shaped (fun _ => []) before := fun _ _ _ => List.nil_subset _
  refine Carried.trans any early late fun table columns wide wider _ grows old middle new one two => ?_
  refine ⟨fun column member => ?_, fun column member fresh => ?_⟩
  · exact (two.kept column (grows member)).trans (one.kept column member)
  · by_cases known : column ∈ wide
    · exact (two.kept column known).trans (one.filled column known fresh)
    · exact two.filled column member known

/-- What was there is there. -/
theorem Carried.column (carried : Carried first before after) {table column : String}
    (known : column ∈ before.columns table) : column ∈ after.columns table := by
  unfold Database.columns at known ⊢
  cases found : before.tables.row table with
  | none =>
      rw [found] at known
      cases known
  | some relation =>
      obtain ⟨wider, there, grows, -⟩ := carried table relation found
      rw [found] at known
      rw [there]
      exact grows known

theorem Carried.shaped {shape : String → List String} (carried : Carried first before after)
    (fresh : ∀ table relation, before.tables.row table = none →
      after.tables.row table = some relation → shape table ⊆ relation.columns)
    (shaped : Shaped shape before) : Shaped shape after := by
  intro table relation there
  cases found : before.tables.row table with
  | none => exact fresh table relation found there
  | some old =>
      obtain ⟨wider, later, grows, -⟩ := carried table old found
      obtain rfl := Option.some.inj (there.symm.trans later)
      exact fun _ member => grows (shaped table old found member)

theorem Carried.knows (carried : Carried first before after)
    (indexes : before.indexes ⊆ after.indexes) {facts : List Fact} (knows : Knows before facts) :
    Knows after facts := by
  intro fact member
  have holds := knows fact member
  cases fact with
  | table name =>
      obtain ⟨relation, found⟩ := Option.isSome_iff_exists.mp holds
      obtain ⟨wider, there, -⟩ := carried name relation found
      exact Option.isSome_iff_exists.mpr ⟨wider, there⟩
  | column owner name => exact carried.column holds
  | index name => exact indexes holds

end Carried

/-! ### What a statement adds -/

/-- **A step of an upgrade**: the rows are kept, the tables stay in shape, nothing that is there is
taken away, and the gains are there. -/
structure Advances (shape : String → List String) (blank : String → String → Datum)
    (before after : Database) (gains : List Fact) : Prop where
  kept : Kept blank before after
  indexes : before.indexes ⊆ after.indexes
  version : after.version = before.version
  shaped : Shaped shape after
  gains : Knows after gains

section Advances

variable {shape : String → List String} {blank : String → String → Datum}
  {before middle after : Database} {given more facts : List Fact}

theorem Advances.refl (shaped : Shaped shape before) : Advances shape blank before before [] where
  kept := .refl blank before
  indexes := fun _ member => member
  version := rfl
  shaped := shaped
  gains := fun _ member => absurd member List.not_mem_nil

theorem Advances.knows (advances : Advances shape blank before after given)
    (known : Knows before facts) : Knows after facts :=
  advances.kept.knows advances.indexes known

theorem Advances.trans (early : Advances shape blank before middle given)
    (late : Advances shape blank middle after more) :
    Advances shape blank before after (given ++ more) where
  kept := early.kept.trans late.kept
  indexes := fun _ member => late.indexes (early.indexes member)
  version := late.version.trans early.version
  shaped := late.shaped
  gains := (late.knows early.gains).append late.gains

theorem Advances.mono (advances : Advances shape blank before after given)
    (fewer : ∀ fact ∈ more, fact ∈ given) : Advances shape blank before after more :=
  { advances with gains := fun fact member => advances.gains fact (fewer fact member) }

theorem columns_of_row {database : Database} {table : String} {relation : Relation}
    (found : database.tables.row table = some relation) :
    database.columns table = relation.columns := by
  unfold Database.columns
  rw [found, Option.elim_some]

theorem store_columns (database : Database) (table : String) (relation : Relation) :
    (database.store table relation).columns table = relation.columns :=
  columns_of_row (Table.put_row_self _ _ _)

/-- A table that is missing is created. -/
theorem Advances.create {table : String} {columns : List String} (shaped : Shaped shape before)
    (missing : before.tables.row table = none) (enough : shape table ⊆ columns) :
    Advances shape blank before (before.store table ⟨columns, []⟩)
      (.table table :: (shape table).map (.column table)) := by
  have kept : Kept blank before (before.store table ⟨columns, []⟩) := by
    intro other relation found
    have different : other ≠ table := by
      rintro rfl
      exact Option.some_ne_none _ (found.symm.trans missing)
    obtain ⟨wider, there, rest⟩ := Kept.refl blank before other relation found
    exact ⟨wider, (Table.put_row_other _ _ different).trans there, rest⟩
  refine ⟨kept, fun _ member => member, rfl, kept.shaped ?_ shaped, ?_⟩
  · intro other relation absent there
    by_cases same : other = table
    · subst same
      obtain rfl := Option.some.inj (there.symm.trans (Table.put_row_self _ _ _))
      exact enough
    · rw [Database.store, Table.put_row_other _ _ same, absent] at there
      cases there
  · refine List.forall_mem_cons.mpr ⟨?_, List.forall_mem_map.mpr fun column member => ?_⟩
    · exact Option.isSome_iff_exists.mpr ⟨_, Table.put_row_self _ _ _⟩
    · show column ∈ Database.columns _ table
      rw [store_columns]
      exact enough member

/-- A column that is missing is added. -/
theorem Advances.widen {table column : String} {relation : Relation} (shaped : Shaped shape before)
    (found : before.tables.row table = some relation) (fresh : column ∉ relation.columns) :
    Advances shape blank before (before.store table (relation.widen column (blank table column)))
      [.column table column] := by
  have kept : Kept blank before
      (before.store table (relation.widen column (blank table column))) := by
    intro other old there
    by_cases same : other = table
    · subst same
      obtain rfl := Option.some.inj (there.symm.trans found)
      refine ⟨_, Table.put_row_self _ _ _, List.subset_append_left _ _, ?_⟩
      refine List.forall₂_map_right_iff.mpr (List.forall₂_same.mpr fun row _ => ⟨?_, ?_⟩)
      · intro known member
        refine if_neg ?_
        rintro rfl
        exact fresh member
      · intro added member unknown
        rcases List.mem_append.mp member with old | new
        · exact absurd old unknown
        · obtain rfl := List.mem_singleton.mp new
          exact if_pos rfl
    · obtain ⟨wider, still, rest⟩ := Kept.refl blank before other old there
      exact ⟨wider, (Table.put_row_other _ _ same).trans still, rest⟩
  refine ⟨kept, fun _ member => member, rfl, kept.shaped ?_ shaped, ?_⟩
  · intro other wide absent there
    by_cases same : other = table
    · subst same
      exact absurd (found.symm.trans absent) (Option.some_ne_none _)
    · rw [Database.store, Table.put_row_other _ _ same, absent] at there
      cases there
  · refine List.forall_mem_singleton.mpr ?_
    show column ∈ Database.columns _ table
    rw [store_columns]
    exact List.mem_append_right _ (List.mem_singleton_self column)

theorem exec_createTable (shaped : Shaped shape before) {table : String} {columns : List String}
    (enough : shape table ⊆ columns) :
    ∃ after, exec before (.createTable table columns) = .ok after ∧
      Advances shape blank before after (.table table :: (shape table).map (.column table)) := by
  cases found : before.tables.row table with
  | none => exact ⟨_, by simp only [exec, found], .create shaped found enough⟩
  | some relation =>
      refine ⟨before, by simp only [exec, found], { Advances.refl shaped with gains := ?_ }⟩
      refine List.forall_mem_cons.mpr ⟨?_, List.forall_mem_map.mpr fun column member => ?_⟩
      · exact Option.isSome_iff_exists.mpr ⟨relation, found⟩
      · show column ∈ Database.columns _ table
        rw [columns_of_row found]
        exact shaped table relation found member

theorem exec_createIndex (shaped : Shaped shape before) (known : Knows before facts)
    {index table : String} {columns : List String} (there : .table table ∈ facts)
    (named : ∀ column ∈ columns, .column table column ∈ facts) :
    ∃ after, exec before (.createIndex index table columns) = .ok after ∧
      Advances shape blank before after [.index index] := by
  obtain ⟨relation, found⟩ := Option.isSome_iff_exists.mp (known _ there)
  have enough : columns ⊆ relation.columns := by
    intro column member
    have holds : column ∈ before.columns table := known _ (named column member)
    rwa [columns_of_row found] at holds
  by_cases old : index ∈ before.indexes
  · exact ⟨before, by simp only [exec, if_pos old],
      { Advances.refl shaped with gains := List.forall_mem_singleton.mpr old }⟩
  · refine ⟨{ before with indexes := index :: before.indexes },
      by simp only [exec, if_neg old, found, if_pos enough], ?_⟩
    exact {
      kept := (Kept.refl blank before).of_tables rfl
      indexes := List.subset_cons_self _ _
      version := rfl
      shaped := shaped
      gains := List.forall_mem_singleton.mpr List.mem_cons_self }

/-- Adding a column succeeds, or the column is there. -/
theorem exec_addColumn (shaped : Shaped shape before) {table column : String} {default : Datum}
    (there : (before.tables.row table).isSome) (plain : default = blank table column) :
    (∃ after, exec before (.addColumn table column default) = .ok after ∧
        Advances shape blank before after [.column table column]) ∨
      exec before (.addColumn table column default) = .error (.duplicateColumn column) ∧
        column ∈ before.columns table := by
  obtain ⟨relation, found⟩ := Option.isSome_iff_exists.mp there
  subst plain
  by_cases known : column ∈ relation.columns
  · refine .inr ⟨by simp only [exec, found, if_pos known], ?_⟩
    rwa [columns_of_row found]
  · exact .inl ⟨_, by simp only [exec, found, if_neg known], .widen shaped found known⟩

/-! ### Batches -/

/-- What a statement leaves there. -/
def Statement.gains (shape : String → List String) : Statement → List Fact
  | .createTable table _ => .table table :: (shape table).map (.column table)
  | .createIndex index _ _ => [.index index]
  | .addColumn table column _ => [.column table column]
  | .update _ _ _ => []

/-- **A batch that asks only for what is known**: it creates tables in shape, and indexes over columns
that are known or were created before. -/
def Covered (shape : String → List String) : List Fact → List Statement → Prop
  | _, [] => True
  | facts, .createTable table columns :: rest =>
      shape table ⊆ columns ∧
        Covered shape (facts ++ (Statement.createTable table columns).gains shape) rest
  | facts, .createIndex index table columns :: rest =>
      (.table table ∈ facts ∧ ∀ column ∈ columns, .column table column ∈ facts) ∧
        Covered shape (facts ++ [.index index]) rest
  | _, _ :: _ => False

instance decidableCovered (shape : String → List String) :
    ∀ (facts : List Fact) (batch : List Statement), Decidable (Covered shape facts batch)
  | _, [] => .isTrue trivial
  | facts, .createTable table columns :: rest =>
      have := decidableCovered shape (facts ++ (Statement.createTable table columns).gains shape) rest
      inferInstanceAs (Decidable (_ ∧ _))
  | facts, .createIndex index table columns :: rest =>
      have later := decidableCovered shape (facts ++ [.index index]) rest
      have named : Decidable (∀ column ∈ columns, Fact.column table column ∈ facts) := inferInstance
      have there : Decidable (Fact.table table ∈ facts) := inferInstance
      @instDecidableAnd _ _ (@instDecidableAnd _ _ there named) later
  | _, .addColumn _ _ _ :: _ => .isFalse not_false
  | _, .update _ _ _ :: _ => .isFalse not_false

/-- **A batch that asks only for what is known succeeds.** -/
theorem execBatch_covered (batch : List Statement) :
    ∀ (facts : List Fact) (before : Database), Covered shape facts batch → Shaped shape before →
      Knows before facts → ∃ after, execBatch before batch = (after, none) ∧
        Advances shape blank before after (batch.flatMap (Statement.gains shape)) := by
  induction batch with
  | nil => exact fun _ before _ shaped _ => ⟨before, rfl, .refl shaped⟩
  | cons statement rest ih =>
      intro facts before covered shaped known
      have step : ∃ middle, exec before statement = .ok middle ∧
          Advances shape blank before middle (statement.gains shape) ∧
          Covered shape (facts ++ statement.gains shape) rest := by
        cases statement with
        | createTable table columns =>
            obtain ⟨middle, executed, advances⟩ := exec_createTable shaped covered.1
            exact ⟨middle, executed, advances, covered.2⟩
        | createIndex index table columns =>
            obtain ⟨middle, executed, advances⟩ :=
              exec_createIndex shaped known covered.1.1 covered.1.2
            exact ⟨middle, executed, advances, covered.2⟩
        | addColumn | update => exact covered.elim
      obtain ⟨middle, executed, advances, covered'⟩ := step
      obtain ⟨after, ran, later⟩ := ih _ middle covered' advances.shaped
        ((advances.knows known).append advances.gains)
      exact ⟨after, by simp only [execBatch, executed, ran], advances.trans later⟩

theorem Covered.take (batch : List Statement) :
    ∀ (facts : List Fact) (steps : ℕ), Covered shape facts batch →
      Covered shape facts (batch.take steps) := by
  induction batch with
  | nil => exact fun _ _ covered => by rwa [List.take_nil]
  | cons statement rest ih =>
      intro facts steps covered
      cases steps with
      | zero => exact trivial
      | succ steps =>
          cases statement with
          | createTable table columns => exact ⟨covered.1, ih _ steps covered.2⟩
          | createIndex index table columns => exact ⟨covered.1, ih _ steps covered.2⟩
          | addColumn | update => exact covered.elim

/-- Everything a statement is to leave there. -/
def Statement.names : Statement → List Fact
  | .createTable table columns => .table table :: columns.map (.column table)
  | .createIndex index _ _ => [.index index]
  | .addColumn table column _ => [.column table column]
  | .update _ _ _ => []

/-- A batch of what is there already changes nothing. -/
theorem execBatch_known (batch : List Statement) :
    ∀ (facts : List Fact) (before : Database), Covered shape facts batch →
      Knows before (batch.flatMap Statement.names) → execBatch before batch = (before, none) := by
  induction batch with
  | nil => exact fun _ _ _ _ => rfl
  | cons statement rest ih =>
      intro facts before covered known
      have own : Knows before statement.names :=
        fun fact member => known fact (List.mem_append_left _ member)
      have others : Knows before (rest.flatMap Statement.names) :=
        fun fact member => known fact (List.mem_append_right _ member)
      cases statement with
      | createTable table columns =>
          obtain ⟨relation, found⟩ := Option.isSome_iff_exists.mp (own _ List.mem_cons_self)
          simp only [execBatch, exec, found]
          exact ih _ before covered.2 others
      | createIndex index table columns =>
          have there : index ∈ before.indexes := own _ List.mem_cons_self
          simp only [execBatch, exec, if_pos there]
          exact ih _ before covered.2 others
      | addColumn | update => exact covered.elim

/-- A column to add: the table, its name, and its default. -/
abbrev NewColumn := String × String × Datum

/-- Its statement. -/
def NewColumn.statement (new : NewColumn) : Statement := .addColumn new.1 new.2.1 new.2.2

/-- That it is there. -/
def NewColumn.fact (new : NewColumn) : Fact := .column new.1 new.2.1

/-- Its default is the one it is known by. -/
def NewColumn.Plain (blank : String → String → Datum) (new : NewColumn) : Prop :=
  new.2.2 = blank new.1 new.2.1

/-- **A batch that adds columns** adds them all, or stops at one that is there. -/
theorem execBatch_addColumns (news : List NewColumn) :
    ∀ before : Database, Shaped shape before →
      (∀ new ∈ news, (before.tables.row new.1).isSome ∧ new.Plain blank) →
      ∃ after outcome, execBatch before (news.map NewColumn.statement) = (after, outcome) ∧
        Advances shape blank before after [] ∧
        (outcome = none ∧ Knows after (news.map NewColumn.fact) ∨
          ∃ new ∈ news, outcome = some (.duplicateColumn new.2.1) ∧
            new.2.1 ∈ after.columns new.1) := by
  induction news with
  | nil =>
      exact fun before shaped _ => ⟨before, none, rfl, .refl shaped,
        .inl ⟨rfl, fun _ member => absurd member List.not_mem_nil⟩⟩
  | cons new rest ih =>
      intro before shaped ready
      have own := ready new List.mem_cons_self
      rcases exec_addColumn shaped own.1 own.2 with ⟨middle, executed, advances⟩ | ⟨executed, known⟩
      · have ready' : ∀ other ∈ rest, (middle.tables.row other.1).isSome ∧ other.Plain blank := by
          intro other member
          have there := ready other (List.mem_cons_of_mem _ member)
          have table : Knows before [.table other.1] := List.forall_mem_singleton.mpr there.1
          exact ⟨advances.knows table _ (List.mem_singleton_self _), there.2⟩
        obtain ⟨after, outcome, ran, later, result⟩ := ih middle advances.shaped ready'
        have quiet : Advances shape blank before middle [] :=
          advances.mono fun _ member => absurd member List.not_mem_nil
        refine ⟨after, outcome, ?_, quiet.trans later, ?_⟩
        · simp only [List.map_cons, execBatch, NewColumn.statement, executed]
          exact ran
        · rcases result with ⟨none_, gained⟩ | ⟨other, member, failed, there⟩
          · exact .inl ⟨none_, List.forall_mem_cons.mpr
              ⟨later.knows advances.gains _ (List.mem_singleton_self _), gained⟩⟩
          · exact .inr ⟨other, List.mem_cons_of_mem _ member, failed, there⟩
      · exact ⟨before, some (.duplicateColumn new.2.1),
          by simp only [List.map_cons, execBatch, NewColumn.statement, executed],
          .refl shaped, .inr ⟨new, List.mem_cons_self, rfl, known⟩⟩

/-- Add the columns that are missing, one at a time. -/
def ensureColumns (database : Database) : List NewColumn → Except Fault Database
  | [] => .ok database
  | new :: rest =>
      if new.2.1 ∈ database.columns new.1 then ensureColumns database rest
      else
        match exec database new.statement with
        | .error fault => .error fault
        | .ok next => ensureColumns next rest

/-- **Afterwards all of them are there.** -/
theorem ensureColumns_ok (news : List NewColumn) :
    ∀ before : Database, Shaped shape before →
      (∀ new ∈ news, (before.tables.row new.1).isSome ∧ new.Plain blank) →
      ∃ after, ensureColumns before news = .ok after ∧
        Advances shape blank before after (news.map NewColumn.fact) := by
  induction news with
  | nil => exact fun before shaped _ => ⟨before, rfl, .refl shaped⟩
  | cons new rest ih =>
      intro before shaped ready
      have own := ready new List.mem_cons_self
      have step : ∃ middle, Advances shape blank before middle [.column new.1 new.2.1] ∧
          ensureColumns before (new :: rest) = ensureColumns middle rest := by
        by_cases known : new.2.1 ∈ before.columns new.1
        · exact ⟨before, { Advances.refl shaped with gains := List.forall_mem_singleton.mpr known },
            by simp only [ensureColumns, if_pos known]⟩
        · rcases exec_addColumn shaped own.1 own.2 with
            ⟨middle, executed, advances⟩ | ⟨-, there⟩
          · exact ⟨middle, advances,
              by simp only [ensureColumns, if_neg known, NewColumn.statement, executed]⟩
          · exact absurd there known
      obtain ⟨middle, advances, same⟩ := step
      have ready' : ∀ other ∈ rest, (middle.tables.row other.1).isSome ∧ other.Plain blank := by
        intro other member
        have there := ready other (List.mem_cons_of_mem _ member)
        have table : Knows before [.table other.1] := List.forall_mem_singleton.mpr there.1
        exact ⟨advances.knows table _ (List.mem_singleton_self _), there.2⟩
      obtain ⟨after, ensured, later⟩ := ih middle advances.shaped ready'
      exact ⟨after, same.trans ensured, advances.trans later⟩

end Advances

end Relational.Ddl
