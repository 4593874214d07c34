/-
**Records in JSON documents.** A record is written as an object that has a member for each of its
fields, some of which may be skipped, and read from an object or, by position, from an array.

* `columns` — what each field is read from: members of other names are passed over, a name that
  stands twice is an error, an array too long is one too;
* `required`, `optional`, `defaulted` — the three ways to read a field;
* `bind_eq_ok` — how a computation that succeeded is taken apart;
* `assemble` — the members of a record with given columns;
* `columns_of_kept` — **the round trip of columns**, for an object with any further members;
* `tagged`, `columns_tagged` — the same for the variants of an internally tagged union.
-/

import Lnrent.Serde.Document

namespace Serde

/-! ### Scalars -/

def readString : Json → Option String
  | .string text => some text
  | _ => none

def readBool : Json → Option Bool
  | .bool value => some value
  | _ => none

/-- An unsigned integer of a width: the numbers below the bound, by the width's own conversion. -/
def readUnsigned {α : Type} (bound : ℕ) (convert : ℕ → α) : Json → Option α
  | .number (.int value) =>
      if 0 ≤ value ∧ value < bound then some (convert value.toNat) else none
  | _ => none

def readU64 : Json → Option UInt64 := readUnsigned (2 ^ 64) UInt64.ofNat

def readU32 : Json → Option UInt32 := readUnsigned (2 ^ 32) UInt32.ofNat

def readI64 : Json → Option Int64
  | .number (.int value) =>
      if -2 ^ 63 ≤ value ∧ value < 2 ^ 63 then some (Int64.ofInt value) else none
  | _ => none

def writeU64 (value : UInt64) : Json := .number (.int value.toNat)

def writeU32 (value : UInt32) : Json := .number (.int value.toNat)

def writeI64 (value : Int64) : Json := .number (.int value.toInt)

/-- The value of any document. -/
def readValue (document : Json) : Option Value := some (Value.read document)

@[simp]
theorem readString_string (text : String) : readString (.string text) = some text := rfl

@[simp]
theorem readBool_bool (value : Bool) : readBool (.bool value) = some value := rfl

@[simp]
theorem readU64_writeU64 (value : UInt64) : readU64 (writeU64 value) = some value := by
  have bound : value.toNat < 2 ^ 64 := value.toNat_lt
  simp only [readU64, writeU64, readUnsigned, Int.toNat_natCast, UInt64.ofNat_toNat]
  exact if_pos ⟨Int.natCast_nonneg _, by exact_mod_cast bound⟩

@[simp]
theorem readU32_writeU32 (value : UInt32) : readU32 (writeU32 value) = some value := by
  have bound : value.toNat < 2 ^ 32 := value.toNat_lt
  simp only [readU32, writeU32, readUnsigned, Int.toNat_natCast, UInt32.ofNat_toNat]
  exact if_pos ⟨Int.natCast_nonneg _, by exact_mod_cast bound⟩

@[simp]
theorem readI64_writeI64 (value : Int64) : readI64 (writeI64 value) = some value := by
  simp only [readI64, writeI64, Int64.ofInt_toInt]
  exact if_pos ⟨value.le_toInt, value.toInt_lt⟩

@[simp]
theorem readValue_document (value : Value) : readValue value.document = some value :=
  congrArg some value.read_document

/-! ### Computations that may fail -/

theorem ok_bind {ε α β : Type} (value : α) (next : α → Except ε β) :
    (Except.ok value >>= next) = next value := rfl

/-- A sequence that succeeded: its first part did, and the rest on what it returned. -/
theorem bind_eq_ok {ε α β : Type} {first : Except ε α} {next : α → Except ε β} {result : β}
    (done : first >>= next = .ok result) :
    ∃ value, first = .ok value ∧ next value = .ok result := by
  cases first with
  | error error => cases done
  | ok value => exact ⟨value, rfl, done⟩

/-! ### Fields -/

section Fields

variable {α : Type} (read : Json → Option α)

/-- A field that has to be there. -/
def required : Option Json → Option α
  | some document => read document
  | none => none

/-- A field that may be absent or `null`. -/
def optional : Option Json → Option (Option α)
  | none => some none
  | some .null => some none
  | some document => (read document).map some

/-- A field with a default for an absent one. -/
def defaulted (default : α) : Option Json → Option α
  | some document => read document
  | none => some default

@[simp]
theorem required_some (document : Json) : required read (some document) = read document := by
  rfl

@[simp]
theorem optional_none : optional read none = some none := rfl

@[simp]
theorem defaulted_some (default : α) (document : Json) :
    defaulted read default (some document) = read document := rfl

theorem optional_some {document : Json} (present : document ≠ .null) :
    optional read (some document) = (read document).map some := by
  cases document with
  | null => exact absurd rfl present
  | _ => rfl

/-- An optional text that is skipped when it is `none` comes back. -/
@[simp]
theorem optional_string (text : Option String) :
    optional readString (text.map Json.string) = some text := by
  cases text with
  | none => rfl
  | some text => rw [Option.map_some, optional_some readString (by simp), readString_string, Option.map_some]

theorem mapM_map {write : α → Json} (items : List α)
    (inverse : ∀ item ∈ items, read (write item) = some item) :
    (items.map write).mapM read = some items := by
  induction items with
  | nil => rfl
  | cons item rest ih =>
      rw [List.map_cons, List.mapM_cons, inverse item List.mem_cons_self,
        ih fun other member => inverse other (List.mem_cons_of_mem _ member)]
      rfl

end Fields

/-! ### Columns -/

/-- What one field is read from: the member of its name, if there is one. -/
def column (members : List (String × Json)) (name : String) : Option (Option Json) :=
  match members.filter fun member => member.1 = name with
  | [] => some none
  | [member] => some (some member.2)
  | _ => none

/-- **What the fields of a record are read from.** -/
def columns (names : List String) : Json → Option (List (Option Json))
  | .object members => names.mapM (column members)
  | .array items =>
      if items.length ≤ names.length then
        some (items.map some ++ List.replicate (names.length - items.length) none)
      else none
  | _ => none

/-- **The members of a record**: a column that is `none` is skipped. -/
def assemble : List String → List (Option Json) → List (String × Json)
  | name :: names, column :: columns =>
      (column.map (Prod.mk name)).toList ++ assemble names columns
  | _, _ => []

/-- The members of an object whose names are known. -/
def kept (names : List String) (members : List (String × Json)) : List (String × Json) :=
  members.filter fun member => member.1 ∈ names

theorem filter_kept {names : List String} {name : String} (known : name ∈ names)
    (members : List (String × Json)) :
    (kept names members).filter (fun member => member.1 = name) =
      members.filter fun member => member.1 = name := by
  rw [kept, List.filter_filter]
  refine List.filter_congr fun member _ => ?_
  by_cases same : member.1 = name
  · simp [same, known]
  · simp [same]

/-- Members of unknown names do not change a column. -/
theorem column_kept {names : List String} {name : String} (known : name ∈ names)
    (members : List (String × Json)) : column (kept names members) name = column members name := by
  rw [column, column, filter_kept known]

theorem assemble_names {names : List String} {cols : List (Option Json)} :
    ∀ member ∈ assemble names cols, member.1 ∈ names := by
  induction names generalizing cols with
  | nil => simp [assemble]
  | cons name names ih =>
      intro member found
      cases cols with
      | nil => simp [assemble] at found
      | cons col cols =>
          rcases List.mem_append.mp found with here | later
          · cases col with
            | none => simp at here
            | some document =>
                obtain rfl : member = (name, document) := by simpa using here
                exact List.mem_cons_self
          · exact List.mem_cons_of_mem _ (ih member later)

theorem filter_assemble_fresh {names : List String} {cols : List (Option Json)} {name : String}
    (fresh : name ∉ names) :
    (assemble names cols).filter (fun member => member.1 = name) = [] := by
  refine List.filter_eq_nil_iff.mpr fun member found => ?_
  have here := assemble_names member found
  rintro same
  exact fresh (of_decide_eq_true same ▸ here)

theorem column_assemble_head {name : String} {names : List String} (col : Option Json)
    (cols : List (Option Json)) (fresh : name ∉ names) :
    column (assemble (name :: names) (col :: cols)) name = some col := by
  unfold column
  rw [assemble, List.filter_append, filter_assemble_fresh fresh, List.append_nil]
  cases col with
  | none => rfl
  | some document => simp

theorem column_assemble_tail {name other : String} {names : List String} (col : Option Json)
    (cols : List (Option Json)) (different : name ≠ other) :
    column (assemble (name :: names) (col :: cols)) other = column (assemble names cols) other := by
  unfold column
  rw [assemble, List.filter_append]
  cases col with
  | none => rfl
  | some document => simp [different]

theorem mapM_congr {names : List String} {first second : String → Option (Option Json)}
    (same : ∀ name ∈ names, first name = second name) : names.mapM first = names.mapM second := by
  induction names with
  | nil => rfl
  | cons name names ih =>
      rw [List.mapM_cons, List.mapM_cons, same name List.mem_cons_self,
        ih fun other member => same other (List.mem_cons_of_mem _ member)]

theorem mapM_column_assemble {names : List String} (distinct : names.Nodup) :
    ∀ {cols : List (Option Json)}, cols.length = names.length →
      names.mapM (column (assemble names cols)) = some cols := by
  induction names with
  | nil =>
      intro cols length
      rw [List.eq_nil_of_length_eq_zero length]
      rfl
  | cons name names ih =>
      intro cols length
      obtain ⟨fresh, distinct⟩ := List.nodup_cons.mp distinct
      cases cols with
      | nil => cases length
      | cons col cols =>
          have tail : names.mapM (column (assemble (name :: names) (col :: cols))) =
              names.mapM (column (assemble names cols)) :=
            mapM_congr fun other member => column_assemble_tail col cols fun same =>
              fresh (same ▸ member)
          rw [List.mapM_cons, column_assemble_head col cols fresh, tail,
            ih distinct (Nat.succ.inj length)]
          rfl

/-- **The columns of a record are read back** from an object that has its members, and any others of
unknown names. -/
theorem columns_of_kept {names : List String} {members : List (String × Json)}
    {cols : List (Option Json)} (distinct : names.Nodup) (length : cols.length = names.length)
    (same : kept names members = assemble names cols) :
    columns names (.object members) = some cols := by
  have through : names.mapM (column members) = names.mapM (column (assemble names cols)) :=
    mapM_congr fun name known => by rw [← same, column_kept known]
  exact through.trans (mapM_column_assemble distinct length)

/-- The columns of a record are read back from its own members. -/
theorem columns_assemble {names : List String} {cols : List (Option Json)} (distinct : names.Nodup)
    (length : cols.length = names.length) :
    columns names (.object (assemble names cols)) = some cols :=
  columns_of_kept distinct length (List.filter_eq_self.mpr fun member found =>
    decide_eq_true (assemble_names member found))

/-! ### Tagged unions -/

/-- The variant's tag and the rest of an internally tagged union. -/
def tagged (tag : String) : Json → Option (String × Json)
  | .object members =>
      match members.filter fun member => member.1 = tag with
      | [member] => (readString member.2).map fun variant =>
          (variant, .object (members.filter fun member => member.1 ≠ tag))
      | _ => none
  | .array (first :: rest) => (readString first).map fun variant => (variant, .array rest)
  | _ => none

theorem kept_filter_ne {tag : String} {names : List String} (unknown : tag ∉ names)
    (members : List (String × Json)) :
    kept names (members.filter fun member => member.1 ≠ tag) =
      (kept (tag :: names) members).filter fun member => member.1 ≠ tag := by
  rw [kept, kept, List.filter_filter, List.filter_filter]
  refine List.filter_congr fun member _ => ?_
  by_cases same : member.1 = tag
  · simp [same, unknown]
  · simp [same]

/-- **A variant is read back**: its tag, and the columns of its record. -/
theorem columns_tagged {tag variant : String} {names : List String}
    {members : List (String × Json)} {cols : List (Option Json)} (distinct : (tag :: names).Nodup)
    (length : cols.length = names.length)
    (same : kept (tag :: names) members = (tag, .string variant) :: assemble names cols) :
    ∃ content, tagged tag (.object members) = some (variant, content) ∧
      columns names content = some cols := by
  obtain ⟨unknown, distinct⟩ := List.nodup_cons.mp distinct
  have tags : members.filter (fun member => member.1 = tag) = [(tag, .string variant)] := by
    rw [← filter_kept List.mem_cons_self, same, List.filter_cons_of_pos (by simp),
      filter_assemble_fresh unknown]
  refine ⟨.object (members.filter fun member => member.1 ≠ tag), ?_, ?_⟩
  · rw [tagged, tags]
    rfl
  · refine columns_of_kept distinct length ?_
    rw [kept_filter_ne unknown, same, List.filter_cons_of_neg (by simp)]
    refine List.filter_eq_self.mpr fun member found => ?_
    have known := assemble_names member found
    exact decide_eq_true fun is => unknown (is ▸ known)

end Serde
