/-
**A disk that others write to.** Files are inodes with an owner, mode bits and, for directories, their
entries. A user may change the entries of a directory that is theirs, or that is writable by others; in
a sticky one they may only replace what is theirs. The rules are generous: whatever passes them may be
placed, also what a real system would refuse.

* `File`, `Disk`, `walk` — a path is walked through directories, never through a link;
* `Act`, `Disk.allows`, `Disk.act` — what a user may do;
* `Trusty`, `Held`, `Pinned` — a path every entry of which stands in a directory of a trusted owner and
  leads to one;
* `Pinned.act` — **nobody else can change where a pinned path leads.**
-/

import Mathlib.Data.List.Basic
import Mathlib.Tactic

namespace Files

/-! ### Disks -/

/-- What a file is. A link leads wherever the system takes it. -/
inductive Kind where
  | directory (entries : String → Option ℕ)
  | link
  | plain

structure File where
  owner : UInt32
  mode : UInt32
  kind : Kind

/-- The files by inode; the root directory is inode 0. -/
abbrev Disk := ℕ → Option File

/-- Group- or world-writable: `mode & 0o022`. -/
def shared (mode : UInt32) : Bool := mode &&& 0x12 != 0

/-- `mode & 0o1000`. -/
def sticky (mode : UInt32) : Bool := mode &&& 0x200 != 0

def File.isDirectory (file : File) : Bool :=
  match file.kind with
  | .directory _ => true
  | _ => false

/-- What a directory holds under a name. -/
def File.entry (file : File) (name : String) : Option ℕ :=
  match file.kind with
  | .directory entries => entries name
  | _ => none

/-- The inode at the end of a path. -/
def walk (disk : Disk) : ℕ → List String → Option ℕ
  | inode, [] => some inode
  | inode, name :: rest =>
      match (disk inode).bind fun file => file.entry name with
      | some child => walk disk child rest
      | none => none

/-! ### What users do -/

/-- A change a user makes. -/
inductive Act where
  | make (inode : ℕ) (file : File)
  | place (directory : ℕ) (name : String) (inode : Option ℕ)
  | chmod (inode : ℕ) (mode : UInt32)

/-- The user may change what the directory holds under the name. -/
def File.mayPlace (disk : Disk) (file : File) (uid : UInt32) (name : String) : Bool :=
  file.isDirectory &&
    (file.owner == uid || shared file.mode && (!sticky file.mode ||
      ((file.entry name).bind disk).all fun child => child.owner == uid))

/-- **What a user may do.** -/
def Disk.allows (disk : Disk) (uid : UInt32) : Act → Bool
  | .make inode file => (disk inode).isNone && file.owner == uid
  | .place directory name _ => (disk directory).any fun file => file.mayPlace disk uid name
  | .chmod inode _ => (disk inode).any fun file => file.owner == uid

/-- A directory that holds an inode, or nothing, under the name. -/
def File.place (file : File) (name : String) (inode : Option ℕ) : File :=
  match file.kind with
  | .directory entries =>
      { file with kind := .directory fun other => if other = name then inode else entries other }
  | _ => file

/-- The disk with one file replaced. -/
def Disk.set (disk : Disk) (inode : ℕ) (file : Option File) : Disk :=
  fun other => if other = inode then file else disk other

def Disk.act (disk : Disk) : Act → Disk
  | .make inode file => disk.set inode (some file)
  | .place directory name inode =>
      disk.set directory ((disk directory).map fun file => file.place name inode)
  | .chmod inode mode => disk.set inode ((disk inode).map fun file => { file with mode })

theorem Disk.set_self (disk : Disk) (inode : ℕ) (file : Option File) :
    disk.set inode file inode = file := if_pos rfl

theorem Disk.set_other (disk : Disk) {inode other : ℕ} (file : Option File)
    (different : other ≠ inode) : disk.set inode file other = disk other := if_neg different

theorem File.place_owner (file : File) (name : String) (inode : Option ℕ) :
    (file.place name inode).owner = file.owner := by
  unfold File.place
  split <;> rfl

theorem File.place_mode (file : File) (name : String) (inode : Option ℕ) :
    (file.place name inode).mode = file.mode := by
  unfold File.place
  split <;> rfl

theorem File.place_isDirectory (file : File) (name : String) (inode : Option ℕ) :
    (file.place name inode).isDirectory = file.isDirectory := by
  obtain ⟨_, _, kind⟩ := file
  cases kind <;> rfl

theorem File.place_entry (file : File) {name other : String} (inode : Option ℕ)
    (different : other ≠ name) : (file.place name inode).entry other = file.entry other := by
  obtain ⟨_, _, kind⟩ := file
  cases kind with
  | directory entries => exact if_neg different
  | link | plain => rfl

/-! ### Pinned paths -/

/-- **A directory of a trusted owner.** -/
structure Trusty (trusted : UInt32 → Prop) (file : File) : Prop where
  isDirectory : file.isDirectory = true
  owner : trusted file.owner

/-- Others cannot write to it, or it is sticky. -/
def Guarded (file : File) : Prop := shared file.mode = true → sticky file.mode = true

/-- **A held entry**: it stands in a guarded directory of a trusted owner, and leads to a directory of
a trusted owner. -/
inductive Held (trusted : UInt32 → Prop) (disk : Disk) (directory : ℕ) (name : String) (child : ℕ) :
    Prop where
  | intro (above below : File) (found : disk directory = some above) (trusty : Trusty trusted above)
      (guarded : Guarded above) (entry : above.entry name = some child)
      (leads : disk child = some below) (safe : Trusty trusted below)

/-- **A pinned path** from one inode to another: every entry is held. -/
inductive Pinned (trusted : UInt32 → Prop) (disk : Disk) : ℕ → List String → ℕ → Prop where
  | here (inode : ℕ) : Pinned trusted disk inode [] inode
  | down {inode child leaf : ℕ} {name : String} {rest : List String}
      (held : Held trusted disk inode name child) (below : Pinned trusted disk child rest leaf) :
      Pinned trusted disk inode (name :: rest) leaf

section Pinned

variable {trusted : UInt32 → Prop} {disk : Disk} {inode child leaf : ℕ} {name : String}
  {path : List String}

/-- A pinned path leads to its end. -/
theorem Pinned.walk (pinned : Pinned trusted disk inode path leaf) :
    walk disk inode path = some leaf := by
  induction pinned with
  | here => rfl
  | down held _ ih =>
      obtain ⟨above, _, found, _, _, entry, _, _⟩ := held
      simp only [Files.walk, found, Option.bind_some, entry]
      exact ih

/-- One more held entry. -/
theorem Pinned.snoc (pinned : Pinned trusted disk inode path leaf)
    (held : Held trusted disk leaf name child) : Pinned trusted disk inode (path ++ [name]) child := by
  induction pinned with
  | here => exact .down held (.here child)
  | down first _ ih => exact .down first (ih held)

/-- A change that keeps every held entry keeps every pinned path. -/
theorem Pinned.mono {after : Disk} (keeps : ∀ directory name child,
      Held trusted disk directory name child → Held trusted after directory name child)
    (pinned : Pinned trusted disk inode path leaf) : Pinned trusted after inode path leaf := by
  induction pinned with
  | here inode => exact .here inode
  | down held _ ih => exact .down (keeps _ _ _ held) ih

/-- What somebody else leaves of a trusted directory. -/
theorem Trusty.act {uid : UInt32} {act : Act} {file : File} (foreign : ¬ trusted uid)
    (allowed : disk.allows uid act = true) (found : disk inode = some file)
    (trusty : Trusty trusted file) :
    ∃ after, disk.act act inode = some after ∧ Trusty trusted after ∧ after.mode = file.mode := by
  cases act with
  | make fresh made =>
      have different : inode ≠ fresh := by
        rintro rfl
        simp [Disk.allows, found] at allowed
      exact ⟨file, (disk.set_other _ different).trans found, trusty, rfl⟩
  | place directory other target =>
      by_cases same : inode = directory
      · subst same
        refine ⟨file.place other target, ?_, ⟨?_, ?_⟩, file.place_mode other target⟩
        · exact (disk.set_self inode _).trans (by rw [found]; rfl)
        · rw [File.place_isDirectory]
          exact trusty.isDirectory
        · rw [File.place_owner]
          exact trusty.owner
      · exact ⟨file, (disk.set_other _ same).trans found, trusty, rfl⟩
  | chmod changed mode =>
      have different : inode ≠ changed := by
        rintro rfl
        simp only [Disk.allows, found, Option.any_some, beq_iff_eq] at allowed
        exact foreign (allowed ▸ trusty.owner)
      exact ⟨file, (disk.set_other _ different).trans found, trusty, rfl⟩

/-- **Nobody else can move a held entry.** -/
theorem Held.act {uid : UInt32} {act : Act} (foreign : ¬ trusted uid)
    (allowed : disk.allows uid act = true) (held : Held trusted disk inode name child) :
    Held trusted (disk.act act) inode name child := by
  obtain ⟨above, below, found, trusty, guarded, entry, leads, safe⟩ := held
  obtain ⟨above', found', trusty', mode⟩ := trusty.act foreign allowed found
  obtain ⟨below', leads', safe', -⟩ := safe.act foreign allowed leads
  have guarded' : Guarded above' := by
    unfold Guarded
    rw [mode]
    exact guarded
  refine .intro above' below' found' trusty' guarded' ?_ leads' safe'
  cases act with
  | make fresh made =>
      have different : inode ≠ fresh := by
        rintro rfl
        simp [Disk.allows, found] at allowed
      obtain rfl := Option.some.inj (((disk.set_other _ different).trans found).symm.trans found')
      exact entry
  | place directory other target =>
      by_cases same : inode = directory
      · subst same
        have placed : above.place other target = above' := by
          refine Option.some.inj (Eq.trans ?_ found')
          exact ((disk.set_self inode _).trans (by rw [found]; rfl)).symm
        -- the entry itself is out of reach: it leads to a file of a trusted owner
        have different : name ≠ other := by
          rintro rfl
          simp only [Disk.allows, found, Option.any_some, File.mayPlace, Bool.and_eq_true,
            Bool.or_eq_true, beq_iff_eq, Bool.not_eq_true', entry, Option.bind_some, leads,
            Option.all_some] at allowed
          rcases allowed.2 with own | ⟨open_, loose | own⟩
          · exact foreign (own ▸ trusty.owner)
          · exact absurd ((guarded open_).symm.trans loose) (by decide)
          · exact foreign (own ▸ safe.owner)
        rw [← placed, File.place_entry above target different]
        exact entry
      · obtain rfl := Option.some.inj (((disk.set_other _ same).trans found).symm.trans found')
        exact entry
  | chmod changed mode' =>
      have different : inode ≠ changed := by
        rintro rfl
        simp only [Disk.allows, found, Option.any_some, beq_iff_eq] at allowed
        exact foreign (allowed ▸ trusty.owner)
      obtain rfl := Option.some.inj (((disk.set_other _ different).trans found).symm.trans found')
      exact entry

/-- **Nobody else can change where a pinned path leads.** -/
theorem Pinned.act {uid : UInt32} {act : Act} (foreign : ¬ trusted uid)
    (allowed : disk.allows uid act = true) (pinned : Pinned trusted disk inode path leaf) :
    Pinned trusted (disk.act act) inode path leaf :=
  pinned.mono fun _ _ _ held => held.act foreign allowed

/-- Closing a directory to others keeps what is held. -/
theorem Held.chmod {changed : ℕ} {mode : UInt32} (closed : shared mode = false)
    (held : Held trusted disk inode name child) :
    Held trusted (disk.act (.chmod changed mode)) inode name child := by
  obtain ⟨above, below, found, trusty, guarded, entry, leads, safe⟩ := held
  have kept (other : ℕ) (file : File) (there : disk other = some file)
      (own : Trusty trusted file) :
      ∃ after, disk.act (.chmod changed mode) other = some after ∧ Trusty trusted after ∧
        (∀ name, after.entry name = file.entry name) ∧ (Guarded file → Guarded after) := by
    by_cases same : other = changed
    · subst same
      refine ⟨{ file with mode }, (disk.set_self other _).trans (by rw [there]; rfl),
        ⟨own.isDirectory, own.owner⟩, fun _ => rfl, fun _ open_ => ?_⟩
      exact absurd (closed.symm.trans open_) (by decide)
    · exact ⟨file, (disk.set_other _ same).trans there, own, fun _ => rfl, fun still => still⟩
  obtain ⟨above', found', trusty', same, guards⟩ := kept inode above found trusty
  obtain ⟨below', leads', safe', -, -⟩ := kept child below leads safe
  exact .intro above' below' found' trusty' (guards guarded) ((same name).trans entry) leads' safe'

end Pinned

end Files
