/-
**Cold backup and restore** (`backup.rs`). The stopped daemon's data directory is captured into a
fresh set of files, in plaintext or as one sealed archive, and a set is restored into an empty
directory.

* `DataDir` — the files the daemon leaves; what `symlink_metadata` finds is an `Entry`;
* `backupPlaintext`, `backupEncrypted`, `backup` — the two bodies and their choice;
* `joinIsDir` — what `is_dir` says of a path joined to the `fedimint` subtree;
* `restore` — the checks of the manifest against the set, and the set itself.

What is not under `src/` is a parameter (`Tools`): what a side file's bytes hash to and hold, what
`VACUUM INTO` makes of them, sealing under a passphrase, and what stands outside of a set.
-/

import Lnrent.Daemon.LegacyImport

namespace Lnrent.Backup

open LegacyImport (Books Legacy SideFile like)

/-! ### The data directory -/

/-- The bytes of a file, opaque. -/
abbrev Bytes := ℕ

/-- A name the file system has an entry for. -/
inductive Entry where
  | regular (bytes : Bytes)
  | symlink
  | other
deriving DecidableEq

/-- What stands at a name of a directory tree. -/
inductive Node where
  | file (bytes : Bytes)
  | dir (entries : List (String × Node))
  | symlink

abbrev Tree := List (String × Node)

/-- What stands at `fedimint`; a link may lead to a directory elsewhere. -/
inductive Root where
  | dir (tree : Tree)
  | symlink (target : Option Tree)
  | other

/-- The state DB: what the import reads of it, the `migration` rows of other side files, and the
operator's selected backend. -/
structure StateDb where
  books : Books
  otherMarkers : List String
  paymentBackend : Option String
deriving DecidableEq

/-- **A stopped daemon's data directory.** -/
structure DataDir where
  stateDb : StateDb
  /-- `operator.seed` -/
  seed : Option Entry
  /-- `fedimint.json` -/
  fedimintConfig : Option Entry
  /-- `phoenixd_index.db` -/
  phoenixdIndex : Option Entry
  /-- `fedimint/` -/
  fedimint : Option Root

/-- The files of a captured set. -/
structure Artifacts where
  stateDb : Option StateDb
  seed : Option Bytes
  fedimintConfig : Option Bytes
  phoenixdIndex : Option Bytes
  fedimint : Option Tree

/-- `MANIFEST.json` -/
structure Manifest where
  schema : String
  version : ℕ
  createdUnix : ℕ
  stateDb : Bool
  fedimintConfig : Bool
  operatorSeed : Bool
  phoenixdIndex : Bool
  selfContained : Bool
  fedimintDir : Bool
  federations : List String
  encrypted : Bool
deriving DecidableEq

/-- What the file formats and the sealing do. -/
structure Tools (Sealed : Type) where
  /-- The hash of a side file's bytes. -/
  hash : Bytes → String
  /-- Its rows, where they can be read. -/
  rows : Bytes → Option Legacy
  /-- `VACUUM INTO` of a side file. -/
  vacuum : Bytes → Option Bytes
  /-- The archive under a passphrase, and what opens it. -/
  encrypt : String → Artifacts → Sealed
  decrypt : String → Sealed → Option Artifacts
  /-- Whether a path that leaves the `fedimint` subtree, of the backup or of an unpacked archive,
  ends at a directory. -/
  elsewhere (encrypted : Bool) (path : String) : Bool

/-- A backup directory. -/
structure BackupSet (Sealed : Type) where
  manifest : Manifest
  files : Artifacts
  /-- `backup.age` -/
  age : Option Sealed

inductive Failure where
  | emptyPassphrase
  | secretNotRegular
  | indexNotRegular
  | vacuumFailed
  | symlinkInTree
  | foreignSchema
  | unsupportedVersion
  | inconsistentManifest
  | missing (artifact : String)
  | passphraseNeeded
  | downgrade
  | wrongPassphrase
  | markerMismatch
  | referencesPhoenixd
deriving DecidableEq

def backupSchema : String := "lnrent-backup"
def backupFormatVersion : ℕ := 3
def phoenixdSideFileFormatVersion : ℕ := 2
def minSupportedBackupFormatVersion : ℕ := 1

/-- `format_version` -/
def formatVersion (selfContained phoenixdIndex : Bool) : ℕ :=
  if selfContained then backupFormatVersion
  else if phoenixdIndex then phoenixdSideFileFormatVersion
  else minSupportedBackupFormatVersion

/-- `any_marker`: the `migration` table has a row, of whichever side file. -/
def AnyMarker (db : StateDb) : Prop := db.books.marker ≠ none ∨ db.otherMarkers ≠ []

instance (db : StateDb) : Decidable (AnyMarker db) := inferInstanceAs (Decidable (_ ∨ _))

/-- `snapshot_is_self_contained` -/
def snapshotIsSelfContained (db : StateDb) : Bool := decide (AnyMarker db)

/-- `v1_references_phoenixd` finds a row. -/
def ReferencesPhoenixd (db : StateDb) : Prop :=
  (∃ book ∈ db.books.invoices.rows, like book.id "phoenixd-" = true) ∨
    db.paymentBackend = some "phoenixd" ∧
      ((∃ row ∈ db.books.refunds, row.status = "SENT" ∨ row.backendPaymentId ≠ none) ∨
        ∃ row ∈ db.books.sweeps, row.status = "SENT" ∨ row.backendPaymentId ≠ none)

instance (db : StateDb) : Decidable (ReferencesPhoenixd db) :=
  inferInstanceAs (Decidable (_ ∨ _ ∧ (_ ∨ _)))

/-- `check_restored_state_db` -/
def checkRestoredStateDb (manifest : Manifest) (db : StateDb) : Except Failure Unit :=
  if snapshotIsSelfContained db ≠ manifest.selfContained then .error .markerMismatch
  else if manifest.version ≠ minSupportedBackupFormatVersion then .ok ()
  else if ReferencesPhoenixd db then .error .referencesPhoenixd
  else .ok ()

/-! ### Copying -/

mutual

/-- One entry of `copy_dir_recursive`; `tar_append_dir_recursive` walks the tree by the same rule. -/
def copyNode : Node → Except Failure Node
  | .file bytes => .ok (.file bytes)
  | .dir entries => (copyDirRecursive entries).map .dir
  | .symlink => .error .symlinkInTree

/-- `copy_dir_recursive`: a symlink in the tree is refused. -/
def copyDirRecursive : List (String × Node) → Except Failure (List (String × Node))
  | [] => .ok []
  | (name, node) :: rest =>
      (copyNode node).bind fun copied =>
        (copyDirRecursive rest).map fun others => (name, copied) :: others

end

/-- `tar_append_dir_recursive` -/
def tarAppendDirRecursive (entries : Tree) : Except Failure Tree := copyDirRecursive entries

/-- A tree that is there, walked. -/
def walked (walk : Tree → Except Failure Tree) : Option Tree → Except Failure (Option Tree)
  | none => .ok none
  | some tree => (walk tree).map some

/-- `Path::is_dir`, which follows a link, with the tree found there. -/
def isDir : Option Root → Option Tree
  | some (.dir tree) => some tree
  | some (.symlink target) => target
  | some .other | none => none

/-- `fedimint_root_is_real_dir`, with the tree found there. -/
def fedimintRootIsRealDir : Option Root → Except Failure (Option Tree)
  | some (.dir tree) => .ok (some tree)
  | some (.symlink _) => .error .symlinkInTree
  | some .other | none => .ok none

/-- `list_subdirs` -/
def listSubdirs (tree : Tree) : List String :=
  (tree.filterMap fun entry => match entry.2 with
    | .dir _ => some entry.1
    | _ => none).mergeSort (· ≤ ·)

/-- `copy_if_present`, and `present_regular_or_reject` with the copy the archive makes. -/
def copyIfPresent (refusal : Failure) : Option Entry → Except Failure (Option Bytes)
  | none => .ok none
  | some (.regular bytes) => .ok (some bytes)
  | some .symlink => .error refusal
  | some .other => .error refusal

section Bodies

variable {Sealed : Type} (tools : Tools Sealed)

/-- `vacuum_into` of a side file. -/
def vacuumInto (bytes : Bytes) : Except Failure Bytes :=
  match tools.vacuum bytes with
  | some copy => .ok copy
  | none => .error .vacuumFailed

/-- `vacuum_into` of a side file that is there. -/
def vacuumPresent : Option Bytes → Except Failure (Option Bytes)
  | none => .ok none
  | some bytes => (vacuumInto tools bytes).map some

/-- `vacuum_if_present` -/
def vacuumIfPresent (entry : Option Entry) : Except Failure (Option Bytes) :=
  (copyIfPresent .indexNotRegular entry).bind (vacuumPresent tools)

/-- The manifest of a captured set. -/
def describe (createdUnix : ℕ) (files : Artifacts) (selfContained encrypted : Bool) : Manifest where
  schema := backupSchema
  version := formatVersion selfContained files.phoenixdIndex.isSome
  createdUnix := createdUnix
  stateDb := true
  fedimintConfig := files.fedimintConfig.isSome
  operatorSeed := files.seed.isSome
  phoenixdIndex := files.phoenixdIndex.isSome
  selfContained := selfContained
  fedimintDir := files.fedimint.isSome
  federations := (files.fedimint.map listSubdirs).getD []
  encrypted := encrypted

/-- `backup_plaintext` -/
def backupPlaintext (createdUnix : ℕ) (dir : DataDir) : Except Failure (BackupSet Sealed) := do
  -- `VACUUM INTO` keeps the rows, so the snapshot is the database itself.
  let snapshot := dir.stateDb
  let fedimint ← walked copyDirRecursive (isDir dir.fedimint)
  let fedimintConfig ← copyIfPresent .secretNotRegular dir.fedimintConfig
  let seed ← copyIfPresent .secretNotRegular dir.seed
  let selfContained := snapshotIsSelfContained snapshot
  let phoenixdIndex ←
    bif selfContained then .ok none else vacuumIfPresent tools dir.phoenixdIndex
  let files : Artifacts := ⟨some snapshot, seed, fedimintConfig, phoenixdIndex, fedimint⟩
  return ⟨describe createdUnix files selfContained false, files, none⟩

/-- `backup_encrypted`: the present set is determined first, the archive is written after. -/
def backupEncrypted (createdUnix : ℕ) (dir : DataDir) (passphrase : String) :
    Except Failure (BackupSet Sealed) := do
  let root ← fedimintRootIsRealDir dir.fedimint
  let fedimintConfig ← copyIfPresent .secretNotRegular dir.fedimintConfig
  let seed ← copyIfPresent .secretNotRegular dir.seed
  let present ← copyIfPresent .secretNotRegular dir.phoenixdIndex
  let snapshot := dir.stateDb
  let selfContained := snapshotIsSelfContained snapshot
  let phoenixdIndex ← vacuumPresent tools (bif selfContained then none else present)
  let fedimint ← walked tarAppendDirRecursive root
  let files : Artifacts := ⟨some snapshot, seed, fedimintConfig, phoenixdIndex, fedimint⟩
  return ⟨describe createdUnix files selfContained true, ⟨none, none, none, none, none⟩,
    some (tools.encrypt passphrase files)⟩

/-- The characters `str::trim` takes off: Unicode's `White_Space`. -/
def whiteSpace (char : Char) : Bool :=
  (9 ≤ char.toNat && char.toNat ≤ 13) ||
    char.toNat ∈ [0x20, 0x85, 0xA0, 0x1680, 0x2028, 0x2029, 0x202F, 0x205F, 0x3000] ||
    (0x2000 ≤ char.toNat && char.toNat ≤ 0x200A)

/-- `pw.trim().is_empty()` -/
def blank (passphrase : String) : Bool := passphrase.toList.all whiteSpace

/-- `backup` of a directory with a state DB into an empty destination. -/
def backup (createdUnix : ℕ) (dir : DataDir) (passphrase : Option String) :
    Except Failure (BackupSet Sealed) :=
  if passphrase.any blank then .error .emptyPassphrase
  else
    match passphrase with
    | none => backupPlaintext tools createdUnix dir
    | some passphrase => backupEncrypted tools createdUnix dir passphrase

/-! ### Restore -/

/-- The components of a path, between its slashes. -/
def components (path : String) : List String := (path.toList.splitOn '/').map String.ofList

/-- A component that stays on the way from a directory to the root. -/
def dots (component : String) : Bool := component ∈ ["", ".", ".."]

/-- A walk from a directory of a tree, with the directories it lies in. A link, and a way out of the
tree, lead `elsewhere`; the directories above the tree are directories. -/
def walkDirs (elsewhere : Bool) : Tree → List Tree → List String → Bool
  | _, _, [] => true
  | here, above, component :: rest =>
      if component = "" ∨ component = "." then walkDirs elsewhere here above rest
      else if component = ".." then
        match above with
        | [] => rest.all dots || elsewhere
        | parent :: above => walkDirs elsewhere parent above rest
      else
        match here.lookup component with
        | some (.dir entries) => walkDirs elsewhere entries (here :: above) rest
        | some .symlink => elsewhere
        | some (.file _) | none => false

/-- `root.join(path).is_dir()` for the root of a tree: an entry's name, or a path, where one with a
leading slash replaces the root. -/
def joinIsDir (elsewhere : String → Bool) (tree : Tree) (path : String) : Bool :=
  decide (path ∈ listSubdirs tree) ||
    match components path with
    | "" :: top :: rest => (top :: rest).all dots || elsewhere path
    | relative => walkDirs (elsewhere path) tree [] relative

/-- A manifest may name the subtree, what lies deeper in it, and what lies above it. -/
example : ["", ".", "..", "/", "a/b", "a/../a/.", "a/b/c", "../a", "a/link/.."].map
      (joinIsDir (fun _ => false)
        [("a", .dir [("b", .dir []), ("c", .file 0), ("link", .symlink)])]) =
    [true, true, true, true, true, true, false, false, false] := by
  decide +kernel

/-- A check that an artifact the manifest records is there. -/
def present (recorded found : Bool) (artifact : String) : Except Failure Unit :=
  if recorded = true ∧ found = false then .error (.missing artifact) else .ok ()

/-- The subtree and its federations are there. -/
def presentTree (manifest : Manifest) (fedimint : Option Tree) : Except Failure Unit :=
  if manifest.fedimintDir then
    match fedimint with
    | none => .error (.missing "fedimint")
    | some tree =>
        if ∀ federation ∈ manifest.federations,
            joinIsDir (tools.elsewhere manifest.encrypted) tree federation then .ok ()
        else .error (.missing "federation")
  else .ok ()

/-- What every restore checks of the manifest. -/
def checkManifest (manifest : Manifest) : Except Failure Unit :=
  if manifest.schema ≠ backupSchema then .error .foreignSchema
  else if manifest.version < minSupportedBackupFormatVersion ∨
      backupFormatVersion < manifest.version then .error .unsupportedVersion
  else if manifest.version ≠ formatVersion manifest.selfContained manifest.phoenixdIndex then
    .error .inconsistentManifest
  else .ok ()

/-- A set as a data directory. -/
def install (db : StateDb) (files : Artifacts) : DataDir where
  stateDb := db
  seed := files.seed.map .regular
  fedimintConfig := files.fedimintConfig.map .regular
  phoenixdIndex := files.phoenixdIndex.map .regular
  fedimint := files.fedimint.map .dir

/-- The restore of a plaintext set: its checks, and the copy of what the manifest records. -/
def restorePlaintext (manifest : Manifest) (files : Artifacts) : Except Failure DataDir :=
  match if manifest.stateDb then files.stateDb else none with
  | none => .error (.missing "lnrent.sqlite")
  | some db => do
      checkRestoredStateDb manifest db
      present manifest.fedimintConfig files.fedimintConfig.isSome "fedimint.json"
      present manifest.operatorSeed files.seed.isSome "operator.seed"
      present manifest.phoenixdIndex files.phoenixdIndex.isSome "phoenixd_index.db"
      presentTree tools manifest files.fedimint
      let fedimint ← walked copyDirRecursive
        (bif manifest.fedimintDir then files.fedimint else none)
      return install db
        { files with
          fedimint
          fedimintConfig := bif manifest.fedimintConfig then files.fedimintConfig else none
          seed := bif manifest.operatorSeed then files.seed else none
          phoenixdIndex := bif manifest.phoenixdIndex then files.phoenixdIndex else none }

/-- `decrypt_and_unpack`, then `finalize_decrypted_staging`. -/
def restoreEncrypted (manifest : Manifest) (age : Sealed) (passphrase : String) :
    Except Failure DataDir :=
  match tools.decrypt passphrase age with
  | none => .error .wrongPassphrase
  | some files =>
      match files.stateDb with
      | none => .error (.missing "lnrent.sqlite")
      | some db => do
          present manifest.operatorSeed files.seed.isSome "operator.seed"
          present manifest.fedimintConfig files.fedimintConfig.isSome "fedimint.json"
          present manifest.phoenixdIndex files.phoenixdIndex.isSome "phoenixd_index.db"
          presentTree tools manifest files.fedimint
          checkRestoredStateDb manifest db
          return install db files

/-- `restore` into an empty directory. -/
def restore (set : BackupSet Sealed) (passphrase : Option String) : Except Failure DataDir := do
  if passphrase.any blank then throw .emptyPassphrase
  checkManifest set.manifest
  if set.manifest.encrypted then
    match set.age, passphrase with
    | none, _ => throw (.missing "backup.age")
    | some _, none => throw .passphraseNeeded
    | some age, some passphrase => restoreEncrypted tools set.manifest age passphrase
  else if passphrase ≠ none ∨ set.age.isSome then throw .downgrade
  else restorePlaintext tools set.manifest set.files

end Bodies

end Lnrent.Backup
