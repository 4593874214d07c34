/-
**The restore, step by step on the disk** (`backup.rs`, `restore` and its helpers). The checks read the
backup directory; the set is assembled in a staging directory beside the target and swapped in. Any
step may fail, and a failing step may leave anything at the place it was writing to.

* `Disk`, `Place` — the data directory, the staging directory, and where the old one is moved to;
* `Source` — a backup directory; `Request` — how `restore` was called;
* `verify`, `checkTarget`, `assemble` — the refusals, and the staged set; `withStaging`;
* `swapIntoPlace`, `swapViaMoveAside` — the installation; `restore` — all of it.

Permissions are left out, and `fsync` only may fail. Copying a tree, unpacking an archive and removing a
directory are one step each.
-/

import Lnrent.Daemon.Backup
import Lnrent.Transition.Faulty

namespace Lnrent.Restore

open Transition Backup

/-! ### The disk -/

/-- What stands in a directory: the files a restore knows, and any others. -/
structure Content where
  files : Artifacts
  others : Tree

def Content.empty : Content := ⟨⟨none, none, none, none, none⟩, []⟩

/-- What stands at a path. -/
inductive Place where
  | nothing
  | file
  | dir (content : Content)

/-- The paths a restore writes to. -/
structure Disk where
  /-- `data_dir` -/
  target : Place
  /-- `.lnrent-restore-staging-<pid>-<nanos>` -/
  staging : Place
  /-- `.lnrent-restore-old-<pid>-<nanos>` -/
  aside : Place

/-- A backup directory. `none` stands for a file that is missing or not regular. -/
structure Source (Sealed : Type) where
  /-- `MANIFEST.json`, where it can be read. -/
  manifest : Option Manifest
  files : Artifacts
  /-- `backup.age` -/
  age : Option Sealed
  /-- Something else stands at `backup.age`. -/
  ageIrregular : Bool

/-- **A call of `restore`.** -/
structure Request where
  /-- The source and the data directory are not disjoint. -/
  overlap : Bool
  force : Bool
  passphrase : Option String
  /-- The file system has `RENAME_EXCHANGE`. -/
  exchange : Bool

inductive Error where
  /-- One of the checks of the set. -/
  | refused (why : Failure)
  | overlap
  | manifestUnreadable
  | targetNotDirectory
  | targetNotEmpty
  /-- A step failed. -/
  | io
  /-- `exchange_unsupported` -/
  | unsupported
  /-- The directory entry of the target could not be made durable. -/
  | durability
deriving DecidableEq

/-- The steps of a restore. -/
abbrev Steps (α : Type) := Faulty Disk Place Error α

/-! ### Steps -/

/-- A step that changes none of the paths. -/
def consult (error : Error := .io) : Steps Unit := .step error id fun _ => id

def refuse (condition : Bool) (error : Error) : Steps Unit :=
  .check (if condition then .error error else .ok ())

def checked {α : Type} (verdict : Except Failure α) : Steps α := .check (verdict.mapError .refused)

/-- A step that writes to the staging directory. -/
def stage (change : Place → Place) : Steps Unit :=
  .step .io (fun disk => { disk with staging := change disk.staging })
    fun debris disk => { disk with staging := debris }

/-- A file is put into the directory. -/
def Place.put (write : Artifacts → Artifacts) : Place → Place
  | .dir content => .dir { content with files := write content.files }
  | place => place

def Place.isFile : Place → Bool
  | .file => true
  | _ => false

def Place.nonEmpty : Place → Bool
  | .dir ⟨⟨none, none, none, none, none⟩, []⟩ => false
  | .dir _ => true
  | _ => false

section Bodies

variable {Sealed : Type} (tools : Tools Sealed) (source : Source Sealed) (request : Request)

/-! ### The checks -/

/-- Step 2 for a set whose manifest says it is encrypted. -/
def verifyEncrypted : Steps Unit := do
  consult
  refuse source.age.isNone (.refused (.missing "backup.age"))
  refuse request.passphrase.isNone (.refused .passphraseNeeded)

/-- Step 2 for a plaintext set. -/
def verifyPlaintext (manifest : Manifest) : Steps Unit := do
  refuse request.passphrase.isSome (.refused .downgrade)
  consult
  refuse (source.age.isSome || source.ageIrregular) (.refused .downgrade)
  match (if manifest.stateDb then source.files.stateDb else none) with
  | none => .fail (.refused (.missing "lnrent.sqlite"))
  | some db => do
      consult
      checked (checkRestoredStateDb manifest db)
      checked (present manifest.fedimintConfig source.files.fedimintConfig.isSome "fedimint.json")
      checked (present manifest.operatorSeed source.files.seed.isSome "operator.seed")
      checked (present manifest.phoenixdIndex source.files.phoenixdIndex.isSome "phoenixd_index.db")
      checked (presentTree tools manifest source.files.fedimint)

def verifySet (manifest : Manifest) : Steps Unit :=
  if manifest.encrypted then verifyEncrypted source request
  else verifyPlaintext tools source request manifest

/-- Steps 0 to 2: the arguments, the manifest, and the set. -/
def verify : Steps Manifest := do
  refuse request.overlap .overlap
  refuse (request.passphrase.any blank) (.refused .emptyPassphrase)
  consult
  match source.manifest with
  | none => .fail .manifestUnreadable
  | some manifest => do
      checked (checkManifest manifest)
      verifySet tools source request manifest
      return manifest

/-- Step 3. -/
def checkTarget : Steps Unit := do
  consult
  let disk ← .inspect
  refuse disk.target.isFile .targetNotDirectory
  refuse (disk.target.nonEmpty && !request.force) .targetNotEmpty

/-! ### The staged set -/

/-- The copies of a plaintext set: what the manifest records. -/
def assemblePlaintext (manifest : Manifest) : Steps Unit := do
  stage (.put fun files => { files with stateDb := source.files.stateDb })
  let fedimint ← checked (walked copyDirRecursive
    (bif manifest.fedimintDir then source.files.fedimint else none))
  stage (.put fun files => { files with fedimint })
  stage (.put fun files => { files with
    fedimintConfig := bif manifest.fedimintConfig then source.files.fedimintConfig else none })
  stage (.put fun files => { files with
    seed := bif manifest.operatorSeed then source.files.seed else none })
  stage (.put fun files => { files with
    phoenixdIndex := bif manifest.phoenixdIndex then source.files.phoenixdIndex else none })

/-- `harden_and_fsync_tree`: its walk refuses a symlink by the same rule as a copy does. -/
def hardenAndFsyncTree (files : Artifacts) : Steps Unit := do
  consult
  let _ ← checked (walked copyDirRecursive files.fedimint)
  consult

/-- `finalize_decrypted_staging`, of what was unpacked. -/
def finalizeDecryptedStaging (manifest : Manifest) (files : Artifacts) : Steps Unit :=
  match files.stateDb with
  | none => .fail (.refused (.missing "lnrent.sqlite"))
  | some db => do
      checked (present manifest.operatorSeed files.seed.isSome "operator.seed")
      checked (present manifest.fedimintConfig files.fedimintConfig.isSome "fedimint.json")
      checked (present manifest.phoenixdIndex files.phoenixdIndex.isSome "phoenixd_index.db")
      checked (presentTree tools manifest files.fedimint)
      consult
      checked (checkRestoredStateDb manifest db)
      hardenAndFsyncTree files

/-- `decrypt_and_unpack`, then `finalize_decrypted_staging`. -/
def assembleEncrypted (manifest : Manifest) : Steps Unit :=
  match request.passphrase, source.age with
  | some passphrase, some age =>
      match tools.decrypt passphrase age with
      -- what was unpacked so far goes with the staging directory
      | none => .fail (.refused .wrongPassphrase)
      | some files => do
          stage (.put fun _ => files)
          finalizeDecryptedStaging tools manifest files
  | _, _ => .fail (.refused .passphraseNeeded)

def assembleSet (manifest : Manifest) : Steps Unit :=
  if manifest.encrypted then assembleEncrypted tools source request manifest
  else assemblePlaintext source manifest

def assemble (manifest : Manifest) : Steps Unit := do
  assembleSet tools source request manifest
  -- `fsync_dir(stage)`
  consult

/-- `remove_dir_all(staging)` -/
def removeStaging : Steps Unit := stage fun _ => .nothing

/-- `with_staging`: the half-built directory of a failed build is removed. -/
def withStaging (build : Steps Unit) : Steps Unit := do
  removeStaging
  stage fun _ => .dir .empty
  match ← build.attempt with
  | .ok () => return ()
  | .error error => do
      let _ ← removeStaging.attempt
      .fail error

/-! ### The installation -/

/-- `rename_exchange(staging, data_dir)` -/
def renameExchange : Steps Unit := do
  refuse (!request.exchange) .unsupported
  .step .io (fun disk => { disk with target := disk.staging, staging := disk.target }) fun _ => id

/-- `rename(staging, data_dir)` -/
def renameStaging : Steps Unit :=
  .step .io (fun disk => { disk with target := disk.staging, staging := .nothing }) fun _ => id

/-- `rename(data_dir, old)` -/
def moveAside : Steps Unit :=
  .step .io (fun disk => { disk with target := .nothing, aside := disk.target }) fun _ => id

/-- `rename(old, data_dir)`, the rollback. -/
def moveBack : Steps Unit :=
  .step .io (fun disk => { disk with target := disk.aside, aside := .nothing }) fun _ => id

/-- `remove_dir_all(old)` -/
def removeAside : Steps Unit :=
  .step .io (fun disk => { disk with aside := .nothing }) fun debris disk => { disk with aside := debris }

/-- `swap_via_move_aside` -/
def swapViaMoveAside : Steps Unit := do
  removeAside
  moveAside
  match ← renameStaging.attempt with
  | .ok () => do
      let _ ← removeAside.attempt
      return ()
  | .error _ => do
      let _ ← moveBack.attempt
      let _ ← removeStaging.attempt
      .fail .io

/-- The swap over an existing directory. -/
def swapOver : Steps Unit := do
  match ← (renameExchange request).attempt with
  | .ok () => do
      let _ ← removeStaging.attempt
      return ()
  | .error .unsupported => swapViaMoveAside
  | .error _ => do
      let _ ← removeStaging.attempt
      .fail .io

def installOver : Place → Steps Unit
  | .nothing => renameStaging
  | _ => swapOver request

/-- **`swap_into_place`** -/
def swapIntoPlace : Steps Unit := do
  let disk ← .inspect
  installOver request disk.target
  -- `fsync_dir(parent)`
  consult .durability

/-! ### The restore -/

/-- Everything up to the swap. -/
def prepare : Steps Manifest := do
  let manifest ← verify tools source request
  checkTarget request
  -- `create_dir_all(parent)`
  consult
  withStaging (assemble tools source request manifest)
  return manifest

/-- **`restore`** -/
def restore : Steps Manifest := do
  let manifest ← prepare tools source request
  swapIntoPlace request
  return manifest

end Bodies

end Lnrent.Restore
