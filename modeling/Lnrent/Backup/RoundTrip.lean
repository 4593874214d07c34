/-
**A backup restored is the directory it was taken of.** The data directories are those that boots,
imports and crashes of one fixed backend leave; the backup is plaintext or sealed.

* `Sound` — what every such directory has; `sound_run` — over every run;
* `CouldBoot`, `found` — whether the next boot gets past its checks, and the correlation rows it finds;
* `restore_backup` — the round trip; `capture_same` — the two modes keep the same set.
-/

import Lnrent.Daemon.Backup
import Lnrent.Import.AllOrNothing

namespace Lnrent.Backup

open Transition
open LegacyImport (Backend Books Legacy SideFile Phase begin_ readLegacy like bind_eq_ok)

/-! ### Trees without links -/

mutual

def Node.Plain : Node → Prop
  | .file _ => True
  | .dir entries => PlainTree entries
  | .symlink => False

/-- Plain files and directories only. -/
def PlainTree : List (String × Node) → Prop
  | [] => True
  | (_, node) :: rest => node.Plain ∧ PlainTree rest

end

mutual

theorem copyNode_plain : ∀ node : Node, node.Plain → copyNode node = .ok node
  | .file _, _ => rfl
  | .dir entries, plain => by rw [copyNode, copyDirRecursive_plain entries plain]; rfl
  | .symlink, plain => plain.elim

theorem copyDirRecursive_plain :
    ∀ tree : List (String × Node), PlainTree tree → copyDirRecursive tree = .ok tree
  | [], _ => rfl
  | (name, node) :: rest, plain => by
      rw [copyDirRecursive, copyNode_plain node plain.1, copyDirRecursive_plain rest plain.2]
      rfl

end

theorem plainTree_iff (tree : Tree) : PlainTree tree ↔ ∀ entry ∈ tree, entry.2.Plain := by
  induction tree with
  | nil => exact ⟨fun _ _ member => absurd member (by simp), fun _ => trivial⟩
  | cons entry rest ih =>
      rw [List.forall_mem_cons, ← ih]
      rfl

/-! ### The side file of a directory -/

section Sites

variable {Sealed : Type} (tools : Tools Sealed) (federation : String)

/-- What the import finds at the name of its side file. -/
def readIndex : Entry → SideFile
  | .regular bytes => ⟨true, tools.hash bytes, tools.rows bytes⟩
  | .symlink | .other => ⟨false, "", none⟩

def Node.entry : Node → Entry
  | .file bytes => .regular bytes
  | .dir _ => .other
  | .symlink => .symlink

/-- The legacy index of the configured federation. -/
def lnv2Index (tree : Tree) : Option Entry :=
  match tree.lookup federation with
  | some (.dir entries) => (entries.lookup "lnv2_index.db").map Node.entry
  | _ => none

/-- The side file of the backend. -/
def sideFile (backend : Backend) (dir : DataDir) : Option SideFile :=
  match backend with
  | .phoenixd => dir.phoenixdIndex.map (readIndex tools)
  | .lnv2 =>
      match dir.fedimint with
      | some (.dir tree) => (lnv2Index federation tree).map (readIndex tools)
      | _ => none

/-- The rename within the federation's directory. -/
def renameIn (entries : Tree) : Tree :=
  (entries.filter fun entry => entry.1 ≠ "lnv2_index.db.imported").map fun entry =>
    if entry.1 = "lnv2_index.db" then ("lnv2_index.db.imported", entry.2) else entry

def renameTree (tree : Tree) : Tree :=
  tree.map fun entry =>
    match entry.2 with
    | .dir entries => if entry.1 = federation then (entry.1, .dir (renameIn entries)) else entry
    | _ => entry

/-- The directory after `rename_imported`. -/
def renameImported (backend : Backend) (dir : DataDir) : DataDir :=
  match backend with
  | .phoenixd => { dir with phoenixdIndex := none }
  | .lnv2 =>
      match dir.fedimint with
      | some (.dir tree) => { dir with fedimint := some (.dir (renameTree federation tree)) }
      | _ => dir

/-- A directory and the boot over it. -/
structure Running where
  dir : DataDir
  phase : Phase

/-- What happens to a directory under one fixed backend. -/
inductive Step where
  /-- A step of the boot's import, a crash among them. -/
  | importing (step : LegacyImport.Step)
  /-- A boot writes the seed, the config and the client's files. -/
  | prepared (seed fedimintConfig : Option Bytes) (fedimint : Option { tree : Tree // PlainTree tree })
  /-- The daemon writes rows of its own backend. -/
  | wrote (books : Books)

/-- Rows the fixed backend may write: a phoenixd invoice is phoenixd's. -/
def OwnRows (selected : Option Backend) (db : StateDb) : Prop :=
  selected = some .phoenixd ∨ ¬ ReferencesPhoenixd db

instance (selected : Option Backend) (db : StateDb) : Decidable (OwnRows selected db) :=
  inferInstanceAs (Decidable (_ ∨ _))

/-- The import's part of the directory. -/
def site (backend : Backend) (running : Running) : LegacyImport.Site :=
  ⟨running.dir.stateDb.books, sideFile tools federation backend running.dir, running.phase⟩

/-- The state DB with other rows, the markers as they were. -/
def StateDb.withRows (db : StateDb) (books : Books) : StateDb :=
  { db with books := { books with marker := db.books.marker } }

/-- **One step** of a directory under a fixed backend; `none` is the mock backend. -/
def step (isBolt11 : String → Bool) (selected : Option Backend) (running : Running) :
    Step → Running
  | .importing next =>
      match selected with
      | none => running
      | some backend =>
          let after := LegacyImport.step isBolt11 backend (site tools federation backend running) next
          let dir := if after.file = none then renameImported federation backend running.dir
            else running.dir
          ⟨{ dir with stateDb := { dir.stateDb with books := after.books } }, after.phase⟩
  | .prepared seed fedimintConfig fedimint =>
      { running with
        dir := { running.dir with
          seed := seed.map .regular
          fedimintConfig := fedimintConfig.map .regular
          fedimint := fedimint.map fun tree => .dir tree.1 } }
  | .wrote books =>
      if OwnRows selected (running.dir.stateDb.withRows books) then
        { running with
          dir := { running.dir with stateDb := running.dir.stateDb.withRows books } }
      else running

def dirs (isBolt11 : String → Bool) (selected : Option Backend) (start : DataDir) :
    Machine Running Step where
  start := ⟨start, .idle⟩
  step := step tools federation isBolt11 selected

/-! ### What every directory has -/

/-- Absent or a regular file. -/
def Regular (entry : Option Entry) : Prop := ∀ found ∈ entry, ∃ bytes, found = .regular bytes

/-- **What boots of one fixed backend leave.** -/
structure Sound (selected : Option Backend) (dir : DataDir) : Prop where
  seed : Regular dir.seed
  fedimintConfig : Regular dir.fedimintConfig
  phoenixdIndex : Regular dir.phoenixdIndex
  fedimint : ∀ root ∈ dir.fedimint, ∃ tree, root = .dir tree ∧ PlainTree tree
  otherMarkers : dir.stateDb.otherMarkers = []
  own : dir.stateDb.books.marker ≠ none ∨ OwnRows selected dir.stateDb
  /-- An index of phoenixd that its own boot does not judge is a database. -/
  readable : selected ≠ some .phoenixd →
    ∀ bytes, dir.phoenixdIndex = some (.regular bytes) → tools.rows bytes ≠ none

theorem regular_map (bytes : Option Bytes) : Regular (bytes.map .regular) := by
  intro found member
  obtain ⟨content, -, rfl⟩ := Option.map_eq_some_iff.mp member
  exact ⟨content, rfl⟩

theorem plain_renameIn {entries : Tree} (plain : PlainTree entries) :
    PlainTree (renameIn entries) := by
  rw [plainTree_iff] at plain ⊢
  intro entry member
  obtain ⟨old, found, rfl⟩ := List.mem_map.mp member
  have kept := plain old (List.mem_filter.mp found).1
  split <;> exact kept

theorem plain_renameTree {tree : Tree} (plain : PlainTree tree) :
    PlainTree (renameTree federation tree) := by
  rw [plainTree_iff] at plain ⊢
  intro entry member
  obtain ⟨old, found, rfl⟩ := List.mem_map.mp member
  have kept := plain old found
  split
  · rename_i entries isDir
    rw [isDir] at kept
    split
    · exact plain_renameIn kept
    · rw [isDir]
      exact kept
  · exact kept

end Sites

/-! ### Rows and marker are written together -/

theorem marker_of_imported {isBolt11 : String → Bool} {backend : Backend} {file : Option SideFile}
    {before after : Books} (imported : LegacyImport.Imported isBolt11 backend file before after) :
    after.marker ≠ none := by
  obtain ⟨marker, marked, -⟩ := imported.marker
  rw [Option.mem_def.mp marked]
  simp

theorem begin_books (isBolt11 : String → Bool) (backend : Backend) (now : ℤ)
    (site : LegacyImport.Site) :
    (begin_ isBolt11 backend now site).books = site.books ∨
      (begin_ isBolt11 backend now site).books.marker ≠ none := by
  unfold begin_
  split
  · split
    · exact .inl rfl
    · split
      · rename_i done
        exact .inr (marker_of_imported
          (LegacyImport.importAbsent_imported isBolt11 done))
      · exact .inl rfl
  · refine .inl ?_
    split
    · rfl
    split
    · split <;> rfl
    split
    · rfl
    split
    · rfl
    dsimp only
    split <;> rfl

/-- The import writes rows only together with its marker. -/
theorem step_books (isBolt11 : String → Bool) (backend : Backend) (site : LegacyImport.Site)
    (next : LegacyImport.Step) :
    (LegacyImport.step isBolt11 backend site next).books = site.books ∨
      (LegacyImport.step isBolt11 backend site next).books.marker ≠ none := by
  cases next with
  | boot now =>
      unfold LegacyImport.step
      dsimp only
      split
      · exact .inl rfl
      · exact .inl rfl
      · exact begin_books isBolt11 backend now site
  | answered state =>
      unfold LegacyImport.step
      dsimp only
      split <;> exact .inl rfl
  | write =>
      unfold LegacyImport.step
      dsimp only
      split
      · split
        · rename_i done
          obtain ⟨filled, refreshed, -, -, -, written⟩ := LegacyImport.importAll_eq_ok done
          obtain ⟨-, marked⟩ := LegacyImport.writeMarker_eq_ok written
          exact .inr (by rw [marked]; simp)
        · exact .inl rfl
      · exact .inl rfl
  | renamed worked =>
      unfold LegacyImport.step
      dsimp only
      split
      · split <;> exact .inl rfl
      · exact .inl rfl
  | crash => exact .inl rfl

section Runs

variable {Sealed : Type} {tools : Tools Sealed} {federation : String} {isBolt11 : String → Bool}
  {selected : Option Backend}

theorem Sound.renamed {dir : DataDir} (sound : Sound tools selected dir) (backend : Backend) :
    Sound tools selected (renameImported federation backend dir) := by
  cases backend with
  | phoenixd =>
      exact { sound with
        phoenixdIndex := by rintro _ ⟨⟩
        readable := by rintro _ _ ⟨⟩ }
  | lnv2 =>
      unfold renameImported
      dsimp only
      split
      · rename_i tree isTree
        refine { sound with fedimint := ?_ }
        obtain ⟨_, same, plain⟩ := sound.fedimint _ isTree
        cases same
        rintro root ⟨⟩
        exact ⟨_, rfl, plain_renameTree federation plain⟩
      · exact sound

theorem Sound.withBooks {dir : DataDir} (sound : Sound tools selected dir) {books : Books}
    (same : books = dir.stateDb.books ∨ books.marker ≠ none) :
    Sound tools selected { dir with stateDb := { dir.stateDb with books } } := by
  refine { sound with own := ?_ }
  rcases same with rfl | marked
  · exact sound.own
  · exact .inl marked

theorem renameImported_stateDb (backend : Backend) (dir : DataDir) :
    (renameImported federation backend dir).stateDb = dir.stateDb := by
  unfold renameImported
  split
  · rfl
  · split <;> rfl

theorem sound_step {running : Running} (sound : Sound tools selected running.dir) (next : Step) :
    Sound tools selected (step tools federation isBolt11 selected running next).dir := by
  cases next with
  | importing next =>
      cases selected with
      | none => exact sound
      | some backend =>
          have rows := step_books isBolt11 backend (site tools federation backend running) next
          unfold step
          dsimp only
          split
          · have kept : Sound tools (some backend) (renameImported federation backend running.dir) :=
              sound.renamed backend
            refine kept.withBooks ?_
            rw [renameImported_stateDb]
            exact rows
          · exact sound.withBooks rows
  | prepared seed fedimintConfig fedimint =>
      refine { sound with
        seed := regular_map seed
        fedimintConfig := regular_map fedimintConfig
        fedimint := ?_ }
      intro root member
      obtain ⟨tree, -, rfl⟩ := Option.map_eq_some_iff.mp member
      exact ⟨tree.1, rfl, tree.2⟩
  | wrote books =>
      unfold step
      dsimp only
      split
      · rename_i own
        exact { sound with own := .inr own }
      · exact sound

theorem sound_run {start : DataDir} (sound : Sound tools selected start) (steps : List Step) :
    Sound tools selected ((dirs tools federation isBolt11 selected start).run steps).dir :=
  @Machine.invariant _ _ (dirs tools federation isBolt11 selected start)
    (fun running => Sound tools selected running.dir) sound
    (fun _ next known => sound_step known next) steps

end Runs

/-! ### What is captured -/

/-- The bytes of a regular file. -/
def bytesOf : Option Entry → Option Bytes
  | some (.regular bytes) => some bytes
  | _ => none

theorem Regular.bytes {entry : Option Entry} (regular : Regular entry) :
    (bytesOf entry).map .regular = entry := by
  cases entry with
  | none => rfl
  | some found =>
      obtain ⟨bytes, rfl⟩ := regular found rfl
      rfl

theorem Regular.copy {entry : Option Entry} (regular : Regular entry) (refusal : Failure) :
    copyIfPresent refusal entry = .ok (bytesOf entry) := by
  cases entry with
  | none => rfl
  | some found =>
      obtain ⟨bytes, rfl⟩ := regular found rfl
      rfl

section RoundTrip

variable {Sealed : Type} {tools : Tools Sealed} {federation : String} {isBolt11 : String → Bool}
  {selected : Option Backend} {dir : DataDir}

/-- The index that goes into a set: none beside a marked database. -/
def captureIndex (tools : Tools Sealed) (dir : DataDir) : Except Failure (Option Bytes) :=
  vacuumPresent tools
    (bif snapshotIsSelfContained dir.stateDb then none else bytesOf dir.phoenixdIndex)

/-- The files of a set. -/
def keep (dir : DataDir) (index : Option Bytes) : Artifacts where
  stateDb := some dir.stateDb
  seed := bytesOf dir.seed
  fedimintConfig := bytesOf dir.fedimintConfig
  phoenixdIndex := index
  fedimint := isDir dir.fedimint

/-- The set in plaintext, or under a passphrase. -/
def packed (tools : Tools Sealed) (createdUnix : ℕ) (dir : DataDir) (files : Artifacts) :
    Option String → BackupSet Sealed
  | none =>
      ⟨describe createdUnix files (snapshotIsSelfContained dir.stateDb) false, files, none⟩
  | some passphrase =>
      ⟨describe createdUnix files (snapshotIsSelfContained dir.stateDb) true,
        ⟨none, none, none, none, none⟩, some (tools.encrypt passphrase files)⟩

theorem Sound.root (sound : Sound tools selected dir) :
    dir.fedimint = none ∨ ∃ tree, dir.fedimint = some (.dir tree) ∧ PlainTree tree := by
  cases found : dir.fedimint with
  | none => exact .inl rfl
  | some root =>
      obtain ⟨tree, rfl, plain⟩ := sound.fedimint root found
      exact .inr ⟨tree, rfl, plain⟩

theorem walked_root (sound : Sound tools selected dir) :
    walked copyDirRecursive (isDir dir.fedimint) = .ok (isDir dir.fedimint) := by
  rcases sound.root with absent | ⟨tree, there, plain⟩
  · rw [absent]
    rfl
  · rw [there]
    show (copyDirRecursive tree).map some = _
    rw [copyDirRecursive_plain tree plain]
    rfl

/-- **The two modes keep the same set**: whichever is chosen, it is `keep` with the same index, and
where one fails the other does. -/
theorem capture_same (sound : Sound tools selected dir) (createdUnix : ℕ)
    (passphrase : Option String) (visible : passphrase.any blank = false) :
    backup tools createdUnix dir passphrase =
      (captureIndex tools dir).map fun index =>
        packed tools createdUnix dir (keep dir index) passphrase := by
  unfold backup
  rw [if_neg (by rw [visible]; decide)]
  have seed := fun refusal => sound.seed.copy refusal
  have config := fun refusal => sound.fedimintConfig.copy refusal
  have index := fun refusal => sound.phoenixdIndex.copy refusal
  have tree := walked_root sound
  have root : fedimintRootIsRealDir dir.fedimint = .ok (isDir dir.fedimint) := by
    rcases sound.root with absent | ⟨tree, there, -⟩
    · rw [absent]
      rfl
    · rw [there]
      rfl
  cases passphrase with
  | none =>
      dsimp only
      unfold backupPlaintext captureIndex
      rw [tree, config, seed]
      cases marked : snapshotIsSelfContained dir.stateDb with
      | true =>
          simp only [marked, packed]
          rfl
      | false =>
          simp only [marked, packed, vacuumIfPresent, index]
          show (vacuumPresent tools (bytesOf dir.phoenixdIndex)).bind _ =
            Except.map _ (vacuumPresent tools (bytesOf dir.phoenixdIndex))
          cases vacuumPresent tools (bytesOf dir.phoenixdIndex) <;> rfl
  | some passphrase =>
      dsimp only
      unfold backupEncrypted captureIndex
      rw [root, config, seed, index]
      show (vacuumPresent tools _).bind (fun taken => (walked copyDirRecursive _).bind _) =
        Except.map _ (vacuumPresent tools _)
      rw [tree]
      cases vacuumPresent tools _ <;> rfl

/-! ### The restore of a set -/

theorem present_self (recorded : Bool) (artifact : String) :
    present recorded recorded artifact = .ok () := by
  cases recorded <;> rfl

theorem cond_isSome {α : Type} (found : Option α) :
    (bif found.isSome then found else none) = found := by
  cases found <;> rfl

/-- A manifest describes its set. -/
theorem checkManifest_describe (createdUnix : ℕ) (files : Artifacts)
    (selfContained encrypted : Bool) :
    checkManifest (describe createdUnix files selfContained encrypted) = .ok () := by
  obtain ⟨db, seed, config, index, tree⟩ := files
  cases selfContained <;> cases index <;> rfl

theorem presentTree_describe (createdUnix : ℕ) (files : Artifacts)
    (selfContained encrypted : Bool) :
    presentTree tools (describe createdUnix files selfContained encrypted) files.fedimint = .ok () := by
  obtain ⟨db, seed, config, index, tree⟩ := files
  cases tree with
  | none => rfl
  | some tree => simp +contextual [presentTree, describe, joinIsDir]

/-- What the restore asks of the database: below format 2 it references no phoenixd invoice. -/
theorem checkRestoredStateDb_describe (createdUnix : ℕ) {files : Artifacts} {db : StateDb}
    (encrypted : Bool)
    (known : snapshotIsSelfContained db = true ∨ files.phoenixdIndex.isSome = true ∨
      ¬ ReferencesPhoenixd db) :
    checkRestoredStateDb (describe createdUnix files (snapshotIsSelfContained db) encrypted) db =
      .ok () := by
  unfold checkRestoredStateDb
  rw [if_neg (by simp [describe])]
  rcases known with marked | index | unreferenced
  · refine if_pos ?_
    show formatVersion (snapshotIsSelfContained db) files.phoenixdIndex.isSome ≠ _
    rw [marked]
    show (3 : ℕ) ≠ 1
    decide
  · refine if_pos ?_
    show formatVersion (snapshotIsSelfContained db) files.phoenixdIndex.isSome ≠ _
    rw [index]
    cases snapshotIsSelfContained db <;> decide
  · rw [if_neg unreferenced]
    split <;> rfl

theorem install_keep (sound : Sound tools selected dir) (index : Option Bytes) :
    install dir.stateDb (keep dir index) =
      { dir with phoenixdIndex := index.map .regular } := by
  have root : (isDir dir.fedimint).map Root.dir = dir.fedimint := by
    rcases sound.root with absent | ⟨tree, there, -⟩
    · rw [absent]
      rfl
    · rw [there]
      rfl
  unfold install keep
  dsimp only
  rw [sound.seed.bytes, sound.fedimintConfig.bytes, root]

section Set

variable (sound : Sound tools selected dir) (createdUnix : ℕ) (index : Option Bytes)
  (known : snapshotIsSelfContained dir.stateDb = true ∨ index.isSome = true ∨
    ¬ ReferencesPhoenixd dir.stateDb)

include sound known

theorem restorePlaintext_keep :
    restorePlaintext tools
        (describe createdUnix (keep dir index) (snapshotIsSelfContained dir.stateDb) false)
        (keep dir index) =
      .ok { dir with phoenixdIndex := index.map .regular } := by
  have checked : checkRestoredStateDb (describe createdUnix (keep dir index)
      (snapshotIsSelfContained dir.stateDb) false) dir.stateDb = .ok () :=
    checkRestoredStateDb_describe createdUnix false known
  unfold restorePlaintext
  show (checkRestoredStateDb _ dir.stateDb).bind _ = _
  rw [checked]
  show (present _ _ _).bind _ = _
  simp only [presentTree_describe]
  simp only [describe, present_self, cond_isSome]
  show (walked copyDirRecursive (isDir dir.fedimint)).bind _ = _
  rw [walked_root sound]
  exact congrArg Except.ok (install_keep sound index)

theorem restoreEncrypted_keep (roundTrip : ∀ passphrase files,
      tools.decrypt passphrase (tools.encrypt passphrase files) = some files)
    (passphrase : String) :
    restoreEncrypted tools
        (describe createdUnix (keep dir index) (snapshotIsSelfContained dir.stateDb) true)
        (tools.encrypt passphrase (keep dir index)) passphrase =
      .ok { dir with phoenixdIndex := index.map .regular } := by
  have checked : checkRestoredStateDb (describe createdUnix (keep dir index)
      (snapshotIsSelfContained dir.stateDb) true) dir.stateDb = .ok () :=
    checkRestoredStateDb_describe createdUnix true known
  unfold restoreEncrypted
  rw [roundTrip]
  show (present _ _ _).bind _ = _
  simp only [presentTree_describe]
  show (present _ _ _).bind (fun _ => (present _ _ _).bind fun _ => (present _ _ _).bind
    fun _ => (Except.ok ()).bind fun _ => (checkRestoredStateDb _ dir.stateDb).bind _) = _
  rw [checked]
  simp only [describe, present_self]
  exact congrArg Except.ok (install_keep sound index)

end Set

/-- **A captured set restores to the directory**, with the captured index. -/
theorem restore_packed (roundTrip : ∀ passphrase files,
      tools.decrypt passphrase (tools.encrypt passphrase files) = some files)
    (sound : Sound tools selected dir) (createdUnix : ℕ) (index : Option Bytes)
    (passphrase : Option String) (visible : passphrase.any blank = false)
    (known : snapshotIsSelfContained dir.stateDb = true ∨ index.isSome = true ∨
      ¬ ReferencesPhoenixd dir.stateDb) :
    restore tools (packed tools createdUnix dir (keep dir index) passphrase) passphrase =
      .ok { dir with phoenixdIndex := index.map .regular } := by
  have manifest := fun encrypted =>
    checkManifest_describe createdUnix (keep dir index) (snapshotIsSelfContained dir.stateDb)
      encrypted
  unfold restore
  rw [if_neg (by rw [visible]; decide)]
  cases passphrase with
  | none =>
      unfold packed
      dsimp only
      rw [manifest]
      exact restorePlaintext_keep sound createdUnix index known
  | some passphrase =>
      unfold packed
      dsimp only
      rw [manifest]
      exact restoreEncrypted_keep sound createdUnix index known roundTrip passphrase

/-! ### The next boot -/

/-- The directory as the next boot of the backend finds it. -/
def nextBoot (tools : Tools Sealed) (federation : String) (backend : Backend) (dir : DataDir) :
    LegacyImport.Site :=
  ⟨dir.stateDb.books, sideFile tools federation backend dir, .idle⟩

/-- The next boot gets past its checks. -/
def CouldBoot (tools : Tools Sealed) (federation : String) (isBolt11 : String → Bool)
    (selected : Option Backend) (now : ℤ) (dir : DataDir) : Prop :=
  ∀ backend ∈ selected, ∀ why,
    (begin_ isBolt11 backend now (nextBoot tools federation backend dir)).phase ≠ .refused why

/-- The correlation rows the next boot finds: those of a side file still to be imported, else those
of the database. -/
def foundIn (backend : Backend) (file : Option SideFile) (books : Books) : Legacy :=
  match file, books.marker with
  | some file, none => (file.legacy.map (readLegacy backend)).getD ⟨[], [], []⟩
  | _, _ => ⟨books.receive, books.pay, books.timers⟩

def found (tools : Tools Sealed) (federation : String) (backend : Backend) (dir : DataDir) :
    Legacy :=
  foundIn backend (sideFile tools federation backend dir) dir.stateDb.books

theorem foundIn_marked {backend : Backend} {file : Option SideFile} {books : Books}
    (marked : books.marker ≠ none) :
    foundIn backend file books = ⟨books.receive, books.pay, books.timers⟩ := by
  obtain ⟨marker, there⟩ := Option.ne_none_iff_exists'.mp marked
  unfold foundIn
  rw [there]
  cases file <;> rfl

theorem foundIn_legacy {backend : Backend} {file : SideFile} {books : Books}
    (unmarked : books.marker = none) :
    foundIn backend (some file) books =
      (file.legacy.map (readLegacy backend)).getD ⟨[], [], []⟩ := by
  unfold foundIn
  rw [unmarked]

theorem Sound.selfContained (sound : Sound tools selected dir) :
    snapshotIsSelfContained dir.stateDb = true ↔ dir.stateDb.books.marker ≠ none := by
  rw [snapshotIsSelfContained, decide_eq_true_iff, AnyMarker, sound.otherMarkers]
  simp

variable (isBolt11) in
/-- A boot past its checks over unmarked books without a side file found no correlation. -/
theorem not_correlationBearing (now : ℤ) {backend : Backend} {books : Books}
    (unmarked : books.marker = none)
    (boots : ∀ why, (begin_ isBolt11 backend now ⟨books, none, .idle⟩).phase ≠ .refused why) :
    ¬ LegacyImport.CorrelationBearing backend books := by
  intro bearing
  unfold begin_ LegacyImport.importAbsent at boots
  simp only [unmarked] at boots
  split at boots
  · rename_i after outcome done
    split at done
    · cases done
    · cases done
  · exact boots _ rfl

theorem not_referencesPhoenixd {db : StateDb}
    (unreferenced : ¬ LegacyImport.CorrelationBearing .phoenixd db.books) :
    ¬ ReferencesPhoenixd db := by
  rintro (⟨book, member, owned⟩ | ⟨-, ⟨row, member, paid⟩ | ⟨row, member, paid⟩⟩)
  · exact unreferenced (.inl ⟨book, member, owned⟩)
  · exact unreferenced (.inr (.inl ⟨row, member, paid⟩))
  · exact unreferenced (.inr (.inr ⟨row, member, paid⟩))

/-- A boot past its checks over unmarked books could read its side file. -/
theorem rows_of_boot {backend : Backend} {now : ℤ} {books : Books} {file : SideFile}
    (unmarked : books.marker = none)
    (boots : ∀ why, (begin_ isBolt11 backend now ⟨books, some file, .idle⟩).phase ≠ .refused why) :
    file.legacy ≠ none := by
  intro unreadable
  unfold begin_ at boots
  simp only [unmarked, unreadable] at boots
  split at boots
  · exact boots _ rfl
  split at boots
  · exact boots _ rfl
  · exact boots _ rfl

/-- The hash of a file still to be imported is not looked at. -/
theorem boot_other_hash {backend : Backend} {now : ℤ} {books : Books} {file : SideFile}
    (unmarked : books.marker = none) (hash : String)
    (boots : ∀ why, (begin_ isBolt11 backend now ⟨books, some file, .idle⟩).phase ≠ .refused why) :
    ∀ why, (begin_ isBolt11 backend now ⟨books, some { file with hash }, .idle⟩).phase ≠
      .refused why := by
  unfold begin_ at boots ⊢
  simp only [unmarked] at boots ⊢
  split at boots
  · exact absurd rfl (boots _)
  rename_i vetted
  rw [if_neg vetted]
  split at boots
  · exact absurd rfl (boots _)
  rename_i empty
  rw [if_neg empty]
  split at boots
  · exact absurd rfl (boots _)
  · split at boots
    · exact absurd rfl (boots _)
    · intro why
      simp

/-- Beside a marker a boot without a side file has nothing to check. -/
theorem boot_marked {backend : Backend} {now : ℤ} {books : Books} (marked : books.marker ≠ none) :
    ∀ why, (begin_ isBolt11 backend now ⟨books, none, .idle⟩).phase ≠ .refused why := by
  obtain ⟨marker, there⟩ := Option.ne_none_iff_exists'.mp marked
  intro why
  unfold begin_
  simp [there]

/-- The restored directory: the index of phoenixd is the captured one. -/
def withIndex (dir : DataDir) (index : Option Bytes) : DataDir :=
  { dir with phoenixdIndex := index.map .regular }

/-- **What a bootable directory captures**: the restore accepts it, and the next boot over it gets
as far and finds the same rows. -/
theorem captureIndex_boots
    (vacuums : ∀ bytes rows, tools.rows bytes = some rows →
      ∃ copy, tools.vacuum bytes = some copy ∧ tools.rows copy = some rows)
    (sound : Sound tools selected dir) {now : ℤ}
    (boots : CouldBoot tools federation isBolt11 selected now dir) :
    ∃ index, captureIndex tools dir = .ok index ∧
      (snapshotIsSelfContained dir.stateDb = true ∨ index.isSome = true ∨
        ¬ ReferencesPhoenixd dir.stateDb) ∧
      CouldBoot tools federation isBolt11 selected now (withIndex dir index) ∧
      ∀ backend ∈ selected,
        found tools federation backend (withIndex dir index) = found tools federation backend dir := by
  by_cases marked : dir.stateDb.books.marker = none
  · have open_ : snapshotIsSelfContained dir.stateDb = false :=
      Bool.eq_false_iff.mpr fun contained => sound.selfContained.mp contained marked
    have own := sound.own.resolve_left (not_not.mpr marked)
    unfold captureIndex
    rw [open_]
    cases there : dir.phoenixdIndex with
    | none =>
        have same : withIndex dir none = dir := by
          show { dir with phoenixdIndex := none } = dir
          rw [← there]
        refine ⟨none, rfl, .inr (.inr ?_), same.symm ▸ boots, fun backend _ => by rw [same]⟩
        rcases own with phoenixd | unreferenced
        · refine not_referencesPhoenixd (not_correlationBearing isBolt11 now marked ?_)
          have boot := boots .phoenixd phoenixd
          rw [nextBoot, sideFile, there] at boot
          exact boot
        · exact unreferenced
    | some entry =>
        obtain ⟨bytes, rfl⟩ := sound.phoenixdIndex entry there
        have readable : tools.rows bytes ≠ none := by
          by_cases phoenixd : selected = some .phoenixd
          · have boot := boots .phoenixd phoenixd
            rw [nextBoot, sideFile, there] at boot
            exact rows_of_boot marked boot
          · exact sound.readable phoenixd bytes there
        obtain ⟨rows, read⟩ := Option.ne_none_iff_exists'.mp readable
        obtain ⟨copy, vacuumed, copied⟩ := vacuums bytes rows read
        refine ⟨some copy, ?_, .inr (.inl rfl), ?_, ?_⟩
        · show (vacuumInto tools bytes).map some = _
          rw [vacuumInto, vacuumed]
          rfl
        · intro backend chosen
          cases backend with
          | phoenixd =>
              have boot := boots .phoenixd chosen
              rw [nextBoot, sideFile, there] at boot
              have other := boot_other_hash marked (tools.hash copy) boot
              rw [nextBoot, sideFile]
              show ∀ why, (begin_ isBolt11 .phoenixd now ⟨dir.stateDb.books,
                some ⟨true, tools.hash copy, tools.rows copy⟩, .idle⟩).phase ≠ .refused why
              rw [copied, ← read]
              exact other
          | lnv2 => exact boots .lnv2 chosen
        · intro backend chosen
          cases backend with
          | phoenixd =>
              unfold found sideFile
              rw [there]
              show foundIn .phoenixd (some (readIndex tools (.regular copy))) dir.stateDb.books =
                foundIn .phoenixd (some (readIndex tools (.regular bytes))) dir.stateDb.books
              rw [foundIn_legacy marked, foundIn_legacy marked]
              show ((tools.rows copy).map _).getD _ = ((tools.rows bytes).map _).getD _
              rw [copied, read]
          | lnv2 => rfl
  · have contained := sound.selfContained.mpr marked
    refine ⟨none, ?_, .inl contained, ?_, ?_⟩
    · unfold captureIndex
      rw [contained]
      rfl
    · intro backend chosen
      cases backend with
      | phoenixd => exact boot_marked marked
      | lnv2 => exact boots .lnv2 chosen
    · intro backend chosen
      cases backend with
      | phoenixd => exact (foundIn_marked marked).trans (foundIn_marked marked).symm
      | lnv2 => rfl

end RoundTrip

/-! ### Whole runs -/

/-- **A backup restored is the directory it was taken of.** Whatever boots, imports and crashes of
one fixed backend left: both modes keep the same set; and where the directory could boot, either
mode's backup restores to one directory with the same rows, seed, config and tree, that boots as far
and finds the same correlations. -/
theorem restore_backup {Sealed : Type} (tools : Tools Sealed)
    (vacuums : ∀ bytes rows, tools.rows bytes = some rows →
      ∃ copy, tools.vacuum bytes = some copy ∧ tools.rows copy = some rows)
    (roundTrip : ∀ passphrase files,
      tools.decrypt passphrase (tools.encrypt passphrase files) = some files)
    (federation : String) (isBolt11 : String → Bool) (selected : Option Backend) (start : DataDir)
    (sound : Sound tools selected start) (steps : List Step) (createdUnix : ℕ) :
    let dir := ((dirs tools federation isBolt11 selected start).run steps).dir
    (∀ passphrase, passphrase.any blank = false →
      backup tools createdUnix dir passphrase =
        (captureIndex tools dir).map fun index =>
          packed tools createdUnix dir (keep dir index) passphrase) ∧
      ∀ now, CouldBoot tools federation isBolt11 selected now dir →
        ∃ restored : DataDir,
          (∀ passphrase, passphrase.any blank = false →
            (backup tools createdUnix dir passphrase).bind (restore tools · passphrase) =
              .ok restored) ∧
          restored.stateDb = dir.stateDb ∧ restored.seed = dir.seed ∧
          restored.fedimintConfig = dir.fedimintConfig ∧ restored.fedimint = dir.fedimint ∧
          CouldBoot tools federation isBolt11 selected now restored ∧
          ∀ backend ∈ selected,
            found tools federation backend restored = found tools federation backend dir := by
  intro dir
  have reached : Sound tools selected dir := sound_run sound steps
  refine ⟨fun passphrase visible => capture_same reached createdUnix passphrase visible, ?_⟩
  intro now boots
  obtain ⟨index, captured, known, again, same⟩ := captureIndex_boots vacuums reached boots
  refine ⟨withIndex dir index, ?_, rfl, rfl, rfl, rfl, again, same⟩
  intro passphrase visible
  rw [capture_same reached createdUnix passphrase visible, captured]
  exact restore_packed roundTrip reached createdUnix index passphrase visible known

/-- Tools whose vacuum rewrites the bytes and keeps the rows. -/
def plainTools : Tools (String × Artifacts) where
  hash bytes := toString bytes
  rows _ := some ⟨[], [], []⟩
  vacuum bytes := some (bytes + 1)
  encrypt passphrase files := (passphrase, files)
  decrypt passphrase sealed_ := if sealed_.1 = passphrase then some sealed_.2 else none
  elsewhere _ _ := false

/-- A phoenixd directory with its seed and an index still to be imported. -/
def unimported : DataDir where
  stateDb := ⟨⟨⟨[], List.nodup_nil⟩, [], [], [], [], [], none, []⟩, [], some "phoenixd"⟩
  seed := some (.regular 1)
  fedimintConfig := none
  phoenixdIndex := some (.regular 2)
  fedimint := none

theorem restore_backup_unimported :
    ∃ restored : DataDir,
      (backup plainTools 0 unimported (some "secret")).bind
        (restore plainTools · (some "secret")) = .ok restored ∧
      restored.seed = some (.regular 1) ∧
      CouldBoot plainTools "federation" (fun _ => false) (some .phoenixd) 0 restored := by
  have sound : Sound plainTools (some .phoenixd) unimported :=
    ⟨regular_map (some 1), regular_map none, regular_map (some 2), by rintro _ ⟨⟩, rfl,
      .inr (.inl rfl), fun other => absurd rfl other⟩
  have boots : CouldBoot plainTools "federation" (fun _ => false) (some .phoenixd) 0
      unimported := by
    rintro _ ⟨⟩ why refused
    cases refused
  obtain ⟨restored, same, -, seed, -, -, again, -⟩ :=
    (restore_backup plainTools (fun bytes rows read => ⟨bytes + 1, rfl, read⟩)
      (fun passphrase files => if_pos rfl) "federation" (fun _ => false) (some .phoenixd)
      unimported sound [] 0).2 0 boots
  exact ⟨restored, same (some "secret") (by decide), seed, again⟩

end Lnrent.Backup
