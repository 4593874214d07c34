/-
**The private data dir** (`config.rs`: `create_private_dir_all` and what it calls). Every component of
the path is looked at before and after the missing ones are created; other users change the disk
between any two calls of the system.

* `normalizePathLexically`, `vetDirNames` — the path that is vetted;
* `dirComponentHazard`, `vetComponent` — what is refused of one component;
* `Answer`, `lstat`, `mkdir`, `openDirectory` — the calls of the system. A walk through a link ends
  wherever the answer says;
* `Phase`, `advance` — `create_private_dir_all`, one call after the other;
* `vetting` — the machine: the daemon and the other users take turns in any order;
* `createPrivateDirAll` — the same for a data dir as it is given, from a working directory.

Message texts are left out; every refusal keeps the values its text names.
-/

import Lnrent.Files.Disk
import Lnrent.Transition.Machine

namespace Lnrent.DataDir

open Files

/-! ### The path -/

/-- `std::path::Component`, without the prefixes of Windows. -/
inductive Component where
  | rootDir | curDir | parentDir
  | normal (name : String)
deriving DecidableEq

/-- One turn of the loop, over the normalized components in reverse. -/
def pushComponent (normalized : List Component) : Component → List Component
  | .rootDir => [.rootDir]
  | .curDir => normalized
  | .normal name => .normal name :: normalized
  | .parentDir =>
      match normalized with
      | .normal _ :: rest => rest
      | _ => if .rootDir ∈ normalized then normalized else .parentDir :: normalized

/-- `normalize_path_lexically`. -/
def normalizePathLexically (path : List Component) : List Component :=
  let normalized := (path.foldl pushComponent []).reverse
  if normalized = [] then [.curDir] else normalized

/-- `absolute_data_dir_for_vetting_from_cwd`. -/
def absoluteDataDirForVettingFromCwd (dir cwd : List Component) : List Component :=
  normalizePathLexically (if dir.head? = some .rootDir then dir else cwd ++ dir)

/-- The names below the root of a path. -/
def names (path : List Component) : List String :=
  path.filterMap fun component =>
    match component with
    | .normal name => some name
    | _ => none

/-- The names of the path that is vetted, from the root to the leaf. -/
def vetDirNames (dir cwd : List Component) : List String :=
  names (absoluteDataDirForVettingFromCwd dir cwd)

/-- A relative path has no root. -/
def Relative (path : List Component) : Prop := .rootDir ∉ path

/-- An absolute path has its root in front, and nowhere else. -/
def Absolute (path : List Component) : Prop := ∃ below, path = .rootDir :: below ∧ Relative below

theorem pushComponent_absolute (stack : List String) {component : Component}
    (below : component ≠ .rootDir) :
    ∃ stack' : List String, pushComponent (stack.map .normal ++ [.rootDir]) component =
      stack'.map .normal ++ [.rootDir] := by
  cases component with
  | rootDir => exact absurd rfl below
  | curDir => exact ⟨stack, rfl⟩
  | normal name => exact ⟨name :: stack, rfl⟩
  | parentDir =>
      cases stack with
      | nil => exact ⟨[], rfl⟩
      | cons name rest => exact ⟨rest, rfl⟩

/-- **The vetted path is literal**: the root and names, without `.` and `..`. -/
theorem normalize_absolute (path : List Component) (relative : Relative path) :
    ∃ literal : List String,
      normalizePathLexically (.rootDir :: path) = .rootDir :: literal.map .normal := by
  have stacked : ∀ (rest : List Component) (stack : List String), Relative rest →
      ∃ stack' : List String, rest.foldl pushComponent (stack.map .normal ++ [.rootDir]) =
        stack'.map .normal ++ [.rootDir] := by
    intro rest
    induction rest with
    | nil => exact fun stack _ => ⟨stack, rfl⟩
    | cons component rest ih =>
        intro stack below
        obtain ⟨own, others⟩ := not_or.mp fun member => below (List.mem_cons.mpr member)
        obtain ⟨next, pushed⟩ := pushComponent_absolute stack (Ne.symm own)
        rw [List.foldl_cons, pushed]
        exact ih next others
  obtain ⟨stack, folded⟩ := stacked path [] relative
  refine ⟨stack.reverse, ?_⟩
  have whole : (.rootDir :: path).foldl pushComponent [] = stack.map .normal ++ [.rootDir] := folded
  unfold normalizePathLexically
  rw [whole, List.reverse_append, List.map_reverse]
  rfl

/-- **What is vetted is the literal path of its names**, from the root. -/
theorem vetDirNames_literal {dir cwd : List Component} (given : Relative dir ∨ Absolute dir)
    (working : Absolute cwd) : absoluteDataDirForVettingFromCwd dir cwd =
      .rootDir :: (vetDirNames dir cwd).map .normal := by
  have full : Absolute (if dir.head? = some .rootDir then dir else cwd ++ dir) := by
    rcases given with relative | ⟨below, rfl, relative⟩
    · obtain ⟨base, rfl, based⟩ := working
      have headless : dir.head? ≠ some .rootDir := fun first =>
        relative (List.mem_of_head? first)
      rw [if_neg headless]
      refine ⟨base ++ dir, rfl, fun member => ?_⟩
      exact (List.mem_append.mp member).elim based relative
    · exact ⟨below, if_pos rfl, relative⟩
  obtain ⟨below, is, relative⟩ := full
  obtain ⟨literal, normal⟩ := normalize_absolute below relative
  have vetted : absoluteDataDirForVettingFromCwd dir cwd = .rootDir :: literal.map .normal := by
    unfold absoluteDataDirForVettingFromCwd
    rw [is, normal]
  have same : vetDirNames dir cwd = literal := by
    unfold vetDirNames names
    rw [vetted]
    simp [List.filterMap_map]
  rw [vetted, same]

/-! ### One component -/

inductive DirHazard where
  | writableNonStickyAncestor | foreignOwnerWritableComponent
deriving DecidableEq

/-- Who runs the daemon, and the overflow uid of the kernel. -/
structure Host where
  euid : UInt32
  overflowUid : UInt32

/-- `existing_dir_owner_is_safe_for_euid`. -/
def Host.trusts (host : Host) (owner : UInt32) : Prop :=
  owner = host.euid ∨ owner = 0 ∨ owner = host.overflowUid

instance (host : Host) (owner : UInt32) : Decidable (host.trusts owner) :=
  inferInstanceAs (Decidable (_ ∨ _))

/-- `dir_component_hazard`. -/
def dirComponentHazard (host : Host) (owner mode : UInt32) (isLeaf : Bool) : Option DirHazard :=
  if ¬ host.trusts owner then some .foreignOwnerWritableComponent
  else if shared mode = false then none
  else if isLeaf = false ∧ sticky mode = false then some .writableNonStickyAncestor
  else none

/-- Why a data dir is refused, with the depth of the component. -/
inductive Refused where
  | statFailed (depth : ℕ)
  | symlink (depth : ℕ)
  | notDirectory (depth : ℕ)
  | hazard (depth : ℕ) (hazard : DirHazard) (owner mode : UInt32)
  /-- The data dir is `/`. -/
  | filesystemRoot
  | createFailed
  | hardenRefused (depth : ℕ)
  | hardenFailed (depth : ℕ)
  | leafShared (mode : UInt32)
  | leafNotWritable
  | accessFailed
deriving DecidableEq

/-- What a call found. -/
inductive Seen where
  | missing | failed
  | found (file : File)

/-- The body of the loop of `reject_unsafe_components`: whether the component is there, or why it is
refused. -/
def vetComponent (host : Host) (seen : Seen) (depth : ℕ) (isLeaf : Bool) : Except Refused Bool :=
  match seen with
  | .missing => .ok false
  | .failed => .error (.statFailed depth)
  | .found file =>
      match file.kind with
      | .link => .error (.symlink depth)
      | .plain => .error (.notDirectory depth)
      | .directory _ =>
          match dirComponentHazard host file.owner file.mode isLeaf with
          | some hazard => .error (.hazard depth hazard file.owner file.mode)
          | none => .ok true

/-! ### The calls of the system -/

/-- What the system answers where the disk does not decide: that the call fails, what a walk through a
link comes to and in which directory, the inode and the mode of a new directory, and the answer of
`faccessat`. -/
structure Answer where
  fails : Bool
  elsewhere : Seen
  directory : ℕ
  inode : ℕ
  mode : UInt32
  access : Option Bool

/-- The directory a path stands in, if it is walked to through directories. -/
def parent (disk : Disk) (path : List String) : Option (ℕ × File) :=
  (walk disk 0 path.dropLast).bind fun inode =>
    (disk inode).bind fun file => if file.isDirectory then some (inode, file) else none

/-- `symlink_metadata`. -/
def lstat (disk : Disk) (answer : Answer) (path : List String) : Seen :=
  if answer.fails then .failed
  else
    match path.getLast? with
    | none =>
        match disk 0 with
        | some file => .found file
        | none => .failed
    | some name =>
        match parent disk path with
        | none => answer.elsewhere
        | some (_, above) =>
            match (above.entry name).bind disk with
            | some file => .found file
            | none => .missing

/-- `metadata`, which follows a link at the end. -/
def stat (disk : Disk) (answer : Answer) (path : List String) : Seen :=
  match lstat disk answer path with
  | .found file =>
      match file.kind with
      | .link => answer.elsewhere
      | _ => .found file
  | seen => seen

/-- `exists`. -/
def pathExists (disk : Disk) (answer : Answer) (path : List String) : Bool :=
  match stat disk answer path with
  | .found _ => true
  | _ => false

/-- `is_dir`. -/
def isDir (disk : Disk) (answer : Answer) (path : List String) : Bool :=
  match stat disk answer path with
  | .found file => file.isDirectory
  | _ => false

/-- What `mkdir` came to. -/
inductive Mkdir where
  | made (disk : Disk)
  | missing
  | failed

/-- A new directory, of mode `0o700` less the umask. -/
def makeIn (host : Host) (disk : Disk) (answer : Answer) (directory : ℕ) (above : File)
    (name : String) : Mkdir :=
  if (above.entry name).isSome ∨ (disk answer.inode).isSome then .failed
  else
    .made ((disk.act (.make answer.inode
        ⟨host.euid, answer.mode &&& 0x1C0, .directory fun _ => none⟩)).act
      (.place directory name (some answer.inode)))

/-- `mkdir`. -/
def mkdir (host : Host) (disk : Disk) (answer : Answer) (path : List String) : Mkdir :=
  if answer.fails then .failed
  else
    match path.getLast? with
    | none => .failed
    | some name =>
        match parent disk path with
        | some (directory, above) => makeIn host disk answer directory above name
        | none =>
            match answer.elsewhere with
            | .missing => .missing
            | .failed => .failed
            | .found _ =>
                match disk answer.directory with
                | some above =>
                    if above.isDirectory then makeIn host disk answer answer.directory above name
                    else .failed
                | none => .failed

/-- `open` with `O_NOFOLLOW | O_DIRECTORY`. -/
def openDirectory (disk : Disk) (answer : Answer) (depth : ℕ) (path : List String) :
    Except Refused ℕ :=
  if answer.fails then .error (.hardenFailed depth)
  else
    match path.getLast? with
    | none => .ok 0
    | some name =>
        match parent disk path with
        | none =>
            match answer.elsewhere with
            | .found file =>
                if file.isDirectory then .ok answer.inode else .error (.hardenRefused depth)
            | _ => .error (.hardenFailed depth)
        | some (_, above) =>
            match above.entry name with
            | none => .error (.hardenFailed depth)
            | some child =>
                if (disk child).any File.isDirectory then .ok child
                else .error (.hardenRefused depth)

/-! ### The phases -/

/-- What was seen before anything was created: whether the leaf was there, and the depths of the
components that were missing, the leaf first. -/
structure Before where
  leafPreexisted : Bool
  created : List ℕ

/-- **Where `create_private_dir_all` stands.** After the second look it is remembered whether a
component was missing then. -/
inductive Phase where
  | vetting (depth : ℕ)
  | probing
  | listing (leafPreexisted : Bool) (created : List ℕ) (depth : ℕ)
  /-- `DirBuilder::create`; a depth whose parent was missing is tried again. -/
  | creating (before : Before) (stack : List (ℕ × Bool))
  | settling (before : Before) (depth : ℕ) (stack : List (ℕ × Bool))
  | rescanning (before : Before) (depth : ℕ) (missed : Bool)
  | hardening (before : Before) (missed : Bool) (todo : List ℕ)
  | chmodding (before : Before) (missed : Bool) (depth inode : ℕ) (todo : List ℕ)
  | leafStat (before : Before) (missed : Bool)
  | leafAccess (before : Before) (missed : Bool)
  | done (before : Before) (missed : Bool)
  | failed (refused : Refused)

/-- The next call of `DirBuilder::create`, which is over when nothing is left to create. -/
def create (before : Before) : List (ℕ × Bool) → Phase
  | [] => .rescanning before 0 false
  | stack => .creating before stack

/-- The next chmod, after which a leaf that was there is checked. -/
def harden (before : Before) (missed : Bool) : List ℕ → Phase
  | [] => if before.leafPreexisted then .leafStat before missed else .done before missed
  | todo => .hardening before missed todo

/-- **One call of the system**, and what the daemon makes of its answer. -/
def advance (host : Host) (path : List String) (disk : Disk) (answer : Answer) :
    Phase → Disk × Phase
  | .vetting depth =>
      match vetComponent host (lstat disk answer (path.take depth)) depth (depth == path.length) with
      | .error refused => (disk, .failed refused)
      | .ok _ =>
          if depth < path.length then (disk, .vetting (depth + 1))
          else if path = [] then (disk, .failed .filesystemRoot)
          else (disk, .probing)
  | .probing => (disk, .listing (pathExists disk answer path) [] path.length)
  | .listing leafPreexisted created depth =>
      if pathExists disk answer (path.take depth) then
        (disk, create ⟨leafPreexisted, created⟩ [(path.length, false)])
      else
        match depth with
        | 0 => (disk, create ⟨leafPreexisted, created ++ [0]⟩ [(path.length, false)])
        | above + 1 => (disk, .listing leafPreexisted (created ++ [above + 1]) above)
  | .creating before [] => (disk, .rescanning before 0 false)
  | .creating before ((depth, again) :: stack) =>
      match mkdir host disk answer (path.take depth) with
      | .made disk' => (disk', create before stack)
      | .missing =>
          if again then (disk, .settling before depth stack)
          else
            match depth with
            | 0 => (disk, .failed .createFailed)
            | above + 1 => (disk, .creating before ((above, false) :: (above + 1, true) :: stack))
      | .failed => (disk, .settling before depth stack)
  | .settling before depth stack =>
      if isDir disk answer (path.take depth) then (disk, create before stack)
      else (disk, .failed .createFailed)
  | .rescanning before depth missed =>
      match vetComponent host (lstat disk answer (path.take depth)) depth (depth == path.length) with
      | .error refused => (disk, .failed refused)
      | .ok there =>
          if depth < path.length then (disk, .rescanning before (depth + 1) (missed || !there))
          else (disk, harden before (missed || !there) before.created.reverse)
  | .hardening before missed [] => (disk, harden before missed [])
  | .hardening before missed (depth :: todo) =>
      match openDirectory disk answer depth (path.take depth) with
      | .error refused => (disk, .failed refused)
      | .ok inode => (disk, .chmodding before missed depth inode todo)
  | .chmodding before missed depth inode todo =>
      if answer.fails = false ∧
          (disk inode).any (fun file => file.owner == host.euid || host.euid == 0) then
        (disk.act (.chmod inode 0x1C0), harden before missed todo)
      else (disk, .failed (.hardenFailed depth))
  | .leafStat before missed =>
      match lstat disk answer path with
      | .found file =>
          if file.isDirectory = false then (disk, .failed (.notDirectory path.length))
          else if shared file.mode || sticky file.mode then
            (disk, .failed (.leafShared file.mode))
          else (disk, .leafAccess before missed)
      | _ => (disk, .failed (.statFailed path.length))
  | .leafAccess before missed =>
      match answer.access with
      | some true => (disk, .done before missed)
      | some false => (disk, .failed .leafNotWritable)
      | none => (disk, .failed .accessFailed)
  | .done before missed => (disk, .done before missed)
  | .failed refused => (disk, .failed refused)

/-! ### The machine -/

structure State where
  disk : Disk
  phase : Phase

/-- The daemon makes a call, or another user does something. -/
inductive Action where
  | call (answer : Answer)
  | foreign (uid : UInt32) (act : Act)

def step (host : Host) (path : List String) (state : State) : Action → State
  | .call answer =>
      let next := advance host path state.disk answer state.phase
      ⟨next.1, next.2⟩
  | .foreign uid act =>
      if ¬ host.trusts uid ∧ state.disk.allows uid act = true then
        { state with disk := state.disk.act act }
      else state

/-- **`create_private_dir_all`** on a disk that other users write to, from the vetted path on. -/
def vetting (host : Host) (path : List String) (disk : Disk) : Transition.Machine State Action where
  start := ⟨disk, .vetting 0⟩
  step := step host path

/-- **`create_private_dir_all`** of a data dir, with the working directory it is called from. -/
def createPrivateDirAll (host : Host) (dir cwd : List Component) (disk : Disk) :
    Transition.Machine State Action :=
  vetting host (vetDirNames dir cwd) disk

end Lnrent.DataDir
