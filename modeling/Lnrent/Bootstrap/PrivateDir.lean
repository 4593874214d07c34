/-
**Where the data dir lies, nobody else can change.** For every host, every disk and every run of
`create_private_dir_all` in which other users act between any two calls of the system:

* `Owed` — what each phase owes to the end: as far as the second look has come, the path is pinned;
* `safe_call`, `safe_foreign` — every call and every act of another user keeps that;
* `path_pinned` — a vetted path that was accepted stays where it is;
* `data_dir_pinned` — **so does the data dir**, however it was given, and nobody else can write to
  it.

Two windows stay open, and the theorem says which: a component that was missing at the second look
(`Phase.done _ true`), and a leaf that appeared between the two questions for it.
-/

import Lnrent.Daemon.DataDir

namespace Lnrent.DataDir

open Files

/-! ### What a look says -/

/-- A pinned path, and the directory at its end. -/
structure Leads (trusted : UInt32 → Prop) (disk : Disk) (path : List String) (leaf : ℕ) (file : File) :
    Prop where
  pinned : Pinned trusted disk 0 path leaf
  found : disk leaf = some file
  trusty : Trusty trusted file

section Look

variable {host : Host} {disk : Disk} {answer : Answer} {path : List String} {leaf : ℕ}
  {file below : File} {name : String}

theorem Leads.parent (leads : Leads host.trusts disk path leaf file) (name : String) :
    parent disk (path ++ [name]) = some (leaf, file) := by
  unfold DataDir.parent
  rw [List.dropLast_concat, leads.pinned.walk, Option.bind_some, leads.found, Option.bind_some,
    if_pos leads.trusty.isDirectory]

/-- What is found at the end of a pinned path. -/
theorem Leads.lstat (leads : Leads host.trusts disk path leaf file)
    (seen : lstat disk answer (path ++ [name]) = .found below) :
    ∃ child, file.entry name = some child ∧ disk child = some below := by
  unfold DataDir.lstat at seen
  rw [List.getLast?_concat] at seen
  simp only [leads.parent name] at seen
  split_ifs at seen
  cases entry : (file.entry name).bind disk with
  | none => rw [entry] at seen; cases seen
  | some other =>
      rw [entry] at seen
      obtain rfl : other = below := by cases seen; rfl
      exact Option.bind_eq_some_iff.mp entry

/-- A component that is accepted is a directory of a trusted owner, and guarded unless it is the
leaf. -/
theorem vetComponent_ok {seen : Seen} {depth : ℕ} {isLeaf : Bool}
    (accepted : vetComponent host seen depth isLeaf = .ok true) :
    ∃ file, seen = .found file ∧ Trusty host.trusts file ∧ (isLeaf = false → Guarded file) := by
  unfold vetComponent at accepted
  cases seen with
  | missing | failed => cases accepted
  | found file =>
      refine ⟨file, rfl, ?_⟩
      cases kind : file.kind with
      | link | plain => simp only [kind] at accepted; cases accepted
      | directory entries =>
          simp only [kind] at accepted
          unfold dirComponentHazard at accepted
          split_ifs at accepted with foreign closed open_
          · have guarded : Guarded file := fun shared => absurd (closed.symm.trans shared) (by decide)
            exact ⟨⟨by unfold File.isDirectory; rw [kind], foreign⟩, fun _ => guarded⟩
          · refine ⟨⟨by unfold File.isDirectory; rw [kind], foreign⟩, fun inner _ => ?_⟩
            by_contra loose
            exact open_ ⟨inner, Bool.eq_false_iff.mpr loose⟩

/-- One more component is accepted. -/
theorem Leads.down (leads : Leads host.trusts disk path leaf file) (guarded : Guarded file)
    (seen : DataDir.lstat disk answer (path ++ [name]) = .found below)
    (safe : Trusty host.trusts below) :
    ∃ child, Leads host.trusts disk (path ++ [name]) child below := by
  obtain ⟨child, entry, there⟩ := leads.lstat seen
  exact ⟨child, leads.pinned.snoc
    (.intro file below leads.found leads.trusty guarded entry there safe), there, safe⟩

/-- The last entry of a pinned path. -/
theorem Leads.up (leads : Leads host.trusts disk (path ++ [name]) leaf file) :
    ∃ inode above, Leads host.trusts disk path inode above ∧ above.entry name = some leaf := by
  obtain ⟨pinned, found, trusty⟩ := leads
  have split : ∀ (rest : List String) (start : ℕ), Pinned host.trusts disk start (rest ++ [name]) leaf →
      ∃ inode, Pinned host.trusts disk start rest inode ∧ Held host.trusts disk inode name leaf := by
    intro rest
    induction rest with
    | nil =>
        intro start pinned
        cases pinned with
        | down held last =>
            cases last
            exact ⟨start, .here start, held⟩
    | cons first rest ih =>
        intro start pinned
        cases pinned with
        | down held last =>
            obtain ⟨inode, upper, end_⟩ := ih _ last
            exact ⟨inode, .down held upper, end_⟩
  obtain ⟨inode, upper, held⟩ := split path 0 pinned
  obtain ⟨above, _, there, trusty', _, entry, _, _⟩ := held
  exact ⟨inode, above, ⟨upper, there, trusty'⟩, entry⟩

/-- A directory that is opened by a pinned path is the one at its end. -/
theorem Leads.openDirectory {inode depth : ℕ} (leads : Leads host.trusts disk path leaf file)
    (opened : openDirectory disk answer depth path = .ok inode) : inode = leaf := by
  rcases List.eq_nil_or_concat path with rfl | ⟨rest, name, rfl⟩
  · have root : leaf = 0 := by
      have walked := leads.pinned.walk
      exact (Option.some.inj walked).symm
    unfold DataDir.openDirectory at opened
    split_ifs at opened
    simp only [List.getLast?_nil] at opened
    rw [root]
    exact (Except.ok.inj opened).symm
  · rw [List.concat_eq_append] at *
    obtain ⟨above, aboveFile, upper, entry⟩ := leads.up
    unfold DataDir.openDirectory at opened
    split_ifs at opened
    rw [List.getLast?_concat] at opened
    simp only [upper.parent name, entry] at opened
    split_ifs at opened
    exact (Except.ok.inj opened).symm

/-- What is seen at a pinned path is the directory at its end. -/
theorem Leads.seen (leads : Leads host.trusts disk path leaf file)
    (seen : DataDir.lstat disk answer path = .found below) : below = file := by
  rcases List.eq_nil_or_concat path with rfl | ⟨rest, name, rfl⟩
  · have root : leaf = 0 := (Option.some.inj leads.pinned.walk).symm
    have there := leads.found
    rw [root] at there
    unfold DataDir.lstat at seen
    split_ifs at seen
    simp only [List.getLast?_nil, there] at seen
    cases seen
    rfl
  · rw [List.concat_eq_append] at *
    obtain ⟨above, aboveFile, upper, entry⟩ := leads.up
    obtain ⟨child, entry', there⟩ := upper.lstat seen
    obtain rfl := Option.some.inj (entry.symm.trans entry')
    exact Option.some.inj (there.symm.trans leads.found)

/-! ### What others do, and a chmod -/

/-- Another user leaves a pinned path, and the mode at its end. -/
theorem Leads.act {uid : UInt32} {act : Act} (foreign : ¬ host.trusts uid)
    (allowed : disk.allows uid act = true) (leads : Leads host.trusts disk path leaf file) :
    ∃ after, Leads host.trusts (disk.act act) path leaf after ∧ after.mode = file.mode := by
  obtain ⟨after, found, trusty, mode⟩ := leads.trusty.act foreign allowed leads.found
  exact ⟨after, ⟨leads.pinned.act foreign allowed, found, trusty⟩, mode⟩

theorem private_closed : shared 0x1C0 = false := by decide

/-- A chmod to `0o700` leaves it too, and closes what it changes. -/
theorem Leads.chmod (leads : Leads host.trusts disk path leaf file) (inode : ℕ) :
    ∃ after, Leads host.trusts (disk.act (.chmod inode 0x1C0)) path leaf after ∧
      (after.mode = file.mode ∨ shared after.mode = false) ∧
      (inode = leaf → shared after.mode = false) := by
  have pinned : Pinned host.trusts (disk.act (.chmod inode 0x1C0)) 0 path leaf :=
    leads.pinned.mono fun _ _ _ held => held.chmod private_closed
  by_cases same : leaf = inode
  · subst same
    refine ⟨{ file with mode := 0x1C0 }, ⟨pinned, ?_, ?_⟩, .inr private_closed, fun _ => private_closed⟩
    · exact (disk.set_self leaf _).trans (by rw [leads.found]; rfl)
    · exact ⟨leads.trusty.isDirectory, leads.trusty.owner⟩
  · exact ⟨file, ⟨pinned, (disk.set_other _ same).trans leads.found, leads.trusty⟩, .inl rfl,
      fun other => absurd other.symm same⟩

end Look

/-! ### What is owed -/

/-- **What a phase owes**: the path that is pinned by then, and a condition on the inode and the mode at
its end. -/
def Owed (path : List String) : Phase → Option (List String × (ℕ → UInt32 → Prop))
  | .rescanning _ (depth + 1) false =>
      some (path.take depth, fun _ mode =>
        depth < path.length ∧ (shared mode = true → sticky mode = true))
  | .hardening before false todo =>
      some (path, fun _ mode =>
        path.length ∈ before.created → path.length ∈ todo ∨ shared mode = false)
  | .chmodding before false depth inode todo =>
      some (path, fun leaf mode => path.length ∈ before.created →
        path.length ∈ todo ∨ depth = path.length ∧ inode = leaf ∨ shared mode = false)
  | .leafStat before false =>
      some (path, fun _ mode => path.length ∈ before.created → shared mode = false)
  | .leafAccess _ false => some (path, fun _ mode => shared mode = false)
  | .done before false =>
      some (path, fun _ mode =>
        before.leafPreexisted = true ∨ path.length ∈ before.created → shared mode = false)
  | _ => none

/-- What is owed is there. -/
def Safe (host : Host) (path : List String) (disk : Disk) (phase : Phase) : Prop :=
  ∀ owed ∈ Owed path phase, ∃ leaf file,
    Leads host.trusts disk owed.1 leaf file ∧ owed.2 leaf file.mode

section Step

variable {host : Host} {path : List String} {disk : Disk} {phase : Phase}

/-- **Another user takes nothing of it away.** -/
theorem safe_foreign {uid : UInt32} {act : Act} (foreign : ¬ host.trusts uid)
    (allowed : disk.allows uid act = true) (safe : Safe host path disk phase) :
    Safe host path (disk.act act) phase := by
  intro owed is
  obtain ⟨leaf, file, leads, holds⟩ := safe owed is
  obtain ⟨after, leads', mode⟩ := leads.act foreign allowed
  exact ⟨leaf, after, leads', mode ▸ holds⟩

theorem safe_none (nothing : Owed path phase = none) : Safe host path disk phase := by
  intro owed is
  rw [nothing] at is
  cases is

theorem Safe.intro {rest : List String} {holds : ℕ → UInt32 → Prop} {leaf : ℕ} {file : File}
    (is : Owed path phase = some (rest, holds)) (leads : Leads host.trusts disk rest leaf file)
    (true_ : holds leaf file.mode) : Safe host path disk phase := by
  intro owed member
  rw [is] at member
  obtain rfl := Option.some.inj member
  exact ⟨leaf, file, leads, true_⟩

theorem Safe.elim {rest : List String} {holds : ℕ → UInt32 → Prop}
    (safe : Safe host path disk phase) (is : Owed path phase = some (rest, holds)) :
    ∃ leaf file, Leads host.trusts disk rest leaf file ∧ holds leaf file.mode := safe _ is

/-- The chmods that are left, and then the check of a leaf that was there. -/
theorem safe_harden {before : Before} {todo : List ℕ} {leaf : ℕ} {file : File}
    (leads : Leads host.trusts disk path leaf file)
    (hardened : path.length ∈ before.created → path.length ∈ todo ∨ shared file.mode = false) :
    Safe host path disk (harden before false todo) := by
  cases todo with
  | cons depth rest => exact .intro rfl leads hardened
  | nil =>
      have closed : path.length ∈ before.created → shared file.mode = false :=
        fun member => (hardened member).resolve_left List.not_mem_nil
      unfold harden
      split_ifs with preexisted
      · exact .intro rfl leads closed
      · exact .intro rfl leads fun either => closed (either.resolve_left preexisted)

theorem harden_missed (before : Before) (todo : List ℕ) :
    Owed path (harden before true todo) = none := by
  cases todo with
  | cons => rfl
  | nil =>
      unfold harden
      split_ifs <;> rfl

/-- A pair of a disk and a phase is safe. -/
abbrev SafeAt (host : Host) (path : List String) (state : Disk × Phase) : Prop :=
  Safe host path state.1 state.2

/-- **The second look** pins one component after the other. -/
theorem safe_rescanning {before : Before} {depth : ℕ} {missed : Bool} (answer : Answer)
    (safe : Safe host path disk (.rescanning before depth missed)) :
    SafeAt host path (advance host path disk answer (.rescanning before depth missed)) := by
  cases accepted : vetComponent host (lstat disk answer (path.take depth)) depth
      (depth == path.length) with
  | error refused =>
      simp only [advance, accepted]
      exact safe_none rfl
  | ok there =>
      simp only [advance, accepted]
      by_cases clean : missed = false ∧ there = true
      · obtain ⟨rfl, rfl⟩ := clean
        obtain ⟨below, seen, trusty, guards⟩ := vetComponent_ok accepted
        have reached : ∃ child, Leads host.trusts disk (path.take depth) child below := by
          cases depth with
          | zero =>
              have seen' : lstat disk answer [] = .found below := seen
              unfold lstat at seen'
              split_ifs at seen'
              simp only [List.getLast?_nil] at seen'
              cases root : disk 0 with
              | none => rw [root] at seen'; cases seen'
              | some file =>
                  rw [root] at seen'
                  cases seen'
                  exact ⟨0, .here 0, root, trusty⟩
          | succ depth =>
              obtain ⟨inode, file, leads, inner, guarded⟩ := safe.elim rfl
              have next : path.take (depth + 1) = path.take depth ++ [path[depth]] :=
                List.take_succ_eq_append_getElem inner
              rw [next] at seen ⊢
              exact leads.down guarded seen trusty
        obtain ⟨child, leads⟩ := reached
        split_ifs with inner
        · have notLeaf : (depth == path.length) = false := beq_eq_false_iff_ne.mpr inner.ne
          exact .intro rfl leads ⟨inner, guards notLeaf⟩
        · rw [List.take_of_length_le (not_lt.mp inner)] at leads
          exact safe_harden leads fun member => .inl (List.mem_reverse.mpr member)
      · -- a component was missing: nothing is owed any more
        have again : (missed || !there) = true := by
          cases missed <;> cases there <;> simp at clean ⊢
        rw [again]
        split_ifs
        · exact safe_none rfl
        · exact safe_none (harden_missed before _)

/-- **A chmod** closes what it changes. -/
theorem safe_chmodding {before : Before} {depth inode : ℕ} {missed : Bool} {todo : List ℕ}
    (answer : Answer) (safe : Safe host path disk (.chmodding before missed depth inode todo)) :
    SafeAt host path (advance host path disk answer (.chmodding before missed depth inode todo)) := by
  simp only [advance]
  split_ifs
  · cases missed with
    | true => exact safe_none (harden_missed before _)
    | false =>
        obtain ⟨leaf, file, leads, owed⟩ := safe.elim rfl
        obtain ⟨after, leads', kept, closed⟩ := leads.chmod inode
        refine safe_harden leads' fun member => ?_
        rcases owed member with later | ⟨-, same⟩ | private_
        · exact .inl later
        · exact .inr (closed same)
        · rcases kept with mode | closed'
          · exact .inr (mode ▸ private_)
          · exact .inr closed'
  · exact safe_none rfl

/-- **Every call keeps what is owed.** -/
theorem safe_call (answer : Answer) (safe : Safe host path disk phase) :
    SafeAt host path (advance host path disk answer phase) := by
  cases phase with
  | vetting depth =>
      simp only [advance]
      split
      · exact safe_none rfl
      · split_ifs <;> exact safe_none rfl
  | probing => exact safe_none rfl
  | listing preexisted created depth =>
      simp only [advance]
      split_ifs
      · exact safe_none rfl
      · cases depth <;> exact safe_none rfl
  | creating before stack =>
      have fresh (stack : List (ℕ × Bool)) : Owed path (create before stack) = none := by
        cases stack <;> rfl
      cases stack with
      | nil => exact safe_none rfl
      | cons next stack =>
          obtain ⟨depth, again⟩ := next
          simp only [advance]
          split
          · exact safe_none (fresh stack)
          · split_ifs
            · exact safe_none rfl
            · cases depth <;> exact safe_none rfl
          · exact safe_none rfl
  | settling before depth stack =>
      have fresh : Owed path (create before stack) = none := by
        cases stack <;> rfl
      simp only [advance]
      split_ifs
      · exact safe_none fresh
      · exact safe_none rfl
  | rescanning before depth missed => exact safe_rescanning answer safe
  | hardening before missed todo =>
      cases missed with
      | true =>
          cases todo with
          | nil =>
              simp only [advance]
              exact safe_none (harden_missed before [])
          | cons depth todo =>
              simp only [advance]
              split <;> exact safe_none rfl
      | false =>
          obtain ⟨leaf, file, leads, owed⟩ := safe.elim rfl
          cases todo with
          | nil => exact safe_harden leads owed
          | cons depth todo =>
              cases opened : openDirectory disk answer depth (path.take depth) with
              | error refused =>
                  simp only [advance, opened]
                  exact safe_none rfl
              | ok inode =>
                  simp only [advance, opened]
                  refine .intro rfl leads fun member => ?_
                  rcases owed member with queued | private_
                  · rcases List.mem_cons.mp queued with rfl | later
                    · rw [List.take_length] at opened
                      exact .inr (.inl ⟨rfl, leads.openDirectory opened⟩)
                    · exact .inl later
                  · exact .inr (.inr private_)
  | chmodding before missed depth inode todo => exact safe_chmodding answer safe
  | leafStat before missed =>
      cases seen : lstat disk answer path with
      | missing | failed =>
          simp only [advance, seen]
          exact safe_none rfl
      | found below =>
          simp only [advance, seen]
          split_ifs with kind open_
          · exact safe_none rfl
          · exact safe_none rfl
          · cases missed with
            | true => exact safe_none rfl
            | false =>
                obtain ⟨leaf, file, leads, -⟩ := safe.elim rfl
                obtain rfl := leads.seen seen
                rw [Bool.or_eq_true, not_or] at open_
                exact .intro rfl leads (Bool.eq_false_iff.mpr open_.1)
  | leafAccess before missed =>
      simp only [advance]
      split
      · cases missed with
        | true => exact safe_none rfl
        | false =>
            obtain ⟨leaf, file, leads, closed⟩ := safe.elim rfl
            exact .intro rfl leads fun _ => closed
      · exact safe_none rfl
      · exact safe_none rfl
  | done before missed => exact safe
  | failed refused => exact safe_none rfl

end Step

/-! ### The theorem -/

/-- What is owed is there, in a state of the machine. -/
def State.Safe (host : Host) (path : List String) (state : State) : Prop :=
  DataDir.Safe host path state.disk state.phase

theorem State.Safe.step {host : Host} {path : List String} {state : State}
    (safe : state.Safe host path) (action : Action) : (step host path state action).Safe host path := by
  cases action with
  | call answer => exact safe_call answer safe
  | foreign uid act =>
      simp only [DataDir.step]
      split_ifs with may
      · exact safe_foreign may.1 may.2 safe
      · exact safe

theorem safe_run (host : Host) (path : List String) (disk : Disk) (actions : List Action) :
    ((vetting host path disk).run actions).Safe host path := by
  have start : (vetting host path disk).start.Safe host path := safe_none rfl
  exact (vetting host path disk).invariant start (fun _ action safe => safe.step action) actions

section After

variable {host : Host} {path : List String} {disk : Disk} {before : Before} {leaf : ℕ}

/-- A data dir that was accepted: the path is pinned, and the mode at its end is as it was. -/
structure Stays (host : Host) (path : List String) (leaf : ℕ) (mode : UInt32) (before : Before)
    (state : State) : Prop where
  phase : state.phase = .done before false
  leads : ∃ file, Leads host.trusts state.disk path leaf file ∧ file.mode = mode

theorem Stays.step {mode : UInt32} {state : State} (stays : Stays host path leaf mode before state)
    (action : Action) : Stays host path leaf mode before (step host path state action) := by
  obtain ⟨phase, file, leads, same⟩ := stays
  cases action with
  | call answer =>
      refine ⟨?_, file, ?_, same⟩
      · simp only [DataDir.step, phase, advance]
      · simp only [DataDir.step, phase, advance]
        exact leads
  | foreign uid act =>
      simp only [DataDir.step]
      split_ifs with may
      · obtain ⟨after, leads', mode'⟩ := leads.act may.1 may.2
        exact ⟨phase, after, leads', mode'.trans same⟩
      · exact ⟨phase, file, leads, same⟩

theorem Stays.run {mode : UInt32} (later : List Action) :
    ∀ state : State, Stays host path leaf mode before state →
      Stays host path leaf mode before ((vetting host path disk).runFrom state later) := by
  induction later with
  | nil => exact fun _ stays => stays
  | cons action rest ih => exact fun state stays => ih _ (stays.step action)

end After

/-- **A path that was accepted leads to one directory from then on.** -/
theorem path_pinned (host : Host) (path : List String) (disk : Disk) (actions : List Action)
    (before : Before)
    (accepted : ((vetting host path disk).run actions).phase = .done before false) :
    ∃ leaf, ∀ later : List Action,
      let now := ((vetting host path disk).run (actions ++ later)).disk
      Pinned host.trusts now 0 path leaf ∧ walk now 0 path = some leaf ∧
        (before.leafPreexisted = true ∨ path.length ∈ before.created →
          ∀ uid name inode, ¬ host.trusts uid → now.allows uid (.place leaf name inode) = false) := by
  have safe : Safe host path ((vetting host path disk).run actions).disk
      ((vetting host path disk).run actions).phase := safe_run host path disk actions
  rw [accepted] at safe
  obtain ⟨leaf, file, leads, closed⟩ := safe.elim rfl
  refine ⟨leaf, fun later => ?_⟩
  have stays : Stays host path leaf file.mode before
      ((vetting host path disk).runFrom ((vetting host path disk).run actions) later) :=
    Stays.run later _ ⟨accepted, file, leads, rfl⟩
  have split : (vetting host path disk).run (actions ++ later) =
      (vetting host path disk).runFrom ((vetting host path disk).run actions) later :=
    (vetting host path disk).runFrom_append actions later _
  rw [split]
  obtain ⟨after, leads', mode⟩ := stays.leads
  refine ⟨leads'.pinned, leads'.pinned.walk, fun either uid name inode foreign => ?_⟩
  have private_ : shared after.mode = false := by
    rw [mode]
    exact closed either
  have owner : (after.owner == uid) = false :=
    beq_eq_false_iff_ne.mpr fun same => foreign (same ▸ leads'.trusty.owner)
  simp only [Disk.allows, leads'.found, Option.any_some, File.mayPlace, private_, owner,
    Bool.false_and, Bool.or_false, Bool.and_false]

/-- **A data dir that was accepted stays where it is.** Take any run at whose end the data dir is
accepted, and in which no component was missing at the second look. Whatever other users do from then
on, the vetted path, which is literal, leads to the same directory, through directories of trusted
owners. If the leaf was created by the run, or was there when it was first asked for, nobody else can
change what it holds. -/
theorem data_dir_pinned (host : Host) (dir cwd : List Component) (disk : Disk)
    (actions : List Action) (before : Before)
    (accepted : ((createPrivateDirAll host dir cwd disk).run actions).phase = .done before false) :
    (Relative dir ∨ Absolute dir → Absolute cwd → absoluteDataDirForVettingFromCwd dir cwd =
        .rootDir :: (vetDirNames dir cwd).map .normal) ∧
      ∃ leaf, ∀ later : List Action,
        let path := vetDirNames dir cwd
        let now := ((createPrivateDirAll host dir cwd disk).run (actions ++ later)).disk
        Pinned host.trusts now 0 path leaf ∧ walk now 0 path = some leaf ∧
          (before.leafPreexisted = true ∨ path.length ∈ before.created →
            ∀ uid name inode, ¬ host.trusts uid →
              now.allows uid (.place leaf name inode) = false) :=
  ⟨vetDirNames_literal, path_pinned host (vetDirNames dir cwd) disk actions before accepted⟩

/-! ### A run, and the two windows -/

/-- The daemon runs as user 1000. -/
def plainHost : Host := ⟨1000, 65534⟩

/-- `/` and a sticky `/tmp`, both of root. -/
def plainDisk : Disk
  | 0 => some ⟨0, 0x1ED, .directory fun name => if name = "tmp" then some 1 else none⟩
  | 1 => some ⟨0, 0x3FF, .directory fun _ => none⟩
  | _ => none

/-- Nothing unusual happens; a new directory gets the inode. -/
def answering (inode : ℕ) : Action := .call ⟨false, .missing, 0, inode, 0x1FF, some true⟩

/-- The data dir `x/../data`, from `/tmp`, is created. -/
def quietRun : List Action := (List.replicate 12 (answering 2))

theorem data_dir_pinned_quiet :
    vetDirNames [.normal "x", .parentDir, .normal "data"] [.rootDir, .normal "tmp"] =
        ["tmp", "data"] ∧
      ∃ leaf, ∀ later : List Action,
        walk ((createPrivateDirAll plainHost [.normal "x", .parentDir, .normal "data"]
          [.rootDir, .normal "tmp"] plainDisk).run (quietRun ++ later)).disk 0 ["tmp", "data"] =
            some leaf := by
  obtain ⟨-, leaf, stays⟩ := data_dir_pinned plainHost [.normal "x", .parentDir, .normal "data"]
    [.rootDir, .normal "tmp"] plainDisk quietRun ⟨false, [2]⟩ rfl
  exact ⟨rfl, leaf, fun later => (stays later).2.1⟩

/-- User 2000 creates `/tmp/x` before the daemon does, takes it away while the second look passes it, and
puts it back. -/
def hiddenRun : List Action :=
  List.replicate 4 (answering 6) ++
    [.foreign 2000 (.make 5 ⟨2000, 0x1FF, .directory fun _ => none⟩),
      .foreign 2000 (.place 1 "x" (some 5))] ++
    List.replicate 6 (answering 6) ++ [.foreign 2000 (.place 1 "x" none), answering 6,
      .foreign 2000 (.place 1 "x" (some 5))] ++ List.replicate 3 (answering 6)

/-- It is accepted, although the component was missing; and user 2000 moves the data dir. -/
example :
    ((vetting plainHost ["tmp", "x", "data"] plainDisk).run hiddenRun).phase =
        .done ⟨false, [3]⟩ true ∧
      walk ((vetting plainHost ["tmp", "x", "data"] plainDisk).run
        (hiddenRun ++ [.foreign 2000 (.place 5 "data" none)])).disk 0 ["tmp", "x", "data"] = none :=
  ⟨rfl, rfl⟩

end Lnrent.DataDir
