/-
**A restore is all or nothing.** Whatever step of it fails, the data directory is what it was, or the
backup's set.

* `Source.set`, `Vetted` — the set a restore accepts, with the pure `Backup.restore` as its meaning;
* `prepare_ends` — what is staged before the swap is that set; `prepare_untouched` — the data directory
  is not touched before it;
* `swapIntoPlace_ends` — the swap, with its fallback and the rollback;
* `Installs` — what a vetted set restores to, `Lying` — the sets that must not be restored;
* `restore_all_or_nothing` — **the result of a restore**.
-/

import Lnrent.Daemon.Restore

namespace Lnrent.Restore

open Transition Backup

variable {Sealed : Type} {tools : Tools Sealed} {source : Source Sealed} {request : Request}
  {faults : Faults Place} {before : Traced Disk}

/-! ### The rules of the steps -/

section Steps

variable {ok : Unit → Traced Disk → Prop} {failed : Error → Traced Disk → Prop}

theorem ends_consult (error : Error) :
    Ends faults (consult error) before ok failed ↔
      (faults before.taken = none → ok () (before.reach before.state)) ∧
        ∀ debris, faults before.taken = some debris → failed error (before.reach before.state) :=
  ends_step error id fun _ => id

theorem ends_refuse (condition : Bool) (error : Error) :
    Ends faults (refuse condition error) before ok failed ↔
      (condition = false → ok () before) ∧ (condition = true → failed error before) := by
  unfold refuse
  rw [ends_check]
  cases condition with
  | false => exact ⟨fun known => ⟨fun _ => known.1 () rfl, nofun⟩, fun known => ⟨fun _ _ => known.1 rfl, nofun⟩⟩
  | true => exact ⟨fun known => ⟨nofun, fun _ => known.2 error rfl⟩,
      fun known => ⟨nofun, fun _ same => by cases same; exact known.2 rfl⟩⟩

theorem ends_checked {α : Type} {ok : α → Traced Disk → Prop} (verdict : Except Failure α) :
    Ends faults (checked verdict) before ok failed ↔
      (∀ value, verdict = .ok value → ok value before) ∧
        ∀ why, verdict = .error why → failed (.refused why) before := by
  unfold checked
  rw [ends_check]
  cases verdict <;> simp [Except.mapError]

theorem ends_stage (change : Place → Place) :
    Ends faults (stage change) before ok failed ↔
      (faults before.taken = none →
        ok () (before.reach { before.state with staging := change before.state.staging })) ∧
        ∀ debris, faults before.taken = some debris →
          failed .io (before.reach { before.state with staging := debris }) :=
  ends_step _ _ _

end Steps

/-! ### The set -/

/-- The files of the directory, with the manifest that was read. -/
def Source.set (source : Source Sealed) (manifest : Manifest) : BackupSet Sealed :=
  ⟨manifest, source.files, source.age⟩

/-- The content of a data directory of a restored set. -/
def restored (db : StateDb) (files : Artifacts) : Content := ⟨{ files with stateDb := some db }, []⟩

/-- **A set that passes every check of a restore, with what it restores to.** -/
structure Vetted (tools : Tools Sealed) (source : Source Sealed) (request : Request)
    (manifest : Manifest) (content : Content) : Prop where
  apart : request.overlap = false
  described : source.manifest = some manifest
  regular : manifest.encrypted = false → source.ageIrregular = false
  accepted : ∃ db files, Backup.restore tools (source.set manifest) request.passphrase =
    .ok (install db files) ∧ content = restored db files

/-- What the checks before the staging establish. -/
structure Verified (tools : Tools Sealed) (source : Source Sealed) (request : Request)
    (manifest : Manifest) : Prop where
  apart : request.overlap = false
  phrase : request.passphrase.any blank = false
  described : source.manifest = some manifest
  paired : checkManifest manifest = .ok ()
  sealed_ : manifest.encrypted = true → source.age.isSome = true ∧ request.passphrase.isSome = true
  plain : manifest.encrypted = false → request.passphrase = none ∧ source.age = none ∧
    source.ageIrregular = false ∧ ∃ db, (if manifest.stateDb then source.files.stateDb else none) = some db ∧
      checkRestoredStateDb manifest db = .ok () ∧
      present manifest.fedimintConfig source.files.fedimintConfig.isSome "fedimint.json" = .ok () ∧
      present manifest.operatorSeed source.files.seed.isSome "operator.seed" = .ok () ∧
      present manifest.phoenixdIndex source.files.phoenixdIndex.isSome "phoenixd_index.db" = .ok () ∧
      presentTree tools manifest source.files.fedimint = .ok ()

theorem verify_ends :
    Ends faults (verify tools source request) before
      (fun manifest _ => Verified tools source request manifest) (fun _ _ => True) := by
  unfold verify
  simp only [ends_bind, ends_refuse, ends_consult, implies_true, and_true]
  intro apart phrase _
  cases described : source.manifest with
  | none => exact (ends_fail _).mpr trivial
  | some manifest =>
      simp only [ends_bind, ends_checked, implies_true, and_true, ends_pure]
      intro _ paired
      unfold verifySet
      split
      · rename_i encrypted
        unfold verifyEncrypted
        simp only [ends_bind, ends_refuse, ends_consult, implies_true, and_true]
        intro _ age passphrase
        refine ⟨apart, phrase, described, paired, fun _ => ⟨?_, ?_⟩, fun plain => ?_⟩
        · simpa using age
        · simpa using passphrase
        · rw [encrypted] at plain
          cases plain
      · rename_i plain
        unfold verifyPlaintext
        simp only [ends_bind, ends_refuse, ends_consult, implies_true, and_true]
        intro passphrase _ age
        split
        · exact (ends_fail _).mpr trivial
        · rename_i db found
          simp only [ends_bind, ends_checked, ends_consult, implies_true, and_true]
          intro _ _ marker _ config _ seed _ index _ tree
          refine ⟨apart, phrase, described, paired, fun encrypted => absurd encrypted plain,
            fun _ => ⟨?_, ?_, ?_, db, found, marker, config, seed, index, tree⟩⟩
          · simpa using passphrase
          · simpa using (Bool.or_eq_false_iff.mp age).1
          · exact (Bool.or_eq_false_iff.mp age).2

/-! ### What is staged -/

theorem assembleEncrypted_ends {manifest : Manifest} (verified : Verified tools source request manifest)
    (encrypted : manifest.encrypted = true) (empty : before.state.staging = .dir .empty) :
    Ends faults (assembleEncrypted tools source request manifest) before
      (fun _ after => ∃ content, after.state.staging = .dir content ∧
        Vetted tools source request manifest content) (fun _ _ => True) := by
  unfold assembleEncrypted
  split
  · rename_i passphrase age phrase found
    split
    · exact (ends_fail _).mpr trivial
    · rename_i files opened
      simp only [ends_bind, ends_stage, implies_true, and_true]
      intro _
      unfold finalizeDecryptedStaging hardenAndFsyncTree
      split
      · exact (ends_fail _).mpr trivial
      · rename_i db stored
        simp only [ends_bind, ends_checked, ends_consult, implies_true, and_true]
        intro _ seed _ config _ index _ tree _ _ marker _ _ _ _
        refine ⟨restored db files, ?_, verified.apart, verified.described,
          fun plain => (nomatch plain.symm.trans encrypted), db, files, ?_, rfl⟩
        · simp only [Traced.reach_state, empty, Place.put, Content.empty, restored, ← stored]
        · have phrased : Option.any blank (some passphrase) = false := phrase ▸ verified.phrase
          unfold Backup.restore Source.set
          simp only [phrase, phrased, found, encrypted, verified.paired]
          unfold restoreEncrypted
          simp only [opened, stored, seed, config, index, tree, marker]
          rfl
  · exact (ends_fail _).mpr trivial

theorem assemblePlaintext_ends {manifest : Manifest} (verified : Verified tools source request manifest)
    (plain : manifest.encrypted = false) (empty : before.state.staging = .dir .empty) :
    Ends faults (assemblePlaintext source manifest) before
      (fun _ after => ∃ content, after.state.staging = .dir content ∧
        Vetted tools source request manifest content) (fun _ _ => True) := by
  obtain ⟨phrase, age, regular, db, found, marker, config, seed, index, tree⟩ := verified.plain plain
  unfold assemblePlaintext
  simp only [ends_bind, ends_stage, ends_checked, implies_true, and_true]
  intro _ fedimint copied _ _ _ _
  have stored : source.files.stateDb = some db := by
    split at found
    · exact found
    · cases found
  refine ⟨restored db _, ?_, verified.apart, verified.described, fun _ => regular, db,
    { source.files with
      fedimint
      fedimintConfig := bif manifest.fedimintConfig then source.files.fedimintConfig else none
      seed := bif manifest.operatorSeed then source.files.seed else none
      phoenixdIndex := bif manifest.phoenixdIndex then source.files.phoenixdIndex else none }, ?_, rfl⟩
  · simp only [Traced.reach_state, empty, Place.put, Content.empty, restored, stored]
  · unfold Backup.restore Source.set
    simp only [phrase, age, plain, verified.paired]
    unfold restorePlaintext
    simp only [found, seed, config, index, tree, marker, copied]
    rfl

theorem assemble_ends {manifest : Manifest} (verified : Verified tools source request manifest)
    (empty : before.state.staging = .dir .empty) :
    Ends faults (assemble tools source request manifest) before
      (fun _ after => ∃ content, after.state.staging = .dir content ∧
        Vetted tools source request manifest content) (fun _ _ => True) := by
  have set : Ends faults (assembleSet tools source request manifest) before
      (fun _ after => ∃ content, after.state.staging = .dir content ∧
        Vetted tools source request manifest content) (fun _ _ => True) := by
    unfold assembleSet
    split
    · rename_i encrypted
      exact assembleEncrypted_ends verified encrypted empty
    · rename_i plain
      exact assemblePlaintext_ends verified (by simpa using plain) empty
  unfold assemble
  refine (ends_bind _ _).mpr (set.mono (fun _ after staged => ?_) fun _ _ => id)
  exact (ends_consult _).mpr ⟨fun _ => staged, fun _ _ => trivial⟩

/-- A build that succeeds is what the staging holds. -/
theorem withStaging_ends {build : Steps Unit} {held : Traced Disk → Prop}
    (built : ∀ traced : Traced Disk, traced.state.staging = .dir .empty →
      Ends faults build traced (fun _ => held) fun _ _ => True) :
    Ends faults (withStaging build) before (fun _ => held) fun _ _ => True := by
  unfold withStaging removeStaging
  simp only [ends_bind, ends_stage, ends_attempt, implies_true, and_true]
  intro _ _
  refine (built _ rfl).mono (fun _ _ => id) fun _ after _ => ?_
  exact ⟨fun _ => (ends_fail _).mpr trivial, fun _ _ => (ends_fail _).mpr trivial⟩

/-- **What is swapped in is a vetted set.** -/
theorem prepare_ends :
    Ends faults (prepare tools source request) before
      (fun manifest after => ∃ content, after.state.staging = .dir content ∧
        Vetted tools source request manifest content) (fun _ _ => True) := by
  unfold prepare
  refine (ends_bind _ _).mpr (verify_ends.mono (fun manifest _ verified => ?_) fun _ _ => id)
  unfold checkTarget
  simp only [ends_bind, ends_consult, ends_inspect, ends_refuse, ends_pure, implies_true, and_true]
  intro _ _ _ _
  exact withStaging_ends fun _ empty => assemble_ends verified empty

/-! ### Before the swap -/

/-- The data directory was never anything else. -/
def Untouched (target : Place) (traced : Traced Disk) : Prop :=
  ∀ disk ∈ traced.seen, disk.target = target

section Untouched

variable {target : Place}

theorem Untouched.reach {traced : Traced Disk} {disk : Disk} (untouched : Untouched target traced)
    (same : disk.target = traced.state.target) : Untouched target (traced.reach disk) := by
  intro seen member
  rcases List.mem_cons.mp member with rfl | earlier
  · exact same.trans (untouched _ List.mem_cons_self)
  · exact untouched seen earlier

theorem consult_untouched (error : Error) : Preserves (Untouched target) (consult error) :=
  preserves_step (fun _ untouched => untouched.reach rfl) fun _ _ untouched => untouched.reach rfl

theorem stage_untouched (change : Place → Place) : Preserves (Untouched target) (stage change) :=
  preserves_step (fun _ untouched => untouched.reach rfl) fun _ _ untouched => untouched.reach rfl

theorem verify_untouched : Preserves (Untouched target) (verify tools source request) := by
  unfold verify
  refine preserves_bind (preserves_check _) fun _ => preserves_bind (preserves_check _) fun _ =>
    preserves_bind (consult_untouched _) fun _ => ?_
  split
  · exact preserves_fail _
  refine preserves_bind (preserves_check _) fun _ => preserves_bind ?_ fun _ => preserves_pure _
  unfold verifySet verifyEncrypted verifyPlaintext
  split
  · exact preserves_bind (consult_untouched _) fun _ => preserves_bind (preserves_check _) fun _ =>
      preserves_check _
  refine preserves_bind (preserves_check _) fun _ => preserves_bind (consult_untouched _) fun _ =>
    preserves_bind (preserves_check _) fun _ => ?_
  split
  · exact preserves_fail _
  · exact preserves_bind (consult_untouched _) fun _ => preserves_bind (preserves_check _) fun _ =>
      preserves_bind (preserves_check _) fun _ => preserves_bind (preserves_check _) fun _ =>
        preserves_bind (preserves_check _) fun _ => preserves_check _

theorem assembleSet_untouched {manifest : Manifest} :
    Preserves (Untouched target) (assembleSet tools source request manifest) := by
  unfold assembleSet assembleEncrypted assemblePlaintext finalizeDecryptedStaging hardenAndFsyncTree
  split
  · split
    · split
      · exact preserves_fail _
      refine preserves_bind (stage_untouched _) fun _ => ?_
      split
      · exact preserves_fail _
      · exact preserves_bind (preserves_check _) fun _ => preserves_bind (preserves_check _) fun _ =>
          preserves_bind (preserves_check _) fun _ => preserves_bind (preserves_check _) fun _ =>
            preserves_bind (consult_untouched _) fun _ => preserves_bind (preserves_check _) fun _ =>
              preserves_bind (consult_untouched _) fun _ => preserves_bind (preserves_check _) fun _ =>
                consult_untouched _
    · exact preserves_fail _
  · exact preserves_bind (stage_untouched _) fun _ => preserves_bind (preserves_check _) fun _ =>
      preserves_bind (stage_untouched _) fun _ => preserves_bind (stage_untouched _) fun _ =>
        preserves_bind (stage_untouched _) fun _ => stage_untouched _

/-- **Nothing before the swap touches the data directory.** -/
theorem prepare_untouched : Preserves (Untouched target) (prepare tools source request) := by
  unfold prepare
  refine preserves_bind verify_untouched fun manifest => preserves_bind ?_ fun _ =>
    preserves_bind (consult_untouched _) fun _ => preserves_bind ?_ fun _ => preserves_pure _
  · exact preserves_bind (consult_untouched _) fun _ => preserves_bind preserves_inspect fun _ =>
      preserves_bind (preserves_check _) fun _ => preserves_check _
  · unfold withStaging removeStaging
    refine preserves_bind (stage_untouched _) fun _ => preserves_bind (stage_untouched _) fun _ =>
      preserves_bind (preserves_attempt (preserves_bind assembleSet_untouched fun _ =>
        consult_untouched _)) fun result => ?_
    split
    · exact preserves_pure _
    · exact preserves_bind (preserves_attempt (stage_untouched _)) fun _ => preserves_fail _

end Untouched

/-! ### The swap -/

/-- The data directory was always the old one or the new one. -/
def Steady (target : Place) (content : Content) (traced : Traced Disk) : Prop :=
  ∀ disk ∈ traced.seen, disk.target = target ∨ disk.target = .dir content

/-- What an installation ends with: the new directory, or after an error the old one. -/
structure Swapped (target : Place) (content : Content) (exchange : Bool) (done : Bool)
    (after : Traced Disk) : Prop where
  place : after.state.target = if done then .dir content else target
  steady : exchange = true → Steady target content after

section Swap

variable {target : Place} {content : Content} {exchange done : Bool}

theorem Steady.reach {traced : Traced Disk} {disk : Disk} (steady : Steady target content traced)
    (one : disk.target = target ∨ disk.target = .dir content) :
    Steady target content (traced.reach disk) := by
  intro seen member
  rcases List.mem_cons.mp member with rfl | earlier
  · exact one
  · exact steady seen earlier

theorem Untouched.steady {traced : Traced Disk} (untouched : Untouched target traced) :
    Steady target content traced :=
  fun disk member => .inl (untouched disk member)

/-- A step that leaves the data directory alone. -/
theorem Swapped.reach {traced : Traced Disk} {disk : Disk}
    (swapped : Swapped target content exchange done traced)
    (same : disk.target = traced.state.target) :
    Swapped target content exchange done (traced.reach disk) where
  place := same.trans swapped.place
  steady atomic := (swapped.steady atomic).reach (same ▸ swapped.steady atomic _ List.mem_cons_self)

/-- The move aside, its installation and its rollback. -/
theorem swapViaMoveAside_ends (single : faults.AtMostOne) (untouched : Untouched target before)
    (staged : before.state.staging = .dir content) :
    Ends faults swapViaMoveAside before (fun _ => Swapped target content false true)
      (fun error after => error = .io ∧ Swapped target content false false after) := by
  have here : before.state.target = target := untouched _ List.mem_cons_self
  unfold swapViaMoveAside removeAside moveAside renameStaging moveBack removeStaging stage
  simp only [ends_bind, ends_step, ends_attempt, ends_pure, ends_fail, Traced.reach_state,
    Traced.reach_taken, here, staged]
  refine ⟨fun _ => ⟨fun _ => ⟨fun _ => ⟨fun _ => ?_, fun _ _ => ?_⟩, fun debris failed => ?_⟩,
    fun _ _ => ?_⟩, fun _ _ => ?_⟩
  · exact ⟨rfl, nofun⟩
  · exact ⟨rfl, nofun⟩
  · refine ⟨fun _ => ⟨fun _ => ⟨trivial, rfl, nofun⟩, fun _ _ => ⟨trivial, rfl, nofun⟩⟩,
      fun debris' failed' => ?_⟩
    -- two failing steps
    have clash := single _ _ (by rw [failed]; exact nofun) (by rw [failed']; exact nofun)
    omega
  · exact ⟨trivial, rfl, nofun⟩
  · exact ⟨trivial, rfl, nofun⟩

/-- The atomic exchange. -/
theorem swapOver_exchange (untouched : Untouched target before) (exchange : request.exchange = true)
    (staged : before.state.staging = .dir content) :
    Ends faults (swapOver request) before (fun _ => Swapped target content true true)
      (fun error after => error = .io ∧ Swapped target content true false after) := by
  have here : before.state.target = target := untouched _ List.mem_cons_self
  have steady : Steady target content before := untouched.steady
  unfold swapOver renameExchange removeStaging stage
  simp only [ends_bind, ends_step, ends_attempt, ends_refuse, exchange, Bool.not_true, forall_const,
    Bool.false_eq_true, false_implies, and_true, Traced.reach_taken, ends_pure, ends_fail]
  refine ⟨fun _ => ?_, fun _ _ => ?_⟩
  · have swapped : Swapped target content true true (before.reach
        { before.state with target := before.state.staging, staging := before.state.target }) :=
      ⟨staged, fun _ => steady.reach (.inr staged)⟩
    exact ⟨fun _ => swapped.reach rfl, fun _ _ => swapped.reach rfl⟩
  · have kept : Swapped target content true false (before.reach before.state) :=
      ⟨here, fun _ => steady.reach (.inl here)⟩
    exact ⟨fun _ => ⟨trivial, kept.reach rfl⟩, fun _ _ => ⟨trivial, kept.reach rfl⟩⟩

/-- Without it, the move aside. -/
theorem swapOver_aside (single : faults.AtMostOne) (untouched : Untouched target before)
    (exchange : request.exchange = false) (staged : before.state.staging = .dir content) :
    Ends faults (swapOver request) before (fun _ => Swapped target content false true)
      (fun error after => error = .io ∧ Swapped target content false false after) := by
  unfold swapOver renameExchange
  simp only [ends_bind, ends_attempt, ends_refuse, exchange, Bool.not_false,
    Bool.true_eq_false, false_implies, true_and, forall_const]
  exact swapViaMoveAside_ends single untouched staged

/-- **The installation**: the set is in place, or the data directory is what it was. -/
theorem installOver_ends (single : faults.AtMostOne) (untouched : Untouched target before)
    (staged : before.state.staging = .dir content) :
    Ends faults (installOver request target) before
      (fun _ => Swapped target content request.exchange true)
      (fun error after => error = .io ∧ Swapped target content request.exchange false after) := by
  have exchanged : Ends faults (swapOver request) before
      (fun _ => Swapped target content request.exchange true)
      (fun error after => error = .io ∧ Swapped target content request.exchange false after) := by
    cases exchange : request.exchange with
    | true => exact swapOver_exchange untouched exchange staged
    | false => exact swapOver_aside single untouched exchange staged
  cases target with
  | nothing =>
      have here : before.state.target = .nothing := untouched _ List.mem_cons_self
      unfold installOver renameStaging
      refine (ends_step _ _ _).mpr ⟨fun _ => ?_, fun _ _ => ⟨rfl, ?_⟩⟩
      · exact ⟨staged, fun _ => untouched.steady.reach (.inr staged)⟩
      · exact ⟨here, fun _ => untouched.steady.reach (.inl here)⟩
  | file => exact exchanged
  | dir old => exact exchanged

/-- **`swap_into_place`** ends with the set in place, or with the data directory as it was; only the
last step fails with the set in place. -/
theorem swapIntoPlace_ends (single : faults.AtMostOne) (untouched : Untouched target before)
    (staged : before.state.staging = .dir content) :
    Ends faults (swapIntoPlace request) before
      (fun _ => Swapped target content request.exchange true)
      (fun error after =>
        Swapped target content request.exchange (decide (error = .durability)) after) := by
  have here : before.state.target = target := untouched _ List.mem_cons_self
  unfold swapIntoPlace
  simp only [ends_bind, ends_inspect, here]
  refine (installOver_ends single untouched staged).mono (fun _ after swapped => ?_) ?_
  · exact (ends_consult _).mpr ⟨fun _ => swapped.reach rfl, fun _ _ => swapped.reach rfl⟩
  · rintro error after ⟨rfl, swapped⟩
    exact swapped

end Swap

/-! ### What the set is -/

mutual

/-- A copy of a tree is the tree. -/
theorem copyNode_eq : ∀ node copied : Node, copyNode node = .ok copied → copied = node
  | .file _, _, done => by
      rw [copyNode] at done
      cases done
      rfl
  | .dir entries, _, done => by
      rw [copyNode] at done
      cases walk : copyDirRecursive entries with
      | error why =>
          rw [walk] at done
          cases done
      | ok tree =>
          rw [walk] at done
          cases done
          rw [copyDirRecursive_eq entries tree walk]
  | .symlink, _, done => by
      rw [copyNode] at done
      cases done

theorem copyDirRecursive_eq :
    ∀ tree copied : List (String × Node), copyDirRecursive tree = .ok copied → copied = tree
  | [], _, done => by
      rw [copyDirRecursive] at done
      cases done
      rfl
  | (name, node) :: rest, _, done => by
      rw [copyDirRecursive] at done
      cases first : copyNode node with
      | error why =>
          rw [first] at done
          cases done
      | ok copied =>
          rw [first] at done
          cases others : copyDirRecursive rest with
          | error why =>
              simp only [others, Except.bind, Except.map] at done
              cases done
          | ok tree =>
              simp only [others, Except.bind, Except.map] at done
              cases done
              rw [copyNode_eq node copied first, copyDirRecursive_eq rest tree others]

end

/-- **The files are the ones the manifest records**, and no others. -/
structure Exactly (manifest : Manifest) (files : Artifacts) : Prop where
  stateDb : files.stateDb.isSome = true
  seed : files.seed.isSome = manifest.operatorSeed
  fedimintConfig : files.fedimintConfig.isSome = manifest.fedimintConfig
  phoenixdIndex : files.phoenixdIndex.isSome = manifest.phoenixdIndex
  fedimint : files.fedimint.isSome = manifest.fedimintDir

/-- The files are among them, and the subtree has every federation. -/
structure Covers (tools : Tools Sealed) (manifest : Manifest) (files : Artifacts) : Prop where
  stateDb : files.stateDb.isSome = true
  seed : manifest.operatorSeed = true → files.seed.isSome = true
  fedimintConfig : manifest.fedimintConfig = true → files.fedimintConfig.isSome = true
  phoenixdIndex : manifest.phoenixdIndex = true → files.phoenixdIndex.isSome = true
  fedimint : manifest.fedimintDir = true → ∃ tree, files.fedimint = some tree ∧
    ∀ federation ∈ manifest.federations, joinIsDir (tools.elsewhere manifest.encrypted) tree federation

/-- The files of a plaintext set a restore takes. -/
def taken (manifest : Manifest) (files : Artifacts) : Artifacts where
  stateDb := files.stateDb
  seed := bif manifest.operatorSeed then files.seed else none
  fedimintConfig := bif manifest.fedimintConfig then files.fedimintConfig else none
  phoenixdIndex := bif manifest.phoenixdIndex then files.phoenixdIndex else none
  fedimint := bif manifest.fedimintDir then files.fedimint else none

/-- **The set a restore installs**: of a plaintext set exactly the recorded files, of an encrypted one
the archive, which has every recorded file. -/
inductive Installs (tools : Tools Sealed) (source : Source Sealed) (request : Request)
    (manifest : Manifest) : Content → Prop where
  | plain (mode : manifest.encrypted = false) (phrase : request.passphrase = none)
      (age : source.age = none) (covers : Covers tools manifest source.files)
      (exactly : Exactly manifest (taken manifest source.files)) :
      Installs tools source request manifest ⟨taken manifest source.files, []⟩
  | archive {passphrase : String} {age : Sealed} {files : Artifacts} (mode : manifest.encrypted = true)
      (phrase : request.passphrase = some passphrase) (found : source.age = some age)
      (opened : tools.decrypt passphrase age = some files) (covers : Covers tools manifest files) :
      Installs tools source request manifest ⟨files, []⟩

theorem present_ok {recorded found : Bool} {artifact : String}
    (passed : present recorded found artifact = .ok ()) : recorded = true → found = true := by
  unfold present at passed
  split at passed
  · cases passed
  · rename_i lacking
    simpa using lacking

theorem presentTree_ok {manifest : Manifest} {fedimint : Option Tree}
    (passed : presentTree tools manifest fedimint = .ok ()) (recorded : manifest.fedimintDir = true) :
    ∃ tree, fedimint = some tree ∧ ∀ federation ∈ manifest.federations,
      joinIsDir (tools.elsewhere manifest.encrypted) tree federation := by
  unfold presentTree at passed
  rw [if_pos recorded] at passed
  split at passed
  · cases passed
  · rename_i tree
    split at passed
    · rename_i listed
      exact ⟨tree, rfl, listed⟩
    · cases passed

/-- The monadic check, step by step. -/
theorem bind_ok {α β : Type} {first : Except Failure α} {next : α → Except Failure β} {value : β}
    (done : (first >>= next) = .ok value) : ∃ middle, first = .ok middle ∧ next middle = .ok value := by
  cases first with
  | error why => cases done
  | ok middle => exact ⟨middle, rfl, done⟩

theorem install_injective {db db' : StateDb} {files files' : Artifacts}
    (same : install db files = install db' files') : restored db files = restored db' files' := by
  unfold install at same
  obtain ⟨stateDb, seed, config, index, tree⟩ := DataDir.mk.inj same
  have regular : Function.Injective (Option.map Entry.regular) :=
    Option.map_injective fun _ _ => Entry.regular.inj
  have dir : Function.Injective (Option.map Root.dir) :=
    Option.map_injective fun _ _ => Root.dir.inj
  unfold restored
  rw [stateDb, regular seed, regular config, regular index, dir tree]

theorem restorePlaintext_installs {manifest : Manifest} {files : Artifacts} {dir : DataDir}
    (done : restorePlaintext tools manifest files = .ok dir) :
    Covers tools manifest files ∧ Exactly manifest (taken manifest files) ∧
      ∃ db, files.stateDb = some db ∧ checkRestoredStateDb manifest db = .ok () ∧
        dir = install db (taken manifest files) := by
  unfold restorePlaintext at done
  split at done
  · cases done
  rename_i db found
  obtain ⟨_, marker, done⟩ := bind_ok done
  obtain ⟨_, config, done⟩ := bind_ok done
  obtain ⟨_, seed, done⟩ := bind_ok done
  obtain ⟨_, index, done⟩ := bind_ok done
  obtain ⟨_, tree, done⟩ := bind_ok done
  obtain ⟨copied, walk, done⟩ := bind_ok done
  have stored : files.stateDb = some db := by
    split at found
    · exact found
    · cases found
  have same : copied = bif manifest.fedimintDir then files.fedimint else none := by
    cases tree : (bif manifest.fedimintDir then files.fedimint else none) with
    | none =>
        rw [tree] at walk
        cases walk
        rfl
    | some entries =>
        rw [tree] at walk
        unfold walked at walk
        cases walk' : copyDirRecursive entries with
        | error why =>
            simp only [walk', Except.map] at walk
            cases walk
        | ok copy =>
            simp only [walk', Except.map] at walk
            cases walk
            rw [copyDirRecursive_eq entries copy walk']
  have covers : Covers tools manifest files :=
    ⟨by rw [stored]; rfl, present_ok seed, present_ok config, present_ok index, presentTree_ok tree⟩
  refine ⟨covers, ?_, db, stored, marker, ?_⟩
  · have recorded : ∀ {α : Type} {flag : Bool} {file : Option α},
        (flag = true → file.isSome = true) → (bif flag then file else none).isSome = flag := by
      intro α flag file there
      cases flag with
      | false => rfl
      | true => exact there rfl
    refine ⟨covers.stateDb, recorded covers.seed, recorded covers.fedimintConfig,
      recorded covers.phoenixdIndex, recorded fun flag => ?_⟩
    obtain ⟨tree, found, -⟩ := covers.fedimint flag
    rw [found]
    rfl
  · cases done
    rw [same]
    rfl

theorem restoreEncrypted_installs {manifest : Manifest} {age : Sealed} {passphrase : String}
    {dir : DataDir} (done : restoreEncrypted tools manifest age passphrase = .ok dir) :
    ∃ files db, tools.decrypt passphrase age = some files ∧ Covers tools manifest files ∧
      files.stateDb = some db ∧ checkRestoredStateDb manifest db = .ok () ∧ dir = install db files := by
  unfold restoreEncrypted at done
  split at done
  · cases done
  rename_i files opened
  split at done
  · cases done
  rename_i db stored
  obtain ⟨_, seed, done⟩ := bind_ok done
  obtain ⟨_, config, done⟩ := bind_ok done
  obtain ⟨_, index, done⟩ := bind_ok done
  obtain ⟨_, tree, done⟩ := bind_ok done
  obtain ⟨_, marker, done⟩ := bind_ok done
  cases done
  exact ⟨files, db, opened, ⟨by rw [stored]; rfl, present_ok seed, present_ok config,
    present_ok index, presentTree_ok tree⟩, stored, marker, rfl⟩

/-- **What the checks of a vetted set come to.** -/
theorem Vetted.installs {manifest : Manifest} {content : Content}
    (vetted : Vetted tools source request manifest content) :
    Installs tools source request manifest content ∧ checkManifest manifest = .ok () ∧
      ∃ db, content.files.stateDb = some db ∧ checkRestoredStateDb manifest db = .ok () := by
  obtain ⟨db, files, accepted, rfl⟩ := vetted.accepted
  have accepted : Backup.restore tools ⟨manifest, source.files, source.age⟩ request.passphrase =
    .ok (install db files) := accepted
  unfold Backup.restore at accepted
  dsimp only at accepted
  split at accepted
  · cases accepted
  obtain ⟨_, paired, accepted⟩ := bind_ok accepted
  by_cases encrypted : manifest.encrypted = true
  · rw [if_pos encrypted] at accepted
    split at accepted
    · cases accepted
    · cases accepted
    · rename_i age passphrase found phrase
      obtain ⟨files', db', opened, covers, stored, marker, same⟩ := restoreEncrypted_installs accepted
      have content : restored db files = ⟨files', []⟩ := by
        rw [install_injective same]
        unfold restored
        rw [← stored]
      rw [content]
      exact ⟨.archive encrypted phrase found opened covers, paired, db', stored, marker⟩
  · rw [if_neg encrypted] at accepted
    split at accepted
    · cases accepted
    · rename_i mode
      rw [not_or, not_not] at mode
      obtain ⟨covers, exactly, db', stored, marker, same⟩ := restorePlaintext_installs accepted
      have content : restored db files = ⟨taken manifest source.files, []⟩ := by
        rw [install_injective same]
        unfold restored taken
        rw [stored]
      rw [content]
      exact ⟨.plain (by simpa using encrypted) mode.1 (by simpa using mode.2) covers exactly, paired, db',
        stored, marker⟩

/-- The set of a backup directory: its files, or what the passphrase opens. -/
def presented (tools : Tools Sealed) (source : Source Sealed) (request : Request)
    (manifest : Manifest) : Option Artifacts :=
  if manifest.encrypted then
    request.passphrase.bind fun passphrase => source.age.bind fun age => tools.decrypt passphrase age
  else some source.files

/-- **A set that must not be restored under its manifest.** -/
inductive Lying (tools : Tools Sealed) (source : Source Sealed) (request : Request)
    (manifest : Manifest) : Prop
  | version
      (paired : manifest.version ≠ formatVersion manifest.selfContained manifest.phoenixdIndex)
  | marker {files : Artifacts} {db : StateDb}
      (found : presented tools source request manifest = some files) (stored : files.stateDb = some db)
      (differs : snapshotIsSelfContained db ≠ manifest.selfContained)
  | referencesPhoenixd {files : Artifacts} {db : StateDb}
      (found : presented tools source request manifest = some files) (stored : files.stateDb = some db)
      (first : manifest.version = 1) (references : ReferencesPhoenixd db)
  | missing {files : Artifacts} (found : presented tools source request manifest = some files)
      (lacks : ¬ Covers tools manifest files)
  | downgrade (plain : manifest.encrypted = false)
      (held : source.age.isSome = true ∨ source.ageIrregular = true ∨
        request.passphrase.isSome = true)
  /-- Also a wrong passphrase and an altered ciphertext. -/
  | unopened (encrypted : manifest.encrypted = true)
      (nothing : presented tools source request manifest = none)

theorem Installs.presented {manifest : Manifest} {content : Content}
    (installs : Installs tools source request manifest content) :
    ∃ files, Restore.presented tools source request manifest = some files ∧ Covers tools manifest files ∧
      files.stateDb = content.files.stateDb := by
  unfold Restore.presented
  cases installs with
  | plain mode phrase age covers exactly =>
      rw [mode]
      exact ⟨source.files, rfl, covers, rfl⟩
  | archive mode phrase found opened covers =>
      rw [mode, phrase, found]
      exact ⟨_, opened, covers, rfl⟩

/-- A vetted set is not lying. -/
theorem Vetted.honest {manifest : Manifest} {content : Content}
    (vetted : Vetted tools source request manifest content) :
    ¬ Lying tools source request manifest := by
  obtain ⟨installs, paired, db, stored, marker⟩ := vetted.installs
  obtain ⟨files, found, covers, same⟩ := installs.presented
  rw [← same] at stored
  intro lying
  cases lying with
  | version differs =>
      unfold checkManifest at paired
      simp only [differs, ne_eq, not_false_eq_true, if_true] at paired
      split at paired
      · cases paired
      · split at paired <;> cases paired
  | marker found' stored' differs =>
      cases found.symm.trans found'
      cases stored.symm.trans stored'
      unfold checkRestoredStateDb at marker
      rw [if_pos differs] at marker
      cases marker
  | referencesPhoenixd found' stored' first references =>
      cases found.symm.trans found'
      cases stored.symm.trans stored'
      unfold checkRestoredStateDb at marker
      split at marker
      · cases marker
      · have known : ¬ manifest.version ≠ minSupportedBackupFormatVersion := not_not.mpr first
        rw [if_neg known] at marker
        cases marker
  | missing found' lacks =>
      cases found.symm.trans found'
      exact lacks covers
  | downgrade plain held =>
      cases installs with
      | plain mode phrase age covers exactly =>
          rw [phrase, age, vetted.regular plain] at held
          simp at held
      | archive mode phrase found opened covers => cases plain.symm.trans mode
  | unopened encrypted nothing => cases found.symm.trans nothing

/-! ### The result -/

/-- A restored set is in place. -/
def InPlace (tools : Tools Sealed) (source : Source Sealed) (request : Request) (manifest : Manifest)
    (after : Traced Disk) : Prop :=
  source.manifest = some manifest ∧ ¬ Lying tools source request manifest ∧
    ∃ content, Installs tools source request manifest content ∧ after.state.target = .dir content

/-- With an atomic exchange, a data directory that was there was never away. -/
def Standing (request : Request) (disk : Disk) (after : Traced Disk) : Prop :=
  request.exchange = true → disk.target ≠ .nothing → ∀ seen ∈ after.seen, seen.target ≠ .nothing

theorem Steady.standing {disk : Disk} {content : Content} {after : Traced Disk}
    (steady : request.exchange = true → Steady disk.target content after) :
    Standing request disk after := by
  intro exchange there seen member
  rcases steady exchange seen member with same | same <;> rw [same]
  · exact there
  · exact nofun

/-- **A restore ends with the set in place or with the data directory as it was**, whichever step
fails. Only after the last step fails is the set in place all the same. A set that lies leaves every
step without effect on the data directory. -/
theorem restore_all_or_nothing (single : faults.AtMostOne) (disk : Disk) :
    Ends faults (restore tools source request) (.start disk)
        (fun manifest after =>
          InPlace tools source request manifest after ∧ Standing request disk after)
        (fun error after =>
          (after.state.target = disk.target ∨
            error = .durability ∧ ∃ manifest, InPlace tools source request manifest after) ∧
          Standing request disk after) ∧
      ∀ manifest, source.manifest = some manifest → Lying tools source request manifest →
        Ends faults (restore tools source request) (.start disk) (fun _ _ => False)
          (fun _ after => ∀ seen ∈ after.seen, seen.target = disk.target) := by
  have fresh : Untouched disk.target (.start disk) := by
    intro seen member
    rw [List.mem_singleton.mp member]
    rfl
  have untouched : Preserves (Untouched disk.target) (prepare tools source request) :=
    prepare_untouched
  have staged := (untouched faults (.start disk) fresh).and prepare_ends
  unfold restore
  constructor
  · refine (ends_bind _ _).mpr (staged.mono (fun manifest after prepared => ?_) fun error after kept => ?_)
    · obtain ⟨untouched, content, staging, vetted⟩ := prepared
      have whole : ∀ last : Traced Disk, last.state.target = .dir content →
          InPlace tools source request manifest last := fun last place =>
        ⟨vetted.described, vetted.honest, content, vetted.installs.1, place⟩
      refine (ends_bind _ _).mpr ((swapIntoPlace_ends single untouched staging).mono
        (fun _ last swapped => ?_) fun error last swapped => ⟨?_, Steady.standing swapped.steady⟩)
      · exact ⟨whole last swapped.place, Steady.standing swapped.steady⟩
      · have place := swapped.place
        by_cases durability : error = .durability
        · rw [if_pos (decide_eq_true durability)] at place
          exact .inr ⟨durability, manifest, whole last place⟩
        · rw [if_neg (by simpa using durability)] at place
          exact .inl place
    · have steady : Steady disk.target Content.empty after := kept.1.steady
      exact ⟨.inl (kept.1 _ List.mem_cons_self), Steady.standing fun _ => steady⟩
  · intro manifest described lying
    refine (ends_bind _ _).mpr (staged.mono (fun other after prepared => ?_) fun _ _ kept => kept.1)
    obtain ⟨_, content, -, vetted⟩ := prepared
    cases described.symm.trans vetted.described
    exact absurd lying vetted.honest

/-! ### Two restores over an old directory -/

/-- A sealing that hides nothing. -/
def openTools : Tools Artifacts :=
  ⟨fun _ => "", fun _ => none, some, fun _ files => files, fun _ => some, fun _ _ => false⟩

/-- A database with no rows. -/
def bareDb : StateDb := ⟨⟨⟨[], by simp⟩, [], [], [], [], [], none, []⟩, [], none⟩

/-- A manifest that records the database only. -/
def bareManifest (encrypted : Bool) : Manifest :=
  ⟨backupSchema, 1, 0, true, false, false, false, false, false, [], encrypted⟩

def plainSource : Source Artifacts :=
  ⟨some (bareManifest false), ⟨some bareDb, none, none, none, none⟩, none, false⟩

/-- An archive with a seed its manifest does not record. -/
def archiveSource : Source Artifacts :=
  ⟨some (bareManifest true), ⟨none, none, none, none, none⟩,
    some ⟨some bareDb, some 1, none, none, none⟩, false⟩

/-- A data directory with a seed of its own, and no database. -/
def oldDisk : Disk := ⟨.dir ⟨⟨none, some 2, none, none, none⟩, []⟩, .nothing, .nothing⟩

/-- One failing step. -/
def failingAt (number : ℕ) : Faults Place := fun taken => if taken = number then some .nothing else none

theorem failingAt_atMostOne (number : ℕ) : (failingAt number).AtMostOne := by
  have only : ∀ taken, failingAt number taken ≠ none → taken = number := by
    intro taken fails
    by_contra other
    exact fails (if_neg other)
  intro first second one two
  rw [only first one, only second two]

/-- The rollback: without an atomic exchange, where the set cannot be moved in. -/
theorem restore_all_or_nothing_rolled_back :
    Ends (failingAt 15) (restore openTools plainSource ⟨false, true, none, false⟩) (.start oldDisk)
      (fun manifest after => InPlace openTools plainSource ⟨false, true, none, false⟩ manifest after ∧
        Standing ⟨false, true, none, false⟩ oldDisk after)
      (fun error after =>
        (after.state.target = oldDisk.target ∨ error = .durability ∧ ∃ manifest,
          InPlace openTools plainSource ⟨false, true, none, false⟩ manifest after) ∧
        Standing ⟨false, true, none, false⟩ oldDisk after) :=
  (restore_all_or_nothing (failingAt_atMostOne 15) oldDisk).1

/-- **An archive is installed whole**, with a seed the manifest does not record. -/
theorem restore_installs_unrecorded :
    ¬ Ends (fun _ => none) (restore openTools archiveSource ⟨false, true, some "secret", true⟩)
      (.start oldDisk)
      (fun manifest after => ∀ content, after.state.target = .dir content →
        Exactly manifest content.files)
      (fun _ _ => True) := by
  intro ends
  have exactly : ∀ content, Place.dir ⟨⟨some bareDb, some 1, none, none, none⟩, []⟩ = .dir content →
      Exactly (bareManifest true) content.files := ends
  cases (exactly _ rfl).seed

end Lnrent.Restore
