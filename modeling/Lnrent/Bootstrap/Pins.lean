/-
**Bootstrap pins never move.** Whatever runs are made on a data directory, and wherever each of them is
cut short, what is pinned there stays.

* `Sound` — what the three artifacts are in every directory that runs have made;
* `Prepared`, `prepare` — the part of a run before its first write, as one verdict;
* `Outcome`, `run_outcome` — **a run**: refused without a trace, or the artifacts one after the other;
* `Prepares.again` — the part before the first write, repeated after any of the writes;
* `pins_never_move` — the pins over all runs, the refusals, the inherited fields, and the repeated run.
-/

import Lnrent.Daemon.Bootstrap
import Lnrent.Serde.Record
import Mathlib.Data.List.DropRight

namespace Lnrent.Bootstrap

open Transition Serde

/-! ### Texts -/

section Texts

theorem trim_eq (text : List Char) : RefundResolver.trim text =
    (text.dropWhile RefundResolver.isWhitespace).rdropWhile RefundResolver.isWhitespace := rfl

theorem dropWhile_trim (text : List Char) :
    (RefundResolver.trim text).dropWhile RefundResolver.isWhitespace = RefundResolver.trim text := by
  rw [trim_eq]
  have solid := List.head?_dropWhile_not RefundResolver.isWhitespace text
  obtain ⟨dropped, whole⟩ := List.rdropWhile_prefix RefundResolver.isWhitespace
    (l := text.dropWhile RefundResolver.isWhitespace)
  rw [← whole] at solid
  cases first : (text.dropWhile RefundResolver.isWhitespace).rdropWhile
      RefundResolver.isWhitespace with
  | nil => rfl
  | cons head tail =>
      rw [first] at solid
      exact List.dropWhile_cons_of_neg (by simpa using solid)

theorem trim_trim (text : String) : trim (trim text) = trim text := by
  have again : RefundResolver.trim (RefundResolver.trim text.toList) =
      RefundResolver.trim text.toList := by
    rw [trim_eq, dropWhile_trim, trim_eq, List.rdropWhile_idempotent]
  rw [trim, trim, String.toList_ofList, again]

/-- A line of a trimmed text is the text. -/
theorem trim_line {text : String} (trimmed : trim text = text) : trim (text ++ "\n") = text := by
  have chars : RefundResolver.trim text.toList = text.toList := by
    have same := congrArg String.toList trimmed
    rwa [trim, String.toList_ofList] at same
  have front : text.toList.dropWhile RefundResolver.isWhitespace = text.toList := by
    have solid := dropWhile_trim text.toList
    rwa [chars] at solid
  have back : text.toList.rdropWhile RefundResolver.isWhitespace = text.toList := by
    rwa [trim_eq, front] at chars
  have line : RefundResolver.trim (text.toList ++ ['\n']) = text.toList := by
    by_cases none : text.toList = []
    · rw [none]
      decide
    · have more : (text.toList ++ ['\n']).dropWhile RefundResolver.isWhitespace =
          text.toList ++ ['\n'] := by
        rw [List.dropWhile_append, front, if_neg (by simpa using none)]
      rw [trim_eq, more, List.rdropWhile_concat_pos _ _ _ (by decide), back]
  rw [trim, String.toList_append]
  show String.ofList (RefundResolver.trim (text.toList ++ ['\n'])) = text
  rw [line, String.ofList_toList]

theorem nonEmpty_eq_some {text : Option String} {value : String} (found : nonEmpty text = some value) :
    trim value = value ∧ nonEmpty (some value) = some value := by
  obtain ⟨held, full⟩ := Option.filter_eq_some_iff.mp found
  obtain ⟨raw, rfl, rfl⟩ := Option.map_eq_some_iff.mp held
  refine ⟨trim_trim raw, ?_⟩
  rw [nonEmpty, Option.map_some, trim_trim]
  exact Option.filter_eq_some_iff.mpr ⟨rfl, full⟩

theorem filteredRelays_again (relays : List String) :
    filteredRelays (filteredRelays relays) = filteredRelays relays := by
  have same : ∀ relay ∈ filteredRelays relays, nonEmpty (some relay) = some relay := by
    intro relay member
    obtain ⟨raw, -, kept⟩ := List.mem_filterMap.mp member
    exact (nonEmpty_eq_some kept).2
  exact (List.filterMap_congr same).trans List.filterMap_some

/-- Relays that were normalized stay as they are. -/
theorem normalizeRelays_again (relays : List String) :
    normalizeRelays (normalizeRelays relays) = normalizeRelays relays := by
  by_cases none : filteredRelays relays = []
  · have default : normalizeRelays relays = defaultRelays := if_pos none
    rw [default]
    decide
  · have kept : normalizeRelays relays = filteredRelays relays := if_neg none
    rw [kept, normalizeRelays, filteredRelays_again, if_neg none]

end Texts

/-! ### Steps -/

section Steps

variable {faults : Faults Cut} {dir : DataDir} {taken : ℕ}
  {failed : BootstrapError → DataDir → ℕ → Prop}

/-- Some step is cut short. -/
def Broken (faults : Faults Cut) : Prop := ∃ number, faults number ≠ none

theorem leaves_look {ok : DataDir → DataDir → ℕ → Prop} (known : ok dir dir (taken + 1))
    (cut : Broken faults → failed .internal dir (taken + 1)) :
    Leaves faults look dir taken ok failed :=
  leaves_bind (leaves_step (leaves_inspect known) fun debris found => cut ⟨taken, by simp [found]⟩)

theorem leaves_write {ok : Unit → DataDir → ℕ → Prop} {change : DataDir → DataDir}
    (done : ok () (change dir) (taken + 1))
    (cut : Broken faults →
      failed .internal dir (taken + 1) ∧ failed .internal (change dir) (taken + 1)) :
    Leaves faults (write change) dir taken ok failed := by
  refine leaves_step done fun debris found => ?_
  obtain ⟨before, after⟩ := cut ⟨taken, by simp [found]⟩
  cases debris with
  | undone => exact before
  | done => exact after

end Steps

/-! ### Before the first write -/

/-- What a run knows when it comes to its first write. -/
structure Prepared where
  config : OperatorConfig
  seed : ResolvedSeed
  pubkeyHex : String
  operators : List OperatorRow
  persisted : PersistedConfig

section Run

variable (crates : Crates) (raw : RawConfig)

/-- **A run before its first write**, with the verdict of its transaction. -/
def prepare (dir : DataDir) : Except BootstrapError Prepared := do
  let config ← resolveConfig crates raw
  requireFedimint config raw dir.fedimint
  let seed ← resolveSeed crates raw.mnemonic dir.seed
  let pubkeyHex ← fromMnemonic crates seed.mnemonic
  inheritedFedimint pubkeyHex config raw dir
  inheritedPhoenixd crates pubkeyHex config raw dir
  let (operators, persisted) ← reconcile pubkeyHex config raw dir.operators
  return { config, seed, pubkeyHex, operators, persisted }

/-- A run after its first write. -/
def settle (prepared : Prepared) : Step Operator := do
  let fedimint ← resolveDurableFedimintConfig prepared.persisted.paymentBackend raw
  let phoenixd ← Faulty.check (runtimePhoenixd crates raw prepared.persisted.paymentBackend)
  persistSeed prepared.seed
  return ⟨prepared.pubkeyHex, {
    relays := prepared.persisted.relays
    paymentBackend := prepared.persisted.paymentBackend
    computeBackend := prepared.persisted.computeBackend
    fedimint, phoenixd }⟩

variable {crates raw} {faults : Faults Cut} {dir : DataDir} {taken : ℕ}
  {ok : Operator → DataDir → ℕ → Prop} {failed : BootstrapError → DataDir → ℕ → Prop}

/-- **A run is the verdict and the writes**: the first three steps only read. -/
theorem bootstrap_leaves_of
    (refused : ∀ error, prepare crates raw dir = .error error → ∀ taken ≤ 3, failed error dir taken)
    (cut : Broken faults → ∀ taken ≤ 3, failed .internal dir taken)
    (written : ∀ prepared, prepare crates raw dir = .ok prepared → Broken faults →
      failed .internal dir 4 ∧ failed .internal { dir with operators := prepared.operators } 4)
    (settled : ∀ prepared, prepare crates raw dir = .ok prepared →
      Leaves faults (settle crates raw prepared) { dir with operators := prepared.operators } 4 ok
        failed) :
    Leaves faults (bootstrap crates raw) dir 0 ok failed := by
  unfold bootstrap
  refine leaves_bind (leaves_check (fun config resolved => ?_) fun error bad => refused error ?_ _ (by decide))
  swap
  · rw [prepare, bad]
    rfl
  refine leaves_bind (leaves_look ?_ fun broken => cut broken _ (by decide))
  refine leaves_bind (leaves_check (fun _ available => ?_) fun error bad => refused error ?_ _ (by decide))
  swap
  · rw [prepare, resolved, ok_bind, bad]
    rfl
  refine leaves_bind (leaves_check (fun seed resolvedSeed => ?_) fun error bad => refused error ?_ _ (by decide))
  swap
  · rw [prepare, resolved, ok_bind, available, ok_bind, bad]
    rfl
  refine leaves_bind (leaves_check (fun pubkeyHex identity => ?_) fun error bad => refused error ?_ _ (by decide))
  swap
  · rw [prepare, resolved, ok_bind, available, ok_bind, resolvedSeed, ok_bind, bad]
    rfl
  refine leaves_bind (leaves_look ?_ fun broken => cut broken _ (by decide))
  refine leaves_bind (leaves_check (fun _ fedimint => ?_) fun error bad => refused error ?_ _ (by decide))
  swap
  · rw [prepare, resolved, ok_bind, available, ok_bind, resolvedSeed, ok_bind, identity, ok_bind, bad]
    rfl
  refine leaves_bind (leaves_check (fun _ phoenixd => ?_) fun error bad => refused error ?_ _ (by decide))
  swap
  · rw [prepare, resolved, ok_bind, available, ok_bind, resolvedSeed, ok_bind, identity, ok_bind,
      fedimint, ok_bind, bad]
    rfl
  have verdict : prepare crates raw dir = (reconcile pubkeyHex config raw dir.operators >>=
      fun persisted => .ok ⟨config, seed, pubkeyHex, persisted.1, persisted.2⟩) := by
    rw [prepare, resolved, ok_bind, available, ok_bind, resolvedSeed, ok_bind, identity, ok_bind,
      fedimint, ok_bind, phoenixd]
    rfl
  refine leaves_bind (leaves_bind (leaves_look ?_ fun broken => cut broken _ (by decide)))
  cases row : reconcile pubkeyHex config raw dir.operators with
  | error error =>
      refine leaves_fail (refused error ?_ _ (by decide))
      rw [verdict, row]
      rfl
  | ok reconciled =>
      obtain ⟨operators, persisted⟩ := reconciled
      have prepared : prepare crates raw dir =
          .ok ⟨config, seed, pubkeyHex, operators, persisted⟩ := by
        rw [verdict, row]
        rfl
      exact leaves_bind (leaves_write (leaves_pure (settled _ prepared)) (written _ prepared))

/-! ### What the verdict says -/

/-- **The verdict, equation by equation.** -/
structure Prepares (crates : Crates) (raw : RawConfig) (dir : DataDir) (prepared : Prepared) :
    Prop where
  resolved : resolveConfig crates raw = .ok prepared.config
  available : requireFedimint prepared.config raw dir.fedimint = .ok ()
  seed : resolveSeed crates raw.mnemonic dir.seed = .ok prepared.seed
  identity : fromMnemonic crates prepared.seed.mnemonic = .ok prepared.pubkeyHex
  fedimint : inheritedFedimint prepared.pubkeyHex prepared.config raw dir = .ok ()
  phoenixd : inheritedPhoenixd crates prepared.pubkeyHex prepared.config raw dir = .ok ()
  row : reconcile prepared.pubkeyHex prepared.config raw dir.operators =
    .ok (prepared.operators, prepared.persisted)

theorem prepare_eq_ok {prepared : Prepared} :
    prepare crates raw dir = .ok prepared ↔ Prepares crates raw dir prepared := by
  constructor
  · intro verdict
    obtain ⟨config, resolved, verdict⟩ := bind_eq_ok verdict
    obtain ⟨⟨⟩, available, verdict⟩ := bind_eq_ok verdict
    obtain ⟨seed, resolvedSeed, verdict⟩ := bind_eq_ok verdict
    obtain ⟨pubkeyHex, identity, verdict⟩ := bind_eq_ok verdict
    obtain ⟨⟨⟩, fedimint, verdict⟩ := bind_eq_ok verdict
    obtain ⟨⟨⟩, phoenixd, verdict⟩ := bind_eq_ok verdict
    obtain ⟨⟨operators, persisted⟩, row, verdict⟩ := bind_eq_ok verdict
    obtain rfl := Except.ok.inj verdict
    exact ⟨resolved, available, resolvedSeed, identity, fedimint, phoenixd, row⟩
  · rintro ⟨resolved, available, seed, identity, fedimint, phoenixd, row⟩
    rw [prepare, resolved, ok_bind, available, ok_bind, seed, ok_bind, identity, ok_bind, fedimint,
      ok_bind, phoenixd, ok_bind, row]
    rfl

theorem asStr_of_parse {text : String} {mode : PaymentMode} (parsed : PaymentMode.parse text = .ok mode) :
    mode.asStr = text := by
  unfold PaymentMode.parse at parsed
  split at parsed
  · obtain rfl := Except.ok.inj parsed
    simp_all [PaymentMode.asStr]
  split at parsed
  · obtain rfl := Except.ok.inj parsed
    simp_all [PaymentMode.asStr]
  split at parsed
  · obtain rfl := Except.ok.inj parsed
    simp_all [PaymentMode.asStr]
  · cases parsed

theorem parse_asStr (mode : PaymentMode) : PaymentMode.parse mode.asStr = .ok mode := by
  cases mode <;> rfl

theorem asStr_injective {one two : PaymentMode} (same : one.asStr = two.asStr) : one = two := by
  have parsed := parse_asStr one
  rw [same, parse_asStr] at parsed
  exact (Except.ok.inj parsed).symm

/-- The row a transaction leaves, and the row it found. -/
theorem reconcile_eq_ok {pubkeyHex : String} {config : OperatorConfig} {before after : List OperatorRow}
    {persisted : PersistedConfig}
    (done : reconcile pubkeyHex config raw before = .ok (after, persisted)) :
    after = [operatorRow pubkeyHex persisted.paymentBackend.asStr persisted.computeBackend
      persisted.relays] ∧
    (before = [] ∧ persisted = ⟨config.relays, config.computeBackend, config.paymentBackend⟩ ∨
      ∃ row, before = [row] ∧ row.masterPubkey = pubkeyHex ∧
        row.paymentBackend = persisted.paymentBackend.asStr ∧
        row.computeBackend = persisted.computeBackend ∧
        persisted.relays = updatedRelays config raw row ∧
        ((nonEmpty raw.paymentBackend).isSome = true →
          config.paymentBackend = persisted.paymentBackend)) := by
  match before, done with
  | [], done =>
      obtain ⟨rfl, rfl⟩ := Prod.mk.inj (Except.ok.inj done)
      exact ⟨rfl, .inl ⟨rfl, rfl⟩⟩
  | [row], done =>
      rw [reconcile] at done
      split at done
      · cases done
      rename_i same
      split at done
      · cases done
      rename_i agreed
      split at done
      · cases done
      rename_i mode parsed
      obtain ⟨rfl, rfl⟩ := Prod.mk.inj (Except.ok.inj done)
      have text := asStr_of_parse parsed
      refine ⟨by simp [text], .inr ⟨row, rfl, not_not.mp same, text.symm, rfl, rfl, fun named => ?_⟩⟩
      have backend : row.paymentBackend = config.paymentBackend.asStr :=
        not_not.mp fun other => agreed ⟨named, other⟩
      exact asStr_injective (backend.symm.trans text.symm)
  | first :: second :: rest, done => cases done

/-- The transaction on a row of the same identity, with a backend the input does not contradict. -/
theorem reconcile_row {pubkeyHex : String} {config : OperatorConfig} {row : OperatorRow}
    {mode : PaymentMode} (master : row.masterPubkey = pubkeyHex)
    (backend : row.paymentBackend = mode.asStr)
    (named : (nonEmpty raw.paymentBackend).isSome = true → config.paymentBackend = mode) :
    reconcile pubkeyHex config raw [row] =
      .ok ([operatorRow pubkeyHex mode.asStr row.computeBackend (updatedRelays config raw row)],
        ⟨updatedRelays config raw row, row.computeBackend, mode⟩) := by
  have agreed : ¬ ((nonEmpty raw.paymentBackend).isSome = true ∧
      row.paymentBackend ≠ config.paymentBackend.asStr) := by
    rintro ⟨supplied, other⟩
    exact other (by rw [backend, named supplied])
  rw [reconcile, if_neg (not_not.mpr master), if_neg agreed]
  simp only [backend, parse_asStr]

theorem resolveConfig_eq_ok {config : OperatorConfig}
    (resolved : resolveConfig crates raw = .ok config) :
    config.relays = resolveRelays raw ∧ resolveBackend raw = .ok config.paymentBackend ∧
    (config.paymentBackend = .phoenixd → ∃ phoenixd, suppliedPhoenixdConfig crates raw = .ok phoenixd)
    := by
  obtain ⟨backend, known, resolved⟩ := bind_eq_ok resolved
  obtain ⟨phoenixd, checked, resolved⟩ := bind_eq_ok resolved
  split at resolved
  · cases resolved
  obtain rfl := Except.ok.inj resolved
  refine ⟨rfl, known, fun same => ?_⟩
  obtain rfl : backend = .phoenixd := same
  rw [runtimePhoenixd, if_pos rfl] at checked
  cases supplied : suppliedPhoenixdConfig crates raw with
  | ok phoenixd => exact ⟨phoenixd, rfl⟩
  | error error =>
      rw [supplied] at checked
      cases checked

/-- The seed of a run is the file's, or the input's where there is no file. -/
theorem resolveSeed_eq_ok {supplied file : Option String} {seed : ResolvedSeed}
    (resolved : resolveSeed crates supplied file = .ok seed) :
    (∃ text, file = some text ∧ seed = ⟨trim text, false⟩ ∧
      ∀ mnemonic, nonEmpty supplied = some mnemonic →
        sameMnemonic crates mnemonic (trim text) = true) ∨
    ∃ mnemonic, file = none ∧ nonEmpty supplied = some mnemonic ∧
      seed = ⟨(canonicalMnemonic crates mnemonic).getD mnemonic, true⟩ := by
  unfold resolveSeed at resolved
  split at resolved
  · rename_i text omitted
    refine .inl ⟨text, rfl, (Except.ok.inj resolved).symm, fun mnemonic given => ?_⟩
    rw [omitted] at given
    cases given
  · rename_i text mnemonic given
    split at resolved
    · rename_i same
      refine .inl ⟨text, rfl, (Except.ok.inj resolved).symm, fun other given' => ?_⟩
      obtain rfl := Option.some.inj (given.symm.trans given')
      exact same
    · cases resolved
  · cases resolved
  · rename_i mnemonic given
    exact .inr ⟨mnemonic, rfl, given, (Except.ok.inj resolved).symm⟩

namespace Prepares

variable {prepared : Prepared} (prepares : Prepares crates raw dir prepared)

include prepares

theorem operators_eq : prepared.operators = [operatorRow prepared.pubkeyHex
    prepared.persisted.paymentBackend.asStr prepared.persisted.computeBackend
    prepared.persisted.relays] :=
  (reconcile_eq_ok prepares.row).1

/-- The backend of a run is the input's, or the row's where the input has none. -/
theorem origin : prepared.config.paymentBackend = prepared.persisted.paymentBackend ∨
    (nonEmpty raw.paymentBackend).isSome = false ∧
    storedBackend prepared.pubkeyHex dir.operators =
      some prepared.persisted.paymentBackend.asStr := by
  obtain ⟨-, ⟨-, fresh⟩ | ⟨row, alone, master, backend, -, -, named⟩⟩ := reconcile_eq_ok prepares.row
  · exact .inl (by rw [fresh])
  · cases supplied : (nonEmpty raw.paymentBackend).isSome with
    | true => exact .inl (named supplied)
    | false =>
        refine .inr ⟨rfl, ?_⟩
        rw [alone, storedBackend, List.head?_cons, Option.bind_some, if_pos master, backend]

/-- A run on Fedimint knows its federation before it writes. -/
theorem fedimint_known (backend : prepared.persisted.paymentBackend = .fedimint) :
    fedimintAvailable raw dir.fedimint = .ok () := by
  have available := prepares.available
  have inherited := prepares.fedimint
  unfold requireFedimint at available
  unfold inheritedFedimint at inherited
  by_cases chosen : prepared.config.paymentBackend = .fedimint
  · rwa [if_pos chosen] at available
  · obtain same | ⟨omitted, stored⟩ := prepares.origin
    · exact absurd (same.trans backend) chosen
    · have fedimint : storedBackend prepared.pubkeyHex dir.operators = some "fedimint" := by
        rw [stored, backend]
        rfl
      rwa [if_neg (by simp [omitted, chosen]), if_pos fedimint] at inherited

/-- A run on phoenixd knows its daemon before it writes. -/
theorem phoenixd_known (backend : prepared.persisted.paymentBackend = .phoenixd) :
    ∃ phoenixd, suppliedPhoenixdConfig crates raw = .ok phoenixd := by
  have inherited := prepares.phoenixd
  unfold inheritedPhoenixd at inherited
  by_cases chosen : prepared.config.paymentBackend = .phoenixd
  · exact (resolveConfig_eq_ok prepares.resolved).2.2 chosen
  · obtain same | ⟨omitted, stored⟩ := prepares.origin
    · exact absurd (same.trans backend) chosen
    · have phoenixd : storedBackend prepared.pubkeyHex dir.operators = some "phoenixd" := by
        rw [stored, backend]
        rfl
      rw [if_neg (by simp [omitted, chosen]), if_pos phoenixd] at inherited
      cases supplied : suppliedPhoenixdConfig crates raw with
      | ok phoenixd => exact ⟨phoenixd, rfl⟩
      | error error =>
          rw [supplied] at inherited
          cases inherited

/-- A seed that is to be written is not there yet. -/
theorem seed_absent (fresh : prepared.seed.persistAfterSuccess = true) : dir.seed = none := by
  obtain ⟨text, -, known, -⟩ | ⟨mnemonic, absent, -⟩ := resolveSeed_eq_ok prepares.seed
  · rw [known] at fresh
    cases fresh
  · exact absent

end Prepares

/-! ### After the first write -/

/-- The Fedimint config after a run. -/
def fedimintAfter (backend : PaymentMode) (raw : RawConfig) (file : Option FedimintFile) :
    Option FedimintFile :=
  if backend = .fedimint then
    file.or ((suppliedFedimintConfig raw).map fun config => .config config.invite)
  else file

/-- The Fedimint config a run goes on with. -/
def fedimintUsed (backend : PaymentMode) (raw : RawConfig) (file : Option FedimintFile) :
    Option FedimintConfig :=
  if backend = .fedimint then (suppliedFedimintConfig raw).or (readFedimintConfig file).toOption
  else none

/-- The seed file after a run. -/
def seedAfter (seed : ResolvedSeed) (file : Option String) : Option String :=
  if seed.persistAfterSuccess = true then some (seed.mnemonic ++ "\n") else file

namespace Prepared

variable (crates : Crates) (raw : RawConfig) (prepared : Prepared) (dir : DataDir)

/-- The directory after the first write. -/
def written : DataDir := { dir with operators := prepared.operators }

/-- The directory after the second write. -/
def configured : DataDir where
  operators := prepared.operators
  fedimint := fedimintAfter prepared.persisted.paymentBackend raw dir.fedimint
  seed := dir.seed

/-- The directory after the third write. -/
def settled : DataDir where
  operators := prepared.operators
  fedimint := fedimintAfter prepared.persisted.paymentBackend raw dir.fedimint
  seed := seedAfter prepared.seed dir.seed

/-- What the run returns. -/
def operator : Operator where
  pubkeyHex := prepared.pubkeyHex
  config := {
    relays := prepared.persisted.relays
    paymentBackend := prepared.persisted.paymentBackend
    computeBackend := prepared.persisted.computeBackend
    fedimint := fedimintUsed prepared.persisted.paymentBackend raw dir.fedimint
    phoenixd := (runtimePhoenixd crates raw prepared.persisted.paymentBackend).toOption.join }

/-- **The directories a run that was cut short leaves behind.** -/
def Leftover (after : DataDir) : Prop :=
  after = dir ∨ after = prepared.written dir ∨ after = prepared.configured raw dir ∨
    after = prepared.settled raw dir

end Prepared

section Writes

variable {prepared : Prepared}

theorem fedimintConfig_leaves {ok : Option FedimintConfig → DataDir → ℕ → Prop}
    (prepares : Prepares crates raw dir prepared)
    (known : ∀ taken, ok (fedimintUsed prepared.persisted.paymentBackend raw dir.fedimint)
      (prepared.configured raw dir) taken)
    (cut : Broken faults → ∀ after, prepared.Leftover raw dir after →
      ∀ taken, failed .internal after taken) :
    Leaves faults (resolveDurableFedimintConfig prepared.persisted.paymentBackend raw)
      (prepared.written dir) taken ok failed := by
  have short : Broken faults → ∀ taken, failed .internal (prepared.written dir) taken :=
    fun broken => cut broken _ (.inr (.inl rfl))
  unfold resolveDurableFedimintConfig
  by_cases backend : prepared.persisted.paymentBackend = .fedimint
  swap
  · rw [if_pos backend]
    refine leaves_pure ?_
    rw [fedimintUsed, if_neg backend, Prepared.configured, fedimintAfter, if_neg backend] at known
    exact known taken
  rw [if_neg (not_not.mpr backend)]
  have available := prepares.fedimint_known backend
  rw [fedimintUsed, if_pos backend, Prepared.configured, fedimintAfter, if_pos backend] at known
  unfold fedimintAvailable at available
  cases supplied : suppliedFedimintConfig raw with
  | none =>
      rw [supplied] at known available
      refine leaves_bind (leaves_look (leaves_bind (leaves_check (fun config read => ?_)
        fun error unread => ?_)) fun broken => short broken _)
      · refine leaves_pure ?_
        have file : readFedimintConfig dir.fedimint = .ok config := read
        rw [file, Option.map_none, Option.or_none] at known
        exact known _
      · have file : readFedimintConfig dir.fedimint = .error error := unread
        simp only [file] at available
        cases available
  | some config =>
      rw [supplied] at known available
      refine leaves_bind (leaves_bind (leaves_look (leaves_bind (leaves_check (fun _ _ => ?_)
        fun error differs => ?_)) fun broken => short broken _))
      · cases file : dir.fedimint with
        | some stored =>
            rw [file] at known
            simp only [Prepared.written, file]
            exact leaves_pure (leaves_pure (known _))
        | none =>
            rw [file] at known
            simp only [Prepared.written, file]
            refine leaves_write (leaves_pure (known _)) fun broken => ⟨?_, ?_⟩
            · have unchanged := short broken
              rw [Prepared.written, file] at unchanged
              exact unchanged _
            · have changed := cut broken _ (.inr (.inr (.inl rfl)))
              rw [Prepared.configured, fedimintAfter, if_pos backend, supplied, file] at changed
              exact changed _
      · have refused : reconcileFedimint config dir.fedimint = .error error := differs
        simp only [refused] at available
        cases available

theorem persistSeed_leaves {ok : Unit → DataDir → ℕ → Prop}
    (prepares : Prepares crates raw dir prepared)
    (known : ∀ taken, ok () (prepared.settled raw dir) taken)
    (cut : Broken faults → ∀ after, prepared.Leftover raw dir after →
      ∀ taken, failed .internal after taken) :
    Leaves faults (persistSeed prepared.seed) (prepared.configured raw dir) taken ok failed := by
  rw [Prepared.settled, seedAfter] at known
  unfold persistSeed
  by_cases fresh : prepared.seed.persistAfterSuccess = true
  · rw [if_pos fresh] at known ⊢
    have absent := prepares.seed_absent fresh
    refine leaves_bind (leaves_look ?_ fun broken => cut broken _ (.inr (.inr (.inl rfl))) _)
    simp only [Prepared.configured, absent]
    refine leaves_write (known _) fun broken => ⟨?_, ?_⟩
    · have unchanged := cut broken _ (.inr (.inr (.inl rfl)))
      rw [Prepared.configured, absent] at unchanged
      exact unchanged _
    · have changed := cut broken _ (.inr (.inr (.inr rfl)))
      rw [Prepared.settled, seedAfter, if_pos fresh] at changed
      exact changed _
  · rw [if_neg fresh] at known ⊢
    exact leaves_pure (known _)

theorem settle_leaves (prepares : Prepares crates raw dir prepared)
    (known : ∀ taken, ok (prepared.operator crates raw dir) (prepared.settled raw dir) taken)
    (cut : Broken faults → ∀ after, prepared.Leftover raw dir after →
      ∀ taken, failed .internal after taken) :
    Leaves faults (settle crates raw prepared) (prepared.written dir) taken ok failed := by
  refine leaves_bind (fedimintConfig_leaves prepares (fun _ => leaves_bind (leaves_check
    (fun phoenixd checked => ?_) fun error bad => ?_)) cut)
  · refine leaves_bind (persistSeed_leaves prepares (fun number => leaves_pure ?_) cut)
    have result := known number
    rwa [Prepared.operator, checked] at result
  · unfold runtimePhoenixd at bad
    split at bad
    · rename_i backend
      obtain ⟨phoenixd, supplied⟩ := prepares.phoenixd_known backend
      rw [supplied] at bad
      cases bad
    · cases bad

end Writes

/-! ### A run -/

/-- What a run returns and leaves, and the steps it took. -/
structure Ran where
  result : Except BootstrapError Operator
  dir : DataDir
  taken : ℕ

def run (crates : Crates) (raw : RawConfig) (faults : Faults Cut) (dir : DataDir) : Ran where
  result := (bootstrap crates raw faults (.start dir)).1
  dir := (bootstrap crates raw faults (.start dir)).2.state
  taken := (bootstrap crates raw faults (.start dir)).2.taken

/-- **What a run comes to**: it is done; or refused, without a trace; or cut short. -/
inductive Outcome (crates : Crates) (raw : RawConfig) (faults : Faults Cut) (dir : DataDir) :
    Ran → Prop
  | done {prepared : Prepared} (prepares : Prepares crates raw dir prepared) (taken : ℕ) :
      Outcome crates raw faults dir
        ⟨.ok (prepared.operator crates raw dir), prepared.settled raw dir, taken⟩
  | refused {error : BootstrapError} (refuses : prepare crates raw dir = .error error) {taken : ℕ}
      (reads : taken ≤ 3) : Outcome crates raw faults dir ⟨.error error, dir, taken⟩
  | early (broken : Broken faults) {taken : ℕ} (reads : taken ≤ 3) :
      Outcome crates raw faults dir ⟨.error .internal, dir, taken⟩
  | late (broken : Broken faults) {prepared : Prepared} {after : DataDir}
      (prepares : Prepares crates raw dir prepared) (left : prepared.Leftover raw dir after)
      (taken : ℕ) : Outcome crates raw faults dir ⟨.error .internal, after, taken⟩

theorem run_outcome (crates : Crates) (raw : RawConfig) (faults : Faults Cut) (dir : DataDir) :
    Outcome crates raw faults dir (run crates raw faults dir) := by
  have leaves : Leaves faults (bootstrap crates raw) dir 0
      (fun operator after taken => Outcome crates raw faults dir ⟨.ok operator, after, taken⟩)
      fun error after taken => Outcome crates raw faults dir ⟨.error error, after, taken⟩ := by
    refine bootstrap_leaves_of (fun _ refuses _ => .refused refuses) (fun broken _ => .early broken)
      (fun prepared verdict broken => ?_) fun prepared verdict => ?_
    · have prepares := prepare_eq_ok.mp verdict
      exact ⟨.late broken prepares (.inl rfl) 4, .late broken prepares (.inr (.inl rfl)) 4⟩
    · have prepares := prepare_eq_ok.mp verdict
      exact settle_leaves prepares (.done prepares) fun broken _ left => .late broken prepares left
  unfold run
  obtain ⟨operator, result, outcome⟩ | ⟨error, result, outcome⟩ := leaves.start
  all_goals rwa [result]

/-! ### The verdict again -/

theorem resolveRelays_normal (raw : RawConfig) :
    normalizeRelays (resolveRelays raw) = resolveRelays raw := by
  have default : normalizeRelays defaultRelays = defaultRelays := by decide
  unfold resolveRelays
  split
  · split
    · exact default
    · exact normalizeRelays_again _
  · exact default

theorem updatedRelays_normal {config : OperatorConfig} (relays : config.relays = resolveRelays raw)
    (row : OperatorRow) :
    normalizeRelays (updatedRelays config raw row) = updatedRelays config raw row := by
  have normal : normalizeRelays config.relays = config.relays := by
    rw [relays]
    exact resolveRelays_normal raw
  unfold updatedRelays
  split
  · exact normal
  · cases row.relays with
    | none => exact normal
    | some stored => exact normalizeRelays_again stored

/-- A mnemonic as the file gives it back. -/
structure Lawful (crates : Crates) : Prop where
  again : ∀ mnemonic canonical, crates.parseNormalized mnemonic = some canonical →
    crates.parseNormalized canonical = some canonical
  trimmed : ∀ mnemonic canonical, crates.parseNormalized mnemonic = some canonical →
    trim canonical = canonical

theorem parses_of_identity {mnemonic pubkeyHex : String}
    (identity : fromMnemonic crates mnemonic = .ok pubkeyHex) :
    ∃ canonical, crates.parseNormalized (trim mnemonic) = some canonical := by
  unfold fromMnemonic at identity
  split at identity
  · cases identity
  · rename_i canonical parsed
    exact ⟨canonical, parsed⟩

namespace Prepares

variable {prepared : Prepared} (prepares : Prepares crates raw dir prepared)

include prepares

theorem relays_normal :
    normalizeRelays prepared.persisted.relays = prepared.persisted.relays := by
  have resolved := (resolveConfig_eq_ok prepares.resolved).1
  obtain ⟨-, ⟨-, fresh⟩ | ⟨row, -, -, -, -, relays, -⟩⟩ := reconcile_eq_ok prepares.row
  · rw [fresh, resolved]
    exact resolveRelays_normal raw
  · rw [relays]
    exact updatedRelays_normal resolved row

theorem relays_supplied (supplied : relaysExplicitlySupplied raw = true) :
    prepared.config.relays = prepared.persisted.relays := by
  obtain ⟨-, ⟨-, fresh⟩ | ⟨row, -, -, -, -, relays, -⟩⟩ := reconcile_eq_ok prepares.row
  · rw [fresh]
  · rw [relays, updatedRelays, if_pos supplied]

theorem backend_supplied (supplied : (nonEmpty raw.paymentBackend).isSome = true) :
    prepared.config.paymentBackend = prepared.persisted.paymentBackend := by
  obtain same | ⟨omitted, -⟩ := prepares.origin
  · exact same
  · rw [supplied] at omitted
    cases omitted

/-- An input that chooses a backend other than `mock` gets it. -/
theorem backend_chosen {mode : PaymentMode} (chosen : prepared.config.paymentBackend = mode)
    (other : mode ≠ .mock) : prepared.persisted.paymentBackend = mode := by
  obtain same | ⟨omitted, -⟩ := prepares.origin
  · exact same.symm.trans chosen
  · have backend := (resolveConfig_eq_ok prepares.resolved).2.1
    rw [Option.isSome_eq_false_iff, Option.isNone_iff_eq_none] at omitted
    rw [resolveBackend, omitted, chosen] at backend
    exact absurd (Except.ok.inj backend).symm other

/-- **The row again**: the transaction leaves its own row as it is. -/
theorem row_again : reconcile prepared.pubkeyHex prepared.config raw prepared.operators =
    .ok (prepared.operators, prepared.persisted) := by
  have kept : updatedRelays prepared.config raw (operatorRow prepared.pubkeyHex
      prepared.persisted.paymentBackend.asStr prepared.persisted.computeBackend
      prepared.persisted.relays) = prepared.persisted.relays := by
    unfold updatedRelays
    split
    · rename_i supplied
      exact prepares.relays_supplied supplied
    · exact prepares.relays_normal
  rw [prepares.operators_eq]
  refine (reconcile_row ?_ ?_ prepares.backend_supplied).trans ?_
  · rfl
  · rfl
  · rw [kept]
    rfl

end Prepares

/-- **The Fedimint config again**: what was available still is, and nothing more is written. -/
theorem fedimint_again (backend : PaymentMode) (raw : RawConfig) (file : Option FedimintFile) :
    (fedimintAvailable raw file = .ok () →
      fedimintAvailable raw (fedimintAfter backend raw file) = .ok ()) ∧
    fedimintUsed backend raw (fedimintAfter backend raw file) = fedimintUsed backend raw file ∧
    fedimintAfter backend raw (fedimintAfter backend raw file) = fedimintAfter backend raw file := by
  unfold fedimintAfter fedimintUsed
  by_cases chosen : backend = .fedimint
  swap
  · simp only [if_neg chosen]
    exact ⟨id, trivial, trivial⟩
  simp only [if_pos chosen]
  unfold fedimintAvailable
  cases suppliedFedimintConfig raw with
  | none =>
      simp only [Option.map_none, Option.or_none]
      exact ⟨id, trivial, trivial⟩
  | some config =>
      refine ⟨fun available => ?_, rfl, ?_⟩
      · cases file with
        | some stored => exact available
        | none => exact if_neg (not_not.mpr rfl)
      · cases file <;> rfl

/-- **The seed again**: the file is read as what was written to it. -/
theorem seed_again (lawful : Lawful crates) {supplied file : Option String} {seed : ResolvedSeed}
    {pubkeyHex : String} (resolved : resolveSeed crates supplied file = .ok seed)
    (identity : fromMnemonic crates seed.mnemonic = .ok pubkeyHex) :
    ∃ again, resolveSeed crates supplied (seedAfter seed file) = .ok again ∧
      again.mnemonic = seed.mnemonic ∧ seedAfter again (seedAfter seed file) = seedAfter seed file := by
  obtain ⟨text, rfl, rfl, same⟩ | ⟨mnemonic, rfl, given, rfl⟩ := resolveSeed_eq_ok resolved
  · exact ⟨⟨trim text, false⟩, resolved, rfl, rfl⟩
  have own := (nonEmpty_eq_some given).1
  cases parsed : canonicalMnemonic crates mnemonic with
  | none =>
      rw [parsed] at identity
      obtain ⟨canonical, found⟩ := parses_of_identity identity
      rw [canonicalMnemonic] at parsed
      rw [Option.getD_none, parsed] at found
      cases found
  | some canonical =>
      have solid := lawful.trimmed _ _ parsed
      have alike : sameMnemonic crates mnemonic canonical = true := by
        have again : canonicalMnemonic crates canonical = some canonical := by
          rw [canonicalMnemonic, solid]
          exact lawful.again _ _ parsed
        simp [sameMnemonic, parsed, again]
      have written : seedAfter ⟨canonical, true⟩ none = some (canonical ++ "\n") := rfl
      rw [Option.getD_some, written]
      refine ⟨⟨canonical, false⟩, ?_, rfl, rfl⟩
      unfold resolveSeed
      simp only [given, trim_line solid]
      rw [if_pos alike]

/-- **The verdict again**: whatever a run left behind, the same input comes to the same end. -/
theorem Prepares.again (lawful : Lawful crates) {prepared : Prepared} {after : DataDir}
    (prepares : Prepares crates raw dir prepared) (left : prepared.Leftover raw dir after) :
    ∃ again, Prepares crates raw after again ∧
      again.operator crates raw after = prepared.operator crates raw dir ∧
      again.settled raw after = prepared.settled raw dir := by
  obtain rfl | later := left
  · exact ⟨prepared, prepares, rfl, rfl⟩
  have row : after.operators = prepared.operators := by
    obtain rfl | rfl | rfl := later <;> rfl
  have fedimint : after.fedimint = dir.fedimint ∨
      after.fedimint = fedimintAfter prepared.persisted.paymentBackend raw dir.fedimint := by
    obtain rfl | rfl | rfl := later
    · exact .inl rfl
    · exact .inr rfl
    · exact .inr rfl
  have seed : after.seed = dir.seed ∨ after.seed = seedAfter prepared.seed dir.seed := by
    obtain rfl | rfl | rfl := later
    · exact .inl rfl
    · exact .inl rfl
    · exact .inr rfl
  obtain ⟨available, used, config⟩ : (fedimintAvailable raw dir.fedimint = .ok () →
        fedimintAvailable raw after.fedimint = .ok ()) ∧
      fedimintUsed prepared.persisted.paymentBackend raw after.fedimint =
        fedimintUsed prepared.persisted.paymentBackend raw dir.fedimint ∧
      fedimintAfter prepared.persisted.paymentBackend raw after.fedimint =
        fedimintAfter prepared.persisted.paymentBackend raw dir.fedimint := by
    obtain same | same := fedimint
    · rw [same]
      exact ⟨id, rfl, rfl⟩
    · rw [same]
      exact fedimint_again _ _ _
  obtain ⟨again, resolved, same, kept⟩ : ∃ again,
      resolveSeed crates raw.mnemonic after.seed = .ok again ∧
      again.mnemonic = prepared.seed.mnemonic ∧
      seedAfter again after.seed = seedAfter prepared.seed dir.seed := by
    obtain unchanged | written := seed
    · rw [unchanged]
      exact ⟨prepared.seed, prepares.seed, rfl, rfl⟩
    · rw [written]
      exact seed_again lawful prepares.seed prepares.identity
  have stored : storedBackend prepared.pubkeyHex after.operators =
      some prepared.persisted.paymentBackend.asStr := by
    rw [row, prepares.operators_eq]
    exact if_pos rfl
  refine ⟨{ prepared with seed := again }, ⟨prepares.resolved, ?_, resolved, ?_, ?_, ?_, ?_⟩, ?_, ?_⟩
  · unfold requireFedimint
    split
    · rename_i chosen
      exact available (prepares.fedimint_known (prepares.backend_chosen chosen (by decide)))
    · rfl
  · show fromMnemonic crates again.mnemonic = _
    rw [same, prepares.identity]
  · unfold inheritedFedimint
    rw [stored]
    split
    · rfl
    · split
      · rename_i backend
        exact available (prepares.fedimint_known (asStr_injective (Option.some.inj backend)))
      · rfl
  · unfold inheritedPhoenixd
    rw [stored]
    split
    · rfl
    · split
      · rename_i backend
        obtain ⟨phoenixd, supplied⟩ := prepares.phoenixd_known
          (asStr_injective (Option.some.inj backend))
        rw [supplied]
        rfl
      · rfl
  · rw [row]
    exact prepares.row_again
  · simp only [Prepared.operator, used]
  · simp only [Prepared.settled, config, kept]

/-! ### What is pinned -/

/-- **The pins**: from one directory to a later one. -/
structure Pinned (before after : DataDir) : Prop where
  row : ∀ row, before.operators = [row] → ∃ later, after.operators = [later] ∧
    later.masterPubkey = row.masterPubkey ∧ later.paymentBackend = row.paymentBackend
  fedimint : ∀ file, before.fedimint = some file → after.fedimint = some file
  seed : ∀ text, before.seed = some text → after.seed = some text
  /-- A seed that runs wrote has its row. -/
  seeded : before.seed = none → ∀ text, after.seed = some text → ∃ row, after.operators = [row]

theorem Pinned.refl (dir : DataDir) : Pinned dir dir where
  row row alone := ⟨row, alone, rfl, rfl⟩
  fedimint _ := id
  seed _ := id
  seeded absent text held := by
    rw [absent] at held
    cases held

theorem Pinned.then {first second third : DataDir} (one : Pinned first second)
    (two : Pinned second third) : Pinned first third where
  row := by
    intro row alone
    obtain ⟨middle, found, master, backend⟩ := one.row row alone
    obtain ⟨later, last, master', backend'⟩ := two.row middle found
    exact ⟨later, last, master'.trans master, backend'.trans backend⟩
  fedimint file held := two.fedimint file (one.fedimint file held)
  seed text held := two.seed text (one.seed text held)
  seeded := by
    intro absent text held
    cases middle : second.seed with
    | none => exact two.seeded middle text held
    | some early =>
        obtain ⟨row, alone⟩ := one.seeded absent early middle
        obtain ⟨later, last, -⟩ := two.row row alone
        exact ⟨later, last⟩

/-- **What the artifacts are** in a directory that runs have made. -/
structure Sound (crates : Crates) (dir : DataDir) : Prop where
  single : dir.operators.length ≤ 1
  relays : ∀ row ∈ dir.operators, ∃ relays, row.relays = some relays ∧
    normalizeRelays relays = relays
  identity : ∀ row ∈ dir.operators, ∀ text, dir.seed = some text →
    fromMnemonic crates (trim text) = .ok row.masterPubkey

/-- What a run returns in place of the fields its input omits, by what the directory held. -/
structure Inherits (crates : Crates) (raw : RawConfig) (dir : DataDir) (operator : Operator) :
    Prop where
  relays : relaysExplicitlySupplied raw = false → ∀ row, dir.operators = [row] →
    row.relays = some operator.config.relays
  compute : ∀ row, dir.operators = [row] → row.computeBackend = operator.config.computeBackend
  backend : nonEmpty raw.paymentBackend = none → ∀ row, dir.operators = [row] →
    row.paymentBackend = operator.config.paymentBackend.asStr
  invite : nonEmpty raw.fedimintInvite = none → operator.config.paymentBackend = .fedimint →
    ∃ invite, dir.fedimint = some (.config invite) ∧
      operator.config.fedimint = some ⟨trim invite⟩
  seed : nonEmpty raw.mnemonic = none → ∃ text, dir.seed = some text ∧
    fromMnemonic crates (trim text) = .ok operator.pubkeyHex

theorem readFedimintConfig_eq_ok {file : Option FedimintFile} {config : FedimintConfig}
    (read : readFedimintConfig file = .ok config) :
    ∃ invite, file = some (.config invite) ∧ config = ⟨trim invite⟩ := by
  unfold readFedimintConfig at read
  split at read
  · cases read
  · cases read
  · rename_i invite
    split at read
    · cases read
    · rename_i value full
      obtain ⟨held, -⟩ := Option.filter_eq_some_iff.mp full
      obtain rfl := Option.some.inj held
      exact ⟨invite, rfl, (Except.ok.inj read).symm⟩

namespace Prepares

variable {prepared : Prepared} (prepares : Prepares crates raw dir prepared)

include prepares

/-- The row a run finds, in the row it writes. -/
theorem row_found {row : OperatorRow} (alone : dir.operators = [row]) :
    row.masterPubkey = prepared.pubkeyHex ∧
    row.paymentBackend = prepared.persisted.paymentBackend.asStr ∧
    row.computeBackend = prepared.persisted.computeBackend ∧
    prepared.persisted.relays = updatedRelays prepared.config raw row := by
  obtain ⟨-, ⟨none, -⟩ | ⟨found, same, master, backend, compute, relays, -⟩⟩ :=
    reconcile_eq_ok prepares.row
  · rw [none] at alone
    cases alone
  · rw [same] at alone
    obtain rfl := (List.cons.inj alone).1
    exact ⟨master, backend, compute, relays⟩

theorem single : dir.operators.length ≤ 1 := by
  obtain ⟨-, ⟨none, -⟩ | ⟨row, alone, -⟩⟩ := reconcile_eq_ok prepares.row
  · simp [none]
  · simp [alone]

theorem identified {text : String} (file : dir.seed = some text) :
    fromMnemonic crates (trim text) = .ok prepared.pubkeyHex := by
  have identity := prepares.identity
  obtain ⟨found, held, known, -⟩ | ⟨-, absent, -⟩ := resolveSeed_eq_ok prepares.seed
  · obtain rfl := Option.some.inj (held.symm.trans file)
    rwa [known] at identity
  · rw [absent] at file
    cases file

theorem inherits (sound : Sound crates dir) :
    Inherits crates raw dir (prepared.operator crates raw dir) where
  relays omitted row alone := by
    obtain ⟨stored, known, normal⟩ := sound.relays row (by simp [alone])
    have relays := (prepares.row_found alone).2.2.2
    rw [updatedRelays, if_neg (by simp [omitted]), known, Option.map_some, Option.getD_some,
      normal] at relays
    rw [known, ← relays]
    rfl
  compute row alone := (prepares.row_found alone).2.2.1
  backend _ row alone := (prepares.row_found alone).2.1
  invite omitted backend := by
    have chosen : prepared.persisted.paymentBackend = .fedimint := backend
    have available := prepares.fedimint_known chosen
    have supplied : suppliedFedimintConfig raw = none := by rw [suppliedFedimintConfig, omitted]; rfl
    unfold fedimintAvailable at available
    simp only [supplied] at available
    cases read : readFedimintConfig dir.fedimint with
    | error error =>
        rw [read] at available
        cases available
    | ok config =>
        obtain ⟨invite, file, rfl⟩ := readFedimintConfig_eq_ok read
        refine ⟨invite, file, ?_⟩
        show fedimintUsed prepared.persisted.paymentBackend raw dir.fedimint = some ⟨trim invite⟩
        rw [fedimintUsed, if_pos chosen, supplied, read]
        rfl
  seed omitted := by
    obtain ⟨text, file, -⟩ | ⟨mnemonic, -, given, -⟩ := resolveSeed_eq_ok prepares.seed
    · exact ⟨text, file, prepares.identified file⟩
    · rw [omitted] at given
      cases given

theorem pinned {after : DataDir} (left : prepared.Leftover raw dir after) : Pinned dir after := by
  obtain rfl | later := left
  · exact Pinned.refl _
  have written : after.operators = prepared.operators := by
    obtain rfl | rfl | rfl := later <;> rfl
  rw [prepares.operators_eq] at written
  refine ⟨fun row alone => ?_, fun file held => ?_, fun text held => ?_, fun _ _ _ => ⟨_, written⟩⟩
  · obtain ⟨master, backend, -⟩ := prepares.row_found alone
    exact ⟨_, written, master.symm, backend.symm⟩
  · have kept : fedimintAfter prepared.persisted.paymentBackend raw dir.fedimint = some file := by
      rw [held, fedimintAfter]
      split <;> rfl
    obtain rfl | rfl | rfl := later
    · exact held
    · exact kept
    · exact kept
  · have kept : seedAfter prepared.seed dir.seed = some text := by
      unfold seedAfter
      split
      · rename_i fresh
        rw [prepares.seed_absent fresh] at held
        cases held
      · exact held
    obtain rfl | rfl | rfl := later
    · exact held
    · exact held
    · exact kept

theorem sound (lawful : Lawful crates) (sound : Sound crates dir) {after : DataDir}
    (left : prepared.Leftover raw dir after) : Sound crates after := by
  obtain ⟨again, repeated, -, -⟩ := prepares.again lawful left
  obtain rfl | later := left
  · exact sound
  have written : after.operators = [operatorRow prepared.pubkeyHex
      prepared.persisted.paymentBackend.asStr prepared.persisted.computeBackend
      prepared.persisted.relays] := by
    rw [← prepares.operators_eq]
    obtain rfl | rfl | rfl := later <;> rfl
  refine ⟨repeated.single, fun row member => ?_, fun row member text file => ?_⟩
  · rw [written, List.mem_singleton] at member
    rw [member]
    exact ⟨_, rfl, prepares.relays_normal⟩
  · have alone := written
    rw [written, List.mem_singleton] at member
    rw [← member] at alone
    rw [(repeated.row_found alone).1]
    exact repeated.identified file

end Prepares

/-! ### All runs -/

/-- A run without a fault. -/
def uninterrupted : Faults Cut := fun _ => none

/-- The directory after runs, each with its input and its faults. -/
def after (crates : Crates) (dir : DataDir) (runs : List (RawConfig × Faults Cut)) : DataDir :=
  runs.foldl (fun dir next => (run crates next.1 next.2 dir).dir) dir

theorem uninterrupted_done {prepared : Prepared} (prepares : Prepares crates raw dir prepared) :
    (run crates raw uninterrupted dir).result = .ok (prepared.operator crates raw dir) ∧
    (run crates raw uninterrupted dir).dir = prepared.settled raw dir := by
  have outcome := run_outcome crates raw uninterrupted dir
  have whole : ¬ Broken uninterrupted := by
    rintro ⟨number, broken⟩
    exact broken rfl
  have verdict := prepare_eq_ok.mpr prepares
  generalize run crates raw uninterrupted dir = ran at outcome ⊢
  cases outcome with
  | done prepares' taken =>
      obtain rfl := Except.ok.inj (verdict.symm.trans (prepare_eq_ok.mpr prepares'))
      exact ⟨rfl, rfl⟩
  | refused refuses =>
      rw [verdict] at refuses
      cases refuses
  | early broken => exact absurd broken whole
  | late broken => exact absurd broken whole

/-- A run leaves its directory, or one of the directories of a run that goes through. -/
theorem run_leaves (crates : Crates) (raw : RawConfig) (faults : Faults Cut) (dir : DataDir) :
    (run crates raw faults dir).dir = dir ∨
    ∃ prepared, Prepares crates raw dir prepared ∧
      prepared.Leftover raw dir (run crates raw faults dir).dir := by
  have outcome := run_outcome crates raw faults dir
  generalize run crates raw faults dir = ran at outcome ⊢
  cases outcome with
  | done prepares => exact .inr ⟨_, prepares, .inr (.inr (.inr rfl))⟩
  | refused => exact .inl rfl
  | early => exact .inl rfl
  | late broken prepares left => exact .inr ⟨_, prepares, left⟩

theorem run_pinned (raw : RawConfig) (faults : Faults Cut) (dir : DataDir) :
    Pinned dir (run crates raw faults dir).dir := by
  obtain same | ⟨prepared, prepares, left⟩ := run_leaves crates raw faults dir
  · rw [same]
    exact Pinned.refl dir
  · exact prepares.pinned left

theorem run_sound (lawful : Lawful crates) (raw : RawConfig) (faults : Faults Cut)
    (sound : Sound crates dir) : Sound crates (run crates raw faults dir).dir := by
  obtain same | ⟨prepared, prepares, left⟩ := run_leaves crates raw faults dir
  · rwa [same]
  · exact prepares.sound lawful sound left

theorem after_pinned (runs : List (RawConfig × Faults Cut)) (dir : DataDir) :
    Pinned dir (after crates dir runs) := by
  induction runs generalizing dir with
  | nil => exact Pinned.refl dir
  | cons first rest later => exact (run_pinned first.1 first.2 dir).then (later _)

theorem after_sound (lawful : Lawful crates) (runs : List (RawConfig × Faults Cut)) {dir : DataDir}
    (sound : Sound crates dir) : Sound crates (after crates dir runs) := by
  induction runs generalizing dir with
  | nil => exact sound
  | cons first rest later => exact later (run_sound lawful first.1 first.2 sound)

/-- **The same input again** comes to what it would have come to at once. -/
theorem run_again (lawful : Lawful crates) (raw : RawConfig) (faults : Faults Cut) (dir : DataDir) :
    (run crates raw uninterrupted (run crates raw faults dir).dir).result =
      (run crates raw uninterrupted dir).result ∧
    (run crates raw uninterrupted (run crates raw faults dir).dir).dir =
      (run crates raw uninterrupted dir).dir := by
  obtain same | ⟨prepared, prepares, left⟩ := run_leaves crates raw faults dir
  · rw [same]
    exact ⟨rfl, rfl⟩
  · obtain ⟨again, repeated, operator, settled⟩ := prepares.again lawful left
    obtain ⟨result, final⟩ := uninterrupted_done repeated
    obtain ⟨result', final'⟩ := uninterrupted_done prepares
    rw [result, final, result', final', operator, settled]
    exact ⟨rfl, rfl⟩

/-- A run that went past its checks goes through when nothing interrupts it. -/
theorem run_passed {crates : Crates} {raw : RawConfig} {faults : Faults Cut} {dir : DataDir}
    (wrote : 3 < (run crates raw faults dir).taken) :
    ∃ operator, (run crates raw uninterrupted dir).result = .ok operator := by
  have outcome := run_outcome crates raw faults dir
  generalize run crates raw faults dir = ran at outcome wrote
  cases outcome with
  | done prepares => exact ⟨_, (uninterrupted_done prepares).1⟩
  | refused _ reads => exact absurd wrote (not_lt.mpr reads)
  | early _ reads => exact absurd wrote (not_lt.mpr reads)
  | late _ prepares => exact ⟨_, (uninterrupted_done prepares).1⟩

/-- **The pins never move.** Over all runs on a directory without an operator, each with its input, its
failures and its crash: there is at most one row, with the identity that the seed file derives; the
row's identity and backend, the Fedimint config and the seed file stay as they were first written.
A refused run leaves no trace. A run that is done returns its row, and what the directory held for the
fields it omits. After a run cut short anywhere the same input comes to what it would have come to at
once, and succeeds if the run had come to its writes, which are preceded by three reads. -/
theorem pins_never_move (crates : Crates) (lawful : Lawful crates) (start : DataDir)
    (fresh : start.operators = []) (runs : List (RawConfig × Faults Cut)) :
    (after crates start runs).operators.length ≤ 1 ∧
    (∀ row ∈ (after crates start runs).operators, ∀ text,
      (after crates start runs).seed = some text →
        fromMnemonic crates (trim text) = .ok row.masterPubkey) ∧
    (∀ later, Pinned (after crates start runs) (after crates start (runs ++ later))) ∧
    ∀ raw faults dir ran, dir = after crates start runs → ran = run crates raw faults dir →
      (∀ error, ran.result = .error error → error ≠ .internal → ran.dir = dir) ∧
      (∀ operator, ran.result = .ok operator → Inherits crates raw dir operator ∧
        ran.dir.operators = [operatorRow operator.pubkeyHex operator.config.paymentBackend.asStr
          operator.config.computeBackend operator.config.relays]) ∧
      (run crates raw uninterrupted ran.dir).result = (run crates raw uninterrupted dir).result ∧
      (run crates raw uninterrupted ran.dir).dir = (run crates raw uninterrupted dir).dir ∧
      (3 < ran.taken → ∃ operator, (run crates raw uninterrupted dir).result = .ok operator) := by
  have first : Sound crates start := by
    refine ⟨by simp [fresh], fun row member => ?_, fun row member => ?_⟩ <;>
      simp [fresh] at member
  have sound := after_sound lawful runs first
  refine ⟨sound.single, sound.identity, fun later => ?_, ?_⟩
  · have whole : after crates start (runs ++ later) =
        after crates (after crates start runs) later := List.foldl_append
    rw [whole]
    exact after_pinned later _
  rintro raw faults dir ran rfl rfl
  obtain ⟨result, final⟩ := run_again lawful raw faults (after crates start runs)
  refine ⟨fun error failed other => ?_, fun operator done => ?_, result, final, run_passed⟩
  · have outcome := run_outcome crates raw faults (after crates start runs)
    generalize run crates raw faults (after crates start runs) = ran at outcome failed ⊢
    cases outcome with
    | done => cases failed
    | refused => rfl
    | early => rfl
    | late =>
        obtain rfl := Except.error.inj failed
        exact absurd rfl other
  · have outcome := run_outcome crates raw faults (after crates start runs)
    generalize run crates raw faults (after crates start runs) = ran at outcome done ⊢
    cases outcome with
    | done prepares =>
        obtain rfl := Except.ok.inj done
        exact ⟨prepares.inherits sound, prepares.operators_eq⟩
    | refused => cases done
    | early => cases done
    | late => cases done

/-- A known mnemonic, and its key. -/
def knownCrates : Crates where
  parseNormalized text :=
    if trim text = "leader monkey parrot ring guide accident before fence cannon height naive bean" then
      some "leader monkey parrot ring guide accident before fence cannon height naive bean"
    else none
  deriveKey _ := some "17162c921dc4d2518f9a101db33695df1afb56ab82f5ff3e5da6eec3ca5cd917"
  parseUrl _ := none

/-- The process dies after the row of a first run on Fedimint, and is started again. -/
theorem pins_never_move_crashed : ∃ raw ran operator,
    ran = run knownCrates raw (fun number => if number = 3 then some .done else none) .empty ∧
    ran.dir.operators.length = 1 ∧ ran.dir.fedimint = none ∧ ran.dir.seed = none ∧
    (run knownCrates raw uninterrupted ran.dir).result = .ok operator ∧
    (run knownCrates raw uninterrupted ran.dir).dir = (run knownCrates raw uninterrupted .empty).dir := by
  have lawful : Lawful knownCrates := by
    refine ⟨fun mnemonic canonical parsed => ?_, fun mnemonic canonical parsed => ?_⟩
    all_goals
      obtain ⟨-, rfl⟩ := Option.ite_some_none_eq_some.mp parsed
      decide +kernel
  obtain ⟨-, -, -, last⟩ := pins_never_move knownCrates lawful .empty rfl []
  let raw : RawConfig := {
    relays := none
    paymentBackend := some " fedimint "
    fedimintInvite := some "fed11qgqz"
    phoenixdUrl := none
    phoenixdApiPassword := none
    phoenixdFeeScheduleVersion := none
    phoenixdFeeBaseMsat := none
    phoenixdFeePpm := none
    phoenixdAcceptUnsupported := none
    phoenixd := none
    mnemonic := some
      "leader monkey parrot ring guide accident before fence cannon height naive bean" }
  let crashed : Faults Cut := fun number => if number = 3 then some .done else none
  have left : (fun ran : Ran => (decide (3 < ran.taken), ran.dir.operators.length, ran.dir.fedimint,
      ran.dir.seed)) (run knownCrates raw crashed .empty) = (true, 1, none, none) := by
    decide +kernel
  obtain ⟨ran, same⟩ : ∃ ran, ran = run knownCrates raw crashed .empty := ⟨_, rfl⟩
  rw [← same] at left
  simp only [Prod.mk.injEq, decide_eq_true_eq] at left
  obtain ⟨wrote, rows, fedimint, seed⟩ := left
  obtain ⟨-, -, result, final, done⟩ := last raw crashed .empty ran rfl same
  obtain ⟨operator, ok⟩ := done wrote
  exact ⟨raw, ran, operator, same, rows, fedimint, seed, result.trans ok, final⟩

end Run

end Lnrent.Bootstrap
