/-
**The operator's bootstrap** (`config.rs`, `bootstrap`). A run resolves its input against what the data
directory already holds, and writes the operator row, the Fedimint config and the seed, in this order.

* `RawConfig`, `OperatorConfig`, `BootstrapError` — the input, what it resolves to, and the refusals;
* `DataDir` — the three artifacts, `Cut` — how one step of a run may be cut short;
* `resolveConfig`, `suppliedPhoenixdConfig` — the input by itself;
* `fedimintAvailable`, `resolveSeed`, `reconcile` — the input against each artifact;
* `bootstrap` — the run; `Crates` stands for what the BIP39 and URL crates compute.

A message stands as a constructor with the values it shows. Every read and every write is a step that
may fail; a write may also be the last thing the process does.
-/

import Lnrent.Daemon.RefundResolver
import Lnrent.Transition.Faulty

namespace Lnrent.Bootstrap

open Transition

/-! ### Input -/

/-- `PaymentMode` -/
inductive PaymentMode where
  | mock
  | fedimint
  | phoenixd
deriving DecidableEq

/-- The refusals, by `code`. -/
inductive BootstrapError where
  /-- `config_invalid` -/
  | unknownBackend (text : String)
  | notWebsocket (relay : String)
  | noFedimintInvite
  | unparseableFedimintConfig
  | blankInvite
  | phoenixdUnsupported
  | noPhoenixdUrl
  | noPhoenixdPassword
  | invalidPhoenixdUrl (raw : String)
  | partialFeeSchedule
  /-- `config_conflict` -/
  | differentInvite
  | corruptFedimintConfig
  | differentBackend (stored : String)
  /-- `seed_conflict` -/
  | differentSeed
  | differentIdentity
  | seedMissing
  | identityInvalid
  | operatorNotSingleton (count : ℕ)
  /-- What the system could not do. -/
  | internal
deriving DecidableEq

/-- `as_str` -/
def PaymentMode.asStr : PaymentMode → String
  | .mock => "mock"
  | .fedimint => "fedimint"
  | .phoenixd => "phoenixd"

/-- `PaymentMode::parse` -/
def PaymentMode.parse (text : String) : Except BootstrapError PaymentMode :=
  if text = "mock" then .ok .mock
  else if text = "fedimint" then .ok .fedimint
  else if text = "phoenixd" then .ok .phoenixd
  else .error (.unknownBackend text)

/-- `RawPhoenixdConfig` -/
structure RawPhoenixdConfig where
  url : Option String
  apiPassword : Option String
  feeScheduleVersion : Option String
  feeBaseMsat : Option UInt64
  feePpm : Option UInt64
  acceptUnsupported : Option Bool

/-- **`RawConfig`**, without the fields that are not read and the directory itself. -/
structure RawConfig where
  relays : Option (List String)
  paymentBackend : Option String
  fedimintInvite : Option String
  phoenixdUrl : Option String
  phoenixdApiPassword : Option String
  phoenixdFeeScheduleVersion : Option String
  phoenixdFeeBaseMsat : Option UInt64
  phoenixdFeePpm : Option UInt64
  phoenixdAcceptUnsupported : Option Bool
  phoenixd : Option RawPhoenixdConfig
  mnemonic : Option String

structure FedimintConfig where
  invite : String
deriving DecidableEq

structure PhoenixdFeeSchedule where
  version : String
  baseMsat : UInt64
  ppm : UInt64
deriving DecidableEq

structure PhoenixdConfig where
  url : String
  apiPassword : String
  feeSchedule : Option PhoenixdFeeSchedule
deriving DecidableEq

/-- `OperatorConfig` -/
structure OperatorConfig where
  relays : List String
  paymentBackend : PaymentMode
  computeBackend : String
  fedimint : Option FedimintConfig
  phoenixd : Option PhoenixdConfig
deriving DecidableEq

/-- `Operator`: the identity, as its public key, and the config. -/
structure Operator where
  pubkeyHex : String
  config : OperatorConfig
deriving DecidableEq

/-- A parsed URL, as far as it is looked at. -/
structure ParsedUrl where
  scheme : String
  host : Option RefundResolver.Host
  credentials : Bool
  queryOrFragment : Bool
  text : String

/-- **What the crates compute.** -/
structure Crates where
  /-- `Mnemonic::parse_normalized(..)`, as text again. -/
  parseNormalized : String → Option String
  /-- The hex of the account's public key, `Keys::from_mnemonic_with_account`. -/
  deriveKey : String → Option String
  parseUrl : String → Option ParsedUrl

/-! ### Texts -/

/-- `str::trim` -/
def trim (text : String) : String := String.ofList (RefundResolver.trim text.toList)

/-- `non_empty` -/
def nonEmpty (text : Option String) : Option String :=
  (text.map trim).filter fun text => text ≠ ""

def defaultRelays : List String :=
  ["wss://relay.damus.io", "wss://nos.lol", "wss://relay.primal.net"]

def defaultComputeBackend : String := "host"

/-- The relays that are not blank. -/
def filteredRelays (relays : List String) : List String :=
  relays.filterMap fun relay => nonEmpty (some relay)

/-- `normalize_relays` -/
def normalizeRelays (relays : List String) : List String :=
  if filteredRelays relays = [] then defaultRelays else filteredRelays relays

/-- `relays_explicitly_supplied` -/
def relaysExplicitlySupplied (raw : RawConfig) : Bool :=
  raw.relays.any fun relays => relays.any fun relay => trim relay ≠ ""

/-! ### The input by itself -/

section Input

variable (crates : Crates)

/-- `localhost`, or a name under it. -/
def localName (name : List Char) : Bool :=
  name = "localhost".toList || ".localhost".toList.isSuffixOf name

def isLoopback : RefundResolver.Host → Bool
  | .ipv4 ip => ip.isLoopback
  | .ipv6 ip => ip.isLoopback
  | .domain name => localName (name.toList.map Char.toLower)

/-- `validate_phoenixd_url` -/
def validatePhoenixdUrl (raw : String) : Except BootstrapError String :=
  match crates.parseUrl raw with
  | none => .error (.invalidPhoenixdUrl raw)
  | some url =>
      match url.host with
      | none => .error (.invalidPhoenixdUrl raw)
      | some host =>
          if url.credentials || url.queryOrFragment then .error (.invalidPhoenixdUrl raw)
          else if url.scheme = "https" ∨ (url.scheme = "http" ∧ isLoopback host = true) then
            .ok (if "/".toList.isSuffixOf url.text.toList then url.text else url.text ++ "/")
          else .error (.invalidPhoenixdUrl raw)

/-- `require_phoenixd_unsupported_opt_in` -/
def requirePhoenixdUnsupportedOptIn (raw : RawConfig) : Except BootstrapError Unit :=
  if ((raw.phoenixdAcceptUnsupported.or (raw.phoenixd.bind (·.acceptUnsupported))).getD false) = true
  then .ok ()
  else .error .phoenixdUnsupported

/-- `supplied_phoenixd_fee_schedule` -/
def suppliedPhoenixdFeeSchedule (raw : RawConfig) :
    Except BootstrapError (Option PhoenixdFeeSchedule) :=
  match (nonEmpty raw.phoenixdFeeScheduleVersion).or
      (raw.phoenixd.bind fun block => nonEmpty block.feeScheduleVersion),
    raw.phoenixdFeeBaseMsat.or (raw.phoenixd.bind (·.feeBaseMsat)),
    raw.phoenixdFeePpm.or (raw.phoenixd.bind (·.feePpm)) with
  | none, none, none => .ok none
  | some version, some baseMsat, some ppm => .ok (some ⟨version, baseMsat, ppm⟩)
  | _, _, _ => .error .partialFeeSchedule

/-- `supplied_phoenixd_config` -/
def suppliedPhoenixdConfig (raw : RawConfig) : Except BootstrapError PhoenixdConfig := do
  requirePhoenixdUnsupportedOptIn raw
  match (nonEmpty raw.phoenixdUrl).or (raw.phoenixd.bind fun block => nonEmpty block.url) with
  | none => .error .noPhoenixdUrl
  | some url =>
      let url ← validatePhoenixdUrl crates url
      let feeSchedule ← suppliedPhoenixdFeeSchedule raw
      match (nonEmpty raw.phoenixdApiPassword).or
          (raw.phoenixd.bind fun block => nonEmpty block.apiPassword) with
      | none => .error .noPhoenixdPassword
      | some apiPassword => .ok ⟨url, apiPassword, feeSchedule⟩

/-- The phoenixd config of a run on a backend, at both places that fill it in. -/
def runtimePhoenixd (raw : RawConfig) (paymentBackend : PaymentMode) :
    Except BootstrapError (Option PhoenixdConfig) :=
  if paymentBackend = .phoenixd then (suppliedPhoenixdConfig crates raw).map some else .ok none

/-- `supplied_fedimint_config` -/
def suppliedFedimintConfig (raw : RawConfig) : Option FedimintConfig :=
  (nonEmpty raw.fedimintInvite).map FedimintConfig.mk

/-- The backend of the input, `mock` if there is none. -/
def resolveBackend (raw : RawConfig) : Except BootstrapError PaymentMode :=
  match nonEmpty raw.paymentBackend with
  | some text => PaymentMode.parse text
  | none => .ok .mock

/-- The relays of the input, or the default ones. -/
def resolveRelays (raw : RawConfig) : List String :=
  match raw.relays with
  | some relays => if relays = [] then defaultRelays else normalizeRelays relays
  | none => defaultRelays

/-- A relay that is not a websocket URL. -/
def notWebsocket (relay : String) : Bool :=
  !("ws://".toList.isPrefixOf relay.toList || "wss://".toList.isPrefixOf relay.toList)

/-- **`resolve_config`** -/
def resolveConfig (raw : RawConfig) : Except BootstrapError OperatorConfig := do
  let paymentBackend ← resolveBackend raw
  let phoenixd ← runtimePhoenixd crates raw paymentBackend
  match (resolveRelays raw).find? notWebsocket with
  | some relay => .error (.notWebsocket relay)
  | none => .ok {
      relays := resolveRelays raw
      paymentBackend
      computeBackend := defaultComputeBackend
      fedimint := if paymentBackend = .fedimint then suppliedFedimintConfig raw else none
      phoenixd }

/-- `OperatorIdentity::from_mnemonic`, as far as its public key. -/
def fromMnemonic (mnemonic : String) : Except BootstrapError String :=
  match crates.parseNormalized (trim mnemonic) with
  | none => .error .identityInvalid
  | some _ =>
      match crates.deriveKey (trim mnemonic) with
      | none => .error .identityInvalid
      | some pubkeyHex => .ok pubkeyHex

end Input

/-! ### The data directory -/

/-- The operator row. A text of the `relays` column that is not JSON is `none`. -/
structure OperatorRow where
  masterPubkey : String
  boxIndex : ℕ
  opPubkey : String
  paymentBackend : String
  computeBackend : String
  relays : Option (List String)
deriving DecidableEq

/-- `fedimint.json`, parsed or not. -/
inductive FedimintFile where
  | config (invite : String)
  | corrupt
deriving DecidableEq

/-- **The data directory**: the rows of the operator table, the Fedimint config and the seed file. -/
structure DataDir where
  operators : List OperatorRow
  fedimint : Option FedimintFile
  seed : Option String
deriving DecidableEq

def DataDir.empty : DataDir := ⟨[], none, none⟩

/-- **How a step is cut short**: it fails, or the process dies right after it. -/
inductive Cut where
  | undone
  | done
deriving DecidableEq

/-- A step of a run. -/
abbrev Step (α : Type) := Faulty DataDir Cut BootstrapError α

/-- Read the directory. -/
def look : Step DataDir := do
  Faulty.step .internal id fun _ => id
  Faulty.inspect

/-- Write to the directory, all or nothing. -/
def write (change : DataDir → DataDir) : Step Unit :=
  Faulty.step .internal change fun
    | .undone => id
    | .done => change

/-! ### The input against the artifacts -/

/-- `read_fedimint_config` -/
def readFedimintConfig : Option FedimintFile → Except BootstrapError FedimintConfig
  | none => .error .noFedimintInvite
  | some .corrupt => .error .unparseableFedimintConfig
  | some (.config invite) =>
      match nonEmpty (some invite) with
      | none => .error .blankInvite
      | some invite => .ok ⟨invite⟩

/-- `validate_fedimint_config_reconcile`, which `write_fedimint_config` repeats. -/
def reconcileFedimint (config : FedimintConfig) : Option FedimintFile → Except BootstrapError Unit
  | none => .ok ()
  | some .corrupt => .error .corruptFedimintConfig
  | some (.config invite) =>
      if trim invite ≠ trim config.invite then .error .differentInvite else .ok ()

/-- `validate_fedimint_config_available` -/
def fedimintAvailable (raw : RawConfig) (file : Option FedimintFile) : Except BootstrapError Unit :=
  match suppliedFedimintConfig raw with
  | some config => reconcileFedimint config file
  | none => (readFedimintConfig file).map fun _ => ()

/-- The check of a run whose input names the backend. -/
def requireFedimint (config : OperatorConfig) (raw : RawConfig) (file : Option FedimintFile) :
    Except BootstrapError Unit :=
  if config.paymentBackend = .fedimint then fedimintAvailable raw file else .ok ()

/-- `ResolvedSeed` -/
structure ResolvedSeed where
  mnemonic : String
  persistAfterSuccess : Bool

section Artifacts

variable (crates : Crates)

/-- `canonical_mnemonic` -/
def canonicalMnemonic (mnemonic : String) : Option String := crates.parseNormalized (trim mnemonic)

/-- `same_mnemonic` -/
def sameMnemonic (first second : String) : Bool :=
  match canonicalMnemonic crates first, canonicalMnemonic crates second with
  | some one, some two => one = two
  | _, _ => trim first = trim second

/-- **`resolve_seed`** -/
def resolveSeed (supplied file : Option String) : Except BootstrapError ResolvedSeed :=
  match file, nonEmpty supplied with
  | some text, none => .ok ⟨trim text, false⟩
  | some text, some mnemonic =>
      if sameMnemonic crates mnemonic (trim text) = true then .ok ⟨trim text, false⟩
      else .error .differentSeed
  | none, none => .error .seedMissing
  | none, some mnemonic => .ok ⟨(canonicalMnemonic crates mnemonic).getD mnemonic, true⟩

/-- `stored_payment_backend_for_identity` -/
def storedBackend (pubkeyHex : String) (operators : List OperatorRow) : Option String :=
  operators.head?.bind fun row => if row.masterPubkey = pubkeyHex then some row.paymentBackend else none

/-- `validate_inherited_fedimint_config_before_store` -/
def inheritedFedimint (pubkeyHex : String) (config : OperatorConfig) (raw : RawConfig)
    (dir : DataDir) : Except BootstrapError Unit :=
  if (nonEmpty raw.paymentBackend).isSome = true ∨ config.paymentBackend = .fedimint then .ok ()
  else if storedBackend pubkeyHex dir.operators = some "fedimint" then
    fedimintAvailable raw dir.fedimint
  else .ok ()

/-- `validate_inherited_phoenixd_config_before_store` -/
def inheritedPhoenixd (pubkeyHex : String) (config : OperatorConfig) (raw : RawConfig)
    (dir : DataDir) : Except BootstrapError Unit :=
  if (nonEmpty raw.paymentBackend).isSome = true ∨ config.paymentBackend = .phoenixd then .ok ()
  else if storedBackend pubkeyHex dir.operators = some "phoenixd" then
    (suppliedPhoenixdConfig crates raw).map fun _ => ()
  else .ok ()

/-- `PersistedConfig` -/
structure PersistedConfig where
  relays : List String
  computeBackend : String
  paymentBackend : PaymentMode

/-- The row of an operator. -/
def operatorRow (pubkeyHex payment compute : String) (relays : List String) : OperatorRow where
  masterPubkey := pubkeyHex
  boxIndex := 0
  opPubkey := pubkeyHex
  paymentBackend := payment
  computeBackend := compute
  relays := some relays

/-- The relays an update stores. -/
def updatedRelays (config : OperatorConfig) (raw : RawConfig) (row : OperatorRow) : List String :=
  if relaysExplicitlySupplied raw = true then config.relays
  else (row.relays.map normalizeRelays).getD config.relays

/-- **The transaction of `persist_operator_row`**: what the table becomes, and what was persisted. -/
def reconcile (pubkeyHex : String) (config : OperatorConfig) (raw : RawConfig) :
    List OperatorRow → Except BootstrapError (List OperatorRow × PersistedConfig)
  | [] =>
      .ok ([operatorRow pubkeyHex config.paymentBackend.asStr config.computeBackend config.relays],
        ⟨config.relays, config.computeBackend, config.paymentBackend⟩)
  | [row] =>
      if row.masterPubkey ≠ pubkeyHex then .error .differentIdentity
      else if (nonEmpty raw.paymentBackend).isSome = true ∧
          row.paymentBackend ≠ config.paymentBackend.asStr then
        .error (.differentBackend row.paymentBackend)
      else
        match PaymentMode.parse row.paymentBackend with
        | .error _ => .error (.differentBackend row.paymentBackend)
        | .ok paymentBackend =>
            .ok ([operatorRow pubkeyHex row.paymentBackend row.computeBackend
                (updatedRelays config raw row)],
              ⟨updatedRelays config raw row, row.computeBackend, paymentBackend⟩)
  | first :: second :: rest => .error (.operatorNotSingleton (first :: second :: rest).length)

/-! ### A run -/

/-- `persist_operator_row`: one transaction. -/
def persistOperatorRow (pubkeyHex : String) (config : OperatorConfig) (raw : RawConfig) :
    Step PersistedConfig := do
  let dir ← look
  match reconcile pubkeyHex config raw dir.operators with
  | .error error => Faulty.fail error
  | .ok (operators, persisted) => do
      write fun dir => { dir with operators }
      return persisted

/-- `write_fedimint_config` -/
def writeFedimintConfig (config : FedimintConfig) : Step Unit := do
  let dir ← look
  Faulty.check (reconcileFedimint config dir.fedimint)
  match dir.fedimint with
  | some _ => return ()
  | none => write fun dir => { dir with fedimint := some (.config config.invite) }

/-- `resolve_durable_fedimint_config` -/
def resolveDurableFedimintConfig (paymentBackend : PaymentMode) (raw : RawConfig) :
    Step (Option FedimintConfig) :=
  if paymentBackend ≠ .fedimint then return none
  else
    match suppliedFedimintConfig raw with
    | some config => do
        writeFedimintConfig config
        return some config
    | none => do
        let dir ← look
        let config ← Faulty.check (readFedimintConfig dir.fedimint)
        return some config

/-- `write_seed` -/
def writeSeed (mnemonic : String) : Step Unit := do
  let dir ← look
  match dir.seed with
  | some text => Faulty.check (if trim text = mnemonic then .ok () else .error .differentSeed)
  | none => write fun dir => { dir with seed := some (mnemonic ++ "\n") }

/-- The seed of a first run is written at the end. -/
def persistSeed (seed : ResolvedSeed) : Step Unit :=
  if seed.persistAfterSuccess = true then writeSeed seed.mnemonic else return ()

/-- **`bootstrap`** -/
def bootstrap (raw : RawConfig) : Step Operator := do
  let config ← Faulty.check (resolveConfig crates raw)
  let dir ← look
  Faulty.check (requireFedimint config raw dir.fedimint)
  let seed ← Faulty.check (resolveSeed crates raw.mnemonic dir.seed)
  let pubkeyHex ← Faulty.check (fromMnemonic crates seed.mnemonic)
  let dir ← look
  Faulty.check (inheritedFedimint pubkeyHex config raw dir)
  Faulty.check (inheritedPhoenixd crates pubkeyHex config raw dir)
  let persisted ← persistOperatorRow pubkeyHex config raw
  let fedimint ← resolveDurableFedimintConfig persisted.paymentBackend raw
  let phoenixd ← Faulty.check (runtimePhoenixd crates raw persisted.paymentBackend)
  persistSeed seed
  return ⟨pubkeyHex, {
    relays := persisted.relays
    paymentBackend := persisted.paymentBackend
    computeBackend := persisted.computeBackend
    fedimint, phoenixd }⟩

end Artifacts

end Lnrent.Bootstrap
