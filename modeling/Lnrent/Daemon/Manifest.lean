/-
**Recipe manifests** (`recipe.rs`, and the listing of a recipe in `nostr_engine.rs`). A manifest is what
`recipe.toml` holds; the files of its directory are the host's.

* `Recipe`, `Recipe.validate` — the manifest, and the check before it is used;
* `listingFromRecipe` — the listing it is published as, under its service id.
-/

import Lnrent.Wire.Listing

namespace Lnrent.Manifest

open Wire

/-- A file, by the components of its path. -/
abbrev Path := List String

/-- What the host answers about files. -/
structure Host where
  /-- `is_executable`: a regular file with an exec bit. -/
  isExecutable : Path → Bool
  canonicalize : Path → Option Path

/-! ### The manifest -/

structure Service where
  id : String
  name : String
  summary : String
  version : String

structure Pricing where
  amountSat : UInt64
  period : String

structure Provisioning where
  backend : String
  isolation : String
  tier : String
  env : List String

structure Param where
  key : String
  label : String
  ty : String
  isRequired : Bool

structure Operation where
  name : String
  label : String
  kind : String
  hook : String
  params : List Param

/-- **`Recipe`**. -/
structure Recipe where
  service : Service
  pricing : Pricing
  provisioning : Provisioning
  /-- `os.supports` -/
  supports : List String
  params : List Param
  operations : List Operation
  dir : Path

/-! ### The check -/

def lifecycleHooks : List String := ["provision", "suspend", "resume", "destroy", "healthcheck"]

def maxRecipeEnv : ℕ := 16

def maxEnvNameLen : ℕ := 64

/-- `is_known_compute_backend`. -/
def isKnownComputeBackend (backend : String) : Bool :=
  backend ∈ ["host", "incus", "libvirt", "proxmox"] || "cloud-".toList.isPrefixOf backend.toList

/-- `Operation::hook_is_safe`: a bare filename. -/
def Operation.hookIsSafe (operation : Operation) : Bool :=
  operation.hook ≠ "" && '/' ∉ operation.hook.toList && '\\' ∉ operation.hook.toList &&
    operation.hook ≠ ".." && operation.hook ≠ "."

/-- `hook`. -/
def Recipe.hook (recipe : Recipe) (name : String) : Path := recipe.dir ++ [name]

/-- `op_hook`. -/
def Recipe.opHook (recipe : Recipe) (operation : Operation) : Path :=
  recipe.dir ++ ["ops", operation.hook]

/-- Why a recipe is refused. -/
inductive RecipeError where
  | emptyServiceId
  | lifecycleHook (name : String)
  | unknownBackend (backend : String)
  | unknownIsolation (isolation : String)
  | invalidTier (tier : String)
  | noSupportedOs
  | unsupportedOs (os : String)
  | duplicateOperation (name : String)
  | unknownKind (name kind : String)
  | unsafeHook (name hook : String)
  | operationHook (name : String)
  | hookEscapes (name : String)
  | tooManyParams (count max : ℕ)
  | tooManyOperations (count max : ℕ)
  | tooManyOperationParams (name : String) (count max : ℕ)
  | tooManyEnv (count max : ℕ)
  | invalidEnvName (name : String)
  | forbiddenEnv (name : String)
deriving DecidableEq

/-- A check that bails out with an error. -/
def check (condition : Bool) (error : RecipeError) : Except RecipeError Unit :=
  if condition then .ok () else .error error

/-- The hook of a request-kind operation exists, and stays inside `ops/` where both resolve. -/
def checkRequestHook (host : Host) (recipe : Recipe) (operation : Operation) :
    Except RecipeError Unit := do
  check (host.isExecutable (recipe.opHook operation)) (.operationHook operation.name)
  match host.canonicalize (recipe.dir ++ ["ops"]), host.canonicalize (recipe.opHook operation) with
  | some ops, some hook => check (ops.isPrefixOf hook) (.hookEscapes operation.name)
  | _, _ => return

/-- The loop over the operations, with the names seen so far. -/
def checkOperations (host : Host) (recipe : Recipe) :
    List String → List Operation → Except RecipeError Unit
  | _, [] => .ok ()
  | seen, operation :: rest => do
      check (operation.name ∉ seen) (.duplicateOperation operation.name)
      check (operation.kind ∈ ["request", "interactive"]) (.unknownKind operation.name operation.kind)
      check operation.hookIsSafe (.unsafeHook operation.name operation.hook)
      if operation.kind = "request" then checkRequestHook host recipe operation
      checkOperations host recipe (operation.name :: seen) rest

/-- An environment variable's name: short, and of `[A-Z0-9_]`. -/
def isEnvName (name : String) : Bool :=
  name ≠ "" && name.utf8ByteSize ≤ maxEnvNameLen &&
    name.toList.all fun char => ('A' ≤ char && char ≤ 'Z') || ('0' ≤ char && char ≤ '9') || char = '_'

/-- **`Recipe::validate`**. -/
def Recipe.validate (host : Host) (recipe : Recipe) : Except RecipeError Unit := do
  check (recipe.service.id ≠ "") .emptyServiceId
  lifecycleHooks.forM fun name => check (host.isExecutable (recipe.hook name)) (.lifecycleHook name)
  check (isKnownComputeBackend recipe.provisioning.backend) (.unknownBackend recipe.provisioning.backend)
  check (recipe.provisioning.isolation ∈ ["none", "container", "vm"])
    (.unknownIsolation recipe.provisioning.isolation)
  check (recipe.provisioning.tier ∈ ["0", "1", "1.5", "2"]) (.invalidTier recipe.provisioning.tier)
  check (recipe.supports ≠ []) .noSupportedOs
  recipe.supports.forM fun os => check (os ∈ ["nixos", "debian"]) (.unsupportedOs os)
  checkOperations host recipe [] recipe.operations
  check (recipe.params.length ≤ maxParams) (.tooManyParams recipe.params.length maxParams)
  check (recipe.operations.length ≤ maxOperations)
    (.tooManyOperations recipe.operations.length maxOperations)
  recipe.operations.forM fun operation => check (operation.params.length ≤ maxParams)
    (.tooManyOperationParams operation.name operation.params.length maxParams)
  check (recipe.provisioning.env.length ≤ maxRecipeEnv)
    (.tooManyEnv recipe.provisioning.env.length maxRecipeEnv)
  recipe.provisioning.env.forM fun name => do
    check (isEnvName name) (.invalidEnvName name)
    check (!"LNRENT".toList.isPrefixOf name.toList) (.forbiddenEnv name)

/-! ### The listing of a recipe -/

/-- `param_decl`. -/
def Param.decl (param : Param) : ParamDecl := ⟨param.key, param.label, param.ty, param.isRequired⟩

/-- `op_decl`: the hook is dropped. -/
def Operation.decl (operation : Operation) : OperationDecl :=
  ⟨operation.name, operation.label, operation.kind, operation.params.map Param.decl⟩

/-- **`listing_from_recipe`**. -/
def listingFromRecipe (recipe : Recipe) (d operatorMasterHex : String) : Listing where
  d := d
  operator := operatorMasterHex
  recipeId := recipe.service.id
  recipeVersion := recipe.service.version
  title := recipe.service.name
  summary := recipe.service.summary
  amountSat := recipe.pricing.amountSat
  period := recipe.pricing.period
  params := recipe.params.map Param.decl
  operations := recipe.operations.map Operation.decl
  tier := if recipe.provisioning.isolation = "vm" then some recipe.provisioning.tier else none
  version := schemaVersion

/-- `d_tag`. -/
def dTag (recipe : Recipe) : String := recipe.service.id

end Lnrent.Manifest
