/-
**NIP-99 listings** (`wire/src/listing.rs`, `error.rs`). A listing is split over five tags of an event
and the JSON of its content.

* `Listing`, `Content` — the listing, and what of it rides in the content;
* `validateListing`, `buildListing` — the check on the struct, and the unsigned event;
* `parseListing` — the listing of a signed event; the arrays are bounded while they are read.

The content is modelled by the document a reader makes of its text, `none` if it makes none; whether
an event's id and signature verify, and which texts are public keys, is nostr's to say.
-/

import Lnrent.Serde.Record

namespace Lnrent.Wire

open Serde

/-! ### Constants and errors -/

def listingKind : ℕ := 30402

def schemaVersion : UInt32 := 1

def maxOperations : ℕ := 64

def maxParams : ℕ := 64

/-- `Error`, as far as listings raise it. -/
inductive Error where
  | json
  | notListing
  | invalidEvent
  | missing (field : String)
  | tooMany (field : String) (max : ℕ)
  | unsupportedSchemaVersion (found supported : UInt32)
  | invalidPriceAmount (found : String)
  | invalidPriceCurrency (found : String)
  | invalidOperator (found : String)
deriving DecidableEq

/-! ### Declarations -/

/-- The loop of `deserialize_bounded`: an item is read before the bound is checked. -/
def visitSeq {α : Type} (max : ℕ) (read : Json → Option α) : ℕ → List Json → Option (List α)
  | _, [] => some []
  | length, item :: rest => do
      let value ← read item
      if max ≤ length then none
      else return value :: (← visitSeq max read (length + 1) rest)

/-- `deserialize_bounded`. -/
def readBounded {α : Type} (max : ℕ) (read : Json → Option α) : Json → Option (List α)
  | .array items => visitSeq max read 0 items
  | _ => none

/-- `ParamDecl`: a parameter the buyer supplies. -/
structure ParamDecl where
  key : String
  label : String
  ty : String
  isRequired : Bool
deriving DecidableEq

def ParamDecl.names : List String := ["key", "label", "type", "required"]

def ParamDecl.columns (param : ParamDecl) : List (Option Json) :=
  [some (.string param.key), some (.string param.label), some (.string param.ty),
    some (.bool param.isRequired)]

def ParamDecl.write (param : ParamDecl) : Json := .object (assemble names param.columns)

def ParamDecl.read (document : Json) : Option ParamDecl :=
  match Serde.columns names document with
  | some [key, label, ty, isRequired] => do
      return {
        key := ← required readString key
        label := ← required readString label
        ty := ← required readString ty
        isRequired := ← defaulted readBool false isRequired }
  | _ => none

/-- `de_params`. -/
def readParams : Json → Option (List ParamDecl) := readBounded maxParams ParamDecl.read

def writeParams (params : List ParamDecl) : Json := .array (params.map ParamDecl.write)

/-- `OperationDecl`: a published management operation. -/
structure OperationDecl where
  name : String
  label : String
  kind : String
  params : List ParamDecl
deriving DecidableEq

def OperationDecl.names : List String := ["name", "label", "kind", "params"]

def OperationDecl.columns (operation : OperationDecl) : List (Option Json) :=
  [some (.string operation.name), some (.string operation.label), some (.string operation.kind),
    some (writeParams operation.params)]

def OperationDecl.write (operation : OperationDecl) : Json :=
  .object (assemble names operation.columns)

def OperationDecl.read (document : Json) : Option OperationDecl :=
  match Serde.columns names document with
  | some [name, label, kind, params] => do
      return {
        name := ← required readString name
        label := ← required readString label
        kind := ← required readString kind
        params := ← defaulted readParams [] params }
  | _ => none

/-- `de_operations`. -/
def readOperations : Json → Option (List OperationDecl) :=
  readBounded maxOperations OperationDecl.read

def writeOperations (operations : List OperationDecl) : Json :=
  .array (operations.map OperationDecl.write)

/-! ### The content -/

/-- `RecipeRef`. -/
structure RecipeRef where
  id : String
  version : String

def RecipeRef.names : List String := ["id", "version"]

def RecipeRef.columns (recipe : RecipeRef) : List (Option Json) :=
  [some (.string recipe.id), some (.string recipe.version)]

def RecipeRef.write (recipe : RecipeRef) : Json := .object (assemble names recipe.columns)

def RecipeRef.read (document : Json) : Option RecipeRef :=
  match Serde.columns names document with
  | some [id, version] => do
      return {
        id := ← required readString id
        version := ← required readString version }
  | _ => none

/-- `LnrentMeta`. -/
structure LnrentMeta where
  version : UInt32
  recipe : RecipeRef
  tier : Option String
  params : List ParamDecl
  operations : List OperationDecl

def LnrentMeta.names : List String := ["version", "recipe", "tier", "params", "operations"]

def LnrentMeta.columns (lnrent : LnrentMeta) : List (Option Json) :=
  [some (writeU32 lnrent.version), some lnrent.recipe.write, lnrent.tier.map .string,
    some (writeParams lnrent.params), some (writeOperations lnrent.operations)]

def LnrentMeta.write (lnrent : LnrentMeta) : Json := .object (assemble names lnrent.columns)

def LnrentMeta.read (document : Json) : Option LnrentMeta :=
  match Serde.columns names document with
  | some [version, recipe, tier, params, operations] => do
      return {
        version := ← required readU32 version
        recipe := ← required RecipeRef.read recipe
        tier := ← optional readString tier
        params := ← defaulted readParams [] params
        operations := ← defaulted readOperations [] operations }
  | _ => none

/-- `Content`. -/
structure Content where
  lnrent : LnrentMeta

def Content.names : List String := ["lnrent"]

def Content.columns (content : Content) : List (Option Json) := [some content.lnrent.write]

def Content.write (content : Content) : Json := .object (assemble names content.columns)

def Content.read (document : Json) : Option Content :=
  match Serde.columns names document with
  | some [lnrent] => do
      return { lnrent := ← required LnrentMeta.read lnrent }
  | _ => none

/-! ### Listings and events -/

/-- **`Listing`**. -/
structure Listing where
  d : String
  operator : String
  recipeId : String
  recipeVersion : String
  title : String
  summary : String
  amountSat : UInt64
  period : String
  params : List ParamDecl
  operations : List OperationDecl
  tier : Option String
  version : UInt32
deriving DecidableEq

/-- `ParsedListing`. -/
structure ParsedListing where
  listing : Listing
  listingId : String
deriving DecidableEq

/-- An unsigned event. -/
structure EventBuilder where
  kind : ℕ
  content : Option Json
  tags : List (List String)

/-- A signed event. -/
structure Event (PublicKey : Type) where
  pubkey : PublicKey
  kind : ℕ
  content : Option Json
  tags : List (List String)
  /-- `verify`: the id and the signature are right. -/
  verified : Bool

/-- **The event is the builder's, signed by the key.** -/
structure Signed {PublicKey : Type} (builder : EventBuilder) (signer : PublicKey)
    (event : Event PublicKey) : Prop where
  pubkey : event.pubkey = signer
  kind : event.kind = builder.kind
  content : event.content = builder.content
  tags : event.tags = builder.tags
  verified : event.verified = true

/-- `listing_coordinate`. -/
def listingCoordinate (pubkeyHex d : String) : String := s!"{listingKind}:{pubkeyHex}:{d}"

/-! ### Building -/

/-- `validate_listing`; `isKey` is `PublicKey::from_hex(..).is_ok()`. -/
def validateListing (isKey : String → Bool) (listing : Listing) : Except Error Unit :=
  if listing.version ≠ schemaVersion then
    .error (.unsupportedSchemaVersion listing.version schemaVersion)
  else if listing.d = "" then .error (.missing "d")
  else if isKey listing.operator = false then .error (.invalidOperator listing.operator)
  else if maxParams < listing.params.length then .error (.tooMany "params" maxParams)
  else if maxOperations < listing.operations.length then
    .error (.tooMany "operations" maxOperations)
  else if listing.operations.any fun operation => maxParams < operation.params.length then
    .error (.tooMany "operation.params" maxParams)
  else .ok ()

/-- The metadata of a listing. -/
def Listing.content (listing : Listing) : Content where
  lnrent := {
    version := listing.version
    recipe := ⟨listing.recipeId, listing.recipeVersion⟩
    tier := listing.tier
    params := listing.params
    operations := listing.operations }

/-- The event of a listing, whether it is valid or not. -/
def Listing.event (listing : Listing) : EventBuilder where
  kind := listingKind
  content := some listing.content.write
  tags := [
    ["d", listing.d],
    ["title", listing.title],
    ["summary", listing.summary],
    ["price", listing.amountSat.toNat.repr, "SAT", listing.period],
    ["operator", listing.operator]]

/-- **`build_listing`**. -/
def buildListing (isKey : String → Bool) (listing : Listing) : Except Error EventBuilder :=
  match validateListing isKey listing with
  | .error error => .error error
  | .ok () => .ok listing.event

/-! ### Parsing -/

/-- The decimal digits of a number, `None` if there are none or one is not a digit. -/
def parseDigits (digits : List Char) : Option ℕ :=
  if digits ≠ [] ∧ digits.all Char.isDigit then some (Nat.ofDigitChars 10 digits 0) else none

/-- What follows a plus sign, if there is one. -/
def unsigned : List Char → List Char
  | '+' :: digits => digits
  | digits => digits

/-- `str::parse::<u64>`: decimal digits, after a plus sign if there is one. -/
def parseU64 (text : String) : Option UInt64 :=
  (parseDigits (unsigned text.toList)).bind fun value =>
    if value < 2 ^ 64 then some (UInt64.ofNat value) else none

/-- What the loop over the tags has found. -/
structure Tags where
  d : Option String := none
  title : Option String := none
  summary : Option String := none
  operator : Option String := none
  amountSat : Option UInt64 := none
  period : Option String := none

/-- The price tag: amount, currency and frequency. -/
def readPrice (tags : Tags) (tag : List String) : Except Error Tags :=
  match tag[1]? with
  | none => .error (.missing "price.amount")
  | some amount =>
      match tag[2]? with
      | none => .error (.missing "price.currency")
      | some currency =>
          match tag[3]? with
          | none => .error (.missing "price.frequency")
          | some frequency =>
              if currency ≠ "SAT" then .error (.invalidPriceCurrency currency)
              else
                match parseU64 amount with
                | none => .error (.invalidPriceAmount amount)
                | some amountSat => .ok { tags with amountSat := some amountSat, period := some frequency }

/-- One tag: the first of each name counts, any other is passed over. -/
def readTag (tags : Tags) (tag : List String) : Except Error Tags :=
  if tag[0]? = some "d" ∧ tags.d = none then .ok { tags with d := tag[1]? }
  else if tag[0]? = some "title" ∧ tags.title = none then .ok { tags with title := tag[1]? }
  else if tag[0]? = some "summary" ∧ tags.summary = none then .ok { tags with summary := tag[1]? }
  else if tag[0]? = some "operator" ∧ tags.operator = none then .ok { tags with operator := tag[1]? }
  else if tag[0]? = some "price" ∧ tags.amountSat = none then readPrice tags tag
  else .ok tags

def orMissing {α : Type} (field : String) : Option α → Except Error α
  | some value => .ok value
  | none => .error (.missing field)

/-- The listing of the tags and the metadata. -/
def assembleListing (isKey : String → Bool) (tags : Tags) (d : String) (lnrent : LnrentMeta) :
    Except Error Listing :=
  if lnrent.version ≠ schemaVersion then
    .error (.unsupportedSchemaVersion lnrent.version schemaVersion)
  else do
    let operator ← orMissing "operator" tags.operator
    if isKey operator = false then .error (.invalidOperator operator)
    else
      let title ← orMissing "title" tags.title
      let summary ← orMissing "summary" tags.summary
      let amountSat ← orMissing "price.amount" tags.amountSat
      let period ← orMissing "price.frequency" tags.period
      return {
        operator, title, summary, amountSat, period, d
        recipeId := lnrent.recipe.id
        recipeVersion := lnrent.recipe.version
        params := lnrent.params
        operations := lnrent.operations
        tier := lnrent.tier
        version := lnrent.version }

/-- **`parse_listing`**. -/
def parseListing {PublicKey : Type} (toHex : PublicKey → String) (isKey : String → Bool)
    (event : Event PublicKey) : Except Error ParsedListing :=
  if event.kind ≠ listingKind then .error .notListing
  else if event.verified = false then .error .invalidEvent
  else do
    let tags ← event.tags.foldlM readTag {}
    let d ← orMissing "d" tags.d
    if d = "" then .error (.missing "d")
    else
      match event.content.bind Content.read with
      | none => .error .json
      | some content =>
          let listing ← assembleListing isKey tags d content.lnrent
          return ⟨listing, listingCoordinate (toHex event.pubkey) d⟩

end Lnrent.Wire
