/-
**Listing build and parse are inverse.**

* `Bounded`, `Valid` — what a listing has to be, in one place;
* `buildListing_iff`, `parseListing_valid` — the struct's check and the parser's accept just that;
* `parseListing_signed` — **a signed event is parsed back**, field by field;
* `listing_round_trip` — both ways round, the refusal of oversized arrays, and the recipes.
-/

import Lnrent.Daemon.Manifest

namespace Lnrent.Wire

open Serde

/-! ### Bounded arrays -/

section Arrays

variable {α : Type} {max : ℕ} {read : Json → Option α}

/-- **The bounded loop** reads every item of an array that is not too long. -/
theorem visitSeq_eq {length : ℕ} (below : length ≤ max) (items : List Json) :
    visitSeq max read length items =
      if length + items.length ≤ max then items.mapM read else none := by
  induction items generalizing length with
  | nil => simp [visitSeq, below]
  | cons item rest ih =>
      rw [visitSeq, List.mapM_cons, List.length_cons]
      cases read item with
      | none => simp
      | some value =>
          by_cases full : max ≤ length
          · have exceeds : ¬ length + (rest.length + 1) ≤ max := by omega
            simp [full, exceeds]
          · rw [ih (by omega)]
            have same : length + 1 + rest.length ≤ max ↔ length + (rest.length + 1) ≤ max := by omega
            by_cases fits : length + (rest.length + 1) ≤ max
            · simp [full, fits, same.mpr fits]
            · simp [full, fits, mt same.mp fits]

theorem readBounded_array (items : List Json) :
    readBounded max read (.array items) =
      if items.length ≤ max then items.mapM read else none := by
  rw [readBounded, visitSeq_eq (Nat.zero_le _), Nat.zero_add]

theorem readBounded_map {write : α → Json} {items : List α} (short : items.length ≤ max)
    (inverse : ∀ item ∈ items, read (write item) = some item) :
    readBounded max read (.array (items.map write)) = some items := by
  rw [readBounded_array, List.length_map, if_pos short, mapM_map read items inverse]

theorem mapM_some {items : List Json} :
    ∀ {values : List α}, items.mapM read = some values →
      values.length = items.length ∧ ∀ value ∈ values, ∃ item ∈ items, read item = some value := by
  induction items with
  | nil =>
      intro values found
      obtain rfl : [] = values := by simpa using found
      simp
  | cons item rest ih =>
      intro values found
      rw [List.mapM_cons] at found
      obtain ⟨head, here, found⟩ := Option.bind_eq_some_iff.mp found
      obtain ⟨tail, there, found⟩ := Option.bind_eq_some_iff.mp found
      obtain rfl : head :: tail = values := by simpa using found
      obtain ⟨length, each⟩ := ih there
      refine ⟨congrArg (· + 1) length, fun value member => ?_⟩
      rcases List.mem_cons.mp member with rfl | later
      · exact ⟨item, List.mem_cons_self, here⟩
      · obtain ⟨source, among, same⟩ := each value later
        exact ⟨source, List.mem_cons_of_mem _ among, same⟩

/-- What a bounded reader returns is no longer than its bound. -/
theorem readBounded_some {document : Json} {values : List α}
    (found : readBounded max read document = some values) :
    values.length ≤ max ∧ ∀ value ∈ values, ∃ item, read item = some value := by
  cases document with
  | array items =>
      rw [readBounded_array] at found
      split_ifs at found with short
      obtain ⟨length, each⟩ := mapM_some found
      refine ⟨length.trans_le short, fun value member => ?_⟩
      obtain ⟨item, -, same⟩ := each value member
      exact ⟨item, same⟩
  | _ => simp [readBounded] at found

theorem readBounded_long {items : List Json} (long : max < items.length) :
    readBounded max read (.array items) = none := by
  rw [readBounded_array, if_neg (not_le.mpr long)]

theorem mapM_none {items : List Json} {item : Json} (member : item ∈ items)
    (fails : read item = none) : items.mapM read = none := by
  induction items with
  | nil => cases member
  | cons head rest ih =>
      rw [List.mapM_cons]
      rcases List.mem_cons.mp member with rfl | later
      · simp [fails]
      · simp [ih later]

theorem readBounded_none {items : List Json} {item : Json} (member : item ∈ items)
    (fails : read item = none) : readBounded max read (.array items) = none := by
  rw [readBounded_array, mapM_none member fails, ite_self]

end Arrays

/-! ### The content is read back -/

theorem ParamDecl.read_write (param : ParamDecl) : ParamDecl.read param.write = some param := by
  have cols : Serde.columns names param.write = some param.columns :=
    columns_assemble (by decide) rfl
  simp [ParamDecl.read, cols, ParamDecl.columns]

theorem readParams_write {params : List ParamDecl} (short : params.length ≤ maxParams) :
    readParams (writeParams params) = some params :=
  readBounded_map short fun param _ => param.read_write

theorem OperationDecl.read_write {operation : OperationDecl}
    (short : operation.params.length ≤ maxParams) :
    OperationDecl.read operation.write = some operation := by
  have cols : Serde.columns names operation.write = some operation.columns :=
    columns_assemble (by decide) rfl
  simp [OperationDecl.read, cols, OperationDecl.columns, readParams_write short]

theorem RecipeRef.read_write (recipe : RecipeRef) : RecipeRef.read recipe.write = some recipe := by
  have cols : Serde.columns names recipe.write = some recipe.columns :=
    columns_assemble (by decide) rfl
  simp [RecipeRef.read, cols, RecipeRef.columns]

/-- The arrays of a listing are within their bounds. -/
structure Bounded (declared : List ParamDecl) (published : List OperationDecl) : Prop where
  params : declared.length ≤ maxParams
  operations : published.length ≤ maxOperations
  each : ∀ operation ∈ published, operation.params.length ≤ maxParams

theorem LnrentMeta.read_write {lnrent : LnrentMeta}
    (bounded : Bounded lnrent.params lnrent.operations) :
    LnrentMeta.read lnrent.write = some lnrent := by
  have cols : Serde.columns names lnrent.write = some lnrent.columns :=
    columns_assemble (by decide) rfl
  have operations : readOperations (writeOperations lnrent.operations) = some lnrent.operations :=
    readBounded_map bounded.operations fun operation member =>
      OperationDecl.read_write (bounded.each operation member)
  simp [LnrentMeta.read, cols, LnrentMeta.columns, readParams_write bounded.params, operations,
    RecipeRef.read_write]

theorem Content.read_write {content : Content}
    (bounded : Bounded content.lnrent.params content.lnrent.operations) :
    Content.read content.write = some content := by
  have cols : Serde.columns names content.write = some content.columns :=
    columns_assemble (by decide) rfl
  simp [Content.read, cols, Content.columns, LnrentMeta.read_write bounded]

/-! ### What is read is bounded -/

theorem defaulted_readBounded {α : Type} {max : ℕ} {read : Json → Option α} {column : Option Json}
    {values : List α} (found : defaulted (readBounded max read) [] column = some values) :
    values.length ≤ max ∧ ∀ value ∈ values, ∃ item, read item = some value := by
  cases column with
  | none =>
      obtain rfl : [] = values := by simpa [defaulted] using found
      simp
  | some document => exact readBounded_some found

theorem required_eq_some {α : Type} {read : Json → Option α} {column : Option Json} {value : α}
    (found : required read column = some value) : ∃ document, read document = some value := by
  cases column with
  | none => cases found
  | some document => exact ⟨document, found⟩

theorem OperationDecl.read_bounded {document : Json} {operation : OperationDecl}
    (found : OperationDecl.read document = some operation) :
    operation.params.length ≤ maxParams := by
  unfold OperationDecl.read at found
  split at found
  · obtain ⟨name, -, found⟩ := Option.bind_eq_some_iff.mp found
    obtain ⟨label, -, found⟩ := Option.bind_eq_some_iff.mp found
    obtain ⟨kind, -, found⟩ := Option.bind_eq_some_iff.mp found
    obtain ⟨params, read, found⟩ := Option.bind_eq_some_iff.mp found
    obtain rfl := Option.some.inj found
    exact (defaulted_readBounded read).1
  · cases found

theorem LnrentMeta.read_bounded {document : Json} {lnrent : LnrentMeta}
    (found : LnrentMeta.read document = some lnrent) :
    Bounded lnrent.params lnrent.operations := by
  unfold LnrentMeta.read at found
  split at found
  · obtain ⟨version, -, found⟩ := Option.bind_eq_some_iff.mp found
    obtain ⟨recipe, -, found⟩ := Option.bind_eq_some_iff.mp found
    obtain ⟨tier, -, found⟩ := Option.bind_eq_some_iff.mp found
    obtain ⟨params, readParams, found⟩ := Option.bind_eq_some_iff.mp found
    obtain ⟨operations, readOperations, found⟩ := Option.bind_eq_some_iff.mp found
    obtain rfl := Option.some.inj found
    obtain ⟨short, each⟩ := defaulted_readBounded readOperations
    refine ⟨(defaulted_readBounded readParams).1, short, fun operation member => ?_⟩
    obtain ⟨item, read⟩ := each operation member
    exact OperationDecl.read_bounded read
  · cases found

theorem Content.read_bounded {document : Json} {content : Content}
    (found : Content.read document = some content) :
    Bounded content.lnrent.params content.lnrent.operations := by
  unfold Content.read at found
  split at found
  · obtain ⟨lnrent, read, found⟩ := Option.bind_eq_some_iff.mp found
    obtain rfl := Option.some.inj found
    obtain ⟨document, here⟩ := required_eq_some read
    exact LnrentMeta.read_bounded here
  · cases found

/-! ### The two checks -/

section Checks

variable {isKey : String → Bool}

/-- **A valid listing.** -/
structure Valid (isKey : String → Bool) (listing : Listing) : Prop where
  version : listing.version = schemaVersion
  named : listing.d ≠ ""
  operator : isKey listing.operator = true
  bounded : Bounded listing.params listing.operations

theorem validateListing_iff (listing : Listing) :
    validateListing isKey listing = .ok () ↔ Valid isKey listing := by
  have exceeds : (listing.operations.any fun operation =>
      decide (maxParams < operation.params.length)) = true ↔
        ¬ ∀ operation ∈ listing.operations, operation.params.length ≤ maxParams := by
    simp
  unfold validateListing
  constructor
  · intro accepted
    split_ifs at accepted with version named operator params operations each
    exact ⟨not_not.mp version, named, by simpa using operator, not_lt.mp params,
      not_lt.mp operations, not_not.mp (mt exceeds.mpr each)⟩
  · rintro ⟨version, named, operator, params, operations, each⟩
    rw [if_neg (not_not.mpr version), if_neg named, if_neg (by simp [operator]),
      if_neg (not_lt.mpr params), if_neg (not_lt.mpr operations),
      if_neg fun any => exceeds.mp any each]

/-- **What is built is valid.** -/
theorem buildListing_iff (listing : Listing) (builder : EventBuilder) :
    buildListing isKey listing = .ok builder ↔ Valid isKey listing ∧ builder = listing.event := by
  rw [← validateListing_iff]
  unfold buildListing
  cases validateListing isKey listing with
  | error error => simp
  | ok _ => simp [eq_comm]

theorem assembleListing_valid {tags : Tags} {d : String} {lnrent : LnrentMeta} {listing : Listing}
    (named : d ≠ "") (bounded : Bounded lnrent.params lnrent.operations)
    (assembled : assembleListing isKey tags d lnrent = .ok listing) :
    Valid isKey listing ∧ listing.d = d := by
  unfold assembleListing at assembled
  split_ifs at assembled with version
  obtain ⟨operator, -, assembled⟩ := bind_eq_ok assembled
  split_ifs at assembled with key
  obtain ⟨title, -, assembled⟩ := bind_eq_ok assembled
  obtain ⟨summary, -, assembled⟩ := bind_eq_ok assembled
  obtain ⟨amountSat, -, assembled⟩ := bind_eq_ok assembled
  obtain ⟨period, -, assembled⟩ := bind_eq_ok assembled
  obtain rfl := Except.ok.inj assembled
  exact ⟨⟨not_not.mp version, named, by simpa using key, bounded⟩, rfl⟩

variable {PublicKey : Type} {toHex : PublicKey → String}

/-- **What is parsed is valid**, and anchored to the signer. -/
theorem parseListing_valid {event : Event PublicKey} {parsed : ParsedListing}
    (accepted : parseListing toHex isKey event = .ok parsed) :
    Valid isKey parsed.listing ∧
      parsed.listingId = listingCoordinate (toHex event.pubkey) parsed.listing.d ∧
      ∃ document content, event.content = some document ∧ Content.read document = some content := by
  unfold parseListing at accepted
  split_ifs at accepted with kind unverified
  obtain ⟨tags, -, accepted⟩ := bind_eq_ok accepted
  obtain ⟨d, -, accepted⟩ := bind_eq_ok accepted
  split_ifs at accepted with named
  cases read : event.content.bind Content.read with
  | none =>
      rw [read] at accepted
      cases accepted
  | some content =>
      rw [read] at accepted
      obtain ⟨document, here, content'⟩ := Option.bind_eq_some_iff.mp read
      obtain ⟨listing, assembled, accepted⟩ := bind_eq_ok accepted
      obtain rfl := Except.ok.inj accepted
      obtain ⟨valid, rfl⟩ := assembleListing_valid named (Content.read_bounded content') assembled
      exact ⟨valid, rfl, document, content, here, content'⟩

end Checks

/-! ### A signed event is parsed back -/

/-- A number is read back from its decimal digits. -/
theorem parseU64_repr (value : UInt64) : parseU64 value.toNat.repr = some value := by
  have digits : ∀ char ∈ Nat.toDigits 10 value.toNat, char.isDigit = true := fun char member =>
    Nat.isDigit_of_mem_toDigits (by decide) (by decide) member
  have parsed : parseDigits (Nat.toDigits 10 value.toNat) = some value.toNat := by
    rw [parseDigits, if_pos ⟨Nat.toDigits_ne_nil, List.all_eq_true.mpr digits⟩,
      Nat.ofDigitChars_ten_toDigits]
  have plain : unsigned (Nat.toDigits 10 value.toNat) = Nat.toDigits 10 value.toNat := by
    unfold unsigned
    split
    · rename_i rest same
      have plus := digits '+' (same ▸ List.mem_cons_self)
      exact absurd plus (by decide)
    · rfl
  rw [parseU64, Nat.toList_repr, plain, parsed, Option.bind_some, if_pos value.toNat_lt,
    UInt64.ofNat_toNat]

/-- The tags of a listing, as the loop leaves them. -/
def Listing.tags (listing : Listing) : Tags where
  d := some listing.d
  title := some listing.title
  summary := some listing.summary
  operator := some listing.operator
  amountSat := some listing.amountSat
  period := some listing.period

theorem foldlM_readTag (listing : Listing) :
    listing.event.tags.foldlM readTag {} = .ok listing.tags := by
  simp [Listing.event, readTag, readPrice, parseU64_repr, Listing.tags, pure, Except.pure, bind,
    Except.bind]

section RoundTrip

variable {PublicKey : Type} {toHex : PublicKey → String} {isKey : String → Bool}

/-- **The signed event of a valid listing is parsed back**, field by field. -/
theorem parseListing_signed {listing : Listing} {signer : PublicKey} {event : Event PublicKey}
    (valid : Valid isKey listing) (signed : Signed listing.event signer event) :
    parseListing toHex isKey event =
      .ok ⟨listing, listingCoordinate (toHex signer) listing.d⟩ := by
  obtain ⟨version, named, operator, bounded⟩ := valid
  obtain ⟨rfl, kind, content, tags, verified⟩ := signed
  have read : event.content.bind Content.read = some listing.content := by
    rw [content]
    exact Content.read_write bounded
  have assembled : assembleListing isKey listing.tags listing.d listing.content.lnrent =
      .ok listing := by
    have current : ¬ listing.content.lnrent.version ≠ schemaVersion := not_not.mpr version
    have found : orMissing "operator" listing.tags.operator = .ok listing.operator := rfl
    rw [assembleListing, if_neg current, found, ok_bind, if_neg (by simp [operator])]
    rfl
  have found : orMissing "d" listing.tags.d = .ok listing.d := rfl
  have right : ¬ event.kind ≠ listingKind := not_not.mpr kind
  rw [parseListing, if_neg right, if_neg (by simp [verified]), tags, foldlM_readTag, ok_bind, found,
    ok_bind, if_neg named, read]
  show (assembleListing isKey listing.tags listing.d listing.content.lnrent >>= _) = _
  rw [assembled]
  rfl

end RoundTrip

/-! ### Oversized arrays -/

/-- **A content with an array over its bound**: the params, the operations, or the params of one of
them. -/
inductive Oversized (document : Json) : Prop where
  | params {lnrent : Json} {version recipe tier operations : Option Json} {items : List Json}
      (content : columns Content.names document = some [some lnrent])
      (fields : columns LnrentMeta.names lnrent =
        some [version, recipe, tier, some (.array items), operations])
      (long : maxParams < items.length)
  | operations {lnrent : Json} {version recipe tier params : Option Json} {items : List Json}
      (content : columns Content.names document = some [some lnrent])
      (fields : columns LnrentMeta.names lnrent =
        some [version, recipe, tier, params, some (.array items)])
      (long : maxOperations < items.length)
  | operationParams {lnrent operation : Json} {version recipe tier params name label kind : Option Json}
      {items declared : List Json}
      (content : columns Content.names document = some [some lnrent])
      (fields : columns LnrentMeta.names lnrent =
        some [version, recipe, tier, params, some (.array items)])
      (among : operation ∈ items)
      (declares : columns OperationDecl.names operation =
        some [name, label, kind, some (.array declared)])
      (long : maxParams < declared.length)

theorem LnrentMeta.read_arrays {document : Json} {version recipe tier params operations : Option Json}
    {lnrent : LnrentMeta}
    (fields : Serde.columns names document = some [version, recipe, tier, params, operations])
    (found : LnrentMeta.read document = some lnrent) :
    defaulted readParams [] params = some lnrent.params ∧
      defaulted readOperations [] operations = some lnrent.operations := by
  simp only [LnrentMeta.read, fields] at found
  obtain ⟨_, -, found⟩ := Option.bind_eq_some_iff.mp found
  obtain ⟨_, -, found⟩ := Option.bind_eq_some_iff.mp found
  obtain ⟨_, -, found⟩ := Option.bind_eq_some_iff.mp found
  obtain ⟨_, readParams, found⟩ := Option.bind_eq_some_iff.mp found
  obtain ⟨_, readOperations, found⟩ := Option.bind_eq_some_iff.mp found
  obtain rfl := Option.some.inj found
  exact ⟨readParams, readOperations⟩

theorem OperationDecl.read_long {document : Json} {name label kind : Option Json}
    {declared : List Json}
    (fields : Serde.columns names document = some [name, label, kind, some (.array declared)])
    (long : maxParams < declared.length) : OperationDecl.read document = none := by
  refine Option.eq_none_iff_forall_ne_some.mpr fun operation found => ?_
  simp only [OperationDecl.read, fields] at found
  obtain ⟨_, -, found⟩ := Option.bind_eq_some_iff.mp found
  obtain ⟨_, -, found⟩ := Option.bind_eq_some_iff.mp found
  obtain ⟨_, -, found⟩ := Option.bind_eq_some_iff.mp found
  obtain ⟨params, read, -⟩ := Option.bind_eq_some_iff.mp found
  exact absurd ((readBounded_long long).symm.trans read) (by simp)

theorem Content.read_field {document lnrent : Json} {content : Content}
    (fields : Serde.columns names document = some [some lnrent])
    (found : Content.read document = some content) :
    LnrentMeta.read lnrent = some content.lnrent := by
  simp only [Content.read, fields] at found
  obtain ⟨_, read, found⟩ := Option.bind_eq_some_iff.mp found
  obtain rfl := Option.some.inj found
  exact read

/-- **A content with an array over its bound is not read.** -/
theorem Oversized.unread {document : Json} (oversized : Oversized document) :
    Content.read document = none := by
  refine Option.eq_none_iff_forall_ne_some.mpr fun content found => ?_
  cases oversized with
  | params field fields long =>
      obtain ⟨read, -⟩ := LnrentMeta.read_arrays fields (Content.read_field field found)
      exact absurd ((readBounded_long long).symm.trans read) (by simp)
  | operations field fields long =>
      obtain ⟨-, read⟩ := LnrentMeta.read_arrays fields (Content.read_field field found)
      exact absurd ((readBounded_long long).symm.trans read) (by simp)
  | operationParams field fields among declares long =>
      obtain ⟨-, read⟩ := LnrentMeta.read_arrays fields (Content.read_field field found)
      have unread : readOperations (.array _) = none :=
        readBounded_none among (OperationDecl.read_long declares long)
      exact absurd (unread.symm.trans read) (by simp)

/-! ### The event of a listing that is not valid -/

section Invalid

variable {PublicKey : Type} {toHex : PublicKey → String} {isKey : String → Bool}

/-- Only a bounded content is read back. -/
theorem Content.write_bounded {content found : Content}
    (read : Content.read content.write = some found) :
    Bounded content.lnrent.params content.lnrent.operations := by
  have outer : Serde.columns names content.write = some content.columns :=
    columns_assemble (by decide) rfl
  have inner : Serde.columns LnrentMeta.names content.lnrent.write = some content.lnrent.columns :=
    columns_assemble (by decide) rfl
  obtain ⟨params, operations⟩ := LnrentMeta.read_arrays inner (Content.read_field outer read)
  refine ⟨?_, ?_, fun operation member => ?_⟩
  · by_contra long
    have unread : readParams (writeParams content.lnrent.params) = none :=
      readBounded_long (by simpa using long)
    exact absurd (unread.symm.trans params) (by simp)
  · by_contra long
    have unread : readOperations (writeOperations content.lnrent.operations) = none :=
      readBounded_long (by simpa using long)
    exact absurd (unread.symm.trans operations) (by simp)
  · by_contra long
    have declares : Serde.columns OperationDecl.names operation.write = some operation.columns :=
      columns_assemble (by decide) rfl
    have unread : readOperations (writeOperations content.lnrent.operations) = none :=
      readBounded_none (List.mem_map_of_mem member)
        (OperationDecl.read_long declares (by simpa using long))
    exact absurd (unread.symm.trans operations) (by simp)

/-- **Only a valid listing's event is parsed.** -/
theorem signed_valid {listing : Listing} {signer : PublicKey} {event : Event PublicKey}
    {parsed : ParsedListing} (signed : Signed listing.event signer event)
    (accepted : parseListing toHex isKey event = .ok parsed) : Valid isKey listing := by
  obtain ⟨rfl, kind, content, tags, verified⟩ := signed
  obtain ⟨-, -, document, found, here, read⟩ := parseListing_valid accepted
  obtain rfl : listing.content.write = document := Option.some.inj (content.symm.trans here)
  have bounded : Bounded listing.params listing.operations := Content.write_bounded read
  unfold parseListing at accepted
  split_ifs at accepted with wrong unverified
  rw [tags, foldlM_readTag, ok_bind] at accepted
  obtain ⟨d, same, accepted⟩ := bind_eq_ok accepted
  obtain rfl : listing.d = d := Except.ok.inj same
  split_ifs at accepted with named
  have back : listing.event.content.bind Content.read = some listing.content :=
    Content.read_write bounded
  rw [content, back] at accepted
  obtain ⟨assembled, accepted, -⟩ := bind_eq_ok accepted
  unfold assembleListing at accepted
  split_ifs at accepted with version
  obtain ⟨operator, same, accepted⟩ := bind_eq_ok accepted
  obtain rfl : listing.operator = operator := Except.ok.inj same
  split_ifs at accepted with key
  exact ⟨not_not.mp version, named, by simpa using key, bounded⟩

end Invalid

/-! ### Recipes -/

section Recipes

open Manifest

theorem check_eq_ok {condition : Bool} {error : RecipeError}
    (passed : check condition error = .ok ()) : condition = true := by
  cases condition with
  | true => rfl
  | false => cases passed

theorem forM_eq_ok {α : Type} {verify : α → Except RecipeError Unit} {items : List α}
    (passed : items.forM verify = .ok ()) : ∀ item ∈ items, verify item = .ok () := by
  induction items with
  | nil => simp
  | cons head rest ih =>
      change (verify head >>= fun _ => rest.forM verify) = .ok () at passed
      obtain ⟨_, here, passed⟩ := bind_eq_ok passed
      intro item member
      rcases List.mem_cons.mp member with rfl | later
      · exact here
      · exact ih passed item later

/-- **The listing of a recipe that passed its check is valid** for every operator key. -/
theorem listingFromRecipe_valid {isKey : String → Bool} {host : Host} {recipe : Manifest.Recipe}
    {operator : String} (passed : recipe.validate host = .ok ()) (key : isKey operator = true) :
    Valid isKey (listingFromRecipe recipe (dTag recipe) operator) := by
  unfold Manifest.Recipe.validate at passed
  obtain ⟨_, named, passed⟩ := bind_eq_ok passed
  obtain ⟨_, -, passed⟩ := bind_eq_ok passed
  obtain ⟨_, -, passed⟩ := bind_eq_ok passed
  obtain ⟨_, -, passed⟩ := bind_eq_ok passed
  obtain ⟨_, -, passed⟩ := bind_eq_ok passed
  obtain ⟨_, -, passed⟩ := bind_eq_ok passed
  obtain ⟨_, -, passed⟩ := bind_eq_ok passed
  obtain ⟨_, -, passed⟩ := bind_eq_ok passed
  obtain ⟨_, params, passed⟩ := bind_eq_ok passed
  obtain ⟨_, operations, passed⟩ := bind_eq_ok passed
  obtain ⟨_, each, -⟩ := bind_eq_ok passed
  refine ⟨rfl, of_decide_eq_true (check_eq_ok named), key, ?_, ?_, ?_⟩
  · rw [listingFromRecipe, List.length_map]
    exact of_decide_eq_true (check_eq_ok params)
  · rw [listingFromRecipe, List.length_map]
    exact of_decide_eq_true (check_eq_ok operations)
  · intro declared member
    obtain ⟨operation, among, rfl⟩ := List.mem_map.mp member
    rw [Manifest.Operation.decl, List.length_map]
    exact of_decide_eq_true (check_eq_ok (forM_eq_ok each operation among))

end Recipes

/-! ### Both ways round -/

/-- **Listing build and parse are inverse.** The struct's check and the parser accept the same
listings; a built listing is parsed back under the signer's coordinate; a parsed one can be built, and
comes back again; an array over its bound is refused; and the listing of a recipe that passed its
check is built for every operator key. -/
theorem listing_round_trip {PublicKey : Type} (toHex : PublicKey → String) (isKey : String → Bool) :
    (∀ (listing : Listing) (signer : PublicKey) event, Signed listing.event signer event →
      ((∃ builder, buildListing isKey listing = .ok builder) ↔
        ∃ parsed, parseListing toHex isKey event = .ok parsed)) ∧
    (∀ (listing : Listing) builder (signer : PublicKey) event,
      buildListing isKey listing = .ok builder → Signed builder signer event →
      parseListing toHex isKey event =
        .ok ⟨listing, listingCoordinate (toHex signer) listing.d⟩) ∧
    (∀ (event : Event PublicKey) parsed, parseListing toHex isKey event = .ok parsed →
      ∃ builder, buildListing isKey parsed.listing = .ok builder ∧
        ∀ (signer : PublicKey) again, Signed builder signer again →
          parseListing toHex isKey again =
            .ok ⟨parsed.listing, listingCoordinate (toHex signer) parsed.listing.d⟩) ∧
    (∀ (event : Event PublicKey) document, event.content = some document → Oversized document →
      ∃ error, parseListing toHex isKey event = .error error) ∧
    ∀ (host : Manifest.Host) (recipe : Manifest.Recipe) operator,
      recipe.validate host = .ok () → isKey operator = true →
      ∃ builder, buildListing isKey
        (Manifest.listingFromRecipe recipe (Manifest.dTag recipe) operator) = .ok builder := by
  refine ⟨fun listing signer event signed => ⟨?_, ?_⟩, fun listing builder signer event built => ?_,
    fun event parsed accepted => ?_, fun event document content oversized => ?_,
    fun host recipe operator passed key => ?_⟩
  · rintro ⟨builder, built⟩
    obtain ⟨valid, -⟩ := (buildListing_iff listing builder).mp built
    exact ⟨_, parseListing_signed valid signed⟩
  · rintro ⟨parsed, accepted⟩
    exact ⟨listing.event, (buildListing_iff listing _).mpr ⟨signed_valid signed accepted, rfl⟩⟩
  · obtain ⟨valid, rfl⟩ := (buildListing_iff listing builder).mp built
    exact parseListing_signed valid
  · obtain ⟨valid, -⟩ := parseListing_valid accepted
    exact ⟨_, (buildListing_iff parsed.listing _).mpr ⟨valid, rfl⟩, fun signer again signed =>
      parseListing_signed valid signed⟩
  · cases accepted : parseListing toHex isKey event with
    | error error => exact ⟨error, rfl⟩
    | ok parsed =>
        obtain ⟨-, -, document', read, same, found⟩ := parseListing_valid accepted
        obtain rfl := Option.some.inj (content.symm.trans same)
        exact absurd (oversized.unread.symm.trans found) (by simp)
  · exact ⟨_, (buildListing_iff _ _).mpr ⟨listingFromRecipe_valid passed key, rfl⟩⟩

/-- **A listing published by one key is parsed under its coordinate.** -/
theorem listing_round_trip_published :
    parseListing (fun _ : Unit => "ab") (fun _ => true) ⟨(), listingKind,
      (Listing.event ⟨"svc", "cd", "dummy", "1", "Dummy", "", 1000, "30d", [], [], none, 1⟩).content,
      (Listing.event ⟨"svc", "cd", "dummy", "1", "Dummy", "", 1000, "30d", [], [], none, 1⟩).tags,
      true⟩ = .ok ⟨⟨"svc", "cd", "dummy", "1", "Dummy", "", 1000, "30d", [], [], none, 1⟩,
        listingCoordinate "ab" "svc"⟩ :=
  (listing_round_trip (fun _ : Unit => "ab") fun _ => true).2.1
    ⟨"svc", "cd", "dummy", "1", "Dummy", "", 1000, "30d", [], [], none, 1⟩ _ () _ rfl
    ⟨rfl, rfl, rfl, rfl, rfl⟩

end Lnrent.Wire
