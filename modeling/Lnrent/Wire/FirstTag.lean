/-
**The first tag of a name decides, if it has a value.**

The loop of `parse_listing` takes a name for seen when it holds a value of it, so a first tag without
a value leaves the name to a later one.

* `gather`, `foldlM_gather` — what the loop finds in a list of tags, in one formula;
* `Consulted` — the result depends on the text under a name, seen from the end of the loop:
  `conclude_put` where it does not, `conclude_moves` where it does;
* `Decides` — no tag of the name changes anything once there is one, and a listing's coordinate is
  that of the first `d` tag;
* `first_decides_iff` — **that is so unless the first tag has no value and the text is consulted.**
-/

import Lnrent.Wire.ListingRoundTrip

namespace Lnrent.Wire

open Serde

/-! ### What the loop finds -/

/-- The names of which the first tag is to count. -/
inductive Field where
  | d
  | title
  | summary
  | operator
  | price

def Field.name : Field → String
  | .d => "d"
  | .title => "title"
  | .summary => "summary"
  | .operator => "operator"
  | .price => "price"

/-- The first tag of a name. -/
def firstOf (name : String) (tags : List (List String)) : Option (List String) :=
  tags.find? fun tag => tag[0]? = some name

/-- The first value under a name: of the first tag of the name that has one. -/
def carried (name : String) (tags : List (List String)) : Option String :=
  tags.findSome? fun tag => if tag[0]? = some name then tag[1]? else none

/-- **What the loop finds.** -/
def gather (tags : List (List String)) : Tags where
  d := carried "d" tags
  title := carried "title" tags
  summary := carried "summary" tags
  operator := carried "operator" tags
  amountSat := (firstOf "price" tags).bind fun tag => tag[1]?.bind parseU64
  period := (firstOf "price" tags).bind fun tag => tag[3]?

/-- A price tag that is read: an amount, the currency and a frequency. -/
def Priced (tag : List String) : Prop :=
  (∃ amount, (tag[1]?.bind parseU64) = some amount) ∧ tag[2]? = some "SAT" ∧
    ∃ frequency, tag[3]? = some frequency

section Loop

variable {name : String} {tag : List String} {tags before after : List (List String)}

theorem carried_append : carried name (before ++ after) =
    (carried name before).or (carried name after) :=
  List.findSome?_append

theorem firstOf_append : firstOf name (before ++ after) =
    (firstOf name before).or (firstOf name after) :=
  List.find?_append

theorem carried_singleton :
    carried name [tag] = if tag[0]? = some name then tag[1]? else none :=
  List.findSome?_singleton

theorem firstOf_singleton :
    firstOf name [tag] = if tag[0]? = some name then some tag else none := by
  simp [firstOf, List.find?_singleton]

theorem carried_of_firstOf_none (none : firstOf name tags = none) :
    carried name tags = .none := by
  refine List.findSome?_eq_none_iff.mpr fun tag member => ?_
  have other := List.find?_eq_none.mp none tag member
  exact if_neg (by simpa using other)

theorem carried_of_firstOf {value : String} (first : firstOf name tags = some tag)
    (valued : tag[1]? = some value) : carried name tags = some value := by
  obtain ⟨named, pre, rest, rfl, unnamed⟩ := List.find?_eq_some_iff_append.mp first
  have none : firstOf name pre = none :=
    List.find?_eq_none.mpr fun tag member => by simpa using unnamed tag member
  rw [← List.singleton_append, carried_append, carried_of_firstOf_none none, Option.none_or,
    carried_append, carried_singleton, if_pos (of_decide_eq_true named), valued, Option.some_or]

theorem readPrice_priced {start : Tags} (priced : Priced tag) :
    readPrice start tag = .ok { start with
      amountSat := tag[1]?.bind parseU64, period := tag[3]? } := by
  obtain ⟨⟨amountSat, here⟩, currency, frequency, there⟩ := priced
  obtain ⟨amount, first, parsed⟩ := Option.bind_eq_some_iff.mp here
  rw [readPrice, first, currency, there]
  simp [parsed]

/-- A price tag that is not read is refused, whatever was found before it. -/
theorem readPrice_unpriced (unpriced : ¬ Priced tag) :
    ∃ error, ∀ start, readPrice start tag = .error error := by
  unfold readPrice
  cases first : tag[1]? with
  | none => exact ⟨_, fun _ => rfl⟩
  | some amount =>
      cases second : tag[2]? with
      | none => exact ⟨_, fun _ => rfl⟩
      | some currency =>
          cases third : tag[3]? with
          | none => exact ⟨_, fun _ => rfl⟩
          | some frequency =>
              by_cases other : currency ≠ "SAT"
              · exact ⟨_, fun _ => if_pos other⟩
              · have sat : currency = "SAT" := not_not.mp other
                cases parsed : parseU64 amount with
                | none => exact ⟨.invalidPriceAmount amount, fun _ => by simp [sat, parsed]⟩
                | some amountSat =>
                    refine absurd ⟨⟨amountSat, ?_⟩, ?_, frequency, third⟩ unpriced
                    · rw [first, Option.bind_some, parsed]
                    · rw [second, sat]

theorem gather_snoc : gather (tags ++ [tag]) = {
    d := (carried "d" tags).or (carried "d" [tag])
    title := (carried "title" tags).or (carried "title" [tag])
    summary := (carried "summary" tags).or (carried "summary" [tag])
    operator := (carried "operator" tags).or (carried "operator" [tag])
    amountSat := ((firstOf "price" tags).or (firstOf "price" [tag])).bind fun tag =>
      tag[1]?.bind parseU64
    period := ((firstOf "price" tags).or (firstOf "price" [tag])).bind fun tag => tag[3]? } := by
  simp only [gather, carried_append, firstOf_append]

/-- **One tag more.** -/
theorem readTag_gather
    (priced : ∀ first, firstOf "price" (tags ++ [tag]) = some first → Priced first) :
    readTag (gather tags) tag = .ok (gather (tags ++ [tag])) := by
  rw [firstOf_append] at priced
  rw [gather_snoc]
  simp only [carried_singleton, firstOf_singleton, readTag] at priced ⊢
  by_cases d : tag[0]? = some "d"
  · cases held : carried "d" tags <;> simp [d, gather, held]
  by_cases title : tag[0]? = some "title"
  · cases held : carried "title" tags <;> simp [title, gather, held]
  by_cases summary : tag[0]? = some "summary"
  · cases held : carried "summary" tags <;> simp [summary, gather, held]
  by_cases operator : tag[0]? = some "operator"
  · cases held : carried "operator" tags <;> simp [operator, gather, held]
  by_cases price : tag[0]? = some "price"
  · cases held : firstOf "price" tags with
    | none =>
        have here : Priced tag := priced tag (by rw [held, if_pos price, Option.none_or])
        simp [price, gather, held, readPrice_priced here]
    | some first =>
        obtain ⟨⟨amount, here⟩, -⟩ := priced first (by rw [held, Option.some_or])
        simp [price, gather, held, here]
  · simp [d, title, summary, operator, price, gather]

/-- **The loop**, if the first price tag is read. -/
theorem foldlM_gather (tags : List (List String))
    (priced : ∀ first, firstOf "price" tags = some first → Priced first) :
    tags.foldlM readTag {} = .ok (gather tags) := by
  induction tags using List.reverseRecOn with
  | nil => rfl
  | append_singleton tags tag ih =>
      have earlier : ∀ first, firstOf "price" tags = some first → Priced first :=
        fun first found => priced first (by rw [firstOf_append, found, Option.some_or])
      rw [List.foldlM_append, ih earlier, ok_bind, List.foldlM_cons, readTag_gather priced, ok_bind]
      rfl

/-- **The loop ends at a first price tag that is not read.** -/
theorem foldlM_unpriced (unpriced : ¬ Priced tag) :
    ∃ error, ∀ tags, firstOf "price" tags = some tag → tags.foldlM readTag {} = .error error := by
  obtain ⟨error, refused⟩ := readPrice_unpriced unpriced
  refine ⟨error, fun tags first => ?_⟩
  obtain ⟨named, before, after, rfl, unnamed⟩ := List.find?_eq_some_iff_append.mp first
  have none : firstOf "price" before = none :=
    List.find?_eq_none.mpr fun tag member => by simpa using unnamed tag member
  have price : tag[0]? = some "price" := of_decide_eq_true named
  have here : readTag (gather before) tag = .error error := by
    rw [← refused (gather before)]
    simp [readTag, price, gather, none]
  rw [List.foldlM_append, foldlM_gather before (by simp [none]), ok_bind, List.foldlM_cons, here]
  rfl

end Loop

/-! ### What becomes of it -/

section Rest

variable {PublicKey : Type} (toHex : PublicKey → String) (isKey : String → Bool)
  (event : Event PublicKey)

/-- The listing once its operator is known. -/
def assembleRest (tags : Tags) (d operator : String) (lnrent : LnrentMeta) : Except Error Listing := do
  let title ← orMissing "title" tags.title
  let summary ← orMissing "summary" tags.summary
  let amountSat ← orMissing "price.amount" tags.amountSat
  let period ← orMissing "price.frequency" tags.period
  return {
    operator, title, summary, amountSat, period, d
    recipeId := lnrent.recipe.id
    recipeVersion := lnrent.recipe.version
    params := lnrent.params
    operations := lnrent.operations
    tier := lnrent.tier
    version := lnrent.version }

/-- What the parser makes of the tags it found. -/
def conclude (tags : Tags) : Except Error ParsedListing := do
  let d ← orMissing "d" tags.d
  if d = "" then .error (.missing "d")
  else
    match event.content.bind Content.read with
    | none => .error .json
    | some content =>
        let listing ← assembleListing isKey tags d content.lnrent
        return ⟨listing, listingCoordinate (toHex event.pubkey) d⟩

/-- The content is read once there is a name, and its version is the current one. -/
def Described (d : Option String) (content : Content) : Prop :=
  (∃ name, d = some name ∧ name ≠ "") ∧ event.content.bind Content.read = some content ∧
    content.lnrent.version = schemaVersion

/-- The operator is a key. -/
def Operated (operator : Option String) : Prop := ∃ key, operator = some key ∧ isKey key = true

/-- **The result depends on the text under the name.** -/
def Consulted (tags : Tags) : Field → Prop
  | .d => True
  | .operator => ∃ content, Described event tags.d content
  | .title =>
      (∃ content, Described event tags.d content) ∧ Operated isKey tags.operator ∧
        (tags.title = none ∨ tags.summary ≠ none ∧ tags.amountSat ≠ none)
  | .summary =>
      (∃ content, Described event tags.d content) ∧ Operated isKey tags.operator ∧
        tags.title ≠ none ∧ (tags.summary = none ∨ tags.amountSat ≠ none)
  | .price => False

/-- The tags with another text under a name. -/
def Field.put (value : Option String) (tags : Tags) : Field → Tags
  | .d => { tags with d := value }
  | .title => { tags with title := value }
  | .summary => { tags with summary := value }
  | .operator => { tags with operator := value }
  | .price => tags

variable {toHex isKey event} {tags : Tags} {content : Content} {d : String}

variable (event) in
theorem parseListing_ok (kind : event.kind = listingKind) (verified : event.verified = true) :
    parseListing toHex isKey event =
      (event.tags.foldlM readTag {} >>= conclude toHex isKey event) := by
  rw [parseListing, if_neg (not_not.mpr kind), if_neg (by simp [verified])]
  rfl

theorem assembleListing_eq :
    assembleListing isKey tags d content.lnrent =
      if content.lnrent.version ≠ schemaVersion then
        .error (.unsupportedSchemaVersion content.lnrent.version schemaVersion)
      else
        orMissing "operator" tags.operator >>= fun operator =>
          if isKey operator = false then .error (.invalidOperator operator)
          else assembleRest tags d operator content.lnrent := rfl

theorem conclude_unnamed (unnamed : ∀ d, tags.d = some d → d = "") :
    conclude toHex isKey event tags = .error (.missing "d") := by
  unfold conclude
  cases held : tags.d with
  | none => rfl
  | some d =>
      show (if d = "" then _ else _) = _
      rw [if_pos (unnamed d held)]

theorem conclude_named (held : tags.d = some d) (named : d ≠ "") :
    conclude toHex isKey event tags =
      match event.content.bind Content.read with
      | none => .error .json
      | some content =>
          assembleListing isKey tags d content.lnrent >>= fun listing =>
            .ok ⟨listing, listingCoordinate (toHex event.pubkey) d⟩ := by
  unfold conclude
  rw [held]
  show (if d = "" then _ else _) = _
  rw [if_neg named]
  rfl

variable (toHex isKey) in
/-- Before the operator is looked at, the name alone decides. -/
theorem conclude_undescribed {d : Option String}
    (undescribed : ¬ ∃ content, Described event d content) :
    ∃ error, ∀ tags, tags.d = d → conclude toHex isKey event tags = .error error := by
  by_cases named : ∃ name, d = some name ∧ name ≠ ""
  · obtain ⟨name, rfl, named⟩ := named
    cases read : event.content.bind Content.read with
    | none =>
        refine ⟨.json, fun tags held => ?_⟩
        rw [conclude_named held named, read]
    | some content =>
        have old : content.lnrent.version ≠ schemaVersion := fun current =>
          undescribed ⟨content, ⟨name, rfl, named⟩, read, current⟩
        refine ⟨.unsupportedSchemaVersion content.lnrent.version schemaVersion, fun tags held => ?_⟩
        rw [conclude_named held named, read]
        show (assembleListing isKey tags name content.lnrent >>= _) = _
        rw [assembleListing_eq, if_pos old]
        rfl
  · refine ⟨.missing "d", fun tags held => conclude_unnamed fun name found => ?_⟩
    by_contra nonempty
    exact named ⟨name, held ▸ found, nonempty⟩

variable (toHex isKey) in
theorem conclude_described (described : Described event tags.d content) :
    ∃ d, conclude toHex isKey event tags =
      (orMissing "operator" tags.operator >>= fun operator =>
        if isKey operator = false then .error (.invalidOperator operator)
        else assembleRest tags d operator content.lnrent >>= fun listing =>
          .ok ⟨listing, listingCoordinate (toHex event.pubkey) d⟩) := by
  obtain ⟨⟨d, held, named⟩, read, current⟩ := described
  refine ⟨d, ?_⟩
  rw [conclude_named held named, read]
  show (assembleListing isKey tags d content.lnrent >>= _) = _
  rw [assembleListing_eq, if_neg (not_not.mpr current)]
  cases tags.operator with
  | none => rfl
  | some operator =>
      show (if isKey operator = false then _ else _) >>= _ = if isKey operator = false then _ else _
      by_cases key : isKey operator = false
      · rw [if_pos key, if_pos key]
        rfl
      · rw [if_neg key, if_neg key]

/-- Before the texts are looked at, the name and the operator alone decide. -/
theorem conclude_inoperative {tags : Tags} (described : Described event tags.d content)
    (inoperative : ¬ Operated isKey tags.operator) :
    conclude toHex isKey event tags =
      .error (tags.operator.elim (.missing "operator") .invalidOperator) := by
  obtain ⟨d, concluded⟩ := conclude_described toHex isKey described
  rw [concluded]
  cases held : tags.operator with
  | none => rfl
  | some operator =>
      have wrong : isKey operator = false := by
        by_contra key
        exact inoperative ⟨operator, held, by simpa using key⟩
      exact if_pos wrong

variable (toHex) in
theorem conclude_operated (described : Described event tags.d content)
    (operated : Operated isKey tags.operator) :
    ∃ d operator, conclude toHex isKey event tags =
      (assembleRest tags d operator content.lnrent >>= fun listing =>
        .ok ⟨listing, listingCoordinate (toHex event.pubkey) d⟩) := by
  obtain ⟨d, concluded⟩ := conclude_described toHex isKey described
  obtain ⟨operator, held, key⟩ := operated
  refine ⟨d, operator, ?_⟩
  rw [concluded, held]
  exact if_neg (by simp [key])

/-- Two lists of tags with one name and one operator, neither of which makes a listing. -/
theorem conclude_agree {other : Tags} (error : Error) (named : other.d = tags.d)
    (signed : other.operator = tags.operator)
    (fails : (∃ content, Described event tags.d content) → Operated isKey tags.operator →
      ∀ d operator lnrent, assembleRest other d operator lnrent = .error error ∧
        assembleRest tags d operator lnrent = .error error) :
    conclude toHex isKey event other = conclude toHex isKey event tags := by
  by_cases described : ∃ content, Described event tags.d content
  · obtain ⟨content, here⟩ := described
    have there : Described event other.d content := named ▸ here
    by_cases operated : Operated isKey tags.operator
    · have also : Operated isKey other.operator := signed ▸ operated
      obtain ⟨_, _, first⟩ := conclude_operated toHex there also
      obtain ⟨_, _, second⟩ := conclude_operated toHex here operated
      have fails := fails ⟨content, here⟩ operated
      rw [first, second, (fails _ _ _).1, (fails _ _ _).2]
      rfl
    · have also : ¬ Operated isKey other.operator := signed ▸ operated
      rw [conclude_inoperative here operated, conclude_inoperative there also, signed]
  · obtain ⟨error, ends⟩ :=
      conclude_undescribed toHex isKey described
    rw [ends other named, ends tags rfl]

/-- **A text that is not consulted** makes no difference. -/
theorem conclude_put {field : Field} (unconsulted : ¬ Consulted isKey event tags field)
    (value : String) :
    conclude toHex isKey event (field.put (some value) tags) = conclude toHex isKey event tags := by
  cases field with
  | d => exact absurd trivial unconsulted
  | price => rfl
  | operator =>
      obtain ⟨error, ends⟩ :=
        conclude_undescribed toHex isKey unconsulted
      exact (ends { tags with operator := some value } rfl).trans (ends tags rfl).symm
  | title =>
      let error : Error :=
        if tags.summary = none then .missing "summary" else .missing "price.amount"
      refine conclude_agree error rfl rfl fun described operated d operator lnrent => ?_
      cases titled : tags.title with
      | none => exact absurd ⟨described, operated, .inl titled⟩ unconsulted
      | some title =>
          cases summary : tags.summary with
          | none => simp [assembleRest, Field.put, orMissing, titled, summary, error, bind, Except.bind]
          | some text =>
              have unpaid : tags.amountSat = none := by
                by_contra paid
                exact unconsulted ⟨described, operated, .inr ⟨by simp [summary], paid⟩⟩
              simp [assembleRest, Field.put, orMissing, titled, summary, unpaid, error, bind,
                Except.bind]
  | summary =>
      let error : Error := if tags.title = none then .missing "title" else .missing "price.amount"
      refine conclude_agree error rfl rfl fun described operated d operator lnrent => ?_
      cases titled : tags.title with
      | none => simp [assembleRest, Field.put, orMissing, titled, error, bind, Except.bind]
      | some title =>
          cases summary : tags.summary with
          | none =>
              exact absurd ⟨described, operated, by simp [titled], .inl summary⟩ unconsulted
          | some text =>
              have unpaid : tags.amountSat = none := by
                by_contra paid
                exact unconsulted ⟨described, operated, by simp [titled], .inr paid⟩
              simp [assembleRest, Field.put, orMissing, titled, summary, unpaid, error, bind,
                Except.bind]

theorem orMissing_error {α β : Type} {field : String} {held : Option α} {rest : α → Except Error β}
    {error : Error} (failed : (orMissing field held >>= rest) = .error error) :
    held = none ∧ error = .missing field ∨ ∃ value, rest value = .error error := by
  cases held with
  | none => exact .inl ⟨rfl, (Except.error.inj failed).symm⟩
  | some value => exact .inr ⟨value, failed⟩

/-- What is missed of a listing whose operator is known. -/
theorem assembleRest_error {operator : String} {lnrent : LnrentMeta} {error : Error}
    (failed : assembleRest tags d operator lnrent = .error error) :
    ∃ field, error = .missing field ∧ field ≠ "d" ∧ (field = "title" → tags.title = none) ∧
      (field = "summary" → tags.summary = none) := by
  rcases orMissing_error failed with ⟨none, rfl⟩ | ⟨title, failed⟩
  · exact ⟨"title", rfl, by decide, fun _ => none, nofun⟩
  rcases orMissing_error failed with ⟨none, rfl⟩ | ⟨summary, failed⟩
  · exact ⟨"summary", rfl, by decide, nofun, fun _ => none⟩
  rcases orMissing_error failed with ⟨-, rfl⟩ | ⟨amountSat, failed⟩
  · exact ⟨"price.amount", rfl, by decide, nofun, nofun⟩
  rcases orMissing_error failed with ⟨-, rfl⟩ | ⟨period, failed⟩
  · exact ⟨"price.frequency", rfl, by decide, nofun, nofun⟩
  · cases failed

theorem bind_error {α β : Type} {first : Except Error α} {rest : α → β} {error : Error}
    (failed : (first >>= fun value => .ok (rest value)) = .error error) : first = .error error := by
  cases first with
  | ok value => cases failed
  | error other =>
      cases failed
      rfl

/-- Once there is a name, it is not missed. -/
theorem conclude_ne_missing (held : tags.d = some d) (named : d ≠ "") :
    conclude toHex isKey event tags ≠ .error (.missing "d") := by
  rw [conclude_named held named]
  cases event.content.bind Content.read with
  | none => nofun
  | some content =>
      intro failed
      have failed := bind_error failed
      rw [assembleListing_eq] at failed
      split_ifs at failed with old
      · cases failed
      · rcases orMissing_error failed with ⟨-, other⟩ | ⟨operator, failed⟩
        · exact absurd (Error.missing.inj other) (by decide)
        · split_ifs at failed with key
          · cases failed
          · obtain ⟨field, missing, other, -⟩ := assembleRest_error failed
            exact other (Error.missing.inj missing).symm

variable (tags) in
/-- An operator that is not the empty text is not refused for it. -/
theorem conclude_ne_invalid (described : Described event tags.d content)
    (other : tags.operator ≠ some "") :
    conclude toHex isKey event tags ≠ .error (.invalidOperator "") := by
  obtain ⟨d, concluded⟩ := conclude_described toHex isKey described
  rw [concluded]
  cases held : tags.operator with
  | none => nofun
  | some operator =>
      intro failed
      change (if isKey operator = false then _ else _) = _ at failed
      split_ifs at failed with key
      · cases failed
        exact other held
      · obtain ⟨field, missing, -⟩ := assembleRest_error (bind_error failed)
        cases missing

theorem ne_append (text : String) : text ++ "x" ≠ text := fun same => by
  simpa using congrArg String.length same

variable (toHex tags) in
theorem conclude_ok {title summary period : String} {amountSat : UInt64}
    (described : Described event tags.d content) (operated : Operated isKey tags.operator)
    (titled : tags.title = some title) (summed : tags.summary = some summary)
    (paid : tags.amountSat = some amountSat) (per : tags.period = some period) :
    ∃ parsed, conclude toHex isKey event tags = .ok parsed ∧
      parsed.listing.title = title ∧ parsed.listing.summary = summary := by
  obtain ⟨_, _, concluded⟩ := conclude_operated toHex described operated
  rw [concluded]
  simp only [assembleRest, titled, summed, paid, per]
  exact ⟨_, rfl, rfl, rfl⟩

variable (tags) in
/-- A text that is there is not missed. -/
theorem conclude_ne_untitled {field : String} (described : Described event tags.d content)
    (operated : Operated isKey tags.operator)
    (there : field = "title" ∧ tags.title ≠ none ∨ field = "summary" ∧ tags.summary ≠ none) :
    conclude toHex isKey event tags ≠ .error (.missing field) := by
  obtain ⟨_, _, concluded⟩ := conclude_operated toHex described operated
  rw [concluded]
  intro failed
  obtain ⟨missed, same, -, title, summary⟩ := assembleRest_error (bind_error failed)
  obtain rfl := Error.missing.inj same
  rcases there with ⟨rfl, there⟩ | ⟨rfl, there⟩
  · exact there (title rfl)
  · exact there (summary rfl)

variable (toHex) in
/-- **A text that is consulted** makes a difference. -/
theorem conclude_moves {field : Field} (empty : isKey "" = false)
    (whole : tags.amountSat ≠ none → tags.period ≠ none)
    (consulted : Consulted isKey event tags field) :
    ∃ value, conclude toHex isKey event (field.put (some value) tags) ≠
      conclude toHex isKey event tags := by
  cases field with
  | price => exact consulted.elim
  | d =>
      by_cases named : ∃ d, tags.d = some d ∧ d ≠ ""
      · obtain ⟨d, held, named⟩ := named
        refine ⟨"", fun same => conclude_ne_missing held named (same.symm.trans ?_)⟩
        exact conclude_unnamed fun d found => (Option.some.inj found).symm
      · have missing : conclude toHex isKey event tags = .error (.missing "d") :=
          conclude_unnamed fun d found => by
            by_contra nonempty
            exact named ⟨d, found, nonempty⟩
        exact ⟨"x", fun same => conclude_ne_missing rfl (by decide) (same.trans missing)⟩
  | operator =>
      obtain ⟨content, described⟩ := consulted
      have refused : ∀ other : Tags, other.d = tags.d → other.operator = some "" →
          conclude toHex isKey event other = .error (.invalidOperator "") := by
        intro other named blank
        have inoperative : ¬ Operated isKey other.operator := by
          rintro ⟨key, held, valid⟩
          obtain rfl := Option.some.inj (blank.symm.trans held)
          simp [empty] at valid
        rw [conclude_inoperative (named ▸ described) inoperative, blank]
        rfl
      by_cases blank : tags.operator = some ""
      · refine ⟨"x", fun same => ?_⟩
        exact conclude_ne_invalid { tags with operator := some "x" } described (by simp)
          (same.trans (refused tags rfl blank))
      · exact ⟨"", fun same => conclude_ne_invalid tags described blank
          (same.symm.trans (refused { tags with operator := some "" } rfl rfl))⟩
  | title =>
      obtain ⟨⟨content, described⟩, operated, rest⟩ := consulted
      cases titled : tags.title with
      | none =>
          have missing : conclude toHex isKey event tags = .error (.missing "title") := by
            obtain ⟨_, _, concluded⟩ := conclude_operated toHex described operated
            rw [concluded, assembleRest, titled]
            rfl
          exact ⟨"", fun same => conclude_ne_untitled { tags with title := some "" }
            described operated (.inl ⟨rfl, by simp⟩) (same.trans missing)⟩
      | some title =>
          obtain ⟨summed, paid⟩ := rest.resolve_left (by simp [titled])
          obtain ⟨summary, summed⟩ := Option.ne_none_iff_exists'.mp summed
          obtain ⟨period, per⟩ := Option.ne_none_iff_exists'.mp (whole paid)
          obtain ⟨amountSat, paid⟩ := Option.ne_none_iff_exists'.mp paid
          obtain ⟨first, here, named, -⟩ :=
            conclude_ok toHex tags described operated titled summed paid per
          obtain ⟨second, there, renamed, -⟩ :=
            conclude_ok toHex { tags with title := some (title ++ "x") }
              described operated rfl summed paid per
          refine ⟨title ++ "x", fun same => ne_append title ?_⟩
          obtain rfl := Except.ok.inj (there.symm.trans (same.trans here))
          exact renamed.symm.trans named
  | summary =>
      obtain ⟨⟨content, described⟩, operated, titled, rest⟩ := consulted
      obtain ⟨title, titled⟩ := Option.ne_none_iff_exists'.mp titled
      cases summed : tags.summary with
      | none =>
          have missing : conclude toHex isKey event tags = .error (.missing "summary") := by
            obtain ⟨_, _, concluded⟩ := conclude_operated toHex described operated
            rw [concluded, assembleRest, titled, summed]
            rfl
          exact ⟨"", fun same => conclude_ne_untitled { tags with summary := some "" }
            described operated (.inr ⟨rfl, by simp⟩) (same.trans missing)⟩
      | some summary =>
          have paid := rest.resolve_left (by simp [summed])
          obtain ⟨period, per⟩ := Option.ne_none_iff_exists'.mp (whole paid)
          obtain ⟨amountSat, paid⟩ := Option.ne_none_iff_exists'.mp paid
          obtain ⟨first, here, -, named⟩ :=
            conclude_ok toHex tags described operated titled summed paid per
          obtain ⟨second, there, -, renamed⟩ :=
            conclude_ok toHex { tags with summary := some (summary ++ "x") }
              described operated titled rfl paid per
          refine ⟨summary ++ "x", fun same => ne_append summary ?_⟩
          obtain rfl := Except.ok.inj (there.symm.trans (same.trans here))
          exact renamed.symm.trans named

end Rest

/-! ### One tag more -/

section Insertion

variable {field : Field} {tag first : List String} {before after : List (List String)}

/-- A tag of another name leaves the text under a name as it was. -/
theorem carried_insert {name : String} (other : tag[0]? ≠ some name) :
    carried name (before ++ tag :: after) = carried name (before ++ after) := by
  rw [← List.singleton_append, carried_append, carried_append, carried_singleton, if_neg other,
    Option.none_or, carried_append]

theorem firstOf_insert {name : String}
    (settled : tag[0]? ≠ some name ∨ firstOf name before ≠ none) :
    firstOf name (before ++ tag :: after) = firstOf name (before ++ after) := by
  rw [← List.singleton_append, firstOf_append, firstOf_append, firstOf_append]
  cases found : firstOf name before with
  | some first => rw [Option.some_or, Option.some_or]
  | none =>
      have other := settled.resolve_right (by simp [found])
      rw [firstOf_singleton, if_neg other, Option.none_or]

/-- **What the loop finds with one tag more**: another text under its name, and nothing else. -/
theorem gather_insert (named : tag[0]? = some field.name)
    (seen : firstOf field.name before ≠ none) :
    gather (before ++ tag :: after) =
      field.put (carried field.name (before ++ tag :: after)) (gather (before ++ after)) := by
  have price : firstOf "price" (before ++ tag :: after) = firstOf "price" (before ++ after) := by
    refine firstOf_insert ?_
    by_cases same : field.name = "price"
    · exact .inr (same ▸ seen)
    · exact .inl fun found => same (Option.some.inj (named.symm.trans found))
  have others : ∀ name, field.name ≠ name →
      carried name (before ++ tag :: after) = carried name (before ++ after) := fun name other =>
    carried_insert fun found => other (Option.some.inj (named.symm.trans found))
  cases field with
  | d =>
      simp only [gather, Field.put, Field.name, price, others "title" (by decide),
        others "summary" (by decide), others "operator" (by decide)]
  | title =>
      simp only [gather, Field.put, Field.name, price, others "d" (by decide),
        others "summary" (by decide), others "operator" (by decide)]
  | summary =>
      simp only [gather, Field.put, Field.name, price, others "d" (by decide),
        others "title" (by decide), others "operator" (by decide)]
  | operator =>
      simp only [gather, Field.put, Field.name, price, others "d" (by decide),
        others "title" (by decide), others "summary" (by decide)]
  | price =>
      simp only [gather, Field.put, price, others "d" (by decide), others "title" (by decide),
        others "summary" (by decide), others "operator" (by decide)]

theorem gather_whole {tags : List (List String)}
    (priced : ∀ first, firstOf "price" tags = some first → Priced first) :
    (gather tags).amountSat ≠ none → (gather tags).period ≠ none := by
  cases found : firstOf "price" tags with
  | none => simp [gather, found]
  | some first =>
      obtain ⟨-, -, frequency, here⟩ := priced first found
      simp [gather, found, here]

end Insertion

/-! ### The first tag -/

section First

variable {PublicKey : Type} (toHex : PublicKey → String) (isKey : String → Bool)
  (event : Event PublicKey) (field : Field)

/-- The name the event is addressed by: the text of its first `d` tag. -/
def addressed (tags : List (List String)) : String :=
  ((firstOf "d" tags).bind fun tag => tag[1]?).getD ""

/-- **The first tag of a name decides**: no further tag of the name changes what is parsed, and a
listing's coordinate is the one its event is addressed by. -/
def Decides : Prop :=
  (∀ before after tag, event.tags = before ++ after → firstOf field.name before ≠ none →
    tag[0]? = some field.name →
    parseListing toHex isKey { event with tags := before ++ tag :: after } =
      parseListing toHex isKey event) ∧
  (field = .d → ∀ parsed, parseListing toHex isKey event = .ok parsed →
    parsed.listingId = listingCoordinate (toHex event.pubkey) (addressed event.tags))

/-- **The first tag of the name has no value**, and the text under the name is consulted. -/
structure Disputed : Prop where
  kind : event.kind = listingKind
  verified : event.verified = true
  priced : ∀ tag, firstOf "price" event.tags = some tag → Priced tag
  consulted : Consulted isKey event (gather event.tags) field
  unvalued : ∃ first, firstOf field.name event.tags = some first ∧ first[1]? = none

variable {isKey event field}

/-- A first tag that has a value. -/
theorem carried_settled {name : String} {tag : List String} {before after : List (List String)}
    (seen : firstOf name before ≠ none)
    (valued : ∀ first, firstOf name (before ++ after) = some first → first[1]? ≠ none) :
    carried name (before ++ tag :: after) = carried name (before ++ after) := by
  obtain ⟨first, found⟩ := Option.ne_none_iff_exists'.mp seen
  have every : ∀ rest, firstOf name (before ++ rest) = some first := fun rest => by
    rw [firstOf_append, found, Option.some_or]
  obtain ⟨value, held⟩ := Option.ne_none_iff_exists'.mp (valued first (every after))
  rw [carried_of_firstOf (every _) held, carried_of_firstOf (every _) held]

theorem Field.put_same (field : Field) (tags : List (List String)) :
    field.put (carried field.name tags) (gather tags) = gather tags := by
  cases field <;> rfl

/-- **A tag that changes nothing.** -/
theorem parseListing_insert (settled : ¬ Disputed isKey event field) {tag : List String}
    {before after : List (List String)} (tags : event.tags = before ++ after)
    (seen : firstOf field.name before ≠ none) (named : tag[0]? = some field.name) :
    parseListing toHex isKey { event with tags := before ++ tag :: after } =
      parseListing toHex isKey event := by
  by_cases kind : event.kind = listingKind
  swap
  · rw [parseListing, if_pos kind, parseListing, if_pos kind]
  by_cases verified : event.verified = true
  swap
  · have unverified : event.verified = false := by simpa using verified
    rw [parseListing, if_neg (not_not.mpr kind), if_pos unverified, parseListing,
      if_neg (not_not.mpr kind), if_pos unverified]
  have price : firstOf "price" (before ++ tag :: after) = firstOf "price" event.tags := by
    rw [tags]
    refine firstOf_insert ?_
    by_cases same : field.name = "price"
    · exact .inr (same ▸ seen)
    · exact .inl fun found => same (Option.some.inj (named.symm.trans found))
  rw [parseListing_ok event kind verified]
  refine (parseListing_ok { event with tags := before ++ tag :: after } kind verified).trans ?_
  show ((before ++ tag :: after).foldlM readTag {} >>= _) = _
  by_cases priced : ∀ first, firstOf "price" event.tags = some first → Priced first
  · rw [foldlM_gather _ (price ▸ priced), foldlM_gather _ priced, ok_bind, ok_bind,
      gather_insert named seen, ← tags]
    show conclude toHex isKey event _ = _
    by_cases consulted : Consulted isKey event (gather event.tags) field
    · have valued : ∀ first, firstOf field.name (before ++ after) = some first → first[1]? ≠ none :=
        fun first found none => settled ⟨kind, verified, priced, consulted, first, tags ▸ found, none⟩
      rw [carried_settled seen valued, ← tags, Field.put_same]
    · cases value : carried field.name (before ++ tag :: after) with
      | some text => exact conclude_put consulted text
      | none =>
          have unheard : carried field.name event.tags = none := by
            rw [← List.singleton_append, carried_append, carried_append] at value
            rw [tags, carried_append]
            have none := Option.or_eq_none_iff.mp value
            rw [none.1, (Option.or_eq_none_iff.mp none.2).2]
            rfl
          rw [← unheard, Field.put_same]
  · obtain ⟨first, found, unpriced⟩ :
        ∃ first, firstOf "price" event.tags = some first ∧ ¬ Priced first := by
      simpa using priced
    obtain ⟨error, ends⟩ := foldlM_unpriced unpriced
    rw [ends _ found, ends _ (price.trans found)]
    rfl

/-- **The coordinate of what is parsed.** -/
theorem parseListing_addressed (settled : ¬ Disputed isKey event .d) {parsed : ParsedListing}
    (accepted : parseListing toHex isKey event = .ok parsed) :
    parsed.listingId = listingCoordinate (toHex event.pubkey) (addressed event.tags) := by
  have kind : event.kind = listingKind := by
    by_contra other
    rw [parseListing, if_pos other] at accepted
    cases accepted
  have verified : event.verified = true := by
    by_contra other
    rw [parseListing, if_neg (not_not.mpr kind), if_pos (by simpa using other)] at accepted
    cases accepted
  have priced : ∀ first, firstOf "price" event.tags = some first → Priced first := by
    intro first found
    by_contra unpriced
    obtain ⟨error, ends⟩ := foldlM_unpriced unpriced
    rw [parseListing_ok event kind verified, ends _ found] at accepted
    cases accepted
  rw [parseListing_ok event kind verified, foldlM_gather _ priced, ok_bind] at accepted
  have named : ∃ d, carried "d" event.tags = some d ∧ d ≠ "" := by
    by_contra unnamed
    have missing : conclude toHex isKey event (gather event.tags) = .error (.missing "d") :=
      conclude_unnamed fun d found => by
        by_contra nonempty
        exact unnamed ⟨d, found, nonempty⟩
    rw [missing] at accepted
    cases accepted
  obtain ⟨d, held, nonempty⟩ := named
  have coordinate : parsed.listingId = listingCoordinate (toHex event.pubkey) d := by
    rw [conclude_named held nonempty] at accepted
    cases read : event.content.bind Content.read with
    | none =>
        rw [read] at accepted
        cases accepted
    | some content =>
        rw [read] at accepted
        obtain ⟨listing, -, accepted⟩ := bind_eq_ok accepted
        obtain rfl := Except.ok.inj accepted
        rfl
  have first : addressed event.tags = d := by
    cases found : firstOf "d" event.tags with
    | none => rw [carried_of_firstOf_none found] at held; cases held
    | some first =>
        cases value : first[1]? with
        | none => exact absurd ⟨kind, verified, priced, trivial, first, found, value⟩ settled
        | some text =>
            have same := (carried_of_firstOf found value).symm.trans held
            simp [addressed, found, value, Option.some.inj same]
  rw [coordinate, first]

/-- **A tag that changes the result.** -/
theorem Disputed.changes (disputed : Disputed isKey event field) (empty : isKey "" = false) :
    ∃ before after tag, event.tags = before ++ after ∧ firstOf field.name before ≠ none ∧
      tag[0]? = some field.name ∧
      parseListing toHex isKey { event with tags := before ++ tag :: after } ≠
        parseListing toHex isKey event := by
  obtain ⟨kind, verified, priced, consulted, first, found, unvalued⟩ := disputed
  obtain ⟨value, changes⟩ := conclude_moves toHex empty (gather_whole priced) consulted
  obtain ⟨named, earlier, after, tags, unnamed⟩ := List.find?_eq_some_iff_append.mp found
  have unseen : firstOf field.name earlier = none :=
    List.find?_eq_none.mpr fun tag member => by simpa using unnamed tag member
  have label : first[0]? = some field.name := of_decide_eq_true named
  have seen : firstOf field.name (earlier ++ [first]) ≠ none := by
    simp [firstOf_append, firstOf_singleton, unseen, label]
  have split : event.tags = (earlier ++ [first]) ++ after := by simpa using tags
  have alone : carried field.name (earlier ++ [first]) = none := by
    rw [carried_append, carried_singleton, if_pos label, unvalued, carried_of_firstOf_none unseen]
    rfl
  have own : carried field.name [[field.name, value]] = some value := by
    rw [carried_singleton]
    exact if_pos rfl
  have carries : carried field.name (earlier ++ [first] ++ [field.name, value] :: after) =
      some value := by
    rw [carried_append, alone, Option.none_or, ← List.singleton_append, carried_append, own,
      Option.some_or]
  have price : firstOf "price" (earlier ++ [first] ++ [field.name, value] :: after) =
      firstOf "price" event.tags := by
    rw [split]
    refine firstOf_insert ?_
    by_cases same : field.name = "price"
    · exact .inr (same ▸ seen)
    · exact .inl fun found => same (Option.some.inj found)
  refine ⟨earlier ++ [first], after, [field.name, value], split, seen, rfl, ?_⟩
  rw [parseListing_ok event kind verified, foldlM_gather _ priced, ok_bind]
  intro same
  refine changes (.trans ?_ same)
  refine .symm ((parseListing_ok
    { event with tags := earlier ++ [first] ++ [field.name, value] :: after } kind verified).trans ?_)
  show (List.foldlM readTag {} (earlier ++ [first] ++ [field.name, value] :: after) >>= _) = _
  rw [foldlM_gather _ (price ▸ priced), ok_bind, gather_insert rfl seen, carries, ← split]
  rfl

/-- **The first tag decides, unless it has no value** and the text under the name is consulted:
the loop then takes a later one, for the coordinate too. -/
theorem first_decides_iff {PublicKey : Type} (toHex : PublicKey → String) (isKey : String → Bool)
    (empty : isKey "" = false) (event : Event PublicKey) (field : Field) :
    Decides toHex isKey event field ↔ ¬ Disputed isKey event field := by
  constructor
  · rintro ⟨stable, -⟩ disputed
    obtain ⟨before, after, tag, tags, seen, named, changed⟩ := disputed.changes toHex empty
    exact changed (stable before after tag tags seen named)
  · refine fun settled => ⟨fun before after tag tags seen named =>
      parseListing_insert toHex settled tags seen named, ?_⟩
    rintro rfl parsed accepted
    exact parseListing_addressed toHex settled accepted

/-- **A listing whose first `d` tag names it** keeps its coordinate, whatever tags follow. -/
theorem first_decides_iff_named :
    Decides (fun _ : Unit => "ab") (fun key => key = "cd") ⟨(), listingKind,
      (Listing.event ⟨"svc", "cd", "dummy", "1", "Dummy", "", 1000, "30d", [], [], none, 1⟩).content,
      (Listing.event ⟨"svc", "cd", "dummy", "1", "Dummy", "", 1000, "30d", [], [], none, 1⟩).tags,
      true⟩ .d :=
  (first_decides_iff (fun _ : Unit => "ab") (fun key => key = "cd") (by decide) _ .d).mpr
    fun disputed => by
      obtain ⟨first, found, unvalued⟩ := disputed.unvalued
      cases found
      cases unvalued

/-- **A first `d` tag without a value**: the event is addressed by the empty name, the listing by
the next tag's, and a tag put between them changes it. -/
theorem later_tag_decides :
    ∃ event : Event Unit, ∃ parsed changed,
      parseListing (fun _ : Unit => "ab") (fun key => key = "cd") event = .ok parsed ∧
      addressed event.tags = "" ∧ parsed.listingId = listingCoordinate "ab" "svc" ∧
      event.tags = [["d"]] ++ event.tags.tail ∧
      parseListing (fun _ : Unit => "ab") (fun key => key = "cd")
        { event with tags := [["d"]] ++ ["d", "web"] :: event.tags.tail } = .ok changed ∧
      changed.listingId = listingCoordinate "ab" "web" ∧
      ¬ Decides (fun _ : Unit => "ab") (fun key => key = "cd") event .d := by
  refine ⟨⟨(), listingKind,
    (Listing.event ⟨"svc", "cd", "dummy", "1", "Dummy", "", 1000, "30d", [], [], none, 1⟩).content,
    ["d"] ::
      (Listing.event ⟨"svc", "cd", "dummy", "1", "Dummy", "", 1000, "30d", [], [], none, 1⟩).tags,
    true⟩, ⟨⟨"svc", "cd", "dummy", "1", "Dummy", "", 1000, "30d", [], [], none, 1⟩,
      listingCoordinate "ab" "svc"⟩,
    ⟨⟨"web", "cd", "dummy", "1", "Dummy", "", 1000, "30d", [], [], none, 1⟩,
      listingCoordinate "ab" "web"⟩, rfl, rfl, rfl, rfl, rfl, rfl, ?_⟩
  rintro ⟨stable, -⟩
  have same := stable [["d"]] _ ["d", "web"] rfl (by decide) rfl
  revert same
  decide +kernel

end First

end Lnrent.Wire
