/-
**The DM codec loses nothing.**

* `Paired` — the payload of a result goes with its status; `validate_eq_ok` — that is what is checked;
* `Extended` — a document with further fields, in the message or in the error it carries;
* `decode_extended` — **an encoded message is read back**, from its document or any extension of it;
* `dedupeId_injective` — equal keys come from equal senders, types and request ids.
-/

import Lnrent.Wire.Dm

namespace Lnrent.Wire

open Serde

/-! ### The pairing -/

/-- **The payload of a result goes with its status**: an object with `ok`, an error with `error`. -/
def Paired (result : OpResult) : Prop :=
  match result.status with
  | .ok => (∃ data, result.data = some data ∧ data.document.isObject = true) ∧ result.error = none
  | .error => result.data = none ∧ ∃ error, result.error = some error

theorem validate_eq_ok (result : OpResult) : result.validate = .ok () ↔ Paired result := by
  obtain ⟨requestId, subscriptionId, op, status, data, error⟩ := result
  cases status with
  | ok =>
      cases data with
      | none => simp [OpResult.validate, Paired]
      | some data =>
          cases object : data.document.isObject <;> cases error <;>
            simp [OpResult.validate, Paired, object]
  | error => cases data <;> cases error <;> simp [OpResult.validate, Paired]

theorem validate_cases (result : OpResult) :
    (∃ reason, result.validate = .error reason) ↔ ¬ Paired result := by
  rw [← validate_eq_ok]
  cases result.validate <;> simp

/-! ### Extensions -/

/-- **An object with further members**, of names the record does not have. -/
def Adds (names : List String) (document extended : Json) : Prop :=
  ∃ members more, document = .object members ∧ extended = .object more ∧ kept names more = members

/-- A member of an extension: the same, or an `error` with further fields. -/
def Grown (name : String) (document extended : Json) : Prop :=
  extended = document ∨ name = "error" ∧ Adds WireError.names document extended

/-- **A document with further fields**, in the message or in the error it carries. -/
def Extended (message : Msg) (document extended : Json) : Prop :=
  ∃ members more, document = .object members ∧ extended = .object more ∧
    List.Forall₂ (fun member member' => member'.1 = member.1 ∧ Grown member.1 member.2 member'.2)
      members (kept ("type" :: message.names) more)

theorem grown_of_ne {name : String} {document extended : Json} (plain : name ≠ "error")
    (grown : Grown name document extended) : extended = document :=
  grown.resolve_right fun error => plain error.1

/-- A column of an extension. -/
def GrownColumn (name : String) (col col' : Option Json) : Prop := Option.Rel (Grown name) col col'

theorem grownColumn_of_ne {name : String} {col col' : Option Json} (plain : name ≠ "error")
    (grown : GrownColumn name col col') : col' = col := by
  cases grown with
  | some grown => rw [grown_of_ne plain grown]
  | none => rfl

/-- The columns of an extension. -/
inductive GrownColumns : List String → List (Option Json) → List (Option Json) → Prop where
  | nil : GrownColumns [] [] []
  | cons {name : String} {names : List String} {col col' : Option Json}
      {cols cols' : List (Option Json)} (head : GrownColumn name col col')
      (tail : GrownColumns names cols cols') :
      GrownColumns (name :: names) (col :: cols) (col' :: cols')

theorem GrownColumns.length {names : List String} {cols cols' : List (Option Json)}
    (grown : GrownColumns names cols cols') : cols'.length = names.length := by
  induction grown with
  | nil => rfl
  | cons _ _ ih => exact congrArg (· + 1) ih

theorem GrownColumns.eq {names : List String} {cols cols' : List (Option Json)}
    (grown : GrownColumns names cols cols') (plain : "error" ∉ names) : cols' = cols := by
  induction grown with
  | nil => rfl
  | cons head tail ih =>
      obtain ⟨here, later⟩ := not_or.mp (mt List.mem_cons.mpr plain)
      rw [grownColumn_of_ne (Ne.symm here) head, ih later]

/-- The known members of an extension are those of a record with grown columns. -/
theorem grown_assemble {names : List String} :
    ∀ {cols : List (Option Json)} {found : List (String × Json)}, cols.length = names.length →
      List.Forall₂ (fun member member' => member'.1 = member.1 ∧ Grown member.1 member.2 member'.2)
        (assemble names cols) found →
      ∃ cols', GrownColumns names cols cols' ∧ found = assemble names cols' := by
  induction names with
  | nil =>
      intro cols found length same
      rw [List.eq_nil_of_length_eq_zero length] at same ⊢
      cases same
      exact ⟨[], .nil, rfl⟩
  | cons name names ih =>
      intro cols found length same
      cases cols with
      | nil => cases length
      | cons col cols =>
          have rest := Nat.succ.inj length
          cases col with
          | none =>
              obtain ⟨cols', grown, rfl⟩ := ih rest same
              exact ⟨none :: cols', .cons .none grown, rfl⟩
          | some document =>
              obtain ⟨⟨_, extended⟩, found, ⟨rfl, head⟩, tail, rfl⟩ :=
                List.forall₂_cons_left_iff.mp same
              obtain ⟨cols', grown, rfl⟩ := ih rest tail
              exact ⟨some extended :: cols', .cons (.some head) grown, rfl⟩

/-! ### Reading a message back -/

theorem WireError.read_adds {error : WireError} {extended : Json}
    (adds : Adds names error.write extended) : WireError.read extended = some error := by
  obtain ⟨members, more, written, rfl, same⟩ := adds
  have cols : Serde.columns names (.object more) = some error.columns :=
    columns_of_kept (by decide) rfl (same.trans (Json.object.inj written).symm)
  simp [WireError.read, cols, WireError.columns]

theorem WireError.read_write (error : WireError) : WireError.read error.write = some error := by
  have cols : Serde.columns names error.write = some error.columns :=
    columns_assemble (by decide) rfl
  simp [WireError.read, cols, WireError.columns]

theorem WireError.read_grown {error : WireError} {extended : Json}
    (grown : Grown "error" error.write extended) : WireError.read extended = some error := by
  rcases grown with rfl | ⟨-, adds⟩
  · exact error.read_write
  · exact read_adds adds

theorem optional_grown {error : Option WireError} {col : Option Json}
    (grown : GrownColumn "error" (error.map WireError.write) col) :
    optional WireError.read col = some error := by
  cases error with
  | none =>
      cases grown
      rfl
  | some error =>
      cases grown with
      | some grown =>
          rename_i extended
          have read := WireError.read_grown grown
          have present : extended ≠ .null := by
            rintro rfl
            simp [WireError.read, Serde.columns] at read
          rw [optional_some _ present, read, Option.map_some]

theorem optional_data {data : Option Value} (object : ∀ value, data = some value →
    value.document.isObject = true) : optional readValue (data.map Value.document) = some data := by
  cases data with
  | none => rfl
  | some value =>
      have present : value.document ≠ .null := by
        intro null
        have is := object value rfl
        rw [null] at is
        cases is
      rw [Option.map_some, optional_some _ present, readValue_document, Option.map_some]

theorem OpStatus.read_text (status : OpStatus) : OpStatus.read (.string status.text) = some status := by
  cases status <;> rfl

/-- **A message that carries no error is made of its columns.** -/
theorem Msg.readVariant_columns {message : Msg} (plain : "error" ∉ message.names) {content : Json}
    (found : Serde.columns message.names content = some message.columns) :
    readVariant message.typeStr content = .ok message := by
  cases message with
  | orderError message => exact absurd (show "error" ∈ OrderError.names by decide) plain
  | opResult message => exact absurd (show "error" ∈ OpResult.names by decide) plain
  | _ message =>
      simp only [Msg.names, Msg.columns] at found
      simp [Msg.typeStr, readVariant, variant, found, OrderRequest.read, OrderRequest.columns,
        OrderInvoice.read, OrderInvoice.columns, ProvisionReady.read, ProvisionReady.columns,
        DeliveryResendRequest.read, DeliveryResendRequest.columns, BillingInvoice.read,
        BillingInvoice.columns, BillingNotice.read, BillingNotice.columns, BillingRefund.read,
        BillingRefund.columns, RenewRequest.read, RenewRequest.columns, SubCancel.read,
        SubCancel.columns, OpRequest.read, OpRequest.columns, OperatorAlert.read,
        OperatorAlert.columns]

theorem Msg.distinct_names (message : Msg) : ("type" :: message.names).Nodup := by
  cases message <;> simp only [Msg.names] <;> decide

theorem Msg.length_columns (message : Msg) : message.columns.length = message.names.length := by
  cases message <;> rfl

/-- The data of a paired result is an object. -/
theorem Paired.object {result : OpResult} (paired : Paired result) :
    ∀ value, result.data = some value → value.document.isObject = true := by
  intro value found
  unfold Paired at paired
  cases status : result.status with
  | ok =>
      rw [status] at paired
      obtain ⟨⟨data, same, object⟩, -⟩ := paired
      rw [found] at same
      cases same
      exact object
  | error =>
      rw [status] at paired
      rw [found] at paired
      cases paired.1

/-- **A variant is made of its columns**, also where the error has further fields. -/
theorem Msg.readVariant_grown {message : Msg} (valid : message.validate = .ok ())
    {content : Json} {cols : List (Option Json)}
    (found : Serde.columns message.names content = some cols)
    (grown : GrownColumns message.names message.columns cols) :
    readVariant message.typeStr content = .ok message := by
  cases message with
  | orderError message =>
      cases grown with | cons request grown =>
      cases grown with | cons order grown =>
      cases grown with | cons error grown =>
      cases grown
      obtain rfl := grownColumn_of_ne (by decide) request
      obtain rfl := grownColumn_of_ne (by decide) order
      cases error with | some error =>
      have read := WireError.read_grown error
      simp only [Msg.names] at found
      simp [Msg.typeStr, readVariant, OrderError.read, found, read, variant]
  | opResult message =>
      have object := ((validate_eq_ok message).mp valid).object
      cases grown with | cons request grown =>
      cases grown with | cons subscription grown =>
      cases grown with | cons op grown =>
      cases grown with | cons status grown =>
      cases grown with | cons data grown =>
      cases grown with | cons error grown =>
      cases grown
      obtain rfl := grownColumn_of_ne (by decide) request
      obtain rfl := grownColumn_of_ne (by decide) subscription
      obtain rfl := grownColumn_of_ne (by decide) op
      obtain rfl := grownColumn_of_ne (by decide) status
      obtain rfl := grownColumn_of_ne (by decide) data
      have readWire : OpResult.readWire content = some message := by
        simp only [Msg.names] at found
        simp [OpResult.readWire, found, optional_grown error, optional_data object,
          OpStatus.read_text]
      have passes : message.validate = .ok () := valid
      simp [Msg.typeStr, readVariant, readOpResult, readWire, passes]
  | _ message =>
      obtain rfl := grown.eq (by simp only [Msg.names]; decide)
      exact readVariant_columns (by simp only [Msg.names]; decide) found

/-- What an encoded message is. -/
theorem Msg.encode_eq_ok {message : Msg} {document : Json} (encoded : message.encode = .ok document) :
    message.validate = .ok () ∧ document = .object (("type", .string message.typeStr) ::
      assemble message.names message.columns) := by
  unfold Msg.encode at encoded
  cases valid : message.validate with
  | error reason => simp [valid] at encoded
  | ok _ =>
      simp only [valid, Except.ok.injEq] at encoded
      exact ⟨rfl, encoded.symm⟩

/-- **An encoded message is read back** from any extension of its document. -/
theorem decode_extended {message : Msg} {document extended : Json}
    (encoded : message.encode = .ok document) (extension : Extended message document extended) :
    Msg.decode extended = .ok message := by
  obtain ⟨valid, rfl⟩ := Msg.encode_eq_ok encoded
  obtain ⟨members, more, is, rfl, same⟩ := extension
  obtain rfl := Json.object.inj is
  obtain ⟨⟨_, tag⟩, found, ⟨rfl, head⟩, same, split⟩ := List.forall₂_cons_left_iff.mp same
  obtain rfl := grown_of_ne (show "type" ≠ "error" by decide) head
  obtain ⟨cols, grown, rfl⟩ := grown_assemble message.length_columns same
  obtain ⟨content, tagged, columns⟩ := columns_tagged message.distinct_names grown.length split
  rw [Msg.decode, tagged]
  exact Msg.readVariant_grown valid columns grown

/-- A document is an extension of itself. -/
theorem Extended.refl {message : Msg} {document : Json} (encoded : message.encode = .ok document) :
    Extended message document document := by
  obtain ⟨-, rfl⟩ := Msg.encode_eq_ok encoded
  refine ⟨_, _, rfl, rfl, ?_⟩
  have all : kept ("type" :: message.names) (("type", .string message.typeStr) ::
      assemble message.names message.columns) = ("type", .string message.typeStr) ::
        assemble message.names message.columns := by
    refine List.filter_eq_self.mpr fun member found => decide_eq_true ?_
    rcases List.mem_cons.mp found with rfl | later
    · exact List.mem_cons_self
    · exact List.mem_cons_of_mem _ (assemble_names member later)
  rw [all]
  exact List.forall₂_same.mpr fun member _ => ⟨rfl, .inl rfl⟩

theorem encode_eq_error (message : Msg) :
    (∃ reason, message.encode = .error reason) ↔
      ∃ result, message = .opResult result ∧ ¬ Paired result := by
  cases message with
  | opResult result =>
      have refused : (∃ reason, (Msg.opResult result).encode = .error reason) ↔
          ∃ reason, result.validate = .error reason := by
        simp only [Msg.encode, Msg.validate]
        cases result.validate <;> simp
      rw [refused, validate_cases]
      simp
  | _ => simp [Msg.encode, Msg.validate]

/-- **What is decoded is paired.** -/
theorem decode_paired {document : Json} {result : OpResult}
    (decoded : Msg.decode document = .ok (.opResult result)) : Paired result := by
  have others {α : Type} {make : α → Msg} (other : ∀ record, make record ≠ .opResult result)
      (record : Option α) : Msg.variant make record ≠ .ok (.opResult result) := by
    cases record with
    | none => simp [Msg.variant]
    | some record => simpa [Msg.variant] using other record
  unfold Msg.decode at decoded
  cases found : tagged "type" document with
  | none => simp [found] at decoded
  | some pair =>
      obtain ⟨type, content⟩ := pair
      simp only [found] at decoded
      unfold Msg.readVariant at decoded
      split at decoded
      case h_12 =>
          unfold Msg.readOpResult at decoded
          cases read : OpResult.readWire content with
          | none => simp [read] at decoded
          | some wire =>
              cases valid : wire.validate with
              | error reason => simp [read, valid] at decoded
              | ok _ =>
                  simp only [read, valid, Except.ok.injEq, Msg.opResult.injEq] at decoded
                  exact decoded ▸ (validate_eq_ok wire).mp valid
      case h_14 => simp at decoded
      all_goals exact absurd decoded (others (by simp) _)

/-! ### Keys -/

/-- No wire type has a separator in it. -/
theorem Msg.typeStr_plain (message : Msg) : ':' ∉ message.typeStr.toList := by
  cases message <;> simp only [Msg.typeStr] <;> decide

/-- What stands before the first separator is determined. -/
theorem separated_inj {separator : Char} {first second rest rest' : List Char}
    (plain : separator ∉ first) (plain' : separator ∉ second)
    (same : first ++ separator :: rest = second ++ separator :: rest') :
    first = second ∧ rest = rest' := by
  induction first generalizing second with
  | nil =>
      cases second with
      | nil => exact ⟨rfl, (List.cons.inj same).2⟩
      | cons head tail => exact absurd ((List.cons.inj same).1 ▸ List.mem_cons_self) plain'
  | cons head tail ih =>
      cases second with
      | nil => exact absurd ((List.cons.inj same).1 ▸ List.mem_cons_self) plain
      | cons head' tail' =>
          obtain ⟨rfl, later⟩ := List.cons.inj same
          obtain ⟨rfl, last⟩ := ih (fun member => plain (List.mem_cons_of_mem _ member))
            (fun member => plain' (List.mem_cons_of_mem _ member)) later
          exact ⟨rfl, last⟩

/-- **Equal keys come from equal senders, types and request ids.** -/
theorem dedupeId_injective {PublicKey : Type} {toHex : PublicKey → String}
    (injective : Function.Injective toHex) {width : ℕ} (fixed : ∀ key, (toHex key).length = width)
    {first second : Msg} {sender other : PublicKey} {key : String}
    (one : first.dedupeId toHex sender = some key) (two : second.dedupeId toHex other = some key) :
    sender = other ∧ first.typeStr = second.typeStr ∧ first.key = second.key := by
  obtain ⟨id, here, rfl⟩ := Option.map_eq_some_iff.mp one
  obtain ⟨id', there, same⟩ := Option.map_eq_some_iff.mp two
  have chars := congrArg String.toList same
  have colon : ":".toList = [':'] := by decide
  simp only [String.toList_append, List.append_assoc, colon, List.cons_append,
    List.nil_append] at chars
  have widths : (toHex other).toList.length = (toHex sender).toList.length := by
    rw [String.length_toList, String.length_toList, fixed, fixed]
  obtain ⟨hex, rest⟩ := List.append_inj chars widths
  obtain ⟨type, ids⟩ :=
    separated_inj second.typeStr_plain first.typeStr_plain (List.cons.inj rest).2
  refine ⟨(injective (String.toList_inj.mp hex)).symm, (String.toList_inj.mp type).symm, ?_⟩
  rw [here, there, String.toList_inj.mp ids]

/-! ### The codec -/

/-- **The DM codec loses nothing.** Encoding fails exactly for a result that is not paired; what was
encoded is read back, whatever fields a document has besides; what is decoded is paired; and the key
of a message tells its sender, its type and its request id. -/
theorem codec_lossless {PublicKey : Type} (toHex : PublicKey → String)
    (injective : Function.Injective toHex) (width : ℕ) (fixed : ∀ key, (toHex key).length = width) :
    (∀ message : Msg, (∃ reason, message.encode = .error reason) ↔
      ∃ result, message = .opResult result ∧ ¬ Paired result) ∧
    (∀ (message : Msg) document, message.encode = .ok document →
      Msg.decode document = .ok message) ∧
    (∀ document result, Msg.decode document = .ok (.opResult result) → Paired result) ∧
    (∀ (message : Msg) document extended, message.encode = .ok document →
      Extended message document extended → Msg.decode extended = .ok message) ∧
    ∀ (first second : Msg) (sender other : PublicKey) key,
      first.dedupeId toHex sender = some key → second.dedupeId toHex other = some key →
        sender = other ∧ first.typeStr = second.typeStr ∧ first.key = second.key := by
  refine ⟨encode_eq_error, fun message document encoded => ?_, fun _ _ => decode_paired,
    fun _ _ _ => decode_extended, fun _ _ _ _ _ => dedupeId_injective injective fixed⟩
  exact decode_extended encoded (Extended.refl encoded)

/-- Two public keys in hex. -/
def sampleHex : Bool → String
  | false => "79be667ef9dcbbac55a06295ce870b07029bfcdb2dce28d959f2815b16f81798"
  | true => "c6047f9441ed7d6d3045406e95c07cd85c778e4b8cef3ca7abac09b95c709ee5"

/-- **Two senders that chose one id are told apart.** -/
theorem codec_lossless_two_senders :
    (Msg.renewRequest ⟨"a:b", "s"⟩).dedupeId sampleHex false ≠
      (Msg.renewRequest ⟨"a:b", "s"⟩).dedupeId sampleHex true := by
  intro same
  obtain ⟨key, here⟩ : ∃ key, (Msg.renewRequest ⟨"a:b", "s"⟩).dedupeId sampleHex false = some key :=
    ⟨_, rfl⟩
  have lossless := codec_lossless sampleHex
    (by
      intro first second equal
      cases first <;> cases second <;> first | rfl | exact absurd equal (by decide))
    64 (by intro key; cases key <;> decide)
  obtain ⟨sender, -⟩ := lossless.2.2.2.2 _ _ false true key here (same ▸ here)
  cases sender

end Lnrent.Wire
