/-
**What an import commits.** The transaction of pass 3 analyses the repaired books once more and
writes the marker only over a clean result; so what it commits is covered by the map it brought in.

* `Covered` — every invoice of the backend and every attempt with a payment has its map row, and
  every attempt nothing vouches for is fenced;
* `Keeps` — what no statement of the import touches, settled invoices among it;
* `importAll_imported`, `importAbsent_imported` — the two transactions.
-/

import Lnrent.Daemon.LegacyImport

namespace Lnrent.LegacyImport

/-! ### Transactions -/

theorem bind_eq_ok {ε α β : Type} {first : Except ε α} {rest : α → Except ε β} {result : β} :
    first >>= rest = .ok result ↔ ∃ value, first = .ok value ∧ rest value = .ok result := by
  cases first with
  | error problem =>
      refine ⟨fun failed => ?_, ?_⟩
      · cases failed
      · rintro ⟨value, wrong, -⟩
        cases wrong
  | ok value => exact ⟨fun done => ⟨value, rfl, done⟩, fun ⟨_, same, done⟩ => by cases same; exact done⟩

/-- What every statement keeps, a list of them keeps. -/
theorem foldlM_keeps {ε α β : Type} {act : β → α → Except ε β} {relation : β → β → Prop}
    (refl : ∀ state, relation state state)
    (trans : ∀ first second third, relation first second → relation second third →
      relation first third)
    (one : ∀ state item after, act state item = .ok after → relation state after) :
    ∀ (items : List α) (state after : β), items.foldlM act state = .ok after →
      relation state after := by
  intro items
  induction items with
  | nil =>
      intro state after done
      cases done
      exact refl state
  | cons item items ih =>
      intro state after done
      rw [List.foldlM_cons] at done
      obtain ⟨between, acted, rest⟩ := bind_eq_ok.mp done
      exact trans _ _ _ (one _ _ _ acted) (ih _ _ rest)

/-! ### Coverage -/

variable {isBolt11 : String → Bool} {backend : Backend}

/-- Nothing vouches for what the attempt paid: it has no map row and was never sent, or it failed
in the books and not in the map. -/
def Unproven (pay : List PayRow) (attempt : BookAttempt) : Prop :=
  (payByKey pay attempt.key = none ∧ (attempt.status = "PENDING" ∨ attempt.status = "FAILED")) ∨
    attempt.status = "FAILED" ∧ ∃ map ∈ payByKey pay attempt.key, map.status ≠ "FAILED"

/-- The rows with the attempt's id are stamped. -/
def Fenced (books : Books) (table : AttemptTable) (id : String) : Prop :=
  match table with
  | .refundAttempt => ∀ row ∈ books.refunds, row.id = id → row.migrationUnverifiedAt ≠ none
  | .sweepAttempt => ∀ row ∈ books.sweeps, row.id = id → row.migrationUnverifiedAt ≠ none

/-- **The books are covered by the maps beside them.** -/
structure Covered (isBolt11 : String → Bool) (backend : Backend) (books : Books) : Prop where
  invoices : ∀ book ∈ loadBookInvoices backend books,
    ∃ map ∈ effectiveByExternal books.receive book.externalId,
      map.invoiceId = book.id ∧ ¬ Disagrees book map
  attempts : ∀ attempt ∈ loadBookAttempts isBolt11 books,
    attempt.status = "SENT" ∨ attempt.backendPaymentId ≠ none →
      ∃ map ∈ payByKey books.pay attempt.key, PayAgrees attempt map
  fenced : ∀ attempt ∈ loadBookAttempts isBolt11 books, Unproven books.pay attempt →
    Fenced books attempt.table attempt.id

/-- The marker a commit leaves: the hash of the file, or that there was none. -/
def Marked (file : Option SideFile) (content : String) : Prop :=
  match file with
  | some file => content = file.hash
  | none => content = "fresh" ∨ content = "parked"

/-- **One import was committed**: the books are covered and marked, and no settled invoice changed. -/
structure Imported (isBolt11 : String → Bool) (backend : Backend) (file : Option SideFile)
    (before after : Books) : Prop where
  covered : Covered isBolt11 backend after
  marker : ∃ marker ∈ after.marker, Marked file marker.contentHash
  settled : ∀ book ∈ before.invoices.rows, book.Settled → book ∈ after.invoices.rows

/-! ### A clean analysis -/

/-- Nothing is left to refuse, to arbitrate, to delete or to refresh. -/
structure Plan.Clean (plan : Plan) : Prop where
  refusal : plan.refusal = none
  mismatches : plan.mismatches = []
  reap : plan.reap = []
  refreshExpiry : plan.refreshExpiry = []

/-- The verdicts a clean plan is made of. -/
def Verdict.Settles (verdict : Verdict) : Prop :=
  verdict = .covered ∨ ∃ table id, verdict = .stamp table id

theorem settles_of_clean {found : List Verdict} (clean : (collect found).Clean) :
    ∀ verdict ∈ found, verdict.Settles := by
  intro verdict member
  have asked : verdict.toAsk = none := List.filterMap_eq_nil_iff.mp clean.mismatches _ member
  have reaped : verdict.toReap = none := List.filterMap_eq_nil_iff.mp clean.reap _ member
  have refreshed : verdict.toRefresh = none :=
    List.filterMap_eq_nil_iff.mp clean.refreshExpiry _ member
  have accepted : verdict.toRefuse = none := List.findSome?_eq_none_iff.mp clean.refusal _ member
  cases verdict with
  | covered => exact .inl rfl
  | stamp table id => exact .inr ⟨table, id, rfl⟩
  | reap id => cases reaped
  | disagreement mismatch => cases asked
  | refreshExpiry externalId expiresAt => cases refreshed
  | refuse refusal => cases accepted

/-- An invoice that needs nothing has its row. -/
theorem judgeInvoice_settles {receive : List ReceiveRow} {refunds : List RefundRow} {now : ℤ}
    {book : BookInvoice} (settles : (judgeInvoice receive refunds now book).Settles) :
    ∃ map ∈ effectiveByExternal receive book.externalId,
      map.invoiceId = book.id ∧ ¬ Disagrees book map := by
  unfold judgeInvoice at settles
  cases found : effectiveByExternal receive book.externalId with
  | none =>
      simp only [found] at settles
      split at settles <;> simp [Verdict.Settles] at settles
  | some map =>
      simp only [found] at settles
      refine ⟨map, rfl, ?_⟩
      split_ifs at settles with _ _ same disagrees
      all_goals first
        | exact ⟨same, disagrees⟩
        | simp [Verdict.Settles] at settles

theorem judgeAttempt_settles {pay : List PayRow} {attempt : BookAttempt}
    (settles : (judgeAttempt pay attempt).Settles)
    (paid : attempt.status = "SENT" ∨ attempt.backendPaymentId ≠ none) :
    ∃ map ∈ payByKey pay attempt.key, PayAgrees attempt map := by
  unfold judgeAttempt at settles
  cases found : payByKey pay attempt.key with
  | none => simp [found, paid, Verdict.Settles] at settles
  | some map =>
      simp only [found] at settles
      refine ⟨map, rfl, ?_⟩
      split_ifs at settles with fenced agrees
      · exact fenced.1
      · exact agrees.1
      · simp [Verdict.Settles] at settles

/-- An attempt nothing vouches for is stamped, unless the run is refused. -/
theorem judgeAttempt_unproven {pay : List PayRow} {attempt : BookAttempt}
    (settles : (judgeAttempt pay attempt).toRefuse = none) (unproven : Unproven pay attempt) :
    judgeAttempt pay attempt = .stamp attempt.table attempt.id := by
  unfold judgeAttempt at settles ⊢
  rcases unproven with ⟨missing, status⟩ | ⟨failed, map, found, notFailed⟩
  · simp only [missing] at settles ⊢
    by_cases paid : attempt.status = "SENT" ∨ attempt.backendPaymentId ≠ none
    · rw [if_pos paid] at settles
      cases settles
    · rw [if_neg paid, if_pos status]
  · simp only [Option.mem_def.mp found] at settles ⊢
    by_cases agrees : PayAgrees attempt map
    · rw [if_pos ⟨agrees, failed, notFailed⟩]
    · simp [agrees, Verdict.toRefuse] at settles

/-! ### What the statements keep -/

/-- **Two states of the books that differ in unsettled invoices and the journal only.** -/
structure Keeps (before after : Books) : Prop where
  refunds : after.refunds = before.refunds
  sweeps : after.sweeps = before.sweeps
  receive : after.receive = before.receive
  pay : after.pay = before.pay
  marker : after.marker = before.marker
  settled : ∀ book ∈ before.invoices.rows, book.Settled → book ∈ after.invoices.rows

theorem Keeps.refl (books : Books) : Keeps books books :=
  ⟨rfl, rfl, rfl, rfl, rfl, fun _ member _ => member⟩

theorem Keeps.trans (first second third : Books) (one : Keeps first second)
    (two : Keeps second third) : Keeps first third where
  refunds := two.refunds.trans one.refunds
  sweeps := two.sweeps.trans one.sweeps
  receive := two.receive.trans one.receive
  pay := two.pay.trans one.pay
  marker := two.marker.trans one.marker
  settled book member settled := two.settled book (one.settled book member settled) settled

theorem update_eq_ok {invoices after : Invoices} {change : BookInvoice → BookInvoice}
    (done : invoices.update change = .ok after) : after.rows = invoices.rows.map change := by
  unfold Invoices.update at done
  split at done
  · cases done
    rfl
  · cases done

theorem BookInvoice.Settled.not_repairable {book : BookInvoice} (settled : book.Settled)
    (externalId : String) : ¬ book.Repairable externalId :=
  fun ⟨_, _, unpaid, unsettled⟩ => settled.elim unpaid fun settled => settled unsettled

/-- A guarded update leaves the settled rows. -/
theorem settled_update {invoices after : Invoices} {externalId : String}
    {change : BookInvoice → BookInvoice}
    (done : invoices.update (fun book => if book.Repairable externalId then change book else book) =
      .ok after) :
    ∀ book ∈ invoices.rows, book.Settled → book ∈ after.rows := by
  intro book member settled
  rw [update_eq_ok done]
  exact List.mem_map.mpr ⟨book, member, if_neg (settled.not_repairable externalId)⟩

theorem repairInvoice_keeps {now : ℤ} (books : Books) (map : ReceiveRow) (after : Books)
    (done : repairInvoice now books map = .ok after) : Keeps books after := by
  obtain ⟨invoices, updated, rest⟩ := bind_eq_ok.mp done
  dsimp only at rest
  split at rest
  · cases rest
  · cases rest
    exact ⟨rfl, rfl, rfl, rfl, rfl, settled_update updated⟩

theorem refreshWindow_keeps (books : Books) (window : String × ℤ) (after : Books)
    (done : refreshWindow books window = .ok after) : Keeps books after := by
  obtain ⟨invoices, updated, rest⟩ := bind_eq_ok.mp done
  cases rest
  exact ⟨rfl, rfl, rfl, rfl, rfl, settled_update updated⟩

theorem mem_foldl_delete {book : BookInvoice} (ids : List String) :
    ∀ invoices : Invoices, book ∈ invoices.rows → book.id ∉ ids →
      book ∈ (ids.foldl Invoices.delete invoices).rows := by
  induction ids with
  | nil => exact fun _ member _ => member
  | cons id ids ih =>
      intro invoices member absent
      rw [List.mem_cons, not_or] at absent
      refine ih _ ?_ absent.2
      exact List.mem_filter.mpr ⟨member, decide_eq_true absent.1⟩

/-! ### Only invoices that were never settled are deleted -/

theorem toReap_judgeInvoice {receive : List ReceiveRow} {refunds : List RefundRow} {now : ℤ}
    {book : BookInvoice} {id : String}
    (reaps : (judgeInvoice receive refunds now book).toReap = some id) :
    id = book.id ∧ ReapEligible refunds now book := by
  unfold judgeInvoice at reaps
  cases found : effectiveByExternal receive book.externalId with
  | none =>
      simp only [found] at reaps
      split_ifs at reaps with eligible
      · exact ⟨(Option.some.inj reaps).symm, eligible⟩
      · cases reaps
  | some map =>
      simp only [found] at reaps
      split_ifs at reaps with eligible
      all_goals first
        | exact ⟨(Option.some.inj reaps).symm, eligible.2⟩
        | cases reaps

theorem toReap_judgeTimer (receive : List ReceiveRow) (timer : TimerRow) :
    (judgeTimer receive timer).toReap = none := by
  unfold judgeTimer
  split <;> rfl

theorem toReap_judgeAttempt (pay : List PayRow) (attempt : BookAttempt) :
    (judgeAttempt pay attempt).toReap = none := by
  unfold judgeAttempt
  split <;> split_ifs <;> rfl

/-- A planned delete names an eligible invoice. -/
theorem reap_eligible_of_mem {legacy : Legacy} {books : Books} {now : ℤ} {id : String}
    (planned : id ∈ (analyse isBolt11 backend legacy books now).reap) :
    ∃ book ∈ books.invoices.rows, book.id = id ∧ ReapEligible books.refunds now book := by
  obtain ⟨verdict, found, reaps⟩ := List.mem_filterMap.mp planned
  rcases List.mem_append.mp found with found | found
  · rcases List.mem_append.mp found with found | found
    · obtain ⟨book, loaded, rfl⟩ := List.mem_map.mp found
      obtain ⟨rfl, eligible⟩ := toReap_judgeInvoice reaps
      exact ⟨book, (List.mem_filter.mp loaded).1, rfl, eligible⟩
    · obtain ⟨timer, -, rfl⟩ := List.mem_map.mp found
      rw [toReap_judgeTimer] at reaps
      cases reaps
  · obtain ⟨attempt, -, rfl⟩ := List.mem_map.mp found
    rw [toReap_judgeAttempt] at reaps
    cases reaps

/-- A settled invoice is none of them. -/
theorem settled_not_reaped {legacy : Legacy} {books : Books} {now : ℤ} {book : BookInvoice}
    (member : book ∈ books.invoices.rows) (settled : book.Settled) :
    book.id ∉ (analyse isBolt11 backend legacy books now).reap := by
  intro planned
  obtain ⟨other, otherMember, sameId, expired, unsettled, -⟩ := reap_eligible_of_mem planned
  have same : other = book :=
    List.inj_on_of_nodup_map books.invoices.unique otherMember member sameId
  subst same
  rcases settled with paid | settled
  · rw [expired] at paid
    exact absurd paid (by decide)
  · exact settled unsettled

/-! ### Stamps -/

theorem stamp_attempts (now : ℤ) (books : Books) (attempt : AttemptTable × String) :
    loadBookAttempts isBolt11 (stamp now books attempt) = loadBookAttempts isBolt11 books := by
  obtain ⟨table, id⟩ := attempt
  cases table with
  | refundAttempt =>
      simp only [loadBookAttempts, stamp, List.map_map]
      congr 1
      refine List.map_congr_left fun row _ => ?_
      simp only [Function.comp_apply]
      split <;> rfl
  | sweepAttempt =>
      simp only [loadBookAttempts, stamp, List.map_map]
      congr 1
      refine List.map_congr_left fun row _ => ?_
      simp only [Function.comp_apply]
      split <;> rfl

/-- A stamp leaves the invoices, the maps and the marker. -/
theorem stamp_rest (now : ℤ) (books : Books) (attempt : AttemptTable × String) :
    (stamp now books attempt).invoices = books.invoices ∧
      (stamp now books attempt).receive = books.receive ∧
        (stamp now books attempt).pay = books.pay ∧
          (stamp now books attempt).marker = books.marker := by
  unfold stamp
  split <;> exact ⟨rfl, rfl, rfl, rfl⟩

theorem stamp_fences (now : ℤ) (books : Books) (table : AttemptTable) (id : String) :
    Fenced (stamp now books (table, id)) table id := by
  cases table with
  | refundAttempt =>
      intro row member sameId
      obtain ⟨before, -, rfl⟩ := List.mem_map.mp member
      dsimp only at sameId ⊢
      split at sameId
      · rename_i same
        rw [if_pos same]
        simp
      · rename_i different
        exact absurd sameId different
  | sweepAttempt =>
      intro row member sameId
      obtain ⟨before, -, rfl⟩ := List.mem_map.mp member
      dsimp only at sameId ⊢
      split at sameId
      · rename_i same
        rw [if_pos same]
        simp
      · rename_i different
        exact absurd sameId different

theorem Fenced.stamp {books : Books} {table : AttemptTable} {id : String}
    (fenced : Fenced books table id) (now : ℤ) (attempt : AttemptTable × String) :
    Fenced (stamp now books attempt) table id := by
  obtain ⟨other, otherId⟩ := attempt
  cases table with
  | refundAttempt =>
      cases other with
      | sweepAttempt => exact fenced
      | refundAttempt =>
          intro row member sameId
          obtain ⟨before, old, rfl⟩ := List.mem_map.mp member
          dsimp only at sameId ⊢
          split at sameId
          · rename_i same
            rw [if_pos same]
            simp
          · rename_i different
            rw [if_neg different]
            exact fenced before old sameId
  | sweepAttempt =>
      cases other with
      | refundAttempt => exact fenced
      | sweepAttempt =>
          intro row member sameId
          obtain ⟨before, old, rfl⟩ := List.mem_map.mp member
          dsimp only at sameId ⊢
          split at sameId
          · rename_i same
            rw [if_pos same]
            simp
          · rename_i different
            rw [if_neg different]
            exact fenced before old sameId

variable (isBolt11) in
/-- A list of stamps keeps what one keeps and fences each of its attempts. -/
theorem foldl_stamp (now : ℤ) (stamps : List (AttemptTable × String)) :
    ∀ books : Books, let after := stamps.foldl (stamp now) books
      loadBookAttempts isBolt11 after = loadBookAttempts isBolt11 books ∧
        after.invoices = books.invoices ∧ after.receive = books.receive ∧ after.pay = books.pay ∧
          after.marker = books.marker ∧
            ∀ table id, Fenced books table id ∨ (table, id) ∈ stamps → Fenced after table id := by
  induction stamps with
  | nil => exact fun books => ⟨rfl, rfl, rfl, rfl, rfl, fun _ _ known => known.resolve_right (by simp)⟩
  | cons attempt stamps ih =>
      intro books
      obtain ⟨attempts, invoices, receive, pay, marker, fenced⟩ := ih (stamp now books attempt)
      obtain ⟨sameInvoices, sameReceive, samePay, sameMarker⟩ := stamp_rest now books attempt
      refine ⟨attempts.trans (stamp_attempts now books attempt), invoices.trans sameInvoices,
        receive.trans sameReceive, pay.trans samePay, marker.trans sameMarker, ?_⟩
      intro table id known
      refine fenced table id ?_
      rcases known with known | listed
      · exact .inl (known.stamp now attempt)
      · rcases List.mem_cons.mp listed with rfl | later
        · exact .inl (stamp_fences now books table id)
        · exact .inr later

theorem writeMarker_eq_ok {books after : Books} {content : String} {now : ℤ}
    (done : writeMarker books content now = .ok after) :
    books.marker = none ∧ after = { books with marker := some ⟨content, now⟩ } := by
  unfold writeMarker at done
  split at done
  · rename_i missing
    cases done
    exact ⟨missing, rfl⟩
  · cases done

/-! ### The rows the file brings in -/

theorem receiveColumns_idem (row : ReceiveRow) :
    backend.receiveColumns (backend.receiveColumns row) = backend.receiveColumns row := by
  cases backend <;> rfl

theorem payColumns_idem (row : PayRow) :
    backend.payColumns (backend.payColumns row) = backend.payColumns row := by
  cases backend <;> rfl

/-- Into empty tables the rows go verbatim. -/
theorem insertLegacy_eq_ok {books filled : Books} {rows : Legacy} (empty : ¬ TablesNonEmpty books)
    (done : insertLegacy backend books (readLegacy backend rows) = .ok filled) :
    filled.receive = (readLegacy backend rows).receive ∧
      filled.pay = (readLegacy backend rows).pay ∧ filled.invoices = books.invoices ∧
        filled.refunds = books.refunds ∧ filled.sweeps = books.sweeps ∧
          filled.marker = books.marker := by
  obtain ⟨noReceive, noPay⟩ : books.receive = [] ∧ books.pay = [] := by
    simpa [TablesNonEmpty] using empty
  unfold insertLegacy at done
  dsimp only at done
  split_ifs at done with keys
  cases done
  refine ⟨?_, ?_, rfl, rfl, rfl, rfl⟩
  · simp [noReceive, readLegacy, receiveColumns_idem]
  · simp [noPay, readLegacy, payColumns_idem]

/-! ### The two transactions -/

/-- The parts of a committed pass 3. -/
theorem importAll_eq_ok {import_ : Import} {repairs : List ReceiveRow} {books after : Books}
    (done : importAll isBolt11 backend import_ repairs books = .ok after) :
    ∃ filled refreshed,
      insertLegacy backend books import_.legacy = .ok filled ∧
      Keeps { filled with
        invoices := import_.plan.reap.foldl Invoices.delete filled.invoices } refreshed ∧
      (analyse isBolt11 backend import_.legacy refreshed import_.now).Clean ∧
      writeMarker (import_.plan.stamp.foldl (stamp import_.now) refreshed) import_.hash
        import_.now = .ok after := by
  obtain ⟨filled, inserted, rest⟩ := bind_eq_ok.mp done
  obtain ⟨repaired, repairing, rest⟩ := bind_eq_ok.mp rest
  obtain ⟨refreshed, refreshing, rest⟩ := bind_eq_ok.mp rest
  have kept := Keeps.trans _ _ _
    (foldlM_keeps Keeps.refl Keeps.trans repairInvoice_keeps _ _ _ repairing)
    (foldlM_keeps Keeps.refl Keeps.trans refreshWindow_keeps _ _ _ refreshing)
  refine ⟨filled, refreshed, inserted, kept, ?_⟩
  dsimp only at rest
  split at rest
  · cases rest
  · rename_i accepted
    split at rest
    · cases rest
    · rename_i converged
      rw [not_or, not_or, not_not, not_not, not_not] at converged
      exact ⟨⟨accepted, converged.1, converged.2.1, converged.2.2⟩, rest⟩

theorem attempt_stamped {legacy : Legacy} {books : Books} {now : ℤ}
    (accepted : (analyse isBolt11 backend legacy books now).refusal = none) {attempt : BookAttempt}
    (member : attempt ∈ loadBookAttempts isBolt11 books) (unproven : Unproven legacy.pay attempt) :
    (attempt.table, attempt.id) ∈ (analyse isBolt11 backend legacy books now).stamp := by
  have found : judgeAttempt legacy.pay attempt ∈ verdicts isBolt11 backend legacy books now :=
    List.mem_append_right _ (List.mem_map_of_mem member)
  refine List.mem_filterMap.mpr ⟨_, found, ?_⟩
  rw [judgeAttempt_unproven (List.findSome?_eq_none_iff.mp accepted _ found) unproven]
  rfl

/-- **Pass 3 commits a covered database.** -/
theorem importAll_imported {import_ : Import} {repairs : List ReceiveRow} {books after : Books}
    {file : SideFile} {rows : Legacy} (empty : ¬ TablesNonEmpty books)
    (read : import_.legacy = readLegacy backend rows) (hash : import_.hash = file.hash)
    (planned : import_.plan = analyse isBolt11 backend import_.legacy books import_.now)
    (accepted : import_.plan.refusal = none)
    (done : importAll isBolt11 backend import_ repairs books = .ok after) :
    Imported isBolt11 backend (some file) books after := by
  obtain ⟨filled, refreshed, inserted, kept, clean, written⟩ := importAll_eq_ok done
  rw [read] at inserted
  obtain ⟨receive, pay, invoices, refunds, sweeps, -⟩ := insertLegacy_eq_ok empty inserted
  rw [← read] at receive pay
  obtain ⟨attempts, sameInvoices, sameReceive, samePay, -, fences⟩ :=
    foldl_stamp isBolt11 import_.now import_.plan.stamp refreshed
  obtain ⟨-, rfl⟩ := writeMarker_eq_ok written
  have afterReceive := (sameReceive.trans kept.receive).trans receive
  have afterPay := (samePay.trans kept.pay).trans pay
  have settles := settles_of_clean clean
  have sameAttempts : loadBookAttempts isBolt11 refreshed = loadBookAttempts isBolt11 books := by
    rw [loadBookAttempts, loadBookAttempts, kept.refunds, kept.sweeps]
    exact congrArg₂ (fun first second => List.map (refundAttempt isBolt11) first ++
      List.map sweepAttempt second) refunds sweeps
  refine ⟨⟨?_, ?_, ?_⟩, ⟨_, rfl, hash⟩, ?_⟩
  · intro book member
    rw [show effectiveByExternal _ book.externalId =
      effectiveByExternal import_.legacy.receive book.externalId from
        congrArg (effectiveByExternal · book.externalId) afterReceive]
    have loaded : book ∈ loadBookInvoices backend refreshed := by
      rw [loadBookInvoices, ← sameInvoices]
      exact member
    exact judgeInvoice_settles (settles _
      (List.mem_append_left _ (List.mem_append_left _ (List.mem_map_of_mem loaded))))
  · intro attempt member paid
    rw [show payByKey _ attempt.key = payByKey import_.legacy.pay attempt.key from
      congrArg (payByKey · attempt.key) afterPay]
    have loaded : attempt ∈ loadBookAttempts isBolt11 refreshed := attempts ▸ member
    exact judgeAttempt_settles (settles _
      (List.mem_append_right _ (List.mem_map_of_mem loaded))) paid
  · intro attempt member unproven
    have loaded : attempt ∈ loadBookAttempts isBolt11 books := by
      rw [← sameAttempts, ← attempts]
      exact member
    have missing : Unproven import_.legacy.pay attempt := by
      rw [← afterPay]
      exact unproven
    have listed := attempt_stamped (planned ▸ accepted) loaded missing
    rw [← planned] at listed
    exact fences _ _ (.inr listed)
  · intro book member settled
    have survives := mem_foldl_delete import_.plan.reap filled.invoices (invoices ▸ member)
      (planned ▸ settled_not_reaped member settled)
    have last := kept.settled book survives settled
    rw [← sameInvoices] at last
    exact last

/-- Without correlation-bearing rows no invoice references the backend. -/
theorem loadBookInvoices_eq_nil {books : Books} (none_ : ¬ CorrelationBearing backend books) :
    loadBookInvoices backend books = [] := by
  refine List.filter_eq_nil_iff.mpr fun book member owned => none_ (.inl ⟨book, member, owned⟩)

theorem attempt_unpaid {books : Books} (none_ : ¬ CorrelationBearing backend books)
    {attempt : BookAttempt} (member : attempt ∈ loadBookAttempts isBolt11 books) :
    ¬ (attempt.status = "SENT" ∨ attempt.backendPaymentId ≠ none) := by
  intro paid
  rcases List.mem_append.mp member with member | member
  · obtain ⟨row, found, rfl⟩ := List.mem_map.mp member
    exact none_ (.inr (.inl ⟨row, found, paid⟩))
  · obtain ⟨row, found, rfl⟩ := List.mem_map.mp member
    exact none_ (.inr (.inr ⟨row, found, paid⟩))

theorem mem_unwitnessedAttempts {books : Books} {attempt : BookAttempt}
    (member : attempt ∈ loadBookAttempts isBolt11 books)
    (status : attempt.status = "PENDING" ∨ attempt.status = "FAILED")
    (noId : attempt.backendPaymentId = none) :
    (attempt.table, attempt.id) ∈ unwitnessedAttempts books := by
  rcases List.mem_append.mp member with member | member
  · obtain ⟨row, found, rfl⟩ := List.mem_map.mp member
    refine List.mem_append_left _ (List.mem_map.mpr ⟨row, List.mem_filter.mpr ⟨found, ?_⟩, rfl⟩)
    have listed : row.status ∈ ["PENDING", "FAILED"] := by
      simpa [refundAttempt] using status
    exact decide_eq_true ⟨listed, noId⟩
  · obtain ⟨row, found, rfl⟩ := List.mem_map.mp member
    refine List.mem_append_right _ (List.mem_map.mpr ⟨row, List.mem_filter.mpr ⟨found, ?_⟩, rfl⟩)
    have listed : row.status ∈ ["PENDING", "FAILED"] := by
      simpa [sweepAttempt] using status
    exact decide_eq_true ⟨listed, noId⟩

variable (isBolt11) in
/-- **A boot without a side file commits a covered database.** -/
theorem importAbsent_imported {books after : Books} {now : ℤ} {outcome : Outcome}
    (done : importAbsent backend books now = .ok (after, outcome)) :
    Imported isBolt11 backend none books after := by
  unfold importAbsent at done
  split at done
  · cases done
  rename_i empty
  split at done
  · cases done
  rename_i unreferenced
  obtain ⟨marked, written, rest⟩ := bind_eq_ok.mp done
  cases rest
  obtain ⟨attempts, sameInvoices, -, samePay, -, fences⟩ :=
    foldl_stamp isBolt11 now (unwitnessedAttempts books) books
  obtain ⟨-, rfl⟩ := writeMarker_eq_ok written
  refine ⟨⟨?_, ?_, ?_⟩, ⟨_, rfl, ?_⟩, ?_⟩
  · intro book member
    have loaded : book ∈ loadBookInvoices backend books := by
      rw [loadBookInvoices, ← sameInvoices]
      exact member
    rw [loadBookInvoices_eq_nil unreferenced] at loaded
    cases loaded
  · intro attempt member paid
    exact absurd paid (attempt_unpaid unreferenced (attempts ▸ member))
  · intro attempt member unproven
    have loaded : attempt ∈ loadBookAttempts isBolt11 books := attempts ▸ member
    have unpaid := not_or.mp (attempt_unpaid unreferenced loaded)
    have status : attempt.status = "PENDING" ∨ attempt.status = "FAILED" :=
      unproven.elim (·.2) fun failed => .inr failed.1
    exact fences _ _ (.inr (mem_unwitnessedAttempts loaded status (not_not.mp unpaid.2)))
  · show Marked none (if unwitnessedAttempts books = [] then "fresh" else "parked")
    split
    · exact .inl rfl
    · exact .inr rfl
  · intro book member _
    rw [← sameInvoices] at member
    exact member

end Lnrent.LegacyImport
