/-
**Whether the repair of an import converges.** Pass 3 rewrites the invoices the map knows better and
analyses the books once more; a row it rewrote may be one the second analysis would delete.

* `Judged` — the verdicts on an invoice of a run that refuses nothing;
* `repairInvoice_at`, `refreshWindow_at` — each statement changes one row;
* `repairs_spec`, `refreshes_spec` — all of them, in the order of the table;
* `Convergent` — **when the second analysis is clean**; `Insertable` — when the file's rows fit into
  the tables; `repair_converges` — the run commits exactly then.
-/

import Lnrent.Import.Coverage

namespace Lnrent.LegacyImport

variable {backend : Backend} {now : ℤ}

/-! ### The verdicts -/

/-- **The verdict on an invoice, where it is no refusal.** -/
inductive Judged (receive : List ReceiveRow) (refunds : List RefundRow) (now : ℤ)
    (book : BookInvoice) : Verdict → Prop
  | reap (eligible : ReapEligible refunds now book)
      (closed : ∀ map ∈ effectiveByExternal receive book.externalId, map.status = "CANCELED") :
      Judged receive refunds now book (.reap book.id)
  | drifted {map : ReceiveRow} (found : effectiveByExternal receive book.externalId = some map)
      (open_ : ¬ book.Settled) (kept : ¬ (map.status = "CANCELED" ∧ ReapEligible refunds now book))
      (same : map.invoiceId = book.id) (disagrees : Disagrees book map) :
      Judged receive refunds now book (.disagreement ⟨book, map, true⟩)
  | replaced {map : ReceiveRow} (found : effectiveByExternal receive book.externalId = some map)
      (open_ : ¬ book.Settled) (live : map.status ≠ "CANCELED") (other : map.invoiceId ≠ book.id) :
      Judged receive refunds now book (.disagreement ⟨book, map, false⟩)
  | moved {map : ReceiveRow} (found : effectiveByExternal receive book.externalId = some map)
      (open_ : ¬ book.Settled) (kept : ¬ (map.status = "CANCELED" ∧ ReapEligible refunds now book))
      (same : map.invoiceId = book.id) (agrees : ¬ Disagrees book map)
      (window : book.expiresAt ≠ some map.expiresAt) :
      Judged receive refunds now book (.refreshExpiry book.externalId map.expiresAt)
  | covered {map : ReceiveRow} (found : effectiveByExternal receive book.externalId = some map)
      (kept : ¬ (map.status = "CANCELED" ∧ ReapEligible refunds now book))
      (same : map.invoiceId = book.id) (agrees : ¬ Disagrees book map)
      (window : book.Settled ∨ book.expiresAt = some map.expiresAt) :
      Judged receive refunds now book .covered

theorem judgeInvoice_judged {receive : List ReceiveRow} {refunds : List RefundRow}
    {book : BookInvoice} (accepted : (judgeInvoice receive refunds now book).toRefuse = none) :
    Judged receive refunds now book (judgeInvoice receive refunds now book) := by
  unfold judgeInvoice at accepted ⊢
  cases found : effectiveByExternal receive book.externalId with
  | none =>
      simp only [found] at accepted ⊢
      by_cases eligible : ReapEligible refunds now book
      · rw [if_pos eligible]
        exact .reap eligible (by rw [found]; exact nofun)
      · rw [if_neg eligible] at accepted
        cases accepted
  | some map =>
      simp only [found] at accepted ⊢
      by_cases reap : map.status = "CANCELED" ∧ ReapEligible refunds now book
      · rw [if_pos reap]
        refine .reap reap.2 fun other found' => ?_
        cases found.symm.trans found'
        exact reap.1
      rw [if_neg reap] at accepted ⊢
      by_cases elsewhere : map.status = "CANCELED" ∧ map.invoiceId ≠ book.id
      · rw [if_pos elsewhere] at accepted
        cases accepted
      rw [if_neg elsewhere] at accepted ⊢
      by_cases same : map.invoiceId = book.id
      · rw [if_pos same] at accepted ⊢
        by_cases disagrees : Disagrees book map
        · rw [if_pos disagrees] at accepted ⊢
          by_cases settled : book.Settled
          · rw [if_pos settled] at accepted
            cases accepted
          · rw [if_neg settled]
            exact .drifted found settled reap same disagrees
        · rw [if_neg disagrees]
          by_cases window : ¬ book.Settled ∧ book.expiresAt ≠ some map.expiresAt
          · rw [if_pos window]
            exact .moved found window.1 reap same disagrees window.2
          · rw [if_neg window]
            rw [not_and_or, not_not, not_not] at window
            exact .covered found reap same disagrees window
      · rw [if_neg same] at accepted ⊢
        by_cases settled : book.Settled
        · rw [if_pos settled] at accepted
          cases accepted
        rw [if_neg settled] at accepted ⊢
        by_cases shape : map.status ∉ ["OPEN", "PAID", "PAID_UNRECOVERED"]
        · rw [if_pos shape] at accepted
          cases accepted
        · rw [if_neg shape]
          exact .replaced found settled (fun canceled => elsewhere ⟨canceled, same⟩) same

/-- The verdict on a row; other backends' rows have none. -/
def judge (backend : Backend) (legacy : Legacy) (refunds : List RefundRow) (now : ℤ)
    (book : BookInvoice) : Verdict :=
  if backend.owns book.id then judgeInvoice legacy.receive refunds now book else .covered

theorem effective_externalId {receive : List ReceiveRow} {externalId : String} {map : ReceiveRow}
    (found : effectiveByExternal receive externalId = some map) : map.externalId = externalId := by
  simpa using List.find?_some found

/-- The parts of a plan that concern invoices come of the rows in the order of the table. -/
theorem plan_part {β : Type} (isBolt11 : String → Bool) (legacy : Legacy) (books : Books)
    (part : Verdict → Option β) (covered : part .covered = none)
    (refused : ∀ refusal, part (.refuse refusal) = none)
    (stamped : ∀ table id, part (.stamp table id) = none) :
    (verdicts isBolt11 backend legacy books now).filterMap part =
      books.invoices.rows.filterMap fun book => part (judge backend legacy books.refunds now book) := by
  have timers : (legacy.timers.map (judgeTimer legacy.receive)).filterMap part = [] := by
    rw [List.filterMap_map, List.filterMap_eq_nil_iff]
    intro timer _
    simp only [Function.comp_apply, judgeTimer]
    split
    · exact covered
    · exact refused _
  have attempts : ((loadBookAttempts isBolt11 books).map (judgeAttempt legacy.pay)).filterMap part =
      [] := by
    rw [List.filterMap_map, List.filterMap_eq_nil_iff]
    intro attempt _
    simp only [Function.comp_apply, judgeAttempt]
    split <;> split_ifs <;> first | exact covered | exact refused _ | exact stamped _ _
  unfold verdicts loadBookInvoices
  rw [List.filterMap_append, List.filterMap_append, timers, attempts, List.append_nil,
    List.append_nil, List.filterMap_map, List.filterMap_filter]
  refine List.filterMap_congr fun book _ => ?_
  unfold judge
  split
  · rfl
  · exact covered.symm

/-! ### One statement, one row -/

/-- An update that only one row of the list meets. -/
theorem map_ite_only {ρ : Type} (meets : ρ → Prop) [DecidablePred meets] (change : ρ → ρ)
    {before after : List ρ} (row : ρ) (apart : ∀ other ∈ before ++ after, ¬ meets other) :
    (before ++ row :: after).map (fun other => if meets other then change other else other) =
      before ++ (if meets row then change row else row) :: after := by
  have same : ∀ part : List ρ, (∀ other ∈ part, ¬ meets other) →
      part.map (fun other => if meets other then change other else other) = part := by
    intro part none_
    conv_rhs => rw [← List.map_id part]
    exact List.map_congr_left fun other member => if_neg (none_ other member)
  rw [List.map_append, List.map_cons, same before fun other member => apart other
    (List.mem_append_left _ member), same after fun other member => apart other
    (List.mem_append_right _ member)]

theorem update_of_rows {invoices : Invoices} {change : BookInvoice → BookInvoice}
    {rows : List BookInvoice} (changed : invoices.rows.map change = rows) :
    invoices.update change =
      if unique : (rows.map (·.id)).Nodup then .ok ⟨rows, unique⟩ else .error .constraint := by
  subst changed
  rfl

section One

variable {before after : List BookInvoice} {book : BookInvoice} {books : Books}

/-- Only the row of the external id is repairable under it. -/
theorem not_repairable_of_apart
    (apart : ∀ other ∈ before ++ after, other.externalId ≠ book.externalId) :
    ∀ other ∈ before ++ after, ¬ other.Repairable book.externalId :=
  fun other member repairable => apart other member repairable.1

theorem repairable_iff (open_ : ¬ book.Settled) :
    book.Repairable book.externalId ↔ book.status ≠ none := by
  unfold BookInvoice.Settled at open_
  rw [not_or, not_not] at open_
  exact ⟨fun repairable => repairable.2.1, fun known => ⟨rfl, known, open_⟩⟩

/-- **`repair_invoice`** rewrites the row of the external id; it fails where the row has no status and
where the new id is taken. -/
theorem repairInvoice_at {map : ReceiveRow} (now : ℤ) (rows : books.invoices.rows = before ++ book :: after)
    (apart : ∀ other ∈ before ++ after, other.externalId ≠ book.externalId)
    (subject : map.externalId = book.externalId) (open_ : ¬ book.Settled) (result : Books) :
    repairInvoice now books map = .ok result ↔
      book.status ≠ none ∧ ∃ unique : ((before ++ rewrite map book :: after).map (·.id)).Nodup,
        result = { books with
          invoices := ⟨before ++ rewrite map book :: after, unique⟩
          journal := books.journal ++ [⟨map.externalId, map.invoiceId, now⟩] } := by
  have none_ := not_repairable_of_apart apart
  have counted : books.invoices.rows.countP (fun other => decide (other.Repairable map.externalId)) =
      if book.status ≠ none then 1 else 0 := by
    have zero : ∀ part : List BookInvoice, (∀ other ∈ part, ¬ other.Repairable book.externalId) →
        part.countP (fun other => decide (other.Repairable book.externalId)) = 0 := by
      intro part none_
      rw [List.countP_eq_zero]
      exact fun other member => by simpa using none_ other member
    rw [rows, subject, List.countP_append, List.countP_cons,
      zero before fun other member => none_ other (List.mem_append_left _ member),
      zero after fun other member => none_ other (List.mem_append_right _ member)]
    simp only [repairable_iff open_, zero_add, decide_eq_true_eq]
  have changed := map_ite_only (fun other => other.Repairable map.externalId) (rewrite map)
    book (subject ▸ none_)
  rw [← rows] at changed
  unfold repairInvoice
  rw [update_of_rows changed, counted, subject]
  simp only [repairable_iff open_]
  by_cases known : book.status ≠ none
  · simp only [if_pos known]
    split
    · rename_i unique
      constructor
      · intro done
        cases done
        exact ⟨known, unique, rfl⟩
      · rintro ⟨-, _, rfl⟩
        rfl
    · rename_i taken
      refine ⟨fun done => ?_, fun done => absurd done.2.1 taken⟩
      cases done
  · simp only [if_neg known]
    refine ⟨fun done => ?_, fun done => absurd done.1 known⟩
    obtain ⟨_, _, done⟩ := bind_eq_ok.mp done
    cases done

/-- The window of a row, where it can be written. -/
def withWindow (book : BookInvoice) (expiresAt : ℤ) : BookInvoice :=
  if book.status ≠ none then { book with expiresAt := some expiresAt } else book

/-- **The refresh** writes one window. -/
theorem refreshWindow_at (expiresAt : ℤ) (rows : books.invoices.rows = before ++ book :: after)
    (apart : ∀ other ∈ before ++ after, other.externalId ≠ book.externalId)
    (open_ : ¬ book.Settled) :
    ∃ unique : ((before ++ withWindow book expiresAt :: after).map (·.id)).Nodup,
      refreshWindow books (book.externalId, expiresAt) =
        .ok { books with invoices := ⟨before ++ withWindow book expiresAt :: after, unique⟩ } := by
  have changed := map_ite_only (fun other => other.Repairable book.externalId)
    (fun other => { other with expiresAt := some expiresAt }) book
    (not_repairable_of_apart apart)
  simp only [repairable_iff open_] at changed
  have unique : ((before ++ withWindow book expiresAt :: after).map (·.id)).Nodup := by
    have ids := books.invoices.unique
    have same : (withWindow book expiresAt).id = book.id := by
      unfold withWindow
      split <;> rfl
    rw [rows, List.map_append, List.map_cons] at ids
    rw [List.map_append, List.map_cons, same]
    exact ids
  refine ⟨unique, ?_⟩
  unfold withWindow at unique ⊢
  unfold refreshWindow
  rw [← rows] at changed
  rw [update_of_rows changed, dif_pos unique]
  rfl

end One

/-! ### All of them -/

section All

variable (verdict : BookInvoice → Verdict)

/-- What is known of the verdicts on rows that are rewritten. -/
structure Sensible : Prop where
  drifted : ∀ book mismatch, verdict book = .disagreement mismatch →
    mismatch.map.externalId = book.externalId ∧ ¬ book.Settled
  moved : ∀ book externalId expiresAt, verdict book = .refreshExpiry externalId expiresAt →
    externalId = book.externalId ∧ ¬ book.Settled

/-- The row after the repairs. -/
def repaired (book : BookInvoice) : BookInvoice :=
  match verdict book with
  | .disagreement mismatch => rewrite mismatch.map book
  | _ => book

/-- The row after the refreshes. -/
def settledRow (book : BookInvoice) : BookInvoice :=
  match verdict book with
  | .disagreement mismatch => rewrite mismatch.map book
  | .refreshExpiry _ expiresAt => withWindow book expiresAt
  | _ => book

/-- The maps the rows are rewritten to, in the order of the rows. -/
def mapsOf (rows : List BookInvoice) : List ReceiveRow :=
  rows.filterMap fun book => (verdict book).toAsk.map (·.map)

def windowsOf (rows : List BookInvoice) : List (String × ℤ) :=
  rows.filterMap fun book => (verdict book).toRefresh

@[simp]
theorem repaired_externalId (book : BookInvoice) :
    (repaired verdict book).externalId = book.externalId := by
  unfold repaired
  split <;> rfl

@[simp]
theorem withWindow_externalId (book : BookInvoice) (expiresAt : ℤ) :
    (withWindow book expiresAt).externalId = book.externalId := by
  unfold withWindow
  split <;> rfl

@[simp]
theorem withWindow_id (book : BookInvoice) (expiresAt : ℤ) :
    (withWindow book expiresAt).id = book.id := by
  unfold withWindow
  split <;> rfl

@[simp]
theorem settledRow_externalId (book : BookInvoice) :
    (settledRow verdict book).externalId = book.externalId := by
  unfold settledRow
  split
  · rfl
  · exact withWindow_externalId _ _
  · rfl

/-- **The rows can be rewritten one by one**: each has a status, and its new id is, at its turn, no
other row's. -/
structure Placeable (done rows : List BookInvoice) : Prop where
  statuses : ∀ book ∈ rows, ∀ mismatch, verdict book = .disagreement mismatch → book.status ≠ none
  apart : ∀ one ∈ done, ∀ two ∈ rows, (repaired verdict two).id ≠ one.id
  inTurn : rows.Pairwise fun one two =>
    (repaired verdict one).id ≠ two.id ∧ (repaired verdict two).id ≠ (repaired verdict one).id

theorem placeable_nil (done : List BookInvoice) : Placeable verdict done [] where
  statuses _ member := absurd member List.not_mem_nil
  apart _ _ _ member := absurd member List.not_mem_nil
  inTurn := .nil

theorem placeable_cons {done rows : List BookInvoice} {book : BookInvoice} :
    Placeable verdict done (book :: rows) ↔
      (∀ mismatch, verdict book = .disagreement mismatch → book.status ≠ none) ∧
        (∀ one ∈ done ++ rows, (repaired verdict book).id ≠ one.id) ∧
          Placeable verdict (done ++ [repaired verdict book]) rows := by
  constructor
  · rintro ⟨statuses, apart, inTurn⟩
    obtain ⟨first, inTurn⟩ := List.pairwise_cons.mp inTurn
    refine ⟨statuses book List.mem_cons_self, fun one member => ?_, ?_⟩
    · rcases List.mem_append.mp member with member | member
      · exact apart one member book List.mem_cons_self
      · exact (first one member).1
    · refine ⟨fun other member => statuses other (List.mem_cons_of_mem _ member),
        fun one member two later => ?_, inTurn⟩
      rcases List.mem_append.mp member with member | member
      · exact apart one member two (List.mem_cons_of_mem _ later)
      · rw [List.mem_singleton.mp member]
        exact (first two later).2
  · rintro ⟨status, here, statuses, apart, inTurn⟩
    refine ⟨fun other member => ?_, fun one member two later => ?_,
      List.pairwise_cons.mpr ⟨fun two later => ⟨?_, ?_⟩, inTurn⟩⟩
    · rcases List.mem_cons.mp member with rfl | member
      · exact status
      · exact statuses other member
    · rcases List.mem_cons.mp later with rfl | later
      · exact here one (List.mem_append_left _ member)
      · exact apart one (List.mem_append_left _ member) two later
    · exact here two (List.mem_append_right _ later)
    · exact apart _ (List.mem_append_right _ (List.mem_singleton_self _)) two later

theorem nodup_replace {before after : List BookInvoice} {book other : BookInvoice}
    (unique : ((before ++ book :: after).map (·.id)).Nodup) :
    ((before ++ other :: after).map (·.id)).Nodup ↔ ∀ one ∈ before ++ after, other.id ≠ one.id := by
  rw [List.map_append, List.map_cons, List.nodup_middle, List.nodup_cons] at unique ⊢
  rw [← List.map_append] at unique ⊢
  constructor
  · rintro ⟨absent, -⟩ one member same
    exact absent (List.mem_map.mpr ⟨one, member, same.symm⟩)
  · intro apart
    refine ⟨fun member => ?_, unique.2⟩
    obtain ⟨one, member, same⟩ := List.mem_map.mp member
    exact apart one member same.symm

/-- A row that is not rewritten is passed over. -/
theorem placeable_skip {done rows : List BookInvoice} {book : BookInvoice}
    (unique : ((done ++ book :: rows).map (·.id)).Nodup)
    (kept : ∀ mismatch, verdict book ≠ .disagreement mismatch) :
    Placeable verdict done (book :: rows) ↔ Placeable verdict (done ++ [book]) rows := by
  have same : repaired verdict book = book := by
    unfold repaired
    split
    · rename_i mismatch judged
      exact absurd judged (kept mismatch)
    · rfl
  rw [placeable_cons, same]
  exact ⟨fun known => known.2.2, fun placeable =>
    ⟨fun mismatch judged => absurd judged (kept mismatch), (nodup_replace unique).mp unique, placeable⟩⟩

/-- The entries of the journal. -/
def entriesOf (now : ℤ) (maps : List ReceiveRow) : List RepairEntry :=
  maps.map fun map => ⟨map.externalId, map.invoiceId, now⟩

/-- The external ids of the other rows. -/
theorem apart_of_distinct {before after : List BookInvoice} {book : BookInvoice}
    (distinct : ((before ++ book :: after).map (·.externalId)).Nodup) :
    ∀ other ∈ before ++ after, other.externalId ≠ book.externalId := by
  rw [List.map_append, List.map_cons, List.nodup_middle, List.nodup_cons, ← List.map_append]
    at distinct
  exact fun other member same => distinct.1 (List.mem_map.mpr ⟨other, member, same⟩)

/-- The rows of the table and the entries of the journal are these. -/
def Rewritten (books : Books) (rows : List BookInvoice) (entries : List RepairEntry)
    (result : Books) : Prop :=
  ∃ unique : (rows.map (·.id)).Nodup,
    result = { books with invoices := ⟨rows, unique⟩, journal := books.journal ++ entries }

theorem Rewritten.then {books middle result : Books} {rows rows' : List BookInvoice}
    {entries entries' : List RepairEntry} (first : Rewritten books rows entries middle) :
    Rewritten middle rows' entries' result ↔ Rewritten books rows' (entries ++ entries') result := by
  obtain ⟨_, rfl⟩ := first
  unfold Rewritten
  rw [List.append_assoc]

theorem rewritten_self {books result : Books} {rows : List BookInvoice}
    (found : books.invoices.rows = rows) : Rewritten books rows [] result ↔ result = books := by
  subst found
  unfold Rewritten
  rw [List.append_nil]
  exact ⟨fun ⟨_, same⟩ => same, fun same => ⟨books.invoices.unique, same⟩⟩

theorem Rewritten.unique {books one two : Books} {rows : List BookInvoice}
    {entries : List RepairEntry} (first : Rewritten books rows entries one)
    (second : Rewritten books rows entries two) : one = two := by
  obtain ⟨_, rfl⟩ := first
  obtain ⟨_, rfl⟩ := second
  rfl

/-- A refresh keeps the id. -/
theorem settledRow_id : (fun book : BookInvoice => book.id) ∘ settledRow verdict =
    (fun book => book.id) ∘ repaired verdict := by
  funext book
  simp only [Function.comp_apply, settledRow, repaired]
  split <;> simp_all

variable {verdict}

/-- **The repairs succeed exactly on placeable rows**, and rewrite each of them. -/
theorem repairs_spec (now : ℤ) (sensible : Sensible verdict) (rows : List BookInvoice) :
    ∀ (done : List BookInvoice) (books : Books), books.invoices.rows = done ++ rows →
      ((done ++ rows).map (·.externalId)).Nodup → ∀ result,
        ((mapsOf verdict rows).foldlM (repairInvoice now) books = .ok result ↔
          Placeable verdict done rows ∧ Rewritten books (done ++ rows.map (repaired verdict))
            (entriesOf now (mapsOf verdict rows)) result) := by
  induction rows with
  | nil =>
      intro done books found _ result
      show (pure books = Except.ok result) ↔ _ ∧ Rewritten books (done ++ []) [] result
      rw [rewritten_self found]
      constructor
      · intro same
        exact ⟨placeable_nil verdict done, (Except.ok.inj same).symm⟩
      · rintro ⟨-, rfl⟩
        rfl
  | cons book rows ih =>
      intro done books found distinct result
      have ids : ((done ++ book :: rows).map (·.id)).Nodup := found ▸ books.invoices.unique
      by_cases rewritten : ∃ mismatch, verdict book = .disagreement mismatch
      · obtain ⟨mismatch, judged⟩ := rewritten
        obtain ⟨subject, open_⟩ := sensible.drifted book mismatch judged
        have now_ : repaired verdict book = rewrite mismatch.map book := by
          simp only [repaired, judged]
        have maps : mapsOf verdict (book :: rows) = mismatch.map :: mapsOf verdict rows := by
          simp only [mapsOf, List.filterMap_cons, judged, Verdict.toAsk, Option.map_some]
        have step := repairInvoice_at now found (apart_of_distinct distinct) subject open_
        have apart : ((done ++ [rewrite mismatch.map book] ++ rows).map (·.externalId)).Nodup := by
          simpa [rewrite] using distinct
        rw [maps, List.foldlM_cons, bind_eq_ok, placeable_cons, List.map_cons, now_]
        constructor
        · rintro ⟨middle, first, rest⟩
          obtain ⟨status, unique, rfl⟩ := (step _).mp first
          obtain ⟨placeable, final⟩ := (ih (done ++ [rewrite mismatch.map book]) _ (by simp) apart _).mp rest
          refine ⟨⟨fun _ _ => status, (nodup_replace ids).mp unique, placeable⟩, ?_⟩
          have one : Rewritten books (done ++ rewrite mismatch.map book :: rows)
              [⟨mismatch.map.externalId, mismatch.map.invoiceId, now⟩] _ := ⟨unique, rfl⟩
          have all := one.then.mp final
          rw [List.append_assoc] at all
          exact all
        · rintro ⟨⟨status, here, placeable⟩, final⟩
          have unique := (nodup_replace ids).mpr here
          refine ⟨_, (step _).mpr ⟨status mismatch judged, unique, rfl⟩, ?_⟩
          refine (ih (done ++ [rewrite mismatch.map book]) _ (by simp) apart _).mpr ⟨placeable, ?_⟩
          have one : Rewritten books (done ++ rewrite mismatch.map book :: rows)
              [⟨mismatch.map.externalId, mismatch.map.invoiceId, now⟩] _ := ⟨unique, rfl⟩
          refine one.then.mpr ?_
          rw [List.append_assoc]
          exact final
      · have kept : ∀ mismatch, verdict book ≠ .disagreement mismatch :=
          fun mismatch judged => rewritten ⟨mismatch, judged⟩
        have maps : mapsOf verdict (book :: rows) = mapsOf verdict rows := by
          unfold mapsOf
          rw [List.filterMap_cons_none]
          cases judged : verdict book with
          | disagreement mismatch => exact absurd judged (kept mismatch)
          | _ => rfl
        have same : repaired verdict book = book := by
          unfold repaired
          split
          · rename_i mismatch judged
            exact absurd judged (kept mismatch)
          · rfl
        have here : books.invoices.rows = done ++ [book] ++ rows := by simpa using found
        have apart : ((done ++ [book] ++ rows).map (·.externalId)).Nodup := by simpa using distinct
        rw [maps, placeable_skip verdict ids kept, ih (done ++ [book]) books here apart,
          List.map_cons, same, List.append_assoc, List.singleton_append]

/-- **The refreshes succeed** and write each window. -/
theorem refreshes_spec (sensible : Sensible verdict) (rows : List BookInvoice) :
    ∀ (done : List BookInvoice) (books : Books),
      books.invoices.rows = done ++ rows.map (repaired verdict) →
      ((done ++ rows).map (·.externalId)).Nodup →
        ∃ result, (windowsOf verdict rows).foldlM refreshWindow books = .ok result ∧
          Rewritten books (done ++ rows.map (settledRow verdict)) [] result := by
  induction rows with
  | nil =>
      intro done books found _
      exact ⟨books, rfl, (rewritten_self found).mpr rfl⟩
  | cons book rows ih =>
      intro done books found distinct
      have apart : ((done ++ [settledRow verdict book] ++ rows).map (·.externalId)).Nodup := by
        simpa using distinct
      by_cases moved : ∃ externalId expiresAt, verdict book = .refreshExpiry externalId expiresAt
      · obtain ⟨externalId, expiresAt, judged⟩ := moved
        obtain ⟨rfl, open_⟩ := sensible.moved book externalId expiresAt judged
        have before : repaired verdict book = book := by
          simp only [repaired, judged]
        have after : settledRow verdict book = withWindow book expiresAt := by
          simp only [settledRow, judged]
        have windows : windowsOf verdict (book :: rows) =
            (book.externalId, expiresAt) :: windowsOf verdict rows := by
          simp only [windowsOf, List.filterMap_cons, judged, Verdict.toRefresh]
        have others : ((done ++ book :: rows.map (repaired verdict)).map (·.externalId)).Nodup := by
          simpa [Function.comp_def] using distinct
        rw [List.map_cons, before] at found
        obtain ⟨unique, first⟩ := refreshWindow_at expiresAt found
          (apart_of_distinct others) open_
        obtain ⟨result, rest, final⟩ := ih (done ++ [settledRow verdict book])
          { books with invoices := ⟨done ++ withWindow book expiresAt :: rows.map (repaired verdict),
            unique⟩ } (by simp [after]) apart
        refine ⟨result, ?_, ?_⟩
        · rw [windows, List.foldlM_cons, bind_eq_ok]
          exact ⟨_, first, rest⟩
        · have one : Rewritten books (done ++ withWindow book expiresAt :: rows.map (repaired verdict))
              [] { books with invoices := ⟨done ++ withWindow book expiresAt ::
                rows.map (repaired verdict), unique⟩ } := ⟨unique, by rw [List.append_nil]⟩
          have all := one.then.mp final
          rw [List.append_assoc] at all
          exact all
      · have same : repaired verdict book = settledRow verdict book := by
          unfold repaired settledRow
          cases judged : verdict book with
          | refreshExpiry externalId expiresAt => exact absurd ⟨_, _, judged⟩ moved
          | _ => rfl
        have windows : windowsOf verdict (book :: rows) = windowsOf verdict rows := by
          unfold windowsOf
          rw [List.filterMap_cons_none]
          cases judged : verdict book with
          | refreshExpiry externalId expiresAt => exact absurd ⟨_, _, judged⟩ moved
          | _ => rfl
        have here : books.invoices.rows =
            done ++ [settledRow verdict book] ++ rows.map (repaired verdict) := by
          simpa [same] using found
        obtain ⟨result, rest, final⟩ := ih (done ++ [settledRow verdict book]) books here apart
        rw [List.append_assoc] at final
        exact ⟨result, windows ▸ rest, final⟩

end All

/-! ### A second time -/

@[simp]
theorem rewrite_settled (map : ReceiveRow) (book : BookInvoice) :
    (rewrite map book).Settled ↔ book.Settled := by
  unfold BookInvoice.Settled rewrite
  split
  · rename_i expired
    simp [expired]
  · rfl

/-- Rewriting a row twice is rewriting it once. -/
theorem rewrite_rewrite (map : ReceiveRow) (book : BookInvoice) :
    rewrite map (rewrite map book) = rewrite map book := by
  unfold rewrite
  by_cases expired : book.status = some "EXPIRED"
  · simp [expired]
  · simp [expired]

theorem rewrite_status {map : ReceiveRow} {book : BookInvoice} (known : book.status ≠ none) :
    (rewrite map book).status ≠ none := by
  unfold rewrite
  dsimp only
  split
  · exact nofun
  · exact known

theorem toAsk_eq_some {verdict : Verdict} {mismatch : Mismatch} :
    verdict.toAsk = some mismatch ↔ verdict = .disagreement mismatch := by
  cases verdict <;> simp [Verdict.toAsk]

theorem toRefresh_eq_some {verdict : Verdict} {externalId : String} {expiresAt : ℤ} :
    verdict.toRefresh = some (externalId, expiresAt) ↔ verdict = .refreshExpiry externalId expiresAt := by
  cases verdict <;> simp [Verdict.toRefresh]

theorem withWindow_withWindow (book : BookInvoice) (expiresAt : ℤ) :
    withWindow (withWindow book expiresAt) expiresAt = withWindow book expiresAt := by
  unfold withWindow
  by_cases known : book.status ≠ none
  · simp [known]
  · simp [known]

@[simp]
theorem withWindow_settled (book : BookInvoice) (expiresAt : ℤ) :
    (withWindow book expiresAt).Settled ↔ book.Settled := by
  unfold withWindow
  split <;> rfl

theorem invoices_eq {one two : Invoices} (same : one.rows = two.rows) : one = two := by
  cases one
  cases two
  cases same
  rfl

/-- A repair of rows that have it already leaves them. -/
theorem repairs_again (now : ℤ) (maps : List ReceiveRow) :
    ∀ books : Books, (books.invoices.rows.map (·.externalId)).Nodup →
      (∀ map ∈ maps, ∃ book ∈ books.invoices.rows, map.externalId = book.externalId ∧
        ¬ book.Settled ∧ book.status ≠ none ∧ rewrite map book = book) →
      maps.foldlM (repairInvoice now) books =
        .ok { books with journal := books.journal ++ entriesOf now maps } := by
  induction maps with
  | nil =>
      intro books _ _
      show Except.ok books = _
      rw [entriesOf, List.map_nil, List.append_nil]
  | cons map maps ih =>
      intro books distinct placed
      obtain ⟨book, member, subject, open_, status, same⟩ := placed map List.mem_cons_self
      obtain ⟨before, after, rows⟩ := List.append_of_mem member
      have unique := books.invoices.unique
      rw [rows] at unique distinct
      have first := (repairInvoice_at now rows (apart_of_distinct distinct) subject open_ _).mpr
        ⟨status, by rw [same]; exact unique, rfl⟩
      have kept : (⟨before ++ rewrite map book :: after, by rw [same]; exact unique⟩ : Invoices) =
          books.invoices := invoices_eq (by simp only [same, rows])
      rw [kept] at first
      have rest := ih { books with
        journal := books.journal ++ [⟨map.externalId, map.invoiceId, now⟩] }
        (by rw [rows]; exact distinct) fun other later => placed other (List.mem_cons_of_mem _ later)
      rw [List.foldlM_cons, bind_eq_ok]
      refine ⟨_, first, rest.trans ?_⟩
      simp only [entriesOf, List.map_cons, List.append_assoc, List.singleton_append]

/-- A refresh likewise. -/
theorem refreshes_again (windows : List (String × ℤ)) :
    ∀ books : Books, (books.invoices.rows.map (·.externalId)).Nodup →
      (∀ window ∈ windows, ∃ book ∈ books.invoices.rows, window.1 = book.externalId ∧
        ¬ book.Settled ∧ withWindow book window.2 = book) →
      windows.foldlM refreshWindow books = .ok books := by
  induction windows with
  | nil => exact fun _ _ _ => rfl
  | cons window windows ih =>
      intro books distinct placed
      obtain ⟨book, member, subject, open_, same⟩ := placed window List.mem_cons_self
      obtain ⟨before, after, rows⟩ := List.append_of_mem member
      have apart := distinct
      rw [rows] at apart
      obtain ⟨unique, first⟩ := refreshWindow_at window.2 rows
        (apart_of_distinct apart) open_
      have kept : (⟨before ++ withWindow book window.2 :: after, unique⟩ : Invoices) =
          books.invoices := invoices_eq (by simp only [same, rows])
      rw [← subject, kept] at first
      rw [List.foldlM_cons, bind_eq_ok]
      exact ⟨books, first, ih books distinct fun other later =>
        placed other (List.mem_cons_of_mem _ later)⟩

/-! ### The condition -/

section Condition

variable (backend : Backend) (legacy : Legacy) (refunds : List RefundRow) (now : ℤ)

/-- The plan deletes the row. -/
def Doomed (book : BookInvoice) : Prop :=
  backend.owns book.id = true ∧ ReapEligible refunds now book ∧
    ∀ map ∈ effectiveByExternal legacy.receive book.externalId, map.status = "CANCELED"

instance (book : BookInvoice) : Decidable (Doomed backend legacy refunds now book) :=
  inferInstanceAs (Decidable (_ ∧ _ ∧ _))

/-- The id of a row once it is repaired. -/
def repairedId (book : BookInvoice) : String :=
  if backend.owns book.id = true ∧ ¬ book.Settled then
    (effectiveByExternal legacy.receive book.externalId).elim book.id (·.invoiceId)
  else book.id

/-- The map row differs in something a repair writes. -/
def Drifted (book : BookInvoice) (map : ReceiveRow) : Prop :=
  map.invoiceId ≠ book.id ∨ Disagrees book map ∨ book.expiresAt ≠ some map.expiresAt

end Condition

/-- The rows the plan does not delete. -/
def keptRows (backend : Backend) (legacy : Legacy) (books : Books) (now : ℤ) : List BookInvoice :=
  books.invoices.rows.filter fun book => ¬ Doomed backend legacy books.refunds now book

theorem mem_keptRows {legacy : Legacy} {books : Books} {book : BookInvoice} :
    book ∈ keptRows backend legacy books now ↔
      book ∈ books.invoices.rows ∧ ¬ Doomed backend legacy books.refunds now book := by
  simp [keptRows]

/-- **When the repair converges.** -/
structure Convergent (backend : Backend) (legacy : Legacy) (books : Books) (now : ℤ) : Prop where
  /-- A row to be written to has a status. -/
  statuses : ∀ book ∈ books.invoices.rows, backend.owns book.id = true → ¬ book.Settled →
    ¬ Doomed backend legacy books.refunds now book →
      ∀ map ∈ effectiveByExternal legacy.receive book.externalId, Drifted book map →
        book.status ≠ none
  /-- A repaired id is not the id of a later row, nor the repaired id of another one. -/
  inTurn : (keptRows backend legacy books now).Pairwise fun one two =>
    repairedId backend legacy one ≠ two.id ∧ repairedId backend legacy two ≠ repairedId backend legacy one
  /-- The map's window does not make a canceled row old enough to be deleted. -/
  windows : ∀ book ∈ books.invoices.rows, backend.owns book.id = true →
    ∀ map ∈ effectiveByExternal legacy.receive book.externalId, map.status = "CANCELED" →
      map.invoiceId = book.id → ¬ Disagrees book map → ¬ ReapEligible books.refunds now book →
        ¬ ReapEligible books.refunds now { book with expiresAt := some map.expiresAt }

/-- What pass 3 deletes. -/
def preReap (plan : Plan) (books : Books) : Books :=
  { books with invoices := plan.reap.foldl Invoices.delete books.invoices }

/-- The repairs and the refreshes of pass 3. -/
def repair (plan : Plan) (now : ℤ) (books : Books) : Except Failure Books := do
  let repaired ← (plan.mismatches.map (·.map)).foldlM (repairInvoice now) books
  plan.refreshExpiry.foldlM refreshWindow repaired

/-- **The repair converges**: it is made, a second analysis finds nothing, and a second repair changes
nothing but the journal. -/
def Converges (isBolt11 : String → Bool) (backend : Backend) (legacy : Legacy) (books : Books)
    (now : ℤ) : Prop :=
  let plan := analyse isBolt11 backend legacy books now
  ∃ result, repair plan now (preReap plan books) = .ok result ∧
    (analyse isBolt11 backend legacy result now).Clean ∧
      ∃ journal, repair plan now result = .ok { result with journal }

/-! ### The second verdict on a row -/

section Again

variable {legacy : Legacy} {refunds : List RefundRow} {book : BookInvoice} {map : ReceiveRow}

/-- A row of its own map row, agreeing with it in everything. -/
theorem judge_same (found : effectiveByExternal legacy.receive book.externalId = some map)
    (same : map.invoiceId = book.id) (agrees : ¬ Disagrees book map)
    (window : book.expiresAt = some map.expiresAt) :
    judge backend legacy refunds now book =
      if backend.owns book.id = true ∧ map.status = "CANCELED" ∧ ReapEligible refunds now book then
        .reap book.id
      else .covered := by
  unfold judge
  by_cases owned : backend.owns book.id = true
  · unfold judgeInvoice
    simp [owned, found, same, agrees, window]
  · simp [owned]

theorem judge_rewrite (found : effectiveByExternal legacy.receive book.externalId = some map) :
    judge backend legacy refunds now (rewrite map book) = .covered := by
  have agrees : ¬ Disagrees (rewrite map book) map := by
    simp [Disagrees, rewrite]
  have again : effectiveByExternal legacy.receive (rewrite map book).externalId = some map := found
  rw [judge_same again rfl agrees rfl, if_neg]
  rintro ⟨-, -, expired, -⟩
  unfold rewrite at expired
  dsimp only at expired
  split at expired
  · exact absurd (Option.some.inj expired) (by decide)
  · contradiction

theorem judge_withWindow (found : effectiveByExternal legacy.receive book.externalId = some map)
    (owned : backend.owns book.id = true) (same : map.invoiceId = book.id)
    (agrees : ¬ Disagrees book map) (known : book.status ≠ none) :
    judge backend legacy refunds now (withWindow book map.expiresAt) = .covered ↔
      ¬ (map.status = "CANCELED" ∧
        ReapEligible refunds now { book with expiresAt := some map.expiresAt }) := by
  have written : withWindow book map.expiresAt = { book with expiresAt := some map.expiresAt } :=
    if_pos known
  have again : effectiveByExternal legacy.receive
    ({ book with expiresAt := some map.expiresAt } : BookInvoice).externalId = some map := found
  rw [written, judge_same again same agrees rfl]
  simp only [owned, true_and]
  split
  · rename_i reaped
    exact ⟨nofun, fun kept => absurd reaped kept⟩
  · rename_i kept
    exact ⟨fun _ => kept, fun _ => rfl⟩

end Again

/-! ### The plan and the rows -/

theorem judge_judged {legacy : Legacy} {refunds : List RefundRow} {book : BookInvoice}
    {verdict : Verdict} (judged : judge backend legacy refunds now book = verdict)
    (accepted : verdict.toRefuse = none) (some_ : verdict ≠ .covered) :
    backend.owns book.id = true ∧ Judged legacy.receive refunds now book verdict := by
  unfold judge at judged
  split at judged
  · rename_i owned
    subst judged
    exact ⟨owned, judgeInvoice_judged accepted⟩
  · exact absurd judged.symm some_

theorem judge_sensible (backend : Backend) (legacy : Legacy) (refunds : List RefundRow) (now : ℤ) :
    Sensible (judge backend legacy refunds now) where
  drifted book mismatch judged := by
    cases (judge_judged judged rfl nofun).2 with
    | drifted found open_ kept same disagrees => exact ⟨effective_externalId found, open_⟩
    | replaced found open_ live other => exact ⟨effective_externalId found, open_⟩
  moved book externalId expiresAt judged := by
    cases (judge_judged judged rfl nofun).2 with
    | moved found open_ kept same agrees window => exact ⟨rfl, open_⟩

theorem rows_foldl_delete (ids : List String) :
    ∀ invoices : Invoices,
      (ids.foldl Invoices.delete invoices).rows = invoices.rows.filter (·.id ∉ ids) := by
  induction ids with
  | nil =>
      intro invoices
      simp
  | cons id ids ih =>
      intro invoices
      rw [List.foldl_cons, ih]
      show (invoices.rows.filter _).filter _ = _
      rw [List.filter_filter]
      refine List.filter_congr fun book _ => ?_
      simp [Bool.and_comm]

section Plan

variable {isBolt11 : String → Bool} {legacy : Legacy} {books : Books}
  (accepted : (analyse isBolt11 backend legacy books now).refusal = none)
include accepted

theorem accepted_toRefuse {verdict : Verdict}
    (found : verdict ∈ verdicts isBolt11 backend legacy books now) : verdict.toRefuse = none :=
  List.findSome?_eq_none_iff.mp accepted verdict found

/-- The verdict on a row of the backend. -/
theorem judged_of_owned {book : BookInvoice} (member : book ∈ books.invoices.rows)
    (owned : backend.owns book.id = true) :
    Judged legacy.receive books.refunds now book (judge backend legacy books.refunds now book) := by
  unfold judge
  rw [if_pos owned]
  refine judgeInvoice_judged (accepted_toRefuse accepted ?_)
  refine List.mem_append_left _ (List.mem_append_left _ (List.mem_map.mpr ⟨book, ?_, rfl⟩))
  exact List.mem_filter.mpr ⟨member, owned⟩

theorem doomed_iff {book : BookInvoice} (member : book ∈ books.invoices.rows) :
    Doomed backend legacy books.refunds now book ↔
      judge backend legacy books.refunds now book = .reap book.id := by
  constructor
  · rintro ⟨owned, eligible, closed⟩
    have judged := judged_of_owned accepted member owned
    generalize judge backend legacy books.refunds now book = verdict at judged
    cases judged with
    | reap => rfl
    | drifted found open_ kept same disagrees => exact absurd ⟨closed _ found, eligible⟩ kept
    | replaced found open_ live other => exact absurd (closed _ found) live
    | moved found open_ kept same agrees window => exact absurd ⟨closed _ found, eligible⟩ kept
    | covered found kept same agrees window => exact absurd ⟨closed _ found, eligible⟩ kept
  · intro judged
    obtain ⟨owned, reaps⟩ := judge_judged judged rfl nofun
    cases reaps with
    | reap eligible closed => exact ⟨owned, eligible, closed⟩

/-- **What is left is the rows that are not doomed.** -/
theorem preReap_rows :
    (preReap (analyse isBolt11 backend legacy books now) books).invoices.rows =
      keptRows backend legacy books now := by
  show (List.foldl Invoices.delete _ _).rows = _
  rw [rows_foldl_delete]
  refine List.filter_congr fun book member => ?_
  have planned : book.id ∈ (analyse isBolt11 backend legacy books now).reap ↔
      Doomed backend legacy books.refunds now book := by
    show book.id ∈ List.filterMap _ _ ↔ _
    rw [plan_part isBolt11 legacy books Verdict.toReap rfl (fun _ => rfl) fun _ _ => rfl,
      List.mem_filterMap, doomed_iff accepted member]
    constructor
    · rintro ⟨other, there, reaps⟩
      cases judged : judge backend legacy books.refunds now other with
      | reap id =>
          rw [judged] at reaps
          have same : id = other.id := by
            cases (judge_judged judged rfl nofun).2
            rfl
          have one : other = book := List.inj_on_of_nodup_map books.invoices.unique there member
            (same.symm.trans (Option.some.inj reaps))
          rw [← one, judged, same]
      | _ =>
          rw [judged] at reaps
          cases reaps
    · intro judged
      exact ⟨book, member, by rw [judged]; rfl⟩
  simp only [planned]

/-- A part of the plan, of the rows that are left. -/
theorem plan_part_left {β : Type} (part : Verdict → Option β) (covered : part .covered = none)
    (refused : ∀ refusal, part (.refuse refusal) = none)
    (stamped : ∀ table id, part (.stamp table id) = none) (reaped : ∀ id, part (.reap id) = none) :
    (verdicts isBolt11 backend legacy books now).filterMap part =
      (keptRows backend legacy books now).filterMap
        fun book => part (judge backend legacy books.refunds now book) := by
  rw [plan_part isBolt11 legacy books part covered refused stamped, keptRows, List.filterMap_filter]
  refine List.filterMap_congr fun book member => ?_
  by_cases doomed : Doomed backend legacy books.refunds now book
  · rw [if_neg (by simpa using doomed), (doomed_iff accepted member).mp doomed, reaped]
  · rw [if_pos (by simpa using doomed)]

theorem plan_maps : (analyse isBolt11 backend legacy books now).mismatches.map (·.map) =
    mapsOf (judge backend legacy books.refunds now)
      (keptRows backend legacy books now) := by
  show (List.filterMap _ _).map _ = _
  rw [plan_part_left accepted Verdict.toAsk rfl (fun _ => rfl) (fun _ _ => rfl) fun _ => rfl,
    List.map_filterMap]
  rfl

theorem plan_windows : (analyse isBolt11 backend legacy books now).refreshExpiry =
    windowsOf (judge backend legacy books.refunds now)
      (keptRows backend legacy books now) := by
  show List.filterMap _ _ = _
  exact plan_part_left accepted Verdict.toRefresh rfl (fun _ => rfl) (fun _ _ => rfl) fun _ => rfl

variable (distinct : (books.invoices.rows.map (·.externalId)).Nodup)
include distinct

/-- **The repair**, of the rows that are left. -/
theorem repair_iff (result : Books) :
    let plan := analyse isBolt11 backend legacy books now
    let left := keptRows backend legacy books now
    let verdict := judge backend legacy books.refunds now
    repair plan now (preReap plan books) = .ok result ↔
      Placeable verdict [] left ∧ Rewritten (preReap plan books) (left.map (settledRow verdict))
        (entriesOf now (mapsOf verdict left)) result := by
  intro plan left verdict
  have apart : ((([] : List BookInvoice) ++ left).map (·.externalId)).Nodup :=
    distinct.sublist (List.filter_sublist.map _)
  have rows : (preReap plan books).invoices.rows = [] ++ left := preReap_rows accepted
  have repairs := repairs_spec now (judge_sensible backend legacy books.refunds now)
    left [] (preReap plan books) rows apart
  unfold repair
  rw [plan_maps accepted, plan_windows accepted, bind_eq_ok]
  constructor
  · rintro ⟨middle, first, rest⟩
    obtain ⟨placeable, rewritten⟩ := (repairs middle).mp first
    obtain ⟨final, refreshed, known⟩ := refreshes_spec
      (judge_sensible backend legacy books.refunds now) left [] middle
      (by rw [rewritten.choose_spec]) apart
    cases refreshed.symm.trans rest
    refine ⟨placeable, ?_⟩
    have all := rewritten.then.mp known
    rw [List.append_nil] at all
    exact all
  · rintro ⟨placeable, known⟩
    have unique : ((([] : List BookInvoice) ++ left.map (repaired verdict)).map (·.id)).Nodup := by
      have ids := known.choose
      rw [List.map_map, settledRow_id, ← List.map_map] at ids
      exact ids
    obtain ⟨final, refreshed, known'⟩ := refreshes_spec
      (judge_sensible backend legacy books.refunds now) left []
      { preReap plan books with
        invoices := ⟨([] : List BookInvoice) ++ left.map (repaired verdict), unique⟩
        journal := (preReap plan books).journal ++ entriesOf now (mapsOf verdict left) } rfl apart
    have one : Rewritten (preReap plan books) ([] ++ left.map (repaired verdict))
        (entriesOf now (mapsOf verdict left)) _ := ⟨unique, rfl⟩
    have all := one.then.mp known'
    rw [List.append_nil] at all
    refine ⟨_, (repairs _).mpr ⟨placeable, one⟩, ?_⟩
    rw [known.unique all]
    exact refreshed

end Plan

/-! ### The second analysis -/

theorem judgeAttempt_settles_of_accepted {pay : List PayRow} {attempt : BookAttempt}
    (accepts : (judgeAttempt pay attempt).toRefuse = none) : (judgeAttempt pay attempt).Settles := by
  unfold judgeAttempt at accepts ⊢
  split at accepts
  · split_ifs at accepts ⊢
    · exact .inr ⟨_, _, rfl⟩
    · exact .inl rfl
    · cases accepts
  · split_ifs at accepts ⊢
    · cases accepts
    · exact .inr ⟨_, _, rfl⟩
    · exact .inl rfl

theorem clean_of_settles {found : List Verdict} (settles : ∀ verdict ∈ found, verdict.Settles) :
    (collect found).Clean where
  refusal := List.findSome?_eq_none_iff.mpr fun verdict member => by
    rcases settles verdict member with rfl | ⟨_, _, rfl⟩ <;> rfl
  mismatches := List.filterMap_eq_nil_iff.mpr fun verdict member => by
    rcases settles verdict member with rfl | ⟨_, _, rfl⟩ <;> rfl
  reap := List.filterMap_eq_nil_iff.mpr fun verdict member => by
    rcases settles verdict member with rfl | ⟨_, _, rfl⟩ <;> rfl
  refreshExpiry := List.filterMap_eq_nil_iff.mpr fun verdict member => by
    rcases settles verdict member with rfl | ⟨_, _, rfl⟩ <;> rfl

theorem judgeInvoice_ne_stamp (receive : List ReceiveRow) (refunds : List RefundRow) (now : ℤ)
    (book : BookInvoice) (table : AttemptTable) (id : String) :
    judgeInvoice receive refunds now book ≠ .stamp table id := by
  unfold judgeInvoice
  split <;> split_ifs <;> exact nofun

/-- **The second analysis is clean** where it finds every invoice covered; what it says of timers and
attempts it said before. -/
theorem clean_iff {isBolt11 : String → Bool} {legacy : Legacy} {books result : Books}
    (accepted : (analyse isBolt11 backend legacy books now).refusal = none)
    (refunds : result.refunds = books.refunds) (sweeps : result.sweeps = books.sweeps) :
    (analyse isBolt11 backend legacy result now).Clean ↔
      ∀ book ∈ result.invoices.rows, judge backend legacy books.refunds now book = .covered := by
  have attempts : loadBookAttempts isBolt11 result = loadBookAttempts isBolt11 books := by
    unfold loadBookAttempts
    rw [refunds, sweeps]
  constructor
  · intro clean book member
    unfold judge
    split
    · rename_i owned
      rw [← refunds]
      have found : judgeInvoice legacy.receive result.refunds now book ∈
          verdicts isBolt11 backend legacy result now :=
        List.mem_append_left _ (List.mem_append_left _ (List.mem_map.mpr
          ⟨book, List.mem_filter.mpr ⟨member, owned⟩, rfl⟩))
      rcases settles_of_clean clean _ found with covered | ⟨table, id, stamped⟩
      · exact covered
      · exact absurd stamped (judgeInvoice_ne_stamp _ _ _ _ _ _)
    · rfl
  · intro covered
    refine clean_of_settles fun verdict found => ?_
    unfold verdicts at found
    rw [List.append_assoc, List.mem_append, attempts] at found
    rcases found with invoice | other
    · obtain ⟨book, loaded, rfl⟩ := List.mem_map.mp invoice
      obtain ⟨member, owned⟩ := List.mem_filter.mp loaded
      have here := covered book member
      unfold judge at here
      rw [if_pos owned] at here
      rw [refunds]
      exact .inl here
    · have before : verdict ∈ verdicts isBolt11 backend legacy books now := by
        unfold verdicts
        rw [List.append_assoc]
        exact List.mem_append_right _ other
      have accepts := accepted_toRefuse accepted before
      rcases List.mem_append.mp other with timer | attempt
      · obtain ⟨timer, -, rfl⟩ := List.mem_map.mp timer
        unfold judgeTimer at accepts ⊢
        split at accepts
        · rename_i resolved
          rw [if_pos resolved]
          exact .inl rfl
        · cases accepts
      · obtain ⟨attempt, -, rfl⟩ := List.mem_map.mp attempt
        exact judgeAttempt_settles_of_accepted accepts

/-! ### The two together -/

section Together

variable {isBolt11 : String → Bool} {legacy : Legacy} {books : Books}
  (accepted : (analyse isBolt11 backend legacy books now).refusal = none)
include accepted

/-- The id a row that is left gets. -/
theorem repaired_id {book : BookInvoice} (member : book ∈ books.invoices.rows)
    (left : ¬ Doomed backend legacy books.refunds now book) :
    (repaired (judge backend legacy books.refunds now) book).id = repairedId backend legacy book := by
  by_cases owned : backend.owns book.id = true
  · have judged := judged_of_owned accepted member owned
    have doomed := doomed_iff accepted member
    unfold repaired repairedId
    generalize judge backend legacy books.refunds now book = verdict at judged doomed ⊢
    cases judged with
    | reap => exact absurd (doomed.mpr rfl) left
    | drifted found open_ kept same disagrees =>
        rw [if_pos ⟨owned, open_⟩, found]
        rfl
    | replaced found open_ live other =>
        rw [if_pos ⟨owned, open_⟩, found]
        rfl
    | moved found open_ kept same agrees window =>
        rw [if_pos ⟨owned, open_⟩, found]
        exact same.symm
    | covered found kept same agrees window =>
        by_cases open_ : backend.owns book.id = true ∧ ¬ book.Settled
        · rw [if_pos open_, found]
          exact same.symm
        · rw [if_neg open_]
  · have judged : judge backend legacy books.refunds now book = .covered := if_neg owned
    unfold repaired repairedId
    rw [judged, if_neg fun known => owned known.1]

/-- Where the rows that are left can be rewritten. -/
theorem placeable_iff :
    let left := keptRows backend legacy books now
    Placeable (judge backend legacy books.refunds now) [] left ↔
      (∀ book ∈ left, ∀ mismatch, judge backend legacy books.refunds now book =
        .disagreement mismatch → book.status ≠ none) ∧
      left.Pairwise fun one two => repairedId backend legacy one ≠ two.id ∧
        repairedId backend legacy two ≠ repairedId backend legacy one := by
  intro left
  have ids : ∀ book ∈ left, (repaired (judge backend legacy books.refunds now) book).id =
      repairedId backend legacy book := by
    intro book member
    obtain ⟨there, kept⟩ := mem_keptRows.mp member
    exact repaired_id accepted there kept
  have same : left.Pairwise (fun one two =>
      (repaired (judge backend legacy books.refunds now) one).id ≠ two.id ∧
        (repaired (judge backend legacy books.refunds now) two).id ≠
          (repaired (judge backend legacy books.refunds now) one).id) ↔
      left.Pairwise fun one two => repairedId backend legacy one ≠ two.id ∧
        repairedId backend legacy two ≠ repairedId backend legacy one :=
    List.Pairwise.iff_of_mem fun {one two} first second => by rw [ids one first, ids two second]
  constructor
  · rintro ⟨statuses, -, inTurn⟩
    exact ⟨statuses, same.mp inTurn⟩
  · rintro ⟨statuses, inTurn⟩
    exact ⟨statuses, fun _ member => absurd member List.not_mem_nil, same.mpr inTurn⟩

/-- **A row that is left is covered after the repair**, under the condition. -/
theorem covered_settledRow (convergent : Convergent backend legacy books now) {book : BookInvoice}
    (member : book ∈ books.invoices.rows) (left : ¬ Doomed backend legacy books.refunds now book) :
    judge backend legacy books.refunds now
      (settledRow (judge backend legacy books.refunds now) book) = .covered := by
  by_cases owned : backend.owns book.id = true
  · have judged := judged_of_owned accepted member owned
    have doomed := doomed_iff accepted member
    obtain ⟨verdict, found⟩ : ∃ verdict, judge backend legacy books.refunds now book = verdict := ⟨_, rfl⟩
    unfold settledRow
    rw [found] at judged doomed ⊢
    cases judged with
    | reap => exact absurd (doomed.mpr rfl) left
    | drifted map _ _ _ _ => exact judge_rewrite map
    | replaced map _ _ _ => exact judge_rewrite map
    | moved map open_ kept same agrees window =>
        have known := convergent.statuses book member owned open_ left _ map (.inr (.inr window))
        refine (judge_withWindow map owned same agrees known).mpr fun ⟨canceled, eligible⟩ => ?_
        exact convergent.windows book member owned _ map canceled same agrees
          (fun before => kept ⟨canceled, before⟩) eligible
    | covered => exact found
  · have judged : judge backend legacy books.refunds now book = .covered := if_neg owned
    simp only [settledRow, judged]

/-- Where the second analysis is clean, the condition holds. -/
theorem convergent_of_covered
    (placeable : Placeable (judge backend legacy books.refunds now) []
      (keptRows backend legacy books now))
    (covered : ∀ book ∈ books.invoices.rows, ¬ Doomed backend legacy books.refunds now book →
      judge backend legacy books.refunds now
        (settledRow (judge backend legacy books.refunds now) book) = .covered) :
    Convergent backend legacy books now where
  statuses book member owned open_ left map found drifted := by
    have judged := judged_of_owned accepted member owned
    have doomed := doomed_iff accepted member
    have again := covered book member left
    have there : book ∈ keptRows backend legacy books now :=
      mem_keptRows.mpr ⟨member, left⟩
    have known := placeable.statuses book there
    obtain ⟨verdict, same⟩ : ∃ verdict, judge backend legacy books.refunds now book = verdict := ⟨_, rfl⟩
    unfold settledRow at again
    rw [same] at judged doomed known again
    cases judged with
    | reap => exact absurd (doomed.mpr rfl) left
    | drifted => exact known _ rfl
    | replaced => exact known _ rfl
    | moved =>
        intro null
        have kept : ∀ expiresAt, withWindow book expiresAt = book :=
          fun _ => if_neg (not_not.mpr null)
        dsimp only at again
        rw [kept, same] at again
        cases again
    | covered found' kept own agrees window =>
        cases found.symm.trans found'
        rcases drifted with other | disagrees | moved
        · exact absurd own other
        · exact absurd disagrees agrees
        · exact absurd (window.resolve_left open_) moved
  inTurn := ((placeable_iff accepted).mp placeable).2
  windows book member owned map found canceled own agrees kept eligible := by
    have left : ¬ Doomed backend legacy books.refunds now book := fun doomed => kept doomed.2.1
    have judged := judged_of_owned accepted member owned
    have again := covered book member left
    obtain ⟨verdict, same⟩ : ∃ verdict, judge backend legacy books.refunds now book = verdict := ⟨_, rfl⟩
    have expired : book.status = some "EXPIRED" := eligible.1
    have unsettled : book.settledAt = none := eligible.2.1
    unfold settledRow at again
    rw [same] at judged again
    cases judged with
    | reap eligible => exact kept eligible
    | drifted found' _ _ _ disagrees =>
        cases found.symm.trans found'
        exact agrees disagrees
    | replaced found' _ live =>
        cases found.symm.trans found'
        exact live canceled
    | moved found' =>
        cases found.symm.trans found'
        have known : book.status ≠ none := by
          rw [expired]
          exact nofun
        exact (judge_withWindow found owned own agrees known).mp again ⟨canceled, eligible⟩
    | covered found' _ _ _ window =>
        cases found.symm.trans found'
        rcases window with settled | window
        · rcases settled with paid | settled
          · rw [expired] at paid
            exact absurd (Option.some.inj paid) (by decide)
          · exact settled unsettled
        · have one : { book with expiresAt := some map.expiresAt } = book := by rw [← window]
          rw [one] at eligible
          exact kept eligible

/-- **A repair of repaired books** adds to the journal only. -/
theorem repair_again (distinct : (books.invoices.rows.map (·.externalId)).Nodup)
    (placeable : Placeable (judge backend legacy books.refunds now) []
      (keptRows backend legacy books now)) {result : Books}
    (rows : result.invoices.rows = (keptRows backend legacy books now).map
      (settledRow (judge backend legacy books.refunds now))) :
    ∃ journal, repair (analyse isBolt11 backend legacy books now) now result =
      .ok { result with journal } := by
  have apart : (result.invoices.rows.map (·.externalId)).Nodup := by
    rw [rows, List.map_map]
    have same : (fun book : BookInvoice => book.externalId) ∘
        settledRow (judge backend legacy books.refunds now) = fun book => book.externalId :=
      funext fun book => settledRow_externalId _ book
    rw [same]
    exact distinct.sublist (List.filter_sublist.map _)
  have sensible := judge_sensible backend legacy books.refunds now
  have maps : ∀ map ∈ mapsOf (judge backend legacy books.refunds now) (keptRows backend legacy books now),
      ∃ book ∈ result.invoices.rows, map.externalId = book.externalId ∧ ¬ book.Settled ∧
        book.status ≠ none ∧ rewrite map book = book := by
    intro map member
    obtain ⟨book, kept, asked⟩ := List.mem_filterMap.mp member
    obtain ⟨mismatch, found, rfl⟩ := Option.map_eq_some_iff.mp asked
    have judged := toAsk_eq_some.mp found
    have row : settledRow (judge backend legacy books.refunds now) book = rewrite mismatch.map book := by
      simp only [settledRow, judged]
    obtain ⟨subject, open_⟩ := sensible.drifted book mismatch judged
    refine ⟨rewrite mismatch.map book, ?_, subject, ?_, ?_, rewrite_rewrite _ _⟩
    · rw [rows, ← row]
      exact List.mem_map.mpr ⟨book, kept, rfl⟩
    · rw [rewrite_settled]
      exact open_
    · exact rewrite_status (placeable.statuses book kept mismatch judged)
  have windows : ∀ window ∈ windowsOf (judge backend legacy books.refunds now)
      (keptRows backend legacy books now), ∃ book ∈ result.invoices.rows,
        window.1 = book.externalId ∧ ¬ book.Settled ∧ withWindow book window.2 = book := by
    rintro ⟨externalId, expiresAt⟩ member
    obtain ⟨book, kept, moved⟩ := List.mem_filterMap.mp member
    have judged := toRefresh_eq_some.mp moved
    have row : settledRow (judge backend legacy books.refunds now) book = withWindow book expiresAt := by
      simp only [settledRow, judged]
    obtain ⟨subject, open_⟩ := sensible.moved book externalId expiresAt judged
    refine ⟨withWindow book expiresAt, ?_, ?_, ?_, withWindow_withWindow _ _⟩
    · rw [rows, ← row]
      exact List.mem_map.mpr ⟨book, kept, rfl⟩
    · rw [withWindow_externalId]
      exact subject
    · rw [withWindow_settled]
      exact open_
  refine ⟨result.journal ++ entriesOf now (mapsOf (judge backend legacy books.refunds now)
    (keptRows backend legacy books now)), ?_⟩
  unfold repair
  rw [plan_maps accepted, plan_windows accepted, bind_eq_ok]
  exact ⟨_, repairs_again now _ result apart maps, refreshes_again _ _ apart windows⟩

/-- **The repair converges exactly under the condition.** -/
theorem converges_iff (distinct : (books.invoices.rows.map (·.externalId)).Nodup) :
    Converges isBolt11 backend legacy books now ↔ Convergent backend legacy books now := by
  have refunds : ∀ result rows entries, Rewritten (preReap (analyse isBolt11 backend legacy books now)
      books) rows entries result → result.refunds = books.refunds ∧ result.sweeps = books.sweeps ∧
        result.invoices.rows = rows := by
    rintro result rows entries ⟨_, rfl⟩
    exact ⟨rfl, rfl, rfl⟩
  constructor
  · rintro ⟨result, done, clean, -⟩
    obtain ⟨placeable, rewritten⟩ := (repair_iff accepted distinct result).mp done
    obtain ⟨sameRefunds, sameSweeps, rows⟩ := refunds _ _ _ rewritten
    refine convergent_of_covered accepted placeable fun book member left => ?_
    refine (clean_iff accepted sameRefunds sameSweeps).mp clean _ ?_
    rw [rows]
    exact List.mem_map.mpr ⟨book, mem_keptRows.mpr ⟨member, left⟩, rfl⟩
  · intro convergent
    have placeable := (placeable_iff accepted).mpr ⟨fun book member mismatch judged => by
      obtain ⟨there, left⟩ := mem_keptRows.mp member
      obtain ⟨owned, verdict⟩ := judge_judged judged rfl nofun
      cases verdict with
      | drifted found open_ _ _ disagrees =>
          exact convergent.statuses book there owned open_ left _ found (.inr (.inl disagrees))
      | replaced found open_ _ other =>
          exact convergent.statuses book there owned open_ left _ found (.inl other),
      convergent.inTurn⟩
    have unique : (((keptRows backend legacy books now).map
          (settledRow (judge backend legacy books.refunds now))).map (·.id)).Nodup := by
      rw [List.map_map, settledRow_id, List.nodup_iff_pairwise_ne, List.pairwise_map]
      exact placeable.inTurn.imp fun known => known.2.symm
    have final : Rewritten (preReap (analyse isBolt11 backend legacy books now) books) _
      (entriesOf now (mapsOf (judge backend legacy books.refunds now)
        (keptRows backend legacy books now))) _ := ⟨unique, rfl⟩
    obtain ⟨sameRefunds, sameSweeps, rows⟩ := refunds _ _ _ final
    refine ⟨_, (repair_iff accepted distinct _).mpr ⟨placeable, final⟩, ?_, ?_⟩
    · refine (clean_iff accepted sameRefunds sameSweeps).mpr fun book member => ?_
      obtain ⟨before, there, rfl⟩ := List.mem_map.mp member
      obtain ⟨there, left⟩ := mem_keptRows.mp there
      exact covered_settledRow accepted convergent there left
    · exact repair_again accepted distinct placeable rows

end Together

/-! ### The run -/

/-- A boot that asks has analysed the books of an import that was never made. -/
theorem begin_asking {isBolt11 : String → Bool} {site : Site} {import_ : Import}
    {left : List Mismatch} {mapSeen : Bool} {repairs : List ReceiveRow}
    (asked : (begin_ isBolt11 backend now site).phase = .asking import_ left mapSeen repairs) :
    import_.now = now ∧ import_.plan = analyse isBolt11 backend import_.legacy site.books now ∧
      import_.plan.refusal = none ∧ site.books.marker = none ∧
      (backend = .lnv2 → import_.legacy.timers = []) ∧
      begin_ isBolt11 backend now site =
        { site with phase := .asking import_ import_.plan.mismatches false [] } := by
  unfold begin_ at asked ⊢
  split at asked
  · split at asked
    · cases asked
    · split at asked <;> cases asked
  · rename_i file present
    split at asked
    · cases asked
    · rename_i vetted
      split at asked
      · split at asked <;> cases asked
      · rename_i unmarked
        split at asked
        · cases asked
        · rename_i empty
          split at asked
          · cases asked
          · rename_i rows read
            dsimp only at asked ⊢
            split at asked
            · cases asked
            · rename_i accepted
              cases asked
              refine ⟨rfl, rfl, accepted, unmarked, ?_, ?_⟩
              · rintro rfl
                rfl
              · rw [if_neg vetted, if_neg empty]

/-- The answers that license the repair of a disagreement. -/
def licensing (mismatch : Mismatch) : List Step :=
  if mismatch.sameId then [.answered (some .established)]
  else [.answered (some .established), .answered (some .terminalUnpaid)]

/-- Where every answer licenses its repair, every disagreement is repaired. -/
theorem run_licensing {isBolt11 : String → Bool} {import_ : Import} (left : List Mismatch) :
    ∀ (repairs : List ReceiveRow) (site : Site), site.phase = .asking import_ left false repairs →
      (left.flatMap licensing).foldl (step isBolt11 backend) site =
        { site with phase := .asking import_ [] false (repairs ++ left.map (·.map)) } := by
  induction left with
  | nil =>
      rintro repairs ⟨_, _, _⟩ rfl
      simp
  | cons mismatch left ih =>
      rintro repairs ⟨books, file, _⟩ rfl
      rw [List.flatMap_cons, List.foldl_append]
      have one : (licensing mismatch).foldl (step isBolt11 backend)
          ⟨books, file, .asking import_ (mismatch :: left) false repairs⟩ =
          ⟨books, file, .asking import_ left false (repairs ++ [mismatch.map])⟩ := by
        unfold licensing
        cases same : mismatch.sameId <;> simp [step, answer, same]
      rw [one, ih (repairs ++ [mismatch.map]) _ rfl]
      simp

theorem foldl_stamp_marker (now : ℤ) (stamps : List (AttemptTable × String)) :
    ∀ books : Books, (stamps.foldl (stamp now) books).marker = books.marker := by
  induction stamps with
  | nil => exact fun _ => rfl
  | cons attempt stamps ih => exact fun books => (ih _).trans (stamp_rest now books attempt).2.2.2

theorem repair_marker {plan : Plan} {books result : Books}
    (done : repair plan now books = .ok result) : result.marker = books.marker := by
  obtain ⟨repaired, repairing, refreshing⟩ := bind_eq_ok.mp done
  exact (Keeps.trans _ _ _
    (foldlM_keeps Keeps.refl Keeps.trans repairInvoice_keeps _ _ _ repairing)
    (foldlM_keeps Keeps.refl Keeps.trans refreshWindow_keeps _ _ _ refreshing)).marker

/-- **Pass 3 commits** where the repair converges. -/
theorem importAll_of_converges {isBolt11 : String → Bool} {import_ : Import} {books filled : Books}
    (planned : import_.plan = analyse isBolt11 backend import_.legacy filled import_.now)
    (unmarked : filled.marker = none)
    (inserted : insertLegacy backend books import_.legacy = .ok filled)
    (converges : Converges isBolt11 backend import_.legacy filled import_.now) :
    ∃ after, importAll isBolt11 backend import_ (import_.plan.mismatches.map (·.map)) books =
      .ok after := by
  obtain ⟨result, done, clean, -⟩ := converges
  rw [← planned] at done
  have kept : result.marker = none := (repair_marker done).trans unmarked
  obtain ⟨repaired, repairing, refreshing⟩ := bind_eq_ok.mp done
  have marked : ∃ after, writeMarker (import_.plan.stamp.foldl (stamp import_.now) result)
      import_.hash import_.now = .ok after := by
    unfold writeMarker
    rw [foldl_stamp_marker, kept]
    exact ⟨_, rfl⟩
  obtain ⟨after, written⟩ := marked
  refine ⟨after, ?_⟩
  unfold importAll
  rw [bind_eq_ok]
  refine ⟨filled, inserted, ?_⟩
  dsimp only
  rw [bind_eq_ok]
  refine ⟨repaired, repairing, ?_⟩
  rw [bind_eq_ok]
  refine ⟨result, refreshing, ?_⟩
  simp only [clean.refusal, clean.mismatches, clean.reap, clean.refreshExpiry]
  simpa using written

/-- **The rows of the file fit into the backend's tables**: no key is there twice. -/
structure Insertable (backend : Backend) (legacy : Legacy) (books : Books) : Prop where
  receive : ((books.receive ++ legacy.receive).map backend.receiveKey).Nodup
  pay : ((books.pay ++ legacy.pay).map (·.key)).Nodup
  timers : ((books.timers ++ legacy.timers).map (·.invoiceId)).Nodup

/-- The columns keep the keys. -/
theorem map_receiveColumns (backend : Backend) (rows : List ReceiveRow) :
    (rows.map backend.receiveColumns).map backend.receiveKey = rows.map backend.receiveKey := by
  rw [List.map_map]
  refine List.map_congr_left fun row _ => ?_
  cases backend <;> rfl

theorem map_payColumns (backend : Backend) (rows : List PayRow) :
    (rows.map backend.payColumns).map (·.key) = rows.map (·.key) := by
  rw [List.map_map]
  refine List.map_congr_left fun row _ => ?_
  cases backend <;> rfl

theorem insertable_iff (backend : Backend) (legacy : Legacy) (books : Books) :
    Insertable backend legacy books ↔
      ((books.receive ++ legacy.receive.map backend.receiveColumns).map backend.receiveKey).Nodup ∧
        ((books.pay ++ legacy.pay.map backend.payColumns).map (·.key)).Nodup ∧
          ((books.timers ++ legacy.timers).map (·.invoiceId)).Nodup := by
  have receive : (books.receive ++ legacy.receive.map backend.receiveColumns).map backend.receiveKey =
      (books.receive ++ legacy.receive).map backend.receiveKey := by
    rw [List.map_append, map_receiveColumns, List.map_append]
  have pay : (books.pay ++ legacy.pay.map backend.payColumns).map (·.key) =
      (books.pay ++ legacy.pay).map (·.key) := by
    rw [List.map_append, map_payColumns, List.map_append]
  rw [receive, pay]
  exact ⟨fun fits => ⟨fits.receive, fits.pay, fits.timers⟩,
    fun fits => ⟨fits.1, fits.2.1, fits.2.2⟩⟩

/-- **The rows are inserted exactly where they fit.** -/
theorem insertLegacy_iff {books : Books} {legacy : Legacy}
    (timeless : backend = .lnv2 → legacy.timers = []) :
    (∃ filled, insertLegacy backend books legacy = .ok filled) ↔ Insertable backend legacy books := by
  have taken : ∀ {fits : Prop} [Decidable fits] {filled : Books},
      (∃ result, (if fits then .ok filled else .error .constraint : Except Failure Books) =
        .ok result) ↔ fits := by
    intro fits _ filled
    by_cases holds : fits
    · simp [holds]
    · simp [holds]
  rw [insertable_iff]
  cases backend with
  | phoenixd => exact taken
  | lnv2 =>
      rw [timeless rfl, List.append_nil]
      exact taken

/-- The import's own tables are not what the analysis and the condition read. -/
theorem insertLegacy_rest {books filled : Books} {legacy : Legacy}
    (inserted : insertLegacy backend books legacy = .ok filled) :
    filled.invoices = books.invoices ∧ filled.refunds = books.refunds ∧
      filled.sweeps = books.sweeps ∧ filled.marker = books.marker := by
  unfold insertLegacy at inserted
  dsimp only at inserted
  split_ifs at inserted with keys
  cases inserted
  exact ⟨rfl, rfl, rfl, rfl⟩

theorem analyse_congr {isBolt11 : String → Bool} {legacy : Legacy} {one two : Books}
    (invoices : one.invoices = two.invoices) (refunds : one.refunds = two.refunds)
    (sweeps : one.sweeps = two.sweeps) :
    analyse isBolt11 backend legacy one now = analyse isBolt11 backend legacy two now := by
  unfold analyse verdicts loadBookInvoices loadBookAttempts
  rw [invoices, refunds, sweeps]

theorem Convergent.congr {legacy : Legacy} {one two : Books} (invoices : one.invoices = two.invoices)
    (refunds : one.refunds = two.refunds) (convergent : Convergent backend legacy one now) :
    Convergent backend legacy two now := by
  obtain ⟨statuses, inTurn, windows⟩ := convergent
  unfold keptRows at inTurn
  rw [invoices, refunds] at statuses inTurn windows
  exact ⟨statuses, inTurn, windows⟩

/-- What a write comes to where every disagreement was repaired. -/
theorem step_write {isBolt11 : String → Bool} {site : Site} {import_ : Import}
    {repairs : List ReceiveRow} :
    (∃ outcome, (step isBolt11 backend { site with phase := .asking import_ [] false repairs }
        .write).phase = .moving outcome) ↔
      ∃ after, importAll isBolt11 backend import_ repairs site.books = .ok after := by
  dsimp only [step]
  cases importAll isBolt11 backend import_ repairs site.books with
  | ok after => exact ⟨fun _ => ⟨after, rfl⟩, fun _ => ⟨_, rfl⟩⟩
  | error why =>
      constructor
      · rintro ⟨outcome, moved⟩
        cases moved
      · rintro ⟨after, done⟩
        cases done

/-- **An import that refuses nothing at first and is licensed in everything converges exactly under
the condition**: the repaired books analyse clean, repairing again changes nothing but the journal,
and the run commits instead of refusing. -/
theorem repair_converges (isBolt11 : String → Bool) (backend : Backend) (now : ℤ) (site : Site)
    (import_ : Import) (distinct : (site.books.invoices.rows.map (·.externalId)).Nodup)
    (asked : (begin_ isBolt11 backend now site).phase =
      .asking import_ import_.plan.mismatches false []) :
    (Converges isBolt11 backend import_.legacy site.books now ∧
      ∃ outcome, (step isBolt11 backend ((import_.plan.mismatches.flatMap licensing).foldl
        (step isBolt11 backend) (begin_ isBolt11 backend now site)) .write).phase = .moving outcome) ↔
      Convergent backend import_.legacy site.books now ∧
        Insertable backend import_.legacy site.books := by
  obtain ⟨rfl, planned, accepted, unmarked, timeless, begun⟩ := begin_asking asked
  have refuses := accepted
  rw [planned] at refuses
  have exact_ := converges_iff refuses distinct
  have inserts : (∃ filled, insertLegacy backend site.books import_.legacy = .ok filled) ↔
      Insertable backend import_.legacy site.books := insertLegacy_iff timeless
  rw [begun, run_licensing import_.plan.mismatches [] _ rfl, step_write]
  constructor
  · rintro ⟨converges, after, committed⟩
    obtain ⟨filled, inserted, -⟩ := bind_eq_ok.mp committed
    exact ⟨exact_.mp converges, inserts.mp ⟨filled, inserted⟩⟩
  rintro ⟨convergent, fits⟩
  refine ⟨exact_.mpr convergent, ?_⟩
  obtain ⟨filled, inserted⟩ := inserts.mpr fits
  obtain ⟨invoices, refunds, sweeps, marker⟩ := insertLegacy_rest inserted
  have same : analyse isBolt11 backend import_.legacy filled import_.now =
      analyse isBolt11 backend import_.legacy site.books import_.now :=
    analyse_congr invoices refunds sweeps
  have converges : Converges isBolt11 backend import_.legacy filled import_.now :=
    (converges_iff (by rw [same]; exact refuses) (by rw [invoices]; exact distinct)).mpr
      (convergent.congr invoices.symm refunds.symm)
  exact importAll_of_converges (planned.trans same.symm) (marker.trans unmarked) inserted converges

/-! ### Two invoices -/

/-- An expired invoice of lnv2, and the map's row of it, canceled. -/
def expiredInvoice (expiresAt : ℤ) : BookInvoice :=
  ⟨"lnv2-a", "a", none, some "hash", some "lnbc", some 1000, some "EXPIRED", some expiresAt, none, none⟩

def canceledRow (expiresAt : ℤ) : ReceiveRow :=
  ⟨"a", "lnv2-a", "lnbc", "hash", 1000, expiresAt, some "op", 0, "CANCELED", none⟩

def expiredSite (booked mapped : ℤ) : Site where
  books := ⟨⟨[expiredInvoice booked], by simp⟩, [], [], [], [], [], none, []⟩
  file := some ⟨true, "file", some ⟨[canceledRow mapped], [], []⟩⟩
  phase := .idle

def expiredImport (booked mapped : ℤ) : Import :=
  let legacy := readLegacy .lnv2 ⟨[canceledRow mapped], [], []⟩
  ⟨10000000, "file", legacy, analyse (fun _ => false) .lnv2 legacy (expiredSite booked mapped).books
    10000000⟩

theorem repair_converges_expired :
    (Converges (fun _ => false) .lnv2 (expiredImport 9000000 9500000).legacy
        (expiredSite 9000000 9500000).books 10000000 ∧
      ∃ outcome, (step (fun _ => false) .lnv2
        (((expiredImport 9000000 9500000).plan.mismatches.flatMap licensing).foldl
          (step (fun _ => false) .lnv2)
          (begin_ (fun _ => false) .lnv2 10000000 (expiredSite 9000000 9500000))) .write).phase =
            .moving outcome) ↔
      Convergent .lnv2 (expiredImport 9000000 9500000).legacy (expiredSite 9000000 9500000).books
          10000000 ∧
        Insertable .lnv2 (expiredImport 9000000 9500000).legacy (expiredSite 9000000 9500000).books :=
  repair_converges _ _ _ _ _ (by decide) (by decide +kernel)

/-- **The window a refresh copies may be so old that the second analysis would delete the row**:
the import of a canceled invoice stops, though nothing was refused and nothing had to be asked. -/
theorem refreshed_row_is_due :
    let begun := begin_ (fun _ => false) .lnv2 10000000 (expiredSite 9000000 1000)
    begun.phase = .asking (expiredImport 9000000 1000) [] false [] ∧
      (step (fun _ => false) .lnv2 begun .write).phase = .refused .notConverged := by
  decide +kernel

end Lnrent.LegacyImport
