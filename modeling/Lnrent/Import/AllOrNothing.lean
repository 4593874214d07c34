/-
**The import is all or nothing.** Over every content of the books, every side file, every answer of
the backend and every order of boots, crashes and renames: what a boot refuses leaves the database as
it was, and what it commits is one import of the original books.

* `Standing` — where the data directory stands between two steps: untouched, or imported by a boot
  that ran to its commit without a crash;
* `import_all_or_nothing` — the runs.
-/

import Lnrent.Import.Coverage

namespace Lnrent.LegacyImport

open Transition

variable {isBolt11 : String → Bool} {backend : Backend} {start : Books} {file : Option SideFile}

/-! ### What has happened so far -/

/-- A boot without a crash, part of what happened, leads to the site from the start. -/
def Uninterrupted (isBolt11 : String → Bool) (backend : Backend) (start : Books)
    (file : Option SideFile) (steps : List Step) (reaches : Site → Prop) : Prop :=
  ∃ segment, segment <:+: steps ∧ Step.crash ∉ segment ∧
    reaches ((boots isBolt11 backend start file).run segment)

theorem Uninterrupted.later {steps : List Step} {reaches : Site → Prop}
    (known : Uninterrupted isBolt11 backend start file steps reaches) (next : Step) :
    Uninterrupted isBolt11 backend start file (steps ++ [next]) reaches := by
  obtain ⟨segment, part, quiet, reached⟩ := known
  exact ⟨segment, part.trans (List.prefix_append steps [next]).isInfix, quiet, reached⟩

/-- What pass 1 left for the rest of the boot. -/
structure Planned (isBolt11 : String → Bool) (backend : Backend) (start : Books)
    (file : Option SideFile) (import_ : Import) : Prop where
  empty : ¬ TablesNonEmpty start
  unmarked : start.marker = none
  read : ∃ side ∈ file, side.vetted = true ∧ import_.hash = side.hash ∧
    ∃ rows, import_.legacy = readLegacy backend rows
  planned : import_.plan = analyse isBolt11 backend import_.legacy start import_.now
  accepted : import_.plan.refusal = none

/-- The outcomes of a boot that had nothing to import. -/
def Outcome.Idle (outcome : Outcome) : Prop := outcome = .alreadyMigrated ∨ outcome = .renamedOnly

/-- Nothing was committed yet: the boot under way, if it asks, is the end of what happened. -/
def Untouched (isBolt11 : String → Bool) (backend : Backend) (start : Books)
    (file : Option SideFile) (steps : List Step) (site : Site) : Prop :=
  site.books = start ∧ (site.file = file ∨ start.marker ≠ none) ∧
    match site.phase with
    | .asking import_ _ _ _ =>
        Planned isBolt11 backend start file import_ ∧
          ∃ segment, segment <:+ steps ∧ Step.crash ∉ segment ∧
            (boots isBolt11 backend start file).run segment = site
    | .moving outcome | .ended outcome => outcome.Idle ∧ start.marker ≠ none
    | .idle | .refused _ => True

/-- The boot is past its commit. -/
def Past (site : Site) : Prop := ∃ outcome, site.phase = .moving outcome ∨ site.phase = .ended outcome

/-- One import was committed, by a boot that ran to its commit. -/
def Committed (isBolt11 : String → Bool) (backend : Backend) (start : Books)
    (file : Option SideFile) (steps : List Step) (site : Site) : Prop :=
  Imported isBolt11 backend file start site.books ∧
    (site.file = none ∨ site.file = file ∧ ∃ side ∈ file, side.vetted = true) ∧
      Uninterrupted isBolt11 backend start file steps
        (fun reached => reached.books = site.books ∧ Past reached) ∧
        match site.phase with
        | .asking .. => False
        | .refused why => why = .renameFailed
        | .idle | .moving _ | .ended _ => True

/-- **Where the directory stands.** -/
def Standing (isBolt11 : String → Bool) (backend : Backend) (start : Books)
    (file : Option SideFile) (steps : List Step) (site : Site) : Prop :=
  Untouched isBolt11 backend start file steps site ∨
    Committed isBolt11 backend start file steps site

/-! ### One step -/

/-- A boot reads the books and the file and nothing of what an earlier one left in memory. -/
theorem begin_phase (now : ℤ) (site : Site) (phase : Phase) :
    begin_ isBolt11 backend now { site with phase } = begin_ isBolt11 backend now site := by
  unfold begin_
  rfl

theorem run_snoc (segment : List Step) (next : Step) :
    (boots isBolt11 backend start file).run (segment ++ [next]) =
      step isBolt11 backend ((boots isBolt11 backend start file).run segment) next :=
  Machine.runFrom_append _ segment [next] _

theorem run_boot (now : ℤ) :
    (boots isBolt11 backend start file).run [.boot now] =
      begin_ isBolt11 backend now ⟨start, file, .idle⟩ := rfl

/-- The boot itself is a part of what happened that no crash interrupts. -/
theorem boot_suffix (steps : List Step) (now : ℤ) :
    [Step.boot now] <:+: steps ++ [.boot now] ∧ Step.crash ∉ [Step.boot now] :=
  ⟨(List.suffix_append steps _).isInfix, by simp⟩

theorem begin_untouched {steps : List Step} {now : ℤ} {site : Site} (books : site.books = start)
    (place : site.file = file ∨ start.marker ≠ none) :
    Standing isBolt11 backend start file (steps ++ [.boot now])
      (begin_ isBolt11 backend now site) := by
  obtain ⟨books_, file_, phase⟩ := site
  subst books
  rw [← begin_phase now _ .idle]
  dsimp only at place ⊢
  unfold begin_
  cases file_ with
  | none =>
      dsimp only
      split
      · rename_i marker marked
        exact .inl ⟨rfl, place, .inl rfl, by simp [marked]⟩
      · rename_i unmarked
        have same : file = none := (place.resolve_right fun marked => marked unmarked).symm
        subst same
        split
        · rename_i after outcome done
          refine .inr ⟨importAbsent_imported isBolt11 done, .inl rfl, ?_, trivial⟩
          refine ⟨[.boot now], (boot_suffix steps now).1, (boot_suffix steps now).2, ?_⟩
          rw [run_boot, begin_]
          simp only [unmarked, done]
          exact ⟨trivial, outcome, .inr rfl⟩
        · exact .inl ⟨rfl, place, trivial⟩
  | some side =>
      dsimp only
      split
      · exact .inl ⟨rfl, place, trivial⟩
      · rename_i vetted
        split
        · rename_i marker marked
          split
          · exact .inl ⟨rfl, place, .inr rfl, by simp [marked]⟩
          · exact .inl ⟨rfl, place, trivial⟩
        · rename_i unmarked
          have same : file = some side :=
            (place.resolve_right fun marked => marked unmarked).symm
          subst same
          split
          · exact .inl ⟨rfl, place, trivial⟩
          · rename_i empty
            split
            · exact .inl ⟨rfl, place, trivial⟩
            · rename_i rows read
              split
              · exact .inl ⟨rfl, place, trivial⟩
              · rename_i accepted
                refine .inl ⟨rfl, place, ⟨empty, unmarked,
                  ⟨side, rfl, by simpa using vetted, rfl, rows, rfl⟩, rfl, accepted⟩, ?_⟩
                refine ⟨[.boot now], List.suffix_append steps _, (boot_suffix steps now).2, ?_⟩
                rw [run_boot, begin_]
                simp only [unmarked, read, if_neg vetted, if_neg empty, accepted]

/-- Past a commit a boot finds its marker. -/
theorem begin_committed {steps : List Step} {now : ℤ} {site : Site}
    (known : Committed isBolt11 backend start file steps site) :
    Committed isBolt11 backend start file (steps ++ [.boot now])
      (begin_ isBolt11 backend now site) := by
  obtain ⟨imported, place, uninterrupted, -⟩ := known
  obtain ⟨marker, marked, content⟩ := imported.marker
  have kept := uninterrupted.later (.boot now)
  unfold begin_
  rcases place with gone | ⟨present, side, same, vetted⟩
  · simp only [gone, Option.mem_def.mp marked]
    exact ⟨imported, .inl rfl, kept, trivial⟩
  · have found := present.trans same
    have hash : marker.contentHash = side.hash := by
      rw [Option.mem_def.mp same] at content
      exact content
    simp only [found, vetted, Option.mem_def.mp marked, hash]
    exact ⟨imported, .inr ⟨found.symm.trans present, side, same, vetted⟩, kept, trivial⟩

section Steps

variable {steps : List Step} {site : Site}

theorem Standing.boot (known : Standing isBolt11 backend start file steps site) (now : ℤ) :
    Standing isBolt11 backend start file (steps ++ [.boot now])
      (begin_ isBolt11 backend now site) :=
  known.elim (fun untouched => begin_untouched untouched.1 untouched.2.1)
    fun committed => .inr (begin_committed committed)

/-- What a step leaves alone stays where it stood, save that a boot in pass 2 has not moved. -/
theorem Standing.ignored (known : Standing isBolt11 backend start file steps site) (next : Step)
    (noCrash : next ≠ .crash)
    (ignores : step isBolt11 backend site next = site) :
    Standing isBolt11 backend start file (steps ++ [next]) site := by
  rcases known with ⟨books, place, phase⟩ | ⟨imported, place, uninterrupted, phase⟩
  · refine .inl ⟨books, place, ?_⟩
    split at phase
    · rename_i import_ left mapSeen repairs asking
      obtain ⟨planned, segment, last, quiet, reached⟩ := phase
      refine ⟨planned, segment ++ [next], ?_, ?_, ?_⟩
      · obtain ⟨before, same⟩ := last
        exact ⟨before, by rw [← List.append_assoc, same]⟩
      · simp [quiet, noCrash.symm]
      · rw [run_snoc, reached, ignores]
    · exact phase
    · exact phase
    · trivial
    · trivial
  · exact .inr ⟨imported, place, uninterrupted.later next, phase⟩

/-- An answer moves the boot on or ends it. -/
theorem Standing.answered {import_ : Import} {mismatch : Mismatch} {rest : List Mismatch}
    {mapSeen : Bool} {repairs : List ReceiveRow}
    (known : Standing isBolt11 backend start file steps site)
    (asking : site.phase = .asking import_ (mismatch :: rest) mapSeen repairs)
    (state : Option ReceiveState) :
    Standing isBolt11 backend start file (steps ++ [.answered state])
      { site with phase := answer import_ mismatch rest mapSeen repairs state } := by
  rcases known with ⟨books, place, phase⟩ | ⟨-, -, -, phase⟩
  · refine .inl ⟨books, place, ?_⟩
    simp only [asking] at phase
    obtain ⟨planned, segment, last, quiet, reached⟩ := phase
    have moved : (boots isBolt11 backend start file).run (segment ++ [.answered state]) =
        { site with phase := answer import_ mismatch rest mapSeen repairs state } := by
      rw [run_snoc, reached, step]
      simp only [asking]
    have goesOn : ∃ segment, segment <:+ steps ++ [.answered state] ∧ Step.crash ∉ segment ∧
        (boots isBolt11 backend start file).run segment =
          { site with phase := answer import_ mismatch rest mapSeen repairs state } := by
      obtain ⟨before, same⟩ := last
      exact ⟨_, ⟨before, by rw [← List.append_assoc, same]⟩, by simp [quiet], moved⟩
    revert goesOn
    cases state with
    | none => exact fun _ => trivial
    | some state =>
        unfold answer
        dsimp only
        split_ifs
        all_goals first
          | exact fun goesOn => ⟨planned, goesOn⟩
          | exact fun _ => trivial
  · simp only [asking] at phase

/-- The transaction of pass 3 commits an import or nothing. -/
theorem Standing.written {import_ : Import} {mapSeen : Bool} {repairs : List ReceiveRow}
    (known : Standing isBolt11 backend start file steps site)
    (asking : site.phase = .asking import_ [] mapSeen repairs) :
    Standing isBolt11 backend start file (steps ++ [.write]) (step isBolt11 backend site .write) := by
  rcases known with ⟨books, place, phase⟩ | ⟨-, -, -, phase⟩
  · simp only [asking] at phase
    obtain ⟨planned, segment, last, quiet, reached⟩ := phase
    obtain ⟨side, present, vetted, hash, rows, read⟩ := planned.read
    have moved : (boots isBolt11 backend start file).run (segment ++ [.write]) =
        step isBolt11 backend ((boots isBolt11 backend start file).run segment) .write :=
      run_snoc segment .write
    rw [reached] at moved
    have part : segment ++ [.write] <:+: steps ++ [.write] := by
      obtain ⟨before, same⟩ := last
      exact ⟨before, [], by rw [List.append_nil, ← List.append_assoc, same]⟩
    simp only [step, asking] at moved ⊢
    split at moved
    · rename_i after done
      rw [books] at done
      have imported := importAll_imported planned.empty read hash planned.planned
        planned.accepted done
      rw [← Option.mem_def.mp present] at imported
      have kept : site.file = file := place.resolve_right fun marked => marked planned.unmarked
      refine .inr ⟨imported, .inr ⟨kept, side, present, vetted⟩, ?_, trivial⟩
      refine ⟨segment ++ [.write], part, by simp [quiet], ?_⟩
      rw [moved]
      exact ⟨rfl, _, .inl rfl⟩
    · exact .inl ⟨books, place, trivial⟩
  · simp only [asking] at phase

/-- The rename leaves the books. -/
theorem Standing.renamed {outcome : Outcome}
    (known : Standing isBolt11 backend start file steps site)
    (moves : site.phase = .moving outcome) (worked : Bool) :
    Standing isBolt11 backend start file (steps ++ [.renamed worked])
      (step isBolt11 backend site (.renamed worked)) := by
  simp only [step, moves]
  rcases known with ⟨books, place, phase⟩ | ⟨imported, place, uninterrupted, -⟩
  · simp only [moves] at phase
    cases worked with
    | true => exact .inl ⟨books, .inr phase.2, phase⟩
    | false => exact .inl ⟨books, place, trivial⟩
  · have kept := uninterrupted.later (.renamed worked)
    cases worked with
    | true => exact .inr ⟨imported, .inl rfl, kept, trivial⟩
    | false => exact .inr ⟨imported, place, kept, rfl⟩

theorem Standing.crashed (known : Standing isBolt11 backend start file steps site) :
    Standing isBolt11 backend start file (steps ++ [.crash])
      (step isBolt11 backend site .crash) := by
  rcases known with ⟨books, place, -⟩ | ⟨imported, place, uninterrupted, -⟩
  · exact .inl ⟨books, place, trivial⟩
  · exact .inr ⟨imported, place, uninterrupted.later _, trivial⟩

/-- Every step leaves the directory standing. -/
theorem standing_step (known : Standing isBolt11 backend start file steps site) (next : Step) :
    Standing isBolt11 backend start file (steps ++ [next]) (step isBolt11 backend site next) := by
  cases next with
  | boot now =>
      cases phase : site.phase with
      | asking import_ left mapSeen repairs =>
          have same : step isBolt11 backend site (.boot now) = site := by simp only [step, phase]
          rw [same]
          exact known.ignored _ (by simp) same
      | moving outcome =>
          have same : step isBolt11 backend site (.boot now) = site := by simp only [step, phase]
          rw [same]
          exact known.ignored _ (by simp) same
      | idle | ended | refused =>
          have begins : step isBolt11 backend site (.boot now) = begin_ isBolt11 backend now site := by
            simp only [step, phase]
          rw [begins]
          exact known.boot now
  | answered state =>
      cases phase : site.phase with
      | asking import_ left mapSeen repairs =>
          cases left with
          | nil =>
              have same : step isBolt11 backend site (.answered state) = site := by
                simp only [step, phase]
              rw [same]
              exact known.ignored _ (by simp) same
          | cons mismatch rest =>
              simp only [step, phase]
              exact known.answered phase state
      | idle | moving | ended | refused =>
          have same : step isBolt11 backend site (.answered state) = site := by
            simp only [step, phase]
          rw [same]
          exact known.ignored _ (by simp) same
  | write =>
      cases phase : site.phase with
      | asking import_ left mapSeen repairs =>
          cases left with
          | nil => exact known.written phase
          | cons mismatch rest =>
              have same : step isBolt11 backend site .write = site := by simp only [step, phase]
              rw [same]
              exact known.ignored _ (by simp) same
      | idle | moving | ended | refused =>
          have same : step isBolt11 backend site .write = site := by simp only [step, phase]
          rw [same]
          exact known.ignored _ (by simp) same
  | renamed worked =>
      cases phase : site.phase with
      | moving outcome => exact known.renamed phase worked
      | idle | asking | ended | refused =>
          have same : step isBolt11 backend site (.renamed worked) = site := by
            simp only [step, phase]
          rw [same]
          exact known.ignored _ (by simp) same
  | crash => exact known.crashed

end Steps

/-! ### Whole runs -/

theorem standing_run (isBolt11 : String → Bool) (backend : Backend) (start : Books)
    (file : Option SideFile) (steps : List Step) :
    Standing isBolt11 backend start file steps
      ((boots isBolt11 backend start file).run steps) := by
  induction steps using List.reverseRecOn with
  | nil => exact .inl ⟨rfl, .inl rfl, trivial⟩
  | append_singleton steps next ih =>
      rw [run_snoc]
      exact standing_step ih next

/-- **The import is all or nothing and survives a crash.** After any boots, answers and crashes: a
boot that refuses leaves the original books; books that changed are those of one import, as a boot
without a crash left them; and once a boot over unmarked books ends, the import is there. A boot whose
rename fails ends with an error as well, but after the commit: it is `.refused .renameFailed`, and its
books are those of the import. -/
theorem import_all_or_nothing (isBolt11 : String → Bool) (backend : Backend) (start : Books)
    (file : Option SideFile) (steps : List Step) :
    let last := (boots isBolt11 backend start file).run steps
    (∀ why, last.phase = .refused why → why ≠ .renameFailed → last.books = start) ∧
      (last.books ≠ start →
        Imported isBolt11 backend file start last.books ∧
          Uninterrupted isBolt11 backend start file steps
            (fun reached => reached.books = last.books ∧ Past reached)) ∧
        (Past last → start.marker = none → Imported isBolt11 backend file start last.books) := by
  intro last
  rcases standing_run isBolt11 backend start file steps with
    ⟨books, -, phase⟩ | ⟨imported, -, uninterrupted, phase⟩
  · refine ⟨fun _ _ _ => books, fun changed => absurd books changed, ?_⟩
    rintro ⟨outcome, past⟩ unmarked
    have marked : start.marker ≠ none := by
      rcases past with past | past
      all_goals
        change last.phase = _ at past
        change (match last.phase with
          | .asking import_ _ _ _ => _
          | .moving outcome | .ended outcome => _
          | .idle | .refused _ => _) at phase
        simp only [past] at phase
        exact phase.2
    exact absurd unmarked marked
  · refine ⟨?_, fun _ => ⟨imported, uninterrupted⟩, fun _ _ => imported⟩
    intro why refused kept
    change last.phase = _ at refused
    change (match last.phase with
      | .asking .. => False
      | .refused why => why = .renameFailed
      | .idle | .moving _ | .ended _ => True) at phase
    simp only [refused] at phase
    exact absurd phase kept

/-! ### Columns the books do not carry -/

/-- A row of the side file. -/
def carriedRow : ReceiveRow where
  externalId := "order:a"
  invoiceId := "phoenixd-a"
  bolt11 := "lnbc1"
  paymentHash := "a"
  amountSat := 1000
  expiresAt := 60
  operationId := none
  creditedMsat := 0
  status := "OPEN"
  settledAt := none

/-- The books' row of the same invoice, its bolt11 not recorded. -/
def bareInvoice : BookInvoice where
  id := "phoenixd-a"
  externalId := "order:a"
  backendInvoiceId := none
  paymentHash := some "a"
  bolt11 := none
  amountSat := some 1000
  status := some "OPEN"
  expiresAt := some 60
  settledAt := none
  issuedAt := none

def bareBooks : Books where
  invoices := ⟨[bareInvoice], by simp⟩
  refunds := []
  sweeps := []
  receive := []
  pay := []
  timers := []
  marker := none
  journal := []

/-- **A column the books do not carry agrees with anything**: the import commits, and the invoice
has no bolt11 to match its row's. -/
theorem bare_invoice_imported :
    let last := (boots (fun _ => false) .phoenixd bareBooks
      (some ⟨true, "hash", some ⟨[carriedRow], [], []⟩⟩)).run [.boot 0, .write, .renamed true]
    last.phase = .ended (.imported 1 0 0 0 0) ∧
      ¬ ∀ book ∈ loadBookInvoices .phoenixd last.books,
        ∃ map ∈ effectiveByExternal last.books.receive book.externalId,
          map.invoiceId = book.id ∧ book.bolt11 = some map.bolt11 ∧
            book.paymentHash = some map.paymentHash ∧ book.amountSat = some map.amountSat := by
  decide +kernel

end Lnrent.LegacyImport
