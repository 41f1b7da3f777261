/- digest: One replay view for a journal, its rearrangements and what the store reads back. -/

import Ayo.Ledger.Lineage

namespace Ayo.Ledger.ReplayView

open Kernel.UnitOfWork Kernel.KeyedTable Kernel.Ordering Core.Values
open Pricing.Models (Calculations FareCalculation)
open Models Repository Lineage

/-- `deterministic_replay_view`: the journal with its entries in the order of their lines. -/
def deterministicReplayView (journal : LedgerJournal) : Payload :=
  let entries := orderedBy (fun entry => entry.lineIndex.1) journal.entries
  [("journal_id", .uuid journal.journalId), ("book_id", .uuid journal.bookId),
   ("business_event_type", .text journal.businessEventType.1),
   ("business_event_id", .uuid journal.businessEventId),
   ("operation", .text journal.operation.1), ("idempotency_key", .text journal.idempotencyKey.1),
   ("actor_identity_id", .uuid journal.actorIdentityId),
   ("source_system", .text journal.sourceSystem.1), ("reason_code", .text journal.reasonCode.1),
   ("traceability", .list [journal.traceability.payload]),
   ("entries", .list (entries.map LedgerEntry.payload)),
   ("effective_at", .time (.utc journal.effectiveAt)),
   ("recorded_at", .time (.utc journal.recordedAt)),
   ("correlation_id", .uuid journal.correlationId), ("causation_id", .uuid journal.causationId),
   ("audit_reference", .uuid journal.auditReference)]

variable {journal : LedgerJournal}

theorem validate?_of_perm {entries : List LedgerEntry} (same : entries.Perm journal.entries) :
    ∃ other, LedgerJournal.validate? journal.toJournalHeader entries = .ok other ∧
      other.toJournalHeader = journal.toJournalHeader ∧ other.entries = entries := by
  obtain ⟨two, ids, lines, currencies, balance, linked, lineage⟩ := journal.entry_checks
  have totals : ∀ side, sideTotal side entries = sideTotal side journal.entries :=
    fun side => ((same.filter _).map _).sum_eq
  have valid : entriesObjection journal.toJournalHeader entries = none := by
    simp only [entriesObjection, refuse_eq_none, not_and, not_not, not_lt, and_true]
    refine ⟨same.length_eq ▸ two, (same.map _).nodup_iff.2 ids, (same.map _).nodup_iff.2 lines,
      (same.map _).dedup.length_eq.trans currencies, ?_, ?_, lineage⟩
    · rw [totals, totals, balance]
    · intro predecessor
      obtain ⟨entry, mem, link⟩ := linked predecessor
      exact ⟨entry, same.mem_iff.2 mem, link⟩
  exact ⟨_, dif_pos valid, rfl, rfl⟩

theorem replayView_of_perm {other : LedgerJournal}
    (header : other.toJournalHeader = journal.toJournalHeader)
    (same : other.entries.Perm journal.entries) :
    deterministicReplayView other = deterministicReplayView journal := by
  have distinct : (journal.entries.map fun entry => entry.lineIndex.1).Nodup := by
    have lines := journal.entry_checks.2.2.1.map Subtype.val_injective
    rwa [List.map_map] at lines
  have ordered := orderedBy_congr_perm same (List.inj_on_of_nodup_map distinct)
  obtain ⟨_, entries, _⟩ := journal
  obtain ⟨_, others, _⟩ := other
  cases header
  simp only [deterministicReplayView, ordered]

private theorem stored_of_posted {s t : LedgerStore}
    (housed : Housed s) (posted : Posted journal s t) :
    t.journals.find journal.journalId = some journal.toJournalHeader ∧
      entryRows t journal.journalId =
        orderedBy (fun entry => entry.lineIndex.1) journal.entries := by
  have fresh : ∀ header ∈ s.journals.rows, header.journalId ≠ journal.journalId :=
    Table.find_eq_none.1 (Table.find_eq_none_of_rows_append posted.journals)
  have none_before : (s.entries.rows.filter fun row => row.journalId = journal.journalId) = [] := by
    refine List.filter_eq_nil_iff.2 fun row held same => ?_
    obtain ⟨header, stands, id⟩ := List.mem_map.1 (housed row held)
    exact fresh header stands (id.trans (of_decide_eq_true same))
  refine ⟨Table.find_of_mem (by rw [posted.journals]; simp), ?_⟩
  unfold entryRows
  rw [posted.entries, List.filter_append, none_before, List.nil_append, List.filter_map]
  simp [Function.comp_def]

/-- A journal has one replay view: every arrangement of its entries is valid and has it, and so
has what is read back once the journal is posted to a ledger whose entries belong to journals. -/
theorem replay_view_canonical (calculations : Calculations) (journal : LedgerJournal) :
    (∀ entries : List LedgerEntry, entries.Perm journal.entries →
      ∃ other, LedgerJournal.validate? journal.toJournalHeader entries = .ok other ∧
        deterministicReplayView other = deterministicReplayView journal) ∧
    ∀ (ledger t : LedgerStore) (result : LedgerJournal), Housed ledger →
      postJournal calculations journal ledger = .ok (result, t) →
      ∃ read, getJournal journal.journalId t = .ok (some read, t) ∧
        deterministicReplayView read = deterministicReplayView journal := by
  constructor
  · intro entries same
    obtain ⟨other, valid, header, arranged⟩ := validate?_of_perm same
    exact ⟨other, valid, replayView_of_perm header (arranged ▸ same)⟩
  · intro ledger t result housed ran
    obtain ⟨_, posted⟩ := postJournal_ok ran
    obtain ⟨found, rows⟩ := stored_of_posted housed posted
    have same : (entryRows t journal.journalId).Perm journal.entries :=
      rows ▸ List.perm_insertionSort _ _
    obtain ⟨read, valid, header, arranged⟩ := validate?_of_perm same
    refine ⟨read, ?_, replayView_of_perm header (arranged ▸ same)⟩
    simp only [getJournal, bind_ok, get_ok, whenSome_ok, attempt_ok, pure_ok]
    exact ⟨_, _, ⟨rfl, rfl⟩, .inl ⟨_, found, _, _, ⟨valid, rfl⟩, rfl, rfl⟩⟩

/-! The fare of ride 10, 500 minor units, as a journal between two accounts of book 40. -/

def sampleCalculation : FareCalculation :=
  { calculationId := 20, rideId := 10, riderIdentityId := 1, driverIdentityId := 2,
    state := .finalCalculated,
    breakdown := { currency := etb, riderTotalMinor := ⟨500, by decide, by decide⟩ },
    financialTraceability :=
      { rideRequestId := 11, dispatchHandoffId := some 12, assignmentId := some 13,
        activeRideId := some 10, fareEstimateId := 14, fareCalculationId := some 20 } }

def sampleJournal : LedgerJournal :=
  { journalId := 30, bookId := 40, businessEventType := ⟨"fare.calculated", by decide⟩,
    businessEventId := 20, operation := ⟨"fare.post", by decide⟩,
    idempotencyKey := ⟨"fare-posting-000001", by decide⟩, actorIdentityId := 9,
    sourceSystem := ⟨"pricing", by decide⟩, reasonCode := ⟨"fare.final", by decide⟩,
    traceability :=
      { rideRequestId := 11, dispatchHandoffId := 12, assignmentId := 13, activeRideId := 10,
        fareEstimateId := 14, fareCalculationId := 20 },
    predecessorLedgerJournalId := none, effectiveAt := 0, recordedAt := 0, correlationId := 50,
    causationId := 50, auditReference := 50,
    entries :=
      [{ entryId := 31, accountId := 41, side := .debit, amountMinor := ⟨500, by decide⟩,
         currency := etb, lineIndex := firstLine },
       { entryId := 32, accountId := 42, side := .credit, amountMinor := ⟨500, by decide⟩,
         currency := etb, lineIndex := secondLine }],
    valid := by decide }

def sampleCalculations : Calculations := fun id => if id = 20 then some sampleCalculation else none

def sampleLedger : LedgerStore where
  books :=
    ⟨[{ bookId := 40, code := sampleJournal.sourceSystem, baseCurrency := etb }],
      List.pairwise_singleton _ _⟩
  accounts :=
    ⟨[{ accountId := 41, bookId := 40, code := sampleJournal.operation, currency := etb },
      { accountId := 42, bookId := 40, code := sampleJournal.reasonCode, currency := etb }],
      by decide⟩

theorem replay_view_canonical_sample :
    (∃ other, LedgerJournal.validate? sampleJournal.toJournalHeader sampleJournal.entries.reverse =
        .ok other ∧ deterministicReplayView other = deterministicReplayView sampleJournal) ∧
      ∃ t read, getJournal 30 t = .ok (some read, t) ∧
        deterministicReplayView read = deterministicReplayView sampleJournal := by
  have housed : Housed sampleLedger := fun row held => by cases held
  obtain ⟨arranged, posted⟩ := replay_view_canonical sampleCalculations sampleJournal
  exact ⟨arranged _ (List.reverse_perm _), _, posted sampleLedger _ _ housed rfl⟩

end Ayo.Ledger.ReplayView
