/- digest: Books, accounts and journals of the ledger, their writer and readers. -/

import Ayo.Core.Authorization
import Ayo.Kernel.Grouping
import Ayo.Kernel.Ordering
import Ayo.Pricing.Records
import Mathlib.Data.List.Dedup

namespace Ayo.Ledger.Models

open Kernel.KeyedTable Core.Values

inductive LedgerEntrySide where
  | debit
  | credit
deriving DecidableEq

structure LedgerBook where
  bookId : Uuid
  code : Code
  baseCurrency : Currency

structure LedgerAccount where
  (accountId bookId : Uuid)
  code : Code
  currency : Currency

structure LedgerTraceability where
  (rideRequestId dispatchHandoffId assignmentId activeRideId fareEstimateId : Uuid)
  fareCalculationId : Uuid
  predecessorLedgerJournalId : Option Uuid := none
  walletId : Option Uuid := none
  settlementId : Option Uuid := none
  driverPayoutId : Option Uuid := none
  riderPaymentId : Option Uuid := none
  refundId : Option Uuid := none
  promotionId : Option Uuid := none
  referralId : Option Uuid := none
  loyaltyId : Option Uuid := none
  taxRecordId : Option Uuid := none
  auditPackageId : Option Uuid := none
deriving DecidableEq

abbrev Minor := { amount : Int // 1 ≤ amount ∧ amount ≤ 10000000000 }

abbrev LineIndex := { index : Int // 1 ≤ index ∧ index ≤ 1024 }

def firstLine : LineIndex := ⟨1, by decide⟩

def secondLine : LineIndex := ⟨2, by decide⟩

def minor? (amount : Int) : Option Minor := refine? _ amount

def lineIndex? (index : Int) : Option LineIndex := refine? _ index

structure LedgerEntry where
  (entryId accountId : Uuid)
  side : LedgerEntrySide
  amountMinor : Minor
  currency : Currency
  lineIndex : LineIndex
  predecessorEntryId : Option Uuid := none
deriving DecidableEq

structure JournalHeader where
  (journalId bookId : Uuid)
  businessEventType : Code
  businessEventId : Uuid
  operation : Code
  idempotencyKey : BoundedText 16 128
  actorIdentityId : Uuid
  (sourceSystem reasonCode : Code)
  traceability : LedgerTraceability
  predecessorLedgerJournalId : Option Uuid
  (effectiveAt recordedAt : Instant)
  (correlationId causationId auditReference : Uuid)
deriving DecidableEq

def sideTotal (side : LedgerEntrySide) (entries : List LedgerEntry) : Int :=
  ((entries.filter fun entry => entry.side = side).map fun entry => entry.amountMinor.1).sum

def entriesObjection (header : JournalHeader) (entries : List LedgerEntry) : Option String :=
  refuse (entries.length < 2) "A journal requires at least two entries" <|
  refuse (¬ (entries.map LedgerEntry.entryId).Nodup) "Journal entry_id values must be unique" <|
  refuse (¬ (entries.map LedgerEntry.lineIndex).Nodup) "Journal line_index values must be unique" <|
  refuse ((entries.map LedgerEntry.currency).dedup.length ≠ 1)
    "A journal must use a single currency" <|
  refuse (sideTotal .debit entries ≠ sideTotal .credit entries) "A journal must be balanced" <|
  refuse (header.traceability.predecessorLedgerJournalId ≠ none ∧
      ¬ ∃ entry ∈ entries, entry.predecessorEntryId ≠ none)
    "Compensating journals must link at least one predecessor entry" <|
  refuse (header.predecessorLedgerJournalId ≠ none ∧
      header.traceability.predecessorLedgerJournalId ≠ header.predecessorLedgerJournalId)
    "Journal predecessor lineage must match traceability"
    none

structure LedgerJournal extends JournalHeader where
  entries : List LedgerEntry
  valid : entriesObjection toJournalHeader entries = none

def LedgerJournal.validate? (header : JournalHeader) (entries : List LedgerEntry) :
    Except Failure LedgerJournal :=
  if valid : entriesObjection header entries = none then
    .ok { header with entries, valid }
  else
    .error (.value ((entriesObjection header entries).getD ""))

def optionalUuid : Option Uuid → Json
  | some id => .uuid id
  | none => .null

def LedgerEntrySide.value : LedgerEntrySide → String
  | .debit => "debit"
  | .credit => "credit"

def LedgerTraceability.payload (traceability : LedgerTraceability) : Payload :=
  [("ride_request_id", .uuid traceability.rideRequestId),
   ("dispatch_handoff_id", .uuid traceability.dispatchHandoffId),
   ("assignment_id", .uuid traceability.assignmentId),
   ("active_ride_id", .uuid traceability.activeRideId),
   ("fare_estimate_id", .uuid traceability.fareEstimateId),
   ("fare_calculation_id", .uuid traceability.fareCalculationId),
   ("predecessor_ledger_journal_id", optionalUuid traceability.predecessorLedgerJournalId),
   ("wallet_id", optionalUuid traceability.walletId),
   ("settlement_id", optionalUuid traceability.settlementId),
   ("driver_payout_id", optionalUuid traceability.driverPayoutId),
   ("rider_payment_id", optionalUuid traceability.riderPaymentId),
   ("refund_id", optionalUuid traceability.refundId),
   ("promotion_id", optionalUuid traceability.promotionId),
   ("referral_id", optionalUuid traceability.referralId),
   ("loyalty_id", optionalUuid traceability.loyaltyId),
   ("tax_record_id", optionalUuid traceability.taxRecordId),
   ("audit_package_id", optionalUuid traceability.auditPackageId)]

def LedgerEntry.payload (entry : LedgerEntry) : Payload :=
  [("entry_id", .uuid entry.entryId), ("account_id", .uuid entry.accountId),
   ("side", .text entry.side.value), ("amount_minor", .number entry.amountMinor.1),
   ("currency", .text entry.currency.1), ("line_index", .number entry.lineIndex.1),
   ("predecessor_entry_id", optionalUuid entry.predecessorEntryId)]

variable (journal : LedgerJournal)

def LedgerJournal.payload : Payload :=
  [("journal_id", .uuid journal.journalId), ("book_id", .uuid journal.bookId),
   ("business_event_type", .text journal.businessEventType.1),
   ("business_event_id", .uuid journal.businessEventId),
   ("operation", .text journal.operation.1), ("idempotency_key", .text journal.idempotencyKey.1),
   ("actor_identity_id", .uuid journal.actorIdentityId),
   ("source_system", .text journal.sourceSystem.1), ("reason_code", .text journal.reasonCode.1),
   ("traceability", .list [journal.traceability.payload]),
   ("predecessor_ledger_journal_id", optionalUuid journal.predecessorLedgerJournalId),
   ("entries", .list (journal.entries.map LedgerEntry.payload)),
   ("effective_at", .time (.utc journal.effectiveAt)),
   ("recorded_at", .time (.utc journal.recordedAt)),
   ("correlation_id", .uuid journal.correlationId), ("causation_id", .uuid journal.causationId),
   ("audit_reference", .uuid journal.auditReference)]

structure LedgerBalance where
  accountId : Uuid
  currency : Currency
  (debitTotalMinor creditTotalMinor netMinor : Int)

structure EntryRow where
  journalId : Uuid
  entry : LedgerEntry

theorem LedgerJournal.validate?_ok {header : JournalHeader} {entries : List LedgerEntry}
    {journal : LedgerJournal} (valid : LedgerJournal.validate? header entries = .ok journal) :
    journal.toJournalHeader = header ∧ journal.entries = entries := by
  unfold LedgerJournal.validate? at valid
  split at valid
  · cases valid
    exact ⟨rfl, rfl⟩
  · cases valid

theorem LedgerJournal.entry_checks : 2 ≤ journal.entries.length ∧
      (journal.entries.map LedgerEntry.entryId).Nodup ∧
      (journal.entries.map LedgerEntry.lineIndex).Nodup ∧
      (journal.entries.map LedgerEntry.currency).dedup.length = 1 ∧
      sideTotal .debit journal.entries = sideTotal .credit journal.entries ∧
      (journal.traceability.predecessorLedgerJournalId ≠ none →
        ∃ entry ∈ journal.entries, entry.predecessorEntryId ≠ none) ∧
      (journal.predecessorLedgerJournalId ≠ none → journal.traceability.predecessorLedgerJournalId =
          journal.predecessorLedgerJournalId) := by
  have valid := journal.valid
  simp only [entriesObjection, refuse_eq_none, not_and, not_not, not_lt, and_true] at valid
  exact valid

theorem LedgerJournal.balanced :
    sideTotal .debit journal.entries = sideTotal .credit journal.entries :=
  journal.entry_checks.2.2.2.2.1

theorem LedgerJournal.single_currency :
    ∃ currency, ∀ entry ∈ journal.entries, entry.currency = currency := by
  obtain ⟨currency, only⟩ := List.length_eq_one_iff.1 journal.entry_checks.2.2.2.1
  refine ⟨currency, fun entry mem => ?_⟩
  have carried : entry.currency ∈ (journal.entries.map LedgerEntry.currency).dedup :=
    List.mem_dedup.2 (List.mem_map_of_mem mem)
  simpa [only] using carried

instance : Row LedgerBook Uuid :=
  .keyedUnique LedgerBook.bookId fun row => row.code

instance : Row LedgerAccount Uuid :=
  .keyedUnique LedgerAccount.accountId fun row => (row.bookId, row.code)

instance : Row JournalHeader Uuid :=
  .keyedUnique JournalHeader.journalId fun row =>
    (row.businessEventType, row.businessEventId, row.operation, row.idempotencyKey)

instance : Row EntryRow Uuid :=
  .keyedUnique (fun row => row.entry.entryId) fun row => (row.journalId, row.entry.lineIndex)

end Ayo.Ledger.Models

/-! The ledger store, the one writer of its journals and entries, and its readers. -/

namespace Ayo.Ledger.Repository

open Kernel.UnitOfWork Kernel.KeyedTable Kernel.Ordering Core.Values
open Core.Authorization (Reservation)
open Pricing.Models (Calculations)
open Models

structure LedgerStore where
  books : Table LedgerBook := .empty
  accounts : Table LedgerAccount := .empty
  journals : Table JournalHeader := .empty
  entries : Table EntryRow := .empty
  idempotency : Table Reservation := .empty
  events : List Event := []

abbrev LedgerTransaction (α : Type) := Transaction LedgerStore Failure α

def reserveIdempotency (hash : Payload → Digest) (actorId : Uuid) (operation key : String)
    (payload : Payload) (responseReference : Uuid) (time : DateTime) : LedgerTransaction Uuid :=
  within LedgerStore.idempotency (fun idempotency store => { store with idempotency })
    (Core.Authorization.reserveIdempotency hash actorId operation key payload responseReference
      time)

def ensureTraceabilitySource (calculations : Calculations) (journal : LedgerJournal) :
    LedgerTransaction Unit := do
  let row ← demand (calculations journal.traceability.fareCalculationId)
    (.conflict "ledger_traceability_conflict")
  let source := row.financialTraceability
  require (source.rideRequestId = journal.traceability.rideRequestId ∧
      source.dispatchHandoffId = some journal.traceability.dispatchHandoffId ∧
      source.assignmentId = some journal.traceability.assignmentId ∧
      source.activeRideId = some journal.traceability.activeRideId ∧
      source.fareEstimateId = journal.traceability.fareEstimateId ∧
      source.fareCalculationId = some journal.traceability.fareCalculationId)
    (.conflict "ledger_traceability_conflict")

variable (journal : LedgerJournal)

def ensureAccounts : LedgerTransaction Unit := do
  let store ← get
  require (∀ entry ∈ journal.entries, (store.accounts.find entry.accountId).isSome = true)
    (.conflict "ledger_account_not_found")
  require (∀ entry ∈ journal.entries,
      (store.accounts.find entry.accountId).map LedgerAccount.currency = some entry.currency)
    (.conflict "ledger_currency_mismatch")

variable (store : LedgerStore) (journalId : Uuid)

def entryRows : List LedgerEntry :=
  orderedBy (fun entry => entry.lineIndex.1)
    ((store.entries.rows.filter fun row => row.journalId = journalId).map EntryRow.entry)

def getJournal : LedgerTransaction (Option LedgerJournal) := do
  let store ← get
  whenSome (store.journals.find journalId) (fun header => do
      let journal ← attempt (LedgerJournal.validate? header (entryRows store journalId))
      pure (some journal))
    (pure none)

def insertJournal : LedgerTransaction Unit := do
  let store ← get
  require ((store.books.find journal.bookId).isSome = true) (.integrity "ledger_books")
  require (∀ predecessor ∈ journal.predecessorLedgerJournalId,
      (store.journals.find predecessor).isSome = true) (.integrity "ledger_journals")
  let journals ← demand (store.journals.insert? journal.toJournalHeader)
    (.integrity "ledger_journals")
  let entries ← demand
    (store.entries.insertAll? (journal.entries.map fun entry => ⟨journal.journalId, entry⟩))
    (.integrity "ledger_entries")
  put { store with
    journals, entries,
    events := store.events ++
      [{ aggregateType := "ledger_journal", aggregateId := journal.journalId,
         eventType := "ledger.journal_posted", occurredAt := journal.recordedAt,
         correlationId := journal.correlationId, causationId := journal.causationId }] }

def ensurePredecessor : LedgerTransaction Unit :=
  whenSome journal.traceability.predecessorLedgerJournalId (fun predecessorId => do
      let found ← getJournal predecessorId
      let predecessor ← demand found (.conflict "ledger_predecessor_not_found")
      require (predecessor.traceability.fareCalculationId = journal.traceability.fareCalculationId)
        (.conflict "ledger_traceability_conflict"))
    (pure ())

def postJournal (calculations : Calculations) (journal : LedgerJournal) :
    LedgerTransaction LedgerJournal := do
  ensureTraceabilitySource calculations journal
  ensureAccounts journal
  ensurePredecessor journal
  insertJournal journal
  pure journal

variable (accountId : Uuid) (currency : Currency)

def onAccount (row : EntryRow) : Bool :=
  row.entry.accountId = accountId && row.entry.currency = currency

/-- The loop of `account_balance`: a side other than debit is counted as credit. -/
def addRow (totals : Int × Int) (row : EntryRow) : Int × Int :=
  if row.entry.side = .debit then
    (totals.1 + row.entry.amountMinor.1, totals.2)
  else
    (totals.1, totals.2 + row.entry.amountMinor.1)

def balanceOf (rows : List EntryRow) : LedgerBalance :=
  let totals := (rows.filter (onAccount accountId currency)).foldl addRow (0, 0)
  { accountId, currency, debitTotalMinor := totals.1, creditTotalMinor := totals.2,
    netMinor := totals.1 - totals.2 }

def accountBalance : LedgerBalance :=
  balanceOf accountId currency store.entries.rows

def journalContribution : LedgerBalance :=
  balanceOf accountId currency (store.entries.rows.filter fun row => row.journalId = journalId)

structure Posted (journal : LedgerJournal) (s t : LedgerStore) : Prop where
  books : t.books = s.books
  accounts : t.accounts = s.accounts
  journals : t.journals.rows = s.journals.rows ++ [journal.toJournalHeader]
  entries : t.entries.rows =
    s.entries.rows ++ journal.entries.map fun entry => ⟨journal.journalId, entry⟩
  idempotency : t.idempotency = s.idempotency
  bookExists : (s.books.find journal.bookId).isSome = true
  accountCurrency : ∀ entry ∈ journal.entries,
    (s.accounts.find entry.accountId).map LedgerAccount.currency = some entry.currency
  predecessor : ∀ id, journal.traceability.predecessorLedgerJournalId = some id →
    ∃ header, s.journals.find id = some header

variable {s t : LedgerStore}

theorem getJournal_ok {journalId : Uuid}
    {found : Option LedgerJournal} (ran : getJournal journalId s = .ok (found, t)) :
    t = s ∧ ((found = none ∧ s.journals.find journalId = none) ∨ ∃ journal, found = some journal ∧
        s.journals.find journalId = some journal.toJournalHeader ∧
        journal.entries = entryRows s journalId) := by
  simp only [getJournal, bind_ok, get_ok, whenSome_ok, attempt_ok, pure_ok] at ran
  obtain ⟨_, _, ⟨rfl, rfl⟩, ⟨header, held, journal, _, ⟨valid, rfl⟩, rfl, rfl⟩ |
    ⟨absent, rfl, rfl⟩⟩ := ran
  · obtain ⟨same, entries⟩ := LedgerJournal.validate?_ok valid
    exact ⟨rfl, .inr ⟨journal, rfl, by rw [held, same], entries⟩⟩
  · exact ⟨rfl, .inl ⟨rfl, absent⟩⟩

theorem postJournal_ok {calculations : Calculations} {journal result : LedgerJournal}
    (ran : postJournal calculations journal s = .ok (result, t)) :
    result = journal ∧ Posted journal s t := by
  simp only [postJournal, bind_ok, pure_ok] at ran
  obtain ⟨_, s₁, traced, _, s₂, accounts, _, s₃, predecessor, _, s₄, inserted, rfl, rfl⟩ := ran
  simp only [ensureTraceabilitySource, bind_ok, demand_ok, require_ok] at traced
  obtain ⟨_, _, ⟨_, rfl⟩, _, rfl⟩ := traced
  simp only [ensureAccounts, bind_ok, get_ok, require_ok] at accounts
  obtain ⟨_, _, ⟨rfl, rfl⟩, _, _, ⟨_, rfl⟩, currencies, rfl⟩ := accounts
  have found : s₃ = s ∧ ∀ id, journal.traceability.predecessorLedgerJournalId = some id →
      ∃ header, s.journals.find id = some header := by
    simp only [ensurePredecessor, whenSome_ok, bind_ok, demand_ok, require_ok, pure_ok]
      at predecessor
    obtain ⟨id, named, found, _, read, earlier, _, ⟨rfl, rfl⟩, _, rfl⟩ | ⟨unnamed, _, rfl⟩ :=
      predecessor
    · obtain ⟨rfl, ⟨absent, _⟩ | ⟨other, _, held, _⟩⟩ := getJournal_ok read
      · cases absent
      · refine ⟨rfl, fun other_id same => ⟨other.toJournalHeader, ?_⟩⟩
        cases named.symm.trans same
        exact held
    · exact ⟨rfl, fun id same => by simp [unnamed] at same⟩
  obtain ⟨rfl, predecessors⟩ := found
  simp only [insertJournal, bind_ok, get_ok, require_ok, demand_ok, put_ok,
    Table.insert?_eq_some, Table.insertAll?_eq_some] at inserted
  obtain ⟨_, _, ⟨rfl, rfl⟩, _, _, ⟨book, rfl⟩, _, _, ⟨_, rfl⟩, journals, _, ⟨headers, rfl⟩, entries,
    _, ⟨rows, rfl⟩, rfl⟩ := inserted
  exact ⟨rfl, rfl, rfl, headers, rows, rfl, book, currencies, predecessors⟩

end Ayo.Ledger.Repository
