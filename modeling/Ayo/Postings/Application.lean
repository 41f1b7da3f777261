/- digest: The posting service: lineage, journal, wallet and record of a command. -/

import Ayo.Persistence.Composition

namespace Ayo.Postings.Application

open Kernel.UnitOfWork Kernel.KeyedTable Core.Values Core.Authorization Ledger.Models
open Ledger.Repository (LedgerTransaction getJournal postJournal)
open Persistence.Composition Models Repository
open Settlement.Repository (itemsOfBatch)
open Wallet.Application (ConsumeRequest)
open Wallet.Models (WalletEntryType)
open Wallet.Repository (lineageOf)

variable {σ : Type}

/-- The random identifiers that one posting draws. -/
structure PostingIds where
  (postingId journalId auditReference : Uuid)
  (entryId lineId : LineIndex → Uuid)
  (walletAccountId walletEntryId : Uuid)

def lineageMissing : Failure := .conflict "financial_posting_lineage_missing"

def invalidLineage : Failure := .conflict "financial_posting_invalid_lineage"

def validateAndResolveLineage (reads : FinancialReads) (command : FinancialPostingCommand) :
    Transaction σ Failure LedgerTraceability :=
  match command.sourceType with
  | .completedPayment => do
    let attempt ← demand (reads.payments.attempts.find command.sourceId) lineageMissing
    require (attempt.state = .captured) invalidLineage
    let intent ← demand (reads.payments.intents.find attempt.paymentIntentId) lineageMissing
    let ledgerJournalId ← demand intent.traceability.ledgerJournalId invalidLineage
    pure
      { rideRequestId := intent.traceability.rideRequestId,
        dispatchHandoffId := intent.traceability.dispatchHandoffId,
        assignmentId := intent.traceability.assignmentId,
        activeRideId := intent.traceability.activeRideId,
        fareEstimateId := intent.traceability.fareEstimateId,
        fareCalculationId := intent.traceability.fareCalculationId,
        predecessorLedgerJournalId := some ledgerJournalId }
  | .approvedRefund => do
    let refund ← demand (reads.refunds.requests.find command.sourceId) lineageMissing
    require (refund.state ∈ [.approved, .scheduled, .completed]) invalidLineage
    pure
      { rideRequestId := refund.traceability.rideRequestId,
        dispatchHandoffId := refund.traceability.dispatchHandoffId,
        assignmentId := refund.traceability.assignmentId,
        activeRideId := refund.traceability.activeRideId,
        fareEstimateId := refund.traceability.fareEstimateId,
        fareCalculationId := refund.traceability.fareCalculationId,
        predecessorLedgerJournalId := some refund.traceability.ledgerJournalId }
  | .settlementEvent => do
    let batch ← demand (reads.settlements.batches.find command.sourceId) lineageMissing
    require (batch.state ∈ [.balanced, .readyForSettlement, .resolved]) invalidLineage
    let first ← demand (itemsOfBatch reads.settlements batch.settlementBatchId).head? lineageMissing
    pure
      { rideRequestId := first.traceability.rideRequestId,
        dispatchHandoffId := first.traceability.dispatchHandoffId,
        assignmentId := first.traceability.assignmentId,
        activeRideId := first.traceability.activeRideId,
        fareEstimateId := first.traceability.fareEstimateId,
        fareCalculationId := first.traceability.fareCalculationId,
        predecessorLedgerJournalId := some first.traceability.ledgerJournalId }
  | .walletAdjustment => throw (.conflict "financial_posting_source_not_supported")

def bookIdFromLines (accounts : Table LedgerAccount) (lines : List FinancialPostingLineCommand) :
    Transaction σ Failure Uuid := do
  let first ← demand (lines.head?.bind fun line => accounts.find line.accountId)
    (.conflict "financial_posting_ledger_account_not_found")
  require (∀ line ∈ lines, (accounts.find line.accountId).isSome = true)
    (.conflict "financial_posting_ledger_account_not_found")
  require (∀ line ∈ lines,
      (accounts.find line.accountId).map LedgerAccount.bookId = some first.bookId)
    (.conflict "financial_posting_ledger_book_mismatch")
  pure first.bookId

def resolvePredecessorEntry (traceability : LedgerTraceability) (accountId : Uuid)
    (side : LedgerEntrySide) : LedgerTransaction (Option Uuid) :=
  whenSome traceability.predecessorLedgerJournalId (fun predecessorJournalId => do
      let found ← getJournal predecessorJournalId
      let predecessor ← demand found invalidLineage
      let entry ← demand
        (predecessor.entries.find? fun entry => entry.accountId = accountId ∧ entry.side = side)
        invalidLineage
      pure (some entry.entryId))
    (pure none)

def ledgerEntries (traceability : LedgerTraceability) (currency : Currency)
    (entryId : LineIndex → Uuid) :
    List FinancialPostingLineCommand → LedgerTransaction (List LedgerEntry)
  | [] => pure []
  | line :: rest => do
    let predecessorEntryId ← resolvePredecessorEntry traceability line.accountId
      line.side.ledgerSide
    let entries ← ledgerEntries traceability currency entryId rest
    pure
      ({ entryId := entryId line.lineIndex, accountId := line.accountId,
         side := line.side.ledgerSide, amountMinor := line.amountMinor, currency,
         lineIndex := line.lineIndex, predecessorEntryId } :: entries)

def walletEntryTypeFor : FinancialPostingSourceType → Transaction σ Failure WalletEntryType
  | .completedPayment => pure .pendingCredit
  | .approvedRefund => pure .availableDebit
  | .settlementEvent => pure .pendingRelease
  | .walletAdjustment => throw (.conflict "financial_posting_source_not_supported")

def financialPostingEngine : Code := ⟨"financial_posting_engine", by decide⟩

section

variable (hash : Payload → Digest) (reads : FinancialReads) (subject : AuthorizationSubject)
  (command : FinancialPostingCommand) (ids : PostingIds)

def postingPayload : Payload :=
  [("source_type", .text command.sourceType.value), ("source_id", .uuid command.sourceId),
   ("operation", .text command.operation.1), ("reason_code", .text command.reasonCode.1),
   ("currency", .text command.currency.1),
   ("lines", .list (command.sortedLines.map fun line =>
     [("line_index", .number line.lineIndex.1), ("account_id", .uuid line.accountId),
      ("side", .text line.side.value), ("amount_minor", .number line.amountMinor.1)])),
   ("wallet_owner_identity_id", .uuid command.walletOwnerIdentityId),
   ("wallet_amount_minor", .text (toString command.walletAmountMinor.1))]

def postCommandJournal (traceability : LedgerTraceability) : LedgerTransaction LedgerJournal := do
  let ledger ← get
  let bookId ← bookIdFromLines ledger.accounts command.lines
  let entries ← ledgerEntries traceability command.currency ids.entryId command.sortedLines
  let journal ← attempt (LedgerJournal.validate?
    { journalId := ids.journalId, bookId, businessEventType := command.sourceType.eventType,
      businessEventId := command.sourceId, operation := command.operation,
      idempotencyKey := command.idempotencyKey, actorIdentityId := subject.identityId,
      sourceSystem := financialPostingEngine, reasonCode := command.reasonCode, traceability,
      predecessorLedgerJournalId := none, effectiveAt := command.occurredAt,
      recordedAt := command.occurredAt, correlationId := command.correlationId,
      causationId := command.causationId, auditReference := ids.auditReference }
    entries)
  postJournal reads.calculations journal

def walletRequest (entryType : WalletEntryType) (journalId : Uuid) : ConsumeRequest :=
  { ownerIdentityId := command.walletOwnerIdentityId, authoritativeSourceType := .ledgerJournal,
    authoritativeSourceId := journalId, entryType, amountMinor := command.walletAmountMinor.1,
    reasonCode := "financial_posting.wallet." ++ command.sourceType.value,
    idempotencyKey := "wallet:" ++ command.operation.1 ++ ":" ++ command.idempotencyKey.1,
    correlationId := command.correlationId, causationId := command.causationId,
    time := .utc command.occurredAt, accountCandidateId := ids.walletAccountId,
    candidateId := ids.walletEntryId }

/-- The wallet entry of a posting, read back as the last one of its owner. -/
def moveWallet (journalId : Uuid) : FinancialTransaction Uuid := do
  let entryType ← walletEntryTypeFor command.sourceType
  let account ← consumeAuthoritativeEventWithUnit hash reads subject
    (walletRequest command ids entryType journalId)
  let store ← get
  let last ← demand (lineageOf store.wallets account.walletAccountId).getLast?
    (.conflict "financial_posting_wallet_lineage_missing")
  pure last.walletEntryId

def recordedLines (postingId : Uuid) : List FinancialPostingLine :=
  command.sortedLines.map fun line =>
    { postingLineId := ids.lineId line.lineIndex, postingId, lineIndex := line.lineIndex,
      accountId := line.accountId, side := line.side, amountMinor := line.amountMinor,
      currency := command.currency }

def recordPosting (postingId : Uuid) (totals : Int × Int) (journalId walletEntryId : Uuid) :
    FinancialTransaction (FinancialPosting × List FinancialPostingLine) := do
  let totalDebitMinor ← demand (minor? totals.1) (.field "total_debit_minor")
  let totalCreditMinor ← demand (minor? totals.2) (.field "total_credit_minor")
  let posting ← demand (if balanced : totalDebitMinor = totalCreditMinor then
      some
        { postingId, sourceType := command.sourceType, sourceId := command.sourceId,
          operation := command.operation, reasonCode := command.reasonCode,
          currency := command.currency, totalDebitMinor, totalCreditMinor,
          actorIdentityId := subject.identityId, ledgerJournalId := journalId, walletEntryId,
          correlationId := command.correlationId, causationId := command.causationId,
          createdAt := command.occurredAt, balanced }
    else
      none)
    (.value "Financial posting must be balanced")
  let lines := recordedLines command ids postingId
  let _ ← onPostings (createPosting posting lines)
  pure (posting, lines)

def post : FinancialTransaction (FinancialPosting × List FinancialPostingLine) := do
  requirePermission reads.grants subject "financial.posting.create" (.utc command.occurredAt)
  require (subject.identityType = .service)
    (.conflict "financial_posting_service_identity_required")
  let totals ← validateBalancedLines command.lines (.utc command.occurredAt)
  let traceability ← validateAndResolveLineage reads command
  let canonical ← onPostings (reserveIdempotency hash subject.identityId command.operation.1
    command.idempotencyKey.1 (postingPayload command) ids.postingId (.utc command.occurredAt))
  let existing ← onPostings (getPosting canonical)
  whenSome existing (fun posting => do
      let lines ← onPostings (listLines posting.postingId)
      pure (posting, lines))
    (do
      let journal ← onLedger (postCommandJournal reads subject command ids traceability)
      let walletEntryId ← moveWallet hash reads subject command ids journal.journalId
      recordPosting subject command ids canonical totals journal.journalId walletEntryId)

end

end Ayo.Postings.Application
