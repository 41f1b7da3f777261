/- digest: Posting commands and their lines, the postings they leave, and their store. -/

import Ayo.Ledger.Repository

namespace Ayo.Postings.Models

open Kernel.UnitOfWork Kernel.KeyedTable Kernel.Ordering Core.Values
open Ledger.Models (LedgerEntrySide LineIndex Minor)

variable {σ : Type}

inductive FinancialPostingSourceType where
  | completedPayment
  | approvedRefund
  | settlementEvent
  | walletAdjustment
deriving DecidableEq

def FinancialPostingSourceType.value : FinancialPostingSourceType → String
  | .completedPayment => "completed_payment"
  | .approvedRefund => "approved_refund"
  | .settlementEvent => "settlement_event"
  | .walletAdjustment => "wallet_adjustment"

def FinancialPostingSourceType.eventType : FinancialPostingSourceType → Code
  | .completedPayment => ⟨"financial_posting.completed_payment", by decide⟩
  | .approvedRefund => ⟨"financial_posting.approved_refund", by decide⟩
  | .settlementEvent => ⟨"financial_posting.settlement_event", by decide⟩
  | .walletAdjustment => ⟨"financial_posting.wallet_adjustment", by decide⟩

inductive FinancialPostingEntrySide where
  | debit
  | credit
deriving DecidableEq

def FinancialPostingEntrySide.value : FinancialPostingEntrySide → String
  | .debit => "debit"
  | .credit => "credit"

def FinancialPostingEntrySide.ledgerSide : FinancialPostingEntrySide → LedgerEntrySide
  | .debit => .debit
  | .credit => .credit

structure FinancialPostingLineCommand where
  lineIndex : LineIndex
  accountId : Uuid
  side : FinancialPostingEntrySide
  amountMinor : Minor

structure FinancialPostingCommand where
  sourceType : FinancialPostingSourceType
  sourceId : Uuid
  (operation reasonCode : Code)
  currency : Currency
  lines : List FinancialPostingLineCommand
  walletOwnerIdentityId : Uuid
  walletAmountMinor : Minor
  idempotencyKey : BoundedText 16 128
  (correlationId causationId : Uuid)
  occurredAt : Instant
  enough : 2 ≤ lines.length
  indexed : (lines.map FinancialPostingLineCommand.lineIndex).Nodup
  inEtb : currency = etb

def FinancialPostingCommand.sortedLines (command : FinancialPostingCommand) :
    List FinancialPostingLineCommand :=
  orderedBy (fun line => line.lineIndex.1) command.lines

/-- A posting; its two totals agree. -/
structure FinancialPosting where
  postingId : Uuid
  sourceType : FinancialPostingSourceType
  sourceId : Uuid
  (operation reasonCode : Code)
  currency : Currency
  (totalDebitMinor totalCreditMinor : Minor)
  (actorIdentityId ledgerJournalId walletEntryId correlationId causationId : Uuid)
  createdAt : Instant
  balanced : totalDebitMinor = totalCreditMinor

structure FinancialPostingLine where
  (postingLineId postingId : Uuid)
  lineIndex : LineIndex
  accountId : Uuid
  side : FinancialPostingEntrySide
  amountMinor : Minor
  currency : Currency

/-- The primary key, the unique journal and wallet entry, and
`uq_financial_posting_source_operation`. -/
instance : Row FinancialPosting Uuid where
  key := FinancialPosting.postingId
  clash a b := a.postingId = b.postingId ∨ a.ledgerJournalId = b.ledgerJournalId ∨
    a.walletEntryId = b.walletEntryId ∨
    (a.sourceType, a.sourceId, a.operation) = (b.sourceType, b.sourceId, b.operation)
  clash_symm clash := clash.imp Eq.symm fun clash => clash.imp Eq.symm fun clash =>
    clash.imp Eq.symm Eq.symm

instance : Row FinancialPostingLine Uuid :=
  .keyedUnique FinancialPostingLine.postingLineId fun row => (row.postingId, row.lineIndex)

def sideSum (side : FinancialPostingEntrySide) (lines : List FinancialPostingLineCommand) : Int :=
  ((lines.filter fun line => line.side = side).map fun line => line.amountMinor.1).sum

def validateBalancedLines (lines : List FinancialPostingLineCommand) (time : DateTime) :
    Transaction σ Failure (Int × Int) := do
  require (time.aware = true) (.conflict "financial_posting_timestamp_invalid")
  let debit := sideSum .debit lines
  let credit := sideSum .credit lines
  require (0 < debit ∧ 0 < credit) (.conflict "financial_posting_amount_invalid")
  require (debit = credit) (.conflict "financial_posting_not_balanced")
  pure (debit, credit)

end Ayo.Postings.Models

/-! The store of financial postings. -/

namespace Ayo.Postings.Repository

open Kernel.UnitOfWork Kernel.KeyedTable Kernel.Ordering Core.Values
open Core.Authorization (Reservation)
open Models

structure PostingStore where
  postings : Table FinancialPosting := .empty
  lines : Table FinancialPostingLine := .empty
  idempotency : Table Reservation := .empty
  events : List Event := []

abbrev PostingTransaction (α : Type) := Transaction PostingStore Failure α

def reserveIdempotency (hash : Payload → Digest) (actorId : Uuid) (operation key : String)
    (payload : Payload) (responseReference : Uuid) (time : DateTime) : PostingTransaction Uuid :=
  within PostingStore.idempotency (fun idempotency store => { store with idempotency })
    (Core.Authorization.reserveIdempotency hash actorId operation key payload responseReference
      time)

def getPosting (postingId : Uuid) : PostingTransaction (Option FinancialPosting) := do
  let store ← get
  pure (store.postings.find postingId)

def listLines (postingId : Uuid) : PostingTransaction (List FinancialPostingLine) := do
  let store ← get
  pure (orderedBy (fun line => line.lineIndex.1)
    (store.lines.rows.filter fun line => line.postingId = postingId))

def createPosting (posting : FinancialPosting) (lines : List FinancialPostingLine) :
    PostingTransaction FinancialPosting := do
  let store ← get
  let postings ← demand (store.postings.insert? posting) (.integrity "financial_postings")
  let lines ← demand (store.lines.insertAll? lines) (.integrity "financial_posting_lines")
  put { store with
    postings, lines,
    events := store.events ++
      [{ aggregateType := "financial_posting", aggregateId := posting.postingId,
         eventType := "financial_posting.posted", occurredAt := posting.createdAt,
         correlationId := posting.correlationId, causationId := posting.causationId }] }
  pure posting

end Ayo.Postings.Repository
