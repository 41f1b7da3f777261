/- digest: The settlement batch lifecycle, its records and its store. -/

import Ayo.Core.Authorization
import Ayo.Kernel.Ordering

namespace Ayo.Settlement.Models

open Kernel.UnitOfWork Kernel.KeyedTable Core.Values Core.Lifecycle

variable {σ : Type}

inductive ReconciliationType where
  | rideReconciliation
  | paymentReconciliation
  | refundReconciliation
  | providerReconciliation
  | settlementReconciliation
  | manualAdjustmentReview
deriving DecidableEq

def ReconciliationType.value : ReconciliationType → String
  | .rideReconciliation => "ride_reconciliation"
  | .paymentReconciliation => "payment_reconciliation"
  | .refundReconciliation => "refund_reconciliation"
  | .providerReconciliation => "provider_reconciliation"
  | .settlementReconciliation => "settlement_reconciliation"
  | .manualAdjustmentReview => "manual_adjustment_review"

inductive ReconciliationResult where
  | matched
  | partiallyMatched
  | mismatch
  | missing
  | duplicate
  | manualReviewRequired
deriving DecidableEq

def ReconciliationResult.value : ReconciliationResult → String
  | .matched => "matched"
  | .partiallyMatched => "partially_matched"
  | .mismatch => "mismatch"
  | .missing => "missing"
  | .duplicate => "duplicate"
  | .manualReviewRequired => "manual_review_required"

inductive SettlementBatchState where
  | created
  | collecting
  | reconciling
  | balanced
  | readyForSettlement
  | exception
  | manualReview
  | resolved
deriving DecidableEq

def SettlementBatchState.value : SettlementBatchState → String
  | .created => "created"
  | .collecting => "collecting"
  | .reconciling => "reconciling"
  | .balanced => "balanced"
  | .readyForSettlement => "ready_for_settlement"
  | .exception => "exception"
  | .manualReview => "manual_review"
  | .resolved => "resolved"

inductive ReconciliationExceptionType where
  | duplicatePayment
  | missingCallback
  | amountMismatch
  | currencyMismatch
  | refundMismatch
  | orphanPayment
  | lateCallback
  | unknownOutcome
  | manualInvestigation
  | missingExpectedRecord
  | missingObservedRecord
  | referenceMismatch
  | statusMismatch
  | timingMismatch
  | unauthorizedRecord

def ReconciliationExceptionType.value : ReconciliationExceptionType → String
  | .duplicatePayment => "duplicate_payment"
  | .missingCallback => "missing_callback"
  | .amountMismatch => "amount_mismatch"
  | .currencyMismatch => "currency_mismatch"
  | .refundMismatch => "refund_mismatch"
  | .orphanPayment => "orphan_payment"
  | .lateCallback => "late_callback"
  | .unknownOutcome => "unknown_outcome"
  | .manualInvestigation => "manual_investigation"
  | .missingExpectedRecord => "missing_expected_record"
  | .missingObservedRecord => "missing_observed_record"
  | .referenceMismatch => "reference_mismatch"
  | .statusMismatch => "status_mismatch"
  | .timingMismatch => "timing_mismatch"
  | .unauthorizedRecord => "unauthorized_record"

inductive SettlementApprovalDecision where
  | approved
  | rejected
  | revoked
deriving DecidableEq

inductive SettlementEvidenceType where
  | submission
  | confirmation
  | failure
deriving DecidableEq

def SettlementEvidenceType.value : SettlementEvidenceType → String
  | .submission => "submission"
  | .confirmation => "confirmation"
  | .failure => "failure"

def allowedBatchTransitions : SettlementBatchState → List SettlementBatchState
  | .created => [.collecting, .reconciling]
  | .collecting => [.reconciling]
  | .reconciling => [.balanced, .exception]
  | .balanced => [.readyForSettlement]
  | .exception => [.manualReview]
  | .manualReview => [.resolved]
  | .resolved => []
  | .readyForSettlement => []

def ensureBatchTransitionAllowed (current target : SettlementBatchState) (time : DateTime) :
    Transaction σ Failure Unit :=
  ensureTimedTransitionAllowed allowedBatchTransitions "settlement_timestamp_invalid"
    "settlement_transition_invalid" current target time

def exceptionFromResult : ReconciliationResult → ReconciliationExceptionType
  | .mismatch => .amountMismatch
  | .missing => .missingCallback
  | .duplicate => .duplicatePayment
  | .manualReviewRequired => .manualInvestigation
  | .matched => .unknownOutcome
  | .partiallyMatched => .refundMismatch

abbrev SafeTexts := List (String × String)

structure ReconciliationTraceability where
  (rideRequestId dispatchHandoffId assignmentId activeRideId fareEstimateId : Uuid)
  (fareCalculationId ledgerJournalId : Uuid)
deriving DecidableEq

structure SettlementBatch where
  settlementBatchId : Uuid
  state : SettlementBatchState
  createdByIdentityId : Uuid
  (createdAt lastTransitionAt : Instant)
  readyForSettlementAt : Option Instant
  metadataSafe : SafeTexts
  (correlationId causationId : Uuid)
  transitionLater : createdAt ≤ lastTransitionAt
  readyLater : ∀ ready ∈ readyForSettlementAt, createdAt ≤ ready

structure SettlementItem where
  (settlementItemId settlementBatchId rideId fareCalculationId paymentIntentId : Uuid)
  paymentAttemptId : Uuid
  refundRequestId : Option Uuid
  ledgerJournalId : Uuid
  reconciliationType : ReconciliationType
  amountMinor : MinorAmount
  currency : Currency
  traceability : ReconciliationTraceability
  createdAt : Instant
deriving DecidableEq

structure ReconciliationRecord where
  (reconciliationRecordId settlementBatchId settlementItemId : Uuid)
  reconciliationType : ReconciliationType
  result : ReconciliationResult
  reasonCode : Code
  decisionSafe : SafeTexts
  recordedByIdentityId : Uuid
  recordedAt : Instant
  (correlationId causationId : Uuid)

structure ReconciliationException where
  (reconciliationExceptionId settlementBatchId settlementItemId : Uuid)
  exceptionType : ReconciliationExceptionType
  exceptionState : SettlementBatchState
  detailsSafe : SafeTexts
  raisedByIdentityId : Uuid
  raisedAt : Instant
  resolutionCode : Option Code
  resolvedByIdentityId : Option Uuid
  resolvedAt : Option Instant
  (correlationId causationId : Uuid)
  chronological : ∀ resolution ∈ resolvedAt, raisedAt ≤ resolution

structure SettlementApproval where
  (settlementApprovalId settlementBatchId : Uuid)
  decision : SettlementApprovalDecision
  reasonCode : Code
  (preparedByIdentityId decidedByIdentityId : Uuid)
  decidedByActorType : { text : String // text = "staff" ∨ text = "administrator" }
  decidedAt : Instant
  (correlationId causationId : Uuid)
  separationOfDuties : preparedByIdentityId ≠ decidedByIdentityId

structure SettlementHoldEvidence where
  (settlementHoldEvidenceId settlementBatchId : Uuid)
  financialHoldId : Option Uuid
  holdState : String
  blocksReadiness : Bool
  evaluatedByIdentityId : Uuid
  evaluatedAt : Instant
  (correlationId causationId : Uuid)

/-- `^[a-f0-9]{32,128}$`. -/
def isEvidenceFingerprint (text : String) : Bool :=
  (32 ≤ text.toList.length && text.toList.length ≤ 128) &&
    text.toList.all fun c => ('a' ≤ c && c ≤ 'f') || c.isDigit

structure SettlementExternalEvidence where
  (settlementExternalEvidenceId settlementBatchId : Uuid)
  evidenceType : SettlementEvidenceType
  providerCode : Code
  providerReference : BoundedText 8 128
  evidenceFingerprint : { text : String // isEvidenceFingerprint text = true }
  recordedByIdentityId : Uuid
  recordedAt : Instant
  (correlationId causationId : Uuid)

instance : Row SettlementBatch Uuid := .keyed SettlementBatch.settlementBatchId

/-- The primary key is the only uniqueness rule of the items. -/
instance : Row SettlementItem Uuid := .keyed SettlementItem.settlementItemId

instance : Row ReconciliationRecord Uuid := .keyed ReconciliationRecord.reconciliationRecordId

instance : Row ReconciliationException Uuid :=
  .keyed ReconciliationException.reconciliationExceptionId

/-- The primary key and `uq_settlement_approval_evidence`. -/
instance : Row SettlementApproval Uuid :=
  .keyedUnique SettlementApproval.settlementApprovalId fun row =>
    (row.settlementBatchId, row.decision, row.decidedByIdentityId, row.decidedAt)

instance : Row SettlementHoldEvidence Uuid := .keyed SettlementHoldEvidence.settlementHoldEvidenceId

/-- The primary key and `uq_settlement_external_evidence_reference`. -/
instance : Row SettlementExternalEvidence Uuid :=
  .keyedUnique SettlementExternalEvidence.settlementExternalEvidenceId fun row =>
    (row.providerCode, row.providerReference, row.evidenceType)

theorem ensureBatchTransitionAllowed_bind_ok {α : Type} {old target : SettlementBatchState}
    {time : DateTime} {f : Unit → Transaction σ Failure α} {s t : σ} {a : α} :
    (ensureBatchTransitionAllowed old target time >>= f) s = .ok (a, t) ↔
      Follows allowedBatchTransitions old target ∧
        (target ≠ old → time.aware = true) ∧ f () s = .ok (a, t) :=
  ensureTimedTransitionAllowed_bind_ok

end Ayo.Settlement.Models

/-! The settlement store, its writers and its ordered readers. -/

namespace Ayo.Settlement.Repository

open Kernel.UnitOfWork Kernel.KeyedTable Kernel.Ordering Core.Values
open Core.Authorization (Reservation)
open Models

structure SettlementStore where
  batches : Table SettlementBatch := .empty
  items : Table SettlementItem := .empty
  records : Table ReconciliationRecord := .empty
  exceptions : Table ReconciliationException := .empty
  approvals : Table SettlementApproval := .empty
  holdEvidence : Table SettlementHoldEvidence := .empty
  externalEvidence : Table SettlementExternalEvidence := .empty
  idempotency : Table Reservation := .empty
  events : List Event := []

abbrev SettlementTransaction (α : Type) := Transaction SettlementStore Failure α

def reserveIdempotency (hash : Payload → Digest) (actorId : Uuid) (operation key : String)
    (payload : Payload) (responseReference : Uuid) (time : DateTime) : SettlementTransaction Uuid :=
  within SettlementStore.idempotency (fun idempotency store => { store with idempotency })
    (Core.Authorization.reserveIdempotency hash actorId operation key payload responseReference
      time)

def recordEvent (aggregateType : String) (aggregateId : Uuid) (eventType : String)
    (occurredAt : Instant) (correlationId causationId : Uuid) : SettlementTransaction Unit := do
  let store ← get
  put { store with
    events := store.events ++
      [{ aggregateType, aggregateId, eventType, occurredAt, correlationId, causationId }] }

def createBatch (batch : SettlementBatch) : SettlementTransaction SettlementBatch := do
  require (batch.state = .created) (.conflict "settlement_batch_invalid_initial_state")
  let store ← get
  let batches ← demand (store.batches.insert? batch) (.integrity "settlement_batches")
  put { store with batches }
  recordEvent "settlement_batch" batch.settlementBatchId "settlement.batch_created" batch.createdAt
    batch.correlationId batch.causationId
  pure batch

variable (store : SettlementStore) (settlementBatchId : Uuid)

def getBatch : SettlementTransaction (Option SettlementBatch) := do
  let store ← get
  pure (store.batches.find settlementBatchId)

def transitionBatch (targetState : SettlementBatchState) (time : DateTime)
    (correlationId causationId : Uuid) : SettlementTransaction SettlementBatch := do
  let found ← getBatch settlementBatchId
  let current ← demand found (.conflict "settlement_batch_not_found")
  ensureBatchTransitionAllowed current.state targetState time
  let readyForSettlementAt :=
    if targetState = .readyForSettlement then some time.instant else current.readyForSettlementAt
  -- the check constraints on the two times of the table
  let changed ← demand (if later : current.createdAt ≤ time.instant ∧
        ∀ ready ∈ readyForSettlementAt, current.createdAt ≤ ready then
      some { current with
        state := targetState, lastTransitionAt := time.instant, readyForSettlementAt,
        transitionLater := later.1, readyLater := later.2 }
    else
      none)
    (.integrity "settlement_batches")
  let store ← get
  let batches ← demand (store.batches.replace? changed) (.integrity "settlement_batches")
  put { store with batches }
  recordEvent "settlement_batch" changed.settlementBatchId
    ("settlement.batch_" ++ changed.state.value) time.instant correlationId causationId
  pure changed

def addItem (item : SettlementItem) : SettlementTransaction SettlementItem := do
  -- the check constraint `settlement_item_etb_nonnegative` of the table
  require (item.currency.1 = "ETB") (.integrity "settlement_items")
  let store ← get
  let items ← demand (store.items.insert? item) (.integrity "settlement_items")
  put { store with items }
  recordEvent "settlement_item" item.settlementItemId "settlement.item_collected" item.createdAt
    item.settlementItemId item.settlementBatchId
  pure item

def getItem (settlementItemId : Uuid) : SettlementTransaction (Option SettlementItem) := do
  let store ← get
  pure (store.items.find settlementItemId)

def itemsOfBatch : List SettlementItem :=
  orderedBy (fun item => toLex (item.createdAt, item.settlementItemId))
    (store.items.rows.filter fun item => item.settlementBatchId = settlementBatchId)

def listItems : SettlementTransaction (List SettlementItem) := do
  let store ← get
  pure (itemsOfBatch store settlementBatchId)

def appendReconciliationRecord (record : ReconciliationRecord) :
    SettlementTransaction ReconciliationRecord := do
  let store ← get
  let records ← demand (store.records.insert? record) (.integrity "reconciliation_records")
  put { store with records }
  pure record

def appendException (exception : ReconciliationException) : SettlementTransaction Unit := do
  let store ← get
  -- the foreign key of the table; the item need not belong to the batch
  require ((store.items.find exception.settlementItemId).isSome = true)
    (.integrity "settlement_items")
  let exceptions ← demand (store.exceptions.insert? exception)
    (.integrity "reconciliation_exceptions")
  put { store with exceptions }

def exceptionsOfBatch : List ReconciliationException :=
  orderedBy (fun exception => toLex (exception.raisedAt, exception.reconciliationExceptionId))
    (store.exceptions.rows.filter fun exception =>
      exception.settlementBatchId = settlementBatchId)

def listExceptions : SettlementTransaction (List ReconciliationException) := do
  let store ← get
  pure (exceptionsOfBatch store settlementBatchId)

def appendApproval (approval : SettlementApproval) : SettlementTransaction SettlementApproval := do
  let store ← get
  let approvals ← demand (store.approvals.insert? approval) (.integrity "settlement_approvals")
  put { store with approvals }
  pure approval

def approvalsOfBatch : List SettlementApproval :=
  orderedBy (fun approval => toLex (approval.decidedAt, approval.settlementApprovalId))
    (store.approvals.rows.filter fun approval => approval.settlementBatchId = settlementBatchId)

def listApprovals : SettlementTransaction (List SettlementApproval) := do
  let store ← get
  pure (approvalsOfBatch store settlementBatchId)

def appendHoldEvidence (evidence : SettlementHoldEvidence) : SettlementTransaction Unit := do
  let store ← get
  let holdEvidence ← demand (store.holdEvidence.insert? evidence)
    (.integrity "settlement_hold_evidence")
  put { store with holdEvidence }

def appendExternalEvidence (evidence : SettlementExternalEvidence) :
    SettlementTransaction SettlementExternalEvidence := do
  let store ← get
  let externalEvidence ← demand (store.externalEvidence.insert? evidence)
    (.integrity "settlement_external_evidence")
  put { store with externalEvidence }
  pure evidence

def listExternalEvidence : SettlementTransaction (List SettlementExternalEvidence) := do
  let store ← get
  pure (orderedBy
    (fun evidence => toLex (evidence.recordedAt, evidence.settlementExternalEvidenceId))
    (store.externalEvidence.rows.filter fun evidence =>
      evidence.settlementBatchId = settlementBatchId))

variable {store : SettlementStore} {settlementBatchId : Uuid}

theorem mem_itemsOfBatch {item : SettlementItem} : item ∈ itemsOfBatch store settlementBatchId ↔
      item ∈ store.items.rows ∧ item.settlementBatchId = settlementBatchId := by
  simp [itemsOfBatch]

theorem mem_exceptionsOfBatch {exception : ReconciliationException} :
    exception ∈ exceptionsOfBatch store settlementBatchId ↔
      exception ∈ store.exceptions.rows ∧ exception.settlementBatchId = settlementBatchId := by
  simp [exceptionsOfBatch]

theorem last_approvalsOfBatch {last : SettlementApproval}
    (ends : (approvalsOfBatch store settlementBatchId).getLast? = some last) :
    (last ∈ store.approvals.rows ∧ last.settlementBatchId = settlementBatchId) ∧
      ∀ approval ∈ store.approvals.rows, approval.settlementBatchId = settlementBatchId →
        toLex (approval.decidedAt, approval.settlementApprovalId) ≤
          toLex (last.decidedAt, last.settlementApprovalId) := by
  obtain ⟨listed, greatest⟩ := le_of_getLast?_orderedBy ends
  refine ⟨by simpa using listed, fun approval mem same => ?_⟩
  exact greatest approval (List.mem_filter.2 ⟨mem, by simpa using same⟩)

end Ayo.Settlement.Repository
