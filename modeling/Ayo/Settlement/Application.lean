/- digest: The commands of the settlement service over payments, refunds and holds. -/

import Ayo.FinancialControl.Application

namespace Ayo.Settlement.Application

open Kernel.UnitOfWork Core.Values Core.Authorization Pricing.Models
open Ledger.Models (LedgerJournal)
open Payment.Repository (PaymentStore)
open Refund.Repository (RefundStore)
open FinancialControl.Models (blocksReadiness)
open FinancialControl.Repository (HoldStore holdsForSource)
open Models Repository

/-- What one command reads outside the settlement and hold stores. -/
structure SettlementReads where
  grants : Grants
  payments : PaymentStore
  refunds : RefundStore
  calculations : Calculations
  journals : Uuid → Option LedgerJournal

structure CreateBatchRequest where
  idempotencyKey : String
  (correlationId causationId : Uuid)
  time : DateTime
  metadataSafe : SafeTexts := []
  candidateId : Uuid

structure CollectItemRequest where
  (settlementBatchId rideId fareCalculationId paymentIntentId paymentAttemptId : Uuid)
  ledgerJournalId : Uuid
  reconciliationType : ReconciliationType
  amountMinor : Int
  refundRequestId : Option Uuid
  idempotencyKey : String
  correlationId : Uuid
  time : DateTime
  candidateId : Uuid

structure ReconcileItemRequest where
  (settlementBatchId settlementItemId : Uuid)
  result : ReconciliationResult
  (reasonCode idempotencyKey : String)
  correlationId : Uuid
  time : DateTime
  decisionSafe : SafeTexts := []
  (recordId exceptionId : Uuid)

/-- The arguments of the commands on a whole batch; `evidenceId` is the identifier of the approval
or of the hold evidence that the command may append. -/
structure BatchRequest where
  settlementBatchId : Uuid
  (reasonCode idempotencyKey : String)
  correlationId : Uuid
  time : DateTime
  evidenceId : Uuid

structure InvestigateRequest where
  (settlementBatchId settlementItemId : Uuid)
  exceptionType : ReconciliationExceptionType
  (reasonCode idempotencyKey : String)
  correlationId : Uuid
  time : DateTime
  exceptionId : Uuid

structure ResolveRequest where
  (settlementBatchId settlementItemId : Uuid)
  (resolutionCode idempotencyKey : String)
  correlationId : Uuid
  time : DateTime
  exceptionId : Uuid

structure ExternalEvidenceRequest where
  settlementBatchId : Uuid
  evidenceType : SettlementEvidenceType
  (providerCode providerReference evidenceFingerprint idempotencyKey : String)
  correlationId : Uuid
  time : DateTime
  evidenceId : Uuid

variable (hash : Payload → Digest) (holds : HoldStore) (reads : SettlementReads)
  (subject : AuthorizationSubject)

def utc (text : String) (value : DateTime) : SettlementTransaction Instant := do
  require (value.aware = true) (.value text)
  pure value.instant

def requireServiceIdentity : SettlementTransaction Unit :=
  require (subject.identityType = .service) (.conflict "settlement_service_identity_required")

def batchOf (settlementBatchId : Uuid) : SettlementTransaction SettlementBatch := do
  let found ← getBatch settlementBatchId
  demand found (.conflict "settlement_batch_not_found")

def joinedMetadata (metadataSafe : SafeTexts) : String :=
  "|".intercalate ((metadataSafe.mergeSort fun a b => a.1 < b.1 || a.1 == b.1).map
    fun item => item.1 ++ "=" ++ item.2)

def createBatch (request : CreateBatchRequest) : SettlementTransaction SettlementBatch := do
  requirePermission reads.grants subject "settlement.batch.create" request.time
  requireServiceIdentity subject
  validateIdempotencyKey request.idempotencyKey
  let canonical ← reserveIdempotency hash subject.identityId "settlement.batch.create"
    request.idempotencyKey
    [("created_at", .time request.time),
     ("metadata_safe", .text (joinedMetadata request.metadataSafe))]
    request.candidateId request.time
  let found ← getBatch canonical
  whenSome found (fun existing => pure existing)
    (do
      let createdAt ← utc "Settlement timestamps must be timezone-aware" request.time
      Repository.createBatch
        { settlementBatchId := canonical, state := .created,
          createdByIdentityId := subject.identityId, createdAt, lastTransitionAt := createdAt,
          readyForSettlementAt := none, metadataSafe := request.metadataSafe,
          correlationId := request.correlationId, causationId := request.causationId,
          transitionLater := Int.le_refl createdAt, readyLater := none_later createdAt })

def startedBatch (batch : SettlementBatch) (states : List SettlementBatchState)
    (targetState : SettlementBatchState) (time : DateTime) (correlationId causationId : Uuid) :
    SettlementTransaction SettlementBatch :=
  if batch.state ∈ states then
    transitionBatch batch.settlementBatchId targetState time correlationId causationId
  else
    pure batch

/-- The checks of an item against the payment, pricing, ledger and refund records it names, with
the currency and the traceability it takes from them. No other item is read. -/
def itemLineage (request : CollectItemRequest) :
    SettlementTransaction (Currency × ReconciliationTraceability) := do
  let intent ← demand (reads.payments.intents.find request.paymentIntentId)
    (.conflict "settlement_payment_reference_not_found")
  let attempt ← demand (reads.payments.attempts.find request.paymentAttemptId)
    (.conflict "settlement_payment_reference_not_found")
  let calculation ← demand (reads.calculations request.fareCalculationId)
    (.conflict "settlement_fare_not_found")
  let journal ← demand (reads.journals request.ledgerJournalId)
    (.conflict "settlement_ledger_not_found")
  require (intent.rideId = request.rideId ∧ calculation.rideId = request.rideId)
    (.conflict "settlement_linkage_conflict")
  require (attempt.paymentIntentId = intent.paymentIntentId)
    (.conflict "settlement_linkage_conflict")
  require (intent.traceability.fareCalculationId = request.fareCalculationId)
    (.conflict "settlement_linkage_conflict")
  require (intent.traceability.ledgerJournalId = some request.ledgerJournalId)
    (.conflict "settlement_linkage_conflict")
  require (journal.businessEventId = calculation.calculationId)
    (.conflict "settlement_linkage_conflict")
  require (attempt.state = .captured ∨ attempt.state = .outcomeUnknown)
    (.conflict "settlement_payment_not_reconcilable")
  whenSome request.refundRequestId (fun refundRequestId => do
      let refund ← demand (reads.refunds.requests.find refundRequestId)
        (.conflict "settlement_refund_not_found")
      require (refund.rideId = request.rideId ∧
          refund.fareCalculationId = request.fareCalculationId ∧
          refund.paymentIntentId = request.paymentIntentId ∧
          refund.paymentAttemptId = request.paymentAttemptId ∧
          refund.ledgerJournalId = request.ledgerJournalId)
        (.conflict "settlement_linkage_conflict"))
    (pure ())
  -- the four identifiers that the command checks for presence are always present in an intent
  let trace := intent.traceability
  pure (attempt.currency,
    { rideRequestId := trace.rideRequestId, dispatchHandoffId := trace.dispatchHandoffId,
      assignmentId := trace.assignmentId, activeRideId := trace.activeRideId,
      fareEstimateId := trace.fareEstimateId, fareCalculationId := trace.fareCalculationId,
      ledgerJournalId := request.ledgerJournalId })

def collectItem (request : CollectItemRequest) : SettlementTransaction SettlementItem := do
  requirePermission reads.grants subject "settlement.collect.run" request.time
  requireServiceIdentity subject
  validateIdempotencyKey request.idempotencyKey
  let canonical ← reserveIdempotency hash subject.identityId "settlement.item.collect"
    request.idempotencyKey
    [("settlement_batch_id", .uuid request.settlementBatchId), ("ride_id", .uuid request.rideId),
     ("fare_calculation_id", .uuid request.fareCalculationId),
     ("payment_intent_id", .uuid request.paymentIntentId),
     ("payment_attempt_id", .uuid request.paymentAttemptId),
     ("ledger_journal_id", .uuid request.ledgerJournalId),
     ("reconciliation_type", .text request.reconciliationType.value),
     ("amount_minor", .text (toString request.amountMinor)),
     ("refund_request_id", request.refundRequestId.elim (.text "") .uuid)]
    request.candidateId request.time
  let found ← getItem canonical
  whenSome found (fun existing => pure existing)
    (do
      let stored ← batchOf request.settlementBatchId
      let batch ← startedBatch stored [.created] .collecting request.time request.correlationId
        request.settlementBatchId
      require (batch.state = .collecting) (.conflict "settlement_batch_not_collecting")
      let (currency, traceability) ← itemLineage reads request
      let amountMinor ← demand (MinorAmount.ofInt? request.amountMinor) (.field "amount_minor")
      let createdAt ← utc "Settlement timestamps must be timezone-aware" request.time
      addItem
        { settlementItemId := canonical, settlementBatchId := request.settlementBatchId,
          rideId := request.rideId, fareCalculationId := request.fareCalculationId,
          paymentIntentId := request.paymentIntentId,
          paymentAttemptId := request.paymentAttemptId,
          refundRequestId := request.refundRequestId,
          ledgerJournalId := request.ledgerJournalId,
          reconciliationType := request.reconciliationType, amountMinor, currency, traceability,
          createdAt })

def raisesException : ReconciliationResult → Bool
  | .mismatch => true
  | .missing => true
  | .duplicate => true
  | .manualReviewRequired => true
  | .matched => false
  | .partiallyMatched => false

def raiseException (request : ReconcileItemRequest) : SettlementTransaction Unit :=
  if raisesException request.result = true then do
    let raisedAt ← utc "Settlement timestamps must be timezone-aware" request.time
    appendException
      { reconciliationExceptionId := request.exceptionId,
        settlementBatchId := request.settlementBatchId,
        settlementItemId := request.settlementItemId,
        exceptionType := exceptionFromResult request.result, exceptionState := .exception,
        detailsSafe := [("reason_code", request.reasonCode)],
        raisedByIdentityId := subject.identityId, raisedAt, resolutionCode := none,
        resolvedByIdentityId := none, resolvedAt := none,
        correlationId := request.correlationId, causationId := request.settlementItemId,
        chronological := none_later raisedAt }
    let _ ← transitionBatch request.settlementBatchId .exception request.time
      request.correlationId request.settlementItemId
    pure ()
  else
    pure ()

def reconcileItem (request : ReconcileItemRequest) :
    SettlementTransaction ReconciliationRecord := do
  requirePermission reads.grants subject "settlement.reconcile.run" request.time
  requireServiceIdentity subject
  validateIdempotencyKey request.idempotencyKey
  let _ ← reserveIdempotency hash subject.identityId "settlement.item.reconcile"
    request.idempotencyKey
    [("settlement_batch_id", .uuid request.settlementBatchId),
     ("settlement_item_id", .uuid request.settlementItemId),
     ("result", .text request.result.value), ("reason_code", .text request.reasonCode)]
    request.settlementItemId request.time
  let stored ← batchOf request.settlementBatchId
  let batch ← startedBatch stored [.created, .collecting] .reconciling request.time
    request.correlationId request.settlementItemId
  require (batch.state = .reconciling) (.conflict "settlement_batch_not_reconciling")
  let found ← getItem request.settlementItemId
  let item ← demand found (.conflict "settlement_item_not_found")
  require (item.settlementBatchId = request.settlementBatchId)
    (.conflict "settlement_item_not_found")
  let reasonCode ← demand (code? request.reasonCode) (.field "reason_code")
  let recordedAt ← utc "Settlement timestamps must be timezone-aware" request.time
  let record ← appendReconciliationRecord
    { reconciliationRecordId := request.recordId, settlementBatchId := request.settlementBatchId,
      settlementItemId := request.settlementItemId,
      reconciliationType := item.reconciliationType, result := request.result, reasonCode,
      decisionSafe := request.decisionSafe, recordedByIdentityId := subject.identityId, recordedAt,
      correlationId := request.correlationId, causationId := request.settlementItemId }
  raiseException subject request
  pure record

variable (request : BatchRequest)

def markBalanced : SettlementTransaction SettlementBatch := do
  requirePermission reads.grants subject "settlement.reconcile.run" request.time
  requireServiceIdentity subject
  validateIdempotencyKey request.idempotencyKey
  let _ ← reserveIdempotency hash subject.identityId "settlement.batch.balanced"
    request.idempotencyKey
    [("settlement_batch_id", .uuid request.settlementBatchId),
     ("reason_code", .text request.reasonCode)]
    request.settlementBatchId request.time
  let batch ← batchOf request.settlementBatchId
  require (batch.state = .reconciling) (.conflict "settlement_batch_not_reconciling")
  let exceptions ← listExceptions request.settlementBatchId
  require (exceptions.isEmpty = true) (.conflict "settlement_batch_has_exceptions")
  let items ← listItems request.settlementBatchId
  require (items.isEmpty = false) (.conflict "settlement_batch_no_items")
  transitionBatch request.settlementBatchId .balanced request.time request.correlationId
    request.settlementBatchId

/-- The last part of the two finance decisions: a human who did not create the batch decides. -/
def recordDecision (batch : SettlementBatch) (decision : SettlementApprovalDecision) :
    SettlementTransaction SettlementApproval := do
  require (subject.identityType = .staff ∨ subject.identityType = .administrator)
    (.conflict "settlement_human_approval_required")
  require (batch.createdByIdentityId ≠ subject.identityId)
    (.conflict "settlement_maker_checker_required")
  let reasonCode ← demand (code? request.reasonCode) (.field "reason_code")
  let decidedByActorType ← demand (refine? _ subject.identityType.actorType)
    (.field "decided_by_actor_type")
  let decidedAt ← utc "Settlement approval timestamps must be timezone-aware" request.time
  let approval ← demand (if separationOfDuties : batch.createdByIdentityId ≠ subject.identityId then
      some
        { settlementApprovalId := request.evidenceId,
          settlementBatchId := request.settlementBatchId, decision, reasonCode,
          preparedByIdentityId := batch.createdByIdentityId,
          decidedByIdentityId := subject.identityId, decidedByActorType, decidedAt,
          correlationId := request.correlationId, causationId := request.settlementBatchId,
          separationOfDuties }
    else
      none)
    (.value "Settlement preparer cannot approve their own batch")
  appendApproval approval

def approveSettlementReadiness : SettlementTransaction SettlementApproval := do
  requirePermission reads.grants subject "settlement.ready.approve" request.time
  validateIdempotencyKey request.idempotencyKey
  let _ ← reserveIdempotency hash subject.identityId "settlement.batch.finance_approve"
    request.idempotencyKey
    [("settlement_batch_id", .uuid request.settlementBatchId),
     ("reason_code", .text request.reasonCode)]
    request.settlementBatchId request.time
  let batch ← batchOf request.settlementBatchId
  require (batch.state = .balanced) (.conflict "settlement_batch_not_balanced")
  recordDecision subject request batch .approved

def rejectSettlementReadiness : SettlementTransaction SettlementApproval := do
  requirePermission reads.grants subject "settlement.ready.reject" request.time
  validateIdempotencyKey request.idempotencyKey
  let _ ← reserveIdempotency hash subject.identityId "settlement.batch.finance_reject"
    request.idempotencyKey
    [("settlement_batch_id", .uuid request.settlementBatchId),
     ("reason_code", .text request.reasonCode)]
    request.settlementBatchId request.time
  let batch ← batchOf request.settlementBatchId
  recordDecision subject request batch .rejected

def markReadyForSettlement : SettlementTransaction SettlementBatch := do
  requirePermission reads.grants subject "settlement.reconcile.run" request.time
  requireServiceIdentity subject
  validateIdempotencyKey request.idempotencyKey
  let _ ← reserveIdempotency hash subject.identityId "settlement.batch.ready" request.idempotencyKey
    [("settlement_batch_id", .uuid request.settlementBatchId),
     ("reason_code", .text request.reasonCode)]
    request.settlementBatchId request.time
  let batch ← batchOf request.settlementBatchId
  require (batch.state = .balanced) (.conflict "settlement_batch_not_balanced")
  let approvals ← listApprovals request.settlementBatchId
  let last ← demand approvals.getLast? (.conflict "settlement_finance_approval_required")
  require (last.decision = .approved) (.conflict "settlement_finance_approval_required")
  let blocking := (holdsForSource holds .settlementBatch request.settlementBatchId).reverse.find?
    fun hold => blocksReadiness hold.state
  let evaluatedAt ← utc "Settlement hold timestamps must be timezone-aware" request.time
  appendHoldEvidence
    { settlementHoldEvidenceId := request.evidenceId,
      settlementBatchId := request.settlementBatchId,
      financialHoldId := blocking.map FinancialControl.Models.FinancialHold.holdId,
      holdState := blocking.elim "none" fun hold => hold.state.value,
      blocksReadiness := blocking.isSome, evaluatedByIdentityId := subject.identityId, evaluatedAt,
      correlationId := request.correlationId, causationId := request.settlementBatchId }
  require (blocking.isNone = true) (.conflict "settlement_blocked_by_financial_hold")
  transitionBatch request.settlementBatchId .readyForSettlement request.time request.correlationId
    request.settlementBatchId

def investigateException (request : InvestigateRequest) :
    SettlementTransaction SettlementBatch := do
  requirePermission reads.grants subject "settlement.exception.investigate" request.time
  validateIdempotencyKey request.idempotencyKey
  let _ ← reserveIdempotency hash subject.identityId "settlement.exception.investigate"
    request.idempotencyKey
    [("settlement_batch_id", .uuid request.settlementBatchId),
     ("settlement_item_id", .uuid request.settlementItemId),
     ("exception_type", .text request.exceptionType.value),
     ("reason_code", .text request.reasonCode)]
    request.settlementBatchId request.time
  let batch ← batchOf request.settlementBatchId
  require (batch.state = .exception) (.conflict "settlement_batch_not_exception")
  let raisedAt ← utc "Settlement timestamps must be timezone-aware" request.time
  appendException
    { reconciliationExceptionId := request.exceptionId,
      settlementBatchId := request.settlementBatchId,
      settlementItemId := request.settlementItemId, exceptionType := request.exceptionType,
      exceptionState := .manualReview, detailsSafe := [("reason_code", request.reasonCode)],
      raisedByIdentityId := subject.identityId, raisedAt, resolutionCode := none,
      resolvedByIdentityId := none, resolvedAt := none, correlationId := request.correlationId,
      causationId := request.settlementItemId, chronological := none_later raisedAt }
  transitionBatch request.settlementBatchId .manualReview request.time request.correlationId
    request.settlementItemId

def resolveException (request : ResolveRequest) : SettlementTransaction SettlementBatch := do
  requirePermission reads.grants subject "settlement.exception.investigate" request.time
  validateIdempotencyKey request.idempotencyKey
  let _ ← reserveIdempotency hash subject.identityId "settlement.exception.resolve"
    request.idempotencyKey
    [("settlement_batch_id", .uuid request.settlementBatchId),
     ("settlement_item_id", .uuid request.settlementItemId),
     ("resolution_code", .text request.resolutionCode)]
    request.settlementBatchId request.time
  let batch ← batchOf request.settlementBatchId
  require (batch.state = .manualReview) (.conflict "settlement_batch_not_manual_review")
  let resolutionCode ← demand (code? request.resolutionCode) (.field "resolution_code")
  let raisedAt ← utc "Settlement timestamps must be timezone-aware" request.time
  appendException
    { reconciliationExceptionId := request.exceptionId,
      settlementBatchId := request.settlementBatchId,
      settlementItemId := request.settlementItemId, exceptionType := .manualInvestigation,
      exceptionState := .resolved, detailsSafe := [("resolution_code", request.resolutionCode)],
      raisedByIdentityId := subject.identityId, raisedAt, resolutionCode := some resolutionCode,
      resolvedByIdentityId := some subject.identityId, resolvedAt := some raisedAt,
      correlationId := request.correlationId, causationId := request.settlementItemId,
      chronological := some_later (Int.le_refl raisedAt) }
  transitionBatch request.settlementBatchId .resolved request.time request.correlationId
    request.settlementItemId

def recordExternalEvidence (request : ExternalEvidenceRequest) :
    SettlementTransaction SettlementExternalEvidence := do
  requirePermission reads.grants subject "settlement.evidence.record" request.time
  requireServiceIdentity subject
  validateIdempotencyKey request.idempotencyKey
  let _ ← reserveIdempotency hash subject.identityId
    ("settlement.evidence." ++ request.evidenceType.value) request.idempotencyKey
    [("settlement_batch_id", .uuid request.settlementBatchId),
     ("provider_code", .text request.providerCode),
     ("provider_reference", .text request.providerReference),
     ("evidence_fingerprint", .text request.evidenceFingerprint)]
    request.settlementBatchId request.time
  let _ ← batchOf request.settlementBatchId
  let prior ← listExternalEvidence request.settlementBatchId
  require (request.evidenceType = .confirmation →
      ∃ evidence ∈ prior, evidence.evidenceType = .submission ∧
        evidence.providerCode.1 = request.providerCode)
    (.conflict "settlement_submission_evidence_required")
  let providerCode ← demand (code? request.providerCode) (.field "provider_code")
  let providerReference ← demand (boundedText? 8 128 request.providerReference)
    (.field "provider_reference")
  let evidenceFingerprint ← demand (refine? _ request.evidenceFingerprint)
    (.field "evidence_fingerprint")
  let recordedAt ← utc "Settlement evidence timestamps must be timezone-aware" request.time
  appendExternalEvidence
    { settlementExternalEvidenceId := request.evidenceId,
      settlementBatchId := request.settlementBatchId, evidenceType := request.evidenceType,
      providerCode, providerReference, evidenceFingerprint,
      recordedByIdentityId := subject.identityId, recordedAt,
      correlationId := request.correlationId, causationId := request.settlementBatchId }

inductive SettlementCommand where
  | createBatch (request : CreateBatchRequest)
  | collectItem (request : CollectItemRequest)
  | reconcileItem (request : ReconcileItemRequest)
  | markBalanced (request : BatchRequest)
  | approveSettlementReadiness (request : BatchRequest)
  | rejectSettlementReadiness (request : BatchRequest)
  | markReadyForSettlement (request : BatchRequest)
  | investigateException (request : InvestigateRequest)
  | resolveException (request : ResolveRequest)
  | recordExternalEvidence (request : ExternalEvidenceRequest)

structure SettlementCall where
  reads : SettlementReads
  subject : AuthorizationSubject
  command : SettlementCommand

/-- One unit of work of the settlement service over the current holds. -/
def step (store : SettlementStore) (call : SettlementCall) : SettlementStore :=
  match call.command with
  | .createBatch request => commit (createBatch hash call.reads call.subject request) store
  | .collectItem request => commit (collectItem hash call.reads call.subject request) store
  | .reconcileItem request => commit (reconcileItem hash call.reads call.subject request) store
  | .markBalanced request => commit (markBalanced hash call.reads call.subject request) store
  | .approveSettlementReadiness request =>
    commit (approveSettlementReadiness hash call.reads call.subject request) store
  | .rejectSettlementReadiness request =>
    commit (rejectSettlementReadiness hash call.reads call.subject request) store
  | .markReadyForSettlement request =>
    commit (markReadyForSettlement hash holds call.reads call.subject request) store
  | .investigateException request =>
    commit (investigateException hash call.reads call.subject request) store
  | .resolveException request => commit (resolveException hash call.reads call.subject request) store
  | .recordExternalEvidence request =>
    commit (recordExternalEvidence hash call.reads call.subject request) store

end Ayo.Settlement.Application
