/- digest: The refund lifecycle, its store, and its commands over payments. -/

import Ayo.Payment.Application

namespace Ayo.Refund.Models

open Kernel.UnitOfWork Kernel.KeyedTable Core.Values Core.Lifecycle

variable {σ : Type}

inductive RefundType where
  | partialRefund
  | fullRefund
  | administrativeAdjustment
  | customerGoodwillAdjustment
  | systemCorrectionRequest
deriving DecidableEq

def RefundType.value : RefundType → String
  | .partialRefund => "partial_refund"
  | .fullRefund => "full_refund"
  | .administrativeAdjustment => "administrative_adjustment"
  | .customerGoodwillAdjustment => "customer_goodwill_adjustment"
  | .systemCorrectionRequest => "system_correction_request"

inductive RefundRequestState where
  | requested
  | underReview
  | approved
  | scheduled
  | completed
  | rejected
deriving DecidableEq

def RefundRequestState.value : RefundRequestState → String
  | .requested => "requested"
  | .underReview => "under_review"
  | .approved => "approved"
  | .scheduled => "scheduled"
  | .completed => "completed"
  | .rejected => "rejected"

inductive RefundDecisionType where
  | review
  | investigation
  | approval
  | rejection
  | scheduling
  | completion

def allowedRequestTransitions : RefundRequestState → List RefundRequestState
  | .requested => [.underReview, .rejected]
  | .underReview => [.approved]
  | .approved => [.scheduled]
  | .scheduled => [.completed]
  | .completed => []
  | .rejected => []

def ensureRequestTransitionAllowed (current target : RefundRequestState) (time : DateTime) :
    Transaction σ Failure Unit :=
  ensureTimedTransitionAllowed allowedRequestTransitions "refund_timestamp_invalid"
    "refund_transition_invalid" current target time

structure RefundTraceability where
  (rideRequestId dispatchHandoffId assignmentId activeRideId fareEstimateId : Uuid)
  (fareCalculationId ledgerJournalId : Uuid)

structure RefundRequest where
  (refundRequestId rideId fareCalculationId paymentIntentId paymentAttemptId ledgerJournalId : Uuid)
  refundType : RefundType
  state : RefundRequestState
  amountMinor : MinorAmount
  currency : Currency
  reasonCode : Code
  requestedByIdentityId : Uuid
  (requestedAt lastTransitionAt : Instant)
  (completedAt rejectedAt : Option Instant)
  (correlationId causationId : Uuid)
  traceability : RefundTraceability
  transitionLater : requestedAt ≤ lastTransitionAt
  completedLater : ∀ completion ∈ completedAt, requestedAt ≤ completion
  rejectedLater : ∀ rejection ∈ rejectedAt, requestedAt ≤ rejection

structure RefundDecision where
  (decisionId refundRequestId : Uuid)
  decisionType : RefundDecisionType
  decisionOutcome : String
  decidedByIdentityId : Uuid
  reasonCode : Code
  decidedAt : Instant
  (correlationId causationId : Uuid)

structure RefundAuthorization where
  (authorizationId refundRequestId authorizedByIdentityId : Uuid)
  authorityPermission : String
  reasonCode : Code
  authorizedAt : Instant
  (correlationId causationId : Uuid)

structure RefundEvidence where
  (evidenceId refundRequestId : Uuid)
  evidenceType : Code
  evidenceReference : BoundedText 3 160
  recordedByIdentityId : Uuid
  recordedAt : Instant
  (correlationId causationId : Uuid)

instance : Row RefundRequest Uuid := .keyed RefundRequest.refundRequestId

instance : Row RefundDecision Uuid := .keyed RefundDecision.decisionId

instance : Row RefundAuthorization Uuid := .keyed RefundAuthorization.authorizationId

instance : Row RefundEvidence Uuid :=
  .keyedUnique RefundEvidence.evidenceId fun row =>
    (row.refundRequestId, row.evidenceType, row.evidenceReference)

theorem ensureRequestTransitionAllowed_bind_ok {α : Type} {old target : RefundRequestState}
    {time : DateTime} {f : Unit → Transaction σ Failure α} {s t : σ} {a : α} :
    (ensureRequestTransitionAllowed old target time >>= f) s = .ok (a, t) ↔
      Follows allowedRequestTransitions old target ∧
        (target ≠ old → time.aware = true) ∧ f () s = .ok (a, t) :=
  ensureTimedTransitionAllowed_bind_ok

theorem eq_of_follows_rejected {target : RefundRequestState}
    (follows : Follows allowedRequestTransitions .rejected target) : target = .rejected := by
  simpa [Follows, allowedRequestTransitions] using follows

end Ayo.Refund.Models

/-! The refund store and its writers. -/

namespace Ayo.Refund.Repository

open Kernel.UnitOfWork Kernel.KeyedTable Core.Values
open Core.Authorization (Reservation)
open Models

structure RefundStore where
  requests : Table RefundRequest := .empty
  decisions : Table RefundDecision := .empty
  authorizations : Table RefundAuthorization := .empty
  evidence : Table RefundEvidence := .empty
  idempotency : Table Reservation := .empty
  events : List Event := []

abbrev RefundTransaction (α : Type) := Transaction RefundStore Failure α

def reserveIdempotency (hash : Payload → Digest) (actorId : Uuid) (operation key : String)
    (payload : Payload) (responseReference : Uuid) (time : DateTime) : RefundTransaction Uuid :=
  within RefundStore.idempotency (fun idempotency store => { store with idempotency })
    (Core.Authorization.reserveIdempotency hash actorId operation key payload responseReference
      time)

def recordEvent (aggregateId : Uuid) (eventType : String) (occurredAt : Instant)
    (correlationId causationId : Uuid) : RefundTransaction Unit := do
  let store ← get
  put { store with
    events := store.events ++
      [{ aggregateType := "refund_request", aggregateId, eventType, occurredAt, correlationId,
         causationId }] }

def getRequest (refundRequestId : Uuid) : RefundTransaction (Option RefundRequest) := do
  let store ← get
  pure (store.requests.find refundRequestId)

def createRequest (request : RefundRequest) : RefundTransaction RefundRequest := do
  require (request.state = .requested) (.conflict "refund_request_invalid_initial_state")
  -- the check constraint `refund_request_etb_nonnegative` of the table
  require (request.currency.1 = "ETB") (.integrity "refund_requests")
  let store ← get
  let requests ← demand (store.requests.insert? request) (.integrity "refund_requests")
  put { store with requests }
  recordEvent request.refundRequestId "refund.request_created" request.requestedAt
    request.correlationId request.causationId
  pure request

def transitionRequest (refundRequestId : Uuid) (targetState : RefundRequestState) (time : DateTime)
    (correlationId causationId : Uuid) : RefundTransaction RefundRequest := do
  let found ← getRequest refundRequestId
  let current ← demand found (.conflict "refund_request_not_found")
  ensureRequestTransitionAllowed current.state targetState time
  let completedAt := if targetState = .completed then some time.instant else current.completedAt
  let rejectedAt := if targetState = .rejected then some time.instant else current.rejectedAt
  -- the check constraints on the three times of the table
  let changed ← demand (if later : current.requestedAt ≤ time.instant ∧
        (∀ completion ∈ completedAt, current.requestedAt ≤ completion) ∧
        (∀ rejection ∈ rejectedAt, current.requestedAt ≤ rejection) then
      some { current with
        state := targetState, lastTransitionAt := time.instant, completedAt, rejectedAt,
        transitionLater := later.1, completedLater := later.2.1, rejectedLater := later.2.2 }
    else
      none)
    (.integrity "refund_requests")
  let store ← get
  let requests ← demand (store.requests.replace? changed) (.integrity "refund_requests")
  put { store with requests }
  recordEvent changed.refundRequestId ("refund.request_" ++ changed.state.value) time.instant
    correlationId causationId
  pure changed

def appendDecision (decision : RefundDecision) : RefundTransaction Unit := do
  let store ← get
  let decisions ← demand (store.decisions.insert? decision) (.integrity "refund_decisions")
  put { store with decisions }

def appendAuthorization (authorization : RefundAuthorization) : RefundTransaction Unit := do
  let store ← get
  let authorizations ← demand (store.authorizations.insert? authorization)
    (.integrity "refund_authorizations")
  put { store with authorizations }

def appendEvidence (evidence : RefundEvidence) : RefundTransaction Unit := do
  let store ← get
  let evidence ← demand (store.evidence.insert? evidence) (.integrity "refund_evidence")
  put { store with evidence }

end Ayo.Refund.Repository

/-! The commands of the refund orchestration service over the payments they refund. -/

namespace Ayo.Refund.Application

open Kernel.UnitOfWork Core.Values Core.Authorization Pricing.Models
open Ledger.Models (LedgerJournal)
open Payment.Models
open Payment.Repository (PaymentStore)
open Models Repository

structure RefundReads where
  grants : Grants
  calculations : Calculations
  journals : Uuid → Option LedgerJournal

structure RequestRefundRequest where
  (rideId fareCalculationId paymentIntentId paymentAttemptId ledgerJournalId : Uuid)
  refundType : RefundType
  amountMinor : Int
  (reasonCode idempotencyKey : String)
  (correlationId causationId : Uuid)
  time : DateTime
  (candidateId decisionId : Uuid)

structure AdvanceRequest where
  refundRequestId : Uuid
  (reasonCode idempotencyKey : String)
  correlationId : Uuid
  time : DateTime
  decisionId : Uuid

structure InvestigateRequest extends AdvanceRequest where
  (evidenceType evidenceReference : String)
  evidenceId : Uuid

structure ApproveRequest extends AdvanceRequest where
  authorizationId : Uuid

variable (hash : Payload → Digest) (reads : RefundReads) (payments : PaymentStore)
  (subject : AuthorizationSubject)

def utc (value : DateTime) : RefundTransaction Instant := do
  require (value.aware = true) (.value "Refund timestamps must be timezone-aware")
  pure value.instant

def validateRequestAmount (refundType : RefundType) (amountMinor paymentAmountMinor : Int) :
    RefundTransaction Unit := do
  require (0 ≤ amountMinor) (.conflict "refund_amount_invalid")
  require (amountMinor ≤ paymentAmountMinor) (.conflict "refund_amount_exceeds_payment")
  require (refundType = .fullRefund → amountMinor = paymentAmountMinor)
    (.conflict "refund_amount_must_equal_payment")
  require (refundType = .partialRefund → 0 < amountMinor ∧ amountMinor < paymentAmountMinor)
    (.conflict "refund_partial_amount_invalid")

def validateLinkage (request : RequestRefundRequest) :
    RefundTransaction (PaymentIntent × PaymentAttempt) := do
  let intent ← demand (payments.intents.find request.paymentIntentId)
    (.conflict "payment_intent_not_found")
  let attempt ← demand (payments.attempts.find request.paymentAttemptId)
    (.conflict "payment_attempt_not_found")
  require (attempt.paymentIntentId = intent.paymentIntentId) (.conflict "refund_linkage_conflict")
  require (attempt.state = .captured) (.conflict "refund_requires_captured_payment")
  require (intent.rideId = request.rideId) (.conflict "refund_linkage_conflict")
  require (intent.riderIdentityId = subject.identityId) (.conflict "refund_requester_not_owner")
  require (intent.traceability.fareCalculationId = request.fareCalculationId)
    (.conflict "refund_linkage_conflict")
  require (intent.traceability.ledgerJournalId = some request.ledgerJournalId)
    (.conflict "refund_linkage_conflict")
  let calculation ← demand (reads.calculations request.fareCalculationId)
    (.conflict "fare_calculation_not_found")
  let journal ← demand (reads.journals request.ledgerJournalId)
    (.conflict "ledger_journal_not_found")
  require (journal.businessEventId = calculation.calculationId) (.conflict "ledger_lineage_conflict")
  pure (intent, attempt)

def requestRefund (request : RequestRefundRequest) : RefundTransaction RefundRequest := do
  requirePermission reads.grants subject "refund.request.create" request.time
  require (subject.identityType = .rider) (.conflict "refund_customer_identity_required")
  validateIdempotencyKey request.idempotencyKey
  let canonical ← reserveIdempotency hash subject.identityId "refund.request.create"
    request.idempotencyKey
    [("ride_id", .uuid request.rideId), ("fare_calculation_id", .uuid request.fareCalculationId),
     ("payment_intent_id", .uuid request.paymentIntentId),
     ("payment_attempt_id", .uuid request.paymentAttemptId),
     ("ledger_journal_id", .uuid request.ledgerJournalId),
     ("refund_type", .text request.refundType.value),
     ("amount_minor", .text (toString request.amountMinor)),
     ("reason_code", .text request.reasonCode)]
    request.candidateId request.time
  let found ← getRequest canonical
  whenSome found (fun existing => pure existing)
    (do
      let (intent, attempt) ← validateLinkage reads payments subject request
      validateRequestAmount request.refundType request.amountMinor attempt.amountMinor.value
      let amountMinor ← demand (MinorAmount.ofInt? request.amountMinor) (.field "amount_minor")
      let reasonCode ← demand (code? request.reasonCode) (.field "reason_code")
      let requestedAt ← utc request.time
      let created ← createRequest
        { refundRequestId := canonical, rideId := request.rideId,
          fareCalculationId := request.fareCalculationId,
          paymentIntentId := request.paymentIntentId,
          paymentAttemptId := request.paymentAttemptId,
          ledgerJournalId := request.ledgerJournalId, refundType := request.refundType,
          state := .requested, amountMinor, currency := attempt.currency, reasonCode,
          requestedByIdentityId := subject.identityId, requestedAt,
          lastTransitionAt := requestedAt, completedAt := none, rejectedAt := none,
          correlationId := request.correlationId, causationId := request.causationId,
          traceability :=
            { rideRequestId := intent.traceability.rideRequestId,
              dispatchHandoffId := intent.traceability.dispatchHandoffId,
              assignmentId := intent.traceability.assignmentId,
              activeRideId := intent.traceability.activeRideId,
              fareEstimateId := intent.traceability.fareEstimateId,
              fareCalculationId := intent.traceability.fareCalculationId,
              ledgerJournalId := request.ledgerJournalId },
          transitionLater := Int.le_refl requestedAt, completedLater := none_later requestedAt,
          rejectedLater := none_later requestedAt }
      appendDecision
        { decisionId := request.decisionId, refundRequestId := created.refundRequestId,
          decisionType := .review, decisionOutcome := "requested",
          decidedByIdentityId := subject.identityId, reasonCode, decidedAt := requestedAt,
          correlationId := request.correlationId, causationId := request.causationId }
      pure created)

variable (request : AdvanceRequest)

def recordDecision (refundRequestId : Uuid) (decisionType : RefundDecisionType)
    (decisionOutcome : String) : RefundTransaction Unit := do
  let reasonCode ← demand (code? request.reasonCode) (.field "reason_code")
  let decidedAt ← utc request.time
  appendDecision
    { decisionId := request.decisionId, refundRequestId, decisionType, decisionOutcome,
      decidedByIdentityId := subject.identityId, reasonCode, decidedAt,
      correlationId := request.correlationId, causationId := request.refundRequestId }

/-- What the commands that move a request on have in common: reserve the key, move the request,
authorize where the command does, and record the decision. -/
def advance (operation : String) (targetState : RefundRequestState)
    (authorize : RefundTransaction Unit) (decisionType : RefundDecisionType)
    (decisionOutcome : String) : RefundTransaction RefundRequest := do
  validateIdempotencyKey request.idempotencyKey
  let _ ← reserveIdempotency hash subject.identityId operation request.idempotencyKey
    [("refund_request_id", .uuid request.refundRequestId), ("reason_code", .text request.reasonCode)]
    request.refundRequestId request.time
  let changed ← transitionRequest request.refundRequestId targetState request.time
    request.correlationId request.refundRequestId
  authorize
  recordDecision subject request changed.refundRequestId decisionType decisionOutcome
  pure changed

def reviewRequest : RefundTransaction RefundRequest := do
  requirePermission reads.grants subject "refund.review.perform" request.time
  advance hash subject request "refund.request.review" .underReview (pure ()) .review "under_review"

def investigateRequest (request : InvestigateRequest) : RefundTransaction Unit := do
  requirePermission reads.grants subject "refund.investigation.perform" request.time
  validateIdempotencyKey request.idempotencyKey
  let _ ← reserveIdempotency hash subject.identityId "refund.request.investigate"
    request.idempotencyKey
    [("refund_request_id", .uuid request.refundRequestId),
     ("reason_code", .text request.reasonCode), ("evidence_type", .text request.evidenceType),
     ("evidence_reference", .text request.evidenceReference)]
    request.refundRequestId request.time
  let found ← getRequest request.refundRequestId
  let stored ← demand found (.conflict "refund_request_not_found")
  require (stored.state = .underReview) (.conflict "refund_investigation_state_invalid")
  let evidenceType ← demand (code? request.evidenceType) (.field "evidence_type")
  let evidenceReference ← demand (boundedText? 3 160 request.evidenceReference)
    (.field "evidence_reference")
  let recordedAt ← utc request.time
  appendEvidence
    { evidenceId := request.evidenceId, refundRequestId := request.refundRequestId, evidenceType,
      evidenceReference, recordedByIdentityId := subject.identityId, recordedAt,
      correlationId := request.correlationId, causationId := request.refundRequestId }
  recordDecision subject request.toAdvanceRequest request.refundRequestId .investigation
    "investigated"

def approveRequest (request : ApproveRequest) : RefundTransaction RefundRequest := do
  requirePermission reads.grants subject "refund.approve" request.time
  advance hash subject request.toAdvanceRequest "refund.request.approve" .approved
    (do
      let reasonCode ← demand (code? request.reasonCode) (.field "reason_code")
      let authorizedAt ← utc request.time
      appendAuthorization
        { authorizationId := request.authorizationId, refundRequestId := request.refundRequestId,
          authorizedByIdentityId := subject.identityId, authorityPermission := "refund.approve",
          reasonCode, authorizedAt, correlationId := request.correlationId,
          causationId := request.refundRequestId })
    .approval "approved"

def scheduleRequest : RefundTransaction RefundRequest := do
  requirePermission reads.grants subject "refund.schedule" request.time
  advance hash subject request "refund.request.schedule" .scheduled (pure ()) .scheduling
    "scheduled"

def completeRequest : RefundTransaction RefundRequest := do
  requirePermission reads.grants subject "refund.workflow.run" request.time
  require (subject.identityType = .service) (.conflict "refund_completion_requires_service")
  advance hash subject request "refund.request.complete" .completed (pure ()) .completion
    "completed"

def rejectRequest : RefundTransaction RefundRequest := do
  requirePermission reads.grants subject "refund.review.perform" request.time
  advance hash subject request "refund.request.reject" .rejected (pure ()) .rejection "rejected"

inductive RefundCommand where
  | requestRefund (request : RequestRefundRequest)
  | reviewRequest (request : AdvanceRequest)
  | investigateRequest (request : InvestigateRequest)
  | approveRequest (request : ApproveRequest)
  | scheduleRequest (request : AdvanceRequest)
  | completeRequest (request : AdvanceRequest)
  | rejectRequest (request : AdvanceRequest)

structure RefundCall where
  reads : RefundReads
  subject : AuthorizationSubject
  command : RefundCommand

/-- One unit of work of the refund service over the current payment store. -/
def step (store : RefundStore) (call : RefundCall) : RefundStore :=
  match call.command with
  | .requestRefund request =>
    commit (requestRefund hash call.reads payments call.subject request) store
  | .reviewRequest request => commit (reviewRequest hash call.reads call.subject request) store
  | .investigateRequest request =>
    commit (investigateRequest hash call.reads call.subject request) store
  | .approveRequest request => commit (approveRequest hash call.reads call.subject request) store
  | .scheduleRequest request => commit (scheduleRequest hash call.reads call.subject request) store
  | .completeRequest request => commit (completeRequest hash call.reads call.subject request) store
  | .rejectRequest request => commit (rejectRequest hash call.reads call.subject request) store

end Ayo.Refund.Application
