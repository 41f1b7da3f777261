/- digest: The commands of the payment orchestration service. -/

import Ayo.Ledger.Repository
import Ayo.Payment.Repository

namespace Ayo.Payment.Application

open Kernel.UnitOfWork Core.Values Core.Authorization Pricing.Models
open Ledger.Models (LedgerJournal)
open Engine Models Repository

structure PaymentConfig where
  hash : Payload → Digest
  callbackReplayWindowSeconds : Int := 300

structure PaymentReads where
  grants : Grants
  calculations : Calculations
  journals : Uuid → Option LedgerJournal

structure CreateIntentRequest where
  (rideId fareCalculationId ledgerJournalId riderIdentityId passengerIdentityId : Uuid)
  (bookerIdentityId payerIdentityId : Uuid)
  method : PaymentMethodFamily
  idempotencyKey : String
  time : DateTime
  expiresAt : Option DateTime := none
  thirdPartyBookingAuthorized : Bool := false
  candidateId : Uuid

structure CreateAttemptRequest where
  paymentIntentId : Uuid
  (providerCode providerReference idempotencyKey : String)
  (correlationId causationId : Uuid)
  time : DateTime
  candidateId : Uuid

structure SubmitAttemptRequest where
  paymentAttemptId : Uuid
  idempotencyKey : String
  correlationId : Uuid
  time : DateTime

structure CallbackOutcome where
  outcome : Code
  providerEventId : BoundedText 3 128
  payload : Payload

structure CallbackRequest where
  paymentAttemptId : Uuid
  (providerCode signatureFingerprint : String)
  callback : CallbackOutcome
  idempotencyKey : String
  correlationId : Uuid
  time : DateTime
  callbackId : Uuid

structure CloseIntentRequest where
  (paymentIntentId correlationId : Uuid)
  time : DateTime

structure ReconciliationRequest where
  paymentAttemptId : Uuid
  reasonCode : String
  correlationId : Uuid
  time : DateTime

variable (config : PaymentConfig) (reads : PaymentReads) (subject : AuthorizationSubject)

def validateOrSelectPaymentMethod (requestedMethod : PaymentMethodFamily) (allowCash : Bool)
    (time : DateTime) : PaymentTransaction PaymentMethodFamily := do
  requirePermission reads.grants subject "payment.intent.create" time
  require (requestedMethod ≠ .unknown) (.conflict "payment_method_unknown")
  require (requestedMethod = .cash → allowCash = true) (.conflict "payment_method_not_allowed")
  pure requestedMethod

variable (request : CreateIntentRequest)

def authorizeParticipants : PaymentTransaction Unit := do
  require (subject.identityId = request.payerIdentityId) (.conflict "payer_authority_required")
  if request.bookerIdentityId ≠ request.payerIdentityId ∨
      request.passengerIdentityId ≠ request.payerIdentityId then do
    require (request.thirdPartyBookingAuthorized = true)
      (.conflict "third_party_booking_authority_required")
    let allowed ← hasPermission reads.grants subject.identityId "scheduled.support.handoff"
      request.time
    require (allowed = true) (.conflict "third_party_booking_authority_required")
  else
    pure ()

def validateAuthoritativeLineage (calculation : Option FareCalculation)
    (journal : Option LedgerJournal) (rideId riderIdentityId fareCalculationId : Uuid) :
    PaymentTransaction FareCalculation := do
  let calculation ← demand calculation (.conflict "fare_calculation_not_found")
  require (calculation.state = .finalCalculated ∨ calculation.state = .corrected)
    (.conflict "fare_calculation_not_payable")
  require (calculation.rideId = rideId) (.conflict "financial_lineage_conflict")
  require (calculation.riderIdentityId = riderIdentityId) (.conflict "financial_lineage_conflict")
  require (calculation.calculationId = fareCalculationId) (.conflict "financial_lineage_conflict")
  let trace := calculation.financialTraceability
  require (trace.activeRideId = some rideId ∧
      trace.fareCalculationId = some calculation.calculationId ∧
      trace.dispatchHandoffId ≠ none ∧ trace.assignmentId ≠ none)
    (.conflict "financial_lineage_conflict")
  let journal ← demand journal (.conflict "ledger_journal_not_found")
  require (journal.businessEventId = calculation.calculationId) (.conflict "ledger_lineage_conflict")
  let journalTrace := journal.traceability
  require (journalTrace.activeRideId = rideId ∧
      journalTrace.fareCalculationId = calculation.calculationId ∧
      journalTrace.rideRequestId = trace.rideRequestId ∧
      some journalTrace.dispatchHandoffId = trace.dispatchHandoffId ∧
      some journalTrace.assignmentId = trace.assignmentId ∧
      journalTrace.fareEstimateId = trace.fareEstimateId)
    (.conflict "ledger_lineage_conflict")
  pure calculation

def utc (value : DateTime) : PaymentTransaction Instant := do
  require (value.aware = true) (.value "Payment timestamps must be timezone-aware")
  pure value.instant

def buildIntent (canonical : Uuid) (selected : PaymentMethodFamily)
    (calculation : FareCalculation) : PaymentTransaction PaymentIntent := do
  let trace := calculation.financialTraceability
  let dispatchHandoffId ← demand trace.dispatchHandoffId (.conflict "financial_lineage_conflict")
  let assignmentId ← demand trace.assignmentId (.conflict "financial_lineage_conflict")
  let activeRideId ← demand trace.activeRideId (.conflict "financial_lineage_conflict")
  let fareCalculationId ← demand trace.fareCalculationId (.conflict "financial_lineage_conflict")
  let createdAt ← utc request.time
  let expiresAt ← whenSome request.expiresAt (fun expiry => do
      let instant ← utc expiry
      pure (some instant))
    (pure none)
  demand (if valid : request.payerIdentityId = request.riderIdentityId ∧
        ∀ expiry ∈ expiresAt, createdAt < expiry then
      some
        { paymentIntentId := canonical, rideId := request.rideId,
          riderIdentityId := request.riderIdentityId,
          passengerIdentityId := request.passengerIdentityId,
          bookerIdentityId := request.bookerIdentityId,
          payerIdentityId := request.payerIdentityId,
          amountMinor := calculation.breakdown.riderTotalMinor,
          currency := calculation.breakdown.currency, paymentMethodFamily := selected,
          state := .created,
          traceability :=
            { rideRequestId := trace.rideRequestId, dispatchHandoffId, assignmentId, activeRideId,
              fareEstimateId := trace.fareEstimateId, fareCalculationId,
              ledgerJournalId := some request.ledgerJournalId },
          createdAt, expiresAt, cancelledAt := none, payerIsRider := valid.1,
          expiresLater := valid.2, cancelledLater := none_later createdAt }
    else
      none)
    (.value (if request.payerIdentityId ≠ request.riderIdentityId then
        "payer_identity_id must match rider_identity_id"
      else
        "expires_at must be later than created_at"))

def createPaymentIntent : PaymentTransaction PaymentIntent := do
  requirePermission reads.grants subject "payment.intent.create" request.time
  validateIdempotencyKey request.idempotencyKey
  authorizeParticipants reads subject request
  let selected ← validateOrSelectPaymentMethod reads subject request.method true request.time
  let canonical ← reserveIdempotency config.hash subject.identityId "payment.intent.create"
    request.idempotencyKey
    [("ride_id", .uuid request.rideId), ("fare_calculation_id", .uuid request.fareCalculationId),
     ("ledger_journal_id", .uuid request.ledgerJournalId),
     ("rider_identity_id", .uuid request.riderIdentityId),
     ("passenger_identity_id", .uuid request.passengerIdentityId),
     ("booker_identity_id", .uuid request.bookerIdentityId),
     ("payer_identity_id", .uuid request.payerIdentityId), ("method", .text selected.value),
     ("expires_at", request.expiresAt.elim .null .time)]
    request.candidateId request.time
  let found ← getIntent canonical
  whenSome found (fun existing => pure existing)
    (do
      let calculation ← validateAuthoritativeLineage (reads.calculations request.fareCalculationId)
        (reads.journals request.ledgerJournalId) request.rideId request.riderIdentityId
        request.fareCalculationId
      let intent ← buildIntent request canonical selected calculation
      createIntent intent)

def readsOwnIntent (intent : PaymentIntent) (time : DateTime) : PaymentTransaction Bool :=
  if subject.identityType = .rider ∧ subject.identityId = intent.riderIdentityId then
    hasPermission reads.grants subject.identityId "payment.intent.read_own" time
  else
    pure false

def requireIntentStatusRead (intent : PaymentIntent) (time : DateTime) :
    PaymentTransaction Unit := do
  let own ← readsOwnIntent reads subject intent time
  let support ← hasPermission reads.grants subject.identityId "support.payment.read_status" time
  let trace ← hasPermission reads.grants subject.identityId "payment.trace.read" time
  require (own = true ∨ support = true ∨ trace = true) (.conflict "payment_status_not_found")

def createPaymentAttempt (request : CreateAttemptRequest) : PaymentTransaction PaymentAttempt := do
  requirePermission reads.grants subject "payment.attempt.execute" request.time
  validateIdempotencyKey request.idempotencyKey
  let canonical ← reserveIdempotency config.hash subject.identityId "payment.attempt.create"
    request.idempotencyKey
    [("payment_intent_id", .uuid request.paymentIntentId),
     ("provider_code", .text request.providerCode),
     ("provider_reference", .text request.providerReference)]
    request.candidateId request.time
  let found ← getAttempt canonical
  whenSome found (fun existing => pure existing)
    (do
      let found ← getIntent request.paymentIntentId
      let intent ← demand found (.conflict "payment_intent_not_found")
      requireIntentStatusRead reads subject intent request.time
      require (∀ expiry ∈ intent.expiresAt, request.time.instant < expiry)
        (.conflict "payment_intent_expired")
      require (intent.state = .created) (.conflict "payment_intent_not_active")
      let providerCode ← demand (code? request.providerCode) (.field "provider_code")
      let providerReference ← demand (boundedText? 3 128 request.providerReference)
        (.field "provider_reference")
      let createdAt ← utc request.time
      createAttempt
        { paymentAttemptId := canonical, paymentIntentId := intent.paymentIntentId, providerCode,
          providerReference, providerEventId := none, state := .created,
          amountMinor := intent.amountMinor, currency := intent.currency, reasonCode := none,
          correlationId := request.correlationId, causationId := request.causationId, createdAt,
          updatedAt := createdAt, chronological := Int.le_refl createdAt })

def submitProviderNeutralAttempt (request : SubmitAttemptRequest) :
    PaymentTransaction PaymentAttempt := do
  requirePermission reads.grants subject "payment.attempt.execute" request.time
  validateIdempotencyKey request.idempotencyKey
  let _ ← reserveIdempotency config.hash subject.identityId "payment.attempt.submit"
    request.idempotencyKey [("payment_attempt_id", .uuid request.paymentAttemptId)]
    request.paymentAttemptId request.time
  let found ← getAttempt request.paymentAttemptId
  let attempt ← demand found (.conflict "payment_attempt_not_found")
  let found ← getIntent attempt.paymentIntentId
  let intent ← demand found (.conflict "payment_intent_not_found")
  requireIntentStatusRead reads subject intent request.time
  if intent.paymentMethodFamily = .cash then
    transitionAttempt attempt.paymentAttemptId .outcomeUnknown request.time
      "payment.cash.requires_reconciliation" request.correlationId attempt.paymentAttemptId none
  else
    transitionAttempt attempt.paymentAttemptId .authorizationPending request.time
      "payment.authorization.submitted" request.correlationId attempt.paymentAttemptId none

def outcomeState (outcome : String) : Option PaymentAttemptState :=
  [("authorized", PaymentAttemptState.authorized), ("capture_pending", .capturePending),
   ("captured", .captured), ("failed", .failed), ("cancelled", .cancelled),
   ("expired", .expired), ("unknown", .outcomeUnknown)].lookup outcome

def callbackTargetState (method : PaymentMethodFamily) (callback : CallbackOutcome) :
    Option PaymentAttemptState :=
  (outcomeState callback.outcome.1).map fun target =>
    if method = .cash ∧ (target = .authorized ∨ target = .captured) then .outcomeUnknown else target

def callbackReason : PaymentAttemptState → String
  | .authorized => "payment.callback.authorized"
  | .captured => "payment.callback.captured"
  | .failed => "payment.callback.failed"
  | .cancelled => "payment.callback.cancelled"
  | .expired => "payment.callback.expired"
  | .outcomeUnknown => "payment.callback.reconciliation_required"
  | .authorizationPending => "payment.callback.authorization_pending"
  | .capturePending => "payment.callback.capture_pending"
  | .created => "payment.callback.created"

def buildEnvelope (request : CallbackRequest) (attempt : PaymentAttempt) :
    PaymentTransaction PaymentCallbackEnvelope := do
  let providerCode ← demand (code? request.providerCode) (.field "provider_code")
  let fingerprint ← demand (refine? _ request.signatureFingerprint)
    (.field "provider_signature_fingerprint")
  let receivedAt ← utc request.time
  demand
    (if windowOpens : receivedAt < receivedAt + config.callbackReplayWindowSeconds * 1000000 then
      some
        { callbackId := request.callbackId, providerCode,
          providerEventId := request.callback.providerEventId,
          providerSignatureFingerprint := fingerprint,
          payloadHash := config.hash request.callback.payload, receivedAt,
          replayWindowEndsAt := receivedAt + config.callbackReplayWindowSeconds * 1000000,
          correlatedAttemptId := some attempt.paymentAttemptId, processedAt := none, windowOpens,
          processedLater := none_later receivedAt }
    else
      none)
    (.value "replay_window_ends_at must be later than received_at")

def ingestAuthenticatedCallbackEnvelope (request : CallbackRequest) :
    PaymentTransaction PaymentAttempt := do
  requirePermission reads.grants subject "payment.callback.ingest" request.time
  require (subject.identityType = .service) (.conflict "access_denied")
  validateIdempotencyKey request.idempotencyKey
  let _ ← reserveIdempotency config.hash subject.identityId "payment.callback.ingest"
    request.idempotencyKey
    [("payment_attempt_id", .uuid request.paymentAttemptId),
     ("provider_code", .text request.providerCode),
     ("provider_event_id", .text request.callback.providerEventId.1),
     ("outcome", .text request.callback.outcome.1)]
    request.paymentAttemptId request.time
  let found ← getAttempt request.paymentAttemptId
  let attempt ← demand found (.conflict "payment_attempt_not_found")
  require (attempt.providerCode.1 = request.providerCode)
    (.conflict "payment_callback_provider_mismatch")
  let received ← buildEnvelope config request attempt
  let envelope ← ingestCallbackEnvelope received
  let found ← getIntent attempt.paymentIntentId
  let intent ← demand found (.conflict "payment_intent_not_found")
  let target ← demand (callbackTargetState intent.paymentMethodFamily request.callback)
    (.conflict "payment_callback_outcome_invalid")
  let changed ← transitionAttempt attempt.paymentAttemptId target request.time
    (callbackReason target) request.correlationId attempt.paymentAttemptId
    (some request.callback.providerEventId)
  markCallbackProcessed envelope.callbackId attempt.paymentAttemptId request.time
  pure changed

def expireIntent (request : CloseIntentRequest) : PaymentTransaction PaymentIntent := do
  requirePermission reads.grants subject "payment.attempt.execute" request.time
  let found ← getIntent request.paymentIntentId
  let intent ← demand found (.conflict "payment_intent_not_found")
  requireIntentStatusRead reads subject intent request.time
  transitionIntent request.paymentIntentId .expired request.time request.correlationId
    request.paymentIntentId

def cancelIntent (request : CloseIntentRequest) : PaymentTransaction PaymentIntent := do
  requirePermission reads.grants subject "payment.attempt.execute" request.time
  let found ← getIntent request.paymentIntentId
  let intent ← demand found (.conflict "payment_intent_not_found")
  requireIntentStatusRead reads subject intent request.time
  let attempts ← listAttemptsForIntent intent.paymentIntentId
  require (∀ item ∈ attempts, item.state ≠ .captured) (.conflict "payment_intent_cancel_forbidden")
  transitionIntent request.paymentIntentId .cancelled request.time request.correlationId
    request.paymentIntentId

def markReconciliationRequired (request : ReconciliationRequest) :
    PaymentTransaction PaymentAttempt := do
  requirePermission reads.grants subject "payment.reconciliation.run" request.time
  transitionAttempt request.paymentAttemptId .outcomeUnknown request.time request.reasonCode
    request.correlationId request.paymentAttemptId none

inductive PaymentCommand where
  | createPaymentIntent (request : CreateIntentRequest)
  | createPaymentAttempt (request : CreateAttemptRequest)
  | submitProviderNeutralAttempt (request : SubmitAttemptRequest)
  | ingestAuthenticatedCallbackEnvelope (request : CallbackRequest)
  | expireIntent (request : CloseIntentRequest)
  | cancelIntent (request : CloseIntentRequest)
  | markReconciliationRequired (request : ReconciliationRequest)

structure PaymentCall where
  reads : PaymentReads
  subject : AuthorizationSubject
  command : PaymentCommand

/-- One unit of work of the payment service. -/
def step (store : PaymentStore) (call : PaymentCall) : PaymentStore :=
  match call.command with
  | .createPaymentIntent request =>
    commit (createPaymentIntent config call.reads call.subject request) store
  | .createPaymentAttempt request =>
    commit (createPaymentAttempt config call.reads call.subject request) store
  | .submitProviderNeutralAttempt request =>
    commit (submitProviderNeutralAttempt config call.reads call.subject request) store
  | .ingestAuthenticatedCallbackEnvelope request =>
    commit (ingestAuthenticatedCallbackEnvelope config call.reads call.subject request) store
  | .expireIntent request => commit (expireIntent call.reads call.subject request) store
  | .cancelIntent request => commit (cancelIntent call.reads call.subject request) store
  | .markReconciliationRequired request =>
    commit (markReconciliationRequired call.reads call.subject request) store

end Ayo.Payment.Application
