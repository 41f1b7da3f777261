/- digest: The commands of the pricing service. -/

import Ayo.Pricing.Engine
import Ayo.Pricing.Repository

namespace Ayo.Pricing.Application

open Kernel.UnitOfWork Core.Values Core.Authorization Engine Fares Records Repository Rides.Sources

structure PricingConfig where
  hash : Payload → Digest
  maximumMetricsAgeSeconds : Int := 300
  estimateTtlSeconds : Int := 300

structure EstimateRequest where
  (rideRequestId policyId : Uuid)
  metrics : RouteMetrics
  idempotencyKey : String
  (correlationId causationId : Uuid)
  time : DateTime
  (candidateId auditReference : Uuid)

structure AcceptRequest where
  estimateId : Uuid
  idempotencyKey : String
  time : DateTime
  (candidateId auditReference : Uuid)

structure FinalCalculationRequest where
  (rideId estimateId : Uuid)
  metrics : RouteMetrics
  idempotencyKey : String
  correlationId : Uuid
  time : DateTime
  (candidateId auditReference : Uuid)

structure CorrectionRequest where
  predecessorCalculationId : Uuid
  metrics : RouteMetrics
  (reasonCode idempotencyKey : String)
  correlationId : Uuid
  time : DateTime
  (candidateId auditReference : Uuid)

def DataQuality.value : DataQuality → String
  | .verified => "verified"
  | .approvedSynthetic => "approved_synthetic"
  | .degraded => "degraded"

def metricsPayload (metrics : RouteMetrics) : Payload :=
  [("distance_meters", .number metrics.distanceMeters.1),
   ("duration_seconds", .number metrics.durationSeconds.1),
   ("observed_at", .time (.utc metrics.observedAt)), ("provider_id", .text metrics.providerId.1),
   ("provider_version", .text metrics.providerVersion.1),
   ("distance_source", .text metrics.distanceSource.1),
   ("duration_source", .text metrics.durationSource.1),
   ("provenance_reference", .text metrics.provenanceReference.1),
   ("data_quality", .text (DataQuality.value metrics.dataQuality))]

/-- `[a-z][a-z0-9_.-]{1,62}`. -/
def isReasonCode : String → Bool := isPattern Char.isLower isCodeChar 1 62

variable (config : PricingConfig) (sources : RideSources) (subject : AuthorizationSubject)

def accessDenied : Failure := .conflict "access_denied"

def policyOperator : PricingTransaction Unit :=
  require (subject.identityType = .staff ∨ subject.identityType = .administrator) accessDenied

/-- The age of metrics in microseconds; a naive time has no distance to an aware one. -/
def fresh (metrics : RouteMetrics) (time : DateTime) : PricingTransaction Unit := do
  require (time.aware = true) (.value "can't subtract offset-naive and offset-aware datetimes")
  let age := time.instant - metrics.observedAt
  require (¬ (age < 0 ∨ config.maximumMetricsAgeSeconds * 1000000 < age))
    (.conflict "route_metrics_stale")

def publishedPolicy (found : Option PricingPolicy) (serviceZoneId : Uuid) (time : Instant) :
    PricingTransaction PricingPolicy := do
  let policy ← demand found (.conflict "published_policy_required")
  require (policy.status = .published ∧ policy.serviceZoneId = serviceZoneId ∧
      policy.effectiveFrom ≤ time ∧ ∀ ending ∈ policy.effectiveUntil, time < ending)
    (.conflict "published_policy_required")
  pure policy

def createPolicy (policy : PricingPolicy) : PricingTransaction PricingPolicy := do
  policyOperator subject
  require (policy.madeByIdentityId = subject.identityId)
    (.conflict "caller_supplied_maker_rejected")
  addPolicy policy

def approve (policyId : Uuid) (time : DateTime) : PricingTransaction PricingPolicy := do
  policyOperator subject
  approvePolicy policyId subject.identityId time

def publish (policyId : Uuid) (time : DateTime) : PricingTransaction PricingPolicy := do
  policyOperator subject
  publishPolicy policyId subject.identityId time

def newEstimate (request : EstimateRequest) (canonical serviceZoneId : Uuid)
    (policy : PricingPolicy) : PricingTransaction FareEstimate := do
  let breakdown ← attempt (calculate policy request.metrics)
  let financialTraceability ← attempt (FinancialTraceability.validate?
    { rideRequestId := request.rideRequestId, dispatchHandoffId := none, assignmentId := none,
      activeRideId := none, fareEstimateId := canonical, fareCalculationId := none })
  let calculationLineage ← attempt (buildLineage config.hash policy request.metrics breakdown
    { auditEventId := request.auditReference, correlationId := request.correlationId,
      causationId := request.causationId })
  let createdAt := request.time.instant
  let expiresAt := createdAt + config.estimateTtlSeconds * 1000000
  demand (if expiry : createdAt < expiresAt then
      some
        { estimateId := canonical, rideRequestId := request.rideRequestId,
          riderIdentityId := subject.identityId, policyId := policy.policyId,
          policyVersion := policy.policyVersion, serviceZoneId, serviceType := immediateStandard,
          metrics := request.metrics, breakdown, financialTraceability, calculationLineage,
          state := .estimateCreated, expiresAt, createdAt,
          reasonCodes := ["pricing.static_policy_applied"],
          translationKeys := ["pricing.estimate.created"],
          auditReference := request.auditReference, correlationId := request.correlationId,
          causationId := request.causationId, expiry }
    else
      none)
    (.value "Estimate expiry must follow creation")

def estimate (request : EstimateRequest) : PricingTransaction FareEstimate := do
  require (subject.identityType = .rider) accessDenied
  validateIdempotencyKey request.idempotencyKey
  fresh config request.metrics request.time
  let canonical ← reserveIdempotency config.hash subject.identityId "estimate"
    request.idempotencyKey
    [("ride_request_id", .uuid request.rideRequestId), ("policy_id", .uuid request.policyId),
     ("metrics", .list [metricsPayload request.metrics])]
    request.candidateId request.time
  let existing ← getEstimate canonical
  whenSome existing (fun existing => pure existing)
    (do
      let found ← getPolicy request.policyId
      let source ← demand (sources.rideRequests request.rideRequestId)
        (.conflict "ride_request_not_priceable")
      let serviceZoneId ← demand source.serviceZoneId (.conflict "ride_request_not_priceable")
      require (source.riderIdentityId = some subject.identityId ∧
          source.state = .readyForDispatch ∧ source.serviceType = some "immediate_standard" ∧
          source.paymentIntent = some "cash_compatible")
        (.conflict "ride_request_not_priceable")
      let policy ← publishedPolicy found serviceZoneId request.time.instant
      let created ← newEstimate config subject request canonical serviceZoneId policy
      addEstimate created)

def accept (request : AcceptRequest) : PricingTransaction EstimateAcceptance := do
  require (subject.identityType = .rider) accessDenied
  validateIdempotencyKey request.idempotencyKey
  let canonical ← reserveIdempotency config.hash subject.identityId "accept_estimate"
    request.idempotencyKey [("estimate_id", .uuid request.estimateId)] request.candidateId
    request.time
  let found ← getEstimate request.estimateId
  let estimate ← demand found (.conflict "estimate_not_found")
  require (estimate.riderIdentityId = subject.identityId) (.conflict "estimate_not_found")
  let existing ← getAcceptanceForEstimate request.estimateId
  whenSome existing (fun existing => do
      require (existing.acceptanceId = canonical) (.conflict "estimate_already_accepted")
      pure existing)
    (do
      require (request.time.aware = true)
        (.value "can't compare offset-naive and offset-aware datetimes")
      require (request.time.instant < estimate.expiresAt) (.conflict "estimate_expired")
      let idempotencyKey ← demand (boundedText? 16 128 request.idempotencyKey)
        (.field "idempotency_key")
      addAcceptance
        { acceptanceId := canonical, estimateId := request.estimateId,
          riderIdentityId := subject.identityId, acceptedPolicyVersion := estimate.policyVersion,
          acceptedAmountMinor := estimate.breakdown.riderTotalMinor,
          currency := estimate.breakdown.currency, acceptedAt := request.time.instant,
          idempotencyKey, auditReference := request.auditReference }
        estimate)

variable (request : FinalCalculationRequest)

def newCalculation (canonical : Uuid) (estimate : FareEstimate) (acceptance : EstimateAcceptance)
    (policy : PricingPolicy) (driverId dispatchHandoffId assignmentId : Uuid) :
    PricingTransaction FareCalculation := do
  let breakdown ← attempt (calculate policy request.metrics)
  let difference := breakdown.riderTotalMinor.value - acceptance.acceptedAmountMinor.value
  let financialTraceability ← attempt (FinancialTraceability.validate?
    { rideRequestId := estimate.rideRequestId, dispatchHandoffId := some dispatchHandoffId,
      assignmentId := some assignmentId, activeRideId := some request.rideId,
      fareEstimateId := request.estimateId, fareCalculationId := some canonical })
  let calculationLineage ← attempt (buildLineage config.hash policy request.metrics breakdown
    { auditEventId := request.auditReference, correlationId := request.correlationId,
      causationId := request.estimateId })
  let estimateDifferenceMinor ← demand (difference? difference) (.field "estimate_difference_minor")
  pure
    { calculationId := canonical, estimateId := request.estimateId,
      acceptanceId := acceptance.acceptanceId, rideId := request.rideId,
      riderIdentityId := estimate.riderIdentityId, driverIdentityId := driverId,
      policyId := policy.policyId, policyVersion := policy.policyVersion,
      state := .finalCalculated, metrics := request.metrics, breakdown, financialTraceability,
      calculationLineage, estimateDifferenceMinor,
      reasonCodes := [if difference = 0 then "pricing.final_matches_estimate"
        else "pricing.final_inputs_changed"],
      translationKeys := ["pricing.final.calculated"], auditReference := request.auditReference,
      calculatedAt := request.time.instant }

def completedRideRequired : Failure := .conflict "completed_canonical_ride_required"

def finalCalculation : PricingTransaction FareCalculation := do
  require (subject.identityType = .service) accessDenied
  validateIdempotencyKey request.idempotencyKey
  fresh config request.metrics request.time
  let canonical ← reserveIdempotency config.hash subject.identityId "final_calculation"
    request.idempotencyKey
    [("ride_id", .uuid request.rideId), ("estimate_id", .uuid request.estimateId),
     ("metrics", .list [metricsPayload request.metrics])]
    request.candidateId request.time
  let existing ← getCalculation canonical
  whenSome existing (fun existing => pure existing)
    (do
      let foundEstimate ← getEstimate request.estimateId
      let foundAcceptance ← getAcceptanceForEstimate request.estimateId
      let estimate ← demand foundEstimate completedRideRequired
      let acceptance ← demand foundAcceptance completedRideRequired
      let ride ← demand (sources.activeRides request.rideId) completedRideRequired
      require (ride.state = .completed ∧ ride.serviceType = "immediate_standard" ∧
          ride.rideRequestId = some estimate.rideRequestId ∧
          ride.riderId = estimate.riderIdentityId)
        completedRideRequired
      let driverId ← demand ride.driverId completedRideRequired
      let dispatchHandoffId ← demand ride.dispatchHandoffId completedRideRequired
      let assignmentId ← demand ride.assignmentId completedRideRequired
      let foundPolicy ← getPolicy estimate.policyId
      let policy ← demand foundPolicy (.conflict "accepted_policy_unavailable")
      require (policy.policyVersion = acceptance.acceptedPolicyVersion)
        (.conflict "accepted_policy_unavailable")
      let item ← newCalculation config request canonical estimate acceptance policy driverId
        dispatchHandoffId assignmentId
      addCalculation sources item request.correlationId)

def newCorrection (request : CorrectionRequest) (canonical : Uuid) (prior : FareCalculation)
    (policy : PricingPolicy) : PricingTransaction FareCalculation := do
  let breakdown ← attempt (calculate policy request.metrics)
  let financialTraceability ← attempt (FinancialTraceability.validate?
    { rideRequestId := prior.financialTraceability.rideRequestId,
      dispatchHandoffId := prior.financialTraceability.dispatchHandoffId,
      assignmentId := prior.financialTraceability.assignmentId,
      activeRideId := prior.financialTraceability.activeRideId,
      fareEstimateId := prior.financialTraceability.fareEstimateId,
      fareCalculationId := some canonical,
      predecessorFareCalculationId := some prior.calculationId })
  let calculationLineage ← attempt (buildLineage config.hash policy request.metrics breakdown
    { auditEventId := request.auditReference, correlationId := request.correlationId,
      causationId := request.predecessorCalculationId })
  let estimateDifferenceMinor ← demand
    (difference? (prior.estimateDifferenceMinor.1 + breakdown.riderTotalMinor.value -
      prior.breakdown.riderTotalMinor.value))
    (.field "estimate_difference_minor")
  pure
    { calculationId := canonical, estimateId := prior.estimateId,
      acceptanceId := prior.acceptanceId, rideId := prior.rideId,
      riderIdentityId := prior.riderIdentityId, driverIdentityId := prior.driverIdentityId,
      policyId := prior.policyId, policyVersion := prior.policyVersion, state := .corrected,
      metrics := request.metrics, breakdown, financialTraceability, calculationLineage,
      estimateDifferenceMinor, predecessorCalculationId := some prior.calculationId,
      reasonCodes := [request.reasonCode], translationKeys := ["pricing.final.corrected"],
      auditReference := request.auditReference, calculatedAt := request.time.instant }

def correctCalculation (request : CorrectionRequest) : PricingTransaction FareCalculation := do
  policyOperator subject
  validateIdempotencyKey request.idempotencyKey
  fresh config request.metrics request.time
  require (isReasonCode request.reasonCode = true) (.conflict "reason_code_invalid")
  let canonical ← reserveIdempotency config.hash subject.identityId "correct_calculation"
    request.idempotencyKey
    [("predecessor_calculation_id", .uuid request.predecessorCalculationId),
     ("metrics", .list [metricsPayload request.metrics]),
     ("reason_code", .text request.reasonCode)]
    request.candidateId request.time
  let existing ← getCalculation canonical
  whenSome existing (fun existing => pure existing)
    (do
      let foundPrior ← getCalculation request.predecessorCalculationId
      let prior ← demand foundPrior (.conflict "calculation_not_found")
      let foundPolicy ← getPolicy prior.policyId
      let policy ← demand foundPolicy (.conflict "calculation_policy_unavailable")
      require (policy.policyVersion = prior.policyVersion)
        (.conflict "calculation_policy_unavailable")
      let item ← newCorrection config request canonical prior policy
      addCalculation sources item request.correlationId)

inductive PricingCommand where
  | createPolicy (policy : PricingPolicy)
  | approvePolicy (policyId : Uuid) (time : DateTime)
  | publishPolicy (policyId : Uuid) (time : DateTime)
  | estimate (request : EstimateRequest)
  | accept (request : AcceptRequest)
  | finalCalculation (request : FinalCalculationRequest)
  | correctCalculation (request : CorrectionRequest)

structure PricingCall where
  sources : RideSources
  subject : AuthorizationSubject
  command : PricingCommand

/-- One command of the pricing service, committed or rolled back. -/
def pricingStep (config : PricingConfig) (store : PricingStore) (call : PricingCall) :
    PricingStore :=
  match call.command with
  | .createPolicy policy => commit (createPolicy call.subject policy) store
  | .approvePolicy policyId time => commit (approve call.subject policyId time) store
  | .publishPolicy policyId time => commit (publish call.subject policyId time) store
  | .estimate request => commit (estimate config call.sources call.subject request) store
  | .accept request => commit (accept config call.subject request) store
  | .finalCalculation request =>
    commit (finalCalculation config call.sources call.subject request) store
  | .correctCalculation request =>
    commit (correctCalculation config call.sources call.subject request) store

/-! Ride 802 of rider 721 and driver 722: its estimate 811, its acceptance 812, its calculation 813
and corrections of it, under the sample policy. -/

def pricingConfig : PricingConfig := { hash := List.length }

def draftPolicy (policyVersion : Version) : PricingPolicy :=
  { samplePolicy policyVersion with
    status := .draft, approvedByIdentityId := none, approvedAt := none, publishedAt := none,
    publishedByIdentityId := none, valid := rfl }

def rideSources : RideSources where
  rideRequests id :=
    if id = 801 then
      some
        { riderIdentityId := some 721, state := .readyForDispatch,
          serviceType := some "immediate_standard", paymentIntent := some "cash_compatible",
          serviceZoneId := some 702 }
    else
      none
  activeRides id :=
    if id = 802 then
      some
        { riderId := 721, driverId := some 722, assignmentId := some 803,
          rideRequestId := some 801, dispatchHandoffId := some 804, state := .completed,
          serviceType := "immediate_standard" }
    else
      none
  confirmations id :=
    if id = 801 then
      some
        { evidenceId := 805, fareEstimateId := some 811, estimateAcceptanceId := some 812,
          pricingLineageHash := some 0 }
    else
      none

def pricingCall (identityId : Uuid) (identityType : IdentityType)
    (command : PricingCommand) : PricingCall :=
  { sources := rideSources, subject := { identityId, identityType }, command }

def calculatedRide (policyVersion : Version) : List PricingCall :=
  [pricingCall 711 .staff (.createPolicy (draftPolicy policyVersion)),
   pricingCall 712 .staff (.approvePolicy 701 (.utc 1)),
   pricingCall 713 .staff (.publishPolicy 701 (.utc 2)),
   pricingCall 721 .rider (.estimate
     { rideRequestId := 801, policyId := 701, metrics := sampleMetrics,
       idempotencyKey := "estimate-key-0001", correlationId := 1, causationId := 1,
       time := .utc 20, candidateId := 811, auditReference := 1 }),
   pricingCall 721 .rider (.accept
     { estimateId := 811, idempotencyKey := "acceptance-key-01", time := .utc 30,
       candidateId := 812, auditReference := 2 }),
   pricingCall 723 .service (.finalCalculation
     { rideId := 802, estimateId := 811, metrics := sampleMetrics,
       idempotencyKey := "calculation-key-1", correlationId := 1, time := .utc 100,
       candidateId := 813, auditReference := 3 })]

def correction (predecessorCalculationId candidateId : Uuid) (time : Instant) : PricingCall :=
  pricingCall 712 .staff (.correctCalculation
    { predecessorCalculationId,
      metrics := { sampleMetrics with distanceMeters := ⟨6000, by decide⟩ },
      reasonCode := "pricing.distance", idempotencyKey := "correction-key-" ++ toString candidateId,
      correlationId := 1, time := .utc time, candidateId, auditReference := candidateId })

end Ayo.Pricing.Application
