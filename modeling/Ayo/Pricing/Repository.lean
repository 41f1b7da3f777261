/- digest: The pricing store, its writers, and the way from a ride to its fares. -/

import Ayo.Core.Authorization
import Ayo.Kernel.Ordering
import Ayo.Pricing.Records

namespace Ayo.Pricing.Repository

open Kernel.UnitOfWork Kernel.KeyedTable Kernel.Ordering Core.Values
open Core.Authorization (Reservation)
open Fares Records Rides.Sources

structure PricingStore where
  policies : Table PricingPolicy := .empty
  estimates : Table FareEstimate := .empty
  acceptances : Table EstimateAcceptance := .empty
  calculations : Table FareCalculation := .empty
  components : List ComponentRow := []
  idempotency : Table Reservation := .empty
  events : List Event := []

abbrev PricingTransaction (α : Type) := Transaction PricingStore Failure α

def reserveIdempotency (hash : Payload → Digest) (actorId : Uuid) (operation key : String)
    (payload : Payload) (responseReference : Uuid) (time : DateTime) : PricingTransaction Uuid :=
  within PricingStore.idempotency (fun idempotency store => { store with idempotency })
    (Core.Authorization.reserveIdempotency hash actorId operation key payload responseReference
      time)

def recordEvent (aggregateType : String) (aggregateId : Uuid) (eventType : String)
    (occurredAt : Instant) (correlationId causationId : Uuid) : PricingTransaction Unit := do
  let store ← get
  put { store with
    events := store.events ++
      [{ aggregateType, aggregateId, eventType, occurredAt, correlationId, causationId }] }

def getPolicy (policyId : Uuid) : PricingTransaction (Option PricingPolicy) := do
  let store ← get
  pure (store.policies.find policyId)

def getEstimate (estimateId : Uuid) : PricingTransaction (Option FareEstimate) := do
  let store ← get
  pure (store.estimates.find estimateId)

def getAcceptanceForEstimate (estimateId : Uuid) :
    PricingTransaction (Option EstimateAcceptance) := do
  let store ← get
  pure (store.acceptances.rows.find? fun row => row.estimateId = estimateId)

def getCalculation (calculationId : Uuid) : PricingTransaction (Option FareCalculation) := do
  let store ← get
  pure (store.calculations.find calculationId)

def addPolicy (policy : PricingPolicy) : PricingTransaction PricingPolicy := do
  require (policy.status = .draft) (.conflict "new_policy_must_be_draft")
  let store ← get
  require (∀ predecessorId ∈ policy.predecessorPolicyId,
      (store.policies.find predecessorId).isSome = true ∧ predecessorId ≠ policy.policyId)
    (.conflict "policy_predecessor_invalid")
  let policies ← demand (store.policies.insert? policy) (.integrity "pricing_policies")
  put { store with policies }
  pure policy

def changePolicy (terms : PolicyTerms) : PricingTransaction PricingPolicy := do
  let changed ← attempt (PricingPolicy.validate? terms)
  let store ← get
  let policies ← demand (store.policies.replace? changed) (.integrity "pricing_policies")
  put { store with policies }
  pure changed

def approvePolicy (policyId checkerId : Uuid) (time : DateTime) :
    PricingTransaction PricingPolicy := do
  let found ← getPolicy policyId
  let current ← demand found (.conflict "policy_not_approvable")
  require (current.status = .draft) (.conflict "policy_not_approvable")
  require (current.madeByIdentityId ≠ checkerId) (.conflict "maker_checker_required")
  changePolicy { current.toPolicyTerms with
    status := .approved, approvedByIdentityId := some checkerId, approvedAt := some time.instant }

def publishPolicy (policyId publisherId : Uuid) (time : DateTime) :
    PricingTransaction PricingPolicy := do
  let found ← getPolicy policyId
  let current ← demand found (.conflict "policy_not_publishable")
  require (current.status = .approved) (.conflict "policy_not_publishable")
  require (current.approvedByIdentityId ≠ some publisherId)
    (.conflict "publication_separation_required")
  changePolicy { current.toPolicyTerms with
    status := .published, publishedAt := some time.instant,
    publishedByIdentityId := some publisherId }

def traceabilityConflict : Failure := .conflict "financial_traceability_conflict"

def addEstimate (estimate : FareEstimate) : PricingTransaction FareEstimate := do
  require (estimate.financialTraceability.rideRequestId = estimate.rideRequestId)
    traceabilityConflict
  require (estimate.financialTraceability.fareEstimateId = estimate.estimateId) traceabilityConflict
  let store ← get
  let estimates ← demand (store.estimates.insert? estimate) (.integrity "fare_estimates")
  put { store with estimates }
  recordEvent "fare_estimate" estimate.estimateId "pricing.estimate_created" estimate.createdAt
    estimate.correlationId estimate.causationId
  pure estimate

def addAcceptance (acceptance : EstimateAcceptance) (estimate : FareEstimate) :
    PricingTransaction EstimateAcceptance := do
  let store ← get
  let acceptances ← demand (store.acceptances.insert? acceptance)
    (.integrity "fare_estimate_acceptances")
  put { store with acceptances }
  recordEvent "fare_estimate" estimate.estimateId "pricing.estimate_accepted"
    acceptance.acceptedAt estimate.correlationId estimate.estimateId
  pure acceptance

/-- A correction keeps the ride, the estimate and the links of its predecessor. -/
def followsPredecessor (item predecessor : FareCalculation) : Prop :=
  predecessor.rideId = item.rideId ∧ predecessor.estimateId = item.estimateId ∧
    predecessor.financialTraceability.rideRequestId = item.financialTraceability.rideRequestId ∧
    predecessor.financialTraceability.dispatchHandoffId =
      item.financialTraceability.dispatchHandoffId ∧
    predecessor.financialTraceability.assignmentId = item.financialTraceability.assignmentId ∧
    predecessor.financialTraceability.activeRideId = item.financialTraceability.activeRideId ∧
    predecessor.financialTraceability.fareEstimateId = item.financialTraceability.fareEstimateId ∧
    item.financialTraceability.predecessorFareCalculationId = some predecessor.calculationId
deriving Decidable

variable (sources : RideSources) (item : FareCalculation)

def validateCalculationTraceability : PricingTransaction Unit := do
  let ride ← demand (sources.activeRides item.rideId) traceabilityConflict
  let rideRequestId ← demand ride.rideRequestId traceabilityConflict
  let dispatchHandoffId ← demand ride.dispatchHandoffId traceabilityConflict
  let assignmentId ← demand ride.assignmentId traceabilityConflict
  let found ← getEstimate item.estimateId
  let estimate ← demand found traceabilityConflict
  require (estimate.rideRequestId = rideRequestId) traceabilityConflict
  let trace := item.financialTraceability
  require (trace.rideRequestId = rideRequestId ∧ trace.dispatchHandoffId = some dispatchHandoffId ∧
      trace.assignmentId = some assignmentId ∧ trace.activeRideId = some item.rideId ∧
      trace.fareEstimateId = item.estimateId ∧
      trace.fareCalculationId = some item.calculationId)
    traceabilityConflict
  whenSome item.predecessorCalculationId (fun predecessorId => do
      let prior ← getCalculation predecessorId
      let predecessor ← demand prior traceabilityConflict
      require (followsPredecessor item predecessor) traceabilityConflict)
    (require (trace.predecessorFareCalculationId = none) traceabilityConflict)

def componentRows : List ComponentRow :=
  [("base", item.breakdown.baseMinor), ("distance", item.breakdown.distanceMinor),
   ("time", item.breakdown.timeMinor),
   ("minimum_adjustment", item.breakdown.minimumAdjustmentMinor),
   ("tax_placeholder", item.breakdown.taxPlaceholderMinor),
   ("driver_gross", item.breakdown.driverGrossMinor),
   ("ayo_commission", item.breakdown.ayoCommissionMinor),
   ("driver_net_projection", item.breakdown.driverNetProjectionMinor)].map fun component =>
    { calculationId := item.calculationId, componentType := component.1,
      amountMinor := component.2, currency := item.breakdown.currency,
      policyVersion := item.policyVersion }

def recordCalculation (correlationId : Uuid) : PricingTransaction Unit := do
  let store ← get
  put { store with components := store.components ++ componentRows item }
  let event (eventType : String) (causationId : Uuid) :=
    recordEvent "fare_calculation" item.calculationId eventType item.calculatedAt correlationId
      causationId
  whenSome (if item.state = .finalCalculated then some item.estimateId else none)
    (fun estimateId => event "pricing.final_inputs_received" estimateId)
    (pure ())
  event (if item.state = .corrected then "pricing.corrected" else "pricing.final_calculated")
    (item.predecessorCalculationId.getD item.estimateId)

/-- `add_calculation`: checked against the ride, the estimate and its acceptance. -/
def addCalculation (correlationId : Uuid) : PricingTransaction FareCalculation := do
  validateCalculationTraceability sources item
  let store ← get
  let calculations ← demand (store.calculations.insert? item) (.integrity "fare_calculations")
  put { store with calculations }
  recordCalculation item correlationId
  pure item

structure FinancialJourney where
  (activeRideId rideRequestId dispatchHandoffId assignmentId : Uuid)
  fareEstimates : List FareEstimate
  fareCalculations : List FareCalculation

def calculationsOfRide (store : PricingStore) (rideId : Uuid) : List FareCalculation :=
  orderedBy (fun row : FareCalculation => toLex (row.calculatedAt, row.calculationId))
    (store.calculations.rows.filter fun row => row.rideId = rideId)

def estimatesOfRequest (store : PricingStore) (rideRequestId : Uuid) : List FareEstimate :=
  orderedBy (fun row : FareEstimate => toLex (row.createdAt, row.estimateId))
    (store.estimates.rows.filter fun row => row.rideRequestId = rideRequestId)

def consistentJourney (journey : FinancialJourney) : Prop :=
  (journey.fareCalculations.map FareCalculation.calculationId).Nodup ∧
    ∀ item ∈ journey.fareCalculations,
      item.financialTraceability.rideRequestId = journey.rideRequestId ∧
      item.financialTraceability.dispatchHandoffId = some journey.dispatchHandoffId ∧
      item.financialTraceability.assignmentId = some journey.assignmentId ∧
      item.financialTraceability.activeRideId = some journey.activeRideId ∧
      item.financialTraceability.fareCalculationId = some item.calculationId ∧
      item.financialTraceability.fareEstimateId = item.estimateId ∧
      item.estimateId ∈ journey.fareEstimates.map FareEstimate.estimateId
deriving Decidable

/-- The journey of a ride that has its canonical links; `none` when the ride is not canonical. -/
def financialJourney (rideId : Uuid) : PricingTransaction (Option FinancialJourney) :=
  whenSome
    (do
      let ride ← sources.activeRides rideId
      let rideRequestId ← ride.rideRequestId
      let dispatchHandoffId ← ride.dispatchHandoffId
      let assignmentId ← ride.assignmentId
      pure (rideRequestId, dispatchHandoffId, assignmentId))
    (fun (rideRequestId, dispatchHandoffId, assignmentId) => do
      let store ← get
      let journey : FinancialJourney :=
        { activeRideId := rideId, rideRequestId, dispatchHandoffId, assignmentId,
          fareEstimates := estimatesOfRequest store rideRequestId,
          fareCalculations := calculationsOfRide store rideId }
      require (consistentJourney journey) traceabilityConflict
      pure (some journey))
    (pure none)

end Ayo.Pricing.Repository
