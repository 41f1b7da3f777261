/- digest: The bridge from a final fare to its financial breakdown. -/

import Ayo.PostTrip.Repository
import Ayo.Pricing.Application

namespace Ayo.PostTrip.CompletionPricing

open Kernel.UnitOfWork Kernel.Validation Core.Values
open Core.Authorization (AuthorizationSubject)
open Models Pricing.Application Pricing.Fares Pricing.Records Pricing.Repository Rides.Sources

/-- `Field(ge=-10_000_000_000, le=10_000_000_000)` at zero. -/
def noAdjustment : Adjustment := ⟨0, by decide⟩

def financialBreakdown? (grossFareMinor commissionMinor taxesMinor netDriverEarningsMinor :
      MinorAmount)
    (policyVersion : BoundedText 2 63) (policyEvidenceHash : Digest)
    (fareEstimateId fareCalculationId : Uuid) : Except Failure FinancialBreakdown :=
  if equation : netDriverEarningsMinor.value = grossFareMinor.value - commissionMinor.value -
      taxesMinor.value + zeroMinor.value + noAdjustment.1 then
    .ok
      { grossFareMinor, commissionMinor, incentivesMinor := zeroMinor, taxesMinor,
        adjustmentsMinor := noAdjustment, netDriverEarningsMinor, policyVersion,
        policyEvidenceHash, fareEstimateId, fareCalculationId, equation }
  else
    .error (.value "Net driver earnings do not match approved components")

def breakdownOf (calculation : FareCalculation) : Except Failure FinancialBreakdown := do
  let b := calculation.breakdown
  let policyVersion ← expect (boundedText? 2 63 calculation.policyVersion.1)
    (.field "policy_version")
  financialBreakdown? b.riderTotalMinor b.ayoCommissionMinor b.taxPlaceholderMinor
    b.driverNetProjectionMinor policyVersion calculation.calculationLineage.canonicalInputHash
    calculation.estimateId calculation.calculationId

structure BookedFare where
  (fareEstimateId estimateAcceptanceId : Uuid)

structure CompletionRequest where
  (rideId bookingEvidenceId : Uuid)
  routeEvidenceId : String
  time : DateTime
  (candidateId auditReference : Uuid)

def lineageMissing : Failure := .conflict "authoritative_pricing_lineage_missing"

def chooseCalculation (sources : RideSources) (rideId bookingEvidenceId : Uuid) :
    PricingTransaction (BookedFare × Option FareCalculation) := do
  let ride ← demand (sources.activeRides rideId) (.conflict "completed_canonical_ride_required")
  let rideRequestId ← demand ride.rideRequestId (.conflict "completed_canonical_ride_required")
  let confirmation ← demand (sources.confirmations rideRequestId) lineageMissing
  require (confirmation.evidenceId = bookingEvidenceId) lineageMissing
  let fareEstimateId ← demand confirmation.fareEstimateId lineageMissing
  let estimateAcceptanceId ← demand confirmation.estimateAcceptanceId lineageMissing
  let _ ← demand confirmation.pricingLineageHash lineageMissing
  let journey ← financialJourney sources rideId
  pure (⟨fareEstimateId, estimateAcceptanceId⟩,
    journey.bind fun journey => journey.fareCalculations.getLast?)

def adopt (rideId : Uuid) (booked : BookedFare) (calculation : FareCalculation) :
    Except Failure FinancialBreakdown := do
  ensure (calculation.estimateId = booked.fareEstimateId ∧
      calculation.acceptanceId = booked.estimateAcceptanceId ∧ calculation.rideId = rideId)
    (.conflict "authoritative_pricing_lineage_conflict")
  breakdownOf calculation

/-- The adapter: a chosen calculation, or else a new one, which is committed before its adoption. -/
def finalBreakdown (config : PricingConfig) (sources : RideSources)
    (completedRouteMetrics : Uuid → String → DateTime → Except Failure RouteMetrics)
    (serviceSubject : AuthorizationSubject) (request : CompletionRequest) (store : PricingStore) :
    Except Failure FinancialBreakdown × PricingStore :=
  match chooseCalculation sources request.rideId request.bookingEvidenceId store with
  | .error failure => (.error failure, store)
  | .ok ((booked, some calculation), _) => (adopt request.rideId booked calculation, store)
  | .ok ((booked, none), _) =>
    match completedRouteMetrics request.rideId request.routeEvidenceId request.time with
    | .error failure => (.error failure, store)
    | .ok metrics =>
      match finalCalculation config sources serviceSubject
        { rideId := request.rideId, estimateId := booked.fareEstimateId, metrics,
          idempotencyKey := "post-trip-final-pricing:" ++ toString request.rideId,
          correlationId := request.rideId, time := request.time,
          candidateId := request.candidateId, auditReference := request.auditReference }
        store with
      | .error failure => (.error failure, store)
      | .ok (calculation, after) => (adopt request.rideId booked calculation, after)

theorem financialBreakdown?_eq_ok {gross commission taxes net : MinorAmount}
    {policyVersion : BoundedText 2 63} {policyEvidenceHash : Digest}
    {fareEstimateId fareCalculationId : Uuid} {financial : FinancialBreakdown} :
    financialBreakdown? gross commission taxes net policyVersion policyEvidenceHash fareEstimateId
        fareCalculationId = .ok financial ↔
      financial.grossFareMinor = gross ∧ financial.commissionMinor = commission ∧
        financial.incentivesMinor = zeroMinor ∧ financial.taxesMinor = taxes ∧
        financial.adjustmentsMinor = noAdjustment ∧ financial.netDriverEarningsMinor = net ∧
        financial.policyVersion = policyVersion ∧
        financial.policyEvidenceHash = policyEvidenceHash ∧
        financial.fareEstimateId = fareEstimateId ∧
        financial.fareCalculationId = fareCalculationId := by
  unfold financialBreakdown?
  split
  · simp only [Except.ok.injEq]
    constructor
    · rintro rfl
      exact ⟨rfl, rfl, rfl, rfl, rfl, rfl, rfl, rfl, rfl, rfl⟩
    · rintro ⟨rfl, rfl, incentives, rfl, adjustments, rfl, rfl, rfl, rfl, rfl⟩
      cases financial
      cases incentives
      cases adjustments
      rfl
  · rename_i unequal
    refine ⟨fun impossible => ?_, ?_⟩
    · cases impossible
    · rintro ⟨rfl, rfl, incentives, rfl, adjustments, rfl, _⟩
      refine absurd ?_ unequal
      rw [← incentives, ← adjustments]
      exact financial.equation

end Ayo.PostTrip.CompletionPricing
