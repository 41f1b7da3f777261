/- digest: Estimates, acceptances, calculations and their chain of authority. -/

import Ayo.Kernel.KeyedTable
import Ayo.Pricing.Fares

namespace Ayo.Pricing.Models

open Core.Values

inductive CalculationState where
  | estimateCreated
  | estimateAccepted
  | estimateExpired
  | finalInputsPending
  | finalCalculated
  | reviewRequired
  | finalized
  | disputed
  | corrected
  | settlementInstructionReady
deriving DecidableEq

structure FinancialTraceability where
  rideRequestId : Uuid
  (dispatchHandoffId assignmentId activeRideId : Option Uuid)
  fareEstimateId : Uuid
  fareCalculationId : Option Uuid
deriving DecidableEq

structure FareBreakdown where
  currency : Currency
  riderTotalMinor : MinorAmount

structure FareCalculation where
  (calculationId rideId riderIdentityId driverIdentityId : Uuid)
  state : CalculationState
  breakdown : FareBreakdown
  financialTraceability : FinancialTraceability

/-- The answers of the pricing store while one command runs. -/
abbrev Calculations := Uuid → Option FareCalculation

end Ayo.Pricing.Models

/-! Fare estimates, their acceptances, fare calculations, and the chain of authority that each of
them carries. -/

namespace Ayo.Pricing.Records

open Kernel.KeyedTable Core.Values Fares
open Models (CalculationState)

structure TraceLinks extends Ayo.Pricing.Models.FinancialTraceability where
  predecessorFareCalculationId : Option Uuid := none
deriving DecidableEq

def chainObjection (links : TraceLinks) : Option String :=
  refuse (links.activeRideId = none ∧ links.dispatchHandoffId ≠ none)
    "Dispatch lineage requires Active Ride" <|
  refuse (links.activeRideId = none ∧ links.assignmentId ≠ none)
    "Assignment lineage requires Active Ride" <|
  refuse (links.activeRideId ≠ none ∧ (links.dispatchHandoffId = none ∨ links.assignmentId = none))
    "Active Ride trace requires Dispatch lineage" <|
  refuse (links.fareCalculationId ≠ none ∧ links.activeRideId = none)
    "Fare calculation trace requires Active Ride lineage" <|
  refuse (links.fareCalculationId ≠ none ∧
      (links.dispatchHandoffId = none ∨ links.assignmentId = none))
    "Fare calculation trace requires Dispatch lineage" <|
  refuse (links.predecessorFareCalculationId ≠ none ∧ (links.fareCalculationId = none ∨
        links.predecessorFareCalculationId = links.fareCalculationId))
    "Correction trace requires a distinct calculation"
    none

structure FinancialTraceability extends TraceLinks where
  valid : chainObjection toTraceLinks = none
deriving DecidableEq

def FinancialTraceability.validate? (links : TraceLinks) : Except Failure FinancialTraceability :=
  if valid : chainObjection links = none then
    .ok { links with valid }
  else
    .error (.value ((chainObjection links).getD ""))

structure FareEstimate where
  (estimateId rideRequestId riderIdentityId policyId : Uuid)
  policyVersion : Version
  serviceZoneId : Uuid
  serviceType : ServiceType
  metrics : RouteMetrics
  breakdown : FareBreakdown
  financialTraceability : FinancialTraceability
  calculationLineage : CalculationLineage
  state : CalculationState
  (expiresAt createdAt : Instant)
  (reasonCodes translationKeys : List String)
  (auditReference correlationId causationId : Uuid)
  expiry : createdAt < expiresAt

structure EstimateAcceptance where
  (acceptanceId estimateId riderIdentityId : Uuid)
  acceptedPolicyVersion : Version
  acceptedAmountMinor : MinorAmount
  currency : EtbCurrency
  acceptedAt : Instant
  idempotencyKey : BoundedText 16 128
  auditReference : Uuid

/-- `Field(ge=-10_000_000_000, le=10_000_000_000)`. -/
abbrev Difference := { amount : Int // -10000000000 ≤ amount ∧ amount ≤ 10000000000 }

def difference? (amount : Int) : Option Difference := refine? _ amount

structure FareCalculation where
  (calculationId estimateId acceptanceId rideId riderIdentityId driverIdentityId policyId : Uuid)
  policyVersion : Version
  state : CalculationState
  metrics : RouteMetrics
  breakdown : FareBreakdown
  financialTraceability : FinancialTraceability
  calculationLineage : CalculationLineage
  estimateDifferenceMinor : Difference
  predecessorCalculationId : Option Uuid := none
  (reasonCodes translationKeys : List String)
  auditReference : Uuid
  calculatedAt : Instant
  settlementInstructionReady : Bool := false
deriving DecidableEq

structure ComponentRow where
  calculationId : Uuid
  componentType : String
  amountMinor : MinorAmount
  currency : EtbCurrency
  policyVersion : Version

instance : Row PricingPolicy Uuid :=
  .keyedUnique (fun row => row.policyId) fun row => row.policyVersion

instance : Row FareEstimate Uuid := .keyed FareEstimate.estimateId

/-- The primary key, the unique estimate, and the unique key of a rider. -/
instance : Row EstimateAcceptance Uuid where
  key := EstimateAcceptance.acceptanceId
  clash a b := a.acceptanceId = b.acceptanceId ∨ a.estimateId = b.estimateId ∨
    (a.riderIdentityId, a.idempotencyKey) = (b.riderIdentityId, b.idempotencyKey)
  clash_symm clash := clash.imp Eq.symm fun clash => clash.imp Eq.symm Eq.symm

/-- The primary key, and `uq_fare_calculation_original`: one original for each ride. -/
instance : Row FareCalculation Uuid where
  key := FareCalculation.calculationId
  clash a b := a.calculationId = b.calculationId ∨ a.rideId = b.rideId ∧
    a.predecessorCalculationId = none ∧ b.predecessorCalculationId = none
  clash_symm clash := clash.imp Eq.symm fun same => ⟨same.1.symm, same.2.2, same.2.1⟩

end Ayo.Pricing.Records
