/- digest: Dispatch handoffs, their offers and assignments, and the ranking of drivers. -/

import Ayo.Core.Values
import Ayo.Kernel.KeyedTable
import Ayo.Kernel.Ordering

namespace Ayo.Handoff.Models

open Kernel.KeyedTable Kernel.Ordering Core.Values

inductive HandoffState where
  | searching
  | offering
  | assigned
  | cancelled
  | noDriver
deriving DecidableEq

inductive HandoffOfferState where
  | created
  | accepted
  | rejected
  | expired
  | cancelled
  | superseded
deriving DecidableEq

structure PricingLineage where
  (fareEstimateId estimateAcceptanceId policyId : Uuid)
  policyVersion : String
  lineageHash : Digest
deriving DecidableEq

structure DispatchHandoff where
  (handoffId rideRequestId riderIdentityId serviceZoneId : Uuid)
  pricing : Option PricingLineage
  state : HandoffState := .searching
  version : Nat := 1
  counted : 1 ≤ version
  (createdAt expiresAt : Instant)
  lasting : createdAt < expiresAt
  assignedDriverId : Option Uuid := none

def DispatchHandoff.moved (handoff : DispatchHandoff) (state : HandoffState) : DispatchHandoff :=
  { handoff with
    state, version := handoff.version + 1, counted := Nat.le_add_left 1 handoff.version }

abbrev BasisPoints := { value : Nat // value ≤ 10000 }

structure EligibleDriverInput where
  (driverId vehicleId authorizedVehicleId : Uuid)
  accountActive : Bool
  eligibilityStatus : String
  eligibilityExpiresAt : Instant
  vehicleApproved : Bool
  supportedServices : List String
  availability : String
  availabilityObservedAt : Instant
  pickupCostSeconds : Nat
  headingConsistent : Bool := true
  pickupAccessible : Bool := true
  conflictingCommitment : Bool := false
  authenticatedSessionActive : Bool := true
  earningCapability : String := "ride_driver"
  fatigueEligible : Bool := true
  temporaryRestrictionsClear : Bool := true
  trafficEvidenceFresh : Bool := true
  pickupConfidenceBps : BasisPoints
  activeWorkloadCount : Nat := 0
  (reliabilityBps cancellationHistoryBps opportunityDeficitBps : BasisPoints)
  routeEvidenceId : BoundedText 8 128
  routeObservedAt : Option Instant := none

structure HandoffOffer where
  (offerId handoffId driverId vehicleId : Uuid)
  state : HandoffOfferState := .created
  version : Nat := 1
  (createdAt expiresAt : Instant)
  lasting : createdAt < expiresAt
  dispatchPolicyVersion : String
  pickupCostSeconds : Nat
  routeEvidenceId : BoundedText 8 128
  decisionReasonCodes : List String

structure HandoffAssignment where
  (assignmentId handoffId offerId driverId vehicleId : Uuid)
  assignedAt : Instant
  releasedAt : Option Instant := none

structure HandoffEvent where
  handoffId : Uuid
  eventType : String
  aggregateVersion : Nat
  occurredAt : Instant

def offersClash (a b : HandoffOffer) : Prop :=
  a.offerId = b.offerId ∨ (a.state = .created ∧ b.state = .created ∧
      (a.handoffId = b.handoffId ∨ a.driverId = b.driverId))
deriving Decidable

theorem offersClash_symm {a b : HandoffOffer} (clash : offersClash a b) : offersClash b a := by
  rcases clash with same | ⟨first, second, same⟩
  · exact .inl same.symm
  · exact .inr ⟨second, first, same.imp Eq.symm Eq.symm⟩

def assignmentsClash (a b : HandoffAssignment) : Prop :=
  a.assignmentId = b.assignmentId ∨ a.handoffId = b.handoffId ∨ a.offerId = b.offerId ∨
    (a.releasedAt = none ∧ b.releasedAt = none ∧ a.driverId = b.driverId)
deriving Decidable

theorem assignmentsClash_symm {a b : HandoffAssignment} (clash : assignmentsClash a b) :
    assignmentsClash b a := by
  rcases clash with same | same | same | ⟨first, second, same⟩
  · exact .inl same.symm
  · exact .inr (.inl same.symm)
  · exact .inr (.inr (.inl same.symm))
  · exact .inr (.inr (.inr ⟨second, first, same.symm⟩))

instance : Row DispatchHandoff Uuid :=
  .keyedUnique DispatchHandoff.handoffId DispatchHandoff.rideRequestId

instance : Row HandoffOffer Uuid where
  key := HandoffOffer.offerId
  clash := offersClash
  clash_symm := offersClash_symm

instance : Row HandoffAssignment Uuid where
  key := HandoffAssignment.assignmentId
  clash := assignmentsClash
  clash_symm := assignmentsClash_symm

instance : Row HandoffEvent (Uuid × String × Nat) :=
  .keyed fun row => (row.handoffId, row.eventType, row.aggregateVersion)

/-- `timedelta(seconds=count)`, in microseconds. -/
def seconds (count : Int) : Int := count * 1000000

/-- Evidence that was observed by now, and not too long ago. -/
def Recent (now observedAt : Instant) (maximumAgeSeconds : Int) : Prop :=
  0 ≤ now - observedAt ∧ now - observedAt ≤ seconds maximumAgeSeconds
deriving Decidable

/-- The checks of `rank_candidates` on one driver. -/
def Suitable (now : Instant) (maximumAgeSeconds : Int) (item : EligibleDriverInput) : Prop :=
  item.accountActive = true ∧ item.authenticatedSessionActive = true ∧
    item.earningCapability = "ride_driver" ∧ item.eligibilityStatus = "eligible" ∧
    now < item.eligibilityExpiresAt ∧ item.vehicleApproved = true ∧
    item.vehicleId = item.authorizedVehicleId ∧ "immediate_standard" ∈ item.supportedServices ∧
    item.availability = "available" ∧
    Recent now item.availabilityObservedAt maximumAgeSeconds ∧ item.pickupAccessible = true ∧
    item.fatigueEligible = true ∧ item.temporaryRestrictionsClear = true ∧
    item.trafficEvidenceFresh = true ∧ 5000 ≤ item.pickupConfidenceBps.1 ∧
    Recent now (item.routeObservedAt.getD item.availabilityObservedAt) maximumAgeSeconds ∧
    item.conflictingCommitment = false
deriving Decidable

variable (item : EligibleDriverInput)

def effectiveCost : Nat :=
  item.pickupCostSeconds + (10000 - item.reliabilityBps.1) * 10 / 10000 +
    item.cancellationHistoryBps.1 * 10 / 10000 + min (item.activeWorkloadCount * 5) 15 -
    item.opportunityDeficitBps.1 * 20 / 10000

def rankKey : Nat ×ₗ Nat ×ₗ Nat ×ₗ Uuid :=
  toLex (effectiveCost item, toLex (item.pickupCostSeconds,
    toLex (if item.headingConsistent = true then 0 else 1, item.driverId)))

def rankCandidates (candidates : List EligibleDriverInput) (now : Instant)
    (maximumAgeSeconds : Int) : List EligibleDriverInput :=
  orderedBy rankKey (candidates.filter fun item => Suitable now maximumAgeSeconds item)

def decisionReasonCodes : List String :=
  ["pickup_eta_primary", "safety_eligible", "ride_driver_online"] ++
    (if item.opportunityDeficitBps.1 ≠ 0 then ["bounded_fair_opportunity"] else []) ++
    (if item.reliabilityBps.1 ≠ 5000 then ["bounded_reliability_evidence"] else []) ++
    (if item.cancellationHistoryBps.1 ≠ 0 then ["bounded_cancellation_history"] else []) ++
    (if item.activeWorkloadCount ≠ 0 then ["active_workload_considered"] else []) ++
    ["route_intelligence_evidence", "policy_versioned"]

end Ayo.Handoff.Models
