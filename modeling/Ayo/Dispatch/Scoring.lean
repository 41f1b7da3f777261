/- digest: Rides, drivers and policies of the immediate dispatch, and its ranking. -/

import Ayo.Core.Values
import Ayo.Kernel.KeyedTable
import Ayo.Kernel.Ordering
import Mathlib.Data.Int.Log
import Mathlib.Data.Rat.Floor

namespace Ayo.Dispatch.Models

open Kernel.KeyedTable Core.Values

inductive RideState where
  | searching
  | offering
  | assigned
  | noDriverAvailable
  | riderCancelled
deriving DecidableEq

inductive OfferState where
  | created
  | accepted
  | declined
  | expired
  | revoked

inductive DriverAvailability where
  | available
  | reserved
  | assigned
  | offline
  | suspended
deriving DecidableEq

/-- `Field(ge=least, le=most)` of an integer. -/
abbrev Between (least most : Int) := { value : Int // least ≤ value ∧ value ≤ most }

structure DispatchRide where
  (rideId riderId : Uuid)
  serviceType : String
  state : RideState := .searching
  updatedAt : Instant
  version : Nat := 1
  assignedDriverId : Option Uuid := none
  activeOfferId : Option Uuid := none
  attemptedDriverIds : List Uuid := []

structure DriverReputation where
  completedTrips : Nat := 0
  reliableCompletions : Nat := 0
  avoidableCancellations : Nat := 0
  validCounts : reliableCompletions ≤ completedTrips

/-- `Field(ge=0, le=1)` of a decimal. -/
abbrev Share := { value : ℚ // 0 ≤ value ∧ value ≤ 1 }

structure DriverCandidate where
  driverId : Uuid
  availability : DriverAvailability
  (verified safetyEligible : Bool)
  serviceTypes : List String
  pickupEtaSeconds : Between 0 14400
  locationObservedAt : Instant
  opportunityDeficit : Share
  reputation : DriverReputation

structure DispatchPolicy where
  version : String
  offerTimeoutSeconds : Between 5 120
  maximumLocationAgeSeconds : Between 5 300
  minimumReputationHistory : Between 1 1000
  (maximumFairnessEtaTradeoffSeconds reliabilityPenaltySeconds : Between 0 120)
  maximumCandidates : Between 1 100

structure DispatchScore where
  driverId : Uuid
  (pickupEtaSeconds effectiveEtaSeconds : Int)
  trustScore : ℚ
  neutralReputation : Bool
  (fairnessCreditSeconds reliabilityPenaltySeconds : Int)
  policyVersion : String
  reasonCodes : List String

structure DriverOffer where
  (offerId rideId driverId : Uuid)
  state : OfferState := .created
  (createdAt expiresAt : Instant)
  policyVersion : String
  score : DispatchScore
  version : Nat := 1

instance : Row DispatchRide Uuid := .keyed DispatchRide.rideId

instance : Row DriverCandidate Uuid := .keyed DriverCandidate.driverId

instance : Row DriverOffer Uuid := .keyed DriverOffer.offerId

end Ayo.Dispatch.Models

/-! Decimal numbers of 28 significant digits, the eligible drivers of a ride and their scores. -/

namespace Ayo.Dispatch.Scoring

open Kernel.Ordering Core.Values Models

def roundHalfEven (value : ℚ) : Int :=
  let below := ⌊value⌋
  let rest := value - below
  if rest < 1 / 2 then below
  else if 1 / 2 < rest then below + 1
  else if below % 2 = 0 then below
  else below + 1

/-- What the decimal context makes of an exact result: 28 significant digits, rounded half-even. -/
def significant (value : ℚ) : ℚ :=
  if value = 0 then 0
  else
    let scale : ℚ := 10 ^ (27 - Int.log 10 |value|)
    roundHalfEven (value * scale) / scale

def quantizeHalfUp (value : ℚ) : Int := ⌊value + 1 / 2⌋

def trust (reputation : DriverReputation) (minimumHistory : Int) : ℚ × Bool :=
  if (reputation.completedTrips : Int) < minimumHistory then
    (1 / 2, true)
  else
    let reliability := significant (reputation.reliableCompletions / reputation.completedTrips)
    let cancellationPenalty :=
      min (significant (reputation.avoidableCancellations / reputation.completedTrips)) (1 / 4)
    (max 0 (significant (reliability - cancellationPenalty)), false)

section

variable (ride : DispatchRide) (policy : DispatchPolicy) (now : Instant)

def passedBy (candidate : DriverCandidate) : Bool :=
  let locationAge := now - candidate.locationObservedAt
  candidate.driverId ∈ ride.attemptedDriverIds ∨ candidate.availability ≠ .available ∨
    candidate.verified = false ∨ candidate.safetyEligible = false ∨
    ride.serviceType ∉ candidate.serviceTypes ∨ locationAge < 0 ∨
    locationAge > policy.maximumLocationAgeSeconds.1 * 1000000

variable (candidates : List DriverCandidate)

def eligibleCandidates : List DriverCandidate :=
  (candidates.take policy.maximumCandidates.1.toNat).filter fun candidate =>
    !passedBy ride policy now candidate

def scoreOf (candidate : DriverCandidate) : DispatchScore :=
  let (trusted, neutral) := trust candidate.reputation policy.minimumReputationHistory.1
  let reliabilityPenalty : Int :=
    if neutral then 0
    else ⌊significant (significant (1 - trusted) * policy.reliabilityPenaltySeconds.1)⌋
  let fairnessCredit := quantizeHalfUp
    (significant (candidate.opportunityDeficit.1 * policy.maximumFairnessEtaTradeoffSeconds.1))
  { driverId := candidate.driverId, pickupEtaSeconds := candidate.pickupEtaSeconds.1,
    effectiveEtaSeconds :=
      max 0 (candidate.pickupEtaSeconds.1 + reliabilityPenalty - fairnessCredit),
    trustScore := trusted, neutralReputation := neutral, fairnessCreditSeconds := fairnessCredit,
    reliabilityPenaltySeconds := reliabilityPenalty, policyVersion := policy.version,
    reasonCodes := ["fast_pickup", "eligible", "policy_versioned"] ++
      (if neutral then ["neutral_reputation"] else []) ++
      (if fairnessCredit ≠ 0 then ["bounded_opportunity_balance"] else []) ++
      (if reliabilityPenalty ≠ 0 then ["established_reliability"] else []) }

def scoreCandidates : List DispatchScore :=
  let eligible := eligibleCandidates ride policy now candidates
  match (eligible.map fun item => item.pickupEtaSeconds.1).min? with
  | none => []
  | some fastestEta =>
    orderedBy (fun item => toLex (item.effectiveEtaSeconds, toLex (item.pickupEtaSeconds,
      item.driverId)))
      ((eligible.filter fun candidate => decide (candidate.pickupEtaSeconds.1 ≤
        fastestEta + policy.maximumFairnessEtaTradeoffSeconds.1)).map (scoreOf policy))

end

section

structure Eligible (ride : DispatchRide) (policy : DispatchPolicy) (now : Instant)
    (driver : DriverCandidate) : Prop where
  unattempted : driver.driverId ∉ ride.attemptedDriverIds
  available : driver.availability = .available
  verified : driver.verified = true
  safe : driver.safetyEligible = true
  serves : ride.serviceType ∈ driver.serviceTypes
  located : driver.locationObservedAt ≤ now
  fresh : now - driver.locationObservedAt ≤ policy.maximumLocationAgeSeconds.1 * 1000000

variable {ride : DispatchRide} {policy : DispatchPolicy} {now : Instant} {driver : DriverCandidate}
  {candidates : List DriverCandidate}

theorem passedBy_iff :
    passedBy ride policy now driver = false ↔ Eligible ride policy now driver := by
  simp only [passedBy, decide_eq_false_iff_not, not_or, not_not, Bool.not_eq_false, Int.not_lt]
  constructor
  · rintro ⟨unattempted, available, verified, safe, serves, located, fresh⟩
    exact ⟨unattempted, available, verified, safe, serves, Int.le_of_sub_nonneg located, fresh⟩
  · intro eligible
    exact ⟨eligible.unattempted, eligible.available, eligible.verified, eligible.safe,
      eligible.serves, Int.sub_nonneg_of_le eligible.located, eligible.fresh⟩

theorem mem_eligibleCandidates : driver ∈ eligibleCandidates ride policy now candidates ↔
      driver ∈ candidates.take policy.maximumCandidates.1.toNat ∧
        Eligible ride policy now driver := by
  unfold eligibleCandidates
  rw [List.mem_filter, Bool.not_eq_true', passedBy_iff]

theorem scoreCandidates_eq_nil_iff : scoreCandidates ride policy now candidates = [] ↔
      ∀ driver ∈ candidates.take policy.maximumCandidates.1.toNat,
        ¬ Eligible ride policy now driver := by
  have empty_iff : eligibleCandidates ride policy now candidates = [] ↔
      ∀ driver ∈ candidates.take policy.maximumCandidates.1.toNat,
        ¬ Eligible ride policy now driver := by
    rw [List.eq_nil_iff_forall_not_mem]
    constructor
    · intro absent driver first eligible
      exact absent driver (mem_eligibleCandidates.2 ⟨first, eligible⟩)
    · intro ineligible driver mem
      obtain ⟨first, eligible⟩ := mem_eligibleCandidates.1 mem
      exact ineligible driver first eligible
  rw [← empty_iff]
  cases fastest : ((eligibleCandidates ride policy now candidates).map
      fun item => item.pickupEtaSeconds.1).min? with
  | none =>
    have empty := List.min?_eq_none_iff.1 fastest
    refine iff_of_true ?_ (List.map_eq_nil_iff.1 empty)
    simp only [scoreCandidates, fastest]
  | some eta =>
    obtain ⟨quickest, mem, same⟩ := List.mem_map.1 (List.min?_mem fastest)
    have nonneg := policy.maximumFairnessEtaTradeoffSeconds.2.1
    have kept : scoreOf policy quickest ∈ scoreCandidates ride policy now candidates := by
      simp only [scoreCandidates, fastest]
      refine mem_orderedBy.2 (List.mem_map_of_mem (List.mem_filter.2 ⟨mem, ?_⟩))
      simp only [decide_eq_true_eq]
      omega
    refine iff_of_false ?_ ?_
    · intro unscored
      rw [unscored] at kept
      exact absurd kept List.not_mem_nil
    · intro empty
      rw [empty] at mem
      exact absurd mem List.not_mem_nil

end

end Ayo.Dispatch.Scoring
