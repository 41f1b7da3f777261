/- digest: Scheduled reservations, their state graph, and the ranking of candidates. -/

import Ayo.Core.Values
import Ayo.Kernel.KeyedTable
import Ayo.Kernel.Ordering

namespace Ayo.Scheduled.Models

open Kernel.KeyedTable Core.Values

inductive ReservationState where
  | requested
  | passengerConfirmationPending
  | accepted
  | planning
  | driverCommitted
  | revalidating
  | reassigning
  | fallbackDispatch
  | driverEnRoute
  | readyForPickup
  | activatedAsRide
  | fulfilled
  | riderCancelled
  | passengerDeclined
  | confirmationExpired
  | expired
  | noDriverAvailable
  | operationalReview
deriving DecidableEq

def terminalStates : List ReservationState :=
  [.fulfilled, .riderCancelled, .passengerDeclined, .confirmationExpired, .expired,
   .noDriverAvailable]

inductive ParticipantRole where
  | booker
  | passenger
  | futurePayer
  | trustedContact
deriving DecidableEq

inductive ParticipantKind where
  | identity
  | verifiedContact
  | assisted
deriving DecidableEq

inductive ConsentState where
  | notRequired
  | pending
  | confirmed
  | declined
  | expired
  | assistedRequired
deriving DecidableEq

inductive CommitmentState where
  | committed
  | released
  | expired
  | converted
deriving DecidableEq

inductive PassengerChannel where
  | identity
  | verifiedContact
  | assisted
deriving DecidableEq

inductive AssuranceLevel where
  | basic
  | multiFactor
  | phishingResistant
deriving DecidableEq

def Referenced (kind : ParticipantKind) (identityId : Option Uuid)
    (contactReference : Option (BoundedText 8 128)) : Prop :=
  (kind = .identity → identityId ≠ none) ∧ (kind ≠ .identity → contactReference ≠ none)

structure Participant where
  participantId : Uuid
  role : ParticipantRole
  kind : ParticipantKind
  identityId : Option Uuid
  contactReference : Option (BoundedText 8 128)
  consentState : ConsentState
  referenced : Referenced kind identityId contactReference

structure ParticipantRow where
  reservationId : Uuid
  payload : Participant

/-- `BasisPoints`. -/
abbrev Bps := { value : Nat // value ≤ 10000 }

structure PolicyValues where
  version : String
  minimumBookingLeadSeconds : Nat := 3600
  maximumBookingHorizonSeconds : Nat := 7776000
  softPlanningLeadSeconds : Nat := 86400
  formalCommitmentLeadSeconds : Nat := 10800
  revalidationLeadSeconds : Nat := 3600
  materialLatenessReductionSeconds : Nat := 300
  materialReliabilityGainBps : Nat := 1000
  stabilityMarginSeconds : Nat := 180
  maximumSoftReplacements : Nat := 2
  fairnessEtaEquivalenceSeconds : Nat := 60
  maximumFairnessCreditBps : Nat := 1000
  minimumPredictionConfidenceBps : Nat := 7000
  maximumCurrentTripCompletionSeconds : Nat := 1800

def PolicyValues.Valid (policy : PolicyValues) : Prop :=
  (300 ≤ policy.minimumBookingLeadSeconds ∧ policy.minimumBookingLeadSeconds ≤ 604800) ∧
  (3600 ≤ policy.maximumBookingHorizonSeconds ∧ policy.maximumBookingHorizonSeconds ≤ 31536000) ∧
  (300 ≤ policy.softPlanningLeadSeconds ∧ policy.softPlanningLeadSeconds ≤ 604800) ∧
  (300 ≤ policy.formalCommitmentLeadSeconds ∧ policy.formalCommitmentLeadSeconds ≤ 604800) ∧
  (60 ≤ policy.revalidationLeadSeconds ∧ policy.revalidationLeadSeconds ≤ 86400) ∧
  (1 ≤ policy.materialLatenessReductionSeconds ∧ policy.materialLatenessReductionSeconds ≤ 3600) ∧
  policy.materialReliabilityGainBps ≤ 10000 ∧ policy.stabilityMarginSeconds ≤ 3600 ∧
  policy.maximumSoftReplacements ≤ 20 ∧ policy.fairnessEtaEquivalenceSeconds ≤ 600 ∧
  policy.maximumFairnessCreditBps ≤ 10000 ∧ policy.minimumPredictionConfidenceBps ≤ 10000 ∧
  (60 ≤ policy.maximumCurrentTripCompletionSeconds ∧
    policy.maximumCurrentTripCompletionSeconds ≤ 14400) ∧
  policy.formalCommitmentLeadSeconds ≤ policy.softPlanningLeadSeconds ∧
  policy.revalidationLeadSeconds ≤ policy.formalCommitmentLeadSeconds ∧
  policy.minimumBookingLeadSeconds < policy.maximumBookingHorizonSeconds
deriving Decidable

structure ReservationPolicy extends PolicyValues where
  valid : toPolicyValues.Valid

structure ScheduledReservation where
  (reservationId bookerId passengerParticipantId : Uuid)
  (pickupPlaceId destinationPlaceId : BoundedText 8 128)
  distinct : pickupPlaceId ≠ destinationPlaceId
  serviceType : String
  quoteId : Uuid
  requestedPickupAt : Instant
  state : ReservationState
  (createdAt updatedAt : Instant)
  version : Nat
  counted : 1 ≤ version
  (activeSoftPlanId activeCommitmentId activatedRideId : Option Uuid)
  softReplacementCount : Nat

theorem ScheduledReservation.next_counted (row : ScheduledReservation) : 1 ≤ row.version + 1 :=
  Nat.le_add_left 1 row.version

structure ScheduledCandidate where
  driverId : Uuid
  (eligible safetyEligible : Bool)
  pickupEtaHighSeconds : Nat
  (pickupWindowSuccessBps opportunityDeficitBps : Bps)
  currentTripCompletionHighSeconds : Nat
  predictionConfidenceBps : Bps
  locationObservedAt : Instant
  hasConflictingCommitment : Bool

structure CandidateDecision where
  (decisionId driverId : Uuid)
  policyVersion : String
  conservativeEtaSeconds : Int
  reliabilityBps : Bps
  (fairnessCreditBps effectiveReliabilityBps : Nat)
  reasonCodes : List String

structure SoftPlan where
  (softPlanId reservationId driverId : Uuid)
  decision : CandidateDecision
  (selectedAt expiresAt : Instant)
  supersedesSoftPlanId : Option Uuid

structure DriverCommitment where
  (commitmentId reservationId driverId : Uuid)
  state : CommitmentState
  (windowStartedAt windowEndedAt : Instant)
  positive : windowStartedAt < windowEndedAt
  committedAt : Instant

structure PickupVerification where
  (verificationId reservationId : Uuid)
  codeHash : Digest
  expiresAt : Instant
  attemptCount : Nat := 0
  verifiedAt : Option Instant := none
  createdAt : Instant

structure ReservationRecord where
  actorId : Uuid
  (keyFingerprint requestHash : Digest)
  reservationId : Uuid
  (createdAt expiresAt : Instant)

def overlaps (a b : DriverCommitment) : Prop :=
  a.commitmentId = b.commitmentId ∨
    (a.state = .committed ∧ b.state = .committed ∧ a.driverId = b.driverId ∧
      a.windowStartedAt < b.windowEndedAt ∧ b.windowStartedAt < a.windowEndedAt)
deriving Decidable

theorem overlaps_symm {a b : DriverCommitment} (clash : overlaps a b) : overlaps b a := by
  rcases clash with same | ⟨first, second, driver, starts, ends⟩
  · exact .inl same.symm
  · exact .inr ⟨second, first, driver.symm, ends, starts⟩

instance : Row ScheduledReservation Uuid := .keyed ScheduledReservation.reservationId

instance : Row ParticipantRow Uuid := .keyed fun row => row.payload.participantId

instance : Row SoftPlan Uuid := .keyed SoftPlan.softPlanId

instance : Row DriverCommitment Uuid where
  key := DriverCommitment.commitmentId
  clash := overlaps
  clash_symm := overlaps_symm

instance : Row PickupVerification Uuid :=
  .keyedUnique PickupVerification.verificationId PickupVerification.reservationId

instance : Row ReservationRecord (Uuid × Digest) :=
  .keyed fun row => (row.actorId, row.keyFingerprint)

end Ayo.Scheduled.Models

/-! The transition graph of reservations, the ranking of candidates, and when a soft candidate may
be replaced. -/

namespace Ayo.Scheduled.Engine

open Kernel.UnitOfWork Kernel.Ordering Core.Values Models

variable {σ : Type}

def allowedTransitions : ReservationState → List ReservationState
  | .requested => [.passengerConfirmationPending, .accepted, .riderCancelled]
  | .passengerConfirmationPending =>
    [.accepted, .passengerDeclined, .confirmationExpired, .riderCancelled]
  | .accepted => [.planning, .riderCancelled]
  | .planning => [.driverCommitted, .noDriverAvailable, .operationalReview, .riderCancelled]
  | .driverCommitted => [.revalidating, .reassigning, .driverEnRoute, .riderCancelled]
  | .revalidating =>
    [.driverEnRoute, .reassigning, .fallbackDispatch, .operationalReview, .riderCancelled]
  | .reassigning =>
    [.driverCommitted, .driverEnRoute, .fallbackDispatch, .noDriverAvailable, .operationalReview]
  | .fallbackDispatch => [.driverEnRoute, .noDriverAvailable, .operationalReview]
  | .driverEnRoute => [.readyForPickup, .reassigning, .operationalReview, .riderCancelled]
  | .readyForPickup => [.activatedAsRide, .riderCancelled]
  | .activatedAsRide => [.fulfilled]
  | .operationalReview => [.reassigning, .fallbackDispatch, .noDriverAvailable, .riderCancelled]
  | .fulfilled | .riderCancelled | .passengerDeclined | .confirmationExpired | .expired
  | .noDriverAvailable => []

def transition (reservation : ScheduledReservation) (target : ReservationState) (now : Instant) :
    Transaction σ Failure ScheduledReservation := do
  require (target ∈ allowedTransitions reservation.state)
    (.conflict "Invalid reservation transition")
  pure
    { reservation with
      state := target, updatedAt := now, version := reservation.version + 1,
      counted := reservation.next_counted }

section

variable (policy : ReservationPolicy)

def Eligible (candidate : ScheduledCandidate) (now : Instant) : Prop :=
  candidate.eligible = true ∧ candidate.safetyEligible = true ∧
    candidate.hasConflictingCommitment = false ∧ candidate.locationObservedAt ≤ now ∧
    policy.minimumPredictionConfidenceBps ≤ candidate.predictionConfidenceBps.1 ∧
    candidate.currentTripCompletionHighSeconds ≤ policy.maximumCurrentTripCompletionSeconds
deriving Decidable

variable (decisionId : Uuid → Uuid → String → Uuid) (reservation : ScheduledReservation)

def decisionOn (bestEta : Nat) (candidate : ScheduledCandidate) : CandidateDecision :=
  let fairness :=
    if candidate.pickupEtaHighSeconds ≤ bestEta + policy.fairnessEtaEquivalenceSeconds then
      min candidate.opportunityDeficitBps.1 policy.maximumFairnessCreditBps
    else 0
  { decisionId := decisionId reservation.reservationId candidate.driverId policy.version,
    driverId := candidate.driverId, policyVersion := policy.version,
    conservativeEtaSeconds := candidate.pickupEtaHighSeconds,
    reliabilityBps := candidate.pickupWindowSuccessBps, fairnessCreditBps := fairness,
    effectiveReliabilityBps := min 10000 (candidate.pickupWindowSuccessBps.1 + fairness),
    reasonCodes :=
      ["eligible", "conservative_eta", "policy_versioned"] ++
      (if fairness ≠ 0 then ["bounded_opportunity_fairness"] else []) ++
      (if candidate.currentTripCompletionHighSeconds ≠ 0 then
        ["current_trip_completion_protected"] else []) }

def rank (candidates : List ScheduledCandidate) (now : Instant) : List CandidateDecision :=
  let eligible := candidates.filter fun candidate => Eligible policy candidate now
  match (eligible.map ScheduledCandidate.pickupEtaHighSeconds).min? with
  | none => []
  | some bestEta =>
    orderedBy (fun decision : CandidateDecision =>
        toLex (-(decision.effectiveReliabilityBps : Int),
          toLex (decision.conservativeEtaSeconds, decision.driverId)))
      (eligible.map (decisionOn policy decisionId reservation bestEta))

def shouldReplaceSoftCandidate (incumbent challenger : CandidateDecision)
    (reservation : ScheduledReservation) : Bool × List String :=
  let latenessGain := incumbent.conservativeEtaSeconds - challenger.conservativeEtaSeconds
  let reliabilityGain :=
    (challenger.effectiveReliabilityBps : Int) - incumbent.effectiveReliabilityBps
  if reservation.activeCommitmentId ≠ none then
    (false, ["formal_commitment_lock_active"])
  else if policy.maximumSoftReplacements ≤ reservation.softReplacementCount then
    (false, ["soft_replacement_limit_reached"])
  else if latenessGain ≤ policy.stabilityMarginSeconds then
    (false, ["stability_margin_not_met"])
  else if latenessGain < policy.materialLatenessReductionSeconds ∨
      reliabilityGain < policy.materialReliabilityGainBps then
    (false, ["material_improvement_not_met"])
  else
    (true, ["material_lateness_risk_reduction", "material_pickup_reliability_gain",
      "recovery_capacity_improved"])

end

def planSoftCandidate (reservation : ScheduledReservation) (decision : CandidateDecision)
    (now expiresAt : Instant) (previous : Option SoftPlan) (softPlanId : Uuid) :
    Transaction σ Failure SoftPlan := do
  require (reservation.activeCommitmentId = none)
    (.conflict "Formal commitment lock prevents soft planning")
  pure
    { softPlanId, reservationId := reservation.reservationId, driverId := decision.driverId,
      decision, selectedAt := now, expiresAt,
      supersedesSoftPlanId := previous.map SoftPlan.softPlanId }

end Ayo.Scheduled.Engine
