/- digest: Arrivals, readiness decisions, waiting policies, sessions and their evidence. -/

import Ayo.Core.Values

namespace Ayo.ArrivalWaiting.Models

open Core.Values hiding isCode Code

/-- `^[a-z][a-z0-9_.-]{1,62}$`. -/
def isCode : String → Bool := isPattern Char.isLower isCodeChar 1 62

abbrev Code := { text : String // isCode text = true }

abbrev Ranged (least most : Int) := { value : Int // least ≤ value ∧ value ≤ most }

abbrev BasisPoints := Ranged 0 10000

/-- `timedelta(seconds=seconds)`, in microseconds. -/
def timedelta (seconds : Int) : Int := seconds * 1000000

def wholeSeconds (start finish : Instant) : Nat := ((finish - start).tdiv 1000000).toNat

inductive ArrivalState where
  | arrivalUnverified
  | arrivalVerified
  | waitPaused
  | waitInvalidated
deriving DecidableEq

inductive ReadinessClass where
  | ready
  | movingToPickup
  | likelyOnTime
  | mayBeLate
  | unlikelyOnTime
  | insufficientData
deriving DecidableEq

def ReadinessClass.value : ReadinessClass → String
  | .ready => "ready"
  | .movingToPickup => "moving_to_pickup"
  | .likelyOnTime => "likely_on_time"
  | .mayBeLate => "may_be_late"
  | .unlikelyOnTime => "unlikely_on_time"
  | .insufficientData => "insufficient_data"

inductive WaitingState where
  | freeWaitActive
  | freeWaitEnding
  | waitPaused
  | waitInvalidated
  | evidenceReady
deriving DecidableEq

def WaitingState.value : WaitingState → String
  | .freeWaitActive => "free_wait_active"
  | .freeWaitEnding => "free_wait_ending"
  | .waitPaused => "wait_paused"
  | .waitInvalidated => "wait_invalidated"
  | .evidenceReady => "evidence_ready"

inductive ResponsibilityClass where
  | rider
  | driver
  | ayo
  | external
  | shared
  | insufficient

inductive RideOrigin where
  | immediate
  | scheduled
deriving DecidableEq

inductive PickupContext where
  | airport
  | hotel
  | hospital
  | shoppingCentre
  | residential
  | university
  | stadium
  | market
deriving DecidableEq

inductive ServiceContext where
  | standard
  | airportStandard
  | airportPremium
deriving DecidableEq

inductive DepartureBehavior where
  | pause
  | invalidate
deriving DecidableEq

structure LocationObservation where
  observedAt : Instant
  sequence : Nat
  latitudeE6 : Ranged (-90000000) 90000000
  longitudeE6 : Ranged (-180000000) 180000000
  accuracyMeters : Ranged 0 10000
  speedCmPerSecond : Ranged 0 20000
  headingDegrees : Option (Ranged 0 359) := none

structure ArrivalSignals where
  observation : LocationObservation
  approvedPickupPlaceId : BoundedText 8 128
  pickupRecommendationId : Uuid
  pickupRecommendationVersion : Code
  pickupZoneId : BoundedText 3 128
  insidePickupZone : Bool
  (pickupConfidenceBps mapConfidenceBps : BasisPoints)
  secondsStationary : Ranged 0 86400
  (approachConsistent headingReliable accessiblePickup operationallyAvailable : Bool)
  unsafeOrRestricted : Bool := false
  serviceContext : ServiceContext := .standard
  airportTerminalCode : Option (BoundedText 0 32) := none
  airportZoneMatch : Bool := true
  airportContextFresh : Bool := true
  airportStagingConstraintSatisfied : Bool := true
  airportAccessPermitted : Bool := true
  airportCongestion : Bool := false
  airportZoneClosed : Bool := false
  flightDelayContext : Bool := false

structure ArrivalPolicy where
  (policyId version : Code)
  maximumLocationAgeSeconds : Ranged 1 900
  maximumAccuracyMeters : Ranged 1 500
  maximumStationarySpeedCmPerSecond : Ranged 0 2000
  minimumStationarySeconds : Ranged 1 3600
  (minimumPickupConfidenceBps minimumMapConfidenceBps : BasisPoints)
  minimumVerificationConfidenceBps : BasisPoints

structure ArrivalEvaluation where
  (evaluationId rideId assignmentId : Uuid)
  state : ArrivalState
  confidenceBps : Int
  reasonCodes : List String
  explanationCode : String
  pickupPlaceId : BoundedText 8 128
  pickupZoneId : BoundedText 3 128
  pickupRecommendationId : Uuid
  pickupRecommendationVersion : Code
  observationSequence : Nat
  evaluatedAt : Instant

structure ReadinessSignals where
  riderLocationAgeSeconds : Option (Ranged 0 86400) := none
  riderLocationAccuracyMeters : Option (Ranged 0 10000) := none
  movingTowardPickup : Option Bool := none
  withinPickupZone : Bool := false
  riderWalkingEtaSeconds : Option (Ranged 0 14400) := none
  driverEtaSeconds : Option (Ranged 0 14400) := none
  venueContextPossible : Bool := false
  pickupConfidenceBps : BasisPoints
  connectivityDegraded : Bool := false

structure ReadinessPolicy where
  (policyId version : Code)
  maximumLocationAgeSeconds : Ranged 1 900
  maximumAccuracyMeters : Ranged 1 1000
  (minimumConfidenceBps notificationConfidenceBps : BasisPoints)
  notificationCooldownSeconds : Ranged 1 86400
  maximumNotificationsPerRide : Ranged 0 20
  latenessMarginSeconds : Ranged 0 3600

structure ReadinessDecision where
  (decisionId rideId : Uuid)
  classification : ReadinessClass
  confidenceBps : Int
  reasonCodes : List String
  explanationCode : String
  (policyId policyVersion : Code)
  (evaluatedAt expiresAt : Instant)
  notificationRecommended : Bool
  notificationReasonCode : String
deriving DecidableEq

structure WaitingPolicyDefinition where
  policyId : Uuid
  (version cityCode : Code)
  rideOrigin : Option RideOrigin := none
  pickupContext : Option PickupContext := none
  serviceContext : Option ServiceContext := none
  assisted : Option Bool := none
  accessibilityAccommodation : Option Bool := none
  severeWeather : Option Bool := none
  operationalOverrideCode : Option Code := none
  effectiveFrom : Instant
  effectiveUntil : Option Instant := none
  priority : Ranged 0 10000
  freeWaitSeconds : Ranged 1 86400
  endingWarningSeconds : Ranged 0 86400
  departureBehavior : DepartureBehavior
  pauseOnInsufficientQuality : Bool
  maximumLocationAgeSeconds : Ranged 1 900
  minimumLocationConfidenceBps : BasisPoints
  reasonableNotificationRequired : Bool := true
  window : ∀ ending ∈ effectiveUntil, effectiveFrom < ending
  shorter : endingWarningSeconds.1 < freeWaitSeconds.1
deriving DecidableEq

structure WaitingPolicyContext where
  cityCode : Code
  rideOrigin : RideOrigin
  pickupContext : PickupContext
  serviceContext : ServiceContext
  assisted : Bool := false
  accessibilityAccommodation : Bool := false
  severeWeather : Bool := false
  operationalOverrideCode : Option Code := none

structure WaitingPolicySnapshot where
  (snapshotId rideId sourcePolicyId : Uuid)
  sourcePolicyVersion : Code
  context : WaitingPolicyContext
  matchedDimensions : List String
  selectedAt : Instant
  (freeWaitSeconds endingWarningSeconds : Int)
  departureBehavior : DepartureBehavior
  pauseOnInsufficientQuality : Bool
  (maximumLocationAgeSeconds minimumLocationConfidenceBps : Int)
  reasonableNotificationRequired : Bool

structure WaitingSession where
  (sessionId rideId assignmentId arrivalEvaluationId policySnapshotId : Uuid)
  state : WaitingState
  version : Nat := 1
  (verifiedArrivalAt startedAt freeWaitDeadline updatedAt : Instant)
  totalPausedSeconds : Nat := 0
  pausedAt : Option Instant := none
  lastObservationSequence : Nat
  reasonCodes : List String

structure ContinuitySignals where
  insidePickupZone : Bool
  locationAgeSeconds : Ranged 0 86400
  locationConfidenceBps : BasisPoints
  (driverAvailable pickupGuidanceValid reasonableNotification : Bool)
  platformFailure : Bool := false
  mapOrEtaFailure : Bool := false
  externalDisruption : Bool := false
  unsafeOrInaccessible : Bool := false
  airportZoneConfusion : Bool := false
  roadClosure : Bool := false
  emergency : Bool := false
  weakNetworkUncertainty : Bool := false
  driverMateriallyLate : Bool := false

structure EvidenceDecision where
  (evidenceId rideId sessionId : Uuid)
  ready : Bool
  responsibility : ResponsibilityClass
  confidenceBps : Int
  (reasonCodes suppressionReasonCodes : List String)
  explanationCode : String
  evaluatedAt : Instant

theorem timedelta_add (first second : Int) :
    timedelta (first + second) = timedelta first + timedelta second :=
  Int.add_mul first second 1000000

variable {finish : Instant}

theorem wholeSeconds_of_le {start : Instant} (ordered : start ≤ finish) :
    (wholeSeconds start finish : Int) = (finish - start) / 1000000 := by
  have nonneg : 0 ≤ finish - start := Int.sub_nonneg_of_le ordered
  have quotient : (finish - start).tdiv 1000000 = (finish - start) / 1000000 :=
    Int.tdiv_eq_ediv_of_nonneg nonneg
  have bound : 0 ≤ (finish - start) / 1000000 := Int.ediv_nonneg nonneg (by decide)
  rw [wholeSeconds, quotient, Int.toNat_of_nonneg bound]

theorem timedelta_wholeSeconds_le {start : Instant} (ordered : start ≤ finish) :
    timedelta (wholeSeconds start finish) ≤ finish - start := by
  rw [timedelta, wholeSeconds_of_le ordered]
  exact Int.ediv_mul_le (finish - start) (by decide)

end Ayo.ArrivalWaiting.Models
