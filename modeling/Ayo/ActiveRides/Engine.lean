/- digest: Active rides with their events, evidence and verifications, and their state graph. -/

import Ayo.Kernel.KeyedTable
import Ayo.Core.Values

namespace Ayo.ActiveRides.Models

open Kernel.KeyedTable Core.Values
open Rides.Sources (ActiveRideState)

/-- `^[a-z][a-z0-9_.-]{1,62}$`. -/
def isRideCode : String → Bool := isPattern Char.isLower isCodeChar 1 62

abbrev RideCode := { text : String // isRideCode text = true }

def rideCode? (text : String) : Option RideCode := refine? _ text

/-- `timedelta(seconds=count)`, in microseconds. -/
def seconds (count : Int) : Int := count * 1000000

def stateValue : ActiveRideState → String
  | .driverAssigned => "driver_assigned"
  | .requestAccepted => "request_accepted"
  | .searching => "searching"
  | .offering => "offering"
  | .assigned => "assigned"
  | .driverEnRoute => "driver_en_route"
  | .driverArrived => "driver_arrived"
  | .pickupVerificationPending => "pickup_verification_pending"
  | .pickupVerified => "pickup_verified"
  | .inProgress => "in_progress"
  | .destinationApproaching => "destination_approaching"
  | .completionPending => "completion_pending"
  | .completed => "completed"
  | .reassigning => "reassigning"
  | .cancellationPending => "cancellation_pending"
  | .cancelled => "cancelled"
  | .noShowReview => "no_show_review"
  | .noDriverAvailable => "no_driver_available"
  | .operationalRecovery => "operational_recovery"
  | .operationalReview => "operational_review"
  | .pickupConfirmed => "pickup_confirmed"
  | .rideInProgress => "ride_in_progress"
  | .destinationArrived => "destination_arrived"
  | .driverCancelled => "driver_cancelled"
  | .riderCancelled => "rider_cancelled"
  | .supportInterrupted => "support_interrupted"
  | .systemInterrupted => "system_interrupted"

def allStates : List ActiveRideState :=
  [.driverAssigned, .requestAccepted, .searching, .offering, .assigned, .driverEnRoute,
   .driverArrived, .pickupVerificationPending, .pickupVerified, .inProgress,
   .destinationApproaching, .completionPending, .completed, .reassigning, .cancellationPending,
   .cancelled, .noShowReview, .noDriverAvailable, .operationalRecovery, .operationalReview,
   .pickupConfirmed, .rideInProgress, .destinationArrived, .driverCancelled, .riderCancelled,
   .supportInterrupted, .systemInterrupted]

variable {state : ActiveRideState}

theorem mem_allStates : state ∈ allStates := by
  cases state <;> decide

def stateNamed? (text : String) : Option ActiveRideState :=
  allStates.find? fun state => stateValue state = text

@[simp] theorem stateNamed?_stateValue : stateNamed? (stateValue state) = some state := by
  cases state <;> decide

inductive ActorRole where
  | rider
  | driver
  | worker
  | support

structure ActiveRide where
  (rideId riderId : Uuid)
  (driverId vehicleId assignmentId rideRequestId dispatchHandoffId : Option Uuid)
  lifecyclePolicyVersion : RideCode
  state : ActiveRideState
  (pickupPlaceId destinationPlaceId : BoundedText 8 128)
  serviceType : RideCode
  updatedAt : Instant
  version : Nat
  counted : 1 ≤ version
  lastSequence : Nat
  driverChanged : Bool := false
deriving DecidableEq

structure RideEvent where
  (eventId rideId : Uuid)
  (sequence aggregateVersion : Nat)
  eventType : RideCode
  occurredAt : Instant
  payload : Payload

variable (event : RideEvent)

def RideEvent.stateAt (field : String) : Option ActiveRideState :=
  match event.payload.lookup field with
  | some (.text state) => stateNamed? state
  | _ => none

def RideEvent.stateTo : Option ActiveRideState := event.stateAt "state_to"

def RideEvent.stateFrom : Option ActiveRideState := event.stateAt "state_from"

structure EvidenceRecord where
  (evidenceId rideId : Uuid)
  evidenceType : RideCode
  submittedByRole : ActorRole
  observedAt : Instant
  reasonCode : RideCode
  evidenceReferences : List String := []

structure CommandRecord where
  (actorId commandId rideId : Uuid)
  commandType : String
  requestHash : Digest
  resultVersion : Nat
  (createdAt expiresAt : Instant)

structure PickupVerification where
  (verificationId rideId assignmentId : Uuid)
  secretDigest : Digest
  expiresAt : Instant
  attemptCount : Nat := 0
  maximumAttempts : Nat
  cooldownUntil : Option Instant := none
  verifiedAt : Option Instant := none
  invalidatedAt : Option Instant := none
  createdAt : Instant

/-- The primary key, `uq_active_rides_immediate_assignment` and `uq_active_rides_ride_request`;
the first unique index is on rides with a dispatch handoff. -/
def clashes (a b : ActiveRide) : Prop :=
  a.rideId = b.rideId ∨
    (a.dispatchHandoffId ≠ none ∧ b.dispatchHandoffId ≠ none ∧ a.assignmentId ≠ none ∧
      a.assignmentId = b.assignmentId) ∨
    (a.rideRequestId ≠ none ∧ a.rideRequestId = b.rideRequestId)
deriving Decidable

theorem clashes_symm {a b : ActiveRide} (clash : clashes a b) : clashes b a := by
  rcases clash with same | ⟨first, second, assigned, same⟩ | ⟨requested, same⟩
  · exact .inl same.symm
  · exact .inr (.inl ⟨second, first, same ▸ assigned, same.symm⟩)
  · exact .inr (.inr ⟨same ▸ requested, same.symm⟩)

instance : Row ActiveRide Uuid where
  key := ActiveRide.rideId
  clash := clashes
  clash_symm := clashes_symm

instance : Row RideEvent Uuid :=
  .keyedUnique RideEvent.eventId fun event => (event.rideId, event.sequence)

instance : Row EvidenceRecord Uuid := .keyed EvidenceRecord.evidenceId

instance : Row CommandRecord (Uuid × Uuid) := .keyed fun row => (row.actorId, row.commandId)

instance : Row PickupVerification Uuid := .keyed PickupVerification.verificationId

end Ayo.ActiveRides.Models

/-! The transition graph of the active ride, and one transition along it. -/

namespace Ayo.ActiveRides.Engine

open Kernel.UnitOfWork Core.Values Models
open Rides.Sources (ActiveRideState)

variable {σ : Type}

def allowedTransitions : ActiveRideState → List ActiveRideState
  | .driverAssigned =>
    [.driverEnRoute, .driverCancelled, .riderCancelled, .supportInterrupted, .systemInterrupted]
  | .requestAccepted => [.searching]
  | .searching => [.offering, .noDriverAvailable, .cancellationPending]
  | .offering => [.searching, .assigned, .noDriverAvailable, .cancellationPending]
  | .assigned => [.driverEnRoute, .reassigning, .cancellationPending, .operationalRecovery]
  | .driverEnRoute =>
    [.driverArrived, .reassigning, .cancellationPending, .driverCancelled, .riderCancelled,
     .supportInterrupted, .systemInterrupted, .operationalRecovery]
  | .pickupVerificationPending =>
    [.pickupVerified, .noShowReview, .reassigning, .cancellationPending, .operationalRecovery]
  | .pickupVerified => [.inProgress, .cancellationPending]
  | .inProgress => [.inProgress, .destinationApproaching, .completionPending, .operationalRecovery]
  | .destinationApproaching => [.completionPending, .operationalRecovery]
  | .completionPending => [.completed, .operationalRecovery]
  | .reassigning => [.searching, .assigned, .noDriverAvailable]
  | .cancellationPending => [.cancelled, .operationalReview]
  | .noShowReview => [.pickupVerificationPending, .cancelled, .operationalReview]
  | .operationalRecovery =>
    [.reassigning, .cancelled, .operationalReview, .driverEnRoute, .inProgress]
  | .driverArrived =>
    [.pickupVerificationPending, .pickupConfirmed, .noShowReview, .reassigning,
     .cancellationPending, .driverCancelled, .riderCancelled, .supportInterrupted,
     .systemInterrupted, .operationalRecovery]
  | .pickupConfirmed =>
    [.rideInProgress, .driverCancelled, .riderCancelled, .supportInterrupted, .systemInterrupted]
  | .rideInProgress =>
    [.destinationArrived, .driverCancelled, .riderCancelled, .supportInterrupted,
     .systemInterrupted]
  | .destinationArrived => [.completed, .supportInterrupted, .systemInterrupted]
  | .completed | .cancelled | .noDriverAvailable | .operationalReview | .driverCancelled
  | .riderCancelled | .supportInterrupted | .systemInterrupted => []

def moved (ride : ActiveRide) (target : ActiveRideState) (now : Instant) : ActiveRide :=
  { ride with
    state := target, updatedAt := now, version := ride.version + 1,
    counted := Nat.le_add_left 1 ride.version, lastSequence := ride.lastSequence + 1 }

def transition (ride : ActiveRide) (target : ActiveRideState) (now : Instant) :
    Transaction σ Failure ActiveRide := do
  require (target ∈ allowedTransitions ride.state)
    (.conflict ("unsupported_transition:" ++ stateValue ride.state ++ ":" ++ stateValue target))
  pure (moved ride target now)

theorem transition_bind_ok {α : Type} {ride : ActiveRide} {target : ActiveRideState}
    {now : Instant} {f : ActiveRide → Transaction σ Failure α} {s t : σ} {a : α} :
    (transition ride target now >>= f) s = .ok (a, t) ↔
      target ∈ allowedTransitions ride.state ∧ f (moved ride target now) s = .ok (a, t) := by
  simp only [transition, bind_assoc, pure_bind, require_bind_ok]

end Ayo.ActiveRides.Engine
