/- digest: Courier dispatch requests, offers and assignments with their state graph. -/

import Mathlib.Data.List.Sort
import Ayo.Core.Values
import Ayo.Kernel.KeyedTable

namespace Ayo.CourierDispatch.Models

open Kernel.UnitOfWork Kernel.KeyedTable Kernel.Columns Core.Values

inductive CourierDispatchState where
  | waiting
  | offered
  | assigned
  | cancelled
  | unfulfilled
deriving DecidableEq

def CourierDispatchState.value : CourierDispatchState → String
  | .waiting => "waiting_for_courier"
  | .offered => "courier_offered"
  | .assigned => "courier_assigned"
  | .cancelled => "dispatch_cancelled"
  | .unfulfilled => "dispatch_unfulfilled"

inductive CourierDispatchAction where
  | offer
  | accept
  | decline
  | expire
  | revoke
  | release
  | cancel
  | concludeUnfulfilled
deriving DecidableEq

def CourierDispatchAction.value : CourierDispatchAction → String
  | .offer => "offer"
  | .accept => "accept"
  | .decline => "decline"
  | .expire => "expire"
  | .revoke => "revoke"
  | .release => "release_assignment"
  | .cancel => "cancel"
  | .concludeUnfulfilled => "conclude_unfulfilled"

inductive CourierOfferState where
  | active
  | accepted
  | declined
  | expired
  | revoked
deriving DecidableEq

def CourierOfferState.value : CourierOfferState → String
  | .active => "active"
  | .accepted => "accepted"
  | .declined => "declined"
  | .expired => "expired"
  | .revoked => "revoked"

inductive CourierAssignmentState where
  | assigned
  | released
  | cancelled
deriving DecidableEq

inductive EligibilityEvidenceType where
  | participation
  | operatingAuthority
  | availability
  | locationFreshness
  | serviceProduct
  | safetyFatigue
  | vehicleCapacity
deriving DecidableEq

def EligibilityEvidenceType.rank : EligibilityEvidenceType → Nat
  | .operatingAuthority => 0
  | .participation => 1
  | .availability => 2
  | .safetyFatigue => 3
  | .locationFreshness => 4
  | .serviceProduct => 5
  | .vehicleCapacity => 6

def EligibilityEvidenceType.all : List EligibilityEvidenceType :=
  [.participation, .operatingAuthority, .availability, .locationFreshness, .serviceProduct,
   .safetyFatigue, .vehicleCapacity]

structure CourierEligibilityEvidence where
  evidenceType : EligibilityEvidenceType
  sourceReference : Uuid
  sourceVersion : Nat
  eligible : Bool
  (observedAt validUntil : Instant)
deriving DecidableEq

/-- A row of `courier_dispatch_offers`. -/
structure CourierOffer where
  (offerId dispatchId : Uuid)
  attemptNumber : Nat
  courierIdentityId : Uuid
  state : CourierOfferState
  (offeredAt expiresAt : Instant)
  resolvedAt : Option Instant
  resolutionActorIdentityId : Option Uuid
  resolutionReason : Option String
  version : Nat

/-- The rule of `uq_courier_dispatch_offer_attempt`. -/
instance : Row CourierOffer Uuid :=
  .keyedUnique CourierOffer.offerId fun offer => (offer.dispatchId, offer.attemptNumber)

/-- A row of `courier_dispatch_assignments`. -/
structure CourierAssignment where
  (assignmentId dispatchId offerId : Uuid)
  attemptNumber : Nat
  courierIdentityId : Uuid
  state : CourierAssignmentState
  assignedAt : Instant
  closedAt : Option Instant
  closeReason : Option String
  version : Nat

instance : Row CourierAssignment Uuid :=
  .keyedUnique CourierAssignment.assignmentId CourierAssignment.offerId

/-- A row of `commerce_courier_dispatch_requests`. -/
structure CourierDispatchRequest where
  (dispatchId orderId merchantId readinessMessageId : Uuid)
  state : CourierDispatchState
  version : Nat
  policyCode : String
  (policyVersion attemptNumber : Nat)
  (activeOfferId activeAssignmentId offeredCourierIdentityId : Option Uuid)
  assignedCourierIdentityId : Option Uuid
  createdAt : Instant
  (offeredAt assignedAt : Option Instant)
  updatedAt : Instant

instance : Row CourierDispatchRequest Uuid :=
  uniqueColumns CourierDispatchRequest.dispatchId
    [fun row => some row.orderId, fun row => some row.readinessMessageId]

inductive DispatchEventType where
  | created
  | requested
  /-- The name of an earlier release, which nothing writes any more. -/
  | courierAssigned
  | offerCreated
  | offerAccepted
  | offerDeclined
  | offerExpired
  | offerRevoked
  | assignmentReleased
  | cancelled
  | unfulfilled
deriving DecidableEq

structure CourierDispatchEvent where
  (eventId dispatchId orderId : Uuid)
  eventType : DispatchEventType
  fromState : Option CourierDispatchState
  toState : CourierDispatchState
  actorIdentityId : Option Uuid
  version : Nat
  occurredAt : Instant
  (correlationId causationId : Uuid)

structure DispatchEvidence where
  (evidenceId dispatchId : Uuid)
  dispatchVersion : Nat
  eventType : DispatchEventType
  actorIdentityId : Option Uuid
  sourceEvidence : List CourierEligibilityEvidence
  policyCode : String
  policyVersion : Nat
  decisionOutcome : CourierDispatchState
  (correlationId causationId : Uuid)
  occurredAt : Instant

structure DispatchReservation where
  (actorIdentityId dispatchId : Uuid)
  operation : CourierDispatchAction
  idempotencyKey : String
  requestHash : Digest
  responseVersion : Option Nat
  createdAt : Instant

/-- The rule of `uq_courier_dispatch_actor_action_idempotency`. -/
instance : Row DispatchReservation (Uuid × CourierDispatchAction × String) :=
  .keyed fun row => (row.actorIdentityId, row.operation, row.idempotencyKey)

structure MerchantCourierDispatchView where
  dispatch : CourierDispatchRequest
  events : List CourierDispatchEvent
  offers : List CourierOffer
  assignments : List CourierAssignment

def targetState : CourierDispatchState → CourierDispatchAction → Option CourierDispatchState
  | .waiting, .offer => some .offered
  | .offered, .accept => some .assigned
  | .offered, .decline => some .waiting
  | .offered, .expire => some .waiting
  | .offered, .revoke => some .waiting
  | .assigned, .release => some .waiting
  | .waiting, .cancel => some .cancelled
  | .offered, .cancel => some .cancelled
  | .assigned, .cancel => some .cancelled
  | .waiting, .concludeUnfulfilled => some .unfulfilled
  | _, _ => none

structure DispatchPolicy where
  code : String := "AYO_COURIER_DISPATCH_POLICY_V1"
  version : Nat := 1
  offerWindowSeconds : Int := 120

variable {σ : Type}

def DispatchPolicy.evaluate (evidence : List CourierEligibilityEvidence) (time : Instant) :
    Transaction σ Failure (List CourierEligibilityEvidence) := do
  require ((∀ type ∈ EligibilityEvidenceType.all, ∃ item ∈ evidence, item.evidenceType = type) ∧
      evidence.length = EligibilityEvidenceType.all.length)
    (.conflict "courier_eligibility_evidence_incomplete")
  require (∀ item ∈ evidence,
      item.eligible = true ∧ item.observedAt ≤ time ∧ time < item.validUntil)
    (.conflict "courier_ineligible")
  pure (evidence.insertionSort fun a b => a.evidenceType.rank ≤ b.evidenceType.rank)

def DispatchPolicy.expiresAt (policy : DispatchPolicy) (time : Instant) : Instant :=
  time + policy.offerWindowSeconds * 1000000

structure RequestChange where
  target : CourierDispatchState
  (offeredCourierIdentityId assignedCourierIdentityId activeOfferId : Option Uuid)
  activeAssignmentId : Option Uuid
  attemptNumber : Nat
  time : Instant

/-- The request after an action that was decided on one reading of it. -/
def CourierDispatchRequest.changed (stored current : CourierDispatchRequest)
    (change : RequestChange) : CourierDispatchRequest :=
  { stored with
    state := change.target
    version := current.version + 1
    offeredCourierIdentityId := change.offeredCourierIdentityId
    assignedCourierIdentityId := change.assignedCourierIdentityId
    activeOfferId := change.activeOfferId
    activeAssignmentId := change.activeAssignmentId
    attemptNumber := change.attemptNumber
    offeredAt := if change.target = .offered then some change.time else current.offeredAt
    assignedAt := if change.target = .assigned then some change.time else none
    updatedAt := change.time }

def CourierOffer.resolved (state : CourierOfferState) (actorId : Uuid) (reason : String)
    (time : Instant) (offer : CourierOffer) : CourierOffer :=
  { offer with
    state
    resolvedAt := some time
    resolutionActorIdentityId := some actorId
    resolutionReason := some reason
    version := offer.version + 1 }

def CourierAssignment.closed (state : CourierAssignmentState) (reason : String) (time : Instant)
    (assignment : CourierAssignment) : CourierAssignment :=
  { assignment with
    state
    closedAt := some time
    closeReason := some reason
    version := assignment.version + 1 }

end Ayo.CourierDispatch.Models
