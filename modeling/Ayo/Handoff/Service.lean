/- digest: The handoff repository and the immediate handoff service. -/

import Ayo.Core.Authorization
import Ayo.Handoff.Models
import Ayo.Kernel.Run

namespace Ayo.Handoff.Repository

open Kernel.UnitOfWork Kernel.KeyedTable Kernel.Ordering Kernel.Updates Core.Values
open Core.Authorization (Reservation)
open Models

structure ReadySource where
  riderIdentityId : Uuid
  serviceType : String
  serviceZoneId : Option Uuid
  expiresAt : Instant

structure PricingRow extends PricingLineage where
  (riderIdentityId estimateRiderId acceptanceRiderId : Uuid)
  acceptedPolicyVersion : String
  acceptedAmountMinor : Int
  currency : String
  riderTotalMinor : Option Int
  breakdownCurrency : Option String
  (acceptedAt expiresAt : Instant)

structure EligibilityDecision where
  status : String
  expiresAt : Option Instant
  vehicleId : Option Uuid

structure DispatchSources where
  readySource : Uuid → Option ReadySource
  pricing : Uuid → Option PricingRow
  latestDecision : Uuid → Option EligibilityDecision
  vehicleApproval : Uuid → Option String
  authorizationExpiry : Uuid → Uuid → Option Instant
  rideDriverOnline : Uuid → Uuid → Uuid → Instant → Bool

structure HandoffConfig where
  hash : Payload → Digest
  policyVersion : String
  offerTimeoutSeconds : Int := 15
  maximumLocationAgeSeconds : Int := 45
  requireWorkerSession : Bool := false

structure HandoffStore where
  handoffs : Table DispatchHandoff := .empty
  offers : Table HandoffOffer := .empty
  assignments : Table HandoffAssignment := .empty
  events : Table HandoffEvent := .empty
  reservations : Table Reservation := .empty

abbrev HandoffTransaction (α : Type) := Transaction HandoffStore Failure α

section

variable (hash : Payload → Digest) (sources : DispatchSources)

def lineagePayload (rideRequestId : Uuid) (row : PricingRow) : Payload :=
  [("ride_request_id", .uuid rideRequestId), ("fare_estimate_id", .uuid row.fareEstimateId),
   ("estimate_acceptance_id", .uuid row.estimateAcceptanceId), ("policy_id", .uuid row.policyId),
   ("policy_version", .text row.policyVersion),
   ("accepted_amount_minor", .number row.acceptedAmountMinor), ("currency", .text row.currency)]

def acceptedPricingLineage (rideRequestId : Uuid) (time : Instant) (requireCurrent : Bool) :
    Option PricingRow :=
  (sources.pricing rideRequestId).filter fun row =>
    row.acceptedAt < row.expiresAt ∧ (requireCurrent = true → time < row.expiresAt) ∧
      row.riderIdentityId = row.estimateRiderId ∧ row.riderIdentityId = row.acceptanceRiderId ∧
      row.acceptedPolicyVersion = row.policyVersion ∧
      some row.acceptedAmountMinor = row.riderTotalMinor ∧
      some row.currency = row.breakdownCurrency ∧
      hash (lineagePayload rideRequestId row) = row.lineageHash

def PricingCurrent (handoff : DispatchHandoff) (time : Instant) : Prop :=
  ∃ row ∈ acceptedPricingLineage hash sources handoff.rideRequestId time true,
    some row.toPricingLineage = handoff.pricing
deriving Decidable

def EligibilityCurrent (driverId vehicleId : Uuid) (now : Instant) : Prop :=
  (∃ decision ∈ sources.latestDecision driverId, decision.status = "eligible" ∧
    (∃ expiresAt ∈ decision.expiresAt, now < expiresAt) ∧
    decision.vehicleId = some vehicleId) ∧
  sources.vehicleApproval vehicleId = some "approved" ∧
  ∃ expiresAt ∈ sources.authorizationExpiry driverId vehicleId, now < expiresAt
deriving Decidable

end

def updateHandoffs (condition : DispatchHandoff → Prop) [DecidablePred condition]
    (change : DispatchHandoff → DispatchHandoff) : HandoffTransaction Unit := do
  let store ← get
  let handoffs ← demand (store.handoffs.rewrite? (updateWhere condition change))
    (.integrity "immediate_dispatch_handoffs")
  put { store with handoffs }

def updateOffers (condition : HandoffOffer → Prop) [DecidablePred condition]
    (change : HandoffOffer → HandoffOffer) : HandoffTransaction Unit := do
  let store ← get
  let offers ← demand (store.offers.rewrite? (updateWhere condition change))
    (.integrity "immediate_dispatch_offers")
  put { store with offers }

def closeOffers (handoffId : Uuid) (state : HandoffOfferState) : HandoffTransaction Unit :=
  updateOffers (fun offer => offer.handoffId = handoffId ∧ offer.state = .created) fun offer =>
    { offer with state, version := offer.version + 1 }

variable (hash : Payload → Digest)

def reserveIdempotency (actorId : Uuid) (operation key : String) (payload : Payload)
    (responseReference : Uuid) (time : Instant) : HandoffTransaction Uuid :=
  recast (within HandoffStore.reservations (fun reservations store => { store with reservations })
      (Core.Authorization.reserveIdempotency hash actorId operation key payload responseReference
        (.utc time)))
    (.value "Idempotency key reused with different request")

variable (handoff : DispatchHandoff)

def event (eventType : String) (time : Instant) : HandoffTransaction Unit := do
  let store ← get
  let events ← demand (store.events.insert?
      { handoffId := handoff.handoffId, eventType, aggregateVersion := handoff.version,
        occurredAt := time })
    (.integrity "immediate_dispatch_events")
  put { store with events }

def getHandoff (handoffId : Uuid) : HandoffTransaction (Option DispatchHandoff) := do
  let store ← get
  pure (store.handoffs.find handoffId)

def createHandoff : HandoffTransaction DispatchHandoff := do
  let store ← get
  whenSome (store.handoffs.find handoff.handoffId) (fun existing => pure existing)
    (do
      let handoffs ← demand (store.handoffs.insert? handoff)
        (.integrity "immediate_dispatch_handoffs")
      put { store with handoffs }
      event handoff "dispatch.handoff_received" handoff.createdAt
      event handoff "dispatch.rider.searching" handoff.createdAt
      pure handoff)

def expiredHandoffs (store : HandoffStore) (time : Instant) (limit : Nat) (locked : List Uuid) :
    List DispatchHandoff :=
  (orderedBy DispatchHandoff.expiresAt (store.handoffs.rows.filter fun handoff =>
      handoff.state ∈ [HandoffState.searching, .offering] ∧ handoff.expiresAt ≤ time ∧
        handoff.handoffId ∉ locked)).take limit

def closeHandoffs (time : Instant) : List DispatchHandoff → HandoffTransaction Unit
  | [] => pure ()
  | handoff :: rest => do
    closeOffers handoff.handoffId .expired
    updateHandoffs (fun row => row.handoffId = handoff.handoffId ∧ row.version = handoff.version)
      fun row => row.moved .noDriver
    event handoff "dispatch.rider.no_driver_available" time
    closeHandoffs time rest

def closeExpiredHandoffs (time : Instant) (limit : Nat) (locked : List Uuid) :
    HandoffTransaction Nat := do
  let store ← get
  let rows := expiredHandoffs store time limit locked
  closeHandoffs time rows
  pure rows.length

def recordCandidates (time : Instant) : HandoffTransaction Unit :=
  event handoff "dispatch.candidate_set_created" time

def createOffer (offer : HandoffOffer) : HandoffTransaction HandoffOffer := do
  let store ← get
  let offers ← demand (store.offers.insert? offer) (.conflict "Active offer conflict")
  put { store with offers }
  let row ← demand ((store.handoffs.find handoff.handoffId).filter fun row =>
      row.version = handoff.version ∧ row.state = .searching)
    (.conflict "Handoff changed before offer")
  updateHandoffs (fun other => other.handoffId = handoff.handoffId) fun other =>
    other.moved .offering
  event (row.moved .offering) "dispatch.offer_created" offer.createdAt
  event (row.moved .offering) "dispatch.driver.new_offer" offer.createdAt
  event (row.moved .offering) "dispatch.rider.driver_found" offer.createdAt
  pure offer

def responsePayload (offerId : Uuid) (accept : Bool) (expectedVersion : Nat) : Payload :=
  [("offer_id", .uuid offerId), ("accept", .text (if accept = true then "True" else "False")),
   ("expected_version", .number expectedVersion)]

def offerUnavailable : Failure := .conflict "Offer unavailable"

structure OfferResponse where
  (offerId driverId : Uuid)
  accept : Bool
  expectedVersion : Nat
  idempotencyKey : String
  time : Instant
  assignmentId : Uuid

variable (response : OfferResponse)

def rejectOffer (handoff : DispatchHandoff) : HandoffTransaction (Option Uuid) := do
  updateHandoffs (fun row => row.handoffId = handoff.handoffId) fun row => row.moved .searching
  event handoff "dispatch.offer_rejected" response.time
  pure none

def assignOffer (handoff : DispatchHandoff) (vehicleId : Uuid) :
    HandoffTransaction (Option Uuid) := do
  let store ← get
  let assignments ← demand (store.assignments.insert?
      { assignmentId := response.assignmentId, handoffId := handoff.handoffId,
        offerId := response.offerId, driverId := response.driverId, vehicleId,
        assignedAt := response.time })
    (.conflict "Assignment conflict")
  put { store with assignments }
  let row ← demand ((store.handoffs.find handoff.handoffId).filter fun row => row.state = .offering)
    (.conflict "Assignment lost race")
  updateHandoffs (fun other => other.handoffId = handoff.handoffId) fun other =>
    { other.moved .assigned with assignedDriverId := some response.driverId }
  event (row.moved .assigned) "dispatch.assignment_created" response.time
  event (row.moved .assigned) "dispatch.driver.acceptance_confirmed" response.time
  event (row.moved .assigned) "dispatch.rider.driver_accepted" response.time
  pure (some response.assignmentId)

def respond : HandoffTransaction (Option Uuid) := do
  let canonical ← reserveIdempotency hash response.driverId "offer_response" response.idempotencyKey
    (responsePayload response.offerId response.accept response.expectedVersion) response.offerId
    response.time
  let store ← get
  let offer ← demand (store.offers.find canonical) offerUnavailable
  require (offer.driverId = response.driverId) offerUnavailable
  let handoff ← demand (store.handoffs.find offer.handoffId) offerUnavailable
  if offer.state = .accepted then do
    let assignment ← demand (store.assignments.rows.find? fun row => row.offerId = response.offerId)
      (.value "NoResultFound")
    pure (some assignment.assignmentId)
  else if offer.state = .rejected ∧ response.accept = false then pure none
  else do
    require (offer.state = .created ∧ offer.version = response.expectedVersion ∧
        response.time < offer.expiresAt)
      (.conflict "Offer no longer active")
    require (handoff.state = .offering) (.conflict "Handoff unavailable")
    updateOffers (fun other => other.offerId = response.offerId) fun other =>
      { other with
        state := if response.accept = true then .accepted else .rejected,
        version := response.expectedVersion + 1 }
    if response.accept = true then assignOffer response handoff offer.vehicleId
    else rejectOffer response handoff

def respondCanonical (sources : DispatchSources) (response : OfferResponse) :
    HandoffTransaction (Option Uuid) := do
  let store ← get
  let offer ← demand
    ((store.offers.find response.offerId).filter fun offer => offer.driverId = response.driverId)
    offerUnavailable
  let handoff ← demand (store.handoffs.find offer.handoffId) offerUnavailable
  require (response.accept = true → offer.state ≠ .accepted →
      sources.rideDriverOnline response.driverId offer.vehicleId handoff.serviceZoneId
        response.time = true)
    (.conflict "Ride Driver mode is not online")
  respond hash response

def cancelBeforeAssignment (rideRequestId : Uuid) (time : Instant) : HandoffTransaction Bool := do
  let store ← get
  whenSome (store.handoffs.rows.find? fun row => row.rideRequestId = rideRequestId)
    (fun handoff => do
      require (handoff.state ≠ .assigned) (.conflict "Post-assignment cancellation excluded")
      if handoff.state = .cancelled then pure true
      else do
        closeOffers handoff.handoffId .cancelled
        updateHandoffs (fun row => row.handoffId = handoff.handoffId) fun row =>
          row.moved .cancelled
        event handoff "dispatch.cancelled_before_assignment" time
        pure true)
    (pure false)

def offerEvent : HandoffOfferState → String
  | .expired => "dispatch.offer_expired"
  | _ => "dispatch.offer_superseded"

def resolveOpenOffer (offerId : Uuid) (outcome : HandoffOfferState) (time : Instant) :
    HandoffTransaction Unit := do
  require (outcome = .expired ∨ outcome = .superseded) (.value "Unsupported offer resolution")
  let store ← get
  let offer ← demand (store.offers.find offerId) offerUnavailable
  let handoff ← demand (store.handoffs.find offer.handoffId) (.value "NoResultFound")
  require (offer.state = .created) (.conflict "Offer no longer active")
  require (outcome = .expired → offer.expiresAt ≤ time) (.conflict "Offer has not expired")
  require (handoff.state = .offering) (.conflict "Handoff unavailable")
  updateOffers (fun other => other.offerId = offerId) fun other =>
    { other with state := outcome, version := offer.version + 1 }
  updateHandoffs (fun row => row.handoffId = handoff.handoffId) fun row => row.moved .searching
  event handoff (offerEvent outcome) time

def revokeDriverOffer (driverId : Uuid) (time : Instant) : HandoffTransaction Bool := do
  let store ← get
  whenSome (store.offers.rows.find? fun offer => offer.driverId = driverId ∧ offer.state = .created)
    (fun offer => do
      resolveOpenOffer offer.offerId .superseded time
      pure true)
    (pure false)

end Ayo.Handoff.Repository

/-! The immediate handoff service: receipt of a request, offers to drivers and their answers. -/

namespace Ayo.Handoff.Service

open Kernel.UnitOfWork Core.Values Models Repository

variable (config : HandoffConfig) (sources : DispatchSources)

structure ReceiveCommand where
  (rideRequestId serviceActorId : Uuid)
  idempotencyKey : String
  (correlationId causationId : Uuid)

def receivePayload (command : ReceiveCommand) (lineageHash : Digest) : Payload :=
  [("ride_request_id", .uuid command.rideRequestId),
   ("correlation_id", .uuid command.correlationId),
   ("causation_id", .uuid command.causationId), ("pricing_lineage_hash", .number lineageHash)]

def acceptedPricingRequired : Failure := .conflict "dispatch.accepted_pricing_required"

def receive (command : ReceiveCommand) (pricing : Option PricingRow) (time : Instant)
    (candidateId : Uuid) : HandoffTransaction DispatchHandoff := do
  require (16 ≤ command.idempotencyKey.length ∧ command.idempotencyKey.length ≤ 128)
    (.value "Idempotency key length is invalid")
  let pricing ← demand pricing acceptedPricingRequired
  let canonical ← reserveIdempotency config.hash command.serviceActorId "handoff"
    command.idempotencyKey (receivePayload command pricing.lineageHash) candidateId time
  let found ← getHandoff canonical
  whenSome found (fun existing => do
      require (existing.pricing.map PricingLineage.lineageHash = some pricing.lineageHash)
        acceptedPricingRequired
      pure existing)
    (do
      require (time < pricing.expiresAt) acceptedPricingRequired
      let source ← demand (sources.readySource command.rideRequestId)
        (.conflict "Ride request is not validated for dispatch")
      if lasting : time < source.expiresAt then do
        let serviceZoneId ← demand source.serviceZoneId (.conflict "Service zone unavailable")
        require (source.serviceType = "immediate_standard") (.field "service_type")
        createHandoff
          { handoffId := canonical, rideRequestId := command.rideRequestId,
            riderIdentityId := source.riderIdentityId, serviceZoneId,
            pricing := some pricing.toPricingLineage, counted := Nat.zero_lt_one, createdAt := time,
            expiresAt := source.expiresAt, lasting }
      else throw (.conflict "Ride request expired"))

def rankedDrivers (handoff : DispatchHandoff) (observations : List EligibleDriverInput)
    (time : Instant) : List EligibleDriverInput :=
  rankCandidates (observations.filter fun item =>
      EligibilityCurrent sources item.driverId item.vehicleId time ∧
        (config.requireWorkerSession = true →
          sources.rideDriverOnline item.driverId item.vehicleId handoff.serviceZoneId time = true))
    time config.maximumLocationAgeSeconds

def offerNext (handoffId : Uuid) (observations : List EligibleDriverInput) (time : Instant)
    (offerId : Uuid) : HandoffTransaction (Option HandoffOffer) := do
  let found ← getHandoff handoffId
  let handoff ← demand found (.conflict "Handoff unavailable")
  require (time < handoff.expiresAt ∧ PricingCurrent config.hash sources handoff time)
    (.conflict "Handoff unavailable")
  recordCandidates handoff time
  match rankedDrivers config sources handoff observations time with
  | [] => do
    event handoff "dispatch.assignment_failed" time
    pure none
  | selected :: _ =>
    if lasting : time < time + seconds config.offerTimeoutSeconds then do
      let offer ← createOffer handoff
        { offerId, handoffId, driverId := selected.driverId, vehicleId := selected.vehicleId,
          createdAt := time, expiresAt := time + seconds config.offerTimeoutSeconds, lasting,
          dispatchPolicyVersion := config.policyVersion,
          pickupCostSeconds := selected.pickupCostSeconds,
          routeEvidenceId := selected.routeEvidenceId,
          decisionReasonCodes := decisionReasonCodes selected }
      pure (some offer)
    else throw (.value "Offer expiry must follow creation")

def respond (response : OfferResponse) : HandoffTransaction (Option Uuid) :=
  if config.requireWorkerSession = true then respondCanonical config.hash sources response
  else Repository.respond config.hash response

def expireOffer (offerId : Uuid) (time : Instant) : HandoffTransaction Unit :=
  resolveOpenOffer offerId .expired time

def supersedeOffer (offerId : Uuid) (time : Instant) : HandoffTransaction Unit :=
  resolveOpenOffer offerId .superseded time

end Ayo.Handoff.Service

/-! The commands on handoffs as units of work on one store. -/

namespace Ayo.Handoff.System

open Kernel.UnitOfWork Core.Values Models Repository Service

/-- One unit of work on the handoff store, with the other tables as it reads them. -/
inductive HandoffAction where
  | receive (sources : DispatchSources) (command : ReceiveCommand) (pricing : Option PricingRow)
      (time : Instant) (candidateId : Uuid)
  | offerNext (sources : DispatchSources) (handoffId : Uuid)
      (observations : List EligibleDriverInput) (time : Instant) (offerId : Uuid)
  | respond (sources : DispatchSources) (response : OfferResponse)
  | expireOffer (offerId : Uuid) (time : Instant)
  | supersedeOffer (offerId : Uuid) (time : Instant)
  | revokeDriverOffer (driverId : Uuid) (time : Instant)
  | cancelBeforeAssignment (rideRequestId : Uuid) (time : Instant)
  | closeExpiredHandoffs (time : Instant) (limit : Nat) (locked : List Uuid)

def handoffStep (config : HandoffConfig) (store : HandoffStore) : HandoffAction → HandoffStore
  | .receive sources command pricing time candidateId =>
    commit (receive config sources command pricing time candidateId) store
  | .offerNext sources handoffId observations time offerId =>
    commit (offerNext config sources handoffId observations time offerId) store
  | .respond sources response => commit (respond config sources response) store
  | .expireOffer offerId time => commit (expireOffer offerId time) store
  | .supersedeOffer offerId time => commit (supersedeOffer offerId time) store
  | .revokeDriverOffer driverId time => commit (revokeDriverOffer driverId time) store
  | .cancelBeforeAssignment rideRequestId time =>
    commit (cancelBeforeAssignment rideRequestId time) store
  | .closeExpiredHandoffs time limit locked =>
    commit (closeExpiredHandoffs time limit locked) store

end Ayo.Handoff.System
