/- digest: Creation and cancellation of ride requests as units of work. -/

import Ayo.RideRequests.Engine

namespace Ayo.RideRequests.Application

open Kernel.UnitOfWork Core.Values
open Core.Authorization (AuthorizationSubject)
open Authentication.Models (AccountStatus)
open PersistenceKernel.Audit (AuditEvent)
open Rides.Sources (RideRequestState)
open Models Engine

def hasActive (store : RequestStore) (riderIdentityId excluding : Uuid) : Bool :=
  store.requests.rows.any fun row =>
    row.riderIdentityId = riderIdentityId ∧
      row.state ∈ [RideRequestState.requested, .validating, .readyForDispatch] ∧
      row.requestId ≠ excluding

def findZone (zones : List ServiceZone) (point : Coordinate) (time : Instant) :
    Option ServiceZone :=
  zones.find? fun zone => zoneContains zone point time

def reserveIdempotency (reservation : RequestReservation) : RequestTransaction Uuid := do
  let store ← get
  match store.reservations.find reservation.name with
  | some row =>
    require (row.requestHash = reservation.requestHash)
      (.value "Idempotency key reused with different request")
    pure row.responseReference
  | none =>
    let reservations ← demand (store.reservations.insert? reservation)
      (.integrity "ride_request_idempotency")
    put { store with reservations }
    pure reservation.responseReference

variable (request : RideRequest)

def appendEvent (eventType : String) (time : Instant) : RequestTransaction Unit := do
  let store ← get
  let events ← demand (store.events.insert?
      { requestId := request.requestId, requestVersion := request.version, eventType
        occurredAt := time })
    (.integrity "ride_request_events")
  put { store with events }

def insertRequest (pickup : PickupDefinition) (destination : DestinationDefinition) :
    RequestTransaction Unit := do
  let store ← get
  let pickups ← demand (store.pickups.insert? pickup) (.integrity "canonical_pickups")
  let destinations ← demand (store.destinations.insert? destination)
    (.integrity "canonical_destinations")
  let requests ← demand (store.requests.insert? request) (.integrity "canonical_ride_requests")
  put { store with pickups, destinations, requests }
  appendEvent request "ride_request.created" request.createdAt
  appendEvent request "pickup.recorded" request.createdAt

def save (expectedVersion : Int) (eventType : String) : RequestTransaction RideRequest := do
  let store ← get
  let row ← demand ((store.requests.find request.requestId).filter fun row =>
    (row.version : Int) = expectedVersion) (.conflict "Ride request changed concurrently")
  let saved := row.written request
  let requests ← demand (store.requests.replace? saved) (.integrity "canonical_ride_requests")
  put { store with requests }
  appendEvent saved eventType saved.updatedAt
  pure saved

def appendValidation (decision : ValidationDecision) : RequestTransaction Unit := do
  let store ← get
  let decisions ← demand (store.decisions.insert? decision)
    (.integrity "ride_request_validation_decisions")
  put { store with decisions }

def appendAudit (event : AuditEvent) : RequestTransaction Unit := do
  let _ ← within RequestStore.audits (fun audits store => { store with audits })
    (PersistenceKernel.Audit.append event)
  pure ()

structure CreateRideRequestCommand where
  clientRequestId : Uuid
  idempotencyKey : String
  pickup : PickupDefinition
  destination : DestinationDefinition
  serviceType : RideServiceType
  paymentIntent : PaymentIntentType
  consentPolicyVersion : Code

structure CreateCall where
  subject : AuthorizationSubject
  command : CreateRideRequestCommand
  time : DateTime
  (requestId decisionId auditId : Uuid)
  zones : List ServiceZone
  identity : Option AccountStatus

structure CancelCall where
  subject : AuthorizationSubject
  requestId : Uuid
  reasonCode : String
  expectedVersion : Int
  idempotencyKey : String
  time : DateTime
  auditId : Uuid

def rider (subject : AuthorizationSubject) : RequestTransaction Uuid := do
  require (subject.identityType = .rider) (.conflict "rider_authentication_required")
  pure subject.identityId

variable (config : RequestConfig)

theorem request_lasts {policy : ValidationPolicy} {time : Instant} :
    time < time + policy.requestTtlSeconds * 1000000 := by
  have range := policy.ttlRange.1
  exact Int.lt_add_of_pos_right time (by omega)

variable (call : CreateCall)

def newRequest (requestId : Uuid) : RideRequest where
  requestId
  clientRequestId := call.command.clientRequestId
  riderIdentityId := call.subject.identityId
  state := .requested
  serviceType := call.command.serviceType
  paymentIntent := call.command.paymentIntent
  pickupId := call.command.pickup.pickupId
  destinationId := call.command.destination.destinationId
  serviceZoneId := (findZone call.zones call.command.pickup.coordinate call.time.instant).map
    ServiceZone.zoneId
  consentPolicyVersion := call.command.consentPolicyVersion
  version := 1
  createdAt := call.time.instant
  updatedAt := call.time.instant
  expiresAt := call.time.instant + config.policy.requestTtlSeconds * 1000000
  cancellationReason := none
  expiry := request_lasts

def CreateCall.inputs (hasConflictingRequest : Bool) : ValidationInputs where
  pickup := call.command.pickup
  destination := call.command.destination
  serviceType := call.command.serviceType
  zone := findZone call.zones call.command.pickup.coordinate call.time.instant
  time := call.time.instant
  riderActive := decide (call.identity = some .active)
  hasConflictingRequest

def CreateCall.hash : String :=
  config.createHash call.command.clientRequestId call.command.pickup call.command.destination
    call.command.serviceType call.command.paymentIntent call.command.consentPolicyVersion

def CreateCall.reservation : RequestReservation where
  riderIdentityId := call.subject.identityId
  operation := .create
  idempotencyKey := call.command.idempotencyKey
  requestHash := call.hash config
  responseReference := call.requestId
  createdAt := call.time.instant

def CreateCall.audit (result : RideRequest) (reason : Option String) : AuditEvent where
  eventId := call.auditId
  occurredAt := call.time.instant
  actorType := .rider
  actorId := some (toString call.subject.identityId)
  action := "ride_request.validation.completed"
  resourceType := "canonical_ride_request"
  resourceId := some (toString result.requestId)
  outcome := .success
  reason
  correlationId := result.requestId
  causationId := none
  requestId := none
  sourceModule := "ride_request"
  safeMetadata := [("category", .text "ride_request"), ("operation", .text "validation"),
    ("policy_version", .text config.policy.version.1), ("state_to", .text result.state.value)]
  idempotencyKey := none

def outcomeOf : ValidationStatus → RideRequestState × String
  | .valid => (.readyForDispatch, "ride_request.ready_for_dispatch")
  | .invalid => (.validationFailed, "ride_request.validation_failed")

/-- `create`, with the store as it is committed when it asks for other active requests. -/
def create (seen : RequestStore) (call : CreateCall) : RequestTransaction RideRequest := do
  require (8 ≤ call.command.idempotencyKey.length ∧ call.command.idempotencyKey.length ≤ 128)
    (.field "idempotency_key")
  let riderId ← rider call.subject
  require (call.time.aware = true) (.value "Server timestamp must be timezone-aware")
  let canonical ← reserveIdempotency (call.reservation config)
  let store ← get
  whenSome (store.requests.find canonical) (fun existing => pure existing) do
    let request := newRequest config call canonical
    require (call.identity.isSome = true) (.integrity "canonical_ride_requests")
    insertRequest request call.command.pickup call.command.destination
    let validating ← transition request .validating call.time none
    let validating ← save validating 1 "ride_request.validated"
    let decision := validateRequest config (call.inputs (hasActive seen riderId canonical))
      validating.requestId call.decisionId
    appendValidation decision
    let moved ← transition validating (outcomeOf decision.status).1 call.time none
    let result ← save moved 2 (outcomeOf decision.status).2
    appendAudit (call.audit config result decision.reasonCodes.head?)
    pure result

variable (call : CancelCall)

def CancelCall.reservation : RequestReservation where
  riderIdentityId := call.subject.identityId
  operation := .cancel
  idempotencyKey := call.idempotencyKey
  requestHash := config.cancelHash
    (toString call.requestId ++ ":" ++ call.reasonCode ++ ":" ++ toString call.expectedVersion)
  responseReference := call.requestId
  createdAt := call.time.instant

def CancelCall.audit (request result : RideRequest) : AuditEvent where
  eventId := call.auditId
  occurredAt := call.time.instant
  actorType := .rider
  actorId := some (toString call.subject.identityId)
  action := "ride_request.cancelled"
  resourceType := "canonical_ride_request"
  resourceId := some (toString result.requestId)
  outcome := .success
  reason := some call.reasonCode
  correlationId := result.requestId
  causationId := none
  requestId := none
  sourceModule := "ride_request"
  safeMetadata := [("category", .text "ride_request"), ("operation", .text "cancel"),
    ("state_from", .text request.state.value), ("state_to", .text result.state.value)]
  idempotencyKey := none

def cancel : RequestTransaction RideRequest := do
  let riderId ← rider call.subject
  require (8 ≤ call.idempotencyKey.length ∧ call.idempotencyKey.length ≤ 128)
    (.value "Idempotency key length is invalid")
  let canonical ← reserveIdempotency (call.reservation config)
  let store ← get
  let request ← demand ((store.requests.find canonical).filter fun request =>
    request.riderIdentityId = riderId) (.conflict "resource_access_denied")
  if request.state = .cancelled then
    pure request
  else do
    require ((request.version : Int) = call.expectedVersion) (.value "stale_aggregate_version")
    let cancelled ← transition request .cancelled call.time (some call.reasonCode)
    let result ← save cancelled call.expectedVersion "ride_request.cancelled"
    appendAudit (call.audit request result)
    pure result

end Ayo.RideRequests.Application
