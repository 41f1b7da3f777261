/- digest: The active ride store and its writers. -/

import Ayo.ActiveRides.Engine
import Ayo.Kernel.Ordering

namespace Ayo.ActiveRides.Repository

open Kernel.UnitOfWork Kernel.KeyedTable Kernel.Ordering Core.Values Engine Models
open Rides.Sources (ActiveRideState)

structure ActiveRideStore where
  rides : Table ActiveRide := .empty
  events : Table RideEvent := .empty
  evidence : Table EvidenceRecord := .empty
  commands : Table CommandRecord := .empty
  verifications : Table PickupVerification := .empty

abbrev RideTransaction (α : Type) := Transaction ActiveRideStore Failure α

structure AssignmentSource where
  (driverId vehicleId : Uuid)
  releasedAt : Option Instant
  (handoffId rideRequestId riderIdentityId : Uuid)
  serviceType : String
  /-- The texts of two place identifiers. -/
  (pickupReference destinationReference : BoundedText 8 128)
  handoffState : String
  assignedDriverId : Option Uuid

variable (rideId : Uuid)

def getRide : RideTransaction (Option ActiveRide) := do
  let store ← get
  pure (store.rides.find rideId)

def insertRide (ride : ActiveRide) : RideTransaction Unit := do
  let store ← get
  let rides ← demand (store.rides.insert? ride) (.integrity "active_rides")
  put { store with rides }

def updateRide (ride : ActiveRide) : RideTransaction Unit := do
  let store ← get
  let rides ← demand (store.rides.replace? ride) (.integrity "active_rides")
  put { store with rides }

def appendEvent (eventId : Uuid) (ride : ActiveRide) (eventType : String) (payload : Payload) :
    RideTransaction Unit := do
  require (1 ≤ ride.lastSequence) (.field "sequence")
  let eventType ← demand (rideCode? eventType) (.field "event_type")
  let store ← get
  let events ← demand (store.events.insert?
      { eventId, rideId := ride.rideId, sequence := ride.lastSequence,
        aggregateVersion := ride.version, eventType, occurredAt := ride.updatedAt, payload })
    (.integrity "active_ride_events")
  put { store with events }

def addEvidence (evidence : EvidenceRecord) : RideTransaction Unit := do
  let store ← get
  let evidence ← demand (store.evidence.insert? evidence) (.integrity "active_ride_evidence")
  put { store with evidence }

def createFromAssignment (eventId : Uuid) (ride : ActiveRide) : RideTransaction ActiveRide := do
  require (ride.state = .assigned ∧ ride.driverId.isSome = true ∧ ride.assignmentId.isSome = true)
    (.conflict "assignment_required")
  insertRide ride
  appendEvent eventId ride "driver_assigned" [("driver_changed", .number 0)]
  pure ride

/-- The one row of a query, if it has one; more than one are an error. -/
def oneOrNone (rows : List ActiveRide) : RideTransaction (Option ActiveRide) :=
  match rows with
  | [] => pure none
  | [row] => pure (some row)
  | _ => throw (.integrity "active_rides")

def assignmentRequired : Failure := .conflict "authoritative_assignment_required"

def createFromImmediateAssignment (assignments : Uuid → Option AssignmentSource)
    (assignmentId : Uuid) (lifecyclePolicyVersion : RideCode) (now : Instant)
    (rideId eventId : Uuid) : RideTransaction ActiveRide := do
  let source ← demand (assignments assignmentId) assignmentRequired
  require (source.handoffState = "assigned" ∧ source.releasedAt = none ∧
      source.serviceType = "immediate_standard" ∧
      source.assignedDriverId = some source.driverId)
    assignmentRequired
  let store ← get
  let existing ← oneOrNone (store.rides.rows.filter fun ride =>
    ride.assignmentId = some assignmentId)
  whenSome existing (fun existing => pure existing)
    (do
      let serviceType ← demand (rideCode? source.serviceType) (.field "service_type")
      let ride : ActiveRide :=
        { rideId, riderId := source.riderIdentityId, driverId := some source.driverId,
          vehicleId := some source.vehicleId, assignmentId := some assignmentId,
          rideRequestId := some source.rideRequestId,
          dispatchHandoffId := some source.handoffId, lifecyclePolicyVersion,
          state := .driverAssigned, pickupPlaceId := source.pickupReference,
          destinationPlaceId := source.destinationReference, serviceType, updatedAt := now,
          version := 1, counted := Nat.zero_lt_one, lastSequence := 1 }
      insertRide ride
      appendEvent eventId ride "active_ride.driver_assigned"
        [("state_from", .null), ("state_to", .text (stateValue ride.state)),
         ("assignment_id", .uuid assignmentId),
         ("translation_key", .text "active_ride.driver_assigned")]
      pure ride)

/-- `{**fields, **others}`: the others override fields of the same name. -/
def merged (fields others : Payload) : Payload :=
  (fields.filter fun field => (others.lookup field.1).isNone) ++ others

theorem lookup_merged {fields others : Payload} {field : String} {value : Json}
    (told : others.lookup field = some value) :
    (merged fields others).lookup field = some value := by
  have overridden : (fields.filter fun field => (others.lookup field.1).isNone).lookup field =
      none := by
    refine List.lookup_eq_none_iff.2 fun kept mem => ?_
    have free := (List.mem_filter.1 mem).2
    by_cases named : field = kept.1
    · rw [← named, told] at free
      cases free
    · simpa using named
  rw [merged, List.lookup_append, overridden, Option.none_or, told]

/-- What a command asks `command_transition` for. -/
structure TransitionRequest where
  (rideId actorId commandId : Uuid)
  commandType : String
  requestPayload : Payload
  expectedVersion : Nat
  target : ActiveRideState
  now : Instant
  eventId : Uuid

def TransitionRequest.requestHash (hash : Payload → Digest) (request : TransitionRequest) : Digest :=
  hash (("ride_id", .uuid request.rideId) :: request.requestPayload)

def recordCommand (record : CommandRecord) : RideTransaction Unit := do
  let store ← get
  let commands ← demand (store.commands.insert? record)
    (.integrity "active_ride_idempotency_records")
  put { store with commands }

def rideNotFound : Failure := .conflict "ride_not_found"

def commandTransition (hash : Payload → Digest) (request : TransitionRequest) :
    RideTransaction (ActiveRide × Bool) := do
  let store ← get
  whenSome (store.commands.find (request.actorId, request.commandId)) (fun existing => do
      require (existing.requestHash = request.requestHash hash ∧
          existing.commandType = request.commandType)
        (.conflict "idempotency_conflict")
      let stored ← demand (store.rides.find request.rideId) rideNotFound
      pure (stored, false))
    (do
      let current ← demand (store.rides.find request.rideId) rideNotFound
      require (current.version = request.expectedVersion) (.conflict "stale_command")
      let changed ← transition current request.target request.now
      updateRide changed
      appendEvent request.eventId changed request.commandType (merged request.requestPayload
          [("state_from", .text (stateValue current.state)),
           ("state_to", .text (stateValue changed.state))])
      recordCommand
        { actorId := request.actorId, commandId := request.commandId, rideId := request.rideId,
          commandType := request.commandType, requestHash := request.requestHash hash,
          resultVersion := changed.version, createdAt := request.now,
          expiresAt := request.now + seconds (24 * 60 * 60) }
      pure (changed, true))

def PickupVerification.invalidate (now : Instant) (row : PickupVerification) : PickupVerification :=
  if row.rideId = rideId ∧ row.invalidatedAt = none then
    { row with invalidatedAt := some now }
  else row

theorem invalidate_verificationId (now : Instant) (row : PickupVerification) :
    (PickupVerification.invalidate rideId now row).verificationId = row.verificationId := by
  unfold PickupVerification.invalidate
  split
  · rfl
  · rfl

def invalidated (table : Table PickupVerification) (rideId : Uuid) (now : Instant) :
    Table PickupVerification where
  rows := table.rows.map (PickupVerification.invalidate rideId now)
  distinct := by
    apply List.pairwise_map.2
    refine table.distinct.imp fun apart same => apart ?_
    have kept : ∀ row, Row.key (PickupVerification.invalidate rideId now row) = Row.key row :=
      invalidate_verificationId rideId now
    exact (kept _).symm.trans (same.trans (kept _))

def invalidateVerifications (now : Instant) : RideTransaction Unit := do
  let store ← get
  put { store with verifications := invalidated store.verifications rideId now }

def reassignmentStateRequired : Failure := .conflict "reassignment_state_required"

def reassign (rideId driverId assignmentId : Uuid) (now : Instant) (eventId : Uuid) :
    RideTransaction ActiveRide := do
  let found ← getRide rideId
  let current ← demand found reassignmentStateRequired
  require (current.state = .reassigning) reassignmentStateRequired
  let changed ← transition current .assigned now
  let reassigned :=
    { changed with
      driverId := some driverId, assignmentId := some assignmentId, driverChanged := true }
  updateRide reassigned
  invalidateVerifications rideId now
  appendEvent eventId reassigned "driver_reassigned" [("driver_changed", .number 1)]
  pure reassigned

def replayedState (event : RideEvent) : RideTransaction ActiveRideState :=
  match event.payload.lookup "state_to" with
  | none | some .null => throw (.conflict "event_state_missing")
  | some (.text target) =>
    demand (stateNamed? target) (.value ("'" ++ target ++ "' is not a valid ActiveRideState"))
  | some _ => throw (.value "state_to is not a valid ActiveRideState")

def replayFrom (expectedSequence : Nat) (state : Option ActiveRideState) :
    List RideEvent → RideTransaction (Option ActiveRideState)
  | [] => pure state
  | event :: rest => do
    require (event.sequence = expectedSequence) (.conflict "event_stream_gap")
    let target ← replayedState event
    replayFrom (expectedSequence + 1) (some target) rest

def eventsOf (store : ActiveRideStore) (rideId : Uuid) : List RideEvent :=
  orderedBy RideEvent.sequence (store.events.rows.filter fun event => event.rideId = rideId)

def replayCanonicalState : RideTransaction ActiveRideState := do
  let store ← get
  require (eventsOf store rideId ≠ []) rideNotFound
  let state ← replayFrom 1 none (eventsOf store rideId)
  let stored ← demand (store.rides.find rideId) (.conflict "event_snapshot_mismatch")
  require (some stored.state = state) (.conflict "event_snapshot_mismatch")
  pure stored.state

variable (pinDigest : Uuid → Uuid → String → Digest)

def issuePin (rideId assignmentId : Uuid) (code : String) (now : Instant) (verificationId : Uuid) :
    RideTransaction Uuid := do
  let found ← getRide rideId
  let ride ← demand found (.conflict "verification_not_available")
  require (ride.assignmentId = some assignmentId ∧ ride.state = .pickupVerificationPending)
    (.conflict "verification_not_available")
  invalidateVerifications rideId now
  let store ← get
  let verifications ← demand (store.verifications.insert?
      { verificationId, rideId, assignmentId, secretDigest := pinDigest rideId assignmentId code,
        expiresAt := now + seconds 300, maximumAttempts := 5, createdAt := now })
    (.integrity "active_ride_pickup_verifications")
  put { store with verifications }
  pure verificationId

/-- The verification of a ride that is in use, the last one where there are more. -/
def currentVerification (store : ActiveRideStore) (rideId : Uuid) : Option PickupVerification :=
  (orderedBy PickupVerification.createdAt (store.verifications.rows.filter fun row =>
      row.rideId = rideId ∧ row.invalidatedAt = none)).getLast?

def updateVerification (row : PickupVerification) : RideTransaction Unit := do
  let store ← get
  let verifications ← demand (store.verifications.replace? row)
    (.integrity "active_ride_pickup_verifications")
  put { store with verifications }

/-- Whether the code is the one of the verification in use, which counts the code if it is not. -/
def verifyPin (rideId : Uuid) (code : String) (now : Instant) : RideTransaction Bool := do
  let store ← get
  let row ← demand (currentVerification store rideId) (.conflict "verification_not_available")
  require (row.verifiedAt = none) (.conflict "verification_not_available")
  require (now < row.expiresAt) (.conflict "verification_expired")
  require (∀ cooldownUntil ∈ row.cooldownUntil, cooldownUntil ≤ now)
    (.conflict "verification_cooldown")
  require (row.attemptCount < row.maximumAttempts) (.conflict "verification_locked")
  if pinDigest rideId row.assignmentId code = row.secretDigest then do
    updateVerification { row with verifiedAt := some now }
    pure true
  else do
    let attempts := row.attemptCount + 1
    updateVerification
      { row with
        attemptCount := attempts,
        cooldownUntil := if 3 ≤ attempts then some (now + seconds 30) else none }
    pure false

end Ayo.ActiveRides.Repository
