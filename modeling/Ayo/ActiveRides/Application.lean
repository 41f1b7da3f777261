/- digest: The commands of active rides and the routes that pass them on. -/

import Ayo.ActiveRides.Repository
import Ayo.Core.Authorization
import Ayo.Kernel.Run

namespace Ayo.ActiveRides.Application

open Kernel.UnitOfWork Core.Values Core.Authorization Models Repository
open Rides.Sources (ActiveRideState)

/-- What the application is built with; `pinDigest` is keyed with the pickup secret. -/
structure RideConfig where
  hash : Payload → Digest
  pinDigest : Uuid → Uuid → String → Digest
  policyVersion : RideCode

/-- What one call draws at random and reads from the clock. -/
structure Draws where
  now : Instant
  (rideId eventId evidenceId verificationId : Uuid)
  pickupCode : Fin 10000

def pickupText (code : Fin 10000) : String :=
  let digits := toString code.1
  String.ofList (List.replicate (4 - digits.length) '0') ++ digits

structure CommandEnvelope where
  commandId : Uuid
  expectedVersion : Nat
  versioned : 1 ≤ expectedVersion
  reasonCode : Option RideCode := none

structure EvidenceCommand extends CommandEnvelope where
  evidenceType : RideCode
  evidenceReferences : List String := []

structure PickupVerifyCommand extends CommandEnvelope where
  code : String

structure RequestPickupVerificationCommand extends CommandEnvelope where
  passengerMode : String := "authenticated"

def optionalText : Option RideCode → Json
  | some code => .text code.1
  | none => .null

def CommandEnvelope.payload (command : CommandEnvelope) : Payload :=
  [("command_id", .uuid command.commandId), ("expected_version", .number command.expectedVersion),
   ("reason_code", optionalText command.reasonCode)]

def EvidenceCommand.payload (command : EvidenceCommand) : Payload :=
  command.toCommandEnvelope.payload ++
    [("evidence_type", .text command.evidenceType.1), ("evidence_references",
       .list (command.evidenceReferences.map fun reference => [("", .text reference)]))]

variable (subject : AuthorizationSubject)

def role : ActorRole :=
  match subject.identityType with
  | .rider => .rider
  | .driver => .driver
  | _ => .support

def Permitted (ride : ActiveRide) (driverOnly : Bool) : Prop :=
  match driverOnly with
  | true => subject.identityType = .driver ∧ ride.driverId = some subject.identityId
  | false =>
    subject.identityId = ride.riderId ∨ some subject.identityId = ride.driverId ∨
      subject.identityType ∈ [IdentityType.staff, .administrator, .service]

instance (subject : AuthorizationSubject) (ride : ActiveRide) (driverOnly : Bool) :
    Decidable (Permitted subject ride driverOnly) :=
  match driverOnly with
  | true => inferInstanceAs (Decidable (_ ∧ _))
  | false => inferInstanceAs (Decidable (_ ∨ _))

def accessDenied : Failure := .conflict "access_denied"

def owned (rideId : Uuid) (driverOnly : Bool) : RideTransaction ActiveRide := do
  let found ← getRide rideId
  let ride ← demand found rideNotFound
  require (Permitted subject ride driverOnly) accessDenied
  pure ride

variable (config : RideConfig) (subject : AuthorizationSubject) (rideId : Uuid)

section

variable (draws : Draws)

/-- A command of a type to a target, whose `model_dump` is the payload. -/
def command (envelope : CommandEnvelope) (dump : Payload) (commandType : String)
    (target : ActiveRideState) (driverOnly : Bool) : RideTransaction (ActiveRide × Bool) := do
  let _ ← owned subject rideId driverOnly
  commandTransition config.hash
    { rideId, actorId := subject.identityId, commandId := envelope.commandId, commandType,
      requestPayload := dump, expectedVersion := envelope.expectedVersion, target,
      now := draws.now, eventId := draws.eventId }

def issueVerification (request : RequestPickupVerificationCommand) :
    RideTransaction (Uuid × String) := do
  let ride ← owned subject rideId false
  require (subject.identityId = ride.riderId ∧ ride.assignmentId.isSome = true) accessDenied
  let (changed, _) ← commandTransition config.hash
    { rideId, actorId := subject.identityId, commandId := request.commandId,
      commandType := "pickup_verification_requested",
      requestPayload :=
        [("challenge", .text "pin"), ("passenger_mode", .text request.passengerMode)],
      expectedVersion := request.expectedVersion, target := .pickupVerificationPending,
      now := draws.now, eventId := draws.eventId }
  let assignmentId ← demand changed.assignmentId accessDenied
  let code := pickupText draws.pickupCode
  let verificationId ← issuePin config.pinDigest rideId assignmentId code draws.now
    draws.verificationId
  pure (verificationId, code)

def pickupVerificationFailure : RideCode := ⟨"pickup_verification_failure", by decide⟩

def pickupPinMismatch : RideCode := ⟨"pickup_pin_mismatch", by decide⟩

def verifyPickup (request : PickupVerifyCommand) : RideTransaction (Option ActiveRide) := do
  let _ ← owned subject rideId true
  let valid ← verifyPin config.pinDigest rideId request.code draws.now
  if valid = true then do
    let (changed, _) ← commandTransition config.hash
      { rideId, actorId := subject.identityId, commandId := request.commandId,
        commandType := "pickup_verified",
        requestPayload := [("verification", .text "server_confirmed")],
        expectedVersion := request.expectedVersion, target := .pickupVerified,
        now := draws.now, eventId := draws.eventId }
    pure (some changed)
  else do
    addEvidence
      { evidenceId := draws.evidenceId, rideId, evidenceType := pickupVerificationFailure,
        submittedByRole := .driver, observedAt := draws.now, reasonCode := pickupPinMismatch }
    pure none

def insufficientEvidence : RideCode := ⟨"insufficient_evidence", by decide⟩

variable (request : EvidenceCommand)

def evidenceRecord : EvidenceRecord where
  evidenceId := draws.evidenceId
  rideId
  evidenceType := request.evidenceType
  submittedByRole := role subject
  observedAt := draws.now
  reasonCode := request.reasonCode.getD insufficientEvidence
  evidenceReferences := request.evidenceReferences

def evidence : RideTransaction Unit := do
  let _ ← owned subject rideId false
  addEvidence (evidenceRecord subject rideId draws request)

def evidenceTransition (commandType : String) (target : ActiveRideState) (driverOnly : Bool) :
    RideTransaction (ActiveRide × Bool) := do
  let _ ← owned subject rideId driverOnly
  addEvidence (evidenceRecord subject rideId draws request)
  commandTransition config.hash
    { rideId, actorId := subject.identityId, commandId := request.commandId, commandType,
      requestPayload := request.payload, expectedVersion := request.expectedVersion, target,
      now := draws.now, eventId := draws.eventId }

end

end Ayo.ActiveRides.Application

/-! The post-assignment lifecycle of the active ride: its commands, their targets and who may give
them. -/

namespace Ayo.ActiveRides.Lifecycle

open Kernel.UnitOfWork Core.Values Core.Authorization
open Application (Draws RideConfig accessDenied)
open Models Repository
open Rides.Sources (ActiveRideState)

inductive LifecycleCommandType where
  | driverEnRoute
  | driverArrived
  | pickupConfirmed
  | rideStarted
  | destinationArrived
  | rideCompleted
  | driverCancelled
  | riderCancelled
  | supportInterrupted
  | systemInterrupted

def LifecycleCommandType.value : LifecycleCommandType → String
  | .driverEnRoute => "driver_en_route"
  | .driverArrived => "driver_arrived"
  | .pickupConfirmed => "pickup_confirmed"
  | .rideStarted => "ride_started"
  | .destinationArrived => "destination_arrived"
  | .rideCompleted => "ride_completed"
  | .driverCancelled => "driver_cancelled"
  | .riderCancelled => "rider_cancelled"
  | .supportInterrupted => "support_interrupted"
  | .systemInterrupted => "system_interrupted"

def targetByCommand : LifecycleCommandType → ActiveRideState
  | .driverEnRoute => .driverEnRoute
  | .driverArrived => .driverArrived
  | .pickupConfirmed => .pickupConfirmed
  | .rideStarted => .rideInProgress
  | .destinationArrived => .destinationArrived
  | .rideCompleted => .completed
  | .driverCancelled => .driverCancelled
  | .riderCancelled => .riderCancelled
  | .supportInterrupted => .supportInterrupted
  | .systemInterrupted => .systemInterrupted

def commandAuthority : LifecycleCommandType → List IdentityType
  | .driverEnRoute | .driverArrived | .rideStarted | .destinationArrived | .rideCompleted
  | .driverCancelled => [.driver]
  | .riderCancelled => [.rider]
  | .pickupConfirmed | .systemInterrupted => [.service]
  | .supportInterrupted => [.staff, .administrator]

structure LifecycleCommand where
  commandId : Uuid
  expectedVersion : Nat
  versioned : 1 ≤ expectedVersion
  commandType : LifecycleCommandType
  reasonCode : RideCode
  evidenceReferences : List String := []

def OwnsOrOperates (subject : AuthorizationSubject) (ride : ActiveRide) : Prop :=
  (subject.identityType = .rider ∧ subject.identityId = ride.riderId) ∨
    (subject.identityType = .driver ∧ some subject.identityId = ride.driverId) ∨
    subject.identityType ∈ [IdentityType.service, .staff, .administrator]
deriving Decidable

def lifecyclePayload (command : LifecycleCommand) (policyVersion : RideCode) : Payload :=
  let target := targetByCommand command.commandType
  [("state_to", .text (stateValue target)), ("reason_code", .text command.reasonCode.1),
   ("evidence_references",
     .list (command.evidenceReferences.map fun reference => [("", .text reference)])),
   ("policy_version", .text policyVersion.1),
   ("translation_key", .text ("active_ride." ++ stateValue target))]

variable (config : RideConfig) (draws : Draws)

def startFromAssignment (assignments : Uuid → Option AssignmentSource) (assignmentId : Uuid) :
    RideTransaction ActiveRide :=
  createFromImmediateAssignment assignments assignmentId config.policyVersion draws.now
    draws.rideId draws.eventId

def lifecycleCommand (subject : AuthorizationSubject) (rideId : Uuid)
    (command : LifecycleCommand) : RideTransaction (ActiveRide × Bool) := do
  require (subject.identityType ∈ commandAuthority command.commandType) accessDenied
  let found ← getRide rideId
  let ride ← demand found rideNotFound
  require (OwnsOrOperates subject ride) rideNotFound
  commandTransition config.hash
    { rideId, actorId := subject.identityId, commandId := command.commandId,
      commandType := "active_ride." ++ command.commandType.value,
      requestPayload := lifecyclePayload command ride.lifecyclePolicyVersion,
      expectedVersion := command.expectedVersion,
      target := targetByCommand command.commandType, now := draws.now,
      eventId := draws.eventId }

end Ayo.ActiveRides.Lifecycle

/-! The commands on active rides as calls of parties, the routes that pass them on, and one step of
the store. -/

namespace Ayo.ActiveRides.System

open Kernel.UnitOfWork Core.Values Core.Authorization Application Lifecycle Models Repository
open Rides.Sources (ActiveRideState)

inductive RideCommand where
  | command (envelope : CommandEnvelope) (dump : Payload) (commandType : String)
      (target : ActiveRideState) (driverOnly : Bool)
  | evidenceTransition (request : EvidenceCommand) (commandType : String)
      (target : ActiveRideState) (driverOnly : Bool)
  | issueVerification (request : RequestPickupVerificationCommand)
  | verifyPickup (request : PickupVerifyCommand)
  | lifecycle (request : LifecycleCommand)

def RideCommand.target : RideCommand → ActiveRideState
  | .command _ _ _ target _ => target
  | .evidenceTransition _ _ target _ => target
  | .issueVerification _ => .pickupVerificationPending
  | .verifyPickup _ => .pickupVerified
  | .lifecycle request => targetByCommand request.commandType

structure RideCall where
  subject : AuthorizationSubject
  rideId : Uuid
  command : RideCommand
  draws : Draws

inductive RideOutcome where
  | changed (ride : ActiveRide) (created : Bool)
  | issued (verificationId : Uuid) (code : String)
  | verified (ride : ActiveRide)
  | verificationFailed
deriving DecidableEq

def perform (config : RideConfig) (call : RideCall) : RideTransaction RideOutcome :=
  match call.command with
  | .command envelope dump commandType target driverOnly => do
    let (ride, created) ← command config call.subject call.rideId call.draws envelope dump
      commandType target driverOnly
    pure (.changed ride created)
  | .evidenceTransition request commandType target driverOnly => do
    let (ride, created) ← evidenceTransition config call.subject call.rideId call.draws request
      commandType target driverOnly
    pure (.changed ride created)
  | .issueVerification request => do
    let (verificationId, code) ← issueVerification config call.subject call.rideId call.draws
      request
    pure (.issued verificationId code)
  | .verifyPickup request => do
    let verified ← verifyPickup config call.subject call.rideId call.draws request
    pure (verified.elim .verificationFailed .verified)
  | .lifecycle request => do
    let (ride, created) ← lifecycleCommand config call.draws call.subject call.rideId request
    pure (.changed ride created)

/-- One unit of work on the active ride store. -/
inductive RideAction where
  | call (call : RideCall)
  | evidence (subject : AuthorizationSubject) (rideId : Uuid) (draws : Draws)
      (request : EvidenceCommand)
  | startFromAssignment (assignments : Uuid → Option AssignmentSource) (assignmentId : Uuid)
      (draws : Draws)
  | createFromAssignment (eventId : Uuid) (ride : ActiveRide)
  | reassign (rideId driverId assignmentId : Uuid) (now : Instant) (eventId : Uuid)

def rideStep (config : RideConfig) (store : ActiveRideStore) : RideAction → ActiveRideStore
  | .call call => commit (perform config call) store
  | .evidence subject rideId draws request =>
    commit (evidence subject rideId draws request) store
  | .startFromAssignment assignments assignmentId draws =>
    commit (startFromAssignment config draws assignments assignmentId) store
  | .createFromAssignment eventId ride => commit (createFromAssignment eventId ride) store
  | .reassign rideId driverId assignmentId now eventId =>
    commit (reassign rideId driverId assignmentId now eventId) store

def commandRoutes : List (String × ActiveRideState × Bool) :=
  [("driver_en_route", .driverEnRoute, true), ("driver_arrived", .driverArrived, true),
   ("trip_started", .inProgress, true),
   ("trip_progress_updated", .inProgress, true),
   ("destination_approaching", .destinationApproaching, true),
   ("completion_requested", .completionPending, true),
   ("trip_completed", .completed, true)]

def evidenceRoutes : List (String × ActiveRideState × Bool) :=
  [("rider_cancellation_requested", .cancellationPending, false),
   ("driver_cancellation_requested", .reassigning, true),
   ("no_show_review_started", .noShowReview, true),
   ("recovery_requested", .operationalRecovery, false)]

def RideCommand.Routed : RideCommand → Prop
  | .command _ _ commandType target driverOnly => (commandType, target, driverOnly) ∈ commandRoutes
  | .evidenceTransition _ commandType target driverOnly =>
    (commandType, target, driverOnly) ∈ evidenceRoutes
  | _ => True

def RideAction.Routed : RideAction → Prop
  | .call taken => taken.command.Routed
  | _ => True

instance (command : RideCommand) : Decidable command.Routed :=
  match command with
  | .command _ _ _ _ _ | .evidenceTransition _ _ _ _ => inferInstanceAs (Decidable (_ ∈ _))
  | .issueVerification _ | .verifyPickup _ | .lifecycle _ => .isTrue trivial

instance (action : RideAction) : Decidable action.Routed :=
  match action with
  | .call call => inferInstanceAs (Decidable call.command.Routed)
  | .evidence _ _ _ _ | .startFromAssignment _ _ _ | .createFromAssignment _ _
  | .reassign _ _ _ _ _ => .isTrue trivial

end Ayo.ActiveRides.System
