/- digest: The commands on reservations, each in a unit of work of its own. -/

import Ayo.Core.Authorization
import Ayo.Kernel.Run
import Ayo.Scheduled.Application

namespace Ayo.Scheduled.Integration

open Kernel.UnitOfWork Core.Values Core.Authorization
open Application (Draws ScheduledConfig)
open Models Repository

structure ScheduledSubject extends AuthorizationSubject where
  assuranceLevel : AssuranceLevel := .basic

/-- Whether a subject is the one of a verified contact reference. -/
abbrev PassengerResolver := ScheduledSubject → BoundedText 8 128 → Bool

/-- `^[a-z][a-z0-9_.-]{1,62}$`. -/
def isServiceType : String → Bool := isPattern Char.isLower isCodeChar 1 62

/-- `CreateScheduledReservationCommand`: a contact reference goes with every channel but the
identity itself. -/
structure CreateCommand where
  (pickupPlaceId destinationPlaceId : BoundedText 8 128)
  distinct : pickupPlaceId ≠ destinationPlaceId
  serviceType : String
  service : isServiceType serviceType = true
  quoteId : Uuid
  requestedPickupAt : Instant
  passengerChannel : PassengerChannel := .identity
  passengerContactReference : Option (BoundedText 16 128) := none
  referenced : passengerChannel = .identity ↔ passengerContactReference = none
  trustedContactReference : Option (BoundedText 16 128) := none
  futurePayerReference : Option (BoundedText 16 128) := none

/-- A contact reference of a command is one of a participant. -/
def contactReference (contact : BoundedText 16 128) : BoundedText 8 128 :=
  ⟨contact.1, (by decide : 8 ≤ 16).trans contact.2.1, contact.2.2⟩

structure UpdateCommand where
  requestedPickupAt : Option Instant := none
  destinationPlaceId : Option (BoundedText 8 128) := none
  expectedVersion : Nat

def kindOfChannel : PassengerChannel → ParticipantKind
  | .identity => .identity
  | .verifiedContact => .verifiedContact
  | .assisted => .assisted

def consentOfChannel : PassengerChannel → ConsentState
  | .identity => .notRequired
  | .verifiedContact => .pending
  | .assisted => .assistedRequired

theorem kindOfChannel_eq_identity {channel : PassengerChannel} :
    kindOfChannel channel = .identity ↔ channel = .identity := by
  cases channel <;> decide

theorem referenced_identity {id : Uuid} : Referenced .identity (some id) none :=
  ⟨fun _ => Option.some_ne_none id, fun other => absurd rfl other⟩

theorem referenced_contact {contact : BoundedText 8 128} :
    Referenced .verifiedContact none (some contact) :=
  ⟨nofun, fun _ => Option.some_ne_none contact⟩

variable (config : ScheduledConfig) (draws : Draws) (subject : ScheduledSubject)

def booker : Participant where
  participantId := draws.bookerParticipantId
  role := .booker
  kind := .identity
  identityId := some subject.identityId
  contactReference := none
  consentState := .notRequired
  referenced := referenced_identity

variable (command : CreateCommand)

def passenger : Participant where
  participantId := draws.passengerParticipantId
  role := .passenger
  kind := kindOfChannel command.passengerChannel
  identityId :=
    if command.passengerChannel = .identity then some subject.identityId else none
  contactReference :=
    if command.passengerChannel = .identity then none
    else command.passengerContactReference.map contactReference
  consentState := consentOfChannel command.passengerChannel
  referenced := by
    constructor
    · intro identity
      rw [if_pos (kindOfChannel_eq_identity.1 identity)]
      exact Option.some_ne_none _
    · intro other
      have third : command.passengerChannel ≠ .identity :=
        fun same => other (kindOfChannel_eq_identity.2 same)
      rw [if_neg third, ne_eq, Option.map_eq_none_iff]
      exact mt command.referenced.2 third

def contactParticipant (participantId : Uuid) (role : ParticipantRole)
    (contact : BoundedText 16 128) : Participant where
  participantId
  role
  kind := .verifiedContact
  identityId := none
  contactReference := some (contactReference contact)
  consentState := .notRequired
  referenced := referenced_contact

def participantsFor : List Participant :=
  [booker draws subject, passenger draws subject command] ++ (command.trustedContactReference.map
      (contactParticipant draws.contactParticipantId .trustedContact)).toList ++
    (command.futurePayerReference.map
      (contactParticipant draws.payerParticipantId .futurePayer)).toList

def reservationFor : ScheduledReservation where
  reservationId := draws.reservationId
  bookerId := subject.identityId
  passengerParticipantId := draws.passengerParticipantId
  pickupPlaceId := command.pickupPlaceId
  destinationPlaceId := command.destinationPlaceId
  distinct := command.distinct
  serviceType := command.serviceType
  quoteId := command.quoteId
  requestedPickupAt := command.requestedPickupAt
  state :=
    if command.passengerChannel = .identity then .accepted else .passengerConfirmationPending
  createdAt := draws.now
  updatedAt := draws.now
  version := 1
  counted := Nat.zero_lt_one
  activeSoftPlanId := none
  activeCommitmentId := none
  activatedRideId := none
  softReplacementCount := 0

def requireType (expected : IdentityType) : ScheduledTransaction Unit :=
  require (subject.identityType = expected) (.conflict "Identity type is not authorized")

def requireStepUp : ScheduledTransaction Unit :=
  require (subject.assuranceLevel ≠ .basic) (.conflict "Step-up authentication required")

def create (idempotencyKey : String) : ScheduledTransaction (ScheduledReservation × Bool) := do
  requireType subject .rider
  Application.create config draws (reservationFor draws subject command)
    (participantsFor draws subject command) idempotencyKey

def reservationNotFound : Failure := .conflict "Reservation not found"

def ownershipRequired : Failure := .conflict "Reservation ownership required"

def passengerOf (participants : List Participant) : Option Participant :=
  participants.find? fun participant => participant.role = .passenger

def owned (reservationId : Uuid) (bookerOnly allowDriver : Bool) :
    ScheduledTransaction ScheduledReservation := do
  let found ← getReservation reservationId
  let item ← demand found reservationNotFound
  let store ← get
  if item.bookerId = subject.identityId then pure item
  else if bookerOnly = false ∧ ∃ passenger ∈ passengerOf (participantsOf store reservationId),
        passenger.identityId = some subject.identityId then
    pure item
  else if allowDriver = true then do
    let driver ← committedDriverId reservationId
    require (driver = some subject.identityId) ownershipRequired
    pure item
  else throw ownershipRequired

variable (reservationId : Uuid)

def update (command : UpdateCommand) : ScheduledTransaction ScheduledReservation := do
  requireStepUp subject
  let item ← owned subject reservationId true false
  require (item.state = .passengerConfirmationPending ∨ item.state = .accepted)
    (.conflict "Reservation cannot be updated")
  mutate item command.expectedVersion none
    { requestedPickupAt := command.requestedPickupAt,
      destinationPlaceId := command.destinationPlaceId } draws.now

def AnswersFor (resolver : PassengerResolver) (passenger : Participant) : Prop :=
  passenger.identityId = some subject.identityId ∨
    (∃ contact ∈ passenger.contactReference, resolver subject contact = true) ∨
    (passenger.kind = .assisted ∧ subject.identityType ∈ [IdentityType.staff, .administrator] ∧
      subject.assuranceLevel ≠ .basic)
deriving Decidable

def confirmOrDecline (resolver : PassengerResolver) (confirmed : Bool) :
    ScheduledTransaction ScheduledReservation := do
  let found ← getReservation reservationId
  let item ← demand found (.conflict "Reservation confirmation unavailable")
  require (item.state = .passengerConfirmationPending)
    (.conflict "Reservation confirmation unavailable")
  let store ← get
  let passenger ← demand (passengerOf (participantsOf store reservationId)) (.value "StopIteration")
  require (AnswersFor subject resolver passenger) (.conflict "Passenger ownership required")
  recordConsent item passenger confirmed item.version draws.now

def cancel : ScheduledTransaction ScheduledReservation := do
  let item ← owned subject reservationId false false
  require (item.state ≠ .activatedAsRide ∧ item.state ≠ .fulfilled)
    (.conflict "Reservation cannot be cancelled")
  mutate item item.version (some .riderCancelled) {} draws.now

def createPickupCode (code : String) : ScheduledTransaction Unit :=
  createPickupVerification reservationId (config.pickupDigest reservationId code)
    (draws.now + seconds (10 * 60)) draws.now draws.verificationId

def committedItem : ScheduledTransaction ScheduledReservation := do
  requireType subject .driver
  let item ← owned subject reservationId false true
  let driver ← committedDriverId reservationId
  require (driver = some subject.identityId) (.conflict "Driver ownership required")
  pure item

def verifyPickup (code : String) : ScheduledTransaction ScheduledReservation := do
  let item ← committedItem subject reservationId
  let result ← Repository.verifyPickup item.reservationId (config.pickupDigest reservationId code)
    draws.now
  require (result = true) (.conflict "Pickup verification failed")
  mutate item item.version (some .activatedAsRide) { activatedRideId := some draws.rideId }
    draws.now

def driverCommitmentResponse (accepted : Bool) (expectedVersion : Nat) :
    ScheduledTransaction ScheduledReservation := do
  let item ← committedItem subject reservationId
  mutate item expectedVersion (if accepted = true then none else some .reassigning) {} draws.now

def driverProgress (ready : Bool) : ScheduledTransaction ScheduledReservation := do
  requireType subject .driver
  let item ← owned subject reservationId false true
  mutate item item.version (some (if ready = true then .readyForPickup else .driverEnRoute)) {}
    draws.now

def supportHandoff : ScheduledTransaction ScheduledReservation := do
  require (subject.identityType ∈ [IdentityType.staff, .administrator])
    (.conflict "Support authorization required")
  requireStepUp subject
  let found ← getReservation reservationId
  let item ← demand found reservationNotFound
  mutate item item.version none {} draws.now

def moveTo (target : ReservationState) : ScheduledTransaction ScheduledReservation := do
  let found ← getReservation reservationId
  let item ← demand found reservationNotFound
  mutate item item.version (some target) {} draws.now

end Ayo.Scheduled.Integration

/-! The commands on reservations as units of work on one store. -/

namespace Ayo.Scheduled.System

open Kernel.UnitOfWork (commit)
open Core.Values
open Application (Draws ScheduledConfig)
open Integration Models
open Repository (ScheduledStore)

/-- One unit of work on the scheduled store; the planner passes the reservation as it has it. -/
inductive ScheduledAction where
  | create (subject : ScheduledSubject) (draws : Draws) (command : CreateCommand)
      (idempotencyKey : String)
  | update (subject : ScheduledSubject) (draws : Draws) (reservationId : Uuid)
      (command : UpdateCommand)
  | confirmOrDecline (resolver : PassengerResolver) (subject : ScheduledSubject) (draws : Draws)
      (reservationId : Uuid) (confirmed : Bool)
  | cancel (subject : ScheduledSubject) (draws : Draws) (reservationId : Uuid)
  | createPickupCode (draws : Draws) (reservationId : Uuid) (code : String)
  | verifyPickup (subject : ScheduledSubject) (draws : Draws) (reservationId : Uuid)
      (code : String)
  | driverCommitmentResponse (subject : ScheduledSubject) (draws : Draws) (reservationId : Uuid)
      (accepted : Bool) (expectedVersion : Nat)
  | driverProgress (subject : ScheduledSubject) (draws : Draws) (reservationId : Uuid)
      (ready : Bool)
  | supportHandoff (subject : ScheduledSubject) (draws : Draws) (reservationId : Uuid)
  | plan (draws : Draws) (reservation : ScheduledReservation)
      (candidates : List ScheduledCandidate) (incumbent : Option CandidateDecision)
  | commit (draws : Draws) (reservation : ScheduledReservation) (decision : CandidateDecision)
  | moveTo (draws : Draws) (reservationId : Uuid) (target : ReservationState)

def scheduledStep (config : ScheduledConfig) (store : ScheduledStore) :
    ScheduledAction → ScheduledStore
  | .create subject draws command idempotencyKey =>
    commit (create config draws subject command idempotencyKey) store
  | .update subject draws reservationId command =>
    commit (update draws subject reservationId command) store
  | .confirmOrDecline resolver subject draws reservationId confirmed =>
    commit (confirmOrDecline draws subject reservationId resolver confirmed) store
  | .cancel subject draws reservationId => commit (cancel draws subject reservationId) store
  | .createPickupCode draws reservationId code =>
    commit (createPickupCode config draws reservationId code) store
  | .verifyPickup subject draws reservationId code =>
    commit (verifyPickup config draws subject reservationId code) store
  | .driverCommitmentResponse subject draws reservationId accepted expectedVersion =>
    commit (driverCommitmentResponse draws subject reservationId accepted expectedVersion) store
  | .driverProgress subject draws reservationId ready =>
    commit (driverProgress draws subject reservationId ready) store
  | .supportHandoff subject draws reservationId =>
    commit (supportHandoff draws subject reservationId) store
  | .plan draws reservation candidates incumbent =>
    commit (Application.plan config draws reservation candidates incumbent) store
  | .commit draws reservation decision =>
    commit (Application.commit config draws reservation decision) store
  | .moveTo draws reservationId target => commit (moveTo draws reservationId target) store

end Ayo.Scheduled.System
