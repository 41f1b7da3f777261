/- digest: The scheduled repository, creation, soft planning and commitment. -/

import Ayo.Scheduled.Engine

namespace Ayo.Scheduled.Repository

open Kernel.UnitOfWork Kernel.KeyedTable Core.Values Engine Models

structure ScheduledStore where
  reservations : Table ScheduledReservation := .empty
  participants : Table ParticipantRow := .empty
  softPlans : Table SoftPlan := .empty
  commitments : Table DriverCommitment := .empty
  verifications : Table PickupVerification := .empty
  records : Table ReservationRecord := .empty

abbrev ScheduledTransaction (α : Type) := Transaction ScheduledStore Failure α

/-- `timedelta(seconds=count)`, in microseconds. -/
def seconds (count : Nat) : Int := count * 1000000

variable (store : ScheduledStore) (reservationId : Uuid)

def getReservation : ScheduledTransaction (Option ScheduledReservation) := do
  let store ← get
  pure (store.reservations.find reservationId)

def participantsOf : List Participant :=
  (store.participants.rows.filter fun row => row.reservationId = reservationId).map
    ParticipantRow.payload

def committedOf : List DriverCommitment :=
  store.commitments.rows.filter fun row =>
    row.reservationId = reservationId ∧ row.state = .committed

def committedDriverId : ScheduledTransaction (Option Uuid) := do
  let store ← get
  match committedOf store reservationId with
  | [] => pure none
  | [row] => pure (some row.driverId)
  | _ => throw (.integrity "reservation_driver_commitments")

variable (reservation : ScheduledReservation)

def insertReservation : ScheduledTransaction Unit := do
  let store ← get
  let reservations ← demand (store.reservations.insert? reservation)
    (.integrity "ride_reservations")
  put { store with reservations }

def insertParticipants (rows : List ParticipantRow) : ScheduledTransaction Unit := do
  let store ← get
  let participants ← demand (store.participants.insertAll? rows)
    (.integrity "reservation_participants")
  put { store with participants }

def insertRecord (record : ReservationRecord) : ScheduledTransaction Unit := do
  let store ← get
  let records ← demand (store.records.insert? record) (.integrity "reservation_idempotency_records")
  put { store with records }

def creationConflict : Failure := .conflict "Concurrent reservation creation conflict"

/-- The reservation that the booker's key was used for, or a new one. -/
def create (participants : List Participant) (idempotencyFingerprint requestHash : Digest) :
    ScheduledTransaction (ScheduledReservation × Bool) := do
  let store ← get
  whenSome (store.records.find (reservation.bookerId, idempotencyFingerprint)) (fun existing => do
      require (existing.requestHash = requestHash) (.conflict "Idempotency key reused")
      let stored ← demand (store.reservations.find existing.reservationId)
        (.conflict "Idempotency authority is inconsistent")
      pure (stored, false))
    -- a violated constraint rolls the insertions back, and finds no record either
    (do
      recast
        (do
          insertReservation reservation
          insertParticipants (participants.map fun participant =>
            ⟨reservation.reservationId, participant⟩)
          insertRecord
            { actorId := reservation.bookerId, keyFingerprint := idempotencyFingerprint,
              requestHash, reservationId := reservation.reservationId,
              createdAt := reservation.createdAt,
              expiresAt := reservation.createdAt + seconds (7 * 24 * 60 * 60) })
        creationConflict
      pure (reservation, true))

structure ReservationChanges where
  requestedPickupAt : Option Instant := none
  destinationPlaceId : Option (BoundedText 8 128) := none
  activatedRideId : Option Uuid := none

def ScheduledReservation.changed? (row : ScheduledReservation) (state : Option ReservationState)
    (values : ReservationChanges) (now : Instant) : Option ScheduledReservation :=
  let destination := values.destinationPlaceId.getD row.destinationPlaceId
  if distinct : row.pickupPlaceId ≠ destination then
    some
      { row with
        destinationPlaceId := destination, distinct,
        requestedPickupAt := values.requestedPickupAt.getD row.requestedPickupAt,
        activatedRideId := values.activatedRideId.or row.activatedRideId,
        state := state.getD row.state, updatedAt := now, version := row.version + 1,
        counted := row.next_counted }
  else none

variable (expectedVersion : Nat)

def rowAtVersion (failure : Failure) : ScheduledTransaction ScheduledReservation := do
  let found ← getReservation reservationId
  let row ← demand found failure
  require (row.version = expectedVersion) failure
  pure row

def updateReservation (row : ScheduledReservation) : ScheduledTransaction Unit := do
  let store ← get
  let reservations ← demand (store.reservations.replace? row) (.integrity "ride_reservations")
  put { store with reservations }

def mutate (state : Option ReservationState) (values : ReservationChanges) (now : Instant) :
    ScheduledTransaction ScheduledReservation := do
  require (∀ target ∈ state, target = reservation.state ∨
      target ∈ allowedTransitions reservation.state)
    (.conflict "Invalid reservation transition")
  let row ← rowAtVersion reservation.reservationId expectedVersion
    (.conflict "Reservation version conflict")
  let changed ← demand (ScheduledReservation.changed? row state values now)
    (.integrity "ride_reservations")
  updateReservation changed
  pure changed

def updateParticipant (row : ParticipantRow) : ScheduledTransaction Unit := do
  let store ← get
  let participants ← demand (store.participants.replace? row)
    (.integrity "reservation_participants")
  put { store with participants }

def recordConsent (participant : Participant) (confirmed : Bool) (expectedVersion : Nat)
    (now : Instant) : ScheduledTransaction ScheduledReservation := do
  require (participant.role = .passenger) (.conflict "Only passenger consent is valid")
  updateParticipant ⟨reservation.reservationId,
      { participant with consentState := if confirmed = true then .confirmed else .declined }⟩
  mutate reservation expectedVersion
    (some (if confirmed = true then .accepted else .passengerDeclined)) {} now

def createPickupVerification (codeHash : Digest) (expiresAt now : Instant) (verificationId : Uuid) :
    ScheduledTransaction Unit := do
  let store ← get
  let verifications ← demand (store.verifications.insert?
      { verificationId, reservationId, codeHash, expiresAt, createdAt := now })
    (.integrity "reservation_pickup_verifications")
  put { store with verifications }

def updateVerification (row : PickupVerification) : ScheduledTransaction Unit := do
  let store ← get
  let verifications ← demand (store.verifications.replace? row)
    (.integrity "reservation_pickup_verifications")
  put { store with verifications }

def comparable (now : Instant) : Option PickupVerification :=
  (store.verifications.rows.find? fun row => row.reservationId = reservationId).filter fun row =>
    row.verifiedAt = none ∧ now < row.expiresAt ∧ row.attemptCount < 5

def verifyPickup (codeHash : Digest) (now : Instant) : ScheduledTransaction Bool := do
  let store ← get
  whenSome (comparable store reservationId now) (fun row => do
      let valid := decide (row.codeHash = codeHash)
      updateVerification
        { row with
          attemptCount := row.attemptCount + (if valid then 0 else 1),
          verifiedAt := if valid then some now else none }
      pure valid)
    (pure false)

def unlockedRow (failure : Failure) : ScheduledTransaction ScheduledReservation := do
  let row ← rowAtVersion reservation.reservationId expectedVersion failure
  require (row.activeCommitmentId = none) failure
  pure row

def saveSoftPlan (plan : SoftPlan) (expectedVersion : Nat) :
    ScheduledTransaction ScheduledReservation := do
  let store ← get
  let softPlans ← demand (store.softPlans.insert? plan) (.integrity "reservation_soft_plans")
  put { store with softPlans }
  let row ← unlockedRow reservation expectedVersion
    (.conflict "Reservation changed or commitment locked")
  let changed :=
    { row with
      activeSoftPlanId := some plan.softPlanId,
      softReplacementCount := reservation.softReplacementCount +
        (if plan.supersedesSoftPlanId.isSome then 1 else 0),
      updatedAt := plan.selectedAt, version := row.version + 1,
      counted := row.next_counted }
  updateReservation changed
  pure changed

def commitDriver (commitment : DriverCommitment) (expectedVersion : Nat) :
    ScheduledTransaction ScheduledReservation := do
  let store ← get
  let commitments ← demand (store.commitments.insert? commitment)
    (.conflict "Driver commitment overlaps")
  put { store with commitments }
  let row ← unlockedRow reservation expectedVersion (.conflict "Commitment race lost")
  let changed :=
    { row with
      activeCommitmentId := some commitment.commitmentId, state := .driverCommitted,
      updatedAt := commitment.committedAt, version := row.version + 1,
      counted := row.next_counted }
  updateReservation changed
  pure changed

end Ayo.Scheduled.Repository

/-! The scheduled ride application: creation, soft planning and commitment. -/

namespace Ayo.Scheduled.Application

open Kernel.UnitOfWork Core.Values Engine Models Repository

/-- What one call draws at random and reads from the clock. -/
structure Draws where
  now : Instant
  (reservationId bookerParticipantId passengerParticipantId contactParticipantId : Uuid)
  (payerParticipantId verificationId rideId softPlanId commitmentId : Uuid)

/-- What the applications are built with; `pickupDigest` is keyed with the pickup secret, and
`decisionId` is the name-based identifier of a decision. -/
structure ScheduledConfig where
  policy : ReservationPolicy
  hash : Payload → Digest
  fingerprint : String → Digest
  pickupDigest : Uuid → String → Digest
  decisionId : Uuid → Uuid → String → Uuid

variable (config : ScheduledConfig) (draws : Draws)

def optionalUuid : Option Uuid → Json
  | some id => .uuid id
  | none => .null

def optionalText : Option (BoundedText 8 128) → Json
  | some text => .text text.1
  | none => .null

variable (reservation : ScheduledReservation)

def requestPayload (passenger : Participant) : Payload :=
  [("booker", .uuid reservation.bookerId),
   ("passenger_identity", optionalUuid passenger.identityId),
   ("passenger_contact", optionalText passenger.contactReference),
   ("pickup", .text reservation.pickupPlaceId.1),
   ("destination", .text reservation.destinationPlaceId.1),
   ("pickup_at", .time (.utc reservation.requestedPickupAt)),
   ("quote", .uuid reservation.quoteId)]

def oneOfRole (participants : List Participant) (role : ParticipantRole) :
    ScheduledTransaction Participant :=
  match participants.filter fun participant => participant.role = role with
  | [participant] => pure participant
  | _ => throw (.conflict "Exactly one booker and passenger are required")

def create (participants : List Participant) (idempotencyKey : String) :
    ScheduledTransaction (ScheduledReservation × Bool) := do
  let lead := reservation.requestedPickupAt - draws.now
  require (seconds config.policy.minimumBookingLeadSeconds ≤ lead ∧
      lead ≤ seconds config.policy.maximumBookingHorizonSeconds)
    (.conflict "Requested pickup is outside booking horizon")
  let booker ← oneOfRole participants .booker
  let passenger ← oneOfRole participants .passenger
  require (passenger.participantId = reservation.passengerParticipantId)
    (.conflict "Passenger reference does not match")
  require (booker.identityId = passenger.identityId ∨
      passenger.consentState ∈ [ConsentState.pending, .assistedRequired, .confirmed])
    (.conflict "Third-party passenger confirmation is required")
  Repository.create reservation participants (config.fingerprint idempotencyKey)
    (config.hash (requestPayload reservation passenger))

def plan (candidates : List ScheduledCandidate) (incumbent : Option CandidateDecision) :
    ScheduledTransaction ScheduledReservation :=
  match rank config.policy config.decisionId reservation candidates draws.now with
  | [] => transition reservation .noDriverAvailable draws.now
  | selected :: _ =>
    if ∀ current ∈ incumbent,
        (shouldReplaceSoftCandidate config.policy current selected reservation).1 = true then do
      let plan ← planSoftCandidate reservation selected draws.now
        (draws.now + seconds config.policy.softPlanningLeadSeconds) none draws.softPlanId
      saveSoftPlan reservation plan reservation.version
    else pure reservation

theorem seconds_pos {count : Nat} (positive : 0 < count) : 0 < seconds count := by
  unfold seconds
  omega

def commitmentFor (decision : CandidateDecision) : DriverCommitment where
  commitmentId := draws.commitmentId
  reservationId := reservation.reservationId
  driverId := decision.driverId
  state := .committed
  windowStartedAt :=
    reservation.requestedPickupAt - seconds config.policy.formalCommitmentLeadSeconds
  windowEndedAt :=
    reservation.requestedPickupAt + seconds config.policy.formalCommitmentLeadSeconds
  positive := by
    obtain ⟨_, _, _, ⟨least, _⟩, _⟩ := config.policy.valid
    have positive : 0 < seconds config.policy.formalCommitmentLeadSeconds :=
      seconds_pos (Nat.lt_of_lt_of_le (by decide) least)
    change (_ : Int) - _ < _ + _
    omega
  committedAt := draws.now

def commit (decision : CandidateDecision) : ScheduledTransaction ScheduledReservation :=
  commitDriver reservation (commitmentFor config draws reservation decision) reservation.version

end Ayo.Scheduled.Application
