/- digest: Courier pickups, their state graph, and the answers to retried commands. -/

import Ayo.Core.Values
import Ayo.Kernel.KeyedTable
import Mathlib.Data.List.Sort

namespace Ayo.CourierPickup.Models

open Kernel.UnitOfWork Kernel.KeyedTable Kernel.Columns Core.Values

inductive CourierPickupState where
  | assigned
  | travelling
  | arrived
  | waiting
  | endedBeforeCustody
deriving DecidableEq

def CourierPickupState.value : CourierPickupState → String
  | .assigned => "courier_assigned"
  | .travelling => "travelling_to_merchant"
  | .arrived => "arrived_at_merchant"
  | .waiting => "waiting_for_pickup"
  | .endedBeforeCustody => "pickup_attempt_ended_before_custody"

inductive CourierPickupAction where
  | startTravel
  | markArrived
  | acknowledgeArrival
  | correctArrival
  | correctWaiting
  | endAttempt
deriving DecidableEq

def CourierPickupAction.value : CourierPickupAction → String
  | .startTravel => "start_travel"
  | .markArrived => "mark_arrived"
  | .acknowledgeArrival => "acknowledge_arrival"
  | .correctArrival => "correct_arrival"
  | .correctWaiting => "correct_waiting"
  | .endAttempt => "end_attempt_before_custody"

inductive CourierPickupExceptionReason where
  | assignmentClosed
  | merchantLocationUnreachable
  | merchantNotFound
  | merchantUnavailable
  | orderNotReady
  | readinessCorrected
  | courierUnable
  | authorityFailure
  | duplicateOrInvalid
  | otherReview
deriving DecidableEq

def CourierPickupExceptionReason.value : CourierPickupExceptionReason → String
  | .assignmentClosed => "assignment_closed_or_revoked"
  | .merchantLocationUnreachable => "merchant_location_unreachable"
  | .merchantNotFound => "merchant_not_found"
  | .merchantUnavailable => "merchant_unavailable"
  | .orderNotReady => "order_not_ready"
  | .readinessCorrected => "readiness_corrected"
  | .courierUnable => "courier_unable_to_continue"
  | .authorityFailure => "authority_or_identity_failure"
  | .duplicateOrInvalid => "duplicate_or_invalid_attempt"
  | .otherReview => "other_review_required"

inductive CourierPickupEvidenceKind where
  | assignmentAdmitted
  | travelStarted
  | arrivalDeclared
  | merchantAcknowledged
  | waitingObserved
  | locationCorroborated
  | attemptEnded
  | arrivalCorrected
  | waitingCorrected
deriving DecidableEq

def CourierPickupEvidenceKind.value : CourierPickupEvidenceKind → String
  | .assignmentAdmitted => "assignment_admitted"
  | .travelStarted => "travel_started"
  | .arrivalDeclared => "arrival_declared"
  | .merchantAcknowledged => "merchant_acknowledged"
  | .waitingObserved => "waiting_observed"
  | .locationCorroborated => "location_corroborated"
  | .attemptEnded => "attempt_ended_before_custody"
  | .arrivalCorrected => "arrival_corrected"
  | .waitingCorrected => "waiting_corrected"

structure CourierPickupRecord where
  (pickupId dispatchId : Uuid)
  assignmentId : Option Uuid
  (assignmentVersion attemptNumber : Nat)
  (orderId merchantId assignedCourierIdentityId assignmentMessageId : Uuid)
  policyCode : String
  policyVersion : Nat
  state : CourierPickupState
  version : Nat
  assignedAt : Instant
  (travellingAt arrivedAt merchantAcknowledgedAt : Option Instant)
  waitingDurationSeconds : Option Nat
  terminalReason : Option CourierPickupExceptionReason
  custodyAcceptedAt : Option Instant
  updatedAt : Instant

instance : Row CourierPickupRecord Uuid :=
  uniqueColumns CourierPickupRecord.pickupId
    [CourierPickupRecord.assignmentId, fun row => some row.assignmentMessageId]

structure CourierPickupEvent where
  (eventId pickupId orderId : Uuid)
  eventType : CourierPickupEvidenceKind
  fromState : Option CourierPickupState
  toState : CourierPickupState
  actorIdentityId : Option Uuid
  version : Nat
  occurredAt : Instant
  (correlationId causationId : Uuid)

structure CourierPickupEvidence where
  (evidenceId pickupId : Uuid)
  pickupVersion : Nat
  kind : CourierPickupEvidenceKind
  (actorIdentityId actingForIdentityId merchantId : Option Uuid)
  authorityBasis : String
  sourceReference : Option Uuid
  sourceVersion : Option Nat
  reason : Option CourierPickupExceptionReason
  waitingDurationSeconds : Option Nat
  occurredAt : Instant
  (correlationId causationId : Uuid)

structure CourierPickupView where
  pickup : CourierPickupRecord
  events : List CourierPickupEvent
  evidence : List CourierPickupEvidence

def targetState : CourierPickupState → CourierPickupAction → Option CourierPickupState
  | .assigned, .startTravel => some .travelling
  | .travelling, .markArrived => some .arrived
  | .arrived, .acknowledgeArrival => some .waiting
  | .arrived, .correctArrival => some .travelling
  | .waiting, .correctWaiting => some .arrived
  | .endedBeforeCustody, .endAttempt => none
  | _, .endAttempt => some .endedBeforeCustody
  | _, _ => none

def evidenceKind : Option CourierPickupAction → CourierPickupEvidenceKind
  | none => .assignmentAdmitted
  | some .startTravel => .travelStarted
  | some .markArrived => .arrivalDeclared
  | some .acknowledgeArrival => .merchantAcknowledged
  | some .correctArrival => .arrivalCorrected
  | some .correctWaiting => .waitingCorrected
  | some .endAttempt => .attemptEnded

structure CourierPickupPolicy where
  locationEvidenceMaxAge : Int := 300000000

variable {σ : Type}

def CourierPickupPolicy.validateLocationEvidence (policy : CourierPickupPolicy)
    (observedAt : DateTime) (evaluatedAt : Instant) : Transaction σ Failure Unit := do
  require (observedAt.aware = true) (.value "location evidence timestamp must be timezone-aware")
  require (0 ≤ evaluatedAt - observedAt.instant ∧
      evaluatedAt - observedAt.instant ≤ policy.locationEvidenceMaxAge)
    (.conflict "location_evidence_stale_or_invalid")

def waitedSeconds (arrivedAt : Option Instant) (time : Instant) : Nat :=
  arrivedAt.elim 0 fun arrived => ((time - arrived) / 1000000).toNat

def CourierPickupRecord.stamped (pickup : CourierPickupRecord) (arrivedAt : Option Instant)
    (target : CourierPickupState) (action : CourierPickupAction)
    (reason : Option CourierPickupExceptionReason) (time : Instant) : CourierPickupRecord :=
  match target with
  | .travelling =>
    if action = .correctArrival then
      { pickup with
        travellingAt := some time
        arrivedAt := none
        merchantAcknowledgedAt := none
        waitingDurationSeconds := none }
    else
      { pickup with travellingAt := some time }
  | .arrived =>
    if action = .markArrived then
      { pickup with arrivedAt := some time }
    else if action = .correctWaiting then
      { pickup with merchantAcknowledgedAt := none, waitingDurationSeconds := none }
    else
      pickup
  | .waiting =>
    { pickup with
      merchantAcknowledgedAt := some time
      waitingDurationSeconds := some (waitedSeconds arrivedAt time) }
  | .endedBeforeCustody => { pickup with terminalReason := reason }
  | .assigned => pickup

def CourierPickupRecord.moved (stored current : CourierPickupRecord) (target : CourierPickupState)
    (action : CourierPickupAction) (reason : Option CourierPickupExceptionReason)
    (time : Instant) : CourierPickupRecord :=
  { stored.stamped current.arrivedAt target action reason time with
    state := target
    version := current.version + 1
    updatedAt := time }

end Ayo.CourierPickup.Models

/-! The digest that names a pickup command, and its answer as a stored snapshot. -/

namespace Ayo.CourierPickup.Idempotency

open Kernel.KeyedTable Core.Values Models

structure CourierPickupCommandDigest where
  (pickupId actorIdentityId : Uuid)
  actingForIdentityId : Option Uuid
  action : CourierPickupAction
  expectedVersion : Int
  merchantId : Option Uuid
  (assignedCourierIdentityId assignmentId : Uuid)
  assignmentVersion : Nat
  locationEvidenceReference : Option Uuid
  locationEvidenceVersion : Option Int
  locationEvidenceObservedAt : Option Instant
  reason : Option CourierPickupExceptionReason
  assignmentSourceReference : Uuid
  assignmentSourceVersion : Nat
  pickupPolicyCode : String
  pickupPolicyVersion : Nat

private def orNull {α : Type} (write : α → Json) (value : Option α) : Json :=
  value.elim .null write

def CourierPickupCommandDigest.canonical (digest : CourierPickupCommandDigest) : Payload :=
  [("digest_schema_version", .number 1), ("pickup_id", .uuid digest.pickupId),
   ("actor_identity_id", .uuid digest.actorIdentityId),
   ("acting_for_identity_id", orNull .uuid digest.actingForIdentityId),
   ("action", .text digest.action.value),
   ("expected_version", .number digest.expectedVersion),
   ("merchant_id", orNull .uuid digest.merchantId),
   ("assigned_courier_identity_id", .uuid digest.assignedCourierIdentityId),
   ("assignment_id", .uuid digest.assignmentId),
   ("assignment_version", .number digest.assignmentVersion),
   ("location_evidence_reference", orNull .uuid digest.locationEvidenceReference),
   ("location_evidence_version", orNull .number digest.locationEvidenceVersion),
   ("location_evidence_observed_at",
     orNull (fun instant => .time (.utc instant)) digest.locationEvidenceObservedAt),
   ("reason", orNull (fun reason => .text reason.value) digest.reason),
   ("assignment_source_reference", .uuid digest.assignmentSourceReference),
   ("assignment_source_version", .number digest.assignmentSourceVersion),
   ("pickup_policy_code", .text digest.pickupPolicyCode),
   ("pickup_policy_version", .number digest.pickupPolicyVersion)]

inductive Scalar where
  | null
  | number (value : Int)
  | text (value : String)
  | uuid (value : Uuid)
  | time (value : Instant)
deriving DecidableEq

abbrev Record := List (String × Scalar)

/-- `CourierPickupReplaySnapshotV1` as it is stored: the response with its lists of objects. -/
structure StoredSnapshot where
  responseSchemaVersion : Nat
  pickup : Record
  (events evidence : List Record)
deriving DecidableEq

def responseSchemaVersion : Nat := 1

def snapshotMaxBytes : Nat := 65536

structure PickupReservation where
  (actorIdentityId pickupId : Uuid)
  action : CourierPickupAction
  idempotencyKey : String
  requestHash : Digest
  (digestVersion responseSchemaVersion : Nat)
  responseVersion : Option Nat
  responseSnapshot : Option StoredSnapshot
  createdAt : Instant

/-- The rule of `uq_courier_pickup_actor_action_idempotency`. -/
instance : Row PickupReservation (Uuid × CourierPickupAction × String) :=
  .keyed fun row => (row.actorIdentityId, row.action, row.idempotencyKey)

def Scalar.ofOption {α : Type} (write : α → Scalar) (value : Option α) : Scalar :=
  value.elim .null write

def Scalar.ofNat (value : Nat) : Scalar := .number value

def encodePickup (pickup : CourierPickupRecord) : Record :=
  [("pickup_id", .uuid pickup.pickupId), ("dispatch_id", .uuid pickup.dispatchId),
   ("assignment_id", .ofOption .uuid pickup.assignmentId),
   ("assignment_version", .ofNat pickup.assignmentVersion),
   ("attempt_number", .ofNat pickup.attemptNumber),
   ("order_id", .uuid pickup.orderId),
   ("merchant_id", .uuid pickup.merchantId),
   ("assigned_courier_identity_id", .uuid pickup.assignedCourierIdentityId),
   ("assignment_message_id", .uuid pickup.assignmentMessageId),
   ("policy_code", .text pickup.policyCode),
   ("policy_version", .ofNat pickup.policyVersion),
   ("state", .text pickup.state.value),
   ("version", .ofNat pickup.version),
   ("assigned_at", .time pickup.assignedAt),
   ("travelling_at", .ofOption .time pickup.travellingAt),
   ("arrived_at", .ofOption .time pickup.arrivedAt),
   ("merchant_acknowledged_at", .ofOption .time pickup.merchantAcknowledgedAt),
   ("waiting_duration_seconds", .ofOption .ofNat pickup.waitingDurationSeconds),
   ("terminal_reason", .ofOption (fun reason => .text reason.value) pickup.terminalReason),
   ("custody_accepted_at", .ofOption .time pickup.custodyAcceptedAt),
   ("updated_at", .time pickup.updatedAt)]

def encodeEvent (event : CourierPickupEvent) : Record :=
  [("event_id", .uuid event.eventId), ("pickup_id", .uuid event.pickupId),
   ("order_id", .uuid event.orderId),
   ("event_type", .text ("commerce.courier_pickup." ++ event.eventType.value)),
   ("from_state", .ofOption (fun state => .text state.value) event.fromState),
   ("to_state", .text event.toState.value),
   ("actor_identity_id", .ofOption .uuid event.actorIdentityId),
   ("version", .ofNat event.version),
   ("occurred_at", .time event.occurredAt),
   ("correlation_id", .uuid event.correlationId),
   ("causation_id", .uuid event.causationId)]

def encodeEvidence (evidence : CourierPickupEvidence) : Record :=
  [("evidence_id", .uuid evidence.evidenceId), ("pickup_id", .uuid evidence.pickupId),
   ("pickup_version", .ofNat evidence.pickupVersion),
   ("kind", .text evidence.kind.value),
   ("actor_identity_id", .ofOption .uuid evidence.actorIdentityId),
   ("acting_for_identity_id", .ofOption .uuid evidence.actingForIdentityId),
   ("merchant_id", .ofOption .uuid evidence.merchantId),
   ("authority_basis", .text evidence.authorityBasis),
   ("source_reference", .ofOption .uuid evidence.sourceReference),
   ("source_version", .ofOption .ofNat evidence.sourceVersion),
   ("reason", .ofOption (fun reason => .text reason.value) evidence.reason),
   ("waiting_duration_seconds", .ofOption .ofNat evidence.waitingDurationSeconds),
   ("occurred_at", .time evidence.occurredAt),
   ("correlation_id", .uuid evidence.correlationId),
   ("causation_id", .uuid evidence.causationId)]

def snapshot (view : CourierPickupView) : StoredSnapshot where
  responseSchemaVersion
  pickup := encodePickup view.pickup
  events := view.events.map encodeEvent
  evidence := view.evidence.map encodeEvidence

/-- `encode`, given the length of canonical JSON texts. -/
def encode (bytes : StoredSnapshot → Nat) (view : CourierPickupView) : Option StoredSnapshot :=
  if bytes (snapshot view) ≤ snapshotMaxBytes then some (snapshot view) else none

def asUuid : Scalar → Option Uuid
  | .uuid value => some value
  | _ => none

def asText : Scalar → Option String
  | .text value => some value
  | _ => none

def asTime : Scalar → Option Instant
  | .time value => some value
  | _ => none

def asNat : Scalar → Option Nat
  | .number (.ofNat value) => some value
  | _ => none

def asMember {α : Type} (members : List α) (value : α → String) (scalar : Scalar) : Option α :=
  (asText scalar).bind fun text => members.find? fun element => value element = text

def asOption {α : Type} (read : Scalar → Option α) : Scalar → Option (Option α)
  | .null => some none
  | scalar => (read scalar).map some

def pickupStates : List CourierPickupState :=
  [.assigned, .travelling, .arrived, .waiting, .endedBeforeCustody]

def exceptionReasons : List CourierPickupExceptionReason :=
  [.assignmentClosed, .merchantLocationUnreachable, .merchantNotFound, .merchantUnavailable,
   .orderNotReady, .readinessCorrected, .courierUnable, .authorityFailure, .duplicateOrInvalid,
   .otherReview]

def evidenceKinds : List CourierPickupEvidenceKind :=
  [.assignmentAdmitted, .travelStarted, .arrivalDeclared, .merchantAcknowledged, .waitingObserved,
   .locationCorroborated, .attemptEnded, .arrivalCorrected, .waitingCorrected]

def asState : Scalar → Option CourierPickupState :=
  asMember pickupStates CourierPickupState.value

def asReason : Scalar → Option CourierPickupExceptionReason :=
  asMember exceptionReasons CourierPickupExceptionReason.value

def asKind : Scalar → Option CourierPickupEvidenceKind :=
  asMember evidenceKinds CourierPickupEvidenceKind.value

def asEventType : Scalar → Option CourierPickupEvidenceKind :=
  asMember evidenceKinds fun kind => "commerce.courier_pickup." ++ kind.value

def read {α : Type} (stored : Record) (name : String) (as : Scalar → Option α) : Option α :=
  (stored.lookup name).bind as

variable (stored : Record)

def decodePickup : Option CourierPickupRecord := do
  let pickupId ← read stored "pickup_id" asUuid
  let dispatchId ← read stored "dispatch_id" asUuid
  let assignmentId ← read stored "assignment_id" (asOption asUuid)
  let assignmentVersion ← read stored "assignment_version" asNat
  let attemptNumber ← read stored "attempt_number" asNat
  let orderId ← read stored "order_id" asUuid
  let merchantId ← read stored "merchant_id" asUuid
  let assignedCourierIdentityId ← read stored "assigned_courier_identity_id" asUuid
  let assignmentMessageId ← read stored "assignment_message_id" asUuid
  let policyCode ← read stored "policy_code" asText
  let policyVersion ← read stored "policy_version" asNat
  let state ← read stored "state" asState
  let version ← read stored "version" asNat
  let assignedAt ← read stored "assigned_at" asTime
  let travellingAt ← read stored "travelling_at" (asOption asTime)
  let arrivedAt ← read stored "arrived_at" (asOption asTime)
  let merchantAcknowledgedAt ← read stored "merchant_acknowledged_at" (asOption asTime)
  let waitingDurationSeconds ← read stored "waiting_duration_seconds" (asOption asNat)
  let terminalReason ← read stored "terminal_reason" (asOption asReason)
  let custodyAcceptedAt ← read stored "custody_accepted_at" (asOption asTime)
  let updatedAt ← read stored "updated_at" asTime
  pure
    { pickupId, dispatchId, assignmentId, assignmentVersion, attemptNumber, orderId, merchantId,
      assignedCourierIdentityId, assignmentMessageId, policyCode, policyVersion, state, version,
      assignedAt, travellingAt, arrivedAt, merchantAcknowledgedAt, waitingDurationSeconds,
      terminalReason, custodyAcceptedAt, updatedAt }

def decodeEvent : Option CourierPickupEvent := do
  let eventId ← read stored "event_id" asUuid
  let pickupId ← read stored "pickup_id" asUuid
  let orderId ← read stored "order_id" asUuid
  let eventType ← read stored "event_type" asEventType
  let fromState ← read stored "from_state" (asOption asState)
  let toState ← read stored "to_state" asState
  let actorIdentityId ← read stored "actor_identity_id" (asOption asUuid)
  let version ← read stored "version" asNat
  let occurredAt ← read stored "occurred_at" asTime
  let correlationId ← read stored "correlation_id" asUuid
  let causationId ← read stored "causation_id" asUuid
  pure
    { eventId, pickupId, orderId, eventType, fromState, toState, actorIdentityId, version,
      occurredAt, correlationId, causationId }

def decodeEvidence : Option CourierPickupEvidence := do
  let evidenceId ← read stored "evidence_id" asUuid
  let pickupId ← read stored "pickup_id" asUuid
  let pickupVersion ← read stored "pickup_version" asNat
  let kind ← read stored "kind" asKind
  let actorIdentityId ← read stored "actor_identity_id" (asOption asUuid)
  let actingForIdentityId ← read stored "acting_for_identity_id" (asOption asUuid)
  let merchantId ← read stored "merchant_id" (asOption asUuid)
  let authorityBasis ← read stored "authority_basis" asText
  let sourceReference ← read stored "source_reference" (asOption asUuid)
  let sourceVersion ← read stored "source_version" (asOption asNat)
  let reason ← read stored "reason" (asOption asReason)
  let waitingDurationSeconds ← read stored "waiting_duration_seconds" (asOption asNat)
  let occurredAt ← read stored "occurred_at" asTime
  let correlationId ← read stored "correlation_id" asUuid
  let causationId ← read stored "causation_id" asUuid
  pure
    { evidenceId, pickupId, pickupVersion, kind, actorIdentityId, actingForIdentityId, merchantId,
      authorityBasis, sourceReference, sourceVersion, reason, waitingDurationSeconds, occurredAt,
      correlationId, causationId }

def parse (stored : StoredSnapshot) : Option CourierPickupView := do
  let pickup ← decodePickup stored.pickup
  let events ← stored.events.mapM decodeEvent
  let evidence ← stored.evidence.mapM decodeEvidence
  pure { pickup, events, evidence }

/-- Objects are compared up to the order of their keys, lists element by element. -/
def StoredSnapshot.Same (held other : StoredSnapshot) : Prop :=
  held.responseSchemaVersion = other.responseSchemaVersion ∧ held.pickup.Perm other.pickup ∧
    List.Forall₂ List.Perm held.events other.events ∧
    List.Forall₂ List.Perm held.evidence other.evidence
deriving Decidable

/-- `decode`: the parsed response must encode to the stored value again, within the size limit. -/
def decode (bytes : StoredSnapshot → Nat) (stored : StoredSnapshot) : Option CourierPickupView :=
  (parse stored).filter fun view =>
    stored.responseSchemaVersion = responseSchemaVersion ∧ stored.Same (snapshot view) ∧
      bytes (snapshot view) ≤ snapshotMaxBytes

@[simp] theorem asUuid_uuid {value : Uuid} : asUuid (Scalar.uuid value) = some value := rfl

@[simp] theorem asText_text {value : String} : asText (Scalar.text value) = some value := rfl

@[simp] theorem asTime_time {value : Instant} : asTime (Scalar.time value) = some value := rfl

@[simp] theorem asNat_ofNat {value : Nat} : asNat (Scalar.ofNat value) = some value := rfl

theorem asOption_ofOption {α : Type} (read : Scalar → Option α) (write : α → Scalar)
    (inverse : ∀ value, read (write value) = some value) (filled : ∀ value, write value ≠ .null)
    (value : Option α) : asOption read (Scalar.ofOption write value) = some value := by
  cases value with
  | none => rfl
  | some value =>
    have kept := inverse value
    have apart := filled value
    show asOption read (write value) = some (some value)
    unfold asOption
    split
    · rename_i null
      exact absurd null apart
    · rw [kept]
      rfl

@[simp] theorem asState_value (state : CourierPickupState) :
    asState (Scalar.text state.value) = some state := by
  cases state <;> decide

@[simp] theorem asReason_value (reason : CourierPickupExceptionReason) :
    asReason (Scalar.text reason.value) = some reason := by
  cases reason <;> decide

variable {kind : CourierPickupEvidenceKind}

@[simp] theorem asKind_value : asKind (Scalar.text kind.value) = some kind := by
  cases kind <;> decide

@[simp] theorem asEventType_value :
    asEventType (Scalar.text ("commerce.courier_pickup." ++ kind.value)) = some kind := by
  cases kind <;> decide

@[simp] theorem asOption_uuid {value : Option Uuid} :
    asOption asUuid (.ofOption .uuid value) = some value :=
  asOption_ofOption asUuid .uuid (fun _ => rfl) (fun _ null => by cases null) value

@[simp] theorem asOption_time {value : Option Instant} :
    asOption asTime (.ofOption .time value) = some value :=
  asOption_ofOption asTime .time (fun _ => rfl) (fun _ null => by cases null) value

@[simp] theorem asOption_nat {value : Option Nat} :
    asOption asNat (.ofOption .ofNat value) = some value :=
  asOption_ofOption asNat .ofNat (fun _ => rfl) (fun _ null => by cases null) value

@[simp] theorem asOption_state {value : Option CourierPickupState} :
    asOption asState (.ofOption (fun state => .text state.value) value) = some value :=
  asOption_ofOption asState _ asState_value (fun _ null => by cases null) value

@[simp] theorem asOption_reason {value : Option CourierPickupExceptionReason} :
    asOption asReason (.ofOption (fun reason => .text reason.value) value) = some value :=
  asOption_ofOption asReason _ asReason_value (fun _ null => by cases null) value

variable {stored written : Record}

end Ayo.CourierPickup.Idempotency
