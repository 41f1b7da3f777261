/- digest: The writers of courier pickups and the commands of courier and merchant. -/

import Ayo.Custody.Application

namespace Ayo.CourierPickup.Repository

open Kernel.UnitOfWork Core.Values Courier.Store
open CourierDispatch.Models (CourierAssignment CourierDispatchRequest)
open Models Idempotency

def putPickup (change : PickupStore → PickupStore) : CourierTransaction Unit := do
  let store ← get
  put { store with pickup := change store.pickup }

def getPickup (pickupId : Uuid) : CourierTransaction (Option CourierPickupRecord) := do
  let store ← get
  pure (store.pickup.pickups.find pickupId)

def viewOf (pickups : PickupStore) (pickup : CourierPickupRecord) : CourierPickupView where
  pickup
  events := (pickups.events.filter fun event =>
    event.pickupId = pickup.pickupId).insertionSort fun a b => a.version ≤ b.version
  evidence := (pickups.evidence.filter fun evidence =>
    evidence.pickupId = pickup.pickupId).insertionSort fun a b =>
      a.pickupVersion < b.pickupVersion ∨
        (a.pickupVersion = b.pickupVersion ∧ a.occurredAt ≤ b.occurredAt)

def required (pickupId : Uuid) : CourierTransaction CourierPickupView := do
  let store ← get
  let pickup ← demand (store.pickup.pickups.find pickupId) (.conflict "courier_pickup_not_found")
  pure (viewOf store.pickup pickup)

structure PickupStep where
  action : Option CourierPickupAction
  actorId : Option Uuid
  reason : Option CourierPickupExceptionReason
  authorityBasis : String
  sourceReference : Option Uuid
  sourceVersion : Option Nat
  actingForIdentityId : Option Uuid
  (correlationId causationId : Uuid)
  time : Instant

variable (draws : Draws) (value : CourierPickupRecord)

def stepEvidence (step : PickupStep) : CourierPickupEvidence where
  evidenceId := draws.evidence
  pickupId := value.pickupId
  pickupVersion := value.version
  kind := evidenceKind step.action
  actorIdentityId := step.actorId
  actingForIdentityId := step.actingForIdentityId
  merchantId := if step.action = some .acknowledgeArrival then some value.merchantId else none
  authorityBasis := step.authorityBasis
  sourceReference := step.sourceReference
  sourceVersion := step.sourceVersion
  reason := step.reason
  waitingDurationSeconds := if value.state = .waiting then value.waitingDurationSeconds else none
  occurredAt := step.time
  correlationId := step.correlationId
  causationId := step.causationId

def record (fromState : Option CourierPickupState) (step : PickupStep) : CourierTransaction Unit := do
  putPickup fun pickups =>
    { pickups with
      events := pickups.events ++
        [{ eventId := draws.event, pickupId := value.pickupId, orderId := value.orderId,
           eventType := evidenceKind step.action, fromState, toState := value.state,
           actorIdentityId := step.actorId, version := value.version, occurredAt := step.time,
           correlationId := step.correlationId, causationId := step.causationId }]
      evidence := pickups.evidence ++ [stepEvidence draws value step] }
  appendMessage
    { messageId := draws.message, orderId := value.orderId,
      eventType := .courierPickup (evidenceKind step.action), occurredAt := step.time }

structure AssignmentSource where
  message : OutboxMessage
  request : CourierDispatchRequest
  assignment : CourierAssignment

def assignmentSource? (store : CourierStore) (messageId dispatchId : Uuid) :
    Option AssignmentSource :=
  (store.outbox.find messageId).bind fun message =>
    ((store.dispatch.requests.find dispatchId).filter fun request =>
      request.orderId = message.orderId).bind fun request =>
        (request.activeAssignmentId.bind store.dispatch.assignments.find).map fun assignment =>
          { message, request, assignment }

def AssignmentSource.Announces (orderId : Uuid) (source : AssignmentSource) : Prop :=
  source.message.orderId = orderId ∧ (source.message.eventType = .courierDispatch .courierAssigned ∨
      source.message.eventType = .courierDispatch .offerAccepted) ∧
    source.assignment.state = .assigned
deriving Decidable

def pickupOfAssignment? (pickups : PickupStore) (assignmentId : Uuid) :
    Option CourierPickupRecord :=
  pickups.pickups.rows.find? fun pickup => pickup.assignmentId = some assignmentId

def AssignmentSource.pickup (source : AssignmentSource) (pickupId messageId : Uuid)
    (time : Instant) : CourierPickupRecord where
  pickupId
  dispatchId := source.request.dispatchId
  assignmentId := some source.assignment.assignmentId
  assignmentVersion := source.assignment.version
  attemptNumber := source.assignment.attemptNumber
  orderId := source.message.orderId
  merchantId := source.request.merchantId
  assignedCourierIdentityId := source.assignment.courierIdentityId
  assignmentMessageId := messageId
  policyCode := "AYO_COURIER_PICKUP_POLICY_V1"
  policyVersion := 1
  state := .assigned
  version := 1
  assignedAt := source.assignment.assignedAt
  travellingAt := none
  arrivedAt := none
  merchantAcknowledgedAt := none
  waitingDurationSeconds := none
  terminalReason := none
  custodyAcceptedAt := none
  updatedAt := time

def consumeAssignment (messageId dispatchId orderId : Uuid) (time : Instant) :
    CourierTransaction CourierPickupView := do
  let store ← get
  let source ← demand ((assignmentSource? store messageId dispatchId).filter
    (AssignmentSource.Announces orderId)) (.conflict "assignment_event_invalid")
  -- the insertion skips a conflict on the assignment, and no other one
  whenSome (pickupOfAssignment? store.pickup source.assignment.assignmentId) (fun existing => do
      require (existing.assignmentMessageId = messageId ∧
          existing.assignmentVersion = source.assignment.version)
        (.conflict "assignment_event_conflict")
      pure (viewOf store.pickup existing))
    (do
      let pickup := source.pickup draws.row messageId time
      let pickups ← demand (store.pickup.pickups.insert? pickup)
        (.integrity "commerce_courier_pickups")
      putPickup fun tables => { tables with pickups }
      record draws pickup none
        { action := none, actorId := none, reason := none,
          authorityBasis := "courier_dispatch_assignment",
          sourceReference := some source.assignment.assignmentId,
          sourceVersion := some source.assignment.version, actingForIdentityId := none,
          correlationId := dispatchId, causationId := messageId, time }
      required pickup.pickupId)

def Compatible (reserved : PickupReservation) : Prop :=
  reserved.digestVersion = 1 ∧ reserved.responseSchemaVersion = Idempotency.responseSchemaVersion ∧
    reserved.responseVersion.isSome = true ∧ reserved.responseSnapshot.isSome = true
deriving Decidable

def incompatible : Failure := .conflict "idempotency_record_incompatible"

def answerOf (bytes : StoredSnapshot → Nat) (pickupId : Uuid) (reserved : PickupReservation) :
    CourierTransaction CourierPickupView := do
  require (Compatible reserved) incompatible
  let answer ← demand (reserved.responseSnapshot.bind (decode bytes)) incompatible
  require (answer.pickup.pickupId = pickupId ∧
    reserved.responseVersion = some answer.pickup.version) incompatible
  pure answer

/-- Insert a reservation on conflict do nothing; a conflicting one must have the same hash, and
its stored answer is the replay. -/
def reserve (bytes : StoredSnapshot → Nat) (actorId pickupId : Uuid) (key : String)
    (action : CourierPickupAction) (requestHash : Digest) (time : Instant) :
    CourierTransaction (Option CourierPickupView) := do
  let store ← get
  let row : PickupReservation :=
    { actorIdentityId := actorId, pickupId, action, idempotencyKey := key, requestHash,
      digestVersion := 1, responseSchemaVersion := Idempotency.responseSchemaVersion,
      responseVersion := none, responseSnapshot := none, createdAt := time }
  whenSome (store.pickup.idempotency.insert? row) (fun idempotency => do
      putPickup fun pickups => { pickups with idempotency }
      pure none)
    (do
      let reserved ← demand (store.pickup.idempotency.find (actorId, action, key))
        (.integrity "commerce_courier_pickup_idempotency")
      require (reserved.pickupId = pickupId ∧ reserved.requestHash = requestHash)
        (.conflict "idempotency_conflict")
      let answer ← answerOf bytes pickupId reserved
      pure (some answer))

structure LocationEvidence where
  reference : Uuid
  version : Int
  observedAt : DateTime

def corroborate (step : PickupStep) (location : LocationEvidence) : CourierTransaction Unit := do
  -- the model that the evidence is read back with refuses other versions
  require (1 ≤ location.version) (.field "source_version")
  putPickup fun pickups =>
    { pickups with
      evidence := pickups.evidence ++
        [{ evidenceId := draws.secondEvidence, pickupId := value.pickupId,
           pickupVersion := value.version, kind := .locationCorroborated,
           actorIdentityId := step.actorId, actingForIdentityId := none, merchantId := none,
           authorityBasis := "source_owned_location_evidence",
           sourceReference := some location.reference,
           sourceVersion := some location.version.toNat, reason := none,
           waitingDurationSeconds := none, occurredAt := location.observedAt.instant,
           correlationId := step.correlationId, causationId := step.causationId }] }

def complete (actorId pickupId : Uuid) (action : CourierPickupAction) (key : String)
    (version : Nat) (answer : StoredSnapshot) : CourierTransaction Unit := do
  let store ← get
  let open_ ← demand ((store.pickup.idempotency.find (actorId, action, key)).filter fun row =>
    row.pickupId = pickupId ∧ row.responseVersion = none ∧ row.responseSnapshot = none)
    incompatible
  let idempotency ← demand (store.pickup.idempotency.replace?
    { open_ with responseVersion := some version, responseSnapshot := some answer })
    (.integrity "commerce_courier_pickup_idempotency")
  putPickup fun pickups => { pickups with idempotency }

def transition (bytes : StoredSnapshot → Nat) (draws : Draws) (current : CourierPickupRecord)
    (target : CourierPickupState) (action : CourierPickupAction) (actorId : Uuid) (key : String)
    (step : PickupStep) (location : Option LocationEvidence) :
    CourierTransaction CourierPickupView := do
  require (current.custodyAcceptedAt = none) (.conflict "pickup_authority_ended_at_custody")
  require (target = .endedBeforeCustody → step.reason.isSome = true)
    (.conflict "pickup_end_reason_required")
  let store ← get
  let stored ← demand ((store.pickup.pickups.find current.pickupId).filter fun row =>
    row.state = current.state ∧ row.version = current.version ∧ row.custodyAcceptedAt = none)
    (.conflict "courier_pickup_version_conflict")
  let updated := stored.moved current target action step.reason step.time
  let pickups ← demand (store.pickup.pickups.replace? updated)
    (.integrity "commerce_courier_pickups")
  putPickup fun tables => { tables with pickups }
  record draws updated (some current.state) step
  whenSome (if action = .markArrived then location else none)
    (fun location => corroborate draws updated step location) (pure ())
  let result ← required current.pickupId
  let answer ← demand (encode bytes result)
    (.value "Courier Pickup replay snapshot exceeds size limit")
  complete actorId current.pickupId action key (current.version + 1) answer
  pure result

end Ayo.CourierPickup.Repository

/-! The commands of the courier pickup service, for the courier and for the merchant. -/

namespace Ayo.CourierPickup.Application

open Kernel.UnitOfWork Core.Values Core.Authorization Courier.Store
open CourierDispatch.Repository (matchesCurrentAssignment)
open Models Idempotency Repository
open Custody.Repository (custodyOfOrder? activate requireExistingForPickup)

structure PickupRequest where
  pickupId : Uuid
  expectedVersion : Int
  action : CourierPickupAction
  idempotencyKey : String
  time : DateTime
  reason : Option CourierPickupExceptionReason
  (correlationId causationId : Option Uuid)

structure SuppliedLocation where
  reference : Option Uuid
  version : Option Int
  observedAt : Option DateTime

def SuppliedLocation.none : SuppliedLocation := ⟨.none, .none, .none⟩

def SuppliedLocation.evidence? (supplied : SuppliedLocation) : Option LocationEvidence :=
  supplied.reference.bind fun reference =>
    supplied.version.bind fun version =>
      supplied.observedAt.map fun observedAt => { reference, version, observedAt }

def SuppliedLocation.Given (supplied : SuppliedLocation) : Prop :=
  supplied.reference.isSome = true ∨ supplied.version.isSome = true ∨
    supplied.observedAt.isSome = true
deriving Decidable

variable (config : CourierConfig) (draws : Draws) (reads : CourierReads)
  (subject : AuthorizationSubject)

def utcTime (time : DateTime) : CourierTransaction Instant := utc "courier pickup" time

def courierPermission : CourierPickupAction → String
  | .correctArrival => "courier_pickup.correct_assigned"
  | .endAttempt => "courier_pickup.close_assigned"
  | _ => "courier_pickup.manage_assigned"

def merchantPermission : CourierPickupAction → String
  | .correctWaiting => "courier_pickup.correct_own_merchant"
  | .endAttempt => "courier_pickup.close_own_merchant"
  | _ => "courier_pickup.acknowledge_own_merchant"

def actingFor (merchantId : Option Uuid) (current : CourierPickupRecord)
    (action : CourierPickupAction) : CourierTransaction String :=
  whenSome merchantId (fun merchantId => do
      let merchant ← demand (reads.merchants merchantId) (.conflict "courier_pickup_unavailable")
      require (merchant.ownerIdentityId = subject.identityId ∧ current.merchantId = merchantId)
        (.conflict "courier_pickup_unavailable")
      require (merchant.state = .approved) (.conflict "merchant_unavailable")
      pure (merchantPermission action))
    (do
      require (current.assignedCourierIdentityId = subject.identityId)
        (.conflict "courier_pickup_unavailable")
      pure (courierPermission action))

def requireCurrentAssignment (current : CourierPickupRecord) : CourierTransaction Unit := do
  let store ← get
  require (matchesCurrentAssignment store.dispatch current = true)
    (.conflict "courier_pickup_assignment_invalid")

def digestOf (request : PickupRequest) (merchantId : Option Uuid) (supplied : SuppliedLocation)
    (current : CourierPickupRecord) (assignmentId : Uuid) : CourierPickupCommandDigest where
  pickupId := request.pickupId
  actorIdentityId := subject.identityId
  actingForIdentityId := none
  action := request.action
  expectedVersion := request.expectedVersion
  merchantId
  assignedCourierIdentityId := current.assignedCourierIdentityId
  assignmentId
  assignmentVersion := current.assignmentVersion
  locationEvidenceReference := supplied.reference
  locationEvidenceVersion := supplied.version
  locationEvidenceObservedAt := supplied.observedAt.map DateTime.instant
  reason := request.reason
  assignmentSourceReference := assignmentId
  assignmentSourceVersion := current.assignmentVersion
  pickupPolicyCode := current.policyCode
  pickupPolicyVersion := current.policyVersion

def trace (request : PickupRequest) (current : CourierPickupRecord) : Uuid × Uuid :=
  (request.correlationId.getD current.dispatchId, request.causationId.getD current.pickupId)

def stepOf (request : PickupRequest) (current : CourierPickupRecord) (permission : String)
    (instant : Instant) : PickupStep where
  action := some request.action
  actorId := some subject.identityId
  reason := request.reason
  authorityBasis := permission
  sourceReference := current.assignmentId
  sourceVersion := some current.assignmentVersion
  actingForIdentityId := none
  correlationId := (trace request current).1
  causationId := (trace request current).2
  time := instant

def custodyActivationConflict : Failure := .conflict "courier_pickup_custody_activation_conflict"

def requireReplayCustody (request : PickupRequest) : CourierTransaction Unit :=
  if request.action = .acknowledgeArrival then do
    let _ ← recast (requireExistingForPickup request.pickupId) custodyActivationConflict
    pure ()
  else
    pure ()

def activateCustody (request : PickupRequest) (instant : Instant) : CourierTransaction Unit :=
  if request.action = .acknowledgeArrival then do
    let _ ← recast (activate draws request.pickupId subject.identityId instant)
      custodyActivationConflict
    pure ()
  else
    pure ()

def checkAcknowledged (request : PickupRequest) (current : CourierPickupRecord) :
    CourierTransaction Unit :=
  if request.action = .acknowledgeArrival then requireCurrentAssignment current else pure ()

def proceed (request : PickupRequest) (supplied : SuppliedLocation) (permission : String)
    (instant : Instant) (current : CourierPickupRecord) : CourierTransaction CourierPickupView := do
  let store ← get
  require (custodyOfOrder? store.custody current.orderId = none)
    (.conflict "pickup_authority_ended_at_custody")
  require ((current.version : Int) = request.expectedVersion)
    (.conflict "courier_pickup_version_conflict")
  checkAcknowledged request current
  whenSome supplied.observedAt
    (fun observedAt => config.pickupPolicy.validateLocationEvidence observedAt instant) (pure ())
  let target ← demand (targetState current.state request.action)
    (.conflict "invalid_courier_pickup_transition")
  let result ← transition config.snapshotBytes draws current target request.action
    subject.identityId request.idempotencyKey (stepOf subject request current permission instant)
    supplied.evidence?
  appendAudit (successEvent draws subject "courier_pickup" request.action.value
    result.pickup.pickupId (trace request current).1 (trace request current).2
    result.pickup.state.value request.idempotencyKey)
  activateCustody draws subject request instant
  pure result

def checkAdmission (request : PickupRequest) (merchantId : Option Uuid) (supplied : SuppliedLocation)
    (instant : Instant) (current : CourierPickupRecord) : CourierTransaction (String × Uuid) := do
  let permission ← actingFor reads subject merchantId current request.action
  let allowed ← hasPermission reads.grants subject.identityId permission (.utc instant)
  require (allowed = true) (.conflict "access_denied")
  let assignmentId ← demand current.assignmentId (.conflict "courier_pickup_assignment_invalid")
  if merchantId = none then requireCurrentAssignment current else pure ()
  require (∀ observedAt ∈ supplied.observedAt, observedAt.aware = true)
    (.value "idempotency timestamps must be timezone-aware")
  pure (permission, assignmentId)

def commandOn (request : PickupRequest) (merchantId : Option Uuid) (supplied : SuppliedLocation) :
    CourierTransaction CourierPickupView := do
  let instant ← utcTime request.time
  let found ← getPickup request.pickupId
  let current ← demand found (.conflict "courier_pickup_unavailable")
  let admitted ← checkAdmission reads subject request merchantId supplied instant current
  let replay ← reserve config.snapshotBytes subject.identityId request.pickupId
    request.idempotencyKey request.action
    (config.hash (digestOf subject request merchantId supplied current admitted.2).canonical)
    instant
  whenSome replay (fun answer => do
      requireReplayCustody request
      pure answer)
    (proceed config draws subject request supplied admitted.1 instant current)

def courierActions : List CourierPickupAction :=
  [.startTravel, .markArrived, .correctArrival, .endAttempt]

def courierEndReasons : List CourierPickupExceptionReason :=
  [.courierUnable, .merchantLocationUnreachable, .merchantNotFound, .merchantUnavailable,
   .orderNotReady, .otherReview]

def courierCommand (request : PickupRequest) (supplied : SuppliedLocation) :
    CourierTransaction CourierPickupView := do
  require (request.action ∈ courierActions) (.conflict "merchant_acknowledgement_required")
  require (request.action = .endAttempt → ∃ reason ∈ request.reason, reason ∈ courierEndReasons)
    (.conflict "pickup_end_reason_not_permitted")
  require (supplied.Given → request.action = .markArrived ∧ supplied.evidence?.isSome = true)
    (.conflict "location_evidence_invalid")
  commandOn config draws reads subject request none supplied

def merchantActions : List CourierPickupAction :=
  [.acknowledgeArrival, .correctWaiting, .endAttempt]

def merchantAcknowledge (merchantId : Uuid) (request : PickupRequest) :
    CourierTransaction CourierPickupView := do
  require (request.action ∈ merchantActions) (.conflict "merchant_acknowledgement_action_required")
  commandOn config draws reads subject request (some merchantId) .none

def consumeAssignment (messageId dispatchId orderId : Uuid) (time : DateTime) :
    CourierTransaction CourierPickupView :=
  Repository.consumeAssignment draws messageId dispatchId orderId time.instant

inductive PickupCommand where
  | consumeAssignment (messageId dispatchId orderId : Uuid) (time : DateTime)
  | courierCommand (request : PickupRequest) (supplied : SuppliedLocation)
  | merchantAcknowledge (merchantId : Uuid) (request : PickupRequest)

def PickupCommand.body : PickupCommand → CourierTransaction CourierPickupView
  | .consumeAssignment messageId dispatchId orderId time =>
    Application.consumeAssignment draws messageId dispatchId orderId time
  | .courierCommand request supplied =>
    Application.courierCommand config draws reads subject request supplied
  | .merchantAcknowledge merchantId request =>
    Application.merchantAcknowledge config draws reads subject merchantId request

end Ayo.CourierPickup.Application
