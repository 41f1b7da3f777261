/- digest: The writers of the courier dispatch tables. -/

import Ayo.Courier.Store

namespace Ayo.CourierDispatch.Repository

open Kernel.UnitOfWork Kernel.Updates Core.Values Courier.Store Models
open CourierPickup.Models (CourierPickupRecord)

def putDispatch (change : DispatchStore → DispatchStore) : CourierTransaction Unit := do
  let store ← get
  put { store with dispatch := change store.dispatch }

def getRequest (dispatchId : Uuid) : CourierTransaction (Option CourierDispatchRequest) := do
  let store ← get
  pure (store.dispatch.requests.find dispatchId)

def viewOf (dispatches : DispatchStore) (dispatch : CourierDispatchRequest) :
    MerchantCourierDispatchView where
  dispatch
  events := (dispatches.events.filter fun event =>
    event.dispatchId = dispatch.dispatchId).insertionSort fun a b => a.version ≤ b.version
  offers := (dispatches.offers.rows.filter fun offer =>
    offer.dispatchId = dispatch.dispatchId).insertionSort fun a b =>
      a.attemptNumber ≤ b.attemptNumber
  assignments := (dispatches.assignments.rows.filter fun assignment =>
    assignment.dispatchId = dispatch.dispatchId).insertionSort fun a b =>
      a.attemptNumber ≤ b.attemptNumber

def required (dispatchId : Uuid) : CourierTransaction MerchantCourierDispatchView := do
  let store ← get
  let dispatch ← demand (store.dispatch.requests.find dispatchId)
    (.conflict "courier_dispatch_not_found")
  pure (viewOf store.dispatch dispatch)

def requestOfOrder? (dispatches : DispatchStore) (orderId : Uuid) : Option CourierDispatchRequest :=
  dispatches.requests.rows.find? fun request => request.orderId = orderId

structure StepRecord where
  eventType : DispatchEventType
  actorId : Option Uuid
  (correlationId causationId : Uuid)
  sourceEvidence : List CourierEligibilityEvidence

variable (draws : Draws)

def recordEvent (value : CourierDispatchRequest) (fromState : Option CourierDispatchState)
    (step : StepRecord) (time : Instant) : CourierTransaction Unit := do
  putDispatch fun dispatches =>
    { dispatches with
      events := dispatches.events ++
        [{ eventId := draws.event, dispatchId := value.dispatchId, orderId := value.orderId,
           eventType := step.eventType, fromState, toState := value.state,
           actorIdentityId := step.actorId, version := value.version, occurredAt := time,
           correlationId := step.correlationId, causationId := step.causationId }] }
  appendMessage
    { messageId := draws.message, orderId := value.orderId,
      eventType := .courierDispatch step.eventType, occurredAt := time }

def recordEvidence (value : CourierDispatchRequest) (step : StepRecord) (time : Instant) :
    CourierTransaction Unit :=
  putDispatch fun dispatches =>
    { dispatches with
      evidence := dispatches.evidence ++
        [{ evidenceId := draws.evidence, dispatchId := value.dispatchId,
           dispatchVersion := value.version, eventType := step.eventType,
           actorIdentityId := step.actorId, sourceEvidence := step.sourceEvidence,
           policyCode := value.policyCode, policyVersion := value.policyVersion,
           decisionOutcome := value.state, correlationId := step.correlationId,
           causationId := step.causationId, occurredAt := time }] }

structure ReadySource where
  (orderId merchantId : Uuid)
  ready : Bool

def readySource? (reads : CourierReads) (store : CourierStore) (messageId : Uuid) :
    Option ReadySource :=
  match reads.preparation messageId with
  | some source =>
    some
      { orderId := source.orderId, merchantId := source.merchantId,
        ready := source.eventType = "commerce.preparation.ready_for_pickup" ∧
          source.state = "ready_for_pickup" }
  | none =>
    (store.outbox.find messageId).bind fun message =>
      (store.orders.find message.orderId).map fun order =>
        { orderId := message.orderId, merchantId := order.merchantId,
          ready := message.eventType = .preparationReady }

def consumeReady (policy : DispatchPolicy) (draws : Draws) (reads : CourierReads)
    (messageId orderId merchantId : Uuid) (time : Instant) :
    CourierTransaction MerchantCourierDispatchView := do
  let store ← get
  let source ← demand (readySource? reads store messageId) (.conflict "readiness_event_invalid")
  require (source.orderId = orderId ∧ source.merchantId = merchantId ∧ source.ready = true)
    (.conflict "readiness_event_invalid")
  let request : CourierDispatchRequest :=
    { dispatchId := draws.row, orderId, merchantId, readinessMessageId := messageId,
      state := .waiting, version := 1, policyCode := policy.code, policyVersion := policy.version,
      attemptNumber := 0, activeOfferId := none, activeAssignmentId := none,
      offeredCourierIdentityId := none, assignedCourierIdentityId := none, createdAt := time,
      offeredAt := none, assignedAt := none, updatedAt := time }
  whenSome (store.dispatch.requests.insert? request) (fun requests => do
      putDispatch fun dispatches => { dispatches with requests }
      let step : StepRecord :=
        { eventType := .created, actorId := none, correlationId := messageId,
          causationId := messageId, sourceEvidence := [] }
      recordEvent draws request none step time
      recordEvidence draws request { step with eventType := .requested } time
      required request.dispatchId)
    (do
      let existing ← demand ((requestOfOrder? store.dispatch orderId).filter fun existing =>
        existing.readinessMessageId = messageId) (.conflict "readiness_event_conflict")
      pure (viewOf store.dispatch existing))

def requestText (action : CourierDispatchAction) (expectedVersion : Int) : Payload :=
  [("action", .text action.value), ("expected_version", .number expectedVersion)]

/-- Insert a reservation on conflict do nothing; a conflicting one is replayed while the version
that it led to is the current one. -/
def reserve (hash : Payload → Digest) (actorId dispatchId : Uuid) (key : String)
    (action : CourierDispatchAction) (expectedVersion : Int) (time : DateTime) :
    CourierTransaction (Option MerchantCourierDispatchView) := do
  let store ← get
  let requestHash := hash (requestText action expectedVersion)
  let row : DispatchReservation :=
    { actorIdentityId := actorId, dispatchId, operation := action, idempotencyKey := key,
      requestHash, responseVersion := none, createdAt := time.instant }
  whenSome (store.dispatch.idempotency.insert? row) (fun idempotency => do
      putDispatch fun dispatches => { dispatches with idempotency }
      pure none)
    (do
      let reserved ← demand (store.dispatch.idempotency.find (actorId, action, key))
        (.integrity "commerce_courier_dispatch_idempotency")
      require (reserved.dispatchId = dispatchId ∧ reserved.requestHash = requestHash)
        (.conflict "idempotency_conflict")
      let value ← required dispatchId
      require (reserved.responseVersion = some value.dispatch.version)
        (.conflict "idempotency_result_unavailable")
      pure (some value))

def Reserves (actorId dispatchId : Uuid) (operation : CourierDispatchAction) (key : String)
    (row : DispatchReservation) : Prop :=
  row.actorIdentityId = actorId ∧ row.dispatchId = dispatchId ∧ row.operation = operation ∧
    row.idempotencyKey = key
deriving Decidable

variable (current : CourierDispatchRequest)

def transition (change : RequestChange) (actorId : Uuid) (key : String)
    (operation : CourierDispatchAction) (step : StepRecord) :
    CourierTransaction MerchantCourierDispatchView := do
  let store ← get
  let stored ← demand ((store.dispatch.requests.find current.dispatchId).filter fun row =>
    row.state = current.state ∧ row.version = current.version)
    (.conflict "courier_dispatch_version_conflict")
  let updated := stored.changed current change
  let requests ← demand (store.dispatch.requests.replace? updated)
    (.integrity "commerce_courier_dispatch_requests")
  putDispatch fun dispatches => { dispatches with requests }
  recordEvent draws updated (some current.state) step change.time
  recordEvidence draws updated step change.time
  let idempotency ← demand (store.dispatch.idempotency.rewrite?
    (updateWhere (Reserves actorId current.dispatchId operation key) fun row =>
      { row with responseVersion := some (current.version + 1) }))
    (.integrity "commerce_courier_dispatch_idempotency")
  putDispatch fun dispatches => { dispatches with idempotency }
  required current.dispatchId

def offer (courierId actorId : Uuid) (target : CourierDispatchState) (key : String)
    (evidence : List CourierEligibilityEvidence) (expiresAt : Instant)
    (correlationId causationId : Uuid) (time : Instant) :
    CourierTransaction MerchantCourierDispatchView := do
  let store ← get
  let offers ← demand (store.dispatch.offers.insert?
    { offerId := draws.row, dispatchId := current.dispatchId,
      attemptNumber := current.attemptNumber + 1, courierIdentityId := courierId, state := .active,
      offeredAt := time, expiresAt, resolvedAt := none, resolutionActorIdentityId := none,
      resolutionReason := none, version := 1 }) (.integrity "courier_dispatch_offers")
  putDispatch fun dispatches => { dispatches with offers }
  transition draws current
    { target, offeredCourierIdentityId := some courierId, assignedCourierIdentityId := none,
      activeOfferId := some draws.row, activeAssignmentId := none,
      attemptNumber := current.attemptNumber + 1, time }
    actorId key .offer
    { eventType := .offerCreated, actorId := some actorId, correlationId, causationId,
      sourceEvidence := evidence }

def resolveOffer (offerId : Uuid) (condition : CourierOffer → Prop) [DecidablePred condition]
    (state : CourierOfferState) (actorId : Uuid) (reason : String) (time : Instant) :
    CourierTransaction CourierOffer := do
  let store ← get
  let active ← demand ((store.dispatch.offers.find offerId).filter fun offer =>
    offer.state = .active ∧ condition offer) (.conflict "offer_terminal_outcome_conflict")
  let offers ← demand (store.dispatch.offers.replace? (active.resolved state actorId reason time))
    (.integrity "courier_dispatch_offers")
  putDispatch fun dispatches => { dispatches with offers }
  pure active

def closeAssignment (assignmentId : Uuid) (state : CourierAssignmentState) (reason : String)
    (time : Instant) (failure : Failure) : CourierTransaction CourierAssignment := do
  let store ← get
  let standing ← demand ((store.dispatch.assignments.find assignmentId).filter fun assignment =>
    assignment.state = .assigned) failure
  let assignments ← demand (store.dispatch.assignments.replace? (standing.closed state reason time))
    (.integrity "courier_dispatch_assignments")
  putDispatch fun dispatches => { dispatches with assignments }
  pure standing

def assign (offerId courierId : Uuid) (time : Instant) : CourierTransaction Unit := do
  let store ← get
  let assignments ← demand (store.dispatch.assignments.insert?
    { assignmentId := draws.row, dispatchId := current.dispatchId, offerId,
      attemptNumber := current.attemptNumber, courierIdentityId := courierId, state := .assigned,
      assignedAt := time, closedAt := none, closeReason := none, version := 1 })
    (.integrity "courier_dispatch_assignments")
  putDispatch fun dispatches => { dispatches with assignments }

def acceptOffer (courierId : Uuid) (target : CourierDispatchState) (key : String)
    (correlationId causationId : Uuid) (time : Instant) :
    CourierTransaction MerchantCourierDispatchView := do
  let offerId ← demand current.activeOfferId (.conflict "active_offer_required")
  let _ ← resolveOffer offerId
    (fun offer => offer.courierIdentityId = courierId ∧ time < offer.expiresAt) .accepted courierId
    "accepted" time
  assign draws current offerId courierId time
  transition draws current
    { target, offeredCourierIdentityId := some courierId,
      assignedCourierIdentityId := some courierId, activeOfferId := none,
      activeAssignmentId := some draws.row, attemptNumber := current.attemptNumber, time }
    courierId key .accept
    { eventType := .offerAccepted, actorId := some courierId, correlationId, causationId,
      sourceEvidence := [] }

def declineOffer (courierId : Uuid) (target : CourierDispatchState) (key : String)
    (correlationId causationId : Uuid) (time : Instant) :
    CourierTransaction MerchantCourierDispatchView := do
  let offerId ← demand current.activeOfferId (.conflict "active_offer_required")
  let _ ← resolveOffer offerId
    (fun offer => offer.courierIdentityId = courierId ∧ time < offer.expiresAt) .declined courierId
    "declined" time
  transition draws current
    { target, offeredCourierIdentityId := none, assignedCourierIdentityId := none,
      activeOfferId := none, activeAssignmentId := none, attemptNumber := current.attemptNumber,
      time }
    courierId key .decline
    { eventType := .offerDeclined, actorId := some courierId, correlationId, causationId,
      sourceEvidence := [] }

structure AuthorityAction where
  target : CourierDispatchState
  actorId : Uuid
  (reason key : String)
  (correlationId causationId : Uuid)
  time : Instant

variable (action : AuthorityAction)

def carriedOver : RequestChange where
  target := action.target
  offeredCourierIdentityId := current.offeredCourierIdentityId
  assignedCourierIdentityId := current.assignedCourierIdentityId
  activeOfferId := current.activeOfferId
  activeAssignmentId := current.activeAssignmentId
  attemptNumber := current.attemptNumber
  time := action.time

variable (operation : CourierDispatchAction)

def authorityStep (change : RequestChange) (eventType : DispatchEventType) :
    CourierTransaction MerchantCourierDispatchView :=
  transition draws current change action.actorId action.key operation
    { eventType, actorId := some action.actorId, correlationId := action.correlationId,
      causationId := action.causationId, sourceEvidence := [] }

def expireOffer : CourierTransaction MerchantCourierDispatchView := do
  let offerId ← demand current.activeOfferId (.conflict "active_offer_required")
  let _ ← resolveOffer offerId (fun offer => offer.expiresAt ≤ action.time) .expired action.actorId
    action.reason action.time
  authorityStep draws current action .expire
    { carriedOver current action with offeredCourierIdentityId := none, activeOfferId := none }
    .offerExpired

def revokeOffer : CourierTransaction MerchantCourierDispatchView := do
  let offerId ← demand current.activeOfferId (.conflict "active_offer_required")
  let _ ← resolveOffer offerId (fun _ => True) .revoked action.actorId action.reason action.time
  authorityStep draws current action .revoke
    { carriedOver current action with offeredCourierIdentityId := none, activeOfferId := none }
    .offerRevoked

def releaseAssignment : CourierTransaction MerchantCourierDispatchView := do
  let assignmentId ← demand current.activeAssignmentId (.conflict "active_assignment_required")
  let _ ← closeAssignment assignmentId .released action.reason action.time
    (.conflict "assignment_release_conflict")
  authorityStep draws current action .release
    { carriedOver current action with
      assignedCourierIdentityId := none, activeAssignmentId := none }
    .assignmentReleased

def closeActive : CourierTransaction Unit := do
  whenSome current.activeOfferId (fun offerId => do
      let _ ← resolveOffer offerId (fun _ => True) .revoked action.actorId action.reason action.time
      pure ())
    (pure ())
  whenSome current.activeAssignmentId (fun assignmentId => do
      let _ ← closeAssignment assignmentId .cancelled action.reason action.time
        (.conflict "assignment_cancel_conflict")
      pure ())
    (pure ())

def cancelRequest : CourierTransaction MerchantCourierDispatchView := do
  closeActive current action
  authorityStep draws current action .cancel
    { carriedOver current action with
      offeredCourierIdentityId := none, assignedCourierIdentityId := none, activeOfferId := none,
      activeAssignmentId := none }
    .cancelled

def concludeUnfulfilled : CourierTransaction MerchantCourierDispatchView :=
  authorityStep draws current action .concludeUnfulfilled (carriedOver current action) .unfulfilled

def authorityTransition (action : AuthorityAction) :
    CourierTransaction MerchantCourierDispatchView := do
  require (3 ≤ action.reason.length ∧ action.reason.length ≤ 80)
    (.conflict "dispatch_reason_invalid")
  match operation with
  | .expire => expireOffer draws current action
  | .revoke => revokeOffer draws current action
  | .release => releaseAssignment draws current action
  | .cancel => cancelRequest draws current action
  | .concludeUnfulfilled => concludeUnfulfilled draws current action
  | .offer => throw (.conflict "dispatch_authority_action_invalid")
  | .accept => throw (.conflict "dispatch_authority_action_invalid")
  | .decline => throw (.conflict "dispatch_authority_action_invalid")

def RequestMatches (pickup : CourierPickupRecord) (dispatch : CourierDispatchRequest) : Prop :=
  dispatch.state = .assigned ∧ dispatch.orderId = pickup.orderId ∧
    dispatch.merchantId = pickup.merchantId ∧
    dispatch.activeAssignmentId = pickup.assignmentId ∧
    dispatch.assignedCourierIdentityId = some pickup.assignedCourierIdentityId
deriving Decidable

def AssignmentMatches (pickup : CourierPickupRecord) (assignment : CourierAssignment) : Prop :=
  assignment.dispatchId = pickup.dispatchId ∧
    assignment.courierIdentityId = pickup.assignedCourierIdentityId ∧
    assignment.state = .assigned ∧ assignment.version = pickup.assignmentVersion
deriving Decidable

def matchesCurrentAssignment (dispatches : DispatchStore) (pickup : CourierPickupRecord) : Bool :=
  ((dispatches.requests.find pickup.dispatchId).any fun dispatch =>
      RequestMatches pickup dispatch) &&
    ((pickup.assignmentId.bind dispatches.assignments.find).any fun assignment =>
      AssignmentMatches pickup assignment)

end Ayo.CourierDispatch.Repository
