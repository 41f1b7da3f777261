/- digest: The repositories of orders, decisions and preparation. -/

import Ayo.Kernel.Ordering
import Ayo.MerchantOrders.Models

namespace Ayo.MerchantOrders.Repository

open Kernel.UnitOfWork Kernel.KeyedTable Kernel.Ordering Kernel.Updates Core.Values Models

variable (store : OrderStore)

def linesOf (orderId : Uuid) : List OrderLineEvidence :=
  (orderedBy OrderLine.lineNumber
    (store.lines.filter fun line => line.orderId = orderId)).map OrderLine.evidence

def timelineOf (orderId : Uuid) : List OrderTimelineEvent :=
  orderedBy OrderTimelineEvent.orderVersion
    (store.timeline.filter fun event => event.orderId = orderId)

def preparationEventsOf (orderId : Uuid) : List PreparationEvent :=
  orderedBy PreparationEvent.orderVersion
    (store.preparationEvents.filter fun event => event.orderId = orderId)

@[mk_iff]
structure ReadableOrder (displayName : String) (lines : List OrderLineEvidence) (version : Nat) :
    Prop where
  name : 2 ≤ displayName.length ∧ displayName.length ≤ 120
  each : ∀ line ∈ lines, line.Valid
  count : 1 ≤ lines.length ∧ lines.length ≤ 50
  version : 1 ≤ version

instance (displayName : String) (lines : List OrderLineEvidence) (version : Nat) :
    Decidable (ReadableOrder displayName lines version) :=
  decidable_of_iff _ (readableOrder_iff displayName lines version).symm

/-- `PostgresOrderingRepository.reserve`. -/
def reserveOrder (row : OrderReservation) : OrderTransaction (Uuid × Bool) := do
  let store ← get
  match store.reservations.find row.name with
  | some found =>
    require (found.requestHash = row.requestHash) (.conflict "idempotency_conflict")
    pure (found.orderId, false)
  | none =>
    let reservations ← demand (store.reservations.insert? row)
      (.integrity "commerce_order_idempotency")
    put { store with reservations }
    pure (row.orderId, true)

variable (value : CanonicalOrder)

def CanonicalOrder.row (merchantVersion : Nat) : OrderRow where
  orderId := value.orderId
  customerIdentityId := value.customerIdentityId
  merchantId := value.merchantId
  merchantDisplayName := value.merchantDisplayName
  merchantVersion
  state := value.state
  version := value.version
  pricing := value.pricing
  availabilityEvaluationId := value.availabilityEvaluationId
  compositionHash := value.compositionHash
  accessInteractionId := value.accessInteractionId
  evidenceHash := value.evidenceHash
  createdAt := value.createdAt

variable (orderId : Uuid)

def lineRows (lines : List OrderLineEvidence) : List OrderLine :=
  lines.zipIdx.map fun line => ⟨orderId, line.2 + 1, line.1⟩

def createdEvent : OrderTimelineEvent where
  orderId := value.orderId
  merchantId := value.merchantId
  eventType := .created
  fromState := none
  toState := value.state
  actorIdentityId := some value.customerIdentityId
  orderVersion := value.version
  customerReasonCode := none
  occurredAt := value.createdAt

/-- `PostgresOrderingRepository.create`. -/
def insertOrder (merchantVersion : Nat) : OrderTransaction CanonicalOrder := do
  let store ← get
  let orders ← demand (store.orders.insert? (CanonicalOrder.row value merchantVersion))
    (.integrity "commerce_orders")
  put { store with
    orders
    lines := store.lines ++ lineRows value.orderId value.lines
    timeline := store.timeline ++ [createdEvent value] }
  pure value

def findOrder : OrderTransaction (Option CanonicalOrder) := do
  let store ← get
  match store.orders.find orderId with
  | none => pure none
  | some row =>
    require (ReadableOrder row.merchantDisplayName (linesOf store orderId) row.version)
      (.field "order")
    pure (some
      { orderId := row.orderId, customerIdentityId := row.customerIdentityId
        merchantId := row.merchantId, merchantDisplayName := row.merchantDisplayName
        state := row.state, lines := linesOf store orderId, pricing := row.pricing
        availabilityEvaluationId := row.availabilityEvaluationId
        compositionHash := row.compositionHash, accessInteractionId := row.accessInteractionId
        evidenceHash := row.evidenceHash, version := row.version, createdAt := row.createdAt })

def reserveAction (row : ActionReservation) (name : String) :
    Transaction (Table ActionReservation) Failure (Option Nat × Bool) := do
  let actions ← get
  match actions.find row.name with
  | some found =>
    require (found.requestHash = row.requestHash ∧ found.orderId = row.orderId)
      (.conflict "idempotency_conflict")
    pure (found.responseVersion, false)
  | none =>
    let inserted ← demand (actions.insert? row) (.integrity name)
    put inserted
    pure (none, true)

/-- `_finish_idempotency`: the response version of an action, where it has none yet. -/
def finishAction (actorIdentityId merchantId orderId : Uuid) (key : String) (version : Nat) :
    Transaction (Table ActionReservation) Failure Unit := do
  let actions ← get
  let finished ← demand (actions.rewrite? (updateWhere
      (fun row : ActionReservation => row.actorIdentityId = actorIdentityId ∧
        row.merchantId = merchantId ∧ row.orderId = orderId ∧ row.idempotencyKey = key ∧
        row.responseVersion = none)
      fun row => { row with responseVersion := some version }))
    (.integrity "idempotency")
  put finished

/-- `get_order`: the merchant reads an order without its composition. -/
def getOrder : OrderTransaction (Option CanonicalOrder) := do
  let store ← get
  match store.orders.find orderId with
  | none => pure none
  | some row =>
    require (ReadableOrder row.merchantDisplayName (linesOf store orderId) row.version)
      (.field "order")
    pure (some
      { orderId := row.orderId, customerIdentityId := row.customerIdentityId
        merchantId := row.merchantId, merchantDisplayName := row.merchantDisplayName
        state := row.state, lines := linesOf store orderId, pricing := row.pricing
        availabilityEvaluationId := none, compositionHash := none, accessInteractionId := none
        evidenceHash := row.evidenceHash, version := row.version, createdAt := row.createdAt })

variable (order : CanonicalOrder)

def CanonicalOrder.safe : MerchantOrderRecord where
  orderId := order.orderId
  merchantId := order.merchantId
  merchantDisplayName := order.merchantDisplayName
  state := order.state
  lines := order.lines
  pricing := order.pricing
  evidenceHash := order.evidenceHash
  version := order.version
  createdAt := order.createdAt

def getView : OrderTransaction (Option MerchantOrderView) := do
  let found ← getOrder orderId
  whenSome found (fun order => do
      let store ← get
      require (∀ event ∈ timelineOf store orderId, event.Valid) (.field "timeline")
      let rejection := store.rejections.find orderId
      require (∀ row ∈ rejection, row.Valid) (.field "rejection")
      if agrees : (order.state = .rejected) ↔ rejection.isSome = true then
        pure (some ⟨CanonicalOrder.safe order, timelineOf store orderId, rejection, agrees⟩)
      else throw (.value "rejection evidence must match rejected state"))
    (pure none)

def moveOrder (current : CanonicalOrder) (target : OrderState) : OrderTransaction Nat := do
  let store ← get
  let row ← demand ((store.orders.find current.orderId).filter fun row =>
      row.merchantId = current.merchantId ∧ row.state = current.state ∧
        row.version = current.version)
    (.conflict "order_version_conflict")
  let orders ← demand
    (store.orders.replace? { row with state := target, version := current.version + 1 })
    (.integrity "commerce_orders")
  put { store with orders }
  pure (current.version + 1)

def appendTimeline (event : OrderTimelineEvent) : OrderTransaction Unit := do
  require (∀ code ∈ event.customerReasonCode, code.length ≤ 63)
    (.integrity "commerce_order_timeline")
  let store ← get
  put { store with timeline := store.timeline ++ [event] }

structure RejectionText where
  (customerReasonCode customerMessage internalMerchantNote : Option String)

def insertRejection (orderId actorId : Uuid) (text : RejectionText) (time : DateTime) :
    OrderTransaction Unit := do
  let customerReasonCode ← demand text.customerReasonCode (.integrity "commerce_order_rejections")
  let customerMessage ← demand text.customerMessage (.integrity "commerce_order_rejections")
  let store ← get
  let rejections ← demand (store.rejections.insert?
      { orderId, customerReasonCode, customerMessage
        internalMerchantNote := text.internalMerchantNote, decidedByIdentityId := actorId
        decidedAt := time.instant })
    (.integrity "commerce_order_rejections")
  put { store with rejections }

def recordRejection (target : OrderState) (orderId actorId : Uuid) (text : RejectionText)
    (time : DateTime) : OrderTransaction Unit :=
  if target = .rejected then insertRejection orderId actorId text time else pure ()

/-- `transition`. -/
def transitionOrder (current : CanonicalOrder) (target : OrderState) (actorId : Uuid)
    (text : RejectionText) (key : String) (time : DateTime) :
    OrderTransaction MerchantOrderView := do
  let version ← moveOrder current target
  recordRejection target current.orderId actorId text time
  appendTimeline
    { orderId := current.orderId, merchantId := current.merchantId, eventType := .state target
      fromState := some current.state, toState := target, actorIdentityId := some actorId
      orderVersion := version, customerReasonCode := text.customerReasonCode
      occurredAt := time.instant }
  within OrderStore.actions (fun actions store => { store with actions })
    (finishAction actorId current.merchantId current.orderId key version)
  let view ← getView current.orderId
  demand view (.conflict "merchant_order_not_found")

def getRecord : OrderTransaction (Option PreparationRecord) := do
  let store ← get
  require (∀ row ∈ store.preparations.find orderId, row.Valid) (.field "preparation")
  pure (store.preparations.find orderId)

def getPreparationView : OrderTransaction (Option PreparationView) := do
  let found ← getView orderId
  whenSome found (fun order => do
      let store ← get
      let preparation ← getRecord orderId
      require (∀ event ∈ preparationEventsOf store orderId, event.Valid)
        (.field "preparation_events")
      pure (some ⟨order, preparation, preparationEventsOf store orderId⟩))
    (pure none)

def appendPreparation (event : PreparationEvent) (target : OrderState) : OrderTransaction Unit := do
  require ((∀ code ∈ event.delayReasonCode, code.length ≤ 63) ∧
      ∀ message ∈ event.delayMessage, message.length ≤ 240)
    (.integrity "commerce_preparation_events")
  let store ← get
  put { store with preparationEvents := store.preparationEvents ++ [event] }
  appendTimeline
    { orderId := order.orderId, merchantId := order.merchantId
      eventType := if order.state = target then .preparationProgress else .state target
      fromState := some order.state, toState := target
      actorIdentityId := some event.actorIdentityId, orderVersion := event.orderVersion
      customerReasonCode := none, occurredAt := event.occurredAt }

/-- `_required_view`, after the response version of the action is kept. -/
def finishPreparation (actorId : Uuid) (key : String) (version : Nat) :
    OrderTransaction PreparationView := do
  within OrderStore.preparationActions (fun preparationActions store =>
      { store with preparationActions })
    (finishAction actorId order.merchantId order.orderId key version)
  let view ← getPreparationView order.orderId
  demand view (.conflict "preparation_order_not_found")

def startPreparation (actorId : Uuid) (estimatedDurationSeconds : Int) (estimatedReadyAt : Instant)
    (key : String) (time : DateTime) : OrderTransaction PreparationView := do
  let version ← moveOrder order .preparing
  let store ← get
  require (60 ≤ estimatedDurationSeconds ∧ estimatedDurationSeconds ≤ 14400)
    (.integrity "commerce_preparation_estimate_bounds")
  let preparations ← demand (store.preparations.insert?
      { orderId := order.orderId, merchantId := order.merchantId, startedAt := time.instant
        estimatedDurationSeconds, estimatedReadyAt, progressPercent := 0
        latestDelayReasonCode := none, latestDelayMessage := none, updatedAt := time.instant
        readyAt := none })
    (.integrity "commerce_order_preparations")
  put { store with preparations }
  appendPreparation order
    { orderId := order.orderId, merchantId := order.merchantId, eventType := .started
      actorIdentityId := actorId, orderVersion := version, progressPercent := 0
      estimatedDurationSeconds := some estimatedDurationSeconds, delayReasonCode := none
      delayMessage := none, occurredAt := time.instant } .preparing
  finishPreparation order actorId key version

def updatePreparation (progressPercent : Int) (change : PreparationRecord → PreparationRecord) :
    OrderTransaction Unit := do
  let store ← get
  let row ← demand ((store.preparations.find orderId).filter fun row =>
      row.progressPercent = progressPercent ∧ row.readyAt = none)
    (.conflict "preparation_version_conflict")
  require (change row).Valid (.integrity "commerce_preparation_progress_bounds")
  let preparations ← demand (store.preparations.replace? (change row))
    (.integrity "commerce_order_preparations")
  put { store with preparations }

def progressPreparation (current : PreparationRecord) (progressPercent : Int) (actorId : Uuid)
    (delayReasonCode delayMessage : Option String) (key : String) (time : DateTime) :
    OrderTransaction PreparationView := do
  let version ← moveOrder order .preparing
  updatePreparation order.orderId current.progressPercent fun row =>
    { row with progressPercent, latestDelayReasonCode := delayReasonCode
               latestDelayMessage := delayMessage, updatedAt := time.instant }
  appendPreparation order
    { orderId := order.orderId, merchantId := order.merchantId, eventType := .progressUpdated
      actorIdentityId := actorId, orderVersion := version, progressPercent
      estimatedDurationSeconds := none, delayReasonCode, delayMessage
      occurredAt := time.instant } .preparing
  finishPreparation order actorId key version

def readyPreparation (current : PreparationRecord) (actorId : Uuid) (key : String) (time : DateTime)
    (target : OrderState) : OrderTransaction PreparationView := do
  let version ← moveOrder order target
  updatePreparation order.orderId current.progressPercent fun row =>
    { row with progressPercent := 100, updatedAt := time.instant, readyAt := some time.instant }
  appendPreparation order
    { orderId := order.orderId, merchantId := order.merchantId, eventType := .readyForPickup
      actorIdentityId := actorId, orderVersion := version, progressPercent := 100
      estimatedDurationSeconds := none, delayReasonCode := none, delayMessage := none
      occurredAt := time.instant } target
  finishPreparation order actorId key version

end Ayo.MerchantOrders.Repository
