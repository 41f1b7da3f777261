/- digest: The writers of deliveries, the service, and the messages it consumes. -/

import Ayo.Courier.Store

namespace Ayo.DeliveryVerification.Repository

open Kernel.UnitOfWork Kernel.Updates Core.Values Courier.Store
open Custody.Models (CustodyRecord)
open Models

def putDelivery (change : DeliveryStore → DeliveryStore) : CourierTransaction Unit := do
  let store ← get
  put { store with delivery := change store.delivery }

def getDelivery (deliveryId : Uuid) : CourierTransaction (Option DeliveryRecord) := do
  let store ← get
  pure (store.delivery.deliveries.find deliveryId)

def credentialOf (orderId : Uuid) : CourierTransaction DeliveryCredential := do
  let store ← get
  demand (store.delivery.credentials.rows.find? fun credential => credential.orderId = orderId)
    (.conflict "delivery_credential_not_found")

def required (deliveryId : Uuid) : CourierTransaction DeliveryView := do
  let found ← getDelivery deliveryId
  let delivery ← demand found (.conflict "delivery_not_found")
  let credential ← credentialOf delivery.orderId
  let store ← get
  pure
    { delivery, credential, events := (store.delivery.events.filter fun event =>
        event.deliveryId = deliveryId).insertionSort fun a b => a.version ≤ b.version }

def Confirms (store : CourierStore) (orderId : Uuid) (message : OutboxMessage) : Prop :=
  message.orderId = orderId ∧ message.eventType = .orderCreated ∧
    (store.orders.find orderId).isSome = true
deriving Decidable

def createCredential (draws : Draws) (messageId orderId : Uuid) (codeHash : Digest)
    (expiresAt time : Instant) : CourierTransaction DeliveryCredential := do
  let store ← get
  let _ ← demand ((store.outbox.find messageId).filter (Confirms store orderId))
    (.conflict "order_confirmation_event_invalid")
  whenSome (store.delivery.credentials.insert?
      { credentialId := draws.row, orderId, sourceMessageId := messageId,
        orderNumber := orderNumber orderId, codeHash, expiresAt, usedAt := none,
        createdAt := time })
    (fun credentials => putDelivery fun tables => { tables with credentials })
    (pure ())
  credentialOf orderId

def AcceptedFor (orderId : Uuid) (custody : CustodyRecord) : Prop :=
  custody.orderId = orderId ∧ custody.state = .accepted
deriving Decidable

def AnnouncesCustody (orderId : Uuid) (message : OutboxMessage) : Prop :=
  message.orderId = orderId ∧ message.eventType = .custody (.entered .accepted)
deriving Decidable

def activate (draws : Draws) (messageId custodyId orderId : Uuid) (time : Instant) :
    CourierTransaction DeliveryView := do
  let store ← get
  let custody ← demand ((store.custody.records.find custodyId).filter (AcceptedFor orderId))
    (.conflict "custody_accepted_event_invalid")
  let _ ← demand ((store.outbox.find messageId).filter (AnnouncesCustody orderId))
    (.conflict "custody_accepted_event_invalid")
  let credential ← credentialOf orderId
  whenSome (store.delivery.deliveries.insert?
      { deliveryId := draws.row, custodyId, orderId, merchantId := custody.merchantId,
        courierIdentityId := custody.courierIdentityId, credentialId := credential.credentialId,
        sourceMessageId := messageId, state := .arriving, version := 1, arrivingAt := some time,
        customerAvailableAt := none, verifiedAt := none, verificationMethod := none,
        customerReceivedAt := none, completedAt := none, closedAt := none, updatedAt := time })
    (fun deliveries => putDelivery fun tables => { tables with deliveries })
    (pure ())
  let after ← get
  let delivery ← demand (after.delivery.deliveries.rows.find? fun delivery =>
    delivery.orderId = orderId) (.integrity "commerce_deliveries")
  required delivery.deliveryId

/-- Insert a reservation on conflict do nothing; a conflicting one is replayed while the version
that it led to is the current one. -/
def reserve (hash : Payload → Digest) (actorId deliveryId : Uuid) (key : String)
    (payload : Payload) (time : DateTime) : CourierTransaction (Option DeliveryView) := do
  let store ← get
  let row : DeliveryReservation :=
    { actorIdentityId := actorId, deliveryId, idempotencyKey := key, requestHash := hash payload,
      responseVersion := none, createdAt := time.instant }
  whenSome (store.delivery.idempotency.insert? row) (fun idempotency => do
      putDelivery fun tables => { tables with idempotency }
      pure none)
    (do
      let reserved ← demand (store.delivery.idempotency.find (actorId, key))
        (.integrity "commerce_delivery_idempotency")
      require (reserved.deliveryId = deliveryId ∧ reserved.requestHash = hash payload)
        (.conflict "idempotency_conflict")
      let value ← required deliveryId
      require (reserved.responseVersion = some value.delivery.version)
        (.conflict "idempotency_result_unavailable")
      pure (some value))

def Reserves (actorId deliveryId : Uuid) (key : String) (row : DeliveryReservation) : Prop :=
  row.actorIdentityId = actorId ∧ row.deliveryId = deliveryId ∧ row.idempotencyKey = key
deriving Decidable

structure StepIds where
  (event message : Uuid)

def recordStep (event : DeliveryEvent) (orderId messageId : Uuid) : CourierTransaction Unit := do
  putDelivery fun tables => { tables with events := tables.events ++ [event] }
  appendMessage
    { messageId, orderId, eventType := .delivery event.eventType, occurredAt := event.occurredAt }

def enter (ids : StepIds) (current : DeliveryRecord) (target : DeliveryState) (actorId : Uuid)
    (key : String) (time : Instant) (stamp : DeliveryStamp) : CourierTransaction DeliveryView := do
  let store ← get
  let stored ← demand ((store.delivery.deliveries.find current.deliveryId).filter fun row =>
    row.state = current.state ∧ row.version = current.version)
    (.conflict "delivery_version_conflict")
  let deliveries ← demand
    (store.delivery.deliveries.replace? (stored.entered current target stamp time))
    (.integrity "commerce_deliveries")
  putDelivery fun tables => { tables with deliveries }
  recordStep
    { eventId := ids.event, deliveryId := current.deliveryId, eventType := target,
      fromState := some current.state, toState := target, actorIdentityId := actorId,
      version := current.version + 1, occurredAt := time }
    current.orderId ids.message
  let idempotency ← demand (store.delivery.idempotency.rewrite?
    (updateWhere (Reserves actorId current.deliveryId key) fun row =>
      { row with responseVersion := some (current.version + 1) }))
    (.integrity "commerce_delivery_idempotency")
  putDelivery fun tables => { tables with idempotency }
  required current.deliveryId

def transition (ids : StepIds) (current : DeliveryRecord) (target : DeliveryState) (actorId : Uuid)
    (key : String) (time : Instant) : CourierTransaction DeliveryView := do
  let stamp ← demand (DeliveryStamp.ofTarget? target) (.value "delivery target")
  enter ids current target actorId key time stamp

def Answers (codeHash : Digest) (time : Instant) (credential : DeliveryCredential) : Prop :=
  credential.codeHash = codeHash ∧ credential.usedAt = none ∧ time ≤ credential.expiresAt
deriving Decidable

def verify (ids : StepIds) (current : DeliveryRecord) (target : DeliveryState) (actorId : Uuid)
    (codeHash : Digest) (method : DeliveryVerificationMethod) (key : String) (time : Instant) :
    CourierTransaction DeliveryView := do
  let store ← get
  let credential ← demand
    ((store.delivery.credentials.find current.credentialId).filter (Answers codeHash time))
    (.conflict "delivery_credential_invalid_expired_or_used")
  let credentials ← demand
    (store.delivery.credentials.replace? { credential with usedAt := some time })
    (.integrity "commerce_delivery_credentials")
  putDelivery fun tables => { tables with credentials }
  enter ids current target actorId key time (.verified method)

end Ayo.DeliveryVerification.Repository

/-! The commands of the delivery verification service, and the order messages that it consumes. -/

namespace Ayo.DeliveryVerification.Application

open Kernel.UnitOfWork Core.Values Core.Authorization Courier.Store Models Repository

structure DeliveryRequest where
  deliveryId : Uuid
  expectedVersion : Int
  action : DeliveryAction
  idempotencyKey : String
  time : DateTime
  code : Option String
  method : Option DeliveryVerificationMethod

structure ReceiptRequest where
  deliveryId : Uuid
  expectedVersion : Int
  idempotencyKey : String
  time : DateTime

variable (config : CourierConfig) (draws : Draws) (subject : AuthorizationSubject)

def consumeOrderConfirmed (messageId orderId : Uuid) (time : DateTime) :
    CourierTransaction DeliveryCredential :=
  createCredential draws messageId orderId (config.deliveryDigest (config.deliveryCode orderId))
    (time.instant + config.credentialDays * 86400000000) time.instant

def consumeCustodyAccepted (messageId custodyId orderId : Uuid) (time : DateTime) :
    CourierTransaction DeliveryView :=
  activate draws messageId custodyId orderId time.instant

def checkVersion (current : DeliveryRecord) (expectedVersion : Int) : CourierTransaction Unit :=
  require ((current.version : Int) = expectedVersion) (.conflict "delivery_version_conflict")

def checkTarget (current : DeliveryRecord) (action : DeliveryAction) :
    CourierTransaction DeliveryState :=
  demand (targetState current.state action) (.conflict "invalid_delivery_transition")

def requestText (request : DeliveryRequest) : Payload :=
  [("action", .text request.action.value), ("expected_version", .number request.expectedVersion),
   ("code", .number (config.deliveryDigest (request.code.getD ""))),
   ("method", .text (request.method.elim "" DeliveryVerificationMethod.value))]

def firstStep : StepIds := ⟨draws.event, draws.message⟩

def secondStep : StepIds := ⟨draws.secondEvent, draws.secondMessage⟩

def close (request : DeliveryRequest) (completed : DeliveryRecord) :
    CourierTransaction DeliveryView := do
  let target ← checkTarget completed .close
  transition (secondStep draws) completed target subject.identityId request.idempotencyKey
    request.time.instant

def advance (request : DeliveryRequest) (current : DeliveryRecord) :
    CourierTransaction DeliveryView := do
  require (request.action = .customerAvailable ∨ request.action = .complete)
    (.conflict "unsupported_delivery_action")
  let target ← checkTarget current request.action
  let result ← transition (firstStep draws) current target subject.identityId
    request.idempotencyKey request.time.instant
  if request.action = .complete then close draws subject request result.delivery else pure result

def proceed (request : DeliveryRequest) (current : DeliveryRecord) :
    CourierTransaction DeliveryView := do
  checkVersion current request.expectedVersion
  if request.action = .verify then do
    let code ← demand (request.code.filter fun code => code ≠ "")
      (.conflict "delivery_credential_required")
    let method ← demand request.method (.conflict "delivery_credential_required")
    let target ← checkTarget current request.action
    verify (firstStep draws) current target subject.identityId (config.deliveryDigest code) method
      request.idempotencyKey request.time.instant
  else
    advance draws subject request current

def command (request : DeliveryRequest) : CourierTransaction DeliveryView := do
  let found ← getDelivery request.deliveryId
  let current ← demand found (.conflict "delivery_not_found")
  require (current.courierIdentityId = subject.identityId) (.conflict "access_denied")
  let replay ← reserve config.hash subject.identityId request.deliveryId request.idempotencyKey
    (requestText config request) request.time
  whenSome replay (fun stored => pure stored) (proceed config draws subject request current)

def receive (request : ReceiptRequest) (current : DeliveryRecord) :
    CourierTransaction DeliveryView := do
  checkVersion current request.expectedVersion
  let target ← checkTarget current .confirmReceived
  transition (firstStep draws) current target subject.identityId request.idempotencyKey
    request.time.instant

def customerReceived (request : ReceiptRequest) : CourierTransaction DeliveryView := do
  let found ← getDelivery request.deliveryId
  let current ← demand found (.conflict "delivery_not_found")
  let store ← get
  let order ← demand (store.orders.find current.orderId) (.conflict "access_denied")
  require (order.customerIdentityId = subject.identityId) (.conflict "access_denied")
  let replay ← reserve config.hash subject.identityId request.deliveryId request.idempotencyKey
    [("received", .number request.expectedVersion)] request.time
  whenSome replay (fun stored => pure stored) (receive draws subject request current)

inductive DeliveryCommand where
  | consumeOrderConfirmed (messageId orderId : Uuid) (time : DateTime)
  | consumeCustodyAccepted (messageId custodyId orderId : Uuid) (time : DateTime)
  | command (request : DeliveryRequest)
  | customerReceived (request : ReceiptRequest)

def DeliveryCommand.body : DeliveryCommand → CourierTransaction Unit
  | .consumeOrderConfirmed messageId orderId time => do
    let _ ← Application.consumeOrderConfirmed config draws messageId orderId time
    pure ()
  | .consumeCustodyAccepted messageId custodyId orderId time => do
    let _ ← Application.consumeCustodyAccepted draws messageId custodyId orderId time
    pure ()
  | .command request => do
    let _ ← Application.command config draws subject request
    pure ()
  | .customerReceived request => do
    let _ ← Application.customerReceived config draws subject request
    pure ()

end Ayo.DeliveryVerification.Application
