/- digest: The writers of the custody tables, and the commands of the custody service. -/

import Ayo.CourierDispatch.Repository

namespace Ayo.Custody.Repository

open Kernel.UnitOfWork Kernel.Updates Core.Values Courier.Store
open CourierPickup.Models (CourierPickupRecord)
open Models

def putCustody (change : CustodyStore → CustodyStore) : CourierTransaction Unit := do
  let store ← get
  put { store with custody := change store.custody }

variable (custodyId : Uuid)

def getCustody : CourierTransaction (Option CustodyRecord) := do
  let store ← get
  pure (store.custody.records.find custodyId)

def custodyOfOrder? (custodies : CustodyStore) (orderId : Uuid) : Option CustodyRecord :=
  custodies.records.rows.find? fun custody => custody.orderId = orderId

def viewOf (custodies : CustodyStore) (custody : CustodyRecord) : CustodyView where
  custody
  challenge := ((custodies.challenges.rows.filter fun challenge =>
    challenge.custodyId = custody.custodyId).insertionSort fun a b =>
      b.createdAt ≤ a.createdAt).head?
  events := (custodies.events.filter fun event =>
    event.custodyId = custody.custodyId).insertionSort fun a b => a.version ≤ b.version

def required : CourierTransaction CustodyView := do
  let store ← get
  let custody ← demand (store.custody.records.find custodyId) (.conflict "custody_not_found")
  pure (viewOf store.custody custody)

def recordStep (event : CustodyEvent) (messageId : Uuid) : CourierTransaction Unit := do
  putCustody fun custodies => { custodies with events := custodies.events ++ [event] }
  appendMessage
    { messageId, orderId := event.orderId, eventType := .custody event.eventType,
      occurredAt := event.occurredAt }

def BoundTo (pickup : CourierPickupRecord) (custody : CustodyRecord) : Prop :=
  custody.pickupId = pickup.pickupId ∧ custody.orderId = pickup.orderId ∧
    custody.merchantId = pickup.merchantId ∧
    custody.courierIdentityId = pickup.assignedCourierIdentityId
deriving Decidable

def requireBinding (existing : Option CustodyRecord) (pickup : CourierPickupRecord) :
    CourierTransaction CustodyView := do
  let bound ← demand (existing.filter (BoundTo pickup)) (.conflict "custody_activation_conflict")
  let store ← get
  pure (viewOf store.custody bound)

def waitingPickup (pickupId : Uuid) : CourierTransaction CourierPickupRecord := do
  let store ← get
  demand ((store.pickup.pickups.find pickupId).filter fun pickup => pickup.state = .waiting)
    (.conflict "pickup_not_waiting")

variable (draws : Draws)

def activate (pickupId actorIdentityId : Uuid) (time : Instant) :
    CourierTransaction CustodyView := do
  let pickup ← waitingPickup pickupId
  let store ← get
  whenSome (store.custody.records.insert?
      { custodyId := draws.secondRow, pickupId, orderId := pickup.orderId,
        merchantId := pickup.merchantId, courierIdentityId := pickup.assignedCourierIdentityId,
        state := .waiting, version := 1, sealedAt := none, verifiedAt := none,
        verificationMethod := none, merchantReleasedAt := none, custodyAcceptedAt := none,
        updatedAt := time })
    (fun records => do
      putCustody fun custodies => { custodies with records }
      recordStep
        { eventId := draws.secondEvent, custodyId := draws.secondRow, orderId := pickup.orderId,
          eventType := .activated, fromState := .waiting, toState := .waiting, actorIdentityId,
          version := 1, occurredAt := time }
        draws.secondMessage
      required draws.secondRow)
    (requireBinding (custodyOfOrder? store.custody pickup.orderId) pickup)

def requireExistingForPickup (pickupId : Uuid) : CourierTransaction CustodyView := do
  let pickup ← waitingPickup pickupId
  let store ← get
  let existing ← demand (custodyOfOrder? store.custody pickup.orderId)
    (.conflict "custody_replay_record_missing")
  requireBinding (some existing) pickup

/-- Insert a reservation on conflict do nothing; a conflicting one is replayed while the version
that it led to is the current one. -/
def reserve (hash : Payload → Digest) (actorId custodyId : Uuid) (key : String) (payload : Payload)
    (time : DateTime) : CourierTransaction (Option CustodyView) := do
  let store ← get
  let row : CustodyReservation :=
    { actorIdentityId := actorId, custodyId, idempotencyKey := key, requestHash := hash payload,
      responseVersion := none, createdAt := time.instant }
  whenSome (store.custody.idempotency.insert? row) (fun idempotency => do
      putCustody fun custodies => { custodies with idempotency }
      pure none)
    (do
      let reserved ← demand (store.custody.idempotency.find (actorId, key))
        (.integrity "commerce_custody_idempotency")
      require (reserved.custodyId = custodyId ∧ reserved.requestHash = hash payload)
        (.conflict "idempotency_conflict")
      let result ← required custodyId
      require (reserved.responseVersion = some result.custody.version)
        (.conflict "idempotency_result_unavailable")
      pure (some result))

def Reserves (actorId custodyId : Uuid) (key : String) (row : CustodyReservation) : Prop :=
  row.actorIdentityId = actorId ∧ row.custodyId = custodyId ∧ row.idempotencyKey = key
deriving Decidable

variable (current : CustodyRecord) (target : CustodyState) (actorId : Uuid)

def enter (key : String) (time : Instant) (stamp : CustodyStamp) :
    CourierTransaction CustodyView := do
  let store ← get
  let stored ← demand ((store.custody.records.find current.custodyId).filter fun row =>
    row.state = current.state ∧ row.version = current.version)
    (.conflict "custody_version_conflict")
  let records ← demand (store.custody.records.replace? (stored.entered current target stamp time))
    (.integrity "commerce_custody_records")
  putCustody fun custodies => { custodies with records }
  recordStep
    { eventId := draws.event, custodyId := current.custodyId, orderId := current.orderId,
      eventType := .entered target, fromState := current.state, toState := target,
      actorIdentityId := actorId, version := current.version + 1, occurredAt := time }
    draws.message
  let idempotency ← demand (store.custody.idempotency.rewrite?
    (updateWhere (Reserves actorId current.custodyId key) fun row =>
      { row with responseVersion := some (current.version + 1) }))
    (.integrity "commerce_custody_idempotency")
  putCustody fun custodies => { custodies with idempotency }
  required current.custodyId

variable (codeHash : Digest)

def sealOrder (expiresAt : Instant) (key : String) (time : Instant) :
    CourierTransaction CustodyView := do
  let _ ← enter draws current target actorId key time .sealed
  let store ← get
  let challenges ← demand (store.custody.challenges.insert?
    { challengeId := draws.row, custodyId := current.custodyId, codeHash, expiresAt,
      usedAt := none, createdAt := time }) (.integrity "commerce_custody_challenges")
  putCustody fun custodies => { custodies with challenges }
  required current.custodyId

def Answers (time : Instant) (challenge : PickupChallenge) : Prop :=
  challenge.custodyId = custodyId ∧ challenge.codeHash = codeHash ∧ challenge.usedAt = none ∧
    time ≤ challenge.expiresAt
deriving Decidable

def verify (method : VerificationMethod) (key : String) (time : Instant) :
    CourierTransaction CustodyView := do
  let store ← get
  let challenge ← demand
    (store.custody.challenges.rows.find? (Answers current.custodyId codeHash time))
    (.conflict "pickup_code_invalid_or_expired")
  let challenges ← demand (store.custody.challenges.replace? { challenge with usedAt := some time })
    (.integrity "commerce_custody_challenges")
  putCustody fun custodies => { custodies with challenges }
  enter draws current target actorId key time (.verified method)

def transition (key : String) (time : Instant) : CourierTransaction CustodyView :=
  enter draws current target actorId key time (if target = .released then .released else .accepted)

end Ayo.Custody.Repository

/-! The commands of the custody service. -/

namespace Ayo.Custody.Application

open Kernel.UnitOfWork Core.Values Core.Authorization Courier.Store
open CourierDispatch.Repository (matchesCurrentAssignment)
open Models Repository

structure SealRequest where
  (merchantId custodyId : Uuid)
  expectedVersion : Int
  idempotencyKey : String
  time : DateTime

structure CustodyRequest where
  custodyId : Uuid
  expectedVersion : Int
  action : CustodyAction
  idempotencyKey : String
  time : DateTime
  code : Option String
  method : Option VerificationMethod
  merchantId : Option Uuid

structure IssuedPickupCode where
  view : CustodyView
  displayCode : String

variable (config : CourierConfig) (draws : Draws) (reads : CourierReads)
  (subject : AuthorizationSubject)

def requireMerchant (merchantId : Uuid) : CourierTransaction Unit := do
  let merchant ← demand (reads.merchants merchantId) (.conflict "access_denied")
  require (merchant.ownerIdentityId = subject.identityId) (.conflict "access_denied")
  require (merchant.state = .approved) (.conflict "merchant_unavailable")

def requireCurrentAssignment (current : CustodyRecord) : CourierTransaction Unit := do
  let store ← get
  let pickup ← demand (store.pickup.pickups.find current.pickupId) (.conflict "custody_not_found")
  require (pickup.state = .waiting ∧ pickup.orderId = current.orderId ∧
      pickup.merchantId = current.merchantId ∧
      pickup.assignedCourierIdentityId = subject.identityId ∧
      current.courierIdentityId = subject.identityId)
    (.conflict "custody_not_found")
  require (matchesCurrentAssignment store.dispatch pickup = true) (.conflict "custody_not_found")

def checkVersion (current : CustodyRecord) (expectedVersion : Int) : CourierTransaction Unit :=
  require ((current.version : Int) = expectedVersion) (.conflict "custody_version_conflict")

def checkTarget (current : CustodyRecord) (action : CustodyAction) :
    CourierTransaction CustodyState :=
  demand (targetState current.state action) (.conflict "invalid_custody_transition")

def sealCustody (request : SealRequest) : CourierTransaction IssuedPickupCode := do
  let code := config.pickupCode request.custodyId request.idempotencyKey
  requireMerchant reads subject request.merchantId
  let found ← getCustody request.custodyId
  let current ← demand (found.filter fun custody => custody.merchantId = request.merchantId)
    (.conflict "custody_not_found")
  let replay ← reserve config.hash subject.identityId request.custodyId request.idempotencyKey
    [("seal", .number request.expectedVersion)] request.time
  whenSome replay (fun stored => pure ⟨stored, code⟩) (do
    checkVersion current request.expectedVersion
    let target ← checkTarget current .sealOrder
    let view ← sealOrder draws current target subject.identityId (config.pickupDigest code)
      (request.time.instant + config.challengeMinutes * 60000000) request.idempotencyKey
      request.time.instant
    pure ⟨view, code⟩)

variable (request : CustodyRequest)

def checkAccess (current : CustodyRecord) : CourierTransaction Unit :=
  if request.action = .release then do
    let merchantId ← demand request.merchantId (.conflict "merchant_required")
    requireMerchant reads subject merchantId
    require (current.merchantId = merchantId) (.conflict "access_denied")
  else do
    require (current.courierIdentityId = subject.identityId) (.conflict "access_denied")
    requireCurrentAssignment subject current

def requestText : Payload :=
  [("action", .text request.action.value), ("expected_version", .number request.expectedVersion),
   ("method", .text (request.method.elim "" VerificationMethod.value)),
   ("code", .number (config.pickupDigest (request.code.getD "")))]

def proceed (current : CustodyRecord) : CourierTransaction CustodyView := do
  checkVersion current request.expectedVersion
  if request.action = .verify then do
    let code ← demand (request.code.filter fun code => code ≠ "")
      (.conflict "verification_evidence_required")
    let method ← demand request.method (.conflict "verification_evidence_required")
    let target ← checkTarget current request.action
    verify draws current target subject.identityId (config.pickupDigest code) method
      request.idempotencyKey request.time.instant
  else do
    require (request.action = .release ∨ request.action = .accept)
      (.conflict "unsupported_custody_action")
    let target ← checkTarget current request.action
    transition draws current target subject.identityId request.idempotencyKey request.time.instant

def command : CourierTransaction CustodyView := do
  let found ← getCustody request.custodyId
  let current ← demand found (.conflict "custody_not_found")
  checkAccess reads subject request current
  let replay ← reserve config.hash subject.identityId request.custodyId request.idempotencyKey
    (requestText config request) request.time
  whenSome replay (fun stored => pure stored) (proceed config draws subject request current)

def activateFromWaiting (pickupId actorIdentityId : Uuid) (time : DateTime) :
    CourierTransaction CustodyView :=
  activate draws pickupId actorIdentityId time.instant

inductive CustodyCommand where
  | activateFromWaiting (pickupId actorIdentityId : Uuid) (time : DateTime)
  | sealCustody (request : SealRequest)
  | command (request : CustodyRequest)

def CustodyCommand.body : CustodyCommand → CourierTransaction CustodyView
  | .activateFromWaiting pickupId actorIdentityId time =>
    Application.activateFromWaiting draws pickupId actorIdentityId time
  | .sealCustody request => do
    let issued ← Application.sealCustody config draws reads subject request
    pure issued.view
  | .command request => Application.command config draws reads subject request

end Ayo.Custody.Application
