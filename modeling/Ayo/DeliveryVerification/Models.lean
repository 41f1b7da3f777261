/- digest: Deliveries with their verification credentials and their state graph. -/

import Ayo.Core.Values
import Ayo.Kernel.KeyedTable

namespace Ayo.DeliveryVerification.Models

open Kernel.KeyedTable Kernel.Columns Core.Values

inductive DeliveryState where
  | arriving
  | available
  | verified
  | received
  | completed
  | closed
deriving DecidableEq

inductive DeliveryAction where
  | markArriving
  | customerAvailable
  | verify
  | confirmReceived
  | complete
  | close
  | customerUnavailable
deriving DecidableEq

def DeliveryAction.value : DeliveryAction → String
  | .markArriving => "mark_arriving"
  | .customerAvailable => "customer_available"
  | .verify => "verify_delivery"
  | .confirmReceived => "confirm_received"
  | .complete => "complete_delivery"
  | .close => "close_custody"
  | .customerUnavailable => "customer_unavailable"

inductive DeliveryVerificationMethod where
  | qr
  | manual

def DeliveryVerificationMethod.value : DeliveryVerificationMethod → String
  | .qr => "qr_code"
  | .manual => "manual_code"

structure DeliveryCredential where
  (credentialId orderId sourceMessageId : Uuid)
  orderNumber : Nat
  codeHash : Digest
  expiresAt : Instant
  usedAt : Option Instant
  createdAt : Instant

instance : Row DeliveryCredential Uuid :=
  uniqueColumns DeliveryCredential.credentialId
    [fun row => some row.orderId, fun row => some row.sourceMessageId,
     fun row => some row.orderNumber, fun row => some row.codeHash]

def orderNumber (orderId : Uuid) : Nat := orderId / 2 ^ 80

structure DeliveryRecord where
  (deliveryId custodyId orderId merchantId courierIdentityId credentialId sourceMessageId : Uuid)
  state : DeliveryState
  version : Nat
  (arrivingAt customerAvailableAt verifiedAt : Option Instant)
  verificationMethod : Option DeliveryVerificationMethod
  (customerReceivedAt completedAt closedAt : Option Instant)
  updatedAt : Instant

instance : Row DeliveryRecord Uuid :=
  uniqueColumns DeliveryRecord.deliveryId
    [fun row => some row.custodyId, fun row => some row.orderId,
     fun row => some row.sourceMessageId]

structure DeliveryEvent where
  (eventId deliveryId : Uuid)
  eventType : DeliveryState
  fromState : Option DeliveryState
  toState : DeliveryState
  actorIdentityId : Uuid
  version : Nat
  occurredAt : Instant

structure DeliveryReservation where
  (actorIdentityId deliveryId : Uuid)
  idempotencyKey : String
  requestHash : Digest
  responseVersion : Option Nat
  createdAt : Instant

/-- The rule of `uq_delivery_idempotency`, which does not tell actions apart. -/
instance : Row DeliveryReservation (Uuid × String) :=
  .keyed fun row => (row.actorIdentityId, row.idempotencyKey)

structure DeliveryView where
  delivery : DeliveryRecord
  credential : DeliveryCredential
  events : List DeliveryEvent

def targetState : DeliveryState → DeliveryAction → Option DeliveryState
  | .arriving, .customerAvailable => some .available
  | .available, .verify => some .verified
  | .verified, .confirmReceived => some .received
  | .received, .complete => some .completed
  | .completed, .close => some .closed
  | _, _ => none

/-- The columns that a transition writes beside the state, the version and the update time. -/
inductive DeliveryStamp where
  | available
  | verified (method : DeliveryVerificationMethod)
  | received
  | completed
  | closed

def DeliveryStamp.ofTarget? : DeliveryState → Option DeliveryStamp
  | .available => some .available
  | .received => some .received
  | .completed => some .completed
  | .closed => some .closed
  | .arriving => none
  | .verified => none

def DeliveryRecord.entered (stored current : DeliveryRecord) (target : DeliveryState)
    (stamp : DeliveryStamp) (time : Instant) : DeliveryRecord :=
  let moved : DeliveryRecord :=
    { stored with state := target, version := current.version + 1, updatedAt := time }
  match stamp with
  | .available => { moved with customerAvailableAt := some time }
  | .verified method =>
    { moved with verifiedAt := some time, verificationMethod := some method }
  | .received => { moved with customerReceivedAt := some time }
  | .completed => { moved with completedAt := some time }
  | .closed => { moved with closedAt := some time }

end Ayo.DeliveryVerification.Models
