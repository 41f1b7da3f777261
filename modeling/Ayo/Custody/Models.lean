/- digest: The custody of an order with its pickup challenge and its state graph. -/

import Ayo.Core.Values
import Ayo.Kernel.KeyedTable

namespace Ayo.Custody.Models

open Kernel.KeyedTable Kernel.Columns Core.Values

inductive CustodyState where
  | waiting
  | sealed
  | verified
  | released
  | accepted
deriving DecidableEq

inductive VerificationMethod where
  | qr
  | barcode
deriving DecidableEq

def VerificationMethod.value : VerificationMethod → String
  | .qr => "qr_code"
  | .barcode => "barcode"

inductive CustodyAction where
  | sealOrder
  | verify
  | release
  | accept
deriving DecidableEq

def CustodyAction.value : CustodyAction → String
  | .sealOrder => "seal_order"
  | .verify => "verify_pickup"
  | .release => "release_order"
  | .accept => "accept_custody"

structure CustodyRecord where
  (custodyId pickupId orderId merchantId courierIdentityId : Uuid)
  state : CustodyState
  version : Nat
  (sealedAt verifiedAt : Option Instant)
  verificationMethod : Option VerificationMethod
  (merchantReleasedAt custodyAcceptedAt : Option Instant)
  updatedAt : Instant
deriving DecidableEq

instance : Row CustodyRecord Uuid :=
  uniqueColumns CustodyRecord.custodyId [fun row => some row.pickupId, fun row => some row.orderId]

structure PickupChallenge where
  (challengeId custodyId : Uuid)
  codeHash : Digest
  expiresAt : Instant
  usedAt : Option Instant
  createdAt : Instant

instance : Row PickupChallenge Uuid :=
  .keyedUnique PickupChallenge.challengeId PickupChallenge.codeHash

inductive CustodyEventType where
  | activated
  | entered (state : CustodyState)
deriving DecidableEq

structure CustodyEvent where
  (eventId custodyId orderId : Uuid)
  eventType : CustodyEventType
  (fromState toState : CustodyState)
  actorIdentityId : Uuid
  version : Nat
  occurredAt : Instant

structure CustodyReservation where
  (actorIdentityId custodyId : Uuid)
  idempotencyKey : String
  requestHash : Digest
  responseVersion : Option Nat
  createdAt : Instant

/-- The rule of `uq_custody_idempotency`, which does not tell actions apart. -/
instance : Row CustodyReservation (Uuid × String) :=
  .keyed fun row => (row.actorIdentityId, row.idempotencyKey)

structure CustodyView where
  custody : CustodyRecord
  challenge : Option PickupChallenge
  events : List CustodyEvent

def targetState : CustodyState → CustodyAction → Option CustodyState
  | .waiting, .sealOrder => some .sealed
  | .sealed, .verify => some .verified
  | .verified, .release => some .released
  | .released, .accept => some .accepted
  | _, _ => none

/-- The columns that a transition writes beside the state, the version and the update time. -/
inductive CustodyStamp where
  | sealed
  | verified (method : VerificationMethod)
  | released
  | accepted

def CustodyRecord.entered (stored current : CustodyRecord) (target : CustodyState)
    (stamp : CustodyStamp) (time : Instant) : CustodyRecord :=
  let moved : CustodyRecord :=
    { stored with state := target, version := current.version + 1, updatedAt := time }
  match stamp with
  | .sealed => { moved with sealedAt := some time }
  | .verified method =>
    { moved with verifiedAt := some time, verificationMethod := some method }
  | .released => { moved with merchantReleasedAt := some time }
  | .accepted => { moved with custodyAcceptedAt := some time }

end Ayo.Custody.Models
