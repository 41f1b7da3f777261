/- digest: The commands of the courier dispatch service. -/

import Ayo.Custody.Application

namespace Ayo.CourierDispatch.Application

open Kernel.UnitOfWork Core.Values Core.Authorization Courier.Store Models Repository
open Custody.Repository (custodyOfOrder?)

/-- The message that an order is ready, as `consume_merchant_ready` receives it. -/
structure ReadyRequest where
  (messageId orderId merchantId : Uuid)
  eventType : String
  time : DateTime

structure OfferRequest where
  dispatchId : Uuid
  expectedVersion : Int
  eligibleCourierIdentityId : Uuid
  eligibilityEvidence : List CourierEligibilityEvidence
  idempotencyKey : String
  (correlationId causationId : Uuid)
  time : DateTime

structure ResponseRequest where
  dispatchId : Uuid
  expectedVersion : Int
  action : CourierDispatchAction
  courierIdentityId : Uuid
  idempotencyKey : String
  time : DateTime
  (correlationId causationId : Option Uuid)

structure AuthorityRequest where
  dispatchId : Uuid
  expectedVersion : Int
  action : CourierDispatchAction
  idempotencyKey : String
  (correlationId causationId : Uuid)
  reason : String
  time : DateTime

variable (config : CourierConfig) (draws : Draws) (reads : CourierReads)
  (subject : AuthorizationSubject)

def utcTime (time : DateTime) : CourierTransaction Instant := utc "courier dispatch" time

def audit (result : MerchantCourierDispatchView) (operation : String)
    (correlationId causationId : Uuid) (key : String) : CourierTransaction Unit :=
  appendAudit (successEvent draws subject "courier_dispatch" operation result.dispatch.dispatchId
    correlationId causationId result.dispatch.state.value key)

def consumeMerchantReady (request : ReadyRequest) :
    CourierTransaction MerchantCourierDispatchView := do
  require (request.eventType = "commerce.preparation.ready_for_pickup")
    (.conflict "unsupported_readiness_event")
  let instant ← utcTime request.time
  requirePermission reads.grants subject "courier_dispatch.admit" (.utc instant)
  let result ← consumeReady config.dispatchPolicy draws reads request.messageId request.orderId
    request.merchantId instant
  audit draws subject result "admit" request.messageId request.messageId
    ("readiness:" ++ toString request.messageId)
  pure result

variable (current : CourierDispatchRequest)

def checkVersion (expectedVersion : Int) : CourierTransaction Unit :=
  require ((current.version : Int) = expectedVersion)
    (.conflict "courier_dispatch_version_conflict")

def checkTarget (action : CourierDispatchAction) : CourierTransaction CourierDispatchState :=
  demand (targetState current.state action) (.conflict "invalid_courier_dispatch_transition")

/-- A command under a key of its own: a repetition is answered by the view that was stored. -/
def reserving (dispatchId : Uuid) (key : String) (action : CourierDispatchAction)
    (expectedVersion : Int) (time : DateTime)
    (fresh : CourierDispatchRequest → CourierTransaction MerchantCourierDispatchView) :
    CourierTransaction MerchantCourierDispatchView := do
  let found ← getRequest dispatchId
  let current ← demand found (.conflict "courier_dispatch_not_found")
  let replay ← reserve config.hash subject.identityId dispatchId key action expectedVersion time
  whenSome replay (fun stored => pure stored) (do
    checkVersion current expectedVersion
    fresh current)

variable (request : ResponseRequest)

def responseTrace (current : CourierDispatchRequest) : Uuid × Uuid :=
  (request.correlationId.getD current.dispatchId,
    (request.causationId.or current.activeOfferId).getD current.dispatchId)

/-- Acceptance or refusal of an offer by the courier to whom it was made. -/
def respond (current : CourierDispatchRequest) :
    CourierTransaction MerchantCourierDispatchView := do
  let target ← checkTarget current request.action
  require (current.offeredCourierIdentityId = some request.courierIdentityId)
    (.conflict "courier_offer_not_owned")
  let instant ← utcTime request.time
  let trace := responseTrace request current
  let result ←
    if request.action = .accept then
      acceptOffer draws current request.courierIdentityId target request.idempotencyKey trace.1
        trace.2 instant
    else
      declineOffer draws current request.courierIdentityId target request.idempotencyKey trace.1
        trace.2 instant
  audit draws subject result request.action.value trace.1 trace.2 request.idempotencyKey
  pure result

def command : CourierTransaction MerchantCourierDispatchView := do
  require (request.action = .accept ∨ request.action = .decline)
    (.conflict "offer_requires_dispatch_authority")
  require (subject.identityId = request.courierIdentityId) (.conflict "access_denied")
  reserving config subject request.dispatchId request.idempotencyKey request.action
    request.expectedVersion request.time (respond draws subject request)

def makeOffer (request : OfferRequest) (evaluated : List CourierEligibilityEvidence)
    (instant : Instant) (current : CourierDispatchRequest) :
    CourierTransaction MerchantCourierDispatchView := do
  let target ← checkTarget current .offer
  let result ← offer draws current request.eligibleCourierIdentityId subject.identityId target
    request.idempotencyKey evaluated (config.dispatchPolicy.expiresAt instant)
    request.correlationId request.causationId instant
  audit draws subject result "offer" request.correlationId request.causationId
    request.idempotencyKey
  pure result

/-- `offer_courier`: the eligibility is evaluated before anything is reserved. -/
def offerCourier (request : OfferRequest) : CourierTransaction MerchantCourierDispatchView := do
  let instant ← utcTime request.time
  let evaluated ← DispatchPolicy.evaluate request.eligibilityEvidence instant
  requirePermission reads.grants subject "courier_dispatch.manage" (.utc instant)
  reserving config subject request.dispatchId request.idempotencyKey .offer
    request.expectedVersion request.time (makeOffer config draws subject request evaluated instant)

def authorityActions : List CourierDispatchAction :=
  [.expire, .revoke, .release, .cancel, .concludeUnfulfilled]

/-- Nobody takes an order away from a courier who has accepted its custody. -/
def checkCustody (action : CourierDispatchAction) : CourierTransaction Unit := do
  let store ← get
  require (action = .release ∨ action = .cancel →
      ∀ custody ∈ custodyOfOrder? store.custody current.orderId, custody.state ≠ .accepted)
    (.conflict "dispatch_authority_ended_at_custody")

def actOn (request : AuthorityRequest) (instant : Instant) (current : CourierDispatchRequest) :
    CourierTransaction MerchantCourierDispatchView := do
  checkCustody current request.action
  let target ← checkTarget current request.action
  let result ← authorityTransition draws current request.action
    { target, actorId := subject.identityId, reason := request.reason,
      key := request.idempotencyKey, correlationId := request.correlationId,
      causationId := request.causationId, time := instant }
  audit draws subject result request.action.value request.correlationId request.causationId
    request.idempotencyKey
  pure result

/-- `authority_command`: what only the dispatch authority may do. -/
def authorityCommand (request : AuthorityRequest) :
    CourierTransaction MerchantCourierDispatchView := do
  require (request.action ∈ authorityActions) (.conflict "dispatch_authority_action_invalid")
  let instant ← utcTime request.time
  requirePermission reads.grants subject "courier_dispatch.manage" (.utc instant)
  reserving config subject request.dispatchId request.idempotencyKey request.action
    request.expectedVersion request.time (actOn draws subject request instant)

inductive DispatchCommand where
  | consumeMerchantReady (request : ReadyRequest)
  | offerCourier (request : OfferRequest)
  | command (request : ResponseRequest)
  | authorityCommand (request : AuthorityRequest)

def DispatchCommand.body : DispatchCommand → CourierTransaction MerchantCourierDispatchView
  | .consumeMerchantReady request =>
    Application.consumeMerchantReady config draws reads subject request
  | .offerCourier request => Application.offerCourier config draws reads subject request
  | .command request => Application.command config draws subject request
  | .authorityCommand request => Application.authorityCommand config draws reads subject request

end Ayo.CourierDispatch.Application
