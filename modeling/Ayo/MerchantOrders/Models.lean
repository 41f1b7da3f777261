/- digest: Orders with their lines, timeline, rejection and preparation. -/

import Ayo.Kernel.Run
import Ayo.Catalogue.Models

namespace Ayo.MerchantOrders.Models

open Kernel.UnitOfWork Kernel.KeyedTable Core.Values
open Catalogue.Models (ItemKind ItemStatus ItemAvailability ItemVisibility)

inductive OrderState where
  | waitingForMerchantConfirmation
  | accepted
  | rejected
  | preparing
  | readyForPickup
deriving DecidableEq

inductive MerchantOrderAction where
  | accept
  | reject
deriving DecidableEq

inductive PreparationAction where
  | start
  | updateProgress
  | markReady
deriving DecidableEq

inductive MerchantState where
  | draft
  | verificationPending
  | approved
  | suspended
deriving DecidableEq

structure MerchantProfile where
  ownerIdentityId : Uuid
  state : MerchantState
  displayName : String
  version : Nat

structure OrderableItem where
  (itemId merchantId : Uuid)
  version : Nat
  name : String
  kind : ItemKind
  categoryId : Option Uuid
  status : ItemStatus
  visibility : ItemVisibility
  availability : ItemAvailability
  (basePriceMinor modifierContractVersion : Option Nat)

structure BasketLine where
  itemId : Uuid
  (quantity observedVersion : Nat)
  (variantSelections modifierSelections : List String)
  customerInstructions : Option String
  bounded : (1 ≤ quantity ∧ quantity ≤ 99) ∧ modifierSelections.length ≤ 20 ∧
    ∀ text ∈ customerInstructions, text.length ≤ 500

structure OrderLineEvidence where
  itemId : Uuid
  itemVersion : Nat
  name : String
  kind : ItemKind
  categoryId : Option Uuid
  (quantity unitPriceMinor lineTotalMinor : Nat)
  modifierSelections : List String
  customerInstructions : Option String

def OrderLineEvidence.Valid (line : OrderLineEvidence) : Prop :=
  1 ≤ line.itemVersion ∧ (2 ≤ line.name.length ∧ line.name.length ≤ 160) ∧
    (1 ≤ line.quantity ∧ line.quantity ≤ 99) ∧ line.modifierSelections.length ≤ 20 ∧
    ∀ text ∈ line.customerInstructions, text.length ≤ 500
deriving Decidable

structure OrderPricingEvidence where
  policyVersion : String
  subtotalMinor : Nat
  evidenceHash : String

structure OrderRow where
  (orderId customerIdentityId merchantId : Uuid)
  merchantDisplayName : String
  merchantVersion : Nat
  state : OrderState
  version : Nat
  pricing : OrderPricingEvidence
  availabilityEvaluationId : Option Uuid
  compositionHash : Option String
  accessInteractionId : Option Uuid
  evidenceHash : String
  createdAt : Instant

instance : Row OrderRow Uuid := .keyed OrderRow.orderId

structure OrderLine where
  orderId : Uuid
  lineNumber : Nat
  evidence : OrderLineEvidence

inductive EatAvailabilityState where
  | available
  | temporarilyUnavailable
  | unavailable

inductive EatAvailabilityOutcome where
  | available
  | temporarilyUnavailable
  | unavailable
  | merchantClosed
  | productUnavailable
  | unknownOrStale
deriving DecidableEq

def EatAvailabilityOutcome.value : EatAvailabilityOutcome → String
  | .available => "available"
  | .temporarilyUnavailable => "temporarily_unavailable"
  | .unavailable => "unavailable"
  | .merchantClosed => "merchant_closed"
  | .productUnavailable => "product_unavailable"
  | .unknownOrStale => "unknown_or_stale"

structure EatAvailabilityPolicy where
  policyId : Uuid
  coverageReference : String
  state : EatAvailabilityState
  reasonCode : String
  effectiveFrom : Instant
  effectiveUntil : Option Instant
  version : Nat

def availabilityOutcome (policy : Option EatAvailabilityPolicy) (merchantOpen itemsAvailable : Bool)
    (time : Instant) : EatAvailabilityOutcome × String :=
  match policy with
  | none => (.unknownOrStale, "policy_missing")
  | some policy =>
    if time < policy.effectiveFrom ∨ ∃ until_ ∈ policy.effectiveUntil, until_ ≤ time then
      (.unknownOrStale, "policy_not_effective")
    else
      match policy.state with
      | .temporarilyUnavailable => (.temporarilyUnavailable, policy.reasonCode)
      | .unavailable => (.unavailable, policy.reasonCode)
      | .available =>
        if merchantOpen = false then (.merchantClosed, "merchant_closed")
        else if itemsAvailable = false then (.productUnavailable, "product_unavailable")
        else (.available, "available")

structure EatAvailabilityEvaluation where
  evaluationId : Uuid
  policyId : Option Uuid
  policyVersion : Option Nat
  merchantId : Uuid
  (areaReference coverageReference : String)
  itemReferences : List Uuid
  merchantOpen : Bool
  outcome : EatAvailabilityOutcome
  reasonCode : String
  evaluatedAt : Instant

structure EvaluationMessage where
  aggregateId : Uuid
  eventType : String
  merchantId : Uuid
  outcome : EatAvailabilityOutcome
  policyVersion : Option Nat
  occurredAt : Instant

def EatAvailabilityEvaluation.message (evaluation : EatAvailabilityEvaluation) :
    EvaluationMessage where
  aggregateId := evaluation.evaluationId
  eventType := "eat.availability.evaluated"
  merchantId := evaluation.merchantId
  outcome := evaluation.outcome
  policyVersion := evaluation.policyVersion
  occurredAt := evaluation.evaluatedAt

structure CanonicalOrder where
  (orderId customerIdentityId merchantId : Uuid)
  merchantDisplayName : String
  state : OrderState
  lines : List OrderLineEvidence
  pricing : OrderPricingEvidence
  availabilityEvaluationId : Option Uuid
  compositionHash : Option String
  accessInteractionId : Option Uuid
  evidenceHash : String
  version : Nat
  createdAt : Instant

inductive TimelineEventType where
  | created
  | state (state : OrderState)
  | preparationProgress

structure OrderTimelineEvent where
  (orderId merchantId : Uuid)
  eventType : TimelineEventType
  fromState : Option OrderState
  toState : OrderState
  actorIdentityId : Option Uuid
  orderVersion : Nat
  customerReasonCode : Option String
  occurredAt : Instant

/-- `^[a-z][a-z0-9_]{2,62}$`. -/
def isReasonCode : String → Bool :=
  isPattern Char.isLower (fun c => c.isLower || c.isDigit || c == '_') 2 62

structure RejectionDecision where
  orderId : Uuid
  (customerReasonCode customerMessage : String)
  internalMerchantNote : Option String
  decidedByIdentityId : Uuid
  decidedAt : Instant

instance : Row RejectionDecision Uuid := .keyed RejectionDecision.orderId

structure PreparationRecord where
  (orderId merchantId : Uuid)
  startedAt : Instant
  estimatedDurationSeconds : Int
  estimatedReadyAt : Instant
  progressPercent : Int
  (latestDelayReasonCode latestDelayMessage : Option String)
  updatedAt : Instant
  readyAt : Option Instant

instance : Row PreparationRecord Uuid := .keyed PreparationRecord.orderId

inductive PreparationEventType where
  | started
  | progressUpdated
  | readyForPickup

structure PreparationEvent where
  (orderId merchantId : Uuid)
  eventType : PreparationEventType
  actorIdentityId : Uuid
  orderVersion : Nat
  progressPercent : Int
  estimatedDurationSeconds : Option Int
  (delayReasonCode delayMessage : Option String)
  occurredAt : Instant

inductive OrderPayload where
  | order (merchantId : Uuid) (lines : List BasketLine) (areaReference : Option String)
      (coverageReference : Option String) (merchantOpen : Option Bool)
      (accessInteractionId : Option Uuid)
  | decision (merchantId orderId : Uuid) (expectedVersion : Int) (action : MerchantOrderAction)
      (customerReasonCode customerMessage internalMerchantNote : Option String)
  | preparation (merchantId orderId : Uuid) (expectedVersion : Int) (action : PreparationAction)
      (estimatedDurationMinutes progressPercent : Option Int)
      (delayReasonCode delayMessage : Option String)

structure OrderReservation where
  customerIdentityId : Uuid
  (idempotencyKey requestHash : String)
  orderId : Uuid
  createdAt : Instant

def OrderReservation.name (row : OrderReservation) : Uuid × String :=
  (row.customerIdentityId, row.idempotencyKey)

instance : Row OrderReservation (Uuid × String) := .keyed OrderReservation.name

structure ActionReservation where
  (actorIdentityId merchantId orderId : Uuid)
  (idempotencyKey requestHash : String)
  responseVersion : Option Nat
  createdAt : Instant

def ActionReservation.name (row : ActionReservation) : Uuid × Uuid × String :=
  (row.actorIdentityId, row.merchantId, row.idempotencyKey)

instance : Row ActionReservation (Uuid × Uuid × String) := .keyed ActionReservation.name

structure OrderStore where
  orders : Table OrderRow := .empty
  lines : List OrderLine := []
  reservations : Table OrderReservation := .empty
  timeline : List OrderTimelineEvent := []
  rejections : Table RejectionDecision := .empty
  actions : Table ActionReservation := .empty
  preparations : Table PreparationRecord := .empty
  preparationEvents : List PreparationEvent := []
  preparationActions : Table ActionReservation := .empty
  evaluations : List EatAvailabilityEvaluation := []
  evaluationOutbox : List EvaluationMessage := []

abbrev OrderTransaction (α : Type) := Transaction OrderStore Failure α

structure MerchantOrderRecord where
  (orderId merchantId : Uuid)
  merchantDisplayName : String
  state : OrderState
  lines : List OrderLineEvidence
  pricing : OrderPricingEvidence
  evidenceHash : String
  version : Nat
  createdAt : Instant

structure MerchantOrderView where
  order : MerchantOrderRecord
  timeline : List OrderTimelineEvent
  rejection : Option RejectionDecision
  decisionMatchesState : (order.state = .rejected) ↔ rejection.isSome = true

structure PreparationView where
  order : MerchantOrderView
  preparation : Option PreparationRecord
  preparationEvents : List PreparationEvent

def transition (current : OrderState) (action : MerchantOrderAction) :
    OrderTransaction OrderState := do
  require (current = .waitingForMerchantConfirmation) (.conflict "order_transition_not_allowed")
  pure (match action with
    | .accept => .accepted
    | .reject => .rejected)

def targetState (current : OrderState) (action : PreparationAction) : OrderTransaction OrderState :=
  match current, action with
  | .accepted, .start => pure .preparing
  | .preparing, .updateProgress => pure .preparing
  | .preparing, .markReady => pure .readyForPickup
  | _, _ => throw (.conflict "preparation_transition_not_allowed")

def validateProgress (current requested : Int) : OrderTransaction Int := do
  require (1 ≤ requested ∧ requested ≤ 99) (.conflict "preparation_progress_invalid")
  require (current < requested) (.conflict "preparation_progress_not_increasing")
  pure requested

def OrderTimelineEvent.Valid (event : OrderTimelineEvent) : Prop :=
  1 ≤ event.orderVersion ∧ ∀ code ∈ event.customerReasonCode, code.length ≤ 63
deriving Decidable

def RejectionDecision.Valid (row : RejectionDecision) : Prop :=
  isReasonCode row.customerReasonCode = true ∧
    (2 ≤ row.customerMessage.length ∧ row.customerMessage.length ≤ 240) ∧
    ∀ note ∈ row.internalMerchantNote, note.length ≤ 1000
deriving Decidable

def PreparationRecord.Valid (row : PreparationRecord) : Prop :=
  (60 ≤ row.estimatedDurationSeconds ∧ row.estimatedDurationSeconds ≤ 14400) ∧
    (0 ≤ row.progressPercent ∧ row.progressPercent ≤ 100) ∧
    (∀ code ∈ row.latestDelayReasonCode, code.length ≤ 63) ∧
    ∀ message ∈ row.latestDelayMessage, message.length ≤ 240
deriving Decidable

def PreparationEvent.Valid (event : PreparationEvent) : Prop :=
  1 ≤ event.orderVersion ∧ (0 ≤ event.progressPercent ∧ event.progressPercent ≤ 100) ∧
    (∀ seconds ∈ event.estimatedDurationSeconds, 60 ≤ seconds ∧ seconds ≤ 14400) ∧
    (∀ code ∈ event.delayReasonCode, code.length ≤ 63) ∧
    ∀ message ∈ event.delayMessage, message.length ≤ 240
deriving Decidable

end Ayo.MerchantOrders.Models
