/- digest: Financial holds, their store, and the commands of the hold service. -/

import Ayo.Refund.Application
import Ayo.Settlement.Repository

namespace Ayo.FinancialControl.Models

open Kernel.UnitOfWork Kernel.KeyedTable Core.Values Core.Lifecycle

variable {σ : Type}

inductive FinancialHoldType where
  | riderPayment
  | driverPayout
  | wallet
  | refund
  | settlement
  | fraudReview
  | complianceReview
  | financeManualReview

def FinancialHoldType.value : FinancialHoldType → String
  | .riderPayment => "rider_payment"
  | .driverPayout => "driver_payout"
  | .wallet => "wallet"
  | .refund => "refund"
  | .settlement => "settlement"
  | .fraudReview => "fraud_review"
  | .complianceReview => "compliance_review"
  | .financeManualReview => "finance_manual_review"

inductive FinancialHoldState where
  | created
  | active
  | underReview
  | released
  | escalated
  | expired
  | cancelled
deriving DecidableEq

def FinancialHoldState.value : FinancialHoldState → String
  | .created => "created"
  | .active => "active"
  | .underReview => "under_review"
  | .released => "released"
  | .escalated => "escalated"
  | .expired => "expired"
  | .cancelled => "cancelled"

inductive FinancialHoldSourceType where
  | paymentAttempt
  | settlementBatch
  | walletAccount
  | refundRequest
  | financialPosting
  | identity
deriving DecidableEq

def FinancialHoldSourceType.value : FinancialHoldSourceType → String
  | .paymentAttempt => "payment_attempt"
  | .settlementBatch => "settlement_batch"
  | .walletAccount => "wallet_account"
  | .refundRequest => "refund_request"
  | .financialPosting => "financial_posting"
  | .identity => "identity"

inductive FinancialHoldReasonCode where
  | paymentRiskSignal
  | paymentChargeDisputeRisk
  | payoutReconciliationGap
  | payoutIdentityVerification
  | walletLineageReview
  | walletManualReview
  | refundPolicyReview
  | refundFraudSignal
  | settlementExceptionReview
  | settlementManualReview
  | fraudReviewRequired
  | complianceReviewRequired
  | financeManualReviewRequired

def FinancialHoldReasonCode.value : FinancialHoldReasonCode → String
  | .paymentRiskSignal => "payment.risk_signal"
  | .paymentChargeDisputeRisk => "payment.charge_dispute_risk"
  | .payoutReconciliationGap => "payout.reconciliation_gap"
  | .payoutIdentityVerification => "payout.identity_verification"
  | .walletLineageReview => "wallet.lineage_review"
  | .walletManualReview => "wallet.manual_review"
  | .refundPolicyReview => "refund.policy_review"
  | .refundFraudSignal => "refund.fraud_signal"
  | .settlementExceptionReview => "settlement.exception_review"
  | .settlementManualReview => "settlement.manual_review"
  | .fraudReviewRequired => "fraud.review_required"
  | .complianceReviewRequired => "compliance.review_required"
  | .financeManualReviewRequired => "finance.manual_review_required"

def allowedTransitions : FinancialHoldState → List FinancialHoldState
  | .created => [.active, .cancelled, .expired]
  | .active => [.underReview, .released, .escalated, .expired, .cancelled]
  | .underReview => [.active, .released, .escalated, .expired, .cancelled]
  | .escalated => [.underReview, .released, .expired, .cancelled]
  | .released => []
  | .expired => []
  | .cancelled => []

def ensureTransitionAllowed (current target : FinancialHoldState) (time : DateTime) :
    Transaction σ Failure Unit :=
  ensureTimedTransitionAllowed allowedTransitions "financial_hold_timestamp_invalid"
    "financial_hold_transition_invalid" current target time

def blocksReadiness : FinancialHoldState → Bool
  | .created => true
  | .active => true
  | .underReview => true
  | .escalated => true
  | .released => false
  | .expired => false
  | .cancelled => false

structure HoldReason where
  reasonCode : FinancialHoldReasonCode
  reasonDetail : Option (BoundedText 0 240)

structure FinancialHold where
  holdId : Uuid
  holdType : FinancialHoldType
  sourceType : FinancialHoldSourceType
  sourceId : Uuid
  reason : HoldReason
  state : FinancialHoldState
  (createdByIdentityId correlationId causationId : Uuid)
  (createdAt updatedAt : Instant)
  chronological : createdAt ≤ updatedAt

structure FinancialHoldStateHistory where
  (historyId holdId : Uuid)
  fromState : Option FinancialHoldState
  toState : FinancialHoldState
  reason : HoldReason
  changedByIdentityId : Uuid
  changedAt : Instant
  (correlationId causationId : Uuid)

instance : Row FinancialHold Uuid := .keyed FinancialHold.holdId

instance : Row FinancialHoldStateHistory Uuid := .keyed FinancialHoldStateHistory.historyId

variable {old : FinancialHoldState}

theorem ne_of_mem_allowedTransitions {target : FinancialHoldState}
    (allowed : target ∈ allowedTransitions old) : old ≠ target := by
  rintro rfl
  cases old <;> simp [allowedTransitions] at allowed

theorem ensureTransitionAllowed_bind_ok {α : Type} {target : FinancialHoldState}
    {time : DateTime} {f : Unit → Transaction σ Failure α} {s t : σ} {a : α} :
    (ensureTransitionAllowed old target time >>= f) s = .ok (a, t) ↔
      Follows allowedTransitions old target ∧
        (target ≠ old → time.aware = true) ∧ f () s = .ok (a, t) :=
  ensureTimedTransitionAllowed_bind_ok

end Ayo.FinancialControl.Models

/-! The store of financial holds and its writers and readers. -/

namespace Ayo.FinancialControl.Repository

open Kernel.UnitOfWork Kernel.KeyedTable Kernel.Ordering Core.Values
open Core.Authorization (Reservation)
open Models

structure HoldStore where
  holds : Table FinancialHold := .empty
  history : Table FinancialHoldStateHistory := .empty
  idempotency : Table Reservation := .empty
  events : List Event := []

abbrev HoldTransaction (α : Type) := Transaction HoldStore Failure α

def reserveIdempotency (hash : Payload → Digest) (actorId : Uuid) (operation key : String)
    (payload : Payload) (responseReference : Uuid) (time : DateTime) : HoldTransaction Uuid :=
  within HoldStore.idempotency (fun idempotency store => { store with idempotency })
    (Core.Authorization.reserveIdempotency hash actorId operation key payload responseReference
      time)

variable (holdId : Uuid)

def recordEvent (eventType : String) (history : FinancialHoldStateHistory) :
    HoldTransaction Unit := do
  let store ← get
  put { store with
    events := store.events ++
      [{ aggregateType := "financial_hold", aggregateId := holdId, eventType,
         occurredAt := history.changedAt, correlationId := history.correlationId,
         causationId := history.causationId }] }

def getHold : HoldTransaction (Option FinancialHold) := do
  let store ← get
  pure (store.holds.find holdId)

def holdsForSource (store : HoldStore) (sourceType : FinancialHoldSourceType) (sourceId : Uuid) :
    List FinancialHold :=
  orderedBy (fun hold => toLex (hold.createdAt, hold.holdId))
    (store.holds.rows.filter fun hold => hold.sourceType = sourceType ∧ hold.sourceId = sourceId)

def listHistory : HoldTransaction (List FinancialHoldStateHistory) := do
  let store ← get
  pure (orderedBy (fun row => toLex (row.changedAt, row.historyId))
    (store.history.rows.filter fun row => row.holdId = holdId))

def createHold (hold : FinancialHold) (initialHistory : FinancialHoldStateHistory) :
    HoldTransaction Unit := do
  let store ← get
  let holds ← demand (store.holds.insert? hold) (.integrity "financial_holds")
  let history ← demand (store.history.insert? initialHistory)
    (.integrity "financial_hold_state_history")
  put { store with holds, history }
  recordEvent hold.holdId "financial_hold.created" initialHistory

def transitionHold (targetState : FinancialHoldState) (updatedAt : Instant)
    (row : FinancialHoldStateHistory) : HoldTransaction FinancialHold := do
  let found ← getHold holdId
  let current ← demand found (.conflict "financial_hold_not_found")
  -- the model of the returned row checks its two times
  let updated ← demand (if chronological : current.createdAt ≤ updatedAt then
      some { current with state := targetState, updatedAt, chronological }
    else
      none)
    (.value "updated_at must not precede created_at")
  let store ← get
  let holds ← demand (store.holds.replace? updated) (.integrity "financial_holds")
  let history ← demand (store.history.insert? row) (.integrity "financial_hold_state_history")
  put { store with holds, history }
  recordEvent holdId ("financial_hold." ++ targetState.value) row
  pure updated

theorem mem_holdsForSource {store : HoldStore} {sourceType : FinancialHoldSourceType}
    {sourceId : Uuid} {hold : FinancialHold} :
    hold ∈ holdsForSource store sourceType sourceId ↔
      hold ∈ store.holds.rows ∧ hold.sourceType = sourceType ∧ hold.sourceId = sourceId := by
  simp [holdsForSource]

end Ayo.FinancialControl.Repository

/-! The commands of the financial hold service over the sources that a hold may name. -/

namespace Ayo.FinancialControl.Application

open Kernel.UnitOfWork Core.Values Core.Authorization
open Payment.Repository (PaymentStore)
open Refund.Repository (RefundStore)
open Settlement.Repository (SettlementStore)
open Models Repository

/-- What one command reads outside the settlement and hold stores. -/
structure HoldReads where
  grants : Grants
  payments : PaymentStore
  refunds : RefundStore
  (walletAccountExists postingExists identityExists : Uuid → Bool)

structure FinancialHoldCreateCommand where
  holdType : FinancialHoldType
  sourceType : FinancialHoldSourceType
  sourceId : Uuid
  reason : HoldReason
  idempotencyKey : BoundedText 16 128
  (correlationId causationId : Uuid)
  occurredAt : Instant
  (candidateId historyId : Uuid)

structure FinancialHoldTransitionCommand where
  holdId : Uuid
  targetState : FinancialHoldState
  reason : HoldReason
  idempotencyKey : BoundedText 16 128
  (correlationId causationId : Uuid)
  occurredAt : Instant
  historyId : Uuid

structure FinancialHoldResult where
  hold : FinancialHold
  history : List FinancialHoldStateHistory

variable (hash : Payload → Digest) (settlements : SettlementStore) (reads : HoldReads)
  (subject : AuthorizationSubject)

def utcTime (instant : Instant) : DateTime := ⟨instant, some 0⟩

def requireServiceIdentity : HoldTransaction Unit :=
  require (subject.identityType = .service) (.conflict "financial_hold_service_identity_required")

def permissionForTarget : FinancialHoldState → Option String
  | .underReview => some "financial.hold.review"
  | .released => some "financial.hold.release"
  | .escalated => some "financial.hold.escalate"
  | .expired => some "financial.hold.expire"
  | .cancelled => some "financial.hold.cancel"
  | .active => some "financial.hold.review"
  | .created => none

def sourceTypeOf : FinancialHoldType → FinancialHoldSourceType
  | .riderPayment => .paymentAttempt
  | .driverPayout => .settlementBatch
  | .wallet => .walletAccount
  | .refund => .refundRequest
  | .settlement => .settlementBatch
  | .fraudReview => .identity
  | .complianceReview => .identity
  | .financeManualReview => .financialPosting

def assertTypeSourceCompatibility (holdType : FinancialHoldType)
    (sourceType : FinancialHoldSourceType) : HoldTransaction Unit :=
  require (sourceTypeOf holdType = sourceType) (.conflict "financial_hold_source_type_invalid")

def lineageFound (sourceId : Uuid) : FinancialHoldSourceType → Bool
  | .paymentAttempt => (reads.payments.attempts.find sourceId).isSome
  | .settlementBatch => (settlements.batches.find sourceId).isSome
  | .walletAccount => reads.walletAccountExists sourceId
  | .refundRequest => (reads.refunds.requests.find sourceId).isSome
  | .financialPosting => reads.postingExists sourceId
  | .identity => reads.identityExists sourceId

def assertLineageExists (sourceType : FinancialHoldSourceType) (sourceId : Uuid) :
    HoldTransaction Unit :=
  require (lineageFound settlements reads sourceId sourceType = true)
    (.conflict "financial_hold_lineage_missing")

def reasonPayload (reason : HoldReason) : Payload :=
  [("reason_code", .text reason.reasonCode.value),
   ("reason_detail", .text (reason.reasonDetail.elim "" Subtype.val))]

def createHold (command : FinancialHoldCreateCommand) : HoldTransaction FinancialHoldResult := do
  requirePermission reads.grants subject "financial.hold.create" (utcTime command.occurredAt)
  requireServiceIdentity subject
  assertTypeSourceCompatibility command.holdType command.sourceType
  assertLineageExists settlements reads command.sourceType command.sourceId
  let canonical ← reserveIdempotency hash subject.identityId "financial.hold.create"
    command.idempotencyKey.1
    ([("hold_type", .text command.holdType.value),
      ("source_type", .text command.sourceType.value), ("source_id", .uuid command.sourceId)] ++
      reasonPayload command.reason)
    command.candidateId (utcTime command.occurredAt)
  let found ← getHold canonical
  whenSome found (fun existing => do
      let history ← listHistory existing.holdId
      pure ⟨existing, history⟩)
    (do
      let hold : FinancialHold :=
        { holdId := canonical, holdType := command.holdType, sourceType := command.sourceType,
          sourceId := command.sourceId, reason := command.reason, state := .created,
          createdByIdentityId := subject.identityId, correlationId := command.correlationId,
          causationId := command.causationId, createdAt := command.occurredAt,
          updatedAt := command.occurredAt, chronological := Int.le_refl command.occurredAt }
      let history : FinancialHoldStateHistory :=
        { historyId := command.historyId, holdId := hold.holdId, fromState := none,
          toState := .created, reason := command.reason, changedByIdentityId := subject.identityId,
          changedAt := command.occurredAt, correlationId := command.correlationId,
          causationId := command.causationId }
      Repository.createHold hold history
      pure ⟨hold, [history]⟩)

variable (command : FinancialHoldTransitionCommand)

def movedHold (hold : FinancialHold) : HoldTransaction FinancialHoldResult := do
  ensureTransitionAllowed hold.state command.targetState (utcTime command.occurredAt)
  let updated ← Repository.transitionHold hold.holdId command.targetState command.occurredAt
    { historyId := command.historyId, holdId := hold.holdId, fromState := some hold.state,
      toState := command.targetState, reason := command.reason,
      changedByIdentityId := subject.identityId, changedAt := command.occurredAt,
      correlationId := command.correlationId, causationId := command.causationId }
  let history ← listHistory hold.holdId
  pure ⟨updated, history⟩

def transitionHold : HoldTransaction FinancialHoldResult := do
  let permission ← demand (permissionForTarget command.targetState)
    (.conflict "financial_hold_transition_invalid")
  requirePermission reads.grants subject permission (utcTime command.occurredAt)
  requireServiceIdentity subject
  let canonical ← reserveIdempotency hash subject.identityId
    ("financial.hold.transition." ++ command.targetState.value) command.idempotencyKey.1
    ([("hold_id", .uuid command.holdId), ("target_state", .text command.targetState.value)] ++
      reasonPayload command.reason)
    command.holdId (utcTime command.occurredAt)
  require (canonical = command.holdId) (.conflict "financial_hold_idempotency_reference_mismatch")
  let found ← getHold command.holdId
  let hold ← demand found (.conflict "financial_hold_not_found")
  if hold.state = command.targetState then do
    let history ← listHistory hold.holdId
    pure ⟨hold, history⟩
  else
    movedHold subject command hold

inductive HoldCommand where
  | createHold (command : FinancialHoldCreateCommand)
  | transitionHold (command : FinancialHoldTransitionCommand)

structure HoldCall where
  reads : HoldReads
  subject : AuthorizationSubject
  command : HoldCommand

/-- One unit of work of the hold service over the current settlements. -/
def step (store : HoldStore) (call : HoldCall) : HoldStore :=
  match call.command with
  | .createHold command =>
    commit (createHold hash settlements call.reads call.subject command) store
  | .transitionHold command =>
    commit (transitionHold hash call.reads call.subject command) store

end Ayo.FinancialControl.Application
