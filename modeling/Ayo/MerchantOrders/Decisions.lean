/- digest: Decision cases beside the orders: admission, decision and expiry. -/

import Ayo.MerchantOrders.Application
import Ayo.MerchantOrders.CanonicalPreparation

namespace Ayo.MerchantOrders.Decisions

open Kernel.UnitOfWork Kernel.KeyedTable Kernel.Columns Kernel.Ordering Kernel.Updates Core.Values
  Core.Authorization
open PersistenceKernel.Audit (AuditLog ActorType SafeAuditMetadata)
open Courier.Store (actorType)
open Models Repository Application CanonicalPreparation

inductive MerchantDecisionState where
  | pending
  | accepted
  | rejected
  | expired
deriving DecidableEq

def MerchantDecisionState.value : MerchantDecisionState → String
  | .pending => "pending_merchant_decision"
  | .accepted => "accepted"
  | .rejected => "rejected"
  | .expired => "decision_window_expired"

inductive MerchantRejectionReason where
  | itemOrModifierUnavailable
  | merchantCapacityExceeded
  | closingOrClosed
  | cannotHonorCustomerInstruction
  | technicalOrOperationalIssue
  | suspectedDuplicateOrder
  | otherReviewRequired

structure MerchantDecisionPolicy where
  version : Nat
  maximumWindowSeconds : Int
  windowRange : 1 ≤ maximumWindowSeconds ∧ maximumWindowSeconds ≤ 300

/-- A row of `merchant_decision_cases`, one for each order. -/
structure MerchantDecisionCase where
  (decisionCaseId orderId : Uuid)
  orderVersion : Nat
  (merchantId merchantLocationId : Uuid)
  state : MerchantDecisionState
  policyVersion : Nat
  (windowStartedAt expiresAt : Instant)
  version : Nat
  (createdAt updatedAt : Instant)

instance : Row MerchantDecisionCase Uuid :=
  uniqueColumns MerchantDecisionCase.decisionCaseId [fun row => some row.orderId]

structure MerchantDecisionEvidence where
  (evidenceId decisionCaseId orderId merchantId merchantLocationId : Uuid)
  authenticatedSubjectId : Option Uuid
  merchantOwnerIdentityId : Uuid
  authorityBasis : String
  result : MerchantDecisionState
  rejectionReason : Option MerchantRejectionReason
  policyVersion : Nat
  (decidedAt expiresAt : Instant)
  (correlationId causationId : Uuid)

instance : Row MerchantDecisionEvidence Uuid :=
  uniqueColumns MerchantDecisionEvidence.evidenceId [fun row => some row.decisionCaseId]

structure DecisionPayload where
  decisionCaseId : Uuid
  expectedVersion : Int
  result : MerchantDecisionState
  rejectionReason : Option MerchantRejectionReason

/-- A row of `merchant_decision_idempotency`; its operation is always the decision. -/
structure DecisionReservation where
  (actorIdentityId decisionCaseId : Uuid)
  (idempotencyKey requestHash : String)
  responseVersion : Option Nat
  createdAt : Instant

def DecisionReservation.name (row : DecisionReservation) : Uuid × String :=
  (row.actorIdentityId, row.idempotencyKey)

instance : Row DecisionReservation (Uuid × String) := .keyed DecisionReservation.name

structure DecisionStore where
  orders : OrderStore := {}
  cases : Table MerchantDecisionCase := .empty
  evidence : Table MerchantDecisionEvidence := .empty
  reservations : Table DecisionReservation := .empty
  preparation : CanonicalStore := {}
  audits : AuditLog := .empty

abbrev DecisionTransaction (α : Type) := Transaction DecisionStore Failure α

structure DecisionConfig where
  orders : OrderConfig
  policy : MerchantDecisionPolicy
  hash : DecisionPayload → String
  preparation : CanonicalConfig

structure DecisionContext where
  subject : AuthorizationSubject
  time : DateTime
  (correlationId causationId caseId : Uuid)
  grants : Grants
  merchants : Uuid → Option MerchantProfile
  activeBranches : Uuid → Uuid → Bool
  staffAuthority : Uuid → Uuid → Uuid → Option String

structure EvidenceDraws where
  (evidenceId auditId : Uuid)

variable (config : DecisionConfig) (context : DecisionContext)

/-- `admit_decision_case`: the case of the order, which is inserted unless there is one. -/
def admitDecisionCase (value : MerchantDecisionCase) : DecisionTransaction MerchantDecisionCase := do
  let store ← get
  match store.cases.rows.find? fun row => row.orderId = value.orderId with
  | some existing => pure existing
  | none =>
    let cases ← demand (store.cases.insert? value) (.integrity "merchant_decision_cases")
    put { store with cases }
    pure value

def reserveDecision (row : DecisionReservation) : DecisionTransaction (Option Nat × Bool) := do
  let store ← get
  match store.reservations.find row.name with
  | some found =>
    require (found.requestHash = row.requestHash ∧ found.decisionCaseId = row.decisionCaseId)
      (.conflict "idempotency_conflict")
    pure (found.responseVersion, false)
  | none =>
    let reservations ← demand (store.reservations.insert? row)
      (.integrity "merchant_decision_idempotency")
    put { store with reservations }
    pure (none, true)

variable (row : MerchantDecisionCase)

def MerchantDecisionCase.decided (result : MerchantDecisionState) (time : Instant) :
    MerchantDecisionCase :=
  { row with state := result, version := row.version + 1, updatedAt := time }

/-- `terminal_decision`, with the actor and the key whose response it is. -/
def terminalDecision (current : MerchantDecisionCase) (evidence : MerchantDecisionEvidence)
    (idempotency : Option (Uuid × String)) : DecisionTransaction MerchantDecisionCase := do
  let store ← get
  let row ← demand ((store.cases.find current.decisionCaseId).filter fun row =>
      row.state = .pending ∧ row.version = current.version)
    (.conflict "merchant_decision_version_conflict")
  let cases ← demand (store.cases.replace? (row.decided evidence.result evidence.decidedAt))
    (.integrity "merchant_decision_cases")
  let recorded ← demand (store.evidence.insert? evidence) (.integrity "merchant_decision_evidence")
  let reservations ← demand (store.reservations.rewrite? (updateWhere
      (fun row : DecisionReservation => idempotency = some row.name ∧
        row.decisionCaseId = current.decisionCaseId)
      fun row => { row with responseVersion := some (current.version + 1) }))
    (.integrity "merchant_decision_idempotency")
  put { store with cases, evidence := recorded, reservations }
  pure (current.decided evidence.result evidence.decidedAt)

def decisionTransition (current : MerchantDecisionCase) (target : MerchantDecisionState)
    (time : Instant) : DecisionTransaction MerchantDecisionState := do
  require (current.state = .pending) (.conflict "merchant_decision_transition_not_allowed")
  require (target ≠ .pending) (.conflict "merchant_decision_transition_not_allowed")
  if target = .expired then do
    require (current.expiresAt ≤ time) (.conflict "merchant_decision_window_active")
    pure target
  else do
    require (time < current.expiresAt) (.conflict "merchant_decision_window_expired")
    pure target

def checkInstant : DecisionTransaction Instant := do
  require (context.time.aware = true) (.value "merchant decision timestamp must be timezone-aware")
  pure context.time.instant

def evidenceOf (draws : EvidenceDraws) (owner : Uuid) (authenticated : Option Uuid) (basis : String)
    (result : MerchantDecisionState) (reason : Option MerchantRejectionReason) (time : Instant) :
    MerchantDecisionEvidence where
  evidenceId := draws.evidenceId
  decisionCaseId := row.decisionCaseId
  orderId := row.orderId
  merchantId := row.merchantId
  merchantLocationId := row.merchantLocationId
  authenticatedSubjectId := authenticated
  merchantOwnerIdentityId := owner
  authorityBasis := basis
  result
  rejectionReason := reason
  policyVersion := row.policyVersion
  decidedAt := time
  expiresAt := row.expiresAt
  correlationId := context.correlationId
  causationId := context.causationId

def appendDecisionAudit (auditId : Uuid) (actor : ActorType) (actorId : Option Uuid)
    (action : String) (row : MerchantDecisionCase) (metadata : SafeAuditMetadata)
    (key : Option String) : DecisionTransaction Unit := do
  require (∀ text ∈ key, 8 ≤ text.length ∧ text.length ≤ 128) (.field "idempotency_key")
  let _ ← within DecisionStore.audits (fun audits store => { store with audits })
    (PersistenceKernel.Audit.append
      { eventId := auditId, occurredAt := context.time.instant, actorType := actor
        actorId := actorId.map toString, action := "merchant_orders.decision." ++ action
        resourceType := "merchant_decision_case", resourceId := some (toString row.decisionCaseId)
        outcome := .success, reason := none, correlationId := context.correlationId
        causationId := some context.causationId, requestId := none
        sourceModule := "merchant_orders", safeMetadata := metadata, idempotencyKey := key })
  pure ()

def admitDecision (orderId merchantLocationId auditId : Uuid) :
    DecisionTransaction MerchantDecisionCase := do
  let instant ← checkInstant context
  let allowed ← hasPermission context.grants context.subject.identityId
    "merchant_orders.admit_decision" context.time
  require (allowed = true) (.conflict "merchant_decision_admission_denied")
  let found ← within DecisionStore.orders (fun orders store => { store with orders })
    (getOrder orderId)
  let order ← demand (found.filter fun order => order.state = .waitingForMerchantConfirmation)
    (.conflict "merchant_decision_order_invalid")
  require (context.activeBranches order.merchantId merchantLocationId = true)
    (.conflict "merchant_location_invalid")
  let result ← admitDecisionCase
    { decisionCaseId := context.caseId, orderId := order.orderId, orderVersion := order.version
      merchantId := order.merchantId, merchantLocationId, state := .pending
      policyVersion := config.policy.version, windowStartedAt := instant
      expiresAt := instant + config.policy.maximumWindowSeconds * 1000000, version := 1
      createdAt := instant, updatedAt := instant }
  appendDecisionAudit context auditId (actorType context.subject.identityType)
    (some context.subject.identityId) "admit" result
    [("operation", .text "merchant_decision_admit"),
      ("policy_version", .number result.policyVersion), ("state_to", .text result.state.value)]
    none
  pure result

structure DecideCase where
  decisionCaseId : Uuid
  expectedVersion : Int
  result : MerchantDecisionState
  rejectionReason : Option MerchantRejectionReason
  idempotencyKey : String

def DecideCase.reservation (input : DecideCase) (instant : Instant) : DecisionReservation where
  actorIdentityId := context.subject.identityId
  decisionCaseId := input.decisionCaseId
  idempotencyKey := input.idempotencyKey
  requestHash := config.hash
    { decisionCaseId := input.decisionCaseId, expectedVersion := input.expectedVersion
      result := input.result, rejectionReason := input.rejectionReason }
  responseVersion := none
  createdAt := instant

def decisionMetadata (evidence : MerchantDecisionEvidence) : SafeAuditMetadata :=
  [("operation", .text "merchant_decision"), ("policy_version", .number evidence.policyVersion),
    ("state_to", .text evidence.result.value)]

def decisionAuthority (merchant : MerchantProfile) : DecisionTransaction String :=
  if context.subject.identityId = merchant.ownerIdentityId then pure "merchant_owner"
  else demand
    (context.staffAuthority row.merchantId row.merchantLocationId context.subject.identityId)
    (.conflict "access_denied")

/-- `MerchantDecisionApplication.decide`. -/
def decideCase (input : DecideCase) (draws : EvidenceDraws) :
    DecisionTransaction MerchantDecisionCase := do
  require (input.result = .accepted ∨ input.result = .rejected)
    (.conflict "merchant_decision_result_invalid")
  require (input.result = .rejected ↔ input.rejectionReason.isSome = true)
    (.conflict "merchant_decision_reason_invalid")
  let instant ← checkInstant context
  let (previous, created) ← reserveDecision (input.reservation config context instant)
  let store ← get
  if created = false then
    demand ((store.cases.find input.decisionCaseId).filter fun row => some row.version = previous)
      (.conflict "idempotency_result_unavailable")
  else do
    let row ← demand (store.cases.find input.decisionCaseId)
      (.conflict "merchant_decision_not_found")
    require (row.version = input.expectedVersion) (.conflict "merchant_decision_version_conflict")
    let merchant ← demand ((context.merchants row.merchantId).filter fun merchant =>
        merchant.state = .approved)
      (.conflict "merchant_unavailable")
    let basis ← decisionAuthority context row merchant
    let target ← decisionTransition row input.result instant
    let evidence := evidenceOf context row draws merchant.ownerIdentityId
      (some context.subject.identityId) basis target input.rejectionReason instant
    let updated ← terminalDecision row evidence
      (some (context.subject.identityId, input.idempotencyKey))
    appendDecisionAudit context draws.auditId (actorType context.subject.identityType)
      (some context.subject.identityId) target.value updated (decisionMetadata evidence)
      (some input.idempotencyKey)
    pure updated

variable (store : DecisionStore)

/-- What `due_decision_cases` selects: due cases that no other transaction has locked. -/
def dueCases (instant : Instant) (locked : List Uuid) (limit : Int) : List MerchantDecisionCase :=
  (orderedBy (fun row : MerchantDecisionCase => toLex (row.expiresAt, row.decisionCaseId))
    (store.cases.rows.filter fun row =>
      row.state = .pending ∧ row.expiresAt ≤ instant ∧ row.decisionCaseId ∉ locked)).take
    limit.toNat

def expireCases (instant : Instant) (draws : Uuid → EvidenceDraws) :
    List MerchantDecisionCase → DecisionTransaction Unit
  | [] => pure ()
  | row :: rest => do
    let merchant ← demand (context.merchants row.merchantId) (.conflict "merchant_unavailable")
    let target ← decisionTransition row .expired instant
    let evidence := evidenceOf context row (draws row.decisionCaseId) merchant.ownerIdentityId none
      "system_policy_expiry" target none instant
    let _ ← terminalDecision row evidence none
    appendDecisionAudit context (draws row.decisionCaseId).auditId .system none target.value row
      (decisionMetadata evidence) none
    expireCases instant draws rest

def expireDue (limit : Int) (locked : List Uuid) (draws : Uuid → EvidenceDraws) :
    DecisionTransaction Nat := do
  let instant ← checkInstant context
  let allowed ← hasPermission context.grants context.subject.identityId
    "merchant_orders.expire_decisions" context.time
  require (allowed = true) (.conflict "merchant_decision_expiry_denied")
  let store ← get
  let due := dueCases store instant locked (min (max limit 1) 100)
  expireCases context instant draws due
  pure due.length

def acceptedDecision (decisionCaseId : Uuid) : Option AcceptedDecision :=
  ((store.cases.find decisionCaseId).filter fun row => row.state = .accepted).bind fun row =>
    (store.evidence.rows.find? fun evidence => evidence.decisionCaseId = decisionCaseId).bind
      fun evidence =>
        if evidence.result = .accepted then
          some
            { decisionCaseId := row.decisionCaseId, evidenceId := evidence.evidenceId
              orderId := row.orderId, orderVersion := row.orderVersion
              merchantId := row.merchantId, merchantLocationId := row.merchantLocationId }
        else none

def admitCanonical (canonical : CanonicalContext) (decisionCaseId : Uuid) :
    DecisionTransaction CanonicalPreparationCase := do
  let store ← get
  within DecisionStore.preparation (fun preparation store => { store with preparation })
    (admitPreparation config.preparation canonical (acceptedDecision store decisionCaseId))

inductive DecisionCall where
  | order (call : OrderCall)
  | admission (context : DecisionContext) (orderId merchantLocationId auditId : Uuid)
  | decision (context : DecisionContext) (input : DecideCase) (draws : EvidenceDraws)
  | expiry (context : DecisionContext) (limit : Int) (locked : List Uuid)
      (draws : Uuid → EvidenceDraws)
  | preparation (context : CanonicalContext) (decisionCaseId : Uuid)

def DecisionCall.body (call : DecisionCall) : DecisionTransaction Unit :=
  match call with
  | .order call => within DecisionStore.orders (fun orders store => { store with orders })
      (call.body config.orders)
  | .admission context orderId merchantLocationId auditId => do
    let _ ← admitDecision config context orderId merchantLocationId auditId
    pure ()
  | .decision context input draws => do
    let _ ← decideCase config context input draws
    pure ()
  | .expiry context limit locked draws => do
    let _ ← expireDue context limit locked draws
    pure ()
  | .preparation context decisionCaseId => do
    let _ ← admitCanonical config context decisionCaseId
    pure ()

def decisionStep (call : DecisionCall) : DecisionStore :=
  commit (call.body config) store

end Ayo.MerchantOrders.Decisions
