/- digest: Canonical preparation cases and their commands. -/

import Ayo.Courier.Store
import Ayo.MerchantOrders.Models

namespace Ayo.MerchantOrders.CanonicalPreparation

open Kernel.UnitOfWork Kernel.KeyedTable Kernel.Columns Kernel.Updates Core.Values
  Core.Authorization
open PersistenceKernel.Audit (AuditLog)
open Courier.Store (actorType)
open Models (MerchantProfile)

inductive CanonicalPreparationState where
  | pending
  | preparing
  | ready
  | unable
deriving DecidableEq

def CanonicalPreparationState.value : CanonicalPreparationState → String
  | .pending => "pending_preparation"
  | .preparing => "preparing"
  | .ready => "ready_for_pickup"
  | .unable => "unable_to_prepare"

inductive CanonicalPreparationAction where
  | start
  | markReady
  | declareUnable
  | correctReadiness
deriving DecidableEq

def CanonicalPreparationAction.value : CanonicalPreparationAction → String
  | .start => "start"
  | .markReady => "mark_ready"
  | .declareUnable => "declare_unable"
  | .correctReadiness => "correct_readiness"

inductive PreparationFailureReason where
  | itemOrModifierUnavailable
  | customerInstructionUnsupported
  | merchantCapacityFailure
  | equipmentOrUtilityFailure
  | foodSafetyConstraint
  | orderEvidenceInvalid
  | technicalOrOperationalIssue
  | otherReviewRequired

inductive ReadinessCorrectionReason where
  | premature
  | compositionRecheck
  | foodSafetyRecheck
  | packagingOrSeal
  | otherReviewRequired

structure PreparationPolicy where
  version : Nat
  maximumEstimateSeconds : Int

/-- A row of `preparation_cases`. -/
structure CanonicalPreparationCase where
  (preparationCaseId decisionCaseId decisionEvidenceId orderId : Uuid)
  orderVersion : Nat
  (merchantId merchantLocationId : Uuid)
  state : CanonicalPreparationState
  policyVersion : Nat
  (estimatedReadyAt overdueObservedAt : Option Instant)
  version : Nat
  (createdAt updatedAt : Instant)

instance : Row CanonicalPreparationCase Uuid :=
  uniqueColumns CanonicalPreparationCase.preparationCaseId
    [fun row => some row.decisionCaseId, fun row => some row.decisionEvidenceId,
      fun row => some row.orderId]

inductive CanonicalPreparationEventType where
  | admitted
  | started
  | readyForPickup
  | unableToPrepare
  | readinessCorrected
  | overdueObserved

structure CanonicalPreparationEvidence where
  preparationCaseId : Uuid
  caseVersion : Nat
  orderId : Uuid
  orderVersion : Nat
  (decisionEvidenceId merchantId merchantLocationId authenticatedSubjectId : Uuid)
  merchantOwnerIdentityId : Uuid
  authorityBasis : String
  eventType : CanonicalPreparationEventType
  (fromState toState : CanonicalPreparationState)
  failureReason : Option PreparationFailureReason
  correctionReason : Option ReadinessCorrectionReason
  policyVersion : Nat
  occurredAt : Instant

structure CanonicalPayload where
  preparationCaseId : Uuid
  version : Int
  action : CanonicalPreparationAction
  estimate : Option Int
  failure : Option PreparationFailureReason
  correction : Option ReadinessCorrectionReason

structure CanonicalReservation where
  (actorIdentityId preparationCaseId : Uuid)
  operation : CanonicalPreparationAction
  (idempotencyKey requestHash : String)
  responseVersion : Option Nat
  createdAt : Instant

def CanonicalReservation.name (row : CanonicalReservation) :
    Uuid × CanonicalPreparationAction × String :=
  (row.actorIdentityId, row.operation, row.idempotencyKey)

instance : Row CanonicalReservation (Uuid × CanonicalPreparationAction × String) :=
  .keyed CanonicalReservation.name

/-- A row of `preparation_outbox`. -/
structure CanonicalMessage where
  (messageId preparationCaseId : Uuid)
  eventType : CanonicalPreparationEventType
  occurredAt : Instant

instance : Row CanonicalMessage Uuid := .keyed CanonicalMessage.messageId

structure CanonicalStore where
  cases : Table CanonicalPreparationCase := .empty
  evidence : List CanonicalPreparationEvidence := []
  reservations : Table CanonicalReservation := .empty
  outbox : Table CanonicalMessage := .empty
  audits : AuditLog := .empty

abbrev CanonicalTransaction (α : Type) := Transaction CanonicalStore Failure α

def transition (state : CanonicalPreparationState) (action : CanonicalPreparationAction) :
    CanonicalTransaction CanonicalPreparationState :=
  match state, action with
  | .pending, .start => pure .preparing
  | .pending, .declareUnable => pure .unable
  | .preparing, .markReady => pure .ready
  | .preparing, .declareUnable => pure .unable
  | .ready, .correctReadiness => pure .preparing
  | _, _ => throw (.conflict "preparation_transition_not_allowed")

structure CanonicalConfig where
  policy : PreparationPolicy
  hash : CanonicalPayload → String

structure CanonicalContext where
  subject : AuthorizationSubject
  time : DateTime
  (correlationId causationId caseId messageId auditId : Uuid)
  grants : Grants
  merchants : Uuid → Option MerchantProfile
  staffAuthority : Uuid → Uuid → Uuid → CanonicalPreparationAction → Option String

variable (config : CanonicalConfig) (context : CanonicalContext)

def insertMessage (preparationCaseId : Uuid) (eventType : CanonicalPreparationEventType)
    (occurredAt : Instant) : CanonicalTransaction Unit := do
  let store ← get
  let outbox ← demand (store.outbox.insert?
      { messageId := context.messageId, preparationCaseId, eventType, occurredAt })
    (.integrity "preparation_outbox")
  put { store with outbox }

/-- `admit` of the repository: the case of the decision, which it inserts unless there is one. -/
def admitCase (value : CanonicalPreparationCase) : CanonicalTransaction CanonicalPreparationCase := do
  let store ← get
  match store.cases.rows.find? fun row => row.decisionCaseId = value.decisionCaseId with
  | some existing => pure existing
  | none =>
    let cases ← demand (store.cases.insert? value) (.integrity "preparation_cases")
    put { store with cases }
    insertMessage context value.preparationCaseId .admitted value.createdAt
    pure value

def reserve (row : CanonicalReservation) : CanonicalTransaction (Option Nat × Bool) := do
  let store ← get
  match store.reservations.find row.name with
  | some found =>
    require (found.preparationCaseId = row.preparationCaseId ∧ found.requestHash = row.requestHash)
      (.conflict "idempotency_conflict")
    pure (found.responseVersion, false)
  | none =>
    let reservations ← demand (store.reservations.insert? row) (.integrity "preparation_idempotency")
    put { store with reservations }
    pure (none, true)

variable (current : CanonicalPreparationCase)

def updateCase (change : CanonicalPreparationCase → CanonicalPreparationCase) :
    CanonicalTransaction Unit := do
  let store ← get
  let row ← demand ((store.cases.find current.preparationCaseId).filter fun row =>
      row.state = current.state ∧ row.version = current.version)
    (.conflict "preparation_version_conflict")
  let cases ← demand (store.cases.replace? (change row)) (.integrity "preparation_cases")
  put { store with cases }

def applyEvidence (target : CanonicalPreparationState) (evidence : CanonicalPreparationEvidence)
    (estimatedReadyAt : Option Instant) (actor : Uuid) (operation : CanonicalPreparationAction)
    (key : String) : CanonicalTransaction CanonicalPreparationCase := do
  let change (row : CanonicalPreparationCase) : CanonicalPreparationCase :=
    { row with state := target, version := current.version + 1, estimatedReadyAt
               updatedAt := evidence.occurredAt }
  updateCase current change
  let store ← get
  let reservations ← demand (store.reservations.rewrite? (updateWhere
      (fun row : CanonicalReservation => row.actorIdentityId = actor ∧
        row.preparationCaseId = current.preparationCaseId ∧ row.operation = operation ∧
        row.idempotencyKey = key)
      fun row => { row with responseVersion := some (current.version + 1) }))
    (.integrity "preparation_idempotency")
  put { store with evidence := store.evidence ++ [evidence], reservations }
  insertMessage context evidence.preparationCaseId evidence.eventType evidence.occurredAt
  pure (change current)

def checkTime : CanonicalTransaction Instant := do
  require (context.time.aware = true) (.value "preparation timestamp must be timezone-aware")
  pure context.time.instant

def appendAudit (action : String) (row : CanonicalPreparationCase) (key : Option String) :
    CanonicalTransaction Unit := do
  require (∀ text ∈ key, 8 ≤ text.length ∧ text.length ≤ 128) (.field "idempotency_key")
  let _ ← within CanonicalStore.audits (fun audits store => { store with audits })
    (PersistenceKernel.Audit.append
      { eventId := context.auditId, occurredAt := context.time.instant
        actorType := actorType context.subject.identityType
        actorId := some (toString context.subject.identityId)
        action := "merchant_preparation." ++ action, resourceType := "preparation_case"
        resourceId := some (toString row.preparationCaseId), outcome := .success, reason := none
        correlationId := context.correlationId, causationId := some context.causationId
        requestId := none, sourceModule := "merchant_preparation"
        safeMetadata := [("operation", .text action), ("state_to", .text row.state.value)]
        idempotencyKey := key })
  pure ()

structure AcceptedDecision where
  (decisionCaseId evidenceId orderId : Uuid)
  orderVersion : Nat
  (merchantId merchantLocationId : Uuid)

/-- `CanonicalPreparationApplication.admit`, on the decision that it reads. -/
def admitPreparation (decision : Option AcceptedDecision) :
    CanonicalTransaction CanonicalPreparationCase := do
  let instant ← checkTime context
  let allowed ← hasPermission context.grants context.subject.identityId
    "merchant_preparation.admit" context.time
  require (allowed = true) (.conflict "preparation_admission_denied")
  let accepted ← demand decision (.conflict "accepted_decision_required")
  let result ← admitCase context
    { preparationCaseId := context.caseId, decisionCaseId := accepted.decisionCaseId
      decisionEvidenceId := accepted.evidenceId, orderId := accepted.orderId
      orderVersion := accepted.orderVersion, merchantId := accepted.merchantId
      merchantLocationId := accepted.merchantLocationId, state := .pending
      policyVersion := config.policy.version, estimatedReadyAt := none, overdueObservedAt := none
      version := 1, createdAt := instant, updatedAt := instant }
  appendAudit context "admitted" result none
  pure result

structure CanonicalCommand where
  preparationCaseId : Uuid
  expectedVersion : Int
  action : CanonicalPreparationAction
  estimateSeconds : Option Int
  failureReason : Option PreparationFailureReason
  correctionReason : Option ReadinessCorrectionReason
  idempotencyKey : String

def validateFields (command : CanonicalCommand) : CanonicalTransaction Unit := do
  require (command.action = .start ↔ command.estimateSeconds.isSome = true)
    (.conflict "preparation_estimate_invalid")
  require (∀ estimate ∈ command.estimateSeconds, 60 ≤ estimate ∧
      estimate ≤ config.policy.maximumEstimateSeconds)
    (.conflict "preparation_estimate_invalid")
  require (command.action = .declareUnable ↔ command.failureReason.isSome = true)
    (.conflict "preparation_failure_reason_invalid")
  require (command.action = .correctReadiness ↔ command.correctionReason.isSome = true)
    (.conflict "preparation_correction_reason_invalid")

def CanonicalPreparationAction.eventType :
    CanonicalPreparationAction → CanonicalPreparationEventType
  | .start => .started
  | .markReady => .readyForPickup
  | .declareUnable => .unableToPrepare
  | .correctReadiness => .readinessCorrected

def CanonicalCommand.reservation (command : CanonicalCommand) (instant : Instant) :
    CanonicalReservation where
  actorIdentityId := context.subject.identityId
  preparationCaseId := command.preparationCaseId
  operation := command.action
  idempotencyKey := command.idempotencyKey
  requestHash := config.hash
    { preparationCaseId := command.preparationCaseId, version := command.expectedVersion
      action := command.action, estimate := command.estimateSeconds
      failure := command.failureReason, correction := command.correctionReason }
  responseVersion := none
  createdAt := instant

def authorityBasis (row : CanonicalPreparationCase) (merchant : MerchantProfile)
    (action : CanonicalPreparationAction) : CanonicalTransaction String :=
  if context.subject.identityId = merchant.ownerIdentityId then pure "merchant_owner"
  else demand
    (context.staffAuthority row.merchantId row.merchantLocationId context.subject.identityId action)
    (.conflict "access_denied")

def command (input : CanonicalCommand) : CanonicalTransaction CanonicalPreparationCase := do
  let instant ← checkTime context
  validateFields config input
  let (previous, created) ← reserve (input.reservation config context instant)
  let store ← get
  if created = false then
    demand ((store.cases.find input.preparationCaseId).filter fun row =>
        some row.version = previous)
      (.conflict "idempotency_result_unavailable")
  else do
    let row ← demand (store.cases.find input.preparationCaseId) (.conflict "preparation_not_found")
    require (row.version = input.expectedVersion) (.conflict "preparation_version_conflict")
    let merchant ← demand ((context.merchants row.merchantId).filter fun merchant =>
        merchant.state = .approved)
      (.conflict "merchant_unavailable")
    let basis ← authorityBasis context row merchant input.action
    let target ← transition row.state input.action
    let estimatedReadyAt := match input.estimateSeconds with
      | some seconds => some (instant + seconds * 1000000)
      | none => row.estimatedReadyAt
    let result ← applyEvidence context row target
      { preparationCaseId := row.preparationCaseId, caseVersion := row.version + 1
        orderId := row.orderId, orderVersion := row.orderVersion
        decisionEvidenceId := row.decisionEvidenceId, merchantId := row.merchantId
        merchantLocationId := row.merchantLocationId
        authenticatedSubjectId := context.subject.identityId
        merchantOwnerIdentityId := merchant.ownerIdentityId, authorityBasis := basis
        eventType := input.action.eventType, fromState := row.state, toState := target
        failureReason := input.failureReason, correctionReason := input.correctionReason
        policyVersion := row.policyVersion, occurredAt := instant }
      estimatedReadyAt context.subject.identityId input.action input.idempotencyKey
    appendAudit context input.action.value result (some input.idempotencyKey)
    pure result

def observeOverdue (preparationCaseId : Uuid) (expectedVersion : Int) :
    CanonicalTransaction CanonicalPreparationCase := do
  let instant ← checkTime context
  let allowed ← hasPermission context.grants context.subject.identityId
    "merchant_preparation.observe_overdue" context.time
  require (allowed = true) (.conflict "overdue_observation_denied")
  let store ← get
  let row ← demand ((store.cases.find preparationCaseId).filter fun row =>
      row.version = expectedVersion)
    (.conflict "preparation_version_conflict")
  require (row.state = .preparing ∧ ∃ ready ∈ row.estimatedReadyAt, ready ≤ instant)
    (.conflict "preparation_not_overdue")
  if row.overdueObservedAt.isSome = true then pure row
  else do
    let change (row : CanonicalPreparationCase) : CanonicalPreparationCase :=
      { row with overdueObservedAt := some instant, version := row.version + 1
                 updatedAt := instant }
    updateCase row change
    insertMessage context row.preparationCaseId .overdueObserved instant
    pure (change row)

variable {config} {context} {s t : CanonicalStore} {row : CanonicalPreparationCase}

theorem checkTime_ok {instant : Instant} (ran : checkTime context s = .ok (instant, t)) :
    instant = context.time.instant ∧ t = s := by
  simp only [checkTime, ↓steps_ok] at ran
  obtain ⟨_, rfl, rfl⟩ := ran
  exact ⟨rfl, rfl⟩

theorem insertMessage_keepsCases {preparationCaseId : Uuid}
    {eventType : CanonicalPreparationEventType} {occurredAt : Instant} :
    Keeps CanonicalStore.cases (insertMessage context preparationCaseId eventType occurredAt) := by
  intro s u t ran
  simp only [insertMessage, ↓steps_ok] at ran
  obtain ⟨_, _, rfl⟩ := ran
  rfl

theorem appendAudit_keepsCases {action : String} {key : Option String} :
    Keeps CanonicalStore.cases (appendAudit context action row key) := by
  refine .bind .require fun _ => .bind (.within ?_ _) fun _ => .pure
  exact fun _ _ => rfl

/-- An admission leaves the cases or adds one for the order of the accepted decision. -/
theorem admitPreparation_ok {decision : Option AcceptedDecision}
    (ran : admitPreparation config context decision s = .ok (row, t)) :
    t.cases.rows = s.cases.rows ∨ ∃ accepted added, decision = some accepted ∧
      added.orderId = accepted.orderId ∧ t.cases.rows = s.cases.rows ++ [added] := by
  rw [admitPreparation, bind_ok] at ran
  obtain ⟨instant, checked, checks, ran⟩ := ran
  obtain ⟨rfl, rfl⟩ := checkTime_ok checks
  simp only [↓hasPermission_bind_ok, ↓steps_ok] at ran
  obtain ⟨_, _, accepted, decided, ran⟩ := ran
  rw [bind_ok] at ran
  obtain ⟨result, admitted, admits, ran⟩ := ran
  rw [bind_pure_ok] at ran
  obtain ⟨⟨⟩, audits, _⟩ := ran
  rw [appendAudit_keepsCases _ _ _ audits]
  simp only [admitCase, ↓get_bind_ok] at admits
  cases standing : checked.cases.rows.find? fun row =>
      row.decisionCaseId = accepted.decisionCaseId with
  | some existing =>
    simp only [standing, pure_ok] at admits
    obtain ⟨_, rfl⟩ := admits
    exact .inl rfl
  | none =>
    simp only [standing, ↓steps_ok, Table.insert?_eq_some] at admits
    obtain ⟨table, rows, admits⟩ := admits
    rw [bind_pure_ok] at admits
    obtain ⟨⟨⟩, inserts, _⟩ := admits
    rw [insertMessage_keepsCases _ _ _ inserts]
    exact .inr ⟨accepted, _, decided, rfl, rows⟩

end Ayo.MerchantOrders.CanonicalPreparation
