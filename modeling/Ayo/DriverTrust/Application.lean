/- digest: Reviews, added records and stored decisions as units of work. -/

import Ayo.DriverTrust.Engine

namespace Ayo.DriverTrust.Application

open Kernel.UnitOfWork Core.Values Core.Authorization
open PersistenceKernel.Audit (AuditEvent ActorType SafeAuditMetadata)
open Models Engine

def createCase (onboarding : OnboardingCase) : TrustTransaction OnboardingCase := do
  let store ← get
  let cases ← demand (store.cases.insert? onboarding) (.integrity "driver_onboarding_cases")
  put { store with cases }
  pure onboarding

def written (row onboarding : OnboardingCase) : OnboardingCase :=
  { row with state := onboarding.state, updatedAt := onboarding.updatedAt
             expiresAt := onboarding.expiresAt, version := onboarding.version }

def saveCase (onboarding : OnboardingCase) (expectedVersion : Nat) :
    TrustTransaction OnboardingCase := do
  let store ← get
  let row ← demand ((store.cases.find onboarding.caseId).filter fun row =>
    row.version = expectedVersion) (.conflict "Onboarding case changed concurrently")
  let cases ← demand (store.cases.replace? (written row onboarding))
    (.integrity "driver_onboarding_cases")
  put { store with cases }
  pure (written row onboarding)

def addEvidence (item : DocumentEvidence) : TrustTransaction DocumentEvidence := do
  let store ← get
  require ((store.cases.find item.caseId).isSome = true ∧
      ∀ vehicleId ∈ item.vehicleId, (store.vehicles.find vehicleId).isSome = true)
    (.conflict "Document evidence was already submitted")
  let evidence ← demand (store.evidence.insert? item)
    (.conflict "Document evidence was already submitted")
  put { store with evidence }
  pure item

def listCurrentEvidence (store : TrustStore) (driverIdentityId : Uuid) : List DocumentEvidence :=
  store.evidence.rows.filter fun item =>
    item.driverIdentityId = driverIdentityId ∧ item.supersededByEvidenceId = none

def saveReview (evidenceId : Uuid) (status : EvidenceStatus) (reviewer : Uuid)
    (reasonCodes : List String) (reviewedAt : Instant) (expectedVersion : Int) :
    TrustTransaction DocumentEvidence := do
  require (status = .approved ∨ status = .rejected)
    (.value "Review outcome must be approved or rejected")
  let store ← get
  let row ← demand ((store.evidence.find evidenceId).filter fun row =>
    (row.version : Int) = expectedVersion ∧ (row.status = .submitted ∨ row.status = .underReview))
    (.conflict "Evidence changed concurrently")
  let changed := row.withReview status reviewer reasonCodes reviewedAt
  let evidence ← demand (store.evidence.replace? changed) (.integrity "driver_document_evidence")
  put { store with evidence }
  require (∀ code ∈ reasonCodes, isCode code = true) (.field "reason_codes")
  pure changed

def addVehicle (vehicle : Vehicle) : TrustTransaction Unit := do
  let store ← get
  let vehicles ← demand (store.vehicles.insert? vehicle) (.integrity "driver_vehicles")
  put { store with vehicles }

def addVehicleAuthorization (authorization : DriverVehicleAuthorization) :
    TrustTransaction Unit := do
  let store ← get
  require ((store.vehicles.find authorization.vehicleId).isSome = true)
    (.integrity "driver_vehicle_authorizations")
  let authorizations ← demand (store.authorizations.insert? authorization)
    (.integrity "driver_vehicle_authorizations")
  put { store with authorizations }

def appendEligibility (decision : EligibilityDecision) : TrustTransaction Unit := do
  let store ← get
  let decisions ← demand (store.decisions.insert? decision)
    (.integrity "driver_eligibility_decisions")
  put { store with decisions }

def auditActor : IdentityType → ActorType
  | .anonymous => .anonymous
  | .rider => .rider
  | .driver => .driver
  | .staff => .staff
  | .administrator => .administrator
  | .service => .service
  | .merchant => .service
  | .serviceProvider => .service

def auditOf (subject : AuthorizationSubject) (auditId : Uuid) (time : Instant)
    (action resourceType : String) (resourceId : Uuid) (reasonCode : String)
    (metadata : SafeAuditMetadata) : AuditEvent where
  eventId := auditId
  occurredAt := time
  actorType := auditActor subject.identityType
  actorId := some (toString subject.identityId)
  action
  resourceType
  resourceId := some (toString resourceId)
  outcome := .success
  reason := some reasonCode
  correlationId := resourceId
  causationId := none
  requestId := none
  sourceModule := "driver_trust"
  safeMetadata := metadata
  idempotencyKey := none

def appendAudit (event : AuditEvent) : TrustTransaction Unit := do
  let _ ← within TrustStore.audits (fun audits store => { store with audits })
    (PersistenceKernel.Audit.append event)
  pure ()

def requireReviewer (grants : Grants) (subject : AuthorizationSubject) (time : DateTime) :
    TrustTransaction Unit := do
  let allowed ← hasPermission grants subject.identityId "driver_trust.review" time
  require (allowed = true) (.conflict "access_denied")

/-- A stored case is moved by `transition_case` and written by `save_case`; the state that it had is
returned as well. -/
def moveCase (caseId : Uuid) (target : OnboardingState) (time : Instant) :
    TrustTransaction (OnboardingState × OnboardingCase) := do
  let store ← get
  let onboarding ← demand (store.cases.find caseId) (.conflict "resource_access_denied")
  let changed ← transitionCase onboarding target time
  let saved ← saveCase changed onboarding.version
  pure (onboarding.state, saved)

/-- The audit event of a review has fields in its metadata that `audit/privacy.py` does not list. -/
def reviewTransition (grants : Grants) (subject : AuthorizationSubject) (caseId : Uuid)
    (target : OnboardingState) (reasonCode : String) (time : DateTime) (auditId : Uuid) :
    TrustTransaction OnboardingCase := do
  requireReviewer grants subject time
  let moved ← moveCase caseId target time.instant
  appendAudit (auditOf subject auditId time.instant "driver_trust.onboarding.transition"
    "driver_onboarding_case" caseId reasonCode
    [("from", .text moved.1.value), ("to", .text target.value),
     ("policy_version", .text moved.2.policyVersion.1)])
  pure moved.2

def reviewEvidence (grants : Grants) (subject : AuthorizationSubject) (evidenceId : Uuid)
    (outcome : EvidenceStatus) (expectedVersion : Int) (reasonCodes : List String)
    (time : DateTime) (auditId : Uuid) : TrustTransaction DocumentEvidence := do
  requireReviewer grants subject time
  let reviewed ← saveReview evidenceId outcome subject.identityId reasonCodes time.instant
    expectedVersion
  appendAudit (auditOf subject auditId time.instant "driver_trust.evidence.review"
    "driver_document_evidence" evidenceId (reasonCodes.headD "review_completed")
    [("outcome", .text outcome.value), ("policy_version", .text reviewed.policyVersion.1)])
  pure reviewed

/-- Which case is the onboarding case of a driver, which accounts are active, who is under an
unresolved restriction, and the policy of the evaluations. -/
structure TrustConfig where
  policy : EligibilityPolicy
  caseOf : Uuid → Uuid
  (accountActive unresolvedRestriction : Uuid → Bool)

variable (config : TrustConfig)

def onboardingOf (store : TrustStore) (driverIdentityId : Uuid) : Option OnboardingCase :=
  (store.cases.find (config.caseOf driverIdentityId)).filter fun onboarding =>
    onboarding.driverIdentityId = driverIdentityId

def authorizationOf (store : TrustStore) (driverIdentityId vehicleId : Uuid) :
    Option DriverVehicleAuthorization :=
  store.authorizations.rows.find? fun authorization =>
    authorization.driverIdentityId = driverIdentityId ∧ authorization.vehicleId = vehicleId ∧
      authorization.status = .authorized

def inputsOf (store : TrustStore) (driverIdentityId vehicleId : Uuid) (time : Instant) :
    EligibilityInputs where
  driverIdentityId
  accountActive := config.accountActive driverIdentityId
  onboarding := onboardingOf config store driverIdentityId
  vehicle := store.vehicles.find vehicleId
  authorization := authorizationOf store driverIdentityId vehicleId
  evidence := listCurrentEvidence store driverIdentityId
  time
  unresolvedRestriction := config.unresolvedRestriction driverIdentityId

def decideEligibility (driverIdentityId vehicleId : Uuid) (time : Instant)
    (decisionId auditReference : Uuid) : TrustTransaction Unit := do
  let store ← get
  appendEligibility (evaluateEligibility config.policy
    (inputsOf config store driverIdentityId vehicleId time) decisionId auditReference)

/-- The commands of the application, and units of work over the repository itself. -/
inductive TrustCommand where
  | openCase (onboarding : OnboardingCase)
  | move (caseId : Uuid) (target : OnboardingState)
  | transition (grants : Grants) (subject : AuthorizationSubject) (caseId : Uuid)
      (target : OnboardingState) (reasonCode : String) (auditId : Uuid)
  | submit (item : DocumentEvidence)
  | saveReview (evidenceId : Uuid) (status : EvidenceStatus) (reviewer : Uuid)
      (reasonCodes : List String) (expectedVersion : Int)
  | review (grants : Grants) (subject : AuthorizationSubject) (evidenceId : Uuid)
      (outcome : EvidenceStatus) (expectedVersion : Int) (reasonCodes : List String)
      (auditId : Uuid)
  | registerVehicle (vehicle : Vehicle)
  | authorize (authorization : DriverVehicleAuthorization)
  | evaluate (driverIdentityId vehicleId decisionId auditReference : Uuid)

structure TimedCommand where
  time : DateTime
  command : TrustCommand

def trustStore (store : TrustStore) (input : TimedCommand) : TrustStore :=
  match input.command with
  | .openCase onboarding => commit (createCase onboarding) store
  | .move caseId target => commit (moveCase caseId target input.time.instant) store
  | .transition grants subject caseId target reasonCode auditId =>
    commit (reviewTransition grants subject caseId target reasonCode input.time auditId) store
  | .submit item => commit (addEvidence item) store
  | .saveReview evidenceId status reviewer reasonCodes expectedVersion =>
    commit (saveReview evidenceId status reviewer reasonCodes input.time.instant expectedVersion)
      store
  | .review grants subject evidenceId outcome expectedVersion reasonCodes auditId =>
    commit (reviewEvidence grants subject evidenceId outcome expectedVersion reasonCodes input.time
      auditId) store
  | .registerVehicle vehicle => commit (addVehicle vehicle) store
  | .authorize authorization => commit (addVehicleAuthorization authorization) store
  | .evaluate driverIdentityId vehicleId decisionId auditReference =>
    commit (decideEligibility config driverIdentityId vehicleId input.time.instant decisionId
      auditReference) store

structure TrustSystem where
  store : TrustStore := {}
  clock : Instant

def trustStep (system : TrustSystem) (input : TimedCommand) : TrustSystem where
  store := trustStore config system.store input
  clock := max system.clock input.time.instant

end Ayo.DriverTrust.Application
