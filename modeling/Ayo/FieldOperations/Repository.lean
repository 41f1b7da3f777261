/- digest: Field partners, assistance cases with their state graph, and their tables. -/

import Ayo.Core.Authorization
import Ayo.Kernel.Ordering

namespace Ayo.FieldOperations.Models

open Kernel.KeyedTable Core.Values

inductive PartnerStatus where
  | active
  | inactive
deriving DecidableEq

def PartnerStatus.value : PartnerStatus → String
  | .active => "active"
  | .inactive => "inactive"

inductive VerificationStatus where
  | pending
  | verified
  | revoked
deriving DecidableEq

def VerificationStatus.value : VerificationStatus → String
  | .pending => "pending"
  | .verified => "verified"
  | .revoked => "revoked"

inductive CaseStatus where
  | assigned
  | inProgress
  | businessOwnerAssisted
  | ownerVerificationCompleted
  | submittedForReview
  | approved
  | returnedForCorrection
  | rejected
deriving DecidableEq

def CaseStatus.value : CaseStatus → String
  | .assigned => "assigned"
  | .inProgress => "in_progress"
  | .businessOwnerAssisted => "business_owner_assisted"
  | .ownerVerificationCompleted => "owner_verification_completed"
  | .submittedForReview => "submitted_for_review"
  | .approved => "approved"
  | .returnedForCorrection => "returned_for_correction"
  | .rejected => "rejected"

inductive CaseAction where
  | start
  | recordOwnerAssisted
  | confirmOwnerVerification
  | submitForReview
  | resumeCorrection
deriving DecidableEq

def CaseAction.value : CaseAction → String
  | .start => "start"
  | .recordOwnerAssisted => "record_owner_assisted"
  | .confirmOwnerVerification => "confirm_owner_verification"
  | .submitForReview => "submit_for_review"
  | .resumeCorrection => "resume_correction"

inductive ReviewDecision where
  | approve
  | return
  | reject
deriving DecidableEq

def ReviewDecision.value : ReviewDecision → String
  | .approve => "approve"
  | .return => "return"
  | .reject => "reject"

inductive ConductEvidenceKind where
  | trainingCompleted
  | codeOfConductAccepted
  | qualityObservation
  | complaintRecorded
  | temporarySuspension
  | permanentRevocation

def ConductEvidenceKind.value : ConductEvidenceKind → String
  | .trainingCompleted => "training_completed"
  | .codeOfConductAccepted => "code_of_conduct_accepted"
  | .qualityObservation => "quality_observation"
  | .complaintRecorded => "complaint_recorded"
  | .temporarySuspension => "temporary_suspension"
  | .permanentRevocation => "permanent_revocation"

inductive ActivityKind where
  | businessVisited
  | driverRecruited
  | courierRecruited
  | verificationCompleted
  | onboardingCompleted
  | qualityChecked
  | catalogueAssisted
  | profileAssisted
  | hoursAssisted
deriving DecidableEq

def ActivityKind.value : ActivityKind → String
  | .businessVisited => "business_visited"
  | .driverRecruited => "driver_recruited"
  | .courierRecruited => "courier_recruited"
  | .verificationCompleted => "verification_completed"
  | .onboardingCompleted => "onboarding_completed"
  | .qualityChecked => "quality_checked"
  | .catalogueAssisted => "catalogue_assisted"
  | .profileAssisted => "profile_assisted"
  | .hoursAssisted => "hours_assisted"

inductive ActorRole where
  | representative
  | owner
  | reviewer
deriving DecidableEq

structure FieldPartner where
  partnerId : Uuid
  publicPartnerId : String
  identityId : Uuid
  photoReference : BoundedText 16 160
  qrReferenceHash : Digest
  verificationStatus : VerificationStatus
  status : PartnerStatus
  version : Nat
  (createdAt updatedAt : Instant)

def FieldPartner.SharesColumn (a b : FieldPartner) : Prop :=
  a.publicPartnerId = b.publicPartnerId ∨ a.identityId = b.identityId ∨
    a.qrReferenceHash = b.qrReferenceHash
deriving Decidable

theorem FieldPartner.SharesColumn.symm {a b : FieldPartner} (shares : a.SharesColumn b) :
    b.SharesColumn a :=
  shares.imp Eq.symm (.imp Eq.symm Eq.symm)

instance : Row FieldPartner Uuid where
  key := FieldPartner.partnerId
  clash a b := a.partnerId = b.partnerId ∨ a.SharesColumn b
  clash_symm clash := clash.imp Eq.symm FieldPartner.SharesColumn.symm

structure PartnerRole where
  roleId : Uuid
  code : Code
  publicTitle : BoundedText 2 100
  allowedActivities : List ActivityKind
  active : Bool
  version : Nat

instance : Row PartnerRole Uuid := .keyedUnique PartnerRole.roleId PartnerRole.code

/-- `^[A-Z]{2}-[A-Z0-9-]{2,12}$`. -/
def isMarketCode (text : String) : Bool :=
  match text.toList with
  | first :: second :: dash :: rest =>
    first.isUpper && second.isUpper && dash == '-' && (2 ≤ rest.length && rest.length ≤ 12) &&
      rest.all fun c => c.isUpper || c.isDigit || c == '-'
  | _ => false

abbrev MarketCode := { text : String // isMarketCode text = true }

structure Territory where
  territoryId : Uuid
  marketCode : MarketCode
  (region city : BoundedText 2 100)
  district : Option (BoundedText 0 100)
  name : BoundedText 2 120
  active : Bool
  version : Nat

/-- The rule of `uq_field_territory_path`, under which territories without a district differ. -/
def Territory.SamePath (a b : Territory) : Prop :=
  a.district.isSome = true ∧ a.marketCode = b.marketCode ∧ a.region = b.region ∧ a.city = b.city ∧
    a.district = b.district ∧ a.name = b.name
deriving Decidable

theorem Territory.SamePath.symm {a b : Territory} (same : a.SamePath b) : b.SamePath a := by
  obtain ⟨present, market, region, city, district, name⟩ := same
  exact ⟨district ▸ present, market.symm, region.symm, city.symm, district.symm, name.symm⟩

instance : Row Territory Uuid where
  key := Territory.territoryId
  clash a b := a.territoryId = b.territoryId ∨ a.SamePath b
  clash_symm clash := clash.imp Eq.symm Territory.SamePath.symm

structure PartnerAssignment where
  (assignmentId partnerId roleId territoryId : Uuid)
  startsAt : Instant
  endsAt : Option Instant
  window : ∀ ending ∈ endsAt, startsAt < ending

instance : Row PartnerAssignment Uuid := .keyed PartnerAssignment.assignmentId

def PartnerAssignment.InForce (instant : Instant) (assignment : PartnerAssignment) : Prop :=
  assignment.startsAt ≤ instant ∧ ∀ ending ∈ assignment.endsAt, instant < ending
deriving Decidable

structure AssistanceCase where
  (caseId partnerId territoryId : Uuid)
  subjectType : Code
  subjectId : Uuid
  ownerIdentityId : Option Uuid
  capabilityCode : Code
  status : CaseStatus
  version : Nat
  (createdAt updatedAt : Instant)

instance : Row AssistanceCase Uuid :=
  .keyedUnique AssistanceCase.caseId fun row =>
    (row.subjectType, row.subjectId, row.capabilityCode)

structure ReviewChecklist where
  (correctBusiness correctOwner requiredVerificationCompleted requiredDocumentsCompleted : Bool)
  (noDuplicateOnboarding noRepresentativeMisconduct businessReadinessEvidence : Bool)

def ReviewChecklist.complete (checklist : ReviewChecklist) : Bool :=
  checklist.correctBusiness && checklist.correctOwner && checklist.requiredVerificationCompleted &&
    checklist.requiredDocumentsCompleted && checklist.noDuplicateOnboarding &&
    checklist.noRepresentativeMisconduct && checklist.businessReadinessEvidence

/-- `^[a-z][a-z0-9_.-]{1,62}$`. -/
def isShortCode : String → Bool := isPattern Char.isLower isCodeChar 1 62

abbrev ShortCode := { text : String // isShortCode text = true }

structure CaseEvidence where
  (evidenceId caseId : Uuid)
  eventType : String
  fromStatus : Option CaseStatus
  toStatus : CaseStatus
  actorIdentityId : Uuid
  actorRole : ActorRole
  evidenceReference : BoundedText 16 160
  reasonCode : Option ShortCode
  checklist : Option ReviewChecklist
  caseVersion : Nat
  occurredAt : Instant

instance : Row CaseEvidence Uuid :=
  .keyedUnique CaseEvidence.evidenceId fun row => (row.caseId, row.caseVersion)

structure ConductEvidence where
  (evidenceId partnerId : Uuid)
  kind : ConductEvidenceKind
  evidenceReference : BoundedText 16 160
  recordedByIdentityId : Uuid
  occurredAt : Instant

instance : Row ConductEvidence Uuid := .keyed ConductEvidence.evidenceId

structure FieldActivity where
  (activityId partnerId assignmentId : Uuid)
  caseId : Option Uuid
  territoryId : Uuid
  kind : ActivityKind
  subjectType : Code
  subjectId : Uuid
  evidenceReference : BoundedText 16 160
  qualityStatus : Option ShortCode
  occurredAt : Instant

instance : Row FieldActivity Uuid := .keyed FieldActivity.activityId

end Ayo.FieldOperations.Models

/-! Which partner may act on an assignment, and which states of a case follow each other. -/

namespace Ayo.FieldOperations.Engine

open Kernel.UnitOfWork Core.Values Models

variable {σ : Type} {action : CaseAction} {old : CaseStatus}

/-- `FieldOperationsConflict`. -/
def conflict (code : String) : Failure := .conflict code

def FieldPartner.Working (partner : FieldPartner) : Prop :=
  partner.status = .active ∧ partner.verificationStatus = .verified
deriving Decidable

def assertAssignmentAuthority (partner : FieldPartner) (assignment : PartnerAssignment)
    (role : Option PartnerRole) (activity : ActivityKind) (instant : Instant) :
    Transaction σ Failure Unit := do
  require (FieldPartner.Working partner) (conflict "field_partner_not_active")
  let role ← demand (role.filter PartnerRole.active) (conflict "field_assignment_not_active")
  require (assignment.InForce instant) (conflict "field_assignment_not_active")
  require (activity ∈ role.allowedActivities) (conflict "field_activity_not_permitted")

def caseTransition? : CaseStatus → CaseAction → Option CaseStatus
  | .assigned, .start => some .inProgress
  | .inProgress, .recordOwnerAssisted => some .businessOwnerAssisted
  | .businessOwnerAssisted, .confirmOwnerVerification => some .ownerVerificationCompleted
  | .ownerVerificationCompleted, .submitForReview => some .submittedForReview
  | .returnedForCorrection, .resumeCorrection => some .inProgress
  | _, _ => none

def caseTarget (current : CaseStatus) (action : CaseAction) : Transaction σ Failure CaseStatus :=
  demand (caseTransition? current action) (conflict "field_case_transition_invalid")

def caseActionResult : CaseAction → CaseStatus
  | .start => .inProgress
  | .recordOwnerAssisted => .businessOwnerAssisted
  | .confirmOwnerVerification => .ownerVerificationCompleted
  | .submitForReview => .submittedForReview
  | .resumeCorrection => .inProgress

def reviewDecisionResult : ReviewDecision → CaseStatus
  | .approve => .approved
  | .return => .returnedForCorrection
  | .reject => .rejected

def reviewTarget (current : CaseStatus) (decision : ReviewDecision) (checklist : ReviewChecklist) :
    Transaction σ Failure CaseStatus := do
  require (current = .submittedForReview) (conflict "field_case_not_reviewable")
  require (decision = .approve → checklist.complete = true)
    (conflict "field_review_checklist_incomplete")
  pure (reviewDecisionResult decision)

def followers : CaseStatus → List CaseStatus
  | .assigned => [.inProgress]
  | .inProgress => [.businessOwnerAssisted]
  | .businessOwnerAssisted => [.ownerVerificationCompleted]
  | .ownerVerificationCompleted => [.submittedForReview]
  | .submittedForReview => [.approved, .returnedForCorrection, .rejected]
  | .approved => []
  | .returnedForCorrection => [.inProgress]
  | .rejected => []

theorem follows_of_action {target : CaseStatus}
    (transition : caseTransition? old action = some target) : target ∈ followers old := by
  cases old <;> cases action <;> cases transition <;> decide

theorem follows_of_review {decision : ReviewDecision} :
    reviewDecisionResult decision ∈ followers .submittedForReview := by
  cases decision <;> decide

theorem actionResult_of_transition {target : CaseStatus}
    (transition : caseTransition? old action = some target) : target = caseActionResult action := by
  cases old <;> cases action <;> cases transition <;> rfl

end Ayo.FieldOperations.Engine

namespace Ayo.FieldOperations.Repository

open Kernel.UnitOfWork Kernel.KeyedTable Kernel.Ordering Core.Values Core.Authorization Models
  Engine

structure FieldStore where
  partners : Table FieldPartner
  roles : Table PartnerRole
  territories : Table Territory
  assignments : Table PartnerAssignment
  cases : Table AssistanceCase
  evidence : Table CaseEvidence
  conduct : Table ConductEvidence
  activities : Table FieldActivity
  idempotency : Table Reservation

def FieldStore.empty : FieldStore :=
  ⟨.empty, .empty, .empty, .empty, .empty, .empty, .empty, .empty, .empty⟩

abbrev FieldTransaction (α : Type) := Transaction FieldStore Failure α

def query {α : Type} (select : FieldStore → α) : FieldTransaction α := do
  let store ← get
  pure (select store)

def reserve (hash : Payload → Digest) (actor : Uuid) (key operation : String) (payload : Payload)
    (candidate : Uuid) (time : DateTime) : FieldTransaction Uuid := do
  validateIdempotencyKey key
  within FieldStore.idempotency (fun idempotency store => { store with idempotency })
    (Core.Authorization.reserveIdempotency hash actor operation key payload candidate time)

def createPartner (value : FieldPartner) : FieldTransaction FieldPartner := do
  let store ← get
  let partners ← demand (store.partners.insert? value) (.integrity "field_partners")
  put { store with partners }
  pure value

def getPartner (partnerId : Uuid) : FieldTransaction (Option FieldPartner) :=
  query fun store => store.partners.find partnerId

def updatePartnerStatus (current : FieldPartner) (expectedVersion : Nat) (status : PartnerStatus)
    (verificationStatus : VerificationStatus) (time : Instant) : FieldTransaction FieldPartner := do
  let store ← get
  let stored ← demand ((store.partners.find current.partnerId).filter fun row =>
      decide (row.version = expectedVersion))
    (conflict "field_partner_version_conflict")
  let value : FieldPartner :=
    { stored with
      status, verificationStatus, version := stored.version + 1, updatedAt := time }
  let partners ← demand (store.partners.replace? value) (.integrity "field_partners")
  put { store with partners }
  pure value

def partnerForIdentity (identityId : Uuid) : FieldTransaction (Option FieldPartner) :=
  query fun store =>
    store.partners.rows.find? fun partner => decide (partner.identityId = identityId)

def createRole (value : PartnerRole) : FieldTransaction PartnerRole := do
  let store ← get
  let roles ← demand (store.roles.insert? value) (.integrity "field_partner_roles")
  put { store with roles }
  pure value

def getRole (roleId : Uuid) : FieldTransaction (Option PartnerRole) :=
  query fun store => store.roles.find roleId

def createTerritory (value : Territory) : FieldTransaction Territory := do
  let store ← get
  let territories ← demand (store.territories.insert? value) (.integrity "field_territories")
  put { store with territories }
  pure value

def getTerritory (territoryId : Uuid) : FieldTransaction (Option Territory) :=
  query fun store => store.territories.find territoryId

def createAssignment (value : PartnerAssignment) : FieldTransaction PartnerAssignment := do
  let store ← get
  let assignments ← demand (store.assignments.insert? value)
    (.integrity "field_partner_assignments")
  put { store with assignments }
  pure value

def getAssignment (assignmentId : Uuid) : FieldTransaction (Option PartnerAssignment) :=
  query fun store => store.assignments.find assignmentId

def activeAssignments (partnerId : Uuid) (instant : Instant) :
    FieldTransaction (List PartnerAssignment) :=
  query fun store =>
    (orderedBy PartnerAssignment.startsAt (store.assignments.rows.filter fun row =>
        decide (row.partnerId = partnerId ∧ row.InForce instant))).take 100

def insertEvidence (row : CaseEvidence) : FieldTransaction Unit := do
  let store ← get
  let evidence ← demand (store.evidence.insert? row) (.integrity "field_case_evidence")
  put { store with evidence }

def createCase (uuidText : Uuid → String) (value : AssistanceCase) (evidenceId actorId : Uuid) :
    FieldTransaction AssistanceCase := do
  let store ← get
  let cases ← demand (store.cases.insert? value) (.integrity "field_assistance_cases")
  put { store with cases }
  let evidenceReference ← demand (boundedText? 16 160 ("assignment-case-" ++ uuidText value.caseId))
    (.field "evidence_reference")
  insertEvidence
    { evidenceId
      caseId := value.caseId
      eventType := "field.case.assigned"
      fromStatus := none
      toStatus := value.status
      actorIdentityId := actorId
      actorRole := .representative
      evidenceReference
      reasonCode := none
      checklist := none
      caseVersion := value.version
      occurredAt := value.createdAt }
  pure value

def getCase (caseId : Uuid) : FieldTransaction (Option AssistanceCase) :=
  query fun store => store.cases.find caseId

def findCaseBySubject (subjectType : String) (subjectId : Uuid) (capabilityCode : String) :
    FieldTransaction (Option AssistanceCase) :=
  query fun store => store.cases.rows.find? fun row =>
    decide (row.subjectType.1 = subjectType ∧ row.subjectId = subjectId ∧
      row.capabilityCode.1 = capabilityCode)

structure TransitionNotes where
  (evidenceId actorId : Uuid)
  actorRole : ActorRole
  evidenceReference : String
  reasonCode : Option String
  checklist : Option ReviewChecklist

def AssistanceCase.moved (target : CaseStatus) (time : Instant) (row : AssistanceCase) :
    AssistanceCase :=
  { row with status := target, version := row.version + 1, updatedAt := time }

def shortCode? : Option String → Option (Option ShortCode)
  | none => some none
  | some text => (refine? (fun text => isShortCode text = true) text).map some

def transitionCase (current : AssistanceCase) (target : CaseStatus) (notes : TransitionNotes)
    (expectedVersion : Nat) (time : Instant) : FieldTransaction AssistanceCase := do
  let store ← get
  let stored ← demand
    ((store.cases.find current.caseId).filter fun row => decide (row.version = expectedVersion))
    (conflict "field_case_version_conflict")
  let value := AssistanceCase.moved target time stored
  let cases ← demand (store.cases.replace? value) (.integrity "field_assistance_cases")
  put { store with cases }
  let evidenceReference ← demand (boundedText? 16 160 notes.evidenceReference)
    (.field "evidence_reference")
  let reasonCode ← demand (shortCode? notes.reasonCode) (.field "reason_code")
  insertEvidence
    { evidenceId := notes.evidenceId
      caseId := value.caseId
      eventType := "field.case." ++ target.value
      fromStatus := some current.status
      toStatus := target
      actorIdentityId := notes.actorId
      actorRole := notes.actorRole
      evidenceReference
      reasonCode
      checklist := notes.checklist
      caseVersion := value.version
      occurredAt := time }
  pure value

def appendConductEvidence (value : ConductEvidence) : FieldTransaction ConductEvidence := do
  let store ← get
  let conduct ← demand (store.conduct.insert? value) (.integrity "field_partner_conduct_evidence")
  -- The foreign key of the partner.
  require ((store.partners.find value.partnerId).isSome = true)
    (.integrity "field_partner_conduct_evidence")
  put { store with conduct }
  pure value

def getConductEvidence (evidenceId : Uuid) : FieldTransaction (Option ConductEvidence) :=
  query fun store => store.conduct.find evidenceId

def appendActivity (value : FieldActivity) : FieldTransaction FieldActivity := do
  let store ← get
  let activities ← demand (store.activities.insert? value) (.integrity "field_activities")
  -- The foreign key of the case.
  require (∀ caseId ∈ value.caseId, (store.cases.find caseId).isSome = true)
    (.integrity "field_activities")
  put { store with activities }
  pure value

def getActivity (activityId : Uuid) : FieldTransaction (Option FieldActivity) :=
  query fun store => store.activities.find activityId

end Ayo.FieldOperations.Repository
