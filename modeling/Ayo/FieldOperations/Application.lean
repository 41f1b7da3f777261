/- digest: The commands of field operations. -/

import Ayo.FieldOperations.Repository

namespace Ayo.FieldOperations.Application

open Kernel.UnitOfWork Core.Values Core.Authorization Models Engine Repository

structure FieldConfig where
  requestHash : Payload → Digest
  hash : String → Digest
  (publicPartnerId uuidText : Uuid → String)

/-- What a call draws from `uuid4`: the reference that it offers, and the id of an evidence row. -/
structure Draws where
  (candidate evidenceId : Uuid)

structure Call where
  subject : AuthorizationSubject
  idempotencyKey : String
  time : DateTime
  grants : Grants
  draws : Draws

variable (config : FieldConfig) (call : Call)

def permission (code : String) : FieldTransaction Unit :=
  requirePermission call.grants call.subject code call.time

def reserve (operation : String) (payload : Payload) (candidate : Uuid) : FieldTransaction Uuid :=
  Repository.reserve config.requestHash call.subject.identityId call.idempotencyKey operation
    payload candidate call.time

structure CreatePartner where
  identityId : Uuid
  (photoReference qrReference : String)

def createPartner (command : CreatePartner) : FieldTransaction FieldPartner := do
  permission call "field_operations.partner.manage"
  let partnerId ← reserve config call "partner.create"
    [("identity_id", .uuid command.identityId), ("photo_reference", .text command.photoReference),
     ("qr_reference", .number (config.hash command.qrReference))] call.draws.candidate
  let existing ← getPartner partnerId
  whenSome existing pure (do
    let photoReference ← demand (boundedText? 16 160 command.photoReference)
      (.field "photo_reference")
    Repository.createPartner
      { partnerId
        publicPartnerId := config.publicPartnerId partnerId
        identityId := command.identityId
        photoReference
        qrReferenceHash := config.hash command.qrReference
        verificationStatus := .pending
        status := .inactive
        version := 1
        createdAt := call.time.instant
        updatedAt := call.time.instant })

structure CreateRole where
  (code publicTitle : String)
  allowedActivities : List ActivityKind

def createRole (command : CreateRole) : FieldTransaction PartnerRole := do
  permission call "field_operations.configuration.manage"
  let roleId ← reserve config call "role.create"
    [("code", .text command.code), ("public_title", .text command.publicTitle),
     ("allowed_activities", .list (command.allowedActivities.map fun activity =>
       [("activity", .text activity.value)]))] call.draws.candidate
  let existing ← getRole roleId
  whenSome existing pure (do
    let code ← demand (code? command.code) (.field "code")
    let publicTitle ← demand (boundedText? 2 100 command.publicTitle) (.field "public_title")
    Repository.createRole
      { roleId, code, publicTitle, allowedActivities := command.allowedActivities, active := true,
        version := 1 })

structure UpdatePartnerStatus where
  partnerId : Uuid
  expectedVersion : Nat
  status : PartnerStatus
  verificationStatus : VerificationStatus

def updatePartnerStatus (command : UpdatePartnerStatus) : FieldTransaction FieldPartner := do
  permission call "field_operations.partner.manage"
  let found ← getPartner command.partnerId
  let current ← demand found (conflict "field_partner_not_found")
  let _ ← reserve config call "partner.status"
    [("partner_id", .uuid command.partnerId), ("expected_version", .number command.expectedVersion),
     ("status", .text command.status.value),
     ("verification_status", .text command.verificationStatus.value)] command.partnerId
  if current.version ≠ command.expectedVersion then do
    require (current.status = command.status ∧
        current.verificationStatus = command.verificationStatus)
      (conflict "field_partner_version_conflict")
    pure current
  else
    Repository.updatePartnerStatus current command.expectedVersion command.status
      command.verificationStatus call.time.instant

structure CreateTerritory where
  (marketCode region city : String)
  district : Option String
  name : String

def district? : Option String → Option (Option (BoundedText 0 100))
  | none => some none
  | some text => (boundedText? 0 100 text).map some

def createTerritory (command : CreateTerritory) : FieldTransaction Territory := do
  permission call "field_operations.configuration.manage"
  let territoryId ← reserve config call "territory.create"
    [("market_code", .text command.marketCode), ("region", .text command.region),
     ("city", .text command.city), ("district", command.district.elim .null .text),
     ("name", .text command.name)] call.draws.candidate
  let existing ← getTerritory territoryId
  whenSome existing pure (do
    let marketCode ← demand (refine? (fun text => isMarketCode text = true) command.marketCode)
      (.field "market_code")
    let region ← demand (boundedText? 2 100 command.region) (.field "region")
    let city ← demand (boundedText? 2 100 command.city) (.field "city")
    let district ← demand (district? command.district) (.field "district")
    let name ← demand (boundedText? 2 120 command.name) (.field "name")
    Repository.createTerritory
      { territoryId, marketCode, region, city, district, name, active := true, version := 1 })

structure AssignPartner where
  (partnerId roleId territoryId : Uuid)
  startsAt : DateTime
  endsAt : Option DateTime

def assignment? (command : AssignPartner) (assignmentId : Uuid) : Option PartnerAssignment :=
  let endsAt := command.endsAt.map DateTime.instant
  if window : command.startsAt.aware = true ∧ (∀ ending ∈ command.endsAt, ending.aware = true) ∧
      ∀ ending ∈ endsAt, command.startsAt.instant < ending then
    some { assignmentId, partnerId := command.partnerId, roleId := command.roleId,
           territoryId := command.territoryId, startsAt := command.startsAt.instant, endsAt,
           window := window.2.2 }
  else none

def assignPartner (command : AssignPartner) : FieldTransaction PartnerAssignment := do
  permission call "field_operations.assignment.manage"
  let partner ← getPartner command.partnerId
  let role ← getRole command.roleId
  let territory ← getTerritory command.territoryId
  require (partner.isSome = true ∧ role.isSome = true ∧
      (territory.filter Territory.active).isSome = true)
    (conflict "field_assignment_reference_invalid")
  let assignmentId ← reserve config call "assignment.create"
    [("partner_id", .uuid command.partnerId), ("role_id", .uuid command.roleId),
     ("territory_id", .uuid command.territoryId), ("starts_at", .time command.startsAt),
     ("ends_at", command.endsAt.elim .null .time)] call.draws.candidate
  let existing ← getAssignment assignmentId
  whenSome existing pure (do
    let value ← demand (assignment? command assignmentId) (.field "partner_assignment")
    createAssignment value)

structure CreateCase where
  assignmentId : Uuid
  subjectType : String
  subjectId : Uuid
  ownerIdentityId : Option Uuid
  capabilityCode : String

def createCase (command : CreateCase) : FieldTransaction AssistanceCase := do
  permission call "field_operations.case.manage"
  let foundPartner ← partnerForIdentity call.subject.identityId
  let foundAssignment ← getAssignment command.assignmentId
  let partner ← demand foundPartner (conflict "field_assignment_not_active")
  let assignment ← demand
    (foundAssignment.filter fun assignment => decide (assignment.partnerId = partner.partnerId))
    (conflict "field_assignment_not_active")
  -- The request on record leaves the named owner out.
  let caseId ← reserve config call "case.create"
    [("assignment_id", .uuid command.assignmentId), ("subject_type", .text command.subjectType),
     ("subject_id", .uuid command.subjectId),
     ("capability_code", .text command.capabilityCode)] call.draws.candidate
  let existing ← getCase caseId
  whenSome existing pure (do
    let duplicate ← findCaseBySubject command.subjectType command.subjectId command.capabilityCode
    require (duplicate = none) (conflict "duplicate_onboarding_claim")
    let subjectType ← demand (code? command.subjectType) (.field "subject_type")
    let capabilityCode ← demand (code? command.capabilityCode) (.field "capability_code")
    Repository.createCase config.uuidText
      { caseId
        partnerId := partner.partnerId
        territoryId := assignment.territoryId
        subjectType
        subjectId := command.subjectId
        ownerIdentityId := command.ownerIdentityId
        capabilityCode
        status := .assigned
        version := 1
        createdAt := call.time.instant
        updatedAt := call.time.instant }
      call.draws.evidenceId call.subject.identityId)

def assertCaseRepresentative (case : AssistanceCase) : FieldTransaction Unit := do
  let found ← partnerForIdentity call.subject.identityId
  let partner ← demand (found.filter fun partner => decide (partner.partnerId = case.partnerId))
    (conflict "field_case_representative_required")
  let assignments ← activeAssignments partner.partnerId call.time.instant
  require (FieldPartner.Working partner ∧ ∃ item ∈ assignments, item.territoryId = case.territoryId)
    (conflict "field_assignment_not_active")

structure TransitionCase where
  caseId : Uuid
  expectedVersion : Nat
  action : CaseAction
  evidenceReference : String

variable (action : CaseAction)

def actorRole : ActorRole :=
  if action = .confirmOwnerVerification then .owner else .representative

def actionPermission : String :=
  if action = .confirmOwnerVerification then "field_operations.case.confirm_owner"
  else "field_operations.case.manage"

def authorizeAction (current : AssistanceCase) : FieldTransaction Unit :=
  if actorRole action = .owner then
    require (current.ownerIdentityId = some call.subject.identityId)
      (conflict "field_case_owner_required")
  else assertCaseRepresentative call current

def transitionCase (command : TransitionCase) : FieldTransaction AssistanceCase := do
  permission call (actionPermission command.action)
  let found ← getCase command.caseId
  let current ← demand found (conflict "field_case_not_found")
  authorizeAction call command.action current
  let _ ← reserve config call "case.transition"
    [("case_id", .uuid command.caseId), ("expected_version", .number command.expectedVersion),
     ("action", .text command.action.value),
     ("evidence_reference", .text command.evidenceReference)] command.caseId
  if current.version ≠ command.expectedVersion then do
    require (current.status = caseActionResult command.action)
      (conflict "field_case_version_conflict")
    pure current
  else do
    let target ← caseTarget current.status command.action
    Repository.transitionCase current target
      { evidenceId := call.draws.evidenceId
        actorId := call.subject.identityId
        actorRole := actorRole command.action
        evidenceReference := command.evidenceReference
        reasonCode := none
        checklist := none }
      command.expectedVersion call.time.instant

structure ReviewCase where
  caseId : Uuid
  expectedVersion : Nat
  decision : ReviewDecision
  checklist : ReviewChecklist
  evidenceReference : String
  reasonCode : Option String

def checklistPayload (checklist : ReviewChecklist) : List (String × Json) :=
  [("correct_business", .number checklist.correctBusiness.toNat),
   ("correct_owner", .number checklist.correctOwner.toNat),
   ("required_verification_completed", .number checklist.requiredVerificationCompleted.toNat),
   ("required_documents_completed", .number checklist.requiredDocumentsCompleted.toNat),
   ("no_duplicate_onboarding", .number checklist.noDuplicateOnboarding.toNat),
   ("no_representative_misconduct", .number checklist.noRepresentativeMisconduct.toNat),
   ("business_readiness_evidence", .number checklist.businessReadinessEvidence.toNat)]

def reviewCase (command : ReviewCase) : FieldTransaction AssistanceCase := do
  permission call "field_operations.case.review"
  let found ← getCase command.caseId
  let current ← demand found (conflict "field_case_not_found")
  let foundPartner ← getPartner current.partnerId
  let partner ← demand foundPartner (conflict "field_partner_not_found")
  require (partner.identityId ≠ call.subject.identityId)
    (conflict "field_review_self_approval_prohibited")
  require (command.decision ≠ .approve →
      (command.reasonCode.filter fun reason => decide (reason ≠ "")).isSome = true)
    (conflict "field_review_reason_required")
  require (command.decision = .approve → command.checklist.complete = true)
    (conflict "field_review_checklist_incomplete")
  let _ ← reserve config call "case.review"
    [("case_id", .uuid command.caseId), ("expected_version", .number command.expectedVersion),
     ("decision", .text command.decision.value),
     ("checklist", .list [checklistPayload command.checklist]),
     ("evidence_reference", .text command.evidenceReference),
     ("reason_code", command.reasonCode.elim .null .text)] command.caseId
  if current.version ≠ command.expectedVersion then do
    require (current.status = reviewDecisionResult command.decision)
      (conflict "field_case_version_conflict")
    pure current
  else do
    let target ← reviewTarget current.status command.decision command.checklist
    Repository.transitionCase current target
      { evidenceId := call.draws.evidenceId
        actorId := call.subject.identityId
        actorRole := .reviewer
        evidenceReference := command.evidenceReference
        reasonCode := command.reasonCode
        checklist := some command.checklist }
      command.expectedVersion call.time.instant

structure RecordConductEvidence where
  partnerId : Uuid
  kind : ConductEvidenceKind
  evidenceReference : String

def recordConductEvidence (command : RecordConductEvidence) : FieldTransaction ConductEvidence := do
  permission call "field_operations.quality.record"
  let evidenceId ← reserve config call "conduct.record"
    [("partner_id", .uuid command.partnerId), ("kind", .text command.kind.value),
     ("evidence_reference", .text command.evidenceReference)] call.draws.candidate
  let existing ← getConductEvidence evidenceId
  whenSome existing pure (do
    let evidenceReference ← demand (boundedText? 16 160 command.evidenceReference)
      (.field "evidence_reference")
    appendConductEvidence
      { evidenceId, partnerId := command.partnerId, kind := command.kind, evidenceReference,
        recordedByIdentityId := call.subject.identityId, occurredAt := call.time.instant })

structure RecordActivity where
  assignmentId : Uuid
  caseId : Option Uuid
  kind : ActivityKind
  subjectType : String
  subjectId : Uuid
  evidenceReference : String
  qualityStatus : Option String

def recordActivity (command : RecordActivity) : FieldTransaction FieldActivity := do
  permission call "field_operations.activity.record"
  let foundPartner ← partnerForIdentity call.subject.identityId
  let partner ← demand foundPartner (conflict "field_partner_not_found")
  let foundAssignment ← getAssignment command.assignmentId
  let assignment ← demand
    (foundAssignment.filter fun assignment => decide (assignment.partnerId = partner.partnerId))
    (conflict "field_assignment_not_active")
  let role ← getRole assignment.roleId
  assertAssignmentAuthority partner assignment role command.kind call.time.instant
  let activityId ← reserve config call "activity.record"
    [("assignment_id", .uuid command.assignmentId), ("case_id", command.caseId.elim .null .uuid),
     ("kind", .text command.kind.value), ("subject_type", .text command.subjectType),
     ("subject_id", .uuid command.subjectId),
     ("evidence_reference", .text command.evidenceReference),
     ("quality_status", command.qualityStatus.elim .null .text)] call.draws.candidate
  let existing ← getActivity activityId
  whenSome existing pure (do
    let subjectType ← demand (code? command.subjectType) (.field "subject_type")
    let evidenceReference ← demand (boundedText? 16 160 command.evidenceReference)
      (.field "evidence_reference")
    let qualityStatus ← demand (shortCode? command.qualityStatus) (.field "quality_status")
    appendActivity
      { activityId
        partnerId := partner.partnerId
        assignmentId := command.assignmentId
        caseId := command.caseId
        territoryId := assignment.territoryId
        kind := command.kind
        subjectType
        subjectId := command.subjectId
        evidenceReference
        qualityStatus
        occurredAt := call.time.instant })

inductive Command where
  | createPartner (command : CreatePartner)
  | createRole (command : CreateRole)
  | updatePartnerStatus (command : UpdatePartnerStatus)
  | createTerritory (command : CreateTerritory)
  | assignPartner (command : AssignPartner)
  | createCase (command : CreateCase)
  | transitionCase (command : TransitionCase)
  | reviewCase (command : ReviewCase)
  | recordConductEvidence (command : RecordConductEvidence)
  | recordActivity (command : RecordActivity)

def Command.createCase? : Command → Option CreateCase
  | .createCase command => some command
  | _ => none

def Command.recordActivity? : Command → Option RecordActivity
  | .recordActivity command => some command
  | _ => none

def Command.review? : Command → Option ReviewCase
  | .reviewCase command => some command
  | _ => none

/-- One call of the application, committed or rolled back. -/
def step (store : FieldStore) (input : Call × Command) : FieldStore :=
  match input.2 with
  | .createPartner command => commit (createPartner config input.1 command) store
  | .createRole command => commit (createRole config input.1 command) store
  | .updatePartnerStatus command => commit (updatePartnerStatus config input.1 command) store
  | .createTerritory command => commit (createTerritory config input.1 command) store
  | .assignPartner command => commit (assignPartner config input.1 command) store
  | .createCase command => commit (createCase config input.1 command) store
  | .transitionCase command => commit (transitionCase config input.1 command) store
  | .reviewCase command => commit (reviewCase config input.1 command) store
  | .recordConductEvidence command => commit (recordConductEvidence config input.1 command) store
  | .recordActivity command => commit (recordActivity config input.1 command) store

def sampleConfig : FieldConfig where
  requestHash payload := payload.length
  hash text := text.length
  publicPartnerId id := String.ofList (List.replicate id 'p')
  uuidText id := String.ofList (List.replicate id 'u')

def acting (identityId : Uuid) (idempotencyKey : String) (candidate : Uuid) (command : Command) :
    Call × Command :=
  ({ subject := { identityId, identityType := .staff }
     idempotencyKey
     time := .utc 50
     grants _ _ _ := true
     draws := { candidate, evidenceId := candidate } }, command)

def samplePartner : List (Call × Command) :=
  [acting 100 "create-the-partner" 1
      (.createPartner ⟨101, "photo-of-the-partner", "code-of-the-partner"⟩),
   acting 100 "create-the-role-" 2 (.createRole ⟨"guide", "Guide", [.businessVisited]⟩),
   acting 100 "create-the-territory" 3 (.createTerritory ⟨"NG-LA", "Lagos", "Ikeja", none, "Alausa"⟩),
   acting 100 "assign-the-partner" 4 (.assignPartner ⟨1, 2, 3, .utc 10, none⟩)]

def sampleActivation : Call × Command :=
  acting 100 "activate-the-partner" 1 (.updatePartnerStatus ⟨1, 1, .active, .verified⟩)

def sampleCase (owner : Uuid) : Call × Command :=
  acting 101 "create-the-case-" 5 (.createCase ⟨4, "merchant", 7, some owner, "catalogue"⟩)

end Ayo.FieldOperations.Application
