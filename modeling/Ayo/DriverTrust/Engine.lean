/- digest: Onboarding transitions and the evaluation of a driver's eligibility. -/

import Ayo.Core.Authorization
import Ayo.PersistenceKernel.Audit
import Mathlib.Data.List.Induction

namespace Ayo.DriverTrust.Models

open Kernel.UnitOfWork Kernel.KeyedTable Core.Values
open PersistenceKernel.Audit (AuditLog)

inductive OnboardingState where
  | draft
  | contactVerificationPending
  | identityEvidencePending
  | documentReviewPending
  | vehicleEvidencePending
  | operationsReviewPending
  | approved
  | rejected
  | expired
  | suspended
  | reverificationRequired
  | appealPending
deriving DecidableEq

def OnboardingState.value : OnboardingState → String
  | .draft => "draft"
  | .contactVerificationPending => "contact_verification_pending"
  | .identityEvidencePending => "identity_evidence_pending"
  | .documentReviewPending => "document_review_pending"
  | .vehicleEvidencePending => "vehicle_evidence_pending"
  | .operationsReviewPending => "operations_review_pending"
  | .approved => "approved"
  | .rejected => "rejected"
  | .expired => "expired"
  | .suspended => "suspended"
  | .reverificationRequired => "reverification_required"
  | .appealPending => "appeal_pending"

inductive EvidenceType where
  | legalIdentity
  | driverLicence
  | vehicleRegistration
  | insurance
  | inspection
  | ownershipAuthorization
deriving DecidableEq

inductive EvidenceStatus where
  | submitted
  | underReview
  | approved
  | rejected
  | expired
  | superseded
deriving DecidableEq

def EvidenceStatus.value : EvidenceStatus → String
  | .submitted => "submitted"
  | .underReview => "under_review"
  | .approved => "approved"
  | .rejected => "rejected"
  | .expired => "expired"
  | .superseded => "superseded"

inductive VehicleApprovalStatus where
  | pending
  | approved
  | rejected
  | expired
  | suspended
deriving DecidableEq

def VehicleApprovalStatus.value : VehicleApprovalStatus → String
  | .pending => "pending"
  | .approved => "approved"
  | .rejected => "rejected"
  | .expired => "expired"
  | .suspended => "suspended"

inductive AuthorizationStatus where
  | pending
  | authorized
  | revoked
  | expired
deriving DecidableEq

inductive EligibilityStatus where
  | eligible
  | ineligible
  | reverificationRequired
deriving DecidableEq

def EligibilityStatus.value : EligibilityStatus → String
  | .eligible => "eligible"
  | .ineligible => "ineligible"
  | .reverificationRequired => "reverification_required"

structure OnboardingCase where
  (caseId driverIdentityId : Uuid)
  state : OnboardingState
  policyVersion : Code
  version : Nat
  (createdAt updatedAt : Instant)
  expiresAt : Option Instant
  appealOfCaseId : Option Uuid

instance : Row OnboardingCase Uuid := .keyed OnboardingCase.caseId

abbrev Day := Int

def dayLength : Int := 86400000000

def dayOf (time : Instant) : Day := time / dayLength

def endOfDay (day : Day) : Instant := day * dayLength + (dayLength - 1)

structure DocumentEvidence where
  (evidenceId caseId driverIdentityId : Uuid)
  vehicleId : Option Uuid
  evidenceType : EvidenceType
  immutableReference : String
  issuingAuthorityCode : Code
  documentReferenceHash : Digest
  (issueDate expiryDate : Day)
  status : EvidenceStatus
  policyVersion : Code
  reviewerIdentityId : Option Uuid
  reasonCodes : List String
  (replacesEvidenceId supersededByEvidenceId : Option Uuid)
  submittedAt : Instant
  reviewedAt : Option Instant
  version : Nat
  period : issueDate < expiryDate
  reviewed : status = .approved ∨ status = .rejected →
    reviewerIdentityId.isSome = true ∧ reviewedAt.isSome = true

def DocumentEvidence.document (row : DocumentEvidence) : Uuid × Digest :=
  (row.driverIdentityId, row.documentReferenceHash)

instance : Row DocumentEvidence Uuid :=
  .keyedUnique DocumentEvidence.evidenceId DocumentEvidence.document

def DocumentEvidence.withReview (row : DocumentEvidence) (outcome : EvidenceStatus)
    (reviewer : Uuid) (reasonCodes : List String) (time : Instant) : DocumentEvidence :=
  { row with status := outcome, reviewerIdentityId := some reviewer, reasonCodes
             reviewedAt := some time, version := row.version + 1
             reviewed := fun _ => ⟨rfl, rfl⟩ }

structure Vehicle where
  vehicleId : Uuid
  canonicalReferenceHash : Digest
  approvalStatus : VehicleApprovalStatus

instance : Row Vehicle Uuid := .keyedUnique Vehicle.vehicleId Vehicle.canonicalReferenceHash

structure DriverVehicleAuthorization where
  (authorizationId driverIdentityId vehicleId : Uuid)
  status : AuthorizationStatus
  policyVersion : Code
  (effectiveAt expiresAt : Instant)
  effective : effectiveAt < expiresAt

/-- The rule of `ix_driver_vehicle_authorization_current`. -/
def DriverVehicleAuthorization.BothCurrent (a b : DriverVehicleAuthorization) : Prop :=
  (a.status = .authorized ∧ b.status = .authorized) ∧
    a.driverIdentityId = b.driverIdentityId ∧ a.vehicleId = b.vehicleId
deriving Decidable

theorem DriverVehicleAuthorization.BothCurrent.symm {a b : DriverVehicleAuthorization}
    (both : a.BothCurrent b) : b.BothCurrent a :=
  ⟨both.1.symm, both.2.1.symm, both.2.2.symm⟩

instance : Row DriverVehicleAuthorization Uuid where
  key := DriverVehicleAuthorization.authorizationId
  clash a b := a.authorizationId = b.authorizationId ∨ a.BothCurrent b
  clash_symm clash := clash.imp Eq.symm DriverVehicleAuthorization.BothCurrent.symm

structure EligibilityDecision where
  (decisionId driverIdentityId : Uuid)
  vehicleId : Option Uuid
  policyVersion : Code
  status : EligibilityStatus
  reasonCodes : List String
  missingEvidence : List EvidenceType
  expiresAt : Option Instant
  recomputedAt : Instant
  auditReference : Uuid

instance : Row EligibilityDecision Uuid := .keyed EligibilityDecision.decisionId

structure EligibilityPolicy where
  policyVersion : Code
  requiredEvidence : List EvidenceType
  inspectionRequired : Bool
  expiringSoonDays : Nat
  soonRange : 1 ≤ expiringSoonDays ∧ expiringSoonDays ≤ 180

structure TrustStore where
  cases : Table OnboardingCase := .empty
  evidence : Table DocumentEvidence := .empty
  vehicles : Table Vehicle := .empty
  authorizations : Table DriverVehicleAuthorization := .empty
  decisions : Table EligibilityDecision := .empty
  audits : AuditLog := .empty

abbrev TrustTransaction (α : Type) := Transaction TrustStore Failure α

end Ayo.DriverTrust.Models

namespace Ayo.DriverTrust.Engine

open Kernel.UnitOfWork Core.Values Models

def transitions : OnboardingState → List OnboardingState
  | .draft => [.contactVerificationPending]
  | .contactVerificationPending => [.identityEvidencePending]
  | .identityEvidencePending => [.documentReviewPending]
  | .documentReviewPending => [.vehicleEvidencePending, .rejected]
  | .vehicleEvidencePending => [.operationsReviewPending]
  | .operationsReviewPending => [.approved, .rejected]
  | .approved => [.expired, .suspended, .reverificationRequired]
  | .rejected => [.appealPending]
  | .expired => [.reverificationRequired]
  | .suspended => [.reverificationRequired, .appealPending]
  | .reverificationRequired => [.documentReviewPending]
  | .appealPending => [.operationsReviewPending, .rejected]

def transitionCase (onboarding : OnboardingCase) (target : OnboardingState) (time : Instant) :
    TrustTransaction OnboardingCase := do
  require (target ∈ transitions onboarding.state) (.value "Invalid onboarding transition")
  pure { onboarding with state := target, updatedAt := time, version := onboarding.version + 1 }

def sortedTypes : List EvidenceType :=
  [.driverLicence, .inspection, .insurance, .legalIdentity, .ownershipAuthorization,
   .vehicleRegistration]

def Current (time : Instant) (item : DocumentEvidence) : Prop :=
  item.status = .approved ∧ dayOf time ≤ item.expiryDate
deriving Decidable

structure Tally where
  approved : EvidenceType → Option DocumentEvidence
  contradictory : EvidenceType → Bool

def Tally.empty : Tally := ⟨fun _ => none, fun _ => false⟩

def Tally.add (time : Instant) (tally : Tally) (item : DocumentEvidence) : Tally :=
  if Current time item then
    { approved := fun type => if type = item.evidenceType then some item else tally.approved type
      contradictory := fun type =>
        tally.contradictory type ||
          (decide (type = item.evidenceType) && (tally.approved item.evidenceType).isSome) }
  else tally

def tallyOf (time : Instant) (evidence : List DocumentEvidence) : Tally :=
  evidence.foldl (Tally.add time) .empty

structure EligibilityInputs where
  driverIdentityId : Uuid
  accountActive : Bool
  onboarding : Option OnboardingCase
  vehicle : Option Vehicle
  authorization : Option DriverVehicleAuthorization
  evidence : List DocumentEvidence
  time : Instant
  unresolvedRestriction : Bool

variable (policy : EligibilityPolicy) (inputs : EligibilityInputs)

def required : List EvidenceType :=
  sortedTypes.filter fun type =>
    type ∈ policy.requiredEvidence ∧ (type = .inspection → policy.inspectionRequired = true)

def missingEvidence : List EvidenceType :=
  (required policy).filter fun type =>
    ((tallyOf inputs.time inputs.evidence).approved type).isNone

def AuthorizationValid : Prop :=
  ∃ authorization ∈ inputs.authorization, authorization.status = .authorized ∧
    inputs.time < authorization.expiresAt ∧
    ∃ vehicle ∈ inputs.vehicle, authorization.vehicleId = vehicle.vehicleId
deriving Decidable

def reason (condition : Prop) [Decidable condition] (code : String) : List String :=
  if condition then [code] else []

def reasons : List String :=
  reason (inputs.accountActive = false) "account_not_active" ++
  reason (¬ ∃ onboarding ∈ inputs.onboarding, onboarding.state = .approved)
    "onboarding_not_approved" ++
  reason (¬ ∃ vehicle ∈ inputs.vehicle, vehicle.approvalStatus = .approved)
    "vehicle_not_approved" ++
  reason (¬ AuthorizationValid inputs) "vehicle_authorization_invalid" ++
  reason (missingEvidence policy inputs ≠ []) "required_evidence_missing_or_expired" ++
  reason (∃ type ∈ sortedTypes, (tallyOf inputs.time inputs.evidence).contradictory type = true)
    "contradictory_current_evidence" ++
  reason (inputs.unresolvedRestriction = true) "unresolved_restriction"

def expiries : List Instant :=
  (sortedTypes.filterMap fun type =>
    ((tallyOf inputs.time inputs.evidence).approved type).map fun item =>
      endOfDay item.expiryDate) ++
  (inputs.authorization.map DriverVehicleAuthorization.expiresAt).toList

/-- What was approved runs out within the days of the policy. -/
def ExpiringSoon : Prop :=
  ∃ expiry ∈ (expiries inputs).min?, expiry ≤ inputs.time + policy.expiringSoonDays * dayLength
deriving Decidable

def statusOf : EligibilityStatus :=
  if reasons policy inputs = [] then
    if ExpiringSoon policy inputs then .reverificationRequired else .eligible
  else .ineligible

def evaluateEligibility (decisionId auditReference : Uuid) : EligibilityDecision where
  decisionId
  driverIdentityId := inputs.driverIdentityId
  vehicleId := inputs.vehicle.map Vehicle.vehicleId
  policyVersion := policy.policyVersion
  status := statusOf policy inputs
  reasonCodes :=
    if reasons policy inputs = [] then
      if ExpiringSoon policy inputs then ["evidence_expiring_soon"]
      else ["all_requirements_current"]
    else reasons policy inputs
  missingEvidence := missingEvidence policy inputs
  expiresAt := (expiries inputs).min?
  recomputedAt := inputs.time
  auditReference

section

variable {time : Instant} {evidence : List DocumentEvidence} {type : EvidenceType}

theorem mem_sortedTypes (type : EvidenceType) : type ∈ sortedTypes := by
  cases type <;> decide

theorem tallyOf_append (item : DocumentEvidence) :
    tallyOf time (evidence ++ [item]) = (tallyOf time evidence).add time item := by
  simp [tallyOf, List.foldl_append]

theorem of_approved {item : DocumentEvidence}
    (held : (tallyOf time evidence).approved type = some item) :
    item ∈ evidence ∧ Current time item ∧ item.evidenceType = type := by
  induction evidence using List.reverseRecOn with
  | nil => cases held
  | append_singleton rest last ih =>
    rw [tallyOf_append, Tally.add] at held
    split at held
    · rename_i old
      dsimp only at held
      split at held
      · rename_i same
        obtain rfl := Option.some.inj held
        exact ⟨by simp, old, same.symm⟩
      · obtain ⟨mem, rest⟩ := ih held
        exact ⟨List.mem_append_left _ mem, rest⟩
    · obtain ⟨mem, rest⟩ := ih held
      exact ⟨List.mem_append_left _ mem, rest⟩

theorem approved_isSome_iff : ((tallyOf time evidence).approved type).isSome = true ↔
      ∃ item ∈ evidence, Current time item ∧ item.evidenceType = type := by
  induction evidence using List.reverseRecOn with
  | nil => simp [tallyOf, Tally.empty]
  | append_singleton rest last ih =>
    rw [tallyOf_append, Tally.add]
    by_cases old : Current time last
    · rw [if_pos old]
      by_cases same : type = last.evidenceType
      · simp only [if_pos same, Option.isSome_some, true_iff]
        exact ⟨last, by simp, old, same.symm⟩
      · simp only [if_neg same, ih, List.mem_append, List.mem_singleton]
        constructor
        · rintro ⟨item, mem, rest⟩
          exact ⟨item, .inl mem, rest⟩
        · rintro ⟨item, mem | rfl, rest⟩
          · exact ⟨item, mem, rest⟩
          · exact absurd rest.2.symm same
    · rw [if_neg old, ih]
      simp only [List.mem_append, List.mem_singleton]
      constructor
      · rintro ⟨item, mem, rest⟩
        exact ⟨item, .inl mem, rest⟩
      · rintro ⟨item, mem | rfl, rest⟩
        · exact ⟨item, mem, rest⟩
        · exact absurd rest.1 old

/-- Two current items of one type contradict each other. -/
def Apart (time : Instant) (a b : DocumentEvidence) : Prop :=
  Current time a → Current time b → a.evidenceType ≠ b.evidenceType

theorem none_contradictory_iff : (∀ type, (tallyOf time evidence).contradictory type = false) ↔
      evidence.Pairwise (Apart time) := by
  induction evidence using List.reverseRecOn with
  | nil => simp [tallyOf, Tally.empty]
  | append_singleton rest last ih =>
    rw [tallyOf_append, Tally.add, List.pairwise_append]
    by_cases old : Current time last
    · simp only [if_pos old, Bool.or_eq_false_iff, Bool.and_eq_false_iff,
        decide_eq_false_iff_not, List.pairwise_singleton, true_and, List.mem_singleton,
        forall_eq]
      rw [forall_and, ih]
      refine and_congr_right fun _ => ?_
      constructor
      · intro apart item mem isCurrent _ same
        obtain different | none_held := apart last.evidenceType
        · exact different rfl
        · have held := approved_isSome_iff.2 ⟨item, mem, isCurrent, same⟩
          rw [none_held] at held
          cases held
      · intro apart type
        by_cases same : type = last.evidenceType
        · right
          by_contra held
          obtain ⟨item, mem, isCurrent, sameType⟩ :=
            approved_isSome_iff.1 (Bool.eq_true_of_not_eq_false held)
          exact apart item mem isCurrent old sameType
        · exact .inl same
    · simp only [if_neg old, ih, List.pairwise_singleton, true_and, List.mem_singleton, forall_eq]
      refine (and_iff_left ?_).symm
      intro item _ _ isCurrent
      exact absurd isCurrent old

theorem contradictory_iff :
    (∃ type ∈ sortedTypes, (tallyOf time evidence).contradictory type = true) ↔
      ¬ evidence.Pairwise (Apart time) := by
  rw [← none_contradictory_iff]
  simp [mem_sortedTypes]

theorem reason_eq_nil {condition : Prop} [Decidable condition] {code : String} :
    reason condition code = [] ↔ ¬ condition := by
  unfold reason
  split <;> simp [*]

structure Meets (policy : EligibilityPolicy) (inputs : EligibilityInputs) : Prop where
  account : inputs.accountActive = true
  onboarding : ∃ onboarding ∈ inputs.onboarding, onboarding.state = .approved
  vehicle : ∃ vehicle ∈ inputs.vehicle, vehicle.approvalStatus = .approved
  authorization : AuthorizationValid inputs
  evidence : ∀ type ∈ required policy, ∃ item ∈ inputs.evidence,
    Current inputs.time item ∧ item.evidenceType = type
  apart : inputs.evidence.Pairwise (Apart inputs.time)
  unrestricted : inputs.unresolvedRestriction = false

theorem reasons_eq_nil : reasons policy inputs = [] ↔ Meets policy inputs := by
  have complete : missingEvidence policy inputs = [] ↔ ∀ type ∈ required policy,
      ∃ item ∈ inputs.evidence, Current inputs.time item ∧ item.evidenceType = type := by
    rw [missingEvidence, List.filter_eq_nil_iff]
    refine forall_congr' fun type => forall_congr' fun _ => ?_
    rw [← approved_isSome_iff, Option.isSome_iff_ne_none]
    simp
  simp only [reasons, List.append_eq_nil_iff, reason_eq_nil, contradictory_iff, not_not, complete,
    ne_eq, Bool.not_eq_false, Bool.not_eq_true]
  constructor
  · rintro ⟨⟨⟨⟨⟨⟨account, onboarding⟩, vehicle⟩, authorization⟩, evidence⟩, apart⟩, free⟩
    exact ⟨account, onboarding, vehicle, authorization, evidence, apart, free⟩
  · intro meets
    exact ⟨⟨⟨⟨⟨⟨meets.account, meets.onboarding⟩, meets.vehicle⟩, meets.authorization⟩,
      meets.evidence⟩, meets.apart⟩, meets.unrestricted⟩

theorem statusOf_ne_ineligible (meets : Meets policy inputs) :
    statusOf policy inputs ≠ .ineligible := by
  unfold statusOf
  rw [if_pos ((reasons_eq_nil policy inputs).2 meets)]
  split <;> simp

theorem meets_of_eligible (eligible : statusOf policy inputs = .eligible) :
    Meets policy inputs := by
  by_contra unmet
  unfold statusOf at eligible
  rw [if_neg fun none_found => unmet ((reasons_eq_nil policy inputs).1 none_found)] at eligible
  cases eligible

theorem expiry_le {expiry : Instant} (least : (expiries inputs).min? = some expiry) :
    (∀ authorization ∈ inputs.authorization, expiry ≤ authorization.expiresAt) ∧
      ∀ type, ∀ item ∈ (tallyOf inputs.time inputs.evidence).approved type,
        expiry ≤ endOfDay item.expiryDate := by
  have below : ∀ other ∈ expiries inputs, expiry ≤ other := fun other mem =>
    (List.min?_eq_some_iff.1 least).2 other mem
  constructor
  · intro authorization mem
    refine below _ (List.mem_append_right _ ?_)
    simpa using ⟨authorization, mem, rfl⟩
  · intro type item held
    refine below _ (List.mem_append_left _ ?_)
    refine List.mem_filterMap.2 ⟨type, mem_sortedTypes type, ?_⟩
    rw [Option.mem_def.1 held]
    rfl

end

end Ayo.DriverTrust.Engine
