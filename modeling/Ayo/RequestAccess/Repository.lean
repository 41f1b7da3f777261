/- digest: The tables of the request access and what is read back from them. -/

import Ayo.RequestAccess.Models

namespace Ayo.RequestAccess.Repository

open Kernel.UnitOfWork Kernel.KeyedTable Kernel.StoredTexts Core.Values Models

structure ProvenanceRow where
  provenanceId : Uuid
  schemaVersion : Int
  (purpose targetDomain targetType targetId : String)
  targetVersion : Int
  (commandType channel interactionMethod : String)
  adapterId : Uuid
  adapterVersion : Int
  initiatingSubjectId : Option Uuid
  (authenticatedAccountId authenticatedSubjectId actingSubjectId : Uuid)
  (requesterSubjectId passengerSubjectId : Option Uuid)
  delegatedAuthorityReference : Option String
  (sponsorOrganizationId supportAgentSubjectId supportAgentAccountId : Option Uuid)
  (responseChannelPreference interactionLanguageReference : Option String)
  interfaceAccommodationReferences : List String
  deviceCapability : String
  interactionReference : Option String
  (continuityId supersedesProvenanceId : Option Uuid)
  correctionClassification : Option String
  acceptedAt : Instant
  correlationId : Uuid
  causationId : Option Uuid
  (commandId requestId : Uuid)
  interactionIdempotencyKey : String

namespace ProvenanceRow

/-- The rule of `uq_request_access_interaction_idempotency`. -/
def SameInteraction (a b : ProvenanceRow) : Prop :=
  a.authenticatedAccountId = b.authenticatedAccountId ∧
    a.interactionIdempotencyKey = b.interactionIdempotencyKey
deriving Decidable

/-- The rule of `uq_request_access_single_initiation`, an index on the initiations only. -/
def SameInitiation (a b : ProvenanceRow) : Prop :=
  a.purpose = "initiation" ∧ b.purpose = "initiation" ∧ a.targetDomain = b.targetDomain ∧
    a.targetType = b.targetType ∧ a.targetId = b.targetId
deriving Decidable

variable {a b : ProvenanceRow}

theorem SameInteraction.symm (same : a.SameInteraction b) : b.SameInteraction a :=
  ⟨same.1.symm, same.2.symm⟩

theorem SameInitiation.symm (same : a.SameInitiation b) : b.SameInitiation a := by
  obtain ⟨first, second, domain, type, target⟩ := same
  exact ⟨second, first, domain.symm, type.symm, target.symm⟩

instance : Row ProvenanceRow Uuid where
  key := ProvenanceRow.provenanceId
  clash a b := a.provenanceId = b.provenanceId ∨ a.SameInteraction b ∨ a.SameInitiation b
  clash_symm clash := clash.imp Eq.symm (.imp SameInteraction.symm SameInitiation.symm)

def Checked (row : ProvenanceRow) : Prop :=
  (row.purpose = "continuation" ↔ row.continuityId ≠ none) ∧ (row.purpose = "correction" ↔
      row.supersedesProvenanceId ≠ none ∧ row.correctionClassification ≠ none) ∧
    (row.interactionMethod = "delegated" ↔ row.delegatedAuthorityReference ≠ none) ∧
    (row.interactionMethod = "support_assisted" ↔
      row.supportAgentSubjectId ≠ none ∧ row.supportAgentAccountId ≠ none)
deriving Decidable

end ProvenanceRow

def integerLimit : Int := 2147483647

structure RequestAccessStore where
  adapters : Table SourceAdapter
  capabilities : Table ChannelActionCapability
  continuity : Table ContinuityReference
  provenance : Table ProvenanceRow

def RequestAccessStore.empty : RequestAccessStore := ⟨.empty, .empty, .empty, .empty⟩

abbrev AccessTransaction (α : Type) := Transaction RequestAccessStore Failure α

def outOfRange : Failure := .value "integer out of range"

def registerAdapter (adapter : SourceAdapter) : AccessTransaction SourceAdapter := do
  let store ← get
  require (adapter.adapterVersion.1 ≤ integerLimit) outOfRange
  let adapters ← demand (store.adapters.insert? adapter)
    (.conflict "Source adapter identity or version already exists")
  put { store with adapters }
  pure adapter

def getAdapter (adapterId : Uuid) : AccessTransaction (Option SourceAdapter) := do
  let store ← get
  pure (store.adapters.find adapterId)

def declared (capability current : ChannelActionCapability) : ChannelActionCapability :=
  { current with
    state := capability.state
    effectiveFrom := capability.effectiveFrom
    effectiveUntil := capability.effectiveUntil
    period := capability.period
    version := capability.version
    updatedAt := capability.updatedAt }

def changedConcurrently : Failure :=
  .conflict "Channel action capability changed concurrently"

def putCapability (capability : ChannelActionCapability) (expectedVersion : Option Int) :
    AccessTransaction ChannelActionCapability := do
  let store ← get
  require (capability.version.1 ≤ integerLimit) outOfRange
  match expectedVersion with
  | none =>
    let capabilities ← demand (store.capabilities.insert? capability)
      (.conflict "Channel action capability already exists")
    -- The foreign key of a new row.
    require (∃ adapter ∈ store.adapters.rows, adapter.adapterId = capability.adapterId)
      (.conflict "Channel action capability already exists")
    put { store with capabilities }
    pure capability
  | some version =>
    let current ← demand ((store.capabilities.find capability.capabilityId).filter fun row =>
        decide (row.version.1 = version))
      changedConcurrently
    let saved := declared capability current
    let capabilities ← demand (store.capabilities.replace? saved)
      (.integrity "request_access_channel_capabilities")
    put { store with capabilities }
    pure saved

def manyRows : Failure := .value "MultipleResultsFound"

def ChannelActionCapability.About (targetDomain commandType : CanonicalCode) (adapterId : Uuid)
    (capability : ChannelActionCapability) : Prop :=
  capability.targetDomain = targetDomain ∧ capability.commandType = commandType ∧
    capability.adapterId = adapterId
deriving Decidable

def getCapability (targetDomain commandType : CanonicalCode) (adapterId : Uuid) :
    AccessTransaction (Option ChannelActionCapability) := do
  let store ← get
  oneOrNone (store.capabilities.rows.filter fun row =>
    decide (ChannelActionCapability.About targetDomain commandType adapterId row)) manyRows

variable (directory : Directory)

def appendContinuity (reference : ContinuityReference) : AccessTransaction ContinuityReference := do
  let store ← get
  let continuity ← demand (store.continuity.insert? reference)
    (.conflict "Continuity reference already exists")
  require (directory.HasAccount reference.authenticatedAccountId ∧
      directory.HasSubject reference.actingSubjectId)
    (.conflict "Continuity reference already exists")
  put { store with continuity }
  pure reference

def getContinuityByHash (referenceHash : Digest) :
    AccessTransaction (Option ContinuityReference) := do
  let store ← get
  pure (store.continuity.rows.find? fun row => decide (row.referenceHash = referenceHash))

variable (record : InteractionProvenanceRecord)

/-- The values that `append_provenance` inserts: the dump of a record leaves its continuity
reference and its continuity id out, and the id is added again. -/
def rowOf : ProvenanceRow where
  provenanceId := record.provenanceId
  schemaVersion := record.schemaVersion.1
  purpose := record.purpose.value
  targetDomain := record.targetDomain.1
  targetType := record.targetType.1
  targetId := record.targetId.1
  targetVersion := record.targetVersion.1
  commandType := record.commandType.1
  channel := record.channel.value
  interactionMethod := record.interactionMethod.value
  adapterId := record.adapterId
  adapterVersion := record.adapterVersion.1
  initiatingSubjectId := record.initiatingSubjectId
  authenticatedAccountId := record.authenticatedAccountId
  authenticatedSubjectId := record.authenticatedSubjectId
  actingSubjectId := record.actingSubjectId
  requesterSubjectId := record.requesterSubjectId
  passengerSubjectId := record.passengerSubjectId
  delegatedAuthorityReference := record.delegatedAuthorityReference.map Subtype.val
  sponsorOrganizationId := record.sponsorOrganizationId
  supportAgentSubjectId := record.supportAgentSubjectId
  supportAgentAccountId := record.supportAgentAccountId
  responseChannelPreference := record.responseChannelPreference.map AccessChannel.value
  interactionLanguageReference := record.interactionLanguageReference.map Subtype.val
  interfaceAccommodationReferences := record.interfaceAccommodationReferences.map Subtype.val
  deviceCapability := record.deviceCapability.value
  interactionReference := record.interactionReference.map Subtype.val
  continuityId := record.continuityId
  supersedesProvenanceId := record.supersedesProvenanceId
  correctionClassification := record.correctionClassification.map Subtype.val
  acceptedAt := record.acceptedAt
  correlationId := record.correlationId
  causationId := record.causationId
  commandId := record.commandId
  requestId := record.requestId
  interactionIdempotencyKey := record.interactionIdempotencyKey.1

def termsFromRow (row : ProvenanceRow) : Option InteractionTerms := do
  let purpose ← member? row.purpose
  let targetDomain ← canonicalCode? row.targetDomain
  let targetType ← canonicalCode? row.targetType
  let targetId ← opaqueReference? row.targetId
  let targetVersion ← positiveInt? row.targetVersion
  let commandType ← canonicalCode? row.commandType
  let channel ← member? row.channel
  let interactionMethod ← member? row.interactionMethod
  let adapterVersion ← positiveInt? row.adapterVersion
  let delegatedAuthorityReference ← optional? opaqueReference? row.delegatedAuthorityReference
  let responseChannelPreference ← optional? member? row.responseChannelPreference
  let interactionLanguageReference ← optional? canonicalCode? row.interactionLanguageReference
  let interfaceAccommodationReferences ←
    listed? canonicalCode? row.interfaceAccommodationReferences
  let deviceCapability ← member? row.deviceCapability
  let interactionReference ← optional? opaqueReference? row.interactionReference
  let correctionClassification ← optional? canonicalCode? row.correctionClassification
  pure {
    purpose, targetDomain, targetType, targetId, targetVersion, commandType, channel
    interactionMethod
    adapterId := row.adapterId
    adapterVersion
    initiatingSubjectId := row.initiatingSubjectId
    authenticatedAccountId := row.authenticatedAccountId
    authenticatedSubjectId := row.authenticatedSubjectId
    actingSubjectId := row.actingSubjectId
    requesterSubjectId := row.requesterSubjectId
    passengerSubjectId := row.passengerSubjectId
    delegatedAuthorityReference
    sponsorOrganizationId := row.sponsorOrganizationId
    supportAgentSubjectId := row.supportAgentSubjectId
    supportAgentAccountId := row.supportAgentAccountId
    responseChannelPreference, interactionLanguageReference
    interfaceAccommodationReferences, deviceCapability, interactionReference
    continuityReference := none
    continuityId := row.continuityId
    supersedesProvenanceId := row.supersedesProvenanceId
    correctionClassification }

def recordFromRow (row : ProvenanceRow) : Option InteractionProvenanceRecord := do
  let terms ← termsFromRow row
  let schemaVersion ← positiveInt? row.schemaVersion
  let interactionIdempotencyKey ← opaqueReference? row.interactionIdempotencyKey
  if valid : terms.objection = none then
    pure { toInteractionTerms := terms, provenanceId := row.provenanceId, schemaVersion,
           acceptedAt := row.acceptedAt, correlationId := row.correlationId,
           causationId := row.causationId, commandId := row.commandId, requestId := row.requestId,
           interactionIdempotencyKey, valid }
  else none

def provenanceConflict : Failure :=
  .conflict "Interaction provenance identity, initiation, or idempotency conflicts"

def References (store : RequestAccessStore) (row : ProvenanceRow) : Prop :=
  (∃ adapter ∈ store.adapters.rows, adapter.adapterId = row.adapterId) ∧
    directory.HasAccount row.authenticatedAccountId ∧
    directory.HasSubject row.authenticatedSubjectId ∧
    directory.HasSubject row.actingSubjectId ∧
    (∀ subject ∈ row.initiatingSubjectId, directory.HasSubject subject) ∧
    (∀ subject ∈ row.requesterSubjectId, directory.HasSubject subject) ∧
    (∀ subject ∈ row.passengerSubjectId, directory.HasSubject subject) ∧
    (∀ subject ∈ row.supportAgentSubjectId, directory.HasSubject subject) ∧
    (∀ account ∈ row.supportAgentAccountId, directory.HasAccount account) ∧
    (∀ continuity ∈ row.continuityId,
      ∃ reference ∈ store.continuity.rows, reference.continuityId = continuity) ∧
    ∀ superseded ∈ row.supersedesProvenanceId, superseded = row.provenanceId ∨
      ∃ other ∈ store.provenance.rows, other.provenanceId = superseded
deriving Decidable

def appendProvenance : AccessTransaction InteractionProvenanceRecord := do
  let store ← get
  let row := rowOf record
  require (row.targetVersion ≤ integerLimit ∧ row.adapterVersion ≤ integerLimit) outOfRange
  require (row.Checked ∧ References directory store row) provenanceConflict
  let provenance ← demand (store.provenance.insert? row) provenanceConflict
  put { store with provenance }
  pure record

def invalidRow : Failure := .field "interaction_provenance"

def getProvenance (provenanceId : Uuid) :
    AccessTransaction (Option InteractionProvenanceRecord) := do
  let store ← get
  whenSome (store.provenance.find provenanceId) (fun row => do
      let record ← demand (recordFromRow row) invalidRow
      pure (some record))
    (pure none)

private theorem refine_val {α : Type} {p : α → Prop} [DecidablePred p] (element : Subtype p) :
    refine? p element.1 = some element :=
  refine?_eq_some.2 rfl

theorem termsFromRow_rowOf : termsFromRow (rowOf record) =
      some { record.toInteractionTerms with continuityReference := none } := by
  have code : ∀ held : CanonicalCode, canonicalCode? held.1 = some held := refine_val
  have reference : ∀ held : OpaqueReference, opaqueReference? held.1 = some held := refine_val
  have number : ∀ held : PositiveInt, positiveInt? held.1 = some held := refine_val
  have purpose : member? record.purpose.value = some record.purpose := member?_value _
  have channel : ∀ held : AccessChannel, member? held.value = some held := member?_value
  have method : member? record.interactionMethod.value = some record.interactionMethod :=
    member?_value _
  have device : member? record.deviceCapability.value = some record.deviceCapability :=
    member?_value _
  simp only [termsFromRow, rowOf, purpose, code, reference, number, channel, method, device,
    optional?_map code, optional?_map reference, optional?_map channel, listed?_map code,
    Option.bind_eq_bind, Option.bind_some, Option.pure_def]

theorem recordFromRow_rowOf {record : InteractionProvenanceRecord}
    (dropped : record.continuityReference = none) : recordFromRow (rowOf record) = some record := by
  have same : { record.toInteractionTerms with continuityReference := none } =
      record.toInteractionTerms := by
    rw [← dropped]
  have number : positiveInt? (rowOf record).schemaVersion = some record.schemaVersion :=
    refine_val _
  have key : opaqueReference? (rowOf record).interactionIdempotencyKey =
      some record.interactionIdempotencyKey := refine_val _
  unfold recordFromRow
  rw [termsFromRow_rowOf, same, number, key]
  simp only [Option.bind_eq_bind, Option.bind_some, record.valid, dite_true]
  rfl

end Ayo.RequestAccess.Repository
