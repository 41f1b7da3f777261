/- digest: The accepted-interaction evidence service. -/

import Ayo.RequestAccess.Repository

namespace Ayo.RequestAccess.Service

open Kernel.UnitOfWork Core.Values
open Accounts.Models (TraceContext)
open PersistenceKernel.Audit PersistenceKernel.Idempotency PersistenceKernel.Models Models
  Repository

structure RegisterSourceAdapter where
  adapterCode : CanonicalCode
  adapterVersion : PositiveInt
  channel : AccessChannel

structure DeclareChannelCapability where
  (targetDomain commandType : CanonicalCode)
  adapterId : Uuid
  state : CapabilityState
  effectiveFrom : Instant
  effectiveUntil : Option Instant

structure ContinuityRequest where
  actingSubjectId : Uuid
  (targetDomain targetType targetId continuityReference : String)
  ttl : Int

structure IssuedContinuityReference where
  continuityId : Uuid
  reference : String
  expiresAt : Instant

inductive Material where
  | adapter (command : RegisterSourceAdapter)
  | capability (command : DeclareChannelCapability) (expectedVersion : Option Int)
  | continuity (actingSubjectId : Uuid) (targetDomain targetType targetId : String)
      (referenceHash : Digest) (ttl : Int)
  | interaction (dump : InteractionTerms) (referenceHash : Option Digest)

structure AccessConfig where
  requestHash : Material → String
  hashReference : String → Digest
  keyDigest : String → String

structure ResponseReference where
  kind : String
  id : Uuid
deriving DecidableEq

abbrev CommandRecord := IdempotencyRecord Uuid ResponseReference

/-- What a call draws from `uuid4`. -/
structure Draws where
  (recordId eventId auditId : Uuid)

structure Call where
  actorAccountId : Uuid
  idempotencyKey : String
  trace : TraceContext
  time : DateTime
  directory : Directory
  draws : Draws

structure AccessState where
  store : RequestAccessStore
  commands : Records Uuid ResponseReference
  events : EventStore
  audit : AuditLog

def AccessState.empty : AccessState := ⟨.empty, .empty, .empty, .empty⟩

abbrev ServiceTransaction (α : Type) := Transaction AccessState Failure α

def onStore {α : Type} (body : AccessTransaction α) : ServiceTransaction α :=
  within AccessState.store (fun store state => { state with store }) body

def onCommands {α : Type} (body : Transaction (Records Uuid ResponseReference) Failure α) :
    ServiceTransaction α :=
  within AccessState.commands (fun commands state => { state with commands }) body

def authorizationError (text : String) : Failure := .conflict text

def instantOf (time : DateTime) : ServiceTransaction Instant := do
  require (time.aware = true) (.value "Timestamp must be timezone-aware")
  pure time.instant

variable (config : AccessConfig) (call : Call)

def authorize (permission : String) : ServiceTransaction CanonicalAccount := do
  let account ← demand ((call.directory.account? call.actorAccountId).filter fun account =>
      decide (account.state = .active))
    (authorizationError "Active canonical Account required")
  require ((call.actorAccountId, permission) ∈ call.directory.permissions)
    (authorizationError "Request Access permission required")
  pure account

def reserve (operation : String) (material : Material) (instant : Instant) :
    ServiceTransaction CommandRecord := do
  let commandId ← demand call.trace.commandId
    (.value "Request Access mutation requires command identifier")
  require (8 ≤ call.idempotencyKey.length ∧ call.idempotencyKey.length ≤ 128)
    (.field "idempotency_key")
  onCommands (PersistenceKernel.Idempotency.reserve
    { scope := "access.provenance." ++ operation
      actorReference := call.actorAccountId
      idempotencyKey := call.idempotencyKey
      requestHash := config.requestHash material
      commandId
      createdAt := instant
      responseReference := none
      completedAt := none })

def complete (record : CommandRecord) (kind : String) (id : Uuid) (instant : Instant) :
    ServiceTransaction Unit :=
  onCommands (PersistenceKernel.Idempotency.complete record ⟨kind, id⟩ instant)

def appendAudit (action resourceType operation key : String) (resourceId : Uuid)
    (instant : Instant) : ServiceTransaction Unit := do
  let _ ← within AccessState.audit (fun audit state => { state with audit })
    (PersistenceKernel.Audit.append
      { eventId := call.draws.auditId
        occurredAt := instant
        actorType := .service
        actorId := some (toString call.actorAccountId)
        action
        resourceType
        resourceId := some (toString resourceId)
        outcome := .success
        reason := none
        correlationId := call.trace.correlationId
        causationId := call.trace.causationId
        requestId := some call.trace.requestId
        sourceModule := "request_access"
        safeMetadata := [("category", .text "access_provenance"), ("operation", .text operation)]
        idempotencyKey := some ("audit-" ++ config.keyDigest key) })
  pure ()

def recordEvidence (resourceId : Uuid) (aggregateType resourceType eventType : String)
    (instant : Instant) : ServiceTransaction Unit := do
  let derived := eventType ++ ":" ++ call.idempotencyKey
  let _ ← within AccessState.events (fun events state => { state with events })
    (PersistenceKernel.Outbox.append
      { eventId := call.draws.eventId
        eventType
        aggregateType
        aggregateId := toString resourceId
        sourceModule := "request_access"
        occurredAt := instant
        idempotencyKey := some ("event-" ++ config.keyDigest derived) })
  appendAudit config call eventType resourceType eventType derived resourceId instant

def responseId (record : CommandRecord) : ServiceTransaction Uuid := do
  let reference ← demand record.responseReference (.value "AttributeError")
  pure reference.id

def registerAdapter (command : RegisterSourceAdapter) : ServiceTransaction SourceAdapter := do
  let instant ← instantOf call.time
  let _ ← authorize call "access.provenance.manage"
  let reservation ← reserve config call "adapter.register" (.adapter command) instant
  whenSome reservation.completedAt (fun _ => do
      let adapterId ← responseId reservation
      let stored ← onStore (getAdapter adapterId)
      demand stored (.value "Completed adapter result is unavailable"))
    (do
      let adapter ← onStore (Repository.registerAdapter
        { adapterId := call.draws.recordId
          adapterCode := command.adapterCode
          adapterVersion := command.adapterVersion
          channel := command.channel
          active := true
          createdAt := instant })
      recordEvidence config call adapter.adapterId "access.source_adapter"
        "access_source_adapter" "access.source_adapter_registered" instant
      complete reservation "request_access_adapter" adapter.adapterId instant
      pure adapter)

def declaredCapability (adapter : SourceAdapter) (command : DeclareChannelCapability)
    (existing : Option ChannelActionCapability) (instant : Instant)
    (period : ∀ effectiveEnd ∈ command.effectiveUntil, command.effectiveFrom < effectiveEnd) :
    ChannelActionCapability where
  capabilityId :=
    (existing.map ChannelActionCapability.capabilityId).getD call.draws.recordId
  targetDomain := command.targetDomain
  commandType := command.commandType
  channel := adapter.channel
  adapterId := adapter.adapterId
  adapterVersion := adapter.adapterVersion
  state := command.state
  effectiveFrom := command.effectiveFrom
  effectiveUntil := command.effectiveUntil
  version := (existing.map fun capability => PositiveInt.next capability.version).getD PositiveInt.one
  createdAt := (existing.map ChannelActionCapability.createdAt).getD instant
  updatedAt := instant
  period

def declaredCapability? (adapter : SourceAdapter) (command : DeclareChannelCapability)
    (existing : Option ChannelActionCapability) (instant : Instant) :
    Option ChannelActionCapability :=
  if period : ∀ effectiveEnd ∈ command.effectiveUntil, command.effectiveFrom < effectiveEnd then
    some (declaredCapability call adapter command existing instant period)
  else none

def capabilityEvent : CapabilityState → String
  | .retired => "access.channel_capability_retired"
  | _ => "access.channel_capability_declared"

def declareCapability (command : DeclareChannelCapability) (expectedVersion : Option Int) :
    ServiceTransaction ChannelActionCapability := do
  let instant ← instantOf call.time
  let _ ← authorize call "access.provenance.manage"
  let found ← onStore (getAdapter command.adapterId)
  let adapter ← demand (found.filter SourceAdapter.active)
    (.value "Active registered source adapter required")
  let reservation ← reserve config call "capability.declare" (.capability command expectedVersion)
    instant
  let existing ← onStore (getCapability command.targetDomain command.commandType command.adapterId)
  whenSome reservation.completedAt
    (fun _ => demand existing (.value "Completed capability result is unavailable"))
    (do
      require (expectedVersion = none → existing = none)
        (.value "Capability already exists; expected version required")
      require (∀ version ∈ expectedVersion, ∃ capability ∈ existing, capability.version.1 = version)
        (.value "Stale or missing capability version")
      let capability ← demand (declaredCapability? call adapter command existing instant)
        (.value "effective_until must follow effective_from")
      let saved ← onStore (putCapability capability expectedVersion)
      recordEvidence config call saved.capabilityId "access.channel_capability"
        "access_channel_capability" (capabilityEvent saved.state) instant
      complete reservation "request_access_capability" saved.capabilityId instant
      pure saved)

def minute : Int := 60000000

def LifetimeAllowed (ttl : Int) : Prop := minute ≤ ttl ∧ ttl ≤ 30 * 24 * 60 * minute
deriving Decidable

def continuityReference? (request : ContinuityRequest) (instant : Instant) :
    Option ContinuityReference := do
  let targetDomain ← canonicalCode? request.targetDomain
  let targetType ← canonicalCode? request.targetType
  let targetId ← opaqueReference? request.targetId
  if expiry : instant < instant + request.ttl then
    pure { continuityId := call.draws.recordId
           referenceHash := config.hashReference request.continuityReference
           authenticatedAccountId := call.actorAccountId
           actingSubjectId := request.actingSubjectId
           targetDomain, targetType, targetId
           createdAt := instant
           expiresAt := instant + request.ttl
           expiry }
  else none

def issueContinuityReference (request : ContinuityRequest) :
    ServiceTransaction IssuedContinuityReference := do
  let instant ← instantOf call.time
  require (LifetimeAllowed request.ttl)
    (.value "Continuity lifetime must be between one minute and 30 days")
  require (32 ≤ request.continuityReference.length)
    (.value "Continuity reference must contain at least 32 characters")
  let account ← authorize call "access.provenance.record"
  require (account.subjectId = request.actingSubjectId)
    (authorizationError "Continuity actor must match authenticated Account")
  let referenceHash := config.hashReference request.continuityReference
  let reservation ← reserve config call "continuity.issue"
    (.continuity request.actingSubjectId request.targetDomain request.targetType request.targetId
      referenceHash request.ttl)
    instant
  whenSome reservation.completedAt (fun _ => do
      let found ← onStore (getContinuityByHash referenceHash)
      let stored ← demand found (.value "Completed continuity result is unavailable")
      pure ⟨stored.continuityId, request.continuityReference, stored.expiresAt⟩)
    (do
      let valid ← demand (continuityReference? config call request instant)
        (.field "continuity_reference")
      let reference ← onStore (appendContinuity call.directory valid)
      appendAudit config call "access.continuity_reference_issued" "access_continuity_reference"
        "continuity_reference_issued" ("continuity:" ++ call.idempotencyKey)
        reference.continuityId instant
      complete reservation "continuity_reference" reference.continuityId instant
      pure ⟨reference.continuityId, request.continuityReference, reference.expiresAt⟩)

variable (terms : InteractionTerms)

def Continues (instant : Instant) (reference : ContinuityReference) : Prop :=
  instant < reference.expiresAt ∧ reference.authenticatedAccountId = terms.authenticatedAccountId ∧
    reference.actingSubjectId = terms.actingSubjectId ∧
    reference.targetDomain = terms.targetDomain ∧
    reference.targetType = terms.targetType ∧
    reference.targetId = terms.targetId
deriving Decidable

def validateContinuity (instant : Instant) : ServiceTransaction (Option Uuid) :=
  if terms.purpose ≠ .continuation then pure none
  else do
    let raw ← demand (terms.continuityReference.filter fun raw => decide (32 ≤ raw.1.length))
      (authorizationError "Explicit high-entropy continuity reference required")
    let found ← onStore (getContinuityByHash (config.hashReference raw.1))
    let reference ← demand (found.filter fun reference => decide (Continues terms instant reference))
      (authorizationError "Continuity reference is invalid, expired, or target-mismatched")
    pure (some reference.continuityId)

def validateCorrection : ServiceTransaction Unit :=
  if terms.purpose = .correction then do
    let named ← demand terms.supersedesProvenanceId
      (.value "Correction must supersede evidence for the same target")
    let found ← onStore (getProvenance named)
    let superseded ← demand found (.value "Correction must supersede evidence for the same target")
    require (superseded.toInteractionTerms.SameTarget terms)
      (.value "Correction must supersede evidence for the same target")
  else pure ()

def recordTerms (continuityId : Option Uuid) : InteractionTerms :=
  { terms with continuityReference := none, continuityId }

def acceptedRecord (commandId : Uuid) (instant : Instant) :
    ServiceTransaction InteractionProvenanceRecord := do
  let key ← demand (opaqueReference? call.idempotencyKey) (.field "interaction_idempotency_key")
  if valid : terms.objection = none then
    pure { toInteractionTerms := terms
           provenanceId := call.draws.recordId
           schemaVersion := PositiveInt.one
           acceptedAt := instant
           correlationId := call.trace.correlationId
           causationId := call.trace.causationId
           commandId
           requestId := call.trace.requestId
           interactionIdempotencyKey := key
           valid }
  else throw (.value (terms.objection.getD ""))

def provenanceEvent : ProvenancePurpose → String
  | .initiation => "access.interaction_provenance_recorded"
  | .continuation => "access.interaction_continuation_recorded"
  | .correction => "access.interaction_provenance_corrected"
  | .legacyVerified => "access.interaction_provenance_recorded"

def Registered (adapter : SourceAdapter) : Prop :=
  adapter.active = true ∧ adapter.channel = terms.channel ∧
    adapter.adapterVersion = terms.adapterVersion
deriving Decidable

def authorizeSupport (account : CanonicalAccount) : ServiceTransaction Unit :=
  if terms.interactionMethod = .supportAssisted then do
    let _ ← authorize call "access.provenance.support"
    require (terms.supportAgentAccountId = some call.actorAccountId ∧
        terms.supportAgentSubjectId = some account.subjectId)
      (authorizationError "Support attribution must match authenticated workforce actor")
  else pure ()

def acceptInteraction (commandId : Uuid) (instant : Instant) :
    ServiceTransaction InteractionProvenanceRecord := do
  let foundAdapter ← onStore (getAdapter terms.adapterId)
  let _ ← demand (foundAdapter.filter fun adapter => decide (Registered terms adapter))
    (authorizationError "Registered active source adapter is required")
  let foundCapability ← onStore (getCapability terms.targetDomain terms.commandType terms.adapterId)
  let _ ← demand (foundCapability.filter fun capability =>
      decide (capability.SupportedAt instant))
    (authorizationError "Channel action is not currently supported")
  let continuityId ← validateContinuity config terms instant
  validateCorrection terms
  let record ← acceptedRecord call (recordTerms terms continuityId) commandId instant
  onStore (appendProvenance call.directory record)

def recordAcceptedInteraction (envelope : InteractionProvenanceEnvelope) :
    ServiceTransaction InteractionProvenanceRecord := do
  let terms := envelope.1
  let instant ← instantOf call.time
  let commandId ← demand call.trace.commandId
    (.value "Accepted interaction requires command identifier")
  require (terms.continuityId = none) (.value "Caller cannot supply internal continuity identity")
  let account ← authorize call "access.provenance.record"
  require (call.actorAccountId = terms.authenticatedAccountId)
    (authorizationError "Authenticated Account must match server actor")
  require (account.subjectId = terms.authenticatedSubjectId)
    (authorizationError "Authenticated Subject does not match canonical Account")
  require (terms.actingSubjectId = account.subjectId)
    (authorizationError "Acting Subject requires separately approved delegation integration")
  authorizeSupport call terms account
  let material := Material.interaction { terms with continuityReference := none }
    (terms.continuityReference.map fun raw => config.hashReference raw.1)
  let reservation ← reserve config call "interaction.record" material instant
  whenSome reservation.completedAt (fun _ => do
      let provenanceId ← responseId reservation
      let stored ← onStore (getProvenance provenanceId)
      demand stored (.value "Completed provenance result is unavailable"))
    (do
      let record ← acceptInteraction config call terms commandId instant
      recordEvidence config call record.provenanceId "access.interaction_provenance"
        "access_interaction_provenance" (provenanceEvent record.purpose) instant
      complete reservation "interaction_provenance" record.provenanceId instant
      pure record)

inductive Command where
  | registerAdapter (command : RegisterSourceAdapter)
  | declareCapability (command : DeclareChannelCapability) (expectedVersion : Option Int)
  | issueContinuityReference (request : ContinuityRequest)
  | recordAcceptedInteraction (envelope : InteractionProvenanceEnvelope)

/-- One call of the service, committed or rolled back. -/
def step (state : AccessState) (input : Call × Command) : AccessState :=
  match input.2 with
  | .registerAdapter command => commit (registerAdapter config input.1 command) state
  | .declareCapability command expectedVersion =>
    commit (declareCapability config input.1 command expectedVersion) state
  | .issueContinuityReference request =>
    commit (issueContinuityReference config input.1 request) state
  | .recordAcceptedInteraction envelope =>
    commit (recordAcceptedInteraction config input.1 envelope) state

end Ayo.RequestAccess.Service
