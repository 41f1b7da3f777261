/- digest: Household relationships, and who may name whom as passenger. -/

import Ayo.PersistenceKernel.Outbox

namespace Ayo.CustomerProfile.Households

open Kernel.UnitOfWork Kernel.KeyedTable Core.Values
open PersistenceKernel.Audit (AuditLog)
open PersistenceKernel.Idempotency PersistenceKernel.Models

inductive RelationshipType where
  | familyMember
  | trustedFriend
  | caregiver
  | other

def RelationshipType.value : RelationshipType → String
  | .familyMember => "family_member"
  | .trustedFriend => "trusted_friend"
  | .caregiver => "caregiver"
  | .other => "other"

inductive RelationshipState where
  | pending
  | active
  | suspended
  | removed
deriving DecidableEq

def RelationshipState.value : RelationshipState → String
  | .pending => "pending"
  | .active => "active"
  | .suspended => "suspended"
  | .removed => "removed"

def RelationshipState.transitions : RelationshipState → List RelationshipState
  | .pending => [.active, .removed]
  | .active => [.suspended, .removed]
  | .suspended => [.active, .removed]
  | .removed => []

structure HouseholdRelationship where
  (relationshipId invitingSubjectId invitedSubjectId : Uuid)
  relationshipType : RelationshipType
  state : RelationshipState
  (createdAt updatedAt : Instant)
  version : Nat

def HouseholdRelationship.direction (row : HouseholdRelationship) : Uuid × Uuid :=
  (row.invitingSubjectId, row.invitedSubjectId)

instance : Row HouseholdRelationship Uuid :=
  .keyedUnique HouseholdRelationship.relationshipId HouseholdRelationship.direction

def HouseholdRelationship.moved (target : RelationshipState) (time : Instant)
    (row : HouseholdRelationship) : HouseholdRelationship :=
  { row with state := target, updatedAt := time, version := row.version + 1 }

inductive RelationshipReference where
  | created (relationshipId : Uuid)
  | changed (relationshipId : Uuid) (version : Nat)
deriving DecidableEq

abbrev CommandRecord := IdempotencyRecord Uuid RelationshipReference

structure HouseholdStore where
  relationships : Table HouseholdRelationship := .empty
  records : Records Uuid RelationshipReference := .empty
  events : EventStore := .empty
  audits : AuditLog := .empty

structure TraceContext where
  (correlationId requestId : Uuid)
  (commandId causationId : Option Uuid)

structure Call where
  idempotencyKey : String
  trace : TraceContext
  time : DateTime
  (relationshipId eventId auditId : Uuid)

structure HouseholdConfig where
  (requestHash keyDigest : String → String)
  known : Uuid → Bool

abbrev HouseholdTransaction (α : Type) := Transaction HouseholdStore Failure α

variable (config : HouseholdConfig) (call : Call)

def checkTime : HouseholdTransaction Instant := do
  require (call.time.aware = true) (.value "Timestamp must be timezone-aware")
  pure call.time.instant

def reserveCommand (scope : String) (actor : Uuid) (material : String) :
    HouseholdTransaction CommandRecord := do
  let commandId ← demand call.trace.commandId (.value "Mutation requires command identifier")
  require (8 ≤ call.idempotencyKey.length ∧ call.idempotencyKey.length ≤ 128)
    (.field "idempotency_key")
  within HouseholdStore.records (fun records store => { store with records }) (reserve
      { scope, actorReference := actor, idempotencyKey := call.idempotencyKey
        requestHash := config.requestHash material, commandId, createdAt := call.time.instant
        responseReference := none, completedAt := none })

/-- `_record`: a domain event and its audit, under keys derived from the event type and the key. -/
def record (eventType aggregateType : String) (aggregateId actor : Uuid) :
    HouseholdTransaction Unit := do
  let derived := config.keyDigest (eventType ++ ":" ++ call.idempotencyKey)
  let _ ← within HouseholdStore.events (fun events store => { store with events })
    (PersistenceKernel.Outbox.append
      { eventId := call.eventId, eventType, aggregateType
        aggregateId := toString aggregateId, sourceModule := "customer_profile"
        occurredAt := call.time.instant, idempotencyKey := some ("event-" ++ derived) })
  let _ ← within HouseholdStore.audits (fun audits store => { store with audits })
    (PersistenceKernel.Audit.append
      { eventId := call.auditId, occurredAt := call.time.instant, actorType := .service
        actorId := some (toString actor), action := eventType, resourceType := aggregateType
        resourceId := some (toString aggregateId), outcome := .success, reason := none
        correlationId := call.trace.correlationId, causationId := call.trace.causationId
        requestId := some call.trace.requestId, sourceModule := "customer_profile"
        safeMetadata := [("category", .text "customer_profile"), ("operation", .text eventType)]
        idempotencyKey := some ("audit-" ++ derived) })
  pure ()

def completeCommand (reservation : CommandRecord) (response : RelationshipReference) :
    HouseholdTransaction Unit :=
  within HouseholdStore.records (fun records store => { store with records })
    (complete reservation response call.time.instant)

variable (relationship : HouseholdRelationship)

def createRelationship : HouseholdTransaction HouseholdRelationship := do
  require (config.known relationship.invitingSubjectId = true ∧
      config.known relationship.invitedSubjectId = true)
    (.conflict "Household relationship already exists")
  let store ← get
  let relationships ← demand (store.relationships.insert? relationship)
    (.conflict "Household relationship already exists")
  put { store with relationships }
  pure relationship

def storedInvitation (reservation : CommandRecord) : HouseholdTransaction HouseholdRelationship := do
  let store ← get
  match reservation.responseReference with
  | some (.created relationshipId) =>
    demand (store.relationships.find relationshipId)
      (.value "Completed relationship command has no result")
  | some (.changed _ _) => throw (.value "badly formed hexadecimal UUID string")
  | none => throw (.value "Completed relationship command has no result")

def inviteRelationship (actor invited : Uuid) (relationshipType : RelationshipType) :
    HouseholdTransaction HouseholdRelationship := do
  require (actor ≠ invited) (.value "A Subject cannot invite itself")
  let instant ← checkTime call
  let reservation ← reserveCommand config call "customer_household.invite" actor
    (toString actor ++ ":" ++ toString invited ++ ":" ++ relationshipType.value)
  whenSome reservation.completedAt (fun _ => storedInvitation reservation) do
    let created ← createRelationship config
      { relationshipId := call.relationshipId, invitingSubjectId := actor
        invitedSubjectId := invited, relationshipType, state := .pending, createdAt := instant
        updatedAt := instant, version := 1 }
    record config call "customer_household.relationship_invited" "customer_household_relationship"
      created.relationshipId actor
    completeCommand call reservation (.created created.relationshipId)
    pure created

def saveTransition (target : RelationshipState) (expectedVersion : Int) (time : Instant) :
    HouseholdTransaction HouseholdRelationship := do
  require (target ∈ relationship.state.transitions)
    (.value ("Invalid relationship transition: " ++ relationship.state.value ++ "->" ++
      target.value))
  let store ← get
  let row ← demand ((store.relationships.find relationship.relationshipId).filter fun row =>
    (row.version : Int) = expectedVersion) (.conflict "Household relationship changed")
  let relationships ← demand (store.relationships.replace? (row.moved target time))
    (.integrity "customer_household_relationships")
  put { store with relationships }
  pure (row.moved target time)

def transitionRelationship (actor relationshipId : Uuid) (target : RelationshipState)
    (expectedVersion : Int) : HouseholdTransaction HouseholdRelationship := do
  let instant ← checkTime call
  let reservation ← reserveCommand config call "customer_household.transition" actor
    (toString relationshipId ++ ":" ++ target.value ++ ":" ++ toString expectedVersion)
  let store ← get
  let relationship ← demand (store.relationships.find relationshipId)
    (.value "Household relationship does not exist")
  require (actor = relationship.invitingSubjectId ∨ actor = relationship.invitedSubjectId)
    (.value "Household relationship access denied")
  require (target = .active → actor = relationship.invitedSubjectId)
    (.value "Only the invited Subject may activate the relationship")
  whenSome reservation.completedAt (fun _ => pure relationship) do
    let updated ← saveTransition relationship target expectedVersion instant
    record config call "customer_household.relationship_changed" "customer_household_relationship"
      relationshipId actor
    completeCommand call reservation (.changed relationshipId updated.version)
    pure updated

def ActiveBetween (first second : Uuid) (row : HouseholdRelationship) : Prop :=
  row.state = .active ∧ (row.direction = (first, second) ∨ row.direction = (second, first))
deriving Decidable

def activeRelationshipBetween (first second : Uuid) :
    HouseholdTransaction (Option HouseholdRelationship) := do
  let store ← get
  match store.relationships.rows.filter fun row => ActiveBetween first second row with
  | [] => pure none
  | [row] => pure (some row)
  | _ => throw (.value "Multiple rows were found when one or none was required")

def validateIntendedPassenger (actor intended : Uuid) : HouseholdTransaction Bool :=
  if actor = intended then
    pure true
  else do
    let relationship ← activeRelationshipBetween actor intended
    pure relationship.isSome

inductive RelationshipCommand where
  | invite (actor invited : Uuid) (relationshipType : RelationshipType)
  | transition (actor relationshipId : Uuid) (target : RelationshipState) (expectedVersion : Int)

def RelationshipCommand.body : RelationshipCommand → HouseholdTransaction HouseholdRelationship
  | .invite actor invited relationshipType =>
    inviteRelationship config call actor invited relationshipType
  | .transition actor relationshipId target expectedVersion =>
    transitionRelationship config call actor relationshipId target expectedVersion

structure RelationshipCall where
  call : Call
  command : RelationshipCommand

def householdStep (store : HouseholdStore) (input : RelationshipCall) : HouseholdStore :=
  commit (input.command.body config input.call) store

end Ayo.CustomerProfile.Households
