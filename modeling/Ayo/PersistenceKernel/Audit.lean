/- digest: Domain events, command records, and the append-only audit log. -/

import Ayo.Core.Values
import Ayo.Kernel.KeyedTable
import Mathlib.Data.Prod.Lex

namespace Ayo.PersistenceKernel.Models

open Kernel.KeyedTable Core.Values

structure DomainEvent where
  eventId : Uuid
  (eventType aggregateType aggregateId sourceModule : String)
  occurredAt : Instant
  idempotencyKey : Option String

/-- The rule of `uq_persistence_domain_events_event_idempotency`, under which null keys differ. -/
def DomainEvent.SameKey (a b : DomainEvent) : Prop :=
  a.idempotencyKey.isSome = true ∧ a.sourceModule = b.sourceModule ∧
    a.aggregateType = b.aggregateType ∧ a.aggregateId = b.aggregateId ∧
    a.eventType = b.eventType ∧ a.idempotencyKey = b.idempotencyKey
deriving Decidable

theorem DomainEvent.SameKey.symm {a b : DomainEvent} (same : a.SameKey b) : b.SameKey a := by
  obtain ⟨present, module, type, aggregate, event, key⟩ := same
  exact ⟨key ▸ present, module.symm, type.symm, aggregate.symm, event.symm, key.symm⟩

instance : Row DomainEvent Uuid where
  key := DomainEvent.eventId
  clash a b := a.eventId = b.eventId ∨ a.SameKey b
  clash_symm clash := clash.imp Eq.symm DomainEvent.SameKey.symm

structure OutboxRow where
  eventId : Uuid
  availableAt : Instant
  attemptCount : Nat
  claimedAt : Option Instant
  claimedBy : Option String
  (publishedAt deadLetteredAt : Option Instant)
  lastErrorCode : Option String

instance : Row OutboxRow Uuid := .keyed OutboxRow.eventId

/-- `timedelta(seconds=…)`. -/
def seconds (count : Int) : Int := count * 1000000

def OutboxRow.waiting (event : DomainEvent) : OutboxRow where
  eventId := event.eventId
  availableAt := event.occurredAt
  attemptCount := 0
  claimedAt := none
  claimedBy := none
  publishedAt := none
  deadLetteredAt := none
  lastErrorCode := none

def OutboxRow.Ready (now : Instant) (leaseSeconds : Int) (locked : List Uuid) (row : OutboxRow) :
    Prop :=
  row.publishedAt = none ∧ row.deadLetteredAt = none ∧ row.availableAt ≤ now ∧
    (∀ claimedAt ∈ row.claimedAt, claimedAt ≤ now - seconds leaseSeconds) ∧ row.eventId ∉ locked
deriving Decidable

def OutboxRow.position (row : OutboxRow) : Instant ×ₗ Uuid := toLex (row.availableAt, row.eventId)

def OutboxRow.claimed (workerId : String) (now : Instant) (row : OutboxRow) : OutboxRow :=
  { row with claimedAt := some now, claimedBy := some workerId }

def OutboxRow.ClaimedBy (eventId : Uuid) (workerId : String) (row : OutboxRow) : Prop :=
  row.eventId = eventId ∧ row.claimedBy = some workerId ∧ row.publishedAt = none ∧
    row.deadLetteredAt = none
deriving Decidable

def OutboxRow.published (time : Instant) (row : OutboxRow) : OutboxRow :=
  { row with publishedAt := some time, claimedAt := none, claimedBy := none, lastErrorCode := none }

structure RetryBounds where
  (maximumAttempts baseBackoffSeconds maximumBackoffSeconds : Int)

def RetryBounds.backoff (bounds : RetryBounds) (attempts : Nat) : Int :=
  min bounds.maximumBackoffSeconds (bounds.baseBackoffSeconds * 2 ^ (attempts - 1))

def RetryBounds.exhausted (bounds : RetryBounds) (attempts : Nat) : Bool :=
  decide (bounds.maximumAttempts ≤ attempts)

def OutboxRow.failed (failedAt : Instant) (errorCode : String) (bounds : RetryBounds)
    (row : OutboxRow) : OutboxRow :=
  let attempts := row.attemptCount + 1
  { row with
    attemptCount := attempts
    availableAt := failedAt + seconds (bounds.backoff attempts)
    claimedAt := none
    claimedBy := none
    lastErrorCode := some errorCode
    deadLetteredAt := if bounds.exhausted attempts = true then some failedAt else none }

structure OutboxEnvelope where
  event : DomainEvent
  attemptCount : Nat
  availableAt : Instant
  claimedBy : Option String

structure EventStore where
  events : Table DomainEvent
  outbox : Table OutboxRow

def EventStore.empty : EventStore := ⟨.empty, .empty⟩

end Ayo.PersistenceKernel.Models

/-! The append-only audit log, in which one module records an action once under an idempotency key.
-/

namespace Ayo.PersistenceKernel.Audit

open Kernel.UnitOfWork Kernel.KeyedTable Core.Values

inductive ActorType where
  | anonymous
  | rider
  | driver
  | staff
  | administrator
  | system
  | service
deriving DecidableEq

inductive AuditOutcome where
  | success
  | denied
  | failed
  | cancelled
deriving DecidableEq

inductive SafeAuditValue where
  | text (value : String)
  | number (value : Int)
  | flag (value : Bool)
deriving DecidableEq

/-- `SAFE_METADATA_FIELDS`. -/
def safeMetadataFields : List String :=
  ["category", "channel", "error_category", "operation", "policy_version", "risk_level",
   "state_from", "state_to"]

/-- `^[A-Za-z0-9_.:-]{1,128}$`. -/
def isSafeString (text : String) : Bool :=
  (1 ≤ text.toList.length && text.toList.length ≤ 128) && text.toList.all fun c =>
    c.isAlphanum || c == '_' || c == '.' || c == ':' || c == '-'

def SafeAuditValue.isSafe : SafeAuditValue → Bool
  | .text value => isSafeString value
  | .number _ => true
  | .flag _ => true

abbrev SafeAuditMetadata := List (String × SafeAuditValue)

/-- What `validate_safe_metadata` lets through; none of the listed fields is a prohibited one. -/
def ValidSafeMetadata (metadata : SafeAuditMetadata) : Prop :=
  metadata.length ≤ 12 ∧
    ∀ entry ∈ metadata, entry.1 ∈ safeMetadataFields ∧ entry.2.isSafe = true
deriving Decidable

structure AuditEvent where
  eventId : Uuid
  occurredAt : Instant
  actorType : ActorType
  actorId : Option String
  (action resourceType : String)
  resourceId : Option String
  outcome : AuditOutcome
  reason : Option String
  correlationId : Uuid
  (causationId requestId : Option Uuid)
  sourceModule : String
  safeMetadata : SafeAuditMetadata
  idempotencyKey : Option String
deriving DecidableEq

/-- The columns of `uq_audit_events_idempotency`. -/
def AuditEvent.name (event : AuditEvent) : Option (String × String × String) :=
  event.idempotencyKey.map fun key => (event.sourceModule, event.action, key)

/-- The rule of `uq_audit_events_idempotency`, under which events without a key differ. -/
def AuditEvent.SameName (a b : AuditEvent) : Prop :=
  a.name.isSome = true ∧ a.name = b.name
deriving Decidable

theorem AuditEvent.SameName.symm {a b : AuditEvent} (same : a.SameName b) : b.SameName a :=
  ⟨same.2 ▸ same.1, same.2.symm⟩

instance : Row AuditEvent Uuid where
  key := AuditEvent.eventId
  clash a b := a.eventId = b.eventId ∨ a.SameName b
  clash_symm clash := clash.imp Eq.symm AuditEvent.SameName.symm

abbrev AuditLog := Table AuditEvent

def recorded? (log : AuditLog) (name : String × String × String) : Option AuditEvent :=
  log.rows.find? fun event => decide (event.name = some name)

def AuditEvent.SameContent (a b : AuditEvent) : Prop :=
  { a with eventId := b.eventId, occurredAt := b.occurredAt } = b
deriving Decidable

def auditConflict : Failure :=
  .conflict "Audit idempotency key was reused for different event content"

def auditIntegrity : Failure := .integrity "audit_events"

def insertEvent (event : AuditEvent) : Transaction AuditLog Failure AuditEvent := do
  let log ← get
  let inserted ← demand (log.insert? event) auditIntegrity
  put inserted
  pure event

/-- An event is built, with its metadata checked, and recorded once under its name. -/
def append (event : AuditEvent) : Transaction AuditLog Failure AuditEvent := do
  require (ValidSafeMetadata event.safeMetadata) (.field "safe_metadata")
  let log ← get
  whenSome (event.name.bind (recorded? log)) (fun stored => do
      require (stored.SameContent event) auditConflict
      pure stored)
    (insertEvent event)

section

variable {s t : AuditLog} {event : AuditEvent}

theorem append_ok {returned : AuditEvent} (ran : append event s = .ok (returned, t)) :
    (event.name.bind (recorded? s) = some returned ∧ returned.SameContent event ∧ t = s) ∨
      (event.name.bind (recorded? s) = none ∧ returned = event ∧ t.rows = s.rows ++ [event]) := by
  unfold append at ran
  obtain ⟨_, ran⟩ := require_bind_ok.1 ran
  rw [get_bind_ok] at ran
  obtain ⟨held, found, ran⟩ | ⟨absent, ran⟩ := whenSome_ok.1 ran
  · obtain ⟨same, returned⟩ := require_bind_ok.1 ran
    obtain ⟨rfl, rfl⟩ := pure_ok.1 returned
    exact .inl ⟨found, same, rfl⟩
  · unfold insertEvent at ran
    rw [get_bind_ok] at ran
    obtain ⟨inserted, inserts, ran⟩ := demand_bind_ok.1 ran
    rw [put_bind_ok] at ran
    obtain ⟨rfl, rfl⟩ := pure_ok.1 ran
    exact .inr ⟨absent, rfl, Table.insert?_eq_some.1 inserts⟩

theorem validSafeMetadata_of_append {returned : AuditEvent}
    (ran : append event s = .ok (returned, t)) : ValidSafeMetadata event.safeMetadata :=
  (require_bind_ok.1 ran).1

theorem append_of_free (valid : ValidSafeMetadata event.safeMetadata)
    (free : ∀ other ∈ s.rows, ¬ Row.clash other event) :
    ∃ t, append event s = .ok (event, t) ∧ t.rows = s.rows ++ [event] := by
  obtain ⟨inserted, rows⟩ := Table.exists_inserted free
  refine ⟨inserted, require_bind_ok.2 ⟨valid, get_bind_ok.2 (whenSome_ok.2 (.inr ⟨?_, ?_⟩))⟩,
    rows⟩
  · cases named : event.name with
    | none => rfl
    | some name =>
      refine List.find?_eq_none.2 fun other held same => free other held (.inr ?_)
      rw [decide_eq_true_eq] at same
      exact ⟨by rw [same]; rfl, same.trans named.symm⟩
  · exact get_bind_ok.2 (demand_bind_ok.2
      ⟨inserted, Table.insert?_eq_some.2 rows, put_bind_ok.2 (pure_ok.2 ⟨rfl, rfl⟩)⟩)

end
end Ayo.PersistenceKernel.Audit

/-! Command records under their idempotency keys: reserved once, completed once, and answered from
the stored result afterwards. -/

namespace Ayo.PersistenceKernel.Idempotency

open Kernel.UnitOfWork Kernel.KeyedTable Kernel.Failures Core.Values

structure IdempotencyRecord (α ρ : Type) where
  scope : String
  actorReference : α
  (idempotencyKey requestHash : String)
  commandId : Uuid
  createdAt : Instant
  responseReference : Option ρ
  completedAt : Option Instant

variable {α ρ : Type}

def IdempotencyRecord.name (record : IdempotencyRecord α ρ) : String × α × String :=
  (record.scope, record.actorReference, record.idempotencyKey)

variable [DecidableEq α]

instance : Row (IdempotencyRecord α ρ) (String × α × String) :=
  .keyedUnique IdempotencyRecord.name IdempotencyRecord.commandId

abbrev Records (α ρ : Type) [DecidableEq α] := Table (IdempotencyRecord α ρ)

def keyReused : Failure := .conflict "Idempotency key was reused with a different request."

def completionConflict : Failure :=
  .conflict "Command completion conflicts with the stored result."

def recordIntegrity : Failure := .integrity "persistence_idempotency_records"

def reserve (record : IdempotencyRecord α ρ) :
    Transaction (Records α ρ) Failure (IdempotencyRecord α ρ) := do
  let records ← get
  whenSome (records.find record.name) (fun stored => do
      require (stored.requestHash = record.requestHash) keyReused
      pure stored)
    (do
      let inserted ← demand (records.insert? record) recordIntegrity
      put inserted
      pure record)

def IdempotencyRecord.Open (record row : IdempotencyRecord α ρ) : Prop :=
  row.requestHash = record.requestHash ∧ row.completedAt = none
deriving Decidable

def IdempotencyRecord.completed (response : ρ) (completedAt : Instant)
    (record : IdempotencyRecord α ρ) : IdempotencyRecord α ρ :=
  { record with responseReference := some response, completedAt := some completedAt }

variable [DecidableEq ρ]

def complete (record : IdempotencyRecord α ρ) (response : ρ) (completedAt : Instant) :
    Transaction (Records α ρ) Failure Unit := do
  let records ← get
  whenSome ((records.find record.name).filter fun row => decide (record.Open row)) (fun row => do
      -- The check constraint on completed rows.
      require (row.createdAt ≤ completedAt) recordIntegrity
      let updated ← demand (records.replace? (row.completed response completedAt)) recordIntegrity
      put updated)
    (do
      let stored ← reserve record
      require (stored.responseReference = some response ∧ stored.completedAt ≠ none)
        completionConflict)

def Answered (records : Records α ρ) (name : String × α × String) (hash : String) : Prop :=
  ∃ row, records.find name = some row ∧ row.requestHash = hash ∧ row.completedAt ≠ none

section

variable {s t : Records α ρ} {record held : IdempotencyRecord α ρ}

omit [DecidableEq ρ] in
theorem reserve_ok (ran : reserve record s = .ok (held, t)) :
    (s.find record.name = some held ∧ held.requestHash = record.requestHash ∧ t = s) ∨
      (s.find record.name = none ∧ held = record ∧ t.rows = s.rows ++ [record]) := by
  unfold reserve at ran
  rw [get_bind_ok] at ran
  obtain ⟨row, found, ran⟩ | ⟨absent, ran⟩ := whenSome_ok.1 ran
  · obtain ⟨same, returned⟩ := require_bind_ok.1 ran
    obtain ⟨rfl, rfl⟩ := pure_ok.1 returned
    exact .inl ⟨found, same, rfl⟩
  · obtain ⟨inserted, inserts, ran⟩ := demand_bind_ok.1 ran
    rw [put_bind_ok] at ran
    obtain ⟨rfl, rfl⟩ := pure_ok.1 ran
    exact .inr ⟨absent, rfl, Table.insert?_eq_some.1 inserts⟩

omit [DecidableEq ρ] in
theorem reserve_of_found (found : s.find record.name = some held)
    (same : held.requestHash = record.requestHash) : reserve record s = .ok (held, s) := by
  unfold reserve
  exact get_bind_ok.2 (whenSome_ok.2 (.inl ⟨held, found,
    require_bind_ok.2 ⟨same, pure_ok.2 ⟨rfl, rfl⟩⟩⟩))

variable {completedAt : Instant}

theorem complete_of_open {row : IdempotencyRecord α ρ} (found : s.find record.name = some row)
    (isOpen : record.Open row) (response : ρ) (later : row.createdAt ≤ completedAt) :
    ∃ t, complete record response completedAt s = .ok ((), t) := by
  obtain ⟨t, rows⟩ : ∃ t : Records α ρ, t.rows = s.replaced (row.completed response completedAt) :=
    Table.exists_replaced_of_reflects (Table.mem_of_find found) rfl fun _ => id
  have chosen : (s.find record.name).filter (fun row => decide (record.Open row)) = some row := by
    rw [found, Option.filter_some, if_pos (decide_eq_true isOpen)]
  exact ⟨t, get_bind_ok.2 (whenSome_ok.2 (.inl ⟨row, chosen, require_bind_ok.2 ⟨later,
    demand_bind_ok.2 ⟨t, Table.replace?_eq_some.2 rows, put_ok.2 rfl⟩⟩⟩))⟩

theorem complete_cases {response : ρ} {u : Unit}
    (ran : complete record response completedAt s = .ok (u, t)) :
    (∃ row, s.find record.name = some row ∧ record.Open row ∧ row.createdAt ≤ completedAt ∧
        t.rows = s.replaced (row.completed response completedAt)) ∨
      (∃ held, reserve record s = .ok (held, t) ∧
        held.responseReference = some response ∧ held.completedAt ≠ none) := by
  unfold complete at ran
  rw [get_bind_ok] at ran
  obtain ⟨row, chosen, ran⟩ | ⟨_, ran⟩ := whenSome_ok.1 ran
  · obtain ⟨found, chosen⟩ := Option.filter_eq_some_iff.1 chosen
    obtain ⟨later, ran⟩ := require_bind_ok.1 ran
    obtain ⟨updated, replaces, ran⟩ := demand_bind_ok.1 ran
    obtain rfl := (put_ok.1 ran)
    exact .inl ⟨row, found, of_decide_eq_true chosen, later, Table.replace?_eq_some.1 replaces⟩
  · obtain ⟨held, middle, reserves, required⟩ := bind_ok.1 ran
    obtain ⟨⟨response, completed⟩, rfl⟩ := require_ok.1 required
    exact .inr ⟨held, reserves, response, completed⟩

variable {name : String × α × String} {hash : String}

omit [DecidableEq ρ] in
theorem Answered.of_reserve (answered : Answered s name hash)
    (ran : reserve record s = .ok (held, t)) : Answered t name hash := by
  obtain ⟨row, found, hashed, done⟩ := answered
  obtain ⟨_, _, rfl⟩ | ⟨_, _, rows⟩ := reserve_ok ran
  · exact ⟨row, found, hashed, done⟩
  · refine ⟨row, ?_, hashed, done⟩
    rw [Table.find_of_rows_append rows, found, Option.some_or]

theorem Answered.of_complete {response : ρ} {u : Unit} (answered : Answered s name hash)
    (ran : complete record response completedAt s = .ok (u, t)) : Answered t name hash := by
  obtain ⟨row, found, isOpen, _, rows⟩ | ⟨held, reserves, _⟩ := complete_cases ran
  · obtain ⟨other, held, hashed, done⟩ := answered
    refine ⟨other, ?_, hashed, done⟩
    have apart : name ≠ Row.key (row.completed response completedAt) := by
      intro same
      have key : row.name = record.name := Table.key_of_find found
      rw [same.trans key, found] at held
      cases held
      exact done isOpen.2
    rw [Table.find_of_rows_replaced rows, if_neg apart, held]
  · exact answered.of_reserve reserves

theorem answered_of_complete {response : ρ} {u : Unit}
    (ran : complete record response completedAt s = .ok (u, t)) :
    Answered t record.name record.requestHash := by
  obtain ⟨row, found, isOpen, _, rows⟩ | ⟨held, reserves, _, done⟩ := complete_cases ran
  · refine ⟨row.completed response completedAt, ?_, isOpen.1, by simp [IdempotencyRecord.completed]⟩
    have key : row.name = record.name := Table.key_of_find found
    rw [Table.find_of_rows_replaced rows, found, Option.map_some]
    exact if_pos key.symm
  · obtain ⟨found, hashed, rfl⟩ | ⟨_, rfl, rows⟩ := reserve_ok reserves
    · exact ⟨held, found, hashed, done⟩
    · exact ⟨held, Table.find_of_inserted rows, rfl, done⟩

omit [DecidableEq ρ] in
/-- A name that was answered is reserved again only with its answer. -/
theorem Answered.reserved (answered : Answered s record.name hash)
    (ran : reserve record s = .ok (held, t)) : held.completedAt ≠ none ∧ t = s := by
  obtain ⟨row, found, _, done⟩ := answered
  obtain ⟨again, _, rfl⟩ | ⟨absent, _⟩ := reserve_ok ran
  · cases found.symm.trans again
    exact ⟨done, rfl⟩
  · rw [absent] at found
    cases found

omit [DecidableEq ρ] in
/-- A name that was answered is refused to a request of another hash. -/
theorem Answered.refused (answered : Answered s record.name hash)
    (apart : record.requestHash ≠ hash) : reserve record s = .error keyReused := by
  obtain ⟨row, found, hashed, _⟩ := answered
  refine get_bind_fails.2 ?_
  rw [found]
  exact require_bind_fails.2 (.inl ⟨fun same => apart (same.symm.trans hashed), rfl⟩)

end
end Ayo.PersistenceKernel.Idempotency
