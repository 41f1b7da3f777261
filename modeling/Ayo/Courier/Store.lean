/- digest: The one database of the courier components and its shared writers. -/

import Ayo.Core.Authorization
import Ayo.CourierDispatch.Models
import Ayo.CourierPickup.Idempotency
import Ayo.Custody.Models
import Ayo.DeliveryVerification.Models
import Ayo.PersistenceKernel.Audit

namespace Ayo.Courier.Store

open Kernel.UnitOfWork Kernel.KeyedTable Core.Values
open Core.Authorization (AuthorizationSubject Grants IdentityType)
open PersistenceKernel.Audit CourierDispatch.Models CourierPickup.Models CourierPickup.Idempotency
  Custody.Models DeliveryVerification.Models

structure Order where
  (orderId merchantId customerIdentityId : Uuid)

instance : Row Order Uuid := .keyed Order.orderId

inductive OutboxEventType where
  | orderCreated
  /-- Messages of the order and preparation components that nothing here waits for. -/
  | elsewhere (name : String)
  | preparationReady
  | courierDispatch (event : DispatchEventType)
  | courierPickup (kind : CourierPickupEvidenceKind)
  | custody (event : CustodyEventType)
  | delivery (state : DeliveryState)
deriving DecidableEq

structure OutboxMessage where
  (messageId orderId : Uuid)
  eventType : OutboxEventType
  occurredAt : Instant

instance : Row OutboxMessage Uuid := .keyed OutboxMessage.messageId

structure DispatchStore where
  requests : Table CourierDispatchRequest := .empty
  offers : Table CourierOffer := .empty
  assignments : Table CourierAssignment := .empty
  events : List CourierDispatchEvent := []
  evidence : List DispatchEvidence := []
  idempotency : Table DispatchReservation := .empty

structure PickupStore where
  pickups : Table CourierPickupRecord := .empty
  events : List CourierPickupEvent := []
  evidence : List CourierPickupEvidence := []
  idempotency : Table PickupReservation := .empty

structure CustodyStore where
  records : Table CustodyRecord := .empty
  challenges : Table PickupChallenge := .empty
  events : List CustodyEvent := []
  idempotency : Table CustodyReservation := .empty

structure DeliveryStore where
  credentials : Table DeliveryCredential := .empty
  deliveries : Table DeliveryRecord := .empty
  events : List DeliveryEvent := []
  idempotency : Table DeliveryReservation := .empty

structure CourierStore where
  orders : Table Order := .empty
  outbox : Table OutboxMessage := .empty
  audit : AuditLog := .empty
  dispatch : DispatchStore := {}
  pickup : PickupStore := {}
  custody : CustodyStore := {}
  delivery : DeliveryStore := {}

abbrev CourierTransaction (α : Type) := Transaction CourierStore Failure α

/-- The ids that a call draws, by what it draws them for, and the clock that its audit event reads.
A command that goes on to a second step draws the second ids for it. -/
structure Draws where
  (row event message evidence audit secondRow secondEvent secondMessage secondEvidence : Uuid)
  now : Instant

inductive MerchantState where
  | draft
  | verificationPending
  | approved
  | suspended
deriving DecidableEq

structure MerchantProfile where
  ownerIdentityId : Uuid
  state : MerchantState

structure PreparationSource where
  (orderId merchantId : Uuid)
  (eventType state : String)

/-- What one call reads outside the database of the courier components. -/
structure CourierReads where
  grants : Grants
  merchants : Uuid → Option MerchantProfile
  preparation : Uuid → Option PreparationSource

structure CourierConfig where
  dispatchPolicy : DispatchPolicy := {}
  pickupPolicy : CourierPickupPolicy := {}
  challengeMinutes : Int := 10
  credentialDays : Int := 7
  /-- The SHA-256 of a request. -/
  hash : Payload → Digest
  /-- The code of a custody, from its id and the key of its seal. -/
  pickupCode : Uuid → String → String
  /-- The keyed hash of a pickup code. -/
  pickupDigest : String → Digest
  /-- The code of an order's delivery. -/
  deliveryCode : Uuid → String
  /-- The keyed hash of a delivery code. -/
  deliveryDigest : String → Digest
  /-- The length of the canonical text of a snapshot. -/
  snapshotBytes : StoredSnapshot → Nat

def appendMessage (message : OutboxMessage) : CourierTransaction Unit := do
  let store ← get
  let outbox ← demand (store.outbox.insert? message) (.integrity "commerce_order_outbox")
  put { store with outbox }

def actorType : IdentityType → ActorType
  | .anonymous => .anonymous
  | .rider => .rider
  | .driver => .driver
  | .staff => .staff
  | .administrator => .administrator
  | .service => .service
  | .merchant => .service
  | .serviceProvider => .service

def successEvent (draws : Draws) (subject : AuthorizationSubject) (resourceType operation : String)
    (resourceId correlationId causationId : Uuid) (stateTo key : String) : AuditEvent where
  eventId := draws.audit
  occurredAt := draws.now
  actorType := actorType subject.identityType
  actorId := some (toString subject.identityId)
  action := resourceType ++ "." ++ operation
  resourceType
  resourceId := some (toString resourceId)
  outcome := .success
  reason := none
  correlationId
  causationId := some causationId
  requestId := none
  sourceModule := resourceType
  safeMetadata := [("operation", .text operation), ("state_to", .text stateTo)]
  idempotencyKey := some key

def appendAudit (event : AuditEvent) : CourierTransaction Unit := do
  require (∀ key ∈ event.idempotencyKey, 8 ≤ key.length ∧ key.length ≤ 128)
    (.field "idempotency_key")
  let _ ← within CourierStore.audit (fun audit store => { store with audit })
    (PersistenceKernel.Audit.append event)
  pure ()

def utc (component : String) (time : DateTime) : CourierTransaction Instant := do
  require (time.aware = true) (.value (component ++ " timestamp must be timezone-aware"))
  pure time.instant

end Ayo.Courier.Store

/-! The writers that all courier components share: the outbox, the audit log, and the check of a
time. -/

namespace Ayo.Courier.Writers

open Kernel.UnitOfWork Kernel.KeyedTable Core.Values PersistenceKernel.Audit Store

/-- An audit event can be appended: nothing else was recorded under its name, and its id is free
where nothing was. -/
structure Auditable (log : AuditLog) (event : AuditEvent) : Prop where
  valid : ValidSafeMetadata event.safeMetadata
  key : ∀ key ∈ event.idempotencyKey, 8 ≤ key.length ∧ key.length ≤ 128
  named : ∀ stored, event.name.bind (recorded? log) = some stored → stored.SameContent event
  free : event.name.bind (recorded? log) = none → log.find event.eventId = none

variable {α : Type} {s t : CourierStore} {a : α} {f : Unit → CourierTransaction α}
  {message : OutboxMessage} {event : AuditEvent}

theorem appendMessage_bind_ok : (appendMessage message >>= f) s = .ok (a, t) ↔
      ∃ outbox : Table OutboxMessage, outbox.rows = s.outbox.rows ++ [message] ∧
        f () { s with outbox } = .ok (a, t) := by
  simp only [appendMessage, bind_assoc, steps_ok, Table.insert?_eq_some]

theorem appendMessage_ok {u : Unit} : appendMessage message s = .ok (u, t) ↔
      ∃ outbox : Table OutboxMessage, outbox.rows = s.outbox.rows ++ [message] ∧
        t = { s with outbox } := by
  simp only [appendMessage, steps_ok, Table.insert?_eq_some, eq_comm (a := t)]

theorem appendAudit_bind_ok (ran : (appendAudit event >>= f) s = .ok (a, t)) :
    ∃ audit : AuditLog, f () { s with audit } = .ok (a, t) := by
  simp only [appendAudit, bind_assoc, pure_bind, require_bind_ok] at ran
  obtain ⟨_, ran⟩ := ran
  obtain ⟨_, _, appended, ran⟩ := bind_ok.1 ran
  obtain ⟨audit, _, rfl⟩ := within_ok.1 appended
  exact ⟨audit, ran⟩

theorem utc_bind_ok {component : String} {time : DateTime} {f : Instant → CourierTransaction α} :
    (utc component time >>= f) s = .ok (a, t) ↔
      time.aware = true ∧ f time.instant s = .ok (a, t) := by
  simp only [utc, bind_assoc, pure_bind, require_bind_ok]

theorem appendAudit_ok : (∃ u t, appendAudit event s = .ok (u, t)) ↔ Auditable s.audit event := by
  constructor
  · rintro ⟨u, t, ran⟩
    simp only [appendAudit, require_bind_ok] at ran
    obtain ⟨key, ran⟩ := ran
    obtain ⟨_, _, appended, _⟩ := bind_ok.1 ran
    obtain ⟨audit, appended, _⟩ := within_ok.1 appended
    have valid := validSafeMetadata_of_append appended
    obtain ⟨found, same, _⟩ | ⟨absent, _, rows⟩ := append_ok appended
    · refine ⟨valid, key, ?_, ?_⟩
      · intro held recorded
        obtain rfl := Option.mem_unique recorded found
        exact same
      · intro absent
        rw [found] at absent
        cases absent
    · refine ⟨valid, key, ?_, fun _ => Table.find_eq_none_of_rows_append rows⟩
      intro held recorded
      rw [absent] at recorded
      cases recorded
  · rintro ⟨valid, key, named, free⟩
    have appends : ∃ held audit, append event s.audit = .ok (held, audit) := by
      unfold append
      simp only [require_bind_ok, and_iff_right valid, steps_ok, whenSome_ok, insertEvent,
        Table.insert?_eq_some]
      cases recorded : event.name.bind (recorded? s.audit) with
      | some held => exact ⟨held, s.audit, .inl ⟨held, rfl, named held recorded, rfl, rfl⟩⟩
      | none =>
        have apart : ∀ other ∈ s.audit.rows, ¬ Row.clash other event := by
          rintro other mem (sameId | ⟨filled, sameName⟩)
          · exact Table.find_eq_none.1 (free recorded) other mem sameId
          · obtain ⟨name, named⟩ := Option.isSome_iff_exists.1 filled
            rw [← sameName, named] at recorded
            have missed := List.find?_eq_none.1 recorded other mem
            simp [named] at missed
        obtain ⟨audit, rows⟩ := Table.exists_inserted apart
        exact ⟨event, audit, .inr ⟨rfl, audit, rows, rfl, rfl⟩⟩
    obtain ⟨held, audit, appended⟩ := appends
    refine ⟨(), { s with audit }, ?_⟩
    simp only [appendAudit, require_bind_ok]
    refine ⟨key, bind_ok.2 ⟨held, _, within_ok.2 ⟨audit, appended, rfl⟩, ?_⟩⟩
    exact pure_ok.2 ⟨rfl, rfl⟩

theorem auditable_of_bind_ok (ran : (appendAudit event >>= f) s = .ok (a, t)) :
    Auditable s.audit event := by
  obtain ⟨u, m, appended, _⟩ := bind_ok.1 ran
  exact appendAudit_ok.1 ⟨u, m, appended⟩

end Ayo.Courier.Writers
