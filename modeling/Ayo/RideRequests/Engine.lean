/- digest: The transitions of a ride request, and its validation for dispatch. -/

import Ayo.PersistenceKernel.Audit
import Mathlib.Data.Rat.Defs
import Ayo.Authentication.Models

namespace Ayo.RideRequests.Models

open Kernel.UnitOfWork Kernel.KeyedTable Core.Values
open PersistenceKernel.Audit (AuditLog)
open Rides.Sources (RideRequestState)

inductive RideServiceType where
  | immediateStandard
deriving DecidableEq

inductive PaymentIntentType where
  | cashCompatible
deriving DecidableEq

inductive LocationSource where
  | riderSelected
  | deviceObservation
  | structuredAddress
  | landmark

inductive PickupSafetyStatus where
  | unverified
  | recommended
  | restricted
deriving DecidableEq

inductive ValidationStatus where
  | valid
  | invalid

structure Coordinate where
  (latitude longitude : ℚ)

structure LocationMetadata where
  coordinate : Coordinate
  source : LocationSource
  observedAt : Instant
  accuracyMetres : Option ℚ
  (structuredAddress landmarkReference note : Option String)
  mapConfidenceBps : Nat

structure PickupDefinition extends LocationMetadata where
  pickupId : Uuid
  (entranceReference exactStopReference airportTerminalReference : Option String)
  (airportZoneReference referencePhotoMetadataReference : Option String)
  safetyStatus : PickupSafetyStatus
  policyVersion : Code

structure DestinationDefinition extends LocationMetadata where
  destinationId : Uuid

instance : Row PickupDefinition Uuid := .keyed PickupDefinition.pickupId

instance : Row DestinationDefinition Uuid := .keyed DestinationDefinition.destinationId

/-- A row of `canonical_ride_requests` of the first model version, which a rider owns. -/
structure RideRequest where
  (requestId clientRequestId riderIdentityId : Uuid)
  state : RideRequestState
  serviceType : RideServiceType
  paymentIntent : PaymentIntentType
  (pickupId destinationId : Uuid)
  serviceZoneId : Option Uuid
  consentPolicyVersion : Code
  version : Nat
  (createdAt updatedAt expiresAt : Instant)
  cancellationReason : Option Code
  expiry : createdAt < expiresAt
deriving DecidableEq

def RideRequest.clientKey (request : RideRequest) : Uuid × Uuid :=
  (request.riderIdentityId, request.clientRequestId)

instance : Row RideRequest Uuid := .keyedUnique RideRequest.requestId RideRequest.clientKey

def RideRequest.written (row request : RideRequest) : RideRequest :=
  { row with state := request.state, version := request.version, updatedAt := request.updatedAt,
             cancellationReason := request.cancellationReason }

/-- A row of `service_zones`. -/
structure ServiceZone where
  zoneId : Uuid
  version : Code
  (minLatitude maxLatitude minLongitude maxLongitude : ℚ)
  prohibitedRectangles : List (ℚ × ℚ × ℚ × ℚ)
  supportedServiceTypes : List RideServiceType
  activeFrom : Instant
  activeUntil : Option Instant

structure ValidationPolicy where
  version : Code
  maximumAccuracyMetres : ℚ
  maximumObservationAgeSeconds : Nat
  minimumSeparationMetres : ℚ
  requestTtlSeconds : Nat
  prohibitMultipleActiveRequests : Bool
  effectiveFrom : Instant
  effectiveUntil : Option Instant
  ttlRange : 30 ≤ requestTtlSeconds ∧ requestTtlSeconds ≤ 86400

/-- A row of `ride_request_validation_decisions`. -/
structure ValidationDecision where
  (decisionId requestId : Uuid)
  policyVersion : Code
  zoneId : Option Uuid
  zoneVersion : Option Code
  status : ValidationStatus
  (reasonCodes invalidFields : List String)
  evidenceFreshnessSeconds : Int
  decidedAt : Instant

instance : Row ValidationDecision Uuid := .keyed ValidationDecision.decisionId

inductive RequestOperation where
  | create
  | cancel
deriving DecidableEq

structure RequestReservation where
  riderIdentityId : Uuid
  operation : RequestOperation
  (idempotencyKey requestHash : String)
  responseReference : Uuid
  createdAt : Instant

def RequestReservation.name (row : RequestReservation) : Uuid × RequestOperation × String :=
  (row.riderIdentityId, row.operation, row.idempotencyKey)

instance : Row RequestReservation (Uuid × RequestOperation × String) :=
  .keyed RequestReservation.name

structure RequestEvent where
  requestId : Uuid
  requestVersion : Nat
  eventType : String
  occurredAt : Instant

def RequestEvent.name (row : RequestEvent) : Uuid × Nat × String :=
  (row.requestId, row.requestVersion, row.eventType)

instance : Row RequestEvent (Uuid × Nat × String) := .keyed RequestEvent.name

structure RequestStore where
  requests : Table RideRequest := .empty
  pickups : Table PickupDefinition := .empty
  destinations : Table DestinationDefinition := .empty
  decisions : Table ValidationDecision := .empty
  reservations : Table RequestReservation := .empty
  events : Table RequestEvent := .empty
  audits : AuditLog := .empty

abbrev RequestTransaction (α : Type) := Transaction RequestStore Failure α

end Ayo.RideRequests.Models

namespace Ayo.RideRequests.Engine

open Kernel.UnitOfWork Core.Values
open Rides.Sources (RideRequestState)
open Models

def transitions : RideRequestState → List RideRequestState
  | .draft => [.requested, .cancelled, .expired]
  | .requested => [.validating, .cancelled, .expired]
  | .validating => [.readyForDispatch, .validationFailed, .cancelled, .expired]
  | .readyForDispatch => [.cancelled, .expired]
  | .validationFailed => [.validating, .cancelled, .expired]
  | .cancelled => []
  | .expired => []

def reasonCode? : Option String → Option (Option Code)
  | none => some none
  | some text => (code? text).map some

def transition (request : RideRequest) (target : RideRequestState) (time : DateTime)
    (cancellationReason : Option String) : RequestTransaction RideRequest := do
  require (target ∈ transitions request.state) (.value "Invalid ride-request transition")
  require (target = .cancelled → cancellationReason.isSome = true)
    (.value "Cancellation requires a reason code")
  let code ← demand (reasonCode? cancellationReason) (.value "Cancellation reason code is invalid")
  require (time.aware = true) (.value "Transition timestamp must be timezone-aware")
  pure { request with state := target, updatedAt := time.instant, version := request.version + 1,
                      cancellationReason := code }

def zoneContains (zone : ServiceZone) (point : Coordinate) (time : Instant) : Prop :=
  zone.activeFrom ≤ time ∧ (∀ ended ∈ zone.activeUntil, time < ended) ∧
    (zone.minLatitude ≤ point.latitude ∧ point.latitude ≤ zone.maxLatitude) ∧
    (zone.minLongitude ≤ point.longitude ∧ point.longitude ≤ zone.maxLongitude)
deriving Decidable

def prohibited (zone : ServiceZone) (point : Coordinate) : Bool :=
  zone.prohibitedRectangles.any fun (a, b, c, d) =>
    a ≤ point.latitude ∧ point.latitude ≤ b ∧ c ≤ point.longitude ∧ point.longitude ≤ d

structure RequestConfig where
  policy : ValidationPolicy
  separationMetres : Coordinate → Coordinate → ℚ
  createHash : Uuid → PickupDefinition → DestinationDefinition → RideServiceType →
    PaymentIntentType → Code → String
  cancelHash : String → String

/-- What the validation reads: the places, the zone, the time, whether the rider is active, and
whether another request of the rider is. -/
structure ValidationInputs where
  pickup : PickupDefinition
  destination : DestinationDefinition
  serviceType : RideServiceType
  zone : Option ServiceZone
  time : Instant
  (riderActive hasConflictingRequest : Bool)

variable (config : RequestConfig) (inputs : ValidationInputs) {found : String × Option String}
  {requestId decisionId : Uuid}

def ValidationInputs.freshness : Int :=
  max 0 ((inputs.time - inputs.pickup.observedAt).tdiv 1000000)

def policyInactive : Prop :=
  inputs.time < config.policy.effectiveFrom ∨
    ∃ ended ∈ config.policy.effectiveUntil, ended ≤ inputs.time
deriving Decidable

def zoneFindings : List (String × Option String) :=
  let unsupported := [("service_zone.unsupported", some "pickup.coordinate")]
  match inputs.zone with
  | none => unsupported
  | some zone =>
    if ¬ zoneContains zone inputs.pickup.coordinate inputs.time ∨
        inputs.serviceType ∉ zone.supportedServiceTypes then
      unsupported
    else if prohibited zone inputs.pickup.coordinate = true ∨
        inputs.pickup.safetyStatus = .restricted then
      [("pickup.prohibited", some "pickup.coordinate")]
    else []

def finding (condition : Prop) [Decidable condition] (reason : String) (field : Option String) :
    List (String × Option String) :=
  if condition then [(reason, field)] else []

def findings : List (String × Option String) :=
  finding (policyInactive config inputs) "policy.inactive" none ++
  finding (inputs.riderActive = false) "rider.inactive" none ++
  zoneFindings inputs ++
  finding (¬ ∃ accuracy ∈ inputs.pickup.accuracyMetres,
      accuracy ≤ config.policy.maximumAccuracyMetres)
    "pickup.accuracy_insufficient" (some "pickup.accuracy_metres") ++
  finding ((config.policy.maximumObservationAgeSeconds : Int) < inputs.freshness)
    "pickup.observation_stale" (some "pickup.observed_at") ++
  finding (config.separationMetres inputs.pickup.coordinate inputs.destination.coordinate <
      config.policy.minimumSeparationMetres)
    "destination.too_close" (some "destination.coordinate")

def allFindings : List (String × Option String) :=
  findings config inputs ++
  finding (config.policy.prohibitMultipleActiveRequests = true ∧
      inputs.hasConflictingRequest = true)
    "request.active_conflict" none

def validateRequest (requestId decisionId : Uuid) : ValidationDecision where
  decisionId
  requestId
  policyVersion := config.policy.version
  zoneId := inputs.zone.map ServiceZone.zoneId
  zoneVersion := inputs.zone.map ServiceZone.version
  status := if allFindings config inputs = [] then .valid else .invalid
  reasonCodes :=
    if allFindings config inputs = [] then ["request.valid"]
    else (allFindings config inputs).map Prod.fst
  invalidFields := ((allFindings config inputs).filterMap Prod.snd).eraseDups
  evidenceFreshnessSeconds := inputs.freshness
  decidedAt := inputs.time

theorem mem_finding {condition : Prop} [Decidable condition] {reason : String}
    {field : Option String} :
    found ∈ finding condition reason field ↔ condition ∧ found = (reason, field) := by
  unfold finding
  split <;> simp [*]

theorem mem_zoneFindings (mem : found ∈ zoneFindings inputs) :
    found.1 = "service_zone.unsupported" ∨ found.1 = "pickup.prohibited" := by
  unfold zoneFindings at mem
  cases zone : inputs.zone with
  | none =>
    rw [zone] at mem
    simp only [List.mem_singleton] at mem
    exact .inl (congrArg Prod.fst mem)
  | some zone' =>
    rw [zone] at mem
    dsimp only at mem
    split at mem
    · simp only [List.mem_singleton] at mem
      exact .inl (congrArg Prod.fst mem)
    · split at mem
      · simp only [List.mem_singleton] at mem
        exact .inr (congrArg Prod.fst mem)
      · cases mem

theorem findings_ne_conflict (mem : found ∈ findings config inputs) :
    found.1 ≠ "request.active_conflict" := by
  simp only [findings, List.mem_append, mem_finding] at mem
  obtain (((((⟨_, rfl⟩ | ⟨_, rfl⟩) | zone) | ⟨_, rfl⟩) | ⟨_, rfl⟩) | ⟨_, rfl⟩) := mem
  · decide
  · decide
  · obtain unsupported | prohibited := mem_zoneFindings inputs zone
    · rw [unsupported]
      decide
    · rw [prohibited]
      decide
  · decide
  · decide
  · decide

theorem conflict_mem_reasonCodes :
    "request.active_conflict" ∈ (validateRequest config inputs requestId decisionId).reasonCodes ↔
      config.policy.prohibitMultipleActiveRequests = true ∧
        inputs.hasConflictingRequest = true := by
  simp only [validateRequest]
  constructor
  · intro refused
    split at refused
    · simp at refused
    · obtain ⟨found, mem, same⟩ := List.mem_map.1 refused
      obtain other | ⟨both, _⟩ := (List.mem_append.1 mem).imp_right mem_finding.1
      · exact absurd same (findings_ne_conflict config inputs other)
      · exact both
  · intro both
    have mem : ("request.active_conflict", none) ∈ allFindings config inputs :=
      List.mem_append.2 (.inr (mem_finding.2 ⟨both, rfl⟩))
    rw [if_neg (List.ne_nil_of_mem mem)]
    exact List.mem_map.2 ⟨_, mem, rfl⟩

theorem status_eq_valid :
    (validateRequest config inputs requestId decisionId).status = .valid ↔
      findings config inputs = [] ∧ ¬ (config.policy.prohibitMultipleActiveRequests = true ∧
        inputs.hasConflictingRequest = true) := by
  have finding_nil : ∀ (condition : Prop) [Decidable condition] (reason : String)
      (field : Option String), finding condition reason field = [] ↔ ¬ condition := by
    intro condition _ reason field
    unfold finding
    split <;> simp [*]
  simp only [validateRequest, allFindings]
  rw [← finding_nil _ "request.active_conflict" none, ← List.append_eq_nil_iff]
  by_cases none_found : findings config inputs ++
      finding (config.policy.prohibitMultipleActiveRequests = true ∧
        inputs.hasConflictingRequest = true) "request.active_conflict" none = []
  · simp only [none_found, ↓reduceIte]
  · simp only [none_found, ↓reduceIte, reduceCtorEq]

end Ayo.RideRequests.Engine
