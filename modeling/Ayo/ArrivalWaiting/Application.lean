/- digest: The arrival and waiting store, the commands of its service, and its worker. -/

import Ayo.ArrivalWaiting.Engine
import Ayo.Core.Authorization

namespace Ayo.ArrivalWaiting.Repository

open Kernel.UnitOfWork Kernel.KeyedTable Kernel.Ordering
open Core.Values hiding isCode Code
open Models

structure SessionEvent where
  (sessionId rideId : Uuid)
  eventType : String
  sessionVersion : Nat
  state : WaitingState
  reasonCodes : List String
  occurredAt : Instant

structure NotificationEvidence where
  rideId : Uuid
  sessionId : Option Uuid
  (intentType deliveryStatus reasonCode : String)
  occurredAt : Instant

inductive Response where
  | arrival (item : ArrivalEvaluation)
  | readiness (item : ReadinessDecision)
  | session (item : WaitingSession)
  | evidence (item : EvidenceDecision)
  | riderPresent (recordedAt : Instant)

structure IdempotentCommand where
  (actorId commandId rideId : Uuid)
  commandType : String
  requestHash : Digest
  responsePayload : Response
  createdAt : Instant

instance : Row ArrivalEvaluation Uuid :=
  .keyedUnique ArrivalEvaluation.evaluationId fun row => (row.rideId, row.observationSequence)

instance : Row ReadinessDecision Uuid := .keyed ReadinessDecision.decisionId

instance : Row WaitingPolicySnapshot Uuid := .keyed WaitingPolicySnapshot.snapshotId

instance : Row WaitingSession Uuid := .keyed WaitingSession.sessionId

instance : Row SessionEvent (Uuid × Nat) := .keyed fun row => (row.sessionId, row.sessionVersion)

instance : Row EvidenceDecision Uuid := .keyed EvidenceDecision.evidenceId

instance : Row IdempotentCommand (Uuid × Uuid) := .keyed fun row => (row.actorId, row.commandId)

structure WaitingStore where
  arrivals : Table ArrivalEvaluation := .empty
  readiness : Table ReadinessDecision := .empty
  snapshots : Table WaitingPolicySnapshot := .empty
  sessions : Table WaitingSession := .empty
  sessionEvents : Table SessionEvent := .empty
  notifications : List NotificationEvidence := []
  evidence : Table EvidenceDecision := .empty
  idempotency : Table IdempotentCommand := .empty

abbrev WaitingTransaction (α : Type) := Transaction WaitingStore Failure α

def latest {ρ : Type} (time : ρ → Instant) (rowOrder : ρ → Nat) (rows : List ρ) : Option ρ :=
  (orderedBy (fun row => toLex (time row, rowOrder row)) rows).getLast?

def saveArrival (item : ArrivalEvaluation) : WaitingTransaction Unit := do
  let store ← get
  let arrivals ← demand (store.arrivals.insert? item) (.integrity "arrival_evaluations")
  put { store with arrivals }

variable (rowOrder : Uuid → Nat)

def latestArrival (rideId : Uuid) : WaitingTransaction (Option ArrivalEvaluation) := do
  let store ← get
  pure (latest ArrivalEvaluation.evaluatedAt (fun row => rowOrder row.evaluationId)
    (store.arrivals.rows.filter fun row => row.rideId = rideId))

def saveReadiness (item : ReadinessDecision) : WaitingTransaction Unit := do
  let store ← get
  let readiness ← demand (store.readiness.insert? item) (.integrity "rider_readiness_decisions")
  put { store with readiness }

def saveSnapshot (item : WaitingPolicySnapshot) : WaitingTransaction Unit := do
  let store ← get
  let snapshots ← demand (store.snapshots.insert? item) (.integrity "waiting_policy_snapshots")
  put { store with snapshots }

def getSnapshot (snapshotId : Uuid) : WaitingTransaction (Option WaitingPolicySnapshot) := do
  let store ← get
  pure (store.snapshots.find snapshotId)

variable (item : WaitingSession)

def eventOf (eventType : String) : SessionEvent :=
  { sessionId := item.sessionId, rideId := item.rideId, eventType, sessionVersion := item.version,
    state := item.state, reasonCodes := item.reasonCodes, occurredAt := item.updatedAt }

def recordSessionEvent (eventType : String) : WaitingTransaction Unit := do
  let store ← get
  let sessionEvents ← demand (store.sessionEvents.insert? (eventOf item eventType))
    (.integrity "waiting_session_events")
  put { store with sessionEvents }

def createSession : WaitingTransaction Unit := do
  let store ← get
  let sessions ← demand (store.sessions.insert? item) (.integrity "waiting_sessions")
  put { store with sessions }
  recordSessionEvent item "free_wait_started"

def sessionOf (store : WaitingStore) (rowOrder : Uuid → Nat) (rideId : Uuid) :
    Option WaitingSession :=
  latest WaitingSession.startedAt (fun row => rowOrder row.sessionId)
    (store.sessions.rows.filter fun row => row.rideId = rideId)

def latestSession (rideId : Uuid) : WaitingTransaction (Option WaitingSession) := do
  let store ← get
  pure (sessionOf store rowOrder rideId)

def claimDueSessions (now : Instant) (limit : Nat) : WaitingTransaction (List WaitingSession) := do
  let store ← get
  let due := store.sessions.rows.filter fun row =>
    row.freeWaitDeadline ≤ now ∧ (row.state = .freeWaitActive ∨ row.state = .freeWaitEnding)
  pure ((orderedBy
    (fun row : WaitingSession => toLex (row.freeWaitDeadline, rowOrder row.sessionId)) due).take
      limit)

def staleSession : Failure := .conflict "stale_waiting_session"

def updateSession (expectedVersion : Nat) : WaitingTransaction Unit := do
  let store ← get
  let current ← demand (store.sessions.find item.sessionId) staleSession
  require (current.version = expectedVersion) staleSession
  let sessions ← demand (store.sessions.replace? item) (.integrity "waiting_sessions")
  put { store with sessions }
  recordSessionEvent item item.state.value

def saveEvidence (item : EvidenceDecision) : WaitingTransaction Unit := do
  let store ← get
  let evidence ← demand (store.evidence.insert? item)
    (.integrity "consequence_suppression_decisions")
  put { store with evidence }

def recordNotification (item : NotificationEvidence) : WaitingTransaction Unit := do
  let store ← get
  put { store with notifications := store.notifications ++ [item] }

def idempotentResponse (actorId commandId rideId : Uuid) (commandType : String)
    (requestHash : Digest) : WaitingTransaction (Option Response) := do
  let store ← get
  whenSome (store.idempotency.find (actorId, commandId)) (fun row => do
      require (row.rideId = rideId ∧ row.commandType = commandType ∧ row.requestHash = requestHash)
        (.conflict "idempotency_conflict")
      pure (some row.responsePayload))
    (pure none)

def saveIdempotentResponse (item : IdempotentCommand) : WaitingTransaction Unit := do
  let store ← get
  let idempotency ← demand (store.idempotency.insert? item)
    (.integrity "arrival_waiting_idempotency")
  put { store with idempotency }

end Ayo.ArrivalWaiting.Repository

/-! The commands of the arrival and waiting service, and its recovery worker. -/

namespace Ayo.ArrivalWaiting.Application

open Kernel.UnitOfWork
open Core.Values hiding isCode Code
open Core.Authorization (AuthorizationSubject)
open Rides.Sources (ActiveRideState)
open Models Engine Repository

structure ArrivalCommand where
  commandId : Uuid
  expectedRideVersion : Nat
  signals : ArrivalSignals

structure ReadinessCommand where
  commandId : Uuid
  signals : ReadinessSignals
  priorNotificationAt : Option DateTime := none
  notificationCount : Ranged 0 20

structure StartWaitingCommand where
  commandId : Uuid
  expectedRideVersion : Nat
  context : WaitingPolicyContext

structure ContinuityCommand where
  commandId : Uuid
  (expectedSessionVersion observationSequence : Nat)
  signals : ContinuitySignals

structure EvidenceCommand where
  commandId : Uuid
  expectedSessionVersion : Nat
  signals : ContinuitySignals

structure RiderPresentCommand where
  commandId : Uuid
  expectedSessionVersion : Nat

inductive WaitingCommand where
  | submitArrival (request : ArrivalCommand)
  | evaluateRiderReadiness (request : ReadinessCommand)
  | start (request : StartWaitingCommand)
  | continuity (request : ContinuityCommand)
  | riderPresent (request : RiderPresentCommand)
  | evaluateNoShow (request : EvidenceCommand)

def WaitingCommand.commandId : WaitingCommand → Uuid
  | .submitArrival request => request.commandId
  | .evaluateRiderReadiness request => request.commandId
  | .start request => request.commandId
  | .continuity request => request.commandId
  | .riderPresent request => request.commandId
  | .evaluateNoShow request => request.commandId

def WaitingCommand.commandType : WaitingCommand → String
  | .submitArrival _ => "submit_arrival"
  | .evaluateRiderReadiness _ => "evaluate_readiness"
  | .start _ => "start_waiting"
  | .continuity _ => "waiting_continuity"
  | .riderPresent _ => "rider_present"
  | .evaluateNoShow _ => "evaluate_no_show"

structure ActiveRide where
  riderId : Uuid
  (driverId assignmentId : Option Uuid)
  version : Nat
  state : ActiveRideState
  pickupPlaceId : String

/-- The policies of the service, which has at least one, and the digest of a request. -/
structure WaitingConfig where
  arrivalPolicy : ArrivalPolicy
  readinessPolicy : ReadinessPolicy
  waitingPolicies : List WaitingPolicyDefinition
  hash : WaitingCommand → Digest
  configured : waitingPolicies ≠ []

/-- A command of a subject on a ride at a server time, with the answers of the ride store, the
order of rows that tie, and the identifiers that it draws. -/
structure WaitingCall where
  activeRides : Uuid → Option ActiveRide
  rowOrder : Uuid → Nat
  subject : AuthorizationSubject
  rideId : Uuid
  now : Instant
  (itemId snapshotId : Uuid)
  command : WaitingCommand

variable (config : WaitingConfig) (call : WaitingCall)

def driverRequired : WaitingTransaction Unit :=
  require (call.subject.identityType = .driver) (.conflict "driver_required")

def allowedOn (ride : ActiveRide) (driverOnly : Bool) : Bool :=
  let asDriver := call.subject.identityType = .driver &&
    ride.driverId = some call.subject.identityId
  let asRider := call.subject.identityType = .rider && ride.riderId = call.subject.identityId
  let asOperator :=
    call.subject.identityType = .staff || call.subject.identityType = .administrator
  if driverOnly then asDriver else asRider || asDriver || asOperator

def owned (driverOnly : Bool) : WaitingTransaction ActiveRide := do
  let ride ← demand (call.activeRides call.rideId) (.conflict "ride_not_found")
  require (allowedOn call ride driverOnly = true) (.conflict "access_denied")
  pure ride

def once (body : WaitingTransaction Response) : WaitingTransaction Response := do
  let duplicate ← idempotentResponse call.subject.identityId call.command.commandId call.rideId
    call.command.commandType (config.hash call.command)
  whenSome duplicate (fun response => pure response)
    (do
      let response ← body
      saveIdempotentResponse
        { actorId := call.subject.identityId, commandId := call.command.commandId,
          rideId := call.rideId, commandType := call.command.commandType,
          requestHash := config.hash call.command, responsePayload := response,
          createdAt := call.now }
      pure response)

def submitArrival (request : ArrivalCommand) : WaitingTransaction Response := do
  driverRequired call
  let ride ← owned call true
  once config call do
    require (ride.version = request.expectedRideVersion) (.conflict "stale_ride_version")
    require (ride.state = .driverEnRoute ∨ ride.state = .driverArrived)
      (.conflict "ride_not_arrival_eligible")
    let assignmentId ← demand ride.assignmentId (.conflict "pickup_or_assignment_mismatch")
    require (request.signals.approvedPickupPlaceId.1 = ride.pickupPlaceId)
      (.conflict "pickup_or_assignment_mismatch")
    let item := evaluateArrival call.itemId call.rideId assignmentId request.signals
      config.arrivalPolicy call.now
    saveArrival item
    pure (.arrival item)

def evaluateRiderReadiness (request : ReadinessCommand) : WaitingTransaction Response := do
  let _ ← owned call false
  once config call do
    let item ← attempt (evaluateReadiness call.itemId call.rideId request.signals
      config.readinessPolicy call.now request.priorNotificationAt request.notificationCount.1)
    saveReadiness item
    pure (.readiness item)

def start (request : StartWaitingCommand) : WaitingTransaction Response := do
  driverRequired call
  let ride ← owned call true
  once config call do
    require (ride.version = request.expectedRideVersion) (.conflict "stale_ride_version")
    let session ← latestSession call.rowOrder call.rideId
    require (session = none) (.conflict "waiting_already_started")
    let arrival ← latestArrival call.rowOrder call.rideId
    let arrival ← demand arrival (.conflict "arrival_not_verified")
    let assignmentId ← demand ride.assignmentId (.conflict "arrival_not_verified")
    let snapshot ← attempt (resolveWaitingPolicy call.snapshotId call.rideId request.context
      config.waitingPolicies call.now)
    let item ← attempt (startWaiting call.itemId call.rideId assignmentId arrival snapshot call.now)
    saveSnapshot snapshot
    createSession item
    pure (.session item)

def snapshotMissing : Failure := .conflict "waiting_policy_snapshot_missing"

def continuity (request : ContinuityCommand) : WaitingTransaction Response := do
  driverRequired call
  let _ ← owned call true
  once config call do
    let session ← latestSession call.rowOrder call.rideId
    let session ← demand session (.conflict "waiting_not_started")
    require (session.version = request.expectedSessionVersion) staleSession
    let snapshot ← getSnapshot session.policySnapshotId
    let snapshot ← demand snapshot snapshotMissing
    let changed ← attempt (evaluateWaitingContinuity session snapshot request.signals
      request.observationSequence call.now)
    updateSession changed session.version
    pure (.session changed)

def riderPresent (request : RiderPresentCommand) : WaitingTransaction Response := do
  require (call.subject.identityType = .rider) (.conflict "rider_required")
  let _ ← owned call false
  once config call do
    let session ← latestSession call.rowOrder call.rideId
    let session ← demand session staleSession
    require (session.version = request.expectedSessionVersion) staleSession
    recordNotification
      { rideId := call.rideId, sessionId := some session.sessionId,
        intentType := "rider_present_confirmation", deliveryStatus := "confirmed",
        reasonCode := "waiting.rider_present_confirmed", occurredAt := call.now }
    pure (.riderPresent call.now)

def evaluateNoShow (request : EvidenceCommand) : WaitingTransaction Response := do
  driverRequired call
  let _ ← owned call true
  once config call do
    let session ← latestSession call.rowOrder call.rideId
    let session ← demand session staleSession
    require (session.version = request.expectedSessionVersion) staleSession
    let snapshot ← getSnapshot session.policySnapshotId
    let snapshot ← demand snapshot snapshotMissing
    let item := evaluateEvidence call.itemId session snapshot request.signals call.now
    saveEvidence item
    pure (.evidence item)

def projected (session : WaitingSession) (now : Instant) : WaitingSession :=
  { session with
    state := .freeWaitEnding, version := session.version + 1, updatedAt := now,
    reasonCodes := ["waiting.free_wait_expired_evaluation_required"] }

def projectEach (now : Instant) : List WaitingSession → WaitingTransaction Nat
  | [] => pure 0
  | session :: rest => do
    let changed ← projectOne now session
    let others ← projectEach now rest
    pure (changed + others)
where
  projectOne (now : Instant) (session : WaitingSession) : WaitingTransaction Nat :=
    if session.state = .freeWaitActive then do
      updateSession (projected session now) session.version
      pure 1
    else
      pure 0

def runOnce (rowOrder : Uuid → Nat) (batchSize : Ranged 1 500) (now : Instant) :
    WaitingTransaction Nat := do
  let sessions ← claimDueSessions rowOrder now batchSize.1.toNat
  projectEach now sessions

def executed : WaitingTransaction Response :=
  match call.command with
  | .submitArrival request => submitArrival config call request
  | .evaluateRiderReadiness request => evaluateRiderReadiness config call request
  | .start request => start config call request
  | .continuity request => continuity config call request
  | .riderPresent request => riderPresent config call request
  | .evaluateNoShow request => evaluateNoShow config call request

/-- What happens to the store: a command, or one run of the worker. -/
inductive WaitingInput where
  | command (call : WaitingCall)
  | recovery (rowOrder : Uuid → Nat) (batchSize : Ranged 1 500) (now : Instant)

def asksContinuity : WaitingInput → Option (WaitingCall × ContinuityCommand)
  | .command call =>
    match call.command with
    | .continuity request => some (call, request)
    | _ => none
  | .recovery _ _ _ => none

def waitingStep (config : WaitingConfig) (store : WaitingStore) : WaitingInput → WaitingStore
  | .command call => commit (executed config call) store
  | .recovery rowOrder batchSize now => commit (runOnce rowOrder batchSize now) store

def pickupPlace : BoundedText 8 128 := ⟨"bole-gate", by decide⟩

def waitingVersion : Code := ⟨"waiting.v1", by decide⟩

def waitingCity : Code := ⟨"addis.ababa", by decide⟩

def minutePolicy : WaitingPolicyDefinition where
  policyId := 831
  version := waitingVersion
  cityCode := waitingCity
  effectiveFrom := 0
  priority := ⟨5, by decide⟩
  freeWaitSeconds := ⟨60, by decide⟩
  endingWarningSeconds := ⟨15, by decide⟩
  departureBehavior := .invalidate
  pauseOnInsufficientQuality := true
  maximumLocationAgeSeconds := ⟨35, by decide⟩
  minimumLocationConfidenceBps := ⟨7200, by decide⟩
  window := none_later 1
  shorter := by decide

def waitingConfig : WaitingConfig where
  arrivalPolicy :=
    { policyId := waitingVersion, version := waitingVersion,
      maximumLocationAgeSeconds := ⟨35, by decide⟩, maximumAccuracyMeters := ⟨45, by decide⟩,
      maximumStationarySpeedCmPerSecond := ⟨55, by decide⟩,
      minimumStationarySeconds := ⟨6, by decide⟩,
      minimumPickupConfidenceBps := ⟨7200, by decide⟩,
      minimumMapConfidenceBps := ⟨7200, by decide⟩,
      minimumVerificationConfidenceBps := ⟨7200, by decide⟩ }
  readinessPolicy :=
    { policyId := waitingVersion, version := waitingVersion,
      maximumLocationAgeSeconds := ⟨35, by decide⟩, maximumAccuracyMeters := ⟨46, by decide⟩,
      minimumConfidenceBps := ⟨7200, by decide⟩, notificationConfidenceBps := ⟨7200, by decide⟩,
      notificationCooldownSeconds := ⟨65, by decide⟩,
      maximumNotificationsPerRide := ⟨3, by decide⟩, latenessMarginSeconds := ⟨75, by decide⟩ }
  waitingPolicies := [minutePolicy]
  hash command := command.commandId
  configured := List.cons_ne_nil minutePolicy []

def arrivalSignals : ArrivalSignals where
  observation :=
    { observedAt := 0, sequence := 1, latitudeE6 := ⟨9, by decide⟩, longitudeE6 := ⟨38, by decide⟩,
      accuracyMeters := ⟨7, by decide⟩, speedCmPerSecond := ⟨8, by decide⟩ }
  approvedPickupPlaceId := pickupPlace
  pickupRecommendationId := 832
  pickupRecommendationVersion := waitingVersion
  pickupZoneId := ⟨"gate-zone", by decide⟩
  insidePickupZone := true
  pickupConfidenceBps := ⟨9100, by decide⟩
  mapConfidenceBps := ⟨9100, by decide⟩
  secondsStationary := ⟨12, by decide⟩
  approachConsistent := true
  headingReliable := true
  accessiblePickup := true
  operationallyAvailable := true

def clearSignals : ContinuitySignals where
  insidePickupZone := true
  locationAgeSeconds := ⟨2, by decide⟩
  locationConfidenceBps := ⟨9100, by decide⟩
  driverAvailable := true
  pickupGuidanceValid := true
  reasonableNotification := true

def weakSignals : ContinuitySignals := { clearSignals with weakNetworkUncertainty := true }

def awaySignals : ContinuitySignals := { clearSignals with insidePickupZone := false }

def marketContext : WaitingPolicyContext where
  cityCode := waitingCity
  rideOrigin := .immediate
  pickupContext := .market
  serviceContext := .standard

def waitedRide : ActiveRide where
  riderId := 821
  driverId := some 822
  assignmentId := some 823
  version := 4
  state := .driverArrived
  pickupPlaceId := "bole-gate"

def driverCall (second : Nat) (command : WaitingCommand) : WaitingCall where
  activeRides id := if id = 820 then some waitedRide else none
  rowOrder := id
  subject := { identityId := 822, identityType := .driver }
  rideId := 820
  now := timedelta second
  itemId := 840 + second
  snapshotId := 840 + second
  command

def startedWait : List WaitingInput :=
  [.command (driverCall 0 (.submitArrival
     { commandId := 851, expectedRideVersion := 4, signals := arrivalSignals })),
   .command (driverCall 10 (.start
     { commandId := 852, expectedRideVersion := 4, context := marketContext }))]

variable (second expectedSessionVersion : Nat)

def observed (signals : ContinuitySignals) : WaitingInput :=
  .command (driverCall second (.continuity
    { commandId := 860 + second, expectedSessionVersion, observationSequence := second, signals }))

def evidenceCommand : EvidenceCommand :=
  { commandId := 960 + second, expectedSessionVersion, signals := clearSignals }

def noShow : WaitingCall :=
  driverCall second (.evaluateNoShow (evidenceCommand second expectedSessionVersion))

end Ayo.ArrivalWaiting.Application
