/- digest: Worker sessions of drivers, and the dispatch that asks who is online. -/

import Ayo.Authentication.SingleUse
import Ayo.Handoff.Service

namespace Ayo.Handoff.WorkerSessions

open Kernel.UnitOfWork Kernel.KeyedTable Kernel.Columns Core.Values Core.Authorization
open Authentication.SingleUse (Tokens)
open Repository Handoff.System

inductive EarningCapability where
  | rideDriver
  | foodCourier
  | parcelCourier
  | homeServiceProvider
deriving DecidableEq

inductive WorkerSessionState where
  | online
  | offline
deriving DecidableEq

structure WorkerCapabilitySession where
  (workerSessionId identityId identitySessionId : Uuid)
  capability : EarningCapability
  (vehicleId serviceZoneId : Option Uuid)
  state : WorkerSessionState
  (startedAt lastSeenAt : Instant)
  stoppedAt : Option Instant
  version : Nat

def WorkerCapabilitySession.activeIdentity (row : WorkerCapabilitySession) : Option Uuid :=
  if row.state = .online then some row.identityId else none

instance : Row WorkerCapabilitySession Uuid :=
  uniqueColumns WorkerCapabilitySession.workerSessionId [WorkerCapabilitySession.activeIdentity]

structure ReachStore where
  logins : Tokens
  workers : Table WorkerCapabilitySession := .empty
  handoff : HandoffStore := {}

abbrev ReachTransaction (α : Type) := Transaction ReachStore Failure α

structure DriverSubject extends AuthorizationSubject where
  sessionId : Option Uuid

variable (store : ReachStore)

def ValidLogin (sessionId identityId : Uuid) (time : Instant) : Prop :=
  ∃ session ∈ store.logins.store.sessions.find sessionId,
    session.identityId = some identityId ∧ session.revokedAt = none ∧ time < session.expiresAt
deriving Decidable

def getActive (identityId : Uuid) : Option WorkerCapabilitySession :=
  store.workers.rows.find? fun row => row.identityId = identityId ∧ row.state = .online

def WorkerCapabilitySession.SameRole (current item : WorkerCapabilitySession) : Prop :=
  current.capability = item.capability ∧ current.vehicleId = item.vehicleId ∧
    current.serviceZoneId = item.serviceZoneId
deriving Decidable

def startSession (item : WorkerCapabilitySession) : ReachTransaction WorkerCapabilitySession := do
  let store ← get
  require (ValidLogin store item.identitySessionId item.identityId item.startedAt)
    (.conflict "authenticated_session_required")
  whenSome (getActive store item.identityId) (fun current => do
      require (current.SameRole item) (.conflict "worker_must_go_offline_before_switching")
      pure current)
    (do
      let workers ← demand (store.workers.insert? item)
        (.conflict "worker_must_go_offline_before_switching")
      put { store with workers }
      pure item)

def WorkerCapabilitySession.stopped (row : WorkerCapabilitySession) (time : Instant) :
    WorkerCapabilitySession :=
  { row with state := .offline, stoppedAt := some time, lastSeenAt := time,
             version := row.version + 1 }

def stopSession (identityId : Uuid) (capability : EarningCapability) (time : Instant) :
    ReachTransaction WorkerCapabilitySession := do
  let store ← get
  let current ← demand
    ((getActive store identityId).filter fun current => current.capability = capability)
    (.conflict "ride_driver_mode_not_online")
  let workers ← demand (store.workers.replace? (current.stopped time))
    (.integrity "worker_capability_sessions")
  put { store with workers }
  pure (current.stopped time)

def RideDriverOnline (identityId vehicleId serviceZoneId : Uuid) (now : Instant) : Prop :=
  ∃ row ∈ store.workers.rows, row.identityId = identityId ∧ row.capability = .rideDriver ∧
    row.vehicleId = some vehicleId ∧ row.serviceZoneId = some serviceZoneId ∧
    row.state = .online ∧ row.startedAt ≤ now ∧
    ValidLogin store row.identitySessionId identityId now
deriving Decidable

def driverSession (subject : DriverSubject) : ReachTransaction Uuid := do
  require (subject.identityType = .driver) (.conflict "driver_authentication_required")
  demand subject.sessionId (.conflict "driver_authentication_required")

structure StartCall where
  sources : DispatchSources
  subject : DriverSubject
  (vehicleId serviceZoneId : Uuid)
  time : DateTime
  workerSessionId : Uuid

def StartCall.item (call : StartCall) (sessionId : Uuid) : WorkerCapabilitySession where
  workerSessionId := call.workerSessionId
  identityId := call.subject.identityId
  identitySessionId := sessionId
  capability := .rideDriver
  vehicleId := some call.vehicleId
  serviceZoneId := some call.serviceZoneId
  state := .online
  startedAt := call.time.instant
  lastSeenAt := call.time.instant
  stoppedAt := none
  version := 1

def startRideDriver (call : StartCall) : ReachTransaction WorkerCapabilitySession := do
  let sessionId ← driverSession call.subject
  require (call.time.aware = true) (.value "Worker-session timestamps must be timezone-aware")
  require (EligibilityCurrent call.sources call.subject.identityId call.vehicleId call.time.instant)
    (.conflict "driver_not_eligible")
  startSession (call.item sessionId)

def stopRideDriver (subject : DriverSubject) (time : Instant) :
    ReachTransaction WorkerCapabilitySession := do
  let _ ← driverSession subject
  let stopped ← stopSession subject.identityId .rideDriver time
  let _ ← within ReachStore.handoff (fun handoff store => { store with handoff })
    (revokeDriverOffer subject.identityId time)
  pure stopped

/-- The other tables as a command on handoffs reads them, with the worker sessions as they are. -/
def DispatchSources.reading (sources : DispatchSources) (store : ReachStore) : DispatchSources :=
  { sources with
    rideDriverOnline := fun identityId vehicleId serviceZoneId now =>
      decide (RideDriverOnline store identityId vehicleId serviceZoneId now) }

def readingOnline : HandoffAction → HandoffAction
  | .offerNext sources handoffId observations time offerId =>
    .offerNext (DispatchSources.reading sources store) handoffId observations time offerId
  | .respond sources response => .respond (DispatchSources.reading sources store) response
  | action => action

inductive ReachCall where
  | login (move : Authentication.SingleUse.Move)
  | start (call : StartCall)
  | stop (subject : DriverSubject) (time : Instant)
  | dispatch (action : HandoffAction)

def canonicalConfig (config : HandoffConfig) : HandoffConfig :=
  { config with requireWorkerSession := true }

def reachStep (config : HandoffConfig) (store : ReachStore) : ReachCall → ReachStore
  | .login move => { store with logins := Authentication.SingleUse.step store.logins move }
  | .start call => commit (startRideDriver call) store
  | .stop subject time => commit (stopRideDriver subject time) store
  | .dispatch action =>
    { store with
      handoff := handoffStep (canonicalConfig config) store.handoff (readingOnline store action) }

def reachInitial : ReachStore := { logins := Authentication.SingleUse.initial }

end Ayo.Handoff.WorkerSessions
