/- digest: The decisions of the arrival and waiting engine. -/

import Ayo.ArrivalWaiting.Models
import Ayo.Kernel.Ordering

namespace Ayo.ArrivalWaiting.Engine

open Kernel.Ordering Kernel.Validation
open Core.Values hiding isCode Code
open Models

def raised (condition : Prop) [Decidable condition] (reason : String) : List String :=
  if condition then [reason] else []

def ServiceContext.isAirport : ServiceContext → Bool
  | .standard => false
  | .airportStandard => true
  | .airportPremium => true

def arrivalFailures (signals : ArrivalSignals) (policy : ArrivalPolicy) (now : Instant) :
    List String :=
  let age := wholeSeconds signals.observation.observedAt now
  let airport := ServiceContext.isAirport signals.serviceContext = true
  raised (age > policy.maximumLocationAgeSeconds.1) "arrival.location_stale" ++
  raised (signals.observation.accuracyMeters.1 > policy.maximumAccuracyMeters.1)
    "arrival.location_inaccurate" ++
  raised (signals.insidePickupZone = false) "arrival.outside_pickup_zone" ++
  raised (signals.pickupConfidenceBps.1 < policy.minimumPickupConfidenceBps.1)
    "arrival.pickup_confidence_low" ++
  raised (signals.mapConfidenceBps.1 < policy.minimumMapConfidenceBps.1)
    "arrival.map_confidence_low" ++
  raised (signals.observation.speedCmPerSecond.1 > policy.maximumStationarySpeedCmPerSecond.1)
    "arrival.driver_moving" ++
  raised (signals.secondsStationary.1 < policy.minimumStationarySeconds.1)
    "arrival.stationarity_insufficient" ++
  raised (signals.headingReliable = true ∧ signals.approachConsistent = false)
    "arrival.approach_inconsistent" ++
  raised (signals.accessiblePickup = false) "arrival.pickup_inaccessible" ++
  raised (signals.operationallyAvailable = false) "arrival.pickup_unavailable" ++
  raised (signals.unsafeOrRestricted = true) "arrival.pickup_unsafe_or_restricted" ++
  raised (airport ∧ (signals.airportTerminalCode = none ∨ signals.airportZoneMatch = false))
    "arrival.airport_zone_mismatch" ++
  raised (airport ∧ signals.airportContextFresh = false) "arrival.airport_context_stale" ++
  raised (airport ∧ signals.airportStagingConstraintSatisfied = false)
    "arrival.airport_staging_constraint" ++
  raised (airport ∧ (signals.airportAccessPermitted = false ∨ signals.airportZoneClosed = true))
    "arrival.airport_access_unavailable"

def evaluateArrival (evaluationId rideId assignmentId : Uuid) (signals : ArrivalSignals)
    (policy : ArrivalPolicy) (now : Instant) : ArrivalEvaluation :=
  let failures := arrivalFailures signals policy now
  let passed : Int := 14 - failures.length
  let confidence :=
    max 0 (min (min signals.pickupConfidenceBps.1 signals.mapConfidenceBps.1) (passed * 1000))
  let verified := failures = [] ∧ policy.minimumVerificationConfidenceBps.1 ≤ confidence
  { evaluationId, rideId, assignmentId,
    state := if verified then .arrivalVerified else .arrivalUnverified,
    confidenceBps := confidence,
    reasonCodes :=
      if verified then ["arrival.multisignal_verified"]
      else if failures = [] then ["arrival.confidence_below_threshold"]
      else failures,
    explanationCode := if verified then "arrival.verified" else "arrival.not_verified",
    pickupPlaceId := signals.approvedPickupPlaceId, pickupZoneId := signals.pickupZoneId,
    pickupRecommendationId := signals.pickupRecommendationId,
    pickupRecommendationVersion := signals.pickupRecommendationVersion,
    observationSequence := signals.observation.sequence, evaluatedAt := now }

def classifyReadiness (signals : ReadinessSignals) (policy : ReadinessPolicy)
    (walkingEta driverEta : Int) : ReadinessClass × Int × List String :=
  let venue := raised (signals.venueContextPossible = true)
    "readiness.venue_context_possible_not_verified"
  if signals.withinPickupZone = true then
    (.ready, min 10000 signals.pickupConfidenceBps.1, ["readiness.rider_at_pickup"])
  else if signals.movingTowardPickup = some true then
    (.movingToPickup, min 9500 signals.pickupConfidenceBps.1, ["readiness.moving_toward_pickup"])
  else if walkingEta - driverEta ≤ 0 then
    (.likelyOnTime, min 9000 signals.pickupConfidenceBps.1,
      "readiness.walk_eta_within_driver_eta" :: venue)
  else if walkingEta - driverEta ≤ policy.latenessMarginSeconds.1 then
    (.mayBeLate, min 8500 signals.pickupConfidenceBps.1,
      "readiness.walk_eta_near_driver_eta" :: venue)
  else
    (.unlikelyOnTime, min 9000 signals.pickupConfidenceBps.1,
      "readiness.walk_eta_exceeds_driver_eta" :: venue)

def readinessClass (signals : ReadinessSignals) (policy : ReadinessPolicy) :
    ReadinessClass × Int × List String :=
  let insufficient := (ReadinessClass.insufficientData, 0, ["readiness.data_insufficient"])
  match signals.driverEtaSeconds, signals.riderWalkingEtaSeconds, signals.riderLocationAgeSeconds,
    signals.riderLocationAccuracyMeters with
  | some driverEta, some walkingEta, some age, some accuracy =>
    if age.1 > policy.maximumLocationAgeSeconds.1 ∨ accuracy.1 > policy.maximumAccuracyMeters.1 ∨
        signals.pickupConfidenceBps.1 < policy.minimumConfidenceBps.1 then
      insufficient
    else
      classifyReadiness signals policy walkingEta.1 driverEta.1
  | _, _, _, _ => insufficient

def evaluateReadiness (decisionId rideId : Uuid) (signals : ReadinessSignals)
    (policy : ReadinessPolicy) (now : Instant) (priorNotificationAt : Option DateTime)
    (notificationCount : Int) : Except Failure ReadinessDecision := do
  let (classification, confidence, reasons) := readinessClass signals policy
  ensure (∀ prior ∈ priorNotificationAt, prior.aware = true)
    (.value "can't subtract offset-naive and offset-aware datetimes")
  let cooldown := ∃ prior ∈ priorNotificationAt,
    now - prior.instant < timedelta policy.notificationCooldownSeconds.1
  let capped := policy.maximumNotificationsPerRide.1 ≤ notificationCount
  let degraded := signals.connectivityDegraded = true
  let recommend := (classification = .mayBeLate ∨ classification = .unlikelyOnTime) ∧
    policy.notificationConfidenceBps.1 ≤ confidence ∧ ¬ cooldown ∧ ¬ capped ∧ ¬ degraded
  pure
    { decisionId, rideId, classification, confidenceBps := confidence, reasonCodes := reasons,
      explanationCode := "readiness." ++ classification.value, policyId := policy.policyId,
      policyVersion := policy.version, evaluatedAt := now,
      expiresAt := now + timedelta policy.maximumLocationAgeSeconds.1,
      notificationRecommended := decide recommend,
      notificationReasonCode :=
        if recommend then "notification.readiness_recommended"
        else if cooldown then "notification.suppressed_cooldown"
        else if capped then "notification.suppressed_cap"
        else if degraded then "notification.suppressed_connectivity"
        else "notification.not_actionable" }

def selectors (policy : WaitingPolicyDefinition) (context : WaitingPolicyContext) :
    List (String × Option Bool) :=
  [("ride_origin", policy.rideOrigin.map fun origin => origin = context.rideOrigin),
   ("pickup_context", policy.pickupContext.map fun pickup => pickup = context.pickupContext),
   ("service_context", policy.serviceContext.map fun service => service = context.serviceContext),
   ("assisted", policy.assisted.map fun assisted => assisted = context.assisted),
   ("accessibility_accommodation", policy.accessibilityAccommodation.map fun accommodation =>
      accommodation = context.accessibilityAccommodation),
   ("severe_weather", policy.severeWeather.map fun weather => weather = context.severeWeather),
   ("operational_override_code", policy.operationalOverrideCode.map fun code =>
      some code = context.operationalOverrideCode)]

def matchedDimensions (policy : WaitingPolicyDefinition) (context : WaitingPolicyContext)
    (now : Instant) : Option (List String) :=
  if policy.cityCode ≠ context.cityCode ∨ now < policy.effectiveFrom then
    none
  else if ∃ ending ∈ policy.effectiveUntil, ending ≤ now then
    none
  else if ∃ selector ∈ selectors policy context, selector.2 = some false then
    none
  else
    some ("waiting_policy.context.city" ::
      ((selectors policy context).filter fun selector => selector.2.isSome).map fun selector =>
        "waiting_policy.context." ++ selector.1)

def rank (candidate : WaitingPolicyDefinition × List String) : OrderDual (Lex (Nat × Int)) :=
  OrderDual.toDual (toLex (candidate.2.length, candidate.1.priority.1))

/-- The matching policies from the highest rank down, in their own order where they tie. -/
def rankedPolicies (context : WaitingPolicyContext) (policies : List WaitingPolicyDefinition)
    (now : Instant) : List (WaitingPolicyDefinition × List String) :=
  orderedBy rank (policies.filterMap fun policy =>
    (matchedDimensions policy context now).map fun dimensions => (policy, dimensions))

def resolveWaitingPolicy (snapshotId rideId : Uuid) (context : WaitingPolicyContext)
    (policies : List WaitingPolicyDefinition) (now : Instant) :
    Except Failure WaitingPolicySnapshot := do
  let ranked := rankedPolicies context policies now
  let winner ← expect ranked.head? (.conflict "waiting_policy_unavailable")
  ensure (∀ second ∈ ranked.tail.head?, rank second ≠ rank winner)
    (.conflict "waiting_policy_ambiguous")
  let policy := winner.1
  pure
    { snapshotId, rideId, sourcePolicyId := policy.policyId,
      sourcePolicyVersion := policy.version, context, matchedDimensions := winner.2,
      selectedAt := now, freeWaitSeconds := policy.freeWaitSeconds.1,
      endingWarningSeconds := policy.endingWarningSeconds.1,
      departureBehavior := policy.departureBehavior,
      pauseOnInsufficientQuality := policy.pauseOnInsufficientQuality,
      maximumLocationAgeSeconds := policy.maximumLocationAgeSeconds.1,
      minimumLocationConfidenceBps := policy.minimumLocationConfidenceBps.1,
      reasonableNotificationRequired := policy.reasonableNotificationRequired }

def startWaiting (sessionId rideId assignmentId : Uuid) (arrival : ArrivalEvaluation)
    (snapshot : WaitingPolicySnapshot) (now : Instant) : Except Failure WaitingSession := do
  ensure (arrival.state = .arrivalVerified) (.conflict "arrival_not_verified")
  ensure (arrival.rideId = rideId ∧ snapshot.rideId = rideId ∧
      arrival.assignmentId = assignmentId) (.conflict "waiting_context_mismatch")
  pure
    { sessionId, rideId, assignmentId, arrivalEvaluationId := arrival.evaluationId,
      policySnapshotId := snapshot.snapshotId, state := .freeWaitActive,
      verifiedArrivalAt := arrival.evaluatedAt, startedAt := now,
      freeWaitDeadline := now + timedelta snapshot.freeWaitSeconds, updatedAt := now,
      lastObservationSequence := arrival.observationSequence,
      reasonCodes := ["waiting.free_wait_started"] }

variable (snapshot : WaitingPolicySnapshot) (signals : ContinuitySignals)

def continuityReasons : List String :=
  raised (signals.insidePickupZone = false) "suppression.driver_moved_away" ++
  raised (signals.locationAgeSeconds.1 > snapshot.maximumLocationAgeSeconds)
    "suppression.stale_gps" ++
  raised (signals.locationConfidenceBps.1 < snapshot.minimumLocationConfidenceBps)
    "suppression.conflicting_or_low_confidence_gps" ++
  raised (signals.unsafeOrInaccessible = true) "suppression.unsafe_or_inaccessible_pickup" ++
  raised (signals.platformFailure = true) "suppression.platform_failure" ++
  raised (signals.mapOrEtaFailure = true) "suppression.map_or_eta_failure" ++
  raised (signals.airportZoneConfusion = true) "suppression.airport_zone_confusion" ++
  raised (signals.roadClosure = true) "suppression.road_closure" ++
  raised (signals.emergency = true) "suppression.emergency" ++
  raised (signals.weakNetworkUncertainty = true) "suppression.weak_network_uncertainty" ++
  raised (signals.driverMateriallyLate = true) "suppression.driver_materially_late" ++
  raised (signals.pickupGuidanceValid = false) "suppression.incorrect_pickup"

def qualityReasons : List String :=
  ["suppression.stale_gps", "suppression.conflicting_or_low_confidence_gps",
   "suppression.weak_network_uncertainty"]

def pauses : Bool :=
  let reasons := continuityReasons snapshot signals
  (signals.insidePickupZone = false && snapshot.departureBehavior = .pause) ||
    (!reasons.isEmpty && (reasons.all fun reason => qualityReasons.contains reason) &&
      snapshot.pauseOnInsufficientQuality)

variable (session : WaitingSession)

def resumedPauseSeconds (reasons : List String) (now : Instant) : Except Failure Nat :=
  if reasons = [] ∧ session.state = .waitPaused then do
    let pausedAt ← expect session.pausedAt (.conflict "waiting_pause_timestamp_missing")
    pure (wholeSeconds pausedAt now)
  else
    pure 0

def observedState (deadline now : Instant) : WaitingState × List String :=
  let reasons := continuityReasons snapshot signals
  if reasons ≠ [] then
    (if pauses snapshot signals = true then .waitPaused else .waitInvalidated, reasons)
  else if deadline ≤ now then
    (.freeWaitEnding, ["waiting.free_wait_expired_evaluation_required"])
  else if deadline - timedelta snapshot.endingWarningSeconds ≤ now then
    (.freeWaitEnding, ["waiting.free_wait_ending"])
  else
    (.freeWaitActive, ["waiting.continuity_verified"])

def evaluateWaitingContinuity (snapshot : WaitingPolicySnapshot) (signals : ContinuitySignals)
    (observationSequence : Nat) (now : Instant) : Except Failure WaitingSession := do
  ensure (session.lastObservationSequence < observationSequence)
    (.conflict "stale_location_observation")
  let resumed ← resumedPauseSeconds session (continuityReasons snapshot signals) now
  let deadline := session.freeWaitDeadline + timedelta resumed
  let (state, reasons) := observedState snapshot signals deadline now
  pure { session with
    state, version := session.version + 1, updatedAt := now,
    lastObservationSequence := observationSequence, reasonCodes := reasons,
    pausedAt := if state = .waitPaused then some (session.pausedAt.getD now) else none,
    freeWaitDeadline := deadline, totalPausedSeconds := session.totalPausedSeconds + resumed }

def evidenceSuppressions (snapshot : WaitingPolicySnapshot) (signals : ContinuitySignals)
    (now : Instant) : List String :=
  (if session.state = .waitInvalidated then session.reasonCodes else []) ++
  raised (now < session.freeWaitDeadline) "suppression.free_wait_not_expired" ++
  raised (signals.insidePickupZone = false ∨ signals.driverAvailable = false)
    "suppression.driver_moved_away" ++
  raised (signals.locationAgeSeconds.1 > snapshot.maximumLocationAgeSeconds)
    "suppression.stale_gps" ++
  raised (signals.locationConfidenceBps.1 < snapshot.minimumLocationConfidenceBps)
    "suppression.conflicting_or_low_confidence_gps" ++
  raised (snapshot.reasonableNotificationRequired = true ∧ signals.reasonableNotification = false)
    "suppression.notification_failure" ++
  raised (signals.pickupGuidanceValid = false) "suppression.incorrect_pickup" ++
  raised (signals.platformFailure = true) "suppression.platform_failure" ++
  raised (signals.mapOrEtaFailure = true) "suppression.map_or_eta_failure" ++
  raised (signals.externalDisruption = true) "suppression.external_disruption" ++
  raised (signals.unsafeOrInaccessible = true) "suppression.unsafe_or_inaccessible_pickup" ++
  raised (signals.airportZoneConfusion = true) "suppression.airport_zone_confusion" ++
  raised (signals.roadClosure = true) "suppression.road_closure" ++
  raised (signals.emergency = true) "suppression.emergency" ++
  raised (signals.weakNetworkUncertainty = true) "suppression.weak_network_uncertainty" ++
  raised (signals.driverMateriallyLate = true) "suppression.driver_materially_late"

def responsibilityOf (ready : Bool) (signals : ContinuitySignals) : ResponsibilityClass :=
  if ready = true then .rider
  else if signals.externalDisruption = true then .external
  else if signals.platformFailure = true ∨ signals.mapOrEtaFailure = true then .ayo
  else if signals.driverMateriallyLate = true ∨ signals.insidePickupZone = false then .driver
  else .insufficient

def evaluateEvidence (evidenceId : Uuid) (session : WaitingSession)
    (snapshot : WaitingPolicySnapshot) (signals : ContinuitySignals) (now : Instant) :
    EvidenceDecision :=
  let unique := (evidenceSuppressions session snapshot signals now).eraseDups
  let ready := unique.isEmpty
  { evidenceId, rideId := session.rideId, sessionId := session.sessionId, ready,
    responsibility := responsibilityOf ready signals,
    confidenceBps := if ready = true then signals.locationConfidenceBps.1 else 0,
    reasonCodes :=
      if ready = true then ["evidence.no_show_ready"] else ["evidence.consequence_suppressed"],
    suppressionReasonCodes := unique,
    explanationCode :=
      if ready = true then "evidence.ready_for_review" else "evidence.suppressed_for_fairness",
    evaluatedAt := now }

@[simp] theorem raised_eq_nil {condition : Prop} [Decidable condition] {reason : String} :
    raised condition reason = [] ↔ ¬ condition := by
  unfold raised
  split <;> simp [*]

variable {now : Instant} {session next : WaitingSession} {snapshot : WaitingPolicySnapshot}
  {signals : ContinuitySignals} {observationSequence : Nat}

theorem startWaiting_eq_ok {sessionId rideId assignmentId : Uuid} {arrival : ArrivalEvaluation} :
    startWaiting sessionId rideId assignmentId arrival snapshot now = .ok session ↔
      arrival.state = .arrivalVerified ∧ (arrival.rideId = rideId ∧ snapshot.rideId = rideId ∧
          arrival.assignmentId = assignmentId) ∧
        { sessionId, rideId, assignmentId, arrivalEvaluationId := arrival.evaluationId,
          policySnapshotId := snapshot.snapshotId, state := .freeWaitActive,
          verifiedArrivalAt := arrival.evaluatedAt, startedAt := now,
          freeWaitDeadline := now + timedelta snapshot.freeWaitSeconds, updatedAt := now,
          lastObservationSequence := arrival.observationSequence,
          reasonCodes := ["waiting.free_wait_started"] } = session := by
  simp only [startWaiting, ensure_bind_eq_ok, pure_eq_ok]

theorem evaluateWaitingContinuity_eq_ok :
    evaluateWaitingContinuity session snapshot signals observationSequence now = .ok next ↔
      session.lastObservationSequence < observationSequence ∧ ∃ resumed,
          resumedPauseSeconds session (continuityReasons snapshot signals) now = .ok resumed ∧
            let deadline := session.freeWaitDeadline + timedelta resumed
            let observed := observedState snapshot signals deadline now
            { session with
              state := observed.1, version := session.version + 1, updatedAt := now,
              lastObservationSequence := observationSequence, reasonCodes := observed.2,
              pausedAt :=
                if observed.1 = .waitPaused then some (session.pausedAt.getD now) else none,
              freeWaitDeadline := deadline,
              totalPausedSeconds := session.totalPausedSeconds + resumed } = next := by
  unfold evaluateWaitingContinuity
  simp only [↓ensure_bind_eq_ok, bind_eq_ok, pure_eq_ok]

theorem sameSession_of_continuity
    (evaluated : evaluateWaitingContinuity session snapshot signals observationSequence now =
      .ok next) :
    next.sessionId = session.sessionId ∧ next.rideId = session.rideId ∧
      next.policySnapshotId = session.policySnapshotId ∧ next.startedAt = session.startedAt ∧
      next.version = session.version + 1 ∧ next.updatedAt = now := by
  obtain ⟨_, resumed, _, rfl⟩ := evaluateWaitingContinuity_eq_ok.1 evaluated
  exact ⟨rfl, rfl, rfl, rfl, rfl, rfl⟩

theorem resumedPauseSeconds_eq_ok {reasons : List String} {resumed : Nat} :
    resumedPauseSeconds session reasons now = .ok resumed ↔
      (reasons = [] ∧ session.state = .waitPaused ∧
          ∃ pausedAt, session.pausedAt = some pausedAt ∧ wholeSeconds pausedAt now = resumed) ∨
        (¬ (reasons = [] ∧ session.state = .waitPaused) ∧ resumed = 0) := by
  unfold resumedPauseSeconds
  split
  · rename_i resumes
    simp only [expect_bind_eq_ok, pure_eq_ok, resumes, and_self, true_and, not_true_eq_false,
      false_and, or_false]
  · rename_i others
    constructor
    · intro ran
      exact .inr ⟨others, (pure_eq_ok.1 ran).symm⟩
    · rintro (⟨clear, paused, _⟩ | ⟨_, rfl⟩)
      · exact absurd ⟨clear, paused⟩ others
      · rfl

theorem observedState_of_reasons (reasons : continuityReasons snapshot signals ≠ [])
    (deadline now : Instant) :
    observedState snapshot signals deadline now =
      (if pauses snapshot signals = true then .waitPaused else .waitInvalidated,
        continuityReasons snapshot signals) := by
  simp [observedState, reasons]

theorem observedState_of_clear (clear : continuityReasons snapshot signals = [])
    (deadline now : Instant) :
    (observedState snapshot signals deadline now).1 = .freeWaitActive ∨
      (observedState snapshot signals deadline now).1 = .freeWaitEnding := by
  simp only [observedState, clear, ne_eq, not_true_eq_false, if_false]
  split
  · exact .inr rfl
  · split
    · exact .inr rfl
    · exact .inl rfl

theorem evaluateEvidence_ready {evidenceId : Uuid} :
    (evaluateEvidence evidenceId session snapshot signals now).ready = true ↔
      evidenceSuppressions session snapshot signals now = [] := by
  unfold evaluateEvidence
  simp only [List.isEmpty_iff]
  cases evidenceSuppressions session snapshot signals now with
  | nil => simp
  | cons first rest => simp [List.eraseDups_cons]

theorem expired_of_ready (ready : evidenceSuppressions session snapshot signals now = []) :
    (session.state = .waitInvalidated → session.reasonCodes = []) ∧
      session.freeWaitDeadline ≤ now := by
  simp only [evidenceSuppressions, List.append_eq_nil_iff, raised_eq_nil, and_assoc] at ready
  have expired : ¬ now < session.freeWaitDeadline := ready.2.1
  refine ⟨?_, not_lt.1 expired⟩
  intro invalidated
  have unreasoned := ready.1
  rwa [if_pos invalidated] at unreasoned

end Ayo.ArrivalWaiting.Engine
