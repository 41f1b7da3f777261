/- digest: The health of a ride, and when the alerts of one level keep to the cool-down. -/

import Ayo.ActiveRides.PickupFirst

namespace Ayo.ActiveRides.AlertCooldown

open Kernel.Run Kernel.Ordering Core.Values
open Core.Authorization (AuthorizationSubject)
open Application Models PickupFirst Repository ActiveRides.System

inductive ConfidenceLevel where
  | healthy
  | watch
  | atRisk
  | critical
  | insufficientData
deriving DecidableEq

inductive DataQualityStatus where
  | good
  | degraded
  | stale

structure ConfidencePolicy where
  ruleSetId : String := "active_ride_confidence"
  version : String := "v1"
  maximumLocationAgeSeconds : { age : Nat // 5 ≤ age ∧ age ≤ 900 } := ⟨90, by decide⟩
  watchEtaIncreaseSeconds : { eta : Nat // 30 ≤ eta ∧ eta ≤ 3600 } := ⟨180, by decide⟩
  atRiskEtaIncreaseSeconds : { eta : Nat // 60 ≤ eta ∧ eta ≤ 7200 } := ⟨420, by decide⟩
  stagnationSeconds : { time : Nat // 30 ≤ time ∧ time ≤ 7200 } := ⟨600, by decide⟩
  hysteresisSeconds : { time : Nat // time ≤ 1800 } := ⟨120, by decide⟩
  alertCooldownSeconds : { time : Nat // 30 ≤ time ∧ time ≤ 86400 } := ⟨600, by decide⟩
  decisionTtlSeconds : { time : Nat // 10 ≤ time ∧ time ≤ 3600 } := ⟨300, by decide⟩

structure ConfidenceSignals where
  driverLocationAgeSeconds : Option Nat := none
  riderLocationAgeSeconds : Option Nat := none
  pickupEtaIncreaseSeconds : Option Nat := none
  lifecycleStagnationSeconds : Nat := 0
  driverMovingAway : Bool := false
  unexpectedStop : Bool := false
  locationsConflict : Bool := false
  repeatedVerificationFailure : Bool := false
  providerUnavailable : Bool := false
  verifiedExternalDelay : Bool := false
  anomalyDurationSeconds : { time : Nat // time ≤ 86400 } := ⟨0, by decide⟩

structure ConfidenceDecision where
  rideId : Uuid
  (ruleSetId ruleSetVersion : String)
  healthLevel : ConfidenceLevel
  reasonCodes : List String
  signalFreshness : String
  dataQualityStatus : DataQualityStatus
  (generatedAt expiresAt : Instant)
  recommendedActions : List String

section

variable (policy : ConfidencePolicy) (signals : ConfidenceSignals)

def Blind : Prop :=
  ∀ age ∈ signals.driverLocationAgeSeconds.toList ++ signals.riderLocationAgeSeconds.toList,
    age > policy.maximumLocationAgeSeconds.1
deriving Decidable

def severe : Bool :=
  signals.locationsConflict || signals.repeatedVerificationFailure ||
    policy.stagnationSeconds.1 ≤ signals.lifecycleStagnationSeconds

def risk : Bool :=
  signals.driverMovingAway || signals.unexpectedStop ||
    policy.atRiskEtaIncreaseSeconds.1 ≤ signals.pickupEtaIncreaseSeconds.getD 0

def watch : Bool :=
  policy.watchEtaIncreaseSeconds.1 ≤ signals.pickupEtaIncreaseSeconds.getD 0 ||
    signals.providerUnavailable

def stabilityMet : Bool :=
  policy.hysteresisSeconds.1 ≤ signals.anomalyDurationSeconds.1

def graded : ConfidenceLevel × List String × String :=
  if severe policy signals && stabilityMet policy signals then
    (.critical, ["alert_operations"], "lifecycle_or_pickup_material_risk")
  else if risk policy signals && stabilityMet policy signals then
    (.atRisk, [if signals.verifiedExternalDelay then "refresh_eta" else "prepare_reassignment"],
      "pickup_progress_at_risk")
  else if severe policy signals || risk policy signals || watch policy signals then
    (.watch, ["refresh_eta"],
      if severe policy signals || risk policy signals then "stability_margin_not_met"
      else "pickup_progress_watch")
  else (.healthy, [], "signals_consistent")

/-- The last decision was of the level, and the cool-down since then is not over. -/
def Cooling (now : Instant) (previous : Option ConfidenceDecision) (level : ConfidenceLevel) :
    Prop :=
  ∃ decision ∈ previous, decision.healthLevel = level ∧
    now - decision.generatedAt < seconds policy.alertCooldownSeconds.1
deriving Decidable

def evaluateConfidence (rideId : Uuid) (now : Instant) (previous : Option ConfidenceDecision) :
    ConfidenceDecision :=
  let (level, actions, reason) := graded policy signals
  let expiresAt := now + seconds policy.decisionTtlSeconds.1
  if Blind policy signals then
    { rideId, ruleSetId := policy.ruleSetId, ruleSetVersion := policy.version,
      healthLevel := .insufficientData, reasonCodes := ["insufficient_fresh_evidence"],
      signalFreshness := "stale_or_missing", dataQualityStatus := .stale, generatedAt := now,
      expiresAt, recommendedActions := ["request_location_observation"] }
  else
    { rideId, ruleSetId := policy.ruleSetId, ruleSetVersion := policy.version, healthLevel := level,
      reasonCodes := (if signals.providerUnavailable then ["map_provider_unavailable"] else []) ++
        (if signals.verifiedExternalDelay then ["verified_external_delay"] else []) ++ [reason] ++
        (if Cooling policy now previous level then ["alert_cooldown_active"] else []),
      signalFreshness := "fresh",
      dataQualityStatus := if signals.providerUnavailable then .degraded else .good,
      generatedAt := now, expiresAt,
      recommendedActions := if Cooling policy now previous level then [] else actions }

def levelOf : ConfidenceLevel :=
  if Blind policy signals then .insufficientData else (graded policy signals).1

theorem evaluateConfidence_fields (rideId : Uuid) (now : Instant)
    (previous : Option ConfidenceDecision) :
    let decision := evaluateConfidence policy signals rideId now previous
    decision.rideId = rideId ∧ decision.generatedAt = now ∧
      decision.healthLevel = levelOf policy signals := by
  unfold evaluateConfidence levelOf
  by_cases blind : Blind policy signals
  · simp [blind]
  · simp [blind]

theorem alerts_iff (rideId : Uuid) (now : Instant) (previous : Option ConfidenceDecision) :
    (evaluateConfidence policy signals rideId now previous).recommendedActions ≠ [] ↔
      levelOf policy signals ≠ .healthy ∧ (levelOf policy signals = .insufficientData ∨
        ¬ Cooling policy now previous (levelOf policy signals)) := by
  unfold evaluateConfidence levelOf
  by_cases blind : Blind policy signals
  · simp [blind]
  have level : (graded policy signals).1 ≠ .insufficientData ∧
      ((graded policy signals).1 ≠ .healthy ↔ (graded policy signals).2.1 ≠ []) := by
    unfold graded
    split_ifs <;> simp
  simp only [blind, if_false]
  by_cases cooling : Cooling policy now previous (graded policy signals).1
  · simp [cooling, level.1]
  · simp [cooling, level.2]

end

/-- What `latest_confidence` reads of the decisions of a ride: one that none is later than. Among
equal times the query leaves the choice to the database. -/
structure LatestReading where
  pick : List ConfidenceDecision → Option ConfidenceDecision
  picks : ∀ rows decision, pick rows = some decision →
    ∀ other ∈ rows, other.generatedAt ≤ decision.generatedAt

/-- A call of `evaluate_confidence`, with the rides as it finds them. -/
structure Evaluation where
  rides : ActiveRideStore
  subject : AuthorizationSubject
  rideId : Uuid
  signals : ConfidenceSignals
  now : Instant

variable (policy : ConfidencePolicy) (reading : LatestReading) (rows : List ConfidenceDecision)

def latestConfidence (rideId : Uuid) : Option ConfidenceDecision :=
  reading.pick (rows.filter fun row => row.rideId = rideId)

/-- `ActiveRideApplication.evaluate_confidence`, on the rows of the decisions. -/
def evaluate (call : Evaluation) : List ConfidenceDecision :=
  match owned call.subject call.rideId false call.rides with
  | .error _ => rows
  | .ok _ => rows ++ [evaluateConfidence policy call.signals call.rideId call.now
      (latestConfidence reading rows call.rideId)]

/-- Two alerts of one level and ride lie apart by the cool-down. -/
def Apart (first second : ConfidenceDecision) : Prop :=
  first.rideId = second.rideId → first.healthLevel = second.healthLevel →
    first.recommendedActions ≠ [] → second.recommendedActions ≠ [] →
    seconds policy.alertCooldownSeconds.1 ≤ second.generatedAt - first.generatedAt
deriving Decidable

/-- Every two alerts of one level and ride lie apart by the cool-down. -/
def CooldownKept : Prop :=
  rows.Pairwise (Apart policy)
deriving Decidable

/-- A call whose level alerted less than a cool-down ago is not blind, and the latest decision on
the ride is still of this level. -/
def StaysAtLevel (call : Evaluation) : Prop :=
  (owned call.subject call.rideId false call.rides).isOk = true →
    ∀ alert ∈ rows, alert.rideId = call.rideId →
      alert.healthLevel = levelOf policy call.signals → alert.recommendedActions ≠ [] →
      levelOf policy call.signals ≠ .healthy →
      call.now - alert.generatedAt < seconds policy.alertCooldownSeconds.1 →
      levelOf policy call.signals ≠ .insufficientData ∧
        ∃ latest ∈ latestConfidence reading rows call.rideId,
          latest.healthLevel = levelOf policy call.signals

variable {policy reading}

theorem evaluate_kept {rows : List ConfidenceDecision} {call : Evaluation} :
    CooldownKept policy (evaluate policy reading rows call) ↔
      CooldownKept policy rows ∧ StaysAtLevel policy reading rows call := by
  unfold evaluate StaysAtLevel
  cases access : owned call.subject call.rideId false call.rides with
  | error => simp [Except.isOk, Except.toBool]
  | ok =>
    have fields := evaluateConfidence_fields policy call.signals call.rideId call.now
      (latestConfidence reading rows call.rideId)
    have alerts := alerts_iff policy call.signals call.rideId call.now
      (latestConfidence reading rows call.rideId)
    simp only at fields
    obtain ⟨ride, time, level⟩ := fields
    simp only [CooldownKept, List.pairwise_append, List.pairwise_singleton, true_and,
      List.mem_singleton, forall_eq, Apart, ride, time, level, Except.isOk, Except.toBool,
      true_implies]
    refine and_congr_right fun _ => forall₂_congr fun alert held => ?_
    refine forall_congr' fun own => forall_congr' fun same => forall_congr' fun alerted => ?_
    rw [alerts]
    constructor
    · intro apart ill recent
      by_contra moves
      refine absurd (apart ⟨ill, ?_⟩) (not_le.2 recent)
      by_cases blind : levelOf policy call.signals = .insufficientData
      · exact .inl blind
      · exact .inr fun ⟨latest, read, stays, _⟩ => moves ⟨blind, latest, read, stays⟩
    · rintro stays ⟨ill, again⟩
      by_contra near
      obtain ⟨sighted, latest, read, steady⟩ := stays ill (not_le.1 near)
      -- The latest decision is not earlier than the alert, so it cools down as well.
      have later := reading.picks _ latest read alert (List.mem_filter.2 ⟨held, by simp [own]⟩)
      rcases again with blind | fresh
      · exact sighted blind
      · have recent := Int.sub_le_sub_left later call.now
        exact fresh ⟨latest, read, steady, lt_of_le_of_lt recent (not_le.1 near)⟩

/-- The alerts of a run keep to the cool-down exactly when every call stays at its level. -/
theorem alerts_apart_iff (policy : ConfidencePolicy) (reading : LatestReading)
    (calls : List Evaluation) :
    CooldownKept policy (run (evaluate policy reading) [] calls) ↔
      Along (evaluate policy reading) (StaysAtLevel policy reading) [] calls := by
  have start : CooldownKept policy [] := .nil
  generalize ([] : List ConfidenceDecision) = rows at start ⊢
  induction calls generalizing rows with
  | nil => exact iff_of_true start trivial
  | cons call rest ih =>
    by_cases stays : StaysAtLevel policy reading rows call
    · have kept := evaluate_kept.2 ⟨start, stays⟩
      exact (ih _ kept).trans (and_iff_right stays).symm
    · have grows : ∀ rows : List ConfidenceDecision,
          rows.Sublist (run (evaluate policy reading) rows rest) := by
        refine fun rows => run_related (fun rows => .refl rows) .trans (fun rows call => ?_) rows rest
        unfold evaluate
        cases owned call.subject call.rideId false call.rides with
        | error => exact .refl rows
        | ok => exact List.sublist_append_left rows _
      refine iff_of_false (fun kept => ?_) (fun along => stays along.1)
      exact stays (evaluate_kept.1 (kept.sublist (grows _))).2

def lastOfLatest : LatestReading where
  pick rows := (orderedBy ConfidenceDecision.generatedAt rows).getLast?
  picks _ _ ends := (le_of_getLast?_orderedBy ends).2

/-- Support asks for the health of ride 10, whose locations are unknown. -/
def blindly (second : Nat) : Evaluation where
  rides := run (rideStep rideConfig) {} [rideStarted 0]
  subject := ⟨9, .staff⟩
  rideId := 10
  signals := {}
  now := seconds second

theorem blind_alerts_repeat :
    ¬ ∀ (policy : ConfidencePolicy) (reading : LatestReading) (calls : List Evaluation),
      (calls.Pairwise fun first second => first.now ≤ second.now) →
      CooldownKept policy (run (evaluate policy reading) [] calls) := by
  intro claimed
  have kept := claimed {} lastOfLatest [blindly 1, blindly 2] (by decide)
  exact absurd kept (by decide +kernel)

end Ayo.ActiveRides.AlertCooldown
