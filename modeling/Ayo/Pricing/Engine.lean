/- digest: The fare formula, the lineage of a result, and its reconstruction. -/

import Ayo.Kernel.Grouping
import Ayo.Pricing.Fares

namespace Ayo.Pricing.Engine

open Kernel.Rounding Kernel.Validation Core.Values Fares

def formulaVersion : Version := ⟨"static_etb_v1", by decide⟩

/-- `_round_ratio`: the nearest whole number, with halves rounded up. -/
def roundRatio (numerator denominator : Int) : Except Failure Int := do
  ensure (¬ (numerator < 0 ∨ denominator ≤ 0)) (.conflict "invalid_rounding_input")
  pure (halfUp numerator denominator)

def roundIncrement (value increment : Int) : Except Failure Int := do
  let multiple ← roundRatio value increment
  pure (multiple * increment)

/-- The hash of the fields of the policy and the metrics that a fare depends on. -/
def inputHash (hash : Payload → Digest) (policy : PricingPolicy) (metrics : RouteMetrics) :
    Digest :=
  hash
    [("formula_version", .text formulaVersion.1), ("policy_id", .uuid policy.policyId),
     ("policy_version", .text policy.policyVersion.1),
     ("distance_meters", .number metrics.distanceMeters.1),
     ("duration_seconds", .number metrics.durationSeconds.1),
     ("provider_id", .text metrics.providerId.1),
     ("provider_version", .text metrics.providerVersion.1),
     ("distance_source", .text metrics.distanceSource.1),
     ("duration_source", .text metrics.durationSource.1),
     ("provenance_reference", .text metrics.provenanceReference.1),
     ("observed_at", .time (.utc metrics.observedAt)),
     ("base_fare_minor", .number policy.baseFareMinor.value),
     ("distance_rate_per_km_minor", .number policy.distanceRatePerKmMinor.value),
     ("time_rate_per_minute_minor", .number policy.timeRatePerMinuteMinor.value),
     ("minimum_fare_minor", .number policy.minimumFareMinor.value),
     ("commission_basis_points", .number policy.commissionBasisPoints.1),
     ("tax_placeholder_basis_points", .number policy.taxPlaceholderBasisPoints.1),
     ("rounding_increment_minor", .number policy.roundingIncrementMinor.1)]

/-- The fare of a ride, component by component, under a policy. -/
def calculate (policy : PricingPolicy) (metrics : RouteMetrics) : Except Failure FareBreakdown := do
  ensure (policy.currency.1 = "ETB" ∧ policy.serviceType.1 = "immediate_standard")
    (.conflict "unsupported_pricing_boundary")
  let distance ← roundRatio (metrics.distanceMeters.1 * policy.distanceRatePerKmMinor.value) 1000
  let duration ← roundRatio (metrics.durationSeconds.1 * policy.timeRatePerMinuteMinor.value) 60
  let raw := policy.baseFareMinor.value + distance + duration
  let minimumAdjustment := max 0 (policy.minimumFareMinor.value - raw)
  let fareBeforeTax ← roundIncrement (raw + minimumAdjustment) policy.roundingIncrementMinor.1
  let tax ← roundRatio (fareBeforeTax * policy.taxPlaceholderBasisPoints.1) 10000
  let riderTotal := fareBeforeTax + tax
  let commission ← roundRatio (fareBeforeTax * policy.commissionBasisPoints.1) 10000
  ensure (¬ fareBeforeTax < commission) (.conflict "commission_exceeds_gross")
  FareBreakdown.validate?
    { baseMinor := policy.baseFareMinor.value, distanceMinor := distance, timeMinor := duration,
      minimumAdjustmentMinor := minimumAdjustment, taxPlaceholderMinor := tax,
      riderTotalMinor := riderTotal, driverGrossMinor := fareBeforeTax,
      ayoCommissionMinor := commission, driverNetProjectionMinor := fareBeforeTax - commission }

structure LineageIds where
  (auditEventId correlationId causationId : Uuid)

def lineageRequired : Failure := .conflict "complete_policy_approval_lineage_required"

structure Approval where
  approvedByIdentityId : Uuid
  approvedAt : Instant
  publishedByIdentityId : Uuid
  publishedAt : Instant

section

variable (hash : Payload → Digest) (policy : PricingPolicy) (metrics : RouteMetrics)
  (breakdown : FareBreakdown) (ids : LineageIds)

def lineageFields (approval : Approval) (preMinimumMinor preRoundingMinor : MinorAmount) :
    CalculationLineage where
  formulaVersion
  policyId := policy.policyId
  policyVersion := policy.policyVersion
  predecessorPolicyId := policy.predecessorPolicyId
  madeByIdentityId := policy.madeByIdentityId
  approvedByIdentityId := approval.approvedByIdentityId
  approvedAt := .utc approval.approvedAt
  publishedByIdentityId := approval.publishedByIdentityId
  publishedAt := .utc approval.publishedAt
  distanceMeters := metrics.distanceMeters.1
  durationSeconds := metrics.durationSeconds.1
  distanceSource := metrics.distanceSource.1
  durationSource := metrics.durationSource.1
  routeMetricProviderId := metrics.providerId.1
  routeMetricProviderVersion := metrics.providerVersion
  routeMetricProvenanceReference := metrics.provenanceReference.1
  routeMetricObservedAt := .utc metrics.observedAt
  baseFareMinor := policy.baseFareMinor
  distanceRatePerKmMinor := policy.distanceRatePerKmMinor
  timeRatePerMinuteMinor := policy.timeRatePerMinuteMinor
  minimumFareMinor := policy.minimumFareMinor
  commissionBasisPoints := policy.commissionBasisPoints.1
  taxPlaceholderBasisPoints := policy.taxPlaceholderBasisPoints.1
  rawDistanceNumerator := metrics.distanceMeters.1 * policy.distanceRatePerKmMinor.value
  rawDistanceDenominator := 1000
  rawTimeNumerator := metrics.durationSeconds.1 * policy.timeRatePerMinuteMinor.value
  rawTimeDenominator := 60
  preMinimumMinor
  minimumAdjustmentMinor := breakdown.minimumAdjustmentMinor
  preRoundingMinor
  roundingIncrementMinor := policy.roundingIncrementMinor.1
  roundedFareBeforeTaxMinor := breakdown.driverGrossMinor
  commissionNumerator := breakdown.driverGrossMinor.value * policy.commissionBasisPoints.1
  commissionDenominator := 10000
  taxNumerator := breakdown.driverGrossMinor.value * policy.taxPlaceholderBasisPoints.1
  taxDenominator := 10000
  canonicalInputHash := inputHash hash policy metrics
  auditEventId := ids.auditEventId
  correlationId := ids.correlationId
  causationId := ids.causationId

/-- What a calculation carries so that it can be computed again without its policy. -/
def buildLineage : Except Failure CalculationLineage := do
  let approvedByIdentityId ← expect policy.approvedByIdentityId lineageRequired
  let approvedAt ← expect policy.approvedAt lineageRequired
  let publishedByIdentityId ← expect policy.publishedByIdentityId lineageRequired
  let publishedAt ← expect policy.publishedAt lineageRequired
  let preMinimum :=
    breakdown.baseMinor.value + breakdown.distanceMinor.value + breakdown.timeMinor.value
  let preMinimumMinor ← minorField preMinimum "pre_minimum_minor"
  let preRoundingMinor ←
    minorField (preMinimum + breakdown.minimumAdjustmentMinor.value) "pre_rounding_minor"
  pure (lineageFields hash policy metrics breakdown ids
    { approvedByIdentityId, approvedAt, publishedByIdentityId, publishedAt } preMinimumMinor
    preRoundingMinor)

end

variable (lineage : CalculationLineage)

def carriedTerms (commissionBasisPoints taxPlaceholderBasisPoints : BasisPoints)
    (roundingIncrementMinor : RoundingIncrement) (approvedAt publishedAt : Instant) :
    PolicyTerms where
  policyId := lineage.policyId
  policyVersion := lineage.policyVersion
  predecessorPolicyId := lineage.predecessorPolicyId
  serviceZoneId := 0
  serviceType := immediateStandard
  currency := etbCurrency
  baseFareMinor := lineage.baseFareMinor
  distanceRatePerKmMinor := lineage.distanceRatePerKmMinor
  timeRatePerMinuteMinor := lineage.timeRatePerMinuteMinor
  minimumFareMinor := lineage.minimumFareMinor
  commissionBasisPoints
  taxPlaceholderBasisPoints
  roundingIncrementMinor
  effectiveFrom := publishedAt
  status := .published
  madeByIdentityId := lineage.madeByIdentityId
  approvedByIdentityId := some lineage.approvedByIdentityId
  approvedAt := some approvedAt
  publishedByIdentityId := some lineage.publishedByIdentityId
  publishedAt := some publishedAt
  createdAt := approvedAt

/-- The policy that a lineage carries, validated again. -/
def carriedPolicy : Except Failure PricingPolicy := do
  let commissionBasisPoints ← expect (basisPoints? lineage.commissionBasisPoints)
    (.field "commission_basis_points")
  let taxPlaceholderBasisPoints ← expect (basisPoints? lineage.taxPlaceholderBasisPoints)
    (.field "tax_placeholder_basis_points")
  let roundingIncrementMinor ← expect (roundingIncrement? lineage.roundingIncrementMinor)
    (.field "rounding_increment_minor")
  let publishedAt ← policyUtc lineage.publishedAt
  let approvedAt ← policyUtc lineage.approvedAt
  PricingPolicy.validate? (carriedTerms lineage commissionBasisPoints taxPlaceholderBasisPoints
    roundingIncrementMinor approvedAt publishedAt)

def carriedMetrics : Except Failure RouteMetrics := do
  let distanceMeters ← expect (meters? lineage.distanceMeters) (.field "distance_meters")
  let durationSeconds ← expect (seconds? lineage.durationSeconds) (.field "duration_seconds")
  let observedAt ← metricsUtc lineage.routeMetricObservedAt
  let providerId ← expect (boundedText? 2 63 lineage.routeMetricProviderId) (.field "provider_id")
  let distanceSource ← expect (boundedText? 2 63 lineage.distanceSource) (.field "distance_source")
  let durationSource ← expect (boundedText? 2 63 lineage.durationSource) (.field "duration_source")
  let provenanceReference ← expect (boundedText? 8 128 lineage.routeMetricProvenanceReference)
    (.field "provenance_reference")
  pure
    { distanceMeters, durationSeconds, observedAt, providerId,
      providerVersion := lineage.routeMetricProviderVersion, distanceSource, durationSource,
      provenanceReference, dataQuality := .verified }

/-- The fare that the terms carried by a lineage give. -/
def reconstruct (hash : Payload → Digest) (lineage : CalculationLineage) :
    Except Failure FareBreakdown := do
  ensure (lineage.formulaVersion = formulaVersion) (.conflict "unsupported_formula_version")
  let policy ← carriedPolicy lineage
  let metrics ← carriedMetrics lineage
  ensure (inputHash hash policy metrics = lineage.canonicalInputHash)
    (.conflict "calculation_lineage_hash_mismatch")
  ensure (lineage.rawDistanceNumerator =
        lineage.distanceMeters * lineage.distanceRatePerKmMinor.value ∧
      lineage.rawDistanceDenominator = 1000 ∧
      lineage.rawTimeNumerator = lineage.durationSeconds * lineage.timeRatePerMinuteMinor.value ∧
      lineage.rawTimeDenominator = 60)
    (.conflict "calculation_lineage_operand_mismatch")
  let distance ← roundRatio lineage.rawDistanceNumerator lineage.rawDistanceDenominator
  let duration ← roundRatio lineage.rawTimeNumerator lineage.rawTimeDenominator
  let preMinimum := lineage.baseFareMinor.value + distance + duration
  let minimumAdjustment := max 0 (lineage.minimumFareMinor.value - preMinimum)
  let fareBeforeTax ←
    roundIncrement (preMinimum + minimumAdjustment) lineage.roundingIncrementMinor
  let tax ← roundRatio lineage.taxNumerator lineage.taxDenominator
  let commission ← roundRatio lineage.commissionNumerator lineage.commissionDenominator
  ensure (lineage.preMinimumMinor.value = preMinimum ∧
      lineage.minimumAdjustmentMinor.value = minimumAdjustment ∧
      lineage.preRoundingMinor.value = preMinimum + minimumAdjustment ∧
      lineage.roundedFareBeforeTaxMinor.value = fareBeforeTax ∧
      lineage.commissionNumerator = fareBeforeTax * lineage.commissionBasisPoints ∧
      lineage.commissionDenominator = 10000 ∧
      lineage.taxNumerator = fareBeforeTax * lineage.taxPlaceholderBasisPoints ∧
      lineage.taxDenominator = 10000)
    (.conflict "calculation_lineage_derivation_mismatch")
  FareBreakdown.validate?
    { baseMinor := lineage.baseFareMinor.value, distanceMinor := distance, timeMinor := duration,
      minimumAdjustmentMinor := minimumAdjustment, taxPlaceholderMinor := tax,
      riderTotalMinor := fareBeforeTax + tax, driverGrossMinor := fareBeforeTax,
      ayoCommissionMinor := commission, driverNetProjectionMinor := fareBeforeTax - commission }

theorem roundRatio_bind_eq_ok {β : Type} {numerator denominator : Int}
    {f : Int → Except Failure β} {b : β} :
    (roundRatio numerator denominator >>= f) = .ok b ↔
      0 ≤ numerator ∧ 0 < denominator ∧ f (halfUp numerator denominator) = .ok b := by
  simp only [roundRatio, bind_assoc, pure_bind, ensure_bind_eq_ok, not_or, Int.not_lt,
    Int.not_le, and_assoc]

theorem roundIncrement_bind_eq_ok {β : Type} {value increment : Int}
    {f : Int → Except Failure β} {b : β} :
    (roundIncrement value increment >>= f) = .ok b ↔
      0 ≤ value ∧ 0 < increment ∧ f (halfUp value increment * increment) = .ok b := by
  simp only [roundIncrement, bind_assoc, pure_bind, roundRatio_bind_eq_ok]

/-! The formula, without the checks that it always passes. -/

section

variable (policy : PricingPolicy) (metrics : RouteMetrics)

def distanceFare : Int :=
  halfUp (metrics.distanceMeters.1 * policy.distanceRatePerKmMinor.value) 1000

def timeFare : Int :=
  halfUp (metrics.durationSeconds.1 * policy.timeRatePerMinuteMinor.value) 60

/-- Base, distance and time, before the minimum and the rounding. -/
def rawFare : Int :=
  policy.baseFareMinor.value + distanceFare policy metrics + timeFare policy metrics

def minimumAdjustment : Int := max 0 (policy.minimumFareMinor.value - rawFare policy metrics)

/-- The fare at the minimum or above it, rounded to the increment of the policy. -/
def fareBeforeTax : Int :=
  halfUp (rawFare policy metrics + minimumAdjustment policy metrics)
    policy.roundingIncrementMinor.1 * policy.roundingIncrementMinor.1

def taxOn : Int := halfUp (fareBeforeTax policy metrics * policy.taxPlaceholderBasisPoints.1) 10000

def commissionOn : Int := halfUp (fareBeforeTax policy metrics * policy.commissionBasisPoints.1) 10000

def fareAmounts : FareAmounts where
  baseMinor := policy.baseFareMinor.value
  distanceMinor := distanceFare policy metrics
  timeMinor := timeFare policy metrics
  minimumAdjustmentMinor := minimumAdjustment policy metrics
  taxPlaceholderMinor := taxOn policy metrics
  riderTotalMinor := fareBeforeTax policy metrics + taxOn policy metrics
  driverGrossMinor := fareBeforeTax policy metrics
  ayoCommissionMinor := commissionOn policy metrics
  driverNetProjectionMinor := fareBeforeTax policy metrics - commissionOn policy metrics

variable {policy metrics}

theorem distance_numerator_nonneg :
    0 ≤ metrics.distanceMeters.1 * policy.distanceRatePerKmMinor.value :=
  Int.mul_nonneg (by have := metrics.distanceMeters.2; omega) policy.distanceRatePerKmMinor.nonneg

theorem time_numerator_nonneg :
    0 ≤ metrics.durationSeconds.1 * policy.timeRatePerMinuteMinor.value :=
  Int.mul_nonneg (by have := metrics.durationSeconds.2; omega) policy.timeRatePerMinuteMinor.nonneg

theorem increment_pos : 0 < policy.roundingIncrementMinor.1 := by
  have := policy.roundingIncrementMinor.2
  omega

theorem adjusted_nonneg : 0 ≤ rawFare policy metrics + minimumAdjustment policy metrics := by
  have base := policy.baseFareMinor.nonneg
  have distance : 0 ≤ distanceFare policy metrics :=
    halfUp_nonneg distance_numerator_nonneg (by decide)
  have time : 0 ≤ timeFare policy metrics := halfUp_nonneg time_numerator_nonneg (by decide)
  unfold rawFare minimumAdjustment
  omega

theorem fareBeforeTax_nonneg : 0 ≤ fareBeforeTax policy metrics :=
  Int.mul_nonneg (halfUp_nonneg adjusted_nonneg increment_pos) (Int.le_of_lt increment_pos)

theorem tax_numerator_nonneg :
    0 ≤ fareBeforeTax policy metrics * policy.taxPlaceholderBasisPoints.1 :=
  Int.mul_nonneg fareBeforeTax_nonneg policy.taxPlaceholderBasisPoints.2.1

theorem commission_numerator_nonneg :
    0 ≤ fareBeforeTax policy metrics * policy.commissionBasisPoints.1 :=
  Int.mul_nonneg fareBeforeTax_nonneg policy.commissionBasisPoints.2.1

theorem commissionOn_le : commissionOn policy metrics ≤ fareBeforeTax policy metrics := by
  refine halfUp_le (by decide) ?_
  exact Int.mul_le_mul_of_nonneg_left policy.commissionBasisPoints.2.2 fareBeforeTax_nonneg

theorem calculate_eq_ok {breakdown : FareBreakdown} : calculate policy metrics = .ok breakdown ↔
      breakdown.amounts = fareAmounts policy metrics := by
  simp only [calculate, ↓ensure_bind_eq_ok, ↓roundRatio_bind_eq_ok, ↓roundIncrement_bind_eq_ok,
    FareBreakdown.validate?_eq_ok]
  constructor
  · rintro ⟨_, _, _, _, _, _, _, _, _, _, _, _, amounts⟩
    exact amounts
  · intro amounts
    have guard : ¬ fareBeforeTax policy metrics < commissionOn policy metrics :=
      Int.not_lt.2 commissionOn_le
    exact ⟨⟨policy.currency.2, policy.serviceType.2⟩, distance_numerator_nonneg, by decide,
      time_numerator_nonneg, by decide, adjusted_nonneg, increment_pos, tax_numerator_nonneg,
      by decide, commission_numerator_nonneg, by decide, guard, amounts⟩

end

end Ayo.Pricing.Engine
