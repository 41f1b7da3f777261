/- digest: Pricing policies, metrics, fare breakdowns and their lineage. -/

import Ayo.Core.Values

namespace Ayo.Pricing.Fares

open Kernel.Validation Core.Values

/-- `^[a-z0-9][a-z0-9_.-]{0,62}$`. -/
def isVersion : String → Bool := isPattern (fun c => c.isLower || c.isDigit) isCodeChar 0 62

abbrev Version := { text : String // isVersion text = true }

/-- `^immediate_standard$`. -/
abbrev ServiceType := { text : String // text = "immediate_standard" }

/-- `^ETB$`. -/
abbrev EtbCurrency := { text : String // text = "ETB" }

def immediateStandard : ServiceType := ⟨"immediate_standard", rfl⟩

def etbCurrency : EtbCurrency := ⟨"ETB", rfl⟩

/-- `Field(ge=0, le=10_000)`. -/
abbrev BasisPoints := { points : Int // 0 ≤ points ∧ points ≤ 10000 }

/-- `Field(ge=1, le=10_000)`. -/
abbrev RoundingIncrement := { increment : Int // 1 ≤ increment ∧ increment ≤ 10000 }

/-- `Field(ge=1, le=2_000_000)`. -/
abbrev Meters := { meters : Int // 1 ≤ meters ∧ meters ≤ 2000000 }

/-- `Field(ge=1, le=172_800)`. -/
abbrev Seconds := { seconds : Int // 1 ≤ seconds ∧ seconds ≤ 172800 }

def basisPoints? (points : Int) : Option BasisPoints := refine? _ points

def roundingIncrement? (increment : Int) : Option RoundingIncrement := refine? _ increment

def meters? (meters : Int) : Option Meters := refine? _ meters

def seconds? (seconds : Int) : Option Seconds := refine? _ seconds

theorem zero_least : (0 : Int) ≤ 0 := Int.le_refl 0

theorem zero_le_most : (0 : Int) ≤ 10000000000 := by decide

def zeroMinor : MinorAmount := ⟨0, zero_least, zero_le_most⟩

inductive PricingPolicyStatus where
  | draft
  | approved
  | published
  | retired
deriving DecidableEq

inductive DataQuality where
  | verified
  | approvedSynthetic
  | degraded
deriving DecidableEq

structure PolicyTerms where
  policyId : Uuid
  policyVersion : Version
  predecessorPolicyId : Option Uuid := none
  serviceZoneId : Uuid
  serviceType : ServiceType
  currency : EtbCurrency
  (baseFareMinor distanceRatePerKmMinor timeRatePerMinuteMinor minimumFareMinor : MinorAmount)
  (commissionBasisPoints taxPlaceholderBasisPoints : BasisPoints)
  roundingIncrementMinor : RoundingIncrement
  effectiveFrom : Instant
  effectiveUntil : Option Instant := none
  status : PricingPolicyStatus := .draft
  madeByIdentityId : Uuid
  approvedByIdentityId : Option Uuid := none
  approvedAt : Option Instant := none
  publishedAt : Option Instant := none
  publishedByIdentityId : Option Uuid := none
  createdAt : Instant

def policyObjection (terms : PolicyTerms) : Option String :=
  refuse (¬ ∀ ending ∈ terms.effectiveUntil, terms.effectiveFrom < ending)
    "Policy effective window is invalid" <|
  refuse (terms.minimumFareMinor.value < terms.baseFareMinor.value)
    "Minimum fare cannot be below base fare" <|
  refuse (terms.approvedByIdentityId = some terms.madeByIdentityId)
    "Maker cannot approve their own policy" <|
  refuse ((terms.status = .approved ∨ terms.status = .published) ∧
      (terms.approvedByIdentityId = none ∨ terms.approvedAt = none))
    "Approved policy requires checker evidence" <|
  refuse (terms.status = .published ∧
      (terms.publishedAt = none ∨ terms.publishedByIdentityId = none))
    "Published policy requires publication time"
    none

structure PricingPolicy extends PolicyTerms where
  valid : policyObjection toPolicyTerms = none

def PricingPolicy.validate? (terms : PolicyTerms) : Except Failure PricingPolicy :=
  if valid : policyObjection terms = none then
    .ok { terms with valid }
  else
    .error (.value ((policyObjection terms).getD ""))

def policyUtc (time : DateTime) : Except Failure Instant := do
  ensure (time.aware = true) (.value "Pricing-policy timestamps must be timezone-aware")
  pure time.instant

structure RouteMetrics where
  distanceMeters : Meters
  durationSeconds : Seconds
  observedAt : Instant
  providerId : BoundedText 2 63
  providerVersion : Version
  (distanceSource durationSource : BoundedText 2 63)
  provenanceReference : BoundedText 8 128
  dataQuality : DataQuality
deriving DecidableEq

def metricsUtc (time : DateTime) : Except Failure Instant := do
  ensure (time.aware = true) (.value "Route metrics must be timezone-aware")
  pure time.instant

structure FareAmounts where
  (baseMinor distanceMinor timeMinor minimumAdjustmentMinor taxPlaceholderMinor : Int)
  (riderTotalMinor driverGrossMinor ayoCommissionMinor driverNetProjectionMinor : Int)

structure FareBreakdown where
  currency : EtbCurrency
  (baseMinor distanceMinor timeMinor minimumAdjustmentMinor taxPlaceholderMinor : MinorAmount)
  (riderTotalMinor driverGrossMinor ayoCommissionMinor driverNetProjectionMinor : MinorAmount)
deriving DecidableEq

def minorField (value : Int) (name : String) : Except Failure MinorAmount :=
  expect (MinorAmount.ofInt? value) (.field name)

def FareBreakdown.validate? (amounts : FareAmounts) : Except Failure FareBreakdown := do
  let baseMinor ← minorField amounts.baseMinor "base_minor"
  let distanceMinor ← minorField amounts.distanceMinor "distance_minor"
  let timeMinor ← minorField amounts.timeMinor "time_minor"
  let minimumAdjustmentMinor ←
    minorField amounts.minimumAdjustmentMinor "minimum_adjustment_minor"
  let taxPlaceholderMinor ← minorField amounts.taxPlaceholderMinor "tax_placeholder_minor"
  let riderTotalMinor ← minorField amounts.riderTotalMinor "rider_total_minor"
  let driverGrossMinor ← minorField amounts.driverGrossMinor "driver_gross_minor"
  let ayoCommissionMinor ← minorField amounts.ayoCommissionMinor "ayo_commission_minor"
  let driverNetProjectionMinor ←
    minorField amounts.driverNetProjectionMinor "driver_net_projection_minor"
  pure
    { currency := etbCurrency, baseMinor, distanceMinor, timeMinor, minimumAdjustmentMinor,
      taxPlaceholderMinor, riderTotalMinor, driverGrossMinor, ayoCommissionMinor,
      driverNetProjectionMinor }

def FareBreakdown.amounts (breakdown : FareBreakdown) : FareAmounts where
  baseMinor := breakdown.baseMinor.value
  distanceMinor := breakdown.distanceMinor.value
  timeMinor := breakdown.timeMinor.value
  minimumAdjustmentMinor := breakdown.minimumAdjustmentMinor.value
  taxPlaceholderMinor := breakdown.taxPlaceholderMinor.value
  riderTotalMinor := breakdown.riderTotalMinor.value
  driverGrossMinor := breakdown.driverGrossMinor.value
  ayoCommissionMinor := breakdown.ayoCommissionMinor.value
  driverNetProjectionMinor := breakdown.driverNetProjectionMinor.value

/-- The evidence needed to reproduce a result; its times are as they were given. -/
structure CalculationLineage where
  formulaVersion : Version
  policyId : Uuid
  policyVersion : Version
  predecessorPolicyId : Option Uuid
  (madeByIdentityId approvedByIdentityId : Uuid)
  approvedAt : DateTime
  publishedByIdentityId : Uuid
  publishedAt : DateTime
  (distanceMeters durationSeconds : Int)
  (distanceSource durationSource routeMetricProviderId : String)
  routeMetricProviderVersion : Version
  routeMetricProvenanceReference : String
  routeMetricObservedAt : DateTime
  (baseFareMinor distanceRatePerKmMinor timeRatePerMinuteMinor minimumFareMinor : MinorAmount)
  (commissionBasisPoints taxPlaceholderBasisPoints rawDistanceNumerator : Int)
  (rawDistanceDenominator rawTimeNumerator rawTimeDenominator : Int)
  (preMinimumMinor minimumAdjustmentMinor preRoundingMinor : MinorAmount)
  roundingIncrementMinor : Int
  roundedFareBeforeTaxMinor : MinorAmount
  (commissionNumerator commissionDenominator taxNumerator taxDenominator : Int)
  canonicalInputHash : Digest
  (auditEventId correlationId causationId : Uuid)
deriving DecidableEq

@[simp] theorem minorField_eq_ok {value : Int} {name : String} {amount : MinorAmount} :
    minorField value name = .ok amount ↔ amount.value = value := by
  simp [minorField]

theorem FareBreakdown.validate?_eq_ok {amounts : FareAmounts} {breakdown : FareBreakdown} :
    FareBreakdown.validate? amounts = .ok breakdown ↔ breakdown.amounts = amounts := by
  constructor
  · intro valid
    simp only [FareBreakdown.validate?, bind_eq_ok, minorField_eq_ok, pure_eq_ok] at valid
    obtain ⟨_, base, _, distance, _, time, _, adjustment, _, tax, _, total, _, gross, _,
      commission, _, net, rfl⟩ := valid
    simp only [FareBreakdown.amounts, base, distance, time, adjustment, tax, total, gross,
      commission, net]
  · rintro rfl
    obtain ⟨⟨_, rfl⟩, _⟩ := breakdown
    simp only [FareBreakdown.validate?, bind_eq_ok, minorField_eq_ok, pure_eq_ok]
    exact ⟨_, rfl, _, rfl, _, rfl, _, rfl, _, rfl, _, rfl, _, rfl, _, rfl, _, rfl, rfl⟩

theorem PricingPolicy.validate?_eq_ok {terms : PolicyTerms} {policy : PricingPolicy} :
    PricingPolicy.validate? terms = .ok policy ↔ policy.toPolicyTerms = terms := by
  unfold PricingPolicy.validate?
  split
  · simp only [Except.ok.injEq]
    constructor
    · rintro rfl
      rfl
    · rintro rfl
      rfl
  · rename_i invalid
    refine ⟨by simp, ?_⟩
    rintro rfl
    exact absurd policy.valid invalid

theorem PricingPolicy.checks (policy : PricingPolicy) :
    (∀ ending ∈ policy.effectiveUntil, policy.effectiveFrom < ending) ∧
      policy.baseFareMinor.value ≤ policy.minimumFareMinor.value ∧
      policy.approvedByIdentityId ≠ some policy.madeByIdentityId ∧
      (policy.status = .approved ∨ policy.status = .published →
        policy.approvedByIdentityId ≠ none ∧ policy.approvedAt ≠ none) ∧
      (policy.status = .published →
        policy.publishedAt ≠ none ∧ policy.publishedByIdentityId ≠ none) := by
  have valid := policy.valid
  simp only [policyObjection, refuse_eq_none, not_not, not_and, not_or, Int.not_lt, and_true] at valid
  exact valid

theorem Version.length_le (version : Version) : version.1.length ≤ 63 := by
  obtain ⟨text, valid⟩ := version
  unfold isVersion isPattern at valid
  split at valid
  · cases valid
  · rename_i first rest split
    have length : text.length = (first :: rest).length := by rw [← split, String.length_toList]
    simp only [Bool.and_eq_true, decide_eq_true_eq] at valid
    rw [length, List.length_cons]
    omega

variable {time : DateTime} {instant : Instant}

theorem policyUtc_eq_ok :
    policyUtc time = .ok instant ↔ time.aware = true ∧ time.instant = instant := by
  simp only [policyUtc, ensure_bind_eq_ok, pure_eq_ok]

theorem metricsUtc_eq_ok :
    metricsUtc time = .ok instant ↔ time.aware = true ∧ time.instant = instant := by
  simp only [metricsUtc, ensure_bind_eq_ok, pure_eq_ok]

/-- A policy with a version, published by one checker and approved by another. -/
def samplePolicy (policyVersion : Version) : PricingPolicy where
  policyId := 701
  policyVersion
  serviceZoneId := 702
  serviceType := immediateStandard
  currency := etbCurrency
  baseFareMinor := ⟨3000, by decide, by decide⟩
  distanceRatePerKmMinor := ⟨1200, by decide, by decide⟩
  timeRatePerMinuteMinor := ⟨150, by decide, by decide⟩
  minimumFareMinor := ⟨5000, by decide, by decide⟩
  commissionBasisPoints := ⟨1500, by decide⟩
  taxPlaceholderBasisPoints := ⟨200, by decide⟩
  roundingIncrementMinor := ⟨100, by decide⟩
  effectiveFrom := 0
  status := .published
  madeByIdentityId := 711
  approvedByIdentityId := some 712
  approvedAt := some 1
  publishedAt := some 2
  publishedByIdentityId := some 713
  createdAt := 0
  valid := rfl

def sampleMetrics : RouteMetrics where
  distanceMeters := ⟨5000, by decide⟩
  durationSeconds := ⟨900, by decide⟩
  observedAt := 10
  providerId := ⟨"routes", by decide⟩
  providerVersion := ⟨"v1", by decide⟩
  distanceSource := ⟨"gps", by decide⟩
  durationSource := ⟨"gps", by decide⟩
  provenanceReference := ⟨"route-evidence", by decide⟩
  dataQuality := .approvedSynthetic

def sampleBreakdown : FareBreakdown where
  currency := etbCurrency
  baseMinor := ⟨3000, by decide, by decide⟩
  distanceMinor := ⟨6000, by decide, by decide⟩
  timeMinor := ⟨2250, by decide, by decide⟩
  minimumAdjustmentMinor := zeroMinor
  taxPlaceholderMinor := ⟨226, by decide, by decide⟩
  riderTotalMinor := ⟨11526, by decide, by decide⟩
  driverGrossMinor := ⟨11300, by decide, by decide⟩
  ayoCommissionMinor := ⟨1695, by decide, by decide⟩
  driverNetProjectionMinor := ⟨9605, by decide, by decide⟩

example : isVersion "static-etb.v1" = true ∧ isVersion "" = false := by decide

end Ayo.Pricing.Fares
