/- digest: A breakdown is reproduced from lineages with the formula's operands only. -/

import Ayo.Pricing.Engine

namespace Ayo.Pricing.Reconstruction

open Kernel.Validation Core.Values Fares Engine

structure DerivedOperands where
  (rawDistanceNumerator rawDistanceDenominator rawTimeNumerator rawTimeDenominator : Int)
  (preMinimumMinor minimumAdjustmentMinor preRoundingMinor roundedFareBeforeTaxMinor : Int)
  (commissionNumerator commissionDenominator taxNumerator taxDenominator : Int)

def derived (lineage : CalculationLineage) : DerivedOperands where
  rawDistanceNumerator := lineage.rawDistanceNumerator
  rawDistanceDenominator := lineage.rawDistanceDenominator
  rawTimeNumerator := lineage.rawTimeNumerator
  rawTimeDenominator := lineage.rawTimeDenominator
  preMinimumMinor := lineage.preMinimumMinor.value
  minimumAdjustmentMinor := lineage.minimumAdjustmentMinor.value
  preRoundingMinor := lineage.preRoundingMinor.value
  roundedFareBeforeTaxMinor := lineage.roundedFareBeforeTaxMinor.value
  commissionNumerator := lineage.commissionNumerator
  commissionDenominator := lineage.commissionDenominator
  taxNumerator := lineage.taxNumerator
  taxDenominator := lineage.taxDenominator

def operands (policy : PricingPolicy) (metrics : RouteMetrics) : DerivedOperands where
  rawDistanceNumerator := metrics.distanceMeters.1 * policy.distanceRatePerKmMinor.value
  rawDistanceDenominator := 1000
  rawTimeNumerator := metrics.durationSeconds.1 * policy.timeRatePerMinuteMinor.value
  rawTimeDenominator := 60
  preMinimumMinor := rawFare policy metrics
  minimumAdjustmentMinor := minimumAdjustment policy metrics
  preRoundingMinor := rawFare policy metrics + minimumAdjustment policy metrics
  roundedFareBeforeTaxMinor := fareBeforeTax policy metrics
  commissionNumerator := fareBeforeTax policy metrics * policy.commissionBasisPoints.1
  commissionDenominator := 10000
  taxNumerator := fareBeforeTax policy metrics * policy.taxPlaceholderBasisPoints.1
  taxDenominator := 10000

variable {hash : Payload → Digest} {policy : PricingPolicy} {metrics : RouteMetrics}
  {breakdown : FareBreakdown} {lineage : CalculationLineage} {ids : LineageIds}

theorem carriedPolicy_eq_ok : carriedPolicy lineage = .ok policy ↔
    lineage.publishedAt.aware = true ∧ lineage.approvedAt.aware = true ∧
      lineage.commissionBasisPoints = policy.commissionBasisPoints.1 ∧
      lineage.taxPlaceholderBasisPoints = policy.taxPlaceholderBasisPoints.1 ∧
      lineage.roundingIncrementMinor = policy.roundingIncrementMinor.1 ∧
      policy.toPolicyTerms = carriedTerms lineage policy.commissionBasisPoints
        policy.taxPlaceholderBasisPoints policy.roundingIncrementMinor lineage.approvedAt.instant
        lineage.publishedAt.instant := by
  simp only [carriedPolicy, bind_eq_ok, expect_eq_ok, policyUtc_eq_ok,
    PricingPolicy.validate?_eq_ok, basisPoints?, roundingIncrement?, refine?_eq_some]
  constructor
  · rintro ⟨commission, commissionPoints, tax, taxPoints, increment, step, _, ⟨published, rfl⟩, _,
      ⟨approved, rfl⟩, terms⟩
    rw [terms]
    exact ⟨published, approved, commissionPoints.symm, taxPoints.symm, step.symm, rfl⟩
  · rintro ⟨published, approved, commission, tax, increment, terms⟩
    exact ⟨_, commission.symm, _, tax.symm, _, increment.symm, _, ⟨published, rfl⟩, _,
      ⟨approved, rfl⟩, terms⟩

theorem carriedMetrics_eq_ok : carriedMetrics lineage = .ok metrics ↔
    lineage.routeMetricObservedAt.aware = true ∧ lineage.distanceMeters = metrics.distanceMeters.1 ∧
      lineage.durationSeconds = metrics.durationSeconds.1 ∧
      lineage.routeMetricObservedAt.instant = metrics.observedAt ∧
      lineage.routeMetricProviderId = metrics.providerId.1 ∧
      lineage.routeMetricProviderVersion = metrics.providerVersion ∧
      lineage.distanceSource = metrics.distanceSource.1 ∧
      lineage.durationSource = metrics.durationSource.1 ∧
      lineage.routeMetricProvenanceReference = metrics.provenanceReference.1 ∧
      metrics.dataQuality = .verified := by
  simp only [carriedMetrics, bind_eq_ok, expect_eq_ok, metricsUtc_eq_ok, pure_eq_ok, meters?,
    seconds?, boundedText?, refine?_eq_some]
  constructor
  · rintro ⟨_, distance, _, duration, _, ⟨observed, rfl⟩, _, provider, _, distanceSource, _,
      durationSource, _, provenance, rfl⟩
    exact ⟨observed, distance.symm, duration.symm, rfl, provider.symm, rfl, distanceSource.symm,
      durationSource.symm, provenance.symm, rfl⟩
  · rintro ⟨observed, distance, duration, instant, provider, version, distanceSource,
      durationSource, provenance, quality⟩
    refine ⟨_, distance.symm, _, duration.symm, _, ⟨observed, rfl⟩, _, provider.symm, _,
      distanceSource.symm, _, durationSource.symm, _, provenance.symm, ?_⟩
    rw [instant, version, ← quality]

theorem carried_rates (carried : carriedPolicy lineage = .ok policy) :
    lineage.baseFareMinor = policy.baseFareMinor ∧
      lineage.distanceRatePerKmMinor = policy.distanceRatePerKmMinor ∧
      lineage.timeRatePerMinuteMinor = policy.timeRatePerMinuteMinor ∧
      lineage.minimumFareMinor = policy.minimumFareMinor := by
  obtain ⟨_, _, _, _, _, terms⟩ := carriedPolicy_eq_ok.1 carried
  exact ⟨(congrArg PolicyTerms.baseFareMinor terms).symm,
    (congrArg PolicyTerms.distanceRatePerKmMinor terms).symm,
    (congrArg PolicyTerms.timeRatePerMinuteMinor terms).symm,
    (congrArg PolicyTerms.minimumFareMinor terms).symm⟩

theorem reconstruct_eq_ok : reconstruct hash lineage = .ok breakdown ↔
    lineage.formulaVersion = formulaVersion ∧ ∃ policy metrics, carriedPolicy lineage = .ok policy ∧
        carriedMetrics lineage = .ok metrics ∧
        inputHash hash policy metrics = lineage.canonicalInputHash ∧
        derived lineage = operands policy metrics ∧
        breakdown.amounts = fareAmounts policy metrics := by
  unfold reconstruct
  simp only [↓ensure_bind_eq_ok, ↓roundRatio_bind_eq_ok, ↓roundIncrement_bind_eq_ok,
    FareBreakdown.validate?_eq_ok, bind_eq_ok]
  refine and_congr_right fun _ => exists_congr fun policy => ?_
  constructor
  · rintro ⟨carried, metrics, carriedToo, sameHash, ⟨distanceTop, distanceBottom, timeTop,
      timeBottom⟩, _, _, _, _, _, _, _, _, _, _, ⟨preMinimum, adjustment, preRounding, rounded,
      commissionTop, commissionBottom, taxTop, taxBottom⟩, amounts⟩
    refine ⟨metrics, carried, carriedToo, sameHash, ?_⟩
    obtain ⟨base, perKm, perMinute, minimum⟩ := carried_rates carried
    obtain ⟨_, _, commission, tax, increment, _⟩ := carriedPolicy_eq_ok.1 carried
    obtain ⟨_, distance, duration, _⟩ := carriedMetrics_eq_ok.1 carriedToo
    simp only [distanceTop, distanceBottom, timeTop, timeBottom, commissionTop, commissionBottom,
      taxTop, taxBottom, base, perKm, perMinute, minimum, commission, tax, increment, distance,
      duration] at preMinimum adjustment preRounding rounded amounts
    refine ⟨?_, amounts⟩
    simp only [derived, distanceTop, distanceBottom, timeTop, timeBottom, commissionTop,
      commissionBottom, taxTop, taxBottom, base, perKm, perMinute, minimum, commission, tax,
      increment, distance, duration, preMinimum, adjustment, preRounding, rounded]
    rfl
  · rintro ⟨metrics, carried, carriedToo, sameHash, same, amounts⟩
    refine ⟨carried, metrics, carriedToo, sameHash, ?_⟩
    obtain ⟨base, perKm, perMinute, minimum⟩ := carried_rates carried
    obtain ⟨_, _, commission, tax, increment, _⟩ := carriedPolicy_eq_ok.1 carried
    obtain ⟨_, distance, duration, _⟩ := carriedMetrics_eq_ok.1 carriedToo
    simp only [derived, operands, DerivedOperands.mk.injEq] at same
    obtain ⟨distanceTop, distanceBottom, timeTop, timeBottom, preMinimum, adjustment, preRounding,
      rounded, commissionTop, commissionBottom, taxTop, taxBottom⟩ := same
    simp only [distanceTop, distanceBottom, timeTop, timeBottom, commissionTop, commissionBottom,
      taxTop, taxBottom, base, perKm, perMinute, minimum, commission, tax, increment, distance,
      duration, preMinimum, adjustment, preRounding, rounded]
    refine ⟨by simp only [and_self], distance_numerator_nonneg, by decide, time_numerator_nonneg,
      by decide, adjusted_nonneg, increment_pos, tax_numerator_nonneg, by decide,
      commission_numerator_nonneg, by decide, ?_, amounts⟩
    exact ⟨rfl, rfl, rfl, rfl, rfl, trivial, rfl, trivial⟩

theorem buildLineage_eq_ok :
    buildLineage hash policy metrics breakdown ids = .ok lineage ↔
      ∃ approval : Approval, ∃ preMinimum preRounding : MinorAmount,
        policy.approvedByIdentityId = some approval.approvedByIdentityId ∧
        policy.approvedAt = some approval.approvedAt ∧
        policy.publishedByIdentityId = some approval.publishedByIdentityId ∧
        policy.publishedAt = some approval.publishedAt ∧
        preMinimum.value = breakdown.baseMinor.value + breakdown.distanceMinor.value +
          breakdown.timeMinor.value ∧
        preRounding.value = breakdown.baseMinor.value + breakdown.distanceMinor.value +
          breakdown.timeMinor.value + breakdown.minimumAdjustmentMinor.value ∧
        lineage =
          lineageFields hash policy metrics breakdown ids approval preMinimum preRounding := by
  simp only [buildLineage, bind_eq_ok, expect_eq_ok, minorField_eq_ok, pure_eq_ok]
  constructor
  · rintro ⟨checker, approvedBy, approvedAt, approved, publisher, publishedBy, publishedAt,
      published, preMinimum, s, preRounding, adjusted, rfl⟩
    exact ⟨⟨checker, approvedAt, publisher, publishedAt⟩, preMinimum, preRounding, approvedBy,
      approved, publishedBy, published, s, adjusted, rfl⟩
  · rintro ⟨approval, preMinimum, preRounding, approvedBy, approved, publishedBy, published,
      s, adjusted, rfl⟩
    exact ⟨_, approvedBy, _, approved, _, publishedBy, _, published, preMinimum, s,
      preRounding, adjusted, rfl⟩

theorem carriedTerms_valid (hash : Payload → Digest) (metrics : RouteMetrics)
    (breakdown : FareBreakdown) (ids : LineageIds) {approval : Approval}
    (preMinimum preRounding : MinorAmount)
    (approved : policy.approvedByIdentityId = some approval.approvedByIdentityId) :
    policyObjection (carriedTerms
      (lineageFields hash policy metrics breakdown ids approval preMinimum preRounding)
      policy.commissionBasisPoints policy.taxPlaceholderBasisPoints policy.roundingIncrementMinor
      approval.approvedAt approval.publishedAt) = none := by
  obtain ⟨_, minimum, apart, _⟩ := policy.checks
  rw [approved] at apart
  simp only [policyObjection, refuse_eq_none, carriedTerms, lineageFields, not_not, not_and,
    not_or, Int.not_lt, and_true]
  refine ⟨?_, minimum, apart, ?_, ?_⟩
  · intro ending mem
    cases mem
  · intro _
    exact ⟨Option.some_ne_none _, Option.some_ne_none _⟩
  · intro _
    exact ⟨Option.some_ne_none _, Option.some_ne_none _⟩

theorem derived_of_built (built : buildLineage hash policy metrics breakdown ids = .ok lineage)
    (amounts : breakdown.amounts = fareAmounts policy metrics) :
    derived lineage = operands policy metrics := by
  obtain ⟨_, preMinimum, preRounding, _, _, _, _, summed, adjusted, rfl⟩ :=
    buildLineage_eq_ok.1 built
  have base := congrArg FareAmounts.baseMinor amounts
  have distance := congrArg FareAmounts.distanceMinor amounts
  have time := congrArg FareAmounts.timeMinor amounts
  have adjustment := congrArg FareAmounts.minimumAdjustmentMinor amounts
  have gross := congrArg FareAmounts.driverGrossMinor amounts
  simp only [FareBreakdown.amounts, fareAmounts] at base distance time adjustment gross
  simp only [derived, lineageFields, operands, rawFare, summed, adjusted, base, distance, time,
    adjustment, gross]

/-- Whatever a calculation returns is returned again by the reconstruction of its lineage. -/
theorem reconstruct_built_lineage (hash : Payload → Digest) (policy : PricingPolicy)
    (metrics : RouteMetrics) (breakdown : FareBreakdown) (lineage : CalculationLineage)
    (ids : LineageIds) (calculated : calculate policy metrics = .ok breakdown)
    (built : buildLineage hash policy metrics breakdown ids = .ok lineage) :
    reconstruct hash lineage = .ok breakdown := by
  have amounts := calculate_eq_ok.1 calculated
  have same := derived_of_built built amounts
  obtain ⟨approval, preMinimum, preRounding, approvedBy, _, _, _, _, _, rfl⟩ :=
    buildLineage_eq_ok.1 built
  have valid := carriedTerms_valid hash metrics breakdown ids preMinimum preRounding approvedBy
  refine reconstruct_eq_ok.2 ⟨rfl, ⟨_, valid⟩, { metrics with dataQuality := .verified }, ?_, ?_,
    rfl, same, amounts⟩
  · exact carriedPolicy_eq_ok.2 ⟨rfl, rfl, rfl, rfl, rfl, rfl⟩
  · exact carriedMetrics_eq_ok.2 ⟨rfl, rfl, rfl, rfl, rfl, rfl, rfl, rfl, rfl, rfl⟩

theorem reconstruct_built_sample :
    ∃ lineage,
      buildLineage List.length (samplePolicy formulaVersion) sampleMetrics sampleBreakdown
        ⟨1, 2, 3⟩ = .ok lineage ∧
      reconstruct List.length lineage = .ok sampleBreakdown :=
  ⟨_, rfl, reconstruct_built_lineage List.length (samplePolicy formulaVersion) sampleMetrics
    sampleBreakdown _ ⟨1, 2, 3⟩ rfl rfl⟩

/-- Whatever a reconstruction returns is what the policy and the metrics of the lineage yield, and
the operands of the lineage are those of a lineage built from them. -/
theorem reconstruct_consistent (hash : Payload → Digest) (lineage : CalculationLineage)
    (breakdown : FareBreakdown) (ids : LineageIds)
    (reconstructed : reconstruct hash lineage = .ok breakdown) :
    ∃ policy metrics rebuilt, carriedPolicy lineage = .ok policy ∧
      carriedMetrics lineage = .ok metrics ∧ calculate policy metrics = .ok breakdown ∧
      buildLineage hash policy metrics breakdown ids = .ok rebuilt ∧
      derived lineage = derived rebuilt := by
  obtain ⟨_, policy, metrics, carried, carriedToo, _, same, amounts⟩ :=
    reconstruct_eq_ok.1 reconstructed
  obtain ⟨_, _, _, _, _, terms⟩ := carriedPolicy_eq_ok.1 carried
  have preMinimum := congrArg DerivedOperands.preMinimumMinor same
  have preRounding := congrArg DerivedOperands.preRoundingMinor same
  have base := congrArg FareAmounts.baseMinor amounts
  have distance := congrArg FareAmounts.distanceMinor amounts
  have time := congrArg FareAmounts.timeMinor amounts
  have adjustment := congrArg FareAmounts.minimumAdjustmentMinor amounts
  simp only [derived, operands, rawFare] at preMinimum preRounding
  simp only [FareBreakdown.amounts, fareAmounts] at base distance time adjustment
  have built : buildLineage hash policy metrics breakdown ids = .ok _ := buildLineage_eq_ok.2
    ⟨⟨lineage.approvedByIdentityId, lineage.approvedAt.instant, lineage.publishedByIdentityId,
        lineage.publishedAt.instant⟩, lineage.preMinimumMinor, lineage.preRoundingMinor,
      congrArg PolicyTerms.approvedByIdentityId terms, congrArg PolicyTerms.approvedAt terms,
      congrArg PolicyTerms.publishedByIdentityId terms, congrArg PolicyTerms.publishedAt terms,
      by rw [preMinimum, base, distance, time],
      by rw [preRounding, base, distance, time, adjustment], rfl⟩
  exact ⟨policy, metrics, _, carried, carriedToo, calculate_eq_ok.2 amounts, built,
    same.trans (derived_of_built built amounts).symm⟩

def sampleLineage : CalculationLineage :=
  { lineageFields List.length (samplePolicy formulaVersion) sampleMetrics sampleBreakdown
      ⟨1, 2, 3⟩ ⟨712, 1, 713, 2⟩ ⟨11250, by decide, by decide⟩ ⟨11250, by decide, by decide⟩ with
    approvedAt := ⟨1, some 180⟩ }

theorem reconstruct_consistent_sample :
    reconstruct List.length sampleLineage = .ok sampleBreakdown ∧
      ∃ policy metrics rebuilt, carriedPolicy sampleLineage = .ok policy ∧
        carriedMetrics sampleLineage = .ok metrics ∧
        calculate policy metrics = .ok sampleBreakdown ∧
        buildLineage List.length policy metrics sampleBreakdown ⟨4, 5, 6⟩ = .ok rebuilt ∧
        derived sampleLineage = derived rebuilt :=
  ⟨rfl, reconstruct_consistent List.length sampleLineage sampleBreakdown ⟨4, 5, 6⟩ rfl⟩

end Ayo.Pricing.Reconstruction
