/- digest: The fare beside its minimum, and in the order of distance and time. -/

import Ayo.Pricing.Engine

namespace Ayo.Pricing.FareBounds

open Kernel.Rounding Fares Engine

section

variable (policy : PricingPolicy) (metrics : RouteMetrics)

def minimumExcess : Int := policy.minimumFareMinor.value % policy.roundingIncrementMinor.1

def meteredFare : Int :=
  policy.baseFareMinor.value +
    halfUp (metrics.distanceMeters.1 * policy.distanceRatePerKmMinor.value) 1000 +
    halfUp (metrics.durationSeconds.1 * policy.timeRatePerMinuteMinor.value) 60

/-- The minimum is a multiple of the increment or is rounded up to one, or the metered fare is
rounded up past it. -/
def MinimumKept : Prop :=
  minimumExcess policy = 0 ∨ policy.roundingIncrementMinor.1 ≤ 2 * minimumExcess policy ∨
    policy.roundingIncrementMinor.1 ≤ 2 * (meteredFare policy metrics -
        (policy.minimumFareMinor.value - minimumExcess policy))

def roundedMinimum : Int :=
  halfUp policy.minimumFareMinor.value policy.roundingIncrementMinor.1 *
    policy.roundingIncrementMinor.1

variable {policy metrics}

theorem adjusted_eq_max : rawFare policy metrics + minimumAdjustment policy metrics =
      max (meteredFare policy metrics) policy.minimumFareMinor.value := by
  have metered : rawFare policy metrics = meteredFare policy metrics := rfl
  unfold minimumAdjustment
  rw [metered]
  omega

theorem minimum_le_adjusted :
    policy.minimumFareMinor.value ≤ rawFare policy metrics + minimumAdjustment policy metrics := by
  rw [adjusted_eq_max]
  exact le_max_right _ _

theorem roundedMinimum_le_fare : roundedMinimum policy ≤ fareBeforeTax policy metrics := by
  have positive : 0 < policy.roundingIncrementMinor.1 := increment_pos
  have above : policy.minimumFareMinor.value ≤
      rawFare policy metrics + minimumAdjustment policy metrics := minimum_le_adjusted
  have ordered := halfUp_mono positive above
  exact Int.mul_le_mul_of_nonneg_right ordered (Int.le_of_lt increment_pos)

theorem shortfall_lt : 2 * (policy.minimumFareMinor.value - fareBeforeTax policy metrics) <
      policy.roundingIncrementMinor.1 := by
  have above : policy.minimumFareMinor.value ≤
      rawFare policy metrics + minimumAdjustment policy metrics := minimum_le_adjusted
  have rounded : 2 * (rawFare policy metrics + minimumAdjustment policy metrics -
      halfUp (rawFare policy metrics + minimumAdjustment policy metrics)
        policy.roundingIncrementMinor.1 * policy.roundingIncrementMinor.1) <
      policy.roundingIncrementMinor.1 := lt_halfUp_mul increment_pos
  unfold fareBeforeTax
  omega

theorem next_multiple_iff {metered minimum increment quotient excess : Int}
    (positive : 0 < increment) (split : minimum = quotient * increment + excess) :
    quotient + 1 ≤ halfUp (max metered minimum) increment ↔
      increment ≤ 2 * excess ∨ increment ≤ 2 * (metered - (minimum - excess)) := by
  have expand : (quotient + 1) * increment = quotient * increment + increment := by
    rw [Int.add_mul, Int.one_mul]
  rw [le_halfUp positive, expand]
  omega

theorem minimum_le_fare_iff :
    policy.minimumFareMinor.value ≤ fareBeforeTax policy metrics ↔ MinimumKept policy metrics := by
  have positive : 0 < policy.roundingIncrementMinor.1 := increment_pos
  have excess_nonneg : 0 ≤ minimumExcess policy := Int.emod_nonneg _ (by omega)
  have excess_lt : minimumExcess policy < policy.roundingIncrementMinor.1 :=
    Int.emod_lt_of_pos _ positive
  obtain ⟨quotient, split⟩ : ∃ quotient, policy.minimumFareMinor.value =
      quotient * policy.roundingIncrementMinor.1 + minimumExcess policy :=
    ⟨_, (Int.ediv_mul_add_emod _ _).symm⟩
  unfold MinimumKept fareBeforeTax
  rw [adjusted_eq_max, ← next_multiple_iff positive split]
  by_cases exact : minimumExcess policy = 0
  · refine iff_of_true ?_ (.inl exact)
    have reached : quotient ≤ halfUp (max (meteredFare policy metrics)
        policy.minimumFareMinor.value) policy.roundingIncrementMinor.1 := by
      rw [le_halfUp positive]
      omega
    have le := Int.mul_le_mul_of_nonneg_right reached (Int.le_of_lt positive)
    omega
  · rw [or_iff_right exact]
    constructor
    · intro le
      have lt : quotient * policy.roundingIncrementMinor.1 < halfUp (max
          (meteredFare policy metrics) policy.minimumFareMinor.value)
            policy.roundingIncrementMinor.1 * policy.roundingIncrementMinor.1 := by omega
      exact Int.lt_of_mul_lt_mul_right lt (Int.le_of_lt positive)
    · intro reached
      have le := Int.mul_le_mul_of_nonneg_right reached (Int.le_of_lt positive)
      rw [Int.add_mul, Int.one_mul] at le
      omega

end

section

variable {policy : PricingPolicy} {first second : RouteMetrics} {points : BasisPoints}
  {lesser greater : Int}

/-- One ride is no longer than another, in distance and in time. -/
structure Within (first second : RouteMetrics) : Prop where
  distance : first.distanceMeters.1 ≤ second.distanceMeters.1
  duration : first.durationSeconds.1 ≤ second.durationSeconds.1

theorem meteredFare_mono (within : Within first second) :
    meteredFare policy first ≤ meteredFare policy second := by
  have distance : halfUp (first.distanceMeters.1 * policy.distanceRatePerKmMinor.value) 1000 ≤
      halfUp (second.distanceMeters.1 * policy.distanceRatePerKmMinor.value) 1000 := by
    apply halfUp_mono (by decide)
    exact Int.mul_le_mul_of_nonneg_right within.distance policy.distanceRatePerKmMinor.nonneg
  have time : halfUp (first.durationSeconds.1 * policy.timeRatePerMinuteMinor.value) 60 ≤
      halfUp (second.durationSeconds.1 * policy.timeRatePerMinuteMinor.value) 60 := by
    apply halfUp_mono (by decide)
    exact Int.mul_le_mul_of_nonneg_right within.duration policy.timeRatePerMinuteMinor.nonneg
  unfold meteredFare
  omega

theorem fareBeforeTax_mono (within : Within first second) :
    fareBeforeTax policy first ≤ fareBeforeTax policy second := by
  have metered : meteredFare policy first ≤ meteredFare policy second := meteredFare_mono within
  unfold fareBeforeTax
  rw [adjusted_eq_max, adjusted_eq_max]
  apply Int.mul_le_mul_of_nonneg_right _ (Int.le_of_lt increment_pos)
  apply halfUp_mono increment_pos
  omega

theorem share_mono (le : lesser ≤ greater) :
    halfUp (lesser * points.1) 10000 ≤ halfUp (greater * points.1) 10000 := by
  apply halfUp_mono (by decide)
  exact Int.mul_le_mul_of_nonneg_right le points.2.1

theorem rest_mono (le : lesser ≤ greater) :
    lesser - halfUp (lesser * points.1) 10000 ≤ greater - halfUp (greater * points.1) 10000 := by
  have growth : (greater - lesser) * points.1 ≤ (greater - lesser) * 10000 :=
    Int.mul_le_mul_of_nonneg_left points.2.2 (by omega)
  have spread : greater * points.1 = lesser * points.1 + (greater - lesser) * points.1 := by
    rw [← Int.add_mul]
    congr 1
    omega
  have bounded : halfUp (greater * points.1) 10000 ≤
      halfUp (lesser * points.1 + (greater - lesser) * 10000) 10000 := by
    apply halfUp_mono (by decide)
    omega
  rw [halfUp_add_mul (by decide)] at bounded
  omega

end

/-- A fare is never below its policy's minimum as the increment rounds it, falls short of the
minimum by less than half of the increment, and reaches it exactly where `MinimumKept` says. -/
theorem gross_near_minimum (policy : PricingPolicy) (metrics : RouteMetrics)
    (breakdown : FareBreakdown) (success : calculate policy metrics = .ok breakdown) :
    roundedMinimum policy ≤ breakdown.driverGrossMinor.value ∧
      2 * (policy.minimumFareMinor.value - breakdown.driverGrossMinor.value) <
        policy.roundingIncrementMinor.1 ∧
      (policy.minimumFareMinor.value ≤ breakdown.driverGrossMinor.value ↔
        MinimumKept policy metrics) := by
  have amounts := calculate_eq_ok.1 success
  have gross : breakdown.driverGrossMinor.value = fareBeforeTax policy metrics :=
    congrArg FareAmounts.driverGrossMinor amounts
  rw [gross]
  exact ⟨roundedMinimum_le_fare, shortfall_lt, minimum_le_fare_iff⟩

theorem gross_near_minimum_sample :
    calculate (samplePolicy formulaVersion) sampleMetrics = .ok sampleBreakdown ∧
      (5000 ≤ sampleBreakdown.driverGrossMinor.value ↔
        MinimumKept (samplePolicy formulaVersion) sampleMetrics) := by
  have success : calculate (samplePolicy formulaVersion) sampleMetrics = .ok sampleBreakdown := by
    decide
  exact ⟨success, (gross_near_minimum _ _ _ success).2.2⟩

def sampleUnevenPolicy : PricingPolicy :=
  { samplePolicy formulaVersion with
    minimumFareMinor := ⟨5001, by decide, by decide⟩
    valid := rfl }

def sampleShortMetrics : RouteMetrics :=
  { sampleMetrics with distanceMeters := ⟨1, by decide⟩, durationSeconds := ⟨1, by decide⟩ }

/-- A fare that is clamped to the minimum is rounded below it. -/
theorem gross_below_minimum :
    ¬ ∀ (policy : PricingPolicy) (metrics : RouteMetrics) (breakdown : FareBreakdown),
      calculate policy metrics = .ok breakdown →
        policy.minimumFareMinor.value ≤ breakdown.driverGrossMinor.value := by
  intro bounded
  have found : ∃ breakdown, calculate sampleUnevenPolicy sampleShortMetrics = .ok breakdown ∧
      breakdown.driverGrossMinor.value = 5000 := by
    refine ⟨_, rfl, ?_⟩
    decide
  obtain ⟨breakdown, success, gross⟩ := found
  have le := bounded _ _ _ success
  rw [gross] at le
  exact absurd le (by decide)

/-- Under one policy, no amount of a fare falls when the ride gets longer in distance and time. -/
theorem fares_monotone (policy : PricingPolicy) (first second : RouteMetrics)
    (distance : first.distanceMeters.1 ≤ second.distanceMeters.1)
    (duration : first.durationSeconds.1 ≤ second.durationSeconds.1)
    (lesser greater : FareBreakdown) (calculated : calculate policy first = .ok lesser)
    (again : calculate policy second = .ok greater) :
    lesser.driverGrossMinor.value ≤ greater.driverGrossMinor.value ∧
      lesser.taxPlaceholderMinor.value ≤ greater.taxPlaceholderMinor.value ∧
      lesser.riderTotalMinor.value ≤ greater.riderTotalMinor.value ∧
      lesser.ayoCommissionMinor.value ≤ greater.ayoCommissionMinor.value ∧
      lesser.driverNetProjectionMinor.value ≤ greater.driverNetProjectionMinor.value := by
  have fare : fareBeforeTax policy first ≤ fareBeforeTax policy second :=
    fareBeforeTax_mono ⟨distance, duration⟩
  have tax : taxOn policy first ≤ taxOn policy second := share_mono fare
  have commission : commissionOn policy first ≤ commissionOn policy second := share_mono fare
  have net : fareBeforeTax policy first - commissionOn policy first ≤
      fareBeforeTax policy second - commissionOn policy second := rest_mono fare
  have ofFirst := calculate_eq_ok.1 calculated
  have ofSecond := calculate_eq_ok.1 again
  simp only [FareBreakdown.amounts, fareAmounts, FareAmounts.mk.injEq] at ofFirst ofSecond
  omega

theorem fares_monotone_sample :
    ∃ lesser, calculate (samplePolicy formulaVersion) sampleShortMetrics = .ok lesser ∧
      lesser.driverNetProjectionMinor.value ≤ 9605 := by
  have shorter : ∃ lesser,
      calculate (samplePolicy formulaVersion) sampleShortMetrics = .ok lesser := ⟨_, rfl⟩
  obtain ⟨lesser, calculated⟩ := shorter
  have ordered := fares_monotone (samplePolicy formulaVersion) sampleShortMetrics sampleMetrics
    (by decide) (by decide) lesser sampleBreakdown calculated (by decide)
  exact ⟨lesser, calculated, ordered.2.2.2.2⟩

end Ayo.Pricing.FareBounds
