/- digest: When a calculated fare becomes balanced entries that credit all of it. -/

import Ayo.Kernel.Run
import Ayo.PostTrip.CompletionPricing
import Ayo.PostTrip.Settlement

namespace Ayo.PostTrip.FareEntries

open Kernel.Grouping Kernel.Run Kernel.UnitOfWork Kernel.Validation Core.Values Ledger.Models
  CompletionPricing Models PostTrip.Settlement Pricing.Application Pricing.Engine Pricing.Fares
  Pricing.Records

variable {σ : Type}

def legOf (entry : LedgerEntry) : Leg := ⟨entry.accountId, entry.side, entry.amountMinor.1⟩

def creditsFare (accounts : RideLedgerAccounts) (leg : Leg) : Bool :=
  leg.side = .credit ∧ (leg.accountId = accounts.driverEarningsPayable ∨
    leg.accountId = accounts.commissionRevenue ∨ leg.accountId = accounts.taxPayable)

def fareCredits (accounts : RideLedgerAccounts) (ledgerEntries : List LedgerEntry) : Int :=
  total (fun entry => entry.amountMinor.1) (fun entry => creditsFare accounts (legOf entry))
    ledgerEntries

/-- A balanced journal that credits the fare of the rider to driver, platform and tax. -/
structure Reaches (accounts : RideLedgerAccounts) (riderTotal : Int)
    (ledgerEntries : List LedgerEntry) : Prop where
  enough : 2 ≤ ledgerEntries.length
  positive : ∀ entry ∈ ledgerEntries, 0 < entry.amountMinor.1
  indexed : ledgerEntries.map (fun entry => entry.lineIndex.1) =
    (List.range' 1 ledgerEntries.length).map Int.ofNat
  balanced : sideTotal .debit ledgerEntries = sideTotal .credit ledgerEntries
  credited : fareCredits accounts ledgerEntries = riderTotal

theorem entriesOf_of_bounded {entryId : Nat → Uuid} (s : σ) {index : Nat} {values : List Leg}
    (bounded : ∀ leg ∈ values, 1 ≤ leg.amountMinor ∧ leg.amountMinor ≤ 10000000000)
    (first : 1 ≤ index) (last : index + values.length ≤ 1025) :
    ∃ ledgerEntries, entriesOf entryId index values s = .ok (ledgerEntries, s) ∧
      ledgerEntries.map legOf = values ∧
      ledgerEntries.map (fun entry => entry.lineIndex.1) =
        (List.range' index values.length).map Int.ofNat := by
  induction values generalizing index with
  | nil => exact ⟨[], pure_ok.2 ⟨rfl, rfl⟩, rfl, rfl⟩
  | cons leg rest ih =>
    rw [List.length_cons] at last
    have amount := bounded leg (List.mem_cons_self ..)
    have line : 1 ≤ (index : Int) ∧ (index : Int) ≤ 1024 := by omega
    have boundedRest : ∀ other ∈ rest, 1 ≤ other.amountMinor ∧ other.amountMinor ≤ 10000000000 :=
      fun other mem => bounded other (List.mem_cons_of_mem _ mem)
    obtain ⟨later, counted, sameLegs, numbered⟩ :=
      ih boundedRest (Nat.le_succ_of_le first) (by omega)
    let entry : LedgerEntry :=
      { entryId := entryId index, accountId := leg.accountId, side := leg.side,
        amountMinor := ⟨leg.amountMinor, amount⟩, currency := etb, lineIndex := ⟨index, line⟩ }
    refine ⟨entry :: later, ?_, ?_, ?_⟩
    · refine demand_bind_ok.2 ⟨entry.amountMinor, refine?_eq_some.2 rfl, ?_⟩
      refine demand_bind_ok.2 ⟨entry.lineIndex, refine?_eq_some.2 rfl, ?_⟩
      exact bind_ok.2 ⟨later, s, counted, pure_ok.2 ⟨rfl, rfl⟩⟩
    · rw [List.map_cons, sameLegs]
      rfl
    · rw [List.map_cons, numbered, List.length_cons, List.range'_succ, List.map_cons]
      rfl

section

variable {accounts : RideLedgerAccounts} {financial : FinancialBreakdown} {metrics : RouteMetrics}

section
variable (incentives : financial.incentivesMinor = zeroMinor)
  (adjustments : financial.adjustmentsMinor = noAdjustment)
include incentives adjustments

theorem components_of_plain :
    components accounts financial =
      [⟨accounts.settlementClearing, .debit, financial.grossFareMinor.value⟩,
       ⟨accounts.driverEarningsPayable, .credit, financial.netDriverEarningsMinor.value⟩,
       ⟨accounts.commissionRevenue, .credit, financial.commissionMinor.value⟩,
       ⟨accounts.taxPayable, .credit, financial.taxesMinor.value⟩] := by
  unfold components
  rw [incentives, adjustments]
  rfl

theorem components_bounded :
    ∀ leg ∈ components accounts financial, 0 ≤ leg.amountMinor ∧ leg.amountMinor ≤ 10000000000 := by
  rw [components_of_plain incentives adjustments]
  have range : ∀ amount : MinorAmount, 0 ≤ amount.value ∧ amount.value ≤ 10000000000 :=
    fun amount => ⟨amount.nonneg, amount.bounded⟩
  intro leg mem
  simp only [List.mem_cons, List.not_mem_nil, or_false] at mem
  rcases mem with rfl | rfl | rfl | rfl
  · exact range _
  · exact range _
  · exact range _
  · exact range _

theorem total_legs (select : Leg → Bool) :
    total Leg.amountMinor select (legs accounts financial) =
      total Leg.amountMinor select (components accounts financial) :=
  total_filter_positive fun leg mem =>
    (components_bounded incentives adjustments leg mem).1

theorem totals_of_plain :
    legTotal .debit (legs accounts financial) = financial.grossFareMinor.value ∧
      legTotal .credit (legs accounts financial) = financial.grossFareMinor.value ∧
      total Leg.amountMinor (creditsFare accounts) (legs accounts financial) =
        financial.grossFareMinor.value := by
  have equation := financial.equation
  rw [incentives, adjustments] at equation
  have zero : zeroMinor.value + noAdjustment.1 = 0 := rfl
  have balance : financial.netDriverEarningsMinor.value + (financial.commissionMinor.value +
      financial.taxesMinor.value) = financial.grossFareMinor.value := by omega
  refine ⟨?_, ?_, ?_⟩
  · show total Leg.amountMinor (fun leg => leg.side = .debit) (legs accounts financial) = _
    rw [total_legs incentives adjustments, components_of_plain incentives adjustments]
    simp [total]
  · show total Leg.amountMinor (fun leg => leg.side = .credit) (legs accounts financial) = _
    rw [total_legs incentives adjustments, components_of_plain incentives adjustments]
    simp [total, balance]
  · rw [total_legs incentives adjustments, components_of_plain incentives adjustments]
    simp [total, creditsFare, balance]

end

theorem two_legs {values : List Leg} {amount : Int} (positive : 0 < amount)
    (debits : legTotal .debit values = amount) (credits : legTotal .credit values = amount) :
    2 ≤ values.length := by
  rcases values with _ | ⟨only, _ | ⟨next, rest⟩⟩
  · simp only [legTotal, List.filter_nil, List.map_nil, List.sum_nil] at debits
    omega
  · obtain ⟨account, side, size⟩ := only
    cases side with
    | debit =>
      simp [legTotal] at credits
      omega
    | credit =>
      simp [legTotal] at debits
      omega
  · simp only [List.length_cons]
    omega

theorem entries_of_plain {entryId : Nat → Uuid} (s : σ)
    (incentives : financial.incentivesMinor = zeroMinor)
    (adjustments : financial.adjustmentsMinor = noAdjustment)
    (paid : 1 ≤ financial.grossFareMinor.value) :
    ∃ ledgerEntries, entries accounts financial entryId s = .ok (ledgerEntries, s) ∧
      Reaches accounts financial.grossFareMinor.value ledgerEntries := by
  obtain ⟨debits, credits, fare⟩ := totals_of_plain incentives adjustments
  have enough := two_legs paid debits credits
  have bounded : ∀ leg ∈ legs accounts financial,
      1 ≤ leg.amountMinor ∧ leg.amountMinor ≤ 10000000000 := by
    intro leg mem
    obtain ⟨component, positive⟩ := List.mem_filter.1 mem
    have range := components_bounded incentives adjustments leg component
    have above : 0 < leg.amountMinor := by simpa using positive
    omega
  have short : (legs accounts financial).length ≤ 4 := by
    refine (List.length_filter_le _ _).trans ?_
    rw [components_of_plain incentives adjustments]
    exact le_refl 4
  obtain ⟨ledgerEntries, counted, sameLegs, numbered⟩ :=
    entriesOf_of_bounded s bounded (le_refl 1) (by omega)
  have sameLength : ledgerEntries.length = (legs accounts financial).length := by
    rw [← sameLegs, List.length_map]
  have sided : ∀ side, sideTotal side ledgerEntries = legTotal side (legs accounts financial) := by
    intro side
    rw [← sameLegs]
    exact (total_map Leg.amountMinor (fun leg => leg.side = side) legOf ledgerEntries).symm
  refine ⟨ledgerEntries, require_bind_ok.2 ⟨⟨?_, debits.trans credits.symm⟩, counted⟩, ?_⟩
  · rw [debits, incentives, adjustments]
    show financial.grossFareMinor.value = financial.grossFareMinor.value + 0 + 0
    omega
  · refine ⟨by omega, ?_, ?_, ?_, ?_⟩
    · intro entry _
      have range := entry.amountMinor.2
      omega
    · rw [numbered, sameLength]
    · rw [sided, sided, debits, credits]
    · rw [← fare, ← sameLegs]
      exact (total_map Leg.amountMinor (creditsFare accounts) legOf ledgerEntries).symm

theorem equation_of_calculated {policy : PricingPolicy}
    {breakdown : FareBreakdown} (calculated : calculate policy metrics = .ok breakdown) :
    breakdown.driverNetProjectionMinor.value =
      breakdown.riderTotalMinor.value - breakdown.ayoCommissionMinor.value -
        breakdown.taxPlaceholderMinor.value := by
  have amounts := calculate_eq_ok.1 calculated
  have riderTotal := congrArg FareAmounts.riderTotalMinor amounts
  have commission := congrArg FareAmounts.ayoCommissionMinor amounts
  have tax := congrArg FareAmounts.taxPlaceholderMinor amounts
  have net := congrArg FareAmounts.driverNetProjectionMinor amounts
  simp only [FareBreakdown.amounts, fareAmounts] at riderTotal commission tax net
  omega

theorem breakdownOf_plain {policy : PricingPolicy} {calculation : FareCalculation}
    (calculated : calculate policy metrics = .ok calculation.breakdown)
    (long : 2 ≤ calculation.policyVersion.1.length) :
    ∃ financial, breakdownOf calculation = .ok financial ∧
      financial.grossFareMinor = calculation.breakdown.riderTotalMinor ∧
      financial.incentivesMinor = zeroMinor ∧ financial.adjustmentsMinor = noAdjustment := by
  have equation := equation_of_calculated calculated
  have version : boundedText? 2 63 calculation.policyVersion.1 =
      some ⟨calculation.policyVersion.1, long, calculation.policyVersion.length_le⟩ :=
    refine?_eq_some.2 rfl
  let financial : FinancialBreakdown :=
    { grossFareMinor := calculation.breakdown.riderTotalMinor,
      commissionMinor := calculation.breakdown.ayoCommissionMinor,
      incentivesMinor := zeroMinor, taxesMinor := calculation.breakdown.taxPlaceholderMinor,
      adjustmentsMinor := noAdjustment,
      netDriverEarningsMinor := calculation.breakdown.driverNetProjectionMinor,
      policyVersion := ⟨calculation.policyVersion.1, long, calculation.policyVersion.length_le⟩,
      policyEvidenceHash := calculation.calculationLineage.canonicalInputHash,
      fareEstimateId := calculation.estimateId, fareCalculationId := calculation.calculationId,
      equation := by
        show _ = _ + 0 + 0
        omega }
  refine ⟨financial, expect_bind_eq_ok.2 ⟨_, version, ?_⟩, rfl, rfl, rfl⟩
  exact financialBreakdown?_eq_ok.2 ⟨rfl, rfl, rfl, rfl, rfl, rfl, rfl, rfl, rfl, rfl⟩

end

/-- Every minor unit of a calculated fare reaches the ledger exactly when the version of its policy
has at least two characters. -/
theorem fare_reaches_ledger_iff (accounts : RideLedgerAccounts) (entryId : Nat → Uuid) (s : σ)
    (policy : PricingPolicy) (metrics : RouteMetrics) (calculation : FareCalculation)
    (calculated : calculate policy metrics = .ok calculation.breakdown)
    (versioned : calculation.policyVersion = policy.policyVersion)
    (paid : 1 ≤ calculation.breakdown.riderTotalMinor.value) :
    (∃ financial ledgerEntries, breakdownOf calculation = .ok financial ∧
        entries accounts financial entryId s = .ok (ledgerEntries, s) ∧
        Reaches accounts calculation.breakdown.riderTotalMinor.value ledgerEntries) ↔
      2 ≤ policy.policyVersion.1.length := by
  rw [← versioned]
  constructor
  · rintro ⟨financial, _, valid, _⟩
    obtain ⟨version, bounded, _⟩ := expect_bind_eq_ok.1 valid
    rw [← refine?_eq_some.1 bounded]
    exact version.2.1
  · intro long
    obtain ⟨financial, valid, gross, incentives, adjustments⟩ := breakdownOf_plain calculated long
    obtain ⟨ledgerEntries, counted, reaches⟩ := entries_of_plain s incentives
      adjustments (by rw [gross]; exact paid)
    exact ⟨financial, ledgerEntries, valid, counted, gross ▸ reaches⟩

def rideAccounts : RideLedgerAccounts where
  bookId := 40
  settlementClearing := 41
  driverEarningsPayable := 42
  commissionRevenue := 43
  taxPayable := 44
  incentiveExpense := 45
  adjustmentExpense := 46
  adjustmentRecovery := 47

def FareStored (policyVersion : Version) (calculation : FareCalculation) : Prop :=
  (run (pricingStep pricingConfig) {} (calculatedRide policyVersion)).calculations.find 813 =
      some calculation ∧
    calculation.breakdown = sampleBreakdown ∧ calculation.policyVersion = policyVersion

theorem fare_reaches_ledger_sample :
    ∃ calculation, FareStored formulaVersion calculation ∧
      ∃ financial ledgerEntries, breakdownOf calculation = .ok financial ∧
        entries rideAccounts financial id () = .ok (ledgerEntries, ()) ∧
        Reaches rideAccounts calculation.breakdown.riderTotalMinor.value ledgerEntries := by
  have stored : ((run (pricingStep pricingConfig) {}
      (calculatedRide formulaVersion)).calculations.find 813).map
        (fun row => (row.breakdown, row.policyVersion)) = some (sampleBreakdown, formulaVersion) := by
    decide +kernel
  obtain ⟨calculation, found, same⟩ := Option.map_eq_some_iff.1 stored
  obtain ⟨fare, versioned⟩ := Prod.mk.inj same
  refine ⟨calculation, ⟨found, fare, versioned⟩, ?_⟩
  refine (fare_reaches_ledger_iff rideAccounts id () (samplePolicy formulaVersion) sampleMetrics
    calculation ?_ versioned ?_).2 (by decide)
  · rw [fare]
    rfl
  · rw [fare]
    decide

def shortVersion : Version := ⟨"1", by decide⟩

/-- The fare of the sample ride under version `1` has no financial breakdown. -/
theorem short_version_stops_fare :
    ∃ calculation, FareStored shortVersion calculation ∧
      calculate (samplePolicy shortVersion) sampleMetrics = .ok calculation.breakdown ∧
      1 ≤ calculation.breakdown.riderTotalMinor.value ∧
      breakdownOf calculation = .error (.field "policy_version") := by
  have stored : ((run (pricingStep pricingConfig) {}
      (calculatedRide shortVersion)).calculations.find 813).map
        (fun row => (row.breakdown, row.policyVersion)) = some (sampleBreakdown, shortVersion) := by
    decide +kernel
  obtain ⟨calculation, found, same⟩ := Option.map_eq_some_iff.1 stored
  obtain ⟨fare, versioned⟩ := Prod.mk.inj same
  refine ⟨calculation, ⟨found, fare, versioned⟩, ?_, ?_, ?_⟩
  · rw [fare]
    rfl
  · rw [fare]
    decide
  · unfold breakdownOf
    rw [versioned]
    rfl

end Ayo.PostTrip.FareEntries
