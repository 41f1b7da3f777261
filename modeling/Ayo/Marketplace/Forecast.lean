/- digest: The demand forecast compounds the signals of a market in the order of their labels. -/

import Ayo.Core.Values
import Ayo.Kernel.Ordering
import Mathlib.Data.String.Basic

namespace Ayo.Marketplace.Forecast

open Kernel.Ordering Core.Values

inductive SignalKind where
  | airport
  | event
  | traffic
  | weather

def SignalKind.value : SignalKind → String
  | .airport => "airport"
  | .event => "event"
  | .traffic => "traffic"
  | .weather => "weather"

/-- `Field(ge=least, le=most)` of a share in basis points. -/
abbrev Bps (least most : Int) := { share : Int // least ≤ share ∧ share ≤ most }

structure ContextSignal where
  signalId : Uuid
  kind : SignalKind
  code : String
  factorBps : Bps 0 30000
  confidenceBps : Bps 0 10000
  (observedAt expiresAt : Instant)
  lasting : observedAt < expiresAt

structure MarketplaceRuleSet where
  minimumSampleSize : Nat := 30
  neutralDriverCompletedTripThreshold : Nat := 20
  opportunityEquivalentEtaSeconds : Nat := 20
  opportunityMaximumCreditBps : Nat := 1500
  maximumShared : opportunityMaximumCreditBps ≤ 10000 := by decide
  demandSignalCapBps : Bps 10000 30000 := ⟨15000, by decide⟩
  demandLowerBandBps : Bps 0 10000 := ⟨8000, by decide⟩
  demandUpperBandBps : Bps 10000 20000 := ⟨12000, by decide⟩

structure MarketplaceSnapshot where
  windowEndedAt : Instant
  (forecastBaselineRequests sampleSize : Nat)
  signals : List ContextSignal

inductive DataQuality where
  | sufficient
  | insufficient

structure DemandForecast where
  (expectedRequests lowerRequests upperRequests factorBps : Int)
  contextCodes : List String
  quality : DataQuality

variable (signal : ContextSignal)

def label : Nat ×ₗ String ×ₗ Uuid :=
  toLex (signal.kind.ctorIdx, toLex (signal.code, signal.signalId))

def Active (time : Instant) (signal : ContextSignal) : Prop :=
  signal.observedAt ≤ time ∧ time < signal.expiresAt
deriving Decidable

def active (time : Instant) (signals : List ContextSignal) : List ContextSignal :=
  orderedBy label (signals.filter fun signal => Active time signal)

def confidenceAdjusted : Int :=
  10000 + (signal.factorBps.1 - 10000) * signal.confidenceBps.1 / 10000

variable (rules : MarketplaceRuleSet)

/-- One turn of the loop: the product is rounded down and capped before the next signal. -/
def compound (factor : Int) (signal : ContextSignal) : Int :=
  min (factor * confidenceAdjusted signal / 10000) rules.demandSignalCapBps.1

def factorOf (time : Instant) (signals : List ContextSignal) : Int :=
  (active time signals).foldl (compound rules) 10000

def predictDemand (snapshot : MarketplaceSnapshot) : DemandForecast :=
  let factor := factorOf rules snapshot.windowEndedAt snapshot.signals
  let expected := snapshot.forecastBaselineRequests * factor / 10000
  { expectedRequests := expected, lowerRequests := expected * rules.demandLowerBandBps.1 / 10000,
    upperRequests := expected * rules.demandUpperBandBps.1 / 10000, factorBps := factor,
    contextCodes := (active snapshot.windowEndedAt snapshot.signals).flatMap fun signal =>
      [signal.kind.value, signal.code],
    quality := if rules.minimumSampleSize ≤ snapshot.sampleSize then .sufficient
      else .insufficient }

theorem confidenceAdjusted_nonneg : 0 ≤ confidenceAdjusted signal := by
  have lowest := Int.mul_le_mul_of_nonneg_right (Int.sub_le_sub_right signal.factorBps.2.1 10000)
    signal.confidenceBps.2.1
  have confident := signal.confidenceBps.2.2
  unfold confidenceAdjusted
  omega

variable {rules}

theorem compound_mono {a b : Int} (first second : ContextSignal) (nonneg : 0 ≤ a) (le : a ≤ b)
    (same : second.confidenceBps = first.confidenceBps)
    (raised : first.factorBps.1 ≤ second.factorBps.1) :
    0 ≤ compound rules a first ∧ compound rules a first ≤ compound rules b second := by
  have trusted : confidenceAdjusted first ≤ confidenceAdjusted second := by
    unfold confidenceAdjusted
    rw [same]
    have weighted := Int.mul_le_mul_of_nonneg_right (Int.sub_le_sub_right raised 10000)
      first.confidenceBps.2.1
    exact Int.add_le_add_left (Int.ediv_le_ediv (by decide) weighted) _
  have product : a * confidenceAdjusted first ≤ b * confidenceAdjusted second :=
    Int.mul_le_mul le trusted (confidenceAdjusted_nonneg first) (nonneg.trans le)
  have capped := rules.demandSignalCapBps.2.1
  have positive := Int.mul_nonneg nonneg (confidenceAdjusted_nonneg first)
  unfold compound
  constructor
  · have floor := Int.ediv_nonneg positive (by decide : (0 : Int) ≤ 10000)
    omega
  · exact min_le_min_right _ (Int.ediv_le_ediv (by decide) product)

def raisedTo (row : ContextSignal × Bps 0 30000) : ContextSignal :=
  { row.1 with factorBps := row.2 }

variable (rules) in
theorem factorOf_mono (time : Instant) {rows : List (ContextSignal × Bps 0 30000)}
    (raises : ∀ row ∈ rows, row.1.factorBps.1 ≤ row.2.1) :
    factorOf rules time (rows.map Prod.fst) ≤ factorOf rules time (rows.map raisedTo) := by
  -- Both lists of signals are sorted and filtered alike, as their labels and times agree.
  let sorted := orderedBy (fun row => label row.1) (rows.filter fun row => Active time row.1)
  have first : active time (rows.map Prod.fst) = sorted.map Prod.fst := by
    rw [active, List.filter_map, orderedBy_map]
    rfl
  have second : active time (rows.map raisedTo) = sorted.map raisedTo := by
    rw [active, List.filter_map, orderedBy_map]
    rfl
  have raised : ∀ row ∈ sorted, row.1.factorBps.1 ≤ row.2.1 :=
    fun row mem => raises row (List.mem_of_mem_filter (mem_orderedBy.1 mem))
  rw [factorOf, factorOf, first, second]
  clear_value sorted
  clear first second
  suffices ∀ a b : Int, 0 ≤ a → a ≤ b → (sorted.map Prod.fst).foldl (compound rules) a ≤
      (sorted.map raisedTo).foldl (compound rules) b from this _ _ (by decide) le_rfl
  induction sorted with
  | nil => exact fun a b _ le => le
  | cons row rest ih =>
    intro a b nonneg le
    obtain ⟨next, higher⟩ := compound_mono row.1 (raisedTo row) nonneg le rfl
      (raised row List.mem_cons_self)
    exact ih (fun other later => raised other (List.mem_cons_of_mem _ later)) _ _ next higher

def effect : Int × Int × Instant × Instant :=
  (signal.factorBps.1, signal.confidenceBps.1, signal.observedAt, signal.expiresAt)

def figures (forecast : DemandForecast) : Int × Int × Int × Int :=
  (forecast.factorBps, forecast.expectedRequests, forecast.lowerRequests, forecast.upperRequests)

theorem factorOf_congr (time : Instant) {signals others : List ContextSignal}
    (same : (active time signals).map effect = (active time others).map effect) :
    factorOf rules time signals = factorOf rules time others := by
  let step (factor : Int) (part : Int × Int × Instant × Instant) : Int :=
    min (factor * (10000 + (part.1 - 10000) * part.2.1 / 10000) / 10000) rules.demandSignalCapBps.1
  have read : ∀ signals, factorOf rules time signals =
      ((active time signals).map effect).foldl step 10000 :=
    fun signals => by rw [List.foldl_map]; rfl
  rw [read, read, same]

/-- A forecast is free of the order of its signals as long as their labels are distinct, the labels
matter to its numbers by the order they put the effects in, and higher factors never lower it. -/
theorem forecast_reads_labels_as_order (rules : MarketplaceRuleSet)
    (snapshot : MarketplaceSnapshot) :
    (∀ signals : List ContextSignal, signals.Perm snapshot.signals →
      (snapshot.signals.map label).Nodup →
      predictDemand rules { snapshot with signals } = predictDemand rules snapshot) ∧
    (∀ signals : List ContextSignal,
      (active snapshot.windowEndedAt signals).map effect =
        (active snapshot.windowEndedAt snapshot.signals).map effect →
      figures (predictDemand rules { snapshot with signals }) =
        figures (predictDemand rules snapshot)) ∧
    ∀ rows : List (ContextSignal × Bps 0 30000), (∀ row ∈ rows, row.1.factorBps.1 ≤ row.2.1) →
      (predictDemand rules { snapshot with signals := rows.map Prod.fst }).expectedRequests ≤
        (predictDemand rules { snapshot with signals := rows.map raisedTo }).expectedRequests := by
  refine ⟨fun signals same distinct => ?_, fun signals same => ?_, fun rows raises => ?_⟩
  · have sorted : active snapshot.windowEndedAt signals =
        active snapshot.windowEndedAt snapshot.signals :=
      orderedBy_congr_perm (same.filter _)
        (List.inj_on_of_nodup_map (distinct.sublist (List.filter_sublist.map _)))
    simp only [predictDemand, factorOf, sorted]
  · simp only [figures, predictDemand, factorOf_congr _ same]
  · have factor := factorOf_mono rules snapshot.windowEndedAt raises
    have product := Int.mul_le_mul_of_nonneg_left factor
      (Int.natCast_nonneg snapshot.forecastBaselineRequests)
    exact Int.ediv_le_ediv (by decide) product

def signalOf (kind : SignalKind) (factorBps : Bps 0 30000) : ContextSignal where
  signalId := kind.ctorIdx
  kind
  code := "signal"
  factorBps
  confidenceBps := ⟨10000, by decide⟩
  observedAt := 0
  expiresAt := 2
  lasting := by decide

/-- A signal that triples the demand is capped before the one that halves it, or after it. -/
theorem labels_change_forecast :
    ¬ ∀ (rules : MarketplaceRuleSet) (snapshot : MarketplaceSnapshot)
      (signals : List ContextSignal),
      (signals.map effect).Perm (snapshot.signals.map effect) →
      figures (predictDemand rules { snapshot with signals }) =
        figures (predictDemand rules snapshot) := by
  intro claimed
  have same := claimed {} ⟨1, 100, 30, [signalOf .airport ⟨30000, by decide⟩,
      signalOf .event ⟨5000, by decide⟩]⟩
    [signalOf .airport ⟨5000, by decide⟩, signalOf .event ⟨30000, by decide⟩] (.swap _ _ _)
  exact absurd same (by decide +kernel)

end Ayo.Marketplace.Forecast
