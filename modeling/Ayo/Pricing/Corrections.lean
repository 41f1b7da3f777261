/- digest: Corrected fares keep an exact difference and their chain's lineage. -/

import Ayo.Kernel.Run
import Ayo.Pricing.Effects

namespace Ayo.Pricing.Corrections

open Kernel.Run Kernel.KeyedTable Application Effects Records Repository

/-- The difference of a calculation is its fare less the amount of the acceptance that it names,
which accepts its estimate. -/
def DifferenceExact (store : PricingStore) (item : FareCalculation) : Prop :=
  ∃ acceptance, store.acceptances.find item.acceptanceId = some acceptance ∧
    acceptance.estimateId = item.estimateId ∧
    item.estimateDifferenceMinor.1 =
      item.breakdown.riderTotalMinor.value - acceptance.acceptedAmountMinor.value

def Corrects (store : PricingStore) (item prior : FareCalculation) : Prop :=
  item ∈ store.calculations.rows ∧ prior ∈ store.calculations.rows ∧
    item.predecessorCalculationId = some prior.calculationId

/-- Two calculations belong to one chain, whatever its depth and its branches. -/
def SameChain (store : PricingStore) : FareCalculation → FareCalculation → Prop :=
  Relation.EqvGen (Corrects store)

/-- Two calculations name one ride, one estimate and one acceptance. -/
def SameNames (first second : FareCalculation) : Prop :=
  first.rideId = second.rideId ∧ first.estimateId = second.estimateId ∧
    first.acceptanceId = second.acceptanceId

def PredecessorStored (store : PricingStore) (item : FareCalculation) : Prop :=
  ∀ predecessorId ∈ item.predecessorCalculationId,
    ∃ prior, store.calculations.find predecessorId = some prior ∧ SameNames item prior

def Exact (store : PricingStore) : Prop :=
  ∀ item ∈ store.calculations.rows, DifferenceExact store item ∧ PredecessorStored store item

variable {config : PricingConfig} {s t store : PricingStore} {item : FareCalculation}

theorem differenceExact_of_kept (exact : DifferenceExact s item)
    (kept : ∀ id acceptance, s.acceptances.find id = some acceptance →
      t.acceptances.find id = some acceptance) : DifferenceExact t item := by
  obtain ⟨acceptance, found, accepts, difference⟩ := exact
  exact ⟨acceptance, kept _ _ found, accepts, difference⟩

theorem predecessorStored_of_kept (held : PredecessorStored s item)
    (kept : ∀ id prior, s.calculations.find id = some prior →
      t.calculations.find id = some prior) : PredecessorStored t item := by
  intro predecessorId named
  obtain ⟨prior, found, same⟩ := held predecessorId named
  exact ⟨prior, kept _ _ found, same⟩

theorem differenceExact_of_corrected {prior : FareCalculation} (exact : DifferenceExact s prior)
    (corrects : CorrectionOf prior item) : DifferenceExact s item := by
  obtain ⟨acceptance, found, accepts, difference⟩ := exact
  refine ⟨acceptance, corrects.sameAcceptance ▸ found, accepts.trans corrects.sameEstimate.symm, ?_⟩
  have moved := corrects.difference
  omega

theorem exact_of_adds (exact : Exact s) (adds : Adds s t item) (itemExact : DifferenceExact s item)
    (itemStored : PredecessorStored s item) : Exact t := by
  obtain ⟨rows, acceptances, _⟩ := adds
  have keptAcceptances : ∀ id acceptance, s.acceptances.find id = some acceptance →
      t.acceptances.find id = some acceptance := by
    intro id acceptance found
    rwa [acceptances]
  have keptCalculations : ∀ id prior, s.calculations.find id = some prior →
      t.calculations.find id = some prior := by
    intro id prior found
    rw [Table.find_of_rows_append rows, found]
    rfl
  have each : ∀ row, DifferenceExact s row → PredecessorStored s row →
      DifferenceExact t row ∧ PredecessorStored t row := by
    intro row rowExact rowStored
    exact ⟨differenceExact_of_kept rowExact keptAcceptances,
      predecessorStored_of_kept rowStored keptCalculations⟩
  intro row mem
  rw [rows] at mem
  rcases List.mem_append.1 mem with old | new
  · obtain ⟨rowExact, rowStored⟩ := exact row old
    exact each row rowExact rowStored
  · rw [List.mem_singleton.1 new]
    exact each item itemExact itemStored

theorem step_preserves_exact {call : PricingCall} (exact : Exact store) :
    Exact (pricingStep config store call) := by
  cases step_effect config store call with
  | quiet quiet =>
    obtain ⟨calculations, acceptances⟩ := quiet
    intro row mem
    rw [calculations] at mem
    obtain ⟨rowExact, rowStored⟩ := exact row mem
    refine ⟨differenceExact_of_kept rowExact ?_, predecessorStored_of_kept rowStored ?_⟩
    · intro id acceptance found
      rwa [acceptances]
    · intro id prior found
      rwa [calculations]
  | accepted acceptance calculations rows =>
    intro row mem
    rw [calculations] at mem
    obtain ⟨rowExact, rowStored⟩ := exact row mem
    refine ⟨differenceExact_of_kept rowExact ?_, predecessorStored_of_kept rowStored ?_⟩
    · intro id other found
      rw [Table.find_of_rows_append rows, found]
      rfl
    · intro id prior found
      rwa [calculations]
  | calculated item adds final =>
    obtain ⟨acceptance, mem, named, accepts, difference⟩ := final.accepted
    have found := Table.find_of_mem mem
    refine exact_of_adds exact adds ⟨acceptance, named ▸ found, accepts, difference⟩ ?_
    intro predecessorId named
    rw [final.original] at named
    cases named
  | corrected request item prior _ adds _ _ found corrects =>
    have held := Table.mem_of_find found
    refine exact_of_adds exact adds (differenceExact_of_corrected (exact prior held).1 corrects) ?_
    intro predecessorId named
    rw [corrects.follows] at named
    cases named
    exact ⟨prior, Table.find_of_mem held, corrects.sameRide, corrects.sameEstimate,
      corrects.sameAcceptance⟩

theorem exact_of_run (config : PricingConfig) (calls : List PricingCall) :
    Exact (run (pricingStep config) {} calls) := by
  refine run_invariant (fun store call => step_preserves_exact) calls ?_
  intro row mem
  cases mem

/-- Every stored calculation names its ride in its lineage. -/
def AllTraced (store : PricingStore) : Prop := ∀ item ∈ store.calculations.rows, Traced item

theorem allTraced_of_adds (traced : AllTraced s) (adds : Adds s t item) : AllTraced t := by
  intro row held
  obtain old | rfl := (mem_appended adds.1).1 held
  · exact traced row old
  · exact adds.2.2

theorem allTraced_of_run (config : PricingConfig) (calls : List PricingCall) :
    AllTraced (run (pricingStep config) {} calls) := by
  refine run_invariant (fun store call traced => ?_) calls fun _ held => by cases held
  cases step_effect config store call with
  | quiet quiet =>
    intro row held
    rw [quiet.1] at held
    exact traced row held
  | accepted _ calculations =>
    intro row held
    rw [calculations] at held
    exact traced row held
  | calculated _ adds => exact allTraced_of_adds traced adds
  | corrected _ _ _ _ adds => exact allTraced_of_adds traced adds

theorem sameNames_of_sameChain (exact : Exact store) {first second : FareCalculation}
    (chain : SameChain store first second) : SameNames first second := by
  induction chain with
  | rel item prior corrects =>
    obtain ⟨held, priorStored, follows⟩ := corrects
    obtain ⟨found, lookup, same⟩ := (exact item held).2 _ follows
    have one : found = prior :=
      Option.some.inj (lookup.symm.trans (Table.find_of_mem priorStored))
    exact one ▸ same
  | refl => exact ⟨rfl, rfl, rfl⟩
  | symm first second _ ih => exact ⟨ih.1.symm, ih.2.1.symm, ih.2.2.symm⟩
  | trans first second third _ _ left right =>
    exact ⟨left.1.trans right.1, left.2.1.trans right.2.1, left.2.2.trans right.2.2⟩

/-- In every reachable store the difference of every calculation is exact, and its whole chain
names the same ride, estimate and acceptance. -/
theorem corrections_exact (config : PricingConfig) (calls : List PricingCall)
    (item : FareCalculation)
    (stored : item ∈ (run (pricingStep config) {} calls).calculations.rows) :
    DifferenceExact (run (pricingStep config) {} calls) item ∧
      ∀ other, SameChain (run (pricingStep config) {} calls) item other →
        SameNames item other := by
  have exact := exact_of_run config calls
  refine ⟨(exact item stored).1, ?_⟩
  intro other chain
  exact sameNames_of_sameChain exact chain

def correctedRide : List PricingCall :=
  calculatedRide Engine.formulaVersion ++ [correction 813 814 110, correction 814 815 120]

theorem corrections_exact_twice :
    ∃ item, (run (pricingStep pricingConfig) {} correctedRide).calculations.find 815 = some item ∧
      item.predecessorCalculationId = some 814 ∧
      DifferenceExact (run (pricingStep pricingConfig) {} correctedRide) item ∧
      ∀ other, SameChain (run (pricingStep pricingConfig) {} correctedRide) item other →
        SameNames item other := by
  have stored : ((run (pricingStep pricingConfig) {} correctedRide).calculations.find 815).map
      FareCalculation.predecessorCalculationId = some (some 814) := by decide +kernel
  obtain ⟨item, found, follows⟩ := Option.map_eq_some_iff.1 stored
  exact ⟨item, found, follows,
    corrections_exact pricingConfig correctedRide item (Table.mem_of_find found)⟩

end Ayo.Pricing.Corrections
