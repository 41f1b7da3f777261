/- digest: When the calculation that a ride settles on has no successor. -/

import Ayo.PostTrip.CompletionPricing
import Ayo.Pricing.Corrections

namespace Ayo.PostTrip.CurrentFare

open Kernel.KeyedTable Kernel.Ordering Kernel.Run Kernel.UnitOfWork Core.Values
open Core.Authorization (canonicalReference)
open CompletionPricing Pricing.Application Pricing.Corrections Pricing.Effects Pricing.Records
  Pricing.Repository Rides.Sources

abbrev calculationKey (row : FareCalculation) : Lex (Instant × Uuid) :=
  toLex (row.calculatedAt, row.calculationId)

def current (store : PricingStore) (rideId : Uuid) : Option FareCalculation :=
  (calculationsOfRide store rideId).getLast?

def CurrentUncorrected (store : PricingStore) : Prop :=
  ∀ rideId last, current store rideId = some last →
    ∀ other ∈ store.calculations.rows, other.rideId = rideId →
      other.predecessorCalculationId ≠ some last.calculationId

def requestedCorrection : PricingCommand → Option CorrectionRequest
  | .correctCalculation request => some request
  | _ => none

/-- A correction that names the current calculation of a ride is dated after it, or at its time
under a greater identifier. -/
def DatedAfterCurrent (store : PricingStore) (call : PricingCall) : Prop :=
  ∀ request ∈ requestedCorrection call.command,
    ∀ prior ∈ store.calculations.find request.predecessorCalculationId,
      current store prior.rideId = some prior → calculationKey prior < toLex (request.time.instant,
          canonicalReference store.idempotency call.subject.identityId "correct_calculation"
            request.idempotencyKey request.candidateId)
deriving Decidable

variable {config : PricingConfig} {s t store : PricingStore} {item last : FareCalculation}
  {rideId bookingEvidenceId : Uuid} {sources : RideSources}

theorem current_greatest (ends : current store rideId = some last) :
    last ∈ store.calculations.rows ∧ last.rideId = rideId ∧
      ∀ row ∈ store.calculations.rows, row.rideId = rideId →
        calculationKey row ≤ calculationKey last := by
  obtain ⟨mem, greatest⟩ := le_of_getLast?_orderedBy ends
  obtain ⟨held, ride⟩ := List.mem_filter.1 mem
  refine ⟨held, by simpa using ride, ?_⟩
  intro row present same
  exact greatest row (List.mem_filter.2 ⟨present, by simpa using same⟩)

theorem current_of_greatest (held : last ∈ store.calculations.rows) (ride : last.rideId = rideId)
    (greatest : ∀ row ∈ store.calculations.rows, row.rideId = rideId →
      calculationKey row ≤ calculationKey last) : current store rideId = some last := by
  refine getLast?_orderedBy_of_greatest (List.mem_filter.2 ⟨held, by simpa using ride⟩) ?_ ?_
  · intro row mem
    obtain ⟨present, same⟩ := List.mem_filter.1 mem
    exact greatest row present (by simpa using same)
  · intro row mem equal
    have identified : row.calculationId = last.calculationId :=
      congrArg (fun key => (ofLex key).2) equal
    exact store.calculations.eq_of_key (List.mem_filter.1 mem).1 held identified

theorem current_of_adds (adds : Adds s t item) (ends : current t rideId = some last) :
    last = item ∨ current s rideId = some last := by
  obtain ⟨rows, _⟩ := adds
  obtain ⟨held, ride, greatest⟩ := current_greatest ends
  rw [rows] at held greatest
  rcases List.mem_append.1 held with old | new
  · right
    refine current_of_greatest old ride ?_
    intro row mem same
    exact greatest row (List.mem_append_left _ mem) same
  · exact .inl (List.mem_singleton.1 new)

theorem uncorrected_of_adds (exact : Exact s) (adds : Adds s t item) :
    ∀ other ∈ s.calculations.rows, other.predecessorCalculationId ≠ some item.calculationId := by
  intro other mem follows
  obtain ⟨prior, found, _⟩ := (exact other mem).2 _ follows
  have free := Table.find_eq_none_of_rows_append adds.1
  have taken : s.calculations.find (Row.key item) = some prior := found
  rw [free] at taken
  cases taken

theorem currentUncorrected_of_adds (exact : Exact s) (uncorrected : CurrentUncorrected s)
    (adds : Adds s t item)
    (itemApart : ∀ last, current t item.rideId = some last →
      item.predecessorCalculationId ≠ some last.calculationId) : CurrentUncorrected t := by
  intro rideId last ends other mem same
  rcases (mem_appended adds.1).1 mem with old | rfl
  · rcases current_of_adds adds ends with rfl | earlier
    · exact uncorrected_of_adds exact adds other old
    · exact uncorrected rideId last earlier other old same
  · exact itemApart last (by rw [same]; exact ends)

theorem step_preserves_uncorrected {call : PricingCall} (dated : DatedAfterCurrent store call)
    (exact : Exact store) (uncorrected : CurrentUncorrected store) :
    CurrentUncorrected (pricingStep config store call) := by
  cases step_effect config store call with
  | quiet quiet =>
    intro rideId last ends other mem
    rw [current, calculationsOfRide, quiet.1] at ends
    rw [quiet.1] at mem
    exact uncorrected rideId last ends other mem
  | accepted _ calculations =>
    intro rideId last ends other mem
    rw [current, calculationsOfRide, calculations] at ends
    rw [calculations] at mem
    exact uncorrected rideId last ends other mem
  | calculated item adds final =>
    refine currentUncorrected_of_adds exact uncorrected adds ?_
    intro last _ follows
    rw [final.original] at follows
    cases follows
  | corrected request item prior command adds at_time identified found corrects =>
    refine currentUncorrected_of_adds exact uncorrected adds ?_
    intro last ends follows
    have held := Table.mem_of_find found
    rw [corrects.follows] at follows
    have sameId : prior.calculationId = last.calculationId := Option.some.inj follows
    obtain ⟨lastStored, _, greatest⟩ := current_greatest ends
    rw [adds.1] at lastStored greatest
    -- the current calculation afterwards is the corrected one, which the correction exceeds
    have one : prior = last := by
      rcases (mem_appended rfl).1 lastStored with old | rfl
      · exact store.calculations.eq_of_key held old sameId
      · have free := Table.find_eq_none_of_rows_append adds.1
        have taken := Table.find_of_mem held
        rw [show Row.key prior = Row.key last from sameId, free] at taken
        cases taken
    subst one
    have priorCurrent : current store prior.rideId = some prior := by
      refine current_of_greatest held rfl ?_
      intro row mem same
      exact greatest row (List.mem_append_left _ mem) (same.trans corrects.sameRide.symm)
    have after_prior : calculationKey prior < calculationKey item := by
      have later := dated request (by rw [command]; rfl) prior found priorCurrent
      rwa [← at_time, ← identified] at later
    exact absurd (greatest item (by simp) rfl) (not_le.2 after_prior)

theorem current_of_chosen {result : PricingStore}
    {booked : BookedFare} {calculation : FareCalculation}
    (chosen : chooseCalculation sources rideId bookingEvidenceId store =
      .ok ((booked, some calculation), result)) : current store rideId = some calculation := by
  unfold chooseCalculation at chosen
  simp only [↓steps_ok] at chosen
  obtain ⟨_, _, _, _, _, _, _, _, _, _, _, _, _, rest⟩ := chosen
  obtain ⟨journey, middle, traced, named⟩ := bind_ok.1 rest
  have last := (Prod.mk.inj (pure_ok.1 named).1).2
  unfold financialJourney at traced
  rcases whenSome_ok.1 traced with ⟨_, _, read⟩ | ⟨_, absent⟩
  · simp only [↓steps_ok] at read
    obtain ⟨_, rfl, _⟩ := read
    exact last
  · rw [← (pure_ok.1 absent).1] at last
    cases last

def Kept (store : PricingStore) : Prop := Exact store ∧ CurrentUncorrected store

theorem kept_along {calls : List PricingCall}
    (along : Along (pricingStep config) DatedAfterCurrent {} calls) :
    Kept (run (pricingStep config) {} calls) := by
  have preserves : ∀ store call, DatedAfterCurrent store call → Kept store →
      Kept (pricingStep config store call) := by
    rintro store call dated ⟨exact, uncorrected⟩
    exact ⟨step_preserves_exact exact,
      step_preserves_uncorrected dated exact uncorrected⟩
  refine run_invariant_along preserves along ⟨?_, ?_⟩
  · intro row mem
    cases mem
  · intro rideId last _ other mem
    cases mem

/-- In every store that a run of such calls reaches, the calculation that a completed ride settles
on is not the predecessor of another calculation of the ride. -/
theorem current_fare_along (config : PricingConfig) (calls : List PricingCall)
    (along : Along (pricingStep config) DatedAfterCurrent {} calls) (sources : RideSources)
    (rideId bookingEvidenceId : Uuid) (booked : BookedFare) (calculation : FareCalculation)
    (result : PricingStore)
    (chosen : chooseCalculation sources rideId bookingEvidenceId
      (run (pricingStep config) {} calls) = .ok ((booked, some calculation), result)) :
    ∀ other ∈ (run (pricingStep config) {} calls).calculations.rows, other.rideId = rideId →
      other.predecessorCalculationId ≠ some calculation.calculationId :=
  (kept_along along).2 rideId calculation (current_of_chosen chosen)

def chosenId (sources : RideSources) (rideId bookingEvidenceId : Uuid) (store : PricingStore) :
    Option Uuid :=
  match chooseCalculation sources rideId bookingEvidenceId store with
  | .ok ((_, chosen), _) => chosen.map FareCalculation.calculationId
  | .error _ => none

private theorem exists_chosen {id : Uuid}
    (named : chosenId sources rideId bookingEvidenceId store = some id) :
    ∃ booked calculation result, chooseCalculation sources rideId bookingEvidenceId store =
      .ok ((booked, some calculation), result) ∧ calculation.calculationId = id := by
  unfold chosenId at named
  split at named
  · rename_i booked chosen result ran
    obtain ⟨calculation, rfl, identified⟩ := Option.map_eq_some_iff.1 named
    exact ⟨booked, calculation, result, ran, identified⟩
  · cases named

theorem current_fare_corrected_twice :
    ∃ booked calculation result,
      chooseCalculation rideSources 802 805 (run (pricingStep pricingConfig) {} correctedRide) =
          .ok ((booked, some calculation), result) ∧
        calculation.calculationId = 815 ∧
        ∀ other ∈ (run (pricingStep pricingConfig) {} correctedRide).calculations.rows,
          other.rideId = 802 → other.predecessorCalculationId ≠ some calculation.calculationId := by
  have named : chosenId rideSources 802 805 (run (pricingStep pricingConfig) {} correctedRide) =
      some 815 := by decide +kernel
  obtain ⟨booked, calculation, result, success, identified⟩ := exists_chosen named
  exact ⟨booked, calculation, result, success, identified,
    current_fare_along pricingConfig correctedRide (by decide +kernel) rideSources 802 805 booked
      calculation result success⟩

def backdatedRide : List PricingCall :=
  calculatedRide Ayo.Pricing.Engine.formulaVersion ++ [correction 813 814 90]

/-- A ride with a backdated correction settles on the calculation that was corrected. -/
theorem backdated_correction_not_chosen :
    ∃ booked calculation result other,
      chooseCalculation rideSources 802 805 (run (pricingStep pricingConfig) {} backdatedRide) =
          .ok ((booked, some calculation), result) ∧
        other ∈ (run (pricingStep pricingConfig) {} backdatedRide).calculations.rows ∧
        other.rideId = 802 ∧ other.predecessorCalculationId = some calculation.calculationId := by
  have named : chosenId rideSources 802 805 (run (pricingStep pricingConfig) {} backdatedRide) =
      some 813 := by decide +kernel
  obtain ⟨booked, calculation, result, success, identified⟩ := exists_chosen named
  have stored : ((run (pricingStep pricingConfig) {} backdatedRide).calculations.find 814).map
      (fun row => (row.rideId, row.predecessorCalculationId)) = some (802, some 813) := by
    decide +kernel
  obtain ⟨other, found, same⟩ := Option.map_eq_some_iff.1 stored
  obtain ⟨ride, follows⟩ := Prod.mk.inj same
  exact ⟨booked, calculation, result, other, success, Table.mem_of_find found, ride,
    identified ▸ follows⟩

end Ayo.PostTrip.CurrentFare
