/- digest: Credits among drivers of equal pickups, for missed earnings and for idle time. -/

import Ayo.Marketplace.Forecast
import Mathlib.Data.List.Perm.Basic

namespace Ayo.Marketplace.Opportunities

open Kernel.Ordering Core.Values Forecast

structure DriverOpportunity where
  driverId : Uuid
  (completedTrips pickupEtaSeconds eligibleOnlineSeconds idleSeconds offeredEarningsMinor : Nat)

structure OpportunityAdjustment where
  driverId : Uuid
  creditBps : Nat
  neutralReputation : Bool
  reasonCodes : List String
deriving DecidableEq

variable (rules : MarketplaceRuleSet) (opportunities : List DriverOpportunity)

/-- The opportunities whose pickup is about as fast as the fastest one. -/
def comparable : List DriverOpportunity :=
  match (opportunities.map DriverOpportunity.pickupEtaSeconds).min? with
  | none => []
  | some fastest => opportunities.filter fun item =>
      item.pickupEtaSeconds ≤ fastest + rules.opportunityEquivalentEtaSeconds

def byCredit (results : List OpportunityAdjustment) : List OpportunityAdjustment :=
  orderedBy (fun item => toLex (-(item.creditBps : Int), item.driverId)) results

def neutral (item : DriverOpportunity) : Bool :=
  item.completedTrips < rules.neutralDriverCompletedTripThreshold

def hourly (item : DriverOpportunity) : Nat :=
  item.offeredEarningsMinor * 3600 / max item.eligibleOnlineSeconds 1

def median (normalized : List Nat) : Nat :=
  (orderedBy id normalized)[normalized.length / 2]?.getD 0

def earningsCredit (target hourly : Nat) : Nat :=
  if target > 0 then min rules.opportunityMaximumCreditBps ((target - hourly) * 10000 / target)
  else 0

def earningsAdjustment (target : Nat) (item : DriverOpportunity) : OpportunityAdjustment :=
  let credit := earningsCredit rules target (hourly item)
  { driverId := item.driverId, creditBps := credit, neutralReputation := neutral rules item,
    reasonCodes := ["materially_equivalent_pickup"] ++
      (if neutral rules item then ["neutral_new_driver"] else []) ++
      (if credit ≠ 0 then ["bounded_opportunity_credit"] else []) }

def balanceDriverOpportunities : List OpportunityAdjustment :=
  let comparable := comparable rules opportunities
  byCredit (comparable.map (earningsAdjustment rules (median (comparable.map hourly))))

def idleCredit (maximumIdle idle : Nat) : Nat :=
  if maximumIdle ≠ 0 then
    min rules.opportunityMaximumCreditBps (idle * rules.opportunityMaximumCreditBps / maximumIdle)
  else 0

def idleAdjustment (maximumIdle : Nat) (item : DriverOpportunity) : OpportunityAdjustment where
  driverId := item.driverId
  creditBps := idleCredit rules maximumIdle item.idleSeconds
  neutralReputation := neutral rules item
  reasonCodes := ["materially_equivalent_pickup", "bounded_idle_credit"]

def longestIdle : Nat :=
  (opportunities.map DriverOpportunity.idleSeconds).foldr max 0

def balanceDriverIdleTime : List OpportunityAdjustment :=
  let comparable := comparable rules opportunities
  byCredit (comparable.map (idleAdjustment rules (longestIdle comparable)))

def earningsCreditOf (drivers : List DriverOpportunity) (item : DriverOpportunity) : Nat :=
  earningsCredit rules (median (drivers.map hourly)) (hourly item)

def idleCreditOf (drivers : List DriverOpportunity) (item : DriverOpportunity) : Nat :=
  idleCredit rules (longestIdle drivers) item.idleSeconds

/-- The drivers whose pickup is about as fast as every other one. -/
def within : List DriverOpportunity :=
  opportunities.filter fun item => ∀ other ∈ opportunities,
    item.pickupEtaSeconds ≤ other.pickupEtaSeconds + rules.opportunityEquivalentEtaSeconds

/-- A balance of distinct drivers does not read their order, and has one entry for each driver
within reach of the fastest one, with the credit of the driver among them. -/
structure Balances (balance : List DriverOpportunity → List OpportunityAdjustment)
    (credit : List DriverOpportunity → DriverOpportunity → Nat) : Prop where
  orderFree : ∀ opportunities others : List DriverOpportunity, opportunities.Perm others →
    (opportunities.map DriverOpportunity.driverId).Nodup → balance opportunities = balance others
  entries : ∀ opportunities : List DriverOpportunity,
    ((balance opportunities).map fun entry => (entry.driverId, entry.creditBps)).Perm
      ((within rules opportunities).map fun item =>
        (item.driverId, credit (within rules opportunities) item))

/-- A credit is bounded, none for the satisfied, and never less for a driver who is worse off. -/
structure FairCredit (credit : List DriverOpportunity → DriverOpportunity → Nat)
    (satisfied : List DriverOpportunity → DriverOpportunity → Prop)
    (worse : DriverOpportunity → DriverOpportunity → Prop) : Prop where
  bounded : ∀ drivers item, credit drivers item ≤ rules.opportunityMaximumCreditBps
  none : ∀ drivers item, satisfied drivers item → credit drivers item = 0
  ordered : ∀ drivers first second, worse first second →
    credit drivers second ≤ credit drivers first

variable {rules}

theorem comparable_eq : comparable rules opportunities = within rules opportunities := by
  unfold comparable
  cases fastest : (opportunities.map DriverOpportunity.pickupEtaSeconds).min? with
  | none =>
    obtain rfl := List.map_eq_nil_iff.1 (List.min?_eq_none_iff.1 fastest)
    rfl
  | some eta =>
    obtain ⟨mem, least⟩ := List.min?_eq_some_iff.1 fastest
    obtain ⟨quickest, present, rfl⟩ := List.mem_map.1 mem
    refine List.filter_congr fun item _ => decide_eq_decide.2 ⟨fun near other held => ?_, ?_⟩
    · have bound := least _ (List.mem_map_of_mem held)
      omega
    · exact fun near => near quickest present

theorem within_perm {opportunities others : List DriverOpportunity}
    (same : opportunities.Perm others) :
    (within rules opportunities).Perm (within rules others) := by
  unfold within
  simp only [same.mem_iff]
  exact same.filter _

theorem median_perm {first second : List Nat} (same : first.Perm second) :
    median first = median second := by
  have sorted : orderedBy id first = orderedBy id second :=
    orderedBy_congr_perm same fun _ _ _ _ key => key
  rw [median, median, sorted, same.length_eq]

theorem longestIdle_perm {first second : List DriverOpportunity} (same : first.Perm second) :
    longestIdle first = longestIdle second :=
  (same.map _).foldr_eq 0

theorem balances_of (adjust : List DriverOpportunity → DriverOpportunity → OpportunityAdjustment)
    (named : ∀ drivers item, (adjust drivers item).driverId = item.driverId)
    (arranged : ∀ drivers others : List DriverOpportunity, drivers.Perm others →
      adjust drivers = adjust others) :
    Balances rules (fun opportunities => byCredit ((comparable rules opportunities).map
        (adjust (comparable rules opportunities))))
      fun drivers item => (adjust drivers item).creditBps where
  orderFree opportunities others same distinct := by
    have reach : (within rules opportunities).Perm (within rules others) := within_perm same
    simp only [comparable_eq, arranged _ _ reach]
    refine orderedBy_congr_perm (reach.map _) (List.inj_on_of_nodup_map ?_)
    rw [List.map_map]
    have ids : (((within rules others).map DriverOpportunity.driverId)).Nodup :=
      ((same.map _).nodup_iff.1 distinct).sublist (List.filter_sublist.map _)
    refine List.pairwise_map.2 ((List.pairwise_map.1 ids).imp fun apart key => apart ?_)
    simp only [Function.comp, EmbeddingLike.apply_eq_iff_eq, Prod.mk.injEq, named] at key
    exact key.2
  entries opportunities := by
    simp only [comparable_eq]
    refine ((List.perm_insertionSort _ _).map _).trans ?_
    rw [List.map_map]
    refine List.Perm.of_eq (List.map_congr_left fun item _ => ?_)
    simp [named]

theorem earningsCredit_fair : FairCredit rules (earningsCreditOf rules)
    (fun drivers item => median (drivers.map hourly) ≤ hourly item)
    (fun first second => hourly first ≤ hourly second) where
  bounded drivers item := by
    unfold earningsCreditOf earningsCredit
    split_ifs
    · exact Nat.min_le_left _ _
    · exact Nat.zero_le _
  none drivers item enough := by
    unfold earningsCreditOf earningsCredit
    rw [Nat.sub_eq_zero_of_le enough]
    simp
  ordered drivers first second less := by
    unfold earningsCreditOf earningsCredit
    split_ifs
    · have deficit := Nat.mul_le_mul_right 10000
        (Nat.sub_le_sub_left less (median (drivers.map hourly)))
      exact min_le_min_left _ (Nat.div_le_div_right deficit)
    · exact le_rfl

theorem idleCredit_fair : FairCredit rules (idleCreditOf rules)
    (fun _ item => item.idleSeconds = 0)
    (fun first second => second.idleSeconds ≤ first.idleSeconds) where
  bounded drivers item := by
    unfold idleCreditOf idleCredit
    split_ifs
    · exact Nat.min_le_left _ _
    · exact Nat.zero_le _
  none drivers item rested := by
    unfold idleCreditOf idleCredit
    simp [rested]
  ordered drivers first second less := by
    unfold idleCreditOf idleCredit
    split_ifs
    · exact min_le_min_left _ (Nat.div_le_div_right (Nat.mul_le_mul_right _ less))
    · exact le_rfl

/-- Both adjustments depend only on the set of comparable opportunities, and their credits are
bounded, none for the satisfied and never less for a driver who is worse off. -/
theorem opportunities_balanced (rules : MarketplaceRuleSet) :
    (Balances rules (balanceDriverOpportunities rules) (earningsCreditOf rules) ∧
      FairCredit rules (earningsCreditOf rules)
        (fun drivers item => median (drivers.map hourly) ≤ hourly item)
        (fun first second => hourly first ≤ hourly second)) ∧
    (Balances rules (balanceDriverIdleTime rules) (idleCreditOf rules) ∧
      FairCredit rules (idleCreditOf rules) (fun _ item => item.idleSeconds = 0)
        (fun first second => second.idleSeconds ≤ first.idleSeconds) ∧
      ∀ drivers item, 0 < item.idleSeconds → longestIdle drivers = item.idleSeconds →
        idleCreditOf rules drivers item = rules.opportunityMaximumCreditBps) := by
  refine ⟨⟨?_, earningsCredit_fair⟩, ?_, idleCredit_fair, fun drivers item idle => ?_⟩
  · refine balances_of (fun drivers => earningsAdjustment rules (median (drivers.map hourly)))
      (fun _ _ => rfl) fun _ _ same => ?_
    rw [median_perm (same.map hourly)]
  · refine balances_of (fun drivers => idleAdjustment rules (longestIdle drivers))
      (fun _ _ => rfl) fun _ _ same => ?_
    rw [longestIdle_perm same]
  · intro longest
    unfold idleCreditOf idleCredit
    rw [longest, if_pos idle.ne', Nat.mul_div_cancel_left _ idle, Nat.min_self]

/-- Where nobody has been idle, the longest idle time earns no credit. -/
theorem longest_idle_uncredited :
    ¬ ∀ (rules : MarketplaceRuleSet) (opportunities : List DriverOpportunity),
      (opportunities.map DriverOpportunity.driverId).Nodup →
      ∀ item ∈ within rules opportunities, (∀ other ∈ within rules opportunities,
        other.idleSeconds ≤ item.idleSeconds) →
      ∀ entry ∈ balanceDriverIdleTime rules opportunities, entry.driverId = item.driverId →
        entry.creditBps = rules.opportunityMaximumCreditBps := by
  intro claimed
  have full := claimed {} [⟨1, 0, 60, 0, 0, 0⟩] (by decide) ⟨1, 0, 60, 0, 0, 0⟩ (by simp [within])
    (by simp [within])
  have entry : (idleAdjustment {} 0 ⟨1, 0, 60, 0, 0, 0⟩) ∈
      balanceDriverIdleTime {} [⟨1, 0, 60, 0, 0, 0⟩] := by decide
  exact absurd (full _ entry rfl) (by decide)

end Ayo.Marketplace.Opportunities
