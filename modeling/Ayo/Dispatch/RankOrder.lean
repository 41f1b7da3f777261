/- digest: Both rankings of drivers are free of the input order and reward shorter pickups. -/

import Ayo.Dispatch.Scoring
import Ayo.Handoff.Models

namespace Ayo.Dispatch.RankOrder

open Kernel.Ordering Core.Values
open Models (DispatchPolicy DispatchRide DispatchScore DriverCandidate)
open Scoring
open Handoff.Models (EligibleDriverInput Suitable effectiveCost rankCandidates rankKey)

section

variable {ride : DispatchRide} {policy : DispatchPolicy} {now : Instant}
  {eligible : List DriverCandidate}

def scoreKey (score : DispatchScore) : Int ×ₗ Int ×ₗ Uuid :=
  toLex (score.effectiveEtaSeconds, toLex (score.pickupEtaSeconds, score.driverId))

def InReach (policy : DispatchPolicy) (eligible : List DriverCandidate)
    (candidate : DriverCandidate) : Prop :=
  ∀ other ∈ eligible, candidate.pickupEtaSeconds.1 ≤
    other.pickupEtaSeconds.1 + policy.maximumFairnessEtaTradeoffSeconds.1
deriving Decidable

def scored (policy : DispatchPolicy) (eligible : List DriverCandidate) : List DispatchScore :=
  (eligible.filter fun candidate => InReach policy eligible candidate).map (scoreOf policy)

theorem scoreCandidates_eq (candidates : List DriverCandidate) :
    scoreCandidates ride policy now candidates =
      orderedBy scoreKey (scored policy (eligibleCandidates ride policy now candidates)) := by
  generalize listed : eligibleCandidates ride policy now candidates = eligible
  cases fastest : (eligible.map fun item => item.pickupEtaSeconds.1).min? with
  | none =>
    obtain rfl : eligible = [] := List.map_eq_nil_iff.1 (List.min?_eq_none_iff.1 fastest)
    simp only [scoreCandidates, listed, fastest]
    rfl
  | some eta =>
    obtain ⟨mem, least⟩ := List.min?_eq_some_iff.1 fastest
    obtain ⟨quickest, present, same⟩ := List.mem_map.1 mem
    simp only [scoreCandidates, listed, fastest, scored]
    congr 2
    refine List.filter_congr fun candidate _ => decide_eq_decide.2 ⟨fun near other held => ?_, ?_⟩
    · have bound := least _ (List.mem_map_of_mem held)
      omega
    · intro near
      rw [← same]
      exact near quickest present

theorem scored_perm {others : List DriverCandidate} (same : eligible.Perm others) :
    (scored policy eligible).Perm (scored policy others) := by
  have reach : ∀ candidate, InReach policy eligible candidate ↔ InReach policy others candidate :=
    fun candidate => forall_congr' fun other => by rw [same.mem_iff]
  refine List.Perm.map _ ?_
  simp only [reach]
  exact same.filter _

theorem scoreKey_names (a b : DispatchScore) (same : scoreKey a = scoreKey b) :
    a.driverId = b.driverId := by
  simp only [scoreKey, EmbeddingLike.apply_eq_iff_eq, Prod.mk.injEq] at same
  exact same.2.2

theorem scored_nodup (distinct : (eligible.map DriverCandidate.driverId).Nodup) :
    ((scored policy eligible).map DispatchScore.driverId).Nodup := by
  unfold scored
  rw [List.map_map]
  exact distinct.sublist (List.filter_sublist.map _)

theorem scored_split {front back : List DriverCandidate} {item : DriverCandidate}
    (near : InReach policy (front ++ item :: back) item) :
    scored policy (front ++ item :: back) =
      (front.filter fun other => InReach policy (front ++ item :: back) other).map
          (scoreOf policy) ++ scoreOf policy item ::
        (back.filter fun other => InReach policy (front ++ item :: back) other).map
          (scoreOf policy) := by
  simp only [scored, List.filter_append, List.filter_cons, near, decide_true, if_true,
    List.map_append, List.map_cons]

section

variable {front back : List DriverCandidate} {item other : DriverCandidate}
  {eta : Models.Between 0 14400} (sooner : eta.1 ≤ item.pickupEtaSeconds.1)

include sooner in
theorem reach_of_sooner
    (near : decide (InReach policy (front ++ { item with pickupEtaSeconds := eta } :: back) other)
      = true) : decide (InReach policy (front ++ item :: back) other) = true := by
  refine decide_eq_true fun rival mem => ?_
  have reach := of_decide_eq_true near
  rcases List.mem_append.1 mem with ahead | behind
  · exact reach rival (List.mem_append_left _ ahead)
  · rcases List.mem_cons.1 behind with rfl | later
    · have bound := reach { rival with pickupEtaSeconds := eta } (by simp)
      simp only at bound
      omega
    · exact reach rival (by simp [later])

include sooner in
theorem InReach.of_sooner (near : InReach policy (front ++ item :: back) item) :
    InReach policy (front ++ { item with pickupEtaSeconds := eta } :: back)
      { item with pickupEtaSeconds := eta } := by
  intro rival mem
  rcases List.mem_append.1 mem with ahead | behind
  · exact sooner.trans (near rival (List.mem_append_left _ ahead))
  · rcases List.mem_cons.1 behind with rfl | later
    · have positive := policy.maximumFairnessEtaTradeoffSeconds.2.1
      simp only
      omega
    · exact sooner.trans (near rival (by simp [later]))

end

theorem scoreKey_falls {candidate : DriverCandidate} {eta : Models.Between 0 14400}
    (sooner : eta.1 ≤ candidate.pickupEtaSeconds.1) :
    scoreKey (scoreOf policy { candidate with pickupEtaSeconds := eta }) ≤
      scoreKey (scoreOf policy candidate) := by
  have effective : (scoreOf policy { candidate with pickupEtaSeconds := eta }).effectiveEtaSeconds ≤
      (scoreOf policy candidate).effectiveEtaSeconds :=
    max_le_max_left 0 (Int.sub_le_sub_right (Int.add_le_add_right sooner _) _)
  exact Prod.Lex.toLex_mono ⟨effective, Prod.Lex.toLex_mono ⟨sooner, Nat.le_refl _⟩⟩

end

theorem rankKey_names (a b : EligibleDriverInput) (same : rankKey a = rankKey b) :
    a.driverId = b.driverId := by
  simp only [rankKey, EmbeddingLike.apply_eq_iff_eq, Prod.mk.injEq] at same
  exact same.2.2.2

theorem rankKey_falls {item : EligibleDriverInput} {cost : Nat}
    (sooner : cost ≤ item.pickupCostSeconds) :
    rankKey { item with pickupCostSeconds := cost } ≤ rankKey item := by
  have effective : effectiveCost { item with pickupCostSeconds := cost } ≤ effectiveCost item := by
    simp only [effectiveCost]
    omega
  exact Prod.Lex.toLex_mono ⟨effective, Prod.Lex.toLex_mono ⟨sooner, le_refl _⟩⟩

/-- A ranking of distinct drivers does not read the order of its candidates, and a ranked driver
for whom `sooner` lowers the pickup time stays ranked and moves no further back. -/
structure FairRanking {ρ σ : Type} (driverId : ρ → Uuid) (fits : List ρ → Prop)
    (rank : List ρ → List σ) (rankedId : σ → Uuid) (sooner : ρ → ρ → Prop) : Prop where
  orderFree : ∀ candidates others : List ρ, candidates.Perm others →
    (candidates.map driverId).Nodup → fits candidates → rank candidates = rank others
  rewards : ∀ (front back : List ρ) (item moved : ρ), sooner item moved →
    ((front ++ item :: back).map driverId).Nodup → fits (front ++ item :: back) →
    driverId item ∈ (rank (front ++ item :: back)).map rankedId →
    driverId item ∈ (rank (front ++ moved :: back)).map rankedId ∧
      ((rank (front ++ moved :: back)).map rankedId).idxOf (driverId item) ≤
        ((rank (front ++ item :: back)).map rankedId).idxOf (driverId item)

def Sooner (item moved : DriverCandidate) : Prop :=
  ∃ eta : Models.Between 0 14400, eta.1 ≤ item.pickupEtaSeconds.1 ∧
    moved = { item with pickupEtaSeconds := eta }

def Cheaper (item moved : EligibleDriverInput) : Prop :=
  ∃ cost, cost ≤ item.pickupCostSeconds ∧ moved = { item with pickupCostSeconds := cost }

def WithinMaximum (policy : DispatchPolicy) (candidates : List DriverCandidate) : Prop :=
  (candidates.length : Int) ≤ policy.maximumCandidates.1

variable {ride : DispatchRide} {now : Instant}

theorem eligibleCandidates_eq {policy : DispatchPolicy}
    {candidates : List DriverCandidate} (few : WithinMaximum policy candidates) :
    eligibleCandidates ride policy now candidates =
      candidates.filter fun candidate => !passedBy ride policy now candidate := by
  unfold WithinMaximum at few
  unfold eligibleCandidates
  rw [List.take_of_length_le (by omega)]

theorem scoreCandidates_fair {policy : DispatchPolicy} :
    FairRanking DriverCandidate.driverId (WithinMaximum policy) (scoreCandidates ride policy now)
      DispatchScore.driverId Sooner where
  orderFree candidates others same distinct few := by
    have fewOthers : WithinMaximum policy others := by
      unfold WithinMaximum at few ⊢
      rwa [← same.length_eq]
    simp only [scoreCandidates_eq, eligibleCandidates_eq few, eligibleCandidates_eq fewOthers]
    refine orderedBy_congr_perm (scored_perm (same.filter _)) (List.inj_on_of_nodup_map ?_)
    refine nodup_keys scoreKey_names ?_
    exact scored_nodup (((same.map _).nodup_iff.1 distinct).sublist (List.filter_sublist.map _))
  rewards := by
    rintro front back item _ ⟨eta, sooner, rfl⟩ distinct few ranked
    have fewSooner : WithinMaximum policy (front ++ { item with pickupEtaSeconds := eta } :: back) :=
      by simpa [WithinMaximum] using few
    rw [scoreCandidates_eq, eligibleCandidates_eq few] at ranked
    simp only [scoreCandidates_eq, eligibleCandidates_eq few, eligibleCandidates_eq fewSooner]
    obtain ⟨score, held, same⟩ := List.mem_map.1 ranked
    obtain ⟨other, kept, rfl⟩ := List.mem_map.1 (mem_orderedBy.1 held)
    obtain ⟨eligible, near⟩ := List.mem_filter.1 kept
    obtain ⟨mem, passes⟩ := List.mem_filter.1 eligible
    obtain rfl : other = item := List.inj_on_of_nodup_map distinct mem (by simp) same
    have near := of_decide_eq_true near
    have stays : (!passedBy ride policy now { other with pickupEtaSeconds := eta }) = true := passes
    simp only [List.filter_append, List.filter_cons, passes, stays, if_true] at near ⊢
    rw [scored_split near, scored_split (near.of_sooner sooner)]
    refine placed_no_further_back scoreKey_names ?_ (scoreKey_falls sooner) ?_ ?_ ?_
    · rfl
    · exact (List.monotone_filter_right _ fun _ => reach_of_sooner sooner).map _
    · exact (List.monotone_filter_right _ fun _ => reach_of_sooner sooner).map _
    · rw [← scored_split near]
      refine scored_nodup (distinct.sublist (List.Sublist.map _ ?_))
      exact List.filter_sublist.append (List.filter_sublist.cons_cons other)

theorem rankCandidates_fair {maximumAgeSeconds : Int} :
    FairRanking EligibleDriverInput.driverId (fun _ => True)
      (rankCandidates · now maximumAgeSeconds) EligibleDriverInput.driverId Cheaper where
  orderFree candidates others same distinct _ := by
    refine orderedBy_congr_perm (same.filter _) (List.inj_on_of_nodup_map ?_)
    refine nodup_keys rankKey_names ?_
    exact ((same.map _).nodup_iff.1 distinct).sublist (List.filter_sublist.map _)
  rewards := by
    rintro front back item _ ⟨cost, cheaper, rfl⟩ distinct _ ranked
    obtain ⟨other, held, same⟩ := List.mem_map.1 ranked
    obtain ⟨mem, suits⟩ := List.mem_filter.1 (mem_orderedBy.1 held)
    obtain rfl : other = item := List.inj_on_of_nodup_map distinct mem (by simp) same
    have stays : decide (Suitable now maximumAgeSeconds { other with pickupCostSeconds := cost }) =
        true := suits
    simp only [rankCandidates, List.filter_append, List.filter_cons, suits, stays, if_true]
    refine placed_no_further_back rankKey_names rfl (rankKey_falls cheaper) (.refl _) (.refl _) ?_
    refine distinct.sublist (List.Sublist.map _ ?_)
    exact List.filter_sublist.append (List.filter_sublist.cons_cons other)

/-- Both rankings of drivers are free of the input order and reward shorter pickups. -/
theorem rankings_fair (ride : DispatchRide) (policy : DispatchPolicy) (now : Instant)
    (maximumAgeSeconds : Int) :
    FairRanking DriverCandidate.driverId (WithinMaximum policy) (scoreCandidates ride policy now)
        DispatchScore.driverId Sooner ∧
      FairRanking EligibleDriverInput.driverId (fun _ => True)
        (rankCandidates · now maximumAgeSeconds) EligibleDriverInput.driverId Cheaper :=
  ⟨scoreCandidates_fair, rankCandidates_fair⟩

end Ayo.Dispatch.RankOrder
