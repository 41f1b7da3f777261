/- digest: The waiting policy of a context is the one match of the highest rank. -/

import Ayo.ArrivalWaiting.Engine

namespace Ayo.ArrivalWaiting.PolicyChoice

open Kernel.Ordering Kernel.Validation Core.Values Models Engine

section

variable (policy : WaitingPolicyDefinition) (context : WaitingPolicyContext) (now : Instant)

def Agrees {α : Type} (expected : Option α) (actual : α) : Prop := ∀ value ∈ expected, value = actual

structure Matches : Prop where
  city : policy.cityCode = context.cityCode
  begun : policy.effectiveFrom ≤ now
  lasting : ∀ ending ∈ policy.effectiveUntil, now < ending
  origin : Agrees policy.rideOrigin context.rideOrigin
  pickup : Agrees policy.pickupContext context.pickupContext
  service : Agrees policy.serviceContext context.serviceContext
  assisted : Agrees policy.assisted context.assisted
  accommodation : Agrees policy.accessibilityAccommodation context.accessibilityAccommodation
  weather : Agrees policy.severeWeather context.severeWeather
  override : Agrees (policy.operationalOverrideCode.map some) context.operationalOverrideCode

def dimensionCount : Nat :=
  1 + policy.rideOrigin.isSome.toNat + policy.pickupContext.isSome.toNat +
    policy.serviceContext.isSome.toNat + policy.assisted.isSome.toNat +
    policy.accessibilityAccommodation.isSome.toNat + policy.severeWeather.isSome.toNat +
    policy.operationalOverrideCode.isSome.toNat

/-- A policy of fewer dimensions, or of as many with a lower priority. -/
def Below (first second : WaitingPolicyDefinition) : Prop :=
  dimensionCount first < dimensionCount second ∨
    (dimensionCount first = dimensionCount second ∧ first.priority.1 < second.priority.1)

/-- One of the policies matches, and every other one that matches is below it. -/
structure Wins (policies : List WaitingPolicyDefinition) : Prop where
  listed : policy ∈ policies
  matching : Matches policy context now
  above : ∀ other ∈ policies.erase policy, Matches other context now → Below other policy

def snapshotOf (snapshotId rideId : Uuid) : WaitingPolicySnapshot where
  snapshotId
  rideId
  sourcePolicyId := policy.policyId
  sourcePolicyVersion := policy.version
  context
  matchedDimensions := (matchedDimensions policy context now).getD []
  selectedAt := now
  freeWaitSeconds := policy.freeWaitSeconds.1
  endingWarningSeconds := policy.endingWarningSeconds.1
  departureBehavior := policy.departureBehavior
  pauseOnInsufficientQuality := policy.pauseOnInsufficientQuality
  maximumLocationAgeSeconds := policy.maximumLocationAgeSeconds.1
  minimumLocationConfidenceBps := policy.minimumLocationConfidenceBps.1
  reasonableNotificationRequired := policy.reasonableNotificationRequired

end

section

variable {policy : WaitingPolicyDefinition} {context : WaitingPolicyContext} {now : Instant}

theorem selector_agrees {α : Type} [DecidableEq α] {expected : Option α} {actual : α} :
    (expected.map fun value => decide (value = actual)) ≠ some false ↔ Agrees expected actual := by
  cases expected <;> simp [Agrees]

theorem matches_iff : (matchedDimensions policy context now).isSome = true ↔
    Matches policy context now := by
  have agreeing : (¬ ∃ selector ∈ selectors policy context, selector.2 = some false) ↔
      Agrees policy.rideOrigin context.rideOrigin ∧
        Agrees policy.pickupContext context.pickupContext ∧
        Agrees policy.serviceContext context.serviceContext ∧
        Agrees policy.assisted context.assisted ∧
        Agrees policy.accessibilityAccommodation context.accessibilityAccommodation ∧
        Agrees policy.severeWeather context.severeWeather ∧
        Agrees (policy.operationalOverrideCode.map some) context.operationalOverrideCode := by
    simp only [← selector_agrees, Option.map_map]
    simp [selectors, Function.comp_def]
  unfold matchedDimensions
  constructor
  · intro found
    by_cases apart : policy.cityCode ≠ context.cityCode ∨ now < policy.effectiveFrom
    · rw [if_pos apart] at found
      exact absurd found (by simp)
    by_cases ended : ∃ ending ∈ policy.effectiveUntil, ending ≤ now
    · rw [if_neg apart, if_pos ended] at found
      exact absurd found (by simp)
    by_cases differs : ∃ selector ∈ selectors policy context, selector.2 = some false
    · rw [if_neg apart, if_neg ended, if_pos differs] at found
      exact absurd found (by simp)
    obtain ⟨origin, pickup, service, assisted, accommodation, weather, override⟩ :=
      agreeing.1 differs
    simp only [not_or, not_not, Int.not_lt] at apart
    refine ⟨apart.1, apart.2, ?_, origin, pickup, service, assisted, accommodation, weather,
      override⟩
    intro ending set
    by_contra late
    exact ended ⟨ending, set, Int.not_lt.1 late⟩
  · rintro ⟨city, begun, lasting, origin, pickup, service, assisted, accommodation, weather,
      override⟩
    have inForce : ¬ (policy.cityCode ≠ context.cityCode ∨ now < policy.effectiveFrom) := by
      simp only [not_or, not_not, Int.not_lt]
      exact ⟨city, begun⟩
    have unended : ¬ ∃ ending ∈ policy.effectiveUntil, ending ≤ now := by
      rintro ⟨ending, set, late⟩
      exact absurd (lasting ending set) (Int.not_lt.2 late)
    rw [if_neg inForce, if_neg unended, if_neg (agreeing.2 ⟨origin, pickup, service, assisted,
      accommodation, weather, override⟩)]
    rfl

theorem length_of_matched {dimensions : List String}
    (found : matchedDimensions policy context now = some dimensions) :
    dimensions.length = dimensionCount policy := by
  unfold matchedDimensions at found
  split_ifs at found
  obtain rfl := Option.some.inj found
  rw [List.length_cons, List.length_map]
  unfold selectors dimensionCount
  cases policy.rideOrigin <;> cases policy.pickupContext <;> cases policy.serviceContext <;>
  cases policy.assisted <;> cases policy.accessibilityAccommodation <;>
  cases policy.severeWeather <;> cases policy.operationalOverrideCode <;> rfl

end

section

variable {context : WaitingPolicyContext} {now : Instant} {policies : List WaitingPolicyDefinition}
  {second : WaitingPolicyDefinition × List String} {policy : WaitingPolicyDefinition}
  {dimensions : List String}

def candidates (policies : List WaitingPolicyDefinition) (context : WaitingPolicyContext)
    (now : Instant) : List (WaitingPolicyDefinition × List String) :=
  policies.filterMap fun policy =>
    (matchedDimensions policy context now).map fun dimensions => (policy, dimensions)

theorem mem_candidates {candidate : WaitingPolicyDefinition × List String} :
    candidate ∈ candidates policies context now ↔
      candidate.1 ∈ policies ∧ matchedDimensions candidate.1 context now = some candidate.2 := by
  obtain ⟨policy, dimensions⟩ := candidate
  unfold candidates
  rw [List.mem_filterMap]
  constructor
  · rintro ⟨listed, mem, found⟩
    obtain ⟨held, matched, same⟩ := Option.map_eq_some_iff.1 found
    obtain ⟨rfl, rfl⟩ := Prod.mk.inj same
    exact ⟨mem, matched⟩
  · rintro ⟨mem, matched⟩
    exact ⟨policy, mem, by rw [matched]; rfl⟩

theorem rank_lt_iff {first : WaitingPolicyDefinition × List String}
    (firstMatched : matchedDimensions first.1 context now = some first.2)
    (secondMatched : matchedDimensions second.1 context now = some second.2) :
    rank first < rank second ↔ Below second.1 first.1 := by
  unfold rank Below
  rw [OrderDual.toDual_lt_toDual, Prod.Lex.toLex_lt_toLex, length_of_matched firstMatched,
    length_of_matched secondMatched]

theorem candidates_perm (listed : policy ∈ policies)
    (matched : matchedDimensions policy context now = some dimensions) :
    (candidates policies context now).Perm
      ((policy, dimensions) :: candidates (policies.erase policy) context now) := by
  have permuted := (List.perm_cons_erase listed).filterMap fun policy =>
    (matchedDimensions policy context now).map fun dimensions => (policy, dimensions)
  rw [List.filterMap_cons, matched] at permuted
  exact permuted

variable {snapshotId rideId : Uuid} {policies permuted : List WaitingPolicyDefinition}
  {winner : WaitingPolicyDefinition × List String}
  {others : List (WaitingPolicyDefinition × List String)}

theorem resolved_of_nil (ranking : rankedPolicies context policies now = []) :
    resolveWaitingPolicy snapshotId rideId context policies now =
      .error (.conflict "waiting_policy_unavailable") := by
  unfold resolveWaitingPolicy
  rw [ranking]
  rfl

theorem resolved_of_tie {rest : List (WaitingPolicyDefinition × List String)}
    (ranking : rankedPolicies context policies now = winner :: second :: rest)
    (tied : rank second = rank winner) :
    resolveWaitingPolicy snapshotId rideId context policies now =
      .error (.conflict "waiting_policy_ambiguous") := by
  have unequal : ¬ ∀ other ∈ (second :: rest).head?, rank other ≠ rank winner := by
    intro apart
    exact apart second rfl tied
  have refused : ensure (∀ other ∈ (second :: rest).head?, rank other ≠ rank winner)
      (Failure.conflict "waiting_policy_ambiguous") = .error _ := if_neg unequal
  unfold resolveWaitingPolicy
  rw [ranking]
  change (ensure (∀ other ∈ (second :: rest).head?, rank other ≠ rank winner)
    (Failure.conflict "waiting_policy_ambiguous") >>= _) = _
  rw [refused]
  rfl

theorem resolved_of_apart (ranking : rankedPolicies context policies now = winner :: others)
    (apart : ∀ second ∈ others.head?, rank second ≠ rank winner) :
    resolveWaitingPolicy snapshotId rideId context policies now =
      .ok (snapshotOf winner.1 context now snapshotId rideId) := by
  have mem : winner ∈ rankedPolicies context policies now := by
    rw [ranking]
    exact List.mem_cons_self
  have matched := (mem_candidates.1 (mem_orderedBy.1 mem)).2
  have allowed : ensure (∀ second ∈ others.head?, rank second ≠ rank winner)
      (Failure.conflict "waiting_policy_ambiguous") = .ok () := if_pos apart
  unfold resolveWaitingPolicy snapshotOf
  rw [ranking, matched]
  change (ensure (∀ second ∈ others.head?, rank second ≠ rank winner)
    (Failure.conflict "waiting_policy_ambiguous") >>= _) = _
  rw [allowed]
  rfl

theorem ranked_of_wins (wins : Wins policy context now policies) : ∃ dimensions others,
      rankedPolicies context policies now = (policy, dimensions) :: others ∧
        ∀ second ∈ others.head?, rank second ≠ rank (policy, dimensions) := by
  obtain ⟨listed, matching, above⟩ := wins
  obtain ⟨dimensions, matched⟩ := Option.isSome_iff_exists.1 (matches_iff.2 matching)
  have exceeds : ∀ other ∈ candidates (policies.erase policy) context now,
      rank (policy, dimensions) < rank other := by
    intro other mem
    obtain ⟨remaining, found⟩ := mem_candidates.1 mem
    have suits : Matches other.1 context now := matches_iff.1 (by rw [found]; rfl)
    exact (rank_lt_iff matched found).2 (above other.1 remaining suits)
  obtain ⟨others, ranked, same⟩ := orderedBy_of_least (candidates_perm listed matched) exceeds
  refine ⟨dimensions, others, ranked, ?_⟩
  intro second first
  have mem := same.mem_iff.1 (List.mem_of_mem_head? first)
  exact (ne_of_lt (exceeds second mem)).symm

theorem wins_of_ranked
    (ranking : rankedPolicies context policies now = (policy, dimensions) :: others)
    (apart : ∀ second ∈ others.head?, rank second ≠ rank (policy, dimensions)) :
    Wins policy context now policies := by
  have sorted : (rankedPolicies context policies now).Pairwise fun a b => rank a ≤ rank b :=
    pairwise_orderedBy _ _
  have permuted : (rankedPolicies context policies now).Perm (candidates policies context now) :=
    List.perm_insertionSort _ _
  rw [ranking] at sorted permuted
  obtain ⟨listed, matched⟩ := mem_candidates.1 (permuted.mem_iff.1 List.mem_cons_self)
  have remaining : others.Perm (candidates (policies.erase policy) context now) :=
    (permuted.trans (candidates_perm listed matched)).cons_inv
  -- The second policy is no tie, and all later ones rank no higher than it.
  have exceeds : ∀ other ∈ others, rank (policy, dimensions) < rank other := by
    intro other mem
    cases others with
    | nil => exact absurd mem List.not_mem_nil
    | cons second rest =>
      have first : rank (policy, dimensions) ≤ rank second :=
        (List.pairwise_cons.1 sorted).1 second List.mem_cons_self
      have less : rank (policy, dimensions) < rank second :=
        lt_of_le_of_ne first (apart second rfl).symm
      rcases List.mem_cons.1 mem with rfl | later
      · exact less
      · have sortedRest := (List.pairwise_cons.1 sorted).2
        exact less.trans_le ((List.pairwise_cons.1 sortedRest).1 other later)
  refine ⟨listed, matches_iff.1 (by rw [matched]; rfl), ?_⟩
  intro other mem suits
  obtain ⟨found, present⟩ := Option.isSome_iff_exists.1 (matches_iff.2 suits)
  have candidate : (other, found) ∈ candidates (policies.erase policy) context now :=
    mem_candidates.2 ⟨mem, present⟩
  have less : rank (policy, dimensions) < rank (other, found) :=
    exceeds (other, found) (remaining.mem_iff.2 candidate)
  have ordered : rank (policy, dimensions) < rank (other, found) ↔ Below other policy :=
    rank_lt_iff matched present
  exact ordered.1 less

theorem ranking_cases (policies : List WaitingPolicyDefinition) (context : WaitingPolicyContext)
    (now : Instant) : rankedPolicies context policies now = [] ∨
    (∃ winner others, rankedPolicies context policies now = winner :: others ∧
      ∀ second ∈ others.head?, rank second ≠ rank winner) ∨
    ∃ winner second rest, rankedPolicies context policies now = winner :: second :: rest ∧
      rank second = rank winner := by
  cases ranking : rankedPolicies context policies now with
  | nil => exact .inl rfl
  | cons winner others =>
    cases others with
    | nil => exact .inr (.inl ⟨winner, [], rfl, by simp⟩)
    | cons second rest =>
      by_cases tied : rank second = rank winner
      · exact .inr (.inr ⟨winner, second, rest, rfl, tied⟩)
      · refine .inr (.inl ⟨winner, second :: rest, rfl, ?_⟩)
        intro other first
        obtain rfl := Option.some.inj first
        exact tied

theorem resolved_iff {snapshot : WaitingPolicySnapshot} :
    resolveWaitingPolicy snapshotId rideId context policies now = .ok snapshot ↔
      ∃ policy, Wins policy context now policies ∧
        snapshot = snapshotOf policy context now snapshotId rideId := by
  constructor
  · intro resolved
    rcases ranking_cases policies context now with
      empty | ⟨winner, others, ranking, apart⟩ | ⟨winner, second, rest, ranking, tied⟩
    · rw [resolved_of_nil empty] at resolved
      exact absurd resolved (by simp)
    · rw [resolved_of_apart ranking apart] at resolved
      exact ⟨winner.1, wins_of_ranked ranking apart, (Except.ok.inj resolved).symm⟩
    · rw [resolved_of_tie ranking tied] at resolved
      exact absurd resolved (by simp)
  · rintro ⟨policy, wins, rfl⟩
    obtain ⟨dimensions, others, ranking, apart⟩ := ranked_of_wins wins
    exact resolved_of_apart ranking apart

theorem ranked_eq_nil_iff : rankedPolicies context policies now = [] ↔
    ∀ policy ∈ policies, ¬ Matches policy context now := by
  constructor
  · intro ranking policy listed matching
    obtain ⟨dimensions, matched⟩ := Option.isSome_iff_exists.1 (matches_iff.2 matching)
    have candidate : (policy, dimensions) ∈ candidates policies context now :=
      mem_candidates.2 ⟨listed, matched⟩
    have mem : (policy, dimensions) ∈ rankedPolicies context policies now :=
      mem_orderedBy.2 candidate
    rw [ranking] at mem
    exact absurd mem List.not_mem_nil
  · intro unmatched
    rw [List.eq_nil_iff_forall_not_mem]
    intro candidate mem
    obtain ⟨listed, matched⟩ := mem_candidates.1 (mem_orderedBy.1 mem)
    exact unmatched candidate.1 listed (matches_iff.1 (by rw [matched]; rfl))

theorem unavailable_iff : resolveWaitingPolicy snapshotId rideId context policies now =
      .error (.conflict "waiting_policy_unavailable") ↔
    ∀ policy ∈ policies, ¬ Matches policy context now := by
  rw [← ranked_eq_nil_iff]
  constructor
  · intro refused
    rcases ranking_cases policies context now with
      empty | ⟨winner, others, ranking, apart⟩ | ⟨winner, second, rest, ranking, tied⟩
    · exact empty
    · rw [resolved_of_apart ranking apart] at refused
      exact absurd refused (by simp)
    · rw [resolved_of_tie ranking tied] at refused
      exact absurd refused (by simp)
  · exact resolved_of_nil

theorem ambiguous_iff : resolveWaitingPolicy snapshotId rideId context policies now =
      .error (.conflict "waiting_policy_ambiguous") ↔
    (∃ policy ∈ policies, Matches policy context now) ∧
      ¬ ∃ policy, Wins policy context now policies := by
  have some_of_ranked {winner : WaitingPolicyDefinition × List String}
      {others : List (WaitingPolicyDefinition × List String)}
      (ranking : rankedPolicies context policies now = winner :: others) :
      ∃ policy ∈ policies, Matches policy context now := by
    by_contra unmatched
    have empty : rankedPolicies context policies now = [] := by
      refine ranked_eq_nil_iff.2 ?_
      intro policy listed matching
      exact unmatched ⟨policy, listed, matching⟩
    rw [empty] at ranking
    exact absurd ranking (by simp)
  rcases ranking_cases policies context now with
    empty | ⟨winner, others, ranking, apart⟩ | ⟨winner, second, rest, ranking, tied⟩
  · have unmatched := ranked_eq_nil_iff.1 empty
    rw [resolved_of_nil empty]
    constructor
    · intro same
      exact absurd same (by simp)
    · rintro ⟨⟨policy, listed, matching⟩, -⟩
      exact absurd matching (unmatched policy listed)
  · rw [resolved_of_apart ranking apart]
    constructor
    · intro same
      exact absurd same (by simp)
    · rintro ⟨-, unwon⟩
      exact absurd ⟨winner.1, wins_of_ranked ranking apart⟩ unwon
  · have tie : resolveWaitingPolicy snapshotId rideId context policies now = .error _ :=
      resolved_of_tie ranking tied
    rw [tie]
    refine ⟨fun _ => ⟨some_of_ranked ranking, ?_⟩, fun _ => rfl⟩
    rintro ⟨policy, wins⟩
    have resolved : resolveWaitingPolicy snapshotId rideId context policies now = .ok _ :=
      resolved_iff.2 ⟨policy, wins, rfl⟩
    rw [tie] at resolved
    exact absurd resolved (by simp)

theorem wins_unique {first second : WaitingPolicyDefinition}
    (firstWins : Wins first context now policies) (secondWins : Wins second context now policies) :
    first = second := by
  by_contra distinct
  have above : Below second first :=
    firstWins.above second ((List.mem_erase_of_ne (Ne.symm distinct)).2 secondWins.listed)
      secondWins.matching
  have below : Below first second :=
    secondWins.above first ((List.mem_erase_of_ne distinct).2 firstWins.listed) firstWins.matching
  unfold Below at above below
  omega

theorem wins_of_perm (same : permuted.Perm policies) (wins : Wins policy context now permuted) :
    Wins policy context now policies := by
  refine ⟨same.mem_iff.1 wins.listed, wins.matching, ?_⟩
  intro other mem
  exact wins.above other ((same.erase policy).mem_iff.2 mem)

theorem resolved_of_perm (same : permuted.Perm policies) :
    resolveWaitingPolicy snapshotId rideId context permuted now =
      resolveWaitingPolicy snapshotId rideId context policies now := by
  by_cases won : ∃ policy, Wins policy context now policies
  · obtain ⟨policy, wins⟩ := won
    rw [resolved_iff.2 ⟨policy, wins, rfl⟩]
    exact resolved_iff.2 ⟨policy, wins_of_perm same.symm wins, rfl⟩
  by_cases matched : ∃ policy ∈ policies, Matches policy context now
  · rw [ambiguous_iff.2 ⟨matched, won⟩]
    refine ambiguous_iff.2 ⟨?_, ?_⟩
    · obtain ⟨policy, listed, matching⟩ := matched
      exact ⟨policy, same.mem_iff.2 listed, matching⟩
    · rintro ⟨policy, wins⟩
      exact won ⟨policy, wins_of_perm same wins⟩
  · have unmatched : ∀ policy ∈ policies, ¬ Matches policy context now := by
      intro policy listed matching
      exact matched ⟨policy, listed, matching⟩
    rw [unavailable_iff.2 unmatched]
    refine unavailable_iff.2 ?_
    intro policy listed
    exact unmatched policy (same.mem_iff.1 listed)

end

/-- A policy is resolved exactly when it matches and is above every other matching one, at most one
    is; none is available exactly when none matches, and the choice is ambiguous otherwise, in
    whatever order the policies stand. -/
theorem resolution_characterised (snapshotId rideId : Uuid) (context : WaitingPolicyContext)
    (policies : List WaitingPolicyDefinition) (now : Instant) :
    (∀ snapshot, resolveWaitingPolicy snapshotId rideId context policies now = .ok snapshot ↔
      ∃ policy, Wins policy context now policies ∧
        snapshot = snapshotOf policy context now snapshotId rideId) ∧
    (∀ first second, Wins first context now policies → Wins second context now policies →
      first = second) ∧
    (resolveWaitingPolicy snapshotId rideId context policies now =
        .error (.conflict "waiting_policy_unavailable") ↔
      ∀ policy ∈ policies, ¬ Matches policy context now) ∧
    (resolveWaitingPolicy snapshotId rideId context policies now =
        .error (.conflict "waiting_policy_ambiguous") ↔
      (∃ policy ∈ policies, Matches policy context now) ∧
        ¬ ∃ policy, Wins policy context now policies) ∧
    ∀ permuted, permuted.Perm policies →
      resolveWaitingPolicy snapshotId rideId context permuted now =
        resolveWaitingPolicy snapshotId rideId context policies now := by
  refine ⟨fun _ => resolved_iff, ?_, unavailable_iff, ambiguous_iff, ?_⟩
  · intro first second firstWins secondWins
    exact wins_unique firstWins secondWins
  · intro permuted same
    exact resolved_of_perm same

end Ayo.ArrivalWaiting.PolicyChoice
