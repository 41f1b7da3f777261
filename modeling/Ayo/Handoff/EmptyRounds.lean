/- digest: When a searching handoff gets an offer. -/

import Ayo.Handoff.Consistency

namespace Ayo.Handoff.EmptyRounds

open Kernel.UnitOfWork Kernel.KeyedTable Kernel.Ordering Kernel.Run Kernel.Updates Core.Values
  Consistency Effects Models Repository Responses Service Handoff.System

def Free (store : HandoffStore) (driverId : Uuid) : Prop :=
  ∀ offer ∈ store.offers.rows, offer.driverId = driverId → offer.state ≠ .created
deriving Decidable

section

variable (config : HandoffConfig) (sources : DispatchSources)

def Offerable (handoff : DispatchHandoff) (time : Instant) (item : EligibleDriverInput) : Prop :=
  Suitable time config.maximumLocationAgeSeconds item ∧
    EligibilityCurrent sources item.driverId item.vehicleId time ∧
    (config.requireWorkerSession = true →
      sources.rideDriverOnline item.driverId item.vehicleId handoff.serviceZoneId time = true)

/-- The round ends in a new offer of the handoff. -/
def CreatesOffer (store : HandoffStore) (handoffId : Uuid)
    (observations : List EligibleDriverInput) (time : Instant) (offerId : Uuid) : Prop :=
  ∃ offer t, offerNext config sources handoffId observations time offerId store =
      .ok (some offer, t) ∧ t.offers.rows = store.offers.rows ++ [offer] ∧
    offer.handoffId = handoffId ∧ offer.state = .created

/-- A searching handoff, neither expired nor changed in price, with a free driver in sight. -/
structure CanOffer (store : HandoffStore) (handoff : DispatchHandoff)
    (observations : List EligibleDriverInput) (time : Instant) (offerId : Uuid) : Prop where
  found : store.handoffs.find handoff.handoffId = some handoff
  searching : handoff.state = .searching
  unexpired : time < handoff.expiresAt
  pricing : PricingCurrent config.hash sources handoff time
  driver : ∃ item ∈ observations, Suitable time config.maximumLocationAgeSeconds item ∧
    EligibilityCurrent sources item.driverId item.vehicleId time ∧ Free store item.driverId
  fresh : store.offers.find offerId = none

def Unrecorded (store : HandoffStore) (handoff : DispatchHandoff) : Prop :=
  store.events.find (handoff.handoffId, "dispatch.candidate_set_created", handoff.version) = none

/-- Of the drivers who may get an offer, the one who ranks first is free. -/
def BestIsFree (store : HandoffStore) (handoff : DispatchHandoff)
    (observations : List EligibleDriverInput) (time : Instant) : Prop :=
  ∃ best ∈ observations, Offerable config sources handoff time best ∧
    (∀ other ∈ observations, Offerable config sources handoff time other →
      rankKey best ≤ rankKey other) ∧ Free store best.driverId

end

section

variable {config : HandoffConfig} {sources : DispatchSources} {handoff : DispatchHandoff}
  {observations others : List EligibleDriverInput} {time : Instant} {selected : EligibleDriverInput}
  {store : HandoffStore}

theorem mem_rankedDrivers {item : EligibleDriverInput} :
    item ∈ rankedDrivers config sources handoff observations time ↔
      item ∈ observations ∧ Offerable config sources handoff time item := by
  unfold rankedDrivers rankCandidates Offerable
  rw [mem_orderedBy, List.mem_filter, List.mem_filter, decide_eq_true_eq, decide_eq_true_eq]
  constructor
  · rintro ⟨⟨mem, eligible⟩, suitable⟩
    exact ⟨mem, suitable, eligible⟩
  · rintro ⟨mem, suitable, eligible⟩
    exact ⟨⟨mem, eligible⟩, suitable⟩

theorem best_of_ranked
    (ranked : rankedDrivers config sources handoff observations time = selected :: others) :
    selected ∈ observations ∧ Offerable config sources handoff time selected ∧
      ∀ other ∈ observations, Offerable config sources handoff time other →
        rankKey selected ≤ rankKey other := by
  have listed : selected ∈ rankedDrivers config sources handoff observations time := by
    rw [ranked]
    exact List.mem_cons_self
  obtain ⟨mem, offerable⟩ := mem_rankedDrivers.1 listed
  have ascending : (rankedDrivers config sources handoff observations time).Pairwise
      fun a b => rankKey a ≤ rankKey b := pairwise_orderedBy _ _
  refine ⟨mem, offerable, fun other present offered => ?_⟩
  have ranked_other := mem_rankedDrivers.2 ⟨present, offered⟩
  rw [ranked] at ascending ranked_other
  rcases List.mem_cons.1 ranked_other with rfl | later
  · exact le_refl _
  · exact (List.pairwise_cons.1 ascending).1 other later

theorem driverId_of_rankKey {first second : EligibleDriverInput}
    (same : rankKey first = rankKey second) : first.driverId = second.driverId := by
  unfold rankKey at same
  simp only [EmbeddingLike.apply_eq_iff_eq, Prod.mk.injEq] at same
  exact same.2.2.2

theorem bestIsFree_iff
    (ranked : rankedDrivers config sources handoff observations time = selected :: others) :
    BestIsFree config sources store handoff observations time ↔ Free store selected.driverId := by
  obtain ⟨mem, offerable, least⟩ := best_of_ranked ranked
  constructor
  · rintro ⟨best, present, offered, bestLeast, free⟩
    have same := le_antisymm (least best present offered) (bestLeast selected mem offerable)
    rwa [driverId_of_rankKey same]
  · intro free
    exact ⟨selected, mem, offerable, least, free⟩

theorem not_bestIsFree_of_unranked
    (unranked : rankedDrivers config sources handoff observations time = []) :
    ¬ BestIsFree config sources store handoff observations time := by
  rintro ⟨best, present, offered, _⟩
  have listed := mem_rankedDrivers.2 ⟨present, offered⟩
  rw [unranked] at listed
  cases listed

end

def EventsBehind (store : HandoffStore) : Prop :=
  ∀ event ∈ store.events.rows, ∃ handoff, store.handoffs.find event.handoffId = some handoff ∧
    event.aggregateVersion ≤ handoff.version

section

variable {store t : HandoffStore} {handoff changed : DispatchHandoff} {types : List String}
  {time : Instant} {added : List HandoffEvent} {eventType : String} {config : HandoffConfig}
  {events : Table HandoffEvent}

theorem of_mem_eventsAt {event : HandoffEvent} (mem : event ∈ eventsAt handoff types time) :
    event.handoffId = handoff.handoffId ∧ event.aggregateVersion = handoff.version := by
  obtain ⟨eventType, _, rfl⟩ := List.mem_map.1 mem
  exact ⟨rfl, rfl⟩

theorem eventsBehind_of_appended (behind : EventsBehind store)
    (grows : ∀ handoffId handoff, store.handoffs.find handoffId = some handoff →
      ∃ changed, t.handoffs.find handoffId = some changed ∧ handoff.version ≤ changed.version)
    (events : t.events.rows = store.events.rows ++ added)
    (current : ∀ event ∈ added, ∃ handoff, t.handoffs.find event.handoffId = some handoff ∧
      event.aggregateVersion ≤ handoff.version) : EventsBehind t := by
  intro event mem
  rw [events, List.mem_append] at mem
  rcases mem with old | new
  · obtain ⟨handoff, found, s⟩ := behind event old
    obtain ⟨changed, moved, later⟩ := grows event.handoffId handoff found
    exact ⟨changed, moved, s.trans later⟩
  · exact current event new

theorem grows_of_moves (moves : Moves store t handoff changed) (handoffId : Uuid)
    (other : DispatchHandoff) (found : store.handoffs.find handoffId = some other) :
    ∃ moved, t.handoffs.find handoffId = some moved ∧ other.version ≤ moved.version := by
  rw [find_of_moves moves]
  by_cases same : handoffId = handoff.handoffId
  · rw [same, moves.found] at found
    obtain rfl := Option.some.inj found
    refine ⟨changed, if_pos same, ?_⟩
    rw [moves.version]
    exact Nat.le_succ _
  · exact ⟨other, by rw [if_neg same, found], le_refl _⟩

theorem eventsBehind_of_moves (behind : EventsBehind store) (moves : Moves store t handoff changed)
    (events : t.events.rows = store.events.rows ++ added)
    (own : ∀ event ∈ added, event.handoffId = handoff.handoffId ∧
      (event.aggregateVersion = handoff.version ∨ event.aggregateVersion = changed.version)) :
    EventsBehind t := by
  refine eventsBehind_of_appended behind (grows_of_moves moves) events fun event mem => ?_
  obtain ⟨named, version⟩ := own event mem
  refine ⟨changed, by rw [find_of_moves moves, if_pos named], ?_⟩
  rcases version with s | same
  · rw [s, moves.version]
    exact Nat.le_succ _
  · exact le_of_eq same

theorem eventsBehind_of_closes {state : HandoffState} {outcome : HandoffOfferState}
    (behind : EventsBehind store) (closes : Closes store t handoff state outcome eventType time) :
    EventsBehind t := by
  refine eventsBehind_of_moves behind closes.moves closes.events fun event mem => ?_
  obtain ⟨named, version⟩ := of_mem_eventsAt mem
  exact ⟨named, .inl version⟩

theorem step_eventsBehind {action : HandoffAction} (effect : HandoffEffect config store t action)
    (behind : EventsBehind store) : EventsBehind t := by
  cases effect with
  | kept handoffs offers assignments events =>
    unfold EventsBehind
    rwa [handoffs, events]
  | received handoffs searching first offers assignments events =>
    refine eventsBehind_of_appended behind (fun handoffId other found => ?_) events
      fun event mem => ?_
    · refine ⟨other, ?_, le_refl _⟩
      rw [Table.find_of_rows_append handoffs, found]
      rfl
    · obtain ⟨named, version⟩ := of_mem_eventsAt mem
      exact ⟨_, named ▸ Table.find_of_inserted handoffs, le_of_eq version⟩
  | emptyRound found unranked handoffs offers assignments events =>
    refine eventsBehind_of_appended behind (fun handoffId other found => ?_) events
      fun event mem => ?_
    · exact ⟨other, by rw [handoffs, found], le_refl _⟩
    · obtain ⟨named, version⟩ := of_mem_eventsAt mem
      have key := Table.key_of_find found
      refine ⟨_, ?_, le_of_eq version⟩
      rw [handoffs, named, ← found]
      exact congrArg store.handoffs.find key
  | offered moves searching created own offers assignments events =>
    refine eventsBehind_of_moves behind moves events fun event mem => ?_
    rcases List.mem_append.1 mem with s | t
    · obtain ⟨named, version⟩ := of_mem_eventsAt s
      exact ⟨named, .inl version⟩
    · obtain ⟨named, version⟩ := of_mem_eventsAt t
      exact ⟨named, .inr version⟩
  | resolved moves resolves ended assignments events =>
    refine eventsBehind_of_moves behind moves events fun event mem => ?_
    obtain ⟨named, version⟩ := of_mem_eventsAt mem
    exact ⟨named, .inl version⟩
  | assigned moves resolves carries assignments events =>
    refine eventsBehind_of_moves behind moves events fun event mem => ?_
    obtain ⟨named, version⟩ := of_mem_eventsAt mem
    exact ⟨named, .inr version⟩
  | cancelled unassigned closes => exact eventsBehind_of_closes behind closes
  | swept sweeps =>
    induction sweeps with
    | refl => exact behind
    | tail _ sweep ih =>
      obtain ⟨handoff, _, closes⟩ := sweep
      exact eventsBehind_of_closes ih closes

theorem run_eventsBehind (apart : OffersApart config.hash) (actions : List HandoffAction) :
    EventsBehind (run (handoffStep config) {} actions) :=
  run_effects apart (fun _ held => absurd held List.not_mem_nil)
    (fun _ _ _ effect => step_eventsBehind effect) actions

theorem exists_event (handoff : DispatchHandoff) (eventType : String) (time : Instant)
    (free : events.find (handoff.handoffId, eventType, handoff.version) = none) :
    ∃ added : Table HandoffEvent, added.rows = events.rows ++ eventsAt handoff [eventType] time :=
  Table.exists_inserted fun other mem same => Table.find_eq_none.1 free other mem same

theorem find_event_eq_none {added : Table HandoffEvent} {key : Uuid × String × Nat}
    (rows : added.rows = events.rows ++ eventsAt handoff [eventType] time)
    (free : events.find key = none)
    (different : (handoff.handoffId, eventType, handoff.version) ≠ key) :
    added.find key = none := by
  rw [Table.find_of_rows_append rows, free]
  exact if_neg different

end

section

variable {config : HandoffConfig} {sources : DispatchSources} {store : HandoffStore}
  {handoff : DispatchHandoff} {observations : List EligibleDriverInput} {time : Instant}
  {offerId : Uuid}

theorem lasting_iff : time < time + seconds config.offerTimeoutSeconds ↔
    0 < config.offerTimeoutSeconds := by
  unfold seconds
  change (_ : Int) < _ ↔ _
  omega

def offerTo (config : HandoffConfig) (handoff : DispatchHandoff) (selected : EligibleDriverInput)
    (time : Instant) (offerId : Uuid)
    (lasting : time < time + seconds config.offerTimeoutSeconds) : HandoffOffer where
  offerId
  handoffId := handoff.handoffId
  driverId := selected.driverId
  vehicleId := selected.vehicleId
  createdAt := time
  expiresAt := time + seconds config.offerTimeoutSeconds
  lasting
  dispatchPolicyVersion := config.policyVersion
  pickupCostSeconds := selected.pickupCostSeconds
  routeEvidenceId := selected.routeEvidenceId
  decisionReasonCodes := decisionReasonCodes selected

theorem of_createsOffer
    (creates : CreatesOffer config sources store handoff.handoffId observations time offerId)
    (found : store.handoffs.find handoff.handoffId = some handoff) :
    Unrecorded store handoff ∧ BestIsFree config sources store handoff observations time ∧
      0 < config.offerTimeoutSeconds := by
  obtain ⟨offer, t, ran, _⟩ := creates
  unfold offerNext recordCandidates at ran
  simp only [getHandoff_bind_ok, steps_ok, event_bind_ok] at ran
  obtain ⟨same, held, _, events, candidates, asked⟩ := ran
  obtain rfl := Option.mem_unique found held
  refine ⟨Table.find_eq_none_of_rows_append candidates, ?_⟩
  cases ranked : rankedDrivers config sources handoff observations time with
  | nil =>
    rw [ranked] at asked
    obtain ⟨_, _, finished⟩ := event_bind_ok.1 asked
    cases (pure_ok.1 finished).1
  | cons selected others =>
    rw [ranked] at asked
    dsimp only at asked
    split at asked
    · rename_i lasting
      refine ⟨(bestIsFree_iff ranked).2 fun other mem driver created => ?_, lasting_iff.1 lasting⟩
      unfold createOffer at asked
      simp only [bind_assoc, steps_ok, Table.insert?_eq_some] at asked
      obtain ⟨offers, rows, _⟩ := asked
      exact Table.apart_of_rows_append rows other mem (.inr ⟨created, rfl, .inr driver⟩)
    · exact (throw_ok.1 asked).elim

theorem find_next_event_eq_none (behind : EventsBehind store)
    (found : store.handoffs.find handoff.handoffId = some handoff) (eventType : String) :
    store.events.find (handoff.handoffId, eventType, handoff.version + 1) = none := by
  refine Table.find_eq_none.2 fun event mem same => ?_
  change (event.handoffId, event.eventType, event.aggregateVersion) = _ at same
  simp only [Prod.mk.injEq] at same
  obtain ⟨other, held, s⟩ := behind event mem
  rw [same.1, found] at held
  obtain rfl := Option.some.inj held
  omega

theorem exists_offered (consistent : Consistent store)
    (can : CanOffer config sources store handoff observations time offerId)
    {selected : EligibleDriverInput} (free : Free store selected.driverId)
    (lasting : time < time + seconds config.offerTimeoutSeconds) :
    ∃ offers : Table HandoffOffer, offers.rows =
      store.offers.rows ++ [offerTo config handoff selected time offerId lasting] := by
  refine Table.exists_inserted fun other mem clash => ?_
  rcases clash with same | ⟨created, -, own | driver⟩
  · exact Table.find_eq_none.1 can.fresh other mem same
  · obtain ⟨offering, held, state⟩ := consistent.offering other mem created
    have named : other.handoffId = handoff.handoffId := own
    rw [named, can.found] at held
    obtain rfl := Option.some.inj held
    simp [can.searching] at state
  · exact free other mem driver created

theorem exists_updated (store : HandoffStore) (handoffId : Uuid)
    (change : DispatchHandoff → DispatchHandoff)
    (keeps : ∀ other, (change other).handoffId = other.handoffId ∧
      (change other).rideRequestId = other.rideRequestId) :
    ∃ handoffs : Table DispatchHandoff, handoffs.rows = store.handoffs.rows.map
      (updateWhere (fun other => other.handoffId = handoffId) change) := by
  have kept : ∀ other : DispatchHandoff,
      (updateWhere (fun other : DispatchHandoff => other.handoffId = handoffId) change
        other).handoffId = other.handoffId ∧
      (updateWhere (fun other : DispatchHandoff => other.handoffId = handoffId) change
        other).rideRequestId = other.rideRequestId := by
    intro other
    unfold updateWhere
    split
    · exact keeps other
    · exact ⟨rfl, rfl⟩
  refine store.handoffs.exists_rewritten fun a b clash => ?_
  rcases clash with same | same
  · exact .inl ((kept a).1.symm.trans (same.trans (kept b).1))
  · exact .inr ((kept a).2.symm.trans (same.trans (kept b).2))

theorem createsOffer_of (consistent : Consistent store) (behind : EventsBehind store)
    (can : CanOffer config sources store handoff observations time offerId)
    (unrecorded : Unrecorded store handoff)
    (best : BestIsFree config sources store handoff observations time)
    (timeout : 0 < config.offerTimeoutSeconds) :
    CreatesOffer config sources store handoff.handoffId observations time offerId := by
  cases ranked : rankedDrivers config sources handoff observations time with
  | nil => exact absurd best (not_bestIsFree_of_unranked ranked)
  | cons selected others =>
    have lasting : time < time + seconds config.offerTimeoutSeconds := lasting_iff.2 timeout
    obtain ⟨offers, offered⟩ :=
      exists_offered consistent can ((bestIsFree_iff ranked).1 best) lasting
    obtain ⟨handoffs, moved⟩ := exists_updated store handoff.handoffId
      (fun other => other.moved .offering) fun _ => ⟨rfl, rfl⟩
    -- the four events have keys of their own: one at this version, three at the next
    obtain ⟨events, candidates⟩ := exists_event handoff _ time unrecorded
    have next_free := fun eventType => find_event_eq_none candidates
      (find_next_event_eq_none behind can.found eventType) (by simp)
    obtain ⟨made, created⟩ := exists_event (handoff.moved .offering) "dispatch.offer_created" time
      (next_free _)
    obtain ⟨told, notified⟩ := exists_event (handoff.moved .offering) "dispatch.driver.new_offer"
      time (find_event_eq_none created (next_free _) (by simp))
    obtain ⟨shown, found⟩ := exists_event (handoff.moved .offering) "dispatch.rider.driver_found"
      time (find_event_eq_none notified (find_event_eq_none created (next_free _) (by simp))
        (by simp))
    refine ⟨offerTo config handoff selected time offerId lasting,
      { store with offers, handoffs, events := shown }, ?_, offered, rfl, rfl⟩
    unfold offerNext recordCandidates
    simp only [getHandoff_bind_ok, steps_ok, event_bind_ok]
    refine ⟨handoff, can.found, ⟨can.unexpired, can.pricing⟩, events, candidates, ?_⟩
    rw [ranked]
    dsimp only
    rw [dif_pos lasting]
    unfold createOffer
    simp only [bind_assoc, pure_bind, steps_ok, updateHandoffs_bind_ok, event_bind_ok,
      Table.insert?_eq_some, Option.filter_eq_some_iff, decide_eq_true_eq]
    exact ⟨offers, offered, handoff, ⟨can.found, rfl, can.searching⟩, handoffs, moved, made,
      created, told, notified, shown, found, rfl, rfl⟩

end

/-- In every reachable store, a handoff that can get an offer gets one exactly when no round at its
version was recorded before, its best driver is free and an offer lasts. -/
theorem offer_created_iff {config : HandoffConfig} (apart : OffersApart config.hash)
    (actions : List HandoffAction) {sources : DispatchSources} {handoff : DispatchHandoff}
    {observations : List EligibleDriverInput} {time : Instant} {offerId : Uuid}
    (can : CanOffer config sources (run (handoffStep config) {} actions) handoff observations time
      offerId) :
    CreatesOffer config sources (run (handoffStep config) {} actions) handoff.handoffId
        observations time offerId ↔
      Unrecorded (run (handoffStep config) {} actions) handoff ∧
        BestIsFree config sources (run (handoffStep config) {} actions) handoff observations time ∧
        0 < config.offerTimeoutSeconds := by
  have consistent := run_consistent apart actions
  have behind := run_eventsBehind apart actions
  constructor
  · intro creates
    exact of_createsOffer creates can.found
  · rintro ⟨unrecorded, best, timeout⟩
    exact createsOffer_of consistent behind can unrecorded best timeout

def emptyRound : List HandoffAction :=
  [receivedAt 10, .offerNext openSources 20 [] (seconds 11) 40]

theorem offer_created_iff_first_round : ∃ handoff,
    CanOffer handoffConfig openSources (run (handoffStep handoffConfig) {} [receivedAt 10]) handoff
      [nearbyDriver 30 12] (seconds 12) 41 ∧
    (CreatesOffer handoffConfig openSources (run (handoffStep handoffConfig) {} [receivedAt 10])
        handoff.handoffId [nearbyDriver 30 12] (seconds 12) 41 ↔
      Unrecorded (run (handoffStep handoffConfig) {} [receivedAt 10]) handoff ∧
        BestIsFree handoffConfig openSources (run (handoffStep handoffConfig) {} [receivedAt 10])
          handoff [nearbyDriver 30 12] (seconds 12) ∧ 0 < handoffConfig.offerTimeoutSeconds) := by
  have present : ∃ handoff ∈ (run (handoffStep handoffConfig) {} [receivedAt 10]).handoffs.rows,
      handoff.state = .searching ∧ seconds 12 < handoff.expiresAt ∧
        PricingCurrent handoffConfig.hash openSources handoff (seconds 12) := by
    decide +kernel
  obtain ⟨handoff, stored, searching, unexpired, pricing⟩ := present
  have can : CanOffer handoffConfig openSources
      (run (handoffStep handoffConfig) {} [receivedAt 10]) handoff [nearbyDriver 30 12]
      (seconds 12) 41 := by
    refine ⟨Table.find_of_mem stored, searching, unexpired, pricing, by decide +kernel, ?_⟩
    exact Option.isNone_iff_eq_none.1 (by decide +kernel)
  exact ⟨handoff, can, offer_created_iff offerDigest_apart [receivedAt 10] can⟩

/-- After the empty round a driver comes by, and still no offer is created. -/
theorem blocked_after_empty_round : ∃ handoff,
    CanOffer handoffConfig openSources (run (handoffStep handoffConfig) {} emptyRound) handoff
      [nearbyDriver 30 12] (seconds 12) 41 ∧
    ¬ CreatesOffer handoffConfig openSources (run (handoffStep handoffConfig) {} emptyRound)
        handoff.handoffId [nearbyDriver 30 12] (seconds 12) 41 := by
  have present : ∃ handoff ∈ (run (handoffStep handoffConfig) {} emptyRound).handoffs.rows,
      handoff.handoffId = 20 ∧ handoff.state = .searching ∧ seconds 12 < handoff.expiresAt ∧
        PricingCurrent handoffConfig.hash openSources handoff (seconds 12) := by
    decide +kernel
  have failed : (offerNext handoffConfig openSources 20 [nearbyDriver 30 12] (seconds 12) 41
      (run (handoffStep handoffConfig) {} emptyRound)).isOk = false := by
    decide +kernel
  obtain ⟨handoff, stored, named, searching, unexpired, pricing⟩ := present
  refine ⟨handoff, ⟨Table.find_of_mem stored, searching, unexpired, pricing, by decide +kernel, ?_⟩,
    ?_⟩
  · exact Option.isNone_iff_eq_none.1 (by decide +kernel)
  · rintro ⟨offer, after, success, _⟩
    rw [named] at success
    rw [success] at failed
    cases failed

end Ayo.Handoff.EmptyRounds
