/- digest: What each command on handoffs checks and writes. -/

import Ayo.Handoff.Service

namespace Ayo.Handoff.Effects

open Kernel.UnitOfWork Kernel.KeyedTable Kernel.Ordering Kernel.Updates Core.Values Models
  Repository Service Handoff.System

def eventsAt (handoff : DispatchHandoff) (types : List String) (time : Instant) :
    List HandoffEvent :=
  types.map fun eventType =>
    { handoffId := handoff.handoffId, eventType, aggregateVersion := handoff.version,
      occurredAt := time }

structure Moves (store t : HandoffStore) (handoff changed : DispatchHandoff) : Prop where
  found : store.handoffs.find handoff.handoffId = some handoff
  rows : t.handoffs.rows = store.handoffs.replaced changed
  handoffId : changed.handoffId = handoff.handoffId
  version : changed.version = handoff.version + 1
  expiresAt : changed.expiresAt = handoff.expiresAt

def resolvedOffer (offer : HandoffOffer) (state : HandoffOfferState) : HandoffOffer :=
  { offer with state, version := offer.version + 1 }

structure Resolves (store t : HandoffStore) (offer : HandoffOffer) (state : HandoffOfferState)
    (handoff : DispatchHandoff) : Prop where
  found : store.offers.find offer.offerId = some offer
  created : offer.state = .created
  own : offer.handoffId = handoff.handoffId
  offering : handoff.state = .offering
  rows : t.offers.rows = store.offers.replaced (resolvedOffer offer state)

structure Closes (store t : HandoffStore) (handoff : DispatchHandoff) (state : HandoffState)
    (outcome : HandoffOfferState) (eventType : String) (time : Instant) : Prop where
  moves : Moves store t handoff (handoff.moved state)
  offers : t.offers.rows = store.offers.rows.map
    (updateWhere (fun offer => offer.handoffId = handoff.handoffId ∧ offer.state = .created)
      fun offer => resolvedOffer offer outcome)
  assignments : t.assignments = store.assignments
  events : t.events.rows = store.events.rows ++ eventsAt handoff [eventType] time

def SweepsOne (time : Instant) (store t : HandoffStore) : Prop :=
  ∃ handoff, handoff.state ∈ [HandoffState.searching, .offering] ∧
    Closes store t handoff .noDriver .expired "dispatch.rider.no_driver_available" time

def assignmentOf (response : OfferResponse) (offer : HandoffOffer) : HandoffAssignment where
  assignmentId := response.assignmentId
  handoffId := offer.handoffId
  offerId := offer.offerId
  driverId := response.driverId
  vehicleId := offer.vehicleId
  assignedAt := response.time

section

variable {α : Type} {s t : HandoffStore} {b : α} {handoff : DispatchHandoff} {time : Instant}
  {f : Unit → HandoffTransaction α} {eventType : String}
  {change : DispatchHandoff → DispatchHandoff} {condition : DispatchHandoff → Prop}

theorem event_bind_ok :
    (event handoff eventType time >>= f) s = .ok (b, t) ↔ ∃ events : Table HandoffEvent,
        events.rows = s.events.rows ++ eventsAt handoff [eventType] time ∧
        f () { s with events } = .ok (b, t) := by
  unfold event
  simp only [bind_assoc, steps_ok, Table.insert?_eq_some]
  rfl

theorem event_ok {u : Unit} : event handoff eventType time s = .ok (u, t) ↔
      ∃ events : Table HandoffEvent,
        events.rows = s.events.rows ++ eventsAt handoff [eventType] time ∧
        t = { s with events } := by
  have whole : (event handoff eventType time >>= pure) s = .ok (u, t) ↔ _ := event_bind_ok
  rw [bind_pure] at whole
  rw [whole]
  refine exists_congr fun events => and_congr_right fun _ => ?_
  rw [pure_ok]
  exact ⟨fun ⟨_, same⟩ => same.symm, fun same => ⟨rfl, same.symm⟩⟩

theorem updateHandoffs_bind_ok [DecidablePred condition] :
    (updateHandoffs condition change >>= f) s = .ok (b, t) ↔ ∃ handoffs : Table DispatchHandoff,
        handoffs.rows = s.handoffs.rows.map (updateWhere condition change) ∧
        f () { s with handoffs } = .ok (b, t) := by
  unfold updateHandoffs
  simp only [bind_assoc, steps_ok, Table.rewrite?_eq_some]

theorem updateOffers_bind_ok {condition : HandoffOffer → Prop} [DecidablePred condition]
    {change : HandoffOffer → HandoffOffer} :
    (updateOffers condition change >>= f) s = .ok (b, t) ↔ ∃ offers : Table HandoffOffer,
        offers.rows = s.offers.rows.map (updateWhere condition change) ∧
        f () { s with offers } = .ok (b, t) := by
  unfold updateOffers
  simp only [bind_assoc, steps_ok, Table.rewrite?_eq_some]

theorem getHandoff_bind_ok {handoffId : Uuid} {f : Option DispatchHandoff → HandoffTransaction α} :
    (getHandoff handoffId >>= f) s = .ok (b, t) ↔ f (s.handoffs.find handoffId) s = .ok (b, t) := by
  unfold getHandoff
  simp only [bind_assoc, pure_bind, get_bind_ok]

theorem reserveIdempotency_ok {hash : Payload → Digest} {actorId : Uuid} {operation key : String}
    {payload : Payload} {reference canonical : Uuid}
    (ran : reserveIdempotency hash actorId operation key payload reference time s =
      .ok (canonical, t)) :
    ∃ reservations, t = { s with reservations } ∧
      ((canonical = reference ∧ s.reservations.find (actorId, operation, key) = none ∧
          reservations.rows = s.reservations.rows ++
            [{ actorId, operation, idempotencyKey := key, requestHash := hash payload,
               responseReference := reference, createdAt := time }]) ∨
        ∃ existing, s.reservations.find (actorId, operation, key) = some existing ∧
          existing.requestHash = hash payload ∧ canonical = existing.responseReference ∧
          reservations = s.reservations) := by
  unfold reserveIdempotency at ran
  obtain ⟨reservations, reserved, rfl⟩ := within_ok.1 (recast_ok.1 ran)
  refine ⟨reservations, rfl, ?_⟩
  obtain ⟨same, free, rows⟩ | ⟨existing, found, same, rfl, rfl⟩ :=
    Core.Authorization.reserveIdempotency_ok reserved
  · exact .inl ⟨same, free, rows⟩
  · exact .inr ⟨existing, found, same, rfl, rfl⟩

theorem moves_of_update {handoffs : Table DispatchHandoff} [DecidablePred condition]
    (found : s.handoffs.find handoff.handoffId = some handoff)
    (rows : handoffs.rows = s.handoffs.rows.map (updateWhere condition change))
    (only : ∀ other ∈ s.handoffs.rows, condition other ↔ other.handoffId = handoff.handoffId)
    (handoffId : (change handoff).handoffId = handoff.handoffId)
    (version : (change handoff).version = handoff.version + 1)
    (expiresAt : (change handoff).expiresAt = handoff.expiresAt) (same : t.handoffs = handoffs) :
    Moves s t handoff (change handoff) := by
  refine ⟨found, ?_, handoffId, version, expiresAt⟩
  rw [same, rows]
  exact map_updateWhere (Table.mem_of_find found) only handoffId

theorem find_of_moves {new : DispatchHandoff} (moves : Moves s t handoff new)
    (handoffId : Uuid) : t.handoffs.find handoffId =
      if handoffId = handoff.handoffId then some new else s.handoffs.find handoffId := by
  rw [Table.find_of_rows_replaced moves.rows]
  change (if handoffId = new.handoffId then _ else _) = _
  rw [moves.handoffId]
  split
  · rename_i same
    rw [same, moves.found]
    rfl
  · rfl

theorem resolves_of_update {offer : HandoffOffer} {outcome : HandoffOfferState}
    {offers : Table HandoffOffer} {condition : HandoffOffer → Prop} [DecidablePred condition]
    {change : HandoffOffer → HandoffOffer} (found : s.offers.find offer.offerId = some offer)
    (rows : offers.rows = s.offers.rows.map (updateWhere condition change))
    (only : ∀ other ∈ s.offers.rows, condition other ↔ other.offerId = offer.offerId)
    (new : change offer = resolvedOffer offer outcome) (created : offer.state = .created)
    (own : offer.handoffId = handoff.handoffId) (offering : handoff.state = .offering)
    (same : t.offers = offers) : Resolves s t offer outcome handoff := by
  refine ⟨found, created, own, offering, ?_⟩
  rw [same, rows, ← new]
  refine map_updateWhere (Table.mem_of_find found) only ?_
  rw [new]
  rfl

end

/-- A response that takes up a created offer: what it meets of the offer, its handoff, the key and
the driver. -/
structure Carries (config : HandoffConfig) (sources : DispatchSources) (store : HandoffStore)
    (response : OfferResponse) (offer : HandoffOffer) (handoff : DispatchHandoff) : Prop where
  found : store.offers.find response.offerId = some offer
  own : store.handoffs.find offer.handoffId = some handoff
  driver : offer.driverId = response.driverId
  created : offer.state = .created
  version : offer.version = response.expectedVersion
  unexpired : response.time < offer.expiresAt
  accepts : response.accept = true
  online : config.requireWorkerSession = true →
    sources.rideDriverOnline response.driverId offer.vehicleId handoff.serviceZoneId
      response.time = true
  asked : ∀ existing ∈ store.reservations.find
    (response.driverId, "offer_response", response.idempotencyKey), existing.requestHash =
      config.hash (responsePayload response.offerId response.accept response.expectedVersion)
  fresh : store.assignments.find response.assignmentId = none
  unoccupied : ∀ assignment ∈ store.assignments.rows, assignment.driverId = response.driverId →
    assignment.releasedAt ≠ none

inductive HandoffEffect (config : HandoffConfig) (store t : HandoffStore) :
    HandoffAction → Prop where
  | kept {action : HandoffAction} (handoffs : t.handoffs = store.handoffs)
      (offers : t.offers = store.offers) (assignments : t.assignments = store.assignments)
      (events : t.events = store.events) : HandoffEffect config store t action
  | received {sources : DispatchSources} {command : ReceiveCommand} {pricing : Option PricingRow}
      {time : Instant} {candidateId : Uuid} {handoff : DispatchHandoff}
      (handoffs : t.handoffs.rows = store.handoffs.rows ++ [handoff])
      (searching : handoff.state = .searching) (first : handoff.version = 1)
      (offers : t.offers = store.offers)
      (assignments : t.assignments = store.assignments)
      (events : t.events.rows = store.events.rows ++
        eventsAt handoff ["dispatch.handoff_received", "dispatch.rider.searching"] time) :
      HandoffEffect config store t (.receive sources command pricing time candidateId)
  | emptyRound {sources : DispatchSources} {handoffId : Uuid}
      {observations : List EligibleDriverInput} {time : Instant} {offerId : Uuid}
      {handoff : DispatchHandoff} (found : store.handoffs.find handoffId = some handoff)
      (unranked : rankedDrivers config sources handoff observations time = [])
      (handoffs : t.handoffs = store.handoffs) (offers : t.offers = store.offers)
      (assignments : t.assignments = store.assignments)
      (events : t.events.rows = store.events.rows ++ eventsAt handoff
        ["dispatch.candidate_set_created", "dispatch.assignment_failed"] time) :
      HandoffEffect config store t (.offerNext sources handoffId observations time offerId)
  | offered {sources : DispatchSources} {handoffId : Uuid}
      {observations : List EligibleDriverInput} {time : Instant} {offerId : Uuid}
      {handoff : DispatchHandoff} {offer : HandoffOffer}
      (moves : Moves store t handoff (handoff.moved .offering))
      (searching : handoff.state = .searching) (created : offer.state = .created)
      (own : offer.handoffId = handoff.handoffId)
      (offers : t.offers.rows = store.offers.rows ++ [offer])
      (assignments : t.assignments = store.assignments)
      (events : t.events.rows = store.events.rows ++
        (eventsAt handoff ["dispatch.candidate_set_created"] time ++
          eventsAt (handoff.moved .offering) ["dispatch.offer_created",
            "dispatch.driver.new_offer", "dispatch.rider.driver_found"] time)) :
      HandoffEffect config store t (.offerNext sources handoffId observations time offerId)
  | resolved {action : HandoffAction} {offer : HandoffOffer} {handoff : DispatchHandoff}
      {outcome : HandoffOfferState} {eventType : String} {time : Instant}
      (moves : Moves store t handoff (handoff.moved .searching))
      (resolves : Resolves store t offer outcome handoff)
      (ended : outcome ∈ [HandoffOfferState.rejected, .expired, .superseded])
      (assignments : t.assignments = store.assignments)
      (events : t.events.rows = store.events.rows ++ eventsAt handoff [eventType] time) :
      HandoffEffect config store t action
  | assigned {sources : DispatchSources} {response : OfferResponse} {offer : HandoffOffer}
      {handoff : DispatchHandoff}
      (moves : Moves store t handoff
        { handoff.moved .assigned with assignedDriverId := some response.driverId })
      (resolves : Resolves store t offer .accepted handoff)
      (carries : Carries config sources store response offer handoff)
      (assignments : t.assignments.rows =
        store.assignments.rows ++ [assignmentOf response offer])
      (events : t.events.rows = store.events.rows ++ eventsAt (handoff.moved .assigned)
        ["dispatch.assignment_created", "dispatch.driver.acceptance_confirmed",
         "dispatch.rider.driver_accepted"] response.time) :
      HandoffEffect config store t (.respond sources response)
  | cancelled {rideRequestId : Uuid} {time : Instant} {handoff : DispatchHandoff}
      (unassigned : handoff.state ≠ .assigned)
      (closes : Closes store t handoff .cancelled .cancelled
        "dispatch.cancelled_before_assignment" time) :
      HandoffEffect config store t (.cancelBeforeAssignment rideRequestId time)
  | swept {time : Instant} {limit : Nat} {locked : List Uuid}
      (sweeps : Relation.ReflTransGen (SweepsOne time) store t) :
      HandoffEffect config store t (.closeExpiredHandoffs time limit locked)

def OffersApart (hash : Payload → Digest) : Prop :=
  ∀ offerId accept expectedVersion otherId otherAccept otherVersion,
    hash (responsePayload offerId accept expectedVersion) =
      hash (responsePayload otherId otherAccept otherVersion) → offerId = otherId

def ResponsesKept (hash : Payload → Digest) (store : HandoffStore) : Prop :=
  ∀ row ∈ store.reservations.rows, row.operation = "offer_response" → ∃ accept expectedVersion,
      row.requestHash = hash (responsePayload row.responseReference accept expectedVersion)

section

variable {config : HandoffConfig} {s t : HandoffStore} {sources : DispatchSources} {time : Instant}
  {offerId : Uuid} {response : OfferResponse} {answer : Option Uuid} {action : HandoffAction}

theorem receive_effect {command : ReceiveCommand} {pricing : Option PricingRow} {candidateId : Uuid}
    {answer : DispatchHandoff}
    (ran : receive config sources command pricing time candidateId s = .ok (answer, t)) :
    HandoffEffect config s t (.receive sources command pricing time candidateId) := by
  unfold receive at ran
  simp only [steps_ok] at ran
  obtain ⟨_, row, _, asked⟩ := ran
  obtain ⟨canonical, between, reserved, asked⟩ := bind_ok.1 asked
  obtain ⟨reservations, rfl, _⟩ := reserveIdempotency_ok reserved
  rw [getHandoff_bind_ok, whenSome_ok] at asked
  obtain ⟨existing, _, checked⟩ | ⟨_, checked⟩ := asked
  · obtain ⟨_, finished⟩ := require_bind_ok.1 checked
    obtain ⟨_, rfl⟩ := pure_ok.1 finished
    exact .kept rfl rfl rfl rfl
  · simp only [steps_ok] at checked
    obtain ⟨_, source, _, checked⟩ := checked
    split at checked
    · simp only [steps_ok] at checked
      obtain ⟨serviceZoneId, _, _, created⟩ := checked
      unfold createHandoff at created
      simp only [steps_ok, whenSome_ok, event_bind_ok, Table.insert?_eq_some] at created
      obtain ⟨_, _, _, rfl⟩ | ⟨_, handoffs, rows, first, received, second, searching, _, rfl⟩ :=
        created
      · exact .kept rfl rfl rfl rfl
      · refine .received rows rfl rfl rfl rfl ?_
        rw [searching, received, List.append_assoc]
        rfl
    · exact (throw_ok.1 checked).elim

theorem offerNext_effect {handoffId : Uuid} {observations : List EligibleDriverInput}
    {answer : Option HandoffOffer}
    (ran : offerNext config sources handoffId observations time offerId s = .ok (answer, t)) :
    HandoffEffect config s t (.offerNext sources handoffId observations time offerId) := by
  unfold offerNext recordCandidates at ran
  simp only [getHandoff_bind_ok, steps_ok, event_bind_ok] at ran
  obtain ⟨handoff, found, _, events, candidates, asked⟩ := ran
  have key : handoff.handoffId = handoffId := Table.key_of_find found
  cases ranked : rankedDrivers config sources handoff observations time with
  | nil =>
    rw [ranked] at asked
    obtain ⟨failed, failures, finished⟩ := event_bind_ok.1 asked
    obtain ⟨_, rfl⟩ := pure_ok.1 finished
    refine .emptyRound found ranked rfl rfl rfl ?_
    rw [failures, candidates, List.append_assoc]
    rfl
  | cons selected others =>
    rw [ranked] at asked
    dsimp only at asked
    split at asked
    · unfold createOffer at asked
      simp only [bind_assoc, pure_bind, steps_ok, updateHandoffs_bind_ok, event_bind_ok,
        Table.insert?_eq_some, Option.filter_eq_some_iff, decide_eq_true_eq] at asked
      obtain ⟨offers, rows, row, ⟨held, _, searching⟩, handoffs, moved, first, created,
        second, told, third, shown, _, rfl⟩ := asked
      obtain rfl : handoff = row := Option.some.inj ((key ▸ found).symm.trans held)
      refine .offered (moves_of_update held moved (fun _ _ => Iff.rfl) rfl rfl rfl rfl)
        searching ?_ ?_ rows rfl ?_
      · rfl
      · exact key.symm
      · rw [shown, told, created, candidates]
        simp only [List.append_assoc]
        rfl
    · exact (throw_ok.1 asked).elim

theorem canonical_eq {hash : Payload → Digest} {canonical : Uuid} {between : HandoffStore}
    (apart : OffersApart hash) (kept : ResponsesKept hash s)
    (reserved : reserveIdempotency hash response.driverId "offer_response" response.idempotencyKey
      (responsePayload response.offerId response.accept response.expectedVersion)
      response.offerId response.time s = .ok (canonical, between)) :
    canonical = response.offerId := by
  obtain ⟨_, _, ⟨same, _⟩ | ⟨existing, found, asked, same, _⟩⟩ := reserveIdempotency_ok reserved
  · exact same
  · have key := Table.key_of_find found
    obtain ⟨accept, expectedVersion, answered⟩ :=
      kept existing (Table.mem_of_find found) (congrArg (fun k => k.2.1) key)
    rw [same]
    exact apart _ _ _ _ _ _ (answered.symm.trans asked)

theorem repositoryRespond_effect (apart : OffersApart config.hash)
    (kept : ResponsesKept config.hash s)
    (online : ∀ offer handoff, s.offers.find response.offerId = some offer →
      s.handoffs.find offer.handoffId = some handoff → response.accept = true →
      offer.state ≠ .accepted → config.requireWorkerSession = true →
      sources.rideDriverOnline response.driverId offer.vehicleId handoff.serviceZoneId
        response.time = true)
    (ran : Repository.respond config.hash response s = .ok (answer, t)) :
    HandoffEffect config s t (.respond sources response) := by
  unfold Repository.respond at ran
  obtain ⟨canonical, between, reserved, asked⟩ := bind_ok.1 ran
  obtain rfl : canonical = response.offerId := canonical_eq apart kept reserved
  obtain ⟨reservations, rfl, key⟩ := reserveIdempotency_ok reserved
  simp only [steps_ok, ite_ok, updateOffers_bind_ok] at asked
  obtain ⟨offer, found, drives, handoff, held, ⟨_, _, _, _, rfl⟩ | ⟨_, ⟨_, _, rfl⟩ | ⟨_,
    ⟨created, version, unexpired⟩, offering, offers, answered, finished⟩⟩⟩ := asked
  · exact .kept rfl rfl rfl rfl
  · exact .kept rfl rfl rfl rfl
  have named : offer.offerId = response.offerId := Table.key_of_find found
  have own : handoff.handoffId = offer.handoffId := Table.key_of_find held
  have carries_at := found
  have online := online offer handoff found held
  rw [← own] at held
  rw [← named] at found
  rcases finished with ⟨accepted, assigned⟩ | ⟨declined, rejected⟩
  · unfold assignOffer at assigned
    simp only [steps_ok, updateHandoffs_bind_ok, event_bind_ok, Table.insert?_eq_some,
      Option.filter_eq_some_iff] at assigned
    obtain ⟨assignments, rows, row, ⟨again, _⟩, handoffs, moved, first, made, second, told, third,
      shown, _, rfl⟩ := assigned
    obtain rfl : handoff = row := Option.mem_unique held again
    refine .assigned (moves_of_update held moved (fun _ _ => Iff.rfl) rfl rfl rfl rfl)
      (resolves_of_update found answered (fun _ _ => ?_) ?_ created own.symm offering rfl)
      ⟨carries_at, own ▸ held, drives, created, version, unexpired, accepted,
        online accepted (by simp [created]), fun existing held => ?_, ?_, fun other mem => ?_⟩
      ?_ ?_
    · rw [named]
    · rw [accepted, ← version]
      rfl
    · obtain ⟨_, free, _⟩ | ⟨_, there, same, _⟩ := key
      · cases free.symm.trans held
      · obtain rfl := Option.mem_unique there held
        exact same
    · exact Table.find_eq_none_of_rows_append rows
    · intro drives unreleased
      exact Table.apart_of_rows_append rows other mem (.inr (.inr (.inr ⟨unreleased, rfl, drives⟩)))
    · rw [rows, own]
      unfold assignmentOf
      rw [named]
    · rw [shown, told, made]
      simp only [List.append_assoc]
      rfl
  · unfold rejectOffer at rejected
    simp only [updateHandoffs_bind_ok, event_bind_ok, pure_ok] at rejected
    obtain ⟨handoffs, moved, first, told, _, rfl⟩ := rejected
    have new : { offer with
        state := if response.accept = true then .accepted else .rejected,
        version := response.expectedVersion + 1 } = resolvedOffer offer .rejected := by
      rw [if_neg declined, ← version]
      rfl
    refine .resolved (moves_of_update held moved (fun _ _ => Iff.rfl) rfl rfl rfl rfl)
      (resolves_of_update found answered (fun _ _ => ?_) new created own.symm offering rfl)
      ?_ rfl told
    · rw [named]
    · simp

theorem respond_effect (apart : OffersApart config.hash) (kept : ResponsesKept config.hash s)
    (ran : Service.respond config sources response s = .ok (answer, t)) :
    HandoffEffect config s t (.respond sources response) := by
  unfold Service.respond at ran
  rcases ite_ok.1 ran with ⟨_, answered⟩ | ⟨unrequired, answered⟩
  · unfold respondCanonical at answered
    simp only [steps_ok, Option.filter_eq_some_iff] at answered
    obtain ⟨offer, ⟨found, _⟩, handoff, held, online, answered⟩ := answered
    refine repositoryRespond_effect apart kept (fun other row found' stored' accepts open_ _ => ?_)
      answered
    obtain rfl := Option.some.inj (found.symm.trans found')
    obtain rfl := Option.some.inj (held.symm.trans stored')
    exact online accepts open_
  · exact repositoryRespond_effect apart kept
      (fun _ _ _ _ _ _ required => absurd required unrequired) answered

theorem resolveOpenOffer_effect {outcome : HandoffOfferState} {answer : Unit}
    (ran : resolveOpenOffer offerId outcome time s = .ok (answer, t)) :
    HandoffEffect config s t action := by
  unfold resolveOpenOffer at ran
  simp only [steps_ok, updateOffers_bind_ok, updateHandoffs_bind_ok, event_ok] at ran
  obtain ⟨supported, offer, found, handoff, held, created, _, offering, offers, answered,
    handoffs, moved, events, told, rfl⟩ := ran
  have named : offer.offerId = offerId := Table.key_of_find found
  have own : handoff.handoffId = offer.handoffId := Table.key_of_find held
  rw [← own] at held
  rw [← named] at found
  refine .resolved (moves_of_update held moved (fun _ _ => Iff.rfl) rfl rfl rfl rfl)
    (resolves_of_update found answered (fun _ _ => ?_) rfl created own.symm offering rfl)
    ?_ rfl told
  · rw [named]
  · rcases supported with rfl | rfl <;> simp

theorem revokeDriverOffer_effect {driverId : Uuid} {answer : Bool}
    (ran : revokeDriverOffer driverId time s = .ok (answer, t)) :
    HandoffEffect config s t action := by
  unfold revokeDriverOffer at ran
  simp only [steps_ok, whenSome_ok] at ran
  obtain ⟨offer, _, resolved⟩ | ⟨_, _, rfl⟩ := ran
  · rw [bind_pure_ok] at resolved
    obtain ⟨_, resolved, _⟩ := resolved
    exact resolveOpenOffer_effect resolved
  · exact .kept rfl rfl rfl rfl

theorem cancelBeforeAssignment_effect {rideRequestId : Uuid} {answer : Bool}
    (ran : cancelBeforeAssignment rideRequestId time s = .ok (answer, t)) :
    HandoffEffect config s t (.cancelBeforeAssignment rideRequestId time) := by
  unfold cancelBeforeAssignment closeOffers at ran
  simp only [steps_ok, whenSome_ok, ite_ok, updateOffers_bind_ok, updateHandoffs_bind_ok,
    event_bind_ok] at ran
  obtain ⟨handoff, found, unassigned, ⟨_, _, rfl⟩ | ⟨_, offers, closed, handoffs, moved, events,
    told, _, rfl⟩⟩ | ⟨_, _, rfl⟩ := ran
  · exact .kept rfl rfl rfl rfl
  · have held : s.handoffs.find handoff.handoffId = some handoff :=
      Table.find_of_mem (List.mem_of_find?_eq_some found)
    exact .cancelled unassigned
      ⟨moves_of_update held moved (fun _ _ => Iff.rfl) rfl rfl rfl rfl, closed, rfl, told⟩
  · exact .kept rfl rfl rfl rfl

theorem closeHandoffs_sweeps {handoffs : List DispatchHandoff} {answer : Unit}
    (distinct : (handoffs.map DispatchHandoff.handoffId).Nodup)
    (held : ∀ handoff ∈ handoffs, s.handoffs.find handoff.handoffId = some handoff)
    (unassigned : ∀ handoff ∈ handoffs, handoff.state ∈ [HandoffState.searching, .offering])
    (ran : closeHandoffs time handoffs s = .ok (answer, t)) :
    Relation.ReflTransGen (SweepsOne time) s t := by
  induction handoffs generalizing s with
  | nil =>
    obtain ⟨_, rfl⟩ := pure_ok.1 ran
    exact .refl
  | cons handoff rest ih =>
    unfold closeHandoffs closeOffers at ran
    simp only [updateOffers_bind_ok, updateHandoffs_bind_ok, event_bind_ok] at ran
    obtain ⟨offers, closed, moved, rows, events, told, swept⟩ := ran
    obtain ⟨fresh, apart⟩ := List.nodup_cons.1 distinct
    have found := held handoff List.mem_cons_self
    -- the version that was read still stands, so the row itself is the one that moves
    have moves : Moves s { s with offers, handoffs := moved, events } handoff
        (handoff.moved .noDriver) := by
      refine moves_of_update found rows (fun other mem => ?_) rfl rfl rfl rfl
      refine ⟨And.left, fun same => ⟨same, ?_⟩⟩
      rw [s.handoffs.eq_of_key mem (Table.mem_of_find found) same]
    refine .head ⟨handoff, unassigned handoff List.mem_cons_self, moves, closed, rfl, told⟩
      (ih apart (fun other mem => ?_) (fun other mem => ?_) swept)
    · have different : other.handoffId ≠ handoff.handoffId := fun same =>
        fresh (same ▸ List.mem_map_of_mem mem)
      rw [find_of_moves moves, if_neg different]
      exact held other (List.mem_cons_of_mem _ mem)
    · exact unassigned other (List.mem_cons_of_mem _ mem)

theorem closeExpiredHandoffs_effect {limit : Nat} {locked : List Uuid} {answer : Nat}
    (ran : closeExpiredHandoffs time limit locked s = .ok (answer, t)) :
    HandoffEffect config s t (.closeExpiredHandoffs time limit locked) := by
  unfold closeExpiredHandoffs at ran
  rw [get_bind_ok, bind_pure_ok] at ran
  obtain ⟨_, swept, _⟩ := ran
  have chosen : ∀ handoff ∈ expiredHandoffs s time limit locked,
      handoff ∈ s.handoffs.rows ∧ handoff.state ∈ [HandoffState.searching, .offering] := by
    intro handoff mem
    have listed := mem_orderedBy.1 (List.mem_of_mem_take mem)
    obtain ⟨held, meets⟩ := List.mem_filter.1 listed
    exact ⟨held, (of_decide_eq_true meets).1⟩
  refine .swept (closeHandoffs_sweeps ?_ (fun handoff mem => ?_) (fun handoff mem => ?_) swept)
  · have keys : (s.handoffs.rows.map DispatchHandoff.handoffId).Nodup := s.handoffs.keys_nodup
    refine ((List.take_sublist limit _).map DispatchHandoff.handoffId).nodup ?_
    refine ((List.perm_insertionSort _ _).map DispatchHandoff.handoffId).nodup_iff.2 ?_
    exact (List.filter_sublist.map DispatchHandoff.handoffId).nodup keys
  · exact Table.find_of_mem (chosen handoff mem).1
  · exact (chosen handoff mem).2

theorem effect_of_commit {α : Type} (body : HandoffTransaction α)
    (ran : ∀ answer t, body s = .ok (answer, t) → HandoffEffect config s t action) :
    HandoffEffect config s (commit body s) action :=
  commit_related (R := fun s t => HandoffEffect config s t action) body s (.kept rfl rfl rfl rfl)
    ran

theorem step_effect (apart : OffersApart config.hash) (kept : ResponsesKept config.hash s)
    (action : HandoffAction) : HandoffEffect config s (handoffStep config s action) action := by
  cases action with
  | receive =>
    exact effect_of_commit _ fun _ _ ran => receive_effect ran
  | offerNext =>
    exact effect_of_commit _ fun _ _ ran => offerNext_effect ran
  | respond =>
    exact effect_of_commit _ fun _ _ ran => respond_effect apart kept ran
  | expireOffer | supersedeOffer =>
    exact effect_of_commit _ fun _ _ ran => resolveOpenOffer_effect ran
  | revokeDriverOffer =>
    exact effect_of_commit _ fun _ _ ran => revokeDriverOffer_effect ran
  | cancelBeforeAssignment =>
    exact effect_of_commit _ fun _ _ ran => cancelBeforeAssignment_effect ran
  | closeExpiredHandoffs =>
    exact effect_of_commit _ fun _ _ ran => closeExpiredHandoffs_effect ran

end

end Ayo.Handoff.Effects
