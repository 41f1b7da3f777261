/- digest: When every assignment is made before its handoff expires. -/

import Ayo.Handoff.EmptyRounds

namespace Ayo.Handoff.LateAssignments

open Kernel.UnitOfWork Kernel.KeyedTable Kernel.Run Kernel.Updates Core.Values Consistency Effects
  EmptyRounds Models Repository Responses Service Handoff.System

/-- Every assignment was made before its handoff expired. -/
def AssignedInTime (store : HandoffStore) : Prop :=
  ∀ assignment ∈ store.assignments.rows, ∃ handoff,
    store.handoffs.find assignment.handoffId = some handoff ∧
      assignment.assignedAt < handoff.expiresAt

/-- A response that takes up an offer comes before the end of the handoff. -/
def AcceptsInTime (config : HandoffConfig) (store : HandoffStore) : HandoffAction → Prop
  | .respond sources response => ∀ offer handoff,
    Carries config sources store response offer handoff → response.time < handoff.expiresAt
  | _ => True

section

variable {config : HandoffConfig} {store t : HandoffStore} {handoff new : DispatchHandoff}

theorem assignedInTime_of_moves
    (inTime : AssignedInTime store) (moves : Moves store t handoff new)
    (assignments : ∀ assignment ∈ t.assignments.rows, assignment ∈ store.assignments.rows ∨
      (assignment.handoffId = handoff.handoffId ∧ assignment.assignedAt < handoff.expiresAt)) :
    AssignedInTime t := by
  intro assignment mem
  rcases assignments assignment mem with old | ⟨own, early⟩
  · obtain ⟨other, found, early⟩ := inTime assignment old
    rw [find_of_moves moves]
    by_cases same : assignment.handoffId = handoff.handoffId
    · rw [same, moves.found] at found
      obtain rfl := Option.some.inj found
      exact ⟨new, if_pos same, moves.expiresAt.symm ▸ early⟩
    · exact ⟨other, by rw [if_neg same, found], early⟩
  · refine ⟨new, ?_, moves.expiresAt.symm ▸ early⟩
    rw [find_of_moves moves, if_pos own]

theorem assignedInTime_of_kept (inTime : AssignedInTime store) (moves : Moves store t handoff new)
    (assignments : t.assignments = store.assignments) : AssignedInTime t :=
  assignedInTime_of_moves inTime moves fun _ mem => .inl (assignments ▸ mem)

theorem step_assignedInTime {action : HandoffAction} (guarded : AcceptsInTime config store action)
    (effect : HandoffEffect config store t action) (inTime : AssignedInTime store) :
    AssignedInTime t := by
  cases effect with
  | kept handoffs offers assignments =>
    unfold AssignedInTime
    rwa [handoffs, assignments]
  | received handoffs searching first offers assignments =>
    intro assignment mem
    rw [assignments] at mem
    obtain ⟨handoff, found, early⟩ := inTime assignment mem
    refine ⟨handoff, ?_, early⟩
    rw [Table.find_of_rows_append handoffs, found]
    rfl
  | emptyRound found unranked handoffs offers assignments =>
    unfold AssignedInTime
    rwa [handoffs, assignments]
  | offered moves searching created own offers assignments =>
    exact assignedInTime_of_kept inTime moves assignments
  | resolved moves resolves ended assignments =>
    exact assignedInTime_of_kept inTime moves assignments
  | assigned moves resolves carries assignments =>
    refine assignedInTime_of_moves inTime moves fun assignment mem => ?_
    rw [assignments, List.mem_append, List.mem_singleton] at mem
    refine mem.imp id ?_
    rintro rfl
    exact ⟨resolves.own, guarded _ _ carries⟩
  | cancelled unassigned closes =>
    exact assignedInTime_of_kept inTime closes.moves closes.assignments
  | swept sweeps =>
    induction sweeps with
    | refl => exact inTime
    | tail _ sweep ih =>
      obtain ⟨handoff, _, closes⟩ := sweep
      exact assignedInTime_of_kept ih closes.moves closes.assignments

end

section

variable {config : HandoffConfig} {sources : DispatchSources} {store : HandoffStore}
  {response : OfferResponse} {offer : HandoffOffer} {handoff : DispatchHandoff}

theorem exists_reserved (apart : OffersApart config.hash) (kept : ResponsesKept config.hash store)
    (carries : Carries config sources store response offer handoff) :
    ∃ reservations, reserveIdempotency config.hash response.driverId "offer_response"
      response.idempotencyKey
      (responsePayload response.offerId response.accept response.expectedVersion)
      response.offerId response.time store =
        .ok (response.offerId, { store with reservations }) := by
  have reserved : ∃ canonical reservations, reserveIdempotency config.hash response.driverId
      "offer_response" response.idempotencyKey
      (responsePayload response.offerId response.accept response.expectedVersion)
      response.offerId response.time store = .ok (canonical, { store with reservations }) := by
    cases found : store.reservations.find
        (response.driverId, "offer_response", response.idempotencyKey) with
    | some existing =>
      refine ⟨existing.responseReference, store.reservations, recast_ok.2 (within_ok.2 ?_)⟩
      exact ⟨store.reservations, Core.Authorization.reserveIdempotency_of_stored found
        (carries.asked existing found) _ _, rfl⟩
    | none =>
      have inserted : ∃ reservations : Table Core.Authorization.Reservation, reservations.rows =
          store.reservations.rows ++ [{
            actorId := response.driverId, operation := "offer_response",
            idempotencyKey := response.idempotencyKey,
            requestHash := config.hash (responsePayload response.offerId response.accept
              response.expectedVersion),
            responseReference := response.offerId, createdAt := response.time }] :=
        Table.exists_inserted fun other mem same => Table.find_eq_none.1 found other mem same
      obtain ⟨reservations, rows⟩ := inserted
      refine ⟨response.offerId, reservations, recast_ok.2 (within_ok.2 ⟨reservations, ?_, rfl⟩)⟩
      unfold Core.Authorization.reserveIdempotency
      refine get_bind_ok.2 (whenSome_ok.2 (.inl ⟨reservations, Table.insert?_eq_some.2 rows, ?_⟩))
      exact put_bind_ok.2 (pure_ok.2 ⟨rfl, rfl⟩)
  obtain ⟨canonical, reservations, ran⟩ := reserved
  obtain rfl := canonical_eq apart kept ran
  exact ⟨reservations, ran⟩

theorem offering_of_carries (consistent : Consistent store)
    (carries : Carries config sources store response offer handoff) :
    handoff.state = .offering := by
  obtain ⟨other, found, offering⟩ :=
    consistent.offering offer (Table.mem_of_find carries.found) carries.created
  obtain rfl := Option.some.inj (carries.own.symm.trans found)
  exact offering

theorem exists_answered (offers : Table HandoffOffer) (offerId : Uuid)
    (change : HandoffOffer → HandoffOffer)
    (keeps : ∀ other, (change other).offerId = other.offerId ∧ (change other).state ≠ .created) :
    ∃ answered : Table HandoffOffer, answered.rows =
      offers.rows.map (updateWhere (fun other => other.offerId = offerId) change) := by
  have kept : ∀ other : HandoffOffer,
      (updateWhere (fun other : HandoffOffer => other.offerId = offerId) change other).offerId =
        other.offerId ∧
      ((updateWhere (fun other : HandoffOffer => other.offerId = offerId) change other).state =
        .created → updateWhere (fun other : HandoffOffer => other.offerId = offerId) change other =
          other) := by
    intro other
    unfold updateWhere
    split
    · exact ⟨(keeps other).1, fun created => absurd created (keeps other).2⟩
    · exact ⟨rfl, fun _ => rfl⟩
  refine offers.exists_rewritten fun a b clash => ?_
  rcases clash with same | ⟨first, second, same⟩
  · exact .inl ((kept a).1.symm.trans (same.trans (kept b).1))
  · rw [(kept a).2 first, (kept b).2 second] at same
    rw [(kept a).2 first] at first
    rw [(kept b).2 second] at second
    exact .inr ⟨first, second, same⟩

theorem exists_assigned (consistent : Consistent store)
    (carries : Carries config sources store response offer handoff) :
    ∃ assignments : Table HandoffAssignment,
      assignments.rows = store.assignments.rows ++ [assignmentOf response offer] := by
  refine Table.exists_inserted fun other mem clash => ?_
  rcases clash with same | same | same | ⟨unreleased, -, driver⟩
  · exact Table.find_eq_none.1 carries.fresh other mem same
  · obtain ⟨row, found, assigned, _⟩ := consistent.taken other mem
    have own : other.handoffId = offer.handoffId := same
    rw [own, carries.own] at found
    obtain rfl := Option.some.inj found
    simp [offering_of_carries consistent carries] at assigned
  · obtain ⟨row, found, accepted, _⟩ := consistent.answered other mem
    have named : other.offerId = response.offerId :=
      Eq.trans same (Table.key_of_find carries.found)
    rw [named, carries.found] at found
    obtain rfl := Option.some.inj found
    simp [carries.created] at accepted
  · exact carries.unoccupied other mem driver unreleased

theorem respond_of_carries (apart : OffersApart config.hash)
    (kept : ResponsesKept config.hash store) (consistent : Consistent store)
    (behind : EventsBehind store) (carries : Carries config sources store response offer handoff) :
    ∃ t, Service.respond config sources response store = .ok (some response.assignmentId, t) ∧
      t.assignments.rows = store.assignments.rows ++ [assignmentOf response offer] ∧
      ∃ new, Moves store t handoff new := by
  have own : handoff.handoffId = offer.handoffId := Table.key_of_find carries.own
  have found : store.handoffs.find handoff.handoffId = some handoff := own ▸ carries.own
  have offering := offering_of_carries consistent carries
  obtain ⟨reservations, reserved⟩ := exists_reserved apart kept carries
  obtain ⟨offers, answered⟩ := exists_answered store.offers response.offerId
    (fun other => { other with
      state := if response.accept = true then .accepted else .rejected,
      version := response.expectedVersion + 1 }) fun _ => ⟨rfl, by simp [carries.accepts]⟩
  obtain ⟨assignments, assigned⟩ := exists_assigned consistent carries
  obtain ⟨handoffs, moved⟩ := exists_updated store handoff.handoffId
    (fun other => { other.moved .assigned with assignedDriverId := some response.driverId })
    fun _ => ⟨rfl, rfl⟩
  have next_free := find_next_event_eq_none behind found
  obtain ⟨made, created⟩ := exists_event (handoff.moved .assigned) "dispatch.assignment_created"
    response.time (next_free _)
  obtain ⟨told, confirmed⟩ := exists_event (handoff.moved .assigned)
    "dispatch.driver.acceptance_confirmed" response.time
    (find_event_eq_none created (next_free _) (by simp))
  obtain ⟨shown, notified⟩ := exists_event (handoff.moved .assigned)
    "dispatch.rider.driver_accepted" response.time
    (find_event_eq_none confirmed (find_event_eq_none created (next_free _) (by simp)) (by simp))
  let after : HandoffStore := { handoffs, offers, assignments, events := shown, reservations }
  have carried : Repository.respond config.hash response store =
      .ok (some response.assignmentId, after) := by
    unfold Repository.respond
    refine bind_ok.2 ⟨_, _, reserved, ?_⟩
    simp only [steps_ok, ite_ok, updateOffers_bind_ok]
    refine ⟨offer, carries.found, carries.driver, handoff, carries.own, .inr ⟨by
      simp [carries.created], .inr ⟨by simp [carries.created], ⟨carries.created, carries.version,
        carries.unexpired⟩, offering, offers, answered, .inl ⟨carries.accepts, ?_⟩⟩⟩⟩
    unfold assignOffer
    simp only [steps_ok, updateHandoffs_bind_ok, event_bind_ok, Table.insert?_eq_some,
      Option.filter_eq_some_iff, decide_eq_true_eq]
    refine ⟨assignments, ?_, handoff, ⟨found, offering⟩, handoffs, moved, made, created, told,
      confirmed, shown, notified, trivial, rfl⟩
    rw [assigned, own]
    unfold assignmentOf
    rw [show offer.offerId = response.offerId from Table.key_of_find carries.found]
  refine ⟨after, ?_, assigned, _, moves_of_update found moved (fun _ _ => Iff.rfl) rfl rfl rfl rfl⟩
  unfold Service.respond
  refine ite_ok.2 ?_
  by_cases required : config.requireWorkerSession = true
  · refine .inl ⟨required, ?_⟩
    unfold respondCanonical
    simp only [steps_ok, Option.filter_eq_some_iff, decide_eq_true_eq]
    exact ⟨offer, ⟨carries.found, carries.driver⟩, handoff, carries.own,
      fun _ _ => carries.online required, carried⟩
  · exact .inr ⟨required, carried⟩

end

section

variable {config : HandoffConfig} {actions : List HandoffAction}

theorem run_assignedInTime (apart : OffersApart config.hash)
    (along : Along (handoffStep config) (AcceptsInTime config) {} actions) :
    AssignedInTime (run (handoffStep config) {} actions) :=
  run_effects_along apart (fun _ held => absurd held List.not_mem_nil)
    (fun _ _ _ guarded effect => step_assignedInTime guarded effect) along

theorem acceptsInTime_of_assigned (apart : OffersApart config.hash)
    (inTime : ∀ n, AssignedInTime (run (handoffStep config) {} (actions.take n))) {n : Nat}
    {action : HandoffAction} (taken : actions[n]? = some action) :
    AcceptsInTime config (run (handoffStep config) {} (actions.take n)) action := by
  cases action with
  | respond sources response =>
    intro offer handoff carries
    obtain ⟨t, ran, assignments, new, moves⟩ := respond_of_carries apart
      run_responsesKept (run_consistent apart (actions.take n))
      (run_eventsBehind apart (actions.take n)) carries
    have reached : run (handoffStep config) {} (actions.take (n + 1)) = t := by
      rw [run_take_succ taken]
      exact commit_of_ok ran
    have next := inTime (n + 1)
    rw [reached] at next
    obtain ⟨row, found, early⟩ := next (assignmentOf response offer) (by simp [assignments])
    have own : (assignmentOf response offer).handoffId = handoff.handoffId :=
      (Table.key_of_find carries.own).symm
    rw [find_of_moves moves, if_pos own] at found
    obtain rfl := Option.some.inj found
    rwa [moves.expiresAt] at early
  | receive => trivial
  | offerNext => trivial
  | expireOffer => trivial
  | supersedeOffer => trivial
  | revokeDriverOffer => trivial
  | cancelBeforeAssignment => trivial
  | closeExpiredHandoffs => trivial

/-- All assignments of a run are made before their handoffs expire exactly when every response that
takes up an offer comes before then. -/
theorem assigned_in_time_iff (apart : OffersApart config.hash) (actions : List HandoffAction) :
    (∀ n, AssignedInTime (run (handoffStep config) {} (actions.take n))) ↔
      Along (handoffStep config) (AcceptsInTime config) {} actions := by
  constructor
  · intro inTime
    exact along_of_taken fun n action taken => acceptsInTime_of_assigned apart inTime taken
  · intro along n
    rw [← List.take_append_drop n actions] at along
    exact run_assignedInTime apart (along_append.1 along).1

end

theorem assigned_in_time_iff_second_driver :
    (∀ n, AssignedInTime (run (handoffStep handoffConfig) {} (secondDriverAccepts.take n))) ↔
      Along (handoffStep handoffConfig) (AcceptsInTime handoffConfig) {} secondDriverAccepts :=
  assigned_in_time_iff offerDigest_apart secondDriverAccepts

/-- The handoff ends at 100 s, its offer ten seconds later, and the driver accepts in between. -/
def lateAcceptance : List HandoffAction :=
  [receivedAt 10, .offerNext openSources 20 [nearbyDriver 30 95] (seconds 95) 40,
   .respond openSources (answerAt 40 30 true 105)]

theorem assigned_after_expiry :
    ¬ AssignedInTime (run (handoffStep handoffConfig) {} lateAcceptance) := by
  have late : ∃ assignment ∈ (run (handoffStep handoffConfig) {} lateAcceptance).assignments.rows,
      ∀ handoff ∈ (run (handoffStep handoffConfig) {} lateAcceptance).handoffs.find
        assignment.handoffId, handoff.expiresAt ≤ assignment.assignedAt := by
    decide +kernel
  intro inTime
  obtain ⟨assignment, stored, expired⟩ := late
  obtain ⟨handoff, found, early⟩ := inTime assignment stored
  exact absurd early (not_lt.2 (expired handoff found))

end Ayo.Handoff.LateAssignments
