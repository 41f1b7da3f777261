/- digest: A ride that is never reassigned is recovered from its events. -/

import Ayo.ActiveRides.PickupFirst
import Mathlib.Data.List.Chain

namespace Ayo.ActiveRides.Recovery

open Kernel.UnitOfWork Kernel.Run Kernel.KeyedTable Kernel.Ordering Core.Values
open Application (Draws RideConfig)
open Effects Engine Models PickupFirst Repository ActiveRides.System
open Rides.Sources (ActiveRideState)

def Follows (earlier later : RideEvent) : Prop := later.stateFrom = earlier.stateTo

/-- The events of the ride are numbered without a gap, each follows the one before it, and their
replay gives the stored state. -/
structure Recoverable (store : ActiveRideStore) (rideId : Uuid) (ride : ActiveRide) : Prop where
  found : store.rides.find rideId = some ride
  sequences : (eventsOf store rideId).map RideEvent.sequence = List.range' 1 ride.lastSequence
  chained : (eventsOf store rideId).IsChain Follows
  replays : replayCanonicalState rideId store = .ok (ride.state, store)

/-- The action does not reassign the ride. -/
def NotReassigned (rideId : Uuid) (store : ActiveRideStore) : RideAction → Prop
  | .reassign id _ _ _ _ => id = rideId → rideState store rideId ≠ some .reassigning
  | _ => True

instance (rideId : Uuid) (store : ActiveRideStore) (action : RideAction) :
    Decidable (NotReassigned rideId store action) :=
  match action with
  | .reassign _ _ _ _ _ => inferInstanceAs (Decidable (_ → _ ≠ _))
  | .call _ | .evidence _ _ _ _ | .startFromAssignment _ _ _ | .createFromAssignment _ _ =>
    .isTrue trivial

/-- The events of the ride as their table has them: the last one tells the state of the ride. -/
structure Told (rows : RideRows) (rideId : Uuid) (ride : ActiveRide) (earlier : List RideEvent)
    (last : RideEvent) : Prop where
  found : rows.rides.find rideId = some ride
  split : rows.events.rows.filter (fun event => event.rideId = rideId) = earlier ++ [last]
  sequences : (earlier ++ [last]).map RideEvent.sequence = List.range' 1 ride.lastSequence
  chained : (earlier ++ [last]).IsChain Follows
  told : ∀ event ∈ earlier, event.stateTo ≠ none
  state : last.stateTo = some ride.state

def Traced (rideId : Uuid) (rows : RideRows) : Prop :=
  ∃ ride earlier last, Told rows rideId ride earlier last

section

variable {store : ActiveRideStore} {rideId : Uuid}

theorem replayedState_ok {event : RideEvent} {state : ActiveRideState}
    (told : event.stateTo = some state) : replayedState event store = .ok (state, store) := by
  unfold RideEvent.stateTo RideEvent.stateAt at told
  unfold replayedState
  cases read : event.payload.lookup "state_to" with
  | none => simp [read] at told
  | some value =>
    rw [read] at told
    cases value with
    | text => exact demand_ok.2 ⟨told, rfl⟩
    | null | number _ | uuid _ | time _ | list _ => cases told

theorem replayFrom_ok {events : List RideEvent} {expected : Nat} {state : Option ActiveRideState}
    (numbered : events.map RideEvent.sequence = List.range' expected events.length)
    (told : ∀ event ∈ events, event.stateTo ≠ none) :
    replayFrom expected state events store =
      .ok (events.foldl (fun _ event => event.stateTo) state, store) := by
  induction events generalizing expected state with
  | nil => rfl
  | cons event rest ih =>
    rw [List.map_cons, List.length_cons, List.range'_succ, List.cons.injEq] at numbered
    obtain ⟨first, numbered⟩ := numbered
    obtain ⟨target, leads⟩ := Option.ne_none_iff_exists'.1 (told event List.mem_cons_self)
    have rest_told : ∀ other ∈ rest, other.stateTo ≠ none :=
      fun other mem => told other (List.mem_cons_of_mem event mem)
    unfold replayFrom
    refine require_bind_ok.2 ⟨first, bind_ok.2 ⟨target, store, replayedState_ok leads, ?_⟩⟩
    rw [ih numbered rest_told, List.foldl_cons, leads]

theorem recoverable_of_told {ride : ActiveRide} {earlier : List RideEvent} {last : RideEvent}
    (tells : Told (rideRows store) rideId ride earlier last) : Recoverable store rideId ride := by
  have numbered : (earlier ++ [last]).map RideEvent.sequence =
      List.range' 1 (earlier ++ [last]).length := by
    have count := congrArg List.length tells.sequences
    rw [List.length_map, List.length_range'] at count
    rw [count]
    exact tells.sequences
  have ordered : eventsOf store rideId = earlier ++ [last] := by
    have split : store.events.rows.filter (fun event => event.rideId = rideId) = earlier ++ [last] :=
      tells.split
    unfold eventsOf
    rw [split]
    refine orderedBy_of_pairwise ?_
    have ascending : ((earlier ++ [last]).map RideEvent.sequence).Pairwise (· ≤ ·) := by
      rw [numbered]
      exact List.pairwise_le_range'
    exact List.pairwise_map.1 ascending
  have told : ∀ event ∈ earlier ++ [last], event.stateTo ≠ none := by
    intro event mem
    rcases List.mem_append.1 mem with old | new
    · exact tells.told event old
    · rw [List.mem_singleton.1 new, tells.state]
      exact Option.some_ne_none ride.state
  refine ⟨tells.found, ?_, ?_, ?_⟩
  · rw [ordered]
    exact tells.sequences
  · rw [ordered]
    exact tells.chained
  · unfold replayCanonicalState
    refine get_bind_ok.2 (require_bind_ok.2 ⟨?_, bind_ok.2 ⟨some ride.state, store, ?_, ?_⟩⟩)
    · rw [ordered]
      simp
    · rw [ordered, replayFrom_ok numbered told, List.foldl_append]
      simp [tells.state]
    · exact demand_bind_ok.2 ⟨ride, tells.found, require_bind_ok.2 ⟨rfl, pure_ok.2 ⟨rfl, rfl⟩⟩⟩

end

section

variable {config : RideConfig} {rideId : Uuid} {request : TransitionRequest}
  {earlier : List RideEvent} {s t : RideRows} {ride : ActiveRide} {last : RideEvent}

theorem stateFrom_transitionEvent {old : ActiveRide} {eventType : RideCode} :
    (transitionEvent request old eventType).stateFrom = some old.state := by
  have told : (transitionEvent request old eventType).payload.lookup "state_from" =
      some (.text (stateValue old.state)) := by
    unfold transitionEvent
    exact lookup_merged rfl
  unfold RideEvent.stateFrom RideEvent.stateAt
  rw [told]
  exact stateNamed?_stateValue

theorem Told.frame {event : RideEvent} (tells : Told s rideId ride earlier last)
    (events : t.events.rows = s.events.rows ++ [event]) (apart : event.rideId ≠ rideId)
    (kept : t.rides.find rideId = s.rides.find rideId) : Told t rideId ride earlier last := by
  refine ⟨kept.trans tells.found, ?_, tells.sequences, tells.chained, tells.told, tells.state⟩
  rw [events, List.filter_append, tells.split]
  simp [apart]

theorem Told.transitioned {hash : Payload → Digest}
    {current : ActiveRide} (tells : Told s request.rideId ride earlier last)
    (change : Transitioned hash request current s t) : Traced request.rideId t := by
  have one : ride = current := Option.some.inj (tells.found.symm.trans change.found)
  subst one
  have own : ride.rideId = request.rideId := Table.key_of_find change.found
  obtain ⟨eventType, events⟩ := change.events
  refine ⟨moved ride request.target request.now, earlier ++ [last],
    transitionEvent request ride eventType, ?_, ?_, ?_, ?_, ?_, ?_⟩
  · rw [change.find, if_pos rfl]
  · have named : (transitionEvent request ride eventType).rideId = request.rideId := own
    rw [events, List.filter_append, tells.split]
    simp [named]
  · rw [List.map_append, tells.sequences]
    show List.range' 1 ride.lastSequence ++ [ride.lastSequence + 1] =
      List.range' 1 (ride.lastSequence + 1)
    rw [List.range'_concat, Nat.one_mul, Nat.add_comm 1]
  · refine tells.chained.append (List.IsChain.singleton _) fun front final next head => ?_
    obtain rfl : last = front := by simpa using final
    obtain rfl : transitionEvent request ride eventType = next := by simpa using head
    exact (stateFrom_transitionEvent).trans tells.state.symm
  · intro event mem
    rcases List.mem_append.1 mem with old | new
    · exact tells.told event old
    · rw [List.mem_singleton.1 new, tells.state]
      exact Option.some_ne_none ride.state
  · exact stateTo_transitionEvent request ride eventType

variable (store : ActiveRideStore)

theorem step_preserves_traced (action : RideAction) (guarded : NotReassigned rideId store action)
    (traced : Traced rideId (rideRows store)) :
    Traced rideId (rideRows (rideStep config store action)) := by
  have effect := step_effect config store action
  generalize rideRows (rideStep config store action) = t at effect
  obtain ⟨ride, earlier, last, tells⟩ := traced
  cases effect with
  | kept => exact ⟨ride, earlier, last, tells⟩
  | @transitioned call _ old _ found owns granted change =>
    by_cases same : rideId = call.rideId
    · rw [same, ← transitionRequest_rideId call] at tells
      rw [same, ← transitionRequest_rideId call]
      exact tells.transitioned change
    · obtain ⟨eventType, events⟩ := change.events
      have named : old.rideId = call.rideId := by
        rw [← transitionRequest_rideId call]
        exact Table.key_of_find change.found
      refine ⟨ride, earlier, last, tells.frame events ?_ ?_⟩
      · exact fun own => same (own.symm.trans named)
      · rw [change.find, transitionRequest_rideId, if_neg same]
  | @started _ _ _ opened _ _ named state first told change
  | @created _ opened _ _ state untold change =>
    have apart : rideId ≠ opened.rideId := by
      intro same
      have absent := change.absent
      rw [← same, tells.found] at absent
      cases absent
    refine ⟨ride, earlier, last, tells.frame change.events ?_ ?_⟩
    · exact fun own => apart (own.symm.trans change.own)
    · rw [change.find, if_neg apart]
  | @reassigned id _ _ _ _ old _ _ change =>
    have apart : rideId ≠ id := by
      intro same
      refine guarded same.symm ?_
      have found : store.rides.find rideId = some old := same ▸ change.found
      rw [rideState, found]
      exact congrArg some change.waiting
    have named : old.rideId = id := Table.key_of_find change.found
    refine ⟨ride, earlier, last, tells.frame change.events ?_ ?_⟩
    · exact fun own => apart (own.symm.trans (change.own.trans named))
    · rw [change.find, if_neg apart]

def Rooted : Prop :=
  ∀ event ∈ store.events.rows, store.rides.find event.rideId ≠ none

theorem step_preserves_rooted (action : RideAction) (rooted : Rooted store) :
    Rooted (rideStep config store action) := by
  have effect := step_effect config store action
  change ∀ event ∈ (rideRows (rideStep config store action)).events.rows,
    (rideRows (rideStep config store action)).rides.find event.rideId ≠ none
  generalize rideRows (rideStep config store action) = t at effect
  -- one ride changes or is new, and the new event is one of that ride
  have grown : ∀ {id : Uuid} {ride : ActiveRide} {added : RideEvent},
      t.events.rows = (rideRows store).events.rows ++ [added] → added.rideId = id →
      (∀ other, t.rides.find other =
        if other = id then some ride else (rideRows store).rides.find other) →
      ∀ event ∈ t.events.rows, t.rides.find event.rideId ≠ none := by
    intro id ride added events own find event held
    rw [find]
    by_cases same : event.rideId = id
    · rw [if_pos same]
      exact Option.some_ne_none ride
    · rw [if_neg same]
      rw [events] at held
      rcases List.mem_append.1 held with old | new
      · exact rooted event old
      · exact absurd (List.mem_singleton.1 new ▸ own) same
  cases effect with
  | kept => exact rooted
  | transitioned found owns granted change =>
    obtain ⟨eventType, events⟩ := change.events
    exact grown events (Table.key_of_find change.found) change.find
  | started named state first told change => exact grown change.events change.own change.find
  | created state untold change => exact grown change.events change.own change.find
  | reassigned change =>
    have named := Table.key_of_find change.found
    exact grown change.events (change.own.trans named) change.find

theorem traced_of_opened {store : ActiveRideStore} (rooted : Rooted store)
    (absent : store.rides.find rideId = none)
    {assignments : Uuid → Option AssignmentSource} {assignmentId : Uuid} {draws : Draws}
    (opened : (rideStep config store
      (.startFromAssignment assignments assignmentId draws)).rides.find rideId ≠ none) :
    Traced rideId
      (rideRows (rideStep config store (.startFromAssignment assignments assignmentId draws))) := by
  have effect := step_effect config store (.startFromAssignment assignments assignmentId draws)
  change (rideRows (rideStep config store
    (.startFromAssignment assignments assignmentId draws))).rides.find rideId ≠ none at opened
  generalize rideRows (rideStep config store
    (.startFromAssignment assignments assignmentId draws)) = t at effect opened
  cases effect with
  | kept => exact absurd absent opened
  | @started _ _ _ ride event _ named state first told change =>
    have own : rideId = ride.rideId := by
      by_contra other
      rw [change.find, if_neg other] at opened
      exact opened absent
    have none_before : (rideRows store).events.rows.filter (fun event => event.rideId = rideId) =
        [] := by
      refine List.filter_eq_nil_iff.2 fun old held same => rooted old held ?_
      rw [of_decide_eq_true same]
      exact absent
    refine ⟨ride, [], event, ?_, ?_, ?_, List.IsChain.singleton _, nofun, ?_⟩
    · rw [change.find, if_pos own]
    · rw [change.events, List.filter_append, none_before]
      simp [change.own, own]
    · simp [change.sequence, first]
    · rw [told, state]

end

/-- A ride that is opened from an immediate assignment, and is not reassigned, is recoverable in
every state that any actions reach. -/
theorem recoverable_of_run (config : RideConfig) {earlier later : List RideAction}
    {assignments : Uuid → Option AssignmentSource} {assignmentId rideId : Uuid} {draws : Draws}
    (absent : (run (rideStep config) {} earlier).rides.find rideId = none)
    (opened : (run (rideStep config) {}
      (earlier ++ [.startFromAssignment assignments assignmentId draws])).rides.find rideId ≠ none)
    (guarded : Along (rideStep config) (NotReassigned rideId) (run (rideStep config) {}
      (earlier ++ [.startFromAssignment assignments assignmentId draws])) later) :
    ∃ ride, Recoverable (run (rideStep config) {}
      (earlier ++ [.startFromAssignment assignments assignmentId draws] ++ later)) rideId ride := by
  have rooted : Rooted (run (rideStep config) {} earlier) :=
    run_invariant step_preserves_rooted earlier fun _ stored => absurd stored List.not_mem_nil
  have traced : Traced rideId (rideRows (run (rideStep config) {}
      (earlier ++ [.startFromAssignment assignments assignmentId draws]))) := by
    rw [run_append] at opened ⊢
    exact traced_of_opened rooted absent opened
  rw [run_append]
  obtain ⟨ride, front, last, tells⟩ := @run_invariant_along _ _ (rideStep config)
    (fun store => Traced rideId (rideRows store)) (NotReassigned rideId) step_preserves_traced _ _
    guarded traced
  exact ⟨ride, recoverable_of_told tells⟩

def givenUp : List RideAction :=
  [byDriver "driver_en_route" .driverEnRoute 0 2, rideCall ⟨2, .driver⟩
     (.evidenceTransition ⟨envelopeAfter 1 3, rideNeedsHelp, []⟩ "driver_cancellation_requested"
       .reassigning true) 3]

theorem recoverable_of_run_given_up :
    ∃ ride, Recoverable (run (rideStep rideConfig) {} ([] ++ [rideStarted 1] ++ givenUp)) 10 ride :=
  recoverable_of_run rideConfig (by decide +kernel) (by decide +kernel) (by decide +kernel)

/-- The ride that was given up is reassigned, and its replay meets an event without a state. -/
theorem unrecoverable_when_reassigned :
    ¬ ∀ (config : RideConfig) (earlier later : List RideAction)
      (assignments : Uuid → Option AssignmentSource) (assignmentId rideId : Uuid) (draws : Draws),
      (run (rideStep config) {} earlier).rides.find rideId = none →
      (run (rideStep config) {}
        (earlier ++ [.startFromAssignment assignments assignmentId draws])).rides.find rideId ≠
          none →
      ∃ ride, Recoverable (run (rideStep config) {}
        (earlier ++ [.startFromAssignment assignments assignmentId draws] ++ later)) rideId ride := by
  intro claimed
  obtain ⟨ride, _, _, _, replays⟩ := claimed rideConfig []
    (givenUp ++ [.reassign 10 5 14 (seconds 4) 1004]) (fun _ => some assignmentOfRide) 13 10
    (drawsAt 1) (by decide +kernel) (by decide +kernel)
  have stuck : (replayCanonicalState 10 (run (rideStep rideConfig) {} ([] ++ [rideStarted 1] ++
      (givenUp ++ [.reassign 10 5 14 (seconds 4) 1004])))).isOk = false := by
    decide +kernel
  unfold rideStarted at stuck
  rw [replays] at stuck
  cases stuck

end Ayo.ActiveRides.Recovery
