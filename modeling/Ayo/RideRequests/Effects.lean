/- digest: What a creation and a cancellation did. -/

import Ayo.RideRequests.Application

namespace Ayo.RideRequests.Effects

open Kernel.UnitOfWork Kernel.KeyedTable Core.Values
open Rides.Sources (RideRequestState)
open Models Engine Application

variable {config : RequestConfig} {s t : RequestStore} {request answer : RideRequest}
  {eventType : String}

theorem replaced_of_rows_inserted {ρ κ : Type} [DecidableEq κ] [Row ρ κ] {table between : Table ρ}
    {row new : ρ} (rows : between.rows = table.rows ++ [row]) (same : Row.key row = Row.key new) :
    between.replaced new = table.rows ++ [new] := by
  have apart := Table.apart_of_rows_append rows
  have kept : ∀ old ∈ table.rows, (if Row.key old = Row.key new then new else old) = old := by
    intro old held
    rw [if_neg fun key => apart old held (Row.clash_of_key (key.trans same.symm))]
  rw [Table.replaced, rows, List.map_append, List.map_congr_left kept, List.map_id']
  simp [same]

structure Beside (s t : RequestStore) : Prop where
  requests : t.requests = s.requests
  decisions : t.decisions = s.decisions
  pickups : t.pickups = s.pickups
  destinations : t.destinations = s.destinations
  audits : t.audits = s.audits

theorem Beside.trans {first second third : RequestStore} (earlier : Beside first second)
    (later : Beside second third) : Beside first third where
  requests := later.requests.trans earlier.requests
  decisions := later.decisions.trans earlier.decisions
  pickups := later.pickups.trans earlier.pickups
  destinations := later.destinations.trans earlier.destinations
  audits := later.audits.trans earlier.audits

def canonicalOf (store : RequestStore) (reservation : RequestReservation) : Uuid :=
  match store.reservations.find reservation.name with
  | some row => row.responseReference
  | none => reservation.responseReference

theorem reserveIdempotency_ok {reservation : RequestReservation} {canonical : Uuid}
    (ran : reserveIdempotency reservation s = .ok (canonical, t)) :
    canonical = canonicalOf s reservation ∧ Beside s t ∧
      ∀ row ∈ s.reservations.find reservation.name, row.requestHash = reservation.requestHash := by
  unfold reserveIdempotency at ran
  rw [get_bind_ok] at ran
  unfold canonicalOf
  cases found : s.reservations.find reservation.name with
  | some row =>
    rw [found] at ran
    obtain ⟨same, ran⟩ := require_bind_ok.1 ran
    obtain ⟨rfl, rfl⟩ := pure_ok.1 ran
    refine ⟨rfl, ⟨rfl, rfl, rfl, rfl, rfl⟩, ?_⟩
    rintro _ ⟨⟩
    exact same
  | none =>
    rw [found] at ran
    obtain ⟨reservations, _, ran⟩ := demand_bind_ok.1 ran
    rw [put_bind_ok] at ran
    obtain ⟨rfl, rfl⟩ := pure_ok.1 ran
    refine ⟨rfl, ⟨rfl, rfl, rfl, rfl, rfl⟩, fun row mem => ?_⟩
    cases mem

theorem appendEvent_ok {time : Instant} (ran : appendEvent request eventType time s = .ok ((), t)) :
    Beside s t := by
  simp only [appendEvent, ↓steps_ok] at ran
  obtain ⟨_, _, rfl⟩ := ran
  exact ⟨rfl, rfl, rfl, rfl, rfl⟩

theorem insertRequest_ok {pickup : PickupDefinition} {destination : DestinationDefinition}
    (ran : insertRequest request pickup destination s = .ok ((), t)) :
    t.requests.rows = s.requests.rows ++ [request] ∧ t.pickups.rows = s.pickups.rows ++ [pickup] ∧
      t.destinations.rows = s.destinations.rows ++ [destination] ∧
      t.decisions = s.decisions ∧ t.audits = s.audits := by
  simp only [insertRequest, ↓steps_ok, Table.insert?_eq_some] at ran
  obtain ⟨pickups, pickedUp, destinations, bound, requests, inserted, ran⟩ := ran
  obtain ⟨⟨⟩, middle, created, recorded⟩ := bind_ok.1 ran
  have beside := (appendEvent_ok created).trans (appendEvent_ok recorded)
  rw [beside.requests, beside.pickups, beside.destinations, beside.decisions, beside.audits]
  exact ⟨inserted, pickedUp, bound, rfl, rfl⟩

theorem save_ok {saved : RideRequest} {expected : Int}
    (ran : save request expected eventType s = .ok (saved, t)) :
    ∃ row, s.requests.find request.requestId = some row ∧
      (row.version : Int) = expected ∧ saved = row.written request ∧
      t.requests.rows = s.requests.replaced saved ∧
      t.decisions = s.decisions ∧ t.pickups = s.pickups ∧
      t.destinations = s.destinations ∧ t.audits = s.audits := by
  simp only [save, ↓steps_ok, Option.filter_eq_some_iff, decide_eq_true_eq,
    Table.replace?_eq_some] at ran
  obtain ⟨row, ⟨found, version⟩, requests, replaced, ran⟩ := ran
  obtain ⟨⟨⟩, appended, rfl⟩ := bind_pure_ok.1 ran
  have beside := appendEvent_ok appended
  refine ⟨row, found, version, rfl, ?_, beside.decisions, beside.pickups, beside.destinations,
    beside.audits⟩
  rw [beside.requests]
  exact replaced

theorem transition_ok {new : RideRequest} {target : RideRequestState} {time : DateTime}
    {reason : Option String} (ran : transition request target time reason s = .ok (new, t)) :
    target ∈ transitions request.state ∧ new.state = target ∧
      new.requestId = request.requestId ∧ new.riderIdentityId = request.riderIdentityId ∧
      new.expiresAt = request.expiresAt ∧ new.clientKey = request.clientKey ∧
      time.aware = true ∧ t = s := by
  simp only [transition, ↓steps_ok] at ran
  obtain ⟨leads, _, _, _, aware, rfl, rfl⟩ := ran
  exact ⟨leads, rfl, rfl, rfl, rfl, rfl, aware, rfl⟩

@[mk_iff]
structure Admissible (config : RequestConfig) (store : RequestStore) (call : CreateCall) :
    Prop where
  key : 8 ≤ call.command.idempotencyKey.length ∧ call.command.idempotencyKey.length ≤ 128
  rider : call.subject.identityType = .rider
  aware : call.time.aware = true
  known : call.identity.isSome = true
  hash : ∀ row ∈ store.reservations.find (call.reservation config).name,
    row.requestHash = call.hash config
  request : ∀ row ∈ store.requests.rows, ¬ Row.clash row
    (newRequest config call (canonicalOf store (call.reservation config)))
  pickup : ∀ row ∈ store.pickups.rows, row.pickupId ≠ call.command.pickup.pickupId
  destination : ∀ row ∈ store.destinations.rows,
    row.destinationId ≠ call.command.destination.destinationId
  decision : ∀ row ∈ store.decisions.rows, row.decisionId ≠ call.decisionId
  audit : ∀ row ∈ store.audits.rows, row.eventId ≠ call.auditId

instance (config : RequestConfig) (store : RequestStore) (call : CreateCall) :
    Decidable (Admissible config store call) :=
  decidable_of_iff _ (admissible_iff config store call).symm

def decisionOf (config : RequestConfig) (store : RequestStore) (call : CreateCall)
    (conflicting : Bool) : ValidationDecision :=
  validateRequest config (call.inputs conflicting) (canonicalOf store (call.reservation config))
    call.decisionId

/-- What a creation that returns did: nothing to the requests, or it added one that its decision
made ready or not. -/
inductive CreateEffect (config : RequestConfig) (seen s t : RequestStore)
    (call : CreateCall) : Prop where
  | existing (requests : t.requests = s.requests)
      (decisions : t.decisions = s.decisions)
  | created (admissible : Admissible config s call) (row : RideRequest)
      (requests : t.requests.rows = s.requests.rows ++ [row])
      (identified : row.requestId = canonicalOf s (call.reservation config))
      (owned : row.riderIdentityId = call.subject.identityId)
      (state : row.state = (outcomeOf (decisionOf config s call (hasActive seen
        call.subject.identityId (canonicalOf s (call.reservation config)))).status).1)
      (expires : row.expiresAt =
        call.time.instant + config.policy.requestTtlSeconds * 1000000)
      (decisions : t.decisions.rows = s.decisions.rows ++
        [decisionOf config s call (hasActive seen call.subject.identityId
          (canonicalOf s (call.reservation config)))])

theorem create_effect {seen : RequestStore} {call : CreateCall}
    (ran : create config seen call s = .ok (answer, t)) : CreateEffect config seen s t call := by
  simp only [create, rider, bind_assoc, pure_bind, ↓require_bind_ok] at ran
  obtain ⟨key, isRider, aware, ran⟩ := ran
  obtain ⟨canonical, reserved, reserves, ran⟩ := bind_ok.1 ran
  obtain ⟨rfl, beside, hash⟩ := reserveIdempotency_ok reserves
  rw [get_bind_ok] at ran
  obtain ⟨existing, _, ran⟩ | ⟨absent, ran⟩ := whenSome_ok.1 ran
  · obtain ⟨_, rfl⟩ := pure_ok.1 ran
    exact .existing beside.requests beside.decisions
  · rw [require_bind_ok] at ran
    obtain ⟨known, ran⟩ := ran
    rw [bind_ok] at ran
    obtain ⟨⟨⟩, inserted, inserts, ran⟩ := ran
    obtain ⟨rows, pickups, destinations, decisions, audits⟩ := insertRequest_ok inserts
    rw [bind_ok] at ran
    obtain ⟨validating, _, validates, ran⟩ := ran
    obtain ⟨_, _, sameId, _, _, _, _, rfl⟩ := transition_ok validates
    rw [bind_ok] at ran
    obtain ⟨first, firstSaved, saves, ran⟩ := ran
    obtain ⟨row, found, _, rfl, firstRows, firstDecisions, _, _, firstAudits⟩ := save_ok saves
    rw [bind_ok] at ran
    obtain ⟨⟨⟩, decided, decides, ran⟩ := ran
    simp only [appendValidation, ↓steps_ok, Table.insert?_eq_some] at decides
    obtain ⟨decisionTable, decisionRows, rfl⟩ := decides
    rw [bind_ok] at ran
    obtain ⟨moved, _, moves, ran⟩ := ran
    obtain ⟨_, movedState, movedId, _, _, _, _, rfl⟩ := transition_ok moves
    rw [bind_ok] at ran
    obtain ⟨result, secondSaved, savesAgain, ran⟩ := ran
    obtain ⟨row', found', _, rfl, secondRows, secondDecisions, _, _, secondAudits⟩ :=
      save_ok savesAgain
    rw [bind_pure_ok] at ran
    obtain ⟨⟨⟩, auditing, _⟩ := ran
    simp only [appendAudit, bind_ok, within_ok, pure_ok] at auditing
    obtain ⟨_, _, ⟨log, appended, rfl⟩, _, rfl⟩ := auditing
    -- Both saves find the row that was inserted, and its identifying columns stay.
    rw [beside.requests] at rows
    have inserted_row := Table.find_of_inserted rows
    obtain rfl : newRequest config call (canonicalOf s (call.reservation config)) = row :=
      Option.some.inj (inserted_row.symm.trans ((congrArg _ sameId).symm.trans found))
    have once := firstRows.trans (replaced_of_rows_inserted rows rfl)
    have first_row := Table.find_of_inserted once
    obtain rfl := Option.some.inj (first_row.symm.trans ((congrArg _ movedId).symm.trans found'))
    have twice := secondRows.trans (replaced_of_rows_inserted once rfl)
    obtain ⟨named, _, _⟩ | ⟨_, rfl, logged⟩ := PersistenceKernel.Audit.append_ok appended
    · cases named
    refine .created ⟨key, isRider, aware, known, hash, Table.apart_of_rows_append rows, ?_, ?_,
      ?_, ?_⟩ _ twice rfl rfl movedState rfl ?_
    · exact beside.pickups ▸ Table.apart_of_rows_append pickups
    · exact beside.destinations ▸ Table.apart_of_rows_append destinations
    · have apart := Table.apart_of_rows_append decisionRows
      rw [firstDecisions, decisions, beside.decisions] at apart
      exact apart
    · have apart := Table.apart_of_rows_append logged
      rw [secondAudits] at apart
      intro other held same
      refine apart other ?_ (.inl same)
      rw [firstAudits, audits, beside.audits]
      exact held
    · rw [secondDecisions, decisionRows, firstDecisions, decisions, beside.decisions]
      rfl

theorem cancel_effect {call : CancelCall} (ran : cancel config call s = .ok (answer, t)) :
    t.decisions = s.decisions ∧ (t.requests = s.requests ∨
      ∃ row, row.state = .cancelled ∧ t.requests.rows = s.requests.replaced row) := by
  simp only [cancel, rider, bind_assoc, pure_bind, ↓require_bind_ok] at ran
  obtain ⟨_, _, ran⟩ := ran
  rw [bind_ok] at ran
  obtain ⟨canonical, reserved, reserves, ran⟩ := ran
  obtain ⟨rfl, beside, _⟩ := reserveIdempotency_ok reserves
  simp only [↓get_bind_ok, ↓demand_bind_ok, ite_ok] at ran
  obtain ⟨request, _, ⟨_, ran⟩ | ⟨_, ran⟩⟩ := ran
  · obtain ⟨_, rfl⟩ := pure_ok.1 ran
    exact ⟨beside.decisions, .inl beside.requests⟩
  · rw [require_bind_ok] at ran
    obtain ⟨_, ran⟩ := ran
    rw [bind_ok] at ran
    obtain ⟨cancelled, _, cancels, ran⟩ := ran
    obtain ⟨_, state, _, _, _, _, _, rfl⟩ := transition_ok cancels
    rw [bind_ok] at ran
    obtain ⟨result, saved, saves, ran⟩ := ran
    obtain ⟨row, _, _, rfl, rows, decisions, _⟩ := save_ok saves
    rw [bind_pure_ok] at ran
    obtain ⟨⟨⟩, auditing, _⟩ := ran
    simp only [appendAudit, bind_ok, within_ok, pure_ok] at auditing
    obtain ⟨_, _, ⟨log, appended, rfl⟩, _, rfl⟩ := auditing
    rw [beside.requests] at rows
    exact ⟨decisions.trans beside.decisions, .inr ⟨row.written cancelled, state, rows⟩⟩

end Ayo.RideRequests.Effects
