/- digest: What each action does to rides, their events and command records. -/

import Ayo.ActiveRides.Application

namespace Ayo.ActiveRides.Effects

open Kernel.UnitOfWork Kernel.KeyedTable Core.Values Core.Authorization Application Engine Lifecycle
  Models Repository ActiveRides.System

structure RideRows where
  rides : Table ActiveRide
  events : Table RideEvent
  commands : Table CommandRecord

def rideRows (store : ActiveRideStore) : RideRows :=
  ⟨store.rides, store.events, store.commands⟩

def sideRows (store : ActiveRideStore) : Table EvidenceRecord × Table PickupVerification :=
  (store.evidence, store.verifications)

def transitionEvent (request : TransitionRequest) (current : ActiveRide) (eventType : RideCode) :
    RideEvent where
  eventId := request.eventId
  rideId := current.rideId
  sequence := current.lastSequence + 1
  aggregateVersion := current.version + 1
  eventType
  occurredAt := request.now
  payload := merged request.requestPayload
    [("state_from", .text (stateValue current.state)),
     ("state_to", .text (stateValue request.target))]

def transitionRecord (hash : Payload → Digest) (request : TransitionRequest)
    (current : ActiveRide) : CommandRecord where
  actorId := request.actorId
  commandId := request.commandId
  rideId := request.rideId
  commandType := request.commandType
  requestHash := request.requestHash hash
  resultVersion := current.version + 1
  createdAt := request.now
  expiresAt := request.now + seconds (24 * 60 * 60)

structure Transitioned (hash : Payload → Digest) (request : TransitionRequest)
    (current : ActiveRide) (s t : RideRows) : Prop where
  found : s.rides.find request.rideId = some current
  expected : current.version = request.expectedVersion
  allowed : request.target ∈ allowedTransitions current.state
  fresh : s.commands.find (request.actorId, request.commandId) = none
  rides : t.rides.rows = s.rides.replaced (moved current request.target request.now)
  events : ∃ eventType, t.events.rows =
    s.events.rows ++ [transitionEvent request current eventType]
  commands : t.commands.rows =
    s.commands.rows ++ [transitionRecord hash request current]

structure Replayed (hash : Payload → Digest) (request : TransitionRequest) (ride : ActiveRide)
    (rows : RideRows) : Prop where
  found : rows.rides.find request.rideId = some ride
  recorded : ∃ existing, rows.commands.find (request.actorId, request.commandId) = some existing ∧
    existing.requestHash = request.requestHash hash ∧ existing.commandType = request.commandType

section

variable {hash : Payload → Digest} {request : TransitionRequest} {ride : ActiveRide}
  {created : Bool} {s t : ActiveRideStore}

theorem commandTransition_ok (ran : commandTransition hash request s = .ok ((ride, created), t)) :
    sideRows t = sideRows s ∧
      ((created = false ∧ rideRows t = rideRows s ∧ Replayed hash request ride (rideRows s)) ∨
        ∃ old, created = true ∧ ride = moved old request.target request.now ∧
          Transitioned hash request old (rideRows s) (rideRows t)) := by
  unfold commandTransition updateRide appendEvent recordCommand at ran
  simp only [bind_assoc, ↓steps_ok, whenSome_ok, transition_bind_ok, Table.insert?_eq_some,
    Table.replace?_eq_some, Prod.mk.injEq] at ran
  rcases ran with ⟨existing, recorded, same, held, found, ⟨rfl, rfl⟩, rfl⟩ |
    ⟨fresh, old, found, expected, allowed, rides, replaced, _, eventType, _, events,
      appended, commands, recorded, ⟨rfl, rfl⟩, rfl⟩
  · exact ⟨rfl, .inl ⟨rfl, rfl, found, existing, recorded, same⟩⟩
  · exact ⟨rfl, .inr ⟨old, rfl, rfl, found, expected, allowed, fresh, replaced,
      ⟨eventType, appended⟩, recorded⟩⟩

theorem commandTransition_of_replayed (replayed : Replayed hash request ride (rideRows s)) :
    commandTransition hash request s = .ok ((ride, false), s) := by
  obtain ⟨found, existing, recorded, same⟩ := replayed
  unfold commandTransition
  rw [get_bind_ok, whenSome_ok]
  refine .inl ⟨existing, recorded, ?_⟩
  rw [require_bind_ok, demand_bind_ok]
  exact ⟨same, ride, found, pure_ok.2 ⟨rfl, rfl⟩⟩

theorem replayed_of_ok (ran : commandTransition hash request s = .ok ((ride, created), t)) :
    Replayed hash request ride (rideRows t) := by
  rcases (commandTransition_ok ran).2 with ⟨_, same, replayed⟩ | ⟨old, _, rfl, moved⟩
  · rw [same]
    exact replayed
  · refine ⟨?_, transitionRecord hash request old, ?_, rfl, rfl⟩
    · have named : old.rideId = request.rideId := Table.key_of_find moved.found
      have own : Row.key (Engine.moved old request.target request.now) = request.rideId := named
      rw [Table.find_of_rows_replaced moved.rides, own, if_pos rfl, moved.found]
      rfl
    · exact Table.find_of_inserted moved.commands

end

section

variable {config : RideConfig} {subject : AuthorizationSubject} {rideId : Uuid} {driverOnly : Bool}
  {s t : ActiveRideStore} {pinDigest : Uuid → Uuid → String → Digest} {code : String}
  {now : Instant}

theorem owned_bind_ok {α : Type} {f : ActiveRide → RideTransaction α} {a : α} :
    (owned subject rideId driverOnly >>= f) s = .ok (a, t) ↔
      ∃ ride, s.rides.find rideId = some ride ∧ Permitted subject ride driverOnly ∧
        f ride s = .ok (a, t) := by
  unfold owned getRide
  simp only [bind_assoc, pure_bind, steps_ok]

theorem addEvidence_bind_ok {α : Type} {row : EvidenceRecord} {f : Unit → RideTransaction α}
    {a : α} : (addEvidence row >>= f) s = .ok (a, t) ↔
      ∃ evidence : Table EvidenceRecord, evidence.rows = s.evidence.rows ++ [row] ∧
        f () { s with evidence } = .ok (a, t) := by
  unfold addEvidence
  simp only [bind_assoc, steps_ok, Table.insert?_eq_some]

variable (call : RideCall) (policyVersion : RideCode)

def transitionRequest : TransitionRequest :=
  let requested (commandId : Uuid) (expectedVersion : Nat) (commandType : String)
      (requestPayload : Payload) : TransitionRequest :=
    { rideId := call.rideId, actorId := call.subject.identityId, commandId, commandType,
      requestPayload, expectedVersion, target := call.command.target, now := call.draws.now,
      eventId := call.draws.eventId }
  match call.command with
  | .command envelope dump commandType _ _ =>
    requested envelope.commandId envelope.expectedVersion commandType dump
  | .evidenceTransition request commandType _ _ =>
    requested request.commandId request.expectedVersion commandType request.payload
  | .issueVerification request =>
    requested request.commandId request.expectedVersion "pickup_verification_requested"
      [("challenge", .text "pin"), ("passenger_mode", .text request.passengerMode)]
  | .verifyPickup request =>
    requested request.commandId request.expectedVersion "pickup_verified"
      [("verification", .text "server_confirmed")]
  | .lifecycle request =>
    requested request.commandId request.expectedVersion
      ("active_ride." ++ request.commandType.value) (lifecyclePayload request policyVersion)

@[simp] theorem transitionRequest_rideId :
    (transitionRequest call policyVersion).rideId = call.rideId := by
  unfold transitionRequest
  split <;> rfl

@[simp] theorem transitionRequest_target :
    (transitionRequest call policyVersion).target = call.command.target := by
  unfold transitionRequest
  split <;> rfl

def Owns (ride : ActiveRide) : Prop :=
  match call.command with
  | .command _ _ _ _ driverOnly | .evidenceTransition _ _ _ driverOnly =>
    Permitted call.subject ride driverOnly
  | .issueVerification _ => Permitted call.subject ride false
  | .verifyPickup _ => Permitted call.subject ride true
  | .lifecycle _ => OwnsOrOperates call.subject ride

def Granted (config : RideConfig) (call : RideCall) (s : ActiveRideStore) : Prop :=
  match call.command with
  | .verifyPickup request => ∃ marked,
    verifyPin config.pinDigest call.rideId request.code call.draws.now s = .ok (true, marked)
  | .lifecycle request => call.subject.identityType ∈ commandAuthority request.commandType
  | .command _ _ _ _ _ | .evidenceTransition _ _ _ _ | .issueVerification _ => True

theorem verifyPin_keeps : Keeps rideRows (verifyPin pinDigest rideId code now) := by
  have updated : ∀ row : PickupVerification, Keeps rideRows (updateVerification row) := by
    intro row s a t ran
    unfold updateVerification at ran
    simp only [steps_ok] at ran
    obtain ⟨_, _, rfl⟩ := ran
    rfl
  unfold verifyPin
  refine .bind .get fun s => .bind .demand fun row => .bind .require fun _ =>
    .bind .require fun _ => .bind .require fun _ => .bind .require fun _ => ?_
  exact .ite (.bind (updated _) fun _ => .pure) (.bind (updated _) fun _ => .pure)

theorem issuePin_keeps {assignmentId : Uuid} {verificationId : Uuid} :
    Keeps rideRows (issuePin pinDigest rideId assignmentId code now verificationId) := by
  intro s a t ran
  unfold issuePin getRide invalidateVerifications at ran
  simp only [bind_assoc, pure_bind, steps_ok] at ran
  obtain ⟨_, _, _, _, _, _, rfl⟩ := ran
  rfl

theorem perform_ok {call : RideCall} {outcome : RideOutcome}
    (ran : perform config call s = .ok (outcome, t)) :
    ∃ ride, s.rides.find call.rideId = some ride ∧ Owns call ride ∧
      ((outcome = .verificationFailed ∧ rideRows t = rideRows s) ∨
        ∃ result m n, Granted config call s ∧ rideRows m = rideRows s ∧
          commandTransition config.hash (transitionRequest call ride.lifecyclePolicyVersion) m =
            .ok (result, n) ∧ rideRows t = rideRows n) := by
  obtain ⟨subject, rideId, asked, draws⟩ := call
  unfold perform at ran
  cases asked with
  | command =>
    obtain ⟨⟨new, created⟩, m, answered, rest⟩ := bind_ok.1 ran
    obtain ⟨_, rfl⟩ := pure_ok.1 rest
    obtain ⟨ride, found, owns, moved⟩ := owned_bind_ok.1 answered
    exact ⟨ride, found, owns, .inr ⟨_, s, m, trivial, rfl, moved, rfl⟩⟩
  | evidenceTransition =>
    obtain ⟨⟨new, created⟩, m, answered, rest⟩ := bind_ok.1 ran
    obtain ⟨_, rfl⟩ := pure_ok.1 rest
    obtain ⟨ride, found, owns, added⟩ := owned_bind_ok.1 answered
    obtain ⟨evidence, _, moved⟩ := addEvidence_bind_ok.1 added
    exact ⟨ride, found, owns, .inr ⟨_, { s with evidence }, m, trivial, rfl, moved, rfl⟩⟩
  | issueVerification =>
    obtain ⟨⟨verificationId, code⟩, m, answered, rest⟩ := bind_ok.1 ran
    obtain ⟨_, rfl⟩ := pure_ok.1 rest
    obtain ⟨ride, found, owns, checked⟩ := owned_bind_ok.1 answered
    obtain ⟨_, requested⟩ := require_bind_ok.1 checked
    obtain ⟨⟨new, created⟩, n, moved, issuing⟩ := bind_ok.1 requested
    obtain ⟨assignmentId, _, drawn⟩ := demand_bind_ok.1 issuing
    obtain ⟨issued, k, pinned, finished⟩ := bind_ok.1 drawn
    obtain ⟨_, rfl⟩ := pure_ok.1 finished
    exact ⟨ride, found, owns, .inr ⟨_, s, n, trivial, rfl, moved,
      issuePin_keeps n issued k pinned⟩⟩
  | verifyPickup =>
    obtain ⟨verified, m, answered, rest⟩ := bind_ok.1 ran
    obtain ⟨rfl, rfl⟩ := pure_ok.1 rest
    obtain ⟨ride, found, owns, verifying⟩ := owned_bind_ok.1 answered
    obtain ⟨valid, n, compared, decided⟩ := bind_ok.1 verifying
    have kept : rideRows n = rideRows s := verifyPin_keeps s valid n compared
    cases valid with
    | true =>
      obtain ⟨⟨new, created⟩, k, moved, finished⟩ := bind_ok.1 decided
      obtain ⟨rfl, rfl⟩ := pure_ok.1 finished
      exact ⟨ride, found, owns, .inr ⟨_, n, k, ⟨n, compared⟩, kept, moved, rfl⟩⟩
    | false =>
      obtain ⟨evidence, _, finished⟩ := addEvidence_bind_ok.1 decided
      obtain ⟨rfl, rfl⟩ := pure_ok.1 finished
      exact ⟨ride, found, owns, .inl ⟨rfl, kept⟩⟩
  | lifecycle =>
    obtain ⟨⟨new, created⟩, m, answered, rest⟩ := bind_ok.1 ran
    obtain ⟨_, rfl⟩ := pure_ok.1 rest
    unfold lifecycleCommand getRide at answered
    simp only [bind_assoc, pure_bind, steps_ok] at answered
    obtain ⟨authority, ride, found, owns, moved⟩ := answered
    exact ⟨ride, found, owns, .inr ⟨_, s, m, authority, rfl, moved, rfl⟩⟩

end

structure Appended (ride : ActiveRide) (event : RideEvent) (s t : RideRows) : Prop where
  rides : t.rides.rows = s.rides.rows ++ [ride]
  events : t.events.rows = s.events.rows ++ [event]
  commands : t.commands = s.commands
  own : event.rideId = ride.rideId
  sequence : event.sequence = ride.lastSequence

def reassignedRide (current : ActiveRide) (driverId assignmentId : Uuid) (now : Instant) :
    ActiveRide :=
  { moved current .assigned now with
    driverId := some driverId, assignmentId := some assignmentId, driverChanged := true }

structure Reassigned (rideId driverId assignmentId : Uuid) (now : Instant) (current : ActiveRide)
    (event : RideEvent) (s t : RideRows) : Prop where
  found : s.rides.find rideId = some current
  waiting : current.state = .reassigning
  rides : t.rides.rows =
    s.rides.replaced (reassignedRide current driverId assignmentId now)
  events : t.events.rows = s.events.rows ++ [event]
  commands : t.commands = s.commands
  own : event.rideId = current.rideId
  sequence : event.sequence = current.lastSequence + 1
  untold : event.stateTo = none

section

variable {s t : RideRows} {ride old : ActiveRide} {rideId : Uuid} {event : RideEvent}

private theorem find_of_replaced (rows : t.rides.rows = s.rides.replaced ride)
    (found : s.rides.find rideId = some old) (same : ride.rideId = old.rideId) (id : Uuid) :
    t.rides.find id = if id = rideId then some ride else s.rides.find id := by
  have named : old.rideId = rideId := Table.key_of_find found
  have keyed : Row.key ride = rideId := same.trans named
  rw [Table.find_of_rows_replaced rows, keyed]
  by_cases own : id = rideId
  · rw [if_pos own, if_pos own, own, found]
    rfl
  · rw [if_neg own, if_neg own]

theorem Transitioned.find {hash : Payload → Digest} {request : TransitionRequest}
    (change : Transitioned hash request old s t) (id : Uuid) :
    t.rides.find id = if id = request.rideId then some (moved old request.target request.now)
      else s.rides.find id :=
  find_of_replaced change.rides change.found rfl id

theorem Reassigned.find {driverId assignmentId : Uuid} {now : Instant}
    (change : Reassigned rideId driverId assignmentId now old event s t) (id : Uuid) :
    t.rides.find id = if id = rideId then some (reassignedRide old driverId assignmentId now)
      else s.rides.find id :=
  find_of_replaced change.rides change.found rfl id

theorem Appended.absent (change : Appended ride event s t) : s.rides.find ride.rideId = none :=
  Table.find_eq_none_of_rows_append change.rides

theorem Appended.find (change : Appended ride event s t) (id : Uuid) :
    t.rides.find id = if id = ride.rideId then some ride else s.rides.find id := by
  have absent := change.absent
  rw [Table.find_of_rows_append change.rides]
  by_cases own : id = ride.rideId
  · rw [if_pos own, own, absent]
    exact if_pos rfl
  · rw [if_neg own]
    have other : Row.key ride ≠ id := fun same => own same.symm
    rw [if_neg other, Option.or_none]

end

/-- What an action leaves of the rides, their events and the records of their commands. -/
inductive RideEffect (config : RideConfig) (s : ActiveRideStore) :
    RideAction → RideRows → Prop where
  | kept {action : RideAction} : RideEffect config s action (rideRows s)
  | transitioned {call : RideCall} {ride current : ActiveRide} {t : RideRows}
      (found : s.rides.find call.rideId = some ride) (owns : Owns call ride)
      (granted : Granted config call s)
      (change : Transitioned config.hash (transitionRequest call ride.lifecyclePolicyVersion)
        current (rideRows s) t) : RideEffect config s (.call call) t
  | started {assignments : Uuid → Option AssignmentSource} {assignmentId : Uuid} {draws : Draws}
      {ride : ActiveRide} {event : RideEvent} {t : RideRows} (named : ride.rideId = draws.rideId)
      (state : ride.state = .driverAssigned) (first : ride.lastSequence = 1)
      (told : event.stateTo = some .driverAssigned)
      (change : Appended ride event (rideRows s) t) :
      RideEffect config s (.startFromAssignment assignments assignmentId draws) t
  | created {eventId : Uuid} {ride : ActiveRide} {event : RideEvent} {t : RideRows}
      (state : ride.state = .assigned) (untold : event.stateTo = none)
      (change : Appended ride event (rideRows s) t) :
      RideEffect config s (.createFromAssignment eventId ride) t
  | reassigned {rideId driverId assignmentId eventId : Uuid} {now : Instant} {current : ActiveRide}
      {event : RideEvent} {t : RideRows}
      (change : Reassigned rideId driverId assignmentId now current event (rideRows s) t) :
      RideEffect config s (.reassign rideId driverId assignmentId now eventId) t

section

variable {config : RideConfig} {s t : ActiveRideStore} {ride : ActiveRide}
  {assignmentId eventId : Uuid}

theorem oneOrNone_bind_ok {α : Type} {rows : List ActiveRide}
    {f : Option ActiveRide → RideTransaction α} {a : α} :
    (oneOrNone rows >>= f) s = .ok (a, t) ↔
      (rows = [] ∧ f none s = .ok (a, t)) ∨ ∃ row, rows = [row] ∧ f (some row) s = .ok (a, t) := by
  unfold oneOrNone
  match rows with
  | [] => simp
  | [row] => simp
  | _ :: _ :: _ => simp

theorem effect_of_call {call : RideCall} {outcome : RideOutcome}
    (ran : perform config call s = .ok (outcome, t)) :
    RideEffect config s (.call call) (rideRows t) := by
  obtain ⟨ride, found, owns, ⟨_, same⟩ | ⟨⟨new, created⟩, m, n, granted, before, moved, after⟩⟩ :=
    perform_ok ran
  · rw [same]
    exact .kept
  · rw [after]
    rcases (commandTransition_ok moved).2 with ⟨_, same, _⟩ | ⟨old, _, _, change⟩
    · rw [same, before]
      exact .kept
    · rw [before] at change
      exact .transitioned found owns granted change

theorem effect_of_start {assignments : Uuid → Option AssignmentSource} {draws : Draws}
    (ran : startFromAssignment config draws assignments assignmentId s = .ok (ride, t)) :
    RideEffect config s (.startFromAssignment assignments assignmentId draws) (rideRows t) := by
  unfold startFromAssignment createFromImmediateAssignment insertRide appendEvent at ran
  simp only [bind_assoc, ↓steps_ok, oneOrNone_bind_ok, whenSome_ok, Table.insert?_eq_some,
    reduceCtorEq, false_and, exists_false, true_and, or_false, false_or,
    Option.some.injEq] at ran
  obtain ⟨source, _, _, ⟨_, serviceType, _, rides, opened, _, eventType, _, events, appended, _,
    rfl⟩ | ⟨row, _, _, _, _, rfl⟩⟩ := ran
  · exact .started rfl rfl rfl rfl ⟨opened, appended, rfl, rfl, rfl⟩
  · exact .kept

theorem effect_of_creation {result : ActiveRide}
    (ran : createFromAssignment eventId ride s = .ok (result, t)) :
    RideEffect config s (.createFromAssignment eventId ride) (rideRows t) := by
  unfold createFromAssignment insertRide appendEvent at ran
  simp only [bind_assoc, ↓steps_ok, Table.insert?_eq_some] at ran
  obtain ⟨⟨state, _⟩, rides, opened, _, eventType, _, events, appended, _, rfl⟩ := ran
  exact .created state rfl ⟨opened, appended, rfl, rfl, rfl⟩

theorem reassign_ok {rideId driverId : Uuid} {now : Instant}
    (ran : reassign rideId driverId assignmentId now eventId s = .ok (ride, t)) :
    ∃ old event,
      Reassigned rideId driverId assignmentId now old event (rideRows s) (rideRows t) := by
  unfold reassign getRide updateRide invalidateVerifications appendEvent at ran
  simp only [bind_assoc, pure_bind, ↓steps_ok, transition_bind_ok, Table.insert?_eq_some,
    Table.replace?_eq_some] at ran
  obtain ⟨old, found, waiting, _, rides, replaced, _, eventType, _, events, appended, _, rfl⟩ :=
    ran
  exact ⟨old, _, found, waiting, replaced, appended, rfl, rfl, rfl, rfl⟩

theorem step_effect (config : RideConfig) (store : ActiveRideStore) (action : RideAction) :
    RideEffect config store action (rideRows (rideStep config store action)) := by
  cases action with
  | call call =>
    exact commit_related (R := fun _ t => RideEffect config store (.call call) (rideRows t)) _ _
      .kept fun _ _ => effect_of_call
  | evidence subject rideId draws request =>
    have kept : Keeps rideRows (evidence subject rideId draws request) := by
      intro s a t ran
      obtain ⟨_, _, _, added⟩ := owned_bind_ok.1 ran
      unfold addEvidence at added
      simp only [steps_ok] at added
      obtain ⟨_, _, rfl⟩ := added
      rfl
    have same : rideRows (rideStep config store (.evidence subject rideId draws request)) =
        rideRows store :=
      commit_related (R := fun s t => rideRows t = rideRows s) _ _ rfl fun a t => kept _ a t
    rw [same]
    exact .kept
  | startFromAssignment assignments assignmentId draws =>
    exact commit_related (R := fun _ t => RideEffect config store
      (.startFromAssignment assignments assignmentId draws) (rideRows t)) _ _ .kept
      fun _ _ => effect_of_start
  | createFromAssignment eventId ride =>
    exact commit_related (R := fun _ t => RideEffect config store
      (.createFromAssignment eventId ride) (rideRows t)) _ _ .kept fun _ _ => effect_of_creation
  | reassign rideId driverId assignmentId now eventId =>
    exact commit_related (R := fun _ t => RideEffect config store
      (.reassign rideId driverId assignmentId now eventId) (rideRows t)) _ _ .kept
      fun _ _ ran => by
        obtain ⟨old, event, change⟩ := reassign_ok ran
        exact .reassigned change

end

end Ayo.ActiveRides.Effects
