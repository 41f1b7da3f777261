/- digest: Every ride on a trip went through a confirmed pickup. -/

import Ayo.ActiveRides.Effects

namespace Ayo.ActiveRides.PickupFirst

open Kernel.Run Kernel.Gates Kernel.KeyedTable Core.Values Core.Authorization Application Effects
  Engine Lifecycle Models Repository ActiveRides.System
open Rides.Sources (ActiveRideState)

variable (store : ActiveRideStore)

def rideState (rideId : Uuid) : Option ActiveRideState :=
  (store.rides.find rideId).map ActiveRide.state

/-- The states of a ride with its rider on board, and after. -/
def OnTrip (state : ActiveRideState) : Prop :=
  state ∈ [ActiveRideState.inProgress, .destinationApproaching, .completionPending,
    .rideInProgress, .destinationArrived, .completed]
deriving Decidable

def AtPickup (state : ActiveRideState) : Prop :=
  state ∈ [ActiveRideState.pickupVerified, .pickupConfirmed]
deriving Decidable

def TellsPickup (rideId : Uuid) : Prop :=
  ∃ event ∈ store.events.rows, event.rideId = rideId ∧
    event.stateTo ∈ [some ActiveRideState.pickupVerified, some .pickupConfirmed]
deriving Decidable

/-- A ride in recovery is only asked into progress when its events tell that it was at pickup. -/
def StartsVerified : RideAction → Prop
  | .call call =>
    rideState store call.rideId = some .operationalRecovery → call.command.target = .inProgress →
      TellsPickup store call.rideId
  | _ => True

instance (store : ActiveRideStore) (action : RideAction) : Decidable (StartsVerified store action) :=
  match action with
  | .call _ => inferInstanceAs (Decidable (_ → _ → _))
  | .evidence _ _ _ _ | .startFromAssignment _ _ _ | .createFromAssignment _ _
  | .reassign _ _ _ _ _ => .isTrue trivial

theorem source_of_onTrip {source target : ActiveRideState}
    (edge : target ∈ allowedTransitions source) (trip : OnTrip target) :
    OnTrip source ∨ AtPickup source ∨ (source = .operationalRecovery ∧ target = .inProgress) := by
  have dominated : ∀ source ∈ allStates, ∀ target ∈ allowedTransitions source, OnTrip target →
      OnTrip source ∨ AtPickup source ∨ (source = .operationalRecovery ∧ target = .inProgress) := by
    decide
  exact dominated source mem_allStates target edge trip

section

variable {config : RideConfig} {store : ActiveRideStore} {action : RideAction} {rideId : Uuid}
  {state : ActiveRideState}

theorem stateTo_transitionEvent (request : TransitionRequest) (old : ActiveRide)
    (eventType : RideCode) :
    (transitionEvent request old eventType).stateTo = some request.target := by
  have told : (transitionEvent request old eventType).payload.lookup "state_to" =
      some (.text (stateValue request.target)) := by
    unfold transitionEvent
    exact lookup_merged rfl
  unfold RideEvent.stateTo RideEvent.stateAt
  rw [told]
  exact stateNamed?_stateValue

theorem state_cases (reached : rideState (rideStep config store action) rideId = some state) :
    rideState store rideId = some state ∨ state = .driverAssigned ∨ state = .assigned ∨
      ∃ call source, action = .call call ∧ call.rideId = rideId ∧
        rideState store rideId = some source ∧ call.command.target = state ∧
        state ∈ allowedTransitions source ∧ Granted config call store := by
  have effect := step_effect config store action
  change ((rideRows (rideStep config store action)).rides.find rideId).map ActiveRide.state =
    some state at reached
  generalize rideRows (rideStep config store action) = t at effect reached
  cases effect with
  | kept => exact .inl reached
  | @transitioned call _ old _ own owns granted change =>
    rw [change.find, transitionRequest_rideId, transitionRequest_target] at reached
    split at reached
    · rename_i same
      obtain rfl : call.command.target = state := Option.some.inj reached
      have source : rideState store rideId = some old.state := by
        have found : store.rides.find call.rideId = some old := by
          rw [← transitionRequest_rideId call]
          exact change.found
        rw [rideState, same, found]
        rfl
      have edge := change.allowed
      rw [transitionRequest_target] at edge
      exact .inr (.inr (.inr ⟨call, old.state, rfl, same.symm, source, rfl, edge, granted⟩))
    · exact .inl reached
  | started named first state told change =>
    rw [change.find] at reached
    split at reached
    · exact .inr (.inl ((Option.some.inj reached).symm.trans first))
    · exact .inl reached
  | created state untold change =>
    rw [change.find] at reached
    split at reached
    · exact .inr (.inr (.inl ((Option.some.inj reached).symm.trans state)))
    · exact .inl reached
  | reassigned change =>
    rw [change.find] at reached
    split at reached
    · exact .inr (.inr (.inl (Option.some.inj reached).symm))
    · exact .inl reached

theorem atPickup_of_tells (tells : TellsPickup (rideStep config store action) rideId) :
    TellsPickup store rideId ∨
      ∃ state, rideState (rideStep config store action) rideId = some state ∧ AtPickup state := by
  have effect := step_effect config store action
  change (∃ event ∈ (rideRows (rideStep config store action)).events.rows, event.rideId = rideId ∧
    event.stateTo ∈ [some ActiveRideState.pickupVerified, some .pickupConfirmed]) at tells
  change _ ∨ ∃ state, ((rideRows (rideStep config store action)).rides.find rideId).map
    ActiveRide.state = some state ∧ AtPickup state
  generalize rideRows (rideStep config store action) = t at effect tells
  obtain ⟨event, held, own, told⟩ := tells
  cases effect with
  | kept => exact .inl ⟨event, held, own, told⟩
  | @transitioned call _ current _ found owns granted change =>
    obtain ⟨eventType, events⟩ := change.events
    rcases (mem_appended events).1 held with old | rfl
    · exact .inl ⟨event, old, own, told⟩
    · rw [stateTo_transitionEvent, transitionRequest_target] at told
      have named : current.rideId = call.rideId := by
        rw [← transitionRequest_rideId call]
        exact Table.key_of_find change.found
      refine .inr ⟨call.command.target, ?_, ?_⟩
      · have same : rideId = call.rideId := own.symm.trans named
        rw [change.find, transitionRequest_rideId, transitionRequest_target, if_pos same]
        rfl
      · simpa [AtPickup] using told
  | started named state first entry change =>
    rcases (mem_appended change.events).1 held with old | rfl
    · exact .inl ⟨event, old, own, told⟩
    · rw [entry] at told
      simp at told
  | created state untold change =>
    rcases (mem_appended change.events).1 held with old | rfl
    · exact .inl ⟨event, old, own, told⟩
    · rw [untold] at told
      simp at told
  | reassigned change =>
    rcases (mem_appended change.events).1 held with old | rfl
    · exact .inl ⟨event, old, own, told⟩
    · rw [change.untold] at told
      simp at told

theorem onTrip_cases (guarded : StartsVerified store action)
    (reached : rideState (rideStep config store action) rideId = some state) (trip : OnTrip state) :
    (∃ source, rideState store rideId = some source ∧ (OnTrip source ∨ AtPickup source)) ∨
      TellsPickup store rideId := by
  rcases state_cases reached with same | rfl | rfl | ⟨call, source, rfl, rfl, stood, asked, edge, _⟩
  · exact .inl ⟨state, same, .inl trip⟩
  · exact absurd trip (by decide)
  · exact absurd trip (by decide)
  · rcases source_of_onTrip edge trip with further | gated | ⟨rfl, rfl⟩
    · exact .inl ⟨source, stood, .inl further⟩
    · exact .inl ⟨source, stood, .inr gated⟩
    · exact .inr (guarded stood asked)

end

def EntersAt (config : RideConfig) (actions : List RideAction) (n : Nat) (rideId : Uuid)
    (state : ActiveRideState) : Prop :=
  rideState (run (rideStep config) {} (actions.take n)) rideId ≠ some state ∧
    rideState (run (rideStep config) {} (actions.take (n + 1))) rideId = some state

/-- The action is a verification of the ride's pickup whose code is the right one. -/
def VerifiesPickup (config : RideConfig) (store : ActiveRideStore) (rideId : Uuid) :
    RideAction → Prop
  | .call call => call.rideId = rideId ∧ ∃ request marked, call.command = .verifyPickup request ∧
    verifyPin config.pinDigest rideId request.code call.draws.now store = .ok (true, marked)
  | _ => False

def ServiceConfirms (rideId : Uuid) : RideAction → Prop
  | .call call => call.rideId = rideId ∧ call.subject.identityType = .service ∧
    ∃ request, call.command = .lifecycle request
  | _ => False

variable {command : RideCommand}

private theorem verification_of_target (routed : command.Routed)
    (asked : command.target = .pickupVerified) : ∃ request, command = .verifyPickup request := by
  cases command with
  | command =>
    have passed : ∀ route ∈ commandRoutes, route.2.1 ≠ .pickupVerified := by decide
    exact absurd asked (passed _ routed)
  | evidenceTransition =>
    have passed : ∀ route ∈ evidenceRoutes, route.2.1 ≠ .pickupVerified := by decide
    exact absurd asked (passed _ routed)
  | issueVerification => cases asked
  | verifyPickup request => exact ⟨request, rfl⟩
  | lifecycle request =>
    change targetByCommand request.commandType = .pickupVerified at asked
    cases commanded : request.commandType <;> rw [commanded] at asked <;> cases asked

private theorem confirmation_of_target (routed : command.Routed)
    (asked : command.target = .pickupConfirmed) :
    ∃ request, command = .lifecycle request ∧ commandAuthority request.commandType = [.service] := by
  cases command with
  | command =>
    have passed : ∀ route ∈ commandRoutes, route.2.1 ≠ .pickupConfirmed := by decide
    exact absurd asked (passed _ routed)
  | evidenceTransition =>
    have passed : ∀ route ∈ evidenceRoutes, route.2.1 ≠ .pickupConfirmed := by decide
    exact absurd asked (passed _ routed)
  | issueVerification => cases asked
  | verifyPickup => cases asked
  | lifecycle request =>
    refine ⟨request, rfl, ?_⟩
    change targetByCommand request.commandType = .pickupConfirmed at asked
    cases commanded : request.commandType <;> rw [commanded] at asked <;> first | rfl | cases asked

section

variable {config : RideConfig} {store : ActiveRideStore} {action : RideAction} {rideId : Uuid}

theorem verifies_of_entered (routed : action.Routed)
    (outside : rideState store rideId ≠ some .pickupVerified)
    (entered : rideState (rideStep config store action) rideId = some .pickupVerified) :
    VerifiesPickup config store rideId action := by
  rcases state_cases entered with same | assigned | assigned |
    ⟨call, source, rfl, rfl, _, asked, _, granted⟩
  · exact absurd same outside
  · cases assigned
  · cases assigned
  · obtain ⟨request, verification⟩ := verification_of_target routed asked
    rw [Granted, verification] at granted
    obtain ⟨marked, compared⟩ := granted
    exact ⟨rfl, request, marked, verification, compared⟩

theorem confirms_of_entered (routed : action.Routed)
    (outside : rideState store rideId ≠ some .pickupConfirmed)
    (entered : rideState (rideStep config store action) rideId = some .pickupConfirmed) :
    ServiceConfirms rideId action := by
  rcases state_cases entered with same | assigned | assigned |
    ⟨call, source, rfl, rfl, _, asked, _, granted⟩
  · exact absurd same outside
  · cases assigned
  · cases assigned
  · obtain ⟨request, commanded, authority⟩ := confirmation_of_target routed asked
    rw [Granted, commanded] at granted
    have authorized : call.subject.identityType ∈ commandAuthority request.commandType := granted
    rw [authority] at authorized
    exact ⟨rfl, List.mem_singleton.1 authorized, request, commanded⟩

end

/-- In a run that starts no unverified ride out of its recovery, every ride on its trip was at its
pickup before, which only a right code verifies and only a service confirms. -/
theorem pickup_before_trip (config : RideConfig) {actions : List RideAction}
    (routed : ∀ action ∈ actions, action.Routed)
    (guarded : Along (rideStep config) StartsVerified {} actions) :
    (∀ rideId state, rideState (run (rideStep config) {} actions) rideId = some state →
      OnTrip state → Passed (rideStep config) rideState AtPickup {} actions rideId) ∧
    ∀ n action, actions[n]? = some action → ∀ rideId,
      (EntersAt config actions n rideId .pickupVerified →
        VerifiesPickup config (run (rideStep config) {} (actions.take n)) rideId action) ∧
      (EntersAt config actions n rideId .pickupConfirmed → ServiceConfirms rideId action) := by
  constructor
  · intro rideId state reached trip
    refine passed_of_beyond rfl ?_ (fun _ _ => atPickup_of_tells)
      (fun _ _ _ guarded => onTrip_cases guarded) guarded reached trip
    rintro ⟨_, stored, _⟩
    cases stored
  · intro n action taken rideId
    have passedOn := routed action (List.mem_of_getElem? taken)
    unfold EntersAt
    rw [run_take_succ taken]
    exact ⟨fun ⟨outside, entered⟩ => verifies_of_entered passedOn outside entered,
      fun ⟨outside, entered⟩ => confirms_of_entered passedOn outside entered⟩

/-! Ride 10 of rider 1 and driver 2, from its assignment on. -/

def codeDigest (rideId assignmentId : Uuid) (code : String) : Digest :=
  code.toList.foldl (fun digest c => digest * 256 + c.toNat) (rideId + assignmentId)

def rideConfig : RideConfig where
  hash payload := payload.length
  pinDigest := codeDigest
  policyVersion := ⟨"active_ride.v2", by decide⟩

def drawsAt (second : Nat) : Draws where
  now := seconds second
  rideId := 10
  eventId := 1000 + second
  evidenceId := 2000 + second
  verificationId := 3000 + second
  pickupCode := 42

def assignmentOfRide : AssignmentSource where
  driverId := 2
  vehicleId := 3
  releasedAt := none
  handoffId := 12
  rideRequestId := 11
  riderIdentityId := 1
  serviceType := "immediate_standard"
  pickupReference := ⟨"bole-pickup", by decide⟩
  destinationReference := ⟨"bole-destination", by decide⟩
  handoffState := "assigned"
  assignedDriverId := some 2

def rideStarted (second : Nat) : RideAction :=
  .startFromAssignment (fun _ => some assignmentOfRide) 13 (drawsAt second)

def envelopeAfter (changes : Nat) (commandId : Uuid) : CommandEnvelope where
  commandId
  expectedVersion := changes + 1
  versioned := Nat.le_add_left 1 changes

def rideCall (subject : AuthorizationSubject) (command : RideCommand) (second : Nat) : RideAction :=
  .call ⟨subject, 10, command, drawsAt second⟩

def byDriver (commandType : String) (target : ActiveRideState) (changes second : Nat) : RideAction :=
  rideCall ⟨2, .driver⟩
    (.command (envelopeAfter changes second) (envelopeAfter changes second).payload commandType
      target true) second

def rideNeedsHelp : RideCode := ⟨"ride_needs_help", by decide⟩

def recoveryAsked (changes second : Nat) : RideAction :=
  rideCall ⟨1, .rider⟩
    (.evidenceTransition ⟨envelopeAfter changes second, rideNeedsHelp, []⟩ "recovery_requested"
      .operationalRecovery false) second

def verificationAsked (changes second : Nat) : RideAction :=
  rideCall ⟨1, .rider⟩ (.issueVerification ⟨envelopeAfter changes second, "authenticated"⟩) second

def pickupVerifiedWith (code : String) (changes second : Nat) : RideAction :=
  rideCall ⟨2, .driver⟩ (.verifyPickup ⟨envelopeAfter changes second, code⟩) second

def verifiedTrip : List RideAction :=
  [rideStarted 1, byDriver "driver_en_route" .driverEnRoute 0 2,
   byDriver "driver_arrived" .driverArrived 1 3, verificationAsked 2 4,
   pickupVerifiedWith "0042" 3 5, byDriver "trip_started" .inProgress 4 6, recoveryAsked 5 7,
   byDriver "trip_started" .inProgress 6 8]

theorem pickup_before_trip_verified :
    rideState (run (rideStep rideConfig) {} verifiedTrip) 10 = some .inProgress ∧
      Passed (rideStep rideConfig) rideState AtPickup {} verifiedTrip 10 := by
  have reached : rideState (run (rideStep rideConfig) {} verifiedTrip) 10 = some .inProgress := by
    decide +kernel
  have trips := @pickup_before_trip rideConfig verifiedTrip (by decide +kernel)
    (by decide +kernel)
  exact ⟨reached, trips.1 10 .inProgress reached (by decide)⟩

def unverifiedTrip : List RideAction :=
  [rideStarted 1, byDriver "driver_en_route" .driverEnRoute 0 2, recoveryAsked 1 3,
   byDriver "trip_started" .inProgress 2 4]

/-- Every route passes these commands on, and the ride is in progress without a pickup. -/
theorem started_out_of_recovery :
    ¬ ∀ (config : RideConfig) (actions : List RideAction), (∀ action ∈ actions, action.Routed) →
      ∀ rideId state, rideState (run (rideStep config) {} actions) rideId = some state →
        OnTrip state → Passed (rideStep config) rideState AtPickup {} actions rideId := by
  intro claimed
  obtain ⟨n, bound, state, seen, gated⟩ := claimed rideConfig unverifiedTrip (by decide +kernel) 10
    .inProgress (by decide +kernel) (by decide)
  have never : ∀ n < 5, ∀ state ∈ [ActiveRideState.pickupVerified, .pickupConfirmed],
      rideState (run (rideStep rideConfig) {} (unverifiedTrip.take n)) 10 ≠ some state := by
    decide +kernel
  exact never n (Nat.lt_succ_of_le bound) state gated seen

end Ayo.ActiveRides.PickupFirst
