/- digest: Which ride commands can be retried. -/

import Ayo.ActiveRides.PickupFirst
import Ayo.ActiveRides.Verifications

namespace Ayo.ActiveRides.RetriedCommands

open Kernel.UnitOfWork Kernel.Run Kernel.KeyedTable Core.Values Core.Authorization Application
  Effects Lifecycle Models PickupFirst Repository ActiveRides.System Verifications

/-- The same call again, with draws of its own, succeeds and changes no table of the store. -/
def RetriesSafely (config : RideConfig) (call : RideCall) (draws : Draws)
    (store : ActiveRideStore) : Prop :=
  ∃ again, again ≠ .verificationFailed ∧
    perform config { call with draws } store = .ok (again, store)

def OnlyTransitions : RideCommand → Prop
  | .command _ _ _ _ _ | .lifecycle _ => True
  | .evidenceTransition _ _ _ _ | .issueVerification _ | .verifyPickup _ => False

def StillOwns (call : RideCall) (store : ActiveRideStore) : Prop :=
  ∃ ride ∈ store.rides.find call.rideId, Owns call ride

/-- Recorded commands stay recorded, and rides keep the policy they were created under. -/
def Persists (before after : ActiveRideStore) : Prop :=
  (∀ key record, before.commands.find key = some record → after.commands.find key = some record) ∧
  ∀ rideId ride, before.rides.find rideId = some ride → ∃ ride' ∈ after.rides.find rideId,
    ride'.lifecyclePolicyVersion = ride.lifecyclePolicyVersion

theorem Persists.refl (store : ActiveRideStore) : Persists store store :=
  ⟨fun _ _ found => found, fun _ ride found => ⟨ride, found, rfl⟩⟩

theorem Persists.trans {first second third : ActiveRideStore} (one : Persists first second)
    (other : Persists second third) : Persists first third := by
  constructor
  · intro key record found
    exact other.1 key record (one.1 key record found)
  · intro rideId ride found
    obtain ⟨between, reached, same⟩ := one.2 rideId ride found
    obtain ⟨last, stands, kept⟩ := other.2 rideId between reached
    exact ⟨last, stands, kept.trans same⟩

section

variable {config : RideConfig}

private theorem policy_of_find {s t : RideRows} {rideId : Uuid} {ride new : ActiveRide}
    (find : ∀ id, t.rides.find id = if id = rideId then some new else s.rides.find id)
    (policy : ∀ old, s.rides.find rideId = some old →
      new.lifecyclePolicyVersion = old.lifecyclePolicyVersion)
    {id : Uuid} (found : s.rides.find id = some ride) :
    ∃ ride' ∈ t.rides.find id, ride'.lifecyclePolicyVersion = ride.lifecyclePolicyVersion := by
  rw [find]
  by_cases own : id = rideId
  · rw [if_pos own]
    exact ⟨new, rfl, policy ride (own ▸ found)⟩
  · rw [if_neg own]
    exact ⟨ride, found, rfl⟩

theorem step_persists (store : ActiveRideStore) (action : RideAction) :
    Persists store (rideStep config store action) := by
  have effect := step_effect config store action
  change (∀ key record, store.commands.find key = some record →
      (rideRows (rideStep config store action)).commands.find key = some record) ∧
    ∀ rideId ride, store.rides.find rideId = some ride →
      ∃ ride' ∈ (rideRows (rideStep config store action)).rides.find rideId,
        ride'.lifecyclePolicyVersion = ride.lifecyclePolicyVersion
  generalize rideRows (rideStep config store action) = t at effect
  cases effect with
  | kept => exact Persists.refl store
  | transitioned found owns granted change =>
    refine ⟨fun key record recorded => ?_, fun rideId ride stands => ?_⟩
    · rw [Table.find_of_rows_append change.commands]
      exact Option.or_eq_some_iff.2 (.inl recorded)
    · refine policy_of_find change.find (fun old stored => ?_) stands
      rw [change.found] at stored
      cases stored
      rfl
  | started named state first told change | created state untold change =>
    refine ⟨fun key record recorded => change.commands ▸ recorded, fun rideId ride stands => ?_⟩
    refine policy_of_find change.find (fun old stored => ?_) stands
    rw [change.absent] at stored
    cases stored
  | reassigned change =>
    refine ⟨fun key record recorded => change.commands ▸ recorded, fun rideId ride stands => ?_⟩
    refine policy_of_find change.find (fun old stored => ?_) stands
    rw [change.found] at stored
    cases stored
    rfl

theorem run_persists (store : ActiveRideStore) (actions : List RideAction) :
    Persists store (run (rideStep config) store actions) :=
  run_related Persists.refl .trans step_persists store actions

end

section

variable {config : RideConfig} {call : RideCall} {outcome : RideOutcome}
  {s t later : ActiveRideStore} {draws : Draws} {ride : ActiveRide} {subject : AuthorizationSubject}
  {rideId : Uuid}

theorem replayed_of_draws (draws : Draws) {policyVersion : RideCode} {rows : RideRows}
    (replayed : Replayed config.hash (transitionRequest call policyVersion) ride rows) :
    Replayed config.hash (transitionRequest { call with draws } policyVersion) ride rows := by
  obtain ⟨subject, rideId, command, first⟩ := call
  cases command <;> exact ⟨replayed.found, replayed.recorded⟩

theorem replayed_later (ran : perform config call s = .ok (outcome, t))
    (answered : outcome ≠ .verificationFailed) (persists : Persists t later)
    (found : later.rides.find call.rideId = some ride) :
    Replayed config.hash (transitionRequest call ride.lifecyclePolicyVersion) ride
      (rideRows later) := by
  obtain ⟨first, stood, _, ⟨failed, _⟩ | ⟨⟨new, created⟩, m, n, _, read, moved, left⟩⟩ :=
    perform_ok ran
  · exact absurd failed answered
  · obtain ⟨changedFound, existing, recorded, same⟩ := replayed_of_ok moved
    rw [transitionRequest_rideId, ← left] at changedFound
    rw [← left] at recorded
    have policy : ride.lifecyclePolicyVersion = first.lifecyclePolicyVersion := by
      obtain ⟨kept, reached, samePolicy⟩ := persists.2 call.rideId new changedFound
      rw [found] at reached
      cases reached
      refine samePolicy.trans ?_
      have start : m.rides.find call.rideId = some first := by
        rw [← stood]
        exact congrArg (fun rows : RideRows => rows.rides.find call.rideId) read
      rcases (commandTransition_ok moved).2 with ⟨_, _, replayed⟩ | ⟨old, _, rfl, change⟩
      · have read := replayed.found
        rw [transitionRequest_rideId] at read
        rw [Option.mem_unique read start]
      · have read := change.found
        rw [transitionRequest_rideId] at read
        rw [← Option.mem_unique read start]
        rfl
    rw [policy]
    refine ⟨?_, existing, persists.1 _ _ recorded, same⟩
    rw [transitionRequest_rideId]
    exact found

theorem retries_of_replayed (transitions : OnlyTransitions call.command)
    (found : s.rides.find call.rideId = some ride) (owns : Owns call ride)
    (granted : Granted config call s)
    (replayed : Replayed config.hash (transitionRequest call ride.lifecyclePolicyVersion) ride
      (rideRows s)) : perform config call s = .ok (.changed ride false, s) := by
  have moved := commandTransition_of_replayed replayed
  obtain ⟨subject, rideId, command, draws⟩ := call
  unfold perform
  cases command with
  | command =>
    refine bind_ok.2 ⟨(ride, false), s, ?_, pure_ok.2 ⟨rfl, rfl⟩⟩
    exact owned_bind_ok.2 ⟨ride, found, owns, moved⟩
  | evidenceTransition => exact transitions.elim
  | issueVerification => exact transitions.elim
  | verifyPickup => exact transitions.elim
  | lifecycle =>
    refine bind_ok.2 ⟨(ride, false), s, ?_, pure_ok.2 ⟨rfl, rfl⟩⟩
    unfold lifecycleCommand getRide
    simp only [bind_assoc, pure_bind, steps_ok]
    exact ⟨granted, ride, found, owns, moved⟩

theorem evidence_of_transition {request : EvidenceCommand} {commandType : String}
    {target : Rides.Sources.ActiveRideState} {driverOnly : Bool} (ran : perform config
      ⟨subject, rideId, .evidenceTransition request commandType target driverOnly, draws⟩ s =
        .ok (outcome, t)) :
    t.evidence.rows = s.evidence.rows ++ [evidenceRecord subject rideId draws request] := by
  unfold perform at ran
  obtain ⟨⟨new, created⟩, answered, _⟩ := bind_pure_ok.1 ran
  obtain ⟨ride, _, _, added⟩ := owned_bind_ok.1 answered
  obtain ⟨evidence, appended, moved⟩ := addEvidence_bind_ok.1 added
  have sides := congrArg Prod.fst (commandTransition_ok moved).1
  exact (congrArg Table.rows sides).trans appended

theorem verifications_of_issue {request : RequestPickupVerificationCommand}
    (ran : perform config ⟨subject, rideId, .issueVerification request, draws⟩ s =
      .ok (outcome, t)) :
    t.verifications.rows.length = s.verifications.rows.length + 1 := by
  obtain ⟨answer, answered, _⟩ := bind_pure_ok.1 ran
  obtain ⟨ride, assignmentId, _, _, rows⟩ := issueVerification_ok answered
  rw [rows, List.length_append]
  simp [invalidated]

theorem marked_of_verification {request : PickupVerifyCommand}
    (answered : outcome ≠ .verificationFailed)
    (ran : perform config ⟨subject, rideId, .verifyPickup request, draws⟩ s =
      .ok (outcome, t)) : t.verifications ≠ s.verifications := by
  obtain ⟨verified, done, rfl⟩ := bind_pure_ok.1 ran
  obtain ⟨ride, between, _, _, compared, last⟩ := verifyPickup_ok done
  cases verified with
  | none => exact absurd rfl answered
  | some new =>
    obtain ⟨row, facts, _, verifications, rfl, replaced⟩ := verifyPin_ok compared
    intro same
    obtain ⟨held, _, _⟩ := mem_of_current facts.current
    have written : marked row draws.now ∈ s.verifications.rows := by
      rw [← same, last, replaced]
      exact Table.mem_replaced.2 (.inl ⟨rfl, row, held, rfl⟩)
    have one := s.verifications.eq_of_key written held rfl
    have unmarked := facts.unmarked
    rw [← one] at unmarked
    cases unmarked

end

/-- After any later actions, a retry of an answered call is safe exactly for the commands that only
transition, and while their subject still owns the ride. -/
theorem retries_safely_iff {config : RideConfig} {call : RideCall} {outcome : RideOutcome}
    {before after : ActiveRideStore} (success : perform config call before = .ok (outcome, after))
    (answered : outcome ≠ .verificationFailed) (others : List RideAction) (draws : Draws) :
    RetriesSafely config call draws (run (rideStep config) after others) ↔
      OnlyTransitions call.command ∧ StillOwns call (run (rideStep config) after others) := by
  have persists : Persists after (run (rideStep config) after others) := run_persists after others
  generalize run (rideStep config) after others = later at persists
  constructor
  · rintro ⟨again, succeeds, retried⟩
    obtain ⟨ride, found, owns, _⟩ := perform_ok retried
    refine ⟨?_, ride, found, by simpa [Owns] using owns⟩
    obtain ⟨subject, rideId, command, first⟩ := call
    cases command with
    | command => trivial
    | lifecycle => trivial
    | evidenceTransition =>
      have grown := congrArg List.length (evidence_of_transition retried)
      simp at grown
    | issueVerification =>
      have grown := verifications_of_issue retried
      omega
    | verifyPickup => exact absurd rfl (marked_of_verification succeeds retried)
  · rintro ⟨transitions, ride, found, owns⟩
    have replayed := replayed_of_draws draws (replayed_later success answered persists found)
    have granted : Granted config { call with draws } later := by
      obtain ⟨_, _, _, ⟨failed, _⟩ | ⟨_, _, _, granted, _⟩⟩ := perform_ok success
      · exact absurd failed answered
      · obtain ⟨subject, rideId, command, first⟩ := call
        cases command with
        | command => trivial
        | lifecycle => exact granted
        | evidenceTransition => exact transitions.elim
        | issueVerification => exact transitions.elim
        | verifyPickup => exact transitions.elim
    refine ⟨.changed ride false, nofun, ?_⟩
    have stillOwns : Owns { call with draws } ride := by simpa [Owns] using owns
    exact @retries_of_replayed config { call with draws } later ride transitions found stillOwns
      granted replayed

/-! Ride 10 of the runs above, whose driver starts and arrives. -/

def setsOut : RideCall :=
  ⟨⟨2, .driver⟩, 10, .command (envelopeAfter 0 2) (envelopeAfter 0 2).payload "driver_en_route"
    .driverEnRoute true, drawsAt 2⟩

def asksForRecovery : RideCall :=
  ⟨⟨1, .rider⟩, 10, .evidenceTransition ⟨envelopeAfter 1 3, rideNeedsHelp, []⟩
    "recovery_requested" .operationalRecovery false, drawsAt 3⟩

def enRoute : ActiveRideStore :=
  run (rideStep rideConfig) {} [rideStarted 1, byDriver "driver_en_route" .driverEnRoute 0 2]

private theorem answered_of_shown {call : RideCall} {outcome : RideOutcome}
    {s t : ActiveRideStore} (ran : perform rideConfig call s = .ok (outcome, t))
    (shown : (perform rideConfig call s).toOption.map Prod.fst ≠ some .verificationFailed) :
    outcome ≠ .verificationFailed := by
  rw [ran] at shown
  exact fun failed => shown (congrArg some failed)

theorem retries_safely_en_route :
    ∃ outcome after, perform rideConfig setsOut (run (rideStep rideConfig) {} [rideStarted 1]) =
        .ok (outcome, after) ∧
      RetriesSafely rideConfig setsOut (drawsAt 9)
        (run (rideStep rideConfig) after [byDriver "driver_arrived" .driverArrived 1 3]) := by
  obtain ⟨⟨outcome, after⟩, success⟩ := exists_of_isOk
    (show (perform rideConfig setsOut (run (rideStep rideConfig) {} [rideStarted 1])).isOk = true by
      decide +kernel)
  have answered := answered_of_shown success (by decide +kernel)
  refine ⟨outcome, after, success, ?_⟩
  refine (retries_safely_iff success answered [byDriver "driver_arrived" .driverArrived 1 3]
    (drawsAt 9)).2 ⟨trivial, ?_⟩
  have stands : (((rideStep rideConfig (commit (perform rideConfig setsOut)
      (run (rideStep rideConfig) {} [rideStarted 1]))
      (byDriver "driver_arrived" .driverArrived 1 3)).rides.find 10).map ActiveRide.driverId) =
      some (some 2) := by
    decide +kernel
  rw [commit_of_ok success] at stands
  obtain ⟨ride, found, driver⟩ := Option.map_eq_some_iff.1 stands
  exact ⟨ride, found, rfl, driver⟩

/-- The rider's request for recovery is answered, and its retry adds a second piece of evidence. -/
theorem recovery_retried_unsafely :
    ¬ ∀ (config : RideConfig) (call : RideCall) (outcome : RideOutcome)
      (before after : ActiveRideStore), perform config call before = .ok (outcome, after) →
      outcome ≠ .verificationFailed → ∀ (others : List RideAction) (draws : Draws),
        RetriesSafely config call draws (run (rideStep config) after others) := by
  intro claimed
  obtain ⟨⟨outcome, after⟩, success⟩ := exists_of_isOk
    (show (perform rideConfig asksForRecovery enRoute).isOk = true by decide +kernel)
  have answered := answered_of_shown success (by decide +kernel)
  obtain ⟨again, _, retried⟩ := claimed rideConfig asksForRecovery outcome _ after success answered
    [] (drawsAt 4)
  rw [run_nil] at retried
  have once : (commit (perform rideConfig asksForRecovery) enRoute).evidence.rows.length = 1 := by
    decide +kernel
  have twice : (commit (perform rideConfig { asksForRecovery with draws := drawsAt 4 })
      (commit (perform rideConfig asksForRecovery) enRoute)).evidence.rows.length = 2 := by
    decide +kernel
  rw [commit_of_ok success] at once twice
  rw [commit_of_ok retried] at twice
  omega

end Ayo.ActiveRides.RetriedCommands
