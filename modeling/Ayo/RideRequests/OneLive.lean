/- digest: When a rider has one live request among overlapping creations. -/

import Ayo.Handoff.Service
import Ayo.RideRequests.Effects

namespace Ayo.RideRequests.OneLive

open Kernel.UnitOfWork Kernel.KeyedTable Kernel.Run Core.Values
open Handoff.Repository (HandoffConfig HandoffStore)
open Handoff.System Models Engine Application Effects

structure PendingCreate where
  call : CreateCall
  seen : RequestStore

/-- The committed rows, the creations under way, and the latest time at which anything happened. -/
structure RequestSystem where
  committed : RequestStore := {}
  pending : List PendingCreate := []
  clock : Instant
  handoffs : HandoffStore := {}

inductive RequestMove where
  | check (call : CreateCall)
  | finish (index : Nat)
  | drop (index : Nat)
  | cancel (call : CancelCall)
  | handoff (action : HandoffAction)

structure TimedMove where
  now : Instant
  move : RequestMove

variable (config : RequestConfig) (handoffConfig : HandoffConfig) (system : RequestSystem)

def moveOf : RequestMove → RequestSystem
  | .check call => { system with pending := system.pending ++ [⟨call, system.committed⟩] }
  | .finish index =>
    match system.pending[index]? with
    | some creation =>
      { system with
        committed := commit (create config creation.seen creation.call) system.committed
        pending := system.pending.eraseIdx index }
    | none => system
  | .drop index => { system with pending := system.pending.eraseIdx index }
  | .cancel call => { system with committed := commit (cancel config call) system.committed }
  | .handoff action => { system with handoffs := handoffStep handoffConfig system.handoffs action }

def requestStep (input : TimedMove) : RequestSystem :=
  { moveOf config handoffConfig system input.move with clock := max system.clock input.now }

def Live (now : Instant) (row : RideRequest) : Prop :=
  row.state = .readyForDispatch ∧ now < row.expiresAt
deriving Decidable

/-- From now on no rider ever has two live requests. -/
def OneLivePerRider : Prop :=
  ∀ now, system.clock ≤ now →
    ∀ first ∈ system.committed.requests.rows, ∀ second ∈ system.committed.requests.rows,
      first.riderIdentityId = second.riderIdentityId → Live now first → Live now second →
        first = second

def AllSettled (store : RequestStore) (riderId : Uuid) (time : Instant) : Prop :=
  ∀ row ∈ store.requests.rows, row.riderIdentityId = riderId →
    row.state = .cancelled ∨ row.state = .validationFailed ∨ row.expiresAt ≤ time

/-- A creation that commits for a rider whose requests, as it saw them, were all settled was not
refused for an active request. -/
def FairlyRefused (before after : RequestSystem) (input : TimedMove) : Prop :=
  ∀ index creation, input.move = .finish index → before.pending[index]? = some creation →
    AllSettled creation.seen creation.call.subject.identityId creation.call.time.instant →
      ∀ decision ∈ after.committed.decisions.rows, decision ∉ before.committed.decisions.rows →
        "request.active_conflict" ∉ decision.reasonCodes

def RequestSystem.target (creation : PendingCreate) : Uuid :=
  canonicalOf system.committed (creation.call.reservation config)

/-- A creation that saw no active request commits a valid request while a live request of the rider
has been committed. -/
def Overtaken (now : Instant) (creation : PendingCreate) : Prop :=
  Admissible config system.committed creation.call ∧
    findings config (creation.call.inputs false) = [] ∧
    hasActive creation.seen creation.call.subject.identityId (system.target config creation) =
      false ∧
    max system.clock now < creation.call.time.instant + config.policy.requestTtlSeconds * 1000000 ∧
    ∃ row ∈ system.committed.requests.rows,
      row.riderIdentityId = creation.call.subject.identityId ∧ Live (max system.clock now) row
deriving Decidable

/-- A creation that saw active requests, all of them expired, commits its refusal. -/
def Outdated (creation : PendingCreate) : Prop :=
  Admissible config system.committed creation.call ∧
    hasActive creation.seen creation.call.subject.identityId (system.target config creation) =
      true ∧
    ∀ row ∈ creation.seen.requests.rows, row.riderIdentityId = creation.call.subject.identityId →
        row.state = .readyForDispatch → row.expiresAt ≤ creation.call.time.instant
deriving Decidable

/-- A move that commits a creation commits it neither overtaken nor outdated. -/
def Timely (input : TimedMove) : Prop :=
  match input.move with
  | .finish index => ∀ creation ∈ system.pending[index]?,
      ¬ Overtaken config system input.now creation ∧ ¬ Outdated config system creation
  | _ => True

instance (system : RequestSystem) : DecidablePred (Timely config system)
  | ⟨_, .finish _⟩ => inferInstanceAs (Decidable (∀ creation ∈ _, _))
  | ⟨_, .check _⟩ | ⟨_, .drop _⟩ | ⟨_, .cancel _⟩ | ⟨_, .handoff _⟩ => .isTrue trivial

section

variable {config handoffConfig} {system : RequestSystem} {input : TimedMove}

theorem committed_moveOf (handoffConfig : HandoffConfig) (move : RequestMove) :
    (moveOf config handoffConfig system move).committed = system.committed ∨
      (∃ index creation, move = .finish index ∧ system.pending[index]? = some creation ∧
        (moveOf config handoffConfig system move).committed =
          commit (create config creation.seen creation.call) system.committed) ∨
      ∃ call, (moveOf config handoffConfig system move).committed =
        commit (cancel config call) system.committed := by
  cases move with
  | check => exact .inl rfl
  | drop => exact .inl rfl
  | handoff => exact .inl rfl
  | cancel call => exact .inr (.inr ⟨call, rfl⟩)
  | finish index =>
    cases taken : system.pending[index]? with
    | none =>
      left
      simp only [moveOf, taken]
    | some creation =>
      refine .inr (.inl ⟨index, creation, rfl, taken, ?_⟩)
      simp only [moveOf, taken]

theorem Live.earlier {row : RideRequest} {first second : Instant} (live : Live second row)
    (le : first ≤ second) : Live first row :=
  ⟨live.1, lt_of_le_of_lt le live.2⟩

theorem ready_of_valid (prohibits : config.policy.prohibitMultipleActiveRequests = true)
    {store : RequestStore} {call : CreateCall} {conflicting : Bool}
    (ready : (outcomeOf (decisionOf config store call conflicting).status).1 = .readyForDispatch) :
    conflicting = false ∧ findings config (call.inputs false) = [] := by
  have valid : (decisionOf config store call conflicting).status = .valid := by
    cases status : (decisionOf config store call conflicting).status with
    | valid => rfl
    | invalid =>
      rw [status] at ready
      cases ready
  obtain ⟨none_found, apart⟩ := (status_eq_valid config (call.inputs conflicting)).1 valid
  have unseen : conflicting = false := by
    cases conflicting with
    | false => rfl
    | true => exact absurd ⟨prohibits, rfl⟩ apart
  subst unseen
  exact ⟨rfl, none_found⟩

theorem OneLivePerRider.step (prohibits : config.policy.prohibitMultipleActiveRequests = true)
    (timely : Timely config system input) (one : OneLivePerRider system) :
    OneLivePerRider (requestStep config handoffConfig system input) := by
  intro now reached
  have reached : max system.clock input.now ≤ now := reached
  have before := one now ((le_max_left _ _).trans reached)
  show ∀ first ∈ (moveOf config handoffConfig system input.move).committed.requests.rows,
    ∀ second ∈ (moveOf config handoffConfig system input.move).committed.requests.rows,
      first.riderIdentityId = second.riderIdentityId → Live now first → Live now second →
        first = second
  obtain same | ⟨index, creation, finishes, taken, commits⟩ | ⟨call, commits⟩ :=
    committed_moveOf handoffConfig input.move
  · rw [same]
    exact before
  · rw [commits]
    obtain stays | ⟨answer, ran⟩ :=
      commit_cases (create config creation.seen creation.call) system.committed
    · rw [stays]
      exact before
    cases create_effect ran with
    | existing requests =>
      rw [requests]
      exact before
    | created admissible row requests identified owned state expires =>
      -- A live request that was committed before would mean that the creation is overtaken.
      have alone : Live now row → ∀ other ∈ system.committed.requests.rows,
          other.riderIdentityId = row.riderIdentityId → ¬ Live now other := by
        intro live other held same_rider other_live
        obtain ⟨unseen, none_found⟩ := ready_of_valid prohibits (state.symm.trans live.1)
        have in_time : ¬ Overtaken config system input.now creation := by
          unfold Timely at timely
          rw [finishes] at timely
          exact (timely creation taken).1
        refine in_time ⟨admissible, none_found, unseen, ?_, other, held,
          same_rider.trans owned, other_live.earlier reached⟩
        exact lt_of_le_of_lt reached (expires ▸ live.2)
      rw [requests]
      intro first left second right same_rider live live'
      rw [List.mem_append, List.mem_singleton] at left right
      obtain old | rfl := left
      · obtain old' | rfl := right
        · exact before first old second old' same_rider live live'
        · exact absurd live (alone live' first old same_rider)
      · obtain old' | rfl := right
        · exact absurd live' (alone live second old' same_rider.symm)
        · rfl
  · rw [commits]
    obtain stays | ⟨answer, ran⟩ := commit_cases (cancel config call) system.committed
    · rw [stays]
      exact before
    obtain ⟨_, requests | ⟨row, cancelled, rows⟩⟩ := cancel_effect ran
    · rw [requests]
      exact before
    · have old : ∀ other ∈ system.committed.requests.replaced row, Live now other →
          other ∈ system.committed.requests.rows := by
        intro other mem live
        obtain ⟨rfl, _⟩ | ⟨held, _⟩ := Table.mem_replaced.1 mem
        · have state := live.1
          rw [cancelled] at state
          cases state
        · exact held
      rw [rows]
      intro first left second right same_rider live live'
      exact before first (old first left live) second (old second right live') same_rider live live'

theorem fairlyRefused_step (timely : Timely config system input) :
    FairlyRefused system (requestStep config handoffConfig system input) input := by
  intro index creation finishes taken settled decision written fresh refused
  have outdated : ¬ Outdated config system creation := by
    unfold Timely at timely
    rw [finishes] at timely
    exact (timely creation taken).2
  have commits : (requestStep config handoffConfig system input).committed =
      commit (create config creation.seen creation.call) system.committed := by
    simp only [requestStep, finishes, moveOf, taken]
  rw [commits] at written
  obtain stays | ⟨answer, ran⟩ :=
    commit_cases (create config creation.seen creation.call) system.committed
  · rw [stays] at written
    exact fresh written
  cases create_effect ran with
  | existing requests decisions =>
    rw [decisions] at written
    exact fresh written
  | created admissible row requests identified owned state expires decisions =>
    obtain old | rfl := (mem_appended decisions).1 written
    · exact fresh old
    · have seen := ((conflict_mem_reasonCodes config _).1 refused).2
      refine outdated ⟨admissible, seen, fun other held same_rider ready => ?_⟩
      obtain cancelled | failed | expired := settled other held same_rider
      · rw [ready] at cancelled
        cases cancelled
      · rw [ready] at failed
        cases failed
      · exact expired

/-- While no creation is committed overtaken or outdated, every rider has at most one live request,
and none is refused for an active request whose requests were all settled. -/
theorem one_live_of_timely (prohibits : config.policy.prohibitMultipleActiveRequests = true)
    (clock : Instant) (moves : List TimedMove)
    (timely : Along (requestStep config handoffConfig) (Timely config) { clock } moves) (n : Nat) :
    OneLivePerRider (run (requestStep config handoffConfig) { clock } (moves.take n)) ∧
      ∀ input, moves[n]? = some input →
        FairlyRefused (run (requestStep config handoffConfig) { clock } (moves.take n))
          (run (requestStep config handoffConfig) { clock } (moves.take (n + 1))) input := by
  constructor
  · have start : OneLivePerRider { clock } := by
      intro now _ first left
      cases left
    exact run_invariant_between
      (fun _ _ in_time one => OneLivePerRider.step prohibits in_time one) timely (Nat.zero_le n)
      start
  · intro input taken
    rw [run_take_succ taken]
    exact fairlyRefused_step (guard_of_along timely taken)

theorem sampleVersion_isCode : isCode "ride.request.v1" = true := by decide

theorem sampleTtl_range : 30 ≤ 600 ∧ 600 ≤ 86400 := by decide

/-- Requests that last ten minutes; along a meridian a degree is 111195 metres. -/
def sampleConfig : RequestConfig where
  policy :=
    { version := ⟨"ride.request.v1", sampleVersion_isCode⟩, maximumAccuracyMetres := 100
      maximumObservationAgeSeconds := 60, minimumSeparationMetres := 50, requestTtlSeconds := 600
      prohibitMultipleActiveRequests := true, effectiveFrom := 0, effectiveUntil := none
      ttlRange := sampleTtl_range }
  separationMetres a b := 111195 * |a.latitude - b.latitude|
  createHash clientRequestId _ _ _ _ _ := toString clientRequestId
  cancelHash text := text

def sampleHandoffs : HandoffConfig where
  hash _ := 0
  policyVersion := "dispatch.v1"

def samplePlace (latitude : ℚ) : LocationMetadata where
  coordinate := ⟨latitude, 38⟩
  source := .riderSelected
  observedAt := 5
  accuracyMetres := some 10
  structuredAddress := none
  landmarkReference := none
  note := none
  mapConfidenceBps := 0

def sampleCreate (n : Nat) : CreateCall where
  subject := ⟨7, .rider⟩
  command :=
    { clientRequestId := n, idempotencyKey := "create-" ++ toString n
      pickup :=
        { samplePlace 9 with
          pickupId := n, entranceReference := none, exactStopReference := none
          airportTerminalReference := none, airportZoneReference := none
          referencePhotoMetadataReference := none, safetyStatus := .unverified
          policyVersion := ⟨"ride.request.v1", sampleVersion_isCode⟩ }
      destination := { samplePlace 10 with destinationId := n }
      serviceType := .immediateStandard, paymentIntent := .cashCompatible
      consentPolicyVersion := ⟨"ride.request.v1", sampleVersion_isCode⟩ }
  time := ⟨6, some 0⟩
  requestId := n
  decisionId := n
  auditId := 10 + n
  zones :=
    [{ zoneId := 3, version := ⟨"ride.request.v1", sampleVersion_isCode⟩, minLatitude := 8
       maxLatitude := 11, minLongitude := 37, maxLongitude := 39, prohibitedRectangles := []
       supportedServiceTypes := [.immediateStandard], activeFrom := 0, activeUntil := none }]
  identity := some .active

def sampleCancel (n : Nat) : CancelCall where
  subject := ⟨7, .rider⟩
  requestId := n
  reasonCode := "rider.changed_plans"
  expectedVersion := 3
  idempotencyKey := "cancel-" ++ toString n
  time := ⟨7, some 0⟩
  auditId := 20 + n

/-- A request that is cancelled before the next one is created. -/
def sampleMoves : List TimedMove :=
  [⟨6, .check (sampleCreate 1)⟩, ⟨6, .finish 0⟩, ⟨7, .cancel (sampleCancel 1)⟩,
   ⟨8, .check (sampleCreate 2)⟩, ⟨8, .finish 0⟩]

theorem one_live_sampleMoves :
    OneLivePerRider (run (requestStep sampleConfig sampleHandoffs) { clock := 6 }
        (sampleMoves.take 5)) ∧
      ∀ input, sampleMoves[5]? = some input →
        FairlyRefused (run (requestStep sampleConfig sampleHandoffs) { clock := 6 }
            (sampleMoves.take 5))
          (run (requestStep sampleConfig sampleHandoffs) { clock := 6 } (sampleMoves.take 6))
          input :=
  one_live_of_timely rfl 6 sampleMoves (by decide +kernel) 5

def overlappingCreates : List TimedMove :=
  [⟨6, .check (sampleCreate 1)⟩, ⟨6, .check (sampleCreate 2)⟩, ⟨6, .finish 0⟩, ⟨6, .finish 0⟩]

/-- Both of them become ready for dispatch. -/
theorem two_live_requests :
    ¬ ∀ (moves : List TimedMove) (n : Nat),
      OneLivePerRider (run (requestStep sampleConfig sampleHandoffs) { clock := 6 }
        (moves.take n)) := by
  intro law
  have one := law overlappingCreates 4 7 (by decide +kernel)
  revert one
  decide +kernel

end

end Ayo.RideRequests.OneLive
