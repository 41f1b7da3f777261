/- digest: What each input does to sessions, events and snapshots. -/

import Ayo.ArrivalWaiting.Application
import Mathlib.Logic.Relation

namespace Ayo.ArrivalWaiting.Effects

open Kernel.UnitOfWork Kernel.KeyedTable Kernel.Ordering
open Core.Values hiding isCode Code
open Models Engine Repository Application

def sessionRows (store : WaitingStore) :
    Table WaitingPolicySnapshot × Table WaitingSession × Table SessionEvent :=
  (store.snapshots, store.sessions, store.sessionEvents)

def Quiet (s t : WaitingStore) : Prop := sessionRows t = sessionRows s

structure Starts (s t : WaitingStore) (session : WaitingSession)
    (snapshot : WaitingPolicySnapshot) : Prop where
  snapshots : t.snapshots.rows = s.snapshots.rows ++ [snapshot]
  sessions : t.sessions.rows = s.sessions.rows ++ [session]
  events : t.sessionEvents.rows =
    s.sessionEvents.rows ++ [eventOf session "free_wait_started"]

structure Moves (s t : WaitingStore) (prior next : WaitingSession) : Prop where
  stored : prior ∈ s.sessions.rows
  sameId : next.sessionId = prior.sessionId
  snapshots : t.snapshots = s.snapshots
  sessions : t.sessions.rows = s.sessions.replaced next
  events : t.sessionEvents.rows =
    s.sessionEvents.rows ++ [eventOf next next.state.value]

/-- The worker moves one active session whose free wait is over. -/
def Projects (now : Instant) (s t : WaitingStore) : Prop :=
  ∃ session, session.state = .freeWaitActive ∧ session.freeWaitDeadline ≤ now ∧
    Moves s t session (projected session now)

inductive WaitingEffect (config : WaitingConfig) (s t : WaitingStore) :
    WaitingInput → Prop where
  | quiet {input : WaitingInput} (quiet : Quiet s t) : WaitingEffect config s t input
  | started {call : WaitingCall} (request : StartWaitingCommand)
      (command : call.command = .start request) (assignmentId : Uuid)
      (arrival : ArrivalEvaluation) (snapshot : WaitingPolicySnapshot) (session : WaitingSession)
      (absent : sessionOf s call.rowOrder call.rideId = none)
      (arrived : latest ArrivalEvaluation.evaluatedAt (fun row => call.rowOrder row.evaluationId)
        (s.arrivals.rows.filter fun row => row.rideId = call.rideId) = some arrival)
      (resolved : resolveWaitingPolicy call.snapshotId call.rideId request.context
        config.waitingPolicies call.now = .ok snapshot)
      (begun : startWaiting call.itemId call.rideId assignmentId arrival snapshot call.now =
        .ok session)
      (starts : Starts s t session snapshot) :
      WaitingEffect config s t (.command call)
  | continued {call : WaitingCall} (request : ContinuityCommand)
      (command : call.command = .continuity request) (prior next : WaitingSession)
      (snapshot : WaitingPolicySnapshot)
      (current : sessionOf s call.rowOrder call.rideId = some prior)
      (expected : prior.version = request.expectedSessionVersion)
      (selected : s.snapshots.find prior.policySnapshotId = some snapshot)
      (evaluated : evaluateWaitingContinuity prior snapshot request.signals
        request.observationSequence call.now = .ok next)
      (moves : Moves s t prior next) : WaitingEffect config s t (.command call)
  | projected {rowOrder : Uuid → Nat} {batchSize : Ranged 1 500} {now : Instant}
      (projects : Relation.ReflTransGen (Projects now) s t) :
      WaitingEffect config s t (.recovery rowOrder batchSize now)

variable {s t : WaitingStore} {session : WaitingSession} {rowOrder : Uuid → Nat}

theorem quiet_of_keeps {α : Type} {body : WaitingTransaction α} (kept : Keeps sessionRows body)
    {result : α} (ran : body s = .ok (result, t)) : Quiet s t :=
  kept s result t ran

theorem mem_of_sessionOf {store : WaitingStore} {rideId : Uuid}
    (old : sessionOf store rowOrder rideId = some session) :
    session ∈ store.sessions.rows ∧ session.rideId = rideId := by
  obtain ⟨mem, _⟩ := le_of_getLast?_orderedBy old
  obtain ⟨held, onRide⟩ := List.mem_filter.1 mem
  exact ⟨held, by simpa using onRide⟩

section

variable {α : Type} {store result : WaitingStore} {a : α} {rowOrder : Uuid → Nat} {rideId : Uuid}
  {call : WaitingCall}

theorem latestSession_bind_ok {f : Option WaitingSession → WaitingTransaction α} :
    (latestSession rowOrder rideId >>= f) store = .ok (a, result) ↔
      f (sessionOf store rowOrder rideId) store = .ok (a, result) := by
  simp only [latestSession, bind_assoc, pure_bind, get_bind_ok]

theorem latestArrival_bind_ok {f : Option ArrivalEvaluation → WaitingTransaction α} :
    (latestArrival rowOrder rideId >>= f) store = .ok (a, result) ↔
      f (latest ArrivalEvaluation.evaluatedAt (fun row => rowOrder row.evaluationId)
        (store.arrivals.rows.filter fun row => row.rideId = rideId)) store = .ok (a, result) := by
  simp only [latestArrival, bind_assoc, pure_bind, get_bind_ok]

theorem getSnapshot_bind_ok {snapshotId : Uuid}
    {f : Option WaitingPolicySnapshot → WaitingTransaction α} :
    (getSnapshot snapshotId >>= f) store = .ok (a, result) ↔
      f (store.snapshots.find snapshotId) store = .ok (a, result) := by
  simp only [getSnapshot, bind_assoc, pure_bind, get_bind_ok]

theorem driverRequired_bind_ok {f : Unit → WaitingTransaction α} :
    (driverRequired call >>= f) store = .ok (a, result) ↔
      call.subject.identityType = .driver ∧ f () store = .ok (a, result) := by
  simp only [driverRequired, require_bind_ok]

theorem owned_bind_ok {driverOnly : Bool} {f : ActiveRide → WaitingTransaction α} :
    (owned call driverOnly >>= f) store = .ok (a, result) ↔
      ∃ ride, call.activeRides call.rideId = some ride ∧ allowedOn call ride driverOnly = true ∧
        f ride store = .ok (a, result) := by
  simp only [owned, bind_assoc, pure_bind, steps_ok]

theorem idempotentResponse_readOnly {actorId commandId : Uuid} {commandType : String}
    {requestHash : Digest} :
    ReadOnly (idempotentResponse actorId commandId rideId commandType requestHash) :=
  .bind .get fun _ => .whenSome (fun _ => .requires <| .pure) .pure

end

theorem saveIdempotentResponse_ok {item : IdempotentCommand}
    {u : Unit} (ran : saveIdempotentResponse item s = .ok (u, t)) :
    ∃ idempotency, t = { s with idempotency } := by
  unfold saveIdempotentResponse at ran
  simp only [↓steps_ok] at ran
  obtain ⟨idempotency, _, rfl⟩ := ran
  exact ⟨idempotency, rfl⟩

section

variable {config : WaitingConfig} {call : WaitingCall} {s t : WaitingStore} {response : Response}
  {body : WaitingTransaction Response} {item : WaitingSession} {u : Unit}

theorem once_ok (ran : once config call body s = .ok (response, t)) :
    t = s ∨ ∃ between, body s = .ok (response, between) ∧ Quiet between t := by
  obtain ⟨duplicate, _, rest⟩ := (idempotentResponse_readOnly).bind_ok ran
  rcases whenSome_ok.1 rest with ⟨_, _, answered⟩ | ⟨_, executed⟩
  · exact .inl (pure_ok.1 answered).2.symm
  · obtain ⟨made, between, done, kept⟩ := bind_ok.1 executed
    obtain ⟨_, saved, rfl⟩ := bind_pure_ok.1 kept
    obtain ⟨idempotency, rfl⟩ := saveIdempotentResponse_ok saved
    exact .inr ⟨between, done, rfl⟩

theorem quiet_of_once (kept : Keeps sessionRows body)
    (ran : once config call body s = .ok (response, t)) : Quiet s t := by
  rcases once_ok ran with rfl | ⟨between, done, quiet⟩
  · exact rfl
  · exact quiet.trans (quiet_of_keeps kept done)

theorem recordSessionEvent_ok {eventType : String}
    (ran : recordSessionEvent item eventType s = .ok (u, t)) :
    t.sessionEvents.rows = s.sessionEvents.rows ++ [eventOf item eventType] ∧
      t.snapshots = s.snapshots ∧ t.sessions = s.sessions := by
  unfold recordSessionEvent at ran
  simp only [↓steps_ok, Table.insert?_eq_some] at ran
  obtain ⟨sessionEvents, rows, rfl⟩ := ran
  exact ⟨rows, rfl, rfl⟩

theorem updateSession_ok {expectedVersion : Nat}
    (ran : updateSession item expectedVersion s = .ok (u, t)) :
    ∃ old, s.sessions.find item.sessionId = some old ∧
      old.version = expectedVersion ∧ Moves s t old item := by
  unfold updateSession at ran
  simp only [↓steps_ok, Table.replace?_eq_some] at ran
  obtain ⟨old, found, expected, sessions, rows, recorded⟩ := ran
  obtain ⟨events, sameSnapshots, sameSessions⟩ := recordSessionEvent_ok recorded
  refine ⟨old, found, expected, Table.mem_of_find found, (Table.key_of_find found).symm,
    sameSnapshots, ?_, events⟩
  rw [sameSessions]
  exact rows

theorem start_ok {request : StartWaitingCommand} (command : call.command = .start request)
    (ran : start config call request s = .ok (response, t)) :
    WaitingEffect config s t (.command call) := by
  unfold start at ran
  simp only [↓driverRequired_bind_ok, ↓owned_bind_ok] at ran
  obtain ⟨_, ride, _, _, answered⟩ := ran
  rcases once_ok answered with rfl | ⟨between, executed, quiet⟩
  · exact .quiet rfl
  simp only [↓steps_ok, ↓latestSession_bind_ok, ↓latestArrival_bind_ok,
    ↓attempt_bind_ok] at executed
  obtain ⟨_, absent, arrival, arrived, assignmentId, _, snapshot, resolved, session, begun,
    written⟩ := executed
  obtain ⟨_, held, saved, rest⟩ := bind_ok.1 written
  obtain ⟨_, inserted, _⟩ := bind_pure_ok.1 rest
  unfold saveSnapshot at saved
  simp only [↓steps_ok, Table.insert?_eq_some] at saved
  obtain ⟨snapshots, snapshotRows, rfl⟩ := saved
  unfold createSession at inserted
  simp only [↓steps_ok, Table.insert?_eq_some] at inserted
  obtain ⟨sessions, sessionsRows, recorded⟩ := inserted
  obtain ⟨events, sameSnapshots, sameSessions⟩ := recordSessionEvent_ok recorded
  obtain ⟨keptSnapshots, keptRest⟩ := Prod.mk.inj quiet
  obtain ⟨keptSessions, keptEvents⟩ := Prod.mk.inj keptRest
  refine .started request command assignmentId arrival snapshot session absent arrived resolved
    begun ⟨?_, ?_, ?_⟩
  · rw [keptSnapshots, sameSnapshots]
    exact snapshotRows
  · rw [keptSessions, sameSessions]
    exact sessionsRows
  · rw [keptEvents]
    exact events

theorem Moves.quiet {between : WaitingStore} {prior next : WaitingSession}
    (moves : Moves s between prior next) (quiet : Quiet between t) : Moves s t prior next := by
  obtain ⟨keptSnapshots, keptRest⟩ := Prod.mk.inj quiet
  obtain ⟨keptSessions, keptEvents⟩ := Prod.mk.inj keptRest
  refine ⟨moves.stored, moves.sameId, keptSnapshots.trans moves.snapshots, ?_, ?_⟩
  · rw [keptSessions]
    exact moves.sessions
  · rw [keptEvents]
    exact moves.events

theorem continuity_ok {request : ContinuityCommand} (command : call.command = .continuity request)
    (ran : continuity config call request s = .ok (response, t)) :
    WaitingEffect config s t (.command call) := by
  unfold continuity at ran
  simp only [↓driverRequired_bind_ok, ↓owned_bind_ok] at ran
  obtain ⟨_, _, _, _, answered⟩ := ran
  rcases once_ok answered with rfl | ⟨between, executed, quiet⟩
  · exact .quiet rfl
  simp only [↓latestSession_bind_ok, ↓steps_ok, ↓getSnapshot_bind_ok, ↓attempt_bind_ok] at executed
  obtain ⟨session, old, expected, snapshot, selected, next, evaluated, written⟩ := executed
  obtain ⟨_, updated, _⟩ := bind_pure_ok.1 written
  obtain ⟨held, found, _, moves⟩ := updateSession_ok updated
  have mem := (mem_of_sessionOf old).1
  have same := (sameSession_of_continuity evaluated).1
  have lookup : s.sessions.find next.sessionId = some session := by
    rw [same]
    exact Table.find_of_mem mem
  obtain rfl : held = session := Option.mem_unique found lookup
  exact .continued request command held next snapshot old expected selected evaluated
    (moves.quiet quiet)

theorem quiet_of_submitArrival {request : ArrivalCommand}
    (ran : submitArrival config call request s = .ok (response, t)) : Quiet s t := by
  unfold submitArrival at ran
  simp only [↓driverRequired_bind_ok, ↓owned_bind_ok] at ran
  obtain ⟨_, ride, _, _, answered⟩ := ran
  refine quiet_of_once ?_ answered
  intro store _ result executed
  simp only [↓steps_ok] at executed
  obtain ⟨_, _, _, _, _, written⟩ := executed
  obtain ⟨_, saved, _⟩ := bind_pure_ok.1 written
  unfold saveArrival at saved
  simp only [↓steps_ok] at saved
  obtain ⟨_, _, rfl⟩ := saved
  rfl

theorem quiet_of_evaluateRiderReadiness {request : ReadinessCommand}
    (ran : evaluateRiderReadiness config call request s = .ok (response, t)) : Quiet s t := by
  unfold evaluateRiderReadiness at ran
  simp only [↓owned_bind_ok] at ran
  obtain ⟨_, _, _, answered⟩ := ran
  refine quiet_of_once ?_ answered
  intro store _ result executed
  simp only [↓attempt_bind_ok] at executed
  obtain ⟨_, _, written⟩ := executed
  obtain ⟨_, saved, _⟩ := bind_pure_ok.1 written
  unfold saveReadiness at saved
  simp only [↓steps_ok] at saved
  obtain ⟨_, _, rfl⟩ := saved
  rfl

theorem quiet_of_riderPresent {request : RiderPresentCommand}
    (ran : riderPresent config call request s = .ok (response, t)) : Quiet s t := by
  unfold riderPresent at ran
  simp only [↓require_bind_ok, ↓owned_bind_ok] at ran
  obtain ⟨_, _, _, _, answered⟩ := ran
  refine quiet_of_once ?_ answered
  intro store _ result executed
  simp only [↓latestSession_bind_ok, ↓steps_ok] at executed
  obtain ⟨_, _, _, written⟩ := executed
  obtain ⟨_, recorded, _⟩ := bind_pure_ok.1 written
  unfold recordNotification at recorded
  simp only [↓steps_ok] at recorded
  obtain rfl := recorded
  rfl

theorem quiet_of_evaluateNoShow {request : EvidenceCommand}
    (ran : evaluateNoShow config call request s = .ok (response, t)) : Quiet s t := by
  unfold evaluateNoShow at ran
  simp only [↓driverRequired_bind_ok, ↓owned_bind_ok] at ran
  obtain ⟨_, _, _, _, answered⟩ := ran
  refine quiet_of_once ?_ answered
  intro store _ result executed
  simp only [↓latestSession_bind_ok, ↓steps_ok, ↓getSnapshot_bind_ok] at executed
  obtain ⟨_, _, _, _, _, written⟩ := executed
  obtain ⟨_, saved, _⟩ := bind_pure_ok.1 written
  unfold saveEvidence at saved
  simp only [↓steps_ok] at saved
  obtain ⟨_, _, rfl⟩ := saved
  rfl

end

variable {config : WaitingConfig} {s t : WaitingStore} {now : Instant} {new : Nat}

theorem Moves.mem_of_other {prior next : WaitingSession} (moves : Moves s t prior next)
    (held : session ∈ s.sessions.rows) (other : session.sessionId ≠ prior.sessionId) :
    session ∈ t.sessions.rows := by
  rw [moves.sessions]
  refine Table.mem_replaced.2 (.inr ⟨held, ?_⟩)
  intro same
  have sameNext : session.sessionId = next.sessionId := same
  exact other (sameNext.trans moves.sameId)

theorem projectOne_ok (ran : projectEach.projectOne now session s = .ok (new, t))
    (held : session ∈ s.sessions.rows) (due : session.freeWaitDeadline ≤ now) :
    t = s ∨ (Projects now s t ∧ Moves s t session (projected session now)) := by
  unfold projectEach.projectOne at ran
  rcases ite_ok.1 ran with ⟨active, updates⟩ | ⟨_, skipped⟩
  · obtain ⟨_, updated, _⟩ := bind_pure_ok.1 updates
    obtain ⟨old, found, _, moves⟩ := updateSession_ok updated
    have lookup : s.sessions.find session.sessionId = some session :=
      Table.find_of_mem held
    obtain rfl : old = session := Option.mem_unique found lookup
    exact .inr ⟨⟨old, active, due, moves⟩, moves⟩
  · exact .inl (pure_ok.1 skipped).2.symm

theorem projectEach_ok {sessions : List WaitingSession}
    (ran : projectEach now sessions s = .ok (new, t))
    (due : ∀ session ∈ sessions, session ∈ s.sessions.rows ∧ session.freeWaitDeadline ≤ now)
    (apart : (sessions.map WaitingSession.sessionId).Nodup) :
    Relation.ReflTransGen (Projects now) s t := by
  induction sessions generalizing s new with
  | nil =>
    obtain ⟨_, rfl⟩ := pure_ok.1 ran
    exact .refl
  | cons session rest ih =>
    obtain ⟨_, between, first, others⟩ := bind_ok.1 ran
    obtain ⟨_, remaining, _⟩ := bind_pure_ok.1 others
    obtain ⟨fresh, restApart⟩ := List.nodup_cons.1 apart
    obtain ⟨held, expired⟩ := due session (by simp)
    have restDue : ∀ other ∈ rest, other ∈ s.sessions.rows ∧ other.freeWaitDeadline ≤ now := by
      intro other mem
      exact due other (List.mem_cons_of_mem _ mem)
    rcases projectOne_ok first held expired with rfl | ⟨projects, moves⟩
    · exact ih remaining restDue restApart
    · refine .head projects (ih remaining ?_ restApart)
      intro other mem
      obtain ⟨otherStored, otherDue⟩ := restDue other mem
      refine ⟨moves.mem_of_other otherStored ?_, otherDue⟩
      intro same
      exact fresh (List.mem_map.2 ⟨other, mem, same⟩)

theorem runOnce_ok {batchSize : Ranged 1 500}
    (ran : runOnce rowOrder batchSize now s = .ok (new, t)) :
    Relation.ReflTransGen (Projects now) s t := by
  unfold runOnce claimDueSessions at ran
  simp only [bind_assoc, pure_bind, ↓get_bind_ok] at ran
  refine projectEach_ok ran ?_ ?_
  · intro session mem
    have claimed := List.mem_filter.1 (mem_orderedBy.1 (List.mem_of_mem_take mem))
    obtain ⟨held, due⟩ := claimed
    simp only [decide_eq_true_eq] at due
    exact ⟨held, due.1⟩
  · have keys : (s.sessions.rows.map WaitingSession.sessionId).Nodup :=
      s.sessions.keys_nodup
    have filtered := keys.sublist ((List.filter_sublist (p := fun row : WaitingSession =>
      decide (row.freeWaitDeadline ≤ now ∧
        (row.state = .freeWaitActive ∨ row.state = .freeWaitEnding)))).map WaitingSession.sessionId)
    have ordered := ((List.perm_insertionSort (fun first second : WaitingSession =>
      toLex (first.freeWaitDeadline, rowOrder first.sessionId) ≤
        toLex (second.freeWaitDeadline, rowOrder second.sessionId)) _).map
          WaitingSession.sessionId).nodup_iff.2 filtered
    exact ordered.sublist ((List.take_sublist _ _).map WaitingSession.sessionId)

theorem command_effect {call : WaitingCall} {response : Response}
    (ran : executed config call s = .ok (response, t)) :
    WaitingEffect config s t (.command call) := by
  unfold executed at ran
  cases command : call.command with
  | submitArrival =>
    rw [command] at ran
    exact .quiet (quiet_of_submitArrival ran)
  | evaluateRiderReadiness =>
    rw [command] at ran
    exact .quiet (quiet_of_evaluateRiderReadiness ran)
  | start =>
    rw [command] at ran
    exact start_ok command ran
  | continuity =>
    rw [command] at ran
    exact continuity_ok command ran
  | riderPresent =>
    rw [command] at ran
    exact .quiet (quiet_of_riderPresent ran)
  | evaluateNoShow =>
    rw [command] at ran
    exact .quiet (quiet_of_evaluateNoShow ran)

theorem step_effect (config : WaitingConfig) (before : WaitingStore) (input : WaitingInput) :
    WaitingEffect config before (waitingStep config before input) input := by
  cases input with
  | command call =>
    exact commit_related (R := fun s t => WaitingEffect config s t (.command call)) _ _
      (.quiet rfl) fun _ _ ran => command_effect ran
  | recovery rowOrder batchSize now =>
    exact commit_related
      (R := fun s t => WaitingEffect config s t (.recovery rowOrder batchSize now)) _ _
      (.quiet rfl) fun _ _ ran => .projected (runOnce_ok ran)

end Ayo.ArrivalWaiting.Effects
