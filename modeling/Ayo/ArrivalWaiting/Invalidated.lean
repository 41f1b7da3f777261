/- digest: A wait stays invalidated while observations invalidate it again. -/

import Ayo.ArrivalWaiting.Consistency

namespace Ayo.ArrivalWaiting.Invalidated

open Kernel.KeyedTable Kernel.Run
open Core.Values hiding isCode Code
open Models Engine Repository Application Effects Bookkeeping Consistency

/-- An observation of an invalidated session, made on its version and under a later sequence,
invalidates it again. -/
def Reinvalidates (store : WaitingStore) (input : WaitingInput) : Prop :=
  ∀ asked ∈ asksContinuity input, ∀ session ∈ sessionOf store asked.1.rowOrder asked.1.rideId,
      ∀ snapshot ∈ store.snapshots.find session.policySnapshotId,
        session.state = .waitInvalidated → session.version = asked.2.expectedSessionVersion →
          session.lastObservationSequence < asked.2.observationSequence →
            invalidates snapshot asked.2.signals = true
deriving Decidable

def InvalidatedIn (sessionId : Uuid) (store : WaitingStore) : Prop :=
  ∃ session ∈ store.sessions.rows, session.sessionId = sessionId ∧ session.state = .waitInvalidated

variable {config : WaitingConfig} {before after : WaitingStore} {prior next : WaitingSession}
  {snapshot : WaitingPolicySnapshot} {signals : ContinuitySignals} {observationSequence : Nat}
  {now : Instant} {sessionId : Uuid}

theorem invalidated_of_continuity
    (evaluated : evaluateWaitingContinuity prior snapshot signals observationSequence now =
      .ok next) (harmful : invalidates snapshot signals = true) :
    next.state = .waitInvalidated := by
  obtain ⟨_, resumed, _, rfl⟩ := evaluateWaitingContinuity_eq_ok.1 evaluated
  simp only [invalidates, Bool.and_eq_true, Bool.not_eq_true', List.isEmpty_eq_false_iff] at harmful
  obtain ⟨reasons, notPauses⟩ := harmful
  show (observedState snapshot signals _ now).1 = .waitInvalidated
  rw [observedState_of_reasons reasons, notPauses]
  rfl

theorem invalidatedIn_of_moves (invalidated : InvalidatedIn sessionId before)
    (moves : Moves before after prior next)
    (again : prior.state = .waitInvalidated → next.state = .waitInvalidated) :
    InvalidatedIn sessionId after := by
  obtain ⟨session, stored, identified, state⟩ := invalidated
  by_cases same : session.sessionId = prior.sessionId
  · obtain rfl : session = prior := before.sessions.eq_of_key stored moves.stored same
    refine ⟨next, ?_, moves.sameId.trans identified, again state⟩
    rw [moves.sessions]
    exact Table.mem_replaced.2 (.inl ⟨rfl, session, stored, moves.sameId.symm⟩)
  · exact ⟨session, moves.mem_of_other stored same, identified, state⟩

theorem invalidatedIn_of_projects (invalidated : InvalidatedIn sessionId before)
    (projects : Relation.ReflTransGen (Projects now) before after) :
    InvalidatedIn sessionId after := by
  induction projects with
  | refl => exact invalidated
  | tail _ last ih =>
    obtain ⟨session, active, _, moves⟩ := last
    refine invalidatedIn_of_moves ih moves ?_
    intro state
    cases active.symm.trans state

theorem step_preserves_invalidated (store : WaitingStore) (input : WaitingInput)
    (guarded : Reinvalidates store input) (invalidated : InvalidatedIn sessionId store) :
    InvalidatedIn sessionId (waitingStep config store input) := by
  cases step_effect config store input with
  | quiet quiet =>
    obtain ⟨_, rest⟩ := Prod.mk.inj quiet
    rw [InvalidatedIn, (Prod.mk.inj rest).1]
    exact invalidated
  | started request command assignmentId arrival snapshot started absent arrived resolved begun
      starts =>
    obtain ⟨session, held, identified, state⟩ := invalidated
    refine ⟨session, ?_, identified, state⟩
    rw [starts.sessions]
    exact List.mem_append_left _ held
  | @continued call request command prior next snapshot old expected selected evaluated moves =>
    refine invalidatedIn_of_moves invalidated moves ?_
    intro state
    have asked : (call, request) ∈ asksContinuity (.command call) := by
      rw [asksContinuity, command]
      rfl
    obtain ⟨advances, _⟩ := evaluateWaitingContinuity_eq_ok.1 evaluated
    exact invalidated_of_continuity evaluated
      (guarded (call, request) asked prior old snapshot selected state expected advances)
  | projected projects => exact invalidatedIn_of_projects invalidated projects

theorem not_ready_of_invalidated (booked : Booked snapshot prior)
    (invalidated : prior.state = .waitInvalidated) (evidenceId : Uuid)
    (selected : WaitingPolicySnapshot) (signals : ContinuitySignals) (now : Instant) :
    (evaluateEvidence evidenceId prior selected signals now).ready = false := by
  refine Bool.eq_false_iff.2 ?_
  intro ready
  have unreasoned := (expired_of_ready (evaluateEvidence_ready.1 ready)).1 invalidated
  exact booked.reasoned unreasoned

/-- Along a run whose observations of invalidated sessions invalidate them again, a session that
is invalidated at one point is stored and invalidated at every later one, and evidence about it is
never ready. -/
theorem invalidated_stays_along (config : WaitingConfig) (inputs : List WaitingInput)
    (along : Along (waitingStep config) Reinvalidates {} inputs) (n m : Nat) (le : n ≤ m)
    (session : WaitingSession)
    (stored : session ∈ (run (waitingStep config) {} (inputs.take n)).sessions.rows)
    (invalidated : session.state = .waitInvalidated) :
    ∃ later, (run (waitingStep config) {} (inputs.take m)).sessions.find session.sessionId =
        some later ∧ later.state = .waitInvalidated ∧
      ∀ evidenceId snapshot signals now,
        (evaluateEvidence evidenceId later snapshot signals now).ready = false := by
  have earlier : InvalidatedIn session.sessionId (run (waitingStep config) {} (inputs.take n)) :=
    ⟨session, stored, rfl, invalidated⟩
  obtain ⟨later, present, identified, state⟩ :=
    run_invariant_between step_preserves_invalidated along le earlier
  obtain ⟨_, _, booked⟩ := (consistent_of_run config (inputs.take m)).booked later present
  refine ⟨later, ?_, state, not_ready_of_invalidated booked state⟩
  rw [← identified]
  exact Table.find_of_mem present

def abandonedWait (returning : ContinuitySignals) : List WaitingInput :=
  startedWait ++ [observed 20 1 awaySignals, observed 30 2 returning]

theorem invalidated_stays_away :
    ∃ session later,
      (run (waitingStep waitingConfig) {} ((abandonedWait awaySignals).take 3)).sessions.find 850 =
          some session ∧ session.state = .waitInvalidated ∧
        (run (waitingStep waitingConfig) {} ((abandonedWait awaySignals).take 4)).sessions.find
          session.sessionId = some later ∧ later.state = .waitInvalidated := by
  have found : ((run (waitingStep waitingConfig) {}
      ((abandonedWait awaySignals).take 3)).sessions.find 850).map WaitingSession.state =
        some .waitInvalidated := by decide +kernel
  obtain ⟨session, lookup, invalidated⟩ := Option.map_eq_some_iff.1 found
  obtain ⟨later, still, state, _⟩ := invalidated_stays_along waitingConfig
    (abandonedWait awaySignals) (by decide +kernel) 3 4 (by decide) session
    (Table.mem_of_find lookup) invalidated
  exact ⟨session, later, lookup, invalidated, still, state⟩

/-- One clear observation makes the invalidated wait active again. -/
theorem invalidated_wait_returns :
    ∃ session later,
      (run (waitingStep waitingConfig) {} ((abandonedWait clearSignals).take 3)).sessions.find 850 =
          some session ∧ session.state = .waitInvalidated ∧
        (run (waitingStep waitingConfig) {} ((abandonedWait clearSignals).take 4)).sessions.find 850 =
          some later ∧ later.state = .freeWaitActive := by
  have first : ((run (waitingStep waitingConfig) {}
      ((abandonedWait clearSignals).take 3)).sessions.find 850).map WaitingSession.state =
        some .waitInvalidated := by decide +kernel
  have second : ((run (waitingStep waitingConfig) {}
      ((abandonedWait clearSignals).take 4)).sessions.find 850).map WaitingSession.state =
        some .freeWaitActive := by decide +kernel
  obtain ⟨session, lookup, invalidated⟩ := Option.map_eq_some_iff.1 first
  obtain ⟨later, still, active⟩ := Option.map_eq_some_iff.1 second
  exact ⟨session, later, lookup, invalidated, still, active⟩

end Ayo.ArrivalWaiting.Invalidated
