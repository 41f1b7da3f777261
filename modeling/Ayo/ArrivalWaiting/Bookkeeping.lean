/- digest: What a waiting session says of its deadline, pause, versions and observations. -/

import Ayo.ArrivalWaiting.Application

namespace Ayo.ArrivalWaiting.Bookkeeping

open Kernel.UnitOfWork Kernel.Validation
open Core.Values hiding isCode Code
open Models Engine Application

structure Booked (snapshot : WaitingPolicySnapshot) (session : WaitingSession) : Prop where
  deadline : session.freeWaitDeadline =
    session.startedAt + timedelta (snapshot.freeWaitSeconds + session.totalPausedSeconds)
  paused : session.pausedAt.isSome = true ↔ session.state = .waitPaused
  reasoned : session.reasonCodes ≠ []

/-- The pauses that were resumed lie between the start and the pause that goes on, or the last
update. -/
structure Timed (session : WaitingSession) : Prop where
  running : timedelta session.totalPausedSeconds ≤ session.updatedAt - session.startedAt
  paused : ∀ start ∈ session.pausedAt, start ≤ session.updatedAt ∧
    timedelta session.totalPausedSeconds ≤ start - session.startedAt

variable {snapshot selected : WaitingPolicySnapshot} {prior next session : WaitingSession}
  {signals : ContinuitySignals} {observationSequence : Nat} {now : Instant}
  {arrival : ArrivalEvaluation} {assignmentId sessionId rideId : Uuid} {started : Int}

theorem Booked.unpaused (booked : Booked selected session) (running : session.state ≠ .waitPaused) :
    session.pausedAt = none := by
  cases pausedAt : session.pausedAt with
  | none => rfl
  | some start =>
    have isPaused := booked.paused.1 (by rw [pausedAt]; rfl)
    exact absurd isPaused running

theorem Booked.of_started
    (begun : startWaiting sessionId rideId assignmentId arrival snapshot now = .ok session) :
    Booked snapshot session := by
  obtain ⟨_, _, rfl⟩ := startWaiting_eq_ok.1 begun
  refine ⟨?_, ?_, ?_⟩
  · show now + timedelta snapshot.freeWaitSeconds =
      now + timedelta (snapshot.freeWaitSeconds + ((0 : Nat) : Int))
    simp
  · simp
  · simp

theorem Booked.of_continuity (booked : Booked selected prior)
    (evaluated : evaluateWaitingContinuity prior snapshot signals observationSequence now =
      .ok next) : Booked selected next := by
  obtain ⟨_, resumed, _, rfl⟩ := evaluateWaitingContinuity_eq_ok.1 evaluated
  refine ⟨?_, ?_, ?_⟩
  · show prior.freeWaitDeadline + timedelta resumed = prior.startedAt +
      timedelta (selected.freeWaitSeconds + ((prior.totalPausedSeconds + resumed : Nat) : Int))
    rw [booked.deadline, Int.natCast_add, ← Int.add_assoc, timedelta_add _ (resumed : Int),
      Int.add_assoc]
  · dsimp only
    split
    · rename_i pausing
      exact ⟨fun _ => pausing, fun _ => rfl⟩
    · rename_i running
      constructor
      · intro absent
        cases absent
      · intro pausing
        exact absurd pausing running
  · dsimp only
    by_cases clear : continuityReasons snapshot signals = []
    · simp only [observedState, clear, ne_eq, not_true_eq_false, if_false]
      split
      · simp
      · split <;> simp
    · rw [observedState_of_reasons clear]
      exact clear

def invalidates (snapshot : WaitingPolicySnapshot) (signals : ContinuitySignals) : Bool :=
  !(continuityReasons snapshot signals).isEmpty && !pauses snapshot signals

theorem paused_of_continuity
    (evaluated : evaluateWaitingContinuity prior snapshot signals observationSequence now =
      .ok next) (pausing : next.state = .waitPaused) :
    next.totalPausedSeconds = prior.totalPausedSeconds ∧
      next.pausedAt = some (prior.pausedAt.getD now) := by
  obtain ⟨_, resumed, resumes, rfl⟩ := evaluateWaitingContinuity_eq_ok.1 evaluated
  dsimp only at pausing ⊢
  have disturbed : continuityReasons snapshot signals ≠ [] := by
    intro clear
    rcases observedState_of_clear clear (prior.freeWaitDeadline + timedelta resumed) now with
      active | ending
    · cases active.symm.trans pausing
    · cases ending.symm.trans pausing
  rcases resumedPauseSeconds_eq_ok.1 resumes with ⟨clear, _⟩ | ⟨_, rfl⟩
  · exact absurd clear disturbed
  · exact ⟨rfl, if_pos pausing⟩

theorem unpaused_of_continuity
    (evaluated : evaluateWaitingContinuity prior snapshot signals observationSequence now =
      .ok next) (running : next.state ≠ .waitPaused) :
    next.pausedAt = none ∧
      ((∃ start, prior.pausedAt = some start ∧
          next.totalPausedSeconds = prior.totalPausedSeconds + wholeSeconds start now) ∨
        (next.totalPausedSeconds = prior.totalPausedSeconds ∧
          (prior.state ≠ .waitPaused ∨ invalidates snapshot signals = true))) := by
  obtain ⟨_, resumed, resumes, rfl⟩ := evaluateWaitingContinuity_eq_ok.1 evaluated
  dsimp only at running ⊢
  refine ⟨if_neg running, ?_⟩
  rcases resumedPauseSeconds_eq_ok.1 resumes with ⟨_, _, start, since, rfl⟩ | ⟨others, rfl⟩
  · exact .inl ⟨start, since, rfl⟩
  · refine .inr ⟨rfl, ?_⟩
    by_cases clear : continuityReasons snapshot signals = []
    · exact .inl fun paused => others ⟨clear, paused⟩
    · right
      have notPauses : pauses snapshot signals ≠ true := by
        intro doesPause
        refine running ?_
        show (observedState snapshot signals _ now).1 = .waitPaused
        rw [observedState_of_reasons clear]
        exact if_pos doesPause
      simp [invalidates, clear, notPauses]

theorem le_sub_of_later {seconds updated later : Int} (bound : seconds ≤ updated - started)
    (ordered : updated ≤ later) : seconds ≤ later - started := by
  omega

theorem add_le_sub_of_parts {paused resumed start later : Int} (earlier : paused ≤ start - started)
    (last : resumed ≤ later - start) : paused + resumed ≤ later - started := by
  omega

theorem Timed.of_started
    (begun : startWaiting sessionId rideId assignmentId arrival snapshot now = .ok session) :
    Timed session := by
  obtain ⟨_, _, rfl⟩ := startWaiting_eq_ok.1 begun
  refine ⟨?_, ?_⟩
  · show timedelta ((0 : Nat) : Int) ≤ now - now
    simp [timedelta]
  · intro start since
    cases since

theorem Timed.of_continuity (timed : Timed prior) (ordered : prior.updatedAt ≤ now)
    (evaluated : evaluateWaitingContinuity prior snapshot signals observationSequence now =
      .ok next) : Timed next := by
  obtain ⟨_, _, _, sameStart, _, updated⟩ := sameSession_of_continuity evaluated
  have priorBound := le_sub_of_later timed.running ordered
  by_cases pausing : next.state = .waitPaused
  · obtain ⟨sameTotal, began⟩ := paused_of_continuity evaluated pausing
    constructor
    · rw [sameTotal, sameStart, updated]
      exact priorBound
    · intro start since
      rw [sameTotal, sameStart, updated]
      rw [began] at since
      cases paused : prior.pausedAt with
      | none =>
        rw [paused] at since
        obtain rfl : now = start := Option.some.inj since
        exact ⟨le_refl now, priorBound⟩
      | some first =>
        rw [paused] at since
        obtain rfl : first = start := Option.some.inj since
        obtain ⟨earlier, bound⟩ := timed.paused first paused
        exact ⟨earlier.trans ordered, bound⟩
  · obtain ⟨ended, cause⟩ := unpaused_of_continuity evaluated pausing
    constructor
    · rw [sameStart, updated]
      rcases cause with ⟨start, paused, total⟩ | ⟨total, _⟩
      · obtain ⟨earlier, bound⟩ := timed.paused start paused
        have resumed := timedelta_wholeSeconds_le (earlier.trans ordered)
        rw [total, Int.natCast_add, timedelta_add]
        exact add_le_sub_of_parts bound resumed
      · rw [total]
        exact priorBound
    · intro start since
      rw [ended] at since
      cases since

/-- The arguments of one continuity evaluation. -/
structure Observation where
  signals : ContinuitySignals
  observationSequence : Nat
  now : Instant

/-- The versions of a session that a list of observations leads through. -/
def versions (snapshot : WaitingPolicySnapshot) :
    WaitingSession → List Observation → List WaitingSession
  | session, [] => [session]
  | session, observation :: rest =>
    match evaluateWaitingContinuity session snapshot observation.signals
      observation.observationSequence observation.now with
    | .ok next => session :: versions snapshot next rest
    | .error _ => versions snapshot session rest

theorem versions_booked {observations : List Observation} (booked : Booked snapshot session)
    (timed : Timed session)
    (ordered : (session.updatedAt :: observations.map Observation.now).Pairwise (· ≤ ·))
    {k : Nat} {reached : WaitingSession}
    (present : (versions snapshot session observations)[k]? = some reached) :
    Booked snapshot reached ∧ Timed reached ∧ reached.version = session.version + k := by
  induction observations generalizing session k with
  | nil =>
    cases k with
    | zero =>
      obtain rfl : session = reached := Option.some.inj present
      exact ⟨booked, timed, rfl⟩
    | succ => cases present
  | cons observation rest ih =>
    obtain ⟨later, restOrdered⟩ := List.pairwise_cons.1 ordered
    have observedAt : session.updatedAt ≤ observation.now := later _ (by simp)
    unfold versions at present
    split at present
    · rename_i next evaluated
      obtain ⟨_, _, _, _, counted, updated⟩ := sameSession_of_continuity evaluated
      cases k with
      | zero =>
        obtain rfl : session = reached := Option.some.inj present
        exact ⟨booked, timed, rfl⟩
      | succ =>
        have nextOrdered : (next.updatedAt :: rest.map Observation.now).Pairwise (· ≤ ·) := by
          rw [updated]
          exact restOrdered
        obtain ⟨reachedBooked, reachedTimed, version⟩ := ih (booked.of_continuity evaluated)
          (timed.of_continuity observedAt evaluated) nextOrdered present
        refine ⟨reachedBooked, reachedTimed, ?_⟩
        rw [version, counted]
        omega
    · refine ih booked timed (List.pairwise_cons.2 ⟨?_, (List.pairwise_cons.1 restOrdered).2⟩)
        present
      intro time mem
      exact later time (List.mem_cons_of_mem _ mem)

theorem versions_increase (snapshot : WaitingPolicySnapshot) (session : WaitingSession)
    (observations : List Observation) :
    (versions snapshot session observations).Pairwise (fun earlier later =>
        earlier.lastObservationSequence < later.lastObservationSequence) ∧
      ∀ reached ∈ versions snapshot session observations,
        session.lastObservationSequence ≤ reached.lastObservationSequence := by
  induction observations generalizing session with
  | nil =>
    refine ⟨List.pairwise_singleton _ _, ?_⟩
    intro reached mem
    rw [List.mem_singleton.1 mem]
  | cons observation rest ih =>
    unfold versions
    split
    · rename_i next evaluated
      obtain ⟨advances, _, _, fields⟩ := evaluateWaitingContinuity_eq_ok.1 evaluated
      have observed : next.lastObservationSequence = observation.observationSequence := by
        rw [← fields]
      obtain ⟨increase, least⟩ := ih next
      constructor
      · refine List.pairwise_cons.2 ⟨?_, increase⟩
        intro reached mem
        have bound := least reached mem
        omega
      · intro reached mem
        rcases List.mem_cons.1 mem with rfl | later
        · exact Nat.le_refl _
        · have bound := least reached later
          omega
    · exact ih session

/-- In every state that a wait reaches by observations whose times do not decrease, the deadline,
the pause, the version, the observations and the time paused are kept as they should be. -/
theorem wait_bookkeeping (sessionId rideId assignmentId : Uuid) (arrival : ArrivalEvaluation)
    (snapshot : WaitingPolicySnapshot) (startedAt : Instant) (session : WaitingSession)
    (begun : startWaiting sessionId rideId assignmentId arrival snapshot startedAt = .ok session)
    (observations : List Observation)
    (ordered : (startedAt :: observations.map Observation.now).Pairwise (· ≤ ·)) :
    (∀ k reached, (versions snapshot session observations)[k]? = some reached →
      reached.freeWaitDeadline = reached.startedAt +
          timedelta (snapshot.freeWaitSeconds + reached.totalPausedSeconds) ∧
        (reached.pausedAt.isSome = true ↔ reached.state = .waitPaused) ∧
        reached.version = k + 1 ∧
        timedelta reached.totalPausedSeconds ≤ reached.updatedAt - reached.startedAt) ∧
      (versions snapshot session observations).Pairwise fun earlier later =>
        earlier.lastObservationSequence < later.lastObservationSequence := by
  obtain ⟨_, _, fields⟩ := startWaiting_eq_ok.1 begun
  have first : session.version = 1 := by rw [← fields]
  have updated : session.updatedAt = startedAt := by rw [← fields]
  refine ⟨?_, (versions_increase snapshot session observations).1⟩
  intro k reached present
  rw [← updated] at ordered
  obtain ⟨booked, timed, version⟩ := versions_booked (Booked.of_started begun)
    (Timed.of_started begun) ordered present
  refine ⟨booked.deadline, booked.paused, ?_, timed.running⟩
  rw [version, first, Nat.add_comm]

def marketWait : Except Failure (WaitingPolicySnapshot × WaitingSession) := do
  let snapshot ← resolveWaitingPolicy 850 820 marketContext waitingConfig.waitingPolicies
    (timedelta 10)
  let arrival := evaluateArrival 840 820 823 arrivalSignals waitingConfig.arrivalPolicy 0
  let session ← startWaiting 850 820 823 arrival snapshot (timedelta 10)
  pure (snapshot, session)

def pausingObservations : List Observation :=
  [⟨weakSignals, 20, timedelta 20⟩, ⟨clearSignals, 50, timedelta 50⟩]

theorem wait_bookkeeping_resumed :
    ∃ snapshot session, marketWait = .ok (snapshot, session) ∧
      (∀ k reached, (versions snapshot session pausingObservations)[k]? = some reached →
        reached.freeWaitDeadline = reached.startedAt +
            timedelta (snapshot.freeWaitSeconds + reached.totalPausedSeconds) ∧
          (reached.pausedAt.isSome = true ↔ reached.state = .waitPaused) ∧
          reached.version = k + 1 ∧
          timedelta reached.totalPausedSeconds ≤ reached.updatedAt - reached.startedAt) ∧
        (versions snapshot session pausingObservations).Pairwise fun earlier later =>
          earlier.lastObservationSequence < later.lastObservationSequence := by
  have begins : marketWait.isOk = true := by decide +kernel
  obtain ⟨⟨snapshot, session⟩, success⟩ := exists_of_isOk begins
  refine ⟨snapshot, session, success, ?_⟩
  unfold marketWait at success
  simp only [bind_eq_ok, pure_eq_ok, Prod.mk.injEq] at success
  obtain ⟨_, _, _, begun, rfl, rfl⟩ := success
  exact wait_bookkeeping 850 820 823 _ _ (timedelta 10) _ begun pausingObservations (by decide)

end Ayo.ArrivalWaiting.Bookkeeping
