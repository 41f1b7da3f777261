/- digest: The evidence of a no-show comes after the full free wait. -/

import Ayo.ArrivalWaiting.Consistency
import Ayo.Kernel.TokenBucket

namespace Ayo.ArrivalWaiting.FullWait

open Kernel.KeyedTable Kernel.Run Kernel.Elapsed
open Core.Values hiding isCode Code
open Models Engine Repository Application Effects Bookkeeping Consistency

def observation (event : SessionEvent) : Bool × Int := (event.state = .waitPaused, event.occurredAt)

def eventsOf (store : WaitingStore) (sessionId : Uuid) : List SessionEvent :=
  store.sessionEvents.rows.filter fun event => event.sessionId = sessionId

def pauseWatch (store : WaitingStore) (sessionId : Uuid) : Stopwatch :=
  .after (timedelta 1) ((eventsOf store sessionId).map observation)

def pausedSeconds (store : WaitingStore) (session : WaitingSession) (now : Instant) : Int :=
  (pauseWatch store session.sessionId).reading (timedelta 1) now

/-- A session that is neither paused nor invalidated, and has waited in full without its pauses. -/
def FullyWaited (store : WaitingStore) (session : WaitingSession)
    (snapshot : WaitingPolicySnapshot) (now : Instant) : Prop :=
  session.state ≠ .waitPaused ∧ session.state ≠ .waitInvalidated ∧
    timedelta snapshot.freeWaitSeconds ≤
      now - session.startedAt - timedelta (pausedSeconds store session now)

def asksNoShow : WaitingInput → Option (WaitingCall × EvidenceCommand)
  | .command call =>
    match call.command with
    | .evaluateNoShow request => some (call, request)
    | _ => none
  | .recovery _ _ _ => none

/-- An observation on the ride does not invalidate a session after a second of its pause. -/
def EndsPausesWell (rideId : Uuid) (store : WaitingStore) (input : WaitingInput) : Prop :=
  ∀ asked ∈ asksContinuity input, asked.1.rideId = rideId →
    ∀ session ∈ sessionOf store asked.1.rowOrder rideId,
      ∀ snapshot ∈ store.snapshots.find session.policySnapshotId,
        invalidates snapshot asked.2.signals = true →
          ∀ start ∈ session.pausedAt, asked.1.now < start + timedelta 1
deriving Decidable

def EvaluatesUnpaused (rideId : Uuid) (store : WaitingStore) (input : WaitingInput) : Prop :=
  ∀ asked ∈ asksNoShow input, asked.1.rideId = rideId →
    ∀ session ∈ sessionOf store asked.1.rowOrder rideId, session.state ≠ .waitPaused
deriving Decidable

def RespectsPauses (rideId : Uuid) (store : WaitingStore) (input : WaitingInput) : Prop :=
  EndsPausesWell rideId store input ∧ EvaluatesUnpaused rideId store input
deriving Decidable

def WaitingCommand.waits : WaitingCommand → Bool
  | .start _ => true
  | .continuity _ => true
  | .evaluateNoShow _ => true
  | _ => false

def serverTime (rideId : Uuid) : WaitingInput → Option Instant
  | .command call =>
    if call.rideId = rideId ∧ WaitingCommand.waits call.command = true then some call.now else none
  | .recovery _ _ _ => none

/-- The commands on a ride come in the order of their times. -/
def TimesOrdered (rideId : Uuid) (inputs : List WaitingInput) : Prop :=
  (inputs.filterMap (serverTime rideId)).Pairwise fun earlier later => earlier ≤ later

instance (rideId : Uuid) (inputs : List WaitingInput) : Decidable (TimesOrdered rideId inputs) :=
  inferInstanceAs (Decidable (List.Pairwise _ _))

def Watched (store : WaitingStore) (session : WaitingSession) : Prop :=
  pauseWatch store session.sessionId = ⟨session.totalPausedSeconds, session.pausedAt⟩

variable {config : WaitingConfig} {s t : WaitingStore} {prior next session : WaitingSession}
  {snapshot selected : WaitingPolicySnapshot} {signals : ContinuitySignals}
  {observationSequence : Nat} {now : Instant} {rideId : Uuid} {input : WaitingInput}
  {rest : List WaitingInput}

theorem pauseWatch_of_other {event : SessionEvent} {sessionId : Uuid}
    (events : t.sessionEvents.rows = s.sessionEvents.rows ++ [event])
    (other : event.sessionId ≠ sessionId) : pauseWatch t sessionId = pauseWatch s sessionId := by
  simp [pauseWatch, eventsOf, events, other]

theorem pauseWatch_of_own {event : SessionEvent}
    (events : t.sessionEvents.rows = s.sessionEvents.rows ++ [event]) :
    pauseWatch t event.sessionId =
      (pauseWatch s event.sessionId).observe (timedelta 1) (observation event) := by
  have own : eventsOf t event.sessionId = eventsOf s event.sessionId ++ [event] := by
    simp [eventsOf, events]
  rw [pauseWatch, own, List.map_append, List.map_singleton, Stopwatch.after_append]
  rfl

theorem watched_of_starts (consistent : Consistent s) (starts : Starts s t next snapshot)
    (active : next.state = .freeWaitActive) (fresh : next.totalPausedSeconds = 0)
    (unpaused : next.pausedAt = none) : Watched t next := by
  have free : s.sessions.find next.sessionId = none :=
    Table.find_eq_none_of_rows_append starts.sessions
  have noEvents : eventsOf s next.sessionId = [] := by
    refine List.filter_eq_nil_iff.2 ?_
    intro event mem same
    obtain ⟨owner, held, owns⟩ := consistent.owned event mem
    have sameId : event.sessionId = next.sessionId := by simpa using same
    exact Table.find_eq_none.1 free owner held (owns.trans sameId)
  have observed := pauseWatch_of_own starts.events
  have idle : pauseWatch s next.sessionId = .idle := by
    rw [pauseWatch, noEvents]
    rfl
  rw [Watched, fresh, unpaused]
  refine observed.trans ?_
  show (pauseWatch s next.sessionId).observe (timedelta 1)
    (decide (next.state = .waitPaused), next.updatedAt) = _
  rw [idle, active]
  rfl

theorem pauseWatch_of_moves (watched : Watched s prior) (moves : Moves s t prior next) :
    pauseWatch t next.sessionId =
      (⟨prior.totalPausedSeconds, prior.pausedAt⟩ : Stopwatch).observe (timedelta 1)
        (decide (next.state = .waitPaused), next.updatedAt) := by
  have observed := pauseWatch_of_own moves.events
  refine observed.trans ?_
  show (pauseWatch s next.sessionId).observe (timedelta 1)
    (decide (next.state = .waitPaused), next.updatedAt) = _
  rw [moves.sameId, watched]

theorem watched_of_continuity (booked : Booked selected prior) (watched : Watched s prior)
    (moves : Moves s t prior next)
    (evaluated : evaluateWaitingContinuity prior snapshot signals observationSequence now =
      .ok next)
    (ordered : ∀ start ∈ prior.pausedAt, start ≤ now)
    (endsWell : invalidates snapshot signals = true →
      ∀ start ∈ prior.pausedAt, now < start + timedelta 1) : Watched t next := by
  have observed := pauseWatch_of_moves watched moves
  have updated : next.updatedAt = now := (sameSession_of_continuity evaluated).2.2.2.2.2
  rw [updated] at observed
  rw [Watched, observed]
  by_cases pausing : next.state = .waitPaused
  · obtain ⟨counted, since⟩ := paused_of_continuity evaluated pausing
    rw [decide_eq_true pausing, Stopwatch.observe_running, counted, since]
  · obtain ⟨since, ended⟩ := unpaused_of_continuity evaluated pausing
    rw [decide_eq_false pausing, Stopwatch.observe_stopped, since]
    rcases ended with ⟨start, running, counted⟩ | ⟨counted, cause⟩
    · have later : start ≤ now := ordered start running
      rw [running, counted, Stopwatch.reading_running, Int.natCast_add, wholeSeconds_of_le later]
      rfl
    · rw [counted]
      cases paused : prior.pausedAt with
      | none => rw [Stopwatch.reading_stopped]
      | some start =>
        have isPaused := booked.paused.1 (by rw [paused]; rfl)
        have invalidated := cause.resolve_left (fun others => others isPaused)
        -- the pause that is lost has not lasted a whole second
        have later : start ≤ now := ordered start paused
        have short : now < start + timedelta 1 := endsWell invalidated start paused
        have nothing : (now - start) / timedelta 1 = 0 :=
          Int.ediv_eq_zero_of_lt (Int.sub_nonneg_of_le later) (Int.sub_left_lt_of_lt_add short)
        rw [Stopwatch.reading_running, nothing, Int.add_zero]

theorem watched_of_projected (booked : Booked selected prior) (watched : Watched s prior)
    (active : prior.state = .freeWaitActive) (moves : Moves s t prior (projected prior now)) :
    Watched t (projected prior now) := by
  have observed := pauseWatch_of_moves watched moves
  have unpaused : prior.pausedAt = none := booked.unpaused (by rw [active]; decide)
  rw [Watched, observed]
  show (⟨prior.totalPausedSeconds, prior.pausedAt⟩ : Stopwatch).observe (timedelta 1) (false, now) =
    ⟨prior.totalPausedSeconds, prior.pausedAt⟩
  rw [Stopwatch.observe_stopped, unpaused, Stopwatch.reading_stopped]

theorem watched_of_other (watched : Watched s session) (moves : Moves s t prior next)
    (other : session.sessionId ≠ prior.sessionId) : Watched t session := by
  have apart : (eventOf next next.state.value).sessionId ≠ session.sessionId := by
    intro same
    have sameNext : next.sessionId = session.sessionId := same
    exact other (sameNext.symm.trans moves.sameId)
  exact (pauseWatch_of_other moves.events apart).trans watched

def PausedBefore (rideId : Uuid) (session : WaitingSession) (ahead : List WaitingInput) : Prop :=
  ∀ start ∈ session.pausedAt, ∀ time ∈ ahead.filterMap (serverTime rideId), start ≤ time

structure Waiting (config : WaitingConfig) (rideId : Uuid) (store : WaitingStore)
    (ahead : List WaitingInput) : Prop where
  consistent : Consistent store
  ordered : TimesOrdered rideId ahead
  along : Along (waitingStep config) (RespectsPauses rideId) store ahead
  watched : ∀ session ∈ store.sessions.rows, session.rideId = rideId →
    Watched store session ∧ PausedBefore rideId session ahead

theorem PausedBefore.tail (pausedBefore : PausedBefore rideId session (input :: rest)) :
    PausedBefore rideId session rest := by
  intro start since time mem
  refine pausedBefore start since time ?_
  rw [List.filterMap_cons]
  split
  · exact mem
  · exact List.mem_cons_of_mem _ mem

theorem TimesOrdered.tail (ordered : TimesOrdered rideId (input :: rest)) :
    TimesOrdered rideId rest := by
  unfold TimesOrdered at ordered
  rw [List.filterMap_cons] at ordered
  split at ordered
  · exact ordered
  · exact (List.pairwise_cons.1 ordered).2

theorem TimesOrdered.le {time : Instant} (ordered : TimesOrdered rideId (input :: rest))
    (first : serverTime rideId input = some time) :
    ∀ later ∈ rest.filterMap (serverTime rideId), time ≤ later := by
  unfold TimesOrdered at ordered
  rw [List.filterMap_cons, first] at ordered
  exact (List.pairwise_cons.1 ordered).1

theorem watched_of_quiet (quiet : Quiet s t) (watched : Watched s session) : Watched t session := by
  obtain ⟨_, kept⟩ := Prod.mk.inj quiet
  obtain ⟨_, events⟩ := Prod.mk.inj kept
  rw [Watched, pauseWatch, eventsOf, events]
  exact watched

theorem watched_of_projects (consistent : Consistent s)
    (projects : Relation.ReflTransGen (Projects now) s t)
    (watched : ∀ session ∈ s.sessions.rows, session.rideId = rideId →
      Watched s session ∧ PausedBefore rideId session rest) :
    ∀ session ∈ t.sessions.rows, session.rideId = rideId →
      Watched t session ∧ PausedBefore rideId session rest := by
  induction projects with
  | refl => exact watched
  | tail earlier last ih =>
    obtain ⟨prior, active, _, moves⟩ := last
    intro session mem onRide
    rw [moves.sessions] at mem
    rcases Table.mem_replaced.1 mem with ⟨rfl, _⟩ | ⟨old, other⟩
    · obtain ⟨priorWatched, priorBefore⟩ := ih prior moves.stored onRide
      obtain ⟨_, _, booked⟩ := (consistent_of_projects consistent earlier).booked prior moves.stored
      exact ⟨watched_of_projected booked priorWatched active moves, priorBefore⟩
    · obtain ⟨oldWatched, oldBefore⟩ := ih session old onRide
      exact ⟨watched_of_other oldWatched moves other, oldBefore⟩

theorem watched_of_effect (effect : WaitingEffect config s t input)
    (waiting : Waiting config rideId s (input :: rest)) :
    ∀ session ∈ t.sessions.rows, session.rideId = rideId →
      Watched t session ∧ PausedBefore rideId session rest := by
  obtain ⟨consistent, ordered, along, watched⟩ := waiting
  have restWatched : ∀ session ∈ s.sessions.rows, session.rideId = rideId →
      Watched s session ∧ PausedBefore rideId session rest := by
    intro session mem onRide
    obtain ⟨shows, pausedBefore⟩ := watched session mem onRide
    exact ⟨shows, pausedBefore.tail⟩
  cases effect with
  | quiet quiet =>
    intro session mem onRide
    obtain ⟨_, kept⟩ := Prod.mk.inj quiet
    rw [(Prod.mk.inj kept).1] at mem
    obtain ⟨shows, pausedBefore⟩ := restWatched session mem onRide
    exact ⟨watched_of_quiet quiet shows, pausedBefore⟩
  | started request command assignmentId arrival snapshot started absent arrived resolved begun
      starts =>
    obtain ⟨_, _, fields⟩ := startWaiting_eq_ok.1 begun
    intro session mem onRide
    rw [starts.sessions] at mem
    rcases List.mem_append.1 mem with old | new
    · obtain ⟨shows, pausedBefore⟩ := restWatched session old onRide
      refine ⟨(pauseWatch_of_other starts.events ?_).trans shows, pausedBefore⟩
      intro same
      have free := Table.find_eq_none_of_rows_append starts.sessions
      exact Table.find_eq_none.1 free session old same.symm
    · rw [List.mem_singleton.1 new]
      refine ⟨watched_of_starts consistent starts ?_ ?_ ?_, ?_⟩
      · rw [← fields]
      · rw [← fields]
      · rw [← fields]
      · intro start since
        rw [← fields] at since
        cases since
  | @continued call request command prior next snapshot current expected selected evaluated moves =>
    intro session mem onRide
    rw [moves.sessions] at mem
    rcases Table.mem_replaced.1 mem with ⟨rfl, _⟩ | ⟨old, other⟩
    · obtain ⟨_, sameRide, _, _, _, _⟩ := sameSession_of_continuity evaluated
      have priorRide : prior.rideId = rideId := sameRide.symm.trans onRide
      have callRide : call.rideId = rideId :=
        (mem_of_sessionOf current).2.symm.trans priorRide
      have time : serverTime rideId (.command call) = some call.now := by
        rw [serverTime, command, if_pos ⟨callRide, rfl⟩]
      obtain ⟨priorWatched, priorBefore⟩ := watched prior moves.stored priorRide
      have begunBefore : ∀ start ∈ prior.pausedAt, start ≤ call.now := by
        intro start since
        refine priorBefore start since call.now ?_
        rw [List.filterMap_cons, time]
        exact List.mem_cons_self
      have asked : (call, request) ∈ asksContinuity (.command call) := by
        rw [asksContinuity, command]
        rfl
      have endsWell := along.1.1 (call, request) asked callRide prior (callRide ▸ current) snapshot
        selected
      obtain ⟨_, _, booked⟩ := consistent.booked prior moves.stored
      refine ⟨watched_of_continuity booked priorWatched moves evaluated begunBefore endsWell, ?_⟩
      -- the pause of the next version began at the observation or before it
      intro start since later mem
      have observedAt := ordered.le time later mem
      by_cases pausing : session.state = .waitPaused
      · have began := (paused_of_continuity evaluated pausing).2
        cases paused : prior.pausedAt with
        | none =>
          rw [paused] at began
          have atObservation : start = call.now := Option.mem_unique since began
          rw [atObservation]
          exact observedAt
        | some first =>
          rw [paused] at began
          have atFirst : start = first := Option.mem_unique since began
          rw [atFirst]
          exact (begunBefore first paused).trans observedAt
      · have ended := (unpaused_of_continuity evaluated pausing).1
        rw [ended] at since
        cases since
    · obtain ⟨shows, pausedBefore⟩ := restWatched session old onRide
      exact ⟨watched_of_other shows moves (fun same => other (same.trans moves.sameId.symm)),
        pausedBefore⟩
  | projected projects => exact watched_of_projects consistent projects restWatched

theorem step_preserves_waiting (store : WaitingStore) (input : WaitingInput)
    (rest : List WaitingInput) (waiting : Waiting config rideId store (input :: rest)) :
    Waiting config rideId (waitingStep config store input) rest where
  consistent := step_preserves_consistent store input waiting.consistent
  ordered := waiting.ordered.tail
  along := waiting.along.2
  watched := watched_of_effect (step_effect config store input) waiting

theorem waiting_of_run {inputs : List WaitingInput} (ordered : TimesOrdered rideId inputs)
    (along : Along (waitingStep config) (RespectsPauses rideId) {} inputs) (n : Nat) :
    Waiting config rideId (run (waitingStep config) {} (inputs.take n)) (inputs.drop n) := by
  refine run_invariant_ahead step_preserves_waiting ?_ n
  refine ⟨consistent_empty, ordered, along, ?_⟩
  intro session mem
  cases mem

theorem fullyWaited_of_ready (booked : Booked snapshot session)
    (watched : Watched s session) (unpaused : session.state ≠ .waitPaused)
    (ready : evidenceSuppressions session snapshot signals now = []) :
    FullyWaited s session snapshot now := by
  obtain ⟨unreasoned, expired⟩ := expired_of_ready ready
  refine ⟨unpaused, fun invalidated => booked.reasoned (unreasoned invalidated), ?_⟩
  have stopped : pausedSeconds s session now = session.totalPausedSeconds := by
    rw [pausedSeconds, watched, booked.unpaused unpaused, Stopwatch.reading_stopped]
  rw [stopped]
  rw [booked.deadline, timedelta_add] at expired
  have waited := Int.le_sub_left_of_add_le expired
  exact Int.le_sub_right_of_add_le waited

/-- Along a run on a ride with ordered server times that respects its pauses, evidence that is
ready is about a session that has waited in full. -/
theorem full_wait_along (config : WaitingConfig) (rideId : Uuid) (inputs : List WaitingInput)
    (ordered : TimesOrdered rideId inputs)
    (along : Along (waitingStep config) (RespectsPauses rideId) {} inputs) (n : Nat)
    (call : WaitingCall) (request : EvidenceCommand) (taken : inputs[n]? = some (.command call))
    (asked : call.command = .evaluateNoShow request) (onRide : call.rideId = rideId)
    (session : WaitingSession) (snapshot : WaitingPolicySnapshot)
    (current : sessionOf (run (waitingStep config) {} (inputs.take n)) call.rowOrder rideId =
      some session)
    (selected : (run (waitingStep config) {} (inputs.take n)).snapshots.find
      session.policySnapshotId = some snapshot)
    (ready : (evaluateEvidence call.itemId session snapshot request.signals call.now).ready =
      true) :
    FullyWaited (run (waitingStep config) {} (inputs.take n)) session snapshot call.now := by
  have waiting := waiting_of_run ordered along n
  obtain ⟨stored, sessionRide⟩ := mem_of_sessionOf current
  have isAsked : (call, request) ∈ asksNoShow (.command call) := by
    rw [asksNoShow, asked]
    rfl
  have unpaused := (guard_of_along along taken).2 (call, request) isAsked onRide session current
  obtain ⟨found, lookup, booked⟩ := waiting.consistent.booked session stored
  obtain rfl : found = snapshot := Option.some.inj (lookup.symm.trans selected)
  exact fullyWaited_of_ready booked (waiting.watched session stored sessionRide).1 unpaused
    (evaluateEvidence_ready.1 ready)

def evidenceFound (store : WaitingStore) (call : WaitingCall) (request : EvidenceCommand) :
    Option (WaitingState × Bool) :=
  (sessionOf store call.rowOrder call.rideId).bind fun session =>
    (store.snapshots.find session.policySnapshotId).map fun snapshot =>
      (session.state,
        (evaluateEvidence call.itemId session snapshot request.signals call.now).ready)

private theorem exists_evidence {store : WaitingStore} {call : WaitingCall}
    {request : EvidenceCommand} {state : WaitingState}
    (found : evidenceFound store call request = some (state, true)) :
    ∃ session snapshot, sessionOf store call.rowOrder call.rideId = some session ∧
      store.snapshots.find session.policySnapshotId = some snapshot ∧ session.state = state ∧
      (evaluateEvidence call.itemId session snapshot request.signals call.now).ready = true := by
  obtain ⟨session, old, evaluated⟩ := Option.bind_eq_some_iff.1 found
  obtain ⟨snapshot, selected, same⟩ := Option.map_eq_some_iff.1 evaluated
  obtain ⟨sameState, ready⟩ := Prod.mk.inj same
  exact ⟨session, snapshot, old, selected, sameState, ready⟩

def resumedWait : List WaitingInput :=
  startedWait ++ [observed 20 1 weakSignals, observed 50 2 clearSignals, .command (noShow 100 3)]

theorem full_wait_resumed :
    ∃ session snapshot,
      sessionOf (run (waitingStep waitingConfig) {} (resumedWait.take 4)) id 820 = some session ∧
        (evaluateEvidence 940 session snapshot clearSignals (timedelta 100)).ready = true ∧
        FullyWaited (run (waitingStep waitingConfig) {} (resumedWait.take 4)) session snapshot
          (timedelta 100) := by
  have found : evidenceFound (run (waitingStep waitingConfig) {} (resumedWait.take 4))
      (noShow 100 3) (evidenceCommand 100 3) = some (.freeWaitActive, true) := by decide +kernel
  obtain ⟨session, snapshot, current, selected, _, ready⟩ := exists_evidence found
  exact ⟨session, snapshot, current, ready,
    full_wait_along waitingConfig 820 resumedWait (by decide +kernel) (by decide +kernel) 4
      (noShow 100 3) (evidenceCommand 100 3) rfl rfl rfl session snapshot current selected ready⟩

/-- A wait from 10 that is paused from 20 on, and evaluated at 70. -/
def pausedWait : List WaitingInput :=
  startedWait ++ [observed 20 1 weakSignals, .command (noShow 70 2)]

/-- The evidence of the paused wait is ready. -/
theorem ready_while_paused :
    TimesOrdered 820 pausedWait ∧ ∃ session snapshot,
      sessionOf (run (waitingStep waitingConfig) {} (pausedWait.take 3)) id 820 = some session ∧
        (run (waitingStep waitingConfig) {} (pausedWait.take 3)).snapshots.find
          session.policySnapshotId = some snapshot ∧
        (evaluateEvidence 910 session snapshot clearSignals (timedelta 70)).ready = true ∧
        ¬ FullyWaited (run (waitingStep waitingConfig) {} (pausedWait.take 3)) session snapshot
          (timedelta 70) := by
  have found : evidenceFound (run (waitingStep waitingConfig) {} (pausedWait.take 3))
      (noShow 70 2) (evidenceCommand 70 2) = some (.waitPaused, true) := by decide +kernel
  obtain ⟨session, snapshot, current, selected, paused, ready⟩ := exists_evidence found
  refine ⟨by decide +kernel, session, snapshot, current, selected, ready, ?_⟩
  rintro ⟨unpaused, _⟩
  exact unpaused paused

end Ayo.ArrivalWaiting.FullWait
