/- digest: Each session is booked under its snapshot, and each event belongs to one. -/

import Ayo.ArrivalWaiting.Bookkeeping
import Ayo.ArrivalWaiting.Effects
import Ayo.Kernel.Run

namespace Ayo.ArrivalWaiting.Consistency

open Kernel.KeyedTable Kernel.Run
open Core.Values hiding isCode Code
open Models Engine Repository Application Effects Bookkeeping

def BookedIn (store : WaitingStore) (session : WaitingSession) : Prop :=
  ∃ snapshot, store.snapshots.find session.policySnapshotId = some snapshot ∧
    Booked snapshot session

/-- Every session is booked, and every event belongs to a session. -/
structure Consistent (store : WaitingStore) : Prop where
  booked : ∀ session ∈ store.sessions.rows, BookedIn store session
  owned : ∀ event ∈ store.sessionEvents.rows,
    ∃ session ∈ store.sessions.rows, session.sessionId = event.sessionId

variable {config : WaitingConfig} {s t : WaitingStore} {prior next : WaitingSession}
  {snapshot : WaitingPolicySnapshot} {now : Instant}

theorem BookedIn.of_kept (booked : BookedIn s prior)
    (kept : ∀ id found, s.snapshots.find id = some found →
      t.snapshots.find id = some found) : BookedIn t prior := by
  obtain ⟨snapshot, selected, holds⟩ := booked
  exact ⟨snapshot, kept _ _ selected, holds⟩

theorem booked_of_projected (booked : Booked snapshot prior)
    (active : prior.state = .freeWaitActive) : Booked snapshot (projected prior now) := by
  have running : prior.pausedAt = none := booked.unpaused (by rw [active]; decide)
  refine ⟨booked.deadline, ?_, ?_⟩
  · show prior.pausedAt.isSome = true ↔ WaitingState.freeWaitEnding = .waitPaused
    rw [running]
    simp
  · show ["waiting.free_wait_expired_evaluation_required"] ≠ []
    simp

theorem consistent_of_quiet (consistent : Consistent s) (quiet : Quiet s t) : Consistent t := by
  obtain ⟨snapshots, rest⟩ := Prod.mk.inj quiet
  obtain ⟨sessions, events⟩ := Prod.mk.inj rest
  constructor
  · intro session mem
    rw [sessions] at mem
    refine (consistent.booked session mem).of_kept ?_
    intro id found selected
    rwa [snapshots]
  · intro event mem
    rw [events] at mem
    rw [sessions]
    exact consistent.owned event mem

theorem consistent_of_starts (consistent : Consistent s) (starts : Starts s t next snapshot)
    (booked : BookedIn t next) : Consistent t := by
  constructor
  · intro session mem
    rw [starts.sessions] at mem
    rcases List.mem_append.1 mem with old | new
    · refine (consistent.booked session old).of_kept ?_
      intro id found selected
      rw [Table.find_of_rows_append starts.snapshots, selected]
      rfl
    · rw [List.mem_singleton.1 new]
      exact booked
  · intro event mem
    rw [starts.events] at mem
    rw [starts.sessions]
    rcases List.mem_append.1 mem with old | new
    · obtain ⟨session, held, same⟩ := consistent.owned event old
      exact ⟨session, List.mem_append_left _ held, same⟩
    · rw [List.mem_singleton.1 new]
      exact ⟨next, by simp, rfl⟩

theorem consistent_of_moves (consistent : Consistent s) (moves : Moves s t prior next)
    (booked : BookedIn s next) : Consistent t := by
  have kept : ∀ id found, s.snapshots.find id = some found → t.snapshots.find id = some found := by
    intro id found selected
    rwa [moves.snapshots]
  have moved : next ∈ t.sessions.rows := by
    rw [moves.sessions]
    exact Table.mem_replaced.2 (.inl ⟨rfl, prior, moves.stored, moves.sameId.symm⟩)
  constructor
  · intro session mem
    rw [moves.sessions] at mem
    rcases Table.mem_replaced.1 mem with ⟨rfl, _⟩ | ⟨old, _⟩
    · exact booked.of_kept kept
    · exact (consistent.booked session old).of_kept kept
  · intro event mem
    rw [moves.events] at mem
    rcases List.mem_append.1 mem with old | new
    · obtain ⟨session, stored, same⟩ := consistent.owned event old
      by_cases replacedOne : session.sessionId = prior.sessionId
      · exact ⟨next, moved, moves.sameId.trans (replacedOne.symm.trans same)⟩
      · exact ⟨session, moves.mem_of_other stored replacedOne, same⟩
    · rw [List.mem_singleton.1 new]
      exact ⟨next, moved, rfl⟩

theorem consistent_of_projects (consistent : Consistent s)
    (projects : Relation.ReflTransGen (Projects now) s t) : Consistent t := by
  induction projects with
  | refl => exact consistent
  | tail _ last ih =>
    obtain ⟨session, active, _, moves⟩ := last
    obtain ⟨snapshot, selected, booked⟩ := ih.booked session moves.stored
    exact consistent_of_moves ih moves ⟨snapshot, selected, booked_of_projected booked active⟩

theorem step_preserves_consistent (store : WaitingStore) (input : WaitingInput)
    (consistent : Consistent store) : Consistent (waitingStep config store input) := by
  cases step_effect config store input with
  | quiet quiet => exact consistent_of_quiet consistent quiet
  | started request command assignmentId arrival snapshot session absent arrived resolved begun
      starts =>
    have booked := Booked.of_started begun
    obtain ⟨_, _, fields⟩ := startWaiting_eq_ok.1 begun
    refine consistent_of_starts consistent starts ⟨snapshot, ?_, booked⟩
    rw [← fields]
    exact Table.find_of_inserted starts.snapshots
  | continued request command prior next snapshot old expected selected evaluated moves =>
    obtain ⟨found, lookup, booked⟩ := consistent.booked prior moves.stored
    obtain ⟨_, _, sameSnapshot, _⟩ := sameSession_of_continuity evaluated
    refine consistent_of_moves consistent moves ⟨found, ?_, booked.of_continuity evaluated⟩
    rw [sameSnapshot]
    exact lookup
  | projected projects => exact consistent_of_projects consistent projects

theorem consistent_empty : Consistent {} := by
  constructor
  · intro session mem
    cases mem
  · intro event mem
    cases mem

theorem consistent_of_run (config : WaitingConfig) (inputs : List WaitingInput) :
    Consistent (run (waitingStep config) {} inputs) :=
  run_invariant (fun store input => step_preserves_consistent store input) inputs consistent_empty

end Ayo.ArrivalWaiting.Consistency
