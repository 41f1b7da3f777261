/- digest: The history of a hold is a path exactly when no transition is backdated. -/

import Ayo.FinancialControl.TransitionRetries

namespace Ayo.FinancialControl.HistoryPath

open Kernel.UnitOfWork Kernel.KeyedTable Kernel.Ordering Kernel.Run Kernel.Trail Core.Values
  Core.Retries
open Payment.SingleCapture (sampleHash)
open Models
open Repository hiding createHold transitionHold
open Application Effects TransitionRetries

def recordedStep (row : FinancialHoldStateHistory) : Step FinancialHoldState :=
  (row.fromState, row.toState)

def RecordsPath (rows : List FinancialHoldStateHistory) (state : FinancialHoldState) : Prop :=
  Path allowedTransitions .created (rows.map recordedStep) state
deriving Decidable

/-- For every hold the list that `listHistory` returns records a path to the hold's state. -/
def HistoryIsPath (store : HoldStore) : Prop :=
  ∀ hold ∈ store.holds.rows, ∃ history, listHistory hold.holdId store = .ok (history, store) ∧
    RecordsPath history hold.state

def transitionOf? : HoldCommand → Option FinancialHoldTransitionCommand
  | .createHold _ => none
  | .transitionHold command => some command

/-- A transition that moves its hold is dated after every change recorded for the hold, or at the
same time under a greater identifier. -/
def DatedLast (hash : Payload → Digest) (store : HoldStore) (input : HoldInput) : Prop :=
  ∀ command ∈ transitionOf? input.2.command, ∀ hold ∈ store.holds.find command.holdId,
    Moves input.2.reads input.2.subject command store hold →
      Reservable hash store.idempotency input.2.subject.identityId (transitionOperation command)
        command.idempotencyKey.1 (transitionPayload command) command.holdId →
      ∀ row ∈ trail store command.holdId,
        listKey row < toLex (command.occurredAt, command.historyId)
deriving Decidable

/-- Every history row belongs to a hold, and the rows of a hold record a path to its state in the
order of their dates. -/
structure Chronicled (store : HoldStore) : Prop where
  housed : ∀ row ∈ store.history.rows, ∃ hold ∈ store.holds.rows, hold.holdId = row.holdId
  path : ∀ hold ∈ store.holds.rows, RecordsPath (trail store hold.holdId) hold.state
  ascending : ∀ hold ∈ store.holds.rows,
    (trail store hold.holdId).Pairwise fun a b => listKey a < listKey b

section

variable {s t store : HoldStore} {row : FinancialHoldStateHistory} {holdId : Uuid}

theorem listHistory_listed (store : HoldStore) (holdId : Uuid) :
    listHistory holdId store = .ok (listedHistory store holdId, store) :=
  rfl

theorem historyIsPath_iff : HistoryIsPath store ↔
    ∀ hold ∈ store.holds.rows, RecordsPath (listedHistory store hold.holdId) hold.state := by
  constructor
  · intro paths hold held
    obtain ⟨history, listed, path⟩ := paths hold held
    rw [listHistory_listed] at listed
    cases listed
    exact path
  · intro paths hold held
    exact ⟨_, listHistory_listed store hold.holdId, paths hold held⟩

theorem trail_of_other (history : t.history.rows = s.history.rows ++ [row])
    (other : row.holdId ≠ holdId) : trail t holdId = trail s holdId := by
  simp [trail, history, List.filter_append, other]

theorem trail_of_own (history : t.history.rows = s.history.rows ++ [row])
    (own : row.holdId = holdId) : trail t holdId = trail s holdId ++ [row] := by
  simp [trail, history, List.filter_append, own]

theorem mem_trail : row ∈ trail store holdId ↔ row ∈ store.history.rows ∧ row.holdId = holdId := by
  simp [trail]

theorem listKey_ne_of_added (history : t.history.rows = s.history.rows ++ [row])
    {old : FinancialHoldStateHistory} (listed : old ∈ trail s holdId) :
    listKey old ≠ listKey row := by
  intro same
  have free := Table.find_eq_none.1 (Table.find_eq_none_of_rows_append history)
  have sameKey : (old.changedAt, old.historyId) = (row.changedAt, row.historyId) := same
  exact free old (mem_trail.1 listed).1 (congrArg Prod.snd sameKey)

theorem Chronicled.listed (chronicled : Chronicled store) {hold : FinancialHold}
    (held : hold ∈ store.holds.rows) : listedHistory store hold.holdId = trail store hold.holdId :=
  orderedBy_of_pairwise ((chronicled.ascending hold held).imp le_of_lt)

theorem Chronicled.historyIsPath (chronicled : Chronicled store) : HistoryIsPath store := by
  refine historyIsPath_iff.2 fun hold held => ?_
  rw [chronicled.listed held]
  exact chronicled.path hold held

end

section

variable {hash : Payload → Digest} {s t store : HoldStore} {row : FinancialHoldStateHistory}

private theorem chronicled_of_created {hold : FinancialHold} (chronicled : Chronicled s)
    (state : hold.state = .created) (fromState : row.fromState = none)
    (toState : row.toState = .created) (holdId : row.holdId = hold.holdId)
    (holds : t.holds.rows = s.holds.rows ++ [hold])
    (history : t.history.rows = s.history.rows ++ [row]) : Chronicled t := by
  have free : ∀ held ∈ s.holds.rows, held.holdId ≠ hold.holdId :=
    Table.find_eq_none.1 (Table.find_eq_none_of_rows_append holds)
  have unwritten : trail s hold.holdId = [] := by
    refine List.eq_nil_iff_forall_not_mem.2 fun old listed => ?_
    obtain ⟨written, about⟩ := mem_trail.1 listed
    obtain ⟨held, present, same⟩ := chronicled.housed old written
    exact free held present (same.trans about)
  have own : trail t hold.holdId = [row] := by
    rw [trail_of_own history holdId, unwritten]
    rfl
  have kept : ∀ held ∈ s.holds.rows, trail t held.holdId = trail s held.holdId :=
    fun held present => trail_of_other history fun same =>
      free held present (same.symm.trans holdId)
  have origin : ∀ held ∈ t.holds.rows, held ∈ s.holds.rows ∨ held = hold := by
    intro held present
    rwa [holds, List.mem_append, List.mem_singleton] at present
  refine ⟨?_, ?_, ?_⟩
  · intro written mem
    rw [history, List.mem_append, List.mem_singleton] at mem
    rw [holds]
    rcases mem with old | rfl
    · obtain ⟨held, present, same⟩ := chronicled.housed written old
      exact ⟨held, List.mem_append_left _ present, same⟩
    · exact ⟨hold, by simp, holdId.symm⟩
  · intro held present
    rcases origin held present with old | rfl
    · rw [kept held old]
      exact chronicled.path held old
    · rw [own, state]
      exact ⟨fromState, toState, rfl⟩
  · intro held present
    rcases origin held present with old | rfl
    · rw [kept held old]
      exact chronicled.ascending held old
    · rw [own]
      exact List.pairwise_singleton _ _

private theorem chronicled_of_moved {current changed : FinancialHold} (chronicled : Chronicled s)
    (stored : current ∈ s.holds.rows) (edge : changed.state ∈ allowedTransitions current.state)
    (step : recordedStep row = (some current.state, changed.state))
    (holdId : row.holdId = current.holdId) (id : changed.holdId = current.holdId)
    (holds : t.holds.rows = s.holds.replaced changed)
    (history : t.history.rows = s.history.rows ++ [row])
    (datedLast : ∀ old ∈ trail s current.holdId, listKey old < listKey row) : Chronicled t := by
  have own : trail t changed.holdId = trail s current.holdId ++ [row] := by
    rw [id]
    exact trail_of_own history holdId
  have origin : ∀ hold ∈ t.holds.rows, hold = changed ∨ hold ∈ s.holds.rows ∧
      trail t hold.holdId = trail s hold.holdId := by
    intro hold present
    rw [holds] at present
    obtain ⟨rfl, _⟩ | ⟨old, different⟩ := Table.mem_replaced.1 present
    · exact .inl rfl
    · refine .inr ⟨old, trail_of_other history fun same => different ?_⟩
      exact (same.symm.trans holdId).trans id.symm
  refine ⟨?_, ?_, ?_⟩
  · intro written mem
    rw [history, List.mem_append, List.mem_singleton] at mem
    have held : ∃ hold ∈ s.holds.rows, hold.holdId = written.holdId := by
      rcases mem with old | rfl
      · exact chronicled.housed written old
      · exact ⟨current, stored, holdId.symm⟩
    obtain ⟨hold, present, same⟩ := held
    rw [holds]
    by_cases touched : hold.holdId = changed.holdId
    · exact ⟨changed, Table.mem_replaced.2 (.inl ⟨rfl, hold, present, touched⟩),
        touched.symm.trans same⟩
    · exact ⟨hold, Table.mem_replaced.2 (.inr ⟨present, touched⟩), same⟩
  · intro hold present
    rcases origin hold present with rfl | ⟨old, kept⟩
    · rw [own, RecordsPath, List.map_append, List.map_singleton, step]
      exact Path.append (chronicled.path current stored) edge
    · rw [kept]
      exact chronicled.path hold old
  · intro hold present
    rcases origin hold present with rfl | ⟨old, kept⟩
    · rw [own]
      refine List.pairwise_append.2 ⟨chronicled.ascending current stored,
        List.pairwise_singleton _ _, ?_⟩
      intro old listed new added
      rw [List.mem_singleton.1 added]
      exact datedLast old listed
    · rw [kept]
      exact chronicled.ascending hold old

theorem step_preserves_chronicled (hash : Payload → Digest) (store : HoldStore)
    (input : HoldInput) (datedLast : DatedLast hash store input) (chronicled : Chronicled store) :
    Chronicled (holdStep hash store input) := by
  cases (step_effect hash store input).1 with
  | quiet holds history =>
    have kept : ∀ holdId, trail (holdStep hash store input) holdId = trail store holdId := by
      intro holdId
      unfold trail
      rw [history]
    refine ⟨?_, ?_, ?_⟩
    · rw [holds, history]
      exact chronicled.housed
    · rw [holds]
      intro hold held
      rw [kept]
      exact chronicled.path hold held
    · rw [holds]
      intro hold held
      rw [kept]
      exact chronicled.ascending hold held
  | created command hold row requested state fromState toState holdId holds history =>
    exact chronicled_of_created chronicled state fromState toState holdId holds history
  | moved command old new requested found moves reserves id target holds history =>
    have sameId : old.holdId = command.holdId := Table.key_of_find found
    refine chronicled_of_moved chronicled (Table.mem_of_find found) (by rw [target]; exact moves.1)
      (by rw [target]; rfl) rfl id holds history ?_
    rw [sameId]
    exact datedLast command (by rw [requested]; rfl) old found moves reserves

private theorem not_path_of_listed_before {current new : FinancialHold} (chronicled : Chronicled s)
    (held : current ∈ s.holds.rows) (moves : current.state ≠ row.toState)
    (fromState : row.fromState = some current.state) (holdId : row.holdId = current.holdId)
    (id : new.holdId = current.holdId) (holds : t.holds.rows = s.holds.replaced new)
    (history : t.history.rows = s.history.rows ++ [row])
    (listedBefore : ∃ old ∈ trail s current.holdId, listKey row < listKey old) :
    ¬ HistoryIsPath t := by
  obtain ⟨front, next, back, split, listed⟩ :=
    orderedBy_append_below (chronicled.ascending current held)
      (fun _ listed => listKey_ne_of_added history listed) listedBefore
  have path := chronicled.path current held
  rw [split, RecordsPath, List.map_append, List.map_cons] at path
  intro paths
  have present : new ∈ t.holds.rows := by
    rw [holds]
    exact Table.mem_replaced.2 (.inl ⟨rfl, current, held, id.symm⟩)
  have broken := historyIsPath_iff.1 paths new present
  have step : recordedStep row = (some current.state, row.toState) := Prod.ext fromState rfl
  rw [id, listedHistory, trail_of_own history holdId, listed, RecordsPath, List.map_append,
    List.map_cons, List.map_cons, step] at broken
  exact path.not_inserted moves broken

theorem not_path_of_dated_before (chronicled : Chronicled store) {input : HoldInput}
    (datedBefore : ¬ DatedLast hash store input) : ¬ HistoryIsPath (holdStep hash store input) := by
  obtain ⟨settlements, reads, subject, call⟩ := input
  unfold DatedLast at datedBefore
  push Not at datedBefore
  obtain ⟨command, requested, current, found, moves, reservable, old, listed, notLast⟩ :=
    datedBefore
  obtain rfl : call = .transitionHold command := by
    cases call with
    | createHold => cases requested
    | transitionHold =>
      cases requested
      rfl
  obtain ⟨result, t, ran, target⟩ := exists_moved found moves reservable
  have finished : holdStep hash store (settlements, ⟨reads, subject, .transitionHold command⟩) =
      t := commit_of_ok ran
  have effect := (step_effect hash store (settlements, ⟨reads, subject, .transitionHold command⟩)).1
  rw [finished] at effect ⊢
  have differs := ne_of_mem_allowedTransitions moves.1
  have sameId : current.holdId = command.holdId := Table.key_of_find found
  cases effect with
  | quiet holds =>
    rw [holds, found] at target
    exact absurd (Option.some.inj target) differs
  | created _ _ _ requested => cases requested
  | moved other held new requested foundAgain _ _ id _ holds history =>
    cases requested
    cases found.symm.trans foundAgain
    rw [← sameId] at listed
    have apart := listKey_ne_of_added history listed
    exact not_path_of_listed_before chronicled (Table.mem_of_find found) differs rfl rfl id holds
      history ⟨old, listed, lt_of_le_of_ne notLast apart.symm⟩

end

private theorem datedLast_of_paths {hash : Payload → Digest} {store : HoldStore}
    {inputs : List HoldInput} (chronicled : Chronicled store)
    (paths : ∀ n, HistoryIsPath (run (holdStep hash) store (inputs.take n))) :
    Along (holdStep hash) (DatedLast hash) store inputs := by
  induction inputs generalizing store with
  | nil => trivial
  | cons input rest ih =>
    have datedLast : DatedLast hash store input := by
      by_contra s
      exact not_path_of_dated_before chronicled s (paths 1)
    exact ⟨datedLast, ih (step_preserves_chronicled hash store input datedLast chronicled)
      fun n => paths (n + 1)⟩

/-- In every state of a run every hold's listed history is a path of its lifecycle to its state
exactly when every transition of the run that moves its hold is dated last. -/
theorem history_is_path_iff (hash : Payload → Digest) (inputs : List HoldInput) :
    (∀ n, HistoryIsPath (run (holdStep hash) {} (inputs.take n))) ↔
      Along (holdStep hash) (DatedLast hash) {} inputs := by
  have start : Chronicled {} := by
    refine ⟨?_, ?_, ?_⟩
    · exact fun _ written => absurd written List.not_mem_nil
    · exact fun _ stored => absurd stored List.not_mem_nil
    · exact fun _ stored => absurd stored List.not_mem_nil
  constructor
  · exact datedLast_of_paths start
  · intro along n
    have between := run_invariant_between (step_preserves_chronicled hash) along (Nat.zero_le n)
      start
    exact between.historyIsPath

def reviewedEarlier : List HoldInput :=
  activated ++ [moveCall (moveTo .underReview secondKey 202 0)]

theorem history_not_path : ¬ HistoryIsPath (run (holdStep sampleHash) {} reviewedEarlier) := by
  intro paths
  have broken := historyIsPath_iff.1 paths
  revert broken
  decide +kernel

end Ayo.FinancialControl.HistoryPath
