/- digest: What each call does to holds, their history and their events. -/

import Ayo.FinancialControl.Application
import Ayo.Kernel.Run

namespace Ayo.FinancialControl.Effects

open Kernel.UnitOfWork Kernel.KeyedTable Kernel.Ordering Core.Values Core.Authorization Core.Retries
open Settlement.Repository (SettlementStore)
open Models
open Repository hiding createHold transitionHold
open Application
open Kernel.Evolution (Evolves Extends)

/-- One input of the hold service: the settlements that a call reads, and the call. -/
abbrev HoldInput := SettlementStore × HoldCall

def holdStep (hash : Payload → Digest) (store : HoldStore) (input : HoldInput) : HoldStore :=
  step hash input.1 store input.2

def trail (store : HoldStore) (holdId : Uuid) : List FinancialHoldStateHistory :=
  store.history.rows.filter fun row => row.holdId = holdId

def listKey (row : FinancialHoldStateHistory) : Instant ×ₗ Uuid :=
  toLex (row.changedAt, row.historyId)

def listedHistory (store : HoldStore) (holdId : Uuid) : List FinancialHoldStateHistory :=
  orderedBy listKey (trail store holdId)

def moveRow (subject : AuthorizationSubject) (command : FinancialHoldTransitionCommand)
    (hold : FinancialHold) : FinancialHoldStateHistory :=
  { historyId := command.historyId, holdId := hold.holdId, fromState := some hold.state,
    toState := command.targetState, reason := command.reason,
    changedByIdentityId := subject.identityId, changedAt := command.occurredAt,
    correlationId := command.correlationId, causationId := command.causationId }

def rowEvent (eventType : String) (row : FinancialHoldStateHistory) : Event :=
  { aggregateType := "financial_hold", aggregateId := row.holdId, eventType,
    occurredAt := row.changedAt, correlationId := row.correlationId,
    causationId := row.causationId }

variable (command : FinancialHoldTransitionCommand)

def transitionPayload : Payload :=
  [("hold_id", .uuid command.holdId), ("target_state", .text command.targetState.value)] ++
    reasonPayload command.reason

def transitionOperation : String :=
  "financial.hold.transition." ++ command.targetState.value

/-- With its key reserved, a transition moves the hold: the target is one step away, the service
may request it, the time is not before the hold and the history row is new. -/
def Moves (reads : HoldReads) (subject : AuthorizationSubject)
    (command : FinancialHoldTransitionCommand) (store : HoldStore) (hold : FinancialHold) : Prop :=
  command.targetState ∈ allowedTransitions hold.state ∧
    (∀ permission ∈ permissionForTarget command.targetState,
      reads.grants subject.identityId permission (utcTime command.occurredAt) = true) ∧
    subject.identityType = .service ∧ hold.createdAt ≤ command.occurredAt ∧
    store.history.find command.historyId = none
deriving Decidable

inductive HoldEffect (hash : Payload → Digest) (s : HoldStore) (call : HoldCall)
    (t : HoldStore) : Prop where
  | quiet (holds : t.holds = s.holds) (history : t.history = s.history)
      (events : t.events = s.events)
  | created (command : FinancialHoldCreateCommand) (hold : FinancialHold)
      (row : FinancialHoldStateHistory) (requested : call.command = .createHold command)
      (state : hold.state = .created) (fromState : row.fromState = none)
      (toState : row.toState = .created) (holdId : row.holdId = hold.holdId)
      (holds : t.holds.rows = s.holds.rows ++ [hold])
      (history : t.history.rows = s.history.rows ++ [row])
      (events : t.events = s.events ++ [rowEvent "financial_hold.created" row])
  | moved (command : FinancialHoldTransitionCommand) (current changed : FinancialHold)
      (requested : call.command = .transitionHold command)
      (found : s.holds.find command.holdId = some current)
      (moves : Moves call.reads call.subject command s current)
      (reserves : Reservable hash s.idempotency call.subject.identityId
        (transitionOperation command) command.idempotencyKey.1 (transitionPayload command)
          command.holdId)
      (id : changed.holdId = current.holdId) (target : changed.state = command.targetState)
      (holds : t.holds.rows = s.holds.replaced changed)
      (history : t.history.rows =
        s.history.rows ++ [moveRow call.subject command current])
      (events : t.events = s.events ++
        [rowEvent ("financial_hold." ++ command.targetState.value)
          (moveRow call.subject command current)])

section

variable {hash : Payload → Digest} {settlements : SettlementStore} {reads : HoldReads}
  {subject : AuthorizationSubject} {s t : HoldStore} {α : Type} {id : Uuid}
  {result : FinancialHoldResult} {command : FinancialHoldTransitionCommand} {old : FinancialHold}

private theorem getHold_bind_ok {f : Option FinancialHold → HoldTransaction α} {a : α} :
    (getHold id >>= f) s = .ok (a, t) ↔ f (s.holds.find id) s = .ok (a, t) := by
  simp only [getHold, bind_assoc, pure_bind, get_bind_ok]

private theorem listHistory_bind_ok
    {f : List FinancialHoldStateHistory → HoldTransaction α} {a : α} :
    (listHistory id >>= f) s = .ok (a, t) ↔ f (listedHistory s id) s = .ok (a, t) := by
  simp only [listHistory, bind_assoc, pure_bind, get_bind_ok]
  exact Iff.rfl

private theorem recordHoldEvent_bind_ok {holdId : Uuid} {eventType : String}
    {row : FinancialHoldStateHistory} (same : row.holdId = holdId) {f : Unit → HoldTransaction α}
    {a : α} :
    (recordEvent holdId eventType row >>= f) s = .ok (a, t) ↔
      f () { s with events := s.events ++ [rowEvent eventType row] } = .ok (a, t) := by
  subst same
  simp only [recordEvent, bind_assoc, steps_ok, rowEvent]

theorem movedHold_ok (ran : movedHold subject command old s = .ok (result, t))
    (found : s.holds.find command.holdId = some old) (differs : old.state ≠ command.targetState) :
    command.targetState ∈ allowedTransitions old.state ∧ old.createdAt ≤ command.occurredAt ∧
      s.history.find command.historyId = none ∧
      ∃ new : FinancialHold, new.holdId = old.holdId ∧ new.state = command.targetState ∧
        t.holds.rows = s.holds.replaced new ∧
        t.history.rows = s.history.rows ++ [moveRow subject command old] ∧
        t.events = s.events ++ [rowEvent ("financial_hold." ++ command.targetState.value)
            (moveRow subject command old)] ∧
        t.idempotency = s.idempotency := by
  have id : old.holdId = command.holdId := Table.key_of_find found
  rw [← id] at found
  unfold movedHold Repository.transitionHold at ran
  simp only [bind_assoc, pure_bind, ↓ensureTransitionAllowed_bind_ok, ↓getHold_bind_ok, ↓steps_ok,
    ↓recordHoldEvent_bind_ok, ↓listHistory_bind_ok, found, Option.some.injEq,
    Table.replace?_eq_some, Table.insert?_eq_some, Option.dite_none_right_eq_some] at ran
  obtain ⟨follows, _, _, rfl, new, ⟨later, built⟩, holds, replaced, history, added, _, rfl⟩ :=
    ran
  subst built
  exact ⟨follows.resolve_left fun same => differs same.symm, later,
    Table.find_eq_none_of_rows_append added,
    { old with
      state := command.targetState, updatedAt := command.occurredAt, chronological := later },
    rfl, rfl, replaced, added, rfl, rfl⟩

theorem transitionHold_ok (ran : transitionHold hash reads subject command s = .ok (result, t)) :
    HoldEffect hash s ⟨reads, subject, .transitionHold command⟩ t ∧
      Outlives s.idempotency t.idempotency ∧
      OnRecord hash t.idempotency subject.identityId (transitionOperation command)
        command.idempotencyKey.1 (transitionPayload command) command.holdId := by
  unfold transitionHold requireServiceIdentity at ran
  simp only [↓steps_ok, ↓requirePermission_bind_ok] at ran
  obtain ⟨permission, needed, _, granted, service, ran⟩ := ran
  obtain ⟨canonical, _, answered, ran⟩ := bind_ok.1 ran
  obtain ⟨idempotency, reserved, rfl⟩ := within_ok.1 answered
  simp only [↓steps_ok, ↓getHold_bind_ok, ite_ok] at ran
  obtain ⟨rfl, hold, found, ran⟩ := ran
  have recorded := onRecord_of_reserved reserved
  have outlives := outlives_of_reserved reserved
  obtain ⟨_, ran⟩ | ⟨differs, ran⟩ := ran
  · simp only [↓listHistory_bind_ok, pure_ok] at ran
    obtain ⟨_, rfl⟩ := ran
    exact ⟨.quiet rfl rfl rfl, outlives, recorded⟩
  · obtain ⟨step, later, fresh, new, id, target, holds, history, events, kept⟩ :=
      movedHold_ok ran found differs
    rw [kept]
    refine ⟨.moved command hold new rfl found ⟨step, ?_, service, later, fresh⟩ ?_ id target
      holds history events, outlives, recorded⟩
    · intro other required
      cases needed.symm.trans required
      exact granted
    · intro reservation held
      exact recorded.reservable reservation (outlives _ _ held)

theorem createHold_ok {command : FinancialHoldCreateCommand}
    (ran : createHold hash settlements reads subject command s = .ok (result, t)) :
    HoldEffect hash s ⟨reads, subject, .createHold command⟩ t ∧
      Outlives s.idempotency t.idempotency := by
  unfold createHold requireServiceIdentity assertTypeSourceCompatibility assertLineageExists at ran
  simp only [↓guards_ok] at ran
  obtain ⟨_, _, _, _, _, ran⟩ := ran
  obtain ⟨canonical, _, answered, ran⟩ := bind_ok.1 ran
  obtain ⟨idempotency, reserved, rfl⟩ := within_ok.1 answered
  have outlives := outlives_of_reserved reserved
  simp only [↓getHold_bind_ok, whenSome_ok] at ran
  obtain ⟨existing, _, ran⟩ | ⟨_, ran⟩ := ran
  · simp only [↓listHistory_bind_ok, pure_ok] at ran
    obtain ⟨_, rfl⟩ := ran
    exact ⟨.quiet rfl rfl rfl, outlives⟩
  · unfold Repository.createHold at ran
    simp only [bind_assoc, ↓steps_ok, ↓recordHoldEvent_bind_ok, Table.insert?_eq_some] at ran
    obtain ⟨holds, inserted, history, added, _, rfl⟩ := ran
    exact ⟨.created command _ _ rfl rfl rfl rfl rfl inserted added rfl, outlives⟩

theorem exists_moved (found : s.holds.find command.holdId = some old)
    (moves : Moves reads subject command s old)
    (reservable : Reservable hash s.idempotency subject.identityId
      (transitionOperation command) command.idempotencyKey.1 (transitionPayload command)
        command.holdId) :
    ∃ result t, transitionHold hash reads subject command s = .ok (result, t) ∧
      (t.holds.find command.holdId).map FinancialHold.state = some command.targetState := by
  obtain ⟨allowed, granted, service, later, fresh⟩ := moves
  have id : old.holdId = command.holdId := Table.key_of_find found
  have differs := ne_of_mem_allowedTransitions allowed
  obtain ⟨permission, needed⟩ : ∃ permission,
      permissionForTarget command.targetState = some permission := by
    cases target : command.targetState <;> simp [permissionForTarget]
    cases state : old.state <;> simp [target, state, allowedTransitions] at allowed
  let new : FinancialHold :=
    { old with
      state := command.targetState, updatedAt := command.occurredAt, chronological := later }
  obtain ⟨holds, replaced⟩ := s.holds.exists_replaced new fun _ _ same => same
  have free : ∀ row ∈ s.history.rows, ¬ Row.clash row (moveRow subject command old) :=
    Table.find_eq_none.1 fresh
  obtain ⟨history, added⟩ := Table.exists_inserted free
  obtain ⟨idempotency, reserved⟩ := reservable.reserves (utcTime command.occurredAt)
  let moved : HoldStore :=
    { s with
      holds, history, idempotency,
      events := s.events ++ [rowEvent ("financial_hold." ++ command.targetState.value)
          (moveRow subject command old)] }
  have target : (moved.holds.find command.holdId).map FinancialHold.state =
      some command.targetState := by
    have sameKey : command.holdId = Row.key new := id.symm
    rw [Table.find_of_rows_replaced replaced, if_pos sameKey, found]
    rfl
  refine ⟨⟨new, listedHistory moved old.holdId⟩, moved, ?_, target⟩
  unfold transitionHold requireServiceIdentity
  refine demand_bind_ok.2 ⟨permission, needed, requirePermission_bind_ok.2
    ⟨rfl, granted permission needed, require_bind_ok.2 ⟨service, ?_⟩⟩⟩
  refine bind_ok.2 ⟨command.holdId, { s with idempotency },
    within_ok.2 ⟨idempotency, reserved, rfl⟩, ?_⟩
  refine require_bind_ok.2 ⟨rfl, getHold_bind_ok.2 (demand_bind_ok.2 ⟨old, found, ?_⟩)⟩
  refine ite_ok.2 (.inr ⟨differs, ?_⟩)
  unfold movedHold Repository.transitionHold
  rw [← id] at found
  simp only [bind_assoc, pure_bind, ↓ensureTransitionAllowed_bind_ok, ↓getHold_bind_ok, ↓steps_ok,
    ↓recordHoldEvent_bind_ok, ↓listHistory_bind_ok, found, Option.some.injEq,
    Table.replace?_eq_some, Table.insert?_eq_some, Option.dite_none_right_eq_some]
  exact ⟨.inr allowed, fun _ => rfl, old, rfl, new, ⟨later, rfl⟩, holds, replaced, history,
    added, rfl, rfl⟩

end

theorem step_effect (hash : Payload → Digest) (store : HoldStore) (input : HoldInput) :
    HoldEffect hash store input.2 (holdStep hash store input) ∧
      Outlives store.idempotency (holdStep hash store input).idempotency := by
  obtain ⟨settlements, reads, subject, command⟩ := input
  have stays : ∀ call, HoldEffect hash store call store ∧
      Outlives store.idempotency store.idempotency :=
    fun call => ⟨.quiet rfl rfl rfl, .refl _⟩
  cases command with
  | createHold command =>
    refine commit_related (R := fun s t => HoldEffect hash s
      ⟨reads, subject, .createHold command⟩ t ∧
        Outlives s.idempotency t.idempotency) _ store (stays _) ?_
    intro result t ran
    exact createHold_ok ran
  | transitionHold command =>
    refine commit_related (R := fun s t => HoldEffect hash s
      ⟨reads, subject, .transitionHold command⟩ t ∧
        Outlives s.idempotency t.idempotency) _ store (stays _) ?_
    intro result t ran
    obtain ⟨effect, outlives, _⟩ := transitionHold_ok ran
    exact ⟨effect, outlives⟩

/-- One change of a hold, along its graph. -/
def HoldStep (current changed : FinancialHold) : Prop :=
  changed.state ∈ allowedTransitions current.state

theorem HoldEffect.evolves {hash : Payload → Digest} {s t : HoldStore} {call : HoldCall}
    (effect : HoldEffect hash s call t) :
    Evolves HoldStep s.holds t.holds ∧ Extends s.history t.history := by
  cases effect with
  | quiet holds history => exact ⟨.of_eq holds, .of_eq history⟩
  | created _ _ _ _ _ _ _ _ holds history => exact ⟨.of_append holds, .of_append history⟩
  | moved command current changed _ found moves _ id target holds history =>
    refine ⟨.of_replaced holds (Table.mem_of_find found) id (.single ?_), .of_append history⟩
    rw [HoldStep, target]
    exact moves.1

end Ayo.FinancialControl.Effects
