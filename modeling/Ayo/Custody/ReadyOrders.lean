/- digest: Custody is accepted of ready orders while no readiness is corrected. -/

import Ayo.CourierDispatch.Consistency
import Ayo.CourierPickup.Effects
import Ayo.MerchantOrders.CanonicalPreparation

namespace Ayo.Custody.ReadyOrders

open Kernel.UnitOfWork Kernel.KeyedTable Kernel.Related Kernel.Run Core.Values Core.Authorization
  Courier.Frames Courier.Store Courier.System Courier.Writers
open CourierDispatch.Consistency (dispatch_step)
open CourierDispatch.Effects
open CourierDispatch.Models (CourierDispatchRequest)
open CourierDispatch.Repository
open CourierDispatch.Application (DispatchCommand ReadyRequest)
open CourierPickup.Application (PickupCommand)
open CourierPickup.Idempotency (StoredSnapshot)
open CourierPickup.Models (CourierPickupRecord CourierPickupState CourierPickupAction)
open Effects Models MerchantOrders.CanonicalPreparation
open Kernel.Evolution (Evolves)

def eventTypeText : CanonicalPreparationEventType → String
  | .admitted => "commerce.preparation.admitted"
  | .started => "commerce.preparation.started"
  | .readyForPickup => "commerce.preparation.ready_for_pickup"
  | .unableToPrepare => "commerce.preparation.unable_to_prepare"
  | .readinessCorrected => "commerce.preparation.readiness_corrected"
  | .overdueObserved => "commerce.preparation.overdue_observed"

def sourceOf (preparation : CanonicalStore) (messageId : Uuid) : Option PreparationSource :=
  (preparation.outbox.find messageId).bind fun message =>
    (preparation.cases.find message.preparationCaseId).map fun row =>
      { orderId := row.orderId, merchantId := row.merchantId
        eventType := eventTypeText message.eventType, state := row.state.value }

structure ReadyStore where
  preparation : CanonicalStore := {}
  courier : CourierStore := {}

structure ReadyConfig where
  preparation : CanonicalConfig
  courier : CourierConfig

inductive CanonicalCall where
  | admission (context : CanonicalContext) (decision : Option AcceptedDecision)
  | command (context : CanonicalContext) (input : CanonicalCommand)
  | observation (context : CanonicalContext) (preparationCaseId : Uuid) (expectedVersion : Int)

def CanonicalCall.body (config : CanonicalConfig) :
    CanonicalCall → CanonicalTransaction CanonicalPreparationCase
  | .admission context decision => admitPreparation config context decision
  | .command context input => MerchantOrders.CanonicalPreparation.command config context input
  | .observation context preparationCaseId expectedVersion =>
    observeOverdue context preparationCaseId expectedVersion

/-- A call on a preparation or on one of the courier components, or an order that is placed. -/
inductive ReadyMove where
  | preparation (call : CanonicalCall)
  | courier (call : CourierCall)
  | orderPlaced (order : Order)
  | orderCreated (messageId orderId : Uuid) (time : Instant)

def readingPreparation (preparation : CanonicalStore) (call : CourierCall) : CourierCall :=
  { call with reads := { call.reads with preparation := sourceOf preparation } }

def readyStep (config : ReadyConfig) (store : ReadyStore) : ReadyMove → ReadyStore
  | .preparation call =>
    { store with preparation := commit (call.body config.preparation) store.preparation }
  | .courier call =>
    { store with
      courier := courierStep config.courier store.courier
        (.call (readingPreparation store.preparation call)) }
  | .orderPlaced order =>
    { store with courier := courierStep config.courier store.courier (.orderPlaced order) }
  | .orderCreated messageId orderId time =>
    { store with
      courier := courierStep config.courier store.courier
        (.orderMessage .created messageId orderId time) }

def IsReady (store : ReadyStore) (orderId : Uuid) : Prop :=
  ∃ row ∈ store.preparation.cases.rows, row.orderId = orderId ∧ row.state = .ready
deriving Decidable

def IsAccepted (store : CourierStore) (orderId : Uuid) : Prop :=
  ∃ custody ∈ store.custody.records.rows, custody.orderId = orderId ∧ custody.state = .accepted
deriving Decidable

abbrev storeAt (config : ReadyConfig) (moves : List ReadyMove) (n : Nat) : ReadyStore :=
  run (readyStep config) {} (moves.take n)

/-- Custody becomes accepted of ready orders only, and an order has one dispatch. -/
structure ReadyLaw (config : ReadyConfig) (moves : List ReadyMove) : Prop where
  ready : ∀ n, ∀ custody ∈ (storeAt config moves (n + 1)).courier.custody.records.rows,
    custody.state = .accepted → custody ∉ (storeAt config moves n).courier.custody.records.rows →
      IsReady (storeAt config moves n) custody.orderId
  single : ∀ n, ∀ first ∈ (storeAt config moves n).courier.dispatch.requests.rows,
    ∀ second ∈ (storeAt config moves n).courier.dispatch.requests.rows,
      first.orderId = second.orderId → first = second

/-- No readiness is corrected of an order that has a courier dispatch, unless its custody is
accepted already. -/
def Uncorrected (store : ReadyStore) : ReadyMove → Prop
  | .preparation (.command _ input) => input.action = .correctReadiness →
      ∀ row ∈ store.preparation.cases.find input.preparationCaseId, row.state = .ready →
        ∀ request ∈ store.courier.dispatch.requests.rows, request.orderId = row.orderId →
          IsAccepted store.courier row.orderId
  | _ => True

instance decideUncorrected (store : ReadyStore) : ∀ move, Decidable (Uncorrected store move)
  | .preparation (.command _ input) =>
    inferInstanceAs (Decidable (input.action = .correctReadiness →
      ∀ row ∈ store.preparation.cases.find input.preparationCaseId, row.state = .ready →
        ∀ request ∈ store.courier.dispatch.requests.rows, request.orderId = row.orderId →
          IsAccepted store.courier row.orderId))
  | .preparation (.admission _ _) | .preparation (.observation _ _ _) | .courier _ | .orderPlaced _
  | .orderCreated _ _ _ => .isTrue trivial

section

variable {config : CanonicalConfig} {context : CanonicalContext} {s t : CanonicalStore}
  {preparationCaseId : Uuid} {old row : CanonicalPreparationCase} {apart : Option Uuid}
  {target : CanonicalPreparationState} {input : CanonicalCommand}

theorem reserve_keepsCases {row : CanonicalReservation} :
    Keeps CanonicalStore.cases (MerchantOrders.CanonicalPreparation.reserve row) := by
  intro s answer t ran
  simp only [MerchantOrders.CanonicalPreparation.reserve, ↓get_bind_ok] at ran
  cases standing : s.reservations.find row.name with
  | some found =>
    simp only [standing, ↓steps_ok] at ran
    obtain ⟨_, _, rfl⟩ := ran
    rfl
  | none =>
    simp only [standing, ↓steps_ok] at ran
    obtain ⟨_, _, _, rfl⟩ := ran
    rfl

theorem updateCase_ok {change : CanonicalPreparationCase → CanonicalPreparationCase} {u : Unit}
    (ran : updateCase old change s = .ok (u, t)) :
    ∃ row, s.cases.find old.preparationCaseId = some row ∧ row.state = old.state ∧
      t.cases.rows = s.cases.replaced (change row) := by
  simp only [updateCase, ↓steps_ok, Option.filter_eq_some_iff, decide_eq_true_eq,
    Table.replace?_eq_some] at ran
  obtain ⟨row, ⟨found, state, _⟩, cases, rows, rfl⟩ := ran
  exact ⟨row, found, state, rows⟩

def ReadyStays (apart : Option Uuid) (s t : CanonicalStore) : Prop :=
  ∀ row ∈ s.cases.rows, row.state = .ready → apart ≠ some row.preparationCaseId → row ∈ t.cases.rows

theorem ReadyStays.of_same (same : t.cases = s.cases) : ReadyStays apart s t := by
  intro row held _ _
  rwa [same]

theorem ReadyStays.of_updated {new : CanonicalPreparationCase}
    (found : s.cases.find row.preparationCaseId = some row)
    (key : new.preparationCaseId = row.preparationCaseId)
    (rows : t.cases.rows = s.cases.replaced new)
    (unready : row.state = .ready → apart = some row.preparationCaseId) : ReadyStays apart s t := by
  intro other held ready kept
  have different : other.preparationCaseId ≠ row.preparationCaseId := by
    intro same
    obtain rfl := Table.eq_of_key s.cases held (Table.mem_of_find found) same
    exact kept (unready ready)
  rw [rows, Table.mem_replaced]
  exact .inr ⟨held, fun same => different (same.trans key)⟩

theorem admitPreparation_stays {decision : Option AcceptedDecision}
    (ran : admitPreparation config context decision s = .ok (row, t)) : ReadyStays apart s t := by
  intro other held _ _
  obtain same | ⟨_, _, _, _, grown⟩ := admitPreparation_ok ran
  · rwa [same]
  · rw [grown]
    exact List.mem_append_left _ held

theorem transition_ready {state : CanonicalPreparationState} {action : CanonicalPreparationAction}
    (ran : MerchantOrders.CanonicalPreparation.transition state action s = .ok (target, t)) :
    t = s ∧ (state = .ready → action = .correctReadiness) := by
  unfold MerchantOrders.CanonicalPreparation.transition at ran
  split at ran
  all_goals first
    | exact (throw_ok.1 ran).elim
    | obtain ⟨_, rfl⟩ := pure_ok.1 ran
      exact ⟨rfl, fun ready => (by first | rfl | cases ready)⟩

theorem validateFields_readOnly : ReadOnly (validateFields config input) :=
  .requires <| .requires <| .requires <| .require

theorem applyEvidence_ok
    {evidence : CanonicalPreparationEvidence} {estimatedReadyAt : Option Instant} {actor : Uuid}
    {operation : CanonicalPreparationAction} {key : String}
    (ran : applyEvidence context old target evidence estimatedReadyAt actor operation key
      s = .ok (row, t)) :
    ∃ held new : CanonicalPreparationCase,
      s.cases.find old.preparationCaseId = some held ∧ held.state = old.state ∧
      new.preparationCaseId = held.preparationCaseId ∧
      t.cases.rows = s.cases.replaced new := by
  rw [applyEvidence, bind_ok] at ran
  obtain ⟨_, updated, updates, ran⟩ := ran
  obtain ⟨held, found, state, rows⟩ := updateCase_ok updates
  simp only [↓steps_ok] at ran
  obtain ⟨reservations, _, ran⟩ := ran
  rw [bind_pure_ok] at ran
  obtain ⟨⟨⟩, inserts, _⟩ := ran
  have same := insertMessage_keepsCases _ _ _ inserts
  rw [same]
  refine ⟨held, _, found, state, ?_, rows⟩
  rfl

def corrected? (input : CanonicalCommand) : Option Uuid :=
  if input.action = .correctReadiness then some input.preparationCaseId else none

theorem command_stays
    (ran : MerchantOrders.CanonicalPreparation.command config context input s =
      .ok (row, t)) : ReadyStays (corrected? input) s t := by
  rw [MerchantOrders.CanonicalPreparation.command, bind_ok] at ran
  obtain ⟨instant, checked, checks, ran⟩ := ran
  obtain ⟨rfl, rfl⟩ := checkTime_ok checks
  replace ran := (validateFields_readOnly).bind_ok ran
  obtain ⟨_, _, ran⟩ := ran
  rw [bind_ok] at ran
  obtain ⟨⟨previous, created⟩, reserved, reserves, ran⟩ := ran
  have unwritten : reserved.cases = checked.cases := reserve_keepsCases _ _ _ reserves
  rw [get_bind_ok, ite_ok] at ran
  obtain ⟨_, ran⟩ | ⟨_, ran⟩ := ran
  · obtain ⟨_, rfl⟩ := demand_ok.1 ran
    exact .of_same unwritten
  · simp only [↓steps_ok] at ran
    obtain ⟨old, found, _, merchant, _, ran⟩ := ran
    have authorizes : ReadOnly (authorityBasis context old merchant input.action) :=
      .ite .pure .demand
    replace ran := authorizes.bind_ok ran
    obtain ⟨basis, _, ran⟩ := ran
    rw [bind_ok] at ran
    obtain ⟨target, _, moves, ran⟩ := ran
    obtain ⟨rfl, corrects⟩ := transition_ready moves
    rw [bind_ok] at ran
    obtain ⟨result, applied, applies, ran⟩ := ran
    rw [bind_pure_ok] at ran
    obtain ⟨⟨⟩, audits, _⟩ := ran
    obtain ⟨held, new, again, _, key, rows⟩ := applyEvidence_ok applies
    have named : old.preparationCaseId = input.preparationCaseId := Table.key_of_find found
    rw [unwritten, named] at again
    rw [unwritten] at found rows
    obtain rfl := Option.mem_unique found again
    rw [← named] at found
    refine .of_updated found key ?_ fun ready => ?_
    · rw [appendAudit_keepsCases _ _ _ audits]
      exact rows
    · rw [corrected?, if_pos (corrects ready), named]

theorem observeOverdue_stays {expected : Int}
    (ran : observeOverdue context preparationCaseId expected s =
      .ok (row, t)) : ReadyStays apart s t := by
  rw [observeOverdue, bind_ok] at ran
  obtain ⟨instant, checked, checks, ran⟩ := ran
  obtain ⟨rfl, rfl⟩ := checkTime_ok checks
  simp only [↓hasPermission_bind_ok, ↓steps_ok] at ran
  obtain ⟨_, _, old, _, ⟨preparing, _⟩, ran⟩ := ran
  rw [ite_ok] at ran
  obtain ⟨_, ran⟩ | ⟨_, ran⟩ := ran
  · obtain ⟨_, rfl⟩ := pure_ok.1 ran
    exact .of_same rfl
  · rw [bind_ok] at ran
    obtain ⟨_, updated, updates, ran⟩ := ran
    obtain ⟨held, found, state, rows⟩ := updateCase_ok updates
    rw [bind_pure_ok] at ran
    obtain ⟨⟨⟩, inserts, _⟩ := ran
    have named : held.preparationCaseId = old.preparationCaseId := Table.key_of_find found
    rw [← named] at found
    rw [← insertMessage_keepsCases _ _ _ inserts] at rows
    refine .of_updated found ?_ rows fun ready => ?_
    · rfl
    · rw [state, preparing] at ready
      cases ready

def CanonicalCall.corrected? : CanonicalCall → Option Uuid
  | .command _ input => ReadyOrders.corrected? input
  | _ => none

theorem call_stays {call : CanonicalCall} (ran : call.body config s = .ok (row, t)) :
    ReadyStays call.corrected? s t := by
  cases call with
  | admission => exact admitPreparation_stays ran
  | command => exact command_stays ran
  | observation =>
    exact observeOverdue_stays ran

end

section

variable {config : CourierConfig} {draws : Draws} {reads : CourierReads}
  {subject : AuthorizationSubject} {time : Instant} {old : CourierPickupRecord}
  {request : CourierPickup.Application.PickupRequest}
  {supplied : CourierPickup.Application.SuppliedLocation}

def Grows (s t : CourierStore) : Prop :=
  ∃ added, t.custody.records.rows = s.custody.records.rows ++ added ∧
    ∀ custody ∈ added, custody.state = .waiting

theorem Grows.of_same {s t : CourierStore} (same : t.custody = s.custody) : Grows s t :=
  ⟨[], by rw [same, List.append_nil], fun _ listed => by cases listed⟩

instance : IsPreorder CourierStore Grows where
  refl _ := .of_same rfl
  trans := by
    intro r s t first second
    obtain ⟨added, rows, waiting⟩ := first
    obtain ⟨further, appended, waits⟩ := second
    refine ⟨added ++ further, ?_, ?_⟩
    · rw [appended, rows, List.append_assoc]
    · intro custody listed
      rcases List.mem_append.1 listed with earlier | later
      · exact waiting custody earlier
      · exact waits custody later

theorem putPickup_grows {change : PickupStore → PickupStore} :
    Relates Grows (CourierPickup.Repository.putPickup change) :=
  .get_bind fun _ _ _ ran => by
    obtain rfl := put_ok.1 ran
    exact .of_same rfl

theorem appendMessage_grows {message : OutboxMessage} : Relates Grows (appendMessage message) := by
  intro s u t ran
  obtain ⟨_, _, rfl⟩ := appendMessage_ok.1 ran
  exact .of_same rfl

theorem appendAudit_grows {event : PersistenceKernel.Audit.AuditEvent} :
    Relates Grows (Courier.Store.appendAudit event) := by
  intro s u t ran
  simp only [Courier.Store.appendAudit, ↓require_bind_ok] at ran
  obtain ⟨_, ran⟩ := ran
  obtain ⟨_, _, appended, finished⟩ := bind_ok.1 ran
  obtain ⟨_, _, rfl⟩ := within_ok.1 appended
  obtain ⟨_, rfl⟩ := pure_ok.1 finished
  exact .of_same rfl

theorem activate_grows {pickupId actorIdentityId : Uuid} :
    Relates Grows (Custody.Repository.activate draws pickupId actorIdentityId time) := by
  intro s view t ran
  obtain ⟨pickup, _, _, activated | ⟨rfl, _⟩⟩ := activate_ok ran
  · refine ⟨[newCustody draws pickup time], activated.records, ?_⟩
    intro custody listed
    obtain rfl := List.mem_singleton.1 listed
    rfl
  · exact .of_same rfl

theorem recordPickup_grows {value : CourierPickupRecord}
    {fromState : Option CourierPickupState} {step : CourierPickup.Repository.PickupStep} :
    Relates Grows (CourierPickup.Repository.record draws value fromState step) :=
  .bind putPickup_grows fun _ => appendMessage_grows

theorem consumeAssignment_grows {messageId dispatchId orderId : Uuid} :
    Relates Grows
      (CourierPickup.Repository.consumeAssignment draws messageId dispatchId orderId time) :=
  .bind .get fun _ => .demands fun _ => .whenSome (fun _ => .requires <| .pure)
    (.demands fun _ => .bind putPickup_grows fun _ =>
      .bind recordPickup_grows fun _ => .of_readOnly requiredPickup_readOnly)

theorem transitionPickup_grows {bytes : StoredSnapshot → Nat}
    {target : CourierPickupState} {action : CourierPickupAction} {actorId : Uuid} {key : String}
    {step : CourierPickup.Repository.PickupStep}
    {location : Option CourierPickup.Repository.LocationEvidence} :
    Relates Grows
      (CourierPickup.Repository.transition bytes draws old target action actorId key step
        location) :=
  .requires <| .requires <| .bind .get fun _ =>
    .demands fun _ => .demands fun _ => .bind putPickup_grows fun _ =>
    .bind recordPickup_grows fun _ =>
    .bind (.whenSome (fun _ => .requires <| putPickup_grows) .pure) fun _ =>
    .bind (.of_readOnly requiredPickup_readOnly) fun _ => .demands fun _ =>
    .bind (.bind .get fun _ => .demands fun _ => .demands fun _ =>
      putPickup_grows) fun _ => .pure

theorem proceedPickup_grows {permission : String} {instant : Instant} :
    Relates Grows
      (CourierPickup.Application.proceed config draws subject request supplied permission instant
        old) := by
  refine .bind .get fun _ => .requires <| .requires <|
    .bind (.ite (.of_readOnly requireCurrentPickup_readOnly) .pure) fun _ =>
    .bind (.whenSome (fun _ => .requires <| .require) .pure) fun _ =>
    .demands fun _ => .bind transitionPickup_grows fun _ =>
    .bind appendAudit_grows fun _ => .bind (.ite (.bind ?_ fun _ => .pure) .pure)
      fun _ => .pure
  exact fun s a t ran => activate_grows s a t (recast_ok.1 ran)

theorem commandOn_grows {merchantId : Option Uuid} :
    Relates Grows (CourierPickup.Application.commandOn config draws reads subject request merchantId
        supplied) := by
  intro s view t ran
  obtain ⟨_, old, permission, _, _, _, ⟨idempotency, _, proceeds⟩ | ⟨_, _, rfl⟩⟩ :=
    CourierPickup.Effects.commandOn_ok.1 ran
  · have reserved : Grows s { s with pickup := { s.pickup with idempotency } } := .of_same rfl
    exact Trans.trans reserved (proceedPickup_grows _ _ _ proceeds)
  · exact .of_same rfl

theorem pickupCommand_grows {command : PickupCommand} :
    Relates Grows (command.body config draws reads subject) := by
  cases command with
  | consumeAssignment => exact consumeAssignment_grows
  | courierCommand =>
    exact .requires <| .requires <| .requires <| commandOn_grows
  | merchantAcknowledge =>
    exact .requires <| commandOn_grows

end

section

variable {s t : CourierStore} {old : CustodyRecord}

/-- Accepted custodies stay; and whose acceptance is new has a dispatch, and no other custody that
is accepted. -/
structure Accepts (s t : CourierStore) : Prop where
  kept : ∀ custody ∈ s.custody.records.rows, custody.state = .accepted →
    custody ∈ t.custody.records.rows
  fresh : ∀ custody ∈ t.custody.records.rows, custody.state = .accepted →
    custody ∉ s.custody.records.rows →
      ¬ IsAccepted s custody.orderId ∧
        ∃ request ∈ s.dispatch.requests.rows, request.orderId = custody.orderId

theorem Accepts.of_grows (grows : Grows s t) : Accepts s t := by
  obtain ⟨added, rows, waiting⟩ := grows
  refine ⟨?_, ?_⟩
  · intro custody held _
    rw [rows]
    exact List.mem_append_left _ held
  · intro custody held accepted new
    rw [rows] at held
    have added := (List.mem_append.1 held).resolve_left new
    rw [waiting custody added] at accepted
    cases accepted

theorem Accepts.of_same (same : t.custody = s.custody) : Accepts s t :=
  .of_grows (.of_same same)

theorem entered_orderId (held old : CustodyRecord) (target : CustodyState) (stamp : CustodyStamp)
    (time : Instant) : (held.entered old target stamp time).orderId = held.orderId := by
  cases stamp <;> rfl

theorem entered_state (held old : CustodyRecord) (target : CustodyState) (stamp : CustodyStamp)
    (time : Instant) : (held.entered old target stamp time).state = target := by
  cases stamp <;> rfl

theorem Accepts.of_entered {target : CustodyState}
    {stamp : CustodyStamp} {time : Instant} (entered : Entered s t old target stamp time)
    (open_ : old.state ≠ .accepted)
    (dispatched : target = .accepted →
      ∃ request ∈ s.dispatch.requests.rows, request.orderId = old.orderId) :
    Accepts s t := by
  have stored := Table.mem_of_find entered.stored
  have key := entered_key old old target stamp time
  refine ⟨?_, ?_⟩
  · intro custody listed accepted
    rw [entered.records, Table.mem_replaced]
    refine .inr ⟨listed, fun same => open_ ?_⟩
    rw [← Table.eq_of_key s.custody.records listed stored (same.trans key)]
    exact accepted
  · intro custody listed accepted new
    rw [entered.records, Table.mem_replaced] at listed
    obtain ⟨rfl, _⟩ | ⟨listed, _⟩ := listed
    · rw [entered_state] at accepted
      rw [entered_orderId]
      refine ⟨?_, dispatched accepted⟩
      rintro ⟨other, held, order, taken⟩
      have one : other = old := s.custody.records.eq_of_clash held stored
        (.inr ⟨fun row => some row.orderId, by simp, rfl, congrArg some order⟩)
      exact open_ (one ▸ taken)
    · exact absurd listed new

theorem dispatched_of_holds {subject : AuthorizationSubject} (holds : Holds s subject old) :
    ∃ request ∈ s.dispatch.requests.rows, request.orderId = old.orderId := by
  obtain ⟨_, pickup, _, _, order, _, _, matching⟩ := holds
  simp only [matchesCurrentAssignment, Bool.and_eq_true, Option.any_eq_true] at matching
  obtain ⟨⟨request, found, matches_⟩, _⟩ := matching
  have agrees := of_decide_eq_true matches_
  exact ⟨request, Table.mem_of_find found, agrees.2.1.trans order⟩

theorem Accepts.of_effect {draws : Draws} (effect : CustodyEffect draws s t) : Accepts s t := by
  cases effect with
  | idle records =>
    exact .of_grows ⟨[], by rw [records, List.append_nil], fun _ listed => by cases listed⟩
  | activated pickup time activated =>
    refine .of_grows ⟨_, activated.records, fun custody listed => ?_⟩
    obtain rfl := List.mem_singleton.1 listed
    rfl
  | sealed old codeHash expiresAt time waiting entered =>
    exact .of_entered entered (by rw [waiting]; decide) nofun
  | verified old challenge method subject time sealed holds found answers entered =>
    exact .of_entered entered (by rw [sealed]; decide) nofun
  | released old time verified entered =>
    exact .of_entered entered (by rw [verified]; decide) nofun
  | accepted old subject time released holds entered =>
    exact .of_entered entered (by rw [released]; decide) fun _ => dispatched_of_holds holds

theorem custody_step (config : CourierConfig) (store : CourierStore) (move : CourierMove) :
    Grows store (courierStep config store move) ∨
      ∃ draws, CustodyEffect draws store (courierStep config store move) := by
  cases courierStep_of config store move with
  | dispatch draws reads subject command calls ends =>
    have stays := commit_stays store (dispatchCommand_stays config draws reads subject command)
    rw [ends]
    exact .inl (.of_same (congrArg (fun part => part.2.2.1) stays.same))
  | pickup draws reads subject command calls ends =>
    rw [ends]
    exact .inl ((pickupCommand_grows).commit store)
  | custody draws reads subject command calls ends =>
    rw [ends]
    refine .inr ⟨draws, ?_⟩
    exact commit_related (R := CustodyEffect draws) _ store (.idle rfl rfl) fun view t ran =>
      custodyCommand_effect ran
  | delivery draws reads subject command calls ends =>
    have stays := commit_stays store (deliveryCommand_stays config draws subject command)
    rw [ends]
    exact .inl (.of_same (congrArg (fun part => part.2.2.2) stays.same))
  | orders stays => exact .inl (.of_same (congrArg (fun part => part.2.2.1) stays.same))

theorem courierStep_accepts (config : CourierConfig) (store : CourierStore) (move : CourierMove) :
    Accepts store (courierStep config store move) := by
  obtain grows | ⟨draws, effect⟩ := custody_step config store move
  · exact .of_grows grows
  · exact .of_effect effect

/-- In any order of dispatch, pickup, custody and delivery commands a custody stays with its order
and its courier and goes through sealing, verification, release and acceptance one by one. -/
theorem custodies_progress (config : CourierConfig) (store : CourierStore)
    (moves : List CourierMove) :
    Evolves CustodyStep store.custody.records
      (run (courierStep config) store moves).custody.records := by
  refine .of_run (T := fun s => s.custody.records) (fun s move => ?_) store moves
  obtain ⟨_, rows, _⟩ | ⟨_, effect⟩ := custody_step config s move
  · exact .of_append rows
  · exact effect.evolves

end

section

variable {config : CourierConfig} {draws : Draws} {reads : CourierReads}
  {subject : AuthorizationSubject} {s t : CourierStore}
  {view : CourierDispatch.Models.MerchantCourierDispatchView}

/-- Every dispatch request has an earlier one of its order, or begins with a readiness that was
read. -/
def Requested (reads : CourierReads) (s t : CourierStore) : Prop :=
  ∀ request ∈ t.dispatch.requests.rows,
    (∃ earlier ∈ s.dispatch.requests.rows, earlier.orderId = request.orderId) ∨
      ∃ messageId, ∃ source ∈ readySource? reads s messageId,
        source.ready = true ∧ source.orderId = request.orderId

theorem Requested.of_same (same : t.dispatch.requests.rows = s.dispatch.requests.rows) :
    Requested reads s t := by
  intro request listed
  rw [same] at listed
  exact .inl ⟨request, listed, rfl⟩

theorem Requested.of_moved {old : CourierDispatchRequest}
    {change : CourierDispatch.Models.RequestChange}
    {eventType : CourierDispatch.Models.DispatchEventType}
    (moved : Moved draws s t old change eventType) : Requested reads s t := by
  intro request listed
  rw [moved.requests, Table.mem_replaced] at listed
  obtain ⟨rfl, _⟩ | ⟨listed, _⟩ := listed
  · exact .inl ⟨old, Table.mem_of_find moved.stored, rfl⟩
  · exact .inl ⟨request, listed, rfl⟩

theorem Requested.of_effect {action : CourierDispatch.Models.CourierDispatchAction}
    (effect : DispatchEffect draws (some action) s t) : Requested reads s t := by
  cases effect with
  | idle requests => exact .of_same (by rw [requests])
  | admitted acts => cases acts
  | offered acts old courierId expiresAt time waiting moved => exact .of_moved moved
  | accepted acts old offer time offered active found standing moved => exact .of_moved moved
  | offerClosed acts old offer state actorId reason change eventType offered active found
      standing closes changes unaccepted moved => exact .of_moved moved
  | released acts old assignment reason time assigned active found standing custody moved =>
    exact .of_moved moved
  | cancelled acts old time open_ custody moved => exact .of_moved moved
  | concluded acts old time waiting moved => exact .of_moved moved

theorem consumeReady_requested {policy : CourierDispatch.Models.DispatchPolicy}
    {messageId orderId merchantId : Uuid} {time : Instant}
    (ran : consumeReady policy draws reads messageId orderId merchantId time s =
      .ok (view, t)) : Requested reads s t := by
  unfold consumeReady at ran
  simp only [↓steps_ok, whenSome_ok, ↓putDispatch_bind_ok, ↓recordEvent_bind_ok,
    ↓recordEvidence_bind_ok, required_ok, Table.insert?_eq_some]
    at ran
  obtain ⟨source, found, ⟨order, _, ready⟩, ⟨requests, rows, _, _, _, _, _, rfl⟩ |
    ⟨_, _, _, _, rfl⟩⟩ := ran
  · intro request listed
    rw [show requests.rows = _ from rows] at listed
    obtain earlier | rfl := (mem_appended rfl).1 listed
    · exact .inl ⟨request, earlier, rfl⟩
    · exact .inr ⟨messageId, source, found, ready, order⟩
  · exact .of_same rfl

theorem consumeMerchantReady_requested {request : ReadyRequest}
    (ran : CourierDispatch.Application.consumeMerchantReady config draws reads subject request
      s = .ok (view, t)) : Requested reads s t := by
  unfold CourierDispatch.Application.consumeMerchantReady CourierDispatch.Application.utcTime at ran
  simp only [↓guards_ok, ↓utc_bind_ok] at ran
  obtain ⟨_, _, _, _, ran⟩ := ran
  obtain ⟨result, _, consumed, ran⟩ := bind_ok.1 ran
  obtain ⟨audit, ran⟩ := appendAudit_bind_ok ran
  obtain ⟨_, rfl⟩ := pure_ok.1 ran
  have requested := consumeReady_requested consumed
  exact requested

theorem dispatchCommand_requested {command : DispatchCommand}
    (ran : command.body config draws reads subject s = .ok (view, t)) : Requested reads s t := by
  have effect := dispatchCommand_effect ran
  cases command with
  | consumeMerchantReady => exact consumeMerchantReady_requested ran
  | offerCourier => exact .of_effect effect
  | command => exact .of_effect effect
  | authorityCommand => exact .of_effect effect

theorem call_requested (config : CourierConfig) (store : CourierStore) (call : CourierCall) :
    Requested call.reads store (courierStep config store (.call call)) := by
  obtain same | ⟨draws, reads, subject, command, view, calls, ran⟩ :=
    dispatch_step config store (.call call)
  · exact .of_same (by rw [same])
  · cases calls
    exact dispatchCommand_requested ran

end

section

variable {config : ReadyConfig} {store : ReadyStore} {move : ReadyMove} {s t : CourierStore}
  {messageId orderId : Uuid}

/-- No readiness is announced outside the canonical preparations. -/
def Unannounced (store : CourierStore) : Prop :=
  ∀ message ∈ store.outbox.rows, message.eventType ≠ .preparationReady

theorem Unannounced.of_stays {τ : Type} {part : CourierStore → τ}
    {own : OutboxEventType → Prop}
    (unannounced : Unannounced s) (stays : Stays part own s t)
    (apart : ¬ own .preparationReady) : Unannounced t := by
  intro message listed announces
  obtain ⟨messages, rows, own⟩ := stays.sent
  rw [rows] at listed
  obtain earlier | sent := List.mem_append.1 listed
  · exact unannounced message earlier announces
  · exact apart (announces ▸ own message sent)

abbrev OrderStays := Stays besideOrders fun eventType => eventType = .orderCreated

theorem orderPlaced_stays {config : CourierConfig} {store : CourierStore} {order : Order} :
    OrderStays store (courierStep config store (.orderPlaced order)) := by
  refine commit_related _ store (.silent rfl rfl) fun u t ran => ?_
  simp only [placeOrder, ↓steps_ok] at ran
  obtain ⟨orders, _, rfl⟩ := ran
  exact .silent rfl rfl

theorem orderCreated_stays {config : CourierConfig} {store : CourierStore} {time : Instant} :
    OrderStays store (courierStep config store (.orderMessage .created messageId orderId time)) :=
  commit_stays store (appendMessage_stays (fun _ _ => rfl) rfl)

theorem courierCall_unannounced {config : CourierConfig} {store : CourierStore} {call : CourierCall}
    (unannounced : Unannounced store) : Unannounced (courierStep config store (.call call)) := by
  obtain ⟨draws, reads, subject, command⟩ := call
  cases command with
  | dispatch command =>
    refine unannounced.of_stays
      (commit_stays store (dispatchCommand_stays config draws reads subject command)) ?_
    rintro ⟨_, type⟩
    cases type
  | pickup command =>
    refine unannounced.of_stays
      (commit_stays store (pickupCommand_stays config draws reads subject command)) ?_
    rintro (⟨_, type⟩ | ⟨_, type⟩) <;> cases type
  | custody command =>
    refine unannounced.of_stays
      (commit_stays store (custodyCommand_stays config draws reads subject command)) ?_
    rintro ⟨_, type⟩
    cases type
  | delivery command =>
    refine unannounced.of_stays
      (commit_stays store (deliveryCommand_stays config draws subject command)) ?_
    rintro ⟨_, type⟩
    cases type

/-- The order of every dispatch has its custody accepted, or is ready. -/
structure Backed (store : ReadyStore) : Prop where
  unannounced : Unannounced store.courier
  backed : ∀ request ∈ store.courier.dispatch.requests.rows,
    IsAccepted store.courier request.orderId ∨ IsReady store request.orderId

theorem ready_of_value {state : CanonicalPreparationState}
    (ready : state.value = "ready_for_pickup") : state = .ready := by
  cases state with
  | ready => rfl
  | pending => exact absurd ready (by decide)
  | preparing => exact absurd ready (by decide)
  | unable => exact absurd ready (by decide)

theorem Backed.ready_of_source (backed : Backed store) {reads : CourierReads}
    {source : ReadySource}
    (reading : reads.preparation = sourceOf store.preparation)
    (found : readySource? reads store.courier messageId = some source)
    (ready : source.ready = true) : IsReady store source.orderId := by
  unfold readySource? at found
  rw [reading] at found
  cases joined : sourceOf store.preparation messageId with
  | some prepared =>
    simp only [joined, Option.some.injEq] at found
    obtain rfl := found
    simp only [sourceOf, Option.bind_eq_some_iff, Option.map_eq_some_iff] at joined
    obtain ⟨message, _, row, held, rfl⟩ := joined
    have reads := (of_decide_eq_true ready).2
    exact ⟨row, Table.mem_of_find held, rfl, ready_of_value reads⟩
  | none =>
    simp only [joined, Option.bind_eq_some_iff, Option.map_eq_some_iff] at found
    obtain ⟨message, sent, order, _, rfl⟩ := found
    have announced := of_decide_eq_true ready
    exact absurd announced (backed.unannounced message (Table.mem_of_find sent))

theorem IsAccepted.of_accepts (accepted : IsAccepted s orderId) (accepts : Accepts s t) :
    IsAccepted t orderId := by
  obtain ⟨custody, held, order, taken⟩ := accepted
  exact ⟨custody, accepts.kept custody held taken, order, taken⟩

theorem Backed.of_orders (backed : Backed store) {courier : CourierStore}
    (stays : OrderStays store.courier courier) : Backed { store with courier } := by
  have accepts : Accepts store.courier courier :=
    .of_same (congrArg (fun part => part.2.2.1) stays.same)
  refine ⟨backed.unannounced.of_stays stays nofun, fun request listed => ?_⟩
  rw [show courier.dispatch = store.courier.dispatch from congrArg Prod.fst stays.same] at listed
  exact (backed.backed request listed).imp (fun accepted => accepted.of_accepts accepts) id

theorem Backed.of_preparation (backed : Backed store) (call : CanonicalCall)
    (uncorrected : Uncorrected store (.preparation call)) :
    Backed (readyStep config store (.preparation call)) := by
  refine ⟨backed.unannounced, fun request listed => ?_⟩
  obtain accepted | ⟨row, held, order, ready⟩ := backed.backed request listed
  · exact .inl accepted
  obtain stays | ⟨_, ran⟩ :=
    commit_cases (call.body config.preparation) store.preparation
  · refine .inr ⟨row, ?_, order, ready⟩
    show row ∈ (commit (call.body config.preparation) store.preparation).cases.rows
    rw [stays]
    exact held
  · by_cases apart : call.corrected? = some row.preparationCaseId
    · left
      cases call with
      | command context input =>
        simp only [CanonicalCall.corrected?, corrected?, Option.ite_none_right_eq_some,
          Option.some.injEq] at apart
        obtain ⟨corrects, named⟩ := apart
        have found : store.preparation.cases.find input.preparationCaseId = some row := by
          rw [named]
          exact Table.find_of_mem held
        have accepted := uncorrected corrects row found ready request listed order.symm
        rw [order] at accepted
        exact accepted
      | admission => cases apart
      | observation => cases apart
    · exact .inr ⟨row, call_stays ran row held ready apart, order, ready⟩

theorem Backed.of_courier (backed : Backed store) (call : CourierCall) :
    Backed (readyStep config store (.courier call)) := by
  have accepts := courierStep_accepts config.courier store.courier
    (.call (readingPreparation store.preparation call))
  have requested := call_requested config.courier store.courier
    (readingPreparation store.preparation call)
  refine ⟨courierCall_unannounced backed.unannounced, fun request listed => ?_⟩
  obtain ⟨earlier, held, order⟩ | ⟨messageId, source, found, ready, order⟩ :=
    requested request listed
  · rw [← order]
    exact (backed.backed earlier held).imp (fun accepted => accepted.of_accepts accepts) id
  · have reading : (readingPreparation store.preparation call).reads.preparation =
        sourceOf store.preparation := rfl
    rw [← order]
    exact .inr (backed.ready_of_source reading found ready)

/-- Every move that corrects no readiness behind a dispatch leaves every dispatch backed. -/
theorem Backed.step (backed : Backed store) (uncorrected : Uncorrected store move) :
    Backed (readyStep config store move) := by
  cases move with
  | preparation call => exact backed.of_preparation call uncorrected
  | courier call => exact backed.of_courier call
  | orderPlaced => exact backed.of_orders orderPlaced_stays
  | orderCreated => exact backed.of_orders orderCreated_stays

theorem Backed.ready (backed : Backed store) {custody : CustodyRecord}
    (held : custody ∈ (readyStep config store move).courier.custody.records.rows)
    (accepted : custody.state = .accepted)
    (new : custody ∉ store.courier.custody.records.rows) : IsReady store custody.orderId := by
  have accepts : Accepts store.courier (readyStep config store move).courier := by
    cases move with
    | preparation => exact .of_same rfl
    | courier => exact courierStep_accepts _ _ _
    | orderPlaced order =>
      exact courierStep_accepts config.courier store.courier (.orderPlaced order)
    | orderCreated messageId orderId time =>
      exact courierStep_accepts config.courier store.courier
        (.orderMessage .created messageId orderId time)
  obtain ⟨unaccepted, request, listed, order⟩ := accepts.fresh custody held accepted new
  rw [← order] at unaccepted ⊢
  exact (backed.backed request listed).resolve_left unaccepted

theorem Backed.empty : Backed {} := by
  refine ⟨?_, ?_⟩
  · intro message listed
    cases listed
  · intro request listed
    cases listed

end

/-- While no readiness is corrected of an order with a dispatch, custody is accepted of ready
orders only, and an order has one dispatch at most. -/
theorem readyLaw_of_uncorrected (config : ReadyConfig) (moves : List ReadyMove)
    (uncorrected : Along (readyStep config) Uncorrected {} moves) : ReadyLaw config moves := by
  have backed : ∀ n, Backed (storeAt config moves n) := by
    intro n
    have start : Backed (storeAt config moves 0) := Backed.empty
    exact run_invariant_between (fun _ _ kept inv => inv.step kept) uncorrected (Nat.zero_le n)
      start
  refine ⟨?_, ?_⟩
  · intro n custody stored accepted new
    cases taken : moves[n]? with
    | none =>
      have finished : moves.length ≤ n := List.getElem?_eq_none_iff.1 taken
      refine absurd stored ?_
      unfold storeAt at new ⊢
      rw [List.take_of_length_le finished] at new
      rwa [List.take_of_length_le (Nat.le_succ_of_le finished)]
    | some move =>
      unfold storeAt at stored
      rw [run_take_succ taken] at stored
      exact (backed n).ready stored accepted new
  · intro n first listed second member same
    exact (storeAt config moves n).courier.dispatch.requests.eq_of_clash listed member
      (.inr ⟨fun row => some row.orderId, by simp, rfl, congrArg some same⟩)

section

def sampleSystem : ReadyConfig where
  preparation :=
    { policy := { version := 1, maximumEstimateSeconds := 3600 }
      hash := fun payload => "preparation " ++ payload.action.value }
  courier := CourierDispatch.Consistency.sampleConfig

def sampleCanonicalContext (minute messageId : Nat) : CanonicalContext where
  subject := ⟨50, .merchant⟩
  time := .utc (60000000 * minute)
  correlationId := 61
  causationId := 62
  caseId := 81
  messageId
  auditId := 5000 + minute
  grants := fun _ _ _ => true
  merchants := fun merchantId =>
    if merchantId = 40 then
      some { ownerIdentityId := 50, state := .approved, displayName := "merchant", version := 1 }
    else none
  staffAuthority := fun _ _ _ _ => none

def samplePreparation : ReadyMove :=
  .preparation (.admission (sampleCanonicalContext 1 4001)
    (some { decisionCaseId := 71, evidenceId := 72, orderId := 10, orderVersion := 2
            merchantId := 40, merchantLocationId := 91 }))

def sampleStep (minute messageId : Nat) (version : Int) (action : CanonicalPreparationAction) :
    ReadyMove :=
  .preparation (.command (sampleCanonicalContext minute messageId)
    { preparationCaseId := 81, expectedVersion := version, action
      estimateSeconds := if action = .start then some 600 else none
      failureReason := none
      correctionReason := if action = .correctReadiness then some .premature else none
      idempotencyKey := "preparation-key-" ++ toString minute })

def sampleMove : CourierMove → ReadyMove
  | .call call => .courier call
  | .orderPlaced order => .orderPlaced order
  | .orderMessage _ messageId orderId time => .orderCreated messageId orderId time

open CourierDispatch.Consistency (sampleCall sampleStaff sampleCourier sampleTime sampleOffer
  sampleAccept)

def sampleOwner : AuthorizationSubject := ⟨50, .merchant⟩

def samplePickup (n : Nat) (version : Int) (action : CourierPickupAction) :
    CourierPickup.Application.PickupRequest where
  pickupId := 401
  expectedVersion := version
  action
  idempotencyKey := "pickup-key-" ++ toString n
  time := sampleTime n
  reason := none
  correlationId := none
  causationId := none

def sampleCustody (n : Nat) (version : Int) (action : CustodyAction) :
    Custody.Application.CustodyRequest where
  custodyId := 706
  expectedVersion := version
  action
  idempotencyKey := "custody-key-" ++ toString n
  time := sampleTime n
  code := if action = .verify then some "706:seal-key" else none
  method := if action = .verify then some .qr else none
  merchantId := some 40

def sampleReadied : List ReadyMove :=
  [samplePreparation, sampleStep 2 4002 1 .start, sampleStep 3 11 2 .markReady] ++
    [CourierMove.orderPlaced { orderId := 10, merchantId := 40, customerIdentityId := 70 },
     sampleCall 1 sampleStaff (.dispatch (.consumeMerchantReady
      { messageId := 11, orderId := 10, merchantId := 40,
        eventType := "commerce.preparation.ready_for_pickup", time := sampleTime 1 })),
     sampleOffer 2 1, sampleAccept 3 2,
     sampleCall 4 sampleCourier (.pickup (.consumeAssignment 303 101 10 (sampleTime 4))),
     sampleCall 5 sampleCourier (.pickup (.courierCommand (samplePickup 5 1 .startTravel) .none)),
     sampleCall 6 sampleCourier (.pickup (.courierCommand (samplePickup 6 2 .markArrived) .none)),
     sampleCall 7 sampleOwner
      (.pickup (.merchantAcknowledge 40 (samplePickup 7 3 .acknowledgeArrival)))].map sampleMove

def sampleTaken : List ReadyMove :=
  [sampleCall 8 sampleOwner (.custody (.sealCustody
    { merchantId := 40, custodyId := 706, expectedVersion := 1, idempotencyKey := "seal-key",
      time := sampleTime 8 })),
   sampleCall 9 sampleCourier (.custody (.command (sampleCustody 9 2 .verify))),
   sampleCall 10 sampleOwner (.custody (.command (sampleCustody 10 3 .release))),
   sampleCall 11 sampleCourier (.custody (.command (sampleCustody 11 4 .accept)))].map sampleMove

def sampleCorrection : ReadyMove := sampleStep 4 4004 3 .correctReadiness

theorem readyLaw_sampleTaken :
    Along (readyStep sampleSystem) Uncorrected {}
        (sampleReadied ++ sampleTaken ++ [sampleCorrection]) ∧
      IsAccepted (storeAt sampleSystem (sampleReadied ++ sampleTaken) 15).courier 10 ∧
      ReadyLaw sampleSystem (sampleReadied ++ sampleTaken ++ [sampleCorrection]) := by
  have uncorrected : Along (readyStep sampleSystem) Uncorrected {}
      (sampleReadied ++ sampleTaken ++ [sampleCorrection]) := by
    decide +kernel
  refine ⟨uncorrected, ?_, readyLaw_of_uncorrected sampleSystem _ uncorrected⟩
  decide +kernel

def sampleWithdrawn : List ReadyMove := sampleReadied ++ sampleCorrection :: sampleTaken

/-- A readiness that is corrected behind the dispatch does not stop the custody of the order. -/
theorem custody_of_unready_order :
    ¬ ∀ (config : ReadyConfig) (moves : List ReadyMove), ReadyLaw config moves := by
  intro law
  have accepted :
      ∃ custody ∈ (storeAt sampleSystem sampleWithdrawn (15 + 1)).courier.custody.records.rows,
        custody.state = .accepted ∧
          custody ∉ (storeAt sampleSystem sampleWithdrawn 15).courier.custody.records.rows ∧
          ¬ IsReady (storeAt sampleSystem sampleWithdrawn 15) custody.orderId := by
    decide +kernel
  obtain ⟨custody, stored, taken, new, unready⟩ := accepted
  exact unready ((law sampleSystem sampleWithdrawn).ready 15 custody stored taken new)

end

end Ayo.Custody.ReadyOrders
