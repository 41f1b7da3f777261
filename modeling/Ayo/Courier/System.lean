/- digest: The courier components as one system, and what each leaves alone of the others. -/

import Ayo.CourierDispatch.Application
import Ayo.CourierPickup.Application
import Ayo.DeliveryVerification.Application

namespace Ayo.Courier.System

open Kernel.UnitOfWork Core.Values
open Core.Authorization (AuthorizationSubject)
open Store
open CourierDispatch.Application (DispatchCommand)
open CourierPickup.Application (PickupCommand)
open Custody.Application (CustodyCommand)
open DeliveryVerification.Application (DeliveryCommand)

inductive CourierCommand where
  | dispatch (command : DispatchCommand)
  | pickup (command : PickupCommand)
  | custody (command : CustodyCommand)
  | delivery (command : DeliveryCommand)

structure CourierCall where
  draws : Draws
  reads : CourierReads
  subject : AuthorizationSubject
  command : CourierCommand

inductive OrderMessageType where
  | created
  | preparationReady
  | other (name : String)

def OrderMessageType.eventType : OrderMessageType → OutboxEventType
  | .created => .orderCreated
  | .preparationReady => .preparationReady
  | .other name => .elsewhere name

inductive CourierMove where
  | call (call : CourierCall)
  | orderPlaced (order : Order)
  | orderMessage (messageType : OrderMessageType) (messageId orderId : Uuid) (time : Instant)

def placeOrder (order : Order) : CourierTransaction Unit := do
  let store ← get
  let orders ← demand (store.orders.insert? order) (.integrity "commerce_orders")
  put { store with orders }

/-- One unit of work of one of the components. -/
def courierStep (config : CourierConfig) (store : CourierStore) : CourierMove → CourierStore
  | .call ⟨draws, reads, subject, .dispatch command⟩ =>
    commit (command.body config draws reads subject) store
  | .call ⟨draws, reads, subject, .pickup command⟩ =>
    commit (command.body config draws reads subject) store
  | .call ⟨draws, reads, subject, .custody command⟩ =>
    commit (command.body config draws reads subject) store
  | .call ⟨draws, _, subject, .delivery command⟩ =>
    commit (command.body config draws subject) store
  | .orderPlaced order => commit (placeOrder order) store
  | .orderMessage messageType messageId orderId time =>
    commit (appendMessage
        { messageId, orderId, eventType := messageType.eventType, occurredAt := time }) store

end Ayo.Courier.System

/-! What the commands of one courier component leave alone of the others, and the types of the
messages that they send. -/

namespace Ayo.Courier.Frames

open Kernel.UnitOfWork Kernel.KeyedTable Kernel.Related Core.Values Core.Authorization
open PersistenceKernel.Audit (AuditEvent)
open Store Courier.System
open CourierDispatch.Application (DispatchCommand)
open CourierPickup.Application (PickupCommand)
open Custody.Application (CustodyCommand)
open DeliveryVerification.Application (DeliveryCommand)

variable {τ α : Type}

structure Stays (part : CourierStore → τ) (own : OutboxEventType → Prop)
    (before after : CourierStore) : Prop where
  same : part after = part before
  sent : ∃ messages, after.outbox.rows = before.outbox.rows ++ messages ∧
    ∀ message ∈ messages, own message.eventType

section

variable {part : CourierStore → τ} {own : OutboxEventType → Prop}

theorem Stays.silent {s t : CourierStore} (same : part t = part s)
    (outbox : t.outbox = s.outbox) : Stays part own s t :=
  ⟨same, [], by rw [outbox, List.append_nil], by simp⟩

instance : IsPreorder CourierStore (Stays part own) where
  refl _ := .silent rfl rfl
  trans := by
    intro r s t first second
    obtain ⟨same, messages, rows, own⟩ := first
    obtain ⟨next, others, appended, also⟩ := second
    refine ⟨next.trans same, messages ++ others, ?_, ?_⟩
    · rw [appended, rows, List.append_assoc]
    · intro message member
      rcases List.mem_append.1 member with earlier | later
      · exact own message earlier
      · exact also message later

theorem appendMessage_stays (apart : ∀ s outbox, part { s with outbox } = part s)
    {message : OutboxMessage} (sent : own message.eventType) :
    Relates (Stays part own) (appendMessage message) := by
  intro s u t ran
  simp only [appendMessage, ↓steps_ok, Table.insert?_eq_some] at ran
  obtain ⟨outbox, rows, rfl⟩ := ran
  refine ⟨apart s outbox, [message], rows, ?_⟩
  intro other mem
  obtain rfl := List.mem_singleton.1 mem
  exact sent

theorem appendAudit_stays (apart : ∀ s audit, part { s with audit } = part s)
    (event : AuditEvent) : Relates (Stays part own) (appendAudit event) := by
  intro s u t ran
  simp only [appendAudit, ↓require_bind_ok] at ran
  obtain ⟨_, ran⟩ := ran
  obtain ⟨_, _, appended, finished⟩ := bind_ok.1 ran
  obtain ⟨audit, _, rfl⟩ := within_ok.1 appended
  obtain ⟨_, rfl⟩ := pure_ok.1 finished
  exact .silent (apart s audit) rfl

theorem utc_readOnly (component : String) (time : DateTime) : ReadOnly (utc component time) :=
  .requires <| .pure

theorem recast_stays {body : CourierTransaction α} (related : Relates (Stays part own) body)
    (failure : Failure) : Relates (Stays part own) (recast body failure) :=
  fun s a t ran => related s a t (recast_ok.1 ran)

end

section

open CourierDispatch.Models CourierDispatch.Repository CourierDispatch.Application

section

structure DispatchWriters (R : CourierStore → CourierStore → Prop) : Prop where
  put : ∀ change : DispatchStore → DispatchStore,
    (∀ dispatches, (change dispatches).idempotency = dispatches.idempotency) →
      Relates R (putDispatch change)
  message : ∀ (event : DispatchEventType) (message : OutboxMessage),
    message.eventType = .courierDispatch event → Relates R (appendMessage message)
  audit : ∀ event : AuditEvent, Relates R (appendAudit event)
  reserve : ∀ (hash : Payload → Digest) (actorId dispatchId : Uuid) (key : String)
    (action : CourierDispatchAction) (expectedVersion : Int) (time : DateTime),
    Relates R (reserve hash actorId dispatchId key action expectedVersion time)
  transition : ∀ (draws : Draws) (current : CourierDispatchRequest) (change : RequestChange)
    (actorId : Uuid) (key : String) (operation : CourierDispatchAction) (step : StepRecord),
    Relates R (transition draws current change actorId key operation step)

variable {dispatchId : Uuid}

theorem requiredDispatch_readOnly : ReadOnly (required dispatchId) :=
  .bind .get fun _ => .demands fun _ => .pure

variable {R : CourierStore → CourierStore → Prop} [IsPreorder CourierStore R]
  {config : CourierConfig} {draws : Draws} {reads : CourierReads} {subject : AuthorizationSubject}
  {time instant : Instant} {value old : CourierDispatchRequest}
  {offerId assignmentId actorId : Uuid} {reason : String} (writers : DispatchWriters R)

include writers

theorem DispatchWriters.recordEvent {fromState : Option CourierDispatchState} {step : StepRecord} :
    Relates R (recordEvent draws value fromState step time) :=
  .bind (writers.put _ fun _ => rfl) fun _ => writers.message _ _ rfl

theorem DispatchWriters.consumeReady {policy : DispatchPolicy}
    {messageId orderId merchantId : Uuid} :
    Relates R (consumeReady policy draws reads messageId orderId merchantId time) :=
  .bind .get fun _ => .demands fun _ => .requires <| .whenSome
      (fun _ => .bind (writers.put _ fun _ => rfl) fun _ =>
        .bind writers.recordEvent fun _ =>
        .bind (writers.put _ fun _ => rfl) fun _ => .of_readOnly requiredDispatch_readOnly)
      (.demands fun _ => .pure)

theorem DispatchWriters.resolveOffer {condition : CourierOffer → Prop}
    [DecidablePred condition] {state : CourierOfferState} :
    Relates R (resolveOffer offerId condition state actorId reason time) :=
  .bind .get fun _ => .demands fun _ => .demands fun _ =>
    .bind (writers.put _ fun _ => rfl) fun _ => .pure

theorem DispatchWriters.closeAssignment {state : CourierAssignmentState} {failure : Failure} :
    Relates R (closeAssignment assignmentId state reason time failure) :=
  .bind .get fun _ => .demands fun _ => .demands fun _ =>
    .bind (writers.put _ fun _ => rfl) fun _ => .pure

theorem DispatchWriters.authorityTransition {operation : CourierDispatchAction}
    {action : AuthorityAction} :
    Relates R (authorityTransition draws old operation action) := by
  have throws : ∀ failure : Failure, Relates R
      (throw failure : CourierTransaction MerchantCourierDispatchView) :=
    fun _ => .of_readOnly .throw
  refine .requires ?_
  cases operation with
  | expire | revoke =>
    exact .demands fun _ => .bind writers.resolveOffer fun _ =>
      writers.transition _ _ _ _ _ _ _
  | release =>
    exact .demands fun _ => .bind writers.closeAssignment fun _ =>
      writers.transition _ _ _ _ _ _ _
  | cancel =>
    exact .bind
      (.bind (.whenSome (fun _ => .bind writers.resolveOffer fun _ => .pure)
        .pure) fun _ =>
          .whenSome (fun _ => .bind writers.closeAssignment fun _ => .pure) .pure)
      fun _ => writers.transition _ _ _ _ _ _ _
  | concludeUnfulfilled => exact writers.transition _ _ _ _ _ _ _
  | offer => exact throws _
  | accept => exact throws _
  | decline => exact throws _

theorem DispatchWriters.reserving {config : CourierConfig}
    {subject : AuthorizationSubject} {key : String}
    {action : CourierDispatchAction} {expected : Int} {time : DateTime}
    {fresh : CourierDispatchRequest → CourierTransaction MerchantCourierDispatchView}
    (goesOn : ∀ old, Relates R (fresh old)) :
    Relates R (reserving config subject dispatchId key action expected time fresh) :=
  .bind (.of_readOnly (.bind .get fun _ => .pure)) fun _ => .demands fun _ =>
    .bind (writers.reserve _ _ _ _ _ _ _) fun _ => .whenSome (fun _ => .pure)
      (.requires <| goesOn _)

theorem DispatchWriters.makeOffer {request : OfferRequest}
    {evaluated : List CourierEligibilityEvidence} :
    Relates R (makeOffer config draws subject request evaluated instant old) :=
  .demands fun _ =>
    .bind (.bind .get fun _ => .demands fun _ =>
      .bind (writers.put _ fun _ => rfl) fun _ => writers.transition _ _ _ _ _ _ _) fun _ =>
    .bind (writers.audit _) fun _ => .pure

theorem DispatchWriters.respond {request : ResponseRequest} :
    Relates R (respond draws subject request old) := by
  refine .demands fun _ => .requires <| .bind (.of_readOnly (utc_readOnly _ _)) fun _ => .ite ?_ ?_
  · exact .bind (.demands fun _ => .bind writers.resolveOffer fun _ =>
      .bind (.bind .get fun _ => .demands fun _ => writers.put _ fun _ => rfl) fun _ =>
        writers.transition _ _ _ _ _ _ _) fun _ => .bind (writers.audit _) fun _ => .pure
  · exact .bind (.demands fun _ => .bind writers.resolveOffer fun _ =>
      writers.transition _ _ _ _ _ _ _) fun _ => .bind (writers.audit _) fun _ => .pure

theorem DispatchWriters.actOn {request : AuthorityRequest} :
    Relates R (actOn draws subject request instant old) :=
  .bind (.bind .get fun _ => .require) fun _ => .demands fun _ =>
    .bind writers.authorityTransition fun _ => .bind (writers.audit _) fun _ => .pure

theorem DispatchWriters.command (config : CourierConfig)
    (draws : Draws) (reads : CourierReads) (subject : AuthorizationSubject)
    (command : DispatchCommand) : Relates R (command.body config draws reads subject) := by
  cases command with
  | consumeMerchantReady =>
    exact .requires <| .bind (.of_readOnly (utc_readOnly _ _)) fun _ =>
      .bind (.of_readOnly requirePermission_readOnly) fun _ =>
      .bind writers.consumeReady fun _ =>
      .bind (writers.audit _) fun _ => .pure
  | offerCourier =>
    exact .bind (.of_readOnly (utc_readOnly _ _)) fun _ =>
      .bind (.requires <| .requires <| .pure) fun _ =>
      .bind (.of_readOnly requirePermission_readOnly) fun _ =>
      writers.reserving fun _ => writers.makeOffer
  | command =>
    exact .requires <| .requires <| writers.reserving fun _ => writers.respond
  | authorityCommand =>
    exact .requires <| .bind (.of_readOnly (utc_readOnly _ _)) fun _ =>
      .bind (.of_readOnly requirePermission_readOnly) fun _ =>
      writers.reserving fun _ => writers.actOn

end

def besideDispatch (store : CourierStore) :=
  (store.orders, store.pickup, store.custody, store.delivery)

def OfDispatch (eventType : OutboxEventType) : Prop := ∃ event, eventType = .courierDispatch event

abbrev DispatchStays := Stays besideDispatch OfDispatch

theorem putDispatch_stays {change : DispatchStore → DispatchStore} :
    Relates DispatchStays (putDispatch change) :=
  .get_bind fun _ _ _ ran => by
    obtain rfl := put_ok.1 ran
    exact .silent rfl rfl

theorem dispatchWriters_stays : DispatchWriters DispatchStays where
  put _ _ := putDispatch_stays
  message event _ type := appendMessage_stays (fun _ _ => rfl) ⟨event, type⟩
  audit event := appendAudit_stays (fun _ _ => rfl) event
  reserve _ _ _ _ _ _ _ :=
    .bind .get fun _ => .whenSome (fun _ => .bind putDispatch_stays fun _ => .pure)
      (.demands fun _ => .requires <|
        .bind (.of_readOnly requiredDispatch_readOnly) fun _ => .requires <| .pure)
  transition _ _ _ _ _ _ _ :=
    .bind .get fun _ => .demands fun _ => .demands fun _ =>
      .bind putDispatch_stays fun _ =>
      .bind (.bind putDispatch_stays fun _ =>
        appendMessage_stays (fun _ _ => rfl) ⟨_, rfl⟩) fun _ =>
      .bind putDispatch_stays fun _ => .demands fun _ =>
      .bind putDispatch_stays fun _ => .of_readOnly requiredDispatch_readOnly

theorem dispatchCommand_stays (config : CourierConfig) (draws : Draws) (reads : CourierReads)
    (subject : AuthorizationSubject) (command : DispatchCommand) :
    Relates DispatchStays (command.body config draws reads subject) :=
  dispatchWriters_stays.command config draws reads subject command

end

section

open Custody.Models Custody.Repository Custody.Application

def besideCustody (store : CourierStore) :=
  (store.orders, store.dispatch, store.pickup, store.delivery)

def OfCustody (eventType : OutboxEventType) : Prop := ∃ event, eventType = .custody event

section

variable {part : CourierStore → τ} {own : OutboxEventType → Prop}
  (messages : ∀ s outbox, part { s with outbox } = part s)
  (tables : ∀ s custody, part { s with custody } = part s)
  (custodies : ∀ event, own (.custody event))

include tables in
theorem putCustody_stays (change : CustodyStore → CustodyStore) :
    Relates (Stays part own) (putCustody change) :=
  .get_bind fun _ _ _ ran => by
    obtain rfl := put_ok.1 ran
    exact .silent (tables _ _) rfl

theorem requiredCustody_readOnly {custodyId : Uuid} : ReadOnly (required custodyId) :=
  .bind .get fun _ => .demands fun _ => .pure

include messages tables custodies in
theorem recordCustody_stays (event : CustodyEvent) (messageId : Uuid) :
    Relates (Stays part own) (recordStep event messageId) :=
  .bind (putCustody_stays tables _) fun _ => appendMessage_stays messages (custodies _)

theorem requireBinding_readOnly {existing : Option CustodyRecord}
    {pickup : CourierPickup.Models.CourierPickupRecord} :
    ReadOnly (requireBinding existing pickup) :=
  .demands fun _ => .bind .get fun _ => .pure

variable {pickupId : Uuid}

theorem waitingPickup_readOnly : ReadOnly (waitingPickup pickupId) :=
  .bind .get fun _ => .demand

include messages tables custodies in
theorem activate_stays (draws : Draws) (pickupId actorIdentityId : Uuid) (time : Instant) :
    Relates (Stays part own) (activate draws pickupId actorIdentityId time) :=
  .bind (.of_readOnly waitingPickup_readOnly) fun _ => .bind .get fun _ =>
    .whenSome (fun _ => .bind (putCustody_stays tables _) fun _ =>
        .bind (recordCustody_stays messages tables custodies _ _) fun _ =>
          .of_readOnly requiredCustody_readOnly)
      (.of_readOnly requireBinding_readOnly)

theorem requireExisting_readOnly : ReadOnly (requireExistingForPickup pickupId) :=
  .bind waitingPickup_readOnly fun _ => .bind .get fun _ => .demands fun _ =>
    requireBinding_readOnly

end

abbrev CustodyStays := Stays besideCustody OfCustody

variable {draws : Draws} {old : CustodyRecord} {actorId : Uuid} {reads : CourierReads}
  {subject : AuthorizationSubject}

private theorem enterCustody_stays {target : CustodyState} {key : String} {time : Instant}
    {stamp : CustodyStamp} : Relates CustodyStays (enter draws old target actorId key time stamp) :=
  have writes : ∀ change, Relates CustodyStays (putCustody change) :=
    fun change => putCustody_stays (fun _ _ => rfl) change
  .bind .get fun _ => .demands fun _ => .demands fun _ =>
    .bind (writes _) fun _ =>
    .bind (recordCustody_stays (fun _ _ => rfl) (fun _ _ => rfl) (fun _ => ⟨_, rfl⟩) _ _) fun _ =>
    .demands fun _ => .bind (writes _) fun _ =>
    .of_readOnly requiredCustody_readOnly

theorem reserveCustody_stays {hash : Payload → Digest} {custodyId : Uuid} {key : String}
    {payload : Payload} {time : DateTime} :
    Relates CustodyStays (reserve hash actorId custodyId key payload time) :=
  .bind .get fun _ => .whenSome
    (fun _ => .bind (putCustody_stays (fun _ _ => rfl) _) fun _ => .pure)
    (.demands fun _ => .requires <|
      .bind (.of_readOnly requiredCustody_readOnly) fun _ => .requires <| .pure)

theorem requireMerchant_readOnly
    {merchantId : Uuid} : ReadOnly (requireMerchant reads subject merchantId) :=
  .demands fun _ => .requires <| .require

theorem requireCurrent_readOnly : ReadOnly (requireCurrentAssignment subject old) :=
  .bind .get fun _ => .demands fun _ => .requires <| .require

theorem admitCustody_readOnly {request : CustodyRequest} :
    ReadOnly (Custody.Application.checkAccess reads subject request old) :=
  .ite (.demands fun _ => .bind requireMerchant_readOnly fun _ => .require)
    (.requires <| requireCurrent_readOnly)

theorem sealCustody_stays {config : CourierConfig} {request : SealRequest} :
    Relates CustodyStays (sealCustody config draws reads subject request) :=
  .bind (.of_readOnly requireMerchant_readOnly) fun _ =>
    .bind (.bind .get fun _ => .pure) fun _ => .demands fun _ =>
    .bind reserveCustody_stays fun _ => .whenSome (fun _ => .pure)
      (.requires <| .demands fun _ =>
        .bind (.bind enterCustody_stays fun _ => .bind .get fun _ =>
            .demands fun _ => .bind (putCustody_stays (fun _ _ => rfl) _) fun _ =>
            .of_readOnly requiredCustody_readOnly) fun _ => .pure)

theorem custodyCommand_stays (config : CourierConfig) (draws : Draws) (reads : CourierReads)
    (subject : AuthorizationSubject) (command : CustodyCommand) :
    Relates CustodyStays (command.body config draws reads subject) := by
  cases command with
  | activateFromWaiting =>
    exact activate_stays (fun _ _ => rfl) (fun _ _ => rfl) (fun _ => ⟨_, rfl⟩) _ _ _ _
  | sealCustody => exact .bind sealCustody_stays fun _ => .pure
  | command =>
    refine .bind (.bind .get fun _ => .pure) fun _ => .demands fun _ =>
      .bind (.of_readOnly admitCustody_readOnly) fun _ =>
      .bind reserveCustody_stays fun _ => .whenSome (fun _ => .pure)
        (.requires <| .ite ?_ ?_)
    · exact .demands fun _ => .demands fun _ => .demands fun _ =>
        .bind .get fun _ => .demands fun _ => .demands fun _ =>
        .bind (putCustody_stays (fun _ _ => rfl) _) fun _ => enterCustody_stays
    · exact .requires <| .demands fun _ =>
        enterCustody_stays

end

section

open CourierPickup.Models CourierPickup.Idempotency CourierPickup.Repository
  CourierPickup.Application

def besidePickup (store : CourierStore) := (store.orders, store.dispatch, store.delivery)

def OfPickup (eventType : OutboxEventType) : Prop :=
  (∃ kind, eventType = .courierPickup kind) ∨ OfCustody eventType

abbrev PickupStays := Stays besidePickup OfPickup

theorem putPickup_stays {change : PickupStore → PickupStore} :
    Relates PickupStays (putPickup change) :=
  .get_bind fun _ _ _ ran => by
    obtain rfl := put_ok.1 ran
    exact .silent rfl rfl

variable {pickupId actorId : Uuid} {draws : Draws} {time instant : Instant}
  {bytes : StoredSnapshot → Nat} {action : CourierPickupAction} {old : CourierPickupRecord}
  {reads : CourierReads} {subject : AuthorizationSubject} {merchantId : Option Uuid}
  {request : PickupRequest} {supplied : SuppliedLocation} {config : CourierConfig}

theorem requiredPickup_readOnly : ReadOnly (required pickupId) :=
  .bind .get fun _ => .demands fun _ => .pure

theorem recordPickup_stays {value : CourierPickupRecord} {fromState : Option CourierPickupState}
    {step : PickupStep} : Relates PickupStays (record draws value fromState step) :=
  .bind putPickup_stays fun _ => appendMessage_stays (fun _ _ => rfl) (.inl ⟨_, rfl⟩)

theorem consumeAssignment_stays {messageId dispatchId orderId : Uuid} :
    Relates PickupStays
      (CourierPickup.Repository.consumeAssignment draws messageId dispatchId orderId time) :=
  .bind .get fun _ => .demands fun _ => .whenSome (fun _ => .requires <| .pure)
    (.demands fun _ => .bind putPickup_stays fun _ =>
      .bind recordPickup_stays fun _ => .of_readOnly requiredPickup_readOnly)

theorem answerOf_readOnly
    {reserved : PickupReservation} : ReadOnly (answerOf bytes pickupId reserved) :=
  .requires <| .demands fun _ => .requires <| .pure

theorem reservePickup_stays {key : String} {requestHash : Digest} :
    Relates PickupStays (reserve bytes actorId pickupId key action requestHash time) :=
  .bind .get fun _ => .whenSome (fun _ => .bind putPickup_stays fun _ => .pure)
    (.demands fun _ => .requires <| .bind (.of_readOnly answerOf_readOnly) fun _ => .pure)

theorem transitionPickup_stays {target : CourierPickupState} {key : String} {step : PickupStep}
    {location : Option LocationEvidence} :
    Relates PickupStays (transition bytes draws old target action actorId key step location) :=
  .requires <| .requires <| .bind .get fun _ =>
    .demands fun _ => .demands fun _ => .bind putPickup_stays fun _ =>
    .bind recordPickup_stays fun _ =>
    .bind (.whenSome (fun _ => .requires <| putPickup_stays) .pure) fun _ =>
    .bind (.of_readOnly requiredPickup_readOnly) fun _ => .demands fun _ =>
    .bind (.bind .get fun _ => .demands fun _ => .demands fun _ =>
      putPickup_stays) fun _ => .pure

theorem actingFor_readOnly : ReadOnly (actingFor reads subject merchantId old action) :=
  .whenSome (fun _ => .demands fun _ => .requires <| .requires <| .pure) (.requires <| .pure)

theorem requireCurrentPickup_readOnly : ReadOnly (requireCurrentAssignment old) :=
  .bind .get fun _ => .require

theorem admitPickup_readOnly :
    ReadOnly (CourierPickup.Application.checkAdmission reads subject request merchantId supplied
      instant old) := by
  refine .bind actingFor_readOnly fun _ => .bind hasPermission_readOnly
    fun _ => .requires <| .demands fun _ => .ite ?_ ?_
  · exact .bind requireCurrentPickup_readOnly fun _ => .requires <| .pure
  · exact .requires <| .pure

theorem proceedPickup_stays {permission : String} :
    Relates PickupStays (proceed config draws subject request supplied permission instant old) :=
  .bind .get fun _ => .requires <| .requires <|
    .bind (.ite (.of_readOnly requireCurrentPickup_readOnly) .pure) fun _ =>
    .bind (.whenSome (fun _ => .requires <| .require) .pure) fun _ =>
    .demands fun _ => .bind transitionPickup_stays fun _ =>
    .bind (appendAudit_stays (fun _ _ => rfl) _) fun _ =>
    .bind (.ite (.bind (recast_stays (activate_stays (fun _ _ => rfl) (fun _ _ => rfl)
      (fun _ => .inr ⟨_, rfl⟩) _ _ _ _) _) fun _ => .pure) .pure) fun _ => .pure

theorem commandOn_stays :
    Relates PickupStays (commandOn config draws reads subject request merchantId supplied) := by
  refine .bind (.of_readOnly (utc_readOnly _ _)) fun _ => .bind (.bind .get fun _ => .pure)
    fun _ => .demands fun _ =>
    .bind (.of_readOnly admitPickup_readOnly) fun _ =>
    .bind reservePickup_stays fun _ => .whenSome (fun _ => ?_)
      proceedPickup_stays
  refine .bind (.ite (.bind (recast_stays ?_ _) fun _ => .pure) .pure) fun _ => .pure
  exact .of_readOnly requireExisting_readOnly

theorem pickupCommand_stays (config : CourierConfig) (draws : Draws) (reads : CourierReads)
    (subject : AuthorizationSubject) (command : PickupCommand) :
    Relates PickupStays (command.body config draws reads subject) := by
  cases command with
  | consumeAssignment =>
    exact consumeAssignment_stays
  | courierCommand =>
    exact .requires <| .requires <| .requires <| commandOn_stays
  | merchantAcknowledge =>
    exact .requires <| commandOn_stays

end

section

open DeliveryVerification.Models DeliveryVerification.Repository DeliveryVerification.Application

def besideDelivery (store : CourierStore) :=
  (store.orders, store.dispatch, store.pickup, store.custody)

def OfDelivery (eventType : OutboxEventType) : Prop := ∃ state, eventType = .delivery state

abbrev DeliveryStays := Stays besideDelivery OfDelivery

theorem putDelivery_stays {change : DeliveryStore → DeliveryStore} :
    Relates DeliveryStays (putDelivery change) :=
  .get_bind fun _ _ _ ran => by
    obtain rfl := put_ok.1 ran
    exact .silent rfl rfl

variable {orderId deliveryId actorId messageId : Uuid} {ids : StepIds} {old : DeliveryRecord}
  {time : Instant} {draws : Draws}

theorem credentialOf_readOnly : ReadOnly (credentialOf orderId) :=
  .bind .get fun _ => .demand

theorem requiredDelivery_readOnly : ReadOnly (required deliveryId) :=
  .bind (.bind .get fun _ => .pure) fun _ => .demands fun _ =>
    .bind credentialOf_readOnly fun _ => .bind .get fun _ => .pure

theorem reserveDelivery_stays {hash : Payload → Digest} {key : String} {payload : Payload}
    {time : DateTime} : Relates DeliveryStays (reserve hash actorId deliveryId key payload time) :=
  .bind .get fun _ => .whenSome (fun _ => .bind putDelivery_stays fun _ => .pure)
    (.demands fun _ => .requires <|
      .bind (.of_readOnly requiredDelivery_readOnly) fun _ => .requires <| .pure)

theorem enterDelivery_stays {target : DeliveryState} {key : String} {stamp : DeliveryStamp} :
    Relates DeliveryStays (enter ids old target actorId key time stamp) :=
  .bind .get fun _ => .demands fun _ => .demands fun _ =>
    .bind putDelivery_stays fun _ =>
    .bind (.bind putDelivery_stays fun _ =>
      appendMessage_stays (fun _ _ => rfl) ⟨_, rfl⟩) fun _ =>
    .demands fun _ => .bind putDelivery_stays fun _ =>
    .of_readOnly requiredDelivery_readOnly

theorem transitionDelivery_stays {target : DeliveryState} {key : String} :
    Relates DeliveryStays (transition ids old target actorId key time) :=
  .demands fun _ => enterDelivery_stays

theorem createCredential_stays {codeHash : Digest} {expiresAt : Instant} :
    Relates DeliveryStays (createCredential draws messageId orderId codeHash expiresAt time) :=
  .bind .get fun _ => .demands fun _ =>
    .bind (.whenSome (fun _ => putDelivery_stays) .pure) fun _ =>
    .of_readOnly credentialOf_readOnly

theorem activateDelivery_stays {custodyId : Uuid} :
    Relates DeliveryStays (activate draws messageId custodyId orderId time) :=
  .bind .get fun _ => .demands fun _ => .demands fun _ =>
    .bind (.of_readOnly credentialOf_readOnly) fun _ =>
    .bind (.whenSome (fun _ => putDelivery_stays) .pure) fun _ => .bind .get fun _ =>
    .demands fun _ => .of_readOnly requiredDelivery_readOnly

theorem proceedDelivery_stays {config : CourierConfig}
    {subject : AuthorizationSubject} {request : DeliveryRequest} :
    Relates DeliveryStays (proceed config draws subject request old) := by
  refine .requires <| .ite ?_ ?_
  · exact .demands fun _ => .demands fun _ => .demands fun _ =>
      .bind .get fun _ => .demands fun _ => .demands fun _ =>
      .bind putDelivery_stays fun _ => enterDelivery_stays
  · exact .requires <| .demands fun _ =>
      .bind transitionDelivery_stays fun _ =>
      .ite (.demands fun _ => transitionDelivery_stays) .pure

theorem deliveryCommand_stays (config : CourierConfig) (draws : Draws)
    (subject : AuthorizationSubject) (command : DeliveryCommand) :
    Relates DeliveryStays (command.body config draws subject) := by
  cases command with
  | consumeOrderConfirmed =>
    exact .bind createCredential_stays fun _ => .pure
  | consumeCustodyAccepted =>
    exact .bind activateDelivery_stays fun _ => .pure
  | command =>
    exact .bind (.bind (.bind .get fun _ => .pure) fun _ => .demands fun _ =>
        .requires <| .bind reserveDelivery_stays fun _ =>
        .whenSome (fun _ => .pure) proceedDelivery_stays) fun _ => .pure
  | customerReceived =>
    exact .bind (.bind (.bind .get fun _ => .pure) fun _ => .demands fun _ => .bind .get fun _ =>
        .demands fun _ => .requires <|
        .bind reserveDelivery_stays fun _ => .whenSome (fun _ => .pure)
          (.requires <| .demands fun _ =>
            transitionDelivery_stays)) fun _ => .pure

end

section

variable (config : CourierConfig) (store : CourierStore) (move : CourierMove)

/-- A unit of work leaves the state as it was or ends where its command does, in either case with
the parts that the command leaves alone. -/
theorem commit_stays {part : CourierStore → τ} {own : OutboxEventType → Prop}
    {body : CourierTransaction α} (stays : Relates (Stays part own) body) :
    Stays part own store (commit body store) :=
  stays.commit store

def OfOrders (eventType : OutboxEventType) : Prop :=
  ∃ messageType : OrderMessageType, eventType = messageType.eventType

def besideOrders (store : CourierStore) :=
  (store.dispatch, store.pickup, store.custody, store.delivery)

inductive StepOf (after : CourierStore) : Prop where
  | dispatch (draws : Draws) (reads : CourierReads) (subject : AuthorizationSubject)
      (command : DispatchCommand) (calls : move = .call ⟨draws, reads, subject, .dispatch command⟩)
      (ends : after = commit (command.body config draws reads subject) store)
  | pickup (draws : Draws) (reads : CourierReads) (subject : AuthorizationSubject)
      (command : PickupCommand) (calls : move = .call ⟨draws, reads, subject, .pickup command⟩)
      (ends : after = commit (command.body config draws reads subject) store)
  | custody (draws : Draws) (reads : CourierReads) (subject : AuthorizationSubject)
      (command : CustodyCommand) (calls : move = .call ⟨draws, reads, subject, .custody command⟩)
      (ends : after = commit (command.body config draws reads subject) store)
  | delivery (draws : Draws) (reads : CourierReads) (subject : AuthorizationSubject)
      (command : DeliveryCommand)
      (calls : move = .call ⟨draws, reads, subject, .delivery command⟩)
      (ends : after = commit (command.body config draws subject) store)
  | orders (stays : Stays besideOrders OfOrders store after)

theorem courierStep_of : StepOf config store move (courierStep config store move) := by
  cases move with
  | call call =>
    obtain ⟨draws, reads, subject, command⟩ := call
    cases command with
    | dispatch command => exact .dispatch draws reads subject command rfl rfl
    | pickup command => exact .pickup draws reads subject command rfl rfl
    | custody command => exact .custody draws reads subject command rfl rfl
    | delivery command => exact .delivery draws reads subject command rfl rfl
  | orderPlaced =>
    refine .orders (commit_related _ store (.silent rfl rfl) fun u t ran => ?_)
    simp only [placeOrder, ↓steps_ok] at ran
    obtain ⟨orders, _, rfl⟩ := ran
    exact .silent rfl rfl
  | orderMessage messageType =>
    exact .orders (commit_stays store (appendMessage_stays (fun _ _ => rfl) ⟨messageType, rfl⟩))

end
end Ayo.Courier.Frames
