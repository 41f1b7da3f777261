/- digest: What each successful courier dispatch command does to the database. -/

import Ayo.Courier.System

namespace Ayo.CourierDispatch.Effects

open Kernel.UnitOfWork Kernel.KeyedTable Kernel.Updates Core.Values Core.Authorization
open PersistenceKernel.Audit (AuditLog)
open Courier.Store Courier.Writers Models Repository Application
open Custody.Repository (custodyOfOrder?)

section

variable {α : Type} {s t : CourierStore} {a : α} {f : Unit → CourierTransaction α}
  {dispatchId : Uuid} {value : CourierDispatchRequest} {draws : Draws} {time : Instant}

theorem putDispatch_bind_ok {change : DispatchStore → DispatchStore} :
    (putDispatch change >>= f) s = .ok (a, t) ↔
      f () { s with dispatch := change s.dispatch } = .ok (a, t) := by
  simp only [putDispatch, bind_assoc, steps_ok]

theorem getRequest_bind_ok {f : Option CourierDispatchRequest → CourierTransaction α} :
    (getRequest dispatchId >>= f) s = .ok (a, t) ↔
      f (s.dispatch.requests.find dispatchId) s = .ok (a, t) := by
  simp only [getRequest, bind_assoc, pure_bind, get_bind_ok]

theorem required_ok {view : MerchantCourierDispatchView} :
    required dispatchId s = .ok (view, t) ↔
      ∃ dispatch, s.dispatch.requests.find dispatchId = some dispatch ∧
        viewOf s.dispatch dispatch = view ∧ s = t := by
  simp only [required, steps_ok]

def stepMessage (draws : Draws) (current : CourierDispatchRequest) (step : StepRecord)
    (time : Instant) : OutboxMessage where
  messageId := draws.message
  orderId := current.orderId
  eventType := .courierDispatch step.eventType
  occurredAt := time

def stepEvent (draws : Draws) (value : CourierDispatchRequest)
    (fromState : Option CourierDispatchState) (step : StepRecord) (time : Instant) :
    CourierDispatchEvent where
  eventId := draws.event
  dispatchId := value.dispatchId
  orderId := value.orderId
  eventType := step.eventType
  fromState
  toState := value.state
  actorIdentityId := step.actorId
  version := value.version
  occurredAt := time
  correlationId := step.correlationId
  causationId := step.causationId

def stepEvidence (draws : Draws) (value : CourierDispatchRequest) (step : StepRecord)
    (time : Instant) : DispatchEvidence where
  evidenceId := draws.evidence
  dispatchId := value.dispatchId
  dispatchVersion := value.version
  eventType := step.eventType
  actorIdentityId := step.actorId
  sourceEvidence := step.sourceEvidence
  policyCode := value.policyCode
  policyVersion := value.policyVersion
  decisionOutcome := value.state
  correlationId := step.correlationId
  causationId := step.causationId
  occurredAt := time

theorem recordEvent_bind_ok {fromState : Option CourierDispatchState} {step : StepRecord} :
    (recordEvent draws value fromState step time >>= f) s = .ok (a, t) ↔
      ∃ outbox : Table OutboxMessage,
        outbox.rows = s.outbox.rows ++ [stepMessage draws value step time] ∧ f () { s with
            outbox
            dispatch := { s.dispatch with
              events := s.dispatch.events ++ [stepEvent draws value fromState step time] } } =
            .ok (a, t) := by
  simp only [recordEvent, bind_assoc, putDispatch_bind_ok, appendMessage_bind_ok]
  rfl

theorem recordEvidence_bind_ok {step : StepRecord} :
    (recordEvidence draws value step time >>= f) s = .ok (a, t) ↔ f () { s with
        dispatch := { s.dispatch with
          evidence := s.dispatch.evidence ++ [stepEvidence draws value step time] } } =
        .ok (a, t) := by
  simp only [recordEvidence, putDispatch_bind_ok]
  rfl

end

section

variable {draws : Draws} {current : CourierDispatchRequest} {change : RequestChange}
  {actorId : Uuid} {key : String} {operation : CourierDispatchAction} {step : StepRecord}
  {s t : CourierStore} {view : MerchantCourierDispatchView}

def answered (before : CourierStore) (current : CourierDispatchRequest) (actorId : Uuid)
    (key : String) (operation : CourierDispatchAction) : List DispatchReservation :=
  before.dispatch.idempotency.rows.map
    (updateWhere (Reserves actorId current.dispatchId operation key) fun row =>
      { row with responseVersion := some (current.version + 1) })

theorem transition_ok (found : s.dispatch.requests.find current.dispatchId = some current) :
    transition draws current change actorId key operation step s = .ok (view, t) ↔
      ∃ (requests : Table CourierDispatchRequest) (outbox : Table OutboxMessage)
          (idempotency : Table DispatchReservation),
        requests.rows = s.dispatch.requests.replaced (current.changed current change) ∧
          outbox.rows = s.outbox.rows ++
            [stepMessage draws (current.changed current change) step change.time] ∧
          idempotency.rows = answered s current actorId key operation ∧
          t = { s with
            outbox
            dispatch := { s.dispatch with
              requests
              events := s.dispatch.events ++
                [stepEvent draws (current.changed current change) (some current.state) step
                  change.time]
              evidence := s.dispatch.evidence ++
                [stepEvidence draws (current.changed current change) step change.time]
              idempotency } } ∧
          view = viewOf t.dispatch (current.changed current change) := by
  have standing : (s.dispatch.requests.find current.dispatchId).filter (fun row =>
      row.state = current.state ∧ row.version = current.version) = some current := by
    rw [found]
    exact Option.filter_eq_some_iff.2 ⟨rfl, decide_eq_true ⟨rfl, rfl⟩⟩
  have rewritten : ∀ requests : Table CourierDispatchRequest,
      requests.rows = s.dispatch.requests.replaced (current.changed current change) →
        requests.find current.dispatchId = some (current.changed current change) := by
    intro requests rows
    have looked := Table.find_of_rows_replaced rows current.dispatchId
    rw [if_pos (show current.dispatchId = Row.key (current.changed current change) from rfl),
      found] at looked
    exact looked
  simp only [transition, steps_ok, standing, Option.some.injEq, exists_eq_left',
    putDispatch_bind_ok, recordEvent_bind_ok, recordEvidence_bind_ok, Table.replace?_eq_some,
    Table.rewrite?_eq_some, required_ok]
  constructor
  · rintro ⟨requests, rows, outbox, sent, idempotency, reserved, dispatch, looked, rfl, rfl⟩
    rw [rewritten requests rows] at looked
    cases looked
    exact ⟨requests, outbox, idempotency, rows, sent, reserved, rfl, rfl⟩
  · rintro ⟨requests, outbox, idempotency, rows, sent, reserved, rfl, rfl⟩
    exact ⟨requests, rows, outbox, sent, idempotency, reserved, _, rewritten requests rows, rfl,
      rfl⟩

end

section

variable {hash : Payload → Digest} {actorId dispatchId : Uuid} {key : String}
  {action : CourierDispatchAction} {expectedVersion : Int} {time : DateTime}
  {s t : CourierStore}

def reservationOf (hash : Payload → Digest) (actorId dispatchId : Uuid) (key : String)
    (action : CourierDispatchAction) (expectedVersion : Int) (time : DateTime) :
    DispatchReservation where
  actorIdentityId := actorId
  dispatchId
  operation := action
  idempotencyKey := key
  requestHash := hash (requestText action expectedVersion)
  responseVersion := none
  createdAt := time.instant

def Replays (hash : Payload → Digest) (store : CourierStore) (actorId : Uuid) (key : String)
    (action : CourierDispatchAction) (expectedVersion : Int) (current : CourierDispatchRequest) :
    Prop :=
  ∃ reserved, store.dispatch.idempotency.find (actorId, action, key) = some reserved ∧
    reserved.dispatchId = current.dispatchId ∧
    reserved.requestHash = hash (requestText action expectedVersion) ∧
    reserved.responseVersion = some current.version

theorem insert?_of_reserved {reserved row : DispatchReservation}
    {reservations : Table DispatchReservation}
    (found : reservations.find (Row.key row) = some reserved) :
    reservations.insert? row = none := by
  cases inserted : reservations.insert? row with
  | none => rfl
  | some result =>
    have free := Table.find_eq_none_of_rows_append (Table.insert?_eq_some.1 inserted)
    rw [found] at free
    cases free

theorem reserving_ok {config : CourierConfig} {subject : AuthorizationSubject}
    {fresh : CourierDispatchRequest → CourierTransaction MerchantCourierDispatchView}
    {view : MerchantCourierDispatchView} :
    reserving config subject dispatchId key action expectedVersion time fresh s = .ok (view, t) ↔
      ∃ old, s.dispatch.requests.find dispatchId = some old ∧
        ((∃ idempotency : Table DispatchReservation,
            idempotency.rows = s.dispatch.idempotency.rows ++
              [reservationOf config.hash subject.identityId dispatchId key action expectedVersion
                time] ∧
            (old.version : Int) = expectedVersion ∧
            fresh old { s with dispatch := { s.dispatch with idempotency } } = .ok (view, t)) ∨
          (Replays config.hash s subject.identityId key action expectedVersion old ∧
            view = viewOf s.dispatch old ∧ t = s)) := by
  simp only [reserving, getRequest_bind_ok, steps_ok, reserve, bind_assoc]
  refine exists_congr fun old => and_congr_right fun found => ?_
  have identified : old.dispatchId = dispatchId := Table.key_of_find found
  cases inserted : s.dispatch.idempotency.insert?
      (reservationOf config.hash subject.identityId dispatchId key action expectedVersion time) with
  | some idempotency =>
    have rows := Table.insert?_eq_some.1 inserted
    have free : s.dispatch.idempotency.find (subject.identityId, action, key) = none :=
      Table.find_eq_none_of_rows_append rows
    have unreserved : ¬ Replays config.hash s subject.identityId key action expectedVersion
        old := by
      rintro ⟨reserved, standing, _⟩
      rw [free] at standing
      cases standing
    have alone : ∀ other : Table DispatchReservation, other.rows = s.dispatch.idempotency.rows ++
          [reservationOf config.hash subject.identityId dispatchId key action expectedVersion
            time] ↔ other = idempotency := by
      intro other
      rw [← rows]
      exact ⟨fun same => Table.ext same, fun same => same ▸ rfl⟩
    unfold reservationOf at inserted alone
    rw [inserted]
    simp only [whenSome, bind_assoc, putDispatch_bind_ok, pure_bind, checkVersion,
      require_bind_ok, unreserved, false_and, or_false]
    unfold reservationOf
    simp only [alone, exists_eq_left]
  | none =>
    have unfit : ∀ other : Table DispatchReservation, other.rows ≠ s.dispatch.idempotency.rows ++
          [reservationOf config.hash subject.identityId dispatchId key action expectedVersion
            time] := by
      intro other rows
      rw [Table.insert?_eq_some.2 rows] at inserted
      cases inserted
    unfold reservationOf at inserted unfit
    rw [inserted]
    unfold reservationOf
    simp only [whenSome, bind_assoc, steps_ok, required, pure_bind, found, Option.some.injEq,
      exists_eq_left', unfit, false_and, exists_false, false_or, viewOf, Replays, identified]
    constructor
    · rintro ⟨reserved, standing, ⟨same, hashed⟩, answered, rfl, rfl⟩
      exact ⟨⟨reserved, standing, same, hashed, answered⟩, rfl, rfl⟩
    · rintro ⟨⟨reserved, standing, same, hashed, answered⟩, rfl, rfl⟩
      exact ⟨reserved, standing, ⟨same, hashed⟩, answered, rfl, rfl⟩

end

section

variable {α : Type} {s t : CourierStore} {a : α} {time : Instant} {offerId : Uuid}

theorem resolveOffer_bind_ok {actorId : Uuid} {condition : CourierOffer → Prop}
    [DecidablePred condition] {state : CourierOfferState} {reason : String}
    {f : CourierOffer → CourierTransaction α} :
    (resolveOffer offerId condition state actorId reason time >>= f) s = .ok (a, t) ↔
      ∃ active, s.dispatch.offers.find offerId = some active ∧ active.state = .active ∧
        condition active ∧ ∃ offers : Table CourierOffer,
          offers.rows = s.dispatch.offers.replaced (active.resolved state actorId reason time) ∧
            f active { s with dispatch := { s.dispatch with offers } } = .ok (a, t) := by
  simp only [resolveOffer, bind_assoc, steps_ok, putDispatch_bind_ok, pure_bind,
    Table.replace?_eq_some, Option.filter_eq_some_iff, decide_eq_true_eq, and_assoc]

theorem closeAssignment_bind_ok {assignmentId : Uuid} {state : CourierAssignmentState}
    {reason : String} {failure : Failure} {f : CourierAssignment → CourierTransaction α} :
    (closeAssignment assignmentId state reason time failure >>= f) s = .ok (a, t) ↔
      ∃ standing, s.dispatch.assignments.find assignmentId = some standing ∧
        standing.state = .assigned ∧ ∃ assignments : Table CourierAssignment,
          assignments.rows = s.dispatch.assignments.replaced (standing.closed state reason time) ∧
            f standing { s with dispatch := { s.dispatch with assignments } } = .ok (a, t) := by
  simp only [closeAssignment, bind_assoc, steps_ok, putDispatch_bind_ok, pure_bind,
    Table.replace?_eq_some, Option.filter_eq_some_iff, decide_eq_true_eq, and_assoc]

def newOffer (draws : Draws) (current : CourierDispatchRequest) (courierId : Uuid)
    (expiresAt time : Instant) : CourierOffer where
  offerId := draws.row
  dispatchId := current.dispatchId
  attemptNumber := current.attemptNumber + 1
  courierIdentityId := courierId
  state := .active
  offeredAt := time
  expiresAt
  resolvedAt := none
  resolutionActorIdentityId := none
  resolutionReason := none
  version := 1

def newAssignment (draws : Draws) (current : CourierDispatchRequest) (offerId courierId : Uuid)
    (time : Instant) : CourierAssignment where
  assignmentId := draws.row
  dispatchId := current.dispatchId
  offerId
  attemptNumber := current.attemptNumber
  courierIdentityId := courierId
  state := .assigned
  assignedAt := time
  closedAt := none
  closeReason := none
  version := 1

theorem assign_bind_ok {draws : Draws} {old : CourierDispatchRequest} {courierId : Uuid}
    {f : Unit → CourierTransaction α} :
    (assign draws old offerId courierId time >>= f) s = .ok (a, t) ↔
      ∃ assignments : Table CourierAssignment, assignments.rows = s.dispatch.assignments.rows ++
            [newAssignment draws old offerId courierId time] ∧
          f () { s with dispatch := { s.dispatch with assignments } } = .ok (a, t) := by
  simp only [assign, bind_assoc, steps_ok, putDispatch_bind_ok, Table.insert?_eq_some]
  rfl

end

def offerChange (draws : Draws) (current : CourierDispatchRequest) (courierId : Uuid)
    (time : Instant) : RequestChange where
  target := .offered
  offeredCourierIdentityId := some courierId
  assignedCourierIdentityId := none
  activeOfferId := some draws.row
  activeAssignmentId := none
  attemptNumber := current.attemptNumber + 1
  time

def acceptChange (draws : Draws) (current : CourierDispatchRequest) (courierId : Uuid)
    (time : Instant) : RequestChange where
  target := .assigned
  offeredCourierIdentityId := some courierId
  assignedCourierIdentityId := some courierId
  activeOfferId := none
  activeAssignmentId := some draws.row
  attemptNumber := current.attemptNumber
  time

def openChange (current : CourierDispatchRequest) (target : CourierDispatchState)
    (time : Instant) : RequestChange where
  target
  offeredCourierIdentityId := none
  assignedCourierIdentityId := none
  activeOfferId := none
  activeAssignmentId := none
  attemptNumber := current.attemptNumber
  time

def admittedRequest (policy : DispatchPolicy) (draws : Draws) (messageId orderId merchantId : Uuid)
    (time : Instant) : CourierDispatchRequest where
  dispatchId := draws.row
  orderId
  merchantId
  readinessMessageId := messageId
  state := .waiting
  version := 1
  policyCode := policy.code
  policyVersion := policy.version
  attemptNumber := 0
  activeOfferId := none
  activeAssignmentId := none
  offeredCourierIdentityId := none
  assignedCourierIdentityId := none
  createdAt := time
  offeredAt := none
  assignedAt := none
  updatedAt := time

structure Moved (draws : Draws) (before after : CourierStore) (current : CourierDispatchRequest)
    (change : RequestChange) (eventType : DispatchEventType) : Prop where
  stored : before.dispatch.requests.find current.dispatchId = some current
  requests : after.dispatch.requests.rows =
    before.dispatch.requests.replaced (current.changed current change)
  events : ∃ event : CourierDispatchEvent, event.dispatchId = current.dispatchId ∧
    event.version = current.version + 1 ∧
    after.dispatch.events = before.dispatch.events ++ [event]
  outbox : ∃ message : OutboxMessage, message.messageId = draws.message ∧
    message.orderId = current.orderId ∧ message.eventType = .courierDispatch eventType ∧
    after.outbox.rows = before.outbox.rows ++ [message]

def ActiveClosed {ρ : Type} [Row ρ Uuid] (closes : ρ → ρ → Prop) (active : Option Uuid)
    (before after : Table ρ) : Prop :=
  (active = none ∧ after = before) ∨
    ∃ id current closed, active = some id ∧ before.find id = some current ∧
      closes current closed ∧ after.rows = before.replaced closed

def Revokes (offer revoked : CourierOffer) : Prop :=
  offer.state = .active ∧
    ∃ actorId reason time, revoked = offer.resolved .revoked actorId reason time

def Cancels (assignment cancelled : CourierAssignment) : Prop :=
  assignment.state = .assigned ∧ ∃ reason time, cancelled = assignment.closed .cancelled reason time

/-- A state in which an offer rests without having been accepted. -/
def Unaccepted (state : CourierOfferState) : Prop :=
  state = .declined ∨ state = .expired ∨ state = .revoked

def CustodyOpen (store : CourierStore) (orderId : Uuid) : Prop :=
  ∀ custody ∈ custodyOfOrder? store.custody orderId, custody.state ≠ .accepted

inductive DispatchEffect (draws : Draws) (action : Option CourierDispatchAction)
    (before after : CourierStore) : Prop where
  | idle (requests : after.dispatch.requests = before.dispatch.requests)
      (offers : after.dispatch.offers = before.dispatch.offers)
      (assignments : after.dispatch.assignments = before.dispatch.assignments)
      (events : after.dispatch.events = before.dispatch.events)
      (outbox : after.outbox = before.outbox)
  | admitted (acts : action = none) (policy : DispatchPolicy)
      (messageId orderId merchantId : Uuid) (time : Instant) (event : CourierDispatchEvent)
      (message : OutboxMessage)
      (requests : after.dispatch.requests.rows = before.dispatch.requests.rows ++
        [admittedRequest policy draws messageId orderId merchantId time])
      (offers : after.dispatch.offers = before.dispatch.offers)
      (assignments : after.dispatch.assignments = before.dispatch.assignments)
      (addressed : event.dispatchId = draws.row) (first : event.version = 1)
      (events : after.dispatch.events = before.dispatch.events ++ [event])
      (type : message.eventType = .courierDispatch .created)
      (outbox : after.outbox.rows = before.outbox.rows ++ [message])
  | offered (acts : action = some .offer) (current : CourierDispatchRequest) (courierId : Uuid)
      (expiresAt time : Instant) (waiting : current.state = .waiting)
      (moved : Moved draws before after current (offerChange draws current courierId time)
        .offerCreated)
      (offers : after.dispatch.offers.rows = before.dispatch.offers.rows ++
        [newOffer draws current courierId expiresAt time])
      (assignments : after.dispatch.assignments = before.dispatch.assignments)
  | accepted (acts : action = some .accept) (current : CourierDispatchRequest)
      (offer : CourierOffer) (time : Instant)
      (offered : current.state = .offered)
      (active : current.activeOfferId = some offer.offerId)
      (found : before.dispatch.offers.find offer.offerId = some offer)
      (standing : offer.state = .active)
      (moved : Moved draws before after current
        (acceptChange draws current offer.courierIdentityId time) .offerAccepted)
      (offers : after.dispatch.offers.rows = before.dispatch.offers.replaced
        (offer.resolved .accepted offer.courierIdentityId "accepted" time))
      (assignments : after.dispatch.assignments.rows = before.dispatch.assignments.rows ++
        [newAssignment draws current offer.offerId offer.courierIdentityId time])
  | offerClosed (acts : action = some .decline ∨ action = some .expire ∨ action = some .revoke)
      (current : CourierDispatchRequest) (offer : CourierOffer) (state : CourierOfferState)
      (actorId : Uuid) (reason : String) (change : RequestChange) (eventType : DispatchEventType)
      (offered : current.state = .offered)
      (active : current.activeOfferId = some offer.offerId)
      (found : before.dispatch.offers.find offer.offerId = some offer)
      (standing : offer.state = .active) (closes : Unaccepted state)
      (changes : change = openChange current .waiting change.time ∨
        change = { openChange current .waiting change.time with
          assignedCourierIdentityId := current.assignedCourierIdentityId
          activeAssignmentId := current.activeAssignmentId })
      (unaccepted : eventType ≠ .offerAccepted)
      (moved : Moved draws before after current change eventType)
      (offers : after.dispatch.offers.rows =
        before.dispatch.offers.replaced (offer.resolved state actorId reason change.time))
      (assignments : after.dispatch.assignments = before.dispatch.assignments)
  | released (acts : action = some .release) (current : CourierDispatchRequest)
      (assignment : CourierAssignment) (reason : String) (time : Instant)
      (assigned : current.state = .assigned)
      (active : current.activeAssignmentId = some assignment.assignmentId)
      (found : before.dispatch.assignments.find assignment.assignmentId = some assignment)
      (standing : assignment.state = .assigned)
      (custody : CustodyOpen before current.orderId)
      (moved : Moved draws before after current
        { openChange current .waiting time with
          offeredCourierIdentityId := current.offeredCourierIdentityId
          activeOfferId := current.activeOfferId } .assignmentReleased)
      (offers : after.dispatch.offers = before.dispatch.offers)
      (assignments : after.dispatch.assignments.rows =
        before.dispatch.assignments.replaced (assignment.closed .released reason time))
  | cancelled (acts : action = some .cancel) (current : CourierDispatchRequest) (time : Instant)
      (open_ : (targetState current.state .cancel).isSome = true)
      (custody : CustodyOpen before current.orderId)
      (moved : Moved draws before after current (openChange current .cancelled time) .cancelled)
      (offers : ActiveClosed Revokes current.activeOfferId before.dispatch.offers
        after.dispatch.offers)
      (assignments : ActiveClosed Cancels current.activeAssignmentId before.dispatch.assignments
        after.dispatch.assignments)
  | concluded (acts : action = some .concludeUnfulfilled) (current : CourierDispatchRequest)
      (time : Instant) (waiting : current.state = .waiting)
      (moved : Moved draws before after current
        { openChange current .unfulfilled time with
          offeredCourierIdentityId := current.offeredCourierIdentityId
          assignedCourierIdentityId := current.assignedCourierIdentityId
          activeOfferId := current.activeOfferId
          activeAssignmentId := current.activeAssignmentId } .unfulfilled)
      (offers : after.dispatch.offers = before.dispatch.offers)
      (assignments : after.dispatch.assignments = before.dispatch.assignments)

section

variable {config : CourierConfig} {draws : Draws} {reads : CourierReads}
  {subject : AuthorizationSubject} {s between t : CourierStore} {current : CourierDispatchRequest}
  {view : MerchantCourierDispatchView} {state target : CourierDispatchState} {key : String}
  {actorId courierId correlationId causationId : Uuid} {time : Instant} {action : AuthorityAction}

theorem targetState_offer (leads : targetState state .offer = some target) :
    state = .waiting ∧ target = .offered := by
  cases state <;> cases leads
  exact ⟨rfl, rfl⟩

theorem targetState_accept (leads : targetState state .accept = some target) :
    state = .offered ∧ target = .assigned := by
  cases state <;> cases leads
  exact ⟨rfl, rfl⟩

theorem targetState_closing {action : CourierDispatchAction}
    (closing : action = .decline ∨ action = .expire ∨ action = .revoke)
    (leads : targetState state action = some target) : state = .offered ∧ target = .waiting := by
  rcases closing with rfl | rfl | rfl <;> cases state <;> cases leads <;> exact ⟨rfl, rfl⟩

theorem targetState_release (leads : targetState state .release = some target) :
    state = .assigned ∧ target = .waiting := by
  cases state <;> cases leads
  exact ⟨rfl, rfl⟩

theorem targetState_cancel (leads : targetState state .cancel = some target) :
    target = .cancelled := by
  cases state <;> cases leads <;> rfl

theorem targetState_conclude (leads : targetState state .concludeUnfulfilled = some target) :
    state = .waiting ∧ target = .unfulfilled := by
  cases state <;> cases leads
  exact ⟨rfl, rfl⟩

theorem transition_moved (s : CourierStore) {change : RequestChange}
    {operation : CourierDispatchAction} {step : StepRecord}
    (ran : transition draws current change actorId key operation step between =
      .ok (view, t)) (found : between.dispatch.requests.find current.dispatchId = some current)
    (requests : between.dispatch.requests = s.dispatch.requests)
    (events : between.dispatch.events = s.dispatch.events)
    (outbox : between.outbox = s.outbox) :
    Moved draws s t current change step.eventType ∧ t.dispatch.offers = between.dispatch.offers ∧
      t.dispatch.assignments = between.dispatch.assignments := by
  obtain ⟨written, sent, idempotency, rows, messages, _, rfl, _⟩ := (transition_ok found).1 ran
  rw [requests] at found rows
  rw [outbox] at messages
  refine ⟨⟨found, rows, ⟨stepEvent draws (current.changed current change) (some current.state) step
    change.time, rfl, rfl, ?_⟩, ⟨_, rfl, rfl, rfl, messages⟩⟩, rfl, rfl⟩
  rw [← events]

theorem closeActive_ok {u : Unit} (ran : closeActive current action s = .ok (u, between)) :
    ∃ (offers : Table CourierOffer) (assignments : Table CourierAssignment),
      between = { s with dispatch := { s.dispatch with offers, assignments } } ∧
        ActiveClosed Revokes current.activeOfferId s.dispatch.offers offers ∧
        ActiveClosed Cancels current.activeAssignmentId s.dispatch.assignments assignments := by
  unfold closeActive at ran
  obtain ⟨_, middle, first, second⟩ := bind_ok.1 ran
  have offersClosed : ∃ offers : Table CourierOffer,
      middle = { s with dispatch := { s.dispatch with offers } } ∧
        ActiveClosed Revokes current.activeOfferId s.dispatch.offers offers := by
    simp only [whenSome_ok, ↓resolveOffer_bind_ok, pure_ok] at first
    obtain ⟨offerId, active, offer, held, standing, _, offers, resolved, _, rfl⟩ |
      ⟨active, _, rfl⟩ := first
    · exact ⟨offers, rfl, .inr ⟨offerId, offer, _, active, held, ⟨standing, _, _, _, rfl⟩,
        resolved⟩⟩
    · exact ⟨_, rfl, .inl ⟨active, rfl⟩⟩
  obtain ⟨offers, rfl, revoked⟩ := offersClosed
  simp only [whenSome_ok, ↓closeAssignment_bind_ok, pure_ok] at second
  obtain ⟨assignmentId, active, assignment, held, standing, assignments, closed, _, rfl⟩ |
    ⟨active, _, rfl⟩ := second
  · exact ⟨offers, assignments, rfl, revoked, .inr ⟨assignmentId, assignment, _, active, held,
      ⟨standing, _, _, rfl⟩, closed⟩⟩
  · exact ⟨offers, _, rfl, revoked, .inl ⟨active, rfl⟩⟩

variable (found : s.dispatch.requests.find current.dispatchId = some current)

include found

theorem offer_effect {evidence : List CourierEligibilityEvidence}
    {expiresAt : Instant} (leads : targetState current.state .offer = some target)
    (ran : offer draws current courierId actorId target key evidence expiresAt correlationId
      causationId time s = .ok (view, t)) :
    DispatchEffect draws (some .offer) s t := by
  obtain ⟨waiting, rfl⟩ := targetState_offer leads
  unfold offer at ran
  simp only [↓steps_ok, ↓putDispatch_bind_ok, Table.insert?_eq_some] at ran
  obtain ⟨offers, rows, ran⟩ := ran
  obtain ⟨moved, kept, same⟩ := transition_moved s ran found rfl rfl rfl
  exact .offered rfl current courierId expiresAt time waiting moved (by rw [kept]; exact rows) same

theorem acceptOffer_effect (leads : targetState current.state .accept = some target)
    (ran : acceptOffer draws current courierId target key correlationId causationId time
      s = .ok (view, t)) : DispatchEffect draws (some .accept) s t := by
  obtain ⟨offered, rfl⟩ := targetState_accept leads
  unfold acceptOffer at ran
  simp only [↓demand_bind_ok, ↓resolveOffer_bind_ok, ↓assign_bind_ok] at ran
  obtain ⟨offerId, active, offer, held, standing, ⟨rfl, _⟩, offers, resolved, assignments,
    assigned, ran⟩ := ran
  obtain rfl : offer.offerId = offerId := Table.key_of_find held
  obtain ⟨moved, kept, same⟩ := transition_moved s ran found rfl rfl rfl
  exact .accepted rfl current offer time offered active held standing moved
    (by rw [kept]; exact resolved) (by rw [same]; exact assigned)

theorem declineOffer_effect (leads : targetState current.state .decline = some target)
    (ran : declineOffer draws current courierId target key correlationId causationId time
      s = .ok (view, t)) : DispatchEffect draws (some .decline) s t := by
  obtain ⟨offered, rfl⟩ := targetState_closing (.inl rfl) leads
  unfold declineOffer at ran
  simp only [↓demand_bind_ok, ↓resolveOffer_bind_ok] at ran
  obtain ⟨offerId, active, offer, held, standing, _, offers, resolved, ran⟩ := ran
  obtain rfl : offer.offerId = offerId := Table.key_of_find held
  obtain ⟨moved, kept, same⟩ := transition_moved s ran found rfl rfl rfl
  exact .offerClosed (.inl rfl) current offer .declined courierId "declined" _ _ offered active
    held standing (.inl rfl) (.inl rfl) (fun same => by cases same) moved
    (by rw [kept]; exact resolved) same

theorem expireOffer_effect (leads : targetState current.state .expire = some action.target)
    (ran : expireOffer draws current action s = .ok (view, t)) :
    DispatchEffect draws (some .expire) s t := by
  obtain ⟨offered, target⟩ := targetState_closing (.inr (.inl rfl)) leads
  unfold expireOffer authorityStep carriedOver at ran
  simp only [↓demand_bind_ok, ↓resolveOffer_bind_ok, target] at ran
  obtain ⟨offerId, active, offer, held, standing, _, offers, resolved, ran⟩ := ran
  obtain rfl : offer.offerId = offerId := Table.key_of_find held
  obtain ⟨moved, kept, same⟩ := transition_moved s ran found rfl rfl rfl
  exact .offerClosed (.inr (.inl rfl)) current offer .expired action.actorId action.reason _ _
    offered active held standing (.inr (.inl rfl)) (.inr rfl) (fun same => by cases same) moved
    (by rw [kept]; exact resolved) same

theorem revokeOffer_effect (leads : targetState current.state .revoke = some action.target)
    (ran : revokeOffer draws current action s = .ok (view, t)) :
    DispatchEffect draws (some .revoke) s t := by
  obtain ⟨offered, target⟩ := targetState_closing (.inr (.inr rfl)) leads
  unfold revokeOffer authorityStep carriedOver at ran
  simp only [↓demand_bind_ok, ↓resolveOffer_bind_ok, target] at ran
  obtain ⟨offerId, active, offer, held, standing, _, offers, resolved, ran⟩ := ran
  obtain rfl : offer.offerId = offerId := Table.key_of_find held
  obtain ⟨moved, kept, same⟩ := transition_moved s ran found rfl rfl rfl
  exact .offerClosed (.inr (.inr rfl)) current offer .revoked action.actorId action.reason _ _
    offered active held standing (.inr (.inr rfl)) (.inr rfl) (fun same => by cases same) moved
    (by rw [kept]; exact resolved) same

theorem releaseAssignment_effect
    (leads : targetState current.state .release = some action.target)
    (custody : CustodyOpen s current.orderId)
    (ran : releaseAssignment draws current action s = .ok (view, t)) :
    DispatchEffect draws (some .release) s t := by
  obtain ⟨assigned, target⟩ := targetState_release leads
  unfold releaseAssignment authorityStep carriedOver at ran
  simp only [↓demand_bind_ok, ↓closeAssignment_bind_ok, target] at ran
  obtain ⟨assignmentId, active, assignment, held, standing, assignments, closed, ran⟩ :=
    ran
  obtain rfl : assignment.assignmentId = assignmentId := Table.key_of_find held
  obtain ⟨moved, kept, same⟩ := transition_moved s ran found rfl rfl rfl
  exact .released rfl current assignment action.reason action.time assigned active held standing
    custody moved kept (by rw [same]; exact closed)

theorem cancelRequest_effect (leads : targetState current.state .cancel = some action.target)
    (custody : CustodyOpen s current.orderId)
    (ran : cancelRequest draws current action s = .ok (view, t)) :
    DispatchEffect draws (some .cancel) s t := by
  have target := targetState_cancel leads
  unfold cancelRequest at ran
  obtain ⟨_, between, closed, ran⟩ := bind_ok.1 ran
  obtain ⟨offers, assignments, rfl, revoked, cancelled⟩ := closeActive_ok closed
  unfold authorityStep carriedOver at ran
  simp only [target] at ran
  obtain ⟨moved, kept, same⟩ := transition_moved s ran found rfl rfl rfl
  exact .cancelled rfl current action.time (by rw [leads]; rfl) custody moved (kept ▸ revoked)
    (same ▸ cancelled)

theorem concludeUnfulfilled_effect
    (leads : targetState current.state .concludeUnfulfilled = some action.target)
    (ran : concludeUnfulfilled draws current action s = .ok (view, t)) :
    DispatchEffect draws (some .concludeUnfulfilled) s t := by
  obtain ⟨waiting, target⟩ := targetState_conclude leads
  unfold concludeUnfulfilled authorityStep carriedOver at ran
  simp only [target] at ran
  obtain ⟨moved, kept, same⟩ := transition_moved s ran found rfl rfl rfl
  exact .concluded rfl current action.time waiting moved kept same

end

section

variable {config : CourierConfig} {draws : Draws} {reads : CourierReads}
  {action : Option CourierDispatchAction} {subject : AuthorizationSubject} {s t : CourierStore}
  {current : CourierDispatchRequest} {view : MerchantCourierDispatchView}
  {idempotency : Table DispatchReservation} {instant : Instant}

theorem Moved.kept {audit : AuditLog}
    {change : RequestChange} {eventType : DispatchEventType}
    (moved : Moved draws { s with dispatch := { s.dispatch with idempotency } } t current change
      eventType) : Moved draws s { t with audit } current change eventType :=
  ⟨moved.stored, moved.requests, moved.events, moved.outbox⟩

theorem DispatchEffect.kept {audit : AuditLog}
    (effect : DispatchEffect draws action { s with dispatch := { s.dispatch with idempotency } } t) :
    DispatchEffect draws action s { t with audit } := by
  cases effect with
  | idle requests offers assignments events outbox =>
    exact .idle requests offers assignments events outbox
  | admitted acts policy messageId orderId merchantId time event message requests offers assignments
      addressed first events type outbox =>
    exact .admitted acts policy messageId orderId merchantId time event message requests offers
      assignments addressed first events type outbox
  | offered acts old courierId expiresAt time waiting moved offers assignments =>
    exact .offered acts old courierId expiresAt time waiting moved.kept offers assignments
  | accepted acts old offer time offered active found standing moved offers assignments =>
    exact .accepted acts old offer time offered active found standing moved.kept offers assignments
  | offerClosed acts old offer state actorId reason change eventType offered active found
      standing closes changes unaccepted moved offers assignments =>
    exact .offerClosed acts old offer state actorId reason change eventType offered active found
      standing closes changes unaccepted moved.kept offers assignments
  | released acts old assignment reason time assigned active found standing custody moved offers
      assignments =>
    exact .released acts old assignment reason time assigned active found standing custody
      moved.kept offers assignments
  | cancelled acts old time open_ custody moved offers assignments =>
    exact .cancelled acts old time open_ custody moved.kept offers assignments
  | concluded acts old time waiting moved offers assignments =>
    exact .concluded acts old time waiting moved.kept offers assignments

theorem DispatchEffect.reserved
    (effect : DispatchEffect draws action
      { s with dispatch := { s.dispatch with idempotency } } t) :
    DispatchEffect draws action s t :=
  effect.kept

theorem audited_effect {body : CourierTransaction MerchantCourierDispatchView}
    {event : MerchantCourierDispatchView → PersistenceKernel.Audit.AuditEvent}
    (ran : (do
      let result ← body
      appendAudit (event result)
      pure result) s = .ok (view, t))
    (effect : ∀ {result t}, body s = .ok (result, t) → DispatchEffect draws action s t) :
    DispatchEffect draws action s t := by
  obtain ⟨result, _, finished, ran⟩ := bind_ok.1 ran
  obtain ⟨audit, ran⟩ := appendAudit_bind_ok ran
  obtain ⟨_, rfl⟩ := pure_ok.1 ran
  exact (effect finished).kept

theorem consumeReady_effect {policy : DispatchPolicy} {messageId orderId merchantId : Uuid}
    {time : Instant}
    (ran : consumeReady policy draws reads messageId orderId merchantId time s =
      .ok (view, t)) : DispatchEffect draws none s t := by
  unfold consumeReady at ran
  simp only [↓steps_ok, whenSome_ok, ↓putDispatch_bind_ok, ↓recordEvent_bind_ok,
    ↓recordEvidence_bind_ok, required_ok, Table.insert?_eq_some]
    at ran
  obtain ⟨source, _, _, ⟨requests, rows, outbox, sent, _, _, _, rfl⟩ | ⟨_, _, _, _, rfl⟩⟩ := ran
  · exact .admitted rfl policy messageId orderId merchantId time _ _ rows rfl rfl rfl rfl rfl rfl
      sent
  · exact .idle rfl rfl rfl rfl rfl

theorem consumeMerchantReady_effect {request : ReadyRequest}
    (ran : consumeMerchantReady config draws reads subject request s =
      .ok (view, t)) : DispatchEffect draws none s t := by
  unfold consumeMerchantReady utcTime at ran
  simp only [↓guards_ok, ↓utc_bind_ok] at ran
  obtain ⟨_, _, _, _, ran⟩ := ran
  exact audited_effect ran consumeReady_effect

theorem respond_effect {request : ResponseRequest}
    (response : request.action = .accept ∨ request.action = .decline)
    (found : s.dispatch.requests.find current.dispatchId = some current)
    (ran : respond draws subject request current s = .ok (view, t)) :
    DispatchEffect draws (some request.action) s t := by
  unfold respond checkTarget utcTime at ran
  simp only [↓steps_ok, ↓utc_bind_ok] at ran
  obtain ⟨target, leads, _, _, ran⟩ := ran
  obtain ⟨action, ran⟩ | ⟨action, ran⟩ := ite_ok.1 ran
  · rw [action] at leads ⊢
    exact audited_effect ran (acceptOffer_effect found leads)
  · rw [response.resolve_left action] at leads ⊢
    exact audited_effect ran (declineOffer_effect found leads)

theorem makeOffer_effect {request : OfferRequest} {evaluated : List CourierEligibilityEvidence}
    (found : s.dispatch.requests.find current.dispatchId = some current)
    (ran : makeOffer config draws subject request evaluated instant current s =
      .ok (view, t)) : DispatchEffect draws (some .offer) s t := by
  unfold makeOffer checkTarget at ran
  simp only [↓demand_bind_ok] at ran
  obtain ⟨target, leads, ran⟩ := ran
  exact audited_effect ran (offer_effect found leads)

theorem authorityTransition_effect {operation : CourierDispatchAction} {action : AuthorityAction}
    (found : s.dispatch.requests.find current.dispatchId = some current)
    (leads : targetState current.state operation = some action.target)
    (custody : operation = .release ∨ operation = .cancel → CustodyOpen s current.orderId)
    (ran : authorityTransition draws current operation action s = .ok (view, t)) :
    DispatchEffect draws (some operation) s t := by
  unfold authorityTransition at ran
  rw [require_bind_ok] at ran
  obtain ⟨_, ran⟩ := ran
  cases operation with
  | expire => exact expireOffer_effect found leads ran
  | revoke => exact revokeOffer_effect found leads ran
  | release => exact releaseAssignment_effect found leads (custody (.inl rfl)) ran
  | cancel => exact cancelRequest_effect found leads (custody (.inr rfl)) ran
  | concludeUnfulfilled => exact concludeUnfulfilled_effect found leads ran
  | offer => exact (throw_ok.1 ran).elim
  | accept => exact (throw_ok.1 ran).elim
  | decline => exact (throw_ok.1 ran).elim

theorem actOn_effect {request : AuthorityRequest}
    (found : s.dispatch.requests.find current.dispatchId = some current)
    (ran : actOn draws subject request instant current s = .ok (view, t)) :
    DispatchEffect draws (some request.action) s t := by
  unfold actOn checkCustody checkTarget at ran
  simp only [bind_assoc, ↓steps_ok] at ran
  obtain ⟨custody, target, leads, ran⟩ := ran
  exact audited_effect ran fun acted => authorityTransition_effect found leads custody acted

theorem reserving_effect {dispatchId : Uuid} {key : String} {action : CourierDispatchAction}
    {expectedVersion : Int} {time : DateTime}
    {fresh : CourierDispatchRequest → CourierTransaction MerchantCourierDispatchView}
    (effect : ∀ {old : CourierDispatchRequest} {s : CourierStore},
      s.dispatch.requests.find old.dispatchId = some old →
        fresh old s = .ok (view, t) → DispatchEffect draws (some action) s t)
    (ran : reserving config subject dispatchId key action expectedVersion time fresh s =
      .ok (view, t)) : DispatchEffect draws (some action) s t := by
  obtain ⟨old, found, ⟨idempotency, _, _, taken⟩ | ⟨_, _, rfl⟩⟩ := reserving_ok.1 ran
  · obtain rfl : old.dispatchId = dispatchId := Table.key_of_find found
    have stepped : DispatchEffect draws (some action)
        { s with dispatch := { s.dispatch with idempotency } } t := effect found taken
    exact stepped.reserved
  · exact .idle rfl rfl rfl rfl rfl

def actionOf? : DispatchCommand → Option CourierDispatchAction
  | .consumeMerchantReady _ => none
  | .offerCourier _ => some .offer
  | .command request => some request.action
  | .authorityCommand request => some request.action

theorem dispatchCommand_effect {command : DispatchCommand}
    (ran : command.body config draws reads subject s = .ok (view, t)) :
    DispatchEffect draws (actionOf? command) s t := by
  cases command with
  | consumeMerchantReady => exact consumeMerchantReady_effect ran
  | offerCourier request =>
    unfold DispatchCommand.body offerCourier utcTime at ran
    rw [utc_bind_ok] at ran
    obtain ⟨_, ran⟩ := ran
    obtain ⟨evaluated, ran⟩ : ∃ evaluated, (do
        requirePermission reads.grants subject "courier_dispatch.manage" (.utc request.time.instant)
        reserving config subject request.dispatchId request.idempotencyKey .offer
          request.expectedVersion request.time
          (makeOffer config draws subject request evaluated request.time.instant)) s =
        .ok (view, t) := by
      simp only [DispatchPolicy.evaluate, bind_assoc, pure_bind, require_bind_ok] at ran
      exact ⟨_, ran.2.2⟩
    rw [requirePermission_bind_ok] at ran
    exact reserving_effect makeOffer_effect ran.2.2
  | command =>
    unfold DispatchCommand.body Application.command at ran
    simp only [↓require_bind_ok] at ran
    exact reserving_effect (respond_effect ran.1) ran.2.2
  | authorityCommand =>
    unfold DispatchCommand.body Application.authorityCommand utcTime at ran
    simp only [↓guards_ok, ↓utc_bind_ok] at ran
    exact reserving_effect actOn_effect ran.2.2.2.2

end
end Ayo.CourierDispatch.Effects
