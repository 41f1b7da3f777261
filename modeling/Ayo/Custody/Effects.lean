/- digest: What each successful custody command does to the database. -/

import Ayo.Courier.System
import Ayo.Kernel.Run

namespace Ayo.Custody.Effects

open Kernel.UnitOfWork Kernel.KeyedTable Kernel.Updates Core.Values Core.Authorization Courier.Store
  Courier.Writers
open CourierDispatch.Repository (matchesCurrentAssignment)
open CourierPickup.Models (CourierPickupRecord)
open Models Repository Application
open Kernel.Evolution (Evolves)

section

variable {α : Type} {s t : CourierStore} {a : α} {f : Unit → CourierTransaction α}
  {custodyId : Uuid} {view : CustodyView}

theorem putCustody_bind_ok {change : CustodyStore → CustodyStore} :
    (putCustody change >>= f) s = .ok (a, t) ↔
      f () { s with custody := change s.custody } = .ok (a, t) := by
  simp only [putCustody, bind_assoc, steps_ok]

theorem getCustody_bind_ok {f : Option CustodyRecord → CourierTransaction α} :
    (getCustody custodyId >>= f) s = .ok (a, t) ↔
      f (s.custody.records.find custodyId) s = .ok (a, t) := by
  simp only [getCustody, bind_assoc, pure_bind, get_bind_ok]

theorem requiredCustody_ok : required custodyId s = .ok (view, t) ↔
      ∃ custody, s.custody.records.find custodyId = some custody ∧
        viewOf s.custody custody = view ∧ s = t := by
  simp only [required, steps_ok]

def eventMessage (event : CustodyEvent) (messageId : Uuid) : OutboxMessage where
  messageId
  orderId := event.orderId
  eventType := .custody event.eventType
  occurredAt := event.occurredAt

theorem recordCustody_bind_ok {event : CustodyEvent} {messageId : Uuid} :
    (recordStep event messageId >>= f) s = .ok (a, t) ↔ ∃ outbox : Table OutboxMessage,
        outbox.rows = s.outbox.rows ++ [eventMessage event messageId] ∧ f () { s with
            outbox
            custody := { s.custody with events := s.custody.events ++ [event] } } =
            .ok (a, t) := by
  simp only [recordStep, bind_assoc, putCustody_bind_ok, appendMessage_bind_ok]
  rfl

theorem requireBinding_ok {existing : Option CustodyRecord} {pickup : CourierPickupRecord} :
    requireBinding existing pickup s = .ok (view, t) ↔
      ∃ bound, existing = some bound ∧ BoundTo pickup bound ∧ viewOf s.custody bound = view ∧
        s = t := by
  simp only [requireBinding, steps_ok, Option.filter_eq_some_iff, decide_eq_true_eq, and_assoc]

theorem waitingPickup_bind_ok {pickupId : Uuid} {f : CourierPickupRecord → CourierTransaction α} :
    (waitingPickup pickupId >>= f) s = .ok (a, t) ↔
      ∃ pickup, s.pickup.pickups.find pickupId = some pickup ∧ pickup.state = .waiting ∧
        f pickup s = .ok (a, t) := by
  simp only [waitingPickup, bind_assoc, steps_ok, Option.filter_eq_some_iff, decide_eq_true_eq,
    and_assoc]

end

section

variable {draws : Draws} {current : CustodyRecord} {target : CustodyState} {actorId : Uuid}
  {key : String} {time : Instant} {stamp : CustodyStamp} {s t : CourierStore}
  {view : CustodyView}

def enterEvent (draws : Draws) (current : CustodyRecord) (target : CustodyState) (actorId : Uuid)
    (time : Instant) : CustodyEvent where
  eventId := draws.event
  custodyId := current.custodyId
  orderId := current.orderId
  eventType := .entered target
  fromState := current.state
  toState := target
  actorIdentityId := actorId
  version := current.version + 1
  occurredAt := time

def answeredCustody (s : CourierStore) (current : CustodyRecord) (actorId : Uuid)
    (key : String) : List CustodyReservation :=
  s.custody.idempotency.rows.map (updateWhere (Reserves actorId current.custodyId key) fun row =>
      { row with responseVersion := some (current.version + 1) })

theorem entered_key (held old : CustodyRecord) (target : CustodyState) (stamp : CustodyStamp)
    (time : Instant) : Row.key (held.entered old target stamp time) = Row.key held := by
  cases stamp <;> rfl

theorem enter_ok (found : s.custody.records.find current.custodyId = some current) :
    enter draws current target actorId key time stamp s = .ok (view, t) ↔
      ∃ (records : Table CustodyRecord) (outbox : Table OutboxMessage)
          (idempotency : Table CustodyReservation),
        records.rows = s.custody.records.replaced (current.entered current target stamp time) ∧
          outbox.rows = s.outbox.rows ++
            [eventMessage (enterEvent draws current target actorId time) draws.message] ∧
          idempotency.rows = answeredCustody s current actorId key ∧
          t = { s with
            outbox
            custody := { s.custody with
              records
              events := s.custody.events ++ [enterEvent draws current target actorId time]
              idempotency } } ∧
          view = viewOf t.custody (current.entered current target stamp time) := by
  have standing : (s.custody.records.find current.custodyId).filter (fun row =>
      row.state = current.state ∧ row.version = current.version) = some current := by
    rw [found]
    exact Option.filter_eq_some_iff.2 ⟨rfl, decide_eq_true ⟨rfl, rfl⟩⟩
  have rewritten : ∀ records : Table CustodyRecord,
      records.rows = s.custody.records.replaced (current.entered current target stamp time) →
        records.find current.custodyId = some (current.entered current target stamp time) := by
    intro records rows
    have looked := Table.find_of_rows_replaced rows current.custodyId
    have same : current.custodyId = Row.key (current.entered current target stamp time) :=
      (entered_key current current target stamp time).symm
    rw [if_pos same, found] at looked
    exact looked
  simp only [enter, steps_ok, standing, Option.some.injEq, exists_eq_left', putCustody_bind_ok,
    recordCustody_bind_ok, Table.replace?_eq_some, Table.rewrite?_eq_some, requiredCustody_ok]
  constructor
  · rintro ⟨records, rows, outbox, sent, idempotency, reserved, custody, looked, rfl, rfl⟩
    rw [rewritten records rows] at looked
    cases looked
    exact ⟨records, outbox, idempotency, rows, sent, reserved, rfl, rfl⟩
  · rintro ⟨records, outbox, idempotency, rows, sent, reserved, rfl, rfl⟩
    exact ⟨records, rows, outbox, sent, idempotency, reserved, _, rewritten records rows, rfl, rfl⟩

end

section

variable {hash : Payload → Digest} {actorId custodyId : Uuid} {key : String} {payload : Payload}
  {time : DateTime} {s t : CourierStore}

def reservationOf (hash : Payload → Digest) (actorId custodyId : Uuid) (key : String)
    (payload : Payload) (time : DateTime) : CustodyReservation where
  actorIdentityId := actorId
  custodyId
  idempotencyKey := key
  requestHash := hash payload
  responseVersion := none
  createdAt := time.instant

theorem reserveCustody_ok {replay : Option CustodyView}
    (ran : reserve hash actorId custodyId key payload time s = .ok (replay, t)) :
    (replay = none ∧ ∃ idempotency : Table CustodyReservation,
        idempotency.rows = s.custody.idempotency.rows ++
          [reservationOf hash actorId custodyId key payload time] ∧
        t = { s with custody := { s.custody with idempotency } }) ∨
      replay.isSome = true ∧ t = s := by
  simp only [reserve, ↓steps_ok, whenSome_ok, ↓putCustody_bind_ok, Table.insert?_eq_some] at ran
  obtain ⟨idempotency, rows, rfl, rfl⟩ | ⟨_, _, _, _, ran⟩ := ran
  · exact .inl ⟨rfl, idempotency, rows, rfl⟩
  · obtain ⟨_, _, required, ran⟩ := bind_ok.1 ran
    obtain ⟨_, _, _, rfl⟩ := requiredCustody_ok.1 required
    obtain ⟨_, ran⟩ := require_bind_ok.1 ran
    obtain ⟨rfl, rfl⟩ := pure_ok.1 ran
    exact .inr ⟨rfl, rfl⟩

end

def newCustody (draws : Draws) (pickup : CourierPickupRecord) (time : Instant) : CustodyRecord where
  custodyId := draws.secondRow
  pickupId := pickup.pickupId
  orderId := pickup.orderId
  merchantId := pickup.merchantId
  courierIdentityId := pickup.assignedCourierIdentityId
  state := .waiting
  version := 1
  sealedAt := none
  verifiedAt := none
  verificationMethod := none
  merchantReleasedAt := none
  custodyAcceptedAt := none
  updatedAt := time

def newChallenge (draws : Draws) (custodyId : Uuid) (codeHash : Digest)
    (expiresAt time : Instant) : PickupChallenge where
  challengeId := draws.row
  custodyId
  codeHash
  expiresAt
  usedAt := none
  createdAt := time

def Owns (reads : CourierReads) (subject : AuthorizationSubject) (merchantId : Uuid) : Prop :=
  ∃ merchant, reads.merchants merchantId = some merchant ∧
    merchant.ownerIdentityId = subject.identityId ∧ merchant.state = .approved

def Holds (store : CourierStore) (subject : AuthorizationSubject) (current : CustodyRecord) :
    Prop :=
  current.courierIdentityId = subject.identityId ∧
    ∃ pickup, store.pickup.pickups.find current.pickupId = some pickup ∧
      pickup.state = .waiting ∧ pickup.orderId = current.orderId ∧
      pickup.merchantId = current.merchantId ∧
      pickup.assignedCourierIdentityId = current.courierIdentityId ∧
      matchesCurrentAssignment store.dispatch pickup = true

structure Entered (s t : CourierStore) (current : CustodyRecord)
    (target : CustodyState) (stamp : CustodyStamp) (time : Instant) : Prop where
  stored : s.custody.records.find current.custodyId = some current
  records : t.custody.records.rows =
    s.custody.records.replaced (current.entered current target stamp time)

structure Activated (draws : Draws) (s t : CourierStore) (pickup : CourierPickupRecord)
    (time : Instant) : Prop where
  found : s.pickup.pickups.find pickup.pickupId = some pickup
  waiting : pickup.state = .waiting
  records : t.custody.records.rows =
    s.custody.records.rows ++ [newCustody draws pickup time]
  challenges : t.custody.challenges = s.custody.challenges

inductive CustodyEffect (draws : Draws) (s t : CourierStore) : Prop where
  | idle (records : t.custody.records = s.custody.records)
      (challenges : t.custody.challenges = s.custody.challenges)
  | activated (pickup : CourierPickupRecord) (time : Instant)
      (activated : Activated draws s t pickup time)
  | sealed (current : CustodyRecord) (codeHash : Digest) (expiresAt time : Instant)
      (waiting : current.state = .waiting)
      (entered : Entered s t current .sealed .sealed time)
      (challenges : t.custody.challenges.rows = s.custody.challenges.rows ++
        [newChallenge draws current.custodyId codeHash expiresAt time])
  | verified (current : CustodyRecord) (challenge : PickupChallenge)
      (method : VerificationMethod) (subject : AuthorizationSubject) (time : Instant)
      (sealed : current.state = .sealed) (holds : Holds s subject current)
      (found : s.custody.challenges.find challenge.challengeId = some challenge)
      (answers : Answers current.custodyId challenge.codeHash time challenge)
      (entered : Entered s t current .verified (.verified method) time)
      (challenges : t.custody.challenges.rows =
        s.custody.challenges.replaced { challenge with usedAt := some time })
  | released (current : CustodyRecord) (time : Instant) (verified : current.state = .verified)
      (entered : Entered s t current .released .released time)
      (challenges : t.custody.challenges = s.custody.challenges)
  | accepted (current : CustodyRecord) (subject : AuthorizationSubject) (time : Instant)
      (released : current.state = .released) (holds : Holds s subject current)
      (entered : Entered s t current .accepted .accepted time)
      (challenges : t.custody.challenges = s.custody.challenges)

section

variable {config : CourierConfig} {draws : Draws} {reads : CourierReads}
  {subject : AuthorizationSubject} {s t : CourierStore} {current : CustodyRecord}
  {view : CustodyView} {time : Instant} {target state : CustodyState} {request : CustodyRequest}

theorem requireMerchant_bind_ok {α : Type} {merchantId : Uuid} {f : Unit → CourierTransaction α}
    {a : α} :
    (requireMerchant reads subject merchantId >>= f) s = .ok (a, t) ↔
      Owns reads subject merchantId ∧ f () s = .ok (a, t) := by
  simp only [requireMerchant, bind_assoc, steps_ok, Owns]
  constructor
  · rintro ⟨merchant, found, owner, approved, rest⟩
    exact ⟨⟨merchant, found, owner, approved⟩, rest⟩
  · rintro ⟨⟨merchant, found, owner, approved⟩, rest⟩
    exact ⟨merchant, found, owner, approved, rest⟩

theorem requireCurrentAssignment_ok {u : Unit} :
    requireCurrentAssignment subject current s = .ok (u, t) ↔ Holds s subject current ∧ s = t := by
  simp only [requireCurrentAssignment, steps_ok, require_ok, Holds]
  constructor
  · rintro ⟨pickup, found, ⟨waiting, order, merchant, courier, own⟩, current, same⟩
    exact ⟨⟨own, pickup, found, waiting, order, merchant, courier.trans own.symm, current⟩, same⟩
  · rintro ⟨⟨own, pickup, found, waiting, order, merchant, courier, current⟩, same⟩
    exact ⟨pickup, found, ⟨waiting, order, merchant, courier.trans own, own⟩, current, same⟩

theorem activate_ok {pickupId actorIdentityId : Uuid}
    (ran : activate draws pickupId actorIdentityId time s = .ok (view, t)) :
    ∃ pickup, s.pickup.pickups.find pickupId = some pickup ∧ pickup.state = .waiting ∧
      (Activated draws s t pickup time ∨
        t = s ∧ ∃ bound, custodyOfOrder? s.custody pickup.orderId = some bound ∧
          BoundTo pickup bound) := by
  simp only [activate, ↓waitingPickup_bind_ok, ↓get_bind_ok, whenSome_ok, ↓putCustody_bind_ok,
    ↓recordCustody_bind_ok, requiredCustody_ok, requireBinding_ok, Table.insert?_eq_some] at ran
  obtain ⟨pickup, found, waiting, ⟨records, rows, _, _, _, _, _, rfl⟩ |
    ⟨_, bound, existing, binds, _, rfl⟩⟩ := ran
  · obtain rfl : pickup.pickupId = pickupId := Table.key_of_find found
    exact ⟨pickup, found, waiting, .inl ⟨found, waiting, rows, rfl⟩⟩
  · exact ⟨pickup, found, waiting, .inr ⟨rfl, bound, existing, binds⟩⟩

theorem enter_entered (s : CourierStore) {between : CourierStore} {actorId : Uuid}
    {key : String} {stamp : CustodyStamp}
    (ran : enter draws current target actorId key time stamp between = .ok (view, t))
    (found : between.custody.records.find current.custodyId = some current)
    (same : between.custody.records = s.custody.records) :
    Entered s t current target stamp time ∧ t.custody.challenges = between.custody.challenges := by
  obtain ⟨records, _, _, rows, _, _, rfl, _⟩ := (enter_ok found).1 ran
  rw [same] at found rows
  exact ⟨⟨found, rows⟩, rfl⟩

theorem targetState_seal (leads : targetState state .sealOrder = some target) :
    state = .waiting ∧ target = .sealed := by
  cases state <;> cases leads
  exact ⟨rfl, rfl⟩

theorem targetState_verify (leads : targetState state .verify = some target) :
    state = .sealed ∧ target = .verified := by
  cases state <;> cases leads
  exact ⟨rfl, rfl⟩

theorem targetState_release (leads : targetState state .release = some target) :
    state = .verified ∧ target = .released := by
  cases state <;> cases leads
  exact ⟨rfl, rfl⟩

theorem targetState_accept (leads : targetState state .accept = some target) :
    state = .released ∧ target = .accepted := by
  cases state <;> cases leads
  exact ⟨rfl, rfl⟩

theorem sealCustody_effect {request : SealRequest} {issued : IssuedPickupCode}
    (ran : sealCustody config draws reads subject request s = .ok (issued, t)) :
    CustodyEffect draws s t := by
  unfold sealCustody at ran
  simp only [↓requireMerchant_bind_ok, ↓getCustody_bind_ok, ↓demand_bind_ok,
    Option.filter_eq_some_iff, decide_eq_true_eq] at ran
  obtain ⟨_, old, ⟨found, _⟩, ran⟩ := ran
  obtain ⟨replay, between, reserved, ran⟩ := bind_ok.1 ran
  obtain ⟨rfl, idempotency, _, rfl⟩ | ⟨filled, rfl⟩ := reserveCustody_ok reserved
  · simp only [whenSome, checkVersion, checkTarget, sealOrder, bind_assoc, ↓steps_ok] at ran
    obtain ⟨_, target, leads, ran⟩ := ran
    obtain ⟨waiting, rfl⟩ := targetState_seal leads
    obtain ⟨_, middle, entered, ran⟩ := bind_ok.1 ran
    simp only [↓steps_ok, ↓putCustody_bind_ok, Table.insert?_eq_some] at ran
    obtain ⟨challenges, rows, ran⟩ := ran
    obtain ⟨_, _, required, finished⟩ := bind_ok.1 ran
    obtain ⟨_, _, _, rfl⟩ := requiredCustody_ok.1 required
    obtain ⟨_, rfl⟩ := pure_ok.1 finished
    have identified : old.custodyId = request.custodyId := Table.key_of_find found
    obtain ⟨written, kept⟩ := enter_entered s entered (by rw [identified]; exact found) rfl
    rw [kept] at rows
    exact .sealed old _ _ _ waiting ⟨written.stored, written.records⟩ rows
  · obtain ⟨stored, rfl⟩ := Option.isSome_iff_exists.1 filled
    obtain ⟨_, rfl⟩ := pure_ok.1 ran
    exact .idle rfl rfl

theorem proceedCustody_effect {idempotency : Table CustodyReservation}
    (found : s.custody.records.find current.custodyId = some current)
    (admitted : request.action ≠ .release → Holds s subject current)
    (ran : proceed config draws subject request current
      { s with custody := { s.custody with idempotency } } = .ok (view, t)) :
    CustodyEffect draws s t := by
  simp only [proceed, checkVersion, checkTarget, ↓steps_ok, ite_ok, Option.filter_eq_some_iff,
    decide_eq_true_eq] at ran
  obtain ⟨_, ⟨action, code, _, method, _, target, leads, ran⟩ |
    ⟨_, supported, target, leads, ran⟩⟩ := ran
  · rw [action] at leads
    obtain ⟨sealed, rfl⟩ := targetState_verify leads
    simp only [verify, ↓steps_ok, ↓putCustody_bind_ok, Table.replace?_eq_some] at ran
    obtain ⟨challenge, listed, challenges, rows, ran⟩ := ran
    have stored := List.mem_of_find?_eq_some listed
    have answers : Answers current.custodyId (config.pickupDigest code) request.time.instant
        challenge := by simpa using List.find?_some listed
    obtain ⟨entered, kept⟩ := enter_entered s ran found rfl
    have held := admitted (by rw [action]; decide)
    refine .verified current challenge method subject request.time.instant sealed held
      (Table.find_of_mem stored) ?_ entered ?_
    · rw [answers.2.1]
      exact answers
    · rw [kept]
      exact rows
  · obtain ⟨entered, kept⟩ := enter_entered s ran found rfl
    obtain release | accept := supported
    · rw [release] at leads
      obtain ⟨verified, rfl⟩ := targetState_release leads
      exact .released current request.time.instant verified entered kept
    · rw [accept] at leads
      obtain ⟨released, rfl⟩ := targetState_accept leads
      have held := admitted (by rw [accept]; decide)
      exact .accepted current subject request.time.instant released held entered kept

theorem custodyRequest_effect
    (ran : Application.command config draws reads subject request s = .ok (view, t)) :
    CustodyEffect draws s t := by
  unfold Application.command at ran
  simp only [↓getCustody_bind_ok, ↓demand_bind_ok] at ran
  obtain ⟨current, found, ran⟩ := ran
  obtain ⟨_, middle, admitted, ran⟩ := bind_ok.1 ran
  have permitted : s = middle ∧ (request.action ≠ .release → Holds s subject current) := by
    simp only [checkAccess, ite_ok, ↓steps_ok, ↓requireMerchant_bind_ok, require_ok,
      requireCurrentAssignment_ok] at admitted
    obtain ⟨release, _, _, _, _, rfl⟩ | ⟨_, _, holds, rfl⟩ := admitted
    · exact ⟨rfl, fun apart => absurd release apart⟩
    · exact ⟨rfl, fun _ => holds⟩
  obtain ⟨rfl, held⟩ := permitted
  obtain ⟨replay, between, reserved, ran⟩ := bind_ok.1 ran
  obtain ⟨rfl, idempotency, _, rfl⟩ | ⟨filled, rfl⟩ := reserveCustody_ok reserved
  · have identified : current.custodyId = request.custodyId := Table.key_of_find found
    exact proceedCustody_effect (by rw [identified]; exact found) held ran
  · obtain ⟨stored, rfl⟩ := Option.isSome_iff_exists.1 filled
    obtain ⟨_, rfl⟩ := pure_ok.1 ran
    exact .idle rfl rfl

theorem custodyCommand_effect {command : CustodyCommand}
    (ran : command.body config draws reads subject s = .ok (view, t)) :
    CustodyEffect draws s t := by
  cases command with
  | activateFromWaiting pickupId actorIdentityId time =>
    obtain ⟨pickup, _, _, activated | ⟨rfl, _⟩⟩ := activate_ok ran
    · exact .activated pickup time.instant activated
    · exact .idle rfl rfl
  | sealCustody =>
    obtain ⟨issued, sealed, _⟩ := bind_pure_ok.1 ran
    exact sealCustody_effect sealed
  | command => exact custodyRequest_effect ran

/-- One action of the graph on a custody, which stays with its order and its courier. -/
structure CustodyStep (old new : CustodyRecord) : Prop where
  orderId : new.orderId = old.orderId
  courier : new.courierIdentityId = old.courierIdentityId
  version : new.version = old.version + 1
  leads : ∃ action, targetState old.state action = some new.state

theorem Entered.evolves {stamp : CustodyStamp} (entered : Entered s t current target stamp time)
    (action : CustodyAction)
    (leads : targetState current.state action = some target) :
    Evolves CustodyStep s.custody.records t.custody.records := by
  refine .of_replaced entered.records (Table.mem_of_find entered.stored) ?_
    (.single ⟨?_, ?_, ?_, action, leads.trans ?_⟩) <;>
  cases stamp <;> rfl

theorem CustodyEffect.evolves (effect : CustodyEffect draws s t) :
    Evolves CustodyStep s.custody.records t.custody.records := by
  cases effect with
  | idle records => exact .of_eq records
  | activated _ _ activated => exact .of_append activated.records
  | sealed _ _ _ _ waiting entered => exact entered.evolves .sealOrder (by rw [waiting]; rfl)
  | verified _ _ _ _ _ sealed _ _ _ entered =>
    exact entered.evolves .verify (by rw [sealed]; rfl)
  | released _ _ verified entered => exact entered.evolves .release (by rw [verified]; rfl)
  | accepted _ _ _ released _ entered => exact entered.evolves .accept (by rw [released]; rfl)

end

end Ayo.Custody.Effects
