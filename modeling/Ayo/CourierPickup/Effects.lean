/- digest: What each successful courier pickup command does to the database. -/

import Ayo.Custody.Effects

namespace Ayo.CourierPickup.Effects

open Kernel.UnitOfWork Kernel.KeyedTable Core.Values Core.Authorization Courier.Store
  Courier.Writers
open CourierDispatch.Repository (matchesCurrentAssignment)
open Models Idempotency Repository Application
open Custody.Repository (BoundTo custodyOfOrder? requireExistingForPickup)
open Custody.Effects (Owns waitingPickup_bind_ok requireBinding_ok)

section

variable {α : Type} {s t : CourierStore} {a : α}

theorem putPickup_bind_ok {change : PickupStore → PickupStore} {f : Unit → CourierTransaction α} :
    (putPickup change >>= f) s = .ok (a, t) ↔
      f () { s with pickup := change s.pickup } = .ok (a, t) := by
  simp only [putPickup, bind_assoc, steps_ok]

theorem getPickup_bind_ok {pickupId : Uuid}
    {f : Option CourierPickupRecord → CourierTransaction α} :
    (getPickup pickupId >>= f) s = .ok (a, t) ↔
      f (s.pickup.pickups.find pickupId) s = .ok (a, t) := by
  simp only [getPickup, bind_assoc, pure_bind, get_bind_ok]

end

section

variable {bytes : StoredSnapshot → Nat} {draws : Draws} {current : CourierPickupRecord}
  {target : CourierPickupState} {action : CourierPickupAction} {actorId : Uuid} {key : String}
  {step : PickupStep} {location : Option LocationEvidence} {s t : CourierStore}
  {view : CourierPickupView}

end

section

variable {bytes : StoredSnapshot → Nat} {actorId pickupId : Uuid} {key : String}
  {action : CourierPickupAction} {requestHash : Digest} {time : Instant}
  {s t : CourierStore}

def reservationOf (actorId pickupId : Uuid) (key : String) (action : CourierPickupAction)
    (requestHash : Digest) (time : Instant) : PickupReservation where
  actorIdentityId := actorId
  pickupId
  action
  idempotencyKey := key
  requestHash
  digestVersion := 1
  responseSchemaVersion := Idempotency.responseSchemaVersion
  responseVersion := none
  responseSnapshot := none
  createdAt := time

def Replays (bytes : StoredSnapshot → Nat) (store : CourierStore) (actorId pickupId : Uuid)
    (key : String) (action : CourierPickupAction) (requestHash : Digest)
    (answer : CourierPickupView) : Prop :=
  ∃ reserved stored, store.pickup.idempotency.find (actorId, action, key) = some reserved ∧
    reserved.pickupId = pickupId ∧ reserved.requestHash = requestHash ∧ Compatible reserved ∧
    reserved.responseSnapshot = some stored ∧ decode bytes stored = some answer ∧
    answer.pickup.pickupId = pickupId ∧ reserved.responseVersion = some answer.pickup.version

theorem answerOf_bind_ok {α : Type} {reserved : PickupReservation}
    {f : CourierPickupView → CourierTransaction α} {a : α} :
    (answerOf bytes pickupId reserved >>= f) s = .ok (a, t) ↔
      ∃ answer stored, Compatible reserved ∧ reserved.responseSnapshot = some stored ∧
        decode bytes stored = some answer ∧ answer.pickup.pickupId = pickupId ∧
        reserved.responseVersion = some answer.pickup.version ∧
        f answer s = .ok (a, t) := by
  simp only [answerOf, bind_assoc, pure_bind, steps_ok, Option.bind_eq_some_iff]
  constructor
  · rintro ⟨compatible, answer, ⟨stored, held, decoded⟩, ⟨own, version⟩, rest⟩
    exact ⟨answer, stored, compatible, held, decoded, own, version, rest⟩
  · rintro ⟨answer, stored, compatible, held, decoded, own, version, rest⟩
    exact ⟨compatible, answer, ⟨stored, held, decoded⟩, ⟨own, version⟩, rest⟩

theorem reserve_bind_ok {α : Type} {f : Option CourierPickupView → CourierTransaction α} {a : α} :
    (reserve bytes actorId pickupId key action requestHash time >>= f) s = .ok (a, t) ↔
      (∃ idempotency : Table PickupReservation, idempotency.rows = s.pickup.idempotency.rows ++
            [reservationOf actorId pickupId key action requestHash time] ∧
          f none { s with pickup := { s.pickup with idempotency } } = .ok (a, t)) ∨
        ∃ answer, Replays bytes s actorId pickupId key action requestHash answer ∧
          f (some answer) s = .ok (a, t) := by
  simp only [reserve, bind_assoc, get_bind_ok]
  cases inserted : s.pickup.idempotency.insert?
      (reservationOf actorId pickupId key action requestHash time) with
  | some idempotency =>
    have rows := Table.insert?_eq_some.1 inserted
    have free : s.pickup.idempotency.find (actorId, action, key) = none :=
      Table.find_eq_none_of_rows_append rows
    have unanswered : ∀ answer,
        ¬ Replays bytes s actorId pickupId key action requestHash answer := by
      rintro answer ⟨reserved, _, standing, _⟩
      rw [free] at standing
      cases standing
    have alone : ∀ other : Table PickupReservation, other.rows = s.pickup.idempotency.rows ++
          [reservationOf actorId pickupId key action requestHash time] ↔ other = idempotency := by
      intro other
      rw [← rows]
      exact ⟨fun same => Table.ext same, fun same => same ▸ rfl⟩
    unfold reservationOf at inserted alone
    rw [inserted]
    unfold reservationOf
    simp only [whenSome, bind_assoc, putPickup_bind_ok, pure_bind, alone, exists_eq_left,
      unanswered, false_and, exists_false, or_false]
  | none =>
    have unfit : ∀ other : Table PickupReservation, other.rows ≠ s.pickup.idempotency.rows ++
          [reservationOf actorId pickupId key action requestHash time] := by
      intro other rows
      rw [Table.insert?_eq_some.2 rows] at inserted
      cases inserted
    unfold reservationOf at inserted unfit
    rw [inserted]
    unfold reservationOf
    simp only [whenSome, bind_assoc, pure_bind, steps_ok, answerOf_bind_ok, unfit, false_and,
      exists_false, false_or]
    constructor
    · rintro ⟨reserved, standing, ⟨own, hashed⟩, answer, stored, compatible, held, decoded, same,
        version, rest⟩
      exact ⟨answer, ⟨reserved, stored, standing, own, hashed, compatible, held, decoded, same,
        version⟩, rest⟩
    · rintro ⟨answer, ⟨reserved, stored, standing, own, hashed, compatible, held, decoded, same,
        version⟩, rest⟩
      exact ⟨reserved, standing, ⟨own, hashed⟩, answer, stored, compatible, held, decoded, same,
        version, rest⟩

end

section

variable {config : CourierConfig} {draws : Draws} {reads : CourierReads}
  {subject : AuthorizationSubject} {s t : CourierStore} {current : CourierPickupRecord}
  {view : CourierPickupView} {merchantId : Option Uuid} {α : Type} {a : α}
  {f : Unit → CourierTransaction α} {request : PickupRequest} {supplied : SuppliedLocation}

def Acts (reads : CourierReads) (subject : AuthorizationSubject) (merchantId : Option Uuid)
    (current : CourierPickupRecord) (action : CourierPickupAction) (permission : String) : Prop :=
  match merchantId with
  | some merchantId =>
    Owns reads subject merchantId ∧ current.merchantId = merchantId ∧
      permission = merchantPermission action
  | none =>
    current.assignedCourierIdentityId = subject.identityId ∧ permission = courierPermission action

theorem actingFor_bind_ok {action : CourierPickupAction} {f : String → CourierTransaction α} :
    (actingFor reads subject merchantId current action >>= f) s = .ok (a, t) ↔
      ∃ permission, Acts reads subject merchantId current action permission ∧
        f permission s = .ok (a, t) := by
  cases merchantId with
  | none =>
    simp only [actingFor, whenSome, bind_assoc, pure_bind, require_bind_ok, Acts, and_assoc,
      exists_and_left, exists_eq_left]
  | some merchantId =>
    simp only [actingFor, whenSome, bind_assoc, pure_bind, steps_ok, Acts, Owns]
    constructor
    · rintro ⟨merchant, found, ⟨owner, own⟩, approved, rest⟩
      exact ⟨_, ⟨⟨merchant, found, owner, approved⟩, own, rfl⟩, rest⟩
    · rintro ⟨_, ⟨⟨merchant, found, owner, approved⟩, own, rfl⟩, rest⟩
      exact ⟨merchant, found, ⟨owner, own⟩, approved, rest⟩

theorem requireCurrentAssignment_bind_ok : (requireCurrentAssignment current >>= f) s = .ok (a, t) ↔
      matchesCurrentAssignment s.dispatch current = true ∧ f () s = .ok (a, t) := by
  simp only [requireCurrentAssignment, bind_assoc, steps_ok]

structure Admitted (reads : CourierReads) (subject : AuthorizationSubject) (store : CourierStore)
    (request : PickupRequest) (merchantId : Option Uuid) (supplied : SuppliedLocation)
    (current : CourierPickupRecord) (permission : String) (assignmentId : Uuid) : Prop where
  acts : Acts reads subject merchantId current request.action permission
  granted : reads.grants subject.identityId permission (.utc request.time.instant) = true
  assigned : current.assignmentId = some assignmentId
  standing : merchantId = none → matchesCurrentAssignment store.dispatch current = true
  aware : ∀ observedAt ∈ supplied.observedAt, observedAt.aware = true

private theorem guarded_iff {condition check rest : Prop} :
    (condition ∧ check ∧ rest ∨ ¬ condition ∧ rest) ↔ (condition → check) ∧ rest := by
  by_cases holds : condition <;> simp [holds]

theorem admit_bind_ok {f : String × Uuid → CourierTransaction α} :
    (checkAdmission reads subject request merchantId supplied request.time.instant current >>= f) s =
        .ok (a, t) ↔
      ∃ permission assignmentId,
        Admitted reads subject s request merchantId supplied current permission assignmentId ∧
          f (permission, assignmentId) s = .ok (a, t) := by
  have timely : (DateTime.utc request.time.instant).aware = true := rfl
  have split : ∀ (x y : CourierTransaction (String × Uuid)),
      (if merchantId = none then x else y) >>= f =
        if merchantId = none then x >>= f else y >>= f := by
    intro x y
    split <;> rfl
  simp only [checkAdmission, bind_assoc, actingFor_bind_ok, hasPermission_bind_ok, timely, true_and,
    steps_ok, split, pure_bind]
  simp only [ite_ok, requireCurrentAssignment_bind_ok, require_bind_ok, guarded_iff]
  constructor
  · rintro ⟨permission, acts, granted, assignmentId, assigned, standing, aware, rest⟩
    exact ⟨permission, assignmentId, ⟨acts, granted, assigned, standing, aware⟩, rest⟩
  · rintro ⟨permission, assignmentId, ⟨acts, granted, assigned, standing, aware⟩, rest⟩
    exact ⟨permission, acts, granted, assignmentId, assigned, standing, aware, rest⟩

/-- What the replay of an acknowledgement needs: a waiting pickup and the custody bound to it. -/
def CustodyStands (store : CourierStore) (request : PickupRequest) : Prop :=
  request.action = .acknowledgeArrival →
    ∃ pickup custody, store.pickup.pickups.find request.pickupId = some pickup ∧
      pickup.state = .waiting ∧ custodyOfOrder? store.custody pickup.orderId = some custody ∧
      BoundTo pickup custody

theorem requireReplayCustody_bind_ok : (requireReplayCustody request >>= f) s = .ok (a, t) ↔
      CustodyStands s request ∧ f () s = .ok (a, t) := by
  have exists_ok : (∃ view u, requireExistingForPickup request.pickupId s = .ok (view, u) ∧
      f () u = .ok (a, t)) ↔
      (∃ pickup custody, s.pickup.pickups.find request.pickupId = some pickup ∧
        pickup.state = .waiting ∧ custodyOfOrder? s.custody pickup.orderId = some custody ∧
        BoundTo pickup custody) ∧ f () s = .ok (a, t) := by
    simp only [requireExistingForPickup, waitingPickup_bind_ok, steps_ok, requireBinding_ok,
      Option.some.injEq]
    constructor
    · rintro ⟨_, _, ⟨pickup, found, waiting, custody, existing, _, rfl, binds, _, rfl⟩, rest⟩
      exact ⟨⟨pickup, custody, found, waiting, existing, binds⟩, rest⟩
    · rintro ⟨⟨pickup, custody, found, waiting, existing, binds⟩, rest⟩
      exact ⟨_, s, ⟨pickup, found, waiting, custody, existing, custody, rfl, binds, rfl, rfl⟩, rest⟩
  unfold requireReplayCustody CustodyStands
  by_cases acknowledges : request.action = .acknowledgeArrival
  · simp only [acknowledges, ↓reduceIte, true_implies, bind_assoc, pure_bind]
    rw [bind_ok]
    simp only [recast_ok]
    exact exists_ok
  · simp only [acknowledges, ↓reduceIte, false_implies, true_and, pure_bind]

theorem commandOn_ok :
    commandOn config draws reads subject request merchantId supplied s = .ok (view, t) ↔
      request.time.aware = true ∧ ∃ current permission assignmentId,
        s.pickup.pickups.find request.pickupId = some current ∧
        Admitted reads subject s request merchantId supplied current permission assignmentId ∧
        ((∃ idempotency : Table PickupReservation, idempotency.rows = s.pickup.idempotency.rows ++
              [reservationOf subject.identityId request.pickupId request.idempotencyKey
                request.action
                (config.hash
                  (digestOf subject request merchantId supplied current assignmentId).canonical)
                request.time.instant] ∧
            proceed config draws subject request supplied permission request.time.instant current
              { s with pickup := { s.pickup with idempotency } } = .ok (view, t)) ∨
          (Replays config.snapshotBytes s subject.identityId request.pickupId
              request.idempotencyKey request.action
              (config.hash
                (digestOf subject request merchantId supplied current assignmentId).canonical)
              view ∧
            CustodyStands s request ∧ t = s)) := by
  simp only [commandOn, utcTime, utc_bind_ok, getPickup_bind_ok, demand_bind_ok, admit_bind_ok,
    reserve_bind_ok]
  simp only [whenSome, requireReplayCustody_bind_ok, pure_ok]
  refine and_congr_right fun aware => ?_
  constructor
  · rintro ⟨current, found, permission, assignmentId, admitted, fresh | ⟨_, replays, stands, rfl,
      rfl⟩⟩
    · exact ⟨current, permission, assignmentId, found, admitted, .inl fresh⟩
    · exact ⟨current, permission, assignmentId, found, admitted, .inr ⟨replays, stands, rfl⟩⟩
  · rintro ⟨current, permission, assignmentId, found, admitted, fresh | ⟨replays, stands, rfl⟩⟩
    · exact ⟨current, found, permission, assignmentId, admitted, .inl fresh⟩
    · exact ⟨current, found, permission, assignmentId, admitted,
        .inr ⟨view, replays, stands, rfl, rfl⟩⟩

end

end Ayo.CourierPickup.Effects
