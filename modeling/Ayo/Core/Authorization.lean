/- digest: The authorization subject, permissions, and idempotency reservations. -/

import Ayo.Core.Values
import Ayo.Kernel.KeyedTable

namespace Ayo.Core.Authorization

open Kernel.UnitOfWork Kernel.KeyedTable Values

variable {σ α : Type} {time : DateTime} {a : α} {permission : String}

inductive IdentityType where
  | anonymous
  | rider
  | driver
  | staff
  | administrator
  | service
  | merchant
  | serviceProvider
deriving DecidableEq

def IdentityType.actorType : IdentityType → String
  | .anonymous => "anonymous"
  | .rider => "rider"
  | .driver => "driver"
  | .staff => "staff"
  | .administrator => "administrator"
  | .service => "service"
  | .merchant => "service"
  | .serviceProvider => "service"

structure AuthorizationSubject where
  identityId : Uuid
  identityType : IdentityType

/-- The answers of the authorization store while one command runs. -/
abbrev Grants := Uuid → String → DateTime → Bool

def hasPermission (grants : Grants) (identityId : Uuid) (permission : String) (time : DateTime) :
    Transaction σ Failure Bool := do
  require (time.aware = true) (.value "Authorization decision time must be timezone-aware")
  pure (grants identityId permission time)

def requirePermission (grants : Grants) (subject : AuthorizationSubject) (permission : String)
    (time : DateTime) : Transaction σ Failure Unit := do
  let allowed ← hasPermission grants subject.identityId permission time
  require (allowed = true) (.conflict "access_denied")

def validateIdempotencyKey (value : String) : Transaction σ Failure Unit :=
  require (16 ≤ value.length ∧ value.length ≤ 128) (.conflict "idempotency_key_invalid")

structure Reservation where
  actorId : Uuid
  (operation idempotencyKey : String)
  requestHash : Digest
  responseReference : Uuid
  createdAt : Instant

instance : Row Reservation (Uuid × String × String) :=
  .keyed fun row => (row.actorId, row.operation, row.idempotencyKey)

/-- Insert a reservation on conflict do nothing; a conflicting one must have the same hash, and
its response reference is the canonical one. -/
protected def reserveIdempotency (hash : Payload → Digest) (actorId : Uuid) (operation key : String)
    (payload : Payload) (responseReference : Uuid) (time : DateTime) :
    Transaction (Table Reservation) Failure Uuid := do
  let reservations ← get
  let row : Reservation :=
    { actorId, operation, idempotencyKey := key, requestHash := hash payload, responseReference,
      createdAt := time.instant }
  whenSome (reservations.insert? row) (fun inserted => do
      put inserted
      pure responseReference)
    (do
      let existing ← demand (reservations.find (actorId, operation, key)) (.integrity "idempotency")
      require (existing.requestHash = hash payload) (.conflict "idempotency_conflict")
      pure existing.responseReference)

def canonicalReference (reservations : Table Reservation) (actorId : Uuid) (operation key : String)
    (responseReference : Uuid) : Uuid :=
  (reservations.find (actorId, operation, key)).elim responseReference Reservation.responseReference

variable {grants : Grants} {identityId actorId responseReference canonical : Uuid}
  {f : Unit → Transaction σ Failure α} {subject : AuthorizationSubject} {operation key : String}
  {payload : Payload} {s t : Table Reservation} {hash : Payload → Digest}

theorem hasPermission_bind_ok {f : Bool → Transaction σ Failure α} {s t : σ} :
    (hasPermission grants identityId permission time >>= f) s = .ok (a, t) ↔
      time.aware = true ∧ f (grants identityId permission time) s = .ok (a, t) := by
  simp only [hasPermission, bind_assoc, pure_bind, require_bind_ok]

theorem requirePermission_bind_ok {s t : σ} :
    (requirePermission grants subject permission time >>= f) s = .ok (a, t) ↔
      time.aware = true ∧ grants subject.identityId permission time = true ∧
        f () s = .ok (a, t) := by
  simp only [requirePermission, bind_assoc, hasPermission_bind_ok, require_bind_ok]

theorem validateIdempotencyKey_bind_ok {value : String} {s t : σ} :
    (validateIdempotencyKey value >>= f) s = .ok (a, t) ↔
      (16 ≤ value.length ∧ value.length ≤ 128) ∧ f () s = .ok (a, t) := by
  simp only [validateIdempotencyKey, require_bind_ok]

theorem guards_ok :
    (∀ {grants : Grants} {subject : AuthorizationSubject} {permission : String} {time : DateTime}
      {f : Unit → Transaction σ Failure α} {s t a},
        (requirePermission grants subject permission time >>= f) s = .ok (a, t) ↔
          time.aware = true ∧ grants subject.identityId permission time = true ∧
            f () s = .ok (a, t)) ∧
    (∀ {value : String} {f : Unit → Transaction σ Failure α} {s t a},
      (validateIdempotencyKey value >>= f) s = .ok (a, t) ↔
        (16 ≤ value.length ∧ value.length ≤ 128) ∧ f () s = .ok (a, t)) ∧
    ∀ {condition : Prop} [Decidable condition] {failure} {f : Unit → Transaction σ Failure α}
      {s t a}, (require condition failure >>= f) s = .ok (a, t) ↔ condition ∧ f () s = .ok (a, t) :=
  ⟨requirePermission_bind_ok, validateIdempotencyKey_bind_ok, require_bind_ok⟩

theorem hasPermission_readOnly :
    ReadOnly (hasPermission grants identityId permission time : Transaction σ Failure Bool) :=
  .requires <| .pure

theorem requirePermission_readOnly :
    ReadOnly (requirePermission grants subject permission time : Transaction σ Failure Unit) :=
  .bind hasPermission_readOnly fun _ => .require

theorem reserveIdempotency_ok
    (ran : Authorization.reserveIdempotency hash actorId operation key payload responseReference
      time s = .ok (canonical, t)) :
    (canonical = responseReference ∧ s.find (actorId, operation, key) = none ∧ t.rows = s.rows ++
        [{ actorId, operation, idempotencyKey := key, requestHash := hash payload,
           responseReference, createdAt := time.instant }]) ∨
    (∃ existing, s.find (actorId, operation, key) = some existing ∧
      existing.requestHash = hash payload ∧ canonical = existing.responseReference ∧
      t = s) := by
  unfold Authorization.reserveIdempotency at ran
  simp only [↓steps_ok, whenSome_ok, Table.insert?_eq_some] at ran
  obtain ⟨inserted, inserts, rfl, rfl⟩ | ⟨_, existing, found, same, rfl, rfl⟩ := ran
  · exact .inl ⟨rfl, Table.find_eq_none_of_rows_append inserts, inserts⟩
  · exact .inr ⟨existing, found, same, rfl, rfl⟩

theorem reserveIdempotency_keeps
    (ran : Authorization.reserveIdempotency hash actorId operation key payload responseReference
      time s = .ok (canonical, t)) {other : Uuid × String × String} {reservation : Reservation}
    (found : s.find other = some reservation) : t.find other = some reservation := by
  obtain ⟨_, _, rows⟩ | ⟨_, _, _, _, rfl⟩ := reserveIdempotency_ok ran
  · rw [Table.find_of_rows_append rows, found]
    rfl
  · exact found

theorem reserveIdempotency_of_stored {reservations : Table Reservation} {existing : Reservation}
    (found : reservations.find (actorId, operation, key) = some existing)
    (same : existing.requestHash = hash payload) (responseReference : Uuid) (time : DateTime) :
    Authorization.reserveIdempotency hash actorId operation key payload responseReference time
      reservations = .ok (existing.responseReference, reservations) := by
  unfold Authorization.reserveIdempotency
  refine get_bind_ok.2 (whenSome_ok.2 (.inr ⟨?_, ?_⟩))
  · refine Option.eq_none_iff_forall_not_mem.2 fun t inserted => ?_
    have free := Table.find_eq_none_of_rows_append (Table.insert?_eq_some.1 inserted)
    rw [show Row.key _ = (actorId, operation, key) from rfl, found] at free
    cases free
  · refine demand_bind_ok.2 ⟨existing, found, require_bind_ok.2 ⟨same, pure_ok.2 ⟨rfl, rfl⟩⟩⟩

theorem eq_canonicalReference
    (ran : Authorization.reserveIdempotency hash actorId operation key payload responseReference
      time s = .ok (canonical, t)) :
    canonical = canonicalReference s actorId operation key responseReference := by
  obtain ⟨rfl, free, _⟩ | ⟨existing, found, _, rfl, _⟩ := reserveIdempotency_ok ran
  · simp [canonicalReference, free]
  · simp [canonicalReference, found]

theorem reserving_ok {get : σ → Table Reservation}
    {put : Table Reservation → σ → σ} {store later : σ} {f : Uuid → Transaction σ Failure α}
    (ran : (within get put
      (Authorization.reserveIdempotency hash actorId operation key payload responseReference
        time) >>= f) store = .ok (a, later)) :
    ∃ idempotency, f (canonicalReference (get store) actorId operation key responseReference)
      (put idempotency store) = .ok (a, later) := by
  obtain ⟨_, _, enclosed, ran⟩ := bind_ok.1 ran
  obtain ⟨idempotency, reserved, rfl⟩ := within_ok.1 enclosed
  exact ⟨idempotency, eq_canonicalReference reserved ▸ ran⟩

end Ayo.Core.Authorization

/-! Requests on record in an idempotency table, and that they stay on record. -/

namespace Ayo.Core.Retries

open Kernel.UnitOfWork Kernel.KeyedTable Kernel.Related Values Authorization

variable {hash : Payload → Digest} {actorId reference : Uuid} {operation key : String}
  {payload : Payload} {reservations : Table Reservation}

def OnRecord (hash : Payload → Digest) (reservations : Table Reservation) (actorId : Uuid)
    (operation key : String) (payload : Payload) (reference : Uuid) : Prop :=
  ∃ reservation, reservations.find (actorId, operation, key) = some reservation ∧
    reservation.requestHash = hash payload ∧ reservation.responseReference = reference

def Reservable (hash : Payload → Digest) (reservations : Table Reservation) (actorId : Uuid)
    (operation key : String) (payload : Payload) (reference : Uuid) : Prop :=
  ∀ reservation ∈ reservations.find (actorId, operation, key),
    reservation.requestHash = hash payload ∧ reservation.responseReference = reference
deriving Decidable

/-- Every reservation of the first table stands in the second as it was made. -/
def Outlives (before after : Table Reservation) : Prop :=
  ∀ key reservation, before.find key = some reservation → after.find key = some reservation

theorem Outlives.refl (reservations : Table Reservation) : Outlives reservations reservations :=
  fun _ _ found => found

theorem Outlives.trans {first second third : Table Reservation} (earlier : Outlives first second)
    (later : Outlives second third) : Outlives first third :=
  fun key reservation found => later key reservation (earlier key reservation found)

instance : IsPreorder (Table Reservation) Outlives where
  refl := .refl
  trans _ _ _ := .trans

section

variable {actorId responseReference canonical : Uuid} {operation key : String} {payload : Payload}
  {time : DateTime} {s t : Table Reservation}

theorem outlives_of_reserved
    (ran : Authorization.reserveIdempotency hash actorId operation key payload responseReference
      time s = .ok (canonical, t)) : Outlives s t :=
  fun _ _ found => reserveIdempotency_keeps ran found

theorem reserveIdempotency_relates :
    Relates Outlives
      (Authorization.reserveIdempotency hash actorId operation key payload responseReference time) :=
  fun _ _ _ ran => outlives_of_reserved ran

theorem onRecord_of_reserved
    (ran : Authorization.reserveIdempotency hash actorId operation key payload responseReference
      time s = .ok (canonical, t)) :
    OnRecord hash t actorId operation key payload canonical := by
  obtain ⟨rfl, _, rows⟩ | ⟨existing, found, same, rfl, rfl⟩ := reserveIdempotency_ok ran
  · exact ⟨_, Table.find_of_inserted rows, rfl, rfl⟩
  · exact ⟨existing, found, same, rfl⟩

end

theorem OnRecord.outlives {s t : Table Reservation}
    (recorded : OnRecord hash s actorId operation key payload reference) (outlives : Outlives s t) :
    OnRecord hash t actorId operation key payload reference := by
  obtain ⟨reservation, found, same, answers⟩ := recorded
  exact ⟨reservation, outlives _ _ found, same, answers⟩

theorem OnRecord.reserves
    (recorded : OnRecord hash reservations actorId operation key payload reference)
    (responseReference : Uuid) (time : DateTime) :
    Authorization.reserveIdempotency hash actorId operation key payload responseReference time
      reservations = .ok (reference, reservations) := by
  obtain ⟨reservation, found, same, rfl⟩ := recorded
  exact reserveIdempotency_of_stored found same responseReference time

theorem OnRecord.reservable
    (recorded : OnRecord hash reservations actorId operation key payload reference) :
    Reservable hash reservations actorId operation key payload reference := by
  obtain ⟨reservation, found, same, answers⟩ := recorded
  intro other held
  cases found.symm.trans held
  exact ⟨same, answers⟩

theorem Reservable.reserves
    (reservable : Reservable hash reservations actorId operation key payload reference)
    (time : DateTime) :
    ∃ t, Authorization.reserveIdempotency hash actorId operation key payload reference time
      reservations = .ok (reference, t) := by
  cases held : reservations.find (actorId, operation, key) with
  | some reservation =>
    obtain ⟨same, answers⟩ := reservable reservation held
    have recorded : OnRecord hash reservations actorId operation key payload reference :=
      ⟨reservation, held, same, answers⟩
    exact ⟨reservations, recorded.reserves reference time⟩
  | none =>
    let row : Reservation :=
      { actorId, operation, idempotencyKey := key, requestHash := hash payload,
        responseReference := reference, createdAt := time.instant }
    have free : ∀ other ∈ reservations.rows, ¬ Row.clash other row := Table.find_eq_none.1 held
    obtain ⟨t, inserted⟩ := Table.exists_inserted free
    refine ⟨t, ?_⟩
    unfold Authorization.reserveIdempotency
    refine get_bind_ok.2 (whenSome_ok.2 (.inl ⟨t, Table.insert?_eq_some.2 inserted, ?_⟩))
    exact put_bind_ok.2 (pure_ok.2 ⟨rfl, rfl⟩)

end Ayo.Core.Retries
