/- digest: Refresh-token families with their consumed hashes and their sessions. -/

import Ayo.RateLimit.Repository

namespace Ayo.Authentication.Tokens

open Kernel.UnitOfWork Kernel.KeyedTable Kernel.Updates Core.Values RateLimit.Models

inductive FamilyStatus where
  | active
  | revoked
  | expired
deriving DecidableEq

/-- A row of `token_families`. -/
structure TokenFamily where
  (familyId identityId sessionId : Uuid)
  currentTokenHash : Bytes
  rotationCounter : Nat
  status : FamilyStatus
  (createdAt expiresAt : Instant)
  (revokedAt replayDetectedAt : Option Instant)

instance : Row TokenFamily Uuid := .keyedUnique TokenFamily.familyId TokenFamily.currentTokenHash

structure TokenRotation where
  (rotationId familyId : Uuid)
  tokenHash : Bytes
  rotationCounter : Nat
  consumedAt : Instant

instance : Row TokenRotation Uuid where
  key := TokenRotation.rotationId
  clash a b := a.rotationId = b.rotationId ∨ a.tokenHash = b.tokenHash ∨
    (a.familyId, a.rotationCounter) = (b.familyId, b.rotationCounter)
  clash_symm clash := clash.imp Eq.symm fun other => other.imp Eq.symm Eq.symm

structure SessionRecord where
  sessionId : Uuid
  (identityId tokenFamilyId : Option Uuid)
  refreshRotationCounter : Nat
  tokenHash : Bytes
  (createdAt expiresAt : Instant)
  revokedAt : Option Instant
  revocationReason : Option String
  version : Nat

instance : Row SessionRecord Uuid := .keyedUnique SessionRecord.sessionId SessionRecord.tokenHash

variable (session : SessionRecord)

def SessionRecord.isActiveAt (instant : Instant) : Bool :=
  session.revokedAt.isNone && decide (instant < session.expiresAt)

structure TokenStore where
  families : Table TokenFamily
  rotations : Table TokenRotation
  sessions : Table SessionRecord

def TokenStore.empty : TokenStore := ⟨.empty, .empty, .empty⟩

inductive RotationOutcome where
  | rotated
  | replayDetected
  | denied
deriving DecidableEq

structure RotationResult where
  outcome : RotationOutcome
  (familyId sessionId : Uuid)
  rotationCounter : Nat

def noResultFound : Failure := .value "No row was found when one was required"

def createSession : Transaction TokenStore Failure SessionRecord := do
  let store ← get
  let sessions ← demand (store.sessions.insert? session)
    (.conflict "Session identifier or token fingerprint already exists")
  put { store with sessions }
  pure session

def SessionRecord.revoke (time : Instant) (reason : String) (session : SessionRecord) :
    SessionRecord :=
  { session with
    revokedAt := some time
    revocationReason := some reason
    version := session.version + 1 }

def SessionRecord.Standing : Prop := session.revokedAt = none
deriving Decidable

def revokeSessions (chosen : SessionRecord → Prop) [DecidablePred chosen] (time : Instant)
    (reason : String) : Transaction TokenStore Failure Nat := do
  let store ← get
  let sessions ← demand (store.sessions.rewrite?
      (updateWhere (fun session => chosen session ∧ session.Standing) (.revoke time reason)))
    (.integrity "sessions")
  put { store with sessions }
  pure (store.sessions.rows.countP fun session => decide (chosen session ∧ session.Standing))

def revokeSession (sessionId : Uuid) (time : Instant) (reason : String) :
    Transaction TokenStore Failure (Option SessionRecord) := do
  let revoked ← revokeSessions (fun session => session.sessionId = sessionId) time reason
  let store ← get
  let existing := store.sessions.find sessionId
  require (revoked ≠ 0 ∨ ∀ session ∈ existing, session.revocationReason = some reason)
    (.conflict "Session was already revoked for a different reason")
  pure existing

def revokeSessionsOfIdentity (identityId : Uuid) (time : Instant) (reason : String) :
    Transaction TokenStore Failure Nat :=
  revokeSessions (fun session => session.identityId = some identityId) time reason

variable (familyId identityId sessionId : Uuid)

def TokenFamily.opened (tokenHash : Bytes) (createdAt expiresAt : Instant) : TokenFamily where
  familyId
  identityId
  sessionId
  currentTokenHash := tokenHash
  rotationCounter := 0
  status := .active
  createdAt
  expiresAt
  revokedAt := none
  replayDetectedAt := none

def createFamily (tokenHash : Bytes) (createdAt expiresAt : DateTime) :
    Transaction TokenStore Failure Unit := do
  require (createdAt.aware = true ∧ expiresAt.aware = true)
    (.value "Token-family timestamps must be timezone-aware")
  require (createdAt.instant < expiresAt.instant) (.value "Token-family expiry must follow creation")
  let store ← get
  let families ← demand (store.families.insert?
      (.opened familyId identityId sessionId tokenHash createdAt.instant expiresAt.instant))
    (.integrity "token_families")
  put { store with families }

def TokenFamily.revoke (time : Instant) (family : TokenFamily) : TokenFamily :=
  { family with status := .revoked, revokedAt := some time }

def revokeFamilies (chosen : TokenFamily → Prop) [DecidablePred chosen] (time : Instant) :
    Transaction TokenStore Failure Nat := do
  let store ← get
  let families ← demand (store.families.rewrite?
      (updateWhere (fun family => chosen family ∧ family.status = .active) (.revoke time)))
    (.integrity "token_families")
  put { store with families }
  pure (store.families.rows.countP fun family =>
    decide (chosen family ∧ family.status = .active))

def revokeForSession (sessionId : Uuid) (time : Instant) : Transaction TokenStore Failure Nat :=
  revokeFamilies (fun family => family.sessionId = sessionId) time

def revokeAllForIdentity (identityId : Uuid) (time : Instant) :
    Transaction TokenStore Failure Nat :=
  revokeFamilies (fun family => family.identityId = identityId) time

def TokenFamily.rotated (replacement : Bytes) (family : TokenFamily) : TokenFamily :=
  { family with
    currentTokenHash := replacement
    rotationCounter := family.rotationCounter + 1 }

def TokenFamily.replayed (time : Instant) (family : TokenFamily) : TokenFamily :=
  { family with
    status := .revoked
    revokedAt := some time
    replayDetectedAt := some time }

def SessionRecord.rotated (replacement : Bytes) (counter : Nat) (session : SessionRecord) :
    SessionRecord :=
  { session with
    tokenHash := replacement
    refreshRotationCounter := counter
    version := session.version + 1 }

/-- What `rotate` returns of a family. -/
def TokenFamily.result (family : TokenFamily) (outcome : RotationOutcome) : RotationResult where
  outcome
  familyId := family.familyId
  sessionId := family.sessionId
  rotationCounter := family.rotationCounter

def TokenStore.Consumed (store : TokenStore) (familyId : Uuid) (tokenHash : Bytes) : Prop :=
  ∃ rotation ∈ store.rotations.rows, rotation.familyId = familyId ∧ rotation.tokenHash = tokenHash
deriving Decidable

def consumeToken (rotationId : Uuid) (family : TokenFamily) (replacement : Bytes)
    (time : Instant) : Transaction TokenStore Failure RotationResult := do
  let store ← get
  let rotations ← demand (store.rotations.insert?
      { rotationId, familyId := family.familyId, tokenHash := family.currentTokenHash,
        rotationCounter := family.rotationCounter, consumedAt := time })
    (.integrity "refresh_token_rotations")
  let replaced := family.rotated replacement
  let families ← demand (store.families.replace? replaced) (.integrity "token_families")
  let sessions ← demand (store.sessions.rewrite?
      (updateWhere (fun session => session.sessionId = family.sessionId)
        (.rotated replacement replaced.rotationCounter)))
    (.integrity "sessions")
  put { families, rotations, sessions }
  pure (replaced.result .rotated)

def detectReplay (family : TokenFamily) (time : Instant) :
    Transaction TokenStore Failure RotationResult := do
  let store ← get
  let families ← demand (store.families.replace? (family.replayed time))
    (.integrity "token_families")
  let sessions ← demand (store.sessions.rewrite?
      (updateWhere (fun session => session.sessionId = family.sessionId)
        (.revoke time "refresh_token_replay")))
    (.integrity "sessions")
  put { store with families, sessions }
  pure (family.result .replayDetected)

def rotate (rotationId familyId : Uuid) (presented replacement : Bytes) (time : DateTime) :
    Transaction TokenStore Failure RotationResult := do
  require (time.aware = true) (.value "Refresh rotation time must be timezone-aware")
  require (presented.length = 32 ∧ replacement.length = 32)
    (.value "Refresh-token fingerprints must be 32 bytes")
  let store ← get
  let family ← demand (store.families.find familyId) noResultFound
  if family.status ≠ .active ∨ family.expiresAt ≤ time.instant then
    pure (family.result .denied)
  else if presented = family.currentTokenHash then
    consumeToken rotationId family replacement time.instant
  else if store.Consumed familyId presented then
    detectReplay family time.instant
  else
    pure (family.result .denied)

section

variable {s t : TokenStore} {family : TokenFamily} {time : Instant} {result : RotationResult}
  {replacement tokenHash : Bytes} {rotationId familyId sessionId identityId : Uuid}
  {createdAt : DateTime} {session : SessionRecord}

theorem consumeToken_ok
    (ran : consumeToken rotationId family replacement time s = .ok (result, t)) :
    result.outcome = .rotated ∧ t.rotations.rows = s.rotations.rows ++
        [{ rotationId, familyId := family.familyId, tokenHash := family.currentTokenHash,
           rotationCounter := family.rotationCounter, consumedAt := time }] ∧
      t.families.rows = s.families.replaced (family.rotated replacement) ∧
      t.sessions.rows = s.sessions.rows.map
        (updateWhere (fun session => session.sessionId = family.sessionId)
          (.rotated replacement (family.rotationCounter + 1))) := by
  unfold consumeToken at ran
  simp only [steps_ok, Table.insert?_eq_some, Table.replace?_eq_some, Table.rewrite?_eq_some] at ran
  obtain ⟨rotations, inserted, families, replaced, sessions, rewritten, rfl, rfl⟩ := ran
  exact ⟨rfl, inserted, replaced, rewritten⟩

theorem detectReplay_ok (ran : detectReplay family time s = .ok (result, t)) :
    result.outcome = .replayDetected ∧ t.rotations = s.rotations ∧
      t.families.rows = s.families.replaced (family.replayed time) ∧
      t.sessions.rows = s.sessions.rows.map
        (updateWhere (fun session => session.sessionId = family.sessionId)
          (.revoke time "refresh_token_replay")) := by
  unfold detectReplay at ran
  simp only [steps_ok, Table.replace?_eq_some, Table.rewrite?_eq_some] at ran
  obtain ⟨families, replaced, sessions, rewritten, rfl, rfl⟩ := ran
  exact ⟨rfl, rfl, replaced, rewritten⟩

theorem exists_replayDetected (held : family ∈ s.families.rows) (time : Instant) :
    ∃ result t, detectReplay family time s = .ok (result, t) := by
  obtain ⟨families, replaced⟩ : ∃ families : Table TokenFamily,
      families.rows = s.families.replaced (family.replayed time) := by
    have rewritten : s.families.replaced (family.replayed time) = s.families.rows.map
          (updateWhere (fun other => other.familyId = family.familyId) (.replayed time)) := by
      refine (map_updateWhere held (fun other _ => Iff.rfl) rfl).symm
    rw [rewritten]
    refine s.families.exists_rewritten fun a b clash => ?_
    have ids : ∀ row : TokenFamily,
        (updateWhere (fun other => other.familyId = family.familyId) (.replayed time) row).familyId =
          row.familyId := updateWhere_keeps fun _ => rfl
    have hashes : ∀ row : TokenFamily,
        (updateWhere (fun other => other.familyId = family.familyId) (.replayed time)
          row).currentTokenHash = row.currentTokenHash := updateWhere_keeps fun _ => rfl
    refine clash.imp (fun same => ?_) fun same => ?_
    · exact (ids a).symm.trans (same.trans (ids b))
    · exact (hashes a).symm.trans (same.trans (hashes b))
  obtain ⟨sessions, rewritten⟩ := s.sessions.exists_rewritten
    (f := updateWhere (fun session => session.sessionId = family.sessionId)
      (.revoke time "refresh_token_replay")) fun a b clash => by
        have ids : ∀ row : SessionRecord, (updateWhere (fun session : SessionRecord =>
            session.sessionId = family.sessionId) (.revoke time "refresh_token_replay")
            row).sessionId = row.sessionId := updateWhere_keeps fun _ => rfl
        have hashes : ∀ row : SessionRecord, (updateWhere (fun session : SessionRecord =>
            session.sessionId = family.sessionId) (.revoke time "refresh_token_replay")
            row).tokenHash = row.tokenHash := updateWhere_keeps fun _ => rfl
        exact clash.imp (fun same => (ids a).symm.trans (same.trans (ids b)))
          fun same => (hashes a).symm.trans (same.trans (hashes b))
  refine ⟨family.result .replayDetected, { s with families, sessions }, ?_⟩
  unfold detectReplay
  refine get_bind_ok.2 (demand_bind_ok.2 ⟨families, Table.replace?_eq_some.2 replaced, ?_⟩)
  refine demand_bind_ok.2 ⟨sessions, Table.rewrite?_eq_some.2 rewritten, ?_⟩
  exact put_bind_ok.2 (pure_ok.2 ⟨rfl, rfl⟩)

theorem rotate_ok {presented : Bytes} {time : DateTime}
    (ran : rotate rotationId familyId presented replacement time s = .ok (result, t)) :
    ∃ family, s.families.find familyId = some family ∧ ((result.outcome = .denied ∧ t = s) ∨
        (family.status = .active ∧ time.instant < family.expiresAt ∧
          ((presented = family.currentTokenHash ∧
              consumeToken rotationId family replacement time.instant s = .ok (result, t)) ∨
            (presented ≠ family.currentTokenHash ∧ s.Consumed familyId presented ∧
              detectReplay family time.instant s = .ok (result, t))))) := by
  unfold rotate at ran
  simp only [steps_ok, ite_ok] at ran
  obtain ⟨_, _, family, found, outcome⟩ := ran
  refine ⟨family, found, ?_⟩
  obtain ⟨_, rfl, rfl⟩ | ⟨usable, ⟨old, consumes⟩ |
    ⟨other, ⟨consumed, replays⟩ | ⟨_, rfl, rfl⟩⟩⟩ := outcome
  · exact .inl ⟨rfl, rfl⟩
  · obtain ⟨active, valid⟩ := not_or.1 usable
    exact .inr ⟨not_not.1 active, Int.not_le.1 valid, .inl ⟨old, consumes⟩⟩
  · obtain ⟨active, valid⟩ := not_or.1 usable
    exact .inr ⟨not_not.1 active, Int.not_le.1 valid, .inr ⟨other, consumed, replays⟩⟩
  · exact .inl ⟨rfl, rfl⟩

theorem createFamily_ok {expiresAt : DateTime}
    {u : Unit}
    (ran : createFamily familyId identityId sessionId tokenHash createdAt expiresAt s =
      .ok (u, t)) :
    t.rotations = s.rotations ∧ t.sessions = s.sessions ∧
      ∃ family : TokenFamily, family.familyId = familyId ∧ family.rotationCounter = 0 ∧
        family.currentTokenHash = tokenHash ∧ family.status = .active ∧
        t.families.rows = s.families.rows ++ [family] := by
  unfold createFamily at ran
  simp only [steps_ok, Table.insert?_eq_some] at ran
  obtain ⟨_, _, families, inserted, rfl⟩ := ran
  exact ⟨rfl, rfl, _, rfl, rfl, rfl, rfl, inserted⟩

theorem exists_family {expiresAt : DateTime}
    (aware : createdAt.aware = true ∧ expiresAt.aware = true)
    (later : createdAt.instant < expiresAt.instant) (free : ∀ row ∈ s.families.rows,
      row.familyId ≠ familyId ∧ row.currentTokenHash ≠ tokenHash) :
    ∃ families, createFamily familyId identityId sessionId tokenHash createdAt expiresAt s =
      .ok ((), { s with families }) := by
  have apart : ∀ row ∈ s.families.rows, ¬ Row.clash row
      (TokenFamily.opened familyId identityId sessionId tokenHash createdAt.instant
        expiresAt.instant) := by
    rintro row held (id | hash)
    · exact (free row held).1 id
    · exact (free row held).2 hash
  obtain ⟨families, rows⟩ := Table.exists_inserted apart
  refine ⟨families, ?_⟩
  unfold createFamily
  exact require_bind_ok.2 ⟨aware, require_bind_ok.2 ⟨later, get_bind_ok.2
    (demand_bind_ok.2 ⟨families, Table.insert?_eq_some.2 rows, rfl⟩)⟩⟩

theorem exists_session (free : ∀ row ∈ s.sessions.rows,
      row.sessionId ≠ session.sessionId ∧ row.tokenHash ≠ session.tokenHash) :
    ∃ sessions, createSession session s = .ok (session, { s with sessions }) := by
  have apart : ∀ row ∈ s.sessions.rows, ¬ Row.clash row session := by
    rintro row held (id | hash)
    · exact (free row held).1 id
    · exact (free row held).2 hash
  obtain ⟨sessions, rows⟩ := Table.exists_inserted apart
  refine ⟨sessions, ?_⟩
  unfold createSession
  exact get_bind_ok.2 (demand_bind_ok.2 ⟨sessions, Table.insert?_eq_some.2 rows,
    put_bind_ok.2 (pure_ok.2 ⟨rfl, rfl⟩)⟩)

theorem revokeFamilies_ok {chosen : TokenFamily → Prop} [DecidablePred chosen] {count : Nat}
    (ran : revokeFamilies chosen time s = .ok (count, t)) :
    t.rotations = s.rotations ∧ t.sessions = s.sessions ∧ t.families.rows = s.families.rows.map
        (updateWhere (fun family => chosen family ∧ family.status = .active) (.revoke time)) := by
  unfold revokeFamilies at ran
  simp only [steps_ok, Table.rewrite?_eq_some] at ran
  obtain ⟨families, rewritten, _, rfl⟩ := ran
  exact ⟨rfl, rfl, rewritten⟩

theorem createSession_ok {returned : SessionRecord}
    (ran : createSession session s = .ok (returned, t)) :
    t.families = s.families ∧ t.rotations = s.rotations ∧
      t.sessions.rows = s.sessions.rows ++ [session] := by
  unfold createSession at ran
  simp only [steps_ok, Table.insert?_eq_some] at ran
  obtain ⟨sessions, inserted, _, rfl⟩ := ran
  exact ⟨rfl, rfl, inserted⟩

theorem revokeSessions_ok {chosen : SessionRecord → Prop} [DecidablePred chosen] {reason : String}
    {count : Nat} (ran : revokeSessions chosen time reason s = .ok (count, t)) :
    t.families = s.families ∧ t.rotations = s.rotations ∧ t.sessions.rows = s.sessions.rows.map
        (updateWhere (fun session => chosen session ∧ session.Standing) (.revoke time reason)) := by
  unfold revokeSessions at ran
  simp only [steps_ok, Table.rewrite?_eq_some] at ran
  obtain ⟨sessions, rewritten, _, rfl⟩ := ran
  exact ⟨rfl, rfl, rewritten⟩

theorem revokeSession_ok {reason : String} {returned : Option SessionRecord}
    (ran : revokeSession sessionId time reason s = .ok (returned, t)) :
    ∃ count, revokeSessions (fun session => session.sessionId = sessionId) time reason s =
      .ok (count, t) := by
  unfold revokeSession at ran
  obtain ⟨count, store, revoked, rest⟩ := bind_ok.1 ran
  simp only [steps_ok] at rest
  obtain ⟨_, _, rfl⟩ := rest
  exact ⟨count, revoked⟩

end
end Ayo.Authentication.Tokens
