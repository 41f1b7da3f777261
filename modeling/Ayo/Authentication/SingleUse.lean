/- digest: A refresh token is accepted once, and its return ends the family. -/

import Ayo.Authentication.Tokens
import Ayo.Kernel.Run

namespace Ayo.Authentication.SingleUse

open Kernel.UnitOfWork Kernel.KeyedTable Kernel.Run Kernel.Updates Core.Values RateLimit.Models
  Tokens

inductive Move where
  | createSession (session : SessionRecord)
  | createFamily (familyId identityId sessionId : Uuid) (tokenHash : Bytes)
      (createdAt expiresAt : DateTime)
  | rotate (rotationId familyId : Uuid) (presented replacement : Bytes) (time : DateTime)
  | revokeForSession (sessionId : Uuid) (time : Instant)
  | revokeAllForIdentity (identityId : Uuid) (time : Instant)
  | revokeSession (sessionId : Uuid) (time : Instant) (reason : String)
  | revokeSessionsOfIdentity (identityId : Uuid) (time : Instant) (reason : String)

/-- The database, with the family and hash of every token that `rotate` accepted. -/
structure Tokens where
  store : TokenStore
  accepted : List (Uuid × Bytes)

def initial : Tokens := ⟨.empty, []⟩

def step (tokens : Tokens) : Move → Tokens
  | .createSession session => { tokens with store := commit (createSession session) tokens.store }
  | .createFamily familyId identityId sessionId tokenHash createdAt expiresAt =>
    { tokens with
      store := commit (createFamily familyId identityId sessionId tokenHash createdAt expiresAt)
        tokens.store }
  | .rotate rotationId familyId presented replacement time =>
    match rotate rotationId familyId presented replacement time tokens.store with
    | .ok (result, store) =>
      { store
        accepted := tokens.accepted ++
          if result.outcome = .rotated then [(familyId, presented)] else [] }
    | .error _ => tokens
  | .revokeForSession sessionId time =>
    { tokens with store := commit (revokeForSession sessionId time) tokens.store }
  | .revokeAllForIdentity identityId time =>
    { tokens with store := commit (revokeAllForIdentity identityId time) tokens.store }
  | .revokeSession sessionId time reason =>
    { tokens with store := commit (revokeSession sessionId time reason) tokens.store }
  | .revokeSessionsOfIdentity identityId time reason =>
    { tokens with
      store := commit (revokeSessionsOfIdentity identityId time reason) tokens.store }

/-- The replacement of a rotation is neither the current nor a consumed hash of any family. -/
def Fresh (tokens : Tokens) : Move → Prop
  | .rotate _ _ presented replacement _ => replacement ≠ presented ∧
      (∀ family ∈ tokens.store.families.rows, family.currentTokenHash ≠ replacement) ∧
      ∀ rotation ∈ tokens.store.rotations.rows, rotation.tokenHash ≠ replacement
  | _ => True

instance (tokens : Tokens) : DecidablePred (Fresh tokens)
  | .rotate _ _ _ _ _ => inferInstanceAs (Decidable (_ ∧ (∀ family ∈ _, _) ∧ ∀ rotation ∈ _, _))
  | .createSession _ | .createFamily _ _ _ _ _ _ | .revokeForSession _ _ | .revokeAllForIdentity _ _
  | .revokeSession _ _ _ | .revokeSessionsOfIdentity _ _ _ => .isTrue trivial

/-- The hashes of a family that `rotate` accepted, in their order. -/
def acceptedOf (familyId : Uuid) (tokens : Tokens) : List Bytes :=
  (tokens.accepted.filter fun entry => decide (entry.1 = familyId)).map Prod.snd

/-- The consumed hashes are those that were accepted, each family counts its own, and no family
has one of them as its current hash. -/
structure Sound (tokens : Tokens) : Prop where
  recorded : (tokens.store.rotations.rows.map fun rotation =>
    (rotation.familyId, rotation.tokenHash)) = tokens.accepted
  counted : ∀ family ∈ tokens.store.families.rows,
    family.rotationCounter = (acceptedOf family.familyId tokens).length
  apart : ∀ family ∈ tokens.store.families.rows,
    family.currentTokenHash ∉ acceptedOf family.familyId tokens
  known : ∀ entry ∈ tokens.accepted, ∃ family ∈ tokens.store.families.rows,
    family.familyId = entry.1

def Retired (familyId : Uuid) (store : TokenStore) : Prop :=
  ∃ family ∈ store.families.rows, family.familyId = familyId ∧ family.status ≠ .active

def SessionRevoked (sessionId : Uuid) (store : TokenStore) : Prop :=
  ∃ session ∈ store.sessions.rows, session.sessionId = sessionId ∧ session.revokedAt ≠ none

/-- How a move that is no accepted rotation changes the families and the sessions: the families
keep their hashes and counters, and what has ended stays ended. -/
structure Keeps (s t : Tokens) : Prop where
  rotations : t.store.rotations = s.store.rotations
  accepted : t.accepted = s.accepted
  families : ∀ family ∈ t.store.families.rows,
    (family.rotationCounter = 0 ∧ ∀ other ∈ s.store.families.rows,
      other.familyId ≠ family.familyId) ∨
    ∃ old ∈ s.store.families.rows, old.familyId = family.familyId ∧
      old.rotationCounter = family.rotationCounter ∧
      old.currentTokenHash = family.currentTokenHash
  stays : ∀ old ∈ s.store.families.rows, ∃ family ∈ t.store.families.rows,
    family.familyId = old.familyId ∧ (old.status ≠ .active → family.status ≠ .active)
  sessions : ∀ old ∈ s.store.sessions.rows, ∃ session ∈ t.store.sessions.rows,
    session.sessionId = old.sessionId ∧ (old.revokedAt ≠ none → session.revokedAt ≠ none)

section

variable {familyId : Uuid} {tokens t : Tokens}

theorem acceptedOf_append {entry : Uuid × Bytes}
    (accepted : t.accepted = tokens.accepted ++ [entry]) :
    acceptedOf familyId t =
      acceptedOf familyId tokens ++ if entry.1 = familyId then [entry.2] else [] := by
  unfold acceptedOf
  rw [accepted, List.filter_append, List.map_append]
  by_cases same : entry.1 = familyId <;> simp [same]

theorem mem_acceptedOf {hash : Bytes} :
    hash ∈ acceptedOf familyId tokens ↔ (familyId, hash) ∈ tokens.accepted := by
  unfold acceptedOf
  constructor
  · intro mem
    obtain ⟨⟨id, other⟩, listed, rfl⟩ := List.mem_map.1 mem
    obtain ⟨held, same⟩ := List.mem_filter.1 listed
    obtain rfl : id = familyId := of_decide_eq_true same
    exact held
  · intro held
    exact List.mem_map.2 ⟨_, List.mem_filter.2 ⟨held, decide_eq_true rfl⟩, rfl⟩

theorem Sound.consumed_iff (sound : Sound tokens) {hash : Bytes} :
    tokens.store.Consumed familyId hash ↔ hash ∈ acceptedOf familyId tokens := by
  rw [mem_acceptedOf, ← sound.recorded]
  constructor
  · rintro ⟨rotation, held, rfl, rfl⟩
    exact List.mem_map.2 ⟨rotation, held, rfl⟩
  · intro listed
    obtain ⟨rotation, held, same⟩ := List.mem_map.1 listed
    obtain ⟨ofFamily, ofHash⟩ := Prod.mk.inj same
    exact ⟨rotation, held, ofFamily, ofHash⟩

theorem Sound.accepted_nodup (sound : Sound tokens) (familyId : Uuid) :
    (acceptedOf familyId tokens).Nodup := by
  have hashes : (tokens.store.rotations.rows.map TokenRotation.tokenHash).Nodup :=
    List.pairwise_map.2 (tokens.store.rotations.distinct.imp fun apart same =>
      apart (.inr (.inl same)))
  have all : (tokens.accepted.map Prod.snd).Nodup := by
    rw [← sound.recorded, List.map_map]
    exact hashes
  exact (List.filter_sublist.map Prod.snd).nodup all

end

section

variable {s t tokens : Tokens} {familyId sessionId rotationId : Uuid} {time : Instant}
  {old new : Table SessionRecord} {chosen : SessionRecord → Prop} {store : TokenStore}
  {family : TokenFamily} {result : RotationResult} {replacement presented : Bytes}

theorem Keeps.refl (tokens : Tokens) : Keeps tokens tokens where
  rotations := rfl
  accepted := rfl
  families family held := .inr ⟨family, held, rfl, rfl, rfl⟩
  stays family held := ⟨family, held, rfl, id⟩
  sessions session held := ⟨session, held, rfl, id⟩

theorem Keeps.sound (keeps : Keeps s t) (sound : Sound s) : Sound t := by
  have same : ∀ familyId, acceptedOf familyId t = acceptedOf familyId s := by
    intro familyId
    unfold acceptedOf
    rw [keeps.accepted]
  have silent : ∀ family : TokenFamily, (∀ other ∈ s.store.families.rows,
      other.familyId ≠ family.familyId) → acceptedOf family.familyId s = [] := by
    intro family unknown
    refine List.eq_nil_iff_forall_not_mem.2 fun hash listed => ?_
    obtain ⟨other, held, key⟩ := sound.known _ (mem_acceptedOf.1 listed)
    exact unknown other held key
  refine ⟨?_, ?_, ?_, ?_⟩
  · rw [keeps.rotations, keeps.accepted]
    exact sound.recorded
  · intro family held
    rw [same]
    obtain ⟨zero, unknown⟩ | ⟨old, present, key, counter, _⟩ := keeps.families family held
    · rw [zero, silent family unknown]
      rfl
    · rw [← counter, ← key]
      exact sound.counted old present
  · intro family held
    rw [same]
    obtain ⟨zero, unknown⟩ | ⟨old, present, key, _, current⟩ := keeps.families family held
    · rw [silent family unknown]
      exact List.not_mem_nil
    · rw [← current, ← key]
      exact sound.apart old present
  · intro entry listed
    rw [keeps.accepted] at listed
    obtain ⟨old, present, key⟩ := sound.known entry listed
    obtain ⟨family, held, same, _⟩ := keeps.stays old present
    exact ⟨family, held, same.trans key⟩

theorem Keeps.retired (keeps : Keeps s t) (retired : Retired familyId s.store) :
    Retired familyId t.store := by
  obtain ⟨old, present, key, ended⟩ := retired
  obtain ⟨family, held, same, stays⟩ := keeps.stays old present
  exact ⟨family, held, same.trans key, stays ended⟩

theorem Keeps.sessionRevoked (keeps : Keeps s t)
    (revoked : SessionRevoked sessionId s.store) :
    SessionRevoked sessionId t.store := by
  obtain ⟨old, present, key, ended⟩ := revoked
  obtain ⟨session, held, same, stays⟩ := keeps.sessions old present
  exact ⟨session, held, same.trans key, stays ended⟩

private theorem keeps_of_families (families : t.store.families = s.store.families)
    (rotations : t.store.rotations = s.store.rotations)
    (accepted : t.accepted = s.accepted)
    (sessions : ∀ old ∈ s.store.sessions.rows, ∃ session ∈ t.store.sessions.rows,
      session.sessionId = old.sessionId ∧ (old.revokedAt ≠ none → session.revokedAt ≠ none)) :
    Keeps s t where
  rotations
  accepted
  families := by
    intro family held
    rw [families] at held
    exact .inr ⟨family, held, rfl, rfl, rfl⟩
  stays := by
    intro family held
    exact ⟨family, families ▸ held, rfl, id⟩
  sessions := sessions

private theorem sessions_revoked [DecidablePred chosen] {reason : String}
    (rows : new.rows = old.rows.map (updateWhere chosen (.revoke time reason))) :
    ∀ row ∈ old.rows, ∃ session ∈ new.rows,
      session.sessionId = row.sessionId ∧ (row.revokedAt ≠ none → session.revokedAt ≠ none) := by
  intro row held
  have key : ∀ old, (updateWhere chosen (SessionRecord.revoke time reason) old).sessionId =
      old.sessionId := updateWhere_keeps fun _ => rfl
  refine ⟨updateWhere chosen (.revoke time reason) row, ?_, key row, ?_⟩
  · rw [rows]
    exact List.mem_map_of_mem held
  · intro revoked
    by_cases picked : chosen row
    · rw [updateWhere_of_meets picked]
      exact Option.some_ne_none _
    · rw [updateWhere_of_not picked]
      exact revoked

private theorem sessions_kept (same : new = old) : ∀ row ∈ old.rows, ∃ session ∈ new.rows,
      session.sessionId = row.sessionId ∧ (row.revokedAt ≠ none → session.revokedAt ≠ none) := by
  intro row held
  exact ⟨row, same ▸ held, rfl, id⟩

private theorem keeps_revokedFamilies {chosen : TokenFamily → Prop} [DecidablePred chosen]
    {count : Nat} (ran : revokeFamilies chosen time s.store = .ok (count, store)) :
    Keeps s { s with store } := by
  obtain ⟨rotations, sessions, rows⟩ := revokeFamilies_ok ran
  let change := updateWhere (fun family : TokenFamily => chosen family ∧ family.status = .active)
    (.revoke time)
  have key : ∀ old, (change old).familyId = old.familyId := updateWhere_keeps fun _ => rfl
  have counter : ∀ old, (change old).rotationCounter = old.rotationCounter :=
    updateWhere_keeps fun _ => rfl
  have current : ∀ old, (change old).currentTokenHash = old.currentTokenHash :=
    updateWhere_keeps fun _ => rfl
  refine ⟨rotations, rfl, ?_, ?_, sessions_kept sessions⟩
  · intro family held
    rw [rows] at held
    obtain ⟨old, present, rfl⟩ := List.mem_map.1 held
    exact .inr ⟨old, present, (key old).symm, (counter old).symm, (current old).symm⟩
  · intro old present
    have mem : change old ∈ store.families.rows := rows ▸ List.mem_map_of_mem present
    refine ⟨change old, mem, key old, fun ended => ?_⟩
    have same : change old = old := updateWhere_of_not fun meets => ended meets.2
    rwa [same]

private theorem keeps_revokedSessions [DecidablePred chosen] {reason : String} {count : Nat}
    (ran : revokeSessions chosen time reason s.store = .ok (count, store)) :
    Keeps s { s with store } := by
  obtain ⟨families, rotations, rows⟩ := revokeSessions_ok ran
  exact keeps_of_families families rotations rfl (sessions_revoked rows)

private theorem keeps_detectReplay (held : family ∈ s.store.families.rows)
    (ran : detectReplay family time s.store = .ok (result, store)) : Keeps s { s with store } := by
  obtain ⟨_, rotations, rows, sessions⟩ := detectReplay_ok ran
  refine ⟨rotations, rfl, ?_, ?_, sessions_revoked sessions⟩
  · intro other mem
    rw [rows] at mem
    obtain ⟨rfl, _⟩ | ⟨present, _⟩ := Table.mem_replaced.1 mem
    · exact .inr ⟨family, held, rfl, rfl, rfl⟩
    · exact .inr ⟨other, present, rfl, rfl, rfl⟩
  · intro old present
    by_cases same : old.familyId = family.familyId
    · refine ⟨family.replayed time, ?_, same.symm, fun _ => by simp [TokenFamily.replayed]⟩
      rw [rows]
      exact Table.mem_replaced.2 (.inl ⟨rfl, old, present, same⟩)
    · refine ⟨old, ?_, rfl, id⟩
      rw [rows]
      exact Table.mem_replaced.2 (.inr ⟨present, same⟩)

structure Rotates (s t : Tokens) (family : TokenFamily) (replacement : Bytes) :
    Prop where
  stored : family ∈ s.store.families.rows
  active : family.status = .active
  accepted : t.accepted = s.accepted ++ [(family.familyId, family.currentTokenHash)]
  rotations : (t.store.rotations.rows.map fun rotation =>
    (rotation.familyId, rotation.tokenHash)) =
      (s.store.rotations.rows.map fun rotation => (rotation.familyId, rotation.tokenHash)) ++
        [(family.familyId, family.currentTokenHash)]
  families : t.store.families.rows =
    s.store.families.replaced (family.rotated replacement)
  sessions : ∀ old ∈ s.store.sessions.rows, ∃ session ∈ t.store.sessions.rows,
    session.sessionId = old.sessionId ∧ (old.revokedAt ≠ none → session.revokedAt ≠ none)

section
variable (rotates : Rotates s t family replacement)
include rotates

theorem Rotates.cases {new : TokenFamily} (mem : new ∈ t.store.families.rows) :
    new = family.rotated replacement ∨
      (new ∈ s.store.families.rows ∧ new.familyId ≠ family.familyId) := by
  rw [rotates.families] at mem
  obtain ⟨rotated, _⟩ | ⟨present, apart⟩ := Table.mem_replaced.1 mem
  · exact .inl rotated
  · exact .inr ⟨present, apart⟩

theorem Rotates.accepted_own :
    acceptedOf family.familyId t = acceptedOf family.familyId s ++ [family.currentTokenHash] := by
  rw [acceptedOf_append rotates.accepted, if_pos rfl]

theorem Rotates.accepted_other (other : familyId ≠ family.familyId) :
    acceptedOf familyId t = acceptedOf familyId s := by
  rw [acceptedOf_append rotates.accepted, if_neg (Ne.symm other), List.append_nil]

theorem Rotates.sound (sound : Sound s)
    (unused : ∀ rotation ∈ s.store.rotations.rows, rotation.tokenHash ≠ replacement)
    (other : replacement ≠ family.currentTokenHash) : Sound t := by
  refine ⟨?_, ?_, ?_, ?_⟩
  · rw [rotates.rotations, rotates.accepted, sound.recorded]
  · intro new mem
    obtain rfl | ⟨present, apart⟩ := rotates.cases mem
    · have counted := sound.counted family rotates.stored
      change family.rotationCounter + 1 = (acceptedOf family.familyId t).length
      rw [rotates.accepted_own, List.length_append, counted]
      rfl
    · rw [rotates.accepted_other apart]
      exact sound.counted new present
  · intro new mem
    obtain rfl | ⟨present, apart⟩ := rotates.cases mem
    · change replacement ∉ acceptedOf family.familyId t
      rw [rotates.accepted_own]
      intro listed
      rcases List.mem_append.1 listed with earlier | last
      · obtain ⟨rotation, stored, _, same⟩ := sound.consumed_iff.2 earlier
        exact unused rotation stored same
      · exact other (List.mem_singleton.1 last)
    · rw [rotates.accepted_other apart]
      exact sound.apart new present
  · intro entry listed
    rw [rotates.accepted] at listed
    have source : ∃ old ∈ s.store.families.rows, old.familyId = entry.1 := by
      rcases (mem_appended rfl).1 listed with earlier | rfl
      · exact sound.known entry earlier
      · exact ⟨family, rotates.stored, rfl⟩
    obtain ⟨old, present, key⟩ := source
    rw [rotates.families]
    by_cases same : old.familyId = family.familyId
    · exact ⟨_, Table.mem_replaced.2 (.inl ⟨rfl, old, present, same⟩), same.symm.trans key⟩
    · exact ⟨old, Table.mem_replaced.2 (.inr ⟨present, same⟩), key⟩

theorem Rotates.retired (retired : Retired familyId s.store) : Retired familyId t.store := by
  obtain ⟨old, present, key, ended⟩ := retired
  have apart : Row.key old ≠ Row.key (family.rotated replacement) := by
    intro same
    have one : old = family := s.store.families.eq_of_key present rotates.stored same
    exact ended (one ▸ rotates.active)
  refine ⟨old, ?_, key, ended⟩
  rw [rotates.families]
  exact Table.mem_replaced.2 (.inr ⟨present, apart⟩)

theorem Rotates.sessionRevoked (revoked : SessionRevoked sessionId s.store) :
    SessionRevoked sessionId t.store := by
  obtain ⟨old, present, key, ended⟩ := revoked
  obtain ⟨session, held, same, stays⟩ := rotates.sessions old present
  exact ⟨session, held, same.trans key, stays ended⟩

end

private theorem sessions_rotated [DecidablePred chosen] {counter : Nat}
    (rows : new.rows = old.rows.map (updateWhere chosen (.rotated replacement counter))) :
    ∀ row ∈ old.rows, ∃ session ∈ new.rows,
      session.sessionId = row.sessionId ∧ (row.revokedAt ≠ none → session.revokedAt ≠ none) := by
  intro row held
  let change := updateWhere chosen (SessionRecord.rotated replacement counter)
  have key : ∀ old, (change old).sessionId = old.sessionId := updateWhere_keeps fun _ => rfl
  have kept : ∀ old, (change old).revokedAt = old.revokedAt := updateWhere_keeps fun _ => rfl
  have mem : change row ∈ new.rows := rows ▸ List.mem_map_of_mem held
  refine ⟨change row, mem, key row, ?_⟩
  rw [kept]
  exact id

theorem rotate_cases {time : DateTime} (tokens : Tokens) :
    Keeps tokens (step tokens (.rotate rotationId familyId presented replacement time)) ∨
      ∃ family, family.familyId = familyId ∧ family.currentTokenHash = presented ∧
        Rotates tokens (step tokens (.rotate rotationId familyId presented replacement time))
          family replacement := by
  cases outcome : rotate rotationId familyId presented replacement time tokens.store with
  | error =>
    simp only [step, outcome]
    exact .inl (Keeps.refl tokens)
  | ok pair =>
    obtain ⟨result, store⟩ := pair
    simp only [step, outcome]
    obtain ⟨family, found, ⟨denied, rfl⟩ | ⟨active, _, ⟨rfl, consumes⟩ | ⟨_, _, replays⟩⟩⟩ :=
      rotate_ok outcome
    · rw [if_neg (by rw [denied]; decide), List.append_nil]
      exact .inl (Keeps.refl tokens)
    · obtain ⟨rotated, rotations, families, sessions⟩ := consumeToken_ok consumes
      have named : family.familyId = familyId := Table.key_of_find found
      refine .inr ⟨family, named, rfl, Table.mem_of_find found, active, ?_, ?_, families,
        sessions_rotated sessions⟩
      · rw [if_pos rotated, named]
      · rw [rotations, List.map_append]
        rfl
    · have revoked := (detectReplay_ok replays).1
      rw [if_neg (by rw [revoked]; decide), List.append_nil]
      exact .inl (keeps_detectReplay (Table.mem_of_find found) replays)

theorem step_cases (tokens : Tokens) (move : Move) : Keeps tokens (step tokens move) ∨
      ∃ rotationId familyId presented replacement time family,
        move = .rotate rotationId familyId presented replacement time ∧
        family.familyId = familyId ∧ family.currentTokenHash = presented ∧
        Rotates tokens (step tokens move) family replacement := by
  cases move with
  | createSession session =>
    refine .inl ?_
    obtain stays | ⟨returned, ran⟩ := commit_cases (createSession session) tokens.store
    · simp only [step, stays]
      exact Keeps.refl tokens
    · obtain ⟨families, rotations, rows⟩ := createSession_ok ran
      refine keeps_of_families families rotations rfl fun old present => ⟨old, ?_, rfl, id⟩
      simp only [step, rows]
      exact List.mem_append_left _ present
  | createFamily familyId identityId sessionId tokenHash createdAt expiresAt =>
    refine .inl ?_
    obtain stays | ⟨returned, ran⟩ := commit_cases
      (createFamily familyId identityId sessionId tokenHash createdAt expiresAt) tokens.store
    · simp only [step, stays]
      exact Keeps.refl tokens
    · obtain ⟨rotations, sessions, family, _, zero, _, _, rows⟩ := createFamily_ok ran
      refine ⟨rotations, rfl, ?_, ?_, sessions_kept sessions⟩
      · intro other mem
        simp only [step, rows] at mem
        rcases (mem_appended rfl).1 mem with present | rfl
        · exact .inr ⟨other, present, rfl, rfl, rfl⟩
        · refine .inl ⟨zero, fun old present same => ?_⟩
          exact Table.apart_of_rows_append rows old present (Row.clash_of_key same)
      · intro old present
        refine ⟨old, ?_, rfl, id⟩
        simp only [step, rows]
        exact List.mem_append_left _ present
  | rotate =>
    obtain keeps | ⟨family, named, current, rotates⟩ := rotate_cases tokens
    · exact .inl keeps
    · exact .inr ⟨_, _, _, _, _, family, rfl, named, current, rotates⟩
  | revokeForSession sessionId time =>
    refine .inl ?_
    obtain stays | ⟨count, ran⟩ :=
      commit_cases (revokeForSession sessionId time) tokens.store
    · simp only [step, stays]
      exact Keeps.refl tokens
    · exact keeps_revokedFamilies ran
  | revokeAllForIdentity identityId time =>
    refine .inl ?_
    obtain stays | ⟨count, ran⟩ :=
      commit_cases (revokeAllForIdentity identityId time) tokens.store
    · simp only [step, stays]
      exact Keeps.refl tokens
    · exact keeps_revokedFamilies ran
  | revokeSession sessionId time reason =>
    refine .inl ?_
    obtain stays | ⟨returned, ran⟩ :=
      commit_cases (revokeSession sessionId time reason) tokens.store
    · simp only [step, stays]
      exact Keeps.refl tokens
    · obtain ⟨count, revoked⟩ := revokeSession_ok ran
      exact keeps_revokedSessions revoked
  | revokeSessionsOfIdentity identityId time reason =>
    refine .inl ?_
    obtain stays | ⟨count, ran⟩ :=
      commit_cases (revokeSessionsOfIdentity identityId time reason) tokens.store
    · simp only [step, stays]
      exact Keeps.refl tokens
    · exact keeps_revokedSessions ran

theorem step_sound (tokens : Tokens) (move : Move) (fresh : Fresh tokens move)
    (sound : Sound tokens) : Sound (step tokens move) := by
  obtain keeps | ⟨_, _, presented, replacement, _, family, rfl, _, old, rotates⟩ :=
    step_cases tokens move
  · exact keeps.sound sound
  · obtain ⟨different, _, unused⟩ := fresh
    exact rotates.sound sound unused (old ▸ different)

theorem step_retired (tokens : Tokens) (move : Move) (retired : Retired familyId tokens.store) :
    Retired familyId (step tokens move).store := by
  obtain keeps | ⟨_, _, _, _, _, _, _, _, _, rotates⟩ := step_cases tokens move
  · exact keeps.retired retired
  · exact rotates.retired retired

theorem step_sessionRevoked (tokens : Tokens) (move : Move)
    (revoked : SessionRevoked sessionId tokens.store) :
    SessionRevoked sessionId (step tokens move).store := by
  obtain keeps | ⟨_, _, _, _, _, _, _, _, _, rotates⟩ := step_cases tokens move
  · exact keeps.sessionRevoked revoked
  · exact rotates.sessionRevoked revoked

theorem runs_retired {moves : List Move} (retired : Retired familyId tokens.store) :
    Retired familyId (run step tokens moves).store := by
  let Kept : Tokens → Prop := fun reached => Retired familyId reached.store
  have every : ∀ reached move, Kept reached → Kept (step reached move) := step_retired
  exact run_invariant every moves retired

theorem runs_sessionRevoked {moves : List Move} (revoked : SessionRevoked sessionId tokens.store) :
    SessionRevoked sessionId (run step tokens moves).store := by
  let Kept : Tokens → Prop := fun reached => SessionRevoked sessionId reached.store
  have every : ∀ reached move, Kept reached → Kept (step reached move) := step_sessionRevoked
  exact run_invariant every moves revoked

theorem Retired.not_rotated {t : TokenStore} (retired : Retired familyId store) {time : DateTime}
    (ran : rotate rotationId familyId presented replacement time store = .ok (result, t)) :
    result.outcome ≠ .rotated := by
  obtain ⟨old, present, key, ended⟩ := retired
  obtain ⟨family, found, ⟨denied, _⟩ | ⟨active, _⟩⟩ := rotate_ok ran
  · rw [denied]
    decide
  · have same : old.familyId = family.familyId := key.trans (Table.key_of_find found).symm
    have one : old = family := store.families.eq_of_key present (Table.mem_of_find found) same
    exact absurd (one ▸ active) ended

end

theorem initial_sound : Sound initial where
  recorded := rfl
  counted := by
    intro family held
    cases held
  apart := by
    intro family held
    cases held
  known := by
    intro entry listed
    cases listed

/-- What `rotate` does with a consumed hash of an active and unexpired family: it reports the
replay and revokes the family and its session, and ever after the family is refused. -/
def ReplayKills (tokens : Tokens) : Prop :=
  ∀ (family : TokenFamily) (presented : Bytes) (rotationId : Uuid) (replacement : Bytes)
    (time : DateTime), family ∈ tokens.store.families.rows → family.status = .active →
    time.aware = true → time.instant < family.expiresAt →
    presented ∈ acceptedOf family.familyId tokens →
    presented.length = 32 ∧ replacement.length = 32 →
    ∃ result store, rotate rotationId family.familyId presented replacement time tokens.store =
        .ok (result, store) ∧ result.outcome = .replayDetected ∧
      Retired family.familyId store ∧
      (∀ session ∈ store.sessions.rows, session.sessionId = family.sessionId →
        session.revokedAt ≠ none) ∧
      ∀ accepted, ∀ more : List Move, let later := run step ⟨store, accepted⟩ more
        (∀ session ∈ store.sessions.rows, session.sessionId = family.sessionId →
          SessionRevoked family.sessionId later.store) ∧
        ∀ (rotationId' : Uuid) (presented' replacement' : Bytes) (time' : DateTime)
          (result' : RotationResult) (store' : TokenStore),
          rotate rotationId' family.familyId presented' replacement' time' later.store =
            .ok (result', store') → result'.outcome ≠ .rotated

theorem Sound.replayKills {tokens : Tokens} (sound : Sound tokens) : ReplayKills tokens := by
  intro family presented rotationId replacement time held active aware unexpired consumed proper
  have found : tokens.store.families.find family.familyId = some family :=
    Table.find_of_mem held
  have other : presented ≠ family.currentTokenHash := by
    rintro rfl
    exact sound.apart family held consumed
  obtain ⟨result, store, replays⟩ := exists_replayDetected held time.instant
  obtain ⟨replayed, _, families, sessions⟩ := detectReplay_ok replays
  have retired : Retired family.familyId store := by
    refine ⟨family.replayed time.instant, ?_, rfl, by simp [TokenFamily.replayed]⟩
    rw [families]
    exact Table.mem_replaced.2 (.inl ⟨rfl, family, held, rfl⟩)
  have revoked : ∀ session ∈ store.sessions.rows, session.sessionId = family.sessionId →
      session.revokedAt ≠ none := by
    intro session mem same
    rw [sessions] at mem
    obtain ⟨old, present, rfl⟩ := List.mem_map.1 mem
    let rewritten := updateWhere (fun session : SessionRecord =>
      session.sessionId = family.sessionId) (.revoke time.instant "refresh_token_replay")
    have key : ∀ old, (rewritten old).sessionId = old.sessionId := updateWhere_keeps fun _ => rfl
    have picked : old.sessionId = family.sessionId := (key old).symm.trans same
    have new : rewritten old = old.revoke time.instant "refresh_token_replay" := if_pos picked
    show (rewritten old).revokedAt ≠ none
    rw [new]
    exact Option.some_ne_none _
  refine ⟨result, store, ?_, replayed, retired, revoked, fun accepted more => ⟨?_, ?_⟩⟩
  · unfold rotate
    refine require_bind_ok.2 ⟨aware, require_bind_ok.2 ⟨proper, get_bind_ok.2 ?_⟩⟩
    refine demand_bind_ok.2 ⟨family, found, ite_ok.2 (.inr ⟨?_, ite_ok.2 (.inr ⟨other, ?_⟩)⟩)⟩
    · exact not_or.2 ⟨not_not.2 active, Int.not_le.2 unexpired⟩
    · exact ite_ok.2 (.inl ⟨sound.consumed_iff.2 consumed, replays⟩)
  · intro session mem same
    have start : SessionRevoked family.sessionId store :=
      ⟨session, mem, same, revoked session mem same⟩
    exact runs_sessionRevoked start
  · intro rotationId' presented' replacement' time' result' store' ran
    have refused : Retired family.familyId (run step ⟨store, accepted⟩ more).store :=
      runs_retired retired
    exact refused.not_rotated ran

/-- In every run with fresh replacements, no hash of a family is accepted twice, every family
counts the hashes that it consumed, and a consumed hash that comes back ends its family. -/
theorem refresh_tokens_are_single_use (moves : List Move) (fresh : Along step Fresh initial moves) :
    let tokens := run step initial moves
    (∀ familyId, (acceptedOf familyId tokens).Nodup) ∧
      (∀ family ∈ tokens.store.families.rows, family.rotationCounter =
        tokens.store.rotations.rows.countP fun rotation =>
          decide (rotation.familyId = family.familyId)) ∧
      (∀ family ∈ tokens.store.families.rows,
        family.rotationCounter = (acceptedOf family.familyId tokens).length) ∧
      ReplayKills tokens := by
  intro tokens
  have sound : Sound tokens := run_invariant_along step_sound fresh initial_sound
  refine ⟨sound.accepted_nodup, ?_, sound.counted, sound.replayKills⟩
  intro family stored
  rw [sound.counted family stored, acceptedOf, List.length_map, ← List.countP_eq_length_filter,
    ← sound.recorded, List.countP_map]
  rfl

theorem refresh_tokens_are_single_use_after_replay :
    ReplayKills (run step initial
      [.createSession ⟨1, some 7, some 2, 0, List.replicate 32 1, 0, 1000, none, none, 1⟩,
        .createFamily 2 7 1 (List.replicate 32 1) (.utc 0) (.utc 1000),
        .rotate 3 2 (List.replicate 32 1) (List.replicate 32 2) (.utc 5)]) :=
  (refresh_tokens_are_single_use _ (by decide +kernel)).2.2.2

end Ayo.Authentication.SingleUse
