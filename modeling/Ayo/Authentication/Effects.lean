/- digest: What the units of work of the runtime do behind their limiter. -/

import Ayo.Authentication.Rotations
import Ayo.Authentication.Runtime

namespace Ayo.Authentication.Effects

open Kernel.UnitOfWork Kernel.KeyedTable Kernel.Updates Core.Values RateLimit.Models
  RateLimit.Repository Tokens Models Repository Rotations Authentication.Runtime

structure DrawsFresh (config : RuntimeConfig) (draws : Draws) (store : AuthStore) : Prop where
  identity : ∀ row ∈ store.identities.rows, row.identityId ≠ draws.identityId
  passwordMethod : ∀ row ∈ store.methods.rows, row.methodId ≠ draws.passwordMethodId
  verificationMethod : ∀ row ∈ store.methods.rows, row.methodId ≠ draws.verificationMethodId
  methodsApart : draws.passwordMethodId ≠ draws.verificationMethodId
  credential : ∀ row ∈ store.verifiers.rows, row.credentialId ≠ draws.credentialId
  unverified : ∀ row ∈ store.verifiers.rows, row.methodId ≠ draws.passwordMethodId
  session : ∀ row ∈ store.tokens.sessions.rows, row.sessionId ≠ draws.sessionId
  family : ∀ row ∈ store.tokens.families.rows, row.familyId ≠ draws.familyId
  rotation : ∀ row ∈ store.tokens.rotations.rows, row.rotationId ≠ draws.rotationId
  challenge : ∀ row ∈ store.challenges.rows, row.challengeId ≠ draws.challengeId
  token : ∀ familyId,
    HashFresh store.tokens (config.tokenHash (config.refreshToken familyId draws.secret)).1

theorem DrawsFresh.with_buckets {config : RuntimeConfig} {draws : Draws} {store : AuthStore}
    (fresh : DrawsFresh config draws store) (buckets : RateLimitBuckets) :
    DrawsFresh config draws { store with buckets } :=
  ⟨fresh.identity, fresh.passwordMethod, fresh.verificationMethod, fresh.methodsApart,
    fresh.credential, fresh.unverified, fresh.session, fresh.family, fresh.rotation,
    fresh.challenge, fresh.token⟩

/-- A unit of work that leaves the buckets and keeps the token store sound. -/
def Proper {ε α : Type} (sound : AuthStore → Prop) (body : Transaction AuthStore ε α) : Prop :=
  ∀ before a after, body before = .ok (a, after) → after.buckets = before.buckets ∧
      (sound before → TokenSound before.tokens → TokenSound after.tokens)

variable {config : RuntimeConfig} {draws : Draws} {now : Instant} {store t : AuthStore}
  {identity : Identity}

theorem raising_ok {α : Type} {body : Transaction AuthStore Failure α} {a : α} :
    raising body store = .ok (a, t) ↔ body store = .ok (a, t) := by
  unfold raising
  cases body store with
  | ok => simp
  | error => simp

section

variable {ε α β : Type} {sound : AuthStore → Prop}

theorem Proper.of_same {body : Transaction AuthStore ε α} (same : ∀ s a t, body s = .ok (a, t) →
      t.buckets = s.buckets ∧ t.tokens = s.tokens) : Proper sound body := by
  intro s a t ran
  obtain ⟨buckets, tokens⟩ := same s a t ran
  exact ⟨buckets, fun _ kept => tokens ▸ kept⟩

end

theorem createIdentity_ok {u : Unit} (ran : createIdentity identity store = .ok (u, t)) :
    ∃ identities, t = { store with identities } := by
  unfold createIdentity at ran
  simp only [steps_ok] at ran
  obtain ⟨identities, _, rfl⟩ := ran
  exact ⟨identities, rfl⟩

theorem exists_identity (free : ∀ row ∈ store.identities.rows, row.identityId ≠ identity.identityId)
    :
    ∃ identities, createIdentity identity store = .ok ((), { store with identities }) := by
  obtain ⟨identities, rows⟩ := Table.exists_inserted free
  refine ⟨identities, ?_⟩
  unfold createIdentity
  exact get_bind_ok.2 (demand_bind_ok.2 ⟨identities, Table.insert?_eq_some.2 rows, rfl⟩)

section

variable {identityId : Uuid} {lookup : Fingerprint} {verifier : String} {kind : ContactKind}
  {u : Unit}

def newMethods (draws : Draws) (identityId : Uuid) (lookup : Fingerprint) (kind : ContactKind)
    (createdAt : Instant) : List AuthenticationMethod :=
  [{ methodId := draws.passwordMethodId, identityId, methodType := .password,
     status := .active, lookupReference := some lookup.1, verifiedAt := some createdAt },
   { methodId := draws.verificationMethodId, identityId,
     methodType := kind.verificationMethod, status := .pending,
     lookupReference := some lookup.1, verifiedAt := none }]

theorem createCredential_ok
    (ran : createCredential draws identityId lookup verifier kind now store = .ok (u, t)) :
    ∃ methods verifiers, t = { store with methods, verifiers } ∧
      methods.rows = store.methods.rows ++ newMethods draws identityId lookup kind now := by
  unfold createCredential at ran
  simp only [steps_ok, Table.insertAll?_eq_some] at ran
  obtain ⟨methods, rows, verifiers, _, rfl⟩ := ran
  exact ⟨methods, verifiers, rfl, rows⟩

theorem exists_credential (fresh : DrawsFresh config draws store) {other : AuthStore}
    (sameMethods : other.methods = store.methods)
    (sameVerifiers : other.verifiers = store.verifiers)
    (unknown : ∀ method ∈ store.methods.rows, method.lookupReference = some lookup.1 →
      method.methodType ≠ .password ∧ method.methodType ≠ kind.verificationMethod) :
    ∃ methods verifiers, createCredential draws identityId lookup verifier kind now other =
        .ok ((), { other with methods, verifiers }) := by
  have distinct : (store.methods.rows ++ newMethods draws identityId lookup kind now).Pairwise
      fun a b => ¬ Row.clash a b := by
    refine List.pairwise_append.2 ⟨store.methods.distinct, ?_, ?_⟩
    · refine List.pairwise_cons.2 ⟨?_, List.pairwise_singleton _ _⟩
      intro other last
      obtain rfl := List.mem_singleton.1 last
      rintro (same | ⟨_, same, _⟩)
      · exact fresh.methodsApart same
      · cases kind <;> cases same
    · intro method held other new
      rcases List.mem_cons.1 new with rfl | last
      · rintro (same | ⟨_, same, reference⟩)
        · exact fresh.passwordMethod method held same
        · exact (unknown method held reference).1 same
      · obtain rfl := List.mem_singleton.1 last
        rintro (same | ⟨_, same, reference⟩)
        · exact fresh.verificationMethod method held same
        · exact (unknown method held reference).2 same
  have free : ∀ row ∈ store.verifiers.rows, ¬ Row.clash row
      ({ credentialId := draws.credentialId, methodId := draws.passwordMethodId,
         scheme := "argon2id-v19", verifier } : CredentialVerifier) := by
    rintro row held (same | same)
    · exact fresh.credential row held same
    · exact fresh.unverified row held same
  obtain ⟨verifiers, rows⟩ := Table.exists_inserted free
  refine ⟨⟨_, distinct⟩, verifiers, ?_⟩
  unfold createCredential
  refine get_bind_ok.2 (demand_bind_ok.2 ⟨⟨_, distinct⟩, ?_, demand_bind_ok.2 ⟨verifiers, ?_, rfl⟩⟩)
  · rw [sameMethods]
    exact Table.insertAll?_eq_some.2 rfl
  · rw [sameVerifiers]
    exact Table.insert?_eq_some.2 rows

theorem unknown_of_created
    (ran : createCredential draws identityId lookup verifier kind now store = .ok (u, t)) :
    ∀ method ∈ store.methods.rows, method.lookupReference = some lookup.1 →
      method.methodType ≠ .password ∧ method.methodType ≠ kind.verificationMethod := by
  obtain ⟨methods, _, _, rows⟩ := createCredential_ok ran
  have distinct := methods.distinct
  rw [rows] at distinct
  have apart := (List.pairwise_append.1 distinct).2.2
  intro method held reference
  have present : method.lookupReference.isSome = true := by
    rw [reference]
    rfl
  constructor
  · intro same
    exact apart method held _ List.mem_cons_self (.inr ⟨present, same, reference⟩)
  · intro same
    exact apart method held _ (List.mem_cons_of_mem _ (List.mem_singleton_self _))
      (.inr ⟨present, same, reference⟩)

end

theorem openSession_ok {response : SessionResponse}
    (ran : openSession config draws identity now store = .ok (response, t)) :
    ∃ tokens, t = { store with tokens } ∧
      ((∀ rotation ∈ store.tokens.rotations.rows, rotation.tokenHash ≠
          (config.tokenHash (config.refreshToken draws.familyId draws.secret)).1) →
        TokenSound store.tokens → TokenSound tokens) := by
  unfold openSession onTokens at ran
  simp only [bind_ok, within_ok, pure_ok] at ran
  obtain ⟨_, _, ⟨first, created, rfl⟩, _, _, ⟨second, opened, rfl⟩, _, rfl⟩ := ran
  obtain ⟨families, rotations, _⟩ := createSession_ok created
  refine ⟨second, rfl, fun unused sound => ?_⟩
  have kept : TokenSound first := sound.of_same families rotations
  refine kept.after_createFamily (fun rotation consumed => ?_) opened
  rw [rotations] at consumed
  exact unused rotation consumed

theorem exists_opened (fresh : DrawsFresh config draws store) (identity : Identity)
    (now : Instant) {other : AuthStore} (same : other.tokens = store.tokens) :
    ∃ response t, openSession config draws identity now other = .ok (response, t) := by
  have hash := fresh.token draws.familyId
  rw [← same] at hash
  have free : ∀ row ∈ other.tokens.sessions.rows,
      row.sessionId ≠ (newSession config draws identity now).sessionId ∧
        row.tokenHash ≠ (newSession config draws identity now).tokenHash := fun row held =>
    ⟨fresh.session row (same ▸ held), hash.sessions row held⟩
  obtain ⟨sessions, created⟩ := exists_session free
  have longer : now < now + config.refreshLifetime :=
    Int.lt_add_of_pos_right now config.lifetime_positive
  obtain ⟨families, opened⟩ : ∃ families, createFamily draws.familyId identity.identityId
      draws.sessionId (config.tokenHash (config.refreshToken draws.familyId draws.secret)).1
      (.utc now) (.utc (now + config.refreshLifetime)) { other.tokens with sessions } =
        .ok ((), { other.tokens with sessions, families }) :=
    exists_family ⟨rfl, rfl⟩ longer fun row held =>
      ⟨fresh.family row (same ▸ held), hash.families row held⟩
  refine ⟨sessionResponse config identity draws.sessionId
    (config.refreshToken draws.familyId draws.secret) (now + config.refreshLifetime) now,
    { other with tokens := { other.tokens with sessions, families } }, ?_⟩
  unfold openSession onTokens
  refine bind_ok.2 ⟨_, { other with tokens := { other.tokens with sessions } },
    within_ok.2 ⟨_, created, rfl⟩, ?_⟩
  exact bind_ok.2 ⟨(), _, within_ok.2 ⟨_, opened, rfl⟩, pure_ok.2 ⟨rfl, rfl⟩⟩

section

variable {verifier : String} {lookup : Fingerprint}

theorem hash_ok {salt : Nat} {password : String}
    (ran : Runtime.hash config salt password store = .ok (verifier, t)) :
    12 ≤ password.length ∧ t = store := by
  unfold Runtime.hash at ran
  simp only [steps_ok] at ran
  obtain ⟨length, _, rfl⟩ := ran
  exact ⟨length.1, rfl⟩

theorem updateVerifier_ok {u : Unit} (ran : updateVerifier lookup verifier store = .ok (u, t)) :
    ∃ verifiers, t = { store with verifiers } := by
  unfold updateVerifier at ran
  simp only [steps_ok] at ran
  obtain ⟨_, _, verifiers, _, rfl⟩ := ran
  exact ⟨verifiers, rfl⟩

theorem exists_updated {method : AuthenticationMethod}
    (known : passwordMethod? store lookup = some method) (verifier : String) :
    ∃ verifiers, updateVerifier lookup verifier store = .ok ((), { store with verifiers }) := by
  let change := updateWhere (fun row : CredentialVerifier => row.methodId = method.methodId)
    (CredentialVerifier.upgraded verifier)
  have ids : ∀ row, (change row).credentialId = row.credentialId := updateWhere_keeps fun _ => rfl
  have methods : ∀ row, (change row).methodId = row.methodId := updateWhere_keeps fun _ => rfl
  obtain ⟨verifiers, rows⟩ := store.verifiers.exists_rewritten (f := change) fun a b clash =>
    clash.imp (fun same => (ids a).symm.trans (same.trans (ids b)))
      fun same => (methods a).symm.trans (same.trans (methods b))
  refine ⟨verifiers, ?_⟩
  unfold updateVerifier
  exact get_bind_ok.2 (demand_bind_ok.2 ⟨method, known,
    demand_bind_ok.2 ⟨verifiers, Table.rewrite?_eq_some.2 rows, rfl⟩⟩)

theorem stored_of_found {record : PasswordCredentialRecord}
    (found : findByLookupReference store lookup = some record) :
    (∃ method, passwordMethod? store lookup = some method) ∧
      store.identities.find record.identity.identityId = some record.identity := by
  unfold findByLookupReference at found
  obtain ⟨method, active, found⟩ := Option.bind_eq_some_iff.1 found
  obtain ⟨identity, held, found⟩ := Option.bind_eq_some_iff.1 found
  obtain ⟨verifier, _, found⟩ := Option.bind_eq_some_iff.1 found
  cases found
  have named : identity.identityId = method.identityId := Table.key_of_find held
  exact ⟨⟨method, (Option.filter_eq_some_iff.1 active).1⟩, named ▸ held⟩

end

section

variable {challengeId : Uuid} {verifier : Bytes}

variable {t : AuthStore} {challenge : AuthenticationChallenge}

theorem createChallenge_ok {u : Unit} (ran : createChallenge challenge store = .ok (u, t)) :
    ∃ challenges, t = { store with challenges } := by
  unfold createChallenge at ran
  simp only [steps_ok] at ran
  obtain ⟨challenges, _, rfl⟩ := ran
  exact ⟨challenges, rfl⟩

theorem exists_challenge
    (free : ∀ row ∈ store.challenges.rows, row.challengeId ≠ challenge.challengeId) :
    ∃ challenges, createChallenge challenge store = .ok ((), { store with challenges }) := by
  obtain ⟨challenges, rows⟩ := Table.exists_inserted free
  refine ⟨challenges, ?_⟩
  unfold createChallenge
  exact get_bind_ok.2 (demand_bind_ok.2 ⟨challenges, Table.insert?_eq_some.2 rows, rfl⟩)

theorem verifyChallenge_ok {matched : Bool}
    (ran : verifyChallenge challengeId verifier now store = .ok (matched, t)) :
    ∃ challenges, t = { store with challenges } := by
  unfold verifyChallenge at ran
  simp only [steps_ok, whenSome_ok] at ran
  obtain ⟨_, _, challenges, _, _, rfl⟩ | ⟨_, _, rfl⟩ := ran
  · exact ⟨challenges, rfl⟩
  · exact ⟨store.challenges, rfl⟩

theorem exists_verified (challengeId : Uuid) (verifier : Bytes) (now : Instant)
    (store : AuthStore) :
    ∃ matched challenges, verifyChallenge challengeId verifier now store =
      .ok (matched, { store with challenges }) := by
  unfold verifyChallenge
  cases open' : (store.challenges.find challengeId).filter fun challenge =>
      decide (AuthenticationChallenge.Answerable now challenge) with
  | none =>
    refine ⟨false, store.challenges, get_bind_ok.2 (whenSome_ok.2 (.inr ⟨open', ?_⟩))⟩
    exact pure_ok.2 ⟨rfl, rfl⟩
  | some challenge =>
    obtain ⟨challenges, rows⟩ := Table.exists_replaced store.challenges
      (AuthenticationChallenge.answered now (decide (verifier = challenge.verifier)) challenge)
      fun _ _ clash => clash
    refine ⟨decide (verifier = challenge.verifier), challenges, get_bind_ok.2 ?_⟩
    refine whenSome_ok.2 (.inl ⟨challenge, open', demand_bind_ok.2 ⟨challenges, ?_, ?_⟩⟩)
    · exact Table.replace?_eq_some.2 rows
    · exact put_bind_ok.2 (pure_ok.2 ⟨rfl, rfl⟩)

theorem markVerified_ok {methodId identityId : Uuid} {verified : Option Uuid}
    (ran : markVerificationMethodVerified methodId identityId now store =
      .ok (verified, t)) : ∃ methods, t = { store with methods } := by
  unfold markVerificationMethodVerified at ran
  simp only [steps_ok] at ran
  obtain ⟨methods, _, _, rfl⟩ := ran
  exact ⟨methods, rfl⟩

theorem exists_marked (methodId identityId : Uuid) (now : Instant) (store : AuthStore) :
    ∃ verified methods, markVerificationMethodVerified methodId identityId now store =
      .ok (verified, { store with methods }) := by
  let change := updateWhere (AuthenticationMethod.Awaits methodId identityId)
    (AuthenticationMethod.verified now)
  have ids : ∀ row, (change row).methodId = row.methodId := updateWhere_keeps fun _ => rfl
  have types : ∀ row, (change row).methodType = row.methodType := updateWhere_keeps fun _ => rfl
  have references : ∀ row, (change row).lookupReference = row.lookupReference :=
    updateWhere_keeps fun _ => rfl
  obtain ⟨methods, rows⟩ := store.methods.exists_rewritten (f := change) fun a b clash => by
    refine clash.imp (fun same => (ids a).symm.trans (same.trans (ids b))) ?_
    rintro ⟨present, type, reference⟩
    refine ⟨references a ▸ present, ?_, ?_⟩
    · exact (types a).symm.trans (type.trans (types b))
    · exact (references a).symm.trans (reference.trans (references b))
  refine ⟨(store.methods.rows.find? fun method =>
    decide (AuthenticationMethod.Awaits methodId identityId method)).map
      AuthenticationMethod.identityId, methods, ?_⟩
  unfold markVerificationMethodVerified
  exact get_bind_ok.2 (demand_bind_ok.2 ⟨methods, Table.rewrite?_eq_some.2 rows,
    put_bind_ok.2 (pure_ok.2 ⟨rfl, rfl⟩)⟩)

theorem protect_ok {secret : String} {digest : Bytes} :
    protect config challengeId secret store = .ok (digest, t) ↔
      (1 ≤ secret.length ∧ secret.length ≤ 128) ∧
        (config.protectorDigest challengeId secret).1 = digest ∧ store = t := by
  unfold protect
  rw [require_bind_ok, pure_ok]

end

theorem unlessNoResult_ok {α : Type} {body : Transaction AuthStore Failure α} {result : Option α} :
    unlessNoResult body store = .ok (result, t) ↔ (∃ a, result = some a ∧ body store = .ok (a, t)) ∨
        (result = none ∧ body store = .error noResultFound ∧ store = t) := by
  unfold unlessNoResult
  cases body store with
  | ok => simp [Prod.ext_iff, eq_comm]
  | error failure =>
    by_cases absent : failure = noResultFound
    · simp [absent, eq_comm]
    · simp [absent]

private theorem rotate_missing {tokens : TokenStore} {rotationId familyId : Uuid}
    {presented replacement : Bytes} {time : DateTime} (aware : time.aware = true)
    (proper : presented.length = 32 ∧ replacement.length = 32)
    (missing : tokens.families.find familyId = none) :
    rotate rotationId familyId presented replacement time tokens = .error noResultFound := by
  unfold rotate require demand
  rw [if_pos aware, if_pos proper]
  simp only [pure_bind]
  simp only [bind, StateT.bind, get, getThe, MonadStateOf.get, StateT.get, pure, Except.pure,
    Except.bind, missing]
  rfl

section

variable {request : RegistrationRequest}

theorem registerBody_proper :
    Proper (DrawsFresh config draws) (registerBody config request draws now) := by
  intro s response t ran
  unfold registerBody at ran
  obtain ⟨_, first, created, ran⟩ := bind_ok.1 ran
  obtain ⟨_, second, credential, opened⟩ := bind_ok.1 ran
  obtain ⟨identities, rfl⟩ := createIdentity_ok created
  obtain ⟨methods, verifiers, rfl, _⟩ := createCredential_ok credential
  obtain ⟨tokens, rfl, kept⟩ := openSession_ok opened
  exact ⟨rfl, fun fresh sound => kept (fresh.token draws.familyId).rotations sound⟩

theorem registerBody_returns_iff (fresh : DrawsFresh config draws store) :
    (∃ response t, registerBody config request draws now store = .ok (response, t)) ↔
      ∀ method ∈ store.methods.rows,
        method.lookupReference = some (config.lookup request.contact).1 →
          method.methodType ≠ .password ∧
            method.methodType ≠ request.contact.kind.verificationMethod := by
  constructor
  · rintro ⟨response, t, ran⟩
    unfold registerBody at ran
    obtain ⟨_, first, created, ran⟩ := bind_ok.1 ran
    obtain ⟨_, second, credential, _⟩ := bind_ok.1 ran
    obtain ⟨identities, rfl⟩ := createIdentity_ok created
    have known := unknown_of_created credential
    exact known
  · intro unknown
    obtain ⟨identities, created⟩ : ∃ identities,
        createIdentity (newRider draws) store = .ok ((), { store with identities }) :=
      exists_identity fresh.identity
    let known : AuthStore := { store with identities }
    obtain ⟨methods, verifiers, credential⟩ : ∃ methods verifiers,
        createCredential draws (newRider draws).identityId (config.lookup request.contact)
          (config.hashPassword draws.salt request.password.1) request.contact.kind now known =
          .ok ((), { known with methods, verifiers }) :=
      exists_credential fresh rfl rfl unknown
    obtain ⟨response, t, opened⟩ : ∃ response t,
        openSession config draws (newRider draws) now { known with methods, verifiers } =
          .ok (response, t) := exists_opened fresh (newRider draws) now rfl
    refine ⟨response, t, ?_⟩
    unfold registerBody
    exact bind_ok.2 ⟨(), _, created, bind_ok.2 ⟨(), _, credential, opened⟩⟩

variable {request : SignInRequest} {sound : AuthStore → Prop}
  {identityId sessionId challengeId : Uuid} {contact : Contact} {code : String}

private theorem upgradeVerifier_ok {record : PasswordCredentialRecord} {u : Unit}
    (ran : upgradeVerifier config request draws record store = .ok (u, t)) :
    (config.needsUpgrade record.verifier = true → 12 ≤ request.password.1.length) ∧
      ∃ verifiers, t = { store with verifiers } := by
  unfold upgradeVerifier at ran
  obtain ⟨_, upgraded⟩ | ⟨keeps, stays⟩ := ite_ok.1 ran
  · obtain ⟨verifier, hashed, hashes, updates⟩ := bind_ok.1 upgraded
    obtain ⟨length, rfl⟩ := hash_ok hashes
    exact ⟨fun _ => length, updateVerifier_ok updates⟩
  · obtain ⟨_, rfl⟩ := pure_ok.1 stays
    exact ⟨fun needed => absurd needed keeps, store.verifiers, rfl⟩

theorem saveIdentity_proper : Proper sound (saveIdentity identity) := by
  refine .of_same fun s u t ran => ?_
  unfold saveIdentity at ran
  simp only [steps_ok] at ran
  obtain ⟨_, _, identities, _, rfl⟩ := ran
  exact ⟨rfl, rfl⟩

theorem signOut_proper : Proper sound (signOut identityId sessionId now) := by
  intro s u t ran
  unfold signOut onTokens at ran
  rw [get_bind_ok] at ran
  obtain ⟨session, _, ran⟩ := demand_bind_ok.1 ran
  obtain ⟨_, ran⟩ := require_bind_ok.1 ran
  obtain ⟨_, middle, ends, ran⟩ := bind_ok.1 ran
  obtain ⟨_, revokes, _⟩ := bind_pure_ok.1 ran
  obtain ⟨first, ended, rfl⟩ := within_ok.1 ends
  obtain ⟨second, revoked, rfl⟩ := within_ok.1 revokes
  obtain ⟨count, ended⟩ := revokeSession_ok ended
  obtain ⟨families, rotations, _⟩ := revokeSessions_ok ended
  exact ⟨rfl, fun _ kept => (kept.of_same families rotations).after_revokeFamilies revoked⟩

theorem signOutAll_proper : Proper sound (signOutAll identityId sessionId now) := by
  intro s count t ran
  unfold signOutAll onTokens at ran
  rw [get_bind_ok] at ran
  obtain ⟨session, _, ran⟩ := demand_bind_ok.1 ran
  obtain ⟨_, ran⟩ := require_bind_ok.1 ran
  obtain ⟨_, middle, ends, ran⟩ := bind_ok.1 ran
  obtain ⟨_, revokes, _⟩ := bind_pure_ok.1 ran
  obtain ⟨first, ended, rfl⟩ := within_ok.1 ends
  obtain ⟨second, revoked, rfl⟩ := within_ok.1 revokes
  obtain ⟨families, rotations, _⟩ := revokeSessions_ok ended
  exact ⟨rfl, fun _ kept => (kept.of_same families rotations).after_revokeFamilies revoked⟩

theorem signInBody_proper :
    Proper (DrawsFresh config draws) (signInBody config request draws now) := by
  intro s response t ran
  unfold signInBody at ran
  rw [get_bind_ok] at ran
  obtain ⟨record, _, accepted⟩ | ⟨_, refused⟩ := whenSome_ok.1 ran
  · obtain ⟨identity, _, accepted⟩ := demand_bind_ok.1 accepted
    obtain ⟨_, middle, upgraded, accepted⟩ := bind_ok.1 accepted
    obtain ⟨opened, opens, _⟩ := bind_pure_ok.1 accepted
    obtain ⟨_, verifiers, rfl⟩ := upgradeVerifier_ok upgraded
    obtain ⟨tokens, rfl, kept⟩ := openSession_ok opens
    exact ⟨rfl, fun fresh sound => kept (fresh.token draws.familyId).rotations sound⟩
  · obtain ⟨_, rfl⟩ := pure_ok.1 refused
    exact ⟨rfl, fun _ sound => sound⟩

theorem signInBody_returns_iff (fresh : DrawsFresh config draws store) :
    (∃ response t, signInBody config request draws now store = .ok (response, t)) ↔
      ∀ record ∈ acceptedCredential config store request,
        config.needsUpgrade record.verifier = true → 12 ≤ request.password.1.length := by
  constructor
  · rintro ⟨response, t, ran⟩ record accepted
    unfold signInBody at ran
    rw [get_bind_ok] at ran
    obtain ⟨other, found, accepts⟩ | ⟨absent, _⟩ := whenSome_ok.1 ran
    · cases Option.some_inj.1 (found.symm.trans accepted)
      obtain ⟨_, _, accepts⟩ := demand_bind_ok.1 accepts
      obtain ⟨_, _, upgraded, _⟩ := bind_ok.1 accepts
      exact (upgradeVerifier_ok upgraded).1
    · rw [Option.mem_def, absent] at accepted
      cases accepted
  · intro long
    unfold signInBody
    cases accepted : acceptedCredential config store request with
    | none =>
      refine ⟨none, store, get_bind_ok.2 ?_⟩
      rw [accepted]
      exact pure_ok.2 ⟨rfl, rfl⟩
    | some record =>
      have found := (Option.filter_eq_some_iff.1 accepted).1
      obtain ⟨⟨method, known⟩, held⟩ := stored_of_found found
      obtain ⟨verifiers, upgraded⟩ : ∃ verifiers,
          upgradeVerifier config request draws record store =
            .ok ((), { store with verifiers }) := by
        unfold upgradeVerifier
        by_cases needed : config.needsUpgrade record.verifier = true
        · have hashes : Runtime.hash config draws.salt request.password.1 store =
              .ok (config.hashPassword draws.salt request.password.1, store) := by
            have bounds : 12 ≤ request.password.1.length ∧ request.password.1.length ≤ 1024 :=
              ⟨long record accepted needed, le_trans request.password.2.2 (by decide)⟩
            exact require_bind_ok.2 ⟨bounds, pure_ok.2 ⟨rfl, rfl⟩⟩
          obtain ⟨verifiers, updates⟩ := exists_updated known
            (config.hashPassword draws.salt request.password.1)
          exact ⟨verifiers, ite_ok.2 (.inl ⟨needed, bind_ok.2 ⟨_, store, hashes, updates⟩⟩)⟩
        · exact ⟨store.verifiers, ite_ok.2 (.inr ⟨needed, pure_ok.2 ⟨rfl, rfl⟩⟩)⟩
      let middle : AuthStore := { store with verifiers }
      obtain ⟨response, t, opened⟩ : ∃ response t,
          openSession config draws record.identity now middle = .ok (response, t) :=
        exists_opened fresh record.identity now rfl
      refine ⟨some response, t, get_bind_ok.2 ?_⟩
      rw [accepted]
      exact demand_bind_ok.2 ⟨record.identity, held, bind_ok.2 ⟨(), middle, upgraded,
        bind_ok.2 ⟨response, t, opened, pure_ok.2 ⟨rfl, rfl⟩⟩⟩⟩

theorem refreshBody_proper {refreshToken : String} {familyId : Uuid} :
    Proper (DrawsFresh config draws) (refreshBody config refreshToken familyId draws now) := by
  intro s response t ran
  unfold refreshBody at ran
  obtain ⟨result, middle, rotates, returned⟩ := bind_ok.1 ran
  rw [get_bind_ok] at returned
  obtain ⟨_, rfl⟩ := pure_ok.1 returned
  obtain ⟨rotated, _, rotates⟩ | ⟨_, _, rfl⟩ := unlessNoResult_ok.1 rotates
  · obtain ⟨tokens, consumed, rfl⟩ := within_ok.1 rotates
    exact ⟨rfl, fun fresh sound => sound.after_rotate (fresh.token familyId) consumed⟩
  · exact ⟨rfl, fun _ sound => sound⟩

theorem exists_refreshed (fresh : DrawsFresh config draws store) (sound : TokenSound store.tokens)
    (refreshToken : String) (familyId : Uuid) (now : Instant) :
    ∃ response t, refreshBody config refreshToken familyId draws now store = .ok (response, t) := by
  have proper : (config.tokenHash refreshToken).1.length = 32 ∧
      (config.tokenHash (config.refreshToken familyId draws.secret)).1.length = 32 :=
    ⟨(config.tokenHash refreshToken).2, (config.tokenHash _).2⟩
  obtain ⟨result, middle, rotates⟩ : ∃ result middle,
      unlessNoResult (onTokens (rotate draws.rotationId familyId (config.tokenHash refreshToken).1
        (config.tokenHash (config.refreshToken familyId draws.secret)).1 (.utc now))) store =
        .ok (result, middle) := by
    cases found : store.tokens.families.find familyId with
    | some family =>
      have aware : (DateTime.utc now).aware = true := rfl
      obtain ⟨rotated, tokens, rotates⟩ := sound.exists_rotated found proper fresh.rotation
        (fresh.token familyId) aware
      refine ⟨some rotated, { store with tokens }, ?_⟩
      exact unlessNoResult_ok.2 (.inl ⟨rotated, rfl, within_ok.2 ⟨tokens, rotates, rfl⟩⟩)
    | none =>
      have fails : rotate draws.rotationId familyId (config.tokenHash refreshToken).1
          (config.tokenHash (config.refreshToken familyId draws.secret)).1 (.utc now)
          store.tokens = .error noResultFound := rotate_missing rfl proper found
      refine ⟨none, store, unlessNoResult_ok.2 (.inr ⟨rfl, ?_, rfl⟩)⟩
      unfold onTokens within
      rw [fails]
  unfold refreshBody
  exact ⟨_, middle, bind_ok.2 ⟨result, middle, rotates, get_bind_ok.2 (pure_ok.2 ⟨rfl, rfl⟩)⟩⟩

theorem prepareVerificationBody_proper :
    Proper (DrawsFresh config draws)
      (prepareVerificationBody config identityId contact draws now) := by
  refine .of_same fun s prepared t ran => ?_
  unfold prepareVerificationBody at ran
  rw [get_bind_ok] at ran
  obtain ⟨methodId, _, ran⟩ := demand_bind_ok.1 ran
  have writes := raising_ok.1 ran
  obtain ⟨verifier, middle, protects, writes⟩ := bind_ok.1 writes
  obtain ⟨_, _, rfl⟩ := protect_ok.1 protects
  obtain ⟨_, creates, _⟩ := bind_pure_ok.1 writes
  obtain ⟨challenges, rfl⟩ := createChallenge_ok creates
  exact ⟨rfl, rfl⟩

theorem prepareVerificationBody_returns_iff (fresh : DrawsFresh config draws store) :
    (∃ prepared t, prepareVerificationBody config identityId contact draws now store =
      .ok (prepared, t)) ↔
      (pendingVerificationMethod store identityId contact.kind.verificationMethod
        (config.lookup contact)).isSome = true := by
  constructor
  · rintro ⟨prepared, t, ran⟩
    unfold prepareVerificationBody at ran
    rw [get_bind_ok] at ran
    obtain ⟨methodId, pending, _⟩ := demand_bind_ok.1 ran
    rw [pending]
    rfl
  · intro pending
    obtain ⟨methodId, pending⟩ := Option.isSome_iff_exists.1 pending
    let challenge : AuthenticationChallenge :=
      { challengeId := draws.challengeId, methodId := some methodId,
        purpose := contact.kind.purpose,
        verifier := (config.protectorDigest draws.challengeId draws.code.1).1,
        expiresAt := now + challengeLifetime, consumedAt := none, attemptCount := 0,
        maxAttempts := 5, createdAt := now }
    obtain ⟨challenges, creates⟩ : ∃ challenges,
        createChallenge challenge store = .ok ((), { store with challenges }) :=
      exists_challenge fresh.challenge
    have length : 1 ≤ draws.code.1.length ∧ draws.code.1.length ≤ 128 :=
      ⟨le_trans (by decide) draws.code.2.1, le_trans draws.code.2.2 (by decide)⟩
    refine ⟨{ challengeId := draws.challengeId, expiresAt := now + challengeLifetime },
      { store with challenges }, ?_⟩
    unfold prepareVerificationBody
    refine get_bind_ok.2 (demand_bind_ok.2 ⟨methodId, pending, raising_ok.2 ?_⟩)
    refine bind_ok.2 ⟨_, store, protect_ok.2 ⟨length, rfl, rfl⟩, ?_⟩
    exact bind_ok.2 ⟨(), _, creates, pure_ok.2 ⟨rfl, rfl⟩⟩

theorem completeVerificationBody_proper :
    Proper sound (completeVerificationBody config identityId challengeId code now) := by
  refine .of_same fun s verified t ran => ?_
  unfold completeVerificationBody at ran
  rw [get_bind_ok] at ran
  obtain ⟨methodId, _, answers⟩ | ⟨_, refused⟩ := whenSome_ok.1 ran
  · obtain ⟨verifier, _, protects, answers⟩ := bind_ok.1 answers
    obtain ⟨_, _, rfl⟩ := protect_ok.1 protects
    obtain ⟨matched, middle, verifies, marks⟩ := bind_ok.1 answers
    obtain ⟨challenges, rfl⟩ := verifyChallenge_ok verifies
    obtain ⟨_, marks⟩ | ⟨_, unmarked⟩ := ite_ok.1 marks
    · obtain ⟨_, marked, _⟩ := bind_pure_ok.1 marks
      obtain ⟨methods, rfl⟩ := markVerified_ok marked
      exact ⟨rfl, rfl⟩
    · obtain ⟨_, rfl⟩ := pure_ok.1 unmarked
      exact ⟨rfl, rfl⟩
  · obtain ⟨_, rfl⟩ := pure_ok.1 refused
    exact ⟨rfl, rfl⟩

theorem completeVerificationBody_returns_iff :
    (∃ verified t, completeVerificationBody config identityId challengeId code now store =
      .ok (verified, t)) ↔
      ((ownMethod store challengeId identityId).isSome = true →
        1 ≤ code.length ∧ code.length ≤ 128) := by
  constructor
  · rintro ⟨verified, t, ran⟩ own
    unfold completeVerificationBody at ran
    rw [get_bind_ok] at ran
    obtain ⟨methodId, _, answers⟩ | ⟨absent, _⟩ := whenSome_ok.1 ran
    · obtain ⟨_, _, protects, _⟩ := bind_ok.1 answers
      exact (protect_ok.1 protects).1
    · rw [absent] at own
      cases own
  · intro length
    unfold completeVerificationBody
    cases own : ownMethod store challengeId identityId with
    | none =>
      exact ⟨false, store, get_bind_ok.2 (whenSome_ok.2 (.inr ⟨own, pure_ok.2 ⟨rfl, rfl⟩⟩))⟩
    | some methodId =>
      rw [own] at length
      let digest := (config.protectorDigest challengeId code).1
      have protects : protect config challengeId code store = .ok (digest, store) :=
        protect_ok.2 ⟨length rfl, rfl, rfl⟩
      obtain ⟨matched, challenges, verifies⟩ := exists_verified challengeId digest now store
      let middle : AuthStore := { store with challenges }
      have begins : ∀ {verified : Bool} {t : AuthStore}, (if matched = true then do
            let verified ← markVerificationMethodVerified methodId identityId now
            pure (decide (verified = some identityId))
          else (pure false : Transaction AuthStore Failure Bool)) middle = .ok (verified, t) →
          completeVerificationBody config identityId challengeId code now store =
            .ok (verified, t) := by
        intro verified t ends
        unfold completeVerificationBody
        exact get_bind_ok.2 (whenSome_ok.2 (.inl ⟨methodId, own,
          bind_ok.2 ⟨digest, store, protects, bind_ok.2 ⟨matched, middle, verifies, ends⟩⟩⟩))
      by_cases hit : matched = true
      · obtain ⟨verified, methods, marks⟩ := exists_marked methodId identityId now middle
        exact ⟨_, _, begins (ite_ok.2 (.inl ⟨hit, bind_ok.2 ⟨verified, _, marks,
          pure_ok.2 ⟨rfl, rfl⟩⟩⟩))⟩
      · exact ⟨false, middle, begins (ite_ok.2 (.inr ⟨hit, pure_ok.2 ⟨rfl, rfl⟩⟩))⟩

end
end Ayo.Authentication.Effects
