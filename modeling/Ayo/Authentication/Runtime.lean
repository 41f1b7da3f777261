/- digest: The authentication runtime, each command behind the limiter. -/

import Ayo.Authentication.Models
import Ayo.Kernel.Sessions

namespace Ayo.Authentication.Runtime

open Kernel.UnitOfWork Kernel.Scopes Core.Values RateLimit.Models RateLimit.Repository Tokens Models
  Repository

theorem register_bounds : PolicyBounds 5 1 60 := by constructor <;> norm_num

theorem signIn_bounds : PolicyBounds 8 1 30 := by constructor <;> norm_num

theorem refresh_bounds : PolicyBounds 20 1 6 := by constructor <;> norm_num

theorem recovery_bounds : PolicyBounds 3 1 300 := by constructor <;> norm_num

def registerPolicy : RateLimitPolicy :=
  ⟨⟨"auth.register", by decide⟩, 5, 1, 60, register_bounds⟩

def signInPolicy : RateLimitPolicy :=
  ⟨⟨"auth.sign_in", by decide⟩, 8, 1, 30, signIn_bounds⟩

def refreshPolicy : RateLimitPolicy :=
  ⟨⟨"auth.refresh", by decide⟩, 20, 1, 6, refresh_bounds⟩

def recoveryPolicy : RateLimitPolicy :=
  ⟨⟨"auth.recovery_prepare", by decide⟩, 3, 1, 300, recovery_bounds⟩

def verificationPolicy : RateLimitPolicy :=
  ⟨⟨"auth.verification", by decide⟩, 5, 1, 60, register_bounds⟩

def raising {α : Type} (body : Transaction AuthStore Failure α) :
    Transaction AuthStore AuthenticationFailure α :=
  fun store =>
    match body store with
    | .ok result => .ok result
    | .error failure => .error (.raised failure)

def onTokens {α : Type} (body : Transaction TokenStore Failure α) :
    Transaction AuthStore Failure α :=
  within AuthStore.tokens (fun tokens store => { store with tokens }) body

def consumeOne (key : Fingerprint) (policy : RateLimitPolicy) (databaseNow : Instant) :
    Transaction AuthStore AuthenticationFailure RateLimitDecision :=
  raising (within AuthStore.buckets (fun buckets store => { store with buckets })
    (consume key.1 policy 1 databaseNow))

def noActiveTransaction : AuthenticationFailure :=
  .raised (.value "Unit of Work has no active transaction.")

def limited {α : Type} (key : Fingerprint) (policy : RateLimitPolicy) (databaseNow : Instant)
    (body : Transaction AuthStore AuthenticationFailure α) (store : AuthStore) :
    Except AuthenticationFailure α × AuthStore :=
  leave (do
    let decision ← onConnection (consumeOne key policy databaseNow)
    if decision.allowed = true then pure () else do
      commitNow noActiveTransaction
      throw (.rateLimited decision.retryAfterSeconds)
    onConnection body) store

def answered {α : Type} (text : String) : Except AuthenticationFailure (Option α) →
    Except AuthenticationFailure α
  | .ok (some answer) => .ok answer
  | .ok none => .error (.denied text)
  | .error failure => .error failure

variable (config : RuntimeConfig)

def newSession (draws : Draws) (identity : Identity) (now : Instant) : SessionRecord where
  sessionId := draws.sessionId
  identityId := some identity.identityId
  tokenFamilyId := some draws.familyId
  refreshRotationCounter := 0
  tokenHash := (config.tokenHash (config.refreshToken draws.familyId draws.secret)).1
  createdAt := now
  expiresAt := now + config.refreshLifetime
  revokedAt := none
  revocationReason := none
  version := 1

def sessionResponse (identity : Identity) (sessionId : Uuid) (refreshToken : String)
    (expiresAt now : Instant) : SessionResponse :=
  let access := config.issueToken identity.identityId sessionId identity.identityType now
  { identityId := identity.identityId
    sessionId
    identityType := identity.identityType
    accessToken := access.1
    accessExpiresAt := access.2
    refreshToken
    refreshExpiresAt := expiresAt }

def openSession (draws : Draws) (identity : Identity) (now : Instant) :
    Transaction AuthStore Failure SessionResponse := do
  let refreshToken := config.refreshToken draws.familyId draws.secret
  let refreshExpiry := now + config.refreshLifetime
  let _ ← onTokens (createSession (newSession config draws identity now))
  onTokens (createFamily draws.familyId identity.identityId draws.sessionId
    (config.tokenHash refreshToken).1 (.utc now) (.utc refreshExpiry))
  pure (sessionResponse config identity draws.sessionId refreshToken refreshExpiry now)

def newRider (draws : Draws) : Identity where
  identityId := draws.identityId
  identityType := .rider
  status := .active

def registerBody (request : RegistrationRequest) (draws : Draws) (now : Instant) :
    Transaction AuthStore Failure SessionResponse := do
  let identity := newRider draws
  createIdentity identity
  createCredential draws identity.identityId (config.lookup request.contact)
    (config.hashPassword draws.salt request.password.1) request.contact.kind now
  openSession config draws identity now

/-- `register`; a duplicate identifier is reported after a unit of work of its own. -/
def register (request : RegistrationRequest) (draws : Draws) (times : Times)
    (store : AuthStore) : Except AuthenticationFailure SessionResponse × AuthStore :=
  let left := limited (config.lookup request.contact) registerPolicy times.databaseNow
    (raising (registerBody config request draws times.now)) store
  (match left.1 with
    | .error (.raised failure) =>
      if failure = duplicateIdentifier then .error .registrationConflict
      else .error (.raised failure)
    | result => result, left.2)

def hash (salt : Nat) (password : String) : Transaction AuthStore Failure String := do
  require (12 ≤ password.length ∧ password.length ≤ 1024)
    (.value "Password length is outside the accepted range")
  pure (config.hashPassword salt password)

variable (store : AuthStore)

def acceptedCredential (request : SignInRequest) : Option PasswordCredentialRecord :=
  (findByLookupReference store (config.lookup request.contact)).filter fun record =>
    config.verifyPassword record.verifier request.password.1 &&
      decide (record.identity.status = .active ∧ record.identity.identityType = .rider)

def upgradeVerifier (request : SignInRequest) (draws : Draws)
    (record : PasswordCredentialRecord) : Transaction AuthStore Failure Unit :=
  if config.needsUpgrade record.verifier = true then do
    let verifier ← hash config draws.salt request.password.1
    updateVerifier (config.lookup request.contact) verifier
  else
    pure ()

def signInBody (request : SignInRequest) (draws : Draws) (now : Instant) :
    Transaction AuthStore Failure (Option SessionResponse) := do
  let store ← get
  whenSome (acceptedCredential config store request) (fun record => do
      let identity ← demand (store.identities.find record.identity.identityId)
        (.value "Credential identity is missing")
      upgradeVerifier config request draws record
      let response ← openSession config draws identity now
      pure (some response))
    (pure none)

def signIn (request : SignInRequest) (draws : Draws) (times : Times) (store : AuthStore) :
    Except AuthenticationFailure SessionResponse × AuthStore :=
  let left := limited (config.lookup request.contact) signInPolicy times.databaseNow
    (raising (signInBody config request draws times.now)) store
  (answered "authentication_failed" left.1, left.2)

def unlessNoResult {α : Type} (body : Transaction AuthStore Failure α) :
    Transaction AuthStore Failure (Option α) :=
  fun store =>
    match body store with
    | .ok (a, after) => .ok (some a, after)
    | .error failure => if failure = noResultFound then .ok (none, store) else .error failure

def refreshedSubject (sessionId : Uuid) (now : Instant) : Option (SessionRecord × Identity) := do
  let session ← store.tokens.sessions.find sessionId
  let identityId ← session.identityId
  let identity ← store.identities.find identityId
  if session.isActiveAt now = true ∧ identity.status = .active then some (session, identity)
  else none

def refreshBody (refreshToken : String) (familyId : Uuid) (draws : Draws) (now : Instant) :
    Transaction AuthStore Failure (Option SessionResponse) := do
  let replacement := config.refreshToken familyId draws.secret
  let result ← unlessNoResult (onTokens (rotate draws.rotationId familyId
    (config.tokenHash refreshToken).1 (config.tokenHash replacement).1 (.utc now)))
  let store ← get
  pure do
    let rotated ← result.filter fun result => decide (result.outcome = .rotated)
    let (session, identity) ← refreshedSubject store rotated.sessionId now
    pure (sessionResponse config identity session.sessionId replacement session.expiresAt now)

/-- `refresh`; a token that names no family is refused before the unit of work. -/
def refresh (refreshToken : String) (draws : Draws) (times : Times) (store : AuthStore) :
    Except AuthenticationFailure SessionResponse × AuthStore :=
  match config.familyId refreshToken with
  | none => (.error (.denied "refresh_denied"), store)
  | some familyId =>
    let left := limited (config.tokenHash refreshToken) refreshPolicy times.databaseNow
      (raising (refreshBody config refreshToken familyId draws times.now)) store
    (answered "refresh_denied" left.1, left.2)

def prepareRecovery (contact : Contact) (times : Times) (store : AuthStore) :
    Except AuthenticationFailure Unit × AuthStore :=
  limited (config.lookup contact) recoveryPolicy times.databaseNow (pure ()) store

def protect (challengeId : Uuid) (secret : String) : Transaction AuthStore Failure Bytes := do
  require (1 ≤ secret.length ∧ secret.length ≤ 128) (.value "Challenge response length is invalid")
  pure (config.protectorDigest challengeId secret).1

def challengeLifetime : Int := 10 * 60 * 1000000

def prepareVerificationBody (identityId : Uuid) (contact : Contact) (draws : Draws)
    (now : Instant) : Transaction AuthStore AuthenticationFailure VerificationPreparation := do
  let store ← get
  let methodId ← demand (pendingVerificationMethod store identityId contact.kind.verificationMethod
      (config.lookup contact))
    (.denied "verification_not_available")
  raising do
    let verifier ← protect config draws.challengeId draws.code.1
    createChallenge
      { challengeId := draws.challengeId, methodId := some methodId,
        purpose := contact.kind.purpose, verifier, expiresAt := now + challengeLifetime,
        consumedAt := none, attemptCount := 0, maxAttempts := 5, createdAt := now }
    pure { challengeId := draws.challengeId, expiresAt := now + challengeLifetime }

def prepareVerification (identityId : Uuid) (contact : Contact) (delivered : Bool)
    (draws : Draws) (times : Times) (store : AuthStore) :
    Except AuthenticationFailure VerificationPreparation × AuthStore :=
  if config.protectorPresent = true ∧ config.deliveryPresent = true then
    let left := limited (config.verificationKey identityId (config.lookup contact))
      verificationPolicy times.databaseNow
      (prepareVerificationBody config identityId contact draws times.now) store
    (left.1.bind fun prepared =>
      if delivered = true then .ok prepared else .error .deliveryUnavailable, left.2)
  else (.error .deliveryUnavailable, store)

def ownMethod (challengeId identityId : Uuid) : Option Uuid := do
  let challenge ← store.challenges.find challengeId
  let methodId ← challenge.methodId
  if belongsToIdentity store methodId identityId = true then some methodId else none

def completeVerificationBody (identityId challengeId : Uuid) (code : String) (now : Instant) :
    Transaction AuthStore Failure Bool := do
  let store ← get
  whenSome (ownMethod store challengeId identityId) (fun methodId => do
      let verifier ← protect config challengeId code
      let matched ← verifyChallenge challengeId verifier now
      if matched = true then do
        let verified ← markVerificationMethodVerified methodId identityId now
        pure (decide (verified = some identityId))
      else
        pure false)
    (pure false)

def completeVerification (identityId challengeId : Uuid) (code : String) (times : Times)
    (store : AuthStore) : Except AuthenticationFailure ActivationProgress × AuthStore :=
  if config.protectorPresent = true then
    let left := limited (config.completionKey identityId challengeId) verificationPolicy
      times.databaseNow
      (raising (completeVerificationBody config identityId challengeId code times.now)) store
    let emailStatus := activationStatus left.2 identityId .emailVerification
    let phoneStatus := activationStatus left.2 identityId .phoneOtp
    (left.1.bind fun verified =>
      if verified = true then
        .ok { identityId, emailStatus, phoneStatus,
              activated := decide (emailStatus = some .verified ∨ phoneStatus = some .verified) }
      else .error (.denied "verification_failed"), left.2)
  else (.error .deliveryUnavailable, store)

def signOut (identityId sessionId : Uuid) (now : Instant) : Transaction AuthStore Failure Unit := do
  let store ← get
  let session ← demand (store.tokens.sessions.find sessionId) (.conflict "session_not_found")
  require (session.identityId = some identityId) (.conflict "session_not_found")
  let _ ← onTokens (revokeSession sessionId now "user_sign_out")
  let _ ← onTokens (revokeForSession sessionId now)
  pure ()

def signOutAll (identityId sessionId : Uuid) (now : Instant) :
    Transaction AuthStore Failure Nat := do
  let store ← get
  let session ← demand (store.tokens.sessions.find sessionId) (.conflict "session_not_found")
  require (session.identityId = some identityId) (.conflict "session_not_found")
  let count ← onTokens (revokeSessionsOfIdentity identityId now "user_sign_out_all")
  let _ ← onTokens (revokeAllForIdentity identityId now)
  pure count

end Ayo.Authentication.Runtime
