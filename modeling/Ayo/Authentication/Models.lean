/- digest: Identities, methods, verifiers and challenges, and the runtime's requests. -/

import Ayo.Authentication.Tokens
import Ayo.Core.Authorization

namespace Ayo.Authentication.Models

open Kernel.KeyedTable Core.Values Core.Authorization RateLimit.Models RateLimit.Repository Tokens

inductive AccountStatus where
  | pending
  | active
  | suspended
  | locked
  | disabled
  | recoveryPending
  | deletionPending
deriving DecidableEq

structure Identity where
  identityId : Uuid
  identityType : IdentityType
  status : AccountStatus

instance : Row Identity Uuid := .keyed Identity.identityId

inductive MethodType where
  | phoneOtp
  | emailVerification
  | password
  | passkey
  | recoveryCode
  | staffMfa
  | serviceCredential
deriving DecidableEq

inductive MethodStatus where
  | active
  | pending
  | verified
deriving DecidableEq

structure AuthenticationMethod where
  (methodId identityId : Uuid)
  methodType : MethodType
  status : MethodStatus
  lookupReference : Option Bytes
  verifiedAt : Option Instant

/-- The rule of `uq_identity_auth_methods_type_lookup`, under which null references differ. -/
def AuthenticationMethod.SameReference (a b : AuthenticationMethod) : Prop :=
  a.lookupReference.isSome = true ∧ a.methodType = b.methodType ∧
    a.lookupReference = b.lookupReference
deriving Decidable

theorem AuthenticationMethod.SameReference.symm {a b : AuthenticationMethod}
    (same : a.SameReference b) : b.SameReference a := by
  obtain ⟨present, type, reference⟩ := same
  exact ⟨reference ▸ present, type.symm, reference.symm⟩

instance : Row AuthenticationMethod Uuid where
  key := AuthenticationMethod.methodId
  clash a b := a.methodId = b.methodId ∨ a.SameReference b
  clash_symm clash := clash.imp Eq.symm AuthenticationMethod.SameReference.symm

structure CredentialVerifier where
  (credentialId methodId : Uuid)
  (scheme verifier : String)

instance : Row CredentialVerifier Uuid :=
  .keyedUnique CredentialVerifier.credentialId CredentialVerifier.methodId

inductive ChallengePurpose where
  | phoneOtp
  | emailVerification
  | passwordReset
  | accountRecovery
  | stepUp

structure AuthenticationChallenge where
  challengeId : Uuid
  methodId : Option Uuid
  purpose : ChallengePurpose
  verifier : Bytes
  expiresAt : Instant
  consumedAt : Option Instant
  (attemptCount maxAttempts : Nat)
  createdAt : Instant

instance : Row AuthenticationChallenge Uuid := .keyed AuthenticationChallenge.challengeId

structure AuthStore where
  identities : Table Identity
  methods : Table AuthenticationMethod
  verifiers : Table CredentialVerifier
  challenges : Table AuthenticationChallenge
  tokens : TokenStore
  buckets : RateLimitBuckets

def AuthStore.empty : AuthStore := ⟨.empty, .empty, .empty, .empty, .empty, .empty⟩

abbrev Fingerprint := { bytes : Bytes // bytes.length = 32 }

inductive ContactKind where
  | email
  | phone

def ContactKind.verificationMethod : ContactKind → MethodType
  | .email => .emailVerification
  | .phone => .phoneOtp

def ContactKind.purpose : ContactKind → ChallengePurpose
  | .email => .emailVerification
  | .phone => .phoneOtp

structure Contact where
  kind : ContactKind
  value : String

structure RegistrationRequest where
  contact : Contact
  password : BoundedText 12 128

structure SignInRequest where
  contact : Contact
  password : BoundedText 1 128

structure RuntimeConfig where
  lookup : Contact → Fingerprint
  verificationKey : Uuid → Fingerprint → Fingerprint
  completionKey : Uuid → Uuid → Fingerprint
  tokenHash : String → Fingerprint
  /-- The family that a well-formed refresh token names. -/
  familyId : String → Option Uuid
  refreshToken : Uuid → String → String
  /-- Argon2id under a salt. -/
  hashPassword : Nat → String → String
  verifyPassword : String → String → Bool
  needsUpgrade : String → Bool
  dummyVerifier : String
  /-- The access token of a session, and when it expires. -/
  issueToken : Uuid → Uuid → IdentityType → Instant → String × Instant
  protectorDigest : Uuid → String → Fingerprint
  (protectorPresent deliveryPresent : Bool)
  refreshLifetime : Int
  lifetime_positive : 0 < refreshLifetime

/-- What one call draws from `uuid4` and `secrets`. -/
structure Draws where
  (identityId passwordMethodId verificationMethodId credentialId familyId sessionId : Uuid)
  (rotationId challengeId : Uuid)
  secret : String
  salt : Nat
  code : BoundedText 6 6

/-- The times of one call: its own clock, and the reading of the database clock in the limiter. -/
structure Times where
  (now databaseNow : Instant)

structure SessionResponse where
  (identityId sessionId : Uuid)
  identityType : IdentityType
  accessToken : String
  accessExpiresAt : Instant
  refreshToken : String
  refreshExpiresAt : Instant
deriving DecidableEq

structure VerificationPreparation where
  challengeId : Uuid
  expiresAt : Instant

structure ActivationProgress where
  identityId : Uuid
  (emailStatus phoneStatus : Option MethodStatus)
  activated : Bool

inductive AuthenticationFailure where
  | denied (text : String)
  | rateLimited (retryAfterSeconds : Int)
  | registrationConflict
  | deliveryUnavailable
  | raised (failure : Failure)
deriving DecidableEq

end Ayo.Authentication.Models

/-! The repositories of identities, password credentials and challenges. -/

namespace Ayo.Authentication.Repository

open Kernel.UnitOfWork Kernel.Updates Core.Values RateLimit.Models Tokens Models

def createIdentity (identity : Identity) : Transaction AuthStore Failure Unit := do
  let store ← get
  let identities ← demand (store.identities.insert? identity) (.integrity "identities")
  put { store with identities }

def saveIdentity (identity : Identity) : Transaction AuthStore Failure Unit := do
  let store ← get
  let current ← demand (store.identities.find identity.identityId)
    (.conflict "Identity changed during the transaction")
  let identities ← demand (store.identities.replace? { current with status := identity.status })
    (.integrity "identities")
  put { store with identities }

def duplicateIdentifier : Failure := .conflict "Authentication identifier is already registered"

def createCredential (draws : Draws) (identityId : Uuid) (lookup : Fingerprint)
    (verifier : String) (kind : ContactKind) (createdAt : Instant) :
    Transaction AuthStore Failure Unit := do
  let store ← get
  let methods ← demand (store.methods.insertAll?
      [{ methodId := draws.passwordMethodId, identityId, methodType := .password,
         status := .active, lookupReference := some lookup.1, verifiedAt := some createdAt },
       { methodId := draws.verificationMethodId, identityId,
         methodType := kind.verificationMethod, status := .pending,
         lookupReference := some lookup.1, verifiedAt := none }])
    duplicateIdentifier
  let verifiers ← demand (store.verifiers.insert?
      { credentialId := draws.credentialId, methodId := draws.passwordMethodId,
        scheme := "argon2id-v19", verifier })
    duplicateIdentifier
  put { store with methods, verifiers }

/-- The row of `find_by_lookup_reference`, a join of an active password method with its identity
and its verifier. -/
structure PasswordCredentialRecord where
  identity : Identity
  verifier : String

variable (store : AuthStore) (lookup : Fingerprint)

def passwordMethod? : Option AuthenticationMethod :=
  store.methods.rows.find? fun method =>
    decide (method.methodType = .password ∧ method.lookupReference = some lookup.1)

def findByLookupReference : Option PasswordCredentialRecord := do
  let method ← (passwordMethod? store lookup).filter fun method => decide (method.status = .active)
  let identity ← store.identities.find method.identityId
  let verifier ← store.verifiers.rows.find? fun row => decide (row.methodId = method.methodId)
  pure { identity, verifier := verifier.verifier }

def CredentialVerifier.upgraded (verifier : String) (row : CredentialVerifier) :
    CredentialVerifier :=
  { row with verifier, scheme := "argon2id-v19" }

def updateVerifier (verifier : String) : Transaction AuthStore Failure Unit := do
  let store ← get
  let method ← demand (passwordMethod? store lookup) noResultFound
  let verifiers ← demand (store.verifiers.rewrite?
      (updateWhere (fun row => row.methodId = method.methodId)
        (CredentialVerifier.upgraded verifier)))
    (.integrity "credential_verifiers")
  put { store with verifiers }

def pendingVerificationMethod (identityId : Uuid) (methodType : MethodType) (lookup : Fingerprint) :
    Option Uuid :=
  (store.methods.rows.find? fun method =>
    decide (method.identityId = identityId ∧ method.methodType = methodType ∧
      method.lookupReference = some lookup.1 ∧ method.status = .pending)).map
        AuthenticationMethod.methodId

variable (methodId identityId : Uuid)

def AuthenticationMethod.Awaits (method : AuthenticationMethod) : Prop :=
  method.methodId = methodId ∧ method.identityId = identityId ∧ method.status = .pending
deriving Decidable

def AuthenticationMethod.verified (time : Instant) (method : AuthenticationMethod) :
    AuthenticationMethod :=
  { method with status := .verified, verifiedAt := some time }

def markVerificationMethodVerified (verifiedAt : Instant) :
    Transaction AuthStore Failure (Option Uuid) := do
  let store ← get
  let methods ← demand (store.methods.rewrite?
      (updateWhere (AuthenticationMethod.Awaits methodId identityId)
        (AuthenticationMethod.verified verifiedAt)))
    (.integrity "identity_authentication_methods")
  put { store with methods }
  pure ((store.methods.rows.find? fun method =>
    decide (AuthenticationMethod.Awaits methodId identityId method)).map
      AuthenticationMethod.identityId)

def belongsToIdentity : Bool :=
  store.methods.rows.any fun method =>
    decide (method.methodId = methodId ∧ method.identityId = identityId)

def activationStatus (identityId : Uuid) (methodType : MethodType) : Option MethodStatus :=
  ((store.methods.rows.filter fun method =>
    decide (method.identityId = identityId ∧ method.methodType = methodType)).getLast?).map
      AuthenticationMethod.status

def createChallenge (challenge : AuthenticationChallenge) : Transaction AuthStore Failure Unit := do
  let store ← get
  let challenges ← demand (store.challenges.insert? challenge)
    (.integrity "authentication_challenges")
  put { store with challenges }

def AuthenticationChallenge.Answerable (time : Instant) (challenge : AuthenticationChallenge) :
    Prop :=
  challenge.consumedAt = none ∧ time < challenge.expiresAt ∧
    challenge.attemptCount < challenge.maxAttempts
deriving Decidable

def AuthenticationChallenge.answered (time : Instant) (matched : Bool)
    (challenge : AuthenticationChallenge) : AuthenticationChallenge :=
  { challenge with
    attemptCount := challenge.attemptCount + 1
    consumedAt := if matched = true then some time else none }

def verifyChallenge (challengeId : Uuid) (verifier : Bytes) (time : Instant) :
    Transaction AuthStore Failure Bool := do
  let store ← get
  whenSome ((store.challenges.find challengeId).filter fun challenge =>
      decide (AuthenticationChallenge.Answerable time challenge))
    (fun challenge => do
      let matched := decide (verifier = challenge.verifier)
      let challenges ← demand
        (store.challenges.replace? (AuthenticationChallenge.answered time matched challenge))
        (.integrity "authentication_challenges")
      put { store with challenges }
      pure matched)
    (pure false)

end Ayo.Authentication.Repository
