/- digest: Accounts, credentials, sessions, roles and recovery tokens with their tables. -/

import Ayo.PersistenceKernel.Outbox
import Ayo.RateLimit.Repository

namespace Ayo.Accounts.Models

open Kernel.KeyedTable Core.Values PersistenceKernel.Audit PersistenceKernel.Idempotency
  PersistenceKernel.Models RateLimit.Models

inductive AccountLifecycle where
  | pendingActivation
  | active
  | locked
  | suspended
  | closed
deriving DecidableEq

def AccountLifecycle.transitions : AccountLifecycle → List AccountLifecycle
  | .pendingActivation => [.active, .closed]
  | .active => [.locked, .suspended, .closed]
  | .locked => [.active, .suspended, .closed]
  | .suspended => [.active, .closed]
  | .closed => []

def AccountLifecycle.value : AccountLifecycle → String
  | .pendingActivation => "pending_activation"
  | .active => "active"
  | .locked => "locked"
  | .suspended => "suspended"
  | .closed => "closed"

structure IdentityAccount where
  accountId : Uuid
  state : AccountLifecycle
  updatedAt : Instant
  (version failedAttemptCount : Nat)
  (lastFailedAt failedWindowStartedAt : Option Instant)
  credentialChangeRequired : Bool
  (credentialChangeReason credentialChangeProvenance : Option String)

instance : Row IdentityAccount Uuid := .keyed IdentityAccount.accountId

variable (time : Instant) (window : Int) (account : IdentityAccount)

/-- An attempt starts a new window of failed attempts. -/
def IdentityAccount.WindowResets : Prop :=
  ∀ started ∈ account.failedWindowStartedAt, started + window ≤ time
deriving Decidable

def IdentityAccount.failures : Nat :=
  if account.WindowResets time window then 1 else account.failedAttemptCount + 1

def IdentityAccount.failed (threshold : Nat) (window : Int) (account : IdentityAccount) :
    IdentityAccount :=
  { account with
    failedAttemptCount := account.failures time window
    lastFailedAt := some time
    failedWindowStartedAt :=
      if account.WindowResets time window then some time else account.failedWindowStartedAt
    state :=
      if threshold ≤ account.failures time window ∧ account.state = .active then .locked
      else account.state
    updatedAt := time
    version := account.version + 1 }

def IdentityAccount.resetFailures : IdentityAccount :=
  { account with
    failedAttemptCount := 0, lastFailedAt := none, failedWindowStartedAt := none
    updatedAt := time, version := account.version + 1 }

def IdentityAccount.moved (target : AccountLifecycle) (time : Instant)
    (account : IdentityAccount) : IdentityAccount :=
  { account.resetFailures time with state := target }

def IdentityAccount.changeRequired (reason provenance : String) (time : Instant)
    (account : IdentityAccount) : IdentityAccount :=
  { account with
    credentialChangeRequired := true, credentialChangeReason := some reason
    credentialChangeProvenance := some provenance
    updatedAt := time, version := account.version + 1 }

def IdentityAccount.recovered : IdentityAccount :=
  { account.resetFailures time with
    state := if account.state = .locked then .active else account.state
    credentialChangeRequired := false, credentialChangeReason := none
    credentialChangeProvenance := none }

structure PasswordCredential where
  (credentialId accountId : Uuid)
  credentialVersion : Nat
  (scheme verifier : String)
  createdAt : Instant
  supersededAt : Option Instant
deriving DecidableEq

variable (accountId : Uuid)

def PasswordCredential.ActiveOf (credential : PasswordCredential) : Prop :=
  credential.accountId = accountId ∧ credential.supersededAt = none
deriving Decidable

def PasswordCredential.Rivals (a b : PasswordCredential) : Prop :=
  a.accountId = b.accountId ∧ (a.credentialVersion = b.credentialVersion ∨
    (a.supersededAt = none ∧ b.supersededAt = none))
deriving Decidable

theorem PasswordCredential.Rivals.symm {a b : PasswordCredential} (rivals : a.Rivals b) :
    b.Rivals a :=
  ⟨rivals.1.symm, rivals.2.imp Eq.symm And.symm⟩

instance : Row PasswordCredential Uuid where
  key := PasswordCredential.credentialId
  clash a b := a.credentialId = b.credentialId ∨ a.Rivals b
  clash_symm clash := clash.imp Eq.symm PasswordCredential.Rivals.symm

def PasswordCredential.superseded (credential : PasswordCredential) : PasswordCredential :=
  { credential with supersededAt := some time }

structure AccountSession where
  (sessionId accountId : Uuid)
  clientReference : Option String
  (createdAt lastUsedAt absoluteExpiresAt : Instant)
  inactivitySeconds : Int
  revokedAt : Option Instant
  revocationReason : Option String
  rotatedFromSessionId : Option Uuid
  version : Nat
deriving DecidableEq

instance : Row AccountSession Uuid := .keyed AccountSession.sessionId

variable (session : AccountSession)

def AccountSession.ActiveAt (instant : Instant) : Prop :=
  session.revokedAt = none ∧
    instant < min session.absoluteExpiresAt (session.lastUsedAt + seconds session.inactivitySeconds)
deriving Decidable

def AccountSession.touched : AccountSession :=
  { session with lastUsedAt := time, version := session.version + 1 }

def AccountSession.revoke (reason : String) (session : AccountSession) : AccountSession :=
  { session with
    revokedAt := some time, revocationReason := some reason, version := session.version + 1 }

def AccountSession.StandingOf : Prop :=
  session.accountId = accountId ∧ session.revokedAt = none
deriving Decidable

structure AccountRoleAssignment where
  (assignmentId accountId roleId assignedByAccountId : Uuid)
  assignedAt : Instant
  revokedAt : Option Instant
  revokedByAccountId : Option Uuid
  revocationReason : Option String
  version : Nat

/-- The rule of `ix_account_role_assignments_active`. -/
def AccountRoleAssignment.Rivals (a b : AccountRoleAssignment) : Prop :=
  a.accountId = b.accountId ∧ a.roleId = b.roleId ∧ a.revokedAt = none ∧ b.revokedAt = none
deriving Decidable

theorem AccountRoleAssignment.Rivals.symm {a b : AccountRoleAssignment} (rivals : a.Rivals b) :
    b.Rivals a :=
  ⟨rivals.1.symm, rivals.2.1.symm, rivals.2.2.2, rivals.2.2.1⟩

instance : Row AccountRoleAssignment Uuid where
  key := AccountRoleAssignment.assignmentId
  clash a b := a.assignmentId = b.assignmentId ∨ a.Rivals b
  clash_symm clash := clash.imp Eq.symm AccountRoleAssignment.Rivals.symm

def AccountRoleAssignment.revoked (actorId : Uuid) (time : Instant) (reason : String)
    (assignment : AccountRoleAssignment) : AccountRoleAssignment :=
  { assignment with
    revokedAt := some time, revokedByAccountId := some actorId, revocationReason := some reason
    version := assignment.version + 1 }

inductive RecoveryState where
  | active
  | consumed
  | revoked
  | superseded
deriving DecidableEq

structure RecoveryTokenRecord where
  (tokenId accountId : Uuid)
  tokenVersion : Nat
  tokenHash : Bytes
  state : RecoveryState
  (createdAt expiresAt : Instant)
  (consumedAt revokedAt supersededAt : Option Instant)
  version : Nat

def RecoveryTokenRecord.Rivals (a b : RecoveryTokenRecord) : Prop :=
  a.tokenHash = b.tokenHash ∨ (a.accountId = b.accountId ∧ (a.tokenVersion = b.tokenVersion ∨
    (a.state = .active ∧ b.state = .active)))
deriving Decidable

theorem RecoveryTokenRecord.Rivals.symm {a b : RecoveryTokenRecord} (rivals : a.Rivals b) :
    b.Rivals a :=
  rivals.imp Eq.symm fun both => ⟨both.1.symm, both.2.imp Eq.symm And.symm⟩

instance : Row RecoveryTokenRecord Uuid where
  key := RecoveryTokenRecord.tokenId
  clash a b := a.tokenId = b.tokenId ∨ a.Rivals b
  clash_symm clash := clash.imp Eq.symm RecoveryTokenRecord.Rivals.symm

def RecoveryTokenRecord.ActiveOf (record : RecoveryTokenRecord) : Prop :=
  record.accountId = accountId ∧ record.state = .active
deriving Decidable

/-- A recovery token that is active and bears no mark of another state. -/
structure RecoveryTokenRecord.Unspent (record : RecoveryTokenRecord) : Prop where
  active : record.state = .active
  consumed : record.consumedAt = none
  revoked : record.revokedAt = none
  superseded : record.supersededAt = none

variable (record : RecoveryTokenRecord)

def RecoveryTokenRecord.superseded : RecoveryTokenRecord :=
  { record with state := .superseded, supersededAt := some time, version := record.version + 1 }

def RecoveryTokenRecord.consume : RecoveryTokenRecord :=
  { record with state := .consumed, consumedAt := some time, version := record.version + 1 }

def RecoveryTokenRecord.revoke : RecoveryTokenRecord :=
  { record with state := .revoked, revokedAt := some time, version := record.version + 1 }

structure OriginWindow where
  originHash : Bytes
  windowStartedAt : Instant
  attemptCount : Nat
  throttledAt : Option Instant
  version : Nat

instance : Row OriginWindow Bytes := .keyed OriginWindow.originHash

def OriginWindow.Expired (row : OriginWindow) : Prop :=
  row.windowStartedAt + window ≤ time
deriving Decidable

def OriginWindow.count (row : OriginWindow) : Nat :=
  if row.Expired time window then 1 else row.attemptCount + 1

def OriginWindow.counted (limit : Nat) (row : OriginWindow) : OriginWindow :=
  { row with
    windowStartedAt := if row.Expired time window then time else row.windowStartedAt
    attemptCount := row.count time window
    throttledAt :=
      if row.Expired time window ∨ row.count time window ≤ limit then none else some time
    version := row.version + 1 }

structure AccessStore where
  accounts : Table IdentityAccount
  credentials : Table PasswordCredential
  sessions : Table AccountSession
  assignments : Table AccountRoleAssignment
  recoveryTokens : Table RecoveryTokenRecord
  origins : Table OriginWindow
  /-- The assignment of the one row of `identity_security_bootstrap`. -/
  bootstrap : Option Uuid

def AccessStore.empty : AccessStore :=
  ⟨.empty, .empty, .empty, .empty, .empty, .empty, none⟩

inductive ActorReference where
  | account (accountId : Uuid)
  | session (sessionId : Uuid)
  | recoveryBoundary
  | trustedBootstrap
deriving DecidableEq

inductive Reference where
  | denied
  | session (sessionId : Uuid)
  | credential (credentialId : Uuid)
  | sessions (accountId : Uuid) (count : Nat)
  | version (accountId : Uuid) (version : Nat)
  | assignment (assignmentId : Uuid)
  | recovery (tokenId : Uuid)
  | recoveryAccepted
  | recoveryRejected
deriving DecidableEq

abbrev CommandRecord := IdempotencyRecord ActorReference Reference

structure TraceStore where
  records : Records ActorReference Reference
  events : EventStore
  audits : AuditLog

def TraceStore.empty : TraceStore := ⟨.empty, .empty, .empty⟩

structure AccountStore where
  access : AccessStore
  traces : TraceStore

def AccountStore.empty : AccountStore := ⟨.empty, .empty⟩

structure TraceContext where
  (correlationId requestId : Uuid)
  (commandId causationId : Option Uuid)

/-- What one command draws from `uuid4` and `secrets`, and the salt of its password hash. -/
structure Draws where
  (credentialId sessionId assignmentId tokenId : Uuid)
  token : String
  salt : Nat
  (eventId auditId : Nat → Uuid)

structure Call where
  idempotencyKey : String
  trace : TraceContext
  instant : Instant
  draws : Draws

def minutes (count : Int) : Int := seconds (count * 60)

structure AccessBounds (failedAttemptLimit originAttemptLimit : Nat)
    (inactivityTimeout absoluteLifetime : Int) : Prop where
  failed : 2 ≤ failedAttemptLimit ∧ failedAttemptLimit ≤ 20
  origin : 5 ≤ originAttemptLimit ∧ originAttemptLimit ≤ 100
  inactivity : minutes 5 ≤ inactivityTimeout
  shorter : inactivityTimeout < absoluteLifetime
  lifetime : absoluteLifetime ≤ minutes (30 * 24 * 60)

/-- The settings of an account access service, its password hasher and digests, and the roles that
are provisioned. -/
structure AccessConfig where
  failedAttemptLimit : Nat
  failedAttemptWindow : Int
  originAttemptLimit : Nat
  (originAttemptWindow absoluteLifetime inactivityTimeout : Int)
  bounds : AccessBounds failedAttemptLimit originAttemptLimit inactivityTimeout absoluteLifetime
  /-- The keyed digest, when a pepper is configured. -/
  securityHash : Option (String → Bytes)
  sha256 : String → Bytes
  (bootstrapEnabled productionActivationEnabled : Bool)
  bootstrapSecretVerifier : Option Bytes
  hashPassword : Nat → String → String
  verifyPassword : String → String → Bool
  needsUpgrade : String → Bool
  dummyVerifier : String
  requestHash : String → String
  /-- The first 32 hexadecimal digits of the digest of a key. -/
  keyDigest : String → String
  roleId : String → Option Uuid
  grants : Uuid → String → Bool

structure AuthenticationResult where
  authenticated : Bool
  sessionId : Option Uuid
  reason : String

def AuthenticationResult.failed : AuthenticationResult := ⟨false, none, "authentication_failed"⟩

def AuthenticationResult.succeeded (sessionId : Uuid) : AuthenticationResult :=
  ⟨true, some sessionId, "authenticated"⟩

structure RecoveryInitiationResult where
  token : Option String
  tokenId : Option Uuid
  expiresAt : Option Instant

def RecoveryInitiationResult.accepted : RecoveryInitiationResult := ⟨none, none, none⟩

inductive OwnershipRelationship where
  | owner
  | delegate
  | none
deriving DecidableEq

structure OwnershipDecision where
  allowed : Bool
  reason : String

end Ayo.Accounts.Models

/-! The repository of accounts, their credentials, sessions, roles and recovery tokens. -/

namespace Ayo.Accounts.Repository

open Kernel.UnitOfWork Kernel.Updates Core.Values RateLimit.Models Models

def accessConflict (text : String) : Failure := .conflict text

def changed (text : String) : Failure := .conflict text

section

variable (store : AccessStore) (accountId : Uuid)

def getAccount : Option IdentityAccount := store.accounts.find accountId

def activeCredential : Option PasswordCredential :=
  store.credentials.rows.find? fun row => decide (row.ActiveOf accountId)

def getSession (sessionId : Uuid) : Option AccountSession := store.sessions.find sessionId

def hasPermission (config : AccessConfig) (accountId : Uuid) (code : String) : Bool :=
  store.assignments.rows.any fun row =>
    decide (row.accountId = accountId ∧ row.revokedAt = none) && config.grants row.roleId code

def activeAssignment (accountId roleId : Uuid) : Option AccountRoleAssignment :=
  store.assignments.rows.find? fun row =>
    decide (row.accountId = accountId ∧ row.roleId = roleId ∧ row.revokedAt = none)

def getAssignment (assignmentId : Uuid) : Option AccountRoleAssignment :=
  store.assignments.find assignmentId

def administratorCount (config : AccessConfig) : Nat :=
  store.assignments.rows.countP fun row =>
    decide (config.roleId "platform_administrator" = some row.roleId ∧ row.revokedAt = none)

def recoveryVersions : List Nat :=
  (store.recoveryTokens.rows.filter fun row => decide (row.accountId = accountId)).map
    RecoveryTokenRecord.tokenVersion

def nextRecoveryVersion : Nat :=
  (recoveryVersions store accountId).foldr max 0 + 1

def recoveryByHash (tokenHash : Bytes) : Option RecoveryTokenRecord :=
  store.recoveryTokens.rows.find? fun row => decide (row.tokenHash = tokenHash)

def recoveryById (tokenId : Uuid) : Option RecoveryTokenRecord := store.recoveryTokens.find tokenId

end

def replaceCredential (credential : PasswordCredential) (time : Instant) :
    Transaction AccessStore Failure Unit := do
  let store ← get
  let superseded ← demand (store.credentials.rewrite?
      (updateWhere (PasswordCredential.ActiveOf credential.accountId)
        (PasswordCredential.superseded time)))
    (.integrity "account_password_credentials")
  let credentials ← demand (superseded.insert? credential)
    (accessConflict "Credential version already exists")
  put { store with credentials }

variable (account : IdentityAccount)

def updateAccount (change : IdentityAccount → IdentityAccount) (failure : Failure) :
    Transaction AccessStore Failure IdentityAccount := do
  let store ← get
  let current ← demand
    ((store.accounts.find account.accountId).filter fun row => decide (row.version = account.version))
    failure
  let accounts ← demand (store.accounts.replace? (change current)) (.integrity "identity_accounts")
  put { store with accounts }
  pure (change current)

variable (time : Instant)

def recordFailedAttempt (threshold : Nat) (window : Int) :
    Transaction AccessStore Failure IdentityAccount :=
  updateAccount account (.failed time threshold window)
    (changed "Account changed during authentication")

def resetFailedAttempts : Transaction AccessStore Failure IdentityAccount :=
  if account.failedAttemptCount = 0 then pure account
  else updateAccount account (.resetFailures time) (.value "No row was found when one was required")

def invalidTransition (state target : AccountLifecycle) : Failure :=
  .value ("Invalid account transition: " ++ state.value ++ "->" ++ target.value)

def transition (target : AccountLifecycle) (time : Instant) :
    Transaction AccessStore Failure IdentityAccount := do
  require (target ∈ account.state.transitions) (invalidTransition account.state target)
  updateAccount account (.moved target time) (changed "Account changed")

def setCredentialChangeRequired (reason provenance : String) (time : Instant) :
    Transaction AccessStore Failure IdentityAccount :=
  updateAccount account (.changeRequired reason provenance time)
    (changed "Account security state changed")

def clearRecoverySecurityState : Transaction AccessStore Failure IdentityAccount :=
  updateAccount account (.recovered time) (changed "Account security state changed")

variable (accountId : Uuid)

def createAccount (time : Instant) : Transaction AccessStore Failure Unit := do
  let store ← get
  let accounts ← demand (store.accounts.insert?
      { accountId, state := .pendingActivation, updatedAt := time, version := 1
        failedAttemptCount := 0, lastFailedAt := none, failedWindowStartedAt := none
        credentialChangeRequired := false, credentialChangeReason := none
        credentialChangeProvenance := none })
    (.integrity "identity_accounts")
  put { store with accounts }

def compatibilityTransition (target : AccountLifecycle) (time : Instant) :
    Transaction AccessStore Failure IdentityAccount := do
  let store ← get
  let account ← demand (getAccount store accountId) (.value "Canonical account does not exist.")
  require (target ∈ account.state.transitions)
    (invalidTransition account.state target)
  updateAccount account
    (fun current => { current with state := target, updatedAt := time,
                                   version := current.version + 1 })
    (changed "Canonical account changed.")

variable (session : AccountSession) (time : Instant)

def createSession : Transaction AccessStore Failure Unit := do
  let store ← get
  let sessions ← demand (store.sessions.insert? session) (accessConflict "Session already exists")
  put { store with sessions }

def updateSession (change : AccountSession → AccountSession) :
    Transaction AccessStore Failure AccountSession := do
  let store ← get
  let current ← demand ((store.sessions.find session.sessionId).filter fun row =>
      decide (row.version = session.version ∧ row.revokedAt = none))
    (changed "Session changed")
  let sessions ← demand (store.sessions.replace? (change current)) (.integrity "account_sessions")
  put { store with sessions }
  pure (change current)

def touchSession : Transaction AccessStore Failure AccountSession :=
  updateSession session (.touched time)

def revokeSession (reason : String) : Transaction AccessStore Failure AccountSession :=
  if session.revokedAt = none then updateSession session (.revoke time reason)
  else pure session

def revokeAllSessions (time : Instant) (reason : String) :
    Transaction AccessStore Failure (List Uuid) := do
  let store ← get
  let sessions ← demand
    (store.sessions.rewrite? (updateWhere (AccountSession.StandingOf accountId)
      (.revoke time reason))) (.integrity "account_sessions")
  put { store with sessions }
  pure ((store.sessions.rows.filter fun row => decide (row.StandingOf accountId)).map
    AccountSession.sessionId)

variable (assignment : AccountRoleAssignment)

def assignRole : Transaction AccessStore Failure AccountRoleAssignment := do
  let store ← get
  require ((store.accounts.find assignment.accountId).isSome = true)
    (accessConflict "Active role assignment already exists")
  let assignments ← demand (store.assignments.insert? assignment)
    (accessConflict "Active role assignment already exists")
  put { store with assignments }
  pure assignment

def revokeAssignment (actorId : Uuid) (time : Instant) (reason : String) :
    Transaction AccessStore Failure AccountRoleAssignment := do
  require (reason.length ≤ 63) (.value "value too long for type character varying(63)")
  let store ← get
  let current ← demand ((store.assignments.find assignment.assignmentId).filter fun row =>
      decide (row.version = assignment.version ∧ row.revokedAt = none))
    (changed "Role assignment changed")
  let assignments ← demand (store.assignments.replace? (current.revoked actorId time reason))
    (.integrity "account_role_assignments")
  put { store with assignments }
  pure (current.revoked actorId time reason)

def completeFirstBootstrap (assignmentId : Uuid) : Transaction AccessStore Failure Unit := do
  let store ← get
  require (store.bootstrap = none) (accessConflict "Platform bootstrap is already complete")
  put { store with bootstrap := some assignmentId }

def createRecoveryToken (record : RecoveryTokenRecord) (supersedeAt : Instant) :
    Transaction AccessStore Failure Unit := do
  let store ← get
  let superseded ← demand (store.recoveryTokens.rewrite?
      (updateWhere (RecoveryTokenRecord.ActiveOf record.accountId)
        (RecoveryTokenRecord.superseded supersedeAt)))
    (.integrity "account_recovery_tokens")
  let recoveryTokens ← demand (superseded.insert? record)
    (accessConflict "Recovery token conflicts")
  put { store with recoveryTokens }

def transitionRecovery (record : RecoveryTokenRecord)
    (change : RecoveryTokenRecord → RecoveryTokenRecord) :
    Transaction AccessStore Failure RecoveryTokenRecord := do
  let store ← get
  let current ← demand ((store.recoveryTokens.find record.tokenId).filter fun row =>
      decide (row.version = record.version ∧ row.state = .active))
    (changed "Recovery token changed")
  let recoveryTokens ← demand (store.recoveryTokens.replace? (change current))
    (.integrity "account_recovery_tokens")
  put { store with recoveryTokens }
  pure (change current)

def consumeOriginAttempt (originHash : Bytes) (time : Instant) (window : Int) (limit : Nat) :
    Transaction AccessStore Failure Bool := do
  let store ← get
  whenSome (store.origins.find originHash) (fun row => do
      let origins ← demand (store.origins.replace? (row.counted time window limit))
        (.integrity "authentication_origin_windows")
      put { store with origins }
      pure (decide (row.count time window ≤ limit)))
    (do
      let origins ← demand (store.origins.insert?
          { originHash, windowStartedAt := time, attemptCount := 1, throttledAt := none
            version := 1 })
        (changed "Origin window changed")
      put { store with origins }
      pure true)

end Ayo.Accounts.Repository
