/- digest: The account access service, one unit of work for each command. -/

import Ayo.Accounts.Repository

namespace Ayo.Accounts.Service

open Kernel.UnitOfWork Core.Values PersistenceKernel.Audit PersistenceKernel.Idempotency
  RateLimit.Models Models Repository

def onAccess {α : Type} (body : Transaction AccessStore Failure α) :
    Transaction AccountStore Failure α :=
  within AccountStore.access (fun access store => { store with access }) body

def onTraces {α : Type} (body : Transaction TraceStore Failure α) :
    Transaction AccountStore Failure α :=
  within AccountStore.traces (fun traces store => { store with traces }) body

def query {α : Type} (select : AccessStore → α) : Transaction AccountStore Failure α := do
  let store ← get
  pure (select store.access)

def permissionError (text : String) : Failure := .conflict text

def authorizationDenied : Failure := permissionError "Authorization denied"

def validatePassword (password : String) : Transaction AccountStore Failure Unit :=
  require (12 ≤ password.length ∧ password.length ≤ 128)
    (.value "Password must contain 12 to 128 characters")

/-- `[a-z][a-z0-9_.-]{1,62}`. -/
def isSafeReason : String → Bool := isPattern Char.isLower isCodeChar 1 62

def safeReason (reason : String) : Transaction AccountStore Failure Unit :=
  require (isSafeReason reason = true) (.value "Reason must be a safe category")

variable (config : AccessConfig)

def hash (salt : Nat) (password : String) : Transaction AccountStore Failure String := do
  require (12 ≤ password.length ∧ password.length ≤ 1024)
    (.value "Password length is outside the accepted range")
  pure (config.hashPassword salt password)

def scheme : String := "argon2id-v19"

section

variable (call : Call)

def reserveCommand (scope : String) (actor : ActorReference) (material : String) :
    Transaction AccountStore Failure CommandRecord := do
  let commandId ← demand call.trace.commandId (.value "Mutation requires command identifier")
  require (8 ≤ call.idempotencyKey.length ∧ call.idempotencyKey.length ≤ 128)
    (.field "idempotency_key")
  onTraces (within TraceStore.records (fun records traces => { traces with records }) (reserve
      { scope, actorReference := actor, idempotencyKey := call.idempotencyKey
        requestHash := config.requestHash material, commandId, createdAt := call.instant
        responseReference := none, completedAt := none }))

def completeCommand (reservation : CommandRecord) (response : Reference) :
    Transaction AccountStore Failure Unit :=
  onTraces (within TraceStore.records (fun records traces => { traces with records })
    (complete reservation response call.instant))

def audit (index : Nat) (action : String) (actorId : Option Uuid) (resourceId : String)
    (outcome : AuditOutcome) (reason : Option String) (key : String) :
    Transaction AccountStore Failure Unit := do
  require (8 ≤ key.length ∧ key.length ≤ 128) (.field "idempotency_key")
  let _ ← onTraces (within TraceStore.audits (fun audits traces => { traces with audits })
    (PersistenceKernel.Audit.append
      { eventId := call.draws.auditId index
        occurredAt := call.instant
        actorType := if actorId = none then .system else .service
        actorId := actorId.map toString
        action
        resourceType := "identity_account"
        resourceId := some resourceId
        outcome
        reason
        correlationId := call.trace.correlationId
        causationId := call.trace.causationId
        requestId := some call.trace.requestId
        sourceModule := "identity_access"
        safeMetadata := [("category", .text "identity"), ("operation", .text action)]
        idempotencyKey := some key }))
  pure ()

def appendEvent (index : Nat) (eventType : String) (aggregateId : Uuid) (key : String) :
    Transaction AccountStore Failure Unit := do
  let _ ← onTraces (within TraceStore.events (fun events traces => { traces with events })
    (PersistenceKernel.Outbox.append
      { eventId := call.draws.eventId index
        eventType
        aggregateType := "identity_account"
        aggregateId := toString aggregateId
        sourceModule := "identity_access"
        occurredAt := call.instant
        idempotencyKey := some key }))
  pure ()

/-- `_record`: a domain event and its audit, under keys that are derived from the given one. -/
def record (index : Nat) (eventType : String) (aggregateId : Uuid) (action : String)
    (actorId : Option Uuid) (key : String) : Transaction AccountStore Failure Unit := do
  appendEvent call index eventType aggregateId ("event-" ++ config.keyDigest key)
  audit call index action actorId (toString aggregateId) .success none
    ("audit-" ++ config.keyDigest key)

end

def nextCredential (draws : Draws) (accountId : Uuid) (current : Option PasswordCredential)
    (verifier : String) (time : Instant) : PasswordCredential where
  credentialId := draws.credentialId
  accountId
  credentialVersion := (current.map fun credential => credential.credentialVersion + 1).getD 1
  scheme
  verifier
  createdAt := time
  supersededAt := none

def replayed {α : Type} (reservation : CommandRecord) (answer : Option α) : Option α :=
  reservation.completedAt.bind fun _ => answer

section

variable (call : Call)

def setPassword (accountId : Uuid) (password : String) (actorAccountId : Option Uuid) :
    Transaction AccountStore Failure PasswordCredential := do
  validatePassword password
  let reservation ← reserveCommand config call "identity.password.set"
    (.account (actorAccountId.getD accountId)) (toString accountId ++ ":password-replacement")
  let existing ← query (fun store => activeCredential store accountId)
  whenSome (replayed reservation existing) pure do
    let account ← query (fun store => getAccount store accountId)
    let _ ← demand (account.filter fun account => decide (account.state ≠ .closed))
      (.value "Account is unavailable")
    let verifier ← hash config call.draws.salt password
    let credential := nextCredential call.draws accountId existing verifier call.instant
    onAccess (replaceCredential credential call.instant)
    record config call 0 "identity.credential_changed" accountId "identity.credential.changed"
      actorAccountId call.idempotencyKey
    completeCommand call reservation (.credential credential.credentialId)
    pure credential

def completeForcedCredentialChange (accountId : Uuid) (currentPassword newPassword : String) :
    Transaction AccountStore Failure PasswordCredential := do
  validatePassword newPassword
  let reservation ← reserveCommand config call "identity.credential.complete_forced_change"
    (.account accountId) (toString accountId ++ ":forced_change")
  let existing ← query (fun store => activeCredential store accountId)
  whenSome (replayed reservation existing) pure do
    let account ← query (fun store => getAccount store accountId)
    let account ← demand (account.filter fun account => account.credentialChangeRequired)
      (permissionError "Credential change denied")
    let current ← demand
      (existing.filter fun current => config.verifyPassword current.verifier currentPassword)
      (permissionError "Credential change denied")
    let verifier ← hash config call.draws.salt newPassword
    let replacement := nextCredential call.draws accountId (some current) verifier call.instant
    onAccess (replaceCredential replacement call.instant)
    let _ ← onAccess (clearRecoverySecurityState account call.instant)
    let _ ← onAccess (revokeAllSessions accountId call.instant "credential_changed")
    record config call 0 "identity.credential_changed" accountId
      "identity.credential.forced_change_completed" (some accountId) call.idempotencyKey
    completeCommand call reservation (.credential replacement.credentialId)
    pure replacement

end

section

variable (call : Call) (reservation : CommandRecord)

def replayedAuthentication : Option AuthenticationResult :=
  reservation.completedAt.map fun _ =>
    match reservation.responseReference with
    | some (.session sessionId) => .succeeded sessionId
    | _ => .failed

def originAllows (clientOrigin : Option String) : Transaction AccountStore Failure Bool :=
  whenSome clientOrigin (fun origin => do
      let securityHash ← demand config.securityHash
        (.value "Identity security pepper is not configured")
      onAccess (consumeOriginAttempt (securityHash origin) call.instant config.originAttemptWindow
        config.originAttemptLimit))
    (pure true)

def admitted (store : AccessStore) (accountId : Uuid) (password : String) :
    Option (IdentityAccount × PasswordCredential) :=
  let account := getAccount store accountId
  let credential := account.bind fun _ => activeCredential store accountId
  let verifier := (credential.map PasswordCredential.verifier).getD config.dummyVerifier
  let valid := config.verifyPassword verifier password
  match account, credential with
  | some account, some credential =>
    if valid = true ∧ account.state = .active then some (account, credential) else none
  | _, _ => none

variable (accountId : Uuid)

def denyAuthentication : Transaction AccountStore Failure AuthenticationResult := do
  let account ← query (fun store => getAccount store accountId)
  whenSome (account.filter fun account => decide (account.state = .active)) (fun account => do
      let updated ← onAccess (recordFailedAttempt account call.instant config.failedAttemptLimit
        config.failedAttemptWindow)
      if updated.state = .locked then
        record config call 0 "identity.account_locked" accountId "identity.account.locked" none
          ("lock-" ++ call.idempotencyKey)
      else
        pure ())
    (pure ())
  audit call 1 "identity.authentication.denied" none (toString accountId) .denied
    (some "invalid_credentials_or_state") ("deny-" ++ call.idempotencyKey)
  completeCommand call reservation .denied
  pure .failed

def upgradeCredential (credential : PasswordCredential) (password : String) :
    Transaction AccountStore Failure Unit :=
  if config.needsUpgrade credential.verifier = true then do
    let verifier ← hash config call.draws.salt password
    onAccess (replaceCredential
      (nextCredential call.draws accountId (some credential) verifier call.instant) call.instant)
    record config call 0 "identity.credential_changed" accountId "identity.credential.upgraded"
      (some accountId) ("upgrade-" ++ call.idempotencyKey)
  else
    pure ()

def newSession (clientReference : Option (BoundedText 1 128)) : AccountSession where
  sessionId := call.draws.sessionId
  accountId
  clientReference := clientReference.map Subtype.val
  createdAt := call.instant
  lastUsedAt := call.instant
  absoluteExpiresAt := call.instant + config.absoluteLifetime
  inactivitySeconds := config.inactivityTimeout / 1000000
  revokedAt := none
  revocationReason := none
  rotatedFromSessionId := none
  version := 1

def admitAuthentication (account : IdentityAccount) (credential : PasswordCredential)
    (password : String) (clientReference : Option (BoundedText 1 128)) :
    Transaction AccountStore Failure AuthenticationResult := do
  let accountId := account.accountId
  let _ ← onAccess (resetFailedAttempts account call.instant)
  upgradeCredential config call accountId credential password
  let session := newSession config call accountId clientReference
  onAccess (createSession session)
  record config call 1 "identity.session_created" session.sessionId "identity.session.created"
    (some accountId) ("session-" ++ call.idempotencyKey)
  completeCommand call reservation (.session session.sessionId)
  pure (.succeeded session.sessionId)

def throttleAuthentication : Transaction AccountStore Failure AuthenticationResult := do
  audit call 0 "identity.authentication.throttled" none "coarse_origin" .denied
    (some "bounded_origin_limit") ("throttle-" ++ call.idempotencyKey)
  completeCommand call reservation .denied
  pure .failed

def authenticate (password : String) (clientReference : Option (BoundedText 1 128))
    (clientOrigin : Option String) : Transaction AccountStore Failure AuthenticationResult := do
  let reservation ← reserveCommand config call "identity.authenticate" (.account accountId)
    (toString accountId)
  whenSome (replayedAuthentication reservation) pure do
    let allowed ← originAllows config call clientOrigin
    if allowed = true then do
      let accepted ← query (fun store => admitted config store accountId password)
      whenSome accepted
        (fun accepted => admitAuthentication config call reservation accepted.1 accepted.2 password
          clientReference)
        (denyAuthentication config call reservation accountId)
    else
      throttleAuthentication call reservation

end

section

def acceptedSession (store : AccessStore) (sessionId : Uuid) (instant : Instant) :
    Option AccountSession :=
  (getSession store sessionId).filter fun session =>
    decide (session.ActiveAt instant) &&
      (getAccount store session.accountId).any fun account => decide (account.state = .active)

def validateSession (sessionId : Uuid) (instant : Instant) :
    Transaction AccountStore Failure (Option AccountSession) := do
  let accepted ← query (fun store => acceptedSession store sessionId instant)
  whenSome accepted (fun session => do
      let touched ← onAccess (touchSession session instant)
      pure (some touched))
    (pure none)

variable (call : Call)

def Reference.sessionId? : Reference → Option Uuid
  | .session sessionId => some sessionId
  | _ => none

def rotatedSession (current : AccountSession) : AccountSession where
  sessionId := call.draws.sessionId
  accountId := current.accountId
  clientReference := current.clientReference
  createdAt := call.instant
  lastUsedAt := call.instant
  absoluteExpiresAt := call.instant + config.absoluteLifetime
  inactivitySeconds := current.inactivitySeconds
  revokedAt := none
  revocationReason := none
  rotatedFromSessionId := some current.sessionId
  version := 1

def rotateSession (sessionId : Uuid) : Transaction AccountStore Failure AccountSession := do
  let reservation ← reserveCommand config call "identity.session.rotate" (.session sessionId)
    (toString sessionId)
  whenSome reservation.completedAt (fun _ => do
      let replacementId ← demand (reservation.responseReference.bind Reference.sessionId?)
        (.value "badly formed hexadecimal UUID string")
      let replacement ← query (fun store => getSession store replacementId)
      demand replacement (.value "Idempotent session replacement is missing"))
    (do
      let session ← query (fun store => getSession store sessionId)
      let current ← demand (session.filter fun session => decide (session.ActiveAt call.instant))
        (permissionError "Session is unavailable")
      let _ ← onAccess (Repository.revokeSession current call.instant "rotated")
      let replacement := rotatedSession config call current
      onAccess (createSession replacement)
      record config call 0 "identity.session_revoked" current.sessionId "identity.session.revoked"
        (some current.accountId) ("revoke-" ++ call.idempotencyKey)
      record config call 1 "identity.session_created" replacement.sessionId
        "identity.session.rotated" (some current.accountId) ("create-" ++ call.idempotencyKey)
      completeCommand call reservation (.session replacement.sessionId)
      pure replacement)

def revokeSession (actorAccountId sessionId : Uuid) (reason : String) :
    Transaction AccountStore Failure AccountSession := do
  safeReason reason
  let reservation ← reserveCommand config call "identity.session.revoke" (.account actorAccountId)
    (toString sessionId ++ ":" ++ reason)
  let session ← query (fun store => getSession store sessionId)
  let session ← demand session (.value "Session does not exist")
  let permitted ← query (fun store =>
    hasPermission store config actorAccountId "identity.session.revoke_any")
  require (actorAccountId = session.accountId ∨ permitted = true) authorizationDenied
  let revoked ← onAccess (Repository.revokeSession session call.instant reason)
  whenSome reservation.completedAt (fun _ => pure revoked)
    (do
      record config call 0 "identity.session_revoked" sessionId "identity.session.revoked"
        (some actorAccountId) call.idempotencyKey
      completeCommand call reservation (.session sessionId)
      pure revoked)

def recordRevoked (actorAccountId : Uuid) : Nat → List Uuid → Transaction AccountStore Failure Unit
  | _, [] => pure ()
  | index, sessionId :: rest => do
    record config call index "identity.session_revoked" sessionId "identity.session.revoked"
      (some actorAccountId) (call.idempotencyKey ++ "-" ++ toString index)
    recordRevoked actorAccountId (index + 1) rest

def revokeAllSessions (actorAccountId accountId : Uuid) (reason : String) :
    Transaction AccountStore Failure (List Uuid) := do
  safeReason reason
  let permitted ← query (fun store =>
    hasPermission store config actorAccountId "identity.session.revoke_any")
  require (actorAccountId = accountId ∨ permitted = true) authorizationDenied
  let reservation ← reserveCommand config call "identity.session.revoke_all"
    (.account actorAccountId) (toString accountId ++ ":" ++ reason)
  whenSome reservation.completedAt (fun _ => pure [])
    (do
      let revoked ← onAccess (Repository.revokeAllSessions accountId call.instant reason)
      recordRevoked config call actorAccountId 0 revoked
      completeCommand call reservation (.sessions accountId revoked.length)
      pure revoked)

end

section

variable (call : Call)

def transitionPermission : AccountLifecycle → String
  | .active => "identity.account.unlock"
  | .suspended => "identity.account.suspend"
  | .closed => "identity.account.close"
  | .pendingActivation => "identity.account.activate"
  | .locked => "identity.account.activate"

def transitionEvent (state : AccountLifecycle) : AccountLifecycle → Option (String × String)
  | .active =>
    if state = .locked then some ("identity.account_unlocked", "identity.account.unlocked")
    else some ("identity.account_activated", "identity.account.activated")
  | .suspended => some ("identity.account_suspended", "identity.account.suspended")
  | .closed => some ("identity.account_closed", "identity.account.closed")
  | .pendingActivation => none
  | .locked => none

def transitionAccount (actorAccountId accountId : Uuid) (target : AccountLifecycle)
    (expectedVersion : Nat) (reason : String) :
    Transaction AccountStore Failure IdentityAccount := do
  let permitted ← query (fun store =>
    hasPermission store config actorAccountId (transitionPermission target))
  require (permitted = true) authorizationDenied
  let reservation ← reserveCommand config call "identity.account.transition"
    (.account actorAccountId)
    (toString accountId ++ ":" ++ target.value ++ ":" ++ toString expectedVersion)
  let account ← query (fun store => getAccount store accountId)
  let account ← demand account (.value "Account does not exist")
  whenSome reservation.completedAt (fun _ => pure account)
    (do
      require (account.version = expectedVersion) (changed "Account changed")
      let updated ← onAccess (transition account target call.instant)
      let event ← demand (transitionEvent account.state target) (.value "KeyError")
      -- The payload of the event takes no longer reason.
      require (reason.length ≤ 512) (.field "payload")
      record config call 0 event.1 accountId event.2 (some actorAccountId) call.idempotencyKey
      completeCommand call reservation (.version accountId updated.version)
      pure updated)

def requireCredentialChange (actorAccountId accountId : Uuid) (expectedVersion : Nat)
    (reason provenance : String) : Transaction AccountStore Failure IdentityAccount := do
  safeReason reason
  safeReason provenance
  let permitted ← query (fun store =>
    hasPermission store config actorAccountId "identity.account.force_credential_change")
  require (permitted = true) authorizationDenied
  let reservation ← reserveCommand config call "identity.credential.force_change"
    (.account actorAccountId)
    (toString accountId ++ ":" ++ toString expectedVersion ++ ":" ++ reason ++ ":" ++ provenance)
  let account ← query (fun store => getAccount store accountId)
  let account ← demand account (.value "Account does not exist")
  whenSome reservation.completedAt (fun _ => pure account)
    (do
      require (account.version = expectedVersion) (changed "Account changed")
      let updated ← onAccess (setCredentialChangeRequired account reason provenance call.instant)
      let _ ← onAccess
        (Repository.revokeAllSessions accountId call.instant "credential_change_required")
      record config call 0 "identity.credential_change_required" accountId
        "identity.credential.change_required" (some actorAccountId) call.idempotencyKey
      completeCommand call reservation (.version accountId updated.version)
      pure updated)

end

section

variable (call : Call)

def platformRoles : List String :=
  ["authenticated_user", "platform_support", "platform_administrator"]

def newAssignment (accountId roleId assignedBy : Uuid) : AccountRoleAssignment where
  assignmentId := call.draws.assignmentId
  accountId
  roleId
  assignedByAccountId := assignedBy
  assignedAt := call.instant
  revokedAt := none
  revokedByAccountId := none
  revocationReason := none
  version := 1

def assignRole (actorAccountId accountId : Uuid) (roleCode : String) :
    Transaction AccountStore Failure AccountRoleAssignment := do
  require (roleCode ∈ platformRoles) (.value "Role is outside the approved platform role set")
  require (¬ (actorAccountId = accountId ∧ roleCode = "platform_administrator"))
    (permissionError "Administrative self-escalation is prohibited")
  let permitted ← query (fun store =>
    hasPermission store config actorAccountId "identity.role.assign")
  require (permitted = true) authorizationDenied
  let roleId ← demand (config.roleId roleCode) (.value "Approved role is not provisioned")
  let reservation ← reserveCommand config call "identity.role.assign" (.account actorAccountId)
    (toString accountId ++ ":" ++ roleCode)
  let existing ← query (fun store => activeAssignment store accountId roleId)
  whenSome existing (fun existing => do
      completeCommand call reservation (.assignment existing.assignmentId)
      pure existing)
    (do
      let assignment ← onAccess
        (Repository.assignRole (newAssignment call accountId roleId actorAccountId))
      record config call 0 "identity.role_assigned" accountId "identity.role.assigned"
        (some actorAccountId) call.idempotencyKey
      completeCommand call reservation (.assignment assignment.assignmentId)
      pure assignment)

def Reference.assignmentId? : Reference → Option Uuid
  | .assignment assignmentId => some assignmentId
  | _ => none

def removeRole (actorAccountId accountId : Uuid) (roleCode reason : String) :
    Transaction AccountStore Failure AccountRoleAssignment := do
  let permitted ← query (fun store =>
    hasPermission store config actorAccountId "identity.role.remove")
  require (permitted = true) authorizationDenied
  let reservation ← reserveCommand config call "identity.role.remove" (.account actorAccountId)
    (toString accountId ++ ":" ++ roleCode ++ ":" ++ reason)
  whenSome reservation.completedAt (fun _ => do
      let assignmentId ← demand (reservation.responseReference.bind Reference.assignmentId?)
        (.value "badly formed hexadecimal UUID string")
      let completed ← query (fun store => getAssignment store assignmentId)
      demand completed (.value "Idempotent role removal result is missing"))
    (do
      let active ← query (fun store =>
        (config.roleId roleCode).bind fun roleId => activeAssignment store accountId roleId)
      let assignment ← demand active (.value "Active role assignment does not exist")
      let revoked ← onAccess (revokeAssignment assignment actorAccountId call.instant reason)
      record config call 0 "identity.role_removed" accountId "identity.role.removed"
        (some actorAccountId) call.idempotencyKey
      completeCommand call reservation (.assignment revoked.assignmentId)
      pure revoked)

def bootstrapFirstAdministrator (targetAccountId : Uuid) (presentedSecret reason : String) :
    Transaction AccountStore Failure AccountRoleAssignment := do
  safeReason reason
  require (config.bootstrapEnabled = true) (permissionError "Administrator bootstrap is disabled")
  require (config.productionActivationEnabled = false)
    (permissionError "Administrator bootstrap is prohibited in production")
  let verifier ← demand (config.bootstrapSecretVerifier.filter fun _ => call.trace.commandId.isSome)
    (permissionError "Trusted bootstrap configuration is incomplete")
  require (config.sha256 presentedSecret = verifier)
    (permissionError "Administrator bootstrap denied")
  let administrators ← query (fun store => administratorCount store config)
  require (administrators = 0) (permissionError "Platform administrator is already established")
  let account ← query (fun store => getAccount store targetAccountId)
  let _ ← demand (account.filter fun account => decide (account.state = .active))
    (permissionError "Bootstrap target Account is not eligible")
  let roleId ← demand (config.roleId "platform_administrator")
    (.value "Platform administrator role is not provisioned")
  let reservation ← reserveCommand config call "identity.bootstrap.first_administrator"
    .trustedBootstrap (toString targetAccountId ++ ":" ++ reason)
  require (reservation.completedAt = none)
    (permissionError "Administrator bootstrap replay rejected")
  let assignment ← onAccess
    (Repository.assignRole (newAssignment call targetAccountId roleId targetAccountId))
  onAccess (completeFirstBootstrap assignment.assignmentId)
  record config call 0 "identity.bootstrap_completed" targetAccountId
    "identity.bootstrap.completed" none call.idempotencyKey
  completeCommand call reservation (.assignment assignment.assignmentId)
  pure assignment

end

section

variable (call : Call)

def securityHash (value : String) : Transaction AccountStore Failure Bytes := do
  let digest ← demand config.securityHash (.value "Identity security pepper is not configured")
  pure (digest value)

variable (accountId : Uuid)

def newRecoveryToken (tokenVersion : Nat) (tokenHash : Bytes) (lifetime : Int) :
    RecoveryTokenRecord where
  tokenId := call.draws.tokenId
  accountId
  tokenVersion
  tokenHash
  state := .active
  createdAt := call.instant
  expiresAt := call.instant + lifetime
  consumedAt := none
  revokedAt := none
  supersededAt := none
  version := 1

def initiateRecovery (lifetime : Int) :
    Transaction AccountStore Failure RecoveryInitiationResult := do
  require (minutes 5 ≤ lifetime ∧ lifetime ≤ minutes 60)
    (.value "Recovery lifetime is outside approved bounds")
  let tokenHash ← securityHash config call.draws.token
  let reservation ← reserveCommand config call "identity.recovery.initiate" .recoveryBoundary
    (toString accountId)
  whenSome reservation.completedAt (fun _ => pure .accepted)
    (do
      let account ← query (fun store => getAccount store accountId)
      whenSome (account.filter fun account => decide (account.state ≠ .closed)) (fun _ => do
          let tokenVersion ← query (fun store => nextRecoveryVersion store accountId)
          let issued := newRecoveryToken call accountId tokenVersion tokenHash lifetime
          onAccess (createRecoveryToken issued call.instant)
          record config call 0 "identity.recovery_issued" accountId "identity.recovery.issued" none
            call.idempotencyKey
          completeCommand call reservation (.recovery issued.tokenId)
          pure ⟨some call.draws.token, some issued.tokenId, some issued.expiresAt⟩)
        (do
          completeCommand call reservation .recoveryAccepted
          pure .accepted))

def RecoveryTokenRecord.Valid (instant : Instant) (record : RecoveryTokenRecord) : Prop :=
  record.accountId = accountId ∧ record.state = .active ∧ instant < record.expiresAt
deriving Decidable

def rejectRecovery (reservation : CommandRecord) (accountId : Uuid) :
    Transaction AccountStore Failure (Option PasswordCredential) := do
  audit call 0 "identity.recovery.rejected" none (toString accountId) .denied
    (some "invalid_expired_or_mismatched") ("reject-" ++ call.idempotencyKey)
  completeCommand call reservation .recoveryRejected
  pure none

def recoverableAccount (store : AccessStore) (accountId : Uuid) : Option IdentityAccount :=
  (getAccount store accountId).filter fun account =>
    decide (account.state ≠ .suspended ∧ account.state ≠ .closed)

def recoverPassword (reservation : CommandRecord) (token : RecoveryTokenRecord)
    (account : IdentityAccount) (newPassword : String) :
    Transaction AccountStore Failure (Option PasswordCredential) := do
  let accountId := token.accountId
  let current ← query (fun store => activeCredential store accountId)
  let verifier ← hash config call.draws.salt newPassword
  let credential := nextCredential call.draws accountId current verifier call.instant
  onAccess (replaceCredential credential call.instant)
  let _ ← onAccess (transitionRecovery token (.consume call.instant))
  let _ ← onAccess (Repository.revokeAllSessions accountId call.instant "password_recovery")
  let _ ← onAccess (clearRecoverySecurityState account call.instant)
  record config call 0 "identity.recovery_consumed" accountId "identity.recovery.consumed" none
    ("recovery-" ++ call.idempotencyKey)
  record config call 1 "identity.credential_changed" accountId "identity.credential.recovered" none
    ("credential-" ++ call.idempotencyKey)
  record config call 2 "identity.sessions_revoked" accountId "identity.sessions.revoked" none
    ("sessions-" ++ call.idempotencyKey)
  completeCommand call reservation (.credential credential.credentialId)
  pure (some credential)

def completePasswordRecovery (token newPassword : String) :
    Transaction AccountStore Failure (Option PasswordCredential) := do
  validatePassword newPassword
  let tokenHash ← securityHash config token
  let reservation ← reserveCommand config call "identity.recovery.complete" (.account accountId)
    (toString accountId ++ ":password_recovery")
  whenSome reservation.completedAt (fun _ => query (fun store => activeCredential store accountId))
    (do
      let presented ← query (fun store => recoveryByHash store tokenHash)
      whenSome (presented.filter fun record =>
          decide (RecoveryTokenRecord.Valid accountId call.instant record))
        (fun token => do
          let account ← query (fun store => recoverableAccount store accountId)
          whenSome account
            (fun account => recoverPassword config call reservation token account newPassword)
            -- The reservation stays open.
            (pure none))
        (rejectRecovery call reservation accountId))

def revokeRecoveryToken (actorAccountId tokenId : Uuid) (reason : String) :
    Transaction AccountStore Failure RecoveryTokenRecord := do
  safeReason reason
  let permitted ← query (fun store =>
    hasPermission store config actorAccountId "identity.recovery.revoke")
  require (permitted = true) authorizationDenied
  let reservation ← reserveCommand config call "identity.recovery.revoke"
    (.account actorAccountId) (toString tokenId ++ ":" ++ reason)
  let token ← query (fun store => recoveryById store tokenId)
  let token ← demand token (.value "Recovery token does not exist")
  whenSome reservation.completedAt (fun _ => pure token)
    (do
      let revoked ← onAccess (transitionRecovery token (.revoke call.instant))
      record config call 0 "identity.recovery_revoked" token.accountId
        "identity.recovery.revoked" (some actorAccountId) call.idempotencyKey
      completeCommand call reservation (.recovery tokenId)
      pure revoked)

end

def effectivePermission (store : AccessStore) (accountId : Uuid) (code : String) : Bool :=
  (getAccount store accountId).any (fun account =>
    decide (account.state = .active ∧ account.credentialChangeRequired = false)) &&
      hasPermission store config accountId code

def authorizeOwnership (store : AccessStore) (accountId : Uuid)
    (relationship : OwnershipRelationship) (allowDelegate requestAdministrativeOverride : Bool) :
    OwnershipDecision :=
  if relationship = .owner then ⟨true, "resource_owner"⟩
  else if allowDelegate = true ∧ relationship = .delegate then ⟨true, "delegated_access"⟩
  else if requestAdministrativeOverride = true ∧
      hasPermission store config accountId "identity.ownership.override" = true then
    ⟨true, "explicit_administrative_override"⟩
  else ⟨false, "ownership_not_established"⟩

end Ayo.Accounts.Service
