/- digest: Runs of the account access and the compatibility service. -/

import Ayo.Accounts.Service
import Ayo.Kernel.Run

namespace Ayo.Accounts.System

open Kernel.UnitOfWork Core.Values RateLimit.Models Models Service

inductive Command where
  | setPassword (accountId : Uuid) (password : String) (actorAccountId : Option Uuid)
  | authenticate (accountId : Uuid) (password : String)
      (clientReference : Option (BoundedText 1 128)) (clientOrigin : Option String)
  | rotateSession (sessionId : Uuid)
  | revokeSession (actorAccountId sessionId : Uuid) (reason : String)
  | revokeAllSessions (actorAccountId accountId : Uuid) (reason : String)
  | transitionAccount (actorAccountId accountId : Uuid) (target : AccountLifecycle)
      (expectedVersion : Nat) (reason : String)
  | assignRole (actorAccountId accountId : Uuid) (roleCode : String)
  | removeRole (actorAccountId accountId : Uuid) (roleCode reason : String)
  | bootstrapFirstAdministrator (targetAccountId : Uuid) (presentedSecret reason : String)
  | initiateRecovery (accountId : Uuid) (lifetime : Int)
  | completePasswordRecovery (accountId : Uuid) (token newPassword : String)
  | revokeRecoveryToken (actorAccountId tokenId : Uuid) (reason : String)
  | requireCredentialChange (actorAccountId accountId : Uuid) (expectedVersion : Nat)
      (reason provenance : String)
  | completeForcedCredentialChange (accountId : Uuid) (currentPassword newPassword : String)

inductive Response where
  | credential (credential : PasswordCredential)
  | recovered (credential : Option PasswordCredential)
  | authentication (result : AuthenticationResult)
  | session (session : AccountSession)
  | sessions (revoked : List Uuid)
  | account (account : IdentityAccount)
  | assignment (assignment : AccountRoleAssignment)
  | initiated (result : RecoveryInitiationResult)
  | token (record : RecoveryTokenRecord)

def answering {α : Type} (response : α → Response) (body : Transaction AccountStore Failure α) :
    Transaction AccountStore Failure Response := do
  let a ← body
  pure (response a)

theorem answering_ok {α : Type} {response : α → Response}
    {body : Transaction AccountStore Failure α} {answer : Response} {store t : AccountStore} :
    answering response body store = .ok (answer, t) ↔
      ∃ a, body store = .ok (a, t) ∧ response a = answer := by
  unfold answering
  simp only [bind_ok, pure_ok]
  constructor
  · rintro ⟨a, _, ran, same, rfl⟩
    exact ⟨a, ran, same⟩
  · rintro ⟨a, ran, same⟩
    exact ⟨a, t, ran, same, rfl⟩

def Command.body (config : AccessConfig) (call : Call) :
    Command → Transaction AccountStore Failure Response
  | .setPassword accountId password actorAccountId =>
    answering .credential (Service.setPassword config call accountId password actorAccountId)
  | .authenticate accountId password clientReference clientOrigin =>
    answering .authentication
      (Service.authenticate config call accountId password clientReference clientOrigin)
  | .rotateSession sessionId => answering .session (Service.rotateSession config call sessionId)
  | .revokeSession actorAccountId sessionId reason =>
    answering .session (Service.revokeSession config call actorAccountId sessionId reason)
  | .revokeAllSessions actorAccountId accountId reason =>
    answering .sessions (Service.revokeAllSessions config call actorAccountId accountId reason)
  | .transitionAccount actorAccountId accountId target expectedVersion reason =>
    answering .account
      (Service.transitionAccount config call actorAccountId accountId target expectedVersion reason)
  | .assignRole actorAccountId accountId roleCode =>
    answering .assignment (Service.assignRole config call actorAccountId accountId roleCode)
  | .removeRole actorAccountId accountId roleCode reason =>
    answering .assignment (Service.removeRole config call actorAccountId accountId roleCode reason)
  | .bootstrapFirstAdministrator targetAccountId presentedSecret reason =>
    answering .assignment
      (Service.bootstrapFirstAdministrator config call targetAccountId presentedSecret reason)
  | .initiateRecovery accountId lifetime =>
    answering .initiated (Service.initiateRecovery config call accountId lifetime)
  | .completePasswordRecovery accountId token newPassword =>
    answering .recovered (Service.completePasswordRecovery config call accountId token newPassword)
  | .revokeRecoveryToken actorAccountId tokenId reason =>
    answering .token (Service.revokeRecoveryToken config call actorAccountId tokenId reason)
  | .requireCredentialChange actorAccountId accountId expectedVersion reason provenance =>
    answering .account
      (Service.requireCredentialChange config call actorAccountId accountId expectedVersion reason
        provenance)
  | .completeForcedCredentialChange accountId currentPassword newPassword =>
    answering .credential
      (Service.completeForcedCredentialChange config call accountId currentPassword newPassword)

/-- A command, a session check or an ownership decision of the service, or what the compatibility
service does. -/
inductive Move where
  | command (command : Command) (call : Call)
  | validateSession (sessionId : Uuid) (instant : Instant)
  | authorizeOwnership (accountId : Uuid) (relationship : OwnershipRelationship)
      (allowDelegate requestAdministrativeOverride : Bool)
  | createAccount (accountId : Uuid) (instant : Instant)
  | compatibilityTransition (accountId : Uuid) (target : AccountLifecycle) (instant : Instant)

def step (config : AccessConfig) (store : AccountStore) : Move → AccountStore
  | .command command call => commit (command.body config call) store
  | .validateSession sessionId instant => commit (Service.validateSession sessionId instant) store
  -- A decision only reads.
  | .authorizeOwnership _ _ _ _ => store
  | .createAccount accountId instant =>
    commit (onAccess (Repository.createAccount accountId instant)) store
  | .compatibilityTransition accountId target instant =>
    commit (onAccess (Repository.compatibilityTransition accountId target instant)) store

def sampleDigest (text : String) : Bytes := text.toList.map fun letter => letter.toNat.toUInt8

/-- A service whose verifiers, digests and hashes are the texts themselves, and in which the
platform administrators hold every permission. -/
def sampleConfig : AccessConfig where
  failedAttemptLimit := 5
  failedAttemptWindow := minutes 15
  originAttemptLimit := 20
  originAttemptWindow := minutes 15
  absoluteLifetime := minutes 6
  inactivityTimeout := minutes 5
  bounds := ⟨by decide, by decide, by decide, by decide, by decide⟩
  securityHash := some sampleDigest
  sha256 := sampleDigest
  bootstrapEnabled := true
  productionActivationEnabled := false
  bootstrapSecretVerifier := some (sampleDigest "bootstrap")
  hashPassword _ password := password
  verifyPassword verifier password := decide (verifier = password)
  needsUpgrade _ := false
  dummyVerifier := ""
  requestHash material := material
  keyDigest key := key
  roleId code :=
    if code = "platform_administrator" then some 1
    else if code = "platform_support" then some 2
    else none
  grants roleId _ := decide (roleId = 1)

def sampleCall (number : Nat) (key : String) (instant : Instant) : Call where
  idempotencyKey := key
  trace := { correlationId := 0, requestId := 0, commandId := some number, causationId := none }
  instant
  draws :=
    { credentialId := number, sessionId := number, assignmentId := number, tokenId := number
      token := toString number, salt := number
      eventId := fun index => 8 * number + index, auditId := fun index => 8 * number + index }

def sampleAccount (accountId : Uuid) : List Move :=
  [.createAccount accountId 0, .compatibilityTransition accountId .active 0,
    .command (.setPassword accountId "twelve-letters" none)
      (sampleCall accountId ("first-password-" ++ toString accountId) 0)]

end Ayo.Accounts.System
