/- digest: Account commands as sequences of single checked writes. -/

import Ayo.Accounts.Effects
import Ayo.Accounts.System

namespace Ayo.Accounts.Changes

open Relation (ReflTransGen)
open Kernel.Evolution (Evolves)
open Kernel.Run (run run_related)
open Kernel.UnitOfWork Kernel.KeyedTable Kernel.Updates Kernel.Related Core.Values
  PersistenceKernel.Audit PersistenceKernel.Idempotency RateLimit.Models Models Repository Service
  Accounts.System Effects

/-- Two versions of one session, which differ in their use and revocation only. -/
structure SameLease (a b : AccountSession) : Prop where
  sessionId : a.sessionId = b.sessionId
  accountId : a.accountId = b.accountId
  createdAt : a.createdAt = b.createdAt
  absoluteExpiresAt : a.absoluteExpiresAt = b.absoluteExpiresAt
  rotatedFrom : a.rotatedFromSessionId = b.rotatedFromSessionId

theorem SameLease.refl (session : AccountSession) : SameLease session session :=
  ⟨rfl, rfl, rfl, rfl, rfl⟩

/-- One write of a command, where a rotation puts one session in the place of another. -/
inductive Change (config : AccessConfig) (rotation : AccountSession → AccountSession → Prop) :
    AccountStore → AccountStore → Prop
  | accounts {s : AccountStore} (accounts : Table IdentityAccount) :
      Change config rotation s { s with access := { s.access with accounts } }
  | credentials {s : AccountStore} (credentials : Table PasswordCredential) :
      Change config rotation s { s with access := { s.access with credentials } }
  | origins {s : AccountStore} (origins : Table OriginWindow) :
      Change config rotation s { s with access := { s.access with origins } }
  | bootstrap {s : AccountStore} (bootstrap : Option Uuid) :
      Change config rotation s { s with access := { s.access with bootstrap } }
  | traces {s : AccountStore} (traces : TraceStore) (same : traces.records = s.traces.records) :
      Change config rotation s { s with traces }
  | reserved {s : AccountStore} (traces : TraceStore) (record : CommandRecord)
      (absent : s.traces.records.find record.name = none)
      (rows : traces.records.rows = s.traces.records.rows ++ [record]) :
      Change config rotation s { s with traces }
  | completed {s : AccountStore} (traces : TraceStore) (record : CommandRecord)
      (response : Reference) (time : Instant) (stored : record ∈ s.traces.records.rows)
      (isOpen : record.completedAt = none)
      (rows : traces.records.rows = s.traces.records.replaced (record.completed response time)) :
      Change config rotation s { s with traces }
  | sessionUpdated {s : AccountStore} (sessions : Table AccountSession)
      (session changed : AccountSession) (stored : session ∈ s.access.sessions.rows)
      (standing : session.revokedAt = none) (same : SameLease changed session)
      (rows : sessions.rows = s.access.sessions.replaced changed) :
      Change config rotation s { s with access := { s.access with sessions } }
  | sessionsRevoked {s : AccountStore} (sessions : Table AccountSession) (accountId : Uuid)
      (time : Instant) (reason : String)
      (rows : sessions.rows = s.access.sessions.rows.map
        (updateWhere (AccountSession.StandingOf accountId) (.revoke time reason))) :
      Change config rotation s { s with access := { s.access with sessions } }
  | sessionOpened {s : AccountStore} (sessions : Table AccountSession) (session : AccountSession)
      (origin : session.rotatedFromSessionId = none)
      (expires : session.absoluteExpiresAt = session.createdAt + config.absoluteLifetime)
      (rows : sessions.rows = s.access.sessions.rows ++ [session]) :
      Change config rotation s { s with access := { s.access with sessions } }
  | sessionRotated {s : AccountStore} (sessions : Table AccountSession)
      (current replacement : AccountSession) (rotates : rotation current replacement)
      (stored : ∃ row ∈ s.access.sessions.rows, SameLease row current)
      (origin : replacement.rotatedFromSessionId = some current.sessionId)
      (rows : sessions.rows = s.access.sessions.rows ++ [replacement]) :
      Change config rotation s { s with access := { s.access with sessions } }
  | assigned {s : AccountStore} (assignments : Table AccountRoleAssignment)
      (assignment : AccountRoleAssignment)
      (rows : assignments.rows = s.access.assignments.rows ++ [assignment]) :
      Change config rotation s { s with access := { s.access with assignments } }
  | unassigned {s : AccountStore} (assignments : Table AccountRoleAssignment)
      (assignment : AccountRoleAssignment) (actorId : Uuid) (time : Instant) (reason : String)
      (stored : assignment ∈ s.access.assignments.rows) (standing : assignment.revokedAt = none)
      (rows : assignments.rows =
        s.access.assignments.replaced (assignment.revoked actorId time reason)) :
      Change config rotation s { s with access := { s.access with assignments } }
  | tokenIssued {s : AccountStore} (recoveryTokens : Table RecoveryTokenRecord)
      (record : RecoveryTokenRecord) (time : Instant) (unspent : record.Unspent)
      (rows : recoveryTokens.rows = s.access.recoveryTokens.rows.map
        (updateWhere (RecoveryTokenRecord.ActiveOf record.accountId) (.superseded time)) ++
          [record]) :
      Change config rotation s { s with access := { s.access with recoveryTokens } }
  | tokenSpent {s : AccountStore} (recoveryTokens : Table RecoveryTokenRecord)
      (record spent : RecoveryTokenRecord) (stored : record ∈ s.access.recoveryTokens.rows)
      (active : record.state = .active) (inactive : spent.state ≠ .active)
      (tokenId : spent.tokenId = record.tokenId) (accountId : spent.accountId = record.accountId)
      (rows : recoveryTokens.rows = s.access.recoveryTokens.replaced spent) :
      Change config rotation s { s with access := { s.access with recoveryTokens } }

abbrev Writes (config : AccessConfig) (rotation : AccountSession → AccountSession → Prop) :
    AccountStore → AccountStore → Prop :=
  ReflTransGen (Change config rotation)

variable {config : AccessConfig} {rotation : AccountSession → AccountSession → Prop} {call : Call}
  {index : Nat} {actorId : Option Uuid} {action : String}

theorem reserveCommand_writes {scope : String} {actor : ActorReference} {material : String} :
    Relates (Writes config rotation) (reserveCommand config call scope actor material) := by
  intro s reservation t ran
  obtain ⟨_, access, events, audits, origin⟩ := reserveCommand_ok ran
  obtain ⟨_, _, rfl⟩ | ⟨absent, commandId, rfl, rows⟩ := origin
  · exact .refl
  · obtain ⟨_, traces⟩ := t
    obtain rfl : _ = s.access := access
    exact .single (.reserved traces (freshRecord config call commandId scope actor material) absent
      rows)

theorem completeCommand_writes {reservation : CommandRecord} {response : Reference} :
    Relates (Writes config rotation) (completeCommand call reservation response) := by
  intro s u t ran
  unfold completeCommand onTraces at ran
  obtain ⟨traces, written, rfl⟩ := within_ok.1 ran
  obtain ⟨records, completes, rfl⟩ := within_ok.1 written
  obtain ⟨row, found, isOpen, _, rows⟩ | ⟨_, reserves, _⟩ := complete_cases completes
  · exact .single (.completed _ row response call.instant (Table.mem_of_find found) isOpen.2 rows)
  · obtain ⟨_, _, rfl⟩ | ⟨absent, _, rows⟩ := reserve_ok reserves
    · exact .refl
    · exact .single (.reserved _ reservation absent rows)

theorem audit_writes {resourceId key : String} {outcome : AuditOutcome} {reason : Option String} :
    Relates (Writes config rotation)
      (audit call index action actorId resourceId outcome reason key) := by
  refine .requires <| .bind ?_ fun _ => .pure
  intro s a t ran
  obtain ⟨traces, written, rfl⟩ := within_ok.1 ran
  obtain ⟨audits, _, rfl⟩ := within_ok.1 written
  exact .single (.traces _ rfl)

theorem record_writes {eventType key : String} {aggregateId : Uuid} :
    Relates (Writes config rotation)
      (record config call index eventType aggregateId action actorId key) := by
  refine .bind (.bind ?_ fun _ => .pure) fun _ => audit_writes
  intro s a t ran
  obtain ⟨traces, written, rfl⟩ := within_ok.1 ran
  obtain ⟨events, _, rfl⟩ := within_ok.1 written
  exact .single (.traces _ rfl)

theorem recordRevoked_writes {actorAccountId : Uuid} {revoked : List Uuid} :
    Relates (Writes config rotation) (recordRevoked config call actorAccountId index revoked) := by
  induction revoked generalizing index with
  | nil => exact .pure
  | cons sessionId rest ih => exact .bind record_writes fun _ => ih

section

theorem onAccess_writes {α : Type} {body : Transaction AccessStore Failure α}
    (write : ∀ (s : AccountStore) a access, body s.access = .ok (a, access) →
      Change config rotation s { s with access }) :
    Relates (Writes config rotation) (onAccess body) := by
  intro s a t ran
  obtain ⟨access, written, rfl⟩ := onAccess_ok.1 ran
  exact .single (write s a access written)

theorem query_writes {α : Type} {select : AccessStore → α} :
    Relates (Writes config rotation) (query select) :=
  .of_readOnly readOnly_query

theorem hash_writes {salt : Nat} {password : String} :
    Relates (Writes config rotation) (Service.hash config salt password) :=
  .requires <| .pure

variable {time : Instant} {account : IdentityAccount} {session : AccountSession} {reason : String}
  {accountId : Uuid} {assignment : AccountRoleAssignment} {record : RecoveryTokenRecord}

theorem replaceCredential_writes {credential : PasswordCredential} :
    Relates (Writes config rotation) (onAccess (replaceCredential credential time)) := by
  refine onAccess_writes fun s u access ran => ?_
  obtain ⟨credentials, rfl, _⟩ := replaceCredential_ok ran
  exact .credentials credentials

theorem updateAccount_writes {change : IdentityAccount → IdentityAccount} {failure : Failure} :
    Relates (Writes config rotation) (onAccess (updateAccount account change failure)) := by
  refine onAccess_writes fun s returned access ran => ?_
  obtain ⟨_, accounts, _, _, rfl, _⟩ := updateAccount_ok ran
  exact .accounts accounts

theorem resetFailedAttempts_writes :
    Relates (Writes config rotation) (onAccess (resetFailedAttempts account time)) := by
  unfold resetFailedAttempts
  split
  · intro s returned t ran
    obtain ⟨access, written, rfl⟩ := onAccess_ok.1 ran
    obtain ⟨_, rfl⟩ := pure_ok.1 written
    exact .refl
  · exact updateAccount_writes

theorem transition_writes {target : AccountLifecycle} :
    Relates (Writes config rotation) (onAccess (transition account target time)) := by
  refine onAccess_writes fun s returned access ran => ?_
  unfold transition at ran
  obtain ⟨_, ran⟩ := require_bind_ok.1 ran
  obtain ⟨_, accounts, _, _, rfl, _⟩ := updateAccount_ok ran
  exact .accounts accounts

theorem consumeOriginAttempt_writes {originHash : Bytes} {window : Int} {limit : Nat} :
    Relates (Writes config rotation)
      (onAccess (consumeOriginAttempt originHash time window limit)) := by
  refine onAccess_writes fun s allowed access ran => ?_
  obtain ⟨origins, rfl⟩ := consumeOriginAttempt_ok ran
  exact .origins origins

theorem updateSession_writes {change : AccountSession → AccountSession}
    (same : ∀ row, SameLease (change row) row) :
    Relates (Writes config rotation) (onAccess (updateSession session change)) := by
  refine onAccess_writes fun s returned access ran => ?_
  obtain ⟨old, sessions, found, _, standing, _, rfl, rows⟩ := updateSession_ok ran
  exact .sessionUpdated sessions old _ (Table.mem_of_find found) standing (same old) rows

theorem touched_sameLease (time : Instant) (session : AccountSession) :
    SameLease (session.touched time) session :=
  ⟨rfl, rfl, rfl, rfl, rfl⟩

theorem revoke_sameLease (time : Instant) (reason : String) (session : AccountSession) :
    SameLease (session.revoke time reason) session :=
  ⟨rfl, rfl, rfl, rfl, rfl⟩

theorem revokeSession_writes :
    Relates (Writes config rotation) (onAccess (Repository.revokeSession session time reason)) := by
  unfold Repository.revokeSession
  split
  · exact updateSession_writes (revoke_sameLease time reason)
  · intro s returned t ran
    obtain ⟨access, written, rfl⟩ := onAccess_ok.1 ran
    obtain ⟨_, rfl⟩ := pure_ok.1 written
    exact .refl

theorem revokeAllSessions_writes :
    Relates (Writes config rotation)
      (onAccess (Repository.revokeAllSessions accountId time reason)) := by
  refine onAccess_writes fun s revoked access ran => ?_
  obtain ⟨sessions, rfl, rows, _⟩ := revokeAllSessions_ok ran
  exact .sessionsRevoked sessions accountId time reason rows

theorem newSession_writes {clientReference : Option (BoundedText 1 128)} :
    Relates (Writes config rotation)
      (onAccess (createSession (newSession config call accountId clientReference))) := by
  refine onAccess_writes fun s u access ran => ?_
  obtain ⟨sessions, rfl, rows⟩ := createSession_ok ran
  exact .sessionOpened sessions _ rfl rfl rows

theorem assignRole_writes :
    Relates (Writes config rotation) (onAccess (Repository.assignRole assignment)) := by
  refine onAccess_writes fun s returned access ran => ?_
  obtain ⟨_, assignments, rfl, rows⟩ := assignRole_ok ran
  exact .assigned assignments assignment rows

theorem revokeAssignment_writes {actorId : Uuid} :
    Relates (Writes config rotation)
      (onAccess (revokeAssignment assignment actorId time reason)) := by
  refine onAccess_writes fun s returned access ran => ?_
  obtain ⟨old, assignments, found, standing, rfl, rfl, rows⟩ := revokeAssignment_ok ran
  exact .unassigned assignments old actorId time reason (Table.mem_of_find found) standing rows

theorem completeFirstBootstrap_writes {assignmentId : Uuid} :
    Relates (Writes config rotation) (onAccess (completeFirstBootstrap assignmentId)) := by
  refine onAccess_writes fun s u access ran => ?_
  unfold completeFirstBootstrap at ran
  rw [get_bind_ok, require_bind_ok] at ran
  obtain rfl := put_ok.1 ran.2
  exact .bootstrap (some assignmentId)

theorem createRecoveryToken_writes (unspent : record.Unspent) :
    Relates (Writes config rotation) (onAccess (createRecoveryToken record time)) := by
  refine onAccess_writes fun s u access ran => ?_
  obtain ⟨recoveryTokens, rfl, rows⟩ := createRecoveryToken_ok ran
  exact .tokenIssued recoveryTokens record time unspent rows

theorem transitionRecovery_writes {change : RecoveryTokenRecord → RecoveryTokenRecord}
    (inactive : ∀ row, (change row).state ≠ .active)
    (tokenId : ∀ row, (change row).tokenId = row.tokenId)
    (accountId : ∀ row, (change row).accountId = row.accountId) :
    Relates (Writes config rotation) (onAccess (transitionRecovery record change)) := by
  refine onAccess_writes fun s returned access ran => ?_
  obtain ⟨old, recoveryTokens, found, _, active, _, rfl, rows⟩ := transitionRecovery_ok ran
  exact .tokenSpent recoveryTokens old _ (Table.mem_of_find found) active (inactive old)
    (tokenId old) (accountId old) rows

end

section

variable {accountId sessionId actorAccountId : Uuid} {password newPassword reason roleCode : String}
  {clientOrigin : Option String} {reservation : CommandRecord} {credential : PasswordCredential}
  {clientReference : Option (BoundedText 1 128)} {account : IdentityAccount} {expected : Nat}
  {lifetime : Int} {token : RecoveryTokenRecord}

theorem setPassword_writes {actorAccountId : Option Uuid} : Relates (Writes config rotation)
      (setPassword config call accountId password actorAccountId) :=
  .requires <| .bind reserveCommand_writes fun _ => .bind query_writes fun _ =>
    .whenSome (fun _ => .pure) <|
      .bind query_writes fun _ => .demands fun _ => .bind hash_writes fun _ =>
      .bind replaceCredential_writes fun _ => .bind record_writes fun _ =>
      .bind completeCommand_writes fun _ => .pure

theorem completeForcedCredentialChange_writes {currentPassword : String} :
    Relates (Writes config rotation)
      (completeForcedCredentialChange config call accountId currentPassword newPassword) :=
  .requires <| .bind reserveCommand_writes fun _ => .bind query_writes fun _ =>
    .whenSome (fun _ => .pure) <|
      .bind query_writes fun _ => .demands fun _ => .demands fun _ =>
      .bind hash_writes fun _ => .bind replaceCredential_writes fun _ =>
      .bind updateAccount_writes fun _ => .bind revokeAllSessions_writes fun _ =>
      .bind record_writes fun _ => .bind completeCommand_writes fun _ => .pure

theorem originAllows_writes :
    Relates (Writes config rotation) (originAllows config call clientOrigin) :=
  .whenSome (fun _ => .demands fun _ => consumeOriginAttempt_writes) .pure

theorem denyAuthentication_writes :
    Relates (Writes config rotation) (denyAuthentication config call reservation accountId) :=
  .bind query_writes fun _ =>
    .bind (.whenSome (fun _ => .bind updateAccount_writes fun _ => .ite record_writes .pure)
      .pure) fun _ =>
    .bind audit_writes fun _ => .bind completeCommand_writes fun _ => .pure

theorem upgradeCredential_writes :
    Relates (Writes config rotation) (upgradeCredential config call accountId credential password) :=
  .ite (.bind hash_writes fun _ => .bind replaceCredential_writes fun _ => record_writes) .pure

theorem admitAuthentication_writes :
    Relates (Writes config rotation)
      (admitAuthentication config call reservation account credential password clientReference) :=
  .bind resetFailedAttempts_writes fun _ => .bind upgradeCredential_writes fun _ =>
    .bind newSession_writes fun _ => .bind record_writes fun _ =>
    .bind completeCommand_writes fun _ => .pure

theorem authenticate_writes :
    Relates (Writes config rotation)
      (authenticate config call accountId password clientReference clientOrigin) :=
  .bind reserveCommand_writes fun _ => .whenSome (fun _ => .pure) <|
    .bind originAllows_writes fun _ =>
    .ite (.bind query_writes fun _ =>
        .whenSome (fun _ => admitAuthentication_writes) denyAuthentication_writes)
      (.bind audit_writes fun _ => .bind completeCommand_writes fun _ => .pure)

theorem validateSession_writes {instant : Instant} :
    Relates (Writes config rotation) (validateSession sessionId instant) :=
  .bind query_writes fun _ =>
    .whenSome (fun _ => .bind (updateSession_writes (touched_sameLease instant)) fun _ => .pure)
      .pure

theorem revokeSession_command_writes :
    Relates (Writes config rotation)
      (Service.revokeSession config call actorAccountId sessionId reason) :=
  .requires <| .bind reserveCommand_writes fun _ => .bind query_writes fun _ =>
    .demands fun _ => .bind query_writes fun _ => .requires <|
    .bind revokeSession_writes fun _ => .whenSome (fun _ => .pure) <|
      .bind record_writes fun _ => .bind completeCommand_writes fun _ => .pure

theorem revokeAllSessions_command_writes : Relates (Writes config rotation)
      (Service.revokeAllSessions config call actorAccountId accountId reason) :=
  .requires <| .bind query_writes fun _ => .requires <|
    .bind reserveCommand_writes fun _ => .whenSome (fun _ => .pure) <|
      .bind revokeAllSessions_writes fun _ => .bind recordRevoked_writes fun _ =>
      .bind completeCommand_writes fun _ => .pure

theorem transitionAccount_writes {target : AccountLifecycle} :
    Relates (Writes config rotation)
      (transitionAccount config call actorAccountId accountId target expected reason) :=
  .bind query_writes fun _ => .requires <| .bind reserveCommand_writes fun _ =>
    .bind query_writes fun _ => .demands fun _ => .whenSome (fun _ => .pure) <|
      .requires <| .bind transition_writes fun _ => .demands fun _ =>
      .requires <| .bind record_writes fun _ =>
      .bind completeCommand_writes fun _ => .pure

theorem requireCredentialChange_writes {provenance : String} :
    Relates (Writes config rotation)
      (requireCredentialChange config call actorAccountId accountId expected reason provenance) :=
  .requires <| .requires <| .bind query_writes fun _ =>
    .requires <| .bind reserveCommand_writes fun _ => .bind query_writes fun _ =>
    .demands fun _ => .whenSome (fun _ => .pure) <|
      .requires <| .bind updateAccount_writes fun _ =>
      .bind revokeAllSessions_writes fun _ => .bind record_writes fun _ =>
      .bind completeCommand_writes fun _ => .pure

theorem assignRole_command_writes : Relates (Writes config rotation)
      (Service.assignRole config call actorAccountId accountId roleCode) :=
  .requires <| .requires <| .bind query_writes fun _ =>
    .requires <| .demands fun _ => .bind reserveCommand_writes fun _ =>
    .bind query_writes fun _ =>
    .whenSome (fun _ => .bind completeCommand_writes fun _ => .pure) <|
      .bind assignRole_writes fun _ => .bind record_writes fun _ =>
      .bind completeCommand_writes fun _ => .pure

theorem removeRole_writes : Relates (Writes config rotation)
      (removeRole config call actorAccountId accountId roleCode reason) :=
  .bind query_writes fun _ => .requires <| .bind reserveCommand_writes fun _ =>
    .whenSome (fun _ => .demands fun _ => .bind query_writes fun _ => .demand) <|
      .bind query_writes fun _ => .demands fun _ =>
      .bind revokeAssignment_writes fun _ => .bind record_writes fun _ =>
      .bind completeCommand_writes fun _ => .pure

theorem bootstrapFirstAdministrator_writes {targetAccountId : Uuid} {presentedSecret : String} :
    Relates (Writes config rotation)
      (bootstrapFirstAdministrator config call targetAccountId presentedSecret reason) :=
  .requires <| .requires <| .requires <|
    .demands fun _ => .requires <| .bind query_writes fun _ =>
    .requires <| .bind query_writes fun _ => .demands fun _ =>
    .demands fun _ => .bind reserveCommand_writes fun _ => .requires <|
    .bind assignRole_writes fun _ => .bind completeFirstBootstrap_writes fun _ =>
    .bind record_writes fun _ => .bind completeCommand_writes fun _ => .pure

theorem securityHash_writes {value : String} :
    Relates (Writes config rotation) (securityHash config value) :=
  .demands fun _ => .pure

theorem newRecoveryToken_unspent {tokenVersion : Nat} {tokenHash : Bytes} :
    (newRecoveryToken call accountId tokenVersion tokenHash lifetime).Unspent :=
  ⟨rfl, rfl, rfl, rfl⟩

theorem initiateRecovery_writes :
    Relates (Writes config rotation) (initiateRecovery config call accountId lifetime) :=
  .requires <| .bind securityHash_writes fun _ =>
    .bind reserveCommand_writes fun _ => .whenSome (fun _ => .pure) <|
      .bind query_writes fun _ =>
      .whenSome (fun _ => .bind query_writes fun _ =>
          .bind (createRecoveryToken_writes newRecoveryToken_unspent) fun _ =>
          .bind record_writes fun _ => .bind completeCommand_writes fun _ => .pure)
        (.bind completeCommand_writes fun _ => .pure)

theorem consume_writes {time : Instant} :
    Relates (Writes config rotation) (onAccess (transitionRecovery token (.consume time))) :=
  transitionRecovery_writes (fun _ => nofun) (fun _ => rfl) (fun _ => rfl)

theorem recoverPassword_writes :
    Relates (Writes config rotation)
      (recoverPassword config call reservation token account newPassword) :=
  .bind query_writes fun _ => .bind hash_writes fun _ => .bind replaceCredential_writes fun _ =>
    .bind consume_writes fun _ => .bind revokeAllSessions_writes fun _ =>
    .bind updateAccount_writes fun _ => .bind record_writes fun _ => .bind record_writes fun _ =>
    .bind record_writes fun _ => .bind completeCommand_writes fun _ => .pure

theorem completePasswordRecovery_writes {token : String} : Relates (Writes config rotation)
      (completePasswordRecovery config call accountId token newPassword) :=
  .requires <| .bind securityHash_writes fun _ =>
    .bind reserveCommand_writes fun _ => .whenSome (fun _ => query_writes) <|
      .bind query_writes fun _ =>
      .whenSome (fun _ => .bind query_writes fun _ =>
          .whenSome (fun _ => recoverPassword_writes) .pure)
        (.bind audit_writes fun _ => .bind completeCommand_writes fun _ => .pure)

theorem revokeRecoveryToken_writes {tokenId : Uuid} :
    Relates (Writes config rotation)
      (revokeRecoveryToken config call actorAccountId tokenId reason) :=
  .requires <| .bind query_writes fun _ => .requires <|
    .bind reserveCommand_writes fun _ => .bind query_writes fun _ => .demands fun _ =>
    .whenSome (fun _ => .pure) <|
      .bind (transitionRecovery_writes (fun _ => nofun) (fun _ => rfl) (fun _ => rfl)) fun _ =>
      .bind record_writes fun _ => .bind completeCommand_writes fun _ => .pure

end

section

def Move.Rotates (config : AccessConfig) (store : AccountStore) :
    Move → AccountSession → AccountSession → Prop
  | .command (.rotateSession sessionId) call, current, replacement =>
    getSession store.access sessionId = some current ∧ current.ActiveAt call.instant ∧
      replacement = rotatedSession config call current
  | _, _, _ => False

variable {time : Instant} {store t : AccountStore} {accountId : Uuid}

theorem revokeSession_stored {access result : AccessStore} {session returned : AccountSession}
    {reason : String} (held : session ∈ access.sessions.rows)
    (ran : Repository.revokeSession session time reason access = .ok (returned, result)) :
    ∃ row ∈ result.sessions.rows, SameLease row session := by
  unfold Repository.revokeSession at ran
  split at ran
  · obtain ⟨old, sessions, found, _, _, rfl, rfl, rows⟩ := updateSession_ok ran
    have same : old = session :=
      access.sessions.eq_of_key (Table.mem_of_find found) held (Table.key_of_find found)
    subst same
    refine ⟨old.revoke time reason, ?_, revoke_sameLease time reason old⟩
    rw [rows]
    exact Table.mem_replaced.2 (.inl ⟨rfl, old, held, rfl⟩)
  · obtain ⟨_, rfl⟩ := pure_ok.1 ran
    exact ⟨session, held, .refl session⟩

theorem rotateSession_writes {sessionId : Uuid} {replacement : AccountSession}
    (ran : rotateSession config call sessionId store = .ok (replacement, t)) :
    Writes config (Move.Rotates config store (.command (.rotateSession sessionId) call)) store
      t := by
  unfold rotateSession at ran
  obtain ⟨reservation, reserved, reserves, ran⟩ := bind_ok.1 ran
  have first : Writes config (Move.Rotates config store (.command (.rotateSession sessionId) call))
      store _ := reserveCommand_writes _ _ _ reserves
  obtain ⟨_, access, _⟩ := reserveCommand_ok reserves
  refine first.trans ?_
  obtain ⟨_, _, ran⟩ | ⟨_, ran⟩ := whenSome_ok.1 ran
  · rw [demand_bind_ok] at ran
    obtain ⟨_, _, ran⟩ := ran
    rw [query_bind_ok] at ran
    obtain ⟨_, rfl⟩ := demand_ok.1 ran
    exact .refl
  · rw [query_bind_ok, demand_bind_ok] at ran
    obtain ⟨old, available, ran⟩ := ran
    obtain ⟨found, active⟩ := Option.filter_eq_some_iff.1 available
    obtain ⟨returned, revoked, revokes, ran⟩ := bind_ok.1 ran
    have second : Writes config
        (Move.Rotates config store (.command (.rotateSession sessionId) call)) _ _ :=
      revokeSession_writes _ _ _ revokes
    obtain ⟨_, opened, opens, ran⟩ := bind_ok.1 ran
    obtain ⟨revokedAccess, superseded, rfl⟩ := onAccess_ok.1 revokes
    have held := revokeSession_stored (Table.mem_of_find found) superseded
    obtain ⟨openedAccess, created, rfl⟩ := onAccess_ok.1 opens
    obtain ⟨sessions, rfl, rows⟩ := createSession_ok created
    rw [access] at found
    refine second.trans (.head (.sessionRotated sessions old _
      ⟨found, of_decide_eq_true active, rfl⟩ held rfl rows) ?_)
    have rest : Relates (Writes config (Move.Rotates config store
        (.command (.rotateSession sessionId) call))) (do
        record config call 0 "identity.session_revoked" old.sessionId
          "identity.session.revoked" (some old.accountId) ("revoke-" ++ call.idempotencyKey)
        record config call 1 "identity.session_created"
          (rotatedSession config call old).sessionId "identity.session.rotated"
          (some old.accountId) ("create-" ++ call.idempotencyKey)
        completeCommand call reservation (.session (rotatedSession config call old).sessionId)
        pure (rotatedSession config call old)) :=
      .bind record_writes fun _ => .bind record_writes fun _ => .bind completeCommand_writes fun _ =>
        .pure
    exact rest _ _ _ ran

theorem answering_writes {α : Type} {response : α → Response}
    {body : Transaction AccountStore Failure α} (writes : Relates (Writes config rotation) body) :
    Relates (Writes config rotation) (answering response body) :=
  .bind writes fun _ => .pure

theorem createAccount_writes :
    Relates (Writes config rotation) (onAccess (createAccount accountId time)) := by
  refine onAccess_writes fun s u access ran => ?_
  unfold createAccount at ran
  simp only [steps_ok] at ran
  obtain ⟨accounts, _, rfl⟩ := ran
  exact .accounts accounts

theorem compatibilityTransition_writes {target : AccountLifecycle} :
    Relates (Writes config rotation) (onAccess (compatibilityTransition accountId target time)) := by
  refine onAccess_writes fun s returned access ran => ?_
  unfold compatibilityTransition at ran
  rw [get_bind_ok, demand_bind_ok] at ran
  obtain ⟨account, _, ran⟩ := ran
  obtain ⟨_, ran⟩ := require_bind_ok.1 ran
  obtain ⟨_, accounts, _, _, rfl, _⟩ := updateAccount_ok ran
  exact .accounts accounts

theorem command_writes {command : Command} {answer : Response}
    (ran : command.body config call store = .ok (answer, t)) :
    Writes config (Move.Rotates config store (.command command call)) store t := by
  cases command with
  | rotateSession =>
    obtain ⟨replacement, ran, _⟩ := answering_ok.1 ran
    exact rotateSession_writes ran
  | setPassword => exact answering_writes setPassword_writes _ _ _ ran
  | authenticate => exact answering_writes authenticate_writes _ _ _ ran
  | revokeSession => exact answering_writes revokeSession_command_writes _ _ _ ran
  | revokeAllSessions => exact answering_writes revokeAllSessions_command_writes _ _ _ ran
  | transitionAccount => exact answering_writes transitionAccount_writes _ _ _ ran
  | assignRole => exact answering_writes assignRole_command_writes _ _ _ ran
  | removeRole => exact answering_writes removeRole_writes _ _ _ ran
  | bootstrapFirstAdministrator =>
    exact answering_writes bootstrapFirstAdministrator_writes _ _ _ ran
  | initiateRecovery => exact answering_writes initiateRecovery_writes _ _ _ ran
  | completePasswordRecovery =>
    exact answering_writes completePasswordRecovery_writes _ _ _ ran
  | revokeRecoveryToken => exact answering_writes revokeRecoveryToken_writes _ _ _ ran
  | requireCredentialChange =>
    exact answering_writes requireCredentialChange_writes _ _ _ ran
  | completeForcedCredentialChange =>
    exact answering_writes completeForcedCredentialChange_writes _ _ _ ran

theorem step_writes {move : Move} :
    Writes config (Move.Rotates config store move) store (step config store move) := by
  cases move with
  | command =>
    exact commit_related _ store .refl fun answer t ran => command_writes ran
  | validateSession => exact validateSession_writes.commit store
  | authorizeOwnership => exact .refl
  | createAccount => exact createAccount_writes.commit store
  | compatibilityTransition =>
    exact compatibilityTransition_writes.commit store

theorem writes_preserve {Inv : AccountStore → Prop} {s : AccountStore}
    (writes : Writes config rotation s t)
    (preserves : ∀ s t, Change config rotation s t → Inv s → Inv t) (start : Inv s) : Inv t := by
  induction writes with
  | refl => exact start
  | tail _ last ih => exact preserves _ _ last ih

end

/-! What has ended stays ended. -/

/-- A session that stands is used or revoked. -/
def SessionStep (old new : AccountSession) : Prop := old.revokedAt = none ∧ SameLease new old

def AssignmentStep (old new : AccountRoleAssignment) : Prop :=
  old.revokedAt = none ∧ ∃ actorId time reason, new = old.revoked actorId time reason

def TokenStep (old new : RecoveryTokenRecord) : Prop :=
  old.state = .active ∧ new.state ≠ .active ∧ new.accountId = old.accountId

def CommandStep (old new : CommandRecord) : Prop :=
  old.completedAt = none ∧ ∃ response time, new = old.completed response time

/-- What ended stays so in every table. -/
structure Ends (s t : AccountStore) : Prop where
  sessions : Evolves SessionStep s.access.sessions t.access.sessions
  assignments : Evolves AssignmentStep s.access.assignments t.access.assignments
  recoveryTokens : Evolves TokenStep s.access.recoveryTokens t.access.recoveryTokens
  commands : Evolves CommandStep s.traces.records t.traces.records

section

variable {r s t : AccountStore}

theorem Ends.refl : Ends s s := ⟨.refl, .refl, .refl, .refl⟩

theorem Ends.trans (early : Ends r s) (late : Ends s t) : Ends r t where
  sessions := early.sessions.trans late.sessions
  assignments := early.assignments.trans late.assignments
  recoveryTokens := early.recoveryTokens.trans late.recoveryTokens
  commands := early.commands.trans late.commands

theorem ends_of_change (change : Change config rotation s t) : Ends s t := by
  cases change with
  | sessionUpdated sessions session new stored standing same rows =>
    exact { Ends.refl with
      sessions := .of_replaced rows stored same.sessionId (.single ⟨standing, same⟩) }
  | sessionsRevoked sessions accountId time reason rows =>
    exact { Ends.refl with
      sessions := .of_updated (rows.trans (List.append_nil _).symm) (fun _ => rfl)
        fun _ standing => ⟨standing.2, rfl, rfl, rfl, rfl, rfl⟩ }
  | sessionOpened _ _ _ _ rows
  | sessionRotated _ _ _ _ _ _ rows => exact { Ends.refl with sessions := .of_append rows }
  | assigned _ _ rows => exact { Ends.refl with assignments := .of_append rows }
  | unassigned _ _ actorId time reason stored standing rows =>
    exact { Ends.refl with
      assignments := .of_replaced rows stored rfl
        (.single ⟨standing, actorId, time, reason, rfl⟩) }
  | tokenIssued _ _ _ _ rows =>
    exact { Ends.refl with
      recoveryTokens := .of_updated rows (fun _ => rfl)
        fun old active => ⟨active.2, by simp [RecoveryTokenRecord.superseded], rfl⟩ }
  | tokenSpent _ _ _ stored active inactive tokenId accountId rows =>
    exact { Ends.refl with
      recoveryTokens := .of_replaced rows stored tokenId
        (.single ⟨active, inactive, accountId⟩) }
  | traces _ same => exact { Ends.refl with commands := .of_eq same }
  | reserved _ _ _ rows => exact { Ends.refl with commands := .of_append rows }
  | completed _ _ response time stored isOpen rows =>
    exact { Ends.refl with
      commands := .of_replaced rows stored rfl (.single ⟨isOpen, response, time, rfl⟩) }
  | _ => exact ⟨.refl, .refl, .refl, .refl⟩

end

/-- In any order of account commands and session checks no session, role assignment, recovery token
or completed command that has ended is ever changed again, or disappears, and a session keeps its
account and its absolute expiry. -/
theorem ended_stays (config : AccessConfig) (store : AccountStore) (moves : List Move) :
    Ends store (run (step config) store moves) :=
  run_related (fun _ => .refl) .trans
    (fun _ _ => writes_preserve step_writes
      (fun _ _ change ends => .trans ends (ends_of_change change)) .refl) store moves

end Ayo.Accounts.Changes
