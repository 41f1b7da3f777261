/- digest: What the parts of account commands do to the store. -/

import Ayo.Accounts.Service

namespace Ayo.Accounts.Effects

open Kernel.UnitOfWork Kernel.KeyedTable Kernel.Updates Core.Values PersistenceKernel.Audit
  PersistenceKernel.Idempotency RateLimit.Models Models Repository Service

variable {config : AccessConfig} {call : Call} {s t : AccountStore}

section

variable {α β : Type} {select : AccessStore → α} {f : Unit → Transaction AccountStore Failure β}

theorem query_ok {a : α} : query select s = .ok (a, t) ↔ select s.access = a ∧ s = t := by
  unfold query
  rw [get_bind_ok, pure_ok]

theorem query_bind_ok {f : α → Transaction AccountStore Failure β} {b : β} :
    (query select >>= f) s = .ok (b, t) ↔ f (select s.access) s = .ok (b, t) := by
  rw [bind_ok]
  constructor
  · rintro ⟨a, middle, read, rest⟩
    obtain ⟨rfl, rfl⟩ := query_ok.1 read
    exact rest
  · intro rest
    exact ⟨_, s, query_ok.2 ⟨rfl, rfl⟩, rest⟩

theorem onAccess_ok {body : Transaction AccessStore Failure α} {a : α} :
    onAccess body s = .ok (a, t) ↔
      ∃ access, body s.access = .ok (a, access) ∧ { s with access } = t :=
  within_ok

theorem readOnly_query : ReadOnly (query select) :=
  fun _ _ _ ran => (query_ok.1 ran).2

theorem onTraces_keepsAccess {body : Transaction TraceStore Failure α} :
    Keeps AccountStore.access (onTraces body) := by
  have apart : ∀ (traces : TraceStore) (store : AccountStore),
      AccountStore.access { store with traces } = store.access := fun _ _ => rfl
  exact .within apart body

section

variable {τ : Type} {part : AccessStore → τ}

theorem onAccess_keeps {body : Transaction AccessStore Failure α} (keeps : Keeps part body) :
    Keeps (fun store : AccountStore => part store.access) (onAccess body) := by
  intro s a t ran
  obtain ⟨access, written, rfl⟩ := onAccess_ok.1 ran
  exact keeps _ _ _ written

theorem keeps_of_access {body : Transaction AccountStore Failure α}
    (keeps : Keeps AccountStore.access body) :
    Keeps (fun store : AccountStore => part store.access) body :=
  fun s a t ran => congrArg part (keeps s a t ran)

end

theorem safeReason_bind_ok {reason : String} {b : β} :
    (safeReason reason >>= f) s = .ok (b, t) ↔ isSafeReason reason = true ∧ f () s = .ok (b, t) :=
  require_bind_ok

theorem validatePassword_bind_ok {password : String} {b : β} :
    (validatePassword password >>= f) s = .ok (b, t) ↔
      (12 ≤ password.length ∧ password.length ≤ 128) ∧ f () s = .ok (b, t) :=
  require_bind_ok

theorem securityHash_bind_ok {value : String} {f : Bytes → Transaction AccountStore Failure β}
    {b : β} :
    (securityHash config value >>= f) s = .ok (b, t) ↔
      ∃ digest, config.securityHash = some digest ∧ f (digest value) s = .ok (b, t) := by
  unfold securityHash
  simp only [bind_ok, demand_ok, pure_ok]
  constructor
  · rintro ⟨_, _, ⟨digest, _, ⟨configured, rfl⟩, rfl, rfl⟩, rest⟩
    exact ⟨digest, configured, rest⟩
  · rintro ⟨digest, configured, rest⟩
    exact ⟨_, s, ⟨digest, s, ⟨configured, rfl⟩, rfl, rfl⟩, rest⟩

end

section

def freshRecord (config : AccessConfig) (call : Call) (commandId : Uuid) (scope : String)
    (actor : ActorReference) (material : String) : CommandRecord where
  scope
  actorReference := actor
  idempotencyKey := call.idempotencyKey
  requestHash := config.requestHash material
  commandId
  createdAt := call.instant
  responseReference := none
  completedAt := none

/-- A call can be reserved: it has a command identifier and a key of a proper length. -/
def Reservable (call : Call) : Prop :=
  call.trace.commandId.isSome = true ∧
    8 ≤ call.idempotencyKey.length ∧ call.idempotencyKey.length ≤ 128

variable {scope action : String} {actor : ActorReference} {material : String}
  {reservation : CommandRecord} {actorId : Option Uuid} {index : Nat}

theorem reserveCommand_ok (ran : reserveCommand config call scope actor material s =
      .ok (reservation, t)) :
    Reservable call ∧ t.access = s.access ∧ t.traces.events = s.traces.events ∧
      t.traces.audits = s.traces.audits ∧
      ((s.traces.records.find (scope, actor, call.idempotencyKey) = some reservation ∧
          reservation.requestHash = config.requestHash material ∧ t = s) ∨
        (s.traces.records.find (scope, actor, call.idempotencyKey) = none ∧
          ∃ commandId, reservation = freshRecord config call commandId scope actor material ∧
            t.traces.records.rows = s.traces.records.rows ++ [reservation])) := by
  unfold reserveCommand onTraces at ran
  simp only [steps_ok, within_ok] at ran
  obtain ⟨commandId, given, length, traces, ⟨records, reserves, rfl⟩, rfl⟩ := ran
  have reservable : Reservable call := ⟨by rw [given]; rfl, length⟩
  obtain ⟨found, same, rfl⟩ | ⟨absent, rfl, rows⟩ := reserve_ok reserves
  · exact ⟨reservable, rfl, rfl, rfl, .inl ⟨found, same, rfl⟩⟩
  · exact ⟨reservable, rfl, rfl, rfl, .inr ⟨absent, commandId, rfl, rows⟩⟩

theorem reserveCommand_of_found (reservable : Reservable call)
    (found : s.traces.records.find (scope, actor, call.idempotencyKey) = some reservation)
    (same : reservation.requestHash = config.requestHash material) :
    reserveCommand config call scope actor material s = .ok (reservation, s) := by
  obtain ⟨given, length⟩ := reservable
  obtain ⟨commandId, given⟩ := Option.isSome_iff_exists.1 given
  unfold reserveCommand onTraces
  simp only [steps_ok, within_ok]
  refine ⟨commandId, given, length, s.traces, ⟨s.traces.records, ?_, rfl⟩, rfl⟩
  exact reserve_of_found found same

theorem completeCommand_keepsAccess {response : Reference} :
    Keeps AccountStore.access (completeCommand call reservation response) :=
  onTraces_keepsAccess

theorem audit_keepsAccess {resourceId key : String} {outcome : AuditOutcome}
    {reason : Option String} :
    Keeps AccountStore.access (audit call index action actorId resourceId outcome reason key) :=
  .bind .require fun _ => .bind onTraces_keepsAccess fun _ => .pure

theorem record_keepsAccess {eventType key : String} {aggregateId : Uuid} :
    Keeps AccountStore.access (record config call index eventType aggregateId action actorId key) :=
  .bind (.bind onTraces_keepsAccess fun _ => .pure) fun _ => audit_keepsAccess

end

theorem hash_ok {salt : Nat} {password verifier : String} :
    Service.hash config salt password s = .ok (verifier, t) ↔
      (12 ≤ password.length ∧ password.length ≤ 1024) ∧
        config.hashPassword salt password = verifier ∧ s = t := by
  unfold Service.hash
  rw [require_bind_ok, pure_ok]

section

variable {access result : AccessStore} {time : Instant} {u : Unit} {session : AccountSession}
  {assignment returned : AccountRoleAssignment} {allowed : Bool}

theorem replaceCredential_ok {credential : PasswordCredential}
    (ran : replaceCredential credential time access = .ok (u, result)) :
    ∃ credentials, result = { access with credentials } ∧
      credentials.rows = access.credentials.rows.map
        (updateWhere (PasswordCredential.ActiveOf credential.accountId)
          (PasswordCredential.superseded time)) ++ [credential] := by
  unfold replaceCredential at ran
  simp only [steps_ok, Table.rewrite?_eq_some, Table.insert?_eq_some] at ran
  obtain ⟨superseded, rows, credentials, inserted, rfl⟩ := ran
  exact ⟨credentials, rfl, by rw [inserted, rows]⟩

theorem updateAccount_ok {account returned : IdentityAccount}
    {change : IdentityAccount → IdentityAccount} {failure : Failure}
    (ran : updateAccount account change failure access = .ok (returned, result)) :
    ∃ old accounts, access.accounts.find account.accountId = some old ∧
      returned = change old ∧ result = { access with accounts } ∧
      accounts.rows = access.accounts.replaced (change old) := by
  unfold updateAccount at ran
  simp only [steps_ok, Option.filter_eq_some_iff, Table.replace?_eq_some] at ran
  obtain ⟨old, ⟨found, _⟩, accounts, rows, rfl, rfl⟩ := ran
  exact ⟨old, accounts, found, rfl, rfl, rows⟩

theorem updateSession_ok {returned : AccountSession} {change : AccountSession → AccountSession}
    (ran : updateSession session change access = .ok (returned, result)) :
    ∃ old sessions, access.sessions.find session.sessionId = some old ∧
      old.version = session.version ∧ old.revokedAt = none ∧ returned = change old ∧
      result = { access with sessions } ∧
      sessions.rows = access.sessions.replaced (change old) := by
  unfold updateSession at ran
  simp only [steps_ok, Option.filter_eq_some_iff, Table.replace?_eq_some, decide_eq_true_eq] at ran
  obtain ⟨old, ⟨found, version, standing⟩, sessions, rows, rfl, rfl⟩ := ran
  exact ⟨old, sessions, found, version, standing, rfl, rfl, rows⟩

theorem createSession_ok (ran : createSession session access = .ok (u, result)) :
    ∃ sessions, result = { access with sessions } ∧
      sessions.rows = access.sessions.rows ++ [session] := by
  unfold createSession at ran
  simp only [steps_ok, Table.insert?_eq_some] at ran
  obtain ⟨sessions, rows, rfl⟩ := ran
  exact ⟨sessions, rfl, rows⟩

theorem revokeAllSessions_ok {accountId : Uuid} {reason : String} {revoked : List Uuid}
    (ran : Repository.revokeAllSessions accountId time reason access = .ok (revoked, result)) :
    ∃ sessions, result = { access with sessions } ∧ sessions.rows = access.sessions.rows.map
        (updateWhere (AccountSession.StandingOf accountId) (.revoke time reason)) ∧
      revoked = (access.sessions.rows.filter fun row => decide (row.StandingOf accountId)).map
        AccountSession.sessionId := by
  unfold Repository.revokeAllSessions at ran
  simp only [steps_ok, Table.rewrite?_eq_some] at ran
  obtain ⟨sessions, rows, rfl, rfl⟩ := ran
  exact ⟨sessions, rfl, rows, rfl⟩

theorem assignRole_ok (ran : Repository.assignRole assignment access = .ok (returned, result)) :
    returned = assignment ∧ ∃ assignments, result = { access with assignments } ∧
      assignments.rows = access.assignments.rows ++ [assignment] := by
  unfold Repository.assignRole at ran
  simp only [steps_ok, Table.insert?_eq_some] at ran
  obtain ⟨_, assignments, rows, rfl, rfl⟩ := ran
  exact ⟨rfl, assignments, rfl, rows⟩

theorem revokeAssignment_ok {actorId : Uuid} {reason : String}
    (ran : revokeAssignment assignment actorId time reason access = .ok (returned, result)) :
    ∃ old assignments, access.assignments.find assignment.assignmentId = some old ∧
      old.revokedAt = none ∧ returned = old.revoked actorId time reason ∧
      result = { access with assignments } ∧
      assignments.rows = access.assignments.replaced returned := by
  unfold revokeAssignment at ran
  simp only [steps_ok, Option.filter_eq_some_iff, Table.replace?_eq_some, decide_eq_true_eq] at ran
  obtain ⟨_, old, ⟨found, _, standing⟩, assignments, rows, rfl, rfl⟩ := ran
  exact ⟨old, assignments, found, standing, rfl, rfl, rows⟩

theorem createRecoveryToken_ok {record : RecoveryTokenRecord} {supersedeAt : Instant}
    (ran : createRecoveryToken record supersedeAt access = .ok (u, result)) :
    ∃ recoveryTokens, result = { access with recoveryTokens } ∧
      recoveryTokens.rows = access.recoveryTokens.rows.map
        (updateWhere (RecoveryTokenRecord.ActiveOf record.accountId)
          (RecoveryTokenRecord.superseded supersedeAt)) ++ [record] := by
  unfold createRecoveryToken at ran
  simp only [steps_ok, Table.rewrite?_eq_some, Table.insert?_eq_some] at ran
  obtain ⟨superseded, rows, recoveryTokens, inserted, rfl⟩ := ran
  exact ⟨recoveryTokens, rfl, by rw [inserted, rows]⟩

theorem transitionRecovery_ok {record returned : RecoveryTokenRecord}
    {change : RecoveryTokenRecord → RecoveryTokenRecord}
    (ran : transitionRecovery record change access = .ok (returned, result)) :
    ∃ old recoveryTokens, access.recoveryTokens.find record.tokenId = some old ∧
      old.version = record.version ∧ old.state = .active ∧ returned = change old ∧
      result = { access with recoveryTokens } ∧
      recoveryTokens.rows = access.recoveryTokens.replaced (change old) := by
  unfold transitionRecovery at ran
  simp only [steps_ok, Option.filter_eq_some_iff, Table.replace?_eq_some, decide_eq_true_eq] at ran
  obtain ⟨old, ⟨found, version, active⟩, recoveryTokens, rows, rfl, rfl⟩ := ran
  exact ⟨old, recoveryTokens, found, version, active, rfl, rfl, rows⟩

theorem consumeOriginAttempt_ok {originHash : Bytes} {window : Int} {limit : Nat}
    (ran : consumeOriginAttempt originHash time window limit access = .ok (allowed, result)) :
    ∃ origins, result = { access with origins } := by
  unfold consumeOriginAttempt at ran
  rw [get_bind_ok] at ran
  obtain ⟨row, _, ran⟩ | ⟨_, ran⟩ := whenSome_ok.1 ran
  · simp only [steps_ok] at ran
    obtain ⟨origins, _, _, rfl⟩ := ran
    exact ⟨origins, rfl⟩
  · simp only [steps_ok] at ran
    obtain ⟨origins, _, _, rfl⟩ := ran
    exact ⟨origins, rfl⟩

theorem originAllows_ok {clientOrigin : Option String}
    (ran : originAllows config call clientOrigin s = .ok (allowed, t)) :
    ∃ origins, t.access = { s.access with origins } := by
  unfold originAllows at ran
  obtain ⟨origin, _, ran⟩ | ⟨_, ran⟩ := whenSome_ok.1 ran
  · obtain ⟨digest, _, ran⟩ := demand_bind_ok.1 ran
    obtain ⟨access, consumed, rfl⟩ := onAccess_ok.1 ran
    obtain ⟨origins, rfl⟩ := consumeOriginAttempt_ok consumed
    exact ⟨origins, rfl⟩
  · obtain ⟨_, rfl⟩ := pure_ok.1 ran
    exact ⟨s.access.origins, rfl⟩

end

section

variable {accountId : Uuid} {reservation : CommandRecord}

theorem throttleAuthentication_keepsAccess :
    Keeps AccountStore.access (throttleAuthentication call reservation) :=
  .bind audit_keepsAccess fun _ => .bind completeCommand_keepsAccess fun _ => .pure

theorem upgradeCredential_keeps {τ : Type} {part : AccessStore → τ}
    (apart : ∀ access credentials, part { access with credentials } = part access)
    {credential : PasswordCredential} {password : String} :
    Keeps (fun store : AccountStore => part store.access)
      (upgradeCredential config call accountId credential password) := by
  refine .ite (.bind ?_ fun _ => .bind (onAccess_keeps ?_) fun _ =>
    keeps_of_access record_keepsAccess) .pure
  · exact .bind .require fun _ => .pure
  · intro s a t ran
    obtain ⟨credentials, rfl, _⟩ := replaceCredential_ok ran
    exact apart s credentials

end
end Ayo.Accounts.Effects
