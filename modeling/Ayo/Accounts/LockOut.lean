/- digest: Wrong passwords lock an account, as long as each of them can be traced. -/

import Ayo.Accounts.Effects
import Ayo.Accounts.System

namespace Ayo.Accounts.ReplayedLogins

open Kernel.UnitOfWork Kernel.Run Core.Values Models Repository Service Accounts.System Effects

variable (config : AccessConfig)

/-- The account is active, and the password verifies against its active credential. -/
def Vouched (store : AccountStore) (accountId : Uuid) (password : String) : Prop :=
  ∃ account credential, getAccount store.access accountId = some account ∧
    account.state = .active ∧ activeCredential store.access accountId = some credential ∧
    config.verifyPassword credential.verifier password = true

/-- The key of the call belongs to an authentication that was answered with a session. -/
def ReplaysLogin (store : AccountStore) (call : Call) (accountId : Uuid) : Prop :=
  Reservable call ∧ ∃ record ∈ store.traces.records.find
      ("identity.authenticate", .account accountId, call.idempotencyKey),
    record.requestHash = config.requestHash (toString accountId) ∧
      ∃ sessionId, record.completedAt.isSome = true ∧
        record.responseReference = some (.session sessionId)

/-- Every positive answer to an authentication is vouched for by the password presented. -/
def NeedsPassword (store : AccountStore) (call : Call) (accountId : Uuid) : Prop :=
  ∀ password clientReference clientOrigin result after,
    authenticate config call accountId password clientReference clientOrigin store =
      .ok (result, after) →
    result.authenticated = true → Vouched config store accountId password

variable {config : AccessConfig} {call : Call} {store after : AccountStore} {accountId : Uuid}
  {password : String} {result : AuthenticationResult} {reservation : CommandRecord}

theorem admitted_ok {accepted : IdentityAccount × PasswordCredential}
    (admits : admitted config store.access accountId password = some accepted) :
    getAccount store.access accountId = some accepted.1 ∧ accepted.1.state = .active ∧
      activeCredential store.access accountId = some accepted.2 ∧
      config.verifyPassword accepted.2.verifier password = true := by
  unfold admitted at admits
  cases held : getAccount store.access accountId with
  | none => simp [held] at admits
  | some account =>
    cases active : activeCredential store.access accountId with
    | none => simp [held, active] at admits
    | some credential =>
      simp only [held, active, Option.bind_some, Option.map_some, Option.getD_some,
        Option.ite_none_right_eq_some] at admits
      obtain ⟨⟨verified, standing⟩, same⟩ := admits
      cases same
      exact ⟨rfl, standing, rfl, verified⟩

theorem denyAuthentication_ok
    (ran : denyAuthentication config call reservation accountId store = .ok (result, after)) :
    result = .failed := by
  unfold denyAuthentication at ran
  rw [query_bind_ok] at ran
  obtain ⟨_, _, _, ran⟩ := bind_ok.1 ran
  obtain ⟨_, _, _, ran⟩ := bind_ok.1 ran
  obtain ⟨_, _, _, returned⟩ := bind_ok.1 ran
  exact (pure_ok.1 returned).1.symm

theorem throttleAuthentication_ok
    (ran : throttleAuthentication call reservation store = .ok (result, after)) :
    result = .failed := by
  unfold throttleAuthentication at ran
  obtain ⟨_, _, _, ran⟩ := bind_ok.1 ran
  obtain ⟨_, _, _, returned⟩ := bind_ok.1 ran
  exact (pure_ok.1 returned).1.symm

theorem authenticated_cases {clientReference : Option (BoundedText 1 128)}
    {clientOrigin : Option String}
    (ran : authenticate config call accountId password clientReference clientOrigin store =
      .ok (result, after)) (positive : result.authenticated = true) :
    ReplaysLogin config store call accountId ∨ Vouched config store accountId password := by
  unfold authenticate at ran
  obtain ⟨reservation, reserved, reserves, ran⟩ := bind_ok.1 ran
  obtain ⟨reservable, access, _, _, origin⟩ := reserveCommand_ok reserves
  obtain ⟨answer, completed, returned⟩ | ⟨_, ran⟩ := whenSome_ok.1 ran
  · obtain ⟨rfl, rfl⟩ := pure_ok.1 returned
    obtain ⟨time, done, same⟩ := Option.map_eq_some_iff.1 completed
    obtain ⟨found, hash, _⟩ | ⟨_, _, rfl, _⟩ := origin
    · refine .inl ⟨reservable, reservation, found, hash, ?_⟩
      cases named : reservation.responseReference with
      | none =>
        rw [named] at same
        rw [← same] at positive
        cases positive
      | some reference =>
        rw [named] at same
        cases reference with
        | session sessionId => exact ⟨sessionId, by rw [done]; rfl, rfl⟩
        | _ =>
          rw [← same] at positive
          cases positive
    · cases done
  · obtain ⟨allowed, middle, counts, ran⟩ := bind_ok.1 ran
    obtain ⟨origins, counted⟩ := originAllows_ok counts
    obtain ⟨_, ran⟩ | ⟨_, throttled⟩ := ite_ok.1 ran
    · rw [query_bind_ok] at ran
      obtain ⟨accepted, admits, _⟩ | ⟨_, denied⟩ := whenSome_ok.1 ran
      · obtain ⟨held, active, old, verified⟩ := admitted_ok admits
        rw [counted, access] at held old
        exact .inr ⟨_, _, held, active, old, verified⟩
      · rw [denyAuthentication_ok denied] at positive
        cases positive
    · rw [throttleAuthentication_ok throttled] at positive
      cases positive

theorem authenticate_of_replay (replays : ReplaysLogin config store call accountId)
    (password : String) (clientReference : Option (BoundedText 1 128))
    (clientOrigin : Option String) :
    ∃ result, authenticate config call accountId password clientReference clientOrigin store =
      .ok (result, store) ∧ result.authenticated = true := by
  obtain ⟨reservable, record, found, hash, sessionId, completed, named⟩ := replays
  obtain ⟨time, completed⟩ := Option.isSome_iff_exists.1 completed
  refine ⟨.succeeded sessionId, ?_, rfl⟩
  unfold authenticate
  refine bind_ok.2 ⟨record, store, reserveCommand_of_found reservable found hash, ?_⟩
  refine whenSome_ok.2 (.inl ⟨.succeeded sessionId, ?_, pure_ok.2 ⟨rfl, rfl⟩⟩)
  unfold replayedAuthentication
  rw [completed, named]
  rfl

/-- In every state of every run, authentication under a key needs the password exactly when the key
does not belong to an earlier login, or every password is the right one. -/
theorem authentication_needs_password_iff (config : AccessConfig) (moves : List Move) (call : Call)
    (accountId : Uuid) :
    let store := run (step config) .empty moves
    NeedsPassword config store call accountId ↔
      ¬ ReplaysLogin config store call accountId ∨
        ∀ password, Vouched config store accountId password := by
  intro store
  constructor
  · intro needs
    by_cases replays : ReplaysLogin config store call accountId
    · refine .inr fun password => ?_
      obtain ⟨result, success, positive⟩ := authenticate_of_replay replays password none none
      exact needs password none none result store success positive
    · exact .inl replays
  · intro condition password clientReference clientOrigin result after success positive
    obtain replays | vouched := authenticated_cases success positive
    · obtain other | every := condition
      · exact absurd replays other
      · exact every password
    · exact vouched

/-- A login is repeated under its key after the account was suspended, with another password, and is
answered positively again. -/
theorem replayed_login_needs_no_password :
    let store := run (step sampleConfig) .empty
      (sampleAccount 1 ++
        [.command (.authenticate 1 "twelve-letters" none none) (sampleCall 2 "login-of-1" 1),
          .compatibilityTransition 1 .suspended 2])
    ¬ NeedsPassword sampleConfig store (sampleCall 3 "login-of-1" 3) 1 := by
  intro store needs
  have success : ((authenticate sampleConfig (sampleCall 3 "login-of-1" 3) 1 "another-password"
      none none store).map fun outcome => outcome.1.authenticated) = .ok true := by
    decide +kernel
  cases outcome : authenticate sampleConfig (sampleCall 3 "login-of-1" 3) 1 "another-password"
      none none store with
  | error failure => simp [outcome, Except.map] at success
  | ok outcome' =>
    obtain ⟨result, after⟩ := outcome'
    have positive : result.authenticated = true := by simpa [outcome, Except.map] using success
    obtain ⟨account, credential, stored, active, _⟩ := needs _ none none _ _ outcome positive
    have suspended : (getAccount store.access 1).map IdentityAccount.state = some .suspended := by
      decide +kernel
    rw [stored] at suspended
    simp [active] at suspended

end Ayo.Accounts.ReplayedLogins

namespace Ayo.Accounts.LockOut

open Kernel.UnitOfWork Kernel.KeyedTable Kernel.Run Core.Values PersistenceKernel.Audit
  PersistenceKernel.Idempotency Models Repository Service Accounts.System Effects
  ReplayedLogins

/-- A call of `authenticate`. -/
structure Attempt where
  accountId : Uuid
  password : String
  clientReference : Option (BoundedText 1 128)
  clientOrigin : Option String
  call : Call

variable (config : AccessConfig) (accountId : Uuid)

def Attempt.body (attempt : Attempt) : Transaction AccountStore Failure AuthenticationResult :=
  authenticate config attempt.call attempt.accountId attempt.password attempt.clientReference
    attempt.clientOrigin

def after (store : AccountStore) (attempt : Attempt) : AccountStore :=
  commit (attempt.body config) store

def Attempt.verdict (attempt : Attempt) : Transaction AccountStore Failure Bool := do
  let reservation ← reserveCommand config attempt.call "identity.authenticate"
    (.account attempt.accountId) (toString attempt.accountId)
  whenSome (replayedAuthentication reservation) (fun _ => pure false) do
    let allowed ← originAllows config attempt.call attempt.clientOrigin
    query fun store =>
      allowed && (admitted config store attempt.accountId attempt.password).isNone &&
        (getAccount store attempt.accountId).any fun account => decide (account.state = .active)

/-- The attempt comes to a wrong password of the account. -/
def ChecksWrong (store : AccountStore) (attempt : Attempt) : Prop :=
  attempt.accountId = accountId ∧
    (attempt.verdict config store).toOption.map Prod.fst = some true
deriving Decidable

def Succeeds (store : AccountStore) (attempt : Attempt) : Prop :=
  attempt.accountId = accountId ∧
    ∃ answer ∈ (attempt.body config store).toOption, answer.1.authenticated = true
deriving Decidable

def AuditFree (log : AuditLog) (eventId : Uuid) (action key : String) : Prop :=
  ∀ event ∈ log.rows, event.eventId ≠ eventId ∧ event.name ≠ some ("identity_access", action, key)
deriving Decidable

def DenialFree (traces : TraceStore) (call : Call) : Prop :=
  AuditFree traces.audits (call.draws.auditId 1) "identity.authentication.denied"
    ("deny-" ++ call.idempotencyKey)
deriving Decidable

/-- The ids and the derived keys of the events that tell of a lock are new. -/
def LockTraceable (traces : TraceStore) (call : Call) : Prop :=
  let digest := config.keyDigest ("lock-" ++ call.idempotencyKey)
  8 ≤ ("audit-" ++ digest).length ∧ ("audit-" ++ digest).length ≤ 128 ∧
    (∀ event ∈ traces.events.events.rows, event.eventId ≠ call.draws.eventId 0 ∧
      event.idempotencyKey ≠ some ("event-" ++ digest)) ∧
    (∀ row ∈ traces.events.outbox.rows, row.eventId ≠ call.draws.eventId 0) ∧
    call.draws.auditId 0 ≠ call.draws.auditId 1 ∧
    AuditFree traces.audits (call.draws.auditId 0) "identity.account.locked" ("audit-" ++ digest)
deriving Decidable

/-- A denial under the key of the call can be traced: the key is a new one of at most 123
characters, as are the events that tell of the denial, and of its lock if there is one. -/
def Traceable (store : AccountStore) (attempt : Attempt) : Prop :=
  let call := attempt.call
  call.idempotencyKey.length ≤ 123 ∧
    store.traces.records.find
      ("identity.authenticate", .account attempt.accountId, call.idempotencyKey) = none ∧
    DenialFree store.traces call ∧
    ∀ account ∈ getAccount store.access attempt.accountId,
      config.failedAttemptLimit ≤ account.failures call.instant config.failedAttemptWindow →
        LockTraceable config store.traces call
deriving Decidable

def missed (time : Instant) (account : IdentityAccount) : IdentityAccount :=
  account.failed time config.failedAttemptLimit config.failedAttemptWindow

variable {config : AccessConfig} {accountId : Uuid} {attempt : Attempt} {s t : AccountStore}

section

variable {call : Call}

theorem onTraces_ok {α : Type} {body : Transaction TraceStore Failure α} {a : α} {m : TraceStore}
    (ran : body s.traces = .ok (a, m)) : onTraces body s = .ok (a, { s with traces := m }) :=
  within_ok.2 ⟨m, ran, rfl⟩

theorem identity_valid {action : String} (safe : isSafeString action = true) :
    ValidSafeMetadata [("category", .text "identity"), ("operation", .text action)] := by
  refine ⟨Nat.le_add_left 2 10, ?_⟩
  simp only [List.forall_mem_cons, SafeAuditValue.isSafe, safe, and_true]
  exact ⟨by decide, by decide, List.forall_mem_nil _⟩

theorem audit_of_free {index : Nat} {action resourceId key : String} {actorId : Option Uuid}
    {outcome : AuditOutcome} {reason : Option String} (safe : isSafeString action = true)
    (least : 8 ≤ key.length) (most : key.length ≤ 128)
    (free : AuditFree s.traces.audits (call.draws.auditId index) action key) :
    ∃ audits, audit call index action actorId resourceId outcome reason key s =
        .ok ((), { s with traces := { s.traces with audits } }) ∧
      ∀ eventId other otherKey, AuditFree s.traces.audits eventId other otherKey →
        call.draws.auditId index ≠ eventId → action ≠ other →
          AuditFree audits eventId other otherKey := by
  refine Exists.imp (fun audits appended => ⟨bind_ok.2 ⟨(), s, require_ok.2 ⟨⟨least, most⟩, rfl⟩,
    bind_ok.2 ⟨_, _, onTraces_ok (within_ok.2 ⟨audits, appended.1, rfl⟩), pure_ok.2 ⟨rfl, rfl⟩⟩⟩,
    ?_⟩) (append_of_free (identity_valid safe) ?_)
  · intro eventId other otherKey others ids actions event held
    obtain held | rfl := (mem_appended appended.2).1 held
    · exact others event held
    · refine ⟨ids, fun same => actions ?_⟩
      injection same with same
      injection same with _ same
      injection same
  · rintro other held (same | ⟨_, same⟩)
    · exact (free other held).1 same
    · exact (free other held).2 same

theorem locked_of_traceable (traceable : LockTraceable config s.traces call)
    (free : DenialFree s.traces call) :
    ∃ traces, record config call 0 "identity.account_locked" accountId "identity.account.locked"
        none ("lock-" ++ call.idempotencyKey) s = .ok ((), { s with traces }) ∧
      traces.records = s.traces.records ∧ DenialFree traces call := by
  obtain ⟨least, most, newEvent, newRow, ids, newAudit⟩ := traceable
  have appended : ∃ events, appendEvent call 0 "identity.account_locked" accountId
      ("event-" ++ config.keyDigest ("lock-" ++ call.idempotencyKey)) s =
        .ok ((), { s with traces := { s.traces with events } }) := by
    refine Exists.imp (fun events ran => bind_ok.2 ⟨_, _,
      onTraces_ok (within_ok.2 ⟨events, ran, rfl⟩), pure_ok.2 ⟨rfl, rfl⟩⟩)
      (PersistenceKernel.Outbox.append_of_free ?_ newRow)
    rintro other held (same | same)
    · exact (newEvent other held).1 same
    · exact (newEvent other held).2 same.2.2.2.2.2
  obtain ⟨events, appended⟩ := appended
  obtain ⟨audits, audited, kept⟩ := audit_of_free
    (s := { s with traces := { s.traces with events } }) (by decide) least most newAudit
  exact ⟨_, bind_ok.2 ⟨(), _, appended, audited⟩, rfl, kept _ _ _ free ids (by decide)⟩

end

section

variable {call : Call} {reservation : CommandRecord} {account : IdentityAccount}
  {result : AuthenticationResult}

theorem recorded_of_held (held : getAccount s.access accountId = some account) (time : Instant) :
    ∃ accounts, onAccess (recordFailedAttempt account time config.failedAttemptLimit
        config.failedAttemptWindow) s =
      .ok (missed config time account, { s with access := { s.access with accounts } }) := by
  obtain ⟨accounts, rows⟩ := s.access.accounts.exists_replaced (missed config time account)
    fun _ _ => id
  refine ⟨accounts, onAccess_ok.2 ⟨_, get_bind_ok.2 (demand_bind_ok.2 ⟨account, ?_, demand_bind_ok.2
    ⟨accounts, Table.replace?_eq_some.2 rows, put_bind_ok.2 (pure_ok.2 ⟨rfl, rfl⟩)⟩⟩), rfl⟩⟩
  have own : account.accountId = accountId := Table.key_of_find held
  rw [own]
  exact Option.filter_eq_some_iff.2 ⟨held, decide_eq_true rfl⟩

theorem exists_denied (held : getAccount s.access accountId = some account)
    (active : account.state = .active) (least : 8 ≤ call.idempotencyKey.length)
    (short : call.idempotencyKey.length ≤ 123)
    (found : s.traces.records.find reservation.name = some reservation)
    (isOpen : reservation.completedAt = none) (created : reservation.createdAt = call.instant)
    (free : DenialFree s.traces call)
    (lock : config.failedAttemptLimit ≤ account.failures call.instant config.failedAttemptWindow →
      LockTraceable config s.traces call) :
    ∃ t, denyAuthentication config call reservation accountId s = .ok (.failed, t) := by
  obtain ⟨accounts, recorded⟩ := recorded_of_held held call.instant
  have denial : ∃ traces, (if (missed config call.instant account).state = .locked then
        record config call 0 "identity.account_locked" accountId "identity.account.locked" none
          ("lock-" ++ call.idempotencyKey)
      else pure ()) { s with access := { s.access with accounts } } =
        .ok ((), { access := { s.access with accounts }, traces }) ∧
      traces.records = s.traces.records ∧ DenialFree traces call := by
    split
    next locked =>
      refine locked_of_traceable (s := { s with access := { s.access with accounts } }) (lock ?_) free
      by_contra few
      simp [missed, IdentityAccount.failed, few, active] at locked
    next => exact ⟨s.traces, pure_ok.2 ⟨rfl, rfl⟩, rfl, free⟩
  obtain ⟨traces, locked, records, free⟩ := denial
  have length : ("deny-" ++ call.idempotencyKey).length = 5 + call.idempotencyKey.length :=
    String.length_append _ _
  obtain ⟨audits, audited, _⟩ := audit_of_free
    (s := { access := { s.access with accounts }, traces }) (by decide) (by omega) (by omega) free
  obtain ⟨completed, completes⟩ := complete_of_open found ⟨rfl, isOpen⟩ Reference.denied created.le
  rw [← records] at completes
  refine ⟨_, query_bind_ok.2 (bind_ok.2 ⟨(), _, whenSome_ok.2 (.inl ⟨account, ?_, bind_ok.2
    ⟨_, _, recorded, locked⟩⟩), bind_ok.2 ⟨(), _, audited, bind_ok.2 ⟨(), _, onTraces_ok
      (within_ok.2 ⟨completed, completes, rfl⟩), pure_ok.2 ⟨rfl, rfl⟩⟩⟩⟩)⟩
  rw [held, Option.filter_some, if_pos (decide_eq_true active)]

theorem account_of_denied {other : Uuid}
    (ran : denyAuthentication config call reservation accountId s = .ok (result, t)) :
    getAccount t.access other = (getAccount s.access other).map fun account =>
      if other = accountId ∧ account.state = .active then missed config call.instant account
      else account := by
  unfold denyAuthentication at ran
  rw [query_bind_ok] at ran
  obtain ⟨_, counted, counts, ran⟩ := bind_ok.1 ran
  obtain ⟨_, _, audits, ran⟩ := bind_ok.1 ran
  obtain ⟨_, _, completes, returned⟩ := bind_ok.1 ran
  obtain ⟨_, rfl⟩ := pure_ok.1 returned
  rw [completeCommand_keepsAccess _ _ _ completes, audit_keepsAccess _ _ _ audits]
  obtain ⟨account, chosen, ran⟩ | ⟨inactive, ran⟩ := whenSome_ok.1 counts
  · obtain ⟨held, active⟩ := Option.filter_eq_some_iff.1 chosen
    obtain ⟨updated, failed, fails, ran⟩ := bind_ok.1 ran
    have kept : counted.access = failed.access := by
      obtain ⟨_, ran⟩ | ⟨_, ran⟩ := ite_ok.1 ran
      · exact record_keepsAccess _ _ _ ran
      · rw [(pure_ok.1 ran).2]
    obtain ⟨_, wrote, rfl⟩ := onAccess_ok.1 fails
    obtain ⟨old, accounts, found, _, rfl, rows⟩ := updateAccount_ok wrote
    have own : account.accountId = accountId := Table.key_of_find held
    rw [own] at found
    obtain rfl := Option.some.inj (held.symm.trans found)
    rw [kept]
    refine (Table.find_of_rows_replaced rows other).trans ?_
    by_cases same : other = accountId
    · refine (if_pos (same.trans own.symm)).trans ?_
      change (getAccount s.access other).map _ = _
      simp [same, held, of_decide_eq_true active, missed]
    · refine (if_neg fun named => same (named.trans own)).trans ?_
      simp [same, getAccount]
  · obtain ⟨_, rfl⟩ := pure_ok.1 ran
    cases held : getAccount s.access other with
    | none => rfl
    | some account =>
      have stays : ¬ (other = accountId ∧ account.state = .active) := by
        rintro ⟨rfl, active⟩
        simp [held, active] at inactive
      rw [Option.map_some, if_neg stays]

theorem account_of_admitted {password : String} {clientReference : Option (BoundedText 1 128)}
    {credential : PasswordCredential} {other : Uuid}
    (ran : admitAuthentication config call reservation account credential password clientReference
      s = .ok (result, t)) :
    result.authenticated = true ∧
      (other ≠ account.accountId → getAccount t.access other = getAccount s.access other) := by
  unfold admitAuthentication at ran
  obtain ⟨_, reset, resets, ran⟩ := bind_ok.1 ran
  obtain ⟨_, upgraded, upgrades, ran⟩ := bind_ok.1 ran
  obtain ⟨_, opened, opens, ran⟩ := bind_ok.1 ran
  obtain ⟨_, recorded, records, ran⟩ := bind_ok.1 ran
  obtain ⟨_, completed, completes, returned⟩ := bind_ok.1 ran
  obtain ⟨rfl, rfl⟩ := pure_ok.1 returned
  refine ⟨rfl, fun others => ?_⟩
  rw [completeCommand_keepsAccess _ _ _ completes, record_keepsAccess _ _ _ records]
  obtain ⟨_, created, rfl⟩ := onAccess_ok.1 opens
  obtain ⟨sessions, rfl, _⟩ := createSession_ok created
  have upgradedSame : upgraded.access.accounts = reset.access.accounts :=
    upgradeCredential_keeps (fun _ _ => rfl) _ _ _ upgrades
  change upgraded.access.accounts.find other = _
  rw [upgradedSame]
  obtain ⟨_, wrote, rfl⟩ := onAccess_ok.1 resets
  obtain ⟨_, ran⟩ | ⟨_, ran⟩ := ite_ok.1 wrote
  · obtain ⟨_, rfl⟩ := pure_ok.1 ran
    rfl
  · obtain ⟨old, accounts, found, _, rfl, rows⟩ := updateAccount_ok ran
    have own : old.accountId = account.accountId := Table.key_of_find found
    exact (Table.find_of_rows_replaced rows other).trans
      (if_neg fun same => others (same.trans own))

end

theorem checksWrong_iff : ChecksWrong config accountId s attempt ↔
    attempt.accountId = accountId ∧ ∃ reservation reserved counted account,
      reserveCommand config attempt.call "identity.authenticate" (.account attempt.accountId)
        (toString attempt.accountId) s = .ok (reservation, reserved) ∧
      replayedAuthentication reservation = none ∧
      originAllows config attempt.call attempt.clientOrigin reserved = .ok (true, counted) ∧
      admitted config counted.access attempt.accountId attempt.password = none ∧
      getAccount counted.access attempt.accountId = some account ∧ account.state = .active := by
  have ends : (attempt.verdict config s).toOption.map Prod.fst = some true ↔
      ∃ t, attempt.verdict config s = .ok (true, t) := by
    cases attempt.verdict config s with
    | error => simp [Except.toOption]
    | ok => simp [Except.toOption, Prod.ext_iff]
  unfold ChecksWrong
  rw [ends]
  unfold Attempt.verdict
  simp only [bind_ok, whenSome_ok, query_ok, pure_ok, Bool.and_eq_true, Option.any_eq_true,
    Option.isNone_iff_eq_none, decide_eq_true_eq]
  constructor
  · rintro ⟨own, _, reservation, reserved, reserves, ⟨_, _, absurd, _⟩ |
      ⟨fresh, allowed, counted, allows, ⟨⟨rfl, refused⟩, account, held, active⟩, _⟩⟩
    · cases absurd
    · exact ⟨own, reservation, reserved, counted, account, reserves, fresh, allows, refused, held,
        active⟩
  · rintro ⟨own, reservation, reserved, counted, account, reserves, fresh, allows, refused, held,
      active⟩
    exact ⟨own, counted, reservation, reserved, reserves, .inr ⟨fresh, true, counted, allows,
      ⟨⟨rfl, refused⟩, account, held, active⟩, rfl⟩⟩

theorem originAllows_keepsTraces {call : Call} {clientOrigin : Option String} :
    Keeps AccountStore.traces (originAllows config call clientOrigin) := by
  refine .whenSome (fun origin => .bind .demand fun digest => ?_) .pure
  intro s a t ran
  obtain ⟨_, _, rfl⟩ := onAccess_ok.1 ran
  rfl

theorem failed_of_checksWrong (wrong : ChecksWrong config accountId s attempt)
    (traceable : Traceable config s attempt) :
    ∃ account, getAccount s.access accountId = some account ∧ account.state = .active ∧
      getAccount (after config s attempt).access accountId =
        some (missed config attempt.call.instant account) := by
  obtain ⟨rfl, reservation, reserved, counted, account, reserves, fresh, allows, refused, held,
    active⟩ := checksWrong_iff.1 wrong
  obtain ⟨short, unused, free, lock⟩ := traceable
  obtain ⟨reservable, access, events, audits, ⟨found, _⟩ | ⟨_, commandId, rfl, rows⟩⟩ :=
    reserveCommand_ok reserves
  · rw [unused] at found
    cases found
  obtain ⟨origins, counts⟩ := originAllows_ok allows
  have traces : counted.traces = reserved.traces := originAllows_keepsTraces _ _ _ allows
  have stored : getAccount s.access attempt.accountId = some account := by
    rw [counts, access] at held
    exact held
  obtain ⟨t, denies⟩ := exists_denied held active reservable.2.1 short
    (by rw [traces]; exact Table.find_of_inserted rows) rfl rfl (by rwa [DenialFree, traces, audits])
    (fun locks => by
      have traceable := lock account stored locks
      unfold LockTraceable at traceable ⊢
      rwa [traces, events, audits])
  have ran : attempt.body config s = .ok (.failed, t) := bind_ok.2 ⟨_, _, reserves, whenSome_ok.2
    (.inr ⟨fresh, bind_ok.2 ⟨true, counted, allows, ite_ok.2 (.inl ⟨rfl, query_bind_ok.2
      (whenSome_ok.2 (.inr ⟨refused, denies⟩))⟩)⟩⟩)⟩
  refine ⟨account, stored, active, ?_⟩
  rw [after, commit_of_ok ran, account_of_denied denies, held, Option.map_some,
    if_pos ⟨rfl, active⟩]

theorem kept_of_unchecked (refused : ¬ Succeeds config accountId s attempt)
    (unchecked : ¬ ChecksWrong config accountId s attempt) :
    getAccount (after config s attempt).access accountId = getAccount s.access accountId := by
  obtain stays | ⟨result, ran⟩ := commit_cases (attempt.body config) s
  · rw [after, stays]
  change attempt.body config s = .ok (result, after config s attempt) at ran
  generalize after config s attempt = t at ran ⊢
  have negative : attempt.accountId = accountId → result.authenticated = true → False :=
    fun own positive => refused ⟨own, (result, t), by rw [ran]; rfl, positive⟩
  unfold Attempt.body authenticate at ran
  obtain ⟨reservation, reserved, reserves, ran⟩ := bind_ok.1 ran
  obtain ⟨_, access, _⟩ := reserveCommand_ok reserves
  rw [← access]
  obtain ⟨_, _, ran⟩ | ⟨fresh, ran⟩ := whenSome_ok.1 ran
  · rw [(pure_ok.1 ran).2]
  obtain ⟨allowed, counted, allows, ran⟩ := bind_ok.1 ran
  obtain ⟨origins, counts⟩ := originAllows_ok allows
  have same : getAccount counted.access accountId = getAccount reserved.access accountId := by
    rw [counts]
    rfl
  rw [← same]
  obtain ⟨passes, ran⟩ | ⟨_, ran⟩ := ite_ok.1 ran
  · rw [query_bind_ok] at ran
    obtain ⟨accepted, admits, ran⟩ | ⟨denied, ran⟩ := whenSome_ok.1 ran
    · obtain ⟨positive, others⟩ := account_of_admitted ran
      have own : accepted.1.accountId = attempt.accountId :=
        Table.key_of_find (admitted_ok admits).1
      exact others fun same => negative (own.symm.trans same.symm) positive
    · rw [account_of_denied ran]
      cases held : getAccount counted.access accountId with
      | none => rfl
      | some account =>
        rw [Option.map_some, if_neg]
        rintro ⟨rfl, active⟩
        exact unchecked (checksWrong_iff.2 ⟨rfl, reservation, reserved, counted, account, reserves,
          fresh, passes ▸ allows, denied, held, active⟩)
  · rw [throttleAuthentication_keepsAccess _ _ _ ran]

section

variable (config : AccessConfig) (accountId : Uuid) (start : Instant)

def Locked (store : AccountStore) : Prop :=
  ∃ account ∈ getAccount store.access accountId, account.state = .locked
deriving Decidable

/-- The call does not succeed on the account, and a wrong password that it checks can be traced. -/
def Proper (store : AccountStore) (attempt : Attempt) : Prop :=
  ¬ Succeeds config accountId store attempt ∧
    (ChecksWrong config accountId store attempt → Traceable config store attempt)
deriving Decidable

/-- A wrong password is checked within a window's length from the start on. -/
def WrongWithin (store : AccountStore) (attempt : Attempt) : Prop :=
  ChecksWrong config accountId store attempt ∧ start ≤ attempt.call.instant ∧
    attempt.call.instant < start + config.failedAttemptWindow
deriving Decidable

/-- A wrong password within the window leaves the account active. -/
def Survives (store : AccountStore) (attempt : Attempt) : Prop :=
  WrongWithin config accountId start store attempt ∧
    ∃ account ∈ getAccount (after config store attempt).access accountId, account.state = .active
deriving Decidable

/-- How many more wrong passwords from the start on can leave the account active. -/
def budget (account : IdentityAccount) : Nat :=
  if account.state = .active then
    config.failedAttemptLimit - 1 - account.failedAttemptCount +
      if ∀ opened ∈ account.failedWindowStartedAt, opened < start then config.failedAttemptLimit - 1
      else 0
  else 0

variable {config accountId start} {attempts : List Attempt}

theorem budget_le {account : IdentityAccount} :
    budget config start account ≤ 2 * (config.failedAttemptLimit - 1) := by
  unfold budget
  split_ifs <;> omega

theorem budget_failed {account : IdentityAccount} {time : Instant}
    (active : account.state = .active) (late : start ≤ time)
    (within : time < start + config.failedAttemptWindow)
    (survives : (missed config time account).state = .active) :
    budget config start (missed config time account) + 1 ≤ budget config start account := by
  have few : account.failures time config.failedAttemptWindow < config.failedAttemptLimit := by
    by_contra many
    simp [missed, IdentityAccount.failed, active, not_lt.1 many] at survives
  unfold budget
  rw [if_pos survives, if_pos active]
  by_cases resets : account.WindowResets time config.failedAttemptWindow
  · have old : ∀ opened ∈ account.failedWindowStartedAt, opened < start := by
      intro opened held
      have elapsed : opened + config.failedAttemptWindow ≤ time := resets opened held
      exact lt_of_add_lt_add_right (elapsed.trans_lt within)
    simp only [missed, IdentityAccount.failed, IdentityAccount.failures, if_pos resets] at few ⊢
    rw [if_pos old, if_neg fun early => not_lt.2 late (early time rfl)]
    omega
  · simp only [missed, IdentityAccount.failed, IdentityAccount.failures, if_neg resets] at few ⊢
    omega

theorem survivors_le (ordered : attempts.Pairwise fun a b => a.call.instant ≤ b.call.instant)
    (late : ∀ attempt ∈ attempts, start ≤ attempt.call.instant)
    (proper : Along (after config) (Proper config accountId) s attempts) :
    countAlong (after config) (Survives config accountId start) s attempts ≤
      ((getAccount s.access accountId).map (budget config start)).getD 0 := by
  induction attempts generalizing s with
  | nil => exact Nat.zero_le _
  | cons attempt rest ih =>
    obtain ⟨before, ordered⟩ := List.pairwise_cons.1 ordered
    have ih := ih ordered (fun later listed => late later (List.mem_cons_of_mem _ listed)) proper.2
    rw [countAlong]
    by_cases wrong : ChecksWrong config accountId s attempt
    · obtain ⟨account, held, active, next⟩ := failed_of_checksWrong wrong (proper.1.2 wrong)
      rw [next] at ih
      rw [held]
      simp only [Option.map_some, Option.getD_some] at ih ⊢
      by_cases survives : Survives config accountId start s attempt
      · obtain ⟨⟨_, late, within⟩, account', held', standing⟩ := survives
        rw [next] at held'
        cases held'
        have spent := budget_failed active late within standing
        split_ifs <;> omega
      · rw [if_neg survives, Nat.zero_add]
        by_cases standing : (missed config attempt.call.instant account).state = .active
        · -- The window is over, for this call and for all that follow.
          have elapsed : start + config.failedAttemptWindow ≤ attempt.call.instant := by
            by_contra within
            exact survives ⟨⟨wrong, late attempt List.mem_cons_self, not_le.1 within⟩, _, next,
              standing⟩
          rw [countAlong_eq_zero fun later listed t survives => ?_]
          · exact Nat.zero_le _
          · exact not_lt.2 (elapsed.trans (before later listed)) survives.1.2.2
        · rw [budget, if_neg standing] at ih
          omega
    · rw [if_neg fun survives => wrong survives.1.1, Nat.zero_add]
      rwa [kept_of_unchecked proper.1.1 wrong] at ih

theorem locked_step (proper : Proper config accountId s attempt) (locked : Locked accountId s) :
    Locked accountId (after config s attempt) := by
  obtain ⟨account, held, locked⟩ := locked
  by_cases wrong : ChecksWrong config accountId s attempt
  · obtain ⟨account', held', active, _⟩ := failed_of_checksWrong wrong (proper.2 wrong)
    rw [held'] at held
    cases held
    rw [active] at locked
    cases locked
  · exact ⟨account, by rw [kept_of_unchecked proper.1 wrong]; exact held, locked⟩

theorem survives_or_locked (proper : Proper config accountId s attempt)
    (wrong : WrongWithin config accountId start s attempt) :
    Survives config accountId start s attempt ∨ Locked accountId (after config s attempt) := by
  obtain ⟨account, held, active, next⟩ := failed_of_checksWrong wrong.1 (proper.2 wrong.1)
  by_cases locks : config.failedAttemptLimit ≤
      account.failures attempt.call.instant config.failedAttemptWindow
  · exact .inr ⟨_, next, by simp [missed, IdentityAccount.failed, locks, active]⟩
  · exact .inl ⟨wrong, _, next, by simp [missed, IdentityAccount.failed, locks, active]⟩

theorem survivors_of_unlocked (proper : Along (after config) (Proper config accountId) s attempts)
    (unlocked : ¬ Locked accountId (run (after config) s attempts)) :
    countAlong (after config) (WrongWithin config accountId start) s attempts ≤
      countAlong (after config) (Survives config accountId start) s attempts := by
  induction attempts generalizing s with
  | nil => exact Nat.le_refl 0
  | cons attempt rest ih =>
    have ih := ih proper.2 unlocked
    rw [countAlong, countAlong]
    by_cases wrong : WrongWithin config accountId start s attempt
    · obtain survives | locked := survives_or_locked proper.1 wrong
      · rw [if_pos wrong, if_pos survives]
        omega
      · exact absurd (run_invariant_along (fun _ _ => locked_step) proper.2 locked) unlocked
    · rw [if_neg wrong]
      omega

theorem survivors_bounded (ordered : attempts.Pairwise fun a b => a.call.instant ≤ b.call.instant)
    (proper : Along (after config) (Proper config accountId) s attempts) :
    countAlong (after config) (Survives config accountId start) s attempts ≤
      2 * (config.failedAttemptLimit - 1) := by
  induction attempts generalizing s with
  | nil => exact Nat.zero_le _
  | cons attempt rest ih =>
    obtain ⟨before, later⟩ := List.pairwise_cons.1 ordered
    by_cases late : start ≤ attempt.call.instant
    · refine (survivors_le ordered ?_ proper).trans ?_
      · rintro other (_ | listed)
        · exact late
        · exact late.trans (before other ‹_›)
      · cases getAccount s.access accountId with
        | none => exact Nat.zero_le _
        | some account => exact budget_le
    · rw [countAlong, if_neg fun survives => late survives.1.2.1, Nat.zero_add]
      exact ih later proper.2

theorem locked_of_window {first : Attempt} {rest : List Attempt}
    (ordered : (first :: rest).Pairwise fun a b => a.call.instant ≤ b.call.instant)
    (proper : Along (after config) (Proper config accountId) s (first :: rest))
    (wrong : ChecksWrong config accountId s first)
    (opens : ∀ account ∈ getAccount s.access accountId,
      account.WindowResets first.call.instant config.failedAttemptWindow)
    (many : config.failedAttemptLimit ≤ countAlong (after config)
      (WrongWithin config accountId first.call.instant) s (first :: rest)) :
    Locked accountId (run (after config) s (first :: rest)) := by
  by_contra unlocked
  have fewer := many.trans (survivors_of_unlocked proper unlocked)
  obtain ⟨before, later⟩ := List.pairwise_cons.1 ordered
  have left := survivors_le later before proper.2
  obtain ⟨account, held, active, next⟩ := failed_of_checksWrong wrong (proper.1.2 wrong)
  have started : (missed config first.call.instant account).failedAttemptCount = 1 ∧
      (missed config first.call.instant account).failedWindowStartedAt = some first.call.instant :=
    ⟨if_pos (opens account held), if_pos (opens account held)⟩
  have early : ¬ ∀ opened ∈ some first.call.instant, opened < first.call.instant :=
    fun early => lt_irrefl _ (early _ rfl)
  have least := config.bounds.failed.1
  rw [next, Option.map_some, Option.getD_some, budget, started.1, started.2, if_neg early] at left
  rw [countAlong] at fewer
  split_ifs at left fewer <;> omega

/-- In every run of calls without a success on the account, in which every wrong password that is
checked can be traced, at most twice one less than the limit leave the account active within a
window's length, and as many as the limit within a window lock it. -/
theorem lock_out_bounds (config : AccessConfig) (accountId : Uuid) (store : AccountStore)
    (attempts : List Attempt)
    (ordered : attempts.Pairwise fun a b => a.call.instant ≤ b.call.instant)
    (proper : Along (after config) (Proper config accountId) store attempts) :
    (∀ start, countAlong (after config) (Survives config accountId start) store attempts ≤
      2 * (config.failedAttemptLimit - 1)) ∧
    ∀ before first rest, attempts = before ++ first :: rest →
      let opened := run (after config) store before
      ChecksWrong config accountId opened first →
      (∀ account ∈ getAccount opened.access accountId,
        account.WindowResets first.call.instant config.failedAttemptWindow) →
      config.failedAttemptLimit ≤ countAlong (after config)
        (WrongWithin config accountId first.call.instant) opened (first :: rest) →
      Locked accountId (run (after config) store attempts) := by
  refine ⟨fun start => survivors_bounded ordered proper, ?_⟩
  rintro before first rest rfl opened wrong opens many
  rw [run_append]
  exact locked_of_window (List.pairwise_append.1 ordered).2.1 (along_append.1 proper).2 wrong opens
    many

end

section

def strictConfig : AccessConfig :=
  { sampleConfig with
    failedAttemptLimit := 2, bounds := ⟨by decide, by decide, by decide, by decide, by decide⟩ }

/-- Guesses at the password of account 1, under distinct keys with so many letters before. -/
def sampleGuesses (letters : Nat) : List Attempt :=
  (List.range 3).map fun number =>
    { accountId := 1, password := "another-password", clientReference := none, clientOrigin := none
      call := sampleCall (number + 10)
        (String.ofList (List.replicate letters 'k') ++ toString number) 1 }

theorem lock_out_bounds_of_guesses :
    Locked 1 (run (after strictConfig) (run (step strictConfig) .empty (sampleAccount 1))
      (sampleGuesses 7)) :=
  (lock_out_bounds strictConfig 1 (run (step strictConfig) .empty (sampleAccount 1))
    (sampleGuesses 7) (by decide +kernel) (by decide +kernel)).2 [] _ _ rfl (by decide +kernel)
    (by decide +kernel) (by decide +kernel)

/-- Three wrong passwords under keys of 124 characters are checked within one window of a service
that locks at the second, and the account stays active. -/
theorem long_keys_never_lock :
    let store := run (step strictConfig) .empty (sampleAccount 1)
    let attempts := sampleGuesses 123
    (attempts.map fun attempt => attempt.call.idempotencyKey).Nodup ∧
      (attempts.Pairwise fun a b => a.call.instant ≤ b.call.instant) ∧
      Along (after strictConfig) (fun store attempt => ¬ Succeeds strictConfig 1 store attempt)
        store attempts ∧
      2 * (strictConfig.failedAttemptLimit - 1) <
        countAlong (after strictConfig) (Survives strictConfig 1 1) store attempts := by
  decide +kernel

end
end Ayo.Accounts.LockOut
