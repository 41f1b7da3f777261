/- digest: An account has one active recovery token, which its recovery consumes. -/

import Ayo.Accounts.Changes

namespace Ayo.Accounts.SingleRecovery

open Kernel.UnitOfWork Kernel.KeyedTable Kernel.Updates Kernel.Run Core.Values Models Service
  Accounts.System Effects Changes

def issued (store : AccountStore) (accountId : Uuid) : List RecoveryTokenRecord :=
  store.access.recoveryTokens.rows.filter fun row => decide (row.accountId = accountId)

/-- Every active recovery token is unspent and the last one that was issued to its account. -/
def ActiveIsLatest (store : AccountStore) : Prop :=
  ∀ record ∈ store.access.recoveryTokens.rows, record.state = .active →
    record.Unspent ∧ (issued store record.accountId).getLast? = some record

variable {config : AccessConfig} {rotation : AccountSession → AccountSession → Prop}

section

variable {s : AccountStore} {recoveryTokens : Table RecoveryTokenRecord} {time : Instant}

private theorem issued_of_superseded {accountId other : Uuid} (different : other ≠ accountId) :
    (s.access.recoveryTokens.rows.map
      (updateWhere (RecoveryTokenRecord.ActiveOf accountId) (.superseded time))).filter
        (fun row => decide (row.accountId = other)) = issued s other := by
  apply filter_map_of_fixed
  · intro row _
    have kept : (updateWhere (RecoveryTokenRecord.ActiveOf accountId) (.superseded time)
        row).accountId = row.accountId := by
      unfold updateWhere
      split <;> rfl
    rw [kept]
  · intro row _ selected
    refine updateWhere_of_not fun active => different ?_
    rw [← of_decide_eq_true selected, active.1]

theorem activeIsLatest_of_issued {record : RecoveryTokenRecord}
    (latest : ActiveIsLatest s) (unspent : record.Unspent)
    (rows : recoveryTokens.rows = s.access.recoveryTokens.rows.map
      (updateWhere (RecoveryTokenRecord.ActiveOf record.accountId) (.superseded time)) ++
        [record]) :
    ActiveIsLatest { s with access := { s.access with recoveryTokens } } := by
  intro row mem active
  change row ∈ recoveryTokens.rows at mem
  unfold issued
  change _ ∧ (recoveryTokens.rows.filter _).getLast? = _
  rw [rows] at mem ⊢
  rw [List.filter_append]
  obtain older | rfl := (mem_appended rfl).1 mem
  · obtain ⟨old, held, rfl⟩ := List.mem_map.1 older
    by_cases superseded : old.ActiveOf record.accountId
    · rw [updateWhere_of_meets superseded] at active
      cases active
    · rw [updateWhere_of_not superseded] at active ⊢
      have different : old.accountId ≠ record.accountId :=
        fun same => superseded ⟨same, active⟩
      rw [issued_of_superseded different, List.filter_cons_of_neg (by simp [different.symm]),
        List.filter_nil, List.append_nil]
      exact latest old held active
  · exact ⟨unspent, by simp⟩

theorem activeIsLatest_of_spent {record spent : RecoveryTokenRecord} (latest : ActiveIsLatest s)
    (held : record ∈ s.access.recoveryTokens.rows) (active : record.state = .active)
    (inactive : spent.state ≠ .active) (tokenId : spent.tokenId = record.tokenId)
    (accountId : spent.accountId = record.accountId)
    (rows : recoveryTokens.rows = s.access.recoveryTokens.replaced spent) :
    ActiveIsLatest { s with access := { s.access with recoveryTokens } } := by
  intro row mem standing
  change row ∈ recoveryTokens.rows at mem
  unfold issued
  change _ ∧ (recoveryTokens.rows.filter _).getLast? = _
  rw [rows] at mem ⊢
  obtain ⟨rfl, _⟩ | ⟨kept, otherKey⟩ := Table.mem_replaced.1 mem
  · exact absurd standing inactive
  · have different : record.accountId ≠ row.accountId := by
      intro same
      have one : record = row := s.access.recoveryTokens.eq_of_clash held kept
        (.inr (.inr ⟨same, .inr ⟨active, standing⟩⟩))
      exact otherKey (one ▸ tokenId.symm)
    have stays : (s.access.recoveryTokens.replaced spent).filter
        (fun other => decide (other.accountId = row.accountId)) = issued s row.accountId := by
      apply filter_map_of_fixed
      · intro other listed
        by_cases same : Row.key other = Row.key spent
        · have one : other = record :=
            s.access.recoveryTokens.eq_of_key listed held (same.trans tokenId)
          rw [if_pos same, one, accountId]
        · rw [if_neg same]
      · intro other listed selected
        refine if_neg fun same => different ?_
        have one : other = record :=
          s.access.recoveryTokens.eq_of_key listed held (same.trans tokenId)
        rw [← one]
        exact of_decide_eq_true selected
    rw [stays]
    exact latest row kept standing

theorem change_keeps_latest {t : AccountStore} (change : Change config rotation s t)
    (latest : ActiveIsLatest s) : ActiveIsLatest t := by
  cases change with
  | tokenIssued recoveryTokens record time unspent rows =>
    exact activeIsLatest_of_issued latest unspent rows
  | tokenSpent recoveryTokens record spent held active inactive tokenId accountId rows =>
    exact activeIsLatest_of_spent latest held active inactive tokenId accountId rows
  | _ => exact latest

theorem activeIsLatest_of_run (config : AccessConfig) (moves : List Move) :
    ActiveIsLatest (run (step config) .empty moves) :=
  run_invariant (fun _ _ latest =>
      writes_preserve step_writes (fun _ _ => change_keeps_latest) latest)
    moves (fun _ mem => absurd mem List.not_mem_nil)

end

section

variable {call : Call} {s t : AccountStore} {reservation : CommandRecord}
  {result : Option PasswordCredential} {newPassword : String} {accountId : Uuid}

theorem recoverPassword_ok {token : RecoveryTokenRecord} {account : IdentityAccount}
    (held : token ∈ s.access.recoveryTokens.rows)
    (ran : recoverPassword config call reservation token account newPassword s = .ok (result, t)) :
    t.access.recoveryTokens.rows = s.access.recoveryTokens.replaced (token.consume call.instant) ∧
      t.access.sessions.rows = s.access.sessions.rows.map
        (updateWhere (AccountSession.StandingOf token.accountId)
          (.revoke call.instant "password_recovery")) := by
  unfold recoverPassword at ran
  rw [query_bind_ok] at ran
  obtain ⟨verifier, hashed, hashes, ran⟩ := bind_ok.1 ran
  obtain ⟨_, _, rfl⟩ := hash_ok.1 hashes
  obtain ⟨_, replaced, replaces, ran⟩ := bind_ok.1 ran
  obtain ⟨_, new, rfl⟩ := onAccess_ok.1 replaces
  obtain ⟨credentials, rfl, _⟩ := replaceCredential_ok new
  obtain ⟨spent, consumed, consumes, ran⟩ := bind_ok.1 ran
  obtain ⟨_, new, rfl⟩ := onAccess_ok.1 consumes
  obtain ⟨old, recoveryTokens, found, _, _, _, rfl, tokenRows⟩ := transitionRecovery_ok new
  have one : old = token := s.access.recoveryTokens.eq_of_key (Table.mem_of_find found)
    held (Table.key_of_find found)
  obtain ⟨_, revoked, revokes, ran⟩ := bind_ok.1 ran
  obtain ⟨_, new, rfl⟩ := onAccess_ok.1 revokes
  obtain ⟨sessions, rfl, sessionRows, _⟩ := revokeAllSessions_ok new
  obtain ⟨_, cleared, clears, ran⟩ := bind_ok.1 ran
  obtain ⟨_, new, rfl⟩ := onAccess_ok.1 clears
  obtain ⟨_, accounts, _, _, rfl, _⟩ := updateAccount_ok new
  obtain ⟨_, first, records, ran⟩ := bind_ok.1 ran
  have keeps := record_keepsAccess _ _ _ records
  obtain ⟨_, second, records, ran⟩ := bind_ok.1 ran
  have keeps := (record_keepsAccess _ _ _ records).trans keeps
  obtain ⟨_, third, records, ran⟩ := bind_ok.1 ran
  have keeps := (record_keepsAccess _ _ _ records).trans keeps
  obtain ⟨_, fourth, completes, returned⟩ := bind_ok.1 ran
  have keeps := (completeCommand_keepsAccess _ _ _ completes).trans keeps
  obtain ⟨_, rfl⟩ := pure_ok.1 returned
  rw [keeps]
  exact ⟨one ▸ tokenRows, sessionRows⟩

theorem completePasswordRecovery_cases {token : String}
    (ran : completePasswordRecovery config call accountId token newPassword s = .ok (result, t)) :
    t.access = s.access ∨
      ∃ digest record, config.securityHash = some digest ∧ record.tokenHash = digest token ∧
        record ∈ s.access.recoveryTokens.rows ∧
        RecoveryTokenRecord.Valid accountId call.instant record ∧
        t.access.recoveryTokens.rows =
          s.access.recoveryTokens.replaced (record.consume call.instant) ∧
        t.access.sessions.rows = s.access.sessions.rows.map
          (updateWhere (AccountSession.StandingOf accountId)
            (.revoke call.instant "password_recovery")) := by
  unfold completePasswordRecovery at ran
  obtain ⟨_, ran⟩ := validatePassword_bind_ok.1 ran
  obtain ⟨digest, configured, ran⟩ := securityHash_bind_ok.1 ran
  obtain ⟨reservation, reserved, reserves, ran⟩ := bind_ok.1 ran
  obtain ⟨_, access, _⟩ := reserveCommand_ok reserves
  obtain ⟨_, _, ran⟩ | ⟨_, ran⟩ := whenSome_ok.1 ran
  · obtain ⟨_, rfl⟩ := query_ok.1 ran
    exact .inl access
  rw [query_bind_ok] at ran
  obtain ⟨record, presented, ran⟩ | ⟨_, ran⟩ := whenSome_ok.1 ran
  · obtain ⟨found, valid⟩ := Option.filter_eq_some_iff.1 presented
    have valid := of_decide_eq_true valid
    rw [query_bind_ok] at ran
    obtain ⟨account, _, ran⟩ | ⟨_, ran⟩ := whenSome_ok.1 ran
    · have held : record ∈ reserved.access.recoveryTokens.rows := List.mem_of_find?_eq_some found
      obtain ⟨tokens, sessions⟩ := recoverPassword_ok held ran
      rw [access] at tokens sessions held
      rw [valid.1] at sessions
      have hashed : record.tokenHash = digest token := by
        simpa using List.find?_some found
      exact .inr ⟨digest, record, configured, hashed, held, valid, tokens, sessions⟩
    · obtain ⟨_, rfl⟩ := pure_ok.1 ran
      exact .inl access
  · unfold rejectRecovery at ran
    obtain ⟨_, _, audits, ran⟩ := bind_ok.1 ran
    have keeps := (audit_keepsAccess _ _ _ audits).trans access
    obtain ⟨_, _, completes, returned⟩ := bind_ok.1 ran
    have keeps := (completeCommand_keepsAccess _ _ _ completes).trans keeps
    obtain ⟨_, rfl⟩ := pure_ok.1 returned
    exact .inl keeps

private theorem revoked_inactive {time : Instant} {reason : String}
    {session : AccountSession}
    (own : (updateWhere (AccountSession.StandingOf accountId) (.revoke time reason)
      session).accountId = accountId) (instant : Instant) :
    ¬ (updateWhere (AccountSession.StandingOf accountId) (.revoke time reason)
      session).ActiveAt instant := by
  intro active
  by_cases standing : session.StandingOf accountId
  · rw [updateWhere_of_meets standing] at active
    cases active.1
  · rw [updateWhere_of_not standing] at active own
    exact standing ⟨own, active.1⟩

end

/-- In every state of every run an account has at most one active recovery token; and a password
recovery that changes a credential is given the last token issued to the account, unspent and
unexpired, consumes it, and leaves no session of the account active at any time. -/
theorem recovery_is_single_use (config : AccessConfig) (moves : List Move) :
    let store := run (step config) .empty moves
    (∀ accountId, ∀ a ∈ store.access.recoveryTokens.rows, ∀ b ∈ store.access.recoveryTokens.rows,
      a.ActiveOf accountId → b.ActiveOf accountId → a = b) ∧
    ∀ call accountId token newPassword,
      let after := commit (completePasswordRecovery config call accountId token newPassword) store
      after.access.credentials.rows ≠ store.access.credentials.rows →
      ∃ digest record, config.securityHash = some digest ∧ record.tokenHash = digest token ∧
        (issued store accountId).getLast? = some record ∧ record.Unspent ∧
        call.instant < record.expiresAt ∧
        after.access.recoveryTokens.find record.tokenId = some (record.consume call.instant) ∧
        ∀ session ∈ after.access.sessions.rows, session.accountId = accountId →
          ∀ instant, ¬ session.ActiveAt instant := by
  intro store
  have latest : ActiveIsLatest store := activeIsLatest_of_run config moves
  constructor
  · intro accountId a first b second activeA activeB
    exact store.access.recoveryTokens.eq_of_clash first second
      (.inr (.inr ⟨activeA.1.trans activeB.1.symm, .inr ⟨activeA.2, activeB.2⟩⟩))
  · intro call accountId token newPassword after changes
    obtain same | ⟨result, success⟩ := commit_cases
      (completePasswordRecovery config call accountId token newPassword) store
    · exact absurd (by rw [show after = store from same]) changes
    obtain same | ⟨digest, record, configured, hashed, stored, valid, tokens, sessions⟩ :=
      completePasswordRecovery_cases success
    · exact absurd (by rw [show after.access = store.access from same]) changes
    obtain ⟨own, active, unexpired⟩ := valid
    obtain ⟨unspent, last⟩ := latest record stored active
    rw [own] at last
    refine ⟨digest, record, configured, hashed, last, unspent, unexpired, ?_, ?_⟩
    · have consumed : record.consume call.instant ∈ after.access.recoveryTokens.rows := by
        rw [tokens]
        exact Table.mem_replaced.2 (.inl ⟨rfl, record, stored, rfl⟩)
      exact Table.find_of_mem consumed
    · intro session member ownSession instant
      rw [sessions] at member
      obtain ⟨old, _, rfl⟩ := List.mem_map.1 member
      exact revoked_inactive ownSession instant

theorem recovery_is_single_use_of_recovery :
    let moves := sampleAccount 1 ++
      [.command (.initiateRecovery 1 (minutes 30)) (sampleCall 2 "recovery-of-1" 1)]
    let store := run (step sampleConfig) .empty moves
    let call := sampleCall 3 "complete-of-1" 2
    let after := commit (completePasswordRecovery sampleConfig call 1 "2" "other-letters") store
    after.access.credentials.rows ≠ store.access.credentials.rows ∧
      ∃ digest record, sampleConfig.securityHash = some digest ∧ record.tokenHash = digest "2" ∧
        (issued store 1).getLast? = some record ∧ record.Unspent ∧
        call.instant < record.expiresAt ∧
        after.access.recoveryTokens.find record.tokenId = some (record.consume call.instant) ∧
        ∀ session ∈ after.access.sessions.rows, session.accountId = 1 →
          ∀ instant, ¬ session.ActiveAt instant := by
  intro moves store call after
  have changes : after.access.credentials.rows ≠ store.access.credentials.rows := by
    decide +kernel
  exact ⟨changes, (recovery_is_single_use sampleConfig moves).2 call 1 "2" "other-letters" changes⟩

end Ayo.Accounts.SingleRecovery
