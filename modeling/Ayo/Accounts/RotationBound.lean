/- digest: No session of a rotation chain outlives the login that opened it. -/

import Ayo.Accounts.Changes

namespace Ayo.Accounts.RotationBound

open Kernel.UnitOfWork Kernel.KeyedTable Kernel.Updates Kernel.Run Core.Values Models Repository
  Service Accounts.System Effects Changes

/-- The sessions that rotations put one after the other in the place of a first one. -/
inductive Chain (store : AccountStore) : AccountSession → AccountSession → Prop
  | login {root : AccountSession} (stored : root ∈ store.access.sessions.rows)
      (origin : root.rotatedFromSessionId = none) : Chain store root root
  | rotated {root current next : AccountSession} (chain : Chain store root current)
      (stored : next ∈ store.access.sessions.rows)
      (origin : next.rotatedFromSessionId = some current.sessionId) : Chain store root next

/-- The session is valid at the instant. -/
def Accepts (store : AccountStore) (sessionId : Uuid) (instant : Instant) : Prop :=
  ∃ session after, validateSession sessionId instant store = .ok (some session, after)

/-- A rotation is not a replay, finds the account of its session active, and computes no later
expiry than the one of the session that it replaces. -/
def RotatesInTime (config : AccessConfig) (store : AccountStore) : Move → Prop
  | .command (.rotateSession sessionId) call =>
    (∀ record ∈ store.traces.records.find
        ("identity.session.rotate", .session sessionId, call.idempotencyKey),
      record.completedAt = none) ∧
    ∀ session ∈ getSession store.access sessionId,
      call.instant + config.absoluteLifetime ≤ session.absoluteExpiresAt ∧
        (getAccount store.access session.accountId).any
          (fun account => decide (account.state = .active)) = true
  | _ => True

instance (config : AccessConfig) (store : AccountStore) (move : Move) :
    Decidable (RotatesInTime config store move) :=
  match move with
  | .command (.rotateSession _) _ =>
    inferInstanceAs (Decidable ((∀ record ∈ _, _) ∧ ∀ session ∈ _, _))
  | .command (.setPassword _ _ _) _ | .command (.authenticate _ _ _ _) _
  | .command (.revokeSession _ _ _) _ | .command (.revokeAllSessions _ _ _) _
  | .command (.transitionAccount _ _ _ _ _) _ | .command (.assignRole _ _ _) _
  | .command (.removeRole _ _ _ _) _ | .command (.bootstrapFirstAdministrator _ _ _) _
  | .command (.initiateRecovery _ _) _ | .command (.completePasswordRecovery _ _ _) _
  | .command (.revokeRecoveryToken _ _ _) _ | .command (.requireCredentialChange _ _ _ _ _) _
  | .command (.completeForcedCredentialChange _ _ _) _ | .validateSession _ _
  | .authorizeOwnership _ _ _ _ | .createAccount _ _ | .compatibilityTransition _ _ _ =>
    inferInstanceAs (Decidable True)

/-- A session expires a lifetime after its creation, or not after the one that it replaced. -/
def Bounded (config : AccessConfig) (store : AccountStore) : Prop :=
  ∀ session ∈ store.access.sessions.rows, (session.rotatedFromSessionId = none →
      session.absoluteExpiresAt = session.createdAt + config.absoluteLifetime) ∧
    ∀ previousId, session.rotatedFromSessionId = some previousId →
      ∃ previous ∈ store.access.sessions.rows, previous.sessionId = previousId ∧
        session.absoluteExpiresAt ≤ previous.absoluteExpiresAt

variable {config : AccessConfig} {rotation : AccountSession → AccountSession → Prop}

section

def LeasesKept (s t : AccountStore) : Prop :=
  ∀ row ∈ s.access.sessions.rows, ∃ later ∈ t.access.sessions.rows, SameLease later row

theorem SameLease.trans {a b c : AccountSession} (first : SameLease a b) (second : SameLease b c) :
    SameLease a c :=
  ⟨first.sessionId.trans second.sessionId, first.accountId.trans second.accountId,
    first.createdAt.trans second.createdAt,
    first.absoluteExpiresAt.trans second.absoluteExpiresAt,
    first.rotatedFrom.trans second.rotatedFrom⟩

instance : IsPreorder AccountStore LeasesKept where
  refl _ row stored := ⟨row, stored, .refl row⟩
  trans _ _ _ first second row stored := by
    obtain ⟨middle, there, same⟩ := first row stored
    obtain ⟨later, member, again⟩ := second middle there
    exact ⟨later, member, SameLease.trans again same⟩

variable {s : AccountStore} {sessions : Table AccountSession} {session : AccountSession}
  {accountId : Uuid} {time : Instant}

theorem leases_of_replaced {new : AccountSession} (held : session ∈ s.access.sessions.rows)
    (same : SameLease new session) (rows : sessions.rows = s.access.sessions.replaced new) :
    (∀ row ∈ s.access.sessions.rows, ∃ later ∈ sessions.rows, SameLease later row) ∧
      ∀ later ∈ sessions.rows, ∃ row ∈ s.access.sessions.rows, SameLease later row := by
  rw [rows]
  constructor
  · intro row mem
    by_cases key : row.sessionId = new.sessionId
    · have one : row = session :=
        s.access.sessions.eq_of_key mem held (key.trans same.sessionId)
      subst one
      exact ⟨new, Table.mem_replaced.2 (.inl ⟨rfl, row, mem, key⟩), same⟩
    · exact ⟨row, Table.mem_replaced.2 (.inr ⟨mem, key⟩), .refl row⟩
  · intro later mem
    obtain ⟨rfl, _⟩ | ⟨kept, _⟩ := Table.mem_replaced.1 mem
    · exact ⟨session, held, same⟩
    · exact ⟨later, kept, .refl later⟩

theorem revoked_sameLease {reason : String} :
    SameLease (updateWhere (AccountSession.StandingOf accountId) (.revoke time reason) session)
      session := by
  by_cases standing : session.StandingOf accountId
  · rw [updateWhere_of_meets standing]
    exact revoke_sameLease time reason session
  · rw [updateWhere_of_not standing]
    exact .refl session

theorem leases_of_revoked {reason : String}
    (rows : sessions.rows = s.access.sessions.rows.map
      (updateWhere (AccountSession.StandingOf accountId) (.revoke time reason))) :
    (∀ row ∈ s.access.sessions.rows, ∃ later ∈ sessions.rows, SameLease later row) ∧
      ∀ later ∈ sessions.rows, ∃ row ∈ s.access.sessions.rows, SameLease later row := by
  rw [rows]
  constructor
  · intro row mem
    exact ⟨_, List.mem_map_of_mem mem, revoked_sameLease⟩
  · intro later mem
    obtain ⟨row, held, rfl⟩ := List.mem_map.1 mem
    exact ⟨row, held, revoked_sameLease⟩

theorem change_keeps_leases {t : AccountStore} (change : Change config rotation s t) :
    LeasesKept s t := by
  intro row held
  obtain ⟨later, found, same⟩ := (ends_of_change change).sessions.find
    (P := fun later => SameLease later row) (fun step same => SameLease.trans step.2 same)
    (Table.find_of_mem held) (.refl row)
  exact ⟨later, Table.mem_of_find found, same⟩

theorem step_keeps_leases (config : AccessConfig) (store : AccountStore) (move : Move) :
    LeasesKept store (step config store move) :=
  writes_preserve step_writes
    (fun _ _ change kept => IsTrans.trans _ _ _ kept (change_keeps_leases change))
    (Std.Refl.refl store)

end

section

variable {s : AccountStore} {sessions : Table AccountSession} {session : AccountSession}

theorem bounded_of_same (bounded : Bounded config s)
    (leases : (∀ row ∈ s.access.sessions.rows, ∃ later ∈ sessions.rows, SameLease later row) ∧
      ∀ later ∈ sessions.rows, ∃ row ∈ s.access.sessions.rows, SameLease later row) :
    Bounded config { s with access := { s.access with sessions } } := by
  intro later mem
  obtain ⟨row, held, same⟩ := leases.2 later mem
  obtain ⟨root, link⟩ := bounded row held
  rw [same.rotatedFrom, same.absoluteExpiresAt, same.createdAt]
  refine ⟨root, fun previousId origin => ?_⟩
  obtain ⟨previous, there, named, bound⟩ := link previousId origin
  obtain ⟨kept, found, again⟩ := leases.1 previous there
  exact ⟨kept, found, again.sessionId.trans named, again.absoluteExpiresAt ▸ bound⟩

theorem bounded_of_appended (bounded : Bounded config s)
    (rows : sessions.rows = s.access.sessions.rows ++ [session])
    (root : session.rotatedFromSessionId = none →
      session.absoluteExpiresAt = session.createdAt + config.absoluteLifetime)
    (link : ∀ previousId, session.rotatedFromSessionId = some previousId →
      ∃ previous ∈ s.access.sessions.rows, previous.sessionId = previousId ∧
        session.absoluteExpiresAt ≤ previous.absoluteExpiresAt) :
    Bounded config { s with access := { s.access with sessions } } := by
  have kept : ∀ row ∈ s.access.sessions.rows, row ∈ sessions.rows := by
    intro row held
    rw [rows]
    exact List.mem_append_left _ held
  have linked : ∀ row : AccountSession, (∀ previousId, row.rotatedFromSessionId = some previousId →
      ∃ previous ∈ s.access.sessions.rows, previous.sessionId = previousId ∧
        row.absoluteExpiresAt ≤ previous.absoluteExpiresAt) →
      ∀ previousId, row.rotatedFromSessionId = some previousId →
        ∃ previous ∈ sessions.rows, previous.sessionId = previousId ∧
          row.absoluteExpiresAt ≤ previous.absoluteExpiresAt := by
    intro row before previousId origin
    obtain ⟨previous, there, named, bound⟩ := before previousId origin
    exact ⟨previous, kept previous there, named, bound⟩
  intro row mem
  change row ∈ sessions.rows at mem
  obtain older | rfl := (mem_appended rows).1 mem
  · exact ⟨(bounded row older).1, linked row (bounded row older).2⟩
  · exact ⟨root, linked row link⟩

theorem change_keeps_bounded {t : AccountStore}
    (inTime : ∀ old replacement, rotation old replacement →
      replacement.absoluteExpiresAt ≤ old.absoluteExpiresAt)
    (change : Change config rotation s t) (bounded : Bounded config s) : Bounded config t := by
  cases change with
  | sessionUpdated sessions session new held _ same rows =>
    exact bounded_of_same bounded (leases_of_replaced held same rows)
  | sessionsRevoked sessions accountId time reason rows =>
    exact bounded_of_same bounded (leases_of_revoked rows)
  | sessionOpened sessions session origin expires rows =>
    refine bounded_of_appended bounded rows (fun _ => expires) fun previousId other => ?_
    rw [origin] at other
    cases other
  | sessionRotated sessions old replacement rotates held origin rows =>
    refine bounded_of_appended bounded rows (fun root => ?_) fun previousId other => ?_
    · rw [origin] at root
      cases root
    · rw [origin] at other
      cases other
      obtain ⟨previous, there, same⟩ := held
      exact ⟨previous, there, same.sessionId,
        same.absoluteExpiresAt ▸ inTime old replacement rotates⟩
  | _ => exact bounded

theorem step_keeps_bounded (store : AccountStore) (move : Move)
    (proper : RotatesInTime config store move) (bounded : Bounded config store) :
    Bounded config (step config store move) := by
  refine writes_preserve step_writes
    (fun _ _ => change_keeps_bounded ?_) bounded
  intro old replacement rotates
  cases move with
  | command command =>
    cases command with
    | rotateSession =>
      obtain ⟨found, _, rfl⟩ := rotates
      exact (proper.2 old found).1
    | _ => exact rotates.elim
  | _ => exact rotates.elim

theorem chain_expires {store : AccountStore} (bounded : Bounded config store)
    {root : AccountSession} (chain : Chain store root session) :
    session.absoluteExpiresAt ≤ root.createdAt + config.absoluteLifetime ∧
      root ∈ store.access.sessions.rows ∧ session ∈ store.access.sessions.rows := by
  induction chain with
  | login held origin => exact ⟨((bounded _ held).1 origin).le, held, held⟩
  | rotated chain held origin ih =>
    obtain ⟨bound, rootStored, currentStored⟩ := ih
    obtain ⟨previous, there, named, earlier⟩ := (bounded _ held).2 _ origin
    have one := store.access.sessions.eq_of_key there currentStored named
    exact ⟨(one ▸ earlier).trans bound, rootStored, held⟩

end

section

variable {store : AccountStore} {sessionId : Uuid} {instant : Instant}

theorem accepts_iff : Accepts store sessionId instant ↔
      (acceptedSession store.access sessionId instant).isSome = true := by
  unfold Accepts validateSession
  constructor
  · rintro ⟨session, t, ran⟩
    rw [query_bind_ok] at ran
    obtain ⟨accepted, is, _⟩ | ⟨_, refused⟩ := whenSome_ok.1 ran
    · rw [is]
      rfl
    · cases (pure_ok.1 refused).1
  · intro accepted
    obtain ⟨session, accepted⟩ := Option.isSome_iff_exists.1 accepted
    obtain ⟨found, allowed⟩ := Option.filter_eq_some_iff.1 accepted
    have active := of_decide_eq_true (Bool.and_eq_true_iff.1 allowed).1
    obtain ⟨sessions, rows⟩ := Table.exists_replaced store.access.sessions (session.touched instant)
      fun _ _ same => same
    have key : session.sessionId = sessionId := Table.key_of_find found
    refine ⟨session.touched instant, { store with access := { store.access with sessions } }, ?_⟩
    rw [query_bind_ok]
    refine whenSome_ok.2 (.inl ⟨session, accepted, bind_ok.2 ⟨session.touched instant, _,
      onAccess_ok.2 ⟨{ store.access with sessions }, ?_, rfl⟩, pure_ok.2 ⟨rfl, rfl⟩⟩⟩)
    unfold touchSession updateSession
    simp only [steps_ok, Table.replace?_eq_some, Option.filter_eq_some_iff]
    refine ⟨session, ⟨?_, decide_eq_true ⟨rfl, active.1⟩⟩, sessions, rows, rfl, rfl⟩
    rw [key]
    exact found

theorem expires_after_accepted (accepts : Accepts store sessionId instant) :
    ∃ session, getSession store.access sessionId = some session ∧
      instant < session.absoluteExpiresAt := by
  obtain ⟨session, accepted⟩ := Option.isSome_iff_exists.1 (accepts_iff.1 accepts)
  obtain ⟨found, allowed⟩ := Option.filter_eq_some_iff.1 accepted
  have active := of_decide_eq_true (Bool.and_eq_true_iff.1 allowed).1
  exact ⟨session, found, lt_of_lt_of_le active.2 (min_le_left _ _)⟩

theorem not_accepted_of_chain (bounded : Bounded config store) {root session : AccountSession}
    (chain : Chain store root session) (late : root.createdAt + config.absoluteLifetime ≤ instant) :
    ¬ Accepts store session.sessionId instant := by
  intro accepts
  obtain ⟨found, is, early⟩ := expires_after_accepted accepts
  obtain ⟨expires, _, held⟩ := chain_expires bounded chain
  have one := store.access.sessions.eq_of_key (Table.mem_of_find is) held (Table.key_of_find is)
  rw [one] at early
  exact absurd (early.trans_le expires) (Int.not_lt.2 late)

theorem accepts_of_rotated {call : Call} {replacement : AccountSession} {t : AccountStore}
    (proper : RotatesInTime config store (.command (.rotateSession sessionId) call))
    (ran : rotateSession config call sessionId store = .ok (replacement, t)) :
    Accepts store sessionId call.instant := by
  unfold rotateSession at ran
  obtain ⟨reservation, reserved, reserves, ran⟩ := bind_ok.1 ran
  obtain ⟨_, access, _, _, origin⟩ := reserveCommand_ok reserves
  have isOpen : reservation.completedAt = none := by
    obtain ⟨found, _⟩ | ⟨_, commandId, rfl, _⟩ := origin
    · exact proper.1 reservation found
    · rfl
  rw [isOpen] at ran
  change ((query _ >>= _) reserved) = _ at ran
  rw [query_bind_ok, demand_bind_ok] at ran
  obtain ⟨old, available, _⟩ := ran
  rw [access] at available
  obtain ⟨found, active⟩ := Option.filter_eq_some_iff.1 available
  have standing := (proper.2 old found).2
  rw [accepts_iff]
  unfold acceptedSession
  rw [found, Option.filter_some, if_pos (Bool.and_eq_true_iff.2 ⟨active, standing⟩)]
  rfl

end

section

variable {call : Call} {before after : AccountStore} {accountId : Uuid} {password : String}

theorem updateAccount_keepsSessions {account : IdentityAccount}
    {change : IdentityAccount → IdentityAccount} {failure : Failure} :
    Keeps AccessStore.sessions (updateAccount account change failure) := by
  intro s a t ran
  obtain ⟨_, accounts, _, _, rfl, _⟩ := updateAccount_ok ran
  rfl

theorem denyAuthentication_keepsSessions {reservation : CommandRecord} :
    Keeps (fun store : AccountStore => store.access.sessions)
      (denyAuthentication config call reservation accountId) := by
  refine .bind (readOnly_query).keeps fun account => .bind (.whenSome (fun account => ?_)
    .pure) fun _ => .bind (keeps_of_access audit_keepsAccess) fun _ =>
    .bind (keeps_of_access completeCommand_keepsAccess) fun _ => .pure
  exact .bind (onAccess_keeps updateAccount_keepsSessions) fun _ =>
    .ite (keeps_of_access record_keepsAccess) .pure

theorem authenticate_opens {clientReference : Option (BoundedText 1 128)}
    {clientOrigin : Option String} {result : AuthenticationResult}
    (ran : authenticate config call accountId password clientReference clientOrigin before =
      .ok (result, after)) {session : AccountSession}
    (held : session ∈ after.access.sessions.rows) :
    session ∈ before.access.sessions.rows ∨
      (session.createdAt = call.instant ∧ session.rotatedFromSessionId = none) := by
  unfold authenticate at ran
  obtain ⟨reservation, reserved, reserves, ran⟩ := bind_ok.1 ran
  obtain ⟨_, access, _⟩ := reserveCommand_ok reserves
  obtain ⟨_, _, ran⟩ | ⟨_, ran⟩ := whenSome_ok.1 ran
  · obtain ⟨_, rfl⟩ := pure_ok.1 ran
    exact .inl (access ▸ held)
  obtain ⟨allowed, counted, counts, ran⟩ := bind_ok.1 ran
  obtain ⟨origins, counted'⟩ := originAllows_ok counts
  have same : counted.access.sessions = before.access.sessions := by
    rw [counted', access]
  obtain ⟨_, ran⟩ | ⟨_, ran⟩ := ite_ok.1 ran
  · rw [query_bind_ok] at ran
    obtain ⟨accepted, _, ran⟩ | ⟨_, ran⟩ := whenSome_ok.1 ran
    · unfold admitAuthentication at ran
      obtain ⟨_, reset, resets, ran⟩ := bind_ok.1 ran
      have keeps : Keeps (fun store : AccountStore => store.access.sessions)
          (onAccess (resetFailedAttempts accepted.1 call.instant)) :=
        onAccess_keeps (.ite .pure updateAccount_keepsSessions)
      have resetSame := keeps _ _ _ resets
      obtain ⟨_, upgraded, upgrades, ran⟩ := bind_ok.1 ran
      have upgradedSame : upgraded.access.sessions = reset.access.sessions :=
        upgradeCredential_keeps (fun _ _ => rfl) _ _ _ upgrades
      obtain ⟨_, opened, opens, ran⟩ := bind_ok.1 ran
      obtain ⟨_, created, rfl⟩ := onAccess_ok.1 opens
      obtain ⟨sessions, rfl, rows⟩ := createSession_ok created
      obtain ⟨_, recorded, records, ran⟩ := bind_ok.1 ran
      have recordedSame := record_keepsAccess _ _ _ records
      obtain ⟨_, completed, completes, returned⟩ := bind_ok.1 ran
      have completedSame := completeCommand_keepsAccess _ _ _ completes
      obtain ⟨_, rfl⟩ := pure_ok.1 returned
      rw [completedSame, recordedSame] at held
      change session ∈ sessions.rows at held
      rw [rows] at held
      have stays : upgraded.access.sessions = before.access.sessions :=
        upgradedSame.trans (resetSame.trans same)
      obtain older | rfl := (mem_appended rfl).1 held
      · exact .inl (stays ▸ older)
      · exact .inr ⟨rfl, rfl⟩
    · have keeps := denyAuthentication_keepsSessions _ _ _ ran
      exact .inl ((keeps.trans same) ▸ held)
  · have keeps := throttleAuthentication_keepsAccess _ _ _ ran
    rw [keeps, same] at held
    exact .inl held

end

/-- In every run whose rotations are in time, no session of the chain that a login opens is accepted
once the lifetime of the login is over, and a rotation succeeds only at times at which the session
that it rotates is accepted. -/
theorem rotation_never_outlives_login (config : AccessConfig) (moves : List Move)
    (proper : Along (step config) (RotatesInTime config) .empty moves) :
    let store := fun n => run (step config) .empty (moves.take n)
    (∀ n accountId password clientReference clientOrigin call,
      moves[n]? = some (.command (.authenticate accountId password clientReference clientOrigin)
        call) →
      ∀ opened ∈ (store (n + 1)).access.sessions.rows, opened ∉ (store n).access.sessions.rows →
        ∀ m, n < m → ∀ root session, root.sessionId = opened.sessionId →
          Chain (store m) root session →
          ∀ instant, call.instant + config.absoluteLifetime ≤ instant →
            ¬ Accepts (store m) session.sessionId instant) ∧
    ∀ n sessionId call, moves[n]? = some (.command (.rotateSession sessionId) call) →
      ∀ replacement after, rotateSession config call sessionId (store n) =
        .ok (replacement, after) → Accepts (store n) sessionId call.instant := by
  intro store
  constructor
  · intro n accountId password clientReference clientOrigin call taken opened stored fresh m later
      root session named chain instant late
    have bounded : Bounded config (store m) :=
      run_invariant_between step_keeps_bounded proper (Nat.zero_le m)
        (fun _ member => absurd member List.not_mem_nil)
    have kept : LeasesKept (store (n + 1)) (store m) :=
      run_take_related (R := LeasesKept) (fun s => Std.Refl.refl s)
        (fun {r s t} first second => IsTrans.trans r s t first second) (step_keeps_leases config)
        .empty moves later
    obtain ⟨lasting, there, same⟩ := kept opened stored
    obtain ⟨_, rootStored, _⟩ := chain_expires bounded chain
    have one : root = lasting := (store m).access.sessions.eq_of_key rootStored there
      (named.trans same.sessionId.symm)
    have created : opened.createdAt = call.instant := by
      have stepped : store (n + 1) = step config (store n) _ := run_take_succ taken
      rw [stepped] at stored
      obtain unchanged | ⟨answer, success⟩ := commit_cases
        (Command.body config call
          (.authenticate accountId password clientReference clientOrigin)) (store n)
      · change opened ∈ (commit _ (store n)).access.sessions.rows at stored
        rw [unchanged] at stored
        exact absurd stored fresh
      · obtain ⟨result, success, _⟩ := answering_ok.1 success
        exact ((authenticate_opens success stored).resolve_left fresh).1
    refine not_accepted_of_chain bounded chain ?_
    rw [one, same.createdAt, created]
    exact late
  · intro n sessionId call taken replacement after success
    exact accepts_of_rotated (guard_of_along proper taken) success

def sampleRotation (time : Instant) : List Move :=
  sampleAccount 1 ++
    [.command (.authenticate 1 "twelve-letters" none none) (sampleCall 2 "login-of-1" 0),
      .command (.rotateSession 2) (sampleCall 3 "rotation-of-2" time)]

def sampleOpened : AccountSession :=
  newSession sampleConfig (sampleCall 2 "login-of-1" 0) 1 none

private theorem sampleRotation_opens : sampleOpened ∈ (run (step sampleConfig) .empty
        ((sampleRotation 0).take 4)).access.sessions.rows ∧
      sampleOpened ∉ (run (step sampleConfig) .empty
        ((sampleRotation 0).take 3)).access.sessions.rows ∧
      sampleOpened.revoke 0 "rotated" ∈ (run (step sampleConfig) .empty
        ((sampleRotation 0).take 5)).access.sessions.rows := by
  decide +kernel

theorem rotation_never_outlives_login_of_rotation :
    Along (step sampleConfig) (RotatesInTime sampleConfig) .empty (sampleRotation 0) ∧
      Accepts (run (step sampleConfig) .empty ((sampleRotation 0).take 4)) 2 0 ∧
      ¬ Accepts (run (step sampleConfig) .empty ((sampleRotation 0).take 5)) 2 (minutes 6) := by
  have proper : Along (step sampleConfig) (RotatesInTime sampleConfig) .empty
      (sampleRotation 0) := by
    decide +kernel
  obtain ⟨outlives, accepted⟩ := rotation_never_outlives_login sampleConfig _ proper
  have rotates : (rotateSession sampleConfig (sampleCall 3 "rotation-of-2" 0) 2
      (run (step sampleConfig) .empty ((sampleRotation 0).take 4))).isOk = true := by
    decide +kernel
  obtain ⟨⟨replacement, after⟩, success⟩ := exists_of_isOk rotates
  have accepts := accepted 4 2 (sampleCall 3 "rotation-of-2" 0) rfl replacement after success
  refine ⟨proper, accepts, ?_⟩
  obtain ⟨stored, fresh, revoked⟩ := sampleRotation_opens
  have chain : Chain (run (step sampleConfig) .empty ((sampleRotation 0).take 5))
      (sampleOpened.revoke 0 "rotated") (sampleOpened.revoke 0 "rotated") :=
    .login revoked rfl
  have late : (sampleCall 2 "login-of-1" 0).instant + sampleConfig.absoluteLifetime ≤
      minutes 6 := by decide
  exact outlives 3 1 "twelve-letters" none none (sampleCall 2 "login-of-1" 0) rfl sampleOpened
    stored fresh 5 (by decide) (sampleOpened.revoke 0 "rotated") (sampleOpened.revoke 0 "rotated")
    rfl chain (minutes 6) late

/-- A session that is rotated four minutes after its login is accepted when the six minutes of the
login are over. -/
theorem rotation_renews_the_lifetime :
    let store := run (step sampleConfig) .empty (sampleRotation (minutes 4))
    ∃ root session, root.createdAt = 0 ∧ Chain store root session ∧
      Accepts store session.sessionId (minutes 6) := by
  intro store
  let root := sampleOpened.revoke (minutes 4) "rotated"
  let session :=
    rotatedSession sampleConfig (sampleCall 3 "rotation-of-2" (minutes 4)) sampleOpened
  have chain : Chain store root session :=
    .rotated (.login (by decide +kernel) rfl) (by decide +kernel) rfl
  exact ⟨root, session, rfl, chain, accepts_iff.2 (by decide +kernel)⟩

end Ayo.Accounts.RotationBound
