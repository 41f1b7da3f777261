/- digest: Authority over accounts is read from role assignments alone. -/

import Ayo.Accounts.Effects
import Ayo.Accounts.System

namespace Ayo.Accounts.Authority

open Kernel.UnitOfWork Kernel.Run Core.Values Models Repository Service Accounts.System Effects

/-- The account is active and need not change its credential first. -/
def InStanding (store : AccountStore) (accountId : Uuid) : Prop :=
  (getAccount store.access accountId).any
    (fun account => decide (account.state = .active ∧ account.credentialChangeRequired = false)) =
      true
deriving Decidable

/-- The account that a command is given authority by, and the permission that it takes; the
revocation of sessions takes one where they belong to another account. -/
def Command.authority (store : AccountStore) : Command → Option (Uuid × String)
  | .transitionAccount actorAccountId _ target _ _ =>
    some (actorAccountId, transitionPermission target)
  | .assignRole actorAccountId _ _ => some (actorAccountId, "identity.role.assign")
  | .removeRole actorAccountId _ _ _ => some (actorAccountId, "identity.role.remove")
  | .revokeSession actorAccountId sessionId _ =>
    if ∃ session ∈ getSession store.access sessionId, session.accountId = actorAccountId then none
    else some (actorAccountId, "identity.session.revoke_any")
  | .revokeAllSessions actorAccountId accountId _ =>
    if actorAccountId = accountId then none
    else some (actorAccountId, "identity.session.revoke_any")
  | .revokeRecoveryToken actorAccountId _ _ => some (actorAccountId, "identity.recovery.revoke")
  | .requireCredentialChange actorAccountId _ _ _ _ =>
    some (actorAccountId, "identity.account.force_credential_change")
  | _ => none

def Move.authority (store : AccountStore) : Move → Option (Uuid × String)
  | .command command _ => Command.authority store command
  | .authorizeOwnership accountId _ _ _ => some (accountId, "identity.ownership.override")
  | _ => none

variable (config : AccessConfig)

/-- A command takes effect when it returns, and an ownership decision when it is an override. -/
def Move.TakesEffect (store : AccountStore) : Move → Prop
  | .command command call => (command.body config call store).isOk = true
  | .authorizeOwnership accountId relationship allowDelegate override =>
    authorizeOwnership config store.access accountId relationship allowDelegate override =
      ⟨true, "explicit_administrative_override"⟩
  | _ => False

/-- A move that takes effect by an authority has it among the effective permissions of its actor. -/
def Authorized (store : AccountStore) (move : Move) : Prop :=
  ∀ authority ∈ Move.authority store move, Move.TakesEffect config store move →
    effectivePermission config store.access authority.1 authority.2 = true

/-- Whoever holds the permission that a move asks for is in standing. -/
def HolderStands (store : AccountStore) (move : Move) : Prop :=
  ∀ authority ∈ Move.authority store move,
    hasPermission store.access config authority.1 authority.2 = true → InStanding store authority.1
deriving Decidable

variable {config : AccessConfig} {call : Call} {s t : AccountStore}

section

variable {actorAccountId accountId : Uuid} {reason roleCode : String} {account : IdentityAccount}
  {expected : Nat} {assignment : AccountRoleAssignment}

theorem transitionAccount_permitted {target : AccountLifecycle}
    (ran : transitionAccount config call actorAccountId accountId target expected reason
      s = .ok (account, t)) :
    hasPermission s.access config actorAccountId (transitionPermission target) = true := by
  unfold transitionAccount at ran
  rw [query_bind_ok, require_bind_ok] at ran
  exact ran.1

theorem assignRole_permitted
    (ran : Service.assignRole config call actorAccountId accountId roleCode s =
      .ok (assignment, t)) :
    hasPermission s.access config actorAccountId "identity.role.assign" = true := by
  unfold Service.assignRole at ran
  rw [require_bind_ok, require_bind_ok, query_bind_ok, require_bind_ok] at ran
  exact ran.2.2.1

theorem removeRole_permitted
    (ran : removeRole config call actorAccountId accountId roleCode reason s =
      .ok (assignment, t)) :
    hasPermission s.access config actorAccountId "identity.role.remove" = true := by
  unfold removeRole at ran
  rw [query_bind_ok, require_bind_ok] at ran
  exact ran.1

theorem revokeSession_permitted {sessionId : Uuid} {session : AccountSession}
    (ran : Service.revokeSession config call actorAccountId sessionId reason s = .ok (session, t)) :
    ∃ held, getSession s.access sessionId = some held ∧ (actorAccountId = held.accountId ∨
        hasPermission s.access config actorAccountId "identity.session.revoke_any" = true) := by
  unfold Service.revokeSession at ran
  obtain ⟨_, ran⟩ := safeReason_bind_ok.1 ran
  obtain ⟨_, reserved, reserves, ran⟩ := bind_ok.1 ran
  obtain ⟨_, access, _⟩ := reserveCommand_ok reserves
  rw [query_bind_ok, demand_bind_ok] at ran
  obtain ⟨held, found, ran⟩ := ran
  rw [query_bind_ok, require_bind_ok] at ran
  rw [access] at found ran
  exact ⟨held, found, ran.1⟩

theorem revokeAllSessions_permitted {revoked : List Uuid}
    (ran : Service.revokeAllSessions config call actorAccountId accountId reason s =
      .ok (revoked, t)) :
    actorAccountId = accountId ∨
      hasPermission s.access config actorAccountId "identity.session.revoke_any" = true := by
  unfold Service.revokeAllSessions at ran
  rw [safeReason_bind_ok, query_bind_ok, require_bind_ok] at ran
  exact ran.2.1

theorem revokeRecoveryToken_permitted {tokenId : Uuid} {token : RecoveryTokenRecord}
    (ran : revokeRecoveryToken config call actorAccountId tokenId reason s = .ok (token, t)) :
    hasPermission s.access config actorAccountId "identity.recovery.revoke" = true := by
  unfold revokeRecoveryToken at ran
  rw [safeReason_bind_ok, query_bind_ok, require_bind_ok] at ran
  exact ran.2.1

theorem requireCredentialChange_permitted {provenance : String}
    (ran : requireCredentialChange config call actorAccountId accountId expected reason
      provenance s = .ok (account, t)) :
    hasPermission s.access config actorAccountId "identity.account.force_credential_change" =
      true := by
  unfold requireCredentialChange at ran
  rw [safeReason_bind_ok, safeReason_bind_ok, query_bind_ok, require_bind_ok] at ran
  exact ran.2.2.1

theorem override_permitted {relationship : OwnershipRelationship} {allowDelegate override : Bool}
    (decision : authorizeOwnership config s.access accountId relationship allowDelegate
      override = ⟨true, "explicit_administrative_override"⟩) :
    hasPermission s.access config accountId "identity.ownership.override" = true := by
  unfold authorizeOwnership at decision
  split at decision
  · simp at decision
  split at decision
  · simp at decision
  split at decision
  · rename_i permitted
    exact permitted.2
  · simp at decision

end

theorem permitted_of_takesEffect {move : Move} {authority : Uuid × String}
    (wields : Move.authority s move = some authority) (effect : Move.TakesEffect config s move) :
    hasPermission s.access config authority.1 authority.2 = true := by
  cases move with
  | validateSession => cases wields
  | createAccount => cases wields
  | compatibilityTransition => cases wields
  | authorizeOwnership =>
    cases wields
    exact override_permitted effect
  | command command =>
    obtain ⟨⟨answer, t⟩, ran⟩ := exists_of_isOk effect
    cases command with
    | transitionAccount =>
      cases wields
      obtain ⟨account, ran, _⟩ := answering_ok.1 ran
      exact transitionAccount_permitted ran
    | assignRole =>
      cases wields
      obtain ⟨assignment, ran, _⟩ := answering_ok.1 ran
      exact assignRole_permitted ran
    | removeRole =>
      cases wields
      obtain ⟨assignment, ran, _⟩ := answering_ok.1 ran
      exact removeRole_permitted ran
    | revokeRecoveryToken =>
      cases wields
      obtain ⟨token, ran, _⟩ := answering_ok.1 ran
      exact revokeRecoveryToken_permitted ran
    | requireCredentialChange =>
      cases wields
      obtain ⟨account, ran, _⟩ := answering_ok.1 ran
      exact requireCredentialChange_permitted ran
    | revokeSession =>
      obtain ⟨session, ran, _⟩ := answering_ok.1 ran
      obtain ⟨held, found, permitted⟩ := revokeSession_permitted ran
      obtain ⟨other, wielded⟩ := Option.ite_none_left_eq_some.1 wields
      cases wielded
      refine permitted.resolve_left fun own => other ⟨held, found, own.symm⟩
    | revokeAllSessions =>
      obtain ⟨revoked, ran, _⟩ := answering_ok.1 ran
      obtain ⟨other, wielded⟩ := Option.ite_none_left_eq_some.1 wields
      cases wielded
      exact (revokeAllSessions_permitted ran).resolve_left other
    | _ => cases wields

theorem effectivePermission_iff {accountId : Uuid} {code : String} :
    effectivePermission config s.access accountId code = true ↔
      InStanding s accountId ∧ hasPermission s.access config accountId code = true := by
  unfold effectivePermission InStanding
  exact Bool.and_eq_true_iff

theorem authorized_of_holderStands {move : Move} (stands : HolderStands config s move) :
    Authorized config s move := by
  intro authority wields effect
  have permitted := permitted_of_takesEffect wields effect
  exact effectivePermission_iff.2 ⟨stands authority wields permitted, permitted⟩

/-- In every run in which the holders of the permissions that its moves take are in good standing,
whatever takes effect by an authority has it among the effective permissions of its actor; and what
takes effect in any reached state for an actor in other than good standing has not. -/
theorem authority_is_effective_in_standing (config : AccessConfig) (moves : List Move) :
    (Along (step config) (HolderStands config) .empty moves →
      Along (step config) (Authorized config) .empty moves) ∧
    ∀ move, let store := run (step config) .empty moves
      ∀ authority ∈ Move.authority store move, Move.TakesEffect config store move →
        ¬ InStanding store authority.1 → ¬ Authorized config store move := by
  constructor
  · intro stands
    refine along_of_taken fun n move taken => ?_
    exact authorized_of_holderStands (guard_of_along stands taken)
  · intro move store authority wields effect outside authorized
    exact outside (effectivePermission_iff.1 (authorized authority wields effect)).1

def sampleAdministration : List Move :=
  sampleAccount 1 ++ [.command (.bootstrapFirstAdministrator 1 "bootstrap" "first_administrator")
    (sampleCall 2 "bootstrap-key" 1)]

def sampleAssignment : Move :=
  .command (.assignRole 1 1 "platform_support") (sampleCall 3 "assign-support" 3)

theorem authority_is_effective_in_standing_of_assignment :
    let moves := sampleAdministration ++ [sampleAssignment]
    Along (step sampleConfig) (HolderStands sampleConfig) .empty moves ∧
      Along (step sampleConfig) (Authorized sampleConfig) .empty moves := by
  intro moves
  have stands : Along (step sampleConfig) (HolderStands sampleConfig) .empty moves := by
    decide +kernel
  exact ⟨stands, (authority_is_effective_in_standing sampleConfig moves).1 stands⟩

/-- An administrator that has been suspended assigns a role. -/
theorem suspended_administrator_assigns_role :
    ¬ Along (step sampleConfig) (Authorized sampleConfig) .empty
      (sampleAdministration ++ [.compatibilityTransition 1 .suspended 2, sampleAssignment]) := by
  intro authorized
  let store := run (step sampleConfig) .empty
    (sampleAdministration ++ [.compatibilityTransition 1 .suspended 2])
  have effect : Move.TakesEffect sampleConfig store sampleAssignment := by
    change Except.isOk _ = true
    decide +kernel
  have effective := guard_of_along authorized (n := 5) rfl (1, "identity.role.assign") rfl effect
  revert effective
  decide +kernel

end Ayo.Accounts.Authority
