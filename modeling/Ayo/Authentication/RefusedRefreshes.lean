/- digest: A refresh that is refused for its subject has consumed its token. -/

import Ayo.Authentication.AttemptBound

namespace Ayo.Authentication.RefusedRefreshes

open Kernel.UnitOfWork Kernel.KeyedTable Kernel.Failures Core.Values RateLimit.Models
open RateLimit.Repository Tokens Models Effects Authentication.Runtime
open ChargedAttempts AttemptBound Kernel.Run

/-- A refresh that presents the current token of a family, and is refused while the session of the
family or its identity is not active. -/
structure Refused (config : RuntimeConfig) (refreshToken : String) (draws : Draws) (times : Times)
    (store : AuthStore) (family : TokenFamily) : Prop where
  named : config.familyId refreshToken = some family.familyId
  found : store.tokens.families.find family.familyId = some family
  current : (config.tokenHash refreshToken).1 = family.currentTokenHash
  subject : refreshedSubject store family.sessionId times.now = none
  refused : (refresh config refreshToken draws times store).1 = .error (.denied "refresh_denied")

/-- The family has its current hash and its counter, and no token of it was consumed. -/
def Unburned (before after : AuthStore) (family : TokenFamily) : Prop :=
  (∃ kept ∈ after.tokens.families.find family.familyId,
    kept.currentTokenHash = family.currentTokenHash ∧
      kept.rotationCounter = family.rotationCounter) ∧
  (after.tokens.rotations.rows.filter fun row => row.familyId = family.familyId) =
    before.tokens.rotations.rows.filter fun row => row.familyId = family.familyId

variable {config : RuntimeConfig} {refreshToken : String} {draws : Draws} {times : Times}
  {store : AuthStore} {family : TokenFamily}

theorem rotate_finds {rotationId : Uuid} {replacement : Bytes} {time : DateTime}
    {tokens : TokenStore} (found : tokens.families.find family.familyId = some family) :
    rotate rotationId family.familyId family.currentTokenHash replacement time tokens ≠
      .error noResultFound := by
  intro failed
  unfold rotate at failed
  simp only [require_bind_fails, get_bind_fails, demand_bind_fails, found, reduceCtorEq,
    Option.some.injEq, exists_eq_left', false_and, false_or] at failed
  obtain ⟨_, wrong⟩ | ⟨_, ⟨_, wrong⟩ | ⟨_, failed⟩⟩ := failed
  · exact absurd wrong (by decide)
  · exact absurd wrong (by decide)
  · by_cases ended : family.status ≠ .active ∨ family.expiresAt ≤ time.instant
    · rw [if_pos ended] at failed
      exact pure_fails.1 failed
    · rw [if_neg ended, if_pos trivial] at failed
      simp only [consumeToken, get_bind_fails, demand_bind_fails] at failed
      obtain ⟨_, wrong⟩ | ⟨_, _, ⟨_, wrong⟩ | ⟨_, _, ⟨_, wrong⟩ | ⟨_, _, failed⟩⟩⟩ := failed
      · exact absurd wrong (by decide)
      · exact absurd wrong (by decide)
      · exact absurd wrong (by decide)
      · exact pure_fails.1 failed

theorem Refused.rotates (refuses : Refused config refreshToken draws times store family) :
    ∃ result, rotate draws.rotationId family.familyId family.currentTokenHash
      (config.tokenHash (config.refreshToken family.familyId draws.secret)).1 (.utc times.now)
        store.tokens = .ok (result, (refresh config refreshToken draws times store).2.tokens) := by
  have refused := refuses.refused
  unfold refresh at refused ⊢
  simp only [refuses.named] at refused ⊢
  obtain ⟨buckets, _, seconds, outcome⟩ := limited_outcome (config.tokenHash refreshToken)
    refreshPolicy times.databaseNow
    (raising (refreshBody config refreshToken family.familyId draws times.now)) store
  rw [outcome] at refused ⊢
  by_cases allowed : (lockedBucket store.buckets (config.tokenHash refreshToken).1 refreshPolicy
      times.databaseNow).allows refreshPolicy 1 times.databaseNow = true
  · rw [if_pos allowed] at refused ⊢
    cases ends : raising (refreshBody config refreshToken family.familyId draws times.now)
        { store with buckets } with
    | error failure =>
      rw [ends] at refused
      unfold raising at ends
      cases body : refreshBody config refreshToken family.familyId draws times.now
          { store with buckets } with
      | ok pair => rw [body] at ends; cases ends
      | error raised =>
        rw [body] at ends
        cases ends
        cases refused
    | ok pair =>
      obtain ⟨response, t⟩ := pair
      have ran := raising_ok.1 ends
      unfold refreshBody at ran
      obtain ⟨result, _, rotates, returned⟩ := bind_ok.1 ran
      rw [get_bind_ok] at returned
      obtain ⟨_, rfl⟩ := pure_ok.1 returned
      obtain ⟨rotated, _, rotates⟩ | ⟨_, missing, _⟩ := unlessNoResult_ok.1 rotates
      · obtain ⟨tokens, consumed, rfl⟩ := within_ok.1 rotates
        exact ⟨rotated, refuses.current ▸ consumed⟩
      · have failed : rotate draws.rotationId family.familyId (config.tokenHash refreshToken).1
            (config.tokenHash (config.refreshToken family.familyId draws.secret)).1
            (.utc times.now) store.tokens = .error noResultFound := by
          unfold onTokens Ayo.Kernel.UnitOfWork.within at missing
          split at missing
          · cases missing
          · next ends =>
            cases missing
            exact ends
        rw [refuses.current] at failed
        exact absurd failed (rotate_finds refuses.found)
  · rw [if_neg allowed] at refused
    cases refused

/-- A refused refresh leaves its token usable exactly when the family itself had ended. -/
theorem unburned_iff_family_ended (refuses : Refused config refreshToken draws times store family) :
    Unburned store (refresh config refreshToken draws times store).2 family ↔
      ¬ (family.status = .active ∧ times.now < family.expiresAt) := by
  obtain ⟨result, rotates⟩ := refuses.rotates
  generalize (refresh config refreshToken draws times store).2 = after at rotates ⊢
  unfold rotate at rotates
  simp only [steps_ok, ite_ok] at rotates
  obtain ⟨_, _, row, found, outcome⟩ := rotates
  obtain rfl := Option.mem_unique refuses.found found
  obtain ⟨ended, _, same⟩ | ⟨usable, ⟨_, consumes⟩ | ⟨other, _⟩⟩ := outcome
  · refine iff_of_true ?_ fun usable => ?_
    · unfold Unburned
      rw [← same]
      exact ⟨⟨family, found, rfl, rfl⟩, rfl⟩
    · obtain revoked | expired := ended
      · exact revoked usable.1
      · exact absurd usable.2 (not_lt.2 expired)
  · rw [not_or, not_not, not_le] at usable
    refine iff_of_false (fun unburned => ?_) (not_not.2 usable)
    obtain ⟨⟨kept, stored, _, counter⟩, _⟩ := unburned
    obtain ⟨_, _, families, _⟩ := consumeToken_ok consumes
    have key : family.familyId = Row.key (family.rotated
          (config.tokenHash (config.refreshToken family.familyId draws.secret)).1) := rfl
    rw [Option.mem_def, Table.find_of_rows_replaced families, if_pos key, found] at stored
    obtain rfl := Option.some.inj stored
    exact absurd counter (by simp [TokenFamily.rotated])
  · exact (other rfl).elim

def oneFamily : RuntimeConfig := { sampleConfig with familyId := fun _ => some 1 }

def suspended : AuthStore :=
  let store := run (step oneFamily) .empty sampleMoves
  { store with identities :=
      (store.identities.rewrite? fun row => { row with status := .suspended }).getD .empty }

/-- Two refreshes with the token of the sign-up: the first is refused and consumes the token, and
the second takes it for a replay. -/
theorem refused_refresh_burns_token :
    let first := refresh oneFamily "1.first" (sampleDraws 2 "second") sampleTimes suspended
    let second := refresh oneFamily "1.first" (sampleDraws 3 "third") sampleTimes first.2
    first.1 = .error (.denied "refresh_denied") ∧
      (suspended.tokens.families.find 1).map TokenFamily.rotationCounter = some 0 ∧
      (first.2.tokens.families.find 1).map TokenFamily.rotationCounter = some 1 ∧
      (second.2.tokens.families.find 1).map TokenFamily.status = some .revoked := by
  decide +kernel

theorem suspended_token_burned : ∃ family ∈ suspended.tokens.families.find 1, ¬ Unburned suspended
      (refresh oneFamily "1.first" (sampleDraws 2 "second") sampleTimes suspended).2 family := by
  have facts : (suspended.tokens.families.find 1).map (fun family =>
      (family.currentTokenHash, family.sessionId, family.status, family.expiresAt)) =
        some ((oneFamily.tokenHash "1.first").1, 1, .active, 1) := by decide +kernel
  obtain ⟨family, found, same⟩ := Option.map_eq_some_iff.1 facts
  simp only [Prod.mk.injEq] at same
  obtain ⟨hash, session, active, ends⟩ := same
  obtain key : family.familyId = 1 := Table.key_of_find found
  have refuses : Refused oneFamily "1.first" (sampleDraws 2 "second") sampleTimes suspended family :=
    { named := congrArg some key.symm, found := key ▸ found, current := hash.symm
      subject := by rw [session]; decide +kernel
      refused := by decide +kernel }
  refine ⟨family, found, fun unburned => (unburned_iff_family_ended refuses).1 unburned ?_⟩
  rw [active, ends]
  exact ⟨rfl, by decide⟩

end Ayo.Authentication.RefusedRefreshes
