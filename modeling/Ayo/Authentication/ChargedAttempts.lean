/- digest: When the token that an attempt takes from its bucket stays taken. -/

import Ayo.Authentication.Effects
import Ayo.Kernel.Run

namespace Ayo.Authentication.ChargedAttempts

open Kernel.UnitOfWork Kernel.Scopes Core.Values RateLimit.Models RateLimit.Repository Models
  Repository Rotations Authentication.Runtime Effects

/-- A call of one of the entry points behind the limiter. -/
inductive Attempt where
  | register (request : RegistrationRequest)
  | signIn (request : SignInRequest)
  | refresh (refreshToken : String)
  | prepareRecovery (contact : Contact)
  | prepareVerification (identityId : Uuid) (contact : Contact) (delivered : Bool)
  | completeVerification (identityId challengeId : Uuid) (code : String)

namespace Attempt

variable (config : RuntimeConfig)

def after (draws : Draws) (times : Times) (store : AuthStore) : Attempt → AuthStore
  | .register request => (Runtime.register config request draws times store).2
  | .signIn request => (Runtime.signIn config request draws times store).2
  | .refresh refreshToken => (Runtime.refresh config refreshToken draws times store).2
  | .prepareRecovery contact => (Runtime.prepareRecovery config contact times store).2
  | .prepareVerification identityId contact delivered =>
    (Runtime.prepareVerification config identityId contact delivered draws times store).2
  | .completeVerification identityId challengeId code =>
    (Runtime.completeVerification config identityId challengeId code times store).2

def key : Attempt → Fingerprint
  | .register request => config.lookup request.contact
  | .signIn request => config.lookup request.contact
  | .refresh refreshToken => config.tokenHash refreshToken
  | .prepareRecovery contact => config.lookup contact
  | .prepareVerification identityId contact _ =>
    config.verificationKey identityId (config.lookup contact)
  | .completeVerification identityId challengeId _ => config.completionKey identityId challengeId

def policy : Attempt → RateLimitPolicy
  | .register _ => registerPolicy
  | .signIn _ => signInPolicy
  | .refresh _ => refreshPolicy
  | .prepareRecovery _ => recoveryPolicy
  | .prepareVerification _ _ _ => verificationPolicy
  | .completeVerification _ _ _ => verificationPolicy

def Reaches : Attempt → Prop
  | .refresh refreshToken => (config.familyId refreshToken).isSome = true
  | .prepareVerification _ _ _ => config.protectorPresent = true ∧ config.deliveryPresent = true
  | .completeVerification _ _ _ => config.protectorPresent = true
  | _ => True

instance : DecidablePred (Reaches config)
  | .register _ | .signIn _ => .isTrue trivial
  | .refresh _ => inferInstanceAs (Decidable (_ = _))
  | .prepareRecovery _ => .isTrue trivial
  | .prepareVerification _ _ _ => inferInstanceAs (Decidable (_ ∧ _))
  | .completeVerification _ _ _ => inferInstanceAs (Decidable (_ = _))

def bucket (times : Times) (store : AuthStore) (attempt : Attempt) : RateLimitBucket :=
  lockedBucket store.buckets (attempt.key config).1 attempt.policy times.databaseNow

def Passes (times : Times) (store : AuthStore) (attempt : Attempt) : Prop :=
  attempt.Reaches config ∧
    (attempt.bucket config times store).allows attempt.policy 1 times.databaseNow = true
deriving Decidable

def Charged (draws : Draws) (times : Times) (store : AuthStore) (attempt : Attempt) : Prop :=
  (attempt.after config draws times store).buckets.find
      ((attempt.key config).1, attempt.policy.name) =
    some ((attempt.bucket config times store).spent attempt.policy 1 times.databaseNow)
deriving Decidable

/-- The condition under which the unit of work of an attempt is not rolled back: a contact that
registers is not known yet; a verified password that is to be hashed anew is long enough; a
verification that is prepared is pending; and the code for an own challenge has a proper length. -/
def Completes (store : AuthStore) : Attempt → Prop
  | .register request => ∀ method ∈ store.methods.rows,
      method.lookupReference = some (config.lookup request.contact).1 →
        method.methodType ≠ .password ∧ method.methodType ≠ request.contact.kind.verificationMethod
  | .signIn request => ∀ record ∈ acceptedCredential config store request,
      config.needsUpgrade record.verifier = true → 12 ≤ request.password.1.length
  | .refresh _ => True
  | .prepareRecovery _ => True
  | .prepareVerification identityId contact _ =>
      (pendingVerificationMethod store identityId contact.kind.verificationMethod
        (config.lookup contact)).isSome = true
  | .completeVerification identityId challengeId code =>
      (ownMethod store challengeId identityId).isSome = true → 1 ≤ code.length ∧ code.length ≤ 128

end Attempt

def ending {σ ε α : Type} (body : Transaction σ ε α) (store : σ) : Option σ :=
  match body store with
  | .ok (_, after) => some after
  | .error _ => none

def Attempt.rest (config : RuntimeConfig) (draws : Draws) (times : Times) (store : AuthStore) :
    Attempt → Option AuthStore
  | .register request => ending (registerBody config request draws times.now) store
  | .signIn request => ending (signInBody config request draws times.now) store
  | .refresh refreshToken => (config.familyId refreshToken).bind fun familyId =>
      ending (refreshBody config refreshToken familyId draws times.now) store
  | .prepareRecovery _ => some store
  | .prepareVerification identityId contact _ =>
      ending (prepareVerificationBody config identityId contact draws times.now) store
  | .completeVerification identityId challengeId code =>
      ending (completeVerificationBody config identityId challengeId code times.now) store

section

variable {α : Type}

theorem ending_raising (body : Transaction AuthStore Failure α) (store : AuthStore) :
    ending (raising body) store = ending body store := by
  unfold ending raising
  cases body store with
  | ok => rfl
  | error => rfl

theorem limited_outcome (key : Fingerprint) (policy : RateLimitPolicy) (databaseNow : Instant)
    (body : Transaction AuthStore AuthenticationFailure α) (store : AuthStore) :
    ∃ buckets : RateLimitBuckets, (∀ other, buckets.find other =
        if other = (key.1, policy.name) then
          some ((lockedBucket store.buckets key.1 policy databaseNow).spent policy 1 databaseNow)
        else store.buckets.find other) ∧
      ∃ seconds, limited key policy databaseNow body store =
        if (lockedBucket store.buckets key.1 policy databaseNow).allows policy 1 databaseNow = true
        then match body { store with buckets } with
          | .ok (a, t) => (.ok a, t)
          | .error failure => (.error failure, store)
        else (.error (.rateLimited seconds), { store with buckets }) := by
  have within : 1 ≤ (1 : Int) ∧ 1 ≤ policy.capacity :=
    ⟨Int.le_refl 1, policy.bounds.capacity_positive⟩
  obtain ⟨buckets, consumed, found⟩ := exists_consumed key.2 within databaseNow store.buckets
  have decides : consumeOne key policy databaseNow store =
      .ok ((lockedBucket store.buckets key.1 policy databaseNow).decision policy 1 databaseNow,
        { store with buckets }) := by
    simp only [consumeOne, raising, Ayo.Kernel.UnitOfWork.within, consumed]
  refine ⟨buckets, found, ((lockedBucket store.buckets key.1 policy databaseNow).decision policy 1
    databaseNow).retryAfterSeconds, ?_⟩
  unfold limited
  rw [leave_gated (fun decision : RateLimitDecision => decision.allowed = true) decides]
  change (if (lockedBucket store.buckets key.1 policy databaseNow).allows policy 1 databaseNow = true
    then _ else _) = _
  split
  · cases body { store with buckets } with
    | ok => rfl
    | error => rfl
  · rfl

theorem limited_eq (key : Fingerprint) (policy : RateLimitPolicy) (databaseNow : Instant)
    (body : Transaction AuthStore AuthenticationFailure α) (store : AuthStore) :
    ∃ buckets : RateLimitBuckets, (∀ other, buckets.find other =
        if other = (key.1, policy.name) then
          some ((lockedBucket store.buckets key.1 policy databaseNow).spent policy 1 databaseNow)
        else store.buckets.find other) ∧
      (limited key policy databaseNow body store).2 =
        if (lockedBucket store.buckets key.1 policy databaseNow).allows policy 1 databaseNow = true
        then (ending body { store with buckets }).getD store
        else { store with buckets } := by
  obtain ⟨buckets, found, seconds, outcome⟩ := limited_outcome key policy databaseNow body store
  refine ⟨buckets, found, ?_⟩
  rw [outcome]
  split
  · unfold ending
    cases body { store with buckets } with
    | ok => rfl
    | error => rfl
  · rfl

end

def Attempt.outcome (config : RuntimeConfig) (draws : Draws) (times : Times) (store : AuthStore)
    (buckets : RateLimitBuckets) (attempt : Attempt) : AuthStore :=
  if attempt.Reaches config then
    if attempt.Passes config times store then
      (attempt.rest config draws times { store with buckets }).getD store
    else { store with buckets }
  else store

def Attempt.Counted (config : RuntimeConfig) (times : Times) (store : AuthStore)
    (attempt : Attempt) (buckets : RateLimitBuckets) : Prop :=
  ∀ other, buckets.find other =
    if other = ((attempt.key config).1, attempt.policy.name) then
      some ((attempt.bucket config times store).spent attempt.policy 1 times.databaseNow)
    else store.buckets.find other

section

variable {config : RuntimeConfig} {draws : Draws} {times : Times} {store : AuthStore}
  {attempt : Attempt} {buckets : RateLimitBuckets}

private theorem outcome_of_reaches (reaches : attempt.Reaches config)
    (left : attempt.after config draws times store =
      if (attempt.bucket config times store).allows attempt.policy 1 times.databaseNow = true then
        (attempt.rest config draws times { store with buckets }).getD store
      else { store with buckets }) :
    attempt.after config draws times store = attempt.outcome config draws times store buckets := by
  unfold Attempt.outcome
  rw [if_pos reaches, left]
  exact if_congr (and_iff_right reaches).symm rfl rfl

private theorem outcome_of_stops (stops : ¬ attempt.Reaches config)
    (left : attempt.after config draws times store = store) :
    attempt.after config draws times store = attempt.outcome config draws times store buckets := by
  unfold Attempt.outcome
  rw [if_neg stops, left]

end

theorem after_eq (config : RuntimeConfig) (draws : Draws) (times : Times) (store : AuthStore)
    (attempt : Attempt) :
    ∃ buckets, attempt.Counted config times store buckets ∧ attempt.after config draws times store =
        attempt.outcome config draws times store buckets := by
  cases attempt with
  | register request =>
    obtain ⟨buckets, counted, left⟩ := limited_eq (config.lookup request.contact)
      registerPolicy times.databaseNow (raising (registerBody config request draws times.now)) store
    rw [ending_raising] at left
    exact ⟨buckets, counted, outcome_of_reaches trivial left⟩
  | signIn request =>
    obtain ⟨buckets, counted, left⟩ := limited_eq (config.lookup request.contact)
      signInPolicy times.databaseNow (raising (signInBody config request draws times.now)) store
    rw [ending_raising] at left
    exact ⟨buckets, counted, outcome_of_reaches trivial left⟩
  | refresh refreshToken =>
    cases named : config.familyId refreshToken with
    | none =>
      obtain ⟨buckets, counted, _⟩ := limited_eq (config.tokenHash refreshToken)
        refreshPolicy times.databaseNow (pure ()) store
      refine ⟨buckets, counted, outcome_of_stops ?_ ?_⟩
      · simp [Attempt.Reaches, named]
      · simp only [Attempt.after, Runtime.refresh, named]
    | some familyId =>
      obtain ⟨buckets, counted, left⟩ := limited_eq (config.tokenHash refreshToken)
        refreshPolicy times.databaseNow
        (raising (refreshBody config refreshToken familyId draws times.now)) store
      rw [ending_raising] at left
      refine ⟨buckets, counted, outcome_of_reaches ?_ ?_⟩
      · simp [Attempt.Reaches, named]
      · simp only [Attempt.after, Runtime.refresh, named, Attempt.rest, Option.bind_some]
        exact left
  | prepareRecovery contact =>
    obtain ⟨buckets, counted, left⟩ := limited_eq (config.lookup contact) recoveryPolicy
      times.databaseNow (pure ()) store
    exact ⟨buckets, counted, outcome_of_reaches trivial left⟩
  | prepareVerification identityId contact =>
    obtain ⟨buckets, counted, left⟩ := limited_eq
      (config.verificationKey identityId (config.lookup contact)) verificationPolicy
      times.databaseNow (prepareVerificationBody config identityId contact draws times.now) store
    refine ⟨buckets, counted, ?_⟩
    by_cases reaches : config.protectorPresent = true ∧ config.deliveryPresent = true
    · refine outcome_of_reaches reaches ?_
      simp only [Attempt.after, Runtime.prepareVerification]
      rw [if_pos reaches]
      exact left
    · refine outcome_of_stops reaches ?_
      simp only [Attempt.after, Runtime.prepareVerification]
      rw [if_neg reaches]
  | completeVerification identityId challengeId code =>
    obtain ⟨buckets, counted, left⟩ := limited_eq (config.completionKey identityId challengeId)
      verificationPolicy times.databaseNow
      (raising (completeVerificationBody config identityId challengeId code times.now)) store
    rw [ending_raising] at left
    refine ⟨buckets, counted, ?_⟩
    by_cases reaches : config.protectorPresent = true
    · refine outcome_of_reaches reaches ?_
      simp only [Attempt.after, Runtime.completeVerification]
      rw [if_pos reaches]
      exact left
    · refine outcome_of_stops reaches ?_
      simp only [Attempt.after, Runtime.completeVerification]
      rw [if_neg reaches]

section

variable {config : RuntimeConfig} {draws : Draws} {times : Times} {store t : AuthStore}

private theorem ending_isSome {ε α : Type} {body : Transaction AuthStore ε α} :
    (ending body store).isSome = true ↔ ∃ a t, body store = .ok (a, t) := by
  unfold ending
  cases body store with
  | ok result => exact iff_of_true rfl ⟨result.1, result.2, rfl⟩
  | error => simp

private theorem ending_some {ε α : Type} {body : Transaction AuthStore ε α}
    (ends : ending body store = some t) : ∃ a, body store = .ok (a, t) := by
  unfold ending at ends
  cases outcome : body store with
  | ok result =>
    rw [outcome] at ends
    cases ends
    exact ⟨result.1, rfl⟩
  | error =>
    rw [outcome] at ends
    cases ends

theorem rest_isSome_iff (fresh : DrawsFresh config draws store)
    (sound : TokenSound store.tokens) {attempt : Attempt} (reaches : attempt.Reaches config) :
    (attempt.rest config draws times store).isSome = true ↔ attempt.Completes config store := by
  cases attempt with
  | register => exact ending_isSome.trans (registerBody_returns_iff fresh)
  | signIn => exact ending_isSome.trans (signInBody_returns_iff fresh)
  | refresh refreshToken =>
    obtain ⟨familyId, named⟩ := Option.isSome_iff_exists.1 reaches
    have returns := exists_refreshed fresh sound refreshToken familyId times.now
    have ends : (Attempt.refresh refreshToken).rest config draws times store =
        ending (refreshBody config refreshToken familyId draws times.now) store := by
      simp only [Attempt.rest, named, Option.bind_some]
    rw [ends]
    exact iff_of_true (ending_isSome.2 returns) trivial
  | prepareRecovery => exact iff_of_true rfl trivial
  | prepareVerification =>
    exact ending_isSome.trans (prepareVerificationBody_returns_iff fresh)
  | completeVerification =>
    exact ending_isSome.trans completeVerificationBody_returns_iff

theorem rest_proper {attempt : Attempt} (ends : attempt.rest config draws times store = some t) :
    t.buckets = store.buckets ∧ (DrawsFresh config draws store →
      TokenSound store.tokens → TokenSound t.tokens) := by
  cases attempt with
  | register request =>
    obtain ⟨response, ran⟩ := ending_some ends
    exact registerBody_proper store response t ran
  | signIn request =>
    obtain ⟨response, ran⟩ := ending_some ends
    exact signInBody_proper store response t ran
  | refresh refreshToken =>
    obtain ⟨familyId, _, ends⟩ := Option.bind_eq_some_iff.1 ends
    obtain ⟨response, ran⟩ := ending_some ends
    exact refreshBody_proper store response t ran
  | prepareRecovery =>
    cases ends
    exact ⟨rfl, fun _ kept => kept⟩
  | prepareVerification identityId contact =>
    obtain ⟨prepared, ran⟩ := ending_some ends
    exact prepareVerificationBody_proper store prepared
      t ran
  | completeVerification identityId challengeId code =>
    obtain ⟨verified, ran⟩ := ending_some ends
    exact completeVerificationBody_proper store
      verified t ran

end

theorem completes_with_buckets (config : RuntimeConfig) (store : AuthStore)
    (buckets : RateLimitBuckets) (attempt : Attempt) :
    attempt.Completes config { store with buckets } ↔ attempt.Completes config store := by
  cases attempt <;> exact Iff.rfl

section

variable {config : RuntimeConfig} {draws : Draws} {times : Times} {store : AuthStore}
  {attempt : Attempt}

theorem passed_cases (fresh : DrawsFresh config draws store) (sound : TokenSound store.tokens)
    (passes : attempt.Passes config times store) :
    (attempt.Completes config store ∧ attempt.Counted config times store
        (attempt.after config draws times store).buckets ∧
        TokenSound (attempt.after config draws times store).tokens) ∨
      (¬ attempt.Completes config store ∧ attempt.after config draws times store = store) := by
  obtain ⟨buckets, counted, left⟩ := after_eq config draws times store attempt
  unfold Attempt.outcome at left
  rw [if_pos passes.1, if_pos passes] at left
  have returns : (attempt.rest config draws times { store with buckets }).isSome = true ↔
      attempt.Completes config { store with buckets } :=
    rest_isSome_iff (fresh.with_buckets buckets) sound passes.1
  rw [completes_with_buckets] at returns
  cases ends : attempt.rest config draws times { store with buckets } with
  | some t =>
    rw [ends] at left returns
    obtain ⟨kept, tokens⟩ := rest_proper ends
    rw [left, Option.getD_some, kept]
    exact .inl ⟨returns.1 rfl, counted, tokens (fresh.with_buckets buckets) sound⟩
  | none =>
    rw [ends] at left returns
    exact .inr ⟨fun completes => Bool.false_ne_true (returns.2 completes), left⟩

theorem charged_iff (fresh : DrawsFresh config draws store) (sound : TokenSound store.tokens)
    (passes : attempt.Passes config times store) :
    attempt.Charged config draws times store ↔ attempt.Completes config store := by
  unfold Attempt.Charged
  obtain ⟨completes, counted, _⟩ | ⟨fails, stays⟩ := passed_cases fresh sound passes
  · rw [counted, if_pos rfl]
    exact iff_of_true rfl completes
  · rw [stays]
    refine iff_of_false (fun charged => ?_) fails
    have row : attempt.bucket config times store =
        (attempt.bucket config times store).spent attempt.policy 1 times.databaseNow :=
      lockedBucket_of_found charged
    exact RateLimitBucket.spent_ne passes.2 row.symm

end
end Ayo.Authentication.ChargedAttempts
