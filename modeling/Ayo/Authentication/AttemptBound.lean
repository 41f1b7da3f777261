/- digest: A limiter lets no more attempts pass than its capacity while no time passes. -/

import Ayo.Authentication.ChargedAttempts

namespace Ayo.Authentication.AttemptBound

open Kernel.UnitOfWork Kernel.Run Core.Values RateLimit.Models RateLimit.Repository Tokens Models
  Repository Rotations Authentication.Runtime Effects ChargedAttempts

/-- A call of the runtime that is not behind the limiter, or a change of status that the identity
service saves. -/
inductive Command where
  | signOut (identityId sessionId : Uuid) (now : Instant)
  | signOutAll (identityId sessionId : Uuid) (now : Instant)
  | saveIdentity (identity : Identity)

def Command.after (store : AuthStore) : Command → AuthStore
  | .signOut identityId sessionId now => commit (Runtime.signOut identityId sessionId now) store
  | .signOutAll identityId sessionId now =>
    commit (Runtime.signOutAll identityId sessionId now) store
  | .saveIdentity identity => commit (Repository.saveIdentity identity) store

inductive Move where
  | attempt (attempt : Attempt) (draws : Draws) (times : Times)
  | command (command : Command)

variable (config : RuntimeConfig)

def step (store : AuthStore) : Move → AuthStore
  | .attempt attempt draws times => attempt.after config draws times store
  | .command command => command.after store

def Fresh (store : AuthStore) : Move → Prop
  | .attempt _ draws _ => DrawsFresh config draws store
  | .command _ => True

def SameBucket (sample attempt : Attempt) : Prop :=
  attempt.key config = sample.key config ∧ attempt.policy = sample.policy
deriving Decidable

/-- No time passes for the attempts of one bucket, and none of their units is rolled back. -/
def Stalled (sample : Attempt) (time : Instant) (store : AuthStore) : Move → Prop
  | .attempt attempt draws times =>
      DrawsFresh config draws store ∧ (SameBucket config sample attempt →
        times.databaseNow = time ∧ attempt.Completes config store)
  | .command _ => True

def PassesFor (sample : Attempt) (store : AuthStore) : Move → Prop
  | .attempt attempt _ times =>
      SameBucket config sample attempt ∧ attempt.Passes config times store
  | .command _ => False

instance (sample : Attempt) (store : AuthStore) : DecidablePred (PassesFor config sample store)
  | .attempt _ _ _ => inferInstanceAs (Decidable (_ ∧ _))
  | .command _ => .isFalse id

/-- How many attempts of one bucket pass the limiter in a run. -/
def passed (sample : Attempt) : AuthStore → List Move → Nat
  | _, [] => 0
  | store, move :: rest =>
    (if PassesFor config sample store move then 1 else 0) +
      passed sample (step config store move) rest

def level (sample : Attempt) (time : Instant) (store : AuthStore) : Rat :=
  (lockedBucket store.buckets (sample.key config).1 sample.policy time).available sample.policy time

variable {config} {sample : Attempt} {store : AuthStore}

def policies : List RateLimitPolicy :=
  [registerPolicy, signInPolicy, refreshPolicy, recoveryPolicy, verificationPolicy]

theorem policies_named : ∀ first ∈ policies, ∀ second ∈ policies,
    first.name = second.name → first = second := by
  decide +kernel

theorem policy_mem {attempt : Attempt} : attempt.policy ∈ policies := by
  cases attempt <;> simp [policies, Attempt.policy]

section

variable {store after : AuthStore} {times : Times} {sample : Attempt} {time : Instant}

theorem command_proper {command : Command} :
    (command.after store).buckets = store.buckets ∧
      (TokenSound store.tokens → TokenSound (command.after store).tokens) := by
  have committed : ∀ {α : Type} {body : Transaction AuthStore Failure α},
      Proper (fun _ => True) body → (commit body store).buckets = store.buckets ∧
        (TokenSound store.tokens → TokenSound (commit body store).tokens) := by
    intro α body proper
    obtain stays | ⟨a, ran⟩ := commit_cases body store
    · rw [stays]
      exact ⟨rfl, id⟩
    · obtain ⟨buckets, sound⟩ := proper store a _ ran
      exact ⟨buckets, sound trivial⟩
  cases command with
  | signOut identityId sessionId now => exact committed signOut_proper
  | signOutAll identityId sessionId now =>
    exact committed signOutAll_proper
  | saveIdentity identity => exact committed saveIdentity_proper

theorem attempt_cases {attempt : Attempt} {draws : Draws}
    (fresh : DrawsFresh config draws store) (sound : TokenSound store.tokens) :
    TokenSound (attempt.after config draws times store).tokens ∧
      ((attempt.after config draws times store = store ∧
          (attempt.Passes config times store → ¬ attempt.Completes config store)) ∨
        (attempt.Reaches config ∧
          attempt.Counted config times store (attempt.after config draws times store).buckets)) := by
  by_cases passes : attempt.Passes config times store
  · obtain ⟨_, counted, kept⟩ | ⟨fails, stays⟩ := passed_cases fresh sound passes
    · exact ⟨kept, .inr ⟨passes.1, counted⟩⟩
    · rw [stays]
      exact ⟨sound, .inl ⟨rfl, fun _ => fails⟩⟩
  · obtain ⟨buckets, counted, left⟩ := after_eq config draws times store attempt
    unfold Attempt.outcome at left
    by_cases reaches : attempt.Reaches config
    · rw [if_pos reaches, if_neg passes] at left
      rw [left]
      exact ⟨sound, .inr ⟨reaches, counted⟩⟩
    · rw [if_neg reaches] at left
      rw [left]
      exact ⟨sound, .inl ⟨rfl, fun both => absurd both passes⟩⟩

theorem step_tokenSound (store : AuthStore) (move : Move) (fresh : Fresh config store move)
    (sound : TokenSound store.tokens) : TokenSound (step config store move).tokens := by
  cases move with
  | attempt attempt draws times => exact (attempt_cases fresh sound).1
  | command command => exact command_proper.2 sound

theorem level_of_find (same : after.buckets.find ((sample.key config).1, sample.policy.name) =
      store.buckets.find ((sample.key config).1, sample.policy.name)) :
    level config sample time after = level config sample time store := by
  unfold level lockedBucket
  rw [same]

theorem level_of_counted_apart {attempt : Attempt}
    (counted : attempt.Counted config times store after.buckets)
    (apart : ¬ SameBucket config sample attempt) :
    level config sample time after = level config sample time store := by
  refine level_of_find ?_
  rw [counted, if_neg]
  intro same
  obtain ⟨key, name⟩ := Prod.mk.inj same
  have policy : attempt.policy = sample.policy :=
    policies_named _ policy_mem _ policy_mem name.symm
  exact apart ⟨(Subtype.ext key).symm, policy⟩

theorem level_of_counted {attempt : Attempt}
    (counted : attempt.Counted config times store after.buckets)
    (same : SameBucket config sample attempt) (stands : times.databaseNow = time) :
    level config sample time after =
      (attempt.bucket config times store).remaining sample.policy 1 time := by
  obtain ⟨key, policy⟩ := same
  have found := counted ((sample.key config).1, sample.policy.name)
  rw [key, policy, if_pos rfl, stands] at found
  unfold level
  rw [lockedBucket_of_found found]
  exact RateLimitBucket.available_spent _ _ _

theorem step_level {move : Move} (stalled : Stalled config sample time store move)
    (sound : TokenSound store.tokens) :
    level config sample time (step config store move) = level config sample time store -
        ((if PassesFor config sample store move then 1 else 0 : Nat) : Rat) := by
  cases move with
  | attempt attempt draws times =>
    obtain ⟨fresh, meets⟩ := stalled
    obtain ⟨_, ⟨unchanged, fails⟩ | ⟨reaches, counted⟩⟩ :=
      attempt_cases fresh sound
    · have stays : ¬ PassesFor config sample store (.attempt attempt draws times) :=
        fun ⟨same, passes⟩ => fails passes (meets same).2
      rw [if_neg stays, Nat.cast_zero, sub_zero]
      exact congrArg (level config sample time) unchanged
    · by_cases same : SameBucket config sample attempt
      · have stands : times.databaseNow = time := (meets same).1
        have own : attempt.bucket config times store =
            lockedBucket store.buckets (sample.key config).1 sample.policy time := by
          unfold Attempt.bucket
          rw [same.1, same.2, stands]
        have passes_iff : PassesFor config sample store (.attempt attempt draws times) ↔
            (attempt.bucket config times store).allows sample.policy 1 time = true := by
          refine ⟨fun both => ?_, fun allowed => ⟨same, reaches, ?_⟩⟩
          · rw [← same.2, ← stands]
            exact both.2.2
          · rw [same.2, stands]
            exact allowed
        have left := level_of_counted counted same stands
        have after : level config sample time (step config store (.attempt attempt draws times)) =
            (attempt.bucket config times store).remaining sample.policy 1 time := left
        rw [after, own, RateLimitBucket.remaining, ← own]
        by_cases allowed : (attempt.bucket config times store).allows sample.policy 1 time = true
        · rw [if_pos allowed, if_pos (passes_iff.2 allowed), own, Int.cast_one, Nat.cast_one]
          rfl
        · rw [if_neg allowed, if_neg (allowed ∘ passes_iff.1), own, Nat.cast_zero, sub_zero]
          rfl
      · have stays : ¬ PassesFor config sample store (.attempt attempt draws times) :=
          fun both => same both.1
        rw [if_neg stays, Nat.cast_zero, sub_zero]
        exact level_of_counted_apart counted same
  | command command =>
    have stays : ¬ PassesFor config sample store (.command command) := id
    rw [if_neg stays, Nat.cast_zero, sub_zero]
    refine level_of_find ?_
    exact congrArg (fun buckets : RateLimitBuckets => buckets.find _) command_proper.1

end

theorem passed_le_level {time : Instant} {moves : List Move}
    (stalled : Along (step config) (Stalled config sample time) store moves)
    (sound : TokenSound store.tokens) :
    (passed config sample store moves : Rat) ≤ level config sample time store := by
  induction moves generalizing store with
  | nil =>
    rw [passed, Nat.cast_zero]
    exact RateLimitBucket.available_nonneg _ _ _
  | cons move rest ih =>
    obtain ⟨here, later⟩ := stalled
    have fresh : Fresh config store move := by
      cases move with
      | attempt attempt draws times => exact here.1
      | command command => trivial
    have rest_le := ih later (step_tokenSound store move fresh sound)
    have taken := step_level here sound
    rw [passed, Nat.cast_add]
    linarith

theorem passed_of_fails {draws : Draws} {times : Times} (fresh : DrawsFresh config draws store)
    (sound : TokenSound store.tokens) (passes : sample.Passes config times store)
    (fails : ¬ sample.Completes config store) (n : Nat) :
    passed config sample store (List.replicate n (.attempt sample draws times)) = n := by
  have stays : step config store (.attempt sample draws times) = store := by
    obtain ⟨completes, _⟩ | ⟨_, stays⟩ := passed_cases fresh sound passes
    · exact absurd completes fails
    · exact stays
  induction n with
  | zero => rfl
  | succ n ih =>
    have here : PassesFor config sample store (.attempt sample draws times) :=
      ⟨⟨rfl, rfl⟩, passes⟩
    rw [List.replicate_succ, passed, if_pos here, stays, ih, Nat.add_comm]

/-- In every run the token of an attempt that passes the limiter stays taken exactly when the unit
of the attempt is not rolled back. Without such attempts, and while no time passes, a contact or
token passes no more often than the capacity; with one, it passes without end. -/
theorem attempts_charged_iff_completed (config : RuntimeConfig) (moves : List Move)
    (fresh : Along (step config) (Fresh config) .empty moves) :
    let store := run (step config) .empty moves
    (∀ (draws : Draws) (times : Times) (attempt : Attempt), DrawsFresh config draws store →
      attempt.Passes config times store →
        (attempt.Charged config draws times store ↔ attempt.Completes config store)) ∧
    (∀ sample time more, Along (step config) (Stalled config sample time) store more →
      (passed config sample store more : Int) ≤ sample.policy.capacity) ∧
    ∀ (draws : Draws) (times : Times) (attempt : Attempt), DrawsFresh config draws store →
      attempt.Passes config times store → ¬ attempt.Completes config store → ∀ n,
        passed config attempt store (List.replicate n (.attempt attempt draws times)) = n := by
  intro store
  have sound : TokenSound store.tokens := by
    let Kept : AuthStore → Prop := fun reached => TokenSound reached.tokens
    have every : ∀ reached move, Fresh config reached move → Kept reached →
        Kept (step config reached move) := step_tokenSound
    exact run_invariant_along every fresh empty_tokenSound
  refine ⟨fun draws times attempt new passes => charged_iff new sound passes, ?_, ?_⟩
  · intro sample time more stalled
    have held := passed_le_level stalled sound
    have filled : level config sample time store ≤ sample.policy.capacity := min_le_left _ _
    exact_mod_cast le_trans held filled
  · intro draws times attempt new passes fails n
    exact passed_of_fails new sound passes fails n

/-- Thirty-two bytes that tell apart texts with different last characters. -/
def sampleDigest (text : String) : Fingerprint :=
  ⟨((text.toList.reverse.map fun letter : Char => letter.toNat.toUInt8) ++
    List.replicate 32 0).take 32, by simp⟩

def sampleConfig : RuntimeConfig where
  lookup contact := sampleDigest contact.value
  verificationKey identityId lookup := sampleDigest (toString identityId ++ toString lookup.1)
  completionKey identityId challengeId :=
    sampleDigest (toString identityId ++ ":" ++ toString challengeId)
  tokenHash := sampleDigest
  familyId token := (token.splitOn ".").head?.bind String.toNat?
  refreshToken familyId secret := toString familyId ++ "." ++ secret
  hashPassword _ password := password
  verifyPassword verifier password := decide (verifier = password)
  needsUpgrade _ := false
  dummyVerifier := ""
  issueToken _ sessionId _ now := (toString sessionId, now + 1)
  protectorDigest challengeId secret := sampleDigest (toString challengeId ++ secret)
  protectorPresent := true
  deliveryPresent := true
  refreshLifetime := 1
  lifetime_positive := by decide

def sampleRequest : RegistrationRequest where
  contact := { kind := .email, value := "rider@example.org" }
  password := ⟨"twelve-letters", by decide⟩

def sampleDraws (number : Nat) (secret : String) : Draws where
  identityId := number
  passwordMethodId := 2 * number
  verificationMethodId := 2 * number + 1
  credentialId := number
  familyId := number
  sessionId := number
  rotationId := number
  challengeId := number
  secret
  salt := number
  code := ⟨"123456", by decide⟩

def sampleTimes : Times := { now := 0, databaseNow := 0 }

def sampleMoves : List Move :=
  [.attempt (.register sampleRequest) (sampleDraws 1 "first") sampleTimes]

private theorem sampleDraws_fresh : Along (step sampleConfig) (Fresh sampleConfig) .empty
    sampleMoves := by
  refine ⟨⟨nofun, nofun, nofun, by decide, nofun, nofun, nofun, nofun, nofun, nofun, ?_⟩, trivial⟩
  exact fun _ => ⟨nofun, nofun, nofun⟩

theorem attempts_charged_iff_completed_of_registration :
    let store := run (step sampleConfig) .empty sampleMoves
    (∀ (draws : Draws) (times : Times) (attempt : Attempt), DrawsFresh sampleConfig draws store →
      attempt.Passes sampleConfig times store → (attempt.Charged sampleConfig draws times store ↔
        attempt.Completes sampleConfig store)) ∧
    (∀ sample time more, Along (step sampleConfig) (Stalled sampleConfig sample time) store more →
      (passed sampleConfig sample store more : Int) ≤ sample.policy.capacity) ∧
    ∀ (draws : Draws) (times : Times) (attempt : Attempt), DrawsFresh sampleConfig draws store →
      attempt.Passes sampleConfig times store → ¬ attempt.Completes sampleConfig store → ∀ n,
        passed sampleConfig attempt store
          (List.replicate n (.attempt attempt draws times)) = n :=
  attempts_charged_iff_completed sampleConfig sampleMoves sampleDraws_fresh

private theorem sampleDigest_head {familyId : Uuid} :
    (sampleConfig.tokenHash (sampleConfig.refreshToken familyId "second")).1.head? =
      some 'd'.toNat.toUInt8 := by
  simp [sampleConfig, sampleDigest]

/-- A contact that is registered already passes the limiter when it registers again, and is given
its token back. -/
theorem known_contact_is_not_charged :
    let store := run (step sampleConfig) .empty sampleMoves
    DrawsFresh sampleConfig (sampleDraws 2 "second") store ∧
      (Attempt.register sampleRequest).Passes sampleConfig sampleTimes store ∧
      ¬ (Attempt.register sampleRequest).Charged sampleConfig (sampleDraws 2 "second") sampleTimes
        store := by
  intro store
  have apart : ∀ {rows : List Bytes},
      (∀ hash ∈ rows, hash.head? ≠ some 'd'.toNat.toUInt8) → ∀ familyId, ∀ hash ∈ rows, hash ≠
        (sampleConfig.tokenHash (sampleConfig.refreshToken familyId "second")).1 := by
    intro rows heads familyId hash stored same
    exact heads hash stored (same ▸ sampleDigest_head)
  have sessions : ∀ hash ∈ store.tokens.sessions.rows.map SessionRecord.tokenHash,
      hash.head? ≠ some 'd'.toNat.toUInt8 := by decide +kernel
  have families : ∀ hash ∈ store.tokens.families.rows.map TokenFamily.currentTokenHash,
      hash.head? ≠ some 'd'.toNat.toUInt8 := by decide +kernel
  have rotations : ∀ hash ∈ store.tokens.rotations.rows.map TokenRotation.tokenHash,
      hash.head? ≠ some 'd'.toNat.toUInt8 := by decide +kernel
  refine ⟨?_, by decide +kernel, by decide +kernel⟩
  refine ⟨by decide +kernel, by decide +kernel, by decide +kernel, by decide +kernel,
    by decide +kernel, by decide +kernel, by decide +kernel, by decide +kernel, by decide +kernel,
    by decide +kernel, fun familyId => ⟨?_, ?_, ?_⟩⟩
  · intro session stored
    exact apart sessions familyId _ (List.mem_map_of_mem stored)
  · intro family stored
    exact apart families familyId _ (List.mem_map_of_mem stored)
  · intro rotation stored
    exact apart rotations familyId _ (List.mem_map_of_mem stored)

end Ayo.Authentication.AttemptBound
