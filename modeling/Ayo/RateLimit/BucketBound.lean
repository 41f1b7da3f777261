/- digest: What a bucket allows in a window while its calls come in clock order. -/

import Ayo.RateLimit.Repository
import Ayo.Kernel.Run

namespace Ayo.RateLimit.BucketBound

open Kernel.Run Kernel.TokenBucket Core.Values Models Repository

structure Call where
  keyHash : Bytes
  policy : RateLimitPolicy
  cost : Int

structure Reading where
  call : Call
  now : Instant

structure Answer where
  reading : Reading
  allowed : Bool

structure Limiter where
  clock : Instant
  waiting : List Reading
  buckets : RateLimitBuckets
  answered : List Answer

/-- A call comes and reads the clock some time later, or a waiting call takes its row lock and
runs to completion. -/
inductive Move where
  | read (elapsed : Nat) (call : Call)
  | complete (index : Nat)

def Limiter.answer (limiter : Limiter) (reading : Reading) : Limiter :=
  let call := reading.call
  match consume call.keyHash call.policy call.cost reading.now limiter.buckets with
  | .ok (decision, buckets) =>
    { limiter with
      buckets
      answered := limiter.answered ++ [⟨reading, decision.allowed⟩] }
  | .error _ => limiter

def step (limiter : Limiter) : Move → Limiter
  | .read elapsed call =>
    let now := limiter.clock + elapsed
    { limiter with clock := now, waiting := limiter.waiting ++ [⟨call, now⟩] }
  | .complete index =>
    match limiter.waiting[index]? with
    | none => limiter
    | some reading =>
      ({ limiter with waiting := limiter.waiting.eraseIdx index } : Limiter).answer reading

def initial (start : Instant) : Limiter where
  clock := start
  waiting := []
  buckets := .empty
  answered := []

variable (keyHash : Bytes) (policy : RateLimitPolicy)

def Call.On (call : Call) : Prop :=
  call.keyHash = keyHash ∧ call.policy = policy
deriving Decidable

def Answer.allowedIn (first last : Rat) (answer : Answer) : Rat :=
  if answer.reading.call.On keyHash policy ∧ answer.allowed = true then
    inWindow first last (totalSeconds answer.reading.now) answer.reading.call.cost
  else 0

/-- The total cost allowed on a bucket to calls whose clock readings fall in a window. -/
def Limiter.allowedIn (first last : Rat) (limiter : Limiter) : Rat :=
  (limiter.answered.map fun answer => answer.allowedIn keyHash policy first last).sum

/-- In every interval of length `T` a bucket allows at most its capacity and what flows in. -/
def Bounded (limiter : Limiter) : Prop :=
  ∀ first T : Rat, 0 ≤ T → limiter.allowedIn keyHash policy first (first + T) ≤
    policy.capacity + T * policy.refillTokens / policy.refillPeriodSeconds

def Governed : Move → Prop
  | .read _ call => call.policy.name = policy.name → call.policy = policy
  | .complete _ => True

/-- A call that takes the row lock of a bucket read the clock no earlier than the bucket was last
refilled. -/
def InOrder (limiter : Limiter) : Move → Prop
  | .read _ _ => True
  | .complete index => ∀ reading ∈ limiter.waiting[index]?, reading.call.On keyHash policy →
      ∀ bucket ∈ limiter.buckets.find (keyHash, policy.name), bucket.lastRefillAt ≤ reading.now

instance (policy : RateLimitPolicy) : DecidablePred (Governed policy)
  | .read _ _ => inferInstanceAs (Decidable (_ → _))
  | .complete _ => .isTrue trivial

instance (keyHash : Bytes) (policy : RateLimitPolicy) (limiter : Limiter) :
    DecidablePred (InOrder keyHash policy limiter)
  | .read _ _ => .isTrue trivial
  | .complete _ => inferInstanceAs (Decidable (∀ reading ∈ _, _ → ∀ bucket ∈ _, _ ≤ _))

/-- What is known of a bucket and a window along a run. -/
structure Sound (keyHash : Bytes) (policy : RateLimitPolicy) (first last : Rat)
    (limiter : Limiter) : Prop where
  governed : ∀ reading ∈ limiter.waiting, reading.call.policy.name = policy.name →
    reading.call.policy = policy
  unused : limiter.buckets.find (keyHash, policy.name) = none →
    limiter.allowedIn keyHash policy first last = 0
  bound : ∀ bucket ∈ limiter.buckets.find (keyHash, policy.name),
    WindowBound (policy.capacity : Rat) policy.rate first last bucket.level
      (limiter.allowedIn keyHash policy first last)

section

variable {keyHash : Bytes} {policy : RateLimitPolicy} {first last : Rat} {limiter : Limiter}
  {reading : Reading}

theorem answer_cases (limiter : Limiter) (reading : Reading) : limiter.answer reading = limiter ∨
      let bucket := lockedBucket limiter.buckets reading.call.keyHash reading.call.policy
        reading.now
      1 ≤ reading.call.cost ∧
      (limiter.answer reading).waiting = limiter.waiting ∧
      (limiter.answer reading).answered = limiter.answered ++
        [⟨reading, bucket.allows reading.call.policy reading.call.cost reading.now⟩] ∧
      ∀ key, (limiter.answer reading).buckets.find key =
        if key = (reading.call.keyHash, reading.call.policy.name) then
          some (bucket.spent reading.call.policy reading.call.cost reading.now)
        else limiter.buckets.find key := by
  cases outcome : consume reading.call.keyHash reading.call.policy reading.call.cost reading.now
      limiter.buckets with
  | error failure => exact .inl (by simp only [Limiter.answer, outcome])
  | ok result =>
    obtain ⟨decision, buckets⟩ := result
    obtain ⟨_, within, rfl, found⟩ := consume_ok outcome
    refine .inr ⟨within.1, ?_, ?_, fun key => ?_⟩
    · simp only [Limiter.answer, outcome]
    · simp only [Limiter.answer, outcome]
      rfl
    · simp only [Limiter.answer, outcome]
      exact found key

theorem allowedIn_append {answer : Answer} {t : Limiter}
    (answered : t.answered = limiter.answered ++ [answer]) :
    t.allowedIn keyHash policy first last = limiter.allowedIn keyHash policy first last +
        answer.allowedIn keyHash policy first last := by
  unfold Limiter.allowedIn
  rw [answered, List.map_append, List.sum_append]
  simp

private theorem locked_bound (sound : Sound keyHash policy first last limiter)
    (window : first ≤ last) (now : Instant) :
    WindowBound (policy.capacity : Rat) policy.rate first last
      (lockedBucket limiter.buckets keyHash policy now).level
      (limiter.allowedIn keyHash policy first last) := by
  unfold lockedBucket
  cases held : limiter.buckets.find (keyHash, policy.name) with
  | some bucket => exact sound.bound bucket held
  | none =>
    rw [sound.unused held]
    exact WindowBound.full policy.capacity_nonneg policy.rate_nonneg window

theorem Sound.answer (sound : Sound keyHash policy first last limiter) (window : first ≤ last)
    (governed : reading.call.policy.name = policy.name → reading.call.policy = policy)
    (inOrder : reading.call.On keyHash policy →
      ∀ bucket ∈ limiter.buckets.find (keyHash, policy.name), bucket.lastRefillAt ≤ reading.now) :
    Sound keyHash policy first last (limiter.answer reading) := by
  obtain stays | ⟨positive, waiting, answered, found⟩ := answer_cases limiter reading
  · rw [stays]
    exact sound
  have total : (limiter.answer reading).allowedIn keyHash policy first last =
      limiter.allowedIn keyHash policy first last +
        Answer.allowedIn keyHash policy first last _ := allowedIn_append answered
  by_cases own : reading.call.On keyHash policy
  · obtain ⟨sameKey, samePolicy⟩ := own
    rw [sameKey, samePolicy] at found answered total
    have stored := found (keyHash, policy.name)
    rw [if_pos rfl] at stored
    refine ⟨by rw [waiting]; exact sound.governed, ?_, ?_⟩
    · intro free
      rw [stored] at free
      cases free
    · intro bucket held
      obtain rfl : _ = bucket := Option.some_inj.1 (stored.symm.trans held)
      have cost : (0 : Rat) ≤ reading.call.cost := by
        exact_mod_cast (by omega : 0 ≤ reading.call.cost)
      have ordered : (lockedBucket limiter.buckets keyHash policy reading.now).level.since ≤
          totalSeconds reading.now := by
        have earlier : (lockedBucket limiter.buckets keyHash policy reading.now).lastRefillAt ≤
            reading.now := by
          unfold lockedBucket
          cases present : limiter.buckets.find (keyHash, policy.name) with
          | none => exact Int.le_refl _
          | some bucket => exact inOrder ⟨sameKey, samePolicy⟩ bucket present
        unfold RateLimitBucket.level totalSeconds
        dsimp only
        have cast : ((lockedBucket limiter.buckets keyHash policy reading.now).lastRefillAt : Rat) ≤
            reading.now := by exact_mod_cast earlier
        linarith
      have drawn := (locked_bound sound window reading.now).draw policy.rate_nonneg cost ordered
      rw [RateLimitBucket.level_spent, total, Answer.allowedIn]
      rw [RateLimitBucket.granted_eq] at drawn
      by_cases allowed : (lockedBucket limiter.buckets keyHash policy reading.now).allows policy
          reading.call.cost reading.now = true
      · rw [if_pos allowed] at drawn
        rw [if_pos ⟨⟨sameKey, samePolicy⟩, allowed⟩]
        exact drawn
      · rw [if_neg allowed] at drawn
        rw [if_neg fun both => allowed both.2]
        simpa [inWindow] using drawn
  · have apart : (keyHash, policy.name) ≠ (reading.call.keyHash, reading.call.policy.name) := by
      intro same
      obtain ⟨sameKey, sameName⟩ := Prod.mk.inj same
      exact own ⟨sameKey.symm, governed sameName.symm⟩
    have kept := found (keyHash, policy.name)
    rw [if_neg apart] at kept
    rw [Answer.allowedIn, if_neg fun both => own both.1, add_zero] at total
    refine ⟨by rw [waiting]; exact sound.governed, ?_, ?_⟩
    · rw [kept, total]
      exact sound.unused
    · rw [kept, total]
      exact sound.bound

end

section

variable {keyHash : Bytes} {policy : RateLimitPolicy} {first last : Rat}

theorem initial_sound (start : Instant) : Sound keyHash policy first last (initial start) where
  governed := by
    intro reading waits
    cases waits
  unused _ := rfl
  bound := by
    intro bucket held
    cases held

theorem step_sound (window : first ≤ last) (limiter : Limiter) (move : Move)
    (meets : Governed policy move ∧ InOrder keyHash policy limiter move)
    (sound : Sound keyHash policy first last limiter) :
    Sound keyHash policy first last (step limiter move) := by
  obtain ⟨governed, inOrder⟩ := meets
  cases move with
  | read =>
    refine ⟨?_, sound.unused, sound.bound⟩
    intro reading waits
    obtain stays | comes := List.mem_append.1 waits
    · exact sound.governed reading stays
    · obtain rfl := List.mem_singleton.1 comes
      exact governed
  | complete index =>
    unfold step
    dsimp only
    cases taken : limiter.waiting[index]? with
    | none => exact sound
    | some reading =>
      have waits : reading ∈ limiter.waiting := List.mem_of_getElem? taken
      have left : Sound keyHash policy first last
          { limiter with waiting := limiter.waiting.eraseIdx index } :=
        ⟨fun other stays => sound.governed other (List.mem_of_mem_eraseIdx stays), sound.unused,
          sound.bound⟩
      exact left.answer window (sound.governed reading waits) (inOrder reading taken)

end

/-- While the calls on a bucket take its row lock in the order of their clock readings, the bucket
allows no more than its capacity and the refill of the interval, in every interval. -/
theorem allowed_within_capacity_and_refill (keyHash : Bytes) (policy : RateLimitPolicy)
    (start : Instant) (moves : List Move)
    (along : Along step (fun limiter move =>
      Governed policy move ∧ InOrder keyHash policy limiter move) (initial start) moves) :
    Bounded keyHash policy (run step (initial start) moves) := by
  intro first T nonneg
  have window : first ≤ first + T := le_add_of_nonneg_right nonneg
  have sound : Sound keyHash policy first (first + T) (run step (initial start) moves) :=
    run_invariant_along (step_sound window) along (initial_sound start)
  have rate : T * policy.refillTokens / policy.refillPeriodSeconds = T * policy.rate :=
    mul_div_assoc T policy.refillTokens _
  rw [rate]
  cases stored : (run step (initial start) moves).buckets.find (keyHash, policy.name) with
  | none =>
    rw [sound.unused stored]
    exact add_nonneg policy.capacity_nonneg (mul_nonneg nonneg policy.rate_nonneg)
  | some bucket =>
    have bounded := (sound.bound bucket stored).bounded
    rwa [add_sub_cancel_left] at bounded

theorem pair_bounds : PolicyBounds 2 1 1 := by
  constructor <;> norm_num

def pairPolicy : RateLimitPolicy where
  name := ⟨"auth.pair", by decide⟩
  capacity := 2
  refillTokens := 1
  refillPeriodSeconds := 1
  bounds := pair_bounds

def pairKey : Bytes := List.replicate 32 7

def pairCall (cost : Int) : Call := ⟨pairKey, pairPolicy, cost⟩

theorem allowed_within_capacity_and_refill_of_three_calls :
    Bounded pairKey pairPolicy (run step (initial 0)
      [.read 0 (pairCall 2), .complete 0, .read 1500000 (pairCall 1), .read 500000 (pairCall 1),
        .complete 0, .complete 0]) :=
  allowed_within_capacity_and_refill pairKey pairPolicy 0 _ (by decide +kernel)

/-- A call that read the clock two seconds before another, and takes the lock after it, sets the
bucket back by these two seconds, and they are refilled twice. -/
theorem late_lock_exceeds_capacity :
    ¬ Bounded pairKey pairPolicy (run step (initial 0)
      [.read 0 (pairCall 2), .complete 0, .read 0 (pairCall 1), .read 2000000 (pairCall 2),
        .complete 1, .complete 0, .read 0 (pairCall 2), .complete 0]) := by
  intro bounded
  have exceeded : ¬ (run step (initial 0)
      [.read 0 (pairCall 2), .complete 0, .read 0 (pairCall 1), .read 2000000 (pairCall 2),
        .complete 1, .complete 0, .read 0 (pairCall 2), .complete 0]).allowedIn
        pairKey pairPolicy 2 (2 + 0) ≤
      pairPolicy.capacity + 0 * pairPolicy.refillTokens / pairPolicy.refillPeriodSeconds := by
    decide +kernel
  exact exceeded (bounded 2 0 (le_refl 0))

end Ayo.RateLimit.BucketBound
