/- digest: Rate-limit policies, and one locked call on the token buckets. -/

import Ayo.Core.Values
import Ayo.Kernel.KeyedTable
import Ayo.Kernel.TokenBucket
import Mathlib.Algebra.Order.Floor.Ring
import Mathlib.Data.Rat.Floor

namespace Ayo.RateLimit.Models

open Kernel.KeyedTable Kernel.TokenBucket Core.Values

/-- A Python `bytes`. -/
abbrev Bytes := List UInt8

structure PolicyBounds (capacity : Int) (refillTokens : Rat) (refillPeriodSeconds : Int) : Prop where
  capacity_positive : 1 ≤ capacity
  capacity_le : capacity ≤ 1000000
  tokens_positive : 0 < refillTokens
  tokens_le : refillTokens ≤ 1000000
  period_positive : 1 ≤ refillPeriodSeconds
  period_le : refillPeriodSeconds ≤ 86400

structure RateLimitPolicy where
  name : Code
  capacity : Int
  refillTokens : Rat
  refillPeriodSeconds : Int
  bounds : PolicyBounds capacity refillTokens refillPeriodSeconds
deriving DecidableEq

structure RateLimitDecision where
  allowed : Bool
  remaining : Rat
  retryAfterSeconds : Int
  remaining_nonneg : 0 ≤ remaining
  retry_nonneg : 0 ≤ retryAfterSeconds

structure RateLimitBucket where
  keyHash : Bytes
  policyName : Code
  tokens : Rat
  lastRefillAt : Instant
  nonneg : 0 ≤ tokens
deriving DecidableEq

instance : Row RateLimitBucket (Bytes × Code) :=
  .keyed fun row => (row.keyHash, row.policyName)

def totalSeconds (duration : Int) : Rat := duration / 1000000

variable (policy : RateLimitPolicy)

def RateLimitPolicy.rate : Rat :=
  policy.refillTokens / policy.refillPeriodSeconds

theorem RateLimitPolicy.capacity_nonneg : (0 : Rat) ≤ policy.capacity := by
  have positive := policy.bounds.capacity_positive
  exact_mod_cast (by omega : 0 ≤ policy.capacity)

theorem RateLimitPolicy.rate_nonneg : 0 ≤ policy.rate := by
  have positive := policy.bounds.period_positive
  have period : (0 : Rat) ≤ policy.refillPeriodSeconds := by
    exact_mod_cast (by omega : 0 ≤ policy.refillPeriodSeconds)
  exact div_nonneg (le_of_lt policy.bounds.tokens_positive) period

namespace RateLimitBucket

def full (keyHash : Bytes) (policy : RateLimitPolicy) (now : Instant) : RateLimitBucket where
  keyHash
  policyName := policy.name
  tokens := policy.capacity
  lastRefillAt := now
  nonneg := policy.capacity_nonneg

def available (bucket : RateLimitBucket) (policy : RateLimitPolicy) (now : Instant) : Rat :=
  let elapsed := max 0 (totalSeconds (now - bucket.lastRefillAt))
  let refill := elapsed * policy.refillTokens / policy.refillPeriodSeconds
  min (policy.capacity : Rat) (bucket.tokens + refill)

def allows (bucket : RateLimitBucket) (policy : RateLimitPolicy) (cost : Int) (now : Instant) :
    Bool :=
  decide ((cost : Rat) ≤ bucket.available policy now)

def remaining (bucket : RateLimitBucket) (policy : RateLimitPolicy) (cost : Int) (now : Instant) :
    Rat :=
  if bucket.allows policy cost now = true then bucket.available policy now - cost
  else bucket.available policy now

def retryAfter (bucket : RateLimitBucket) (policy : RateLimitPolicy) (cost : Int)
    (now : Instant) : Int :=
  if bucket.allows policy cost now = true then 0
  else
    let missing := (cost : Rat) - bucket.remaining policy cost now
    ⌈missing * policy.refillPeriodSeconds / policy.refillTokens⌉

def level (bucket : RateLimitBucket) : Bucket Rat where
  tokens := bucket.tokens
  since := totalSeconds bucket.lastRefillAt

variable (bucket : RateLimitBucket) (policy : RateLimitPolicy) (cost : Int) (now : Instant)

theorem available_eq : bucket.available policy now =
      bucket.level.available (policy.capacity : Rat) policy.rate (totalSeconds now) := by
  have elapsed : totalSeconds (now - bucket.lastRefillAt) =
      totalSeconds now - totalSeconds bucket.lastRefillAt := by
    unfold totalSeconds
    push_cast
    ring
  unfold available Bucket.available level RateLimitPolicy.rate
  dsimp only
  rw [elapsed, mul_div_assoc]

theorem available_nonneg : 0 ≤ bucket.available policy now := by
  rw [available_eq]
  have held : 0 ≤ bucket.level.tokens := bucket.nonneg
  exact Bucket.available_nonneg policy.capacity_nonneg policy.rate_nonneg held

theorem remaining_nonneg : 0 ≤ bucket.remaining policy cost now := by
  unfold remaining allows
  split
  · next enough => exact sub_nonneg.2 (of_decide_eq_true enough)
  · exact bucket.available_nonneg policy now

theorem retryAfter_nonneg : 0 ≤ bucket.retryAfter policy cost now := by
  unfold retryAfter
  split
  · exact le_refl 0
  · next refused =>
    have short : bucket.available policy now < cost := by simpa [allows] using refused
    have missing : 0 ≤ (cost : Rat) - bucket.remaining policy cost now := by
      rw [remaining, if_neg refused]
      linarith
    have positive := policy.bounds.period_positive
    have period : (0 : Rat) ≤ policy.refillPeriodSeconds := by
      exact_mod_cast (by omega : 0 ≤ policy.refillPeriodSeconds)
    exact Int.ceil_nonneg
      (div_nonneg (mul_nonneg missing period) (le_of_lt policy.bounds.tokens_positive))

def spent : RateLimitBucket where
  keyHash := bucket.keyHash
  policyName := bucket.policyName
  tokens := bucket.remaining policy cost now
  lastRefillAt := now
  nonneg := bucket.remaining_nonneg policy cost now

def decision : RateLimitDecision where
  allowed := bucket.allows policy cost now
  remaining := bucket.remaining policy cost now
  retryAfterSeconds := bucket.retryAfter policy cost now
  remaining_nonneg := bucket.remaining_nonneg policy cost now
  retry_nonneg := bucket.retryAfter_nonneg policy cost now

theorem level_spent : (bucket.spent policy cost now).level =
      bucket.level.drawn (policy.capacity : Rat) policy.rate (totalSeconds now) cost := by
  have left : bucket.remaining policy cost now = bucket.available policy now -
        bucket.level.granted (policy.capacity : Rat) policy.rate (totalSeconds now) cost := by
    unfold remaining allows Bucket.granted
    rw [← available_eq]
    by_cases enough : (cost : Rat) ≤ bucket.available policy now
    · rw [if_pos (decide_eq_true enough), if_pos enough]
    · rw [if_neg (by simpa using enough), if_neg enough, sub_zero]
  unfold spent level Bucket.drawn
  dsimp only
  rw [left, available_eq]
  rfl

theorem granted_eq :
    bucket.level.granted (policy.capacity : Rat) policy.rate (totalSeconds now) cost =
      if bucket.allows policy cost now = true then (cost : Rat) else 0 := by
  unfold Bucket.granted allows
  rw [← available_eq]
  simp

variable {bucket : RateLimitBucket}

theorem available_of_counted (policy : RateLimitPolicy) {now : Instant}
    (counted : bucket.lastRefillAt = now) :
    bucket.available policy now = min (policy.capacity : Rat) bucket.tokens := by
  have elapsed : now - bucket.lastRefillAt = 0 := by
    rw [counted]
    exact Int.sub_self now
  unfold available totalSeconds
  simp [elapsed]

theorem available_spent (bucket : RateLimitBucket) (policy : RateLimitPolicy) (now : Instant) :
    (bucket.spent policy 1 now).available policy now = bucket.remaining policy 1 now := by
  have filled : bucket.available policy now ≤ policy.capacity := min_le_left _ _
  have left : bucket.remaining policy 1 now ≤ policy.capacity := by
    unfold remaining
    split
    · have one : (0 : Rat) ≤ ((1 : Int) : Rat) := by norm_num
      linarith
    · exact filled
  have counted : (bucket.spent policy 1 now).lastRefillAt = now := rfl
  rw [available_of_counted policy counted]
  exact min_eq_right left

theorem spent_ne {policy : RateLimitPolicy} {now : Instant}
    (allowed : bucket.allows policy 1 now = true) : bucket.spent policy 1 now ≠ bucket := by
  intro same
  have counted : bucket.lastRefillAt = now := congrArg RateLimitBucket.lastRefillAt same.symm
  have level := available_spent bucket policy now
  rw [same, remaining, if_pos allowed, Int.cast_one] at level
  linarith

end RateLimitBucket
end Ayo.RateLimit.Models

/-! One call on the token buckets: insert the bucket if absent, lock it, refill it and take the
cost. -/

namespace Ayo.RateLimit.Repository

open Kernel.UnitOfWork Kernel.KeyedTable Core.Values Models

abbrev RateLimitBuckets := Table RateLimitBucket

def lockedBucket (buckets : RateLimitBuckets) (keyHash : Bytes) (policy : RateLimitPolicy)
    (now : Instant) : RateLimitBucket :=
  (buckets.find (keyHash, policy.name)).getD (.full keyHash policy now)

theorem lockedBucket_of_found {buckets : RateLimitBuckets} {keyHash : Bytes}
    {policy : RateLimitPolicy} {now : Instant} {row : RateLimitBucket}
    (found : buckets.find (keyHash, policy.name) = some row) :
    lockedBucket buckets keyHash policy now = row := by
  unfold lockedBucket
  rw [found, Option.getD_some]

/-- `PostgresTokenBucketRateLimiter.consume`, with the reading of the database clock. -/
def consume (keyHash : Bytes) (policy : RateLimitPolicy) (cost : Int) (now : Instant) :
    Transaction RateLimitBuckets Failure RateLimitDecision := do
  require (keyHash.length = 32) (.value "Rate-limit key fingerprint must be 32 bytes")
  require (1 ≤ cost ∧ cost ≤ policy.capacity)
    (.value "Rate-limit cost must be within policy capacity")
  let buckets ← get
  -- On conflict do nothing: the bucket that is there stays.
  let present := (buckets.insert? (.full keyHash policy now)).getD buckets
  let row ← demand (present.find (keyHash, policy.name)) (.integrity "rate_limit_buckets")
  let updated ← demand (present.replace? (row.spent policy cost now))
    (.integrity "rate_limit_buckets")
  put updated
  pure (row.decision policy cost now)

section

variable {keyHash : Bytes} {policy : RateLimitPolicy} {cost : Int} {now : Instant}
  {buckets : RateLimitBuckets}

private theorem keyed_only (a b : RateLimitBucket) (clash : Row.clash a b) :
    Row.key a = Row.key b := clash

theorem find_present (keyHash : Bytes) (policy : RateLimitPolicy) (now : Instant)
    (buckets : RateLimitBuckets) (key : Bytes × Code) :
    ((buckets.insert? (.full keyHash policy now)).getD buckets).find key =
      if key = (keyHash, policy.name) then some (lockedBucket buckets keyHash policy now)
      else buckets.find key := by
  have own : Row.key (RateLimitBucket.full keyHash policy now) = (keyHash, policy.name) := rfl
  cases held : buckets.find (keyHash, policy.name) with
  | some row =>
    have refused : buckets.insert? (.full keyHash policy now) = none := by
      refine Option.eq_none_iff_forall_not_mem.2 fun inserted inserts => ?_
      have free := Table.find_eq_none_of_rows_append (Table.insert?_eq_some.1 inserts)
      rw [own, held] at free
      cases free
    rw [refused, Option.getD_none]
    by_cases same : key = (keyHash, policy.name)
    · rw [if_pos same, same, held, lockedBucket, held, Option.getD_some]
    · rw [if_neg same]
  | none =>
    have free : ∀ other ∈ buckets.rows, ¬ Row.clash other (.full keyHash policy now) :=
      Table.find_eq_none.1 held
    obtain ⟨inserted, rows⟩ := Table.exists_inserted free
    rw [Table.insert?_eq_some.2 rows, Option.getD_some, Table.find_of_rows_append rows, own]
    by_cases same : key = (keyHash, policy.name)
    · rw [if_pos same, same, held, if_pos rfl, lockedBucket, held, Option.getD_none, Option.none_or]
    · rw [if_neg same, if_neg (Ne.symm same), Option.or_none]

theorem exists_consumed (proper : keyHash.length = 32) (within : 1 ≤ cost ∧ cost ≤ policy.capacity)
    (now : Instant) (buckets : RateLimitBuckets) :
    ∃ t, consume keyHash policy cost now buckets =
        .ok ((lockedBucket buckets keyHash policy now).decision policy cost now, t) ∧
      ∀ key, t.find key = if key = (keyHash, policy.name) then
          some ((lockedBucket buckets keyHash policy now).spent policy cost now)
        else buckets.find key := by
  have present := find_present keyHash policy now buckets
  have found := present (keyHash, policy.name)
  rw [if_pos rfl] at found
  have named : Row.key (lockedBucket buckets keyHash policy now) = (keyHash, policy.name) :=
    Table.key_of_find found
  have own : Row.key ((lockedBucket buckets keyHash policy now).spent policy cost now) =
      (keyHash, policy.name) := named
  obtain ⟨t, rows⟩ := Table.exists_replaced
    ((buckets.insert? (.full keyHash policy now)).getD buckets)
    ((lockedBucket buckets keyHash policy now).spent policy cost now) keyed_only
  refine ⟨t, ?_, fun key => ?_⟩
  · unfold consume
    refine require_bind_ok.2 ⟨proper, require_bind_ok.2 ⟨within, get_bind_ok.2 ?_⟩⟩
    refine demand_bind_ok.2 ⟨_, found, demand_bind_ok.2 ⟨t, ?_, ?_⟩⟩
    · exact Table.replace?_eq_some.2 rows
    · exact put_bind_ok.2 (pure_ok.2 ⟨rfl, rfl⟩)
  · rw [Table.find_of_rows_replaced rows, own]
    by_cases same : key = (keyHash, policy.name)
    · rw [if_pos same, if_pos same, same, found, Option.map_some]
    · rw [if_neg same, if_neg same, present, if_neg same]

theorem consume_ok {t : RateLimitBuckets} {decision : RateLimitDecision}
    (ran : consume keyHash policy cost now buckets = .ok (decision, t)) :
    keyHash.length = 32 ∧ (1 ≤ cost ∧ cost ≤ policy.capacity) ∧
      decision = (lockedBucket buckets keyHash policy now).decision policy cost now ∧
      ∀ key, t.find key = if key = (keyHash, policy.name) then
          some ((lockedBucket buckets keyHash policy now).spent policy cost now)
        else buckets.find key := by
  have checked := ran
  unfold consume at checked
  simp only [require_bind_ok] at checked
  obtain ⟨proper, within, _⟩ := checked
  obtain ⟨result, returned, found⟩ := exists_consumed proper within now buckets
  rw [ran] at returned
  cases returned
  exact ⟨proper, within, rfl, found⟩

end
end Ayo.RateLimit.Repository
