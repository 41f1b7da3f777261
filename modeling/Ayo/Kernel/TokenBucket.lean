/- digest: What a clock adds up: tokens that flow into a bucket, and a stopwatch in whole units. -/

import Mathlib.Algebra.Order.Field.Basic
import Mathlib.Tactic.Linarith
import Mathlib.Tactic.Ring
import Mathlib.Data.List.Basic

namespace Ayo.Kernel.TokenBucket

variable {K : Type} [Field K] [LinearOrder K]

/-- The tokens of a bucket, and the time at which they were counted. -/
structure Bucket (K : Type) where
  (tokens since : K)

/-- The tokens at a time: those of the bucket and what flowed in since, up to the capacity. -/
def Bucket.available (capacity rate : K) (bucket : Bucket K) (time : K) : K :=
  min capacity (bucket.tokens + max 0 (time - bucket.since) * rate)

/-- What a draw takes: its cost where there are tokens enough, and nothing otherwise. -/
def Bucket.granted (capacity rate : K) (bucket : Bucket K) (time cost : K) : K :=
  if cost ≤ bucket.available capacity rate time then cost else 0

/-- The bucket after a draw. -/
def Bucket.drawn (capacity rate : K) (bucket : Bucket K) (time cost : K) : Bucket K where
  tokens := bucket.available capacity rate time - bucket.granted capacity rate time cost
  since := time

/-- What a draw at a time adds to the grants of a window. -/
def inWindow (first last time granted : K) : K :=
  if first ≤ time ∧ time ≤ last then granted else 0

/-- The grants of a window are within the bound, and while the bucket has not passed the end of
the window, so are they together with the tokens that are left. -/
structure WindowBound (capacity rate first last : K) (bucket : Bucket K) (total : K) : Prop where
  bounded : total ≤ capacity + (last - first) * rate
  tokens_nonneg : 0 ≤ bucket.tokens
  tokens_le : bucket.tokens ≤ capacity
  inside : bucket.since ≤ last → first ≤ bucket.since →
    total + bucket.tokens ≤ capacity + (bucket.since - first) * rate
  before : bucket.since < first → total = 0

variable [IsStrictOrderedRing K] {capacity rate first last time cost total : K} {bucket : Bucket K}

omit [IsStrictOrderedRing K] in
theorem Bucket.granted_nonneg (positive : 0 ≤ cost) :
    0 ≤ bucket.granted capacity rate time cost := by
  unfold Bucket.granted
  split
  · exact positive
  · exact le_refl 0

theorem Bucket.available_nonneg (room : 0 ≤ capacity) (flows : 0 ≤ rate)
    (nonneg : 0 ≤ bucket.tokens) : 0 ≤ bucket.available capacity rate time := by
  have inflow : 0 ≤ max 0 (time - bucket.since) * rate :=
    mul_nonneg (le_max_left 0 _) flows
  exact le_min room (add_nonneg nonneg inflow)

/-- No draw leaves a bucket with less than nothing. -/
theorem Bucket.drawn_tokens_nonneg (room : 0 ≤ capacity) (flows : 0 ≤ rate)
    (nonneg : 0 ≤ bucket.tokens) : 0 ≤ (bucket.drawn capacity rate time cost).tokens := by
  have held : 0 ≤ bucket.available capacity rate time :=
    Bucket.available_nonneg room flows nonneg
  unfold Bucket.drawn Bucket.granted
  dsimp only
  split
  · next enough => exact sub_nonneg.2 enough
  · rwa [sub_zero]

theorem Bucket.drawn_tokens_le (positive : 0 ≤ cost) :
    (bucket.drawn capacity rate time cost).tokens ≤ capacity := by
  have taken : 0 ≤ bucket.granted capacity rate time cost := Bucket.granted_nonneg positive
  have filled : bucket.available capacity rate time ≤ capacity := min_le_left _ _
  unfold Bucket.drawn
  dsimp only
  linarith

/-- What a draw in order grants and leaves is at most what there was and what flowed in. -/
theorem Bucket.drawn_tokens_add_granted (inOrder : bucket.since ≤ time) :
    (bucket.drawn capacity rate time cost).tokens + bucket.granted capacity rate time cost ≤
      bucket.tokens + (time - bucket.since) * rate := by
  have inflow : max 0 (time - bucket.since) = time - bucket.since :=
    max_eq_right (sub_nonneg.2 inOrder)
  have flowed : bucket.available capacity rate time ≤
      bucket.tokens + (time - bucket.since) * rate := by
    unfold Bucket.available
    rw [inflow]
    exact min_le_right _ _
  unfold Bucket.drawn
  dsimp only
  linarith

/-- A bucket that is made full has granted nothing. -/
theorem WindowBound.full (room : 0 ≤ capacity) (flows : 0 ≤ rate) (window : first ≤ last) :
    WindowBound capacity rate first last ⟨capacity, time⟩ 0 where
  bounded := by
    have inflow : 0 ≤ (last - first) * rate := mul_nonneg (sub_nonneg.2 window) flows
    linarith
  tokens_nonneg := room
  tokens_le := le_refl capacity
  inside := by
    intro _ started
    have inflow : 0 ≤ (time - first) * rate := mul_nonneg (sub_nonneg.2 started) flows
    dsimp only
    linarith
  before _ := rfl

/-- A draw at or after the time of the bucket keeps the grants of every window in bound. -/
theorem WindowBound.draw (flows : 0 ≤ rate) (positive : 0 ≤ cost) (inOrder : bucket.since ≤ time)
    (bound : WindowBound capacity rate first last bucket total) :
    WindowBound capacity rate first last (bucket.drawn capacity rate time cost)
      (total + inWindow first last time (bucket.granted capacity rate time cost)) := by
  have room : 0 ≤ capacity := le_trans bound.tokens_nonneg bound.tokens_le
  have nonneg : 0 ≤ (bucket.drawn capacity rate time cost).tokens :=
    Bucket.drawn_tokens_nonneg room flows bound.tokens_nonneg
  have tokens_le : (bucket.drawn capacity rate time cost).tokens ≤ capacity :=
    Bucket.drawn_tokens_le positive
  have spent : (bucket.drawn capacity rate time cost).tokens +
      bucket.granted capacity rate time cost ≤
        bucket.tokens + (time - bucket.since) * rate := Bucket.drawn_tokens_add_granted inOrder
  have since : (bucket.drawn capacity rate time cost).since = time := rfl
  -- Inside the window the grants and the tokens left are bounded by what flowed in so far.
  have covered : time ≤ last → first ≤ time → total + bucket.granted capacity rate time cost +
        (bucket.drawn capacity rate time cost).tokens ≤ capacity + (time - first) * rate := by
    intro ends starts
    by_cases earlier : bucket.since < first
    · have inflow : 0 ≤ (time - first) * rate := mul_nonneg (sub_nonneg.2 starts) flows
      have held : bucket.available capacity rate time ≤ capacity := min_le_left _ _
      have left : (bucket.drawn capacity rate time cost).tokens =
          bucket.available capacity rate time - bucket.granted capacity rate time cost := rfl
      rw [bound.before earlier, left]
      linarith
    · have held := bound.inside (le_trans inOrder ends) (not_lt.1 earlier)
      have split : (time - first) * rate =
          (time - bucket.since) * rate + (bucket.since - first) * rate := by ring
      rw [split]
      linarith
  refine ⟨?_, nonneg, tokens_le, ?_, ?_⟩
  · unfold inWindow
    split
    · next within =>
      have held := covered within.2 within.1
      have longer : (time - first) * rate ≤ (last - first) * rate :=
        mul_le_mul_of_nonneg_right (sub_le_sub_right within.2 first) flows
      linarith
    · rw [add_zero]
      exact bound.bounded
  · intro ends starts
    rw [since] at ends starts ⊢
    rw [inWindow, if_pos ⟨starts, ends⟩]
    exact covered ends starts
  · intro earlier
    rw [since] at earlier
    rw [inWindow, if_neg fun within => absurd within.1 (not_le.2 earlier), add_zero]
    exact bound.before (lt_of_le_of_lt inOrder earlier)

end Ayo.Kernel.TokenBucket

namespace Ayo.Kernel.Elapsed

/-- What the intervals that have ended count, and the start of the one that goes on. -/
structure Stopwatch where
  counted : Int
  since : Option Int

namespace Stopwatch

def idle : Stopwatch := ⟨0, none⟩

/-- The units counted up to a time, those of the interval that goes on included. -/
def reading (unit : Int) (watch : Stopwatch) (now : Int) : Int :=
  watch.counted + watch.since.elim 0 fun start => (now - start) / unit

/-- At an observation the stopwatch goes on or starts, or it stops. -/
def observe (unit : Int) (watch : Stopwatch) (observation : Bool × Int) : Stopwatch :=
  if observation.1 = true then
    { watch with since := some (watch.since.getD observation.2) }
  else
    { counted := watch.reading unit observation.2, since := none }

/-- The stopwatch after observations, each of them whether it runs and at what time. -/
def after (unit : Int) (observations : List (Bool × Int)) : Stopwatch :=
  observations.foldl (observe unit) idle

variable {unit : Int}

theorem after_append (observations : List (Bool × Int)) (last : Bool × Int) :
    after unit (observations ++ [last]) = (after unit observations).observe unit last := by
  simp [after, List.foldl_append]

theorem reading_stopped (counted now : Int) :
    (⟨counted, none⟩ : Stopwatch).reading unit now = counted := by
  simp [reading]

theorem reading_running (counted start now : Int) :
    (⟨counted, some start⟩ : Stopwatch).reading unit now = counted + (now - start) / unit := rfl

theorem observe_running (watch : Stopwatch) (time : Int) :
    watch.observe unit (true, time) = ⟨watch.counted, some (watch.since.getD time)⟩ := rfl

theorem observe_stopped (watch : Stopwatch) (time : Int) :
    watch.observe unit (false, time) = ⟨watch.reading unit time, none⟩ := rfl

end Stopwatch

end Ayo.Kernel.Elapsed
