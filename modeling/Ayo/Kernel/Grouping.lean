/- digest: Rounding of ratios, and sums split by a key and gathered again. -/

import Mathlib.Algebra.BigOperators.Group.List.Basic
import Mathlib.Algebra.Order.BigOperators.Group.List
import Mathlib.Tactic.Ring

namespace Ayo.Kernel.Rounding

/-- `(numerator + denominator // 2) // denominator`. -/
def halfUp (numerator denominator : Int) : Int := (numerator + denominator / 2) / denominator

variable {denominator numerator bound : Int}

/-- A ratio that is not negative is not rounded below zero. -/
theorem halfUp_nonneg (nonneg : 0 ≤ numerator) (positive : 0 < denominator) :
    0 ≤ halfUp numerator denominator := by
  have half : 0 ≤ denominator / 2 := Int.ediv_nonneg (Int.le_of_lt positive) (by decide)
  exact Int.ediv_nonneg (by omega) (Int.le_of_lt positive)

/-- An integer at or above the ratio is at or above what the ratio is rounded to. -/
theorem halfUp_le (positive : 0 < denominator) (le : numerator ≤ bound * denominator) :
    halfUp numerator denominator ≤ bound := by
  have half : denominator / 2 < denominator := by omega
  have below : numerator + denominator / 2 < (bound + 1) * denominator := by
    have expand : (bound + 1) * denominator = bound * denominator + denominator := by
      rw [Int.add_mul, Int.one_mul]
    omega
  have lt : halfUp numerator denominator < bound + 1 := Int.ediv_lt_of_lt_mul positive below
  omega

/-- Rounding keeps the order of the numerators. -/
theorem halfUp_mono {first second : Int} (positive : 0 < denominator) (le : first ≤ second) :
    halfUp first denominator ≤ halfUp second denominator :=
  Int.ediv_le_ediv positive (by omega)

/-- Multiples of the denominator are rounded exactly. -/
theorem halfUp_add_mul {multiple : Int} (positive : 0 < denominator) :
    halfUp (numerator + multiple * denominator) denominator =
      halfUp numerator denominator + multiple := by
  have moved : numerator + multiple * denominator + denominator / 2 =
      numerator + denominator / 2 + multiple * denominator := by omega
  rw [halfUp, moved, Int.add_mul_ediv_right _ _ (by omega), halfUp]

/-- A multiple of the denominator is reached where the distance to it is half at most. -/
theorem le_halfUp (positive : 0 < denominator) :
    bound ≤ halfUp numerator denominator ↔
      denominator ≤ 2 * (numerator + denominator - bound * denominator) := by
  rw [halfUp, Int.le_ediv_iff_mul_le positive]
  constructor
  · intro le
    omega
  · intro near
    omega

/-- A ratio is rounded down by less than half of its denominator. -/
theorem lt_halfUp_mul (positive : 0 < denominator) :
    2 * (numerator - halfUp numerator denominator * denominator) < denominator := by
  have below := Int.lt_ediv_add_one_mul_self (numerator + denominator / 2) positive
  rw [Int.add_mul, Int.one_mul] at below
  unfold halfUp
  omega

example : halfUp 5 10 = 1 ∧ halfUp 4 10 = 0 := by decide

end Ayo.Kernel.Rounding

/-! Sums over rows, split by a key and gathered again. -/

namespace Ayo.Kernel.Grouping

variable {ρ κ : Type} [DecidableEq κ] {select : ρ → Bool} {weight : ρ → Int} {rows : List ρ}

/-- The weight of the rows that a test selects. -/
def total (weight : ρ → Int) (select : ρ → Bool) (rows : List ρ) : Int :=
  ((rows.filter select).map weight).sum

@[simp] theorem total_nil (weight : ρ → Int) (select : ρ → Bool) : total weight select [] = 0 := rfl

theorem total_cons (weight : ρ → Int) (select : ρ → Bool) (row : ρ) (rows : List ρ) :
    total weight select (row :: rows) =
      (if select row then weight row else 0) + total weight select rows := by
  by_cases selected : select row <;> simp [total, selected]

theorem total_append (weight : ρ → Int) (select : ρ → Bool) (first second : List ρ) :
    total weight select (first ++ second) =
      total weight select first + total weight select second := by
  simp [total]

theorem total_congr {other : ρ → Bool} (same : ∀ row ∈ rows, select row = other row) :
    total weight select rows = total weight other rows := by
  rw [total, total, List.filter_congr same]

theorem total_eq_zero (none : ∀ row ∈ rows, select row = false) : total weight select rows = 0 := by
  rw [total, List.filter_eq_nil_iff.2 (by simpa using none)]
  rfl

theorem total_filter (weight : ρ → Int) (select keep : ρ → Bool) (rows : List ρ) :
    total weight select (rows.filter keep) =
      total weight (fun row => select row && keep row) rows := by
  simp [total, List.filter_filter]

/-- Rows without weight do not count. -/
theorem total_filter_positive (nonneg : ∀ row ∈ rows, 0 ≤ weight row) :
    total weight select (rows.filter fun row => 0 < weight row) = total weight select rows := by
  induction rows with
  | nil => rfl
  | cons row rows ih =>
    have rest := ih fun later mem => nonneg later (List.mem_cons_of_mem _ mem)
    have own := nonneg row (List.mem_cons_self ..)
    by_cases positive : 0 < weight row
    · rw [List.filter_cons_of_pos (by simpa using positive), total_cons, total_cons, rest]
    · have weightless : weight row = 0 := by omega
      rw [List.filter_cons_of_neg (by simpa using positive), rest, total_cons, weightless, ite_self,
        zero_add]

theorem sum_map_sub (first second : ρ → Int) (rows : List ρ) :
    (rows.map fun row => first row - second row).sum =
      (rows.map first).sum - (rows.map second).sum := by
  induction rows with
  | nil => rfl
  | cons row rows ih =>
    simp only [List.map_cons, List.sum_cons, ih]
    ring

theorem total_map {τ : Type} (weight : ρ → Int) (select : ρ → Bool) (make : τ → ρ) (rows : List τ) :
    total weight select (rows.map make) =
      total (fun row => weight (make row)) (fun row => select (make row)) rows := by
  induction rows with
  | nil => rfl
  | cons row rows ih => simp only [List.map_cons, total_cons, ih]

/-- A row whose key occurs once among the keys is counted once. -/
private theorem sum_indicator (k : κ) (amount : Int) (keys : List κ) (nodup : keys.Nodup)
    (mem : k ∈ keys) : (keys.map fun key => if k = key then amount else 0).sum = amount := by
  induction keys with
  | nil => simp at mem
  | cons first rest ih =>
    obtain ⟨fresh, nodup⟩ := List.nodup_cons.1 nodup
    by_cases same : k = first
    · have none_later : (rest.map fun key => if k = key then amount else 0).sum = 0 := by
        refine List.sum_eq_zero fun value occurs => ?_
        obtain ⟨key, later, rfl⟩ := List.mem_map.1 occurs
        have different : k ≠ key := fun equal => fresh (by rwa [← same, equal])
        simp [different]
      rw [List.map_cons, List.sum_cons, none_later, if_pos same, add_zero]
    · have later : k ∈ rest := (List.mem_cons.1 mem).resolve_left same
      rw [List.map_cons, List.sum_cons, if_neg same, zero_add, ih nodup later]

/-- Totals by key, over a list of keys that names every key once, add up to the whole total. -/
theorem sum_totals_by_key (weight : ρ → Int) (select : ρ → Bool) (key : ρ → κ) (keys : List κ)
    (nodup : keys.Nodup) (rows : List ρ) (named : ∀ row ∈ rows, key row ∈ keys) :
    (keys.map fun k => total weight (fun row => key row = k && select row) rows).sum =
      total weight select rows := by
  induction rows with
  | nil => simp
  | cons row rows ih =>
    have named_rest : ∀ later ∈ rows, key later ∈ keys := fun later mem =>
      named later (List.mem_cons_of_mem _ mem)
    have split_row : ∀ k, total weight (fun row => key row = k && select row) (row :: rows) =
        (if key row = k then (if select row then weight row else 0) else 0) +
          total weight (fun row => key row = k && select row) rows := by
      intro k
      rw [total_cons]
      by_cases same : key row = k <;> simp [same]
    simp only [split_row, List.sum_map_add, ih named_rest, total_cons]
    rw [sum_indicator (key row) _ keys nodup (named row List.mem_cons_self)]

end Ayo.Kernel.Grouping
