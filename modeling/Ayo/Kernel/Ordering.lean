/- digest: Rows in the order of a key, as a query with an ORDER BY clause returns them. -/

import Mathlib.Data.List.Sort
import Mathlib.Data.Prod.Lex

namespace Ayo.Kernel.Ordering

variable {ρ κ : Type} [LinearOrder κ] {rows : List ρ} {key : ρ → κ}

/-- The rows in ascending order of a key; rows of equal keys keep their order. -/
def orderedBy (key : ρ → κ) (rows : List ρ) : List ρ :=
  rows.insertionSort fun a b => key a ≤ key b

@[simp] theorem mem_orderedBy {row : ρ} : row ∈ orderedBy key rows ↔ row ∈ rows :=
  List.mem_insertionSort _

theorem orderedBy_map {α : Type} (read : α → ρ) (key : ρ → κ) (rows : List α) :
    orderedBy key (rows.map read) = (orderedBy (fun row => key (read row)) rows).map read :=
  (List.map_insertionSort _ _ read rows fun _ _ _ _ => Iff.rfl).symm

/-- Rows that stand in ascending order stay as they are. -/
theorem orderedBy_of_pairwise (ascending : rows.Pairwise fun a b => key a ≤ key b) :
    orderedBy key rows = rows :=
  ascending.insertionSort_eq

theorem pairwise_orderedBy (key : ρ → κ) (rows : List ρ) :
    (orderedBy key rows).Pairwise fun a b => key a ≤ key b := by
  have : Std.Total fun a b : ρ => key a ≤ key b := ⟨fun a b => le_total (key a) (key b)⟩
  have : IsTrans ρ fun a b => key a ≤ key b := ⟨fun _ _ _ => le_trans⟩
  exact List.pairwise_insertionSort _ _

/-- Rows in strictly ascending order are the order of every permutation of them. -/
theorem orderedBy_of_perm {sorted : List ρ} (same : rows.Perm sorted)
    (ascending : sorted.Pairwise fun a b => key a < key b) : orderedBy key rows = sorted := by
  have distinct : (sorted.map key).Nodup :=
    List.pairwise_map.2 (ascending.imp fun less => ne_of_lt less)
  have permuted : (orderedBy key rows).Perm sorted := (List.perm_insertionSort _ rows).trans same
  refine permuted.eq_of_pairwise ?_ (pairwise_orderedBy key rows) (ascending.imp le_of_lt)
  intro a b first second le ge
  exact List.inj_on_of_nodup_map distinct (permuted.mem_iff.1 first) second (le_antisymm le ge)

/-- Rows that their keys tell apart have one order, however they are arranged. -/
theorem orderedBy_congr_perm {other : List ρ} (same : rows.Perm other)
    (apart : ∀ ⦃a⦄, a ∈ other → ∀ ⦃b⦄, b ∈ other → key a = key b → a = b) :
    orderedBy key rows = orderedBy key other := by
  have first : (orderedBy key rows).Perm other := (List.perm_insertionSort _ rows).trans same
  have second : (orderedBy key other).Perm other := List.perm_insertionSort _ other
  refine (first.trans second.symm).eq_of_pairwise ?_ (pairwise_orderedBy key rows)
    (pairwise_orderedBy key other)
  intro a b here there le ge
  exact apart (first.mem_iff.1 here) (second.mem_iff.1 there) (le_antisymm le ge)

/-- A row added below one of the rows in strictly ascending order is put before a row. -/
theorem orderedBy_append_below {added : ρ} (ascending : rows.Pairwise fun a b => key a < key b)
    (apart : ∀ row ∈ rows, key row ≠ key added) (below : ∃ row ∈ rows, key added < key row) :
    ∃ front next back, rows = front ++ next :: back ∧
      orderedBy key (rows ++ [added]) = front ++ added :: next :: back := by
  have exceeds : (rows.find? fun row => key added < key row).isSome = true := by
    simpa [List.find?_isSome] using below
  obtain ⟨next, found⟩ := Option.isSome_iff_exists.1 exceeds
  obtain ⟨less, front, back, rfl, missed⟩ := List.find?_eq_some_iff_append.1 found
  have less : key added < key next := by simpa using less
  obtain ⟨frontAscends, restAscends, across⟩ := List.pairwise_append.1 ascending
  refine ⟨front, next, back, rfl, orderedBy_of_perm ?_ ?_⟩
  · rw [List.append_assoc]
    exact (List.perm_append_singleton added (next :: back)).append_left front
  · refine List.pairwise_append.2 ⟨frontAscends, List.pairwise_cons.2 ⟨?_, restAscends⟩, ?_⟩
    · intro row mem
      rcases List.mem_cons.1 mem with rfl | later
      · exact less
      · exact less.trans ((List.pairwise_cons.1 restAscends).1 row later)
    · intro row earlier other mem
      rcases List.mem_cons.1 mem with rfl | later
      · have least : key row ≤ key other := by simpa using missed row earlier
        exact lt_of_le_of_ne least (apart row (List.mem_append_left _ earlier))
      · exact across row earlier other later

/-- A row stands in the order behind the rows of lower keys. -/
theorem exists_split_orderedBy {row : ρ} (mem : row ∈ rows) (distinct : (rows.map key).Nodup) :
    ∃ front back, orderedBy key rows = front ++ row :: back ∧
      front.length = rows.countP fun other => decide (key other < key row) := by
  have permuted : (orderedBy key rows).Perm rows := List.perm_insertionSort _ rows
  have sorted := pairwise_orderedBy key rows
  have apart : ((orderedBy key rows).map key).Nodup := (permuted.map key).nodup_iff.2 distinct
  have placed : row ∈ orderedBy key rows := mem_orderedBy.2 mem
  obtain ⟨front, back, split⟩ := List.append_of_mem placed
  rw [split] at sorted apart
  obtain ⟨_, follows, across⟩ := List.pairwise_append.1 sorted
  -- Every row of the front precedes the row, and no row behind it does.
  have precedes : ∀ other ∈ front, key other < key row := by
    intro other earlier
    refine lt_of_le_of_ne (across other earlier row List.mem_cons_self) fun same => ?_
    rw [List.map_append, List.map_cons] at apart
    have disjoint := (List.nodup_append.1 apart).2.2
    exact disjoint (key other) (List.mem_map_of_mem earlier) (key row) List.mem_cons_self same
  have count : front.countP (fun other => decide (key other < key row)) = front.length :=
    List.countP_eq_length.2 fun other earlier => decide_eq_true (precedes other earlier)
  have behind : back.countP (fun other => decide (key other < key row)) = 0 := by
    refine List.countP_eq_zero.2 fun other later less => ?_
    exact absurd ((List.pairwise_cons.1 follows).1 other later) (not_le.2 (of_decide_eq_true less))
  refine ⟨front, back, split, ?_⟩
  rw [← permuted.countP_eq, split, List.countP_append, count, List.countP_cons_of_neg, behind]
  · rfl
  · simp

/-- A row that fewer rows than the limit precede is among the first rows of the order. -/
theorem mem_take_orderedBy {row : ρ} {limit : Nat} (mem : row ∈ rows)
    (distinct : (rows.map key).Nodup)
    (fewer : rows.countP (fun other => decide (key other < key row)) < limit) :
    row ∈ (orderedBy key rows).take limit := by
  obtain ⟨front, back, split, length⟩ := exists_split_orderedBy mem distinct
  rw [split, List.take_append]
  refine List.mem_append_right _ ?_
  obtain ⟨left, rfl⟩ : ∃ left, limit = front.length + (left + 1) :=
    ⟨limit - front.length - 1, by omega⟩
  rw [Nat.add_sub_cancel_left, List.take_succ_cons]
  exact List.mem_cons_self

section

variable {ι : Type} [DecidableEq ι] {key : ρ → κ} {name : ρ → ι}
  (named : ∀ a b, key a = key b → name a = name b)

omit [LinearOrder κ] [DecidableEq ι] in
include named in
theorem nodup_keys (distinct : (rows.map name).Nodup) : (rows.map key).Nodup := by
  refine List.pairwise_map.2 ((List.pairwise_map.1 distinct).imp ?_)
  exact fun apart same => apart (named _ _ same)

include named in
/-- The place of a row in the order is the number of rows with a lower key. -/
theorem idxOf_orderedBy {row : ρ} (mem : row ∈ rows) (distinct : (rows.map name).Nodup) :
    ((orderedBy key rows).map name).idxOf (name row) =
      rows.countP fun other => decide (key other < key row) := by
  obtain ⟨front, back, split, length⟩ := exists_split_orderedBy mem (nodup_keys named distinct)
  have permuted : (front ++ row :: back).Perm rows := split ▸ List.perm_insertionSort _ rows
  have once := (permuted.map name).nodup_iff.2 distinct
  rw [List.map_append, List.map_cons] at once
  have elsewhere : name row ∉ front.map name :=
    fun twice => (List.nodup_append.1 once).2.2 _ twice _ List.mem_cons_self rfl
  rw [split, ← length, List.map_append, List.idxOf_append_of_notMem elsewhere, List.map_cons,
    List.idxOf_cons_self, List.length_map, Nat.add_zero]

include named in
/-- A row whose key falls while no other row joins is placed no further back. -/
theorem placed_no_further_back {front back fewer less : List ρ} {row moved : ρ}
    (same : name moved = name row) (falls : key moved ≤ key row) (ahead : fewer.Sublist front)
    (behind : less.Sublist back) (distinct : ((front ++ row :: back).map name).Nodup) :
    name row ∈ (orderedBy key (fewer ++ moved :: less)).map name ∧
      ((orderedBy key (fewer ++ moved :: less)).map name).idxOf (name row) ≤
        ((orderedBy key (front ++ row :: back)).map name).idxOf (name row) := by
  refine ⟨List.mem_map.2 ⟨moved, mem_orderedBy.2 (by simp), same⟩, ?_⟩
  have apart : ((fewer ++ moved :: less).map name).Nodup := by
    refine distinct.sublist ?_
    simp only [List.map_append, List.map_cons, same]
    exact (ahead.map name).append ((behind.map name).cons_cons (name row))
  have lower : ∀ other : ρ, decide (key other < key moved) = true →
      decide (key other < key row) = true :=
    fun other below => decide_eq_true ((of_decide_eq_true below).trans_le falls)
  rw [← same, idxOf_orderedBy named (by simp) apart, same, idxOf_orderedBy named (by simp) distinct]
  simp only [List.countP_append, List.countP_cons, lt_self_iff_false, decide_false,
    Bool.false_eq_true, if_false, Nat.add_zero]
  exact Nat.add_le_add ((ahead.countP_le).trans (List.countP_mono_left fun other _ => lower other))
    ((behind.countP_le).trans (List.countP_mono_left fun other _ => lower other))

end

variable {rows : List ρ} {key : ρ → κ}

/-- The last row in the order is one whose key no other row exceeds. -/
theorem le_of_getLast?_orderedBy {last : ρ} (ends : (orderedBy key rows).getLast? = some last) :
    last ∈ rows ∧ ∀ row ∈ rows, key row ≤ key last := by
  obtain ⟨front, split⟩ := List.getLast?_eq_some_iff.1 ends
  have sorted := pairwise_orderedBy key rows
  rw [split] at sorted
  refine ⟨mem_orderedBy.1 (by rw [split]; simp), fun row mem => ?_⟩
  have placed : row ∈ front ++ [last] := split ▸ mem_orderedBy.2 mem
  rcases List.mem_append.1 placed with earlier | final
  · exact (List.pairwise_append.1 sorted).2.2 row earlier last (by simp)
  · rw [List.mem_singleton.1 final]

/-- A row whose key no other row reaches is the last in the order. -/
theorem getLast?_orderedBy_of_greatest {last : ρ} (mem : last ∈ rows)
    (greatest : ∀ row ∈ rows, key row ≤ key last)
    (apart : ∀ row ∈ rows, key row = key last → row = last) :
    (orderedBy key rows).getLast? = some last := by
  have inhabited : orderedBy key rows ≠ [] := by
    intro empty
    have present : last ∈ orderedBy key rows := mem_orderedBy.2 mem
    simp [empty] at present
  have ends := List.getLast?_eq_some_getLast inhabited
  obtain ⟨present, bound⟩ := le_of_getLast?_orderedBy ends
  have same := apart _ present (le_antisymm (greatest _ present) (bound last mem))
  rw [ends, same]

/-- A row added to rows of other keys is the last in the order exactly when its key exceeds them. -/
theorem getLast?_orderedBy_append {added : ρ} (apart : ∀ row ∈ rows, key row ≠ key added) :
    (orderedBy key (rows ++ [added])).getLast? = some added ↔
      ∀ row ∈ rows, key row < key added := by
  constructor
  · intro ends row mem
    have bound := (le_of_getLast?_orderedBy ends).2 row (List.mem_append_left _ mem)
    exact lt_of_le_of_ne bound (apart row mem)
  · intro exceeded
    have inhabited : orderedBy key (rows ++ [added]) ≠ [] := by
      intro empty
      have present : added ∈ orderedBy key (rows ++ [added]) := mem_orderedBy.2 (by simp)
      simp [empty] at present
    have ends := List.getLast?_eq_some_getLast inhabited
    obtain ⟨mem, greatest⟩ := le_of_getLast?_orderedBy ends
    rw [ends]
    rcases List.mem_append.1 mem with earlier | final
    · have below := exceeded _ earlier
      have above := greatest added (by simp)
      exact absurd below (not_lt.2 above)
    · rw [List.mem_singleton.1 final]

/-- A row whose key every other row exceeds is the first in the order, before all others. -/
theorem orderedBy_of_least {rest : List ρ} {least : ρ} (same : rows.Perm (least :: rest))
    (exceeds : ∀ row ∈ rest, key least < key row) :
    ∃ others, orderedBy key rows = least :: others ∧ others.Perm rest := by
  have permuted : (orderedBy key rows).Perm (least :: rest) :=
    (List.perm_insertionSort _ rows).trans same
  have sorted := pairwise_orderedBy key rows
  cases ordered : orderedBy key rows with
  | nil =>
    rw [ordered] at permuted
    exact absurd permuted.length_eq (by simp)
  | cons first others =>
    rw [ordered] at permuted sorted
    have found : first = least := by
      rcases List.mem_cons.1 (permuted.mem_iff.1 List.mem_cons_self) with same | other
      · exact same
      · have placed := permuted.mem_iff.2 (List.mem_cons_self (a := least) (l := rest))
        rcases List.mem_cons.1 placed with same | later
        · exact same.symm
        · have le := (List.pairwise_cons.1 sorted).1 least later
          exact absurd (exceeds first other) (not_lt.2 le)
    subst found
    exact ⟨others, rfl, permuted.cons_inv⟩

example : orderedBy (fun n : Int => toLex (n, 0)) [3, 1, 2] = [1, 2, 3] := by decide

end Ayo.Kernel.Ordering
