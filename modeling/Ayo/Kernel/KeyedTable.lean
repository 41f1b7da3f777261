/- digest: Tables of rows that carry their uniqueness rules. -/

import Mathlib.Algebra.BigOperators.Group.List.Basic
import Mathlib.Algebra.Order.BigOperators.Group.List
import Mathlib.Algebra.Order.Ring.Int
import Mathlib.Data.List.Pairwise

namespace Ayo.Kernel.KeyedTable

/-- A row type with its primary key and the rule that says which two rows exclude each other. -/
class Row (ρ : Type) (κ : outParam Type) where
  key : ρ → κ
  clash : ρ → ρ → Prop
  clash_symm : ∀ {a b : ρ}, clash a b → clash b a
  clash_of_key : ∀ {a b : ρ}, key a = key b → clash a b := by exact .inl
  decideClash : DecidableRel clash := by exact fun _ _ => inferInstance

instance {ρ κ : Type} [Row ρ κ] : DecidableRel (Row.clash : ρ → ρ → Prop) := Row.decideClash

/-- Rows whose only uniqueness rule is the primary key. -/
@[reducible] def Row.keyed {ρ κ : Type} [DecidableEq κ] (key : ρ → κ) : Row ρ κ where
  key
  clash a b := key a = key b
  clash_symm same := same.symm
  clash_of_key same := same

/-- Rows with a primary key and one more unique constraint. -/
@[reducible] def Row.keyedUnique {ρ κ υ : Type} [DecidableEq κ] [DecidableEq υ] (key : ρ → κ)
    (unique : ρ → υ) : Row ρ κ where
  key
  clash a b := key a = key b ∨ unique a = unique b
  clash_symm clash := clash.imp Eq.symm Eq.symm

/-- Rows in the order of their insertion, no two of which clash. -/
structure Table (ρ : Type) {κ : Type} [Row ρ κ] where
  rows : List ρ
  distinct : rows.Pairwise fun a b => ¬ Row.clash a b

theorem mem_appended {ρ : Type} {rows later : List ρ} {row other : ρ}
    (appended : later = rows ++ [row]) : other ∈ later ↔ other ∈ rows ∨ other = row := by
  rw [appended, List.mem_append, List.mem_singleton]

namespace Table

variable {ρ κ : Type} [DecidableEq κ] [Row ρ κ]

def empty : Table ρ := ⟨[], .nil⟩

/-- The row with a primary key. -/
def find (table : Table ρ) (k : κ) : Option ρ :=
  table.rows.find? fun row => Row.key row = k

/-- Insert a row, unless it clashes with one that is there. -/
def insert? (table : Table ρ) (row : ρ) : Option (Table ρ) :=
  if distinct : (table.rows ++ [row]).Pairwise fun a b => ¬ Row.clash a b then
    some ⟨table.rows ++ [row], distinct⟩
  else
    none

/-- Insert several rows at once, unless a clash would result. -/
def insertAll? (table : Table ρ) (rows : List ρ) : Option (Table ρ) :=
  if distinct : (table.rows ++ rows).Pairwise fun a b => ¬ Row.clash a b then
    some ⟨table.rows ++ rows, distinct⟩
  else
    none

/-- The rows with the row of the same primary key replaced. -/
def replaced (table : Table ρ) (row : ρ) : List ρ :=
  table.rows.map fun old => if Row.key old = Row.key row then row else old

/-- Replace the row with the same primary key, unless the new row clashes with another. -/
def replace? (table : Table ρ) (row : ρ) : Option (Table ρ) :=
  if distinct : (table.replaced row).Pairwise fun a b => ¬ Row.clash a b then
    some ⟨table.replaced row, distinct⟩
  else
    none

/-- Rewrite every row, unless two of the results clash. -/
def rewrite? (table : Table ρ) (f : ρ → ρ) : Option (Table ρ) :=
  if distinct : (table.rows.map f).Pairwise fun a b => ¬ Row.clash a b then
    some ⟨table.rows.map f, distinct⟩
  else
    none

omit [DecidableEq κ] in
@[ext] theorem ext {first second : Table ρ} (rows : first.rows = second.rows) : first = second := by
  cases first
  cases second
  cases rows
  rfl

omit [DecidableEq κ] in
@[simp] theorem rows_empty : (empty : Table ρ).rows = [] := rfl

variable {table result : Table ρ} {row : ρ}

omit [DecidableEq κ] in
@[simp] theorem insert?_eq_some :
    table.insert? row = some result ↔ result.rows = table.rows ++ [row] := by
  unfold insert?
  split
  · simp [Table.ext_iff, eq_comm]
  · rename_i clashes
    refine ⟨by simp, fun rows => absurd result.distinct ?_⟩
    rwa [rows]

omit [DecidableEq κ] in
@[simp] theorem insertAll?_eq_some {rows : List ρ} :
    table.insertAll? rows = some result ↔ result.rows = table.rows ++ rows := by
  unfold insertAll?
  split
  · simp [Table.ext_iff, eq_comm]
  · rename_i clashes
    refine ⟨by simp, fun same => absurd result.distinct ?_⟩
    rwa [same]

@[simp] theorem replace?_eq_some :
    table.replace? row = some result ↔ result.rows = table.replaced row := by
  unfold replace?
  split
  · simp [Table.ext_iff, eq_comm]
  · rename_i clashes
    refine ⟨by simp, fun same => absurd result.distinct ?_⟩
    rwa [same]

variable {f : ρ → ρ}

omit [DecidableEq κ] in
@[simp] theorem rewrite?_eq_some :
    table.rewrite? f = some result ↔ result.rows = table.rows.map f := by
  unfold rewrite?
  split
  · simp [Table.ext_iff, eq_comm]
  · rename_i clashes
    refine ⟨by simp, fun same => absurd result.distinct ?_⟩
    rwa [same]

omit [DecidableEq κ] in
/-- A row that clashes with none of a table can be added to it. -/
theorem exists_inserted (free : ∀ other ∈ table.rows, ¬ Row.clash other row) :
    ∃ result : Table ρ, result.rows = table.rows ++ [row] := by
  have distinct : (table.rows ++ [row]).Pairwise fun a b => ¬ Row.clash a b :=
    List.pairwise_append.2 ⟨table.distinct, List.pairwise_singleton _ _, by simpa using free⟩
  exact ⟨⟨_, distinct⟩, rfl⟩

/-- Where only the primary key is unique, every row can be replaced. -/
theorem exists_replaced (table : Table ρ) (row : ρ)
    (keyed : ∀ a b : ρ, Row.clash a b → Row.key a = Row.key b) :
    ∃ result : Table ρ, result.rows = table.replaced row := by
  have key_kept : ∀ old : ρ, Row.key (if Row.key old = Row.key row then row else old) =
      Row.key old := by
    intro old
    by_cases same : Row.key old = Row.key row
    · rw [if_pos same, same]
    · rw [if_neg same]
  have distinct : (table.replaced row).Pairwise fun a b => ¬ Row.clash a b := by
    refine List.pairwise_map.2 (table.distinct.imp fun {a b} apart clash => apart ?_)
    have same := keyed _ _ clash
    rw [key_kept, key_kept] at same
    exact Row.clash_of_key same
  exact ⟨⟨_, distinct⟩, rfl⟩

omit [DecidableEq κ] in
/-- A table can be rewritten where no two rows clash that did not before. -/
theorem exists_rewritten (table : Table ρ)
    (reflects : ∀ a b : ρ, Row.clash (f a) (f b) → Row.clash a b) :
    ∃ result : Table ρ, result.rows = table.rows.map f := by
  have distinct : (table.rows.map f).Pairwise fun a b => ¬ Row.clash a b :=
    List.pairwise_map.2 (table.distinct.imp fun {a b} apart clash => apart (reflects a b clash))
  exact ⟨⟨_, distinct⟩, rfl⟩

omit [DecidableEq κ] in
/-- Two rows of a table that clash are one row. -/
theorem eq_of_clash (table : Table ρ) {a b : ρ} (first : a ∈ table.rows) (second : b ∈ table.rows)
    (clash : Row.clash a b) : a = b := by
  by_contra different
  have apart : ∀ x ∈ table.rows, ∀ y ∈ table.rows, x ≠ y → ¬ Row.clash x y := by
    have forward : table.rows.Pairwise fun x y => x ≠ y → ¬ Row.clash x y :=
      table.distinct.imp fun {x y} apart (_ : x ≠ y) => apart
    have backward : table.rows.Pairwise fun x y => y ≠ x → ¬ Row.clash y x :=
      table.distinct.imp fun {x y} apart (_ : y ≠ x) other => apart (Row.clash_symm other)
    exact fun x hx y hy => List.Pairwise.forall_of_forall_of_flip
      (fun _ _ same => absurd rfl same) forward backward hx hy
  exact apart a first b second different clash

omit [DecidableEq κ] in
theorem eq_of_key (table : Table ρ) {a b : ρ} (first : a ∈ table.rows) (second : b ∈ table.rows)
    (same : Row.key a = Row.key b) : a = b :=
  table.eq_of_clash first second (Row.clash_of_key same)

omit [DecidableEq κ] in
theorem keys_nodup (table : Table ρ) : (table.rows.map Row.key).Nodup :=
  List.pairwise_map.2 (table.distinct.imp fun apart same => apart (Row.clash_of_key same))

omit [DecidableEq κ] in
/-- The one row that meets a test is all that the test leaves. -/
theorem filter_eq_singleton (table : Table ρ) {test : ρ → Bool} (mem : row ∈ table.rows)
    (meets : test row = true) (unique : ∀ other ∈ table.rows, test other = true → other = row) :
    table.rows.filter test = [row] := by
  have keys : ((table.rows.filter test).map Row.key).Nodup :=
    (List.filter_sublist.map Row.key).nodup table.keys_nodup
  have only : ∀ other ∈ table.rows.filter test, other = row := by
    intro other listed
    obtain ⟨held, passes⟩ := List.mem_filter.1 listed
    exact unique other held passes
  have listed : row ∈ table.rows.filter test := List.mem_filter.2 ⟨mem, meets⟩
  generalize table.rows.filter test = rows at keys only listed
  cases rows with
  | nil => cases listed
  | cons first rest =>
    obtain rfl := only first List.mem_cons_self
    cases rest with
    | nil => rfl
    | cons second others =>
      obtain rfl := only second (by simp)
      simp at keys

variable {k : κ}

theorem mem_of_find (found : table.find k = some row) : row ∈ table.rows :=
  List.mem_of_find?_eq_some found

theorem key_of_find (found : table.find k = some row) : Row.key row = k := by
  simpa using List.find?_some found

theorem find_of_mem (mem : row ∈ table.rows) : table.find (Row.key row) = some row := by
  cases found : table.find (Row.key row) with
  | none =>
    have absent := List.find?_eq_none.1 found row mem
    simp at absent
  | some other =>
    rw [table.eq_of_key (mem_of_find found) mem (key_of_find found)]

theorem find_eq_some : table.find k = some row ↔ row ∈ table.rows ∧ Row.key row = k := by
  refine ⟨fun found => ⟨mem_of_find found, key_of_find found⟩, ?_⟩
  rintro ⟨mem, rfl⟩
  exact find_of_mem mem

theorem find_eq_none : table.find k = none ↔ ∀ row ∈ table.rows, Row.key row ≠ k := by
  simp [find, List.find?_eq_none]

/-- After a replacement a row is the new one or one of another key. -/
theorem mem_replaced {other : ρ} : other ∈ table.replaced row ↔
      (other = row ∧ ∃ old ∈ table.rows, Row.key old = Row.key row) ∨
        (other ∈ table.rows ∧ Row.key other ≠ Row.key row) := by
  simp only [replaced, List.mem_map]
  constructor
  · rintro ⟨old, mem, rfl⟩
    by_cases same : Row.key old = Row.key row
    · exact .inl ⟨by simp [same], old, mem, same⟩
    · exact .inr (by simpa [same] using mem)
  · rintro (⟨rfl, old, mem, same⟩ | ⟨mem, different⟩)
    · exact ⟨old, mem, by simp [same]⟩
    · exact ⟨other, mem, by simp [different]⟩

/-- Writing back a row that is there changes nothing. -/
theorem replaced_of_mem (mem : row ∈ table.rows) : table.replaced row = table.rows := by
  conv_rhs => rw [← List.map_id table.rows]
  refine List.map_congr_left fun old held => ?_
  by_cases same : Row.key old = Row.key row
  · simp [table.eq_of_key held mem same]
  · simp [same]

/-- A row can be replaced by one of its key that clashes with no more than it did. -/
theorem exists_replaced_of_reflects {changed : ρ} (held : row ∈ table.rows)
    (same : Row.key row = Row.key changed)
    (reflects : ∀ other, Row.clash other changed → Row.clash other row) :
    ∃ result : Table ρ, result.rows = table.replaced changed := by
  have distinct : (table.replaced changed).Pairwise fun a b => ¬ Row.clash a b := by
    refine List.pairwise_map.2 (table.distinct.imp_of_mem fun {a b} first second apart clash => ?_)
    split_ifs at clash with key key'
    · exact apart (Row.clash_of_key (key.trans key'.symm))
    · obtain rfl := table.eq_of_key first held (key.trans same.symm)
      exact apart (Row.clash_symm (reflects b (Row.clash_symm clash)))
    · obtain rfl := table.eq_of_key second held (Eq.trans ‹_› same.symm)
      exact apart (reflects a clash)
    · exact apart clash
  exact ⟨⟨_, distinct⟩, rfl⟩

/-- Of two replacements of one row only the second is seen. -/
theorem replaced_of_rows_replaced {between : Table ρ} {first second : ρ}
    (rows : between.rows = table.replaced first) (same : Row.key first = Row.key second) :
    between.replaced second = table.replaced second := by
  rw [replaced, rows, replaced, List.map_map, replaced]
  refine List.map_congr_left fun old _ => ?_
  by_cases replaces : Row.key old = Row.key second <;> simp [same, replaces]

omit [DecidableEq κ] in
/-- A row that was inserted clashes with none that was there. -/
theorem apart_of_rows_append (rows : result.rows = table.rows ++ [row]) :
    ∀ other ∈ table.rows, ¬ Row.clash other row := by
  intro other mem
  have distinct := result.distinct
  rw [rows] at distinct
  exact (List.pairwise_append.1 distinct).2.2 other mem row (by simp)

/-- A row that was inserted had a key that was free. -/
theorem find_eq_none_of_rows_append (rows : result.rows = table.rows ++ [row]) :
    table.find (Row.key row) = none :=
  find_eq_none.2 fun other mem same =>
    apart_of_rows_append rows other mem (Row.clash_of_key same)

theorem find_of_rows_append (rows : result.rows = table.rows ++ [row]) (k : κ) :
    result.find k = (table.find k).or (if Row.key row = k then some row else none) := by
  simp only [find, rows, List.find?_append]
  congr 1
  by_cases same : Row.key row = k <;> simp [same]

/-- A row that was inserted is found by its key. -/
theorem find_of_inserted (rows : result.rows = table.rows ++ [row]) :
    result.find (Row.key row) = some row :=
  find_of_mem (by simp [rows])

/-- A replacement changes the lookup by the key of its row and no other. -/
theorem find_of_rows_replaced (rows : result.rows = table.replaced row) (k : κ) :
    result.find k = if k = Row.key row then (table.find k).map fun _ => row else table.find k := by
  have same_key : ((fun other : ρ => decide (Row.key other = k)) ∘
      fun old => if Row.key old = Row.key row then row else old) =
      fun other => decide (Row.key other = k) := by
    funext old
    by_cases same : Row.key old = Row.key row <;> simp [same]
  simp only [find, rows, replaced, List.find?_map, same_key]
  cases found : table.rows.find? fun other => decide (Row.key other = k) with
  | none => simp
  | some old =>
    have key : Row.key old = k := key_of_find found
    by_cases same : k = Row.key row <;> simp [key, same]

/-- Where the key of every row stays, the lookup finds the rewritten row. -/
theorem find_of_rows_map (keeps : ∀ row, Row.key (f row) = Row.key row)
    (rows : result.rows = table.rows.map f) (k : κ) : result.find k = (table.find k).map f := by
  simp only [find, rows, List.find?_map]
  congr 2
  funext row
  simp [keeps]

/-- A reader that finds a row finds what replaces it, where the replacement meets its test. -/
theorem find?_replaced {current : ρ} {test : ρ → Bool}
    (found : table.rows.find? test = some current) (same : Row.key row = Row.key current)
    (meets : test row = true) : (table.replaced row).find? test = some row := by
  obtain ⟨holds, earlier, later, split, missed⟩ := List.find?_eq_some_iff_append.1 found
  refine List.find?_eq_some_iff_append.2 ⟨meets, earlier, ?_⟩
  have kept : earlier.map (fun old => if Row.key old = Row.key row then row else old) =
      earlier := by
    conv_rhs => rw [← List.map_id earlier]
    refine List.map_congr_left fun old mem => ?_
    have different : Row.key old ≠ Row.key row := by
      intro equal
      have held : old ∈ table.rows := by simp [split, mem]
      have one := table.eq_of_key held (List.mem_of_find?_eq_some found) (equal.trans same)
      have refused := missed old mem
      rw [one, holds] at refused
      cases refused
    simp [different]
  refine ⟨later.map fun old => if Row.key old = Row.key row then row else old, ?_, missed⟩
  rw [replaced, split, List.map_append, List.map_cons, if_pos same.symm, kept]

/-- A weight that the new row does not raise does not rise in total. -/
theorem sum_replaced_le (row : ρ) (weight : ρ → Int)
    (lower : ∀ old ∈ table.rows, Row.key old = Row.key row → weight row ≤ weight old) :
    ((table.replaced row).map weight).sum ≤ (table.rows.map weight).sum := by
  rw [replaced, List.map_map]
  refine List.sum_le_sum fun old mem => ?_
  by_cases same : Row.key old = Row.key row
  · simpa [same] using lower old mem same
  · simp [same]

end Table
end Ayo.Kernel.KeyedTable

/-! Rows whose table has a primary key and any number of further unique columns, which may be null,
and the writes that such a table takes. -/

namespace Ayo.Kernel.Columns

open Kernel.KeyedTable

variable {ρ κ : Type}

/-- Two rows have the same value, other than null, in one of the columns. -/
def SharedColumn (columns : List (ρ → Option Nat)) (a b : ρ) : Prop :=
  ∃ column ∈ columns, (column a).isSome = true ∧ column a = column b

instance (columns : List (ρ → Option Nat)) : DecidableRel (SharedColumn columns) :=
  fun _ _ => inferInstanceAs (Decidable (∃ column ∈ columns, _))

theorem SharedColumn.symm {columns : List (ρ → Option Nat)} {a b : ρ}
    (shared : SharedColumn columns a b) : SharedColumn columns b a := by
  obtain ⟨column, listed, filled, same⟩ := shared
  exact ⟨column, listed, same ▸ filled, same.symm⟩

/-- Rows with a primary key and further unique columns. -/
@[reducible] def uniqueColumns [DecidableEq κ] (key : ρ → κ) (columns : List (ρ → Option Nat)) :
    Row ρ κ where
  key
  clash a b := key a = key b ∨ SharedColumn columns a b
  clash_symm clash := clash.imp Eq.symm SharedColumn.symm

variable [DecidableEq κ] [Row ρ κ]

end Ayo.Kernel.Columns

/-! Updates of all rows of a table that meet a condition. -/

namespace Ayo.Kernel.Updates

open Kernel.KeyedTable

/-- A row after an UPDATE of the rows that meet a condition. -/
def updateWhere {ρ : Type} (condition : ρ → Prop) [DecidablePred condition] (change : ρ → ρ)
    (row : ρ) : ρ :=
  if condition row then change row else row

variable {ρ κ : Type} {condition : ρ → Prop} [DecidablePred condition] {change : ρ → ρ}

theorem updateWhere_of_meets {row : ρ} (meets : condition row) :
    updateWhere condition change row = change row :=
  if_pos meets

theorem updateWhere_of_not {row : ρ} (fails : ¬ condition row) :
    updateWhere condition change row = row :=
  if_neg fails

/-- What a change keeps of a row, an update keeps. -/
theorem updateWhere_keeps {τ : Type} {part : ρ → τ} (keeps : ∀ row, part (change row) = part row)
    (row : ρ) : part (updateWhere condition change row) = part row := by
  by_cases meets : condition row
  · rw [updateWhere_of_meets meets, keeps]
  · rw [updateWhere_of_not meets]

/-- Rows that a filter selects and an edit leaves alone are selected after the edit as before. -/
theorem filter_map_of_fixed {rows : List ρ} {edit : ρ → ρ} {selects : ρ → Bool}
    (same : ∀ row ∈ rows, selects (edit row) = selects row)
    (fixed : ∀ row ∈ rows, selects row = true → edit row = row) :
    (rows.map edit).filter selects = rows.filter selects := by
  rw [List.filter_map]
  have selected : rows.filter (selects ∘ edit) = rows.filter selects :=
    List.filter_congr fun row mem => same row mem
  rw [selected]
  conv_rhs => rw [← List.map_id (rows.filter selects)]
  refine List.map_congr_left fun row mem => ?_
  obtain ⟨listed, chosen⟩ := List.mem_filter.1 mem
  exact fixed row listed chosen

variable [DecidableEq κ] [Row ρ κ]

/-- An update of the one row with a key is a replacement. -/
theorem map_updateWhere {table : Table ρ} {row : ρ} (held : row ∈ table.rows)
    (only : ∀ other ∈ table.rows, condition other ↔ Row.key other = Row.key row)
    (key : Row.key (change row) = Row.key row) :
    table.rows.map (updateWhere condition change) = table.replaced (change row) := by
  unfold Table.replaced
  refine List.map_congr_left fun other mem => ?_
  rw [key]
  by_cases same : Row.key other = Row.key row
  · rw [updateWhere_of_meets ((only other mem).2 same), if_pos same, table.eq_of_key mem held same]
  · rw [updateWhere_of_not fun meets => same ((only other mem).1 meets), if_neg same]

/-- After an update that keeps the keys, the lookup finds the updated row. -/
theorem find_of_updated {table result : Table ρ} (keeps : ∀ row, Row.key (change row) = Row.key row)
    (rows : result.rows = table.rows.map (updateWhere condition change)) (k : κ) :
    result.find k = (table.find k).map (updateWhere condition change) :=
  Table.find_of_rows_map (updateWhere_keeps keeps) rows k

end Ayo.Kernel.Updates

/-! The rows of a table that a test selects, after a row is replaced. -/

namespace Ayo.Kernel.Selections

open Kernel.KeyedTable Kernel.Updates

variable {ρ κ : Type} [DecidableEq κ] [Row ρ κ] {table : Table ρ} {current row : ρ}
  {selects : ρ → Bool}

/-- A replacement that a test judges as the row it replaces leaves the number of rows selected. -/
theorem length_filter_replaced (held : current ∈ table.rows)
    (key : Row.key row = Row.key current) (same : selects row = selects current) :
    ((table.replaced row).filter selects).length = (table.rows.filter selects).length := by
  rw [Table.replaced, List.filter_map, List.length_map]
  congr 1
  refine List.filter_congr fun old mem => ?_
  by_cases replaces : Row.key old = Row.key row
  · obtain rfl : old = current := table.eq_of_key mem held (replaces.trans key)
    simp only [Function.comp_apply, if_pos replaces]
    exact same
  · simp only [Function.comp_apply, if_neg replaces]

/-- A replacement that a test passes over, as it did the row before, leaves the rows selected. -/
theorem filter_replaced_of_passed (held : current ∈ table.rows)
    (key : Row.key row = Row.key current) (unselected : selects current = false)
    (passed : selects row = false) :
    (table.replaced row).filter selects = table.rows.filter selects := by
  have fixed : ∀ old ∈ table.rows, selects old = true →
      (if Row.key old = Row.key row then row else old) = old := by
    intro old mem selected
    by_cases replaces : Row.key old = Row.key row
    · obtain rfl : old = current := table.eq_of_key mem held (replaces.trans key)
      rw [unselected] at selected
      cases selected
    · rw [if_neg replaces]
  refine filter_map_of_fixed (fun old mem => ?_) fixed
  by_cases replaces : Row.key old = Row.key row
  · obtain rfl : old = current := table.eq_of_key mem held (replaces.trans key)
    rw [if_pos replaces, passed, unselected]
  · rw [if_neg replaces]

/-- The one row that a test selects can be replaced by one that it passes over. -/
theorem filter_replaced_of_cleared (only : table.rows.filter selects = [current])
    (key : Row.key row = Row.key current) (passed : selects row = false) :
    (table.replaced row).filter selects = [] := by
  refine List.filter_eq_nil_iff.2 fun other mem selected => ?_
  obtain ⟨rfl, _⟩ | ⟨listed, apart⟩ := Table.mem_replaced.1 mem
  · rw [passed] at selected
    cases selected
  · have among : other ∈ table.rows.filter selects := List.mem_filter.2 ⟨listed, selected⟩
    rw [only, List.mem_singleton] at among
    exact apart (among ▸ key.symm)

end Ayo.Kernel.Selections
