/- digest: Enumerations, options and lists that columns store as texts. -/

import Ayo.Kernel.UnitOfWork

namespace Ayo.Kernel.StoredTexts

open Kernel.UnitOfWork

/-- An enumeration whose members are stored as different texts. -/
class TextEnum (ε : Type) where
  members : List ε
  value : ε → String
  mem_members : ∀ member, member ∈ members
  value_injective : Function.Injective value

variable {ε α β σ failure : Type} {read : β → Option α} {write : α → β} {manyRows : failure}

/-- The member that a stored text names. -/
def member? [TextEnum ε] (text : String) : Option ε :=
  TextEnum.members.find? fun member => decide (TextEnum.value member = text)

theorem member?_value [TextEnum ε] (mem : ε) : member? (TextEnum.value mem) = some mem := by
  unfold member?
  cases found : TextEnum.members.find? fun other : ε =>
      decide (TextEnum.value other = TextEnum.value mem) with
  | none =>
    have apart := List.find?_eq_none.1 found mem (TextEnum.mem_members mem)
    simp at apart
  | some other =>
    have same : TextEnum.value other = TextEnum.value mem := by
      simpa using List.find?_some found
    rw [TextEnum.value_injective same]

/-- An optional column, read back when it is not null. -/
def optional? (read : β → Option α) : Option β → Option (Option α)
  | none => some none
  | some stored => (read stored).map some

/-- A listed column, read back element by element. -/
def listed? (read : β → Option α) : List β → Option (List α)
  | [] => some []
  | stored :: rest => (read stored).bind fun first => (listed? read rest).map (first :: ·)

theorem optional?_map (back : ∀ a, read (write a) = some a) (value : Option α) :
    optional? read (value.map write) = some value := by
  cases value with
  | none => rfl
  | some a =>
    change (read (write a)).map some = some (some a)
    rw [back a]
    rfl

theorem listed?_map (back : ∀ a, read (write a) = some a) (values : List α) :
    listed? read (values.map write) = some values := by
  induction values with
  | nil => rfl
  | cons first rest ih =>
    change ((read (write first)).bind fun a => (listed? read (rest.map write)).map (a :: ·)) = _
    rw [back first, ih]
    rfl

/-- `one_or_none()`: the only row of a query, no row, or the failure of a query that found more. -/
def oneOrNone (rows : List α) (manyRows : failure) : Transaction σ failure (Option α) :=
  match rows with
  | [] => pure none
  | [row] => pure (some row)
  | _ => throw manyRows

theorem oneOrNone_readOnly {rows : List α} :
    ReadOnly (oneOrNone rows manyRows : Transaction σ failure (Option α)) := by
  unfold oneOrNone
  split
  · exact .pure
  · exact .pure
  · exact .throw

/-- The row that a query returns is one of those that it found. -/
theorem mem_of_oneOrNone {rows : List α} {row : α} {s t : σ}
    (ran : oneOrNone rows manyRows s = .ok (some row, t)) : row ∈ rows := by
  unfold oneOrNone at ran
  split at ran
  · cases (pure_ok.1 ran).1
  · cases (pure_ok.1 ran).1
    exact List.mem_singleton_self _
  · exact (throw_ok.1 ran).elim

end Ayo.Kernel.StoredTexts
