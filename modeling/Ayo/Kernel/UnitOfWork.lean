/- digest: Commands that fail or return with a new state, committed or rolled back. -/

import Mathlib.Data.List.Basic
import Mathlib.Data.Option.Basic
import Mathlib.Order.Defs.Unbundled

namespace Ayo.Kernel.UnitOfWork

/-- A command inside a unit of work: it fails, or returns a value and the new state. -/
abbrev Transaction (σ ε α : Type) := StateT σ (Except ε) α

variable {σ τ ε α β : Type} {t s : σ} {a : α} {f : α → Transaction σ ε β} {b : β} {u : Unit}
  {failure : ε} {condition : Prop} {value : Option α} {result : Except ε α}
  {body : Transaction σ ε α}

/-- Fail unless the condition holds. -/
def require (condition : Prop) [Decidable condition] (failure : ε) : Transaction σ ε Unit :=
  if condition then pure () else throw failure

/-- The value of an option, or a failure. -/
def demand (value : Option α) (failure : ε) : Transaction σ ε α :=
  match value with
  | some a => pure a
  | none => throw failure

/-- Replace the state. -/
def put (s : σ) : Transaction σ ε Unit := set s

/-- A computation that does not touch the state. -/
def attempt (result : Except ε α) : Transaction σ ε α :=
  match result with
  | .ok a => pure a
  | .error e => throw e

/-- Continue with the value of an option when there is one, and otherwise without it. -/
def whenSome (value : Option α) (present : α → Transaction σ ε β) (absent : Transaction σ ε β) :
    Transaction σ ε β :=
  match value with
  | some a => present a
  | none => absent

/-- Run a command on one component of a larger state. -/
def within (get : σ → τ) (put : τ → σ → σ) (body : Transaction τ ε α) : Transaction σ ε α :=
  fun s =>
    match body (get s) with
    | .ok (a, t) => .ok (a, put t s)
    | .error e => .error e

/-- Run a command, and report every failure of it as one failure. -/
def recast (body : Transaction σ ε α) (failure : ε) : Transaction σ ε α :=
  fun s =>
    match body s with
    | .ok result => .ok result
    | .error _ => .error failure

/-- A unit of work: commit what a successful command wrote, roll a failed one back. -/
def commit (body : Transaction σ ε α) (s : σ) : σ :=
  match body s with
  | .ok (_, t) => t
  | .error _ => s

@[simp] theorem pure_ok {b : α} : (pure a : Transaction σ ε α) s = .ok (b, t) ↔ a = b ∧ s = t := by
  show Except.ok (a, s) = Except.ok (b, t) ↔ a = b ∧ s = t
  simp

@[simp] theorem throw_ok {e : ε} : (throw e : Transaction σ ε α) s = .ok (a, t) ↔ False := by
  show Except.error e = Except.ok (a, t) ↔ False
  simp

@[simp] theorem bind_ok {x : Transaction σ ε α} :
    (x >>= f) s = .ok (b, t) ↔ ∃ a m, x s = .ok (a, m) ∧ f a m = .ok (b, t) := by
  cases h : x s with
  | error => simp [bind, StateT.bind, Except.bind, h]
  | ok => simp [bind, StateT.bind, Except.bind, h, Prod.ext_iff]

theorem bind_pure_ok {x : Transaction σ ε α} {f : α → β} :
    (x >>= fun a => pure (f a)) s = .ok (b, t) ↔ ∃ a, x s = .ok (a, t) ∧ f a = b := by
  simp only [bind_ok, pure_ok]
  exact ⟨fun ⟨a, _, ran, same, rfl⟩ => ⟨a, ran, same⟩, fun ⟨a, ran, same⟩ => ⟨a, t, ran, same, rfl⟩⟩

@[simp] theorem get_ok {r : σ} : (get : Transaction σ ε σ) s = .ok (r, t) ↔ s = r ∧ s = t := by
  show Except.ok (s, s) = Except.ok (r, t) ↔ s = r ∧ s = t
  simp

@[simp] theorem put_ok {n : σ} : (put n : Transaction σ ε Unit) s = .ok (u, t) ↔ n = t := by
  show Except.ok ((), n) = Except.ok (u, t) ↔ n = t
  simp

@[simp] theorem require_ok [Decidable condition] :
    require condition failure s = .ok (u, t) ↔ condition ∧ s = t := by
  unfold require
  split <;> simp [*]

@[simp] theorem demand_ok : demand value failure s = .ok (a, t) ↔ value = some a ∧ s = t := by
  cases value <;> simp [demand]

@[simp] theorem attempt_ok : attempt result s = .ok (a, t) ↔ result = .ok a ∧ s = t := by
  cases result <;> simp [attempt]

@[simp] theorem whenSome_ok {present : α → Transaction σ ε β} {absent : Transaction σ ε β} :
    whenSome value present absent s = .ok (b, t) ↔
      (∃ a, value = some a ∧ present a s = .ok (b, t)) ∨
        (value = none ∧ absent s = .ok (b, t)) := by
  cases value <;> simp [whenSome]

@[simp] theorem ite_ok [Decidable condition] {first second : Transaction σ ε α} :
    (if condition then first else second) s = .ok (a, t) ↔
      (condition ∧ first s = .ok (a, t)) ∨ (¬ condition ∧ second s = .ok (a, t)) := by
  split <;> simp [*]

@[simp] theorem within_ok {get : σ → τ} {put : τ → σ → σ} {body : Transaction τ ε α} :
    within get put body s = .ok (a, t) ↔ ∃ m, body (get s) = .ok (a, m) ∧ put m s = t := by
  cases h : body (get s) with
  | error => simp [within, h]
  | ok => simp [within, h, Prod.ext_iff, and_assoc]

@[simp] theorem recast_ok {body : Transaction σ ε α} :
    recast body failure s = .ok (a, t) ↔ body s = .ok (a, t) := by
  cases h : body s with
  | error => simp [recast, h]
  | ok => simp [recast, h]

/-! A command whose first step only reads, checks or writes goes on with the next step. -/

theorem get_bind_ok {f : σ → Transaction σ ε β} :
    ((get : Transaction σ ε σ) >>= f) s = .ok (b, t) ↔ f s s = .ok (b, t) := by
  simp

theorem put_bind_ok {n : σ} {f : Unit → Transaction σ ε β} :
    (put n >>= f) s = .ok (b, t) ↔ f () n = .ok (b, t) := by
  simp only [bind_ok, put_ok]
  exact ⟨fun ⟨_, _, rfl, rest⟩ => rest, fun rest => ⟨(), n, rfl, rest⟩⟩

theorem require_bind_ok [Decidable condition] {f : Unit → Transaction σ ε β} :
    (require condition failure >>= f) s = .ok (b, t) ↔ condition ∧ f () s = .ok (b, t) := by
  simp only [bind_ok, require_ok]
  exact ⟨fun ⟨_, _, ⟨holds, rfl⟩, rest⟩ => ⟨holds, rest⟩,
    fun ⟨holds, rest⟩ => ⟨(), s, ⟨holds, rfl⟩, rest⟩⟩

theorem demand_bind_ok : (demand value failure >>= f) s = .ok (b, t) ↔
      ∃ a, value = some a ∧ f a s = .ok (b, t) := by
  simp

theorem steps_ok :
    (∀ {α} {a b : α} {s t : σ}, (pure a : Transaction σ ε α) s = .ok (b, t) ↔ a = b ∧ s = t) ∧
    (∀ {n s t : σ} {u}, (put n : Transaction σ ε Unit) s = .ok (u, t) ↔ n = t) ∧
    (∀ {β} {f : σ → Transaction σ ε β} {s t b},
      ((get : Transaction σ ε σ) >>= f) s = .ok (b, t) ↔ f s s = .ok (b, t)) ∧
    (∀ {β n} {f : Unit → Transaction σ ε β} {s t b},
      (put n >>= f) s = .ok (b, t) ↔ f () n = .ok (b, t)) ∧
    (∀ {β} {condition : Prop} [Decidable condition] {failure} {f : Unit → Transaction σ ε β}
        {s t b}, (require condition failure >>= f) s = .ok (b, t) ↔
      condition ∧ f () s = .ok (b, t)) ∧
    ∀ {α β} {value : Option α} {failure} {f : α → Transaction σ ε β} {s t b},
      (demand value failure >>= f) s = .ok (b, t) ↔ ∃ a, value = some a ∧ f a s = .ok (b, t) :=
  ⟨pure_ok, put_ok, get_bind_ok, put_bind_ok, require_bind_ok, demand_bind_ok⟩

theorem attempt_bind_ok :
    (attempt result >>= f) s = .ok (b, t) ↔ ∃ a, result = .ok a ∧ f a s = .ok (b, t) := by
  simp

theorem within_read_bind_ok {get : σ → τ} {put : τ → σ → σ} (same : ∀ s, put (get s) s = s)
    {read : τ → α} :
    (within get put (MonadState.get >>= fun component => pure (read component)) >>= f) s =
        .ok (b, t) ↔ f (read (get s)) s = .ok (b, t) := by
  simp only [bind_ok, within_ok, get_ok, pure_ok]
  constructor
  · rintro ⟨_, _, ⟨_, ⟨_, _, ⟨rfl, rfl⟩, rfl, rfl⟩, rfl⟩, rest⟩
    rwa [same] at rest
  · intro rest
    exact ⟨_, _, ⟨_, ⟨_, _, ⟨rfl, rfl⟩, rfl, rfl⟩, rfl⟩, by rwa [same]⟩

/-- A command that never changes the state. -/
def ReadOnly (body : Transaction σ ε α) : Prop :=
  ∀ s a t, body s = .ok (a, t) → s = t

namespace ReadOnly

theorem pure {a : α} : ReadOnly (Pure.pure a : Transaction σ ε α) :=
  fun _ _ _ ran => (pure_ok.1 ran).2

theorem require {condition : Prop} [Decidable condition] {failure : ε} :
    ReadOnly (UnitOfWork.require condition failure : Transaction σ ε Unit) :=
  fun _ _ _ ran => (require_ok.1 ran).2

theorem demand {value : Option α} {failure : ε} :
    ReadOnly (UnitOfWork.demand value failure : Transaction σ ε α) :=
  fun _ _ _ ran => (demand_ok.1 ran).2

theorem throw {failure : ε} : ReadOnly (MonadExcept.throw failure : Transaction σ ε α) :=
  fun _ _ _ ran => (throw_ok.1 ran).elim

theorem get : ReadOnly (MonadState.get : Transaction σ ε σ) :=
  fun _ _ _ ran => (get_ok.1 ran).2

theorem attempt (result : Except ε α) : ReadOnly (UnitOfWork.attempt result : Transaction σ ε α) :=
  fun _ _ _ ran => (attempt_ok.1 ran).2

variable {f : α → Transaction σ ε β} {x : Transaction σ ε α}

theorem bind (first : ReadOnly x) (second : ∀ a, ReadOnly (f a)) : ReadOnly (x >>= f) := by
  intro s b t ran
  obtain ⟨a, m, read, rest⟩ := bind_ok.1 ran
  exact (first s a m read).trans (second a m b t rest)

theorem ite {condition : Prop} [Decidable condition] {y : Transaction σ ε α} (first : ReadOnly x)
    (second : ReadOnly y) : ReadOnly (if condition then x else y) := by
  split
  · exact first
  · exact second

theorem whenSome {present : α → Transaction σ ε β}
    {absent : Transaction σ ε β} (first : ∀ a, ReadOnly (present a)) (second : ReadOnly absent) :
    ReadOnly (UnitOfWork.whenSome value present absent) := by
  cases value with
  | none => exact second
  | some a => exact first a

theorem requires {condition : Prop} [Decidable condition] {failure : ε}
    {f : Unit → Transaction σ ε β} (rest : ReadOnly (f ())) :
    ReadOnly (UnitOfWork.require condition failure >>= f) :=
  .bind .require fun _ => rest

theorem demands {failure : ε} (rest : ∀ a, ReadOnly (f a)) :
    ReadOnly (UnitOfWork.demand value failure >>= f) :=
  .bind .demand rest

theorem bind_ok (readOnly : ReadOnly x) {s t : σ} {b : β} (ran : (x >>= f) s = .ok (b, t)) :
    ∃ a, x s = .ok (a, s) ∧ f a s = .ok (b, t) := by
  obtain ⟨a, m, read, rest⟩ := UnitOfWork.bind_ok.1 ran
  cases readOnly s a m read
  exact ⟨a, read, rest⟩

end ReadOnly

/-- A command that never changes a part of the state. -/
def Keeps (part : σ → τ) (body : Transaction σ ε α) : Prop :=
  ∀ s a t, body s = .ok (a, t) → part t = part s

theorem ReadOnly.keeps {part : σ → τ} {body : Transaction σ ε α} (readOnly : ReadOnly body) :
    Keeps part body := by
  intro s a t ran
  rw [readOnly s a t ran]

namespace Keeps

variable {part : σ → τ}

theorem pure {a : α} : Keeps part (Pure.pure a : Transaction σ ε α) :=
  ReadOnly.pure.keeps

theorem require {condition : Prop} [Decidable condition] {failure : ε} :
    Keeps part (UnitOfWork.require condition failure : Transaction σ ε Unit) :=
  ReadOnly.require.keeps

theorem demand {value : Option α} {failure : ε} :
    Keeps part (UnitOfWork.demand value failure : Transaction σ ε α) :=
  ReadOnly.demand.keeps

theorem get : Keeps part (MonadState.get : Transaction σ ε σ) :=
  ReadOnly.get.keeps

theorem bind {x : Transaction σ ε α} (first : Keeps part x)
    (second : ∀ a, Keeps part (f a)) : Keeps part (x >>= f) := by
  intro s b t ran
  obtain ⟨a, m, started, rest⟩ := bind_ok.1 ran
  exact (second a m b t rest).trans (first s a m started)

theorem ite {condition : Prop} [Decidable condition] {x y : Transaction σ ε α}
    (first : Keeps part x) (second : Keeps part y) : Keeps part (if condition then x else y) := by
  split
  · exact first
  · exact second

theorem whenSome {present : α → Transaction σ ε β}
    {absent : Transaction σ ε β} (first : ∀ a, Keeps part (present a))
    (second : Keeps part absent) : Keeps part (UnitOfWork.whenSome value present absent) := by
  cases value with
  | none => exact second
  | some a => exact first a

theorem recast {body : Transaction σ ε α} (kept : Keeps part body) (failure : ε) :
    Keeps part (UnitOfWork.recast body failure) :=
  fun s a t ran => kept s a t (recast_ok.1 ran)

/-- A command on one component keeps what does not depend on the component. -/
theorem within {υ : Type} {get : σ → υ} {put : υ → σ → σ} (apart : ∀ m s, part (put m s) = part s)
    (body : Transaction υ ε α) : Keeps part (UnitOfWork.within get put body) := by
  intro s a t ran
  obtain ⟨m, _, rfl⟩ := within_ok.1 ran
  exact apart m s

end Keeps

theorem commit_of_ok {s t : σ} {a : α} (ran : body s = .ok (a, t)) : commit body s = t := by
  simp [commit, ran]

theorem commit_of_error {s : σ} {e : ε} (failure : body s = .error e) : commit body s = s := by
  simp [commit, failure]

theorem exists_of_isOk (ok : result.isOk = true) : ∃ a, result = .ok a := by
  cases result with
  | error => cases ok
  | ok a => exact ⟨a, rfl⟩

theorem commit_cases (body : Transaction σ ε α) (s : σ) :
    commit body s = s ∨ ∃ a, body s = .ok (a, commit body s) := by
  cases h : body s with
  | error => exact .inl (commit_of_error h)
  | ok pair => exact .inr ⟨pair.1, by simp [commit, h]⟩

/-- What a successful command relates, a unit of work relates, when the relation is reflexive. -/
theorem commit_related {R : σ → σ → Prop} (body : Transaction σ ε α) (s : σ) (same : R s s)
    (ran : ∀ a t, body s = .ok (a, t) → R s t) : R s (commit body s) := by
  obtain stays | ⟨a, finished⟩ := commit_cases body s
  · rw [stays]
    exact same
  · exact ran a _ finished

end Ayo.Kernel.UnitOfWork

/-! Commands whose every success relates the state before with the state after, by a relation that
composes along the steps of a command. -/

namespace Ayo.Kernel.Related

open Kernel.UnitOfWork

variable {σ τ ε α β : Type}

/-- Every success of a command relates the state before it with the state after it. -/
def Relates (R : σ → σ → Prop) (body : Transaction σ ε α) : Prop :=
  ∀ s a t, body s = .ok (a, t) → R s t

namespace Relates

variable {R : σ → σ → Prop}

section

variable [IsPreorder σ R] {body : Transaction σ ε α}

theorem of_readOnly (readOnly : ReadOnly body) : Relates R body := by
  intro s a t ran
  rw [readOnly s a t ran]
  exact Std.Refl.refl t

theorem pure {a : α} : Relates R (Pure.pure a : Transaction σ ε α) :=
  of_readOnly .pure

theorem require {condition : Prop} [Decidable condition] {failure : ε} :
    Relates R (UnitOfWork.require condition failure : Transaction σ ε Unit) :=
  of_readOnly .require

theorem demand {value : Option α} {failure : ε} :
    Relates R (UnitOfWork.demand value failure : Transaction σ ε α) :=
  of_readOnly .demand

theorem get : Relates R (MonadState.get : Transaction σ ε σ) :=
  of_readOnly .get

theorem bind {x : Transaction σ ε α} {f : α → Transaction σ ε β} (first : Relates R x)
    (second : ∀ a, Relates R (f a)) : Relates R (x >>= f) := by
  intro s b t ran
  obtain ⟨a, m, started, rest⟩ := bind_ok.1 ran
  exact IsTrans.trans s m t (first s a m started) (second a m b t rest)

/-- A unit of work relates what its command relates. -/
theorem commit (related : Relates R body) (s : σ) : R s (UnitOfWork.commit body s) :=
  commit_related body s (Std.Refl.refl s) fun a t ran => related s a t ran

end

theorem requires {condition : Prop} [Decidable condition] {failure : ε}
    {f : Unit → Transaction σ ε β} (rest : Relates R (f ())) :
    Relates R (UnitOfWork.require condition failure >>= f) :=
  fun s b t ran => rest s b t (require_bind_ok.1 ran).2

theorem demands {value : Option α} {failure : ε} {f : α → Transaction σ ε β}
    (rest : ∀ a, Relates R (f a)) : Relates R (UnitOfWork.demand value failure >>= f) := by
  intro s b t ran
  obtain ⟨a, _, ends⟩ := demand_bind_ok.1 ran
  exact rest a s b t ends

/-- A command that first reads the state relates it with where the rest ends. -/
theorem get_bind {f : σ → Transaction σ ε β} (rest : ∀ s b t, f s s = .ok (b, t) → R s t) :
    Relates R ((MonadState.get : Transaction σ ε σ) >>= f) :=
  fun s b t ran => rest s b t (get_bind_ok.1 ran)

theorem ite {condition : Prop} [Decidable condition] {x y : Transaction σ ε α}
    (first : Relates R x) (second : Relates R y) : Relates R (if condition then x else y) := by
  split
  · exact first
  · exact second

theorem whenSome {value : Option α} {present : α → Transaction σ ε β}
    {absent : Transaction σ ε β} (first : ∀ a, Relates R (present a))
    (second : Relates R absent) : Relates R (UnitOfWork.whenSome value present absent) := by
  cases value with
  | none => exact second
  | some a => exact first a

/-- A command on one component relates what the component's relation carries over. -/
theorem within {P : τ → τ → Prop} {get : σ → τ} {put : τ → σ → σ} {body : Transaction τ ε α}
    (inner : Relates P body) (carries : ∀ s t, P (get s) t → R s (put t s)) :
    Relates R (UnitOfWork.within get put body) := by
  intro s a t ran
  obtain ⟨m, finished, rfl⟩ := within_ok.1 ran
  exact carries s m (inner _ a m finished)

end Relates
end Ayo.Kernel.Related

/-! With which failure a command fails, read off its steps. -/

namespace Ayo.Kernel.Failures

open Kernel.UnitOfWork

variable {σ ε α β : Type} {s : σ} {e failure : ε}

theorem pure_fails {a : α} : (pure a : Transaction σ ε α) s = .error e ↔ False := by
  show Except.ok (a, s) = Except.error e ↔ False
  simp

theorem throw_fails : (throw failure : Transaction σ ε α) s = .error e ↔ failure = e := by
  show Except.error failure = Except.error e ↔ failure = e
  simp

theorem get_bind_fails {f : σ → Transaction σ ε β} :
    ((get : Transaction σ ε σ) >>= f) s = .error e ↔ f s s = .error e := Iff.rfl

theorem require_bind_fails {condition : Prop} [Decidable condition] {f : Unit → Transaction σ ε β} :
    (require condition failure >>= f) s = .error e ↔
      (¬ condition ∧ failure = e) ∨ (condition ∧ f () s = .error e) := by
  unfold require
  by_cases holds : condition
  · rw [if_pos holds]
    simp [holds]
  · rw [if_neg holds]
    simp only [holds, not_false_eq_true, true_and, false_and, or_false]
    exact throw_fails (s := s)

theorem demand_bind_fails {value : Option α} {f : α → Transaction σ ε β} :
    (demand value failure >>= f) s = .error e ↔
      (value = none ∧ failure = e) ∨ ∃ a, value = some a ∧ f a s = .error e := by
  cases value with
  | none =>
    simp only [demand, true_and, reduceCtorEq, false_and, exists_false, or_false]
    exact throw_fails (s := s)
  | some a => simp [demand]

theorem bind_fails {x : Transaction σ ε α} {f : α → Transaction σ ε β} : (x >>= f) s = .error e ↔
    x s = .error e ∨ ∃ a t, x s = .ok (a, t) ∧ f a t = .error e := by
  cases h : x s with
  | error => simp [bind, StateT.bind, Except.bind, h]
  | ok => simp [bind, StateT.bind, Except.bind, h, Prod.ext_iff]

theorem within_fails {τ : Type} {get : σ → τ} {put : τ → σ → σ} {body : Transaction τ ε α} :
    within get put body s = .error e ↔ body (get s) = .error e := by
  cases h : body (get s) with
  | error => simp [within, h]
  | ok => simp [within, h]

end Ayo.Kernel.Failures

/-! Computations without a state that return a value or fail. -/

namespace Ayo.Kernel.Validation

variable {ε α β : Type} {failure : ε} {f : α → Except ε β}

/-- Fail unless the condition holds. -/
def ensure (condition : Prop) [Decidable condition] (failure : ε) : Except ε Unit :=
  if condition then .ok () else .error failure

/-- The value of an option, or a failure. -/
def expect (value : Option α) (failure : ε) : Except ε α :=
  match value with
  | some a => .ok a
  | none => .error failure

@[simp] theorem ensure_eq_ok {condition : Prop} [Decidable condition] {u : Unit} :
    ensure condition failure = .ok u ↔ condition := by
  unfold ensure
  split <;> simp [*]

@[simp] theorem expect_eq_ok {value : Option α} {a : α} :
    expect value failure = .ok a ↔ value = some a := by
  cases value <;> simp [expect]

@[simp] theorem pure_eq_ok {a b : α} : (pure a : Except ε α) = .ok b ↔ a = b := by
  show Except.ok a = Except.ok b ↔ a = b
  simp

@[simp] theorem bind_eq_ok {x : Except ε α} {b : β} :
    (x >>= f) = .ok b ↔ ∃ a, x = .ok a ∧ f a = .ok b := by
  cases x <;> simp [bind, Except.bind]

theorem ensure_bind_eq_ok {condition : Prop} [Decidable condition] {f : Unit → Except ε β} {b : β} :
    (ensure condition failure >>= f) = .ok b ↔ condition ∧ f () = .ok b := by
  simp only [bind_eq_ok, ensure_eq_ok]
  exact ⟨fun ⟨_, holds, rest⟩ => ⟨holds, rest⟩, fun ⟨holds, rest⟩ => ⟨(), holds, rest⟩⟩

theorem expect_bind_eq_ok {value : Option α} {b : β} :
    (expect value failure >>= f) = .ok b ↔ ∃ a, value = some a ∧ f a = .ok b := by
  simp

end Ayo.Kernel.Validation
