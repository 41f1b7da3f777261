/- digest: Commands inside one transaction whose writes may stay when they fail. -/

import Ayo.Kernel.UnitOfWork

namespace Ayo.Kernel.Sessions

/-- A command of a transaction: it returns a value or fails, in a new state either way. -/
abbrev Session (σ ε α : Type) := ExceptT ε (StateM σ) α

variable {σ ε α β : Type}

/-- Fail unless the condition holds. -/
def require (condition : Prop) [Decidable condition] (failure : ε) : Session σ ε Unit :=
  if condition then pure () else throw failure

/-- The value of an option, or a failure. -/
def demand (value : Option α) (failure : ε) : Session σ ε α :=
  match value with
  | some a => pure a
  | none => throw failure

/-- Replace the state. -/
def put (s : σ) : Session σ ε Unit := set s

/-- The weakest precondition of a command for what is to hold when it returns and when it fails. -/
def wp (body : Session σ ε α) (returns : α → σ → Prop) (fails : ε → σ → Prop) (s : σ) : Prop :=
  match body s with
  | (.ok a, t) => returns a t
  | (.error e, t) => fails e t

section

variable {returns : α → σ → Prop} {fails : ε → σ → Prop} {s : σ}

@[simp] theorem wp_pure {a : α} : wp (pure a) returns fails s ↔ returns a s := Iff.rfl

@[simp] theorem wp_throw {e : ε} :
    wp (throw e : Session σ ε α) returns fails s ↔ fails e s := Iff.rfl

@[simp] theorem wp_bind {x : Session σ ε β} {f : β → Session σ ε α} :
    wp (x >>= f) returns fails s ↔ wp x (fun b t => wp (f b) returns fails t) fails s := by
  have unfolded : (x >>= f) s = match x s with
      | (.ok b, t) => f b t
      | (.error e, t) => (.error e, t) := by
    simp only [bind, ExceptT.bind, ExceptT.mk, StateT.bind, ExceptT.bindCont]
    rcases x s with ⟨result, t⟩
    cases result <;> rfl
  unfold wp
  rw [unfolded]
  rcases x s with ⟨result, t⟩
  cases result <;> rfl

@[simp] theorem wp_get {returns : σ → σ → Prop} :
    wp (get : Session σ ε σ) returns fails s ↔ returns s s := Iff.rfl

@[simp] theorem wp_put {returns : Unit → σ → Prop} {n : σ} :
    wp (put n) returns fails s ↔ returns () n := Iff.rfl

@[simp] theorem wp_require {returns : Unit → σ → Prop} {condition : Prop} [Decidable condition]
    {failure : ε} : wp (require condition failure) returns fails s ↔
      (condition → returns () s) ∧ (¬ condition → fails failure s) := by
  unfold require
  by_cases holds : condition
  · simp [holds]
  · simp [holds]

@[simp] theorem wp_demand {value : Option α} {failure : ε} :
    wp (demand value failure) returns fails s ↔
      (∀ a, value = some a → returns a s) ∧ (value = none → fails failure s) := by
  cases value with
  | none => simp [demand]
  | some a => simp [demand]

end

end Ayo.Kernel.Sessions

/-! Units of work with a commit of their own inside: what was committed stays when the scope is left
by a failure, and the rest is rolled back. -/

namespace Ayo.Kernel.Scopes

open Kernel.UnitOfWork (Transaction)
open Kernel.Sessions

/-- The database as others see it, and as the transaction of the scope does, until it ends. -/
structure Scope (σ : Type) where
  (database connection : σ)
  finished : Bool

/-- A command inside a scope. -/
abbrev Scoped (σ ε α : Type) := Session (Scope σ) ε α

variable {σ ε α β : Type}

/-- Run a transaction on the connection of the scope. -/
def onConnection (body : Transaction σ ε α) : Scoped σ ε α :=
  fun scope : Scope σ =>
    match body scope.connection with
    | .ok (a, t) => (.ok a, { scope with connection := t })
    | .error e => (.error e, scope)

/-- `commit`: what the transaction wrote is in the database, and the transaction has ended. -/
def commitNow (ended : ε) : Scoped σ ε Unit :=
  fun scope : Scope σ =>
    if scope.finished = true then (.error ended, scope)
    else (.ok (), { scope with database := scope.connection, finished := true })

/-- The scope from entry to exit: on exit it commits, after a failure it rolls back, and neither
where the transaction has ended before. -/
def leave (body : Scoped σ ε α) (database : σ) : Except ε α × σ :=
  match body { database, connection := database, finished := false } with
  | (.ok a, scope) => (.ok a, if scope.finished = true then scope.database else scope.connection)
  | (.error e, scope) => (.error e, scope.database)

/-- A scope that gates a transaction by another one: what the gate wrote is committed before a
refusal, and rolled back with the rest when the transaction fails. -/
theorem leave_gated (passes : β → Prop) [DecidablePred passes] {gate : Transaction σ ε β}
    {refusal : β → ε} {body : Transaction σ ε α} {database gated : σ} {decision : β} {ended : ε}
    (decides : gate database = .ok (decision, gated)) : leave (do
      let decision ← onConnection gate
      if passes decision then pure () else do
        commitNow ended
        throw (refusal decision)
      onConnection body) database =
      if passes decision then
        match body gated with
        | .ok (a, t) => (.ok a, t)
        | .error e => (.error e, database)
      else (.error (refusal decision), gated) := by
  by_cases holds : passes decision
  · cases outcome : body gated with
    | ok | error =>
      simp [leave, onConnection, decides, holds, outcome, bind, ExceptT.bind, ExceptT.mk,
        StateT.bind, ExceptT.bindCont]
  · simp [leave, onConnection, commitNow, decides, holds, bind, ExceptT.bind, ExceptT.mk,
      StateT.bind, ExceptT.bindCont, throw, throwThe, MonadExceptOf.throw]
    rfl

end Ayo.Kernel.Scopes
