/- digest: Items that workers claim for a time, and what their histories say. -/

import Ayo.Kernel.Run

namespace Ayo.Kernel.Leases

open Kernel.Run

variable {W : Type}

/-- What happens to an item: it is handed to a worker, or the worker reports back. -/
inductive Entry (W : Type) where
  | handed (worker : W) (time lease : Int)
  | published (worker : W) (time : Int)
  | failed (worker : W) (time backoff : Int) (dead : Bool)
deriving DecidableEq

/-- An item with its claim, and when it was published or given up. -/
structure Item (W : Type) where
  dueAt : Int
  attempts : Nat
  claim : Option (W × Int)
  (publishedAt deadLetteredAt : Option Int)

namespace Entry

/-- A report of a worker. -/
def ReportOf (worker : W) : Entry W → Prop
  | handed _ _ _ => False
  | published by' _ => by' = worker
  | failed by' _ _ _ => by' = worker

def isFailure : Entry W → Bool
  | failed _ _ _ _ => true
  | _ => false

/-- The time from which an item that failed is due again. -/
def retryAt : Entry W → Option Int
  | failed _ time backoff _ => some (time + backoff)
  | _ => none

/-- The entry ends the item at a time. -/
def Publishes (time : Int) : Entry W → Prop
  | published _ at' => at' = time
  | _ => False

def DeadLetters (time : Int) : Entry W → Prop
  | failed _ at' _ dead => dead = true ∧ at' = time
  | _ => False

end Entry

namespace Item

def fresh (dueAt : Int) : Item W := ⟨dueAt, 0, none, none, none⟩

/-- Neither published nor given up. -/
def Open (item : Item W) : Prop := item.publishedAt = none ∧ item.deadLetteredAt = none

/-- What may happen to an item: it is handed out when it is due and no younger claim than the
lease stands, and its claimant reports. -/
def Allows (item : Item W) : Entry W → Prop
  | .handed _ time lease =>
    item.Open ∧ item.dueAt ≤ time ∧ ∀ claim ∈ item.claim, claim.2 + lease ≤ time
  | .published worker _ => item.Open ∧ ∃ since, item.claim = some (worker, since)
  | .failed worker _ _ _ => item.Open ∧ ∃ since, item.claim = some (worker, since)

def after (item : Item W) : Entry W → Item W
  | .handed worker time _ => { item with claim := some (worker, time) }
  | .published _ time => { item with claim := none, publishedAt := some time }
  | .failed _ time backoff dead =>
    { item with
      dueAt := time + backoff
      attempts := item.attempts + 1
      claim := none
      deadLetteredAt := if dead = true then some time else none }

/-- A history whose every entry was allowed when it came. -/
def Legal (dueAt : Int) (history : List (Entry W)) : Prop :=
  Along after Allows (fresh dueAt) history

/-- The item that a history leaves. -/
def left (dueAt : Int) (history : List (Entry W)) : Item W := run after (fresh dueAt) history

end Item

open Item

section

variable {dueAt time lease : Int} {history : List (Entry W)} {entry : Entry W} {n : Nat}

theorem left_append (history : List (Entry W)) (entry : Entry W) :
    left dueAt (history ++ [entry]) = (left dueAt history).after entry := by
  unfold left
  rw [run_append]
  rfl

theorem legal_append : Legal dueAt (history ++ [entry]) ↔
      Legal dueAt history ∧ (left dueAt history).Allows entry := by
  unfold Legal left
  rw [along_append]
  simp [Along]

theorem left_take_succ (taken : history[n]? = some entry) :
    left dueAt (history.take (n + 1)) = (left dueAt (history.take n)).after entry :=
  run_take_succ taken

theorem allows_of_taken (legal : Legal dueAt history) (taken : history[n]? = some entry) :
    (left dueAt (history.take n)).Allows entry :=
  guard_of_along legal taken

theorem open_of_allows {item : Item W} (allowed : item.Allows entry) : item.Open := by
  cases entry with
  | handed => exact allowed.1
  | published => exact allowed.1
  | failed => exact allowed.1

/-- What comes next after an item is handed out is a report of the same worker, or the item is
handed out again when the lease has passed. -/
theorem next_of_handed (legal : Legal dueAt history) {worker : W} {next : Entry W}
    (taken : history[n]? = some (.handed worker time lease)) (follows : history[n + 1]? = some next)
    :
    next.ReportOf worker ∨
      ∃ other later lease', next = .handed other later lease' ∧ time + lease' ≤ later := by
  have allowed := allows_of_taken legal follows
  rw [left_take_succ taken] at allowed
  cases next with
  | handed other later lease' =>
    exact .inr ⟨other, later, lease', rfl, allowed.2.2 (worker, time) rfl⟩
  | published | failed =>
    obtain ⟨since, claimed⟩ := allowed.2
    exact .inl (Prod.mk.inj (Option.some.inj claimed)).1.symm

/-- Between two handouts the first worker reported back, or the item was taken over from it after
the lease. -/
theorem handover (legal : Legal dueAt history) {i j : Nat} (earlier : i < j) {first second : W}
    {later lease' : Int} (taken : history[i]? = some (.handed first time lease))
    (taken' : history[j]? = some (.handed second later lease')) :
    (∃ k report, i < k ∧ k < j ∧ history[k]? = some report ∧ report.ReportOf first) ∨
      ∃ k worker moment length, i < k ∧ k ≤ j ∧
        history[k]? = some (.handed worker moment length) ∧ time + length ≤ moment := by
  have bound : j < history.length := (List.getElem?_eq_some_iff.1 taken').1
  have follows : history[i + 1]? = some history[i + 1] := List.getElem?_eq_getElem (by omega)
  obtain report | ⟨worker, moment, length, next, expired⟩ := next_of_handed legal taken follows
  · refine .inl ⟨i + 1, _, Nat.lt_succ_self i, ?_, follows, report⟩
    by_contra last
    obtain rfl : j = i + 1 := by omega
    rw [taken'] at follows
    rw [← Option.some.inj follows] at report
    exact report
  · exact .inr ⟨i + 1, worker, moment, length, Nat.lt_succ_self i, earlier, by rw [follows, next],
      expired⟩

/-- A report comes right after the item was handed to the worker that reports. -/
theorem handed_of_report (legal : Legal dueAt history) {worker : W}
    (taken : history[n]? = some entry) (report : entry.ReportOf worker) :
    ∃ i time lease, n = i + 1 ∧ history[i]? = some (.handed worker time lease) := by
  have claimed : ∃ since, (left dueAt (history.take n)).claim = some (worker, since) := by
    have allowed := allows_of_taken legal taken
    cases entry with
    | handed => exact report.elim
    | published other =>
      obtain rfl : other = worker := report
      exact allowed.2
    | failed other =>
      obtain rfl : other = worker := report
      exact allowed.2
  obtain ⟨since, claimed⟩ := claimed
  cases n with
  | zero => cases claimed
  | succ i =>
    have bound : i + 1 < history.length := (List.getElem?_eq_some_iff.1 taken).1
    have s : history[i]? = some history[i] := List.getElem?_eq_getElem (by omega)
    rw [left_take_succ s] at claimed
    generalize history[i] = previous at s claimed
    cases previous with
    | handed other time lease =>
      obtain ⟨rfl, rfl⟩ := Prod.mk.inj (Option.some.inj claimed)
      exact ⟨i, time, lease, rfl, s⟩
    | published => cases claimed
    | failed => cases claimed

/-- Nothing comes after an entry that ends the item. -/
theorem last_of_ending (legal : Legal dueAt history) (taken : history[n]? = some entry)
    (ends : entry.Publishes time ∨ entry.DeadLetters time) : n + 1 = history.length := by
  have bound : n < history.length := (List.getElem?_eq_some_iff.1 taken).1
  by_contra more
  have follows : history[n + 1]? = some history[n + 1] := List.getElem?_eq_getElem (by omega)
  have still := open_of_allows (allows_of_taken legal follows)
  rw [left_take_succ taken] at still
  cases entry with
  | handed worker moment lease => simp [Entry.Publishes, Entry.DeadLetters] at ends
  | published worker moment => cases still.1
  | failed worker moment backoff dead =>
    have died : dead = true := by
      simpa [Entry.Publishes, Entry.DeadLetters] using ends.imp_right And.left
    have alive := still.2
    simp [after, died] at alive

theorem attempts_eq (dueAt : Int) (history : List (Entry W)) :
    (left dueAt history).attempts = history.countP Entry.isFailure := by
  induction history using List.reverseRecOn with
  | nil => rfl
  | append_singleton history entry ih =>
    rw [left_append, List.countP_append, ← ih]
    cases entry <;> rfl

theorem dueAt_eq (dueAt : Int) (history : List (Entry W)) : (left dueAt history).dueAt =
      ((history.filterMap Entry.retryAt).getLast?).getD dueAt := by
  induction history using List.reverseRecOn with
  | nil => rfl
  | append_singleton history entry ih =>
    rw [left_append, List.filterMap_append]
    cases entry with
    | handed worker time lease => simpa [Entry.retryAt, after] using ih
    | published worker time => simpa [Entry.retryAt, after] using ih
    | failed worker time backoff dead => simp [Entry.retryAt, after]

/-- A claim stands exactly when the last that happened was that the item was handed out. -/
theorem claim_eq_some (dueAt : Int) (history : List (Entry W)) (worker : W) (since : Int) :
    (left dueAt history).claim = some (worker, since) ↔
      ∃ lease, history.getLast? = some (.handed worker since lease) := by
  induction history using List.reverseRecOn with
  | nil => simp [left, fresh]
  | append_singleton history entry ih =>
    rw [left_append, List.getLast?_concat]
    cases entry with
    | handed other time lease => simp [after]
    | published other time => simp [after]
    | failed other time backoff dead => simp [after]

/-- An item that is published or given up has no claim, and is not both. -/
theorem ended_of_legal (legal : Legal dueAt history) :
    ((left dueAt history).publishedAt = none ∨ (left dueAt history).deadLetteredAt = none) ∧
      (¬ (left dueAt history).Open → (left dueAt history).claim = none) := by
  induction history using List.reverseRecOn with
  | nil => exact ⟨.inl rfl, fun _ => rfl⟩
  | append_singleton history entry =>
    obtain ⟨_, allowed⟩ := legal_append.1 legal
    have still := open_of_allows allowed
    rw [left_append]
    cases entry with
    | handed => exact ⟨.inl still.1, fun ended => absurd still ended⟩
    | published => exact ⟨.inr still.2, fun _ => rfl⟩
    | failed => exact ⟨.inl still.1, fun _ => rfl⟩

/-- An item is published at the time of its last entry, when that publishes it. -/
theorem publishedAt_eq_some (legal : Legal dueAt history) (time : Int) :
    (left dueAt history).publishedAt = some time ↔
      ∃ entry, history.getLast? = some entry ∧ entry.Publishes time := by
  induction history using List.reverseRecOn with
  | nil => simp [left, fresh]
  | append_singleton history entry ih =>
    have still := open_of_allows (legal_append.1 legal).2
    rw [left_append, List.getLast?_concat]
    cases entry with
    | handed worker moment lease => simp [after, Entry.Publishes, still.1]
    | published worker moment => simp [after, Entry.Publishes]
    | failed worker moment backoff dead => simp [after, Entry.Publishes, still.1]

/-- An item is given up at the time of its last entry, when that gives it up. -/
theorem deadLetteredAt_eq_some (legal : Legal dueAt history) (time : Int) :
    (left dueAt history).deadLetteredAt = some time ↔
      ∃ entry, history.getLast? = some entry ∧ entry.DeadLetters time := by
  induction history using List.reverseRecOn with
  | nil => simp [left, fresh]
  | append_singleton history entry ih =>
    have still := open_of_allows (legal_append.1 legal).2
    rw [left_append, List.getLast?_concat]
    cases entry with
    | handed worker moment lease => simp [after, Entry.DeadLetters, still.2]
    | published worker moment => simp [after, Entry.DeadLetters, still.2]
    | failed worker moment backoff dead => simp [after, Entry.DeadLetters]

end

end Ayo.Kernel.Leases
