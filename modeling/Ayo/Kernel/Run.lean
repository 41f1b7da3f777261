/- digest: Runs of a total step function: invariants, histories and trails. -/

import Ayo.Kernel.KeyedTable
import Mathlib.Data.List.Basic
import Mathlib.Data.List.Destutter
import Mathlib.Data.List.Induction
import Mathlib.Logic.Relation

namespace Ayo.Kernel.Run

variable {σ ι : Type} (step : σ → ι → σ)

/-- The state after a list of inputs, taken one after the other. -/
def run (s : σ) (inputs : List ι) : σ := inputs.foldl step s

/-- Every input of the list meets the guard in the state in which it is taken. -/
def Along (guard : σ → ι → Prop) : σ → List ι → Prop
  | _, [] => True
  | s, i :: rest => guard s i ∧ Along guard (step s i) rest

instance decideAlong (guard : σ → ι → Prop) [∀ s i, Decidable (guard s i)] :
    ∀ (s : σ) (inputs : List ι), Decidable (Along step guard s inputs)
  | _, [] => .isTrue trivial
  | s, i :: rest =>
    have := decideAlong guard (step s i) rest
    inferInstanceAs (Decidable (_ ∧ _))

/-- How many inputs of a run meet a test in the state in which they are taken. -/
def countAlong (test : σ → ι → Prop) [∀ s i, Decidable (test s i)] : σ → List ι → Nat
  | _, [] => 0
  | s, i :: rest => (if test s i then 1 else 0) + countAlong test (step s i) rest

variable {step} {n m : Nat}

theorem countAlong_eq_zero {test : σ → ι → Prop} [∀ s i, Decidable (test s i)] {inputs : List ι}
    (fails : ∀ i ∈ inputs, ∀ s, ¬ test s i) (s : σ) : countAlong step test s inputs = 0 := by
  induction inputs generalizing s with
  | nil => rfl
  | cons i rest ih =>
    simp only [List.mem_cons, forall_eq_or_imp] at fails
    rw [countAlong, if_neg (fails.1 s), ih fails.2]

@[simp] theorem run_nil (s : σ) : run step s [] = s := rfl

@[simp] theorem run_cons (s : σ) (i : ι) (rest : List ι) :
    run step s (i :: rest) = run step (step s i) rest := rfl

theorem run_append (s : σ) (first second : List ι) :
    run step s (first ++ second) = run step (run step s first) second := by
  simp [run, List.foldl_append]

/-- What every guarded step preserves holds after every guarded run. -/
theorem run_invariant_along {Inv : σ → Prop} {guard : σ → ι → Prop}
    (step_preserves : ∀ s i, guard s i → Inv s → Inv (step s i)) {s : σ} {inputs : List ι}
    (along : Along step guard s inputs) (start : Inv s) : Inv (run step s inputs) := by
  induction inputs generalizing s with
  | nil => exact start
  | cons i rest ih => exact ih along.2 (step_preserves s i along.1 start)

/-- What every step preserves holds after every run. -/
theorem run_invariant {Inv : σ → Prop} (step_preserves : ∀ s i, Inv s → Inv (step s i)) {s : σ}
    (inputs : List ι) (start : Inv s) : Inv (run step s inputs) := by
  induction inputs generalizing s with
  | nil => exact start
  | cons i rest ih => exact ih (step_preserves s i start)

/-- An invariant that also speaks of the inputs still to come holds at every point of a run. -/
theorem run_invariant_ahead {Inv : σ → List ι → Prop}
    (step_preserves : ∀ s i rest, Inv s (i :: rest) → Inv (step s i) rest) {s : σ} {inputs : List ι}
    (start : Inv s inputs) (n : Nat) : Inv (run step s (inputs.take n)) (inputs.drop n) := by
  induction n generalizing s inputs with
  | zero => exact start
  | succ n ih =>
    cases inputs with
    | nil => exact start
    | cons i rest => exact ih (step_preserves s i rest start)

/-- A reflexive and transitive relation that every step follows spans every run. -/
theorem run_related {R : σ → σ → Prop} (refl : ∀ s, R s s)
    (trans : ∀ {r s t}, R r s → R s t → R r t) (follows : ∀ s i, R s (step s i)) (s : σ)
    (inputs : List ι) : R s (run step s inputs) := by
  induction inputs generalizing s with
  | nil => exact refl s
  | cons i rest ih => exact trans (follows s i) (ih (step s i))

theorem run_take_succ {s : σ} {inputs : List ι} {input : ι} (taken : inputs[n]? = some input) :
    run step s (inputs.take (n + 1)) = step (run step s (inputs.take n)) input := by
  rw [List.take_add_one, taken, run_append]
  rfl

/-- A guarded run meets the guard at every one of its inputs. -/
theorem guard_of_along {guard : σ → ι → Prop} {s : σ} {inputs : List ι}
    (along : Along step guard s inputs) {input : ι} (taken : inputs[n]? = some input) :
    guard (run step s (inputs.take n)) input := by
  induction inputs generalizing s n with
  | nil => simp at taken
  | cons first rest ih =>
    cases n with
    | zero =>
      obtain rfl : first = input := by simpa using taken
      exact along.1
    | succ => exact ih along.2 (by simpa using taken)

/-- A run is guarded when it meets the guard at every one of its inputs. -/
theorem along_of_taken {guard : σ → ι → Prop} {s : σ} {inputs : List ι}
    (taken : ∀ n input, inputs[n]? = some input → guard (run step s (inputs.take n)) input) :
    Along step guard s inputs := by
  induction inputs generalizing s with
  | nil => trivial
  | cons first rest ih =>
    refine ⟨taken 0 first rfl, ih fun n input next => ?_⟩
    exact taken (n + 1) input next

/-- What every guarded step preserves goes on to hold from one point of a guarded run on. -/
theorem run_invariant_between {Inv : σ → Prop} {guard : σ → ι → Prop}
    (step_preserves : ∀ s i, guard s i → Inv s → Inv (step s i)) {s : σ} {inputs : List ι}
    (along : Along step guard s inputs) (le : n ≤ m)
    (start : Inv (run step s (inputs.take n))) : Inv (run step s (inputs.take m)) := by
  obtain ⟨passed, rfl⟩ := Nat.exists_eq_add_of_le le
  induction passed with
  | zero => exact start
  | succ passed ih =>
    have ih := ih (Nat.le_add_right n passed)
    rw [← Nat.add_assoc]
    cases taken : inputs[n + passed]? with
    | none =>
      have finished : inputs.length ≤ n + passed := List.getElem?_eq_none_iff.1 taken
      rw [List.take_of_length_le (by omega)]
      rwa [List.take_of_length_le finished] at ih
    | some input =>
      rw [run_take_succ taken]
      exact step_preserves _ input (guard_of_along along taken) ih

/-- A reflexive and transitive relation that every step follows relates earlier and later states. -/
theorem run_take_related {R : σ → σ → Prop} (refl : ∀ s, R s s)
    (trans : ∀ {r s t}, R r s → R s t → R r t) (follows : ∀ s i, R s (step s i)) (s : σ)
    (inputs : List ι) (le : n ≤ m) :
    R (run step s (inputs.take n)) (run step s (inputs.take m)) := by
  have split_take : inputs.take m = inputs.take n ++ (inputs.drop n).take (m - n) := by
    rw [← List.take_add, Nat.add_sub_cancel' le]
  rw [split_take, run_append]
  exact run_related refl trans follows _ _

theorem along_append {guard : σ → ι → Prop} {s : σ} {first second : List ι} :
    Along step guard s (first ++ second) ↔
      Along step guard s first ∧ Along step guard (run step s first) second := by
  induction first generalizing s with
  | nil => simp [Along]
  | cons i rest ih => simp [Along, ih, and_assoc]

end Ayo.Kernel.Run

/-! Properties of a run that speak of its history, and recorded histories of states in which a state
may be recorded again. -/

namespace Ayo.Kernel.Histories

open Kernel.Run

section

variable {σ ι : Type} {step : σ → ι → σ} {s : σ} {inputs : List ι}

/-- What each input of a run preserves in the state in which it is taken holds at every point. -/
theorem invariant_of_taken {Inv : σ → Prop} (start : Inv s)
    (preserves : ∀ n input, inputs[n]? = some input → Inv (run step s (inputs.take n)) →
      Inv (run step s (inputs.take (n + 1)))) (n : Nat) : Inv (run step s (inputs.take n)) := by
  induction n with
  | zero => exact start
  | succ n ih =>
    cases taken : inputs[n]? with
    | none =>
      have finished : inputs.length ≤ n := List.getElem?_eq_none_iff.1 taken
      rw [List.take_of_length_le (Nat.le_succ_of_le finished)]
      rwa [List.take_of_length_le finished] at ih
    | some input => exact preserves n input taken ih

/-- What holds at every point of a run holds at its end. -/
theorem at_end {Inv : σ → Prop} (points : ∀ n, Inv (run step s (inputs.take n))) :
    Inv (run step s inputs) := by
  have last := points inputs.length
  rwa [List.take_length] at last

end

section

variable {S : Type} [DecidableEq S] {edge : S → S → Prop}

/-- A record in which each state is the one before it or an edge away from it. -/
def Lingers (edge : S → S → Prop) (states : List S) : Prop :=
  states.IsChain fun current next => next = current ∨ edge current next

/-- The states of a record, without a state that is recorded again. -/
def moves (states : List S) : List S := states.destutter (· ≠ ·)

omit [DecidableEq S] in
theorem Lingers.append {states : List S} {old next : S} (lingers : Lingers edge states)
    (last : states.getLast? = some old) (follows : next = old ∨ edge old next) :
    Lingers edge (states ++ [next]) := by
  refine List.isChain_append.2 ⟨lingers, .singleton _, ?_⟩
  intro final isLast first isFirst
  obtain rfl : old = final := Option.mem_unique last isLast
  obtain rfl : next = first := by simpa using isFirst
  exact follows

private theorem destutter'_of_lingers {first : S} {rest : List S}
    (lingers : Lingers edge (first :: rest)) :
    (∃ others, rest.destutter' (· ≠ ·) first = first :: others) ∧
      (rest.destutter' (· ≠ ·) first).IsChain edge ∧
      (rest.destutter' (· ≠ ·) first).getLast? = (first :: rest).getLast? := by
  induction rest generalizing first with
  | nil => exact ⟨⟨[], rfl⟩, .singleton _, rfl⟩
  | cons second rest ih =>
    obtain ⟨follows, onward⟩ := List.isChain_cons_cons.1 lingers
    obtain ⟨⟨others, starts⟩, chain, last⟩ := ih onward
    by_cases same : first = second
    · -- the second entry repeats the first, and is left out
      subst same
      rw [List.destutter'_cons_neg _ (by simp)]
      exact ⟨⟨others, starts⟩, chain, by rw [last, List.getLast?_cons_cons]⟩
    · rw [List.destutter'_cons_pos (h := same), starts]
      rw [starts] at chain last
      refine ⟨⟨second :: others, rfl⟩, List.isChain_cons_cons.2 ⟨?_, chain⟩, ?_⟩
      · exact follows.resolve_left fun repeats => same repeats.symm
      · rw [List.getLast?_cons_cons, List.getLast?_cons_cons, last]

/-- Without its repetitions a record is a path of the graph, with the same ends. -/
theorem moves_of_lingers {states : List S} (lingers : Lingers edge states) :
    (moves states).IsChain edge ∧ (moves states).head? = states.head? ∧
      (moves states).getLast? = states.getLast? := by
  cases states with
  | nil => exact ⟨.nil, rfl, rfl⟩
  | cons first rest =>
    obtain ⟨⟨others, starts⟩, chain, last⟩ := destutter'_of_lingers lingers
    refine ⟨chain, ?_, last⟩
    show (rest.destutter' (· ≠ ·) first).head? = some first
    rw [starts]
    rfl

end
end Ayo.Kernel.Histories

/-! Runs in which what lies beyond a gate has gone through it: a dominator argument over the states
of each key. -/

namespace Ayo.Kernel.Gates

open Kernel.Run

variable {σ ι κ S : Type} {step : σ → ι → σ} {view : σ → κ → Option S} {gate beyond : S → Prop}
  {marked : σ → κ → Prop} {guard : σ → ι → Prop} {s : σ} {k : κ}

/-- At some point of the run, its end included, the key is in a gate. -/
def Passed (step : σ → ι → σ) (view : σ → κ → Option S) (gate : S → Prop) (s : σ)
    (inputs : List ι) (k : κ) : Prop :=
  ∃ n ≤ inputs.length, ∃ x, view (run step s (inputs.take n)) k = some x ∧ gate x

theorem passed_of_view {inputs : List ι} {x : S} (at_end : view (run step s inputs) k = some x)
    (gated : gate x) : Passed step view gate s inputs k := by
  refine ⟨inputs.length, Nat.le_refl _, x, ?_, gated⟩
  rw [List.take_length]
  exact at_end

theorem Passed.append {first second : List ι} (passed : Passed step view gate s first k) :
    Passed step view gate s (first ++ second) k := by
  obtain ⟨n, bound, x, seen, gated⟩ := passed
  refine ⟨n, ?_, x, ?_, gated⟩
  · rw [List.length_append]
    omega
  · rw [List.take_append_of_le_length bound]
    exact seen

/-- A mark that is only made in a gate says that the key has passed it. -/
theorem passed_of_marked (unmarked : ¬ marked s k)
    (marks : ∀ s i, marked (step s i) k → marked s k ∨ ∃ x, view (step s i) k = some x ∧ gate x)
    {inputs : List ι} (mark : marked (run step s inputs) k) : Passed step view gate s inputs k := by
  induction inputs using List.reverseRecOn with
  | nil => exact absurd mark unmarked
  | append_singleton inputs i ih =>
    rw [run_append] at mark
    rcases marks _ _ mark with before | ⟨x, now, gated⟩
    · exact (ih before).append
    · refine passed_of_view ?_ gated
      rw [run_append]
      exact now

/-- Where every way beyond the gate leads from beyond, from the gate or from a mark, a key that
starts nowhere is beyond the gate only after it passed it. -/
theorem passed_of_beyond (start : view s k = none) (unmarked : ¬ marked s k)
    (marks : ∀ s i, marked (step s i) k → marked s k ∨ ∃ x, view (step s i) k = some x ∧ gate x)
    (crosses : ∀ s i x, guard s i → view (step s i) k = some x → beyond x →
      (∃ y, view s k = some y ∧ (beyond y ∨ gate y)) ∨ marked s k)
    {inputs : List ι} (along : Along step guard s inputs) {x : S}
    (reached : view (run step s inputs) k = some x) (past : beyond x) :
    Passed step view gate s inputs k := by
  induction inputs using List.reverseRecOn generalizing x with
  | nil =>
    rw [run_nil, start] at reached
    cases reached
  | append_singleton inputs i ih =>
    obtain ⟨earlier, guarded⟩ := along_append.1 along
    rw [run_append] at reached
    rcases crosses _ _ _ guarded.1 reached past with ⟨y, before, further | gated⟩ | mark
    · exact (ih earlier before further).append
    · exact (passed_of_view before gated).append
    · exact (passed_of_marked unmarked marks mark).append

end Ayo.Kernel.Gates

/-! Recorded steps of a transition graph, and when a record of them is a path. -/

namespace Ayo.Kernel.Trail

variable {S : Type} {allowed : S → List S}

/-- A recorded step: the state it starts from, unless it is an entry, and the state it ends in. -/
abbrev Step (S : Type) := Option S × S

/-- The steps lead from one state to another along the edges of a graph. -/
def Walks (allowed : S → List S) (current : S) : List (Step S) → S → Prop
  | [], last => current = last
  | step :: rest, last =>
    step.1 = some current ∧ step.2 ∈ allowed current ∧ Walks allowed step.2 rest last

/-- The steps begin with the entry of the initial state and lead on from there. -/
def Path (allowed : S → List S) (initial : S) : List (Step S) → S → Prop
  | [], _ => False
  | step :: rest, last => step.1 = none ∧ step.2 = initial ∧ Walks allowed initial rest last

section

variable [DecidableEq S]

instance decideWalks (allowed : S → List S) : ∀ (current : S) (steps : List (Step S)) (last : S),
      Decidable (Walks allowed current steps last)
  | current, [], last => inferInstanceAs (Decidable (current = last))
  | _, step :: rest, last =>
    have := decideWalks allowed step.2 rest last
    inferInstanceAs (Decidable (_ ∧ _ ∧ _))

instance decidePath (allowed : S → List S) (initial : S) :
    ∀ (steps : List (Step S)) (last : S), Decidable (Path allowed initial steps last)
  | [], _ => .isFalse id
  | _ :: _, _ => inferInstanceAs (Decidable (_ ∧ _ ∧ _))

end

theorem walks_append {old last : S} {first second : List (Step S)} :
    Walks allowed old (first ++ second) last ↔
      ∃ middle, Walks allowed old first middle ∧ Walks allowed middle second last := by
  induction first generalizing old with
  | nil => simp [Walks]
  | cons step rest ih =>
    simp only [List.cons_append, Walks, ih]
    constructor
    · rintro ⟨source, edge, middle, reached, onward⟩
      exact ⟨middle, ⟨source, edge, reached⟩, onward⟩
    · rintro ⟨middle, ⟨source, edge, reached⟩, onward⟩
      exact ⟨source, edge, middle, reached, onward⟩

/-- A walk ends in one state. -/
theorem Walks.last_unique {old first second : S} {steps : List (Step S)}
    (one : Walks allowed old steps first) (other : Walks allowed old steps second) :
    first = second := by
  induction steps generalizing old with
  | nil => exact Eq.trans (Eq.symm one) other
  | cons step rest ih => exact ih one.2.2 other.2.2

/-- A step from where a path ends continues the path. -/
theorem Path.append {initial old target : S} {steps : List (Step S)}
    (path : Path allowed initial steps old) (edge : target ∈ allowed old) :
    Path allowed initial (steps ++ [(some old, target)]) target := by
  cases steps with
  | nil => exact path.elim
  | cons step rest =>
    obtain ⟨entry, start, walks⟩ := path
    exact ⟨entry, start, walks_append.2 ⟨old, walks, rfl, edge, rfl⟩⟩

/-- A path is the entry alone, or a path with one step more. -/
theorem Path.unsnoc {initial last : S} {steps : List (Step S)}
    (path : Path allowed initial steps last) :
    last = initial ∨ ∃ front source, steps = front ++ [(some source, last)] ∧
      last ∈ allowed source ∧ Path allowed initial front source := by
  rcases List.eq_nil_or_concat' steps with rfl | ⟨front, step, rfl⟩
  · exact path.elim
  · cases front with
    | nil => exact .inl path.2.2.symm
    | cons entry rest =>
      obtain ⟨source, reached, from_source, edge, ends⟩ := walks_append.1 path.2.2
      obtain ⟨origin, target⟩ := step
      obtain rfl : target = last := ends
      cases from_source
      exact .inr ⟨entry :: rest, source, rfl, edge, path.1, path.2.1, reached⟩

/-- A step to another state that is put before a step of a path breaks the path. -/
theorem Path.not_inserted {initial source target last final : S} {next : Step S}
    {front back : List (Step S)} (path : Path allowed initial (front ++ next :: back) last)
    (moves : source ≠ target) :
    ¬ Path allowed initial (front ++ (some source, target) :: next :: back) final := by
  intro inserted
  cases front with
  | nil => cases inserted.1
  | cons step rest =>
    obtain ⟨middle, reached, onward⟩ := walks_append.1 path.2.2
    obtain ⟨between, reached', detour⟩ := walks_append.1 inserted.2.2
    obtain rfl := reached.last_unique reached'
    have left : source = middle := Option.some.inj detour.1
    have expected : next.1 = some middle := onward.1
    have found : next.1 = some target := detour.2.2.1
    exact moves (left.trans (Option.mem_unique expected found))

end Ayo.Kernel.Trail

/-! Tables whose rows stay under their keys and change step by step. -/

namespace Ayo.Kernel.Evolution

open Kernel.KeyedTable Kernel.Run Kernel.Updates
open Relation (ReflTransGen)

variable {ρ κ : Type} [DecidableEq κ] [Row ρ κ] {step : ρ → ρ → Prop} {first second third : Table ρ}
  {row current : ρ}

/-- Every row has a successor under its key, which steps have made of it. -/
def Evolves (step : ρ → ρ → Prop) (first second : Table ρ) : Prop :=
  ∀ k row, first.find k = some row →
    ∃ later, second.find k = some later ∧ ReflTransGen step row later

/-- Rows are added only. -/
abbrev Extends (first second : Table ρ) : Prop := Evolves (fun _ _ => False) first second

namespace Evolves

theorem refl : Evolves step first first := fun _ row found => ⟨row, found, .refl⟩

theorem of_eq (same : second = first) : Evolves step first second := same ▸ refl

theorem trans (early : Evolves step first second) (late : Evolves step second third) :
    Evolves step first third := by
  intro k row found
  obtain ⟨middle, found, steps⟩ := early k row found
  obtain ⟨last, found, further⟩ := late k middle found
  exact ⟨last, found, steps.trans further⟩

theorem of_successors (successors : ∀ old ∈ first.rows, ∃ new ∈ second.rows,
    Row.key new = Row.key old ∧ ReflTransGen step old new) : Evolves step first second := by
  intro k old found
  obtain ⟨new, held, same, steps⟩ := successors old (Table.mem_of_find found)
  exact ⟨new, Table.find_eq_some.2 ⟨held, same.trans (Table.key_of_find found)⟩, steps⟩

/-- A table that keeps its rows evolves. -/
theorem of_kept (kept : ∀ old ∈ first.rows, old ∈ second.rows) : Evolves step first second :=
  of_successors fun old mem => ⟨old, kept old mem, rfl, .refl⟩

/-- An UPDATE whose change is a step, and rows after it. -/
theorem of_updated {condition : ρ → Prop} [DecidablePred condition] {change : ρ → ρ}
    {added : List ρ} (rows : second.rows = first.rows.map (updateWhere condition change) ++ added)
    (keeps : ∀ old, Row.key (change old) = Row.key old)
    (steps : ∀ old, condition old → step old (change old)) : Evolves step first second := by
  refine of_successors fun old mem => ⟨updateWhere condition change old, ?_, ?_, ?_⟩
  · rw [rows]
    exact List.mem_append_left added (List.mem_map_of_mem mem)
  · exact updateWhere_keeps keeps old
  · by_cases meets : condition old
    · rw [updateWhere_of_meets meets]
      exact .single (steps old meets)
    · rw [updateWhere_of_not meets]

theorem of_append {added : List ρ} (rows : second.rows = first.rows ++ added) :
    Evolves step first second :=
  of_kept fun old mem => by rw [rows]; exact List.mem_append_left added mem

theorem of_replaced (rows : second.rows = first.replaced row) (held : current ∈ first.rows)
    (same : Row.key row = Row.key current) (steps : ReflTransGen step current row) :
    Evolves step first second := by
  intro k old found
  rw [Table.find_of_rows_replaced rows, found]
  by_cases addressed : k = Row.key row
  · rw [addressed, same, Table.find_of_mem held] at found
    cases found
    exact ⟨row, if_pos addressed, steps⟩
  · exact ⟨old, if_neg addressed, .refl⟩

/-- What every step preserves of a row, its successor has. -/
theorem find {P : ρ → Prop} (evolves : Evolves step first second)
    (preserves : ∀ {old new}, step old new → P old → P new) {k : κ} (found : first.find k = some row)
    (start : P row) : ∃ later, second.find k = some later ∧ P later := by
  obtain ⟨later, found, steps⟩ := evolves k row found
  refine ⟨later, found, ?_⟩
  clear found
  induction steps with
  | refl => exact start
  | tail _ next ih => exact preserves next ih

/-- What every step does to a table, runs do. -/
theorem of_run {σ ι : Type} {next : σ → ι → σ} {T : σ → Table ρ}
    (steps : ∀ s i, Evolves step (T s) (T (next s i))) (s : σ) (inputs : List ι) :
    Evolves step (T s) (T (run next s inputs)) :=
  run_related (R := fun s t => Evolves step (T s) (T t)) (fun _ => refl) trans steps s inputs

end Evolves

/-- A row that is added stays as it is. -/
theorem Extends.find (grown : Extends first second) {k : κ} (found : first.find k = some row) :
    second.find k = some row := by
  obtain ⟨later, found, steps⟩ := grown k row found
  obtain rfl | ⟨_, impossible, _⟩ := steps.cases_head
  · exact found
  · exact impossible.elim

end Ayo.Kernel.Evolution
