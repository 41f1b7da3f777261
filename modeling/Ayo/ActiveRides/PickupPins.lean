/- digest: A pickup code has few tries and is accepted at most once, in time. -/

import Ayo.ActiveRides.PickupFirst
import Ayo.ActiveRides.Verifications

namespace Ayo.ActiveRides.PickupPins

open Kernel.UnitOfWork Kernel.Run Kernel.KeyedTable Core.Values Application Effects Models
  PickupFirst Repository ActiveRides.System Verifications

structure Comparison where
  verificationId : Uuid
  time : Instant
  (valid accepted : Bool)
deriving DecidableEq

def actionTime : RideAction → Instant
  | .call call => call.draws.now
  | .evidence _ _ draws _ | .startFromAssignment _ _ draws => draws.now
  | .createFromAssignment _ ride => ride.updatedAt
  | .reassign _ _ _ now _ => now

def compareOnce (config : RideConfig) (store : ActiveRideStore) (action : RideAction) :
    List Comparison :=
  (comparison config store action).toList.map fun compared =>
    ⟨compared.1.verificationId, actionTime action, compared.2, accepts config store action⟩

/-- The comparisons of codes that a run makes, in order. -/
def comparisonsOf (config : RideConfig) : ActiveRideStore → List RideAction → List Comparison
  | _, [] => []
  | store, action :: rest =>
    compareOnce config store action ++ comparisonsOf config (rideStep config store action) rest

variable (log : List Comparison)

/-- The wrong codes that were compared with an issued one. -/
def wrongs (verificationId : Uuid) : List Comparison :=
  log.filter fun compared => compared.verificationId = verificationId ∧ compared.valid = false

def acceptances (verificationId : Uuid) : List Comparison :=
  log.filter fun compared => compared.verificationId = verificationId ∧ compared.accepted = true

/-- After a wrong code that is at least the third, an issued code is not compared for a while. -/
def CooledDown : Prop :=
  ∀ front wrong middle next back, log = front ++ wrong :: (middle ++ next :: back) →
    next.verificationId = wrong.verificationId → wrong.valid = false →
    2 ≤ (wrongs front wrong.verificationId).length → wrong.time + seconds 30 ≤ next.time

/-- No later verification is one of the same ride, and the ride still has its assignment. -/
def LatestOfRide (store : ActiveRideStore) (row : PickupVerification) : Prop :=
  (∃ front back, store.verifications.rows = front ++ row :: back ∧
    ∀ later ∈ back, later.rideId ≠ row.rideId) ∧
  ∃ ride, store.rides.find row.rideId = some ride ∧ ride.assignmentId = some row.assignmentId

def FreshEvidence (store : ActiveRideStore) : RideAction → Prop
  | .call call => store.evidence.find call.draws.evidenceId = none
  | _ => True

instance (store : ActiveRideStore) (action : RideAction) : Decidable (FreshEvidence store action) :=
  match action with
  | .call _ => inferInstanceAs (Decidable (_ = none))
  | .evidence _ _ _ _ | .startFromAssignment _ _ _ | .createFromAssignment _ _
  | .reassign _ _ _ _ _ => .isTrue trivial

structure Tallied (log : List Comparison) (row : PickupVerification) : Prop where
  count : (wrongs log row.verificationId).length = row.attemptCount
  bounded : row.attemptCount ≤ row.maximumAttempts
  once : (acceptances log row.verificationId).length ≤ 1
  unmarked : row.verifiedAt = none → acceptances log row.verificationId = []
  cooling : ∀ wrong ∈ (wrongs log row.verificationId).drop 2, ∃ cooldownUntil ∈ row.cooldownUntil,
    wrong.time + seconds 30 ≤ cooldownUntil

structure PinsKept (store : ActiveRideStore) (log : List Comparison) : Prop where
  tallied : ∀ row ∈ store.verifications.rows, Tallied log row
  known : ∀ compared ∈ log, ∃ row ∈ store.verifications.rows,
    row.verificationId = compared.verificationId
  cooled : CooledDown log

section

variable {log : List Comparison} {added : Comparison} {id : Uuid} {row : PickupVerification}

theorem wrongs_append_of_other (other : added.verificationId ≠ id ∨ added.valid = true) :
    wrongs (log ++ [added]) id = wrongs log id := by
  unfold wrongs
  rw [List.filter_append]
  rcases other with differs | right
  · simp [differs]
  · simp [right]

theorem wrongs_append_of_wrong (own : added.verificationId = id) (wrong : added.valid = false) :
    wrongs (log ++ [added]) id = wrongs log id ++ [added] := by
  unfold wrongs
  rw [List.filter_append]
  simp [own, wrong]

theorem acceptances_append_of_other (other : added.verificationId ≠ id ∨ added.accepted = false) :
    acceptances (log ++ [added]) id = acceptances log id := by
  unfold acceptances
  rw [List.filter_append]
  rcases other with differs | refused
  · simp [differs]
  · simp [refused]

theorem acceptances_append_of_accepted (own : added.verificationId = id)
    (accepted : added.accepted = true) :
    acceptances (log ++ [added]) id = acceptances log id ++ [added] := by
  unfold acceptances
  rw [List.filter_append]
  simp [own, accepted]

theorem Tallied.of_other (tallied : Tallied log row)
    (other : added.verificationId ≠ row.verificationId) : Tallied (log ++ [added]) row := by
  obtain ⟨count, bounded, once, unmarked, cooling⟩ := tallied
  refine ⟨?_, bounded, ?_, ?_, ?_⟩
  · rwa [wrongs_append_of_other (.inl other)]
  · rwa [acceptances_append_of_other (.inl other)]
  · rwa [acceptances_append_of_other (.inl other)]
  · rwa [wrongs_append_of_other (.inl other)]

theorem Tallied.of_same {old : PickupVerification} (tallied : Tallied log old)
    (id : row.verificationId = old.verificationId) (count : row.attemptCount = old.attemptCount)
    (most : row.maximumAttempts = old.maximumAttempts) (mark : row.verifiedAt = old.verifiedAt)
    (cooldown : row.cooldownUntil = old.cooldownUntil) : Tallied log row := by
  refine ⟨?_, ?_, ?_, ?_, ?_⟩
  · rw [id, count]
    exact tallied.count
  · rw [count, most]
    exact tallied.bounded
  · rw [id]
    exact tallied.once
  · rw [id, mark]
    exact tallied.unmarked
  · rw [id, cooldown]
    exact tallied.cooling

theorem tallied_of_unknown
    (unknown : ∀ compared ∈ log, compared.verificationId ≠ row.verificationId)
    (count : row.attemptCount = 0) : Tallied log row := by
  have none_wrong : wrongs log row.verificationId = [] :=
    List.filter_eq_nil_iff.2 fun compared mem => by simp [unknown compared mem]
  have none_accepted : acceptances log row.verificationId = [] :=
    List.filter_eq_nil_iff.2 fun compared mem => by simp [unknown compared mem]
  refine ⟨?_, ?_, ?_, fun _ => none_accepted, ?_⟩
  · rw [none_wrong, count]
    rfl
  · omega
  · rw [none_accepted]
    exact Nat.zero_le 1
  · rw [none_wrong]
    exact fun wrong mem => absurd mem List.not_mem_nil

theorem CooledDown.append (cooled : CooledDown log) (tallied : Tallied log row)
    (own : added.verificationId = row.verificationId)
    (late : ∀ cooldownUntil ∈ row.cooldownUntil, cooldownUntil ≤ added.time) :
    CooledDown (log ++ [added]) := by
  intro front wrong middle next back split same invalid third
  rcases List.eq_nil_or_concat back with rfl | ⟨others, last, rfl⟩
  · -- the comparison that was added comes after the wrong code
    have parts : log ++ [added] = (front ++ wrong :: middle) ++ [next] := by simp [split]
    obtain ⟨rfl, rfl⟩ := List.append_singleton_inj.1 parts
    have named : wrong.verificationId = row.verificationId := same.symm.trans own
    have late_wrong : wrong ∈ (wrongs (front ++ wrong :: middle) row.verificationId).drop 2 := by
      have counted : wrongs (front ++ wrong :: middle) row.verificationId =
          wrongs front row.verificationId ++ wrong :: wrongs middle row.verificationId := by
        unfold wrongs
        rw [List.filter_append, List.filter_cons_of_pos (by simp [named, invalid])]
      rw [counted, List.drop_append_of_le_length (named ▸ third)]
      exact List.mem_append_right _ List.mem_cons_self
    obtain ⟨cooldownUntil, set, ends⟩ := tallied.cooling wrong late_wrong
    exact le_trans ends (late cooldownUntil set)
  · have parts : log ++ [added] = (front ++ wrong :: (middle ++ next :: others)) ++ [last] := by
      simp [split]
    obtain ⟨rfl, rfl⟩ := List.append_singleton_inj.1 parts
    exact cooled front wrong middle next others rfl same invalid third

end

section

variable {config : RideConfig} {store t : ActiveRideStore} {log : List Comparison}
  {row : PickupVerification} {action : RideAction} {added : Comparison}

theorem invalidate_cases (rideId : Uuid) (now : Instant) (row : PickupVerification) :
    (PickupVerification.invalidate rideId now row = row ∧
      (row.rideId = rideId → row.invalidatedAt ≠ none)) ∨
    PickupVerification.invalidate rideId now row = { row with invalidatedAt := some now } := by
  unfold PickupVerification.invalidate
  split
  · exact .inr rfl
  · rename_i kept
    exact .inl ⟨rfl, fun own unused => kept ⟨own, unused⟩⟩

theorem Tallied.invalidated (tallied : Tallied log row) (rideId : Uuid) (now : Instant) :
    Tallied log (PickupVerification.invalidate rideId now row) := by
  rcases invalidate_cases rideId now row with ⟨same, _⟩ | changed
  · rwa [same]
  · rw [changed]
    exact tallied.of_same rfl rfl rfl rfl rfl

theorem pinsKept_invalidated (rideId : Uuid) (now : Instant) (added : List PickupVerification)
    (kept : PinsKept store log)
    (rows : t.verifications.rows = (invalidated store.verifications rideId now).rows ++ added)
    (fresh : ∀ row ∈ added, Tallied log row) : PinsKept t log := by
  refine ⟨?_, ?_, kept.cooled⟩
  · intro row held
    rw [rows] at held
    rcases List.mem_append.1 held with old | new
    · obtain ⟨row, mem, rfl⟩ := List.mem_map.1 old
      exact (kept.tallied row mem).invalidated rideId now
    · exact fresh row new
  · intro compared mem
    obtain ⟨row, held, named⟩ := kept.known compared mem
    refine ⟨PickupVerification.invalidate rideId now row, ?_, ?_⟩
    · rw [rows]
      exact List.mem_append_left _ (List.mem_map_of_mem held)
    · exact (invalidate_verificationId rideId now row).trans named

theorem pinsKept_of_quiet (quiet : comparison config store action = none)
    (kept : PinsKept store log) : PinsKept (rideStep config store action) log := by
  have effect := step_pinEffect quiet
  generalize rideStep config store action = t at effect
  cases effect with
  | unchanged same => exact same ▸ kept
  | kept same =>
    obtain ⟨tallied, known, cooled⟩ := kept
    rw [← same] at tallied known
    exact ⟨tallied, known, cooled⟩
  | @issued _ rideId assignmentId draws _ ride found assigned rows =>
    refine pinsKept_invalidated _ _ _ kept rows fun row new => ?_
    obtain rfl := List.mem_singleton.1 new
    refine tallied_of_unknown (fun compared mem same => ?_) rfl
    obtain ⟨old, held, named⟩ := kept.known compared mem
    have absent := Table.find_eq_none_of_rows_append rows
    refine Table.find_eq_none.1 absent _ (List.mem_map_of_mem held) ?_
    exact (invalidate_verificationId rideId draws.now old).trans (named.trans same)
  | @reassigned rideId _ _ _ now same =>
    refine pinsKept_invalidated rideId now [] kept ?_ nofun
    rw [same, List.append_nil]

theorem pinsKept_replaced {changed : PickupVerification} (kept : PinsKept store log)
    (rows : t.verifications.rows = store.verifications.replaced changed)
    (held : row ∈ store.verifications.rows) (own : added.verificationId = row.verificationId)
    (same : changed.verificationId = row.verificationId)
    (late : ∀ cooldownUntil ∈ row.cooldownUntil, cooldownUntil ≤ added.time)
    (tells : Tallied (log ++ [added]) changed) : PinsKept t (log ++ [added]) := by
  have replaced : changed ∈ t.verifications.rows := by
    rw [rows]
    exact Table.mem_replaced.2 (.inl ⟨rfl, row, held, same.symm⟩)
  refine ⟨?_, ?_, kept.cooled.append (kept.tallied row held) own late⟩
  · intro other mem
    rw [rows] at mem
    rcases Table.mem_replaced.1 mem with ⟨rfl, _⟩ | ⟨old, differs⟩
    · exact tells
    · refine (kept.tallied other old).of_other fun equal => differs ?_
      exact (equal.symm.trans own).trans same.symm
  · intro compared mem
    rcases List.mem_append.1 mem with old | new
    · obtain ⟨other, there, named⟩ := kept.known compared old
      by_cases hit : other.verificationId = changed.verificationId
      · exact ⟨changed, replaced, hit.symm.trans named⟩
      · refine ⟨other, ?_, named⟩
        rw [rows]
        exact Table.mem_replaced.2 (.inr ⟨there, hit⟩)
    · rw [List.mem_singleton.1 new]
      exact ⟨changed, replaced, same.trans own.symm⟩

theorem tallied_counted (tallied : Tallied log row)
    (own : added.verificationId = row.verificationId) (wrong : added.valid = false)
    (refused : added.accepted = false) (left : row.attemptCount < row.maximumAttempts)
    (late : ∀ cooldownUntil ∈ row.cooldownUntil, cooldownUntil ≤ added.time) :
    Tallied (log ++ [added]) (counted row added.time) := by
  have appended : wrongs (log ++ [added]) row.verificationId =
      wrongs log row.verificationId ++ [added] := wrongs_append_of_wrong own wrong
  have accepted : acceptances (log ++ [added]) row.verificationId =
      acceptances log row.verificationId := acceptances_append_of_other (.inr refused)
  refine ⟨?_, left, ?_, ?_, ?_⟩
  · show (wrongs (log ++ [added]) row.verificationId).length = row.attemptCount + 1
    rw [appended, List.length_append, tallied.count]
    rfl
  · show (acceptances (log ++ [added]) row.verificationId).length ≤ 1
    rw [accepted]
    exact tallied.once
  · show row.verifiedAt = none → acceptances (log ++ [added]) row.verificationId = []
    rw [accepted]
    exact tallied.unmarked
  · intro earlier mem
    have mem : earlier ∈ (wrongs (log ++ [added]) row.verificationId).drop 2 := mem
    rw [appended] at mem
    have count := tallied.count
    have third : 3 ≤ row.attemptCount + 1 := by
      by_contra few
      rw [List.drop_eq_nil_of_le (by rw [List.length_append, count, List.length_singleton]; omega)]
        at mem
      exact List.not_mem_nil mem
    refine ⟨added.time + seconds 30, by simp [counted, third], ?_⟩
    rw [List.drop_append_of_le_length (by omega)] at mem
    rcases List.mem_append.1 mem with old | new
    · obtain ⟨cooldownUntil, set, ends⟩ := tallied.cooling earlier old
      have passed : earlier.time + seconds 30 ≤ added.time := le_trans ends (late cooldownUntil set)
      have positive : (0 : Int) ≤ seconds 30 := by decide
      exact le_trans passed (le_add_of_nonneg_right positive)
    · rw [List.mem_singleton.1 new]

theorem tallied_marked (tallied : Tallied log row) (own : added.verificationId = row.verificationId)
    (right : added.valid = true) (accepted : added.accepted = true)
    (unmarked : row.verifiedAt = none) : Tallied (log ++ [added]) (marked row added.time) := by
  have wrong : wrongs (log ++ [added]) row.verificationId = wrongs log row.verificationId :=
    wrongs_append_of_other (.inr right)
  have appended : acceptances (log ++ [added]) row.verificationId =
      acceptances log row.verificationId ++ [added] := acceptances_append_of_accepted own accepted
  refine ⟨?_, tallied.bounded, ?_, nofun, ?_⟩
  · show (wrongs (log ++ [added]) row.verificationId).length = row.attemptCount
    rw [wrong]
    exact tallied.count
  · show (acceptances (log ++ [added]) row.verificationId).length ≤ 1
    rw [appended, tallied.unmarked unmarked]
    exact Nat.le_refl 1
  · show ∀ earlier ∈ (wrongs (log ++ [added]) row.verificationId).drop 2, _
    rw [wrong]
    exact tallied.cooling

theorem tallied_unaccepted (tallied : Tallied log row) (right : added.valid = true)
    (refused : added.accepted = false) : Tallied (log ++ [added]) row := by
  obtain ⟨count, bounded, once, unmarked, cooling⟩ := tallied
  refine ⟨?_, bounded, ?_, ?_, ?_⟩
  · rwa [wrongs_append_of_other (.inr right)]
  · rwa [acceptances_append_of_other (.inr refused)]
  · rwa [acceptances_append_of_other (.inr refused)]
  · rwa [wrongs_append_of_other (.inr right)]

theorem step_preserves_pins (fresh : FreshEvidence store action) (kept : PinsKept store log) :
    PinsKept (rideStep config store action) (log ++ compareOnce config store action) := by
  cases compares : comparison config store action with
  | none =>
    have none_added : compareOnce config store action = [] := by
      simp [compareOnce, compares]
    rw [none_added, List.append_nil]
    exact pinsKept_of_quiet compares kept
  | some compared =>
    obtain ⟨row, valid⟩ := compared
    obtain ⟨call, rfl, facts, left⟩ := step_of_comparison compares fun call same => by
      subst same
      exact fresh
    obtain ⟨held, _, _⟩ := mem_of_current facts.current
    have added : compareOnce config store (.call call) =
        [⟨row.verificationId, call.draws.now, valid, accepts config store (.call call)⟩] := by
      simp [compareOnce, compares, actionTime]
    rw [added]
    generalize accepts config store (.call call) = accepted at left
    have tallied := kept.tallied row held
    cases valid with
    | false =>
      obtain ⟨refused, rows⟩ := left
      exact pinsKept_replaced kept rows held rfl rfl facts.cooled
        (tallied_counted tallied rfl rfl refused facts.left facts.cooled)
    | true =>
      cases accepted with
      | true =>
        have rows : (rideStep config store (.call call)).verifications.rows =
            store.verifications.replaced (marked row call.draws.now) := left
        exact pinsKept_replaced kept rows held rfl rfl facts.cooled
          (tallied_marked tallied rfl rfl rfl facts.unmarked)
      | false =>
        have same : rideStep config store (.call call) = store := left
        rw [same]
        refine ⟨fun other mem => tallied_unaccepted (kept.tallied other mem) rfl rfl, ?_,
          kept.cooled.append tallied rfl facts.cooled⟩
        intro compared mem
        rcases List.mem_append.1 mem with old | new
        · exact kept.known compared old
        · rw [List.mem_singleton.1 new]
          exact ⟨row, held, rfl⟩

theorem run_preserves_pins {actions : List RideAction}
    (fresh : Along (rideStep config) FreshEvidence store actions) (kept : PinsKept store log) :
    PinsKept (run (rideStep config) store actions) (log ++ comparisonsOf config store actions) := by
  induction actions generalizing store log with
  | nil =>
    rw [comparisonsOf, List.append_nil]
    exact kept
  | cons action rest ih =>
    rw [comparisonsOf, ← List.append_assoc]
    exact ih fresh.2 (step_preserves_pins fresh.1 kept)

end

def Superseded (earlier later : PickupVerification) : Prop :=
  earlier.rideId = later.rideId → earlier.invalidatedAt ≠ none

/-- The verifications in use are the last ones of their rides, for the assignments these have. -/
structure InUse (store : ActiveRideStore) : Prop where
  superseded : store.verifications.rows.Pairwise Superseded
  assigned : ∀ row ∈ store.verifications.rows, row.invalidatedAt = none →
    ∃ ride, store.rides.find row.rideId = some ride ∧ ride.assignmentId = some row.assignmentId

section

variable {config : RideConfig} {store : ActiveRideStore} {action : RideAction} {rideId : Uuid}
  {row : PickupVerification}

theorem assignment_stays {assignmentId : Uuid}
    (other : ∀ driverId newId now eventId, action ≠ .reassign rideId driverId newId now eventId)
    (assigned : ∃ ride, store.rides.find rideId = some ride ∧ ride.assignmentId = some assignmentId) :
    ∃ ride, (rideStep config store action).rides.find rideId = some ride ∧
      ride.assignmentId = some assignmentId := by
  obtain ⟨ride, found, own⟩ := assigned
  have effect := step_effect config store action
  change ∃ ride, (rideRows (rideStep config store action)).rides.find rideId = some ride ∧ _
  generalize rideRows (rideStep config store action) = t at effect
  cases effect with
  | kept => exact ⟨ride, found, own⟩
  | @transitioned call _ old _ _ _ _ change =>
    rw [change.find, transitionRequest_rideId]
    by_cases same : rideId = call.rideId
    · rw [if_pos same]
      have stored := change.found
      rw [transitionRequest_rideId, ← same] at stored
      obtain rfl : ride = old := Option.mem_unique found stored
      exact ⟨_, rfl, own⟩
    · rw [if_neg same]
      exact ⟨ride, found, own⟩
  | @started _ _ _ opened _ _ _ _ _ _ change | @created _ opened _ _ _ _ change =>
    have apart : rideId ≠ opened.rideId := by
      intro same
      have absent := change.absent
      rw [← same] at absent
      exact absurd (found.symm.trans absent) nofun
    rw [change.find, if_neg apart]
    exact ⟨ride, found, own⟩
  | @reassigned id driverId newId eventId now old _ _ change =>
    have apart : rideId ≠ id := by
      rintro rfl
      exact other driverId newId now eventId rfl
    rw [change.find, if_neg apart]
    exact ⟨ride, found, own⟩

theorem superseded_invalidated (superseded : store.verifications.rows.Pairwise Superseded)
    (rideId : Uuid) (now : Instant) :
    (invalidated store.verifications rideId now).rows.Pairwise Superseded := by
  refine List.pairwise_map.2 (superseded.imp fun {earlier later} s same => ?_)
  rcases invalidate_cases rideId now earlier with ⟨kept, _⟩ | changed
  · rw [kept] at same ⊢
    refine s (same.trans ?_)
    rcases invalidate_cases rideId now later with ⟨stays, _⟩ | replaced
    · rw [stays]
    · rw [replaced]
  · rw [changed]
    exact Option.some_ne_none now

theorem used_of_invalidated {now : Instant}
    (held : row ∈ (invalidated store.verifications rideId now).rows)
    (used : row.invalidatedAt = none) : row ∈ store.verifications.rows ∧ row.rideId ≠ rideId := by
  obtain ⟨old, mem, rfl⟩ := List.mem_map.1 held
  rcases invalidate_cases rideId now old with ⟨kept, other⟩ | changed
  · rw [kept] at used ⊢
    exact ⟨mem, fun own => other own used⟩
  · rw [changed] at used
    cases used

theorem inUse_of_replaced {t : ActiveRideStore} {new : PickupVerification}
    (use : InUse store) (held : row ∈ store.verifications.rows)
    (rows : t.verifications.rows = store.verifications.replaced new)
    (same : new.verificationId = row.verificationId) (ride : new.rideId = row.rideId)
    (assignment : new.assignmentId = row.assignmentId)
    (mark : new.invalidatedAt = row.invalidatedAt) (stays : ∀ rideId assignmentId,
      (∃ ride, store.rides.find rideId = some ride ∧ ride.assignmentId = some assignmentId) →
      ∃ ride, t.rides.find rideId = some ride ∧ ride.assignmentId = some assignmentId) :
    InUse t := by
  have old_of : ∀ other ∈ store.verifications.rows,
      ∀ put, (put = if Row.key other = Row.key new then new else other) →
      put.rideId = other.rideId ∧ put.invalidatedAt = other.invalidatedAt := by
    rintro other mem put rfl
    split
    · rename_i keyed
      have one : other = row := store.verifications.eq_of_key mem held (keyed.trans same)
      rw [one]
      exact ⟨ride, mark⟩
    · exact ⟨rfl, rfl⟩
  constructor
  · rw [rows]
    refine List.pairwise_map.2 (List.Pairwise.imp_of_mem ?_ use.superseded)
    intro earlier later first second stopped together
    obtain ⟨sameRide, sameUse⟩ := old_of earlier first _ rfl
    obtain ⟨laterRide, _⟩ := old_of later second _ rfl
    rw [sameUse]
    exact stopped (sameRide.symm.trans (together.trans laterRide))
  · intro other mem used
    rw [rows] at mem
    rcases Table.mem_replaced.1 mem with ⟨rfl, _⟩ | ⟨old, _⟩
    · rw [ride, assignment]
      exact stays _ _ (use.assigned row held (mark ▸ used))
    · exact stays _ _ (use.assigned other old used)

theorem step_preserves_use (fresh : FreshEvidence store action) (use : InUse store) :
    InUse (rideStep config store action) := by
  cases compares : comparison config store action with
  | some compared =>
    obtain ⟨row, valid⟩ := compared
    obtain ⟨call, rfl, facts, left⟩ := step_of_comparison compares fun call same => by
      subst same
      exact fresh
    obtain ⟨held, _, _⟩ := mem_of_current facts.current
    have stays := fun rideId assignmentId =>
      @assignment_stays config store (.call call) rideId assignmentId nofun
    generalize accepts config store (.call call) = accepted at left
    cases valid with
    | false => exact inUse_of_replaced use held left.2 rfl rfl rfl rfl stays
    | true =>
      cases accepted with
      | true => exact inUse_of_replaced use held left rfl rfl rfl rfl stays
      | false =>
        have same : rideStep config store (.call call) = store := left
        rw [same]
        exact use
  | none =>
    have effect := step_pinEffect compares
    have stays := @assignment_stays config store action
    generalize rideStep config store action = t at effect stays
    cases effect with
    | unchanged same => exact same ▸ use
    | kept same other =>
      refine ⟨same ▸ use.superseded, fun row mem used => ?_⟩
      refine stays (fun _ _ _ _ reassigns => other (by rw [reassigns]; trivial)) ?_
      exact use.assigned row (same ▸ mem) used
    | @issued _ rideId assignmentId draws _ ride found assigned rows =>
      constructor
      · rw [rows]
        refine List.pairwise_append.2 ⟨superseded_invalidated use.superseded _ _,
          List.pairwise_singleton _ _, fun earlier mem later new together => ?_⟩
        rw [List.mem_singleton.1 new] at together
        intro unused
        exact (used_of_invalidated mem unused).2 together
      · intro row mem used
        rw [rows] at mem
        rcases List.mem_append.1 mem with old | new
        · exact stays nofun (use.assigned row (used_of_invalidated old used).1 used)
        · rw [List.mem_singleton.1 new]
          exact ⟨ride, found, assigned⟩
    | @reassigned rideId _ _ _ now same =>
      constructor
      · rw [same]
        exact superseded_invalidated use.superseded _ _
      · intro row mem used
        rw [same] at mem
        obtain ⟨held, apart⟩ := used_of_invalidated mem used
        refine stays (fun _ _ _ _ reassigns => ?_) (use.assigned row held used)
        cases reassigns
        exact apart rfl

theorem latestOfRide (use : InUse store) (held : row ∈ store.verifications.rows)
    (used : row.invalidatedAt = none) : LatestOfRide store row := by
  obtain ⟨front, back, split⟩ := List.append_of_mem held
  refine ⟨⟨front, back, split, fun later mem same => ?_⟩, use.assigned row held used⟩
  have superseded := use.superseded
  rw [split] at superseded
  have invalidated := (List.pairwise_cons.1 (List.pairwise_append.1 superseded).2.1).1
  exact invalidated later mem same.symm used

end

/-- Every code that is compared in a run has few wrong codes compared with it and is accepted at
most once; it is compared before it expires, and while it is the last one of its ride for the ride's
assignment; and after its third wrong code it is compared a while after every wrong one. -/
theorem pins_bounded (config : RideConfig) {actions : List RideAction}
    (fresh : Along (rideStep config) FreshEvidence {} actions) :
    (∀ compared ∈ comparisonsOf config {} actions,
      ∃ row ∈ (run (rideStep config) {} actions).verifications.rows,
        row.verificationId = compared.verificationId ∧
        (wrongs (comparisonsOf config {} actions) row.verificationId).length ≤
          row.maximumAttempts ∧
        (acceptances (comparisonsOf config {} actions) row.verificationId).length ≤ 1) ∧
    CooledDown (comparisonsOf config {} actions) ∧
    ∀ n action, actions[n]? = some action → ∀ row valid,
      comparison config (run (rideStep config) {} (actions.take n)) action = some (row, valid) →
      actionTime action < row.expiresAt ∧
        LatestOfRide (run (rideStep config) {} (actions.take n)) row := by
  have start : PinsKept {} [] := by
    refine ⟨fun row stored => absurd stored List.not_mem_nil,
      fun compared member => absurd member List.not_mem_nil, ?_⟩
    intro front wrong middle next back split
    exact absurd split (by simp)
  have kept := run_preserves_pins fresh start
  rw [List.nil_append] at kept
  refine ⟨fun compared member => ?_, kept.cooled, fun n action taken row valid compares => ?_⟩
  · obtain ⟨row, stored, named⟩ := kept.known compared member
    have tallied := kept.tallied row stored
    exact ⟨row, stored, named, tallied.count.trans_le tallied.bounded, tallied.once⟩
  · have use : InUse (run (rideStep config) {} (actions.take n)) := by
      have empty : InUse {} := ⟨List.Pairwise.nil, fun row stored => absurd stored List.not_mem_nil⟩
      have both := run_invariant_between (fun _ _ fresh use => step_preserves_use fresh use) fresh
        (Nat.zero_le n) empty
      exact both
    obtain ⟨subject, rideId, request, draws, ride, between, rfl, _, _, _, facts⟩ :=
      comparison_eq_some compares
    obtain ⟨stored, _, used⟩ := mem_of_current facts.current
    exact ⟨facts.unexpired, latestOfRide use stored used⟩

def hurriedPickup : List RideAction :=
  [rideStarted 1, byDriver "driver_en_route" .driverEnRoute 0 2,
   byDriver "driver_arrived" .driverArrived 1 3, verificationAsked 2 4,
   pickupVerifiedWith "9999" 3 10, pickupVerifiedWith "9999" 3 11, pickupVerifiedWith "9999" 3 12,
   pickupVerifiedWith "0042" 0 42, pickupVerifiedWith "0042" 3 43]

private theorem comparisonsOf_hurriedPickup : comparisonsOf rideConfig {} hurriedPickup =
      [⟨3004, seconds 10, false, false⟩, ⟨3004, seconds 11, false, false⟩] ++
        ⟨3004, seconds 12, false, false⟩ :: ([⟨3004, seconds 42, true, false⟩] ++
          [⟨3004, seconds 43, true, true⟩]) := by
  decide +kernel

theorem pins_bounded_hurried :
    (comparisonsOf rideConfig {} hurriedPickup).length = 5 ∧
      CooledDown (comparisonsOf rideConfig {} hurriedPickup) := by
  refine ⟨by rw [comparisonsOf_hurriedPickup]; rfl, ?_⟩
  exact (@pins_bounded rideConfig hurriedPickup (by decide +kernel)).2.1

/-- Two right codes of the hurried pickup are compared within a second, after three wrong ones. -/
theorem compared_within_cooldown :
    ¬ ∀ (config : RideConfig) (actions : List RideAction),
      Along (rideStep config) FreshEvidence {} actions →
      (actions.map actionTime).Pairwise (· ≤ ·) →
      ∀ front first middle next back,
        comparisonsOf config {} actions = front ++ first :: (middle ++ next :: back) →
        next.verificationId = first.verificationId →
        3 ≤ (wrongs (front ++ [first]) first.verificationId).length →
        first.time + seconds 30 ≤ next.time := by
  intro claimed
  have apart := claimed rideConfig hurriedPickup (by decide +kernel) (by decide +kernel)
    [⟨3004, seconds 10, false, false⟩, ⟨3004, seconds 11, false, false⟩,
      ⟨3004, seconds 12, false, false⟩]
    ⟨3004, seconds 42, true, false⟩ [] ⟨3004, seconds 43, true, true⟩ []
    comparisonsOf_hurriedPickup rfl (by decide)
  exact absurd apart (by decide)

end Ayo.ActiveRides.PickupPins
