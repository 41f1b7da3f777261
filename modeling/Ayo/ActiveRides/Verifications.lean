/- digest: What the actions on the active ride store do to the pickup verifications. -/

import Ayo.ActiveRides.Effects

namespace Ayo.ActiveRides.Verifications

open Kernel.UnitOfWork Kernel.KeyedTable Kernel.Ordering Core.Values Core.Authorization Application
  Effects Models Repository ActiveRides.System

/-- The verification with one more wrong code, and its cool-down from the third on. -/
def counted (row : PickupVerification) (now : Instant) : PickupVerification :=
  { row with
    attemptCount := row.attemptCount + 1,
    cooldownUntil := if 3 ≤ row.attemptCount + 1 then some (now + seconds 30) else none }

def marked (row : PickupVerification) (now : Instant) : PickupVerification :=
  { row with verifiedAt := some now }

/-- A code is compared with a verification: the one in use, before it expires and out of its
cool-down, while codes are left. -/
structure Compared (store : ActiveRideStore) (rideId : Uuid) (now : Instant)
    (row : PickupVerification) : Prop where
  current : currentVerification store rideId = some row
  unmarked : row.verifiedAt = none
  unexpired : now < row.expiresAt
  cooled : ∀ cooldownUntil ∈ row.cooldownUntil, cooldownUntil ≤ now
  left : row.attemptCount < row.maximumAttempts

section

variable {store t : ActiveRideStore} {rideId : Uuid} {row : PickupVerification}

theorem mem_of_current (old : currentVerification store rideId = some row) :
    row ∈ store.verifications.rows ∧ row.rideId = rideId ∧ row.invalidatedAt = none := by
  have last := mem_orderedBy.1 (List.mem_of_getLast? old)
  obtain ⟨held, use⟩ := List.mem_filter.1 last
  exact ⟨held, of_decide_eq_true use⟩

theorem verifyPin_ok {pinDigest : Uuid → Uuid → String → Digest} {code : String} {now : Instant}
    {valid : Bool} (ran : verifyPin pinDigest rideId code now store = .ok (valid, t)) :
    ∃ row, Compared store rideId now row ∧
      (valid = true ↔ pinDigest rideId row.assignmentId code = row.secretDigest) ∧
      ∃ verifications : Table PickupVerification, t = { store with verifications } ∧
        verifications.rows = store.verifications.replaced
          (cond valid (marked row now) (counted row now)) := by
  unfold verifyPin updateVerification at ran
  simp only [steps_ok, ite_ok, bind_assoc, Table.replace?_eq_some] at ran
  obtain ⟨row, old, unmarked, unexpired, cooled, left, ⟨same, verifications, replaced, rfl, rfl⟩ |
    ⟨differs, verifications, replaced, rfl, rfl⟩⟩ := ran
  · exact ⟨row, ⟨old, unmarked, unexpired, cooled, left⟩, iff_of_true rfl same, verifications,
      rfl, replaced⟩
  · exact ⟨row, ⟨old, unmarked, unexpired, cooled, left⟩, iff_of_false Bool.false_ne_true differs,
      verifications, rfl, replaced⟩

end

def issuedRow (pinDigest : Uuid → Uuid → String → Digest) (rideId assignmentId : Uuid)
    (code : String) (now : Instant) (verificationId : Uuid) : PickupVerification where
  verificationId
  rideId
  assignmentId
  secretDigest := pinDigest rideId assignmentId code
  expiresAt := now + seconds 300
  maximumAttempts := 5
  createdAt := now

section

variable {store t : ActiveRideStore} {rideId : Uuid} {config : RideConfig}
  {subject : AuthorizationSubject} {draws : Draws}

theorem issuePin_ok {pinDigest : Uuid → Uuid → String → Digest}
    {assignmentId verificationId id : Uuid} {code : String} {now : Instant}
    (ran : issuePin pinDigest rideId assignmentId code now verificationId store = .ok (id, t)) :
    ∃ ride, store.rides.find rideId = some ride ∧ ride.assignmentId = some assignmentId ∧
      ∃ verifications : Table PickupVerification, t = { store with verifications } ∧
        verifications.rows = (invalidated store.verifications rideId now).rows ++
          [issuedRow pinDigest rideId assignmentId code now verificationId] := by
  unfold issuePin getRide invalidateVerifications at ran
  simp only [bind_assoc, pure_bind, steps_ok, Table.insert?_eq_some] at ran
  obtain ⟨ride, found, ⟨assigned, _⟩, verifications, appended, _, rfl⟩ := ran
  exact ⟨ride, found, assigned, verifications, rfl, appended⟩

theorem issueVerification_ok {request : RequestPickupVerificationCommand} {answer : Uuid × String}
    (ran : issueVerification config subject rideId draws request store = .ok (answer, t)) :
    ∃ ride assignmentId, t.rides.find rideId = some ride ∧ ride.assignmentId = some assignmentId ∧
      t.verifications.rows = (invalidated store.verifications rideId draws.now).rows ++
        [issuedRow config.pinDigest rideId assignmentId (pickupText draws.pickupCode) draws.now
          draws.verificationId] := by
  obtain ⟨_, _, _, checked⟩ := owned_bind_ok.1 ran
  obtain ⟨_, requested⟩ := require_bind_ok.1 checked
  obtain ⟨⟨new, created⟩, between, moved, issuing⟩ := bind_ok.1 requested
  obtain ⟨assignmentId, _, drawn⟩ := demand_bind_ok.1 issuing
  obtain ⟨issued, pinned, _⟩ := bind_pure_ok.1 drawn
  obtain ⟨ride, found, assigned, verifications, rfl, appended⟩ := issuePin_ok pinned
  have sides : between.verifications = store.verifications :=
    congrArg Prod.snd (commandTransition_ok moved).1
  rw [sides] at appended
  exact ⟨ride, assignmentId, found, assigned, appended⟩

end

section

variable {config : RideConfig} {subject : AuthorizationSubject} {rideId : Uuid} {draws : Draws}
  {store t : ActiveRideStore} {request : PickupVerifyCommand}

theorem verifyPickup_ok {verified : Option ActiveRide}
    (ran : verifyPickup config subject rideId draws request store = .ok (verified, t)) :
    ∃ ride between, store.rides.find rideId = some ride ∧ Permitted subject ride true ∧
      verifyPin config.pinDigest rideId request.code draws.now store =
        .ok (verified.isSome, between) ∧ t.verifications = between.verifications := by
  obtain ⟨ride, found, owns, verifying⟩ := owned_bind_ok.1 ran
  obtain ⟨valid, between, compared, decided⟩ := bind_ok.1 verifying
  cases valid with
  | true =>
    obtain ⟨⟨new, created⟩, moved, rfl⟩ := bind_pure_ok.1 decided
    exact ⟨ride, between, found, owns, compared, congrArg Prod.snd (commandTransition_ok moved).1⟩
  | false =>
    obtain ⟨evidence, _, finished⟩ := addEvidence_bind_ok.1 decided
    obtain ⟨rfl, rfl⟩ := pure_ok.1 finished
    exact ⟨ride, between, found, owns, compared, rfl⟩

theorem verifyPickup_of_wrong {ride : ActiveRide} {between : ActiveRideStore}
    (found : store.rides.find rideId = some ride) (owns : Permitted subject ride true)
    (compared : verifyPin config.pinDigest rideId request.code draws.now store =
      .ok (false, between)) (fresh : store.evidence.find draws.evidenceId = none) :
    ∃ evidence : Table EvidenceRecord, verifyPickup config subject rideId draws request store =
        .ok (none, { between with evidence }) := by
  obtain ⟨row, _, _, verifications, rfl, _⟩ := verifyPin_ok compared
  obtain ⟨evidence, added⟩ : ∃ evidence : Table EvidenceRecord, evidence.rows =
      store.evidence.rows ++
        [{ evidenceId := draws.evidenceId, rideId, evidenceType := pickupVerificationFailure,
           submittedByRole := .driver, observedAt := draws.now, reasonCode := pickupPinMismatch }] :=
    Table.exists_inserted fun other held same => Table.find_eq_none.1 fresh other held same
  refine ⟨evidence, owned_bind_ok.2 ⟨ride, found, owns, bind_ok.2 ⟨false, _, compared, ?_⟩⟩⟩
  exact addEvidence_bind_ok.2 ⟨evidence, added, pure_ok.2 ⟨rfl, rfl⟩⟩

end

/-- The row with which an action compares a code, and whether the code is the right one. -/
def comparison (config : RideConfig) (store : ActiveRideStore) :
    RideAction → Option (PickupVerification × Bool)
  | .call ⟨subject, rideId, .verifyPickup request, draws⟩ =>
    match (do
        let _ ← owned subject rideId true
        verifyPin config.pinDigest rideId request.code draws.now) store with
    | .ok (valid, _) => (currentVerification store rideId).map fun row => (row, valid)
    | .error _ => none
  | _ => none

/-- The action is a verification whose code was the right one, and which was answered with it. -/
def accepts (config : RideConfig) (store : ActiveRideStore) : RideAction → Bool
  | .call call =>
    match perform config call store with
    | .ok (.verified _, _) => true
    | _ => false
  | _ => false

variable {config : RideConfig} {store : ActiveRideStore} {valid : Bool}

theorem comparison_eq_some {action : RideAction} {row : PickupVerification}
    (compares : comparison config store action = some (row, valid)) :
    ∃ subject rideId request draws ride between,
      action = .call ⟨subject, rideId, .verifyPickup request, draws⟩ ∧
      store.rides.find rideId = some ride ∧ Permitted subject ride true ∧
      verifyPin config.pinDigest rideId request.code draws.now store = .ok (valid, between) ∧
      Compared store rideId draws.now row := by
  unfold comparison at compares
  split at compares
  · rename_i subject rideId request draws
    split at compares
    · rename_i verdict between answered
      obtain ⟨ride, found, owns, compared⟩ := owned_bind_ok.1 answered
      obtain ⟨current, read, same⟩ := Option.map_eq_some_iff.1 compares
      cases same
      obtain ⟨other, facts, _⟩ := verifyPin_ok compared
      have one : row = other := Option.some.inj (read.symm.trans facts.current)
      exact ⟨subject, rideId, request, draws, ride, between, rfl, found, owns, compared,
        one ▸ facts⟩
    · cases compares
  · cases compares

theorem comparison_of_verifyPin {between : ActiveRideStore}
    {subject : AuthorizationSubject} {rideId : Uuid} {request : PickupVerifyCommand} {draws : Draws}
    {ride : ActiveRide} (found : store.rides.find rideId = some ride)
    (owns : Permitted subject ride true)
    (compared : verifyPin config.pinDigest rideId request.code draws.now store =
      .ok (valid, between)) :
    ∃ row, comparison config store (.call ⟨subject, rideId, .verifyPickup request, draws⟩) =
      some (row, valid) := by
  obtain ⟨row, facts, _⟩ := verifyPin_ok compared
  have answered : (do
      let _ ← owned subject rideId true
      verifyPin config.pinDigest rideId request.code draws.now) store = .ok (valid, between) :=
    owned_bind_ok.2 ⟨ride, found, owns, compared⟩
  refine ⟨row, ?_⟩
  unfold comparison
  simp only [answered, facts.current, Option.map_some]

def Reassigns : RideAction → Prop
  | .reassign _ _ _ _ _ => True
  | _ => False

inductive PinEffect (config : RideConfig) (store t : ActiveRideStore) : RideAction → Prop where
  | unchanged {action : RideAction} (same : t = store) : PinEffect config store t action
  | kept {action : RideAction} (same : t.verifications = store.verifications)
      (other : ¬ Reassigns action) : PinEffect config store t action
  | issued {subject : AuthorizationSubject} {rideId assignmentId : Uuid} {draws : Draws}
      {request : RequestPickupVerificationCommand} {ride : ActiveRide}
      (found : t.rides.find rideId = some ride)
      (assigned : ride.assignmentId = some assignmentId)
      (rows : t.verifications.rows =
        (invalidated store.verifications rideId draws.now).rows ++
          [issuedRow config.pinDigest rideId assignmentId (pickupText draws.pickupCode) draws.now
            draws.verificationId]) :
      PinEffect config store t (.call ⟨subject, rideId, .issueVerification request, draws⟩)
  | reassigned {rideId driverId assignmentId eventId : Uuid} {now : Instant}
      (same : t.verifications = invalidated store.verifications rideId now) :
      PinEffect config store t (.reassign rideId driverId assignmentId now eventId)

section

variable {config : RideConfig} {store t : ActiveRideStore} {call : RideCall} {draws : Draws}
  {action : RideAction}

private theorem kept_of_sides (sides : sideRows t = sideRows store) :
    PinEffect config store t (.call call) :=
  .kept (congrArg Prod.snd sides) id

private theorem commit_keeps {α : Type} {body : RideTransaction α}
    (kept : Keeps ActiveRideStore.verifications body) :
    (commit body store).verifications = store.verifications :=
  commit_related (R := fun s t => t.verifications = s.verifications) body store rfl
    fun a t => kept store a t

theorem evidence_keeps {subject : AuthorizationSubject} {rideId : Uuid}
    {request : EvidenceCommand} :
    Keeps ActiveRideStore.verifications (evidence subject rideId draws request) := by
  intro s a t ran
  obtain ⟨_, _, _, added⟩ := owned_bind_ok.1 ran
  unfold addEvidence at added
  simp only [steps_ok] at added
  obtain ⟨_, _, rfl⟩ := added
  rfl

private theorem create_keeps {eventId : Uuid} {ride : ActiveRide} :
    Keeps ActiveRideStore.verifications (createFromAssignment eventId ride) := by
  intro s a t ran
  unfold createFromAssignment insertRide appendEvent at ran
  simp only [bind_assoc, ↓steps_ok, Table.insert?_eq_some] at ran
  obtain ⟨_, _, _, _, _, _, _, _, _, rfl⟩ := ran
  rfl

private theorem start_keeps {assignments : Uuid → Option AssignmentSource} {assignmentId : Uuid} :
    Keeps ActiveRideStore.verifications
      (Lifecycle.startFromAssignment config draws assignments assignmentId) := by
  intro s a t ran
  unfold Lifecycle.startFromAssignment createFromImmediateAssignment insertRide appendEvent at ran
  simp only [bind_assoc, ↓steps_ok, oneOrNone_bind_ok, whenSome_ok, Table.insert?_eq_some,
    reduceCtorEq, false_and, exists_false, true_and, or_false, false_or,
    Option.some.injEq] at ran
  obtain ⟨_, _, _, ⟨_, _, _, _, _, _, _, _, _, _, _, rfl⟩ | ⟨_, _, _, _, _, rfl⟩⟩ := ran
  · rfl
  · rfl

theorem pinEffect_of_call {outcome : RideOutcome}
    (quiet : comparison config store (.call call) = none)
    (ran : perform config call store = .ok (outcome, t)) :
    PinEffect config store t (.call call) := by
  obtain ⟨subject, rideId, asked, draws⟩ := call
  unfold perform at ran
  cases asked with
  | command =>
    obtain ⟨⟨new, created⟩, m, answered, rest⟩ := bind_ok.1 ran
    obtain ⟨_, rfl⟩ := pure_ok.1 rest
    obtain ⟨ride, found, owns, moved⟩ := owned_bind_ok.1 answered
    exact kept_of_sides (commandTransition_ok moved).1
  | evidenceTransition =>
    obtain ⟨⟨new, created⟩, m, answered, rest⟩ := bind_ok.1 ran
    obtain ⟨_, rfl⟩ := pure_ok.1 rest
    obtain ⟨ride, found, owns, added⟩ := owned_bind_ok.1 answered
    obtain ⟨evidence, _, moved⟩ := addEvidence_bind_ok.1 added
    exact .kept (congrArg Prod.snd (commandTransition_ok moved).1) id
  | issueVerification =>
    obtain ⟨⟨verificationId, code⟩, m, answered, rest⟩ := bind_ok.1 ran
    obtain ⟨_, rfl⟩ := pure_ok.1 rest
    obtain ⟨ride, assignmentId, found, assigned, rows⟩ := issueVerification_ok answered
    exact .issued found assigned rows
  | verifyPickup =>
    obtain ⟨verified, m, answered, rest⟩ := bind_ok.1 ran
    obtain ⟨ride, between, found, owns, compared, _⟩ := verifyPickup_ok answered
    obtain ⟨row, compares⟩ := comparison_of_verifyPin found owns compared
    rw [quiet] at compares
    cases compares
  | lifecycle =>
    obtain ⟨⟨new, created⟩, answered, _⟩ := bind_pure_ok.1 ran
    unfold Lifecycle.lifecycleCommand getRide at answered
    simp only [bind_assoc, pure_bind, steps_ok] at answered
    obtain ⟨_, _, _, _, moved⟩ := answered
    exact kept_of_sides (commandTransition_ok moved).1

theorem step_pinEffect (quiet : comparison config store action = none) :
    PinEffect config store (rideStep config store action) action := by
  cases action with
  | call call =>
    exact commit_related (R := fun _ t => PinEffect config store t (.call call)) _ _
      (.unchanged rfl) fun _ _ => pinEffect_of_call quiet
  | evidence => exact .kept (commit_keeps evidence_keeps) id
  | startFromAssignment => exact .kept (commit_keeps start_keeps) id
  | createFromAssignment => exact .kept (commit_keeps create_keeps) id
  | reassign rideId driverId assignmentId now eventId =>
    refine commit_related (R := fun _ t => PinEffect config store t
      (.reassign rideId driverId assignmentId now eventId)) _ _ (.unchanged rfl)
      fun a t ran => ?_
    unfold reassign getRide updateRide invalidateVerifications appendEvent at ran
    simp only [bind_assoc, pure_bind, ↓steps_ok, Engine.transition_bind_ok] at ran
    obtain ⟨_, _, _, _, _, _, _, _, _, _, _, _, rfl⟩ := ran
    exact .reassigned rfl

/-- A comparison leaves the code counted, or the verification marked, or nothing where the
transition that follows the right code is refused. -/
def Leaves (valid accepted : Bool) (row : PickupVerification) (now : Instant)
    (s t : ActiveRideStore) : Prop :=
  match valid, accepted with
  | false, accepted => accepted = false ∧
    t.verifications.rows = s.verifications.replaced (counted row now)
  | true, true => t.verifications.rows = s.verifications.replaced (marked row now)
  | true, false => t = s

theorem step_of_comparison {row : PickupVerification}
    (compares : comparison config store action = some (row, valid))
    (fresh : ∀ call, action = .call call → store.evidence.find call.draws.evidenceId = none) :
    ∃ call, action = .call call ∧ Compared store call.rideId call.draws.now row ∧
      Leaves valid (accepts config store action) row call.draws.now store
        (rideStep config store action) := by
  obtain ⟨subject, rideId, request, draws, ride, between, rfl, found, owns, compared, facts⟩ :=
    comparison_eq_some compares
  refine ⟨_, rfl, facts, ?_⟩
  obtain ⟨other, facts', right, verifications, rfl, replaced⟩ := verifyPin_ok compared
  have one : other = row := Option.some.inj (facts'.current.symm.trans facts.current)
  subst one
  cases valid with
  | false =>
    obtain ⟨evidence, done⟩ := verifyPickup_of_wrong found owns compared
      (fresh ⟨subject, rideId, .verifyPickup request, draws⟩ rfl)
    have answered : perform config ⟨subject, rideId, .verifyPickup request, draws⟩ store =
        .ok (.verificationFailed, { store with evidence, verifications }) :=
      bind_ok.2 ⟨none, _, done, pure_ok.2 ⟨rfl, rfl⟩⟩
    refine ⟨?_, ?_⟩
    · simp only [accepts, answered]
    · rw [rideStep, commit_of_ok answered]
      exact replaced
  | true =>
    cases performed : perform config ⟨subject, rideId, .verifyPickup request, draws⟩ store with
    | error =>
      simp only [accepts, performed]
      exact commit_of_error performed
    | ok result =>
      obtain ⟨outcome, t⟩ := result
      obtain ⟨verified, last, done, rest⟩ := bind_ok.1 performed
      obtain ⟨rfl, rfl⟩ := pure_ok.1 rest
      obtain ⟨_, _, _, _, again, same⟩ := verifyPickup_ok done
      rw [compared] at again
      simp only [Except.ok.injEq, Prod.mk.injEq] at again
      obtain ⟨isSome, rfl⟩ := again
      obtain ⟨new, rfl⟩ := Option.isSome_iff_exists.1 isSome.symm
      have answered : rideStep config store
          (.call ⟨subject, rideId, .verifyPickup request, draws⟩) = last :=
        commit_of_ok performed
      simp only [accepts, performed, Option.elim_some]
      rw [answered]
      exact (congrArg Table.rows same).trans replaced

end

end Ayo.ActiveRides.Verifications
