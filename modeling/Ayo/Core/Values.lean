/- digest: Identifiers, times, bounded numbers and texts, payloads, and failures. -/

import Ayo.Kernel.UnitOfWork

namespace Ayo.Core.Values

/-- A UUID, as the 128-bit number that orders it. -/
abbrev Uuid := Nat

abbrev Instant := Int

/-- A Python `datetime`: its moment, and its UTC offset unless it is naive. -/
structure DateTime where
  instant : Instant
  offset : Option Int
deriving DecidableEq

def DateTime.aware (time : DateTime) : Bool := time.offset.isSome

/-- The aware `datetime` that the UTC validator of a model leaves. -/
def DateTime.utc (instant : Instant) : DateTime := ⟨instant, some 0⟩

/-- What a command raises: a conflict code, a failed field of a model, the text of a
`ValueError`, or a constraint of a table. -/
inductive Failure where
  | conflict (code : String)
  | field (name : String)
  | value (text : String)
  | integrity (table : String)
deriving DecidableEq

structure Event where
  aggregateType : String
  aggregateId : Uuid
  eventType : String
  occurredAt : Instant
  (correlationId causationId : Uuid)

inductive Json where
  | null
  | number (value : Int)
  | text (value : String)
  | uuid (value : Uuid)
  | time (value : DateTime)
  | list (values : List (List (String × Json)))

/-- A JSON object by its fields; the fields of one request always stand in one order. -/
abbrev Payload := List (String × Json)

/-- A SHA-256 digest, as the number that its 64 hexadecimal digits write. -/
abbrev Digest := Nat

@[ext] structure MinorAmount where
  value : Int
  nonneg : 0 ≤ value
  bounded : value ≤ 10000000000
deriving DecidableEq

def MinorAmount.ofInt? (value : Int) : Option MinorAmount :=
  if range : 0 ≤ value ∧ value ≤ 10000000000 then some ⟨value, range.1, range.2⟩ else none

/-- A first character of one kind, and after it at least and at most so many of another. -/
def isPattern (first other : Char → Bool) (least most : Nat) (text : String) : Bool :=
  match text.toList with
  | [] => false
  | head :: tail => first head && (least ≤ tail.length && tail.length ≤ most) && tail.all other

def isCodeChar (c : Char) : Bool := c.isLower || c.isDigit || c == '_' || c == '.' || c == '-'

/-- `^[a-z][a-z0-9_.-]{2,62}$`. -/
def isCode : String → Bool := isPattern Char.isLower isCodeChar 2 62

/-- `^[A-Z]{3}$`. -/
def isCurrency (text : String) : Bool :=
  text.toList.length == 3 && text.toList.all Char.isUpper

abbrev Code := { text : String // isCode text = true }

abbrev Currency := { text : String // isCurrency text = true }

def etb : Currency := ⟨"ETB", by decide⟩

abbrev BoundedText (least most : Nat) :=
  { text : String // least ≤ text.length ∧ text.length ≤ most }

def refine? {α : Type} (p : α → Prop) [DecidablePred p] (value : α) : Option (Subtype p) :=
  if belongs : p value then some ⟨value, belongs⟩ else none

def code? (text : String) : Option Code := refine? _ text

def boundedText? (least most : Nat) (text : String) : Option (BoundedText least most) :=
  refine? _ text

def refuse (condition : Prop) [Decidable condition] (text : String) (later : Option String) :
    Option String :=
  if condition then some text else later

theorem none_later (start : Instant) : ∀ time ∈ (none : Option Instant), start ≤ time := by
  intro time mem
  cases mem

theorem some_later {start time : Instant} (later : start ≤ time) :
    ∀ other ∈ some time, start ≤ other := by
  rintro _ ⟨⟩
  exact later

@[simp] theorem refuse_eq_none {condition : Prop} [Decidable condition] {text : String}
    {later : Option String} : refuse condition text later = none ↔ ¬ condition ∧ later = none := by
  unfold refuse
  split <;> simp [*]

@[simp] theorem MinorAmount.ofInt?_eq_some {value : Int} {amount : MinorAmount} :
    MinorAmount.ofInt? value = some amount ↔ amount.value = value := by
  unfold MinorAmount.ofInt?
  split
  · simp [MinorAmount.ext_iff, eq_comm]
  · rename_i outside
    refine ⟨by simp, ?_⟩
    rintro rfl
    exact absurd ⟨amount.nonneg, amount.bounded⟩ outside

@[simp] theorem refine?_eq_some {α : Type} {p : α → Prop} [DecidablePred p] {value : α}
    {element : Subtype p} : refine? p value = some element ↔ element.1 = value := by
  unfold refine?
  split
  · simp [Subtype.ext_iff, eq_comm]
  · rename_i outside
    refine ⟨by simp, ?_⟩
    rintro rfl
    exact absurd element.2 outside

example : isCode "payment.callback.authorized" = true := by decide

end Ayo.Core.Values

namespace Ayo.Core.Lifecycle

open Kernel.UnitOfWork Values

variable {σ S : Type} [DecidableEq S] {timestampInvalid invalid : String} {allowed : S → List S}
  {time : DateTime}

def ensureTransitionAllowed (allowed : S → List S) (invalid timestampInvalid : String)
    (current target : S) (time : DateTime) : Transaction σ Failure Unit :=
  if target = current then
    pure ()
  else do
    require (target ∈ allowed current) (.conflict invalid)
    require (time.aware = true) (.conflict timestampInvalid)

def ensureTimedTransitionAllowed (allowed : S → List S) (timestampInvalid invalid : String)
    (current target : S) (time : DateTime) : Transaction σ Failure Unit :=
  if current = target then
    pure ()
  else do
    require (time.aware = true) (.conflict timestampInvalid)
    require (target ∈ allowed current) (.conflict invalid)

def Follows (allowed : S → List S) (current target : S) : Prop :=
  target = current ∨ target ∈ allowed current

instance (allowed : S → List S) (current target : S) : Decidable (Follows allowed current target) :=
  inferInstanceAs (Decidable (_ ∨ _))

theorem ensureTransitionAllowed_bind_ok {α : Type} {old target : S}
    {f : Unit → Transaction σ Failure α} {s t : σ} {a : α} :
    (ensureTransitionAllowed allowed invalid timestampInvalid old target time >>= f) s =
        .ok (a, t) ↔
      Follows allowed old target ∧ (target ≠ old → time.aware = true) ∧ f () s = .ok (a, t) := by
  unfold ensureTransitionAllowed Follows
  by_cases same : target = old
  · simp [same]
  · rw [if_neg same, bind_assoc]
    simp only [require_bind_ok]
    simp [same]

theorem ensureTimedTransitionAllowed_bind_ok {α : Type} {old target : S}
    {f : Unit → Transaction σ Failure α} {s t : σ} {a : α} :
    (ensureTimedTransitionAllowed allowed timestampInvalid invalid old target time >>= f) s =
        .ok (a, t) ↔
      Follows allowed old target ∧ (target ≠ old → time.aware = true) ∧ f () s = .ok (a, t) := by
  unfold ensureTimedTransitionAllowed Follows
  by_cases same : old = target
  · simp [same]
  · rw [if_neg same, bind_assoc]
    simp only [require_bind_ok]
    simp [Ne.symm same, and_left_comm]

end Ayo.Core.Lifecycle

namespace Ayo.Rides.Models

open Core.Values

structure ActiveRide where
  (rideId riderId : Uuid)
  (driverId assignmentId rideRequestId dispatchHandoffId : Option Uuid)
  (pickupPlaceId destinationPlaceId : BoundedText 8 128)

abbrev ActiveRides := Uuid → Option ActiveRide

end Ayo.Rides.Models

/-! The rows of ride requests, active rides and booking confirmations that pricing reads. -/

namespace Ayo.Rides.Sources

open Core.Values

inductive RideRequestState where
  | draft
  | requested
  | validating
  | readyForDispatch
  | validationFailed
  | cancelled
  | expired
deriving DecidableEq

def RideRequestState.value : RideRequestState → String
  | .draft => "draft"
  | .requested => "requested"
  | .validating => "validating"
  | .readyForDispatch => "ready_for_dispatch"
  | .validationFailed => "validation_failed"
  | .cancelled => "cancelled"
  | .expired => "expired"

inductive ActiveRideState where
  | driverAssigned
  | requestAccepted
  | searching
  | offering
  | assigned
  | driverEnRoute
  | driverArrived
  | pickupVerificationPending
  | pickupVerified
  | inProgress
  | destinationApproaching
  | completionPending
  | completed
  | reassigning
  | cancellationPending
  | cancelled
  | noShowReview
  | noDriverAvailable
  | operationalRecovery
  | operationalReview
  | pickupConfirmed
  | rideInProgress
  | destinationArrived
  | driverCancelled
  | riderCancelled
  | supportInterrupted
  | systemInterrupted
deriving DecidableEq

structure RideRequestRow where
  riderIdentityId : Option Uuid
  state : RideRequestState
  (serviceType paymentIntent : Option String)
  serviceZoneId : Option Uuid

structure ActiveRideRow where
  riderId : Uuid
  (driverId assignmentId rideRequestId dispatchHandoffId : Option Uuid)
  state : ActiveRideState
  serviceType : String

structure BookingConfirmation where
  evidenceId : Uuid
  (fareEstimateId estimateAcceptanceId : Option Uuid)
  pricingLineageHash : Option Digest

/-- The answers of the ride and booking stores while one command runs. -/
structure RideSources where
  rideRequests : Uuid → Option RideRequestRow
  activeRides : Uuid → Option ActiveRideRow
  confirmations : Uuid → Option BookingConfirmation

end Ayo.Rides.Sources
