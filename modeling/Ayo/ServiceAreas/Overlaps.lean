/- digest: A pickup is decided by its one active area unless another area covers it too. -/

import Ayo.Core.Values
import Mathlib.Data.List.MinMax
import Mathlib.Data.List.Nodup
import Mathlib.Logic.Relation

namespace Ayo.ServiceAreas.Overlaps

open Core.Values

inductive ServiceAreaState where
  | planned | approved | active | temporarilySuspended | retired
deriving DecidableEq

inductive RideProductCode where
  | standard | premium | airportTransfer | accessiblePrivateRide
deriving DecidableEq

inductive ProductAvailabilityState where
  | available | temporarilyUnavailable | notYetLaunched | retired

inductive AvailabilityOutcome where
  | available | outsideServiceArea | temporarilyUnavailable | notYetLaunched
  | productUnavailable | serviceAreaInactive | unknownOrUnverifiable
deriving DecidableEq

structure ServiceArea where
  serviceAreaId : Uuid
  state : ServiceAreaState := .planned
  effectiveFrom : Option Instant := none
  effectiveUntil : Option Instant := none
  version : Nat := 1
deriving DecidableEq

structure ServiceAreaGeometry (Boundary : Type) where
  geometryId : Uuid
  serviceAreaId : Uuid
  geometryVersion : Nat
  boundary : Boundary

structure ProductAvailability where
  availabilityId : Uuid
  serviceAreaId : Uuid
  productCode : RideProductCode
  state : ProductAvailabilityState
  effectiveFrom : Instant
  effectiveUntil : Option Instant := none
  version : Nat := 1

/-- The three tables of the service areas, of which the first has one row for an area. -/
structure Store (Boundary : Type) where
  areas : List ServiceArea
  geometries : List (ServiceAreaGeometry Boundary)
  availability : List ProductAvailability
  distinct : (areas.map (·.serviceAreaId)).Nodup

structure Evidence where
  outcome : AvailabilityOutcome
  serviceAreaId : Option Uuid := none
  serviceAreaVersion : Option Nat := none
  geometryId : Option Uuid := none
  geometryVersion : Option Nat := none
  availabilityId : Option Uuid := none
  availabilityVersion : Option Nat := none

def transitions : ServiceAreaState → List ServiceAreaState
  | .planned => [.approved]
  | .approved => [.active, .retired]
  | .active => [.temporarilySuspended, .retired]
  | .temporarilySuspended => [.active, .retired]
  | .retired => []

def transitionServiceArea (area : ServiceArea) (target : ServiceAreaState) : Option ServiceArea :=
  if target ∈ transitions area.state then
    some { area with state := target, version := area.version + 1 }
  else none

variable {Boundary Point : Type}

def currentGeometry (store : Store Boundary) (serviceAreaId : Uuid) :
    Option (ServiceAreaGeometry Boundary) :=
  (store.geometries.filter fun row => row.serviceAreaId = serviceAreaId).argmax (·.geometryVersion)

def getAvailability (store : Store Boundary) (serviceAreaId : Uuid)
    (productCode : RideProductCode) : Option ProductAvailability :=
  store.availability.find? fun row =>
    row.serviceAreaId = serviceAreaId ∧ row.productCode = productCode

def InEffect (area : ServiceArea) (intendedAt : Instant) : Prop :=
  (∀ start ∈ area.effectiveFrom, start ≤ intendedAt) ∧
    ∀ stop ∈ area.effectiveUntil, intendedAt < stop
deriving Decidable

def ProductAvailabilityState.outcome : ProductAvailabilityState → AvailabilityOutcome
  | .available => .available
  | .temporarilyUnavailable => .temporarilyUnavailable
  | .notYetLaunched => .notYetLaunched
  | .retired => .productUnavailable

/-- What the configuration of an active area for the product gives. -/
def configuredOutcome (configured : Option ProductAvailability) (intendedAt : Instant) :
    AvailabilityOutcome :=
  match configured with
  | none => .productUnavailable
  | some row =>
    if intendedAt < row.effectiveFrom ∨ ∃ stop ∈ row.effectiveUntil, stop ≤ intendedAt then
      .notYetLaunched
    else row.state.outcome

def rowOutcome (area : ServiceArea) (configured : Option ProductAvailability)
    (intendedAt : Instant) : AvailabilityOutcome :=
  if area.state = .temporarilySuspended then .temporarilyUnavailable
  else if area.state ≠ .active ∨ ¬ InEffect area intendedAt then .serviceAreaInactive
  else configuredOutcome configured intendedAt

section Evaluate

variable (covers : Boundary → Point → Bool) (store : Store Boundary) (point : Point)

def coveringRow (area : ServiceArea) : Option (ServiceArea × ServiceAreaGeometry Boundary) :=
  ((currentGeometry store area.serviceAreaId).filter fun row => covers row.boundary point).map
    (area, ·)

def coveringRows : List (ServiceArea × ServiceAreaGeometry Boundary) :=
  store.areas.filterMap (coveringRow covers store point)

def evaluate (productCode : RideProductCode) (intendedAt : Instant) : Evidence :=
  match coveringRows covers store point with
  | [] => { outcome := .outsideServiceArea }
  | [(area, geometry)] =>
    let configured := getAvailability store area.serviceAreaId productCode
    { outcome := rowOutcome area configured intendedAt
      serviceAreaId := some area.serviceAreaId
      serviceAreaVersion := some area.version
      geometryId := some geometry.geometryId
      geometryVersion := some geometry.geometryVersion
      availabilityId := configured.map (·.availabilityId)
      availabilityVersion := configured.map (·.version) }
  | _ => { outcome := .unknownOrUnverifiable }

def Covering (area : ServiceArea) : Prop :=
  ∃ geometry ∈ currentGeometry store area.serviceAreaId, covers geometry.boundary point = true
deriving Decidable

/-- The area is active and in effect, and covers the point by its latest boundary. -/
structure Serving (intendedAt : Instant) (area : ServiceArea) : Prop where
  mem : area ∈ store.areas
  active : area.state = .active
  inEffect : InEffect area intendedAt
  covering : Covering covers store point area

/-- Every other area that covers the point is planned, approved or retired. -/
def Decides (intendedAt : Instant) (area : ServiceArea) : Prop :=
  Serving covers store point intendedAt area ∧ ∀ other ∈ store.areas,
    Covering covers store point other →
      other = area ∨ other.state ∈ [.planned, .approved, .retired]

def Alone (area : ServiceArea) : Prop :=
  ∀ other ∈ store.areas, Covering covers store point other → other = area

end Evaluate

/-- An area other than the given one is planned, approved or retired, or its boundary recorded. -/
inductive Further (area : ServiceArea) (store later : Store Boundary) : Prop
  | create (planned : ServiceArea) (state : planned.state = .planned)
      (areas : later.areas = store.areas ++ [planned]) (geometries : later.geometries =
        store.geometries) (availability : later.availability = store.availability)
  | transition (other saved : ServiceArea) (target : ServiceAreaState)
      (apart : area.serviceAreaId ≠ other.serviceAreaId) (ends : target ∈ [.approved, .retired])
      (allowed : transitionServiceArea other target = some saved)
      (areas : later.areas = store.areas.map fun row =>
        if row.serviceAreaId = other.serviceAreaId then saved else row)
      (geometries : later.geometries = store.geometries)
      (availability : later.availability = store.availability)
  | addGeometry (geometry : ServiceAreaGeometry Boundary)
      (apart : geometry.serviceAreaId ≠ area.serviceAreaId) (areas : later.areas = store.areas)
      (geometries : later.geometries = store.geometries ++ [geometry])
      (availability : later.availability = store.availability)

variable {covers : Boundary → Point → Bool} {store later : Store Boundary} {point : Point}
  {area : ServiceArea} {intendedAt : Instant}

theorem configuredOutcome_ne_unknown (configured : Option ProductAvailability)
    (intendedAt : Instant) : configuredOutcome configured intendedAt ≠ .unknownOrUnverifiable := by
  cases configured with
  | none => simp [configuredOutcome]
  | some row =>
    simp only [configuredOutcome]
    split
    · simp
    · cases row.state <;> simp [ProductAvailabilityState.outcome]

theorem coveringRow_eq_none :
    coveringRow covers store point area = none ↔ ¬ Covering covers store point area := by
  simp [coveringRow, Covering, Option.filter_eq_none_iff]

theorem fst_of_coveringRow {row : ServiceArea × ServiceAreaGeometry Boundary}
    (found : coveringRow covers store point area = some row) : row.1 = area := by
  obtain ⟨geometry, -, rfl⟩ := Option.map_eq_some_iff.1 found
  rfl

theorem exists_coveringRow (covering : Covering covers store point area) :
    ∃ geometry, coveringRow covers store point area = some (area, geometry) := by
  cases found : coveringRow covers store point area with
  | none => exact absurd covering (coveringRow_eq_none.1 found)
  | some row => exact ⟨row.2, by rw [← fst_of_coveringRow found]⟩

theorem coveringRows_of_alone (mem : area ∈ store.areas) (alone : Alone covers store point area)
    (covering : Covering covers store point area) :
    ∃ geometry, coveringRows covers store point = [(area, geometry)] := by
  obtain ⟨geometry, found⟩ := exists_coveringRow covering
  obtain ⟨earlier, rest, split⟩ := List.append_of_mem mem
  have once : store.areas.Nodup := List.Nodup.of_map _ store.distinct
  rw [split, List.nodup_middle, List.nodup_cons] at once
  have missed : ∀ other ∈ earlier ++ rest, coveringRow covers store point other = none := by
    intro other listed
    refine coveringRow_eq_none.2 fun covered => once.1 ?_
    have inStore : other ∈ store.areas := by
      rw [split]
      simp only [List.mem_append, List.mem_cons] at listed ⊢
      tauto
    rwa [← alone other inStore covered]
  refine ⟨geometry, ?_⟩
  rw [coveringRows, split, List.filterMap_append, List.filterMap_cons_some found,
    List.filterMap_eq_nil_iff.2 fun other listed => missed other (by simp [listed]),
    List.filterMap_eq_nil_iff.2 fun other listed => missed other (by simp [listed])]
  rfl

theorem alone_of_coveringRows {row : ServiceArea × ServiceAreaGeometry Boundary}
    (only : coveringRows covers store point = [row]) (mem : area ∈ store.areas)
    (covering : Covering covers store point area) : row.1 = area := by
  obtain ⟨geometry, found⟩ := exists_coveringRow covering
  have listed : (area, geometry) ∈ coveringRows covers store point :=
    List.mem_filterMap.2 ⟨area, mem, found⟩
  rw [only, List.mem_singleton] at listed
  rw [← listed]

theorem outcome_of_serving (serving : Serving covers store point intendedAt area)
    (productCode : RideProductCode) :
    (Alone covers store point area ∧ (evaluate covers store point productCode intendedAt).outcome =
      configuredOutcome (getAvailability store area.serviceAreaId productCode) intendedAt) ∨
    (¬ Alone covers store point area ∧
      (evaluate covers store point productCode intendedAt).outcome = .unknownOrUnverifiable) := by
  by_cases alone : Alone covers store point area
  · obtain ⟨geometry, only⟩ := coveringRows_of_alone serving.mem alone serving.covering
    refine .inl ⟨alone, ?_⟩
    simp [evaluate, only, rowOutcome, serving.active, serving.inEffect]
  · refine .inr ⟨alone, ?_⟩
    rw [evaluate]
    split
    · rename_i nothing
      obtain ⟨geometry, found⟩ := exists_coveringRow serving.covering
      have listed := List.mem_filterMap.2 ⟨area, serving.mem, found⟩
      rw [← coveringRows, nothing] at listed
      exact absurd listed List.not_mem_nil
    · rename_i row geometry only
      refine absurd (fun other mem covering => ?_) alone
      exact (alone_of_coveringRows only mem covering).symm.trans
        (alone_of_coveringRows only serving.mem serving.covering)
    · rfl

theorem Further.serving (further : Further area store later)
    (serving : Serving covers store point intendedAt area) :
    Serving covers later point intendedAt area ∧ later.availability = store.availability := by
  obtain ⟨mem, active, inEffect, covering⟩ := serving
  cases further with
  | create planned state areas geometries availability =>
    refine ⟨⟨by simp [areas, mem], active, inEffect, ?_⟩, availability⟩
    rwa [Covering, currentGeometry, geometries]
  | transition other saved target apart ends allowed areas geometries availability =>
    refine ⟨⟨?_, active, inEffect, ?_⟩, availability⟩
    · rw [areas]
      exact List.mem_map.2 ⟨area, mem, if_neg apart⟩
    · rwa [Covering, currentGeometry, geometries]
  | addGeometry geometry apart areas geometries availability =>
    refine ⟨⟨by rwa [areas], active, inEffect, ?_⟩, availability⟩
    rwa [Covering, currentGeometry, geometries, List.filter_append,
      List.filter_singleton, decide_eq_false apart, cond_false, List.append_nil]

theorem serving_of_further (further : Relation.ReflTransGen (Further area) store later)
    (serving : Serving covers store point intendedAt area) :
    Serving covers later point intendedAt area ∧ later.availability = store.availability := by
  induction further with
  | refl => exact ⟨serving, rfl⟩
  | tail _ step ih =>
    obtain ⟨served, same⟩ := step.serving ih.1
    exact ⟨served, same.trans ih.2⟩

/-- A covered pickup has the outcome of its active area exactly when no other area covers it, and
keeps its outcome through further areas exactly when it stays so, or stays doubly covered. -/
theorem decided_by_active_iff (decides : Decides covers store point intendedAt area)
    (productCode : RideProductCode) :
    ((evaluate covers store point productCode intendedAt).outcome =
        configuredOutcome (getAvailability store area.serviceAreaId productCode) intendedAt ↔
      Alone covers store point area) ∧
    ∀ later, Relation.ReflTransGen (Further area) store later →
      ((evaluate covers later point productCode intendedAt).outcome =
          (evaluate covers store point productCode intendedAt).outcome ↔
        (Alone covers later point area ↔ Alone covers store point area)) := by
  have now := outcome_of_serving decides.1 productCode
  have known := configuredOutcome_ne_unknown
    (getAvailability store area.serviceAreaId productCode) intendedAt
  refine ⟨?_, fun later further => ?_⟩
  · obtain ⟨alone, outcome⟩ | ⟨covered, outcome⟩ := now
    · exact iff_of_true outcome alone
    · exact iff_of_false (by rw [outcome]; exact known.symm) covered
  · obtain ⟨serving, same⟩ := serving_of_further further decides.1
    have after := outcome_of_serving serving productCode
    rw [getAvailability, same, ← getAvailability] at after
    obtain ⟨alone, outcome⟩ | ⟨covered, outcome⟩ := now <;>
      obtain ⟨alone', outcome'⟩ | ⟨covered', outcome'⟩ := after <;>
      simp [*, known.symm]

/-- Boundaries of the samples: rectangles by their south-western and north-eastern corners. -/
def inRectangle (corners : (Int × Int) × Int × Int) (point : Int × Int) : Bool :=
  decide (corners.1 ≤ point ∧ point ≤ corners.2)

def bole : ServiceArea := { serviceAreaId := 1, state := .active }

def sampleStore : Store ((Int × Int) × Int × Int) where
  areas := [bole, { serviceAreaId := 2 }]
  geometries := [⟨11, 1, 1, (0, 0), (9, 9)⟩, ⟨12, 2, 1, (4, 4), (5, 5)⟩]
  availability := [⟨21, 1, .standard, .available, 0, none, 1⟩]
  distinct := by decide

theorem bole_decides : Decides inRectangle sampleStore (4, 5) 6 bole :=
  ⟨⟨by decide, rfl, by decide, by decide⟩, by decide⟩

theorem decided_by_active_of_planned :
    (evaluate inRectangle sampleStore (4, 5) .standard 6).outcome =
        configuredOutcome (getAvailability sampleStore 1 .standard) 6 ↔
      Alone inRectangle sampleStore (4, 5) bole :=
  (decided_by_active_iff bole_decides .standard).1

/-- The planned area makes the pickup unverifiable, although the active one serves it. -/
theorem unverifiable_by_planned_area :
    ¬ ∀ (Boundary Point : Type) (covers : Boundary → Point → Bool) (store : Store Boundary)
      (point : Point) (intendedAt : Instant) (area : ServiceArea) (productCode : RideProductCode),
      Decides covers store point intendedAt area →
        (evaluate covers store point productCode intendedAt).outcome =
            configuredOutcome (getAvailability store area.serviceAreaId productCode) intendedAt ∧
          ∀ later, Relation.ReflTransGen (Further area) store later →
            (evaluate covers later point productCode intendedAt).outcome =
              (evaluate covers store point productCode intendedAt).outcome := by
  intro law
  exact absurd (law _ _ _ _ _ _ _ .standard bole_decides).1 (by decide)

end Ayo.ServiceAreas.Overlaps
