/- digest: The first of the zones around a pickup decides about it. -/

import Ayo.RideRequests.OneLive
import Mathlib.Data.String.Basic

namespace Ayo.RideRequests.FirstZone

open Kernel.UnitOfWork Kernel.Ordering Core.Values
open Models Engine Application Effects OneLive

/-- The rows of `service_zones`, each with its code, in the order of `find_zone`. -/
def zonesInOrder (rows : List (String × ServiceZone)) : List ServiceZone :=
  let versioned := orderedBy (fun row => OrderDual.toDual row.2.version.1) rows
  (orderedBy Prod.fst versioned).map Prod.snd

def among (call : CreateCall) (rows : List (String × ServiceZone)) : CreateCall :=
  { call with zones := zonesInOrder rows }

variable (call : CreateCall)

def Surrounds (zone : ServiceZone) : Prop :=
  zoneContains zone call.command.pickup.coordinate call.time.instant
deriving Decidable

def Serves (zone : ServiceZone) : Prop :=
  Surrounds call zone ∧ call.command.serviceType ∈ zone.supportedServiceTypes

variable (zones : List ServiceZone)

def Prohibited : Prop :=
  call.command.pickup.safetyStatus = .restricted ∨
    ∀ zone ∈ zones, Serves call zone → prohibited zone call.command.pickup.coordinate = true

def ZoneReasonsFair (decision : ValidationDecision) : Prop :=
  ("service_zone.unsupported" ∈ decision.reasonCodes ↔ ∀ zone ∈ zones, ¬ Serves call zone) ∧
    ("pickup.prohibited" ∈ decision.reasonCodes → Prohibited call zones)

/-- The first zone around the pickup serves it if any does, and prohibits it only if all do. -/
def FirstZoneFair : Prop :=
  ∀ earlier first later, zones = earlier ++ first :: later → Surrounds call first →
    (∀ zone ∈ earlier, ¬ Surrounds call zone) →
      ((∃ zone ∈ zones, Serves call zone) → Serves call first) ∧
        (Serves call first → prohibited first call.command.pickup.coordinate = true →
          Prohibited call zones)

variable {call} {config : RequestConfig} {inputs : ValidationInputs} {zones : List ServiceZone}
  {first : ServiceZone}

def firstZone (call : CreateCall) (zones : List ServiceZone) : Option ServiceZone :=
  findZone zones call.command.pickup.coordinate call.time.instant

theorem surrounds_of_first (found : firstZone call zones = some first) : Surrounds call first :=
  of_decide_eq_true (List.find?_some (p := fun zone => decide (Surrounds call zone)) found)

theorem mem_reasonCodes {requestId decisionId : Uuid} {reason : String}
    (ofZone : reason = "service_zone.unsupported" ∨ reason = "pickup.prohibited") :
    reason ∈ (validateRequest config inputs requestId decisionId).reasonCodes ↔
      reason ∈ (zoneFindings inputs).map Prod.fst := by
  have other : ∀ {condition : Prop} [Decidable condition] {name : String} {field : Option String},
      name ≠ "service_zone.unsupported" → name ≠ "pickup.prohibited" →
        reason ∉ (finding condition name field).map Prod.fst := by
    intro condition _ name field first second mem
    obtain ⟨found, listed, rfl⟩ := List.mem_map.1 mem
    obtain ⟨_, rfl⟩ := mem_finding.1 listed
    exact ofZone.elim first second
  have all : reason ∈ (allFindings config inputs).map Prod.fst ↔
      reason ∈ (zoneFindings inputs).map Prod.fst := by
    simp only [allFindings, findings, List.map_append, List.mem_append]
    rw [or_iff_left (other (by decide) (by decide)), or_iff_left (other (by decide) (by decide)),
      or_iff_left (other (by decide) (by decide)), or_iff_left (other (by decide) (by decide)),
      or_iff_right (not_or.2 ⟨other (by decide) (by decide), other (by decide) (by decide)⟩)]
  simp only [validateRequest]
  split
  · rename_i none_found
    rw [none_found] at all
    rw [← all]
    obtain rfl | rfl := ofZone <;> simp
  · exact all

theorem mem_zoneFindings_among {rows : List (String × ServiceZone)} {conflicting : Bool}
    {reason : String} :
    reason ∈ (zoneFindings ((among call rows).inputs conflicting)).map Prod.fst ↔
      (reason = "service_zone.unsupported" ∧ ∀ first,
        firstZone call (zonesInOrder rows) = some first →
          call.command.serviceType ∉ first.supportedServiceTypes) ∨
      (reason = "pickup.prohibited" ∧ ∃ first, firstZone call (zonesInOrder rows) = some first ∧
        call.command.serviceType ∈ first.supportedServiceTypes ∧
          (prohibited first call.command.pickup.coordinate = true ∨
            call.command.pickup.safetyStatus = .restricted)) := by
  simp only [zoneFindings, CreateCall.inputs, among, firstZone]
  cases found : findZone (zonesInOrder rows) call.command.pickup.coordinate call.time.instant with
  | none => simp
  | some first =>
    have surrounds : Surrounds call first := surrounds_of_first found
    unfold Surrounds at surrounds
    by_cases supports : call.command.serviceType ∈ first.supportedServiceTypes
    · by_cases marked : prohibited first call.command.pickup.coordinate = true ∨
          call.command.pickup.safetyStatus = .restricted
      · simp [surrounds, supports, marked]
      · simp [surrounds, supports, marked]
    · simp [supports]

theorem firstZoneFair_iff (found : firstZone call zones = some first) :
    FirstZoneFair call zones ↔ ((∃ zone ∈ zones, Serves call zone) → Serves call first) ∧
      (Serves call first → prohibited first call.command.pickup.coordinate = true →
        Prohibited call zones) := by
  constructor
  · intro fair
    obtain ⟨surrounds, earlier, later, split, missed⟩ := List.find?_eq_some_iff_append.1 found
    refine fair earlier first later split (of_decide_eq_true surrounds) fun zone mem around => ?_
    exact absurd (missed zone mem) (by simpa [Surrounds] using around)
  · rintro fair earlier other later split surrounds missed
    have again : firstZone call zones = some other :=
      List.find?_eq_some_iff_append.2 ⟨decide_eq_true surrounds, earlier, later, split,
        fun zone mem => by simpa [Surrounds] using missed zone mem⟩
    rw [Option.some.inj (found.symm.trans again)] at fair
    exact fair

/-- The findings of a creation about the zone are fair exactly when the first zone around the
pickup, by code and by the text of its version, serves it and prohibits it as all zones do. -/
theorem zone_reasons_fair_iff {rows : List (String × ServiceZone)} {seen s t : RequestStore}
    {answer : RideRequest} {decision : ValidationDecision}
    (ran : create config seen (among call rows) s = .ok (answer, t))
    (new : t.decisions.rows = s.decisions.rows ++ [decision]) :
    ZoneReasonsFair call (rows.map Prod.snd) decision ↔ FirstZoneFair call (zonesInOrder rows) := by
  obtain ⟨conflicting, requestId, rfl⟩ : ∃ conflicting requestId, decision =
      validateRequest config ((among call rows).inputs conflicting) requestId call.decisionId := by
    cases create_effect ran with
    | existing _ decisions =>
      rw [decisions] at new
      simp at new
    | created _ _ _ _ _ _ _ decisions =>
      rw [decisions, List.append_cancel_left_eq, List.singleton_inj] at new
      exact ⟨_, _, new.symm⟩
  have listed : ∀ zone, zone ∈ rows.map Prod.snd ↔ zone ∈ zonesInOrder rows := by
    simp [zonesInOrder]
  simp only [ZoneReasonsFair, Prohibited, mem_reasonCodes (.inl rfl), mem_reasonCodes (.inr rfl),
    listed, mem_zoneFindings_among, true_and, String.reduceEq, false_and, or_false,
    false_or]
  cases found : firstZone call (zonesInOrder rows) with
  | none =>
    have missed : ∀ zone ∈ zonesInOrder rows, ¬ Surrounds call zone := fun zone mem around =>
      List.find?_eq_none.1 found zone mem (decide_eq_true around)
    refine iff_of_true ⟨iff_of_true (by simp) fun zone mem serves => ?_, by simp⟩ ?_
    · exact missed zone mem serves.1
    · intro earlier first later split around
      exact absurd around (missed first (by simp [split]))
  | some first =>
    have serves : call.command.serviceType ∈ first.supportedServiceTypes ↔ Serves call first :=
      (and_iff_right (surrounds_of_first found)).symm
    have mem : first ∈ zonesInOrder rows := List.mem_of_find?_eq_some found
    rw [firstZoneFair_iff found]
    simp only [Option.some.injEq, forall_eq', exists_eq_left', serves]
    by_cases serving : Serves call first
    · have some_serves : ¬ ∀ zone ∈ zonesInOrder rows, ¬ Serves call zone := fun none_serves =>
        none_serves first mem serving
      simp only [serving, not_true_eq_false, some_serves, true_and, implies_true, forall_const]
      refine ⟨fun fair marked => fair (.inl marked), fun fair marked => ?_⟩
      exact marked.elim fair .inl
    · simp only [serving, not_false_eq_true, true_iff, false_and, false_imp_iff, and_true,
        imp_false, not_exists, not_and]

def sampleRows : List (String × ServiceZone) :=
  (sampleCreate 1).zones.flatMap fun zone =>
    [("airport", { zone with zoneId := 4, prohibitedRectangles := [(9, 9, 38, 38)] }),
     ("bole", zone)]

def afterCreate : RequestStore :=
  commit (create sampleConfig {} (among (sampleCreate 1) sampleRows)) {}

theorem exists_created : ∃ answer decision,
    create sampleConfig {} (among (sampleCreate 1) sampleRows) {} = .ok (answer, afterCreate) ∧
      afterCreate.decisions.rows = [] ++ [decision] := by
  obtain ⟨⟨answer, t⟩, ran⟩ := exists_of_isOk (show (create sampleConfig {}
    (among (sampleCreate 1) sampleRows) {}).isOk = true by decide +kernel)
  obtain ⟨decision, only⟩ := List.length_eq_one_iff.1
    (show afterCreate.decisions.rows.length = 1 by decide +kernel)
  exact ⟨answer, decision, ran.trans (by rw [afterCreate, commit_of_ok ran]), only⟩

theorem zone_reasons_fair_sample : ∃ decision, afterCreate.decisions.rows = [decision] ∧
    (ZoneReasonsFair (sampleCreate 1) (sampleRows.map Prod.snd) decision ↔
      FirstZoneFair (sampleCreate 1) (zonesInOrder sampleRows)) := by
  obtain ⟨answer, decision, ran, new⟩ := exists_created
  exact ⟨decision, new, zone_reasons_fair_iff ran new⟩

/-- The pickup is refused as prohibited, although the second zone serves it. -/
theorem prohibited_by_first_zone :
    ¬ ∀ (config : RequestConfig) (call : CreateCall) (rows : List (String × ServiceZone))
      (seen s t : RequestStore) (answer : RideRequest) (decision : ValidationDecision),
      create config seen (among call rows) s = .ok (answer, t) →
        t.decisions.rows = s.decisions.rows ++ [decision] →
          ZoneReasonsFair call (rows.map Prod.snd) decision := by
  intro law
  obtain ⟨answer, decision, ran, new⟩ := exists_created
  have refused : ∀ decision ∈ afterCreate.decisions.rows,
      "pickup.prohibited" ∈ decision.reasonCodes := by decide +kernel
  have fair := (law _ _ _ _ _ _ _ _ ran new).2 (refused decision (by simp [new]))
  revert fair
  unfold Prohibited Serves
  decide +kernel

end Ayo.RideRequests.FirstZone
