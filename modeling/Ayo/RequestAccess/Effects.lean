/- digest: What the commands of the evidence service write. -/

import Ayo.RequestAccess.Service

namespace Ayo.RequestAccess.Effects

open Kernel.UnitOfWork Kernel.KeyedTable Kernel.StoredTexts Kernel.Related Core.Values
  PersistenceKernel.Idempotency Models Repository Service

variable (store : RequestAccessStore)

def Reads (record : InteractionProvenanceRecord) : Prop :=
  getProvenance record.provenanceId store = .ok (some record, store)

variable {record : InteractionProvenanceRecord} {provenanceId : Uuid} {s t : RequestAccessStore}

theorem reads_iff_row {store : RequestAccessStore} :
    Reads store record ↔ ∃ row, store.provenance.find record.provenanceId = some row ∧
      recordFromRow row = some record := by
  unfold Reads getProvenance
  rw [get_bind_ok, whenSome_ok]
  simp only [steps_ok, Option.some.injEq, and_true, reduceCtorEq, and_false, or_false]
  constructor
  · rintro ⟨row, found, other, read, rfl⟩
    exact ⟨row, found, read⟩
  · rintro ⟨row, found, read⟩
    exact ⟨row, found, record, read, rfl⟩

theorem provenanceId_of_recordFromRow {row : ProvenanceRow}
    (read : recordFromRow row = some record) : record.provenanceId = row.provenanceId := by
  unfold recordFromRow at read
  obtain ⟨terms, -, read⟩ := Option.bind_eq_some_iff.1 read
  obtain ⟨schemaVersion, -, read⟩ := Option.bind_eq_some_iff.1 read
  obtain ⟨key, -, read⟩ := Option.bind_eq_some_iff.1 read
  by_cases valid : terms.objection = none
  · rw [dif_pos valid] at read
    cases read
    rfl
  · rw [dif_neg valid] at read
    cases read

theorem getProvenance_readOnly : ReadOnly (getProvenance provenanceId) := by
  refine .bind .get fun store => .whenSome (fun row => ?_) .pure
  exact .demands fun record => .pure

theorem reads_of_getProvenance (ran : getProvenance provenanceId s = .ok (some record, t)) :
    record.provenanceId = provenanceId ∧ Reads s record := by
  have same : s = t := getProvenance_readOnly _ _ _ ran
  unfold getProvenance at ran
  rw [get_bind_ok] at ran
  obtain ⟨row, found, ran⟩ | ⟨-, ran⟩ := whenSome_ok.1 ran
  · obtain ⟨other, read, ran⟩ := demand_bind_ok.1 ran
    obtain ⟨returned, -⟩ := pure_ok.1 ran
    cases returned
    have id : record.provenanceId = provenanceId := by
      rw [provenanceId_of_recordFromRow read]
      exact Table.key_of_find found
    exact ⟨id, reads_iff_row.2 ⟨row, id ▸ found, read⟩⟩
  · cases (pure_ok.1 ran).1

/-- Adapters, continuity references and provenance rows are only added. -/
def Grows (s t : RequestAccessStore) : Prop :=
  s.adapters.rows <+: t.adapters.rows ∧ s.continuity.rows <+: t.continuity.rows ∧
    s.provenance.rows <+: t.provenance.rows

theorem Grows.refl : Grows store store :=
  ⟨List.prefix_rfl, List.prefix_rfl, List.prefix_rfl⟩

theorem Grows.trans {first second third : RequestAccessStore} (earlier : Grows first second)
    (later : Grows second third) : Grows first third :=
  ⟨earlier.1.trans later.1, earlier.2.1.trans later.2.1, earlier.2.2.trans later.2.2⟩

theorem Reads.of_grows (reads : Reads s record) (grows : Grows s t) : Reads t record := by
  obtain ⟨row, found, read⟩ := reads_iff_row.1 reads
  obtain ⟨mem, key⟩ := Table.find_eq_some.1 found
  have later : row ∈ t.provenance.rows := grows.2.2.subset mem
  exact reads_iff_row.2 ⟨row, Table.find_eq_some.2 ⟨later, key⟩, read⟩

/-- Adapters and continuity references are only added, and no provenance row is. -/
def Quiet (s t : RequestAccessStore) : Prop :=
  s.adapters.rows <+: t.adapters.rows ∧
    s.continuity.rows <+: t.continuity.rows ∧ t.provenance = s.provenance

theorem Quiet.refl : Quiet store store :=
  ⟨List.prefix_rfl, List.prefix_rfl, rfl⟩

theorem Quiet.grows (quiet : Quiet s t) : Grows s t :=
  ⟨quiet.1, quiet.2.1, quiet.2.2 ▸ List.prefix_rfl⟩

section

/-- A command that leaves the repository's tables alone. -/
abbrev KeepsStore {α : Type} (body : ServiceTransaction α) : Prop := Keeps AccessState.store body

variable (config : AccessConfig) (call : Call) {adapterId : Uuid}

theorem instantOf_keepsStore {time : DateTime} : KeepsStore (instantOf time) :=
  .bind .require fun _ => .pure

theorem authorize_keepsStore (permission : String) : KeepsStore (authorize call permission) :=
  .bind .demand fun _ => .bind .require fun _ => .pure

theorem authorizeSupport_keepsStore (terms : InteractionTerms) (account : CanonicalAccount) :
    KeepsStore (authorizeSupport call terms account) := by
  refine .ite (.bind (authorize_keepsStore call _) fun _ => .require) .pure

theorem onCommands_keepsStore {α : Type}
    {body : Transaction (Records Uuid ResponseReference) Failure α} :
    KeepsStore (onCommands body) := by
  refine Keeps.within ?_ body
  intro commands state
  rfl

theorem reserve_keepsStore (operation : String) (material : Material) (instant : Instant) :
    KeepsStore (Service.reserve config call operation material instant) :=
  .bind .demand fun _ => .bind .require fun _ => onCommands_keepsStore

theorem complete_keepsStore {record : CommandRecord} {kind : String} {id : Uuid}
    {instant : Instant} : KeepsStore (Service.complete record kind id instant) :=
  onCommands_keepsStore

theorem appendAudit_keepsStore (action resourceType operation key : String) (resourceId : Uuid)
    (instant : Instant) :
    KeepsStore (appendAudit config call action resourceType operation key resourceId instant) := by
  refine .bind (Keeps.within ?_ _) fun _ => .pure
  intro audit state
  rfl

theorem recordEvidence_keepsStore (resourceId : Uuid)
    (aggregateType resourceType eventType : String) (instant : Instant) :
    KeepsStore (recordEvidence config call resourceId aggregateType resourceType eventType
      instant) := by
  refine .bind (Keeps.within ?_ _) fun _ => appendAudit_keepsStore config call _ _ _ _ _ _
  intro events state
  rfl

theorem responseId_keepsStore {record : CommandRecord} : KeepsStore (responseId record) :=
  .bind .demand fun _ => .pure

theorem onStore_keepsStore {α : Type} {body : AccessTransaction α} (readOnly : ReadOnly body) :
    KeepsStore (onStore body) := by
  intro state a t ran
  obtain ⟨store, finished, rfl⟩ := within_ok.1 ran
  exact (readOnly _ a store finished).symm

theorem getAdapter_readOnly : ReadOnly (getAdapter adapterId) :=
  .bind .get fun _ => .pure

theorem getCapability_readOnly {targetDomain commandType : CanonicalCode} :
    ReadOnly (getCapability targetDomain commandType adapterId) :=
  .bind .get fun _ => oneOrNone_readOnly

theorem getContinuityByHash_readOnly {referenceHash : Digest} :
    ReadOnly (getContinuityByHash referenceHash) :=
  .bind .get fun _ => .pure

end

section

variable {config : AccessConfig} {call : Call} {expected : Option Int} {directory : Directory}
  {adapterId : Uuid}

/-- A command whose every success leaves the provenance rows alone. -/
abbrev QuietStore {α : Type} (body : ServiceTransaction α) : Prop :=
  Relates (fun s t : AccessState => Quiet s.store t.store) body

instance : IsPreorder AccessState fun s t => Quiet s.store t.store where
  refl state := Quiet.refl state.store
  trans _ _ _ first second :=
    ⟨first.1.trans second.1, first.2.1.trans second.2.1, second.2.2.trans first.2.2⟩

theorem quietStore_of_keeps {α : Type} {body : ServiceTransaction α} (keeps : KeepsStore body) :
    QuietStore body := by
  intro s a t ran
  rw [keeps s a t ran]
  exact Quiet.refl _

theorem onStore_quiet {α : Type} {body : AccessTransaction α} (quiet : Relates Quiet body) :
    QuietStore (onStore body) :=
  .within quiet fun _ _ inner => inner

theorem registerAdapter_quiet {adapter : SourceAdapter} :
    Relates Quiet (Repository.registerAdapter adapter) := by
  intro s returned t ran
  unfold Repository.registerAdapter at ran
  simp only [steps_ok, Table.insert?_eq_some] at ran
  obtain ⟨-, adapters, rows, -, rfl⟩ := ran
  refine ⟨?_, List.prefix_rfl, rfl⟩
  rw [rows]
  exact List.prefix_append _ _

theorem putCapability_quiet {capability : ChannelActionCapability} :
    Relates Quiet (putCapability capability expected) := by
  intro s returned t ran
  unfold putCapability at ran
  rw [get_bind_ok, require_bind_ok] at ran
  obtain ⟨-, ran⟩ := ran
  cases expected with
  | none =>
    simp only [steps_ok] at ran
    obtain ⟨capabilities, -, -, -, rfl⟩ := ran
    exact Quiet.refl _
  | some version =>
    simp only [steps_ok] at ran
    obtain ⟨old, -, capabilities, -, -, rfl⟩ := ran
    exact Quiet.refl _

theorem appendContinuity_quiet {reference : ContinuityReference} :
    Relates Quiet (appendContinuity directory reference) := by
  intro s returned t ran
  unfold appendContinuity at ran
  simp only [steps_ok, Table.insert?_eq_some] at ran
  obtain ⟨continuity, rows, -, -, rfl⟩ := ran
  refine ⟨List.prefix_rfl, ?_, rfl⟩
  rw [rows]
  exact List.prefix_append _ _

theorem appendProvenance_ok {returned : InteractionProvenanceRecord}
    (ran : appendProvenance directory record s = .ok (returned, t)) :
    returned = record ∧ (rowOf record).Checked ∧ References directory s (rowOf record) ∧
      t.provenance.rows = s.provenance.rows ++ [rowOf record] ∧
      t.adapters = s.adapters ∧ t.continuity = s.continuity := by
  unfold appendProvenance at ran
  simp only [steps_ok, Table.insert?_eq_some] at ran
  obtain ⟨-, ⟨checked, references⟩, provenance, rows, rfl, rfl⟩ := ran
  exact ⟨rfl, checked, references, rows, rfl, rfl⟩

private theorem getAdapter_keeps : KeepsStore (onStore (getAdapter adapterId)) :=
  onStore_keepsStore getAdapter_readOnly

private theorem getCapability_keeps {targetDomain commandType : CanonicalCode} :
    KeepsStore (onStore (getCapability targetDomain commandType adapterId)) :=
  onStore_keepsStore getCapability_readOnly

private theorem getContinuityByHash_keeps {referenceHash : Digest} :
    KeepsStore (onStore (getContinuityByHash referenceHash)) :=
  onStore_keepsStore getContinuityByHash_readOnly

theorem registerAdapter_quietStore {command : RegisterSourceAdapter} :
    QuietStore (Service.registerAdapter config call command) := by
  refine .bind (quietStore_of_keeps instantOf_keepsStore) fun instant => ?_
  refine .bind (quietStore_of_keeps (authorize_keepsStore call _)) fun account => ?_
  refine .bind (quietStore_of_keeps (reserve_keepsStore config call _ _ _)) fun reservation => ?_
  refine .whenSome (fun _ => quietStore_of_keeps ?_) ?_
  · refine .bind responseId_keepsStore fun adapterId => ?_
    exact .bind getAdapter_keeps fun held => .demand
  · refine .bind (onStore_quiet registerAdapter_quiet) fun adapter => quietStore_of_keeps ?_
    refine .bind (recordEvidence_keepsStore config call _ _ _ _ _) fun _ => ?_
    exact .bind complete_keepsStore fun _ => .pure

theorem declareCapability_quietStore {command : DeclareChannelCapability} :
    QuietStore (declareCapability config call command expected) := by
  refine .bind (quietStore_of_keeps instantOf_keepsStore) fun instant => ?_
  refine .bind (quietStore_of_keeps (authorize_keepsStore call _)) fun account => ?_
  refine .bind (quietStore_of_keeps getAdapter_keeps) fun found => ?_
  refine .demands fun adapter => ?_
  refine .bind (quietStore_of_keeps (reserve_keepsStore config call _ _ _)) fun reservation => ?_
  refine .bind (quietStore_of_keeps getCapability_keeps) fun existing => ?_
  refine .whenSome (fun _ => .demand) ?_
  refine .requires <| .requires <| .bind .demand ?_
  intro capability
  refine .bind (onStore_quiet putCapability_quiet) fun saved => quietStore_of_keeps ?_
  refine .bind (recordEvidence_keepsStore config call _ _ _ _ _) fun _ => ?_
  exact .bind complete_keepsStore fun _ => .pure

theorem issueContinuityReference_quietStore {request : ContinuityRequest} :
    QuietStore (issueContinuityReference config call request) := by
  refine .bind (quietStore_of_keeps instantOf_keepsStore) fun instant => ?_
  refine .bind .require fun _ => .bind .require fun _ => ?_
  refine .bind (quietStore_of_keeps (authorize_keepsStore call _)) fun account => ?_
  refine .bind .require fun _ => ?_
  refine .bind (quietStore_of_keeps (reserve_keepsStore config call _ _ _)) fun reservation => ?_
  refine .whenSome (fun _ => quietStore_of_keeps ?_) ?_
  · exact .bind getContinuityByHash_keeps fun found => .bind .demand fun _ => .pure
  · refine .bind .demand fun valid => ?_
    refine .bind (onStore_quiet appendContinuity_quiet) fun reference => ?_
    refine quietStore_of_keeps (.bind (appendAudit_keepsStore config call _ _ _ _ _ _) fun _ => ?_)
    exact .bind complete_keepsStore fun _ => .pure

end

section

variable {config : AccessConfig} {call : Call}

structure Supported (store : RequestAccessStore) (record : InteractionProvenanceRecord) : Prop where
  adapter : ∃ adapter ∈ store.adapters.rows, adapter.adapterId = record.adapterId ∧
    Registered record.toInteractionTerms adapter
  capability : ∃ capability ∈ store.capabilities.rows,
    ChannelActionCapability.About record.targetDomain record.commandType record.adapterId
      capability ∧ capability.SupportedAt record.acceptedAt
  continuation : record.purpose = .continuation → ∃ reference ∈ store.continuity.rows,
    record.continuityId = some reference.continuityId ∧
      Continues record.toInteractionTerms record.acceptedAt reference
  correction : record.purpose = .correction → ∃ superseded, Reads store superseded ∧
    record.supersedesProvenanceId = some superseded.provenanceId ∧
      superseded.toInteractionTerms.SameTarget record.toInteractionTerms

variable {s t : AccessState} {terms : InteractionTerms} {instant : Instant}

private theorem query_bind_ok {α β : Type} {body : AccessTransaction α}
    {f : α → ServiceTransaction β} {b : β} (readOnly : ReadOnly body)
    (ran : (onStore body >>= f) s = .ok (b, t)) :
    ∃ a, body s.store = .ok (a, s.store) ∧ f a s = .ok (b, t) := by
  obtain ⟨a, middle, queried, rest⟩ := bind_ok.1 ran
  obtain ⟨store, finished, rfl⟩ := within_ok.1 queried
  obtain rfl := readOnly _ _ _ finished
  exact ⟨a, finished, rest⟩

private theorem validateContinuity_ok {continuityId : Option Uuid}
    (ran : validateContinuity config terms instant s = .ok (continuityId, t)) :
    s = t ∧ (terms.purpose = .continuation → ∃ reference ∈ s.store.continuity.rows,
        continuityId = some reference.continuityId ∧ Continues terms instant reference) := by
  unfold validateContinuity at ran
  obtain ⟨other, ran⟩ | ⟨-, ran⟩ := ite_ok.1 ran
  · obtain ⟨-, rfl⟩ := pure_ok.1 ran
    exact ⟨rfl, fun purpose => absurd purpose other⟩
  · obtain ⟨raw, -, ran⟩ := demand_bind_ok.1 ran
    obtain ⟨found, queried, ran⟩ := query_bind_ok getContinuityByHash_readOnly ran
    obtain ⟨reference, chosen, ran⟩ := demand_bind_ok.1 ran
    obtain ⟨rfl, rfl⟩ := pure_ok.1 ran
    obtain ⟨rfl, continues⟩ := Option.filter_eq_some_iff.1 chosen
    have held : reference ∈ s.store.continuity.rows := by
      unfold getContinuityByHash at queried
      rw [get_bind_ok] at queried
      exact List.mem_of_find?_eq_some (pure_ok.1 queried).1
    exact ⟨rfl, fun _ => ⟨reference, held, rfl, of_decide_eq_true continues⟩⟩

private theorem validateCorrection_ok {u : Unit} (ran : validateCorrection terms s = .ok (u, t)) :
    s = t ∧ (terms.purpose = .correction → ∃ superseded, Reads s.store superseded ∧
      terms.supersedesProvenanceId = some superseded.provenanceId ∧
        superseded.toInteractionTerms.SameTarget terms) := by
  unfold validateCorrection at ran
  obtain ⟨-, ran⟩ | ⟨other, ran⟩ := ite_ok.1 ran
  · obtain ⟨named, supersedes, ran⟩ := demand_bind_ok.1 ran
    obtain ⟨found, queried, ran⟩ := query_bind_ok getProvenance_readOnly ran
    obtain ⟨superseded, rfl, ran⟩ := demand_bind_ok.1 ran
    obtain ⟨same, rfl⟩ := require_ok.1 ran
    obtain ⟨id, reads⟩ := reads_of_getProvenance queried
    exact ⟨rfl, fun _ => ⟨superseded, reads, id ▸ supersedes, same⟩⟩
  · obtain ⟨-, rfl⟩ := pure_ok.1 ran
    exact ⟨rfl, fun purpose => absurd purpose other⟩

variable {record : InteractionProvenanceRecord}

private theorem acceptedRecord_ok {commandId : Uuid}
    (ran : acceptedRecord call terms commandId instant s = .ok (record, t)) :
    s = t ∧ record.toInteractionTerms = terms ∧ record.acceptedAt = instant := by
  unfold acceptedRecord at ran
  obtain ⟨key, -, ran⟩ := demand_bind_ok.1 ran
  by_cases valid : terms.objection = none
  · rw [dif_pos valid] at ran
    obtain ⟨rfl, rfl⟩ := pure_ok.1 ran
    exact ⟨rfl, rfl, rfl⟩
  · rw [dif_neg valid] at ran
    exact (throw_ok.1 ran).elim

theorem acceptInteraction_ok {commandId : Uuid}
    (ran : acceptInteraction config call terms commandId instant s = .ok (record, t)) :
    Supported s.store record ∧ record.continuityReference = none ∧
      record.acceptedAt = instant ∧ References call.directory s.store (rowOf record) ∧
      t.store.provenance.rows = s.store.provenance.rows ++ [rowOf record] ∧
      t.store.adapters = s.store.adapters ∧
      t.store.continuity = s.store.continuity := by
  unfold acceptInteraction at ran
  obtain ⟨foundAdapter, queried, ran⟩ := query_bind_ok getAdapter_readOnly ran
  obtain ⟨adapter, chosen, ran⟩ := demand_bind_ok.1 ran
  obtain ⟨found, registered⟩ := Option.filter_eq_some_iff.1 chosen
  have foundAdapter : s.store.adapters.find terms.adapterId = some adapter := by
    unfold getAdapter at queried
    rw [get_bind_ok] at queried
    exact (pure_ok.1 queried).1.trans found
  obtain ⟨foundCapability, listed, ran⟩ := query_bind_ok getCapability_readOnly ran
  obtain ⟨capability, chosen, ran⟩ := demand_bind_ok.1 ran
  obtain ⟨found, supported⟩ := Option.filter_eq_some_iff.1 chosen
  have foundCapability : capability ∈ s.store.capabilities.rows ∧
      ChannelActionCapability.About terms.targetDomain terms.commandType terms.adapterId
        capability := by
    unfold getCapability at listed
    rw [get_bind_ok, found] at listed
    have mem := mem_of_oneOrNone listed
    obtain ⟨held, about⟩ := List.mem_filter.1 mem
    exact ⟨held, of_decide_eq_true about⟩
  obtain ⟨continuityId, _, validated, ran⟩ := bind_ok.1 ran
  obtain ⟨rfl, continuation⟩ := validateContinuity_ok validated
  obtain ⟨_, _, validated, ran⟩ := bind_ok.1 ran
  obtain ⟨rfl, correction⟩ := validateCorrection_ok validated
  obtain ⟨record', _, built, ran⟩ := bind_ok.1 ran
  obtain ⟨rfl, same, accepted⟩ := acceptedRecord_ok built
  obtain ⟨store, appended, rfl⟩ := within_ok.1 ran
  obtain ⟨rfl, -, references, rows, adapters, continuity⟩ := appendProvenance_ok appended
  obtain ⟨storedAdapter, key⟩ := Table.find_eq_some.1 foundAdapter
  subst accepted
  refine ⟨⟨?_, ?_, ?_, ?_⟩, ?_, rfl, references, rows, adapters, continuity⟩
  · rw [same]
    exact ⟨adapter, storedAdapter, key, of_decide_eq_true registered⟩
  · rw [same]
    exact ⟨capability, foundCapability.1, foundCapability.2, of_decide_eq_true supported⟩
  · rw [same]
    exact continuation
  · rw [same]
    exact correction
  · rw [same]
    rfl

theorem recordAcceptedInteraction_ok {envelope : InteractionProvenanceEnvelope}
    (ran : recordAcceptedInteraction config call envelope s = .ok (record, t)) :
    (Reads s.store record ∧ t.store = s.store) ∨
      (Supported s.store record ∧ record.continuityReference = none ∧
        record.acceptedAt = call.time.instant ∧
        References call.directory s.store (rowOf record) ∧
        t.store.provenance.rows = s.store.provenance.rows ++ [rowOf record] ∧
        t.store.adapters = s.store.adapters ∧
        t.store.continuity = s.store.continuity) := by
  unfold recordAcceptedInteraction at ran
  obtain ⟨instant, started, timed, ran⟩ := bind_ok.1 ran
  obtain ⟨-, timed⟩ := require_bind_ok.1 timed
  obtain ⟨rfl, rfl⟩ := pure_ok.1 timed
  obtain ⟨commandId, -, ran⟩ := demand_bind_ok.1 ran
  obtain ⟨-, ran⟩ := require_bind_ok.1 ran
  obtain ⟨account, authorized, granted, ran⟩ := bind_ok.1 ran
  have kept := authorize_keepsStore call _ _ _ _ granted
  obtain ⟨-, ran⟩ := require_bind_ok.1 ran
  obtain ⟨-, ran⟩ := require_bind_ok.1 ran
  obtain ⟨-, ran⟩ := require_bind_ok.1 ran
  obtain ⟨_, attributed, supported, ran⟩ := bind_ok.1 ran
  have attribution := authorizeSupport_keepsStore call _ _ _ _ _ supported
  obtain ⟨reservation, reserved, reserves, ran⟩ := bind_ok.1 ran
  have reservation' := reserve_keepsStore config call _ _ _ _ _ _ reserves
  have untouched : reserved.store = s.store :=
    reservation'.trans (attribution.trans kept)
  obtain ⟨completed, -, ran⟩ | ⟨-, ran⟩ := whenSome_ok.1 ran
  · obtain ⟨provenanceId, answered, referred, ran⟩ := bind_ok.1 ran
    have same := responseId_keepsStore _ _ _ referred
    obtain ⟨held, queried, ran⟩ := query_bind_ok getProvenance_readOnly ran
    obtain ⟨rfl, rfl⟩ := demand_ok.1 ran
    obtain ⟨-, reads⟩ := reads_of_getProvenance queried
    left
    rw [← untouched, ← same]
    exact ⟨reads, rfl⟩
  · obtain ⟨accepted, held, accepts, ran⟩ := bind_ok.1 ran
    obtain ⟨_, traced, traces, ran⟩ := bind_ok.1 ran
    obtain ⟨_, last, completes, ran⟩ := bind_ok.1 ran
    obtain ⟨rfl, same⟩ := pure_ok.1 ran
    have recorded := acceptInteraction_ok accepts
    rw [← same]
    have finished : last.store = held.store :=
      (complete_keepsStore _ _ _ completes).trans
        (recordEvidence_keepsStore config call _ _ _ _ _ _ _ _ traces)
    right
    rw [untouched] at recorded
    rw [finished]
    exact recorded

end
end Ayo.RequestAccess.Effects
