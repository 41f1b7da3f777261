/- digest: What cash journals come to on the receivable's account. -/

import Ayo.Persistence.LedgerWriters

namespace Ayo.PostTrip.ReceivableEntries

open Kernel.UnitOfWork Core.Values Core.Authorization Ledger.Models Ledger.RideNet CashAccounting
  CashLedger
open PostTrip.Settlement (Leg entriesOf)
open Pricing.Models (FareCalculation)

variable {σ : Type}

/-- No two codes share an account. -/
def InjectiveMapping (accountIds : String → Option Uuid) : Prop :=
  ∀ first second id, accountIds first = some id → accountIds second = some id → first = second

def creditedCodes (policy : CashAccountingPolicy) (gross : MinorAmount) : List (Option String) :=
  let claim := basisShare gross policy.platformClaimBasisPoints
  let entitlement := basisShare gross policy.driverEntitlementBasisPoints
  let tax := basisShare gross policy.taxBasisPoints
  (if policy.accountingModel = .principalGross then [policy.driverEntitlementAccount] else []) ++
    (if revenueMinor policy claim entitlement tax = 0 then []
      else [some policy.platformRevenueAccount]) ++
    (if tax = 0 then [] else [policy.taxPayableAccount])

def lineNet (code : String) (lines : List CashJournalLine) : Int :=
  (lines.map fun line =>
    if line.accountCode.1 = code then
      if line.side = .debit then line.amountMinor.1 else -line.amountMinor.1
    else 0).sum

structure Derived (policy : CashAccountingPolicy) (evidence : CashCollectionEvidence)
    (instruction : CashAccountingInstruction) : Prop where
  rideId : instruction.rideId = evidence.rideId
  policyId : instruction.accountingPolicyId = policy.accountingPolicyId
  reconciliation : instruction.reconciliationRequired = true
  lines : ∃ debit credits, instruction.journalLines = debit :: credits ∧
    receivableCode policy = some debit.accountCode.1 ∧ debit.side = .debit ∧
    debit.amountMinor.1 = instruction.platformClaimMinor ∧
    (∀ line ∈ credits, line.side = .credit) ∧
    credits.map (fun line => some line.accountCode.1) =
      creditedCodes policy evidence.grossCashReportedMinor

section

private theorem journalLine_bind_ok {α : Type} {accountCode : String} {side : LedgerEntrySide}
    {amountMinor : Int} {f : CashJournalLine → Transaction σ Failure α} {s t : σ} {a : α} :
    (journalLine accountCode side amountMinor >>= f) s = .ok (a, t) ↔
      ∃ line : CashJournalLine, line.accountCode.1 = accountCode ∧ line.side = side ∧
        line.amountMinor.1 = amountMinor ∧ f line s = .ok (a, t) := by
  simp only [journalLine, bind_assoc, pure_bind, ↓demand_bind_ok, code?, minor?, refine?_eq_some]
  constructor
  · rintro ⟨code, coded, amount, counted, rest⟩
    exact ⟨⟨code, side, amount⟩, coded, rfl, counted, rest⟩
  · rintro ⟨⟨code, _, amount⟩, coded, rfl, counted, rest⟩
    exact ⟨code, coded, amount, counted, rest⟩

variable {policy : CashAccountingPolicy} {lines : List CashJournalLine}
  {instruction : CashAccountingInstruction} {code : String}

private theorem receivableLines_ok {gross claim entitlement : Int} {s t : σ}
    (ran : receivableLines policy gross claim entitlement s = .ok (lines, t)) :
    s = t ∧ ∃ debit credits, lines = debit :: credits ∧
      receivableCode policy = some debit.accountCode.1 ∧ debit.side = .debit ∧
      debit.amountMinor.1 = claim ∧ (∀ line ∈ credits, line.side = .credit) ∧
      credits.map (fun line => some line.accountCode.1) =
        if policy.accountingModel = .principalGross then [policy.driverEntitlementAccount]
        else [] := by
  unfold receivableLines at ran
  unfold receivableCode
  cases model : policy.accountingModel with
  | principalGross =>
    simp only [model, ↓steps_ok, ↓journalLine_bind_ok] at ran
    obtain ⟨_, receivable, opened, entitled, owed, debit, rfl, debited, counted, credit, rfl,
      credited, _, rfl, rfl⟩ := ran
    refine ⟨rfl, debit, [credit], rfl, opened, debited, counted, ?_, ?_⟩
    · simp [credited]
    · rw [if_pos rfl, owed]
      rfl
  | agentNetRemittance =>
    simp only [model, ↓steps_ok, ↓journalLine_bind_ok] at ran
    obtain ⟨receivable, opened, debit, rfl, debited, counted, rfl, rfl⟩ := ran
    exact ⟨rfl, debit, [], rfl, opened, debited, counted, by simp, by simp⟩

private theorem revenueLines_ok {revenue : Int} {s t : σ}
    (ran : revenueLines policy revenue s = .ok (lines, t)) :
    s = t ∧ (∀ line ∈ lines, line.side = .credit) ∧
      lines.map (fun line => some line.accountCode.1) =
        if revenue = 0 then [] else [some policy.platformRevenueAccount] := by
  unfold revenueLines at ran
  split at ran
  · rename_i none
    obtain ⟨rfl, rfl⟩ := pure_ok.1 ran
    simp [none]
  · rename_i some
    simp only [↓journalLine_bind_ok, pure_ok] at ran
    obtain ⟨credit, coded, credited, _, rfl, rfl⟩ := ran
    simp [some, coded, credited]

private theorem taxLines_ok {tax : Int} {s t : σ} (ran : taxLines policy tax s = .ok (lines, t)) :
    s = t ∧ (∀ line ∈ lines, line.side = .credit) ∧
      lines.map (fun line => some line.accountCode.1) =
        if tax = 0 then [] else [policy.taxPayableAccount] := by
  unfold taxLines at ran
  split at ran
  · rename_i none
    obtain ⟨rfl, rfl⟩ := pure_ok.1 ran
    simp [none]
  · rename_i some
    simp only [↓steps_ok, ↓journalLine_bind_ok] at ran
    obtain ⟨payable, owed, credit, coded, credited, _, rfl, rfl⟩ := ran
    simp [some, owed, coded, credited]

theorem buildInstruction_derived {hash : Payload → Digest} {calculation : FareCalculation}
    {evidence : CashCollectionEvidence} {time : DateTime} {production : Bool} {instructionId : Uuid}
    {s t : σ} (ran : buildCashAccountingInstruction hash policy calculation evidence time production
      instructionId s = .ok (instruction, t)) :
    s = t ∧ Derived policy evidence instruction := by
  unfold buildCashAccountingInstruction at ran
  simp only [↓require_bind_ok] at ran
  obtain ⟨_, _, _, ⟨sameRide, _⟩, _, _, ran⟩ := ran
  obtain ⟨receivable, _, opening, ran⟩ := bind_ok.1 ran
  obtain ⟨rfl, debit, entitled, rfl, coded, debited, counted, entitledSides, entitledCodes⟩ :=
    receivableLines_ok opening
  obtain ⟨revenue, _, earning, ran⟩ := bind_ok.1 ran
  obtain ⟨rfl, revenueSides, revenueCodes⟩ := revenueLines_ok earning
  obtain ⟨taxes, _, taxing, ran⟩ := bind_ok.1 ran
  obtain ⟨rfl, taxSides, taxCodes⟩ := taxLines_ok taxing
  obtain ⟨built, rfl⟩ := demand_ok.1 ran
  split at built
  · cases built
    refine ⟨rfl, sameRide.symm, rfl, ?_, debit, entitled ++ revenue ++ taxes, by simp, coded,
      debited, counted, ?_, ?_⟩
    · have positive := debit.amountMinor.2.1
      simp only [decide_eq_true_eq]
      omega
    · intro line member
      rcases List.mem_append.1 member with member | member
      · rcases List.mem_append.1 member with member | member
        · exact entitledSides line member
        · exact revenueSides line member
      · exact taxSides line member
    · rw [List.map_append, List.map_append, entitledCodes, revenueCodes, taxCodes]
      rfl
  · cases built

theorem lineNet_cons (code : String) (line : CashJournalLine) (lines : List CashJournalLine) :
    lineNet code (line :: lines) = (if line.accountCode.1 = code then
        if line.side = .debit then line.amountMinor.1 else -line.amountMinor.1
      else 0) + lineNet code lines := by
  simp [lineNet]

theorem lineNet_of_credits (credits : ∀ line ∈ lines, line.side = .credit) :
    lineNet code lines ≤ 0 ∧
      (lineNet code lines = 0 ↔ some code ∉ lines.map fun line => some line.accountCode.1) := by
  induction lines with
  | nil => simp [lineNet]
  | cons line lines ih =>
    obtain ⟨below, exactly⟩ := ih fun other mem => credits other (List.mem_cons_of_mem _ mem)
    have side := credits line (List.mem_cons_self ..)
    have positive := line.amountMinor.2.1
    rw [lineNet_cons, side, List.map_cons, List.mem_cons, not_or, Option.some_inj]
    by_cases named : line.accountCode.1 = code
    · rw [if_pos named]
      refine ⟨?_, ?_⟩
      · simp only [reduceCtorEq, if_false]
        omega
      · constructor
        · intro none
          simp only [reduceCtorEq, if_false] at none
          omega
        · rintro ⟨other, _⟩
          exact absurd named.symm other
    · rw [if_neg named, Int.zero_add]
      refine ⟨below, ?_⟩
      rw [exactly]
      constructor
      · intro unnamed
        exact ⟨fun same => named same.symm, unnamed⟩
      · rintro ⟨_, unnamed⟩
        exact unnamed

theorem lineNet_of_derived {evidence : CashCollectionEvidence}
    (derived : Derived policy evidence instruction) (receivable : receivableCode policy = some code) :
    lineNet code instruction.journalLines = instruction.platformClaimMinor ↔
      some code ∉ creditedCodes policy evidence.grossCashReportedMinor := by
  obtain ⟨debit, credits, lines, coded, debited, counted, sides, codes⟩ := derived.lines
  rw [receivable, Option.some_inj] at coded
  rw [lines, lineNet_cons, if_pos coded.symm, if_pos debited, counted, ← codes,
    ← (lineNet_of_credits sides).2]
  omega

end

section

variable {config : CashConfig} {subject : AuthorizationSubject} {journal : LedgerJournal}

def legNet (accountId : Uuid) (legs : List Leg) : Int :=
  (legs.map fun leg =>
    if leg.accountId = accountId then
      if leg.side = .debit then leg.amountMinor else -leg.amountMinor
    else 0).sum

theorem net_of_entriesOf {entryId : Nat → Uuid} {index : Nat} {legs : List Leg} {s t : σ}
    {entries : List LedgerEntry} (accountId : Uuid)
    (ran : entriesOf entryId index legs s = .ok (entries, t)) :
    s = t ∧ net accountId entries = legNet accountId legs := by
  induction legs generalizing index entries s t with
  | nil =>
    obtain ⟨rfl, rfl⟩ := pure_ok.1 ran
    exact ⟨rfl, rfl⟩
  | cons leg rest ih =>
    unfold entriesOf at ran
    simp only [↓demand_bind_ok, minor?, refine?_eq_some] at ran
    obtain ⟨amount, counted, lineIndex, _, ran⟩ := ran
    obtain ⟨later, _, following, finished⟩ := bind_ok.1 ran
    obtain ⟨rfl, same⟩ := ih following
    obtain ⟨rfl, rfl⟩ := pure_ok.1 finished
    refine ⟨rfl, ?_⟩
    rw [net_cons, same]
    simp [legNet, signed, counted]

theorem legNet_of_mapped (injective : InjectiveMapping config.accountIds) {code : String}
    {accountId : Uuid} (mapped : config.accountIds code = some accountId)
    {lines : List CashJournalLine}
    (all : ∀ line ∈ lines, (config.accountIds line.accountCode.1).isSome = true) :
    legNet accountId (lines.filterMap fun line =>
        (config.accountIds line.accountCode.1).map fun id => ⟨id, line.side, line.amountMinor.1⟩) =
      lineNet code lines := by
  induction lines with
  | nil => rfl
  | cons line lines ih =>
    have same := ih fun other mem => all other (List.mem_cons_of_mem _ mem)
    obtain ⟨id, found⟩ := Option.isSome_iff_exists.1 (all line (List.mem_cons_self ..))
    have named : id = accountId ↔ line.accountCode.1 = code := by
      constructor
      · rintro rfl
        exact injective _ _ _ found mapped
      · rintro rfl
        exact Option.some_inj.1 (found.symm.trans mapped)
    rw [lineNet_cons, ← same]
    simp [found, legNet, named]

theorem instructionJournal_net {request : CashPostRequest} {calculation : FareCalculation}
    {evidence : CashCollectionEvidence} {instruction : CashAccountingInstruction} {s t : σ}
    (injective : InjectiveMapping config.accountIds)
    (ran : instructionJournal config subject request calculation evidence instruction s =
      .ok (journal, t)) :
    s = t ∧ some journal.traceability.activeRideId = calculation.financialTraceability.activeRideId ∧
      journal.businessEventType = rideCashAccounting ∧
      (∀ line ∈ instruction.journalLines, (config.accountIds line.accountCode.1).isSome = true) ∧
      ∀ code accountId, config.accountIds code = some accountId →
        net accountId journal.entries = lineNet code instruction.journalLines := by
  unfold instructionJournal at ran
  simp only [↓require_bind_ok] at ran
  obtain ⟨all, ran⟩ := ran
  obtain ⟨entries, _, counted, ran⟩ := bind_ok.1 ran
  obtain ⟨rfl, _⟩ := net_of_entriesOf 0 counted
  simp only [↓steps_ok, attempt_ok] at ran
  obtain ⟨_, _, _, _, activeRideId, ridden, _, _, _, _, _, valid, rfl⟩ := ran
  obtain ⟨same, rfl⟩ := LedgerJournal.validate?_ok valid
  refine ⟨rfl, ?_, ?_, all, fun code accountId mapped => ?_⟩
  · rw [ridden, same]
  · exact congrArg JournalHeader.businessEventType same
  · rw [(net_of_entriesOf accountId counted).2]
    exact legNet_of_mapped injective mapped all

theorem clearingJournal_net {request : ClearRequest} {evidence : CashReconciliationEvidence}
    {item : CashAccountingRecord} {original : LedgerJournal}
    {receivableId clearingId predecessorEntryId : Uuid} {s t : σ}
    (currency : evidence.currency.1 = "ETB")
    (ran : clearingJournal config subject request evidence item original receivableId clearingId
      predecessorEntryId s = .ok (journal, t)) :
    s = t ∧ journal.traceability.activeRideId = original.traceability.activeRideId ∧
      journal.businessEventType = rideCashReconciliation ∧ 0 < item.platformClaimMinor ∧
      net receivableId journal.entries =
        if clearingId = receivableId then 0 else -item.platformClaimMinor := by
  unfold clearingJournal at ran
  simp only [↓demand_bind_ok, attempt_ok, minor?, refine?_eq_some] at ran
  obtain ⟨amount, counted, _, _, valid, rfl⟩ := ran
  obtain ⟨same, listed⟩ := LedgerJournal.validate?_ok valid
  have inEtb : evidence.currency = etb := Subtype.ext currency
  have positive := amount.2.1
  refine ⟨rfl, ?_, congrArg JournalHeader.businessEventType same, by omega, ?_⟩
  · exact congrArg (fun header => header.traceability.activeRideId) same
  · rw [listed, net_cons, net_cons]
    by_cases one : clearingId = receivableId
    · simp [one, net, signed, inEtb]
    · simp [one, net, signed, inEtb, counted]

end

end Ayo.PostTrip.ReceivableEntries
