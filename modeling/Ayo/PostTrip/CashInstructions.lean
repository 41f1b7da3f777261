/- digest: When a cash policy applies, and what its lines come to. -/

import Ayo.Persistence.BookIsolation
import Ayo.PostTrip.ReceivableEntries

namespace Ayo.PostTrip.CashInstructions

open Kernel.UnitOfWork Core.Values Ledger.Models
open Ledger.ReplayView (sampleCalculation)
open Payment.SingleCapture (sampleHash)
open Persistence.BookIsolation (agentTerms corroborated)
open CashAccounting
open Pricing.Models (FareCalculation)

variable {σ : Type}

def Coded (account : Option String) : Prop := ∀ code ∈ account, isCode code = true

/-- The evidence is corroborated cash of at least one cent for the calculated fare, and the policy
is in force for it and has a tax account where there is tax. -/
structure Fits (policy : CashAccountingPolicy) (calculation : FareCalculation)
    (evidence : CashCollectionEvidence) (time : DateTime) (production : Bool) : Prop where
  environment : production = true → policy.environment = .production
  begun : policy.effectiveFrom ≤ time.instant
  lasting : ∀ ending ∈ policy.effectiveUntil, time.instant < ending
  collected : evidence.state = .collectionCorroborated
  ride : evidence.rideId = calculation.rideId
  fare : evidence.fareCalculationId = calculation.calculationId
  amount : evidence.grossCashReportedMinor = calculation.breakdown.riderTotalMinor
  positive : 1 ≤ evidence.grossCashReportedMinor.value
  taxed : basisShare evidence.grossCashReportedMinor policy.taxBasisPoints ≠ 0 →
    policy.taxPayableAccount.isSome = true

/-- The rounded shares of the others leave something for the platform. -/
def RevenueLeft (policy : CashAccountingPolicy) (gross : MinorAmount) : Prop :=
  match policy.accountingModel with
  | .principalGross => basisShare gross policy.driverEntitlementBasisPoints +
      basisShare gross policy.taxBasisPoints ≠ gross.value
  | .agentNetRemittance => basisShare gross policy.taxBasisPoints ≠
      basisShare gross policy.platformClaimBasisPoints

/-- The share that the policy always books comes to at least one cent, and every account that it
books to has a code that a journal line takes. -/
structure Applicable (policy : CashAccountingPolicy) (gross : MinorAmount) : Prop where
  principal : policy.accountingModel = .principalGross →
    10000 ≤ gross.value * policy.driverEntitlementBasisPoints.1 ∧
      Coded policy.principalReceivableAccount ∧ Coded policy.driverEntitlementAccount
  agent : policy.accountingModel = .agentNetRemittance →
    10000 ≤ gross.value * policy.platformClaimBasisPoints.1 ∧ Coded policy.platformClaimAccount
  revenue : RevenueLeft policy gross → isCode policy.platformRevenueAccount = true
  tax : 10000 ≤ gross.value * policy.taxBasisPoints.1 → Coded policy.taxPayableAccount

def revenueOf (policy : CashAccountingPolicy) (instruction : CashAccountingInstruction) : Int :=
  revenueMinor policy instruction.platformClaimMinor instruction.driverEntitlementMinor
    instruction.taxMinor

/-- The lines balance with every amount positive: the claim is debited, and the parts that make it
up are credited. -/
structure Sound (policy : CashAccountingPolicy) (instruction : CashAccountingInstruction) :
    Prop where
  balanced : lineTotal .debit instruction.journalLines =
    lineTotal .credit instruction.journalLines
  positive : ∀ line ∈ instruction.journalLines, 1 ≤ line.amountMinor.1
  debited : lineTotal .debit instruction.journalLines = instruction.platformClaimMinor
  earned : 0 ≤ revenueOf policy instruction
  principal : policy.accountingModel = .principalGross →
    instruction.driverEntitlementMinor + instruction.taxMinor + revenueOf policy instruction =
      instruction.grossCashReportedMinor
  agent : policy.accountingModel = .agentNetRemittance →
    instruction.taxMinor + revenueOf policy instruction = instruction.platformClaimMinor

section

variable {amount : MinorAmount} {points : BasisPoints}

theorem share_nonneg : 0 ≤ basisShare amount points := by
  have product : 0 ≤ amount.value * points.1 := Int.mul_nonneg amount.nonneg points.2.1
  unfold basisShare
  omega

theorem share_le : basisShare amount points ≤ amount.value := by
  have product : amount.value * points.1 ≤ amount.value * 10000 :=
    Int.mul_le_mul_of_nonneg_left points.2.2 amount.nonneg
  unfold basisShare
  omega

theorem one_le_share_iff : 1 ≤ basisShare amount points ↔ 10000 ≤ amount.value * points.1 := by
  unfold basisShare
  omega

theorem share_ne_zero_iff : basisShare amount points ≠ 0 ↔ 10000 ≤ amount.value * points.1 := by
  have nonneg : 0 ≤ basisShare amount points := share_nonneg
  rw [← one_le_share_iff]
  omega

theorem share_of_whole (whole : points.1 = 10000) : basisShare amount points = amount.value := by
  unfold basisShare
  rw [whole]
  omega

theorem share_le_share {lesser greater : BasisPoints} (le : lesser.1 ≤ greater.1) :
    basisShare amount lesser ≤ basisShare amount greater := by
  have product : amount.value * lesser.1 ≤ amount.value * greater.1 :=
    Int.mul_le_mul_of_nonneg_left le amount.nonneg
  unfold basisShare
  omega

theorem shares_le {first second : BasisPoints} (within : first.1 + second.1 ≤ 10000) :
    basisShare amount first + basisShare amount second ≤ amount.value := by
  have product : amount.value * (first.1 + second.1) ≤ amount.value * 10000 :=
    Int.mul_le_mul_of_nonneg_left within amount.nonneg
  rw [Int.mul_add] at product
  unfold basisShare
  omega

end

section

theorem lineTotal_append (side : LedgerEntrySide) (first second : List CashJournalLine) :
    lineTotal side (first ++ second) = lineTotal side first + lineTotal side second := by
  unfold lineTotal
  rw [List.filter_append, List.map_append, List.sum_append]

structure Books (debit credit : Int) (body : Transaction σ Failure (List CashJournalLine)) (s : σ)
    (lines : List CashJournalLine) : Prop where
  succeeds : body s = .ok (lines, s)
  debited : lineTotal .debit lines = debit
  credited : lineTotal .credit lines = credit

variable {accountCode : String} {amountMinor revenue tax : Int} {t s : σ} {side : LedgerEntrySide}
  {line : CashJournalLine} {policy : CashAccountingPolicy} {gross : MinorAmount}
  {lines : List CashJournalLine}

theorem journalLine_ok_iff :
    journalLine accountCode side amountMinor s = .ok (line, t) ↔
      line.accountCode.1 = accountCode ∧ line.side = side ∧ line.amountMinor.1 = amountMinor ∧
        s = t := by
  simp only [journalLine, ↓steps_ok, code?, minor?, refine?_eq_some]
  constructor
  · rintro ⟨code, coded, amount, counted, rfl, rfl⟩
    exact ⟨coded, rfl, counted, rfl⟩
  · rintro ⟨coded, rfl, counted, rfl⟩
    exact ⟨line.accountCode, coded, line.amountMinor, counted, rfl, rfl⟩

theorem journalLine_booked (side : LedgerEntrySide) (s : σ) (coded : isCode accountCode = true)
    (least : 1 ≤ amountMinor) (most : amountMinor ≤ 10000000000) :
    ∃ line : CashJournalLine, journalLine accountCode side amountMinor s = .ok (line, s) ∧
      line.side = side ∧ line.amountMinor.1 = amountMinor :=
  ⟨⟨⟨accountCode, coded⟩, side, ⟨amountMinor, least, most⟩⟩,
    journalLine_ok_iff.2 ⟨rfl, rfl, rfl, rfl⟩, rfl, rfl⟩

theorem code_of_journalLine (ran : journalLine accountCode side amountMinor s = .ok (line, t)) :
    isCode accountCode = true ∧ 1 ≤ amountMinor ∧ s = t := by
  obtain ⟨coded, _, counted, same⟩ := journalLine_ok_iff.1 ran
  refine ⟨?_, ?_, same⟩
  · rw [← coded]
    exact line.accountCode.2
  · rw [← counted]
    exact line.amountMinor.2.1

theorem receivable_booked (s : σ) (positive : 1 ≤ gross.value)
    (applicable : Applicable policy gross) :
    ∃ lines, lines ≠ [] ∧ Books (basisShare gross policy.platformClaimBasisPoints)
      (match policy.accountingModel with
        | .principalGross => basisShare gross policy.driverEntitlementBasisPoints
        | .agentNetRemittance => 0)
      (receivableLines policy gross.value (basisShare gross policy.platformClaimBasisPoints)
        (basisShare gross policy.driverEntitlementBasisPoints)) s lines := by
  have valid := policy.valid
  simp only [policyObjection, refuse_eq_none, and_true] at valid
  obtain ⟨_, accounts, whole, remittance, _, _⟩ := valid
  have bounded := gross.bounded
  cases model : policy.accountingModel with
  | principalGross =>
    obtain ⟨entitled, receivableCoded, entitledCoded⟩ := applicable.principal model
    simp only [model, true_and, not_or, ne_eq, not_not] at accounts whole
    obtain ⟨receivable, receivableSet⟩ := Option.ne_none_iff_exists'.1 accounts.1
    obtain ⟨owed, owedSet⟩ := Option.ne_none_iff_exists'.1 accounts.2
    have claim : basisShare gross policy.platformClaimBasisPoints = gross.value :=
      share_of_whole whole
    have most : basisShare gross policy.driverEntitlementBasisPoints ≤ gross.value := share_le
    obtain ⟨debit, debited, debitSide, debitAmount⟩ :=
      journalLine_booked .debit s (receivableCoded receivable receivableSet) positive bounded
    obtain ⟨credit, credited, creditSide, creditAmount⟩ :=
      journalLine_booked .credit s (entitledCoded owed owedSet)
        (one_le_share_iff.2 entitled) (by omega)
    refine ⟨[debit, credit], by simp, ?_, ?_, ?_⟩
    · unfold receivableLines
      simp only [model]
      rw [claim]
      refine require_bind_ok.2 ⟨rfl, ?_⟩
      refine demand_bind_ok.2 ⟨receivable, receivableSet, ?_⟩
      refine demand_bind_ok.2 ⟨owed, owedSet, ?_⟩
      refine bind_ok.2 ⟨debit, s, debited, ?_⟩
      exact bind_ok.2 ⟨credit, s, credited, rfl⟩
    · simp [lineTotal, debitSide, creditSide, debitAmount, claim]
    · simp [lineTotal, debitSide, creditSide, creditAmount]
  | agentNetRemittance =>
    obtain ⟨claimed, coded⟩ := applicable.agent model
    simp only [model, true_and] at remittance
    obtain ⟨receivable, receivableSet⟩ := Option.ne_none_iff_exists'.1 remittance
    have most : basisShare gross policy.platformClaimBasisPoints ≤ gross.value := share_le
    obtain ⟨debit, debited, debitSide, debitAmount⟩ :=
      journalLine_booked .debit s (coded receivable receivableSet)
        (one_le_share_iff.2 claimed) (by omega)
    refine ⟨[debit], by simp, ?_, ?_, ?_⟩
    · unfold receivableLines
      simp only [model]
      refine demand_bind_ok.2 ⟨receivable, receivableSet, ?_⟩
      exact bind_ok.2 ⟨debit, s, debited, rfl⟩
    · simp [lineTotal, debitSide, debitAmount]
    · simp [lineTotal, debitSide]

theorem receivable_of_booked {claim entitlement amount : Int}
    (ran : receivableLines policy amount claim entitlement s = .ok (lines, t)) :
    s = t ∧ (policy.accountingModel = .principalGross → 1 ≤ entitlement ∧
        Coded policy.principalReceivableAccount ∧ Coded policy.driverEntitlementAccount) ∧
      (policy.accountingModel = .agentNetRemittance → 1 ≤ claim ∧
        Coded policy.platformClaimAccount) := by
  unfold receivableLines at ran
  cases model : policy.accountingModel with
  | principalGross =>
    simp only [model] at ran
    obtain ⟨_, ran⟩ := require_bind_ok.1 ran
    obtain ⟨receivable, receivableSet, ran⟩ := demand_bind_ok.1 ran
    obtain ⟨owed, owedSet, ran⟩ := demand_bind_ok.1 ran
    obtain ⟨debit, _, debited, ran⟩ := bind_ok.1 ran
    obtain ⟨credit, credited, _⟩ := bind_pure_ok.1 ran
    obtain ⟨receivableCoded, _, rfl⟩ := code_of_journalLine debited
    obtain ⟨owedCoded, least, rfl⟩ := code_of_journalLine credited
    refine ⟨rfl, fun _ => ⟨least, ?_, ?_⟩, fun other => by cases other⟩
    · intro code set
      rw [receivableSet, Option.mem_some_iff] at set
      rwa [← set]
    · intro code set
      rw [owedSet, Option.mem_some_iff] at set
      rwa [← set]
  | agentNetRemittance =>
    simp only [model] at ran
    obtain ⟨receivable, receivableSet, ran⟩ := demand_bind_ok.1 ran
    obtain ⟨debit, debited, _⟩ := bind_pure_ok.1 ran
    obtain ⟨receivableCoded, least, rfl⟩ := code_of_journalLine debited
    refine ⟨rfl, fun other => (by cases other), fun _ => ⟨least, ?_⟩⟩
    intro code set
    rw [receivableSet, Option.mem_some_iff] at set
    rwa [← set]

theorem revenue_booked (s : σ) (least : 0 ≤ revenue) (most : revenue ≤ 10000000000)
    (coded : revenue ≠ 0 → isCode policy.platformRevenueAccount = true) :
    ∃ lines, Books 0 revenue (revenueLines policy revenue) s lines := by
  by_cases none : revenue = 0
  · refine ⟨[], ?_, rfl, none.symm⟩
    unfold revenueLines
    rw [if_pos none]
    rfl
  · obtain ⟨credit, credited, side, amount⟩ :=
      journalLine_booked .credit s (coded none) (by omega) most
    refine ⟨[credit], ?_, ?_, ?_⟩
    · unfold revenueLines
      rw [if_neg none]
      exact bind_ok.2 ⟨credit, s, credited, rfl⟩
    · simp [lineTotal, side]
    · simp [lineTotal, side, amount]

theorem revenue_of_booked (ran : revenueLines policy revenue s = .ok (lines, t)) :
    s = t ∧ (revenue ≠ 0 → isCode policy.platformRevenueAccount = true) := by
  unfold revenueLines at ran
  by_cases none : revenue = 0
  · rw [if_pos none] at ran
    exact ⟨(pure_ok.1 ran).2, fun some => absurd none some⟩
  · rw [if_neg none] at ran
    obtain ⟨credit, _, credited, ran⟩ := bind_ok.1 ran
    obtain ⟨coded, _, rfl⟩ := code_of_journalLine credited
    exact ⟨(pure_ok.1 ran).2, fun _ => coded⟩

theorem tax_booked (s : σ) (least : 0 ≤ tax) (most : tax ≤ 10000000000)
    (payable : tax ≠ 0 → policy.taxPayableAccount.isSome = true)
    (coded : tax ≠ 0 → Coded policy.taxPayableAccount) :
    ∃ lines, Books 0 tax (taxLines policy tax) s lines := by
  by_cases none : tax = 0
  · refine ⟨[], ?_, rfl, none.symm⟩
    unfold taxLines
    rw [if_pos none]
    rfl
  · obtain ⟨account, set⟩ := Option.isSome_iff_exists.1 (payable none)
    obtain ⟨credit, credited, side, amount⟩ :=
      journalLine_booked .credit s (coded none account set) (by omega) most
    refine ⟨[credit], ?_, ?_, ?_⟩
    · unfold taxLines
      rw [if_neg none]
      refine demand_bind_ok.2 ⟨account, set, ?_⟩
      exact bind_ok.2 ⟨credit, s, credited, rfl⟩
    · simp [lineTotal, side]
    · simp [lineTotal, side, amount]

theorem tax_of_booked (ran : taxLines policy tax s = .ok (lines, t)) :
    s = t ∧ (tax ≠ 0 → Coded policy.taxPayableAccount) := by
  unfold taxLines at ran
  by_cases none : tax = 0
  · rw [if_pos none] at ran
    exact ⟨(pure_ok.1 ran).2, fun some => absurd none some⟩
  · rw [if_neg none] at ran
    obtain ⟨account, set, ran⟩ := demand_bind_ok.1 ran
    obtain ⟨credit, _, credited, ran⟩ := bind_ok.1 ran
    obtain ⟨coded, _, rfl⟩ := code_of_journalLine credited
    refine ⟨(pure_ok.1 ran).2, fun _ code listed => ?_⟩
    rw [set, Option.mem_some_iff] at listed
    rwa [← listed]

end

section

variable {policy : CashAccountingPolicy} {gross : MinorAmount} {hash : Payload → Digest}
  {calculation : FareCalculation} {evidence : CashCollectionEvidence} {time : DateTime}
  {production : Bool} {instructionId : Uuid}

theorem tax_le_claim : basisShare gross policy.taxBasisPoints ≤
    basisShare gross policy.platformClaimBasisPoints := by
  have valid := policy.valid
  simp only [policyObjection, refuse_eq_none, Int.not_lt] at valid
  obtain ⟨_, _, _, _, within, _⟩ := valid
  exact share_le_share within

theorem claim_of_principal (model : policy.accountingModel = .principalGross) :
    basisShare gross policy.platformClaimBasisPoints = gross.value := by
  have valid := policy.valid
  simp only [policyObjection, refuse_eq_none, model, true_and, ne_eq, not_not] at valid
  obtain ⟨_, _, whole, _, _, _⟩ := valid
  exact share_of_whole whole

theorem revenue_nonneg : 0 ≤ revenueMinor policy (basisShare gross policy.platformClaimBasisPoints)
      (basisShare gross policy.driverEntitlementBasisPoints)
      (basisShare gross policy.taxBasisPoints) := by
  have valid := policy.valid
  simp only [policyObjection, refuse_eq_none, and_true, Int.not_lt] at valid
  obtain ⟨_, _, _, _, _, within⟩ := valid
  have taxed : basisShare gross policy.taxBasisPoints ≤
      basisShare gross policy.platformClaimBasisPoints := tax_le_claim
  unfold revenueMinor
  cases model : policy.accountingModel with
  | principalGross =>
    have claim : basisShare gross policy.platformClaimBasisPoints = gross.value :=
      claim_of_principal model
    simp only [model, true_and, Int.not_lt] at within
    have parts : basisShare gross policy.driverEntitlementBasisPoints +
        basisShare gross policy.taxBasisPoints ≤ gross.value := shares_le within
    simp only
    omega
  | agentNetRemittance =>
    simp only
    omega

theorem revenue_le : revenueMinor policy (basisShare gross policy.platformClaimBasisPoints)
      (basisShare gross policy.driverEntitlementBasisPoints)
      (basisShare gross policy.taxBasisPoints) ≤ gross.value := by
  have claim : basisShare gross policy.platformClaimBasisPoints ≤ gross.value := share_le
  have entitlement : 0 ≤ basisShare gross policy.driverEntitlementBasisPoints := share_nonneg
  have tax : 0 ≤ basisShare gross policy.taxBasisPoints := share_nonneg
  unfold revenueMinor
  cases policy.accountingModel
  all_goals
    simp only
    omega

theorem revenueLeft_iff : RevenueLeft policy gross ↔
    revenueMinor policy (basisShare gross policy.platformClaimBasisPoints)
      (basisShare gross policy.driverEntitlementBasisPoints)
      (basisShare gross policy.taxBasisPoints) ≠ 0 := by
  unfold RevenueLeft revenueMinor
  cases model : policy.accountingModel with
  | principalGross =>
    have claim : basisShare gross policy.platformClaimBasisPoints = gross.value :=
      claim_of_principal model
    simp only
    omega
  | agentNetRemittance =>
    simp only
    omega

theorem applied_of_applicable (s : σ) (fits : Fits policy calculation evidence time production)
    (applicable : Applicable policy evidence.grossCashReportedMinor) :
    ∃ instruction, buildCashAccountingInstruction hash policy calculation evidence time production
      instructionId s = .ok (instruction, s) ∧ Sound policy instruction := by
  have bounded := evidence.grossCashReportedMinor.bounded
  have most : revenueMinor policy _ _ _ ≤ evidence.grossCashReportedMinor.value := revenue_le
  have taxMost : basisShare evidence.grossCashReportedMinor policy.taxBasisPoints ≤
      evidence.grossCashReportedMinor.value := share_le
  obtain ⟨opening, opened, booked⟩ := receivable_booked s fits.positive applicable
  obtain ⟨revenue, earned⟩ := revenue_booked s revenue_nonneg (by omega)
    fun left => applicable.revenue (revenueLeft_iff.2 left)
  obtain ⟨taxes, paid⟩ := tax_booked s share_nonneg (by omega) fits.taxed
    fun due => applicable.tax (share_ne_zero_iff.1 due)
  have debits : lineTotal .debit (opening ++ revenue ++ taxes) =
      basisShare evidence.grossCashReportedMinor policy.platformClaimBasisPoints := by
    rw [lineTotal_append, lineTotal_append, booked.debited, earned.debited, paid.debited]
    omega
  have credits : lineTotal .credit (opening ++ revenue ++ taxes) =
      basisShare evidence.grossCashReportedMinor policy.platformClaimBasisPoints := by
    rw [lineTotal_append, lineTotal_append, booked.credited, earned.credited, paid.credited]
    unfold revenueMinor
    cases policy.accountingModel
    all_goals
      simp only
      omega
  have balanced : opening ++ revenue ++ taxes ≠ [] ∧
      lineTotal .debit (opening ++ revenue ++ taxes) =
        lineTotal .credit (opening ++ revenue ++ taxes) := by
    refine ⟨?_, debits.trans credits.symm⟩
    intro empty
    exact opened (List.append_eq_nil_iff.1 (List.append_eq_nil_iff.1 empty).1).1
  have untaxed : 0 ≤ basisShare evidence.grossCashReportedMinor policy.platformClaimBasisPoints -
      basisShare evidence.grossCashReportedMinor policy.taxBasisPoints := by
    have taxed : basisShare evidence.grossCashReportedMinor policy.taxBasisPoints ≤
      basisShare evidence.grossCashReportedMinor policy.platformClaimBasisPoints := tax_le_claim
    omega
  unfold buildCashAccountingInstruction
  simp only [↓require_bind_ok]
  refine ⟨_, ⟨fits.environment, ⟨fits.begun, fits.lasting⟩, fits.collected,
    ⟨fits.ride, fits.fare⟩, fits.amount, untaxed,
    bind_ok.2 ⟨opening, s, booked.succeeds, bind_ok.2 ⟨revenue, s, earned.succeeds,
      bind_ok.2 ⟨taxes, s, paid.succeeds, demand_ok.2 ⟨dif_pos balanced, rfl⟩⟩⟩⟩⟩, ?_⟩
  refine ⟨balanced.2, fun line _ => line.amountMinor.2.1, debits, revenue_nonneg, ?_, ?_⟩
  · intro model
    have claim : basisShare evidence.grossCashReportedMinor policy.platformClaimBasisPoints =
      evidence.grossCashReportedMinor.value := claim_of_principal model
    simp only [revenueOf, revenueMinor, model]
    omega
  · intro model
    simp only [revenueOf, revenueMinor, model]
    omega

theorem applicable_of_applied {s t : σ} {instruction : CashAccountingInstruction}
    (ran : buildCashAccountingInstruction hash policy calculation evidence time production
      instructionId s = .ok (instruction, t)) :
    Applicable policy evidence.grossCashReportedMinor := by
  unfold buildCashAccountingInstruction at ran
  simp only [↓require_bind_ok] at ran
  obtain ⟨_, _, _, _, _, _, ran⟩ := ran
  obtain ⟨opening, _, opened, ran⟩ := bind_ok.1 ran
  obtain ⟨revenue, _, earned, ran⟩ := bind_ok.1 ran
  obtain ⟨taxes, _, paid, ran⟩ := bind_ok.1 ran
  obtain ⟨_, principal, agent⟩ := receivable_of_booked opened
  refine ⟨?_, ?_, ?_, ?_⟩
  · intro model
    obtain ⟨least, coded⟩ := principal model
    exact ⟨one_le_share_iff.1 least, coded⟩
  · intro model
    obtain ⟨least, coded⟩ := agent model
    exact ⟨one_le_share_iff.1 least, coded⟩
  · intro left
    exact (revenue_of_booked earned).2 (revenueLeft_iff.1 left)
  · intro due
    exact (tax_of_booked paid).2 (share_ne_zero_iff.2 due)

end

/-- A policy that fits corroborated cash yields a sound instruction for it exactly where its
always-booked share comes to a cent and its accounts have codes that a journal line takes. -/
theorem applied_iff_applicable (hash : Payload → Digest) (policy : CashAccountingPolicy)
    (calculation : FareCalculation) (evidence : CashCollectionEvidence) (time : DateTime)
    (production : Bool) (instructionId : Uuid) (s : σ)
    (fits : Fits policy calculation evidence time production) :
    (∃ instruction, buildCashAccountingInstruction hash policy calculation evidence time production
        instructionId s = .ok (instruction, s) ∧ Sound policy instruction) ↔
      Applicable policy evidence.grossCashReportedMinor := by
  constructor
  · rintro ⟨instruction, success, _⟩
    exact applicable_of_applied success
  · intro applicable
    exact applied_of_applicable s fits applicable

/-! The fare of ride 10 in cash, under an agent policy with a choice of the platform's share. -/

def agentClaiming (platformClaimBasisPoints : BasisPoints)
    (within : agentTerms.taxBasisPoints.1 ≤ platformClaimBasisPoints.1) : CashAccountingPolicy where
  toCashPolicyTerms := { agentTerms with platformClaimBasisPoints }
  valid := by
    have taxed : ¬ platformClaimBasisPoints.1 < agentTerms.taxBasisPoints.1 :=
      Int.not_lt.2 within
    simp only [policyObjection, refuse_eq_none, agentTerms, reduceCtorEq, false_and,
      not_false_eq_true, true_and, and_true, and_false]
    exact ⟨by simp, taxed⟩

def agentFifth : CashAccountingPolicy :=
  agentClaiming agentTerms.platformClaimBasisPoints (by decide)

def agentFree : CashAccountingPolicy := agentClaiming agentTerms.taxBasisPoints le_rfl

theorem agent_fits {points : BasisPoints} (within : agentTerms.taxBasisPoints.1 ≤ points.1) :
    Fits (agentClaiming points within) sampleCalculation corroborated ⟨300, some 0⟩ false where
  environment production := absurd production (by decide)
  begun := show (0 : Int) ≤ 300 by decide
  lasting ending set := absurd set (by simp [agentClaiming, agentTerms])
  collected := rfl
  ride := rfl
  fare := rfl
  amount := rfl
  positive := by decide
  taxed due := absurd rfl due

theorem applied_iff_applicable_fifth :
    ∃ instruction, buildCashAccountingInstruction sampleHash agentFifth sampleCalculation
      corroborated ⟨300, some 0⟩ false 90 () = .ok (instruction, ()) ∧
        Sound agentFifth instruction := by
  have applicable : Applicable agentFifth corroborated.grossCashReportedMinor := by
    refine ⟨fun principal => absurd principal (by decide), fun _ => ⟨by decide, ?_⟩,
      fun _ => by decide, fun due => absurd due (by decide)⟩
    intro code set
    obtain rfl := Option.some.inj set
    decide
  exact (applied_iff_applicable sampleHash agentFifth sampleCalculation corroborated
    ⟨300, some 0⟩ false 90 () (agent_fits _)).2 applicable

/-- A valid policy that claims nothing from the driver cannot be applied. -/
theorem unapplied_without_claim :
    ¬ ∀ (policy : CashAccountingPolicy) (calculation : FareCalculation)
      (evidence : CashCollectionEvidence) (time : DateTime) (production : Bool)
      (instructionId : Uuid), Fits policy calculation evidence time production →
        ∃ instruction, buildCashAccountingInstruction sampleHash policy calculation evidence time
          production instructionId () = .ok (instruction, ()) ∧ Sound policy instruction := by
  intro applied
  obtain ⟨instruction, success, _⟩ := applied agentFree sampleCalculation corroborated
    ⟨300, some 0⟩ false 90 (agent_fits _)
  have refused : (buildCashAccountingInstruction sampleHash agentFree sampleCalculation
      corroborated ⟨300, some 0⟩ false 90 ()).isOk = false := by
    decide +kernel
  rw [success] at refused
  exact absurd refused (by simp [Except.isOk, Except.toBool])

end Ayo.PostTrip.CashInstructions
