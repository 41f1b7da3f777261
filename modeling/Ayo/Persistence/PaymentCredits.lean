/- digest: When postings of a captured payment credit more than its amount. -/

import Ayo.Persistence.PostingRetries

namespace Ayo.Persistence.PaymentCredits

open Kernel.UnitOfWork Kernel.Run Kernel.KeyedTable Kernel.Grouping Core.Values Core.Authorization
open Ledger.Models (Minor)
open Payment.Models (PaymentAttempt)
open Persistence.Composition Services
open PostingRetries (payments_of_step)
open Postings.Application (PostingIds post walletRequest)
open Postings.Effects Postings.Models Wallet.Effects Wallet.Models
open Wallet.Repository (WalletStore)

def pendingCredits (wallets : WalletStore) : Int :=
  total (fun entry : WalletLineageEntry => entry.amountMinor.value)
    (fun entry => entry.entryType = .pendingCredit) wallets.entries.rows

def posting? : PlatformCommand → Option (FinancialPostingCommand × PostingIds)
  | .post command ids => some (command, ids)
  | _ => none

def postedAttempt? (command : PlatformCommand) : Option Uuid :=
  (posting? command).bind fun posting =>
    if posting.1.sourceType = .completedPayment then some posting.1.sourceId else none

variable (config : PlatformConfig)

def creditBy (platform : Platform) (call : PlatformCall) (paymentAttemptId : Uuid) : Int :=
  if postedAttempt? call.command = some paymentAttemptId then
    pendingCredits (platformStep config platform call).financial.wallets -
      pendingCredits platform.financial.wallets
  else
    0

structure CreditHistory where
  platform : Platform := {}
  credited : Uuid → Int := fun _ => 0

variable (history : CreditHistory) (call : PlatformCall)

def creditStep : CreditHistory :=
  { platform := platformStep config history.platform call, credited := fun paymentAttemptId =>
      history.credited paymentAttemptId + creditBy config history.platform call paymentAttemptId }

/-- No captured payment was credited more than its amount. -/
def CreditedAtMost : Prop :=
  ∀ attempt ∈ history.platform.payments.attempts.rows, attempt.state = .captured →
    history.credited attempt.paymentAttemptId ≤ attempt.amountMinor.value
deriving Decidable

/-- A service posts lines that balance under a key that is new to the postings and the wallets. -/
def CreatesCredit (store : FinancialStore) (subject : AuthorizationSubject)
    (command : FinancialPostingCommand) (ids : PostingIds) : Prop :=
  subject.identityType = .service ∧ Balanced command ∧
    store.postings.postings.find (canonicalPostingId store.postings subject command ids) = none ∧
    store.wallets.entries.find (canonicalEntryId store.wallets subject
      (walletRequest command ids .pendingCredit ids.journalId)) = none
deriving Decidable

/-- A posting of a captured payment that creates a credit leaves what was credited within the
payment. -/
def CreditsWithin : Prop :=
  ∀ posting ∈ posting? call.command, posting.1.sourceType = .completedPayment →
    CreatesCredit history.platform.financial call.subject posting.1 posting.2 →
      ∀ attempt ∈ history.platform.payments.attempts.find posting.1.sourceId,
        attempt.state = .captured →
          history.credited posting.1.sourceId + posting.1.walletAmountMinor.1 ≤
            attempt.amountMinor.value
deriving Decidable

theorem pendingCredits_of_consumed {hash : Payload → Digest}
    {reads : Wallet.Application.WalletReads} {subject : AuthorizationSubject}
    {request : Wallet.Application.ConsumeRequest} {s t : WalletStore} {account : WalletAccount}
    (consumed : Wallet.Application.consumeAuthoritativeEvent hash reads subject request s =
      .ok (account, t)) :
    pendingCredits t = pendingCredits s ∨
      (s.entries.find (canonicalEntryId s subject request) = none ∧
        pendingCredits t = pendingCredits s +
          if request.entryType = .pendingCredit then request.amountMinor else 0) := by
  obtain ⟨between, reservations, opening, happened⟩ := consumeAuthoritativeEvent_effect consumed
  have entries : between.entries = s.entries := by
    rcases opening with rfl | ⟨_, _, opened⟩
    · rfl
    · exact opened.entries
  cases happened with
  | repeated _ _ _ _ kept =>
    left
    rw [pendingCredits, kept, entries]
    rfl
  | entered entry old admitted written =>
    right
    refine ⟨?_, ?_⟩
    · have fresh := admitted.2.2.2.1
      rw [canonicalEntryId, reservations, entries] at fresh
      exact fresh
    · rw [pendingCredits, written.entries, total_append, total_cons, total_nil, add_zero, entries,
        written.amount, written.entryType]
      simp only [decide_eq_true_eq]
      rfl

/-- What was credited for an attempt is nothing, or within the amount of the captured attempt. -/
def Bounded : Prop :=
  ∀ paymentAttemptId, history.credited paymentAttemptId = 0 ∨
    ∃ attempt, history.platform.payments.attempts.find paymentAttemptId = some attempt ∧
      attempt.state = .captured ∧
      history.credited paymentAttemptId ≤ attempt.amountMinor.value

variable {call : PlatformCall}

private theorem captured_after {config : PlatformConfig} {platform : Platform} {id : Uuid}
    {attempt : PaymentAttempt} (found : platform.payments.attempts.find id = some attempt)
    (captured : attempt.state = .captured) :
    ∃ kept, (platformStep config platform call).payments.attempts.find id = some kept ∧
      kept.state = .captured ∧ kept.amountMinor = attempt.amountMinor := by
  rcases payments_of_step config platform call with same | ⟨paymentCall, stepped⟩
  · exact ⟨attempt, by rw [same, found], captured, rfl⟩
  · rw [stepped]
    obtain ⟨kept, keptFound, state, _, amount⟩ :=
      Payment.Effects.step_captured_survives found
        captured
    exact ⟨kept, keptFound, state, amount⟩

private theorem creditBy_bounded {history : CreditHistory} (within : CreditsWithin history call)
    (id : Uuid) :
    creditBy config history.platform call id = 0 ∨
      ∃ attempt, history.platform.payments.attempts.find id = some attempt ∧
        attempt.state = .captured ∧
        history.credited id + creditBy config history.platform call id ≤
          attempt.amountMinor.value := by
  obtain ⟨surroundings, subject, command⟩ := call
  by_cases posts : postedAttempt? command = some id
  · cases command with
    | post command ids =>
      have source : command.sourceType = .completedPayment ∧ command.sourceId = id := by
        simpa [postedAttempt?, posting?] using posts
      obtain ⟨completed, rfl⟩ := source
      rw [creditBy, if_pos posts]
      obtain stays | ⟨result, finished⟩ := commit_cases
        (post config.hash (financialReads history.platform surroundings) subject command ids)
        history.platform.financial
      · left
        rw [show (platformStep config history.platform ⟨surroundings, subject,
          .post command ids⟩).financial = history.platform.financial from stays, sub_self]
      · obtain ⟨service, balanced, accepted, _, effect⟩ := post_ok finished
        cases effect with
        | repeated _ _ _ kept =>
          left
          exact sub_eq_zero.2 (congrArg (fun store => pendingCredits store.wallets) kept)
        | recorded posting lines journalId entryType account last new recorded =>
          have typed := recorded.typed completed
          rcases pendingCredits_of_consumed recorded.consumed with same | ⟨fresh, added⟩
          · exact .inl (sub_eq_zero.2 same)
          · right
            rw [walletRequest, typed, if_pos rfl] at added
            unfold Accepted at accepted
            rw [completed] at accepted
            obtain ⟨attempt, _, _, found, captured, _⟩ := accepted
            have allowed := within (command, ids) rfl completed
              ⟨service, balanced, new, fresh⟩ attempt found captured
            refine ⟨attempt, found, captured, ?_⟩
            have delta : pendingCredits (platformStep config history.platform
                ⟨surroundings, subject, .post command ids⟩).financial.wallets -
                pendingCredits history.platform.financial.wallets =
                  command.walletAmountMinor.1 := by
              exact sub_eq_iff_eq_add'.2 added
            rw [delta]
            exact allowed
    | _ => cases posts
  · exact .inl (if_neg posts)

theorem step_preserves_bounded (within : CreditsWithin history call) (bounded : Bounded history) :
    Bounded (creditStep config history call) := by
  intro id
  have settle : ∀ attempt, history.platform.payments.attempts.find id = some attempt →
      attempt.state = .captured →
      history.credited id + creditBy config history.platform call id ≤ attempt.amountMinor.value →
      ∃ kept, (creditStep config history call).platform.payments.attempts.find id = some kept ∧
        kept.state = .captured ∧
        (creditStep config history call).credited id ≤ kept.amountMinor.value := by
    intro attempt found captured le
    obtain ⟨kept, keptFound, state, amount⟩ :=
      captured_after found captured
    exact ⟨kept, keptFound, state, by rw [amount]; exact le⟩
  rcases creditBy_bounded config within id with nothing | ⟨attempt, found, captured, le⟩
  · rcases bounded id with zero | ⟨attempt, found, captured, le⟩
    · left
      show history.credited id + creditBy config history.platform call id = 0
      rw [nothing, zero, add_zero]
    · right
      refine settle attempt found captured ?_
      rw [nothing, add_zero]
      exact le
  · exact .inr (settle attempt found captured le)

/-- In a run whose postings of captured payments stay within the payment, counting what was
credited before, no captured payment is ever credited more than its amount. -/
theorem credited_at_most_along (config : PlatformConfig) (calls : List PlatformCall)
    (along : Along (creditStep config) CreditsWithin {} calls) :
    CreditedAtMost (run (creditStep config) {} calls) := by
  have bounded : Bounded (run (creditStep config) {} calls) :=
    run_invariant_along (step_preserves_bounded config) along fun _ => .inl rfl
  intro attempt member captured
  rcases bounded attempt.paymentAttemptId with zero | ⟨other, found, _, le⟩
  · rw [zero]
    exact attempt.amountMinor.nonneg
  · have same : other = attempt :=
      Option.some.inj (found.symm.trans (Table.find_of_mem member))
    rwa [same] at le

def fourHundred : Minor := ⟨400, by decide⟩

def secondOperation : Code := ⟨"payment.post.second", by decide⟩

def secondPostingKey : BoundedText 16 128 := ⟨"payment-posting-0002", by decide⟩

def postedOnce : List PlatformCall :=
  capturedRide ++
    [serviceCall (.post (paymentPosting firstOperation firstPostingKey fourHundred 450)
      (idsFrom 700))]

/-- Another 400 of it, posted as a second operation. -/
def postedTwice : List PlatformCall :=
  postedOnce ++
    [serviceCall (.post (paymentPosting secondOperation secondPostingKey fourHundred 460)
      (idsFrom 800))]

theorem credited_at_most_once : CreditedAtMost (run (creditStep platformConfig) {} postedOnce) :=
  credited_at_most_along platformConfig postedOnce (by decide +kernel)

theorem credited_twice : ¬ CreditedAtMost (run (creditStep platformConfig) {} postedTwice) := by
  decide +kernel

end Ayo.Persistence.PaymentCredits
