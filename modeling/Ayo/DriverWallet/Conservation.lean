/- digest: Conservation of the legacy driver wallet. -/

import Ayo.DriverWallet.Service
import Ayo.Kernel.Run

namespace Ayo.DriverWallet.Conservation

open Kernel.Run Kernel.Sessions Service

@[ext] structure Balances where
  (digital available due pending : Hundredths)
deriving DecidableEq

def balances (wallet : LegacyWallet) : Balances where
  digital := wallet.digitalBalance
  available := wallet.availableToCashout
  due := wallet.cashCommissionDue
  pending := wallet.pendingCashout

def walletOf (wallets : Wallets) (driverId : String) : LegacyWallet :=
  (wallets driverId).getD (newWallet driverId)

def balancesOf (wallets : Wallets) (driverId : String) : Balances :=
  balances (walletOf wallets driverId)

structure Totals where
  digitalCredits : Hundredths := 0
  cashCommissions : Hundredths := 0
  requested : Hundredths := 0
  completed : Hundredths := 0

def driverOf : WalletCall → String
  | .createWallet driverId => driverId
  | .getWallet driverId => driverId
  | .addTransaction driverId _ _ _ _ _ => driverId
  | .addTripEarning trip => trip.driverId
  | .requestWithdrawal driverId _ => driverId
  | .completeWithdrawal driverId _ _ => driverId

variable (normalized : String → String)

def creditOf (trip : TripEarning) : Hundredths :=
  if normalized trip.paymentMethod = "CASH" then trip.bonusAmount else trip.driverNet

def debtOf (trip : TripEarning) : Hundredths :=
  if normalized trip.paymentMethod = "CASH" then trip.commission else 0

def counted (totals : Totals) : WalletCall → Totals
  | .addTripEarning trip =>
    { totals with
      digitalCredits := totals.digitalCredits + creditOf normalized trip
      cashCommissions := totals.cashCommissions + debtOf normalized trip }
  | .requestWithdrawal _ amount => { totals with requested := totals.requested + money amount }
  | .completeWithdrawal _ amount _ => { totals with completed := totals.completed + money amount }
  | _ => totals

structure Observed where
  wallets : Wallets := fun _ => none
  totals : String → Totals := fun _ => {}

def observedStep (seen : Observed) (call : WalletCall) : Observed where
  wallets := walletStep normalized seen.wallets call
  totals :=
    if Accepted normalized seen.wallets call then
      Function.update seen.totals (driverOf call)
        (counted normalized (seen.totals (driverOf call)) call)
    else
      seen.totals

/-- The balances of every driver are what the calls amounted to, and neither reading a wallet nor a
call that raises changes a balance. -/
structure Conserved (seen : Observed) : Prop where
  net : ∀ driverId,
    (balancesOf seen.wallets driverId).available - (balancesOf seen.wallets driverId).due =
      (seen.totals driverId).digitalCredits - (seen.totals driverId).cashCommissions -
        (seen.totals driverId).requested
  pending : ∀ driverId, (balancesOf seen.wallets driverId).pending =
    (seen.totals driverId).requested - (seen.totals driverId).completed
  read : ∀ driverId other,
    balancesOf (walletStep normalized seen.wallets (.getWallet driverId)) other =
      balancesOf seen.wallets other
  raised : ∀ call, ¬ Accepted normalized seen.wallets call → ∀ driverId,
    balancesOf (walletStep normalized seen.wallets call) driverId =
      balancesOf seen.wallets driverId

/-- A trip that is counted does not leave its driver with a digital balance and a commission due
at once. -/
def OneSided (wallets : Wallets) : WalletCall → Prop
  | .addTripEarning trip => Accepted normalized wallets (.addTripEarning trip) →
      ¬ (0 < (balancesOf wallets trip.driverId).digital + creditOf normalized trip ∧
        0 < (balancesOf wallets trip.driverId).due + debtOf normalized trip)
  | _ => True

instance (wallets : Wallets) : DecidablePred (OneSided normalized wallets)
  | .addTripEarning _ => inferInstanceAs (Decidable (_ → ¬ _))
  | .createWallet _ | .getWallet _ | .addTransaction _ _ _ _ _ _ | .requestWithdrawal _ _
  | .completeWithdrawal _ _ _ => .isTrue trivial

def NonnegativeExtras : WalletCall → Prop
  | .addTripEarning trip => 0 ≤ trip.tip ∧ 0 ≤ trip.bonus
  | _ => True

section

variable (b : Balances)

def Balances.refreshed : Balances where
  digital := b.digital
  available := if b.due ≤ b.digital then b.digital - b.due else 0
  due := if b.due ≤ b.digital then 0 else b.due - b.digital
  pending := b.pending

def Balances.earned (trip : TripEarning) : Balances :=
  { b with
    digital := b.digital + creditOf normalized trip, due := b.due + debtOf normalized trip }

def Accepts : WalletCall → Prop
  | .addTripEarning trip => 0 < trip.gross ∧ (0 ≤ trip.commissionRate ∧ trip.commissionRate ≤ 1) ∧
      (normalized trip.paymentMethod = "CASH" ∨ normalized trip.paymentMethod ∈ digitalPayments)
  | .requestWithdrawal _ amount => 0 < money amount ∧ money amount ≤ b.refreshed.available
  | .completeWithdrawal _ amount _ => 0 < money amount ∧ money amount ≤ b.pending
  | _ => True

def moved : WalletCall → Balances
  | .createWallet _ => b
  | .getWallet _ => b.refreshed
  | .addTransaction _ _ _ _ _ _ => b
  | .addTripEarning trip => (b.earned normalized trip).refreshed
  | .requestWithdrawal _ amount =>
    { b.refreshed with
      digital := b.digital - money amount, pending := b.pending + money amount : Balances }.refreshed
  | .completeWithdrawal _ amount _ =>
    { b.refreshed with pending := b.pending - money amount : Balances }.refreshed

def touched : WalletCall → Balances
  | .requestWithdrawal _ _ => b.refreshed
  | .completeWithdrawal _ _ _ => b.refreshed
  | _ => b

theorem balances_refreshed (wallet : LegacyWallet) :
    balances wallet.refreshed = (balances wallet).refreshed := by
  by_cases covered : wallet.cashCommissionDue ≤ wallet.digitalBalance
  · simp [balances, LegacyWallet.refreshed, Balances.refreshed, covered]
  · simp [balances, LegacyWallet.refreshed, Balances.refreshed, covered]

theorem balances_appended (wallet : LegacyWallet) (transactionType : String) (amount : Hundredths)
    (description status : String) (metadata : TransactionMetadata) :
    balances (wallet.appended transactionType amount description status metadata) =
      balances wallet := rfl

theorem driverId_refreshed (wallet : LegacyWallet) :
    wallet.refreshed.driverId = wallet.driverId := by
  unfold LegacyWallet.refreshed
  split <;> rfl

/-- The wallet of each driver is stored under the driver's id. -/
def Keyed (wallets : Wallets) : Prop :=
  ∀ driverId wallet, wallets driverId = some wallet → wallet.driverId = driverId

theorem Keyed.walletOf {wallets : Wallets} (keyed : Keyed wallets) (driverId : String) :
    (walletOf wallets driverId).driverId = driverId := by
  unfold Conservation.walletOf
  cases held : wallets driverId with
  | none => rfl
  | some wallet => exact keyed driverId wallet held

variable {wallets : Wallets} {driverId : String} {returns : LegacyWallet → Wallets → Prop}
  {fails : Core.Values.Failure → Wallets → Prop} {wallet : LegacyWallet} {trip : TripEarning}

theorem wp_save : wp (save wallet) returns fails wallets ↔
      returns wallet (Function.update wallets wallet.driverId (some wallet)) := by
  simp only [save, wp_bind, wp_get, wp_put, wp_pure]

theorem wp_createWallet (holds : returns (walletOf wallets driverId)
      (Function.update wallets driverId (some (walletOf wallets driverId)))) :
    wp (createWallet driverId) returns fails wallets := by
  unfold createWallet
  rw [wp_bind, wp_get]
  unfold walletOf at holds
  cases held : wallets driverId with
  | none =>
    rw [held] at holds
    have same : (newWallet driverId).refreshed = newWallet driverId := rfl
    simp only [wp_save, same]
    exact holds
  | some wallet =>
    rw [held] at holds
    have same : Function.update wallets driverId (some wallet) = wallets :=
      Function.update_eq_self_iff.2 held.symm
    rw [Option.getD_some, same] at holds
    exact wp_pure.2 holds

theorem wp_getWallet (keyed : Keyed wallets) (holds : returns (walletOf wallets driverId).refreshed
      (Function.update wallets driverId (some (walletOf wallets driverId).refreshed))) :
    wp (getWallet driverId) returns fails wallets := by
  unfold getWallet
  rw [wp_bind]
  refine wp_createWallet (wp_save.2 ?_)
  rw [driverId_refreshed, keyed.walletOf, Function.update_idem]
  exact holds

def Writes (wallets : Wallets) (driverId : String) (b : Balances) (after : Wallets) : Prop :=
  ∃ wallet, wallet.driverId = driverId ∧ balances wallet = b ∧
    after = Function.update wallets driverId (some wallet)

theorem writes_of_saved {b : Balances} {first : LegacyWallet} (named : wallet.driverId = driverId)
    (same : balances wallet = b) :
    Writes wallets driverId b (Function.update (Function.update wallets driverId (some first))
      wallet.driverId (some wallet)) := by
  refine ⟨wallet, named, same, ?_⟩
  rw [named, Function.update_idem]

theorem writes_of_read (keyed : Keyed wallets) :
    Writes wallets driverId (balancesOf wallets driverId).refreshed
      (Function.update wallets driverId (some (walletOf wallets driverId).refreshed)) := by
  refine ⟨_, ?_, balances_refreshed _, rfl⟩
  rw [driverId_refreshed, keyed.walletOf]

theorem paid_eq_none {payment : String} :
    wallet.paid payment trip = none ↔ ¬ (payment = "CASH" ∨ payment ∈ digitalPayments) := by
  unfold LegacyWallet.paid
  split
  · simp [*]
  · split <;> simp [*]

theorem balances_of_paid {paid : LegacyWallet}
    (pays : wallet.paid (normalized trip.paymentMethod) trip = some paid) :
    paid.driverId = wallet.driverId ∧ balances paid = (balances wallet).earned normalized trip := by
  unfold LegacyWallet.paid at pays
  unfold balances Balances.earned creditOf debtOf
  split at pays
  · rename_i cash
    obtain rfl := Option.some.inj pays
    simp only [cash, ↓reduceIte, and_self]
  · rename_i apart
    split at pays
    · obtain rfl := Option.some.inj pays
      simp only [apart, ↓reduceIte, add_zero, and_self]
    · cases pays

theorem body_outcome (keyed : Keyed wallets) (call : WalletCall) : wp (call.body normalized)
      (fun _ t => Accepts normalized (balancesOf wallets (driverOf call)) call ∧
        Writes wallets (driverOf call)
          (moved normalized (balancesOf wallets (driverOf call)) call) t)
      (fun _ t => ¬ Accepts normalized (balancesOf wallets (driverOf call)) call ∧
        Writes wallets (driverOf call) (touched (balancesOf wallets (driverOf call)) call) t)
      wallets := by
  cases call with
  | createWallet driverId =>
    exact wp_createWallet ⟨trivial, _, keyed.walletOf driverId, rfl, rfl⟩
  | getWallet => exact wp_getWallet keyed ⟨trivial, writes_of_read keyed⟩
  | addTransaction driverId =>
    refine wp_bind.2 (wp_createWallet (wp_save.2 ⟨trivial, writes_of_saved ?_ rfl⟩))
    exact keyed.walletOf driverId
  | addTripEarning trip =>
    have opened : Writes wallets trip.driverId (balancesOf wallets trip.driverId)
        (Function.update wallets trip.driverId (some (walletOf wallets trip.driverId))) :=
      ⟨_, keyed.walletOf _, rfl, rfl⟩
    refine wp_bind.2 (wp_createWallet ?_)
    simp only [wp_bind, wp_require, wp_demand, wp_save]
    refine ⟨fun positive => ⟨fun rated => ⟨fun paid pays => ?_, fun unknown => ?_⟩,
      fun unrated => ?_⟩, fun unpositive => ?_⟩
    · obtain ⟨named, same⟩ := balances_of_paid normalized pays
      have known : normalized trip.paymentMethod = "CASH" ∨
          normalized trip.paymentMethod ∈ digitalPayments := by
        by_contra unknown
        rw [paid_eq_none.2 unknown] at pays
        cases pays
      refine ⟨⟨positive, rated, known⟩, writes_of_saved ?_ ?_⟩
      · show (paid.earned trip).refreshed.driverId = trip.driverId
        rw [driverId_refreshed]
        exact named.trans (keyed.walletOf _)
      · rw [balances_appended, balances_refreshed]
        show (balances paid).refreshed = _
        rw [same]
        rfl
    · exact ⟨fun accepts => paid_eq_none.1 unknown accepts.2.2, opened⟩
    · exact ⟨fun accepts => unrated accepts.2.1, opened⟩
    · exact ⟨fun accepts => unpositive accepts.1, opened⟩
  | requestWithdrawal driverId amount =>
    refine wp_bind.2 (wp_getWallet keyed ?_)
    simp only [wp_bind, wp_require, wp_save]
    have available : (walletOf wallets driverId).refreshed.availableToCashout =
        (balancesOf wallets driverId).refreshed.available :=
      congrArg Balances.available (balances_refreshed _)
    refine ⟨fun positive => ⟨fun covered => ⟨⟨positive, available ▸ covered⟩, writes_of_saved ?_
      ?_⟩, fun uncovered => ?_⟩, fun unpositive => ?_⟩
    · show LegacyWallet.driverId (LegacyWallet.refreshed _) = driverId
      rw [driverId_refreshed]
      exact (driverId_refreshed _).trans (keyed.walletOf _)
    · rw [balances_appended, balances_refreshed]
      have same := balances_refreshed (walletOf wallets driverId)
      exact congrArg (fun b : Balances => Balances.refreshed
        { b with digital := b.digital - money amount, pending := b.pending + money amount }) same
    · exact ⟨fun accepts => uncovered (available.symm ▸ accepts.2), writes_of_read keyed⟩
    · exact ⟨fun accepts => unpositive accepts.1, writes_of_read keyed⟩
  | completeWithdrawal driverId amount =>
    refine wp_bind.2 (wp_getWallet keyed ?_)
    simp only [wp_bind, wp_require, wp_save]
    have pending : (walletOf wallets driverId).refreshed.pendingCashout =
        (balancesOf wallets driverId).pending :=
      congrArg Balances.pending (balances_refreshed _)
    refine ⟨fun positive => ⟨fun covered => ⟨⟨positive, pending ▸ covered⟩, writes_of_saved ?_ ?_⟩,
      fun uncovered => ?_⟩, fun unpositive => ?_⟩
    · show LegacyWallet.driverId (LegacyWallet.refreshed _) = driverId
      rw [driverId_refreshed]
      exact (driverId_refreshed _).trans (keyed.walletOf _)
    · rw [balances_appended, balances_refreshed]
      have same := balances_refreshed (walletOf wallets driverId)
      exact congrArg (fun b : Balances => Balances.refreshed
        { b with pending := b.pending - money amount }) same
    · exact ⟨fun accepts => uncovered (pending.symm ▸ accepts.2), writes_of_read keyed⟩
    · exact ⟨fun accepts => unpositive accepts.1, writes_of_read keyed⟩

theorem walletStep_writes (keyed : Keyed wallets) (call : WalletCall) :
    (Accepted normalized wallets call ∧
        Accepts normalized (balancesOf wallets (driverOf call)) call ∧
        Writes wallets (driverOf call) (moved normalized (balancesOf wallets (driverOf call)) call)
          (walletStep normalized wallets call)) ∨
      (¬ Accepted normalized wallets call ∧
        Writes wallets (driverOf call) (touched (balancesOf wallets (driverOf call)) call)
          (walletStep normalized wallets call)) := by
  have outcome := body_outcome normalized keyed call
  unfold wp at outcome
  unfold Accepted walletStep
  rcases ended : call.body normalized wallets with ⟨answer, t⟩
  rw [ended] at outcome
  cases answer with
  | ok => exact .inl ⟨rfl, outcome.1, outcome.2⟩
  | error =>
    refine .inr ⟨fun returned => ?_, outcome.2⟩
    cases returned

end

section

variable {wallets t : Wallets} {driverId : String} {b : Balances}

theorem Writes.same (writes : Writes wallets driverId b t) : balancesOf t driverId = b := by
  obtain ⟨wallet, _, same, rfl⟩ := writes
  unfold balancesOf walletOf
  rw [Function.update_self]
  exact same

theorem Writes.other (writes : Writes wallets driverId b t) {other : String}
    (apart : other ≠ driverId) : balancesOf t other = balancesOf wallets other := by
  obtain ⟨wallet, _, _, rfl⟩ := writes
  unfold balancesOf walletOf
  rw [Function.update_of_ne apart]

theorem Writes.keyed (writes : Writes wallets driverId b t) (keyed : Keyed wallets) : Keyed t := by
  obtain ⟨wallet, named, _, rfl⟩ := writes
  intro other held found
  by_cases same : other = driverId
  · rw [same, Function.update_self] at found
    obtain rfl := Option.some.inj found
    rw [same, named]
  · rw [Function.update_of_ne same] at found
    exact keyed other held found

theorem Writes.unchanged (writes : Writes wallets driverId b t)
    (kept : b = balancesOf wallets driverId) (other : String) :
    balancesOf t other = balancesOf wallets other := by
  by_cases same : other = driverId
  · rw [same, writes.same, kept]
  · exact writes.other same

end

section

/-- A wallet whose balances were netted, with one of its two sides empty. -/
structure Settled (b : Balances) : Prop where
  digital : 0 ≤ b.digital
  due : 0 ≤ b.due
  available : b.available = b.digital
  sided : b.digital = 0 ∨ b.due = 0

variable {b : Balances} {call : WalletCall} {seen : Observed} {calls : List WalletCall}

theorem Settled.refreshed (settled : Settled b) : b.refreshed = b := by
  obtain ⟨digital, due, available, sided⟩ := settled
  by_cases covered : b.due ≤ b.digital
  · have none : b.due = 0 := by
      obtain empty | none := sided
      · exact le_antisymm (empty ▸ covered) due
      · exact none
    ext <;> simp [Balances.refreshed, none, available, digital]
  · obtain empty | none := sided
    · have unnetted : ¬ b.due ≤ 0 := empty ▸ covered
      ext <;> simp [Balances.refreshed, unnetted, empty, available]
    · exact absurd (none ▸ digital) covered

structure Accounted (b : Balances) (totals : Totals) : Prop where
  net : b.available - b.due = totals.digitalCredits - totals.cashCommissions - totals.requested
  pending : b.pending = totals.requested - totals.completed

/-- The state of a run in which no wallet had two sides. -/
structure Sound (seen : Observed) : Prop where
  keyed : Keyed seen.wallets
  settled : ∀ driverId, Settled (balancesOf seen.wallets driverId)
  accounted : ∀ driverId,
    Accounted (balancesOf seen.wallets driverId) (seen.totals driverId)

theorem sound_start : Sound {} where
  keyed := fun _ _ held => by cases held
  settled := fun _ => ⟨le_refl _, le_refl _, rfl, .inl rfl⟩
  accounted := fun _ => ⟨rfl, rfl⟩

theorem settled_refreshed (digital : 0 ≤ b.digital) (due : 0 ≤ b.due)
    (sided : b.digital = 0 ∨ b.due = 0) :
    Settled b.refreshed ∧ b.refreshed.available - b.refreshed.due = b.digital - b.due ∧
      b.refreshed.digital = b.digital ∧ b.refreshed.due = b.due := by
  by_cases covered : b.due ≤ b.digital
  · have none : b.due = 0 := by
      obtain empty | none := sided
      · exact le_antisymm (empty ▸ covered) due
      · exact none
    simp only [Balances.refreshed, none, digital, ↓reduceIte, sub_zero, and_self, and_true]
    exact ⟨digital, le_refl _, rfl, .inr rfl⟩
  · have empty : b.digital = 0 := by
      obtain empty | none := sided
      · exact empty
      · exact absurd (none ▸ digital) covered
    have unnetted : ¬ b.due ≤ 0 := empty ▸ covered
    simp only [Balances.refreshed, empty, unnetted, ↓reduceIte, sub_zero, and_self, and_true]
    exact ⟨le_refl _, due, rfl, .inl rfl⟩

theorem earned_nonneg {trip : TripEarning} (extras : NonnegativeExtras (.addTripEarning trip))
    (accepts : Accepts normalized b (.addTripEarning trip)) :
    0 ≤ creditOf normalized trip ∧ 0 ≤ debtOf normalized trip := by
  obtain ⟨positive, ⟨least, most⟩, _⟩ := accepts
  have tip : 0 ≤ trip.tipAmount := money_nonneg extras.1
  have bonus : 0 ≤ trip.bonusAmount := money_nonneg extras.2
  have commission : 0 ≤ trip.commission := by
    apply money_nonneg
    have gross : (0 : ℚ) ≤ trip.gross := by exact_mod_cast le_of_lt positive
    unfold decimal
    positivity
  have bounded : trip.commission ≤ trip.gross := money_mul_le (le_of_lt positive) least most
  have net : 0 ≤ trip.driverNet := by
    unfold TripEarning.driverNet
    rw [money_decimal]
    linarith
  unfold creditOf debtOf
  split
  · exact ⟨bonus, commission⟩
  · exact ⟨net, le_refl _⟩

theorem settled_moved {totals : Totals} (extras : NonnegativeExtras call) (settled : Settled b)
    (accounted : Accounted b totals) (accepts : Accepts normalized b call)
    (sided : ∀ trip, call = .addTripEarning trip →
      ¬ (0 < b.digital + creditOf normalized trip ∧ 0 < b.due + debtOf normalized trip)) :
    Settled (moved normalized b call) ∧
      Accounted (moved normalized b call) (counted normalized totals call) := by
  cases call with
  | createWallet => exact ⟨settled, accounted⟩
  | getWallet =>
    unfold moved
    rw [settled.refreshed]
    exact ⟨settled, accounted⟩
  | addTransaction =>
    exact ⟨settled, accounted⟩
  | addTripEarning trip =>
    obtain ⟨credit, debt⟩ := earned_nonneg normalized extras accepts
    have digital : 0 ≤ b.digital + creditOf normalized trip := add_nonneg settled.digital credit
    have due : 0 ≤ b.due + debtOf normalized trip := add_nonneg settled.due debt
    have one : b.digital + creditOf normalized trip = 0 ∨ b.due + debtOf normalized trip = 0 := by
      have apart := sided trip rfl
      by_contra both
      obtain ⟨credited, charged⟩ := not_or.1 both
      exact apart ⟨lt_of_le_of_ne digital (Ne.symm credited), lt_of_le_of_ne due (Ne.symm charged)⟩
    obtain ⟨netted, net, _, _⟩ :=
      settled_refreshed (b := b.earned normalized trip) digital due one
    refine ⟨netted, ?_, accounted.pending⟩
    show (b.earned normalized trip).refreshed.available -
      (b.earned normalized trip).refreshed.due = _
    rw [net]
    have before := accounted.net
    rw [settled.available] at before
    show b.digital + creditOf normalized trip - (b.due + debtOf normalized trip) = _
    show _ = totals.digitalCredits + creditOf normalized trip -
      (totals.cashCommissions + debtOf normalized trip) - totals.requested
    linarith
  | requestWithdrawal driverId amount =>
    obtain ⟨positive, covered⟩ := accepts
    rw [settled.refreshed, settled.available] at covered
    have digital : 0 ≤ b.digital - money amount := sub_nonneg.2 covered
    have none : b.due = 0 := by
      obtain empty | none := settled.sided
      · exact absurd (lt_of_lt_of_le positive covered) (empty ▸ lt_irrefl _)
      · exact none
    obtain ⟨netted, net, _, _⟩ := settled_refreshed
      (b := { b with digital := b.digital - money amount, pending := b.pending + money amount })
      digital settled.due (.inr none)
    unfold moved
    rw [settled.refreshed]
    have before := accounted.net
    rw [settled.available] at before
    have held := accounted.pending
    refine ⟨netted, ?_, ?_⟩
    · rw [net]
      show b.digital - money amount - b.due =
        totals.digitalCredits - totals.cashCommissions - (totals.requested + money amount)
      linarith
    · show b.pending + money amount = totals.requested + money amount - totals.completed
      linarith
  | completeWithdrawal driverId amount =>
    obtain ⟨netted, net, _, _⟩ := settled_refreshed
      (b := { b with pending := b.pending - money amount }) settled.digital settled.due settled.sided
    unfold moved
    rw [settled.refreshed]
    have before := accounted.net
    rw [settled.available] at before
    have held := accounted.pending
    refine ⟨netted, ?_, ?_⟩
    · rw [net]
      exact before
    · show b.pending - money amount = totals.requested - (totals.completed + money amount)
      linarith

theorem Settled.touched (settled : Settled b) (call : WalletCall) :
    Conservation.touched b call = b := by
  cases call with
  | requestWithdrawal => exact settled.refreshed
  | completeWithdrawal => exact settled.refreshed
  | _ => rfl

theorem Sound.step (extras : NonnegativeExtras call) (sided : OneSided normalized seen.wallets call)
    (sound : Sound seen) : Sound (observedStep normalized seen call) := by
  obtain ⟨accepted, accepts, writes⟩ | ⟨raised, writes⟩ :=
    walletStep_writes normalized sound.keyed call
  · have t : observedStep normalized seen call =
        { wallets := walletStep normalized seen.wallets call,
          totals := Function.update seen.totals (driverOf call)
            (counted normalized (seen.totals (driverOf call)) call) } := by
      unfold observedStep
      rw [if_pos accepted]
    rw [t]
    obtain ⟨settled, accounted⟩ := settled_moved normalized extras (sound.settled (driverOf call))
      (sound.accounted (driverOf call)) accepts (by rintro trip rfl; exact sided accepted)
    refine ⟨writes.keyed sound.keyed, fun driverId => ?_, fun driverId => ?_⟩
    · by_cases same : driverId = driverOf call
      · rw [same, writes.same]
        exact settled
      · rw [writes.other same]
        exact sound.settled driverId
    · show Accounted _ (Function.update seen.totals (driverOf call) _ driverId)
      by_cases same : driverId = driverOf call
      · rw [same, writes.same, Function.update_self]
        exact accounted
      · rw [writes.other same, Function.update_of_ne same]
        exact sound.accounted driverId
  · have t : observedStep normalized seen call =
        { seen with wallets := walletStep normalized seen.wallets call } := by
      unfold observedStep
      rw [if_neg raised]
    rw [t]
    have kept := writes.unchanged ((sound.settled (driverOf call)).touched call)
    refine ⟨writes.keyed sound.keyed, fun driverId => ?_, fun driverId => ?_⟩
    · rw [kept]
      exact sound.settled driverId
    · rw [kept]
      exact sound.accounted driverId

theorem Sound.conserved (sound : Sound seen) : Conserved normalized seen where
  net := fun driverId => (sound.accounted driverId).net
  pending := fun driverId => (sound.accounted driverId).pending
  read := by
    intro driverId other
    obtain ⟨_, _, writes⟩ | ⟨_, writes⟩ :=
      walletStep_writes normalized sound.keyed (.getWallet driverId)
    · exact writes.unchanged (sound.settled driverId).refreshed other
    · exact writes.unchanged rfl other
  raised := by
    intro call raised driverId
    obtain ⟨accepted, _, _⟩ | ⟨_, writes⟩ := walletStep_writes normalized sound.keyed call
    · exact absurd accepted raised
    · exact writes.unchanged ((sound.settled (driverOf call)).touched call) driverId

theorem refreshed_twice (digital : 0 < b.digital) (due : 0 < b.due) :
    b.refreshed.refreshed ≠ b.refreshed := by
  intro same
  have available := congrArg Balances.available same
  have left := congrArg Balances.due same
  by_cases covered : b.due ≤ b.digital
  · simp only [Balances.refreshed, covered, ↓reduceIte, le_of_lt digital, sub_zero] at available
    linarith
  · simp only [Balances.refreshed, covered, ↓reduceIte] at left
    split at left
    · rename_i again
      linarith
    · linarith

theorem getWallet_accepted {wallets : Wallets} (keyed : Keyed wallets) (driverId : String) :
    Accepted normalized wallets (.getWallet driverId) := by
  have outcome := body_outcome normalized keyed (.getWallet driverId)
  unfold wp at outcome
  unfold Accepted
  rcases ended : (WalletCall.getWallet driverId).body normalized wallets with ⟨answer, t⟩
  rw [ended] at outcome
  cases answer with
  | ok => rfl
  | error => exact absurd trivial outcome.1

theorem not_conserved_of_two_sided (sound : Sound seen)
    (sided : ¬ OneSided normalized seen.wallets call) :
    ¬ Conserved normalized (observedStep normalized seen call) := by
  cases call with
  | addTripEarning trip =>
    obtain ⟨accepted, both⟩ := Classical.not_imp.1 sided
    obtain ⟨digital, due⟩ := not_not.1 both
    intro conserved
    obtain ⟨_, _, writes⟩ | ⟨raised, _⟩ :=
      walletStep_writes normalized sound.keyed (.addTripEarning trip)
    · have keyed := writes.keyed sound.keyed
      have read := conserved.read trip.driverId trip.driverId
      obtain ⟨_, _, again⟩ | ⟨unread, _⟩ :=
        walletStep_writes normalized keyed (.getWallet trip.driverId)
      · have twice : (balancesOf (walletStep normalized seen.wallets (.addTripEarning trip))
            trip.driverId).refreshed =
            balancesOf (walletStep normalized seen.wallets (.addTripEarning trip))
              trip.driverId := again.same.symm.trans read
        have once : balancesOf (walletStep normalized seen.wallets (.addTripEarning trip))
            trip.driverId =
            ((balancesOf seen.wallets trip.driverId).earned normalized trip).refreshed :=
          writes.same
        rw [once] at twice
        exact refreshed_twice digital due twice
      · exact unread (getWallet_accepted normalized keyed trip.driverId)
    · exact raised accepted
  | _ => exact absurd trivial sided

theorem conserved_of_along (sound : Sound seen)
    (extras : ∀ call ∈ calls, NonnegativeExtras call) (along : Along (observedStep normalized)
      (fun seen call => OneSided normalized seen.wallets call) seen calls) (n : Nat) :
    Conserved normalized (run (observedStep normalized) seen (calls.take n)) := by
  induction calls generalizing seen n with
  | nil =>
    rw [List.take_nil]
    exact sound.conserved normalized
  | cons call rest ih =>
    cases n with
    | zero => exact sound.conserved normalized
    | succ n =>
      have first := extras call List.mem_cons_self
      exact ih (sound.step normalized first along.1)
        (fun later mem => extras later (List.mem_cons_of_mem call mem)) along.2 n

theorem along_of_conserved (sound : Sound seen) (extras : ∀ call ∈ calls, NonnegativeExtras call)
    (conserved : ∀ n, Conserved normalized (run (observedStep normalized) seen (calls.take n))) :
    Along (observedStep normalized)
      (fun seen call => OneSided normalized seen.wallets call) seen calls := by
  induction calls generalizing seen with
  | nil => trivial
  | cons call rest ih =>
    have first := extras call List.mem_cons_self
    have sided : OneSided normalized seen.wallets call := by
      by_contra apart
      exact not_conserved_of_two_sided normalized sound apart (conserved 1)
    refine ⟨sided, ih (sound.step normalized first sided)
      (fun later mem => extras later (List.mem_cons_of_mem call mem)) fun n => ?_⟩
    exact conserved (n + 1)

/-- In a run, every wallet is conserved at all times exactly when no trip lets a digital balance
and a commission due meet in one wallet. -/
theorem conserved_iff_one_sided (calls : List WalletCall)
    (extras : ∀ call ∈ calls, NonnegativeExtras call) :
    (∀ n, Conserved normalized (run (observedStep normalized) {} (calls.take n))) ↔
      Along (observedStep normalized)
        (fun seen call => OneSided normalized seen.wallets call) {} calls :=
  ⟨along_of_conserved normalized sound_start extras,
    fun along n => conserved_of_along normalized sound_start extras along n⟩

def sampleTrip (driverId paymentMethod : String) : WalletCall :=
  .addTripEarning
    { driverId, rideId := "ride", grossFare := 100, paymentMethod, commissionRate := 3 / 20,
      tip := 0, bonus := 0 }

/-- Two drivers, of whom one is only paid in cash and the other only by card. -/
def sampleCalls : List WalletCall :=
  [sampleTrip "cash" "CASH", .getWallet "cash", sampleTrip "card" "CARD",
   .requestWithdrawal "card" 30, .completeWithdrawal "card" 30 none]

theorem conserved_sampleCalls :
    (∀ n, Conserved id (run (observedStep id) {} (sampleCalls.take n))) ↔
      Along (observedStep id) (fun seen call => OneSided id seen.wallets call) {} sampleCalls :=
  conserved_iff_one_sided id sampleCalls (by unfold sampleCalls sampleTrip; simp [NonnegativeExtras])

/-- A driver with a cash ride and a card ride, whose debt is forgiven by a read. -/
theorem commission_forgiven :
    ¬ ∀ calls : List WalletCall, (∀ call ∈ calls, NonnegativeExtras call) →
      Conserved id (run (observedStep id) {} calls) := by
  intro law
  have conserved := law [sampleTrip "driver" "CASH", sampleTrip "driver" "CARD"]
    (by unfold sampleTrip; simp [NonnegativeExtras])
  have read := conserved.read "driver" "driver"
  revert read
  decide +kernel

end

end Ayo.DriverWallet.Conservation
