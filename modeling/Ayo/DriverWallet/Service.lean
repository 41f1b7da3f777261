/- digest: The legacy driver wallet over its in-memory repository. -/

import Mathlib.Algebra.Order.Floor.Ring
import Mathlib.Data.Rat.Floor
import Mathlib.Logic.Function.Basic
import Ayo.Core.Values
import Ayo.Kernel.Sessions

namespace Ayo.DriverWallet.Service

open Core.Values Kernel.Sessions

/-- A two-place amount, as the number of its hundredths. -/
abbrev Hundredths := Int

def decimal (amount : Hundredths) : ℚ := amount / 100

/-- `money`: quantized to two places, with ties away from zero. -/
def money (value : ℚ) : Hundredths :=
  if 0 ≤ value then ⌊value * 100 + 1 / 2⌋ else -⌊-value * 100 + 1 / 2⌋

inductive TransactionMetadata where
  | supplied (entries : List (String × String))
  | trip (rideId : String) (grossFare commission : Hundredths) (commissionRate : ℚ)
      (tip bonus : Hundredths) (paymentMethod : String) (driverNet : Hundredths)
  | payout (payoutReference : Option String)

structure WalletTransaction where
  (driverId transactionType : String)
  amount : Hundredths
  (currency description status : String)
  metadata : TransactionMetadata

structure LegacyWallet where
  (driverId currency : String)
  (digitalBalance cashCommissionDue availableToCashout pendingCashout todayEarnings : Hundredths)
  (weekEarnings totalEarnings cashCollected onlinePayments tips bonuses commissionPaid : Hundredths)
  (availableBalance pendingBalance : Hundredths)
  transactions : List WalletTransaction

abbrev Wallets := String → Option LegacyWallet

abbrev WalletSession (α : Type) := Session Wallets Failure α

variable (wallet : LegacyWallet)

def save : WalletSession LegacyWallet := do
  let wallets ← get
  put (Function.update wallets wallet.driverId (some wallet))
  pure wallet

/-- `refresh_wallet`. -/
def LegacyWallet.refreshed : LegacyWallet :=
  let netted : LegacyWallet :=
    if wallet.cashCommissionDue ≤ wallet.digitalBalance then
      { wallet with
        availableToCashout := wallet.digitalBalance - wallet.cashCommissionDue
        cashCommissionDue := 0 }
    else
      { wallet with
        availableToCashout := 0
        cashCommissionDue := wallet.cashCommissionDue - wallet.digitalBalance }
  { netted with
    availableBalance := netted.availableToCashout, pendingBalance := netted.pendingCashout }

variable (driverId : String)

def newWallet : LegacyWallet where
  driverId
  currency := "ETB"
  digitalBalance := 0
  cashCommissionDue := 0
  availableToCashout := 0
  pendingCashout := 0
  todayEarnings := 0
  weekEarnings := 0
  totalEarnings := 0
  cashCollected := 0
  onlinePayments := 0
  tips := 0
  bonuses := 0
  commissionPaid := 0
  availableBalance := 0
  pendingBalance := 0
  transactions := []

def createWallet : WalletSession LegacyWallet := do
  let wallets ← get
  match wallets driverId with
  | some existing => pure existing
  | none => save (newWallet driverId).refreshed

def getWallet : WalletSession LegacyWallet := do
  let wallet ← createWallet driverId
  save wallet.refreshed

/-- `_append_transaction`, which puts the newest transaction first. -/
def LegacyWallet.appended (transactionType : String) (amount : Hundredths)
    (description status : String) (metadata : TransactionMetadata) : LegacyWallet :=
  { wallet with
    transactions :=
      { driverId := wallet.driverId, transactionType, amount, currency := wallet.currency,
        description, status, metadata } :: wallet.transactions }

def addTransaction (driverId transactionType : String) (amount : ℚ) (description status : String)
    (metadata : List (String × String)) : WalletSession LegacyWallet := do
  let wallet ← createWallet driverId
  save (wallet.appended transactionType (money amount) description status (.supplied metadata))

structure TripEarning where
  (driverId rideId : String)
  grossFare : ℚ
  paymentMethod : String
  (commissionRate tip bonus : ℚ)

namespace TripEarning

variable (trip : TripEarning)

def gross : Hundredths := money trip.grossFare

def tipAmount : Hundredths := money trip.tip

def bonusAmount : Hundredths := money trip.bonus

def commission : Hundredths :=
  money (decimal trip.gross * trip.commissionRate)

def driverNet : Hundredths :=
  money (decimal (trip.gross - trip.commission + trip.tipAmount + trip.bonusAmount))

end TripEarning

def digitalPayments : List String := ["CARD", "MOBILE_MONEY", "AYO_WALLET"]

def LegacyWallet.paid (wallet : LegacyWallet) (payment : String) (trip : TripEarning) :
    Option LegacyWallet :=
  if payment = "CASH" then
    some
      { wallet with
        cashCollected := wallet.cashCollected + money (decimal (trip.gross + trip.tipAmount))
        cashCommissionDue := wallet.cashCommissionDue + trip.commission
        digitalBalance := wallet.digitalBalance + trip.bonusAmount }
  else if payment ∈ digitalPayments then
    some
      { wallet with
        onlinePayments := wallet.onlinePayments + trip.gross
        digitalBalance := wallet.digitalBalance + trip.driverNet }
  else
    none

def LegacyWallet.earned (wallet : LegacyWallet) (trip : TripEarning) : LegacyWallet :=
  { wallet with
    todayEarnings := wallet.todayEarnings + trip.driverNet
    weekEarnings := wallet.weekEarnings + trip.driverNet
    totalEarnings := wallet.totalEarnings + trip.driverNet
    tips := wallet.tips + trip.tipAmount
    bonuses := wallet.bonuses + trip.bonusAmount
    commissionPaid := wallet.commissionPaid + trip.commission }

def TripEarning.metadata (trip : TripEarning) (payment : String) : TransactionMetadata :=
  .trip trip.rideId trip.gross trip.commission trip.commissionRate trip.tipAmount trip.bonusAmount
    payment trip.driverNet

variable (normalized : String → String)

/-- `add_trip_earning`; `normalized` is `strip` and `upper` on a text. -/
def addTripEarning (trip : TripEarning) : WalletSession LegacyWallet := do
  let wallet ← createWallet trip.driverId
  require (0 < trip.gross) (.value "Gross fare must be greater than zero.")
  require (0 ≤ trip.commissionRate ∧ trip.commissionRate ≤ 1)
    (.value "Commission rate must be between 0 and 1.")
  let paid ← demand (wallet.paid (normalized trip.paymentMethod) trip)
    (.value "Payment method must be CASH, CARD, MOBILE_MONEY, or AYO_WALLET.")
  save ((paid.earned trip).refreshed.appended "TRIP_EARNING" trip.driverNet
    ("Earnings from ride " ++ trip.rideId ++ ".") "COMPLETED"
    (trip.metadata (normalized trip.paymentMethod)))

def requestWithdrawal (driverId : String) (amount : ℚ) : WalletSession LegacyWallet := do
  let wallet ← getWallet driverId
  require (0 < money amount) (.value "Cash-out amount must be greater than zero.")
  require (money amount ≤ wallet.availableToCashout)
    (.value "Insufficient amount available to cash out.")
  let requested : LegacyWallet :=
    { wallet with
      digitalBalance := wallet.digitalBalance - money amount
      pendingCashout := wallet.pendingCashout + money amount }
  save (requested.refreshed.appended "CASHOUT_REQUEST" (-money amount)
    "Driver requested quick cash-out." "PENDING" (.supplied []))

def completeWithdrawal (driverId : String) (amount : ℚ) (payoutReference : Option String) :
    WalletSession LegacyWallet := do
  let wallet ← getWallet driverId
  require (0 < money amount) (.value "Cash-out amount must be greater than zero.")
  require (money amount ≤ wallet.pendingCashout) (.value "Insufficient pending cash-out balance.")
  let completed : LegacyWallet :=
    { wallet with pendingCashout := wallet.pendingCashout - money amount }
  save (completed.refreshed.appended "CASHOUT_COMPLETED" (-money amount)
    "Quick cash-out paid to driver." "COMPLETED" (.payout payoutReference))

inductive WalletCall where
  | createWallet (driverId : String)
  | getWallet (driverId : String)
  | addTransaction (driverId transactionType : String) (amount : ℚ) (description status : String)
      (metadata : List (String × String))
  | addTripEarning (trip : TripEarning)
  | requestWithdrawal (driverId : String) (amount : ℚ)
  | completeWithdrawal (driverId : String) (amount : ℚ) (payoutReference : Option String)

def WalletCall.body : WalletCall → WalletSession LegacyWallet
  | .createWallet driverId => Service.createWallet driverId
  | .getWallet driverId => Service.getWallet driverId
  | .addTransaction driverId transactionType amount description status metadata =>
    Service.addTransaction driverId transactionType amount description status metadata
  | .addTripEarning trip => Service.addTripEarning normalized trip
  | .requestWithdrawal driverId amount => Service.requestWithdrawal driverId amount
  | .completeWithdrawal driverId amount payoutReference =>
    Service.completeWithdrawal driverId amount payoutReference

def walletStep (wallets : Wallets) (call : WalletCall) : Wallets :=
  (call.body normalized wallets).2

def Accepted (wallets : Wallets) (call : WalletCall) : Prop :=
  (call.body normalized wallets).1.isOk = true
deriving Decidable

@[simp] theorem money_decimal (amount : Hundredths) : money (decimal amount) = amount := by
  have floor : ∀ n : ℤ, ⌊(n : ℚ) + 1 / 2⌋ = n := by
    intro n
    rw [Int.floor_intCast_add]
    norm_num
  have scaled : decimal amount * 100 = amount := by
    unfold decimal
    ring
  unfold money
  split
  · rw [scaled, floor]
  · have negated : -decimal amount * 100 = ((-amount : ℤ) : ℚ) := by
      push_cast
      rw [neg_mul, scaled]
    rw [negated, floor, neg_neg]

theorem money_nonneg {value : ℚ} (nonneg : 0 ≤ value) : 0 ≤ money value := by
  unfold money
  rw [if_pos nonneg]
  apply Int.floor_nonneg.2
  positivity

theorem money_mul_le {amount : Hundredths} {rate : ℚ} (nonneg : 0 ≤ amount) (least : 0 ≤ rate)
    (most : rate ≤ 1) : money (decimal amount * rate) ≤ amount := by
  have positive : (0 : ℚ) ≤ amount := by exact_mod_cast nonneg
  have scaled : decimal amount * rate * 100 = amount * rate := by
    unfold decimal
    ring
  have below : (amount : ℚ) * rate ≤ amount := mul_le_of_le_one_right positive most
  unfold money
  rw [if_pos (by unfold decimal; positivity), scaled]
  have lt : ⌊(amount : ℚ) * rate + 1 / 2⌋ < amount + 1 := by
    apply Int.floor_lt.2
    push_cast
    linarith
  exact Int.lt_add_one_iff.1 lt

end Ayo.DriverWallet.Service
