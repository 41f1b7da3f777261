import Ayo.Payment.Cancellation
import Ayo.Payment.CallbackReplay
import Ayo.Refund.Retries
import Ayo.Refund.Approvals
import Ayo.FinancialControl.HistoryPath
import Ayo.Settlement.SingleSettlement
import Ayo.Settlement.Reruns
import Ayo.Persistence.OwnWalletEntry
import Ayo.Persistence.PaymentCredits
import Ayo.Pricing.Reconstruction
import Ayo.PostTrip.FareEntries
import Ayo.PostTrip.CurrentFare
import Ayo.ArrivalWaiting.FullWait
import Ayo.ArrivalWaiting.Invalidated
import Ayo.PostTrip.CashNeverSettled
import Ayo.PostTrip.OpenReceivables
import Ayo.ActiveRides.RetriedCommands
import Ayo.ActiveRides.Recovery
import Ayo.ActiveRides.PickupPins
import Ayo.Scheduled.StateChanges
import Ayo.Scheduled.SoftPlans
import Ayo.Scheduled.PickupCodes
import Ayo.Scheduled.BookingWindow
import Ayo.Ledger.ReplayView
import Ayo.Dispatch.RankOrder
import Ayo.ActiveRides.AlertCooldown
import Ayo.Marketplace.Opportunities
import Ayo.Handoff.LateAssignments
import Ayo.Handoff.Reachability
import Ayo.RateLimit.BucketBound
import Ayo.PersistenceKernel.OutboxLeases
import Ayo.Authentication.RefusedRefreshes
import Ayo.Accounts.LockOut
import Ayo.Accounts.Authority
import Ayo.Accounts.SingleRecovery
import Ayo.Accounts.RotationBound
import Ayo.ArrivalWaiting.ReadinessReminders
import Ayo.CourierDispatch.NamedCommands
import Ayo.DriverWallet.Conservation
import Ayo.CustomerProfile.PassengerAuthority
import Ayo.Custody.ReadyOrders
import Ayo.MerchantOrders.Agreement
import Ayo.Pricing.FareBounds
import Ayo.ArrivalWaiting.PolicyChoice
import Ayo.Settlement.BlockedReadiness
import Ayo.PostTrip.CashInstructions
import Ayo.Dispatch.Service
import Ayo.FieldOperations.PartnersInForce
import Ayo.FieldOperations.ThreePeople
import Ayo.RequestAccess.Provenance
import Ayo.MerchantOrders.FrozenOrders
import Ayo.DriverTrust.Renewals
import Ayo.RideRequests.FirstZone
import Ayo.ServiceAreas.Overlaps
import Ayo.MerchantOrders.AvailabilityEvidence
import Ayo.FieldPerformance.Readiness
import Ayo.CustomerProfile.Profiles
