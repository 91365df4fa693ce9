import ApiBank.Transition.Run
import ApiBank.Transition.Interleaving
import ApiBank.Accounting.Journal
import ApiBank.Accounting.Prepaid
import ApiBank.Accounting.OnceEach
import ApiBank.Billing.Wallet
import ApiBank.Billing.WalletLedger
import ApiBank.Billing.WalletSessions
import ApiBank.Billing.WalletBalances
import ApiBank.Billing.WalletKeys
import ApiBank.Core.StateMachine
import ApiBank.Core.Matcher
import ApiBank.Core.Polling
import ApiBank.Core.ExactlyOnce
import ApiBank.Orders.Operations
import ApiBank.Orders.Transitions
import ApiBank.Orders.Pairing
import ApiBank.Orders.TopupCredit
import ApiBank.Orders.TopupOrigin
import ApiBank.Orders.Outcomes
import ApiBank.Orders.Announcements
import ApiBank.Webhook.Tenants
import ApiBank.Orders.NameSessions
import ApiBank.Orders.NameExclusivity
import ApiBank.Billing.Subscription
import ApiBank.Billing.PurchaseRetry
import ApiBank.Billing.PlanChanges
import ApiBank.Billing.CouponCaps
import ApiBank.Api.AdminBilling
import ApiBank.Subscriptions.Effective
import ApiBank.Subscriptions.Refunds
import ApiBank.Webhook.Dispatcher
import ApiBank.Webhook.DispatchSessions
import ApiBank.Webhook.Claims
import ApiBank.Webhook.Lifecycle
import ApiBank.Api.OrderRequests
import ApiBank.Api.OrderOnce
import ApiBank.Api.Rematch
import ApiBank.Crypto.Routing
import ApiBank.Crypto.Backing
import ApiBank.Crypto.Spending
import ApiBank.Crypto.Scans
import ApiBank.Crypto.ChainTime
import ApiBank.Auth.IssuanceGate
import ApiBank.Crypto.InvoiceTurns
import ApiBank.Crypto.CallbackRetries
import ApiBank.Crypto.CallbackSignatures
import ApiBank.Crypto.RequestReplays
import ApiBank.Crypto.PayAmounts
import ApiBank.Crypto.CreditStatus
import ApiBank.Crypto.CursorCoverage
import ApiBank.Crypto.DistinctAmounts
import ApiBank.Crypto.FinalStatuses
import ApiBank.Crypto.SlotAccounting
import ApiBank.Text.Integers
import ApiBank.Transition.Leases
import ApiBank.Webhook.Signing
import ApiBank.Worker.GapFree
import ApiBank.Worker.LeaseExclusion
import ApiBank.Notifications.Preferences
import ApiBank.Auth.TotpReplay
import ApiBank.Auth.RecoveryCodes
import ApiBank.Orders.PendingTopups
import ApiBank.Relational.Amounts
import ApiBank.Api.UsageMetering
import ApiBank.Config.Runtime
import ApiBank.Auth.TokenSessions
import ApiBank.Billing.RacedCalls
import ApiBank.Worker.PollKicks
import ApiBank.Worker.TaskRegistry
import ApiBank.Subscriptions.Expiry
import ApiBank.Billing.Discounts
import ApiBank.Relational.Latest
import ApiBank.Billing.PurchaseEffects
import ApiBank.Billing.CouponPreviews
import ApiBank.Billing.PlanPreviews
import ApiBank.Core.ArrivalOrder
import ApiBank.Core.Decoration
import ApiBank.Core.SilentPayments
import ApiBank.Transition.BoundedLoop
import ApiBank.Webhook.DispatchBatch
import ApiBank.Api.TopupStream
import ApiBank.Transition.TwoRuns
import ApiBank.Crypto.MerchantParts
import ApiBank.Crypto.MerchantWrites
import ApiBank.Crypto.TwinStates
import ApiBank.Crypto.TwinRequests
import ApiBank.Crypto.TwinInvoices
import ApiBank.Crypto.NonInterference
import ApiBank.Crypto.ScanProgress
import ApiBank.Transition.Counters
import ApiBank.Numeric.Calendar
import ApiBank.Security.RateLimit
import ApiBank.Billing.Quota
import ApiBank.Banks.DateWindows
import ApiBank.Banks.Credentials
import ApiBank.Banks.History
import ApiBank.Notifications.Mutes
import ApiBank.Config.FieldWrites
import ApiBank.Text.Words
import ApiBank.Text.Hexadecimal
import ApiBank.Relational.Keyset
import ApiBank.Orders.OrderCodes
import ApiBank.Security.IpAllowlists
import ApiBank.Crypto.RawAmounts
import ApiBank.Billing.WalletHistory
import ApiBank.Api.AuditListing
import ApiBank.Numeric.BinaryPolynomials
import ApiBank.Numeric.Crc
import ApiBank.Qr.Checksum
import ApiBank.Text.Tlv
import ApiBank.Qr.VietQr
import ApiBank.Text.Strptime
import ApiBank.Text.Isoformat
import ApiBank.Banks.Timestamps
