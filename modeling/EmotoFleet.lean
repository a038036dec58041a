import EmotoFleet.Foundations.Runs
import EmotoFleet.Foundations.Expiring
import EmotoFleet.Foundations.Holders
import EmotoFleet.Foundations.Tiling
import EmotoFleet.Foundations.Tallies
import EmotoFleet.Foundations.Spans
import EmotoFleet.Foundations.Doubles
import EmotoFleet.Telemetry.LiveState
import EmotoFleet.Telemetry.TheftRules
import EmotoFleet.Telemetry.Ingestion
import EmotoFleet.Telemetry.TowAway
import EmotoFleet.Commands.DeviceCommands
import EmotoFleet.Commands.Dispatch
import EmotoFleet.Commands.Transitions
import EmotoFleet.Commands.Copies
import EmotoFleet.Commands.DeadCommands
import EmotoFleet.Commands.TerminalStatuses
import EmotoFleet.Commands.CommandOrder
import EmotoFleet.Commands.LockSafety
import EmotoFleet.Commands.Reachability
import EmotoFleet.Billing.BillingTables
import EmotoFleet.Billing.PaygAudit
import EmotoFleet.Billing.BikeDays
import EmotoFleet.Billing.BillingCycles
import EmotoFleet.Billing.BillingCron
import EmotoFleet.Billing.Generation
import EmotoFleet.Billing.PaygBilling
import EmotoFleet.Billing.Reconciliation
import EmotoFleet.Billing.CycleChanges
import EmotoFleet.Billing.PaymentRows
import EmotoFleet.Billing.Settings
import EmotoFleet.Billing.FinalStatuses
import EmotoFleet.Billing.FuturePeriods
import EmotoFleet.Billing.PaymentPaths
import EmotoFleet.Billing.Registration
import EmotoFleet.Billing.InvoiceStatus
import EmotoFleet.Billing.Suspension
import EmotoFleet.Billing.Calls
import EmotoFleet.Billing.PeriodTiling
import EmotoFleet.Billing.Conservation
import EmotoFleet.Billing.TenantOperations
import EmotoFleet.Billing.Ledger
import EmotoFleet.Billing.MomoGateway
import EmotoFleet.Billing.MomoTransitions
import EmotoFleet.Billing.MomoCredits
import EmotoFleet.Billing.MomoConfirmation
import EmotoFleet.Trips.TripBuilder
import EmotoFleet.Trips.RuntimeState
import EmotoFleet.Trips.TripOrder
import EmotoFleet.Trips.TripHandlers
import EmotoFleet.Trips.RideCounts
import EmotoFleet.Foundations.CivilDates
import EmotoFleet.Foundations.FixedWidth
import EmotoFleet.Telemetry.IsoTimestamps
import EmotoFleet.Telemetry.LiveOrder
import EmotoFleet.Telemetry.ReplayProtection
import EmotoFleet.Foundations.CanonicalJson
import EmotoFleet.Foundations.ObjectSchemas
import EmotoFleet.Telemetry.MqttSignatures
import EmotoFleet.Telemetry.RulesEngine
import EmotoFleet.Telemetry.AlertSuppression
import EmotoFleet.Telemetry.PowerCutTheft
import EmotoFleet.Foundations.Tables
import EmotoFleet.Foundations.WhiteSpace
import EmotoFleet.Events.CrashIncidents
import EmotoFleet.Foundations.Pipelines
import EmotoFleet.Events.PartnerWebhooks
import EmotoFleet.Foundations.Interleavings
import EmotoFleet.Foundations.Overlaps
import EmotoFleet.Accounts.UserIdentities
import EmotoFleet.Accounts.IdentityChecks
import EmotoFleet.Foundations.Views
import EmotoFleet.Access.FleetTables
import EmotoFleet.Access.PartnerReads
import EmotoFleet.Access.PartnerIsolation
import EmotoFleet.Access.InsurerReads
import EmotoFleet.Fleets.DeviceTables
import EmotoFleet.Fleets.DeviceLinks
import EmotoFleet.Trips.TripRoutes
import EmotoFleet.Foundations.Framing
import EmotoFleet.Telemetry.SinoTrack
import EmotoFleet.Telemetry.TcpFraming
import EmotoFleet.Telemetry.SinoTrackBounds
import EmotoFleet.Foundations.RoundedSums
import EmotoFleet.Financials.RiderLedger
import EmotoFleet.Financials.PaymentRecords
import EmotoFleet.Financials.LeaseAccounts
import EmotoFleet.Financials.LeaseAgreement
import EmotoFleet.Financials.Commissions
import EmotoFleet.Financials.Arrears
import EmotoFleet.Deliveries.Deliveries
import EmotoFleet.Deliveries.DeliveryLifecycle
import EmotoFleet.Foundations.ConsumerGroups
import EmotoFleet.Webhooks.WebhookDispatcher
import EmotoFleet.Access.InsurerFeeds
import EmotoFleet.Foundations.Transactions
import EmotoFleet.Riders.BikeAssignments
import EmotoFleet.Accounts.InviteRedemption
import EmotoFleet.Accounts.PromoCodes
import EmotoFleet.Accounts.OneTimeCredentials
import EmotoFleet.Gateway.RateLimits
import EmotoFleet.Accounts.LoginLockout
import EmotoFleet.Evidence.EvidenceFiles
import EmotoFleet.Evidence.EvidencePacks
import EmotoFleet.Foundations.FilePaths
import EmotoFleet.Foundations.PercentEncoding
import EmotoFleet.Streams.StreamProcessor
import EmotoFleet.Financials.FinancialsService
import EmotoFleet.Financials.FinancialsIsolation
import EmotoFleet.Access.InsurerIsolation
import EmotoFleet.Access.InsurerLeaks
import EmotoFleet.Incidents.IncidentActions
import EmotoFleet.Zones.ZoneLimits
import EmotoFleet.Billing.Subscriptions
import EmotoFleet.Billing.OverdueJob
import EmotoFleet.Trips.TripFailures
import EmotoFleet.Telemetry.LastSpeed
import EmotoFleet.Foundations.KeyOrders
import EmotoFleet.Telemetry.CanonicalPayloads
import EmotoFleet.Redis.RedisFallback
import EmotoFleet.Roads.RoadFeatures
import EmotoFleet.Trips.TripSegmentation
import EmotoFleet.Trips.TripDurations
import EmotoFleet.Telemetry.SinoTrackDates
import EmotoFleet.Financials.BatterySwapDetector
import EmotoFleet.Billing.PaygTotals
import EmotoFleet.Foundations.DistinctCounts
import EmotoFleet.Financials.LeasePrice
import EmotoFleet.Financials.PaymentSchedules
import EmotoFleet.Foundations.JobQueues
import EmotoFleet.Incidents.NotificationOutbox
import EmotoFleet.Riders.RiderSos
import EmotoFleet.Evidence.EvidenceWindow
import EmotoFleet.Foundations.Rounding
import EmotoFleet.Trips.TripScores
import EmotoFleet.Messaging.PhoneNumbers
import EmotoFleet.Billing.DiscountCodes
import EmotoFleet.Foundations.Base64
import EmotoFleet.Crypto.DeviceSecrets
import EmotoFleet.Financials.SummaryNumbers
import EmotoFleet.Financials.LedgerSummary
import EmotoFleet.Foundations.Means
import EmotoFleet.Reports.WeeklyCoverage
import EmotoFleet.Billing.RetryKeys
import EmotoFleet.Incidents.OfflineMonitor
import EmotoFleet.Accounts.TeamRoles
import EmotoFleet.Accounts.TeamAuthority
import EmotoFleet.Accounts.FleetManagers
import EmotoFleet.Access.PartnerTokens
import EmotoFleet.Accounts.EmailVerification
import EmotoFleet.Foundations.Paging
import EmotoFleet.Audit.AuditTrail
import EmotoFleet.Foundations.Markup
import EmotoFleet.Messaging.InquiryMail
