import BillingEngine.Common.Runs
import BillingEngine.Common.Interleaving
import BillingEngine.Common.Traces
import BillingEngine.Common.Unwinding
import BillingEngine.Common.Reservations
import BillingEngine.Common.Ledger
import BillingEngine.Common.Mirror
import BillingEngine.Common.Rows
import BillingEngine.Python.Exceptions
import BillingEngine.Python.Uuid
import BillingEngine.Python.Json
import BillingEngine.Python.DateTime
import BillingEngine.Model.Constants
import BillingEngine.Model.Tables
import BillingEngine.Model.Schemas
import BillingEngine.Model.Repositories
import BillingEngine.Services.Usage
import BillingEngine.Services.Billing
import BillingEngine.Services.Stripe
import BillingEngine.Services.Checkout
import BillingEngine.Services.Accounts
import BillingEngine.Services.Reconciliation
import BillingEngine.Common.Rounding
import BillingEngine.Services.Cost
import BillingEngine.System.Concurrent
import BillingEngine.System.Calls
import BillingEngine.System.Serializable
import BillingEngine.Metering.ExactlyOnce
import BillingEngine.Invoicing.OnePerPeriod
import BillingEngine.Invoicing.Duplicates
import BillingEngine.Metering.Quota
import BillingEngine.Metering.QuotaRace
import BillingEngine.Metering.Overshoot
import BillingEngine.Metering.Retries
import BillingEngine.Webhooks.Atomicity
import BillingEngine.Webhooks.OnePerTenant
import BillingEngine.Webhooks.Duplicates
import BillingEngine.Webhooks.Deliveries
import BillingEngine.Webhooks.Cancellation
import BillingEngine.System.Serial
import BillingEngine.Metering.MonthlyQuota
import BillingEngine.Metering.Typing
import BillingEngine.Metering.Replay
import BillingEngine.Metering.Success
import BillingEngine.Invoicing.Snapshot
import BillingEngine.Reconcile.Agreement
import BillingEngine.Webhooks.PlanPrice
import BillingEngine.System.StripeSync
import BillingEngine.System.SubscriptionRows
import BillingEngine.System.Counters
import BillingEngine.System.Refinement
import BillingEngine.Invoicing.Stability
import BillingEngine.Invoicing.QuotaBound
import BillingEngine.Metering.StatusGate
import BillingEngine.Reconcile.LostUpdate
import BillingEngine.Api.Endpoints
import BillingEngine.Api.Router
import BillingEngine.Tenancy.OwnRows
import BillingEngine.Tenancy.Noninterference
import BillingEngine.Tenancy.Views
import BillingEngine.Tenancy.Footprint
import BillingEngine.Tenancy.Purge
import BillingEngine.Metering.Decision
import BillingEngine.Metering.Tiling
import BillingEngine.Invoicing.Overflow
import BillingEngine.Reconcile.RunOnce
import BillingEngine.Webhooks.Frame
import BillingEngine.Api.Failures
import BillingEngine.Pricing.Blocks
import BillingEngine.Pricing.CacheHits
import BillingEngine.Pricing.RollupCost
import BillingEngine.Common.Relational
import BillingEngine.Common.Statements
import BillingEngine.Common.Scripts
import BillingEngine.Common.Records
import BillingEngine.Migrations.Revisions
import BillingEngine.Migrations.Upgrades
import BillingEngine.Migrations.Reversible
import BillingEngine.Migrations.Head
import BillingEngine.Migrations.Legacy
import BillingEngine.Migrations.Mapping
import BillingEngine.Migrations.SecondBill
import BillingEngine.Migrations.Commands
import BillingEngine.Scripts.Seed
