import Postral.Reports.Partition
import Postral.Reports.Stuck
import Postral.Reports.Copied
import Postral.Refund.Amounts
import Postral.Refund.Sending
import Postral.Refund.Retry
import Postral.Iyzico.Accepted
import Postral.Operations.Settlement
import Postral.Payments.Safety
import Postral.Lifecycle.Capture
import Postral.Lifecycle.Once
import Postral.Lifecycle.Failure
import Postral.Lifecycle.Stale
import Postral.Orders.Search
import Postral.Iyzico.Initialisation
import Postral.Cleanup.Archive
import Postral.Payments.Regeneration
import Postral.Orders.Invoices
import Postral.Reports.Missing
import Postral.Reports.Expenses
import Postral.Billing.Completeness
import Postral.Setup.Safety
import Postral.Iyzico.Amounts
import Postral.Refund.Allocation
import Postral.Payments.Persisted
import Postral.Payments.Taxes
import Postral.Refund.Plan
import Postral.Iyzico.Verification
import Postral.Setup.Queries
import Postral.Reports.Inflight
import Postral.Accounts.Mapper
import Postral.Accounts.Migration
import Postral.External.Service
import Postral.External.Orders
import Postral.Reports.Quantities
import Postral.Lib.Nullish
import Postral.Lib.Text
import Postral.Reports.Identity
import Postral.Lib.Calendar
import Postral.Reports.Periods
import Postral.Reports.Weekly
import Postral.Reports.Series
import Postral.Lib.Query
import Postral.Payments.Commission
import Postral.Payments.Prices
import Postral.Payments.LinePrices
import Postral.Orders.Grouping
import Postral.Reports.ExpenseKeys
import Postral.Cleanup.Counts
import Postral.Accounts.Snapshots
import Postral.Payments.Snapshots
import Postral.Billing.AtMostOnce
import Postral.Reports.FeeShares
import Postral.Iyzico.Outcome
import Postral.Reports.Atomicity
import Postral.Refund.Command
import Postral.Reports.OrderFree
