import ErpBackend.Loans.Concurrency
import ErpBackend.Consignment.Custody
import ErpBackend.Consignment.Resolution
import ErpBackend.Inventory.Concurrency
import ErpBackend.Transfers.Versions
import ErpBackend.Suppliers.Concurrency
import ErpBackend.Closing.Concurrency
import ErpBackend.Returns.Supersession
import ErpBackend.Suppliers.Balances
import ErpBackend.Closing.Frozen
import ErpBackend.Scanner.Authority
import ErpBackend.Connections.Hidden
import ErpBackend.Connections.Counterparts
import ErpBackend.Inventory.Inflows
import ErpBackend.Analytics.Handover
import ErpBackend.Analytics.Balances
import ErpBackend.Analytics.CashBlock
import ErpBackend.Goals.Progress
import ErpBackend.Auth.Refresh
import ErpBackend.Auth.Bindings
import ErpBackend.Platform.ContactAttempts
import ErpBackend.Returns.Decided
import ErpBackend.Loans.Reminders
import ErpBackend.Consignment.Payments
import ErpBackend.Pricing.Versions
import ErpBackend.Pricing.Ladder
import ErpBackend.Tenant.Isolation
import ErpBackend.Imports.Csv
import ErpBackend.Consignment.Scans
import ErpBackend.Suppliers.Allocation
import ErpBackend.Transfers.Actions
import ErpBackend.Replays.Lines
import ErpBackend.Sales.Whole
import ErpBackend.Catalog.Paging
import ErpBackend.Billing.HighWater
import ErpBackend.Inventory.AverageCost
import ErpBackend.Scanner.TacResolution
import ErpBackend.Imports.Review
import ErpBackend.Closing.Keys
import ErpBackend.Closing.Resolutions
import ErpBackend.Transfers.Receipts
import ErpBackend.Scanner.Scan
import ErpBackend.Imports.Numbers
import ErpBackend.Analytics.Periods
import ErpBackend.Platform.EntitlementRules
import ErpBackend.Platform.Extensions
import ErpBackend.Sales.InvoiceNumbers
import ErpBackend.LockRetry
import ErpBackend.Imports.CheckDigit
import ErpBackend.CostGating
import ErpBackend.Catalog.Normalised
import ErpBackend.Inventory.Listing
