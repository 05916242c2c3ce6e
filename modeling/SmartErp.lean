import SmartErp.Foundations.Decimal
import SmartErp.Foundations.Runs
import SmartErp.Foundations.Table
import SmartErp.Foundations.Script
import SmartErp.Foundations.Trim
import SmartErp.Foundations.Rounding
import SmartErp.Foundations.Numerals
import SmartErp.Foundations.Amounts
import SmartErp.Foundations.Quantities
import SmartErp.Foundations.Double
import SmartErp.Foundations.Holdings
import SmartErp.Foundations.Classes
import SmartErp.Foundations.Pattern
import SmartErp.Foundations.Markup
import SmartErp.Foundations.Interleaving
import SmartErp.Foundations.Isolation
import SmartErp.Foundations.Windows
import SmartErp.Failure
import SmartErp.Inventory.Stock
import SmartErp.Inventory.Levels
import SmartErp.Inventory.Safety
import SmartErp.Inventory.Ledger
import SmartErp.Inventory.Reserved
import SmartErp.Inventory.Catalogue
import SmartErp.Inventory.Ownership
import SmartErp.Inventory.Isolation
import SmartErp.Sales.Orders
import SmartErp.Sales.Reservations
import SmartErp.Sales.Confirmation
import SmartErp.Procurement.ThreeWayMatch
import SmartErp.Procurement.Figures
import SmartErp.Procurement.Amounts
import SmartErp.Procurement.Billing
import SmartErp.Procurement.SupplierInvoices
import SmartErp.Procurement.MatchEndpoint
import SmartErp.Auth.Sessions
import SmartErp.Auth.Memberships
import SmartErp.Auth.Tenancy
import SmartErp.Auth.Identity
import SmartErp.Auth.Rotation
import SmartErp.Auth.Lockout
import SmartErp.Auth.Ceiling
import SmartErp.Auth.TenantScope
import SmartErp.Accounting.Invoices
import SmartErp.Accounting.Posting
import SmartErp.Accounting.Liquidation
import SmartErp.Accounting.CreditNotes
import SmartErp.Procurement.GoodsReceipts
import SmartErp.Sso.Configs
import SmartErp.Sso.Saml
import SmartErp.Pec.PassiveParser
import SmartErp.Pec.Documents
import SmartErp.Pec.Reading
import SmartErp.Pec.RightElement
import SmartErp.Pec.Ingest
import SmartErp.Accounting.Numbering
import SmartErp.Accounting.Journal
import SmartErp.Accounting.OutputVat
import SmartErp.Accounting.FatturaPa
import SmartErp.Accounting.Riepilogo
import SmartErp.Accounting.FileNames
import SmartErp.Procurement.Sourcing
import SmartErp.Procurement.Orders
import SmartErp.Procurement.Approvals
import SmartErp.Procurement.Conversions
import SmartErp.Procurement.Awards
import SmartErp.Procurement.Cents
import SmartErp.Procurement.Inspections
import SmartErp.Foundations.Failover
import SmartErp.Foundations.Xml
import SmartErp.Foundations.Elements
import SmartErp.Foundations.Tags
import SmartErp.Foundations.Records
import SmartErp.Foundations.Hundredths
import SmartErp.Webhooks.RetryPolicy
import SmartErp.Webhooks.Delivery
import SmartErp.Conservazione.Orchestrator
import SmartErp.Conservazione.Cascade
import SmartErp.Conservazione.ClientErrors
import SmartErp.Bi.Projections
import SmartErp.Treasury.Psd2
import SmartErp.Treasury.Pain001
import SmartErp.Intrastat.Declarations
import SmartErp.Intrastat.Totals
import SmartErp.Intrastat.Export
import SmartErp.Intrastat.Cessioni
import SmartErp.Sales.Ddts
import SmartErp.Sales.Quotations
import SmartErp.Production.Orders
import SmartErp.Production.Consumption
import SmartErp.Foundations.Regex
import SmartErp.Foundations.Replacement
import SmartErp.Treasury.Iban
import SmartErp.AiCopilot.PiiRedactor
import SmartErp.AiCopilot.Rag
import SmartErp.AiCopilot.Copilot
import SmartErp.AiCopilot.Ibans
import SmartErp.MultiCompany.Companies
import SmartErp.MultiCompany.Consolidation
import SmartErp.Foundations.FirstFit
import SmartErp.Scheduling.Schedule
import SmartErp.Frontend.ServiceWorker
import SmartErp.Treasury.AutoReconciler
import SmartErp.Production.WorkOrders
import SmartErp.Hr.WorkedHours
import SmartErp.Hr.Attendance
import SmartErp.Sales.Pipeline
import SmartErp.Encoders
import SmartErp.Frontend.BarcodeScanner
import SmartErp.Foundations.Spelling
import SmartErp.Metrics
import SmartErp.Foundations.Quoting
import SmartErp.Foundations.Utf16
import SmartErp.Bi.ReportExporter
import SmartErp.Foundations.Pdf
import SmartErp.Compliance.PdfRenderer
import SmartErp.Bi.ReportPdf
import SmartErp.Pec.Outbound
import SmartErp.Pec.Printed
import SmartErp.Pec.RoundTrip
import SmartErp.Foundations.Bytes
import SmartErp.Treasury.Vault
import SmartErp.Foundations.Revisions
import SmartErp.Procurement.InvoiceControl
import SmartErp.Treasury.Reconciliation
import SmartErp.Foundations.Json
import SmartErp.Webhooks.Signing
import SmartErp.Hr.Leave
import SmartErp.Hr.Employees
import SmartErp.Bi.Books
