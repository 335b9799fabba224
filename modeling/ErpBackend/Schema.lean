import ErpBackend.Foundation.Table
import ErpBackend.Catalog.Attributes
import ErpBackend.Consignment.Rules
import ErpBackend.Loans.Rules

/-!
# The database

The rows the modelled services read and write, under the schema's names. Tables
carry their primary key; the other keys and `CHECK`s are tested by the
statements that could break them.
-/

namespace ErpBackend

open Foundation

inductive ConnectionStatus where
  | pending
  | accepted
  | rejected
  | blocked
  deriving DecidableEq, Repr

structure StoreConnection where
  id : Id
  requesterCompanyId : Id
  addresseeCompanyId : Id
  status : ConnectionStatus
  blockedByCompanyId : Option Id := none
  blockedAt : Option Time := none
  blockReason : Option String := none
  requestedById : Option Id := none
  decidedById : Option Id := none
  decidedAt : Option Time := none
  note : Option String := none
  version : Nat := 0
  deriving DecidableEq, Repr

inductive CounterpartyKind where
  | connectedStore
  | manualStore
  | manualPerson
  | employee
  deriving DecidableEq, Repr

structure Counterparty where
  id : Id
  companyId : Id
  kind : CounterpartyKind
  connectedCompanyId : Option Id
  connectionId : Option Id
  isActive : Bool
  name : String := ""
  phone : Option String := none
  city : Option String := none
  deriving DecidableEq, Repr

structure ReceivingAccount where
  id : Id
  companyId : Id
  label : String
  isActive : Bool
  sortOrder : Int := 0
  deriving DecidableEq, Repr

inductive UnitStatus where
  | inStock
  | reserved
  | sold
  | returned
  | inTransit
  | faulty
  | transferredOut
  | consignedOut
  deriving DecidableEq, Repr

/-- `units`: one serialized phone. -/
structure StockUnit where
  id : Id
  companyId : Id
  productId : Id
  branchId : Id
  imeiPrimary : Option String
  imeiSecondary : Option String
  serialNo : Option String
  cost : Int
  status : UnitStatus
  dateSold : Option Time
  purchaseId : Option Id := none
  deriving DecidableEq, Repr

/-- `imeiPrimary ?? serialNo ?? ''`. -/
def StockUnit.identifier (unit : StockUnit) : String :=
  (unit.imeiPrimary.or unit.serialNo).getD ""

inductive TrackingType where
  | imei
  | serial
  | quantity
  deriving DecidableEq

structure Product where
  id : Id
  companyId : Id
  brand : String
  model : String
  variant : Option String
  trackingType : TrackingType
  defaultPrice : Option Int
  barcode : Option String := none
  categoryId : Option Id := none
  specifications : Option Catalog.Fields := none
  defaultCost : Option Int := none
  reorderThreshold : Nat := 0

/-- `[brand, model, variant].filter(Boolean).join(" ")`. -/
def Product.label (product : Product) : String :=
  String.intercalate " "
    ([product.brand, product.model, product.variant.getD ""].filter (fun part => part ≠ ""))

structure ProductCategory where
  id : Id
  companyId : Id
  name : String
  defaultTrackingType : TrackingType
  attributeSchema : List Catalog.AttributeDef := []

structure Branch where
  id : Id
  companyId : Id

/-- `stock_items`, unique on company, product and branch. -/
structure StockItem where
  companyId : Id
  productId : Id
  branchId : Id
  quantity : Int
  cost : Int
  price : Option Int
  reservedQuantity : Int
  version : Nat
  deriving DecidableEq

def StockItem.key (item : StockItem) : Id × Id × Id :=
  (item.companyId, item.productId, item.branchId)

structure UnitPriceOverride where
  id : Id
  companyId : Id
  branchId : Id
  unitId : Id
  price : Int
  version : Nat

structure BranchVariantPrice where
  id : Id
  companyId : Id
  branchId : Id
  productId : Id
  price : Int
  version : Nat

inductive CounterKind where
  | invoice
  | transfer
  deriving DecidableEq

structure BranchCounter where
  companyId : Id
  branchId : Id
  kind : CounterKind
  seq : Nat

def BranchCounter.key (counter : BranchCounter) : Id × CounterKind :=
  (counter.branchId, counter.kind)

/-- `settings`; `value` is `none` when the JSON is no string. -/
structure Setting where
  id : Id
  companyId : Id
  branchId : Option Id
  key : String
  value : Option String

structure CompanySettings where
  companyId : Id
  returnWindowHours : Int

inductive TransferStatus where
  | pendingApproval
  | approved
  | inTransit
  | received
  | rejected
  | cancelled
  deriving DecidableEq

structure StockTransfer where
  id : Id
  companyId : Id
  fromBranchId : Id
  toBranchId : Id
  transferNo : Option String
  status : TransferStatus
  sentById : Option Id
  receivedById : Option Id
  sentAt : Time
  receivedAt : Option Time
  clientUuid : Option Id
  clientRequestHash : Option String
  version : Int
  requestedById : Option Id
  approvedById : Option Id
  approvedAt : Option Time
  autoApproved : Bool
  decisionReason : Option String
  decidedById : Option Id
  decidedAt : Option Time
  deriving DecidableEq

structure TransferItem where
  id : Id
  companyId : Id
  transferId : Id
  unitId : Option Id
  productId : Option Id
  quantity : Int
  shippedUnitCost : Option Int
  deriving DecidableEq

inductive SalePayStatus where
  | paid
  | partially
  | credit
  deriving DecidableEq

inductive PaymentMethod where
  | cash
  | card
  | mobile
  | bank
  | other
  deriving DecidableEq

structure Customer where
  id : Id
  companyId : Id
  balance : Int

structure Sale where
  id : Id
  companyId : Id
  branchId : Id
  userId : Id
  customerId : Option Id
  invoiceNo : String
  soldAt : Time
  subtotal : Int
  discount : Int
  total : Int
  totalCost : Int
  margin : Int
  amountPaid : Int
  balanceDue : Int
  payStatus : SalePayStatus
  returnWindowHours : Int
  returnDeadlineAt : Option Time
  returnPolicyOverriddenById : Option Id
  returnPolicyOverrideReason : Option String
  clientUuid : Option Id
  isReversed : Bool := false
  deriving DecidableEq

structure SaleItem where
  id : Id
  companyId : Id
  saleId : Id
  unitId : Option Id
  productId : Option Id
  quantity : Int
  price : Int
  cost : Int
  discount : Int
  voided : Bool
  deriving DecidableEq

structure Payment where
  id : Id
  companyId : Id
  saleId : Id
  method : PaymentMethod
  amount : Int
  receivingAccountId : Option Id
  accountLabelSnapshot : Option String

structure Supplier where
  id : Id
  companyId : Id
  balance : Int
  deletedAt : Option Time
  deriving DecidableEq

inductive PurchaseStatus where
  | unpaid
  | partially
  | paid
  deriving DecidableEq

structure Purchase where
  id : Id
  companyId : Id
  branchId : Id
  supplierId : Id
  userId : Option Id := none
  referenceNo : Option String := none
  clientUuid : Option Id := none
  clientRequestHash : Option String := none
  date : Time
  total : Int
  amountPaid : Int
  status : PurchaseStatus
  dueDate : Option Day := none
  deriving DecidableEq

structure PurchaseItem where
  id : Id
  companyId : Id
  purchaseId : Id
  productId : Id
  quantity : Int
  unitCost : Int

structure SupplierPayment where
  id : Id
  companyId : Id
  supplierId : Id
  purchaseId : Option Id
  amount : Int
  method : PaymentMethod

inductive SettlementStatus where
  | reported
  | confirmed
  deriving DecidableEq

structure SupplierSettlement where
  id : Id
  companyId : Id
  branchId : Id
  supplierId : Id
  status : SettlementStatus
  amount : Int
  method : Method
  receivingAccountId : Option Id
  accountLabelSnapshot : Option String
  transactionReference : Option String
  note : Option String
  version : Nat
  clientUuid : Id
  clientRequestHash : String
  reportedById : Option Id
  confirmedById : Option Id
  confirmedAt : Option Time
  confirmationDate : Option Day
  deriving DecidableEq

structure SupplierSettlementAllocation where
  id : Id
  companyId : Id
  settlementId : Id
  purchaseId : Id
  amount : Int
  deriving DecidableEq

inductive ReturnStatus where
  | pendingInvestigation
  | underReview
  | approvedRefundDue
  | rejected
  deriving DecidableEq

inductive ReturnResponsibility where
  | pendingInvestigation
  | storeOrProductFault
  | customerDamage
  | other
  deriving DecidableEq

inductive ReturnCustody where
  | customerHolds
  | storeHolds
  | handedBack
  | retainedHold
  deriving DecidableEq

inductive EligibilityReason where
  | noReturnPolicy
  | withinWindow
  | windowExpired
  | alreadyReturned
  | quantityNotSupported
  | saleReversed
  deriving DecidableEq

structure ReturnRequest where
  id : Id
  companyId : Id
  branchId : Id
  saleId : Id
  saleItemId : Id
  unitId : Id
  status : ReturnStatus
  clientUuid : Id
  clientRequestHash : String
  requestedById : Option Id
  requestReason : String
  conditionNotes : Option String
  responsibility : ReturnResponsibility
  responsibilityNotes : Option String
  custody : ReturnCustody
  custodyReceivedAt : Option Time
  custodyReturnedAt : Option Time
  policyWindowHours : Int
  policyDeadlineAt : Option Time
  policyReason : EligibilityReason
  requiresException : Bool
  reviewedById : Option Id
  reviewedAt : Option Time
  decidedById : Option Id
  decidedAt : Option Time
  decisionReason : Option String
  exceptionReason : Option String
  version : Nat
  deriving DecidableEq

inductive AdjustmentKind where
  | screenProtector
  | accessoryRetained
  | restockingFee
  | other
  deriving DecidableEq

structure ReturnAdjustment where
  id : Id
  companyId : Id
  returnRequestId : Id
  kind : AdjustmentKind
  label : String
  quantity : Int
  unitAmount : Int
  totalAmount : Int
  createdById : Option Id
  deriving DecidableEq

structure ReturnReversal where
  id : Id
  companyId : Id
  branchId : Id
  saleId : Id
  saleItemId : Id
  unitId : Id
  returnRequestId : Id
  lineRevenue : Int
  lineCost : Int
  lineMargin : Int
  grossRefund : Int
  adjustmentTotal : Int
  netRefundDue : Int
  approvalDate : Day
  approvedById : Option Id
  deriving DecidableEq

inductive RefundPayoutStatus where
  | reportedPendingConfirmation
  | confirmed
  deriving DecidableEq

structure RefundPayout where
  id : Id
  companyId : Id
  branchId : Id
  returnRequestId : Id
  returnReversalId : Id
  status : RefundPayoutStatus
  netAmountDue : Int
  reportedAmount : Int
  method : Method
  receivingAccountId : Option Id
  accountLabelSnapshot : Option String
  transactionReference : Option String
  note : Option String
  reportedById : Option Id
  confirmedById : Option Id
  confirmedAt : Option Time
  confirmationDate : Option Day
  correctedById : Option Id
  clientUuid : Id
  clientRequestHash : String
  version : Nat
  deriving DecidableEq

inductive CorrectionStatus where
  | requested
  | approved
  | rejected
  deriving DecidableEq

inductive CorrectionKind where
  | refundPayout
  | supplierSettlement
  deriving DecidableEq

structure FinancialCorrection where
  id : Id
  companyId : Id
  branchId : Id
  targetKind : CorrectionKind
  targetRefundPayoutId : Option Id
  targetSupplierSettlementId : Option Id
  status : CorrectionStatus
  reason : String
  supportingReference : Option String
  amount : Int
  method : Method
  accountLabelSnapshot : Option String
  requestedById : Option Id
  decidedById : Option Id
  decidedAt : Option Time
  correctionDate : Option Day
  clientUuid : Id
  clientRequestHash : String
  version : Nat
  deriving DecidableEq

inductive ExpenseStatus where
  | reported
  | confirmed
  | rejected
  deriving DecidableEq

inductive ExpenseClass where
  | variable
  | fixed
  deriving DecidableEq

structure Expense where
  id : Id
  companyId : Id
  branchId : Option Id
  amount : Int
  note : Option String
  status : ExpenseStatus
  expenseClass : ExpenseClass
  isSalary : Bool
  dueDate : Option Day
  method : Method
  receivingAccountId : Option Id
  reasonOmitted : Bool
  confirmedById : Option Id
  confirmedAt : Option Time
  confirmationDate : Option Day
  version : Nat
  category : String := ""
  spentOn : Day := 0
  accountLabelSnapshot : Option String := none
  reference : Option String := none
  reportedById : Option Id := none
  reportedAt : Option Time := none
  rejectedReason : Option String := none
  clientUuid : Option Id := none
  clientRequestHash : Option String := none
  deriving DecidableEq

inductive ClosingStatus where
  | counting
  | counted
  | locked
  deriving DecidableEq

structure DailyClosing where
  id : Id
  companyId : Id
  branchId : Id
  closingDate : Day
  expectedCash : Int
  countedCash : Int
  difference : Int
  totalSales : Int
  totalProfit : Int
  totalReturns : Int := 0
  totalReturnsProfitImpact : Int := 0
  totalReturnAdjustments : Int := 0
  totalReturnsCogsCredited : Int := 0
  refundsPaidTotal : Int := 0
  refundsPaidCash : Int := 0
  correctionsTotal : Int := 0
  correctionsCash : Int := 0
  expensesCash : Int := 0
  supplierPaidTotal : Int := 0
  supplierPaidCash : Int := 0
  status : ClosingStatus
  countedById : Option Id := none
  countedAt : Option Time := none
  version : Nat := 0
  isLocked : Bool
  closedById : Option Id := none
  deriving DecidableEq

inductive Channel where
  | cash
  | account
  deriving DecidableEq

structure ClosingChannelCount where
  id : Id
  companyId : Id
  closingId : Id
  channel : Channel
  receivingAccountId : Option Id
  labelSnapshot : String
  salesIn : Int
  refundsOut : Int
  supplierOut : Int
  expensesOut : Int
  correctionsIn : Int
  expected : Int
  counted : Option Int
  difference : Option Int
  isSkipped : Bool
  skipReason : Option String
  countedById : Option Id
  countedAt : Option Time
  deriving DecidableEq

structure ClosingDiscrepancy where
  id : Id
  companyId : Id
  branchId : Id
  closingId : Id
  channelCountId : Option Id
  amount : Int
  resolvedAt : Option Time := none

structure DailyDigest where
  id : Id
  companyId : Id
  branchId : Id
  closingId : Option Id
  digestDate : Day
  revenue : Int
  costOfGoodsSold : Int
  grossProfit : Int

structure DigestLine where
  id : Id
  companyId : Id
  digestId : Id
  identifier : Option String
  productLabel : Option String
  employeeId : Option Id
  salePrice : Int
  purchaseCost : Int
  profit : Int
  soldAt : Time

structure DayFigures where
  revenue : Int
  cogs : Int
  grossProfit : Int
  salesCount : Nat
  qtySold : Int
  expenses : Int
  netProfit : Int
  returnsRevenue : Int
  returnsCogs : Int
  returnsAdjustments : Int
  returnsGrossProfit : Int
  returnsCount : Nat
  refundsPaidTotal : Int
  refundsPaidCash : Int
  refundsPaidCount : Nat
  correctionsTotal : Int
  correctionsCash : Int
  correctionsCount : Nat
  expensesCash : Int
  expensesCount : Nat
  expensesFixed : Int
  expensesSalary : Int
  deriving DecidableEq

/-- `daily_rollups`, unique on branch and day. -/
structure DailyRollup extends DayFigures where
  id : Id
  companyId : Id
  branchId : Id
  day : Day
  refreshedAt : Time

structure Consignment where
  id : Id
  sourceCompanyId : Id
  sourceBranchId : Id
  destinationCompanyId : Option Id
  counterpartyId : Id
  connectionId : Option Id
  status : Consignments.ConsignmentStatus
  proposedAmount : Option Int
  counterAmount : Option Int
  agreedAmount : Option Int
  disputeReason : Option String
  note : Option String
  proposedById : Option Id
  decidedById : Option Id
  decidedAt : Option Time
  custodySentAt : Option Time
  custodySentById : Option Id
  custodyConfirmedAt : Option Time
  custodyConfirmedById : Option Id
  settledAt : Option Time
  clientUuid : Option Id
  version : Nat
  deriving DecidableEq, Repr

inductive LineStatus where
  | proposed
  | inCustody
  | sold
  | returned
  | cancelled
  deriving DecidableEq, Repr

inductive Disposition where
  | sold
  | returned
  | damaged
  | forgiven
  deriving DecidableEq, Repr

inductive ReturnCondition where
  | good
  | damaged
  deriving DecidableEq, Repr

structure ConsignmentLine where
  id : Id
  consignmentId : Id
  sourceCompanyId : Id
  unitId : Id
  identifier : String
  agreedAmount : Option Int
  status : LineStatus
  disposedAt : Option Time
  disposition : Option Disposition
  returnCondition : Option ReturnCondition
  returnNote : Option String
  deriving DecidableEq, Repr

/-- The generated `active_unit_id` is not null. -/
def ConsignmentLine.open (line : ConsignmentLine) : Bool :=
  line.status = .proposed ∨ line.status = .inCustody

structure ConsignmentLedgerEntry where
  id : Id
  consignmentId : Id
  sourceCompanyId : Id
  destinationCompanyId : Option Id
  kind : Consignments.LedgerKind
  amount : Int
  method : Option Method
  receivingAccountId : Option Id
  accountLabelSnapshot : Option String
  reference : Option String
  evidenceRef : Option String
  reason : Option String
  actingCompanyId : Id
  actingUserId : Option Id
  entryDate : Day
  clientUuid : Option Id
  clientRequestHash : Option String
  refersToId : Option Id
  deriving DecidableEq, Repr

structure Loan where
  id : Id
  companyId : Id
  branchId : Option Id
  counterpartyId : Id
  counterpartyCompanyId : Option Id
  connectionId : Option Id
  direction : Loans.Direction
  status : Loans.LoanStatus
  proposedAmount : Int
  counterAmount : Option Int
  principal : Option Int
  note : Option String
  disputeReason : Option String
  proposedByCompanyId : Id
  proposedById : Option Id
  decidedById : Option Id
  acceptedAt : Option Time
  settledAt : Option Time
  clientUuid : Option Id
  version : Nat
  deriving DecidableEq, Repr

structure LoanLedgerEntry where
  id : Id
  loanId : Id
  companyId : Id
  counterpartyCompanyId : Option Id
  kind : Loans.LedgerKind
  amount : Int
  method : Option Method
  receivingAccountId : Option Id
  accountLabelSnapshot : Option String
  reference : Option String
  evidenceRef : Option String
  reason : Option String
  note : Option String
  actingCompanyId : Id
  actingUserId : Option Id
  entryDate : Day
  clientUuid : Option Id
  clientRequestHash : Option String
  refersToId : Option Id
  deriving DecidableEq, Repr

structure Db where
  storeConnections : Table StoreConnection StoreConnection.id := .empty
  counterparties : Table Counterparty Counterparty.id := .empty
  receivingAccounts : Table ReceivingAccount ReceivingAccount.id := .empty
  branches : Table Branch Branch.id := .empty
  productCategories : Table ProductCategory ProductCategory.id := .empty
  products : Table Product Product.id := .empty
  units : Table StockUnit StockUnit.id := .empty
  stockItems : Table StockItem StockItem.key := .empty
  unitPriceOverrides : Table UnitPriceOverride UnitPriceOverride.id := .empty
  branchVariantPrices : Table BranchVariantPrice BranchVariantPrice.id := .empty
  branchCounters : Table BranchCounter BranchCounter.key := .empty
  settings : Table Setting Setting.id := .empty
  companySettings : Table CompanySettings CompanySettings.companyId := .empty
  stockTransfers : Table StockTransfer StockTransfer.id := .empty
  transferItems : Table TransferItem TransferItem.id := .empty
  customers : Table Customer Customer.id := .empty
  sales : Table Sale Sale.id := .empty
  saleItems : Table SaleItem SaleItem.id := .empty
  payments : Table Payment Payment.id := .empty
  suppliers : Table Supplier Supplier.id := .empty
  purchases : Table Purchase Purchase.id := .empty
  purchaseItems : Table PurchaseItem PurchaseItem.id := .empty
  supplierPayments : Table SupplierPayment SupplierPayment.id := .empty
  supplierSettlements : Table SupplierSettlement SupplierSettlement.id := .empty
  supplierSettlementAllocations :
    Table SupplierSettlementAllocation SupplierSettlementAllocation.id := .empty
  returnRequests : Table ReturnRequest ReturnRequest.id := .empty
  returnAdjustments : Table ReturnAdjustment ReturnAdjustment.id := .empty
  returnReversals : Table ReturnReversal ReturnReversal.id := .empty
  refundPayouts : Table RefundPayout RefundPayout.id := .empty
  financialCorrections : Table FinancialCorrection FinancialCorrection.id := .empty
  expenses : Table Expense Expense.id := .empty
  dailyClosings : Table DailyClosing DailyClosing.id := .empty
  closingChannelCounts : Table ClosingChannelCount ClosingChannelCount.id := .empty
  closingDiscrepancies : Table ClosingDiscrepancy ClosingDiscrepancy.id := .empty
  dailyDigests : Table DailyDigest DailyDigest.id := .empty
  digestLines : Table DigestLine DigestLine.id := .empty
  dailyRollups : Table DailyRollup DailyRollup.id := .empty
  consignments : Table Consignment Consignment.id := .empty
  consignmentLines : Table ConsignmentLine ConsignmentLine.id := .empty
  consignmentLedger : Table ConsignmentLedgerEntry ConsignmentLedgerEntry.id := .empty
  loans : Table Loan Loan.id := .empty
  loanLedger : Table LoanLedgerEntry LoanLedgerEntry.id := .empty

/-- The closing of a store's day: the key is branch and date, the tenant client adds
the company. -/
def findClosing (db : Db) (companyId branchId : Id) (day : Day) : Option DailyClosing :=
  db.dailyClosings.rows.find? (fun closing => closing.branchId = branchId ∧
    closing.closingDate = day ∧ closing.companyId = companyId)

/-- An active counterparty of the company, with the state of its connection. -/
def findCounterparty (db : Db) (me id : Id) :
    Option (Counterparty × Option ConnectionStatus) :=
  ((db.counterparties.find? id).filter
    (fun counterparty => counterparty.companyId = me ∧ counterparty.isActive)).map
    (fun counterparty => (counterparty,
      (counterparty.connectionId.bind db.storeConnections.find?).map StoreConnection.status))

end ErpBackend
