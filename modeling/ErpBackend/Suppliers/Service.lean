import ErpBackend.Foundation.Interleave
import ErpBackend.Suppliers.Payable

/-!
# SuppliersService

Recording a payment and confirming it. `confirm` opens a transaction and then
reads what is outstanding on a connection of its own, so those reads are steps
before the transaction's writes.
-/

namespace ErpBackend.Suppliers

open Foundation

/-- The statement a supplier request is about to run. `confirm` is the write of a
confirmation that has found its payment still payable. -/
inductive Mark where
  | other
  | confirm (settlementId : Id)
  deriving DecidableEq, Repr

abbrev Request (α : Type) := Prog Db Mark Refusal α

structure SettlementAllocationDto where
  purchaseId : Id
  amount : Amount

structure ReportSettlementDto where
  supplierId : Id
  amount : Amount
  method : Method
  receivingAccountId : Option Id := none
  allocations : List SettlementAllocationDto
  transactionReference : Option String := none
  note : Option String := none
  clientUuid : Id

structure ConfirmSettlementDto where
  expectedVersion : Nat

/-- The keys `newUuidV7Bin` hands to one report. -/
structure SettlementIds where
  settlement : Id
  allocation : Nat → Id

structure SettlementView where
  settlement : SupplierSettlement
  allocations : List SupplierSettlementAllocation

def findSupplier (db : Db) (companyId id : Id) : Option Supplier :=
  (db.suppliers.find? id).filter (fun supplier => supplier.companyId = companyId)

def findSettlement (db : Db) (companyId id : Id) : Option SupplierSettlement :=
  (db.supplierSettlements.find? id).filter (fun settlement => settlement.companyId = companyId)

def allocationsOf (db : Db) (settlementId : Id) : List SupplierSettlementAllocation :=
  db.supplierSettlementAllocations.filter (fun allocation =>
    allocation.settlementId = settlementId)

def toInput (allocation : SupplierSettlementAllocation) : AllocationInput :=
  ⟨allocation.purchaseId, allocation.amount⟩

def corrected (db : Db) (settlementId : Id) : Bool :=
  db.financialCorrections.any (fun correction =>
    correction.targetSupplierSettlementId = some settlementId ∧ correction.status = .approved)

def stands (db : Db) (settlement : SupplierSettlement) : Bool :=
  settlement.status = .confirmed ∧ !corrected db settlement.id

/-- `SUM(amount)` of the allocations to a purchase whose payment stands and is `among`
the ones a query joins. -/
def paidTo (db : Db) (among : SupplierSettlement → Bool) (purchaseId : Id) : Int :=
  db.supplierSettlementAllocations.total (fun allocation =>
    if allocation.purchaseId = purchaseId ∧
        (db.supplierSettlements.find? allocation.settlementId).any (fun settlement =>
          among settlement ∧ stands db settlement) then
      allocation.amount
    else 0)

structure PaidOut where
  total : Int
  cash : Int

/-- Payments confirmed for a branch and day; only the cash part left the till. -/
def paidOn (db : Db) (companyId branchId : Id) (day : Day) : PaidOut :=
  let payments := db.supplierSettlements.filter (fun row => row.companyId = companyId ∧
    row.branchId = branchId ∧ row.status = .confirmed ∧ row.confirmationDate = some day)
  { total := (payments.map SupplierSettlement.amount).sum
    cash := ((payments.filter (fun row => row.method = .cash)).map
      SupplierSettlement.amount).sum }

def load (ctx : Ctx) (id : Id) : Request Supplier := do
  let found ← .read .other (fun db => findSupplier db ctx.companyId id)
  .expect (.notFound "Supplier not found") found

def loadSettlement (ctx : Ctx) (id : Id) : Request SupplierSettlement := do
  let found ← .read .other (fun db => findSettlement db ctx.companyId id)
  .expect (.notFound "Payment not found") found

def settlement (ctx : Ctx) (id : Id) : Request SettlementView := do
  let found ← .read .other (fun db => (findSettlement db ctx.companyId id).map (fun row =>
    (⟨row, allocationsOf db row.id⟩ : SettlementView)))
  .expect (.notFound "Payment not found") found

def outstandingOn (paid : Id → Int) (purchase : Purchase) : OutstandingPurchase where
  purchaseId := purchase.id
  total := purchase.total
  paid := paid purchase.id
  outstanding := purchase.total - paid purchase.id
  date := purchase.date

def stillOwed (purchases : List Purchase) (paid : Id → Int) : List OutstandingPurchase :=
  (purchases.map (outstandingOn paid)).filter (fun purchase => 0 < purchase.outstanding)

/-- Every purchase with something still owed on it, oldest first. -/
def openPurchases (ctx : Ctx) (supplierId : Id) : Request (List OutstandingPurchase) := do
  let purchases ← .read .other (fun db => (db.purchases.filter (fun purchase =>
    purchase.companyId = ctx.companyId ∧ purchase.supplierId = supplierId)).insertionSort
      (fun left right => left.date ≤ right.date))
  let paid ← .read .other (fun db => paidTo db (fun row =>
    row.companyId = ctx.companyId ∧ row.supplierId = supplierId))
  pure (stillOwed purchases paid)

def resolveAccount (ctx : Ctx) (method : Method) (accountId : Option Id) (mustBeActive : Bool) :
    Request (Option ReceivingAccount) :=
  match method, accountId with
  | .cash, some _ => .refuse (.badRequest "A cash payment does not name an account")
  | .cash, none => pure none
  | .account, none => .refuse (.badRequest "Choose the account the money went from")
  | .account, some id => do
      let found ← .read .other (fun db =>
        (db.receivingAccounts.find? id).filter (fun account =>
          account.companyId = ctx.companyId))
      let account ← .expect (.notFound "Account not found") found
      .require (mustBeActive = false ∨ account.isActive = true) (.coded "account_inactive"
        (.conflict "That account is no longer active. Choose another, or pay in cash."))
      pure (some account)

def seesMoney (has : Permission → Bool) : Bool :=
  has .supplierManage || has .supplierPaymentConfirm

/-- Outstanding per supplier, derived from purchases minus confirmed payments: the map
the supplier list reads. -/
def outstandingBySupplier (ctx : Ctx) (ids : List Id) : Request (Id → Option Int) :=
  match ids with
  | [] => pure (fun _ => none)
  | ids => do
      let totals ← .read .other (fun db (id : Id) =>
        match db.purchases.filter (fun purchase =>
            purchase.companyId = ctx.companyId ∧ purchase.supplierId = id ∧ id ∈ ids) with
        | [] => none
        | purchases => some (purchases.map Purchase.total).sum)
      let paid ← .read .other (fun db (id : Id) =>
        db.supplierSettlementAllocations.total (fun allocation =>
          if (db.supplierSettlements.find? allocation.settlementId).any (fun row =>
              row.companyId = ctx.companyId ∧ row.supplierId = id ∧ stands db row) then
            allocation.amount
          else 0))
      pure (fun id => match totals id with
        | some total => some (total - paid id)
        | none => if id ∈ ids then some (-paid id) else none)

structure LedgerLine where
  purchaseId : Id
  referenceNo : Option String
  date : Time
  dueDate : Option Day
  branchId : Id
  total : Int
  paid : Int
  outstanding : Int
  status : PurchaseStatus

/-- A payment as the ledger shows it, with the latest correction asked for. -/
structure LedgerPayment where
  view : SettlementView
  correction : Option FinancialCorrection

structure Ledger where
  totalPurchased : Int
  totalConfirmedPaid : Int
  outstanding : Int
  awaitingConfirmation : Int
  purchases : List LedgerLine
  settlements : List LedgerPayment

/-- `paidByPurchase`: every allocation of every confirmed payment. -/
def confirmedOn (payments : List LedgerPayment) (purchaseId : Id) : Int :=
  ((payments.filter (fun payment => payment.view.settlement.status = .confirmed)).map
    (fun payment => ((payment.view.allocations.filter (fun allocation =>
      allocation.purchaseId = purchaseId)).map SupplierSettlementAllocation.amount).sum)).sum

def ledgerLine (payments : List LedgerPayment) (purchase : Purchase) : LedgerLine where
  purchaseId := purchase.id
  referenceNo := purchase.referenceNo
  date := purchase.date
  dueDate := purchase.dueDate
  branchId := purchase.branchId
  total := purchase.total
  paid := confirmedOn payments purchase.id
  outstanding := purchase.total - confirmedOn payments purchase.id
  status := purchaseStatusOf purchase.total (confirmedOn payments purchase.id)

def ledger (purchases : List Purchase) (payments : List LedgerPayment) : Ledger :=
  let lines := purchases.map (ledgerLine payments)
  let amountOf (status : SettlementStatus) : Int :=
    ((payments.filter (fun payment => payment.view.settlement.status = status)).map
      (fun payment => payment.view.settlement.amount)).sum
  { totalPurchased := (lines.map LedgerLine.total).sum
    totalConfirmedPaid := amountOf .confirmed
    outstanding := (lines.map LedgerLine.outstanding).sum
    awaitingConfirmation := amountOf .reported
    purchases := lines
    settlements := payments }

def latestCorrection (db : Db) (settlementId : Id) : Option FinancialCorrection :=
  ((db.financialCorrections.filter (fun row =>
    row.targetSupplierSettlementId = some settlementId)).insertionSort
      (fun left right => right.id ≤ left.id)).head?

def paymentsOf (db : Db) (companyId supplierId : Id) : List LedgerPayment :=
  ((db.supplierSettlements.filter (fun row =>
    row.companyId = companyId ∧ row.supplierId = supplierId)).insertionSort
      (fun left right => right.id ≤ left.id)).map (fun row =>
        ⟨⟨row, allocationsOf db row.id⟩, latestCorrection db row.id⟩)

def purchasesOf (db : Db) (companyId supplierId : Id) : List Purchase :=
  (db.purchases.filter (fun purchase =>
    purchase.companyId = companyId ∧ purchase.supplierId = supplierId)).insertionSort
      (fun left right => left.date ≤ right.date)

def detail (ctx : Ctx) (has : Permission → Bool) (id : Id) :
    Request (Supplier × Option Ledger) := do
  let supplier ← load ctx id
  if !seesMoney has then pure (supplier, none)
  else do
    let purchases ← .read .other (fun db => purchasesOf db ctx.companyId supplier.id)
    let payments ← .read .other (fun db => paymentsOf db ctx.companyId supplier.id)
    pure (supplier, some (ledger purchases payments))

def findReplay (ctx : Ctx) (clientUuid : Id) (fingerprint : String) :
    Request (Option SettlementView) := do
  let prior ← .read .other (fun db => db.supplierSettlements.rows.find? (fun row =>
    row.companyId = ctx.companyId ∧ row.clientUuid = clientUuid))
  match prior with
  | none => pure none
  | some row =>
      .require (row.clientRequestHash = fingerprint)
        (.conflict "This request id was already used for a different payment. Start a new one.")
      let view ← settlement ctx row.id
      pure (some view)

def insertSettlement (row : SupplierSettlement) (db : Db) : Except Refusal Db :=
  if ¬ 0 < row.amount then .error (.constraint "supplier_settlements_amount_positive_chk")
  else if ¬ ((row.method = .account ∧ row.receivingAccountId ≠ none) ∨
      (row.method = .cash ∧ row.receivingAccountId = none)) then
    .error (.constraint "supplier_settlements_method_account_chk")
  else if db.supplierSettlements.any (fun other =>
      other.companyId = row.companyId ∧ other.clientUuid = row.clientUuid) then
    .error (.unique "supplier_settlements_company_id_client_uuid_key")
  else if db.suppliers.find? row.supplierId = none then
    .error (.constraint "supplier_settlements_supplier_id_fkey")
  else db.supplierSettlements.store row (.unique "PRIMARY") (fun supplierSettlements =>
    { db with supplierSettlements })

def insertAllocation (row : SupplierSettlementAllocation) (db : Db) : Except Refusal Db :=
  if ¬ 0 < row.amount then
    .error (.constraint "supplier_settlement_allocations_amount_positive_chk")
  else if db.supplierSettlementAllocations.any (fun other =>
      other.settlementId = row.settlementId ∧ other.purchaseId = row.purchaseId) then
    .error (.unique "supplier_settlement_allocations_settlement_purchase_key")
  else if db.purchases.find? row.purchaseId = none then
    .error (.constraint "supplier_settlement_allocations_purchase_id_fkey")
  else match db.supplierSettlementAllocations.insert? row with
    | none => .error (.unique "PRIMARY")
    | some supplierSettlementAllocations => .ok { db with supplierSettlementAllocations }

def insertAllocations (companyId settlementId : Id) (ids : Nat → Id) :
    Nat → List AllocationInput → Db → Except Refusal Db
  | _, [], db => .ok db
  | index, allocation :: rest, db => do
      let written ← insertAllocation
        { id := ids index
          companyId
          settlementId
          purchaseId := allocation.purchaseId
          amount := allocation.amount } db
      insertAllocations companyId settlementId ids (index + 1) rest written

def reportedSettlement (ctx : Ctx) (branchId id : Id) (dto : ReportSettlementDto)
    (account : Option ReceivingAccount) (fingerprint : String) : SupplierSettlement where
  id := id
  companyId := ctx.companyId
  branchId := branchId
  supplierId := dto.supplierId
  status := .reported
  amount := dto.amount.cents
  method := dto.method
  receivingAccountId := account.map ReceivingAccount.id
  accountLabelSnapshot := account.map ReceivingAccount.label
  transactionReference := dto.transactionReference
  note := dto.note
  version := 0
  clientUuid := dto.clientUuid
  clientRequestHash := fingerprint
  reportedById := ctx.userId
  confirmedById := none
  confirmedAt := none
  confirmationDate := none

def writeReport (companyId : Id) (ids : SettlementIds) (row : SupplierSettlement)
    (allocations : List AllocationInput) (db : Db) : Except Refusal (Db × Unit) := do
  let recorded ← insertSettlement row db
  let written ← insertAllocations companyId row.id ids.allocation 0 allocations recorded
  .ok (written, ())

/-- A concurrent replay loses the unique race; the winner's payment is the answer. -/
def recover (ctx : Ctx) (clientUuid : Id) (fingerprint : String) (refusal : Refusal) :
    Request SettlementView := do
  if refusal.kind = .unique then
    let winner ← findReplay ctx clientUuid fingerprint
    .expect refusal winner
  else .refuse refusal

def report (ctx : Ctx) (ids : SettlementIds) (dto : ReportSettlementDto) :
    Request SettlementView := do
  let branchId ← .expect branchRequired ctx.branchId
  let supplier ← load ctx dto.supplierId
  .require (supplier.deletedAt = none) (.coded "supplier_inactive" (.conflict
    "That supplier is no longer active. Reactivate it before recording a payment."))
  let allocations := dto.allocations.map (fun allocation =>
    (⟨allocation.purchaseId, allocation.amount.cents⟩ : AllocationInput))
  let fingerprint := settlementFingerprint dto.supplierId dto.amount.cents dto.method
    dto.receivingAccountId allocations
  let replay ← findReplay ctx dto.clientUuid fingerprint
  match replay with
  | some view => pure view
  | none =>
    let owed ← openPurchases ctx dto.supplierId
    .liftExcept (assertAllocationFits dto.amount.cents allocations owed)
    let account ← resolveAccount ctx dto.method dto.receivingAccountId true
    let row := reportedSettlement ctx branchId ids.settlement dto account fingerprint
    let created ← .attempt .other (writeReport ctx.companyId ids row allocations)
    match created with
    | .ok () => settlement ctx ids.settlement
    | .error refusal => recover ctx dto.clientUuid fingerprint refusal

structure CorrectSettlementDto where
  expectedVersion : Nat
  method : Option Method := none
  receivingAccountId : Option Id := none
  transactionReference : Option String := none
  note : Option String := none
  allocations : Option (List SettlementAllocationDto) := none

def amendedText (given kept : Option String) : Option String :=
  match given with
  | none => kept
  | some text => if text = "" then none else some text

/-- How the payment was made changes, never its amount or its parties. -/
def amended (method : Method) (account : Option ReceivingAccount) (dto : CorrectSettlementDto)
    (row : SupplierSettlement) : SupplierSettlement :=
  { row with
    method
    receivingAccountId := account.map ReceivingAccount.id
    accountLabelSnapshot :=
      if dto.receivingAccountId.isSome ∨ method = .cash then account.map ReceivingAccount.label
      else row.accountLabelSnapshot
    transactionReference := amendedText dto.transactionReference row.transactionReference
    note := amendedText dto.note row.note
    version := row.version + 1 }

theorem amended_id (method : Method) (account : Option ReceivingAccount)
    (dto : CorrectSettlementDto) (row : SupplierSettlement) :
    (amended method account dto row).id = row.id := rfl

def writeCorrection (ctx : Ctx) (ids : Nat → Id) (row : SupplierSettlement)
    (dto : CorrectSettlementDto) (method : Method) (account : Option ReceivingAccount)
    (allocations : Option (List AllocationInput)) (db : Db) : Except Refusal Db :=
  match db.supplierSettlements.swap? row.id
      (fun current => current.companyId = ctx.companyId ∧
        current.version = dto.expectedVersion ∧ current.status = .reported)
      (amended method account dto) (amended_id method account dto) with
  | none => .error (.coded "refresh_required"
      (.conflict "Someone else changed this payment. Refresh and try again."))
  | some supplierSettlements =>
    match allocations with
    | none => .ok { db with supplierSettlements }
    | some allocations =>
        insertAllocations ctx.companyId row.id ids 0 allocations
          { db with
            supplierSettlements
            supplierSettlementAllocations :=
              db.supplierSettlementAllocations.delete (fun allocation =>
                allocation.companyId = ctx.companyId ∧ allocation.settlementId = row.id) }

/-- A new split is checked against what is owed; no split leaves the old one. -/
def resplit (ctx : Ctx) (row : SupplierSettlement) :
    Option (List SettlementAllocationDto) → Request (Option (List AllocationInput))
  | none => pure none
  | some split => do
      let allocations := split.map (fun allocation =>
        (⟨allocation.purchaseId, allocation.amount.cents⟩ : AllocationInput))
      let owed ← openPurchases ctx row.supplierId
      .liftExcept (assertAllocationFits row.amount allocations owed)
      pure (some allocations)

def correct (ctx : Ctx) (ids : Nat → Id) (id : Id) (dto : CorrectSettlementDto) :
    Request SettlementView := do
  let row ← loadSettlement ctx id
  .require (row.status ≠ .confirmed) (.coded "already_confirmed"
    (.conflict "This payment has been confirmed and cannot be changed."))
  let method := dto.method.getD row.method
  let account ← resolveAccount ctx method
    (dto.receivingAccountId.or (if method = .account then row.receivingAccountId else none))
    dto.receivingAccountId.isSome
  let allocations ← resplit ctx row dto.allocations
  .commit .other (writeCorrection ctx ids row dto method account allocations)
  settlement ctx id

def confirmed (ctx : Ctx) (row : SupplierSettlement) : SupplierSettlement :=
  { row with
    status := .confirmed
    confirmedById := ctx.userId
    confirmedAt := some ctx.now
    confirmationDate := some ctx.today
    version := row.version + 1 }

theorem confirmed_id (ctx : Ctx) (row : SupplierSettlement) :
    (confirmed ctx row).id = row.id := rfl

/-- The projection on a purchase, recomputed from the allocations. -/
def refreshPurchase (companyId purchaseId : Id) (db : Db) : Except Refusal Db :=
  let total := (((db.purchases.find? purchaseId).filter (fun purchase =>
    purchase.companyId = companyId)).map Purchase.total).getD 0
  let paid := paidTo db (fun row => row.companyId = companyId) purchaseId
  match db.purchases.swap? purchaseId (fun purchase => purchase.companyId = companyId)
      (fun purchase =>
        { purchase with amountPaid := paid, status := purchaseStatusOf total paid })
      (fun _ => rfl) with
  | none => .error (.internal "No record was found for an update.")
  | some purchases => .ok { db with purchases }

def refreshPurchases (companyId : Id) :
    List SupplierSettlementAllocation → Db → Except Refusal Db
  | [], db => .ok db
  | allocation :: rest, db => do
      let refreshed ← refreshPurchase companyId allocation.purchaseId db
      refreshPurchases companyId rest refreshed

def writeConfirmation (ctx : Ctx) (row : SupplierSettlement) (expectedVersion : Nat)
    (allocations : List SupplierSettlementAllocation) (db : Db) : Except Refusal Db :=
  match db.supplierSettlements.swap? row.id
      (fun current => current.companyId = ctx.companyId ∧ current.version = expectedVersion ∧
        current.status = .reported) (confirmed ctx) (confirmed_id ctx) with
  | none => .error (.coded "refresh_required"
      (.conflict "Someone else acted on this payment. Refresh and try again."))
  | some supplierSettlements =>
    match db.suppliers.swap? row.supplierId (fun supplier => supplier.companyId = ctx.companyId)
        (fun supplier => { supplier with balance := supplier.balance - row.amount })
        (fun _ => rfl) with
    | none => .error (.internal "No record was found for an update.")
    | some suppliers =>
        refreshPurchases ctx.companyId allocations { db with supplierSettlements, suppliers }

def confirm (ctx : Ctx) (id : Id) (dto : ConfirmSettlementDto) : Request SettlementView := do
  let row ← loadSettlement ctx id
  .require (row.status ≠ .confirmed) (.coded "already_confirmed"
    (.conflict "This payment has already been confirmed."))
  let closed ← .read .other (fun db => (db.dailyClosings.rows.find? (fun closing =>
    closing.companyId = ctx.companyId ∧ closing.branchId = row.branchId ∧
      closing.closingDate = ctx.today ∧ closing.isLocked)))
  .require (closed = none) (.coded "day_locked" (.conflict (renderDay ctx.today ++
    " is already closed for this branch. Confirm this payment tomorrow, or ask the owner to review the closing.")))
  let allocations ← .read .other (fun db => (allocationsOf db row.id).filter (fun allocation =>
    allocation.companyId = ctx.companyId))
  let owed ← openPurchases ctx row.supplierId
  .liftExcept (assertStillPayable (allocations.map toInput) owed)
  .commit (.confirm row.id) (writeConfirmation ctx row dto.expectedVersion allocations)
  settlement ctx id

end ErpBackend.Suppliers
