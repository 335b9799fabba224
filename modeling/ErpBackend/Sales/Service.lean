import ErpBackend.Sales.Rules

/-!
# SalesService.createSale

One transaction at `REPEATABLE READ`. Its reads see the snapshot of its first
read; its writes are current, lock what they touch and take effect together. So
the transaction is two steps: the snapshot, and the writes.
-/

namespace ErpBackend.Sales

open Foundation Inventory

structure SaleLineDto where
  identifier : Option String := none
  productId : Option Id := none
  quantity : Option Count := none
  price : Option Money := none
  discount : Option Money := none

structure PaymentInputDto where
  method : PaymentMethod
  amount : Amount
  receivingAccountId : Option Id := none

structure CreateSaleDto where
  lines : List SaleLineDto
  filled : lines ≠ [] := by exact List.cons_ne_nil _ _
  payments : List PaymentInputDto
  customerId : Option Id := none
  saleDiscount : Option Money := none
  overrideReason : Option String := none
  returnWindowHours : Option Int := none
  returnPolicyReason : Option String := none
  clientUuid : Option Id := none

/-- `Boolean(identifier)`: present and not empty. -/
def SaleLineDto.scanned (line : SaleLineDto) : Option String :=
  line.identifier.filter (· ≠ "")

structure PreparedLine where
  unitId : Option Id
  productId : Id
  quantity : Int
  price : Int
  discount : Int
  cost : Int

structure SaleResponse where
  id : Id
  invoiceNo : String
  total : Int
  margin : Int
  balanceDue : Int
  payStatus : SalePayStatus
  soldAt : Time
  windowHours : Int
  deadlineAt : Option Time

def toResponse (sale : Sale) : SaleResponse where
  id := sale.id
  invoiceNo := sale.invoiceNo
  total := sale.total
  margin := sale.margin
  balanceDue := sale.balanceDue
  payStatus := sale.payStatus
  soldAt := sale.soldAt
  windowHours := sale.returnWindowHours
  deadlineAt := sale.returnDeadlineAt

def findSellable (db : Db) (companyId : Id) (identifier : String) : Option StockUnit :=
  db.units.rows.find? (fun unit => unit.companyId = companyId ∧
    (unit.imeiPrimary = some identifier ∨ unit.imeiSecondary = some identifier ∨
      unit.serialNo = some identifier))

def prepareUnit (companyId branchId : Id) (db : Db) (line : SaleLineDto) (identifier : String) :
    Except Refusal PreparedLine := do
  match findSellable db companyId identifier with
  | none => .error (.notFound ("Unit not found: " ++ identifier))
  | some unit =>
    assertSellable unit branchId
    let resolved := resolveSerialized branchId unit.branchId
      (findOverride db companyId unit.id)
      (findBranchVariant db companyId unit.productId branchId)
      ((db.products.find? unit.productId).bind Product.defaultPrice)
    let price ← resolvePrice line.price resolved.price
    .ok
      { unitId := some unit.id
        productId := unit.productId
        quantity := 1
        price
        discount := (line.discount.map Money.cents).getD 0
        cost := unit.cost }

def prepareStock (companyId branchId : Id) (db : Db) (line : SaleLineDto) (productId : Id) :
    Except Refusal PreparedLine := do
  let quantity := (line.quantity.map Count.value).getD 1
  match db.stockItems.find? (companyId, productId, branchId) with
  | none => .error (.conflict "Only 0 available to sell")
  | some stock =>
    let available := stock.quantity - stock.reservedQuantity
    if available < quantity then
      .error (.conflict ("Only " ++ toString (max available 0) ++ " available to sell"))
    else
      let resolved := resolveQuantity
        (stock.price.map (fun price => ⟨price, stock.version⟩))
        ((db.products.find? productId).bind Product.defaultPrice)
      let price ← resolvePrice line.price resolved.price
      .ok
        { unitId := none
          productId
          quantity
          price
          discount := (line.discount.map Money.cents).getD 0
          cost := stock.cost }

def prepareLine (companyId branchId : Id) (db : Db) (line : SaleLineDto) :
    Except Refusal PreparedLine :=
  match line.scanned with
  | some identifier => prepareUnit companyId branchId db line identifier
  | none => prepareStock companyId branchId db line (line.productId.getD 0)

def prepareLines (companyId branchId : Id) (db : Db) :
    List SaleLineDto → Except Refusal (List PreparedLine)
  | [] => .ok []
  | line :: rest => do
      let prepared ← prepareLine companyId branchId db line
      let others ← prepareLines companyId branchId db rest
      .ok (prepared :: others)

structure Totals where
  subtotal : Int
  discount : Int
  total : Int
  totalCost : Int
  margin : Int

def totalsOf (prepared : List PreparedLine) (saleDiscount : Option Money) : Totals :=
  let subtotal := (prepared.map (fun line => line.price * line.quantity)).sum
  let discount := (prepared.map PreparedLine.discount).sum +
    (saleDiscount.map Money.cents).getD 0
  let total := subtotal - discount
  let totalCost := (prepared.map (fun line => line.cost * line.quantity)).sum
  ⟨subtotal, discount, total, totalCost, total - totalCost⟩

structure Draft where
  lines : List PreparedLine
  totals : Totals
  paid : PaymentReconciliation
  window : ResolvedWindow
  policy : ReturnPolicySnapshot
  accounts : List (PaymentInputDto × Option ReceivingAccount)

def accountFor (companyId : Id) (db : Db) (payment : PaymentInputDto) :
    Option ReceivingAccount :=
  if payment.method = .cash then none
  else (payment.receivingAccountId.bind db.receivingAccounts.find?).filter
    (fun account => account.companyId = companyId)

def draftSale (ctx : Ctx) (has : Permission → Bool) (branchId : Id) (dto : CreateSaleDto)
    (db : Db) : Except Refusal Draft := do
  let lines ← prepareLines ctx.companyId branchId db dto.lines
  let totals := totalsOf lines dto.saleDiscount
  if totals.total < 0 then .error (.badRequest "Discount exceeds subtotal")
  else
    assertBelowCostAllowed totals.margin (has .discountOverride) dto.overrideReason
    let paid ← reconcilePayments (dto.payments.map PaymentInputDto.amount) totals.total
    assertCreditHasCustomer paid.payStatus dto.customerId
    let defaultHours := ((db.companySettings.find? ctx.companyId).map
      CompanySettings.returnWindowHours).getD noReturns
    let window ← resolveWindowForSale defaultHours dto.returnWindowHours dto.returnPolicyReason
      (has .returnPolicyOverride)
    let policy ← snapshotPolicy ctx.now window.windowHours
    .ok
      { lines
        totals
        paid
        window
        policy
        accounts := dto.payments.map (fun payment =>
          (payment, accountFor ctx.companyId db payment)) }

structure SaleIds where
  sale : Id
  items : Nat → Id
  payments : Nat → Id

def insertSale (sale : Sale) (db : Db) : Except Refusal Db :=
  if db.sales.any (fun other => other.branchId = sale.branchId ∧
      other.invoiceNo = sale.invoiceNo) then
    .error (.unique "sales_branch_id_invoice_no_key")
  else if sale.clientUuid ≠ none ∧ db.sales.any (fun other =>
      other.companyId = sale.companyId ∧ other.clientUuid = sale.clientUuid) then
    .error (.unique "sales_company_id_client_uuid_key")
  else if sale.customerId.any (fun id => (db.customers.find? id).isNone) then
    .error (.constraint "sales_customer_id_fkey")
  else db.sales.store sale (.unique "PRIMARY") (fun sales => { db with sales })

def insertSaleItem (item : SaleItem) (db : Db) : Except Refusal Db :=
  if item.unitId ≠ none ∧ db.saleItems.any (fun other =>
      other.voided = false ∧ other.unitId = item.unitId) then
    .error (.unique "ux_saleitem_active_unit")
  else match db.saleItems.insert? item with
    | none => .error (.unique "PRIMARY")
    | some saleItems => .ok { db with saleItems }

def claimUnit (companyId unitId : Id) (now : Time) (db : Db) : Except Refusal Db :=
  match db.units.swap? unitId
      (fun unit => unit.companyId = companyId ∧ unit.status = .inStock)
      (fun unit => { unit with status := .sold, dateSold := some now }) (fun _ => rfl) with
  | none => .error (.conflict
      "That item was taken while you were selling — it is no longer available")
  | some units => .ok { db with units }

def takeStock (companyId productId branchId : Id) (quantity : Int) (db : Db) :
    Except Refusal Db := do
  let (taken, found) ← updateStock companyId productId branchId
    (fun item => quantity ≤ item.quantity)
    (fun item => { item with quantity := item.quantity - quantity }) (fun _ => rfl) db
  if !found then .error (.conflict "That stock was taken while you were selling")
  else if (taken.stockItems.find? (companyId, productId, branchId)).any
      (fun item => item.quantity < item.reservedQuantity) then
    .error (.conflict "That stock is reserved for a transfer")
  else .ok taken

def saleItemFor (companyId saleId itemId : Id) (line : PreparedLine) : SaleItem where
  id := itemId
  companyId := companyId
  saleId := saleId
  unitId := line.unitId
  productId := if line.unitId.isSome then none else some line.productId
  quantity := line.quantity
  price := line.price
  cost := line.cost
  discount := line.discount
  voided := false

def writeLine (ctx : Ctx) (branchId saleId itemId : Id) (line : PreparedLine) (db : Db) :
    Except Refusal Db := do
  let listed ← insertSaleItem (saleItemFor ctx.companyId saleId itemId line) db
  match line.unitId with
  | some unitId => claimUnit ctx.companyId unitId ctx.now listed
  | none => takeStock ctx.companyId line.productId branchId line.quantity listed

def writeLines (ctx : Ctx) (branchId saleId : Id) (items : Nat → Id) :
    Nat → List PreparedLine → Db → Except Refusal Db
  | _, [], db => .ok db
  | index, line :: rest, db => do
      let written ← writeLine ctx branchId saleId (items index) line db
      writeLines ctx branchId saleId items (index + 1) rest written

def writePayment (companyId saleId paymentId : Id) (payment : PaymentInputDto)
    (account : Option ReceivingAccount) (db : Db) : Except Refusal Db :=
  if payment.method ≠ .cash ∧ payment.receivingAccountId ≠ none ∧ account.isNone then
    .error (.badRequest "That receiving account does not exist")
  else match db.payments.insert?
      { id := paymentId
        companyId
        saleId
        method := payment.method
        amount := payment.amount.cents
        receivingAccountId := account.map ReceivingAccount.id
        accountLabelSnapshot := account.map ReceivingAccount.label } with
    | none => .error (.unique "PRIMARY")
    | some payments => .ok { db with payments }

def writePayments (companyId saleId : Id) (ids : Nat → Id) :
    Nat → List (PaymentInputDto × Option ReceivingAccount) → Db → Except Refusal Db
  | _, [], db => .ok db
  | index, (payment, account) :: rest, db => do
      let written ← writePayment companyId saleId (ids index) payment account db
      writePayments companyId saleId ids (index + 1) rest written

def chargeCustomer (companyId : Id) (customerId : Option Id) (balanceDue : Int) (db : Db) :
    Except Refusal Db :=
  match customerId with
  | none => .ok db
  | some id =>
      if balanceDue ≤ 0 then .ok db
      else match db.customers.swap? id (fun customer => customer.companyId = companyId)
          (fun customer => { customer with balance := customer.balance + balanceDue })
          (fun _ => rfl) with
        | none => .error (.internal "No record was found for an update.")
        | some customers => .ok { db with customers }

def saleFor (ctx : Ctx) (branchId userId saleId : Id) (dto : CreateSaleDto) (draft : Draft)
    (seq : Nat) : Sale where
  id := saleId
  companyId := ctx.companyId
  branchId := branchId
  userId := userId
  customerId := dto.customerId
  invoiceNo := padStart 5 (toString seq)
  soldAt := ctx.now
  subtotal := draft.totals.subtotal
  discount := draft.totals.discount
  total := draft.totals.total
  totalCost := draft.totals.totalCost
  margin := draft.totals.margin
  amountPaid := draft.paid.amountPaid
  balanceDue := draft.paid.balanceDue
  payStatus := draft.paid.payStatus
  returnWindowHours := draft.policy.windowHours
  returnDeadlineAt := draft.policy.deadlineAt
  returnPolicyOverriddenById := if draft.window.overridden then some userId else none
  returnPolicyOverrideReason := draft.window.overrideReason
  clientUuid := dto.clientUuid

def writeSale (ctx : Ctx) (branchId userId : Id) (ids : SaleIds) (dto : CreateSaleDto)
    (draft : Draft) (db : Db) : Except Refusal (Db × Sale) := do
  let (numbered, seq) ← nextNumber ctx.companyId branchId .invoice db
  let sale := saleFor ctx branchId userId ids.sale dto draft seq
  let opened ← insertSale sale numbered
  let listed ← writeLines ctx branchId ids.sale ids.items 0 draft.lines opened
  let paid ← writePayments ctx.companyId ids.sale ids.payments 0 draft.accounts listed
  let charged ← chargeCustomer ctx.companyId dto.customerId draft.paid.balanceDue paid
  .ok (charged, sale)

/-- `P2002` is reported as a unit that was just sold. -/
def justSold (refusal : Refusal) : Refusal :=
  if refusal.kind = .unique then
    .conflict "A unit in this sale was just sold — please refresh and retry"
  else refusal

def soldUnits (draft : Draft) : List Id := draft.lines.filterMap PreparedLine.unitId

def createSale (ctx : Ctx) (has : Permission → Bool) (ids : SaleIds) (dto : CreateSaleDto) :
    Request SaleResponse := do
  let branchId ← .expect branchRequired ctx.branchId
  let userId ← .expect (.badRequest "No authenticated user") ctx.userId
  let replay ← .read .other (fun db => dto.clientUuid.bind (fun key =>
    db.sales.rows.find? (fun sale =>
      sale.companyId = ctx.companyId ∧ sale.clientUuid = some key)))
  match replay with
  | some sale => pure (toResponse sale)
  | none =>
    .require (∀ line ∈ dto.lines, line.scanned.isSome ≠ line.productId.isSome)
      (.badRequest ("Each line must be either an identifier (serialized unit) or a productId " ++
        "(quantity product)"))
    let drafted ← .read .other (draftSale ctx has branchId dto)
    let draft ← .liftExcept drafted
    let sale ← .transact (.claim (soldUnits draft)) (fun db =>
      (writeSale ctx branchId userId ids dto draft db).mapError justSold)
    pure (toResponse sale)

end ErpBackend.Sales
