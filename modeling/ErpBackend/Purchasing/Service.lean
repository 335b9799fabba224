import ErpBackend.Inventory.Stock
import ErpBackend.Purchasing.Rules

/-!
# PurchasingService

`createPurchase` checks the delivery, then writes the purchase, its lines, the
phones, the counted goods, what the supplier is owed and what was paid on the
spot in one transaction.
-/

namespace ErpBackend.Purchasing

open Foundation Inventory

/-- The keys `newUuidV7Bin` hands to one delivery. -/
structure PurchaseIds where
  purchase : Id
  item : Nat → Id
  unit : Nat → Id
  payment : Id

structure PurchaseResult where
  purchaseId : Option Id
  unitsCreated : Int
  stockLines : Int
  total : Int
  rejected : List RejectedLine
  replayed : Bool := false

def replayOf (db : Db) (purchase : Purchase) : PurchaseResult :=
  let items := db.purchaseItems.filter (fun item => item.purchaseId = purchase.id)
  let units := db.units.filter (fun unit => unit.purchaseId = some purchase.id)
  let stockLines : Int := items.length - units.length
  { purchaseId := some purchase.id
    unitsCreated := units.length
    stockLines := if 0 < stockLines then stockLines else 0
    total := purchase.total
    rejected := []
    replayed := true }

def findReplay (ctx : Ctx) (dto : CreatePurchaseDto) : Request (Option PurchaseResult) := do
  let prior ← .read .other (fun db => (db.purchases.rows.find? (fun purchase =>
    purchase.companyId = ctx.companyId ∧ purchase.clientUuid = some dto.clientUuid)).map
      (fun purchase => (purchase.clientRequestHash, replayOf db purchase)))
  match prior with
  | none => pure none
  | some (hash, result) =>
      .require (hash.all (fun text => text = "" ∨ text = fingerprint dto))
        (.conflict "This request id was already used for a different delivery. Start a new one.")
      pure (some result)

def insertPurchase (row : Purchase) (db : Db) : Except Refusal Db :=
  if db.purchases.any (fun other => other.companyId = row.companyId ∧
      other.clientUuid.isSome ∧ other.clientUuid = row.clientUuid) then
    .error (.unique "purchases_company_id_client_uuid_key")
  else if db.suppliers.find? row.supplierId = none then
    .error (.constraint "purchases_supplier_id_fkey")
  else db.purchases.store row (.unique "PRIMARY") (fun purchases => { db with purchases })

def insertItem (row : PurchaseItem) (db : Db) : Except Refusal Db :=
  if ¬ 0 < row.quantity then .error (.constraint "purchase_items_quantity_pos_chk")
  else if db.products.find? row.productId = none then
    .error (.constraint "purchase_items_product_id_fkey")
  else match db.purchaseItems.insert? row with
    | none => .error (.unique "PRIMARY")
    | some purchaseItems => .ok { db with purchaseItems }

/-- `createUnit`. -/
def receivedUnit (ctx : Ctx) (branchId purchaseId id : Id) (unit : PreparedUnit) :
    StockUnit where
  id := id
  companyId := ctx.companyId
  productId := unit.productId
  branchId := branchId
  imeiPrimary := unit.imeiPrimary
  imeiSecondary := none
  serialNo := unit.serialNo
  cost := unit.cost
  status := .inStock
  dateSold := none
  purchaseId := some purchaseId

def writeUnits (ctx : Ctx) (branchId : Id) (ids : PurchaseIds) :
    Nat → List PreparedUnit → Db → Except Refusal Db
  | _, [], db => .ok db
  | index, unit :: rest, db => do
      let listed ← insertItem
        { id := ids.item index
          companyId := ctx.companyId
          purchaseId := ids.purchase
          productId := unit.productId
          quantity := 1
          unitCost := unit.cost } db
      let shelved ← insertUnit (receivedUnit ctx branchId ids.purchase (ids.unit index) unit)
        listed
      writeUnits ctx branchId ids (index + 1) rest shelved

def writeStock (ctx : Ctx) (branchId : Id) (ids : PurchaseIds) :
    Nat → List PreparedStock → Db → Except Refusal Db
  | _, [], db => .ok db
  | index, line :: rest, db => do
      let listed ← insertItem
        { id := ids.item index
          companyId := ctx.companyId
          purchaseId := ids.purchase
          productId := line.productId
          quantity := line.quantity
          unitCost := line.cost } db
      let shelved ← receiveQuantityAtCost ctx.companyId line.productId branchId line.quantity
        line.cost line.price listed
      writeStock ctx branchId ids (index + 1) rest shelved

def addPayable (companyId supplierId : Id) (payable : Int) (db : Db) : Except Refusal Db :=
  if payable = 0 then .ok db
  else match db.suppliers.swap? supplierId (fun supplier => supplier.companyId = companyId)
      (fun supplier => { supplier with balance := supplier.balance + payable })
      (fun _ => rfl) with
    | none => .error (.internal "No record was found for an update.")
    | some suppliers => .ok { db with suppliers }

def insertPayment (row : SupplierPayment) (db : Db) : Except Refusal Db :=
  if ¬ 0 < row.amount then .ok db
  else match db.supplierPayments.insert? row with
    | none => .error (.unique "PRIMARY")
    | some supplierPayments => .ok { db with supplierPayments }

def newPurchase (ctx : Ctx) (branchId id : Id) (dto : CreatePurchaseDto) (total : Int) :
    Purchase where
  id := id
  companyId := ctx.companyId
  branchId := branchId
  supplierId := dto.supplierId
  userId := ctx.userId
  referenceNo := dto.referenceNo
  clientUuid := some dto.clientUuid
  clientRequestHash := some (fingerprint dto)
  date := ctx.now
  total := total
  amountPaid := paidUpFront dto
  status := statusAtReceipt total (paidUpFront dto)
  dueDate := dto.dueDate

def newPayment (ctx : Ctx) (ids : PurchaseIds) (dto : CreatePurchaseDto) : SupplierPayment where
  id := ids.payment
  companyId := ctx.companyId
  supplierId := dto.supplierId
  purchaseId := some ids.purchase
  amount := paidUpFront dto
  method := .cash

def writePurchase (ctx : Ctx) (branchId : Id) (ids : PurchaseIds) (dto : CreatePurchaseDto)
    (delivery : Delivery) (db : Db) : Except Refusal (Db × Unit) := do
  let bought ← insertPurchase (newPurchase ctx branchId ids.purchase dto delivery.total) db
  let phones ← writeUnits ctx branchId ids 0 delivery.units bought
  let goods ← writeStock ctx branchId ids delivery.units.length
    (delivery.stock.insertionSort (fun left right => left.productId ≤ right.productId)) phones
  let owed ← addPayable ctx.companyId dto.supplierId (delivery.total - paidUpFront dto) goods
  let paid ← insertPayment (newPayment ctx ids dto) owed
  .ok (paid, ())

/-- The loser of two identical requests is answered with what the winner received. -/
def recover (ctx : Ctx) (dto : CreatePurchaseDto) (refusal : Refusal) :
    Request PurchaseResult := do
  if refusal.kind = .unique then
    let winner ← findReplay ctx dto
    .expect (.conflict "A duplicate identifier was detected during commit — please retry") winner
  else .refuse refusal

def existingIdentifiers (ctx : Ctx) : List String → Request (List String)
  | [] => pure []
  | identifiers => .read .other (fun db => findExistingIdentifiers db ctx.companyId identifiers)

def createPurchase (ctx : Ctx) (ids : PurchaseIds) (dto : CreatePurchaseDto) :
    Request PurchaseResult := do
  let branchId ← .expect branchRequired ctx.branchId
  .require (dto.items ≠ []) (.badRequest "Purchase must include at least one item")
  let replay ← findReplay ctx dto
  match replay with
  | some result => pure result
  | none =>
    let supplier ← .read .other (fun db => (db.suppliers.find? dto.supplierId).filter
      (fun supplier => supplier.companyId = ctx.companyId))
    let _ ← .expect (.notFound "Supplier not found") supplier
    let products ← .read .other (fun db => findProduct db ctx.companyId)
    let prepared := prepare products dto.items
    let existing ← existingIdentifiers ctx (prepared.units.map PreparedUnit.identifier)
    let delivery := prepared.withoutExisting existing
    if delivery.units = [] ∧ delivery.stock = [] then
      pure
        { purchaseId := none
          unitsCreated := 0
          stockLines := 0
          total := 0
          rejected := delivery.rejected }
    else
      .require (paidUpFront dto ≤ delivery.total) (.badRequest "Paid amount exceeds total")
      let written ← .attempt .other (writePurchase ctx branchId ids dto delivery)
      match written with
      | .ok () =>
          pure
            { purchaseId := some ids.purchase
              unitsCreated := delivery.units.length
              stockLines := delivery.stock.length
              total := delivery.total
              rejected := delivery.rejected }
      | .error refusal => recover ctx dto refusal

end ErpBackend.Purchasing
