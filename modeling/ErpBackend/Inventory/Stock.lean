import ErpBackend.Foundation.Interleave
import ErpBackend.Schema

/-!
# Stock, prices and numbers

`price-resolution.ts`, `quantity-reservation.ts`, `stock-cost.ts` and
`invoice-number.service.ts`: what sales and transfers share. Each statement on
`stock_items` is conditional, and the table's `CHECK`s are the last word.
-/

namespace ErpBackend.Inventory

open Foundation

/-- What a request is about to do: claim phones at the counter, put phones on the
shelf of another branch, or mark the payout of an approved correction. -/
inductive Mark where
  | other
  | claim (unitIds : List Id)
  | arrive (unitIds : List Id)
  | supersede (correctionId : Id)
  deriving DecidableEq

abbrev Request (α : Type) := Prog Db Mark Refusal α

def unitStatusText : UnitStatus → String
  | .inStock => "in_stock"
  | .reserved => "reserved"
  | .sold => "sold"
  | .returned => "returned"
  | .inTransit => "in_transit"
  | .faulty => "faulty"
  | .transferredOut => "transferred_out"
  | .consignedOut => "consigned_out"

def unitTransitions : UnitStatus → List UnitStatus
  | .inStock => [.reserved, .sold, .inTransit, .faulty, .transferredOut, .consignedOut]
  | .reserved => [.inStock, .inTransit]
  | .sold => [.returned]
  | .returned => [.inStock, .faulty]
  | .inTransit => [.inStock, .transferredOut]
  | .faulty => [.inStock]
  | .transferredOut => []
  | .consignedOut => [.inStock, .sold, .faulty]

def illegalMove (source target : UnitStatus) : Refusal :=
  .conflict ("A unit that is '" ++ unitStatusText source ++ "' cannot become '" ++
    unitStatusText target ++ "'")

def assertUnitTransition (source target : UnitStatus) : Except Refusal Unit :=
  if target ∈ unitTransitions source then .ok () else .error (illegalMove source target)

inductive PriceSource where
  | unitOverride
  | branchVariant
  | stockItem
  | productDefault
  | unpriced
  deriving DecidableEq

structure ResolvedPrice where
  price : Option Int
  source : PriceSource
  version : Option Nat
  staleOverrideIgnored : Bool

structure CurrentRow where
  price : Int
  version : Nat

def overrideApplies (override : Option UnitPriceOverride) (unitBranchId activeBranchId : Id) :
    Bool :=
  match override with
  | none => false
  | some row => row.branchId = unitBranchId ∧ activeBranchId = unitBranchId

def resolveProductLevel (branchVariant : Option BranchVariantPrice)
    (productDefault : Option Int) : ResolvedPrice :=
  match branchVariant, productDefault with
  | some row, _ => ⟨some row.price, .branchVariant, some row.version, false⟩
  | none, some price => ⟨some price, .productDefault, none, false⟩
  | none, none => ⟨none, .unpriced, none, false⟩

def resolveSerialized (activeBranchId unitBranchId : Id) (override : Option UnitPriceOverride)
    (branchVariant : Option BranchVariantPrice) (productDefault : Option Int) : ResolvedPrice :=
  match override.filter (fun row => overrideApplies (some row) unitBranchId activeBranchId) with
  | some row => ⟨some row.price, .unitOverride, some row.version, false⟩
  | none =>
      { resolveProductLevel branchVariant productDefault with
        staleOverrideIgnored := override.isSome }

def resolveQuantity (stockItem : Option CurrentRow) (productDefault : Option Int) :
    ResolvedPrice :=
  match stockItem, productDefault with
  | some row, _ => ⟨some row.price, .stockItem, some row.version, false⟩
  | none, some price => ⟨some price, .productDefault, none, false⟩
  | none, none => ⟨none, .unpriced, none, false⟩

def findOverride (db : Db) (companyId unitId : Id) : Option UnitPriceOverride :=
  db.unitPriceOverrides.rows.find? (fun row => row.companyId = companyId ∧ row.unitId = unitId)

def findBranchVariant (db : Db) (companyId productId branchId : Id) :
    Option BranchVariantPrice :=
  db.branchVariantPrices.rows.find? (fun row =>
    row.companyId = companyId ∧ row.productId = productId ∧ row.branchId = branchId)

def findProduct (db : Db) (companyId productId : Id) : Option Product :=
  (db.products.find? productId).filter (fun product => product.companyId = companyId)

/-- The `CHECK`s of `stock_items`. -/
def checkStock (item : StockItem) : Except Refusal Unit :=
  if item.quantity < 0 then .error (.constraint "stock_items_quantity_nonneg_chk")
  else if item.reservedQuantity < 0 then .error (.constraint "chk_stock_reserved_nonneg")
  else if item.quantity < item.reservedQuantity then
    .error (.constraint "chk_stock_reserved_le_quantity")
  else .ok ()

/-- `UPDATE stock_items SET … WHERE key AND guard`; `false` when no row matched. -/
def updateStock (companyId productId branchId : Id) (guard : StockItem → Bool)
    (f : StockItem → StockItem) (keep : ∀ item, (f item).key = item.key) (db : Db) :
    Except Refusal (Db × Bool) :=
  match (db.stockItems.find? (companyId, productId, branchId)).filter guard with
  | none => .ok (db, false)
  | some item =>
    match checkStock (f item) with
    | .error refusal => .error refusal
    | .ok () => .ok ({ db with
        stockItems := db.stockItems.update (companyId, productId, branchId) f keep }, true)

def reserveQuantity (companyId productId branchId : Id) (wanted : Int) (db : Db) :
    Except Refusal (Db × Bool) :=
  updateStock companyId productId branchId
    (fun item => wanted ≤ item.quantity - item.reservedQuantity)
    (fun item => { item with reservedQuantity := item.reservedQuantity + wanted })
    (fun _ => rfl) db

def releaseQuantity (companyId productId branchId : Id) (amount : Int) (db : Db) :
    Except Refusal (Db × Bool) :=
  updateStock companyId productId branchId (fun item => amount ≤ item.reservedQuantity)
    (fun item => { item with reservedQuantity := item.reservedQuantity - amount })
    (fun _ => rfl) db

def shipQuantity (companyId productId branchId : Id) (amount : Int) (db : Db) :
    Except Refusal (Db × Bool) :=
  updateStock companyId productId branchId
    (fun item => amount ≤ item.reservedQuantity ∧ amount ≤ item.quantity)
    (fun item =>
      { item with
        quantity := item.quantity - amount
        reservedQuantity := item.reservedQuantity - amount })
    (fun _ => rfl) db

def weightedCost (quantity cost received unitCost : Int) : Int :=
  (2 * (quantity * cost + received * unitCost) + (quantity + received)) /
    (2 * (quantity + received))

/-- `INSERT … ON DUPLICATE KEY UPDATE`: one row more, or more on the row. -/
def receiveQuantityAtCost (companyId productId branchId : Id) (received unitCost : Int)
    (priceIfNew : Option Int) (db : Db) : Except Refusal Db :=
  if received ≤ 0 then
    .error (.internal ("receiveQuantityAtCost: received must be a positive integer, got " ++
      toString received))
  else match db.stockItems.find? (companyId, productId, branchId) with
    | some item =>
      let arrived : StockItem → StockItem := fun item =>
        { item with
          cost := weightedCost item.quantity item.cost received unitCost
          quantity := item.quantity + received }
      match checkStock (arrived item) with
      | .error refusal => .error refusal
      | .ok () => .ok { db with
          stockItems := db.stockItems.update (companyId, productId, branchId) arrived
            (fun _ => by rfl) }
    | none =>
      match db.stockItems.insert? ⟨companyId, productId, branchId, received, unitCost,
          priceIfNew, 0, 0⟩ with
      | none => .error (.unique "stock_items_company_id_product_id_branch_id_key")
      | some stockItems => .ok { db with stockItems }

def priceForNewStockRow (db : Db) (companyId productId branchId : Id) : Option Int :=
  ((findBranchVariant db companyId productId branchId).map BranchVariantPrice.price).or
    ((findProduct db companyId productId).bind Product.defaultPrice)

/-- The identifiers of the company's phones that carry one of these. -/
def findExistingIdentifiers (db : Db) (companyId : Id) (identifiers : List String) :
    List String :=
  (db.units.filter (fun unit => unit.companyId = companyId ∧
    [unit.imeiPrimary, unit.imeiSecondary, unit.serialNo].any (fun code =>
      code.any (· ∈ identifiers)))).flatMap (fun unit =>
        [unit.imeiPrimary, unit.imeiSecondary, unit.serialNo].reduceOption)

/-- The `CHECK`s, the insert trigger and the unique keys of `units`. -/
def insertUnit (unit : StockUnit) (db : Db) : Except Refusal Db :=
  let format (code : Option String) : Bool :=
    code.all (fun imei => imei.toList.length = 15 ∧ imei.toList.all Char.isDigit)
  let carried (columns : StockUnit → List (Option String)) (code : Option String) : Bool :=
    code.isSome ∧ db.units.any (fun other => code ∈ columns other)
  if unit.imeiSecondary.isSome ∧ unit.imeiSecondary = unit.imeiPrimary then
    .error (.internal ("A unit cannot have the same IMEI as both its primary and " ++
      "secondary identifier"))
  else if carried (fun other => [other.imeiSecondary, other.serialNo]) unit.imeiPrimary then
    .error (.internal "That IMEI already identifies another unit")
  else if carried (fun other => [other.imeiPrimary, other.imeiSecondary, other.serialNo])
      unit.imeiSecondary then
    .error (.internal "That IMEI already identifies another unit")
  else if !format unit.imeiPrimary then .error (.constraint "units_imei_primary_format_chk")
  else if !format unit.imeiSecondary then .error (.constraint "units_imei_secondary_format_chk")
  else if carried (fun other => [other.imeiPrimary.or other.serialNo])
      (unit.imeiPrimary.or unit.serialNo) then
    .error (.unique "ux_units_identifier")
  else match db.units.insert? unit with
    | none => .error (.unique "PRIMARY")
    | some units => .ok { db with units }

def padStart (width : Nat) (text : String) : String :=
  String.ofList (List.replicate (width - text.length) '0' ++ text.toList)

def nextNumber (companyId branchId : Id) (kind : CounterKind) (db : Db) :
    Except Refusal (Db × Nat) :=
  match db.branchCounters.find? (branchId, kind) with
  | some counter => .ok ({ db with
      branchCounters := db.branchCounters.update (branchId, kind)
        (fun counter => { counter with seq := counter.seq + 1 }) (fun _ => rfl) },
      counter.seq + 1)
  | none =>
    match db.branchCounters.insert? ⟨companyId, branchId, kind, 1⟩ with
    | none => .error (.unique "PRIMARY")
    | some branchCounters => .ok ({ db with branchCounters }, 1)

end ErpBackend.Inventory
