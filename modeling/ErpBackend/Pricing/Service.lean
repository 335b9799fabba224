import ErpBackend.Foundation.Answers
import ErpBackend.Inventory.Lookups
import ErpBackend.Rbac.Access

/-!
# PricingService

Three kinds of price are set: of a variant in a branch, of one phone, and of quantity stock.
The first two are rows that can be removed, the third is a column of the stock row. Each
write records what the price was and what it is. A transfer retires the prices of the phones
it moves.
-/

namespace ErpBackend.Pricing

open Foundation Inventory

inductive PriceScope where
  | unit
  | branchVariant
  | stockItem
  deriving DecidableEq

inductive Initiator where
  | user
  | system
  deriving DecidableEq

/-- Append-only; `none` is no price. -/
structure PriceChangeEvent where
  id : Id
  companyId : Id
  branchId : Id
  productId : Id
  unitId : Option Id
  scope : PriceScope
  initiator : Initiator
  previousPrice : Option Int
  newPrice : Option Int
  reason : Option String
  actorId : Option Id
  deriving DecidableEq

structure Store where
  db : Db
  userBranches : Table Rbac.UserBranch Rbac.UserBranch.id := .empty
  priceChangeEvents : Table PriceChangeEvent PriceChangeEvent.id := .empty

inductive Target where
  | branchVariant (companyId productId branchId : Id)
  | unit (companyId unitId : Id)
  | stockItem (companyId productId branchId : Id)
  deriving DecidableEq

inductive Mark where
  | other
  | write (target : Target) (expectedVersion : Option Nat)
  | move
  deriving DecidableEq

abbrev Request (α : Type) := Prog Store Mark Refusal α

structure SetPriceDto where
  price : Money
  expectedVersion : Option Nat := none
  reason : Option String := none

structure RemovePriceDto where
  expectedVersion : Nat
  reason : Option String := none

structure SetQuantityPriceDto where
  price : Money
  expectedVersion : Nat
  reason : Option String := none

structure PriceIds where
  row : Id
  event : Id

def refreshRequired (message : String) : Refusal :=
  (Refusal.conflict message).coded "refresh_required"

def staleWrite : Refusal :=
  refreshRequired "Someone else changed this price. Refresh and try again."

def activeBranch (ctx : Ctx) : Request Id := do
  let branchId ← .expect branchRequired ctx.branchId
  let userId ← .expect (missingTenantContext "(request)" "userId") ctx.userId
  let assigned ← .read .other (fun s => s.userBranches.any (fun row =>
    row.companyId = ctx.companyId ∧ row.userId = userId ∧ row.branchId = branchId))
  .require (assigned = true) (.forbidden "No access to the requested branch")
  pure branchId

def requireUserId (ctx : Ctx) : Request Id :=
  .expect (missingTenantContext "(request)" "userId") ctx.userId

def loadProduct (ctx : Ctx) (productId : Id) : Request Product := do
  let product ← .read .other (fun s => findProduct s.db ctx.companyId productId)
  .expect (.notFound "Product not found") product

def loadUnit (ctx : Ctx) (identifier : Option String) : Request (StockUnit × Option Int) := do
  let found ← .read .other (fun s =>
    (loadUnitByIdentifier s.db ctx.companyId identifier).map (fun unit =>
      (unit, (s.db.products.find? unit.productId).bind Product.defaultPrice)))
  .liftExcept found

/-- Below cost takes `discount.override` and a reason. -/
def assertNotBelowCost (has : Permission → Bool) (price cost : Int) (reason : Option String)
    (subject : String) : Except Refusal Unit :=
  if price ≥ cost then .ok ()
  else if has .discountOverride = false then
    .error (.forbidden ("That price is below what you paid for " ++ subject ++
      ". Ask the owner to approve it."))
  else if blank reason = true then .error (.badRequest "Say why you are selling below cost")
  else .ok ()

def costlier (ctx : Ctx) (productId branchId : Id) (price : Int) (s : Store) : Nat :=
  (s.db.units.filter (fun unit => unit.companyId = ctx.companyId ∧ unit.productId = productId ∧
    unit.branchId = branchId ∧ unit.status = .inStock ∧ price < unit.cost)).length

def assertVariantNotBelowCost (ctx : Ctx) (has : Permission → Bool) (productId branchId : Id)
    (price : Int) (reason : Option String) : Request Nat := do
  let below ← .read .other (costlier ctx productId branchId price)
  if below = 0 then pure 0
  else
    .require (has .discountOverride = true) (.forbidden ("That price is below cost for " ++
      toString below ++ " item(s) of this model in this branch. Ask the owner to approve it."))
    .require (blank reason = false) (.badRequest "Say why you are selling below cost")
    pure below

def insertEvent (event : PriceChangeEvent) (s : Store) : Except Refusal Store :=
  match s.priceChangeEvents.insert? event with
  | none => .error (.unique "PRIMARY")
  | some priceChangeEvents => .ok { s with priceChangeEvents }

/-- `recordChangeTx`: a person's change. -/
def recordChange (ctx : Ctx) (id branchId productId : Id) (unitId : Option Id) (scope : PriceScope)
    (previousPrice newPrice : Option Int) (reason : Option String) (actorId : Id) (s : Store) :
    Except Refusal Store :=
  insertEvent
    { id
      companyId := ctx.companyId
      branchId
      productId
      unitId
      scope
      initiator := .user
      previousPrice
      newPrice
      reason
      actorId := some actorId } s

structure EffectivePrice where
  price : Option Int
  source : PriceSource
  version : Option Nat
  branchId : Id
  canRemove : Bool
  fallback : Option (Option Int × PriceSource)
  staleOverrideIgnored : Bool
  deriving DecidableEq

/-- What removal would reveal is shown beside a price that can be removed. -/
def present (resolved : ResolvedPrice) (branchId : Id) (productDefault : Option Int)
    (variantBeneath : Option BranchVariantPrice) : EffectivePrice :=
  let canRemove := resolved.source = .unitOverride ∨ resolved.source = .branchVariant
  let beneath :=
    if resolved.source = .unitOverride then resolveProductLevel variantBeneath productDefault
    else resolveProductLevel none productDefault
  { price := resolved.price
    source := resolved.source
    version := resolved.version
    branchId
    canRemove
    fallback := if canRemove then some (beneath.price, beneath.source) else none
    staleOverrideIgnored := resolved.staleOverrideIgnored }

/-- A row whose price is NULL behaves as no row at all. -/
def row (item : StockItem) : Option CurrentRow :=
  item.price.map (fun price => ⟨price, item.version⟩)

def findStock (db : Db) (companyId productId branchId : Id) : Option StockItem :=
  db.stockItems.find? (companyId, productId, branchId)

def getProductPricing (ctx : Ctx) (productId : Id) : Request EffectivePrice := do
  let branchId ← activeBranch ctx
  let product ← loadProduct ctx productId
  if product.trackingType = .quantity then
    let stock ← .read .other (fun s => findStock s.db ctx.companyId product.id branchId)
    let resolved := resolveQuantity (stock.bind row) product.defaultPrice
    pure (present resolved branchId product.defaultPrice none)
  else
    let variant ← .read .other (fun s => findBranchVariant s.db ctx.companyId product.id branchId)
    let resolved := resolveProductLevel variant product.defaultPrice
    pure (present resolved branchId product.defaultPrice none)

structure UnitPricing extends EffectivePrice where
  unitId : Id
  status : UnitStatus
  canPrice : Bool
  deriving DecidableEq

def getUnitPricing (ctx : Ctx) (identifier : Option String) : Request UnitPricing := do
  let branchId ← activeBranch ctx
  let (unit, productDefault) ← loadUnit ctx identifier
  let override ← .read .other (fun s => findOverride s.db ctx.companyId unit.id)
  let variant ← .read .other (fun s => findBranchVariant s.db ctx.companyId unit.productId branchId)
  let resolved := resolveSerialized branchId unit.branchId override variant productDefault
  pure
    { present resolved branchId productDefault variant with
      unitId := unit.id
      status := unit.status
      canPrice := unit.status = .inStock ∧ unit.branchId = branchId }

inductive SaleInput where
  | unit (unitId productId unitBranchId : Id) (productDefault : Option Int)
  | quantity (productId : Id) (stock : Option CurrentRow) (productDefault : Option Int)

def resolveForSaleTx (companyId : Id) (input : SaleInput) (branchId : Id) (db : Db) :
    ResolvedPrice :=
  match input with
  | .quantity _ stock productDefault => resolveQuantity stock productDefault
  | .unit unitId productId unitBranchId productDefault =>
      resolveSerialized branchId unitBranchId (findOverride db companyId unitId)
        (findBranchVariant db companyId productId branchId) productDefault

def readBackProduct (companyId productId branchId : Id) (productDefault : Option Int) (s : Store) :
    EffectivePrice :=
  present (resolveProductLevel (findBranchVariant s.db companyId productId branchId) productDefault)
    branchId productDefault none

def insertVariant (row : BranchVariantPrice) (s : Store) : Except Refusal Store :=
  if s.db.branchVariantPrices.any (fun other =>
      other.productId = row.productId ∧ other.branchId = row.branchId) then .error staleWrite
  else match s.db.branchVariantPrices.insert? row with
    | none => .error staleWrite
    | some branchVariantPrices => .ok { s with db := { s.db with branchVariantPrices } }

def repricedVariant (price : Int) (row : BranchVariantPrice) : BranchVariantPrice :=
  { row with price, version := row.version + 1 }

def swapVariant (companyId : Id) (existing : BranchVariantPrice) (expectedVersion : Nat)
    (price : Int) (s : Store) : Except Refusal Store :=
  match s.db.branchVariantPrices.swap? existing.id
      (fun row => row.companyId = companyId ∧ row.version = expectedVersion)
      (repricedVariant price) (fun _ => rfl) with
  | none => .error staleWrite
  | some branchVariantPrices => .ok { s with db := { s.db with branchVariantPrices } }

def putVariant (companyId branchId productId : Id) (id : Id) (dto : SetPriceDto) (s : Store) :
    Except Refusal (Store × Option Int) :=
  match findBranchVariant s.db companyId productId branchId with
  | some existing =>
    match dto.expectedVersion with
    | none => .error (refreshRequired
        "A price already exists for this variant in this branch. Refresh and retry.")
    | some expectedVersion =>
      (swapVariant companyId existing expectedVersion dto.price.cents s).map
        (fun s' => (s', some existing.price))
  | none =>
    (insertVariant ⟨id, companyId, branchId, productId, dto.price.cents, 0⟩ s).map
      (fun s' => (s', none))

def setBranchVariantPriceTx (ctx : Ctx) (ids : PriceIds) (branchId actorId : Id) (product : Product)
    (dto : SetPriceDto) (s : Store) : Except Refusal (Store × EffectivePrice) := do
  let (put, previous) ← putVariant ctx.companyId branchId product.id ids.row dto s
  let recorded ← recordChange ctx ids.event branchId product.id none .branchVariant previous
    (some dto.price.cents) dto.reason actorId put
  .ok (recorded, readBackProduct ctx.companyId product.id branchId product.defaultPrice recorded)

def setBranchVariantPrice (ctx : Ctx) (has : Permission → Bool) (ids : PriceIds) (productId : Id)
    (dto : SetPriceDto) : Request EffectivePrice := do
  let branchId ← activeBranch ctx
  let actorId ← requireUserId ctx
  let product ← loadProduct ctx productId
  .require (product.trackingType ≠ .quantity) (.badRequest
    "Quantity stock does not use a branch variant price — set its branch price instead")
  let _ ← assertVariantNotBelowCost ctx has product.id branchId dto.price.cents dto.reason
  .transact (.write (.branchVariant ctx.companyId product.id branchId) dto.expectedVersion)
    (setBranchVariantPriceTx ctx ids branchId actorId product dto)

def dropVariant (companyId : Id) (existing : BranchVariantPrice) (expectedVersion : Nat)
    (s : Store) : Except Refusal Store :=
  match s.db.branchVariantPrices.remove? existing.id
      (fun row => row.companyId = companyId ∧ row.version = expectedVersion) with
  | none => .error staleWrite
  | some branchVariantPrices => .ok { s with db := { s.db with branchVariantPrices } }

def removeBranchVariantPriceTx (ctx : Ctx) (ids : PriceIds) (branchId actorId : Id)
    (product : Product) (dto : RemovePriceDto) (s : Store) :
    Except Refusal (Store × EffectivePrice) :=
  match findBranchVariant s.db ctx.companyId product.id branchId with
  | none => .error (.notFound "No branch price to remove")
  | some existing => do
    let dropped ← dropVariant ctx.companyId existing dto.expectedVersion s
    let recorded ← recordChange ctx ids.event branchId product.id none .branchVariant
      (some existing.price) none dto.reason actorId dropped
    .ok (recorded, readBackProduct ctx.companyId product.id branchId product.defaultPrice recorded)

def removeBranchVariantPrice (ctx : Ctx) (ids : PriceIds) (productId : Id) (dto : RemovePriceDto) :
    Request EffectivePrice := do
  let branchId ← activeBranch ctx
  let actorId ← requireUserId ctx
  let product ← loadProduct ctx productId
  .transact (.write (.branchVariant ctx.companyId product.id branchId) (some dto.expectedVersion))
    (removeBranchVariantPriceTx ctx ids branchId actorId product dto)

def insertOverride (row : UnitPriceOverride) (s : Store) : Except Refusal Store :=
  if s.db.unitPriceOverrides.any (fun other => other.unitId = row.unitId) then .error staleWrite
  else match s.db.unitPriceOverrides.insert? row with
    | none => .error staleWrite
    | some unitPriceOverrides => .ok { s with db := { s.db with unitPriceOverrides } }

def repricedOverride (price : Int) (branchId : Id) (row : UnitPriceOverride) : UnitPriceOverride :=
  { row with price, version := row.version + 1, branchId }

def swapOverride (companyId branchId : Id) (existing : UnitPriceOverride) (expectedVersion : Nat)
    (price : Int) (s : Store) : Except Refusal Store :=
  match s.db.unitPriceOverrides.swap? existing.id
      (fun row => row.companyId = companyId ∧ row.version = expectedVersion)
      (repricedOverride price branchId) (fun _ => rfl) with
  | none => .error staleWrite
  | some unitPriceOverrides => .ok { s with db := { s.db with unitPriceOverrides } }

def putOverride (companyId branchId unitId : Id) (id : Id) (dto : SetPriceDto) (s : Store) :
    Except Refusal (Store × Option Int) :=
  match findOverride s.db companyId unitId with
  | some existing =>
    match dto.expectedVersion with
    | none => .error (refreshRequired "This phone already has a price. Refresh and retry.")
    | some expectedVersion =>
      (swapOverride companyId branchId existing expectedVersion dto.price.cents s).map
        (fun s' => (s', some existing.price))
  | none =>
    (insertOverride ⟨id, companyId, branchId, unitId, dto.price.cents, 0⟩ s).map
      (fun s' => (s', none))

def setUnitOverrideTx (ctx : Ctx) (ids : PriceIds) (branchId actorId : Id) (unit : StockUnit)
    (dto : SetPriceDto) (s : Store) : Except Refusal Store := do
  let (put, previous) ← putOverride ctx.companyId branchId unit.id ids.row dto s
  recordChange ctx ids.event branchId unit.productId (some unit.id) .unit previous
    (some dto.price.cents) dto.reason actorId put

def notInYourBranch : Refusal := .forbidden "This item is not in your branch"

def setUnitOverride (ctx : Ctx) (has : Permission → Bool) (ids : PriceIds)
    (identifier : Option String) (dto : SetPriceDto) : Request UnitPricing := do
  let branchId ← activeBranch ctx
  let actorId ← requireUserId ctx
  let (unit, _) ← loadUnit ctx identifier
  .require (unit.branchId = branchId) notInYourBranch
  .require (unit.status = .inStock) (.conflict (identifier.getD "" ++ " is '" ++
    unitStatusText unit.status ++ "' and cannot be priced"))
  .liftExcept (assertNotBelowCost has dto.price.cents unit.cost dto.reason "this phone")
  .commit (.write (.unit ctx.companyId unit.id) dto.expectedVersion)
    (setUnitOverrideTx ctx ids branchId actorId unit dto)
  getUnitPricing ctx identifier

def dropOverride (companyId : Id) (existing : UnitPriceOverride) (expectedVersion : Nat)
    (s : Store) : Except Refusal Store :=
  match s.db.unitPriceOverrides.remove? existing.id
      (fun row => row.companyId = companyId ∧ row.version = expectedVersion) with
  | none => .error staleWrite
  | some unitPriceOverrides => .ok { s with db := { s.db with unitPriceOverrides } }

def removeUnitOverrideTx (ctx : Ctx) (ids : PriceIds) (branchId actorId : Id) (unit : StockUnit)
    (dto : RemovePriceDto) (s : Store) : Except Refusal Store :=
  match findOverride s.db ctx.companyId unit.id with
  | none => .error (.notFound "This phone has no price of its own")
  | some existing => do
    let dropped ← dropOverride ctx.companyId existing dto.expectedVersion s
    recordChange ctx ids.event branchId unit.productId (some unit.id) .unit (some existing.price)
      none dto.reason actorId dropped

def removeUnitOverride (ctx : Ctx) (ids : PriceIds) (identifier : Option String)
    (dto : RemovePriceDto) : Request UnitPricing := do
  let branchId ← activeBranch ctx
  let actorId ← requireUserId ctx
  let (unit, _) ← loadUnit ctx identifier
  .require (unit.branchId = branchId) notInYourBranch
  .commit (.write (.unit ctx.companyId unit.id) (some dto.expectedVersion))
    (removeUnitOverrideTx ctx ids branchId actorId unit dto)
  getUnitPricing ctx identifier

def repricedStock (price : Int) (item : StockItem) : StockItem :=
  { item with price := some price, version := item.version + 1 }

theorem repricedStock_key (price : Int) (item : StockItem) :
    (repricedStock price item).key = item.key := rfl

def swapStock (existing : StockItem) (expectedVersion : Nat) (price : Int) (s : Store) :
    Except Refusal Store :=
  match s.db.stockItems.swap? existing.key (fun item => item.version = expectedVersion)
      (repricedStock price) (repricedStock_key price) with
  | none => .error staleWrite
  | some stockItems => .ok { s with db := { s.db with stockItems } }

/-- `Number(stock.price)`: a price that is NULL is recorded as zero. -/
def numberOf (price : Option Int) : Int := price.getD 0

def setQuantityPriceTx (ctx : Ctx) (has : Permission → Bool) (ids : PriceIds)
    (branchId actorId : Id)
    (product : Product) (dto : SetQuantityPriceDto) (s : Store) :
    Except Refusal (Store × EffectivePrice) :=
  match findStock s.db ctx.companyId product.id branchId with
  | none => .error (.notFound "This product has no stock in this branch yet")
  | some stock => do
    assertNotBelowCost has dto.price.cents stock.cost dto.reason "this item"
    let swapped ← swapStock stock dto.expectedVersion dto.price.cents s
    let recorded ← recordChange ctx ids.event branchId product.id none .stockItem
      (some (numberOf stock.price)) (some dto.price.cents) dto.reason actorId swapped
    let fresh := findStock recorded.db ctx.companyId product.id branchId
    .ok (recorded, present (resolveQuantity (fresh.bind row) product.defaultPrice) branchId
      product.defaultPrice none)

def setQuantityPrice (ctx : Ctx) (has : Permission → Bool) (ids : PriceIds) (productId : Id)
    (dto : SetQuantityPriceDto) : Request EffectivePrice := do
  let branchId ← activeBranch ctx
  let actorId ← requireUserId ctx
  let product ← loadProduct ctx productId
  .require (product.trackingType = .quantity) (.badRequest
    "This product is tracked individually — price it per branch or per item")
  .transact (.write (.stockItem ctx.companyId product.id branchId) (some dto.expectedVersion))
    (setQuantityPriceTx ctx has ids branchId actorId product dto)

structure BranchMove where
  unitId : Id
  productId : Id
  fromBranchId : Id
  toBranchId : Id
  eventId : Id

def invalidateMove (ctx : Ctx) (move : BranchMove) (s : Store) : Except Refusal (Store × Nat) :=
  if move.fromBranchId = move.toBranchId then .ok (s, 0)
  else match findOverride s.db ctx.companyId move.unitId with
    | none => .ok (s, 0)
    | some override => do
      let retired ← insertEvent
        { id := move.eventId
          companyId := ctx.companyId
          branchId := override.branchId
          productId := move.productId
          unitId := some move.unitId
          scope := .unit
          initiator := .system
          previousPrice := some override.price
          newPrice := none
          reason := some "branch_transfer"
          actorId := ctx.userId }
        { s with db := { s.db with
          unitPriceOverrides := s.db.unitPriceOverrides.delete (fun row =>
            row.id = override.id) } }
      .ok (retired, 1)

def invalidateOnBranchMoveTx (ctx : Ctx) : List BranchMove → Store → Except Refusal (Store × Nat)
  | [], s => .ok (s, 0)
  | move :: rest, s => do
      let (retired, one) ← invalidateMove ctx move s
      let (last, more) ← invalidateOnBranchMoveTx ctx rest retired
      .ok (last, one + more)

end ErpBackend.Pricing
