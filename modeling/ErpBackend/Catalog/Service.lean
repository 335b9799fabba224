import ErpBackend.Imports.Service
import ErpBackend.Scanner.Outbox

/-!
# CatalogService

Products are created and edited here. The category decides how a product is
tracked, and the mode of a product with stock or history stays as it is.
-/

namespace ErpBackend.Catalog

open Foundation

def modeName : TrackingType → String
  | .imei => "imei"
  | .serial => "serial"
  | .quantity => "quantity"

def selectableTrackingTypes : List TrackingType := [.imei, .quantity]

/-- `previous` is what is stored already; leaving it is no choice. -/
def assertSelectableTrackingType (next : TrackingType) (previous : Option TrackingType) :
    Except Refusal Unit :=
  if some next = previous then .ok ()
  else if next ∉ selectableTrackingTypes then
    .error (.badRequest ("Tracking mode '" ++ modeName next ++ "' can no longer be chosen. " ++
      "Phones are tracked individually by IMEI; everything else is counted by quantity."))
  else .ok ()

def resolveTrackingType (categoryMode : TrackingType) (clientMode : Option TrackingType) :
    Except Refusal TrackingType :=
  match clientMode with
  | none => .ok categoryMode
  | some mode =>
      if mode ≠ categoryMode then
        .error (.badRequest ("This category is tracked by '" ++ modeName categoryMode ++
          "', so '" ++ modeName mode ++ "' cannot be used. The category decides how its " ++
          "products are received."))
      else .ok categoryMode

def assertTrackingChangeSafe (hasHistory : Bool) (fromMode toMode : TrackingType) :
    Except Refusal Unit :=
  if !hasHistory then .ok ()
  else .error (.coded "tracking_change_blocked" (.conflict
    ("This product already has stock or history, so it cannot change from '" ++
      modeName fromMode ++ "' to '" ++ modeName toMode ++ "'. Existing units, stock, transfers, " ++
      "purchases and sales would be reinterpreted. Create a new product instead.")))

structure CatalogDb where
  imports : Imports.ImportDb
  memory : Scanner.Memory

def CatalogDb.db (store : CatalogDb) : Db := store.imports.db

def CatalogDb.withDb (store : CatalogDb) (db : Db) : CatalogDb :=
  { store with imports := { store.imports with db } }

def CatalogDb.withImports (store : CatalogDb) (imports : Imports.ImportDb) : CatalogDb :=
  { store with imports }

def CatalogDb.withMemory (store : CatalogDb) (memory : Scanner.Memory) : CatalogDb :=
  { store with memory }

abbrev Request (α : Type) := Prog CatalogDb Unit Refusal α

def importing {α : Type} (p : Imports.Request α) : Request α :=
  p.focus CatalogDb.imports CatalogDb.withImports (fun _ => ())

def productNotFound : Refusal := .notFound "Product not found"

def categoryNotFound : Refusal := .notFound "Category not found"

def ownProduct (db : Db) (companyId id : Id) : Option Product :=
  (db.products.find? id).filter (fun product => product.companyId = companyId)

def ownCategory (db : Db) (companyId id : Id) : Option ProductCategory :=
  (db.productCategories.find? id).filter (fun category => category.companyId = companyId)

def requireProduct (ctx : Ctx) (id : Id) : Request Product := do
  let found ← .read () (fun store => ownProduct store.db ctx.companyId id)
  .expect productNotFound found

/-- `String(raw).trim().replace(/\s+/g, '').toUpperCase()`, where nothing is no barcode. -/
def normalizeBarcode (raw : Option String) : Option String :=
  raw.bind (fun text =>
    let cleaned := ((trimChars text.toList).filter (fun c => !jsSpace c)).map Char.toUpper
    if cleaned = [] then none else some (String.ofList cleaned))

def barcodeInUse (engine : Imports.Engine) (db : Db) (companyId : Id) (barcode : String)
    (excludeProductId : Option Id) : Bool :=
  (db.products.rows.find? (fun product => product.companyId = companyId ∧
    product.barcode.map engine.weight = some (engine.weight barcode))).any (fun clash =>
      excludeProductId ≠ some clash.id)

def assertBarcodeFree (engine : Imports.Engine) (ctx : Ctx) (barcode : String)
    (excludeProductId : Option Id) : Request Unit := do
  let inUse ← .read () (fun store =>
    barcodeInUse engine store.db ctx.companyId barcode excludeProductId)
  .require (inUse = false) (.conflict "Another product already uses that barcode")

def hasHistory (db : Db) (companyId productId : Id) : Bool :=
  db.units.any (fun unit => unit.companyId = companyId ∧ unit.productId = productId) ||
    db.stockItems.any (fun item => item.companyId = companyId ∧ item.productId = productId) ||
    db.purchaseItems.any (fun item => item.companyId = companyId ∧ item.productId = productId) ||
    db.saleItems.any (fun item => item.companyId = companyId ∧ item.productId = some productId) ||
    db.transferItems.any (fun item =>
      item.companyId = companyId ∧ item.productId = some productId)

/-- The unique keys of `products`; a row without a variant or a barcode equals none. -/
def productKeys (engine : Imports.Engine) (product : Product) (others : List Product) :
    Except Refusal Unit :=
  if product.variant.isSome ∧ others.any (fun other =>
      engine.keyOf other = engine.keyOf product) then
    .error (.unique "products_company_id_brand_model_variant_key")
  else if product.barcode.isSome ∧ others.any (fun other => other.companyId = product.companyId ∧
      other.barcode.map engine.weight = product.barcode.map engine.weight) then
    .error (.unique "products_company_id_barcode_key")
  else .ok ()

def insertProduct (engine : Imports.Engine) (product : Product) (db : Db) : Except Refusal Db := do
  productKeys engine product db.products.rows
  match db.products.insert? product with
  | none => .error (.unique "PRIMARY")
  | some products => .ok { db with products }

def updateProduct (engine : Imports.Engine) (id : Id) (f : Product → Product)
    (keep : ∀ product, (f product).id = product.id) (db : Db) : Except Refusal Db :=
  match db.products.find? id with
  | none => .error (.internal "An operation failed because it depends on one or more records")
  | some product => do
      productKeys engine (f product) (db.products.filter (fun other => other.id ≠ id))
      .ok { db with products := db.products.update id f keep }

theorem insertProduct_ok (engine : Imports.Engine) (product : Product) (db db' : Db)
    (done : insertProduct engine product db = .ok db') :
    ∃ products, db.products.insert? product = some products ∧ db' = { db with products } := by
  obtain ⟨_, -, stored⟩ := (except_bind_ok _ _ _).mp done
  split at stored
  · cases stored
  · next products inserted =>
    cases stored
    exact ⟨products, inserted, rfl⟩

theorem updateProduct_ok (engine : Imports.Engine) (id : Id) (f : Product → Product)
    (keep : ∀ product, (f product).id = product.id) (db db' : Db)
    (done : updateProduct engine id f keep db = .ok db') :
    db' = { db with products := db.products.update id f keep } := by
  unfold updateProduct at done
  split at done
  · cases done
  · obtain ⟨_, -, ended⟩ := (except_bind_ok _ _ _).mp done
    cases ended
    rfl

def barcodeIntent (companyId productId : Id) (code : String) : Scanner.LearningIntent where
  companyId := companyId
  purchaseId := none
  codeType := .barcode
  code := code
  productId := productId
  supplierId := none
  source := "manual"

def queueBarcode (eventId companyId productId : Id) (barcode : Option String)
    (memory : Scanner.Memory) : Scanner.Memory :=
  match barcode with
  | none => memory
  | some code =>
      Scanner.enqueueTx [(eventId, barcodeIntent companyId productId code)] memory

def forgetBarcode (engine : Imports.Engine) (companyId productId : Id) (barcode : Option String)
    (memory : Scanner.Memory) : Scanner.Memory :=
  match barcode with
  | none => memory
  | some code => { memory with recognitions := memory.recognitions.delete (fun row =>
      row.companyId = companyId ∧ row.codeType = .barcode ∧
        engine.weight row.code = engine.weight code ∧ row.productId = productId) }

/-- What the sweep after a commit is given: how `findFirst` ends, and new keys. -/
structure Sweeping where
  pick : Lookup Scanner.ProductRecognition
  ids : Nat → Id

def processNow (sweeping : Sweeping) : Request Unit :=
  ((Scanner.sweep sweeping.pick sweeping.ids).focus CatalogDb.memory CatalogDb.withMemory
    (fun _ => ())).quietly

structure CreateProductDto where
  brand : String
  model : String
  variant : Option String := none
  trackingType : Option TrackingType := none
  categoryId : Option Id := none
  specifications : Option Fields := none
  barcode : Option String := none
  defaultCost : Option Money := none
  defaultPrice : Option Money := none
  reorderThreshold : Option Nat := none

structure ProductIds where
  product : Id
  event : Id

def priceNeedsEdit : Refusal :=
  .forbidden ("Setting a selling price needs price.edit. Catalog administration does not " ++
    "include pricing.")

/-- The mode of a new product, and the attributes its category knows. -/
def modeOfNew (ctx : Ctx) (dto : CreateProductDto) :
    Request (Option TrackingType × List AttributeDef) :=
  match dto.categoryId with
  | some categoryId => do
      let found ← .read () (fun store => ownCategory store.db ctx.companyId categoryId)
      let category ← .expect categoryNotFound found
      let mode ← .liftExcept (resolveTrackingType category.defaultTrackingType dto.trackingType)
      pure (some mode, category.attributeSchema)
  | none =>
      match dto.trackingType with
      | some mode => do
          .liftExcept (assertSelectableTrackingType mode none)
          pure (some mode, [])
      | none => pure (none, [])

def newProduct (ctx : Ctx) (id : Id) (dto : CreateProductDto) (mode : Option TrackingType) :
    Product where
  id := id
  companyId := ctx.companyId
  categoryId := dto.categoryId
  brand := trim dto.brand
  model := trim dto.model
  variant := trimOrNull dto.variant
  trackingType := mode.getD .imei
  specifications := dto.specifications
  barcode := normalizeBarcode dto.barcode
  defaultCost := dto.defaultCost.map Money.cents
  defaultPrice := dto.defaultPrice.map Money.cents
  reorderThreshold := dto.reorderThreshold.getD 0

def createTx (engine : Imports.Engine) (ids : ProductIds) (product : Product) (store : CatalogDb) :
    Except Refusal CatalogDb := do
  let db ← insertProduct engine product store.db
  .ok ((store.withDb db).withMemory
    (queueBarcode ids.event product.companyId product.id product.barcode store.memory))

/-- `mayPrice`: the caller holds `price.edit`. -/
def create (engine : Imports.Engine) (sweeping : Sweeping) (ctx : Ctx) (mayPrice : Bool)
    (ids : ProductIds) (dto : CreateProductDto) : Request Product := do
  .require (dto.defaultPrice.isSome ∨ dto.defaultCost.isSome → mayPrice) priceNeedsEdit
  .liftExcept (assertSpecificationsSafe dto.specifications)
  match normalizeBarcode dto.barcode with
  | none => pure ()
  | some barcode => assertBarcodeFree engine ctx barcode none
  let (mode, schema) ← modeOfNew ctx dto
  let _ ← .liftExcept (validateValues schema dto.specifications)
  let product := newProduct ctx ids.product dto mode
  .commit () (createTx engine ids product)
  processNow sweeping
  pure product

structure UpdateProductDto where
  brand : Option String := none
  model : Option String := none
  variant : Option String := none
  categoryId : Option (Option Id) := none
  trackingType : Option TrackingType := none
  barcode : Option String := none
  specifications : Option Fields := none
  reorderThreshold : Option Nat := none

/-- The columns an edit sets. -/
structure ProductPatch where
  brand : Option String
  model : Option String
  variant : Option (Option String)
  reorderThreshold : Option Nat
  specifications : Option Fields
  categoryId : Option (Option Id)
  trackingType : Option TrackingType
  barcode : Option (Option String)

def ProductPatch.changed (patch : ProductPatch) : Bool :=
  patch.brand.isSome || patch.model.isSome || patch.variant.isSome ||
    patch.reorderThreshold.isSome || patch.specifications.isSome || patch.categoryId.isSome ||
    patch.trackingType.isSome || patch.barcode.isSome

def patched (patch : ProductPatch) (product : Product) : Product :=
  { product with
    brand := patch.brand.getD product.brand
    model := patch.model.getD product.model
    variant := patch.variant.getD product.variant
    reorderThreshold := patch.reorderThreshold.getD product.reorderThreshold
    specifications := patch.specifications.or product.specifications
    categoryId := patch.categoryId.getD product.categoryId
    trackingType := patch.trackingType.getD product.trackingType
    barcode := patch.barcode.getD product.barcode }

theorem patched_id (patch : ProductPatch) (product : Product) :
    (patched patch product).id = product.id := rfl

/-- The mode of the category the product will belong to, if it will have one. -/
def modeAfter (ctx : Ctx) (before : Product) (categoryId : Option (Option Id)) :
    Request (Option TrackingType) :=
  match categoryId with
  | some none => pure none
  | some (some id) => do
      let found ← .read () (fun store => ownCategory store.db ctx.companyId id)
      let category ← .expect categoryNotFound found
      pure (some category.defaultTrackingType)
  | none =>
      match before.categoryId with
      | none => pure none
      | some id => do
          let found ← .read () (fun store => ownCategory store.db ctx.companyId id)
          pure (found.map ProductCategory.defaultTrackingType)

def changeTracking (ctx : Ctx) (before : Product) (categoryMode : Option TrackingType)
    (clientMode : Option TrackingType) : Request (Option TrackingType) := do
  let next ← .liftExcept (match categoryMode with
    | some mode => resolveTrackingType mode clientMode
    | none => .ok (clientMode.getD before.trackingType))
  if next = before.trackingType then pure none
  else
    .liftExcept (assertSelectableTrackingType next (some before.trackingType))
    let history ← .read () (fun store => hasHistory store.db ctx.companyId before.id)
    .liftExcept (assertTrackingChangeSafe history before.trackingType next)
    pure (some next)

def changeBarcode (engine : Imports.Engine) (ctx : Ctx) (before : Product)
    (raw : Option String) : Request (Option (Option String)) :=
  match raw with
  | none => pure none
  | some text =>
      let barcode := normalizeBarcode (some text)
      if barcode = before.barcode then pure none
      else match barcode with
        | none => pure (some none)
        | some code => do
            assertBarcodeFree engine ctx code (some before.id)
            pure (some (some code))

def updateTx (engine : Imports.Engine) (ctx : Ctx) (eventId : Id) (before : Product)
    (patch : ProductPatch) (store : CatalogDb) : Except Refusal CatalogDb := do
  let db ← updateProduct engine before.id (patched patch) (patched_id patch) store.db
  let memory := match patch.barcode with
    | none => store.memory
    | some barcode => queueBarcode eventId ctx.companyId before.id barcode
        (forgetBarcode engine ctx.companyId before.id before.barcode store.memory)
  .ok ((store.withDb db).withMemory memory)

def update (engine : Imports.Engine) (sweeping : Sweeping) (ctx : Ctx) (eventId id : Id)
    (dto : UpdateProductDto) : Request Product := do
  let before ← requireProduct ctx id
  let brand := dto.brand.filter (· ≠ before.brand)
  .require (brand ≠ some "") (.badRequest "Brand cannot be empty")
  let model := dto.model.filter (· ≠ before.model)
  .require (model ≠ some "") (.badRequest "Model cannot be empty")
  let variant := (dto.variant.map (fun text => if text = "" then none else some text)).filter
    (· ≠ before.variant)
  let reorderThreshold := dto.reorderThreshold.filter (· ≠ before.reorderThreshold)
  .liftExcept (assertSpecificationsSafe dto.specifications)
  let categoryMode ← modeAfter ctx before dto.categoryId
  let categoryId := dto.categoryId.filter (· ≠ before.categoryId)
  let trackingType ← changeTracking ctx before categoryMode dto.trackingType
  let barcode ← changeBarcode engine ctx before dto.barcode
  let patch : ProductPatch := ⟨brand, model, variant, reorderThreshold, dto.specifications,
    categoryId, trackingType, barcode⟩
  .require (patch.changed = true) (.badRequest "No changes were provided")
  .commit () (updateTx engine ctx eventId before patch)
  match barcode with
  | some (some _) => processNow sweeping
  | _ => pure ()
  requireProduct ctx id

end ErpBackend.Catalog
