import ErpBackend.Inventory.Identifiers
import ErpBackend.Imports.RowValidation

/-!
# ImportsService

A preview decides every row of a sheet and stores what it decided; a commit
creates stock from the rows that passed, in one transaction that the version of
the batch guards.
-/

namespace ErpBackend.Imports

open Foundation Inventory

/-- Two texts are equal to the database when they weigh the same under its collation; and
`findFirst` without an order ends at some row. -/
structure Engine where
  weight : String → String
  pick : Lookup Product

inductive ImportStatus where
  | parsing
  | preview
  | committed
  | failed
  deriving DecidableEq

/-- A row of `import_batches`. -/
structure ImportBatch where
  id : Id
  companyId : Id
  branchId : Id
  userId : Option Id
  status : ImportStatus := .parsing
  totalRows : Nat := 0
  validRows : Nat := 0
  warningRows : Nat := 0
  errorRows : Nat := 0
  kind : Option ImportKind := none
  originalFilename : String
  mapping : List HeaderGuess
  importedRows : Nat := 0
  committedAt : Option Time := none
  committedById : Option Id := none
  clientUuid : Option Id := none
  version : Nat := 0
  deriving DecidableEq

/-- What a row produced; a stock row goes by its product and branch. -/
inductive Created where
  | unit (id : Id)
  | stockItem (productId branchId : Id)
  deriving DecidableEq

/-- A row of `import_rows`. -/
structure ImportRow where
  id : Id
  companyId : Id
  batchId : Id
  rowNumber : Nat
  raw : List String
  parsed : ParsedRow
  status : RowStatus
  message : Option String
  identifier : Option String
  created : Option Created := none
  deriving DecidableEq

structure ImportDb where
  db : Db
  importBatches : Table ImportBatch ImportBatch.id := .empty
  importRows : Table ImportRow ImportRow.id := .empty

/-- What a step is about to do: bring in a batch, as it and its rows were read. -/
inductive Mark where
  | other
  | bringIn (batch : ImportBatch) (rows : List ImportRow)
  deriving DecidableEq

abbrev Request (α : Type) := Prog ImportDb Mark Refusal α

def findBatch (store : ImportDb) (companyId branchId id : Id) : Option ImportBatch :=
  (store.importBatches.find? id).filter (fun batch =>
    batch.companyId = companyId ∧ batch.branchId = branchId)

def rowsOf (store : ImportDb) (batchId : Id) : List ImportRow :=
  store.importRows.filter (fun row => row.batchId = batchId)

structure RowView where
  rowNumber : Nat
  status : RowStatus
  message : Option String
  identifier : Option String
  parsed : ParsedRow
  created : Option Created
  deriving DecidableEq

structure ImportView where
  id : Id
  filename : String
  status : ImportStatus
  kind : Option ImportKind
  mapping : List HeaderGuess
  counts : Summary
  imported : Nat
  committedAt : Option Time
  version : Nat
  rows : List RowView
  problems : List MappingProblem := []

def rank : RowStatus → Nat
  | .error => 0
  | .warning => 1
  | .valid => 2

def viewRows (store : ImportDb) (batchId : Id) : List RowView :=
  let page := ((rowsOf store batchId).insertionSort
    (fun a b => a.rowNumber ≤ b.rowNumber)).take 500
  let sorted := page.insertionSort (fun a b =>
    rank a.status < rank b.status ∨ rank a.status = rank b.status ∧ a.rowNumber ≤ b.rowNumber)
  sorted.map (fun row =>
    ⟨row.rowNumber, row.status, row.message, row.identifier, row.parsed, row.created⟩)

def viewOf (store : ImportDb) (batch : ImportBatch) : ImportView where
  id := batch.id
  filename := batch.originalFilename
  status := batch.status
  kind := batch.kind
  mapping := batch.mapping
  counts := ⟨batch.totalRows, batch.validRows, batch.warningRows, batch.errorRows,
    batch.validRows + batch.warningRows⟩
  imported := batch.importedRows
  committedAt := batch.committedAt
  version := batch.version
  rows := viewRows store batch.id

def noSuchImport : Refusal := .notFound "No such import"

def get (ctx : Ctx) (id : Id) : Request ImportView := do
  let branchId ← .expect branchRequired ctx.branchId
  let found ← .read .other (fun store =>
    (findBatch store ctx.companyId branchId id).map (viewOf store))
  .expect noSuchImport found

def identifierField : ImportKind → ImportField
  | .imei => .imei
  | .serial => .serialNo
  | .quantity => .barcode

def cellsOf (mapping : List HeaderGuess) (raw : List String) : Cells := fun field =>
  (columnOf mapping field).map (fun index => (raw[index]?).getD "")

def claimedBy (kind : ImportKind) (mapping : List HeaderGuess) (body : List (List String)) :
    List String :=
  (body.map (fun raw => trim (stripMarks ((cellsOf mapping raw (identifierField kind)).getD "")))
    ).filter (· ≠ "")

/-- Every identifier of the company's units that have one the sheet names. -/
def existsInShop (engine : Engine) (db : Db) (companyId : Id) (claimed : List String) :
    List String :=
  ((db.units.filter (fun unit => unit.companyId = companyId ∧
    [unit.imeiPrimary, unit.imeiSecondary, unit.serialNo].any (fun code => code.any (fun held =>
      claimed.any (fun named => engine.weight named = engine.weight held))))).flatMap (fun unit =>
        [unit.imeiPrimary, unit.imeiSecondary, unit.serialNo].reduceOption)).filter (· ≠ "")

structure Decided where
  rowNumber : Nat
  raw : List String
  identifier : Option String
  verdict : RowVerdict
  deriving DecidableEq

def decideFrom (kind : ImportKind) (mapping : List HeaderGuess) (inShop : List String) :
    Nat → List String → List (List String) → List Decided
  | _, _, [] => []
  | rowNumber, seenInFile, raw :: rest =>
      let verdict := validateRow kind seenInFile inShop (cellsOf mapping raw)
      let identifier := verdict.parsed.identifier
      ⟨rowNumber, raw, identifier, verdict⟩ ::
        decideFrom kind mapping inShop (rowNumber + 1) (identifier.toList ++ seenInFile) rest

def decideRows (engine : Engine) (db : Db) (companyId : Id) (kind : ImportKind)
    (mapping : List HeaderGuess) (body : List (List String)) : List Decided :=
  decideFrom kind mapping (existsInShop engine db companyId (claimedBy kind mapping body)) 2 []
    body

structure PreviewIds where
  batch : Id
  row : Nat → Id

def insertBatch (batch : ImportBatch) (store : ImportDb) : Except Refusal ImportDb :=
  if batch.clientUuid.isSome ∧ store.importBatches.any (fun other =>
      other.companyId = batch.companyId ∧ other.clientUuid = batch.clientUuid) then
    .error (.unique "ux_import_batches_client_uuid")
  else match store.importBatches.insert? batch with
    | none => .error (.unique "PRIMARY")
    | some importBatches => .ok { store with importBatches }

def joined (messages : List String) : Option String :=
  if messages = [] then none else some (String.intercalate " · " messages)

def importRow (companyId batchId id : Id) (decided : Decided) : ImportRow where
  id := id
  companyId := companyId
  batchId := batchId
  rowNumber := decided.rowNumber
  raw := decided.raw
  parsed := decided.verdict.parsed
  status := decided.verdict.status
  message := joined decided.verdict.messages
  identifier := decided.identifier

def insertRows (companyId : Id) (ids : PreviewIds) : Nat → List Decided → ImportDb →
    Except Refusal ImportDb
  | _, [], store => .ok store
  | index, decided :: rest, store =>
      match store.importRows.insert? (importRow companyId ids.batch (ids.row index) decided) with
      | none => .error (.unique "PRIMARY")
      | some importRows => insertRows companyId ids (index + 1) rest { store with importRows }

def failedBatch (ctx : Ctx) (branchId : Id) (ids : PreviewIds) (originalname : String)
    (mapping : List HeaderGuess) (total : Nat) (clientUuid : Option Id) : ImportBatch where
  id := ids.batch
  companyId := ctx.companyId
  branchId := branchId
  userId := ctx.userId
  originalFilename := originalname
  status := .failed
  mapping := mapping
  totalRows := total
  clientUuid := clientUuid

def previewBatch (ctx : Ctx) (branchId : Id) (ids : PreviewIds) (originalname : String)
    (kind : ImportKind) (mapping : List HeaderGuess) (counts : Summary) (clientUuid : Option Id) :
    ImportBatch where
  id := ids.batch
  companyId := ctx.companyId
  branchId := branchId
  userId := ctx.userId
  originalFilename := originalname
  status := .preview
  kind := some kind
  mapping := mapping
  totalRows := counts.total
  validRows := counts.valid
  warningRows := counts.warning
  errorRows := counts.error
  clientUuid := clientUuid

def previewTx (batch : ImportBatch) (ids : PreviewIds) (decided : List Decided)
    (store : ImportDb) : Except Refusal ImportDb := do
  let recorded ← insertBatch batch store
  insertRows batch.companyId ids 0 decided recorded

/-- `sheet` is what the file reader makes of the file. -/
def preview (engine : Engine) (ctx : Ctx) (ids : PreviewIds) (originalname : String)
    (sheet : List (List String)) (clientUuid : Option Id) : Request ImportView := do
  let branchId ← .expect branchRequired ctx.branchId
  let replay ← .read .other (fun store =>
    clientUuid.bind (fun uuid => store.importBatches.rows.find? (fun batch =>
      batch.companyId = ctx.companyId ∧ batch.clientUuid = some uuid)))
  match replay with
  | some batch => get ctx batch.id
  | none =>
      .require (2 ≤ sheet.length) (.badRequest "That file has a header but no rows")
      let mapping := guessMapping (sheet.headD [])
      let body := sheet.tail
      let problems := missingRequirements mapping
      match problems, kindOf mapping with
      | [], some kind =>
          let decided ← .read .other (fun store =>
            decideRows engine store.db ctx.companyId kind mapping body)
          let counts := summarise (decided.map Decided.verdict)
          .commit .other (previewTx
            (previewBatch ctx branchId ids originalname kind mapping counts clientUuid) ids decided)
          get ctx ids.batch
      | _, _ =>
          .commit .other (insertBatch
            (failedBatch ctx branchId ids originalname mapping body.length clientUuid))
          let view ← get ctx ids.batch
          pure { view with problems }

structure CommitIds where
  product : Nat → Id
  unit : Nat → Id

def brandOf (parsed : ParsedRow) : String :=
  (trimOrNull parsed.brand).getD "Unbranded"

def modelOf (parsed : ParsedRow) : String := trim (parsed.model.getD "")

def variantOf (parsed : ParsedRow) : Option String := trimOrNull parsed.variant

structure ProductKey where
  companyId : Id
  brand : String
  model : String
  variant : Option String
  deriving DecidableEq

def Engine.keyOf (engine : Engine) (product : Product) : ProductKey :=
  ⟨product.companyId, engine.weight product.brand, engine.weight product.model,
    product.variant.map engine.weight⟩

def Engine.keyFor (engine : Engine) (companyId : Id) (parsed : ParsedRow) : ProductKey :=
  ⟨companyId, engine.weight (brandOf parsed), engine.weight (modelOf parsed),
    (variantOf parsed).map engine.weight⟩

def trackingOf : Option ImportKind → TrackingType
  | some .quantity => .quantity
  | some .imei => .imei
  | _ => .serial

def newProduct (id companyId : Id) (kind : Option ImportKind) (parsed : ParsedRow) : Product where
  id := id
  companyId := companyId
  brand := brandOf parsed
  model := modelOf parsed
  variant := variantOf parsed
  trackingType := trackingOf kind
  defaultPrice := none

def productFor (engine : Engine) (db : Db) (companyId : Id) (parsed : ParsedRow) :
    Option Product :=
  engine.pick.pick (db.products.filter (fun product =>
    engine.keyOf product = engine.keyFor companyId parsed))

/-- No two products share brand, model and variant, unless without a variant. -/
def insertProduct (engine : Engine) (product : Product) (db : Db) : Except Refusal Db :=
  if product.variant.isSome ∧ db.products.any (fun other =>
      engine.keyOf other = engine.keyOf product) then
    .error (.unique "products_company_id_brand_model_variant_key")
  else match db.products.insert? product with
    | none => .error (.unique "PRIMARY")
    | some products => .ok { db with products }

def findOrCreateProduct (engine : Engine) (newId companyId : Id) (kind : Option ImportKind)
    (parsed : ParsedRow) (db : Db) : Except Refusal (Db × Id) :=
  match productFor engine db companyId parsed with
  | some product => .ok (db, product.id)
  | none => do
      let created ← insertProduct engine (newProduct newId companyId kind parsed) db
      .ok (created, newId)

def Engine.weighed (engine : Engine) (unit : StockUnit) : StockUnit :=
  { unit with
    imeiPrimary := unit.imeiPrimary.map engine.weight
    imeiSecondary := unit.imeiSecondary.map engine.weight
    serialNo := unit.serialNo.map engine.weight }

/-- The `CHECK`s on the two IMEI columns. -/
def imeiFormat (code : Option String) : Bool :=
  code.all (fun imei => imei.toList.length = 15 ∧ imei.toList.all Char.isDigit)

/-- Insert trigger, `CHECK`s and unique keys of `units`. -/
def createUnit (engine : Engine) (unit : StockUnit) (db : Db) : Except Refusal Db := do
  identifierTrigger (engine.weighed unit) (db.units.rows.map engine.weighed)
  if !imeiFormat unit.imeiPrimary then .error (.constraint "units_imei_primary_format_chk")
  else if !imeiFormat unit.imeiSecondary then
    .error (.constraint "units_imei_secondary_format_chk")
  else do
    identifierKeys (engine.weighed unit) (db.units.rows.map engine.weighed)
    match db.units.insert? unit with
    | none => .error (.unique "PRIMARY")
    | some units => .ok { db with units }

def costOf (parsed : ParsedRow) : Int := (parsed.cost.getD .zero).cents

def importedUnit (id companyId branchId productId : Id) (kind : Option ImportKind)
    (parsed : ParsedRow) : StockUnit where
  id := id
  companyId := companyId
  branchId := branchId
  productId := productId
  imeiPrimary := if kind = some .imei then parsed.imei else none
  imeiSecondary := none
  serialNo := if kind = some .serial then parsed.serialNo else none
  cost := costOf parsed
  status := .inStock
  dateSold := none

/-- More on the shelf, at the cost that is there, or a new shelf at this cost. -/
def mergeStock (companyId productId branchId : Id) (amount cost : Int) (db : Db) :
    Except Refusal Db :=
  match db.stockItems.find? (companyId, productId, branchId) with
  | some _ => do
      let (stocked, _) ← updateStock companyId productId branchId (fun _ => true)
        (fun item => { item with quantity := item.quantity + amount }) (fun _ => rfl) db
      .ok stocked
  | none => do
      let item : StockItem := ⟨companyId, productId, branchId, amount, cost, none, 0, 0⟩
      checkStock item
      match db.stockItems.insert? item with
      | none => .error (.unique "stock_items_company_id_product_id_branch_id_key")
      | some stockItems => .ok { db with stockItems }

def linked (created : Created) (row : ImportRow) : ImportRow :=
  { row with created := some created }

theorem linked_id (created : Created) (row : ImportRow) : (linked created row).id = row.id := rfl

def linkRow (rowId : Id) (created : Created) (store : ImportDb) : Except Refusal ImportDb :=
  match store.importRows.find? rowId with
  | none => .error (.internal "An operation failed because it depends on one or more records")
  | some _ => .ok { store with
      importRows := store.importRows.update rowId (linked created) (linked_id created) }

/-- One row of the loop: its product, and then a shelf or a unit. -/
def bringInRow (engine : Engine) (batch : ImportBatch) (ids : CommitIds) (index : Nat)
    (row : ImportRow) (store : ImportDb) : Except Refusal ImportDb := do
  let (db, productId) ← findOrCreateProduct engine (ids.product index) batch.companyId batch.kind
    row.parsed store.db
  match batch.kind with
  | some .quantity =>
      let stocked ← mergeStock batch.companyId productId batch.branchId
        (row.parsed.quantity.getD 0) (costOf row.parsed) db
      linkRow row.id (.stockItem productId batch.branchId) { store with db := stocked }
  | kind =>
      let stocked ← createUnit engine (importedUnit (ids.unit index) batch.companyId batch.branchId
        productId kind row.parsed) db
      linkRow row.id (.unit (ids.unit index)) { store with db := stocked }

def bringInRows (engine : Engine) (batch : ImportBatch) (ids : CommitIds) :
    Nat → List ImportRow → ImportDb → Except Refusal ImportDb
  | _, [], store => .ok store
  | index, row :: rest, store => do
      let brought ← bringInRow engine batch ids index row store
      bringInRows engine batch ids (index + 1) rest brought

def importable (rows : List ImportRow) : List ImportRow :=
  rows.filter (fun row => row.status ≠ .error)

def claimedBatch (batch : ImportBatch) : ImportBatch :=
  { batch with version := batch.version + 1 }

def committedBatch (now : Time) (userId : Id) (imported : Nat) (batch : ImportBatch) :
    ImportBatch :=
  { batch with
    status := .committed
    committedAt := some now
    committedById := some userId
    importedRows := imported
    version := batch.version + 1 }

theorem claimedBatch_id (batch : ImportBatch) : (claimedBatch batch).id = batch.id := rfl

theorem committedBatch_id (now : Time) (userId : Id) (imported : Nat) (batch : ImportBatch) :
    (committedBatch now userId imported batch).id = batch.id := rfl

def alreadyBringingIn : Refusal :=
  .conflict "refresh_required: this import was already being brought in"

/-- The version guard, the rows one after another, and the batch closed. -/
def commitTx (engine : Engine) (ctx : Ctx) (userId : Id) (batch : ImportBatch) (ids : CommitIds)
    (rows : List ImportRow) (store : ImportDb) : Except Refusal (ImportDb × Nat) :=
  match store.importBatches.swap? batch.id (fun current =>
      current.companyId = ctx.companyId ∧ current.version = batch.version ∧
        current.status = .preview) claimedBatch claimedBatch_id with
  | none => .error alreadyBringingIn
  | some importBatches => do
      let brought ← bringInRows engine batch ids 0 rows { store with importBatches }
      .ok ({ brought with
        importBatches := brought.importBatches.update batch.id
          (committedBatch ctx.now userId rows.length) (committedBatch_id _ _ _) }, rows.length)

def commit (engine : Engine) (ctx : Ctx) (ids : CommitIds) (id : Id)
    (expectedVersion : Option Nat) : Request (ImportView × Nat) := do
  let branchId ← .expect branchRequired ctx.branchId
  let userId ← .expect (.badRequest "No authenticated user") ctx.userId
  let found ← .read .other (fun store =>
    (findBatch store ctx.companyId branchId id).map (fun batch => (batch, rowsOf store batch.id)))
  let (batch, rows) ← .expect noSuchImport found
  .require (batch.status ≠ .committed) (.conflict "That import has already been brought in")
  .require (batch.status = .preview)
    (.badRequest "That file could not be read, so there is nothing to bring in")
  .require (∀ version ∈ expectedVersion, version = batch.version)
    (.conflict "refresh_required: this import changed while you were reviewing it")
  .require (importable rows ≠ [])
    (.badRequest "Every row has a problem, so there is nothing to bring in")
  let imported ← .transact (.bringIn batch rows) (commitTx engine ctx userId batch ids
    (importable rows))
  let view ← get ctx id
  pure (view, imported)

end ErpBackend.Imports
