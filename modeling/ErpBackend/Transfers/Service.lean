import ErpBackend.Transfers.Rules

/-!
# TransfersService

Moving stock between two branches of a company. The service reads the transfer
first and decides on what it read; the transaction that follows swaps on the
version the client sends.
-/

namespace ErpBackend.Transfers

open Foundation Inventory

structure TransferSummary where
  id : Id
  transferNo : Option String
  status : TransferStatus
  autoApproved : Bool
  version : Int
  counts : LineCounts

/-- `expectedVersion` is any integer from zero on. -/
structure TransferDecisionDto where
  expectedVersion : Nat
  reason : Option String := none

structure ReceiveTransferDto where
  identifiers : List String
  expectedVersion : Nat

def itemsOf (db : Db) (transferId : Id) : List TransferItem :=
  db.transferItems.filter (fun item => item.transferId = transferId)

def findReplay (db : Db) (companyId : Id) (dto : CreateTransferDto) (lines : NormalizedLines) :
    Except Refusal (Option TransferSummary) :=
  match db.stockTransfers.rows.find? (fun transfer =>
      transfer.companyId = companyId ∧ transfer.clientUuid = some dto.clientUuid) with
  | none => .ok none
  | some prior =>
      if prior.clientRequestHash.any
          (· ≠ transferFingerprint lines prior.fromBranchId dto.toBranchId) then
        .error (.conflict
          "This request id was already used for a different transfer. Start a new one.")
      else .ok (some
        { id := prior.id
          transferNo := prior.transferNo
          status := prior.status
          autoApproved := prior.autoApproved
          version := prior.version
          counts := countLines ((itemsOf db prior.id).map (fun item =>
            (item.unitId, item.quantity))) })

structure PlannedLine where
  productId : Id
  quantity : LineQuantity

def planProblem (products : List Product) (stock : List StockItem) (line : QuantityLine) :
    Option Problem :=
  let productId := uuidToBin line.productId
  match products.find? (fun product => product.id = productId) with
  | none => some { productId := some productId, reason := some "not found" }
  | some product =>
      if product.trackingType ≠ .quantity then
        some
          { productId := some productId
            product := some product.label
            reason := some "is tracked individually — send its IMEI or serial instead" }
      else if stock.any (fun row => row.productId = productId) then none
      else some
        { productId := some productId
          product := some product.label
          reason := some "none at this branch" }

def planQuantityLines (products : List Product) (stock : List StockItem)
    (lines : NormalizedLines) : Except Refusal (List PlannedLine) :=
  let problems := lines.quantities.filterMap (planProblem products stock)
  if problems ≠ [] then
    .error ((Refusal.badRequest "Some items cannot be transferred").about problems)
  else .ok (lines.quantities.map (fun line => ⟨uuidToBin line.productId, line.quantity⟩))

/-- `new Map(units.map((u) => [unitIdentifier(u), u])).get(identifier)`. -/
def byIdentifier (units : List StockUnit) (identifier : String) : Option StockUnit :=
  units.reverse.find? (fun unit => unit.identifier = identifier)

def unitProblem (units : List StockUnit) (fromBranchId : Id) (identifier : String) :
    Option Problem :=
  match byIdentifier units identifier with
  | none => some { identifier := some identifier, reason := some "not found" }
  | some unit =>
      if unit.status ≠ .inStock then
        some
          { identifier := some identifier
            reason := some ("is " ++ unitStatusText unit.status) }
      else if unit.branchId ≠ fromBranchId then
        some { identifier := some identifier, reason := some "not at this branch" }
      else none

/-- Compare-and-swap each phone to `reserved`. -/
def reserveUnits (companyId fromBranchId : Id) : List (String × Id) → Db → Except Refusal Db
  | [], db => .ok db
  | (identifier, unitId) :: rest, db =>
      match db.units.swap? unitId (fun unit => unit.companyId = companyId ∧
          unit.branchId = fromBranchId ∧ unit.status = .inStock)
          (fun unit => { unit with status := .reserved }) (fun _ => rfl) with
      | none => .error ((Refusal.conflict "That item is no longer available").about
          [{ identifier := some identifier, reason := some "claimed by someone else" }])
      | some units => reserveUnits companyId fromBranchId rest { db with units }

def unavailable (db : Db) (companyId branchId : Id) (line : PlannedLine) : Refusal :=
  let row := db.stockItems.find? (companyId, line.productId, branchId)
  let quantity := (row.map StockItem.quantity).getD 0
  let reserved := (row.map StockItem.reservedQuantity).getD 0
  (Refusal.conflict "There is not enough of that left to transfer").about
    [{ productId := some line.productId
       product := row.bind (fun row => (db.products.find? row.productId).map Product.label)
       requested := some line.quantity.value
       physicalQuantity := some quantity
       reservedQuantity := some reserved
       availableQuantity := some (max (quantity - reserved) 0)
       reason := some "claimed by someone else" }]

def reserveLines (companyId fromBranchId : Id) : List PlannedLine → Db → Except Refusal Db
  | [], db => .ok db
  | line :: rest, db => do
      let (reserved, found) ←
        reserveQuantity companyId line.productId fromBranchId line.quantity.value db
      if !found then .error (unavailable db companyId fromBranchId line)
      else reserveLines companyId fromBranchId rest reserved

def insertTransfer (transfer : StockTransfer) (db : Db) : Except Refusal Db :=
  if transfer.transferNo ≠ none ∧ db.stockTransfers.any (fun other =>
      other.fromBranchId = transfer.fromBranchId ∧ other.transferNo = transfer.transferNo) then
    .error (.unique "stock_transfers_from_branch_id_transfer_no_key")
  else if transfer.clientUuid ≠ none ∧ db.stockTransfers.any (fun other =>
      other.companyId = transfer.companyId ∧ other.clientUuid = transfer.clientUuid) then
    .error (.unique "stock_transfers_company_id_client_uuid_key")
  else db.stockTransfers.store transfer (.unique "PRIMARY") (fun stockTransfers =>
    { db with stockTransfers })

def insertTransferItem (item : TransferItem) (db : Db) : Except Refusal Db :=
  if item.productId ≠ none ∧ db.transferItems.any (fun other =>
      other.transferId = item.transferId ∧ other.productId = item.productId) then
    .error (.unique "transfer_items_transfer_id_product_id_key")
  else match db.transferItems.insert? item with
    | none => .error (.unique "PRIMARY")
    | some transferItems => .ok { db with transferItems }

def insertTransferItems : List TransferItem → Db → Except Refusal Db
  | [], db => .ok db
  | item :: rest, db => do
      let inserted ← insertTransferItem item db
      insertTransferItems rest inserted

structure TransferIds where
  transfer : Id
  items : Nat → Id

def itemFor (companyId : Id) (ids : TransferIds) (index : Nat) (unitId productId : Option Id)
    (quantity : Int) : TransferItem where
  id := ids.items index
  companyId := companyId
  transferId := ids.transfer
  unitId := unitId
  productId := productId
  quantity := quantity
  shippedUnitCost := none

def newItems (companyId : Id) (ids : TransferIds) (units : List (String × Id))
    (plan : List PlannedLine) : List TransferItem :=
  units.mapIdx (fun index unit => itemFor companyId ids index (some unit.2) none 1) ++
    plan.mapIdx (fun index line => itemFor companyId ids (units.length + index) none
      (some line.productId) line.quantity.value)

def transferNumber (prefixText : String) (seq : Nat) : String :=
  "TRF-" ++ (if prefixText = "" then "" else prefixText ++ "-") ++ padStart 6 (toString seq)

def newTransfer (ctx : Ctx) (selfApproves : Bool) (fromBranchId : Id) (ids : TransferIds)
    (dto : CreateTransferDto) (lines : NormalizedLines) (transferNo : String) : StockTransfer where
  id := ids.transfer
  companyId := ctx.companyId
  fromBranchId := fromBranchId
  toBranchId := uuidToBin dto.toBranchId
  transferNo := some transferNo
  status := if selfApproves then .approved else .pendingApproval
  sentById := none
  receivedById := none
  sentAt := ctx.now
  receivedAt := none
  clientUuid := some dto.clientUuid
  clientRequestHash := some (transferFingerprint lines fromBranchId dto.toBranchId)
  version := 0
  requestedById := ctx.userId
  approvedById := if selfApproves then ctx.userId else none
  approvedAt := if selfApproves then some ctx.now else none
  autoApproved := selfApproves
  decisionReason := none
  decidedById := none
  decidedAt := none

structure TransferPlan where
  lines : NormalizedLines
  units : List (String × Id)
  stock : List PlannedLine
  prefixText : String

def writeTransfer (ctx : Ctx) (selfApproves : Bool) (fromBranchId : Id) (ids : TransferIds)
    (dto : CreateTransferDto) (plan : TransferPlan) (db : Db) :
    Except Refusal (Db × TransferSummary) := do
  let claimed ← reserveUnits ctx.companyId fromBranchId plan.units db
  let reserved ← reserveLines ctx.companyId fromBranchId plan.stock claimed
  let (numbered, seq) ← nextNumber ctx.companyId fromBranchId .transfer reserved
  let transfer := newTransfer ctx selfApproves fromBranchId ids dto plan.lines
    (transferNumber plan.prefixText seq)
  let opened ← insertTransfer transfer numbered
  let items := newItems ctx.companyId ids plan.units plan.stock
  let listed ← insertTransferItems items opened
  .ok (listed,
    { id := transfer.id
      transferNo := transfer.transferNo
      status := transfer.status
      autoApproved := selfApproves
      version := 0
      counts := countLines (items.map (fun item => (item.unitId, item.quantity))) })

def recover (companyId : Id) (dto : CreateTransferDto) (lines : NormalizedLines)
    (refusal : Refusal) : Request TransferSummary := do
  if refusal.kind = .unique ∨ refusal.kind = .conflict then
    let replay ← .read .other (fun db => findReplay db companyId dto lines)
    let winner ← .liftExcept replay
    match winner with
    | some summary => pure summary
    | none => .refuse refusal
  else .refuse refusal

def create (ctx : Ctx) (has : Permission → Bool) (ids : TransferIds) (dto : CreateTransferDto) :
    Request TransferSummary := do
  let companyId := ctx.companyId
  let fromBranchId ← .expect branchRequired ctx.branchId
  let toBranchId := uuidToBin dto.toBranchId
  .require (fromBranchId ≠ toBranchId) (.badRequest "Cannot transfer to the same branch")
  let lines ← .liftExcept (normalizeLines dto)
  let replay ← .read .other (fun db => findReplay db companyId dto lines)
  let prior ← .liftExcept replay
  match prior with
  | some summary => pure summary
  | none =>
    let toBranch ← .read .other (fun db =>
      (db.branches.find? toBranchId).filter (fun branch => branch.companyId = companyId))
    .require toBranch.isSome (.notFound "Destination branch not found")
    let productIds := lines.quantities.map (fun line => uuidToBin line.productId)
    let products ← .read .other (fun db => db.products.filter (fun product =>
      product.companyId = companyId ∧ product.id ∈ productIds))
    let stock ← .read .other (fun db => db.stockItems.filter (fun row =>
      row.companyId = companyId ∧ row.branchId = fromBranchId ∧ row.productId ∈ productIds))
    let planned ← .liftExcept (planQuantityLines products stock lines)
    let units ← .read .other (fun db => db.units.filter (fun unit =>
      unit.companyId = companyId ∧
        (unit.imeiPrimary.any (· ∈ lines.identifiers) ∨
          unit.serialNo.any (· ∈ lines.identifiers))))
    let problems := lines.identifiers.filterMap (unitProblem units fromBranchId)
    .require (problems = []) ((Refusal.badRequest "Some units cannot be transferred").about
      problems)
    let named := lines.identifiers.filterMap (fun identifier =>
      (byIdentifier units identifier).map (fun unit => (identifier, unit.id)))
    let prefixText ← .read .other (fun db =>
      ((db.settings.rows.find? (fun setting => setting.companyId = companyId ∧
        setting.branchId = some fromBranchId ∧ setting.key = "transfer_prefix")).bind
        Setting.value).getD "")
    let created ← .attempt .other (writeTransfer ctx (has .transferApprove) fromBranchId ids dto
      ⟨lines, named, planned, prefixText⟩)
    match created with
    | .ok summary => pure summary
    | .error refusal => recover companyId dto lines refusal

def load (ctx : Ctx) (id : Id) : Request StockTransfer := do
  let found ← .read .other (fun db =>
    (db.stockTransfers.find? id).filter (fun transfer => transfer.companyId = ctx.companyId))
  .expect (.notFound "Transfer not found") found

/-- The version is what the client sent; the status is what the service loaded. -/
def transitionTx (companyId : Id) (transfer : StockTransfer) (target : TransferStatus)
    (expectedVersion : Nat) (f : StockTransfer → StockTransfer) (db : Db) : Except Refusal Db :=
  match assertTransferTransition transfer.status target with
  | .error refusal => .error refusal
  | .ok () =>
    match db.stockTransfers.swap? transfer.id
        (fun row => row.companyId = companyId ∧ row.version = expectedVersion)
        (fun row => { f row with id := row.id, status := target, version := row.version + 1 })
        (fun _ => rfl) with
    | none => .error (.coded "refresh_required"
        (.conflict "Someone else acted on this transfer. Refresh and try again."))
    | some stockTransfers => .ok { db with stockTransfers }

def releaseUnit (companyId : Id) (db : Db) (unitId : Id) : Db :=
  { db with
    units := db.units.modify
      (fun unit => unit.id = unitId ∧ unit.companyId = companyId ∧ unit.status = .reserved)
      (fun unit => { unit with status := .inStock }) (fun _ => rfl) }

def releaseLines (companyId fromBranchId : Id) : List TransferItem → Db → Except Refusal Db
  | [], db => .ok db
  | item :: rest, db =>
      match item.productId with
      | none => releaseLines companyId fromBranchId rest db
      | some productId => do
          let (released, _) ← releaseQuantity companyId productId fromBranchId item.quantity db
          releaseLines companyId fromBranchId rest released

def releaseReservationsTx (companyId transferId fromBranchId : Id) (db : Db) :
    Except Refusal Db :=
  let items := itemsOf db transferId
  releaseLines companyId fromBranchId items
    ((items.filterMap TransferItem.unitId).foldl (releaseUnit companyId) db)

def approve (ctx : Ctx) (id : Id) (dto : TransferDecisionDto) : Request StockTransfer := do
  let fromBranchId ← .expect branchRequired ctx.branchId
  let transfer ← load ctx id
  .require (transfer.fromBranchId = fromBranchId)
    (.forbidden "Approve from the branch the stock is leaving")
  .commit .other (transitionTx ctx.companyId transfer .approved dto.expectedVersion
    (fun row => { row with approvedById := ctx.userId, approvedAt := some ctx.now }))
  load ctx id

def decidedBy (ctx : Ctx) (reason : Option String) (row : StockTransfer) : StockTransfer :=
  { row with
    decisionReason := reason.map trim
    decidedById := ctx.userId
    decidedAt := some ctx.now }

/-- `rejected` and `cancelled` hand the stock back. -/
def withdraw (ctx : Ctx) (transfer : StockTransfer) (target : TransferStatus)
    (dto : TransferDecisionDto) (db : Db) : Except Refusal Db := do
  let moved ← transitionTx ctx.companyId transfer target dto.expectedVersion
    (decidedBy ctx dto.reason) db
  releaseReservationsTx ctx.companyId transfer.id transfer.fromBranchId moved

def reject (ctx : Ctx) (id : Id) (dto : TransferDecisionDto) : Request StockTransfer := do
  let fromBranchId ← .expect branchRequired ctx.branchId
  let transfer ← load ctx id
  .require (transfer.fromBranchId = fromBranchId)
    (.forbidden "Reject from the branch the stock is leaving")
  .require (blank dto.reason = false) (.badRequest "Say why the request is refused")
  .commit .other (withdraw ctx transfer .rejected dto)
  load ctx id

def cancel (ctx : Ctx) (has : Permission → Bool) (id : Id) (dto : TransferDecisionDto) :
    Request StockTransfer := do
  let activeBranch ← .expect branchRequired ctx.branchId
  let transfer ← load ctx id
  .require (transfer.fromBranchId = activeBranch)
    (.forbidden "Cancel from the branch the stock is leaving")
  .require (blank dto.reason = false) (.badRequest "Say why the transfer is being cancelled")
  .require (has .transferCancel ∨ transfer.requestedById ≠ none ∧
    transfer.requestedById = ctx.userId)
    (.forbidden "You can only withdraw a request you made yourself")
  .require (has .transferCancel ∨ transfer.status = .pendingApproval)
    (.forbidden "This request has already been acted on — ask a manager to cancel it")
  .require (transfer.status ≠ .inTransit)
    (.conflict "This transfer has already been shipped and cannot be cancelled")
  .commit .other (withdraw ctx transfer .cancelled dto)
  load ctx id

/-- An item with its unit, as `include: { unit: true }` returns it. -/
abbrev Loaded := TransferItem × Option StockUnit

def loadItems (db : Db) (transferId : Id) : List Loaded :=
  (itemsOf db transferId).map (fun item => (item, item.unitId.bind db.units.find?))

def ready (fromBranchId : Id) (loaded : Loaded) : Bool :=
  loaded.1.unitId.isNone || loaded.2.any (fun unit =>
    unit.status = .reserved ∧ unit.branchId = fromBranchId)

def shipUnits (companyId : Id) : List Loaded → Db → Except Refusal Db
  | [], db => .ok db
  | (item, unit) :: rest, db =>
      match item.unitId with
      | none => shipUnits companyId rest db
      | some unitId =>
          match db.units.swap? unitId
              (fun unit => unit.companyId = companyId ∧ unit.status = .reserved)
              (fun unit => { unit with status := .inTransit }) (fun _ => rfl) with
          | none => .error ((Refusal.conflict
              "Some units are no longer reserved for this transfer").about
              [{ identifier := unit.map StockUnit.identifier }])
          | some units => shipUnits companyId rest { db with units }

def noLongerReserved (item : TransferItem) (productId : Id) (source : StockItem) : Refusal :=
  (Refusal.conflict "That stock is no longer reserved for this transfer").about
    [{ productId := some productId
       requested := some item.quantity
       physicalQuantity := some source.quantity
       reservedQuantity := some source.reservedQuantity
       availableQuantity := some (max (source.quantity - source.reservedQuantity) 0) }]

def costShipped (itemId : Id) (cost : Int) (db : Db) : Db :=
  { db with
    transferItems := db.transferItems.update itemId
      (fun row => { row with shippedUnitCost := some cost }) (fun _ => rfl) }

def shipLines (companyId fromBranchId : Id) : List TransferItem → Db → Except Refusal Db
  | [], db => .ok db
  | item :: rest, db =>
      match item.productId with
      | none => shipLines companyId fromBranchId rest db
      | some productId =>
          match db.stockItems.find? (companyId, productId, fromBranchId) with
          | none => .error ((Refusal.conflict
              "That stock has no recorded cost, so it cannot be shipped").about
              [{ productId := some productId, reason := some "no cost on the source stock" }])
          | some source => do
              let (shipped, found) ←
                shipQuantity companyId productId fromBranchId item.quantity db
              if !found then .error (noLongerReserved item productId source)
              else shipLines companyId fromBranchId rest (costShipped item.id source.cost shipped)

def writeShipment (ctx : Ctx) (transfer : StockTransfer) (items : List Loaded)
    (expectedVersion : Nat) (db : Db) : Except Refusal Db := do
  let moved ← shipUnits ctx.companyId items db
  let shipped ← shipLines ctx.companyId transfer.fromBranchId (items.map Prod.fst) moved
  transitionTx ctx.companyId transfer .inTransit expectedVersion
    (fun row => { row with sentAt := ctx.now, sentById := ctx.userId }) shipped

def ship (ctx : Ctx) (id : Id) (dto : TransferDecisionDto) : Request Unit := do
  let fromBranchId ← .expect branchRequired ctx.branchId
  let transfer ← load ctx id
  .require (transfer.fromBranchId = fromBranchId) (.forbidden "Ship from the origin branch")
  .liftExcept (assertTransferTransition transfer.status .inTransit)
  let items ← .read .other (fun db => loadItems db transfer.id)
  .require (∀ loaded ∈ items, ready fromBranchId loaded = true)
    ((Refusal.conflict "Some units are no longer in stock at this branch").about
      ((items.filter (fun loaded => !ready fromBranchId loaded)).map (fun loaded =>
        { identifier := loaded.2.map StockUnit.identifier })))
  .commit .other (writeShipment ctx transfer items dto.expectedVersion)

def receiveUnit (companyId toBranchId : Id) (db : Db) (unitId : Id) : Db :=
  { db with
    units := db.units.modify
      (fun unit => unit.id = unitId ∧ unit.companyId = companyId ∧ unit.status = .inTransit)
      (fun unit => { unit with status := .inStock, branchId := toBranchId }) (fun _ => rfl) }

/-- A phone that changes branch loses the price it was given elsewhere. -/
def invalidateOnBranchMove (companyId : Id) (unitIds : List Id) (db : Db) : Db :=
  { db with
    unitPriceOverrides := db.unitPriceOverrides.delete (fun row =>
      row.companyId = companyId ∧ row.unitId ∈ unitIds) }

def receiveLines (companyId toBranchId : Id) : List TransferItem → Db → Except Refusal Db
  | [], db => .ok db
  | item :: rest, db =>
      match item.productId, item.shippedUnitCost with
      | none, _ => receiveLines companyId toBranchId rest db
      | some productId, none => .error ((Refusal.conflict
          "That line has no shipped cost recorded, so it cannot be received").about
          [{ productId := some productId, reason := some "never shipped" }])
      | some productId, some unitCost => do
          let received ← receiveQuantityAtCost companyId productId toBranchId item.quantity
            unitCost (priceForNewStockRow db companyId productId toBranchId) db
          receiveLines companyId toBranchId rest received

def scannedUnits (items : List Loaded) (report : DiscrepancyReport) : List StockUnit :=
  items.filterMap (fun loaded => loaded.2.filter (fun unit => unit.identifier ∈ report.matched))

def arriving (companyId : Id) (units : List StockUnit) (db : Db) : List StockUnit :=
  units.filter (fun unit => (db.units.find? unit.id).any (fun row =>
    row.companyId = companyId ∧ row.status = .inTransit))

def writeReceipt (ctx : Ctx) (transfer : StockTransfer) (toBranchId : Id) (items : List Loaded)
    (units : List StockUnit) (expectedVersion : Nat) (db : Db) : Except Refusal Db := do
  let moved := (arriving ctx.companyId units db).filter (fun unit => unit.branchId ≠ toBranchId)
  let arrived := (units.map StockUnit.id).foldl (receiveUnit ctx.companyId toBranchId) db
  let repriced := invalidateOnBranchMove ctx.companyId (moved.map StockUnit.id) arrived
  let received ← receiveLines ctx.companyId toBranchId (items.map Prod.fst) repriced
  transitionTx ctx.companyId transfer .received expectedVersion
    (fun row => { row with receivedById := ctx.userId, receivedAt := some ctx.now }) received

def receiveConfirm (ctx : Ctx) (id : Id) (dto : ReceiveTransferDto) :
    Request DiscrepancyReport := do
  let toBranchId ← .expect branchRequired ctx.branchId
  let transfer ← load ctx id
  .require (transfer.toBranchId = toBranchId) (.forbidden "Receive at the destination branch")
  .liftExcept (assertTransferTransition transfer.status .received)
  let items ← .read .other (fun db => loadItems db transfer.id)
  let report := computeDiscrepancy
    (items.filterMap (fun loaded => loaded.2.map StockUnit.identifier)) dto.identifiers
  let units := scannedUnits items report
  .commit (.arrive (units.map StockUnit.id))
    (writeReceipt ctx transfer toBranchId items units dto.expectedVersion)
  pure report

end ErpBackend.Transfers
