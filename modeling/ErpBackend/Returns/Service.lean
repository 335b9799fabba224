import ErpBackend.Returns.Rules
import ErpBackend.Analytics.Rollup

/-!
# ReturnsService

A return is requested, looked into and decided; an approved one is refunded by a
report and its confirmation. Each request reads first and then commits one
transaction, which swaps on the version the client sends.

A payout is looked up by its return, without an order. After a correction a
return has several payouts, so every request takes the `Lookup` that says which
of them the database yields.
-/

namespace ErpBackend.Returns

open Foundation Inventory

structure CreateReturnRequestDto where
  saleItemId : Id
  identifier : String
  requestReason : String
  conditionNotes : Option String := none
  storeHolds : Bool
  clientUuid : Id

structure ReceiveCustodyDto where
  identifier : String
  expectedVersion : Nat

structure InvestigateDto where
  responsibility : Option ReturnResponsibility := none
  responsibilityNotes : Option String := none
  conditionNotes : Option String := none
  expectedVersion : Nat

structure AdjustmentDto where
  kind : AdjustmentKind
  label : String
  quantity : Count
  unitAmount : Money
  expectedVersion : Nat

structure ApproveReturnDto where
  expectedVersion : Nat
  exceptionReason : Option String := none

structure RejectReturnDto where
  expectedVersion : Nat
  reason : String

structure ReportRefundDto where
  reportedAmount : Money
  method : Method
  receivingAccountId : Option Id := none
  transactionReference : Option String := none
  note : Option String := none
  clientUuid : Id

structure CorrectRefundDto where
  expectedVersion : Nat
  method : Option Method := none
  receivingAccountId : Option Id := none
  transactionReference : Option String := none
  note : Option String := none

structure ConfirmRefundDto where
  expectedVersion : Nat

/-- The row with what `include` brings. -/
structure LoadedReturn where
  request : ReturnRequest
  saleItem : SaleItem
  unit : StockUnit
  deriving DecidableEq

def findReturn (db : Db) (companyId branchId id : Id) : Option LoadedReturn := do
  let request ← (db.returnRequests.find? id).filter (fun request =>
    request.companyId = companyId ∧ request.branchId = branchId)
  let saleItem ← db.saleItems.find? request.saleItemId
  let unit ← db.units.find? request.unitId
  some ⟨request, saleItem, unit⟩

def load (ctx : Ctx) (branchId id : Id) : Request LoadedReturn := do
  let found ← .read .other (fun db => findReturn db ctx.companyId branchId id)
  .expect (.notFound "Return not found") found

def adjustmentsOf (db : Db) (companyId returnId : Id) : List ReturnAdjustment :=
  db.returnAdjustments.filter (fun row =>
    row.companyId = companyId ∧ row.returnRequestId = returnId)

def payoutsOf (db : Db) (companyId returnId : Id) : List RefundPayout :=
  db.refundPayouts.filter (fun row =>
    row.companyId = companyId ∧ row.returnRequestId = returnId)

def reversalOf (db : Db) (companyId returnId : Id) : Option ReturnReversal :=
  db.returnReversals.rows.find? (fun row =>
    row.companyId = companyId ∧ row.returnRequestId = returnId)

/-- `orderBy: { id: 'desc' }`. -/
def latestCorrection (db : Db) (companyId payoutId : Id) : Option FinancialCorrection :=
  (db.financialCorrections.filter (fun row => row.companyId = companyId ∧
    row.targetRefundPayoutId = some payoutId)).foldl
      (fun latest row => if latest.any (fun other => row.id < other.id) then latest
        else some row) none

structure ReturnMoney where
  provisional : Bool
  grossRefund : Int
  adjustmentTotal : Int
  netRefundDue : Int
  cost : Int
  deriving DecidableEq

structure ReturnDetail where
  request : ReturnRequest
  unit : StockUnit
  money : ReturnMoney
  adjustments : List ReturnAdjustment
  payout : Option RefundPayout
  correction : Option FinancialCorrection
  deriving DecidableEq

def detail (first : Lookup RefundPayout) (ctx : Ctx) (id : Id) : Request ReturnDetail := do
  let branchId ← .expect branchRequired ctx.branchId
  let loaded ← load ctx branchId id
  let adjustments ← .read .other (fun db => adjustmentsOf db ctx.companyId loaded.request.id)
  let payout ← .read .other (fun db =>
    first.pick (payoutsOf db ctx.companyId loaded.request.id))
  let correction ← .read .other (fun db =>
    payout.bind (fun row => latestCorrection db ctx.companyId row.id))
  let gross := grossRefundOf loaded.saleItem
  let adjustmentTotal := (adjustments.map ReturnAdjustment.totalAmount).sum
  pure
    { request := loaded.request
      unit := loaded.unit
      money :=
        { provisional := isProvisionalMoney loaded.request.status
          grossRefund := gross
          adjustmentTotal
          netRefundDue := gross - adjustmentTotal
          cost := loaded.saleItem.cost * loaded.saleItem.quantity }
      adjustments
      payout
      correction }

def staleWrite : Refusal :=
  .coded "refresh_required"
    (.conflict "Someone else acted on this return. Refresh and try again.")

def bumped (f : ReturnRequest → ReturnRequest) (row : ReturnRequest) : ReturnRequest :=
  { f row with id := row.id, version := row.version + 1 }

theorem bumped_id (f : ReturnRequest → ReturnRequest) (row : ReturnRequest) :
    (bumped f row).id = row.id := rfl

/-- `updateMany` on the version the client sends, and on the status where the caller
names one. -/
def swapRequest (companyId id : Id) (expectedVersion : Nat) (status : Option ReturnStatus)
    (f : ReturnRequest → ReturnRequest) (db : Db) : Except Refusal Db :=
  match db.returnRequests.swap? id (fun row => row.companyId = companyId ∧
      row.version = expectedVersion ∧ status.all (fun expected => row.status = expected))
      (bumped f) (bumped_id f) with
  | none => .error staleWrite
  | some returnRequests => .ok { db with returnRequests }

def moveUnitForCustody (companyId unitId : Id) (source target : UnitStatus) (db : Db) :
    Except Refusal Db := do
  assertUnitTransition source target
  match db.units.swap? unitId (fun unit => unit.companyId = companyId ∧ unit.status = source)
      (fun unit => { unit with status := target }) (fun _ => rfl) with
  | none => .error (.coded "unit_moved" (.conflict ("That phone is no longer in the state this " ++
      "return expected. Refresh and try again.")))
  | some units => .ok { db with units }

def presents (unit : StockUnit) (identifier : String) : Bool :=
  unit.imeiPrimary = some identifier ∨ unit.imeiSecondary = some identifier ∨
    unit.serialNo = some identifier

/-- The line with its sale and its phone, when it was sold at the branch. -/
structure SoldLine where
  saleItem : SaleItem
  sale : Sale
  unit : Option StockUnit

def findLine (db : Db) (companyId branchId saleItemId : Id) : Option SoldLine := do
  let saleItem ← (db.saleItems.find? saleItemId).filter (fun item => item.companyId = companyId)
  let sale ← (db.sales.find? saleItem.saleId).filter (fun sale => sale.branchId = branchId)
  some ⟨saleItem, sale, saleItem.unitId.bind db.units.find?⟩

def insertReturnRequest (row : ReturnRequest) (db : Db) : Except Refusal Db :=
  if row.policyWindowHours < 0 ∨ 8760 < row.policyWindowHours then
    .error (.constraint "return_requests_window_chk")
  else if row.status ≠ .rejected ∧ db.returnRequests.any (fun other =>
      other.saleItemId = row.saleItemId ∧ other.status ≠ .rejected) then
    .error (.unique "ux_return_requests_active_claim")
  else if db.returnRequests.any (fun other =>
      other.companyId = row.companyId ∧ other.clientUuid = row.clientUuid) then
    .error (.unique "ux_return_requests_client_uuid")
  else db.returnRequests.store row (.unique "PRIMARY") (fun returnRequests =>
    { db with returnRequests })

def newRequest (ctx : Ctx) (branchId userId id : Id) (dto : CreateReturnRequestDto)
    (line : SoldLine) (unit : StockUnit) (fingerprint : String) : ReturnRequest :=
  let eligibility := evaluateEligibility line.sale.returnWindowHours line.sale.returnDeadlineAt
    ctx.now line.sale.isReversed false false
  { id
    companyId := ctx.companyId
    branchId
    saleId := line.saleItem.saleId
    saleItemId := line.saleItem.id
    unitId := unit.id
    status := .pendingInvestigation
    clientUuid := dto.clientUuid
    clientRequestHash := fingerprint
    requestedById := some userId
    requestReason := trim dto.requestReason
    conditionNotes := dto.conditionNotes.map trim
    responsibility := .pendingInvestigation
    responsibilityNotes := none
    custody := if dto.storeHolds then .storeHolds else .customerHolds
    custodyReceivedAt := if dto.storeHolds then some ctx.now else none
    custodyReturnedAt := none
    policyWindowHours := line.sale.returnWindowHours
    policyDeadlineAt := line.sale.returnDeadlineAt
    policyReason := eligibility.reason
    requiresException := !eligibility.eligibleByPolicy
    reviewedById := none
    reviewedAt := none
    decidedById := none
    decidedAt := none
    decisionReason := none
    exceptionReason := none
    version := 0 }

def writeRequest (companyId : Id) (storeHolds : Bool) (row : ReturnRequest) (db : Db) :
    Except Refusal Db := do
  let opened ← insertReturnRequest row db
  if storeHolds then moveUnitForCustody companyId row.unitId .sold .returned opened
  else .ok opened

/-- `P2002` is reported as a return that is already open. -/
def alreadyOpen (refusal : Refusal) : Refusal :=
  if refusal.kind = .unique then
    .coded "return_already_open" (.conflict "A return is already open for this phone.")
  else refusal

def create (first : Lookup RefundPayout) (ctx : Ctx) (id : Id) (dto : CreateReturnRequestDto) :
    Request ReturnDetail := do
  let branchId ← .expect branchRequired ctx.branchId
  let userId ← .expect (.badRequest "No authenticated user") ctx.userId
  let fingerprint := fingerprintRequest dto.saleItemId dto.identifier dto.requestReason
    dto.conditionNotes (if dto.storeHolds then .storeHolds else .customerHolds)
  let replay ← .read .other (fun db => db.returnRequests.rows.find? (fun row =>
    row.companyId = ctx.companyId ∧ row.clientUuid = dto.clientUuid))
  match replay with
  | some prior =>
      .require (prior.clientRequestHash = fingerprint) (.coded "idempotency_conflict"
        (.conflict "That request id was already used for a different return."))
      detail first ctx prior.id
  | none =>
    let found ← .read .other (fun db => findLine db ctx.companyId branchId dto.saleItemId)
    let line ← .expect (.notFound "Sale line not found") found
    let unit ← .expect (.badRequest ("Only phones and other serialized items can be returned " ++
      "in this version. Accessories are not yet supported.")) line.unit
    .require (line.saleItem.voided = false)
      (.conflict "That sale line was removed from the sale.")
    .require (presents unit (trim dto.identifier) = true) (.coded "identifier_mismatch"
      (.badRequest "That identifier does not belong to the phone on this sale line."))
    let row := newRequest ctx branchId userId id dto line unit fingerprint
    .commit .other (fun db =>
      (writeRequest ctx.companyId dto.storeHolds row db).mapError alreadyOpen)
    detail first ctx id

def held (ctx : Ctx) (row : ReturnRequest) : ReturnRequest :=
  { row with custody := .storeHolds, custodyReceivedAt := some ctx.now }

def writeCustody (ctx : Ctx) (request : ReturnRequest) (expectedVersion : Nat) (db : Db) :
    Except Refusal Db := do
  let moved ← swapRequest ctx.companyId request.id expectedVersion none (held ctx) db
  moveUnitForCustody ctx.companyId request.unitId .sold .returned moved

def receiveCustody (first : Lookup RefundPayout) (ctx : Ctx) (id : Id)
    (dto : ReceiveCustodyDto) : Request ReturnDetail := do
  let branchId ← .expect branchRequired ctx.branchId
  let loaded ← load ctx branchId id
  .liftExcept (assertEditable loaded.request.status)
  let needed ← .liftExcept (custodyIntakeNeeded loaded.request.custody)
  if needed then
    .require (presents loaded.unit (trim dto.identifier) = true) (.coded "identifier_mismatch"
      (.badRequest "That identifier does not belong to the phone on this return."))
    .commit .other (writeCustody ctx loaded.request dto.expectedVersion)
    detail first ctx id
  else detail first ctx id

def investigated (ctx : Ctx) (nextStatus : ReturnStatus) (dto : InvestigateDto)
    (row : ReturnRequest) : ReturnRequest :=
  { row with
    status := nextStatus
    responsibility := dto.responsibility.getD row.responsibility
    responsibilityNotes :=
      if dto.responsibilityNotes.isSome then trimOrNull dto.responsibilityNotes
      else row.responsibilityNotes
    conditionNotes :=
      if dto.conditionNotes.isSome then trimOrNull dto.conditionNotes else row.conditionNotes
    reviewedById := ctx.userId
    reviewedAt := some ctx.now }

def underReview (status : ReturnStatus) : ReturnStatus :=
  if status = .pendingInvestigation then .underReview else status

def investigate (first : Lookup RefundPayout) (ctx : Ctx) (id : Id) (dto : InvestigateDto) :
    Request ReturnDetail := do
  let branchId ← .expect branchRequired ctx.branchId
  let loaded ← load ctx branchId id
  let status := loaded.request.status
  .liftExcept (assertEditable status)
  .require (dto.responsibility ≠ some .other ∨ blank dto.responsibilityNotes = false)
    (.badRequest "Explain what \"other\" means for this return")
  .liftExcept (if underReview status = status then .ok ()
    else assertTransition status (underReview status))
  .commit .other (swapRequest ctx.companyId loaded.request.id dto.expectedVersion none
    (investigated ctx (underReview status) dto))
  detail first ctx id

def insertAdjustment (row : ReturnAdjustment) (db : Db) : Except Refusal Db :=
  if ¬ 0 < row.quantity then .error (.constraint "return_adjustments_qty_pos_chk")
  else if row.unitAmount < 0 then .error (.constraint "return_adjustments_unit_nonneg_chk")
  else if row.totalAmount < 0 then .error (.constraint "return_adjustments_total_nonneg_chk")
  else db.returnAdjustments.store row (.unique "PRIMARY") (fun returnAdjustments =>
    { db with returnAdjustments })

def writeAdjustment (companyId returnId : Id) (expectedVersion : Nat) (row : ReturnAdjustment)
    (db : Db) : Except Refusal Db := do
  let moved ← swapRequest companyId returnId expectedVersion none id db
  insertAdjustment row moved

def addAdjustment (first : Lookup RefundPayout) (ctx : Ctx) (id adjustmentId : Id)
    (dto : AdjustmentDto) : Request ReturnDetail := do
  let branchId ← .expect branchRequired ctx.branchId
  let loaded ← load ctx branchId id
  let request := loaded.request
  .liftExcept (assertEditable request.status)
  let totalAmount ← .liftExcept (priceAdjustment dto.label dto.quantity dto.unitAmount)
  let existing ← .read .other (fun db => adjustmentsOf db ctx.companyId request.id)
  let _ ← .liftExcept (settleRefund (grossRefundOf loaded.saleItem)
    (existing.map ReturnAdjustment.totalAmount ++ [totalAmount]))
  .commit .other (writeAdjustment ctx.companyId request.id dto.expectedVersion
    { id := adjustmentId
      companyId := request.companyId
      returnRequestId := request.id
      kind := dto.kind
      label := trim dto.label
      quantity := dto.quantity.value
      unitAmount := dto.unitAmount.cents
      totalAmount
      createdById := ctx.userId })
  detail first ctx id

def dropAdjustment (companyId returnId adjustmentId : Id) (expectedVersion : Nat) (db : Db) :
    Except Refusal Db := do
  let moved ← swapRequest companyId returnId expectedVersion none id db
  .ok { moved with
    returnAdjustments := moved.returnAdjustments.delete (fun row => row.id = adjustmentId) }

def removeAdjustment (first : Lookup RefundPayout) (ctx : Ctx) (id adjustmentId : Id)
    (expectedVersion : Nat) : Request ReturnDetail := do
  let branchId ← .expect branchRequired ctx.branchId
  let loaded ← load ctx branchId id
  .liftExcept (assertEditable loaded.request.status)
  let found ← .read .other (fun db => (db.returnAdjustments.find? adjustmentId).filter
    (fun row => row.companyId = ctx.companyId ∧ row.returnRequestId = loaded.request.id))
  let adjustment ← .expect (.notFound "Adjustment not found") found
  .commit .other (dropAdjustment ctx.companyId loaded.request.id adjustment.id expectedVersion)
  detail first ctx id

def dayAlreadyClosed (day : Day) (advice : String) : Refusal :=
  .coded "day_already_closed" (.conflict (renderDay day ++
    " is already closed for this branch. " ++ advice))

def closedToday (ctx : Ctx) (branchId : Id) (db : Db) : Bool :=
  (findClosing db ctx.companyId branchId ctx.today).any DailyClosing.isLocked

def insertReversal (row : ReturnReversal) (db : Db) : Except Refusal Db :=
  if row.grossRefund < 0 then .error (.constraint "return_reversals_gross_nonneg_chk")
  else if row.adjustmentTotal < 0 then .error (.constraint "return_reversals_adj_nonneg_chk")
  else if row.netRefundDue < 0 then .error (.constraint "return_reversals_net_nonneg_chk")
  else if row.netRefundDue ≠ row.grossRefund - row.adjustmentTotal then
    .error (.constraint "return_reversals_net_math_chk")
  else if db.returnReversals.any (fun other => other.saleItemId = row.saleItemId) then
    .error (.unique "ux_return_reversals_sale_item")
  else if db.returnReversals.any (fun other =>
      other.returnRequestId = row.returnRequestId) then
    .error (.unique "ux_return_reversals_request")
  else match db.returnReversals.insert? row with
    | none => .error (.unique "PRIMARY")
    | some returnReversals => .ok { db with returnReversals }

def approved (ctx : Ctx) (isException : Bool) (dto : ApproveReturnDto) (row : ReturnRequest) :
    ReturnRequest :=
  { row with
    status := .approvedRefundDue
    custody := .retainedHold
    decidedById := ctx.userId
    decidedAt := some ctx.now
    exceptionReason := if isException then dto.exceptionReason.map trim else none }

def newReversal (ctx : Ctx) (branchId id : Id) (loaded : LoadedReturn) (settled : SettledRefund) :
    ReturnReversal :=
  let gross := grossRefundOf loaded.saleItem
  let cost := loaded.saleItem.cost * loaded.saleItem.quantity
  { id
    companyId := ctx.companyId
    branchId
    saleId := loaded.request.saleId
    saleItemId := loaded.request.saleItemId
    unitId := loaded.request.unitId
    returnRequestId := loaded.request.id
    lineRevenue := gross
    lineCost := cost
    lineMargin := gross - cost
    grossRefund := gross
    adjustmentTotal := settled.adjustmentTotal
    netRefundDue := settled.netRefundDue
    approvalDate := ctx.today
    approvedById := ctx.userId }

def writeApproval (ctx : Ctx) (loaded : LoadedReturn) (isException : Bool)
    (dto : ApproveReturnDto) (reversal : ReturnReversal) (db : Db) : Except Refusal Db := do
  let moved ← swapRequest ctx.companyId loaded.request.id dto.expectedVersion
    (some loaded.request.status) (approved ctx isException dto) db
  let reversed ← insertReversal reversal moved
  moveUnitForCustody ctx.companyId loaded.request.unitId .returned .faulty reversed

/-- The keys `newUuidV7Bin` hands out: the reversal's and the rollup's. -/
structure ApprovalIds where
  reversal : Id
  rollup : Id

def approve (first : Lookup RefundPayout) (ctx : Ctx) (has : Permission → Bool)
    (ids : ApprovalIds) (id : Id) (dto : ApproveReturnDto) : Request ReturnDetail := do
  let branchId ← .expect branchRequired ctx.branchId
  let loaded ← load ctx branchId id
  let request := loaded.request
  .liftExcept (assertEditable request.status)
  .liftExcept (assertTransition request.status .approvedRefundDue)
  .require (request.custody = .storeHolds) (.coded "custody_required"
    (.conflict "Receive the phone before approving this return."))
  let isException ← .liftExcept (assertMayApprove request.requiresException
    request.responsibility has dto.exceptionReason)
  let adjustments ← .read .other (fun db => adjustmentsOf db ctx.companyId request.id)
  let settled ← .liftExcept (settleRefund (grossRefundOf loaded.saleItem)
    (adjustments.map ReturnAdjustment.totalAmount))
  let closed ← .read .other (closedToday ctx branchId)
  .require (closed = false) (dayAlreadyClosed ctx.today
    "Approve this return tomorrow, or ask the owner to review the closing.")
  .commit .other (writeApproval ctx loaded isException dto
    (newReversal ctx branchId ids.reversal loaded settled))
  Analytics.recomputeDaily .other ctx.companyId branchId ctx.today ctx.now ids.rollup
  detail first ctx id

def refused (ctx : Ctx) (custody : ReturnCustody) (reason : String) (row : ReturnRequest) :
    ReturnRequest :=
  { row with
    status := .rejected
    custody := if custody = .storeHolds then .handedBack else custody
    custodyReturnedAt := if custody = .storeHolds then some ctx.now else none
    decidedById := ctx.userId
    decidedAt := some ctx.now
    decisionReason := some reason }

def writeRejection (ctx : Ctx) (request : ReturnRequest) (dto : RejectReturnDto) (db : Db) :
    Except Refusal Db := do
  let moved ← swapRequest ctx.companyId request.id dto.expectedVersion (some request.status)
    (refused ctx request.custody (trim dto.reason)) db
  if request.custody = .storeHolds then
    moveUnitForCustody ctx.companyId request.unitId .returned .sold moved
  else .ok moved

def reject (first : Lookup RefundPayout) (ctx : Ctx) (id : Id) (dto : RejectReturnDto) :
    Request ReturnDetail := do
  let branchId ← .expect branchRequired ctx.branchId
  let loaded ← load ctx branchId id
  .liftExcept (assertEditable loaded.request.status)
  .liftExcept (assertTransition loaded.request.status .rejected)
  .require (blank (some dto.reason) = false)
    (.badRequest "Say why this return is being refused")
  .commit .other (writeRejection ctx loaded.request dto)
  detail first ctx id

end ErpBackend.Returns
