import ErpBackend.Analytics.Rollup
import ErpBackend.Closing.Channels
import ErpBackend.Suppliers.Service

/-!
# ClosingService

`recordCount` runs statement by statement: the closing it found open, the count
it writes and the closing it moves on are separate steps. `close` reads the day
statement by statement and writes it in one transaction.
-/

namespace ErpBackend.Closing

open Foundation Analytics

/-- The statement a closing request is about to run. `count` names the open closing
the request holds while its count is still to be written; `lock` is the sign-off of
a branch-day. -/
inductive Mark where
  | other
  | count (closingId : Id)
  | lock (branchId : Id) (day : Day)
  deriving DecidableEq, Repr

abbrev Request (α : Type) := Prog Db Mark Refusal α

structure CreateClosingDto where
  countedCash : Option Money := none
  date : Option Day := none

structure RecordCountDto where
  channel : Channel
  accountId : Option Id := none
  counted : Option Money := none
  skip : Option Bool := none
  skipReason : Option String := none
  date : Option Day := none

/-- The keys `newUuidV7Bin` hands to one request. -/
structure ClosingIds where
  closing : Id
  count : Nat → Id
  rollup : Id
  discrepancy : Nat → Id
  digest : Id
  line : Nat → Id

def countsOf (db : Db) (closingId : Id) : List ClosingChannelCount :=
  db.closingChannelCounts.filter (fun count => count.closingId = closingId)

/-- `include: { channelCounts: true }`. -/
def closingWithCounts (db : Db) (companyId branchId : Id) (day : Day) :
    Option (DailyClosing × List ClosingChannelCount) :=
  (findClosing db companyId branchId day).map (fun closing => (closing, countsOf db closing.id))

def saleOn (db : Db) (branchId : Id) (day : Day) (saleId : Id) : Bool :=
  (db.sales.find? saleId).any (fun sale => sale.branchId = branchId ∧ dayKey sale.soldAt = day)

/-- `SUM … GROUP BY` over movements of one component: one row for each channel. -/
def grouped (component : Component) (movements : List ((Channel × Option Id) × Int)) :
    List MovementRow :=
  (movements.map Prod.fst).dedup.map (fun key =>
    { accountId := key.2
      channel := key.1
      component
      amount := ((movements.filter (fun movement => movement.1 = key)).map Prod.snd).sum })

def channelOf (method : Method) (accountId : Option Id) : Channel × Option Id :=
  match method with
  | .cash => (.cash, none)
  | .account => (.account, accountId)

/-- The account a correction returns to is the one its target was paid from. -/
def correctedAccount (db : Db) (correction : FinancialCorrection) : Option Id :=
  ((correction.targetRefundPayoutId.bind db.refundPayouts.find?).bind
    RefundPayout.receivingAccountId).or
  ((correction.targetSupplierSettlementId.bind db.supplierSettlements.find?).bind
    SupplierSettlement.receivingAccountId)

def channelMovements (db : Db) (companyId branchId : Id) (day : Day) : List MovementRow :=
  grouped .salesIn ((db.payments.filter (fun payment =>
    payment.companyId = companyId ∧ saleOn db branchId day payment.saleId)).map (fun payment =>
      (if payment.method = .cash then (.cash, none) else (.account, payment.receivingAccountId),
        payment.amount))) ++
  grouped .refundsOut ((db.refundPayouts.filter (refundedOn companyId branchId day)).map
    (fun payout => (channelOf payout.method payout.receivingAccountId, payout.reportedAmount))) ++
  grouped .supplierOut ((db.supplierSettlements.filter (fun row => row.companyId = companyId ∧
    row.branchId = branchId ∧ row.status = .confirmed ∧ row.confirmationDate = some day)).map
    (fun row => (channelOf row.method row.receivingAccountId, row.amount))) ++
  grouped .expensesOut ((db.expenses.filter (spentOn companyId branchId day)).map
    (fun expense => (channelOf expense.method expense.receivingAccountId, expense.amount))) ++
  grouped .correctionsIn ((db.financialCorrections.filter
    (correctedOn companyId branchId day)).map (fun correction =>
      (channelOf correction.method (correctedAccount db correction), correction.amount)))

def accountsOf (db : Db) (companyId : Id) : List ReceivingAccount :=
  (db.receivingAccounts.filter (fun account => account.companyId = companyId)).insertionSort
    (fun left right => left.sortOrder ≤ right.sortOrder)

def expectedChannels (m : Mark) (companyId branchId : Id) (day : Day) :
    Request (List ChannelRow) := do
  let movements ← .read m (fun db => channelMovements db companyId branchId day)
  let accounts ← .read m (fun db => accountsOf db companyId)
  pure (buildChannels movements accounts)

def findCount (counts : List ClosingChannelCount) (row : ChannelRow) :
    Option ClosingChannelCount :=
  counts.find? (fun count =>
    count.channel = row.channel ∧ count.receivingAccountId = row.accountId)

structure ViewRow where
  row : ChannelRow
  counted : Option Int
  difference : Option Int
  isSkipped : Bool
  skipReason : Option String
  countedAt : Option Time

structure OpenView where
  date : Day
  status : ClosingStatus
  isLocked : Bool
  channels : List ViewRow
  outstanding : Nat
  complete : Bool

def viewRow (counts : List ClosingChannelCount) (row : ChannelRow) : ViewRow :=
  let saved := findCount counts row
  let counted := saved.bind ClosingChannelCount.counted
  { row
    counted
    difference := differenceOf counted row.expected
    isSkipped := (saved.map ClosingChannelCount.isSkipped).getD false
    skipReason := saved.bind ClosingChannelCount.skipReason
    countedAt := saved.bind ClosingChannelCount.countedAt }

def waiting (view : ViewRow) : Bool :=
  isCountable view.row && view.counted.isNone && !view.isSkipped

def openView (ctx : Ctx) (date : Option Day) : Request OpenView := do
  let branchId ← .expect branchRequired ctx.branchId
  let day := date.getD ctx.today
  let closing ← .read .other (fun db => closingWithCounts db ctx.companyId branchId day)
  let channels ← expectedChannels .other ctx.companyId branchId day
  let rows := channels.map (viewRow ((closing.map Prod.snd).getD []))
  pure
    { date := day
      status := (closing.map (fun found => found.1.status)).getD .counting
      isLocked := (closing.map (fun found => found.1.isLocked)).getD false
      channels := rows
      outstanding := (rows.filter waiting).length
      complete := rows.all (fun view => !waiting view) }

/-- `ck_closings_status_locked`, `ck_closings_count_attribution` and
`ck_closings_counted_started`. -/
def closingChecks (closing : DailyClosing) : Except Refusal Unit :=
  if decide (closing.status = .locked) ≠ closing.isLocked then
    .error (.constraint "ck_closings_status_locked")
  else if closing.countedAt.isNone ≠ closing.countedById.isNone then
    .error (.constraint "ck_closings_count_attribution")
  else if closing.status = .counted ∧ closing.countedAt.isNone then
    .error (.constraint "ck_closings_counted_started")
  else .ok ()

def insertClosing (closing : DailyClosing) (db : Db) : Except Refusal Db := do
  closingChecks closing
  if db.dailyClosings.any (fun other =>
      other.branchId = closing.branchId ∧ other.closingDate = closing.closingDate) then
    .error (.unique "daily_closings_branch_id_closing_date_key")
  else match db.dailyClosings.insert? closing with
    | none => .error (.unique "PRIMARY")
    | some dailyClosings => .ok { db with dailyClosings }

/-- `ck_channel_counts_cash`, `ck_channel_counts_skip` and
`ck_channel_counts_difference`. -/
def countChecks (count : ClosingChannelCount) : Except Refusal Unit :=
  if count.channel = .cash ∧ count.receivingAccountId ≠ none then
    .error (.constraint "ck_channel_counts_cash")
  else if ¬ ((count.isSkipped = false ∧ count.skipReason = none) ∨
      (count.isSkipped = true ∧ count.counted = none ∧ blank count.skipReason = false)) then
    .error (.constraint "ck_channel_counts_skip")
  else if count.counted.isNone ≠ count.difference.isNone then
    .error (.constraint "ck_channel_counts_difference")
  else .ok ()

def insertCount (count : ClosingChannelCount) (db : Db) : Except Refusal Db := do
  countChecks count
  if db.closingChannelCounts.any (fun other => other.closingId = count.closingId ∧
      other.channel = count.channel ∧ other.receivingAccountId = count.receivingAccountId) then
    .error (.unique "ux_channel_counts_closing_channel")
  else match db.closingChannelCounts.insert? count with
    | none => .error (.unique "PRIMARY")
    | some closingChannelCounts => .ok { db with closingChannelCounts }

structure CountPayload extends Components where
  labelSnapshot : String
  expected : Int
  counted : Option Int
  difference : Option Int
  isSkipped : Bool
  skipReason : Option String
  countedById : Option Id
  countedAt : Option Time

def CountPayload.fill (payload : CountPayload) (count : ClosingChannelCount) :
    ClosingChannelCount :=
  { count with
    labelSnapshot := payload.labelSnapshot
    salesIn := payload.salesIn
    refundsOut := payload.refundsOut
    supplierOut := payload.supplierOut
    expensesOut := payload.expensesOut
    correctionsIn := payload.correctionsIn
    expected := payload.expected
    counted := payload.counted
    difference := payload.difference
    isSkipped := payload.isSkipped
    skipReason := payload.skipReason
    countedById := payload.countedById
    countedAt := payload.countedAt }

theorem CountPayload.fill_id (payload : CountPayload) (count : ClosingChannelCount) :
    (payload.fill count).id = count.id := rfl

def updateCount (companyId id : Id) (payload : CountPayload) (db : Db) : Except Refusal Db :=
  match (db.closingChannelCounts.find? id).filter (fun count => count.companyId = companyId) with
  | none => .error (.internal "No record was found for an update.")
  | some count => do
      countChecks (payload.fill count)
      .ok { db with
        closingChannelCounts := db.closingChannelCounts.update id payload.fill payload.fill_id }

def newCount (companyId closingId id : Id) (channel : Channel) (accountId : Option Id)
    (payload : CountPayload) : ClosingChannelCount :=
  payload.fill
    { id, companyId, closingId, channel
      receivingAccountId := accountId
      labelSnapshot := "", salesIn := 0, refundsOut := 0, supplierOut := 0, expensesOut := 0
      correctionsIn := 0, expected := 0, counted := none, difference := none
      isSkipped := false, skipReason := none, countedById := none, countedAt := none }

def assertCountable (dto : RecordCountDto) : Except Refusal Unit :=
  if dto.skip = some true ∧ dto.counted ≠ none then
    .error (.badRequest "A channel is either counted or skipped, never both")
  else if dto.skip = some true ∧ blank dto.skipReason then
    .error (.badRequest "Skipping a channel requires a reason")
  else if dto.skip ≠ some true ∧ dto.counted = none then
    .error (.badRequest "Provide a counted amount, or skip the channel with a reason")
  else if dto.channel = .account ∧ dto.accountId = none then
    .error (.badRequest "An account channel must say which account")
  else if dto.channel = .cash ∧ dto.accountId ≠ none then
    .error (.badRequest "Cash belongs to no account")
  else .ok ()

def alreadyClosed (day : Day) : Refusal :=
  .conflict ("Day " ++ renderDay day ++ " is already closed for this branch")

/-- The snapshot columns stay at zero until the day is locked. -/
def countingDay (companyId branchId : Id) (day : Day) (id : Id) : DailyClosing where
  id := id
  companyId := companyId
  branchId := branchId
  closingDate := day
  expectedCash := 0
  countedCash := 0
  difference := 0
  totalSales := 0
  totalProfit := 0
  status := .counting
  isLocked := false

def countPayload (ctx : Ctx) (dto : RecordCountDto) (target : ChannelRow) : CountPayload :=
  let counted := dto.counted.map Money.cents
  { toComponents := target.toComponents
    labelSnapshot := target.labelSnapshot
    expected := target.expected
    counted
    difference := differenceOf counted target.expected
    isSkipped := dto.skip.getD false
    skipReason := if dto.skip = some true then dto.skipReason.map trim else none
    countedById := ctx.userId
    countedAt := some ctx.now }

def moved (ctx : Ctx) (status : ClosingStatus) (closing : DailyClosing) : DailyClosing :=
  { closing with
    status
    countedById := ctx.userId
    countedAt := some ctx.now
    version := closing.version + 1 }

theorem moved_id (ctx : Ctx) (status : ClosingStatus) (closing : DailyClosing) :
    (moved ctx status closing).id = closing.id := rfl

/-- The unguarded update that ends a count; only the schema's `CHECK`s refuse it. -/
def moveClosing (ctx : Ctx) (closingId : Id) (status : ClosingStatus) (db : Db) :
    Except Refusal Db :=
  match (db.dailyClosings.find? closingId).filter (fun closing =>
      closing.companyId = ctx.companyId) with
  | none => .error (.internal "No record was found for an update.")
  | some closing => do
      closingChecks (moved ctx status closing)
      .ok { db with
        dailyClosings := db.dailyClosings.update closingId (moved ctx status)
          (moved_id ctx status) }

def writeCount (ctx : Ctx) (ids : ClosingIds) (dto : RecordCountDto) (closingId : Id)
    (prior : Option ClosingChannelCount) (payload : CountPayload) (db : Db) :
    Except Refusal Db :=
  match prior with
  | some count => updateCount ctx.companyId count.id payload db
  | none => insertCount (newCount ctx.companyId closingId (ids.count 0) dto.channel
      dto.accountId payload) db

def markOf (existing : Option DailyClosing) : Mark :=
  match existing with
  | some closing => .count closing.id
  | none => .other

def holdClosing (ctx : Ctx) (ids : ClosingIds) (branchId : Id) (day : Day)
    (existing : Option DailyClosing) : Request Id :=
  match existing with
  | some closing => pure closing.id
  | none => do
      .commit .other (insertClosing (countingDay ctx.companyId branchId day ids.closing))
      pure ids.closing

def countChannel (ctx : Ctx) (ids : ClosingIds) (dto : RecordCountDto) (day : Day)
    (target : ChannelRow) (closingId : Id) : Request OpenView := do
  let prior ← .read (.count closingId) (fun db => db.closingChannelCounts.rows.find? (fun count =>
    count.companyId = ctx.companyId ∧ count.closingId = closingId ∧
      count.channel = dto.channel ∧ count.receivingAccountId = dto.accountId))
  .commit (.count closingId)
    (writeCount ctx ids dto closingId prior (countPayload ctx dto target))
  let view ← openView ctx (some day)
  let nextStatus := if view.complete then ClosingStatus.counted else .counting
  .commit .other (moveClosing ctx closingId nextStatus)
  let after ← openView ctx (some day)
  pure { after with status := nextStatus }

def recordCount (ctx : Ctx) (ids : ClosingIds) (dto : RecordCountDto) : Request OpenView := do
  let branchId ← .expect branchRequired ctx.branchId
  let day := dto.date.getD ctx.today
  .liftExcept (assertCountable dto)
  let existing ← .read .other (fun db => findClosing db ctx.companyId branchId day)
  .require (existing.map DailyClosing.status ≠ some .locked) (alreadyClosed day)
  let channels ← expectedChannels (markOf existing) ctx.companyId branchId day
  let target ← .expect (.notFound "That channel is not part of this day at this branch")
    (channels.find? (fun row => row.channel = dto.channel ∧ row.accountId = dto.accountId))
  .require (isCountable target = true)
    (.badRequest "Unattributed money has no balance to count against")
  let closingId ← holdClosing ctx ids branchId day existing
  countChannel ctx ids dto day target closingId

structure Snapshot where
  expectedCash : Int
  countedCash : Int
  figures : DayFigures
  supplierPaid : Suppliers.PaidOut

def locked (ctx : Ctx) (snapshot : Snapshot) (closing : DailyClosing) : DailyClosing :=
  { closing with
    expectedCash := snapshot.expectedCash
    countedCash := snapshot.countedCash
    difference := snapshot.countedCash - snapshot.expectedCash
    totalSales := snapshot.figures.revenue
    totalProfit := snapshot.figures.netProfit
    totalReturns := snapshot.figures.returnsRevenue
    totalReturnsProfitImpact := snapshot.figures.returnsGrossProfit
    totalReturnAdjustments := snapshot.figures.returnsAdjustments
    totalReturnsCogsCredited := snapshot.figures.returnsCogs
    refundsPaidTotal := snapshot.figures.refundsPaidTotal
    refundsPaidCash := snapshot.figures.refundsPaidCash
    supplierPaidTotal := snapshot.supplierPaid.total
    supplierPaidCash := snapshot.supplierPaid.cash
    correctionsTotal := snapshot.figures.correctionsTotal
    correctionsCash := snapshot.figures.correctionsCash
    expensesCash := snapshot.figures.expensesCash
    status := .locked
    isLocked := true
    closedById := ctx.userId }

def relocked (ctx : Ctx) (snapshot : Snapshot) (closing : DailyClosing) : DailyClosing :=
  { locked ctx snapshot closing with version := closing.version + 1 }

theorem relocked_id (ctx : Ctx) (snapshot : Snapshot) (closing : DailyClosing) :
    (relocked ctx snapshot closing).id = closing.id := rfl

def lockClosing (ctx : Ctx) (already : DailyClosing) (snapshot : Snapshot) (db : Db) :
    Except Refusal Db :=
  match (db.dailyClosings.find? already.id).filter (fun closing =>
      closing.companyId = ctx.companyId ∧ closing.version = already.version ∧
        closing.status ≠ .locked) with
  | none => .error (.conflict
      "refresh_required: this day was changed while you were closing it")
  | some closing => do
      closingChecks (relocked ctx snapshot closing)
      .ok { db with
        dailyClosings := db.dailyClosings.update already.id (relocked ctx snapshot)
          (relocked_id ctx snapshot) }

def frozenPayload (row : ChannelRow) (saved : Option ClosingChannelCount) : CountPayload :=
  let counted := saved.bind ClosingChannelCount.counted
  { toComponents := row.toComponents
    labelSnapshot := row.labelSnapshot
    expected := row.expected
    counted
    difference := differenceOf counted row.expected
    isSkipped := (saved.map ClosingChannelCount.isSkipped).getD false
    skipReason := saved.bind ClosingChannelCount.skipReason
    countedById := saved.bind ClosingChannelCount.countedById
    countedAt := saved.bind ClosingChannelCount.countedAt }

def freezeChannel (companyId closingId id : Id) (row : ChannelRow)
    (saved : Option ClosingChannelCount) (db : Db) : Except Refusal Db :=
  match saved with
  | some count => updateCount companyId count.id (frozenPayload row saved) db
  | none => insertCount (newCount companyId closingId id row.channel row.accountId
      (frozenPayload row saved)) db

def freezeChannels (companyId closingId : Id) (ids : Nat → Id)
    (counts : List ClosingChannelCount) : Nat → List ChannelRow → Db → Except Refusal Db
  | _, [], db => .ok db
  | index, row :: rest, db => do
      let frozen ← freezeChannel companyId closingId (ids index) row (findCount counts row) db
      freezeChannels companyId closingId ids counts (index + 1) rest frozen

def openDiscrepancy (companyId branchId closingId id : Id) (count : ClosingChannelCount)
    (db : Db) : Except Refusal Db :=
  if opensDiscrepancy count = false ∨ db.closingDiscrepancies.any (fun discrepancy =>
      discrepancy.companyId = companyId ∧ discrepancy.closingId = closingId ∧
        discrepancy.channelCountId = some count.id) then .ok db
  else match db.closingDiscrepancies.insert?
      { id, companyId, branchId, closingId
        channelCountId := some count.id
        amount := count.difference.getD 0 } with
    | none => .error (.unique "PRIMARY")
    | some closingDiscrepancies => .ok { db with closingDiscrepancies }

def openDiscrepancies (companyId branchId closingId : Id) (ids : Nat → Id) :
    Nat → List ClosingChannelCount → Db → Except Refusal Db
  | _, [], db => .ok db
  | index, count :: rest, db => do
      let opened ← openDiscrepancy companyId branchId closingId (ids index) count db
      openDiscrepancies companyId branchId closingId ids (index + 1) rest opened

def insertDigest (digest : DailyDigest) (db : Db) : Except Refusal Db :=
  if db.dailyDigests.any (fun other =>
      other.branchId = digest.branchId ∧ other.digestDate = digest.digestDate) then
    .error (.unique "daily_digests_branch_id_digest_date_key")
  else if db.dailyDigests.any (fun other => other.closingId = digest.closingId) then
    .error (.unique "daily_digests_closing_id_key")
  else match db.dailyDigests.insert? digest with
    | none => .error (.unique "PRIMARY")
    | some dailyDigests => .ok { db with dailyDigests }

def digestLabel (product : Product) : String :=
  product.brand ++ " " ++ product.model ++
    (match product.variant with
      | none => ""
      | some variant => if variant = "" then "" else " " ++ variant)

def digestLine (db : Db) (item : SaleItem) : Option DigestLine :=
  (db.sales.find? item.saleId).map (fun sale =>
    let unit := item.unitId.bind db.units.find?
    let product := (unit.bind (fun found => db.products.find? found.productId)).or
      (item.productId.bind db.products.find?)
    { id := 0
      companyId := item.companyId
      digestId := 0
      identifier := unit.bind (fun found => found.imeiPrimary.or found.serialNo)
      productLabel := product.map digestLabel
      employeeId := some sale.userId
      salePrice := lineRevenue item
      purchaseCost := lineCost item
      profit := lineRevenue item - lineCost item
      soldAt := sale.soldAt })

def buildDigestLines (db : Db) (companyId branchId : Id) (day : Day) : List DigestLine :=
  (db.saleItems.filter (soldOn db companyId branchId day)).filterMap (digestLine db)

def insertDigestLines (companyId digestId : Id) (ids : Nat → Id) :
    Nat → List DigestLine → Db → Except Refusal Db
  | _, [], db => .ok db
  | index, line :: rest, db =>
      match db.digestLines.insert? { line with id := ids index, companyId, digestId } with
      | none => .error (.unique "PRIMARY")
      | some digestLines =>
          insertDigestLines companyId digestId ids (index + 1) rest { db with digestLines }

/-- What `close` has read when its transaction starts. -/
structure Sheet where
  already : Option (DailyClosing × List ClosingChannelCount)
  snapshot : Snapshot
  channels : List ChannelRow
  lines : List DigestLine

def signOff (ctx : Ctx) (ids : ClosingIds) (branchId : Id) (day : Day) (sheet : Sheet)
    (db : Db) : Except Refusal Db :=
  match sheet.already with
  | some (closing, _) => lockClosing ctx closing sheet.snapshot db
  | none => insertClosing (locked ctx sheet.snapshot
      (countingDay ctx.companyId branchId day ids.closing)) db

def writeClosing (ctx : Ctx) (ids : ClosingIds) (branchId : Id) (day : Day) (sheet : Sheet)
    (db : Db) : Except Refusal (Db × Id) := do
  let closingId := (sheet.already.map (fun found => found.1.id)).getD ids.closing
  let counts := (sheet.already.map Prod.snd).getD []
  let signed ← signOff ctx ids branchId day sheet db
  let frozen ← freezeChannels ctx.companyId closingId ids.count counts 0 sheet.channels signed
  let opened ← openDiscrepancies ctx.companyId branchId closingId ids.discrepancy 0
    ((countsOf frozen closingId).filter (fun count => count.companyId = ctx.companyId)) frozen
  let digested ← insertDigest
    { id := ids.digest
      companyId := ctx.companyId
      branchId
      closingId := some closingId
      digestDate := day
      revenue := sheet.snapshot.figures.revenue
      costOfGoodsSold := sheet.snapshot.figures.cogs
      grossProfit := sheet.snapshot.figures.grossProfit } opened
  let listed ← insertDigestLines ctx.companyId ids.digest ids.line 0 sheet.lines digested
  .ok (listed, closingId)

def noFigures : DayFigures :=
  figuresOf ⟨0, 0, 0, 0⟩ ⟨0, 0, 0, 0, 0⟩ ⟨0, 0, 0, 0⟩ ⟨0, 0, 0⟩ ⟨0, 0, 0⟩

def cashTaken (db : Db) (companyId branchId : Id) (day : Day) : Int :=
  ((db.payments.filter (fun payment => payment.companyId = companyId ∧
    payment.method = .cash ∧ saleOn db branchId day payment.saleId)).map Payment.amount).sum

/-- The reconciliation equation: every movement appears exactly once. -/
def expectedCash (cash : Int) (figures : DayFigures) (supplierPaid : Suppliers.PaidOut) : Int :=
  cash - figures.refundsPaidCash - supplierPaid.cash - figures.expensesCash +
    figures.correctionsCash

/-- A count entered through `recordCount` is the record; signing off cannot replace it. -/
def countedCash (dto : CreateClosingDto) (day : Day) (counts : List ClosingChannelCount) :
    Except Refusal Int :=
  match (counts.find? (fun count => count.channel = .cash ∧ !count.isSkipped)).bind
      ClosingChannelCount.counted with
  | some recorded =>
      if dto.countedCash.any (fun cash => cash.cents ≠ recorded) then
        .error (.conflict ("A cash count of " ++ renderAmount recorded ++
          " was already recorded for " ++ renderDay day ++
          "; recount it rather than overriding it at sign-off"))
      else .ok recorded
  | none =>
      match dto.countedCash with
      | some cash => .ok cash.cents
      | none => .error (.badRequest "Nobody has counted the cash for this day yet")

structure ClosingSummary where
  closingId : Id
  date : Day
  figures : DayFigures
  lineCount : Nat
  expected : Int
  counted : Int
  difference : Int
  channels : List ViewRow
  supplierPaid : Suppliers.PaidOut

def close (ctx : Ctx) (ids : ClosingIds) (dto : CreateClosingDto) : Request ClosingSummary := do
  let branchId ← .expect branchRequired ctx.branchId
  let day := dto.date.getD ctx.today
  let already ← .read .other (fun db => closingWithCounts db ctx.companyId branchId day)
  .require (already.map (fun found => found.1.status) ≠ some .locked) (alreadyClosed day)
  recomputeDaily .other ctx.companyId branchId day ctx.now ids.rollup
  let rollup ← .read .other (fun db => (rollupOn db branchId day).filter (fun rollup =>
    rollup.companyId = ctx.companyId))
  let figures := (rollup.map DailyRollup.toDayFigures).getD noFigures
  let cash ← .read .other (fun db => cashTaken db ctx.companyId branchId day)
  let supplierPaid ← .read .other (fun db => Suppliers.paidOn db ctx.companyId branchId day)
  let counts := (already.map Prod.snd).getD []
  let counted ← .liftExcept (countedCash dto day counts)
  let lines ← .read .other (fun db => buildDigestLines db ctx.companyId branchId day)
  let channels ← expectedChannels .other ctx.companyId branchId day
  let expected := expectedCash cash figures supplierPaid
  let snapshot : Snapshot := ⟨expected, counted, figures, supplierPaid⟩
  let closingId ← .transact (.lock branchId day)
    (writeClosing ctx ids branchId day ⟨already, snapshot, channels, lines⟩)
  pure
    { closingId
      date := day
      figures
      lineCount := lines.length
      expected
      counted
      difference := counted - expected
      channels := channels.map (viewRow counts)
      supplierPaid }

end ErpBackend.Closing
