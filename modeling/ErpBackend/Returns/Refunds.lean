import ErpBackend.Returns.Service

/-!
# ReturnsService: refunds

A refund is reported by whoever handed the money over and confirmed by a manager.
What is still owed is derived: the reversals no standing payout settles.
-/

namespace ErpBackend.Returns

open Foundation Inventory

/-- `ux_refund_payouts_active_request` and `ux_refund_payouts_active_reversal` compare
the rows that no correction supersedes. -/
def insertPayout (row : RefundPayout) (db : Db) : Except Refusal Db :=
  if row.netAmountDue < 0 then .error (.constraint "refund_payouts_due_nonneg_chk")
  else if row.reportedAmount < 0 then .error (.constraint "refund_payouts_reported_nonneg_chk")
  else if row.reportedAmount ≠ row.netAmountDue then
    .error (.constraint "refund_payouts_amount_match_chk")
  else if ¬ (row.status = .confirmed ∧ row.confirmedAt.isSome ∧ row.confirmationDate.isSome ∨
      row.status = .reportedPendingConfirmation ∧ row.confirmedAt = none ∧
        row.confirmationDate = none) then
    .error (.constraint "refund_payouts_confirmation_chk")
  else if row.correctedById = none ∧ db.refundPayouts.any (fun other =>
      other.correctedById = none ∧ other.returnRequestId = row.returnRequestId) then
    .error (.unique "ux_refund_payouts_active_request")
  else if row.correctedById = none ∧ db.refundPayouts.any (fun other =>
      other.correctedById = none ∧ other.returnReversalId = row.returnReversalId) then
    .error (.unique "ux_refund_payouts_active_reversal")
  else if db.refundPayouts.any (fun other =>
      other.companyId = row.companyId ∧ other.clientUuid = row.clientUuid) then
    .error (.unique "ux_refund_payouts_client_uuid")
  else match db.refundPayouts.insert? row with
    | none => .error (.unique "PRIMARY")
    | some refundPayouts => .ok { db with refundPayouts }

def newPayout (ctx : Ctx) (branchId id returnId : Id) (reversal : ReturnReversal)
    (dto : ReportRefundDto) (account : Option ReceivingAccount) (fingerprint : String) :
    RefundPayout where
  id := id
  companyId := ctx.companyId
  branchId := branchId
  returnRequestId := returnId
  returnReversalId := reversal.id
  status := .reportedPendingConfirmation
  netAmountDue := reversal.netRefundDue
  reportedAmount := dto.reportedAmount.cents
  method := dto.method
  receivingAccountId := account.map ReceivingAccount.id
  accountLabelSnapshot := account.map ReceivingAccount.label
  transactionReference := trimOrNull dto.transactionReference
  note := trimOrNull dto.note
  reportedById := ctx.userId
  confirmedById := none
  confirmedAt := none
  confirmationDate := none
  correctedById := none
  clientUuid := dto.clientUuid
  clientRequestHash := fingerprint
  version := 0

/-- `P2002` is reported as a refund that was already reported. -/
def alreadyReported (refusal : Refusal) : Refusal :=
  if refusal.kind = .unique then
    .coded "refund_already_reported"
      (.conflict "A refund has already been reported for this return.")
  else refusal

def activeAccount (ctx : Ctx) (accountId : Option Id) : Request (Option ReceivingAccount) :=
  match accountId with
  | none => pure none
  | some id => do
      let found ← .read .other (fun db => (db.receivingAccounts.find? id).filter
        (fun account => account.companyId = ctx.companyId ∧ account.isActive = true))
      let account ← .expect (.notFound "Account not found") found
      pure (some account)

def reportRefund (first : Lookup RefundPayout) (ctx : Ctx) (id payoutId : Id)
    (dto : ReportRefundDto) : Request ReturnDetail := do
  let branchId ← .expect branchRequired ctx.branchId
  let loaded ← load ctx branchId id
  let found ← .read .other (fun db => reversalOf db ctx.companyId loaded.request.id)
  .liftExcept (assertReportable loaded.request.status found.isSome)
  let reversal ← .expect (.internal "Cannot read properties of null") found
  .liftExcept (assertWorthSettling reversal.netRefundDue)
  .liftExcept (assertAmountMatchesDue dto.reportedAmount.cents reversal.netRefundDue)
  .liftExcept (assertMethodAndAccount dto.method dto.receivingAccountId)
  let fingerprint := fingerprintPayout id dto.method dto.receivingAccountId
    dto.reportedAmount.cents dto.transactionReference dto.note
  let replay ← .read .other (fun db => db.refundPayouts.rows.find? (fun row =>
    row.companyId = ctx.companyId ∧ row.clientUuid = dto.clientUuid))
  match replay with
  | some prior =>
      .require (prior.clientRequestHash = fingerprint) (.coded "idempotency_conflict"
        (.conflict "That request id was already used for a different refund report."))
      detail first ctx id
  | none =>
    let account ← activeAccount ctx dto.receivingAccountId
    .commit .other (fun db => (insertPayout (newPayout ctx branchId payoutId loaded.request.id
      reversal dto account fingerprint) db).mapError alreadyReported)
    detail first ctx id

/-- `updateMany` on the version and on the refund being unconfirmed. -/
def swapPayout (companyId id : Id) (expectedVersion : Nat) (f : RefundPayout → RefundPayout)
    (keep : ∀ row, (f row).id = row.id) (db : Db) : Except Refusal Db :=
  match db.refundPayouts.swap? id (fun row => row.companyId = companyId ∧
      row.version = expectedVersion ∧ row.status = .reportedPendingConfirmation) f keep with
  | none => .error staleWrite
  | some refundPayouts => .ok { db with refundPayouts }

def amended (method : Method) (account : Option ReceivingAccount) (dto : CorrectRefundDto)
    (row : RefundPayout) : RefundPayout :=
  { row with
    method
    receivingAccountId := if method = .cash then none else account.map ReceivingAccount.id
    accountLabelSnapshot := if method = .cash then none else account.map ReceivingAccount.label
    transactionReference :=
      if dto.transactionReference.isSome then trimOrNull dto.transactionReference
      else row.transactionReference
    note := if dto.note.isSome then trimOrNull dto.note else row.note
    version := row.version + 1 }

theorem amended_id (method : Method) (account : Option ReceivingAccount)
    (dto : CorrectRefundDto) (row : RefundPayout) :
    (amended method account dto row).id = row.id := rfl

def findPayout (first : Lookup RefundPayout) (ctx : Ctx) (returnId : Id) :
    Request RefundPayout := do
  let found ← .read .other (fun db => first.pick (payoutsOf db ctx.companyId returnId))
  .expect (.notFound "Refund not found") found

def correctRefund (first : Lookup RefundPayout) (ctx : Ctx) (id : Id)
    (dto : CorrectRefundDto) : Request ReturnDetail := do
  let branchId ← .expect branchRequired ctx.branchId
  let loaded ← load ctx branchId id
  let payout ← findPayout first ctx loaded.request.id
  .liftExcept (assertCorrectable payout.status)
  let method := dto.method.getD payout.method
  let accountId := dto.receivingAccountId.or payout.receivingAccountId
  .liftExcept (assertMethodAndAccount method (if method = .cash then none else accountId))
  let account ← activeAccount ctx (if method = .account then accountId else none)
  .commit .other (swapPayout ctx.companyId payout.id dto.expectedVersion
    (amended method account dto) (amended_id method account dto))
  detail first ctx id

def confirmed (ctx : Ctx) (label : Option String) (row : RefundPayout) : RefundPayout :=
  { row with
    status := .confirmed
    confirmedById := ctx.userId
    confirmedAt := some ctx.now
    confirmationDate := some ctx.today
    accountLabelSnapshot := label
    version := row.version + 1 }

theorem confirmed_id (ctx : Ctx) (label : Option String) (row : RefundPayout) :
    (confirmed ctx label row).id = row.id := rfl

/-- The payout with the label of its account, as `include` brings it. -/
def liveLabel (db : Db) (payout : RefundPayout) : Option String :=
  (payout.receivingAccountId.bind db.receivingAccounts.find?).map ReceivingAccount.label

def confirmRefund (first : Lookup RefundPayout) (ctx : Ctx) (rollupId id : Id)
    (dto : ConfirmRefundDto) : Request ReturnDetail := do
  let branchId ← .expect branchRequired ctx.branchId
  let loaded ← load ctx branchId id
  let found ← .read .other (fun db =>
    (first.pick (payoutsOf db ctx.companyId loaded.request.id)).map (fun payout =>
      (payout, liveLabel db payout)))
  let (payout, label) ← .expect (.notFound "Refund not found") found
  if payout.status = .confirmed then detail first ctx id
  else
    let closed ← .read .other (closedToday ctx branchId)
    .require (closed = false) (dayAlreadyClosed ctx.today
      "Confirm this refund tomorrow, or ask the owner to review the closing.")
    .commit .other (swapPayout ctx.companyId payout.id dto.expectedVersion
      (confirmed ctx (payout.accountLabelSnapshot.or label))
      (confirmed_id ctx (payout.accountLabelSnapshot.or label)))
    Analytics.recomputeDaily .other ctx.companyId branchId ctx.today ctx.now rollupId
    detail first ctx id

/-- `payoutNotCorrected` fails: an approved correction names the payout. -/
def corrected (db : Db) (payoutId : Id) : Bool :=
  db.financialCorrections.any (fun row =>
    row.targetRefundPayoutId = some payoutId ∧ row.status = .approved)

def settlements (db : Db) (reversalId : Id) : List RefundPayout :=
  db.refundPayouts.filter (fun payout => payout.returnReversalId = reversalId ∧
    payout.status = .confirmed ∧ corrected db payout.id = false)

/-- `LEFT JOIN … WHERE p.id IS NULL`. -/
def outstanding (db : Db) (companyId branchId : Id) : List ReturnReversal :=
  db.returnReversals.filter (fun reversal => reversal.companyId = companyId ∧
    reversal.branchId = branchId ∧ (settlements db reversal.id).isEmpty)

end ErpBackend.Returns
