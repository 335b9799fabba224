import ErpBackend.Corrections.Rules
import ErpBackend.Analytics.Rollup
import ErpBackend.Inventory.Stock

/-!
# CorrectionsService

Every statement is on its own: `approve` first decides the correction, then marks
the payout it is about, then recomputes the day.
-/

namespace ErpBackend.Corrections

open Foundation Inventory

structure RequestCorrectionDto where
  targetKind : CorrectionKind
  targetId : Id
  reason : String
  supportingReference : Option String := none
  clientUuid : Id

structure DecideCorrectionDto where
  expectedVersion : Nat
  note : Option String := none

def findCorrection (db : Db) (companyId id : Id) : Option FinancialCorrection :=
  (db.financialCorrections.find? id).filter (fun row => row.companyId = companyId)

def load (ctx : Ctx) (id : Id) : Request FinancialCorrection := do
  let found ← .read .other (fun db => findCorrection db ctx.companyId id)
  .expect (.notFound "Correction not found") found

def payoutTarget (payout : RefundPayout) : Target where
  confirmed := payout.status = .confirmed
  branchId := payout.branchId
  amount := payout.reportedAmount
  method := payout.method
  accountLabel := payout.accountLabelSnapshot

def settlementTarget (settlement : SupplierSettlement) : Target where
  confirmed := settlement.status = .confirmed
  branchId := settlement.branchId
  amount := settlement.amount
  method := settlement.method
  accountLabel := settlement.accountLabelSnapshot

def loadTarget (db : Db) (companyId : Id) (kind : CorrectionKind) (id : Id) : Option Target :=
  match kind with
  | .refundPayout => ((db.refundPayouts.find? id).filter (fun row =>
      row.companyId = companyId)).map payoutTarget
  | .supplierSettlement => ((db.supplierSettlements.find? id).filter (fun row =>
      row.companyId = companyId)).map settlementTarget

def targetOf (row : FinancialCorrection) : CorrectionKind → Option Id
  | .refundPayout => row.targetRefundPayoutId
  | .supplierSettlement => row.targetSupplierSettlementId

/-- `ck_fc_decision_fields`. -/
def decisionFields (row : FinancialCorrection) : Bool :=
  match row.status with
  | .requested => row.decidedById.isNone ∧ row.decidedAt.isNone ∧ row.correctionDate.isNone
  | .rejected => row.decidedById.isSome ∧ row.decidedAt.isSome ∧ row.correctionDate.isNone
  | .approved => row.decidedById.isSome ∧ row.decidedAt.isSome ∧ row.correctionDate.isSome

/-- `ck_fc_one_target`. -/
def oneTarget (row : FinancialCorrection) : Bool :=
  match row.targetKind with
  | .refundPayout =>
      row.targetRefundPayoutId.isSome ∧ row.targetSupplierSettlementId.isNone
  | .supplierSettlement =>
      row.targetSupplierSettlementId.isSome ∧ row.targetRefundPayoutId.isNone

def insertCorrection (row : FinancialCorrection) (db : Db) : Except Refusal Db :=
  if !oneTarget row then .error (.constraint "ck_fc_one_target")
  else if ¬ 0 < row.amount then .error (.constraint "ck_fc_amount_positive")
  else if row.reason = "" then .error (.constraint "ck_fc_reason_present")
  else if !decisionFields row then .error (.constraint "ck_fc_decision_fields")
  else if db.financialCorrections.any (fun other =>
      other.companyId = row.companyId ∧ other.clientUuid = row.clientUuid) then
    .error (.unique "uq_fc_client_uuid")
  else db.financialCorrections.store row (.unique "PRIMARY") (fun financialCorrections =>
    { db with financialCorrections })

def newCorrection (ctx : Ctx) (id : Id) (dto : RequestCorrectionDto) (target : Target)
    (reason fingerprint : String) : FinancialCorrection where
  id := id
  companyId := ctx.companyId
  branchId := target.branchId
  targetKind := dto.targetKind
  targetRefundPayoutId := if dto.targetKind = .refundPayout then some dto.targetId else none
  targetSupplierSettlementId :=
    if dto.targetKind = .supplierSettlement then some dto.targetId else none
  status := .requested
  reason := reason
  supportingReference := trimOrNull dto.supportingReference
  amount := target.amount
  method := target.method
  accountLabelSnapshot := target.accountLabel
  requestedById := ctx.userId
  decidedById := none
  decidedAt := none
  correctionDate := none
  clientUuid := dto.clientUuid
  clientRequestHash := fingerprint
  version := 0

def request (ctx : Ctx) (id : Id) (dto : RequestCorrectionDto) :
    Request FinancialCorrection := do
  let _ ← .expect branchRequired ctx.branchId
  let reason ← .liftExcept (assertReasonGiven dto.reason)
  let fingerprint := fingerprintCorrection dto.targetKind dto.targetId reason
    dto.supportingReference
  let replay ← .read .other (fun db => db.financialCorrections.rows.find? (fun row =>
    row.companyId = ctx.companyId ∧ row.clientUuid = dto.clientUuid))
  match replay with
  | some prior =>
      .require (prior.clientRequestHash = fingerprint) (.coded "idempotency_conflict"
        (.conflict "That request id was already used for a different correction."))
      load ctx prior.id
  | none =>
    let found ← .read .other (fun db => loadTarget db ctx.companyId dto.targetKind dto.targetId)
    let target ← .liftExcept (assertTargetCorrectable found)
    let existing ← .read .other (fun db => (db.financialCorrections.filter (fun row =>
      row.companyId = ctx.companyId ∧ targetOf row dto.targetKind = some dto.targetId)).map
        FinancialCorrection.status)
    .liftExcept (assertNotAlreadyCorrected existing)
    .liftExcept (assertNoOpenRequest existing)
    .commit .other (insertCorrection (newCorrection ctx id dto target reason fingerprint))
    load ctx id

def refreshRequired : Refusal :=
  .coded "refresh_required"
    (.conflict "This correction changed while you were looking at it. Open it again.")

def decided (ctx : Ctx) (status : CorrectionStatus) (row : FinancialCorrection) :
    FinancialCorrection :=
  { row with
    status
    decidedById := ctx.userId
    decidedAt := some ctx.now
    correctionDate := if status = .approved then some ctx.today else row.correctionDate
    version := row.version + 1 }

theorem decided_id (ctx : Ctx) (status : CorrectionStatus) (row : FinancialCorrection) :
    (decided ctx status row).id = row.id := rfl

/-- Another approved correction has the same target of this kind. -/
def targetTaken (db : Db) (kind : CorrectionKind) (row : FinancialCorrection) : Bool :=
  (targetOf row kind).isSome ∧ db.financialCorrections.any (fun other =>
    other.id ≠ row.id ∧ other.status = .approved ∧ targetOf other kind = targetOf row kind)

/-- `updateMany` on the version and on the request being open. -/
def writeDecision (ctx : Ctx) (id : Id) (expectedVersion : Nat) (status : CorrectionStatus)
    (db : Db) : Except Refusal Db :=
  match db.financialCorrections.swap? id (fun row => row.companyId = ctx.companyId ∧
      row.version = expectedVersion ∧ row.status = .requested) (decided ctx status)
      (decided_id ctx status) with
  | none => .error refreshRequired
  | some financialCorrections =>
      let moved := financialCorrections.find? id
      if moved.any (fun row => !decisionFields row) then
        .error (.constraint "ck_fc_decision_fields")
      else if status = .approved ∧ moved.any (targetTaken db .refundPayout) then
        .error (.unique "uq_fc_active_payout")
      else if status = .approved ∧ moved.any (targetTaken db .supplierSettlement) then
        .error (.unique "uq_fc_active_settlement")
      else .ok { db with financialCorrections }

def supersede (companyId correctionId payoutId : Id) (db : Db) : Db :=
  { db with
    refundPayouts := db.refundPayouts.modify (fun row => row.companyId = companyId ∧
      row.id = payoutId ∧ row.correctedById = none)
      (fun row => { row with correctedById := some correctionId }) (fun _ => rfl) }

def supersedeTarget (ctx : Ctx) (correction : FinancialCorrection) : Request Unit :=
  match correction.targetRefundPayoutId with
  | none => pure ()
  | some payoutId =>
      .execute (.supersede correction.id) (supersede ctx.companyId correction.id payoutId)

def approve (ctx : Ctx) (rollupId id : Id) (dto : DecideCorrectionDto) :
    Request FinancialCorrection := do
  let correction ← load ctx id
  .liftExcept (assertDecidable correction.status)
  let closed ← .read .other (fun db => (findClosing db ctx.companyId correction.branchId
    ctx.today).any DailyClosing.isLocked)
  .liftExcept (assertDayOpen closed ctx.today)
  .commit .other (writeDecision ctx correction.id dto.expectedVersion .approved)
  supersedeTarget ctx correction
  Analytics.recomputeDaily .other ctx.companyId correction.branchId ctx.today ctx.now rollupId
  load ctx id

def reject (ctx : Ctx) (id : Id) (dto : DecideCorrectionDto) : Request FinancialCorrection := do
  let correction ← load ctx id
  .liftExcept (assertDecidable correction.status)
  .commit .other (writeDecision ctx correction.id dto.expectedVersion .rejected)
  load ctx id

end ErpBackend.Corrections
