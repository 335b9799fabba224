import ErpBackend.Scanner.Recognition

/-!
# TacMappingService

A company teaching its own TAC → product mapping. Who submits decides: without
`catalog.manage` the write is a proposal, with it a confirmation, and replacing
a confirmed mapping takes the version it was read at.
-/

namespace ErpBackend.Scanner

open Foundation

structure SubmitTacMappingDto where
  tac : String
  productId : Id
  evidenceSource : Option String := none
  expectedVersion : Option Nat := none

def invalidTac : Refusal :=
  .coded "invalid_tac" (.badRequest "A TAC is exactly eight digits.")

def alreadyConfirmed : Refusal :=
  .coded "already_confirmed" (.forbidden ("This model is already confirmed for that code. " ++
    "Ask an owner or manager to change it."))

def confirmationExists : Refusal :=
  .coded "confirmation_exists" (.conflict ("This code is already confirmed for a product. " ++
    "Send the version you saw to replace it."))

def refreshRequired : Refusal :=
  .coded "refresh_required" (.conflict
    "That mapping changed while you were looking at it. Open it again.")

def confirmedRow (m : Memory) (companyId : Id) (tac : String) : Option ProductRecognition :=
  m.recognitions.rows.find? (fun row => row.companyId = companyId ∧ row.codeType = .tac ∧
    row.code = tac ∧ row.status = .confirmed)

def proposal (ctx : Ctx) (id productId : Id) (dto : SubmitTacMappingDto) : ProductRecognition where
  id := id
  companyId := ctx.companyId
  codeType := .tac
  code := dto.tac
  productId := productId
  status := .proposed
  proposedById := ctx.userId
  evidenceSource := some (dto.evidenceSource.getD "receiving")
  timesSeen := 1
  confirmations := 0

def confirmation (ctx : Ctx) (id productId : Id) (now : Time) (dto : SubmitTacMappingDto) :
    ProductRecognition where
  id := id
  companyId := ctx.companyId
  codeType := .tac
  code := dto.tac
  productId := productId
  status := .confirmed
  confirmedById := ctx.userId
  confirmedAt := some now
  evidenceSource := some (dto.evidenceSource.getD "manual")
  timesSeen := 1
  confirmations := 1
  lastConfirmedAt := some now

def supersede (row : ProductRecognition) : ProductRecognition :=
  { row with
    status := .superseded
    version := row.version + 1 }

theorem supersede_id (row : ProductRecognition) : (supersede row).id = row.id := rfl

/-- `updateMany` on id, version and status. -/
def supersedeRow (companyId id : Id) (expectedVersion : Nat) (m : Memory) :
    Except Refusal Memory :=
  match m.recognitions.swap? id (fun row => row.companyId = companyId ∧
      row.version = expectedVersion ∧ row.status = .confirmed) supersede supersede_id with
  | none => .error refreshRequired
  | some recognitions => .ok { m with recognitions }

def propose (ctx : Ctx) (newId productId : Id) (dto : SubmitTacMappingDto)
    (existing : Option ProductRecognition) : Request Unit := do
  .require existing.isNone alreadyConfirmed
  .commit (.record false) (insertRecognition (proposal ctx newId productId dto))

def confirm (ctx : Ctx) (newId productId : Id) (dto : SubmitTacMappingDto)
    (existing : Option ProductRecognition) : Request Unit := do
  match existing with
  | none => pure ()
  | some row =>
      let expectedVersion ← .expect confirmationExists dto.expectedVersion
      .commit (.replace row.id expectedVersion true)
        (supersedeRow ctx.companyId row.id expectedVersion)
  .commit (.record true) (fun m =>
    insertRecognition (confirmation ctx newId productId m.clock dto) m)

/-- The answer is what `resolve` reads afterwards. -/
def submit (ctx : Ctx) (has : Permission → Bool) (newId : Id) (dto : SubmitTacMappingDto) :
    Request (List ProductRecognition) := do
  .require (isValidTac dto.tac) invalidTac
  let found ← .read .other (fun m => (m.products.find? dto.productId).filter (fun product =>
    product.companyId = ctx.companyId ∧ product.deletedAt = none))
  let product ← .expect (.notFound "Product not found") found
  let existing ← .read (.look ctx.companyId dto.tac) (fun m =>
    confirmedRow m ctx.companyId dto.tac)
  if has .catalogManage then confirm ctx newId product.id dto existing
  else propose ctx newId product.id dto existing
  .read .other (fun m => mappingsForCode m ctx.companyId .tac dto.tac)

end ErpBackend.Scanner
