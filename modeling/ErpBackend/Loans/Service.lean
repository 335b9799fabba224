import ErpBackend.Foundation.Interleave
import ErpBackend.Schema

/-!
# LoansService

Every `await` on the database is one step. A loan belongs to two companies, so
reads filter on either company column.
-/

namespace ErpBackend.Loans

open Foundation

/-- The statement a loan request is about to run. `checked` and `append` carry
the ledger row the request has decided to add, once it has read the ledger. -/
inductive Mark where
  | other
  | checked (loanId : Id) (kind : LedgerKind) (refersToId : Option Id)
  | append (loanId : Id) (kind : LedgerKind) (refersToId : Option Id)
  deriving DecidableEq, Repr

abbrev Request (α : Type) := Prog Db Mark Refusal α

structure CreateLoanDto where
  counterpartyId : Id
  direction : Direction
  amount : Amount
  note : Option String
  clientUuid : Option Id

structure DecideLoanDto where
  action : Action
  amount : Option Amount
  reason : Option String
  expectedVersion : Option Int

inductive PaymentAction where
  | report
  | confirm
  | correct
  deriving DecidableEq, Repr

structure LoanPaymentDto where
  action : PaymentAction
  amount : Option Amount := none
  method : Option Method := none
  receivingAccountId : Option Id := none
  reference : Option String := none
  evidenceRef : Option String := none
  note : Option String := none
  reason : Option String := none
  entryId : Option Id := none
  clientUuid : Option Id := none

structure ForgiveLoanDto where
  amount : Amount
  reason : String

def visible (me : Id) (loan : Loan) : Bool :=
  loan.companyId = me ∨ loan.counterpartyCompanyId = some me

def toRow (entry : LoanLedgerEntry) : LedgerRow :=
  ⟨entry.kind, entry.amount, entry.id, entry.refersToId⟩

def ledgerOf (db : Db) (loanId : Id) : List LoanLedgerEntry :=
  db.loanLedger.filter (fun entry => entry.loanId = loanId)

def ledgerRows (db : Db) (loanId : Id) : List LedgerRow := (ledgerOf db loanId).map toRow

structure LoanView where
  loan : Loan
  group : StatusGroup
  statusText : String
  direction : Direction
  breakdown : Breakdown
  ledger : List (LoanLedgerEntry × Bool)

def viewOf (db : Db) (me : Id) (loan : Loan) : LoanView where
  loan := loan
  group := groupOf loan.status
  statusText := readable loan.status
  direction := directionFor loan.companyId loan.direction me
  breakdown := breakdown (ledgerRows db loan.id)
  ledger := (ledgerOf db loan.id).map (fun entry => (entry, entry.actingCompanyId = me))

def findVisible (db : Db) (me id : Id) : Option Loan :=
  (db.loans.find? id).filter (visible me)

def get (ctx : Ctx) (id : Id) : Request LoanView := do
  let found ← .read .other (fun db =>
    (findVisible db ctx.companyId id).map (viewOf db ctx.companyId))
  .expect (.notFound "No such loan") found

def mine (ctx : Ctx) (id : Id) : Request Loan := do
  let found ← .read .other (fun db => findVisible db ctx.companyId id)
  .expect (.notFound "No such loan") found

def isCreditor (loan : Loan) (me : Id) : Bool :=
  decide (loan.companyId = me) == decide (loan.direction = .theyOweUs)

def assertCreditor (loan : Loan) (me : Id) : Request Unit :=
  .require (isCreditor loan me = true) (.forbidden "Only the person owed the money can do that")

def insertLoan (db : Db) (loan : Loan) : Except Refusal Db :=
  if loan.counterpartyCompanyId = some loan.companyId then
    .error (.constraint "ck_loans_not_self")
  else if loan.clientUuid ≠ none ∧ db.loans.any (fun other =>
      other.companyId = loan.companyId ∧ other.clientUuid = loan.clientUuid) then
    .error (.constraint "ux_loans_client_uuid")
  else match db.loans.insert? loan with
    | none => .error (.constraint "PRIMARY")
    | some loans => .ok { db with loans }

def insertEntry (db : Db) (entry : LoanLedgerEntry) : Except Refusal Db :=
  if ¬ 0 < entry.amount then .error (.constraint "ck_lledger_amount")
  else if entry.clientUuid ≠ none ∧ db.loanLedger.any (fun other =>
      other.actingCompanyId = entry.actingCompanyId ∧ other.clientUuid = entry.clientUuid) then
    .error (.constraint "ux_lledger_client_uuid")
  else if db.loans.find? entry.loanId = none then .error (.constraint "fk_lledger_loan")
  else if entry.receivingAccountId.any (fun id => db.receivingAccounts.find? id = none) then
    .error (.constraint "fk_lledger_account")
  else match db.loanLedger.insert? entry with
    | none => .error (.constraint "PRIMARY")
    | some loanLedger => .ok { db with loanLedger }

def append (mark : Mark) (entry : LoanLedgerEntry) : Request Unit :=
  .commit mark (fun db => insertEntry db entry)

/-- `loan.updateMany({ where: { id, status: { in } }, data: { status, settledAt } })`. -/
def moveStatus (db : Db) (id : Id) (source : List LoanStatus) (status : LoanStatus)
    (settledAt : Option Time → Option Time) : Db :=
  { db with
    loans := db.loans.modify (fun loan => loan.id = id ∧ loan.status ∈ source)
      (fun loan => { loan with status, settledAt := settledAt loan.settledAt })
      (fun _ => rfl) }

/-- The columns every ledger row of a request shares. -/
def entryFor (ctx : Ctx) (fresh : Id) (loan : Loan) (kind : LedgerKind) (amount : Int) :
    LoanLedgerEntry where
  id := fresh
  loanId := loan.id
  companyId := loan.companyId
  counterpartyCompanyId := loan.counterpartyCompanyId
  kind := kind
  amount := amount
  method := none
  receivingAccountId := none
  accountLabelSnapshot := none
  reference := none
  evidenceRef := none
  reason := none
  note := none
  actingCompanyId := ctx.companyId
  actingUserId := ctx.userId
  entryDate := ctx.today
  clientUuid := none
  clientRequestHash := none
  refersToId := none

def proposedLoan (ctx : Ctx) (fresh : Id) (dto : CreateLoanDto) (counterparty : Counterparty) :
    Loan where
  id := fresh
  companyId := ctx.companyId
  branchId := ctx.branchId
  counterpartyId := counterparty.id
  counterpartyCompanyId := counterparty.connectedCompanyId
  connectionId := counterparty.connectionId
  direction := dto.direction
  status := .proposed
  proposedAmount := dto.amount.cents
  counterAmount := none
  principal := none
  note := trimOrNull dto.note
  disputeReason := none
  proposedByCompanyId := ctx.companyId
  proposedById := ctx.userId
  decidedById := none
  acceptedAt := none
  settledAt := none
  clientUuid := dto.clientUuid
  version := 0

def propose (ctx : Ctx) (fresh : Id) (dto : CreateLoanDto) : Request LoanView := do
  let me := ctx.companyId
  let replay ← .read .other (fun db => dto.clientUuid.bind (fun key =>
    db.loans.rows.find? (fun loan => loan.companyId = me ∧ loan.clientUuid = some key)))
  match replay with
  | some loan => get ctx loan.id
  | none =>
    let found ← .read .other (fun db => findCounterparty db me dto.counterpartyId)
    let (counterparty, connection) ← .expect (.notFound "No such counterparty") found
    .require (connection ≠ some .blocked) (.conflict "That store is blocked")
    .commit .other (fun db => insertLoan db (proposedLoan ctx fresh dto counterparty))
    get ctx fresh

/-- For a manual counterparty the owner records the other side's decision. -/
def isOwnOffer (loan : Loan) (me : Id) : Bool :=
  loan.counterpartyCompanyId.isSome && loan.proposedByCompanyId == me

def agreed (loan : Loan) : Int := loan.counterAmount.getD loan.proposedAmount

def decided (ctx : Ctx) (dto : DecideLoanDto) (read : Loan) (next : LoanStatus)
    (loan : Loan) : Loan :=
  { loan with
    status := next
    counterAmount := if dto.action = .counter then dto.amount.map Amount.cents
      else loan.counterAmount
    proposedByCompanyId := if dto.action = .counter then ctx.companyId
      else loan.proposedByCompanyId
    proposedById := if dto.action = .counter then ctx.userId else loan.proposedById
    disputeReason := if dto.action = .dispute then dto.reason.map trim else loan.disputeReason
    principal := if dto.action = .accept then some (agreed read) else loan.principal
    acceptedAt := if dto.action = .accept then some ctx.now else loan.acceptedAt
    decidedById := if dto.action = .accept then ctx.userId else loan.decidedById
    version := loan.version + 1 }

theorem decided_id (ctx : Ctx) (dto : DecideLoanDto) (read : Loan) (next : LoanStatus)
    (loan : Loan) : (decided ctx dto read next loan).id = loan.id := rfl

def commitDecision (ctx : Ctx) (fresh : Id) (dto : DecideLoanDto) (read : Loan)
    (next : LoanStatus) (db : Db) : Except Refusal Db :=
  match db.loans.swap? read.id
      (fun loan => loan.version = read.version ∧ loan.status = read.status)
      (decided ctx dto read next) (decided_id ctx dto read next) with
  | none => .error (.conflict "refresh_required: somebody else answered first")
  | some loans =>
    if dto.action = .accept then
      insertEntry { db with loans }
        (entryFor ctx fresh read .principalAccepted (agreed read))
    else .ok { db with loans }

def decide (ctx : Ctx) (fresh id : Id) (dto : DecideLoanDto) : Request LoanView := do
  let me := ctx.companyId
  let loan ← mine ctx id
  let next ← .liftExcept ((assertDecision
    { action := dto.action
      status := loan.status
      isOwnOffer := isOwnOffer loan me
      amount := dto.amount
      reason := dto.reason }).mapError Refusal.conflict)
  .require (dto.expectedVersion = none ∨ dto.expectedVersion = some (loan.version : Int))
    (.conflict "refresh_required: this loan changed while you were reading it")
  let mark := if dto.action = .accept then .append loan.id .principalAccepted none else .other
  .commit mark (commitDecision ctx fresh dto loan next)
  get ctx id

def settleIfClear (ctx : Ctx) (loanId : Id) (status : LoanStatus) : Request Unit := do
  let owed ← .read .other (fun db => remaining (ledgerRows db loanId))
  if 0 < owed then
    .execute .other (fun db => moveStatus db loanId
      [.accepted, .paymentAwaitingConfirmation] .partiallyPaid id)
  else
    .execute .other (fun db => moveStatus db loanId
      [.accepted, .partiallyPaid, .paymentAwaitingConfirmation] status (fun _ => some ctx.now))

def findEntry (db : Db) (loanId entryId : Id) (kind : LedgerKind) : Option LoanLedgerEntry :=
  (db.loanLedger.find? entryId).filter (fun entry => entry.loanId = loanId ∧ entry.kind = kind)

def findAnswer (db : Db) (entryId : Id) (kind : LedgerKind) : Option LoanLedgerEntry :=
  db.loanLedger.rows.find? (fun entry => entry.refersToId = some entryId ∧ entry.kind = kind)

def confirmPayment (ctx : Ctx) (fresh : Id) (loan : Loan) (owed : Int) (dto : LoanPaymentDto) :
    Request Unit := do
  let me := ctx.companyId
  assertCreditor loan me
  let entryId ← .expect .invalidUuid dto.entryId
  let window := Mark.checked loan.id .paymentConfirmed (some entryId)
  let found ← .read window (fun db => findEntry db loan.id entryId .paymentReported)
  let reported ← .expect (.notFound "No such reported payment") found
  let already ← .read window (fun db => findAnswer db reported.id .paymentConfirmed)
  .require (already = none) (.conflict "That payment has already been confirmed")
  .liftExcept ((assertPaymentAllowed reported.amount (reported.method.getD .cash)
    reported.receivingAccountId owed).mapError Refusal.conflict)
  append (.append loan.id .paymentConfirmed (some reported.id))
    { entryFor ctx fresh loan .paymentConfirmed reported.amount with
      method := reported.method
      receivingAccountId := reported.receivingAccountId
      accountLabelSnapshot := reported.accountLabelSnapshot
      reference := reported.reference
      refersToId := some reported.id }
  settleIfClear ctx loan.id .settled

def correctPayment (ctx : Ctx) (fresh : Id) (loan : Loan) (dto : LoanPaymentDto) :
    Request Unit := do
  let me := ctx.companyId
  assertCreditor loan me
  .require (blank dto.reason = false) (.badRequest "Say why you are reversing it")
  let entryId ← .expect .invalidUuid dto.entryId
  let found ← .read .other (fun db => findEntry db loan.id entryId .paymentConfirmed)
  let confirmed ← .expect (.notFound "No such confirmed payment") found
  let undone ← .read .other (fun db => findAnswer db confirmed.id .paymentCorrected)
  .require (undone = none) (.conflict "That payment has already been reversed")
  append (.append loan.id .paymentCorrected (some confirmed.id))
    { entryFor ctx fresh loan .paymentCorrected confirmed.amount with
      reason := dto.reason.map trim
      refersToId := some confirmed.id }
  .execute .other (fun db => moveStatus db loan.id [.settled, .forgivenSettled] .partiallyPaid
    (fun _ => none))

def reportPayment (ctx : Ctx) (fresh : Id) (loan : Loan) (owed : Int) (dto : LoanPaymentDto) :
    Request Unit := do
  let me := ctx.companyId
  let amount := (dto.amount.map Amount.cents).getD 0
  let fingerprint := fingerprintPayment loan.id amount (dto.method.getD .cash)
    dto.receivingAccountId dto.reference dto.evidenceRef
  let replay ← .read .other (fun db => dto.clientUuid.bind (fun key =>
    db.loanLedger.rows.find? (fun entry =>
      entry.actingCompanyId = me ∧ entry.clientUuid = some key)))
  match replay with
  | some entry =>
    .require (entry.clientRequestHash = none ∨ entry.clientRequestHash = some fingerprint)
      (.coded "idempotency_conflict"
        (.conflict "That request id was already used to report a different payment."))
  | none =>
    .liftExcept ((assertPaymentAllowed amount (dto.method.getD .cash)
      dto.receivingAccountId owed).mapError Refusal.badRequest)
    let label ← .read .other (fun db =>
      ((dto.receivingAccountId.bind db.receivingAccounts.find?).filter
        (fun account => account.companyId = me)).map ReceivingAccount.label)
    append (.append loan.id .paymentReported none)
      { entryFor ctx fresh loan .paymentReported amount with
        method := dto.method
        receivingAccountId := dto.receivingAccountId
        accountLabelSnapshot := label
        reference := trimOrNull dto.reference
        evidenceRef := trimOrNull dto.evidenceRef
        note := trimOrNull dto.note
        clientUuid := dto.clientUuid
        clientRequestHash := dto.clientUuid.map (fun _ => fingerprint) }
    .execute .other (fun db => moveStatus db loan.id [.accepted, .partiallyPaid]
      .paymentAwaitingConfirmation id)

def payment (ctx : Ctx) (fresh id : Id) (dto : LoanPaymentDto) : Request LoanView := do
  let loan ← mine ctx id
  .require (loan.principal ≠ none) (.conflict "Nothing has been agreed to pay yet")
  let owed ← .read .other (fun db => remaining (ledgerRows db loan.id))
  match dto.action with
  | .confirm => confirmPayment ctx fresh loan owed dto
  | .correct => correctPayment ctx fresh loan dto
  | .report => reportPayment ctx fresh loan owed dto
  get ctx id

def forgive (ctx : Ctx) (fresh id : Id) (dto : ForgiveLoanDto) : Request LoanView := do
  let loan ← mine ctx id
  assertCreditor loan ctx.companyId
  .require (loan.principal ≠ none) (.conflict "Nothing has been agreed to write off")
  let owed ← .read .other (fun db => remaining (ledgerRows db loan.id))
  .liftExcept ((assertForgivenessAllowed dto.amount.cents (some dto.reason) owed).mapError
    Refusal.badRequest)
  append (.append loan.id .forgiven none)
    { entryFor ctx fresh loan .forgiven dto.amount.cents with
      reason := some (trim dto.reason) }
  settleIfClear ctx loan.id .forgivenSettled
  get ctx id

end ErpBackend.Loans
