import ErpBackend.Foundation.Interleave
import ErpBackend.Schema

/-!
# ConsignmentsService

Stock sent to another shop to be sold there. A consignment belongs to a source
company and, unless the counterparty is manual, to a destination company.
-/

namespace ErpBackend.Consignments

open Foundation

inductive Mark where
  | other
  | checked (consignmentId : Id) (kind : LedgerKind) (refersToId : Option Id)
  | append (consignmentId : Id) (kind : LedgerKind) (refersToId : Option Id)
  deriving DecidableEq, Repr

abbrev Request (α : Type) := Prog Db Mark Refusal α

structure CreateConsignmentDto where
  counterpartyId : Id
  unitIds : List Id
  proposedAmount : Amount
  note : Option String
  clientUuid : Option Id

inductive Decision where
  | accept
  | counter
  | dispute
  | reject
  | cancel
  deriving DecidableEq, Repr

def Decision.action : Decision → Action
  | .accept => .accept
  | .counter => .counter
  | .dispute => .dispute
  | .reject => .reject
  | .cancel => .cancel

structure DecideConsignmentDto where
  action : Decision
  amount : Option Amount := none
  reason : Option String := none
  expectedVersion : Option Int := none

inductive CustodyAction where
  | send
  | confirm
  deriving DecidableEq, Repr

structure CustodyDto where
  action : CustodyAction
  identifiers : Option (List String) := none

structure ReportSoldDto where
  lineIds : Option (List Id) := none

inductive PaymentAction where
  | report
  | confirm
  deriving DecidableEq, Repr

structure ConsignmentPaymentDto where
  action : PaymentAction
  amount : Option Amount := none
  method : Option Method := none
  receivingAccountId : Option Id := none
  reference : Option String := none
  evidenceRef : Option String := none
  entryId : Option Id := none
  clientUuid : Option Id := none

structure ForgiveDto where
  amount : Amount
  reason : String

inductive ReturnAction where
  | initiate
  | ship
  | confirm
  deriving DecidableEq, Repr

def ReturnAction.action : ReturnAction → Action
  | .initiate => .initiateReturn
  | .ship => .shipReturn
  | .confirm => .confirmReturn

structure ReturnDto where
  action : ReturnAction
  condition : Option ReturnCondition := none
  note : Option String := none

def visibleTo (me : Id) (c : Consignment) : Bool :=
  c.sourceCompanyId = me ∨ c.destinationCompanyId = some me

def sideOf (c : Consignment) (me : Id) : Option Side :=
  if c.sourceCompanyId = me then some .source
  else if c.destinationCompanyId = some me then some .destination
  else none

def requireSide (c : Consignment) (me : Id) : Request Side :=
  .expect (.notFound "No such consignment") (sideOf c me)

def assertSource (c : Consignment) (me : Id) : Request Unit := do
  let side ← requireSide c me
  .require (side = .source) (.forbidden "Only the sending store can do that")

def assertDestination (c : Consignment) (me : Id) : Request Unit := do
  let side ← requireSide c me
  .require (side = .destination) (.forbidden "Only the receiving store can do that")

def linesOf (db : Db) (consignmentId : Id) : List ConsignmentLine :=
  db.consignmentLines.filter (fun line => line.consignmentId = consignmentId)

def ledgerOf (db : Db) (consignmentId : Id) : List ConsignmentLedgerEntry :=
  db.consignmentLedger.filter (fun entry => entry.consignmentId = consignmentId)

def ledgerRows (db : Db) (consignmentId : Id) : List LedgerRow :=
  (ledgerOf db consignmentId).map (fun entry => ⟨entry.kind, entry.amount⟩)

structure ConsignmentView where
  consignment : Consignment
  group : StatusGroup
  statusText : String
  side : Side
  amountIsMutable : Bool
  lines : List ConsignmentLine
  ledger : List (ConsignmentLedgerEntry × Bool)

def viewOf (db : Db) (me : Id) (c : Consignment) (side : Side) : ConsignmentView where
  consignment := c
  group := groupOf c.status
  statusText := readable c.status
  side := side
  amountIsMutable := amountIsMutable c.status
  lines := linesOf db c.id
  ledger := (ledgerOf db c.id).map (fun entry => (entry, entry.actingCompanyId = me))

def findVisible (db : Db) (me id : Id) : Option Consignment :=
  (db.consignments.find? id).filter (visibleTo me)

def get (ctx : Ctx) (id : Id) : Request ConsignmentView := do
  let found ← .read .other (fun db => (findVisible db ctx.companyId id).bind (fun c =>
    (sideOf c ctx.companyId).map (viewOf db ctx.companyId c)))
  .expect (.notFound "No such consignment") found

def mine (ctx : Ctx) (id : Id) : Request Consignment := do
  let found ← .read .other (fun db => findVisible db ctx.companyId id)
  .expect (.notFound "No such consignment") found

def insertConsignment (db : Db) (c : Consignment) : Except Refusal Db :=
  if c.destinationCompanyId = some c.sourceCompanyId then
    .error (.constraint "ck_cons_not_self")
  else if c.clientUuid ≠ none ∧ db.consignments.any (fun other =>
      other.sourceCompanyId = c.sourceCompanyId ∧ other.clientUuid = c.clientUuid) then
    .error (.constraint "ux_consignments_client_uuid")
  else db.consignments.store c (.constraint "PRIMARY") (fun consignments =>
    { db with consignments })

def insertLine (db : Db) (line : ConsignmentLine) : Except Refusal Db :=
  if line.open ∧ db.consignmentLines.any (fun other =>
      other.open && other.unitId == line.unitId) then
    .error (.constraint "ux_consignment_lines_active_unit")
  else if line.identifier.toList.all (· == ' ') then .error (.constraint "ck_cline_identifier")
  else match db.consignmentLines.insert? line with
    | none => .error (.constraint "PRIMARY")
    | some consignmentLines => .ok { db with consignmentLines }

def lineFor (me consignmentId lineId : Id) (unit : StockUnit) : ConsignmentLine where
  id := lineId
  consignmentId := consignmentId
  sourceCompanyId := me
  unitId := unit.id
  identifier := unit.identifier
  agreedAmount := none
  status := .proposed
  disposedAt := none
  disposition := none
  returnCondition := none
  returnNote := none

def claimUnit (me branchId consignmentId lineId unitId : Id) (db : Db) : Except Refusal Db :=
  match (db.units.find? unitId).filter (fun unit =>
      unit.companyId = me ∧ unit.branchId = branchId) with
  | none => .error (.notFound "One of those phones is not in this branch")
  | some unit =>
    match db.units.swap? unitId (fun unit => unit.status = .inStock)
        (fun unit => { unit with status := .consignedOut }) (fun _ => rfl) with
    | none => .error (.conflict (unit.identifier ++
        " is not available — it may be reserved, sold or already on consignment"))
    | some units => insertLine { db with units } (lineFor me consignmentId lineId unit)

def claimUnits (me branchId consignmentId : Id) (lineIds : Nat → Id) :
    Nat → List Id → Db → Except Refusal Db
  | _, [], db => .ok db
  | index, unitId :: rest, db =>
      match claimUnit me branchId consignmentId (lineIds index) unitId db with
      | .error refusal => .error refusal
      | .ok db' => claimUnits me branchId consignmentId lineIds (index + 1) rest db'

def proposedConsignment (ctx : Ctx) (fresh branchId : Id) (dto : CreateConsignmentDto)
    (counterparty : Counterparty) : Consignment where
  id := fresh
  sourceCompanyId := ctx.companyId
  sourceBranchId := branchId
  destinationCompanyId := counterparty.connectedCompanyId
  counterpartyId := counterparty.id
  connectionId := counterparty.connectionId
  status := .requested
  proposedAmount := some dto.proposedAmount.cents
  counterAmount := none
  agreedAmount := none
  disputeReason := none
  note := trimOrNull dto.note
  proposedById := ctx.userId
  decidedById := none
  decidedAt := none
  custodySentAt := none
  custodySentById := none
  custodyConfirmedAt := none
  custodyConfirmedById := none
  settledAt := none
  clientUuid := dto.clientUuid
  version := 0

def commitProposal (ctx : Ctx) (fresh branchId : Id) (lineIds : Nat → Id)
    (dto : CreateConsignmentDto) (counterparty : Counterparty) (db : Db) : Except Refusal Db :=
  match insertConsignment db (proposedConsignment ctx fresh branchId dto counterparty) with
  | .error refusal => .error refusal
  | .ok db' => claimUnits ctx.companyId branchId fresh lineIds 0 dto.unitIds db'

def create (ctx : Ctx) (fresh : Id) (lineIds : Nat → Id) (dto : CreateConsignmentDto) :
    Request ConsignmentView := do
  let me := ctx.companyId
  let branchId ← .expect
    (.badRequest "X-Branch-Id header is required for this operation") ctx.branchId
  .require (dto.unitIds ≠ []) (.badRequest "Choose at least one phone")
  .require (dto.unitIds.length ≤ 50) (.badRequest "That is too many phones for one consignment")
  let replay ← .read .other (fun db => dto.clientUuid.bind (fun key =>
    db.consignments.rows.find? (fun c => c.sourceCompanyId = me ∧ c.clientUuid = some key)))
  match replay with
  | some c => get ctx c.id
  | none =>
    let found ← .read .other (fun db => findCounterparty db me dto.counterpartyId)
    let (counterparty, connection) ← .expect (.notFound "No such counterparty") found
    .require (connection ≠ some .blocked) (.conflict "That store is blocked")
    .require (counterparty.kind = .connectedStore → connection = some .accepted)
      (.conflict "You are not connected to that store yet")
    .commit .other (commitProposal ctx fresh branchId lineIds dto counterparty)
    get ctx fresh

def closeLine (f : ConsignmentLine → ConsignmentLine) (keepLine : ∀ line, (f line).id = line.id)
    (g : StockUnit → StockUnit) (keepUnit : ∀ unit, (g unit).id = unit.id)
    (db : Db) (line : ConsignmentLine) : Db :=
  { db with
    units := db.units.modify
      (fun unit => unit.id = line.unitId ∧ unit.status = .consignedOut) g keepUnit
    consignmentLines := db.consignmentLines.update line.id f keepLine }

def closeLines (f : ConsignmentLine → ConsignmentLine) (keepLine : ∀ line, (f line).id = line.id)
    (g : StockUnit → StockUnit) (keepUnit : ∀ unit, (g unit).id = unit.id)
    (db : Db) (lines : List ConsignmentLine) : Db :=
  lines.foldl (closeLine f keepLine g keepUnit) db

theorem restocked_id (unit : StockUnit) :
    ({ unit with status := .inStock } : StockUnit).id = unit.id := rfl

theorem sold_id (now : Time) (unit : StockUnit) :
    ({ unit with status := .sold, dateSold := some now } : StockUnit).id = unit.id := rfl

def releaseUnits (db : Db) (consignmentId : Id) : Db :=
  closeLines (fun line => { line with status := .cancelled }) (fun _ => rfl)
    (fun unit => { unit with status := .inStock }) restocked_id db
    ((linesOf db consignmentId).filter ConsignmentLine.open)

def sellLines (now : Time) (db : Db) (lines : List ConsignmentLine) : Db :=
  closeLines
    (fun line => { line with status := .sold, disposition := some .sold, disposedAt := some now })
    (fun _ => rfl)
    (fun unit => { unit with status := .sold, dateSold := some now }) (sold_id now) db lines

def returnLines (now : Time) (condition : ReturnCondition) (note : Option String) (db : Db)
    (lines : List ConsignmentLine) : Db :=
  closeLines
    (fun line =>
      { line with
        status := .returned
        disposition := some (if condition = .damaged then .damaged else .returned)
        returnCondition := some condition
        returnNote := trimOrNull note
        disposedAt := some now })
    (fun _ => rfl)
    (fun unit => { unit with status := if condition = .damaged then .faulty else .inStock })
    (fun _ => rfl) db lines

def lastProposalBy (c : Consignment) : Option Side :=
  match c.status with
  | .requested => some .source
  | .counterProposed => some .destination
  | _ => none

def offered (c : Consignment) : Int := (c.counterAmount.or c.proposedAmount).getD 0

/-- `updateMany({ where: { id, version, status }, data })` on the row as it was read. -/
def swapConsignment (db : Db) (read : Consignment) (f : Consignment → Consignment)
    (keep : ∀ c, (f c).id = c.id) (message : String) : Except Refusal Db :=
  match db.consignments.swap? read.id
      (fun c => c.version = read.version ∧ c.status = read.status) f keep with
  | none => .error (.conflict message)
  | some consignments => .ok { db with consignments }

def decided (ctx : Ctx) (dto : DecideConsignmentDto) (read : Consignment)
    (next : ConsignmentStatus) (c : Consignment) : Consignment :=
  { c with
    status := next
    counterAmount := if dto.action = .counter then dto.amount.map Amount.cents
      else c.counterAmount
    proposedById := if dto.action = .counter then ctx.userId else c.proposedById
    disputeReason := if dto.action = .dispute then dto.reason.map trim else c.disputeReason
    agreedAmount := if dto.action = .accept then some (offered read) else c.agreedAmount
    decidedById := if dto.action = .accept then ctx.userId else c.decidedById
    decidedAt := if dto.action = .accept then some ctx.now else c.decidedAt
    version := c.version + 1 }

theorem decided_id (ctx : Ctx) (dto : DecideConsignmentDto) (read : Consignment)
    (next : ConsignmentStatus) (c : Consignment) : (decided ctx dto read next c).id = c.id := rfl

def agreeLines (db : Db) (consignmentId : Id) (agreed : Int) : Db :=
  { db with
    consignmentLines := db.consignmentLines.modify
      (fun line => line.consignmentId = consignmentId ∧ line.status = .proposed)
      (fun line => { line with agreedAmount := some agreed }) (fun _ => rfl) }

def commitDecision (ctx : Ctx) (dto : DecideConsignmentDto) (read : Consignment)
    (next : ConsignmentStatus) (db : Db) : Except Refusal Db :=
  match swapConsignment db read (decided ctx dto read next) (decided_id ctx dto read next)
      "refresh_required: somebody else answered first" with
  | .error refusal => .error refusal
  | .ok swapped =>
    let released := if next = .cancelled then releaseUnits swapped read.id else swapped
    .ok (if dto.action = .accept then agreeLines released read.id (offered read) else released)

def decide (ctx : Ctx) (id : Id) (dto : DecideConsignmentDto) : Request ConsignmentView := do
  let c ← mine ctx id
  let side ← requireSide c ctx.companyId
  .require (dto.action = .dispute → blank dto.reason = false)
    (.badRequest "Say what the problem is")
  .require (dto.action = .counter → dto.amount ≠ none)
    (.badRequest "A counter-offer needs an amount")
  let next ← .liftExcept ((assertTransition dto.action.action c.status side
    (lastProposalBy c)).mapError Refusal.conflict)
  .require (dto.expectedVersion = none ∨ dto.expectedVersion = some (c.version : Int))
    (.conflict "refresh_required: this consignment changed while you were reading it")
  .require (dto.action = .accept → 0 < offered c) (.badRequest "There is no amount to accept")
  .commit .other (commitDecision ctx dto c next)
  get ctx id

def changedWhileReading : String :=
  "refresh_required: this consignment changed while you were reading it"

def sent (ctx : Ctx) (next : ConsignmentStatus) (c : Consignment) : Consignment :=
  { c with
    status := next
    custodySentAt := some ctx.now
    custodySentById := ctx.userId
    version := c.version + 1 }

def received (ctx : Ctx) (next : ConsignmentStatus) (c : Consignment) : Consignment :=
  { c with
    status := next
    custodyConfirmedAt := some ctx.now
    custodyConfirmedById := ctx.userId
    version := c.version + 1 }

def commitSend (ctx : Ctx) (read : Consignment) (next : ConsignmentStatus) (db : Db) :
    Except Refusal Db :=
  swapConsignment db read (sent ctx next) (fun _ => by rfl) changedWhileReading

def commitReceipt (ctx : Ctx) (read : Consignment) (next : ConsignmentStatus) (db : Db) :
    Except Refusal Db :=
  if ctx.userId = none then .error (.constraint "ck_cons_custody_attribution")
  else match swapConsignment db read (received ctx next) (fun _ => by rfl)
      changedWhileReading with
    | .error refusal => .error refusal
    | .ok swapped => .ok
        { swapped with
          consignmentLines := swapped.consignmentLines.modify
            (fun line => line.consignmentId = read.id ∧ line.status = .proposed)
            (fun line => { line with status := .inCustody }) (fun _ => rfl) }

/-- Every scanned identifier is one that was sent, and there are as many. -/
def assertScanned (sent : List ConsignmentLine) : Option (List String) → Except Refusal Unit
  | none => .ok ()
  | some scans =>
      if scans = [] then .ok ()
      else if scans.length ≠ sent.length then
        .error (.badRequest ("Scan all " ++ toString sent.length ++
          " phones, or report a problem instead"))
      else match scans.find? (fun scan =>
          sent.all (fun line => normIdentifier line.identifier != normIdentifier scan)) with
        | none => .ok ()
        | some scan => .error (.conflict ("That is not the phone that was sent. Expected " ++
            ((sent.head?.map ConsignmentLine.identifier).getD "(none)") ++ ", scanned " ++ scan))

def custody (ctx : Ctx) (id : Id) (dto : CustodyDto) : Request ConsignmentView := do
  let me := ctx.companyId
  let c ← mine ctx id
  let side ← requireSide c me
  match dto.action with
  | .send =>
    let next ← .liftExcept ((assertTransition .sendCustody c.status side none).mapError
      Refusal.conflict)
    assertSource c me
    .commit .other (commitSend ctx c next)
  | .confirm =>
    let next ← .liftExcept ((assertTransition .confirmCustody c.status side none).mapError
      Refusal.conflict)
    assertDestination c me
    .require (c.agreedAmount ≠ none) (.conflict "There is no agreed amount to confirm against")
    let lines ← .read .other (fun db =>
      (linesOf db c.id).filter (fun line => line.status = .proposed))
    .liftExcept (assertScanned lines dto.identifiers)
    .commit .other (commitReceipt ctx c next)
  get ctx id

def insertEntry (db : Db) (entry : ConsignmentLedgerEntry) : Except Refusal Db :=
  if ¬ 0 < entry.amount then .error (.constraint "ck_cledger_amount")
  else if entry.clientUuid ≠ none ∧ db.consignmentLedger.any (fun other =>
      other.actingCompanyId = entry.actingCompanyId ∧ other.clientUuid = entry.clientUuid) then
    .error (.constraint "ux_cledger_client_uuid")
  else if db.consignments.find? entry.consignmentId = none then
    .error (.constraint "fk_cledger_consignment")
  else if entry.receivingAccountId.any (fun id => db.receivingAccounts.find? id = none) then
    .error (.constraint "fk_cledger_account")
  else match db.consignmentLedger.insert? entry with
    | none => .error (.constraint "PRIMARY")
    | some consignmentLedger => .ok { db with consignmentLedger }

/-- The columns every ledger row of a request shares. -/
def entryFor (ctx : Ctx) (fresh : Id) (c : Consignment) (kind : LedgerKind) (amount : Int) :
    ConsignmentLedgerEntry where
  id := fresh
  consignmentId := c.id
  sourceCompanyId := c.sourceCompanyId
  destinationCompanyId := c.destinationCompanyId
  kind := kind
  amount := amount
  method := none
  receivingAccountId := none
  accountLabelSnapshot := none
  reference := none
  evidenceRef := none
  reason := none
  actingCompanyId := ctx.companyId
  actingUserId := ctx.userId
  entryDate := ctx.today
  clientUuid := none
  clientRequestHash := none
  refersToId := none

def selectLines (dto : ReportSoldDto) (lines : List ConsignmentLine) : List ConsignmentLine :=
  match dto.lineIds with
  | none => lines
  | some ids => if ids = [] then lines else lines.filter (fun line => line.id ∈ ids)

def raised (lines : List ConsignmentLine) : Int :=
  (lines.map (fun line => line.agreedAmount.getD 0)).sum

def advanced (next : ConsignmentStatus) (c : Consignment) : Consignment :=
  { c with status := next, version := c.version + 1 }

def commitSold (ctx : Ctx) (fresh : Id) (read : Consignment) (next : ConsignmentStatus)
    (sold : List ConsignmentLine) (db : Db) : Except Refusal Db :=
  match swapConsignment db read (advanced next) (fun _ => by rfl) changedWhileReading with
  | .error refusal => .error refusal
  | .ok swapped =>
    insertEntry (sellLines ctx.now swapped sold)
      (entryFor ctx fresh read .receivableRaised (raised sold))

def reportSold (ctx : Ctx) (fresh id : Id) (dto : ReportSoldDto) : Request ConsignmentView := do
  let me := ctx.companyId
  let c ← mine ctx id
  let side ← requireSide c me
  if c.destinationCompanyId.isSome then assertDestination c me else assertSource c me
  let next ← .liftExcept ((assertTransition .reportSold c.status side none).mapError
    Refusal.conflict)
  let lines ← .read .other (fun db =>
    (linesOf db c.id).filter (fun line => line.status = .inCustody))
  let sold := selectLines dto lines
  .require (sold ≠ []) (.badRequest "There is nothing to report as sold")
  .commit .other (commitSold ctx fresh c next sold)
  get ctx id

def append (mark : Mark) (entry : ConsignmentLedgerEntry) : Request Unit :=
  .commit mark (fun db => insertEntry db entry)

def moveStatus (db : Db) (id : Id) (source : List ConsignmentStatus)
    (status : ConsignmentStatus) (settledAt : Option Time → Option Time) : Db :=
  { db with
    consignments := db.consignments.modify (fun c => c.id = id ∧ c.status ∈ source)
      (fun c => { c with status, settledAt := settledAt c.settledAt }) (fun _ => rfl) }

def settleIfClear (ctx : Ctx) (consignmentId : Id) (status : ConsignmentStatus) :
    Request Unit := do
  let owed ← .read .other (fun db => outstanding (ledgerRows db consignmentId))
  if 0 < owed then
    .execute .other (fun db => moveStatus db consignmentId
      [.soldAwaitingSettlement] .partiallyPaid id)
  else
    .execute .other (fun db => moveStatus db consignmentId
      [.soldAwaitingSettlement, .partiallyPaid] status (fun _ => some ctx.now))

def findEntry (db : Db) (consignmentId entryId : Id) (kind : LedgerKind) :
    Option ConsignmentLedgerEntry :=
  (db.consignmentLedger.find? entryId).filter
    (fun entry => entry.consignmentId = consignmentId ∧ entry.kind = kind)

def findAnswer (db : Db) (entryId : Id) (kind : LedgerKind) : Option ConsignmentLedgerEntry :=
  db.consignmentLedger.rows.find?
    (fun entry => entry.refersToId = some entryId ∧ entry.kind = kind)

def confirmPayment (ctx : Ctx) (fresh : Id) (c : Consignment) (owed : Int)
    (dto : ConsignmentPaymentDto) : Request Unit := do
  assertSource c ctx.companyId
  let entryId ← .expect .invalidUuid dto.entryId
  let window := Mark.checked c.id .paymentConfirmed (some entryId)
  let found ← .read window (fun db => findEntry db c.id entryId .paymentReported)
  let reported ← .expect (.notFound "No such reported payment") found
  let already ← .read window (fun db => findAnswer db reported.id .paymentConfirmed)
  .require (already = none) (.conflict "That payment has already been confirmed")
  .liftExcept ((assertPaymentAllowed reported.amount (reported.method.getD .cash)
    reported.receivingAccountId owed).mapError Refusal.conflict)
  append (.append c.id .paymentConfirmed (some reported.id))
    { entryFor ctx fresh c .paymentConfirmed reported.amount with
      method := reported.method
      receivingAccountId := reported.receivingAccountId
      accountLabelSnapshot := reported.accountLabelSnapshot
      reference := reported.reference
      refersToId := some reported.id }
  settleIfClear ctx c.id .settled

def reportPayment (ctx : Ctx) (fresh : Id) (c : Consignment) (owed : Int)
    (dto : ConsignmentPaymentDto) : Request Unit := do
  let me := ctx.companyId
  let amount := (dto.amount.map Amount.cents).getD 0
  let fingerprint := fingerprintPayment c.id amount (dto.method.getD .cash)
    dto.receivingAccountId dto.reference
  let replay ← .read .other (fun db => dto.clientUuid.bind (fun key =>
    db.consignmentLedger.rows.find? (fun entry =>
      entry.actingCompanyId = me ∧ entry.clientUuid = some key)))
  match replay with
  | some entry =>
    .require (entry.clientRequestHash = none ∨ entry.clientRequestHash = some fingerprint)
      (.coded "idempotency_conflict"
        (.conflict "That request id was already used to report a different payment."))
  | none =>
    .liftExcept ((assertPaymentAllowed amount (dto.method.getD .cash)
      dto.receivingAccountId owed).mapError Refusal.badRequest)
    let label ← .read .other (fun db =>
      ((dto.receivingAccountId.bind db.receivingAccounts.find?).filter
        (fun account => account.companyId = me)).map ReceivingAccount.label)
    append (.append c.id .paymentReported none)
      { entryFor ctx fresh c .paymentReported amount with
        method := dto.method
        receivingAccountId := dto.receivingAccountId
        accountLabelSnapshot := label
        reference := trimOrNull dto.reference
        evidenceRef := trimOrNull dto.evidenceRef
        clientUuid := dto.clientUuid
        clientRequestHash := dto.clientUuid.map (fun _ => fingerprint) }

def payment (ctx : Ctx) (fresh id : Id) (dto : ConsignmentPaymentDto) :
    Request ConsignmentView := do
  let c ← mine ctx id
  let _ ← requireSide c ctx.companyId
  let owed ← .read .other (fun db => outstanding (ledgerRows db c.id))
  match dto.action with
  | .confirm => confirmPayment ctx fresh c owed dto
  | .report => reportPayment ctx fresh c owed dto
  get ctx id

def forgive (ctx : Ctx) (fresh id : Id) (dto : ForgiveDto) : Request ConsignmentView := do
  let c ← mine ctx id
  assertSource c ctx.companyId
  let owed ← .read .other (fun db => outstanding (ledgerRows db c.id))
  .liftExcept ((assertForgivenessAllowed dto.amount.cents (some dto.reason) owed).mapError
    Refusal.badRequest)
  append (.append c.id .forgiven none)
    { entryFor ctx fresh c .forgiven dto.amount.cents with
      reason := some (trim dto.reason) }
  settleIfClear ctx c.id .forgivenSettled
  get ctx id

def commitReturn (ctx : Ctx) (dto : ReturnDto) (read : Consignment) (next : ConsignmentStatus)
    (db : Db) : Except Refusal Db :=
  match swapConsignment db read (advanced next) (fun _ => by rfl) changedWhileReading with
  | .error refusal => .error refusal
  | .ok swapped =>
    match dto.action, dto.condition with
    | .confirm, some condition =>
        .ok (returnLines ctx.now condition dto.note swapped
          ((linesOf swapped read.id).filter (fun line => line.status = .inCustody)))
    | _, _ => .ok swapped

def returnFlow (ctx : Ctx) (id : Id) (dto : ReturnDto) : Request ConsignmentView := do
  let c ← mine ctx id
  let side ← requireSide c ctx.companyId
  let next ← .liftExcept ((assertTransition dto.action.action c.status side none).mapError
    Refusal.conflict)
  .require (dto.action = .confirm → dto.condition ≠ none)
    (.badRequest "Say what condition it came back in")
  .commit .other (commitReturn ctx dto c next)
  get ctx id

end ErpBackend.Consignments
