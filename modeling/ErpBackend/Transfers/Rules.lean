import ErpBackend.Inventory.Stock

/-!
# Transfer rules

`transfer-lines.ts`, `transfer-state-machine.ts` and `discrepancy.util.ts`.
-/

namespace ErpBackend.Transfers

/-- `@IsInt() @Min(1) @Max(MAX_LINE_QUANTITY)`. -/
structure LineQuantity where
  value : Int
  positive : 0 < value
  bounded : value ≤ 100000

inductive TransferLineDto where
  | unit (identifier : String)
  | stock (productId : String) (quantity : LineQuantity)

structure CreateTransferDto where
  clientUuid : Id
  toBranchId : String
  lines : Option (List TransferLineDto) := none
  identifiers : Option (List String) := none

structure QuantityLine where
  productId : String
  quantity : LineQuantity

structure NormalizedLines where
  identifiers : List String
  quantities : List QuantityLine

structure Reading where
  identifiers : List String := []
  quantities : List QuantityLine := []
  problems : List Problem := []

def readLine (reading : Reading) : TransferLineDto → Reading
  | .unit raw =>
      let identifier := trim raw
      if identifier = "" then
        { reading with problems := reading.problems ++ [{ reason := some "empty identifier" }] }
      else if identifier ∈ reading.identifiers then
        { reading with problems := reading.problems ++
            [{ identifier := some identifier, reason := some "scanned twice" }] }
      else { reading with identifiers := reading.identifiers ++ [identifier] }
  | .stock productId quantity =>
      if productId ∈ reading.quantities.map QuantityLine.productId then
        { reading with problems := reading.problems ++
            [{ productId := some (uuidToBin productId), reason := some "listed twice" }] }
      else { reading with quantities := reading.quantities ++ [⟨productId, quantity⟩] }

def requestedLines (dto : CreateTransferDto) : List TransferLineDto :=
  match dto.lines with
  | some (line :: rest) => line :: rest
  | _ => (dto.identifiers.getD []).map TransferLineDto.unit

def normalizeLines (dto : CreateTransferDto) : Except Refusal NormalizedLines :=
  let lines := requestedLines dto
  if lines = [] then .error (.badRequest "A transfer needs at least one item")
  else
    let reading := lines.foldl readLine {}
    if reading.problems ≠ [] then
      .error ((Refusal.badRequest "The same item was listed more than once").about
        reading.problems)
    else .ok ⟨reading.identifiers, reading.quantities⟩

def transferFingerprint (lines : NormalizedLines) (fromBranchId : Id) (toBranchId : String) :
    String :=
  "\x7b\"fromBranchId\":" ++ jsonString (toString fromBranchId) ++
    ",\"toBranchId\":" ++ jsonString toBranchId.toLower ++
    ",\"units\":" ++ jsonList (lines.identifiers.insertionSort (· ≤ ·)) ++
    ",\"stock\":" ++ jsonList ((lines.quantities.map (fun line =>
      line.productId.toLower ++ ":" ++ toString line.quantity.value)).insertionSort (· ≤ ·)) ++
    "\x7d"

structure LineCounts where
  unitCount : Int
  quantityLineCount : Int
  totalQuantity : Int

def countLines (items : List (Option Id × Int)) : LineCounts :=
  items.foldl (fun counts item =>
    if item.1.isSome then
      { counts with
        unitCount := counts.unitCount + 1
        totalQuantity := counts.totalQuantity + 1 }
    else
      { counts with
        quantityLineCount := counts.quantityLineCount + 1
        totalQuantity := counts.totalQuantity + item.2 }) ⟨0, 0, 0⟩

def transitions : TransferStatus → List TransferStatus
  | .pendingApproval => [.approved, .rejected, .cancelled]
  | .approved => [.inTransit, .cancelled]
  | .inTransit => [.received]
  | .received | .rejected | .cancelled => []

def reserving (status : TransferStatus) : Bool :=
  status ∈ [.pendingApproval, .approved]

def statusText : TransferStatus → String
  | .pendingApproval => "pending_approval"
  | .approved => "approved"
  | .inTransit => "in_transit"
  | .received => "received"
  | .rejected => "rejected"
  | .cancelled => "cancelled"

def assertTransferTransition (source target : TransferStatus) : Except Refusal Unit :=
  if target ∈ transitions source then .ok ()
  else .error (.conflict ("A transfer that is '" ++ statusText source ++ "' cannot become '" ++
    statusText target ++ "'"))

structure DiscrepancyReport where
  expected : List String
  scanned : List String
  matched : List String
  missing : List String
  unexpected : List String
  duplicate : List String

def DiscrepancyReport.hasDiscrepancy (report : DiscrepancyReport) : Bool :=
  report.missing ≠ [] ∨ report.unexpected ≠ [] ∨ report.duplicate ≠ []

def computeDiscrepancy (expected scannedRaw : List String) : DiscrepancyReport :=
  let scanned := scannedRaw.eraseDups
  { expected
    scanned
    matched := expected.filter (· ∈ scannedRaw)
    missing := expected.filter (· ∉ scannedRaw)
    unexpected := scanned.filter (· ∉ expected)
    duplicate := scanned.filter (fun text => 1 < scannedRaw.count text) }

end ErpBackend.Transfers
