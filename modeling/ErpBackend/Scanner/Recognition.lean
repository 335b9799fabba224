import ErpBackend.Common
import ErpBackend.Foundation.Program
import ErpBackend.Foundation.Table

/-!
# RecognitionService

What a company remembers of a code: which of its products it stands for, and
how often that was seen. Beside it the outbox of learning events, and the clock
its leases are read from.
-/

namespace ErpBackend.Scanner

open Foundation

inductive CodeType where
  | tac
  | barcode
  | serialPrefix
  deriving DecidableEq

inductive RecognitionStatus where
  | proposed
  | confirmed
  | superseded
  deriving DecidableEq

/-- A row of `product_recognition`, with the defaults of its columns. -/
structure ProductRecognition where
  id : Id
  companyId : Id
  codeType : CodeType
  code : String
  productId : Id
  timesSeen : Nat := 1
  confirmations : Nat := 0
  corrections : Nat := 0
  lastSeenAt : Option Time := none
  lastConfirmedAt : Option Time := none
  lastCorrectedAt : Option Time := none
  sourceStats : List (String × Nat) := []
  status : RecognitionStatus := .confirmed
  proposedById : Option Id := none
  confirmedById : Option Id := none
  confirmedAt : Option Time := none
  evidenceSource : Option String := none
  version : Int := 0
  deriving DecidableEq

inductive OutboxStatus where
  | pending
  | processing
  | done
  | failed
  deriving DecidableEq

/-- A row of `recognition_outbox`. -/
structure OutboxEvent where
  id : Id
  companyId : Id
  purchaseId : Option Id
  codeType : CodeType
  code : String
  productId : Id
  supplierId : Option Id
  source : String
  status : OutboxStatus := .pending
  attempts : Nat := 0
  lastError : Option String := none
  processedAt : Option Time := none
  claimedUntil : Option Time := none
  nextAttemptAt : Time
  deriving DecidableEq

structure CatalogProduct where
  id : Id
  companyId : Id
  deletedAt : Option Time
  deriving DecidableEq

structure Memory where
  clock : Time
  products : Table CatalogProduct CatalogProduct.id := .empty
  recognitions : Table ProductRecognition ProductRecognition.id := .empty
  outbox : Table OutboxEvent OutboxEvent.id := .empty
  deriving DecidableEq

/-- What a statement is about to do; `holder` tells whether it is on the path of a user
who holds `catalog.manage`. -/
inductive Mark where
  | other
  | claim (eventId : Id) (now : Time)
  | complete (event : OutboxEvent) (claimedUntil : Time)
  | requeue (event : OutboxEvent) (claimedUntil : Time)
  | look (companyId : Id) (tac : String)
  | replace (id : Id) (version : Nat) (holder : Bool)
  | record (holder : Bool)
  deriving DecidableEq

abbrev Request (α : Type) := Prog Memory Mark Refusal α

/-- `/^\d{8}$/`. -/
def isValidTac (tac : String) : Bool := tac.toList.length = 8 ∧ tac.toList.all Char.isDigit

/-- What the unique key `ux_prodrec_active` is on: nothing, unless confirmed. -/
def activeKey (row : ProductRecognition) : Option (Id × CodeType × String) :=
  if row.status = .confirmed then some (row.companyId, row.codeType, row.code) else none

/-- The `CHECK`s. -/
def checkRecognition (row : ProductRecognition) : Except Refusal Unit :=
  if row.codeType = .tac ∧ isValidTac row.code = false then
    .error (.constraint "ck_prodrec_tac_format")
  else if row.status = .confirmed ∧ row.confirmedAt = none then
    .error (.constraint "ck_prodrec_confirmed_fields")
  else .ok ()

def activeTaken (row : ProductRecognition) (rows : List ProductRecognition) : Bool :=
  (activeKey row).isSome ∧ rows.any (fun other => other.id ≠ row.id ∧
    activeKey other = activeKey row)

def insertRecognition (row : ProductRecognition) (m : Memory) : Except Refusal Memory := do
  checkRecognition row
  if activeTaken row m.recognitions.rows then .error (.unique "ux_prodrec_active")
  else match m.recognitions.insert? row with
    | none => .error (.unique "PRIMARY")
    | some recognitions => .ok { m with recognitions }

def updateRecognition (id : Id) (f : ProductRecognition → ProductRecognition)
    (keep : ∀ row, (f row).id = row.id) (m : Memory) : Except Refusal Memory :=
  match m.recognitions.find? id with
  | none => .error (.internal "An operation failed because it depends on one or more records")
  | some row => do
      checkRecognition (f row)
      if activeTaken (f row) m.recognitions.rows then .error (.unique "ux_prodrec_active")
      else .ok { m with recognitions := m.recognitions.update id f keep }

structure Constrained (m : Memory) : Prop where
  active : ∀ a ∈ m.recognitions.rows, ∀ b ∈ m.recognitions.rows,
    (activeKey a).isSome = true → activeKey a = activeKey b → a.id = b.id
  checked : ∀ row ∈ m.recognitions.rows, checkRecognition row = .ok ()

structure LearningEvent where
  codeType : CodeType
  code : String
  productId : Id
  source : String

def bumpSource (stats : List (String × Nat)) (source : String) : List (String × Nat) :=
  if stats.any (fun entry => entry.1 = source) then
    stats.map (fun entry => if entry.1 = source then (entry.1, entry.2 + 1) else entry)
  else stats ++ [(source, 1)]

def learned (id companyId : Id) (now : Time) (ev : LearningEvent) : ProductRecognition where
  id := id
  companyId := companyId
  codeType := ev.codeType
  code := ev.code
  productId := ev.productId
  timesSeen := 1
  confirmations := 1
  corrections := 0
  lastSeenAt := some now
  lastConfirmedAt := some now
  sourceStats := bumpSource [] ev.source

def reinforced (now : Time) (ev : LearningEvent) (stats : List (String × Nat))
    (row : ProductRecognition) : ProductRecognition :=
  { row with
    timesSeen := row.timesSeen + 1
    confirmations := row.confirmations + 1
    lastSeenAt := some now
    lastConfirmedAt := some now
    sourceStats := bumpSource stats ev.source }

def corrected (now : Time) (ev : LearningEvent) (stats : List (String × Nat))
    (row : ProductRecognition) : ProductRecognition :=
  { row with
    productId := ev.productId
    timesSeen := row.timesSeen + 1
    confirmations := 1
    corrections := row.corrections + 1
    lastSeenAt := some now
    lastConfirmedAt := some now
    lastCorrectedAt := some now
    sourceStats := bumpSource stats ev.source }

theorem reinforced_id (now : Time) (ev : LearningEvent) (stats : List (String × Nat))
    (row : ProductRecognition) : (reinforced now ev stats row).id = row.id := rfl

theorem corrected_id (now : Time) (ev : LearningEvent) (stats : List (String × Nat))
    (row : ProductRecognition) : (corrected now ev stats row).id = row.id := rfl

def mappingsForCode (m : Memory) (companyId : Id) (codeType : CodeType) (code : String) :
    List ProductRecognition :=
  m.recognitions.filter (fun row =>
    row.codeType = codeType ∧ row.code = code ∧ row.companyId = companyId)

/-- `findFirst` has no order: `pick` is the row it ends at. -/
def learn (pick : Lookup ProductRecognition) (newId companyId : Id) (ev : LearningEvent)
    (m : Memory) : Except Refusal Memory :=
  match pick.pick (mappingsForCode m companyId ev.codeType ev.code) with
  | none => insertRecognition (learned newId companyId m.clock ev) m
  | some existing =>
      if existing.productId = ev.productId then
        updateRecognition existing.id (reinforced m.clock ev existing.sourceStats)
          (reinforced_id m.clock ev existing.sourceStats) m
      else
        updateRecognition existing.id (corrected m.clock ev existing.sourceStats)
          (corrected_id m.clock ev existing.sourceStats) m

end ErpBackend.Scanner
