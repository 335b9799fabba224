import ErpBackend.Scanner.Recognition

/-!
# RecognitionOutboxService

Draining the outbox. A claim is a lease with a deadline; learning and
completion are one transaction, the failure path is a statement of its own.
Neither of the two asks whether the lease is still held.
-/

namespace ErpBackend.Scanner

open Foundation

def leaseMs : Nat := 60000
def batchSize : Nat := 50
def maxAttempts : Nat := 8
def backoffBaseMs : Nat := 5000
def backoffCapMs : Nat := 30 * 60000

def backoffMs (attempts : Nat) : Nat := min (backoffBaseMs * 2 ^ (attempts - 1)) backoffCapMs

/-- Whether a worker that reads `now` may take the row. -/
def due (now : Time) (event : OutboxEvent) : Bool :=
  event.status = .pending ∧ event.nextAttemptAt ≤ now ∨
    event.status = .processing ∧ event.claimedUntil.any (· < now)

def claimed (now : Time) (event : OutboxEvent) : OutboxEvent :=
  { event with
    status := .processing
    claimedUntil := some (now + leaseMs)
    attempts := event.attempts + 1 }

def completed (now : Time) (event : OutboxEvent) : OutboxEvent :=
  { event with
    status := .done
    processedAt := some now
    claimedUntil := none
    lastError := none }

def requeued (now : Time) (attempts : Nat) (refusal : Refusal) (event : OutboxEvent) :
    OutboxEvent :=
  { event with
    status := if maxAttempts ≤ attempts then .failed else .pending
    claimedUntil := none
    lastError := some (String.ofList (refusal.message.toList.take 500))
    nextAttemptAt := if maxAttempts ≤ attempts then now else now + backoffMs attempts }

theorem claimed_id (now : Time) (event : OutboxEvent) : (claimed now event).id = event.id := rfl

theorem completed_id (now : Time) (event : OutboxEvent) : (completed now event).id = event.id :=
  rfl

theorem requeued_id (now : Time) (attempts : Nat) (refusal : Refusal) (event : OutboxEvent) :
    (requeued now attempts refusal event).id = event.id := rfl

/-- `updateMany`, and whether a row matched. -/
def claimRow (eventId : Id) (now : Time) (m : Memory) : Except Refusal (Memory × Bool) :=
  match m.outbox.swap? eventId (due now) (claimed now) (claimed_id now) with
  | none => .ok (m, false)
  | some outbox => .ok ({ m with outbox }, true)

def updateEvent (eventId : Id) (f : OutboxEvent → OutboxEvent) (keep : ∀ row, (f row).id = row.id)
    (m : Memory) : Except Refusal Memory :=
  match m.outbox.find? eventId with
  | none => .error (.internal "An operation failed because it depends on one or more records")
  | some _ => .ok { m with outbox := m.outbox.update eventId f keep }

def OutboxEvent.learning (event : OutboxEvent) : LearningEvent where
  codeType := event.codeType
  code := event.code
  productId := event.productId
  source := event.source

def learnAndComplete (pick : Lookup ProductRecognition) (newId : Id) (row : OutboxEvent)
    (m : Memory) : Except Refusal (Memory × Unit) := do
  let taught ← learn pick newId row.companyId row.learning m
  let finished ← updateEvent row.id (completed m.clock) (completed_id m.clock) taught
  .ok (finished, ())

inductive Outcome where
  | done
  | failed
  | skipped
  deriving DecidableEq

/-- `row` is as the sweep read it. -/
def processRow (pick : Lookup ProductRecognition) (newId : Id) (row : OutboxEvent) :
    Request Outcome := do
  let now ← .read .other Memory.clock
  let taken ← .transact (.claim row.id now) (claimRow row.id now)
  if !taken then pure .skipped
  else
    let attempts := row.attempts + 1
    let deadline := now + leaseMs
    let outcome ← .attempt (.complete row deadline) (learnAndComplete pick newId row)
    match outcome with
    | .ok () => pure .done
    | .error refusal =>
        .commit (.requeue row deadline) (fun m =>
          updateEvent row.id (requeued m.clock attempts refusal)
            (requeued_id m.clock attempts refusal) m)
        pure (if maxAttempts ≤ attempts then .failed else .skipped)

def sweepDue (m : Memory) : List OutboxEvent :=
  ((m.outbox.filter (due m.clock)).insertionSort
    (fun a b => a.nextAttemptAt ≤ b.nextAttemptAt)).take batchSize

/-- `processed` and `failed`, with one row more. -/
def counted : Outcome → Nat × Nat → Nat × Nat
  | .done, (processed, failed) => (processed + 1, failed)
  | .failed, (processed, failed) => (processed, failed + 1)
  | .skipped, (processed, failed) => (processed, failed)

/-- Rows one after another; `ids` are the keys new mappings would get. -/
def processRows (pick : Lookup ProductRecognition) (ids : Nat → Id) :
    List OutboxEvent → Request (Nat × Nat)
  | [] => pure (0, 0)
  | row :: rest => do
      let outcome ← processRow pick (ids rest.length) row
      let others ← processRows pick ids rest
      pure (counted outcome others)

def sweep (pick : Lookup ProductRecognition) (ids : Nat → Id) : Request (Nat × Nat) := do
  let rows ← .read .other sweepDue
  processRows pick ids rows

structure LearningIntent where
  companyId : Id
  purchaseId : Option Id
  codeType : CodeType
  code : String
  productId : Id
  supplierId : Option Id
  source : String

def queued (id : Id) (now : Time) (intent : LearningIntent) : OutboxEvent where
  id := id
  companyId := intent.companyId
  purchaseId := intent.purchaseId
  codeType := intent.codeType
  code := intent.code
  productId := intent.productId
  supplierId := intent.supplierId
  source := intent.source
  nextAttemptAt := now

/-- The unique key on company, purchase and code, where no purchase equals no other. -/
def alreadyQueued (m : Memory) (intent : LearningIntent) : Bool :=
  intent.purchaseId.isSome ∧ m.outbox.any (fun event => event.companyId = intent.companyId ∧
    event.purchaseId = intent.purchaseId ∧ event.codeType = intent.codeType ∧
    event.code = intent.code)

/-- `createMany` that skips duplicates. -/
def enqueueTx : List (Id × LearningIntent) → Memory → Memory
  | [], m => m
  | (id, intent) :: rest, m =>
      if alreadyQueued m intent then enqueueTx rest m
      else match m.outbox.insert? (queued id m.clock intent) with
        | none => enqueueTx rest m
        | some outbox => enqueueTx rest { m with outbox }

def enqueue (intents : List (Id × LearningIntent)) : Request Unit :=
  .execute .other (enqueueTx intents)

def wait (ms : Nat) : Request Unit :=
  .execute .other (fun m => { m with clock := m.clock + ms })

end ErpBackend.Scanner
