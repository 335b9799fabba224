import ErpBackend.Foundation.Program
import ErpBackend.Foundation.Table
import ErpBackend.Users.Identifiers

/-!
# ContactVerificationService

A code that proves a contact. A wrong one is counted after it was compared; a right one
consumes the row, here or in the transaction of the caller.
-/

namespace ErpBackend.Platform

open Foundation

inductive ContactChannel where
  | email
  | phone
  deriving DecidableEq

structure ContactVerification where
  id : Id
  channel : ContactChannel
  destination : String
  codeHash : String
  expiresAt : Time
  attempts : Nat := 0
  consumedAt : Option Time := none
  createdAt : Time
  deriving DecidableEq

namespace ContactVerification

def consumed (now : Time) (row : ContactVerification) : ContactVerification :=
  { row with consumedAt := some now }

def attempted (row : ContactVerification) : ContactVerification :=
  { row with attempts := row.attempts + 1 }

theorem consumed_id (now : Time) (row : ContactVerification) : (row.consumed now).id = row.id := rfl

theorem attempted_id (row : ContactVerification) : row.attempted.id = row.id := rfl

end ContactVerification

/-- The last two are what happened, for statements only: the challenge of each comparison made
while it was not consumed, and of each of these that is still to be counted. -/
structure ContactStore where
  contactVerifications : Table ContactVerification ContactVerification.id
  compared : List Id := []
  comparing : List Id := []

inductive ContactMark where
  | other
  | finish
  | insert
  | compare (row : ContactVerification)
  | count (challengeId : Id)
  | consume (challengeId : Id)
  deriving DecidableEq

abbrev ContactRequest (α : Type) := Prog ContactStore ContactMark Refusal α

def ttlMinutes : Nat := 10

def maxAttempts : Nat := 6

def maxSendsPerHour : Nat := 5

structure Text where
  casing : Users.Casing
  sha256 : String → String

structure Classified where
  channel : ContactChannel
  destination : String
  deriving DecidableEq

section Service

variable (text : Text) (now : Time)

def hash (destination code : String) : String := text.sha256 (destination ++ ":" ++ code)

def classify (raw : String) : Except Refusal Classified :=
  let trimmed := trim raw
  if trimmed.toList.contains '@' then
    if Users.isEmail trimmed then
      .ok ⟨.email, Users.normaliseEmail text.casing.lowerCase trimmed⟩
    else .error (.badRequest "That does not look like an email address.")
  else match Users.normalisePhone trimmed with
    | some phone => .ok ⟨.phone, phone⟩
    | none => .error (.badRequest "That does not look like a WhatsApp number.")

inductive Delivery where
  | sent
  | outbox
  deriving DecidableEq

/-- What a start draws and is told: the key of the row, the code, the fate of the message. -/
structure Start where
  id : Id
  code : String
  delivery : Except Refusal Delivery

def insertTx (row : ContactVerification) (s : ContactStore) : Except Refusal ContactStore :=
  match s.contactVerifications.insert? row with
  | none => .error (.unique "PRIMARY")
  | some contactVerifications => .ok { s with contactVerifications }

/-- A new code; what was outstanding for the destination dies first. -/
def start (rawDestination : String) (draw : Start) : ContactRequest Delivery := do
  let contact ← .liftExcept (classify text rawDestination)
  let recent ← .read .other (fun s => (s.contactVerifications.filter (fun row =>
    row.destination = contact.destination ∧ now - 60 * 60 * 1000 < row.createdAt)).length)
  .require (recent < maxSendsPerHour)
    (.badRequest "Too many codes requested. Try again in a little while.")
  .execute .finish (fun s => { s with
    contactVerifications := s.contactVerifications.modify
      (fun row => row.destination = contact.destination ∧ row.consumedAt = none)
      (ContactVerification.consumed now) (ContactVerification.consumed_id now) })
  .commit .insert (insertTx
    { id := draw.id
      channel := contact.channel
      destination := contact.destination
      codeHash := hash text contact.destination draw.code
      expiresAt := now + ttlMinutes * 60 * 1000
      createdAt := now })
  .liftExcept draw.delivery

/-- The newest code of the destination that is neither consumed nor overdue. -/
def latestLive (destination : String) (s : ContactStore) : Option ContactVerification :=
  (s.contactVerifications.filter (fun row => row.destination = destination ∧
    row.consumedAt = none ∧ now < row.expiresAt)).getLast?

def unconsumed (s : ContactStore) (challengeId : Id) : Bool :=
  (s.contactVerifications.find? challengeId).any (fun row => row.consumedAt = none)

/-- The code meets the stored hash: nothing is written, but it happened. -/
def compare (row : ContactVerification) : ContactRequest Unit :=
  .execute (.compare row) (fun s =>
    if unconsumed s row.id then
      { s with compared := row.id :: s.compared, comparing := row.id :: s.comparing }
    else s)

def countTx (challengeId : Id) (s : ContactStore) : Except Refusal ContactStore :=
  match s.contactVerifications.find? challengeId with
  | none => .error (.internal "An operation failed because it depends on one or more records")
  | some _ => .ok { s with
      contactVerifications := s.contactVerifications.update challengeId
        ContactVerification.attempted ContactVerification.attempted_id
      comparing := s.comparing.erase challengeId }

def consumeTx (challengeId : Id) (s : ContactStore) : Except Refusal ContactStore :=
  match s.contactVerifications.find? challengeId with
  | none => .error (.internal "An operation failed because it depends on one or more records")
  | some _ => .ok { s with
      contactVerifications := s.contactVerifications.update challengeId
        (ContactVerification.consumed now) (ContactVerification.consumed_id now)
      comparing := s.comparing.erase challengeId }

def confirm (rawDestination code : String) : ContactRequest Bool := do
  let contact ← .liftExcept (classify text rawDestination)
  let found ← .read .other (latestLive now contact.destination)
  match found with
  | none => pure false
  | some row =>
      if maxAttempts ≤ row.attempts then pure false
      else do
        compare row
        if row.codeHash = hash text contact.destination (trim code) then do
          .commit (.consume row.id) (consumeTx now row.id)
          pure true
        else do
          .commit (.count row.id) (countTx row.id)
          pure false

def latestChallengeFor (rawDestination : String) : ContactRequest (Option Id) := do
  let contact ← .liftExcept (classify text rawDestination)
  let found ← .read .other (latestLive now contact.destination)
  pure (found.map ContactVerification.id)

inductive Confirmed where
  | ok
  | wrong
  | gone
  deriving DecidableEq

def confirmChallenge (challengeId : Id) (code : String) : ContactRequest Confirmed := do
  let found ← .read .other (fun s => s.contactVerifications.find? challengeId)
  match found with
  | none => pure .gone
  | some row =>
      if row.consumedAt.isSome ∨ row.expiresAt ≤ now ∨ maxAttempts ≤ row.attempts then pure .gone
      else do
        compare row
        if row.codeHash = hash text row.destination (trim code) then pure .ok
        else do
          .commit (.count row.id) (countTx row.id)
          pure .wrong

/-- What the caller of `confirmChallenge` does of it: `updateMany` where not yet consumed. -/
def spendTx (challengeId : Id) (s : ContactStore) : ContactStore × Nat :=
  let open' := fun (row : ContactVerification) => row.id = challengeId ∧ row.consumedAt = none
  ({ s with
      contactVerifications := s.contactVerifications.modify (fun row => open' row)
        (ContactVerification.consumed now) (ContactVerification.consumed_id now) },
    (s.contactVerifications.filter (fun row => open' row)).length)

def spend (challengeId : Id) : ContactRequest Nat :=
  .transact .finish (fun s => .ok (spendTx now challengeId s))

end Service

end ErpBackend.Platform
