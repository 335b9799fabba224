import ErpBackend.Settlement

/-!
# Loan rules

`loan-rules.ts`: the negotiation table, the ledger's balance and the guards on
payments and write-offs. Amounts are cents, so `round2` is the identity.
-/

namespace ErpBackend.Loans

inductive Direction where
  | theyOweUs
  | weOweThem
  deriving DecidableEq, Repr

inductive LoanStatus where
  | proposed
  | counterProposed
  | disputed
  | accepted
  | partiallyPaid
  | paymentAwaitingConfirmation
  | settled
  | forgivenSettled
  | cancelled
  deriving DecidableEq, Repr

inductive StatusGroup where
  | pending
  | accepted
  | confirmed
  deriving DecidableEq, Repr

def groupOf : LoanStatus → StatusGroup
  | .proposed | .counterProposed | .disputed => .pending
  | .accepted | .partiallyPaid | .paymentAwaitingConfirmation => .accepted
  | .settled | .forgivenSettled | .cancelled => .confirmed

def invert : Direction → Direction
  | .theyOweUs => .weOweThem
  | .weOweThem => .theyOweUs

def directionFor (companyId : Id) (direction : Direction) (viewerCompanyId : Id) : Direction :=
  if companyId = viewerCompanyId then direction else invert direction

inductive LedgerKind where
  | principalAccepted
  | paymentReported
  | paymentConfirmed
  | paymentCorrected
  | forgiven
  | settled
  deriving DecidableEq, Repr

def balanceEffect : LedgerKind → Int
  | .principalAccepted => 1
  | .paymentReported => 0
  | .paymentConfirmed => -1
  | .paymentCorrected => 1
  | .forgiven => -1
  | .settled => 0

structure LedgerRow where
  kind : LedgerKind
  amount : Int
  id : Id
  refersToId : Option Id
  deriving DecidableEq, Repr

def LedgerRow.effect (row : LedgerRow) : Int := balanceEffect row.kind * row.amount

def remaining (rows : List LedgerRow) : Int := (rows.map LedgerRow.effect).sum

def answered (rows : List LedgerRow) (id : Id) : Bool :=
  rows.any (fun row => row.kind = .paymentConfirmed ∧ row.refersToId = some id)

def unansweredReports (rows : List LedgerRow) : Int :=
  ((rows.filter (fun row => row.kind = .paymentReported ∧ answered rows row.id = false)).map
    LedgerRow.amount).sum

def totalOf (rows : List LedgerRow) (kind : LedgerKind) : Int :=
  ((rows.filter (fun row => row.kind = kind)).map LedgerRow.amount).sum

structure Breakdown where
  principal : Int
  confirmedPaid : Int
  corrected : Int
  forgiven : Int
  awaitingConfirmation : Int
  remaining : Int
  deriving DecidableEq, Repr

def breakdown (rows : List LedgerRow) : Breakdown where
  principal := totalOf rows .principalAccepted
  confirmedPaid := totalOf rows .paymentConfirmed
  corrected := totalOf rows .paymentCorrected
  forgiven := totalOf rows .forgiven
  awaitingConfirmation := unansweredReports rows
  remaining := remaining rows

inductive Action where
  | accept
  | counter
  | dispute
  | reject
  | cancel
  deriving DecidableEq, Repr

structure Rule where
  source : List LoanStatus
  target : LoanStatus

def transitions : Action → Rule
  | .accept => ⟨[.proposed, .counterProposed, .disputed], .accepted⟩
  | .counter => ⟨[.proposed, .counterProposed, .disputed], .counterProposed⟩
  | .dispute => ⟨[.proposed, .counterProposed], .disputed⟩
  | .reject => ⟨[.proposed, .counterProposed, .disputed], .cancelled⟩
  | .cancel => ⟨[.proposed, .counterProposed, .disputed], .cancelled⟩

def readable : LoanStatus → String
  | .proposed => "waiting for an answer"
  | .counterProposed => "waiting on a counter-offer"
  | .disputed => "disputed"
  | .accepted => "agreed and outstanding"
  | .partiallyPaid => "part paid"
  | .paymentAwaitingConfirmation => "waiting for a payment to be confirmed"
  | .settled => "paid off"
  | .forgivenSettled => "written off"
  | .cancelled => "cancelled"

structure DecideInput where
  action : Action
  status : LoanStatus
  isOwnOffer : Bool
  amount : Option Amount
  reason : Option String

def assertDecision (input : DecideInput) : Except String LoanStatus :=
  let rule := transitions input.action
  if input.status ∉ rule.source then
    .error ("That cannot be done while the loan is " ++ readable input.status)
  else if (input.action = .accept ∨ input.action = .counter) ∧ input.isOwnOffer then
    .error "You are waiting on the other side to answer your offer"
  else if input.action = .counter ∧ input.amount = none then
    .error "A counter-offer needs an amount"
  else if input.action = .dispute ∧ blank input.reason then
    .error "Say what you disagree with"
  else .ok rule.target

theorem assertDecision_ok (input : DecideInput) (next : LoanStatus)
    (accepted : assertDecision input = .ok next) :
    input.status ∈ (transitions input.action).source ∧
      next = (transitions input.action).target ∧
      (input.action = .accept ∨ input.action = .counter → input.isOwnOffer = false) ∧
      (input.action = .counter → input.amount ≠ none) := by
  simp only [assertDecision] at accepted
  split_ifs at accepted with source own offer _
  cases accepted
  refine ⟨by simpa using source, rfl, ?_, ?_⟩
  · intro answering
    simpa [answering] using own
  · intro counter missing
    exact offer ⟨counter, missing⟩

theorem transitions_source_pending (action : Action) (status : LoanStatus)
    (member : status ∈ (transitions action).source) : groupOf status = .pending := by
  cases action <;> simp [transitions] at member <;>
    rcases member with rfl | rfl | rfl <;> rfl

def assertPaymentAllowed := Settlement.assertPaymentAllowed

def assertForgivenessAllowed := Settlement.assertForgivenessAllowed

/-- The text whose SHA-256 digest is stored. The digest is only ever compared
for equality, so the model stores the text. -/
def fingerprintPayment (loanId : Id) (amount : Int) (method : Method)
    (receivingAccountId : Option Id) (reference evidenceRef : Option String) : String :=
  String.intercalate "|"
    [toString loanId, renderFixed amount, method.text,
      (receivingAccountId.map toString).getD "",
      trim (reference.getD ""), trim (evidenceRef.getD "")]

end ErpBackend.Loans
