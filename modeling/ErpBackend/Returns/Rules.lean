import ErpBackend.Sales.Rules

/-!
# Return rules

`return-workflow.ts`, `refund-payout.ts` and the eligibility of
`return-policy.ts`. Amounts are whole cents, so rounding never decides.
-/

namespace ErpBackend.Returns

structure Eligibility where
  eligibleByPolicy : Bool
  deadlineAt : Option Time
  remainingMs : Option Nat
  reason : EligibilityReason
  requiresOwnerException : Bool

def evaluateEligibility (windowHours : Int) (deadlineAt : Option Time) (now : Time)
    (isReversed hasReturn quantityOnly : Bool) : Eligibility :=
  if isReversed then ⟨false, deadlineAt, none, .saleReversed, false⟩
  else if hasReturn then ⟨false, deadlineAt, none, .alreadyReturned, false⟩
  else if windowHours = Sales.noReturns then ⟨false, deadlineAt, none, .noReturnPolicy, true⟩
  else match deadlineAt with
    | none => ⟨false, none, none, .noReturnPolicy, true⟩
    | some deadline =>
        if quantityOnly then ⟨false, deadlineAt, none, .quantityNotSupported, false⟩
        else if deadline ≤ now then ⟨false, deadlineAt, some 0, .windowExpired, true⟩
        else ⟨true, deadlineAt, some (deadline - now), .withinWindow, false⟩

def grossRefundOf (line : SaleItem) : Int := line.price * line.quantity - line.discount

/-- `quantity` and `unitAmount` passed the DTO; the label is checked again. -/
def priceAdjustment (label : String) (quantity : Count) (unitAmount : Money) :
    Except Refusal Int :=
  if blank (some label) then .error (.badRequest "Say what the charge is for")
  else .ok (unitAmount.cents * quantity.value)

structure SettledRefund where
  adjustmentTotal : Int
  netRefundDue : Int

def settleRefund (grossRefund : Int) (adjustments : List Int) : Except Refusal SettledRefund :=
  if grossRefund < adjustments.sum then
    .error (.badRequest ("Adjustments cannot exceed the refund for the phone. " ++
      "Reduce a charge, or reject the return instead."))
  else .ok ⟨adjustments.sum, grossRefund - adjustments.sum⟩

def transitions : ReturnStatus → List ReturnStatus
  | .pendingInvestigation => [.underReview, .approvedRefundDue, .rejected]
  | .underReview => [.approvedRefundDue, .rejected]
  | .approvedRefundDue | .rejected => []

def statusText : ReturnStatus → String
  | .pendingInvestigation => "pending_investigation"
  | .underReview => "under_review"
  | .approvedRefundDue => "approved_refund_due"
  | .rejected => "rejected"

def pending (status : ReturnStatus) : Bool :=
  status = .pendingInvestigation ∨ status = .underReview

def assertTransition (source target : ReturnStatus) : Except Refusal Unit :=
  if target ∈ transitions source then .ok ()
  else if source = .approvedRefundDue ∨ source = .rejected then
    .error (.coded "already_decided" (.conflict ("This return was already " ++
      (if source = .rejected then "rejected" else "approved") ++ ".")))
  else .error (.coded "illegal_transition" (.conflict ("A return that is '" ++
    statusText source ++ "' cannot become '" ++ statusText target ++ "'.")))

def assertEditable (status : ReturnStatus) : Except Refusal Unit :=
  if status = .approvedRefundDue ∨ status = .rejected then
    .error (.coded "already_decided"
      (.conflict "This return has been decided and can no longer be changed."))
  else .ok ()

theorem assertEditable_ok (status : ReturnStatus) (editable : assertEditable status = .ok ()) :
    pending status = true := by
  revert editable
  cases status
  · exact fun _ => rfl
  · exact fun _ => rfl
  · intro refused
    cases refused
  · intro refused
    cases refused

theorem assertEditable_of (status : ReturnStatus) (open' : pending status = true) :
    assertEditable status = .ok () := by
  revert open'
  cases status <;> decide

theorem assertTransition_of (status target : ReturnStatus) (open' : pending status = true)
    (decision : target = .approvedRefundDue ∨ target = .rejected) :
    assertTransition status target = .ok () := by
  revert open' decision
  cases status <;> cases target <;> decide

def custodyText : ReturnCustody → String
  | .customerHolds => "customer_holds"
  | .storeHolds => "store_holds"
  | .handedBack => "handed_back"
  | .retainedHold => "retained_hold"

def custodyIntakeNeeded (current : ReturnCustody) : Except Refusal Bool :=
  match current with
  | .storeHolds => .ok false
  | .customerHolds => .ok true
  | .handedBack | .retainedHold => .error (.coded "custody_settled" (.conflict
      "This phone has already been handed back or retained, so it cannot be received again."))

/-- Answers whether the approval is an exception to what the sale promised. -/
def assertMayApprove (requiresException : Bool) (responsibility : ReturnResponsibility)
    (has : Permission → Bool) (exceptionReason : Option String) : Except Refusal Bool :=
  let isException := requiresException || responsibility = .customerDamage
  if !has .returnApprove then .error (.forbidden "You cannot approve returns")
  else if responsibility = .pendingInvestigation then
    .error (.badRequest "Decide who is responsible before approving this return")
  else if isException then
    if !has .returnException then
      .error (.forbidden ("Only the owner can approve this return: it is outside the policy " ++
        "the sale was sold under, or the damage was the customer’s."))
    else if blank exceptionReason then
      .error (.badRequest "Say why this exception is being granted")
    else .ok true
  else .ok false

def isProvisionalMoney (status : ReturnStatus) : Bool := status ≠ .approvedRefundDue

-- The texts whose SHA-256 is stored. An id stands for its lower-case text.

def fingerprintRequest (saleItemId : Id) (identifier requestReason : String)
    (conditionNotes : Option String) (custody : ReturnCustody) : String :=
  String.intercalate " " [toString saleItemId, identifier.toLower, trim requestReason,
    trim (conditionNotes.getD ""), custodyText custody]

def fingerprintPayout (returnRequestId : Id) (method : Method) (receivingAccountId : Option Id)
    (reportedAmount : Int) (transactionReference note : Option String) : String :=
  String.intercalate " " [toString returnRequestId, method.text,
    (receivingAccountId.map toString).getD "", toString reportedAmount,
    trim (transactionReference.getD ""), trim (note.getD "")]

def assertMethodAndAccount (method : Method) (receivingAccountId : Option Id) :
    Except Refusal Unit :=
  if method = .cash ∧ receivingAccountId ≠ none then
    .error (.badRequest "A cash refund has no account. Choose an account, or leave it out.")
  else if method = .account ∧ receivingAccountId = none then
    .error (.badRequest "Choose which account the money went out of")
  else .ok ()

def assertAmountMatchesDue (reported netAmountDue : Int) : Except Refusal Unit :=
  if reported ≠ netAmountDue then
    .error (.badRequest ("The refund must be exactly " ++ renderFixed netAmountDue ++
      ". Partial refunds are not supported."))
  else .ok ()

def assertCorrectable (status : RefundPayoutStatus) : Except Refusal Unit :=
  if status = .confirmed then
    .error (.coded "already_confirmed"
      (.conflict "This refund has been confirmed and can no longer be changed."))
  else .ok ()

def assertReportable (status : ReturnStatus) (hasReversal : Bool) : Except Refusal Unit :=
  if status ≠ .approvedRefundDue then
    .error (.coded "not_awaiting_refund" (.conflict (if status = .rejected then
      "This return was rejected, so no refund is owed."
      else "This return has not been approved yet, so no refund is owed.")))
  else if !hasReversal then
    .error (.coded "missing_reversal" (.conflict "This return has no approved refund record."))
  else .ok ()

def assertWorthSettling (netAmountDue : Int) : Except Refusal Unit :=
  if netAmountDue = 0 then
    .error (.coded "nothing_to_refund" (.badRequest ("The withheld charges cover the whole " ++
      "refund, so nothing is owed. There is no payment to record.")))
  else .ok ()

end ErpBackend.Returns
