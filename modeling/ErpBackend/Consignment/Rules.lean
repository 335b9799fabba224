import ErpBackend.Settlement

/-!
# Consignment rules

`consignment-lifecycle.ts`, `consignment-scope.ts` and `consignment-money.ts`.
-/

namespace ErpBackend.Consignments

inductive Side where
  | source
  | destination
  deriving DecidableEq, Repr

inductive ConsignmentStatus where
  | draft
  | requested
  | counterProposed
  | disputed
  | acceptedAwaitingCustody
  | custodyAwaitingConfirmation
  | inCustody
  | soldAwaitingSettlement
  | partiallyPaid
  | returnInitiated
  | returnInTransit
  | settled
  | returnedAccepted
  | forgivenSettled
  | cancelled
  deriving DecidableEq, Repr

inductive StatusGroup where
  | pending
  | accepted
  | confirmed
  deriving DecidableEq, Repr

def groupOf : ConsignmentStatus → StatusGroup
  | .draft | .requested | .counterProposed | .disputed | .acceptedAwaitingCustody
  | .custodyAwaitingConfirmation => .pending
  | .inCustody | .soldAwaitingSettlement | .partiallyPaid | .returnInitiated
  | .returnInTransit => .accepted
  | .settled | .returnedAccepted | .forgivenSettled | .cancelled => .confirmed

inductive Action where
  | submit
  | accept
  | counter
  | dispute
  | reject
  | cancel
  | sendCustody
  | confirmCustody
  | reportSold
  | recordPayment
  | settle
  | initiateReturn
  | shipReturn
  | confirmReturn
  | forgive
  deriving DecidableEq, Repr

/-- `acts = none` stands for `either`. -/
structure Rule where
  source : List ConsignmentStatus
  target : ConsignmentStatus
  acts : Option Side

def transitions : Action → Rule
  | .submit => ⟨[.draft], .requested, some .source⟩
  | .accept =>
      ⟨[.requested, .counterProposed, .disputed], .acceptedAwaitingCustody, none⟩
  | .counter => ⟨[.requested, .counterProposed, .disputed], .counterProposed, none⟩
  | .dispute => ⟨[.requested, .counterProposed], .disputed, none⟩
  | .reject => ⟨[.requested, .counterProposed, .disputed], .cancelled, some .destination⟩
  | .cancel =>
      ⟨[.draft, .requested, .counterProposed, .disputed, .acceptedAwaitingCustody],
        .cancelled, some .source⟩
  | .sendCustody =>
      ⟨[.acceptedAwaitingCustody], .custodyAwaitingConfirmation, some .source⟩
  | .confirmCustody => ⟨[.custodyAwaitingConfirmation], .inCustody, some .destination⟩
  | .reportSold => ⟨[.inCustody], .soldAwaitingSettlement, some .destination⟩
  | .recordPayment => ⟨[.soldAwaitingSettlement, .partiallyPaid], .partiallyPaid, none⟩
  | .settle => ⟨[.soldAwaitingSettlement, .partiallyPaid], .settled, none⟩
  | .initiateReturn => ⟨[.inCustody], .returnInitiated, some .destination⟩
  | .shipReturn => ⟨[.returnInitiated], .returnInTransit, some .destination⟩
  | .confirmReturn => ⟨[.returnInTransit, .returnInitiated], .returnedAccepted, some .source⟩
  | .forgive => ⟨[.soldAwaitingSettlement, .partiallyPaid], .forgivenSettled, some .source⟩

def readable : ConsignmentStatus → String
  | .draft => "still a draft"
  | .requested => "waiting for an answer"
  | .counterProposed => "waiting on a counter-offer"
  | .disputed => "disputed"
  | .acceptedAwaitingCustody => "agreed but not yet handed over"
  | .custodyAwaitingConfirmation => "on its way"
  | .inCustody => "held by the other store"
  | .soldAwaitingSettlement => "sold and awaiting payment"
  | .partiallyPaid => "part paid"
  | .returnInitiated => "being returned"
  | .returnInTransit => "on its way back"
  | .settled => "settled"
  | .returnedAccepted => "returned"
  | .forgivenSettled => "written off"
  | .cancelled => "cancelled"

def assertTransition (action : Action) (status : ConsignmentStatus) (side : Side)
    (lastProposalBy : Option Side) : Except String ConsignmentStatus :=
  let rule := transitions action
  if status ∉ rule.source then
    .error ("That cannot be done while the consignment is " ++ readable status)
  else if rule.acts ≠ none ∧ rule.acts ≠ some side then
    .error (if rule.acts = some .source then "Only the sending store can do that"
      else "Only the receiving store can do that")
  else if (action = .accept ∨ action = .counter) ∧ lastProposalBy = some side then
    .error "You are waiting on the other store to answer your offer"
  else .ok rule.target

theorem assertTransition_ok (action : Action) (status next : ConsignmentStatus) (side : Side)
    (lastProposalBy : Option Side) :
    assertTransition action status side lastProposalBy = .ok next ↔
      status ∈ (transitions action).source ∧
        ((transitions action).acts = none ∨ (transitions action).acts = some side) ∧
        (action = .accept ∨ action = .counter → lastProposalBy ≠ some side) ∧
        next = (transitions action).target := by
  simp only [assertTransition]
  constructor
  · intro accepted
    split_ifs at accepted with source acts own
    cases accepted
    refine ⟨by simpa using source, ?_, fun answering same => own ⟨answering, same⟩, rfl⟩
    by_cases either : (transitions action).acts = none
    · exact .inl either
    · refine .inr ?_
      by_contra wrong
      exact acts ⟨either, wrong⟩
  · rintro ⟨source, acts, own, rfl⟩
    rw [if_neg (by simpa using source), if_neg, if_neg]
    · rintro ⟨answering, same⟩
      exact own answering same
    · rintro ⟨notEither, wrong⟩
      rcases acts with either | right
      · exact notEither either
      · exact wrong right

def amountIsMutable (status : ConsignmentStatus) : Bool :=
  status ∈ [.draft, .requested, .counterProposed, .disputed, .acceptedAwaitingCustody]

def terminal (status : ConsignmentStatus) : Bool :=
  status ∈ [.settled, .forgivenSettled, .returnedAccepted, .cancelled]

theorem terminal_iff (status : ConsignmentStatus) :
    terminal status = true ↔ ∀ action, status ∉ (transitions action).source := by
  constructor
  · intro ended action
    cases status <;> cases action <;> simp [terminal, transitions] at ended ⊢
  · intro stays
    cases status with
    | draft => exact absurd (by simp [transitions]) (stays .submit)
    | requested => exact absurd (by simp [transitions]) (stays .accept)
    | counterProposed => exact absurd (by simp [transitions]) (stays .accept)
    | disputed => exact absurd (by simp [transitions]) (stays .accept)
    | acceptedAwaitingCustody => exact absurd (by simp [transitions]) (stays .sendCustody)
    | custodyAwaitingConfirmation => exact absurd (by simp [transitions]) (stays .confirmCustody)
    | inCustody => exact absurd (by simp [transitions]) (stays .reportSold)
    | soldAwaitingSettlement => exact absurd (by simp [transitions]) (stays .settle)
    | partiallyPaid => exact absurd (by simp [transitions]) (stays .settle)
    | returnInitiated => exact absurd (by simp [transitions]) (stays .shipReturn)
    | returnInTransit => exact absurd (by simp [transitions]) (stays .confirmReturn)
    | settled => rfl
    | returnedAccepted => rfl
    | forgivenSettled => rfl
    | cancelled => rfl

inductive LedgerKind where
  | receivableRaised
  | paymentReported
  | paymentConfirmed
  | paymentCorrected
  | forgiven
  | settled
  deriving DecidableEq, Repr

def balanceEffect : LedgerKind → Int
  | .receivableRaised => 1
  | .paymentReported => 0
  | .paymentConfirmed => -1
  | .paymentCorrected => 1
  | .forgiven => -1
  | .settled => 0

structure LedgerRow where
  kind : LedgerKind
  amount : Int
  deriving DecidableEq, Repr

def LedgerRow.effect (row : LedgerRow) : Int := balanceEffect row.kind * row.amount

def outstanding (rows : List LedgerRow) : Int := (rows.map LedgerRow.effect).sum

def assertPaymentAllowed := Settlement.assertPaymentAllowed

def assertForgivenessAllowed := Settlement.assertForgivenessAllowed

def fingerprintPayment (consignmentId : Id) (amount : Int) (method : Method)
    (receivingAccountId : Option Id) (reference : Option String) : String :=
  String.intercalate "|"
    [toString consignmentId, renderFixed amount, method.text,
      (receivingAccountId.map toString).getD "", trim (reference.getD "")]

/-- `text.replace(/[\s-]/g, '').toUpperCase()`. -/
def normIdentifier (text : String) : List Char :=
  (text.toList.filter (fun c => !jsSpace c && c != '-')).map Char.toUpper

end ErpBackend.Consignments
