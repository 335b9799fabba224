import ErpBackend.Loans.Ledger

/-!
# The life of a loan

Requests one after another, from an empty book. The history records the offers
put on the table and the acceptances, by the company that made them; it is read
off the requests and their answers, not off the stored columns.
-/

namespace ErpBackend.Loans

open Foundation

inductive Operation where
  | propose (fresh : Id) (dto : CreateLoanDto)
  | decide (fresh id : Id) (dto : DecideLoanDto)
  | payment (fresh id : Id) (dto : LoanPaymentDto)
  | forgive (fresh id : Id) (dto : ForgiveLoanDto)

structure Call where
  ctx : Ctx
  operation : Operation

def Call.program (call : Call) : Request LoanView :=
  match call.operation with
  | .propose fresh dto => Loans.propose call.ctx fresh dto
  | .decide fresh id dto => Loans.decide call.ctx fresh id dto
  | .payment fresh id dto => Loans.payment call.ctx fresh id dto
  | .forgive fresh id dto => Loans.forgive call.ctx fresh id dto

def Call.exec (call : Call) (db : Db) : Db × Except Refusal LoanView := call.program.run db

inductive Event where
  | offered (loanId companyId : Id) (amount : Int)
  | accepted (loanId companyId : Id)
  deriving DecidableEq, Repr

def Event.loanId : Event → Id
  | .offered loanId _ _ => loanId
  | .accepted loanId _ => loanId

/-- A counter puts an amount on the table, an acceptance takes it. -/
def decisionEvents (me id : Id) (dto : DecideLoanDto) : List Event :=
  match dto.action, dto.amount with
  | .counter, some amount => [.offered id me amount.cents]
  | .accept, _ => [.accepted id me]
  | _, _ => []

def Call.events (call : Call) (db : Db) : List Event :=
  match call.operation with
  | .propose fresh dto =>
      if db.loans.find? fresh = none ∧ (call.exec db).1.loans.find? fresh ≠ none then
        [.offered fresh call.ctx.companyId dto.amount.cents]
      else []
  | .decide _ id dto =>
      match (call.exec db).2 with
      | .ok _ => decisionEvents call.ctx.companyId id dto
      | .error _ => []
  | _ => []

def Call.apply (state : Db × List Event) (call : Call) : Db × List Event :=
  ((call.exec state.1).1, state.2 ++ call.events state.1)

def play (db : Db) (calls : List Call) : Db × List Event := calls.foldl Call.apply (db, [])

def active : LoanStatus → Bool
  | .accepted | .partiallyPaid | .paymentAwaitingConfirmation => true
  | _ => false

def closed : LoanStatus → Bool
  | .settled | .forgivenSettled => true
  | _ => false

/-- How the status follows a ledger row, given what is owed after it. -/
inductive Restate : LedgerKind → Int → List LoanStatus → LoanStatus → Prop
  | reported (left : Int) :
      Restate .paymentReported left [.accepted, .partiallyPaid] .paymentAwaitingConfirmation
  | partly (kind : LedgerKind) (left : Int) (debit : kind.debit = true) (positive : 0 < left) :
      Restate kind left [.accepted, .paymentAwaitingConfirmation] .partiallyPaid
  | cleared (kind : LedgerKind) (left : Int) (target : LoanStatus)
      (debit : kind.debit = true) (none : ¬ 0 < left) (ends : closed target = true) :
      Restate kind left [.accepted, .partiallyPaid, .paymentAwaitingConfirmation] target
  | corrected (left : Int) :
      Restate .paymentCorrected left [.settled, .forgivenSettled] .partiallyPaid

inductive Change (db : Db) : Db → List Event → Prop
  | none : Change db db []
  | propose (loan : Loan) (db' : Db) (status : loan.status = .proposed)
      (principal : loan.principal = none) (counter : loan.counterAmount = none)
      (positive : 0 < loan.proposedAmount) (inserted : insertLoan db loan = .ok db') :
      Change db db' [.offered loan.id loan.proposedByCompanyId loan.proposedAmount]
  | decide (ctx : Ctx) (fresh : Id) (dto : DecideLoanDto) (loan : Loan) (next : LoanStatus)
      (db' : Db) (found : db.loans.find? loan.id = some loan)
      (asserted : assertDecision
        { action := dto.action
          status := loan.status
          isOwnOffer := isOwnOffer loan ctx.companyId
          amount := dto.amount
          reason := dto.reason } = .ok next)
      (committed : commitDecision ctx fresh dto loan next db = .ok db') :
      Change db db' (decisionEvents ctx.companyId loan.id dto)
  | book (loan : Loan) (entry : LoanLedgerEntry) (db₁ : Db) (source : List LoanStatus)
      (target : LoanStatus) (stamp : Option Time → Option Time)
      (found : db.loans.find? loan.id = some loan) (agreed : loan.principal ≠ none)
      (inserted : insertEntry db entry = .ok db₁) (own : entry.loanId = loan.id)
      (kind : entry.kind ≠ .principalAccepted)
      (fits : entry.kind ≠ .paymentCorrected → entry.amount ≤ owed db loan.id)
      (unanswered : entry.kind.answering = true → ∃ id, entry.refersToId = some id ∧
        findAnswer db id entry.kind = none)
      (restate : Restate entry.kind (owed db₁ loan.id) source target) :
      Change db (moveStatus db₁ loan.id source target stamp) []

section Requests

variable {α : Type}

theorem findVisible_some (db : Db) (me id : Id) (loan : Loan)
    (found : findVisible db me id = some loan) :
    db.loans.find? id = some loan ∧ loan.id = id ∧ visible me loan = true := by
  obtain ⟨present, seen⟩ := Option.filter_eq_some_iff.mp found
  exact ⟨present, db.loans.key_of_find? id loan present, seen⟩

variable (ctx : Ctx)

theorem ensures_mine (id : Id) (f : Loan → Request α)
    (post : Db → Except Refusal α → Prop) (db : Db)
    (refused : ∀ refusal, post db (.error refusal))
    (rest : ∀ loan, db.loans.find? loan.id = some loan → loan.id = id →
      visible ctx.companyId loan = true → Prog.Ensures (f loan) post db) :
    Prog.Ensures (mine ctx id >>= f) post db := by
  unfold mine
  rw [Prog.bind_assoc, Prog.ensures_read, Prog.ensures_expect]
  refine ⟨fun loan found => ?_, fun _ => refused _⟩
  obtain ⟨present, keyed, seen⟩ := findVisible_some db ctx.companyId id loan found
  exact rest loan (keyed.symm ▸ present) keyed seen

theorem ensures_get (id : Id) (post : Db → Except Refusal LoanView → Prop) (db : Db)
    (any : ∀ result, post db result) : Prog.Ensures (get ctx id) post db := by
  unfold get
  rw [Prog.ensures_read]
  rcases (findVisible db ctx.companyId id).map (viewOf db ctx.companyId) with _ | view
  · exact any _
  · exact any _

inductive Negotiation (db : Db) : Db → List Event → Prop
  | none : Negotiation db db []
  | propose (loan : Loan) (db' : Db) (status : loan.status = .proposed)
      (principal : loan.principal = none) (counter : loan.counterAmount = none)
      (positive : 0 < loan.proposedAmount) (inserted : insertLoan db loan = .ok db') :
      Negotiation db db' [.offered loan.id loan.proposedByCompanyId loan.proposedAmount]
  | decide (ctx : Ctx) (fresh : Id) (dto : DecideLoanDto) (loan : Loan) (next : LoanStatus)
      (db' : Db) (found : db.loans.find? loan.id = some loan)
      (asserted : assertDecision
        { action := dto.action
          status := loan.status
          isOwnOffer := isOwnOffer loan ctx.companyId
          amount := dto.amount
          reason := dto.reason } = .ok next)
      (committed : commitDecision ctx fresh dto loan next db = .ok db') :
      Negotiation db db' (decisionEvents ctx.companyId loan.id dto)

theorem Negotiation.change {db db' : Db} {events : List Event}
    (negotiation : Negotiation db db' events) : Change db db' events := by
  cases negotiation with
  | none => exact .none
  | propose loan _ status principal counter positive inserted =>
      exact .propose loan db' status principal counter positive inserted
  | decide ctx fresh dto loan next _ found asserted committed =>
      exact .decide ctx fresh dto loan next db' found asserted committed

variable (fresh : Id)

theorem propose_negotiates (dto : CreateLoanDto) (db : Db) :
    Prog.Ensures (propose ctx fresh dto) (fun db' _ => Negotiation db db'
      (if db.loans.find? fresh = none ∧ db'.loans.find? fresh ≠ none then
        [.offered fresh ctx.companyId dto.amount.cents] else [])) db := by
  have unchanged : Negotiation db db
      (if db.loans.find? fresh = none ∧ db.loans.find? fresh ≠ none then
        [.offered fresh ctx.companyId dto.amount.cents] else []) := by
    rw [if_neg (fun both => both.2 both.1)]
    exact .none
  unfold propose
  rw [Prog.ensures_read]
  dsimp only
  split
  · exact ensures_get _ _ _ _ (fun _ => unchanged)
  · rw [Prog.ensures_read, Prog.ensures_expect]
    refine ⟨?_, fun _ => unchanged⟩
    rintro ⟨counterparty, connection⟩ _
    rw [Prog.ensures_require]
    refine ⟨fun _ => ?_, fun _ => unchanged⟩
    rw [Prog.ensures_commit]
    refine ⟨fun db' inserted => ?_, fun _ _ => unchanged⟩
    apply ensures_get
    intro _
    obtain ⟨-, stored⟩ := insertLoan_ok db db' _ inserted
    have before : db.loans.find? fresh = none :=
      (db.loans.find?_none fresh).mpr (db.loans.insert?_some _ _ stored).2
    have after : db'.loans.find? fresh ≠ none := by
      rw [db.loans.find?_insert _ _ stored fresh]
      simp [proposedLoan]
    rw [if_pos ⟨before, after⟩]
    exact .propose (proposedLoan ctx fresh dto counterparty) db' rfl rfl rfl
      dto.amount.positive inserted

theorem decide_negotiates (fresh id : Id) (dto : DecideLoanDto) (db : Db) :
    Prog.Ensures (decide ctx fresh id dto) (fun db' result => Negotiation db db'
      (match result with
        | .ok _ => decisionEvents ctx.companyId id dto
        | .error _ => [])) db := by
  unfold decide
  apply ensures_mine
  · intro _
    exact .none
  · intro loan found keyed seen
    subst keyed
    rw [Prog.ensures_liftExcept]
    refine ⟨fun next asserted => ?_, fun _ _ => .none⟩
    rw [Prog.ensures_require]
    refine ⟨fun _ => ?_, fun _ => .none⟩
    rw [Prog.ensures_commit]
    refine ⟨fun db' committed => ?_, fun _ _ => .none⟩
    obtain ⟨loans, -⟩ := commitDecision_ok ctx fresh dto loan next db db' committed
    have present : findVisible db' ctx.companyId loan.id =
      some (decided ctx dto loan next loan) := by
      unfold findVisible
      rw [loans, db.loans.find?_update, if_pos rfl, found]
      exact Option.filter_eq_some_iff.mpr ⟨rfl, seen⟩
    unfold get
    rw [Prog.ensures_read, present]
    exact .decide ctx fresh dto loan next db' found
      ((except_mapError_ok _ _ _).mp asserted) committed

theorem ensures_settleIfClear (loanId : Id) (status : LoanStatus)
    (f : Unit → Request α) (post : Db → Except Refusal α → Prop) (db : Db)
    (partly : 0 < owed db loanId → Prog.Ensures (f ()) post
      (moveStatus db loanId [.accepted, .paymentAwaitingConfirmation] .partiallyPaid id))
    (cleared : ¬ 0 < owed db loanId → Prog.Ensures (f ()) post
      (moveStatus db loanId [.accepted, .partiallyPaid, .paymentAwaitingConfirmation] status
        (fun _ => some ctx.now))) :
    Prog.Ensures (settleIfClear ctx loanId status >>= f) post db := by
  unfold settleIfClear
  rw [Prog.bind_assoc, Prog.ensures_read]
  split
  · next left => exact partly left
  · next left => exact cleared left

/-- Whatever a program does next, the database it leaves satisfies `post`. -/
def Leaves (f : Unit → Request α) (post : Db → Prop) : Prop :=
  ∀ db, post db → Prog.Ensures (f ()) (fun db' _ => post db') db

def LedgerKind.asked : LedgerKind → Option LedgerKind
  | .paymentConfirmed => some .paymentReported
  | .paymentCorrected => some .paymentConfirmed
  | _ => none

/-- A payment or a write-off adds a row and lets the status follow. -/
inductive Booking (db : Db) (loan : Loan) (entry : LoanLedgerEntry) : Db → Prop
  | book (db₁ : Db) (source : List LoanStatus) (target : LoanStatus)
      (stamp : Option Time → Option Time) (inserted : insertEntry db entry = .ok db₁)
      (own : entry.loanId = loan.id) (kind : entry.kind ≠ .principalAccepted)
      (fits : entry.kind ≠ .paymentCorrected → entry.amount ≤ owed db loan.id)
      (answers : ∀ asked, entry.kind.asked = some asked → ∃ id other,
        findEntry db loan.id id asked = some other ∧ entry.refersToId = some other.id ∧
          findAnswer db other.id entry.kind = none)
      (restate : Restate entry.kind (owed db₁ loan.id) source target) :
      Booking db loan entry (moveStatus db₁ loan.id source target stamp)

def Books (db : Db) (loan : Loan) (like : LoanLedgerEntry → Prop) (db' : Db) : Prop :=
  db' = db ∨ ∃ entry, like entry ∧ Booking db loan entry db'

theorem Books.unchanged (db : Db) (loan : Loan) (like : LoanLedgerEntry → Prop) :
    Books db loan like db := .inl rfl

theorem confirm_books (loan : Loan) (dto : LoanPaymentDto)
    (f : Unit → Request α) (db : Db)
    (rest : Leaves f (Books db loan (fun entry => entry.kind = .paymentConfirmed))) :
    Prog.Ensures (confirmPayment ctx fresh loan (owed db loan.id) dto >>= f)
      (fun db' _ => Books db loan (fun entry => entry.kind = .paymentConfirmed) db') db := by
  unfold confirmPayment assertCreditor append
  simp only [Prog.bind_assoc]
  rw [Prog.ensures_require]
  refine ⟨fun _ => ?_, fun _ => .unchanged _ _ _⟩
  rw [Prog.ensures_expect]
  refine ⟨fun entryId _ => ?_, fun _ => .unchanged _ _ _⟩
  rw [Prog.ensures_read, Prog.ensures_expect]
  refine ⟨fun reported found => ?_, fun _ => .unchanged _ _ _⟩
  rw [Prog.ensures_read, Prog.ensures_require]
  refine ⟨fun unanswered => ?_, fun _ => .unchanged _ _ _⟩
  rw [Prog.ensures_liftExcept]
  refine ⟨fun _ allowed => ?_, fun _ _ => .unchanged _ _ _⟩
  have fits :=
    (Settlement.assertPaymentAllowed_ok _ _ _ _ ((except_mapError_ok _ _ _).mp allowed)).2
  rw [Prog.ensures_commit]
  refine ⟨fun db₁ inserted => ?_, fun _ _ => .unchanged _ _ _⟩
  have answers : ∀ asked, LedgerKind.paymentConfirmed.asked = some asked → ∃ id other,
      findEntry db loan.id id asked = some other ∧ some reported.id = some other.id ∧
        findAnswer db other.id .paymentConfirmed = none := by
    intro asked same
    cases same
    exact ⟨entryId, reported, found, rfl, unanswered⟩
  apply ensures_settleIfClear
  · intro left
    exact rest _ (.inr ⟨_, rfl, .book db₁ _ _ _ inserted rfl (fun same => by cases same)
      (fun _ => fits) answers (.partly _ _ rfl left)⟩)
  · intro left
    exact rest _ (.inr ⟨_, rfl, .book db₁ _ _ _ inserted rfl (fun same => by cases same)
      (fun _ => fits) answers (.cleared _ _ _ rfl left rfl)⟩)

theorem correct_books (loan : Loan) (dto : LoanPaymentDto)
    (f : Unit → Request α) (db : Db)
    (rest : Leaves f (Books db loan (fun entry => entry.kind = .paymentCorrected))) :
    Prog.Ensures (correctPayment ctx fresh loan dto >>= f)
      (fun db' _ => Books db loan (fun entry => entry.kind = .paymentCorrected) db') db := by
  unfold correctPayment assertCreditor append
  simp only [Prog.bind_assoc]
  rw [Prog.ensures_require]
  refine ⟨fun _ => ?_, fun _ => .unchanged _ _ _⟩
  rw [Prog.ensures_require]
  refine ⟨fun _ => ?_, fun _ => .unchanged _ _ _⟩
  rw [Prog.ensures_expect]
  refine ⟨fun entryId _ => ?_, fun _ => .unchanged _ _ _⟩
  rw [Prog.ensures_read, Prog.ensures_expect]
  refine ⟨fun confirmed found => ?_, fun _ => .unchanged _ _ _⟩
  rw [Prog.ensures_read, Prog.ensures_require]
  refine ⟨fun unanswered => ?_, fun _ => .unchanged _ _ _⟩
  rw [Prog.ensures_commit]
  refine ⟨fun db₁ inserted => ?_, fun _ _ => .unchanged _ _ _⟩
  rw [Prog.ensures_execute]
  refine rest _ (.inr ⟨_, rfl, .book db₁ _ _ _ inserted rfl (fun same => by cases same)
    (fun other => absurd rfl other) ?_ (.corrected _)⟩)
  intro asked same
  cases same
  exact ⟨entryId, confirmed, found, rfl, unanswered⟩

theorem report_books (loan : Loan) (dto : LoanPaymentDto)
    (f : Unit → Request α) (db : Db)
    (rest : Leaves f (Books db loan (fun entry => entry.kind = .paymentReported))) :
    Prog.Ensures (reportPayment ctx fresh loan (owed db loan.id) dto >>= f)
      (fun db' _ => Books db loan (fun entry => entry.kind = .paymentReported) db') db := by
  unfold reportPayment append
  rw [Prog.bind_assoc, Prog.ensures_read]
  dsimp only
  split
  · rw [Prog.ensures_require]
    exact ⟨fun _ => rest db (.unchanged _ _ _), fun _ => .unchanged _ _ _⟩
  · simp only [Prog.bind_assoc]
    rw [Prog.ensures_liftExcept]
    refine ⟨fun _ allowed => ?_, fun _ _ => .unchanged _ _ _⟩
    have fits :=
      (Settlement.assertPaymentAllowed_ok _ _ _ _ ((except_mapError_ok _ _ _).mp allowed)).2
    rw [Prog.ensures_read, Prog.ensures_commit]
    refine ⟨fun db₁ inserted => ?_, fun _ _ => .unchanged _ _ _⟩
    rw [Prog.ensures_execute]
    exact rest _ (.inr ⟨_, rfl, .book db₁ _ _ _ inserted rfl (fun same => by cases same)
      (fun _ => fits) (fun _ asked => by cases asked) (.reported _)⟩)

private theorem get_leaves (id : Id) (post : Db → Prop) :
    Leaves (fun _ => get ctx id) post :=
  fun db holds => ensures_get ctx id _ db (fun _ => holds)

def PaymentAction.kind : PaymentAction → LedgerKind
  | .report => .paymentReported
  | .confirm => .paymentConfirmed
  | .correct => .paymentCorrected

theorem payment_books (fresh id : Id) (dto : LoanPaymentDto) (db : Db) :
    Prog.Ensures (payment ctx fresh id dto) (fun db' _ => db' = db ∨ ∃ loan,
      db.loans.find? loan.id = some loan ∧ loan.id = id ∧ loan.principal ≠ none ∧
        Books db loan (fun entry => entry.kind = dto.action.kind) db') db := by
  unfold payment
  apply ensures_mine
  · intro _
    exact .inl rfl
  · intro loan found keyed _
    rw [Prog.ensures_require]
    refine ⟨fun agreed => ?_, fun _ => .inl rfl⟩
    rw [Prog.ensures_read]
    refine Prog.ensures_mono ?_ (fun db' _ books => .inr ⟨loan, found, keyed, agreed, books⟩)
    cases dto.action with
    | report => exact report_books ctx fresh loan dto _ db (get_leaves ctx id _)
    | confirm => exact confirm_books ctx fresh loan dto _ db (get_leaves ctx id _)
    | correct => exact correct_books ctx fresh loan dto _ db (get_leaves ctx id _)

theorem forgive_books (fresh id : Id) (dto : ForgiveLoanDto) (db : Db) :
    Prog.Ensures (forgive ctx fresh id dto) (fun db' _ => db' = db ∨ ∃ loan,
      db.loans.find? loan.id = some loan ∧ loan.id = id ∧ loan.principal ≠ none ∧
        Books db loan (fun entry => entry.kind = .forgiven ∧ entry.amount = dto.amount.cents)
          db') db := by
  unfold forgive assertCreditor append
  apply ensures_mine
  · intro _
    exact .inl rfl
  · intro loan found keyed _
    rw [Prog.ensures_require]
    refine ⟨fun _ => ?_, fun _ => .inl rfl⟩
    rw [Prog.ensures_require]
    refine ⟨fun agreed => ?_, fun _ => .inl rfl⟩
    rw [Prog.ensures_read, Prog.ensures_liftExcept]
    refine ⟨fun _ allowed => ?_, fun _ _ => .inl rfl⟩
    have fits :=
      (Settlement.assertForgivenessAllowed_ok _ _ _ ((except_mapError_ok _ _ _).mp allowed)).2
    rw [Prog.ensures_commit]
    refine ⟨fun db₁ inserted => ?_, fun _ _ => .inl rfl⟩
    refine Prog.ensures_mono ?_ (fun db' _ books => .inr ⟨loan, found, keyed, agreed, books⟩)
    apply ensures_settleIfClear
    · intro left
      exact get_leaves ctx id _ _ (.inr ⟨_, ⟨rfl, rfl⟩, .book db₁ _ _ _ inserted rfl
        (fun same => by cases same) (fun _ => fits) (fun _ asked => by cases asked)
        (.partly _ _ rfl left)⟩)
    · intro left
      exact get_leaves ctx id _ _ (.inr ⟨_, ⟨rfl, rfl⟩, .book db₁ _ _ _ inserted rfl
        (fun same => by cases same) (fun _ => fits) (fun _ asked => by cases asked)
        (.cleared _ _ _ rfl left rfl)⟩)

theorem Books.change {db db' : Db} {loan : Loan} {like : LoanLedgerEntry → Prop}
    (books : Books db loan like db') (found : db.loans.find? loan.id = some loan)
    (agreed : loan.principal ≠ none) : Change db db' [] := by
  rcases books with rfl | ⟨entry, -, booking⟩
  · exact .none
  · cases booking with
    | book db₁ source target stamp inserted own kind fits answers restate =>
        refine .book loan entry db₁ source target stamp found agreed inserted own kind
          fits ?_ restate
        intro answering
        obtain ⟨asked, same⟩ : ∃ asked, entry.kind.asked = some asked := by
          revert answering
          cases entry.kind <;> simp [LedgerKind.answering, LedgerKind.asked]
        obtain ⟨_, other, -, refers, free⟩ := answers asked same
        exact ⟨other.id, refers, free⟩

theorem payment_change (fresh id : Id) (dto : LoanPaymentDto) (db : Db) :
    Prog.Ensures (payment ctx fresh id dto) (fun db' _ => Change db db' []) db := by
  refine Prog.ensures_mono (payment_books ctx fresh id dto db) ?_
  rintro db' _ (rfl | ⟨loan, found, -, agreed, books⟩)
  · exact .none
  · exact books.change found agreed

theorem forgive_change (fresh id : Id) (dto : ForgiveLoanDto) (db : Db) :
    Prog.Ensures (forgive ctx fresh id dto) (fun db' _ => Change db db' []) db := by
  refine Prog.ensures_mono (forgive_books ctx fresh id dto db) ?_
  rintro db' _ (rfl | ⟨loan, found, -, agreed, books⟩)
  · exact .none
  · exact books.change found agreed

theorem call_change (call : Call) (db : Db) :
    Change db (call.exec db).1 (call.events db) := by
  rcases call with ⟨ctx, operation⟩
  cases operation with
  | propose fresh dto => exact Negotiation.change (propose_negotiates ctx fresh dto db)
  | decide fresh id dto => exact Negotiation.change (decide_negotiates ctx fresh id dto db)
  | payment fresh id dto => exact payment_change ctx fresh id dto db
  | forgive fresh id dto => exact forgive_change ctx fresh id dto db

end Requests

end ErpBackend.Loans
