import ErpBackend.Analytics.StockValue
import ErpBackend.Analytics.Summary
import ErpBackend.Consignment.Service
import ErpBackend.Loans.Standing

/-!
# What two companies report of each other

One row serves both parties of a loan, with the direction as the company that created it
sees it. A summary reads the rows its own company created, and of a consignment only the
side of the sender.
-/

namespace ErpBackend.Analytics

open Foundation

structure Records where
  loan : Id → Bool
  consignment : Id → Bool

/-- One of the two created the loan, the other is its counterparty. -/
def loanBetween (a b : Id) (loan : Loan) : Bool :=
  loan.companyId = a ∧ loan.counterpartyCompanyId = some b ∨
    loan.companyId = b ∧ loan.counterpartyCompanyId = some a

def entryBetween (a b : Id) (entry : ConsignmentLedgerEntry) : Bool :=
  entry.sourceCompanyId = a ∧ entry.destinationCompanyId = some b ∨
    entry.sourceCompanyId = b ∧ entry.destinationCompanyId = some a

def Records.holdsLoan (records : Records) (a b : Id) (loan : Loan) : Bool :=
  loanBetween a b loan && records.loan loan.id

def Records.holdsEntry (records : Records) (a b : Id) (entry : ConsignmentLedgerEntry) : Bool :=
  entryBetween a b entry && records.consignment entry.consignmentId

/-- The store with these records between the two companies and no others. -/
def Records.only (records : Records) (a b : Id) (db : Db) : Db :=
  { db with
    loans := db.loans.delete (fun loan => !records.holdsLoan a b loan)
    consignmentLedger := db.consignmentLedger.delete (fun entry => !records.holdsEntry a b entry) }

def receivable (db : Db) (companyId : Id) : Int :=
  (balances db companyId).loansReceivable + (balances db companyId).consignmentBalance

def payable (db : Db) (companyId : Id) : Int := (balances db companyId).loansPayable

/-- Whatever set of records is looked at, what `a` reports as owed to it is what `b`
reports as owed by it. -/
def SummariesAgree (db : Db) (a b : Id) : Prop :=
  ∀ records : Records, receivable (records.only a b db) a = payable (records.only a b db) b

def loanOwed (db : Db) (loan : Loan) : Int := Loans.remaining (Loans.ledgerRows db loan.id)

/-- What `b` owes `a` on a consignment from `a`. -/
def consignmentOwed (db : Db) (a b consignmentId : Id) : Int :=
  Consignments.outstanding (((Consignments.ledgerOf db consignmentId).filter (fun entry =>
    entry.sourceCompanyId = a ∧ entry.destinationCompanyId = some b)).map
      (fun entry => ⟨entry.kind, entry.amount⟩))

/-- `b` owes `a` nothing on any record, whichever of the two created it. -/
structure NothingOwed (db : Db) (a b : Id) : Prop where
  loans : ∀ loan ∈ db.loans.rows, loanBetween a b loan = true → Loans.isCreditor loan a = true →
    loanOwed db loan = 0
  consignments : ∀ consignmentId, consignmentOwed db a b consignmentId = 0

theorem loansRemaining_only (records : Records) (a b : Id) (db : Db) (companyId : Id)
    (direction : Loans.Direction) :
    loansRemaining (records.only a b db) companyId direction = db.loans.total (fun loan =>
      if records.holdsLoan a b loan ∧ decide (loan.companyId = companyId ∧
        loan.direction = direction) then loanOwed db loan else 0) := by
  rw [← Table.sum_kept]
  unfold loansRemaining loanOwed Loans.remaining Loans.ledgerRows Loans.ledgerOf
  simp only [List.map_map]
  rfl

theorem consignmentBalance_only (records : Records) (a b : Id) (db : Db) (companyId : Id) :
    (balances (records.only a b db) companyId).consignmentBalance =
      db.consignmentLedger.total (fun entry => if records.holdsEntry a b entry ∧
        decide (entry.sourceCompanyId = companyId) then consignmentEffect entry else 0) :=
  Table.sum_kept db.consignmentLedger _ _ _

variable (db : Db)

theorem consignmentOwed_eq (a b consignmentId : Id) :
    consignmentOwed db a b consignmentId = db.consignmentLedger.total (fun entry =>
      if entry.consignmentId = consignmentId ∧ entry.sourceCompanyId = a ∧
        entry.destinationCompanyId = some b then consignmentEffect entry else 0) := by
  unfold consignmentOwed Consignments.outstanding Consignments.ledgerOf Table.filter Table.total
  induction db.consignmentLedger.rows with
  | nil => rfl
  | cons entry rest ih =>
      simp only [List.map_cons, List.sum_cons, ← ih]
      by_cases own : entry.consignmentId = consignmentId
      · by_cases sent : entry.sourceCompanyId = a ∧ entry.destinationCompanyId = some b
        · simp [own, sent, consignmentEffect, Consignments.LedgerRow.effect]
        · simp [own, sent]
      · simp [own]

theorem counts_receivable (a b : Id) (records : Records) (loan : Loan) :
    (records.holdsLoan a b loan = true ∧ decide (loan.companyId = a ∧
      loan.direction = .theyOweUs) = true) ↔ records.holdsLoan a b loan = true ∧
        Loans.isCreditor loan a = true ∧ loan.companyId = a := by
  unfold Loans.isCreditor
  by_cases mine : loan.companyId = a
  · simp [mine]
  · simp [mine]

section Pair

variable (db : Db) (a b : Id) (apart : a ≠ b)

include apart

theorem counts_payable (records : Records) (loan : Loan) :
    (records.holdsLoan a b loan = true ∧ decide (loan.companyId = b ∧
      loan.direction = .weOweThem) = true) ↔ records.holdsLoan a b loan = true ∧
        Loans.isCreditor loan a = true ∧ loan.companyId ≠ a := by
  unfold Loans.isCreditor Records.holdsLoan loanBetween
  by_cases mine : loan.companyId = a
  · simp [mine, apart]
  · cases direction : loan.direction with
    | theyOweUs => simp [mine]
    | weOweThem =>
        by_cases theirs : loan.companyId = b
        · simp [theirs, Ne.symm apart]
        · simp [mine, theirs]

omit apart in
theorem receivable_only (records : Records) :
    receivable (records.only a b db) a =
      db.loans.total (fun loan => if records.holdsLoan a b loan = true ∧
        Loans.isCreditor loan a = true ∧ loan.companyId = a then loanOwed db loan else 0) +
      db.consignmentLedger.total (fun entry => if records.holdsEntry a b entry ∧
        decide (entry.sourceCompanyId = a) then consignmentEffect entry else 0) := by
  have loans := loansRemaining_only records a b db a .theyOweUs
  simp only [counts_receivable a b] at loans
  rw [← loans, ← consignmentBalance_only]
  rfl

theorem payable_only (records : Records) :
    payable (records.only a b db) b = db.loans.total (fun loan =>
      if records.holdsLoan a b loan = true ∧ Loans.isCreditor loan a = true ∧ loan.companyId ≠ a
        then loanOwed db loan else 0) := by
  have loans := loansRemaining_only records a b db b .weOweThem
  simp only [counts_payable a b apart] at loans
  rw [← loans]
  rfl

theorem consignments_sum (records : Records) :
    db.consignmentLedger.total (fun entry => if records.holdsEntry a b entry ∧
        decide (entry.sourceCompanyId = a) then consignmentEffect entry else 0) =
      (((db.consignmentLedger.rows.map ConsignmentLedgerEntry.consignmentId).dedup.map
        (fun consignmentId => if records.consignment consignmentId then
          consignmentOwed db a b consignmentId else 0))).sum := by
  have grouped := sum_groups
    (db.consignmentLedger.rows.map ConsignmentLedgerEntry.consignmentId).dedup (List.nodup_dedup _)
    ConsignmentLedgerEntry.consignmentId (fun entry => if records.holdsEntry a b entry ∧
      decide (entry.sourceCompanyId = a) then consignmentEffect entry else 0)
    db.consignmentLedger.rows (fun entry member => List.mem_dedup.mpr (List.mem_map_of_mem member))
  refine grouped.symm.trans (congrArg List.sum (List.map_congr_left ?_))
  intro consignmentId _
  have own := Table.sum_filter db.consignmentLedger (fun entry =>
    decide (entry.consignmentId = consignmentId)) (fun entry => if records.holdsEntry a b entry ∧
      decide (entry.sourceCompanyId = a) then consignmentEffect entry else 0)
  refine own.trans ?_
  rw [consignmentOwed_eq]
  by_cases picked : records.consignment consignmentId = true
  · rw [if_pos picked]
    apply Table.total_congr
    intro entry _
    by_cases mine : entry.consignmentId = consignmentId
    · by_cases sent : entry.sourceCompanyId = a
      · simp [mine, sent, picked, Records.holdsEntry, entryBetween, apart]
      · simp [mine, sent]
    · simp [mine]
  · rw [if_neg picked]
    apply Table.total_eq_zero
    intro entry _
    by_cases mine : entry.consignmentId = consignmentId
    · simp [mine, picked, Records.holdsEntry]
    · simp [mine]

end Pair

def oneLoan (loanId : Id) : Records := ⟨fun other => other = loanId, fun _ => false⟩

def oneConsignment (consignmentId : Id) : Records :=
  ⟨fun _ => false, fun other => other = consignmentId⟩

theorem oneLoan_sum (a b : Id) (loan : Loan) (member : loan ∈ db.loans.rows)
    (own : loanBetween a b loan = true) (creditor : Loans.isCreditor loan a = true)
    (side : Loan → Prop) [DecidablePred side] :
    db.loans.total (fun other => if (oneLoan loan.id).holdsLoan a b other = true ∧
        Loans.isCreditor other a = true ∧ side other then loanOwed db other else 0) =
      if side loan then loanOwed db loan else 0 := by
  have alone := db.loans.total_of_unique Loan.id db.loans.unique
    (fun other => if loanBetween a b other = true ∧ Loans.isCreditor other a = true ∧ side other
      then loanOwed db other else 0) loan member
  simp only [own, creditor, true_and] at alone
  rw [← alone]
  apply Table.total_congr
  intro other _
  by_cases same : other.id = loan.id
  · simp [oneLoan, Records.holdsLoan, same]
  · simp [oneLoan, Records.holdsLoan, same]

theorem oneLoan_entries (a b loanId : Id) :
    db.consignmentLedger.total (fun entry => if (oneLoan loanId).holdsEntry a b entry ∧
      decide (entry.sourceCompanyId = a) then consignmentEffect entry else 0) = 0 := by
  apply Table.total_eq_zero
  intro entry _
  simp [oneLoan, Records.holdsEntry]

theorem oneConsignment_loans (a b consignmentId : Id) (side : Loan → Prop)
    [DecidablePred side] :
    db.loans.total (fun other => if (oneConsignment consignmentId).holdsLoan a b other = true ∧
      Loans.isCreditor other a = true ∧ side other then loanOwed db other else 0) = 0 := by
  apply Table.total_eq_zero
  intro loan _
  simp [oneConsignment, Records.holdsLoan]

theorem oneConsignment_sum (a b : Id) (apart : a ≠ b) (consignmentId : Id) :
    db.consignmentLedger.total (fun entry =>
        if (oneConsignment consignmentId).holdsEntry a b entry ∧
          decide (entry.sourceCompanyId = a) then consignmentEffect entry else 0) =
      consignmentOwed db a b consignmentId := by
  rw [consignmentOwed_eq]
  apply Table.total_congr
  intro entry _
  by_cases mine : entry.consignmentId = consignmentId
  · by_cases sent : entry.sourceCompanyId = a
    · simp [oneConsignment, mine, sent, Records.holdsEntry, entryBetween, apart]
    · simp [mine, sent]
  · simp [oneConsignment, Records.holdsEntry, mine]

/-- The two summaries agree on every set of records exactly when nothing is owed on any. -/
theorem summaries_agree_iff (db : Db) (a b : Id) (apart : a ≠ b) :
    SummariesAgree db a b ↔ NothingOwed db a b := by
  constructor
  · intro agree
    constructor
    · intro loan member own creditor
      have alone := agree (oneLoan loan.id)
      rw [receivable_only db a b, payable_only db a b apart,
        oneLoan_sum db a b loan member own creditor,
        oneLoan_sum db a b loan member own creditor, oneLoan_entries] at alone
      by_cases entered : loan.companyId = a
      · simpa [entered] using alone
      · simpa [entered, eq_comm] using alone
    · intro consignmentId
      have alone := agree (oneConsignment consignmentId)
      rw [receivable_only db a b, payable_only db a b apart, oneConsignment_loans,
        oneConsignment_loans, oneConsignment_sum db a b apart] at alone
      omega
  · intro nothing records
    have settled : ∀ side : Loan → Prop, ∀ _ : DecidablePred side,
        db.loans.total (fun loan => if records.holdsLoan a b loan = true ∧
          Loans.isCreditor loan a = true ∧ side loan then loanOwed db loan else 0) = 0 := by
      intro side _
      apply Table.total_eq_zero
      intro loan member
      split
      · next counted =>
          have own : loanBetween a b loan = true := (Bool.and_eq_true_iff.mp counted.1).1
          exact nothing.loans loan member own counted.2.1
      · rfl
    have cleared := consignments_sum db a b apart records
    simp [nothing.consignments] at cleared
    rw [receivable_only db a b, payable_only db a b apart, settled, settled]
    simp [cleared]

def connectedBooks : Db :=
  { Loans.emptyBook with storeConnections := ⟨[⟨1, 10, 20, .accepted, none, none, none, none,
      none, none, none, 1⟩], by decide⟩ }

/-- While the 400.00 are owed, only the lender's summary shows them. -/
theorem summaries_disagree :
    ¬ ∀ (calls : List Loans.Call) (a b : Id), a ≠ b →
      (∃ connection ∈ (Loans.play connectedBooks calls).1.storeConnections.rows,
        connection.status = .accepted ∧ connection.requesterCompanyId = a ∧
          connection.addresseeCompanyId = b) →
      SummariesAgree (Loans.play connectedBooks calls).1 a b := by
  intro claim
  have agree := claim (Loans.counteredAndPaid.take 3) 10 20 (by decide) (by decide)
    ⟨fun _ => true, fun _ => true⟩
  have apart : ¬ receivable (Records.only ⟨fun _ => true, fun _ => true⟩ 10 20
      (Loans.play connectedBooks (Loans.counteredAndPaid.take 3)).1) 10 =
        payable (Records.only ⟨fun _ => true, fun _ => true⟩ 10 20
          (Loans.play connectedBooks (Loans.counteredAndPaid.take 3)).1) 20 := by
    decide
  exact apart agree

/-- Once the loan is paid, the two agree again. -/
theorem summaries_agree_iff_paid :
    (10 : Id) ≠ 20 ∧
      (SummariesAgree (Loans.play connectedBooks Loans.counteredAndPaid).1 10 20 ↔
        NothingOwed (Loans.play connectedBooks Loans.counteredAndPaid).1 10 20) ∧
      ∀ loan ∈ (Loans.play connectedBooks Loans.counteredAndPaid).1.loans.rows,
        loanOwed (Loans.play connectedBooks Loans.counteredAndPaid).1 loan = 0 :=
  ⟨by decide, summaries_agree_iff _ 10 20 (by decide), by decide⟩

end ErpBackend.Analytics
