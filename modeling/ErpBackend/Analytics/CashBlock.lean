import ErpBackend.Analytics.Revenue
import ErpBackend.Analytics.Window

/-!
# The cash block of a summary

Its four figures are columns of the rollups, picked by name. Set against them is the
money that moved in the window: payments taken with its sales, refunds and supplier
settlements confirmed in it, expenses paid in cash, and what corrections brought back.
-/

namespace ErpBackend.Analytics

open Foundation

def takenAt (db : Db) (companyId : Id) (payment : Payment) : Option Place :=
  if payment.companyId = companyId then
    (db.sales.find? payment.saleId).map (fun sale => (sale.branchId, dayKey sale.soldAt))
  else none

def settledAt (companyId : Id) (settlement : SupplierSettlement) : Option Place :=
  if settlement.companyId = companyId ∧ settlement.status = .confirmed then
    settlement.confirmationDate.map (fun day => (settlement.branchId, day))
  else none

section Moved

variable (w : Window) (db : Db)

def salesReceived : Int :=
  ((db.payments.filter (fun payment => (takenAt db w.companyId payment).any w.holds)).map
    Payment.amount).sum

def refundsPaid : Int := ((w.refunds db).map RefundPayout.reportedAmount).sum

def supplierPaymentsConfirmed : Int :=
  ((db.supplierSettlements.filter (fun settlement =>
    (settledAt w.companyId settlement).any w.holds)).map SupplierSettlement.amount).sum

def expensesCash : Int :=
  (((w.expenses db).filter (fun expense => expense.method = .cash)).map Expense.amount).sum

def correctionsReturned : Int := ((w.corrections db).map FinancialCorrection.amount).sum

def correctionsInCash : Int :=
  (((w.corrections db).filter (fun correction => correction.method = .cash)).map
    FinancialCorrection.amount).sum

def enteredRevenue : Int := ((w.lines db).map lineRevenue).sum

def movedCash : PeriodCash where
  salesReceived := salesReceived w db
  refundsPaid := refundsPaid w db
  supplierPaymentsConfirmed := supplierPaymentsConfirmed w db
  expensesCash := expensesCash w db
  inflow := salesReceived w db + correctionsReturned w db
  outflow := refundsPaid w db + supplierPaymentsConfirmed w db + expensesCash w db
  net := salesReceived w db + correctionsReturned w db -
    (refundsPaid w db + supplierPaymentsConfirmed w db + expensesCash w db)

end Moved

def windowOf (ctx : Ctx) (first last : Int) : Window := ⟨ctx.companyId, ctx.branchId, first, last⟩

theorem forPeriod_cash {M : Type} (m : M) (ctx : Ctx) (first last : Int) (db : Db) :
    ∃ summary, (forPeriod m ctx first last).run db = (db, .ok summary) ∧
      summary.cash = cashOf (rollupTotals ((windowOf ctx first last).rollups db)) :=
  ⟨_, rfl, rfl⟩

theorem cashOf_rows (w : Window) (db : Db) (upToDate : UpToDate w db) :
    cashOf (rollupTotals (w.rollups db)) =
      { salesReceived := enteredRevenue w db
        refundsPaid := refundsPaid w db
        supplierPaymentsConfirmed := correctionsInCash w db
        expensesCash := expensesCash w db
        inflow := enteredRevenue w db
        outflow := refundsPaid w db + correctionsInCash w db + expensesCash w db + 0
        net := enteredRevenue w db -
          (refundsPaid w db + correctionsInCash w db + expensesCash w db + 0) } := by
  simp only [cashOf, cashMovement, rollupTotals, upToDate.revenue, upToDate.refundsPaid,
    upToDate.correctionsCash, upToDate.expensesCash, enteredRevenue, refundsPaid,
    correctionsInCash, expensesCash]

/-- The block is the money that moved exactly when everything sold was paid, no correction
brought money back, and the settlements confirmed come to the corrections in cash. -/
theorem cash_block_iff {M : Type} (m : M) (ctx : Ctx) (first last : Int) (db : Db)
    (upToDate : UpToDate (windowOf ctx first last) db) :
    ∃ summary, (forPeriod m ctx first last).run db = (db, .ok summary) ∧
      (summary.cash = movedCash (windowOf ctx first last) db ↔
        enteredRevenue (windowOf ctx first last) db = salesReceived (windowOf ctx first last) db ∧
          correctionsReturned (windowOf ctx first last) db = 0 ∧
          supplierPaymentsConfirmed (windowOf ctx first last) db =
            correctionsInCash (windowOf ctx first last) db) := by
  obtain ⟨summary, answer, shown⟩ := forPeriod_cash m ctx first last db
  refine ⟨summary, answer, ?_⟩
  rw [shown, cashOf_rows _ db upToDate]
  unfold movedCash
  simp only [PeriodCash.mk.injEq, CashMovement.mk.injEq, true_and, and_true, add_zero]
  constructor
  · intro same
    omega
  · intro settled
    omega

def settledCash : SupplierSettlement where
  id := 400
  companyId := 10
  branchId := 1
  supplierId := 5
  status := .confirmed
  amount := 30000
  method := .cash
  receivingAccountId := none
  accountLabelSnapshot := none
  transactionReference := none
  note := none
  version := 1
  clientUuid := 60
  clientRequestHash := ""
  reportedById := some 7
  confirmedById := some 8
  confirmedAt := some 3456000
  confirmationDate := some 40

def supplierPaid : Db := { supplierSettlements := ⟨[settledCash], List.nodup_singleton _⟩ }

def dayRecomputed (db : Db) (day : Day) : Db := ((recomputeDaily () 10 1 day 0 900).run db).1

theorem dayRecomputed_upToDate (db : Db) (day : Day)
    (rollups : (windowOf owner day day).rollups (dayRecomputed db day) =
      [⟨dayFigures (dayRecomputed db day) 10 1 day, 900, 10, 1, day, 0⟩])
    (covered : Covered (windowOf owner day day) (dayRecomputed db day)) :
    UpToDate (windowOf owner day day) (dayRecomputed db day) := by
  constructor
  · intro rollup member
    rw [rollups, List.mem_singleton] at member
    rw [member]
    rfl
  · rw [rollups]
    exact List.nodup_singleton _
  · exact covered.active

theorem supplierPaid_upToDate :
    UpToDate (windowOf owner 40 40) (dayRecomputed supplierPaid 40) :=
  dayRecomputed_upToDate supplierPaid 40 rfl (by decide)

theorem cash_block_misses_settlement :
    ¬ ∀ (db : Db) (ctx : Ctx) (first last : Int), UpToDate (windowOf ctx first last) db →
      ∀ summary, (forPeriod () ctx first last).run db = (db, .ok summary) →
        summary.cash = movedCash (windowOf ctx first last) db := by
  intro claim
  obtain ⟨summary, answer, shown⟩ :=
    forPeriod_cash () owner 40 40 (dayRecomputed supplierPaid 40)
  have same := claim _ owner 40 40 supplierPaid_upToDate summary answer
  have paid : summary.cash.supplierPaymentsConfirmed = 30000 := by
    rw [same]
    decide
  rw [shown] at paid
  revert paid
  decide

/-- Day 0 of branch 1: a charger was sold for 1000.00 and paid at once. -/
def chargerPaid : Db :=
  ((chargerSale none ⟨100000, by decide⟩).run shelf).1

theorem chargerPaid_upToDate : UpToDate (windowOf owner 0 0) (dayRecomputed chargerPaid 0) :=
  dayRecomputed_upToDate chargerPaid 0 rfl (by decide)

theorem cash_block_iff_paid :
    salesReceived (windowOf owner 0 0) (dayRecomputed chargerPaid 0) = 100000 ∧
      ∃ summary, (forPeriod () owner 0 0).run (dayRecomputed chargerPaid 0) =
        (dayRecomputed chargerPaid 0, .ok summary) ∧
      (summary.cash = movedCash (windowOf owner 0 0) (dayRecomputed chargerPaid 0) ↔
        enteredRevenue (windowOf owner 0 0) (dayRecomputed chargerPaid 0) =
            salesReceived (windowOf owner 0 0) (dayRecomputed chargerPaid 0) ∧
          correctionsReturned (windowOf owner 0 0) (dayRecomputed chargerPaid 0) = 0 ∧
          supplierPaymentsConfirmed (windowOf owner 0 0) (dayRecomputed chargerPaid 0) =
            correctionsInCash (windowOf owner 0 0) (dayRecomputed chargerPaid 0)) :=
  ⟨by decide, cash_block_iff () owner 0 0 _ chargerPaid_upToDate⟩

end ErpBackend.Analytics
