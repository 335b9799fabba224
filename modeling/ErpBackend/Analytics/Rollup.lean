import ErpBackend.Foundation.Program
import ErpBackend.Schema

/-!
# RollupService.recomputeDaily

The figures of one branch-day, each summed by a query of its own. A sale belongs
to the day it was made, a return to the day it was approved, a refund to the day
it was confirmed, a correction to the day it was approved; a variable expense to
the day it was confirmed and a fixed one to its due date.
-/

namespace ErpBackend.Analytics

open Foundation

structure SalesTotals where
  revenue : Int
  cogs : Int
  qtySold : Int
  salesCount : Nat

/-- `si JOIN s`: the line counts for the branch-day. -/
def soldOn (db : Db) (companyId branchId : Id) (day : Day) (item : SaleItem) : Bool :=
  item.companyId = companyId ∧ item.voided = false ∧
    (db.sales.find? item.saleId).any (fun sale =>
      sale.branchId = branchId ∧ dayKey sale.soldAt = day)

def lineRevenue (item : SaleItem) : Int := item.price * item.quantity - item.discount

def lineCost (item : SaleItem) : Int := item.cost * item.quantity

def salesTotals (db : Db) (companyId branchId : Id) (day : Day) : SalesTotals :=
  let items := db.saleItems.filter (soldOn db companyId branchId day)
  { revenue := (items.map lineRevenue).sum
    cogs := (items.map lineCost).sum
    qtySold := (items.map SaleItem.quantity).sum
    salesCount := (items.map SaleItem.saleId).dedup.length }

structure ExpenseTotals where
  expenses : Int
  cash : Int
  count : Nat
  fixed : Int
  salary : Int

def accountingDay (expense : Expense) : Option Day :=
  match expense.expenseClass with
  | ExpenseClass.variable => expense.confirmationDate
  | ExpenseClass.fixed => expense.dueDate

def spentOn (companyId branchId : Id) (day : Day) (expense : Expense) : Bool :=
  expense.companyId = companyId ∧ expense.branchId = some branchId ∧
    expense.status = .confirmed ∧ accountingDay expense = some day

def expenseTotals (db : Db) (companyId branchId : Id) (day : Day) : ExpenseTotals :=
  let expenses := db.expenses.filter (spentOn companyId branchId day)
  { expenses := (expenses.map Expense.amount).sum
    cash := ((expenses.filter (fun expense => expense.method = .cash)).map Expense.amount).sum
    count := expenses.length
    fixed := ((expenses.filter (fun expense =>
      expense.expenseClass = ExpenseClass.fixed)).map Expense.amount).sum
    salary := ((expenses.filter Expense.isSalary).map Expense.amount).sum }

structure ReturnTotals where
  gross : Int
  adjustments : Int
  cogsCredited : Int
  count : Nat

def reversedOn (companyId branchId : Id) (day : Day) (reversal : ReturnReversal) : Bool :=
  reversal.companyId = companyId ∧ reversal.branchId = branchId ∧ reversal.approvalDate = day

def returnTotals (db : Db) (companyId branchId : Id) (day : Day) : ReturnTotals :=
  let reversals := db.returnReversals.filter (reversedOn companyId branchId day)
  { gross := (reversals.map ReturnReversal.grossRefund).sum
    adjustments := (reversals.map ReturnReversal.adjustmentTotal).sum
    cogsCredited := (reversals.map ReturnReversal.lineCost).sum
    count := reversals.length }

structure PaidTotals where
  total : Int
  cash : Int
  count : Nat

def refundedOn (companyId branchId : Id) (day : Day) (payout : RefundPayout) : Bool :=
  payout.companyId = companyId ∧ payout.branchId = branchId ∧ payout.status = .confirmed ∧
    payout.confirmationDate = some day

def refundTotals (db : Db) (companyId branchId : Id) (day : Day) : PaidTotals :=
  let payouts := db.refundPayouts.filter (refundedOn companyId branchId day)
  { total := (payouts.map RefundPayout.reportedAmount).sum
    cash := ((payouts.filter (fun payout => payout.method = .cash)).map
      RefundPayout.reportedAmount).sum
    count := payouts.length }

def correctedOn (companyId branchId : Id) (day : Day) (correction : FinancialCorrection) : Bool :=
  correction.companyId = companyId ∧ correction.branchId = branchId ∧
    correction.status = .approved ∧ correction.correctionDate = some day

def correctionTotals (db : Db) (companyId branchId : Id) (day : Day) : PaidTotals :=
  let corrections := db.financialCorrections.filter (correctedOn companyId branchId day)
  { total := (corrections.map FinancialCorrection.amount).sum
    cash := ((corrections.filter (fun correction => correction.method = .cash)).map
      FinancialCorrection.amount).sum
    count := corrections.length }

def figuresOf (sales : SalesTotals) (spent : ExpenseTotals) (returned : ReturnTotals)
    (refunded corrected : PaidTotals) : DayFigures :=
  let grossProfit := sales.revenue - sales.cogs
  let returnsGrossProfit := returned.gross - returned.adjustments - returned.cogsCredited
  { revenue := sales.revenue
    cogs := sales.cogs
    grossProfit
    salesCount := sales.salesCount
    qtySold := sales.qtySold
    expenses := spent.expenses
    netProfit := grossProfit - returnsGrossProfit - spent.expenses
    returnsRevenue := returned.gross
    returnsCogs := returned.cogsCredited
    returnsAdjustments := returned.adjustments
    returnsGrossProfit
    returnsCount := returned.count
    refundsPaidTotal := refunded.total
    refundsPaidCash := refunded.cash
    refundsPaidCount := refunded.count
    correctionsTotal := corrected.total
    correctionsCash := corrected.cash
    correctionsCount := corrected.count
    expensesCash := spent.cash
    expensesCount := spent.count
    expensesFixed := spent.fixed
    expensesSalary := spent.salary }

/-- The figures of the branch-day, when nobody writes between the queries. -/
def dayFigures (db : Db) (companyId branchId : Id) (day : Day) : DayFigures :=
  figuresOf (salesTotals db companyId branchId day) (expenseTotals db companyId branchId day)
    (returnTotals db companyId branchId day) (refundTotals db companyId branchId day)
    (correctionTotals db companyId branchId day)

def rollupOn (db : Db) (branchId : Id) (day : Day) : Option DailyRollup :=
  db.dailyRollups.rows.find? (fun rollup => rollup.branchId = branchId ∧ rollup.day = day)

def refreshed (figures : DayFigures) (now : Time) (rollup : DailyRollup) : DailyRollup :=
  { rollup with toDayFigures := figures, refreshedAt := now }

theorem refreshed_id (figures : DayFigures) (now : Time) (rollup : DailyRollup) :
    (refreshed figures now rollup).id = rollup.id := rfl

/-- `upsert` on branch and day; the system client adds no company to the key. -/
def upsertRollup (companyId branchId : Id) (day : Day) (now : Time) (id : Id)
    (figures : DayFigures) (db : Db) : Except Refusal Db :=
  match rollupOn db branchId day with
  | some rollup =>
      .ok { db with
        dailyRollups := db.dailyRollups.update rollup.id (refreshed figures now)
          (refreshed_id figures now) }
  | none =>
      match db.dailyRollups.insert?
          { toDayFigures := figures, id, companyId, branchId, day, refreshedAt := now } with
      | none => .error (.unique "PRIMARY")
      | some dailyRollups => .ok { db with dailyRollups }

def recomputeDaily {M : Type} (m : M) (companyId branchId : Id) (day : Day) (now : Time)
    (id : Id) : Prog Db M Refusal Unit := do
  let sales ← .read m (fun db => salesTotals db companyId branchId day)
  let spent ← .read m (fun db => expenseTotals db companyId branchId day)
  let returned ← .read m (fun db => returnTotals db companyId branchId day)
  let refunded ← .read m (fun db => refundTotals db companyId branchId day)
  let corrected ← .read m (fun db => correctionTotals db companyId branchId day)
  .commit m (upsertRollup companyId branchId day now id
    (figuresOf sales spent returned refunded corrected))

theorem upsertRollup_ok (companyId branchId : Id) (day : Day) (now : Time) (id : Id)
    (figures : DayFigures) (db db' : Db)
    (done : upsertRollup companyId branchId day now id figures db = .ok db') :
    ∃ dailyRollups, db' = { db with dailyRollups } := by
  unfold upsertRollup at done
  split at done
  · cases done
    exact ⟨_, rfl⟩
  · split at done
    · cases done
    · cases done
      exact ⟨_, rfl⟩

theorem upsertRollup_of (companyId branchId : Id) (day : Day) (now : Time) (id : Id)
    (figures : DayFigures) (db : Db) (fresh : db.dailyRollups.find? id = none) :
    ∃ dailyRollups, upsertRollup companyId branchId day now id figures db =
      .ok { db with dailyRollups } := by
  unfold upsertRollup
  split
  · exact ⟨_, rfl⟩
  · have unused : id ∉ db.dailyRollups.rows.map DailyRollup.id := by
      intro member
      obtain ⟨row, present, keyed⟩ := List.mem_map.mp member
      exact (Table.find?_none _ _).mp fresh row present keyed
    obtain ⟨dailyRollups, inserted⟩ := Table.insert?_of_fresh db.dailyRollups
      { toDayFigures := figures, id, companyId, branchId, day, refreshedAt := now } unused
    exact ⟨dailyRollups, by rw [inserted]⟩

section Recompute

variable {M α : Type} (m : M) (companyId branchId : Id) (day : Day) (now : Time) (id : Id)
  (f : Unit → Prog Db M Refusal α) (db : Db)

theorem ensures_recompute (post : Db → Except Refusal α → Prop)
    (rest : ∀ dailyRollups, Prog.Ensures (f ()) post { db with dailyRollups })
    (fails : ∀ e, post db (.error e)) :
    Prog.Ensures (recomputeDaily m companyId branchId day now id >>= f) post db := by
  unfold recomputeDaily
  simp only [Prog.bind_assoc, Prog.ensures_read, Prog.ensures_commit]
  constructor
  · intro db' done
    obtain ⟨dailyRollups, rfl⟩ := upsertRollup_ok _ _ _ _ _ _ _ _ done
    exact rest dailyRollups
  · exact fun e _ => fails e

theorem grants_recompute (fresh : db.dailyRollups.find? id = none)
    (rest : ∀ dailyRollups, Prog.Grants (f ()) { db with dailyRollups }
      { db with dailyRollups }) :
    ∃ dailyRollups, Prog.Grants (recomputeDaily m companyId branchId day now id >>= f) db
      { db with dailyRollups } := by
  obtain ⟨dailyRollups, done⟩ := upsertRollup_of companyId branchId day now id
    (dayFigures db companyId branchId day) db fresh
  refine ⟨dailyRollups, ?_⟩
  unfold recomputeDaily
  simp only [Prog.bind_assoc]
  apply Prog.grants_read
  apply Prog.grants_read
  apply Prog.grants_read
  apply Prog.grants_read
  apply Prog.grants_read
  exact Prog.grants_commit _ _ _ done (rest dailyRollups)

end Recompute

end ErpBackend.Analytics
