import ErpBackend.Analytics.Rollup
import ErpBackend.Foundation.Protocol

/-!
# SummaryService

What a shop earned in a window of days, and what moved. The trading figures are
the day rollups added up; the profit is then worked out by rules of its own,
which know nothing of what was withheld from a refund.
-/

namespace ErpBackend.Analytics

open Foundation

structure ProfitInput where
  grossSales : Int
  returnsRevenue : Int
  cogs : Int
  returnsCogs : Int
  expenses : Int

structure ProfitBreakdown where
  grossSales : Int
  returnsRevenue : Int
  netRevenue : Int
  cogs : Int
  returnsCogs : Int
  netCogs : Int
  grossProfit : Int
  expenses : Int
  netOperatingProfit : Int

def profit (input : ProfitInput) : ProfitBreakdown :=
  let netRevenue := input.grossSales - input.returnsRevenue
  let netCogs := input.cogs - input.returnsCogs
  let grossProfit := netRevenue - netCogs
  { grossSales := input.grossSales
    returnsRevenue := input.returnsRevenue
    netRevenue
    cogs := input.cogs
    returnsCogs := input.returnsCogs
    netCogs
    grossProfit
    expenses := input.expenses
    netOperatingProfit := grossProfit - input.expenses }

structure CashInput where
  salesReceived : Int
  refundsPaid : Int
  supplierPaymentsConfirmed : Int
  expensesCash : Int
  otherOutflows : Int

structure CashMovement where
  inflow : Int
  outflow : Int
  net : Int

def cashMovement (input : CashInput) : CashMovement :=
  let outflow := input.refundsPaid + input.supplierPaymentsConfirmed + input.expensesCash +
    input.otherOutflows
  { inflow := input.salesReceived
    outflow
    net := input.salesReceived - outflow }

inductive Comparison where
  | available (previous change : Int) (changePercent : Rat)
  | unavailable

def compare (current previous : Int) : Comparison :=
  if previous = 0 then .unavailable
  else
    let change := current - previous
    .available previous change ((change : Rat) / previous.natAbs * 100)

def precedingPeriod (first last : Int) : Int × Int :=
  let days := last - first + 1
  let prevTo := first - 1
  (prevTo - (days - 1), prevTo)

structure PeriodTotals where
  revenue : Int
  cogs : Int
  expenses : Int
  expensesCash : Int
  expensesFixed : Int
  expensesSalary : Int
  expensesCount : Nat
  returnsRevenue : Int
  returnsCogs : Int
  refundsPaid : Int
  correctionsCash : Int
  days : Nat

/-- The rollups of the company, or of one of its branches, from the first day to the last. -/
def rollupsIn (db : Db) (companyId : Id) (branchId : Option Id) (first last : Int) :
    List DailyRollup :=
  db.dailyRollups.filter (fun rollup => rollup.companyId = companyId ∧
    first ≤ rollup.day ∧ (rollup.day : Int) ≤ last ∧ ∀ branch ∈ branchId, rollup.branchId = branch)

/-- `pick` summed over rollups. -/
def sumOf (pick : DayFigures → Int) (rows : List DailyRollup) : Int :=
  (rows.map (fun row => pick row.toDayFigures)).sum

def rollupTotals (rows : List DailyRollup) : PeriodTotals where
  revenue := sumOf DayFigures.revenue rows
  cogs := sumOf DayFigures.cogs rows
  expenses := sumOf DayFigures.expenses rows
  expensesCash := sumOf DayFigures.expensesCash rows
  expensesFixed := sumOf DayFigures.expensesFixed rows
  expensesSalary := sumOf DayFigures.expensesSalary rows
  expensesCount := (rows.map (fun row => row.expensesCount)).sum
  returnsRevenue := sumOf DayFigures.returnsRevenue rows
  returnsCogs := sumOf DayFigures.returnsCogs rows
  refundsPaid := sumOf DayFigures.refundsPaidTotal rows
  correctionsCash := sumOf DayFigures.correctionsCash rows
  days := rows.length

def profitOf (totals : PeriodTotals) : ProfitBreakdown :=
  profit
    { grossSales := totals.revenue
      returnsRevenue := totals.returnsRevenue
      cogs := totals.cogs
      returnsCogs := totals.returnsCogs
      expenses := totals.expenses }

structure Balances where
  loansReceivable : Int
  loansPayable : Int
  consignmentBalance : Int

def loanEffect (entry : LoanLedgerEntry) : Int := Loans.balanceEffect entry.kind * entry.amount

def loansRemaining (db : Db) (companyId : Id) (direction : Loans.Direction) : Int :=
  ((db.loans.filter (fun loan => loan.companyId = companyId ∧ loan.direction = direction)).map
    (fun loan => ((db.loanLedger.filter (fun entry => entry.loanId = loan.id)).map
      loanEffect).sum)).sum

def consignmentEffect (entry : ConsignmentLedgerEntry) : Int :=
  Consignments.balanceEffect entry.kind * entry.amount

def balances (db : Db) (companyId : Id) : Balances where
  loansReceivable := loansRemaining db companyId .theyOweUs
  loansPayable := loansRemaining db companyId .weOweThem
  consignmentBalance := ((db.consignmentLedger.filter (fun entry =>
    entry.sourceCompanyId = companyId)).map consignmentEffect).sum

structure OpenDiscrepancies where
  number : Nat
  total : Int

def openDiscrepancies (db : Db) (companyId : Id) : OpenDiscrepancies :=
  let rows := db.closingDiscrepancies.filter (fun row =>
    row.companyId = companyId ∧ row.resolvedAt = none)
  ⟨rows.length, (rows.map ClosingDiscrepancy.amount).sum⟩

structure PeriodCash extends CashMovement where
  salesReceived : Int
  refundsPaid : Int
  supplierPaymentsConfirmed : Int
  expensesCash : Int

structure ExpenseDetail where
  total : Int
  fixed : Int
  salaries : Int
  count : Nat

structure PeriodComparison where
  period : Int × Int
  netRevenue : Comparison
  grossProfit : Comparison
  netOperatingProfit : Comparison

structure PeriodSummary where
  first : Int
  last : Int
  profit : ProfitBreakdown
  cash : PeriodCash
  expenseDetail : ExpenseDetail
  balances : Balances
  discrepancies : OpenDiscrepancies
  comparison : PeriodComparison
  unavailable : List String

def cashOf (current : PeriodTotals) : PeriodCash where
  toCashMovement := cashMovement
    { salesReceived := current.revenue
      refundsPaid := current.refundsPaid
      supplierPaymentsConfirmed := current.correctionsCash
      expensesCash := current.expensesCash
      otherOutflows := 0 }
  salesReceived := current.revenue
  refundsPaid := current.refundsPaid
  supplierPaymentsConfirmed := current.correctionsCash
  expensesCash := current.expensesCash

def unavailable : List String :=
  ["refund_liability", "supplier_liability", "commissions_and_fees",
    "per_channel_expected_movement", "unattributed_legacy_payments"]

/-- `first` and `last` are days counted from 1970-01-01. -/
def forPeriod {M : Type} (m : M) (ctx : Ctx) (first last : Int) :
    Prog Db M Refusal PeriodSummary := do
  let previousPeriod := precedingPeriod first last
  let current ← .read m (fun db =>
    rollupTotals (rollupsIn db ctx.companyId ctx.branchId first last))
  let previous ← .read m (fun db =>
    rollupTotals (rollupsIn db ctx.companyId ctx.branchId previousPeriod.1 previousPeriod.2))
  let owed ← .read m (fun db => balances db ctx.companyId)
  let discrepancies ← .read m (fun db => openDiscrepancies db ctx.companyId)
  let now := profitOf current
  let before := profitOf previous
  pure
    { first
      last
      profit := now
      cash := cashOf current
      expenseDetail :=
        ⟨current.expenses, current.expensesFixed, current.expensesSalary, current.expensesCount⟩
      balances := owed
      discrepancies
      comparison :=
        { period := previousPeriod
          netRevenue := compare now.netRevenue before.netRevenue
          grossProfit := compare now.grossProfit before.grossProfit
          netOperatingProfit := compare now.netOperatingProfit before.netOperatingProfit }
      unavailable }

/-- Worked out from the five queries of a branch-day, whenever each of them ran. -/
def Recomputed (figures : DayFigures) : Prop :=
  ∃ sales spent returned refunded corrected,
    figures = figuresOf sales spent returned refunded corrected

theorem Recomputed.netProfit {figures : DayFigures} (recomputed : Recomputed figures) :
    figures.netProfit = figures.revenue - figures.cogs -
      (figures.returnsRevenue - figures.returnsAdjustments - figures.returnsCogs) -
        figures.expenses := by
  obtain ⟨sales, spent, returned, refunded, corrected, rfl⟩ := recomputed
  rfl

def AllRecomputed (db : Db) : Prop :=
  ∀ rollup ∈ db.dailyRollups.rows, Recomputed rollup.toDayFigures

theorem upsertRollup_recomputed (companyId branchId : Id) (day : Day) (now : Time) (id : Id)
    (figures : DayFigures) (recomputed : Recomputed figures) (db db' : Db)
    (all : AllRecomputed db)
    (done : upsertRollup companyId branchId day now id figures db = .ok db') :
    AllRecomputed db' := by
  unfold upsertRollup at done
  split at done
  · cases done
    intro rollup member
    rcases (Table.mem_update _ _ _ (refreshed_id figures now) _).mp member with
      ⟨old, -⟩ | ⟨old, -, rfl⟩
    · exact all rollup old
    · exact recomputed
  · split at done
    · cases done
    · next dailyRollups inserted =>
      cases done
      intro rollup member
      rcases List.mem_append.mp ((Table.insert?_some _ _ _ inserted).1 ▸ member) with old | new
      · exact all rollup old
      · rw [List.mem_singleton.mp new]
        exact recomputed

section Runs

variable {M : Type}

/-- Days are recomputed, and whatever else goes on leaves the stored rollups alone. -/
inductive Recomputing : Prog Db M Refusal Unit → Prop
  | recompute (m : M) (companyId branchId : Id) (day : Day) (now : Time) (id : Id) :
      Recomputing (recomputeDaily m companyId branchId day now id)
  | elsewhere (p : Prog Db M Refusal Unit)
      (leaves : p.Walks (fun _ db db' _ => db'.dailyRollups = db.dailyRollups)) : Recomputing p

def recomputing : Discipline Db M where
  inv := AllRecomputed
  guar _ _ _ := True
  rely _ _ _ := True
  rely_refl _ _ := trivial
  rely_trans _ _ _ _ _ _ := trivial

theorem safe_elsewhere (p : Prog Db M Refusal Unit)
    (leaves : p.Walks (fun _ db db' _ => db'.dailyRollups = db.dailyRollups)) (db : Db) :
    recomputing.Safe p db := by
  induction p generalizing db with
  | done result => trivial
  | step m write next ih =>
      intro db' _ all
      obtain ⟨same, rest⟩ := leaves db'
      refine ⟨?_, trivial, ih db' rest _⟩
      intro rollup member
      rw [same] at member
      exact all rollup member

theorem safe_recompute (m : M) (companyId branchId : Id) (day : Day) (now : Time) (id : Id)
    (db : Db) : recomputing.Safe (recomputeDaily m companyId branchId day now id) db := by
  unfold recomputeDaily
  apply Discipline.safe_read
  refine fun _ _ _ => ⟨trivial, ?_⟩
  apply Discipline.safe_read
  refine fun _ _ _ => ⟨trivial, ?_⟩
  apply Discipline.safe_read
  refine fun _ _ _ => ⟨trivial, ?_⟩
  apply Discipline.safe_read
  refine fun _ _ _ => ⟨trivial, ?_⟩
  apply Discipline.safe_read
  refine fun _ _ _ => ⟨trivial, ?_⟩
  rw [← Prog.bind_pure (Prog.commit _ _)]
  apply Discipline.safe_commit
  · intro db' _ all db'' done
    refine ⟨?_, trivial, trivial⟩
    exact upsertRollup_recomputed _ _ _ _ _ _ ⟨_, _, _, _, _, rfl⟩ _ _ all done
  · exact fun _ => trivial

theorem run_recomputed (db : Db) (all : AllRecomputed db) (c : Config Db M Refusal Unit)
    (run : Run Recomputing anyOrder (.idle db) c) : AllRecomputed c.store := by
  have safe : ∀ p : Prog Db M Refusal Unit, Recomputing p → ∀ db, AllRecomputed db →
      recomputing.Safe p db := by
    intro p issued db _
    cases issued with
    | recompute m companyId branchId day now id =>
        exact safe_recompute m companyId branchId day now id db
    | elsewhere _ leaves => exact safe_elsewhere p leaves db
  have sound := recomputing.run_sound Recomputing anyOrder safe (fun _ _ _ _ _ _ _ => trivial) _ _
    run (recomputing.sound_idle db all)
  exact sound.1

end Runs

theorem netProfit_sum (rows : List DailyRollup)
    (recomputed : ∀ row ∈ rows, Recomputed row.toDayFigures) :
    sumOf DayFigures.netProfit rows =
      (profitOf (rollupTotals rows)).netOperatingProfit +
        sumOf DayFigures.returnsAdjustments rows := by
  induction rows with
  | nil => rfl
  | cons row rest ih =>
      have own := (recomputed row (List.mem_cons_self ..)).netProfit
      have others := ih (fun other member => recomputed other (List.mem_cons_of_mem _ member))
      simp only [profitOf, profit, rollupTotals, sumOf, List.map_cons, List.sum_cons] at others ⊢
      omega

theorem forPeriod_run {M : Type} (m : M) (ctx : Ctx) (first last : Int) (db : Db) :
    ∃ summary, (forPeriod m ctx first last).run db = (db, .ok summary) ∧
      summary.profit = profitOf (rollupTotals
        (rollupsIn db ctx.companyId ctx.branchId first last)) :=
  ⟨_, rfl, rfl⟩

/-- The profit of a period is what its days' profits add up to, exactly when nothing was
withheld from the refunds of its days. -/
theorem period_profit_iff {M : Type} (db : Db) (all : AllRecomputed db)
    (c : Config Db M Refusal Unit) (run : Run Recomputing anyOrder (.idle db) c) (m : M) (ctx : Ctx)
    (first last : Int) :
    ∃ summary, (forPeriod m ctx first last).run c.store = (c.store, .ok summary) ∧
      (summary.profit.netOperatingProfit =
          sumOf DayFigures.netProfit (rollupsIn c.store ctx.companyId ctx.branchId first last) ↔
        sumOf DayFigures.returnsAdjustments
          (rollupsIn c.store ctx.companyId ctx.branchId first last) = 0) := by
  obtain ⟨summary, answer, read⟩ := forPeriod_run m ctx first last c.store
  refine ⟨summary, answer, ?_⟩
  have recomputed := run_recomputed db all c run
  have total := netProfit_sum (rollupsIn c.store ctx.companyId ctx.branchId first last)
    (fun row member => recomputed row ((Table.mem_filter _ _ _).mp member).1)
  rw [read, total]
  constructor
  · intro same
    omega
  · intro nothing
    rw [nothing, add_zero]

/-- A phone of 500.00 that cost 300.00 came back; 20.00 were withheld for its protector. -/
def protectorKept : Db where
  returnReversals := ⟨[
    { id := 800
      companyId := 10
      branchId := 1
      saleId := 500
      saleItemId := 510
      unitId := 300
      returnRequestId := 700
      lineRevenue := 50000
      lineCost := 30000
      lineMargin := 20000
      grossRefund := 50000
      adjustmentTotal := 2000
      netRefundDue := 48000
      approvalDate := 40
      approvedById := some 7 }], by decide⟩

def owner : Ctx where
  companyId := 10
  branchId := some 1
  userId := some 7
  now := 0

def recomputeDay : Prog Db Unit Refusal Unit := recomputeDaily () 10 1 40 0 900

def recomputedDay : Config Db Unit Refusal Unit :=
  (Config.idle protectorKept).schedule (.arrive recomputeDay :: List.replicate 6 (.advance 0))

theorem recomputedDay_run : Run Recomputing anyOrder (.idle protectorKept) recomputedDay := by
  apply schedule_run
  · intro p member
    simp only [List.mem_cons, List.mem_replicate, Move.arrive.injEq, reduceCtorEq, and_false,
      or_false] at member
    rw [member]
    exact .recompute ..
  · exact admits_anyOrder _ _

theorem none_recomputed : AllRecomputed protectorKept := by
  intro rollup member
  cases member

theorem withheld_left_out :
    ¬ ∀ (db : Db), AllRecomputed db → ∀ c : Config Db Unit Refusal Unit,
      Run Recomputing anyOrder (.idle db) c → ∀ (ctx : Ctx) (first last : Int) summary,
        (forPeriod () ctx first last).run c.store = (c.store, .ok summary) →
          summary.profit.netOperatingProfit = sumOf DayFigures.netProfit
            (rollupsIn c.store ctx.companyId ctx.branchId first last) := by
  intro claim
  obtain ⟨summary, answer, read⟩ := forPeriod_run () owner 40 40 recomputedDay.store
  have same := claim protectorKept none_recomputed recomputedDay recomputedDay_run owner 40 40
    summary answer
  rw [read] at same
  exact absurd same (by decide)

theorem period_profit_iff_protector :
    ∃ summary, (forPeriod () owner 40 40).run recomputedDay.store =
        (recomputedDay.store, .ok summary) ∧
      (summary.profit.netOperatingProfit =
          sumOf DayFigures.netProfit (rollupsIn recomputedDay.store 10 (some 1) 40 40) ↔
        sumOf DayFigures.returnsAdjustments (rollupsIn recomputedDay.store 10 (some 1) 40 40) =
          0) :=
  period_profit_iff protectorKept none_recomputed recomputedDay recomputedDay_run () owner 40 40

end ErpBackend.Analytics
