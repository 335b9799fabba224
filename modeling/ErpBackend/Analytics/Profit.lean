import ErpBackend.Returns.Refundable

/-!
# The day's profit

A return is in the profit through its reversal, on the day it was approved. The payouts
and the corrections of its refund are in the cash figures only.
-/

namespace ErpBackend.Analytics

open Foundation Inventory

structure Income where
  revenue : Int
  cogs : Int
  grossProfit : Int
  expenses : Int
  netProfit : Int
  returnsRevenue : Int
  returnsCogs : Int
  returnsAdjustments : Int
  returnsGrossProfit : Int
  deriving DecidableEq

def incomeOf (figures : DayFigures) : Income where
  revenue := figures.revenue
  cogs := figures.cogs
  grossProfit := figures.grossProfit
  expenses := figures.expenses
  netProfit := figures.netProfit
  returnsRevenue := figures.returnsRevenue
  returnsCogs := figures.returnsCogs
  returnsAdjustments := figures.returnsAdjustments
  returnsGrossProfit := figures.returnsGrossProfit

def income (db : Db) (companyId branchId : Id) (day : Day) : Income :=
  incomeOf (dayFigures db companyId branchId day)

def netProfit (db : Db) (companyId branchId : Id) (day : Day) : Int :=
  (income db companyId branchId day).netProfit

theorem income_congr {db db' : Db} (sales : db'.sales = db.sales)
    (lines : db'.saleItems = db.saleItems) (reversals : db'.returnReversals = db.returnReversals)
    (expenses : db'.expenses = db.expenses) (companyId branchId : Id) (day : Day) :
    income db' companyId branchId day = income db companyId branchId day := by
  unfold income dayFigures salesTotals soldOn expenseTotals returnTotals
  rw [sales, lines, reversals, expenses]
  rfl

theorem income_of_counted {db db' : Db} {companyId branchId : Id} {day : Day}
    (sold : db'.saleItems.filter (soldOn db' companyId branchId day) =
      db.saleItems.filter (soldOn db companyId branchId day))
    (reversed : db'.returnReversals.filter (reversedOn companyId branchId day) =
      db.returnReversals.filter (reversedOn companyId branchId day))
    (spent : db'.expenses.filter (spentOn companyId branchId day) =
      db.expenses.filter (spentOn companyId branchId day)) :
    income db' companyId branchId day = income db companyId branchId day := by
  unfold income dayFigures salesTotals expenseTotals returnTotals
  simp only [sold, reversed, spent]
  rfl

/-- What a reversal takes out of the profit: the margin of its line, less what was
withheld. -/
def reversedProfit (reversal : ReturnReversal) : Int :=
  reversal.grossRefund - reversal.adjustmentTotal - reversal.lineCost

def soldMargin (db : Db) (companyId branchId : Id) (day : Day) : Int :=
  ((db.saleItems.filter (soldOn db companyId branchId day)).map (fun item =>
    lineRevenue item - lineCost item)).sum

def returnedProfit (db : Db) (companyId branchId : Id) (day : Day) : Int :=
  ((db.returnReversals.filter (reversedOn companyId branchId day)).map reversedProfit).sum

theorem netProfit_eq (db : Db) (companyId branchId : Id) (day : Day) :
    netProfit db companyId branchId day =
      soldMargin db companyId branchId day - returnedProfit db companyId branchId day -
        (income db companyId branchId day).expenses := by
  unfold soldMargin returnedProfit reversedProfit
  rw [sum_map_sub, sum_map_sub, sum_map_sub]
  rfl

def reversedIn (companyId branchId : Id) (days : Finset Day) (reversal : ReturnReversal) : Bool :=
  reversal.companyId = companyId ∧ reversal.branchId = branchId ∧ reversal.approvalDate ∈ days

theorem sum_reversedOn (companyId branchId : Id) (days : Finset Day)
    (reversal : ReturnReversal) (value : Int) :
    ∑ day ∈ days, (if reversedOn companyId branchId day reversal then value else 0) =
      if reversedIn companyId branchId days reversal then value else 0 := by
  by_cases mine : reversal.companyId = companyId ∧ reversal.branchId = branchId
  · simp [reversedOn, reversedIn, mine]
  · have other : ∀ day, reversedOn companyId branchId day reversal = false := by
      intro day
      apply decide_eq_false
      rintro ⟨company, branch, -⟩
      exact mine ⟨company, branch⟩
    have none : reversedIn companyId branchId days reversal = false := by
      apply decide_eq_false
      rintro ⟨company, branch, -⟩
      exact mine ⟨company, branch⟩
    simp [other, none]

theorem sum_total {α κ : Type} {key : α → κ} (t : Table α key) (days : Finset Day)
    (g : Day → α → Int) :
    ∑ day ∈ days, t.total (g day) = t.total (fun a => ∑ day ∈ days, g day a) := by
  unfold Table.total
  induction t.rows with
  | nil => simp
  | cons head tail ih => simp only [List.map_cons, List.sum_cons, Finset.sum_add_distrib, ih]

theorem sum_returnedProfit (db : Db) (companyId branchId : Id) (days : Finset Day) :
    ∑ day ∈ days, returnedProfit db companyId branchId day =
      ((db.returnReversals.filter (reversedIn companyId branchId days)).map
        reversedProfit).sum := by
  unfold returnedProfit
  simp only [Table.sum_filter]
  rw [sum_total]
  apply Table.total_congr
  intro reversal _
  exact sum_reversedOn companyId branchId days reversal (reversedProfit reversal)

theorem sum_netProfit (db : Db) (companyId branchId : Id) (days : Finset Day) :
    ∑ day ∈ days, netProfit db companyId branchId day =
      ∑ day ∈ days, soldMargin db companyId branchId day -
        ((db.returnReversals.filter (reversedIn companyId branchId days)).map reversedProfit).sum -
        ∑ day ∈ days, (income db companyId branchId day).expenses := by
  rw [← sum_returnedProfit, ← Finset.sum_sub_distrib, ← Finset.sum_sub_distrib]
  exact Finset.sum_congr rfl (fun day _ => netProfit_eq db companyId branchId day)

theorem reversal_counted {approvals : Prop} {db db' : Db}
    (moved : Returns.Movement approvals db db') (companyId branchId : Id)
    (reversal : ReturnReversal) (added : reversal ∈ db'.returnReversals.rows)
    (new : reversal ∉ db.returnReversals.rows) (days : Finset Day) :
    ∑ day ∈ days, netProfit db' companyId branchId day =
      ∑ day ∈ days, netProfit db companyId branchId day -
        if reversedIn companyId branchId days reversal then reversedProfit reversal else 0 := by
  cases moved with
  | elsewhere _ kept => exact absurd (kept.reversals ▸ added) new
  | sell saleDiscount sale _ enters =>
      cases enters
      exact absurd added new
  | reverse own request item returnRequests returnReversals units handled requested sale claimed
      line gross nonneg fits net cost once inserted =>
      change reversal ∈ returnReversals.rows at added
      rw [(Table.insert?_some _ _ _ inserted).1, List.mem_append, List.mem_singleton] at added
      obtain rfl : reversal = own := added.resolve_left new
      rw [sum_netProfit, sum_netProfit, Table.sum_filter, Table.sum_filter,
        Table.total_insert _ _ _ inserted]
      have sold : ∀ day, soldMargin { db with returnRequests, returnReversals, units }
          companyId branchId day = soldMargin db companyId branchId day := fun _ => rfl
      have spent : ∀ day, (income { db with returnRequests, returnReversals, units }
          companyId branchId day).expenses = (income db companyId branchId day).expenses :=
        fun _ => rfl
      simp only [sold, spent]
      omega
  | _ => exact absurd added new

theorem refund_leaves_income {approvals : Prop} {db db' : Db}
    (moved : Returns.Movement approvals db db')
    (touched : db'.refundPayouts ≠ db.refundPayouts ∨
      db'.financialCorrections ≠ db.financialCorrections)
    (companyId branchId : Id) (day : Day) :
    income db' companyId branchId day = income db companyId branchId day := by
  cases moved with
  | elsewhere _ kept =>
      rcases touched with paid | corrected
      · exact absurd kept.payouts paid
      · exact absurd kept.corrections corrected
  | sell saleDiscount sale _ enters =>
      cases enters
      rcases touched with paid | corrected
      · exact absurd rfl paid
      · exact absurd rfl corrected
  | reverse =>
      rcases touched with paid | corrected
      · exact absurd rfl paid
      · exact absurd rfl corrected
  | _ => exact income_congr rfl rfl rfl rfl companyId branchId day

theorem profit_over_runs (db : Db) (c : Config Db Mark Refusal Unit)
    (run : Returns.WorkflowRun (.idle db) c) (companyId branchId : Id) :
    (∀ days : Finset Day, ∑ day ∈ days, netProfit c.store companyId branchId day =
      ∑ day ∈ days, soldMargin c.store companyId branchId day -
        ((c.store.returnReversals.filter (reversedIn companyId branchId days)).map
          reversedProfit).sum -
        ∑ day ∈ days, (income c.store companyId branchId day).expenses) ∧
    ∀ c', Step (Returns.Issued True) anyOrder c c' →
      (∀ reversal ∈ c.store.returnReversals.rows, reversal ∈ c'.store.returnReversals.rows) ∧
      (∀ reversal ∈ c'.store.returnReversals.rows, reversal ∉ c.store.returnReversals.rows →
        ∀ days : Finset Day, ∑ day ∈ days, netProfit c'.store companyId branchId day =
          ∑ day ∈ days, netProfit c.store companyId branchId day -
            if reversedIn companyId branchId days reversal then reversedProfit reversal else 0) ∧
      ((c'.store.refundPayouts ≠ c.store.refundPayouts ∨
          c'.store.financialCorrections ≠ c.store.financialCorrections) →
        ∀ day, income c'.store companyId branchId day = income c.store companyId branchId day) := by
  refine ⟨sum_netProfit c.store companyId branchId, fun c' taken => ?_⟩
  have moved := Returns.step_moves c c' (Returns.run_workflow db c run) taken
  refine ⟨fun reversal there => ?_, fun reversal added new => ?_, fun touched => ?_⟩
  · exact Table.mem_of_find? _ _ _ (moved.later.reversal reversal.id reversal
      ((Table.find?_some _ _ _).mpr ⟨there, rfl⟩))
  · exact reversal_counted moved companyId branchId reversal added new
  · exact refund_leaves_income moved touched companyId branchId

/-- A phone sold and returned on the same day. -/
theorem profit_over_runs_returned :
    ∃ c, Returns.WorkflowRun (.idle Returns.stall) c ∧
      c.store.returnReversals.rows.map (fun reversal =>
        (reversal.id, reversal.approvalDate, reversedProfit reversal)) = [(700, 0, 40000)] ∧
      soldMargin c.store 10 1 0 = 40000 ∧
      ∑ day ∈ ({0} : Finset Day), netProfit c.store 10 1 day =
        ∑ day ∈ ({0} : Finset Day), soldMargin c.store 10 1 day -
          ((c.store.returnReversals.filter (reversedIn 10 1 {0})).map reversedProfit).sum -
          ∑ day ∈ ({0} : Finset Day), (income c.store 10 1 day).expenses := by
  have run := Returns.soldAndReturned_run [] ⟨90000, by decide⟩
  exact ⟨_, run, by decide +kernel, by decide +kernel,
    (profit_over_runs Returns.stall _ run 10 1).1 {0}⟩

end ErpBackend.Analytics
