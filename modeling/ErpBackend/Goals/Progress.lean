import ErpBackend.Analytics.Profit
import ErpBackend.Analytics.Window

/-!
# GoalsService.achieved

Progress is derived on every read. A branch reads a column of its day rollups; a person,
for whom there is no rollup, the lines of the sales that person made.
-/

namespace ErpBackend.Goals

open Foundation Analytics
open Inventory (Mark)

inductive GoalMetric where
  | grossProfit
  | revenue
  | salesCount
  | unitsSold
  deriving DecidableEq, Repr

inductive GoalScope where
  | company
  | branch
  | user
  deriving DecidableEq, Repr

/-- What `achieved` reads of a goal. -/
structure Goal where
  scope : GoalScope
  branchId : Option Id
  targetUserId : Option Id

def metricColumn : GoalMetric → DayFigures → Int
  | .grossProfit => DayFigures.grossProfit
  | .revenue => DayFigures.revenue
  | .salesCount => fun figures => figures.salesCount
  | .unitsSold => DayFigures.qtySold

/-- `CASE metric`, of one line. -/
def lineFigure : GoalMetric → SaleItem → Int
  | .grossProfit => fun item => lineRevenue item - lineCost item
  | .revenue => lineRevenue
  | .salesCount => fun _ => 0
  | .unitsSold => SaleItem.quantity

def madeBy (goal : Goal) (first last : Int) (sale : Sale) : Bool :=
  goal.branchId = some sale.branchId ∧ goal.targetUserId = some sale.userId ∧
    first ≤ dayKey sale.soldAt ∧ (dayKey sale.soldAt : Int) ≤ last

def personalLines (db : Db) (companyId : Id) (goal : Goal) (first last : Int) : List SaleItem :=
  db.saleItems.filter (fun item => item.companyId = companyId ∧ item.voided = false ∧
    (db.sales.find? item.saleId).any (madeBy goal first last))

def personalSales (db : Db) (companyId : Id) (goal : Goal) (first last : Int) : List Sale :=
  db.sales.filter (fun sale => sale.companyId = companyId ∧ madeBy goal first last sale)

def achieved {M : Type} (m : M) (ctx : Ctx) (goal : Goal) (metric : GoalMetric)
    (first last : Int) : Prog Db M Refusal Int :=
  if goal.scope ≠ .user then
    .read m (fun db => sumOf (metricColumn metric)
      (rollupsIn db ctx.companyId goal.branchId first last))
  else do
    let total ← .read m (fun db =>
      ((personalLines db ctx.companyId goal first last).map (lineFigure metric)).sum)
    if metric = .salesCount then
      .read m (fun db => ((personalSales db ctx.companyId goal first last).length : Int))
    else pure total

def branchGoal (branchId : Id) : Goal := ⟨.branch, some branchId, none⟩

def personalGoal (branchId userId : Id) : Goal := ⟨.user, some branchId, some userId⟩

def personalFigure (db : Db) (companyId : Id) (goal : Goal) (metric : GoalMetric)
    (first last : Int) : Int :=
  if metric = .salesCount then (personalSales db companyId goal first last).length
  else ((personalLines db companyId goal first last).map (lineFigure metric)).sum

section Read

variable {M : Type} (m : M) (ctx : Ctx) (branchId : Id) (metric : GoalMetric) (first last : Int)
  (db : Db)

theorem achieved_branch : (achieved m ctx (branchGoal branchId) metric first last).run db =
    (db, .ok (sumOf (metricColumn metric)
      (rollupsIn db ctx.companyId (some branchId) first last))) :=
  rfl

theorem achieved_personal (userId : Id) :
    (achieved m ctx (personalGoal branchId userId) metric first last).run db =
      (db, .ok (personalFigure db ctx.companyId (personalGoal branchId userId) metric
        first last)) := by
  cases metric with
  | _ => rfl

end Read

section People

variable (db : Db) (companyId branchId : Id) (first last : Int)

def branchWindow : Window := ⟨companyId, some branchId, first, last⟩

def sellerOf (item : SaleItem) : Id := ((db.sales.find? item.saleId).map Sale.userId).getD 0

theorem personal_lines (userId : Id) :
    personalLines db companyId (personalGoal branchId userId) first last =
      ((branchWindow companyId branchId first last).lines db).filter (fun item =>
        sellerOf db item = userId) := by
  unfold personalLines Window.lines Table.filter
  rw [List.filter_filter]
  apply List.filter_congr
  intro item _
  have counted :
    ((soldAt db companyId item).any (branchWindow companyId branchId first last).holds =
      true) ↔ item.companyId = companyId ∧ item.voided = false ∧
        (db.sales.find? item.saleId).any (fun sale => sale.branchId = branchId ∧
          first ≤ dayKey sale.soldAt ∧ (dayKey sale.soldAt : Int) ≤ last) = true := by
    unfold soldAt
    split
    · next own =>
      cases db.sales.find? item.saleId with
      | none => simp
      | some sale =>
          simp [own, branchWindow, Window.holds]
          tauto
    · next own =>
      simp only [Option.any_none, Bool.false_eq_true, false_iff]
      exact fun counted => own ⟨counted.1, counted.2.1⟩
  rw [Bool.eq_iff_iff, Bool.and_eq_true]
  rw [show (branchWindow companyId branchId first last).companyId = companyId from rfl, counted]
  unfold sellerOf
  cases db.sales.find? item.saleId with
  | none => simp
  | some sale =>
      simp only [personalGoal, madeBy, Option.any_some, Option.map_some, Option.getD_some,
        decide_eq_true_eq, Option.some.injEq]
      constructor
      · rintro ⟨company, standing, branch, user, early, late⟩
        exact ⟨user.symm, company, standing, branch.symm, early, late⟩
      · rintro ⟨user, company, standing, branch, early, late⟩
        exact ⟨company, standing, branch.symm, user.symm, early, late⟩

def branchSales : List Sale :=
  db.sales.filter (fun sale =>
    (saleAt companyId sale).any (branchWindow companyId branchId first last).holds)

theorem personal_sales (userId : Id) :
    personalSales db companyId (personalGoal branchId userId) first last =
      (branchSales db companyId branchId first last).filter (fun sale => sale.userId = userId) := by
  unfold personalSales branchSales Table.filter
  rw [List.filter_filter]
  apply List.filter_congr
  intro sale _
  rw [Bool.eq_iff_iff]
  unfold saleAt
  split
  · next own =>
    simp only [own, personalGoal, madeBy, branchWindow, Window.holds, Option.any_some,
      Bool.and_eq_true, decide_eq_true_eq, Option.some.injEq, Option.mem_def, forall_eq']
    tauto
  · next own => simp [own]

variable (users : List Id) (distinct : users.Nodup)
  (all : ∀ sale ∈ db.sales.rows, sale.userId ∈ users)

include distinct all

theorem lines_by_person (filed : Filed db) (g : SaleItem → Int) :
    (users.map (fun userId => ((personalLines db companyId (personalGoal branchId userId)
        first last).map g).sum)).sum =
      (((branchWindow companyId branchId first last).lines db).map g).sum := by
  simp only [personal_lines]
  apply sum_groups users distinct (sellerOf db) g
  intro item member
  obtain ⟨sale, found, -⟩ := filed.owned item ((Table.mem_filter _ _ _).mp member).1
  unfold sellerOf
  rw [found]
  exact all sale (Table.mem_of_find? _ _ _ found)

theorem sales_by_person :
    (users.map (fun userId => ((personalSales db companyId (personalGoal branchId userId)
        first last).length : Int))).sum =
      (branchSales db companyId branchId first last).length := by
  have grouped := sum_groups users distinct Sale.userId (fun _ => (1 : Int))
    (branchSales db companyId branchId first last)
    (fun sale member => all sale ((Table.mem_filter _ _ _).mp member).1)
  simp only [personal_sales]
  simpa using grouped

end People

section Counted

variable {db : Db} (filed : Filed db) (companyId : Id)

include filed

theorem sale_has_line (sale : Sale) (member : sale ∈ db.sales.rows) :
    ∃ item ∈ db.saleItems.rows, item.saleId = sale.id ∧ item.companyId = sale.companyId ∧
      item.voided = false ∧ db.sales.find? item.saleId = some sale := by
  obtain ⟨saleDiscount, entered⟩ := filed.entered sale member
  obtain ⟨item, listed⟩ := List.exists_mem_of_ne_nil _ entered.filled
  obtain ⟨own, company, standing⟩ := entered.own item listed
  have found : db.sales.find? item.saleId = some sale :=
    (Table.find?_some _ _ _).mpr ⟨member, own.symm⟩
  exact ⟨item, ((Table.mem_filter _ _ _).mp listed).1, own, company, standing, found⟩

theorem sale_active (sale : Sale) (member : sale ∈ db.sales.rows) (place : Place)
    (placed : saleAt companyId sale = some place) : Active db companyId place := by
  obtain ⟨item, listed, -, company, standing, found⟩ := sale_has_line filed sale member
  unfold saleAt at placed
  split at placed
  · next own =>
    refine .sold item listed ?_
    unfold soldAt
    rw [if_pos ⟨company.trans own, standing⟩, found]
    exact placed
  · cases placed

theorem salesCount_day (place : Place) :
    (dayFigures db companyId place.1 place.2).salesCount =
      (db.sales.filter (fun sale => saleAt companyId sale = some place)).length := by
  have same : ((db.saleItems.filter (soldOn db companyId place.1 place.2)).map
      SaleItem.saleId).dedup.Perm
        ((db.sales.filter (fun sale => saleAt companyId sale = some place)).map Sale.id) := by
    have once : ((db.sales.filter (fun sale => saleAt companyId sale = some place)).map
        Sale.id).Nodup :=
      db.sales.unique.sublist (List.filter_sublist.map Sale.id)
    refine (List.perm_ext_iff_of_nodup (List.nodup_dedup _) once).mpr ?_
    intro saleId
    rw [List.mem_dedup, soldOn_placed]
    constructor
    · intro sold
      obtain ⟨item, listed, rfl⟩ := List.mem_map.mp sold
      obtain ⟨member, placed⟩ := (Table.mem_filter _ _ _).mp listed
      obtain ⟨sale, found, company, standing⟩ := filed.owned item member
      obtain ⟨there, key⟩ := (Table.find?_some _ _ _).mp found
      refine List.mem_map.mpr ⟨sale, (Table.mem_filter _ _ _).mpr ⟨there, ?_⟩, key⟩
      have placed := of_decide_eq_true placed
      unfold soldAt at placed
      split at placed
      · next own =>
        rw [found] at placed
        refine decide_eq_true ?_
        unfold saleAt
        rw [if_pos (company.symm.trans own.1)]
        exact placed
      · cases placed
    · intro sold
      obtain ⟨sale, listed, rfl⟩ := List.mem_map.mp sold
      obtain ⟨member, placed⟩ := (Table.mem_filter _ _ _).mp listed
      obtain ⟨item, there, own, company, standing, found⟩ := sale_has_line filed sale member
      refine List.mem_map.mpr ⟨item, (Table.mem_filter _ _ _).mpr ⟨there, decide_eq_true ?_⟩, own⟩
      have placed := of_decide_eq_true placed
      unfold saleAt at placed
      split at placed
      · next mine =>
        unfold soldAt
        rw [if_pos ⟨company.trans mine, standing⟩, found]
        exact placed
      · cases placed
  have counted := same.length_eq
  rw [List.length_map] at counted
  exact counted

theorem salesCount_window (branchId : Id) (first last : Int)
    (upToDate : UpToDate (branchWindow companyId branchId first last) db) :
    sumOf (metricColumn .salesCount) ((branchWindow companyId branchId first last).rollups db) =
      (branchSales db companyId branchId first last).length := by
  have counted := upToDate.column (metricColumn .salesCount) (saleAt companyId) (fun _ => 1)
    db.sales.rows (by
      intro place
      change ((dayFigures db companyId place.1 place.2).salesCount : Int) = _
      rw [salesCount_day filed companyId place]
      simp [Table.filter])
    (fun sale member place placed => sale_active filed companyId sale member place placed)
  rw [counted]
  simp [branchSales, Table.filter]

end Counted

def soldMargin (db : Db) (w : Window) : Int := ((w.lines db).map marginOf).sum

/-- The margin of the lines whose return was approved in the window. -/
def reversedMargin (db : Db) (w : Window) : Int :=
  ((db.returnReversals.filter (fun reversal => reversal.companyId = w.companyId ∧
    w.holds (reversal.branchId, reversal.approvalDate))).map ReturnReversal.lineMargin).sum

section Goals

variable (db : Db) (ctx : Ctx) (branchId : Id) (first last : Int) (users : List Id)

def branchAchieved (metric : GoalMetric) : Int :=
  sumOf (metricColumn metric) (rollupsIn db ctx.companyId (some branchId) first last)

def personalAchieved (metric : GoalMetric) (userId : Id) : Int :=
  personalFigure db ctx.companyId (personalGoal branchId userId) metric first last

/-- The branch achieved what its people did, and both deduct what was returned. -/
structure Reconciled : Prop where
  people : ∀ metric, branchAchieved db ctx branchId first last metric =
    (users.map (personalAchieved db ctx branchId first last metric)).sum
  branch : branchAchieved db ctx branchId first last .grossProfit =
    soldMargin db (branchWindow ctx.companyId branchId first last) -
      reversedMargin db (branchWindow ctx.companyId branchId first last)
  personal : (users.map (personalAchieved db ctx branchId first last .grossProfit)).sum =
    soldMargin db (branchWindow ctx.companyId branchId first last) -
      reversedMargin db (branchWindow ctx.companyId branchId first last)

variable {db} (filed : Filed db)
  (upToDate : UpToDate (branchWindow ctx.companyId branchId first last) db)
  (distinct : users.Nodup) (all : ∀ sale ∈ db.sales.rows, sale.userId ∈ users)

include filed upToDate distinct all

theorem branch_is_people (metric : GoalMetric) :
    branchAchieved db ctx branchId first last metric =
      (users.map (personalAchieved db ctx branchId first last metric)).sum := by
  have lines := lines_by_person db ctx.companyId branchId first last users distinct all filed
  cases metric with
  | grossProfit => exact upToDate.grossProfit.trans (lines marginOf).symm
  | revenue => exact upToDate.revenue.trans (lines lineRevenue).symm
  | unitsSold => exact upToDate.qtySold.trans (lines SaleItem.quantity).symm
  | salesCount =>
      exact (salesCount_window filed ctx.companyId branchId first last upToDate).trans
        (sales_by_person db ctx.companyId branchId first last users distinct all).symm

theorem reconciled_of :
    Reconciled db ctx branchId first last users ↔
      reversedMargin db (branchWindow ctx.companyId branchId first last) = 0 := by
  have people := branch_is_people ctx branchId first last users filed upToDate distinct all
  have sold : branchAchieved db ctx branchId first last .grossProfit =
      soldMargin db (branchWindow ctx.companyId branchId first last) := upToDate.grossProfit
  constructor
  · intro reconciled
    have deducted := reconciled.branch
    omega
  · intro nothing
    constructor
    · exact people
    · omega
    · rw [← people]
      omega

end Goals

/-- After any history of sales and returns, the branch achieved what its people did; both
fall by the margin of what was returned exactly when that margin is zero. -/
theorem goals_reconcile_iff (db : Db) (sales : db.sales.rows = []) (lines : db.saleItems.rows = [])
    (c : Config Db Mark Refusal Unit) (run : Returns.WorkflowRun (.idle db) c) (ctx : Ctx)
    (branchId : Id) (first last : Int)
    (upToDate : UpToDate (branchWindow ctx.companyId branchId first last) c.store)
    (users : List Id) (distinct : users.Nodup)
    (all : ∀ sale ∈ c.store.sales.rows, sale.userId ∈ users) :
    (∀ metric, branchAchieved c.store ctx branchId first last metric =
        (users.map (personalAchieved c.store ctx branchId first last metric)).sum) ∧
      (Reconciled c.store ctx branchId first last users ↔
        reversedMargin c.store (branchWindow ctx.companyId branchId first last) = 0) :=
  have filed := run_filed db sales lines c run
  ⟨branch_is_people ctx branchId first last users filed upToDate distinct all,
    reconciled_of ctx branchId first last users filed upToDate distinct all⟩

def returnedOnDay : Config Db Mark Refusal Unit :=
  (Config.idle Returns.stall).schedule (Returns.soldAndReturned [] ⟨90000, by decide⟩)

def manager : Ctx where
  companyId := 10
  branchId := some 1
  userId := some 7
  now := 0

theorem returnedOnDay_run : Returns.WorkflowRun (.idle Returns.stall) returnedOnDay :=
  Returns.soldAndReturned_run [] ⟨90000, by decide⟩

theorem returnedOnDay_upToDate : UpToDate (branchWindow 10 1 0 0) returnedOnDay.store := by
  constructor
  · decide +kernel
  · decide +kernel
  · have covered : Covered (branchWindow 10 1 0 0) returnedOnDay.store := by decide +kernel
    exact covered.active

theorem goals_keep_returned_margin :
    ¬ ∀ (db : Db) (c : Config Db Mark Refusal Unit) (ctx : Ctx) (branchId : Id)
      (first last : Int) (users : List Id), db.sales.rows = [] → db.saleItems.rows = [] →
      Returns.WorkflowRun (.idle db) c →
      UpToDate (branchWindow ctx.companyId branchId first last) c.store → users.Nodup →
      (∀ sale ∈ c.store.sales.rows, sale.userId ∈ users) →
      Reconciled c.store ctx branchId first last users := by
  intro claim
  have sellers : ∀ sale ∈ returnedOnDay.store.sales.rows, sale.userId ∈ [(7 : Id)] := by
    decide +kernel
  have reconciled := claim Returns.stall returnedOnDay manager 1 0 0 [7] rfl rfl
    returnedOnDay_run returnedOnDay_upToDate (List.nodup_singleton _) sellers
  have deducted := reconciled.branch
  have kept : branchAchieved returnedOnDay.store manager 1 0 0 .grossProfit = 40000 := by
    decide +kernel
  have back : soldMargin returnedOnDay.store (branchWindow 10 1 0 0) -
      reversedMargin returnedOnDay.store (branchWindow 10 1 0 0) = 0 := by decide +kernel
  exact absurd (kept.symm.trans (deducted.trans back)) (by decide)

theorem goals_reconcile_iff_returned :
    ∃ c, Returns.WorkflowRun (.idle Returns.stall) c ∧
      (∀ metric, branchAchieved c.store manager 1 0 0 metric =
        ([7].map (personalAchieved c.store manager 1 0 0 metric)).sum) ∧
      (Reconciled c.store manager 1 0 0 [7] ↔
        reversedMargin c.store (branchWindow 10 1 0 0) = 0) := by
  have sellers : ∀ sale ∈ returnedOnDay.store.sales.rows, sale.userId ∈ [(7 : Id)] := by
    decide +kernel
  exact ⟨returnedOnDay, returnedOnDay_run,
    goals_reconcile_iff Returns.stall rfl rfl returnedOnDay returnedOnDay_run manager 1 0 0
      returnedOnDay_upToDate [7] (List.nodup_singleton _) sellers⟩

end ErpBackend.Goals
