import ErpBackend.Returns.Safety

/-!
# The day's revenue and the sales it comes from

The rollup sums the lines of a day; a sale keeps a total of its own, which takes the
discount on the whole sale off as well.
-/

namespace ErpBackend.Analytics

open Foundation Inventory

def linesOf (db : Db) (saleId : Id) : List SaleItem :=
  db.saleItems.filter (fun item => item.saleId = saleId)

def salesOn (db : Db) (companyId branchId : Id) (day : Day) : List Sale :=
  db.sales.filter (fun sale => sale.companyId = companyId ∧ sale.branchId = branchId ∧
    dayKey sale.soldAt = day)

/-- Every line belongs to a sale, and every sale is as it was entered. -/
structure Filed (db : Db) : Prop where
  owned : ∀ item ∈ db.saleItems.rows, ∃ sale, db.sales.find? item.saleId = some sale ∧
    item.companyId = sale.companyId ∧ item.voided = false
  entered : ∀ sale ∈ db.sales.rows, ∃ saleDiscount,
    Sales.Entered sale (linesOf db sale.id) saleDiscount

theorem Filed.start (db : Db) (sales : db.sales.rows = []) (lines : db.saleItems.rows = []) :
    Filed db := by
  constructor
  · intro item member
    rw [lines] at member
    cases member
  · intro sale member
    rw [sales] at member
    cases member

theorem Filed.congr {db db' : Db} (filed : Filed db) (sales : db'.sales = db.sales)
    (lines : db'.saleItems = db.saleItems) : Filed db' := by
  constructor
  · rw [lines, sales]
    exact filed.owned
  · unfold linesOf
    rw [lines, sales]
    exact filed.entered

section Entering

variable {saleDiscount : Int} {sale : Sale} {db db' : Db} (filed : Filed db)
  (enters : Sales.Enters saleDiscount db sale db')

include filed enters

theorem linesOf_enters : Sales.Entered sale (linesOf db' sale.id) saleDiscount ∧
    ∀ other ∈ db.sales.rows, linesOf db' other.id = linesOf db other.id := by
  cases enters with
  | enter items entered branchCounters sales saleItems units stockItems payments customers
      inserted listed =>
    have fresh := (Table.insert?_some _ _ _ inserted).2
    have foreign : ∀ item ∈ db.saleItems.rows, item.saleId ≠ sale.id := by
      intro item member same
      obtain ⟨other, found, -⟩ := filed.owned item member
      obtain ⟨there, keyed⟩ := (Table.find?_some _ _ _).mp found
      exact fresh other there (keyed.trans same)
    have split : ∀ saleId, linesOf { db with saleItems } saleId = linesOf db saleId ++
        items.filter (fun item => item.saleId = saleId) := by
      intro saleId
      unfold linesOf Table.filter
      rw [listed, List.filter_append]
    have own : linesOf { db with saleItems } sale.id = items := by
      have none : linesOf db sale.id = [] := List.filter_eq_nil_iff.mpr
        (fun item member => by simpa using foreign item member)
      have all : items.filter (fun item => item.saleId = sale.id) = items :=
        List.filter_eq_self.mpr (fun item member => decide_eq_true (entered.own item member).1)
      rw [split, none, all, List.nil_append]
    constructor
    · exact own ▸ entered
    · intro other there
      have none : items.filter (fun item => item.saleId = other.id) = [] := by
        apply List.filter_eq_nil_iff.mpr
        intro item member same
        have named : item.saleId = other.id := of_decide_eq_true same
        exact fresh other there (named.symm.trans (entered.own item member).1)
      have kept := split other.id
      rw [none, List.append_nil] at kept
      exact kept

theorem Filed.sell : Filed db' := by
  have lines := linesOf_enters filed enters
  cases enters with
  | enter items entered branchCounters sales saleItems units stockItems payments customers
      inserted listed =>
    constructor
    · intro item member
      change item ∈ saleItems.rows at member
      rw [listed] at member
      rcases List.mem_append.mp member with old | new
      · obtain ⟨other, found, rest⟩ := filed.owned item old
        exact ⟨other, Table.find?_insert_of_found _ _ _ inserted _ _ found, rest⟩
      · obtain ⟨own, company, standing⟩ := entered.own item new
        refine ⟨sale, ?_, company, standing⟩
        rw [Table.find?_insert _ _ _ inserted, if_pos own]
    · intro other member
      change other ∈ sales.rows at member
      rw [(Table.insert?_some _ _ _ inserted).1, List.mem_append, List.mem_singleton] at member
      rcases member with old | rfl
      · rw [lines.2 other old]
        exact filed.entered other old
      · exact ⟨saleDiscount, lines.1⟩

end Entering

theorem Filed.step {approvals : Prop} {db db' : Db} (moved : Returns.Movement approvals db db')
    (filed : Filed db) : Filed db' := by
  cases moved with
  | elsewhere _ kept => exact filed.congr kept.sales kept.lines
  | sell saleDiscount sale _ enters => exact filed.sell enters
  | _ => exact filed.congr rfl rfl

theorem run_filed (db : Db) (sales : db.sales.rows = []) (lines : db.saleItems.rows = [])
    (c : Config Db Mark Refusal Unit) (run : Returns.WorkflowRun (.idle db) c) : Filed c.store :=
  Returns.run_keeps Filed (fun _ _ moved filed => filed.step moved) db c run
    (.start db sales lines)

section Days

variable {db : Db} (filed : Filed db) (companyId branchId : Id) (day : Day)

include filed

theorem sum_by_sale (g : SaleItem → Int) :
    ((db.saleItems.filter (soldOn db companyId branchId day)).map g).sum =
      ((salesOn db companyId branchId day).map (fun sale =>
        ((linesOf db sale.id).map g).sum)).sum := by
  unfold salesOn linesOf
  simp only [Table.sum_filter]
  have grouped := Table.total_group db.saleItems db.sales SaleItem.saleId (fun sale =>
    decide (sale.companyId = companyId ∧ sale.branchId = branchId ∧ dayKey sale.soldAt = day)) g
  simp only [decide_eq_true_eq] at grouped ⊢
  rw [← grouped]
  apply Table.total_congr
  intro item member
  obtain ⟨sale, found, company, standing⟩ := filed.owned item member
  simp [soldOn, found, company, standing]

theorem revenue_by_sale : (dayFigures db companyId branchId day).revenue =
    ((salesOn db companyId branchId day).map (fun sale =>
      ((linesOf db sale.id).map lineRevenue).sum)).sum :=
  sum_by_sale filed companyId branchId day lineRevenue

theorem cogs_by_sale : (dayFigures db companyId branchId day).cogs =
    ((salesOn db companyId branchId day).map (fun sale =>
      ((linesOf db sale.id).map lineCost).sum)).sum :=
  sum_by_sale filed companyId branchId day lineCost

theorem total_le_lines (sale : Sale) (member : sale ∈ db.sales.rows) :
    sale.total ≤ ((linesOf db sale.id).map lineRevenue).sum ∧
      (sale.total = ((linesOf db sale.id).map lineRevenue).sum ↔
        sale.discount = ((linesOf db sale.id).map SaleItem.discount).sum) := by
  obtain ⟨saleDiscount, entered⟩ := filed.entered sale member
  have total := entered.total
  have discount := entered.discount
  have nonneg := entered.nonneg
  omega

end Days

def soldFor (db : Db) (companyId branchId : Id) (day : Day) : Int :=
  ((salesOn db companyId branchId day).map Sale.total).sum

def costOf (db : Db) (companyId branchId : Id) (day : Day) : Int :=
  ((salesOn db companyId branchId day).map (fun sale =>
    ((linesOf db sale.id).map lineCost).sum)).sum

theorem revenue_is_totals_iff (db : Db) (sales : db.sales.rows = [])
    (lines : db.saleItems.rows = []) (c : Config Db Mark Refusal Unit)
    (run : Returns.WorkflowRun (.idle db) c) (companyId branchId : Id) (day : Day) :
    ((dayFigures c.store companyId branchId day).revenue =
        soldFor c.store companyId branchId day ∧
      (dayFigures c.store companyId branchId day).grossProfit =
        soldFor c.store companyId branchId day - costOf c.store companyId branchId day) ↔
    ∀ sale ∈ salesOn c.store companyId branchId day,
      sale.discount = ((linesOf c.store sale.id).map SaleItem.discount).sum := by
  have filed := run_filed db sales lines c run
  have profit : (dayFigures c.store companyId branchId day).grossProfit =
      (dayFigures c.store companyId branchId day).revenue -
        (dayFigures c.store companyId branchId day).cogs := rfl
  have cogs : (dayFigures c.store companyId branchId day).cogs =
      costOf c.store companyId branchId day := cogs_by_sale filed companyId branchId day
  rw [profit, cogs, revenue_by_sale filed]
  have stored : ∀ sale ∈ salesOn c.store companyId branchId day,
      sale ∈ c.store.sales.rows := fun sale member => ((Table.mem_filter _ _ _).mp member).1
  have pairs := Table.sum_eq_iff_of_le (salesOn c.store companyId branchId day) Sale.total
    (fun sale => ((linesOf c.store sale.id).map lineRevenue).sum)
    (fun sale member => (total_le_lines filed sale (stored sale member)).1)
  constructor
  · rintro ⟨revenue, -⟩ sale member
    apply (total_le_lines filed sale (stored sale member)).2.mp
    exact pairs.mp revenue.symm sale member
  · intro none
    have revenue := pairs.mpr (fun sale member =>
      (total_le_lines filed sale (stored sale member)).2.mpr (none sale member))
    unfold soldFor
    constructor
    · exact revenue.symm
    · rw [revenue]

def shelf : Db where
  products := ⟨[
    { id := 3
      companyId := 10
      brand := "Anker"
      model := "Charger"
      variant := none
      trackingType := .quantity
      defaultPrice := some 100000 }], List.nodup_singleton _⟩
  stockItems := ⟨[
    { companyId := 10
      productId := 3
      branchId := 1
      quantity := 5
      cost := 60000
      price := some 100000
      reservedQuantity := 0
      version := 0 }], List.nodup_singleton _⟩

def chargerSale (saleDiscount : Option Money) (paid : Amount) : Request Unit :=
  (Sales.createSale
    { companyId := 10, branchId := some 1, userId := some 7, now := 1000 } (fun _ => false)
    ⟨900, fun index => 910 + index, fun index => 920 + index⟩
    { lines := [{ productId := some 3 }]
      payments := [{ method := .cash, amount := paid }]
      saleDiscount }).void

def soldOnce (saleDiscount : Option Money) (paid : Amount) : List (Move Db Mark Refusal Unit) :=
  .arrive (chargerSale saleDiscount paid) :: List.replicate 3 (.advance 0)

theorem soldOnce_run (saleDiscount : Option Money) (paid : Amount) :
    Returns.WorkflowRun (.idle shelf)
    ((Config.idle shelf).schedule (soldOnce saleDiscount paid)) := by
  apply schedule_run _ _ _ _ _ (admits_anyOrder _ _)
  intro p member
  simp only [soldOnce, List.mem_cons, Move.arrive.injEq, List.mem_replicate, reduceCtorEq,
    and_false, or_false] at member
  subst member
  exact .createSale _ _ _ _

theorem sale_discount_in_revenue :
    ¬ ∀ (db : Db) (c : Config Db Mark Refusal Unit) (companyId branchId : Id) (day : Day),
      db.sales.rows = [] → db.saleItems.rows = [] → Returns.WorkflowRun (.idle db) c →
      (dayFigures c.store companyId branchId day).revenue =
          soldFor c.store companyId branchId day ∧
        (dayFigures c.store companyId branchId day).grossProfit =
          soldFor c.store companyId branchId day - costOf c.store companyId branchId day := by
  intro claim
  have counted := (claim shelf _ 10 1 0 rfl rfl
    (soldOnce_run (some ⟨10000, by decide⟩) ⟨90000, by decide⟩)).1
  revert counted
  decide

theorem revenue_is_totals_iff_plain :
    ∃ c, Returns.WorkflowRun (.idle shelf) c ∧
      (salesOn c.store 10 1 0).map Sale.total = [100000] ∧
      (dayFigures c.store 10 1 0).revenue = soldFor c.store 10 1 0 ∧
      (dayFigures c.store 10 1 0).grossProfit = soldFor c.store 10 1 0 - costOf c.store 10 1 0 := by
  have run := soldOnce_run none ⟨100000, by decide⟩
  exact ⟨_, run, by decide, (revenue_is_totals_iff shelf rfl rfl _ run 10 1 0).mpr (by decide)⟩

end ErpBackend.Analytics
