import ErpBackend.Analytics.StockValue
import ErpBackend.Analytics.Summary

/-!
# A window of days, rollup by rollup and row by row

Where every rollup of a window holds the figures of its day and every day on which
something happened has one, a column of the rollups adds up to the rows themselves.
-/

namespace ErpBackend.Analytics

open Foundation

abbrev Place := Id × Day

structure Window where
  companyId : Id
  branchId : Option Id
  first : Int
  last : Int

def Window.holds (w : Window) (place : Place) : Bool :=
  w.first ≤ place.2 ∧ (place.2 : Int) ≤ w.last ∧ ∀ branch ∈ w.branchId, place.1 = branch

def Window.rollups (w : Window) (db : Db) : List DailyRollup :=
  rollupsIn db w.companyId w.branchId w.first w.last

def placeOf (rollup : DailyRollup) : Place := (rollup.branchId, rollup.day)

def saleAt (companyId : Id) (sale : Sale) : Option Place :=
  if sale.companyId = companyId then some (sale.branchId, dayKey sale.soldAt) else none

def soldAt (db : Db) (companyId : Id) (item : SaleItem) : Option Place :=
  if item.companyId = companyId ∧ item.voided = false then
    (db.sales.find? item.saleId).map (fun sale => (sale.branchId, dayKey sale.soldAt))
  else none

def spentAt (companyId : Id) (expense : Expense) : Option Place :=
  if expense.companyId = companyId ∧ expense.status = .confirmed then
    expense.branchId.bind (fun branchId => (accountingDay expense).map (fun day => (branchId, day)))
  else none

def refundedAt (companyId : Id) (payout : RefundPayout) : Option Place :=
  if payout.companyId = companyId ∧ payout.status = .confirmed then
    payout.confirmationDate.map (fun day => (payout.branchId, day))
  else none

def correctedAt (companyId : Id) (correction : FinancialCorrection) : Option Place :=
  if correction.companyId = companyId ∧ correction.status = .approved then
    correction.correctionDate.map (fun day => (correction.branchId, day))
  else none

section Placed

variable (db : Db) (companyId : Id) (place : Place)

theorem soldOn_placed : soldOn db companyId place.1 place.2 =
    fun item => decide (soldAt db companyId item = some place) := by
  funext item
  unfold soldOn soldAt
  by_cases own : item.companyId = companyId ∧ item.voided = false
  · cases found : db.sales.find? item.saleId with
    | none => simp [own]
    | some sale => simp [own, Prod.ext_iff]
  · simp only [own, if_false, reduceCtorEq, decide_false, decide_eq_false_iff_not]
    intro counted
    exact own ⟨counted.1, counted.2.1⟩

theorem spentOn_placed : spentOn companyId place.1 place.2 =
    fun expense => decide (spentAt companyId expense = some place) := by
  funext expense
  unfold spentOn spentAt
  by_cases own : expense.companyId = companyId ∧ expense.status = .confirmed
  · cases branch : expense.branchId with
    | none => simp
    | some branchId =>
        cases counted : accountingDay expense with
        | none => simp [own]
        | some day => simp [own, Prod.ext_iff]
  · simp only [own, if_false, reduceCtorEq, decide_false, decide_eq_false_iff_not]
    intro counted
    exact own ⟨counted.1, counted.2.2.1⟩

theorem refundedOn_placed : refundedOn companyId place.1 place.2 =
    fun payout => decide (refundedAt companyId payout = some place) := by
  funext payout
  unfold refundedOn refundedAt
  by_cases own : payout.companyId = companyId ∧ payout.status = .confirmed
  · cases confirmed : payout.confirmationDate with
    | none => simp
    | some day => simp [own, Prod.ext_iff]
  · simp only [own, if_false, reduceCtorEq, decide_false, decide_eq_false_iff_not]
    intro counted
    exact own ⟨counted.1, counted.2.2.1⟩

theorem correctedOn_placed : correctedOn companyId place.1 place.2 =
    fun correction => decide (correctedAt companyId correction = some place) := by
  funext correction
  unfold correctedOn correctedAt
  by_cases own : correction.companyId = companyId ∧ correction.status = .approved
  · cases approved : correction.correctionDate with
    | none => simp
    | some day => simp [own, Prod.ext_iff]
  · simp only [own, if_false, reduceCtorEq, decide_false, decide_eq_false_iff_not]
    intro counted
    exact own ⟨counted.1, counted.2.2.1⟩

end Placed

inductive Active (db : Db) (companyId : Id) (place : Place) : Prop
  | sold (item : SaleItem) (member : item ∈ db.saleItems.rows)
      (placed : soldAt db companyId item = some place) : Active db companyId place
  | spent (expense : Expense) (member : expense ∈ db.expenses.rows)
      (placed : spentAt companyId expense = some place) : Active db companyId place
  | refunded (payout : RefundPayout) (member : payout ∈ db.refundPayouts.rows)
      (placed : refundedAt companyId payout = some place) : Active db companyId place
  | corrected (correction : FinancialCorrection)
    (member : correction ∈ db.financialCorrections.rows)
      (placed : correctedAt companyId correction = some place) : Active db companyId place

structure UpToDate (w : Window) (db : Db) : Prop where
  figures : ∀ rollup ∈ w.rollups db,
    rollup.toDayFigures = dayFigures db w.companyId rollup.branchId rollup.day
  distinct : ((w.rollups db).map placeOf).Nodup
  covered : ∀ place, Active db w.companyId place → w.holds place = true →
    place ∈ (w.rollups db).map placeOf

/-- Every row of the four tables that is counted in the window has its rollup. -/
def Covered (w : Window) (db : Db) : Prop :=
  (∀ item ∈ db.saleItems.rows, ∀ place ∈ soldAt db w.companyId item, w.holds place = true →
      place ∈ (w.rollups db).map placeOf) ∧
    (∀ expense ∈ db.expenses.rows, ∀ place ∈ spentAt w.companyId expense, w.holds place = true →
      place ∈ (w.rollups db).map placeOf) ∧
    (∀ payout ∈ db.refundPayouts.rows, ∀ place ∈ refundedAt w.companyId payout,
      w.holds place = true → place ∈ (w.rollups db).map placeOf) ∧
    ∀ correction ∈ db.financialCorrections.rows, ∀ place ∈ correctedAt w.companyId correction,
      w.holds place = true → place ∈ (w.rollups db).map placeOf

instance (w : Window) (db : Db) : Decidable (Covered w db) :=
  inferInstanceAs (Decidable (_ ∧ _ ∧ _ ∧ _))

theorem Covered.active {w : Window} {db : Db} (covered : Covered w db) (place : Place)
    (active : Active db w.companyId place) (within : w.holds place = true) :
    place ∈ (w.rollups db).map placeOf := by
  obtain ⟨sold, spent, refunded, corrected⟩ := covered
  cases active with
  | sold item member placed => exact sold item member place placed within
  | spent expense member placed => exact spent expense member place placed within
  | refunded payout member placed => exact refunded payout member place placed within
  | corrected correction member placed => exact corrected correction member place placed within

theorem rollups_within (w : Window) (db : Db) (rollup : DailyRollup)
    (member : rollup ∈ w.rollups db) : w.holds (placeOf rollup) = true := by
  obtain ⟨-, counted⟩ := (Table.mem_filter _ _ _).mp member
  obtain ⟨-, early, late, branch⟩ := of_decide_eq_true counted
  exact decide_eq_true ⟨early, late, branch⟩

theorem sum_placed {α : Type} (within : Place → Bool) (places : List Place)
    (distinct : places.Nodup) (inside : ∀ place ∈ places, within place = true)
    (placed : α → Option Place) (g : α → Int) (rows : List α)
    (covered : ∀ a ∈ rows, ∀ place, placed a = some place → within place = true →
      place ∈ places) :
    (places.map (fun place =>
        ((rows.filter (fun a => decide (placed a = some place))).map g).sum)).sum =
      ((rows.filter (fun a => (placed a).any within)).map g).sum := by
  induction rows with
  | nil => simp
  | cons head tail ih =>
      have rest := ih (fun a member => covered a (List.mem_cons_of_mem _ member))
      have split : ∀ place, (((head :: tail).filter (fun a =>
          decide (placed a = some place))).map g).sum =
          (if placed head = some place then g head else 0) +
            ((tail.filter (fun a => decide (placed a = some place))).map g).sum := by
        intro place
        by_cases same : placed head = some place
        · simp [same]
        · simp [same]
      have own : (places.map (fun place => if placed head = some place then g head else 0)).sum =
          if (placed head).any within then g head else 0 := by
        cases where_ : placed head with
        | none => simp
        | some place =>
            by_cases here : within place = true
            · have listed := covered head (List.mem_cons_self ..) place where_ here
              have once := sum_single places distinct place listed (g head)
              simpa [here] using once
            · have absent : place ∉ places := fun listed => here (inside place listed)
              have zero : ∀ other ∈ places,
                (if some place = some other then g head else 0) = 0 := by
                intro other listed
                rw [if_neg]
                intro same
                exact absent (Option.some.inj same ▸ listed)
              rw [List.map_congr_left zero]
              simp [here]
      simp only [split, List.sum_map_add, own, rest]
      by_cases here : (placed head).any within = true
      · simp [here]
      · simp [here]

/-- A column of the rollups of a window adds up to the rows it is summed from. -/
theorem UpToDate.column {α : Type} {w : Window} {db : Db} (upToDate : UpToDate w db)
    (pick : DayFigures → Int) (placed : α → Option Place) (g : α → Int) (rows : List α)
    (day : ∀ place : Place, pick (dayFigures db w.companyId place.1 place.2) =
      ((rows.filter (fun a => decide (placed a = some place))).map g).sum)
    (active : ∀ a ∈ rows, ∀ place, placed a = some place → Active db w.companyId place) :
    sumOf pick (w.rollups db) = ((rows.filter (fun a => (placed a).any w.holds)).map g).sum := by
  have within : ∀ place ∈ (w.rollups db).map placeOf, w.holds place = true := by
    intro place listed
    obtain ⟨rollup, member, rfl⟩ := List.mem_map.mp listed
    exact rollups_within w db rollup member
  rw [← sum_placed w.holds _ upToDate.distinct within placed g rows (fun a member place at_ here =>
    upToDate.covered place (active a member place at_) here)]
  unfold sumOf
  rw [List.map_map]
  congr 1
  apply List.map_congr_left
  intro rollup member
  rw [upToDate.figures rollup member]
  exact day (placeOf rollup)

def marginOf (item : SaleItem) : Int := lineRevenue item - lineCost item

theorem margin_sum (items : List SaleItem) :
    (items.map marginOf).sum = (items.map lineRevenue).sum - (items.map lineCost).sum := by
  induction items with
  | nil => rfl
  | cons item rest ih =>
      simp only [List.map_cons, List.sum_cons, ih, marginOf]
      omega

section Columns

variable (w : Window) (db : Db)

def Window.lines : List SaleItem :=
  db.saleItems.filter (fun item => (soldAt db w.companyId item).any w.holds)

def Window.expenses : List Expense :=
  db.expenses.filter (fun expense => (spentAt w.companyId expense).any w.holds)

def Window.refunds : List RefundPayout :=
  db.refundPayouts.filter (fun payout => (refundedAt w.companyId payout).any w.holds)

def Window.corrections : List FinancialCorrection :=
  db.financialCorrections.filter (fun correction =>
    (correctedAt w.companyId correction).any w.holds)

variable {w db} (upToDate : UpToDate w db)

include upToDate

theorem UpToDate.revenue :
    sumOf DayFigures.revenue (w.rollups db) = ((w.lines db).map lineRevenue).sum := by
  apply upToDate.column DayFigures.revenue (soldAt db w.companyId) lineRevenue
  · intro place
    change ((db.saleItems.filter (soldOn db w.companyId place.1 place.2)).map lineRevenue).sum = _
    rw [soldOn_placed]
    rfl
  · exact fun item member place placed => .sold item member placed

theorem UpToDate.grossProfit :
    sumOf DayFigures.grossProfit (w.rollups db) = ((w.lines db).map marginOf).sum := by
  apply upToDate.column DayFigures.grossProfit (soldAt db w.companyId) marginOf
  · intro place
    change ((db.saleItems.filter (soldOn db w.companyId place.1 place.2)).map lineRevenue).sum -
      ((db.saleItems.filter (soldOn db w.companyId place.1 place.2)).map lineCost).sum = _
    rw [← margin_sum, soldOn_placed]
    rfl
  · exact fun item member place placed => .sold item member placed

theorem UpToDate.qtySold :
    sumOf DayFigures.qtySold (w.rollups db) = ((w.lines db).map SaleItem.quantity).sum := by
  apply upToDate.column DayFigures.qtySold (soldAt db w.companyId) SaleItem.quantity
  · intro place
    change ((db.saleItems.filter (soldOn db w.companyId place.1 place.2)).map
      SaleItem.quantity).sum = _
    rw [soldOn_placed]
    rfl
  · exact fun item member place placed => .sold item member placed

theorem UpToDate.refundsPaid : sumOf DayFigures.refundsPaidTotal (w.rollups db) =
    ((w.refunds db).map RefundPayout.reportedAmount).sum := by
  apply upToDate.column DayFigures.refundsPaidTotal (refundedAt w.companyId)
    RefundPayout.reportedAmount
  · intro place
    change ((db.refundPayouts.filter (refundedOn w.companyId place.1 place.2)).map
      RefundPayout.reportedAmount).sum = _
    rw [refundedOn_placed]
    rfl
  · exact fun payout member place placed => .refunded payout member placed

theorem UpToDate.expensesCash : sumOf DayFigures.expensesCash (w.rollups db) =
    (((w.expenses db).filter (fun expense => expense.method = .cash)).map Expense.amount).sum := by
  unfold Window.expenses Table.filter
  rw [Table.sum_filter_ite]
  apply upToDate.column DayFigures.expensesCash (spentAt w.companyId)
  · intro place
    change (((db.expenses.filter (spentOn w.companyId place.1 place.2)).filter (fun expense =>
      expense.method = .cash)).map Expense.amount).sum = _
    rw [Table.sum_filter_ite, spentOn_placed]
    rfl
  · exact fun expense member place placed => .spent expense member placed

theorem UpToDate.correctionsCash : sumOf DayFigures.correctionsCash (w.rollups db) =
    (((w.corrections db).filter (fun correction => correction.method = .cash)).map
      FinancialCorrection.amount).sum := by
  unfold Window.corrections Table.filter
  rw [Table.sum_filter_ite]
  apply upToDate.column DayFigures.correctionsCash (correctedAt w.companyId)
  · intro place
    change (((db.financialCorrections.filter (correctedOn w.companyId place.1 place.2)).filter
      (fun correction => correction.method = .cash)).map FinancialCorrection.amount).sum = _
    rw [Table.sum_filter_ite, correctedOn_placed]
    rfl
  · exact fun correction member place placed => .corrected correction member placed

end Columns

end ErpBackend.Analytics
