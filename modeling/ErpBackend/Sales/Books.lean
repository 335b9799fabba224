import ErpBackend.Analytics.Rollup
import ErpBackend.Sales.Effects

/-!
# What a sale enters in the books

The header takes both kinds of discount off the total; a line carries only its own.
-/

namespace ErpBackend.Sales

open Foundation Inventory Analytics

def headerDiscount (dto : CreateSaleDto) : Int := (dto.saleDiscount.map Money.cents).getD 0

theorem headerDiscount_nonneg (dto : CreateSaleDto) : 0 ≤ headerDiscount dto := by
  unfold headerDiscount
  cases dto.saleDiscount with
  | none => exact le_refl 0
  | some money => exact money.nonneg

/-- A sale as it is entered: its header, its lines and the discount on the whole. -/
structure Entered (sale : Sale) (items : List SaleItem) (saleDiscount : Int) : Prop where
  filled : items ≠ []
  own : ∀ item ∈ items, item.saleId = sale.id ∧ item.companyId = sale.companyId ∧
    item.voided = false
  nonneg : 0 ≤ saleDiscount
  discount : sale.discount = (items.map SaleItem.discount).sum + saleDiscount
  total : sale.total = (items.map lineRevenue).sum - saleDiscount
  totalCost : sale.totalCost = (items.map lineCost).sum

def itemsFor (companyId saleId : Id) (items : Nat → Id) : Nat → List PreparedLine → List SaleItem
  | _, [] => []
  | index, line :: rest =>
      saleItemFor companyId saleId (items index) line ::
        itemsFor companyId saleId items (index + 1) rest

variable (companyId saleId : Id)

theorem mem_itemsFor (items : Nat → Id) (index : Nat)
    (lines : List PreparedLine) (item : SaleItem)
    (member : item ∈ itemsFor companyId saleId items index lines) :
    item.saleId = saleId ∧ item.companyId = companyId ∧ item.voided = false := by
  induction lines generalizing index with
  | nil => cases member
  | cons line rest ih =>
      rcases List.mem_cons.mp member with rfl | later
      · exact ⟨rfl, rfl, rfl⟩
      · exact ih _ later

theorem itemsFor_totals (items : Nat → Id) (index : Nat)
    (lines : List PreparedLine) :
    ((itemsFor companyId saleId items index lines).map SaleItem.discount).sum =
        (lines.map PreparedLine.discount).sum ∧
      ((itemsFor companyId saleId items index lines).map lineRevenue).sum =
        (lines.map (fun line => line.price * line.quantity)).sum -
          (lines.map PreparedLine.discount).sum ∧
      ((itemsFor companyId saleId items index lines).map lineCost).sum =
        (lines.map (fun line => line.cost * line.quantity)).sum := by
  induction lines generalizing index with
  | nil => exact ⟨rfl, rfl, rfl⟩
  | cons line rest ih =>
      obtain ⟨discount, revenue, cost⟩ := ih (index + 1)
      simp only [itemsFor, List.map_cons, List.sum_cons, discount, revenue, cost]
      simp only [lineRevenue, lineCost, saleItemFor, and_true, true_and]
      omega

theorem itemsFor_filled (items : Nat → Id) (index : Nat)
    (lines : List PreparedLine) (filled : lines ≠ []) :
    itemsFor companyId saleId items index lines ≠ [] := by
  cases lines with
  | nil => exact absurd rfl filled
  | cons line rest => exact List.cons_ne_nil _ _

variable (ctx : Ctx)

theorem writeLine_rows (branchId saleId itemId : Id) (line : PreparedLine)
    (db db' : Db) (done : writeLine ctx branchId saleId itemId line db = .ok db') :
    db'.saleItems.rows = db.saleItems.rows ++ [saleItemFor ctx.companyId saleId itemId line] := by
  unfold writeLine at done
  obtain ⟨listed, inserted, done⟩ := (except_bind_ok _ _ _).mp done
  have own : listed.saleItems.rows =
      db.saleItems.rows ++ [saleItemFor ctx.companyId saleId itemId line] := by
    unfold insertSaleItem at inserted
    split at inserted
    · cases inserted
    · split at inserted
      · cases inserted
      · next saleItems added =>
        cases inserted
        exact (Table.insert?_some _ _ _ added).1
  split at done
  · unfold claimUnit at done
    split at done
    · cases done
    · cases done
      exact own
  · unfold takeStock at done
    obtain ⟨⟨taken, found⟩, stored, done⟩ := (except_bind_ok _ _ _).mp done
    have kept : taken.saleItems = listed.saleItems := by
      rcases updateStock_ok _ _ _ _ _ _ _ _ _ stored with ⟨-, rfl, -⟩ | ⟨-, item, -, -, moved⟩
      · rfl
      · obtain ⟨stockItems, rfl⟩ := moved.frame
        rfl
    dsimp only at done
    split at done
    · cases done
    · split at done
      · cases done
      · cases done
        rw [kept]
        exact own

theorem writeLines_rows (branchId saleId : Id) (items : Nat → Id) (index : Nat)
    (lines : List PreparedLine) (db db' : Db)
    (done : writeLines ctx branchId saleId items index lines db = .ok db') :
    db'.saleItems.rows =
      db.saleItems.rows ++ itemsFor ctx.companyId saleId items index lines := by
  induction lines generalizing index db with
  | nil =>
      cases done
      exact (List.append_nil _).symm
  | cons line rest ih =>
      unfold writeLines at done
      obtain ⟨written, first, done⟩ := (except_bind_ok _ _ _).mp done
      rw [ih _ _ done, writeLine_rows _ _ _ _ _ _ _ first, List.append_assoc]
      rfl

theorem draftSale_totals (has : Permission → Bool) (branchId : Id)
    (dto : CreateSaleDto) (db : Db) (draft : Draft)
    (done : draftSale ctx has branchId dto db = .ok draft) :
    draft.totals = totalsOf draft.lines dto.saleDiscount :=
  (draftSale_ok ctx has branchId dto db draft done).2.1

theorem draftSale_filled (has : Permission → Bool) (branchId : Id)
    (dto : CreateSaleDto) (db : Db) (draft : Draft)
    (done : draftSale ctx has branchId dto db = .ok draft) : draft.lines ≠ [] := by
  have prepared := (draftSale_ok ctx has branchId dto db draft done).1
  cases requested : dto.lines with
  | nil => exact absurd requested dto.filled
  | cons line rest =>
      rw [requested] at prepared
      unfold prepareLines at prepared
      obtain ⟨first, -, prepared⟩ := (except_bind_ok _ _ _).mp prepared
      obtain ⟨others, -, prepared⟩ := (except_bind_ok _ _ _).mp prepared
      rw [← Except.ok.inj prepared]
      exact List.cons_ne_nil _ _

/-- The transaction of a sale: one header, its lines, and what belongs to no book. -/
inductive Enters (saleDiscount : Int) (db : Db) (sale : Sale) : Db → Prop
  | enter (items : List SaleItem) (entered : Entered sale items saleDiscount)
      (branchCounters : Table BranchCounter BranchCounter.key) (sales : Table Sale Sale.id)
      (saleItems : Table SaleItem SaleItem.id) (units : Table StockUnit StockUnit.id)
      (stockItems : Table StockItem StockItem.key) (payments : Table Payment Payment.id)
      (customers : Table Customer Customer.id)
      (inserted : db.sales.insert? sale = some sales)
      (listed : saleItems.rows = db.saleItems.rows ++ items) :
      Enters saleDiscount db sale
        { db with branchCounters, sales, saleItems, units, stockItems, payments, customers }

theorem writeSale_enters (branchId userId : Id) (ids : SaleIds) (dto : CreateSaleDto)
    (draft : Draft) (db db' : Db) (sale : Sale)
    (totals : draft.totals = totalsOf draft.lines dto.saleDiscount) (filled : draft.lines ≠ [])
    (done : writeSale ctx branchId userId ids dto draft db = .ok (db', sale)) :
    Enters (headerDiscount dto) db sale db' := by
  unfold writeSale at done
  obtain ⟨⟨numbered, seq⟩, counted, done⟩ := (except_bind_ok _ _ _).mp done
  obtain ⟨opened, inserted, done⟩ := (except_bind_ok _ _ _).mp done
  obtain ⟨listed, written, done⟩ := (except_bind_ok _ _ _).mp done
  obtain ⟨paid, settled, done⟩ := (except_bind_ok _ _ _).mp done
  obtain ⟨charged, balance, done⟩ := (except_bind_ok _ _ _).mp done
  cases done
  have rows := writeLines_rows _ _ _ _ _ _ _ _ written
  obtain ⟨counters, rfl⟩ := nextNumber_ok _ _ _ _ _ _ counted
  obtain ⟨sales, added, rfl⟩ := insertSale_ok _ _ _ inserted
  obtain ⟨saleItems, units, stockItems, rfl⟩ := (writeLines_ok _ _ _ _ _ _ _ _ written).frame
  obtain ⟨payments, rfl⟩ := writePayments_ok _ _ _ _ _ _ _ settled
  obtain ⟨customers, rfl⟩ := chargeCustomer_ok _ _ _ _ _ balance
  refine .enter (itemsFor ctx.companyId ids.sale ids.items 0 draft.lines) ?_ counters sales
    saleItems units stockItems payments customers added rows
  obtain ⟨discount, revenue, cost⟩ := itemsFor_totals ctx.companyId ids.sale ids.items 0 draft.lines
  constructor
  · exact itemsFor_filled _ _ _ _ _ filled
  · exact fun item member => mem_itemsFor _ _ _ _ _ item member
  · exact headerDiscount_nonneg dto
  · rw [discount]
    simp only [saleFor, totals, totalsOf, headerDiscount]
  · rw [revenue]
    simp only [saleFor, totals, totalsOf, headerDiscount]
    omega
  · rw [cost]
    simp only [saleFor, totals, totalsOf]

end ErpBackend.Sales
