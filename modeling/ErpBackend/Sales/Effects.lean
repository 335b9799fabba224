import ErpBackend.Inventory.Reservations
import ErpBackend.Sales.Service

/-!
# What a sale does

A sale takes free stock only: the account of reservations and the transfers
stay as they were, and the items it adds name the phones of its lines.
-/

namespace ErpBackend.Sales

open Foundation Inventory

theorem prepareLine_stood (companyId branchId : Id) (db : Db) (line : SaleLineDto)
    (prepared : PreparedLine) (done : prepareLine companyId branchId db line = .ok prepared)
    (unitId : Id) (named : prepared.unitId = some unitId) :
    ∃ unit, db.units.find? unitId = some unit ∧ unit.branchId = branchId := by
  unfold prepareLine at done
  split at done
  · unfold prepareUnit at done
    split at done
    · cases done
    · next unit found =>
      obtain ⟨_, sellable, done⟩ := (except_bind_ok _ _ _).mp done
      obtain ⟨price, -, done⟩ := (except_bind_ok _ _ _).mp done
      cases done
      cases named
      exact ⟨unit, (Table.find?_some _ _ _).mpr ⟨List.mem_of_find?_eq_some found, rfl⟩,
        (assertSellable_ok unit branchId sellable).2⟩
  · unfold prepareStock at done
    dsimp only at done
    split at done
    · cases done
    · split at done
      · cases done
      · obtain ⟨price, -, done⟩ := (except_bind_ok _ _ _).mp done
        cases done
        cases named

theorem prepareLines_each (companyId branchId : Id) (db : Db) (lines : List SaleLineDto)
    (prepared : List PreparedLine)
    (done : prepareLines companyId branchId db lines = .ok prepared) (own : PreparedLine)
    (member : own ∈ prepared) :
    ∃ line ∈ lines, prepareLine companyId branchId db line = .ok own := by
  induction lines generalizing prepared with
  | nil =>
      cases done
      cases member
  | cons line rest ih =>
      unfold prepareLines at done
      obtain ⟨first, here, done⟩ := (except_bind_ok _ _ _).mp done
      obtain ⟨others, later, done⟩ := (except_bind_ok _ _ _).mp done
      cases done
      rcases List.mem_cons.mp member with rfl | inside
      · exact ⟨line, List.mem_cons_self, here⟩
      · obtain ⟨asked, among, answered⟩ := ih others later inside
        exact ⟨asked, List.mem_cons_of_mem _ among, answered⟩

variable (ctx : Ctx)

theorem draftSale_ok (has : Permission → Bool) (branchId : Id) (dto : CreateSaleDto)
    (db : Db) (draft : Draft) (done : draftSale ctx has branchId dto db = .ok draft) :
    prepareLines ctx.companyId branchId db dto.lines = .ok draft.lines ∧
      draft.totals = totalsOf draft.lines dto.saleDiscount ∧
      reconcilePayments (dto.payments.map PaymentInputDto.amount) draft.totals.total =
        .ok draft.paid ∧
      draft.accounts = dto.payments.map (fun payment =>
        (payment, accountFor ctx.companyId db payment)) := by
  unfold draftSale at done
  obtain ⟨lines, prepared, done⟩ := (except_bind_ok _ _ _).mp done
  dsimp only at done
  split at done
  · cases done
  · obtain ⟨_, -, done⟩ := (except_bind_ok _ _ _).mp done
    obtain ⟨paid, reconciled, done⟩ := (except_bind_ok _ _ _).mp done
    obtain ⟨_, -, done⟩ := (except_bind_ok _ _ _).mp done
    obtain ⟨window, -, done⟩ := (except_bind_ok _ _ _).mp done
    obtain ⟨policy, -, done⟩ := (except_bind_ok _ _ _).mp done
    cases done
    exact ⟨prepared, rfl, reconciled, rfl⟩

theorem draftSale_stood (has : Permission → Bool) (branchId : Id)
    (dto : CreateSaleDto) (db : Db) (draft : Draft)
    (done : draftSale ctx has branchId dto db = .ok draft) (unitId : Id)
    (member : unitId ∈ soldUnits draft) :
    ∃ unit, db.units.find? unitId = some unit ∧ unit.branchId = branchId := by
  obtain ⟨own, inside, named⟩ := List.mem_filterMap.mp member
  obtain ⟨line, -, here⟩ := prepareLines_each _ _ _ _ _
    (draftSale_ok ctx has branchId dto db draft done).1 own inside
  exact prepareLine_stood ctx.companyId branchId db line own here unitId named

/-- Statements of the sale `saleId` that put the phones `unitIds` on its items. -/
structure Sold (saleId : Id) (unitIds : List Id) (db db' : Db) : Prop where
  frame : ∃ saleItems units stockItems, db' = { db with saleItems, units, stockItems }
  stands : Stands Nobody db db'
  out : consigned db' = consigned db
  bounded : Bounded db → Bounded db'
  account : reservedOf db' = reservedOf db
  items : ∀ item ∈ db'.saleItems.rows, item ∈ db.saleItems.rows ∨
    item.saleId = saleId ∧ ∀ unitId, item.unitId = some unitId → unitId ∈ unitIds

namespace Sold

theorem refl (saleId : Id) (unitIds : List Id) (db : Db) : Sold saleId unitIds db db :=
  ⟨⟨_, _, _, rfl⟩, .refl db db rfl, rfl, id, rfl, fun _ member => .inl member⟩

theorem trans {saleId : Id} {unitIds : List Id} {db db' db'' : Db}
    (first : Sold saleId unitIds db db') (second : Sold saleId unitIds db' db'') :
    Sold saleId unitIds db db'' where
  frame := by
    obtain ⟨_, _, _, earlier⟩ := first.frame
    obtain ⟨saleItems, units, stockItems, later⟩ := second.frame
    exact ⟨saleItems, units, stockItems, by rw [later, earlier]⟩
  stands := first.stands.trans second.stands
  out := second.out.trans first.out
  bounded before := second.bounded (first.bounded before)
  account := second.account.trans first.account
  items item member := by
    rcases second.items item member with earlier | own
    · exact first.items item earlier
    · exact .inr own

theorem mono {saleId : Id} {unitIds more : List Id} {db db' : Db}
    (sold : Sold saleId unitIds db db') (subset : ∀ unitId ∈ unitIds, unitId ∈ more) :
    Sold saleId more db db' :=
  { sold with
    items := by
      intro item member
      rcases sold.items item member with old | ⟨sale, named⟩
      · exact .inl old
      · exact .inr ⟨sale, fun unitId listed => subset unitId (named unitId listed)⟩ }

end Sold

theorem insertSaleItem_ok (item : SaleItem) (db db' : Db)
    (done : insertSaleItem item db = .ok db') :
    Sold item.saleId item.unitId.toList db db' := by
  unfold insertSaleItem at done
  split at done
  · cases done
  · split at done
    · cases done
    · next saleItems inserted =>
      cases done
      refine ⟨⟨_, _, _, rfl⟩, .refl db _ rfl, rfl, id, reservedOf_congr _ _ rfl rfl, ?_⟩
      intro other member
      rw [(Table.insert?_some _ _ _ inserted).1, List.mem_append, List.mem_singleton] at member
      rcases member with old | rfl
      · exact .inl old
      · exact .inr ⟨rfl, fun unitId named => by simp [named]⟩

theorem claimUnit_ok (companyId unitId saleId : Id) (unitIds : List Id) (now : Time) (db db' : Db)
    (done : claimUnit companyId unitId now db = .ok db') : Sold saleId unitIds db db' := by
  unfold claimUnit at done
  split at done
  · cases done
  · next units claimed =>
    cases done
    have moved := Relabelled.swap claimed .inStock .sold (by decide)
      (fun unit passed => (of_decide_eq_true passed).2) (fun _ => ⟨rfl, rfl, rfl⟩)
    refine ⟨⟨_, _, _, rfl⟩, moved.stands, moved.out, id, ?_, fun _ member => .inl member⟩
    rw [moved.account]
    exact (congrArg _ (portion_zero _)).trans (add_zero _)

theorem takeStock_ok (companyId productId branchId saleId : Id) (unitIds : List Id)
    (quantity : Int) (db db' : Db)
    (done : takeStock companyId productId branchId quantity db = .ok db') :
    Sold saleId unitIds db db' := by
  unfold takeStock at done
  obtain ⟨⟨taken, found⟩, stored, done⟩ := (except_bind_ok _ _ _).mp done
  dsimp only at done
  split at done
  · cases done
  · split at done
    · cases done
    · cases done
      have moved : Restocked db db' 0 := by
        rcases updateStock_ok _ _ _ _ _ _ _ _ _ stored with
          ⟨-, rfl, -⟩ | ⟨-, item, -, -, moved⟩
        · exact .refl _
        · apply moved.cast
          rw [sub_self, portion_zero]
      obtain ⟨stockItems, equal⟩ := moved.frame
      refine ⟨⟨_, _, stockItems, equal⟩, .refl db db' ?_, ?_, moved.bounded, ?_,
        fun item member => .inl ?_⟩
      · rw [equal]
      · rw [equal]
        rfl
      · rw [moved.account, add_zero]
      · rw [equal] at member
        exact member

theorem writeLine_ok (branchId saleId itemId : Id) (line : PreparedLine) (db db' : Db)
    (done : writeLine ctx branchId saleId itemId line db = .ok db') :
    Sold saleId line.unitId.toList db db' := by
  unfold writeLine at done
  obtain ⟨listed, inserted, done⟩ := (except_bind_ok _ _ _).mp done
  have first : Sold saleId line.unitId.toList db listed := insertSaleItem_ok _ _ _ inserted
  split at done
  · exact first.trans (claimUnit_ok _ _ _ _ _ _ _ done)
  · exact first.trans (takeStock_ok _ _ _ _ _ _ _ _ done)

theorem writeLines_ok (branchId saleId : Id) (items : Nat → Id) (index : Nat)
    (lines : List PreparedLine) (db db' : Db)
    (done : writeLines ctx branchId saleId items index lines db = .ok db') :
    Sold saleId (lines.filterMap PreparedLine.unitId) db db' := by
  induction lines generalizing index db with
  | nil =>
      cases done
      exact .refl _ _ _
  | cons line rest ih =>
      unfold writeLines at done
      obtain ⟨written, first, done⟩ := (except_bind_ok _ _ _).mp done
      refine ((writeLine_ok _ _ _ _ _ _ _ first).mono ?_).trans ((ih _ _ done).mono ?_)
      · intro unitId member
        exact List.mem_filterMap.mpr ⟨line, by simp, by simpa using member⟩
      · intro unitId member
        obtain ⟨other, present, named⟩ := List.mem_filterMap.mp member
        exact List.mem_filterMap.mpr ⟨other, List.mem_cons_of_mem _ present, named⟩

theorem writePayments_ok (companyId saleId : Id) (ids : Nat → Id) (index : Nat)
    (accounts : List (PaymentInputDto × Option ReceivingAccount)) (db db' : Db)
    (done : writePayments companyId saleId ids index accounts db = .ok db') :
    ∃ payments, db' = { db with payments } := by
  induction accounts generalizing index db with
  | nil =>
      cases done
      exact ⟨_, rfl⟩
  | cons payment rest ih =>
      obtain ⟨input, account⟩ := payment
      unfold writePayments at done
      obtain ⟨written, first, done⟩ := (except_bind_ok _ _ _).mp done
      obtain ⟨payments, equal⟩ := ih _ _ done
      unfold writePayment at first
      split at first
      · cases first
      · split at first
        · cases first
        · cases first
          exact ⟨payments, equal⟩

theorem chargeCustomer_ok (companyId : Id) (customerId : Option Id) (balanceDue : Int)
    (db db' : Db) (done : chargeCustomer companyId customerId balanceDue db = .ok db') :
    ∃ customers, db' = { db with customers } := by
  unfold chargeCustomer at done
  split at done
  · cases done
    exact ⟨_, rfl⟩
  · split at done
    · cases done
      exact ⟨_, rfl⟩
    · split at done
      · cases done
      · cases done
        exact ⟨_, rfl⟩

theorem insertSale_ok (sale : Sale) (db db' : Db) (done : insertSale sale db = .ok db') :
    ∃ sales, db.sales.insert? sale = some sales ∧ db' = { db with sales } := by
  unfold insertSale at done
  split_ifs at done
  exact Table.store_ok _ _ _ _ _ done

/-- The transaction of a sale at `branchId`. -/
structure SoldAt (branchId saleId : Id) (unitIds : List Id) (db db' : Db) : Prop where
  frame : ∃ branchCounters sales saleItems units stockItems payments customers,
    db' = { db with
      branchCounters, sales, saleItems, units, stockItems, payments, customers }
  stands : Stands Nobody db db'
  out : consigned db' = consigned db
  bounded : Bounded db → Bounded db'
  account : reservedOf db' = reservedOf db
  items : ∀ item ∈ db'.saleItems.rows, item ∈ db.saleItems.rows ∨
    item.saleId = saleId ∧ ∀ unitId, item.unitId = some unitId → unitId ∈ unitIds
  sale : ∀ sale, db'.sales.find? saleId = some sale → sale.branchId = branchId

theorem writeSale_ok (branchId userId : Id) (ids : SaleIds) (dto : CreateSaleDto)
    (draft : Draft) (db db' : Db) (sale : Sale)
    (done : writeSale ctx branchId userId ids dto draft db = .ok (db', sale)) :
    SoldAt branchId ids.sale (soldUnits draft) db db' := by
  unfold writeSale at done
  obtain ⟨⟨numbered, seq⟩, counted, done⟩ := (except_bind_ok _ _ _).mp done
  obtain ⟨opened, inserted, done⟩ := (except_bind_ok _ _ _).mp done
  obtain ⟨listed, written, done⟩ := (except_bind_ok _ _ _).mp done
  obtain ⟨paid, settled, done⟩ := (except_bind_ok _ _ _).mp done
  obtain ⟨charged, balance, done⟩ := (except_bind_ok _ _ _).mp done
  cases done
  obtain ⟨counters, numberedEq⟩ := nextNumber_ok _ _ _ _ _ _ counted
  obtain ⟨sales, added, openedEq⟩ := insertSale_ok _ _ _ inserted
  have sold := writeLines_ok _ _ _ _ _ _ _ _ written
  obtain ⟨payments, paidEq⟩ := writePayments_ok _ _ _ _ _ _ _ settled
  obtain ⟨customers, chargedEq⟩ := chargeCustomer_ok _ _ _ _ _ balance
  obtain ⟨saleItems, units, stockItems, listedEq⟩ := sold.frame
  have start : opened.units = db.units ∧ opened.stockItems = db.stockItems := by
    rw [openedEq, numberedEq]
    exact ⟨rfl, rfl⟩
  have after : db'.units = listed.units ∧ db'.stockItems = listed.stockItems := by
    rw [chargedEq, paidEq]
    exact ⟨rfl, rfl⟩
  constructor
  · exact ⟨counters, sales, saleItems, units, stockItems, payments, customers, by
      rw [chargedEq, paidEq, listedEq, openedEq, numberedEq]⟩
  · intro id unit found
    rw [after.1]
    exact sold.stands id unit (by rw [start.1]; exact found)
  · unfold consigned
    rw [after.1, ← start.1]
    exact sold.out
  · intro bounded
    unfold Bounded
    rw [after.2]
    apply sold.bounded
    unfold Bounded
    rw [start.2]
    exact bounded
  · rw [reservedOf_congr listed db' after.1 after.2, sold.account,
      reservedOf_congr db opened start.1 start.2]
  · intro item member
    rw [chargedEq, paidEq] at member
    have earlier : opened.saleItems = db.saleItems := by rw [openedEq, numberedEq]
    rw [← earlier]
    exact sold.items item member
  · intro found stored
    have same : db'.sales = sales := by rw [chargedEq, paidEq, listedEq, openedEq]
    rw [same, Table.find?_insert _ _ _ added] at stored
    simp only [saleFor, if_true, Option.some.injEq] at stored
    rw [← stored]

end ErpBackend.Sales
