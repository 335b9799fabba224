import ErpBackend.Inventory.Reservations
import ErpBackend.Purchasing.Service
import ErpBackend.Suppliers.Payable

/-!
# What a purchase writes

One purchase of one supplier, worth more than nothing and paid at most in full;
what is left goes on the supplier's balance, and what was paid becomes one payment.
-/

namespace ErpBackend.Purchasing

open Foundation Inventory

def Shelved (db db' : Db) : Prop :=
  ∃ purchaseItems units stockItems, db' = { db with purchaseItems, units, stockItems }

theorem Shelved.refl (db : Db) : Shelved db db :=
  ⟨db.purchaseItems, db.units, db.stockItems, rfl⟩

theorem Shelved.trans {db db' db'' : Db} (first : Shelved db db') (second : Shelved db' db'') :
    Shelved db db'' := by
  obtain ⟨_, _, _, rfl⟩ := first
  obtain ⟨purchaseItems, units, stockItems, rfl⟩ := second
  exact ⟨purchaseItems, units, stockItems, rfl⟩

theorem insertItem_ok (row : PurchaseItem) (db db' : Db) (done : insertItem row db = .ok db') :
    Shelved db db' := by
  unfold insertItem at done
  split_ifs at done
  split at done
  · cases done
  · next purchaseItems _ =>
    cases done
    exact ⟨purchaseItems, db.units, db.stockItems, rfl⟩

theorem insertUnit_ok (unit : StockUnit) (db db' : Db) (done : insertUnit unit db = .ok db') :
    Shelved db db' := by
  unfold insertUnit at done
  dsimp only at done
  split_ifs at done
  split at done
  · cases done
  · next units _ =>
    cases done
    exact ⟨db.purchaseItems, units, db.stockItems, rfl⟩

theorem writeUnits_ok (ctx : Ctx) (branchId : Id) (ids : PurchaseIds) (index : Nat)
    (units : List PreparedUnit) (db db' : Db)
    (done : writeUnits ctx branchId ids index units db = .ok db') : Shelved db db' := by
  induction units generalizing index db with
  | nil =>
      cases done
      exact .refl db'
  | cons unit rest ih =>
      obtain ⟨listed, first, done⟩ := (except_bind_ok _ _ _).mp done
      obtain ⟨shelved, second, done⟩ := (except_bind_ok _ _ _).mp done
      exact ((insertItem_ok _ _ _ first).trans (insertUnit_ok _ _ _ second)).trans
        (ih _ _ done)

theorem writeStock_ok (ctx : Ctx) (branchId : Id) (ids : PurchaseIds) (index : Nat)
    (lines : List PreparedStock) (db db' : Db)
    (done : writeStock ctx branchId ids index lines db = .ok db') : Shelved db db' := by
  induction lines generalizing index db with
  | nil =>
      cases done
      exact .refl db'
  | cons line rest ih =>
      obtain ⟨listed, first, done⟩ := (except_bind_ok _ _ _).mp done
      obtain ⟨shelved, second, done⟩ := (except_bind_ok _ _ _).mp done
      obtain ⟨stockItems, rfl⟩ := (receiveQuantityAtCost_ok _ _ _ _ _ _ _ _ second).frame
      exact ((insertItem_ok _ _ _ first).trans ⟨_, _, stockItems, rfl⟩).trans (ih _ _ done)

/-- One supplier's balance moves, and nothing else of any supplier. -/
def Charged (supplierId : Id) (amount : Int) (suppliers suppliers' : Table Supplier Supplier.id) :
    Prop :=
  ∀ id, suppliers'.find? id = (suppliers.find? id).map (fun supplier =>
    if id = supplierId then { supplier with balance := supplier.balance + amount }
    else supplier)

theorem Charged.zero (supplierId : Id) (suppliers : Table Supplier Supplier.id) :
    Charged supplierId 0 suppliers suppliers := by
  intro id
  simp

theorem Charged.update (supplierId : Id) (amount : Int) (suppliers : Table Supplier Supplier.id)
    (f : Supplier → Supplier) (keep : ∀ supplier, (f supplier).id = supplier.id)
    (moved : ∀ supplier, f supplier = { supplier with balance := supplier.balance + amount }) :
    Charged supplierId amount suppliers (suppliers.update supplierId f keep) := by
  intro id
  rw [Table.find?_update]
  split
  · next same =>
    rw [same]
    congr 1
    funext supplier
    rw [moved]
  · simp

theorem addPayable_ok (companyId supplierId : Id) (payable : Int) (db db' : Db)
    (done : addPayable companyId supplierId payable db = .ok db') :
    ∃ suppliers, Charged supplierId payable db.suppliers suppliers ∧
      db' = { db with suppliers } := by
  unfold addPayable at done
  split at done
  · next nothing =>
    cases done
    exact ⟨db.suppliers, nothing ▸ .zero supplierId db.suppliers, rfl⟩
  · split at done
    · cases done
    · next suppliers swapped =>
      cases done
      obtain ⟨supplier, found, -, rfl⟩ := (Table.swap?_some _ _ _ _ _ _).mp swapped
      exact ⟨_, .update supplierId payable db.suppliers _ _ (fun _ => rfl), rfl⟩

def upFront (db : Db) (purchaseId : Id) : Int :=
  db.supplierPayments.total (fun payment =>
    if payment.purchaseId = some purchaseId then payment.amount else 0)

def PaymentsRooted (db : Db) : Prop :=
  ∀ payment ∈ db.supplierPayments.rows, 0 < payment.amount ∧ ∃ purchaseId,
    payment.purchaseId = some purchaseId ∧ db.purchases.find? purchaseId ≠ none

structure Bought (purchase : Purchase) (db db' : Db) : Prop where
  inserted : db.purchases.insert? purchase = some db'.purchases
  worth : 0 < purchase.total
  nonneg : 0 ≤ purchase.amountPaid
  within : purchase.amountPaid ≤ purchase.total
  status : purchase.status = Suppliers.purchaseStatusOf purchase.total purchase.amountPaid
  supplied : db.suppliers.find? purchase.supplierId ≠ none
  charged : Charged purchase.supplierId (purchase.total - purchase.amountPaid) db.suppliers
    db'.suppliers
  paid : ∀ id, upFront db' id =
    upFront db id + if id = purchase.id then purchase.amountPaid else 0
  payments : ∀ payment ∈ db'.supplierPayments.rows, payment ∈ db.supplierPayments.rows ∨
    0 < payment.amount ∧ payment.purchaseId = some purchase.id
  settlements : db'.supplierSettlements = db.supplierSettlements
  allocations : db'.supplierSettlementAllocations = db.supplierSettlementAllocations
  corrections : db'.financialCorrections = db.financialCorrections

theorem insertPurchase_ok (row : Purchase) (db db' : Db) (done : insertPurchase row db = .ok db') :
    db.suppliers.find? row.supplierId ≠ none ∧
      ∃ purchases, db.purchases.insert? row = some purchases ∧ db' = { db with purchases } := by
  unfold insertPurchase at done
  split_ifs at done with taken unknown
  exact ⟨unknown, Table.store_ok _ _ _ _ _ done⟩

theorem insertPayment_ok (row : SupplierPayment) (purchaseId : Id) (db db' : Db)
    (named : row.purchaseId = some purchaseId) (nonneg : 0 ≤ row.amount)
    (done : insertPayment row db = .ok db') :
    ∃ supplierPayments, db' = { db with supplierPayments } ∧
      (∀ id, upFront db' id = upFront db id + if id = purchaseId then row.amount else 0) ∧
      ∀ payment ∈ supplierPayments.rows, payment ∈ db.supplierPayments.rows ∨
        0 < payment.amount ∧ payment.purchaseId = some purchaseId := by
  unfold insertPayment at done
  split at done
  · next nothing =>
    cases done
    have zero : row.amount = 0 := by omega
    refine ⟨db.supplierPayments, rfl, ?_, fun payment member => .inl member⟩
    intro id
    simp [zero]
  · next something =>
    split at done
    · cases done
    · next supplierPayments inserted =>
      cases done
      refine ⟨supplierPayments, rfl, ?_, ?_⟩
      · intro id
        unfold upFront
        rw [Table.total_insert _ _ _ inserted, named]
        simp [eq_comm]
      · intro payment member
        rw [(Table.insert?_some _ _ _ inserted).1, List.mem_append, List.mem_singleton] at member
        rcases member with old | rfl
        · exact .inl old
        · exact .inr ⟨not_not.mp something, named⟩

theorem statusAtReceipt_eq (total amountPaid : Int) (worth : 0 < total) :
    statusAtReceipt total amountPaid = Suppliers.purchaseStatusOf total amountPaid := by
  unfold statusAtReceipt Suppliers.purchaseStatusOf
  split_ifs
  all_goals first | rfl | omega

theorem paidUpFront_nonneg (dto : CreatePurchaseDto) : 0 ≤ paidUpFront dto := by
  unfold paidUpFront
  cases dto.paidAmount with
  | none => exact Int.le_refl 0
  | some paid => exact paid.nonneg

theorem writePurchase_ok (ctx : Ctx) (branchId : Id) (ids : PurchaseIds) (dto : CreatePurchaseDto)
    (delivery : Delivery) (db db' : Db) (worth : 0 < delivery.total)
    (within : paidUpFront dto ≤ delivery.total)
    (done : writePurchase ctx branchId ids dto delivery db = .ok (db', ())) :
    Bought (newPurchase ctx branchId ids.purchase dto delivery.total) db db' := by
  obtain ⟨bought, first, done⟩ := (except_bind_ok _ _ _).mp done
  obtain ⟨phones, second, done⟩ := (except_bind_ok _ _ _).mp done
  obtain ⟨goods, third, done⟩ := (except_bind_ok _ _ _).mp done
  obtain ⟨owed, fourth, done⟩ := (except_bind_ok _ _ _).mp done
  obtain ⟨paid, fifth, done⟩ := (except_bind_ok _ _ _).mp done
  obtain rfl : paid = db' := congrArg Prod.fst (Except.ok.inj done)
  obtain ⟨supplied, purchases, inserted, rfl⟩ := insertPurchase_ok _ _ _ first
  obtain ⟨purchaseItems, units, stockItems, rfl⟩ :=
    (writeUnits_ok _ _ _ _ _ _ _ second).trans (writeStock_ok _ _ _ _ _ _ _ third)
  obtain ⟨suppliers, charged, rfl⟩ := addPayable_ok _ _ _ _ _ fourth
  obtain ⟨supplierPayments, same, added, payments⟩ :=
    insertPayment_ok _ ids.purchase _ _ rfl (paidUpFront_nonneg dto) fifth
  exact
    { inserted := by rw [same]; exact inserted
      worth
      nonneg := paidUpFront_nonneg dto
      within
      status := statusAtReceipt_eq _ _ worth
      supplied
      charged := by rw [same]; exact charged
      paid := added
      payments := by rw [same]; exact payments
      settlements := by rw [same]
      allocations := by rw [same]
      corrections := by rw [same] }

structure Priced (delivery : Delivery) : Prop where
  units : ∀ unit ∈ delivery.units, 0 < unit.cost
  stock : ∀ line ∈ delivery.stock, 0 < line.cost * line.quantity

variable {delivery : Delivery}

theorem Priced.reject (priced : Priced delivery)
    (identifier reason : String) : Priced (delivery.reject identifier reason) :=
  ⟨priced.units, priced.stock⟩

theorem Priced.prepareIdentifier (priced : Priced delivery)
    (product : Product) (cost : Int) (positive : 0 < cost) (raw : String) :
    Priced (prepareIdentifier product cost delivery raw) := by
  unfold Purchasing.prepareIdentifier
  dsimp only
  split
  · exact priced.reject _ _
  · split
    · exact priced.reject _ _
    · refine ⟨?_, priced.stock⟩
      intro unit member
      rcases List.mem_append.mp member with old | new
      · exact priced.units unit old
      · rw [List.mem_singleton.mp new]
        exact positive

theorem Priced.prepareIdentifiers (product : Product) (cost : Int) (positive : 0 < cost)
    (codes : List String) (delivery : Delivery) (priced : Priced delivery) :
    Priced (codes.foldl (Purchasing.prepareIdentifier product cost) delivery) := by
  induction codes generalizing delivery with
  | nil => exact priced
  | cons raw rest ih => exact ih _ (priced.prepareIdentifier product cost positive raw)

theorem Priced.prepareItem (priced : Priced delivery)
    (products : Id → Option Product) (item : ReceiveItemDto) :
    Priced (prepareItem products delivery item) := by
  unfold Purchasing.prepareItem
  split
  · exact priced.reject _ _
  · next product _ =>
    split
    · split
      · exact priced.reject _ _
      · exact .prepareIdentifiers product _ item.unitCost.positive _ delivery priced
    · split
      · exact priced.reject _ _
      · next quantity _ =>
        refine ⟨priced.units, ?_⟩
        intro line member
        rcases List.mem_append.mp member with old | new
        · exact priced.stock line old
        · rw [List.mem_singleton.mp new]
          exact Int.mul_pos item.unitCost.positive quantity.positive

theorem prepare_priced (products : Id → Option Product) (items : List ReceiveItemDto) :
    Priced (prepare products items) := by
  unfold prepare
  have start : Priced {} :=
    ⟨fun _ member => (by cases member), fun _ member => (by cases member)⟩
  generalize ({} : Delivery) = delivery at start
  induction items generalizing delivery with
  | nil => exact start
  | cons item rest ih => exact ih _ (start.prepareItem products item)

theorem Priced.withoutExisting (priced : Priced delivery)
    (existing : List String) : Priced (delivery.withoutExisting existing) :=
  ⟨fun unit member => priced.units unit (List.mem_of_mem_filter member), priced.stock⟩

theorem Priced.total_pos (priced : Priced delivery)
    (kept : ¬ (delivery.units = [] ∧ delivery.stock = [])) : 0 < delivery.total := by
  have units : 0 ≤ (delivery.units.map PreparedUnit.cost).sum := by
    apply List.sum_nonneg
    intro cost member
    obtain ⟨unit, present, rfl⟩ := List.mem_map.mp member
    exact (priced.units unit present).le
  have stock : 0 ≤ (delivery.stock.map (fun line => line.cost * line.quantity)).sum := by
    apply List.sum_nonneg
    intro cost member
    obtain ⟨line, present, rfl⟩ := List.mem_map.mp member
    exact (priced.stock line present).le
  unfold Delivery.total
  by_cases phones : delivery.units = []
  · have goods : delivery.stock ≠ [] := fun none_left => kept ⟨phones, none_left⟩
    have above : 0 < (delivery.stock.map (fun line => line.cost * line.quantity)).sum := by
      apply List.sum_pos
      · intro cost member
        obtain ⟨line, present, rfl⟩ := List.mem_map.mp member
        exact priced.stock line present
      · simpa using goods
    omega
  · have above : 0 < (delivery.units.map PreparedUnit.cost).sum := by
      apply List.sum_pos
      · intro cost member
        obtain ⟨unit, present, rfl⟩ := List.mem_map.mp member
        exact priced.units unit present
      · simpa using phones
    omega

end ErpBackend.Purchasing
