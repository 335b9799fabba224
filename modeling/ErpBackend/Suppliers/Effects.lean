import ErpBackend.Suppliers.Service

/-!
# What supplier payments write

A payment is recorded whole: each of its allocations names one purchase of the
payment's own supplier. A confirmation changes no allocation and no purchase
total; it makes the payment's allocations count.
-/

namespace ErpBackend.Suppliers

open Foundation

def confirmedFor (db : Db) (purchaseId : Id) : Int := paidTo db (fun _ => true) purchaseId

def allocatedBy (db : Db) (settlementId purchaseId : Id) : Int :=
  db.supplierSettlementAllocations.total (fun allocation =>
    if (allocation.settlementId, allocation.purchaseId) = (settlementId, purchaseId) then
      allocation.amount
    else 0)

def WithinTotals (db : Db) : Prop :=
  ∀ purchase ∈ db.purchases.rows, confirmedFor db purchase.id ≤ purchase.total

instance (db : Db) : Decidable (WithinTotals db) :=
  inferInstanceAs (Decidable (∀ purchase ∈ db.purchases.rows,
    confirmedFor db purchase.id ≤ purchase.total))

/-- What the foreign keys, the unique key and the `CHECK` of the allocations say, and
that a payment and the purchases it is allocated to are one supplier's. -/
structure Recorded (db : Db) : Prop where
  rooted : ∀ allocation ∈ db.supplierSettlementAllocations.rows, ∃ settlement purchase,
    db.supplierSettlements.find? allocation.settlementId = some settlement ∧
      db.purchases.find? allocation.purchaseId = some purchase ∧
      allocation.companyId = settlement.companyId ∧
      purchase.companyId = settlement.companyId ∧ purchase.supplierId = settlement.supplierId
  positive : ∀ allocation ∈ db.supplierSettlementAllocations.rows, 0 < allocation.amount
  single : (db.supplierSettlementAllocations.rows.map (fun allocation =>
    (allocation.settlementId, allocation.purchaseId))).Nodup

/-- The payment and the purchase of an allocation are one supplier's. -/
def RootedAt (db : Db) (allocation : SupplierSettlementAllocation) : Prop :=
  ∃ settlement purchase,
    db.supplierSettlements.find? allocation.settlementId = some settlement ∧
      db.purchases.find? allocation.purchaseId = some purchase ∧
      allocation.companyId = settlement.companyId ∧
      purchase.companyId = settlement.companyId ∧ purchase.supplierId = settlement.supplierId

theorem paidTo_among {db : Db}
    (rooted : ∀ allocation ∈ db.supplierSettlementAllocations.rows, RootedAt db allocation)
    (purchase : Purchase) (found : db.purchases.find? purchase.id = some purchase)
    (among : SupplierSettlement → Bool)
    (covers : ∀ row, row.companyId = purchase.companyId → row.supplierId = purchase.supplierId →
      among row = true) : paidTo db among purchase.id = confirmedFor db purchase.id := by
  unfold confirmedFor paidTo
  apply Table.total_congr
  intro allocation member
  obtain ⟨settlement, named, settled, bought, -, company, supplier⟩ := rooted allocation member
  by_cases here : allocation.purchaseId = purchase.id
  · rw [here, found] at bought
    cases bought
    simp [settled, covers settlement company.symm supplier.symm]
  · simp [here]

theorem paidTo_supplier {db : Db}
    (rooted : ∀ allocation ∈ db.supplierSettlementAllocations.rows, RootedAt db allocation)
    (purchase : Purchase) (found : db.purchases.find? purchase.id = some purchase) :
    paidTo db (fun row => row.companyId = purchase.companyId ∧
      row.supplierId = purchase.supplierId) purchase.id = confirmedFor db purchase.id :=
  paidTo_among rooted purchase found _
    (fun _ company supplier => decide_eq_true ⟨company, supplier⟩)

theorem allocatedBy_of_mem {db : Db} (recorded : Recorded db)
    (allocation : SupplierSettlementAllocation)
    (member : allocation ∈ db.supplierSettlementAllocations.rows) :
    allocatedBy db allocation.settlementId allocation.purchaseId = allocation.amount :=
  db.supplierSettlementAllocations.total_of_unique
    (fun row => (row.settlementId, row.purchaseId)) recorded.single
    SupplierSettlementAllocation.amount allocation member

theorem allocatedBy_of_none (db : Db) (settlementId purchaseId : Id)
    (absent : ∀ allocation ∈ db.supplierSettlementAllocations.rows,
      ¬ (allocation.settlementId = settlementId ∧ allocation.purchaseId = purchaseId)) :
    allocatedBy db settlementId purchaseId = 0 := by
  apply Table.total_eq_zero
  intro allocation member
  exact if_neg (fun same => absent allocation member (Prod.mk.inj same))

theorem allocatedBy_cases {db : Db} (recorded : Recorded db) (settlementId purchaseId : Id) :
    allocatedBy db settlementId purchaseId = 0 ∨
      ∃ allocation ∈ db.supplierSettlementAllocations.rows,
        allocation.settlementId = settlementId ∧ allocation.purchaseId = purchaseId ∧
          allocatedBy db settlementId purchaseId = allocation.amount := by
  by_cases named : ∃ allocation ∈ db.supplierSettlementAllocations.rows,
      allocation.settlementId = settlementId ∧ allocation.purchaseId = purchaseId
  · obtain ⟨allocation, member, same, bought⟩ := named
    subst same bought
    exact .inr ⟨allocation, member, rfl, rfl, allocatedBy_of_mem recorded allocation member⟩
  · exact .inl (allocatedBy_of_none db settlementId purchaseId
      (fun allocation member both => named ⟨allocation, member, both⟩))

/-- The parties of a payment and its allocations are settled when it is recorded, and
so is what a purchase costs; a confirmed payment stays confirmed. -/
structure Later (db db' : Db) : Prop where
  settlement : ∀ id row, db.supplierSettlements.find? id = some row →
    ∃ row', db'.supplierSettlements.find? id = some row' ∧ row'.companyId = row.companyId ∧
      row'.supplierId = row.supplierId ∧ (row'.status = .reported → row.status = .reported)
  allocations : ∀ id, db.supplierSettlements.find? id ≠ none →
    allocationsOf db' id = allocationsOf db id
  purchase : ∀ id purchase, db.purchases.find? id = some purchase →
    ∃ purchase', db'.purchases.find? id = some purchase' ∧
      purchase'.companyId = purchase.companyId ∧
      purchase'.supplierId = purchase.supplierId ∧ purchase'.total = purchase.total

namespace Later

theorem refl (db : Db) : Later db db where
  settlement := fun _ row found => ⟨row, found, rfl, rfl, fun reported => reported⟩
  allocations := fun _ _ => rfl
  purchase := fun _ purchase found => ⟨purchase, found, rfl, rfl, rfl⟩

theorem trans {db db' db'' : Db} (first : Later db db') (second : Later db' db'') :
    Later db db'' where
  settlement := by
    intro id row found
    obtain ⟨row', found', company', supplier', status'⟩ := first.settlement id row found
    obtain ⟨row'', found'', company'', supplier'', status''⟩ := second.settlement id row' found'
    exact ⟨row'', found'', company''.trans company', supplier''.trans supplier',
      fun reported => status' (status'' reported)⟩
  allocations := by
    intro id present
    obtain ⟨row, found⟩ := Option.ne_none_iff_exists'.mp present
    obtain ⟨row', found', -⟩ := first.settlement id row found
    have kept := second.allocations id (by simp [found'])
    exact kept.trans (first.allocations id present)
  purchase := by
    intro id purchase found
    obtain ⟨purchase', found', company', supplier', total'⟩ := first.purchase id purchase found
    obtain ⟨purchase'', found'', company'', supplier'', total''⟩ :=
      second.purchase id purchase' found'
    exact ⟨purchase'', found'', company''.trans company', supplier''.trans supplier',
      total''.trans total'⟩

theorem allocation {db db' : Db} (later : Later db db') (id : Id)
    (present : db.supplierSettlements.find? id ≠ none)
    (allocation : SupplierSettlementAllocation)
    (member : allocation ∈ db'.supplierSettlementAllocations.rows)
    (own : allocation.settlementId = id) :
    allocation ∈ db.supplierSettlementAllocations.rows := by
  have listed : allocation ∈ allocationsOf db' id :=
    (db'.supplierSettlementAllocations.mem_filter _ _).mpr ⟨member, by simp [own]⟩
  rw [later.allocations id present] at listed
  exact ((db.supplierSettlementAllocations.mem_filter _ _).mp listed).1

end Later

theorem insertSettlement_ok {row : SupplierSettlement} {db db' : Db}
    (done : insertSettlement row db = .ok db') :
    0 < row.amount ∧ db.suppliers.find? row.supplierId ≠ none ∧
      ∃ supplierSettlements, db.supplierSettlements.insert? row = some supplierSettlements ∧
        db' = { db with supplierSettlements } := by
  unfold insertSettlement at done
  split_ifs at done with nothing unmatched taken unknown
  exact ⟨nothing, unknown, Table.store_ok _ _ _ _ _ done⟩

theorem insertAllocation_ok {row : SupplierSettlementAllocation} {db db' : Db}
    (done : insertAllocation row db = .ok db') :
    0 < row.amount ∧
      (∀ other ∈ db.supplierSettlementAllocations.rows,
        ¬ (other.settlementId = row.settlementId ∧ other.purchaseId = row.purchaseId)) ∧
      ∃ supplierSettlementAllocations,
        db.supplierSettlementAllocations.insert? row = some supplierSettlementAllocations ∧
        db' = { db with supplierSettlementAllocations } := by
  unfold insertAllocation at done
  split_ifs at done with positive fresh _
  split at done
  · cases done
  · next inserted =>
    cases done
    refine ⟨by simpa using positive, ?_, _, inserted, rfl⟩
    have none_same := (Table.any_eq_false _ _).mp (by simpa using fresh)
    intro other member both
    simpa [both.1, both.2] using none_same other member

structure Allocates (settlementId : Id) (db db' : Db) : Prop where
  recorded : Recorded db'
  settlements : db'.supplierSettlements = db.supplierSettlements
  purchases : db'.purchases = db.purchases
  confirmed : ∀ purchaseId, confirmedFor db' purchaseId = confirmedFor db purchaseId
  others : ∀ id, id ≠ settlementId → allocationsOf db' id = allocationsOf db id

theorem insertAllocation_allocates {row : SupplierSettlementAllocation} {db db' : Db}
    (recorded : Recorded db) (settlement : SupplierSettlement) (purchase : Purchase)
    (settled : db.supplierSettlements.find? row.settlementId = some settlement)
    (bought : db.purchases.find? row.purchaseId = some purchase)
    (reported : settlement.status = .reported) (own : row.companyId = settlement.companyId)
    (company : purchase.companyId = settlement.companyId)
    (supplier : purchase.supplierId = settlement.supplierId)
    (done : insertAllocation row db = .ok db') : Allocates row.settlementId db db' := by
  obtain ⟨positive, fresh, table, inserted, rfl⟩ := insertAllocation_ok done
  obtain ⟨rows, -⟩ := Table.insert?_some _ _ _ inserted
  have either : ∀ allocation ∈ table.rows,
      allocation ∈ db.supplierSettlementAllocations.rows ∨ allocation = row := by
    intro allocation member
    rw [rows] at member
    simpa using member
  refine ⟨⟨?_, ?_, ?_⟩, rfl, rfl, ?_, ?_⟩
  · intro allocation member
    rcases either allocation member with old | rfl
    · exact recorded.rooted allocation old
    · exact ⟨settlement, purchase, settled, bought, own, company, supplier⟩
  · intro allocation member
    rcases either allocation member with old | rfl
    · exact recorded.positive allocation old
    · exact positive
  · show (table.rows.map _).Nodup
    rw [rows, List.map_append]
    apply List.Nodup.append recorded.single (List.nodup_singleton _)
    intro pair present single
    obtain ⟨other, member, same⟩ := List.mem_map.mp present
    rw [List.mem_singleton] at single
    exact fresh other member (Prod.mk.inj (same.trans single))
  · intro purchaseId
    unfold confirmedFor paidTo
    -- the payment is only reported, so the new allocation adds nothing
    have idle : (db.supplierSettlements.find? row.settlementId).any (fun current =>
        stands db current) = false := by
      simp [settled, stands, reported]
    rw [Table.total_insert _ _ _ inserted]
    have corrections : stands { db with supplierSettlementAllocations := table } = stands db :=
      rfl
    simp only [corrections, true_and] at idle ⊢
    simp [idle]
  · intro id other
    show table.filter _ = _
    unfold allocationsOf Table.filter
    rw [rows, List.filter_append]
    simp [Ne.symm other]

theorem Allocates.trans {settlementId : Id} {db db' db'' : Db}
    (first : Allocates settlementId db db') (second : Allocates settlementId db' db'') :
    Allocates settlementId db db'' where
  recorded := second.recorded
  settlements := second.settlements.trans first.settlements
  purchases := second.purchases.trans first.purchases
  confirmed := fun purchaseId => (second.confirmed purchaseId).trans (first.confirmed purchaseId)
  others := fun id other => (second.others id other).trans (first.others id other)

theorem insertAllocations_allocates (companyId : Id) (ids : Nat → Id) (index : Nat)
    (allocations : List AllocationInput) (db db' : Db) (recorded : Recorded db)
    (settlement : SupplierSettlement)
    (settled : db.supplierSettlements.find? settlement.id = some settlement)
    (reported : settlement.status = .reported) (own : settlement.companyId = companyId)
    (bought : ∀ allocation ∈ allocations, ∃ purchase,
      db.purchases.find? allocation.purchaseId = some purchase ∧
        purchase.companyId = settlement.companyId ∧
        purchase.supplierId = settlement.supplierId)
    (done : insertAllocations companyId settlement.id ids index allocations db = .ok db') :
    Allocates settlement.id db db' := by
  induction allocations generalizing index db with
  | nil =>
      cases done
      exact ⟨recorded, rfl, rfl, fun _ => rfl, fun _ _ => rfl⟩
  | cons allocation rest ih =>
      obtain ⟨written, first, later⟩ := (except_bind_ok _ _ _).mp done
      obtain ⟨purchase, found, company, supplier⟩ := bought allocation (by simp)
      have step := insertAllocation_allocates recorded settlement purchase settled found reported
        own.symm company supplier first
      refine step.trans (ih (index + 1) written step.recorded ?_ ?_ later)
      · rw [step.settlements]
        exact settled
      · intro other member
        rw [step.purchases]
        exact bought other (List.mem_cons_of_mem _ member)

theorem writeReport_ok {companyId : Id} {ids : SettlementIds} {row : SupplierSettlement}
    {allocations : List AllocationInput} {db db' : Db} (recorded : Recorded db)
    (reported : row.status = .reported) (own : row.companyId = companyId)
    (bought : ∀ allocation ∈ allocations, ∃ purchase,
      db.purchases.find? allocation.purchaseId = some purchase ∧
        purchase.companyId = row.companyId ∧ purchase.supplierId = row.supplierId)
    (done : writeReport companyId ids row allocations db = .ok (db', ())) :
    Recorded db' ∧ Later db db' ∧ db'.purchases = db.purchases ∧
      ∀ purchaseId, confirmedFor db' purchaseId = confirmedFor db purchaseId := by
  obtain ⟨opened, first, rest⟩ := (except_bind_ok _ _ _).mp done
  obtain ⟨written, second, equal⟩ := (except_bind_ok _ _ _).mp rest
  obtain rfl : written = db' := congrArg Prod.fst (Except.ok.inj equal)
  obtain ⟨-, -, table, inserted, rfl⟩ := insertSettlement_ok first
  have found := Table.find?_insert _ _ _ inserted
  obtain ⟨-, fresh⟩ := Table.insert?_some _ _ _ inserted
  have new_id : db.supplierSettlements.find? row.id = none :=
    (Table.find?_none _ _).mpr fresh
  -- every payment on the books keeps its row
  have kept : ∀ id settlement, db.supplierSettlements.find? id = some settlement →
      table.find? id = some settlement := by
    intro id settlement settled
    rw [found id, if_neg]
    · exact settled
    · rintro rfl
      rw [new_id] at settled
      cases settled
  have opened_recorded : Recorded { db with supplierSettlements := table } := by
    refine ⟨?_, recorded.positive, recorded.single⟩
    intro allocation member
    obtain ⟨settlement, purchase, settled, rest⟩ := recorded.rooted allocation member
    exact ⟨settlement, purchase, kept _ _ settled, rest⟩
  have opened_confirmed : ∀ purchaseId, confirmedFor { db with supplierSettlements := table }
      purchaseId = confirmedFor db purchaseId := by
    intro purchaseId
    apply Table.total_congr
    intro allocation member
    obtain ⟨settlement, -, settled, -⟩ := recorded.rooted allocation member
    have same : stands { db with supplierSettlements := table } = stands db := rfl
    simp only [same, settled, kept _ _ settled]
  have adds := insertAllocations_allocates companyId ids.allocation 0 allocations _ written
    opened_recorded row (by rw [found]; simp) reported own bought second
  refine ⟨adds.recorded, ⟨?_, ?_, ?_⟩, adds.purchases, ?_⟩
  · intro id settlement settled
    refine ⟨settlement, ?_, rfl, rfl, fun status => status⟩
    rw [adds.settlements]
    exact kept id settlement settled
  · intro id present
    apply adds.others id
    rintro rfl
    exact present new_id
  · intro id purchase present
    refine ⟨purchase, ?_, rfl, rfl, rfl⟩
    rw [adds.purchases]
    exact present
  · exact fun purchaseId => (adds.confirmed purchaseId).trans (opened_confirmed purchaseId)

/-- Only the projection columns of purchases change. -/
structure Refreshed (db db' : Db) : Prop where
  frame : ∃ purchases, db' = { db with purchases }
  forward : ∀ id purchase, db.purchases.find? id = some purchase →
    ∃ purchase', db'.purchases.find? id = some purchase' ∧
      purchase'.companyId = purchase.companyId ∧
      purchase'.supplierId = purchase.supplierId ∧ purchase'.total = purchase.total
  back : ∀ purchase' ∈ db'.purchases.rows, ∃ purchase ∈ db.purchases.rows,
    purchase.id = purchase'.id ∧ purchase.total = purchase'.total

theorem Refreshed.trans {db db' db'' : Db} (first : Refreshed db db')
    (second : Refreshed db' db'') : Refreshed db db'' where
  frame := by
    obtain ⟨_, same⟩ := first.frame
    obtain ⟨purchases, same'⟩ := second.frame
    exact ⟨purchases, by rw [same', same]⟩
  forward := by
    intro id purchase found
    obtain ⟨purchase', found', company', supplier', total'⟩ := first.forward id purchase found
    obtain ⟨purchase'', found'', company'', supplier'', total''⟩ :=
      second.forward id purchase' found'
    exact ⟨purchase'', found'', company''.trans company', supplier''.trans supplier',
      total''.trans total'⟩
  back := by
    intro purchase'' member''
    obtain ⟨purchase', member', id', total'⟩ := second.back purchase'' member''
    obtain ⟨purchase, member, id, total⟩ := first.back purchase' member'
    exact ⟨purchase, member, id.trans id', total.trans total'⟩

theorem refreshPurchase_ok {companyId purchaseId : Id} {db db' : Db}
    (done : refreshPurchase companyId purchaseId db = .ok db') : Refreshed db db' := by
  unfold refreshPurchase at done
  dsimp only at done
  split at done
  · cases done
  · next table swapped =>
    cases done
    obtain ⟨row, stored, -, rfl⟩ := (Table.swap?_some _ _ _ _ _ _).mp swapped
    refine ⟨⟨_, rfl⟩, ?_, ?_⟩
    · intro id purchase found
      rw [Table.find?_update]
      split
      · next same =>
        subst same
        rw [found]
        exact ⟨_, rfl, rfl, rfl, rfl⟩
      · exact ⟨purchase, found, rfl, rfl, rfl⟩
    · intro purchase' member
      rw [Table.mem_update] at member
      rcases member with ⟨old, -⟩ | ⟨purchase, found, rfl⟩
      · exact ⟨purchase', old, rfl, rfl⟩
      · exact ⟨purchase, Table.mem_of_find? _ _ _ found, rfl, rfl⟩

theorem refreshPurchases_ok (companyId : Id) (allocations : List SupplierSettlementAllocation)
    (db db' : Db) (done : refreshPurchases companyId allocations db = .ok db') :
    Refreshed db db' := by
  induction allocations generalizing db with
  | nil =>
      cases done
      exact ⟨⟨_, rfl⟩, fun _ purchase found => ⟨purchase, found, rfl, rfl, rfl⟩,
        fun purchase member => ⟨purchase, member, rfl, rfl⟩⟩
  | cons allocation rest ih =>
      obtain ⟨refreshed, first, later⟩ := (except_bind_ok _ _ _).mp done
      exact (refreshPurchase_ok first).trans (ih refreshed later)

theorem writeConfirmation_ok {ctx : Ctx} {row : SupplierSettlement} {expectedVersion : Nat}
    {allocations : List SupplierSettlementAllocation} {db db' : Db}
    (done : writeConfirmation ctx row expectedVersion allocations db = .ok db') :
    ∃ current suppliers, db.supplierSettlements.find? row.id = some current ∧
      current.status = .reported ∧
      Refreshed { db with
        supplierSettlements := db.supplierSettlements.update row.id (confirmed ctx)
          (confirmed_id ctx)
        suppliers } db' := by
  unfold writeConfirmation at done
  split at done
  · cases done
  · next table swapped =>
    obtain ⟨current, stored, guarded, rfl⟩ := (Table.swap?_some _ _ _ _ _ _).mp swapped
    split at done
    · cases done
    · next suppliers _ =>
      have reported : current.status = .reported := by
        simp only [decide_eq_true_eq] at guarded
        exact guarded.2.2
      exact ⟨current, suppliers, stored, reported, refreshPurchases_ok _ _ _ _ done⟩

end ErpBackend.Suppliers
