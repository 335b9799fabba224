import ErpBackend.Suppliers.Safety

/-!
# Payments and their allocations

In every run, a payment is the sum of its allocations, and each of them goes to a
purchase of the payment's supplier.
-/

namespace ErpBackend.Suppliers

open Foundation Purchasing

def shareOf (rows : List SupplierSettlementAllocation) (settlementId : Id) : Int :=
  (rows.map (fun allocation =>
    if allocation.settlementId = settlementId then allocation.amount else 0)).sum

structure Booked (db : Db) : Prop where
  rooted : ∀ allocation ∈ db.supplierSettlementAllocations.rows, RootedAt db allocation
  positive : ∀ allocation ∈ db.supplierSettlementAllocations.rows, 0 < allocation.amount
  whole : ∀ row ∈ db.supplierSettlements.rows, 0 < row.amount ∧
    shareOf db.supplierSettlementAllocations.rows row.id = row.amount

theorem shareOf_append (left right : List SupplierSettlementAllocation) (settlementId : Id) :
    shareOf (left ++ right) settlementId = shareOf left settlementId +
      shareOf right settlementId := by
  simp [shareOf]

variable (rows : List SupplierSettlementAllocation)

variable (settlementId : Id)

theorem shareOf_of_none (apart : ∀ allocation ∈ rows, allocation.settlementId ≠ settlementId) :
    shareOf rows settlementId = 0 := by
  unfold shareOf
  apply List.sum_eq_zero
  intro amount member
  obtain ⟨allocation, present, rfl⟩ := List.mem_map.mp member
  exact if_neg (apart allocation present)

theorem shareOf_of_all (own : ∀ allocation ∈ rows, allocation.settlementId = settlementId) :
    shareOf rows settlementId = (rows.map SupplierSettlementAllocation.amount).sum := by
  unfold shareOf
  congr 1
  apply List.map_congr_left
  exact fun allocation member => if_pos (own allocation member)

theorem shareOf_filter (keeps : SupplierSettlementAllocation → Bool)
    (own : ∀ allocation ∈ rows, allocation.settlementId = settlementId →
      keeps allocation = true) :
    shareOf (rows.filter keeps) settlementId = shareOf rows settlementId := by
  induction rows with
  | nil => rfl
  | cons head tail ih =>
      have rest := ih (fun allocation member => own allocation (List.mem_cons_of_mem _ member))
      unfold shareOf at rest ⊢
      by_cases kept : keeps head = true
      · simp only [List.filter_cons_of_pos kept, List.map_cons, List.sum_cons, rest]
      · have apart : head.settlementId ≠ settlementId :=
          fun same => kept (own head (by simp) same)
        simp [kept, apart, rest]

theorem Booked.allocated {db : Db} (booked : Booked db) (row : SupplierSettlement)
    (member : row ∈ db.supplierSettlements.rows) :
    ∃ allocation ∈ db.supplierSettlementAllocations.rows, allocation.settlementId = row.id := by
  obtain ⟨positive, whole⟩ := booked.whole row member
  by_contra bare
  rw [shareOf_of_none _ _ (fun allocation present own => bare ⟨allocation, present, own⟩)] at whole
  omega

section Sums

variable (db : Db)

def paidBy (passes : SupplierSettlement → Bool) : Int :=
  db.supplierSettlementAllocations.total (fun allocation =>
    if (db.supplierSettlements.find? allocation.settlementId).any passes then allocation.amount
    else 0)

def paidAt (passes : SupplierSettlement → Bool) (purchaseId : Id) : Int :=
  db.supplierSettlementAllocations.total (fun allocation =>
    if (db.supplierSettlements.find? allocation.settlementId).any passes then
      if allocation.purchaseId = purchaseId then allocation.amount else 0
    else 0)

theorem paidTo_eq (among : SupplierSettlement → Bool) (purchaseId : Id) :
    paidTo db among purchaseId = paidAt db (fun row => among row ∧ stands db row) purchaseId := by
  unfold paidTo paidAt
  apply Table.total_congr
  intro allocation _
  rcases db.supplierSettlements.find? allocation.settlementId with _ | row
  · simp
  · by_cases here : allocation.purchaseId = purchaseId
    · simp [here]
    · simp [here]

theorem confirmedFor_eq (purchaseId : Id) :
    confirmedFor db purchaseId = paidAt db (stands db) purchaseId := by
  unfold confirmedFor
  rw [paidTo_eq]
  simp

variable {db}

theorem Booked.spread (booked : Booked db) (mine : Purchase → Bool)
    (passes : SupplierSettlement → Bool)
    (own : ∀ row purchase, purchase.companyId = row.companyId →
      purchase.supplierId = row.supplierId → passes row = true → mine purchase = true) :
    db.purchases.total (fun purchase =>
      if mine purchase then paidAt db passes purchase.id else 0) = paidBy db passes := by
  have grouped := Table.total_group db.supplierSettlementAllocations db.purchases
    SupplierSettlementAllocation.purchaseId mine (fun allocation =>
      if (db.supplierSettlements.find? allocation.settlementId).any passes then
        allocation.amount
      else 0)
  have swapped : db.purchases.total (fun purchase =>
      if mine purchase then paidAt db passes purchase.id else 0) =
      db.purchases.total (fun purchase => if mine purchase then
        db.supplierSettlementAllocations.total (fun allocation =>
          if allocation.purchaseId = purchase.id then
            if (db.supplierSettlements.find? allocation.settlementId).any passes then
              allocation.amount
            else 0
          else 0) else 0) := by
    unfold paidAt
    apply Table.total_congr
    intro purchase _
    congr 1
    apply Table.total_congr
    intro allocation _
    split_ifs <;> rfl
  rw [swapped, ← grouped]
  apply Table.total_congr
  intro allocation member
  obtain ⟨row, purchase, settled, bought, -, company, supplier⟩ :=
    booked.rooted allocation member
  rw [settled, bought, Option.any_some, Option.any_some]
  by_cases passed : passes row = true
  · rw [if_pos (own row purchase company supplier passed)]
  · simp [passed]

theorem Booked.paidBy_eq (booked : Booked db) (passes : SupplierSettlement → Bool) :
    paidBy db passes = db.supplierSettlements.total (fun row =>
      if passes row then row.amount else 0) := by
  unfold paidBy
  rw [Table.total_group db.supplierSettlementAllocations db.supplierSettlements
    SupplierSettlementAllocation.settlementId]
  apply Table.total_congr
  intro row member
  congr 1
  exact (booked.whole row member).2

end Sums

theorem rooted_onward {amends : Prop} {db db' : Db} (onward : Onward amends db db')
    (allocation : SupplierSettlementAllocation) (rooted : RootedAt db allocation) :
    RootedAt db' allocation := by
  obtain ⟨settlement, purchase, settled, bought, own, company, supplier⟩ := rooted
  obtain ⟨settlement', settled', company', supplier', -⟩ := onward.settlement _ settlement settled
  obtain ⟨purchase', bought', company'', supplier'', -⟩ := onward.purchase _ purchase bought
  refine ⟨settlement', purchase', settled', bought', ?_, ?_, ?_⟩
  · rw [company', own]
  · rw [company'', company', company]
  · rw [supplier'', supplier', supplier]

theorem Booked.keep {amends : Prop} {db db' : Db} (booked : Booked db)
    (onward : Onward amends db db')
    (allocations : db'.supplierSettlementAllocations = db.supplierSettlementAllocations)
    (settlements : ∀ row' ∈ db'.supplierSettlements.rows, ∃ row ∈ db.supplierSettlements.rows,
      row.id = row'.id ∧ row.amount = row'.amount) : Booked db' := by
  refine ⟨?_, ?_, ?_⟩
  · intro allocation member
    rw [allocations] at member
    exact rooted_onward onward allocation (booked.rooted allocation member)
  · rw [allocations]
    exact booked.positive
  · intro row' member
    obtain ⟨row, present, id, amount⟩ := settlements row' member
    rw [allocations, ← id, ← amount]
    exact booked.whole row present

theorem settlement_before {db db' : Db} (id : Id) (f : SupplierSettlement → SupplierSettlement)
    (keep : ∀ row, (f row).id = row.id) (same : ∀ row, (f row).amount = row.amount)
    (settlements : db'.supplierSettlements = db.supplierSettlements.update id f keep)
    (row' : SupplierSettlement) (member : row' ∈ db'.supplierSettlements.rows) :
    ∃ row ∈ db.supplierSettlements.rows, row.id = row'.id ∧ row.amount = row'.amount := by
  rw [settlements, Table.mem_update] at member
  rcases member with ⟨old, -⟩ | ⟨row, found, rfl⟩
  · exact ⟨row', old, rfl, rfl⟩
  · exact ⟨row, Table.mem_of_find? _ _ _ found, (keep row).symm, (same row).symm⟩

theorem Booked.report {db db' : Db} (booked : Booked db) (row : SupplierSettlement)
    (reported : Reported row db db') : Booked db' := by
  have moved : Movement False db db' := .report row db' reported
  have onward := moved.onward
  obtain ⟨added, allotted, rows⟩ := reported.allocations
  obtain ⟨entered, fresh⟩ := Table.insert?_some _ _ _ reported.inserted
  have present : db'.supplierSettlements.find? row.id = some row :=
    (Table.find?_insert _ _ _ reported.inserted row.id).trans (if_pos rfl)
  refine ⟨?_, ?_, ?_⟩
  · intro allocation member
    rw [rows] at member
    rcases List.mem_append.mp member with old | new
    · exact rooted_onward onward allocation (booked.rooted allocation old)
    · obtain ⟨own, company, -, purchase, bought, company', supplier'⟩ :=
        allotted.own allocation new
      refine ⟨row, purchase, by rw [own]; exact present, ?_, company, company', supplier'⟩
      rw [reported.purchases]
      exact bought
  · intro allocation member
    rw [rows] at member
    rcases List.mem_append.mp member with old | new
    · exact booked.positive allocation old
    · exact (allotted.own allocation new).2.2.1
  · intro other member
    rw [entered] at member
    rw [rows, shareOf_append]
    rcases List.mem_append.mp member with old | new
    · obtain ⟨positive, whole⟩ := booked.whole other old
      have none_added : shareOf added other.id = 0 := by
        apply shareOf_of_none
        intro allocation listed same
        exact fresh other old (same.symm.trans (allotted.own allocation listed).1)
      rw [none_added, add_zero]
      exact ⟨positive, whole⟩
    · obtain rfl := List.mem_singleton.mp new
      have none_before : shareOf db.supplierSettlementAllocations.rows other.id = 0 := by
        apply shareOf_of_none
        intro allocation listed same
        obtain ⟨settlement, _, settled, -⟩ := booked.rooted allocation listed
        exact fresh settlement (Table.mem_of_find? _ _ _ settled)
          ((Table.key_of_find? _ _ _ settled).trans same)
      rw [none_before, zero_add, shareOf_of_all added other.id
        (fun allocation listed => (allotted.own allocation listed).1)]
      exact ⟨reported.positive, allotted.total⟩

theorem Booked.amend {db db' : Db} (booked : Booked db) (row : SupplierSettlement)
    (amended : Amended row db db') : Booked db' := by
  have moved : Movement True db db' := .amend row db' trivial amended
  have onward := moved.onward
  obtain ⟨f, keep, same, settlements⟩ := amended.settlements
  have before := settlement_before row.id f keep
    (fun current => congrArg (fun parts => parts.2.2.2) (same current)) settlements
  rcases amended.allocations with unsplit | ⟨added, allotted, rows⟩
  · exact booked.keep onward unsplit before
  · -- the old allocations of the payment are the ones that go
    have own_company : ∀ allocation ∈ db.supplierSettlementAllocations.rows,
        allocation.settlementId = row.id → allocation.companyId = row.companyId := by
      intro allocation member own
      obtain ⟨settlement, _, settled, -, company, -⟩ := booked.rooted allocation member
      rw [own, amended.found] at settled
      cases settled
      exact company
    refine ⟨?_, ?_, ?_⟩
    · intro allocation member
      rw [rows] at member
      rcases List.mem_append.mp member with old | new
      · exact rooted_onward onward allocation
          (booked.rooted allocation (List.mem_of_mem_filter old))
      · obtain ⟨own, company, -, purchase, bought, company', supplier'⟩ :=
          allotted.own allocation new
        apply rooted_onward onward allocation
        exact ⟨row, purchase, by rw [own]; exact amended.found, bought, company, company',
          supplier'⟩
    · intro allocation member
      rw [rows] at member
      rcases List.mem_append.mp member with old | new
      · exact booked.positive allocation (List.mem_of_mem_filter old)
      · exact (allotted.own allocation new).2.2.1
    · intro other member
      obtain ⟨current, present, id, amount⟩ := before other member
      obtain ⟨positive, whole⟩ := booked.whole current present
      rw [rows, shareOf_append, ← id, ← amount]
      refine ⟨positive, ?_⟩
      by_cases own : current.id = row.id
      · have equal : current = row :=
          Table.key_injective _ _ _ present (Table.mem_of_find? _ _ _ amended.found) own
        have dropped : shareOf (db.supplierSettlementAllocations.rows.filter (fun allocation =>
            ¬ (allocation.companyId = row.companyId ∧ allocation.settlementId = row.id)))
              current.id = 0 := by
          apply shareOf_of_none
          intro allocation listed named
          obtain ⟨stored, kept⟩ := List.mem_filter.mp listed
          have mine : allocation.settlementId = row.id := named.trans own
          exact of_decide_eq_true kept ⟨own_company allocation stored mine, mine⟩
        rw [dropped, zero_add, own, shareOf_of_all added row.id
          (fun allocation listed => (allotted.own allocation listed).1), allotted.total, equal]
      · rw [shareOf_filter, whole, shareOf_of_none, add_zero]
        · intro allocation listed named
          exact own (named.symm.trans (allotted.own allocation listed).1)
        · intro allocation _ named
          apply decide_eq_true
          rintro ⟨-, mine⟩
          exact own (named.symm.trans mine)

theorem Booked.step {amends : Prop} {db db' : Db} (moved : Movement amends db db')
    (booked : Booked db) : Booked db' := by
  have onward := moved.onward
  cases moved with
  | aside _ kept =>
      apply booked.keep onward kept.allocations
      intro row member
      rw [kept.settlements] at member
      exact ⟨row, member, rfl, rfl⟩
  | buy purchase _ bought =>
      apply booked.keep onward bought.allocations
      intro row member
      rw [bought.settlements] at member
      exact ⟨row, member, rfl, rfl⟩
  | report row _ reported => exact booked.report row reported
  | amend row _ amending amended => exact booked.amend row amended
  | confirm row _ confirms =>
      obtain ⟨ctx, settlements⟩ := confirms.settlements
      exact booked.keep onward confirms.allocations
        (settlement_before row.id (confirmed ctx) (confirmed_id ctx) (fun _ => rfl) settlements)

structure Unbilled (db : Db) : Prop where
  purchases : db.purchases.rows = []
  payments : db.supplierPayments.rows = []
  settlements : db.supplierSettlements.rows = []
  allocations : db.supplierSettlementAllocations.rows = []

theorem Unbilled.booked {db : Db} (unbilled : Unbilled db) : Booked db := by
  refine ⟨?_, ?_, ?_⟩
  · rw [unbilled.allocations]
    exact fun _ member => by cases member
  · rw [unbilled.allocations]
    exact fun _ member => by cases member
  · rw [unbilled.settlements]
    exact fun _ member => by cases member

theorem run_booked (amends : Prop) (db : Db) (unbilled : Unbilled db)
    (c : Config Db Inventory.Mark Refusal Unit) (run : PayablesRun amends (.idle db) c) :
    Booked c.store :=
  run_keeps amends Booked (fun _ _ moved booked => booked.step moved) db c run unbilled.booked

end ErpBackend.Suppliers
