import ErpBackend.Transfers.Effects

/-!
# Reservations, in the words of the schema

The account read off as statements about phones, stock rows and transfers.
-/

namespace ErpBackend.Transfers

open Foundation Inventory

def Lists (db : Db) (transfer : StockTransfer) (unitId : Id) : Prop :=
  transfer ∈ db.stockTransfers.rows ∧ reserving transfer.status = true ∧
    ∃ item ∈ itemsOf db transfer.id, item.unitId = some unitId

def reservedQuantityAt (db : Db) (companyId productId branchId : Id) : Int :=
  ((db.stockItems.find? (companyId, productId, branchId)).map
    StockItem.reservedQuantity).getD 0

/-- Line quantities of the product over the waiting transfers out of the branch. -/
def lineQuantities (db : Db) (companyId productId branchId : Id) : Int :=
  ((db.stockTransfers.filter (fun transfer => reserving transfer.status = true ∧
      transfer.companyId = companyId ∧ transfer.fromBranchId = branchId)).map
    (fun transfer => (((itemsOf db transfer.id).filter
      (fun item => item.productId = some productId)).map TransferItem.quantity).sum)).sum

structure Balanced (db : Db) : Prop where
  units : ∀ unit ∈ db.units.rows,
    unit.status = .reserved ↔ ∃! transfer, Lists db transfer unit.id
  stock : ∀ companyId productId branchId,
    reservedQuantityAt db companyId productId branchId =
      lineQuantities db companyId productId branchId
  bounded : ∀ item ∈ db.stockItems.rows,
    0 ≤ item.reservedQuantity ∧ item.reservedQuantity ≤ item.quantity

theorem unitTake_unit (item : TransferItem) (unitId : Id) :
    unitTake item (.unit unitId) = if item.unitId = some unitId then 1 else 0 := by
  rcases named : item.unitId with _ | other
  · simp [unitTake, named]
  · simp [unitTake, named, portion, eq_comm]

theorem unitTake_stock (item : TransferItem) (companyId productId branchId : Id) :
    unitTake item (.stock companyId productId branchId) = 0 := by
  rcases named : item.unitId with _ | other
  · simp [unitTake, named]
  · simp [unitTake, named, portion]

theorem stockTake_unit (companyId branchId : Id) (item : TransferItem) (unitId : Id) :
    stockTake companyId branchId item (.unit unitId) = 0 := by
  rcases listed : item.productId with _ | other
  · simp [stockTake, listed]
  · simp [stockTake, listed, portion]

theorem stockTake_stock (company branch : Id) (item : TransferItem)
    (companyId productId branchId : Id) :
    stockTake company branch item (.stock companyId productId branchId) =
      if company = companyId ∧ branch = branchId then
        (if item.productId = some productId then item.quantity else 0) else 0 := by
  rcases listed : item.productId with _ | other
  · simp [stockTake, listed]
  · simp only [stockTake, listed, portion, Resource.stock.injEq, Option.some.injEq]
    by_cases here : company = companyId ∧ branch = branchId
    · obtain ⟨rfl, rfl⟩ := here
      simp [eq_comm]
    · rw [if_neg here, if_neg]
      rintro ⟨rfl, -, rfl⟩
      exact here ⟨rfl, rfl⟩

theorem takesAll_unit (transfer : StockTransfer) (items : List TransferItem) (unitId : Id) :
    takesAll transfer items (.unit unitId) =
      (items.map (fun item => if item.unitId = some unitId then (1 : Int) else 0)).sum := by
  unfold takesAll
  rw [Pi.list_sum_apply, List.map_map]
  congr 1
  apply List.map_congr_left
  intro item _
  simp only [Function.comp_apply, takes, Pi.add_apply, stockTake_unit, add_zero, unitTake_unit]

theorem takesAll_stock (transfer : StockTransfer) (items : List TransferItem)
    (companyId productId branchId : Id) :
    takesAll transfer items (.stock companyId productId branchId) =
      if transfer.companyId = companyId ∧ transfer.fromBranchId = branchId then
        ((items.filter (fun item => item.productId = some productId)).map
          TransferItem.quantity).sum
      else 0 := by
  have each : items.map (fun item => takes transfer item (.stock companyId productId branchId)) =
      items.map (fun item =>
        if transfer.companyId = companyId ∧ transfer.fromBranchId = branchId then
          (if item.productId = some productId then item.quantity else 0) else 0) := by
    apply List.map_congr_left
    intro item _
    simp only [takes, Pi.add_apply, unitTake_stock, zero_add, stockTake_stock]
  unfold takesAll
  rw [Pi.list_sum_apply, List.map_map]
  refine (congrArg List.sum each).trans ?_
  split
  · rw [List.sum_map_ite]
    simp
  · simp

theorem held_apply (db : Db) (resource : Resource) :
    held db resource = (db.stockTransfers.rows.map (fun row => demand db row resource)).sum := by
  unfold held Table.total
  rw [Pi.list_sum_apply, List.map_map]
  rfl

theorem held_stock (db : Db) (companyId productId branchId : Id) :
    held db (.stock companyId productId branchId) =
      lineQuantities db companyId productId branchId := by
  rw [held_apply]
  have each : ∀ transfer ∈ db.stockTransfers.rows,
      demand db transfer (.stock companyId productId branchId) =
        if reserving transfer.status = true ∧ transfer.companyId = companyId ∧
            transfer.fromBranchId = branchId then
          (((itemsOf db transfer.id).filter (fun item => item.productId = some productId)).map
            TransferItem.quantity).sum
        else 0 := by
    intro transfer _
    unfold demand linesOf
    split
    · next waiting =>
      rw [takesAll_bare, takesAll_stock]
      simp [waiting]
    · next exceeded => simp [exceeded]
  rw [List.map_congr_left each, List.sum_map_ite]
  unfold lineQuantities Table.filter
  simp

theorem demand_unit_nonneg (db : Db) (transfer : StockTransfer) (unitId : Id) :
    0 ≤ demand db transfer (.unit unitId) := by
  unfold demand
  split
  · rw [takesAll_unit]
    apply List.sum_nonneg
    intro part member
    obtain ⟨item, -, rfl⟩ := List.mem_map.mp member
    split <;> omega
  · exact Int.le_refl 0

theorem demand_unit_pos (db : Db) (transfer : StockTransfer) (unitId : Id) :
    0 < demand db transfer (.unit unitId) ↔
      reserving transfer.status = true ∧
        ∃ item ∈ itemsOf db transfer.id, item.unitId = some unitId := by
  unfold demand linesOf
  split
  · next waiting =>
    rw [takesAll_bare, takesAll_unit, List.sum_map_ite]
    simp [waiting, List.length_pos_iff_exists_mem]
  · next exceeded => simp [exceeded]

theorem pair_le_sum {α : Type} (rows : List α) (f : α → Int) (nonneg : ∀ a ∈ rows, 0 ≤ f a)
    (a b : α) (left : a ∈ rows) (right : b ∈ rows) (apart : a ≠ b) :
    f a + f b ≤ (rows.map f).sum := by
  induction rows with
  | nil => cases left
  | cons head tail ih =>
      have later : ∀ c ∈ tail, 0 ≤ f c := fun c member => nonneg c (List.mem_cons_of_mem _ member)
      have alone : ∀ c ∈ tail, f c ≤ (tail.map f).sum := by
        intro c member
        apply List.single_le_sum
        · intro value inside
          obtain ⟨other, present, rfl⟩ := List.mem_map.mp inside
          exact later other present
        · exact List.mem_map_of_mem member
      rw [List.map_cons, List.sum_cons]
      rcases List.mem_cons.mp left with rfl | leftLater
      · rcases List.mem_cons.mp right with rfl | rightLater
        · exact absurd rfl apart
        · have := alone b rightLater
          omega
      · rcases List.mem_cons.mp right with rfl | rightLater
        · have := alone a leftLater
          omega
        · have := ih later leftLater rightLater
          have := nonneg head (by simp)
          omega

theorem Reserved.lists_iff {db : Db} (reserved : Reserved db) (unit : StockUnit)
    (member : unit ∈ db.units.rows) :
    unit.status = .reserved ↔ ∃! transfer, Lists db transfer unit.id := by
  have found := (Table.find?_some db.units unit.id unit).mpr ⟨member, rfl⟩
  have account : marked unit =
      (db.stockTransfers.rows.map (fun row => demand db row (.unit unit.id))).sum := by
    rw [← reservedOf_unit_of_found db unit.id unit found, reserved.account, held_apply]
  have nonneg : ∀ transfer ∈ db.stockTransfers.rows, 0 ≤ demand db transfer (.unit unit.id) :=
    fun transfer _ => demand_unit_nonneg db transfer unit.id
  constructor
  · intro status
    rw [marked, if_pos status] at account
    have somewhere : ∃ transfer ∈ db.stockTransfers.rows,
        0 < demand db transfer (.unit unit.id) := by
      by_contra nowhere
      have zero : ∀ transfer ∈ db.stockTransfers.rows, demand db transfer (.unit unit.id) = 0 := by
        intro transfer present
        have low := nonneg transfer present
        have high : ¬ 0 < demand db transfer (.unit unit.id) :=
          fun positive => nowhere ⟨transfer, present, positive⟩
        omega
      rw [List.map_congr_left zero] at account
      simp at account
    obtain ⟨transfer, present, positive⟩ := somewhere
    refine ⟨transfer, ⟨present, (demand_unit_pos db transfer unit.id).mp positive⟩, ?_⟩
    rintro other ⟨inside, lists⟩
    by_contra apart
    have second := (demand_unit_pos db other unit.id).mpr lists
    have both := pair_le_sum _ _ nonneg other transfer inside present apart
    omega
  · rintro ⟨transfer, ⟨present, lists⟩, -⟩
    have positive := (demand_unit_pos db transfer unit.id).mpr lists
    have bound : demand db transfer (.unit unit.id) ≤
        (db.stockTransfers.rows.map (fun row => demand db row (.unit unit.id))).sum := by
      apply List.single_le_sum
      · intro value inside
        obtain ⟨other, member, rfl⟩ := List.mem_map.mp inside
        exact nonneg other member
      · exact List.mem_map.mpr ⟨transfer, present, rfl⟩
    by_contra other
    rw [marked, if_neg other] at account
    omega

theorem Reserved.balanced {db : Db} (reserved : Reserved db) : Balanced db where
  units unit member := reserved.lists_iff unit member
  stock companyId productId branchId := by
    rw [← held_stock, ← reserved.account]
    rfl
  bounded := reserved.bounded

end ErpBackend.Transfers
