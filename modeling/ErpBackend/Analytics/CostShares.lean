import ErpBackend.Analytics.StockValue
import ErpBackend.Returns.Safety

/-!
# The share of a phone

What one phone adds to the cost of goods sold, as recomputing the rollups finds it, and to
the report of what is owned; and what the statements of sales and returns do to both.
-/

namespace ErpBackend.Analytics

open Foundation Inventory Returns

def counted (db : Db) (companyId : Id) (item : SaleItem) : Bool :=
  item.companyId = companyId ∧ item.voided = false ∧ (db.sales.find? item.saleId).isSome

def soldCost (db : Db) (companyId unitId : Id) (item : SaleItem) : Int :=
  if counted db companyId item ∧ item.unitId = some unitId then lineCost item else 0

def creditedCost (companyId unitId : Id) (reversal : ReturnReversal) : Int :=
  if reversal.companyId = companyId ∧ reversal.unitId = unitId then reversal.lineCost else 0

/-- The phone's share of the cost of goods sold, net of credited returns. -/
def bookedCost (db : Db) (companyId unitId : Id) : Int :=
  db.saleItems.total (soldCost db companyId unitId) -
    db.returnReversals.total (creditedCost companyId unitId)

def roadCost (db : Db) (companyId unitId : Id) (cost : Int) : Int :=
  db.transferItems.total (fun item =>
    if onTheRoad db companyId item ∧ item.unitId = some unitId then cost else 0)

def ownedCost (db : Db) (companyId : Id) (unit : StockUnit) : Int :=
  (if heldUnit companyId none unit then unit.cost else 0) +
    roadCost db companyId unit.id unit.cost +
    (if faultyUnit companyId none unit then unit.cost else 0)

def CountedOnce (db : Db) (unit : StockUnit) : Prop :=
  (bookedCost db unit.companyId unit.id = unit.cost ∧ ownedCost db unit.companyId unit = 0) ∨
    (bookedCost db unit.companyId unit.id = 0 ∧ ownedCost db unit.companyId unit = unit.cost)

def branchDays (db : Db) : List (Id × Day) :=
  (db.sales.rows.map (fun sale => (sale.branchId, dayKey sale.soldAt)) ++
    db.returnReversals.rows.map (fun reversal =>
      (reversal.branchId, reversal.approvalDate))).dedup

/-- `cogs` less `returnsCogs`, all days of the company together. -/
def netCogs (db : Db) (companyId : Id) : Int :=
  ((branchDays db).map (fun day => (dayFigures db companyId day.1 day.2).cogs -
    (dayFigures db companyId day.1 day.2).returnsCogs)).sum

section Shares

variable (db : Db) (companyId : Id)

theorem total_by_unit {α κ : Type} {key : α → κ} (t : Table α key) (unitOf : α → Option Id)
    (counts : α → Bool) (g : α → Int) :
    t.total (fun a => if counts a then g a else 0) =
      db.units.total (fun unit => t.total (fun a =>
        if counts a ∧ unitOf a = some unit.id then g a else 0)) +
      t.total (fun a => if counts a ∧ (unitOf a).bind db.units.find? = none then g a else 0) := by
  rw [Table.total_comm, ← Table.total_add]
  apply Table.total_congr
  intro a _
  have named : db.units.total (fun unit =>
      if counts a ∧ unitOf a = some unit.id then g a else 0) =
        (((unitOf a).bind db.units.find?).map (fun _ =>
          if counts a then g a else 0)).getD 0 := by
    cases unitOf a with
    | none => exact (db.units.total_congr _ _ (fun unit _ => by simp)).trans db.units.total_zero
    | some unitId =>
        rw [Option.bind_some, ← Table.total_at]
        apply Table.total_congr
        intro unit _
        by_cases same : unit.id = unitId
        · simp [same]
        · simp [same, Ne.symm same]
  rw [named]
  cases (unitOf a).bind db.units.find? with
  | none => simp
  | some unit => simp

/-- Everything owned: the shares of the phones, the shelves, and quantities on the road. -/
theorem owned_shares (catalogued : Catalogued db) :
    (inventoryTotals db companyId none).totalOwnedInventoryValue =
      db.units.total (ownedCost db companyId) +
        db.stockItems.total (fun item =>
          if heldStock companyId none item then stockValue item else 0) +
        db.transferItems.total (fun item =>
          if onTheRoad db companyId item ∧ item.unitId = none then lineValue db item else 0) := by
  have road : db.transferItems.total (fun item =>
      if onTheRoad db companyId item then lineValue db item else 0) =
        db.units.total (fun unit => roadCost db companyId unit.id unit.cost) +
          db.transferItems.total (fun item =>
            if onTheRoad db companyId item ∧ item.unitId = none then lineValue db item
            else 0) := by
    rw [total_by_unit db db.transferItems TransferItem.unitId]
    congr 1
    · apply Table.total_congr
      intro unit member
      have known : db.units.find? unit.id = some unit := (Table.find?_some _ _ _).mpr ⟨member, rfl⟩
      apply Table.total_congr
      intro item _
      by_cases same : item.unitId = some unit.id
      · simp [lineValue, same, known]
      · simp [same]
    · apply Table.total_congr
      intro item _
      cases named : item.unitId with
      | none => simp
      | some unitId =>
          cases known : db.units.find? unitId with
          | none => simp [lineValue, named, known]
          | some unit => simp [known]
  unfold ownedCost
  rw [totalOwned_sum, totalStock_sum db companyId catalogued, road, Table.total_add,
    Table.total_add]
  omega

def phoneAt (id : Id) (status : UnitStatus) (cost : Int) : StockUnit :=
  ⟨id, 10, 2, 1, none, none, none, cost, status, none, none⟩

def underway : StockTransfer :=
  ⟨70, 10, 1, 2, none, .inTransit, none, none, 0, none, none, none, 0, none, none, none, false,
    none, none, none⟩

/-- A phone on the shelf, one on the road, one taken back and one sold; two chargers on the shelf
at 5.00 each, and three on the road at 4.00. -/
def goods : Db where
  products := ⟨[⟨1, 10, "Anker", "A1", none, .quantity, none, none, none, none, none, 0⟩,
    ⟨2, 10, "Samsung", "A15", none, .imei, none, none, none, none, none, 0⟩], by decide⟩
  units := ⟨[phoneAt 301 .inStock 10000, phoneAt 302 .inTransit 20000, phoneAt 303 .returned 30000,
    phoneAt 304 .sold 40000], by decide⟩
  stockItems := ⟨[⟨10, 1, 1, 2, 500, none, 0, 0⟩], List.nodup_singleton _⟩
  stockTransfers := ⟨[underway], List.nodup_singleton _⟩
  transferItems := ⟨[⟨71, 10, 70, some 302, some 2, 1, none⟩,
    ⟨72, 10, 70, none, some 1, 3, some 400⟩], by decide⟩

theorem owned_shares_goods :
    goods.units.rows.map (ownedCost goods 10) = [10000, 20000, 30000, 0] ∧
      (inventoryTotals goods 10 none).totalOwnedInventoryValue = 60000 + 1000 + 1200 :=
  ⟨by decide, (owned_shares goods 10 ⟨by decide, by decide⟩).trans (by decide)⟩

def dayOf (item : SaleItem) : Id × Day :=
  ((db.sales.find? item.saleId).map (fun sale => (sale.branchId, dayKey sale.soldAt))).getD (0, 0)

theorem soldOn_iff (day : Id × Day) (item : SaleItem) :
    soldOn db companyId day.1 day.2 item = (counted db companyId item &&
      decide (dayOf db item = day)) := by
  unfold soldOn counted dayOf
  cases db.sales.find? item.saleId with
  | none => simp
  | some sale => simp [Prod.ext_iff, Bool.and_assoc]

theorem netCogs_sum : netCogs db companyId =
    db.saleItems.total (fun item => if counted db companyId item then lineCost item else 0) -
      db.returnReversals.total (fun reversal =>
        if reversal.companyId = companyId then reversal.lineCost else 0) := by
  have sold := sum_groups (branchDays db) (List.nodup_dedup _) (dayOf db) lineCost
    (db.saleItems.filter (counted db companyId)) (by
      intro item member
      obtain ⟨-, passed⟩ := (Table.mem_filter _ _ _).mp member
      obtain ⟨sale, found⟩ := Option.isSome_iff_exists.mp (of_decide_eq_true passed).2.2
      refine List.mem_dedup.mpr (List.mem_append_left _ (List.mem_map.mpr
        ⟨sale, Table.mem_of_find? _ _ _ found, ?_⟩))
      simp only [dayOf, found, Option.map_some, Option.getD_some])
  have credited := sum_groups (branchDays db) (List.nodup_dedup _)
    (fun reversal : ReturnReversal => (reversal.branchId, reversal.approvalDate))
    ReturnReversal.lineCost
    (db.returnReversals.filter (fun reversal => reversal.companyId = companyId)) (by
      intro reversal member
      obtain ⟨there, -⟩ := (Table.mem_filter _ _ _).mp member
      exact List.mem_dedup.mpr (List.mem_append_right _ (List.mem_map_of_mem there)))
  have cogs : ∀ day : Id × Day, (dayFigures db companyId day.1 day.2).cogs =
      (((db.saleItems.filter (counted db companyId)).filter
        (fun item => dayOf db item = day)).map lineCost).sum := by
    intro day
    change ((db.saleItems.filter (soldOn db companyId day.1 day.2)).map lineCost).sum = _
    unfold Table.filter
    rw [List.filter_filter]
    congr 2
    apply List.filter_congr
    intro item _
    rw [soldOn_iff, Bool.and_comm]
  have returnsCogs : ∀ day : Id × Day, (dayFigures db companyId day.1 day.2).returnsCogs =
      (((db.returnReversals.filter (fun reversal => reversal.companyId = companyId)).filter
        (fun reversal => (reversal.branchId, reversal.approvalDate) = day)).map
          ReturnReversal.lineCost).sum := by
    intro day
    change ((db.returnReversals.filter (reversedOn companyId day.1 day.2)).map
      ReturnReversal.lineCost).sum = _
    unfold Table.filter
    rw [List.filter_filter]
    congr 2
    apply List.filter_congr
    intro reversal _
    unfold reversedOn
    simp [Prod.ext_iff, Bool.and_comm]
  rw [Table.sum_filter] at sold credited
  simp only [decide_eq_true_eq] at credited
  rw [← sold, ← credited]
  unfold netCogs
  simp only [cogs, returnsCogs]
  induction branchDays db with
  | nil => rfl
  | cons day rest ih =>
      simp only [List.map_cons, List.sum_cons, ih]
      omega

/-- The cost of goods of all days: the shares of the phones, and the lines and returns of
no phone the shop knows. -/
theorem booked_shares : netCogs db companyId =
    db.units.total (fun unit => bookedCost db companyId unit.id) +
      db.saleItems.total (fun item => if counted db companyId item ∧
        (item.unitId.bind db.units.find?) = none then lineCost item else 0) -
      db.returnReversals.total (fun reversal => if reversal.companyId = companyId ∧
        db.units.find? reversal.unitId = none then reversal.lineCost else 0) := by
  have sold := total_by_unit db db.saleItems SaleItem.unitId (counted db companyId) lineCost
  have credited := total_by_unit db db.returnReversals (fun reversal => some reversal.unitId)
    (fun reversal => reversal.companyId = companyId) ReturnReversal.lineCost
  simp only [decide_eq_true_eq, Option.some.injEq, Option.bind_some] at credited
  rw [netCogs_sum, sold, credited]
  unfold bookedCost soldCost creditedCost
  rw [Table.total_sub]
  omega

end Shares

/-- What the books and the road hold of a phone of this cost and status. -/
def Placed (booked road cost : Int) : UnitStatus → Prop
  | .inStock | .faulty => booked = 0 ∧ road = 0
  | .sold | .returned => booked = cost ∧ road = 0
  | .inTransit => booked = 0 ∧ road = cost
  | .reserved | .transferredOut | .consignedOut => False

section Phone

variable (companyId unitId : Id) (cost : Int)

structure Placement (booked : Int) (db : Db) (unit : StockUnit) : Prop where
  found : db.units.find? unitId = some unit
  company : unit.companyId = companyId
  worth : unit.cost = cost
  placed : Placed booked (roadCost db companyId unitId cost) cost unit.status

/-- Every line of the phone is at its cost, every return of it for one of its lines. -/
structure Entries (db : Db) : Prop where
  filed : ∀ item ∈ db.saleItems.rows, (db.sales.find? item.saleId).isSome
  lines : ∀ item ∈ db.saleItems.rows, item.unitId = some unitId → lineCost item = cost
  claims : ∀ request ∈ db.returnRequests.rows, request.unitId = unitId →
    ∃ item, db.saleItems.find? request.saleItemId = some item ∧ item.unitId = some unitId

structure Accounted (db : Db) : Prop extends Entries unitId cost db where
  stands : ∃ unit, Placement companyId unitId cost (bookedCost db companyId unitId) db unit

end Phone

section Counts

variable {companyId unitId : Id} {cost : Int} {db : Db}

theorem Accounted.counted_iff (accounted : Accounted companyId unitId cost db) :
    ∃ unit, db.units.find? unitId = some unit ∧
      (CountedOnce db unit ↔ unit.cost = 0 ∨ unit.status ≠ .returned) ∧
      (unit.status = .returned → bookedCost db unit.companyId unit.id = unit.cost ∧
        ownedCost db unit.companyId unit = unit.cost) := by
  obtain ⟨unit, stands⟩ := accounted.stands
  refine ⟨unit, stands.found, ?_⟩
  have own : unit.id = unitId := Table.key_of_find? _ _ _ stands.found
  have placed := stands.placed
  rw [← stands.worth] at placed
  unfold CountedOnce ownedCost heldUnit faultyUnit
  rw [stands.company, own]
  revert placed
  cases unit.status <;> simp [Placed, inBranch] <;> omega

variable (item : SaleItem)

theorem soldCost_own (company : item.companyId = companyId)
    (standing : item.voided = false) (filed : (db.sales.find? item.saleId).isSome)
    (named : item.unitId = some unitId) : soldCost db companyId unitId item = lineCost item :=
  if_pos ⟨decide_eq_true ⟨company, standing, filed⟩, named⟩

theorem soldCost_other (other : item.unitId ≠ some unitId) :
    soldCost db companyId unitId item = 0 :=
  if_neg (fun both => other both.2)

theorem creditedCost_other (reversal : ReturnReversal) (other : reversal.unitId ≠ unitId) :
    creditedCost companyId unitId reversal = 0 :=
  if_neg (fun both => other both.2)

theorem Placement.move {booked : Int} {unit : StockUnit} (booked' : Int)
    (stands : Placement companyId unitId cost booked db unit) (otherId : Id) (other : StockUnit)
    (f : StockUnit → StockUnit) (keep : ∀ row, (f row).id = row.id)
    (found : db.units.find? otherId = some other)
    (same : (f other).companyId = other.companyId ∧ (f other).cost = other.cost)
    (own : otherId = unitId → other.companyId = companyId → ∀ road,
      Placed booked road cost other.status → Placed booked' road cost (f other).status)
    (beside : otherId ≠ unitId → booked' = booked) :
    ∃ unit', Placement companyId unitId cost booked'
      { db with units := db.units.update otherId f keep } unit' := by
  have after := Table.find?_update_of_found db.units otherId f keep _ _ stands.found
  by_cases equal : unitId = otherId
  · subst equal
    rw [stands.found] at found
    cases found
    rw [if_pos rfl] at after
    exact ⟨f unit, after, same.1.trans stands.company, same.2.trans stands.worth,
      own rfl stands.company _ stands.placed⟩
  · rw [if_neg equal] at after
    refine ⟨unit, after, stands.company, stands.worth, ?_⟩
    rw [beside (Ne.symm equal)]
    exact stands.placed

def Priced (unitId : Id) (cost : Int) (line : Sales.PreparedLine) : Prop :=
  line.unitId = some unitId → line.quantity = 1 ∧ line.cost = cost

theorem prepareLine_priced (branchId ownId : Id) (line : Sales.SaleLineDto)
    (prepared : Sales.PreparedLine) (accounted : Accounted companyId unitId cost db)
    (done : Sales.prepareLine ownId branchId db line = .ok prepared) :
    Priced unitId cost prepared := by
  obtain ⟨own, stands⟩ := accounted.stands
  unfold Sales.prepareLine at done
  split at done
  · unfold Sales.prepareUnit at done
    split at done
    · cases done
    · next unit found =>
      obtain ⟨_, -, done⟩ := (except_bind_ok _ _ _).mp done
      obtain ⟨price, -, done⟩ := (except_bind_ok _ _ _).mp done
      cases done
      intro named
      have stored : db.units.find? unit.id = some unit :=
        (Table.find?_some _ _ _).mpr ⟨List.mem_of_find?_eq_some found, rfl⟩
      rw [Option.some.inj named, stands.found] at stored
      cases stored
      exact ⟨rfl, stands.worth⟩
  · unfold Sales.prepareStock at done
    dsimp only at done
    split at done
    · cases done
    · split at done
      · cases done
      · obtain ⟨price, -, done⟩ := (except_bind_ok _ _ _).mp done
        cases done
        intro named
        cases named

theorem draftSale_priced (ctx : Ctx) (has : Permission → Bool) (branchId : Id)
    (dto : Sales.CreateSaleDto) (draft : Sales.Draft)
    (accounted : Accounted companyId unitId cost db)
    (done : Sales.draftSale ctx has branchId dto db = .ok draft) :
    ∀ line ∈ draft.lines, Priced unitId cost line := by
  intro line member
  obtain ⟨asked, -, here⟩ := Sales.prepareLines_each _ _ _ _ _
    (Sales.draftSale_ok ctx has branchId dto db draft done).1 line member
  exact prepareLine_priced branchId ctx.companyId asked line accounted here

theorem Accounted.openSale (accounted : Accounted companyId unitId cost db) (sale : Sale)
    (sales : Table Sale Sale.id) (inserted : db.sales.insert? sale = some sales) :
    Accounted companyId unitId cost { db with sales } where
  filed item member := by
    obtain ⟨own, found⟩ := Option.isSome_iff_exists.mp (accounted.filed item member)
    rw [Table.find?_insert_of_found _ _ _ inserted _ own found]
    rfl
  lines := accounted.lines
  claims := accounted.claims
  stands := by
    have same : bookedCost { db with sales } companyId unitId =
        bookedCost db companyId unitId := by
      unfold bookedCost
      congr 1
      apply Table.total_congr
      intro item member
      obtain ⟨own, found⟩ := Option.isSome_iff_exists.mp (accounted.filed item member)
      have kept := Table.find?_insert_of_found _ _ _ inserted _ own found
      simp only [soldCost, counted, found, kept]
    obtain ⟨unit, stands⟩ := accounted.stands
    rw [same]
    exact ⟨unit, stands.found, stands.company, stands.worth, stands.placed⟩

section Listing

variable {item : SaleItem} {saleItems : Table SaleItem SaleItem.id}
  (added : db.saleItems.insert? item = some saleItems)

include added

theorem Entries.list (entries : Entries unitId cost db)
    (opened : (db.sales.find? item.saleId).isSome)
    (priced : item.unitId = some unitId → lineCost item = cost) :
    Entries unitId cost { db with saleItems } where
  filed other member := by
    rcases List.mem_append.mp ((Table.insert?_some _ _ _ added).1 ▸ member) with old | new
    · exact entries.filed other old
    · rw [List.mem_singleton.mp new]
      exact opened
  lines other member named := by
    rcases List.mem_append.mp ((Table.insert?_some _ _ _ added).1 ▸ member) with old | new
    · exact entries.lines other old named
    · rw [List.mem_singleton.mp new] at named ⊢
      exact priced named
  claims request member own := by
    obtain ⟨line, found, named⟩ := entries.claims request member own
    exact ⟨line, Table.find?_insert_of_found _ _ _ added _ _ found, named⟩

theorem bookedCost_list : bookedCost { db with saleItems } companyId unitId =
    bookedCost db companyId unitId + soldCost db companyId unitId item := by
  have total := Table.total_insert _ _ _ added (soldCost db companyId unitId)
  change saleItems.total (soldCost db companyId unitId) -
    db.returnReversals.total (creditedCost companyId unitId) = _
  unfold bookedCost
  omega

end Listing

theorem insertSaleItem_adds (db' : Db)
    (done : Sales.insertSaleItem item db = .ok db') :
    ∃ saleItems, db.saleItems.insert? item = some saleItems ∧ db' = { db with saleItems } := by
  unfold Sales.insertSaleItem at done
  split at done
  · cases done
  · split at done
    · cases done
    · next saleItems added =>
      cases done
      exact ⟨saleItems, added, rfl⟩

theorem claimUnit_moves (ownId otherId : Id) (now : Time) (db' : Db)
    (done : Sales.claimUnit ownId otherId now db = .ok db') :
    ∃ other, db.units.find? otherId = some other ∧ other.companyId = ownId ∧
      other.status = .inStock ∧ db' = { db with
        units := db.units.update otherId
          (fun unit => { unit with status := .sold, dateSold := some now }) (fun _ => rfl) } := by
  unfold Sales.claimUnit at done
  split at done
  · cases done
  · next units claimed =>
    cases done
    obtain ⟨other, found, passed, rfl⟩ := (Table.swap?_some _ _ _ _ _ _).mp claimed
    obtain ⟨company, status⟩ := of_decide_eq_true passed
    exact ⟨other, found, company, status, rfl⟩

theorem takeStock_moves (ownId productId branchId : Id) (quantity : Int) (db' : Db)
    (done : Sales.takeStock ownId productId branchId quantity db = .ok db') :
    ∃ stockItems, db' = { db with stockItems } := by
  unfold Sales.takeStock at done
  obtain ⟨⟨taken, found⟩, stored, done⟩ := (except_bind_ok _ _ _).mp done
  have kept : ∃ stockItems, taken = { db with stockItems } := by
    rcases updateStock_ok _ _ _ _ _ _ _ _ _ stored with ⟨-, rfl, -⟩ | ⟨-, item, -, -, moved⟩
    · exact ⟨_, rfl⟩
    · exact moved.frame
  dsimp only at done
  split at done
  · cases done
  · split at done
    · cases done
    · cases done
      exact kept

theorem Accounted.writeLine (accounted : Accounted companyId unitId cost db) (ctx : Ctx)
    (branchId saleId itemId : Id) (line : Sales.PreparedLine) (priced : Priced unitId cost line)
    (opened : (db.sales.find? saleId).isSome) (db' : Db)
    (done : Sales.writeLine ctx branchId saleId itemId line db = .ok db') :
    Accounted companyId unitId cost db' ∧ db'.sales = db.sales := by
  obtain ⟨unit, stands⟩ := accounted.stands
  unfold Sales.writeLine at done
  obtain ⟨listed, inserted, done⟩ := (except_bind_ok _ _ _).mp done
  obtain ⟨saleItems, added, rfl⟩ := insertSaleItem_adds _ _ inserted
  have worth : (Sales.saleItemFor ctx.companyId saleId itemId line).unitId = some unitId →
      lineCost (Sales.saleItemFor ctx.companyId saleId itemId line) = cost := by
    intro named
    obtain ⟨single, price⟩ := priced named
    simp [lineCost, Sales.saleItemFor, single, price]
  have entries := accounted.toEntries.list added opened worth
  have booked : bookedCost { db with saleItems } companyId unitId =
      bookedCost db companyId unitId + soldCost db companyId unitId _ := bookedCost_list added
  split at done
  · next otherId named =>
    obtain ⟨other, found, company, status, rfl⟩ := claimUnit_moves _ _ _ _ done
    have moved := stands.move (bookedCost { db with saleItems } companyId unitId)
      otherId other (fun unit => { unit with status := .sold, dateSold := some ctx.now })
      (fun _ => rfl) found ⟨rfl, rfl⟩ ?_ ?_
    · obtain ⟨unit', after⟩ := moved
      exact ⟨⟨⟨entries.filed, entries.lines, entries.claims⟩,
        ⟨unit', after.found, after.company, after.worth, after.placed⟩⟩, rfl⟩
    · intro own same road placed
      have line := named.trans (congrArg some own)
      rw [status] at placed
      rw [booked, soldCost_own _ (company.symm.trans same) rfl opened line, worth line]
      exact ⟨by rw [placed.1, zero_add], placed.2⟩
    · intro beside
      rw [booked, soldCost_other, add_zero]
      exact fun same => beside (Option.some.inj (named.symm.trans same))
  · next named =>
    obtain ⟨stockItems, rfl⟩ := takeStock_moves _ _ _ _ _ done
    rw [soldCost_other _ (fun same => by cases named.symm.trans same), add_zero] at booked
    refine ⟨⟨⟨entries.filed, entries.lines, entries.claims⟩, unit, stands.found, stands.company,
      stands.worth, ?_⟩, rfl⟩
    change Placed (bookedCost { db with saleItems } companyId unitId) _ _ _
    rw [booked]
    exact stands.placed

theorem Accounted.writeLines (accounted : Accounted companyId unitId cost db) (ctx : Ctx)
    (branchId saleId : Id) (items : Nat → Id) (index : Nat) (lines : List Sales.PreparedLine)
    (priced : ∀ line ∈ lines, Priced unitId cost line)
    (opened : (db.sales.find? saleId).isSome) (db' : Db)
    (done : Sales.writeLines ctx branchId saleId items index lines db = .ok db') :
    Accounted companyId unitId cost db' := by
  induction lines generalizing index db with
  | nil =>
      cases done
      exact accounted
  | cons line rest ih =>
      unfold Sales.writeLines at done
      obtain ⟨written, first, done⟩ := (except_bind_ok _ _ _).mp done
      obtain ⟨kept, same⟩ := accounted.writeLine ctx branchId saleId _ line
        (priced line (by simp)) opened written first
      exact ih kept (index + 1) (fun other member => priced other (List.mem_cons_of_mem _ member))
        (by rw [same]; exact opened) done

theorem Accounted.writeSale (accounted : Accounted companyId unitId cost db) (ctx : Ctx)
    (branchId userId : Id) (ids : Sales.SaleIds) (dto : Sales.CreateSaleDto)
    (draft : Sales.Draft) (priced : ∀ line ∈ draft.lines, Priced unitId cost line) (db' : Db)
    (sale : Sale)
    (done : Sales.writeSale ctx branchId userId ids dto draft db = .ok (db', sale)) :
    Accounted companyId unitId cost db' := by
  unfold Sales.writeSale at done
  obtain ⟨⟨numbered, seq⟩, counted, done⟩ := (except_bind_ok _ _ _).mp done
  obtain ⟨opened, inserted, done⟩ := (except_bind_ok _ _ _).mp done
  obtain ⟨listed, written, done⟩ := (except_bind_ok _ _ _).mp done
  obtain ⟨paid, settled, done⟩ := (except_bind_ok _ _ _).mp done
  obtain ⟨charged, balance, done⟩ := (except_bind_ok _ _ _).mp done
  cases done
  obtain ⟨counters, rfl⟩ := nextNumber_ok _ _ _ _ _ _ counted
  obtain ⟨sales, added, rfl⟩ := Sales.insertSale_ok _ _ _ inserted
  obtain ⟨payments, rfl⟩ := Sales.writePayments_ok _ _ _ _ _ _ _ settled
  obtain ⟨customers, rfl⟩ := Sales.chargeCustomer_ok _ _ _ _ _ balance
  have numbered : Accounted companyId unitId cost { db with branchCounters := counters } :=
    ⟨⟨accounted.filed, accounted.lines, accounted.claims⟩, by
      obtain ⟨unit, stands⟩ := accounted.stands
      exact ⟨unit, stands.found, stands.company, stands.worth, stands.placed⟩⟩
  have entered := (numbered.openSale _ _ added).writeLines ctx branchId ids.sale ids.items 0
    draft.lines priced (by rw [Table.find?_insert _ _ _ added]; simp [Sales.saleFor]) listed written
  obtain ⟨unit, stands⟩ := entered.stands
  exact ⟨⟨entered.filed, entered.lines, entered.claims⟩, unit, stands.found, stands.company,
    stands.worth, stands.placed⟩

theorem Entries.handle (entries : Entries unitId cost db)
    (returnRequests : Table ReturnRequest ReturnRequest.id)
    (handled : Handled db.returnRequests returnRequests) :
    Entries unitId cost { db with returnRequests } where
  filed := entries.filed
  lines := entries.lines
  claims request member own := by
    have stored : returnRequests.find? request.id = some request :=
      (Table.find?_some _ _ _).mpr ⟨member, rfl⟩
    have same := handled request.id
    rw [stored] at same
    obtain ⟨row, found, equal⟩ := Option.map_eq_some_iff.mp same.symm
    have unit : row.unitId = request.unitId := congrArg (fun l => l.2.2.2.2) equal
    have line : row.saleItemId = request.saleItemId := congrArg (fun l => l.2.2.2.1) equal
    rw [← line]
    exact entries.claims row (Table.mem_of_find? _ _ _ found) (unit.trans own)

theorem Entries.raise (entries : Entries unitId cost db) (request : ReturnRequest)
    (returnRequests : Table ReturnRequest ReturnRequest.id)
    (inserted : db.returnRequests.insert? request = some returnRequests)
    (line : request.unitId = unitId → ∃ item,
      db.saleItems.find? request.saleItemId = some item ∧ item.unitId = some unitId) :
    Entries unitId cost { db with returnRequests } where
  filed := entries.filed
  lines := entries.lines
  claims other member own := by
    rcases List.mem_append.mp ((Table.insert?_some _ _ _ inserted).1 ▸ member) with old | new
    · exact entries.claims other old own
    · rw [List.mem_singleton.mp new] at own ⊢
      exact line own

theorem Accounted.swap (accounted : Accounted companyId unitId cost db) (ownId id : Id)
    (expectedVersion : Nat) (status : Option ReturnStatus) (f : ReturnRequest → ReturnRequest)
    (db' : Db) (done : swapRequest ownId id expectedVersion status f db = .ok db')
    (same : ∀ row, lineage (f row) = lineage row) :
    Accounted companyId unitId cost db' ∧ db'.saleItems = db.saleItems := by
  obtain ⟨row, found, -, -, -, rfl⟩ := (swapRequest_ok _ _ _ _ _ _ _).mp done
  obtain ⟨unit, stands⟩ := accounted.stands
  exact ⟨⟨accounted.toEntries.handle _ (.update _ _ (bumped f) (bumped_id f) same), unit,
    stands.found, stands.company, stands.worth, stands.placed⟩, rfl⟩

theorem Accounted.custody (accounted : Accounted companyId unitId cost db) (ownId otherId : Id)
    (source target : UnitStatus)
    (same : ∀ booked road, Placed booked road cost source → Placed booked road cost target)
    (db' : Db) (done : moveUnitForCustody ownId otherId source target db = .ok db') :
    Accounted companyId unitId cost db' ∧ db'.saleItems = db.saleItems := by
  obtain ⟨-, other, found, -, status, rfl⟩ := moveUnitForCustody_ok _ _ _ _ _ _ done
  obtain ⟨unit, stands⟩ := accounted.stands
  refine ⟨⟨⟨accounted.filed, accounted.lines, accounted.claims⟩, ?_⟩, rfl⟩
  apply stands.move _ otherId other (fun unit => { unit with status := target }) (fun _ => rfl)
    found ⟨rfl, rfl⟩
  · intro _ _ road placed
    rw [status] at placed
    exact same _ road placed
  · exact fun _ => rfl

theorem Accounted.writeRequest (accounted : Accounted companyId unitId cost db) (ownId : Id)
    (storeHolds : Bool) (row : ReturnRequest)
    (line : row.unitId = unitId → ∃ item,
      db.saleItems.find? row.saleItemId = some item ∧ item.unitId = some unitId) (db' : Db)
    (done : writeRequest ownId storeHolds row db = .ok db') :
    Accounted companyId unitId cost db' ∧ db'.saleItems = db.saleItems := by
  obtain ⟨opened, inserted, done⟩ := (except_bind_ok _ _ _).mp done
  obtain ⟨returnRequests, added, rfl⟩ := insertReturnRequest_ok _ _ _ inserted
  obtain ⟨unit, stands⟩ := accounted.stands
  have raised : Accounted companyId unitId cost { db with returnRequests } :=
    ⟨accounted.toEntries.raise row returnRequests added line, unit, stands.found, stands.company,
      stands.worth, stands.placed⟩
  split at done
  · exact raised.custody ownId row.unitId .sold .returned (fun _ _ placed => placed) db' done
  · cases done
    exact ⟨raised, rfl⟩

theorem Accounted.writeCustody (accounted : Accounted companyId unitId cost db) (ctx : Ctx)
    (request : ReturnRequest) (expectedVersion : Nat) (db' : Db)
    (done : writeCustody ctx request expectedVersion db = .ok db') :
    Accounted companyId unitId cost db' ∧ db'.saleItems = db.saleItems := by
  obtain ⟨moved, swapped, done⟩ := (except_bind_ok _ _ _).mp done
  obtain ⟨kept, lines⟩ := accounted.swap _ _ _ _ _ _ swapped (fun _ => rfl)
  obtain ⟨placed, same⟩ := kept.custody _ _ .sold .returned (fun _ _ placed => placed) db' done
  exact ⟨placed, same.trans lines⟩

theorem Accounted.writeRejection (accounted : Accounted companyId unitId cost db) (ctx : Ctx)
    (request : ReturnRequest) (dto : RejectReturnDto) (db' : Db)
    (done : writeRejection ctx request dto db = .ok db') :
    Accounted companyId unitId cost db' ∧ db'.saleItems = db.saleItems := by
  obtain ⟨moved, swapped, done⟩ := (except_bind_ok _ _ _).mp done
  obtain ⟨kept, lines⟩ := accounted.swap _ _ _ _ _ _ swapped (fun _ => rfl)
  split at done
  · obtain ⟨placed, same⟩ := kept.custody _ _ .returned .sold (fun _ _ placed => placed) db' done
    exact ⟨placed, same.trans lines⟩
  · cases done
    exact ⟨kept, lines⟩

theorem Accounted.writeApproval (accounted : Accounted companyId unitId cost db) (ctx : Ctx)
    (branchId reversalId : Id) (loaded : LoadedReturn) (settled : SettledRefund)
    (isException : Bool) (dto : ApproveReturnDto)
    (worth : loaded.request.unitId = unitId → lineCost loaded.saleItem = cost) (db' : Db)
    (done : writeApproval ctx loaded isException dto
      (newReversal ctx branchId reversalId loaded settled) db = .ok db') :
    Accounted companyId unitId cost db' ∧ db'.saleItems = db.saleItems := by
  obtain ⟨moved, swapped, done⟩ := (except_bind_ok _ _ _).mp done
  obtain ⟨reversed, added, done⟩ := (except_bind_ok _ _ _).mp done
  obtain ⟨kept, lines⟩ := accounted.swap _ _ _ _ _ _ swapped (fun _ => rfl)
  obtain ⟨-, -, -, -, returnReversals, inserted, rfl⟩ := insertReversal_ok _ _ _ added
  obtain ⟨-, other, found, company, status, rfl⟩ := moveUnitForCustody_ok _ _ _ _ _ _ done
  obtain ⟨unit, stands⟩ := kept.stands
  have booked : bookedCost { moved with returnReversals } companyId unitId =
      bookedCost moved companyId unitId - creditedCost companyId unitId
        (newReversal ctx branchId reversalId loaded settled) := by
    have total := Table.total_insert _ _ _ inserted (creditedCost companyId unitId)
    change moved.saleItems.total (soldCost moved companyId unitId) -
      returnReversals.total (creditedCost companyId unitId) = _
    unfold bookedCost
    omega
  have after := stands.move (bookedCost { moved with returnReversals } companyId unitId)
    loaded.request.unitId other (fun unit => { unit with status := .faulty }) (fun _ => rfl)
    found ⟨rfl, rfl⟩ ?_ ?_
  · obtain ⟨unit', after⟩ := after
    exact ⟨⟨⟨kept.filed, kept.lines, kept.claims⟩, unit', after.found, after.company, after.worth,
      after.placed⟩, lines⟩
  · intro own same road placed
    rw [status] at placed
    have credited : creditedCost companyId unitId
        (newReversal ctx branchId reversalId loaded settled) = cost :=
      (if_pos ⟨company.symm.trans same, own⟩).trans (worth own)
    rw [booked, credited]
    exact ⟨by rw [placed.1, sub_self], placed.2⟩
  · intro beside
    rw [booked, creditedCost_other _ beside, sub_zero]

end Counts

end ErpBackend.Analytics
