import ErpBackend.Transfers.Effects

/-!
# The transactions of a transfer, whole

Each transaction keeps the invariant, whatever ran since the request read the
transfer: the version it swaps on says that the row is still the one it read.
-/

namespace ErpBackend.Transfers

open Foundation Inventory

/-- What stays true of a transfer once read: it is still there, its version has
not gone back, an equal version is an equal row, and its lines are the same. -/
structure Later (db db' : Db) : Prop where
  row : ∀ id transfer, db.stockTransfers.find? id = some transfer →
    ∃ transfer', db'.stockTransfers.find? id = some transfer' ∧
      transfer.version ≤ transfer'.version ∧
      (transfer'.version = transfer.version → transfer' = transfer)
  lines : ∀ id transfer, db.stockTransfers.find? id = some transfer →
    linesOf db' id = linesOf db id

variable {db db' : Db}

namespace Later

theorem congr (transfers : db'.stockTransfers = db.stockTransfers)
    (lines : db'.transferItems = db.transferItems) : Later db db' where
  row id transfer found := by
    rw [transfers]
    exact ⟨transfer, found, Int.le_refl _, fun _ => rfl⟩
  lines id _ _ := by
    unfold linesOf itemsOf
    rw [lines]

theorem refl (db : Db) : Later db db := congr rfl rfl

theorem trans {db db' db'' : Db} (first : Later db db') (second : Later db' db'') :
    Later db db'' := by
  constructor
  · intro id transfer found
    obtain ⟨transfer', found', newer', same'⟩ := first.row id transfer found
    obtain ⟨transfer'', found'', newer'', same''⟩ := second.row id transfer' found'
    refine ⟨transfer'', found'', Int.le_trans newer' newer'', fun version => ?_⟩
    rw [same'' (by omega), same' (by omega)]
  · intro id transfer found
    obtain ⟨transfer', found', -, -⟩ := first.row id transfer found
    rw [second.lines id transfer' found', first.lines id transfer found]

theorem opened (transfer : StockTransfer) (items : List TransferItem)
    (inserted : db.stockTransfers.insert? transfer = some db'.stockTransfers)
    (own : ∀ item ∈ items, item.transferId = transfer.id)
    (lines : bareLines db' = bareLines db ++ items.map bare) : Later db db' := by
  have apart : ∀ id row, db.stockTransfers.find? id = some row → id ≠ transfer.id := by
    intro id row found same
    obtain ⟨present, keyed⟩ := (Table.find?_some _ _ _).mp found
    exact (Table.insert?_some _ _ _ inserted).2 row present (keyed.trans same)
  constructor
  · intro id row found
    refine ⟨row, ?_, Int.le_refl _, fun _ => rfl⟩
    rw [Table.find?_insert _ _ _ inserted, if_neg (apart id row found)]
    exact found
  · intro id row found
    exact linesOf_opened db db' transfer.id items own lines id (apart id row found)

end Later

structure Advanced (moved : StockUnit → Prop) (db db' : Db) : Prop where
  reserved : Reserved db'
  later : Later db db'
  stands : Stands moved db db'
  sales : db'.saleItems = db.saleItems

variable (companyId : Id)

theorem newItems_takes (ids : TransferIds) (units : List (String × Id))
    (plan : List PlannedLine) (transfer : StockTransfer)
    (company : transfer.companyId = companyId) :
    takesAll transfer (newItems companyId ids units plan) =
      (units.map (fun unit => portion (.unit unit.2) 1)).sum +
        (plan.map (fun line => portion (.stock companyId line.productId transfer.fromBranchId)
          line.quantity.value)).sum := by
  unfold takesAll newItems
  rw [List.map_append, List.sum_append]
  congr 1
  · congr 1
    apply List.ext_getElem
    · simp
    · intro index _ _
      simp [takes, unitTake, stockTake, itemFor]
  · congr 1
    apply List.ext_getElem
    · simp
    · intro index _ _
      simp [takes, unitTake, stockTake, itemFor, company]

theorem newItems_mem (ids : TransferIds) (units : List (String × Id))
    (plan : List PlannedLine) (item : TransferItem)
    (member : item ∈ newItems companyId ids units plan) :
    item.transferId = ids.transfer ∧ (item.productId ≠ none → 0 ≤ item.quantity) ∧
      ∀ unitId, item.unitId = some unitId → ∃ unit ∈ units, unit.2 = unitId := by
  unfold newItems at member
  rcases List.mem_append.mp member with phone | line
  · obtain ⟨index, inside, rfl⟩ := List.mem_mapIdx.mp phone
    refine ⟨rfl, fun listed => absurd rfl listed, fun unitId named => ?_⟩
    cases named
    exact ⟨_, List.getElem_mem inside, rfl⟩
  · obtain ⟨index, inside, rfl⟩ := List.mem_mapIdx.mp line
    refine ⟨rfl, fun _ => Int.le_of_lt (plan[index]).quantity.positive, fun unitId named => ?_⟩
    cases named

structure Opens (transfer : StockTransfer) (items : List TransferItem) (db db' : Db) : Prop where
  frame : ∃ units stockItems branchCounters stockTransfers transferItems,
    db' = { db with units, stockItems, branchCounters, stockTransfers, transferItems }
  inserted : db.stockTransfers.insert? transfer = some db'.stockTransfers
  lines : bareLines db' = bareLines db ++ items.map bare
  ours : ∀ item ∈ items, ∀ unitId, item.unitId = some unitId →
    ∃ unit, db'.units.find? unitId = some unit ∧ unit.companyId = transfer.companyId
  stands : Stands Nobody db db'
  out : consigned db' = consigned db
  bounded : Bounded db → Bounded db'
  account : reservedOf db' = reservedOf db + takesAll transfer items

variable (ctx : Ctx)

theorem writeTransfer_opens (selfApproves : Bool) (fromBranchId : Id)
    (ids : TransferIds) (dto : CreateTransferDto) (plan : TransferPlan) (db db' : Db)
    (summary : TransferSummary)
    (done : writeTransfer ctx selfApproves fromBranchId ids dto plan db = .ok (db', summary)) :
    ∃ transferNo, Opens
      (newTransfer ctx selfApproves fromBranchId ids dto plan.lines transferNo)
      (newItems ctx.companyId ids plan.units plan.stock) db db' := by
  unfold writeTransfer at done
  obtain ⟨claimed, reservedUnits, done⟩ := (except_bind_ok _ _ _).mp done
  obtain ⟨stocked, reservedLines, done⟩ := (except_bind_ok _ _ _).mp done
  obtain ⟨⟨numbered, seq⟩, counted, done⟩ := (except_bind_ok _ _ _).mp done
  obtain ⟨opened, insertedTransfer, done⟩ := (except_bind_ok _ _ _).mp done
  obtain ⟨listed, insertedItems, done⟩ := (except_bind_ok _ _ _).mp done
  cases done
  obtain ⟨phones, ours⟩ := reserveUnits_ok _ _ _ _ _ reservedUnits
  have lines := reserveLines_ok _ _ _ _ _ reservedLines
  obtain ⟨counters, numberedEq⟩ := nextNumber_ok _ _ _ _ _ _ counted
  obtain ⟨transfers, inserted, openedEq⟩ := insertTransfer_ok _ _ _ insertedTransfer
  obtain ⟨items, listedEq, rows⟩ := insertTransferItems_ok _ _ _ insertedItems
  obtain ⟨units, claimedEq⟩ := phones.frame
  obtain ⟨stock, stockedEq⟩ := lines.frame
  have unitsEq : db'.units = claimed.units := by
    rw [listedEq, openedEq, numberedEq, stockedEq]
  have stockEq : db'.stockItems = stocked.stockItems := by
    rw [listedEq, openedEq, numberedEq]
  refine ⟨transferNumber plan.prefixText seq, ?_⟩
  constructor
  · exact ⟨units, stock, counters, transfers, items, by
      rw [listedEq, openedEq, numberedEq, stockedEq, claimedEq]⟩
  · have before : numbered.stockTransfers = db.stockTransfers := by
      rw [numberedEq, stockedEq, claimedEq]
    have after : db'.stockTransfers = transfers := by rw [listedEq, openedEq]
    rw [after, ← before]
    exact inserted
  · have itemsEq : opened.transferItems = db.transferItems := by
      rw [openedEq, numberedEq, stockedEq, claimedEq]
    unfold bareLines
    rw [listedEq, rows, List.map_append, itemsEq]
  · intro item member unitId named
    obtain ⟨unit, present, rfl⟩ := (newItems_mem _ _ _ _ item member).2.2 unitId named
    rw [unitsEq]
    exact ours unit present
  · intro id unit found
    rw [unitsEq]
    exact phones.stands id unit found
  · unfold consigned
    rw [unitsEq]
    exact phones.out
  · intro bounded
    unfold Bounded
    rw [stockEq]
    apply lines.bounded
    unfold Bounded
    rw [claimedEq]
    exact bounded
  · have account : reservedOf db' = reservedOf stocked := by
      apply reservedOf_congr
      · rw [unitsEq, stockedEq]
      · exact stockEq
    rw [newItems_takes ctx.companyId _ _ _ _ rfl, account, lines.account, phones.account, add_assoc]
    rfl

theorem writeTransfer_ok (selfApproves : Bool) (fromBranchId : Id) (ids : TransferIds)
    (dto : CreateTransferDto) (plan : TransferPlan) (db db' : Db) (summary : TransferSummary)
    (reserved : Reserved db)
    (done : writeTransfer ctx selfApproves fromBranchId ids dto plan db = .ok (db', summary)) :
    Advanced Nobody db db' := by
  obtain ⟨transferNo, opens⟩ := writeTransfer_opens _ _ _ _ _ _ _ _ _ done
  have mine := newItems_mem ctx.companyId ids plan.units plan.stock
  refine ⟨?_, ?_, opens.stands, ?_⟩
  · apply reserved.opened _ _ opens.inserted
    · cases selfApproves
      · rfl
      · rfl
    · exact fun item member => (mine item member).1
    · exact opens.lines
    · exact fun item member => ⟨(mine item member).2.1, opens.ours item member⟩
    · exact opens.stands
    · exact opens.bounded reserved.bounded
    · exact opens.account
  · exact .opened _ _ opens.inserted (fun item member => (mine item member).1) opens.lines
  · obtain ⟨_, _, _, _, _, equal⟩ := opens.frame
    rw [equal]

/-- The row `transitionTx` writes. -/
def movedTo (target : TransferStatus) (f : StockTransfer → StockTransfer) (row : StockTransfer) :
    StockTransfer :=
  { f row with id := row.id, status := target, version := row.version + 1 }

theorem movedTo_id (target : TransferStatus) (f : StockTransfer → StockTransfer)
    (row : StockTransfer) : (movedTo target f row).id = row.id := rfl

/-- `data` never names the company or the branch the stock leaves. -/
def Quiet (f : StockTransfer → StockTransfer) : Prop :=
  ∀ row, (f row).companyId = row.companyId ∧ (f row).fromBranchId = row.fromBranchId

theorem takesAll_movedTo (target : TransferStatus) (f : StockTransfer → StockTransfer)
    (quiet : Quiet f) (transfer : StockTransfer) (items : List TransferItem) :
    takesAll (movedTo target f transfer) items = takesAll transfer items := by
  have same : takes (movedTo target f transfer) = takes transfer := by
    funext item
    simp only [takes, movedTo, (quiet transfer).1, (quiet transfer).2]
  unfold takesAll
  rw [same]

theorem demand_movedTo (db : Db) (target : TransferStatus) (f : StockTransfer → StockTransfer)
    (quiet : Quiet f) (transfer : StockTransfer) :
    demand db (movedTo target f transfer) =
      if reserving target then takesAll transfer (linesOf db transfer.id) else 0 := by
  unfold demand
  rw [takesAll_movedTo target f quiet]
  rfl

theorem reserving_of_transition (source target : TransferStatus)
    (legal : target ∈ transitions source) (waits : reserving target = true) :
    reserving source = true := by
  revert legal waits
  cases source <;> cases target <;> decide

theorem reserving_source (source target : TransferStatus) (legal : target ∈ transitions source) :
    reserving source = decide (target ≠ .received) := by
  revert legal
  cases source <;> cases target <;> decide

theorem Later.transition (transfer : StockTransfer) (target : TransferStatus)
    (f : StockTransfer → StockTransfer)
    (current : db.stockTransfers.find? transfer.id = some transfer)
    (transfers : db'.stockTransfers =
      db.stockTransfers.update transfer.id (movedTo target f) (movedTo_id target f))
    (lines : bareLines db' = bareLines db) : Later db db' := by
  constructor
  · intro id row found
    rw [transfers, Table.find?_update]
    by_cases same : id = transfer.id
    · subst same
      rw [current] at found
      cases found
      refine ⟨movedTo target f transfer, by rw [if_pos rfl, current]; rfl, ?_, ?_⟩
      · show transfer.version ≤ transfer.version + 1
        omega
      · intro equal
        have grown : transfer.version + 1 = transfer.version := equal
        omega
    · exact ⟨row, by rw [if_neg same]; exact found, Int.le_refl _, fun _ => rfl⟩
  · intro id _ _
    exact linesOf_congr db db' lines id

theorem Advanced.transition {moved : StockUnit → Prop} (reserved : Reserved db)
    (transfer : StockTransfer) (target : TransferStatus) (f : StockTransfer → StockTransfer)
    (quiet : Quiet f) (legal : target ∈ transitions transfer.status)
    (current : db.stockTransfers.find? transfer.id = some transfer)
    (transfers : db'.stockTransfers =
      db.stockTransfers.update transfer.id (movedTo target f) (movedTo_id target f))
    (lines : bareLines db' = bareLines db) (stands : Stands moved db db') (bounded : Bounded db')
    (account : reservedOf db' + demand db transfer =
      reservedOf db + demand db (movedTo target f transfer))
    (sales : db'.saleItems = db.saleItems) : Advanced moved db db' where
  reserved := reserved.transition transfer (movedTo target f) (movedTo_id target f) current
    (quiet transfer).1 (fun waits => reserving_of_transition _ _ legal waits) transfers lines stands
    bounded account
  later := .transition transfer target f current transfers lines
  stands := stands
  sales := sales

/-- Between the read and the transaction the row is unchanged, or its version is
not the one the client sends. -/
def Current (transfer : StockTransfer) (expectedVersion : Nat) (db : Db) : Prop :=
  ∀ row, db.stockTransfers.find? transfer.id = some row → row.version = expectedVersion →
    row = transfer

theorem approve_ok (transfer : StockTransfer) (expectedVersion : Nat)
    (f : StockTransfer → StockTransfer) (quiet : Quiet f) (db db' : Db) (reserved : Reserved db)
    (current : Current transfer expectedVersion db)
    (done : transitionTx companyId transfer .approved expectedVersion f db = .ok db') :
    Advanced Nobody db db' := by
  obtain ⟨legal, row, found, -, version, equal⟩ := transitionTx_ok _ _ _ _ _ _ _ done
  obtain rfl := current row found version
  have waiting : reserving row.status = true := reserving_of_transition _ _ legal rfl
  have account : demand db (movedTo .approved f row) = demand db row := by
    rw [demand_movedTo db .approved f quiet row]
    unfold demand
    rw [if_pos waiting]
    rfl
  subst equal
  exact .transition reserved row .approved f quiet legal found rfl rfl (.refl db _ rfl)
    reserved.bounded (by rw [account]; rfl) rfl

theorem Reserved.covers {db : Db} (reserved : Reserved db) (transfer : StockTransfer)
    (present : transfer ∈ db.stockTransfers.rows) (waiting : reserving transfer.status = true)
    (resource : Resource) :
    takesAll transfer (itemsOf db transfer.id) resource ≤ reservedOf db resource := by
  have nonneg : ∀ part ∈ db.stockTransfers.rows.map (demand db), ∀ resource,
      0 ≤ part resource := by
    intro part member resource
    obtain ⟨other, inside, rfl⟩ := List.mem_map.mp member
    unfold demand
    split
    · next waits =>
      have quantities := fun line listed => (reserved.backed other inside waits line listed).1
      rw [takesAll_eq, Pi.add_apply]
      have phones := unitTakes_nonneg (linesOf db other.id) resource
      have lines := stockTakes_nonneg other.companyId other.fromBranchId (linesOf db other.id)
        quantities resource
      omega
    · exact Int.le_refl 0
  have own := le_sum _ nonneg (demand db transfer) (List.mem_map_of_mem present) resource
  rw [reserved.account]
  unfold demand linesOf at own
  rw [if_pos waiting, takesAll_bare] at own
  exact own

theorem releaseReservationsTx_ok (companyId transferId fromBranchId : Id) (db db' : Db)
    (backed : ∀ item ∈ itemsOf db transferId, Backed db companyId item)
    (covered : ∀ resource, (((itemsOf db transferId).map unitTake).sum +
      ((itemsOf db transferId).map (stockTake companyId fromBranchId)).sum) resource ≤
        reservedOf db resource)
    (done : releaseReservationsTx companyId transferId fromBranchId db = .ok db') :
    (∃ units stockItems, db' = { db with units, stockItems }) ∧ Stands Nobody db db' ∧
      (Bounded db → Bounded db') ∧
      reservedOf db' + (((itemsOf db transferId).map unitTake).sum +
        ((itemsOf db transferId).map (stockTake companyId fromBranchId)).sum) = reservedOf db := by
  have quantities : ∀ item ∈ itemsOf db transferId, item.productId ≠ none → 0 ≤ item.quantity :=
    fun item member => (backed item member).1
  have phones := releaseUnits_ok companyId (itemsOf db transferId) db
    (fun item member => (backed item member).2)
    (by
      intro resource
      have whole := covered resource
      have lines := stockTakes_nonneg companyId fromBranchId _ quantities resource
      rw [Pi.add_apply] at whole
      omega)
  have lines := releaseLines_ok companyId fromBranchId _ _ db' quantities
    (by
      intro resource
      have whole := covered resource
      rw [phones.account, Pi.add_apply, Pi.neg_apply]
      rw [Pi.add_apply] at whole
      omega) done
  obtain ⟨units, released⟩ := phones.frame
  obtain ⟨stockItems, restocked⟩ := lines.frame
  refine ⟨⟨units, stockItems, by rw [restocked, released]⟩, ?_, ?_, ?_⟩
  · intro id unit found
    rw [restocked]
    exact phones.stands id unit found
  · intro bounded
    apply lines.bounded
    rw [released]
    exact bounded
  · rw [lines.account, phones.account]
    abel

theorem withdraw_ok (transfer : StockTransfer) (target : TransferStatus)
    (dto : TransferDecisionDto) (ends : reserving target = false) (kept : target ≠ .received)
    (db db' : Db) (reserved : Reserved db) (current : Current transfer dto.expectedVersion db)
    (done : withdraw ctx transfer target dto db = .ok db') : Advanced Nobody db db' := by
  unfold withdraw at done
  obtain ⟨moved, transition, released⟩ := (except_bind_ok _ _ _).mp done
  obtain ⟨legal, row, found, company, version, equal⟩ := transitionTx_ok _ _ _ _ _ _ _ transition
  obtain rfl := current row found version
  have waiting : reserving row.status = true := by
    rw [reserving_source _ _ legal]
    exact decide_eq_true kept
  have present := Table.mem_of_find? _ _ _ found
  have items : itemsOf moved row.id = itemsOf db row.id := by
    rw [equal]
    rfl
  have account : reservedOf moved = reservedOf db := by
    rw [equal]
    exact reservedOf_congr _ _ rfl rfl
  have whole : takesAll row (itemsOf db row.id) = ((itemsOf moved row.id).map unitTake).sum +
      ((itemsOf moved row.id).map (stockTake ctx.companyId row.fromBranchId)).sum := by
    rw [takesAll_eq, items, company]
  obtain ⟨⟨units, stockItems, frame⟩, stands, bounded, balance⟩ :=
    releaseReservationsTx_ok ctx.companyId row.id row.fromBranchId moved db'
      (by
        intro item member
        rw [items] at member
        have backed := reserved.backed row present waiting (bare item)
          (List.mem_map_of_mem member)
        rw [company] at backed
        rw [equal]
        exact backed)
      (by
        rw [← whole, account]
        exact reserved.covers row present waiting) released
  have quiet : Quiet (decidedBy ctx dto.reason) := fun _ => ⟨rfl, rfl⟩
  have finished : demand db (movedTo target (decidedBy ctx dto.reason) row) = 0 := by
    rw [demand_movedTo db target _ quiet row, ends]
    rfl
  have held : demand db row = takesAll row (itemsOf db row.id) := by
    unfold demand linesOf
    rw [if_pos waiting, takesAll_bare]
  apply Advanced.transition reserved row target (decidedBy ctx dto.reason) quiet legal found
  · rw [frame, equal]
    rfl
  · unfold bareLines
    rw [frame, equal]
  · intro id unit present
    exact stands id unit (by rw [equal]; exact present)
  · apply bounded
    rw [equal]
    exact reserved.bounded
  · rw [finished, held, add_zero, whole, balance, account]
  · rw [frame, equal]

theorem writeShipment_ok (transfer : StockTransfer) (items : List Loaded)
    (expectedVersion : Nat) (db db' : Db) (reserved : Reserved db)
    (current : Current transfer expectedVersion db)
    (same : (items.map Prod.fst).map bare = linesOf db transfer.id)
    (done : writeShipment ctx transfer items expectedVersion db = .ok db') :
    Advanced Nobody db db' := by
  unfold writeShipment at done
  obtain ⟨moved, shippedUnits, done⟩ := (except_bind_ok _ _ _).mp done
  obtain ⟨shipped, shippedLines, transition⟩ := (except_bind_ok _ _ _).mp done
  have phones := shipUnits_ok _ _ _ _ shippedUnits
  obtain ⟨units, movedEq⟩ := phones.frame
  obtain ⟨⟨stockItems, transferItems, shippedEq⟩, lines, bounded, account⟩ :=
    shipLines_ok _ _ _ _ _ shippedLines
  obtain ⟨legal, row, found, company, version, equal⟩ := transitionTx_ok _ _ _ _ _ _ _ transition
  have transfers : shipped.stockTransfers = db.stockTransfers := by rw [shippedEq, movedEq]
  rw [transfers] at found equal
  obtain rfl := current row found version
  have waiting : reserving row.status = true := by
    rw [reserving_source _ _ legal]
    rfl
  have held : demand db row = ((items.map Prod.fst).map unitTake).sum +
      ((items.map Prod.fst).map (stockTake ctx.companyId row.fromBranchId)).sum := by
    unfold demand
    rw [if_pos waiting, ← same, takesAll_bare, takesAll_eq, company]
  have quiet : Quiet (fun row : StockTransfer =>
      { row with sentAt := ctx.now, sentById := ctx.userId }) := fun _ => ⟨rfl, rfl⟩
  have finished : demand db (movedTo .inTransit (fun row : StockTransfer =>
      { row with sentAt := ctx.now, sentById := ctx.userId }) row) = 0 := by
    rw [demand_movedTo db .inTransit _ quiet row]
    rfl
  have taken : reservedOf db' = reservedOf shipped := by
    apply reservedOf_congr
    · rw [equal]
    · rw [equal]
  apply Advanced.transition reserved row .inTransit _ quiet legal found
  · rw [equal]
    rfl
  · have written : bareLines db' = bareLines shipped := by
      unfold bareLines
      rw [equal]
    rw [written, lines]
    unfold bareLines
    rw [movedEq]
  · intro id unit present
    rw [equal, shippedEq]
    exact phones.stands id unit present
  · unfold Bounded
    rw [equal]
    apply bounded
    rw [movedEq]
    exact reserved.bounded
  · rw [finished, held, taken, account, phones.account]
    abel
  · rw [equal, shippedEq, movedEq]

def Arriving (unitIds : List Id) (unit : StockUnit) : Prop :=
  unit.id ∈ unitIds ∧ unit.status = .inTransit

variable (companyId toBranchId : Id)

variable (unitIds : List Id)

theorem receiveUnits_frame (db : Db) :
    ∃ units, unitIds.foldl (receiveUnit companyId toBranchId) db = { db with units } := by
  induction unitIds generalizing db with
  | nil => exact ⟨_, rfl⟩
  | cons unitId rest ih =>
      obtain ⟨units, equal⟩ := ih (receiveUnit companyId toBranchId db unitId)
      exact ⟨units, by rw [List.foldl_cons, equal]; rfl⟩

theorem receiveUnits_row (db : Db) (id : Id)
    (unit : StockUnit) (found : db.units.find? id = some unit) :
    ∃ unit', (unitIds.foldl (receiveUnit companyId toBranchId) db).units.find? id = some unit' ∧
      (unit' = unit ∨ Arriving unitIds unit ∧
        unit' = { unit with status := .inStock, branchId := toBranchId }) := by
  induction unitIds generalizing db with
  | nil => exact ⟨unit, found, .inl rfl⟩
  | cons unitId rest ih =>
      rw [List.foldl_cons]
      have first : (receiveUnit companyId toBranchId db unitId).units.find? id = some
          (if decide (unit.id = unitId ∧ unit.companyId = companyId ∧ unit.status = .inTransit)
            then { unit with status := .inStock, branchId := toBranchId } else unit) := by
        unfold receiveUnit
        rw [Table.find?_modify, found]
        rfl
      split at first
      · next arrived =>
        obtain ⟨named, -, status⟩ := of_decide_eq_true arrived
        have settled : ∀ (ids : List Id) (db : Db), db.units.find? id =
            some { unit with status := .inStock, branchId := toBranchId } →
            (ids.foldl (receiveUnit companyId toBranchId) db).units.find? id =
              some { unit with status := .inStock, branchId := toBranchId } := by
          intro ids
          induction ids with
          | nil => exact fun _ here => here
          | cons other others step =>
              intro db here
              apply step
              unfold receiveUnit
              rw [Table.find?_modify, here]
              simp
        exact ⟨_, settled rest _ first, .inr ⟨⟨by simp [named], status⟩, rfl⟩⟩
      · obtain ⟨unit', found', outcome⟩ := ih _ first
        refine ⟨unit', found', ?_⟩
        rcases outcome with same | ⟨⟨member, status⟩, image⟩
        · exact .inl same
        · exact .inr ⟨⟨List.mem_cons_of_mem _ member, status⟩, image⟩

theorem receiveUnits_missing (db : Db) (id : Id)
    (missing : db.units.find? id = none) :
    (unitIds.foldl (receiveUnit companyId toBranchId) db).units.find? id = none := by
  induction unitIds generalizing db with
  | nil => exact missing
  | cons unitId rest ih =>
      apply ih
      unfold receiveUnit
      rw [Table.find?_modify, missing]
      rfl

theorem receiveUnits_account (db : Db) :
    reservedOf (unitIds.foldl (receiveUnit companyId toBranchId) db) = reservedOf db := by
  funext resource
  cases resource with
  | stock company product branch =>
      obtain ⟨units, equal⟩ := receiveUnits_frame companyId toBranchId unitIds db
      simp only [reservedOf, equal]
  | unit id =>
      rcases found : db.units.find? id with _ | unit
      · simp only [reservedOf, found, receiveUnits_missing _ _ _ _ _ found]
      · obtain ⟨unit', found', outcome⟩ :=
          receiveUnits_row companyId toBranchId unitIds db id unit found
        rw [reservedOf_unit_of_found _ _ _ found', reservedOf_unit_of_found _ _ _ found]
        rcases outcome with rfl | ⟨⟨-, status⟩, rfl⟩
        · rfl
        · simp [marked, status]

theorem writeReceipt_ok (transfer : StockTransfer) (toBranchId : Id)
    (items : List Loaded) (units : List StockUnit) (expectedVersion : Nat) (db db' : Db)
    (reserved : Reserved db) (current : Current transfer expectedVersion db)
    (done : writeReceipt ctx transfer toBranchId items units expectedVersion db = .ok db') :
    Advanced (Arriving (units.map StockUnit.id)) db db' := by
  unfold writeReceipt at done
  obtain ⟨received, receivedLines, transition⟩ := (except_bind_ok _ _ _).mp done
  have lines := receiveLines_ok _ _ _ _ _ receivedLines
  obtain ⟨stockItems, receivedEq⟩ := lines.frame
  obtain ⟨rows, arrivedEq⟩ := receiveUnits_frame ctx.companyId toBranchId
    (units.map StockUnit.id) db
  obtain ⟨legal, row, found, -, version, equal⟩ := transitionTx_ok _ _ _ _ _ _ _ transition
  have transfers : received.stockTransfers = db.stockTransfers := by
    rw [receivedEq, invalidateOnBranchMove, arrivedEq]
  rw [transfers] at found equal
  obtain rfl := current row found version
  have waiting : reserving row.status = false := by
    rw [reserving_source _ _ legal]
    rfl
  have nothing : demand db row = 0 := by
    unfold demand
    rw [waiting]
    rfl
  have quiet : Quiet (fun row : StockTransfer =>
      { row with receivedById := ctx.userId, receivedAt := some ctx.now }) :=
    fun _ => ⟨rfl, rfl⟩
  have finished : demand db (movedTo .received (fun row : StockTransfer =>
      { row with receivedById := ctx.userId, receivedAt := some ctx.now }) row) = 0 := by
    rw [demand_movedTo db .received _ quiet row]
    rfl
  have account : reservedOf db' = reservedOf db := by
    have written : reservedOf db' = reservedOf received := by
      apply reservedOf_congr
      · rw [equal]
      · rw [equal]
    rw [written, lines.account, add_zero,
      ← receiveUnits_account ctx.companyId toBranchId (units.map StockUnit.id) db]
    exact reservedOf_congr _ _ rfl rfl
  apply Advanced.transition reserved row .received _ quiet legal found
  · rw [equal]
    rfl
  · unfold bareLines
    rw [equal, receivedEq, invalidateOnBranchMove, arrivedEq]
  · intro id unit present
    obtain ⟨unit', found', outcome⟩ :=
      receiveUnits_row ctx.companyId toBranchId (units.map StockUnit.id) db id unit present
    refine ⟨unit', by rw [equal, receivedEq]; exact found', ?_⟩
    rcases outcome with rfl | ⟨arriving, rfl⟩
    · exact ⟨rfl, .inl rfl⟩
    · exact ⟨rfl, .inr arriving⟩
  · unfold Bounded
    rw [equal]
    apply lines.bounded
    unfold Bounded
    rw [invalidateOnBranchMove, arrivedEq]
    exact reserved.bounded
  · rw [finished, nothing, account]
  · rw [equal, receivedEq, invalidateOnBranchMove, arrivedEq]

end ErpBackend.Transfers
