import ErpBackend.Inventory.Shelves
import ErpBackend.Transfers.Transactions

/-!
# From shelf to shelf

What a company holds of a product is on the shelves of its branches or on the
lines of the transfers in transit. Shipping takes the lines off one shelf and
receiving puts them on another; phones travel by their own status.
-/

namespace ErpBackend.Transfers

open Foundation Inventory

variable {β : Type}

def goodsOn (productId : Id) (item : TransferItem) : Int :=
  if item.productId = some productId then item.quantity else 0

def goodsOf (items : List TransferItem) : Id → Int :=
  fun productId => (items.map (goodsOn productId)).sum

def phonesOf (items : List TransferItem) : List Id := items.filterMap TransferItem.unitId

def rolling (companyId : Id) (transfer : StockTransfer) : Bool :=
  transfer.companyId = companyId ∧ transfer.status = .inTransit

def onTheRoad (db : Db) (companyId productId : Id) : Int :=
  db.transferItems.total (fun item =>
    if (db.stockTransfers.find? item.transferId).any (rolling companyId) then
      goodsOn productId item else 0)

def holdings (db : Db) (companyId productId : Id) : Int :=
  onShelves db companyId productId + onTheRoad db companyId productId

theorem goodsOf_cons (item : TransferItem) (rest : List TransferItem) :
    goodsOf (item :: rest) = (match item.productId with
      | some productId => ofProduct productId item.quantity
      | none => 0) + goodsOf rest := by
  funext productId
  simp only [goodsOf, List.map_cons, List.sum_cons, Pi.add_apply]
  congr 1
  rcases listed : item.productId with _ | other
  · simp [goodsOn, listed]
  · simp [goodsOn, listed, ofProduct, eq_comm]

theorem goodsOf_bare (items : List TransferItem) : goodsOf (items.map bare) = goodsOf items := by
  funext productId
  unfold goodsOf
  rw [List.map_map]
  rfl

theorem phonesOf_bare (items : List TransferItem) : phonesOf (items.map bare) = phonesOf items := by
  unfold phonesOf
  rw [List.filterMap_map]
  rfl

theorem goodsOf_congr (db db' : Db) (lines : bareLines db' = bareLines db) (transferId : Id) :
    goodsOf (itemsOf db' transferId) = goodsOf (itemsOf db transferId) := by
  rw [← goodsOf_bare, ← goodsOf_bare (itemsOf db transferId)]
  exact congrArg goodsOf (linesOf_congr db db' lines transferId)

theorem phonesOf_congr (db db' : Db) (lines : bareLines db' = bareLines db) (transferId : Id) :
    phonesOf (itemsOf db' transferId) = phonesOf (itemsOf db transferId) := by
  rw [← phonesOf_bare, ← phonesOf_bare (itemsOf db transferId)]
  exact congrArg phonesOf (linesOf_congr db db' lines transferId)

theorem onTheRoad_eq (db : Db) (companyId productId : Id) :
    onTheRoad db companyId productId = ((bareLines db).map (fun item =>
      if (db.stockTransfers.find? item.transferId).any (rolling companyId) then
        goodsOn productId item else 0)).sum := by
  unfold onTheRoad Table.total bareLines
  rw [List.map_map]
  rfl

theorem goodsOf_eq (db : Db) (transferId productId : Id) :
    goodsOf (itemsOf db transferId) productId = ((bareLines db).map (fun item =>
      if item.transferId = transferId then goodsOn productId item else 0)).sum := by
  have rows := db.transferItems.sum_filter (fun item => decide (item.transferId = transferId))
    (goodsOn productId)
  unfold goodsOf itemsOf bareLines
  rw [rows, List.map_map]
  simp only [decide_eq_true_eq]
  rfl

theorem onTheRoad_moved (db db' : Db) (transfer : StockTransfer)
    (g : StockTransfer → StockTransfer) (keep : ∀ row, (g row).id = row.id)
    (row : db.stockTransfers.find? transfer.id = some transfer)
    (transfers : db'.stockTransfers = db.stockTransfers.update transfer.id g keep)
    (lines : bareLines db' = bareLines db) (companyId productId : Id) :
    onTheRoad db' companyId productId +
        (if rolling companyId transfer then goodsOf (itemsOf db transfer.id) productId else 0) =
      onTheRoad db companyId productId +
        (if rolling companyId (g transfer) then goodsOf (itemsOf db transfer.id) productId
          else 0) := by
  rw [onTheRoad_eq, onTheRoad_eq, lines, goodsOf_eq]
  induction bareLines db with
  | nil => simp
  | cons item rest ih =>
      simp only [List.map_cons, List.sum_cons]
      by_cases own : item.transferId = transfer.id
      · have after : db'.stockTransfers.find? item.transferId = some (g transfer) := by
          rw [transfers, Table.find?_update, if_pos own, row]
          rfl
        rw [after, own, row]
        simp only [Option.any_some, if_true]
        by_cases before : rolling companyId transfer = true
        · by_cases later : rolling companyId (g transfer) = true
          · simp only [before, later, if_true] at ih ⊢
            omega
          · simp only [before, later, if_true, Bool.false_eq_true, if_false] at ih ⊢
            omega
        · by_cases later : rolling companyId (g transfer) = true
          · simp only [before, later, if_true, Bool.false_eq_true, if_false] at ih ⊢
            omega
          · simp only [before, later, Bool.false_eq_true, if_false] at ih ⊢
            omega
      · have after : db'.stockTransfers.find? item.transferId =
            db.stockTransfers.find? item.transferId := by
          rw [transfers, Table.find?_update, if_neg own]
        rw [after, if_neg own, zero_add]
        omega

theorem shipLines_shelved (companyId fromBranchId : Id) (items : List TransferItem) (db db' : Db)
    (done : shipLines companyId fromBranchId items db = .ok db') :
    Shelved companyId fromBranchId db db' (-goodsOf items) := by
  induction items generalizing db with
  | nil =>
      cases done
      exact (Shelved.refl _).cast (by funext; simp [goodsOf])
  | cons item rest ih =>
      rw [goodsOf_cons]
      unfold shipLines at done
      split at done
      · next absent =>
        rw [absent, zero_add]
        exact ih db done
      · next productId listed =>
        split at done
        · cases done
        · next source row =>
          obtain ⟨⟨shipped, found⟩, stored, done⟩ := (except_bind_ok _ _ _).mp done
          cases found with
          | false => cases done
          | true =>
              have first := shipQuantity_shelved _ _ _ _ _ _ stored
              have costed : Shelved companyId fromBranchId db
                  (costShipped item.id source.cost shipped)
                  (-ofProduct productId item.quantity) := first.congr rfl rfl
              rw [listed, neg_add]
              exact costed.trans (ih _ done)

theorem receiveLines_shelved (companyId toBranchId : Id) (items : List TransferItem) (db db' : Db)
    (done : receiveLines companyId toBranchId items db = .ok db') :
    Shelved companyId toBranchId db db' (goodsOf items) := by
  induction items generalizing db with
  | nil =>
      cases done
      exact (Shelved.refl _).cast (by funext; simp [goodsOf])
  | cons item rest ih =>
      rw [goodsOf_cons]
      unfold receiveLines at done
      split at done
      · next absent =>
        rw [absent, zero_add]
        exact ih db done
      · cases done
      · next productId unitCost listed _ =>
        obtain ⟨received, stored, done⟩ := (except_bind_ok _ _ _).mp done
        rw [listed]
        exact (receiveQuantityAtCost_shelved _ _ _ _ _ _ _ _ stored).trans (ih received done)

theorem shipUnits_rows (companyId : Id) (items : List Loaded) (db db' : Db)
    (done : shipUnits companyId items db = .ok db') :
    (∀ id, db'.units.find? id = (db.units.find? id).map (fun unit =>
      if id ∈ phonesOf (items.map Prod.fst) then { unit with status := .inTransit } else unit)) ∧
    ∀ id ∈ phonesOf (items.map Prod.fst), ∃ unit, db.units.find? id = some unit ∧
      unit.companyId = companyId ∧ unit.status = .reserved := by
  induction items generalizing db with
  | nil =>
      cases done
      simp [phonesOf]
  | cons loaded rest ih =>
      obtain ⟨item, unit⟩ := loaded
      unfold shipUnits at done
      split at done
      · next unlisted =>
        have same : phonesOf (((item, unit) :: rest).map Prod.fst) =
            phonesOf (rest.map Prod.fst) := List.filterMap_cons_none unlisted
        rw [same]
        exact ih db done
      · next unitId listed =>
        have first : phonesOf (((item, unit) :: rest).map Prod.fst) =
            unitId :: phonesOf (rest.map Prod.fst) := List.filterMap_cons_some listed
        split at done
        · cases done
        · next units claimed =>
          obtain ⟨old, found, passed, rfl⟩ := (Table.swap?_some _ _ _ _ _ _).mp claimed
          obtain ⟨rows, reserved⟩ := ih _ done
          rw [first]
          constructor
          · intro id
            rw [rows, Table.find?_update]
            by_cases same : id = unitId
            · subst same
              rw [if_pos rfl, found]
              simp
            · rw [if_neg same]
              simp [same]
          · intro id member
            by_cases same : id = unitId
            · subst same
              obtain ⟨company, status⟩ := of_decide_eq_true passed
              exact ⟨old, found, company, status⟩
            · obtain ⟨unit', found', facts⟩ :=
                reserved id ((List.mem_cons.mp member).resolve_left same)
              rw [Table.find?_update, if_neg same] at found'
              exact ⟨unit', found', facts⟩

theorem receiveUnits_rows (companyId toBranchId : Id) (unitIds : List Id) (db : Db) (id : Id) :
    (unitIds.foldl (receiveUnit companyId toBranchId) db).units.find? id =
      (db.units.find? id).map (fun unit =>
        if id ∈ unitIds ∧ unit.companyId = companyId ∧ unit.status = .inTransit then
          { unit with status := .inStock, branchId := toBranchId } else unit) := by
  induction unitIds generalizing db with
  | nil => simp
  | cons unitId rest ih =>
      rw [List.foldl_cons, ih, receiveUnit, Table.find?_modify, Option.map_map]
      rcases found : db.units.find? id with _ | unit
      · rfl
      · obtain rfl := Table.key_of_find? _ _ _ found
        simp only [Option.map_some, Function.comp_apply, decide_eq_true_eq, List.mem_cons]
        by_cases ready : unit.companyId = companyId ∧ unit.status = .inTransit
        · by_cases same : unit.id = unitId
          · simp [same, ready]
          · simp only [same, false_and, if_false, false_or]
        · have stays : ¬(unit.id = unitId ∧ unit.companyId = companyId ∧
            unit.status = .inTransit) :=
            fun all => ready all.2
          rw [if_neg stays, if_neg (fun all => ready all.2), if_neg (fun all => ready all.2)]

/-- `data` of a transition names neither the company nor a branch. -/
def Routed (f : StockTransfer → StockTransfer) : Prop :=
  ∀ row, (f row).companyId = row.companyId ∧ (f row).fromBranchId = row.fromBranchId ∧
    (f row).toBranchId = row.toBranchId

/-- The transfer, and nothing else, went on to `target`. -/
structure Went (transfer : StockTransfer) (target : TransferStatus) (db db' : Db) : Prop where
  row : db.stockTransfers.find? transfer.id = some transfer
  legal : target ∈ transitions transfer.status
  moved : ∃ f, Routed f ∧ db'.stockTransfers =
    db.stockTransfers.update transfer.id (movedTo target f) (movedTo_id target f)
  lines : bareLines db' = bareLines db

structure Shipped (transfer : StockTransfer) (db db' : Db) : Prop
    extends Went transfer .inTransit db db' where
  shelf : Shelved transfer.companyId transfer.fromBranchId db db'
    (-goodsOf (itemsOf db transfer.id))
  waiting : ∀ id ∈ phonesOf (itemsOf db transfer.id), ∃ unit, db.units.find? id = some unit ∧
    unit.companyId = transfer.companyId ∧ unit.status = .reserved ∧
    unit.branchId = transfer.fromBranchId
  phones : ∀ id, db'.units.find? id = (db.units.find? id).map (fun unit =>
    if id ∈ phonesOf (itemsOf db transfer.id) then { unit with status := .inTransit } else unit)

/-- A phone of the transfer that is scanned while it is still on its way. -/
def arrives (transfer : StockTransfer) (items : List TransferItem) (scanned : List String)
    (unit : StockUnit) : Prop :=
  unit.id ∈ phonesOf items ∧ unit.identifier ∈ scanned ∧
    unit.companyId = transfer.companyId ∧ unit.status = .inTransit

instance (transfer : StockTransfer) (items : List TransferItem) (scanned : List String)
    (unit : StockUnit) : Decidable (arrives transfer items scanned unit) :=
  inferInstanceAs (Decidable (_ ∧ _))

structure Landed (transfer : StockTransfer) (scanned : List String) (db db' : Db) : Prop
    extends Went transfer .received db db' where
  shelf : Shelved transfer.companyId transfer.toBranchId db db' (goodsOf (itemsOf db transfer.id))
  phones : ∀ id, db'.units.find? id = (db.units.find? id).map (fun unit =>
    if arrives transfer (itemsOf db transfer.id) scanned unit then
      { unit with status := .inStock, branchId := transfer.toBranchId } else unit)

variable {transfer : StockTransfer}

theorem Went.legs {target : TransferStatus} {db db' : Db}
    (went : Went transfer target db db') : ∃ transfer',
      db'.stockTransfers.find? transfer.id = some transfer' ∧ transfer'.status = target ∧
      transfer'.id = transfer.id ∧ transfer'.companyId = transfer.companyId ∧
      transfer'.fromBranchId = transfer.fromBranchId ∧
      transfer'.toBranchId = transfer.toBranchId := by
  obtain ⟨f, routed, moved⟩ := went.moved
  refine ⟨movedTo target f transfer, ?_, rfl, rfl, routed transfer⟩
  rw [moved, Table.find?_update, if_pos rfl, went.row]
  rfl

/-- The sum over shelves and road follows the shelf alone, unless the lines take to the
road or leave it. -/
theorem Went.holdings {target : TransferStatus} {branchId : Id}
    {db db' : Db} {change : Id → Int} (went : Went transfer target db db')
    (shelf : Shelved transfer.companyId branchId db db' change)
    (balance : ∀ productId, change productId +
        (if target = .inTransit then goodsOf (itemsOf db transfer.id) productId else 0) =
      if transfer.status = .inTransit then goodsOf (itemsOf db transfer.id) productId else 0)
    (companyId productId : Id) :
    holdings db' companyId productId = holdings db companyId productId := by
  obtain ⟨f, routed, moved⟩ := went.moved
  have road := onTheRoad_moved db db' transfer (movedTo target f) (movedTo_id target f) went.row
    moved went.lines companyId productId
  have company : (movedTo target f transfer).companyId = transfer.companyId :=
    (routed transfer).1
  have status : (movedTo target f transfer).status = target := rfl
  unfold rolling at road
  rw [company, status] at road
  unfold Transfers.holdings
  by_cases own : transfer.companyId = companyId
  · subst own
    have shelves := shelf.total productId
    have balanced := balance productId
    simp only [true_and, decide_eq_true_eq] at road
    omega
  · have shelves := shelf.others companyId (Ne.symm own) productId
    simp only [own, false_and, decide_false, Bool.false_eq_true, if_false] at road
    omega

theorem Shipped.holdings {db db' : Db}
    (shipped : Shipped transfer db db') (companyId productId : Id) :
    holdings db' companyId productId = holdings db companyId productId := by
  apply shipped.toWent.holdings shipped.shelf
  intro productId
  have legal := shipped.legal
  cases status : transfer.status with
  | approved => simp
  | pendingApproval | inTransit | received | rejected | cancelled =>
      rw [status] at legal
      simp [transitions] at legal

theorem Landed.holdings {scanned : List String} {db db' : Db}
    (landed : Landed transfer scanned db db') (companyId productId : Id) :
    holdings db' companyId productId = holdings db companyId productId := by
  apply landed.toWent.holdings landed.shelf
  intro productId
  have legal := landed.legal
  cases status : transfer.status with
  | inTransit => simp
  | pendingApproval | approved | received | rejected | cancelled =>
      rw [status] at legal
      simp [transitions] at legal

theorem loadItems_items (db : Db) (transferId : Id) :
    (loadItems db transferId).map Prod.fst = itemsOf db transferId := by
  unfold loadItems
  rw [List.map_map]
  exact List.map_id _

theorem transitionTx_went (companyId : Id) (transfer : StockTransfer) (target : TransferStatus)
    (expectedVersion : Nat) (f : StockTransfer → StockTransfer) (start db db' : Db)
    (done : transitionTx companyId transfer target expectedVersion f db = .ok db')
    (routed : Routed f) (row : start.stockTransfers.find? transfer.id = some transfer)
    (transfers : db.stockTransfers = start.stockTransfers)
    (lines : bareLines db = bareLines start) :
    Went transfer target start db' ∧ ∃ stockTransfers, db' = { db with stockTransfers } := by
  obtain ⟨legal, old, found, -, -, equal⟩ := transitionTx_ok _ _ _ _ _ _ _ done
  refine ⟨⟨row, legal, ⟨f, routed, ?_⟩, ?_⟩, _, equal⟩
  · rw [equal, transfers]
    rfl
  · rw [← lines]
    unfold bareLines
    rw [equal]

variable (ctx : Ctx)

theorem load_run (id : Id) (db : Db) (f : StockTransfer → Request β)
    (post : Db → Except Refusal β → Prop) (fails : ∀ refusal, post db (.error refusal))
    (rest : ∀ transfer, db.stockTransfers.find? id = some transfer →
      transfer.companyId = ctx.companyId → Prog.Ensures (f transfer) post db) :
    Prog.Ensures (load ctx id >>= f) post db := by
  unfold load
  rw [Prog.bind_assoc, Prog.ensures_read, Prog.ensures_expect]
  refine ⟨?_, fun _ => fails _⟩
  intro transfer found
  obtain ⟨stored, company⟩ := Option.filter_eq_some_iff.mp found
  exact rest transfer stored (of_decide_eq_true company)

theorem ship_run (id : Id) (dto : TransferDecisionDto) (db : Db) :
    Prog.Ensures (ship ctx id dto) (fun db' result => match result with
      | .ok _ => ∃ transfer, transfer.id = id ∧ Shipped transfer db db'
      | .error _ => db' = db) db := by
  unfold ship
  rw [Prog.ensures_expect]
  refine ⟨?_, fun _ => rfl⟩
  intro fromBranchId _
  apply load_run ctx id db _ _ (fun _ => rfl)
  intro transfer stored company
  obtain rfl := Table.key_of_find? _ _ _ stored
  rw [Prog.ensures_require]
  refine ⟨?_, fun _ => rfl⟩
  rintro rfl
  rw [Prog.ensures_liftExcept]
  refine ⟨?_, fun _ _ => rfl⟩
  intro _ _
  rw [Prog.ensures_read, Prog.ensures_require]
  refine ⟨?_, fun _ => rfl⟩
  intro allReady
  rw [← Prog.bind_pure (Prog.commit _ _), Prog.ensures_commit]
  refine ⟨?_, fun _ _ => rfl⟩
  intro db' done
  rw [Prog.ensures_pure]
  obtain ⟨moved, shippedUnits, done⟩ := (except_bind_ok _ _ _).mp done
  obtain ⟨shipped, shippedLines, transition⟩ := (except_bind_ok _ _ _).mp done
  obtain ⟨units, movedEq⟩ := (shipUnits_ok _ _ _ _ shippedUnits).frame
  obtain ⟨rows, reserved⟩ := shipUnits_rows _ _ _ _ shippedUnits
  have shelved := shipLines_shelved _ _ _ _ _ shippedLines
  obtain ⟨⟨stockItems, transferItems, shippedEq⟩, lines, -⟩ := shipLines_ok _ _ _ _ _ shippedLines
  rw [loadItems_items] at rows reserved shelved
  obtain ⟨went, stockTransfers, equal⟩ := transitionTx_went _ _ _ _ _ db shipped db' transition
    (fun _ => ⟨rfl, rfl, rfl⟩) stored (by rw [shippedEq, movedEq]) (by rw [lines, movedEq]; rfl)
  refine ⟨transfer, rfl, went, ?_, ?_, ?_⟩
  · rw [company]
    exact shelved.congr (by rw [movedEq]) (by rw [equal])
  · intro unitId member
    obtain ⟨unit, found, owner, status⟩ := reserved unitId member
    obtain ⟨item, listed, named⟩ := List.mem_filterMap.mp member
    have inside : (item, item.unitId.bind db.units.find?) ∈ loadItems db transfer.id :=
      List.mem_map_of_mem listed
    have prepared := allReady _ inside
    simp only [ready, named, Option.bind_some, found, Option.isNone_some, Bool.false_or,
      Option.any_some, decide_eq_true_eq] at prepared
    exact ⟨unit, found, owner.trans company.symm, status, prepared.2⟩
  · intro unitId
    rw [equal, shippedEq]
    exact rows unitId

theorem scanned_iff (db : Db) (transferId : Id) (scanned : List String) (id : Id)
    (unit : StockUnit) (found : db.units.find? id = some unit) :
    id ∈ (scannedUnits (loadItems db transferId) (computeDiscrepancy
        ((loadItems db transferId).filterMap (fun loaded => loaded.2.map StockUnit.identifier))
        scanned)).map StockUnit.id ↔
      id ∈ phonesOf (itemsOf db transferId) ∧ unit.identifier ∈ scanned := by
  constructor
  · intro member
    obtain ⟨other, listed, keyed⟩ := List.mem_map.mp member
    obtain ⟨loaded, inside, kept⟩ := List.mem_filterMap.mp listed
    obtain ⟨item, present, rfl⟩ := List.mem_map.mp inside
    obtain ⟨stored, matched⟩ := Option.filter_eq_some_iff.mp kept
    obtain ⟨unitId, named, row⟩ := Option.bind_eq_some_iff.mp stored
    obtain rfl : unitId = id := (Table.key_of_find? _ _ _ row).symm.trans keyed
    rw [found] at row
    cases row
    have scan := (List.mem_filter.mp (of_decide_eq_true matched)).2
    exact ⟨List.mem_filterMap.mpr ⟨item, present, named⟩, of_decide_eq_true scan⟩
  · rintro ⟨member, scan⟩
    obtain ⟨item, present, named⟩ := List.mem_filterMap.mp member
    have loaded : item.unitId.bind db.units.find? = some unit := by
      rw [named]
      exact found
    have inside : (item, some unit) ∈ loadItems db transferId :=
      List.mem_map.mpr ⟨item, present, by rw [loaded]⟩
    have expected : unit.identifier ∈ (loadItems db transferId).filterMap
        (fun loaded => loaded.2.map StockUnit.identifier) :=
      List.mem_filterMap.mpr ⟨_, inside, rfl⟩
    refine List.mem_map.mpr ⟨unit, ?_, Table.key_of_find? _ _ _ found⟩
    refine List.mem_filterMap.mpr ⟨_, inside, ?_⟩
    refine Option.filter_eq_some_iff.mpr ⟨rfl, decide_eq_true ?_⟩
    exact List.mem_filter.mpr ⟨expected, decide_eq_true scan⟩

theorem receiveConfirm_run (id : Id) (dto : ReceiveTransferDto) (db : Db) :
    Prog.Ensures (receiveConfirm ctx id dto) (fun db' result => match result with
      | .ok _ => ∃ transfer, transfer.id = id ∧ Landed transfer dto.identifiers db db'
      | .error _ => db' = db) db := by
  unfold receiveConfirm
  rw [Prog.ensures_expect]
  refine ⟨?_, fun _ => rfl⟩
  intro toBranchId _
  apply load_run ctx id db _ _ (fun _ => rfl)
  intro transfer stored company
  obtain rfl := Table.key_of_find? _ _ _ stored
  rw [Prog.ensures_require]
  refine ⟨?_, fun _ => rfl⟩
  rintro rfl
  rw [Prog.ensures_liftExcept]
  refine ⟨?_, fun _ _ => rfl⟩
  intro _ _
  rw [Prog.ensures_read, Prog.ensures_commit]
  refine ⟨?_, fun _ _ => rfl⟩
  intro db' done
  rw [Prog.ensures_pure]
  unfold writeReceipt at done
  obtain ⟨received, receivedLines, transition⟩ := (except_bind_ok _ _ _).mp done
  have shelved := receiveLines_shelved _ _ _ _ _ receivedLines
  obtain ⟨stockItems, receivedEq⟩ := (receiveLines_ok _ _ _ _ _ receivedLines).frame
  obtain ⟨rows, arrivedEq⟩ := receiveUnits_frame ctx.companyId transfer.toBranchId
    ((scannedUnits (loadItems db transfer.id) _).map StockUnit.id) db
  obtain ⟨went, stockTransfers, equal⟩ := transitionTx_went _ _ _ _ _ db received db' transition
    (fun _ => ⟨rfl, rfl, rfl⟩) stored
    (by rw [receivedEq, invalidateOnBranchMove, arrivedEq])
    (by rw [receivedEq, invalidateOnBranchMove, arrivedEq]; rfl)
  refine ⟨transfer, rfl, went, ?_, ?_⟩
  · rw [loadItems_items] at shelved
    rw [company]
    exact shelved.congr (by rw [invalidateOnBranchMove, arrivedEq]) (by rw [equal])
  · intro unitId
    rw [equal, receivedEq]
    refine (receiveUnits_rows ctx.companyId transfer.toBranchId _ db unitId).trans ?_
    rcases found : db.units.find? unitId with _ | unit
    · rfl
    · have listed := scanned_iff db transfer.id dto.identifiers unitId unit found
      simp only [Option.map_some, listed, arrives, company, Table.key_of_find? _ _ _ found,
        and_assoc]

theorem ship_refused (dto : TransferDecisionDto) (db : Db) (transfer : StockTransfer)
    (row : db.stockTransfers.find? transfer.id = some transfer)
    (illegal : .inTransit ∉ transitions transfer.status) :
    ∃ refusal, (ship ctx transfer.id dto).run db = (db, .error refusal) := by
  have outcome := ship_run ctx transfer.id dto db
  unfold Prog.Ensures at outcome
  rcases ran : (ship ctx transfer.id dto).run db with ⟨db', result⟩
  rw [ran] at outcome
  cases result with
  | error refusal => exact ⟨refusal, by rw [show db' = db from outcome]⟩
  | ok answer =>
      obtain ⟨other, same, shipped⟩ := outcome
      have found := shipped.row
      rw [same, row] at found
      cases found
      exact absurd shipped.legal illegal

theorem receiveConfirm_refused (dto : ReceiveTransferDto) (db : Db)
    (transfer : StockTransfer) (row : db.stockTransfers.find? transfer.id = some transfer)
    (illegal : .received ∉ transitions transfer.status) :
    ∃ refusal, (receiveConfirm ctx transfer.id dto).run db = (db, .error refusal) := by
  have outcome := receiveConfirm_run ctx transfer.id dto db
  unfold Prog.Ensures at outcome
  rcases ran : (receiveConfirm ctx transfer.id dto).run db with ⟨db', result⟩
  rw [ran] at outcome
  cases result with
  | error refusal => exact ⟨refusal, by rw [show db' = db from outcome]⟩
  | ok answer =>
      obtain ⟨other, same, landed⟩ := outcome
      have found := landed.row
      rw [same, row] at found
      cases found
      exact absurd landed.legal illegal

structure Untouched (branchId : Id) (db db' : Db) : Prop where
  stock : ∀ companyId productId, db'.stockItems.find? (companyId, productId, branchId) =
    db.stockItems.find? (companyId, productId, branchId)
  units : ∀ unit : StockUnit, unit.branchId = branchId →
    (unit ∈ db'.units.rows ↔ unit ∈ db.units.rows)

theorem units_untouched (branchId : Id) (db db' : Db) (g : Id → StockUnit → StockUnit)
    (rows : ∀ id, db'.units.find? id = (db.units.find? id).map (g id))
    (apart : ∀ id unit, db.units.find? id = some unit → g id unit = unit ∨
      unit.branchId ≠ branchId ∧ (g id unit).branchId ≠ branchId)
    (unit : StockUnit) (here : unit.branchId = branchId) :
    unit ∈ db'.units.rows ↔ unit ∈ db.units.rows := by
  constructor
  · intro member
    have found' := (Table.find?_some _ unit.id unit).mpr ⟨member, rfl⟩
    rw [rows] at found'
    obtain ⟨old, found, image⟩ := Option.map_eq_some_iff.mp found'
    rcases apart unit.id old found with same | ⟨-, away⟩
    · rw [← image, same]
      exact Table.mem_of_find? _ _ _ found
    · rw [image] at away
      exact absurd here away
  · intro member
    have found := (Table.find?_some _ unit.id unit).mpr ⟨member, rfl⟩
    rcases apart unit.id unit found with same | ⟨away, -⟩
    · have found' := rows unit.id
      rw [found, Option.map_some, same] at found'
      exact Table.mem_of_find? _ _ _ found'
    · exact absurd here away

structure Delivered (transfer : StockTransfer) (scanned : List String) (db shipped landed : Db) :
    Prop where
  left : ∀ productId, quantityAt shipped transfer.companyId productId transfer.fromBranchId =
    quantityAt db transfer.companyId productId transfer.fromBranchId -
      goodsOf (itemsOf db transfer.id) productId
  arrived : ∀ productId, quantityAt landed transfer.companyId productId transfer.toBranchId =
    quantityAt shipped transfer.companyId productId transfer.toBranchId +
      goodsOf (itemsOf db transfer.id) productId
  phones : ∀ unitId ∈ phonesOf (itemsOf db transfer.id), ∃ unit,
    db.units.find? unitId = some unit ∧
    shipped.units.find? unitId = some { unit with status := .inTransit } ∧
    landed.units.find? unitId = some (if unit.identifier ∈ scanned then
      { unit with status := .inStock, branchId := transfer.toBranchId }
      else { unit with status := .inTransit })
  others : ∀ unitId, unitId ∉ phonesOf (itemsOf db transfer.id) →
    shipped.units.find? unitId = db.units.find? unitId ∧
      landed.units.find? unitId = db.units.find? unitId
  thirdBranch : ∀ branchId, branchId ≠ transfer.fromBranchId → branchId ≠ transfer.toBranchId →
    Untouched branchId db shipped ∧ Untouched branchId shipped landed
  onlyOnce : (∀ ctx dto, ∃ refusal,
      (ship ctx transfer.id dto).run shipped = (shipped, .error refusal)) ∧
    ∀ ctx dto, ∃ refusal,
      (receiveConfirm ctx transfer.id dto).run landed = (landed, .error refusal)

theorem delivered (transfer transfer' : StockTransfer) (scanned : List String)
    (db shipped landed : Db) (same : transfer'.id = transfer.id)
    (first : Shipped transfer db shipped) (second : Landed transfer' scanned shipped landed) :
    Delivered transfer scanned db shipped landed := by
  obtain ⟨onWay, found, status, -, company, source, target⟩ := first.legs
  have row := second.row
  rw [same, found] at row
  cases row
  have goods := goodsOf_congr db shipped first.lines transfer.id
  have phones := phonesOf_congr db shipped first.lines transfer.id
  have shelf := second.shelf
  have rows := second.phones
  rw [same, company, target, goods] at shelf
  rw [same, target] at rows
  -- a phone of the transfer, as the receipt finds it
  have travelling : ∀ unitId ∈ phonesOf (itemsOf db transfer.id), ∃ unit,
      db.units.find? unitId = some unit ∧ unit.companyId = transfer.companyId ∧
      unit.branchId = transfer.fromBranchId ∧
      shipped.units.find? unitId = some { unit with status := .inTransit } := by
    intro unitId member
    obtain ⟨unit, present, owner, -, place⟩ := first.waiting unitId member
    refine ⟨unit, present, owner, place, ?_⟩
    rw [first.phones, present, Option.map_some, if_pos member]
  have arriving : ∀ unitId unit, shipped.units.find? unitId = some unit →
      arrives transfer' (itemsOf shipped transfer.id) scanned unit →
      unitId ∈ phonesOf (itemsOf db transfer.id) := by
    intro unitId unit present arrived
    rw [← phones, ← Table.key_of_find? _ _ _ present]
    exact arrived.1
  constructor
  · intro productId
    rw [first.shelf.shelf productId, Pi.neg_apply, sub_eq_add_neg]
  · exact shelf.shelf
  · intro unitId member
    obtain ⟨unit, present, owner, place, going⟩ := travelling unitId member
    refine ⟨unit, present, going, ?_⟩
    rw [rows, going, Option.map_some]
    by_cases scan : unit.identifier ∈ scanned
    · rw [if_pos scan, if_pos]
      refine ⟨?_, scan, owner.trans company.symm, rfl⟩
      rw [phones]
      exact (Table.key_of_find? _ _ _ present).symm ▸ member
    · rw [if_neg scan, if_neg]
      exact fun arrived => scan arrived.2.1
  · intro unitId unlisted
    have kept : shipped.units.find? unitId = db.units.find? unitId := by
      rw [first.phones]
      simp only [unlisted, if_false, Option.map_id']
    refine ⟨kept, ?_⟩
    rw [rows, ← kept]
    rcases present : shipped.units.find? unitId with _ | unit
    · rfl
    · rw [Option.map_some, if_neg]
      exact fun arrived => unlisted (arriving unitId unit present arrived)
  · intro branchId notSource notTarget
    constructor
    · refine ⟨fun c p => first.shelf.elsewhere c p branchId (by simp [notSource]), ?_⟩
      apply units_untouched branchId db shipped _ first.phones
      intro unitId unit present
      by_cases member : unitId ∈ phonesOf (itemsOf db transfer.id)
      · obtain ⟨unit', present', -, place, -⟩ := travelling unitId member
        rw [present] at present'
        cases present'
        rw [if_pos member]
        exact .inr ⟨fun here => notSource (here.symm.trans place),
          fun here => notSource (here.symm.trans place)⟩
      · exact .inl (if_neg member)
    · refine ⟨fun c p => shelf.elsewhere c p branchId (by simp [notTarget]), ?_⟩
      apply units_untouched branchId shipped landed _ rows
      intro unitId unit present
      by_cases arrived : arrives transfer' (itemsOf shipped transfer.id) scanned unit
      · obtain ⟨old, -, -, place, going⟩ := travelling unitId (arriving unitId unit present arrived)
        rw [present] at going
        cases going
        rw [if_pos arrived]
        exact .inr ⟨fun here => notSource (here.symm.trans place), Ne.symm notTarget⟩
      · exact .inl (if_neg arrived)
  · obtain ⟨final, ended, finished, key, -⟩ := second.legs
    rw [← same]
    constructor
    · intro ctx dto
      exact ship_refused ctx dto shipped transfer' second.row (by rw [status]; decide)
    · intro ctx dto
      rw [← key] at ended ⊢
      exact receiveConfirm_refused ctx dto landed final ended (by rw [finished]; decide)

/-- A request that fails leaves the store as it was, one that goes through keeps what the
company holds of each product; a shipment and its receipt move every line once. -/
theorem goods_conserved :
    (∀ ctx id dto db db' refusal,
      (ship ctx id dto).run db = (db', .error refusal) → db' = db) ∧
    (∀ ctx id dto db db' refusal,
      (receiveConfirm ctx id dto).run db = (db', .error refusal) → db' = db) ∧
    (∀ ctx id dto db db', (ship ctx id dto).run db = (db', .ok ()) →
      holdings db' = holdings db) ∧
    (∀ ctx id dto db db' report, (receiveConfirm ctx id dto).run db = (db', .ok report) →
      holdings db' = holdings db) ∧
    ∀ ctx ctx' id dto dto' db shipped landed report,
      (ship ctx id dto).run db = (shipped, .ok ()) →
      (receiveConfirm ctx' id dto').run shipped = (landed, .ok report) →
      ∃ transfer, db.stockTransfers.find? id = some transfer ∧
        Delivered transfer dto'.identifiers db shipped landed := by
  have shipments : ∀ ctx id dto db db', (ship ctx id dto).run db = (db', .ok ()) →
      ∃ transfer, transfer.id = id ∧ Shipped transfer db db' := by
    intro ctx id dto db db' ran
    have outcome := ship_run ctx id dto db
    unfold Prog.Ensures at outcome
    rw [ran] at outcome
    exact outcome
  have receipts : ∀ ctx id dto db db' report,
      (receiveConfirm ctx id dto).run db = (db', .ok report) →
      ∃ transfer, transfer.id = id ∧ Landed transfer dto.identifiers db db' := by
    intro ctx id dto db db' report ran
    have outcome := receiveConfirm_run ctx id dto db
    unfold Prog.Ensures at outcome
    rw [ran] at outcome
    exact outcome
  refine ⟨?_, ?_, ?_, ?_, ?_⟩
  · intro ctx id dto db db' refusal ran
    have outcome := ship_run ctx id dto db
    unfold Prog.Ensures at outcome
    rw [ran] at outcome
    exact outcome
  · intro ctx id dto db db' refusal ran
    have outcome := receiveConfirm_run ctx id dto db
    unfold Prog.Ensures at outcome
    rw [ran] at outcome
    exact outcome
  · intro ctx id dto db db' ran
    obtain ⟨transfer, -, shipped⟩ := shipments ctx id dto db db' ran
    funext companyId productId
    exact shipped.holdings companyId productId
  · intro ctx id dto db db' report ran
    obtain ⟨transfer, -, landed⟩ := receipts ctx id dto db db' report ran
    funext companyId productId
    exact landed.holdings companyId productId
  · intro ctx ctx' id dto dto' db shipped landed report sent received
    obtain ⟨transfer, rfl, first⟩ := shipments ctx id dto db shipped sent
    obtain ⟨transfer', same, second⟩ := receipts ctx' _ dto' shipped landed report received
    exact ⟨transfer, first.row, delivered transfer transfer' _ db shipped landed same first second⟩

private def phone (id : Id) (imei : String) : StockUnit where
  id := id
  companyId := 10
  productId := 3
  branchId := 1
  imeiPrimary := some imei
  imeiSecondary := none
  serialNo := none
  cost := 50000
  status := .reserved
  dateSold := none

def mixedLoad : Db where
  units := ⟨[phone 301 "356938035643809", phone 302 "490154203237518"], by decide⟩
  stockItems := ⟨[⟨10, 4, 1, 8, 250, some 900, 5, 0⟩], by decide⟩
  stockTransfers := ⟨[
    { id := 400
      companyId := 10
      fromBranchId := 1
      toBranchId := 2
      transferNo := some "TRF-000001"
      status := .approved
      sentById := none
      receivedById := none
      sentAt := 900
      receivedAt := none
      clientUuid := some 50
      clientRequestHash := none
      version := 1
      requestedById := some 8
      approvedById := some 7
      approvedAt := some 950
      autoApproved := false
      decisionReason := none
      decidedById := none
      decidedAt := none }], by decide⟩
  transferItems :=
    ⟨[⟨410, 10, 400, some 301, none, 1, none⟩, ⟨411, 10, 400, some 302, none, 1, none⟩,
    ⟨412, 10, 400, none, some 4, 5, none⟩], by decide⟩

private def origin : Ctx where
  companyId := 10
  branchId := some 1
  userId := some 7
  now := 1000

/-- One of the two phones is scanned at the destination. -/
theorem goods_conserved_mixed :
    let shipped := ((ship origin 400 ⟨1, none⟩).run mixedLoad).1
    let landed := ((receiveConfirm { origin with branchId := some 2 } 400
      ⟨["356938035643809"], 2⟩).run shipped).1
    holdings landed 10 4 = 8 ∧ quantityAt landed 10 4 2 = 5 ∧
      ∃ transfer, mixedLoad.stockTransfers.find? 400 = some transfer ∧
        Delivered transfer ["356938035643809"] mixedLoad shipped landed := by
  intro shipped landed
  have sent : (ship origin 400 ⟨1, none⟩).run mixedLoad = (shipped, .ok ()) := by rfl
  have received : (receiveConfirm { origin with branchId := some 2 } 400
      ⟨["356938035643809"], 2⟩).run shipped = (landed, .ok (computeDiscrepancy
        ["356938035643809", "490154203237518"] ["356938035643809"])) := by rfl
  refine ⟨by decide +kernel, by decide +kernel, ?_⟩
  exact goods_conserved.2.2.2.2 _ _ _ _ _ _ _ _ _ sent received

end ErpBackend.Transfers
