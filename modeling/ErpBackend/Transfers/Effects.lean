import ErpBackend.Transfers.Reservations

/-!
# What the transactions of a transfer do

Each loop of statements moves the account by the sum over its lines; a loop
that releases needs that much to be reserved, which the invariant provides.
-/

namespace ErpBackend.Transfers

open Foundation Inventory

variable (companyId fromBranchId : Id)

theorem reserveUnits_ok (units : List (String × Id)) (db db' : Db)
    (done : reserveUnits companyId fromBranchId units db = .ok db') :
    Relabelled db db' (units.map (fun unit => portion (.unit unit.2) 1)).sum ∧
      ∀ unit ∈ units, ∃ row, db'.units.find? unit.2 = some row ∧ row.companyId = companyId := by
  induction units generalizing db with
  | nil =>
      cases done
      exact ⟨.refl _, by simp⟩
  | cons unit rest ih =>
      obtain ⟨identifier, unitId⟩ := unit
      unfold reserveUnits at done
      split at done
      · cases done
      · next swapped claimed =>
        have first := Relabelled.swap claimed .inStock .reserved (by decide)
          (fun unit passed => (of_decide_eq_true passed).2.2) (fun _ => ⟨rfl, rfl, rfl⟩)
        obtain ⟨moved, ours⟩ := ih _ done
        have whole := first.trans moved
        refine ⟨whole.cast (by simp), ?_⟩
        intro other member
        rcases List.mem_cons.mp member with rfl | later
        · obtain ⟨row, found, passed, -⟩ := (Table.swap?_some _ _ _ _ _ _).mp claimed
          obtain ⟨row', found', company, -⟩ := whole.stands unitId row found
          exact ⟨row', found', company.trans (of_decide_eq_true passed).1⟩
        · exact ours other later

theorem shipUnits_ok (companyId : Id) (items : List Loaded) (db db' : Db)
    (done : shipUnits companyId items db = .ok db') :
    Relabelled db db' (-((items.map Prod.fst).map unitTake).sum) := by
  induction items generalizing db with
  | nil =>
      cases done
      exact (Relabelled.refl _).cast (by simp)
  | cons loaded rest ih =>
      obtain ⟨item, unit⟩ := loaded
      unfold shipUnits at done
      split at done
      · next none =>
        apply (ih db done).cast
        simp [unitTake, none]
      · next unitId listed =>
        split at done
        · cases done
        · next units claimed =>
          have first := Relabelled.swap claimed .reserved .inTransit (by decide)
            (fun unit passed => (of_decide_eq_true passed).2) (fun _ => ⟨rfl, rfl, rfl⟩)
          apply (first.trans (ih _ done)).cast
          simp only [List.map_cons, List.sum_cons, unitTake, listed, neg_add_rev]
          rw [add_comm, ← portion_neg]
          rfl

variable (items : List TransferItem)

theorem unitTakes_nonneg (resource : Resource) :
    0 ≤ (items.map unitTake).sum resource := by
  apply sum_nonneg
  intro part member other
  obtain ⟨item, -, rfl⟩ := List.mem_map.mp member
  rcases listed : item.unitId with _ | unitId
  · simp [unitTake, listed]
  · simp only [unitTake, listed]
    exact portion_nonneg _ _ (by omega) other

theorem releaseUnit_ok (companyId unitId : Id) (db : Db) (unit : StockUnit)
    (found : db.units.find? unitId = some unit) (company : unit.companyId = companyId)
    (covered : 1 ≤ reservedOf db (.unit unitId)) :
    Relabelled db (releaseUnit companyId db unitId) (-portion (.unit unitId) 1) := by
  have status : unit.status = .reserved := by
    rw [reservedOf_unit_of_found db unitId unit found, marked] at covered
    by_contra other
    rw [if_neg other] at covered
    omega
  have only : ∀ row ∈ db.units.rows,
      decide (row.id = unitId ∧ row.companyId = companyId ∧ row.status = .reserved) =
        decide (row.id = unitId) := by
    intro row member
    apply decide_eq_decide.mpr
    constructor
    · exact And.left
    · intro keyed
      have same := (Table.find?_some _ _ _).mpr ⟨member, keyed⟩
      rw [found] at same
      cases same
      exact ⟨keyed, company, status⟩
  unfold releaseUnit
  rw [Table.modify_eq_update _ unitId _ _ _ only]
  apply (Relabelled.update db unitId unit (fun unit => { unit with status := .inStock })
    (fun _ => rfl) found rfl rfl (by simp [status])).cast
  rw [← portion_neg]
  simp [marked, status]

theorem releaseUnits_ok (companyId : Id) (items : List TransferItem) (db : Db)
    (ours : ∀ item ∈ items, ∀ unitId, item.unitId = some unitId →
      ∃ unit, db.units.find? unitId = some unit ∧ unit.companyId = companyId)
    (covered : ∀ resource, (items.map unitTake).sum resource ≤ reservedOf db resource) :
    Relabelled db ((items.filterMap TransferItem.unitId).foldl (releaseUnit companyId) db)
      (-(items.map unitTake).sum) := by
  induction items generalizing db with
  | nil => exact (Relabelled.refl db).cast (by simp)
  | cons item rest ih =>
      have later : ∀ other ∈ rest, ∀ unitId, other.unitId = some unitId →
          ∃ unit, db.units.find? unitId = some unit ∧ unit.companyId = companyId :=
        fun other member => ours other (List.mem_cons_of_mem _ member)
      rw [List.map_cons, List.sum_cons] at covered ⊢
      rcases listed : item.unitId with _ | unitId
      · have nothing : unitTake item = 0 := by simp [unitTake, listed]
        rw [nothing, zero_add] at covered ⊢
        rw [List.filterMap_cons_none listed]
        exact ih db later covered
      · have one : unitTake item = portion (.unit unitId) 1 := by simp [unitTake, listed]
        rw [one] at covered ⊢
        obtain ⟨unit, found, company⟩ := ours item (by simp) unitId listed
        have first : Relabelled db (releaseUnit companyId db unitId)
            (-portion (.unit unitId) 1) := by
          apply releaseUnit_ok companyId unitId db unit found company
          have own := covered (.unit unitId)
          have others := unitTakes_nonneg rest (.unit unitId)
          rw [Pi.add_apply, portion_self] at own
          omega
        rw [List.filterMap_cons_some listed, List.foldl_cons]
        have second := ih (releaseUnit companyId db unitId)
          (by
            intro other member id named
            obtain ⟨row, present, owner⟩ := later other member id named
            obtain ⟨row', present', owner', -⟩ := first.stands id row present
            exact ⟨row', present', owner'.trans owner⟩)
          (by
            intro resource
            have own := covered resource
            rw [first.account]
            rw [Pi.add_apply] at own
            rw [Pi.add_apply, Pi.neg_apply]
            omega)
        apply (first.trans second).cast
        rw [neg_add]

theorem reserveLines_ok (lines : List PlannedLine) (db db' : Db)
    (done : reserveLines companyId fromBranchId lines db = .ok db') :
    Restocked db db' (lines.map (fun line =>
      portion (.stock companyId line.productId fromBranchId) line.quantity.value)).sum := by
  induction lines generalizing db with
  | nil =>
      cases done
      exact .refl _
  | cons line rest ih =>
      unfold reserveLines at done
      obtain ⟨⟨reserved, found⟩, stored, done⟩ := (except_bind_ok _ _ _).mp done
      cases found with
      | false => cases done
      | true => exact (reserveQuantity_ok _ _ _ _ _ _ stored).trans (ih reserved done)

theorem stockTakes_nonneg (nonneg : ∀ item ∈ items, item.productId ≠ none → 0 ≤ item.quantity)
    (resource : Resource) :
    0 ≤ (items.map (stockTake companyId fromBranchId)).sum resource := by
  apply sum_nonneg
  intro part member other
  obtain ⟨item, present, rfl⟩ := List.mem_map.mp member
  rcases listed : item.productId with _ | productId
  · simp [stockTake, listed]
  · simp only [stockTake, listed]
    exact portion_nonneg _ _ (nonneg item present (by simp [listed])) other

theorem releaseLines_ok (db db' : Db)
    (nonneg : ∀ item ∈ items, item.productId ≠ none → 0 ≤ item.quantity)
    (covered : ∀ resource,
      (items.map (stockTake companyId fromBranchId)).sum resource ≤ reservedOf db resource)
    (done : releaseLines companyId fromBranchId items db = .ok db') :
    Restocked db db' (-(items.map (stockTake companyId fromBranchId)).sum) := by
  induction items generalizing db with
  | nil =>
      cases done
      exact (Restocked.refl _).cast (by simp)
  | cons item rest ih =>
      have later : ∀ other ∈ rest, other.productId ≠ none → 0 ≤ other.quantity :=
        fun other member => nonneg other (List.mem_cons_of_mem _ member)
      rw [List.map_cons, List.sum_cons] at covered ⊢
      unfold releaseLines at done
      split at done
      · next absent =>
        have nothing : stockTake companyId fromBranchId item = 0 := by simp [stockTake, absent]
        rw [nothing, zero_add] at covered ⊢
        exact ih db later covered done
      · next productId listed =>
        have some_ : stockTake companyId fromBranchId item =
            portion (.stock companyId productId fromBranchId) item.quantity := by
          simp [stockTake, listed]
        rw [some_] at covered ⊢
        obtain ⟨⟨released, found⟩, stored, done⟩ := (except_bind_ok _ _ _).mp done
        have positive : 0 ≤ item.quantity := nonneg item (by simp) (by simp [listed])
        have first := releaseQuantity_ok companyId productId fromBranchId item.quantity db released
          found positive (by
            have own := covered (.stock companyId productId fromBranchId)
            have others := stockTakes_nonneg companyId fromBranchId rest later
              (.stock companyId productId fromBranchId)
            rw [Pi.add_apply, portion_self] at own
            omega) stored
        have second := ih released later
          (by
            intro resource
            have own := covered resource
            rw [first.account]
            rw [Pi.add_apply] at own
            rw [Pi.add_apply, Pi.neg_apply]
            omega) done
        apply (first.trans second).cast
        rw [neg_add]

theorem costShipped_lines (itemId : Id) (cost : Int) (db : Db) :
    bareLines (costShipped itemId cost db) = bareLines db := by
  unfold bareLines costShipped Table.update
  rw [Table.modify_rows, List.map_map]
  apply List.map_congr_left
  intro item _
  simp only [Function.comp_apply]
  split
  · rfl
  · rfl

theorem shipLines_ok (db db' : Db)
    (done : shipLines companyId fromBranchId items db = .ok db') :
    (∃ stockItems transferItems, db' = { db with stockItems, transferItems }) ∧
      bareLines db' = bareLines db ∧ (Bounded db → Bounded db') ∧
      reservedOf db' = reservedOf db + -(items.map (stockTake companyId fromBranchId)).sum := by
  induction items generalizing db with
  | nil =>
      cases done
      exact ⟨⟨_, _, rfl⟩, rfl, id, by simp⟩
  | cons item rest ih =>
      rw [List.map_cons, List.sum_cons]
      unfold shipLines at done
      split at done
      · next absent =>
        have nothing : stockTake companyId fromBranchId item = 0 := by simp [stockTake, absent]
        rw [nothing, zero_add]
        exact ih db done
      · next productId listed =>
        split at done
        · cases done
        · next source row =>
          obtain ⟨⟨shipped, found⟩, stored, done⟩ := (except_bind_ok _ _ _).mp done
          cases found with
          | false => cases done
          | true =>
              have first := shipQuantity_ok _ _ _ _ _ _ stored
              obtain ⟨⟨stockItems, transferItems, equal⟩, lines, bounded, account⟩ := ih _ done
              obtain ⟨_, frame⟩ := first.frame
              refine ⟨⟨stockItems, transferItems, ?_⟩, ?_, ?_, ?_⟩
              · rw [equal, frame]
                rfl
              · rw [lines, costShipped_lines, frame]
                rfl
              · intro before
                exact bounded (first.bounded before)
              · have same : reservedOf (costShipped item.id source.cost shipped) =
                    reservedOf shipped := reservedOf_congr _ _ rfl rfl
                rw [account, same, first.account, add_assoc, neg_add]
                simp [stockTake, listed]

theorem receiveLines_ok (companyId toBranchId : Id) (items : List TransferItem) (db db' : Db)
    (done : receiveLines companyId toBranchId items db = .ok db') : Restocked db db' 0 := by
  induction items generalizing db with
  | nil =>
      cases done
      exact .refl _
  | cons item rest ih =>
      unfold receiveLines at done
      split at done
      · exact ih db done
      · cases done
      · obtain ⟨received, stored, done⟩ := (except_bind_ok _ _ _).mp done
        have first := receiveQuantityAtCost_ok _ _ _ _ _ _ _ _ stored
        exact (first.trans (ih received done)).cast (add_zero 0)

theorem transitionTx_ok (companyId : Id) (transfer : StockTransfer) (target : TransferStatus)
    (expectedVersion : Nat) (f : StockTransfer → StockTransfer) (db db' : Db)
    (done : transitionTx companyId transfer target expectedVersion f db = .ok db') :
    target ∈ transitions transfer.status ∧ ∃ row,
      db.stockTransfers.find? transfer.id = some row ∧ row.companyId = companyId ∧
      row.version = expectedVersion ∧
      db' = { db with
        stockTransfers := db.stockTransfers.update transfer.id
          (fun row => { f row with id := row.id, status := target, version := row.version + 1 })
          (fun _ => rfl) } := by
  unfold transitionTx assertTransferTransition at done
  split at done
  · cases done
  · next allowed =>
    split at allowed
    · next legal =>
      split at done
      · cases done
      · next stockTransfers swapped =>
        cases done
        obtain ⟨row, found, passed, rfl⟩ := (Table.swap?_some _ _ _ _ _ _).mp swapped
        obtain ⟨company, version⟩ := of_decide_eq_true passed
        exact ⟨legal, row, found, company, version, rfl⟩
    · cases allowed

theorem insertTransfer_ok (transfer : StockTransfer) (db db' : Db)
    (done : insertTransfer transfer db = .ok db') :
    ∃ stockTransfers, db.stockTransfers.insert? transfer = some stockTransfers ∧
      db' = { db with stockTransfers } := by
  unfold insertTransfer at done
  split_ifs at done
  exact Table.store_ok _ _ _ _ _ done

theorem insertTransferItems_ok (db db' : Db)
    (done : insertTransferItems items db = .ok db') :
    ∃ transferItems, db' = { db with transferItems } ∧
      transferItems.rows = db.transferItems.rows ++ items := by
  induction items generalizing db with
  | nil =>
      cases done
      exact ⟨_, rfl, by simp⟩
  | cons item rest ih =>
      unfold insertTransferItems at done
      obtain ⟨inserted, first, done⟩ := (except_bind_ok _ _ _).mp done
      obtain ⟨transferItems, equal, rows⟩ := ih inserted done
      unfold insertTransferItem at first
      split at first
      · cases first
      · split at first
        · cases first
        · next stored added =>
          cases first
          refine ⟨transferItems, equal, ?_⟩
          rw [rows, (Table.insert?_some _ _ _ added).1, List.append_assoc]
          rfl

end ErpBackend.Transfers
