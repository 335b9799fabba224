import ErpBackend.Suppliers.Booked

/-!
# Three figures for one debt

The supplier list, the supplier's ledger and the purchases a payment may settle each
work out what is owed. The list leaves out corrected payments and the ledger does
not; the open purchases leave out what was paid past a purchase's total.
-/

namespace ErpBackend.Suppliers

open Foundation Purchasing

structure Owed where
  ledger : Int
  list : Int
  payable : Int
  deriving DecidableEq

/-- What the three requests answer for one supplier in one state. -/
def shownAsOwed (ctx : Ctx) (has : Permission → Bool) (ids : List Id) (id : Id) (db : Db) :
    Option Owed :=
  match ((detail ctx has id).run db).2, ((outstandingBySupplier ctx ids).run db).2,
      ((openPurchases ctx id).run db).2 with
  | .ok (_, some ledger), .ok listing, .ok owed =>
      (listing id).map (fun listed =>
        ⟨ledger.outstanding, listed, (owed.map OutstandingPurchase.outstanding).sum⟩)
  | _, _, _ => none

section Sums

variable (db : Db) (companyId supplierId : Id)

def ours (purchase : Purchase) : Bool :=
  purchase.companyId = companyId ∧ purchase.supplierId = supplierId

def theirs (counts : SupplierSettlement → Bool) (row : SupplierSettlement) : Bool :=
  row.companyId = companyId ∧ row.supplierId = supplierId ∧ counts row

def isConfirmed (row : SupplierSettlement) : Bool := row.status = .confirmed

def totalOf (amount : Purchase → Int) : Int :=
  db.purchases.total (fun purchase =>
    if ours companyId supplierId purchase then amount purchase else 0)

theorem sum_purchasesOf (amount : Purchase → Int) :
    ((purchasesOf db companyId supplierId).map amount).sum =
      totalOf db companyId supplierId amount := by
  have same := (List.perm_insertionSort (fun left right : Purchase => left.date ≤ right.date)
    (db.purchases.filter (ours companyId supplierId))).map amount
  exact same.sum_eq.trans (Table.sum_filter _ _ _)

theorem totalOf_sub (left right : Purchase → Int) :
    totalOf db companyId supplierId (fun purchase => left purchase - right purchase) =
      totalOf db companyId supplierId left - totalOf db companyId supplierId right := by
  have added := Table.total_add db.purchases
    (fun purchase => if ours companyId supplierId purchase then left purchase - right purchase
      else 0)
    (fun purchase => if ours companyId supplierId purchase then right purchase else 0)
  have whole : totalOf db companyId supplierId left = db.purchases.total (fun purchase =>
      (if ours companyId supplierId purchase then left purchase - right purchase else 0) +
        if ours companyId supplierId purchase then right purchase else 0) := by
    apply Table.total_congr
    intro purchase _
    split <;> omega
  dsimp only [totalOf] at whole ⊢
  omega

theorem confirmedOn_eq (purchaseId : Id) :
    confirmedOn (paymentsOf db companyId supplierId) purchaseId =
      paidAt db (theirs companyId supplierId isConfirmed) purchaseId := by
  have each : ∀ row : SupplierSettlement,
      (((allocationsOf db row.id).filter (fun allocation =>
        allocation.purchaseId = purchaseId)).map SupplierSettlementAllocation.amount).sum =
        db.supplierSettlementAllocations.total (fun allocation =>
          if allocation.settlementId = row.id then
            if allocation.purchaseId = purchaseId then allocation.amount else 0
          else 0) := by
    intro row
    unfold allocationsOf Table.filter
    rw [List.filter_filter]
    refine (Table.sum_filter db.supplierSettlementAllocations _ _).trans ?_
    apply Table.total_congr
    intro allocation _
    by_cases own : allocation.settlementId = row.id
    · simp [own]
    · simp [own]
  unfold confirmedOn paymentsOf paidAt
  rw [Table.total_group db.supplierSettlementAllocations db.supplierSettlements
    SupplierSettlementAllocation.settlementId, List.filter_map, List.map_map]
  have sorted := ((List.perm_insertionSort
    (fun left right : SupplierSettlement => right.id ≤ left.id)
    (db.supplierSettlements.filter (fun row =>
      row.companyId = companyId ∧ row.supplierId = supplierId))).filter isConfirmed).map
      (fun row => db.supplierSettlementAllocations.total (fun allocation =>
        if allocation.settlementId = row.id then
          if allocation.purchaseId = purchaseId then allocation.amount else 0
        else 0))
  have figures : ∀ rows : List SupplierSettlement,
      (rows.map ((fun payment : LedgerPayment =>
        ((payment.view.allocations.filter (fun allocation =>
          allocation.purchaseId = purchaseId)).map SupplierSettlementAllocation.amount).sum) ∘
        fun row => ⟨⟨row, allocationsOf db row.id⟩, latestCorrection db row.id⟩)) =
      rows.map (fun row => db.supplierSettlementAllocations.total (fun allocation =>
        if allocation.settlementId = row.id then
          if allocation.purchaseId = purchaseId then allocation.amount else 0
        else 0)) :=
    fun rows => List.map_congr_left (fun row _ => each row)
  rw [figures]
  refine sorted.sum_eq.trans ?_
  unfold Table.filter
  rw [List.filter_filter]
  refine (Table.sum_filter db.supplierSettlements _ _).trans ?_
  apply Table.total_congr
  intro row _
  by_cases passed : theirs companyId supplierId isConfirmed row = true
  · simp only [passed, if_true]
    unfold theirs at passed
    simp only [Bool.decide_and, Bool.and_eq_true, decide_eq_true_eq] at passed
    simp [passed]
  · simp only [passed]
    unfold theirs at passed
    simp only [Bool.decide_and, Bool.and_eq_true, decide_eq_true_eq] at passed
    rw [if_neg]
    · rfl
    · simpa [and_comm, and_assoc] using passed

theorem totalOf_paidAt (booked : Booked db) (counts : SupplierSettlement → Bool) :
    totalOf db companyId supplierId (fun purchase =>
      paidAt db (theirs companyId supplierId counts) purchase.id) =
      paidBy db (theirs companyId supplierId counts) := by
  apply booked.spread
  intro row purchase company supplier passed
  simp only [theirs, decide_eq_true_eq] at passed
  exact decide_eq_true ⟨company.trans passed.1, supplier.trans passed.2.1⟩

end Sums

section Figures

variable (ctx : Ctx) (has : Permission → Bool) (ids : List Id) (db : Db)

theorem detail_run (id : Id) (supplier : Supplier)
    (found : findSupplier db ctx.companyId id = some supplier) (sees : seesMoney has = true) :
    ((detail ctx has id).run db).2 = .ok (supplier, some (ledger
      (purchasesOf db ctx.companyId supplier.id) (paymentsOf db ctx.companyId supplier.id))) := by
  have loaded : (load ctx id).run db = (db, .ok supplier) := by
    unfold load
    rw [Prog.run_bind]
    simp only [Prog.read, Prog.run, id_eq, found]
    rfl
  unfold detail
  rw [Prog.run_bind, loaded]
  simp only [sees, Bool.not_true, Bool.false_eq_true, if_false]
  rfl

theorem ledger_outstanding (companyId supplierId : Id) :
    (ledger (purchasesOf db companyId supplierId)
      (paymentsOf db companyId supplierId)).outstanding =
      totalOf db companyId supplierId Purchase.total -
        totalOf db companyId supplierId (fun purchase =>
          paidAt db (theirs companyId supplierId isConfirmed) purchase.id) := by
  rw [← totalOf_sub, ← sum_purchasesOf]
  unfold ledger
  dsimp only
  rw [List.map_map]
  congr 1
  apply List.map_congr_left
  intro purchase _
  show purchase.total - confirmedOn _ purchase.id = _
  rw [confirmedOn_eq]

theorem outstandingBySupplier_run (id : Id) (listed : id ∈ ids) :
    ∃ listing, ((outstandingBySupplier ctx ids).run db).2 = .ok listing ∧
      listing id = some (totalOf db ctx.companyId id Purchase.total -
        paidBy db (theirs ctx.companyId id (stands db))) := by
  have same : (((db.purchases.filter (fun purchase => purchase.companyId = ctx.companyId ∧
      purchase.supplierId = id ∧ id ∈ ids)).map Purchase.total).sum) =
        totalOf db ctx.companyId id Purchase.total := by
    refine (Table.sum_filter db.purchases _ _).trans ?_
    apply Table.total_congr
    intro purchase _
    simp [ours, listed]
  cases ids with
  | nil => cases listed
  | cons first rest =>
      refine ⟨_, rfl, ?_⟩
      dsimp only [id_eq]
      split
      · next total found =>
        split at found
        · cases found
        · next purchases =>
          cases found
          rw [← same]
          rfl
      · next found =>
        split at found
        · next empty =>
          rw [if_pos listed, ← same, empty, List.map_nil, List.sum_nil, zero_sub]
          rfl
        · cases found

theorem openPurchases_run (id : Id) :
    ∃ owed, ((openPurchases ctx id).run db).2 = .ok owed ∧
      (owed.map OutstandingPurchase.outstanding).sum =
        totalOf db ctx.companyId id (fun purchase =>
          max 0 (purchase.total - paidTo db (fun row =>
            row.companyId = ctx.companyId ∧ row.supplierId = id) purchase.id)) := by
  refine ⟨_, rfl, ?_⟩
  rw [← sum_purchasesOf]
  unfold stillOwed
  dsimp only [id_eq]
  generalize paidTo db _ = paid
  show ((((purchasesOf db ctx.companyId id).map (outstandingOn paid)).filter _).map _).sum = _
  induction purchasesOf db ctx.companyId id with
  | nil => rfl
  | cons purchase rest ih =>
      by_cases owing : 0 < purchase.total - paid purchase.id
      · have kept : 0 < (outstandingOn paid purchase).outstanding := owing
        have amount : (outstandingOn paid purchase).outstanding =
          max 0 (purchase.total - paid purchase.id) := (max_eq_right owing.le).symm
        simp only [List.map_cons, List.sum_cons]
        rw [List.filter_cons_of_pos (by simpa using kept), List.map_cons, List.sum_cons, ih,
          amount]
      · have dropped : ¬ 0 < (outstandingOn paid purchase).outstanding := owing
        have nothing : max 0 (purchase.total - paid purchase.id) = 0 :=
          max_eq_left (not_lt.mp owing)
        simp only [List.map_cons, List.sum_cons]
        rw [List.filter_cons_of_neg (by simpa using dropped), ih, nothing, zero_add]

end Figures

def Uncorrected (db : Db) (companyId supplierId : Id) : Prop :=
  ∀ row ∈ db.supplierSettlements.rows, row.companyId = companyId → row.supplierId = supplierId →
    row.status = .confirmed → corrected db row.id = false

def Unexceeded (db : Db) (companyId supplierId : Id) : Prop :=
  ∀ purchase ∈ db.purchases.rows, purchase.companyId = companyId →
    purchase.supplierId = supplierId → confirmedFor db purchase.id ≤ purchase.total

instance (db : Db) (companyId supplierId : Id) : Decidable (Uncorrected db companyId supplierId) :=
  inferInstanceAs (Decidable (∀ row ∈ db.supplierSettlements.rows, row.companyId = companyId →
    row.supplierId = supplierId → row.status = .confirmed → corrected db row.id = false))

instance (db : Db) (companyId supplierId : Id) : Decidable (Unexceeded db companyId supplierId) :=
  inferInstanceAs (Decidable (∀ purchase ∈ db.purchases.rows, purchase.companyId = companyId →
    purchase.supplierId = supplierId → confirmedFor db purchase.id ≤ purchase.total))

section Agreement

variable {db : Db} (companyId supplierId : Id)

theorem paidBy_stands_iff (booked : Booked db) :
    paidBy db (theirs companyId supplierId (stands db)) =
      paidBy db (theirs companyId supplierId isConfirmed) ↔
        Uncorrected db companyId supplierId := by
  unfold paidBy Table.total
  rw [Table.sum_eq_iff_of_le]
  · constructor
    · intro equal row member company supplier confirmed
      obtain ⟨allocation, listed, own⟩ := booked.allocated row member
      have found := (Table.find?_some db.supplierSettlements _ row).mpr ⟨member, own.symm⟩
      have same := equal allocation listed
      have positive := booked.positive allocation listed
      rw [found] at same
      cases again : corrected db row.id with
      | false => rfl
      | true =>
          simp [theirs, stands, isConfirmed, company, supplier, confirmed, again] at same
          omega
    · intro uncorrected allocation _
      rcases found : db.supplierSettlements.find? allocation.settlementId with _ | row
      · rfl
      · have member := Table.mem_of_find? _ _ _ found
        have same : theirs companyId supplierId (stands db) row =
            theirs companyId supplierId isConfirmed row := by
          apply Bool.eq_iff_iff.mpr
          simp only [theirs, stands, isConfirmed, decide_eq_true_eq]
          constructor
          · rintro ⟨company, supplier, confirmed, -⟩
            exact ⟨company, supplier, confirmed⟩
          · rintro ⟨company, supplier, confirmed⟩
            refine ⟨company, supplier, confirmed, ?_⟩
            rw [uncorrected row member company supplier confirmed]
            rfl
        rw [Option.any_some, Option.any_some, same]
  · intro allocation listed
    have positive := booked.positive allocation listed
    rcases db.supplierSettlements.find? allocation.settlementId with _ | row
    · exact Int.le_refl _
    · by_cases standing : theirs companyId supplierId (stands db) row = true
      · have confirmed : theirs companyId supplierId isConfirmed row = true := by
          simp only [theirs, stands, isConfirmed, decide_eq_true_eq] at standing ⊢
          exact ⟨standing.1, standing.2.1, standing.2.2.1⟩
        simp [standing, confirmed]
      · rw [Option.any_some, if_neg standing]
        split <;> omega

theorem open_iff (paid : Id → Int) :
    totalOf db companyId supplierId (fun purchase => purchase.total - paid purchase.id) =
      totalOf db companyId supplierId (fun purchase =>
        max 0 (purchase.total - paid purchase.id)) ↔
      ∀ purchase ∈ db.purchases.rows, ours companyId supplierId purchase = true →
        paid purchase.id ≤ purchase.total := by
  unfold totalOf Table.total
  rw [Table.sum_eq_iff_of_le]
  · constructor
    · intro equal purchase member own
      have same := equal purchase member
      rw [if_pos own, if_pos own] at same
      dsimp only at same
      omega
    · intro within purchase member
      split
      · next own =>
        have bound := within purchase member own
        dsimp only
        omega
      · rfl
  · intro purchase _
    split
    · exact le_max_right _ _
    · exact Int.le_refl 0

end Agreement

theorem figures_agree_iff (db : Db) (unbilled : Unbilled db)
    (c : Config Db Inventory.Mark Refusal Unit) (run : PayablesRun True (.idle db) c) (ctx : Ctx)
    (has : Permission → Bool) (sees : seesMoney has = true) (ids : List Id) (id : Id)
    (listed : id ∈ ids) (supplier : Supplier)
    (found : findSupplier c.store ctx.companyId id = some supplier) :
    ∃ owed, shownAsOwed ctx has ids id c.store = some owed ∧
      ((owed.ledger = owed.list ∧ owed.list = owed.payable) ↔
        Uncorrected c.store ctx.companyId id ∧ Unexceeded c.store ctx.companyId id) := by
  have booked := run_booked True db unbilled c run
  have key : supplier.id = id :=
    Table.key_of_find? _ _ _ (Option.filter_eq_some_iff.mp found).1
  have shown := detail_run ctx has c.store id supplier found sees
  have ledger := ledger_outstanding c.store ctx.companyId id
  obtain ⟨listing, listed_run, list⟩ := outstandingBySupplier_run ctx ids c.store id listed
  obtain ⟨entries, open_run, payable⟩ := openPurchases_run ctx c.store id
  rw [key] at shown
  refine ⟨⟨_, _, _⟩, by rw [shownAsOwed, shown, listed_run, open_run]; dsimp only; rw [list]; rfl,
    ?_⟩
  dsimp only
  -- what the open purchases count as paid is what stands
  have standing : ∀ purchase ∈ c.store.purchases.rows, ours ctx.companyId id purchase = true →
      paidTo c.store (fun row => row.companyId = ctx.companyId ∧ row.supplierId = id) purchase.id =
        confirmedFor c.store purchase.id := by
    intro purchase member own
    obtain ⟨company, named⟩ := of_decide_eq_true own
    rw [← company, ← named]
    exact paidTo_supplier booked.rooted purchase
      ((Table.find?_some _ _ _).mpr ⟨member, rfl⟩)
  have spread : totalOf c.store ctx.companyId id (fun purchase =>
      paidTo c.store (fun row => row.companyId = ctx.companyId ∧ row.supplierId = id)
        purchase.id) = paidBy c.store (theirs ctx.companyId id (stands c.store)) := by
    rw [← totalOf_paidAt c.store ctx.companyId id booked]
    have joined : (fun row : SupplierSettlement =>
        decide ((decide (row.companyId = ctx.companyId ∧ row.supplierId = id)) = true ∧
          stands c.store row = true)) = theirs ctx.companyId id (stands c.store) := by
      funext row
      simp [theirs, and_assoc]
    simp only [paidTo_eq, joined]
  rw [ledger, payable, totalOf_paidAt c.store ctx.companyId id booked, ← spread, ← totalOf_sub,
    open_iff, totalOf_sub, spread]
  have first := paidBy_stands_iff ctx.companyId id booked
  constructor
  · rintro ⟨same, within⟩
    refine ⟨first.mp (by omega), ?_⟩
    intro purchase member company named
    have own : ours ctx.companyId id purchase = true := decide_eq_true ⟨company, named⟩
    rw [← standing purchase member own]
    exact within purchase member own
  · rintro ⟨uncorrected, unexceeded⟩
    refine ⟨by rw [first.mpr uncorrected], ?_⟩
    intro purchase member own
    rw [standing purchase member own]
    obtain ⟨company, named⟩ := of_decide_eq_true own
    exact unexceeded purchase member company named

def shop : Db where
  suppliers := ⟨[⟨20, 10, 0, none⟩], by decide⟩
  products := ⟨[{
    id := 2, companyId := 10, brand := "Anker", model := "Cable", variant := none,
    trackingType := .quantity, defaultPrice := some 2500 }], by decide⟩

def storekeeper : Ctx where
  companyId := 10
  branchId := some 1
  userId := some 7
  now := 1000

def delivery (paidAmount : Option Money) : Inventory.Request Unit :=
  (createPurchase storekeeper ⟨30, fun index => 100 + index, fun index => 200 + index, 35⟩
    { clientUuid := 60
      supplierId := 20
      paidAmount
      items := [{
        productId := 2
        unitCost := ⟨1000, by decide⟩
        quantity := some ⟨10, by decide⟩ }] }).void

def paidLater (amount : Amount) : List (Inventory.Request Unit) :=
  [((report storekeeper ⟨40, fun index => 41 + index⟩
      { supplierId := 20
        amount
        method := .cash
        allocations := [⟨30, amount⟩]
        clientUuid := 61 }).relabel (fun _ => .other)).void,
    ((confirm storekeeper 40 ⟨0⟩).relabel (fun _ => .other)).void]

def takenBack : List (Inventory.Request Unit) :=
  [(Corrections.request storekeeper 70
      { targetKind := .supplierSettlement
        targetId := 40
        reason := "wrong supplier"
        clientUuid := 71 }).void,
    (Corrections.approve storekeeper 72 70 ⟨0, none⟩).void]

theorem unbilled_shop : Unbilled shop := ⟨rfl, rfl, rfl, rfl⟩

theorem paidLater_issued (amends : Prop) (amount : Amount) :
    ∀ p ∈ paidLater amount, Issued amends p := by
  simp only [paidLater, List.forall_mem_cons, List.not_mem_nil, false_implies, implies_true,
    and_true]
  exact ⟨.report _ _ _, .confirm _ _ _⟩

theorem takenBack_issued (amends : Prop) : ∀ p ∈ takenBack, Issued amends p := by
  simp only [takenBack, List.forall_mem_cons, List.not_mem_nil, false_implies, implies_true,
    and_true]
  exact ⟨.requestCorrection _ _ _, .approveCorrection _ _ _ _⟩

theorem delivered_issued (amends : Prop) (paidAmount : Option Money)
    (rest : List (Inventory.Request Unit)) (issued : ∀ p ∈ rest, Issued amends p) :
    ∀ p ∈ delivery paidAmount :: rest, Issued amends p := by
  rw [List.forall_mem_cons]
  exact ⟨.createPurchase _ _ _, issued⟩

theorem figures_disagree :
    ¬ ∀ (db : Db) (c : Config Db Inventory.Mark Refusal Unit) (ctx : Ctx)
      (has : Permission → Bool) (ids : List Id) (id : Id) (supplier : Supplier) (owed : Owed),
      Unbilled db → PayablesRun True (.idle db) c → seesMoney has = true → id ∈ ids →
        findSupplier c.store ctx.companyId id = some supplier →
          shownAsOwed ctx has ids id c.store = some owed →
            owed.ledger = owed.list ∧ owed.list = owed.payable := by
  intro claim
  obtain ⟨c, run, store⟩ := inTurn_run (Issued True) shop
    (delivery none :: (paidLater ⟨10000, by decide⟩ ++ takenBack))
    (delivered_issued True none _ (List.forall_mem_append.mpr
      ⟨paidLater_issued True _, takenBack_issued True⟩))
  have equal := (claim shop c storekeeper (fun _ => true) [20] 20 ⟨20, 10, 0, none⟩
    ⟨0, 10000, 10000⟩ unbilled_shop run rfl (by decide)
    (by rw [store]; decide +kernel) (by rw [store]; decide +kernel)).1
  cases equal

/-- A delivery of 100.00, half of it paid and never corrected. -/
theorem figures_agree_iff_half_paid :
    ∃ c owed, PayablesRun True (.idle shop) c ∧
      shownAsOwed storekeeper (fun _ => true) [20] 20 c.store = some owed ∧
      owed = ⟨5000, 5000, 5000⟩ ∧
      ((owed.ledger = owed.list ∧ owed.list = owed.payable) ↔
        Uncorrected c.store 10 20 ∧ Unexceeded c.store 10 20) ∧
      Uncorrected c.store 10 20 ∧ Unexceeded c.store 10 20 := by
  obtain ⟨c, run, store⟩ := inTurn_run (Issued True) shop
    (delivery none :: paidLater ⟨5000, by decide⟩)
    (delivered_issued True none _ (paidLater_issued True _))
  obtain ⟨owed, shown, agree⟩ := figures_agree_iff shop unbilled_shop c run storekeeper
    (fun _ => true) rfl [20] 20 (by decide) ⟨20, 10, 5000, none⟩
    (by rw [store]; decide +kernel)
  have figures : shownAsOwed storekeeper (fun _ => true) [20] 20 c.store =
      some ⟨5000, 5000, 5000⟩ := by
    rw [store]
    decide +kernel
  exact ⟨c, owed, run, shown, Option.some.inj (shown.symm.trans figures), agree,
    by rw [store]; decide +kernel, by rw [store]; decide +kernel⟩

end ErpBackend.Suppliers
