import ErpBackend.Suppliers.Owed

/-!
# The stored figures

A purchase stores what is paid on it and its status, a supplier its balance. They are
moved by purchases and confirmations, and no correction touches them. A confirmation
recomputes what is paid on a purchase from allocations alone, without what was paid
when the goods came in.
-/

namespace ErpBackend.Suppliers

open Foundation Purchasing

/-- What was paid on a purchase: up front, and by the payments that stand. -/
def derivedPaid (db : Db) (purchaseId : Id) : Int :=
  upFront db purchaseId + confirmedFor db purchaseId

structure InStep (db : Db) : Prop where
  paid : ∀ purchase ∈ db.purchases.rows, purchase.amountPaid = derivedPaid db purchase.id
  status : ∀ purchase ∈ db.purchases.rows,
    purchase.status = purchaseStatusOf purchase.total (derivedPaid db purchase.id)
  balance : ∀ supplier ∈ db.suppliers.rows, supplier.balance =
    db.purchases.total (fun purchase =>
      if purchase.supplierId = supplier.id then purchase.total - derivedPaid db purchase.id
      else 0)

def NoneCorrected (db : Db) : Prop :=
  ∀ row ∈ db.supplierSettlements.rows, row.status = .confirmed → corrected db row.id = false

/-- No confirmed payment settles a purchase that was paid in part when it came in. -/
def Separate (db : Db) : Prop :=
  ∀ allocation ∈ db.supplierSettlementAllocations.rows,
    (db.supplierSettlements.find? allocation.settlementId).any isConfirmed = true →
      upFront db allocation.purchaseId = 0

def Touched (db : Db) (purchaseId : Id) : Prop :=
  ∃ allocation ∈ db.supplierSettlementAllocations.rows, allocation.purchaseId = purchaseId ∧
    (db.supplierSettlements.find? allocation.settlementId).any isConfirmed = true

/-- The payments that settle the purchase all stand, once confirmed. -/
def Standing (db : Db) (purchaseId : Id) : Prop :=
  ∀ allocation ∈ db.supplierSettlementAllocations.rows, allocation.purchaseId = purchaseId →
    ∀ row, db.supplierSettlements.find? allocation.settlementId = some row →
      row.status = .confirmed → corrected db row.id = false

/-- What was bought from the supplier, less what was paid when it came in. -/
def billed (db : Db) (supplierId : Id) : Int :=
  db.purchases.total (fun purchase =>
    if purchase.supplierId = supplierId then purchase.total - upFront db purchase.id else 0)

def confirmedTo (db : Db) (supplierId : Id) : Int :=
  db.supplierSettlements.total (fun row =>
    if row.supplierId = supplierId ∧ row.status = .confirmed then row.amount else 0)

structure Posted (db : Db) : Prop where
  payments : PaymentsRooted db
  supplied : ∀ row ∈ db.supplierSettlements.rows, db.suppliers.find? row.supplierId ≠ none
  status : ∀ purchase ∈ db.purchases.rows,
    purchase.status = purchaseStatusOf purchase.total purchase.amountPaid
  untouched : ∀ purchase ∈ db.purchases.rows, ¬ Touched db purchase.id →
    purchase.amountPaid = upFront db purchase.id
  touched : ∀ purchase ∈ db.purchases.rows, Touched db purchase.id → Standing db purchase.id →
    purchase.amountPaid = confirmedFor db purchase.id
  balance : ∀ id supplier, db.suppliers.find? id = some supplier →
    supplier.balance = billed db id - confirmedTo db id

theorem upFront_of_none (db : Db) (purchaseId : Id)
    (apart : ∀ payment ∈ db.supplierPayments.rows, payment.purchaseId ≠ some purchaseId) :
    upFront db purchaseId = 0 := by
  apply Table.total_eq_zero
  exact fun payment member => if_neg (apart payment member)

theorem confirmedFor_of_none (db : Db) (purchaseId : Id) (untouched : ¬ Touched db purchaseId) :
    confirmedFor db purchaseId = 0 := by
  rw [confirmedFor_eq]
  apply Table.total_eq_zero
  intro allocation member
  by_cases here : allocation.purchaseId = purchaseId
  · rcases found : db.supplierSettlements.find? allocation.settlementId with _ | row
    · simp
    · have idle : stands db row = false := by
        cases standing : stands db row with
        | false => rfl
        | true =>
            have confirmed : isConfirmed row = true :=
              decide_eq_true (of_decide_eq_true standing).1
            exact absurd ⟨allocation, member, here, by rw [found]; exact confirmed⟩ untouched
      simp [idle]
  · simp [here]

variable {db db' : Db}

theorem confirmedFor_congr (purchaseId : Id)
    (allocations : db'.supplierSettlementAllocations = db.supplierSettlementAllocations)
    (same : ∀ allocation ∈ db.supplierSettlementAllocations.rows,
      allocation.purchaseId = purchaseId →
        (db'.supplierSettlements.find? allocation.settlementId).any (stands db') =
          (db.supplierSettlements.find? allocation.settlementId).any (stands db)) :
    confirmedFor db' purchaseId = confirmedFor db purchaseId := by
  rw [confirmedFor_eq, confirmedFor_eq]
  unfold paidAt
  rw [allocations]
  apply Table.total_congr
  intro allocation member
  by_cases here : allocation.purchaseId = purchaseId
  · rw [same allocation member here]
  · simp [here]

/-- The payments that settle a purchase are found as before. -/
def SamePayments (db db' : Db) (id : Id) : Prop :=
  ∀ allocation ∈ db.supplierSettlementAllocations.rows, allocation.purchaseId = id →
    db'.supplierSettlements.find? allocation.settlementId =
      db.supplierSettlements.find? allocation.settlementId

section SamePayments

variable {id : Id} (same : SamePayments db db' id)
  (allocations : db'.supplierSettlementAllocations = db.supplierSettlementAllocations)

include same allocations

theorem touched_congr : Touched db' id ↔ Touched db id := by
  unfold Touched
  rw [allocations]
  constructor
  · rintro ⟨allocation, member, here, counted⟩
    rw [same allocation member here] at counted
    exact ⟨allocation, member, here, counted⟩
  · rintro ⟨allocation, member, here, counted⟩
    rw [← same allocation member here] at counted
    exact ⟨allocation, member, here, counted⟩

theorem Standing.of_same (corrections : db'.financialCorrections = db.financialCorrections)
    (standing : Standing db' id) : Standing db id := by
  intro allocation member here settlement found counted
  have clean := standing allocation (by rw [allocations]; exact member) here settlement
    (by rw [same allocation member here]; exact found) counted
  unfold corrected at clean ⊢
  rw [corrections] at clean
  exact clean

theorem confirmedFor_of_same (corrections : db'.financialCorrections = db.financialCorrections) :
    confirmedFor db' id = confirmedFor db id := by
  have standing : stands db' = stands db := by
    unfold stands corrected
    rw [corrections]
  apply confirmedFor_congr id allocations
  intro allocation member here
  rw [same allocation member here, standing]

end SamePayments

theorem Posted.aside (posted : Posted db) (kept : Aside db db') : Posted db' := by
  have fronts : ∀ id, upFront db' id = upFront db id := by
    intro id
    unfold upFront
    rw [kept.payments]
  have bills : ∀ id, billed db' id = billed db id := by
    intro id
    unfold billed
    rw [kept.purchases]
    simp only [fronts]
  have confirms : ∀ id, confirmedTo db' id = confirmedTo db id := by
    intro id
    unfold confirmedTo
    rw [kept.settlements]
  have touches : ∀ id, Touched db' id ↔ Touched db id := by
    intro id
    unfold Touched
    rw [kept.allocations, kept.settlements]
  refine ⟨?_, ?_, ?_, ?_, ?_, ?_⟩
  · unfold PaymentsRooted
    rw [kept.payments, kept.purchases]
    exact posted.payments
  · rw [kept.settlements, kept.suppliers]
    exact posted.supplied
  · rw [kept.purchases]
    exact posted.status
  · intro purchase member untouched
    rw [kept.purchases] at member
    rw [touches] at untouched
    rw [fronts]
    exact posted.untouched purchase member untouched
  · intro purchase member touched standing
    rw [kept.purchases] at member
    rw [touches] at touched
    -- what is not corrected now never was
    have clean : ∀ id, corrected db' id = false → corrected db id = false := by
      intro id after
      cases before : corrected db id with
      | false => rfl
      | true =>
          rw [kept.corrected id before] at after
          cases after
    have stood : Standing db purchase.id := by
      intro allocation listed here row found confirmed
      rw [← kept.allocations] at listed
      rw [← kept.settlements] at found
      exact clean _ (standing allocation listed here row found confirmed)
    rw [posted.touched purchase member touched stood]
    refine (confirmedFor_congr purchase.id kept.allocations ?_).symm
    intro allocation listed here
    rw [kept.settlements]
    rcases found : db.supplierSettlements.find? allocation.settlementId with _ | row
    · rfl
    · rw [Option.any_some, Option.any_some]
      unfold stands
      by_cases confirmed : row.status = .confirmed
      · have key : row.id = allocation.settlementId := Table.key_of_find? _ _ _ found
        have before := stood allocation listed here row found confirmed
        rw [← kept.allocations] at listed
        rw [← kept.settlements] at found
        have after := standing allocation listed here row found confirmed
        rw [before, after]
      · simp [confirmed]
  · intro id supplier found
    rw [kept.suppliers] at found
    rw [bills, confirms]
    exact posted.balance id supplier found

section Buying

variable {purchase : Purchase} (bought : Bought purchase db db')

include bought

theorem buy_unknown : db.purchases.find? purchase.id = none :=
  (Table.find?_none _ _).mpr (Table.insert?_some _ _ _ bought.inserted).2

theorem buy_front_new (posted : Posted db) : upFront db' purchase.id = purchase.amountPaid := by
  have no_payment : upFront db purchase.id = 0 := by
    apply upFront_of_none
    intro payment member named
    obtain ⟨-, purchaseId, own, known⟩ := posted.payments payment member
    rw [named] at own
    cases own
    exact known (buy_unknown bought)
  rw [bought.paid, no_payment, if_pos rfl, zero_add]

theorem buy_front_old (other : Purchase) (member : other ∈ db.purchases.rows) :
    upFront db' other.id = upFront db other.id := by
  have fresh := (Table.insert?_some _ _ _ bought.inserted).2
  rw [bought.paid, if_neg (fresh other member), add_zero]

theorem buy_same (id : Id) : SamePayments db db' id := by
  intro allocation _ _
  rw [bought.settlements]

theorem buy_untouched (booked : Booked db) : ¬ Touched db purchase.id := by
  rintro ⟨allocation, member, here, -⟩
  obtain ⟨-, other, -, found, -⟩ := booked.rooted allocation member
  rw [here, buy_unknown bought] at found
  cases found

theorem buy_rooted (posted : Posted db) : PaymentsRooted db' := by
  intro payment member
  rcases bought.payments payment member with old | ⟨positive, named⟩
  · obtain ⟨positive, purchaseId, own, known⟩ := posted.payments payment old
    obtain ⟨other, found⟩ := Option.ne_none_iff_exists'.mp known
    refine ⟨positive, purchaseId, own, ?_⟩
    rw [Table.find?_insert_of_found _ _ _ bought.inserted _ _ found]
    exact Option.some_ne_none _
  · refine ⟨positive, purchase.id, named, ?_⟩
    rw [Table.find?_insert _ _ _ bought.inserted, if_pos rfl]
    exact Option.some_ne_none _

theorem buy_billed (posted : Posted db) (id : Id) : billed db' id = billed db id +
    if purchase.supplierId = id then purchase.total - purchase.amountPaid else 0 := by
  unfold billed
  rw [Table.total_insert _ _ _ bought.inserted, buy_front_new bought posted]
  congr 1
  apply Table.total_congr
  intro other member
  rw [buy_front_old bought other member]

theorem buy_balance (posted : Posted db) (id : Id) (supplier' : Supplier)
    (found' : db'.suppliers.find? id = some supplier') :
    supplier'.balance = billed db' id - confirmedTo db' id := by
  have confirms : confirmedTo db' id = confirmedTo db id := by
    unfold confirmedTo
    rw [bought.settlements]
  rw [bought.charged] at found'
  obtain ⟨supplier, found, image⟩ := Option.map_eq_some_iff.mp found'
  have before := posted.balance id supplier found
  rw [buy_billed bought posted, confirms, ← image]
  by_cases own : id = purchase.supplierId
  · rw [if_pos own, if_pos own.symm]
    dsimp only
    omega
  · rw [if_neg own, if_neg (Ne.symm own)]
    omega

theorem Posted.buy (posted : Posted db) (booked : Booked db) : Posted db' := by
  have rows := (Table.insert?_some _ _ _ bought.inserted).1
  have touches := fun id => touched_congr (buy_same bought id) bought.allocations
  constructor
  case payments => exact buy_rooted bought posted
  case supplied =>
    intro row member
    rw [bought.settlements] at member
    rw [bought.charged]
    have known := posted.supplied row member
    simpa using known
  case status =>
    intro other member
    rw [rows] at member
    rcases List.mem_append.mp member with old | new
    · exact posted.status other old
    · obtain rfl := List.mem_singleton.mp new
      exact bought.status
  case untouched =>
    intro other member untouched
    rw [rows] at member
    rw [touches] at untouched
    rcases List.mem_append.mp member with old | new
    · rw [buy_front_old bought other old]
      exact posted.untouched other old untouched
    · obtain rfl := List.mem_singleton.mp new
      exact (buy_front_new bought posted).symm
  case touched =>
    intro other member touched standing
    rw [rows] at member
    rw [touches] at touched
    have before := standing.of_same (buy_same bought other.id) bought.allocations bought.corrections
    rw [confirmedFor_of_same (buy_same bought other.id) bought.allocations bought.corrections]
    rcases List.mem_append.mp member with old | new
    · exact posted.touched other old touched before
    · obtain rfl := List.mem_singleton.mp new
      exact absurd touched (buy_untouched bought booked)
  case balance => exact buy_balance bought posted

end Buying

section Reporting

variable {row : SupplierSettlement} (reported : Reported row db db')

include reported

theorem report_found (booked : Booked db) (allocation : SupplierSettlementAllocation)
    (member : allocation ∈ db.supplierSettlementAllocations.rows) :
    db'.supplierSettlements.find? allocation.settlementId =
      db.supplierSettlements.find? allocation.settlementId := by
  obtain ⟨settlement, _, settled, -⟩ := booked.rooted allocation member
  rw [settled, Table.find?_insert_of_found _ _ _ reported.inserted _ _ settled]

/-- The new allocations wait for the payment's confirmation. -/
theorem report_idle : ∃ added, db'.supplierSettlementAllocations.rows =
      db.supplierSettlementAllocations.rows ++ added ∧
    ∀ allocation ∈ added, ∀ passes : SupplierSettlement → Bool, passes row = false →
      (db'.supplierSettlements.find? allocation.settlementId).any passes = false := by
  obtain ⟨added, allotted, rows⟩ := reported.allocations
  refine ⟨added, rows, ?_⟩
  intro allocation member passes fails
  have found : db'.supplierSettlements.find? row.id = some row :=
    (Table.find?_insert _ _ _ reported.inserted row.id).trans (if_pos rfl)
  rw [(allotted.own allocation member).1, found]
  exact fails

theorem report_touched (booked : Booked db) (id : Id) : Touched db' id ↔ Touched db id := by
  obtain ⟨added, rows, idle⟩ := report_idle reported
  unfold Touched
  rw [rows]
  constructor
  · rintro ⟨allocation, member, here, confirmed⟩
    rcases List.mem_append.mp member with old | new
    · rw [report_found reported booked allocation old] at confirmed
      exact ⟨allocation, old, here, confirmed⟩
    · rw [idle allocation new isConfirmed (by simp [isConfirmed, reported.status])] at confirmed
      cases confirmed
  · rintro ⟨allocation, old, here, confirmed⟩
    rw [← report_found reported booked allocation old] at confirmed
    exact ⟨allocation, List.mem_append_left _ old, here, confirmed⟩

theorem report_confirmedFor (booked : Booked db) (id : Id) :
    confirmedFor db' id = confirmedFor db id := by
  obtain ⟨added, rows, idle⟩ := report_idle reported
  have standing : stands db' = stands db := by
    unfold stands corrected
    rw [reported.corrections]
  rw [confirmedFor_eq, confirmedFor_eq]
  unfold paidAt Table.total
  rw [rows, List.map_append, List.sum_append]
  have none_added : (added.map (fun allocation =>
      if (db'.supplierSettlements.find? allocation.settlementId).any (stands db') then
        if allocation.purchaseId = id then allocation.amount else 0
      else 0)).sum = 0 := by
    apply List.sum_eq_zero
    intro amount member
    obtain ⟨allocation, present, rfl⟩ := List.mem_map.mp member
    rw [idle allocation present (stands db') (by simp [stands, reported.status])]
    rfl
  rw [none_added, add_zero]
  congr 1
  apply List.map_congr_left
  intro allocation member
  rw [report_found reported booked allocation member, standing]

theorem report_standing (booked : Booked db) (id : Id) (standing : Standing db' id) :
    Standing db id := by
  obtain ⟨added, rows, -⟩ := report_idle reported
  intro allocation listed here settlement found confirmed
  have clean := standing allocation (by rw [rows]; exact List.mem_append_left _ listed) here
    settlement (by rw [report_found reported booked allocation listed]; exact found) confirmed
  unfold corrected at clean ⊢
  rw [reported.corrections] at clean
  exact clean

theorem report_billed (id : Id) :
    billed db' id = billed db id ∧ confirmedTo db' id = confirmedTo db id := by
  constructor
  · unfold billed upFront
    rw [reported.purchases, reported.payments]
  · unfold confirmedTo
    rw [Table.total_insert _ _ _ reported.inserted]
    simp [reported.status]

theorem Posted.report (posted : Posted db) (booked : Booked db) : Posted db' := by
  constructor
  case payments =>
    unfold PaymentsRooted
    rw [reported.payments, reported.purchases]
    exact posted.payments
  case supplied =>
    intro other member
    rw [(Table.insert?_some _ _ _ reported.inserted).1] at member
    rw [reported.suppliers]
    rcases List.mem_append.mp member with old | new
    · exact posted.supplied other old
    · obtain rfl := List.mem_singleton.mp new
      exact reported.supplied
  case status =>
    rw [reported.purchases]
    exact posted.status
  case untouched =>
    intro purchase member untouched
    rw [reported.purchases] at member
    rw [report_touched reported booked] at untouched
    unfold upFront
    rw [reported.payments]
    exact posted.untouched purchase member untouched
  case touched =>
    intro purchase member touched standing
    rw [reported.purchases] at member
    rw [report_touched reported booked] at touched
    rw [report_confirmedFor reported booked]
    exact posted.touched purchase member touched (report_standing reported booked _ standing)
  case balance =>
    intro id supplier found
    obtain ⟨bill, confirms⟩ := report_billed reported id
    rw [reported.suppliers] at found
    rw [bill, confirms]
    exact posted.balance id supplier found

end Reporting

section Confirm

variable {row : SupplierSettlement} (confirms : Confirmed False row db db')

include confirms

theorem Confirmed.find_own :
    ∃ ctx, db'.supplierSettlements.find? row.id = some (confirmed ctx row) := by
  obtain ⟨ctx, settlements⟩ := confirms.settlements
  refine ⟨ctx, ?_⟩
  rw [settlements, Table.find?_update_of_found _ _ _ _ _ _ confirms.found, if_pos rfl]

/-- A purchase the payment has no part of keeps its payments. -/
theorem Confirmed.samePayments (booked : Booked db) {listed : List Id}
    (complete : ∀ allocation ∈ db.supplierSettlementAllocations.rows,
      allocation.settlementId = row.id → allocation.companyId = row.companyId →
        allocation.purchaseId ∈ listed)
    (id : Id) (apart : id ∉ listed) : SamePayments db db' id := by
  obtain ⟨ctx, settlements⟩ := confirms.settlements
  intro allocation member here
  have other : allocation.settlementId ≠ row.id := by
    intro own
    obtain ⟨settlement, _, settled, -, company, -⟩ := booked.rooted allocation member
    rw [own, confirms.found] at settled
    cases settled
    exact apart (here ▸ complete allocation member own company)
  rw [settlements, Table.find?_update, if_neg other]

theorem Confirmed.company_of_listed (booked : Booked db) (purchase : Purchase)
    (present : purchase ∈ db.purchases.rows) (allocation : SupplierSettlementAllocation)
    (stored : allocation ∈ db.supplierSettlementAllocations.rows)
    (own : allocation.settlementId = row.id) (bought : allocation.purchaseId = purchase.id) :
    purchase.companyId = row.companyId := by
  obtain ⟨settlement, other, settled, found, -, company, -⟩ := booked.rooted allocation stored
  rw [own, confirms.found] at settled
  cases settled
  rw [bought, (Table.find?_some db.purchases purchase.id purchase).mpr ⟨present, rfl⟩] at found
  cases found
  exact company

theorem Confirmed.upFront_same (id : Id) : upFront db' id = upFront db id := by
  unfold upFront
  rw [confirms.payments]

theorem Confirmed.billed_same (id : Id) : billed db' id = billed db id := by
  obtain ⟨listed, rows, -, -⟩ := confirms.purchases
  unfold billed Table.total
  rw [rows, List.map_map]
  congr 1
  apply List.map_congr_left
  intro purchase _
  simp only [Function.comp_apply, confirms.upFront_same]
  split
  · rfl
  · rfl

theorem Confirmed.confirmedTo_more (id : Id) : confirmedTo db' id =
    confirmedTo db id + if row.supplierId = id then row.amount else 0 := by
  obtain ⟨ctx, settlements⟩ := confirms.settlements
  have moved := Table.total_update db.supplierSettlements row.id (confirmed ctx)
    (confirmed_id ctx) (fun other =>
      if other.supplierId = id ∧ other.status = .confirmed then other.amount else 0) row
    confirms.found
  unfold confirmedTo
  rw [settlements]
  simpa [confirms.status, confirmed] using moved

theorem Confirmed.supplied
    (supplied : ∀ other ∈ db.supplierSettlements.rows, db.suppliers.find? other.supplierId ≠ none) :
    ∀ other ∈ db'.supplierSettlements.rows, db'.suppliers.find? other.supplierId ≠ none := by
  obtain ⟨ctx, settlements⟩ := confirms.settlements
  intro other' member
  rw [settlements, Table.mem_update] at member
  rw [confirms.charged]
  rcases member with ⟨old, -⟩ | ⟨other, found, rfl⟩
  · simpa using supplied other' old
  · have known := supplied other (Table.mem_of_find? _ _ _ found)
    show Option.map _ (db.suppliers.find? other.supplierId) ≠ none
    simpa using known

theorem Confirmed.balanced (id : Id)
    (balanced : ∀ supplier, db.suppliers.find? id = some supplier →
      supplier.balance = billed db id - confirmedTo db id) :
    ∀ supplier, db'.suppliers.find? id = some supplier →
      supplier.balance = billed db' id - confirmedTo db' id := by
  intro supplier' found'
  rw [confirms.charged] at found'
  obtain ⟨supplier, found, image⟩ := Option.map_eq_some_iff.mp found'
  have before := balanced supplier found
  rw [confirms.billed_same, confirms.confirmedTo_more, ← image]
  by_cases own : id = row.supplierId
  · rw [if_pos own, if_pos own.symm]
    dsimp only
    omega
  · rw [if_neg own, if_neg (Ne.symm own)]
    omega

end Confirm

/-- The purchases of the payment are paid what is paid on them now; the others stay. -/
theorem Posted.confirm (posted : Posted db) (booked : Booked db)
    (row : SupplierSettlement) (confirms : Confirmed False row db db') : Posted db' := by
  have booked' : Booked db' := booked.step (.confirm row db' confirms)
  obtain ⟨listed, rows, complete, named⟩ := confirms.purchases
  have same := confirms.samePayments booked (complete not_false)
  have before : ∀ purchase' ∈ db'.purchases.rows, ∃ purchase ∈ db.purchases.rows,
      purchase' = (if purchase.id ∈ listed then
        refreshedTo (paidTo db' (fun other => other.companyId = row.companyId)) purchase
      else purchase) := by
    intro purchase' member
    rw [rows] at member
    obtain ⟨purchase, present, image⟩ := List.mem_map.mp member
    exact ⟨purchase, present, image.symm⟩
  constructor
  case payments =>
    intro payment member
    rw [confirms.payments] at member
    obtain ⟨positive, purchaseId, own, known⟩ := posted.payments payment member
    refine ⟨positive, purchaseId, own, ?_⟩
    rw [find?_of_rows_map _ (fun purchase => by split <;> rfl) rows]
    simpa using known
  case supplied => exact confirms.supplied posted.supplied
  case status =>
    intro purchase' member
    obtain ⟨purchase, present, rfl⟩ := before purchase' member
    split
    · rfl
    · exact posted.status purchase present
  case untouched =>
    intro purchase' member untouched
    obtain ⟨purchase, present, rfl⟩ := before purchase' member
    by_cases here : purchase.id ∈ listed
    · rw [if_pos here] at untouched
      obtain ⟨allocation, stored, own, bought⟩ := named not_false purchase.id here
      obtain ⟨ctx, found⟩ := confirms.find_own
      refine absurd ⟨allocation, by rw [confirms.allocations]; exact stored, bought, ?_⟩ untouched
      rw [own, found]
      rfl
    · rw [if_neg here] at untouched ⊢
      rw [touched_congr (same _ here) confirms.allocations] at untouched
      rw [confirms.upFront_same]
      exact posted.untouched purchase present untouched
  case touched =>
    intro purchase' member touched standing
    obtain ⟨purchase, present, rfl⟩ := before purchase' member
    by_cases here : purchase.id ∈ listed
    · rw [if_pos here] at member ⊢
      have found := (Table.find?_some db'.purchases _ _).mpr ⟨member, rfl⟩
      obtain ⟨allocation, stored, own, bought⟩ := named not_false purchase.id here
      have company :=
        confirms.company_of_listed booked purchase present allocation stored own bought
      exact paidTo_among booked'.rooted _ found _
        (fun other owner _ => decide_eq_true (owner.trans company))
    · rw [if_neg here] at touched standing ⊢
      rw [confirmedFor_of_same (same _ here) confirms.allocations confirms.corrections]
      rw [touched_congr (same _ here) confirms.allocations] at touched
      exact posted.touched purchase present touched
        (standing.of_same (same _ here) confirms.allocations confirms.corrections)
  case balance => exact fun id => confirms.balanced id (posted.balance id)

theorem Posted.step (moved : Movement False db db')
    (kept : Booked db ∧ Posted db) : Booked db' ∧ Posted db' := by
  obtain ⟨booked, posted⟩ := kept
  refine ⟨booked.step moved, ?_⟩
  cases moved with
  | aside _ kept => exact posted.aside kept
  | buy purchase _ bought => exact posted.buy bought booked
  | report row _ reported => exact posted.report reported booked
  | amend row _ amending amended => exact amending.elim
  | confirm row _ confirms => exact posted.confirm booked row confirms

theorem Unbilled.posted {db : Db} (unbilled : Unbilled db)
    (settled : ∀ supplier ∈ db.suppliers.rows, supplier.balance = 0) : Posted db := by
  have nothing_billed : ∀ id, billed db id = 0 := by
    intro id
    unfold billed Table.total
    rw [unbilled.purchases]
    rfl
  have nothing_confirmed : ∀ id, confirmedTo db id = 0 := by
    intro id
    unfold confirmedTo Table.total
    rw [unbilled.settlements]
    rfl
  refine ⟨?_, ?_, ?_, ?_, ?_, ?_⟩
  · unfold PaymentsRooted
    rw [unbilled.payments]
    exact fun _ member => by cases member
  · rw [unbilled.settlements]
    exact fun _ member => by cases member
  · rw [unbilled.purchases]
    exact fun _ member => by cases member
  · rw [unbilled.purchases]
    exact fun _ member => by cases member
  · rw [unbilled.purchases]
    exact fun _ member => by cases member
  · intro id supplier found
    rw [nothing_billed, nothing_confirmed, settled supplier (Table.mem_of_find? _ _ _ found)]
    rfl

section Derived

variable {db : Db} (booked : Booked db) (posted : Posted db)
include booked

theorem derived_balance (supplierId : Id) :
    db.purchases.total (fun purchase =>
      if purchase.supplierId = supplierId then purchase.total - derivedPaid db purchase.id
      else 0) =
      billed db supplierId - db.supplierSettlements.total (fun row =>
        if row.supplierId = supplierId ∧ stands db row then row.amount else 0) := by
  have split := Table.total_add db.purchases
    (fun purchase =>
      if purchase.supplierId = supplierId then purchase.total - derivedPaid db purchase.id
      else 0)
    (fun purchase =>
      if purchase.supplierId = supplierId then confirmedFor db purchase.id else 0)
  have whole : billed db supplierId = db.purchases.total (fun purchase =>
      (if purchase.supplierId = supplierId then purchase.total - derivedPaid db purchase.id
        else 0) +
      if purchase.supplierId = supplierId then confirmedFor db purchase.id else 0) := by
    apply Table.total_congr
    intro purchase _
    unfold derivedPaid
    split <;> omega
  have spread := booked.spread (fun purchase => purchase.supplierId = supplierId)
    (fun row => decide (row.supplierId = supplierId) ∧ stands db row) (by
      intro row purchase _ supplier passed
      simp only [decide_eq_true_eq] at passed ⊢
      exact supplier.trans passed.1)
  rw [booked.paidBy_eq] at spread
  have settled : db.purchases.total (fun purchase =>
      if purchase.supplierId = supplierId then confirmedFor db purchase.id else 0) =
      db.supplierSettlements.total (fun row =>
        if row.supplierId = supplierId ∧ stands db row then row.amount else 0) := by
    refine Eq.trans ?_ (spread.trans ?_)
    · apply Table.total_congr
      intro purchase member
      by_cases own : purchase.supplierId = supplierId
      · have found := (Table.find?_some db.purchases purchase.id purchase).mpr ⟨member, rfl⟩
        have among := paidTo_among booked.rooted purchase found
          (fun row => row.supplierId = supplierId)
          (fun _ _ supplier => decide_eq_true (supplier.trans own))
        rw [if_pos own, if_pos (decide_eq_true own), ← among, paidTo_eq]
      · rw [if_neg own, if_neg (fun same => own (of_decide_eq_true same))]
    · apply Table.total_congr
      intro row _
      simp
  omega

/-- What was billed less what was ever confirmed is what is owed where every payment
confirmed for the supplier stands. -/
theorem derived_eq_confirmed_iff (supplierId : Id) :
    billed db supplierId - confirmedTo db supplierId =
      db.purchases.total (fun purchase =>
        if purchase.supplierId = supplierId then purchase.total - derivedPaid db purchase.id
        else 0) ↔
      ∀ row ∈ db.supplierSettlements.rows, row.supplierId = supplierId →
        row.status = .confirmed → corrected db row.id = false := by
  have bounded : ∀ row ∈ db.supplierSettlements.rows,
      (if row.supplierId = supplierId ∧ stands db row then row.amount else 0) ≤
        if row.supplierId = supplierId ∧ row.status = .confirmed then row.amount else 0 := by
    intro row member
    have positive := (booked.whole row member).1
    by_cases standing : row.supplierId = supplierId ∧ stands db row = true
    · have confirmed : row.status = .confirmed := (of_decide_eq_true standing.2).1
      rw [if_pos standing, if_pos ⟨standing.1, confirmed⟩]
    · rw [if_neg standing]
      split <;> omega
  have pointwise := Table.sum_eq_iff_of_le _ _ _ bounded
  have total := derived_balance booked supplierId
  unfold confirmedTo Table.total at *
  constructor
  · intro equal row member own confirmed
    have same := pointwise.mp (by omega) row member
    have positive := (booked.whole row member).1
    cases again : corrected db row.id with
    | false => rfl
    | true =>
        simp [own, confirmed, stands, again] at same
        omega
  · intro clean
    have same := pointwise.mpr (by
      intro row member
      by_cases own : row.supplierId = supplierId
      · by_cases confirmed : row.status = .confirmed
        · simp [own, confirmed, stands, clean row member own confirmed]
        · simp [confirmed, stands]
      · simp [own])
    omega

include posted

theorem balances_iff :
    (∀ supplier ∈ db.suppliers.rows, supplier.balance = db.purchases.total (fun purchase =>
      if purchase.supplierId = supplier.id then purchase.total - derivedPaid db purchase.id
      else 0)) ↔ NoneCorrected db := by
  constructor
  · intro balanced row member confirmed
    obtain ⟨supplier, found⟩ := Option.ne_none_iff_exists'.mp (posted.supplied row member)
    have stored := posted.balance _ supplier found
    have key : supplier.id = row.supplierId := Table.key_of_find? _ _ _ found
    have derived := balanced supplier (Table.mem_of_find? _ _ _ found)
    rw [stored, key] at derived
    exact (derived_eq_confirmed_iff booked row.supplierId).mp derived row member rfl confirmed
  · intro clean supplier member
    have found := (Table.find?_some db.suppliers supplier.id supplier).mpr ⟨member, rfl⟩
    rw [posted.balance _ supplier found]
    exact (derived_eq_confirmed_iff booked supplier.id).mpr
      (fun row listed _ confirmed => clean row listed confirmed)

/-- With no payment corrected, what is paid is in step exactly where up-front payments
and confirmed ones are kept apart. -/
theorem paid_iff (clean : NoneCorrected db) :
    (∀ purchase ∈ db.purchases.rows, purchase.amountPaid = derivedPaid db purchase.id) ↔
      Separate db := by
  have standing : ∀ id, Standing db id := by
    intro id allocation _ _ row found confirmed
    exact clean row (Table.mem_of_find? _ _ _ found) confirmed
  have on_touched : ∀ purchase ∈ db.purchases.rows, Touched db purchase.id →
      (purchase.amountPaid = derivedPaid db purchase.id ↔ upFront db purchase.id = 0) := by
    intro purchase member touched
    rw [posted.touched purchase member touched (standing purchase.id)]
    unfold derivedPaid
    omega
  constructor
  · intro paid allocation member confirmed
    obtain ⟨_, purchase, -, found, -⟩ := booked.rooted allocation member
    have key : purchase.id = allocation.purchaseId := Table.key_of_find? _ _ _ found
    have stored := Table.mem_of_find? _ _ _ found
    rw [← key]
    exact (on_touched purchase stored ⟨allocation, member, key.symm, confirmed⟩).mp
      (paid purchase stored)
  · intro separate purchase member
    by_cases touched : Touched db purchase.id
    · apply (on_touched purchase member touched).mpr
      obtain ⟨allocation, listed, here, confirmed⟩ := touched
      exact here ▸ separate allocation listed confirmed
    · rw [posted.untouched purchase member touched]
      unfold derivedPaid
      rw [confirmedFor_of_none db purchase.id touched, add_zero]

end Derived

theorem in_step_iff (db : Db) (unbilled : Unbilled db)
    (settled : ∀ supplier ∈ db.suppliers.rows, supplier.balance = 0)
    (c : Config Db Inventory.Mark Refusal Unit) (run : PayablesRun False (.idle db) c) :
    InStep c.store ↔ NoneCorrected c.store ∧ Separate c.store := by
  obtain ⟨booked, posted⟩ := run_keeps False (fun db => Booked db ∧ Posted db)
    (fun _ _ moved kept => Posted.step moved kept) db c run
    ⟨unbilled.booked, unbilled.posted settled⟩
  constructor
  · intro in_step
    have clean := (balances_iff booked posted).mp in_step.balance
    exact ⟨clean, (paid_iff booked posted clean).mp in_step.paid⟩
  · rintro ⟨clean, separate⟩
    have paid := (paid_iff booked posted clean).mpr separate
    refine ⟨paid, ?_, (balances_iff booked posted).mpr clean⟩
    intro purchase member
    rw [posted.status purchase member, paid purchase member]

theorem settled_shop : ∀ supplier ∈ shop.suppliers.rows, supplier.balance = 0 := by decide

/-- 30.00 is paid when the goods come in and 50.00 later: the purchase says 50.00. -/
theorem figures_out_of_step :
    ¬ ∀ (db : Db) (c : Config Db Inventory.Mark Refusal Unit), Unbilled db →
      (∀ supplier ∈ db.suppliers.rows, supplier.balance = 0) →
        PayablesRun False (.idle db) c → InStep c.store := by
  intro claim
  obtain ⟨c, run, store⟩ := inTurn_run (Issued False) shop
    (delivery (some ⟨3000, by decide⟩) :: paidLater ⟨5000, by decide⟩)
    (delivered_issued False _ _ (paidLater_issued False _))
  have in_step := claim shop c unbilled_shop settled_shop run
  have stored : c.store.purchases.rows.map (fun purchase =>
      (purchase.amountPaid, derivedPaid c.store purchase.id)) = [(5000, 8000)] := by
    rw [store]
    decide +kernel
  obtain ⟨purchase, member, figures⟩ :=
    List.mem_map.mp (stored ▸ List.mem_singleton_self ((5000 : Int), (8000 : Int)))
  obtain ⟨paid, derived⟩ := Prod.mk.inj figures
  have same := in_step.paid purchase member
  rw [paid, derived] at same
  cases same

/-- Nothing up front, half of it later. -/
theorem in_step_iff_half_paid :
    ∃ c, PayablesRun False (.idle shop) c ∧
      (InStep c.store ↔ NoneCorrected c.store ∧ Separate c.store) ∧ InStep c.store ∧
      c.store.suppliers.rows.map Supplier.balance = [5000] := by
  obtain ⟨c, run, store⟩ := inTurn_run (Issued False) shop
    (delivery none :: paidLater ⟨5000, by decide⟩)
    (delivered_issued False _ _ (paidLater_issued False _))
  have exact_when := in_step_iff shop unbilled_shop settled_shop c run
  have clean : NoneCorrected c.store := by
    rw [store]
    unfold NoneCorrected
    decide +kernel
  have separate : Separate c.store := by
    rw [store]
    unfold Separate
    decide +kernel
  exact ⟨c, run, exact_when, exact_when.mpr ⟨clean, separate⟩, by rw [store]; decide +kernel⟩

end ErpBackend.Suppliers
