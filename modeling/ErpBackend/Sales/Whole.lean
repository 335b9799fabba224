import ErpBackend.Foundation.Answers
import ErpBackend.Sales.Books

/-!
# A sale is made whole

Whatever the others do between the snapshot of a sale and its writes: a sale that fails has
stored nothing, and one that succeeds has sold every phone it lists once and taken from every
stock row what its lines add up to.
-/

namespace ErpBackend.Sales

open Foundation Inventory

def namedUnits (companyId : Id) (snapshot : Db) (lines : List SaleLineDto) : List Id :=
  lines.filterMap (fun line => line.scanned.bind (fun identifier =>
    (findSellable snapshot companyId identifier).map StockUnit.id))

def wantedQuantity (line : SaleLineDto) : Int := (line.quantity.map Count.value).getD 1

def requested (lines : List SaleLineDto) (productId : Id) : Int :=
  ((lines.filter (fun line => line.scanned = none ∧ line.productId = some productId)).map
    wantedQuantity).sum

def takenOf (lines : List PreparedLine) (productId : Id) : Int :=
  ((lines.filter (fun line => line.unitId = none ∧ line.productId = productId)).map
    PreparedLine.quantity).sum

theorem requested_cons (line : SaleLineDto) (rest : List SaleLineDto) (productId : Id) :
    requested (line :: rest) productId =
      (if line.scanned = none ∧ line.productId = some productId then wantedQuantity line else 0) +
        requested rest productId := by
  unfold requested
  rw [List.filter_cons]
  by_cases own : line.scanned = none ∧ line.productId = some productId
  · simp [own]
  · rw [if_neg (by simpa using own), if_neg own, zero_add]

theorem takenOf_cons (line : PreparedLine) (rest : List PreparedLine) (productId : Id) :
    takenOf (line :: rest) productId =
      (if line.unitId = none ∧ line.productId = productId then line.quantity else 0) +
        takenOf rest productId := by
  unfold takenOf
  rw [List.filter_cons]
  by_cases own : line.unitId = none ∧ line.productId = productId
  · simp [own]
  · rw [if_neg (by simpa using own), if_neg own, zero_add]

inductive Read (companyId : Id) (db : Db) (line : SaleLineDto) (prepared : PreparedLine) : Prop
  | unit (identifier : String) (unit : StockUnit) (scanned : line.scanned = some identifier)
      (found : findSellable db companyId identifier = some unit)
      (named : prepared.unitId = some unit.id)
  | stock (productId : Id) (scanned : line.scanned = none)
      (listed : line.productId = some productId) (named : prepared.unitId = none)
      (product : prepared.productId = productId)
      (quantity : prepared.quantity = wantedQuantity line)

variable (companyId branchId : Id)

theorem prepareLine_read (db : Db) (line : SaleLineDto)
    (prepared : PreparedLine) (kind : line.scanned.isSome ≠ line.productId.isSome)
    (done : prepareLine companyId branchId db line = .ok prepared) :
    Read companyId db line prepared := by
  unfold prepareLine at done
  split at done
  · next identifier scanned =>
    unfold prepareUnit at done
    split at done
    · cases done
    · next unit found =>
      obtain ⟨_, -, done⟩ := (except_bind_ok _ _ _).mp done
      obtain ⟨price, -, done⟩ := (except_bind_ok _ _ _).mp done
      cases done
      exact .unit identifier unit scanned found rfl
  · next scanned =>
    rcases listed : line.productId with _ | productId
    · simp [scanned, listed] at kind
    · rw [listed] at done
      unfold prepareStock at done
      dsimp only at done
      split at done
      · cases done
      · split at done
        · cases done
        · obtain ⟨price, -, done⟩ := (except_bind_ok _ _ _).mp done
          cases done
          exact .stock productId scanned listed rfl rfl rfl

structure AllRead (companyId : Id) (db : Db) (lines : List SaleLineDto)
    (prepared : List PreparedLine) : Prop where
  units : prepared.filterMap PreparedLine.unitId = namedUnits companyId db lines
  quantities : ∀ productId, takenOf prepared productId = requested lines productId
  found : ∀ line ∈ lines, ∀ identifier, line.scanned = some identifier →
    (findSellable db companyId identifier).isSome
  entries : ∀ line ∈ lines, ∀ productId, line.scanned = none → line.productId = some productId →
    ∃ entry ∈ prepared, entry.unitId = none ∧ entry.productId = productId

theorem AllRead.cons {companyId : Id} {db : Db} {line : SaleLineDto} {prepared : PreparedLine}
    {lines : List SaleLineDto} {others : List PreparedLine}
    (own : Read companyId db line prepared) (rest : AllRead companyId db lines others) :
    AllRead companyId db (line :: lines) (prepared :: others) := by
  have later : ∀ other ∈ lines, ∀ productId, other.scanned = none →
      other.productId = some productId →
      ∃ entry ∈ prepared :: others, entry.unitId = none ∧ entry.productId = productId := by
    intro other member productId scanned listed
    obtain ⟨entry, inside, matched⟩ := rest.entries other member productId scanned listed
    exact ⟨entry, List.mem_cons_of_mem _ inside, matched⟩
  cases own with
  | unit identifier unit scanned sellable named =>
    constructor
    · have units := rest.units
      simp only [namedUnits] at units ⊢
      simp [named, scanned, sellable, units]
    · intro productId
      rw [takenOf_cons, requested_cons, rest.quantities productId]
      simp [named, scanned]
    · rw [List.forall_mem_cons]
      refine ⟨fun other same => ?_, rest.found⟩
      rw [scanned] at same
      cases same
      simp [sellable]
    · rw [List.forall_mem_cons]
      exact ⟨by simp [scanned], later⟩
  | stock productId scanned listed named product quantity =>
    constructor
    · have units := rest.units
      simp only [namedUnits] at units ⊢
      simp [named, scanned, units]
    · intro other
      rw [takenOf_cons, requested_cons, rest.quantities other]
      simp [named, scanned, listed, product, quantity]
    · rw [List.forall_mem_cons]
      exact ⟨by simp [scanned], rest.found⟩
    · rw [List.forall_mem_cons]
      refine ⟨fun other _ same => ⟨prepared, by simp, named, ?_⟩, later⟩
      rw [listed] at same
      cases same
      exact product

theorem prepareLines_read (db : Db) (lines : List SaleLineDto)
    (prepared : List PreparedLine)
    (kinds : ∀ line ∈ lines, line.scanned.isSome ≠ line.productId.isSome)
    (done : prepareLines companyId branchId db lines = .ok prepared) :
    AllRead companyId db lines prepared := by
  induction lines generalizing prepared with
  | nil =>
    cases done
    exact ⟨rfl, fun _ => rfl, by simp, by simp⟩
  | cons line rest ih =>
    unfold prepareLines at done
    obtain ⟨first, own, done⟩ := (except_bind_ok _ _ _).mp done
    obtain ⟨others, later, done⟩ := (except_bind_ok _ _ _).mp done
    cases done
    exact .cons (prepareLine_read companyId branchId db line first (kinds line (by simp)) own)
      (ih others (fun other member => kinds other (by simp [member])) later)

def sell (now : Time) (unit : StockUnit) : StockUnit :=
  { unit with status := .sold, dateSold := some now }

theorem sell_id (now : Time) (unit : StockUnit) : (sell now unit).id = unit.id := rfl

theorem claimUnit_rows (companyId unitId : Id) (now : Time) (db db' : Db)
    (done : claimUnit companyId unitId now db = .ok db') :
    ∃ unit, db.units.find? unitId = some unit ∧ unit.companyId = companyId ∧
      unit.status = .inStock ∧
      db' = { db with units := db.units.update unitId (sell now) (sell_id now) } := by
  unfold claimUnit at done
  split at done
  · cases done
  · next units claimed =>
    cases done
    obtain ⟨unit, found, passed, changed⟩ := (Table.swap?_some _ _ _ _ _ _).mp claimed
    rw [decide_eq_true_eq] at passed
    exact ⟨unit, found, passed.1, passed.2, by rw [changed]; rfl⟩

def takeFrom (quantity : Int) (item : StockItem) : StockItem :=
  { item with quantity := item.quantity - quantity }

theorem takeFrom_key (quantity : Int) (item : StockItem) :
    (takeFrom quantity item).key = item.key := rfl

theorem takeStock_rows (companyId productId branchId : Id) (quantity : Int) (db db' : Db)
    (done : takeStock companyId productId branchId quantity db = .ok db') :
    ∃ item, db.stockItems.find? (companyId, productId, branchId) = some item ∧
      (takeFrom quantity item).reservedQuantity ≤ (takeFrom quantity item).quantity ∧
      db' = { db with
        stockItems := db.stockItems.update (companyId, productId, branchId) (takeFrom quantity)
          (takeFrom_key quantity) } := by
  unfold takeStock at done
  obtain ⟨⟨taken, found⟩, stored, done⟩ := (except_bind_ok _ _ _).mp done
  unfold updateStock at stored
  split at stored
  · cases stored
    simp at done
  · next item matched =>
    obtain ⟨row, -⟩ := Option.filter_eq_some_iff.mp matched
    split at stored
    · cases stored
    · next checked =>
      cases stored
      have bounded := (checkStock_ok (takeFrom quantity item) checked)
      dsimp only at done
      split at done
      · cases done
      · split at done
        · cases done
        · cases done
          exact ⟨item, row, by omega, rfl⟩

theorem insertSaleItem_rows (item : SaleItem) (db db' : Db)
    (done : insertSaleItem item db = .ok db') : ∃ saleItems, db' = { db with saleItems } := by
  unfold insertSaleItem at done
  split at done
  · cases done
  · split at done
    · cases done
    · next saleItems _ =>
      cases done
      exact ⟨saleItems, rfl⟩

theorem takeFrom_zero (item : StockItem) : takeFrom 0 item = item := by
  simp [takeFrom]

theorem takeFrom_takeFrom (first second : Int) (item : StockItem) :
    takeFrom second (takeFrom first item) = takeFrom (first + second) item := by
  simp only [takeFrom, StockItem.mk.injEq, true_and, and_true]
  omega

def share (companyId branchId : Id) (lines : List PreparedLine) (key : Id × Id × Id) : Int :=
  if key.1 = companyId ∧ key.2.2 = branchId then takenOf lines key.2.1 else 0

structure Taken (companyId branchId : Id) (now : Time) (lines : List PreparedLine)
    (db db' : Db) : Prop where
  once : (lines.filterMap PreparedLine.unitId).Nodup
  stocked : ∀ id ∈ lines.filterMap PreparedLine.unitId, ∃ unit, db.units.find? id = some unit ∧
    unit.companyId = companyId ∧ unit.status = .inStock
  units : ∀ id, db'.units.find? id =
    if id ∈ lines.filterMap PreparedLine.unitId then (db.units.find? id).map (sell now)
    else db.units.find? id
  stock : ∀ key, db'.stockItems.find? key =
    (db.stockItems.find? key).map (takeFrom (share companyId branchId lines key))
  unreserved : ∀ line ∈ lines, line.unitId = none → ∃ item,
    db'.stockItems.find? (companyId, line.productId, branchId) = some item ∧
      item.reservedQuantity ≤ item.quantity

theorem share_cons (line : PreparedLine) (rest : List PreparedLine)
    (key : Id × Id × Id) :
    share companyId branchId (line :: rest) key =
      (if line.unitId = none ∧ key = (companyId, line.productId, branchId) then line.quantity
        else 0) + share companyId branchId rest key := by
  obtain ⟨company, product, branch⟩ := key
  simp only [share, takenOf_cons, Prod.mk.injEq]
  by_cases here : company = companyId ∧ branch = branchId
  · simp [here, eq_comm]
  · have elsewhere : ¬ (line.unitId = none ∧ company = companyId ∧ product = line.productId ∧
        branch = branchId) := fun all => here ⟨all.2.1, all.2.2.2⟩
    simp [here, elsewhere]

theorem share_absent (companyId branchId productId : Id) (lines : List PreparedLine)
    (absent : ∀ line ∈ lines, ¬ (line.unitId = none ∧ line.productId = productId)) :
    share companyId branchId lines (companyId, productId, branchId) = 0 := by
  have none : lines.filter (fun line => line.unitId = none ∧ line.productId = productId) = [] := by
    rw [List.filter_eq_nil_iff]
    intro line member
    simpa using absent line member
  unfold share takenOf
  rw [if_pos ⟨rfl, rfl⟩, none]
  rfl

theorem Taken.unit {companyId branchId : Id} {now : Time} {line : PreparedLine}
    {rest : List PreparedLine} {db db₁ db' : Db} {unitId : Id} {unit : StockUnit}
    (named : line.unitId = some unitId) (found : db.units.find? unitId = some unit)
    (company : unit.companyId = companyId) (inStock : unit.status = .inStock)
    (sold : db₁.units = db.units.update unitId (sell now) (sell_id now))
    (kept : db₁.stockItems = db.stockItems) (later : Taken companyId branchId now rest db₁ db') :
    Taken companyId branchId now (line :: rest) db db' := by
  have after : ∀ id, db₁.units.find? id =
      if id = unitId then (db.units.find? id).map (sell now) else db.units.find? id := by
    intro id
    rw [sold, Table.find?_update]
    split
    · next same => rw [same]
    · rfl
  -- The phone just sold is in stock no more, so no later line has sold it.
  have apart : unitId ∉ rest.filterMap PreparedLine.unitId := by
    intro member
    obtain ⟨other, present, -, stocked⟩ := later.stocked unitId member
    rw [after, if_pos rfl, found] at present
    cases present
    cases stocked
  have listed : (line :: rest).filterMap PreparedLine.unitId =
      unitId :: rest.filterMap PreparedLine.unitId := by
    simp [named]
  constructor
  · rw [listed]
    exact List.nodup_cons.mpr ⟨apart, later.once⟩
  · rw [listed, List.forall_mem_cons]
    refine ⟨⟨unit, found, company, inStock⟩, fun id member => ?_⟩
    have other : id ≠ unitId := fun same => apart (same ▸ member)
    have row := later.stocked id member
    rwa [after, if_neg other] at row
  · intro id
    rw [later.units, after, listed]
    by_cases same : id = unitId
    · simp [same, apart]
    · simp [same]
  · intro key
    rw [later.stock, kept, share_cons]
    simp [named]
  · rw [List.forall_mem_cons]
    exact ⟨by simp [named], later.unreserved⟩

theorem Taken.pieces {companyId branchId : Id} {now : Time} {line : PreparedLine}
    {rest : List PreparedLine} {db db₁ db' : Db} {item : StockItem} (named : line.unitId = none)
    (found : db.stockItems.find? (companyId, line.productId, branchId) = some item)
    (free : (takeFrom line.quantity item).reservedQuantity ≤ (takeFrom line.quantity item).quantity)
    (drawn : db₁.stockItems = db.stockItems.update (companyId, line.productId, branchId)
      (takeFrom line.quantity) (takeFrom_key line.quantity))
    (kept : db₁.units = db.units) (later : Taken companyId branchId now rest db₁ db') :
    Taken companyId branchId now (line :: rest) db db' := by
  have listed : (line :: rest).filterMap PreparedLine.unitId =
      rest.filterMap PreparedLine.unitId := by
    simp [named]
  constructor
  · rw [listed]
    exact later.once
  · rw [listed, ← kept]
    exact later.stocked
  · intro id
    rw [listed, ← kept]
    exact later.units id
  · intro key
    rw [later.stock, drawn, Table.find?_update, share_cons]
    split
    · next same =>
      rw [if_pos ⟨named, same⟩, same, Option.map_map]
      congr 1
      funext row
      exact takeFrom_takeFrom _ _ row
    · next other => rw [if_neg (fun all => other all.2), zero_add]
  · rw [List.forall_mem_cons]
    refine ⟨fun _ => ?_, later.unreserved⟩
    by_cases again : ∃ other ∈ rest, other.unitId = none ∧ other.productId = line.productId
    · obtain ⟨other, member, unnamed, product⟩ := again
      rw [← product]
      exact later.unreserved other member unnamed
    · refine ⟨takeFrom line.quantity item, ?_, free⟩
      rw [later.stock, share_absent _ _ _ _ (fun other member both => again ⟨other, member, both⟩),
        drawn, Table.find?_update, if_pos rfl, found]
      simp [takeFrom_zero]

theorem writeLines_taken (ctx : Ctx) (branchId saleId : Id) (items : Nat → Id) (index : Nat)
    (lines : List PreparedLine) (db db' : Db)
    (done : writeLines ctx branchId saleId items index lines db = .ok db') :
    Taken ctx.companyId branchId ctx.now lines db db' := by
  induction lines generalizing index db with
  | nil =>
    cases done
    refine ⟨List.nodup_nil, by simp, by simp, fun key => ?_, by simp⟩
    have untouched : share ctx.companyId branchId [] key = 0 := by simp [share, takenOf]
    rw [untouched]
    simp [funext takeFrom_zero]
  | cons line rest ih =>
    unfold writeLines at done
    obtain ⟨written, first, done⟩ := (except_bind_ok _ _ _).mp done
    have later := ih (index + 1) written done
    unfold writeLine at first
    obtain ⟨listed, inserted, first⟩ := (except_bind_ok _ _ _).mp first
    obtain ⟨saleItems, rfl⟩ := insertSaleItem_rows _ _ _ inserted
    split at first
    · next unitId named =>
      obtain ⟨unit, found, company, inStock, rfl⟩ := claimUnit_rows _ _ _ _ _ first
      exact .unit named found company inStock (by rfl) (by rfl) later
    · next named =>
      obtain ⟨item, found, free, rfl⟩ := takeStock_rows _ _ _ _ _ _ first
      exact .pieces named found free (by rfl) (by rfl) later

def paymentFor (companyId saleId paymentId : Id) (payment : PaymentInputDto)
    (account : Option ReceivingAccount) : Payment where
  id := paymentId
  companyId := companyId
  saleId := saleId
  method := payment.method
  amount := payment.amount.cents
  receivingAccountId := account.map ReceivingAccount.id
  accountLabelSnapshot := account.map ReceivingAccount.label

theorem writePayments_rows (companyId saleId : Id) (ids : Nat → Id) (index : Nat)
    (accounts : List (PaymentInputDto × Option ReceivingAccount)) (db db' : Db)
    (done : writePayments companyId saleId ids index accounts db = .ok db') :
    ∃ added, db'.payments.rows = db.payments.rows ++ added ∧
      added.map Payment.amount = accounts.map (fun payment => payment.1.amount.cents) ∧
      ∀ payment ∈ added, payment.saleId = saleId := by
  induction accounts generalizing index db with
  | nil =>
    cases done
    exact ⟨[], by simp⟩
  | cons payment rest ih =>
    obtain ⟨input, account⟩ := payment
    unfold writePayments at done
    obtain ⟨written, first, done⟩ := (except_bind_ok _ _ _).mp done
    obtain ⟨added, rows, amounts, own⟩ := ih _ _ done
    unfold writePayment at first
    split at first
    · cases first
    · split at first
      · cases first
      · next payments inserted =>
        cases first
        have here := (Table.insert?_some _ _ _ inserted).1
        refine ⟨paymentFor companyId saleId (ids index) input account :: added, ?_, ?_, ?_⟩
        · rw [rows, here, List.append_assoc]
          rfl
        · rw [List.map_cons, amounts]
          rfl
        · rw [List.forall_mem_cons]
          exact ⟨rfl, own⟩

theorem reconcilePayments_ok (amounts : List Amount) (total : Int) (paid : PaymentReconciliation)
    (done : reconcilePayments amounts total = .ok paid) :
    paid.amountPaid = (amounts.map Amount.cents).sum ∧ paid.amountPaid + paid.balanceDue = total ∧
      0 ≤ paid.balanceDue := by
  unfold reconcilePayments at done
  dsimp only at done
  split at done
  · cases done
  · next within =>
    cases done
    dsimp only
    refine ⟨rfl, ?_, ?_⟩ <;> omega

/-- The sale `dto` asks for, made in one step from `s` to `s'`, its lines read in `snapshot`. -/
structure Made (ctx : Ctx) (branchId : Id) (dto : CreateSaleDto) (snapshot s s' : Db)
    (sale : Sale) : Prop where
  found : ∀ line ∈ dto.lines, ∀ identifier, line.scanned = some identifier →
    (findSellable snapshot ctx.companyId identifier).isSome
  once : (namedUnits ctx.companyId snapshot dto.lines).Nodup
  stocked : ∀ id ∈ namedUnits ctx.companyId snapshot dto.lines, ∃ unit,
    s.units.find? id = some unit ∧ unit.companyId = ctx.companyId ∧ unit.status = .inStock
  sold : ∀ id, s'.units.find? id =
    if id ∈ namedUnits ctx.companyId snapshot dto.lines then
      (s.units.find? id).map (sell ctx.now)
    else s.units.find? id
  taken : ∀ companyId productId place, s'.stockItems.find? (companyId, productId, place) =
    (s.stockItems.find? (companyId, productId, place)).map (takeFrom
      (if companyId = ctx.companyId ∧ place = branchId then requested dto.lines productId else 0))
  unreserved : ∀ line ∈ dto.lines, ∀ productId, line.scanned = none →
    line.productId = some productId → ∃ item,
      s'.stockItems.find? (ctx.companyId, productId, branchId) = some item ∧
        item.reservedQuantity ≤ item.quantity
  bounded : Bounded s → Bounded s'
  stored : s.sales.find? sale.id = none ∧ s'.sales.find? sale.id = some sale
  accounts : sale.amountPaid + sale.balanceDue = sale.total ∧ 0 ≤ sale.balanceDue ∧
    sale.amountPaid = (dto.payments.map (fun payment => payment.amount.cents)).sum
  payments : ∃ added, s'.payments.rows = s.payments.rows ++ added ∧
    added.map Payment.amount = dto.payments.map (fun payment => payment.amount.cents) ∧
    ∀ payment ∈ added, payment.saleId = sale.id

theorem writeSale_made (ctx : Ctx) (has : Permission → Bool) (branchId userId : Id)
    (ids : SaleIds) (dto : CreateSaleDto) (snapshot db db' : Db) (draft : Draft) (sale : Sale)
    (kinds : ∀ line ∈ dto.lines, line.scanned.isSome ≠ line.productId.isSome)
    (drafted : draftSale ctx has branchId dto snapshot = .ok draft)
    (done : writeSale ctx branchId userId ids dto draft db = .ok (db', sale)) :
    Made ctx branchId dto snapshot db db' sale := by
  obtain ⟨prepared, -, reconciled, accountsEq⟩ :=
    draftSale_ok ctx has branchId dto snapshot draft drafted
  have read :=
    prepareLines_read ctx.companyId branchId snapshot dto.lines draft.lines kinds prepared
  obtain ⟨amountPaid, balance, nonneg⟩ := reconcilePayments_ok _ _ _ reconciled
  have bounded := (writeSale_ok ctx branchId userId ids dto draft db db' sale done).bounded
  unfold writeSale at done
  obtain ⟨⟨numbered, seq⟩, counted, done⟩ := (except_bind_ok _ _ _).mp done
  obtain ⟨opened, inserted, done⟩ := (except_bind_ok _ _ _).mp done
  obtain ⟨listed, written, done⟩ := (except_bind_ok _ _ _).mp done
  obtain ⟨paid, settled, done⟩ := (except_bind_ok _ _ _).mp done
  obtain ⟨charged, charge, done⟩ := (except_bind_ok _ _ _).mp done
  cases done
  have taken := writeLines_taken _ _ _ _ _ _ _ _ written
  obtain ⟨added, rows, amounts, own⟩ := writePayments_rows _ _ _ _ _ _ _ settled
  obtain ⟨counters, numberedEq⟩ := nextNumber_ok _ _ _ _ _ _ counted
  obtain ⟨sales, header, openedEq⟩ := insertSale_ok _ _ _ inserted
  obtain ⟨saleItems, units, stockItems, listedEq⟩ := (writeLines_ok _ _ _ _ _ _ _ _ written).frame
  obtain ⟨payments, paidEq⟩ := writePayments_ok _ _ _ _ _ _ _ settled
  obtain ⟨customers, chargedEq⟩ := chargeCustomer_ok _ _ _ _ _ charge
  have before : opened.units = db.units ∧ opened.stockItems = db.stockItems ∧
      listed.payments = db.payments ∧ numbered.sales = db.sales := by
    rw [listedEq, openedEq, numberedEq]
    exact ⟨rfl, rfl, rfl, rfl⟩
  have after : db'.units = listed.units ∧ db'.stockItems = listed.stockItems ∧
      db'.payments = paid.payments ∧ db'.sales = sales := by
    rw [chargedEq, paidEq, listedEq, openedEq]
    exact ⟨rfl, rfl, rfl, rfl⟩
  constructor
  · exact read.found
  · rw [← read.units]
    exact taken.once
  · rw [← read.units, ← before.1]
    exact taken.stocked
  · rw [← read.units, ← before.1, after.1]
    exact taken.units
  · intro companyId productId place
    rw [← read.quantities, ← before.2.1, after.2.1]
    exact taken.stock (companyId, productId, place)
  · intro line member productId scanned product
    obtain ⟨entry, inside, named, same⟩ := read.entries line member productId scanned product
    rw [← same, after.2.1]
    exact taken.unreserved entry inside named
  · exact bounded
  · rw [before.2.2.2] at header
    constructor
    · rw [Table.find?_none]
      exact (Table.insert?_some _ _ _ header).2
    · rw [after.2.2.2, Table.find?_insert _ _ _ header, if_pos rfl]
  · refine ⟨balance, nonneg, ?_⟩
    rw [List.map_map] at amountPaid
    exact amountPaid
  · refine ⟨added, ?_, ?_, own⟩
    · rw [after.2.2.1, rows, before.2.2.1]
    · rw [amounts, accountsEq, List.map_map]
      rfl

/-- How a sale comes out, of the stores before and after its own steps. -/
def Outcome (ctx : Ctx) (dto : CreateSaleDto) (steps : List (Db × Db)) :
    Except Refusal SaleResponse → Prop
  | .error _ => ∀ step ∈ steps, step.2 = step.1
  | .ok response =>
      (∃ key s sale, dto.clientUuid = some key ∧ steps = [(s, s)] ∧ sale ∈ s.sales.rows ∧
        sale.companyId = ctx.companyId ∧ sale.clientUuid = some key ∧
        response = toResponse sale) ∨
      ∃ branchId asked snapshot s s' sale, ctx.branchId = some branchId ∧
        steps = [(asked, asked), (snapshot, snapshot), (s, s')] ∧
        Made ctx branchId dto snapshot s s' sale ∧ response = toResponse sale

/-- A sale that fails has stored nothing, and one that succeeds is made in one step, or has been
made before under its key. -/
theorem createSale_whole (ctx : Ctx) (has : Permission → Bool) (ids : SaleIds)
    (dto : CreateSaleDto) : (createSale ctx has ids dto).Along (Outcome ctx dto) := by
  unfold createSale
  simp only [Prog.along_expect, Prog.along_read]
  refine ⟨fun branchId branch => ⟨fun userId _ => fun asked => ?_, by simp [Outcome]⟩,
    by simp [Outcome]⟩
  split
  · next sale replay =>
    obtain ⟨key, keyed, found⟩ := Option.bind_eq_some_iff.mp replay
    have matched := List.find?_some found
    rw [decide_eq_true_eq] at matched
    exact .inl ⟨key, asked, sale, keyed, rfl, List.mem_of_find?_eq_some found, matched.1,
      matched.2, rfl⟩
  · simp only [Prog.along_require, Prog.along_read, Prog.along_liftExcept, Prog.along_transact]
    refine ⟨fun kinds snapshot => ⟨fun draft drafted s => ⟨fun s' sale done => ?_, ?_⟩, ?_⟩, ?_⟩
    · rw [except_mapError_ok] at done
      exact .inr ⟨branchId, asked, snapshot, s, s', sale, branch, rfl,
        writeSale_made ctx has branchId userId ids dto snapshot s s' draft sale kinds drafted done,
        rfl⟩
    · simp [Outcome]
    · simp [Outcome]
    · simp [Outcome]

def atTill : Ctx where
  companyId := 10
  branchId := some 1
  userId := some 7
  now := 1000

def stocked : Db where
  products := ⟨[
    { id := 3
      companyId := 10
      brand := "Anker"
      model := "Charger"
      variant := none
      trackingType := .quantity
      defaultPrice := some 10000 },
    { id := 4
      companyId := 10
      brand := "Apple"
      model := "iPhone 12"
      variant := none
      trackingType := .imei
      defaultPrice := some 100000 }], by decide⟩
  units := ⟨[
    { id := 301
      companyId := 10
      productId := 4
      branchId := 1
      imeiPrimary := some "356938035643809"
      imeiSecondary := none
      serialNo := none
      cost := 60000
      status := .inStock
      dateSold := none }], List.nodup_singleton _⟩
  stockItems := ⟨[
    { companyId := 10
      productId := 3
      branchId := 1
      quantity := 5
      cost := 6000
      price := some 10000
      reservedQuantity := 1
      version := 0 }], List.nodup_singleton _⟩

def tillIds : SaleIds := ⟨900, fun index => 910 + index, fun index => 920 + index⟩

/-- The phone, and the chargers in two lines; part of it is paid. -/
def basket : CreateSaleDto where
  lines := [{ identifier := some "356938035643809" }, { productId := some 3, quantity := some 2 },
    { productId := some 3 }]
  payments := [{ method := .cash, amount := 130000 }]
  clientUuid := some 60

def soldBasket : Request SaleResponse := createSale atTill (fun _ => false) tillIds basket

def afterBasket : Db := (soldBasket.run stocked).1

theorem basket_trail : soldBasket.trail stocked =
    [(stocked, stocked), (stocked, stocked), (stocked, afterBasket)] := rfl

theorem basket_again : soldBasket.trail afterBasket = [(afterBasket, afterBasket)] := rfl

/-- The basket is made whole in one step; sent again, it is answered with the sale that is there. -/
theorem createSale_whole_basket :
    (∃ sale, Made atTill 1 basket stocked stocked afterBasket sale) ∧
      (afterBasket.units.find? 301).map StockUnit.status = some .sold ∧
      (afterBasket.stockItems.find? (10, 3, 1)).map StockItem.quantity = some 2 ∧
      ∃ sale ∈ afterBasket.sales.rows, sale.clientUuid = some 60 ∧
        (soldBasket.run afterBasket).2 = .ok (toResponse sale) := by
  have whole := createSale_whole atTill (fun _ => false) tillIds basket
  have first := Prog.along_trail _ soldBasket stocked whole
  have second := Prog.along_trail _ soldBasket afterBasket whole
  have answered : (soldBasket.run stocked).2.toOption.isSome = true := by decide +kernel
  have replayed : (soldBasket.run afterBasket).2.toOption.isSome = true := by decide +kernel
  rw [basket_trail] at first
  rw [basket_again] at second
  refine ⟨?_, by decide +kernel, by decide +kernel, ?_⟩
  · rcases result : (soldBasket.run stocked).2 with refusal | response
    · rw [result] at answered
      cases answered
    · rw [result] at first
      rcases first with ⟨key, s, sale, -, steps, -⟩ |
        ⟨branchId, asked, snapshot, s, s', sale, branch, steps, made, -⟩
      · cases steps
      · cases branch
        cases steps
        exact ⟨sale, made⟩
  · rcases result : (soldBasket.run afterBasket).2 with refusal | response
    · rw [result] at replayed
      cases replayed
    · rw [result] at second
      rcases second with ⟨key, s, sale, keyed, steps, stored, -, same, answer⟩ |
        ⟨branchId, asked, snapshot, s, s', sale, -, steps, -⟩
      · cases keyed
        cases steps
        exact ⟨sale, stored, same, congrArg _ answer⟩
      · cases steps

end ErpBackend.Sales
