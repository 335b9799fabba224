import ErpBackend.Analytics.Rollup
import ErpBackend.Foundation.Answers

/-!
# AnalyticsService.inventoryValue

`held-value.ts` and `in-transit-value.ts`: what a branch or the company owns, read off
the source tables. Phones and stock on the shelf, goods between two branches and
phones held after a return are three queries, each keyed on statuses of its own.
-/

namespace ErpBackend.Analytics

open Foundation

inductive HeldKind where
  | unit
  | stock
  deriving DecidableEq

structure HeldValueRow where
  kind : HeldKind
  productId : Id
  categoryId : Option Id
  trackingType : TrackingType
  unitsCount : Nat
  quantity : Int
  invValue : Int
  expRev : Int

def inBranch (branchId : Option Id) (own : Id) : Bool := branchId.all (fun branch => own = branch)

def heldUnit (companyId : Id) (branchId : Option Id) (unit : StockUnit) : Bool :=
  unit.companyId = companyId ∧ unit.status = .inStock ∧ inBranch branchId unit.branchId

def heldStock (companyId : Id) (branchId : Option Id) (item : StockItem) : Bool :=
  item.companyId = companyId ∧ 0 < item.quantity ∧ inBranch branchId item.branchId

def stockValue (item : StockItem) : Int := item.quantity * item.cost

section Held

variable (db : Db) (companyId : Id) (branchId : Option Id)

def unitsRow (product : Product) : Option HeldValueRow :=
  let units := db.units.filter (fun unit =>
    heldUnit companyId branchId unit ∧ unit.productId = product.id)
  if units = [] then none
  else some
    { kind := .unit
      productId := product.id
      categoryId := product.categoryId
      trackingType := product.trackingType
      unitsCount := units.length
      quantity := 0
      invValue := (units.map StockUnit.cost).sum
      expRev := (units.map (fun _ => product.defaultPrice.getD 0)).sum }

def stockRow (product : Product) : Option HeldValueRow :=
  let items := db.stockItems.filter (fun item =>
    heldStock companyId branchId item ∧ item.productId = product.id)
  if items = [] then none
  else some
    { kind := .stock
      productId := product.id
      categoryId := product.categoryId
      trackingType := product.trackingType
      unitsCount := 0
      quantity := (items.map StockItem.quantity).sum
      invValue := (items.map stockValue).sum
      expRev := (items.map (fun item =>
        item.quantity * (item.price.or product.defaultPrice).getD 0)).sum }

def unitsRows : List HeldValueRow := db.products.rows.filterMap (unitsRow db companyId branchId)

def stockRows : List HeldValueRow := db.products.rows.filterMap (stockRow db companyId branchId)

structure FaultyHeld where
  unitsCount : Nat
  inventoryValue : Int

def faultyUnit (unit : StockUnit) : Bool :=
  unit.companyId = companyId ∧ unit.status ∈ [UnitStatus.returned, .faulty] ∧
    inBranch branchId unit.branchId

def faultyHeldValue : FaultyHeld :=
  let units := db.units.filter (faultyUnit companyId branchId)
  ⟨units.length, (units.map StockUnit.cost).sum⟩

end Held

structure InTransitRow where
  fromBranchId : Id
  toBranchId : Id
  value : Int
  unitsCount : Nat
  quantity : Int

/-- A phone at its own cost, a quantity at the cost it was shipped at. -/
def lineValue (db : Db) (item : TransferItem) : Int :=
  match item.unitId with
  | some unitId => ((db.units.find? unitId).map StockUnit.cost).getD 0
  | none => item.quantity * item.shippedUnitCost.getD 0

def isTravelling (companyId : Id) (transfer : StockTransfer) : Bool :=
  transfer.companyId = companyId ∧ transfer.status = .inTransit

def route (transfer : StockTransfer) : Id × Id := (transfer.fromBranchId, transfer.toBranchId)

/-- `t JOIN ti`. -/
def travelling (db : Db) (companyId : Id) : List ((Id × Id) × TransferItem) :=
  db.transferItems.rows.filterMap (fun item =>
    ((db.stockTransfers.find? item.transferId).filter (isTravelling companyId)).map
      (fun transfer => (route transfer, item)))

def inTransitValue (db : Db) (companyId : Id) : List InTransitRow :=
  let lines := travelling db companyId
  (lines.map Prod.fst).dedup.map (fun pair =>
    let own := (lines.filter (fun line => line.1 = pair)).map Prod.snd
    { fromBranchId := pair.1
      toBranchId := pair.2
      value := (own.map (lineValue db)).sum
      unitsCount := (own.filter (fun item => item.unitId.isSome)).length
      quantity := ((own.filter (fun item => item.unitId.isNone)).map TransferItem.quantity).sum })

structure InTransitSummary where
  value : Int
  outbound : Int
  inbound : Int
  unitsCount : Nat
  quantity : Int

/-- Only what goes out is added: both ways would count every movement twice. -/
def summarizeInTransit (rows : List InTransitRow) (branchId : Option Id) : InTransitSummary :=
  let out := rows.filter (fun row => inBranch branchId row.fromBranchId)
  let inward := rows.filter (fun row => branchId.any (fun branch => row.toBranchId = branch))
  let outbound := (out.map InTransitRow.value).sum
  { value := outbound
    outbound
    inbound := (inward.map InTransitRow.value).sum
    unitsCount := (out.map InTransitRow.unitsCount).sum
    quantity := (out.map InTransitRow.quantity).sum }

structure InventoryTotals where
  inventoryValue : Int
  inTransitValue : Int
  totalStockValue : Int
  sellableInventoryValue : Int
  faultyHeldValue : Int
  faultyHeldUnits : Nat
  totalOwnedInventoryValue : Int
  inTransit : InTransitSummary
  expectedRevenue : Int
  expectedProfit : Int
  productCount : Nat
  unitsCount : Nat
  quantity : Int

structure TrackingShare where
  trackingType : TrackingType
  inventoryValue : Int
  expectedProfit : Int

structure CategoryShare where
  categoryId : Option Id
  name : Option String
  inventoryValue : Int
  expectedProfit : Int

structure InventoryValue where
  totals : InventoryTotals
  byTrackingType : List TrackingShare
  byCategory : List CategoryShare

def expectedProfit (row : HeldValueRow) : Int := row.expRev - row.invValue

def totalsFrom (faulty : FaultyHeld) (rows : List HeldValueRow) (transit : InTransitSummary) :
    InventoryTotals :=
  let inventoryValue := (rows.map HeldValueRow.invValue).sum
  { inventoryValue
    inTransitValue := transit.value
    totalStockValue := inventoryValue + transit.value
    sellableInventoryValue := inventoryValue
    faultyHeldValue := faulty.inventoryValue
    faultyHeldUnits := faulty.unitsCount
    totalOwnedInventoryValue := inventoryValue + transit.value + faulty.inventoryValue
    inTransit := transit
    expectedRevenue := (rows.map HeldValueRow.expRev).sum
    expectedProfit := (rows.map expectedProfit).sum
    productCount := rows.length
    unitsCount := (rows.map HeldValueRow.unitsCount).sum
    quantity := (rows.map HeldValueRow.quantity).sum }

def trackingShare (rows : List HeldValueRow) (trackingType : TrackingType) : TrackingShare :=
  let own := rows.filter (fun row => row.trackingType = trackingType)
  ⟨trackingType, (own.map HeldValueRow.invValue).sum, (own.map expectedProfit).sum⟩

def categoryShare (names : Id → Option String) (rows : List HeldValueRow)
    (categoryId : Option Id) : CategoryShare :=
  let own := rows.filter (fun row => row.categoryId = categoryId)
  ⟨categoryId, categoryId.bind names, (own.map HeldValueRow.invValue).sum,
    (own.map expectedProfit).sum⟩

def categoryNames (db : Db) (companyId id : Id) : Option String :=
  ((db.productCategories.find? id).filter (fun category => category.companyId = companyId)).map
    ProductCategory.name

def reportFrom (branchId : Option Id) (faulty : FaultyHeld) (rows : List HeldValueRow)
    (names : Id → Option String) (transit : List InTransitRow) : InventoryValue where
  totals := totalsFrom faulty rows (summarizeInTransit transit branchId)
  byTrackingType := (rows.map HeldValueRow.trackingType).eraseDups.map (trackingShare rows)
  byCategory := (rows.map HeldValueRow.categoryId).eraseDups.map (categoryShare names rows)

/-- Two queries at once: either may be the first. -/
def heldValueRows {M : Type} (m : M) (stockFirst : Bool) (companyId : Id) (branchId : Option Id) :
    Prog Db M Refusal (List HeldValueRow) :=
  if stockFirst then do
    let stock ← .read m (fun db => stockRows db companyId branchId)
    let units ← .read m (fun db => unitsRows db companyId branchId)
    pure (units ++ stock)
  else do
    let units ← .read m (fun db => unitsRows db companyId branchId)
    let stock ← .read m (fun db => stockRows db companyId branchId)
    pure (units ++ stock)

def inventoryValue {M : Type} (m : M) (stockFirst : Bool) (ctx : Ctx) :
    Prog Db M Refusal InventoryValue := do
  let faulty ← .read m (fun db => faultyHeldValue db ctx.companyId ctx.branchId)
  let rows ← heldValueRows m stockFirst ctx.companyId ctx.branchId
  let names ← .read m (fun db => categoryNames db ctx.companyId)
  let transit ← .read m (fun db => inTransitValue db ctx.companyId)
  pure (reportFrom ctx.branchId faulty rows names transit)

/-- The totals of the report, when nobody writes between the queries. -/
def inventoryTotals (db : Db) (companyId : Id) (branchId : Option Id) : InventoryTotals :=
  totalsFrom (faultyHeldValue db companyId branchId)
    (unitsRows db companyId branchId ++ stockRows db companyId branchId)
    (summarizeInTransit (inTransitValue db companyId) branchId)

section Groups

variable {α κ M : Type} [DecidableEq κ] [AddCommMonoid M] (keys : List κ)
  (distinct : keys.Nodup)

include distinct

theorem sum_single (k : κ) (known : k ∈ keys) (value : M) :
    (keys.map (fun other => if k = other then value else 0)).sum = value := by
  rw [← List.sum_toFinset _ distinct, Finset.sum_ite_eq, if_pos (List.mem_toFinset.mpr known)]

theorem sum_groups (key : α → κ) (g : α → M) (l : List α) (covered : ∀ a ∈ l, key a ∈ keys) :
    (keys.map (fun k => ((l.filter (fun a => key a = k)).map g).sum)).sum = (l.map g).sum := by
  induction l with
  | nil => simp
  | cons head tail ih =>
      have rest := ih (fun a member => covered a (List.mem_cons_of_mem _ member))
      have own := sum_single keys distinct (key head) (covered head (by simp)) (g head)
      have split : ∀ k, (((head :: tail).filter (fun a => key a = k)).map g).sum =
          (if key head = k then g head else 0) +
            ((tail.filter (fun a => key a = k)).map g).sum := by
        intro k
        by_cases same : key head = k
        · simp [same]
        · simp [same]
      simp only [split, List.sum_map_add, own, rest, List.map_cons, List.sum_cons]

end Groups

structure Catalogued (db : Db) : Prop where
  units : ∀ unit ∈ db.units.rows, (db.products.find? unit.productId).isSome
  stock : ∀ item ∈ db.stockItems.rows, (db.products.find? item.productId).isSome

theorem rows_sum (products : Table Product Product.id) (row : Product → Option HeldValueRow)
    (value : HeldValueRow → Int) : ((products.rows.filterMap row).map value).sum =
      products.total (fun product => ((row product).map value).getD 0) := by
  unfold Table.total
  induction products.rows with
  | nil => rfl
  | cons product rest ih =>
      cases own : row product with
      | none => simp [own, ih]
      | some counted => simp [own, ih]

theorem sum_by_product {α κ : Type} [DecidableEq κ] {key : α → κ} (t : Table α key)
    (products : Table Product Product.id) (productOf : α → Id) (counts : α → Bool) (g : α → Int)
    (known : ∀ a ∈ t.rows, (products.find? (productOf a)).isSome) :
    products.total (fun product =>
      ((t.filter (fun a => counts a ∧ productOf a = product.id)).map g).sum) =
        t.total (fun a => if counts a then g a else 0) := by
  have grouped := t.total_group products productOf (fun _ => true)
    (fun a => if counts a then g a else 0)
  simp only [if_true] at grouped
  calc products.total (fun product =>
        ((t.filter (fun a => counts a ∧ productOf a = product.id)).map g).sum)
      = products.total (fun product => t.total (fun a =>
          if productOf a = product.id then (if counts a then g a else 0) else 0)) := by
        apply Table.total_congr
        intro product _
        rw [Table.sum_filter]
        apply Table.total_congr
        intro a _
        by_cases same : productOf a = product.id
        · simp [same]
        · simp [same]
    _ = _ := grouped.symm
    _ = t.total (fun a => if counts a then g a else 0) := by
        apply Table.total_congr
        intro a member
        obtain ⟨product, found⟩ := Option.isSome_iff_exists.mp (known a member)
        rw [found, Option.any_some, if_pos rfl]

section Totals

variable (db : Db) (companyId : Id)

variable (branchId : Option Id)

theorem unitsRow_value (product : Product) :
    ((unitsRow db companyId branchId product).map HeldValueRow.invValue).getD 0 =
      ((db.units.filter (fun unit => heldUnit companyId branchId unit ∧
        unit.productId = product.id)).map StockUnit.cost).sum := by
  unfold unitsRow
  dsimp only
  split
  · next empty =>
    rw [empty]
    rfl
  · rfl

theorem stockRow_value (product : Product) :
    ((stockRow db companyId branchId product).map HeldValueRow.invValue).getD 0 =
      ((db.stockItems.filter (fun item => heldStock companyId branchId item ∧
        item.productId = product.id)).map stockValue).sum := by
  unfold stockRow
  dsimp only
  split
  · next empty =>
    rw [empty]
    rfl
  · rfl

theorem held_sum (catalogued : Catalogued db) :
    ((unitsRows db companyId branchId ++ stockRows db companyId branchId).map
      HeldValueRow.invValue).sum =
      db.units.total (fun unit => if heldUnit companyId branchId unit then unit.cost else 0) +
        db.stockItems.total (fun item =>
          if heldStock companyId branchId item then stockValue item else 0) := by
  unfold unitsRows stockRows
  rw [List.map_append, List.sum_append, rows_sum, rows_sum,
    ← sum_by_product db.units db.products StockUnit.productId _ _ catalogued.units,
    ← sum_by_product db.stockItems db.products StockItem.productId _ _ catalogued.stock]
  simp only [unitsRow_value, stockRow_value]

theorem faulty_sum : (faultyHeldValue db companyId branchId).inventoryValue =
    db.units.total (fun unit => if faultyUnit companyId branchId unit then unit.cost else 0) :=
  Table.sum_filter db.units _ _

def onTheRoad (item : TransferItem) : Bool :=
  (db.stockTransfers.find? item.transferId).any (isTravelling companyId)

theorem travelling_sum : ((travelling db companyId).map (fun line => lineValue db line.2)).sum =
    db.transferItems.total (fun item =>
      if onTheRoad db companyId item then lineValue db item else 0) := by
  unfold travelling Table.total onTheRoad
  induction db.transferItems.rows with
  | nil => rfl
  | cons item rest ih =>
      rw [List.filterMap_cons, List.map_cons, List.sum_cons, ← ih]
      cases found : db.stockTransfers.find? item.transferId with
      | none => simp
      | some transfer =>
          cases passed : isTravelling companyId transfer with
          | true => simp [Option.filter_some, passed]
          | false => simp [Option.filter_some, passed]

theorem transit_sum : (summarizeInTransit (inTransitValue db companyId) none).value =
    db.transferItems.total (fun item =>
      if onTheRoad db companyId item then lineValue db item else 0) := by
  have everywhere : ∀ rows : List InTransitRow,
      rows.filter (fun row => inBranch none row.fromBranchId) = rows := fun rows =>
    List.filter_eq_self.mpr (fun _ _ => rfl)
  rw [← travelling_sum, ← sum_groups ((travelling db companyId).map Prod.fst).dedup
    (List.nodup_dedup _) Prod.fst (fun line => lineValue db line.2) (travelling db companyId)
    (fun line member => List.mem_dedup.mpr (List.mem_map_of_mem member))]
  unfold summarizeInTransit inTransitValue
  simp only [everywhere, List.map_map]
  rfl

theorem totalStock_sum (catalogued : Catalogued db) :
    (inventoryTotals db companyId none).totalStockValue =
      db.units.total (fun unit => if heldUnit companyId none unit then unit.cost else 0) +
        db.stockItems.total (fun item =>
          if heldStock companyId none item then stockValue item else 0) +
        db.transferItems.total (fun item =>
          if onTheRoad db companyId item then lineValue db item else 0) := by
  rw [← held_sum db companyId none catalogued, ← transit_sum]
  rfl

theorem totalOwned_sum :
    (inventoryTotals db companyId branchId).totalOwnedInventoryValue =
      (inventoryTotals db companyId branchId).totalStockValue +
        db.units.total (fun unit =>
          if faultyUnit companyId branchId unit then unit.cost else 0) := by
  rw [← faulty_sum]
  rfl

end Totals

/-- The report is of one read of the rows: what it splits it accounts for. -/
structure AddsUp (report : InventoryValue) : Prop where
  trackingValue : (report.byTrackingType.map TrackingShare.inventoryValue).sum =
    report.totals.inventoryValue
  trackingProfit : (report.byTrackingType.map TrackingShare.expectedProfit).sum =
    report.totals.expectedProfit
  categoryValue : (report.byCategory.map CategoryShare.inventoryValue).sum =
    report.totals.inventoryValue
  categoryProfit : (report.byCategory.map CategoryShare.expectedProfit).sum =
    report.totals.expectedProfit
  profit : report.totals.expectedProfit =
    report.totals.expectedRevenue - report.totals.inventoryValue
  distinct : (report.byTrackingType.map TrackingShare.trackingType).Nodup ∧
    (report.byCategory.map CategoryShare.categoryId).Nodup

theorem sum_shares {κ σ : Type} [BEq κ] [LawfulBEq κ] [DecidableEq κ] (rows : List HeldValueRow)
    (key : HeldValueRow → κ) (g : HeldValueRow → Int) (share : κ → σ) (part : σ → Int)
    (own : ∀ k, part (share k) = ((rows.filter (fun row => key row = k)).map g).sum) :
    (((rows.map key).eraseDups.map share).map part).sum = (rows.map g).sum := by
  simp only [List.map_map, Function.comp_def, own]
  exact sum_groups _ (nodup_eraseDups _) key g rows (fun _ member =>
    List.mem_eraseDups.mpr (List.mem_map_of_mem member))

theorem reportFrom_adds_up (branchId : Option Id) (faulty : FaultyHeld) (rows : List HeldValueRow)
    (names : Id → Option String) (transit : List InTransitRow) :
    AddsUp (reportFrom branchId faulty rows names transit) := by
  constructor
  · exact sum_shares _ _ _ _ _ (fun _ => rfl)
  · exact sum_shares _ _ _ _ _ (fun _ => rfl)
  · exact sum_shares _ _ _ _ _ (fun _ => rfl)
  · exact sum_shares _ _ _ _ _ (fun _ => rfl)
  · exact sum_map_sub _ _ _
  · constructor
    · simpa [Function.comp_def, trackingShare, reportFrom] using nodup_eraseDups _
    · simpa [Function.comp_def, categoryShare, reportFrom] using nodup_eraseDups _

/-- Whatever is written between its queries, the report adds up. -/
theorem inventoryValue_adds_up {M : Type} (m : M) (stockFirst : Bool) (ctx : Ctx) :
    (inventoryValue m stockFirst ctx).Answers (fun _ => True) (fun answer =>
      ∃ report, answer = .ok report ∧ AddsUp report) := by
  cases stockFirst with
  | true =>
    intro faulty _ stock _ units _ named _ moving _
    exact ⟨_, rfl, reportFrom_adds_up _ _ _ _ _⟩
  | false =>
    intro faulty _ units _ stock _ named _ moving _
    exact ⟨_, rfl, reportFrom_adds_up _ _ _ _ _⟩

end ErpBackend.Analytics
