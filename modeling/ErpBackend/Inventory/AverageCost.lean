import ErpBackend.Foundation.WeightedMean
import ErpBackend.Inventory.Stock

/-!
# The average cost

`receiveQuantityAtCost` with its division left exact: amounts are rationals, and a row
carries the `CHECK`s of its table. Everything a branch ever received of a product ends in
one mean, whatever order it arrived in.
-/

namespace ErpBackend.Inventory.Exact

open Foundation

/-- `stock_items`, unique on company, product and branch. -/
structure StockItem where
  companyId : Id
  productId : Id
  branchId : Id
  quantity : Nat
  cost : Rat
  price : Option Rat
  reservedQuantity : Nat
  version : Nat
  reservedWithin : reservedQuantity ≤ quantity
  deriving DecidableEq

def StockItem.key (item : StockItem) : Id × Id × Id :=
  (item.companyId, item.productId, item.branchId)

abbrev StockItems := Table StockItem StockItem.key

structure ReceiveQuantityArgs where
  companyId : Id
  productId : Id
  branchId : Id
  received : Catalog.JsNumber
  unitCost : Rat
  priceIfNew : Option Rat

def ReceiveQuantityArgs.key (args : ReceiveQuantityArgs) : Id × Id × Id :=
  (args.companyId, args.productId, args.branchId)

/-- The row of `VALUES`. -/
def incoming (args : ReceiveQuantityArgs) : StockItem where
  companyId := args.companyId
  productId := args.productId
  branchId := args.branchId
  quantity := args.received.value.num.toNat
  cost := args.unitCost
  price := args.priceIfNew
  reservedQuantity := 0
  version := 0
  reservedWithin := Nat.zero_le _

/-- `cost = …`, the first assignment of the update. -/
def assignCost (incoming item : StockItem) : StockItem :=
  { item with
    cost := (item.quantity * item.cost + incoming.quantity * incoming.cost) /
      (item.quantity + incoming.quantity) }

/-- `quantity = …`, the second. -/
def assignQuantity (incoming item : StockItem) : StockItem :=
  { item with
    quantity := item.quantity + incoming.quantity
    reservedWithin := Nat.le_add_right_of_le item.reservedWithin }

/-- MySQL assigns from left to right. -/
def onDuplicateKeyUpdate (incoming item : StockItem) : StockItem :=
  assignQuantity incoming (assignCost incoming item)

theorem onDuplicateKeyUpdate_key (incoming item : StockItem) :
    (onDuplicateKeyUpdate incoming item).key = item.key := rfl

def receiveQuantityAtCost (args : ReceiveQuantityArgs) (items : StockItems) :
    Except String StockItems :=
  if args.received.value.den ≠ 1 ∨ args.received.value ≤ 0 then
    .error ("receiveQuantityAtCost: received must be a positive integer, got " ++
      args.received.printed)
  else .ok (match items.insert? (incoming args) with
    | some inserted => inserted
    | none => items.update args.key (onDuplicateKeyUpdate (incoming args))
        (onDuplicateKeyUpdate_key (incoming args)))

/-- A receipt the function takes: a positive whole number of units at no negative cost. -/
structure Receipt where
  received : Catalog.JsNumber
  unitCost : Rat
  priceIfNew : Option Rat
  whole : received.value.den = 1
  positive : 0 < received.value
  costNonneg : 0 ≤ unitCost

def Receipt.args (key : Id × Id × Id) (receipt : Receipt) : ReceiveQuantityArgs :=
  ⟨key.1, key.2.1, key.2.2, receipt.received, receipt.unitCost, receipt.priceIfNew⟩

def Receipt.quantity (receipt : Receipt) : Nat := receipt.received.value.num.toNat

def receiveAll (key : Id × Id × Id) (receipts : List Receipt) (items : StockItems) :
    Except String StockItems :=
  receipts.foldlM (fun items receipt => receiveQuantityAtCost (receipt.args key) items) items

section Receive

variable (key : Id × Id × Id) (receipt : Receipt)

@[simp]
theorem args_key : (receipt.args key).key = key := rfl

@[simp]
theorem incoming_key : (incoming (receipt.args key)).key = key := rfl

@[simp]
theorem incoming_quantity : (incoming (receipt.args key)).quantity = receipt.quantity := rfl

@[simp]
theorem incoming_cost : (incoming (receipt.args key)).cost = receipt.unitCost := rfl

/-- A whole positive number is the natural number written into the column. -/
@[simp]
theorem quantity_cast : (receipt.quantity : Rat) = receipt.received.value := by
  have numerator : 0 ≤ receipt.received.value.num := (Rat.num_pos.mpr receipt.positive).le
  calc (receipt.quantity : Rat) = ((receipt.received.value.num.toNat : Int) : Rat) := rfl
    _ = receipt.received.value.num := by rw [Int.toNat_of_nonneg numerator]
    _ = receipt.received.value := Rat.den_eq_one_iff _ |>.mp receipt.whole

/-- The row after a receipt: the new one, or the old one updated. -/
def arrived (row : Option StockItem) : StockItem :=
  row.elim (incoming (receipt.args key)) (onDuplicateKeyUpdate (incoming (receipt.args key)))

theorem receive_find (items : StockItems) :
    ∃ items', receiveQuantityAtCost (receipt.args key) items = .ok items' ∧
      ∀ other, items'.find? other =
        if other = key then some (arrived key receipt (items.find? key))
        else items.find? other := by
  have taken : ¬ ((receipt.args key).received.value.den ≠ 1 ∨
      (receipt.args key).received.value ≤ 0) := by
    rintro (fraction | negative)
    · exact fraction receipt.whole
    · exact absurd receipt.positive negative.not_gt
  rw [receiveQuantityAtCost, if_neg taken]
  refine ⟨_, rfl, fun other => ?_⟩
  cases found : items.find? key with
  | none =>
    have fresh : (incoming (receipt.args key)).key ∉ items.rows.map StockItem.key := by
      intro present
      obtain ⟨row, member, keyed⟩ := List.mem_map.mp present
      exact (items.find?_none key).mp found row member keyed
    obtain ⟨inserted, done⟩ := items.insert?_of_fresh _ fresh
    rw [done]
    exact items.find?_insert inserted _ done other
  | some row =>
    have duplicate : items.insert? (incoming (receipt.args key)) = none := by
      cases done : items.insert? (incoming (receipt.args key)) with
      | none => rfl
      | some inserted =>
        obtain ⟨member, keyed⟩ := (items.find?_some key row).mp found
        exact absurd keyed ((items.insert?_some inserted _ done).2 row member)
    rw [duplicate]
    exact (items.find?_update _ _ _ other).trans (by rw [args_key, found]; rfl)

end Receive

def Receipt.lot (receipt : Receipt) : Lot Rat :=
  ⟨receipt.received.value, receipt.unitCost, receipt.positive⟩

def openingLots (row : Option StockItem) : List (Lot Rat) :=
  row.elim [] (fun item =>
    if held : 0 < item.quantity then [⟨item.quantity, item.cost, Nat.cast_pos.mpr held⟩] else [])

def heldBy (row : Option StockItem) : Nat := row.elim 0 StockItem.quantity

def worthOf (row : Option StockItem) : Rat := row.elim 0 (fun item => item.quantity * item.cost)

@[simp]
theorem heldBy_none : heldBy none = 0 := rfl

@[simp]
theorem heldBy_some (item : StockItem) : heldBy (some item) = item.quantity := rfl

@[simp]
theorem worthOf_none : worthOf none = 0 := rfl

@[simp]
theorem worthOf_some (item : StockItem) : worthOf (some item) = item.quantity * item.cost := rfl

structure Pools (lots : List (Lot Rat)) (row : Option StockItem) : Prop where
  quantity : (heldBy row : Rat) = Lot.totalWeight lots
  worth : worthOf row = Lot.worth lots

theorem Pools.opening (row : Option StockItem) : Pools (openingLots row) row := by
  cases row with
  | none => exact ⟨Nat.cast_zero, rfl⟩
  | some item =>
    by_cases held : 0 < item.quantity
    · constructor <;> simp [openingLots, held]
    · have none : item.quantity = 0 := by omega
      constructor <;> simp [openingLots, none]

structure Kept (before : Option StockItem) (item : StockItem) : Prop where
  reserved : item.reservedQuantity = before.elim 0 StockItem.reservedQuantity
  price : ∀ row ∈ before, item.price = row.price

section Run

variable (key : Id × Id × Id)

theorem Pools.arrived {lots : List (Lot Rat)} {row : Option StockItem} (pools : Pools lots row)
    (receipt : Receipt) :
    Pools (lots ++ [receipt.lot]) (some (arrived key receipt row)) ∧
      (arrived key receipt row).cost = Lot.mean (lots ++ [receipt.lot]) := by
  have quantity := pools.quantity
  have worth := pools.worth
  have weight : 0 ≤ Lot.totalWeight lots := Lot.totalWeight_nonneg lots
  have positive := receipt.positive
  have cost : (Exact.arrived key receipt row).cost = Lot.mean (lots ++ [receipt.lot]) := by
    rw [Lot.mean_concat, Lot.totalWeight_mul_mean, ← quantity, ← worth]
    cases row with
    | none => simp [Exact.arrived, Receipt.lot, positive.ne']
    | some item => simp [Exact.arrived, onDuplicateKeyUpdate, assignQuantity, assignCost,
        Receipt.lot]
  have held : ((Exact.arrived key receipt row).quantity : Rat) =
      Lot.totalWeight (lots ++ [receipt.lot]) := by
    rw [Lot.totalWeight_append, ← quantity]
    cases row with
    | none => simp [Exact.arrived, Receipt.lot]
    | some item => simp [Exact.arrived, onDuplicateKeyUpdate, assignQuantity, assignCost,
        Receipt.lot]
  refine ⟨⟨held, ?_⟩, cost⟩
  rw [worthOf_some, held, cost, Lot.totalWeight_mul_mean]

theorem Kept.arrived (receipt : Receipt) (row : Option StockItem) :
    Kept row (arrived key receipt row) := by
  cases row with
  | none => exact ⟨rfl, by simp⟩
  | some item => exact ⟨rfl, by rintro row ⟨⟩; rfl⟩

theorem Kept.trans {before : Option StockItem} {item item' : StockItem} (first : Kept before item)
    (second : Kept (some item) item') : Kept before item' where
  reserved := second.reserved.trans first.reserved
  price row member := (second.price item rfl).trans (first.price row member)

theorem receiveAll_pools (first : Receipt) (rest : List Receipt) (items : StockItems)
    (lots : List (Lot Rat)) (pools : Pools lots (items.find? key)) :
    ∃ items' item, receiveAll key (first :: rest) items = .ok items' ∧
      items'.find? key = some item ∧
      Pools (lots ++ (first :: rest).map Receipt.lot) (some item) ∧
      item.cost = Lot.mean (lots ++ (first :: rest).map Receipt.lot) ∧
      Kept (items.find? key) item ∧ ∀ other ≠ key, items'.find? other = items.find? other := by
  induction rest generalizing first items lots with
  | nil =>
    obtain ⟨items', done, finds⟩ := receive_find key first items
    have arrives := pools.arrived key first
    refine ⟨items', arrived key first (items.find? key), ?_, by simp [finds], arrives.1, arrives.2,
      Kept.arrived key first _, fun other apart => by simp [finds, apart]⟩
    simp [receiveAll, done]
  | cons second rest ih =>
    obtain ⟨between, done, finds⟩ := receive_find key first items
    have here : between.find? key = some (arrived key first (items.find? key)) := by simp [finds]
    have arrives := pools.arrived key first
    rw [← here] at arrives
    obtain ⟨items', item, run, found, pooled, cost, kept, others⟩ :=
      ih second between (lots ++ [first.lot]) arrives.1
    rw [here] at kept
    refine ⟨items', item, ?_, found, by simpa using pooled, by simpa using cost,
      (Kept.arrived key first _).trans kept, fun other apart => ?_⟩
    · rw [receiveAll, List.foldlM_cons, done]
      exact run
    · rw [others other apart, finds, if_neg apart]

end Run

/-- The units of a sequence of receipts, and what was paid for them. -/
def totalReceived (receipts : List Receipt) : Nat := (receipts.map Receipt.quantity).sum

def totalPaid (receipts : List Receipt) : Rat :=
  (receipts.map (fun receipt => receipt.received.value * receipt.unitCost)).sum

theorem worth_lots (receipts : List Receipt) :
    Lot.worth (receipts.map Receipt.lot) = totalPaid receipts := by
  rw [Lot.worth, totalPaid, List.map_map]
  rfl

theorem weight_lots (receipts : List Receipt) :
    Lot.totalWeight (receipts.map Receipt.lot) = totalReceived receipts := by
  induction receipts with
  | nil => simp [totalReceived]
  | cons receipt rest ih =>
    rw [List.map_cons, Lot.totalWeight_cons, ih, totalReceived, totalReceived, List.map_cons,
      List.sum_cons, Nat.cast_add, quantity_cast]
    rfl

structure Averaged (before : Option StockItem) (receipts : List Receipt) (item : StockItem) :
    Prop extends Kept before item where
  quantity : item.quantity = heldBy before + totalReceived receipts
  cost : item.cost =
    (worthOf before + totalPaid receipts) / (heldBy before + totalReceived receipts)
  /-- Where nothing was there before, the units and the costs are those received. -/
  fresh : heldBy before = 0 →
    item.quantity = totalReceived receipts ∧
      item.cost = totalPaid receipts / totalReceived receipts ∧
      ∃ least ∈ receipts, ∃ greatest ∈ receipts,
        (∀ receipt ∈ receipts,
          least.unitCost ≤ receipt.unitCost ∧ receipt.unitCost ≤ greatest.unitCost) ∧
        least.unitCost ≤ item.cost ∧ item.cost ≤ greatest.unitCost

theorem openingLots_empty (before : Option StockItem) (none : heldBy before = 0) :
    openingLots before = [] := by
  cases before with
  | none => rfl
  | some row =>
    rw [heldBy_some] at none
    simp [openingLots, none]

theorem Averaged.of_pools {before : Option StockItem} {first : Receipt} {rest : List Receipt}
    {item : StockItem} (kept : Kept before item)
    (pools : Pools (openingLots before ++ (first :: rest).map Receipt.lot) (some item))
    (cost : item.cost = Lot.mean (openingLots before ++ (first :: rest).map Receipt.lot)) :
    Averaged before (first :: rest) item := by
  have opening := Pools.opening before
  have quantity : (item.quantity : Rat) = heldBy before + totalReceived (first :: rest) := by
    rw [opening.quantity, ← weight_lots, ← Lot.totalWeight_append]
    exact pools.quantity
  have held : item.quantity = heldBy before + totalReceived (first :: rest) := by
    exact_mod_cast quantity
  have averaged : item.cost = (worthOf before + totalPaid (first :: rest)) /
      (heldBy before + totalReceived (first :: rest)) := by
    rw [cost, Lot.mean, Lot.worth_append, Lot.totalWeight_append, worth_lots, weight_lots,
      opening.quantity, opening.worth]
  refine ⟨kept, held, averaged, fun none => ?_⟩
  have lots := openingLots_empty before none
  have worth := opening.worth
  rw [lots, Lot.worth_nil] at worth
  rw [none, worth, Nat.cast_zero, zero_add, zero_add] at averaged
  rw [lots, List.nil_append] at cost
  have between := Lot.mean_between ((first :: rest).map Receipt.lot) (by simp)
  rw [← cost] at between
  obtain ⟨least, low, greatest, high, bounds, below, above⟩ := between
  obtain ⟨cheapest, isLow, rfl⟩ := List.mem_map.mp low
  obtain ⟨dearest, isHigh, rfl⟩ := List.mem_map.mp high
  exact ⟨by rw [held, none, Nat.zero_add], averaged, cheapest, isLow, dearest, isHigh,
    fun receipt member => bounds receipt.lot (List.mem_map_of_mem member), below, above⟩

/-- Everything received ends in one mean, in whatever order it came; the promise and the
price of a row that was there stay as they were. -/
theorem receipts_average (key : Id × Id × Id) (items : StockItems) (first : Receipt)
    (rest : List Receipt) :
    ∃ items' item, receiveAll key (first :: rest) items = .ok items' ∧
      items'.find? key = some item ∧ Averaged (items.find? key) (first :: rest) item ∧
      (∀ other ≠ key, items'.find? other = items.find? other) ∧
      ∀ receipts, receipts.Perm (first :: rest) →
        ∃ items'' item'', receiveAll key receipts items = .ok items'' ∧
          items''.find? key = some item'' ∧ item''.quantity = item.quantity ∧
          item''.cost = item.cost := by
  have opening := Pools.opening (items.find? key)
  obtain ⟨items', item, run, found, pools, cost, kept, others⟩ :=
    receiveAll_pools key first rest items _ opening
  refine ⟨items', item, run, found, .of_pools kept pools cost, others, fun receipts same => ?_⟩
  cases receipts with
  | nil => exact absurd same.length_eq (by simp)
  | cons first' rest' =>
    obtain ⟨items'', item'', run', found', pools', cost', -, -⟩ :=
      receiveAll_pools key first' rest' items _ opening
    have lots := (same.map Receipt.lot).append_left (openingLots (items.find? key))
    refine ⟨items'', item'', run', found', ?_, by rw [cost', cost, Lot.mean_perm lots]⟩
    have weights := pools'.quantity.trans (Lot.totalWeight_perm lots)
    exact Nat.cast_injective (weights.trans pools.quantity.symm)

theorem weightedCost_round (quantity cost received unitCost : Int)
    (some : 0 < quantity + received) :
    weightedCost quantity cost received unitCost =
      round ((quantity * cost + received * unitCost : Rat) / (quantity + received)) := by
  have positive : (0 : Rat) < quantity + received := by exact_mod_cast some
  have half : ((2 * (quantity * cost + received * unitCost) + (quantity + received) : Int) : Rat) /
      ((2 * (quantity + received) : Int) : Rat) =
      (quantity * cost + received * unitCost : Rat) / (quantity + received) + 1 / 2 := by
    push_cast
    field_simp
  obtain ⟨divisor, twice⟩ := Int.eq_ofNat_of_zero_le (show 0 ≤ 2 * (quantity + received) by omega)
  rw [weightedCost, round_eq, ← half, twice]
  exact (Rat.floor_intCast_div_natCast _ divisor).symm

end ErpBackend.Inventory.Exact
