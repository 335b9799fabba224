import ErpBackend.Imports.Effects

/-!
# Quantity stock coming in

Purchases, quick add and transfer receipts average the cost of what arrives
into the row. An import adds to the quantity and leaves the cost. Both are
stated here for any rounding of the quotient: the column rounds to cents, exact
arithmetic does not round.
-/

namespace ErpBackend.Inventory

open Foundation

structure Shelf where
  quantity : Int
  cost : ℚ
  nonneg : 0 ≤ quantity

def Shelf.value (shelf : Shelf) : ℚ := shelf.quantity * shelf.cost

def valueOf (row : Option Shelf) : ℚ := (row.map Shelf.value).getD 0

inductive Inflow where
  /-- `receiveQuantityAtCost`: purchase receiving, quick add, transfer receipt. -/
  | receive (received : Count) (unitCost : ℚ)
  /-- A row of a quantity sheet. -/
  | bringIn (quantity : Nat) (cost : ℚ)

def Inflow.quantity : Inflow → Int
  | .receive received _ => received.value
  | .bringIn quantity _ => quantity

def Inflow.unitCost : Inflow → ℚ
  | .receive _ unitCost => unitCost
  | .bringIn _ cost => cost

theorem Inflow.quantity_nonneg (inflow : Inflow) : 0 ≤ inflow.quantity := by
  cases inflow with
  | receive received unitCost => exact Int.le_of_lt received.positive
  | bringIn quantity cost => exact Int.natCast_nonneg quantity

/-- `(quantity × cost + received × incoming cost) / (quantity + received)`. -/
def averaged (quantity : Int) (cost : ℚ) (received : Int) (unitCost : ℚ) : ℚ :=
  (quantity * cost + received * unitCost) / (quantity + received)

/-- The row afterwards; `keep` is what the column keeps of a quotient. -/
def Inflow.into (keep : ℚ → ℚ) (inflow : Inflow) : Option Shelf → Shelf
  | none => ⟨inflow.quantity, inflow.unitCost, inflow.quantity_nonneg⟩
  | some shelf =>
      { quantity := shelf.quantity + inflow.quantity
        cost := match inflow with
          | .receive received unitCost =>
              keep (averaged shelf.quantity shelf.cost received.value unitCost)
          | .bringIn _ _ => shelf.cost
        nonneg := Int.add_nonneg shelf.nonneg inflow.quantity_nonneg }

def exactly (quotient : ℚ) : ℚ := quotient

def cents (quotient : ℚ) : ℚ := (round quotient : Int)

def Stores (db : Db) (key : Id × Id × Id) (row : Option Shelf) : Prop :=
  (db.stockItems.find? key).map (fun item => (item.quantity, (item.cost : ℚ))) =
    row.map (fun shelf => (shelf.quantity, shelf.cost))

theorem floor_div (numerator denominator : Int) (positive : 0 < denominator) :
    ⌊(numerator / denominator : ℚ)⌋ = numerator / denominator := by
  obtain ⟨n, rfl⟩ := Int.eq_ofNat_of_zero_le (Int.le_of_lt positive)
  exact Rat.floor_intCast_div_natCast numerator n

theorem weightedCost_eq (quantity cost received unitCost : Int)
    (stocked : 0 < quantity + received) :
    (weightedCost quantity cost received unitCost : ℚ) =
      cents (averaged quantity cost received unitCost) := by
  have positive : (quantity + received : ℚ) ≠ 0 := by exact_mod_cast stocked.ne'
  have half : averaged quantity cost received unitCost + 1 / 2 =
      ((2 * (quantity * cost + received * unitCost) + (quantity + received) : Int) /
        (2 * (quantity + received) : Int) : ℚ) := by
    unfold averaged
    push_cast
    field_simp
  unfold cents weightedCost
  rw [round_eq, half, floor_div _ _ (by omega)]

section Statements

variable (companyId productId branchId : Id) (db db' : Db) (row : Option Shelf)
  (stored : Stores db (companyId, productId, branchId) row)

include stored

/-- What receiving leaves on the row, rounded to cents. -/
theorem receiveQuantityAtCost_into (received : Count) (unitCost : Int) (priceIfNew : Option Int)
    (done : receiveQuantityAtCost companyId productId branchId received.value unitCost priceIfNew
      db = .ok db') :
    Stores db' (companyId, productId, branchId)
      (some ((Inflow.receive received unitCost).into cents row)) := by
  have positive := received.positive
  unfold receiveQuantityAtCost at done
  rw [if_neg (by omega)] at done
  unfold Stores at stored ⊢
  split at done
  · next item found =>
    rw [found] at stored
    cases row with
    | none => cases stored
    | some shelf =>
        simp only [Option.map_some, Option.some.injEq, Prod.mk.injEq] at stored
        obtain ⟨quantity, cost⟩ := stored
        dsimp only at done
        split at done
        · cases done
        · cases done
          have after := Table.find?_update_of_found db.stockItems (companyId, productId, branchId)
            (fun item => { item with
              cost := weightedCost item.quantity item.cost received.value unitCost
              quantity := item.quantity + received.value })
            (fun _ => rfl) (companyId, productId, branchId) item found
          rw [if_pos rfl] at after
          refine (congrArg (Option.map _) after).trans ?_
          have stocked : 0 < item.quantity + received.value := by
            have nonneg := shelf.nonneg
            omega
          simp only [Option.map_some, Inflow.into, Inflow.quantity, ← quantity, ← cost,
            weightedCost_eq _ _ _ _ stocked]
  · next missing =>
    rw [missing] at stored
    cases row with
    | some shelf => cases stored
    | none =>
        split at done
        · cases done
        · next stockItems inserted =>
          cases done
          dsimp only
          rw [Table.find?_insert _ _ _ inserted]
          simp [StockItem.key, Inflow.into, Inflow.quantity, Inflow.unitCost]

theorem mergeStock_into (keep : ℚ → ℚ) (quantity : Nat) (cost : Int)
    (done : Imports.mergeStock companyId productId branchId quantity cost db = .ok db') :
    Stores db' (companyId, productId, branchId)
      (some ((Inflow.bringIn quantity cost).into keep row)) := by
  unfold Stores at stored ⊢
  cases Imports.mergeStock_ok _ _ _ _ _ _ _ done with
  | more item found kept =>
      rw [found] at stored
      cases row with
      | none => cases stored
      | some shelf =>
          simp only [Option.map_some, Option.some.injEq, Prod.mk.injEq] at stored
          obtain ⟨before, worth⟩ := stored
          rw [Table.find?_update, if_pos rfl, found]
          simp [Inflow.into, Inflow.quantity, before, worth]
  | new stockItems missing inserted =>
      rw [missing] at stored
      cases row with
      | some shelf => cases stored
      | none =>
          rw [Table.find?_insert _ _ _ inserted]
          simp [StockItem.key, Inflow.into, Inflow.quantity, Inflow.unitCost]

end Statements

def threeLeft : Db where
  stockItems := ⟨[⟨10, 3, 1, 3, 500, none, 0, 0⟩], List.nodup_singleton _⟩

/-- Four at 6.00 come to three at 5.00: a seventh of 39.00 is 5.57. -/
theorem receiveQuantityAtCost_into_rounded : ∃ db',
    receiveQuantityAtCost 10 3 1 4 600 none threeLeft = .ok db' ∧
      Stores db' (10, 3, 1)
        (some ((Inflow.receive ⟨4, by decide⟩ 600).into cents (some ⟨3, 500, by decide⟩))) ∧
      (db'.stockItems.find? (10, 3, 1)).map (fun item => (item.quantity, item.cost)) =
        some (7, 557) := by
  refine ⟨_, rfl, ?_, by decide⟩
  exact receiveQuantityAtCost_into 10 3 1 threeLeft _ (some ⟨3, 500, by decide⟩)
    (by simp [Stores, threeLeft, Table.find?, StockItem.key]) ⟨4, by decide⟩ 600 none rfl

def Inflow.Averages : Inflow → Option Shelf → Prop
  | .receive _ _, _ => True
  | .bringIn _ _, none => True
  | .bringIn quantity cost, some shelf => quantity = 0 ∨ shelf.cost = cost

theorem averaged_value (quantity : Int) (cost : ℚ) (received : Int) (unitCost : ℚ)
    (stocked : 0 < quantity + received) :
    ((quantity + received : Int) : ℚ) * averaged quantity cost received unitCost =
      quantity * cost + received * unitCost := by
  have positive : (quantity + received : ℚ) ≠ 0 := by exact_mod_cast stocked.ne'
  unfold averaged
  push_cast
  field_simp

theorem inflow_value_iff (inflow : Inflow) (row : Option Shelf) :
    (inflow.into exactly row).value = valueOf row + inflow.quantity * inflow.unitCost ↔
      inflow.Averages row := by
  cases row with
  | none =>
      cases inflow with
      | receive received unitCost => simp [Inflow.into, Shelf.value, valueOf, Inflow.Averages]
      | bringIn quantity cost => simp [Inflow.into, Shelf.value, valueOf, Inflow.Averages]
  | some shelf =>
      cases inflow with
      | receive received unitCost =>
          have stocked : 0 < shelf.quantity + received.value := by
            have nonneg := shelf.nonneg
            have positive := received.positive
            omega
          have value := averaged_value shelf.quantity shelf.cost received.value unitCost stocked
          simpa [Inflow.into, Inflow.quantity, Inflow.unitCost, Shelf.value, valueOf,
            Inflow.Averages, exactly] using value
      | bringIn quantity cost =>
          simp only [Inflow.into, Inflow.quantity, Inflow.unitCost, Shelf.value, valueOf,
            Inflow.Averages, Option.map_some, Option.getD_some, Int.cast_add, Int.cast_natCast]
          constructor
          · intro same
            have product : (quantity : ℚ) * (shelf.cost - cost) = 0 := by linarith
            rcases mul_eq_zero.mp product with none | equal
            · left
              exact_mod_cast none
            · right
              linarith
          · intro averages
            rcases averages with rfl | rfl
            · simp
            · ring

def cables : Shelf := ⟨20, 500, by decide⟩

theorem dearer_cables_dropped :
    ¬ ∀ (inflow : Inflow) (row : Option Shelf),
      (inflow.into exactly row).value = valueOf row + inflow.quantity * inflow.unitCost := by
  intro claim
  have value := claim (.bringIn 50 800) (some cables)
  norm_num [Inflow.into, Inflow.quantity, Inflow.unitCost, Shelf.value, valueOf, cables] at value

end ErpBackend.Inventory
