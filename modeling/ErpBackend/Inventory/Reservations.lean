import ErpBackend.Inventory.Stock

/-!
# What is reserved

One account for both kinds of stock: a phone counts one while its status is
`reserved`, a stock row counts its `reserved_quantity`. Each statement of the
services moves the account by a known portion.
-/

namespace ErpBackend.Inventory

open Foundation

inductive Resource where
  | unit (id : Id)
  | stock (companyId productId branchId : Id)
  deriving DecidableEq

def portion (resource : Resource) (amount : Int) : Resource → Int :=
  fun other => if other = resource then amount else 0

variable (resource : Resource)

theorem portion_self (amount : Int) :
    portion resource amount resource = amount :=
  if_pos rfl

theorem portion_other (resource other : Resource) (amount : Int) (apart : other ≠ resource) :
    portion resource amount other = 0 :=
  if_neg apart

theorem portion_zero : portion resource 0 = 0 := by
  funext other
  simp [portion]

theorem portion_neg (amount : Int) :
    portion resource (-amount) = -portion resource amount := by
  funext other
  simp only [portion, Pi.neg_apply]
  split
  · rfl
  · rfl

theorem portion_nonneg (amount : Int) (nonneg : 0 ≤ amount)
    (other : Resource) : 0 ≤ portion resource amount other := by
  unfold portion
  split
  · exact nonneg
  · exact Int.le_refl 0

theorem sum_nonneg (parts : List (Resource → Int))
    (each : ∀ part ∈ parts, ∀ resource, 0 ≤ part resource) (resource : Resource) :
    0 ≤ parts.sum resource := by
  rw [Pi.list_sum_apply]
  apply List.sum_nonneg
  intro value member
  obtain ⟨part, present, rfl⟩ := List.mem_map.mp member
  exact each part present resource

theorem le_sum (parts : List (Resource → Int))
    (each : ∀ part ∈ parts, ∀ resource, 0 ≤ part resource) (part : Resource → Int)
    (member : part ∈ parts) (resource : Resource) : part resource ≤ parts.sum resource := by
  rw [Pi.list_sum_apply]
  apply List.single_le_sum
  · intro value inside
    obtain ⟨other, present, rfl⟩ := List.mem_map.mp inside
    exact each other present resource
  · exact List.mem_map_of_mem member

def marked (unit : StockUnit) : Int := if unit.status = .reserved then 1 else 0

def consigned (db : Db) (id : Id) : Bool :=
  (db.units.find? id).any (fun unit => unit.status = .consignedOut)

def reservedOf (db : Db) : Resource → Int
  | .unit id => ((db.units.find? id).map marked).getD 0
  | .stock companyId productId branchId =>
      ((db.stockItems.find? (companyId, productId, branchId)).map
        StockItem.reservedQuantity).getD 0

theorem reservedOf_congr (db db' : Db) (units : db'.units = db.units)
    (stock : db'.stockItems = db.stockItems) : reservedOf db' = reservedOf db := by
  funext resource
  cases resource with
  | unit id => simp only [reservedOf, units]
  | stock companyId productId branchId => simp only [reservedOf, stock]

variable (db : Db)

theorem reservedOf_unit_of_found (id : Id) (unit : StockUnit)
    (found : db.units.find? id = some unit) : reservedOf db (.unit id) = marked unit := by
  simp only [reservedOf, found, Option.map_some, Option.getD_some]

theorem reservedOf_update_unit (id : Id) (unit : StockUnit) (f : StockUnit → StockUnit)
    (keep : ∀ unit, (f unit).id = unit.id) (found : db.units.find? id = some unit) :
    reservedOf { db with units := db.units.update id f keep } =
      reservedOf db + portion (.unit id) (marked (f unit) - marked unit) := by
  funext resource
  cases resource with
  | stock companyId productId branchId =>
      rw [Pi.add_apply, portion_other _ _ _ (by simp), add_zero]
      rfl
  | unit other =>
      rw [Pi.add_apply]
      simp only [reservedOf, Table.find?_update]
      by_cases same : other = id
      · subst same
        rw [portion_self, if_pos rfl, found]
        simp only [Option.map_some, Option.getD_some]
        omega
      · rw [portion_other _ _ _ (by simpa using same), if_neg same, add_zero]

variable (companyId productId branchId : Id)

theorem reservedOf_update_stock (item : StockItem)
    (f : StockItem → StockItem) (keep : ∀ item, (f item).key = item.key)
    (found : db.stockItems.find? (companyId, productId, branchId) = some item) :
    reservedOf { db with
        stockItems := db.stockItems.update (companyId, productId, branchId) f keep } =
      reservedOf db + portion (.stock companyId productId branchId)
        ((f item).reservedQuantity - item.reservedQuantity) := by
  funext resource
  cases resource with
  | unit id =>
      rw [Pi.add_apply, portion_other _ _ _ (by simp), add_zero]
      rfl
  | stock company product branch =>
      rw [Pi.add_apply]
      simp only [reservedOf, Table.find?_update]
      by_cases same : (company, product, branch) = (companyId, productId, branchId)
      · cases same
        rw [portion_self, if_pos rfl, found]
        simp only [Option.map_some, Option.getD_some]
        omega
      · have apart : Resource.stock company product branch ≠
            .stock companyId productId branchId := by
          intro equal
          cases equal
          exact same rfl
        rw [portion_other _ _ _ apart, if_neg same, add_zero]

theorem nextNumber_ok (companyId branchId : Id) (kind : CounterKind) (db db' : Db) (seq : Nat)
    (done : nextNumber companyId branchId kind db = .ok (db', seq)) :
    ∃ branchCounters, db' = { db with branchCounters } := by
  unfold nextNumber at done
  split at done
  · cases done
    exact ⟨_, rfl⟩
  · split at done
    · cases done
    · cases done
      exact ⟨_, rfl⟩

/-- The `CHECK`s of `stock_items` hold of every row. -/
def Bounded (db : Db) : Prop :=
  ∀ item ∈ db.stockItems.rows,
    0 ≤ item.reservedQuantity ∧ item.reservedQuantity ≤ item.quantity

theorem Bounded.update {db : Db} (bounded : Bounded db) (companyId productId branchId : Id)
    (item : StockItem) (f : StockItem → StockItem) (keep : ∀ item, (f item).key = item.key)
    (found : db.stockItems.find? (companyId, productId, branchId) = some item)
    (own : 0 ≤ (f item).reservedQuantity ∧ (f item).reservedQuantity ≤ (f item).quantity) :
    Bounded { db with
      stockItems := db.stockItems.update (companyId, productId, branchId) f keep } := by
  intro row member
  rcases (Table.mem_update _ _ f keep row).mp member with ⟨present, -⟩ | ⟨old, same, rfl⟩
  · exact bounded row present
  · rw [found] at same
    cases same
    exact own

theorem checkStock_ok (item : StockItem) (checked : checkStock item = .ok ()) :
    0 ≤ item.reservedQuantity ∧ item.reservedQuantity ≤ item.quantity := by
  unfold checkStock at checked
  split_ifs at checked
  constructor <;> omega

/-- A statement, or several, that only touched stock rows, with what it did to
the account. -/
structure Restocked (db db' : Db) (change : Resource → Int) : Prop where
  frame : ∃ stockItems, db' = { db with stockItems }
  bounded : Bounded db → Bounded db'
  account : reservedOf db' = reservedOf db + change

namespace Restocked

theorem refl : Restocked db db 0 := ⟨⟨_, rfl⟩, id, (add_zero _).symm⟩

theorem cast {db db' : Db} {change change' : Resource → Int} (moved : Restocked db db' change)
    (same : change = change') : Restocked db db' change' :=
  same ▸ moved

theorem trans {db db' db'' : Db} {first second : Resource → Int}
    (earlier : Restocked db db' first) (later : Restocked db' db'' second) :
    Restocked db db'' (first + second) := by
  constructor
  · obtain ⟨_, equal⟩ := earlier.frame
    obtain ⟨stock, same⟩ := later.frame
    exact ⟨stock, by rw [same, equal]⟩
  · exact fun bounded => later.bounded (earlier.bounded bounded)
  · rw [later.account, earlier.account, add_assoc]

theorem update (item : StockItem)
    (f : StockItem → StockItem) (keep : ∀ item, (f item).key = item.key)
    (found : db.stockItems.find? (companyId, productId, branchId) = some item)
    (own : 0 ≤ (f item).reservedQuantity ∧ (f item).reservedQuantity ≤ (f item).quantity) :
    Restocked db { db with
        stockItems := db.stockItems.update (companyId, productId, branchId) f keep }
      (portion (.stock companyId productId branchId)
        ((f item).reservedQuantity - item.reservedQuantity)) where
  frame := ⟨_, rfl⟩
  bounded bounded := bounded.update companyId productId branchId item f keep found own
  account := reservedOf_update_stock db companyId productId branchId item f keep found

end Restocked

/-- A conditional statement on one stock row: no row matched, or the row changed
and passed the `CHECK`s. -/
theorem updateStock_ok (guard : StockItem → Bool)
    (f : StockItem → StockItem) (keep : ∀ item, (f item).key = item.key) (db db' : Db)
    (found : Bool)
    (done : updateStock companyId productId branchId guard f keep db = .ok (db', found)) :
    (found = false ∧ db' = db ∧ ∀ item,
      db.stockItems.find? (companyId, productId, branchId) = some item → guard item = false) ∨
    (found = true ∧ ∃ item,
      db.stockItems.find? (companyId, productId, branchId) = some item ∧ guard item = true ∧
      Restocked db db' (portion (.stock companyId productId branchId)
        ((f item).reservedQuantity - item.reservedQuantity))) := by
  unfold updateStock at done
  split at done
  · next missing =>
    cases done
    refine .inl ⟨rfl, rfl, fun item row => ?_⟩
    rw [row] at missing
    simpa using missing
  · next item matched =>
    obtain ⟨row, passed⟩ := Option.filter_eq_some_iff.mp matched
    split at done
    · cases done
    · next checked =>
      cases done
      exact .inr ⟨rfl, item, row, passed, Restocked.update db companyId productId branchId item f
        keep row (checkStock_ok (f item) checked)⟩

section Quantities

variable (companyId productId branchId : Id) (amount : Int) (db db' : Db)

theorem reserveQuantity_ok
    (done : reserveQuantity companyId productId branchId amount db = .ok (db', true)) :
    Restocked db db' (portion (.stock companyId productId branchId) amount) := by
  rcases updateStock_ok _ _ _ _ _ _ db db' true done with ⟨absent, -⟩ | ⟨-, item, -, -, moved⟩
  · cases absent
  · apply moved.cast
    congr 1
    dsimp only
    omega

theorem shipQuantity_ok
    (done : shipQuantity companyId productId branchId amount db = .ok (db', true)) :
    Restocked db db' (-portion (.stock companyId productId branchId) amount) := by
  rcases updateStock_ok _ _ _ _ _ _ db db' true done with ⟨absent, -⟩ | ⟨-, item, -, -, moved⟩
  · cases absent
  · apply moved.cast
    rw [← portion_neg]
    congr 1
    dsimp only
    omega

theorem releaseQuantity_ok (found : Bool) (nonneg : 0 ≤ amount)
    (covered : amount ≤ reservedOf db (.stock companyId productId branchId))
    (done : releaseQuantity companyId productId branchId amount db = .ok (db', found)) :
    Restocked db db' (-portion (.stock companyId productId branchId) amount) := by
  rcases updateStock_ok _ _ _ _ _ _ db db' found done with
    ⟨-, rfl, fails⟩ | ⟨-, item, -, -, moved⟩
  · have nothing : amount = 0 := by
      rcases row : db'.stockItems.find? (companyId, productId, branchId) with _ | item
      · simp only [reservedOf, row, Option.map_none, Option.getD_none] at covered
        omega
      · simp only [reservedOf, row, Option.map_some, Option.getD_some] at covered
        have fails := fails item row
        simp only [decide_eq_false_iff_not] at fails
        omega
    rw [nothing, portion_zero, neg_zero]
    exact .refl db'
  · apply moved.cast
    rw [← portion_neg]
    congr 1
    dsimp only
    omega

theorem receiveQuantityAtCost_ok (unitCost : Int) (priceIfNew : Option Int)
    (done : receiveQuantityAtCost companyId productId branchId amount unitCost priceIfNew db =
      .ok db') : Restocked db db' 0 := by
  unfold receiveQuantityAtCost at done
  split at done
  · cases done
  · next positive =>
    split at done
    · next item row =>
      dsimp only at done
      split at done
      · cases done
      · next checked =>
        cases done
        have moved := Restocked.update db companyId productId branchId item
          (fun item =>
            { item with
              cost := weightedCost item.quantity item.cost amount unitCost
              quantity := item.quantity + amount })
          (fun _ => rfl) row (checkStock_ok _ checked)
        apply moved.cast
        rw [sub_self, portion_zero]
    · next absent =>
      split at done
      · cases done
      · next stockItems inserted =>
        cases done
        refine ⟨⟨stockItems, rfl⟩, ?_, ?_⟩
        · intro bounded item member
          rw [(Table.insert?_some _ _ _ inserted).1, List.mem_append, List.mem_singleton] at member
          rcases member with old | rfl
          · exact bounded item old
          · constructor
            · exact Int.le_refl 0
            · show (0 : Int) ≤ amount
              omega
        · rw [add_zero]
          funext resource
          cases resource with
          | unit id => rfl
          | stock company product branch =>
              simp only [reservedOf, Table.find?_insert _ _ _ inserted]
              split
              · next same =>
                have key : (company, product, branch) = (companyId, productId, branchId) := same
                rw [key, absent]
                rfl
              · rfl

end Quantities

/-- Phones stay on the books of their company; only those `moved` change branch. -/
def Stands (moved : StockUnit → Prop) (db db' : Db) : Prop :=
  ∀ id unit, db.units.find? id = some unit →
    ∃ unit', db'.units.find? id = some unit' ∧ unit'.companyId = unit.companyId ∧
      (unit'.branchId = unit.branchId ∨ moved unit)

theorem Stands.refl {moved : StockUnit → Prop} (db db' : Db) (units : db'.units = db.units) :
    Stands moved db db' := by
  intro id unit found
  exact ⟨unit, by rw [units]; exact found, rfl, .inl rfl⟩

def Nobody (_ : StockUnit) : Prop := False

theorem Stands.trans {db db' db'' : Db} (first : Stands Nobody db db')
    (second : Stands Nobody db' db'') : Stands Nobody db db'' := by
  intro id unit found
  obtain ⟨unit', found', company', branch'⟩ := first id unit found
  obtain ⟨unit'', found'', company'', branch''⟩ := second id unit' found'
  refine ⟨unit'', found'', company''.trans company', .inl ?_⟩
  rcases branch' with same' | nobody
  · rcases branch'' with same'' | nobody
    · exact same''.trans same'
    · exact nobody.elim
  · exact nobody.elim

/-- Statements that only changed the status of phones, with what they did to the
account. -/
structure Relabelled (db db' : Db) (change : Resource → Int) : Prop where
  frame : ∃ units, db' = { db with units }
  stands : Stands Nobody db db'
  out : consigned db' = consigned db
  account : reservedOf db' = reservedOf db + change

namespace Relabelled

theorem refl : Relabelled db db 0 :=
  ⟨⟨_, rfl⟩, .refl db db rfl, rfl, (add_zero _).symm⟩

theorem trans {db db' db'' : Db} {first second : Resource → Int}
    (earlier : Relabelled db db' first) (later : Relabelled db' db'' second) :
    Relabelled db db'' (first + second) := by
  constructor
  · obtain ⟨_, equal⟩ := earlier.frame
    obtain ⟨units, same⟩ := later.frame
    exact ⟨units, by rw [same, equal]⟩
  · exact earlier.stands.trans later.stands
  · exact later.out.trans earlier.out
  · rw [later.account, earlier.account, add_assoc]

theorem cast {db db' : Db} {change change' : Resource → Int} (moved : Relabelled db db' change)
    (same : change = change') : Relabelled db db' change' :=
  same ▸ moved

theorem update (id : Id) (unit : StockUnit) (f : StockUnit → StockUnit)
    (keep : ∀ unit, (f unit).id = unit.id) (found : db.units.find? id = some unit)
    (company : (f unit).companyId = unit.companyId) (branch : (f unit).branchId = unit.branchId)
    (out : (f unit).status = .consignedOut ↔ unit.status = .consignedOut) :
    Relabelled db { db with units := db.units.update id f keep }
      (portion (.unit id) (marked (f unit) - marked unit)) where
  frame := ⟨_, rfl⟩
  stands := by
    intro other row present
    simp only [Table.find?_update]
    by_cases same : other = id
    · subst same
      rw [found] at present
      cases present
      exact ⟨f unit, by rw [if_pos rfl, found]; rfl, company, .inl branch⟩
    · exact ⟨row, by rw [if_neg same]; exact present, rfl, .inl rfl⟩
  out := by
    funext other
    simp only [consigned, Table.find?_update]
    by_cases same : other = id
    · subst same
      rw [if_pos rfl, found]
      simp [out]
    · rw [if_neg same]
  account := reservedOf_update_unit db id unit f keep found

theorem swap {db : Db} {id : Id} {guard : StockUnit → Bool} {f : StockUnit → StockUnit}
    {keep : ∀ unit, (f unit).id = unit.id} {units : Table StockUnit StockUnit.id}
    (done : db.units.swap? id guard f keep = some units) (source target : UnitStatus)
    (free : source ≠ .consignedOut ∧ target ≠ .consignedOut)
    (status : ∀ unit, guard unit = true → unit.status = source)
    (result : ∀ unit, (f unit).status = target ∧ (f unit).companyId = unit.companyId ∧
      (f unit).branchId = unit.branchId) :
    Relabelled db { db with units } (portion (.unit id)
      ((if target = .reserved then 1 else 0) - (if source = .reserved then 1 else 0))) := by
  obtain ⟨unit, found, passed, rfl⟩ := (Table.swap?_some _ _ _ _ _ _).mp done
  have out : (f unit).status = .consignedOut ↔ unit.status = .consignedOut := by
    rw [(result unit).1, status unit passed]
    exact ⟨fun same => absurd same free.2, fun same => absurd same free.1⟩
  apply (update db id unit f keep found (result unit).2.1 (result unit).2.2 out).cast
  unfold marked
  rw [(result unit).1, status unit passed]

end Relabelled

end ErpBackend.Inventory
