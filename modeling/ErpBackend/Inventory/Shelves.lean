import ErpBackend.Inventory.Reservations

/-!
# What is on the shelves

Quantities of one branch, and of a company over all its branches. A statement
that puts goods on a shelf or takes them off moves both by the same amount.
-/

namespace ErpBackend.Inventory

open Foundation

def quantityAt (db : Db) (companyId productId branchId : Id) : Int :=
  ((db.stockItems.find? (companyId, productId, branchId)).map StockItem.quantity).getD 0

def onShelves (db : Db) (companyId productId : Id) : Int :=
  db.stockItems.total (fun item =>
    if item.companyId = companyId ∧ item.productId = productId then item.quantity else 0)

def ofProduct (productId : Id) (amount : Int) : Id → Int :=
  fun other => if other = productId then amount else 0

theorem ofProduct_neg (productId : Id) (amount : Int) :
    ofProduct productId (-amount) = -ofProduct productId amount := by
  funext other
  simp only [ofProduct, Pi.neg_apply]
  split
  · rfl
  · rfl

/-- Statements on the shelf of one branch, with what they did to it. -/
structure Shelved (companyId branchId : Id) (db db' : Db) (change : Id → Int) : Prop where
  shelf : ∀ productId, quantityAt db' companyId productId branchId =
    quantityAt db companyId productId branchId + change productId
  total : ∀ productId, onShelves db' companyId productId =
    onShelves db companyId productId + change productId
  others : ∀ company, company ≠ companyId → ∀ productId,
    onShelves db' company productId = onShelves db company productId
  elsewhere : ∀ company productId branch, (company, branch) ≠ (companyId, branchId) →
    db'.stockItems.find? (company, productId, branch) =
      db.stockItems.find? (company, productId, branch)

namespace Shelved

variable {companyId branchId : Id}

theorem congr {db db' start stop : Db} {change : Id → Int}
    (shelved : Shelved companyId branchId db db' change)
    (before : start.stockItems = db.stockItems) (after : stop.stockItems = db'.stockItems) :
    Shelved companyId branchId start stop change := by
  obtain ⟨shelf, total, others, elsewhere⟩ := shelved
  unfold quantityAt at shelf
  unfold onShelves at total others
  constructor
  · unfold quantityAt
    rw [before, after]
    exact shelf
  · unfold onShelves
    rw [before, after]
    exact total
  · unfold onShelves
    rw [before, after]
    exact others
  · rw [before, after]
    exact elsewhere

theorem refl (db : Db) : Shelved companyId branchId db db 0 :=
  ⟨fun _ => (add_zero _).symm, fun _ => (add_zero _).symm, fun _ _ _ => rfl, fun _ _ _ _ => rfl⟩

theorem cast {db db' : Db} {change change' : Id → Int}
    (shelved : Shelved companyId branchId db db' change) (same : change = change') :
    Shelved companyId branchId db db' change' :=
  same ▸ shelved

theorem trans {db db' db'' : Db} {first second : Id → Int}
    (earlier : Shelved companyId branchId db db' first)
    (later : Shelved companyId branchId db' db'' second) :
    Shelved companyId branchId db db'' (first + second) := by
  constructor
  · intro productId
    rw [later.shelf, earlier.shelf, Pi.add_apply, add_assoc]
  · intro productId
    rw [later.total, earlier.total, Pi.add_apply, add_assoc]
  · intro company apart productId
    rw [later.others company apart, earlier.others company apart]
  · intro company productId branch apart
    rw [later.elsewhere company productId branch apart,
      earlier.elsewhere company productId branch apart]

theorem update (db : Db) (productId : Id) (item : StockItem) (f : StockItem → StockItem)
    (keep : ∀ item, (f item).key = item.key)
    (found : db.stockItems.find? (companyId, productId, branchId) = some item) :
    Shelved companyId branchId db
      { db with stockItems := db.stockItems.update (companyId, productId, branchId) f keep }
      (ofProduct productId ((f item).quantity - item.quantity)) := by
  have keyed : item.companyId = companyId ∧ item.productId = productId := by
    have key := Table.key_of_find? _ _ _ found
    exact ⟨congrArg Prod.fst key, congrArg (fun key => key.2.1) key⟩
  have moved : (f item).companyId = companyId ∧ (f item).productId = productId := by
    have key := keep item
    exact ⟨(congrArg Prod.fst key).trans keyed.1,
      (congrArg (fun key => key.2.1) key).trans keyed.2⟩
  have totals : ∀ company product,
      onShelves { db with
        stockItems := db.stockItems.update (companyId, productId, branchId) f keep }
          company product +
        (if item.companyId = company ∧ item.productId = product then item.quantity else 0) =
      onShelves db company product +
        (if (f item).companyId = company ∧ (f item).productId = product then (f item).quantity
          else 0) :=
    fun company product => db.stockItems.total_update (companyId, productId, branchId) f keep
      (fun row => if row.companyId = company ∧ row.productId = product then row.quantity else 0)
      item found
  constructor
  · intro product
    simp only [quantityAt, Table.find?_update, ofProduct]
    by_cases same : product = productId
    · subst same
      rw [if_pos rfl, if_pos rfl, found]
      simp only [Option.map_some, Option.getD_some]
      omega
    · rw [if_neg (by simpa using same), if_neg same, add_zero]
  · intro product
    have own := totals companyId product
    simp only [keyed, moved, true_and] at own
    unfold ofProduct
    by_cases same : product = productId
    · subst same
      rw [if_pos rfl, if_pos rfl] at own
      rw [if_pos rfl]
      omega
    · rw [if_neg (Ne.symm same), if_neg (Ne.symm same)] at own
      rw [if_neg same]
      omega
  · intro company apart product
    have own := totals company product
    rw [if_neg (fun same => apart (same.1.symm.trans keyed.1)),
      if_neg (fun same => apart (same.1.symm.trans moved.1))] at own
    omega
  · intro company product branch apart
    rw [Table.find?_update, if_neg]
    intro same
    cases same
    exact apart rfl

theorem insert {db : Db} {item : StockItem} {stockItems : Table StockItem StockItem.key}
    (inserted : db.stockItems.insert? item = some stockItems)
    (absent : db.stockItems.find? item.key = none) (company : item.companyId = companyId)
    (branch : item.branchId = branchId) :
    Shelved companyId branchId db { db with stockItems }
    (ofProduct item.productId item.quantity) := by
  subst company branch
  have totals := fun company product => Table.total_insert _ _ item inserted (fun row =>
    if row.companyId = company ∧ row.productId = product then row.quantity else 0)
  constructor
  · intro product
    simp only [quantityAt, Table.find?_insert _ _ _ inserted, ofProduct]
    by_cases same : product = item.productId
    · subst same
      have own_key : (item.companyId, item.productId, item.branchId) = item.key := rfl
      rw [own_key, if_pos rfl, if_pos rfl, absent]
      simp
    · rw [if_neg (by simpa [StockItem.key] using same), if_neg same, add_zero]
  · intro product
    have own := totals item.companyId product
    simp only [true_and] at own
    unfold onShelves ofProduct
    rw [own]
    simp only [eq_comm]
  · intro company apart product
    have own := totals company product
    rw [if_neg (fun same => apart same.1.symm), add_zero] at own
    exact own
  · intro company product branch apart
    rw [Table.find?_insert _ _ _ inserted, if_neg]
    intro same
    cases same
    exact apart rfl

end Shelved

section Quantities

variable (companyId productId branchId : Id) (amount : Int) (db db' : Db)

theorem shipQuantity_shelved
    (done : shipQuantity companyId productId branchId amount db = .ok (db', true)) :
    Shelved companyId branchId db db' (-ofProduct productId amount) := by
  unfold shipQuantity updateStock at done
  split at done
  · cases done
  · next item matched =>
    split at done
    · cases done
    · cases done
      have row := (Option.filter_eq_some_iff.mp matched).1
      apply (Shelved.update db productId item _ _ row).cast
      rw [← ofProduct_neg]
      congr 1
      dsimp only
      omega

theorem receiveQuantityAtCost_shelved (unitCost : Int) (priceIfNew : Option Int)
    (done : receiveQuantityAtCost companyId productId branchId amount unitCost priceIfNew db =
      .ok db') : Shelved companyId branchId db db' (ofProduct productId amount) := by
  unfold receiveQuantityAtCost at done
  split at done
  · cases done
  · split at done
    · next item row =>
      dsimp only at done
      split at done
      · cases done
      · cases done
        apply (Shelved.update db productId item _ _ row).cast
        congr 1
        dsimp only
        omega
    · next absent =>
      split at done
      · cases done
      · next stockItems inserted =>
        cases done
        exact Shelved.insert inserted absent rfl rfl

end Quantities

end ErpBackend.Inventory
