import ErpBackend.Corrections.Effects
import ErpBackend.Purchasing.Effects
import ErpBackend.Suppliers.Effects

/-!
# What moves what is owed

Every step of a purchase, a payment to a supplier or a correction leaves the books
of the suppliers alone, or makes one of four movements on them. `amends` says
whether reported payments may be split anew.
-/

namespace ErpBackend.Suppliers

open Foundation Purchasing

/-- The allocations of one payment: each to a purchase of the same supplier, together
the whole amount. -/
structure Allotted (db : Db) (row : SupplierSettlement)
    (added : List SupplierSettlementAllocation) : Prop where
  own : ∀ allocation ∈ added, allocation.settlementId = row.id ∧
    allocation.companyId = row.companyId ∧ 0 < allocation.amount ∧
    ∃ purchase, db.purchases.find? allocation.purchaseId = some purchase ∧
      purchase.companyId = row.companyId ∧ purchase.supplierId = row.supplierId
  total : (added.map SupplierSettlementAllocation.amount).sum = row.amount

/-- What a payment is, whatever is corrected about how it was made. -/
def settled (row : SupplierSettlement) : Id × Id × SettlementStatus × Int :=
  (row.companyId, row.supplierId, row.status, row.amount)

def refreshedTo (paid : Id → Int) (purchase : Purchase) : Purchase :=
  { purchase with
    amountPaid := paid purchase.id
    status := purchaseStatusOf purchase.total (paid purchase.id) }

@[simp]
theorem refreshedTo_id (paid : Id → Int) (purchase : Purchase) :
    (refreshedTo paid purchase).id = purchase.id := rfl

@[simp]
theorem refreshedTo_twice (paid : Id → Int) (purchase : Purchase) :
    refreshedTo paid (refreshedTo paid purchase) = refreshedTo paid purchase := rfl

/-- Nothing a supplier is owed is read from has changed, but for corrections, and no
payment that was corrected stands again. -/
structure Aside (db db' : Db) : Prop where
  suppliers : db'.suppliers = db.suppliers
  purchases : db'.purchases = db.purchases
  payments : db'.supplierPayments = db.supplierPayments
  settlements : db'.supplierSettlements = db.supplierSettlements
  allocations : db'.supplierSettlementAllocations = db.supplierSettlementAllocations
  corrected : ∀ id, corrected db id = true → corrected db' id = true

structure Reported (row : SupplierSettlement) (db db' : Db) : Prop where
  status : row.status = .reported
  positive : 0 < row.amount
  supplied : db.suppliers.find? row.supplierId ≠ none
  inserted : db.supplierSettlements.insert? row = some db'.supplierSettlements
  allocations : ∃ added, Allotted db row added ∧
    db'.supplierSettlementAllocations.rows = db.supplierSettlementAllocations.rows ++ added
  suppliers : db'.suppliers = db.suppliers
  purchases : db'.purchases = db.purchases
  payments : db'.supplierPayments = db.supplierPayments
  corrections : db'.financialCorrections = db.financialCorrections

structure Amended (row : SupplierSettlement) (db db' : Db) : Prop where
  found : db.supplierSettlements.find? row.id = some row
  status : row.status = .reported
  settlements : ∃ f keep, (∀ current, settled (f current) = settled current) ∧
    db'.supplierSettlements = db.supplierSettlements.update row.id f keep
  allocations : db'.supplierSettlementAllocations = db.supplierSettlementAllocations ∨
    ∃ added, Allotted db row added ∧ db'.supplierSettlementAllocations.rows =
      db.supplierSettlementAllocations.rows.filter (fun allocation =>
        ¬ (allocation.companyId = row.companyId ∧ allocation.settlementId = row.id)) ++ added
  suppliers : db'.suppliers = db.suppliers
  purchases : db'.purchases = db.purchases
  payments : db'.supplierPayments = db.supplierPayments
  corrections : db'.financialCorrections = db.financialCorrections

structure Confirmed (amends : Prop) (row : SupplierSettlement) (db db' : Db) : Prop where
  found : db.supplierSettlements.find? row.id = some row
  status : row.status = .reported
  settlements : ∃ ctx, db'.supplierSettlements =
    db.supplierSettlements.update row.id (confirmed ctx) (confirmed_id ctx)
  charged : Charged row.supplierId (-row.amount) db.suppliers db'.suppliers
  purchases : ∃ listed : List Id,
    db'.purchases.rows = db.purchases.rows.map (fun purchase =>
      if purchase.id ∈ listed then
        refreshedTo (paidTo db' (fun other => other.companyId = row.companyId)) purchase
      else purchase) ∧
    (¬ amends → ∀ allocation ∈ db.supplierSettlementAllocations.rows,
      allocation.settlementId = row.id → allocation.companyId = row.companyId →
        allocation.purchaseId ∈ listed) ∧
    (¬ amends → ∀ purchaseId ∈ listed, ∃ allocation ∈ db.supplierSettlementAllocations.rows,
      allocation.settlementId = row.id ∧ allocation.purchaseId = purchaseId)
  allocations : db'.supplierSettlementAllocations = db.supplierSettlementAllocations
  payments : db'.supplierPayments = db.supplierPayments
  corrections : db'.financialCorrections = db.financialCorrections

inductive Movement (amends : Prop) (db : Db) : Db → Prop
  | aside (db' : Db) (kept : Aside db db') : Movement amends db db'
  | buy (purchase : Purchase) (db' : Db) (bought : Bought purchase db db') :
      Movement amends db db'
  | report (row : SupplierSettlement) (db' : Db) (reported : Reported row db db') :
      Movement amends db db'
  | amend (row : SupplierSettlement) (db' : Db) (amending : amends)
      (amended : Amended row db db') : Movement amends db db'
  | confirm (row : SupplierSettlement) (db' : Db) (confirmed : Confirmed amends row db db') :
      Movement amends db db'

theorem Aside.refl (db : Db) : Aside db db :=
  ⟨rfl, rfl, rfl, rfl, rfl, fun _ corrected => corrected⟩

theorem Movement.refl (amends : Prop) (db : Db) : Movement amends db db :=
  .aside db (.refl db)

structure Onward (amends : Prop) (db db' : Db) : Prop where
  settlement : ∀ id row, db.supplierSettlements.find? id = some row →
    ∃ row', db'.supplierSettlements.find? id = some row' ∧ row'.companyId = row.companyId ∧
      row'.supplierId = row.supplierId ∧ row'.amount = row.amount
  allocations : ¬ amends → ∀ id, db.supplierSettlements.find? id ≠ none →
    allocationsOf db' id = allocationsOf db id
  purchase : ∀ id purchase, db.purchases.find? id = some purchase →
    ∃ purchase', db'.purchases.find? id = some purchase' ∧
      purchase'.companyId = purchase.companyId ∧
      purchase'.supplierId = purchase.supplierId ∧ purchase'.total = purchase.total

namespace Onward

variable {amends : Prop}

theorem refl (db : Db) : Onward amends db db where
  settlement := fun _ row found => ⟨row, found, rfl, rfl, rfl⟩
  allocations := fun _ _ _ => rfl
  purchase := fun _ purchase found => ⟨purchase, found, rfl, rfl, rfl⟩

theorem trans {db db' db'' : Db} (first : Onward amends db db') (second : Onward amends db' db'') :
    Onward amends db db'' where
  settlement := by
    intro id row found
    obtain ⟨row', found', company', supplier', amount'⟩ := first.settlement id row found
    obtain ⟨row'', found'', company'', supplier'', amount''⟩ := second.settlement id row' found'
    exact ⟨row'', found'', company''.trans company', supplier''.trans supplier',
      amount''.trans amount'⟩
  allocations := by
    intro fixed id present
    obtain ⟨row, found⟩ := Option.ne_none_iff_exists'.mp present
    obtain ⟨row', found', -⟩ := first.settlement id row found
    have kept := second.allocations fixed id (by simp [found'])
    exact kept.trans (first.allocations fixed id present)
  purchase := by
    intro id purchase found
    obtain ⟨purchase', found', company', supplier', total'⟩ := first.purchase id purchase found
    obtain ⟨purchase'', found'', company'', supplier'', total''⟩ :=
      second.purchase id purchase' found'
    exact ⟨purchase'', found'', company''.trans company', supplier''.trans supplier',
      total''.trans total'⟩

end Onward

theorem find?_of_rows_map {db db' : Db} (f : Purchase → Purchase)
    (keep : ∀ purchase, (f purchase).id = purchase.id)
    (rows : db'.purchases.rows = db.purchases.rows.map f) (id : Id) :
    db'.purchases.find? id = (db.purchases.find? id).map f := by
  have modified : db'.purchases = db.purchases.modify (fun _ => true) f keep := by
    apply Table.ext
    rw [rows, Table.modify_rows]
    simp
  rw [modified, Table.find?_modify]
  simp

theorem allocationsOf_append (db db' : Db) (added : List SupplierSettlementAllocation)
    (rows : db'.supplierSettlementAllocations.rows =
      db.supplierSettlementAllocations.rows ++ added) (id : Id)
    (apart : ∀ allocation ∈ added, allocation.settlementId ≠ id) :
    allocationsOf db' id = allocationsOf db id := by
  unfold allocationsOf Table.filter
  rw [rows, List.filter_append]
  have none_here : added.filter (fun allocation => allocation.settlementId = id) = [] := by
    rw [List.filter_eq_nil_iff]
    intro allocation member
    simpa using apart allocation member
  rw [none_here, List.append_nil]

theorem Movement.onward {amends : Prop} {db db' : Db} (moved : Movement amends db db') :
    Onward amends db db' := by
  cases moved with
  | aside _ kept =>
      refine ⟨?_, ?_, ?_⟩
      · intro id row found
        exact ⟨row, by rw [kept.settlements]; exact found, rfl, rfl, rfl⟩
      · intro _ id _
        unfold allocationsOf
        rw [kept.allocations]
      · intro id purchase found
        exact ⟨purchase, by rw [kept.purchases]; exact found, rfl, rfl, rfl⟩
  | buy purchase _ bought =>
      refine ⟨?_, ?_, ?_⟩
      · intro id row found
        exact ⟨row, by rw [bought.settlements]; exact found, rfl, rfl, rfl⟩
      · intro _ id _
        unfold allocationsOf
        rw [bought.allocations]
      · intro id other found
        exact ⟨other, Table.find?_insert_of_found _ _ _ bought.inserted id other found,
          rfl, rfl, rfl⟩
  | report row _ reported =>
      obtain ⟨added, allotted, rows⟩ := reported.allocations
      refine ⟨?_, ?_, ?_⟩
      · intro id other found
        exact ⟨other, Table.find?_insert_of_found _ _ _ reported.inserted id other found,
          rfl, rfl, rfl⟩
      · intro _ id present
        apply allocationsOf_append db db' added rows id
        intro allocation member own
        rw [(allotted.own allocation member).1] at own
        obtain ⟨-, fresh⟩ := Table.insert?_some _ _ _ reported.inserted
        exact present (own ▸ (Table.find?_none _ _).mpr fresh)
      · intro id purchase found
        exact ⟨purchase, by rw [reported.purchases]; exact found, rfl, rfl, rfl⟩
  | amend row _ amending amended =>
      obtain ⟨f, keep, same, settlements⟩ := amended.settlements
      refine ⟨?_, fun fixed => absurd amending fixed, ?_⟩
      · intro id other found
        rw [settlements, Table.find?_update_of_found _ _ _ _ _ _ found]
        have alike : settled (if id = row.id then f other else other) = settled other := by
          split
          · exact same other
          · rfl
        refine ⟨_, rfl, congrArg Prod.fst alike, ?_, ?_⟩
        · exact congrArg (fun parts => parts.2.1) alike
        · exact congrArg (fun parts => parts.2.2.2) alike
      · intro id purchase found
        exact ⟨purchase, by rw [amended.purchases]; exact found, rfl, rfl, rfl⟩
  | confirm row _ confirms =>
      obtain ⟨ctx, settlements⟩ := confirms.settlements
      obtain ⟨listed, rows, -⟩ := confirms.purchases
      refine ⟨?_, ?_, ?_⟩
      · intro id other found
        rw [settlements, Table.find?_update_of_found _ _ _ _ _ _ found]
        split
        · exact ⟨_, rfl, rfl, rfl, rfl⟩
        · exact ⟨_, rfl, rfl, rfl, rfl⟩
      · intro _ id _
        unfold allocationsOf
        rw [confirms.allocations]
      · intro id purchase found
        rw [find?_of_rows_map _ (fun purchase => by split <;> rfl) rows, found]
        refine ⟨_, rfl, ?_⟩
        dsimp only
        split
        · exact ⟨rfl, rfl, rfl⟩
        · exact ⟨rfl, rfl, rfl⟩

end ErpBackend.Suppliers
