import ErpBackend.Returns.Refunds

/-!
# What the statements of a return do
-/

namespace ErpBackend.Returns

open Foundation Inventory

theorem findReturn_some (db : Db) (companyId branchId id : Id) (loaded : LoadedReturn) :
    findReturn db companyId branchId id = some loaded ↔
      db.returnRequests.find? id = some loaded.request ∧
      loaded.request.companyId = companyId ∧ loaded.request.branchId = branchId ∧
      db.saleItems.find? loaded.request.saleItemId = some loaded.saleItem ∧
      db.units.find? loaded.request.unitId = some loaded.unit := by
  unfold findReturn
  constructor
  · intro found
    obtain ⟨request, stored, found⟩ := Option.bind_eq_some_iff.mp found
    obtain ⟨saleItem, listed, found⟩ := Option.bind_eq_some_iff.mp found
    obtain ⟨unit, kept, found⟩ := Option.bind_eq_some_iff.mp found
    cases found
    obtain ⟨present, scope⟩ := Option.filter_eq_some_iff.mp stored
    obtain ⟨company, branch⟩ := of_decide_eq_true scope
    exact ⟨present, company, branch, listed, kept⟩
  · rintro ⟨present, company, branch, listed, kept⟩
    simp [present, Option.filter_some, company, branch, listed, kept]

theorem ensures_detail (first : Lookup RefundPayout) (ctx : Ctx) (id : Id) (db : Db) :
    Prog.Ensures (detail first ctx id) (fun db' _ => db' = db) db := by
  unfold detail load
  simp only [Prog.ensures_expect, Prog.ensures_read, Prog.ensures_pure, Prog.bind_assoc,
    implies_true, and_self]

theorem grants_detail (first : Lookup RefundPayout) (ctx : Ctx) (id branchId : Id) (db : Db)
    (loaded : LoadedReturn) (branch : ctx.branchId = some branchId)
    (found : findReturn db ctx.companyId branchId id = some loaded) :
    Prog.Grants (detail first ctx id) db db := by
  unfold detail load
  apply Prog.grants_expect _ _ branchId _ branch
  rw [Prog.bind_assoc]
  apply Prog.grants_read
  apply Prog.grants_expect _ _ loaded _ found
  apply Prog.grants_read
  apply Prog.grants_read
  apply Prog.grants_read
  exact ⟨rfl, _, rfl⟩

theorem swapRequest_ok (companyId id : Id) (expectedVersion : Nat)
    (status : Option ReturnStatus) (f : ReturnRequest → ReturnRequest) (db db' : Db) :
    swapRequest companyId id expectedVersion status f db = .ok db' ↔
      ∃ row, db.returnRequests.find? id = some row ∧ row.companyId = companyId ∧
        row.version = expectedVersion ∧ (∀ expected ∈ status, row.status = expected) ∧
        db' = { db with
          returnRequests := db.returnRequests.update id (bumped f) (bumped_id f) } := by
  unfold swapRequest
  constructor
  · intro done
    split at done
    · cases done
    · next returnRequests swapped =>
      cases done
      obtain ⟨row, found, passed, rfl⟩ := (Table.swap?_some _ _ _ _ _ _).mp swapped
      obtain ⟨company, version, expected⟩ := of_decide_eq_true passed
      exact ⟨row, found, company, version, by simpa [Option.all_eq_true] using expected, rfl⟩
  · rintro ⟨row, found, company, version, expected, rfl⟩
    have swapped := (Table.swap?_some db.returnRequests _ id (fun row =>
      row.companyId = companyId ∧ row.version = expectedVersion ∧
        status.all (fun expected => row.status = expected)) (bumped f) (bumped_id f)).mpr
      ⟨row, found, decide_eq_true ⟨company, version, by simpa [Option.all_eq_true] using expected⟩,
        rfl⟩
    rw [swapped]

theorem moveUnitForCustody_ok (companyId unitId : Id) (source target : UnitStatus) (db db' : Db)
    (done : moveUnitForCustody companyId unitId source target db = .ok db') :
    target ∈ unitTransitions source ∧ ∃ unit, db.units.find? unitId = some unit ∧
      unit.companyId = companyId ∧ unit.status = source ∧
      db' = { db with
        units := db.units.update unitId (fun unit => { unit with status := target })
          (fun _ => rfl) } := by
  unfold moveUnitForCustody at done
  obtain ⟨_, allowed, done⟩ := (except_bind_ok _ _ _).mp done
  unfold assertUnitTransition at allowed
  split at allowed
  · next legal =>
    split at done
    · cases done
    · next units swapped =>
      cases done
      obtain ⟨unit, found, passed, rfl⟩ := (Table.swap?_some _ _ _ _ _ _).mp swapped
      obtain ⟨company, status⟩ := of_decide_eq_true passed
      exact ⟨legal, unit, found, company, status, rfl⟩
  · cases allowed

theorem insertAdjustment_ok (row : ReturnAdjustment) (db db' : Db)
    (done : insertAdjustment row db = .ok db') :
    ∃ returnAdjustments, db.returnAdjustments.insert? row = some returnAdjustments ∧
      db' = { db with returnAdjustments } := by
  unfold insertAdjustment at done
  split_ifs at done
  exact Table.store_ok _ _ _ _ _ done

end ErpBackend.Returns
