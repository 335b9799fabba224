import ErpBackend.Expenses.Service

/-!
# What the statements of the expenses do
-/

namespace ErpBackend.Expenses

open Foundation Inventory

theorem findExpense_some (db : Db) (companyId id : Id) (row : Expense)
    (found : findExpense db companyId id = some row) :
    db.expenses.find? id = some row ∧ row.companyId = companyId := by
  obtain ⟨present, company⟩ := Option.filter_eq_some_iff.mp found
  exact ⟨present, of_decide_eq_true company⟩

theorem insertExpense_ok (row : Expense) (db db' : Db) (done : insertExpense row db = .ok db') :
    (∀ other ∈ db.expenses.rows, row.clientUuid.isSome → other.companyId = row.companyId →
      other.clientUuid ≠ row.clientUuid) ∧
      ∃ expenses, db.expenses.insert? row = some expenses ∧ db' = { db with expenses } := by
  obtain ⟨_, -, rest⟩ := (except_bind_ok _ _ _).mp done
  split at rest
  · cases rest
  · next unused =>
    split at rest
    · cases rest
    · next expenses inserted =>
      cases rest
      refine ⟨?_, expenses, inserted, rfl⟩
      intro other member keyed company same
      exact unused ⟨keyed, (Table.any_eq_true _ _).mpr
        ⟨other, member, decide_eq_true ⟨company, same⟩⟩⟩

theorem writeDecision_ok (ctx : Ctx) (id : Id) (expectedVersion : Nat) (f : Expense → Expense)
    (keep : ∀ row, (f row).id = row.id) (db db' : Db)
    (done : writeDecision ctx id expectedVersion f keep db = .ok db') :
    ∃ row, db.expenses.find? id = some row ∧ row.companyId = ctx.companyId ∧
      row.version = expectedVersion ∧ row.status = .reported ∧
      db' = { db with expenses := db.expenses.update id f keep } := by
  unfold writeDecision at done
  split at done
  · cases done
  · next expenses swapped =>
    obtain ⟨_, -, equal⟩ := (except_bind_ok _ _ _).mp done
    cases equal
    obtain ⟨row, found, guarded, rfl⟩ := (Table.swap?_some _ _ _ _ _ _).mp swapped
    simp only [decide_eq_true_eq] at guarded
    exact ⟨row, found, guarded.1, guarded.2.1, guarded.2.2, rfl⟩

end ErpBackend.Expenses
