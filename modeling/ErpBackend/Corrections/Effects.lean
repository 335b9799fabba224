import ErpBackend.Corrections.Service

/-!
# What a correction writes

A request adds one row. A decision moves an open request, once, and no two approved
corrections have one payout.
-/

namespace ErpBackend.Corrections

open Foundation Inventory

theorem insertCorrection_ok (row : FinancialCorrection) (db db' : Db)
    (done : insertCorrection row db = .ok db') :
    ∃ financialCorrections, db.financialCorrections.insert? row = some financialCorrections ∧
      db' = { db with financialCorrections } := by
  unfold insertCorrection at done
  split_ifs at done
  exact Table.store_ok _ _ _ _ _ done

theorem writeDecision_ok (ctx : Ctx) (id : Id) (expectedVersion : Nat)
    (status : CorrectionStatus) (db db' : Db)
    (done : writeDecision ctx id expectedVersion status db = .ok db') :
    ∃ row, db.financialCorrections.find? id = some row ∧ row.companyId = ctx.companyId ∧
      row.status = .requested ∧
      (status = .approved → targetTaken db .refundPayout (decided ctx status row) = false) ∧
      db' = { db with
        financialCorrections :=
          db.financialCorrections.update id (decided ctx status) (decided_id ctx status) } := by
  unfold writeDecision at done
  split at done
  · cases done
  · next financialCorrections swapped =>
    obtain ⟨row, found, passed, rfl⟩ := (Table.swap?_some _ _ _ _ _ _).mp swapped
    obtain ⟨company, -, requested⟩ := of_decide_eq_true passed
    have moved : (db.financialCorrections.update id (decided ctx status)
        (decided_id ctx status)).find? id = some (decided ctx status row) := by
      rw [Table.find?_update, if_pos rfl, found]
      rfl
    dsimp only at done
    rw [moved] at done
    split_ifs at done with fields payoutTaken settlementTaken
    cases done
    refine ⟨row, found, company, requested, fun approved => ?_, rfl⟩
    simpa [approved] using payoutTaken

theorem loadTarget_payout (db : Db) (companyId id : Id) (target : Target)
    (found : loadTarget db companyId .refundPayout id = some target)
    (confirmed : target.confirmed = true) :
    ∃ payout, db.refundPayouts.find? id = some payout ∧ payout.status = .confirmed ∧
      payout.companyId = companyId := by
  unfold loadTarget at found
  obtain ⟨payout, kept, rfl⟩ := Option.map_eq_some_iff.mp found
  obtain ⟨present, company⟩ := Option.filter_eq_some_iff.mp kept
  exact ⟨payout, present, of_decide_eq_true confirmed, of_decide_eq_true company⟩

theorem findCorrection_some (db : Db) (companyId id : Id) (correction : FinancialCorrection)
    (found : findCorrection db companyId id = some correction) :
    db.financialCorrections.find? id = some correction ∧ correction.companyId = companyId := by
  obtain ⟨present, company⟩ := Option.filter_eq_some_iff.mp found
  exact ⟨present, of_decide_eq_true company⟩

end ErpBackend.Corrections
